import KeyProvisioning.Proofs.Cycle.Borders

/-!
# The exits of a cycle

A cycle that has its settings can be left before it takes over the server's policy and after. Its
exits are listed with the turns up to each of them. Between the policy and the reset of the count
of failures the store is not called.
-/

namespace KeyProvisioning.Cycle

variable {mayStop : Prop} {turns : List Turn}

/-- How a cycle is left once it has taken over a policy: with all keys deleted if the policy turns
provisioning off, else with all pools replenished, unless something fails. -/
inductive LateExit (policy : DeviceConfig) : List Turn → Except Halt CycleOutcome → Prop
  | deleted (zero : policy.extraKeys = some 0) (result : Except Fault UInt32) :
      LateExit policy [⟨.deleteAllKeys, .answered result⟩] (.ok .disabled)
  | deletionCrashed (zero : policy.extraKeys = some 0) :
      LateExit policy [⟨.deleteAllKeys, .crashed⟩] (.error none)
  | replenished (nonzero : policy.extraKeys ≠ some 0) {work : List Turn}
      (provisions : ∀ turn ∈ work, Provisions turn.call) (settings : Settings) :
      LateExit policy (work ++ [⟨.updateSettings .resetFailures, .answered (.ok settings)⟩])
        (.ok .completed)
  | notReplenished (nonzero : policy.extraKeys ≠ some 0) {work : List Turn}
      (provisions : ∀ turn ∈ work, Provisions turn.call) (halt : Halt) :
      LateExit policy work (.error halt)
  | notReset (nonzero : policy.extraKeys ≠ some 0) {work : List Turn}
      (provisions : ∀ turn ∈ work, Provisions turn.call) {reply : Reply Settings} {halt : Halt}
      (failed : reply.ending = .error halt) :
      LateExit policy (work ++ [⟨.updateSettings .resetFailures, reply⟩]) (.error halt)

/-- How a cycle is left that began with these settings. -/
inductive Exit (before : Settings) : List Turn → Except Halt CycleOutcome → Prop
  | stopped : Exit before [] (.error (some (.ofCause .cycleCancelled)))
  | notFetched {reply : Reply Bytes} {halt : Halt}
      (failure : Turn.failure ⟨.fetchKeys before.serverUrl, reply⟩ = some halt) :
      Exit before [⟨.fetchKeys before.serverUrl, reply⟩] (.error halt)
  | off {bytes : Bytes} {response : KeyResponse}
      (decoded : KeyResponse.decode bytes = .ok response)
      (stays : staysOff before response.config = true) :
      Exit before [⟨.fetchKeys before.serverUrl, .answered (.ok bytes)⟩] (.ok .completed)
  | notAdopted {bytes : Bytes} {response : KeyResponse}
      (decoded : KeyResponse.decode bytes = .ok response)
      (on : staysOff before response.config = false) {reply : Reply Settings} {halt : Halt}
      (failed : reply.ending = .error halt) :
      Exit before [⟨.fetchKeys before.serverUrl, .answered (.ok bytes)⟩,
        ⟨.updateSettings (.deviceConfig response.config), reply⟩] (.error halt)
  | adopted {bytes : Bytes} {response : KeyResponse}
      (decoded : KeyResponse.decode bytes = .ok response)
      (on : staysOff before response.config = false) (settings : Settings) {later : List Turn}
      {ending : Except Halt CycleOutcome} (rest : LateExit response.config later ending) :
      Exit before (⟨.fetchKeys before.serverUrl, .answered (.ok bytes)⟩ ::
        ⟨.updateSettings (.deviceConfig response.config), .answered (.ok settings)⟩ :: later)
        ending

/-- A store call that fails ends the cycle. -/
theorem ending_of_failure {call : Call} {reply : Reply call.Answer} {halt : Halt}
    (hstore : call.isStore = true) (h : Turn.failure ⟨call, reply⟩ = some halt) :
    reply.ending = .error halt := by
  rcases reply with (fault | answer) | _
  · cases call <;> cases hstore <;> cases h <;> rfl
  · cases call <;> cases hstore <;> cases h
  · cases h
    rfl

/-- A cycle that follows the plan for turning provisioning off or for replenishing the pools is
left by one of the late exits. -/
theorem lateExit_of_deleting {answers : Answers} {ending : Except Halt CycleOutcome}
    (zero : answers.response.config.extraKeys = some 0)
    (h : Follows mayStop [answers.deleting] turns (haltOf ending))
    (houtcome : ∀ outcome, ending = .ok outcome → outcome = .disabled) :
    LateExit answers.response.config turns ending := by
  rw [Answers.deleting] at h
  generalize hended : haltOf ending = ended at h
  cases h with
  | step fine tail =>
    cases tail
    obtain ⟨outcome, rfl⟩ := haltOf_eq_none_iff.mp hended
    rw [houtcome outcome rfl]
    exact .deleted zero answers.deletion
  | @failed _ _ reply _ halt failure =>
    rw [haltOf_eq_some_iff.mp hended]
    rcases reply with (fault | count) | _
    · cases failure
    · cases failure
    · cases failure
      exact .deletionCrashed zero
  | stopped _ guarded => cases guarded

theorem lateExit_of_provisioning {config : Config} {now : Nat} {settings : Settings}
    {base : String} {batches : List Batch} {answers : Answers} {ending : Except Halt CycleOutcome}
    (nonzero : answers.response.config.extraKeys ≠ some 0)
    (h : Follows mayStop (provisioning config now settings answers.response base batches ++
      [answers.resetting]) turns (haltOf ending))
    (houtcome : ∀ outcome, ending = .ok outcome → outcome = .completed) :
    LateExit answers.response.config turns ending := by
  have hprovisions {work : List Turn} {halt : Option Halt} (hwork : Follows mayStop
      (provisioning config now settings answers.response base batches) work halt) :
      ∀ turn ∈ work, Provisions turn.call := by
    intro turn hturn
    obtain ⟨planned, hmem, hcall⟩ := hwork.exists_mem turn hturn
    rw [← hcall]
    exact provisions_of_mem hmem
  rcases h.of_append with ⟨work, last, hwork, hlast, rfl⟩ | ⟨cut, hcut, hwork⟩
  · rw [Answers.resetting] at hlast
    generalize hended : haltOf ending = ended at hlast
    cases hlast with
    | step fine tail =>
      cases tail
      obtain ⟨outcome, rfl⟩ := haltOf_eq_none_iff.mp hended
      rw [houtcome outcome rfl]
      exact .replenished nonzero (hprovisions hwork) answers.final
    | failed failure =>
      rw [haltOf_eq_some_iff.mp hended]
      exact .notReset nonzero (hprovisions hwork) (ending_of_failure rfl failure)
    | stopped _ guarded => cases guarded
  · rw [haltOf_eq_some_iff.mp hcut]
    exact .notReplenished nonzero (hprovisions hwork) cut

/-- A cycle that follows its plan is left by one of the exits. -/
theorem exit_of_follows {config : Config} {now : Nat} {before : Settings} {answers : Answers}
    {ending : Except Halt CycleOutcome}
    (h : Follows mayStop (answers.plan config now before) turns (haltOf ending))
    (houtcome : ∀ outcome, ending = .ok outcome → outcome = answers.outcome before) :
    Exit before turns ending := by
  rw [answers.plan_eq_cons, Answers.fetching] at h
  rw [Answers.outcome] at houtcome
  generalize hended : haltOf ending = ended at h
  cases h with
  | step fine tail =>
    by_cases hoff : staysOff before answers.response.config = true
    · rw [if_pos hoff] at tail houtcome
      cases tail
      obtain ⟨outcome, rfl⟩ := haltOf_eq_none_iff.mp hended
      rw [houtcome outcome rfl]
      exact .off answers.decode_bytes hoff
    · have hon : staysOff before answers.response.config = false := Bool.eq_false_iff.mpr hoff
      rw [if_neg hoff, Answers.adopting] at tail
      rw [if_neg hoff] at houtcome
      cases tail with
      | step fine tail =>
        refine .adopted answers.decode_bytes hon answers.settings ?_
        rw [← hended] at tail
        by_cases hzero : answers.response.config.extraKeys = some 0
        · rw [if_pos hzero] at tail houtcome
          exact lateExit_of_deleting hzero tail houtcome
        · rw [if_neg hzero] at tail houtcome
          exact lateExit_of_provisioning hzero tail houtcome
      | failed failure =>
        rw [haltOf_eq_some_iff.mp hended]
        exact .notAdopted answers.decode_bytes hon (ending_of_failure rfl failure)
      | stopped _ guarded => cases guarded
  | failed failure =>
    rw [haltOf_eq_some_iff.mp hended]
    exact .notFetched failure
  | stopped =>
    rw [haltOf_eq_some_iff.mp hended]
    exact .stopped

/-- A cycle up to its first fault comes by its settings and is left by one of the exits, or it does
not come by its settings. -/
theorem attempt_exit {config : Config} {now : Nat} {ending : Except Halt CycleOutcome}
    (h : (attempt config now).Goes mayStop turns ending) :
    (∃ halt, Opening turns (.error halt) ∧ ending = .error halt) ∨
    ∃ before opening body, Opening opening (.ok before) ∧ Exit before body ending ∧
      turns = opening ++ body := by
  rcases attempt_course h with ⟨halt, hopening, he⟩ |
    ⟨before, opening, body, answers, hopening, hturns, hfollows, houtcome⟩
  · exact .inl ⟨halt, hopening, he⟩
  · exact .inr ⟨before, opening, body, hopening, exit_of_follows hfollows houtcome, hturns⟩

/-! ## The response -/

/-- The response that the server sent to a cycle which began with these settings. -/
def Fetched (before : Settings) (turns : List Turn) (response : KeyResponse) : Prop :=
  ∃ bytes, ⟨.fetchKeys before.serverUrl, .answered (.ok bytes)⟩ ∈ turns ∧
    KeyResponse.decode bytes = .ok response

/-- There is no other response than the one that was fetched once. -/
theorem fetched_cons_iff {before : Settings} {bytes : Bytes} {response other : KeyResponse}
    {later : List Turn} (decoded : KeyResponse.decode bytes = .ok response)
    (honce : ∀ reply, ⟨.fetchKeys before.serverUrl, reply⟩ ∉ later) :
    Fetched before (⟨.fetchKeys before.serverUrl, .answered (.ok bytes)⟩ :: later) other ↔
      response = other := by
  constructor
  · rintro ⟨bytes', hmem, hdecode⟩
    rcases List.mem_cons.mp hmem with hmem | hmem
    · cases hmem
      rw [decoded] at hdecode
      cases hdecode
      rfl
    · exact absurd hmem (honce _)
  · rintro rfl
    exact ⟨bytes, List.mem_cons_self, decoded⟩

/-- Without turns there is no response. -/
theorem not_fetched_nil {before : Settings} (response : KeyResponse) :
    ¬ Fetched before [] response := by
  rintro ⟨bytes, hmem, -⟩
  cases hmem

/-- A fetch that failed brings no response. -/
theorem not_fetched_of_failure {before : Settings} {reply : Reply Bytes} {halt : Halt}
    (failure : Turn.failure ⟨.fetchKeys before.serverUrl, reply⟩ = some halt)
    (response : KeyResponse) :
    ¬ Fetched before [⟨.fetchKeys before.serverUrl, reply⟩] response := by
  rintro ⟨bytes, hmem, hdecode⟩
  rw [List.mem_singleton] at hmem
  cases hmem
  simp [Turn.failure, Call.objection, hdecode] at failure

/-- No response comes from the store. -/
theorem fetched_append_iff {before : Settings} {first body last : List Turn}
    {response : KeyResponse} (hfirst : ∀ turn ∈ first, turn.call.isStore = true)
    (hlast : ∀ turn ∈ last, turn.call.isStore = true) :
    Fetched before (first ++ body ++ last) response ↔ Fetched before body response := by
  constructor
  · rintro ⟨bytes, hmem, hdecode⟩
    refine ⟨bytes, ?_, hdecode⟩
    rw [List.mem_append, List.mem_append] at hmem
    rcases hmem with (hmem | hmem) | hmem
    · cases hfirst _ hmem
    · exact hmem
    · cases hlast _ hmem
  · rintro ⟨bytes, hmem, hdecode⟩
    exact ⟨bytes, List.mem_append_left _ (List.mem_append_right _ hmem), hdecode⟩

/-- Once a policy is taken over, keys are provisioned or deleted and the count of failures is
reset. -/
theorem LateExit.calls {policy : DeviceConfig} {ending : Except Halt CycleOutcome}
    (h : LateExit policy turns ending) :
    ∀ turn ∈ turns, Provisions turn.call ∨ turn.call = .deleteAllKeys ∨
      turn.call = .updateSettings .resetFailures := by
  intro turn hturn
  cases h with
  | deleted | deletionCrashed =>
    rw [List.mem_singleton] at hturn
    subst hturn
    exact .inr (.inl rfl)
  | notReplenished _ provisions => exact .inl (provisions turn hturn)
  | replenished _ provisions | notReset _ provisions =>
    rw [List.mem_append, List.mem_singleton] at hturn
    rcases hturn with hturn | rfl
    · exact .inl (provisions turn hturn)
    · exact .inr (.inr rfl)

theorem LateExit.of_mem_calls {policy : DeviceConfig} {ending : Except Halt CycleOutcome}
    (h : LateExit policy turns ending) {call : Call} (hcall : call ∈ turns.map Turn.call) :
    Provisions call ∨ call = .deleteAllKeys ∨ call = .updateSettings .resetFailures := by
  obtain ⟨turn, hturn, rfl⟩ := List.mem_map.mp hcall
  exact h.calls turn hturn

/-- A cycle that has its settings asks for a response and takes over a policy before anything
else. -/
theorem Exit.of_mem_calls {before : Settings} {ending : Except Halt CycleOutcome}
    (h : Exit before turns ending) {call : Call} (hcall : call ∈ turns.map Turn.call) :
    call = .fetchKeys before.serverUrl ∨
      (∃ policy, call = .updateSettings (.deviceConfig policy)) ∨
      Provisions call ∨ call = .deleteAllKeys ∨ call = .updateSettings .resetFailures := by
  cases h with
  | stopped => cases hcall
  | notFetched | off => exact .inl (by simpa using hcall)
  | notAdopted =>
    simp only [List.map_cons, List.map_nil, List.mem_cons, List.not_mem_nil, or_false] at hcall
    rcases hcall with hcall | hcall
    · exact .inl hcall
    · exact .inr (.inl ⟨_, hcall⟩)
  | adopted decoded on settings rest =>
    rw [List.map_cons, List.map_cons, List.mem_cons, List.mem_cons] at hcall
    rcases hcall with hcall | hcall | hcall
    · exact .inl hcall
    · exact .inr (.inl ⟨_, hcall⟩)
    · exact .inr (.inr (rest.of_mem_calls hcall))

/-- A cycle that is left late has fetched one response. -/
theorem LateExit.fetched_iff {policy : DeviceConfig} {ending : Except Halt CycleOutcome}
    (h : LateExit policy turns ending) {before : Settings} {bytes : Bytes}
    {response other : KeyResponse} (decoded : KeyResponse.decode bytes = .ok response)
    (change : SettingsChange) (reply : Reply Settings) :
    Fetched before (⟨.fetchKeys before.serverUrl, .answered (.ok bytes)⟩ ::
      ⟨.updateSettings change, reply⟩ :: turns) other ↔ response = other := by
  apply fetched_cons_iff decoded
  intro reply hmem
  rcases List.mem_cons.mp hmem with hmem | hmem
  · cases hmem
  · rcases h.calls _ hmem with hprovisions | hcall | hcall
    · exact hprovisions
    · cases hcall
    · cases hcall

end KeyProvisioning.Cycle
