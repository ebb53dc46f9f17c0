import KeyProvisioning.Proofs.Cycle.Exits
import KeyProvisioning.Proofs.Cycle.Keeping

/-!
# The effect of a cycle on the settings

As long as the calls of the store succeed, the settings that a cycle leaves behind are those it
began with, with the policy it took over, if any, and with the count of failures set back or
raised. Only the reset after too many failures changes anything else.
-/

namespace KeyProvisioning.Cycle

variable {turns : List Turn}

/-- The server sent a policy that a cycle which began with these settings takes over: one that
does not leave provisioning off. -/
def Adopts (before : Settings) (turns : List Turn) (policy : DeviceConfig) : Prop :=
  ∃ response, Fetched before turns response ∧ response.config = policy ∧
    staysOff before policy = false

/-- The settings with a policy taken over, if there is one. -/
def withPolicy (before : Settings) (policy : Option DeviceConfig) : Settings :=
  policy.elim before before.withDeviceConfig

/-- The settings after a failure is counted: the defaults once there are too many. -/
def countingFailure (config : Config) (settings : Settings) : Settings :=
  if config.failureMaximum < settings.withFailure.failures then .default else settings.withFailure

/-- The settings that a cycle leaves behind which took over a policy, if any, and ended so. -/
def settingsAfter (config : Config) (before : Settings) (policy : Option DeviceConfig) :
    Except Fault CycleOutcome → Settings
  | .ok .completed =>
    match policy with
    | none => before
    | some policy => (before.withDeviceConfig policy).withoutFailures
  | .ok _ => withPolicy before policy
  | .error fault =>
    if fault.counted then countingFailure config (withPolicy before policy)
    else withPolicy before policy

/-- The outcome of a cycle that ended so up to its first fault. -/
def outcomeOf : Except Fault CycleOutcome → CycleOutcome
  | .ok outcome => outcome
  | .error _ => .rescheduleRequested

/-! ## The turns of a cycle -/

/-- A store that keeps settings does not fail. -/
theorem not_keeping_of_failed (call : Call) {reply : Reply call.Answer} {halt : Halt}
    {held final : Settings} (hmem : ⟨call, reply⟩ ∈ turns) (hstore : call.isStore = true)
    (failed : reply.ending = .error halt) : ¬ Keeping held turns final := by
  intro hkeeping
  have hsucceeded : reply.callEnd = .succeeded := hkeeping.keeps _ hmem hstore
  obtain ⟨answer, rfl⟩ := Reply.exists_eq_of_succeeded hsucceeded
  cases failed

/-- What a cycle that is left late does to the settings. -/
theorem LateExit.settings {policy : DeviceConfig} {ending : Except Halt CycleOutcome}
    {held final : Settings} (h : LateExit policy turns ending)
    (hkeeping : Keeping held turns final) :
    (final = match ending with
      | .ok .completed => held.withoutFailures
      | _ => held) ∧
    (ending = .ok .disabled → policy.extraKeys = some 0) := by
  have hothers {work : List Turn} (provisions : ∀ turn ∈ work, Provisions turn.call) :
      ∀ turn ∈ work, turn.call.isStore = false :=
    fun turn hturn => (provisions turn hturn).isStore_eq_false
  cases h with
  | deleted zero result =>
    refine ⟨hkeeping.eq_of_others ?_, fun _ => zero⟩
    simp [Call.isStore]
  | deletionCrashed zero =>
    refine ⟨hkeeping.eq_of_others ?_, by simp⟩
    simp [Call.isStore]
  | replenished nonzero provisions settings =>
    obtain ⟨between, hwork, hreset⟩ := hkeeping.of_append
    have hsame := hwork.eq_of_others (hothers provisions)
    subst hsame
    obtain ⟨_, hnil⟩ := hreset.eq_of_update
    cases hnil
    exact ⟨rfl, by simp⟩
  | notReplenished nonzero provisions halt =>
    exact ⟨hkeeping.eq_of_others (hothers provisions), by simp⟩
  | notReset nonzero provisions failed =>
    exact absurd hkeeping
      (not_keeping_of_failed (.updateSettings .resetFailures) (by simp) rfl failed)

/-- A cycle up to its first fault takes over the policy that it fetched and changes nothing else,
but for the count of failures at its very end. -/
theorem Exit.exists_policy {before mid : Settings} {ending : Except Halt CycleOutcome}
    (h : Exit before turns ending) (hkeeping : Keeping before turns mid) :
    ∃ policy : Option DeviceConfig, (∀ other, policy = some other ↔ Adopts before turns other) ∧
      (∀ config outcome, ending = .ok outcome →
        mid = settingsAfter config before policy (.ok outcome)) ∧
      (∀ halt, ending = .error halt → mid = withPolicy before policy) ∧
      (ending = .ok .disabled → ∃ other, policy = some other ∧ other.extraKeys = some 0) := by
  cases h with
  | stopped =>
    cases hkeeping
    refine ⟨none, fun other => ?_, by simp, fun _ _ => rfl, by simp⟩
    simp [Adopts, Fetched]
  | notFetched failure =>
    have hmid := hkeeping.eq_of_others (by simp [Call.isStore])
    refine ⟨none, fun other => ?_, by simp, fun _ _ => hmid, by simp⟩
    simp [Adopts, not_fetched_of_failure failure]
  | off decoded stays =>
    have hmid := hkeeping.eq_of_others (by simp [Call.isStore])
    refine ⟨none, fun other => ?_, fun config outcome he => ?_, by simp, by simp⟩
    · refine ⟨by simp, ?_⟩
      rintro ⟨response', hfetched, rfl, hon⟩
      obtain rfl := (fetched_cons_iff decoded fun _ => List.not_mem_nil).1 hfetched
      rw [stays] at hon
      cases hon
    · cases he
      exact hmid
  | @notAdopted bytes response decoded on reply halt failed =>
    exact absurd hkeeping
      (not_keeping_of_failed (.updateSettings (.deviceConfig response.config)) (by simp)
        rfl failed)
  | @adopted bytes response decoded on settings later ending rest =>
    cases hkeeping with
    | other _ hrest =>
      obtain ⟨-, hlater⟩ := hrest.eq_of_update
      obtain ⟨hmid, hdisabled⟩ := rest.settings hlater
      refine ⟨some response.config, fun other => ?_, fun config outcome he => ?_,
        fun halt he => ?_, fun he => ⟨response.config, rfl, hdisabled he⟩⟩
      · constructor
        · rintro ⟨⟩
          exact ⟨response, (rest.fetched_iff decoded _ _).2 rfl, rfl, on⟩
        · rintro ⟨response', hfetched, rfl, -⟩
          rw [(rest.fetched_iff decoded _ _).1 hfetched]
      · subst he
        rw [hmid]
        cases outcome <;> rfl
      · subst he
        exact hmid

/-! ## The end of a cycle -/

/-- A fault that is counted raises the count of failures, or resets the settings if there are too
many. Another one changes nothing. -/
theorem Closing.settings {config : Config} {fault : Fault} {value : Option CycleOutcome}
    {held final : Settings} (h : Closing config fault turns value)
    (hkeeping : Keeping held turns final) :
    final = if fault.counted then countingFailure config held else held := by
  cases h with
  | uncounted hcounted =>
    cases hkeeping
    simp [hcounted]
  | counted hcounted settings within =>
    obtain ⟨rfl, hnil⟩ := hkeeping.eq_of_update
    cases hnil
    rw [if_pos hcounted]
    exact (if_neg within).symm
  | reset hcounted settings above result =>
    obtain ⟨rfl, hclear⟩ := hkeeping.eq_of_update
    rw [if_pos hcounted, hclear.eq_of_clear]
    exact (if_pos above).symm
  | notCounted | crashed => cases hkeeping.keeps _ List.mem_cons_self rfl
  | resetCrashed => cases hkeeping.keeps _ (List.mem_cons_of_mem _ List.mem_cons_self) rfl

/-- A fault asks for another cycle. -/
theorem Closing.value_eq {config : Config} {fault : Fault} {value : Option CycleOutcome}
    (h : Closing config fault turns value) (hcalm : value ≠ none) :
    value = some .rescheduleRequested := by
  cases h with
  | uncounted | counted | reset | notCounted => rfl
  | crashed | resetCrashed => exact absurd rfl hcalm

/-! ## The whole cycle -/

/-- A store that does not fail has the settings of a cycle right away. -/
theorem Opening.settings {ending : Except Halt Settings} {held mid : Settings}
    (h : Opening turns ending) (hkeeping : Keeping held turns mid) :
    ending = .ok held ∧ mid = held := by
  have hload {fault : Fault} {later : List Turn} :
      ¬ Keeping held (⟨.loadSettings, .answered (.error fault)⟩ :: later) mid :=
    not_keeping_of_failed .loadSettings List.mem_cons_self rfl rfl
  cases h with
  | loaded settings =>
    obtain ⟨rfl, hmid⟩ := hkeeping.eq_of_load
    exact ⟨rfl, hmid⟩
  | notLoaded failed =>
    exact absurd hkeeping (not_keeping_of_failed .loadSettings List.mem_cons_self rfl failed)
  | reset | notCleared | notReloaded => exact absurd hkeeping hload

/-- The settings that a cycle leaves behind, if no call of the store fails and nothing crashes.
They follow from those at the beginning, from the policy taken over and from how the cycle ended
up to its first fault. Every fault asks for another cycle, and only a reset touches the window in
which keys count as expiring. -/
theorem run_settings {σ : Type} {surroundings : Surroundings σ} {stored : σ → Settings}
    (keeps : surroundings.Keeps stored) (config : Config) (now : Nat) (state : σ)
    (succeed : ∀ event ∈ ((run config now).run surroundings state).events,
      event.call.isStore = true → event.callEnd = .succeeded)
    (calm : ((run config now).run surroundings state).value ≠ none) :
    let whole := (run config now).run surroundings state
    let turns := (run config now).turns surroundings state
    ∃ result policy,
      ((attempt config now).run.run surroundings state).value = some result ∧
      whole.value = some (outcomeOf result) ∧
      stored whole.state = settingsAfter config (stored state) policy result ∧
      (∀ other, policy = some other ↔ Adopts (stored state) turns other) ∧
      (result = .ok .disabled → ∃ other, policy = some other ∧ other.extraKeys = some 0) ∧
      (.clearSettings ∉ whole.events.map Event.call →
        (stored whole.state).expiringByMillis = (stored state).expiringByMillis) := by
  intro whole turns
  have hevents : whole.events = turns.map Turn.event := Dialogue.events_run _ _ _
  have hkeeping : Keeping (stored state) turns (stored whole.state) := by
    apply keeps.keeping (Dialogue.path_run surroundings _ state)
    intro turn hturn
    apply succeed turn.event
    rw [hevents]
    exact List.mem_map_of_mem hturn
  have hwindow : .clearSettings ∉ whole.events.map Event.call →
      (stored whole.state).expiringByMillis = (stored state).expiringByMillis := by
    intro hreset
    apply hkeeping.expiringByMillis_eq
    rw [hevents, List.map_map] at hreset
    exact hreset
  obtain ⟨ending, last, hvalue, hgoes, hlast, hcourse⟩ :=
    run_course surroundings (fun _ _ => trivial) config now state
  have hturns : turns = (attempt config now).run.turns surroundings state ++ last := hcourse
  have hsplit := hkeeping
  rw [hturns] at hsplit
  obtain ⟨mid, hfirst, hend⟩ := hsplit.of_append
  rcases attempt_exit hgoes with ⟨halt, hopening, rfl⟩ |
    ⟨before, opening, body, hopening, hexit, hbody⟩
  · cases (hopening.settings hfirst).1
  · rw [hbody] at hfirst hturns
    obtain ⟨between, hopen, hrest⟩ := hfirst.of_append
    obtain ⟨he, rfl⟩ := hopening.settings hopen
    cases he
    obtain ⟨policy, hpolicy, hok, herror, hdisabled⟩ := hexit.exists_policy hrest
    have hadopts (other : DeviceConfig) :
        policy = some other ↔ Adopts (stored state) turns other := by
      rw [hpolicy other, hturns, Adopts, Adopts]
      simp only [fetched_append_iff hopening.isStore hlast.isStore]
    rcases ending with (_ | fault) | outcome
    · exact absurd hlast.2 calm
    · refine ⟨.error fault, policy, hvalue.symm, Closing.value_eq hlast calm, ?_, hadopts, by simp,
        hwindow⟩
      rw [Closing.settings hlast hend, herror _ rfl]
      rfl
    · obtain ⟨rfl, hended⟩ := hlast
      cases hend
      refine ⟨.ok outcome, policy, hvalue.symm, hended, hok config outcome rfl, hadopts, ?_,
        hwindow⟩
      rintro ⟨⟩
      exact hdisabled rfl

/-- A server that asks for three keys on hand, and a custodian that does not list its components,
for a reason without a name. -/
def refusing : Surroundings Unit where
  reply call _ :=
    (match call with
      | .fetchKeys _ => .answered (.ok ([0x83, 0x80, 0x40, 0xA1, 0x78, 26] ++
          Utf8.encode "num_extra_attestation_keys".toList ++ [3]))
      | .implementations => .answered (.error ⟨0x4FFFF, by decide⟩)
      | .loadSettings | .updateSettings _ => .answered (.ok .default)
      | .clearSettings => .answered (.ok ())
      | _ => .crashed, ())
  isStopped _ := false

/-- A refusal of the custodian is counted after the policy is taken over. -/
theorem run_settings_refusing :
    let final := ((run .default 0).run refusing.withMemory ((), .new .default)).state.2.settings
    final = { Settings.default with extraKeys := 3, failures := 1 } ∧
    ∃ result policy, final = settingsAfter .default .default policy result := by
  refine ⟨by decide +kernel, ?_⟩
  obtain ⟨result, policy, -, -, hsettings, -⟩ := run_settings refusing.keeps_withMemory .default 0
    ((), .new .default) (by decide +kernel) (by decide +kernel)
  exact ⟨result, policy, hsettings⟩

end KeyProvisioning.Cycle
