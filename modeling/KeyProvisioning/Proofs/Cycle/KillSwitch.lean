import KeyProvisioning.Proofs.Cycle.Exits
import KeyProvisioning.Proofs.Cycle.Keeping

/-!
# The kill switch

The server turns provisioning off by allowing for no keys on hand. A cycle then takes over that
policy and deletes all keys, and it does so in no other case. Nothing that happens afterwards,
neither a failed deletion nor the stop signal, gives such a cycle another outcome.
-/

namespace KeyProvisioning

/-- Whether a call goes to the custodian. -/
def Call.isCustodian : Call → Bool
  | generateCsr .. | generateKeyPair .. | poolStatus .. | provisionChain _ | deleteAllKeys
  | implementations => true
  | _ => false

/-- Whether a call has the store take over a policy of the server. -/
def Call.isAdoption : Call → Bool
  | updateSettings (.deviceConfig _) => true
  | _ => false

/-- The store is not the custodian. -/
theorem Call.isCustodian_of_isStore {call : Call} (h : call.isStore = true) :
    call.isCustodian = false := by
  cases call <;> first | rfl | cases h

namespace Cycle

variable {turns first body last : List Turn}

/-! ## Turns with the store -/

/-- In turns with the store no other call is made. -/
theorem not_mem_calls_of_isStore {call : Call} (hcall : call.isStore = false)
    (h : ∀ turn ∈ turns, turn.call.isStore = true) : call ∉ turns.map Turn.call := by
  intro hmem
  obtain ⟨turn, hturn, rfl⟩ := List.mem_map.mp hmem
  rw [h turn hturn] at hcall
  cases hcall

/-- A call that does not go to the store is made between turns with the store. -/
theorem mem_calls_between_iff {call : Call} (hcall : call.isStore = false) (body : List Turn)
    (hfirst : ∀ turn ∈ first, turn.call.isStore = true)
    (hlast : ∀ turn ∈ last, turn.call.isStore = true) :
    call ∈ (first ++ body ++ last).map Turn.call ↔ call ∈ body.map Turn.call := by
  simp only [List.map_append, List.mem_append, not_mem_calls_of_isStore hcall hfirst,
    not_mem_calls_of_isStore hcall hlast, false_or, or_false]

/-- What is asked of the custodian is asked between turns with the store. -/
theorem filter_isCustodian_between (body : List Turn)
    (hfirst : ∀ turn ∈ first, turn.call.isStore = true)
    (hlast : ∀ turn ∈ last, turn.call.isStore = true) :
    ((first ++ body ++ last).map Turn.call).filter Call.isCustodian =
      (body.map Turn.call).filter Call.isCustodian := by
  have hnone {turns : List Turn} (h : ∀ turn ∈ turns, turn.call.isStore = true) :
      (turns.map Turn.call).filter Call.isCustodian = [] := by
    apply List.filter_eq_nil_iff.mpr
    intro call hcall
    obtain ⟨turn, hturn, rfl⟩ := List.mem_map.mp hcall
    simp [Call.isCustodian_of_isStore (h turn hturn)]
  simp only [List.map_append, List.filter_append, hnone hfirst, hnone hlast, List.nil_append,
    List.append_nil]

/-! ## Turning provisioning off -/

/-- The server turns provisioning off in a cycle that loaded these settings, by which it was on. -/
def TurnsOff (before : Settings) (turns : List Turn) : Prop :=
  ⟨.loadSettings, .answered (.ok before)⟩ ∈ turns ∧ before.extraKeys ≠ 0 ∧
    ∃ response, Fetched before turns response ∧ response.config.extraKeys = some 0

/-- The turns of a cycle that has its settings and turns provisioning off. -/
def offTurns (before : Settings) (bytes : Bytes) (policy : DeviceConfig) (settings : Settings)
    (deletion : Except Fault UInt32) : List Turn :=
  [⟨.fetchKeys before.serverUrl, .answered (.ok bytes)⟩,
    ⟨.updateSettings (.deviceConfig policy), .answered (.ok settings)⟩,
    ⟨.deleteAllKeys, .answered deletion⟩]

/-- Provisioning that a policy turns off does not stay off. -/
theorem ne_zero_of_not_staysOff {before : Settings} {policy : DeviceConfig}
    (on : staysOff before policy = false) (zero : policy.extraKeys = some 0) :
    before.extraKeys ≠ 0 := by
  intro hbefore
  simp [staysOff, hbefore, zero] at on

/-- All keys are deleted after a late exit only where the policy turns provisioning off. -/
theorem LateExit.delete_not_mem {policy : DeviceConfig} {ending : Except Halt CycleOutcome}
    (h : LateExit policy turns ending) (nonzero : policy.extraKeys ≠ some 0) :
    .deleteAllKeys ∉ turns.map Turn.call ∧ ending ≠ .ok .disabled := by
  have hwork {work : List Turn} (provisions : ∀ turn ∈ work, Provisions turn.call) :
      .deleteAllKeys ∉ work.map Turn.call := by
    intro hmem
    obtain ⟨turn, hturn, hcall⟩ := List.mem_map.mp hmem
    have hprovisions := provisions turn hturn
    rw [hcall] at hprovisions
    exact hprovisions
  cases h with
  | deleted zero | deletionCrashed zero => exact absurd zero nonzero
  | replenished _ provisions => exact ⟨by simpa using hwork provisions, by simp⟩
  | notReplenished _ provisions => exact ⟨hwork provisions, by simp⟩
  | notReset _ provisions => exact ⟨by simpa using hwork provisions, by simp⟩

/-- A cycle that has its settings and in which taking over a policy does not fail is turned off,
or it deletes no keys. -/
theorem Exit.off_or_on {before : Settings} {ending : Except Halt CycleOutcome}
    (h : Exit before turns ending) (calm : ending ≠ .error none)
    (adopts : ∀ policy reply, ⟨.updateSettings (.deviceConfig policy), reply⟩ ∈ turns →
      reply.callEnd = .succeeded) :
    (before.extraKeys ≠ 0 ∧ ending = .ok .disabled ∧ ∃ bytes response settings deletion,
      KeyResponse.decode bytes = .ok response ∧ response.config.extraKeys = some 0 ∧
      turns = offTurns before bytes response.config settings deletion) ∨
    (.deleteAllKeys ∉ turns.map Turn.call ∧ ending ≠ .ok .disabled ∧
      ∀ response, before.extraKeys ≠ 0 → Fetched before turns response →
        response.config.extraKeys ≠ some 0) := by
  cases h with
  | stopped =>
    refine .inr ⟨by simp, by simp, fun response _ hfetched => ?_⟩
    exact absurd hfetched (not_fetched_nil response)
  | notFetched failure =>
    refine .inr ⟨by simp, by simp, fun response _ hfetched => ?_⟩
    exact absurd hfetched (not_fetched_of_failure failure response)
  | off decoded stays =>
    refine .inr ⟨by simp, by simp, fun response hbefore _ => ?_⟩
    simp [staysOff, hbefore] at stays
  | @notAdopted bytes response decoded on reply halt failed =>
    have hsucceeded := adopts response.config reply (by simp)
    obtain ⟨settings, rfl⟩ := Reply.exists_eq_of_succeeded hsucceeded
    cases failed
  | @adopted bytes response decoded on settings later ending rest =>
    by_cases hzero : response.config.extraKeys = some 0
    · left
      refine ⟨ne_zero_of_not_staysOff on hzero, ?_⟩
      cases rest with
      | deleted _ deletion =>
        exact ⟨rfl, bytes, response, settings, deletion, decoded, hzero, rfl⟩
      | deletionCrashed => exact absurd rfl calm
      | replenished nonzero | notReplenished nonzero | notReset nonzero =>
        exact absurd hzero nonzero
    · right
      obtain ⟨hdelete, houtcome⟩ := rest.delete_not_mem hzero
      refine ⟨by simpa using hdelete, houtcome, fun other _ hfetched => ?_⟩
      rw [← (rest.fetched_iff decoded _ _).1 hfetched]
      exact hzero

/-! ## The settings at the beginning -/

/-- A cycle has the settings that were loaded. -/
theorem Opening.eq_of_load_mem {before other : Settings} (h : Opening turns (.ok before))
    (hload : ⟨.loadSettings, .answered (.ok other)⟩ ∈ turns) : other = before := by
  cases h with
  | loaded =>
    rw [List.mem_singleton] at hload
    cases hload
    rfl
  | reset =>
    simp only [List.mem_cons, List.not_mem_nil, or_false] at hload
    rcases hload with hload | hload | hload
    · cases hload
    · cases hload
    · cases hload
      rfl

/-- The store holds the settings with which a cycle begins. -/
theorem Opening.stored_eq {σ : Type} {surroundings : Surroundings σ} {stored : σ → Settings}
    (keeps : surroundings.Keeps stored) {before : Settings} {state final : σ}
    (h : Opening turns (.ok before)) (path : surroundings.Path state turns final) :
    stored final = before := by
  cases h with
  | loaded =>
    cases path with
    | cons replied rest =>
      cases rest
      obtain ⟨rfl, hstored⟩ := keeps.load replied
      exact hstored
  | reset =>
    cases path with
    | cons _ rest =>
      cases rest with
      | cons _ rest =>
        cases rest with
        | cons replied rest =>
          cases rest
          obtain ⟨rfl, hstored⟩ := keeps.load replied
          exact hstored

/-- A cycle that has its settings does not load them again. -/
theorem Exit.load_not_mem {before other : Settings} {ending : Except Halt CycleOutcome}
    (h : Exit before turns ending) : ⟨.loadSettings, .answered (.ok other)⟩ ∉ turns := by
  cases h with
  | stopped | notFetched | off | notAdopted => simp
  | adopted decoded on settings rest =>
    intro hmem
    rw [List.mem_cons, List.mem_cons] at hmem
    rcases hmem with hmem | hmem | hmem
    · cases hmem
    · cases hmem
    · rcases rest.calls _ hmem with hprovisions | hcall | hcall
      · exact hprovisions
      · cases hcall
      · cases hcall

/-! ## The whole cycle -/

/-- A cycle that is not turned off before its end is not turned off by the handling of a fault. -/
theorem Aftermath.ne_disabled {config : Config} {value : Option CycleOutcome}
    {ending : Except Halt CycleOutcome} (h : Aftermath config turns value ending)
    (houtcome : ending ≠ .ok .disabled) : value ≠ some .disabled := by
  rcases ending with (_ | fault) | outcome
  · rw [h.2]
    simp
  · cases h <;> simp
  · rw [h.2]
    rintro ⟨⟩
    exact houtcome rfl

/-- The settings and the response of a cycle tell whether the server turns provisioning off. -/
theorem turnsOff_iff {config : Config} {before other : Settings} {opening body last : List Turn}
    {ending : Except Halt CycleOutcome} {value : Option CycleOutcome}
    (hopening : Opening opening (.ok before)) (hexit : Exit before body ending)
    (hlast : Aftermath config last value ending) :
    TurnsOff other (opening ++ body ++ last) ↔ other = before ∧ before.extraKeys ≠ 0 ∧
      ∃ response, Fetched before body response ∧ response.config.extraKeys = some 0 := by
  have hfetched (response : KeyResponse) :
      Fetched before (opening ++ body ++ last) response ↔ Fetched before body response :=
    fetched_append_iff hopening.isStore hlast.isStore
  constructor
  · rintro ⟨hload, hother, response, hresponse, hzero⟩
    rw [List.mem_append, List.mem_append] at hload
    rcases hload with (hload | hload) | hload
    · obtain rfl := hopening.eq_of_load_mem hload
      exact ⟨rfl, hother, response, (hfetched response).1 hresponse, hzero⟩
    · exact absurd hload hexit.load_not_mem
    · exact absurd hload (hlast.load_not_mem _)
  · rintro ⟨rfl, hother, response, hresponse, hzero⟩
    have hload := List.mem_append_left (body ++ last) hopening.load_mem
    rw [← List.append_assoc] at hload
    exact ⟨hload, hother, response, (hfetched response).2 hresponse, hzero⟩

/-- A cycle that turns provisioning off leaves it off for the store, and leaves the count of
failures alone. -/
theorem stored_of_off {σ : Type} {surroundings : Surroundings σ} {stored : σ → Settings}
    (keeps : surroundings.Keeps stored) {before settings : Settings} {opening : List Turn}
    {bytes : Bytes} {policy : DeviceConfig} {deletion : Except Fault UInt32} {state final : σ}
    (hopening : Opening opening (.ok before)) (zero : policy.extraKeys = some 0)
    (path : surroundings.Path state (opening ++ offTurns before bytes policy settings deletion)
      final) :
    (stored final).extraKeys = 0 ∧ (stored final).failures = before.failures := by
  obtain ⟨between, hfirst, hrest⟩ := path.split
  have hbetween : stored between = before := hopening.stored_eq keeps hfirst
  have hkeeping := keeps.keeping hrest (by simp [offTurns, Turn.Keeps, Call.isStore, Turn.event,
    Reply.callEnd])
  rw [hbetween] at hkeeping
  cases hkeeping with
  | other _ hupdate =>
    obtain ⟨-, hdelete⟩ := hupdate.eq_of_update
    have hfinal : stored final = before.withDeviceConfig policy :=
      hdelete.eq_of_others (by simp [Call.isStore])
    rw [hfinal]
    constructor
    · simp [Settings.withDeviceConfig, zero]
    · rfl

/-- Deleting the keys is all that is asked of the custodian by a cycle that turns provisioning
off. -/
theorem calls_of_off {before settings : Settings} {opening : List Turn} {bytes : Bytes}
    {policy : DeviceConfig} {deletion : Except Fault UInt32}
    (hopening : ∀ turn ∈ opening, turn.call.isStore = true) :
    let calls := (opening ++ offTurns before bytes policy settings deletion).map Turn.call
    calls.filter Call.isCustodian = [.deleteAllKeys] ∧
      ∀ base csr challenge, .sign base csr challenge ∉ calls := by
  intro calls
  have hnone : ∀ turn ∈ ([] : List Turn), turn.call.isStore = true := by simp
  have hcustodian := filter_isCustodian_between (offTurns before bytes policy settings deletion)
    hopening hnone
  have hcalls (call : Call) (hcall : call.isStore = false) :=
    mem_calls_between_iff hcall (offTurns before bytes policy settings deletion) hopening hnone
  rw [List.append_nil] at hcustodian hcalls
  constructor
  · exact hcustodian
  · intro base csr challenge hmem
    simpa [offTurns] using (hcalls _ rfl).mp hmem

/-- A cycle in which nothing crashes and taking over a policy does not fail is turned off by the
server and deletes all keys, or neither. -/
theorem run_off_or_on {σ : Type} (surroundings : Surroundings σ) (config : Config) (now : Nat)
    (state : σ) (calm : ((run config now).run surroundings state).value ≠ none)
    (adopts : ∀ event ∈ ((run config now).run surroundings state).events,
      event.call.isAdoption = true → event.callEnd = .succeeded) :
    let value := ((run config now).run surroundings state).value
    let turns := (run config now).turns surroundings state
    (∃ before opening bytes policy settings deletion, Opening opening (.ok before) ∧
      policy.extraKeys = some 0 ∧
      turns = opening ++ offTurns before bytes policy settings deletion ∧
      (∀ other, TurnsOff other turns ↔ other = before) ∧ value = some .disabled) ∨
    (.deleteAllKeys ∉ turns.map Turn.call ∧ (¬ ∃ before, TurnsOff before turns) ∧
      value ≠ some .disabled) := by
  intro value turns
  obtain ⟨ending, last, -, hgoes, hlast, hcourse⟩ :=
    run_course surroundings (fun _ _ => trivial) config now state
  have hturns : turns = (attempt config now).run.turns surroundings state ++ last := hcourse
  have hending : ending ≠ .error none := by
    rintro rfl
    exact calm hlast.2
  rcases attempt_exit hgoes with ⟨halt, hopening, rfl⟩ |
    ⟨before, opening, body, hopening, hexit, hbody⟩
  · refine .inr ⟨?_, ?_, hlast.ne_disabled (by simp)⟩
    · rw [hturns, List.map_append, List.mem_append, not_or]
      exact ⟨not_mem_calls_of_isStore rfl hopening.isStore,
        not_mem_calls_of_isStore rfl hlast.isStore⟩
    · rintro ⟨before, hload, -⟩
      rw [hturns, List.mem_append] at hload
      rcases hload with hload | hload
      · exact hopening.load_not_mem before hload
      · exact hlast.load_not_mem before hload
  · rw [hbody] at hturns
    have hoff (other : Settings) : TurnsOff other turns ↔ other = before ∧ before.extraKeys ≠ 0 ∧
        ∃ response, Fetched before body response ∧ response.config.extraKeys = some 0 := by
      rw [hturns]
      exact turnsOff_iff hopening hexit hlast
    have hadopts (policy : DeviceConfig) (reply : Reply Settings)
        (hmem : ⟨.updateSettings (.deviceConfig policy), reply⟩ ∈ body) :
        reply.callEnd = .succeeded := by
      have hturn : ⟨.updateSettings (.deviceConfig policy), reply⟩ ∈ turns := by
        rw [hturns]
        exact List.mem_append_left _ (List.mem_append_right _ hmem)
      rw [Dialogue.events_run] at adopts
      exact adopts _ (List.mem_map_of_mem hturn) rfl
    rcases hexit.off_or_on hending hadopts with
      ⟨hbefore, rfl, bytes, response, settings, deletion, hdecode, hzero, rfl⟩ |
      ⟨hdelete, houtcome, hon⟩
    · left
      obtain ⟨rfl, hended⟩ := hlast
      rw [List.append_nil] at hturns
      have hfetched : Fetched before
          (offTurns before bytes response.config settings deletion) response :=
        ⟨bytes, List.mem_cons_self, hdecode⟩
      refine ⟨before, opening, bytes, response.config, settings, deletion, hopening, hzero, hturns,
        fun other => ?_, hended⟩
      rw [hoff other]
      exact and_iff_left ⟨hbefore, response, hfetched, hzero⟩
    · refine .inr ⟨?_, ?_, hlast.ne_disabled houtcome⟩
      · rw [hturns, mem_calls_between_iff rfl _ hopening.isStore hlast.isStore]
        exact hdelete
      · rintro ⟨other, hother⟩
        obtain ⟨-, hbefore, response, hfetched, hzero⟩ := (hoff other).1 hother
        exact hon response hbefore hfetched hzero

/-- The kill switch. Unless something crashes or the policy cannot be taken over, all keys are
deleted if and only if the server turns provisioning off in a cycle with settings by which it was
on. Then they are deleted once and nothing else is asked of the custodian, nothing is signed,
provisioning is off for the store and for the scheduler, and the count of failures is left
alone. -/
theorem run_deletes_iff {σ : Type} (surroundings : Surroundings σ) (config : Config) (now : Nat)
    (state : σ)
    (calm : ((run config now).run surroundings state).value ≠ none)
    (adopts : ∀ event ∈ ((run config now).run surroundings state).events,
      event.call.isAdoption = true → event.callEnd = .succeeded) :
    let whole := (run config now).run surroundings state
    let turns := (run config now).turns surroundings state
    let calls := whole.events.map Event.call
    (.deleteAllKeys ∈ calls ↔ ∃ before, TurnsOff before turns) ∧
    (∀ before, TurnsOff before turns →
      calls.filter Call.isCustodian = [.deleteAllKeys] ∧
      (∀ base csr challenge, .sign base csr challenge ∉ calls) ∧
      whole.value = some .disabled ∧
      ∀ stored : σ → Settings, surroundings.Keeps stored →
        (stored whole.state).extraKeys = 0 ∧ (stored whole.state).failures = before.failures) ∧
    ((¬ ∃ before, TurnsOff before turns) → whole.value ≠ some .disabled) := by
  intro whole turns calls
  have hcalls : calls = turns.map Turn.call := by
    simp only [calls, whole, Dialogue.events_run, List.map_map]
    rfl
  rcases run_off_or_on surroundings config now state calm adopts with
    ⟨before, opening, bytes, policy, settings, deletion, hopening, hzero, hturns, hoff, hvalue⟩ |
    ⟨hdelete, hon, hvalue⟩
  · have hmade := hcalls.trans (congrArg (List.map Turn.call) hturns)
    have hdelete : .deleteAllKeys ∈ calls := by
      rw [hmade]
      simp [offTurns]
    have hbegan : ∃ before, TurnsOff before turns := ⟨before, (hoff before).2 rfl⟩
    refine ⟨iff_of_true hdelete hbegan, fun other hother => ?_, fun hnot => absurd hbegan hnot⟩
    obtain rfl := (hoff other).1 hother
    obtain ⟨hcustodian, hsign⟩ := calls_of_off hopening.isStore
    have hpath := Dialogue.path_run surroundings (run config now) state
    rw [hturns] at hpath
    rw [hmade]
    exact ⟨hcustodian, hsign, hvalue, fun stored keeps => stored_of_off keeps hopening hzero hpath⟩
  · rw [← hcalls] at hdelete
    exact ⟨iff_of_false hdelete hon, fun before hoff => absurd ⟨before, hoff⟩ hon, fun _ => hvalue⟩

/-- A server that allows for no keys on hand and during whose answer the stop signal is raised,
and a custodian that does not delete them. -/
def switchingOff : Surroundings Bool where
  reply
    | .fetchKeys _, _ => (.answered (.ok ([0x83, 0x80, 0x40, 0xA1, 0x78, 26] ++
        Utf8.encode "num_extra_attestation_keys".toList ++ [0])), true)
    | .deleteAllKeys, isStopped =>
      (.answered (.error (CustodianFault.deleteAllKeys : Fault)), isStopped)
    | .loadSettings, isStopped | .updateSettings _, isStopped =>
      (.answered (.ok .default), isStopped)
    | .clearSettings, isStopped => (.answered (.ok ()), isStopped)
    | _, isStopped => (.crashed, isStopped)
  isStopped isStopped := isStopped

/-- Neither a failed deletion nor the stop signal keeps a cycle from being turned off. -/
theorem run_switchingOff :
    let whole := (run .default 0).run switchingOff.withMemory (false, .new .default)
    .deleteAllKeys ∈ whole.events.map Event.call ∧ whole.state.1 = true ∧
    ∃ before, TurnsOff before
      ((run .default 0).turns switchingOff.withMemory (false, .new .default)) := by
  intro whole
  have hdelete : .deleteAllKeys ∈ whole.events.map Event.call := by decide +kernel
  refine ⟨hdelete, by decide +kernel, ?_⟩
  exact (run_deletes_iff switchingOff.withMemory .default 0 (false, .new .default)
    (by decide +kernel) (by decide +kernel)).1.1 hdelete

end Cycle

end KeyProvisioning
