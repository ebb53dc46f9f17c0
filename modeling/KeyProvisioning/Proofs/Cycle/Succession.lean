import KeyProvisioning.Proofs.Cycle.KillSwitch
import KeyProvisioning.Proofs.Cycle.SettingsEffect

/-!
# Cycles one after another

The settings are all that passes from one cycle to the next. A report shows what is seen of a
cycle over a store whose calls succeed: the settings before and after it, its turns and its
outcome. Each cycle may have a server, a custodian, a clock and a stop signal of its own.
-/

namespace KeyProvisioning

/-- The response that a turn brings from the server at an address. -/
def Turn.received? (base : String) : Turn → Option KeyResponse
  | ⟨.fetchKeys other, .answered (.ok bytes)⟩ =>
    if other = base then (KeyResponse.decode bytes).toOption else none
  | _ => none

namespace Cycle

/-- A response is fetched if and only if a turn brings it. -/
theorem fetched_iff_exists_received {before : Settings} {turns : List Turn}
    {response : KeyResponse} :
    Fetched before turns response ↔
      ∃ turn ∈ turns, turn.received? before.serverUrl = some response := by
  constructor
  · rintro ⟨bytes, hmem, hdecode⟩
    refine ⟨_, hmem, ?_⟩
    simp [Turn.received?, hdecode, Except.toOption]
  · rintro ⟨turn, hmem, hreceived⟩
    rw [Turn.received?.eq_def] at hreceived
    split at hreceived
    · rename_i base bytes
      split at hreceived
      · rename_i hbase
        subst hbase
        cases hdecode : KeyResponse.decode bytes with
        | error fault =>
          rw [hdecode] at hreceived
          cases hreceived
        | ok other =>
          rw [hdecode] at hreceived
          cases hreceived
          exact ⟨bytes, hmem, hdecode⟩
      · cases hreceived
    · cases hreceived

/-! ## Reports -/

/-- What is seen of a cycle. -/
structure Report where
  /-- The settings stored when the cycle begins. -/
  before : Settings
  turns : List Turn
  /-- How the cycle ends, or nothing after a crash. -/
  outcome : Option CycleOutcome
  /-- The settings stored when the cycle is over. -/
  after : Settings

namespace Report

/-- The report of a cycle that is run from a state. -/
def ofRun {σ : Type} (surroundings : Surroundings σ) (stored : σ → Settings) (config : Config)
    (now : Nat) (state : σ) : Report where
  before := stored state
  turns := (run config now).turns surroundings state
  outcome := ((run config now).run surroundings state).value
  after := stored ((run config now).run surroundings state).state

/-- No call of the store fails in the cycle. -/
def Stores (report : Report) : Prop :=
  ∀ event ∈ report.turns.map Turn.event, event.call.isStore = true → event.callEnd = .succeeded

instance (report : Report) : Decidable report.Stores :=
  inferInstanceAs (Decidable (∀ event ∈ report.turns.map Turn.event, _ → _))

/-- A report of a cycle over a store that keeps settings and does not fail. -/
inductive IsCycle (config : Config) : Report → Prop
  | of_run {σ : Type} {surroundings : Surroundings σ} {stored : σ → Settings}
      (keeps : surroundings.Keeps stored) (now : Nat) (state : σ)
      (stores : (ofRun surroundings stored config now state).Stores) :
      IsCycle config (ofRun surroundings stored config now state)

/-- The calls of the cycle. -/
def calls (report : Report) : List Call :=
  report.turns.map Turn.call

/-- The server's response in this cycle is fetched and decoded. -/
def Receives (report : Report) (response : KeyResponse) : Prop :=
  Fetched report.before report.turns response

/-- The server allows for keys on hand. -/
def Enables (report : Report) : Prop :=
  ∃ response count, report.Receives response ∧ response.config.extraKeys = some count ∧ 0 < count

/-- The server allows for no keys on hand. -/
def Forbids (report : Report) : Prop :=
  ∃ response, report.Receives response ∧ response.config.extraKeys = some 0

/-- What holds of the response of a cycle can be told from its turns. -/
theorem any_received_iff (report : Report) (test : KeyResponse → Bool) :
    (∃ turn ∈ report.turns, (turn.received? report.before.serverUrl).any test) ↔
      ∃ response, report.Receives response ∧ test response := by
  simp only [Receives, fetched_iff_exists_received, Option.any_eq_true]
  constructor
  · rintro ⟨turn, hmem, response, hreceived, htest⟩
    exact ⟨response, ⟨turn, hmem, hreceived⟩, htest⟩
  · rintro ⟨response, ⟨turn, hmem, hreceived⟩, htest⟩
    exact ⟨turn, hmem, response, hreceived, htest⟩

instance (report : Report) : Decidable report.Enables :=
  decidable_of_iff _ <| (any_received_iff report fun response =>
    response.config.extraKeys.any (0 < ·)).trans <| by
      simp [Enables, Option.any_eq_true]

instance (report : Report) : Decidable report.Forbids :=
  decidable_of_iff _ <| (any_received_iff report fun response =>
    response.config.extraKeys = some 0).trans <| by
      simp [Forbids]

/-- The settings are reset. -/
def Resets (report : Report) : Prop :=
  .clearSettings ∈ report.calls

instance (report : Report) : Decidable report.Resets :=
  inferInstanceAs (Decidable (.clearSettings ∈ report.calls))

end Report

/-! ## The parts of a cycle -/

variable {turns : List Turn} {held mid : Settings}

/-- A store that does not fail has the settings of a cycle at the first call. -/
theorem Opening.eq_of_keeping {ending : Except Halt Settings} (h : Opening turns ending)
    (hkeeping : Keeping held turns mid) :
    turns = [⟨.loadSettings, .answered (.ok held)⟩] ∧ ending = .ok held ∧ mid = held := by
  obtain ⟨hending, hmid⟩ := h.settings hkeeping
  subst hending
  refine ⟨?_, rfl, hmid⟩
  cases h with
  | loaded => rfl
  | reset unusable settings =>
    exact absurd hkeeping (not_keeping_of_failed .loadSettings List.mem_cons_self rfl rfl)

/-- The settings are not reset before a fault is handled. -/
theorem Exit.clear_not_mem {before : Settings} {ending : Except Halt CycleOutcome}
    (h : Exit before turns ending) : .clearSettings ∉ turns.map Turn.call := by
  intro hmem
  rcases h.of_mem_calls hmem with hcall | ⟨policy, hcall⟩ | hprovisions | hcall | hcall
  · cases hcall
  · cases hcall
  · exact hprovisions
  · cases hcall
  · cases hcall

/-- A cycle loads its settings, follows its plan as far as an exit, and handles a fault. -/
structure Report.Parts (config : Config) (now : Nat) (report : Report) (answers : Answers)
    (body last : List Turn) (ending : Except Halt CycleOutcome) (mid : Settings) : Prop where
  turns_eq : report.turns =
    [⟨.loadSettings, .answered (.ok report.before)⟩] ++ body ++ last
  follows : Follows True (answers.plan config now report.before) body (haltOf ending)
  leaves : Exit report.before body ending
  handles : Aftermath config last report.outcome ending
  keeping : Keeping report.before body mid
  closing : Keeping mid last report.after

/-- Every cycle over a store that does not fail has these parts. -/
theorem Report.IsCycle.exists_parts {config : Config} {report : Report}
    (h : report.IsCycle config) :
    ∃ now answers body last ending mid, report.Parts config now answers body last ending mid := by
  cases h with
  | @of_run _ surroundings stored keeps now state stores =>
    have hkeeping := keeps.keeping (Dialogue.path_run surroundings (run config now) state)
      fun turn hturn => stores turn.event (List.mem_map_of_mem hturn)
    obtain ⟨ending, last, -, hgoes, hlast, hcourse⟩ :=
      run_course surroundings (fun _ _ => trivial) config now state
    rw [hcourse] at hkeeping
    obtain ⟨mid, hfirst, hclosing⟩ := hkeeping.of_append
    rcases attempt_course hgoes with ⟨halt, hopening, rfl⟩ |
      ⟨before, opening, body, answers, hopening, hbody, hfollows, houtcome⟩
    · cases (hopening.settings hfirst).1
    · rw [hbody] at hfirst hcourse
      obtain ⟨between, hopen, hrest⟩ := hfirst.of_append
      obtain ⟨rfl, hbefore, rfl⟩ := hopening.eq_of_keeping hopen
      cases hbefore
      exact ⟨now, answers, body, last, ending, mid, hcourse, hfollows,
        exit_of_follows hfollows houtcome, hlast, hrest, hclosing⟩

namespace Report.Parts

variable {config : Config} {now : Nat} {report : Report} {answers : Answers}
  {body last : List Turn} {ending : Except Halt CycleOutcome}

/-- The response of a cycle is fetched between the loading of the settings and the handling of a
fault. -/
theorem receives_iff (parts : report.Parts config now answers body last ending mid)
    {response : KeyResponse} : report.Receives response ↔ Fetched report.before body response := by
  rw [Receives, parts.turns_eq]
  exact fetched_append_iff (by simp [Call.isStore]) parts.handles.isStore

/-- A call that does not go to the store is made between the loading of the settings and the
handling of a fault. -/
theorem mem_calls_iff (parts : report.Parts config now answers body last ending mid) {call : Call}
    (hcall : call.isStore = false) : call ∈ report.calls ↔ call ∈ body.map Turn.call := by
  have hload : ∀ turn ∈ ([⟨.loadSettings, .answered (.ok report.before)⟩] : List Turn),
      turn.call.isStore = true := by
    simp [Call.isStore]
  rw [calls, parts.turns_eq]
  exact mem_calls_between_iff hcall body hload parts.handles.isStore

/-- Only the handling of a fault resets the settings. -/
theorem resets_iff (parts : report.Parts config now answers body last ending mid) :
    report.Resets ↔ .clearSettings ∈ last.map Turn.call := by
  rw [Resets, calls, parts.turns_eq, List.map_append, List.map_append, List.mem_append,
    List.mem_append]
  simp [parts.leaves.clear_not_mem]

/-- A policy is taken over between the loading of the settings and the handling of a fault. -/
theorem adopts_iff (parts : report.Parts config now answers body last ending mid)
    {policy : DeviceConfig} :
    Adopts report.before report.turns policy ↔ Adopts report.before body policy := by
  constructor
  · rintro ⟨response, hreceives, hpolicy⟩
    exact ⟨response, parts.receives_iff.mp hreceives, hpolicy⟩
  · rintro ⟨response, hfetched, hpolicy⟩
    exact ⟨response, parts.receives_iff.mpr hfetched, hpolicy⟩

end Report.Parts

/-! ## What a cycle does to the settings -/

/-- Up to its first fault a cycle takes over the policy that it fetched, and nothing else changes
but the count of failures. -/
theorem Exit.settings {before : Settings} {ending : Except Halt CycleOutcome}
    (h : Exit before turns ending) (hkeeping : Keeping before turns mid) :
    ∃ policy : Option DeviceConfig, (∀ other, policy = some other ↔ Adopts before turns other) ∧
      ∃ failures, mid = { withPolicy before policy with failures } := by
  obtain ⟨policy, hpolicy, hok, herror, -⟩ := h.exists_policy hkeeping
  refine ⟨policy, hpolicy, ?_⟩
  cases ending with
  | error halt => exact ⟨_, herror halt rfl⟩
  | ok outcome =>
    have hmid := hok .default outcome rfl
    cases outcome with
    | completed => cases policy <;> exact ⟨_, hmid⟩
    | rescheduleRequested | disabled => exact ⟨_, hmid⟩

/-- The handling of a fault resets the settings, or nothing changes but the count of failures. -/
theorem Aftermath.settings {config : Config} {outcome : Option CycleOutcome}
    {ending : Except Halt CycleOutcome} {final : Settings}
    (h : Aftermath config turns outcome ending) (hkeeping : Keeping held turns final) :
    (.clearSettings ∈ turns.map Turn.call → final = .default) ∧
      (.clearSettings ∉ turns.map Turn.call → ∃ failures, final = { held with failures }) := by
  rcases ending with (_ | fault) | outcome
  · obtain ⟨rfl, -⟩ := h
    cases hkeeping
    exact ⟨by simp, fun _ => ⟨_, rfl⟩⟩
  · cases h with
    | uncounted =>
      cases hkeeping
      exact ⟨by simp, fun _ => ⟨_, rfl⟩⟩
    | counted _ settings =>
      obtain ⟨-, hnil⟩ := hkeeping.eq_of_update
      cases hnil
      exact ⟨by simp, fun _ => ⟨_, rfl⟩⟩
    | reset _ settings _ result =>
      obtain ⟨-, hclear⟩ := hkeeping.eq_of_update
      exact ⟨fun _ => hclear.eq_of_clear, by simp⟩
    | notCounted | crashed => cases hkeeping.keeps _ List.mem_cons_self rfl
    | resetCrashed => cases hkeeping.keeps _ (List.mem_cons_of_mem _ List.mem_cons_self) rfl
  · obtain ⟨rfl, -⟩ := h
    cases hkeeping
    exact ⟨by simp, fun _ => ⟨_, rfl⟩⟩

/-- A cycle takes over the policy that it fetched, if it does not leave provisioning off, and
nothing else changes but the count of failures; or the settings are reset. -/
theorem Report.IsCycle.settings {config : Config} {report : Report} (h : report.IsCycle config) :
    ∃ policy : Option DeviceConfig,
      (∀ other, policy = some other ↔ Adopts report.before report.turns other) ∧
      (report.Resets → report.after = .default) ∧
      (¬ report.Resets → ∃ failures,
        report.after = { withPolicy report.before policy with failures }) := by
  obtain ⟨now, answers, body, last, ending, mid, parts⟩ := h.exists_parts
  obtain ⟨policy, hpolicy, failures, hmid⟩ := parts.leaves.settings parts.keeping
  obtain ⟨hreset, hkept⟩ := parts.handles.settings parts.closing
  refine ⟨policy, fun other => ?_, fun h => hreset (parts.resets_iff.mp h), fun h => ?_⟩
  · rw [hpolicy other, parts.adopts_iff]
  · obtain ⟨count, hafter⟩ := hkept fun hmem => h (parts.resets_iff.mpr hmem)
    exact ⟨count, by rw [hafter, hmid]⟩

/-! ## Cycles -/

/-- Cycles one after another, each of which begins with the settings that the one before left
behind. -/
inductive Cycles (config : Config) : Settings → List Report → Settings → Prop
  | nil (settings : Settings) : Cycles config settings [] settings
  | cons {report : Report} {reports : List Report} {final : Settings}
      (cycle : report.IsCycle config) (rest : Cycles config report.after reports final) :
      Cycles config report.before (report :: reports) final

namespace Cycles

variable {config : Config} {initial final : Settings} {first rest reports : List Report}

theorem of_append (h : Cycles config initial (first ++ rest) final) :
    ∃ between, Cycles config initial first between ∧ Cycles config between rest final := by
  induction first generalizing initial with
  | nil => exact ⟨initial, .nil initial, h⟩
  | cons report first ih =>
    cases h with
    | cons cycle tail =>
      obtain ⟨between, hfirst, hrest⟩ := ih tail
      exact ⟨between, .cons cycle hfirst, hrest⟩

theorem eq_of_nil (h : Cycles config initial [] final) : final = initial := by
  cases h
  rfl

theorem isCycle_of_mem (h : Cycles config initial reports final) :
    ∀ report ∈ reports, report.IsCycle config := by
  induction h with
  | nil => simp
  | cons cycle _ ih =>
    intro report hreport
    rcases List.mem_cons.mp hreport with rfl | hreport
    · exact cycle
    · exact ih report hreport

end Cycles

/-- The reports of cycles that are run at these times one after another in the same
surroundings. -/
def Report.ofRuns {σ : Type} (surroundings : Surroundings σ) (stored : σ → Settings)
    (config : Config) : List Nat → σ → List Report
  | [], _ => []
  | now :: times, state =>
    .ofRun surroundings stored config now state ::
      ofRuns surroundings stored config times ((run config now).run surroundings state).state

/-- Cycles that one provisioner runs one after another. -/
theorem exists_cycles_ofRuns {σ : Type} {surroundings : Surroundings σ} {stored : σ → Settings}
    (keeps : surroundings.Keeps stored) (config : Config) (times : List Nat) (state : σ)
    (stores : ∀ report ∈ Report.ofRuns surroundings stored config times state, report.Stores) :
    ∃ final, Cycles config (stored state) (Report.ofRuns surroundings stored config times state)
      final := by
  induction times generalizing state with
  | nil => exact ⟨_, .nil _⟩
  | cons now times ih =>
    obtain ⟨final, hrest⟩ := ih _ fun report hreport =>
      stores report (List.mem_cons_of_mem _ hreport)
    exact ⟨final, .cons (.of_run keeps now state (stores _ List.mem_cons_self)) hrest⟩

/-! ## A server with prepared replies -/

/-- A server that replies so to one cycle after another and signs for no keys, and a custodian
whose components have no keys and delete none. -/
def answering (components : List Implementation) : Surroundings (List (Reply Bytes)) where
  reply
    | .fetchKeys _, reply :: rest => (reply, rest)
    | .fetchKeys _, [] => (.crashed, [])
    | .sign .., rest => (.answered (.ok [0x82, 0x40, 0x80]), rest)
    | .implementations, rest => (.answered (.ok components), rest)
    | .poolStatus .., rest => (.answered (.ok ⟨0, 0, 0, 0⟩), rest)
    | .generateKeyPair .., rest | .provisionChain _, rest | .clearSettings, rest =>
      (.answered (.ok ()), rest)
    | .generateCsr .., rest => (.answered (.ok [1]), rest)
    | .deleteAllKeys, rest => (.answered (.error (CustodianFault.deleteAllKeys : Fault)), rest)
    | .loadSettings, rest | .updateSettings _, rest => (.answered (.ok .default), rest)
  isStopped _ := false

/-- The reports of as many cycles over a store in memory as the server has replies for. -/
def answeredReports (components : List Implementation) (settings : Settings)
    (replies : List (Reply Bytes)) : List Report :=
  Report.ofRuns (answering components).withMemory (·.2.settings) .default
    (List.range replies.length) (replies, .new settings)

theorem exists_cycles_answered (components : List Implementation) (settings : Settings)
    (replies : List (Reply Bytes))
    (stores : ∀ report ∈ answeredReports components settings replies, report.Stores) :
    ∃ final, Cycles .default settings (answeredReports components settings replies) final :=
  exists_cycles_ofRuns (Surroundings.keeps_withMemory (answering components)) .default _
    (replies, .new settings) stores

end Cycle

end KeyProvisioning
