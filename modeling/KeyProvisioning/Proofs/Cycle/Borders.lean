import KeyProvisioning.Proofs.Cycle.Course

/-!
# How a cycle begins and ends

A cycle begins with the settings, which it may have to reset, and handles the fault that ends it.
In between it follows its plan. The calls of its beginning and of its end all go to the store.
-/

namespace KeyProvisioning.Cycle

variable {mayStop : Prop} {turns : List Turn}

/-! ## The settings at the beginning -/

/-- How a cycle comes by its settings: by loading them, if need be after a reset of unusable
ones. -/
inductive Opening : List Turn → Except Halt Settings → Prop
  | loaded (settings : Settings) :
      Opening [⟨.loadSettings, .answered (.ok settings)⟩] (.ok settings)
  | reset {fault : Fault} (unusable : isUnusable fault) (settings : Settings) :
      Opening [⟨.loadSettings, .answered (.error fault)⟩, ⟨.clearSettings, .answered (.ok ())⟩,
        ⟨.loadSettings, .answered (.ok settings)⟩] (.ok settings)
  | notLoaded {reply : Reply Settings} {halt : Halt} (failed : reply.ending = .error halt)
      (usable : ∀ fault, halt = some fault → ¬ isUnusable fault) :
      Opening [⟨.loadSettings, reply⟩] (.error halt)
  | notCleared {fault : Fault} (unusable : isUnusable fault) {reply : Reply Unit} {halt : Halt}
      (failed : reply.ending = .error halt) :
      Opening [⟨.loadSettings, .answered (.error fault)⟩, ⟨.clearSettings, reply⟩] (.error halt)
  | notReloaded {fault : Fault} (unusable : isUnusable fault) {reply : Reply Settings}
      {halt : Halt} (failed : reply.ending = .error halt) :
      Opening [⟨.loadSettings, .answered (.error fault)⟩, ⟨.clearSettings, .answered (.ok ())⟩,
        ⟨.loadSettings, reply⟩] (.error halt)

/-- A cycle comes by its settings in no other way. -/
theorem opening_of_snapshot {ending : Except Halt Settings}
    (h : snapshot.Goes mayStop turns ending) : Opening turns ending := by
  rcases h.of_tryCatch with ⟨fault, first, rest, hload, hhandle, rfl⟩ | ⟨settings, hload, rfl⟩ |
    ⟨hload, rfl⟩
  · obtain rfl := Procedure.goes_ask_fault_iff.mp hload
    by_cases hunusable : isUnusable fault = true
    · rw [if_pos hunusable] at hhandle
      rcases of_ask_bind hhandle with ⟨_, rest, hreload, rfl⟩ | ⟨halt, hclear, rfl⟩
      · obtain ⟨reply, rfl, hreply⟩ := Procedure.goes_ask_iff.mp hreload
        cases ending with
        | ok settings =>
          obtain rfl := Reply.ending_eq_ok_iff.mp hreply
          exact .reset hunusable settings
        | error halt => exact .notReloaded hunusable hreply
      · obtain ⟨reply, rfl, hreply⟩ := Procedure.goes_ask_iff.mp hclear
        exact .notCleared hunusable hreply
    · rw [if_neg hunusable] at hhandle
      obtain ⟨rfl, rfl⟩ := Procedure.goes_throw_iff.mp hhandle
      refine .notLoaded rfl fun other hother => ?_
      cases hother
      exact hunusable
  · obtain rfl := Procedure.goes_ask_ok_iff.mp hload
    exact .loaded settings
  · obtain rfl := Procedure.goes_ask_crash_iff.mp hload
    exact .notLoaded rfl (by simp)

/-- A call to the store of settings is all that coming by the settings takes. -/
theorem Opening.isStore {ending : Except Halt Settings} (h : Opening turns ending) :
    ∀ turn ∈ turns, turn.call.isStore = true := by
  cases h <;> simp [Call.isStore]

/-- The settings of a cycle are those that were loaded. -/
theorem Opening.load_mem {settings : Settings} (h : Opening turns (.ok settings)) :
    ⟨.loadSettings, .answered (.ok settings)⟩ ∈ turns := by
  cases h <;> simp

/-- Without settings none were loaded. -/
theorem Opening.load_not_mem {halt : Halt} (h : Opening turns (.error halt))
    (settings : Settings) :
    ⟨.loadSettings, .answered (.ok settings)⟩ ∉ turns := by
  cases h with
  | notLoaded failed _ =>
    rw [List.mem_singleton]
    intro he
    cases he
    cases failed
  | notCleared => simp
  | notReloaded _ failed =>
    simp only [List.mem_cons, List.not_mem_nil, or_false]
    rintro (he | he | he)
    · cases he
    · cases he
    · cases he
      cases failed

/-- A cycle up to its first fault: without settings it ends at once, with settings it follows the
plan that the answers to it give. -/
theorem attempt_course {config : Config} {now : Nat} {ending : Except Halt CycleOutcome}
    (h : (attempt config now).Goes mayStop turns ending) :
    (∃ halt, Opening turns (.error halt) ∧ ending = .error halt) ∨
    ∃ before opening body, ∃ answers : Answers,
      Opening opening (.ok before) ∧ turns = opening ++ body ∧
      Follows mayStop (answers.plan config now before) body (haltOf ending) ∧
      ∀ outcome, ending = .ok outcome → outcome = answers.outcome before := by
  rw [attempt_eq] at h
  rcases h.of_bind with ⟨before, opening, body, hopening, hbody, rfl⟩ | ⟨halt, hopening, rfl⟩
  · obtain ⟨answers, hfollows, houtcome⟩ := proceed_follows hbody
    exact .inr ⟨before, opening, body, answers, opening_of_snapshot hopening, rfl, hfollows,
      houtcome⟩
  · exact .inl ⟨halt, opening_of_snapshot hopening, rfl⟩

/-! ## The end of a cycle -/

/-- What a cycle does after a fault: nothing if it is not counted, else it counts a failure, and
resets the settings if these are too many. -/
inductive Closing (config : Config) (fault : Fault) : List Turn → Option CycleOutcome → Prop
  | uncounted (h : fault.counted = false) : Closing config fault [] (some .rescheduleRequested)
  | counted (h : fault.counted = true) (settings : Settings)
      (within : ¬ config.failureMaximum < settings.failures) :
      Closing config fault [⟨.updateSettings .countFailure, .answered (.ok settings)⟩]
        (some .rescheduleRequested)
  | reset (h : fault.counted = true) (settings : Settings)
      (above : config.failureMaximum < settings.failures) (result : Except Fault Unit) :
      Closing config fault [⟨.updateSettings .countFailure, .answered (.ok settings)⟩,
        ⟨.clearSettings, .answered result⟩] (some .rescheduleRequested)
  | notCounted (h : fault.counted = true) (failed : Fault) :
      Closing config fault [⟨.updateSettings .countFailure, .answered (.error failed)⟩]
        (some .rescheduleRequested)
  | crashed (h : fault.counted = true) :
      Closing config fault [⟨.updateSettings .countFailure, .crashed⟩] none
  | resetCrashed (h : fault.counted = true) (settings : Settings)
      (above : config.failureMaximum < settings.failures) :
      Closing config fault [⟨.updateSettings .countFailure, .answered (.ok settings)⟩,
        ⟨.clearSettings, .crashed⟩] none

/-- A failure is recorded in no other way. -/
theorem closing_of_recordFailure {config : Config} {fault : Fault} {value : Option Unit}
    (hcounted : fault.counted = true) (h : (recordFailure config).Talk mayStop turns value) :
    Closing config fault turns (value.map fun _ => .rescheduleRequested) := by
  rw [recordFailure] at h
  cases h with
  | answered result hnext =>
    cases result with
    | ok settings =>
      by_cases habove : config.failureMaximum < settings.failures
      · simp only [if_pos habove] at hnext
        cases hnext with
        | answered result hfinish =>
          cases hfinish
          exact .reset hcounted settings habove result
        | crashed => exact .resetCrashed hcounted settings habove
      · simp only [if_neg habove] at hnext
        cases hnext
        exact .counted hcounted settings habove
    | error failed =>
      cases hnext
      exact .notCounted hcounted failed
  | crashed => exact .crashed hcounted

/-- A fault is handled in no other way. -/
theorem closing_of_handleFault {config : Config} {fault : Fault} {value : Option CycleOutcome}
    (h : (handleFault config fault).Talk mayStop turns value) :
    Closing config fault turns value := by
  rw [handleFault] at h
  by_cases hcounted : fault.counted = true
  · rw [if_pos hcounted] at h
    rcases h.of_bind with ⟨_, first, rest, hrecord, hrest, rfl⟩ | ⟨hrecord, rfl⟩
    · cases hrest
      rw [List.append_nil]
      exact closing_of_recordFailure hcounted hrecord
    · exact closing_of_recordFailure hcounted hrecord
  · rw [if_neg hcounted] at h
    cases h
    exact .uncounted (Bool.eq_false_iff.mpr hcounted)

/-- What a cycle does once it is past its last step or past a fault. -/
def Aftermath (config : Config) (turns : List Turn) (value : Option CycleOutcome) :
    Except Halt CycleOutcome → Prop
  | .ok outcome => turns = [] ∧ value = some outcome
  | .error (some fault) => Closing config fault turns value
  | .error none => turns = [] ∧ value = none

/-- A cycle goes up to its first fault and then handles it. -/
theorem run_course {σ : Type} (surroundings : Surroundings σ)
    (allowed : ∀ state, surroundings.isStopped state = true → mayStop) (config : Config)
    (now : Nat) (state : σ) :
    ∃ ending last,
      Halt.valueOf ending = ((attempt config now).run.run surroundings state).value ∧
      (attempt config now).Goes mayStop
        ((attempt config now).run.turns surroundings state) ending ∧
      Aftermath config last ((run config now).run surroundings state).value ending ∧
      (run config now).turns surroundings state =
        (attempt config now).run.turns surroundings state ++ last := by
  obtain ⟨ending, hending, hgoes⟩ :=
    Procedure.exists_goes surroundings allowed (attempt config now) state
  rw [run, Dialogue.run_bind, Dialogue.turns_bind, Run.andThen, ← hending]
  rcases ending with (_ | fault) | outcome
  · exact ⟨.error none, [], rfl, hgoes, ⟨rfl, rfl⟩, rfl⟩
  · refine ⟨.error (some fault), _, rfl, hgoes, ?_, rfl⟩
    exact closing_of_handleFault (Dialogue.talk_run surroundings allowed _ _)
  · exact ⟨.ok outcome, [], rfl, hgoes, ⟨rfl, rfl⟩, rfl⟩

/-- A fault is handled by calls to the store alone. -/
theorem Aftermath.isStore {config : Config} {value : Option CycleOutcome}
    {ending : Except Halt CycleOutcome} (h : Aftermath config turns value ending) :
    ∀ turn ∈ turns, turn.call.isStore = true := by
  rcases ending with (_ | fault) | outcome
  · obtain ⟨rfl, _⟩ := h
    simp
  · cases h <;> simp [Call.isStore]
  · obtain ⟨rfl, _⟩ := h
    simp

/-- A fault is handled without loading the settings. -/
theorem Aftermath.load_not_mem {config : Config} {value : Option CycleOutcome}
    {ending : Except Halt CycleOutcome} (h : Aftermath config turns value ending)
    (settings : Settings) : ⟨.loadSettings, .answered (.ok settings)⟩ ∉ turns := by
  rcases ending with (_ | fault) | outcome
  · obtain ⟨rfl, _⟩ := h
    simp
  · cases h <;> simp
  · obtain ⟨rfl, _⟩ := h
    simp

end KeyProvisioning.Cycle
