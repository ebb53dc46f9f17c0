import KeyProvisioning.Stop
import Mathlib.Data.List.Induction
import Mathlib.Logic.Relation

/-!
# What happens to shared stop signals

Handles are of one family if a chain of clone operations, each in either direction, leads from
one to the other. What a run has done is read off the list of its acts, and what every step keeps
holds after a run.
-/

namespace KeyProvisioning

/-- An entry of a list is its last one, or an entry of what is before that. -/
theorem concat_eq_append_cons_iff {α : Type} {l before after : List α} {last x : α} :
    l ++ [last] = before ++ x :: after ↔
      (after = [] ∧ l = before ∧ last = x) ∨
        ∃ more, after = more ++ [last] ∧ l = before ++ x :: more := by
  constructor
  · intro h
    rcases List.eq_nil_or_concat after with rfl | ⟨more, y, rfl⟩
    · obtain ⟨rfl, heq⟩ := List.append_inj' h rfl
      cases heq
      exact .inl ⟨rfl, rfl, rfl⟩
    · rw [List.concat_eq_append, ← List.cons_append, ← List.append_assoc] at h
      obtain ⟨rfl, heq⟩ := List.append_inj' h rfl
      cases heq
      exact .inr ⟨more, List.concat_eq_append, rfl⟩
  · rintro (⟨rfl, rfl, rfl⟩ | ⟨more, rfl, rfl⟩)
    · rfl
    · simp

theorem getElem?_concat_eq_some_iff {α : Type} {l : List α} {last x : α} {i : Nat} :
    (l ++ [last])[i]? = some x ↔ l[i]? = some x ∨ (i = l.length ∧ last = x) := by
  rw [List.getElem?_append]
  split
  · rename_i hlt
    constructor
    · exact .inl
    · rintro (h | ⟨rfl, -⟩)
      · exact h
      · exact absurd hlt (Nat.lt_irrefl _)
  · rename_i hle
    rw [List.getElem?_eq_none (Nat.le_of_not_lt hle), List.getElem?_singleton]
    simp
    omega

namespace SharedAct

/-- Whether a handle is made. -/
def makes : SharedAct → Bool
  | .perform .new | .perform (.clone _) => true
  | _ => false

/-- Whether a wait begins. -/
def begins : SharedAct → Bool
  | .beginWait _ _ => true
  | _ => false

/-- The milliseconds that pass. -/
def millis : SharedAct → Nat
  | .pass millis => millis
  | _ => 0

/-- A stop is issued on the handle before the act is over. -/
def Stops (act : SharedAct) (j : Nat) : Prop :=
  act = .perform (.stop j) ∨ ∃ duration delay, act = .perform (.pause j duration (some delay))

/-- An act issues stops on no more than one handle. -/
theorem Stops.eq {act : SharedAct} {i j : Nat} (hi : act.Stops i) (hj : act.Stops j) : i = j := by
  rcases hi with rfl | ⟨_, _, rfl⟩
  · simpa [Stops, eq_comm] using hj
  · simpa [Stops, eq_comm] using hj

theorem Stops.makes_eq_false {act : SharedAct} {j : Nat} (h : act.Stops j) :
    act.makes = false := by
  rcases h with rfl | ⟨_, _, rfl⟩ <;> rfl

end SharedAct

namespace SharedSignals

/-! ## What has happened -/

/-- The number of handles made. -/
def made (acts : List SharedAct) : Nat :=
  acts.countP SharedAct.makes

/-- The number of waits begun. -/
def begun (acts : List SharedAct) : Nat :=
  acts.countP SharedAct.begins

/-- The milliseconds that passed. -/
def elapsed : List SharedAct → Nat
  | [] => 0
  | act :: acts => act.millis + elapsed acts

/-- The handle `k` was made as a clone of the handle `j`. -/
def Cloned (acts : List SharedAct) (j k : Nat) : Prop :=
  ∃ before after, acts = before ++ .perform (.clone j) :: after ∧ made before = k

/-- A chain of clone operations, each in either direction, leads from one handle to the other. -/
def Connected (acts : List SharedAct) : Nat → Nat → Prop :=
  Relation.EqvGen (Cloned acts)

/-- A stop was issued on the handle. -/
def StopIssued (acts : List SharedAct) (j : Nat) : Prop :=
  ∃ act ∈ acts, act.Stops j

/-- A stop was issued on some handle of the family. -/
def FamilyStopped (acts : List SharedAct) (i : Nat) : Prop :=
  ∃ j, Connected acts i j ∧ StopIssued acts j

section Concat

variable {acts : List SharedAct} {act : SharedAct} {i j k : Nat}

theorem made_concat : made (acts ++ [act]) = made acts + if act.makes then 1 else 0 := by
  simp [made, List.countP_append, List.countP_singleton]

theorem begun_concat : begun (acts ++ [act]) = begun acts + if act.begins then 1 else 0 := by
  simp [begun, List.countP_append, List.countP_singleton]

theorem elapsed_append (acts later : List SharedAct) :
    elapsed (acts ++ later) = elapsed acts + elapsed later := by
  induction acts with
  | nil => rw [List.nil_append, elapsed, Nat.zero_add]
  | cons act acts ih => rw [List.cons_append, elapsed, elapsed, ih, Nat.add_assoc]

theorem elapsed_concat : elapsed (acts ++ [act]) = elapsed acts + act.millis :=
  elapsed_append acts [act]

theorem cloned_concat_iff :
    Cloned (acts ++ [act]) j k ↔
      Cloned acts j k ∨ (act = .perform (.clone j) ∧ made acts = k) := by
  simp only [Cloned, concat_eq_append_cons_iff]
  constructor
  · rintro ⟨before, _, ⟨-, rfl, rfl⟩ | ⟨more, -, rfl⟩, hmade⟩
    · exact .inr ⟨rfl, hmade⟩
    · exact .inl ⟨before, more, rfl, hmade⟩
  · rintro (⟨before, more, rfl, hmade⟩ | ⟨rfl, hmade⟩)
    · exact ⟨before, _, .inr ⟨more, rfl, rfl⟩, hmade⟩
    · exact ⟨acts, _, .inl ⟨rfl, rfl, rfl⟩, hmade⟩

theorem cloned_concat_of_not_makes (hmakes : act.makes = false) :
    Cloned (acts ++ [act]) j k ↔ Cloned acts j k := by
  rw [cloned_concat_iff, or_iff_left]
  rintro ⟨rfl, -⟩
  cases hmakes

theorem Connected.concat (h : Connected acts i j) (act : SharedAct) :
    Connected (acts ++ [act]) i j :=
  h.mono fun _ _ hcloned => cloned_concat_iff.mpr (.inl hcloned)

theorem stopIssued_concat_iff :
    StopIssued (acts ++ [act]) j ↔ StopIssued acts j ∨ act.Stops j := by
  simp [StopIssued, or_and_right, exists_or]

end Concat

theorem FamilyStopped.concat {acts : List SharedAct} {i : Nat} (h : FamilyStopped acts i)
    (act : SharedAct) : FamilyStopped (acts ++ [act]) i := by
  obtain ⟨j, hconnected, hissued⟩ := h
  exact ⟨j, hconnected.concat act, stopIssued_concat_iff.mpr (.inl hissued)⟩

/-- A stop does not reach the handles of other families. -/
theorem familyStopped_concat_iff_of_not_connected {acts : List SharedAct} {act : SharedAct}
    {i j : Nat} (hstops : act.Stops j) (hother : ¬ Connected acts i j) :
    FamilyStopped (acts ++ [act]) i ↔ FamilyStopped acts i := by
  constructor
  · rintro ⟨k, hconnected, hissued⟩
    have hbefore : Connected acts i k := hconnected.mono fun _ _ hcloned =>
      (cloned_concat_of_not_makes hstops.makes_eq_false).mp hcloned
    rcases stopIssued_concat_iff.mp hissued with hissued | hnow
    · exact ⟨k, hbefore, hissued⟩
    · exact absurd (hnow.eq hstops ▸ hbefore) hother
  · exact fun h => h.concat act

theorem FamilyStopped.append {acts : List SharedAct} {i : Nat} (h : FamilyStopped acts i)
    (later : List SharedAct) : FamilyStopped (acts ++ later) i := by
  induction later using List.reverseRecOn with
  | nil => rwa [List.append_nil]
  | append_singleton later act ih =>
    rw [← List.append_assoc]
    exact ih.concat act

/-! ## Runs -/

theorem step_perform_eq_some_iff {shared shared' : SharedSignals} {operation : StopOperation}
    {answer : StopAnswer} :
    shared.step (.perform operation) = some (answer, shared') ↔
      (∀ i ∈ operation.handle?, i < shared.signals.handles.length) ∧
        answer = (shared.signals.perform operation).1 ∧
        shared' = { shared with signals := (shared.signals.perform operation).2 } := by
  rw [step, Option.ite_none_right_eq_some, Option.some.injEq, Prod.mk.injEq]
  exact and_congr_right fun _ => and_congr eq_comm eq_comm

theorem run_append_eq_some_iff {shared shared' : SharedSignals} {acts later : List SharedAct}
    {answers : List StopAnswer} :
    shared.run (acts ++ later) = some (answers, shared') ↔
      ∃ first middle second, shared.run acts = some (first, middle) ∧
        middle.run later = some (second, shared') ∧ answers = first ++ second := by
  induction acts generalizing shared answers with
  | nil =>
    simp only [List.nil_append, run, Option.some.injEq, Prod.mk.injEq]
    constructor
    · intro hlater
      exact ⟨[], _, answers, ⟨rfl, rfl⟩, hlater, rfl⟩
    · rintro ⟨_, _, _, ⟨rfl, rfl⟩, hlater, rfl⟩
      exact hlater
  | cons act acts ih =>
    simp only [List.cons_append, run, Option.bind_eq_bind, Option.bind_eq_some_iff,
      Option.pure_def, Option.some.injEq, Prod.mk.injEq, Prod.exists]
    constructor
    · rintro ⟨_, _, hact, _, _, hrest, rfl, rfl⟩
      obtain ⟨first, middle, second, hacts, hlater, rfl⟩ := ih.mp hrest
      exact ⟨_, middle, second, ⟨_, _, hact, first, middle, hacts, rfl, rfl⟩, hlater, rfl⟩
    · rintro ⟨_, _, second, ⟨_, _, hact, first, middle, hacts, rfl, rfl⟩, hlater, rfl⟩
      exact ⟨_, _, hact, _, _, ih.mpr ⟨first, middle, second, hacts, hlater, rfl⟩, rfl, rfl⟩

theorem run_singleton {shared : SharedSignals} {act : SharedAct} :
    shared.run [act] = (shared.step act).map fun p => ([p.1], p.2) := by
  simp only [run]
  cases shared.step act <;> rfl

/-- What holds at the start and is kept by every step holds after every run. -/
theorem of_run {P : List SharedAct → SharedSignals → Prop} (start : P [] empty)
    (keep : ∀ acts shared act answer shared', P acts shared →
      shared.step act = some (answer, shared') → P (acts ++ [act]) shared')
    {acts : List SharedAct} {answers : List StopAnswer} {shared : SharedSignals}
    (h : empty.run acts = some (answers, shared)) : P acts shared := by
  induction acts using List.reverseRecOn generalizing answers shared with
  | nil =>
    cases h
    exact start
  | append_singleton acts act ih =>
    obtain ⟨_, middle, _, hrun, hact, -⟩ := run_append_eq_some_iff.mp h
    rw [run_singleton] at hact
    obtain ⟨⟨answer, _⟩, hstep, heq⟩ := Option.map_eq_some_iff.mp hact
    cases heq
    exact keep acts middle act answer _ (ih hrun) hstep

theorem run_concat {shared shared' shared'' : SharedSignals} {acts : List SharedAct}
    {act : SharedAct} {answers : List StopAnswer} {answer : StopAnswer}
    (h : shared.run acts = some (answers, shared'))
    (hstep : shared'.step act = some (answer, shared'')) :
    shared.run (acts ++ [act]) = some (answers ++ [answer], shared'') :=
  run_append_eq_some_iff.mpr
    ⟨answers, shared', [answer], h, by rw [run_singleton, hstep]; rfl, rfl⟩

/-- Operations that are performed one after another do to the signals, and answer, what they do
to signals that nobody else uses. -/
theorem performAll_of_run {shared shared' : SharedSignals} {operations : List StopOperation}
    {answers : List StopAnswer}
    (h : shared.run (operations.map .perform) = some (answers, shared')) :
    shared.signals.performAll operations = (answers, shared'.signals) := by
  induction operations generalizing shared answers with
  | nil =>
    cases h
    rfl
  | cons operation operations ih =>
    obtain ⟨⟨_, _⟩, hstep, hrest⟩ := Option.bind_eq_some_iff.mp h
    obtain ⟨⟨_, _⟩, hrun, heq⟩ := Option.bind_eq_some_iff.mp hrest
    obtain ⟨-, rfl, rfl⟩ := step_perform_eq_some_iff.mp hstep
    cases heq
    simp only [StopSignals.performAll, ih hrun]

end SharedSignals

end KeyProvisioning
