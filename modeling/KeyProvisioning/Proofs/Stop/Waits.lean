import KeyProvisioning.Proofs.Stop.Families

/-!
# Waits at shared stop signals

A wait is told of the stops that are issued until it returns, also by threads that go on during
the wait.
-/

namespace KeyProvisioning.SharedSignals

/-- A wait has begun as the one with this index and not returned. -/
def Pending (acts : List SharedAct) (index : Nat) (wait : StopWait) : Prop :=
  ∃ before duration after, acts = before ++ .beginWait wait.handle duration :: after ∧
    begun before = index ∧ .endWait index ∉ after ∧ wait.deadline = elapsed before + duration

section Pending

variable {acts : List SharedAct} {act : SharedAct} {index : Nat} {wait : StopWait}

theorem pending_concat_iff :
    Pending (acts ++ [act]) index wait ↔
      (Pending acts index wait ∧ act ≠ .endWait index) ∨
        ∃ duration, act = .beginWait wait.handle duration ∧ begun acts = index ∧
          wait.deadline = elapsed acts + duration := by
  simp only [Pending, concat_eq_append_cons_iff]
  constructor
  · rintro ⟨before, duration, _, ⟨rfl, rfl, rfl⟩ | ⟨more, rfl, rfl⟩, hindex, hend, hdeadline⟩
    · exact .inr ⟨duration, rfl, hindex, hdeadline⟩
    · simp only [List.mem_append, List.mem_singleton, not_or] at hend
      exact .inl ⟨⟨before, duration, more, rfl, hindex, hend.1, hdeadline⟩,
        fun heq => hend.2 heq.symm⟩
  · rintro (⟨⟨before, duration, more, rfl, hindex, hend, hdeadline⟩, hact⟩ |
      ⟨duration, rfl, hindex, hdeadline⟩)
    · refine ⟨before, duration, _, .inr ⟨more, rfl, rfl⟩, hindex, ?_, hdeadline⟩
      simp [hend, Ne.symm hact]
    · exact ⟨acts, duration, [], .inl ⟨rfl, rfl, rfl⟩, hindex, List.not_mem_nil, hdeadline⟩

theorem pending_concat_of_ne (hbegins : act.begins = false) (hends : ∀ i, act ≠ .endWait i) :
    Pending (acts ++ [act]) index wait ↔ Pending acts index wait := by
  rw [pending_concat_iff, and_iff_left (hends index), or_iff_left]
  rintro ⟨_, rfl, -⟩
  cases hbegins

/-- The number of waits begun before a wait tells which one it is. -/
theorem eq_of_begun_eq {before before' after after' : List SharedAct}
    {i i' duration duration' : Nat}
    (h : before ++ .beginWait i duration :: after = before' ++ .beginWait i' duration' :: after')
    (hbegun : begun before = begun before') :
    before = before' ∧ i = i' ∧ duration = duration' ∧ after = after' := by
  rcases List.append_eq_append_iff.mp h with ⟨between, rfl, hrest⟩ | ⟨between, rfl, hrest⟩
  all_goals
    cases between with
    | nil =>
      cases hrest
      exact ⟨by simp, rfl, rfl, rfl⟩
    | cons act between =>
      cases hrest
      simp [begun, SharedAct.begins] at hbegun

theorem pending_iff {before after : List SharedAct} {i duration : Nat} :
    Pending (before ++ .beginWait i duration :: after) (begun before) wait ↔
      .endWait (begun before) ∉ after ∧ wait = ⟨i, elapsed before + duration⟩ := by
  constructor
  · rintro ⟨before', duration', after', hacts, hbegun, hend, hdeadline⟩
    obtain ⟨rfl, rfl, rfl, rfl⟩ := eq_of_begun_eq hacts hbegun.symm
    exact ⟨hend, by rw [← hdeadline]⟩
  · rintro ⟨hend, rfl⟩
    exact ⟨before, duration, after, rfl, rfl, hend, rfl⟩

end Pending

/-- The clock shows the time that passed, and the waits are those that have begun and not
returned. -/
structure Awaits (acts : List SharedAct) (shared : SharedSignals) : Prop where
  now : shared.now = elapsed acts
  length : shared.waits.length = begun acts
  pending : ∀ index wait, shared.waits[index]? = some (some wait) ↔ Pending acts index wait

theorem awaits_empty : Awaits [] empty where
  now := rfl
  length := rfl
  pending := by
    simp [empty, Pending]

namespace Awaits

variable {acts : List SharedAct} {act : SharedAct} {shared shared' : SharedSignals}

/-- What neither begins nor ends a wait lets time pass at most. -/
theorem keep (h : Awaits acts shared) (hbegins : act.begins = false)
    (hends : ∀ i, act ≠ .endWait i) (signals : StopSignals) :
    Awaits (acts ++ [act]) ⟨signals, shared.now + act.millis, shared.waits⟩ where
  now := by rw [elapsed_concat, h.now]
  length := by rw [begun_concat, hbegins, h.length, if_neg Bool.false_ne_true, Nat.add_zero]
  pending := by
    intro index wait
    rw [h.pending, pending_concat_of_ne hbegins hends]

theorem beginWait (h : Awaits acts shared) (i duration : Nat) :
    Awaits (acts ++ [.beginWait i duration])
      { shared with waits := shared.waits ++ [some ⟨i, shared.now + duration⟩] } where
  now := by
    rw [elapsed_concat, h.now]
    rfl
  length := by
    rw [begun_concat, List.length_append, h.length]
    rfl
  pending := by
    intro index wait
    rw [getElem?_concat_eq_some_iff, h.pending, pending_concat_iff, h.length, h.now]
    constructor
    · rintro (hpending | ⟨rfl, heq⟩)
      · exact .inl ⟨hpending, SharedAct.noConfusion⟩
      · cases heq
        exact .inr ⟨duration, rfl, rfl, rfl⟩
    · rintro (⟨hpending, -⟩ | ⟨_, heq, hindex, hdeadline⟩)
      · exact .inl hpending
      · cases wait
        cases heq
        cases hdeadline
        exact .inr ⟨hindex.symm, rfl⟩

theorem endWait (h : Awaits acts shared) (index : Nat) :
    Awaits (acts ++ [.endWait index]) { shared with waits := shared.waits.set index none } where
  now := by
    rw [elapsed_concat, h.now]
    rfl
  length := by
    rw [begun_concat, List.length_set, h.length]
    rfl
  pending := by
    intro other wait
    rw [pending_concat_iff, ← h.pending]
    by_cases heq : index = other
    · simp [heq, List.getElem?_set]
    · simp [List.getElem?_set_ne heq, heq]

theorem concat {answer : StopAnswer} (h : Awaits acts shared)
    (hstep : shared.step act = some (answer, shared')) : Awaits (acts ++ [act]) shared' := by
  cases act with
  | perform operation =>
    obtain ⟨-, -, rfl⟩ := step_perform_eq_some_iff.mp hstep
    exact h.keep rfl (fun _ => SharedAct.noConfusion) _
  | beginWait i duration =>
    obtain ⟨-, heq⟩ := Option.ite_none_right_eq_some.mp hstep
    cases heq
    exact h.beginWait i duration
  | pass millis =>
    cases hstep
    exact h.keep rfl (fun _ => SharedAct.noConfusion) _
  | endWait index =>
    simp only [step] at hstep
    split at hstep
    · obtain ⟨-, heq⟩ := Option.ite_none_right_eq_some.mp hstep
      cases heq
      exact h.endWait index
    · cases hstep

end Awaits

theorem awaits_of_run {acts : List SharedAct} {answers : List StopAnswer} {shared : SharedSignals}
    (h : empty.run acts = some (answers, shared)) : Awaits acts shared :=
  of_run awaits_empty (fun _ _ _ _ _ hawaits hstep => hawaits.concat hstep) h

/-! ## Runs -/

section Runs

variable {acts : List SharedAct} {answers : List StopAnswer} {shared : SharedSignals}

/-- A wait can return exactly if it has not done so, and its time is over or its family is
stopped. What it returns tells whether its family is stopped. -/
theorem step_endWait_iff {before after : List SharedAct} {i duration : Nat} {answer : StopAnswer}
    (h : empty.run (before ++ .beginWait i duration :: after) = some (answers, shared)) :
    (∃ shared', shared.step (.endWait (begun before)) = some (answer, shared')) ↔
      .endWait (begun before) ∉ after ∧
        (duration ≤ elapsed after ∨ FamilyStopped (before ++ .beginWait i duration :: after) i) ∧
        answer = .outcome (shared.signals.check i) := by
  have hawaits := awaits_of_run h
  have hover : elapsed before + duration ≤ shared.now ↔ duration ≤ elapsed after := by
    rw [hawaits.now, elapsed_append]
    simp [elapsed, SharedAct.millis]
  have hstopped := (reflects_of_run h).isStopped_iff i
  constructor
  · rintro ⟨shared', hstep⟩
    simp only [step] at hstep
    split at hstep
    · rename_i wait hwait
      obtain ⟨hend, rfl⟩ := pending_iff.mp ((hawaits.pending _ _).mp hwait)
      obtain ⟨hdone, heq⟩ := Option.ite_none_right_eq_some.mp hstep
      cases heq
      exact ⟨hend, hdone.imp hover.mp hstopped.mp, rfl⟩
    · cases hstep
  · rintro ⟨hend, hdone, rfl⟩
    have hwait := (hawaits.pending _ _).mpr (pending_iff.mpr ⟨hend, rfl⟩)
    simp only [step, hwait]
    exact ⟨_, if_pos (hdone.imp hover.mpr hstopped.mpr)⟩

/-- A stop leaves what the handles of other families tell as it was. -/
theorem isStopped_eq_of_not_connected {shared' : SharedSignals} {act : SharedAct}
    {answer : StopAnswer} {i j : Nat} (h : empty.run acts = some (answers, shared))
    (hstep : shared.step act = some (answer, shared')) (hstops : act.Stops j)
    (hother : ¬ Connected acts i j) :
    shared'.signals.isStopped i = shared.signals.isStopped i := by
  have hbefore := reflects_of_run h
  have hafter := reflects_of_run (run_concat h hstep)
  rw [Bool.eq_iff_iff, hafter.isStopped_iff, hbefore.isStopped_iff]
  exact familyStopped_concat_iff_of_not_connected hstops hother

/-- Nothing that happens clears a signal. -/
theorem isStopped_of_run {shared' : SharedSignals} {later : List SharedAct}
    {answers' : List StopAnswer} {i : Nat} (h : empty.run acts = some (answers, shared))
    (hlater : shared.run later = some (answers', shared'))
    (hstopped : shared.signals.isStopped i = true) :
    shared'.signals.isStopped i = true := by
  have hrun : empty.run (acts ++ later) = some (answers ++ answers', shared') :=
    run_append_eq_some_iff.mpr ⟨answers, shared, answers', h, hlater, rfl⟩
  rw [(reflects_of_run hrun).isStopped_iff]
  exact ((reflects_of_run h).isStopped_iff i |>.mp hstopped).append later

/-- Stops are sticky and reach exactly the family of the handle. After any run every operation
can be performed on the handles that were made, and every handle tells whether a stop was issued
on a handle of its family. A wait, whatever happens during it, returns once its time is over or
its family is stopped, and tells the same when it returns. A stop changes nothing for other
families, and what is stopped stays so. -/
theorem stops_reach_family (h : empty.run acts = some (answers, shared)) :
    (∀ operation, (∀ i ∈ operation.handle?, i < made acts) →
      ∃ answer shared', shared.step (.perform operation) = some (answer, shared')) ∧
    (∀ i < made acts, ∀ duration,
      ∃ shared', shared.step (.beginWait i duration) = some (.done, shared')) ∧
    (∀ i < made acts, ∃ stopped, (stopped = true ↔ FamilyStopped acts i) ∧
      shared.step (.perform (.isStopped i)) = some (.stopped stopped, shared)) ∧
    (∀ i < made acts, ∃ result, CancelledIff (FamilyStopped acts i) result ∧
      shared.step (.perform (.check i)) = some (.outcome result, shared)) ∧
    (∀ i < made acts, ∀ duration stopAfter, ∃ result shared',
      CancelledIff (FamilyStopped acts i ∨ ∃ delay < duration, stopAfter = some delay) result ∧
        shared.step (.perform (.pause i duration stopAfter)) = some (.outcome result, shared')) ∧
    (∀ before i duration after, acts = before ++ .beginWait i duration :: after →
      ∃ result, CancelledIff (FamilyStopped acts i) result ∧
        ∀ answer, (∃ shared', shared.step (.endWait (begun before)) = some (answer, shared')) ↔
          .endWait (begun before) ∉ after ∧ (duration ≤ elapsed after ∨ FamilyStopped acts i) ∧
            answer = .outcome result) ∧
    (∀ act answer shared' i j, shared.step act = some (answer, shared') → act.Stops j →
      ¬ Connected acts i j → shared'.signals.isStopped i = shared.signals.isStopped i) ∧
    ∀ later answers' shared' i, shared.run later = some (answers', shared') →
      shared.signals.isStopped i = true → shared'.signals.isStopped i = true := by
  have hreflects := reflects_of_run h
  have hperform : ∀ operation : StopOperation, (∀ i ∈ operation.handle?, i < made acts) →
      shared.step (.perform operation) = some ((shared.signals.perform operation).1,
        { shared with signals := (shared.signals.perform operation).2 }) := by
    intro operation hmade
    exact step_perform_eq_some_iff.mpr ⟨fun i hi => hreflects.length ▸ hmade i hi, rfl, rfl⟩
  have hmade : ∀ i < made acts, ∀ j ∈ some i, j < made acts := by
    rintro i hi _ ⟨⟩
    exact hi
  refine ⟨?_, ?_, ?_, ?_, ?_, ?_, ?_, ?_⟩
  · intro operation hmade
    exact ⟨_, _, hperform operation hmade⟩
  · intro i hi duration
    exact ⟨_, if_pos (hreflects.length ▸ hi)⟩
  · intro i hi
    exact ⟨_, hreflects.isStopped_iff i, hperform (.isStopped i) (hmade i hi)⟩
  · intro i hi
    exact ⟨_, hreflects.check i, hperform (.check i) (hmade i hi)⟩
  · intro i hi duration stopAfter
    exact ⟨_, _, hreflects.pause (hreflects.length ▸ hi) duration stopAfter,
      hperform (.pause i duration stopAfter) (hmade i hi)⟩
  · rintro before i duration after rfl
    exact ⟨_, hreflects.check i, fun _ => step_endWait_iff h⟩
  · intro act answer shared' i j hstep hstops hother
    exact isStopped_eq_of_not_connected h hstep hstops hother
  · intro later answers' shared' i hlater hstopped
    exact isStopped_of_run h hlater hstopped

/-- A family of three handles and one of a single handle. A stop is issued on the oldest of the
three while a thread waits at the newest. -/
def stopDuringWait : List SharedAct :=
  [.perform .new, .perform (.clone 0), .perform (.clone 1), .perform .new, .beginWait 2 30000,
    .pass 20, .perform (.stop 0)]

/-- The wait returns long before its time is over, and the other family is not stopped. -/
theorem stops_reach_family_during_wait :
    ∃ answers shared, empty.run stopDuringWait = some (answers, shared) ∧
      (∃ shared', shared.step (.endWait 0) =
        some (.outcome (.error (.ofCause .cycleCancelled)), shared')) ∧
      shared.signals.isStopped 3 = false := by
  have hrun : empty.run stopDuringWait =
    some (_, ⟨⟨[0, 0, 0, 1], [true, false]⟩, 20, [some ⟨2, 30000⟩]⟩) := rfl
  obtain ⟨-, -, -, -, -, hwaits, -, -⟩ := stops_reach_family hrun
  obtain ⟨_, hresult, hreturns⟩ := hwaits (stopDuringWait.take 4) 2 30000 _ rfl
  have hfirst : Connected stopDuringWait 0 1 := .rel _ _ ⟨stopDuringWait.take 1, _, rfl, rfl⟩
  have hsecond : Connected stopDuringWait 1 2 := .rel _ _ ⟨stopDuringWait.take 2, _, rfl, rfl⟩
  have hstopped : FamilyStopped stopDuringWait 2 :=
    ⟨0, (hfirst.trans _ _ _ hsecond).symm, .perform (.stop 0), by simp [stopDuringWait], .inl rfl⟩
  refine ⟨_, _, hrun, (hreturns _).mpr ⟨by simp, .inr hstopped, ?_⟩, rfl⟩
  rw [hresult.1 hstopped]

end Runs

end KeyProvisioning.SharedSignals
