import KeyProvisioning.Proofs.Stop.Sharing
import KeyProvisioning.Proofs.Stop.Handles

/-!
# Families of handles

Whatever threads do in whatever order, two handles have one signal exactly if they are of one
family, and the raised signals are those of the families that were stopped.
-/

namespace KeyProvisioning.SharedSignals

/-- All that an act can do to the signals: one more handle of a fresh signal or of the signal of
another handle, a stop, or nothing. -/
inductive SignalChange (signals : StopSignals) : SharedAct → StopSignals → Prop
  | new : SignalChange signals (.perform .new) signals.new
  | clone {i : Nat} (hi : i < signals.handles.length) :
      SignalChange signals (.perform (.clone i)) (signals.clone i)
  | stop {act : SharedAct} {i : Nat} (hi : i < signals.handles.length) (hmakes : act.makes = false)
      (hstops : ∀ j, act.Stops j ↔ j = i) : SignalChange signals act (signals.stop i)
  | keep {act : SharedAct} (hmakes : act.makes = false) (hstops : ∀ j, ¬ act.Stops j) :
      SignalChange signals act signals

theorem pause_snd_of_some (signals : StopSignals) (i duration delay : Nat) :
    (signals.pause i duration (some delay)).2 = signals.stop i := by
  simp only [StopSignals.pause]
  split <;> rfl

theorem change_of_step {shared shared' : SharedSignals} {act : SharedAct} {answer : StopAnswer}
    (h : shared.step act = some (answer, shared')) :
    SignalChange shared.signals act shared'.signals := by
  cases act with
  | perform operation =>
    obtain ⟨hhandle, -, rfl⟩ := step_perform_eq_some_iff.mp h
    cases operation with
    | new => exact .new
    | clone i => exact .clone (hhandle i rfl)
    | stop i => exact .stop (hhandle i rfl) rfl (by simp [SharedAct.Stops, eq_comm])
    | isStopped i => exact .keep rfl (by simp [SharedAct.Stops])
    | check i => exact .keep rfl (by simp [SharedAct.Stops])
    | pause i duration stopAfter =>
      cases stopAfter with
      | none => exact .keep rfl (by simp [SharedAct.Stops])
      | some delay =>
        change SignalChange shared.signals _ (shared.signals.pause i duration (some delay)).2
        rw [pause_snd_of_some]
        exact .stop (hhandle i rfl) rfl (by simp [SharedAct.Stops, eq_comm])
  | beginWait i duration =>
    obtain ⟨-, heq⟩ := Option.ite_none_right_eq_some.mp h
    cases heq
    exact .keep rfl (by simp [SharedAct.Stops])
  | pass millis =>
    cases h
    exact .keep rfl (by simp [SharedAct.Stops])
  | endWait index =>
    simp only [step] at h
    split at h
    · obtain ⟨-, heq⟩ := Option.ite_none_right_eq_some.mp h
      cases heq
      exact .keep rfl (by simp [SharedAct.Stops])
    · cases h

/-- Signals reflect what has happened: handles have one signal exactly if they are of one family,
and the raised signals are those of the handles on which a stop was issued. -/
structure Reflects (acts : List SharedAct) (signals : StopSignals) : Prop where
  sound : signals.Sound
  length : signals.handles.length = made acts
  cloned : ∀ j k, Cloned acts j k →
    ∃ signal, signals.handles[j]? = some signal ∧ signals.handles[k]? = some signal
  connected : ∀ i j signal, signals.handles[i]? = some signal → signals.handles[j]? = some signal →
    Connected acts i j
  issued : ∀ j, StopIssued acts j → j < signals.handles.length
  raised : ∀ signal, signals.raised[signal]? = some true ↔
    ∃ j, signals.handles[j]? = some signal ∧ StopIssued acts j

theorem reflects_empty : Reflects [] empty.signals where
  sound := StopSignals.sound_empty
  length := rfl
  cloned := by
    rintro _ _ ⟨before, _, hnil, -⟩
    simp at hnil
  connected := by
    intro _ _ _ h
    simp [empty, StopSignals.empty] at h
  issued := by
    rintro _ ⟨_, hmem, -⟩
    cases hmem
  raised := by
    simp [empty, StopSignals.empty]

namespace Reflects

variable {acts : List SharedAct} {act : SharedAct} {signals signals' : StopSignals} {i : Nat}

/-- No stop was issued on a handle before it was made. -/
theorem exists_issued_concat_iff (h : Reflects acts signals) (fresh signal : Nat) :
    (∃ j, (signals.handles ++ [fresh])[j]? = some signal ∧ StopIssued acts j) ↔
      ∃ j, signals.handles[j]? = some signal ∧ StopIssued acts j := by
  simp only [getElem?_concat_eq_some_iff]
  constructor
  · rintro ⟨j, hj | ⟨rfl, -⟩, hissued⟩
    · exact ⟨j, hj, hissued⟩
    · exact absurd (h.issued _ hissued) (Nat.lt_irrefl _)
  · rintro ⟨j, hj, hissued⟩
    exact ⟨j, .inl hj, hissued⟩

/-- A handle is made. It belongs to the families of the handles of its signal, of which the one
that it was cloned from must be. -/
theorem extend {own : Nat} {raised : List Bool} (h : Reflects acts signals)
    (hmakes : act.makes = true) (hstops : ∀ j, ¬ act.Stops j)
    (sound : StopSignals.Sound ⟨signals.handles ++ [own], raised⟩)
    (hraised : ∀ signal : Nat, raised[signal]? = some true ↔ signals.raised[signal]? = some true)
    (hcloned : ∀ j, act = .perform (.clone j) → signals.handles[j]? = some own)
    (hfamily : ∀ j, signals.handles[j]? = some own →
      Connected (acts ++ [act]) j signals.handles.length) :
    Reflects (acts ++ [act]) ⟨signals.handles ++ [own], raised⟩ where
  sound := sound
  length := by
    rw [made_concat, hmakes, List.length_append, h.length, if_pos rfl, List.length_singleton]
  cloned := by
    intro j k hedge
    rcases cloned_concat_iff.mp hedge with hbefore | ⟨hclone, rfl⟩
    · obtain ⟨signal, hj, hk⟩ := h.cloned j k hbefore
      exact ⟨signal, getElem?_concat_eq_some_iff.mpr (.inl hj),
        getElem?_concat_eq_some_iff.mpr (.inl hk)⟩
    · exact ⟨own, getElem?_concat_eq_some_iff.mpr (.inl (hcloned j hclone)),
        getElem?_concat_eq_some_iff.mpr (.inr ⟨h.length.symm, rfl⟩)⟩
  connected := by
    intro j k signal hj hk
    rcases getElem?_concat_eq_some_iff.mp hj with hj | ⟨rfl, rfl⟩
    · rcases getElem?_concat_eq_some_iff.mp hk with hk | ⟨rfl, rfl⟩
      · exact (h.connected j k signal hj hk).concat _
      · exact hfamily j hj
    · rcases getElem?_concat_eq_some_iff.mp hk with hk | ⟨rfl, -⟩
      · exact (hfamily k hk).symm _ _
      · exact .refl _
  issued := by
    intro j hissued
    have hlt := h.issued j ((stopIssued_concat_iff.mp hissued).resolve_right (hstops j))
    rw [List.length_append]
    exact Nat.lt_add_right _ hlt
  raised := by
    intro signal
    simp only [hraised, h.raised, stopIssued_concat_iff, hstops, or_false,
      h.exists_issued_concat_iff]

theorem new (h : Reflects acts signals) : Reflects (acts ++ [.perform .new]) signals.new := by
  refine h.extend rfl (by simp [SharedAct.Stops]) h.sound.new ?_ (fun _ heq => by cases heq) ?_
  · intro signal
    rw [getElem?_concat_eq_some_iff]
    simp
  · -- the fresh signal is that of no older handle
    intro j hj
    exact absurd (h.sound _ (List.mem_of_getElem? hj)) (Nat.lt_irrefl _)

theorem clone (h : Reflects acts signals) (hi : i < signals.handles.length) :
    Reflects (acts ++ [.perform (.clone i)]) (signals.clone i) := by
  obtain ⟨own, hown⟩ : ∃ own, signals.handles[i]? = some own := ⟨_, List.getElem?_eq_getElem hi⟩
  have hclone : signals.clone i = ⟨signals.handles ++ [own], signals.raised⟩ := by
    simp only [StopSignals.clone, hown]
  have hsound := h.sound.clone i
  rw [hclone] at hsound ⊢
  refine h.extend rfl (by simp [SharedAct.Stops]) hsound (fun _ => Iff.rfl) ?_ ?_
  · rintro _ ⟨⟩
    exact hown
  · intro j hj
    have hmade : Connected (acts ++ [.perform (.clone i)]) i signals.handles.length :=
      .rel _ _ (cloned_concat_iff.mpr (.inr ⟨rfl, h.length.symm⟩))
    exact ((h.connected j i own hj hown).concat _).trans _ _ _ hmade

theorem keep (h : Reflects acts signals) (hmakes : act.makes = false)
    (hstops : ∀ j, ¬ act.Stops j) :
    Reflects (acts ++ [act]) signals where
  sound := h.sound
  length := by rw [made_concat, hmakes, h.length, if_neg Bool.false_ne_true, Nat.add_zero]
  cloned := fun j k hcloned => h.cloned j k ((cloned_concat_of_not_makes hmakes).mp hcloned)
  connected := fun i j signal hi hj => (h.connected i j signal hi hj).concat act
  issued := fun j hissued =>
    h.issued j ((stopIssued_concat_iff.mp hissued).resolve_right (hstops j))
  raised := by
    intro signal
    simp only [h.raised, stopIssued_concat_iff, hstops, or_false]

theorem stop (h : Reflects acts signals) (hi : i < signals.handles.length)
    (hmakes : act.makes = false) (hstops : ∀ j, act.Stops j ↔ j = i) :
    Reflects (acts ++ [act]) (signals.stop i) := by
  obtain ⟨own, hown⟩ : ∃ own, signals.handles[i]? = some own := ⟨_, List.getElem?_eq_getElem hi⟩
  have hlt : own < signals.raised.length := h.sound own (List.mem_of_getElem? hown)
  have hstop : signals.stop i = ⟨signals.handles, signals.raised.set own true⟩ := by
    simp only [StopSignals.stop, hown]
  have hsound := h.sound.stop i
  rw [hstop] at hsound ⊢
  refine ⟨hsound, ?_, ?_, ?_, ?_, ?_⟩
  · rw [made_concat, hmakes, h.length, if_neg Bool.false_ne_true, Nat.add_zero]
  · exact fun j k hcloned => h.cloned j k ((cloned_concat_of_not_makes hmakes).mp hcloned)
  · exact fun j k signal hj hk => (h.connected j k signal hj hk).concat act
  · intro j hissued
    rcases stopIssued_concat_iff.mp hissued with hbefore | hnow
    · exact h.issued j hbefore
    · exact (hstops j).mp hnow ▸ hi
  · intro signal
    simp only [stopIssued_concat_iff, hstops, and_or_left, exists_or, exists_eq_right,
      ← h.raised, hown]
    by_cases heq : own = signal
    · simp [heq ▸ hlt, heq]
    · simp [List.getElem?_set_ne heq, heq]

theorem concat (h : Reflects acts signals) (hchange : SignalChange signals act signals') :
    Reflects (acts ++ [act]) signals' := by
  cases hchange with
  | new => exact h.new
  | clone hi => exact h.clone hi
  | stop hi hmakes hstops => exact h.stop hi hmakes hstops
  | keep hmakes hstops => exact h.keep hmakes hstops

theorem signal_eq (h : Reflects acts signals) {j : Nat} (hconnected : Connected acts i j) :
    signals.handles[i]? = signals.handles[j]? := by
  induction hconnected with
  | rel j k hcloned =>
    obtain ⟨signal, hj, hk⟩ := h.cloned j k hcloned
    rw [hj, hk]
  | refl => rfl
  | symm _ _ _ ih => exact ih.symm
  | trans _ _ _ _ _ ih ih' => exact ih.trans ih'

/-- A handle is stopped exactly if a stop was issued on a handle of its family. -/
theorem isStopped_iff (h : Reflects acts signals) (i : Nat) :
    signals.isStopped i = true ↔ FamilyStopped acts i := by
  constructor
  · intro hstopped
    unfold StopSignals.isStopped at hstopped
    split at hstopped
    · rename_i signal hi
      have hraised : signals.raised[signal]? = some true := by
        cases hcell : signals.raised[signal]? with
        | none => simp [hcell] at hstopped
        | some raised => simpa [hcell] using hstopped
      obtain ⟨j, hj, hissued⟩ := (h.raised signal).mp hraised
      exact ⟨j, h.connected i j signal hi hj, hissued⟩
    · cases hstopped
  · rintro ⟨j, hconnected, hissued⟩
    obtain ⟨signal, hj⟩ : ∃ signal, signals.handles[j]? = some signal :=
      ⟨_, List.getElem?_eq_getElem (h.issued j hissued)⟩
    rw [StopSignals.isStopped_eq ((h.signal_eq hconnected).trans hj),
      (h.raised signal).mpr ⟨j, hj, hissued⟩, Option.getD_some]

end Reflects

theorem reflects_of_run {acts : List SharedAct} {answers : List StopAnswer}
    {shared : SharedSignals} (h : empty.run acts = some (answers, shared)) :
    Reflects acts shared.signals :=
  of_run (P := fun acts shared => Reflects acts shared.signals) reflects_empty
    (fun _ _ _ _ _ hreflects hstep => hreflects.concat (change_of_step hstep)) h

/-! ## What handles tell -/

/-- The operation is refused as cancelled if there is a stop, and succeeds if there is none. -/
def CancelledIff (stopped : Prop) (result : Except Fault Unit) : Prop :=
  (stopped → result = .error (.ofCause .cycleCancelled)) ∧ (¬ stopped → result = .ok ())

section Answers

variable {acts : List SharedAct} {signals : StopSignals} {i : Nat}

theorem cancelledIff_check_of_iff {stopped : Prop} (h : signals.isStopped i = true ↔ stopped) :
    CancelledIff stopped (signals.check i) := by
  unfold CancelledIff StopSignals.check
  rw [← h]
  constructor
  · intro hstopped
    rw [if_pos hstopped]
  · intro hstopped
    rw [if_neg hstopped]

theorem Reflects.check (h : Reflects acts signals) (i : Nat) :
    CancelledIff (FamilyStopped acts i) (signals.check i) :=
  cancelledIff_check_of_iff (h.isStopped_iff i)

theorem Reflects.isStopped_stop (h : Reflects acts signals) (hi : i < signals.handles.length) :
    (signals.stop i).isStopped i = true := by
  have hown : signals.handles[i]? = some signals.handles[i] := List.getElem?_eq_getElem hi
  exact StopSignals.isStopped_stop_of_eq hown hown (h.sound _ (List.getElem_mem hi))

/-- A pause is refused if the family is stopped before it, or a stop comes before its time is
over. -/
theorem Reflects.pause (h : Reflects acts signals) (hi : i < signals.handles.length)
    (duration : Nat) (stopAfter : Option Nat) :
    CancelledIff (FamilyStopped acts i ∨ ∃ delay < duration, stopAfter = some delay)
      (signals.pause i duration stopAfter).1 := by
  cases stopAfter with
  | none => simpa [StopSignals.pause] using h.check i
  | some delay =>
    by_cases hdelay : delay < duration
    · have hstopped := cancelledIff_check_of_iff (iff_true_intro (h.isStopped_stop hi))
      simpa [StopSignals.pause, hdelay, CancelledIff] using hstopped
    · simpa [StopSignals.pause, hdelay] using h.check i

end Answers

end KeyProvisioning.SharedSignals
