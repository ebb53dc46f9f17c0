import KeyProvisioning.Stop

/-!
# Handles and their signals

Every handle that was made is of a signal that is there. A stop through one handle raises the
signal of that handle and no other.
-/

namespace KeyProvisioning.StopSignals

variable {signals : StopSignals} {i signal : Nat}

/-- Every handle is of a signal that is there. -/
def Sound (signals : StopSignals) : Prop :=
  ∀ signal ∈ signals.handles, signal < signals.raised.length

theorem sound_empty : empty.Sound := by
  simp [Sound, empty]

/-- A fresh signal leaves the others there. -/
theorem Sound.new (h : signals.Sound) : signals.new.Sound := by
  intro signal hmem
  simp only [StopSignals.new, List.mem_append, List.mem_singleton] at hmem
  simp only [StopSignals.new, List.length_append, List.length_singleton]
  rcases hmem with hmem | rfl
  · exact Nat.lt_succ_of_lt (h signal hmem)
  · exact Nat.lt_succ_self _

theorem Sound.clone (h : signals.Sound) (i : Nat) : (signals.clone i).Sound := by
  unfold StopSignals.clone
  split
  · rename_i signal hsignal
    intro other hmem
    rcases List.mem_append.mp hmem with hmem | hmem
    · exact h other hmem
    · rw [List.mem_singleton.mp hmem]
      exact h signal (List.mem_of_getElem? hsignal)
  · exact h

@[simp] theorem handles_stop (signals : StopSignals) (i : Nat) :
    (signals.stop i).handles = signals.handles := by
  unfold stop
  split <;> rfl

@[simp] theorem length_raised_stop (signals : StopSignals) (i : Nat) :
    (signals.stop i).raised.length = signals.raised.length := by
  unfold stop
  split
  · exact List.length_set
  · rfl

theorem Sound.stop (h : signals.Sound) (i : Nat) : (signals.stop i).Sound := by
  intro signal hmem
  rw [length_raised_stop]
  exact h signal (handles_stop signals i ▸ hmem)

/-- A wait ends with the signals as they were, or with one more raised. -/
theorem pause_snd (signals : StopSignals) (i duration : Nat) (stopAfter : Option Nat) :
    (signals.pause i duration stopAfter).2 = signals ∨
      (signals.pause i duration stopAfter).2 = signals.stop i := by
  unfold pause
  split
  · exact .inl rfl
  · split <;> exact .inr rfl

/-- No operation makes a handle of a signal that is not there. -/
theorem Sound.perform (h : signals.Sound) (operation : StopOperation) :
    (signals.perform operation).2.Sound := by
  cases operation with
  | new => exact h.new
  | clone i => exact h.clone i
  | stop i => exact h.stop i
  | isStopped i => exact h
  | check i => exact h
  | pause i duration stopAfter =>
    change (signals.pause i duration stopAfter).2.Sound
    rcases pause_snd signals i duration stopAfter with heq | heq
    · rw [heq]
      exact h
    · rw [heq]
      exact h.stop i

theorem Sound.performAll (h : signals.Sound) (operations : List StopOperation) :
    (signals.performAll operations).2.Sound := by
  induction operations generalizing signals with
  | nil => exact h
  | cons operation rest ih => exact ih (h.perform operation)

/-- A handle tells whether its signal is raised. -/
theorem isStopped_eq (h : signals.handles[i]? = some signal) :
    signals.isStopped i = signals.raised[signal]?.getD false := by
  simp only [isStopped, h]

/-- A stop is seen through every handle of the same signal. -/
theorem isStopped_stop_of_eq {j : Nat} (hi : signals.handles[i]? = some signal)
    (hj : signals.handles[j]? = some signal) (hlt : signal < signals.raised.length) :
    (signals.stop i).isStopped j = true := by
  rw [isStopped_eq ((handles_stop signals i).symm ▸ hj)]
  simp only [stop, hi, List.getElem?_set_self hlt, Option.getD_some]

/-- A stop is not seen through the handles of other signals. -/
theorem isStopped_stop_of_ne {j : Nat} (hi : signals.handles[i]? ≠ some signal)
    (hj : signals.handles[j]? = some signal) :
    (signals.stop i).isStopped j = signals.isStopped j := by
  rw [isStopped_eq hj, isStopped_eq ((handles_stop signals i).symm ▸ hj)]
  unfold stop
  split
  · rename_i other hother
    have hne : other ≠ signal := by
      rintro rfl
      exact hi hother
    rw [List.getElem?_set_ne hne]
  · rfl

end KeyProvisioning.StopSignals
