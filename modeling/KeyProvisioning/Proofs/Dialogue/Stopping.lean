import KeyProvisioning.Cycle.Rehearsal
import KeyProvisioning.Proofs.Dialogue.Talk

/-!
# Stopping

Surroundings whose collaborators do not depend on the stop signal reply alike whether or not it is
raised. Here it is raised inside a chosen call. What a run leaves behind is read off its calls.
-/

namespace KeyProvisioning

variable {σ : Type}

/-- The surroundings with a stop signal that is raised inside the call that is so many calls away,
and raised from the beginning if that is none. -/
def Surroundings.stopping (surroundings : Surroundings σ) : Surroundings (σ × Nat) where
  reply call state :=
    let (reply, state') := surroundings.reply call state.1
    (reply, state', state.2 - 1)
  isStopped state := state.2 = 0

/-- The collaborators reply whether or not the signal is raised. -/
theorem Surroundings.reply_stopping {surroundings : Surroundings σ} {call : Call}
    {state state' : σ} {reply : Reply call.Answer}
    (h : surroundings.reply call state = (reply, state')) (away : Nat) :
    surroundings.stopping.reply call (state, away) = (reply, state', away - 1) := by
  simp only [stopping, h]

/-- The state that calls leave behind, made one after another. -/
def Surroundings.stateAfter (surroundings : Surroundings σ) (calls : List Call) (state : σ) : σ :=
  calls.foldl (fun state call => (surroundings.reply call state).2) state

@[simp] theorem Surroundings.stateAfter_nil (surroundings : Surroundings σ) (state : σ) :
    surroundings.stateAfter [] state = state := rfl

@[simp] theorem Surroundings.stateAfter_cons (surroundings : Surroundings σ) (call : Call)
    (calls : List Call) (state : σ) :
    surroundings.stateAfter (call :: calls) state =
      surroundings.stateAfter calls (surroundings.reply call state).2 := rfl

/-- The stop signal is not part of what calls leave behind. -/
theorem Surroundings.stateAfter_stopping (surroundings : Surroundings σ) (calls : List Call)
    (state : σ) (away : Nat) :
    (surroundings.stopping.stateAfter calls (state, away)).1 =
      surroundings.stateAfter calls state := by
  induction calls generalizing state away with
  | nil => rfl
  | cons call calls ih =>
    rw [stateAfter_cons, stateAfter_cons]
    exact ih _ _

/-- A path leads to what its calls leave behind. -/
theorem Surroundings.Path.eq_stateAfter {surroundings : Surroundings σ} {state final : σ}
    {turns : List Turn} (h : surroundings.Path state turns final) :
    final = surroundings.stateAfter (turns.map Turn.call) state := by
  induction h with
  | nil state => rfl
  | cons replied rest ih =>
    rw [List.map_cons, stateAfter_cons, replied]
    exact ih

/-- A run leaves behind what its calls do. -/
theorem Dialogue.state_run {α : Type} (surroundings : Surroundings σ) (dialogue : Dialogue α)
    (state : σ) :
    (dialogue.run surroundings state).state =
      surroundings.stateAfter ((dialogue.run surroundings state).events.map Event.call) state := by
  induction dialogue generalizing state with
  | finish value => rfl
  | ask call next ih =>
    rcases h : surroundings.reply call state with ⟨result | _, state'⟩
    · rw [run_ask_answered h]
      have hrest := ih result state'
      simp only [Run.after, List.map_cons, Surroundings.stateAfter_cons, h]
      exact hrest
    · rw [run_ask_crashed h]
      simp [h]
  | watch millis next ih => exact ih _ state

/-! ## Scripts -/

/-- The collaborators of a script, over a store and the methods called so far. -/
def Script.surroundings (script : Script) : Surroundings (SettingsStore × List Method) where
  reply call state :=
    let (reply, store) := script.reply (state.2.count call.method) state.1 call
    (reply, store, call.method :: state.2)
  isStopped _ := false

end KeyProvisioning
