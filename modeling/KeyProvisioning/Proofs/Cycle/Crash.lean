import KeyProvisioning.Proofs.Cycle.CountPeriod
import KeyProvisioning.Proofs.Dialogue.Stopping

/-!
# Crashes

A collaborator that crashes takes the cycle down with it: the crashed call is the last one. It does
not count as a failure, and the settings stay as the last completed call to the store left them.
-/

namespace KeyProvisioning

/-! ## The store under a script -/

variable {store store' : SettingsStore}

/-- A real store is not taken down by a change of settings. -/
theorem SettingsStore.replyUpdate_ne_crashed {change : SettingsChange} :
    store.replyUpdate change ≠ (.crashed, store') := by
  unfold replyUpdate
  split
  · simp [Reply.ofStore]
  · simp [Reply.ofStore]
  · rename_i hcrashed
    cases store with
    | memory inner =>
      cases hpoisoned : inner.poisoned <;> simp [update, MemoryStore.update, hpoisoned] at hcrashed
    | file inner =>
      revert hcrashed
      simp only [update, FileStore.update]
      repeat' split
      all_goals simp

/-- A scripted call leaves the store alone if it is for somebody else or crashes. -/
theorem Script.store_of_reply {script : Script} {n : Nat} {call : Call} {reply : Reply call.Answer}
    (h : script.reply n store call = (reply, store'))
    (idle : call.isStore = true → reply.callEnd = .crashed) : store' = store := by
  have horElse {α : Type} {scripted : Reply Unit}
      {access : SettingsStore → Reply α × SettingsStore} {result : Reply α}
      (access_ne : access store ≠ (.crashed, store'))
      (h : scripted.orElseStore store access = (result, store'))
      (hresult : result.callEnd = .crashed) : store' = store := by
    have hcrashed : result = .crashed := by
      rcases result with (_ | _) | _
      · cases hresult
      · cases hresult
      · rfl
    subst hcrashed
    rcases scripted with (fault | _) | _
    · exact (Prod.mk.inj h).2.symm
    · exact absurd h access_ne
    · exact (Prod.mk.inj h).2.symm
  cases call with
  | loadSettings =>
    exact horElse (by simp [SettingsStore.replyLoad, Reply.ofStore]) h (idle rfl)
  | updateSettings change => exact horElse SettingsStore.replyUpdate_ne_crashed h (idle rfl)
  | clearSettings =>
    exact horElse (by simp [SettingsStore.replyClear, Reply.ofStore]) h (idle rfl)
  | _ => exact (Prod.mk.inj h).2.symm

namespace Rehearsal

variable {script : Script} {start final : Rehearsal} {turns : List Turn}

/-- The collaborators of a script answer as they do in a rehearsal. -/
theorem reply_script (script : Script) (call : Call) (rehearsal : Rehearsal) :
    script.surroundings.reply call (rehearsal.store, rehearsal.past) =
      ((rehearsal.reply script call).1, (rehearsal.reply script call).2.store,
        (rehearsal.reply script call).2.past) := rfl

/-- Turns in which no call of the store is completed leave the store alone. -/
theorem store_of_path (h : (surroundings script).Path start turns final)
    (idle : ∀ turn ∈ turns, turn.call.isStore = true → turn.event.callEnd = .crashed) :
    final.store = start.store := by
  induction h with
  | nil state => rfl
  | @cons call state between final reply turns replied rest ih =>
    have hbetween : between.store = state.store := by
      obtain ⟨hreply, rfl⟩ := Prod.mk.inj replied
      exact Script.store_of_reply (Prod.ext hreply rfl) (idle _ List.mem_cons_self)
    rw [ih fun turn hmem => idle turn (List.mem_cons_of_mem _ hmem), hbetween]

/-- What calls leave behind in a rehearsal is what they leave behind under its script. -/
theorem stateAfter_script (script : Script) (calls : List Call) (rehearsal : Rehearsal) :
    let after := (surroundings script).stateAfter calls rehearsal
    (after.store, after.past) =
      script.surroundings.stateAfter calls (rehearsal.store, rehearsal.past) := by
  induction calls generalizing rehearsal with
  | nil => rfl
  | cons call calls ih => exact ih (rehearsal.reply script call).2

/-- A run leaves the store as its last completed call to the store left it. -/
theorem store_run {α : Type} (dialogue : Dialogue α) {before rest : List Event}
    (hevents : (dialogue.run (surroundings script) start).events = before ++ rest)
    (idle : ∀ event ∈ rest, event.call.isStore = true → event.callEnd = .crashed) :
    (dialogue.run (surroundings script) start).state.store =
      (script.surroundings.stateAfter (before.map Event.call) (start.store, start.past)).1 := by
  rw [Dialogue.events_run] at hevents
  obtain ⟨first, last, hturns, rfl, rfl⟩ := List.map_eq_append_iff.mp hevents
  have hpath := Dialogue.path_run (surroundings script) dialogue start
  rw [hturns] at hpath
  obtain ⟨between, hfirst, hlast⟩ := hpath.split
  have hcalls : (first.map Turn.event).map Event.call = first.map Turn.call := by
    rw [List.map_map]
    rfl
  rw [hcalls, ← stateAfter_script script _ start, ← hfirst.eq_stateAfter]
  exact store_of_path hlast fun turn hmem => idle turn.event (List.mem_map_of_mem hmem)

end Rehearsal

namespace Cycle

/-- A cycle taken down ends with the call that crashes. If it has counted a failure before, then
that of the fault that ended its work, and the crash is in the reset for too many of them. -/
theorem exists_crash_of_none {σ : Type} {surroundings : Surroundings σ} {config : Config}
    {now : Nat} {state : σ} (h : ((run config now).run surroundings state).value = none) :
    let work := (attempt config now).run.run surroundings state
    ∃ front call, ((run config now).run surroundings state).events = front ++ [⟨call, .crashed⟩] ∧
      (∀ event ∈ front, event.callEnd ≠ .crashed) ∧
      (.updateSettings .countFailure ∈ front.map Event.call → call = .clearSettings ∧
        ∃ fault, fault.counted = true ∧ work.value = some (.error fault) ∧
          front = work.events ++ [⟨.updateSettings .countFailure, .succeeded⟩]) := by
  intro work
  have htalk := Dialogue.talk_run surroundings (fun _ _ => trivial)
    (run config now) state
  rw [h] at htalk
  obtain ⟨front, call, hturns, hfront⟩ := htalk.exists_eq_append
  refine ⟨front.map Turn.event, call, ?_, ?_, ?_⟩
  · rw [Dialogue.events_run, hturns, List.map_append]
    rfl
  · simpa using hfront
  · intro hcount
    have hcount : .updateSettings .countFailure ∈ front.map Turn.call := by
      rw [List.map_map] at hcount
      exact hcount
    obtain ⟨ending, last, hvalue, hgoes, hafter, hparts⟩ :=
      run_course surroundings (fun _ _ => trivial) config now state
    have hnot := attempt_count_not_mem hgoes
    rw [hturns] at hparts
    rw [h] at hafter
    rcases ending with (_ | fault) | outcome
    · obtain ⟨rfl, -⟩ := hafter
      rw [List.append_nil] at hparts
      refine absurd ?_ hnot
      rw [← hparts, List.map_append]
      exact List.mem_append_left _ hcount
    · cases hafter with
      | crashed hcounted =>
        obtain ⟨rfl, -⟩ := List.append_inj' hparts rfl
        exact absurd hcount hnot
      | resetCrashed hcounted settings above =>
        rw [List.append_cons (attempt config now |>.run.turns surroundings state)] at hparts
        obtain ⟨rfl, hlast⟩ := List.append_inj' hparts rfl
        obtain rfl := congrArg Turn.call (List.singleton_inj.mp hlast)
        refine ⟨rfl, fault, hcounted, hvalue.symm, ?_⟩
        rw [List.map_append, Dialogue.events_run]
        rfl
    · cases hafter.2

end Cycle

end KeyProvisioning
