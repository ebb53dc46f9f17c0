import KeyProvisioning.Cycle.Script
import KeyProvisioning.Proofs.Cycle.Plan

/-!
# Keeping settings

A store keeps settings if it answers with what it holds, makes a change to just that, and holds
the defaults after a reset. What it holds after some turns is then read off the turns, as long as
its calls succeed. A store in memory keeps settings.
-/

namespace KeyProvisioning

variable {σ : Type}

/-- What the store of these surroundings holds, in every state, is the settings stored in it:
they are loaded and changed, a reset replaces them by the defaults, and no other collaborator
touches them. -/
structure Surroundings.Keeps (surroundings : Surroundings σ) (stored : σ → Settings) : Prop where
  load : ∀ {state state' : σ} {settings : Settings},
    surroundings.reply .loadSettings state = (.answered (.ok settings), state') →
      settings = stored state ∧ stored state' = stored state
  update : ∀ {state state' : σ} {change : SettingsChange} {settings : Settings},
    surroundings.reply (.updateSettings change) state = (.answered (.ok settings), state') →
      settings = change.apply (stored state) ∧ stored state' = change.apply (stored state)
  clear : ∀ {state state' : σ},
    surroundings.reply .clearSettings state = (.answered (.ok ()), state') →
      stored state' = Settings.default
  other : ∀ {call : Call} {state state' : σ} {reply : Reply call.Answer},
    call.isStore = false → surroundings.reply call state = (reply, state') →
      stored state' = stored state

/-- No change touches the window in which keys count as expiring. -/
@[simp] theorem SettingsChange.expiringByMillis_apply (change : SettingsChange)
    (settings : Settings) :
    (change.apply settings).expiringByMillis = settings.expiringByMillis := by
  cases change <;> rfl

/-- Whether a turn with the store succeeds; turns with others count as well. -/
def Turn.Keeps (turn : Turn) : Prop :=
  turn.call.isStore = true → turn.event.callEnd = .succeeded

/-- Turns through which a store whose calls succeed goes from some settings to others. -/
inductive Keeping : Settings → List Turn → Settings → Prop
  | nil (held : Settings) : Keeping held [] held
  | load {held final : Settings} {turns : List Turn} (rest : Keeping held turns final) :
      Keeping held (⟨.loadSettings, .answered (.ok held)⟩ :: turns) final
  | update {held final : Settings} {change : SettingsChange} {turns : List Turn}
      (rest : Keeping (change.apply held) turns final) :
      Keeping held (⟨.updateSettings change, .answered (.ok (change.apply held))⟩ :: turns) final
  | clear {held final : Settings} {turns : List Turn} (rest : Keeping .default turns final) :
      Keeping held (⟨.clearSettings, .answered (.ok ())⟩ :: turns) final
  | other {held final : Settings} {turn : Turn} {turns : List Turn}
      (h : turn.call.isStore = false) (rest : Keeping held turns final) :
      Keeping held (turn :: turns) final

namespace Keeping

variable {held final : Settings} {turns first rest : List Turn}

theorem of_append (h : Keeping held (first ++ rest) final) :
    ∃ between, Keeping held first between ∧ Keeping between rest final := by
  induction first generalizing held with
  | nil => exact ⟨held, .nil held, h⟩
  | cons turn first ih =>
    cases h with
    | load tail =>
      obtain ⟨between, hfirst, hrest⟩ := ih tail
      exact ⟨between, .load hfirst, hrest⟩
    | update tail =>
      obtain ⟨between, hfirst, hrest⟩ := ih tail
      exact ⟨between, .update hfirst, hrest⟩
    | clear tail =>
      obtain ⟨between, hfirst, hrest⟩ := ih tail
      exact ⟨between, .clear hfirst, hrest⟩
    | other hother tail =>
      obtain ⟨between, hfirst, hrest⟩ := ih tail
      exact ⟨between, .other hother hfirst, hrest⟩

/-- The calls of a store that keeps settings succeed. -/
theorem keeps (h : Keeping held turns final) : ∀ turn ∈ turns, turn.Keeps := by
  induction h with
  | nil => simp
  | load _ ih | update _ ih | clear _ ih =>
    intro turn hturn
    rcases List.mem_cons.mp hturn with rfl | hturn
    · exact fun _ => rfl
    · exact ih turn hturn
  | other hother _ ih =>
    intro turn hturn
    rcases List.mem_cons.mp hturn with rfl | hturn
    · intro hstore
      rw [hother] at hstore
      cases hstore
    · exact ih turn hturn

/-- Turns with others leave the settings as they are. -/
theorem eq_of_others (h : Keeping held turns final)
    (hothers : ∀ turn ∈ turns, turn.call.isStore = false) : final = held := by
  induction h with
  | nil => rfl
  | load | update | clear =>
    have hstore := hothers _ List.mem_cons_self
    cases hstore
  | other _ _ ih => exact ih fun turn hturn => hothers turn (List.mem_cons_of_mem _ hturn)

/-- Only a reset touches the window in which keys count as expiring. -/
theorem expiringByMillis_eq (h : Keeping held turns final)
    (hreset : .clearSettings ∉ turns.map Turn.call) :
    final.expiringByMillis = held.expiringByMillis := by
  induction h with
  | nil => rfl
  | load _ ih | other _ _ ih => exact ih (List.not_mem_of_not_mem_cons hreset)
  | @update held final change turns _ ih =>
    calc
      final.expiringByMillis = (change.apply held).expiringByMillis :=
        ih (List.not_mem_of_not_mem_cons hreset)
      _ = held.expiringByMillis := change.expiringByMillis_apply held
  | clear => exact absurd List.mem_cons_self hreset

theorem eq_of_load {settings : Settings}
    (h : Keeping held [⟨.loadSettings, .answered (.ok settings)⟩] final) :
    settings = held ∧ final = held := by
  cases h with
  | load rest => cases rest; exact ⟨rfl, rfl⟩
  | other hother => cases hother

theorem eq_of_update {change : SettingsChange} {settings : Settings}
    (h : Keeping held (⟨.updateSettings change, .answered (.ok settings)⟩ :: turns) final) :
    settings = change.apply held ∧ Keeping (change.apply held) turns final := by
  cases h with
  | update rest => exact ⟨rfl, rest⟩
  | other hother => cases hother

theorem eq_of_clear {result : Except Fault Unit}
    (h : Keeping held [⟨.clearSettings, .answered result⟩] final) : final = .default := by
  cases h with
  | clear rest => cases rest; rfl
  | other hother => cases hother

end Keeping

theorem Reply.exists_eq_of_succeeded {α : Type} {reply : Reply α}
    (h : reply.callEnd = .succeeded) : ∃ answer, reply = .answered (.ok answer) := by
  rcases reply with (fault | answer) | _
  · cases h
  · exact ⟨answer, rfl⟩
  · cases h

/-- A store that keeps settings goes through turns as they say. -/
theorem Surroundings.Keeps.keeping {surroundings : Surroundings σ} {stored : σ → Settings}
    (keeps : surroundings.Keeps stored) {state final : σ} {turns : List Turn}
    (path : surroundings.Path state turns final) (h : ∀ turn ∈ turns, turn.Keeps) :
    Keeping (stored state) turns (stored final) := by
  induction path with
  | nil => exact .nil _
  | @cons call state between final reply turns replied rest ih =>
    have hrest := ih fun turn hturn => h turn (List.mem_cons_of_mem _ hturn)
    have hturn : call.isStore = true → reply.callEnd = .succeeded := h _ List.mem_cons_self
    cases hstore : call.isStore with
    | false =>
      rw [keeps.other hstore replied] at hrest
      exact .other hstore hrest
    | true =>
      obtain ⟨answer, rfl⟩ := Reply.exists_eq_of_succeeded (hturn hstore)
      cases call with
      | loadSettings =>
        obtain ⟨rfl, hheld⟩ := keeps.load replied
        rw [hheld] at hrest
        exact .load hrest
      | updateSettings change =>
        obtain ⟨rfl, hheld⟩ := keeps.update replied
        rw [hheld] at hrest
        exact .update hrest
      | clearSettings =>
        rw [keeps.clear replied] at hrest
        exact .clear hrest
      | _ => cases hstore

/-! ## A store in memory -/

/-- The reply of a store in memory to a call that would succeed; any other reply stays as it is. -/
def MemoryStore.reply (store : MemoryStore) :
    (call : Call) → Reply call.Answer → Reply call.Answer × MemoryStore
  | .loadSettings, .answered (.ok _) => (.ofStore store.load, store)
  | .updateSettings change, .answered (.ok _) =>
    match store.update fun settings => some (change.apply settings) with
    | (.stored settings, store') => (.ofStore (.ok settings), store')
    | (.failed fault, store') => (.ofStore (.error fault), store')
    | (.crashed, store') => (.crashed, store')
  | .clearSettings, .answered (.ok _) => (.ofStore store.clear.1, store.clear.2)
  | _, reply => (reply, store)

/-- The surroundings with a store in memory in place of theirs. -/
def Surroundings.withMemory (remote : Surroundings σ) : Surroundings (σ × MemoryStore) where
  reply call state :=
    let (reply, state') := remote.reply call state.1
    ((state.2.reply call reply).1, state', (state.2.reply call reply).2)
  isStopped state := remote.isStopped state.1

@[simp] theorem Reply.ofStore_ok {α : Type} (answer : α) :
    Reply.ofStore (.ok answer) = .answered (.ok answer) := rfl

@[simp] theorem Reply.ofStore_error {α : Type} (reason : SettingsFault) :
    (Reply.ofStore (.error reason) : Reply α) =
      .answered (.error (.ofCause (.settings reason))) := rfl

namespace MemoryStore

variable {store store' : MemoryStore} {settings : Settings}

theorem eq_of_reply_load {reply : Reply Settings}
    (h : store.reply .loadSettings reply = (.answered (.ok settings), store')) :
    settings = store.settings ∧ store' = store := by
  rcases reply with (fault | answer) | _
  · simp [MemoryStore.reply] at h
  · cases hpoisoned : store.poisoned <;>
      simp [MemoryStore.reply, load, hpoisoned] at h
    exact ⟨h.1.symm, h.2.symm⟩
  · simp [MemoryStore.reply] at h

theorem eq_of_reply_update {change : SettingsChange} {reply : Reply Settings}
    (h : store.reply (.updateSettings change) reply = (.answered (.ok settings), store')) :
    settings = change.apply store.settings ∧ store'.settings = change.apply store.settings := by
  rcases reply with (fault | answer) | _
  · simp [MemoryStore.reply] at h
  · cases hpoisoned : store.poisoned <;>
      simp [MemoryStore.reply, update, hpoisoned] at h
    exact ⟨h.1.symm, by rw [← h.2]⟩
  · simp [MemoryStore.reply] at h

theorem eq_of_reply_clear {reply : Reply Unit}
    (h : store.reply .clearSettings reply = (.answered (.ok ()), store')) :
    store'.settings = Settings.default := by
  rcases reply with (fault | answer) | _
  · simp [MemoryStore.reply] at h
  · cases hpoisoned : store.poisoned <;>
      simp [MemoryStore.reply, clear, hpoisoned] at h
    rw [← h]
  · simp [MemoryStore.reply] at h

theorem reply_of_other {call : Call} {reply : Reply call.Answer} (h : call.isStore = false) :
    store.reply call reply = (reply, store) := by
  cases call <;> first | rfl | cases h

end MemoryStore

/-- A store in memory keeps settings. -/
theorem Surroundings.keeps_withMemory (remote : Surroundings σ) :
    remote.withMemory.Keeps fun state => state.2.settings where
  load := by
    rintro state state' settings h
    obtain ⟨hreply, hstate⟩ := Prod.mk.inj h
    subst hstate
    obtain ⟨rfl, hstore⟩ := MemoryStore.eq_of_reply_load (Prod.ext hreply rfl)
    exact ⟨rfl, congrArg MemoryStore.settings hstore⟩
  update := by
    rintro state state' change settings h
    obtain ⟨hreply, hstate⟩ := Prod.mk.inj h
    subst hstate
    exact MemoryStore.eq_of_reply_update (Prod.ext hreply rfl)
  clear := by
    rintro state state' h
    obtain ⟨hreply, hstate⟩ := Prod.mk.inj h
    subst hstate
    exact MemoryStore.eq_of_reply_clear (Prod.ext hreply rfl)
  other := by
    rintro call state state' reply hother h
    obtain ⟨_, rfl⟩ := Prod.mk.inj h
    simp only [MemoryStore.reply_of_other hother]

end KeyProvisioning
