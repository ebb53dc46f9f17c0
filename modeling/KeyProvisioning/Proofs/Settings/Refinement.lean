import KeyProvisioning.Proofs.Settings.FileStore

/-!
# A file store is used like a memory store

A store is used by loading, updating and clearing it, and a store of a file can be replaced by a
new store object on the same file. What a use answers depends on the settings that the store
holds, so two stores that hold the same settings answer alike for as long as both take over every
update. A file refuses the updates to settings that no document can hold.
-/

namespace KeyProvisioning

/-- A use of a store in which nothing crashes. The changes that a cycle makes are updates. -/
inductive StoreUse
  | load
  | update (revise : Settings → Settings)
  | clear
  /-- A new store object in the same place. -/
  | reopen

namespace StoreUse

/-- The settings after a use, where updates are taken over. -/
def revised (settings : Settings) : StoreUse → Settings
  | load => settings
  | update revise => revise settings
  | clear => .default
  | reopen => settings

/-- What a use answers, where updates are taken over. -/
def answer (settings : Settings) : StoreUse → StoreAnswer
  | load => .settings (.ok settings)
  | update revise => .settings (.ok (revise settings))
  | clear => .cleared (.ok ())
  | reopen => .reopened

/-- No use yields settings that no document can hold. -/
def Fits : Settings → List StoreUse → Prop
  | _, [] => True
  | settings, use :: rest => (use.revised settings).IsWritable ∧ Fits (use.revised settings) rest

section

variable {σ : Type} (perform : σ → StoreUse → StoreAnswer × σ)

/-- The answers to uses made one after another. -/
def answers (store : σ) : List StoreUse → List StoreAnswer
  | [] => []
  | use :: rest => (perform store use).1 :: answers (perform store use).2 rest

/-- The store after uses made one after another. -/
def after (store : σ) : List StoreUse → σ
  | [] => store
  | use :: rest => after (perform store use).2 rest

end

end StoreUse

/-- Use a store of a file. -/
def FileStore.use (store : FileStore) : StoreUse → StoreAnswer × FileStore
  | .load => (.settings store.load, store)
  | .update revise =>
    let (outcome, store') := store.update fun settings => some (revise settings)
    (outcome.answer, store')
  | .clear => (.cleared store.clear.1, store.clear.2)
  | .reopen => (.reopened, .new store.disk)

/-- Use a store in memory, which has no place in which another store could be opened: it stays. -/
def MemoryStore.use (store : MemoryStore) : StoreUse → StoreAnswer × MemoryStore
  | .load => (.settings store.load, store)
  | .update revise =>
    let (outcome, store') := store.update fun settings => some (revise settings)
    (outcome.answer, store')
  | .clear => (.cleared store.clear.1, store.clear.2)
  | .reopen => (.reopened, store)

/-! ## The calls of stores -/

/-- The use that a call makes of a store, if it neither crashes nor goes around the store. -/
def StoreCall.use? : StoreCall → Option StoreUse
  | .load => some .load
  | .change made => some (.update fun settings => made.apply settings)
  | .patch fields => some (.update fields.apply)
  | .crash => none
  | .clear => some .clear
  | .reopen => some .reopen
  | .edit _ => none

theorem SettingsStore.perform_file {call : StoreCall} {use : StoreUse} (h : call.use? = some use)
    (store : FileStore) :
    (SettingsStore.file store).perform call = ((store.use use).1, .file (store.use use).2) := by
  cases call <;> cases h <;> rfl

theorem SettingsStore.perform_memory {call : StoreCall} {use : StoreUse} (h : call.use? = some use)
    (hcall : call ≠ .reopen) (store : MemoryStore) :
    (SettingsStore.memory store).perform call =
      ((store.use use).1, .memory (store.use use).2) := by
  cases call <;> cases h <;> first | rfl | exact absurd rfl hcall

/-! ## One use -/

/-- Memory takes over every update. -/
theorem MemoryStore.use_new (settings : Settings) (use : StoreUse) :
    (MemoryStore.new settings).use use = (use.answer settings, .new (use.revised settings)) := by
  cases use <;> rfl

namespace FileStore

variable {store : FileStore} {settings : Settings}

/-- A file takes over what a document can hold. -/
theorem Holds.use_of_isWritable (h : store.Holds settings) {use : StoreUse}
    (hwritable : (use.revised settings).IsWritable) :
    (store.use use).1 = use.answer settings ∧ (store.use use).2.Holds (use.revised settings) := by
  cases use with
  | load =>
    constructor
    · rw [FileStore.use, h.load]
      rfl
    · exact h
  | update revise =>
    obtain ⟨store', hupdate, hholds⟩ := h.update_of_isWritable revise hwritable
    rw [FileStore.use, hupdate]
    exact ⟨rfl, hholds⟩
  | clear =>
    obtain ⟨store', hclear, hholds⟩ := h.clear
    rw [FileStore.use, hclear]
    exact ⟨rfl, hholds⟩
  | reopen => exact ⟨rfl, h.new⟩

/-- A file refuses what no document can hold, and nothing changes. -/
theorem Holds.use_of_not_isWritable (h : store.Holds settings) {use : StoreUse}
    (hnot : ¬ (use.revised settings).IsWritable) :
    store.use use = (.settings (.error .write), store) := by
  cases use with
  | load => exact absurd h.isWritable hnot
  | update revise =>
    rw [FileStore.use, h.update_of_not_isWritable revise hnot]
    rfl
  | clear => exact absurd Settings.isWritable_default hnot
  | reopen => exact absurd h.isWritable hnot

/-! ## All uses -/

/-- After any uses a file store holds some settings. -/
theorem Holds.after (h : store.Holds settings) (uses : List StoreUse) :
    ∃ settings', (StoreUse.after FileStore.use store uses).Holds settings' := by
  induction uses generalizing store settings with
  | nil => exact ⟨settings, h⟩
  | cons use rest ih =>
    rw [StoreUse.after]
    by_cases hwritable : (use.revised settings).IsWritable
    · exact ih (h.use_of_isWritable hwritable).2
    -- a refused use leaves the store as it is, so the hypothesis serves for the rest
    · rw [h.use_of_not_isWritable hwritable]
      exact ih h

/-- As long as no use yields settings that no document can hold, a file answers as memory does. -/
theorem Holds.answers (h : store.Holds settings) {uses : List StoreUse}
    (fits : StoreUse.Fits settings uses) :
    StoreUse.answers FileStore.use store uses =
      StoreUse.answers MemoryStore.use (.new settings) uses := by
  induction uses generalizing store settings with
  | nil => rfl
  | cons use rest ih =>
    obtain ⟨hwritable, hrest⟩ := fits
    obtain ⟨hanswer, hholds⟩ := h.use_of_isWritable hwritable
    rw [StoreUse.answers, StoreUse.answers, MemoryStore.use_new, hanswer, ih hholds hrest]

/-- A file store that begins without its file, on a working disk, is used like a memory store
that begins with the defaults. At any time it loads some settings, and goes on like a memory
store that holds these. Only an update to settings that no document can hold is different: it is
refused, and the file store stays as it is. -/
theorem refines_memory {disk : Disk} (working : disk.IsWorking)
    (missing : disk.target = .missing) :
    (∀ uses, StoreUse.Fits .default uses →
      StoreUse.answers FileStore.use (.new disk) uses =
        StoreUse.answers MemoryStore.use (.new .default) uses) ∧
    ∀ past, ∃ settings,
      let store := StoreUse.after FileStore.use (.new disk) past
      store.load = .ok settings ∧
      (∀ uses, StoreUse.Fits settings uses →
        StoreUse.answers FileStore.use store uses =
          StoreUse.answers MemoryStore.use (.new settings) uses) ∧
      ∀ revise : Settings → Settings, ¬ (revise settings).IsWritable →
        store.use (.update revise) = (.settings (.error .write), store) := by
  have hnew := holds_new_of_missing working missing
  constructor
  · intro uses fits
    exact hnew.answers fits
  · intro past
    obtain ⟨settings, hholds⟩ := hnew.after past
    refine ⟨settings, hholds.load, ?_, ?_⟩
    · intro uses fits
      exact hholds.answers fits
    · intro revise hnot
      exact hholds.use_of_not_isWritable hnot

/-- A server address that has to be written with escapes, on several lines. -/
def crookedUrl : Settings → Settings := fun settings =>
  { settings with serverUrl := "\"\"\"\n'''\r\\\u007f" }

/-- An interval that no document can hold. -/
def endlessRefresh : Settings → Settings := fun settings =>
  { settings with refreshSeconds := 0x8000000000000000 }

/-- A store that is opened anew, and one update that is refused. -/
theorem refines_memory_reopened :
    let store := FileStore.new ⟨.missing, .missing, true⟩
    StoreUse.answers FileStore.use store [.update crookedUrl, .reopen, .load, .clear, .load] =
        [.settings (.ok (crookedUrl .default)), .reopened, .settings (.ok (crookedUrl .default)),
          .cleared (.ok ()), .settings (.ok .default)] ∧
      store.use (.update endlessRefresh) = (.settings (.error .write), store) := by
  have working : (⟨.missing, .missing, true⟩ : Disk).IsWorking := ⟨rfl, by decide, by decide⟩
  have fits : StoreUse.Fits .default [.update crookedUrl, .reopen, .load, .clear, .load] := by
    simp only [StoreUse.Fits, StoreUse.revised]
    decide
  obtain ⟨hanswers, hpast⟩ := refines_memory working rfl
  constructor
  · exact hanswers _ fits
  · obtain ⟨settings, hload, -, hrefused⟩ := hpast []
    have hdefault : settings = .default := (Except.ok.inj hload).symm
    subst hdefault
    exact hrefused endlessRefresh (by decide)

end FileStore

end KeyProvisioning
