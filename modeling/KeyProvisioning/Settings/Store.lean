import KeyProvisioning.Disk
import KeyProvisioning.Fault
import KeyProvisioning.Settings.Basic

/-!
# Stores of settings

Settings are kept in memory or in a file. Every update replaces the whole snapshot at once. A
change may crash; then nothing is stored, and the store refuses every later call as poisoned. A
store that fails before it reaches the change is not poisoned.
-/

namespace KeyProvisioning

/-- How an update ended. -/
inductive UpdateOutcome
  | stored (settings : Settings)
  | failed (fault : SettingsFault)
  | crashed
  deriving DecidableEq, Repr

/-- A change of settings; one that answers nothing crashes. -/
abbrev Revision := Settings → Option Settings

/-! ## Memory -/

/-- Settings kept in memory. -/
structure MemoryStore where
  settings : Settings
  poisoned : Bool
  deriving DecidableEq, Repr

namespace MemoryStore

/-- A new store that holds these settings. -/
def new (settings : Settings) : MemoryStore := ⟨settings, false⟩

/-- The stored settings. -/
def load (store : MemoryStore) : Except SettingsFault Settings :=
  if store.poisoned then .error .lockPoisoned else .ok store.settings

/-- Change the stored settings. -/
def update (store : MemoryStore) (revise : Revision) : UpdateOutcome × MemoryStore :=
  if store.poisoned then (.failed .lockPoisoned, store)
  else
    match revise store.settings with
    | none => (.crashed, { store with poisoned := true })
    | some settings => (.stored settings, { store with settings })

/-- Store the defaults. -/
def clear (store : MemoryStore) : Except SettingsFault Unit × MemoryStore :=
  if store.poisoned then (.error .lockPoisoned, store)
  else (.ok (), { store with settings := Settings.default })

end MemoryStore

/-! ## A file -/

/-- Settings kept in a file. -/
structure FileStore where
  disk : Disk
  poisoned : Bool
  deriving DecidableEq, Repr

namespace FileStore

/-- A new store on a disk. -/
def new (disk : Disk) : FileStore := ⟨disk, false⟩

/-- Read the file; a missing file holds the defaults. -/
def read (disk : Disk) : Except SettingsFault Settings :=
  match disk.target.readText with
  | .error .notFound => .ok Settings.default
  | .error .unreadable => .error .read
  | .ok text =>
    match Settings.parse? text with
    | some settings => .ok settings
    | none => .error .parse

/-- Replace the file by the document of settings. Settings that cannot be written leave the disk
untouched. -/
def write (disk : Disk) (settings : Settings) : Except SettingsFault Unit × Disk :=
  match settings.render? with
  | none => (.error .write, disk)
  | some text =>
    match disk.replaceTarget (Utf8.encode text.toList) with
    | (true, disk') => (.ok (), disk')
    | (false, disk') => (.error .write, disk')

/-- The stored settings. -/
def load (store : FileStore) : Except SettingsFault Settings :=
  if store.poisoned then .error .lockPoisoned else read store.disk

/-- Change the stored settings. -/
def update (store : FileStore) (revise : Revision) : UpdateOutcome × FileStore :=
  if store.poisoned then (.failed .lockPoisoned, store)
  else
    match read store.disk with
    | .error fault => (.failed fault, store)
    | .ok settings =>
      match revise settings with
      | none => (.crashed, { store with poisoned := true })
      | some settings' =>
        match write store.disk settings' with
        | (.ok (), disk) => (.stored settings', { store with disk })
        | (.error fault, disk) => (.failed fault, { store with disk })

/-- Store the defaults, without looking at what is there. -/
def clear (store : FileStore) : Except SettingsFault Unit × FileStore :=
  if store.poisoned then (.error .lockPoisoned, store)
  else
    match write store.disk Settings.default with
    | (result, disk) => (result, { store with disk })

end FileStore

/-! ## Either -/

/-- A store of either kind. -/
inductive SettingsStore
  | memory (store : MemoryStore)
  | file (store : FileStore)
  deriving DecidableEq, Repr

namespace SettingsStore

/-- The stored settings. -/
def load : SettingsStore → Except SettingsFault Settings
  | memory store => store.load
  | file store => store.load

/-- Change the stored settings. -/
def update (store : SettingsStore) (revise : Revision) : UpdateOutcome × SettingsStore :=
  match store with
  | memory inner => ((inner.update revise).1, memory (inner.update revise).2)
  | file inner => ((inner.update revise).1, file (inner.update revise).2)

/-- Store the defaults. -/
def clear : SettingsStore → Except SettingsFault Unit × SettingsStore
  | memory store => (store.clear.1, memory store.clear.2)
  | file store => (store.clear.1, file store.clear.2)

/-- A new store object in the same place: the file as it is, or fresh memory. -/
def reopen : SettingsStore → SettingsStore
  | memory _ => memory (.new Settings.default)
  | file store => file (.new store.disk)

/-- Change the disk under a store; memory has none. The answer tells whether that succeeded. -/
def edit (store : SettingsStore) (change : DiskEdit) : Bool × SettingsStore :=
  match store with
  | memory inner => (false, memory inner)
  | file inner =>
    match inner.disk.edit change with
    | some disk => (true, file { inner with disk })
    | none => (false, file inner)

end SettingsStore

/-! ## Calls -/

/-- A call of a store, or something done around it. -/
inductive StoreCall
  | load
  | change (change : SettingsChange)
  | patch (patch : SettingsPatch)
  /-- An update whose change crashes. -/
  | crash
  | clear
  | reopen
  | edit (change : DiskEdit)
  deriving DecidableEq, Repr

/-- What a call answers. -/
inductive StoreAnswer
  | settings (result : Except SettingsFault Settings)
  | cleared (result : Except SettingsFault Unit)
  | crashed
  | reopened
  | edited (succeeded : Bool)

namespace UpdateOutcome

/-- The answer of the call that made an update. -/
def answer : UpdateOutcome → StoreAnswer
  | stored settings => .settings (.ok settings)
  | failed fault => .settings (.error fault)
  | crashed => .crashed

end UpdateOutcome

namespace SettingsStore

/-- Perform one call. -/
def perform (store : SettingsStore) : StoreCall → StoreAnswer × SettingsStore
  | .load => (.settings store.load, store)
  | .change change =>
    let (outcome, store') := store.update fun settings => some (change.apply settings)
    (outcome.answer, store')
  | .patch patch =>
    let (outcome, store') := store.update fun settings => some (patch.apply settings)
    (outcome.answer, store')
  | .crash =>
    let (outcome, store') := store.update fun _ => none
    (outcome.answer, store')
  | .clear =>
    let (result, store') := store.clear
    (.cleared result, store')
  | .reopen => (.reopened, store.reopen)
  | .edit change =>
    let (succeeded, store') := store.edit change
    (.edited succeeded, store')

/-- Perform calls one after another; each answer comes with the store after the call. -/
def performAll (store : SettingsStore) : List StoreCall → List (StoreAnswer × SettingsStore)
  | [] => []
  | call :: rest =>
    let (answer, store') := store.perform call
    (answer, store') :: store'.performAll rest

end SettingsStore

end KeyProvisioning
