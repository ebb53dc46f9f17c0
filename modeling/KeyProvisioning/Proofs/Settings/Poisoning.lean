import KeyProvisioning.Proofs.Settings.Replacement

/-!
# Poisoned stores

A change that crashes poisons the store object that made it. From then on every call of the
object is refused, whatever happens to the disk under it, and the crash leaves nothing behind: a
new store object finds the disk as if the crash and every later call of the old object had not
been.
-/

namespace KeyProvisioning

/-- What can happen to one store object. Taking over a policy and changing the count of failures
are updates. -/
inductive StoreOperation
  | load
  /-- An update, whose change may crash on some settings. -/
  | update (revise : Revision)
  | clear
  /-- A change made to the disk from outside. -/
  | edit (change : DiskEdit)

namespace StoreOperation

/-- Whether the disk is changed from outside. -/
def isEdit : StoreOperation → Bool
  | edit _ => true
  | _ => false

/-- The answer by which a poisoned store refuses a call. -/
def refusal? : StoreOperation → Option StoreAnswer
  | load | update _ => some (.settings (.error .lockPoisoned))
  | clear => some (.cleared (.error .lockPoisoned))
  | edit _ => none

end StoreOperation

/-- What a call does to its store object, unless it opens a new one. -/
def StoreCall.operation? : StoreCall → Option StoreOperation
  | .load => some .load
  | .change made => some (.update fun settings => some (made.apply settings))
  | .patch fields => some (.update fun settings => some (fields.apply settings))
  | .crash => some (.update fun _ => none)
  | .clear => some .clear
  | .reopen => none
  | .edit made => some (.edit made)

namespace SettingsStore

variable {store : SettingsStore} {operation : StoreOperation} {revise : Revision}
  {settings : Settings}

/-- Perform an operation. -/
def operate (store : SettingsStore) : StoreOperation → StoreAnswer × SettingsStore
  | .load => (.settings store.load, store)
  | .update revise => ((store.update revise).1.answer, (store.update revise).2)
  | .clear => (.cleared store.clear.1, store.clear.2)
  | .edit change => (.edited (store.edit change).1, (store.edit change).2)

theorem perform_eq_operate {call : StoreCall} (h : call.operation? = some operation)
    (store : SettingsStore) : store.perform call = store.operate operation := by
  cases call <;> cases h <;> rfl

/-- The store after operations, one after another. -/
def after (store : SettingsStore) : List StoreOperation → SettingsStore
  | [] => store
  | operation :: rest => after (store.operate operation).2 rest

@[simp] theorem after_nil (store : SettingsStore) : store.after [] = store := rfl

@[simp] theorem after_cons (store : SettingsStore) (operation : StoreOperation)
    (rest : List StoreOperation) :
    store.after (operation :: rest) = (store.operate operation).2.after rest := rfl

@[simp] theorem after_append (store : SettingsStore) (first rest : List StoreOperation) :
    store.after (first ++ rest) = (store.after first).after rest := by
  induction first generalizing store with
  | nil => rfl
  | cons operation first ih => exact ih _

/-- The steps that an operation of a store takes on the disk. -/
def steps : SettingsStore → StoreOperation → List WriteStep
  | file inner, .update revise => (WriteCall.update revise).steps inner
  | file inner, .clear => WriteCall.clear.steps inner
  | _, _ => []

/-- The store once it is poisoned: what it keeps stays as it is. -/
def poison : SettingsStore → SettingsStore
  | memory inner => memory { inner with poisoned := true }
  | file inner => file { inner with poisoned := true }

/-! ## What poisons a store -/

/-- A change that is reached and crashes poisons the store and does nothing else. -/
theorem operate_update_of_crash (reached : store.load = .ok settings)
    (crashes : revise settings = none) :
    store.operate (.update revise) = (.crashed, store.poison) := by
  cases store with
  | memory inner =>
    rw [SettingsStore.load, MemoryStore.load] at reached
    split at reached
    · cases reached
    · rename_i husable
      cases reached
      simp [operate, SettingsStore.update, MemoryStore.update, husable, crashes, poison,
        UpdateOutcome.answer]
  | file inner =>
    obtain ⟨husable, hread⟩ := FileStore.load_eq_ok_iff.mp reached
    simp [operate, SettingsStore.update, FileStore.update, husable, hread, crashes, poison,
      UpdateOutcome.answer]

/-- A store that cannot be read does not reach the change, and stays as it is. -/
theorem operate_update_of_not_reached {fault : SettingsFault} (unread : store.load = .error fault)
    (revise : Revision) :
    store.operate (.update revise) = (.settings (.error fault), store) := by
  cases store with
  | memory inner =>
    rw [SettingsStore.load, MemoryStore.load] at unread
    split at unread
    · rename_i hpoisoned
      cases unread
      simp [operate, SettingsStore.update, MemoryStore.update, hpoisoned, UpdateOutcome.answer]
    · cases unread
  | file inner =>
    rw [SettingsStore.load, FileStore.load] at unread
    split at unread
    · rename_i hpoisoned
      cases unread
      simp [operate, SettingsStore.update, FileStore.update, hpoisoned, UpdateOutcome.answer]
    · rename_i husable
      simp [operate, SettingsStore.update, FileStore.update, husable, unread, UpdateOutcome.answer]

/-! ## What a poisoned store does -/

/-- Every call of a poisoned store is refused, and the store stays as it is. -/
theorem operate_poison {answer : StoreAnswer} (refused : operation.refusal? = some answer)
    (store : SettingsStore) : store.poison.operate operation = (answer, store.poison) := by
  cases operation <;> cases refused <;> cases store <;> rfl

/-- No call of a poisoned store takes a step on the disk. -/
theorem steps_poison (store : SettingsStore) (operation : StoreOperation) :
    store.poison.steps operation = [] := by
  cases operation <;> cases store <;> rfl

/-- The disk under a poisoned store is changed from outside as ever. -/
theorem operate_edit_poison (store : SettingsStore) (change : DiskEdit) :
    store.poison.operate (.edit change) =
      ((store.operate (.edit change)).1, (store.operate (.edit change)).2.poison) := by
  cases store with
  | memory inner => rfl
  | file inner =>
    cases hedit : inner.disk.edit change with
    | none => simp [operate, edit, poison, hedit]
    | some disk => simp [operate, edit, poison, hedit]

/-- Of what happens to a poisoned store only the changes of the disk from outside remain. -/
theorem after_poison (store : SettingsStore) (later : List StoreOperation) :
    store.poison.after later = (store.after (later.filter StoreOperation.isEdit)).poison := by
  induction later generalizing store with
  | nil => rfl
  | cons operation later ih =>
    rw [after_cons]
    cases operation with
    | edit change =>
      rw [operate_edit_poison, ih]
      rfl
    | load | update revise | clear =>
      rw [operate_poison rfl, ih]
      rfl

@[simp] theorem reopen_poison (store : SettingsStore) : store.poison.reopen = store.reopen := by
  cases store <;> rfl

/-- A change that crashes on the settings that its store shows to it, in whatever has happened to
the store before, poisons the store and stores nothing. Whatever happens later, every call of the
store is refused and takes no step on the disk, so that only changes from outside reach the disk,
and a new store object finds it as if neither the crash nor a later call had been. A store that
fails before it shows its settings to a change stays as it is, not poisoned by it. -/
theorem crash_poisons_for_good (store : SettingsStore) {earlier : List StoreOperation}
    {revise : Revision} {shown : Settings} (reached : (store.after earlier).load = .ok shown)
    (crashes : revise shown = none) (later : List StoreOperation) :
    let final := store.after (earlier ++ .update revise :: later)
    let without := store.after (earlier ++ later.filter StoreOperation.isEdit)
    ((store.after earlier).operate (.update revise)).1 = .crashed ∧
    (∀ operation answer, operation.refusal? = some answer →
      final.operate operation = (answer, final) ∧ final.steps operation = []) ∧
    final = without.poison ∧ final.reopen = without.reopen ∧
    ∀ past failing fault, (store.after past).load = .error fault →
      (store.after past).operate (.update failing) =
        (.settings (.error fault), store.after past) := by
  intro final without
  have hcrash := operate_update_of_crash reached crashes
  have hfinal : final = without.poison := by
    calc
      final = (store.after earlier).poison.after later := by
        simp only [final, after_append, after_cons, hcrash]
      _ = ((store.after earlier).after (later.filter StoreOperation.isEdit)).poison :=
        after_poison _ later
      _ = without.poison := by simp only [without, after_append]
  refine ⟨by rw [hcrash], ?_, hfinal, ?_, ?_⟩
  · intro operation answer refused
    rw [hfinal]
    exact ⟨operate_poison refused without, steps_poison without operation⟩
  · rw [hfinal, reopen_poison]
  · intro past failing fault unread
    exact operate_update_of_not_reached unread failing

/-- A change that crashes on settings without failures. -/
def crashWithoutFailures : Revision := fun settings =>
  if settings.failures = 0 then none else some settings.withoutFailures

/-- The file is damaged and taken away before the crash, which is then the first to be reached,
and a directory is put in its place after it. -/
theorem crash_poisons_for_good_damaged :
    let store := file (.new ⟨.missing, .missing, true⟩)
    let earlier : List StoreOperation :=
      [.edit (.writeFile [0xFF]), .update crashWithoutFailures, .edit .removeFile]
    let final := store.after
      (earlier ++ .update crashWithoutFailures :: [.clear, .edit .makeDirectory, .load])
    final.operate .load = (.settings (.error .lockPoisoned), final) ∧
      final.reopen = file (.new ⟨.directory, .missing, true⟩) := by
  intro store earlier final
  have reached : (store.after earlier).load = .ok .default := rfl
  have crashes : crashWithoutFailures .default = none := rfl
  obtain ⟨-, refused, -, hreopen, -⟩ :=
    crash_poisons_for_good store reached crashes [.clear, .edit .makeDirectory, .load]
  exact ⟨(refused .load _ rfl).1, hreopen⟩

end SettingsStore

end KeyProvisioning
