import KeyProvisioning.Proofs.Settings.FileStore

/-!
# Writes of a file store are all or nothing

A call of a file store that writes takes its steps beside the file, and only the last one, the
renaming, touches the file itself. So at every moment the file is what it was, or the whole
document of the new settings, and it is the latter exactly after a call that succeeds.
-/

namespace KeyProvisioning

/-! ## Steps -/

namespace Disk

variable {disk disk' : Disk}

/-- No step but the renaming touches the target. -/
theorem target_perform {step : WriteStep} (h : disk.perform step = some disk')
    (hstep : step ≠ .replace) : disk'.target = disk.target := by
  cases step with
  | create =>
    rw [perform] at h
    split at h
    · cases h
      rfl
    · cases h
  | append octet =>
    rw [perform] at h
    split at h
    · cases h
      rfl
    · cases h
  | replace => exact absurd rfl hstep

theorem target_performAll {steps : List WriteStep} (h : .replace ∉ steps) :
    (disk.performAll steps).2.target = disk.target := by
  induction steps generalizing disk with
  | nil => rfl
  | cons step rest ih =>
    rw [List.mem_cons, not_or] at h
    rw [performAll]
    cases hperform : disk.perform step with
    | none => rfl
    | some disk' => exact (ih h.2).trans (target_perform hperform (Ne.symm h.1))

/-- The renaming is the last step of a replacement. -/
theorem replace_not_mem_take {content : Bytes} {n : Nat}
    (h : n < (replacementSteps content).length) :
    .replace ∉ (replacementSteps content).take n := by
  have hbefore : n ≤ (WriteStep.create :: content.map .append).length := by
    simp only [replacementSteps, List.length_append, List.length_singleton] at h
    omega
  rw [replacementSteps, List.take_append_of_le_length hbefore]
  intro hmem
  simpa using List.mem_of_mem_take hmem

end Disk

/-! ## Documents -/

/-- The target is a file that holds the document of these settings and nothing else. -/
def Disk.HoldsDocument (disk : Disk) (settings : Settings) : Prop :=
  ∃ text, settings.render? = some text ∧ disk.target = .file (Utf8.encode text.toList)

namespace FileStore

/-- What is read depends on the target alone. -/
theorem read_congr {disk disk' : Disk} (h : disk'.target = disk.target) :
    read disk' = read disk := by
  rw [read, read, h]

/-- The document of settings is read as these settings. -/
theorem read_of_holdsDocument {disk : Disk} {settings : Settings}
    (h : disk.HoldsDocument settings) :
    read disk = .ok settings := by
  obtain ⟨text, hrender, htarget⟩ := h
  have htext : disk.target.readText = .ok text := by
    rw [htarget, DiskEntry.readText, Utf8.text?_encode]
  rw [read, htext]
  simp only [Settings.parse?_render? hrender]

/-- The steps in which settings are written. There are none if no document can hold the
settings. -/
def writeSteps (settings : Settings) : List WriteStep :=
  match settings.render? with
  | some text => Disk.replacementSteps (Utf8.encode text.toList)
  | none => []

theorem disk_write (disk : Disk) (settings : Settings) :
    (write disk settings).2 = (disk.performAll (writeSteps settings)).2 := by
  rw [write, writeSteps]
  cases settings.render? with
  | none => rfl
  | some text =>
    simp only [Disk.replaceTarget]
    rcases disk.performAll (Disk.replacementSteps (Utf8.encode text.toList)) with
      ⟨_ | _, disk'⟩ <;> rfl

theorem replace_not_mem_take_writeSteps {settings : Settings} {n : Nat}
    (h : n < (writeSteps settings).length) : .replace ∉ (writeSteps settings).take n := by
  unfold writeSteps at h ⊢
  split
  · rename_i hrender
    rw [hrender] at h
    exact Disk.replace_not_mem_take h
  · simp

/-- Writing settings succeeds with their document in place and no temporary file, or it fails and
the target is what it was. -/
theorem write_ok_or_error (disk : Disk) (settings : Settings) :
    (∃ disk', write disk settings = (.ok (), disk') ∧ disk'.HoldsDocument settings ∧
      disk'.temporary = .missing) ∨
    ∃ fault disk', write disk settings = (.error fault, disk') ∧ disk'.target = disk.target := by
  rw [write]
  cases hrender : settings.render? with
  | none => exact .inr ⟨_, disk, rfl, rfl⟩
  | some text =>
    simp only [Disk.replaceTarget_eq]
    by_cases hblocked : disk.hasParent = false ∨ disk.temporary = .directory
    · rw [if_pos hblocked]
      exact .inr ⟨_, disk, rfl, rfl⟩
    rw [if_neg hblocked]
    by_cases htarget : disk.target = .directory
    · rw [if_pos htarget]
      exact .inr ⟨_, _, rfl, rfl⟩
    · rw [if_neg htarget]
      exact .inl ⟨_, rfl, ⟨text, hrender, rfl⟩, rfl⟩

end FileStore

/-! ## Calls that write -/

/-- A call of a store that writes. -/
inductive WriteCall
  /-- An update, which may crash; taking over a policy and changing the count of failures are
  updates. -/
  | update (revise : Revision)
  | clear

namespace WriteCall

variable {store : FileStore} {call : WriteCall}

/-- Make the call. Clearing stores the defaults. -/
def perform (store : FileStore) : WriteCall → UpdateOutcome × FileStore
  | update revise => store.update revise
  | clear =>
    match store.clear with
    | (.ok (), store') => (.stored .default, store')
    | (.error fault, store') => (.failed fault, store')

/-- The settings that the call is about to write, if it gets so far. -/
def settings? (store : FileStore) (call : WriteCall) : Option Settings :=
  if store.poisoned then none
  else
    match call with
    | update revise => (FileStore.read store.disk).toOption.bind revise
    | clear => some .default

/-- The steps that the call takes on the disk. -/
def steps (store : FileStore) (call : WriteCall) : List WriteStep :=
  (call.settings? store).elim [] FileStore.writeSteps

/-- A call that has no settings to write leaves the disk as it is and does not succeed. -/
theorem perform_of_settings?_eq_none (h : call.settings? store = none) :
    (call.perform store).2.disk = store.disk ∧
      ∀ settings, (call.perform store).1 ≠ .stored settings := by
  unfold settings? at h
  cases call with
  | update revise =>
    rw [perform, FileStore.update]
    cases hpoisoned : store.poisoned with
    | true => simp
    | false =>
      cases hread : FileStore.read store.disk with
      | error fault => simp
      | ok old =>
        have hcrash : revise old = none := by simpa [hpoisoned, hread, Except.toOption] using h
        simp [hcrash]
  | clear =>
    have hpoisoned : store.poisoned = true := by simpa using h
    rw [perform, FileStore.clear, if_pos hpoisoned]
    simp

/-- A call that has settings to write ends as their writing does. -/
theorem perform_of_settings?_eq_some {settings : Settings}
    (h : call.settings? store = some settings) :
    call.perform store =
      match FileStore.write store.disk settings with
      | (.ok (), disk) => (.stored settings, { store with disk })
      | (.error fault, disk) => (.failed fault, { store with disk }) := by
  unfold settings? at h
  cases hpoisoned : store.poisoned with
  | true => simp [hpoisoned] at h
  | false =>
    rw [hpoisoned, if_neg Bool.false_ne_true] at h
    cases call with
    | update revise =>
      obtain ⟨old, hold, hrevise⟩ := Option.bind_eq_some_iff.mp h
      have hread : FileStore.read store.disk = .ok old := by
        cases hresult : FileStore.read store.disk with
        | error fault => simp [hresult, Except.toOption] at hold
        | ok found => simpa [hresult, Except.toOption] using hold
      rw [perform, FileStore.update, hpoisoned, if_neg Bool.false_ne_true, hread]
      rcases hwrite : FileStore.write store.disk settings with ⟨fault | _, disk⟩ <;>
        simp only [hrevise, hwrite]
    | clear =>
      cases h
      rw [perform, FileStore.clear, hpoisoned, if_neg Bool.false_ne_true]
      rcases FileStore.write store.disk .default with ⟨fault | _, disk⟩ <;> rfl

/-- What a call leaves on the disk is what its steps make of it. -/
theorem disk_perform (store : FileStore) (call : WriteCall) :
    (call.perform store).2.disk = (store.disk.performAll (call.steps store)).2 := by
  rw [steps]
  cases hsettings : call.settings? store with
  | none => exact (perform_of_settings?_eq_none hsettings).1
  | some settings =>
    rw [perform_of_settings?_eq_some hsettings, Option.elim_some, ← FileStore.disk_write]
    rcases FileStore.write store.disk settings with ⟨fault | _, disk⟩ <;> rfl

/-- A call succeeds with the document of its settings in place and no temporary file, or it does
not succeed and the target is what it was. -/
theorem perform_stored_or_kept (store : FileStore) (call : WriteCall) :
    (∃ settings, (call.perform store).1 = .stored settings ∧
      (call.perform store).2.disk.HoldsDocument settings ∧
      (call.perform store).2.disk.temporary = .missing) ∨
    (∀ settings, (call.perform store).1 ≠ .stored settings) ∧
      (call.perform store).2.disk.target = store.disk.target := by
  cases hsettings : call.settings? store with
  | none =>
    obtain ⟨hdisk, hfails⟩ := perform_of_settings?_eq_none hsettings
    exact .inr ⟨hfails, congrArg _ hdisk⟩
  | some settings =>
    rw [perform_of_settings?_eq_some hsettings]
    rcases FileStore.write_ok_or_error store.disk settings with
      ⟨disk, hwrite, hdocument, htemporary⟩ | ⟨fault, disk, hwrite, htarget⟩
    · rw [hwrite]
      exact .inl ⟨settings, rfl, hdocument, htemporary⟩
    · rw [hwrite]
      exact .inr ⟨fun _ => by simp, htarget⟩

/-- Until the last step of a call the target is what it was. -/
theorem target_take_steps {n : Nat} (h : n < (call.steps store).length) :
    (store.disk.performAll ((call.steps store).take n)).2.target = store.disk.target := by
  apply Disk.target_performAll
  unfold steps at h ⊢
  cases hsettings : call.settings? store with
  | none => simp
  | some settings =>
    rw [hsettings, Option.elim_some] at h
    exact FileStore.replace_not_mem_take_writeSteps h

/-- A call of a file store that writes, on a disk in any state. If it succeeds the file is the
document of the new settings and the temporary file is gone; if it fails or crashes the file is
what it was. Between the steps of the call, too, the file is what it was until the last step is
taken. So whoever reads it at any moment reads what was there before the call, or the settings
that the call goes on to answer with. -/
theorem write_all_or_nothing (store : FileStore) (call : WriteCall) :
    let done := call.perform store
    let between (n : Nat) := (store.disk.performAll ((call.steps store).take n)).2
    (∀ settings, done.1 = .stored settings →
      done.2.disk.HoldsDocument settings ∧ done.2.disk.temporary = .missing) ∧
    ((∀ settings, done.1 ≠ .stored settings) → done.2.disk.target = store.disk.target) ∧
    (∀ n < (call.steps store).length, (between n).target = store.disk.target) ∧
    (∀ n, (call.steps store).length ≤ n → between n = done.2.disk) ∧
    ∀ n, FileStore.read (between n) = FileStore.read store.disk ∨
      ∃ settings, done.1 = .stored settings ∧ FileStore.read (between n) = .ok settings := by
  intro done between
  have hend (n : Nat) (h : (call.steps store).length ≤ n) : between n = done.2.disk := by
    simp only [between, done]
    rw [List.take_of_length_le h, disk_perform]
  have houtcome := perform_stored_or_kept store call
  refine ⟨?_, ?_, fun n => target_take_steps, hend, fun n => ?_⟩
  · intro settings h
    rcases houtcome with ⟨other, hother, hdocument⟩ | ⟨hfails, -⟩
    · obtain rfl : other = settings := UpdateOutcome.stored.inj (hother.symm.trans h)
      exact hdocument
    · exact absurd h (hfails settings)
  · intro hfails
    rcases houtcome with ⟨settings, hsettings, -⟩ | ⟨-, htarget⟩
    · exact absurd hsettings (hfails settings)
    · exact htarget
  · by_cases hlast : n < (call.steps store).length
    · exact .inl (FileStore.read_congr (target_take_steps hlast))
    rw [hend n (Nat.not_lt.mp hlast)]
    rcases houtcome with ⟨settings, hsettings, hdocument, -⟩ | ⟨-, htarget⟩
    · exact .inr ⟨settings, hsettings, FileStore.read_of_holdsDocument hdocument⟩
    · exact .inl (FileStore.read_congr htarget)

/-- A file that cannot be renamed over a directory stays behind as a temporary file. -/
example :
    ((WriteCall.clear.perform (.new ⟨.directory, .missing, true⟩)).2.disk.target = .directory) ∧
    (WriteCall.clear.perform (.new ⟨.directory, .missing, true⟩)).2.disk.temporary ≠ .missing := by
  decide +kernel

end WriteCall

end KeyProvisioning
