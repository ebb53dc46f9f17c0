import KeyProvisioning.Proofs.Settings.Document
import KeyProvisioning.Proofs.Text.Characters
import KeyProvisioning.Settings.Store

/-!
# A file store on a working disk

Where neither name is taken by a directory, a file is replaced in full or not at all, and a store
that can be read holds one snapshot of settings. Everything that a use of the store does is said
by two lemmas: a snapshot that a document can hold is stored and read back, and any other one is
refused.
-/

namespace KeyProvisioning

/-! ## Replacing a file -/

namespace Disk

/-- A disk on which a file can be written beside the target and renamed over it. -/
structure IsWorking (disk : Disk) : Prop where
  hasParent : disk.hasParent = true
  target : disk.target ≠ .directory
  temporary : disk.temporary ≠ .directory

/-- A disk after its target was replaced. -/
def withTarget (disk : Disk) (content : Bytes) : Disk :=
  { disk with target := .file content, temporary := .missing }

theorem IsWorking.withTarget {disk : Disk} (h : disk.IsWorking) (content : Bytes) :
    (disk.withTarget content).IsWorking where
  hasParent := h.hasParent
  target := by simp [Disk.withTarget]
  temporary := by simp [Disk.withTarget]

/-- The octets are added to what the temporary file holds. -/
theorem performAll_map_append (disk : Disk) (written content : Bytes) (rest : List WriteStep) :
    performAll { disk with temporary := .file written } (content.map .append ++ rest) =
      performAll { disk with temporary := .file (written ++ content) } rest := by
  induction content generalizing written with
  | nil => simp
  | cons octet content ih =>
    have happend : perform { disk with temporary := .file written } (.append octet) =
        some { disk with temporary := .file (written ++ [octet]) } := rfl
    rw [List.map_cons, List.cons_append, performAll, happend]
    simpa using ih (written ++ [octet])

/-- A file is replaced in full, or its target stays: where the temporary file cannot be made
nothing changes, and where the target is a directory the temporary file is left behind. -/
theorem replaceTarget_eq (disk : Disk) (content : Bytes) :
    disk.replaceTarget content =
      if disk.hasParent = false ∨ disk.temporary = .directory then (false, disk)
      else if disk.target = .directory then (false, { disk with temporary := .file content })
      else (true, disk.withTarget content) := by
  rw [replaceTarget, replacementSteps, List.cons_append, performAll]
  by_cases hblocked : disk.hasParent = false ∨ disk.temporary = .directory
  · have hcreate : disk.perform .create = none := by
      rcases hblocked with hparent | htemporary
      · simp [perform, hparent]
      · simp [perform, htemporary]
    rw [hcreate, if_pos hblocked]
  · have hcreate : disk.perform .create = some { disk with temporary := .file [] } := by
      obtain ⟨hparent, htemporary⟩ := not_or.mp hblocked
      have hpresent : disk.hasParent = true := by simpa using hparent
      simp [perform, htemporary, hpresent]
    rw [hcreate, if_neg hblocked]
    refine (performAll_map_append disk [] content [.replace]).trans ?_
    obtain ⟨target, temporary, hasParent⟩ := disk
    cases target <;> rfl

/-- On a working disk a file is replaced in full. -/
theorem IsWorking.replaceTarget {disk : Disk} (h : disk.IsWorking) (content : Bytes) :
    disk.replaceTarget content = (true, disk.withTarget content) := by
  rw [replaceTarget_eq, if_neg, if_neg h.target]
  simp [h.hasParent, h.temporary]

end Disk

namespace FileStore

/-! ## Reading and writing -/

/-- Settings that were read can be written again. -/
theorem isWritable_of_read {disk : Disk} {settings : Settings} (h : read disk = .ok settings) :
    settings.IsWritable := by
  unfold read at h
  split at h
  · cases h
    exact Settings.isWritable_default
  · cases h
  · split at h
    · rename_i hparse
      cases h
      exact Settings.isWritable_of_parse? hparse
    · cases h

/-- Settings that a document can hold replace the file and are read from it. -/
theorem write_of_isWritable {disk : Disk} (working : disk.IsWorking) {settings : Settings}
    (h : settings.IsWritable) :
    ∃ disk', write disk settings = (.ok (), disk') ∧ disk'.IsWorking ∧
      read disk' = .ok settings := by
  obtain ⟨text, hrender⟩ : ∃ text, settings.render? = some text :=
    ⟨_, Settings.render?_of_isWritable h⟩
  refine ⟨disk.withTarget (Utf8.encode text.toList), ?_, working.withTarget _, ?_⟩
  · rw [write, hrender]
    simp only [working.replaceTarget]
  · have htext : (disk.withTarget (Utf8.encode text.toList)).target.readText = .ok text := by
      simp only [Disk.withTarget, DiskEntry.readText, Utf8.text?_encode]
    rw [read, htext]
    simp only [Settings.parse?_render? hrender]

/-- Settings that no document can hold leave the disk as it is. -/
theorem write_of_not_isWritable (disk : Disk) {settings : Settings} (h : ¬ settings.IsWritable) :
    write disk settings = (.error .write, disk) := by
  rw [write, (Settings.render?_eq_none_iff settings).mpr h]

/-- A store loads what is in its file unless it is poisoned. -/
theorem load_eq_ok_iff {store : FileStore} {settings : Settings} :
    store.load = .ok settings ↔ store.poisoned = false ∧ read store.disk = .ok settings := by
  cases h : store.poisoned <;> simp [FileStore.load, h]

/-! ## Holding settings -/

/-- A store on a working disk that can be used and that holds these settings. -/
structure Holds (store : FileStore) (settings : Settings) : Prop where
  working : store.disk.IsWorking
  usable : store.poisoned = false
  read : FileStore.read store.disk = .ok settings

variable {store : FileStore} {settings : Settings}

theorem Holds.load (h : store.Holds settings) : store.load = .ok settings :=
  load_eq_ok_iff.mpr ⟨h.usable, h.read⟩

theorem Holds.isWritable (h : store.Holds settings) : settings.IsWritable :=
  isWritable_of_read h.read

/-- A store that loads settings holds them. -/
theorem holds_of_load (working : store.disk.IsWorking) (h : store.load = .ok settings) :
    store.Holds settings := by
  obtain ⟨husable, hread⟩ := load_eq_ok_iff.mp h
  exact ⟨working, husable, hread⟩

/-- A new store on a working disk without the file holds the defaults. -/
theorem holds_new_of_missing {disk : Disk} (working : disk.IsWorking)
    (missing : disk.target = .missing) : (FileStore.new disk).Holds .default where
  working := working
  usable := rfl
  read := by simp [FileStore.read, FileStore.new, missing, DiskEntry.readText]

/-- A new store in the same place holds what the old one held. -/
theorem Holds.new (h : store.Holds settings) : (FileStore.new store.disk).Holds settings where
  working := h.working
  usable := rfl
  read := h.read

/-- An update to settings that a document can hold is stored. -/
theorem Holds.update_of_isWritable (h : store.Holds settings) (revise : Settings → Settings)
    (hwritable : (revise settings).IsWritable) :
    ∃ store', store.update (fun old => some (revise old)) = (.stored (revise settings), store') ∧
      store'.Holds (revise settings) := by
  obtain ⟨disk', hwrite, hworking, hread⟩ := write_of_isWritable h.working hwritable
  refine ⟨⟨disk', store.poisoned⟩, ?_, hworking, h.usable, hread⟩
  rw [FileStore.update, h.usable, h.read]
  simp [hwrite]

/-- An update to settings that no document can hold is refused, and nothing changes. -/
theorem Holds.update_of_not_isWritable (h : store.Holds settings) (revise : Settings → Settings)
    (hnot : ¬ (revise settings).IsWritable) :
    store.update (fun old => some (revise old)) = (.failed .write, store) := by
  have hsame : (⟨store.disk, false⟩ : FileStore) = store := by rw [← h.usable]
  rw [FileStore.update, h.usable, h.read]
  simp [write_of_not_isWritable store.disk hnot, hsame]

theorem Holds.clear (h : store.Holds settings) :
    ∃ store', store.clear = (.ok (), store') ∧ store'.Holds .default := by
  obtain ⟨disk', hwrite, hworking, hread⟩ :=
    write_of_isWritable h.working Settings.isWritable_default
  refine ⟨⟨disk', store.poisoned⟩, ?_, hworking, h.usable, hread⟩
  rw [FileStore.clear, h.usable]
  simp [hwrite]

end FileStore

end KeyProvisioning
