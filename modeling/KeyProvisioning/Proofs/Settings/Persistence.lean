import KeyProvisioning.Proofs.Settings.Refinement
import KeyProvisioning.Proofs.Settings.Replacement

/-!
# Settings persist in a file

Settings that are written to a file are loaded from it again, whatever the server's address
consists of, by the store that wrote them and by any later one. Settings with a count above the
greatest integer of a document are refused before anything on the disk is touched.
-/

namespace KeyProvisioning

namespace Settings

/-- Both counts of 64 bits are integers of 64 bits with a sign. -/
def FitsSigned (settings : Settings) : Prop :=
  settings.expiringByMillis.toNat ≤ 0x7FFFFFFFFFFFFFFF ∧
    settings.refreshSeconds.toNat ≤ 0x7FFFFFFFFFFFFFFF

instance (settings : Settings) : Decidable settings.FitsSigned :=
  inferInstanceAs (Decidable (_ ∧ _))

/-- The integers of a document are those of 64 bits with a sign. -/
theorem isWritable_iff_fitsSigned (settings : Settings) :
    settings.IsWritable ↔ settings.FitsSigned := by
  have hmax : Toml.maxInteger = 0x7FFFFFFFFFFFFFFF := rfl
  constructor
  · rintro ⟨hexpiring, hrefresh⟩
    constructor <;> omega
  · rintro ⟨hexpiring, hrefresh⟩
    constructor <;> omega

end Settings

namespace WriteCall

variable {store : FileStore} {call : WriteCall} {settings : Settings}

/-- An update of a store that loads is about to write what it makes of the loaded settings. -/
theorem settings?_update_of_load {revise : Revision} {old : Settings}
    (loads : store.load = .ok old) :
    (update revise).settings? store = revise old := by
  obtain ⟨husable, hread⟩ := FileStore.load_eq_ok_iff.mp loads
  rw [settings?, husable, if_neg Bool.false_ne_true, hread, Except.toOption, Option.bind_some]

/-- A poisoned store has nothing to write. -/
theorem usable_of_settings? (about : call.settings? store = some settings) :
    store.poisoned = false := by
  unfold settings? at about
  split at about
  · cases about
  · rename_i husable
    exact Bool.eq_false_iff.mpr husable

/-- A call that has settings to write stores them on a working disk if a document can hold them. -/
theorem stored_of_isWritable (about : call.settings? store = some settings)
    (working : store.disk.IsWorking) (writable : settings.IsWritable) :
    (call.perform store).1 = .stored settings := by
  obtain ⟨disk', hwrite, -⟩ := FileStore.write_of_isWritable working writable
  rw [perform_of_settings?_eq_some about, hwrite]

/-- A call that has settings to write which no document can hold is refused before its first
step. -/
theorem refused_of_not_isWritable (about : call.settings? store = some settings)
    (hnot : ¬ settings.IsWritable) :
    call.perform store = (.failed .write, store) ∧ call.steps store = [] := by
  constructor
  · rw [perform_of_settings?_eq_some about, FileStore.write_of_not_isWritable store.disk hnot]
  · rw [steps, about, Option.elim_some, FileStore.writeSteps,
      (Settings.render?_eq_none_iff settings).mpr hnot]

/-- A call stores nothing but the settings it was about to write. -/
theorem settings?_of_stored (stored : (call.perform store).1 = .stored settings) :
    call.settings? store = some settings := by
  cases habout : call.settings? store with
  | none => exact absurd stored ((perform_of_settings?_eq_none habout).2 settings)
  | some written =>
    rw [perform_of_settings?_eq_some habout] at stored
    rcases hwrite : FileStore.write store.disk written with ⟨fault | _, disk⟩
    · simp [hwrite] at stored
    · rw [hwrite] at stored
      exact congrArg some (UpdateOutcome.stored.inj stored)

/-- An update stores what it makes of the loaded settings. -/
theorem exists_load_of_stored {revise : Revision}
    (stored : ((update revise).perform store).1 = .stored settings) :
    ∃ old, store.load = .ok old ∧ revise old = some settings := by
  have habout := settings?_of_stored stored
  have husable := usable_of_settings? habout
  rw [settings?, husable, if_neg Bool.false_ne_true] at habout
  cases hread : FileStore.read store.disk with
  | error fault => simp [hread, Except.toOption] at habout
  | ok old =>
    have hrevise : revise old = some settings := by simpa [hread, Except.toOption] using habout
    exact ⟨old, FileStore.load_eq_ok_iff.mpr ⟨husable, hread⟩, hrevise⟩

/-- The file of a call that stored settings holds their document. -/
theorem holdsDocument_of_stored (stored : (call.perform store).1 = .stored settings) :
    (call.perform store).2.disk.HoldsDocument settings := by
  rcases perform_stored_or_kept store call with ⟨other, hother, hdocument, -⟩ | ⟨hfails, -⟩
  · obtain rfl : other = settings := UpdateOutcome.stored.inj (hother.symm.trans stored)
    exact hdocument
  · exact absurd stored (hfails settings)

/-- What a call stored is loaded after it. -/
theorem load_of_stored (stored : (call.perform store).1 = .stored settings) :
    (call.perform store).2.load = .ok settings := by
  have habout := settings?_of_stored stored
  have hbefore := usable_of_settings? habout
  have husable : (call.perform store).2.poisoned = false := by
    rw [perform_of_settings?_eq_some habout]
    split <;> exact hbefore
  exact FileStore.load_eq_ok_iff.mpr
    ⟨husable, FileStore.read_of_holdsDocument (holdsDocument_of_stored stored)⟩

/-- A call of a file store on a working disk that has settings to write. If both counts of 64
bits are integers with a sign, the settings are stored: the same store and a new one on the same
file load exactly them, and no call that stores other settings leaves the same file behind. Else
the call is refused before its first step, on any disk, and the store stays as it is. -/
theorem perform_persists {store : FileStore} {call : WriteCall} {settings : Settings}
    (about : call.settings? store = some settings) :
    let done := call.perform store
    (settings.FitsSigned → store.disk.IsWorking →
      done.1 = .stored settings ∧ done.2.load = .ok settings ∧
        (FileStore.new done.2.disk).load = .ok settings ∧
        ∀ (other : FileStore) (otherCall : WriteCall) (otherSettings : Settings),
          (otherCall.perform other).1 = .stored otherSettings → otherSettings ≠ settings →
            (otherCall.perform other).2.disk.target ≠ done.2.disk.target) ∧
    (¬ settings.FitsSigned → done = (.failed .write, store) ∧ call.steps store = []) := by
  intro done
  constructor
  · intro fits working
    have hstored := stored_of_isWritable about working
      ((Settings.isWritable_iff_fitsSigned settings).mpr fits)
    have hread : FileStore.read done.2.disk = .ok settings :=
      FileStore.read_of_holdsDocument (holdsDocument_of_stored hstored)
    refine ⟨hstored, load_of_stored hstored, hread, ?_⟩
    intro other otherCall otherSettings otherStored hne hsame
    apply hne
    have hother := FileStore.read_of_holdsDocument (holdsDocument_of_stored otherStored)
    rw [FileStore.read_congr hsame, hread] at hother
    exact (Except.ok.inj hother).symm
  · intro hnot
    exact refused_of_not_isWritable about
      (mt (Settings.isWritable_iff_fitsSigned settings).mp hnot)

/-- A crooked server address persists, and an endless interval is refused. -/
theorem perform_persists_crooked :
    let store := FileStore.new ⟨.missing, .missing, true⟩
    let keeping := WriteCall.update fun old => some (FileStore.crookedUrl old)
    let refused := WriteCall.update fun old => some (FileStore.endlessRefresh old)
    (FileStore.new (keeping.perform store).2.disk).load = .ok (FileStore.crookedUrl .default) ∧
      refused.perform store = (.failed .write, store) ∧ refused.steps store = [] := by
  intro store keeping refused
  have loads : store.load = .ok .default := rfl
  have working : store.disk.IsWorking := ⟨rfl, by decide, by decide⟩
  have about : keeping.settings? store = some (FileStore.crookedUrl .default) :=
    settings?_update_of_load loads
  have aboutEndless : refused.settings? store = some (FileStore.endlessRefresh .default) :=
    settings?_update_of_load loads
  constructor
  · exact ((perform_persists about).1 (by decide) working).2.2.1
  · exact (perform_persists aboutEndless).2 (by decide)

end WriteCall

end KeyProvisioning
