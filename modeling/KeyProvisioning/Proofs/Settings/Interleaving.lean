import KeyProvisioning.Proofs.Settings.Persistence
import KeyProvisioning.Proofs.Settings.Policy
import Mathlib.Data.List.DropRight

/-!
# Interleaved changes of settings

Taking over a policy and counting failures change different settings. In whatever order a store
takes over policies and counts, it ends with the same settings, as long as the policies among
themselves and the counts among themselves keep their order.
-/

namespace KeyProvisioning

/-! ## Changes of two kinds -/

namespace SettingsChange

/-- The policy that a change takes over; the other changes are those of the count of failures. -/
def policy? : SettingsChange → Option DeviceConfig
  | deviceConfig policy => some policy
  | countFailure | resetFailures => none

/-- Whether a change is one of the count of failures. -/
def isCount (change : SettingsChange) : Bool :=
  change.policy?.isNone

end SettingsChange

/-- The values that policies carry last, field by field. -/
def DeviceConfig.latest (policies : List DeviceConfig) : DeviceConfig where
  extraKeys := (policies.filterMap extraKeys).getLast?
  refreshSeconds := (policies.filterMap refreshSeconds).getLast?
  serverUrl := (policies.filterMap serverUrl).getLast?

namespace Settings

/-- The settings after changes made one after another. -/
def applyAll (settings : Settings) (changes : List SettingsChange) : Settings :=
  changes.foldl SettingsChange.apply settings

@[simp] theorem applyAll_concat (settings : Settings) (changes : List SettingsChange)
    (change : SettingsChange) :
    settings.applyAll (changes ++ [change]) = change.apply (settings.applyAll changes) := by
  simp [applyAll]

/-- The failures counted since the count was last reset. -/
def failuresIn (counts : List SettingsChange) : Nat :=
  (counts.rtakeWhile (· ≠ .resetFailures)).count .countFailure

/-- The count to which the failures since the last reset are added. -/
def countBefore (settings : Settings) (counts : List SettingsChange) : Nat :=
  if .resetFailures ∈ counts then 0 else settings.failures.toNat

/-- The last value of a field, one policy later. -/
theorem getD_getLast?_concat {α β : Type} (policies : List α) (policy : α) (field : α → Option β)
    (value : β) :
    ((policies ++ [policy]).filterMap field).getLast?.getD value =
      (field policy).getD ((policies.filterMap field).getLast?.getD value) := by
  cases h : field policy with
  | none => simp [h]
  | some new => simp [h]

/-- One policy more is taken over last. -/
theorem withDeviceConfig_latest_concat (settings : Settings) (policies : List DeviceConfig)
    (policy : DeviceConfig) :
    settings.withDeviceConfig (.latest (policies ++ [policy])) =
      (settings.withDeviceConfig (.latest policies)).withDeviceConfig policy := by
  simp only [withDeviceConfig, DeviceConfig.latest, getD_getLast?_concat]

/-- Policies leave the settings with the values that they carry last, and counts do not touch
these. -/
theorem withFailures_applyAll (settings : Settings) (changes : List SettingsChange) :
    { settings.applyAll changes with failures := settings.failures } =
      settings.withDeviceConfig (.latest (changes.filterMap SettingsChange.policy?)) := by
  induction changes using List.reverseRecOn with
  | nil => rfl
  | append_singleton changes change ih =>
    rw [applyAll_concat, List.filterMap_append]
    cases change with
    | deviceConfig policy =>
      have hone :
          [SettingsChange.deviceConfig policy].filterMap SettingsChange.policy? = [policy] := rfl
      rw [hone, withDeviceConfig_latest_concat, ← ih]
      rfl
    | countFailure =>
      have hnone : [SettingsChange.countFailure].filterMap SettingsChange.policy? = [] := rfl
      rw [hnone, List.append_nil, ← ih]
      rfl
    | resetFailures =>
      have hnone : [SettingsChange.resetFailures].filterMap SettingsChange.policy? = [] := rfl
      rw [hnone, List.append_nil, ← ih]
      rfl

theorem failuresIn_concat_countFailure (counts : List SettingsChange) :
    failuresIn (counts ++ [.countFailure]) = failuresIn counts + 1 := by
  rw [failuresIn, List.rtakeWhile_concat_pos _ _ _ (by simp), List.count_append, failuresIn]
  rfl

theorem failuresIn_concat_resetFailures (counts : List SettingsChange) :
    failuresIn (counts ++ [.resetFailures]) = 0 := by
  rw [failuresIn, List.rtakeWhile_concat_neg _ _ _ (by simp), List.count_nil]

/-- Counts leave the failures since the last reset, and policies do not touch these. -/
theorem toNat_failures_applyAll (settings : Settings) (changes : List SettingsChange) :
    let counts := changes.filter SettingsChange.isCount
    (settings.applyAll changes).failures.toNat =
      min (settings.countBefore counts + failuresIn counts) (UInt32.size - 1) := by
  have hlt := settings.failures.toNat_lt
  have hsize : UInt32.size = 2 ^ 32 := rfl
  induction changes using List.reverseRecOn with
  | nil =>
    have hbefore : settings.countBefore [] = settings.failures.toNat := rfl
    have hrow : failuresIn [] = 0 := rfl
    simp only [List.filter_nil, hbefore, hrow, applyAll, List.foldl_nil]
    omega
  | append_singleton changes change ih =>
    simp only [applyAll_concat, List.filter_append] at ih ⊢
    cases change with
    | deviceConfig policy =>
      have hnone : [SettingsChange.deviceConfig policy].filter SettingsChange.isCount = [] := rfl
      rw [hnone, List.append_nil, ← ih]
      rfl
    | countFailure =>
      have hone :
          [SettingsChange.countFailure].filter SettingsChange.isCount = [.countFailure] := rfl
      have hbefore (counts : List SettingsChange) :
          settings.countBefore (counts ++ [.countFailure]) = settings.countBefore counts := by
        simp [countBefore]
      rw [hone, failuresIn_concat_countFailure, hbefore, SettingsChange.apply, withFailure,
        toNat_nextCount, ih]
      omega
    | resetFailures =>
      have hone :
          [SettingsChange.resetFailures].filter SettingsChange.isCount = [.resetFailures] := rfl
      have hbefore (counts : List SettingsChange) :
          settings.countBefore (counts ++ [.resetFailures]) = 0 := by
        simp [countBefore]
      rw [hone, failuresIn_concat_resetFailures, hbefore]
      rfl

/-- Changes with the same policies and the same counts, each in the same order, lead to the same
settings. -/
theorem applyAll_congr {settings : Settings} {changes others : List SettingsChange}
    (policies : changes.filterMap SettingsChange.policy? = others.filterMap SettingsChange.policy?)
    (counts : changes.filter SettingsChange.isCount = others.filter SettingsChange.isCount) :
    settings.applyAll changes = settings.applyAll others := by
  have hpolicies : { settings.applyAll changes with failures := settings.failures } =
      { settings.applyAll others with failures := settings.failures } := by
    rw [withFailures_applyAll, withFailures_applyAll, policies]
  have hfailures : (settings.applyAll changes).failures = (settings.applyAll others).failures := by
    apply UInt32.toNat_inj.mp
    rw [toNat_failures_applyAll, toNat_failures_applyAll, counts]
  calc
    settings.applyAll changes =
        { ({ settings.applyAll changes with failures := settings.failures } : Settings) with
          failures := (settings.applyAll changes).failures } := rfl
    _ = { ({ settings.applyAll others with failures := settings.failures } : Settings) with
          failures := (settings.applyAll others).failures } := by rw [hpolicies, hfailures]
    _ = settings.applyAll others := rfl

end Settings

/-! ## Stores that do not fail -/

namespace SettingsStore

/-- A store takes over changes one after another, and none of these updates fails. -/
inductive Takes : SettingsStore → List SettingsChange → SettingsStore → Prop
  | nil (store : SettingsStore) : Takes store [] store
  | cons {store between final : SettingsStore} {change : SettingsChange}
      {changes : List SettingsChange} {settings : Settings}
      (stored : store.update (fun old => some (change.apply old)) = (.stored settings, between))
      (rest : Takes between changes final) : Takes store (change :: changes) final

/-- An update that is stored is made of the loaded settings, and what it makes is loaded after
it. -/
theorem of_update_stored {store store' : SettingsStore} {revise : Revision} {settings : Settings}
    (stored : store.update revise = (.stored settings, store')) :
    ∃ old, store.load = .ok old ∧ revise old = some settings ∧ store'.load = .ok settings := by
  cases store with
  | memory inner =>
    obtain ⟨houtcome, rfl⟩ := Prod.mk.inj stored
    unfold MemoryStore.update at houtcome ⊢
    cases hpoisoned : inner.poisoned with
    | true => simp [hpoisoned] at houtcome
    | false =>
      cases hrevise : revise inner.settings with
      | none => simp [hpoisoned, hrevise] at houtcome
      | some new =>
        obtain rfl : new = settings := by simpa [hpoisoned, hrevise] using houtcome
        refine ⟨inner.settings, ?_, hrevise, ?_⟩
        · simp [SettingsStore.load, MemoryStore.load, hpoisoned]
        · simp [SettingsStore.load, MemoryStore.load]
  | file inner =>
    obtain ⟨houtcome, rfl⟩ := Prod.mk.inj stored
    have hstored : ((WriteCall.update revise).perform inner).1 = .stored settings := houtcome
    obtain ⟨old, hold, hrevise⟩ := WriteCall.exists_load_of_stored hstored
    exact ⟨old, hold, hrevise, WriteCall.load_of_stored hstored⟩

theorem Takes.load {store final : SettingsStore} {changes : List SettingsChange}
    {settings : Settings} (takes : store.Takes changes final) (loads : store.load = .ok settings) :
    final.load = .ok (settings.applyAll changes) := by
  induction takes generalizing settings with
  | nil => exact loads
  | cons stored rest ih =>
    obtain ⟨old, hold, hrevised, hnew⟩ := of_update_stored stored
    obtain rfl := Except.ok.inj (loads.symm.trans hold)
    obtain rfl := Option.some.inj hrevised
    exact ih hnew

/-- Memory takes over any changes. -/
theorem takes_memory (settings : Settings) (changes : List SettingsChange) :
    (memory (.new settings)).Takes changes (memory (.new (settings.applyAll changes))) := by
  induction changes generalizing settings with
  | nil => exact .nil _
  | cons change changes ih => exact .cons rfl (ih (change.apply settings))

/-- A file on a working disk takes over changes whose intervals are integers of a document. -/
theorem exists_takes_file {store : FileStore} {settings : Settings} (holds : store.Holds settings)
    {changes : List SettingsChange}
    (short : ∀ change ∈ changes, ∀ policy, change.policy? = some policy →
      ∀ seconds ∈ policy.refreshSeconds.map UInt64.toNat, (seconds : Int) ≤ Toml.maxInteger) :
    ∃ store', (file store).Takes changes (file store') ∧
      store'.Holds (settings.applyAll changes) := by
  induction changes generalizing store settings with
  | nil => exact ⟨store, .nil _, holds⟩
  | cons change changes ih =>
    have hwritable : (change.apply settings).IsWritable := by
      cases change with
      | deviceConfig policy =>
        exact (Settings.isWritable_withDeviceConfig_iff holds.isWritable policy).mpr
          (short _ List.mem_cons_self policy rfl)
      | countFailure => exact ⟨holds.isWritable.expiring, holds.isWritable.refresh⟩
      | resetFailures => exact ⟨holds.isWritable.expiring, holds.isWritable.refresh⟩
    obtain ⟨between, hupdate, hbetween⟩ :=
      holds.update_of_isWritable (fun old => change.apply old) hwritable
    obtain ⟨store', htakes, hholds⟩ :=
      ih hbetween fun other hother => short other (List.mem_cons_of_mem _ hother)
    have hstored : (file store).update (fun old => some (change.apply old)) =
        (.stored (change.apply settings), file between) := by
      rw [SettingsStore.update, hupdate]
    exact ⟨store', .cons hstored htakes, hholds⟩

/-- Two stores that do not fail begin with the same settings and make changes in which the
policies are the same in the same order, and so are the changes of the count of failures. They
end with the same settings, however these are interleaved: each field of a policy is the one of
the last policy that carries it, the failures since the last reset are counted up to the greatest
count, and the window in which keys count as expiring is as it was. -/
theorem interleavings_agree {first second first' second' : SettingsStore} {settings : Settings}
    {changes others : List SettingsChange}
    (loads : first.load = .ok settings) (takes : first.Takes changes first')
    (loadsOther : second.load = .ok settings) (takesOther : second.Takes others second')
    (policies : changes.filterMap SettingsChange.policy? = others.filterMap SettingsChange.policy?)
    (counts : changes.filter SettingsChange.isCount = others.filter SettingsChange.isCount) :
    let sent := changes.filterMap SettingsChange.policy?
    let counted := changes.filter SettingsChange.isCount
    ∃ final, first'.load = .ok final ∧ second'.load = .ok final ∧
      final.extraKeys = (sent.filterMap DeviceConfig.extraKeys).getLast?.getD settings.extraKeys ∧
      final.refreshSeconds =
        (sent.filterMap DeviceConfig.refreshSeconds).getLast?.getD settings.refreshSeconds ∧
      final.serverUrl = (sent.filterMap DeviceConfig.serverUrl).getLast?.getD settings.serverUrl ∧
      final.failures.toNat =
        min ((if .resetFailures ∈ counted then 0 else settings.failures.toNat) +
          (counted.rtakeWhile (· ≠ .resetFailures)).count .countFailure) (UInt32.size - 1) ∧
      final.expiringByMillis = settings.expiringByMillis := by
  intro sent counted
  have hother := takesOther.load loadsOther
  rw [← Settings.applyAll_congr policies counts] at hother
  have hsent := Settings.withFailures_applyAll settings changes
  have hfailures := Settings.toNat_failures_applyAll settings changes
  have hexpiring := congrArg Settings.expiringByMillis hsent
  exact ⟨settings.applyAll changes, takes.load loads, hother, congrArg Settings.extraKeys hsent,
    congrArg Settings.refreshSeconds hsent, congrArg Settings.serverUrl hsent, hfailures,
    hexpiring⟩

/-- Policies and counts as they come. -/
def mixedChanges : List SettingsChange :=
  [.countFailure, .deviceConfig ⟨some 20, some 7200, none⟩, .countFailure, .resetFailures,
    .deviceConfig ⟨none, some 3600, some "https://example.com"⟩, .countFailure]

/-- The same policies and counts, one kind after the other. -/
def sortedChanges : List SettingsChange :=
  [.deviceConfig ⟨some 20, some 7200, none⟩,
    .deviceConfig ⟨none, some 3600, some "https://example.com"⟩, .countFailure, .countFailure,
    .resetFailures, .countFailure]

/-- A file and memory agree on both. -/
theorem interleavings_agree_sorted :
    ∃ store final, (file (.new ⟨.missing, .missing, true⟩)).Takes mixedChanges store ∧
      store.load = .ok final ∧
      (memory (.new (Settings.default.applyAll sortedChanges))).load = .ok final ∧
      final.extraKeys = 20 ∧ final.failures.toNat = 1 := by
  have working : (⟨.missing, .missing, true⟩ : Disk).IsWorking := ⟨rfl, by decide, by decide⟩
  have holds := FileStore.holds_new_of_missing working rfl
  have short : ∀ change ∈ mixedChanges, ∀ policy, change.policy? = some policy →
      ∀ seconds ∈ policy.refreshSeconds.map UInt64.toNat, (seconds : Int) ≤ Toml.maxInteger := by
    decide
  obtain ⟨store, takes, -⟩ := exists_takes_file holds short
  have loads : (file (.new ⟨.missing, .missing, true⟩)).load = .ok .default := holds.load
  obtain ⟨final, hfile, hmemory, hextra, -, -, hfailures, -⟩ :=
    interleavings_agree loads takes rfl (takes_memory .default sortedChanges) rfl rfl
  exact ⟨_, final, takes, hfile, hmemory, hextra, hfailures⟩

end SettingsStore

end KeyProvisioning
