import KeyProvisioning.Message.Basic
import KeyProvisioning.Proofs.Message.Envelope

/-!
# What the entries of a policy say

Of the entries of a map only those under the keys of the three fields matter. Each of these must
hold a value that its field admits, also where a later entry takes its place, and each field is
what the last entry under its key holds.
-/

namespace KeyProvisioning.DeviceConfig

open Cbor (Item)

/-! ## The values of the fields -/

/-- The values that a field may have. -/
inductive Field.Admits : Field → Item → Prop
  | extraKeys {n : Nat} (small : n < UInt32.size) : Admits .extraKeys (.integer n)
  | refreshHours {hours : Nat} (small : hours * 3600 < UInt64.size) :
    Admits .refreshHours (.integer hours)
  | serverUrl (url : String) : Admits .serverUrl (.text url)

/-- The entries under the keys of fields hold values that these admit. -/
def EntriesFit (entries : List (Item × Item)) : Prop :=
  ∀ (field : Field) (value : Item), (.text field.key, value) ∈ entries → field.Admits value

/-- The last entry under a key holds this value. -/
def LastUnder (entries : List (Item × Item)) (key : String) (value : Item) : Prop :=
  ∃ before after, entries = before ++ (.text key, value) :: after ∧
    ∀ entry ∈ after, entry.1 ≠ .text key

/-- Each field of a policy is what the last entry under its key holds, and is absent if there is
none. -/
structure IsPolicyOf (entries : List (Item × Item)) (config : DeviceConfig) : Prop where
  extraKeys : ∀ n, config.extraKeys = some n ↔
    LastUnder entries Field.extraKeys.key (.integer n.toNat)
  refreshSeconds : ∀ seconds, config.refreshSeconds = some seconds ↔
    ∃ hours : Nat, LastUnder entries Field.refreshHours.key (.integer hours) ∧
      seconds.toNat = hours * 3600
  serverUrl : ∀ url,
    config.serverUrl = some url ↔ LastUnder entries Field.serverUrl.key (.text url)

theorem IsPolicyOf.unique {entries : List (Item × Item)} {config config' : DeviceConfig}
    (h : IsPolicyOf entries config) (h' : IsPolicyOf entries config') : config = config' := by
  obtain ⟨extraKeys, refreshSeconds, serverUrl⟩ := config
  obtain ⟨extraKeys', refreshSeconds', serverUrl'⟩ := config'
  obtain rfl : extraKeys = extraKeys' :=
    Option.ext fun n => (h.extraKeys n).trans (h'.extraKeys n).symm
  obtain rfl : refreshSeconds = refreshSeconds' :=
    Option.ext fun n => (h.refreshSeconds n).trans (h'.refreshSeconds n).symm
  obtain rfl : serverUrl = serverUrl' :=
    Option.ext fun n => (h.serverUrl n).trans (h'.serverUrl n).symm
  rfl

/-! ## One entry -/

theorem Field.key_injective {field field' : Field} (h : field.key = field'.key) :
    field = field' := by
  cases field <;> cases field' <;> first | rfl | exact absurd h (by decide)

theorem ofKey?_eq_some_iff {key : Item} {field : Field} :
    Field.ofKey? key = some field ↔ key = .text field.key := by
  constructor
  · intro h
    cases key with
    | text name =>
      have hfound := List.find?_some h
      rw [eq_of_beq hfound]
    | _ => cases h
  · rintro rfl
    cases field <;> rfl

theorem unsigned?_eq_some_iff {item : Item} {n : Nat} :
    item.unsigned? = some n ↔ item = .integer n ∧ n < UInt64.size := by
  constructor
  · intro h
    unfold Item.unsigned? at h
    split at h
    · split at h
      · rename_i hsmall
        cases h
        exact ⟨rfl, hsmall⟩
      · cases h
    · cases h
  · rintro ⟨rfl, hsmall⟩
    exact if_pos hsmall

/-- A field takes the value of an entry. -/
inductive Sets (config : DeviceConfig) : Field → Item → DeviceConfig → Prop
  | extraKeys (n : UInt32) :
    Sets config .extraKeys (.integer n.toNat) { config with extraKeys := some n }
  | refreshHours {hours : Nat} {seconds : UInt64} (same : seconds.toNat = hours * 3600) :
    Sets config .refreshHours (.integer hours) { config with refreshSeconds := some seconds }
  | serverUrl (url : String) :
    Sets config .serverUrl (.text url) { config with serverUrl := some url }

theorem Sets.admits {config config' : DeviceConfig} {field : Field} {value : Item}
    (h : Sets config field value config') : field.Admits value := by
  cases h with
  | extraKeys n => exact .extraKeys n.toNat_lt
  | @refreshHours hours seconds same => exact .refreshHours (same ▸ seconds.toNat_lt)
  | serverUrl url => exact .serverUrl url

theorem sets_of_set? {config config' : DeviceConfig} {field : Field} {value : Item}
    (h : config.set? field value = some config') : Sets config field value config' := by
  cases field with
  | extraKeys =>
    simp only [set?] at h
    split at h
    · rename_i n hn
      split at h
      · rename_i hsmall
        cases h
        obtain ⟨rfl, -⟩ := unsigned?_eq_some_iff.mp hn
        have hset : Sets config .extraKeys _ _ := .extraKeys (UInt32.ofNat n)
        rwa [UInt32.toNat_ofNat_of_lt' hsmall] at hset
      · cases h
    · cases h
  | refreshHours =>
    simp only [set?] at h
    split at h
    · rename_i hours hhours
      split at h
      · rename_i hsmall
        cases h
        obtain ⟨rfl, -⟩ := unsigned?_eq_some_iff.mp hhours
        exact .refreshHours (UInt64.toNat_ofNat_of_lt' hsmall)
      · cases h
    · cases h
  | serverUrl =>
    simp only [set?] at h
    split at h
    · cases h
      exact .serverUrl _
    · cases h

theorem exists_set?_of_admits (config : DeviceConfig) {field : Field} {value : Item}
    (h : field.Admits value) : ∃ config', config.set? field value = some config' := by
  cases h with
  | @extraKeys n small =>
    have hsize : UInt32.size ≤ UInt64.size := by decide
    have hn : (Item.integer n).unsigned? = some n :=
      unsigned?_eq_some_iff.mpr ⟨rfl, Nat.lt_of_lt_of_le small hsize⟩
    simp only [set?, hn]
    rw [if_pos small]
    exact ⟨_, rfl⟩
  | @refreshHours hours small =>
    have hhours : (Item.integer hours).unsigned? = some hours :=
      unsigned?_eq_some_iff.mpr ⟨rfl, by omega⟩
    simp only [set?, hhours]
    rw [if_pos (show hours * secondsPerHour < UInt64.size from small)]
    exact ⟨_, rfl⟩
  | serverUrl url => exact ⟨_, rfl⟩

/-- An entry under another key, or one under the key of a field with a value that this admits. -/
def EntryFits (entry : Item × Item) : Prop :=
  ∀ field : Field, entry.1 = .text field.key → field.Admits entry.2

/-- An entry under the key of a field sets this field, and any other entry changes nothing. -/
theorem addEntry_of_fits (config : DeviceConfig) {entry : Item × Item} (h : EntryFits entry) :
    ∃ config', config.addEntry entry = .ok config' ∧
      ((config' = config ∧ ∀ field : Field, entry.1 ≠ .text field.key) ∨
        ∃ field : Field, entry.1 = .text field.key ∧ Sets config field entry.2 config') := by
  unfold addEntry
  split
  · rename_i hkey
    refine ⟨config, rfl, Or.inl ⟨rfl, ?_⟩⟩
    intro field hfield
    rw [ofKey?_eq_some_iff.mpr hfield] at hkey
    cases hkey
  · rename_i field hkey
    have hfield := ofKey?_eq_some_iff.mp hkey
    obtain ⟨config', hset⟩ := exists_set?_of_admits config (h field hfield)
    rw [hset]
    exact ⟨config', rfl, Or.inr ⟨field, hfield, sets_of_set? hset⟩⟩

theorem addEntry_of_not_fits (config : DeviceConfig) {entry : Item × Item}
    (h : ¬ EntryFits entry) :
    config.addEntry entry = .error .deviceConfigBadValue := by
  unfold addEntry
  split
  · rename_i hkey
    refine absurd ?_ h
    intro field hfield
    rw [ofKey?_eq_some_iff.mpr hfield] at hkey
    cases hkey
  · rename_i field hkey
    split
    · rename_i config' hset
      refine absurd ?_ h
      intro field' hfield'
      rw [ofKey?_eq_some_iff.mpr hfield', Option.some.injEq] at hkey
      rw [hkey]
      exact (sets_of_set? hset).admits
    · rfl

/-! ## All entries -/

theorem entriesFit_cons_iff {entry : Item × Item} {entries : List (Item × Item)} :
    EntriesFit (entry :: entries) ↔ EntryFits entry ∧ EntriesFit entries := by
  constructor
  · intro h
    constructor
    · intro field hfield
      exact h field entry.2 (List.mem_cons.mpr (Or.inl (Prod.ext hfield.symm rfl)))
    · intro field value hmem
      exact h field value (List.mem_cons_of_mem _ hmem)
  · rintro ⟨hentry, hrest⟩ field value hmem
    obtain rfl | hmem := List.mem_cons.mp hmem
    · exact hentry field rfl
    · exact hrest field value hmem

/-- The last entry under a key is a new one under it, or still the one before. -/
theorem lastUnder_concat_iff {entries : List (Item × Item)} {entry : Item × Item} {key : String}
    {value : Item} :
    LastUnder (entries ++ [entry]) key value ↔
      entry = (.text key, value) ∨ entry.1 ≠ .text key ∧ LastUnder entries key value := by
  constructor
  · rintro ⟨before, after, heq, hafter⟩
    obtain rfl | ⟨init, last, rfl⟩ := List.eq_nil_or_concat after
    · left
      exact (List.cons.inj (List.append_inj' heq rfl).2).1
    · right
      rw [List.concat_eq_append] at hafter
      rw [List.concat_eq_append, ← List.cons_append, ← List.append_assoc] at heq
      obtain ⟨hinit, hlast⟩ := List.append_inj' heq rfl
      obtain rfl := (List.cons.inj hlast).1
      constructor
      · exact hafter entry (by simp)
      · exact ⟨before, init, hinit, fun e he => hafter e (by simp [he])⟩
  · rintro (rfl | ⟨hother, before, after, rfl, hafter⟩)
    · exact ⟨entries, [], rfl, by simp⟩
    · refine ⟨before, after ++ [entry], by simp, ?_⟩
      intro e he
      obtain he | he := List.mem_append.mp he
      · exact hafter e he
      · rwa [List.mem_singleton.mp he]

theorem lastUnder_concat_of_ne {entries : List (Item × Item)} {entry : Item × Item} {key : String}
    {value : Item} (h : entry.1 ≠ .text key) :
    LastUnder (entries ++ [entry]) key value ↔ LastUnder entries key value := by
  rw [lastUnder_concat_iff, and_iff_right h, or_iff_right]
  rintro rfl
  exact h rfl

theorem lastUnder_concat_same {entries : List (Item × Item)} {key : String} {value value' : Item} :
    LastUnder (entries ++ [(.text key, value')]) key value ↔ value' = value := by
  simp [lastUnder_concat_iff]

theorem isPolicyOf_nil : IsPolicyOf [] empty := by
  have hnone : ∀ key value, ¬ LastUnder [] key value := by
    rintro key value ⟨before, after, heq, -⟩
    simp at heq
  constructor <;> simp [empty, hnone]

/-- An entry under the key of a field is now the last one under it, and the other fields stay. -/
theorem IsPolicyOf.concat {entries : List (Item × Item)} {entry : Item × Item}
    {config config' : DeviceConfig} (h : IsPolicyOf entries config)
    (hentry : (config' = config ∧ ∀ field : Field, entry.1 ≠ .text field.key) ∨
      ∃ field : Field, entry.1 = .text field.key ∧ Sets config field entry.2 config') :
    IsPolicyOf (entries ++ [entry]) config' := by
  obtain ⟨rfl, hother⟩ | ⟨field, hfield, hsets⟩ := hentry
  · constructor
    · simpa only [lastUnder_concat_of_ne (hother .extraKeys)] using h.extraKeys
    · simpa only [lastUnder_concat_of_ne (hother .refreshHours)] using h.refreshSeconds
    · simpa only [lastUnder_concat_of_ne (hother .serverUrl)] using h.serverUrl
  · obtain ⟨key, value⟩ := entry
    obtain rfl : key = .text field.key := hfield
    have hother : ∀ field' : Field, field ≠ field' →
        ((Item.text field.key, value) : Item × Item).1 ≠ .text field'.key :=
      fun field' hne heq => hne (Field.key_injective (Item.text.inj heq))
    cases hsets with
    | extraKeys n =>
      constructor
      · intro m
        rw [lastUnder_concat_same, Option.some.injEq, Item.integer.injEq, Int.ofNat_inj,
          UInt32.toNat_inj]
      · simpa only [lastUnder_concat_of_ne (hother .refreshHours nofun)] using h.refreshSeconds
      · simpa only [lastUnder_concat_of_ne (hother .serverUrl nofun)] using h.serverUrl
    | @refreshHours hours seconds same =>
      constructor
      · simpa only [lastUnder_concat_of_ne (hother .extraKeys nofun)] using h.extraKeys
      · intro m
        simp only [lastUnder_concat_same, Option.some.injEq, Item.integer.injEq, Int.ofNat_inj,
          exists_eq_left']
        rw [← UInt64.toNat_inj, same]
        exact eq_comm
      · simpa only [lastUnder_concat_of_ne (hother .serverUrl nofun)] using h.serverUrl
    | serverUrl url =>
      constructor
      · simpa only [lastUnder_concat_of_ne (hother .extraKeys nofun)] using h.extraKeys
      · simpa only [lastUnder_concat_of_ne (hother .refreshHours nofun)] using h.refreshSeconds
      · intro m
        simp [lastUnder_concat_same]

theorem addEntries_of_fit {before entries : List (Item × Item)} {config : DeviceConfig}
    (hbefore : IsPolicyOf before config) (h : EntriesFit entries) :
    ∃ config', config.addEntries entries = .ok config' ∧
      IsPolicyOf (before ++ entries) config' := by
  induction entries generalizing before config with
  | nil => exact ⟨config, rfl, by rwa [List.append_nil]⟩
  | cons entry entries ih =>
    rw [entriesFit_cons_iff] at h
    obtain ⟨next, hnext, heffect⟩ := addEntry_of_fits config h.1
    obtain ⟨config', hrest, hpolicy⟩ := ih (hbefore.concat heffect) h.2
    refine ⟨config', ?_, ?_⟩
    · rw [addEntries, hnext]
      exact hrest
    · rwa [List.append_assoc] at hpolicy

theorem addEntries_of_not_fit {config : DeviceConfig} {entries : List (Item × Item)}
    (h : ¬ EntriesFit entries) : config.addEntries entries = .error .deviceConfigBadValue := by
  induction entries generalizing config with
  | nil => exact absurd (fun _ _ hmem => absurd hmem List.not_mem_nil) h
  | cons entry entries ih =>
    rw [entriesFit_cons_iff] at h
    by_cases hentry : EntryFits entry
    · obtain ⟨next, hnext, -⟩ := addEntry_of_fits config hentry
      rw [addEntries, hnext]
      exact ih fun hrest => h ⟨hentry, hrest⟩
    · rw [addEntries, addEntry_of_not_fits config hentry]

/-- An item is decoded to a policy exactly if it is a map whose entries fit and say this policy. -/
theorem ofItem_eq_ok_iff {item : Item} {config : DeviceConfig} :
    ofItem item = .ok config ↔
      ∃ entries, item = .map entries ∧ EntriesFit entries ∧ IsPolicyOf entries config := by
  cases item with
  | map entries =>
    simp only [ofItem, Item.map.injEq, exists_eq_left']
    by_cases hfit : EntriesFit entries
    · obtain ⟨config', hok, hpolicy⟩ := addEntries_of_fit isPolicyOf_nil hfit
      rw [hok, Except.ok.injEq]
      constructor
      · rintro rfl
        exact ⟨hfit, hpolicy⟩
      · intro h
        exact hpolicy.unique h.2
    · rw [addEntries_of_not_fit hfit]
      simp [hfit]
  | _ => simp [ofItem]

theorem ofItem_eq_error_iff {item : Item} {fault : DecodeFault} :
    ofItem item = .error fault ↔
      (fault = .deviceConfigNotMap ∧ ∀ entries, item ≠ .map entries) ∨
        ∃ entries, item = .map entries ∧ fault = .deviceConfigBadValue ∧ ¬ EntriesFit entries := by
  cases item with
  | map entries =>
    rw [ofItem]
    by_cases hfit : EntriesFit entries
    · obtain ⟨config, hok, -⟩ := addEntries_of_fit isPolicyOf_nil hfit
      simp [hok, hfit]
    · simp [addEntries_of_not_fit hfit, hfit, eq_comm]
  | _ => simp [ofItem, eq_comm]

end KeyProvisioning.DeviceConfig
