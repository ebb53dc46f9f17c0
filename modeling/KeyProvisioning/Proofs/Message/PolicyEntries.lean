import KeyProvisioning.Proofs.Message.DeviceConfig

/-!
# Arrangements of policy entries

A policy depends only on what its map holds under each of the three keys, in the order in which
it stands there. Entries under other keys may come and go, and entries under different keys may
change places.
-/

namespace KeyProvisioning.DeviceConfig

open Cbor (Item)

/-! ## What stands under a key -/

/-- The value of an entry, if it stands under this key. -/
def valueUnder? (key : String) : Item × Item → Option Item
  | (.text name, value) => if name = key then some value else none
  | _ => none

/-- The values under a key in the order of their entries. -/
def valuesUnder (key : String) (entries : List (Item × Item)) : List Item :=
  entries.filterMap (valueUnder? key)

theorem valueUnder?_eq_some_iff {key : String} {entry : Item × Item} {value : Item} :
    valueUnder? key entry = some value ↔ entry = (.text key, value) := by
  constructor
  · intro h
    unfold valueUnder? at h
    split at h
    · split at h
      · rename_i hname
        cases h
        rw [hname]
      · cases h
    · cases h
  · rintro rfl
    exact if_pos rfl

theorem valueUnder?_eq_none_iff {key : String} {entry : Item × Item} :
    valueUnder? key entry = none ↔ entry.1 ≠ .text key := by
  rw [Option.eq_none_iff_forall_ne_some]
  constructor
  · intro h hkey
    exact h entry.2 (valueUnder?_eq_some_iff.mpr (Prod.ext hkey rfl))
  · intro h value hvalue
    rw [valueUnder?_eq_some_iff.mp hvalue] at h
    exact h rfl

theorem valuesUnder_append (key : String) (entries entries' : List (Item × Item)) :
    valuesUnder key (entries ++ entries') = valuesUnder key entries ++ valuesUnder key entries' :=
  List.filterMap_append

theorem valuesUnder_cons (key : String) (entry : Item × Item) (entries : List (Item × Item)) :
    valuesUnder key (entry :: entries) =
      (valueUnder? key entry).toList ++ valuesUnder key entries := by
  cases h : valueUnder? key entry with
  | none => exact List.filterMap_cons_none h
  | some value => exact List.filterMap_cons_some h

theorem toList_valueUnder?_of_ne {key : String} {entry : Item × Item} (h : entry.1 ≠ .text key) :
    (valueUnder? key entry).toList = [] := by
  rw [valueUnder?_eq_none_iff.mpr h]
  rfl

theorem valuesUnder_eq_nil_iff {key : String} {entries : List (Item × Item)} :
    valuesUnder key entries = [] ↔ ∀ entry ∈ entries, entry.1 ≠ .text key := by
  simp only [valuesUnder, List.filterMap_eq_nil_iff, valueUnder?_eq_none_iff]

theorem mem_valuesUnder_iff {key : String} {entries : List (Item × Item)} {value : Item} :
    value ∈ valuesUnder key entries ↔ (.text key, value) ∈ entries := by
  simp only [valuesUnder, List.mem_filterMap, valueUnder?_eq_some_iff, exists_eq_right]

/-- The value of the last entry under a key is the last of the values under it. -/
theorem lastUnder_iff_getLast? {entries : List (Item × Item)} {key : String} {value : Item} :
    LastUnder entries key value ↔ (valuesUnder key entries).getLast? = some value := by
  rw [List.getLast?_eq_some_iff]
  constructor
  · rintro ⟨before, after, rfl, hafter⟩
    refine ⟨valuesUnder key before, ?_⟩
    have hvalue : valueUnder? key (.text key, value) = some value :=
      valueUnder?_eq_some_iff.mpr rfl
    rw [valuesUnder_append, valuesUnder_cons, hvalue, valuesUnder_eq_nil_iff.mpr hafter]
    rfl
  · rintro ⟨values, hvalues⟩
    obtain ⟨front, back, rfl, -, hback⟩ := List.filterMap_eq_append_iff.mp hvalues
    obtain ⟨skipped, entry, after, rfl, -, hentry, hafter⟩ := List.filterMap_eq_cons_iff.mp hback
    obtain rfl := valueUnder?_eq_some_iff.mp hentry
    exact ⟨front ++ skipped, after, (List.append_assoc ..).symm, valuesUnder_eq_nil_iff.mp hafter⟩

/-! ## Fields without an entry -/

/-- The policy says nothing on a field. -/
def Lacks (config : DeviceConfig) : Field → Prop
  | .extraKeys => config.extraKeys = none
  | .refreshHours => config.refreshSeconds = none
  | .serverUrl => config.serverUrl = none

/-- Where an entry stands under a key, one of the entries under it is the last. -/
theorem exists_lastUnder {entries : List (Item × Item)} {key : String} {value : Item}
    (h : (.text key, value) ∈ entries) :
    ∃ last, LastUnder entries key last ∧ (.text key, last) ∈ entries := by
  have hvalues : valuesUnder key entries ≠ [] := List.ne_nil_of_mem (mem_valuesUnder_iff.mpr h)
  have hlast := List.getLast?_eq_some_getLast hvalues
  exact ⟨_, lastUnder_iff_getLast?.mpr hlast, mem_valuesUnder_iff.mp (List.mem_of_getLast? hlast)⟩

/-- A field for which there is an admitted value is not lacking. -/
theorem IsPolicyOf.not_lacks {entries : List (Item × Item)} {config : DeviceConfig}
    (h : IsPolicyOf entries config) {field : Field} {value : Item} (admits : field.Admits value)
    (last : LastUnder entries field.key value) : ¬ config.Lacks field := by
  intro hnone
  cases admits with
  | @extraKeys n small =>
    rw [← UInt32.toNat_ofNat_of_lt' small] at last
    cases hnone.symm.trans ((h.extraKeys _).mpr last)
  | @refreshHours hours small =>
    have hseconds := (h.refreshSeconds _).mpr ⟨hours, last, UInt64.toNat_ofNat_of_lt' small⟩
    cases hnone.symm.trans hseconds
  | serverUrl url => cases hnone.symm.trans ((h.serverUrl url).mpr last)

/-- Exactly the fields without an entry are lacking. -/
theorem IsPolicyOf.lacks_iff {entries : List (Item × Item)} {config : DeviceConfig}
    (h : IsPolicyOf entries config) (fit : EntriesFit entries) (field : Field) :
    config.Lacks field ↔ ∀ entry ∈ entries, entry.1 ≠ .text field.key := by
  constructor
  · rintro hlacks ⟨_, value⟩ hmem rfl
    obtain ⟨last, hlast, hlastmem⟩ := exists_lastUnder hmem
    exact h.not_lacks (fit field last hlastmem) hlast hlacks
  · intro hnone
    have hnever : ∀ value, ¬ LastUnder entries field.key value := by
      rintro value ⟨before, after, rfl, -⟩
      exact hnone (.text field.key, value) (List.mem_append_right before List.mem_cons_self) rfl
    cases field with
    | extraKeys =>
      apply Option.eq_none_iff_forall_ne_some.mpr
      exact fun n hn => hnever _ ((h.extraKeys n).mp hn)
    | refreshHours =>
      apply Option.eq_none_iff_forall_ne_some.mpr
      intro seconds hseconds
      obtain ⟨hours, last, -⟩ := (h.refreshSeconds seconds).mp hseconds
      exact hnever _ last
    | serverUrl =>
      apply Option.eq_none_iff_forall_ne_some.mpr
      exact fun url hurl => hnever _ ((h.serverUrl url).mp hurl)

/-! ## Maps with the same values under each key -/

theorem entriesFit_iff {entries : List (Item × Item)} :
    EntriesFit entries ↔
      ∀ field : Field, ∀ value ∈ valuesUnder field.key entries, field.Admits value := by
  simp only [EntriesFit, mem_valuesUnder_iff]

section Arrangements

variable {entries others : List (Item × Item)}

theorem IsPolicyOf.congr {config : DeviceConfig} (hpolicy : IsPolicyOf entries config)
    (h : ∀ field : Field, valuesUnder field.key others = valuesUnder field.key entries) :
    IsPolicyOf others config := by
  have hlast : ∀ (field : Field) (value : Item),
      LastUnder others field.key value ↔ LastUnder entries field.key value := by
    intro field value
    rw [lastUnder_iff_getLast?, lastUnder_iff_getLast?, h field]
  constructor
  · simpa only [hlast] using hpolicy.extraKeys
  · simpa only [hlast] using hpolicy.refreshSeconds
  · simpa only [hlast] using hpolicy.serverUrl

/-- Nothing else matters to the result. -/
theorem ofItem_map_congr
    (h : ∀ field : Field, valuesUnder field.key others = valuesUnder field.key entries) :
    ofItem (.map others) = ofItem (.map entries) := by
  have hfits : EntriesFit others ↔ EntriesFit entries := by
    simp only [entriesFit_iff, h]
  by_cases fit : EntriesFit entries
  · obtain ⟨config, hconfig, hpolicy⟩ := addEntries_of_fit isPolicyOf_nil fit
    have hothers : ofItem (.map others) = .ok config :=
      ofItem_eq_ok_iff.mpr ⟨others, rfl, hfits.mpr fit, hpolicy.congr h⟩
    rw [hothers]
    exact hconfig.symm
  · exact (addEntries_of_not_fit (mt hfits.mp fit)).trans (addEntries_of_not_fit fit).symm

theorem ofItem_map_insert {entry : Item × Item} (h : ∀ field : Field, entry.1 ≠ .text field.key)
    (before after : List (Item × Item)) :
    ofItem (.map (before ++ entry :: after)) = ofItem (.map (before ++ after)) := by
  apply ofItem_map_congr
  intro field
  rw [valuesUnder_append, valuesUnder_append, valuesUnder_cons, toList_valueUnder?_of_ne (h field),
    List.nil_append]

theorem ofItem_map_swap {first second : Item × Item} (h : first.1 ≠ second.1)
    (before after : List (Item × Item)) :
    ofItem (.map (before ++ second :: first :: after)) =
      ofItem (.map (before ++ first :: second :: after)) := by
  apply ofItem_map_congr
  intro field
  simp only [valuesUnder_append, valuesUnder_cons]
  -- at most one of the two stands under the key
  by_cases hfirst : first.1 = .text field.key
  · have hsecond : second.1 ≠ .text field.key := fun heq => h (hfirst.trans heq.symm)
    rw [toList_valueUnder?_of_ne hsecond, List.nil_append, List.nil_append]
  · rw [toList_valueUnder?_of_ne hfirst, List.nil_append, List.nil_append]

/-- Where no key of a field is repeated, the order of the entries does not matter. -/
theorem ofItem_map_perm (h : others.Perm entries)
    (hdistinct : ∀ field : Field, (valuesUnder field.key entries).length ≤ 1) :
    ofItem (.map others) = ofItem (.map entries) := by
  apply ofItem_map_congr
  intro field
  have hperm : (valuesUnder field.key others).Perm (valuesUnder field.key entries) := h.filterMap _
  match hvalues : valuesUnder field.key entries, hdistinct field with
  | [], _ =>
    rw [hvalues] at hperm
    exact hperm.eq_nil
  | [value], _ =>
    rw [hvalues] at hperm
    exact List.perm_singleton.mp hperm

end Arrangements

/-- A map is refused exactly if some entry under the key of a field holds a value that the field
does not admit, wherever it stands. Otherwise each field is what the last entry under its key
holds, the hours being counted in seconds, and is absent exactly if there is no such entry. So
entries under other keys may be put in or taken out anywhere, entries under different keys may be
exchanged, and a map that repeats no key of a field may be put in any order. -/
theorem policy_of_entries (entries : List (Item × Item)) :
    (ofItem (.map entries) = .error .deviceConfigBadValue ↔
      ∃ (field : Field) (value : Item), (.text field.key, value) ∈ entries ∧
        ¬ field.Admits value) ∧
    ((∀ (field : Field) (value : Item), (.text field.key, value) ∈ entries → field.Admits value) →
      ∃ config, ofItem (.map entries) = .ok config ∧ IsPolicyOf entries config ∧
        ∀ field : Field, config.Lacks field ↔ ∀ entry ∈ entries, entry.1 ≠ .text field.key) ∧
    (∀ others, (∀ field : Field, valuesUnder field.key others = valuesUnder field.key entries) →
      ofItem (.map others) = ofItem (.map entries)) ∧
    (∀ before entry after, entries = before ++ after →
      (∀ field : Field, entry.1 ≠ .text field.key) →
      ofItem (.map (before ++ entry :: after)) = ofItem (.map entries)) ∧
    (∀ before first second after, entries = before ++ first :: second :: after →
      first.1 ≠ second.1 →
        ofItem (.map (before ++ second :: first :: after)) = ofItem (.map entries)) ∧
    ∀ others, others.Perm entries → (∀ field : Field, (valuesUnder field.key entries).length ≤ 1) →
      ofItem (.map others) = ofItem (.map entries) := by
  refine ⟨?_, ?_, fun _ => ofItem_map_congr, ?_, ?_, fun _ => ofItem_map_perm⟩
  · rw [ofItem_eq_error_iff]
    constructor
    · rintro (⟨hfault, -⟩ | ⟨_, heq, -, unfit⟩)
      · cases hfault
      · cases heq
        simpa [EntriesFit] using unfit
    · rintro ⟨field, value, hmem, hvalue⟩
      exact Or.inr ⟨entries, rfl, rfl, fun fit => hvalue (fit field value hmem)⟩
  · intro fit
    obtain ⟨config, hconfig, hpolicy⟩ := addEntries_of_fit isPolicyOf_nil fit
    exact ⟨config, hconfig, hpolicy, hpolicy.lacks_iff fit⟩
  · rintro before entry after rfl hentry
    exact ofItem_map_insert hentry before after
  · rintro before first second after rfl hkeys
    exact ofItem_map_swap hkeys before after

/-- An entry that sends a number of extra keys. -/
def extraKeysEntry (n : Int) : Item × Item :=
  (.text Field.extraKeys.key, .integer n)

/-- Of two entries under a key the second one counts, whatever stands between them, and a first
one that is not admitted is refused all the same. -/
theorem policy_of_entries_repeated :
    ofItem (.map [extraKeysEntry 5, (.bytes [1], .null), extraKeysEntry 7]) =
        .ok ⟨some 7, none, none⟩ ∧
      ofItem (.map [extraKeysEntry (-1), extraKeysEntry 7]) = .error .deviceConfigBadValue := by
  constructor
  · obtain ⟨-, -, -, hinsert, -⟩ := policy_of_entries [extraKeysEntry 5, extraKeysEntry 7]
    have hignored : ∀ field : Field, Item.bytes [1] ≠ .text field.key := nofun
    have htwo : ofItem (.map [extraKeysEntry 5, extraKeysEntry 7]) = .ok ⟨some 7, none, none⟩ := by
      rfl
    exact (hinsert [extraKeysEntry 5] (.bytes [1], .null) [extraKeysEntry 7] rfl hignored).trans
      htwo
  · apply (policy_of_entries _).1.mpr
    refine ⟨.extraKeys, .integer (-1), List.mem_cons_self, ?_⟩
    intro admits
    cases admits

end KeyProvisioning.DeviceConfig
