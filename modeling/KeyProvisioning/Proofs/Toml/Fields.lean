import KeyProvisioning.Proofs.Toml.Bounds
import KeyProvisioning.Proofs.Toml.Lines

/-!
# Records over defaults

A record is read from a table field by field: a field that the table names is replaced in the
default record, the others stay, and names that no field has are passed over. That is one
replacement for each entry, whatever their order.
-/

namespace KeyProvisioning.Toml

/-! ## Tables -/

theorem mem_of_get? {entries : Entries} {name : String} {node : Node}
    (h : entries.get? name = some node) : (name, node) ∈ entries := by
  induction entries with
  | nil => cases h
  | cons entry entries ih =>
    rw [Entries.get?] at h
    split at h
    · rename_i hname
      obtain rfl := Option.some.inj h
      exact List.mem_cons.mpr (.inl (by rw [← hname]))
    · exact List.mem_cons_of_mem _ (ih h)

theorem get?_of_mem {entries : Entries} (hdistinct : (entries.map Prod.fst).Nodup) {name : String}
    {node : Node} (h : (name, node) ∈ entries) : entries.get? name = some node := by
  induction entries with
  | nil => cases h
  | cons entry entries ih =>
    obtain ⟨hnew, hdistinct⟩ := List.nodup_cons.mp hdistinct
    rw [Entries.get?]
    obtain rfl | hmem := List.mem_cons.mp h
    · rw [if_pos rfl]
    · have hne : entry.1 ≠ name := fun heq => hnew (heq ▸ List.mem_map_of_mem hmem)
      rw [if_neg hne, ih hdistinct hmem]

/-- What is under a name does not depend on the order of the entries. -/
theorem get?_perm {entries entries' : Entries} (hperm : entries.Perm entries')
    (hdistinct : (entries.map Prod.fst).Nodup) (name : String) :
    entries'.get? name = entries.get? name := by
  cases hnode : entries.get? name with
  | some node =>
    exact get?_of_mem ((hperm.map Prod.fst).nodup_iff.mp hdistinct)
      (hperm.mem_iff.mp (mem_of_get? hnode))
  | none =>
    cases hnode' : entries'.get? name with
    | none => rfl
    | some node =>
      have hmem := hperm.mem_iff.mpr (mem_of_get? hnode')
      rw [get?_of_mem hdistinct hmem] at hnode
      cases hnode

/-! ## Kinds -/

/-- What a field holds. -/
inductive Kind
  | boolean
  | count32
  | count64
  | text
  deriving DecidableEq, Repr

namespace Kind

/-- The values that a field holds. -/
abbrev Carrier : Kind → Type
  | boolean => Bool
  | count32 => UInt32
  | count64 => UInt64
  | text => String

/-- What a value gives a field, where it has the type and the range of the field. A count of 64
bits reaches up to the greatest integer of a document only. -/
def value? : (kind : Kind) → Node → Option kind.Carrier
  | boolean, .scalar (.boolean value) => some value
  | count32, .scalar (.integer n) =>
    if 0 ≤ n ∧ n ≤ 4294967295 then some (UInt32.ofNat n.toNat) else none
  | count64, .scalar (.integer n) =>
    if 0 ≤ n ∧ n ≤ 9223372036854775807 then some (UInt64.ofNat n.toNat) else none
  | text, .scalar (.string value) => some value
  | _, _ => none

/-- How a field is read. -/
def read : (kind : Kind) → Node → Option kind.Carrier
  | boolean => Node.boolean?
  | count32 => Node.uint32?
  | count64 => Node.uint64?
  | text => Node.string?

theorem natBelow?_integer (limit : Nat) (n : Int) :
    (Node.scalar (.integer n)).natBelow? limit =
      if 0 ≤ n ∧ n < limit then some n.toNat else none := by
  cases n with
  | ofNat n => simp [Node.natBelow?]
  | negSucc n => simp [Node.natBelow?]

/-- A field is read by its type and range from every value that a document can hold. -/
theorem read_eq_value? (kind : Kind) {node : Node} (h : node.Fits) :
    kind.read node = kind.value? node := by
  cases node with
  | scalar value =>
    cases value with
    | integer n =>
      cases kind with
      | count32 =>
        have hread : count32.read (.scalar (.integer n)) =
            ((Node.scalar (.integer n)).natBelow? UInt32.size).map UInt32.ofNat := rfl
        have hsize : ((UInt32.size : Nat) : Int) = 4294967296 := rfl
        rw [hread, natBelow?_integer, value?, hsize]
        by_cases hn : 0 ≤ n ∧ n ≤ 4294967295
        · rw [if_pos (by omega), if_pos hn, Option.map_some]
        · rw [if_neg (by omega), if_neg hn, Option.map_none]
      | count64 =>
        have hread : count64.read (.scalar (.integer n)) =
            ((Node.scalar (.integer n)).natBelow? UInt64.size).map UInt64.ofNat := rfl
        have hsize : ((UInt64.size : Nat) : Int) = 18446744073709551616 := rfl
        have hmax : n ≤ 9223372036854775807 := h.2
        rw [hread, natBelow?_integer, value?, hsize]
        by_cases hn : 0 ≤ n
        · rw [if_pos (by omega), if_pos ⟨hn, hmax⟩, Option.map_some]
        · rw [if_neg (by omega), if_neg (by omega), Option.map_none]
      | boolean => rfl
      | text => rfl
    | _ => cases kind <;> rfl
  | _ => cases kind <;> rfl

end Kind

/-! ## Fields -/

/-- A field of a record, under the name that a table has for it. -/
structure KnownField (Record : Type) where
  name : String
  kind : Kind
  get : Record → kind.Carrier
  put : kind.Carrier → Record → Record
  get_put : ∀ value record, get (put value record) = value

namespace KnownField

variable {Record : Type}

/-- All fields of a record, with different names, each of which is replaced alone. -/
structure Lawful (fields : List (KnownField Record)) : Prop where
  distinct : (fields.map name).Nodup
  ext : ∀ record record', (∀ field ∈ fields, field.get record = field.get record') →
    record = record'
  get_put_other : ∀ field ∈ fields, ∀ other ∈ fields, field.name ≠ other.name →
    ∀ value record, field.get (other.put value record) = field.get record

/-- Replace the field that an entry names. -/
def override (fields : List (KnownField Record)) (record : Record) (entry : String × Node) :
    Record :=
  match fields.find? fun field => field.name = entry.1 with
  | none => record
  | some field =>
    match field.kind.value? entry.2 with
    | none => record
    | some value => field.put value record

/-- The record with every field replaced that a table names. -/
def overrideAll (fields : List (KnownField Record)) (default : Record) (entries : Entries) :
    Record :=
  entries.foldl (override fields) default

/-- A table in which no name is given twice, every integer is in the range of a document, and every
field that is named has its type and range. -/
structure Accepts (fields : List (KnownField Record)) (entries : Entries) : Prop where
  distinct : (entries.map Prod.fst).Nodup
  fits : ∀ entry ∈ entries, entry.2.Fits
  kinds : ∀ entry ∈ entries, ∀ field ∈ fields, field.name = entry.1 →
    (field.kind.value? entry.2).isSome = true

instance (fields : List (KnownField Record)) (entries : Entries) :
    Decidable (Accepts fields entries) :=
  decidable_of_iff
    ((entries.map Prod.fst).Nodup ∧ (∀ entry ∈ entries, entry.2.Fits) ∧
      ∀ entry ∈ entries, ∀ field ∈ fields, field.name = entry.1 →
        (field.kind.value? entry.2).isSome = true)
    ⟨fun h => ⟨h.1, h.2.1, h.2.2⟩, fun h => ⟨h.distinct, h.fits, h.kinds⟩⟩

section Lawful

variable {fields : List (KnownField Record)} (lawful : Lawful fields) {field : KnownField Record}
include lawful

theorem Lawful.find? (h : field ∈ fields) :
    (fields.find? fun other => other.name = field.name) = some field := by
  have hdistinct := lawful.distinct
  clear lawful
  induction fields with
  | nil => cases h
  | cons first fields ih =>
    obtain ⟨hfirst, hdistinct⟩ := List.nodup_cons.mp hdistinct
    obtain rfl | hmem := List.mem_cons.mp h
    · simp
    · have hne : first.name ≠ field.name := fun heq =>
        hfirst (heq ▸ List.mem_map_of_mem hmem)
      rw [List.find?_cons_of_neg (by simpa using hne)]
      exact ih hmem hdistinct

theorem Lawful.get_override (h : field ∈ fields) (record : Record) (node : Node) :
    field.get (override fields record (field.name, node)) =
      (field.kind.value? node).getD (field.get record) := by
  simp only [override, lawful.find? h]
  cases field.kind.value? node with
  | none => rfl
  | some value => exact field.get_put value record

theorem Lawful.get_override_other (h : field ∈ fields) (record : Record) {entry : String × Node}
    (hname : entry.1 ≠ field.name) :
    field.get (override fields record entry) = field.get record := by
  unfold override
  split
  · rfl
  · rename_i other hfind
    have hother : other.name = entry.1 := by simpa using List.find?_some hfind
    split
    · rfl
    · rename_i value _
      exact lawful.get_put_other field h other (List.mem_of_find?_eq_some hfind)
        (fun heq => hname (heq.trans hother).symm) value record

/-- A field of the overridden record is the one that the table names, or the default. -/
theorem Lawful.get_overrideAll (h : field ∈ fields) (default : Record) {entries : Entries}
    (hdistinct : (entries.map Prod.fst).Nodup) :
    field.get (overrideAll fields default entries) =
      match entries.get? field.name with
      | none => field.get default
      | some node => (field.kind.value? node).getD (field.get default) := by
  induction entries generalizing default with
  | nil => rfl
  | cons entry entries ih =>
    obtain ⟨hnew, hdistinct⟩ := List.nodup_cons.mp hdistinct
    rw [overrideAll, List.foldl_cons]
    have hrest := ih (override fields default entry) hdistinct
    rw [overrideAll] at hrest
    rw [hrest, Entries.get?]
    obtain ⟨name, node⟩ := entry
    by_cases hname : name = field.name
    · subst hname
      rw [get?_eq_none hnew, if_pos rfl]
      exact lawful.get_override h default node
    · rw [if_neg hname, lawful.get_override_other h default hname]

/-- The order of the entries does not matter. -/
theorem Lawful.overrideAll_perm (default : Record) {entries entries' : Entries}
    (hperm : entries.Perm entries') (hdistinct : (entries.map Prod.fst).Nodup) :
    overrideAll fields default entries' = overrideAll fields default entries := by
  have hdistinct' := (hperm.map Prod.fst).nodup_iff.mp hdistinct
  apply lawful.ext
  intro field hmem
  rw [lawful.get_overrideAll hmem default hdistinct,
    lawful.get_overrideAll hmem default hdistinct', get?_perm hperm hdistinct]

omit lawful in
theorem accepts_perm {entries entries' : Entries} (hperm : entries.Perm entries') :
    Accepts fields entries ↔ Accepts fields entries' where
  mp h :=
    ⟨(hperm.map Prod.fst).nodup_iff.mp h.distinct,
      fun entry hmem => h.fits entry (hperm.mem_iff.mpr hmem),
      fun entry hmem => h.kinds entry (hperm.mem_iff.mpr hmem)⟩
  mpr h :=
    ⟨(hperm.map Prod.fst).nodup_iff.mpr h.distinct,
      fun entry hmem => h.fits entry (hperm.mem_iff.mp hmem),
      fun entry hmem => h.kinds entry (hperm.mem_iff.mp hmem)⟩

/-- Whatever is answered with the overridden record, or without one, the order of the entries
does not matter for it. -/
theorem Lawful.answer_perm {Answer : Type} (answer : Record → Answer) (refusal : Answer)
    (default : Record) {entries entries' : Entries} (hperm : entries.Perm entries') :
    (if Accepts fields entries' then answer (overrideAll fields default entries') else refusal) =
      if Accepts fields entries then answer (overrideAll fields default entries) else refusal := by
  by_cases h : Accepts fields entries
  · rw [if_pos h, if_pos ((accepts_perm hperm).mp h),
      lawful.overrideAll_perm default hperm h.distinct]
  · rw [if_neg h, if_neg fun h' => h ((accepts_perm hperm).mpr h')]

/-- Read a record from a table by its fields, over the defaults. -/
def record? (fields : List (KnownField Record)) (default : Record) (entries : Entries) :
    Option Record :=
  if Accepts fields entries then some (overrideAll fields default entries) else none

/-- From a table that is accepted each field is read as it is in the overridden record. -/
theorem Lawful.field_of_accepts (h : field ∈ fields) {entries : Entries}
    (haccepts : Accepts fields entries) (default : Record) :
    entries.field field.name field.kind.read (field.get default) =
      some (field.get (overrideAll fields default entries)) := by
  rw [lawful.get_overrideAll h default haccepts.distinct, Entries.field]
  cases hnode : entries.get? field.name with
  | none => rfl
  | some node =>
    have hmem := mem_of_get? hnode
    have hkind := haccepts.kinds _ hmem field h rfl
    have hread := field.kind.read_eq_value? (haccepts.fits _ hmem)
    obtain ⟨value, hvalue⟩ := Option.isSome_iff_exists.mp hkind
    simp only [hread, hvalue, Option.getD_some]

omit lawful in
/-- From a table that is not accepted, though its values fit and no name is given twice, some field
cannot be read. -/
theorem exists_field_eq_none {entries : Entries} (hdistinct : (entries.map Prod.fst).Nodup)
    (hfits : ∀ entry ∈ entries, entry.2.Fits) (h : ¬ Accepts fields entries) (default : Record) :
    ∃ field ∈ fields, entries.field field.name field.kind.read (field.get default) = none := by
  by_contra hall
  refine h ⟨hdistinct, hfits, ?_⟩
  rintro ⟨_, node⟩ hmem field hfield rfl
  have hread := field.kind.read_eq_value? (hfits _ hmem)
  rw [← hread, Option.isSome_iff_ne_none]
  intro hnone
  refine hall ⟨field, hfield, ?_⟩
  rw [Entries.field, get?_of_mem hdistinct hmem]
  exact hnone

/-- A reader that succeeds where every field can be read, and fails where one cannot, reads the
record by its fields. -/
theorem Lawful.eq_record? {default : Record} {entries : Entries} {result : Option Record}
    (hdistinct : (entries.map Prod.fst).Nodup) (hfits : ∀ entry ∈ entries, entry.2.Fits)
    (hsome : ∀ record, (∀ field ∈ fields, entries.field field.name field.kind.read
      (field.get default) = some (field.get record)) → result = some record)
    (hnone : ∀ field ∈ fields,
      entries.field field.name field.kind.read (field.get default) = none →
      result = none) :
    result = record? fields default entries := by
  unfold record?
  split
  · rename_i haccepts
    exact hsome _ fun field hmem => lawful.field_of_accepts hmem haccepts default
  · rename_i hrefuses
    obtain ⟨field, hmem, hfield⟩ := exists_field_eq_none hdistinct hfits hrefuses default
    exact hnone field hmem hfield

end Lawful

end KnownField

end KeyProvisioning.Toml
