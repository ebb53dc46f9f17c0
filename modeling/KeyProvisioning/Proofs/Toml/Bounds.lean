import KeyProvisioning.Proofs.Toml.Words
import KeyProvisioning.Toml.Document

/-!
# The integers of a document

A document whose table can be read holds no integer above the greatest one. Headers and dotted
keys only ever add tables, so an integer at the top of a document is the value of an assignment,
and a value is an integer only where its word was checked to be in range.
-/

namespace KeyProvisioning.Toml

/-- A value that is no integer above the greatest one of a document. -/
def Node.IsBounded : Node → Prop
  | .scalar (.integer n) => n ≤ maxInteger
  | _ => True

/-- A value that is no integer outside the range of a document. -/
def Node.Fits : Node → Prop
  | .scalar (.integer n) => minInteger ≤ n ∧ n ≤ maxInteger
  | _ => True

instance : DecidablePred Node.Fits
  | .scalar (.integer _) => inferInstanceAs (Decidable (_ ∧ _))
  | .scalar (.string _) | .scalar (.boolean _) | .scalar (.float _) | .scalar (.moment _)
  | .array _ | .inlineTable _ | .table _ _ | .tables _ => .isTrue trivial

theorem Node.Fits.isBounded {node : Node} (h : node.Fits) : node.IsBounded := by
  match node, h with
  | .scalar (.integer _), h => exact h.2
  | .scalar (.string _), _ | .scalar (.boolean _), _ | .scalar (.float _), _
  | .scalar (.moment _), _ | .array _, _ | .inlineTable _, _ | .table _ _, _ | .tables _, _ =>
    trivial

/-! ## Values -/

theorem inRange?_eq_some_iff {m n : Int} :
    inRange? m = some n ↔ m = n ∧ minInteger ≤ n ∧ n ≤ maxInteger := by
  unfold inRange?
  constructor
  · intro h
    split at h
    · rename_i hrange
      obtain rfl := Option.some.inj h
      exact ⟨rfl, hrange⟩
    · cases h
  · rintro ⟨rfl, hrange⟩
    rw [if_pos hrange]

theorem range_of_integer? {cs : List Char} {n : Int} (h : integer? cs = some n) :
    minInteger ≤ n ∧ n ≤ maxInteger := by
  rw [integer?_eq_bind] at h
  obtain ⟨m, -, hrange⟩ := Option.bind_eq_some_iff.mp h
  exact (inRange?_eq_some_iff.mp hrange).2

theorem fits_of_ofWord? {cs : List Char} {value : Scalar} (h : ofWord? cs = some value) :
    (Node.scalar value).Fits := by
  unfold ofWord? at h
  split at h
  · cases h
    trivial
  split at h
  · cases h
    trivial
  split at h
  · rename_i hinteger
    cases h
    exact range_of_integer? hinteger
  split at h
  · cases h
    trivial
  split at h
  · cases h
    trivial
  · cases h

theorem fits_of_readWord {cs rest : List Char} {value : Scalar}
    (h : readWord cs = some (value, rest)) : (Node.scalar value).Fits := by
  simp only [readWord] at h
  split at h
  · split at h
    · cases h
      trivial
    · cases h
      trivial
  · simp only [Option.map_eq_some_iff] at h
    obtain ⟨value', hword, heq⟩ := h
    cases heq
    exact fits_of_ofWord? hword

theorem fits_of_readValueWith {nested : Option (Scanner Node)} {cs rest : List Char}
    {node : Node} (h : readValueWith nested cs = some (node, rest)) : node.Fits := by
  unfold readValueWith at h
  split at h
  · cases h
  · split at h
    · cases h
    · obtain ⟨read, -, heq⟩ := Option.map_eq_some_iff.mp h
      cases heq
      trivial
  · split at h
    · cases h
    split at h
    · cases h
      trivial
    split at h
    · cases h
    · obtain ⟨entries, -, heq⟩ := Option.map_eq_some_iff.mp h
      cases heq
      trivial
  · split at h
    · obtain ⟨read, -, heq⟩ := Option.map_eq_some_iff.mp h
      cases heq
      trivial
    · obtain ⟨read, hword, heq⟩ := Option.map_eq_some_iff.mp h
      cases heq
      exact fits_of_readWord hword

theorem fits_of_readValue {depth : Nat} {cs rest : List Char} {node : Node}
    (h : readValue depth cs = some (node, rest)) : node.Fits := by
  cases depth with
  | zero => exact fits_of_readValueWith h
  | succ depth => exact fits_of_readValueWith h

theorem isBounded_of_readValue {depth : Nat} {cs rest : List Char} {node : Node}
    (h : readValue depth cs = some (node, rest)) : node.IsBounded :=
  (fits_of_readValue h).isBounded

/-! ## Statements -/

/-- A line that gives a name no integer above the greatest one. -/
def Statement.IsBounded : Statement → Prop
  | .assign assignment => assignment.value.IsBounded
  | .header _ => True

theorem isBounded_of_readStatement {cs rest : List Char} {statement : Statement}
    (h : readStatement cs = some (statement, rest)) : statement.IsBounded := by
  unfold readStatement at h
  split at h
  · split at h
    · cases h
    · obtain ⟨after, -, heq⟩ := Option.map_eq_some_iff.mp h
      cases heq
      trivial
  · split at h
    · cases h
    · rename_i assignment after hread
      obtain ⟨after, -, heq⟩ := Option.map_eq_some_iff.mp h
      cases heq
      unfold readAssignment at hread
      split at hread
      · split at hread
        · cases hread
        · rename_i hvalue
          cases hread
          exact isBounded_of_readValue hvalue
      · cases hread

theorem isBounded_of_readStatements {fuel : Nat} {cs : List Char} {statements : List Statement}
    (h : readStatements fuel cs = some statements) :
    ∀ statement ∈ statements, statement.IsBounded := by
  induction fuel generalizing cs statements with
  | zero => cases h
  | succ fuel ih =>
    rw [readStatements] at h
    split at h
    · cases h
      simp
    · exact ih h
    · split at h
      · cases h
      · exact ih h
    · split at h
      · cases h
      · rename_i statement rest hread
        obtain ⟨statements, hrest, rfl⟩ := Option.map_eq_some_iff.mp h
        intro other hmem
        obtain rfl | hmem := List.mem_cons.mp hmem
        · exact isBounded_of_readStatement hread
        · exact ih hrest other hmem

/-! ## Tables -/

/-- A table with no integer of its own above the greatest one. -/
def Entries.IsBounded (entries : Entries) : Prop :=
  ∀ entry ∈ entries, entry.2.IsBounded

theorem Entries.isBounded_nil : Entries.IsBounded [] := by
  simp [Entries.IsBounded]

theorem Entries.IsBounded.add {entries : Entries} (h : entries.IsBounded) (name : String)
    {node : Node} (hnode : node.IsBounded) : (entries.add name node).IsBounded := by
  intro entry hmem
  obtain hmem | hmem := List.mem_append.mp hmem
  · exact h entry hmem
  · obtain rfl := List.mem_singleton.mp hmem
    exact hnode

theorem Entries.IsBounded.replace {entries : Entries} (h : entries.IsBounded) (name : String)
    {node : Node} (hnode : node.IsBounded) : (entries.replace name node).IsBounded := by
  intro entry hmem
  obtain ⟨old, hold, rfl⟩ := List.mem_map.mp hmem
  by_cases hname : old.1 = name
  · simpa [hname] using hnode
  · simpa [hname] using h old hold

theorem Entries.IsBounded.get? {entries : Entries} (h : entries.IsBounded) {name : String}
    {node : Node} (hget : entries.get? name = some node) : node.IsBounded := by
  induction entries with
  | nil => cases hget
  | cons entry entries ih =>
    rw [Entries.get?] at hget
    split at hget
    · obtain rfl := Option.some.inj hget
      exact h entry List.mem_cons_self
    · exact ih (fun other hmem => h other (List.mem_cons_of_mem entry hmem)) hget

theorem Entries.IsBounded.insert {entries entries' : Entries} (h : entries.IsBounded)
    {name : String} {value : Node} (hvalue : value.IsBounded) {path : List String}
    (hinsert : Toml.insert name value entries path = some entries') : entries'.IsBounded := by
  cases path with
  | nil =>
    rw [Toml.insert] at hinsert
    split at hinsert
    · cases hinsert
    · obtain rfl := Option.some.inj hinsert
      exact h.add name hvalue
  | cons step path =>
    rw [Toml.insert] at hinsert
    split at hinsert
    · obtain ⟨inner, -, rfl⟩ := Option.map_eq_some_iff.mp hinsert
      exact h.add step trivial
    · split at hinsert
      · cases hinsert
      · obtain ⟨inner, -, rfl⟩ := Option.map_eq_some_iff.mp hinsert
        exact h.replace step trivial
    · split at hinsert
      · cases hinsert
      · obtain ⟨elements, -, rfl⟩ := Option.map_eq_some_iff.mp hinsert
        exact h.replace step trivial
    · cases hinsert

theorem Entries.IsBounded.insertAll {entries entries' : Entries} (h : entries.IsBounded)
    {assignments : List Assignment}
    (hvalues : ∀ assignment ∈ assignments, assignment.value.IsBounded)
    (hinsert : Toml.insertAll entries assignments = some entries') : entries'.IsBounded := by
  induction assignments generalizing entries with
  | nil =>
    obtain rfl := Option.some.inj hinsert
    exact h
  | cons assignment assignments ih =>
    rw [Toml.insertAll] at hinsert
    split at hinsert
    · cases hinsert
    · rename_i next hnext
      apply ih (h.insert (hvalues assignment List.mem_cons_self) hnext) _ hinsert
      intro other hmem
      exact hvalues other (List.mem_cons_of_mem assignment hmem)

/-- A section adds a table or a list of tables to the table in which its header names it. -/
theorem Entries.IsBounded.define {parent parent' : Entries} (h : parent.IsBounded) {part : Section}
    (hdefine : part.define parent = some parent') : parent'.IsBounded := by
  simp only [Section.define] at hdefine
  split at hdefine
  · obtain ⟨inner, -, rfl⟩ := Option.map_eq_some_iff.mp hdefine
    exact h.add _ trivial
  · obtain ⟨inner, -, rfl⟩ := Option.map_eq_some_iff.mp hdefine
    exact h.replace _ trivial
  · obtain ⟨inner, -, rfl⟩ := Option.map_eq_some_iff.mp hdefine
    exact h.add _ trivial
  · obtain ⟨inner, -, rfl⟩ := Option.map_eq_some_iff.mp hdefine
    exact h.replace _ trivial
  · cases hdefine

/-- On the way of a header there are only tables. -/
theorem Entries.IsBounded.descend {entries entries' : Entries} (h : entries.IsBounded)
    {part : Section} {path : List String}
    (hdescend : Toml.descend part.define entries path = some entries') : entries'.IsBounded := by
  cases path with
  | nil => exact h.define hdescend
  | cons step path =>
    rw [Toml.descend] at hdescend
    split at hdescend
    · obtain ⟨inner, -, rfl⟩ := Option.map_eq_some_iff.mp hdescend
      exact h.add step trivial
    · obtain ⟨inner, -, rfl⟩ := Option.map_eq_some_iff.mp hdescend
      exact h.replace step trivial
    · obtain ⟨elements, -, rfl⟩ := Option.map_eq_some_iff.mp hdescend
      exact h.replace step trivial
    · cases hdescend

theorem Entries.IsBounded.defineAll {root root' : Entries} (h : root.IsBounded)
    {parts : List Section} (hdefine : Toml.defineAll root parts = some root') :
    root'.IsBounded := by
  induction parts generalizing root with
  | nil =>
    obtain rfl := Option.some.inj hdefine
    exact h
  | cons part parts ih =>
    rw [Toml.defineAll] at hdefine
    split at hdefine
    · cases hdefine
    · rename_i next hnext
      exact ih (h.descend hnext) hdefine

theorem mem_sections {assignment : Assignment} {statements : List Statement}
    (h : assignment ∈ (sections statements).1) : Statement.assign assignment ∈ statements := by
  induction statements with
  | nil => simp [sections] at h
  | cons statement statements ih =>
    cases statement with
    | assign other =>
      rw [sections] at h
      obtain rfl | h := List.mem_cons.mp h
      · exact List.mem_cons_self
      · exact List.mem_cons_of_mem _ (ih h)
    | header header => simp [sections] at h

/-! ## Documents -/

/-- The table of a document holds no integer above the greatest one. -/
theorem isBounded_of_parse {text : String} {entries : Entries} (h : parse text = some entries) :
    entries.IsBounded := by
  obtain ⟨statements, hstatements, hbuild⟩ := Option.bind_eq_some_iff.mp h
  have hbounded := isBounded_of_readStatements hstatements
  unfold build at hbuild
  split at hbuild
  · cases hbuild
  · rename_i root hroot
    have hvalues : ∀ assignment ∈ (sections statements).1, assignment.value.IsBounded :=
      fun assignment hmem => hbounded _ (mem_sections hmem)
    exact (Entries.isBounded_nil.insertAll hvalues hroot).defineAll hbuild

/-- A count of 64 bits read from a table is an integer of a document, or the default. -/
theorem Entries.IsBounded.field_uint64? {entries : Entries} (h : entries.IsBounded) {name : String}
    {default count : UInt64} (hdefault : (default.toNat : Int) ≤ maxInteger)
    (hfield : entries.field name Node.uint64? default = some count) :
    (count.toNat : Int) ≤ maxInteger := by
  unfold Entries.field at hfield
  split at hfield
  · obtain rfl := Option.some.inj hfield
    exact hdefault
  · rename_i node hget
    have hnode := h.get? hget
    obtain ⟨n, hbelow, rfl⟩ := Option.map_eq_some_iff.mp hfield
    unfold Node.natBelow? at hbelow
    split at hbelow
    · rename_i m
      have hm : (Int.ofNat m : Int) ≤ maxInteger := hnode
      split at hbelow
      · rename_i hlt
        obtain rfl := Option.some.inj hbelow
        rw [UInt64.toNat_ofNat_of_lt' hlt]
        exact hm
      · cases hbelow
    · cases hbelow

end KeyProvisioning.Toml
