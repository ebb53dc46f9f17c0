import KeyProvisioning.Proofs.Toml.Counts
import KeyProvisioning.Proofs.Toml.Quoting
import KeyProvisioning.Proofs.Toml.Words
import KeyProvisioning.Toml.Document

/-!
# Reading assignments back

A document of one assignment a line, with bare keys, is read back into these assignments in their
order, whatever the values are, as long as each of them is read back up to the end of its line.
-/

namespace KeyProvisioning.Toml

open Writer

/-! ## Keys -/

/-- A name that a key needs no quotes for. -/
def IsBare (name : String) : Prop :=
  name.toList ≠ [] ∧ name.toList.all isBareChar = true

instance (name : String) : Decidable (IsBare name) :=
  inferInstanceAs (Decidable (_ ∧ _))

theorem IsBare.isBareChar_of_mem {name : String} (h : IsBare name) :
    ∀ c ∈ name.toList, isBareChar c = true :=
  List.all_eq_true.mp h.2

/-- A bare key begins with a character that begins nothing else. -/
theorem IsBare.exists_eq_cons {name : String} (h : IsBare name) :
    ∃ c cs, name.toList = c :: cs ∧ isBareChar c = true ∧ ∀ d, isBareChar d = false → c ≠ d := by
  obtain ⟨c, cs, hcs⟩ := List.exists_cons_of_ne_nil h.1
  have hc : isBareChar c = true := h.isBareChar_of_mem c (by simp [hcs])
  refine ⟨c, cs, hcs, hc, ?_⟩
  rintro d hd rfl
  simp [hc] at hd

theorem dropBlanks_cons {c : Char} (hspace : c ≠ ' ') (htab : c ≠ '\t') (cs : List Char) :
    dropBlanks (c :: cs) = c :: cs := by
  have hc : isBlank c = false := by simp [isBlank, hspace, htab]
  rw [dropBlanks, List.dropWhile_cons_of_neg (by simp [hc])]

theorem IsBare.dropBlanks {name : String} (h : IsBare name) (rest : List Char) :
    dropBlanks (name.toList ++ rest) = name.toList ++ rest := by
  obtain ⟨c, cs, hcs, -, hother⟩ := h.exists_eq_cons
  rw [hcs, List.cons_append, dropBlanks_cons (hother _ (by decide)) (hother _ (by decide))]

/-- A bare name is read up to the blank after it. -/
theorem IsBare.readName {name : String} (h : IsBare name) (rest : List Char) :
    readName (name.toList ++ ' ' :: rest) = some (name, ' ' :: rest) := by
  have htake : (name.toList ++ ' ' :: rest).takeWhile isBareChar = name.toList := by
    rw [List.takeWhile_append_of_pos h.isBareChar_of_mem, List.takeWhile_cons_of_neg (by decide),
      List.append_nil]
  have hdrop : (name.toList ++ ' ' :: rest).dropWhile isBareChar = ' ' :: rest := by
    rw [List.dropWhile_append_of_pos h.isBareChar_of_mem, List.dropWhile_cons_of_neg (by decide)]
  obtain ⟨c, cs, hcs, hc, hother⟩ := h.exists_eq_cons
  rw [hcs, List.cons_append] at htake hdrop ⊢
  have hdouble := hother '"' (by decide)
  have hsingle := hother '\'' (by decide)
  rw [Toml.readName, if_neg (by simp [hdouble, hsingle]), if_pos hc, htake, hdrop, ← hcs,
    String.ofList_toList]

/-- A bare key is read up to the sign after it. -/
theorem IsBare.readKey {name : String} (h : IsBare name) (rest : List Char) :
    readKey (name.toList ++ ' ' :: '=' :: rest) = some (⟨[], name⟩, '=' :: rest) := by
  have hnames : ∀ fuel, readNames (fuel + 1) (name.toList ++ ' ' :: '=' :: rest) =
      some ([name], '=' :: rest) := by
    intro fuel
    have hblank : Toml.dropBlanks (' ' :: '=' :: rest) = '=' :: rest := rfl
    rw [readNames, h.dropBlanks, h.readName]
    simp [hblank]
  rw [Toml.readKey, hnames]
  rfl

/-! ## Values -/

/-- What is written reads as a value, up to the end of the line. -/
def ReadsAs (written : List Char) (node : Node) : Prop :=
  ∀ rest, readValue (nestingLimit - 1) (dropBlanks (written ++ '\n' :: rest)) =
    some (node, '\n' :: rest)

theorem readValue_quoted {c : Char} (hc : c = '"' ∨ c = '\'') (depth : Nat) (cs : List Char) :
    readValue depth (c :: cs) =
      (readQuoted (c :: cs)).map fun (text, rest) =>
        (.scalar (.string (String.ofList text)), rest) := by
  obtain rfl | rfl := hc <;> cases depth <;> rfl

theorem readValue_word {c : Char} (hc : isWordChar c = true) (depth : Nat) (cs : List Char) :
    readValue depth (c :: cs) =
      (readWord (c :: cs)).map fun (value, rest) => (.scalar value, rest) := by
  have hother : ∀ d, isWordChar d = false → c ≠ d := by
    rintro d hd rfl
    simp [hc] at hd
  have hdouble := hother '"' (by decide)
  have hsingle := hother '\'' (by decide)
  have hwith : ∀ nested, readValueWith nested (c :: cs) =
      (readWord (c :: cs)).map fun (value, rest) => (.scalar value, rest) := by
    intro nested
    rw [readValueWith, if_neg (by simp [hdouble, hsingle])]
    · exact hother '[' (by decide)
    · exact hother '{' (by decide)
  cases depth with
  | zero => exact hwith none
  | succ depth => exact hwith (some (readValue depth))

/-- A string in quotes begins with a quote. -/
theorem exists_writeAs_eq_cons (style : Style) (cs : List Char) :
    ∃ c ds, writeAs style cs = c :: ds ∧ (c = '"' ∨ c = '\'') := by
  match style with
  | .basic false => exact ⟨_, _, rfl, .inl rfl⟩
  | .basic true => exact ⟨_, _, rfl, .inl rfl⟩
  | .literal false => exact ⟨_, _, rfl, .inr rfl⟩
  | .literal true => exact ⟨_, _, rfl, .inr rfl⟩

/-- Every string is written so that it is read back. -/
theorem readsAs_writeString (text : String) :
    ReadsAs (writeString text).toList (.scalar (.string text)) := by
  intro rest
  obtain ⟨c, ds, hwritten, hc⟩ := exists_writeAs_eq_cons (styleOf text.toList) text.toList
  have hread := readQuoted_writeAs text.toList rest
  rw [writeString, String.toList_ofList]
  rw [hwritten, List.cons_append] at hread ⊢
  rw [dropBlanks_cons (by rintro rfl; simp at hc) (by rintro rfl; simp at hc), readValue_quoted hc,
    hread]
  simp only [Option.map_some, String.ofList_toList]

/-- A count that can be written is read back. -/
theorem readsAs_writeCount {n : Nat} {written : String} (h : writeCount? n = some written) :
    ReadsAs written.toList (.scalar (.integer n)) := by
  intro rest
  obtain ⟨hn, rfl⟩ : (n : Int) ≤ maxInteger ∧ toString n = written := by
    simpa [writeCount?] using h
  have hdigits : (toString n).toList = decimalDigits n := by
    rw [Nat.toString_eq_ofList_toDigits, String.toList_ofList]
  have hread := readWord_decimalDigits hn rest
  obtain ⟨c, cs, hcs⟩ : ∃ c cs, decimalDigits n = c :: cs :=
    List.exists_cons_of_ne_nil Nat.toDigits_ne_nil
  have hc : c.isDigit = true :=
    isDigit_of_mem_decimalDigits (show c ∈ decimalDigits n by rw [hcs]; exact List.mem_cons_self)
  rw [hdigits]
  rw [hcs, List.cons_append] at hread ⊢
  have hword := isWordChar_of_isDecimalDigit (isDecimalDigit_of_isDigit hc)
  rw [dropBlanks_cons (by rintro rfl; simp at hc) (by rintro rfl; simp at hc),
    readValue_word hword, hread, Option.map_some]

/-! ## Lines -/

/-- A line that begins with no blank, line end or comment is read as a statement. -/
theorem readStatements_cons {c : Char} (hspace : c ≠ ' ') (htab : c ≠ '\t') (hline : c ≠ '\n')
    (hcomment : c ≠ '#') (fuel : Nat) (cs : List Char) :
    readStatements (fuel + 1) (c :: cs) =
      match readStatement (c :: cs) with
      | none => none
      | some (statement, rest) => (readStatements fuel rest).map (statement :: ·) := by
  rw [readStatements, dropBlanks_cons hspace htab]
  split
  · rename_i heq
    cases heq
  · rename_i heq
    exact absurd (List.cons.inj heq).1 hline
  · rename_i heq
    exact absurd (List.cons.inj heq).1 hcomment
  · rfl

/-! ## Tables -/

/-- The assignments that give each entry its name without dots. -/
def Entries.assignments (entries : Entries) : List Assignment :=
  entries.map fun entry => ⟨⟨[], entry.1⟩, entry.2⟩

theorem Entries.assignments_cons (entry : String × Node) (entries : Entries) :
    assignments (entry :: entries) = ⟨⟨[], entry.1⟩, entry.2⟩ :: assignments entries := rfl

theorem get?_eq_none {entries : Entries} {name : String} (h : name ∉ entries.map Prod.fst) :
    entries.get? name = none := by
  induction entries with
  | nil => rfl
  | cons entry entries ih =>
    simp only [List.map_cons, List.mem_cons, not_or] at h
    rw [Entries.get?, if_neg (fun he => h.1 he.symm), ih h.2]

/-- A name that is there has a value. -/
theorem exists_get?_eq_some {entries : Entries} {name : String} (h : name ∈ entries.map Prod.fst) :
    ∃ node, entries.get? name = some node := by
  induction entries with
  | nil => cases h
  | cons entry entries ih =>
    rw [Entries.get?]
    split
    · exact ⟨_, rfl⟩
    · rename_i hne
      exact ih ((List.mem_cons.mp h).resolve_left fun he => hne he.symm)

/-- Entries with different names are added in their order. -/
theorem insertAll_assignments {entries added : Entries}
    (h : ((entries ++ added).map Prod.fst).Nodup) :
    insertAll entries added.assignments = some (entries ++ added) := by
  induction added generalizing entries with
  | nil => simp [Entries.assignments, insertAll]
  | cons entry added ih =>
    have hnew : entry.1 ∉ entries.map Prod.fst := by
      rw [List.map_append, List.nodup_append] at h
      exact fun hmem => h.2.2 _ hmem _ List.mem_cons_self rfl
    have hnodup : (((entries.add entry.1 entry.2) ++ added).map Prod.fst).Nodup := by
      simpa [Entries.add] using h
    have hinsert : insert entry.1 entry.2 entries [] = some (entries.add entry.1 entry.2) := by
      rw [insert, get?_eq_none hnew]
    rw [Entries.assignments_cons, insertAll, hinsert]
    simp only [ih hnodup]
    simp [Entries.add]

/-- A name that is given twice refuses all of them. -/
theorem insertAll_assignments_eq_none {entries added : Entries}
    (hentries : (entries.map Prod.fst).Nodup) (h : ¬ ((entries ++ added).map Prod.fst).Nodup) :
    insertAll entries added.assignments = none := by
  induction added generalizing entries with
  | nil => exact absurd hentries (by simpa using h)
  | cons entry added ih =>
    rw [Entries.assignments_cons, insertAll, insert]
    by_cases hmem : entry.1 ∈ entries.map Prod.fst
    · obtain ⟨node, hnode⟩ := exists_get?_eq_some hmem
      simp only [hnode]
    · have hadd : ((entries.add entry.1 entry.2).map Prod.fst).Nodup := by
        rw [Entries.add, List.map_append, List.nodup_append]
        refine ⟨hentries, List.nodup_cons.mpr ⟨List.not_mem_nil, List.nodup_nil⟩, ?_⟩
        rintro name hname _ hsame rfl
        obtain rfl := List.mem_singleton.mp hsame
        exact hmem hname
      have hnodup : ¬ (((entries.add entry.1 entry.2) ++ added).map Prod.fst).Nodup := by
        simpa [Entries.add] using h
      simp only [get?_eq_none hmem]
      exact ih hadd hnodup

theorem sections_assign (assignments : List Assignment) :
    sections (assignments.map .assign) = (assignments, []) := by
  induction assignments with
  | nil => rfl
  | cons assignment assignments ih => simp [sections, ih]

/-- A document of assignments to names without dots is the table of their entries. -/
theorem build_assignments (entries : Entries) :
    build (entries.assignments.map .assign) =
      if (entries.map Prod.fst).Nodup then some entries else none := by
  rw [build, sections_assign]
  split
  · rename_i hnone
    rw [if_neg]
    intro hnodup
    rw [@insertAll_assignments [] entries hnodup] at hnone
    cases hnone
  · rename_i root hroot
    by_cases hnodup : (entries.map Prod.fst).Nodup
    · rw [@insertAll_assignments [] entries hnodup] at hroot
      obtain rfl := Option.some.inj hroot
      rw [if_pos hnodup]
      rfl
    · rw [@insertAll_assignments_eq_none [] entries List.nodup_nil hnodup] at hroot
      cases hroot

/-! ## Written lines -/

/-- A line to be written: a bare key, the text of its value, and the value that the text reads
as. -/
structure Line where
  name : String
  written : String
  node : Node
  bare : IsBare name
  reads : ReadsAs written.toList node
  joined : '\r' ∉ written.toList

namespace Line

/-- The characters of a line. -/
def text (line : Line) : List Char :=
  (Writer.line line.name line.written).toList

/-- The assignment that a line makes. -/
def assignment (line : Line) : Assignment :=
  ⟨⟨[], line.name⟩, line.node⟩

theorem text_append (line : Line) (rest : List Char) :
    line.text ++ rest =
      line.name.toList ++ ' ' :: '=' :: ' ' :: (line.written.toList ++ '\n' :: rest) := by
  have hmiddle : " = ".toList = [' ', '=', ' '] := by decide
  have hend : "\n".toList = ['\n'] := by decide
  simp [text, Writer.line, hmiddle, hend]

/-- A line is read as the assignment that it makes. -/
theorem readAssignment_text (line : Line) (rest : List Char) :
    readAssignment (readValue (nestingLimit - 1)) (line.text ++ rest) =
      some (line.assignment, '\n' :: rest) := by
  have hblank : dropBlanks (' ' :: (line.written.toList ++ '\n' :: rest)) =
      dropBlanks (line.written.toList ++ '\n' :: rest) := rfl
  rw [readAssignment, text_append, line.bare.readKey]
  simp only [hblank, line.reads rest]
  rfl

/-- A line is read up to its end. -/
theorem readStatement_text (line : Line) (rest : List Char) :
    readStatement (line.text ++ rest) = some (.assign line.assignment, rest) := by
  obtain ⟨c, cs, hcs, -, hother⟩ := line.bare.exists_eq_cons
  have hread := line.readAssignment_text rest
  rw [text_append, hcs, List.cons_append] at hread ⊢
  rw [readStatement, hread]
  · rfl
  · intro cs heq
    exact hother '[' (by decide) (List.cons.inj heq).1

/-- The lines of a document are read one after another. -/
theorem readStatements_text (lines : List Line) {fuel : Nat} (hfuel : lines.length < fuel) :
    readStatements fuel (lines.flatMap text) =
      some (lines.map fun line => .assign line.assignment) := by
  induction lines generalizing fuel with
  | nil =>
    obtain ⟨fuel, rfl⟩ := Nat.exists_eq_succ_of_ne_zero (Nat.ne_zero_of_lt hfuel)
    rfl
  | cons line lines ih =>
    obtain ⟨fuel, rfl⟩ := Nat.exists_eq_succ_of_ne_zero (Nat.ne_zero_of_lt hfuel)
    have hrest := ih (Nat.lt_of_succ_lt_succ hfuel)
    have hread := line.readStatement_text (lines.flatMap text)
    obtain ⟨c, cs, hcs, -, hother⟩ := line.bare.exists_eq_cons
    rw [List.flatMap_cons]
    rw [text_append, hcs, List.cons_append] at hread ⊢
    rw [readStatements_cons (hother _ (by decide)) (hother _ (by decide)) (hother _ (by decide))
      (hother _ (by decide)), hread]
    simp only [hrest]
    rfl

theorem carriageReturn_not_mem_text (line : Line) : '\r' ∉ line.text := by
  have htext := line.text_append []
  rw [List.append_nil] at htext
  have hname : '\r' ∉ line.name.toList := fun hmem =>
    absurd (line.bare.isBareChar_of_mem _ hmem) (by decide)
  simp [htext, hname, line.joined]

/-! ## Documents -/

/-- The entry that a line adds to the table of the document. -/
def entry (line : Line) : String × Node :=
  (line.name, line.node)

theorem joinLineEnds_eq_self {cs : List Char} (h : '\r' ∉ cs) : joinLineEnds cs = cs := by
  induction cs with
  | nil => rfl
  | cons c cs ih =>
    have hc : c ≠ '\r' := fun he => h (he ▸ List.mem_cons_self)
    rw [joinLineEnds, ih fun hmem => h (List.mem_cons_of_mem c hmem)]
    intro rest hreturn
    exact absurd hreturn hc

theorem dropByteOrderMark_text (lines : List Line) :
    dropByteOrderMark (lines.flatMap text) = lines.flatMap text := by
  cases lines with
  | nil => rfl
  | cons line lines =>
    obtain ⟨c, cs, hcs, -, hother⟩ := line.bare.exists_eq_cons
    rw [List.flatMap_cons, text_append, hcs, List.cons_append, dropByteOrderMark]
    intro rest heq
    exact hother '\uFEFF' (by decide) (List.cons.inj heq).1

/-- Every line takes a character. -/
theorem length_le_length_flatMap_text (lines : List Line) :
    lines.length ≤ (lines.flatMap text).length := by
  induction lines with
  | nil => simp
  | cons line lines ih =>
    have htext := congrArg List.length (line.text_append [])
    simp only [List.append_nil, List.length_append, List.length_cons] at htext
    rw [List.flatMap_cons, List.length_append, List.length_cons]
    omega

/-- The lines of a document are the statements that it is read as. -/
theorem statements?_text (lines : List Line) :
    statements? (String.ofList (lines.flatMap text)) =
      some (lines.map fun line => .assign line.assignment) := by
  have hjoined : '\r' ∉ lines.flatMap text := by
    simp [carriageReturn_not_mem_text]
  have hlength := length_le_length_flatMap_text lines
  rw [statements?, String.toList_ofList, dropByteOrderMark_text, joinLineEnds_eq_self hjoined]
  exact readStatements_text lines (Nat.lt_succ_of_le hlength)

/-- A document of lines with different names is the table of their entries. -/
theorem parse_text {lines : List Line} (h : (lines.map name).Nodup) :
    parse (String.ofList (lines.flatMap text)) = some (lines.map entry) := by
  have hassign : (lines.map fun line => Statement.assign line.assignment) =
      (Entries.assignments (lines.map entry)).map .assign := by
    simp [Entries.assignments, assignment, entry]
  have hnames : ((lines.map entry).map Prod.fst).Nodup := by
    rwa [List.map_map]
  rw [parse, statements?_text, Option.bind_some, hassign, build_assignments, if_pos hnames]

end Line

end KeyProvisioning.Toml
