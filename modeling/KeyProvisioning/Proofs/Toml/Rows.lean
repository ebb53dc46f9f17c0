import KeyProvisioning.Proofs.Toml.Bounds
import KeyProvisioning.Proofs.Toml.Continuation
import KeyProvisioning.Proofs.Toml.Lines

/-!
# Documents without headers

A document of rows, each of which gives one name a value or gives none: how a name is quoted,
what stands around the sign, what a row ends with and what a value looks like are free. Such a
document is read as the table of what its rows give, unless a name is given twice or an integer
is out of range.
-/

namespace KeyProvisioning.Toml

/-! ## Rows -/

/-- Spaces and tabs. -/
abbrev Blanks := { cs : List Char // cs.all isBlank = true }

/-- The text of a comment. -/
abbrev Remark := { cs : List Char // cs.all isPlain = true }

theorem isBlank_of_mem (blanks : Blanks) : ∀ c ∈ blanks.val, isBlank c = true :=
  List.all_eq_true.mp blanks.property

theorem isPlain_of_mem (remark : Remark) : ∀ c ∈ remark.val, isPlain c = true :=
  List.all_eq_true.mp remark.property

/-- The value that is written. An integer is one whatever its size. -/
inductive Denotes (written : List Char) : Node → Prop
  | value {node : Node} (read : readValue (nestingLimit - 1) written = some (node, [])) :
    Denotes written node
  | integer {n : Int} (literal : integerLiteral? written = some n) :
    Denotes written (.scalar (.integer n))

/-- A name, bare or in quotes, with a value. -/
structure Setting where
  key : List Char
  name : String
  named : readName key = some (name, [])
  beforeSign : Blanks
  afterSign : Blanks
  written : List Char
  value : Node
  denotes : Denotes written value

/-- The characters of a name with its value. -/
def Setting.text (setting : Setting) : List Char :=
  setting.key ++ setting.beforeSign.val ++ '=' :: setting.afterSign.val ++ setting.written

/-- The entry that a name with its value makes. -/
def Setting.entry (setting : Setting) : String × Node :=
  (setting.name, setting.value)

/-- A row of a document, up to the end of its last line. -/
structure Row where
  indent : Blanks
  setting : Option Setting
  trailing : Blanks
  remark : Option Remark

namespace Row

/-- The characters of a comment, where there is one. -/
def remarkText : Option Remark → List Char
  | none => []
  | some remark => '#' :: remark.val

/-- The characters of a row. -/
def text (row : Row) : List Char :=
  row.indent.val ++ (row.setting.elim [] Setting.text) ++ row.trailing.val ++ remarkText row.remark

/-- What the rows of a document give, in their order. -/
def entries (rows : List Row) : Entries :=
  rows.filterMap fun row => row.setting.map Setting.entry

/-- The characters of rows with a line feed between any two. -/
def join (rows : List Row) : List Char :=
  List.intercalate ['\n'] (rows.map text)

/-- A text that consists of these rows. The lines may end in a carriage return as well, and a
mark of byte order may stand in front. -/
def Writes (rows : List Row) (text : String) : Prop :=
  joinLineEnds (dropByteOrderMark text.toList) = join rows

end Row

/-! ## What stands behind a row -/

/-- The end of a row: of the document, or of its line with what comes after. -/
def lineEnd : Option (List Char) → List Char
  | none => []
  | some more => '\n' :: more

theorem dropBlanks_append_of_blank {front : List Char} (h : ∀ c ∈ front, isBlank c = true)
    (cs : List Char) : dropBlanks (front ++ cs) = dropBlanks cs :=
  List.dropWhile_append_of_pos h

/-- A comment and the end of a row begin with neither a blank nor a part of a value. -/
theorem head?_remarkText_lineEnd (remark : Option Remark) (after : Option (List Char)) :
    ∀ c ∈ (Row.remarkText remark ++ lineEnd after).head?, c = '#' ∨ c = '\n' := by
  cases remark with
  | some remark =>
    rintro _ ⟨⟩
    exact .inl rfl
  | none =>
    cases after with
    | some more =>
      rintro _ ⟨⟩
      exact .inr rfl
    | none => rintro _ ⟨⟩

theorem dropBlanks_remarkText_lineEnd (remark : Option Remark) (after : Option (List Char)) :
    dropBlanks (Row.remarkText remark ++ lineEnd after) =
      Row.remarkText remark ++ lineEnd after := by
  have hhead := head?_remarkText_lineEnd remark after
  cases hbehind : Row.remarkText remark ++ lineEnd after with
  | nil => rfl
  | cons c cs =>
    rw [hbehind] at hhead
    obtain rfl | rfl := hhead c rfl <;> rfl

/-- A comment is passed over with the end of its row. -/
theorem endLine?_remarkText_lineEnd (remark : Option Remark) (after : Option (List Char)) :
    endLine? (Row.remarkText remark ++ lineEnd after) = some (after.getD []) := by
  have hcomment : dropComment (Row.remarkText remark ++ lineEnd after) = lineEnd after := by
    cases remark with
    | none => cases after <;> rfl
    | some remark =>
      have hend : (lineEnd after).dropWhile isPlain = lineEnd after := by
        cases after <;> rfl
      rw [Row.remarkText, List.cons_append, dropComment,
        List.dropWhile_append_of_pos (isPlain_of_mem remark), hend]
  rw [endLine?, dropBlanks_remarkText_lineEnd, hcomment]
  cases after <;> rfl

/-- Blanks, a comment and the end of a row separate a value from what follows. -/
theorem separates_rowEnd (trailing : Blanks) (remark : Option Remark)
    (after : Option (List Char)) :
    Separates (trailing.val ++ (Row.remarkText remark ++ lineEnd after)) := by
  have hhead : ∀ front : List Char, (∀ c ∈ front, isBlank c = true) →
      ∀ c ∈ (front ++ (Row.remarkText remark ++ lineEnd after)).head?,
        c = ' ' ∨ c = '\t' ∨ c = '#' ∨ c = '\n' := by
    intro front hfront c hc
    cases front with
    | nil => exact .inr (.inr (head?_remarkText_lineEnd remark after c hc))
    | cons d front =>
      obtain rfl : d = c := by simpa using hc
      have hblank := hfront d List.mem_cons_self
      simp only [isBlank, Bool.or_eq_true, beq_iff_eq] at hblank
      exact hblank.imp_right .inl
  have hword : ∀ c, c = ' ' ∨ c = '\t' ∨ c = '#' ∨ c = '\n' → isWordChar c = false := by
    rintro c (rfl | rfl | rfl | rfl) <;> decide
  refine ⟨fun c hc => hword c (hhead _ (isBlank_of_mem trailing) c hc), ?_, ?_⟩
  · intro c hc
    obtain rfl | rfl | rfl | rfl := hhead _ (isBlank_of_mem trailing) c hc <;> decide
  · intro cs hcs
    -- The blank is one that trails the value, so `cs` begins as the end of a row does.
    obtain ⟨front, hfront, rfl⟩ : ∃ front : List Char, (∀ c ∈ front, isBlank c = true) ∧
        cs = front ++ (Row.remarkText remark ++ lineEnd after) := by
      cases htrailing : trailing.val with
      | nil =>
        rw [htrailing, List.nil_append] at hcs
        have hblank := head?_remarkText_lineEnd remark after ' ' (by rw [hcs]; rfl)
        simp at hblank
      | cons c front =>
        rw [htrailing, List.cons_append, List.cons.injEq] at hcs
        exact ⟨front, fun d hd => isBlank_of_mem trailing d (by simp [htrailing, hd]), hcs.2.symm⟩
    have htime :
        (front ++ (Row.remarkText remark ++ lineEnd after)).takeWhile isWordChar = [] := by
      cases hbehind : front ++ (Row.remarkText remark ++ lineEnd after) with
      | nil => rfl
      | cons c cs =>
        have hc := hword c (hhead front hfront c (by rw [hbehind]; rfl))
        exact List.takeWhile_cons_of_neg (by simp [hc])
    rw [htime]
    rfl

/-! ## Values -/

theorem IsNumeral.ne_nil {cs : List Char} (h : IsNumeral cs) : cs ≠ [] := by
  rintro rfl
  cases h with
  | decimal nonempty digits => exact nonempty rfl

/-- A numeral is read up to its end, if the integer is in range. -/
theorem readValue_literal {written tail : List Char} {n : Int}
    (h : integerLiteral? written = some n) (htail : Separates tail) (depth : Nat) :
    readValue depth (written ++ tail) =
      if (Node.scalar (.integer n)).Fits then some (.scalar (.integer n), tail) else none := by
  have hnumeral := isNumeral_of_integerLiteral? h
  obtain ⟨c, cs, hcs⟩ := List.exists_cons_of_ne_nil hnumeral.ne_nil
  have hc : isWordChar c = true := hnumeral.isWordChar c (by simp [hcs])
  have hvalue := readValue_word hc depth (cs ++ tail)
  rw [← List.cons_append, ← hcs] at hvalue
  have htake : (written ++ tail).takeWhile isWordChar = written := by
    rw [takeWhile_append_of_head? _ htail.word, List.takeWhile_eq_self_iff.mpr hnumeral.isWordChar]
  have hdrop : (written ++ tail).dropWhile isWordChar = tail := by
    rw [dropWhile_append_of_head? _ htail.word, List.dropWhile_eq_nil_iff.mpr hnumeral.isWordChar,
      List.nil_append]
  have hread : readWord (written ++ tail) =
      (integer? written).map fun n => (.integer n, tail) := by
    rw [readWord_of_not_joined, htake, hdrop, hnumeral.ofWord?, Option.map_map]
    · rfl
    · intro hdate
      rw [htake, hnumeral.isDate] at hdate
      cases hdate
  rw [hvalue, hread, integer?_eq_bind, h, Option.bind_some]
  by_cases hfits : (Node.scalar (.integer n)).Fits
  · rw [if_pos hfits, inRange?_eq_some_iff.mpr ⟨rfl, hfits⟩]
    rfl
  · have hnone : inRange? n = none := if_neg hfits
    rw [if_neg hfits, hnone]
    rfl

/-- No value begins with a blank. -/
theorem readValue_blank {c : Char} (hc : isBlank c = true) (depth : Nat) (cs : List Char) :
    readValue depth (c :: cs) = none := by
  have hblank : c = ' ' ∨ c = '\t' := by simpa [isBlank] using hc
  have hword : ofWord? [] = none := by decide
  have htake : (c :: cs).takeWhile isWordChar = [] := by
    obtain rfl | rfl := hblank <;> exact List.takeWhile_cons_of_neg (by decide)
  have hread : readWord (c :: cs) = none := by
    rw [readWord_of_not_joined, htake, hword]
    · rfl
    · rw [htake]
      rintro ⟨⟩
  have hwith : ∀ nested, readValueWith nested (c :: cs) = none := by
    intro nested
    obtain rfl | rfl := hblank <;> simp [readValueWith, hread]
  cases depth with
  | zero => exact hwith none
  | succ depth => exact hwith (some (readValue depth))

namespace Denotes

variable {written : List Char} {node : Node}

theorem exists_eq_cons (h : Denotes written node) :
    ∃ c cs, written = c :: cs ∧ isBlank c = false := by
  cases h with
  | value read =>
    obtain ⟨c, cs, rfl⟩ : ∃ c cs, written = c :: cs := by
      apply List.exists_cons_of_ne_nil
      rintro rfl
      rw [readValue_nil] at read
      cases read
    refine ⟨c, cs, rfl, ?_⟩
    rw [Bool.eq_false_iff]
    intro hblank
    rw [readValue_blank hblank] at read
    cases read
  | integer literal =>
    have hnumeral := isNumeral_of_integerLiteral? literal
    obtain ⟨c, cs, rfl⟩ := List.exists_cons_of_ne_nil hnumeral.ne_nil
    refine ⟨c, cs, rfl, ?_⟩
    have hc := hnumeral.isWordChar c List.mem_cons_self
    rw [Bool.eq_false_iff, isBlank]
    intro hblank
    obtain rfl | rfl : c = ' ' ∨ c = '\t' := by simpa using hblank
    all_goals exact absurd hc (by decide)

/-- Every value is read up to its end, except for integers that a document cannot hold. -/
theorem readValue (h : Denotes written node) {tail : List Char} (htail : Separates tail) :
    readValue (nestingLimit - 1) (written ++ tail) =
      if node.Fits then some (node, tail) else none := by
  cases h with
  | value read =>
    rw [if_pos (fits_of_readValue read)]
    exact keeps_readValue htail _ read
  | integer literal => exact readValue_literal literal htail _

end Denotes

/-! ## Names -/

/-- A name begins with a quote or with a character of a bare one. -/
theorem exists_of_readName {key rest : List Char} {name : String}
    (h : readName key = some (name, rest)) :
    ∃ c cs, key = c :: cs ∧ (c = '"' ∨ c = '\'' ∨ isBareChar c = true) := by
  cases key with
  | nil => cases h
  | cons c cs =>
    refine ⟨c, cs, rfl, ?_⟩
    rw [readName] at h
    split at h
    · rename_i hquote
      have hquote' : c = '"' ∨ c = '\'' := by simpa using hquote
      exact hquote'.imp_right .inl
    split at h
    · rename_i hbare
      exact .inr (.inr hbare)
    · cases h

/-- A name begins with a character that begins nothing else. -/
theorem ne_of_readName {key rest : List Char} {name : String}
    (h : readName key = some (name, rest)) :
    ∃ c cs, key = c :: cs ∧
      ∀ d, d = ' ' ∨ d = '\t' ∨ d = '\n' ∨ d = '#' ∨ d = '[' ∨ d = '\uFEFF' → c ≠ d := by
  obtain ⟨c, cs, rfl, hc⟩ := exists_of_readName h
  refine ⟨c, cs, rfl, ?_⟩
  rintro d hd rfl
  obtain rfl | rfl | hbare := hc
  · simp at hd
  · simp at hd
  · obtain rfl | rfl | rfl | rfl | rfl | rfl := hd <;> exact absurd hbare (by decide)

namespace Setting

variable (setting : Setting)

theorem text_append (tail : List Char) :
    setting.text ++ tail = setting.key ++ (setting.beforeSign.val ++
      '=' :: (setting.afterSign.val ++ (setting.written ++ tail))) := by
  simp [text]

/-- A name is read as a key, up to the sign. -/
theorem readKey_text (rest : List Char) :
    readKey (setting.key ++ (setting.beforeSign.val ++ '=' :: rest)) =
      some (⟨[], setting.name⟩, '=' :: rest) := by
  have hbehind : ∀ c ∈ (setting.beforeSign.val ++ '=' :: rest).head?, isBareChar c = false := by
    intro c hc
    cases hblanks : setting.beforeSign.val with
    | nil =>
      obtain rfl : '=' = c := by simpa [hblanks] using hc
      decide
    | cons d ds =>
      obtain rfl : d = c := by simpa [hblanks] using hc
      have hblank := isBlank_of_mem setting.beforeSign d (by simp [hblanks])
      obtain rfl | rfl : d = ' ' ∨ d = '\t' := by simpa [isBlank] using hblank
      all_goals decide
  have hname := keeps_readName hbehind setting.named
  obtain ⟨c, cs, hkey, hother⟩ := ne_of_readName setting.named
  have hfront : dropBlanks (setting.key ++ (setting.beforeSign.val ++ '=' :: rest)) =
      setting.key ++ (setting.beforeSign.val ++ '=' :: rest) := by
    rw [hkey, List.cons_append, dropBlanks_cons (hother ' ' (by simp)) (hother '\t' (by simp))]
  have hsign : dropBlanks (setting.beforeSign.val ++ '=' :: rest) = '=' :: rest := by
    rw [dropBlanks_append_of_blank (isBlank_of_mem setting.beforeSign),
      dropBlanks_cons (by decide) (by decide)]
  have hnames : ∀ fuel, readNames (fuel + 1)
      (setting.key ++ (setting.beforeSign.val ++ '=' :: rest)) =
        some ([setting.name], '=' :: rest) := by
    intro fuel
    rw [readNames, hfront, hname]
    simp [hsign]
  rw [readKey, hnames]
  rfl

/-- A setting is read as an assignment, up to the end of its row. -/
theorem readStatement_text (trailing : Blanks) (remark : Option Remark)
    (after : Option (List Char)) :
    readStatement (setting.text ++ (trailing.val ++ (Row.remarkText remark ++ lineEnd after))) =
      if setting.value.Fits then
        some (.assign ⟨⟨[], setting.name⟩, setting.value⟩, after.getD [])
      else none := by
  have hvalue := setting.denotes.readValue (separates_rowEnd trailing remark after)
  obtain ⟨c, cs, hwritten, hc⟩ := setting.denotes.exists_eq_cons
  have hblanks : dropBlanks (setting.afterSign.val ++ (setting.written ++
      (trailing.val ++ (Row.remarkText remark ++ lineEnd after)))) =
      setting.written ++ (trailing.val ++ (Row.remarkText remark ++ lineEnd after)) := by
    rw [dropBlanks_append_of_blank (isBlank_of_mem setting.afterSign), hwritten, List.cons_append,
      dropBlanks, List.dropWhile_cons_of_neg (by simp [hc])]
  have htrailing : dropBlanks (trailing.val ++ (Row.remarkText remark ++ lineEnd after)) =
      Row.remarkText remark ++ lineEnd after := by
    rw [dropBlanks_append_of_blank (isBlank_of_mem trailing), dropBlanks_remarkText_lineEnd]
  have hassignment : readAssignment (Toml.readValue (nestingLimit - 1))
      (setting.text ++ (trailing.val ++ (Row.remarkText remark ++ lineEnd after))) =
        if setting.value.Fits then
          some (⟨⟨[], setting.name⟩, setting.value⟩, Row.remarkText remark ++ lineEnd after)
        else none := by
    rw [readAssignment, text_append, readKey_text]
    by_cases hfits : setting.value.Fits
    · simp only [hblanks, hvalue, if_pos hfits, htrailing]
    · simp only [hblanks, hvalue, if_neg hfits]
  obtain ⟨d, ds, hkey, hother⟩ := ne_of_readName setting.named
  have htext := setting.text_append (trailing.val ++ (Row.remarkText remark ++ lineEnd after))
  rw [hkey, List.cons_append] at htext
  rw [htext] at hassignment ⊢
  rw [readStatement, hassignment]
  · by_cases hfits : setting.value.Fits
    · simp only [if_pos hfits, endLine?_remarkText_lineEnd]
      rfl
    · simp only [if_neg hfits]
  · intro es heq
    exact hother '[' (by simp) (List.cons.inj heq).1

end Setting

/-! ## Documents -/

namespace Row

theorem text_append (row : Row) (cs : List Char) :
    row.text ++ cs = row.indent.val ++ (row.setting.elim [] Setting.text ++
      (row.trailing.val ++ (remarkText row.remark ++ cs))) := by
  simp [text]

/-- A row that gives nothing is passed over. -/
theorem readStatements_of_none {row : Row} (h : row.setting = none) {after : Option (List Char)}
    {statements? : Option (List Statement)}
    (hafter : ∀ fuel, (after.getD []).length < fuel →
      readStatements fuel (after.getD []) = statements?)
    {fuel : Nat} (hfuel : (row.text ++ lineEnd after).length < fuel) :
    readStatements fuel (row.text ++ lineEnd after) = statements? := by
  obtain ⟨fuel, rfl⟩ := Nat.exists_eq_succ_of_ne_zero (Nat.ne_zero_of_lt hfuel)
  have hend := endLine?_remarkText_lineEnd row.remark after
  have hfront :
      dropBlanks (row.text ++ lineEnd after) = remarkText row.remark ++ lineEnd after := by
    rw [text_append, h, Option.elim_none, List.nil_append,
      dropBlanks_append_of_blank (isBlank_of_mem row.indent),
      dropBlanks_append_of_blank (isBlank_of_mem row.trailing), dropBlanks_remarkText_lineEnd]
  rw [text_append] at hfuel
  rw [readStatements, hfront]
  cases hremark : row.remark with
  | none =>
    cases after with
    | none => exact hafter 1 (by simp)
    | some more =>
      apply hafter
      simp only [lineEnd, List.length_append, List.length_cons, Option.getD_some] at hfuel ⊢
      omega
  | some remark =>
    rw [hremark] at hend hfuel
    simp only [remarkText, List.cons_append] at hend ⊢
    simp only [hend]
    apply hafter
    cases after <;> simp [remarkText, lineEnd] at hfuel ⊢ <;> omega

/-- A row that gives a name a value is read as its assignment, with the rows after it. -/
theorem readStatements_of_some {row : Row} {setting : Setting} (h : row.setting = some setting)
    {after : Option (List Char)} {statements? : Option (List Statement)}
    (hafter : ∀ fuel, (after.getD []).length < fuel →
      readStatements fuel (after.getD []) = statements?)
    {fuel : Nat} (hfuel : (row.text ++ lineEnd after).length < fuel) :
    readStatements fuel (row.text ++ lineEnd after) =
      if setting.value.Fits then
        statements?.map (.assign ⟨⟨[], setting.name⟩, setting.value⟩ :: ·)
      else none := by
  obtain ⟨fuel, rfl⟩ := Nat.exists_eq_succ_of_ne_zero (Nat.ne_zero_of_lt hfuel)
  have hstatement := setting.readStatement_text row.trailing row.remark after
  obtain ⟨c, cs, hkey, hother⟩ := ne_of_readName setting.named
  obtain ⟨ds, htext⟩ : ∃ ds, setting.text ++ (row.trailing.val ++
      (remarkText row.remark ++ lineEnd after)) = c :: ds := by
    rw [Setting.text_append, hkey]
    exact ⟨_, rfl⟩
  have hrow : row.text ++ lineEnd after = row.indent.val ++ (c :: ds) := by
    rw [text_append, h, Option.elim_some, htext]
  have hfront : readStatements (fuel + 1) (row.text ++ lineEnd after) =
      readStatements (fuel + 1) (c :: ds) := by
    rw [readStatements, readStatements, hrow,
      dropBlanks_append_of_blank (isBlank_of_mem row.indent)]
  have hlength : (after.getD []).length < fuel := by
    have hds := congrArg List.length htext
    rw [hrow] at hfuel
    simp only [List.length_append, List.length_cons, Setting.text_append, hkey] at hds hfuel
    cases after <;> simp [lineEnd] at hds ⊢ <;> omega
  rw [htext] at hstatement
  rw [hfront, readStatements_cons (hother ' ' (by simp)) (hother '\t' (by simp))
    (hother '\n' (by simp)) (hother '#' (by simp)), hstatement]
  by_cases hfits : setting.value.Fits
  · simp only [if_pos hfits, hafter fuel hlength]
  · simp only [if_neg hfits]

/-- The end of a row with the rows after it. -/
theorem join_cons (row : Row) (rows : List Row) :
    ∃ after, join (row :: rows) = row.text ++ lineEnd after ∧ after.getD [] = join rows := by
  cases rows with
  | nil => exact ⟨none, by simp [join, lineEnd], rfl⟩
  | cons other rows =>
    refine ⟨some (join (other :: rows)), ?_, rfl⟩
    simp [join, lineEnd, List.intercalate_cons_cons]

theorem readStatements_join (rows : List Row) {fuel : Nat} (hfuel : (join rows).length < fuel) :
    readStatements fuel (join rows) =
      if ∀ entry ∈ entries rows, entry.2.Fits then
        some ((entries rows).assignments.map .assign)
      else none := by
  induction rows generalizing fuel with
  | nil =>
    obtain ⟨fuel, rfl⟩ := Nat.exists_eq_succ_of_ne_zero (Nat.ne_zero_of_lt hfuel)
    simp [entries, join, readStatements, dropBlanks, Entries.assignments]
  | cons row rows ih =>
    obtain ⟨after, hjoin, hafter⟩ := join_cons row rows
    rw [hjoin] at hfuel ⊢
    rw [← hafter] at ih
    cases hsetting : row.setting with
    | none =>
      have hentries : entries (row :: rows) = entries rows := by simp [entries, hsetting]
      rw [readStatements_of_none hsetting (fun _ => ih) hfuel, hentries]
    | some setting =>
      have hentries : entries (row :: rows) = setting.entry :: entries rows := by
        simp [entries, hsetting, Setting.entry]
      rw [readStatements_of_some hsetting (fun _ => ih) hfuel, hentries]
      simp only [List.forall_mem_cons, Entries.assignments_cons, List.map_cons, Setting.entry]
      by_cases hfits : setting.value.Fits
      · by_cases hrest : ∀ entry ∈ entries rows, entry.2.Fits
        · rw [if_pos hfits, if_pos hrest, if_pos ⟨hfits, hrest⟩]
          rfl
        · rw [if_pos hfits, if_neg hrest, if_neg fun h => hrest h.2]
          rfl
      · rw [if_neg hfits, if_neg fun h => hfits h.1]

/-- Rows are read as the table of what they give, or not at all. -/
theorem parse_of_writes {rows : List Row} {text : String} (h : Writes rows text) :
    parse text =
      if (∀ entry ∈ entries rows, entry.2.Fits) ∧ ((entries rows).map Prod.fst).Nodup then
        some (entries rows)
      else none := by
  rw [parse, statements?, h, readStatements_join rows (Nat.lt_succ_self _)]
  by_cases hfits : ∀ entry ∈ entries rows, entry.2.Fits
  · rw [if_pos hfits, Option.bind_some, build_assignments]
    by_cases hnames : ((entries rows).map Prod.fst).Nodup
    · rw [if_pos hnames, if_pos ⟨hfits, hnames⟩]
    · rw [if_neg hnames, if_neg fun h => hnames h.2]
  · rw [if_neg hfits, if_neg fun h => hfits h.1]
    rfl

end Row

end KeyProvisioning.Toml
