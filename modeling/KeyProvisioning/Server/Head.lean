import KeyProvisioning.Bytes
import KeyProvisioning.Text.Digits

/-!
# Heads of answers

An answer begins with a line that gives its version and status, and goes on with one line for
each field, up to an empty line. A line ends with a line feed, perhaps after a carriage return.
Each octet of a line is read as the character with its number.
-/

namespace KeyProvisioning.Server

/-- A field: its name in lower case and its value. -/
structure HeadField where
  name : List Char
  value : List Char
  deriving DecidableEq, Repr

/-- What an answer says of itself before its body. -/
structure Head where
  /-- Whether the version is 1.1; else it is 1.0. -/
  isCurrent : Bool
  status : Nat
  fields : List HeadField
  deriving DecidableEq, Repr

/-- The characters with the numbers of the octets. -/
def octetText (bs : Bytes) : List Char :=
  bs.map fun b => Char.ofNat b.toNat

/-- The octets before the first line feed, and those after it. -/
def splitLine? : Bytes → Option (Bytes × Bytes)
  | [] => none
  | b :: bs =>
    if b = 10 then some ([], bs) else (splitLine? bs).map fun (line, rest) => (b :: line, rest)

theorem length_lt_of_splitLine? {bs line rest : Bytes} (h : splitLine? bs = some (line, rest)) :
    rest.length < bs.length := by
  induction bs generalizing line with
  | nil => simp [splitLine?] at h
  | cons b bs ih =>
    simp only [splitLine?] at h
    split at h
    · simp only [Option.some.injEq, Prod.mk.injEq] at h
      simp [h.2]
    · cases hs : splitLine? bs with
      | none => simp [hs] at h
      | some p =>
        simp only [hs, Option.map_some, Option.some.injEq, Prod.mk.injEq] at h
        exact Nat.lt_succ_of_lt (ih (show splitLine? bs = some (p.1, rest) by rw [hs, ← h.2]))

/-- A line without its end. -/
def line? (bs : Bytes) : Option (List Char × Bytes) :=
  (splitLine? bs).map fun (line, rest) =>
    (octetText (if line.getLast? = some 13 then line.dropLast else line), rest)

theorem length_lt_of_line? {bs rest : Bytes} {line : List Char}
    (h : line? bs = some (line, rest)) :
    rest.length < bs.length := by
  cases hs : splitLine? bs with
  | none => simp [line?, hs] at h
  | some p =>
    simp only [line?, hs, Option.map_some, Option.some.injEq, Prod.mk.injEq] at h
    exact length_lt_of_splitLine? (show splitLine? bs = some (p.1, rest) by rw [hs, ← h.2])

/-- Whether a character can stand in a reason or in the value of a field: all but control
characters other than the tab. -/
def isFieldChar (c : Char) : Bool :=
  c == '\t' || (' ' ≤ c && c != '\x7f')

/-- Whether a character can stand in the name of a field. -/
def isNameChar (c : Char) : Bool :=
  c.isAlphanum || c ∈ "!#$%&'*+-.^_\x60|~".toList

/-- The number of a status: three decimal digits, then nothing or a blank and a reason. -/
def statusNumber? : List Char → Option Nat
  | a :: b :: c :: rest =>
    if rest.head?.all (· == ' ') && rest.all isFieldChar then
      (numberOfDigits? 10 decimalDigit? [a, b, c]).filter (100 ≤ ·)
    else none
  | _ => none

/-- The version and the status of the first line. -/
def statusLine? : List Char → Option (Bool × Nat)
  | 'H' :: 'T' :: 'T' :: 'P' :: '/' :: '1' :: '.' :: minor :: ' ' :: rest =>
    if minor = '0' || minor = '1' then (statusNumber? rest).map (minor == '1', ·) else none
  | _ => none

/-- Whether a character is a blank or a tab. -/
def isBlank (c : Char) : Bool :=
  c == ' ' || c == '\t'

/-- The text without the blanks and tabs around it. -/
def trimBlanks (text : List Char) : List Char :=
  ((text.dropWhile isBlank).reverse.dropWhile isBlank).reverse

/-- A field: a name, a colon, and a value with blanks around it. -/
def HeadField.ofLine? (line : List Char) : Option HeadField :=
  match line.span isNameChar with
  | (c :: name, ':' :: value) =>
    if value.all isFieldChar then some ⟨(c :: name).map Char.toLower, trimBlanks value⟩ else none
  | _ => none

/-- The fields up to an empty line. -/
def fields? (bs : Bytes) : Option (List HeadField × Bytes) :=
  match _h : line? bs with
  | none => none
  | some ([], rest) => some ([], rest)
  | some (c :: line, rest) => do
    let field ← HeadField.ofLine? (c :: line)
    let (fields, rest) ← fields? rest
    return (field :: fields, rest)
termination_by bs.length
decreasing_by exact length_lt_of_line? _h

theorem length_lt_of_fields? {bs rest : Bytes} {fields : List HeadField}
    (h : fields? bs = some (fields, rest)) : rest.length < bs.length := by
  fun_induction fields? bs generalizing fields with
  | case1 => simp at h
  | case2 _ _ hl =>
    simp only [Option.some.injEq, Prod.mk.injEq] at h
    exact h.2 ▸ length_lt_of_line? hl
  | case3 _ _ _ _ hl ih =>
    simp only [Option.bind_eq_bind, Option.bind_eq_some_iff] at h
    obtain ⟨_, _, ⟨fs, r⟩, hr, h⟩ := h
    simp only [Option.pure_def, Option.some.injEq, Prod.mk.injEq] at h
    obtain ⟨_, rfl⟩ := h
    exact Nat.lt_trans (ih hr) (length_lt_of_line? hl)

/-- Empty lines before an answer mean nothing. -/
def skipEmptyLines : Bytes → Bytes
  | 13 :: 10 :: bs => skipEmptyLines bs
  | 10 :: bs => skipEmptyLines bs
  | bs => bs

theorem length_skipEmptyLines_le (bs : Bytes) : (skipEmptyLines bs).length ≤ bs.length := by
  fun_induction skipEmptyLines bs <;> simp_all <;> omega

/-- More fields than this are refused. -/
def maxFields : Nat := 100

/-- The head of the answer that octets begin with. -/
def Head.read? (bs : Bytes) : Option (Head × Bytes) := do
  let (line, rest) ← line? (skipEmptyLines bs)
  let (isCurrent, status) ← statusLine? line
  let (fields, rest) ← fields? rest
  if maxFields < fields.length then none else return (⟨isCurrent, status, fields⟩, rest)

theorem Head.length_lt_of_read? {bs rest : Bytes} {head : Head}
    (h : Head.read? bs = some (head, rest)) : rest.length < bs.length := by
  simp only [Head.read?, Option.bind_eq_bind, Option.bind_eq_some_iff] at h
  obtain ⟨⟨line, r⟩, hl, _, _, ⟨fs, r'⟩, hf, h⟩ := h
  split at h
  · simp at h
  · simp only [Option.pure_def, Option.some.injEq, Prod.mk.injEq] at h
    have := length_lt_of_line? hl
    have := length_lt_of_fields? hf
    have := length_skipEmptyLines_le bs
    have := h.2
    grind

/-- The values of the fields with a name, in order. -/
def Head.values (head : Head) (name : String) : List (List Char) :=
  (head.fields.filter (·.name = name.toList)).map HeadField.value

end KeyProvisioning.Server
