import KeyProvisioning.Calendar
import KeyProvisioning.Text.Digits

/-!
# Scalars of TOML documents

Booleans, numbers and moments are written without quotes. Such a word is the longest run of the
characters that may occur in one, and it must make sense as a whole.
-/

namespace KeyProvisioning.Toml

/-- A value without parts. Floating-point numbers and moments are kept as they are written. -/
inductive Scalar
  | string (value : String)
  | integer (value : Int)
  | boolean (value : Bool)
  | float (text : List Char)
  | moment (text : List Char)
  deriving DecidableEq, Repr

/-! ## Numbers -/

/-- The digits of a number without the underscores between them. An underscore must have a digit on
either side. -/
def digits? (isDigit : Char → Bool) : List Char → Option (List Char)
  | [] => none
  | [c] => if isDigit c then some [c] else none
  | c :: '_' :: rest =>
    if isDigit c then (digits? isDigit rest).map (c :: ·) else none
  | c :: d :: rest =>
    if isDigit c then (digits? isDigit (d :: rest)).map (c :: ·) else none

/-- A sign and what follows it; the answer tells whether the sign is a minus. -/
def splitSign : List Char → Bool × List Char
  | '-' :: rest => (true, rest)
  | '+' :: rest => (false, rest)
  | cs => (false, cs)

/-- The digits of a whole decimal number, which has no zeros in front. -/
def wholeDigits? (cs : List Char) : Option (List Char) :=
  match digits? isDecimalDigit cs with
  | some ('0' :: _ :: _) => none
  | result => result

/-- The least and the greatest integer of a document. -/
def minInteger : Int := -0x8000000000000000
def maxInteger : Int := 0x7FFFFFFFFFFFFFFF

/-- The integer, if a document may hold it. -/
def inRange? (n : Int) : Option Int :=
  if minInteger ≤ n ∧ n ≤ maxInteger then some n else none

/-- An integer with a mark of its base in front. -/
def basedInteger? (base : Nat) (cs : List Char) : Option Int := do
  let isDigit (c : Char) : Bool := (Hex.value? c).any (· < base)
  let digits ← digits? isDigit cs
  let n ← numberOfDigits? base Hex.value? digits
  inRange? n

/-- An integer in base ten, with or without a sign. -/
def decimalInteger? (cs : List Char) : Option Int := do
  let (negative, body) := splitSign cs
  let digits ← wholeDigits? body
  let n ← numberOfDigits? 10 decimalDigit? digits
  inRange? (if negative then -(n : Int) else n)

/-- An integer in any of the four bases. -/
def integer? : List Char → Option Int
  | '0' :: 'x' :: rest => basedInteger? 16 rest
  | '0' :: 'o' :: rest => basedInteger? 8 rest
  | '0' :: 'b' :: rest => basedInteger? 2 rest
  | cs => decimalInteger? cs

/-- A decimal number `digits * 10 ^ exponent`. -/
structure Decimal where
  negative : Bool
  digits : Nat
  exponent : Int
  deriving DecidableEq, Repr

/-- Whether a decimal number is so large that the nearest double is infinite: from half a unit
above the largest double on. -/
def Decimal.overflows (d : Decimal) : Bool :=
  let limit : Nat := Nat.pow 2 1024 - Nat.pow 2 970
  let places : Int := (toString d.digits).length
  if d.digits = 0 then false
  else if places + d.exponent ≤ 308 then false
  else if 310 ≤ places + d.exponent then true
  else if 0 ≤ d.exponent then limit ≤ d.digits * Nat.pow 10 d.exponent.toNat
  else limit * Nat.pow 10 (-d.exponent).toNat ≤ d.digits

/-- The exponent after the mark, and zero where there is none. -/
def exponent? : List Char → Option Int
  | [] => some 0
  | e :: rest =>
    if e = 'e' ∨ e = 'E' then do
      let (negative, body) := splitSign rest
      let digits ← digits? isDecimalDigit body
      let n ← numberOfDigits? 10 decimalDigit? digits
      return if negative then -(n : Int) else n
    else none

/-- Whether a character belongs to a run of digits. -/
def inDigitRun (c : Char) : Bool :=
  isDecimalDigit c || c == '_'

/-- A decimal number with a fraction, an exponent or both. -/
def decimal? (cs : List Char) : Option Decimal := do
  let (negative, body) := splitSign cs
  let whole ← wholeDigits? (body.takeWhile inDigitRun)
  match body.dropWhile inDigitRun with
  | [] => none
  | '.' :: rest =>
    let fraction ← digits? isDecimalDigit (rest.takeWhile inDigitRun)
    let exponent ← exponent? (rest.dropWhile inDigitRun)
    let digits ← numberOfDigits? 10 decimalDigit? (whole ++ fraction)
    return { negative, digits, exponent := exponent - fraction.length }
  | rest =>
    let exponent ← exponent? rest
    let digits ← numberOfDigits? 10 decimalDigit? whole
    return { negative, digits, exponent }

/-- The words for the values that no digits write. -/
def isSpecialFloat (cs : List Char) : Bool :=
  let body := (splitSign cs).2
  body == ['i', 'n', 'f'] || body == ['n', 'a', 'n']

/-- Whether a word is a floating-point number. A number too large for a double is refused, unless
it is negative. -/
def isFloat (cs : List Char) : Bool :=
  isSpecialFloat cs ||
    match decimal? cs with
    | some d => d.negative || !d.overflows
    | none => false

/-! ## Moments -/

/-- The number written by exactly these digits. -/
def pair? (a b : Char) : Option Nat :=
  numberOfDigits? 10 decimalDigit? [a, b]

/-- Whether a word is a date that exists. -/
def isDate : List Char → Bool
  | [y₁, y₂, y₃, y₄, '-', m₁, m₂, '-', d₁, d₂] =>
    match numberOfDigits? 10 decimalDigit? [y₁, y₂, y₃, y₄], pair? m₁ m₂, pair? d₁ d₂ with
    | some year, some month, some day => (⟨year, month, day⟩ : Calendar.Date).exists?
    | _, _, _ => false
  | _ => false

/-- Pass over a time of day, whose last minute may have a leap second, and a fraction of a
second. -/
def dropTime? : List Char → Option (List Char)
  | h₁ :: h₂ :: ':' :: m₁ :: m₂ :: ':' :: s₁ :: s₂ :: rest => do
    let hour ← pair? h₁ h₂
    let minute ← pair? m₁ m₂
    let second ← pair? s₁ s₂
    if hour < 24 ∧ minute < 60 ∧ second ≤ 60 then
      match rest with
      | '.' :: fraction =>
        if (fraction.takeWhile isDecimalDigit).isEmpty then none
        else some (fraction.dropWhile isDecimalDigit)
      | _ => some rest
    else none
  | _ => none

/-- Whether a word is a zone: none, `Z`, or a sign with hours and minutes. -/
def isZone : List Char → Bool
  | [] => true
  | [z] => z == 'Z' || z == 'z'
  | [sign, h₁, h₂, ':', m₁, m₂] =>
    (sign == '+' || sign == '-') && (pair? h₁ h₂).any (· < 24) && (pair? m₁ m₂).any (· < 60)
  | _ => false

/-- Whether a word is a time of day with an optional zone. -/
def isZonedTime (cs : List Char) : Bool :=
  (dropTime? cs).any isZone

/-- Whether a word is a date, a time of day, or both joined by `T`. -/
def isMoment (cs : List Char) : Bool :=
  isDate cs || dropTime? cs == some [] ||
    match cs.splitAt 10 with
    | (date, t :: time) => (t == 'T' || t == 't') && isDate date && isZonedTime time
    | (_, []) => false

/-! ## Words -/

/-- The characters of booleans, numbers and moments. -/
def isWordChar (c : Char) : Bool :=
  isDecimalDigit c || ('a' ≤ c && c ≤ 'z') || ('A' ≤ c && c ≤ 'Z') ||
    c == '_' || c == '+' || c == '-' || c == '.' || c == ':'

/-- The value that a word writes. -/
def ofWord? (cs : List Char) : Option Scalar :=
  if cs = ['t', 'r', 'u', 'e'] then some (.boolean true)
  else if cs = ['f', 'a', 'l', 's', 'e'] then some (.boolean false)
  else
    match integer? cs with
    | some n => some (.integer n)
    | none =>
      if isFloat cs then some (.float cs)
      else if isMoment cs then some (.moment cs)
      else none

/-- Read a word. A date may be joined with a time of day by one blank. -/
def readWord : Scanner Scalar := fun cs =>
  let word := cs.takeWhile isWordChar
  let rest := cs.dropWhile isWordChar
  match isDate word, rest with
  | true, ' ' :: after =>
    let time := after.takeWhile isWordChar
    if isZonedTime time then
      some (.moment (word ++ ' ' :: time), after.dropWhile isWordChar)
    else some (.moment word, rest)
  | _, _ => (ofWord? word).map fun value => (value, rest)

end KeyProvisioning.Toml
