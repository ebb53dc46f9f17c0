import KeyProvisioning.Bytes

/-!
# Digits

Numbers are written by digits of a base. A scanner reads them, and all else, from the front of the
characters of a text.
-/

namespace KeyProvisioning

/-!
## Scanners

A scanner takes what it reads off the front of a list of characters and answers it with the rest.
-/

/-- A scanner for values of a type. -/
abbrev Scanner (α : Type) := List Char → Option (α × List Char)

/-- The value of a decimal digit. -/
def decimalDigit? (c : Char) : Option Nat :=
  if '0' ≤ c ∧ c ≤ '9' then some (c.toNat - '0'.toNat) else none

/-- Whether a character is a decimal digit. -/
def isDecimalDigit (c : Char) : Bool :=
  (decimalDigit? c).isSome

/-- The number that digits of a base write, given the value of each digit. -/
def numberOfDigits? (base : Nat) (value? : Char → Option Nat) (cs : List Char) : Option Nat :=
  cs.foldl (fun n? c => n?.bind fun n => (value? c).map (n * base + ·)) (some 0)

/-!
## Hexadecimal text

Numbers of a fixed width and byte strings in base sixteen. Writing uses either letter case, as the
format at hand asks; reading accepts both.
-/

namespace Hex

/-- The lower-case digit of a number below sixteen. -/
def lowerDigit (n : Nat) : Char :=
  Nat.digitChar n

/-- The upper-case digit of a number below sixteen. -/
def upperDigit (n : Nat) : Char :=
  (Nat.digitChar n).toUpper

/-- The last `width` base-sixteen places of `n`, most significant first. -/
def fixed (digit : Nat → Char) : (width : Nat) → (n : Nat) → List Char
  | 0, _ => []
  | width + 1, n => fixed digit width (n / 16) ++ [digit (n % 16)]

/-- The value of a digit in either letter case. -/
def value? (c : Char) : Option Nat :=
  if '0' ≤ c ∧ c ≤ '9' then some (c.toNat - '0'.toNat)
  else if 'a' ≤ c ∧ c ≤ 'f' then some (c.toNat - 'a'.toNat + 10)
  else if 'A' ≤ c ∧ c ≤ 'F' then some (c.toNat - 'A'.toNat + 10)
  else none

/-- A digit is read as what it was written for. -/
theorem value?_upperDigit : ∀ d < 16, value? (upperDigit d) = some d := by
  decide

/-- The number written by a list of digits, or nothing when one of them is no digit. -/
def number? (cs : List Char) : Option Nat :=
  cs.foldl (fun n? c => n?.bind fun n => (value? c).map (n * 16 + ·)) (some 0)

/-- Two lower-case digits per octet. -/
def encode (bs : Bytes) : List Char :=
  bs.flatMap fun b => fixed lowerDigit 2 b.toNat

/-- The octets written by pairs of digits. -/
def decode? : List Char → Option Bytes
  | [] => some []
  | [_] => none
  | a :: b :: rest => do
    let high ← value? a
    let low ← value? b
    let bytes ← decode? rest
    return UInt8.ofNat (high * 16 + low) :: bytes

end Hex

end KeyProvisioning
