import KeyProvisioning.Calendar
import KeyProvisioning.Der.Element

/-!
# Times in certificates

A certificate writes a time as decimal digits in one of two forms: with a year of two digits, of
which the years from 50 on lie in the twentieth century, and a zone; or with a year of four
digits, an optional fraction of a second and always in universal time.
-/

namespace KeyProvisioning.Certificate

open Calendar Der

/-- The octet of an ASCII character. -/
def octet (c : Char) : UInt8 := UInt8.ofNat c.toNat

/-- The value of a decimal digit. -/
def digit? (b : UInt8) : Option Nat :=
  if octet '0' ≤ b ∧ b ≤ octet '9' then some (b.toNat - (octet '0').toNat) else none

/-- Read a number of two digits. -/
def readTwoDigits : Reader Nat
  | a :: b :: rest => do
    let tens ← digit? a
    let ones ← digit? b
    return (tens * 10 + ones, rest)
  | _ => none

/-- Read the seconds, which are absent when fewer than two octets are left. -/
def readSeconds : Reader Nat
  | [] => some (0, [])
  | [b] => some (0, [b])
  | bs => readTwoDigits bs

/-- Read the month and everything after it down to the seconds, for a date and a time of day that
exist. -/
def readWithinYear (year : Nat) : Reader (Date × TimeOfDay) := fun bs => do
  let (month, bs) ← readTwoDigits bs
  let (day, bs) ← readTwoDigits bs
  let (hour, bs) ← readTwoDigits bs
  let (minute, bs) ← readTwoDigits bs
  let (second, bs) ← readSeconds bs
  let date : Date := ⟨year, month, day⟩
  let time : TimeOfDay := ⟨hour, minute, second⟩
  if date.exists? && time.exists? then some ((date, time), bs) else none

/-- The greatest number of hours that a zone may be away. -/
def maxOffsetHours : Nat := 25

/-- The minutes that a zone of `hours` and `minutes` is ahead, if a zone can be that far away. -/
def offset? (hours minutes : Nat) : Option Nat :=
  if hours ≤ maxOffsetHours ∧ minutes < 60 then some (hours * 60 + minutes) else none

/-- The minutes that a zone is ahead: `Z`, or a sign, two digits of hours and two of minutes. A
negative sign belongs to the hours, so without hours the minutes count as ahead. -/
def zone? : Bytes → Option Int
  | [b] => if b = octet 'Z' then some 0 else none
  | sign :: rest => do
    let (hours, rest) ← readTwoDigits rest
    let (minutes, rest) ← readTwoDigits rest
    let offset ← offset? hours minutes
    if rest ≠ [] then none
    else if sign = octet '+' then some offset
    else if sign = octet '-' then some (if hours = 0 then offset else -offset)
    else none
  | [] => none

/-- The year meant by two digits. -/
def fullYear (twoDigits : Nat) : Nat :=
  if twoDigits ≥ 50 then 1900 + twoDigits else 2000 + twoDigits

/-- The instant of a time with a year of two digits, in seconds since the start of 1970. -/
def utcTime? (bs : Bytes) : Option Int := do
  let (year, bs) ← readTwoDigits bs
  let ((date, time), bs) ← readWithinYear (fullYear year) bs
  let offset ← zone? bs
  return secondsSinceEpoch date time offset

/-- The most digits of a fraction of a second. -/
def maxFractionDigits : Nat := 3

/-- Pass over a point and the digits of a fraction of a second. -/
def dropFraction : Bytes → Bytes
  | [] => []
  | b :: bs =>
    if b = octet '.' then
      bs.drop ((bs.take maxFractionDigits).takeWhile fun d => (digit? d).isSome).length
    else b :: bs

/-- The instant of a time with a year of four digits, in seconds since the start of 1970, rounded
down. -/
def generalizedTime? (bs : Bytes) : Option Int := do
  let (century, bs) ← readTwoDigits bs
  let (year, bs) ← readTwoDigits bs
  let ((date, time), bs) ← readWithinYear (century * 100 + year) bs
  if dropFraction bs = [octet 'Z'] then some (secondsSinceEpoch date time 0) else none

/-- Read a time of either form. -/
def readTime : Reader Int := fun bs =>
  match readElement bs with
  | none => none
  | some (element, rest) =>
    if element.tag.number = utcTimeTag then
      (utcTime? element.content).map fun seconds => (seconds, rest)
    else if element.tag.number = generalizedTimeTag then
      (generalizedTime? element.content).map fun seconds => (seconds, rest)
    else none

end KeyProvisioning.Certificate
