/-!
# Calendar

Dates of the proleptic Gregorian calendar from year 0 on and the seconds between an instant and the
start of 1970. Days are counted from the first day of year 0: whole years, then whole months of the
year, then days of the month.
-/

namespace KeyProvisioning.Calendar

/-- A year divisible by four, but of the centuries only every fourth. -/
def isLeapYear (year : Nat) : Bool :=
  year % 4 == 0 && (year % 100 != 0 || year % 400 == 0)

/-- The number of leap years before a year. -/
def leapYearsBefore (year : Nat) : Nat :=
  (year + 3) / 4 - (year + 99) / 100 + (year + 399) / 400

/-- The number of days before a year. -/
def daysBeforeYear (year : Nat) : Nat :=
  365 * year + leapYearsBefore year

/-- The lengths of the months of a year. -/
def monthLengths (year : Nat) : List Nat :=
  [31, if isLeapYear year then 29 else 28, 31, 30, 31, 30, 31, 31, 30, 31, 30, 31]

/-- The length of a month, counted from 1; months outside the year have no day. -/
def monthLength (year month : Nat) : Nat :=
  match month with
  | 0 => 0
  | m + 1 => (monthLengths year)[m]?.getD 0

/-- The number of days in months of these lengths. -/
def totalDays (lengths : List Nat) : Nat :=
  lengths.foldr (· + ·) 0

/-- The number of days of the year before a month. -/
def daysBeforeMonth (year month : Nat) : Nat :=
  totalDays ((monthLengths year).take (month - 1))

/-- A date that may or may not exist. -/
structure Date where
  year : Nat
  month : Nat
  day : Nat
  deriving DecidableEq, Repr

namespace Date

/-- Whether the calendar has the date. -/
def exists? (date : Date) : Bool :=
  1 ≤ date.day && date.day ≤ monthLength date.year date.month

/-- The days from the first day of year 0 to the date. -/
def dayNumber (date : Date) : Nat :=
  daysBeforeYear date.year + daysBeforeMonth date.year date.month + (date.day - 1)

/-- The first day of 1970, from which seconds are counted. -/
def epoch : Date := ⟨1970, 1, 1⟩

/-- Days from the first day of 1970 to the date, negative before it. -/
def daysSinceEpoch (date : Date) : Int :=
  date.dayNumber - epoch.dayNumber

end Date

/-- A time of day to the second. -/
structure TimeOfDay where
  hour : Nat
  minute : Nat
  second : Nat
  deriving DecidableEq, Repr

namespace TimeOfDay

/-- Whether a day has the time; leap seconds are not counted. -/
def exists? (time : TimeOfDay) : Bool :=
  time.hour < 24 && time.minute < 60 && time.second < 60

/-- Seconds since midnight. -/
def seconds (time : TimeOfDay) : Nat :=
  (time.hour * 60 + time.minute) * 60 + time.second

end TimeOfDay

/-- Seconds from the start of 1970 to an instant given in a zone that is `offset` minutes ahead. -/
def secondsSinceEpoch (date : Date) (time : TimeOfDay) (offset : Int) : Int :=
  date.daysSinceEpoch * 86400 + time.seconds - offset * 60

/-- One year has 365 days, a leap year one more. -/
theorem daysBeforeYear_succ (year : Nat) :
    daysBeforeYear (year + 1) = daysBeforeYear year + (if isLeapYear year then 366 else 365) := by
  have h4 : (year + 1 + 3) / 4 = (year + 3) / 4 + if year % 4 = 0 then 1 else 0 := by
    split <;> omega
  have h100 : (year + 1 + 99) / 100 = (year + 99) / 100 + if year % 100 = 0 then 1 else 0 := by
    split <;> omega
  have h400 : (year + 1 + 399) / 400 = (year + 399) / 400 + if year % 400 = 0 then 1 else 0 := by
    split <;> omega
  have hle : (year + 99) / 100 ≤ (year + 3) / 4 := by omega
  have hmod100 : year % 100 = 0 → year % 4 = 0 := by omega
  have hmod400 : year % 400 = 0 → year % 100 = 0 := by omega
  unfold daysBeforeYear leapYearsBefore isLeapYear
  rw [h4, h100, h400]
  generalize (year + 3) / 4 = fours at *
  generalize (year + 99) / 100 = hundreds at *
  generalize (year + 399) / 400 = fourHundreds
  clear h4 h100 h400
  by_cases a : year % 4 = 0 <;> by_cases b : year % 100 = 0 <;> by_cases c : year % 400 = 0 <;>
    simp_all <;> omega

/-- The months of a year have as many days as the year. -/
theorem totalDays_monthLengths (year : Nat) :
    totalDays (monthLengths year) = if isLeapYear year then 366 else 365 := by
  unfold totalDays monthLengths
  split <;> rfl

end KeyProvisioning.Calendar
