import KeyProvisioning.Proofs.Calendar.Dates
import Mathlib.Logic.Function.Iterate

/-!
# Moments

A moment is a second of the calendar in universal time. Seconds are counted by a clock that ticks
from one moment to the next. The seconds since the start of 1970 that are computed from a date
and a time of day are the ticks of this clock, and they come in the order of the moments.
-/

namespace KeyProvisioning.Calendar

/-! ## The time of day -/

namespace TimeOfDay

theorem exists?_iff {time : TimeOfDay} :
    time.exists? = true ↔ time.hour < 24 ∧ time.minute < 60 ∧ time.second < 60 := by
  simp [exists?, and_assoc]

/-- The first second of a day. -/
def midnight : TimeOfDay := ⟨0, 0, 0⟩

/-- The second after, if it is of the same day. -/
def next? (time : TimeOfDay) : Option TimeOfDay :=
  if time.second + 1 < 60 then some ⟨time.hour, time.minute, time.second + 1⟩
  else if time.minute + 1 < 60 then some ⟨time.hour, time.minute + 1, 0⟩
  else if time.hour + 1 < 24 then some ⟨time.hour + 1, 0, 0⟩
  else none

theorem of_next? {time later : TimeOfDay} (h : time.exists? = true)
    (hnext : time.next? = some later) :
    later.exists? = true ∧ later.seconds = time.seconds + 1 := by
  obtain ⟨hhour, hminute, hsecond⟩ := exists?_iff.mp h
  simp only [exists?_iff, seconds]
  unfold next? at hnext
  split at hnext
  · cases hnext
    exact ⟨⟨hhour, hminute, ‹_›⟩, rfl⟩
  split at hnext
  · cases hnext
    simp only
    omega
  split at hnext
  · cases hnext
    simp only
    omega
  · cases hnext

/-- The last second of a day is its 86400th. -/
theorem seconds_of_next?_eq_none {time : TimeOfDay} (h : time.exists? = true)
    (hnext : time.next? = none) : time.seconds + 1 = 86400 := by
  obtain ⟨hhour, hminute, hsecond⟩ := exists?_iff.mp h
  simp only [seconds]
  unfold next? at hnext
  split at hnext
  · cases hnext
  split at hnext
  · cases hnext
  split at hnext
  · cases hnext
  · omega

theorem seconds_lt {time : TimeOfDay} (h : time.exists? = true) : time.seconds < 86400 := by
  obtain ⟨hhour, hminute, hsecond⟩ := exists?_iff.mp h
  simp only [seconds]
  omega

/-- The time comes first by hour, or in the same hour by minute, or in the same minute by
second. -/
def Earlier (time other : TimeOfDay) : Prop :=
  time.hour < other.hour ∨ time.hour = other.hour ∧
    (time.minute < other.minute ∨ time.minute = other.minute ∧ time.second < other.second)

theorem earlier_or_eq_or_earlier (time other : TimeOfDay) :
    time.Earlier other ∨ time = other ∨ other.Earlier time := by
  cases time
  cases other
  simp only [Earlier, mk.injEq]
  omega

theorem seconds_lt_of_earlier {time other : TimeOfDay} (h : time.exists? = true)
    (hearlier : time.Earlier other) : time.seconds < other.seconds := by
  obtain ⟨hhour, hminute, hsecond⟩ := exists?_iff.mp h
  simp only [seconds]
  rcases hearlier with hhours | ⟨hhours, hminutes | ⟨hminutes, hseconds⟩⟩ <;> omega

end TimeOfDay

/-- A second of the calendar in universal time. -/
structure Moment where
  date : Date
  time : TimeOfDay
  date_exists : date.exists? = true
  time_exists : time.exists? = true
  deriving DecidableEq

namespace Moment

/-! ## Ticks of the clock -/

/-- The first second of a day. -/
def startOf (date : Date) (h : date.exists? = true) : Moment :=
  ⟨date, .midnight, h, rfl⟩

/-- The start of 1970. -/
def epoch : Moment := startOf .epoch rfl

/-- The moment one second later. -/
def next (moment : Moment) : Moment :=
  match h : moment.time.next? with
  | some time => ⟨moment.date, time, moment.date_exists,
      (TimeOfDay.of_next? moment.time_exists h).1⟩
  | none => startOf moment.date.next moment.date.exists_next

/-- It takes `n` ticks of the clock from one moment to the other. They are counted below zero if
the other comes first. -/
def TicksTo (moment other : Moment) (n : Int) : Prop :=
  next^[n.toNat] moment = next^[(-n).toNat] other

/-- The seconds since the start of 1970. -/
def seconds (moment : Moment) : Int :=
  secondsSinceEpoch moment.date moment.time 0

theorem seconds_eq (moment : Moment) :
    moment.seconds = (moment.date.dayNumber - Date.epoch.dayNumber) * 86400 +
      moment.time.seconds := by
  simp only [seconds, secondsSinceEpoch, Date.daysSinceEpoch]
  omega

theorem seconds_epoch : epoch.seconds = 0 := by
  decide

/-- The clock ticks once a second. -/
theorem seconds_next (moment : Moment) : moment.next.seconds = moment.seconds + 1 := by
  simp only [seconds_eq]
  unfold next
  split
  · rename_i later hlater
    have htime := (TimeOfDay.of_next? moment.time_exists hlater).2
    simp only [htime]
    omega
  · rename_i hlast
    have htime := TimeOfDay.seconds_of_next?_eq_none moment.time_exists hlast
    have hdate := Date.dayNumber_next moment.date_exists
    have hmidnight : TimeOfDay.midnight.seconds = 0 := rfl
    simp only [startOf, hdate, hmidnight]
    omega

theorem seconds_iterate (moment : Moment) (n : Nat) :
    (next^[n] moment).seconds = moment.seconds + n := by
  induction n with
  | zero => simp
  | succ n ih =>
    rw [Function.iterate_succ_apply', seconds_next, ih]
    omega

/-! ## The order of moments -/

/-- The moment comes first by date, or on the same date by the time of day. -/
def Earlier (moment other : Moment) : Prop :=
  moment.date.Earlier other.date ∨ moment.date = other.date ∧ moment.time.Earlier other.time

theorem earlier_or_eq_or_earlier (moment other : Moment) :
    moment.Earlier other ∨ moment = other ∨ other.Earlier moment := by
  cases moment with
  | mk date time =>
  cases other with
  | mk date' time' =>
  simp only [Earlier, mk.injEq]
  rcases date.earlier_or_eq_or_earlier date' with hdate | rfl | hdate
  · exact .inl (.inl hdate)
  · rcases time.earlier_or_eq_or_earlier time' with htime | rfl | htime
    · exact .inl (.inr ⟨rfl, htime⟩)
    · exact .inr (.inl ⟨rfl, rfl⟩)
    · exact .inr (.inr (.inr ⟨rfl, htime⟩))
  · exact .inr (.inr (.inl hdate))

theorem seconds_lt_of_earlier {moment other : Moment} (h : moment.Earlier other) :
    moment.seconds < other.seconds := by
  have hday := TimeOfDay.seconds_lt moment.time_exists
  simp only [seconds_eq]
  rcases h with hdate | ⟨hdate, htime⟩
  · have hlt := Date.dayNumber_lt_of_earlier moment.date_exists other.date_exists hdate
    omega
  · have hlt := TimeOfDay.seconds_lt_of_earlier moment.time_exists htime
    rw [hdate]
    omega

theorem seconds_lt_iff {moment other : Moment} :
    moment.seconds < other.seconds ↔ moment.Earlier other := by
  constructor
  · intro hlt
    rcases moment.earlier_or_eq_or_earlier other with hearlier | rfl | hlater
    · exact hearlier
    · exact absurd hlt (Int.lt_irrefl _)
    · exact absurd (seconds_lt_of_earlier hlater) (Int.lt_asymm hlt)
  · exact seconds_lt_of_earlier

theorem seconds_inj {moment other : Moment} :
    moment.seconds = other.seconds ↔ moment = other := by
  constructor
  · intro heq
    rcases moment.earlier_or_eq_or_earlier other with hearlier | hsame | hlater
    · exact absurd heq (Int.ne_of_lt (seconds_lt_of_earlier hearlier))
    · exact hsame
    · exact absurd heq.symm (Int.ne_of_lt (seconds_lt_of_earlier hlater))
  · rintro rfl
    rfl

/-! ## Seconds as ticks -/

theorem ticksTo_iff {moment other : Moment} {n : Int} :
    moment.TicksTo other n ↔ other.seconds = moment.seconds + n := by
  rw [TicksTo, ← seconds_inj, seconds_iterate, seconds_iterate]
  omega

/-- The first moment of year 0. -/
def first : Moment := startOf ⟨0, 1, 1⟩ rfl

/-- The clock passes every second from the first moment on. -/
theorem exists_seconds_eq {n : Int} (h : first.seconds ≤ n) :
    ∃ moment : Moment, moment.seconds = n := by
  refine ⟨next^[(n - first.seconds).toNat] first, ?_⟩
  rw [seconds_iterate]
  omega

end Moment

end KeyProvisioning.Calendar
