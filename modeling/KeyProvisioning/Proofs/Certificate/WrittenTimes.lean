import KeyProvisioning.Certificate.Time
import KeyProvisioning.Proofs.Calendar.Moments
import KeyProvisioning.Proofs.Text.Characters

/-!
# Times as they are written

A time tells what calendar and clock show in a zone. A year of two digits is one from 1950 to
2049. Exactly the times that are written by these rules are read, and each as the instant it
tells, unless its zone is behind universal time by less than an hour: then the sign is lost, and
the zone is taken for one that is as far ahead.
-/

namespace KeyProvisioning.Certificate

open Calendar Der

/-! ## Digits -/

/-- The two decimal digits of a number below a hundred. -/
def twoDigits (n : Nat) : Bytes :=
  [octet (n / 10).digitChar, octet (n % 10).digitChar]

theorem digit?_eq_some_iff {b : UInt8} {d : Nat} :
    digit? b = some d ↔ d < 10 ∧ b = octet d.digitChar := by
  constructor
  · intro h
    have hzero : (octet '0').toNat = 48 := rfl
    have hnine : (octet '9').toNat = 57 := rfl
    have hdigit : ∀ d < 10, octet d.digitChar = UInt8.ofNat (48 + d) := by decide
    simp only [digit?, UInt8.le_iff_toNat_le, hzero, hnine] at h
    split at h
    · cases h
      have hlt : b.toNat - 48 < 10 := by omega
      refine ⟨hlt, ?_⟩
      rw [hdigit _ hlt, eq_comm, Utf8.octet_eq_iff (by omega)]
      omega
    · cases h
  · rintro ⟨hd, rfl⟩
    revert d
    decide

theorem readTwoDigits_eq_some_iff {bs rest : Bytes} {n : Nat} :
    readTwoDigits bs = some (n, rest) ↔ n < 100 ∧ bs = twoDigits n ++ rest := by
  constructor
  · intro h
    match bs with
    | [] | [_] => cases h
    | a :: b :: bs =>
      simp only [readTwoDigits, Option.bind_eq_bind, Option.bind_eq_some_iff, digit?_eq_some_iff,
        Option.pure_def, Option.some.injEq, Prod.mk.injEq] at h
      obtain ⟨tens, ⟨htens, rfl⟩, ones, ⟨hones, rfl⟩, rfl, rfl⟩ := h
      have hdiv : (tens * 10 + ones) / 10 = tens := by omega
      have hmod : (tens * 10 + ones) % 10 = ones := by omega
      refine ⟨by omega, ?_⟩
      rw [twoDigits, hdiv, hmod]
      rfl
  · rintro ⟨hn, rfl⟩
    have htens : digit? (octet (n / 10).digitChar) = some (n / 10) :=
      digit?_eq_some_iff.mpr ⟨by omega, rfl⟩
    have hones : digit? (octet (n % 10).digitChar) = some (n % 10) :=
      digit?_eq_some_iff.mpr ⟨by omega, rfl⟩
    simp only [twoDigits, List.cons_append, List.nil_append, readTwoDigits, htens, hones,
      Option.bind_eq_bind, Option.bind_some, Option.pure_def, Option.some.injEq, Prod.mk.injEq,
      and_true]
    omega

/-! ## From the month to the second -/

/-- Month, day, hour and minute. -/
def minuteText (moment : Moment) : Bytes :=
  twoDigits moment.date.month ++ (twoDigits moment.date.day ++
    (twoDigits moment.time.hour ++ twoDigits moment.time.minute))

/-- The octets tell the moment from its month on, with something behind. A second that is zero
may be left out if a single octet at most is behind. -/
def WithinYear (moment : Moment) (behind bs : Bytes) : Prop :=
  bs = minuteText moment ++ (twoDigits moment.time.second ++ behind) ∨
    (moment.time.second = 0 ∧ behind.length < 2 ∧ bs = minuteText moment ++ behind)

theorem readSeconds_eq_some_iff {bs rest : Bytes} {second : Nat} :
    readSeconds bs = some (second, rest) ↔
      (second < 100 ∧ bs = twoDigits second ++ rest) ∨
        (second = 0 ∧ rest.length < 2 ∧ bs = rest) := by
  match bs with
  | [] =>
    simp only [readSeconds, Option.some.injEq, Prod.mk.injEq]
    constructor
    · rintro ⟨rfl, rfl⟩
      exact .inr ⟨rfl, by decide, rfl⟩
    · rintro (⟨-, h⟩ | ⟨rfl, -, rfl⟩)
      · cases h
      · exact ⟨rfl, rfl⟩
  | [b] =>
    simp only [readSeconds, Option.some.injEq, Prod.mk.injEq]
    constructor
    · rintro ⟨rfl, rfl⟩
      exact .inr ⟨rfl, by simp, rfl⟩
    · rintro (⟨-, h⟩ | ⟨rfl, -, rfl⟩)
      · cases h
      · exact ⟨rfl, rfl⟩
  | a :: b :: bs =>
    rw [readSeconds, readTwoDigits_eq_some_iff]
    · constructor
      · exact .inl
      · rintro (h | ⟨-, hshort, rfl⟩)
        · exact h
        · simp only [List.length_cons] at hshort
          omega
    all_goals simp

theorem readWithinYear_eq_some_iff {year : Nat} {bs rest : Bytes} {read : Date × TimeOfDay} :
    readWithinYear year bs = some (read, rest) ↔
      ∃ moment : Moment, read = (moment.date, moment.time) ∧ moment.date.year = year ∧
        WithinYear moment rest bs := by
  simp only [readWithinYear, Option.bind_eq_bind, Option.bind_eq_some_iff, Prod.exists,
    readTwoDigits_eq_some_iff, readSeconds_eq_some_iff]
  constructor
  · rintro ⟨month, _, ⟨hmonth, rfl⟩, day, _, ⟨hday, rfl⟩, hour, _, ⟨hhour, rfl⟩, minute, _,
      ⟨hminute, rfl⟩, second, rest', hsecond, hread⟩
    split at hread
    · rename_i hexist
      cases hread
      obtain ⟨hdate, htime⟩ := Bool.and_eq_true_iff.mp hexist
      refine ⟨⟨⟨year, month, day⟩, ⟨hour, minute, second⟩, hdate, htime⟩, rfl, rfl, ?_⟩
      rcases hsecond with ⟨-, rfl⟩ | ⟨rfl, hshort, rfl⟩
      · exact .inl (by simp only [minuteText, List.append_assoc])
      · exact .inr ⟨rfl, hshort, by simp only [minuteText, List.append_assoc]⟩
    · cases hread
  · rintro ⟨moment, rfl, rfl, hwithin⟩
    obtain ⟨-, hmonth⟩ := Date.month_le_of_exists moment.date_exists
    obtain ⟨-, hday⟩ := Date.exists?_iff.mp moment.date_exists
    obtain ⟨hhour, hminute, hsecond⟩ := TimeOfDay.exists?_iff.mp moment.time_exists
    have hlength := monthLength_le moment.date.year moment.date.month
    have hexist : (moment.date.exists? && moment.time.exists?) = true :=
      Bool.and_eq_true_iff.mpr ⟨moment.date_exists, moment.time_exists⟩
    refine ⟨moment.date.month, _, ⟨by omega, ?_⟩, moment.date.day, _, ⟨by omega, rfl⟩,
      moment.time.hour, _, ⟨by omega, rfl⟩, moment.time.minute, bs.drop 8, ⟨by omega, rfl⟩,
      moment.time.second, rest, ?_, if_pos hexist⟩
    · rcases hwithin with rfl | ⟨-, -, rfl⟩ <;> rfl
    · rcases hwithin with rfl | ⟨hzero, hshort, rfl⟩
      · exact .inl ⟨by omega, rfl⟩
      · exact .inr ⟨hzero, hshort, rfl⟩

/-! ## Zones -/

/-- A zone as a time names it, by hours and minutes from universal time. -/
inductive Zone
  | universal
  | ahead (hours : Fin (maxOffsetHours + 1)) (minutes : Fin 60)
  | behind (hours : Fin (maxOffsetHours + 1)) (minutes : Fin 60)
  deriving DecidableEq

namespace Zone

/-- How a zone is written. -/
def text : Zone → Bytes
  | universal => [octet 'Z']
  | ahead hours minutes => octet '+' :: (twoDigits hours ++ twoDigits minutes)
  | behind hours minutes => octet '-' :: (twoDigits hours ++ twoDigits minutes)

/-- The minutes that clocks of the zone are ahead of universal time, below zero if they are
behind. -/
def minutesAhead : Zone → Int
  | universal => 0
  | ahead hours minutes => hours * 60 + minutes
  | behind hours minutes => -(hours * 60 + minutes)

/-- Whether the zone is behind universal time by less than an hour. The sign of its hours, of
which there are none, is all that tells it from the zone that is as far ahead. -/
def LosesSign (zone : Zone) : Prop :=
  -60 < zone.minutesAhead ∧ zone.minutesAhead < 0

instance (zone : Zone) : Decidable zone.LosesSign :=
  inferInstanceAs (Decidable (_ ∧ _))

/-- The minutes that the zone is taken to be ahead. -/
def minutesTaken (zone : Zone) : Int :=
  if zone.LosesSign then -zone.minutesAhead else zone.minutesAhead

theorem minutesAhead_bounds (zone : Zone) :
    -1560 < zone.minutesAhead ∧ zone.minutesAhead < 1560 := by
  have hmost : maxOffsetHours = 25 := rfl
  cases zone with
  | universal => decide
  | ahead hours minutes | behind hours minutes =>
    simp only [minutesAhead]
    omega

theorem minutesTaken_ahead (hours : Fin (maxOffsetHours + 1)) (minutes : Fin 60) :
    (ahead hours minutes).minutesTaken = (hours * 60 + minutes : Nat) := by
  have hkeeps : ¬ (ahead hours minutes).LosesSign := by
    simp only [LosesSign, minutesAhead]
    omega
  rw [minutesTaken, if_neg hkeeps, minutesAhead]
  omega

theorem minutesTaken_behind (hours : Fin (maxOffsetHours + 1)) (minutes : Fin 60) :
    (behind hours minutes).minutesTaken =
      if hours.val = 0 then ((hours * 60 + minutes : Nat) : Int)
      else -(hours * 60 + minutes : Nat) := by
  have hminutes := minutes.isLt
  unfold minutesTaken
  split
  · rename_i hloses
    simp only [LosesSign, minutesAhead] at hloses
    rw [minutesAhead, if_pos (by omega)]
    omega
  · rename_i hkeeps
    simp only [LosesSign, minutesAhead] at hkeeps
    rw [minutesAhead]
    split <;> omega

end Zone

theorem offset?_eq_some_iff {hours minutes offset : Nat} :
    offset? hours minutes = some offset ↔
      ∃ (h : Fin (maxOffsetHours + 1)) (m : Fin 60), h.val = hours ∧ m.val = minutes ∧
        offset = hours * 60 + minutes := by
  unfold offset?
  split
  · rename_i hbounds
    simp only [Option.some.injEq]
    constructor
    · rintro rfl
      exact ⟨⟨hours, Nat.lt_succ_of_le hbounds.1⟩, ⟨minutes, hbounds.2⟩, rfl, rfl, rfl⟩
    · rintro ⟨_, _, -, -, rfl⟩
      rfl
  · rename_i hbounds
    simp only [reduceCtorEq, false_iff]
    rintro ⟨h, m, rfl, rfl, -⟩
    exact hbounds ⟨Nat.le_of_lt_succ h.isLt, m.isLt⟩

theorem zone?_of_sign (sign : UInt8) (hours : Fin (maxOffsetHours + 1)) (minutes : Fin 60) :
    zone? (sign :: (twoDigits hours ++ twoDigits minutes)) =
      if sign = octet '+' then some (Zone.ahead hours minutes).minutesTaken
      else if sign = octet '-' then some (Zone.behind hours minutes).minutesTaken
      else none := by
  have hminutes : readTwoDigits (twoDigits minutes) = some (minutes.val, []) :=
    readTwoDigits_eq_some_iff.mpr ⟨Nat.lt_trans minutes.isLt (by decide), (List.append_nil _).symm⟩
  have hhours : readTwoDigits (twoDigits hours ++ twoDigits minutes) =
      some (hours.val, twoDigits minutes) :=
    readTwoDigits_eq_some_iff.mpr ⟨Nat.lt_trans hours.isLt (by decide), rfl⟩
  have hoffset : offset? hours minutes = some (hours.val * 60 + minutes.val) :=
    offset?_eq_some_iff.mpr ⟨hours, minutes, rfl, rfl, rfl⟩
  rw [zone?, hhours]
  · simp only [Option.bind_eq_bind, Option.bind_some, hminutes, hoffset, ne_eq, not_true_eq_false,
      if_false, Zone.minutesTaken_ahead, Zone.minutesTaken_behind]
  · rintro ⟨⟩

theorem zone?_eq_some_iff {bs : Bytes} {offset : Int} :
    zone? bs = some offset ↔ ∃ zone : Zone, bs = zone.text ∧ offset = zone.minutesTaken := by
  constructor
  · intro h
    match bs with
    | [] => cases h
    | [b] =>
      simp only [zone?] at h
      split at h
      · rename_i hb
        cases h
        exact ⟨.universal, congrArg (fun b => [b]) hb, rfl⟩
      · cases h
    | sign :: a :: bs =>
      obtain ⟨hours, minutes, htext⟩ : ∃ (hours : Fin (maxOffsetHours + 1)) (minutes : Fin 60),
          a :: bs = twoDigits hours ++ twoDigits minutes := by
        rw [zone?] at h
        · simp only [Option.bind_eq_bind, Option.bind_eq_some_iff, Prod.exists,
            readTwoDigits_eq_some_iff, offset?_eq_some_iff] at h
          obtain ⟨_, _, ⟨-, hfront⟩, _, rest, ⟨-, rfl⟩, _, ⟨hours, minutes, rfl, rfl, -⟩,
            hend⟩ := h
          split at hend
          · cases hend
          · rename_i hnil
            rw [not_not] at hnil
            exact ⟨hours, minutes, by rw [hfront, hnil, List.append_nil]⟩
        · rintro ⟨⟩
      rw [htext, zone?_of_sign] at h
      split at h
      · rename_i hsign
        cases h
        exact ⟨.ahead hours minutes, by rw [hsign, htext, Zone.text], rfl⟩
      split at h
      · rename_i hsign
        cases h
        exact ⟨.behind hours minutes, by rw [hsign, htext, Zone.text], rfl⟩
      · cases h
  · rintro ⟨zone, rfl, rfl⟩
    cases zone with
    | universal => rfl
    | ahead hours minutes => rw [Zone.text, zone?_of_sign, if_pos rfl]
    | behind hours minutes => rw [Zone.text, zone?_of_sign, if_neg (by decide), if_pos rfl]

/-! ## Times -/

/-- What calendar and clock show, and the zone in which they show it. -/
structure WrittenTime where
  moment : Moment
  zone : Zone
  deriving DecidableEq

namespace WrittenTime

/-- The instant that the time tells, in universal time. -/
def IsAt (time : WrittenTime) (utc : Moment) : Prop :=
  utc.TicksTo time.moment (time.zone.minutesAhead * 60)

/-- The seconds since the start of 1970 for which the time is taken. -/
def secondsTaken (time : WrittenTime) : Int :=
  secondsSinceEpoch time.moment.date time.moment.time time.zone.minutesTaken

/-- What stands between seconds and zone in a time with a year of four digits: nothing, or a
point and at most three digits. -/
def IsFraction (bs : Bytes) : Prop :=
  bs = [] ∨ ∃ digits, bs = octet '.' :: digits ∧ digits.length ≤ maxFractionDigits ∧
    ∀ d ∈ digits, (digit? d).isSome = true

/-- The octets tell the time with a year of two digits. -/
def IsUtcTime (time : WrittenTime) (bs : Bytes) : Prop :=
  (1950 ≤ time.moment.date.year ∧ time.moment.date.year < 2050) ∧
    ∃ rest, bs = twoDigits (time.moment.date.year % 100) ++ rest ∧
      WithinYear time.moment time.zone.text rest

/-- The octets tell the time with a year of four digits, in universal time. -/
def IsGeneralizedTime (time : WrittenTime) (bs : Bytes) : Prop :=
  time.moment.date.year < 10000 ∧ time.zone = .universal ∧
    ∃ fraction rest, IsFraction fraction ∧
      bs = twoDigits (time.moment.date.year / 100) ++
        (twoDigits (time.moment.date.year % 100) ++ rest) ∧
      WithinYear time.moment (fraction ++ time.zone.text) rest

/-- The time with a year of two digits. -/
def utcTimeText (time : WrittenTime) : Bytes :=
  twoDigits (time.moment.date.year % 100) ++
    (minuteText time.moment ++ (twoDigits time.moment.time.second ++ time.zone.text))

theorem isUtcTime_utcTimeText {time : WrittenTime}
    (hyear : 1950 ≤ time.moment.date.year ∧ time.moment.date.year < 2050) :
    time.IsUtcTime time.utcTimeText :=
  ⟨hyear, _, rfl, .inl rfl⟩

/-- The time with a year of four digits and no fraction. -/
def generalizedTimeText (time : WrittenTime) : Bytes :=
  twoDigits (time.moment.date.year / 100) ++ (twoDigits (time.moment.date.year % 100) ++
    (minuteText time.moment ++ (twoDigits time.moment.time.second ++ time.zone.text)))

theorem isGeneralizedTime_generalizedTimeText {time : WrittenTime}
    (hyear : time.moment.date.year < 10000) (hzone : time.zone = .universal) :
    time.IsGeneralizedTime time.generalizedTimeText :=
  ⟨hyear, hzone, [], _, .inl rfl, rfl, .inl rfl⟩

/-- The element tells the time in the form that its tag names. -/
def IsWrittenIn (time : WrittenTime) (element : Element) : Prop :=
  (element.tag.number = utcTimeTag ∧ time.IsUtcTime element.content) ∨
    (element.tag.number = generalizedTimeTag ∧ time.IsGeneralizedTime element.content)

end WrittenTime

theorem eq_fullYear_iff {short year : Nat} (h : short < 100) :
    year = fullYear short ↔ (1950 ≤ year ∧ year < 2050) ∧ short = year % 100 := by
  unfold fullYear
  split <;> omega

theorem utcTime?_eq_some_iff {bs : Bytes} {seconds : Int} :
    utcTime? bs = some seconds ↔
      ∃ time : WrittenTime, time.IsUtcTime bs ∧ seconds = time.secondsTaken := by
  simp only [utcTime?, Option.bind_eq_bind, Option.bind_eq_some_iff, Prod.exists,
    readTwoDigits_eq_some_iff, readWithinYear_eq_some_iff, zone?_eq_some_iff, Option.pure_def,
    Option.some.injEq]
  constructor
  · rintro ⟨short, rest, ⟨hshort, rfl⟩, _, _, _, ⟨moment, ⟨⟩, hyear, hrest⟩, _,
      ⟨zone, rfl, rfl⟩, rfl⟩
    obtain ⟨hrange, rfl⟩ := (eq_fullYear_iff hshort).mp hyear
    exact ⟨⟨moment, zone⟩, ⟨hrange, rest, rfl, hrest⟩, rfl⟩
  · rintro ⟨⟨moment, zone⟩, ⟨hrange, rest, rfl, hrest⟩, rfl⟩
    have hshort : moment.date.year % 100 < 100 := Nat.mod_lt _ (by decide)
    exact ⟨_, rest, ⟨hshort, rfl⟩, _, _, _,
      ⟨moment, rfl, (eq_fullYear_iff hshort).mpr ⟨hrange, rfl⟩, hrest⟩, _, ⟨zone, rfl, rfl⟩, rfl⟩

/-- The digits of a fraction are passed over, and no more of them than there may be. -/
theorem dropFraction_eq_iff {bs : Bytes} :
    dropFraction bs = [octet 'Z'] ↔
      ∃ fraction, WrittenTime.IsFraction fraction ∧ bs = fraction ++ [octet 'Z'] := by
  constructor
  · intro h
    match bs with
    | [] => cases h
    | b :: bs =>
      rw [dropFraction] at h
      split at h
      · rename_i hpoint
        let digits := (bs.take maxFractionDigits).takeWhile fun d => (digit? d).isSome
        have hfront : digits <+: bs :=
          (List.takeWhile_prefix _).trans (List.take_prefix _ _)
        have hlength : digits.length ≤ maxFractionDigits :=
          Nat.le_trans (List.takeWhile_prefix _).length_le (List.length_take_le _ _)
        have hdigits : ∀ d ∈ digits, (digit? d).isSome = true := fun d hd =>
          List.all_eq_true.mp List.all_takeWhile d hd
        refine ⟨octet '.' :: digits, .inr ⟨digits, rfl, hlength, hdigits⟩, ?_⟩
        rw [hpoint, List.cons_append, ← h, List.prefix_iff_eq_append.mp hfront]
      · exact ⟨[], .inl rfl, h⟩
  · rintro ⟨_, rfl | ⟨digits, rfl, hlength, hdigits⟩, rfl⟩
    · rfl
    · have htake : ((digits ++ [octet 'Z']).take maxFractionDigits).takeWhile
          (fun d => (digit? d).isSome) = digits := by
        rw [List.take_append, List.take_of_length_le hlength, List.takeWhile_append_of_pos hdigits]
        cases maxFractionDigits - digits.length with
        | zero => exact List.append_nil _
        | succ n => exact List.append_nil _
      rw [List.cons_append, dropFraction, if_pos rfl, htake, List.drop_left]

theorem generalizedTime?_eq_some_iff {bs : Bytes} {seconds : Int} :
    generalizedTime? bs = some seconds ↔
      ∃ time : WrittenTime, time.IsGeneralizedTime bs ∧ seconds = time.secondsTaken := by
  simp only [generalizedTime?, Option.bind_eq_bind, Option.bind_eq_some_iff, Prod.exists,
    readTwoDigits_eq_some_iff, readWithinYear_eq_some_iff, Option.ite_none_right_eq_some,
    dropFraction_eq_iff, Option.some.injEq]
  constructor
  · rintro ⟨century, _, ⟨hcentury, rfl⟩, short, rest, ⟨hshort, rfl⟩, _, _, left,
      ⟨moment, ⟨⟩, hyear, hrest⟩, ⟨fraction, hfraction, rfl⟩, rfl⟩
    have hdiv : century = moment.date.year / 100 := by omega
    have hmod : short = moment.date.year % 100 := by omega
    have hlt : moment.date.year < 10000 := by omega
    exact ⟨⟨moment, .universal⟩,
      ⟨hlt, rfl, fraction, rest, hfraction, by rw [hdiv, hmod], hrest⟩, rfl⟩
  · rintro ⟨⟨moment, zone⟩, ⟨hyear, rfl, fraction, rest, hfraction, rfl, hrest⟩, rfl⟩
    have hcentury : moment.date.year / 100 < 100 := Nat.div_lt_of_lt_mul hyear
    have hshort : moment.date.year % 100 < 100 := Nat.mod_lt _ (by decide)
    exact ⟨_, _, ⟨hcentury, rfl⟩, _, rest, ⟨hshort, rfl⟩, _, _, _,
      ⟨moment, rfl, (Nat.div_add_mod' _ 100).symm, hrest⟩, ⟨fraction, hfraction, rfl⟩, rfl⟩

/-- The seconds since the start of 1970 that an element stands for, if it is a time. -/
def seconds? (element : Element) : Option Int :=
  if element.tag.number = utcTimeTag then utcTime? element.content
  else if element.tag.number = generalizedTimeTag then generalizedTime? element.content
  else none

/-- Exactly the elements that tell a time stand for seconds, those for which the time is taken. -/
theorem seconds?_eq_some_iff {element : Element} {seconds : Int} :
    seconds? element = some seconds ↔
      ∃ time : WrittenTime, time.IsWrittenIn element ∧ seconds = time.secondsTaken := by
  have hforms : utcTimeTag ≠ generalizedTimeTag := by decide
  simp only [seconds?, WrittenTime.IsWrittenIn]
  by_cases hutc : element.tag.number = utcTimeTag
  · simp [hutc, hforms, utcTime?_eq_some_iff]
  by_cases hgeneralized : element.tag.number = generalizedTimeTag
  · simp [hgeneralized, hforms.symm, generalizedTime?_eq_some_iff]
  · simp [hutc, hgeneralized]

theorem readTime_eq_some_iff {bs rest : Bytes} {seconds : Int} :
    readTime bs = some (seconds, rest) ↔
      ∃ element, readElement bs = some (element, rest) ∧ seconds? element = some seconds := by
  have heq : readTime bs = (readElement bs).bind fun p =>
      (seconds? p.1).map fun seconds => (seconds, p.2) := by
    rw [readTime]
    cases readElement bs with
    | none => rfl
    | some p =>
      simp only [Option.bind_some, seconds?]
      split
      · rfl
      split <;> rfl
  simp only [heq, Option.bind_eq_some_iff, Option.map_eq_some_iff, Prod.mk.injEq, Prod.exists]
  constructor
  · rintro ⟨element, _, hread, _, hseconds, rfl, rfl⟩
    exact ⟨element, hread, hseconds⟩
  · rintro ⟨element, hread, hseconds⟩
    exact ⟨element, rest, hread, seconds, hseconds, rfl, rfl⟩

namespace WrittenTime

variable {time : WrittenTime} {utc : Moment} {element : Element}

theorem isAt_iff :
    time.IsAt utc ↔ time.moment.seconds = utc.seconds + time.zone.minutesAhead * 60 :=
  Moment.ticksTo_iff

theorem secondsTaken_eq_local (time : WrittenTime) :
    time.secondsTaken = time.moment.seconds - time.zone.minutesTaken * 60 := by
  simp only [secondsTaken, Moment.seconds, secondsSinceEpoch]
  omega

/-- A time is taken for the instant that it tells, unless its zone loses the sign. Then it is
taken for one that is too early by twice what the zone is behind. -/
theorem secondsTaken_eq (h : time.IsAt utc) :
    time.secondsTaken =
      if time.zone.LosesSign then utc.seconds + 2 * (time.zone.minutesAhead * 60)
      else utc.seconds := by
  rw [isAt_iff] at h
  rw [secondsTaken_eq_local, h, Zone.minutesTaken]
  split <;> omega

theorem IsWrittenIn.year_lt (h : time.IsWrittenIn element) : time.moment.date.year < 10000 := by
  rcases h with ⟨-, ⟨-, hyear⟩, -⟩ | ⟨-, hyear, -⟩
  · omega
  · exact hyear

/-- Every time that is written tells an instant. With another zone than universal time it is far
from the first year. -/
theorem IsWrittenIn.exists_isAt (h : time.IsWrittenIn element) : ∃ utc, time.IsAt utc := by
  have hexists : Moment.first.seconds ≤ time.moment.seconds - time.zone.minutesAhead * 60 := by
    have hfirst : Moment.first.date.dayNumber = 0 ∧ Moment.first.time.seconds = 0 := ⟨rfl, rfl⟩
    rw [Moment.seconds_eq, Moment.seconds_eq, hfirst.1, hfirst.2]
    rcases h with ⟨-, ⟨hyear, -⟩, -⟩ | ⟨-, -, hzone, -⟩
    · have hdays : daysBeforeYear 1950 ≤ daysBeforeYear time.moment.date.year :=
        daysBeforeYear_le hyear
      have hstart : daysBeforeYear 1950 = 712223 := rfl
      have hbounds := time.zone.minutesAhead_bounds
      simp only [Date.dayNumber]
      omega
    · rw [hzone, Zone.minutesAhead]
      omega
  obtain ⟨utc, hutc⟩ := Moment.exists_seconds_eq hexists
  refine ⟨utc, isAt_iff.mpr ?_⟩
  omega

/-- Years have four digits, so the seconds take twelve digits at most. -/
theorem IsWrittenIn.secondsTaken_bounds (h : time.IsWrittenIn element) :
    -1000000000000 < time.secondsTaken ∧ time.secondsTaken < 1000000000000 := by
  have hday : time.moment.date.dayNumber < daysBeforeYear 10000 :=
    Nat.lt_of_lt_of_le (Date.dayNumber_lt_daysBeforeYear time.moment.date_exists)
      (daysBeforeYear_le h.year_lt)
  have hyears : daysBeforeYear 10000 = 3652425 := rfl
  have hepoch : Date.epoch.dayNumber = 719528 := rfl
  have hclock := TimeOfDay.seconds_lt time.moment.time_exists
  have hbounds := time.zone.minutesAhead_bounds
  rw [secondsTaken_eq_local, Moment.seconds_eq, Zone.minutesTaken]
  split <;> omega

end WrittenTime

end KeyProvisioning.Certificate
