import KeyProvisioning.Calendar

/-!
# Dates one after another

After every date of the calendar comes a next one, and the number of its day is one more. Dates are
numbered in the order of their years, months and days.
-/

namespace KeyProvisioning.Calendar

/-! ## Months of a year -/

theorem monthLength_pos_iff {year month : Nat} :
    0 < monthLength year month ↔ 1 ≤ month ∧ month ≤ 12 := by
  match month with
  | 0 => simp [monthLength]
  | 2 =>
    simp only [monthLength, monthLengths]
    split <;> decide
  | 1 | 3 | 4 | 5 | 6 | 7 | 8 | 9 | 10 | 11 | 12 => simp [monthLength, monthLengths]
  | month + 13 => simp [monthLength, monthLengths]

theorem monthLength_le (year month : Nat) : monthLength year month ≤ 31 := by
  match month with
  | 2 =>
    simp only [monthLength, monthLengths]
    split <;> decide
  | 0 | 1 | 3 | 4 | 5 | 6 | 7 | 8 | 9 | 10 | 11 | 12 => simp [monthLength, monthLengths]
  | month + 13 => simp [monthLength, monthLengths]

theorem totalDays_append (front back : List Nat) :
    totalDays (front ++ back) = totalDays front + totalDays back := by
  induction front with
  | nil => simp [totalDays]
  | cons length front ih =>
    simp only [totalDays, List.cons_append, List.foldr_cons] at ih ⊢
    omega

/-- Every month goes on where the one before it ends. -/
theorem daysBeforeMonth_succ (year : Nat) {month : Nat} (h : 1 ≤ month) :
    daysBeforeMonth year (month + 1) = daysBeforeMonth year month + monthLength year month := by
  obtain ⟨m, rfl⟩ := Nat.exists_eq_add_of_le' h
  simp only [daysBeforeMonth, Nat.add_sub_cancel, monthLength, List.take_add_one, totalDays_append]
  cases (monthLengths year)[m]? <;> simp [totalDays]

theorem daysBeforeMonth_le (year : Nat) {month later : Nat} (h : 1 ≤ month) (hle : month ≤ later) :
    daysBeforeMonth year month ≤ daysBeforeMonth year later := by
  induction hle with
  | refl => exact Nat.le_refl _
  | step hle ih =>
    have hsucc := daysBeforeMonth_succ year (Nat.le_trans h hle)
    exact Nat.le_trans ih (hsucc ▸ Nat.le_add_right _ _)

/-- The days before the month that would be the thirteenth are those of the whole year. -/
theorem daysBeforeYear_add (year : Nat) :
    daysBeforeYear year + daysBeforeMonth year 13 = daysBeforeYear (year + 1) := by
  rw [daysBeforeYear_succ, ← totalDays_monthLengths]
  rfl

theorem daysBeforeYear_le {year later : Nat} (h : year ≤ later) :
    daysBeforeYear year ≤ daysBeforeYear later := by
  induction h with
  | refl => exact Nat.le_refl _
  | step _ ih => exact Nat.le_trans ih (daysBeforeYear_add _ ▸ Nat.le_add_right _ _)

namespace Date

theorem exists?_iff {date : Date} :
    date.exists? = true ↔ 1 ≤ date.day ∧ date.day ≤ monthLength date.year date.month := by
  simp [exists?]

theorem month_le_of_exists {date : Date} (h : date.exists? = true) :
    1 ≤ date.month ∧ date.month ≤ 12 := by
  obtain ⟨hfirst, hlast⟩ := exists?_iff.mp h
  exact monthLength_pos_iff.mp (Nat.lt_of_lt_of_le hfirst hlast)

/-! ## The next date -/

/-- The date of the day after: in the same month, at the start of the next one, or at the start
of the next year. -/
def next (date : Date) : Date :=
  if date.day < monthLength date.year date.month then { date with day := date.day + 1 }
  else if date.month < 12 then ⟨date.year, date.month + 1, 1⟩
  else ⟨date.year + 1, 1, 1⟩

theorem exists_next (date : Date) : date.next.exists? = true := by
  rw [exists?_iff, next]
  split
  · exact ⟨Nat.succ_pos _, ‹_›⟩
  split
  · exact ⟨Nat.le_refl 1, monthLength_pos_iff.mpr ⟨Nat.succ_pos _, ‹_›⟩⟩
  · exact ⟨Nat.le_refl 1, monthLength_pos_iff.mpr ⟨Nat.le_refl 1, Nat.le_add_left 1 11⟩⟩

/-- The calendar leaves out no day and counts none twice. -/
theorem dayNumber_next {date : Date} (h : date.exists? = true) :
    date.next.dayNumber = date.dayNumber + 1 := by
  obtain ⟨hfirst, hlast⟩ := exists?_iff.mp h
  obtain ⟨hmonth, hmonth'⟩ := month_le_of_exists h
  have hsucc := daysBeforeMonth_succ date.year hmonth
  rw [next]
  by_cases hend : date.day < monthLength date.year date.month
  · rw [if_pos hend]
    simp only [dayNumber]
    omega
  rw [if_neg hend]
  split
  · simp only [dayNumber]
    omega
  · have hdecember : date.month = 12 := by omega
    have hyear := daysBeforeYear_add date.year
    have hjanuary : daysBeforeMonth (date.year + 1) 1 = 0 := rfl
    have hlastDay : date.day = monthLength date.year 12 := by
      rw [hdecember] at hlast hend
      omega
    have hlastMonth : daysBeforeMonth date.year 13 =
        daysBeforeMonth date.year 12 + monthLength date.year 12 :=
      daysBeforeMonth_succ date.year (Nat.le_add_left 1 11)
    simp only [dayNumber, hdecember, hjanuary]
    omega

/-! ## The order of dates -/

/-- The date comes first by year, or in the same year by month, or in the same month by day. -/
def Earlier (date other : Date) : Prop :=
  date.year < other.year ∨ date.year = other.year ∧
    (date.month < other.month ∨ date.month = other.month ∧ date.day < other.day)

theorem earlier_or_eq_or_earlier (date other : Date) :
    date.Earlier other ∨ date = other ∨ other.Earlier date := by
  cases date
  cases other
  simp only [Earlier, mk.injEq]
  omega

theorem dayNumber_lt {date : Date} (h : date.exists? = true) :
    date.dayNumber < daysBeforeYear date.year + daysBeforeMonth date.year (date.month + 1) := by
  obtain ⟨hfirst, hlast⟩ := exists?_iff.mp h
  rw [daysBeforeMonth_succ date.year (month_le_of_exists h).1, dayNumber]
  omega

theorem dayNumber_lt_daysBeforeYear {date : Date} (h : date.exists? = true) :
    date.dayNumber < daysBeforeYear (date.year + 1) := by
  have hthirteen : daysBeforeMonth date.year (date.month + 1) ≤ daysBeforeMonth date.year 13 :=
    daysBeforeMonth_le date.year (Nat.succ_pos _) (Nat.succ_le_succ (month_le_of_exists h).2)
  have hlt := dayNumber_lt h
  rw [← daysBeforeYear_add]
  omega

theorem dayNumber_lt_of_earlier {date other : Date} (h : date.exists? = true)
    (hother : other.exists? = true) (hearlier : date.Earlier other) :
    date.dayNumber < other.dayNumber := by
  have hother := (exists?_iff.mp hother).1
  rcases hearlier with hyear | ⟨hyear, hmonths | ⟨hmonths, hday⟩⟩
  · have hlt := dayNumber_lt_daysBeforeYear h
    have hyears : daysBeforeYear (date.year + 1) ≤ daysBeforeYear other.year :=
      daysBeforeYear_le hyear
    simp only [dayNumber] at hlt ⊢
    omega
  · have hlt := dayNumber_lt h
    have hlater : daysBeforeMonth date.year (date.month + 1) ≤
        daysBeforeMonth date.year other.month :=
      daysBeforeMonth_le date.year (Nat.succ_pos _) hmonths
    simp only [dayNumber, ← hyear] at hlt ⊢
    omega
  · have hfirst := (exists?_iff.mp h).1
    simp only [dayNumber, ← hyear, ← hmonths]
    omega

end Date

end KeyProvisioning.Calendar
