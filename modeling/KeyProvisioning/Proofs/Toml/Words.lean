import KeyProvisioning.Toml.Scalar
import Mathlib.Data.Char
import Mathlib.Data.List.TakeWhile

/-!
# Integers and dates as words

An integer is written with digits of its base alone, so no other kind of word can be taken for
one: where it is too large for a document, nothing else is read in its place. A date is a moment
and no number.
-/

namespace KeyProvisioning.Toml

/-! ## Digits -/

theorem foldl_bind_none {α β : Type} (step : α → β → Option α) (xs : List β) :
    xs.foldl (fun a? x => a?.bind fun a => step a x) none = none := by
  induction xs with
  | nil => rfl
  | cons x xs ih => exact ih

/-- A number is written with digits only. -/
theorem isSome_of_numberOfDigits? {base n : Nat} {value? : Char → Option Nat} {cs : List Char}
    (h : numberOfDigits? base value? cs = some n) : ∀ c ∈ cs, (value? c).isSome = true := by
  have hfrom : ∀ (cs : List Char) (m : Nat),
      cs.foldl (fun n? c => n?.bind fun n => (value? c).map (n * base + ·)) (some m) = some n →
        ∀ c ∈ cs, (value? c).isSome = true := by
    intro cs
    induction cs with
    | nil => simp
    | cons c cs ih =>
      intro m hfold
      rw [List.foldl_cons, Option.bind_some] at hfold
      cases hc : value? c with
      | none => simp [hc, foldl_bind_none] at hfold
      | some d =>
        rw [hc, Option.map_some] at hfold
        exact List.forall_mem_cons.mpr ⟨by simp [hc], ih _ hfold⟩
  exact hfrom cs 0 h

/-- Digits are written with digits and underscores only. -/
theorem of_digits? {isDigit : Char → Bool} {cs ds : List Char} (h : digits? isDigit cs = some ds) :
    ∀ c ∈ cs, c = '_' ∨ isDigit c = true := by
  fun_induction digits? isDigit cs generalizing ds with
  | case1 => simp
  | case2 c hc => simp [hc]
  | case3 => cases h
  | case4 c rest hc ih =>
    obtain ⟨ds, hds, -⟩ := Option.map_eq_some_iff.mp h
    exact List.forall_mem_cons.mpr ⟨.inr hc, List.forall_mem_cons.mpr ⟨.inl rfl, ih hds⟩⟩
  | case5 => cases h
  | case6 c d rest _ hc ih =>
    obtain ⟨ds, hds, -⟩ := Option.map_eq_some_iff.mp h
    exact List.forall_mem_cons.mpr ⟨.inr hc, ih hds⟩
  | case7 => cases h

theorem ne_nil_of_digits? {isDigit : Char → Bool} {cs ds : List Char}
    (h : digits? isDigit cs = some ds) : cs ≠ [] := by
  rintro rfl
  cases h

theorem of_wholeDigits? {cs ds : List Char} (h : wholeDigits? cs = some ds) :
    digits? isDecimalDigit cs = some ds := by
  unfold wholeDigits? at h
  split at h
  · cases h
  · exact h

/-! ## Integers of any size -/

/-- An integer of any size behind a mark of its base. -/
def basedLiteral? (base : Nat) (cs : List Char) : Option Int := do
  let digits ← digits? (fun c => (Hex.value? c).any (· < base)) cs
  let n ← numberOfDigits? base Hex.value? digits
  return n

/-- An integer of any size in base ten, with or without a sign. -/
def decimalLiteral? (cs : List Char) : Option Int := do
  let digits ← wholeDigits? (splitSign cs).2
  let n ← numberOfDigits? 10 decimalDigit? digits
  return if (splitSign cs).1 then -(n : Int) else n

/-- An integer of any size in any of the four bases. -/
def integerLiteral? : List Char → Option Int
  | '0' :: 'x' :: rest => basedLiteral? 16 rest
  | '0' :: 'o' :: rest => basedLiteral? 8 rest
  | '0' :: 'b' :: rest => basedLiteral? 2 rest
  | cs => decimalLiteral? cs

/-- A document holds the integers that are in range. -/
theorem integer?_eq_bind (cs : List Char) : integer? cs = (integerLiteral? cs).bind inRange? := by
  have hbased : ∀ base cs, basedInteger? base cs = (basedLiteral? base cs).bind inRange? := by
    intro base cs
    simp [basedInteger?, basedLiteral?, Option.bind_assoc]
  have hdecimal : ∀ cs, decimalInteger? cs = (decimalLiteral? cs).bind inRange? := by
    intro cs
    simp [decimalInteger?, decimalLiteral?, Option.bind_assoc]
  fun_cases integerLiteral? cs with
  | case1 rest => exact hbased 16 rest
  | case2 rest => exact hbased 8 rest
  | case3 rest => exact hbased 2 rest
  | case4 _ hhex hoctal hbinary =>
    rw [integer?]
    · exact hdecimal _
    · exact hhex
    · exact hoctal
    · exact hbinary

/-- How an integer is written: with a mark of its base, or as digits behind an optional sign. -/
inductive IsNumeral : List Char → Prop
  | based {mark : Char} {cs : List Char} (marked : mark = 'x' ∨ mark = 'o' ∨ mark = 'b')
      (digits : ∀ c ∈ cs, c = '_' ∨ (Hex.value? c).isSome = true) : IsNumeral ('0' :: mark :: cs)
  | decimal {cs : List Char} (nonempty : (splitSign cs).2 ≠ [])
      (digits : ∀ c ∈ (splitSign cs).2, inDigitRun c = true) : IsNumeral cs

theorem isNumeral_of_integerLiteral? {cs : List Char} {n : Int} (h : integerLiteral? cs = some n) :
    IsNumeral cs := by
  have hbased : ∀ base cs, basedLiteral? base cs = some n →
      ∀ c ∈ cs, c = '_' ∨ (Hex.value? c).isSome = true := by
    intro base cs hbase c hc
    obtain ⟨ds, hds, -⟩ := Option.bind_eq_some_iff.mp hbase
    refine (of_digits? hds c hc).imp_right fun hdigit => ?_
    cases hvalue : Hex.value? c with
    | none => simp [hvalue] at hdigit
    | some d => rfl
  unfold integerLiteral? at h
  split at h
  · exact .based (.inl rfl) (hbased 16 _ h)
  · exact .based (.inr (.inl rfl)) (hbased 8 _ h)
  · exact .based (.inr (.inr rfl)) (hbased 2 _ h)
  · obtain ⟨ds, hds, -⟩ := Option.bind_eq_some_iff.mp h
    have hdigits := of_wholeDigits? hds
    refine .decimal (ne_nil_of_digits? hdigits) fun c hc => ?_
    rw [inDigitRun, Bool.or_eq_true, beq_iff_eq]
    exact (of_digits? hdigits c hc).symm

theorem splitSign_cases (cs : List Char) :
    (∃ sign, (sign = '-' ∨ sign = '+') ∧ cs = sign :: (splitSign cs).2) ∨
      (splitSign cs).2 = cs := by
  fun_cases splitSign cs with
  | case1 rest => exact .inl ⟨'-', .inl rfl, rfl⟩
  | case2 rest => exact .inl ⟨'+', .inr rfl, rfl⟩
  | case3 => exact .inr rfl

theorem isWordChar_of_isDecimalDigit {c : Char} (h : isDecimalDigit c = true) :
    isWordChar c = true := by
  simp [isWordChar, h]

theorem isWordChar_of_isSome_value? {c : Char} (h : (Hex.value? c).isSome = true) :
    isWordChar c = true := by
  unfold Hex.value? at h
  split at h
  · rename_i hdigit
    exact isWordChar_of_isDecimalDigit (by rw [isDecimalDigit, decimalDigit?, if_pos hdigit]; rfl)
  split at h
  · rename_i _ hlower
    have hz : c ≤ 'z' := le_trans hlower.2 (by decide)
    simp [isWordChar, hlower.1, hz]
  split at h
  · rename_i _ hupper
    have hz : c ≤ 'Z' := le_trans hupper.2 (by decide)
    simp [isWordChar, hupper.1, hz]
  · cases h

namespace IsNumeral

variable {cs : List Char}

theorem isWordChar (h : IsNumeral cs) : ∀ c ∈ cs, isWordChar c = true := by
  cases h with
  | @based mark cs marked digits =>
    simp only [List.mem_cons]
    rintro c (rfl | rfl | hc)
    · decide
    · obtain rfl | rfl | rfl := marked <;> decide
    · obtain rfl | hdigit := digits c hc
      · decide
      · exact isWordChar_of_isSome_value? hdigit
  | decimal nonempty digits =>
    have hbody : ∀ c ∈ (splitSign cs).2, Toml.isWordChar c = true := by
      intro c hc
      obtain hdigit | hunder := Bool.or_eq_true_iff.mp (digits c hc)
      · exact isWordChar_of_isDecimalDigit hdigit
      · obtain rfl := beq_iff_eq.mp hunder
        decide
    obtain ⟨sign, hsign, heq⟩ | heq := splitSign_cases cs
    · rw [heq]
      refine List.forall_mem_cons.mpr ⟨?_, hbody⟩
      obtain rfl | rfl := hsign <;> decide
    · rwa [heq] at hbody

/-- Dates and times of day have a sign or a colon behind their first digits. -/
theorem not_mem (h : IsNumeral cs) : '-' ∉ cs.tail ∧ ':' ∉ cs := by
  cases h with
  | @based mark cs marked digits =>
    have hmem : ∀ c, c ≠ '_' → (Hex.value? c).isSome = false → c ∉ cs := by
      intro c hunder hvalue hc
      obtain heq | hdigit := digits c hc
      · exact hunder heq
      · simp [hvalue] at hdigit
    have hminus := hmem '-' (by decide) (by decide)
    have hcolon := hmem ':' (by decide) (by decide)
    obtain rfl | rfl | rfl := marked <;> simp [hminus, hcolon]
  | decimal nonempty digits =>
    have hminus : '-' ∉ (splitSign cs).2 := fun hmem => absurd (digits _ hmem) (by decide)
    have hcolon : ':' ∉ (splitSign cs).2 := fun hmem => absurd (digits _ hmem) (by decide)
    obtain ⟨sign, hsign, heq⟩ | heq := splitSign_cases cs
    · rw [heq]
      obtain rfl | rfl := hsign <;> simp [hminus, hcolon]
    · rw [heq] at hminus hcolon
      exact ⟨fun hmem => hminus (List.mem_of_mem_tail hmem), hcolon⟩

end IsNumeral

/-! ## Moments -/

/-- A date begins with four digits and a sign. -/
theorem exists_of_isDate {cs : List Char} (h : isDate cs = true) :
    ∃ y₁ y₂ y₃ y₄ rest, cs = y₁ :: y₂ :: y₃ :: y₄ :: '-' :: rest ∧
      ∀ c ∈ [y₁, y₂, y₃, y₄], isDecimalDigit c = true := by
  unfold isDate at h
  split at h
  · rename_i y₁ y₂ y₃ y₄ m₁ m₂ d₁ d₂
    split at h
    · rename_i year _ _ hyear _ _
      exact ⟨y₁, y₂, y₃, y₄, _, rfl, isSome_of_numberOfDigits? hyear⟩
    · cases h
  · cases h

theorem mem_of_dropTime? {cs rest : List Char} (h : dropTime? cs = some rest) : ':' ∈ cs := by
  unfold dropTime? at h
  split at h
  · simp
  · cases h

namespace IsNumeral

variable {cs : List Char}

theorem isDate (h : IsNumeral cs) : isDate cs = false := by
  rw [Bool.eq_false_iff]
  intro hdate
  obtain ⟨y₁, y₂, y₃, y₄, rest, rfl, -⟩ := exists_of_isDate hdate
  exact h.not_mem.1 (by simp)

theorem isMoment (h : IsNumeral cs) : isMoment cs = false := by
  have htime : (dropTime? cs == some []) = false := by
    rw [beq_eq_false_iff_ne]
    intro heq
    exact h.not_mem.2 (mem_of_dropTime? heq)
  have hdate : Toml.isDate (cs.take 10) = false := by
    rw [Bool.eq_false_iff]
    intro hdate
    obtain ⟨y₁, y₂, y₃, y₄, rest, heq, -⟩ := exists_of_isDate hdate
    refine h.not_mem.1 ?_
    have hsub : cs.take 10 <+: cs := List.take_prefix 10 cs
    rw [heq] at hsub
    obtain ⟨back, rfl⟩ := hsub
    simp
  unfold Toml.isMoment
  rw [h.isDate, htime, List.splitAt_eq]
  cases hdrop : cs.drop 10 with
  | nil => rfl
  | cons t time => simp [hdate]

theorem isFloat (h : IsNumeral cs) : isFloat cs = false := by
  cases h with
  | @based mark cs marked digits =>
    obtain rfl | rfl | rfl := marked <;> rfl
  | decimal nonempty digits =>
    have hspecial : isSpecialFloat cs = false := by
      have hi : 'i' ∉ (splitSign cs).2 := fun hmem => absurd (digits _ hmem) (by decide)
      have hn : 'n' ∉ (splitSign cs).2 := fun hmem => absurd (digits _ hmem) (by decide)
      unfold isSpecialFloat
      rw [Bool.or_eq_false_iff, beq_eq_false_iff_ne, beq_eq_false_iff_ne]
      constructor
      · intro heq
        simp [heq] at hi
      · intro heq
        simp [heq] at hn
    have hrun : (splitSign cs).2.dropWhile inDigitRun = [] := List.dropWhile_eq_nil_iff.mpr digits
    have hdecimal : decimal? cs = none := by
      simp [decimal?, hrun]
    rw [Toml.isFloat, hspecial, hdecimal]
    rfl

/-- An integer that a document cannot hold is no word at all. -/
theorem ofWord? (h : IsNumeral cs) : ofWord? cs = (integer? cs).map .integer := by
  have htrue : cs ≠ ['t', 'r', 'u', 'e'] := by
    rintro rfl
    cases h with
    | decimal nonempty digits => exact absurd (digits 't' (by decide)) (by decide)
  have hfalse : cs ≠ ['f', 'a', 'l', 's', 'e'] := by
    rintro rfl
    cases h with
    | decimal nonempty digits => exact absurd (digits 'f' (by decide)) (by decide)
  rw [Toml.ofWord?, if_neg htrue, if_neg hfalse, h.isFloat, h.isMoment]
  cases integer? cs <;> rfl

end IsNumeral

/-- A date is a moment and nothing else. -/
theorem ofWord?_of_isDate {cs : List Char} (h : isDate cs = true) :
    ofWord? cs = some (.moment cs) := by
  have hinteger : integer? cs = none := by
    rw [integer?_eq_bind]
    cases hliteral : integerLiteral? cs with
    | none => rfl
    | some n =>
      have hnumeral := (isNumeral_of_integerLiteral? hliteral).isDate
      rw [h] at hnumeral
      cases hnumeral
  have hmoment : isMoment cs = true := by simp [isMoment, h]
  obtain ⟨y₁, y₂, y₃, y₄, rest, rfl, hdigits⟩ := exists_of_isDate h
  simp only [List.forall_mem_cons] at hdigits
  obtain ⟨hy₁, hy₂, hy₃, hy₄, -⟩ := hdigits
  have hsign : splitSign (y₁ :: y₂ :: y₃ :: y₄ :: '-' :: rest) =
      (false, y₁ :: y₂ :: y₃ :: y₄ :: '-' :: rest) := by
    rw [splitSign]
    · rintro _ ⟨⟩
      cases hy₁
    · rintro _ ⟨⟩
      cases hy₁
  have hfloat : isFloat (y₁ :: y₂ :: y₃ :: y₄ :: '-' :: rest) = false := by
    have hdrop : (y₁ :: y₂ :: y₃ :: y₄ :: '-' :: rest).dropWhile inDigitRun = '-' :: rest := by
      have hminus : isDecimalDigit '-' = false := by decide
      simp [inDigitRun, hy₁, hy₂, hy₃, hy₄, hminus]
    have hexponent : exponent? ('-' :: rest) = none := by simp [exponent?]
    have hdecimal : decimal? (y₁ :: y₂ :: y₃ :: y₄ :: '-' :: rest) = none := by
      simp only [decimal?, hsign, hdrop]
      simp [hexponent]
    simp [isFloat, isSpecialFloat, hsign, hdecimal]
  have htrue : y₁ ≠ 't' := by
    rintro rfl
    cases hy₁
  have hfalse : y₁ ≠ 'f' := by
    rintro rfl
    cases hy₁
  rw [ofWord?, if_neg (by simp [htrue]), if_neg (by simp [hfalse]), hinteger, hfloat, hmoment]
  rfl

end KeyProvisioning.Toml
