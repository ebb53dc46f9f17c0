import KeyProvisioning.Toml.Writer

/-!
# Reading counts back

A count is written in base ten. The word that its digits make is no truth value, has no mark of
another base and no zero in front, so it reads as the integer it was written for.
-/

namespace KeyProvisioning.Toml

/-! ## Digits -/

/-- The digits of a count. -/
abbrev decimalDigits (n : Nat) : List Char :=
  Nat.toDigits 10 n

theorem isDigit_of_mem_decimalDigits {n : Nat} {c : Char} (h : c ∈ decimalDigits n) :
    c.isDigit = true :=
  Nat.isDigit_of_mem_toDigits (by decide) (by decide) h

theorem decimalDigit?_of_isDigit {c : Char} (h : c.isDigit = true) :
    decimalDigit? c = some (c.toNat - '0'.toNat) := by
  have hrange : '0' ≤ c ∧ c ≤ '9' := by
    simpa [Char.isDigit, Char.le_def] using h
  rw [decimalDigit?, if_pos hrange]

theorem isDecimalDigit_of_isDigit {c : Char} (h : c.isDigit = true) : isDecimalDigit c = true := by
  rw [isDecimalDigit, decimalDigit?_of_isDigit h, Option.isSome_some]

/-- Characters that are digits stay as they are when underscores are dropped. -/
theorem digits?_of_isDigit {cs : List Char} (h : ∀ c ∈ cs, c.isDigit = true) (hne : cs ≠ []) :
    digits? isDecimalDigit cs = some cs := by
  induction cs with
  | nil => exact absurd rfl hne
  | cons c cs ih =>
    have hc := isDecimalDigit_of_isDigit (h c List.mem_cons_self)
    cases cs with
    | nil => simp [digits?, hc]
    | cons d cs =>
      have hd := h d (by simp)
      have hunder : d ≠ '_' := by
        rintro rfl
        simp [Char.isDigit] at hd
      have htail := ih (fun e he => h e (List.mem_cons_of_mem c he)) (by simp)
      rw [digits?, if_pos hc, htail]
      · rfl
      · exact hunder

theorem numberOfDigits?_of_isDigit {cs : List Char} (h : ∀ c ∈ cs, c.isDigit = true) (n : Nat) :
    cs.foldl (fun n? c => n?.bind fun n => (decimalDigit? c).map (n * 10 + ·)) (some n) =
      some (Nat.ofDigitChars 10 cs n) := by
  induction cs generalizing n with
  | nil => simp
  | cons c cs ih =>
    rw [List.foldl_cons, Option.bind_some, decimalDigit?_of_isDigit (h c List.mem_cons_self),
      Option.map_some, ih fun d hd => h d (List.mem_cons_of_mem c hd), Nat.ofDigitChars_cons,
      Nat.mul_comm]

/-- The digits of a count give its number. -/
theorem numberOfDigits?_decimalDigits (n : Nat) :
    numberOfDigits? 10 decimalDigit? (decimalDigits n) = some n := by
  rw [numberOfDigits?, numberOfDigits?_of_isDigit (fun _ => isDigit_of_mem_decimalDigits),
    Nat.ofDigitChars_ten_toDigits]

/-- Only zero is written with a zero in front. -/
theorem eq_zero_of_head?_decimalDigits {n : Nat}
    (h : (decimalDigits n).head? = some '0') : n = 0 := by
  induction n using Nat.strongRecOn with
  | ind n ih =>
    by_cases hn : n < 10
    · have hdigit : ∀ d < 10, d.digitChar = '0' → d = 0 := by decide
      rw [decimalDigits, Nat.toDigits_of_lt_base hn] at h
      exact hdigit n hn (by simpa using h)
    · rw [decimalDigits, Nat.toDigits_of_base_le (by decide) (by omega), List.head?_append] at h
      have hsome : ((Nat.toDigits 10 (n / 10)).head?).isSome = true := by
        simp [Nat.toDigits_ne_nil]
      have hfront := ih (n / 10) (by omega) (by rwa [Option.or_of_isSome hsome] at h)
      omega

/-! ## Words -/

theorem splitSign_decimalDigits (n : Nat) :
    splitSign (decimalDigits n) = (false, decimalDigits n) := by
  have hdigit : ∀ c ∈ decimalDigits n, c.isDigit = true := fun _ => isDigit_of_mem_decimalDigits
  unfold splitSign
  split
  · rename_i heq
    exact absurd (hdigit '-' (by simp [heq])) (by decide)
  · rename_i heq
    exact absurd (hdigit '+' (by simp [heq])) (by decide)
  · rfl

theorem wholeDigits?_decimalDigits (n : Nat) :
    wholeDigits? (decimalDigits n) = some (decimalDigits n) := by
  rw [wholeDigits?, digits?_of_isDigit (fun _ => isDigit_of_mem_decimalDigits) Nat.toDigits_ne_nil]
  split
  · rename_i heq
    have hzero := eq_zero_of_head?_decimalDigits (n := n) (by rw [Option.some.inj heq]; rfl)
    subst hzero
    simp at heq
  · rfl

theorem inRange?_natCast {n : Nat} (h : (n : Int) ≤ maxInteger) :
    inRange? (n : Int) = some (n : Int) := by
  have hmin : minInteger ≤ (n : Int) := by
    simp only [minInteger]
    omega
  rw [inRange?, if_pos ⟨hmin, h⟩]

theorem integer?_decimalDigits {n : Nat} (h : (n : Int) ≤ maxInteger) :
    integer? (decimalDigits n) = some (n : Int) := by
  have hdigit : ∀ c ∈ decimalDigits n, c.isDigit = true := fun _ => isDigit_of_mem_decimalDigits
  unfold integer?
  split
  · rename_i heq
    exact absurd (hdigit 'x' (by simp [heq])) (by decide)
  · rename_i heq
    exact absurd (hdigit 'o' (by simp [heq])) (by decide)
  · rename_i heq
    exact absurd (hdigit 'b' (by simp [heq])) (by decide)
  · simp [decimalInteger?, splitSign_decimalDigits, wholeDigits?_decimalDigits,
      numberOfDigits?_decimalDigits, inRange?_natCast h]

theorem ofWord?_decimalDigits {n : Nat} (h : (n : Int) ≤ maxInteger) :
    ofWord? (decimalDigits n) = some (.integer n) := by
  have hdigit : ∀ c ∈ decimalDigits n, c.isDigit = true := fun _ => isDigit_of_mem_decimalDigits
  rw [ofWord?, if_neg, if_neg, integer?_decimalDigits h]
  · intro heq
    exact absurd (hdigit 'f' (by simp [heq])) (by decide)
  · intro heq
    exact absurd (hdigit 't' (by simp [heq])) (by decide)

theorem isDate_decimalDigits (n : Nat) : isDate (decimalDigits n) = false := by
  have hdigit : ∀ c ∈ decimalDigits n, c.isDigit = true := fun _ => isDigit_of_mem_decimalDigits
  unfold isDate
  split
  · rename_i heq
    exact absurd (hdigit '-' (by simp [heq])) (by decide)
  · rfl

/-- A count that a document may hold is read back up to the end of its line. -/
theorem readWord_decimalDigits {n : Nat} (h : (n : Int) ≤ maxInteger) (rest : List Char) :
    readWord (decimalDigits n ++ '\n' :: rest) = some (.integer n, '\n' :: rest) := by
  have hword : ∀ c ∈ decimalDigits n, isWordChar c = true := fun c hc => by
    rw [isWordChar, isDecimalDigit_of_isDigit (isDigit_of_mem_decimalDigits hc)]
    rfl
  have hend : isWordChar '\n' = false := by decide
  have htake : (decimalDigits n ++ '\n' :: rest).takeWhile isWordChar = decimalDigits n := by
    rw [List.takeWhile_append_of_pos hword, List.takeWhile_cons_of_neg (by simp [hend]),
      List.append_nil]
  have hdrop : (decimalDigits n ++ '\n' :: rest).dropWhile isWordChar = '\n' :: rest := by
    rw [List.dropWhile_append_of_pos hword, List.dropWhile_cons_of_neg (by simp [hend])]
  simp only [readWord, htake, hdrop, isDate_decimalDigits]
  rw [ofWord?_decimalDigits h, Option.map_some]

end KeyProvisioning.Toml
