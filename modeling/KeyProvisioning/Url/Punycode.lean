import KeyProvisioning.Text.Digits

/-!
# Punycode

A label of a host name that begins with `xn--` writes characters outside ASCII. After the plain
characters and a hyphen, each number says how many places to go on from the last insertion, counted
first through the places of the label and then through the characters that can be inserted. Digits
are weighed by a bias that follows the size of the numbers read so far.
-/

namespace KeyProvisioning.Punycode

/-- The value of a digit to the base 36: letters first, then decimal digits. -/
def digit? (c : Char) : Option Nat :=
  if 'a' ≤ c ∧ c ≤ 'z' then some (c.toNat - 'a'.toNat)
  else (decimalDigit? c).map (· + 26)

/-- A digit below this threshold is the last one of its number. -/
def threshold (place bias : Nat) : Nat :=
  if place ≤ bias then 1 else if bias + 26 ≤ place then 26 else place - bias

theorem threshold_pos (place bias : Nat) : 0 < threshold place bias := by
  unfold threshold
  split
  · omega
  · split <;> omega

theorem threshold_le (place bias : Nat) : threshold place bias ≤ 26 := by
  unfold threshold
  split
  · omega
  · split <;> omega

/-- Divide until the value is small and count the divisions in steps of 36. -/
def scaleDown : (rounds : Nat) → (delta steps : Nat) → Nat × Nat
  | 0, delta, steps => (delta, steps)
  | rounds + 1, delta, steps =>
    if delta ≤ 455 then (delta, steps) else scaleDown rounds (delta / 35) (steps + 36)

/-- The bias after a number of size `delta`, with so many characters in the label. -/
def adapt (delta characters : Nat) (isFirst : Bool) : Nat :=
  let delta := if isFirst then delta / 700 else delta / 2
  let delta := delta + delta / characters
  let (delta, steps) := scaleDown delta delta 0
  steps + 36 * delta / (delta + 38)

/-- Read one number and add it to `value`. Numbers and weights have 32 bits. -/
def number? (bias : Nat) : (place weight value : Nat) → List Char → Option (Nat × List Char)
  | _, _, _, [] => none
  | place, weight, value, c :: cs =>
    if UInt32.size ≤ weight then none
    else do
      let digit ← digit? c
      let value := value + digit * weight
      let t := threshold place bias
      if UInt32.size ≤ value then none
      else if digit < t then some (value, cs)
      else number? bias (place + 36) (weight * (36 - t)) value cs

theorem length_lt_of_number? {bias place weight value n : Nat} {cs rest : List Char}
    (h : number? bias place weight value cs = some (n, rest)) : rest.length < cs.length := by
  induction cs generalizing place weight value with
  | nil => simp [number?] at h
  | cons c cs ih =>
    simp only [number?] at h
    split at h
    · simp at h
    cases hd : digit? c with
    | none => simp [hd] at h
    | some digit =>
      simp only [hd, Option.bind_eq_bind, Option.bind_some] at h
      split at h
      · simp at h
      split at h
      · simp only [Option.some.injEq, Prod.mk.injEq] at h
        simp [h.2]
      · exact Nat.lt_succ_of_lt (ih h)

/-- The character with a number, if there is one. -/
def character? (n : Nat) : Option Char :=
  if n.isValidChar then some (Char.ofNat n) else none

/-- Insert the characters of all numbers that follow, counting from a place and from the character
numbered `n`. -/
def insertAll (label : List Char) (n start bias : Nat) (cs : List Char) : Option (List Char) :=
  if cs.isEmpty then some label
  else
    match _h : number? bias 36 1 start cs with
    | none => none
    | some (value, rest) =>
      let count := label.length + 1
      let n := n + value / count
      let place := value % count
      match character? n with
      | none => none
      | some c =>
        insertAll (label.take place ++ c :: label.drop place) n (place + 1)
          (adapt (value - start) count (start == 0)) rest
termination_by cs.length
decreasing_by exact length_lt_of_number? _h

/-- The label that is written after `xn--`: its plain characters up to the last hyphen, then the
insertions. -/
def decode? (cs : List Char) : Option (List Char) :=
  match cs.reverse.span (· != '-') with
  | (numbers, []) => insertAll [] 128 0 72 numbers.reverse
  | (_, [_]) => none
  | (numbers, _ :: plain) => insertAll plain.reverse 128 0 72 numbers.reverse

/-! ## Writing -/

/-- The digit of a value below 36. -/
def digit (value : Nat) : Char :=
  if value < 26 then Char.ofNat ('a'.toNat + value) else Char.ofNat ('0'.toNat + (value - 26))

/-- The digits of a number. -/
def writeNumber (bias place value : Nat) : List Char :=
  let t := threshold place bias
  if value < t then [digit value]
  else
    let rest := value - t
    digit (t + rest % (36 - t)) :: writeNumber bias (place + 36) (rest / (36 - t))
termination_by value
decreasing_by
  have hpos := threshold_pos place bias
  have hle := threshold_le place bias
  exact Nat.lt_of_le_of_lt (Nat.div_le_self _ _) (by omega)

/-- What has been written of a label. -/
structure Writing where
  /-- The digits so far, in order. -/
  written : List Char
  /-- How many places have been passed since the last insertion. -/
  delta : Nat
  bias : Nat
  /-- How many characters are in the label so far. -/
  count : Nat
  isFirst : Bool

/-- Pass one character of the label while those numbered `n` are inserted. -/
def Writing.pass (n : Nat) (writing : Writing) (c : Char) : Writing :=
  if c.toNat < n then { writing with delta := writing.delta + 1 }
  else if c.toNat = n then
    { written := writing.written ++ writeNumber writing.bias 36 writing.delta
      delta := 0
      bias := adapt writing.delta (writing.count + 1) writing.isFirst
      count := writing.count + 1
      isFirst := false }
  else writing

/-- Insert the characters with the numbers that are left, in ascending order. The label has been
passed for all numbers below `n`. -/
def writeAll (label : List Char) (n : Nat) (writing : Writing) : List Nat → List Char
  | [] => writing.written
  | next :: rest =>
    let writing := { writing with delta := writing.delta + (next - n) * (writing.count + 1) }
    let writing := label.foldl (Writing.pass next) writing
    writeAll label (next + 1) { writing with delta := writing.delta + 1 } rest

/-- What is written after `xn--` for a label: its plain characters and a hyphen if there are any,
then the insertions. -/
def encode (label : List Char) : List Char :=
  let plain := label.filter (·.toNat < 128)
  let numbers := ((label.filter (128 ≤ ·.toNat)).map Char.toNat).mergeSort.eraseDups
  let front := if plain.isEmpty then [] else plain ++ ['-']
  front ++ writeAll label 128 ⟨[], 0, 72, plain.length, true⟩ numbers

end KeyProvisioning.Punycode
