import KeyProvisioning.Text.Utf8
import Mathlib.Data.List.TakeWhile

/-!
# Characters of a text

Where the longest front of characters of one kind ends, and how characters are read back from
their octets.
-/

namespace KeyProvisioning

/-!
## Spans

The longest front of characters of one kind ends where a character of another kind follows,
whatever is appended behind that.
-/

section Spans

variable {p : Char → Bool} {more : List Char}

theorem takeWhile_append_of_head? (text : List Char) (h : ∀ c ∈ more.head?, p c = false) :
    (text ++ more).takeWhile p = text.takeWhile p := by
  have hmore : more.takeWhile p = [] := by
    cases more with
    | nil => rfl
    | cons c more => exact List.takeWhile_cons_of_neg (by simp [h c rfl])
  rw [List.takeWhile_append]
  split
  · rename_i hall
    rw [hmore, List.append_nil, (List.takeWhile_prefix p).eq_of_length hall]
  · rfl

theorem dropWhile_append_of_head? (text : List Char) (h : ∀ c ∈ more.head?, p c = false) :
    (text ++ more).dropWhile p = text.dropWhile p ++ more := by
  have hmore : more.dropWhile p = more := by
    cases more with
    | nil => rfl
    | cons c more => exact List.dropWhile_cons_of_neg (by simp [h c rfl])
  rw [List.dropWhile_append]
  split
  · rename_i hall
    rw [hmore, List.isEmpty_iff.mp hall, List.nil_append]
  · rfl

/-- Where something is left after a front is dropped, what is appended is left behind it. -/
theorem dropWhile_append_of_eq_cons {text : List Char} {c : Char} {rest : List Char}
    (more : List Char) (h : text.dropWhile p = c :: rest) :
    (text ++ more).dropWhile p = c :: (rest ++ more) := by
  rw [List.dropWhile_append, h]
  rfl

end Spans

/-!
## Reading UTF-8 back

The strict reader gives back what was written: the machine reads the octets of one character and
then stands between characters again. Conversely it reads nothing that is not written in this
way, since every state inside a character allows only for numbers whose octets began with those
read so far.
-/

namespace Utf8

theorem toNat_octet {n : Nat} (h : n < 256) : (UInt8.ofNat n).toNat = n := by
  rw [UInt8.toNat_ofNat']
  omega

/-- The numbers of octets compare as the octets do. -/
theorem octet_le_iff {n : Nat} (h : n < 256) (b : UInt8) : UInt8.ofNat n ≤ b ↔ n ≤ b.toNat := by
  rw [UInt8.le_iff_toNat_le, toNat_octet h]

theorem octet_lt_iff {n : Nat} (h : n < 256) (b : UInt8) : UInt8.ofNat n < b ↔ n < b.toNat := by
  rw [UInt8.lt_iff_toNat_lt, toNat_octet h]

theorem octet_eq_iff {n : Nat} (h : n < 256) (b : UInt8) : UInt8.ofNat n = b ↔ n = b.toNat := by
  rw [← UInt8.toNat_inj, toNat_octet h]

/-! ### One octet -/

/-- An octet below 0x80 is a character. -/
theorem step_start_of_le {n : Nat} (h : n ≤ 0x7F) :
    step .start (UInt8.ofNat n) = .finish (Char.ofNat n) := by
  rw [step, first, if_pos ((octet_le_iff (by omega) _).mpr h), toNat_octet (by omega)]

/-- What the first octet of a longer character leads to. -/
theorem step_start_of_lt {n : Nat} (hlow : 0xC2 ≤ n) (hhigh : n ≤ 0xF4) :
    step .start (UInt8.ofNat n) = .proceed (
      if n ≤ 0xDF then .inside 0 0x80 0xBF (n - 0xC0)
      else if n = 0xE0 then .inside 1 0xA0 0xBF 0
      else if n = 0xED then .inside 1 0x80 0x9F 0xD
      else if n ≤ 0xEF then .inside 1 0x80 0xBF (n - 0xE0)
      else if n = 0xF0 then .inside 2 0x90 0xBF 0
      else if n ≤ 0xF3 then .inside 2 0x80 0xBF (n - 0xF0)
      else .inside 2 0x80 0x8F 4) := by
  have hn : n < 256 := by omega
  have hascii : ¬ n ≤ 127 := by omega
  have htail : ¬ n < 194 := by omega
  simp only [step, first, octet_le_iff hn, octet_lt_iff hn, octet_eq_iff hn, toNat_octet hn]
  simp only [UInt8.reduceToNat, if_neg hascii, if_neg htail, apply_ite Step.proceed]
  by_cases hlast : n ≤ 243
  · simp only [if_pos hlast]
  · obtain rfl : n = 244 := by omega
    rfl

/-- A continuation octet with six bits `t`, where the machine allows for it, shifts the number so
far by six binary places and adds them. -/
theorem step_inside {after t value : Nat} {low high : UInt8} (ht : t < 64)
    (hlow : low.toNat ≤ t + 128) (hhigh : t + 128 ≤ high.toNat) :
    step (.inside after low high value) (UInt8.ofNat (t + 128)) =
      match after with
      | 0 => .finish (Char.ofNat (value * 64 + t))
      | more + 1 => .proceed (.inside more 0x80 0xBF (value * 64 + t)) := by
  have ht' : t + 128 < 256 := by omega
  have hrange : low ≤ UInt8.ofNat (t + 128) ∧ UInt8.ofNat (t + 128) ≤ high := by
    rw [UInt8.le_iff_toNat_le, toNat_octet ht', octet_le_iff ht']
    exact ⟨hlow, hhigh⟩
  have hbits : (UInt8.ofNat (t + 128)).toNat - 0x80 = t := by
    rw [toNat_octet ht', Nat.add_sub_cancel]
  cases after with
  | zero => simp only [step, if_pos hrange, hbits]
  | succ more => simp only [step, if_pos hrange, hbits]

/-! ### One character -/

theorem decodeFrom_of_finish {state : State} {b : UInt8} {c : Char} (h : step state b = .finish c)
    (bs : Bytes) : decodeFrom state (b :: bs) = (decodeFrom .start bs).map (c :: ·) := by
  simp only [decodeFrom, h]

theorem decodeFrom_of_proceed {state state' : State} {b : UInt8}
    (h : step state b = .proceed state') (bs : Bytes) :
    decodeFrom state (b :: bs) = decodeFrom state' bs := by
  simp only [decodeFrom, h]

/-- The last octet of a character. -/
theorem decodeFrom_last {t value : Nat} {low high : UInt8} {c : Char} (ht : t < 64)
    (hlow : low.toNat ≤ t + 128) (hhigh : t + 128 ≤ high.toNat) (hc : value * 64 + t = c.toNat)
    (bs : Bytes) :
    decodeFrom (.inside 0 low high value) (UInt8.ofNat (t + 128) :: bs) =
      (decodeFrom .start bs).map (c :: ·) := by
  apply decodeFrom_of_finish
  rw [step_inside ht hlow hhigh, hc]
  simp

/-- An octet inside a character before its last. -/
theorem decodeFrom_inside {more t value : Nat} {low high : UInt8} (ht : t < 64)
    (hlow : low.toNat ≤ t + 128) (hhigh : t + 128 ≤ high.toNat) (bs : Bytes) :
    decodeFrom (.inside (more + 1) low high value) (UInt8.ofNat (t + 128) :: bs) =
      decodeFrom (.inside more 0x80 0xBF (value * 64 + t)) bs :=
  decodeFrom_of_proceed (step_inside ht hlow hhigh) bs

/-- The first of three octets narrows the range of the second so that neither a character of two
octets nor a surrogate can follow. -/
theorem step_start_of_three {v : Nat} (hlow : 0x7FF < v) (hhigh : v ≤ 0xFFFF)
    (hv : v.isValidChar) :
    ∃ low high : UInt8,
      step .start (UInt8.ofNat (v / 4096 + 224)) = .proceed (.inside 1 low high (v / 4096)) ∧
        low.toNat ≤ v / 64 % 64 + 128 ∧ v / 64 % 64 + 128 ≤ high.toNat := by
  rw [step_start_of_lt (by omega) (by omega), if_neg (by omega)]
  simp only [Nat.isValidChar] at hv
  split
  · refine ⟨0xA0, 0xBF, ?_, ?_, ?_⟩
    · rw [show v / 4096 = 0 by omega]
    · simp only [UInt8.reduceToNat]
      omega
    · simp only [UInt8.reduceToNat]
      omega
  split
  · refine ⟨0x80, 0x9F, ?_, ?_, ?_⟩
    · rw [show v / 4096 = 0xD by omega]
    · simp only [UInt8.reduceToNat]
      omega
    · simp only [UInt8.reduceToNat]
      omega
  rw [if_pos (by omega)]
  refine ⟨0x80, 0xBF, ?_, ?_, ?_⟩
  · rw [Nat.add_sub_cancel]
  · simp only [UInt8.reduceToNat]
    omega
  · simp only [UInt8.reduceToNat]
    omega

/-- The first of four octets narrows the range of the second so that neither a character of three
octets nor a number past the last character can follow. -/
theorem step_start_of_four {v : Nat} (hlow : 0xFFFF < v) (hv : v.isValidChar) :
    ∃ low high : UInt8,
      step .start (UInt8.ofNat (v / 262144 + 240)) = .proceed (.inside 2 low high (v / 262144)) ∧
        low.toNat ≤ v / 4096 % 64 + 128 ∧ v / 4096 % 64 + 128 ≤ high.toNat := by
  simp only [Nat.isValidChar] at hv
  rw [step_start_of_lt (by omega) (by omega), if_neg (by omega), if_neg (by omega),
    if_neg (by omega), if_neg (by omega)]
  split
  · refine ⟨0x90, 0xBF, ?_, ?_, ?_⟩
    · rw [show v / 262144 = 0 by omega]
    · simp only [UInt8.reduceToNat]
      omega
    · simp only [UInt8.reduceToNat]
      omega
  split
  · refine ⟨0x80, 0xBF, ?_, ?_, ?_⟩
    · rw [Nat.add_sub_cancel]
    · simp only [UInt8.reduceToNat]
      omega
    · simp only [UInt8.reduceToNat]
      omega
  refine ⟨0x80, 0x8F, ?_, ?_, ?_⟩
  · rw [show v / 262144 = 4 by omega]
  · simp only [UInt8.reduceToNat]
    omega
  · simp only [UInt8.reduceToNat]
    omega

/-- The octets of a character read as that character. -/
theorem decodeFrom_encodeChar (c : Char) (bs : Bytes) :
    decodeFrom .start (String.utf8EncodeChar c ++ bs) = (decodeFrom .start bs).map (c :: ·) := by
  have hvalid : c.toNat.isValidChar := c.valid
  have hmax : c.toNat < 0x110000 := by
    simp only [Nat.isValidChar] at hvalid
    omega
  have hC : (0x80 : UInt8).toNat = 128 := rfl
  have hBF : (0xBF : UInt8).toNat = 191 := rfl
  have hval : c.val.toNat = c.toNat := rfl
  simp only [String.utf8EncodeChar, hval]
  -- the remainder in a first octet takes nothing off: the number of the character is small enough
  split
  · rename_i hone
    apply decodeFrom_of_finish
    rw [step_start_of_le hone, Char.ofNat_toNat]
  split
  · rename_i hone htwo
    have hlead : c.toNat / 64 % 32 = c.toNat / 64 := by omega
    rw [hlead, List.cons_append, decodeFrom_of_proceed (step_start_of_lt (by omega) (by omega)),
      if_pos (by omega), Nat.add_sub_cancel]
    exact decodeFrom_last (by omega) (by omega) (by omega) (by omega) bs
  split
  · rename_i htwo hthree
    have hlead : c.toNat / 4096 % 16 = c.toNat / 4096 := by omega
    obtain ⟨low, high, hfirst, hlow, hhigh⟩ := step_start_of_three (by omega) hthree hvalid
    rw [hlead, List.cons_append, decodeFrom_of_proceed hfirst, List.cons_append,
      decodeFrom_inside (by omega) hlow hhigh]
    exact decodeFrom_last (by omega) (by omega) (by omega) (by omega) bs
  · rename_i hthree
    have hlead : c.toNat / 262144 % 8 = c.toNat / 262144 := by omega
    obtain ⟨low, high, hfirst, hlow, hhigh⟩ := step_start_of_four (by omega) hvalid
    rw [hlead, List.cons_append, decodeFrom_of_proceed hfirst, List.cons_append,
      decodeFrom_inside (by omega) hlow hhigh, List.cons_append,
      decodeFrom_inside (by omega) (by omega) (by omega)]
    exact decodeFrom_last (by omega) (by omega) (by omega) (by omega) bs

/-! ### All characters -/

theorem decode?_encode (cs : List Char) : decode? (encode cs) = some cs := by
  induction cs with
  | nil => rfl
  | cons c cs ih =>
    rw [decode?, encode_cons, decodeFrom_encodeChar]
    rw [decode?] at ih
    rw [ih, Option.map_some]

/-- What is written as UTF-8 reads back as the same text. -/
theorem text?_encode (text : String) : text? (encode text.toList) = some text := by
  rw [text?, decode?_encode, Option.map_some, String.ofList_toList]

/-! ### Reading nothing else -/

/-- What is left of a number without its last `count` groups of six bits. -/
def leading : (count v : Nat) → Nat
  | 0, v => v
  | count + 1, v => leading count v / 64

/-- The octets after the first of a character of number `v`, with six bits in each. -/
def tailOctets : (count v : Nat) → Bytes
  | 0, _ => []
  | count + 1, v => UInt8.ofNat (leading count v % 64 + 128) :: tailOctets count v

/-- The octets of a character have led to a state inside it: every number that the state allows
for is a character, and is written as these octets and its remaining ones. -/
structure Leads (front : Bytes) (after : Nat) (low high : UInt8) (value : Nat) : Prop where
  low_ge : 128 ≤ low.toNat
  high_le : high.toNat ≤ 191
  written : ∀ v, leading (after + 1) v = value → low.toNat ≤ leading after v % 64 + 128 →
    leading after v % 64 + 128 ≤ high.toNat →
      ∃ c : Char, c.toNat = v ∧ String.utf8EncodeChar c = front ++ tailOctets (after + 1) v

/-- What the octets of a started character, or no octets, have led to. -/
def Reached (front : Bytes) : State → Prop
  | .start => front = []
  | .inside after low high value => Leads front after low high value

theorem ofNat_of_toNat {n : Nat} {b : UInt8} (h : b.toNat = n) : UInt8.ofNat n = b := by
  rw [← h, UInt8.ofNat_toNat]

theorem exists_char {v : Nat} (h : v.isValidChar) : ∃ c : Char, c.toNat = v ∧ c.val.toNat = v :=
  ⟨Char.ofNatAux v h, rfl, rfl⟩

/-- A number of a character of two octets. -/
theorem exists_encodeChar_two {v : Nat} {b : UInt8} (hlow : 0x80 ≤ v) (hhigh : v ≤ 0x7FF)
    (hb : b.toNat = v / 64 + 192) :
    ∃ c : Char, c.toNat = v ∧ String.utf8EncodeChar c = [b] ++ tailOctets 1 v := by
  obtain ⟨c, hc, hval⟩ := exists_char (v := v) (Or.inl (by omega))
  refine ⟨c, hc, ?_⟩
  have hlead : v / 64 % 32 = v / 64 := by omega
  simp only [String.utf8EncodeChar, hval, if_neg (show ¬ v ≤ 127 by omega),
    if_pos (show v ≤ 2047 by omega), hlead, ofNat_of_toNat hb]
  rfl

/-- A number of a character of three octets. -/
theorem exists_encodeChar_three {v : Nat} {b : UInt8} (hlow : 0x800 ≤ v) (hhigh : v ≤ 0xFFFF)
    (hvalid : v.isValidChar) (hb : b.toNat = v / 4096 + 224) :
    ∃ c : Char, c.toNat = v ∧ String.utf8EncodeChar c = [b] ++ tailOctets 2 v := by
  obtain ⟨c, hc, hval⟩ := exists_char hvalid
  refine ⟨c, hc, ?_⟩
  have hlead : v / 4096 % 16 = v / 4096 := by omega
  simp only [String.utf8EncodeChar, hval, if_neg (show ¬ v ≤ 127 by omega),
    if_neg (show ¬ v ≤ 2047 by omega), if_pos (show v ≤ 65535 by omega), hlead, ofNat_of_toNat hb]
  simp [tailOctets, leading]

/-- A number of a character of four octets. -/
theorem exists_encodeChar_four {v : Nat} {b : UInt8} (hlow : 0x10000 ≤ v) (hvalid : v.isValidChar)
    (hb : b.toNat = v / 262144 + 240) :
    ∃ c : Char, c.toNat = v ∧ String.utf8EncodeChar c = [b] ++ tailOctets 3 v := by
  obtain ⟨c, hc, hval⟩ := exists_char hvalid
  refine ⟨c, hc, ?_⟩
  have hlead : v / 262144 % 8 = v / 262144 := by
    simp only [Nat.isValidChar] at hvalid
    omega
  simp only [String.utf8EncodeChar, hval, if_neg (show ¬ v ≤ 127 by omega),
    if_neg (show ¬ v ≤ 2047 by omega), if_neg (show ¬ v ≤ 65535 by omega), hlead,
    ofNat_of_toNat hb]
  simp [tailOctets, leading, Nat.div_div_eq_div_mul]

/-- The first of three octets, where the range of the second one leaves characters of three
octets. -/
theorem leads_three {b low high : UInt8} {value : Nat} (least most : Nat)
    (hb : b.toNat = value + 224) (hlow : low.toNat = least) (hhigh : high.toNat = most)
    (hleast : 128 ≤ least) (hmost : most ≤ 191)
    (honly : ∀ v, v / 4096 = value → least ≤ v / 64 % 64 + 128 → v / 64 % 64 + 128 ≤ most →
      0x800 ≤ v ∧ v ≤ 0xFFFF ∧ (v < 0xD800 ∨ 0xDFFF < v)) :
    Leads [b] 1 low high value := by
  refine ⟨by omega, by omega, ?_⟩
  intro v hvalue hfrom hto
  simp only [leading] at hvalue hfrom hto
  obtain ⟨hfirst, hlast, hvalid⟩ := honly v (by omega) (by omega) (by omega)
  apply exists_encodeChar_three hfirst hlast
  · simp only [Nat.isValidChar]
    omega
  · omega

/-- The first of four octets, where the range of the second one leaves characters of four
octets. -/
theorem leads_four {b low high : UInt8} {value : Nat} (least most : Nat)
    (hb : b.toNat = value + 240) (hlow : low.toNat = least) (hhigh : high.toNat = most)
    (hleast : 128 ≤ least) (hmost : most ≤ 191)
    (honly : ∀ v, v / 262144 = value → least ≤ v / 4096 % 64 + 128 → v / 4096 % 64 + 128 ≤ most →
      0x10000 ≤ v ∧ v < 0x110000) :
    Leads [b] 2 low high value := by
  refine ⟨by omega, by omega, ?_⟩
  intro v hvalue hfrom hto
  simp only [leading] at hvalue hfrom hto
  obtain ⟨hfirst, hlast⟩ := honly v (by omega) (by omega) (by omega)
  apply exists_encodeChar_four hfirst
  · simp only [Nat.isValidChar]
    omega
  · omega

/-- A first octet is a character by itself, or none, or leads into a longer one. -/
theorem first_cases (b : UInt8) :
    (b.toNat ≤ 0x7F ∧ first b = .finish (Char.ofNat b.toNat)) ∨ first b = .reject ∨
      ∃ state, first b = .proceed state ∧ Reached [b] state := by
  simp only [first, UInt8.le_iff_toNat_le, UInt8.lt_iff_toNat_lt, ← UInt8.toNat_inj,
    UInt8.reduceToNat]
  by_cases hascii : b.toNat ≤ 127
  · exact Or.inl ⟨hascii, if_pos hascii⟩
  right
  rw [if_neg hascii]
  by_cases htail : b.toNat < 194
  · exact Or.inl (if_pos htail)
  rw [if_neg htail]
  by_cases htwo : b.toNat ≤ 223
  · refine Or.inr ⟨_, if_pos htwo, by decide, by decide, ?_⟩
    intro v hvalue _ _
    simp only [leading] at hvalue
    exact exists_encodeChar_two (by omega) (by omega) (by omega)
  rw [if_neg htwo]
  by_cases hshort : b.toNat = 224
  · exact Or.inr ⟨_, if_pos hshort,
      leads_three 160 191 hshort rfl rfl (by omega) (by omega) (by omega)⟩
  rw [if_neg hshort]
  by_cases hsurrogate : b.toNat = 237
  · exact Or.inr ⟨_, if_pos hsurrogate,
      leads_three 128 159 hsurrogate rfl rfl (by omega) (by omega) (by omega)⟩
  rw [if_neg hsurrogate]
  by_cases hthree : b.toNat ≤ 239
  · exact Or.inr ⟨_, if_pos hthree,
      leads_three 128 191 (by omega) rfl rfl (by omega) (by omega) (by omega)⟩
  rw [if_neg hthree]
  by_cases hlong : b.toNat = 240
  · exact Or.inr ⟨_, if_pos hlong,
      leads_four 144 191 hlong rfl rfl (by omega) (by omega) (by omega)⟩
  rw [if_neg hlong]
  by_cases hfour : b.toNat ≤ 243
  · exact Or.inr ⟨_, if_pos hfour,
      leads_four 128 191 (by omega) rfl rfl (by omega) (by omega) (by omega)⟩
  rw [if_neg hfour]
  by_cases hlast : b.toNat = 244
  · exact Or.inr ⟨_, if_pos hlast,
      leads_four 128 143 hlast rfl rfl (by omega) (by omega) (by omega)⟩
  · exact Or.inl (if_neg hlast)

theorem reached_of_first {b : UInt8} {state : State} (h : first b = .proceed state) :
    Reached [b] state := by
  obtain ⟨-, hfinish⟩ | hreject | ⟨state', hproceed, hreached⟩ := first_cases b
  · rw [hfinish] at h
    cases h
  · rw [hreject] at h
    cases h
  · rw [hproceed] at h
    cases h
    exact hreached

/-- An octet that is a character by itself. -/
theorem encodeChar_of_first {b : UInt8} {c : Char} (h : first b = .finish c) :
    String.utf8EncodeChar c = [b] := by
  obtain ⟨hascii, hfinish⟩ | hreject | ⟨_, hproceed, -⟩ := first_cases b
  · rw [hfinish] at h
    cases h
    have hvalid : b.toNat.isValidChar := Or.inl (by omega)
    have hval : (Char.ofNat b.toNat).val.toNat = b.toNat := by
      rw [Char.ofNat, dif_pos hvalid]
      rfl
    simp only [String.utf8EncodeChar, hval, if_pos hascii, UInt8.ofNat_toNat]
  · rw [hreject] at h
    cases h
  · rw [hproceed] at h
    cases h

/-- An octet that is not rejected inside a character holds six bits and lies in the range. -/
theorem Leads.exists_bits {front : Bytes} {after value : Nat} {low high b : UInt8}
    (h : Leads front after low high value)
    (hstep : step (.inside after low high value) b ≠ .reject) :
    ∃ t < 64, b = UInt8.ofNat (t + 128) ∧ low.toNat ≤ t + 128 ∧ t + 128 ≤ high.toNat := by
  have hrange : low ≤ b ∧ b ≤ high :=
    Decidable.byContradiction fun hout => hstep (by rw [step, if_neg hout])
  rw [UInt8.le_iff_toNat_le, UInt8.le_iff_toNat_le] at hrange
  have hlow := h.low_ge
  have hhigh := h.high_le
  refine ⟨b.toNat - 128, by omega, ?_, by omega, by omega⟩
  rw [Nat.sub_add_cancel (by omega), UInt8.ofNat_toNat]

/-- The octet that ends a character completes its octets. -/
theorem Reached.encodeChar_of_finish {front : Bytes} {state : State} {b : UInt8} {c : Char}
    (h : Reached front state) (hstep : step state b = .finish c) :
    String.utf8EncodeChar c = front ++ [b] := by
  cases state with
  | start =>
    rw [show front = [] from h]
    exact encodeChar_of_first hstep
  | inside after low high value =>
    obtain ⟨t, ht, rfl, hlow, hhigh⟩ := Leads.exists_bits (b := b) h (by simp [hstep])
    rw [step_inside ht hlow hhigh] at hstep
    cases after with
    | succ more => cases hstep
    | zero =>
      have hbits : leading 0 (value * 64 + t) % 64 = t := by
        rw [leading]
        omega
      have hvalue : leading 1 (value * 64 + t) = value := by
        simp only [leading]
        omega
      obtain ⟨c', hc', hwritten⟩ := h.written (value * 64 + t) hvalue (by omega) (by omega)
      cases hstep
      rw [← hc', Char.ofNat_toNat, hwritten, tailOctets, hbits, tailOctets]

/-- An octet that does not end a character goes on with its octets. -/
theorem Reached.proceed {front : Bytes} {state state' : State} {b : UInt8}
    (h : Reached front state) (hstep : step state b = .proceed state') :
    Reached (front ++ [b]) state' := by
  cases state with
  | start =>
    rw [show front = [] from h]
    exact reached_of_first hstep
  | inside after low high value =>
    obtain ⟨t, ht, rfl, hlow, hhigh⟩ := Leads.exists_bits (b := b) h (by simp [hstep])
    rw [step_inside ht hlow hhigh] at hstep
    cases after with
    | zero => cases hstep
    | succ more =>
      cases hstep
      refine ⟨by decide, by decide, fun v hvalue _ _ => ?_⟩
      have hshift : leading (more + 1 + 1) v = leading (more + 1) v / 64 := rfl
      obtain ⟨c, hc, hwritten⟩ := h.written v (by omega) (by omega) (by omega)
      refine ⟨c, hc, ?_⟩
      have hbits : leading (more + 1) v % 64 = t := by omega
      rw [hwritten, tailOctets, hbits, List.append_cons]

theorem Reached.start : Reached [] .start := rfl

/-- What the machine reads from a state on completes the octets that led to the state. -/
theorem Reached.append_eq_encode {front bs : Bytes} {state : State} {cs : List Char}
    (h : Reached front state) (hread : decodeFrom state bs = some cs) :
    front ++ bs = encode cs := by
  induction bs generalizing front state cs with
  | nil =>
    cases state with
    | start =>
      cases hread
      simpa [Reached] using h
    | inside after low high value => cases hread
  | cons b bs ih =>
    cases hstep : step state b with
    | finish c =>
      rw [decodeFrom_of_finish hstep, Option.map_eq_some_iff] at hread
      obtain ⟨ds, hds, rfl⟩ := hread
      have hrest : bs = encode ds := ih Reached.start hds
      rw [encode_cons, h.encodeChar_of_finish hstep, ← hrest]
      simp
    | proceed state' =>
      rw [decodeFrom_of_proceed hstep] at hread
      rw [← ih (h.proceed hstep) hread]
      simp
    | reject => simp [decodeFrom, hstep] at hread

/-- The strict reader reads exactly the octets of characters. -/
theorem decode?_eq_some_iff {bs : Bytes} {cs : List Char} :
    decode? bs = some cs ↔ bs = encode cs := by
  constructor
  · intro h
    exact Reached.start.append_eq_encode h
  · rintro rfl
    exact decode?_encode cs

end Utf8

end KeyProvisioning
