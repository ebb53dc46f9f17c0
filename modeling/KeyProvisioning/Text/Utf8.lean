import KeyProvisioning.Bytes

/-!
# UTF-8

Octets are read one at a time by a machine that stands either between characters or inside one. The
strict reader gives up at the first octet that no character can continue with. The lenient reader
replaces each longest run of octets that starts a character but does not finish it, and each octet
that starts none, by one replacement character.
-/

namespace KeyProvisioning.Utf8

/-- Where the machine stands between two octets. -/
inductive State
  /-- Between characters. -/
  | start
  /-- Inside a character: the next octet lies between `low` and `high`, `after` more octets follow
  it, and `value` is the number read so far. -/
  | inside (after : Nat) (low high : UInt8) (value : Nat)
  deriving DecidableEq, Repr

/-- What one octet does. -/
inductive Step
  /-- It ends a character. -/
  | finish (c : Char)
  /-- It starts or continues one. -/
  | proceed (state : State)
  /-- No character has it in this place. -/
  | reject

/-- The first octet of a character fixes the number of octets after it and the range of the next
one. The narrow ranges exclude overlong forms, surrogates and numbers past the last character. -/
def first (b : UInt8) : Step :=
  if b ≤ 0x7F then .finish (Char.ofNat b.toNat)
  else if b < 0xC2 then .reject
  else if b ≤ 0xDF then .proceed (.inside 0 0x80 0xBF (b.toNat - 0xC0))
  else if b = 0xE0 then .proceed (.inside 1 0xA0 0xBF 0)
  else if b = 0xED then .proceed (.inside 1 0x80 0x9F 0xD)
  else if b ≤ 0xEF then .proceed (.inside 1 0x80 0xBF (b.toNat - 0xE0))
  else if b = 0xF0 then .proceed (.inside 2 0x90 0xBF 0)
  else if b ≤ 0xF3 then .proceed (.inside 2 0x80 0xBF (b.toNat - 0xF0))
  else if b = 0xF4 then .proceed (.inside 2 0x80 0x8F 4)
  else .reject

/-- One octet, from any state. -/
def step : State → UInt8 → Step
  | .start, b => first b
  | .inside after low high value, b =>
    if low ≤ b ∧ b ≤ high then
      let value := value * 64 + (b.toNat - 0x80)
      match after with
      | 0 => .finish (Char.ofNat value)
      | more + 1 => .proceed (.inside more 0x80 0xBF value)
    else .reject

/-- The characters of the octets that follow a state, if they are well formed to the end. -/
def decodeFrom : State → Bytes → Option (List Char)
  | .start, [] => some []
  | .inside .., [] => none
  | state, b :: bs =>
    match step state b with
    | .finish c => (decodeFrom .start bs).map (c :: ·)
    | .proceed state' => decodeFrom state' bs
    | .reject => none

/-- The characters of well-formed octets. -/
def decode? (bs : Bytes) : Option (List Char) :=
  decodeFrom .start bs

/-- The text of well-formed octets. -/
def text? (bs : Bytes) : Option String :=
  (decode? bs).map String.ofList

/-- The character that stands for octets which are not well formed. -/
def replacement : Char := '\uFFFD'

/-- The characters of the octets that follow a state, with malformed runs replaced. An octet that
cannot continue a character is read again as the first of the next one. -/
def decodeLossyFrom : State → Bytes → List Char
  | .start, [] => []
  | .inside .., [] => [replacement]
  | .start, b :: bs =>
    match first b with
    | .finish c => c :: decodeLossyFrom .start bs
    | .proceed state => decodeLossyFrom state bs
    | .reject => replacement :: decodeLossyFrom .start bs
  | .inside after low high value, b :: bs =>
    match step (.inside after low high value) b with
    | .finish c => c :: decodeLossyFrom .start bs
    | .proceed state => decodeLossyFrom state bs
    | .reject =>
      match first b with
      | .finish c => replacement :: c :: decodeLossyFrom .start bs
      | .proceed state => replacement :: decodeLossyFrom state bs
      | .reject => replacement :: replacement :: decodeLossyFrom .start bs

/-- The characters of any octets, with malformed runs replaced. -/
def decodeLossy (bs : Bytes) : List Char :=
  decodeLossyFrom .start bs

/-- The octets of characters. -/
def encode (cs : List Char) : Bytes :=
  cs.flatMap String.utf8EncodeChar

@[simp] theorem encode_nil : encode [] = [] := rfl

@[simp] theorem encode_cons (c : Char) (cs : List Char) :
    encode (c :: cs) = String.utf8EncodeChar c ++ encode cs := rfl

@[simp] theorem encode_append (cs ds : List Char) :
    encode (cs ++ ds) = encode cs ++ encode ds := by
  simp [encode]

/-- Octets that read strictly read the same leniently. -/
theorem decodeLossyFrom_eq_of_decodeFrom {state : State} {bs : Bytes} {cs : List Char}
    (h : decodeFrom state bs = some cs) : decodeLossyFrom state bs = cs := by
  induction bs generalizing state cs with
  | nil => cases state <;> simp_all [decodeFrom, decodeLossyFrom]
  | cons b bs ih =>
    cases state with
    | start =>
      cases hs : first b with
      | finish c =>
        simp only [decodeFrom, step, hs, Option.map_eq_some_iff] at h
        obtain ⟨ds, hd, rfl⟩ := h
        simp [decodeLossyFrom, hs, ih hd]
      | proceed s => simp_all [decodeFrom, step, decodeLossyFrom]
      | reject => simp [decodeFrom, step, hs] at h
    | inside after low high value =>
      cases hs : step (.inside after low high value) b with
      | finish c =>
        simp only [decodeFrom, hs, Option.map_eq_some_iff] at h
        obtain ⟨ds, hd, rfl⟩ := h
        simp [decodeLossyFrom, hs, ih hd]
      | proceed s => simp_all [decodeFrom, decodeLossyFrom]
      | reject => simp [decodeFrom, hs] at h

/-- The lenient reader agrees with the strict one on well-formed octets. -/
theorem decodeLossy_eq_of_decode? {bs : Bytes} {cs : List Char} (h : decode? bs = some cs) :
    decodeLossy bs = cs :=
  decodeLossyFrom_eq_of_decodeFrom h

end KeyProvisioning.Utf8
