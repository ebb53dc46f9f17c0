import KeyProvisioning.Bytes

/-!
# Heads of CBOR items

Every CBOR item starts with a head: three bits of major type, five bits of additional information
and up to eight octets of argument. A head may be written wider than its argument needs; it is
always written here in the shortest form.
-/

namespace KeyProvisioning.Cbor

/-- What a head announces. A length of `none` is indefinite. -/
inductive Head
  | unsigned (n : Nat)
  /-- The integer one below the negative of `n`. -/
  | negative (n : Nat)
  | bytes (length : Option Nat)
  | text (length : Option Nat)
  | array (length : Option Nat)
  | map (length : Option Nat)
  | tag (number : Nat)
  | simple (value : Nat)
  /-- A floating-point number of `width` octets. -/
  | float (width bits : Nat)
  /-- The end of an item of indefinite length. -/
  | stop
  deriving DecidableEq, Repr

namespace Head

/-- The octets of argument that the additional information asks for. -/
def argumentWidth? : (info : Nat) → Option Nat
  | 24 => some 1
  | 25 => some 2
  | 26 => some 4
  | 27 => some 8
  | _ => none

/-- The argument of a head with this additional information; nothing for the indefinite mark. -/
def readArgument (info : Nat) (bs : Bytes) : Option (Option Nat × Bytes) :=
  if info < 24 then some (some info, bs)
  else if info = 31 then some (none, bs)
  else
    match argumentWidth? info with
    | none => none
    | some width =>
      (splitExactly width bs).map fun (digits, rest) => (some (bigEndian digits), rest)

/-- The head with these parts, where the combination has a meaning. -/
def ofParts (major info : Nat) (argument : Option Nat) : Option Head :=
  match major, argument with
  | 0, some n => some (.unsigned n)
  | 1, some n => some (.negative n)
  | 2, length => some (.bytes length)
  | 3, length => some (.text length)
  | 4, length => some (.array length)
  | 5, length => some (.map length)
  | 6, some n => some (.tag n)
  | 7, none => some .stop
  | 7, some n =>
    match argumentWidth? info with
    | none | some 1 => some (.simple n)
    | some width => some (.float width n)
  | _, _ => none

/-- Read one head. -/
def read : Bytes → Option (Head × Bytes)
  | [] => none
  | b :: bs =>
    match readArgument (b.toNat % 32) bs with
    | none => none
    | some (argument, rest) =>
      (ofParts (b.toNat / 32) (b.toNat % 32) argument).map fun head => (head, rest)

end Head

/-- The last `width` octets of a number, most significant first. -/
def bigEndianBytes : (width : Nat) → (n : Nat) → Bytes
  | 0, _ => []
  | width + 1, n => bigEndianBytes width (n / 256) ++ [UInt8.ofNat (n % 256)]

/-- The shortest head of a major type and an argument below `2 ^ 64`. -/
def writeHead (major n : Nat) : Bytes :=
  let lead (info : Nat) : UInt8 := UInt8.ofNat (major * 32 + info)
  if n < 24 then [lead n]
  else if n < 0x100 then lead 24 :: bigEndianBytes 1 n
  else if n < 0x10000 then lead 25 :: bigEndianBytes 2 n
  else if n < 0x100000000 then lead 26 :: bigEndianBytes 4 n
  else lead 27 :: bigEndianBytes 8 n

@[simp] theorem length_bigEndianBytes (width n : Nat) :
    (bigEndianBytes width n).length = width := by
  induction width generalizing n with
  | zero => rfl
  | succ width ih => simp [bigEndianBytes, ih]

/-- Writing a number that fits the width and reading it gives it back. -/
theorem bigEndian_bigEndianBytes {width n : Nat} (h : n < Nat.pow 256 width) :
    bigEndian (bigEndianBytes width n) = n := by
  induction width generalizing n with
  | zero => simp at h; simp [bigEndianBytes, h]
  | succ width ih =>
    rw [bigEndianBytes, bigEndian_append_singleton, ih]
    · rw [UInt8.toNat_ofNat']
      omega
    · have hs : Nat.pow 256 (width + 1) = Nat.pow 256 width * 256 := rfl
      omega

/-!
## Writing CBOR

Byte strings and arrays of byte strings in their shortest definite form.
-/

/-- A byte string of definite length. -/
def writeBytes (content : Bytes) : Bytes :=
  writeHead 2 content.length ++ content

/-- An array of definite length whose elements are byte strings. -/
def writeByteStrings (elements : List Bytes) : Bytes :=
  writeHead 4 elements.length ++ elements.flatMap writeBytes

end KeyProvisioning.Cbor
