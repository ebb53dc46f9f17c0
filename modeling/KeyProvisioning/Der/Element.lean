import KeyProvisioning.Bytes

/-!
# DER elements

An element is an identifier, a definite length and that many octets of content. Lengths may be
written wider than they need be; indefinite lengths are refused. Elements are told apart by their
tag number, and where it matters also by class and form.
-/

namespace KeyProvisioning.Der

/-- The class of a tag. -/
inductive TagClass
  | universal
  | application
  | context
  | «private»
  deriving DecidableEq, Repr

namespace TagClass

/-- The class named by the two highest bits of an identifier. -/
def ofBits : Nat → TagClass
  | 0 => universal
  | 1 => application
  | 2 => context
  | _ => «private»

end TagClass

/-- The identifier of an element. -/
structure Tag where
  tagClass : TagClass
  /-- Whether the content is itself made of elements. -/
  constructed : Bool
  number : Nat
  deriving DecidableEq, Repr

/-- An element. -/
structure Element where
  tag : Tag
  content : Bytes
  deriving DecidableEq, Repr

/-- The tag numbers in use. -/
def booleanTag : Nat := 1
def integerTag : Nat := 2
def bitStringTag : Nat := 3
def octetStringTag : Nat := 4
def sequenceTag : Nat := 16
def utcTimeTag : Nat := 23
def generalizedTimeTag : Nat := 24

/-- The most octets that a tag number of the long form may take after the first. -/
def tagNumberWidth : Nat := 5

/-- A tag number of the long form: seven bits in each octet, the highest bit clear in the last one.
The number is kept in 32 bits. -/
def readTagNumber : (fuel number : Nat) → Reader Nat
  | 0, _, _ => none
  | _ + 1, _, [] => none
  | fuel + 1, number, b :: bs =>
    let number := (number * 128 + b.toNat % 128) % UInt32.size
    if b < 0x80 then some (number, bs) else readTagNumber fuel number bs

/-- Read an identifier. -/
def readTag : Reader Tag
  | [] => none
  | b :: bs =>
    let tagClass := TagClass.ofBits (b.toNat / 64)
    let constructed := b.toNat / 32 % 2 == 1
    if b.toNat % 32 < 31 then some (⟨tagClass, constructed, b.toNat % 32⟩, bs)
    else
      (readTagNumber tagNumberWidth 0 bs).map fun (number, rest) =>
        (⟨tagClass, constructed, number⟩, rest)

/-- Read a definite length below `2 ^ 64`. -/
def readLength : Reader Nat
  | [] => none
  | b :: bs =>
    if b < 0x80 then some (b.toNat, bs)
    else if b = 0x80 ∨ b = 0xFF then none
    else
      match splitExactly (b.toNat - 0x80) bs with
      | none => none
      | some (digits, rest) =>
        if bigEndian digits < UInt64.size then some (bigEndian digits, rest) else none

/-- Read an identifier and a length, and leave the content. -/
def readHeader : Reader (Tag × Nat) := fun bs =>
  match readTag bs with
  | none => none
  | some (tag, rest) => (readLength rest).map fun (length, rest') => ((tag, length), rest')

/-- Read one element. -/
def readElement : Reader Element := fun bs =>
  match readHeader bs with
  | none => none
  | some ((tag, length), rest) =>
    (splitExactly length rest).map fun (content, rest') => (⟨tag, content⟩, rest')

/-- Read an element with a given tag number, of any class and form. -/
def readNumbered (number : Nat) : Reader Bytes := fun bs =>
  match readElement bs with
  | none => none
  | some (element, rest) =>
    if element.tag.number = number then some (element.content, rest) else none

/-- Read an element with a given tag number whose content is not made of elements. -/
def readPrimitive (number : Nat) : Reader Bytes := fun bs =>
  match readElement bs with
  | none => none
  | some (element, rest) =>
    if element.tag.number = number ∧ element.tag.constructed = false then
      some (element.content, rest)
    else none

/-- Read an object identifier. Its tag number is not looked at, only that its content is not made
of elements. -/
def readObjectIdentifier : Reader Bytes := fun bs =>
  match readElement bs with
  | none => none
  | some (element, rest) =>
    if element.tag.constructed then none else some (element.content, rest)

/-- Read a sequence and what stands at the front of its content; the rest of the content is passed
over. -/
def readSequence {α : Type} (front : Reader α) : Reader α := fun bs =>
  match readNumbered sequenceTag bs with
  | none => none
  | some (content, rest) => (front content).map fun (x, _) => (x, rest)

/-- Whether the octets start with an element of the given tag number. Octets that start with no
identifier and length at all are malformed. -/
def startsWith? (number : Nat) (bs : Bytes) : Option Bool :=
  if bs.isEmpty then some false
  else (readHeader bs).map fun ((tag, _), _) => tag.number == number

/-- Read an element of the context class with a given tag number, if one comes next. -/
def readOptional (number : Nat) : Reader (Option Bytes) := fun bs =>
  match startsWith? number bs with
  | none => none
  | some false => some (none, bs)
  | some true =>
    match readElement bs with
    | none => none
    | some (element, rest) =>
      if element.tag.tagClass = .context then some (some element.content, rest) else none

/-- An unsigned integer below `2 ^ 32` in its shortest form: no octets of padding in front, the
highest bit clear. -/
def count? : Bytes → Option Nat
  | [] => none
  | b :: bs =>
    if b ≥ 0x80 then none
    else
      match b == 0, bs with
      | true, c :: _ => if c < 0x80 then none else checked (b :: bs)
      | _, _ => checked (b :: bs)
where
  /-- The number, if it fits. -/
  checked (digits : Bytes) : Option Nat :=
    if bigEndian digits < UInt32.size then some (bigEndian digits) else none

/-- The number of zero bits at the low end of an octet. -/
def trailingZeros (b : UInt8) : Nat :=
  ((List.range 8).takeWhile fun i => !b.toNat.testBit i).length

/-- The octets of a bit string. The first octet of the content counts the unused bits at the end,
which must be zero. -/
def bitString? : Bytes → Option Bytes
  | [] => none
  | unused :: bits =>
    match bits.getLast? with
    | none => if unused = 0 then some [] else none
    | some last => if unused.toNat ≤ trailingZeros last then some bits else none

/-- Read a bit string. -/
def readBitString : Reader Bytes := fun bs =>
  match readPrimitive bitStringTag bs with
  | none => none
  | some (content, rest) => (bitString? content).map fun bits => (bits, rest)

end KeyProvisioning.Der
