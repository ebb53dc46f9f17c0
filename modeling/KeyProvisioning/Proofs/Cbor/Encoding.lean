import KeyProvisioning.Cbor.Item

/-!
# Encodings of CBOR items

The ways in which an item may be written, without a reader: as relations between a value and the
octets of one of its encodings. A head may be wider than its argument needs, strings may stand in
chunks, and sequences may be of indefinite length, so an item has many encodings. Items inside
others are written by a relation that is a parameter, and the depth of nesting is counted
outside.
-/

namespace KeyProvisioning.Cbor

/-! ## Heads -/

/-- The octets of a head: a lead octet with a major type and the information on its argument, and
the octets of the argument where it does not stand in the lead octet. -/
inductive Lead (major : Nat) : (info : Nat) → (argument : Option Nat) → Bytes → Prop
  /-- A small argument is the information itself. -/
  | immediate {n : Nat} (small : n < 24) : Lead major n (some n) [UInt8.ofNat (major * 32 + n)]
  /-- The argument stands in one, two, four or eight octets, however small it is. -/
  | wide {k : Nat} {digits : Bytes} (width : k < 4) (length : digits.length = Nat.pow 2 k) :
    Lead major (24 + k) (some (bigEndian digits)) (UInt8.ofNat (major * 32 + (24 + k)) :: digits)
  /-- The mark in the place of an argument. -/
  | indefinite : Lead major 31 none [UInt8.ofNat (major * 32 + 31)]

namespace Head

/-- The octets write a head. -/
def Written : Head → Bytes → Prop
  | unsigned n, bs => ∃ info, Lead 0 info (some n) bs
  | negative n, bs => ∃ info, Lead 1 info (some n) bs
  | bytes length, bs => ∃ info, Lead 2 info length bs
  | text length, bs => ∃ info, Lead 3 info length bs
  | array length, bs => ∃ info, Lead 4 info length bs
  | map length, bs => ∃ info, Lead 5 info length bs
  | tag number, bs => ∃ info, Lead 6 info (some number) bs
  -- the wider arguments of the last major type are floating-point numbers
  | simple value, bs => ∃ info ≤ 24, Lead 7 info (some value) bs
  | float width bits, bs => ∃ k, 1 ≤ k ∧ width = Nat.pow 2 k ∧ Lead 7 (24 + k) (some bits) bs
  | stop, bs => Lead 7 31 none bs

end Head

/-! ## Strings and sequences -/

/-- The head of a string of this kind. -/
def StringKind.head : StringKind → (length : Option Nat) → Head
  | bytes, length => .bytes length
  | text, length => .text length

/-- The octets that follow the head of a string of indefinite length: strings of its kind up to
the stop octet. One of these may again be of indefinite length. -/
inductive Chunks (kind : StringKind) : List Bytes → Bytes → Prop
  | stop : Chunks kind [] [stopOctet]
  | chunk {lead chunk back : Bytes} {chunks : List Bytes}
    (head : (kind.head (some chunk.length)).Written lead) (more : Chunks kind chunks back) :
    Chunks kind (chunk :: chunks) (lead ++ chunk ++ back)
  | nested {lead front back : Bytes} {inner chunks : List Bytes}
    (head : (kind.head none).Written lead) (body : Chunks kind inner front)
      (more : Chunks kind chunks back) :
    Chunks kind (inner ++ chunks) (lead ++ front ++ back)

/-- The octets that follow the head of a string with this length. -/
inductive StringBody (kind : StringKind) : (length : Option Nat) → List Bytes → Bytes → Prop
  | definite (chunk : Bytes) : StringBody kind (some chunk.length) [chunk] chunk
  | indefinite {chunks : List Bytes} {body : Bytes} (written : Chunks kind chunks body) :
    StringBody kind none chunks body

/-- The octets of values that are written one after another. -/
inductive Consecutive {α : Type} (written : α → Bytes → Prop) : List α → Bytes → Prop
  | nil : Consecutive written [] []
  | cons {x : α} {xs : List α} {front back : Bytes} (first : written x front)
    (more : Consecutive written xs back) : Consecutive written (x :: xs) (front ++ back)

/-- The octets that follow the head of a sequence with this length. -/
inductive SequenceBody {α : Type} (written : α → Bytes → Prop) :
    (length : Option Nat) → List α → Bytes → Prop
  | definite {xs : List α} {body : Bytes} (elements : Consecutive written xs body) :
    SequenceBody written (some xs.length) xs body
  | indefinite {xs : List α} {body : Bytes} (elements : Consecutive written xs body) :
    SequenceBody written none xs (body ++ [stopOctet])

/-- The octets of two values one after the other. -/
inductive PairWritten {α : Type} (written : α → Bytes → Prop) : α × α → Bytes → Prop
  | intro {x y : α} {front back : Bytes} (first : written x front) (second : written y back) :
    PairWritten written (x, y) (front ++ back)

/-! ## Items -/

/-- The octets begin with the head of a byte string that is short enough for the digits of a
number. -/
def BeginsShort (bs : Bytes) : Prop :=
  ∃ n ≤ bignumWidth, ∃ lead rest, (Head.bytes (some n)).Written lead ∧ bs = lead ++ rest

/-- The octets that follow the head of an item, with `nested` for the items inside an array, a
map or a tag, or nothing where these cannot stand. -/
inductive ItemBody (nested : Option (Item → Bytes → Prop)) : Head → Item → Bytes → Prop
  | unsigned (n : Nat) : ItemBody nested (.unsigned n) (.integer n) []
  | negative (n : Nat) : ItemBody nested (.negative n) (.integer (-1 - n)) []
  | bytes {length : Option Nat} {chunks : List Bytes} {body : Bytes}
    (written : StringBody .bytes length chunks body) :
    ItemBody nested (.bytes length) (.bytes chunks.flatten) body
  /-- Each chunk of a text is a text. -/
  | text {length : Option Nat} {parts : List (List Char)} {body : Bytes}
    (written : StringBody .text length (parts.map Utf8.encode) body) :
    ItemBody nested (.text length) (.text (String.ofList parts.flatten)) body
  | array {length : Option Nat} {elements : List Item} {body : Bytes} {item : Item → Bytes → Prop}
    (inside : nested = some item) (written : SequenceBody item length elements body) :
    ItemBody nested (.array length) (.array elements) body
  | map {length : Option Nat} {entries : List (Item × Item)} {body : Bytes}
    {item : Item → Bytes → Prop} (inside : nested = some item)
    (written : SequenceBody (PairWritten item) length entries body) :
    ItemBody nested (.map length) (.map entries) body
  /-- A tag for numbers and the digits of one. -/
  | bignum {number : Nat} {value : Int} {lead digits : Bytes} (numeric : number = 2 ∨ number = 3)
    (head : (Head.bytes (some digits.length)).Written lead) (short : digits.length ≤ bignumWidth)
    (kept : bignum? number digits = some value) :
    ItemBody nested (.tag number) (.integer value) (lead ++ digits)
  | tagged {number : Nat} {content : Item} {body : Bytes} {item : Item → Bytes → Prop}
    (inside : nested = some item) (written : item content body)
    (plain : number = 2 ∨ number = 3 → ¬ BeginsShort body) :
    ItemBody nested (.tag number) (.tagged number content) body
  | simple {value : Nat} {item : Item} (meaning : simpleItem? value = some item) :
    ItemBody nested (.simple value) item []
  | float (width bits : Nat) : ItemBody nested (.float width bits) (.float width bits) []

/-- The octets of an item are those of its head and those that follow it. -/
inductive ItemWritten (nested : Option (Item → Bytes → Prop)) (item : Item) : Bytes → Prop
  | intro {head : Head} {lead body : Bytes} (first : head.Written lead)
    (after : ItemBody nested head item body) : ItemWritten nested item (lead ++ body)

/-- The octets write an item inside which arrays, maps and tags are nested at most `depth` deep. -/
def Encodes : (depth : Nat) → Item → Bytes → Prop
  | 0 => ItemWritten none
  | depth + 1 => ItemWritten (some (Encodes depth))

/-- The octets are one of the encodings of an item. -/
def Item.Encoded (item : Item) (bs : Bytes) : Prop :=
  Encodes maxDepth item bs

end KeyProvisioning.Cbor
