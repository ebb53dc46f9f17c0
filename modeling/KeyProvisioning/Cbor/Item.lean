import KeyProvisioning.Cbor.Head
import KeyProvisioning.Text.Utf8

/-!
# CBOR items

One item is read from the front of a byte string. Arrays, maps and tags may be nested up to a fixed
depth; reading is by recursion on the depth that is left, with the loops over elements, entries and
string chunks written once for any element reader. The reader forgets how an item was written: wide
heads, indefinite lengths and chunks give the same item as the shortest definite form.
-/

namespace KeyProvisioning.Cbor

/-- A data item. -/
inductive Item
  | integer (value : Int)
  | bytes (content : Bytes)
  | text (content : String)
  | array (elements : List Item)
  | map (entries : List (Item × Item))
  | tagged (number : Nat) (content : Item)
  | boolean (value : Bool)
  /-- Both the null and the undefined value. -/
  | null
  | float (width bits : Nat)

/-- Read exactly `n` times. -/
def readMany {α : Type} (element : Reader α) : Nat → Reader (List α)
  | 0, bs => some ([], bs)
  | n + 1, bs =>
    match element bs with
    | none => none
    | some (x, rest) =>
      match readMany element n rest with
      | none => none
      | some (xs, rest') => some (x :: xs, rest')

/-- The octet that ends an item of indefinite length. -/
def stopOctet : UInt8 := 0xFF

/-- Read until the stop octet, at most `fuel - 1` times. -/
def readUntilStop {α : Type} (element : Reader α) : (fuel : Nat) → Reader (List α)
  | 0, _ => none
  | _ + 1, [] => none
  | fuel + 1, b :: bs =>
    if b = stopOctet then some ([], bs)
    else
      match element (b :: bs) with
      | none => none
      | some (x, rest) =>
        match readUntilStop element fuel rest with
        | none => none
        | some (xs, rest') => some (x :: xs, rest')

/-- Read a sequence of announced or of indefinite length. Every element takes an octet, so the
number of octets is fuel enough. -/
def readSequence {α : Type} (element : Reader α) (length : Option Nat) : Reader (List α) :=
  fun bs =>
  match length with
  | some n => readMany element n bs
  | none => readUntilStop element (bs.length + 1) bs

/-- Read two things one after the other. -/
def readPair {α : Type} (element : Reader α) : Reader (α × α) := fun bs =>
  match element bs with
  | none => none
  | some (x, rest) =>
    match element rest with
    | none => none
    | some (y, rest') => some ((x, y), rest')

/-- The two kinds of strings. -/
inductive StringKind
  | bytes
  | text
  deriving DecidableEq, Repr

/-- The length announced by the head of a string of this kind. -/
def StringKind.length? : StringKind → Head → Option (Option Nat)
  | .bytes, .bytes length => some length
  | .text, .text length => some length
  | _, _ => none

/-- The chunks of a string of indefinite length that stands `nested` strings deep inside others of
its kind. An inner string of indefinite length adds its chunks in place. -/
def readChunks (kind : StringKind) : (fuel nested : Nat) → Reader (List Bytes)
  | 0, _, _ => none
  | fuel + 1, nested, bs =>
    match Head.read bs with
    | none => none
    | some (.stop, rest) =>
      match nested with
      | 0 => some ([], rest)
      | outer + 1 => readChunks kind fuel outer rest
    | some (head, rest) =>
      match kind.length? head with
      | none => none
      | some none => readChunks kind fuel (nested + 1) rest
      | some (some n) =>
        match splitExactly n rest with
        | none => none
        | some (chunk, rest') =>
          match readChunks kind fuel nested rest' with
          | none => none
          | some (chunks, rest'') => some (chunk :: chunks, rest'')

/-- The chunks of a string after its head; a string of announced length is one chunk. -/
def readString (kind : StringKind) (length : Option Nat) : Reader (List Bytes) := fun bs =>
  match length with
  | some n => (splitExactly n bs).map fun (chunk, rest) => ([chunk], rest)
  | none => readChunks kind (bs.length + 1) 0 bs

/-- The text of chunks that are each well formed. -/
def textOfChunks? (chunks : List Bytes) : Option String :=
  (chunks.mapM Utf8.decode?).map fun parts => String.ofList parts.flatten

/-- The simple values that have a meaning. -/
def simpleItem? : (value : Nat) → Option Item
  | 20 => some (.boolean false)
  | 21 => some (.boolean true)
  | 22 => some .null
  | 23 => some .null
  | _ => none

/-- The most octets of a tagged number. -/
def bignumWidth : Nat := 16

/-- The length of the byte string that follows the head of tag `number`, when the two together
are a number: tag 2 for numbers from zero up, tag 3 for numbers below zero. -/
def bignumLength? (number : Nat) (bs : Bytes) : Option (Nat × Bytes) :=
  if number = 2 ∨ number = 3 then
    match Head.read bs with
    | some (.bytes (some n), rest) => if n ≤ bignumWidth then some (n, rest) else none
    | _ => none
  else none

/-- Minus this number is the least one that is kept. -/
def bignumLimit : Nat := Nat.pow 2 127

/-- The number written under tag 2 or 3. -/
def bignum? (number : Nat) (digits : Bytes) : Option Int :=
  if number = 2 then some (bigEndian digits)
  else if bigEndian digits < bignumLimit then some (-1 - bigEndian digits)
  else none

/-- Read one item, with `nested` for the items inside an array, a map or a tag, or nothing where
the depth is used up. -/
def readItemWith (nested : Option (Reader Item)) : Reader Item := fun bs =>
  match Head.read bs with
  | none => none
  | some (head, rest) =>
    match head with
    | .unsigned n => some (.integer n, rest)
    | .negative n => some (.integer (-1 - n), rest)
    | .bytes length =>
      (readString .bytes length rest).map fun (chunks, rest') => (.bytes chunks.flatten, rest')
    | .text length =>
      match readString .text length rest with
      | none => none
      | some (chunks, rest') => (textOfChunks? chunks).map fun content => (.text content, rest')
    | .array length =>
      match nested with
      | none => none
      | some item =>
        (readSequence item length rest).map fun (elements, rest') => (.array elements, rest')
    | .map length =>
      match nested with
      | none => none
      | some item =>
        (readSequence (readPair item) length rest).map fun (entries, rest') =>
          (.map entries, rest')
    | .tag number =>
      match bignumLength? number rest with
      | some (n, rest') =>
        match splitExactly n rest' with
        | none => none
        | some (digits, rest'') =>
          (bignum? number digits).map fun value => (.integer value, rest'')
      | none =>
        match nested with
        | none => none
        | some item => (item rest).map fun (content, rest') => (.tagged number content, rest')
    | .simple value => (simpleItem? value).map fun item => (item, rest)
    | .float width bits => some (.float width bits, rest)
    | .stop => none

/-- Read one item inside which arrays, maps and tags are nested at most `depth` deep. -/
def readItem : (depth : Nat) → Reader Item
  | 0, bs => readItemWith none bs
  | depth + 1, bs => readItemWith (some (readItem depth)) bs

/-- The deepest nesting that is read. -/
def maxDepth : Nat := 256

namespace Item

/-- Read one item from the front. -/
def read : Reader Item :=
  readItem maxDepth

/-- The number, if the item is an integer of 64 bits without a sign. -/
def unsigned? : Item → Option Nat
  | integer (.ofNat n) => if n < UInt64.size then some n else none
  | _ => none

end Item

end KeyProvisioning.Cbor
