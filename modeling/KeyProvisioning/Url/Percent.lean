import KeyProvisioning.Text.Digits
import KeyProvisioning.Text.Utf8

/-!
# Percent encoding

A character that cannot stand in a component is written as its octets, each a percent sign and two
upper-case hexadecimal digits. Which characters those are depends on the component; each set here
extends a smaller one. A percent sign is never escaped, so text that is escaped already stays as it
is.
-/

namespace KeyProvisioning

namespace Percent

/-- One octet, escaped. -/
def escape (b : UInt8) : List Char :=
  '%' :: Hex.fixed Hex.upperDigit 2 b.toNat

/-- Write the characters of a set by their octets and all others as they are. -/
def encode (escaped : Char → Bool) (cs : List Char) : List Char :=
  cs.flatMap fun c => if escaped c then (Utf8.encode [c]).flatMap escape else [c]

/-- The octets that percent-encoded text stands for. A percent sign that no two digits follow
stands for itself. -/
def decode : List Char → Bytes
  | '%' :: a :: b :: cs =>
    match Hex.value? a, Hex.value? b with
    | some high, some low => UInt8.ofNat (high * 16 + low) :: decode cs
    | _, _ => Utf8.encode ['%'] ++ decode (a :: b :: cs)
  | c :: cs => Utf8.encode [c] ++ decode cs
  | [] => []

/-! ## What is escaped where -/

/-- Control characters and all that lie outside the printable range. -/
def isControl (c : Char) : Bool :=
  c < ' ' || '~' < c

/-- What is escaped in a fragment. -/
def inFragment (c : Char) : Bool :=
  isControl c || c ∈ [' ', '"', '<', '>', '\x60']

/-- What is escaped in a query. -/
def inQuery (c : Char) : Bool :=
  isControl c || c ∈ [' ', '"', '#', '<', '>']

/-- What is escaped in the query of a scheme with a well-known syntax. -/
def inSpecialQuery (c : Char) : Bool :=
  inQuery c || c == '\''

/-- What is escaped in a path segment. -/
def inPath (c : Char) : Bool :=
  inFragment c || c ∈ ['#', '?', '\x7b', '\x7d']

/-- What is escaped in a user name or password. -/
def inUserinfo (c : Char) : Bool :=
  inPath c || c ∈ ['/', ':', ';', '=', '@', '[', '\\', ']', '^', '|']

end Percent

/-!
## Form-encoded pairs

A query can carry names with values. Pairs are joined by `&`, a name and its value by `=`, and in
either of them a space is written `+`. Letters, digits and `*-._` stand for themselves and every
other octet is escaped, so neither joint occurs inside a name or a value.
-/

namespace Form

/-- Whether a character stands for itself in a name or a value. -/
def isPlain (c : Char) : Bool :=
  c.isAlphanum || c ∈ ['*', '-', '.', '_']

/-- A name or a value, as it is written. -/
def encode (cs : List Char) : List Char :=
  cs.flatMap fun c =>
    if isPlain c then [c] else if c = ' ' then ['+'] else (Utf8.encode [c]).flatMap Percent.escape

/-- The name or value that is written; octets that are no text are replaced. -/
def decode (cs : List Char) : List Char :=
  Utf8.decodeLossy (Percent.decode (cs.map fun c => if c = '+' then ' ' else c))

/-- One pair, as it is written. -/
def encodePair (name value : List Char) : List Char :=
  encode name ++ '=' :: encode value

/-- A query with one more pair at its end. -/
def append (query : List Char) (name value : List Char) : List Char :=
  (if query.isEmpty then [] else query ++ ['&']) ++ encodePair name value

/-- A pair of which both parts are still written. Without `=` the value is empty. -/
def decodePair (written : List Char) : List Char × List Char :=
  let (name, value) := written.span (· != '=')
  (decode name, decode value.tail)

/-- The pairs of a query, in their order. Nothing between two `&` is no pair. -/
def pairs (query : List Char) : List (List Char × List Char) :=
  ((query.splitOn '&').filter (!·.isEmpty)).map decodePair

end Form

end KeyProvisioning
