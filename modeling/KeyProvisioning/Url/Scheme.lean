/-!
# Written addresses and their schemes

What of a text counts as an address, and the scheme that says how it is read.
-/

namespace KeyProvisioning

/-!
## Written addresses

Blanks and control characters around an address do not count, and neither do tabs and line ends
inside it. Most of an address is read from the characters that are left. Only a `file` path looks
at where the others stood.
-/

namespace Written

/-- Whether a character is passed over wherever it stands in an address. -/
def isPassedOver (c : Char) : Bool :=
  c == '\t' || c == '\n' || c == '\r'

/-- The characters that count. -/
def visible (text : List Char) : List Char :=
  text.filter (!isPassedOver ·)

/-- The text without the blanks and control characters around it. -/
def trim (text : List Char) : List Char :=
  let isBlank (c : Char) : Bool := c ≤ ' '
  ((text.dropWhile isBlank).reverse.dropWhile isBlank).reverse

/-- The first character that counts, and the text after it. -/
def next? (text : List Char) : Option (Char × List Char) :=
  match text.dropWhile isPassedOver with
  | [] => none
  | c :: rest => some (c, rest)

@[simp] theorem visible_append (text more : List Char) :
    visible (text ++ more) = visible text ++ visible more := by
  simp [visible]

@[simp] theorem visible_visible (text : List Char) : visible (visible text) = visible text := by
  simp [visible]

/-- Text without tabs and line ends counts as it is written. -/
theorem visible_eq_self {text : List Char} (h : ∀ c ∈ text, isPassedOver c = false) :
    visible text = text := by
  simp only [visible, List.filter_eq_self]
  intro c hc
  simp [h c hc]

end Written

/-!
## Schemes

The scheme stands before the first colon. Five of them have a well-known syntax with a host, one
of whose ports is the default, and `file` has one of its own; every other scheme is read by the
general rules.
-/

/-- How the address after a scheme is read. -/
inductive SchemeSyntax
  /-- With a host and slashes of either direction. -/
  | network (defaultPortNumber : Nat)
  /-- As a place in a file system. -/
  | file
  /-- By the general rules. -/
  | general
  deriving DecidableEq, Repr

namespace SchemeSyntax

/-- The syntax of a scheme. -/
def ofScheme (scheme : List Char) : SchemeSyntax :=
  if scheme ∈ ["http".toList, "ws".toList] then network 80
  else if scheme ∈ ["https".toList, "wss".toList] then network 443
  else if scheme = "ftp".toList then network 21
  else if scheme = "file".toList then file
  else general

/-- Whether the syntax is a well-known one. -/
def isSpecial (form : SchemeSyntax) : Bool :=
  form != general

/-- The number after the host that need not be written. -/
def defaultPortNumber? : SchemeSyntax → Option Nat
  | network number => some number
  | _ => none

/-- Whether a character separates the segments of a path. -/
def isSlash (form : SchemeSyntax) (c : Char) : Bool :=
  c == '/' || (form.isSpecial && c == '\\')

/-- Whether a character ends the part of an address that names the host. -/
def endsAuthority (form : SchemeSyntax) (c : Char) : Bool :=
  form.isSlash c || c == '?' || c == '#'

end SchemeSyntax

namespace Scheme

/-- Whether a character can stand in a scheme after its first letter. -/
def isSchemeChar (c : Char) : Bool :=
  c.isAlphanum || c ∈ ['+', '-', '.']

/-- The scheme in lower case and the text after its colon. -/
def split? (text : List Char) : Option (List Char × List Char) :=
  match text.span isSchemeChar with
  | (c :: scheme, ':' :: rest) =>
    if c.isAlpha then some ((c :: scheme).map Char.toLower, rest) else none
  | _ => none

end Scheme

end KeyProvisioning
