import KeyProvisioning.Unicode.Composition
import KeyProvisioning.Unicode.Properties
import KeyProvisioning.Url.Domain.Refused
import KeyProvisioning.Url.Domain.Replaced
import KeyProvisioning.Url.Punycode

/-!
# Domains

A domain is a name of labels between dots, each in its plain form or encoded within ASCII.
-/

namespace KeyProvisioning.Domain

/-!
## The plain form of a domain

Each character of a domain is left out, stands for itself or stands for others, or makes the domain
unusable. The text that results is composed.
-/

/-- The letter of an alphabet that a character stands for. -/
def letter? (c : Char) : Option Char :=
  alphabets.findSome? fun (first, last, step, image) =>
    if first ≤ c.toNat ∧ c.toNat ≤ last ∧ (c.toNat - first) % step = 0 then
      some (Char.ofNat (image + (c.toNat - first)))
    else none

/-- The one character that a character stands for. -/
def single? (c : Char) : Option Char :=
  singles.findSome? fun (first, images) =>
    if first ≤ c.toNat then images.toList[c.toNat - first]? else none

/-- The several characters that a character stands for. -/
def expansion? (c : Char) : Option (List Char) :=
  expansions.findSome? fun (first, images) =>
    if first ≤ c.toNat then images[c.toNat - first]?.map String.toList else none

/-- What a character stands for. -/
def replacement (c : Char) : List Char :=
  match letter? c with
  | some image => [image]
  | none =>
    match single? c with
    | some image => [image]
    | none => (expansion? c).getD [c]

/-- What becomes of a character, or nothing when no domain holds it. -/
def mapped? (c : Char) : Option (List Char) :=
  if c.toNat < 128 then some [c.toLower]
  else if refused.hold c then none
  else if leftOut.hold c then some []
  else some (replacement c)

/-- The plain form of text. -/
def plain? (text : List Char) : Option (List Char) := do
  return Unicode.compose (← text.mapM mapped?).flatten

/-!
## Labels

A label of a domain does not begin with a mark, and invisible joiners stand only where they make
a difference. Where a domain has letters that run to the left, each of its labels runs in one
direction. A label with characters outside ASCII is written in an encoded form after `xn--`; one
that is read in that form must decode to a label in plain form.
-/

/-- The characters of a label. -/
abbrev Label := List Char

namespace Label

/-- Whether all characters are within ASCII. -/
def isAscii (label : Label) : Bool :=
  label.all (·.toNat < 128)

/-! ### Joiners -/

/-- Whether the nearest character that does not let others join past it joins. -/
def joins (joinsHere : Char → Bool) : List Char → Bool
  | [] => false
  | c :: cs => joinsHere c || (Unicode.isTransparent c && joins joinsHere cs)

/-- Whether every joiner follows a virama or, if it separates, stands between letters that would
join. What comes before is given the last one first. -/
def joinersHold (before : List Char) : List Char → Bool
  | [] => true
  | c :: cs =>
    let holds :=
      if c == '\u200c' || c == '\u200d' then
        before.head?.any Unicode.isVirama ||
          (c == '\u200c' && joins Unicode.joinsNext before && joins Unicode.joinsPrevious cs)
      else true
    holds && joinersHold (c :: before) cs

/-! ### Directions -/

/-- Whether a label has a letter or a number that runs to the left. -/
def runsLeft (label : Label) : Bool :=
  label.any fun c => Unicode.Direction.of c == .leftward || Unicode.Direction.of c == .arabicDigit

/-- The direction of the last character that is no mark. -/
def lastDirection? (directions : List Unicode.Direction) : Option Unicode.Direction :=
  (directions.reverse.dropWhile (· == .mark)).head?

/-- Whether a label runs in one direction. One that runs to the left has no digits of two kinds,
and both begin with a letter and end with a letter or a digit. -/
def runsOneWay (label : Label) : Bool :=
  let directions := label.map Unicode.Direction.of
  let last := (lastDirection? directions).getD .neutral
  match directions with
  | [] => true
  | .rightward :: rest =>
    rest.all (fun d => d != .leftward && d != .arabicDigit) &&
      (last == .rightward || last == .europeanDigit)
  | .leftward :: rest =>
    rest.all (· != .rightward) && last != .neutral &&
      !(rest.any (· == .europeanDigit) && rest.any (· == .arabicDigit))
  | _ => false

/-! ### Encoded labels -/

/-- More characters outside ASCII are not encoded in one label. -/
def maxLength : Nat := 1000

/-- Longer encoded text is not decoded. -/
def maxEncodedLength : Nat := 2000

/-- Whether a label has the form of one. -/
def isValid (label : Label) : Bool :=
  !(label.head?.any Unicode.isMark) && joinersHold [] label &&
    (label.isAscii || label.length ≤ maxLength)

/-- The label that a written one stands for. -/
def decode? (written : Label) : Option Label :=
  match written with
  | 'x' :: 'n' :: '-' :: '-' :: encoded =>
    if !written.isAscii || maxEncodedLength < encoded.length then none
    else do
      let label : Label ← Punycode.decode? encoded
      if !label.isAscii && plain? label = some label then some label else none
  | _ => some written

/-- The label as it is written within ASCII. -/
def encode (label : Label) : Label :=
  if label.isAscii then label else "xn--".toList ++ Punycode.encode label

end Label

/-!
## Whole domains

A domain is written within ASCII, with the labels that need it encoded. One that is within ASCII
and has no encoded label is only put into lower case.
-/

/-- Whether text within ASCII begins like an encoded label. -/
def beginsEncoded (label : List Char) : Bool :=
  (label.take 4).map Char.toLower == "xn--".toList

/-- Whether a domain is within ASCII and has no encoded label. -/
def isSimple (text : List Char) : Bool :=
  text.all (·.toNat < 128) && !(text.splitOn '.').any beginsEncoded

/-- The labels that a domain has in its plain form. -/
def labels? (text : List Char) : Option (List Label) := do
  let plain ← plain? text
  let labels ← (plain.splitOn '.').mapM Label.decode?
  let runsLeft := labels.any Label.runsLeft
  if labels.all Label.isValid && (!runsLeft || labels.all Label.runsOneWay) then return labels
  else none

/-- The domain as it is written within ASCII. -/
def ascii? (text : List Char) : Option (List Char) :=
  if isSimple text then some (text.map Char.toLower)
  else (labels? text).map fun labels => ['.'].intercalate (labels.map Label.encode)

end KeyProvisioning.Domain
