import KeyProvisioning.Url.Percent
import KeyProvisioning.Url.Scheme

/-!
# Paths

A path is a list of segments, each after a slash. While it is read, a segment of one dot is dropped
and a segment of two dots takes the segment before it away, unless that one names a drive. A `file`
path may begin with a drive, which is then written with a colon even where a bar was read. Empty
segments at its front are dropped when all is read.
-/

namespace KeyProvisioning

/-- What stands between two slashes. -/
abbrev Segment := List Char

namespace Segment

/-- Whether a segment is a dot, perhaps escaped. -/
def isDot (segment : Segment) : Bool :=
  let lower := segment.map Char.toLower
  lower = ".".toList || lower = "%2e".toList

/-- Whether a segment is two dots, perhaps escaped. -/
def isDoubleDot (segment : Segment) : Bool :=
  let lower := segment.map Char.toLower
  lower = "..".toList || lower = "%2e.".toList || lower = ".%2e".toList || lower = "%2e%2e".toList

/-- Whether a segment is a letter and a colon or a bar. -/
def isDrive : Segment → Bool
  | [letter, mark] => letter.isAlpha && (mark == ':' || mark == '|')
  | _ => false

/-- Whether a segment is a drive or goes on with a backslash after one. -/
def startsWithDrive : Segment → Bool
  | letter :: mark :: rest => isDrive [letter, mark] && (rest.isEmpty || rest.head? == some '\\')
  | _ => false

/-- A drive with a colon, and the text that a tab or a line end sets off from it. -/
def splitDrive? (written : Segment) : Option (Segment × Segment) := do
  let (letter, rest) ← Written.next? written
  let (mark, rest) ← Written.next? rest
  let text := Written.visible rest
  if letter.isAlpha && mark == ':' && rest.head?.any Written.isPassedOver && !text.isEmpty then
    return ([letter, mark], text)
  else none

end Segment

/-- The path of an address. -/
inductive UrlPath
  /-- Text after a scheme that no slash follows. -/
  | rootless (text : List Char)
  /-- Segments, each after a slash. -/
  | rooted (segments : List Segment)
  deriving DecidableEq, Repr

namespace UrlPath

/-- The path, as it stands in an address. -/
def render : UrlPath → List Char
  | rootless text => text
  | rooted segments => segments.flatMap ('/' :: ·)

/-- The segments of which the last one is taken away, the last one first. A drive stays. -/
def parent : List Segment → List Segment
  | [] => []
  | last :: before => if last.startsWithDrive then last :: before else before

/-- What has been read of a path. -/
structure Reading where
  /-- The segments, the last one first. -/
  segments : List Segment
  /-- Whether a `file` path begins with a drive that stands for itself. -/
  namesDrive : Bool
  deriving DecidableEq, Repr

namespace Reading

/-- Nothing has been read. -/
def start : Reading := ⟨[], false⟩

/-- Go on with a segment, a drive being one like any other. Dots are not kept. -/
def push (before : Reading) (segment : Segment) : Reading :=
  if segment.isDoubleDot then { before with segments := parent before.segments }
  else if segment.isDot then before
  else { before with segments := Percent.encode Percent.inPath segment :: before.segments }

/-- Go on with what is written between two slashes of a `file` path. Only at the front is a drive
more than a segment: alone it is written with a colon, and text that a tab or a line end sets off
from it is a segment of its own. -/
def pushFile (before : Reading) (written : Segment) : Reading :=
  let segment : Segment := Written.visible written
  if !before.segments.isEmpty then before.push segment
  else match written.splitDrive? with
    | some (drive, rest) =>
      { before with segments := [Percent.encode Percent.inPath rest, drive] }
    | none =>
      if segment.isDrive then ⟨[segment.take 1 ++ [':']], true⟩ else before.push segment

/-- Go on with all that is written between the slashes. A path whose last segment is made of dots
ends with a slash. -/
def pushAll (form : SchemeSyntax) (before : Reading) : List Segment → Reading
  | [] => before
  | written :: rest =>
    let after := if form = .file then before.pushFile written else before.push written
    let segment : Segment := Written.visible written
    if rest.isEmpty && (segment.isDot || segment.isDoubleDot) then
      { after with segments := [] :: after.segments }
    else pushAll form after rest

end Reading

/-- The segments without the empty ones at the front, of which a path of its own is left. -/
def trimFront (segments : List Segment) : List Segment :=
  match segments.dropWhile List.isEmpty with
  | [] => [[]]
  | trimmed => trimmed

/-- The segments that are written between slashes. -/
def split (form : SchemeSyntax) (text : List Char) : List Segment :=
  (text.map fun c => if form.isSlash c then '/' else c).splitOn '/'

/-- What the text after the first slash of a path writes. -/
def read (form : SchemeSyntax) (text : List Char) : Reading :=
  Reading.start.pushAll form (split form text)

/-- The path that the text after its first slash writes. -/
def ofText (form : SchemeSyntax) (text : List Char) : UrlPath :=
  let segments := (read form text).segments.reverse
  rooted (if form = .file then trimFront segments else segments)

/-- The path after an authority. Where the scheme has a well-known syntax it is never empty. -/
def afterAuthority (form : SchemeSyntax) (text : List Char) : UrlPath :=
  match text with
  | [] => if form.isSpecial then ofText form [] else rooted []
  | c :: rest => ofText form (if form.isSlash c then rest else c :: rest)

end UrlPath

end KeyProvisioning
