import KeyProvisioning.Url.Authority
import KeyProvisioning.Url.Path
import KeyProvisioning.Url.Percent

/-!
# Addresses

An address is a structure of parts, and a text is read as one by the rules of its scheme.
-/

namespace KeyProvisioning

/-!
## Parts of an address

An address has a scheme and a path, and perhaps an authority, a query and a fragment. All parts are
kept as they are written out, with escapes, so the text of an address is its parts and their marks.
-/

/-- An address. -/
structure Url where
  scheme : List Char
  authority : Option Authority
  path : UrlPath
  query : Option (List Char)
  fragment : Option (List Char)
  deriving DecidableEq, Repr

namespace Url

/-- What follows the scheme and its colon, up to the query. Without an authority, a path that
begins with two slashes is set off by a dot, so that it does not read as one. -/
def renderPlace (url : Url) : List Char :=
  match url.authority, url.path with
  | some authority, path => '/' :: '/' :: authority.render ++ path.render
  | none, .rooted ([] :: second :: rest) =>
    '/' :: '.' :: (UrlPath.rooted ([] :: second :: rest)).render
  | none, path => path.render

/-- A part of an address after its mark, or nothing. -/
def renderPart (mark : Char) (part : Option (List Char)) : List Char :=
  (part.map (mark :: ·)).getD []

/-- The address as text. -/
def render (url : Url) : List Char :=
  url.scheme ++ ':' :: url.renderPlace ++ renderPart '?' url.query ++ renderPart '#' url.fragment

/-- The names and values that the query carries. -/
def pairs (url : Url) : List (List Char × List Char) :=
  Form.pairs (url.query.getD [])

/-- The address with one more pair at the end of its query. -/
def addPair (url : Url) (name value : List Char) : Url :=
  { url with query := some (Form.append (url.query.getD []) name value) }

/-- What a request names of an address: the path and the query. -/
def target (url : Url) : List Char :=
  url.path.render ++ renderPart '?' url.query

end Url

/-!
## Reading addresses

What follows the scheme depends on its syntax: a `network` scheme is followed by any number of
slashes and an authority, `file` by a path or by a host after two slashes, and any other scheme by
an authority after two slashes, by a path after one, or by text.
-/

namespace Url

/-- The text of a path, and the query and the fragment after it. -/
def splitTail (form : SchemeSyntax) (text : List Char) :
    List Char × Option (List Char) × Option (List Char) :=
  let (front, fragment) := text.span (· != '#')
  let (path, query) := front.span (· != '?')
  let escaped := if form.isSpecial then Percent.inSpecialQuery else Percent.inQuery
  let part (escaped : Char → Bool) (text : List Char) : Option (List Char) :=
    if text.isEmpty then none else some (Percent.encode escaped (Written.visible text.tail))
  (path, part escaped query, part Percent.inFragment fragment)

/-- An address whose path, query and fragment are the text after its authority. -/
def withTail (scheme : List Char) (authority : Option Authority) (form : SchemeSyntax)
    (path : List Char → UrlPath) (text : List Char) : Url :=
  let (pathText, query, fragment) := splitTail form text
  ⟨scheme, authority, path pathText, query, fragment⟩

/-- The address that goes on with an authority. -/
def parseAuthority? (scheme : List Char) (form : SchemeSyntax) (text : List Char) :
    Option Url := do
  let (authorityText, tail) := text.span (!form.endsAuthority ·)
  let (authority, rest) ← Authority.parse? form authorityText (!tail.isEmpty)
  return withTail scheme (some authority) form (UrlPath.afterAuthority form) (rest ++ tail)

/-- The host that a `file` address names, if any: an empty host and the local one are none. -/
def fileHost? (text : List Char) : Option Host := do
  if text.isEmpty then return .empty
  let host ← Host.ofDomain? text
  return if host = .name "localhost".toList then .empty else host

/-- A `file` address with a host, which means nothing before a drive. The path is the text after
its first slash. -/
def fileWithHost (host : Host) (text : List Char) : Url :=
  let namesDrive := (UrlPath.read .file (splitTail .file text).1).namesDrive
  let host := if namesDrive then .empty else host
  withTail "file".toList (some { Authority.empty with host := host }) .file (UrlPath.ofText .file)
    text

/-- The text without the slash that it may begin with. -/
def skipFileSlash (text : List Char) : List Char :=
  match Written.next? text with
  | some (c, rest) => if SchemeSyntax.isSlash .file c then rest else text
  | none => text

/-- The `file` address that goes on after two slashes. A drive in the place of the host begins the
path. After no host, the path begins with an empty segment, so that no drive is at its front. -/
def parseFileHost? (text : List Char) : Option Url := do
  let (hostText, tail) := text.span (!SchemeSyntax.endsAuthority .file ·)
  let hostText := Written.visible hostText
  if Segment.isDrive hostText then return fileWithHost .empty text
  let host ← fileHost? hostText
  return fileWithHost host (if host = .empty then tail else skipFileSlash tail)

/-- The address that goes on after the scheme `file`. -/
def parseFile? (text : List Char) : Option Url :=
  let isSlash := SchemeSyntax.isSlash .file
  match Written.next? text with
  | some (first, rest) =>
    if !isSlash first then some (fileWithHost .empty text)
    else match Written.next? rest with
      | some (second, tail) =>
        if isSlash second then parseFileHost? tail else some (fileWithHost .empty rest)
      | none => some (fileWithHost .empty rest)
  | none => some (fileWithHost .empty text)

/-- The address that goes on after a scheme without a syntax of its own. -/
def parseGeneral? (scheme : List Char) : List Char → Option Url
  | '/' :: '/' :: text => parseAuthority? scheme .general text
  | '/' :: text => some (withTail scheme none .general (UrlPath.ofText .general) text)
  | text =>
    some (withTail scheme none .general (.rootless ∘ Percent.encode Percent.isControl) text)

/-- The address that a text writes. -/
def parse? (text : List Char) : Option Url := do
  let written := Written.trim text
  let (scheme, rest) ← Scheme.split? (Written.visible written)
  match SchemeSyntax.ofScheme scheme with
  | .network number =>
    let form := SchemeSyntax.network number
    parseAuthority? scheme form (rest.dropWhile form.isSlash)
  | .file => parseFile? (written.dropWhile (· != ':')).tail
  | .general => parseGeneral? scheme rest

end Url

end KeyProvisioning
