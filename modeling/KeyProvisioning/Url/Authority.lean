import KeyProvisioning.Text.Digits
import KeyProvisioning.Url.Host
import KeyProvisioning.Url.Scheme

/-!
# Authorities

After two slashes an address names a host, before it perhaps a user with a password and an at
sign, after it perhaps a colon and the number of one of its ports. Only the last at sign
separates; earlier ones belong to the user. The number that is the scheme's own is left out.
-/

namespace KeyProvisioning

/-- Who is asked, and where. -/
structure Authority where
  username : List Char
  password : Option (List Char)
  host : Host
  portNumber : Option Nat
  deriving DecidableEq, Repr

namespace Authority

/-- The authority of an address that names no host. -/
def empty : Authority := ⟨[], none, .empty, none⟩

/-- Whether a user or a password is given. -/
def hasUser (authority : Authority) : Bool :=
  !authority.username.isEmpty || authority.password.isSome

/-- The authority, as it stands in an address after the two slashes. -/
def render (authority : Authority) : List Char :=
  let password := (authority.password.map (':' :: ·)).getD []
  let user := if authority.hasUser then authority.username ++ password ++ ['@'] else []
  let place := (authority.portNumber.map (':' :: Nat.toDigits 10 ·)).getD []
  user ++ authority.host.render ++ place

/-- The text before and after the last at sign. -/
def splitUser (text : List Char) : Option (List Char) × List Char :=
  match text.reverse.span (· != '@') with
  | (place, _ :: user) => (some user.reverse, place.reverse)
  | (_, []) => (none, text)

/-- A user and, after the first colon, a password. An empty password is no password. -/
def readUser (text : List Char) : List Char × Option (List Char) :=
  let (user, password) := text.span (· != ':')
  let encode := Percent.encode Percent.inUserinfo
  (encode user, if password.tail.isEmpty then none else some (encode password.tail))

/-- The text of a host and what follows it. A colon inside brackets belongs to the host. -/
def splitHost : (inBrackets : Bool) → List Char → List Char × List Char
  | _, [] => ([], [])
  | inBrackets, c :: cs =>
    if c = ':' ∧ !inBrackets then ([], c :: cs)
    else
      let (host, rest) :=
        splitHost (if c = '[' then true else if c = ']' then false else inBrackets) cs
      (c :: host, rest)

/-- A number of 16 bits, unless it is the scheme's own, and what follows it. -/
def portNumber? (form : SchemeSyntax) (text : List Char) : Option (Option Nat × List Char) := do
  let (digits, rest) := text.span isDecimalDigit
  let number ← numberOfDigits? 10 decimalDigit? digits
  if 65535 < number || (rest.head?.any (· != '\\')) then none
  else if digits.isEmpty || form.defaultPortNumber? = some number then some (none, rest)
  else some (some number, rest)

/-- A host, which only an address with a general scheme may leave out. -/
def host? (form : SchemeSyntax) (text : List Char) : Option Host :=
  if form.isSpecial then
    if text.isEmpty then none else Host.ofDomain? text
  else Host.ofText? text

/-- The authority that `text` writes and what of it belongs to the path. `isFollowed` says whether
the address goes on after it. -/
def parse? (form : SchemeSyntax) (text : List Char) (isFollowed : Bool) :
    Option (Authority × List Char) := do
  let (user, place) := splitUser text
  if user = some [] && place.isEmpty && isFollowed then none
  let (username, password) := readUser (user.getD [])
  let (hostText, rest) := splitHost false place
  let host ← host? form hostText
  let (portNumber, rest) ← match rest with
    | ':' :: rest => portNumber? form rest
    | _ => some (none, rest)
  let authority : Authority := ⟨username, password, host, portNumber⟩
  if hostText.isEmpty && (authority.hasUser || !place.isEmpty) then none
  return (authority, rest)

end Authority

end KeyProvisioning
