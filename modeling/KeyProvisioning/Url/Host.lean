import KeyProvisioning.Text.Digits
import KeyProvisioning.Url.Domain
import KeyProvisioning.Url.Percent

/-!
# Hosts and their addresses

The host of an address is a name or a number of 32 or 128 bits, which can be written in several
ways.
-/

namespace KeyProvisioning

/-!
## IPv4 addresses as host names

A host name whose last label is a number is an address: up to four numbers, joined by full stops,
of which the last fills all places that the others leave. A number is decimal, octal after `0` or
hexadecimal after `0x`.
-/

namespace Ipv4

/-- The value of an octal digit. -/
def octalDigit? (c : Char) : Option Nat :=
  (decimalDigit? c).filter (· < 8)

/-- The number that a label writes. A mark without digits is zero. -/
def number? : List Char → Option Nat
  | [] => none
  | '0' :: 'x' :: digits | '0' :: 'X' :: digits => numberOfDigits? 16 Hex.value? digits
  | '0' :: c :: digits => numberOfDigits? 8 octalDigit? (c :: digits)
  | digits => numberOfDigits? 10 decimalDigit? digits

/-- The labels of a host name, less one empty label at its end. -/
def labels (name : List Char) : List (List Char) :=
  let all := name.splitOn '.'
  if all.getLast? = some [] then all.dropLast else all

/-- Whether the last label of a host name is a number. -/
def endsInNumber (name : List Char) : Bool :=
  match (labels name).getLast? with
  | some last => (!last.isEmpty && last.all isDecimalDigit) || (number? last).isSome
  | none => false

/-- The address that up to four numbers write: each but the last is one octet, and the last fills
the octets that are left. -/
def ofNumbers? (numbers : List Nat) : Option UInt32 :=
  match numbers.reverse with
  | [] => none
  | last :: others =>
    let places := 4 - others.length
    if others.length < 4 ∧ others.all (· < 256) ∧ last < Nat.pow 256 places then
      some (UInt32.ofNat (bigEndianOf others.reverse * Nat.pow 256 places + last))
    else none
where
  /-- The number whose digits to the base 256 are given, most significant first. -/
  bigEndianOf (octets : List Nat) : Nat :=
    octets.foldl (fun n octet => n * 256 + octet) 0

/-- The address that a host name writes. -/
def parse? (name : List Char) : Option UInt32 :=
  (labels name).mapM number? >>= ofNumbers?

/-- The four octets of an address in decimal, joined by full stops. -/
def render (address : UInt32) : List Char :=
  let octet (places : Nat) : List Char := Nat.toDigits 10 (address.toNat >>> places % 256)
  ['.'].intercalate [octet 24, octet 16, octet 8, octet 0]

end Ipv4

/-!
## IPv6 addresses

Eight groups of up to four hexadecimal digits, joined by colons. One run of zero groups may be left
out, which leaves two colons together, and the last two groups may be written as an IPv4 address in
plain decimal. Written out, an address has lower-case digits without leading zeros and leaves out
its first longest run of at least two zero groups.
-/

namespace Ipv6

/-- One group. -/
def group? (digits : List Char) : Option UInt16 :=
  if 0 < digits.length ∧ digits.length ≤ 4 then (Hex.number? digits).map UInt16.ofNat else none

/-- One octet in decimal, without leading zeros. -/
def octet? (digits : List Char) : Option Nat :=
  match digits with
  | [] => none
  | '0' :: _ :: _ => none
  | _ => (numberOfDigits? 10 decimalDigit? digits).filter (· < 256)

/-- The last two groups, written as an IPv4 address. -/
def embedded? (text : List Char) : Option (List UInt16) := do
  match ← (text.splitOn '.').mapM octet? with
  | [a, b, c, d] => some [UInt16.ofNat (a * 256 + b), UInt16.ofNat (c * 256 + d)]
  | _ => none

/-- The groups of a list of written groups. -/
def groupsOf? : List (List Char) → Option (List UInt16)
  | [] => some []
  | [last] => if '.' ∈ last then embedded? last else (group? last).map ([·])
  | text :: rest => do return (← group? text) :: (← groupsOf? rest)

/-- The groups of a side of the omitted run, which may be empty. -/
def side? (text : List Char) : Option (List UInt16) :=
  if text.isEmpty then some [] else groupsOf? (text.splitOn ':')

/-- The text before and after the first two colons that stand together. -/
def splitOmission : List Char → Option (List Char × List Char)
  | [] => none
  | ':' :: ':' :: after => some ([], after)
  | c :: cs => (splitOmission cs).map fun (before, after) => (c :: before, after)

/-- The eight groups of an address. -/
def parse? (text : List Char) : Option (List UInt16) := do
  match splitOmission text with
  | none => (← side? text) |> (fun groups => if groups.length = 8 then some groups else none)
  | some (before, after) =>
    if '.' ∈ before then none
    let first ← side? before
    let last ← side? after
    if first.length + last.length < 8 then
      some (first ++ List.replicate (8 - first.length - last.length) 0 ++ last)
    else none

/-- How many zero groups a list begins with. -/
def zeros (groups : List UInt16) : Nat :=
  (groups.takeWhile (· == 0)).length

/-- Where the first longest run of zero groups begins, and its length. -/
def longestRun : (start : Nat) → List UInt16 → Nat × Nat
  | start, [] => (start, 0)
  | start, g :: rest =>
    let here := zeros (g :: rest)
    let later := longestRun (start + 1) rest
    if later.2 ≤ here then (start, here) else later

/-- A group without leading zeros. -/
def renderGroup (group : UInt16) : List Char :=
  Nat.toDigits 16 group.toNat

/-- Groups joined by colons. -/
def renderGroups (groups : List UInt16) : List Char :=
  [':'].intercalate (groups.map renderGroup)

/-- The address as text. -/
def render (groups : List UInt16) : List Char :=
  let (start, length) := longestRun 0 groups
  if 2 ≤ length then
    renderGroups (groups.take start) ++ ':' :: ':' :: renderGroups (groups.drop (start + length))
  else renderGroups groups

end Ipv6

/-!
## Hosts

The host of an address is a name, an IPv4 address or, in brackets, an IPv6 address. Where the
scheme has a well-known syntax a name is a domain: escapes in it are resolved, it is put into the
form that domains have within ASCII, and a name that ends in a number must be an IPv4 address.
Elsewhere a name is kept as it is written.
-/

/-- A host. -/
inductive Host
  | name (text : List Char)
  | ipv4 (address : UInt32)
  | ipv6 (groups : List UInt16)
  deriving DecidableEq, Repr

namespace Host

/-- The host of an address that names none. -/
def empty : Host := name []

/-- The host, as it stands in an address. -/
def render : Host → List Char
  | name text => text
  | ipv4 address => Ipv4.render address
  | ipv6 groups => '[' :: Ipv6.render groups ++ [']']

/-- A host that begins with a bracket ends with one and holds an IPv6 address between them. -/
def bracketed? (text : List Char) : Option Host :=
  if text.head? = some '[' ∧ text.getLast? = some ']' then
    (Ipv6.parse? text.tail.dropLast).map ipv6
  else none

/-- Characters that no host contains. -/
def isForbidden (c : Char) : Bool :=
  c ∈ ['\x00', '\t', '\n', '\r', ' ', '#', '/', ':', '<', '>', '?', '@', '[', '\\', ']', '^', '|']

/-- Characters that no domain contains. -/
def isForbiddenInDomain (c : Char) : Bool :=
  isForbidden c || Percent.isControl c || c == '%'

/-- The domain that percent-encoded text names, within ASCII and in lower case. -/
def domain? (text : List Char) : Option (List Char) := do
  let written ← Utf8.decode? (Percent.decode text)
  let domain ← Domain.ascii? written
  if !domain.isEmpty && !domain.any isForbiddenInDomain then some domain else none

/-- The host of an address whose scheme has a well-known syntax. -/
def ofDomain? (text : List Char) : Option Host := do
  if text.head? = some '[' then bracketed? text
  else
    let domain ← domain? text
    if Ipv4.endsInNumber domain then (Ipv4.parse? domain).map ipv4 else some (name domain)

/-- The host of an address with any other scheme. -/
def ofText? (text : List Char) : Option Host :=
  if text.head? = some '[' then bracketed? text
  else if text.any isForbidden then none
  else some (name (Percent.encode Percent.isControl text))

end Host

end KeyProvisioning
