import KeyProvisioning.Certificate.Time
import KeyProvisioning.Fault

/-!
# Certificates

A certificate is read from the front of a byte string: the part that is signed, the signature
algorithm and the signature. Of the signed part the end of validity and the public key are kept;
the other fields are only checked for their shape.
-/

namespace KeyProvisioning

/-- What is kept of a certificate. -/
structure Certificate where
  /-- The last second of validity, counted from the start of 1970. -/
  notAfter : Int
  /-- The object identifier of the public key's algorithm. -/
  keyAlgorithm : Bytes
  /-- The public key itself. -/
  key : Bytes
  deriving DecidableEq, Repr

namespace Certificate

open Der

/-- Read an algorithm: an object identifier and at most one parameter that is looked at. -/
def readAlgorithm : Reader Bytes :=
  readSequence fun bs => do
    let (algorithm, bs) ← readObjectIdentifier bs
    if bs.isEmpty then some (algorithm, bs)
    else
      let (_, bs) ← readElement bs
      return (algorithm, bs)

/-- Pass over a version, if one comes next: a small number in an element of its own. -/
def readVersion : Reader Unit := fun bs =>
  match readOptional 0 bs with
  | none => none
  | some (none, rest) => some ((), rest)
  | some (some content, rest) =>
    match readPrimitive integerTag content with
    | none => none
    | some (digits, _) => (count? digits).map fun _ => ((), rest)

/-- Pass over a unique identifier, if one comes next. Its content has at least the octet that
counts unused bits. -/
def readUniqueIdentifier (number : Nat) : Reader Unit := fun bs =>
  match readOptional number bs with
  | none => none
  | some (none, rest) => some ((), rest)
  | some (some content, rest) => if content.isEmpty then none else some ((), rest)

/-- Read a name, whose parts are not looked at. -/
def readName : Reader Bytes :=
  readNumbered sequenceTag

/-- Read the two ends of validity and keep the second. -/
def readValidity : Reader Int :=
  readSequence fun bs => do
    let (_, bs) ← readTime bs
    readTime bs

/-- Read a public key with the identifier of its algorithm. -/
def readPublicKey : Reader (Bytes × Bytes) :=
  readSequence fun bs => do
    let (algorithm, bs) ← readAlgorithm bs
    let (key, bs) ← readBitString bs
    return ((algorithm, key), bs)

/-- Pass over the mark of a critical extension, if one comes next. -/
def readCritical : Reader Unit := fun bs =>
  match readNumbered booleanTag bs with
  | some ([_], rest) => some ((), rest)
  | _ => some ((), bs)

/-- Read one extension, whose value is not looked at. -/
def readExtension : Reader Unit :=
  readSequence fun bs => do
    let (_, bs) ← readObjectIdentifier bs
    let (_, bs) ← readCritical bs
    let (_, bs) ← readPrimitive octetStringTag bs
    return ((), bs)

/-- Whether the octets are extensions from end to end. -/
def areExtensions : (fuel : Nat) → Bytes → Bool
  | _, [] => true
  | 0, _ :: _ => false
  | fuel + 1, bs =>
    match readExtension bs with
    | none => false
    | some ((), rest) => areExtensions fuel rest

/-- Whether the octets at the end of the signed part are nothing, or a header of tag number 3 and
one sequence of extensions. -/
def isExtensionPart (bs : Bytes) : Bool :=
  if bs.isEmpty then true
  else
    match readHeader bs with
    | none => false
    | some ((tag, _), rest) =>
      match readNumbered sequenceTag rest with
      | none => false
      | some (content, rest') =>
        tag.number == 3 && areExtensions content.length content && rest'.isEmpty

/-- Read the signed part. -/
def readSigned : Reader Certificate :=
  readSequence fun bs => do
    let ((), bs) ← readVersion bs
    let (_, bs) ← readNumbered integerTag bs
    let (_, bs) ← readAlgorithm bs
    let (_, bs) ← readName bs
    let (notAfter, bs) ← readValidity bs
    let (_, bs) ← readName bs
    let ((keyAlgorithm, key), bs) ← readPublicKey bs
    let ((), bs) ← readUniqueIdentifier 1 bs
    let ((), bs) ← readUniqueIdentifier 2 bs
    if isExtensionPart bs then some ({ notAfter, keyAlgorithm, key }, []) else none

/-- Read one certificate from the front. -/
def read : Reader Certificate :=
  readSequence fun bs => do
    let (certificate, bs) ← readSigned bs
    let (_, bs) ← readAlgorithm bs
    let (_, bs) ← readBitString bs
    return (certificate, bs)

/-- The object identifier of keys on elliptic curves, 1.2.840.10045.2.1. -/
def ecAlgorithm : Bytes := [0x2A, 0x86, 0x48, 0xCE, 0x3D, 0x02, 0x01]

/-- The end of validity in milliseconds since the start of 1970. -/
def expirationMillis (certificate : Certificate) : Int :=
  certificate.notAfter * 1000

/-- The public key as the encoding of a point, when it lies on an elliptic curve. -/
def ecPoint (certificate : Certificate) : Option Bytes :=
  if certificate.keyAlgorithm = ecAlgorithm then some certificate.key else none

end Certificate

/-!
## Certificate chains

A chain is a byte string of certificates one after another, the one of the key first. It is read
whole or not at all.
-/

/-- A chain with its leaf and the certificates after it. -/
structure CertificateChain where
  /-- The first certificate, that of the key. -/
  leaf : Certificate
  /-- The certificates of the issuers. -/
  issuers : List Certificate
  deriving DecidableEq, Repr

namespace CertificateChain

/-- The certificates that follow one another to the end of the octets. -/
def readAll : (fuel : Nat) → Bytes → Option (List Certificate)
  | _, [] => some []
  | 0, _ :: _ => none
  | fuel + 1, bs =>
    match Certificate.read bs with
    | none => none
    | some (certificate, rest) => (readAll fuel rest).map (certificate :: ·)

/-- Parse a chain. Every certificate takes an octet, so the number of octets is fuel enough. -/
def parse (bs : Bytes) : Except ValidationFault CertificateChain :=
  match readAll bs.length bs with
  | none => .error .chainUnparsable
  | some [] => .error .chainEmpty
  | some (leaf :: issuers) => .ok { leaf, issuers }

/-- The number of certificates. -/
def length (chain : CertificateChain) : Nat := chain.issuers.length + 1

/-- The greatest number of milliseconds that is kept. -/
def maxMillis : Int := 0x7FFFFFFFFFFFFFFF

/-- The end of the leaf's validity in milliseconds since the start of 1970. -/
def leafExpirationMillis (chain : CertificateChain) : Except ValidationFault Int :=
  let millis := chain.leaf.expirationMillis
  if -maxMillis - 1 ≤ millis ∧ millis ≤ maxMillis then .ok millis else .error .chainUnparsable

/-- The point of the leaf's public key. -/
def leafEcPoint (chain : CertificateChain) : Except ValidationFault Bytes :=
  match chain.leaf.ecPoint with
  | some point => .ok point
  | none => .error .publicKeyNotEc

end CertificateChain

end KeyProvisioning
