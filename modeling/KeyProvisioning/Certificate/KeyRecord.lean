import KeyProvisioning.Certificate.Basic
import KeyProvisioning.Message.SignedChains
import KeyProvisioning.SecurityLevel

/-!
# Key records

A signed chain becomes the record that is handed back to the custodian: the leaf's public key
without the octet that tells its form, the chain as it came, and the end of the leaf's validity.
-/

namespace KeyProvisioning

/-- The two coordinates of a public key, without the octet in front that tells the form. -/
structure RawPublicKey where
  bytes : Bytes
  length_eq : bytes.length = 64
  deriving DecidableEq

namespace RawPublicKey

/-- The octet in front of a point whose coordinates are both written out. -/
def uncompressedForm : UInt8 := 4

/-- The key of an encoded point: 64 octets after one of any value. -/
def ofPoint : Bytes → Except ValidationFault RawPublicKey
  | [] => .error .publicKeyLength
  | _ :: coordinates =>
    if h : coordinates.length = 64 then .ok ⟨coordinates, h⟩ else .error .publicKeyLength

/-- The number of warnings about a point whose length is right: one when its form is another than
the uncompressed one. -/
def formWarnings : Bytes → Nat
  | [] => 0
  | form :: _ => if form = uncompressedForm then 0 else 1

end RawPublicKey

/-- A signed key, ready to be handed back to the custodian. -/
structure KeyRecord where
  publicKey : RawPublicKey
  /-- The chain as it came from the server. -/
  chain : CertificateBlob
  /-- The end of the leaf's validity in milliseconds since the start of 1970. -/
  expirationMillis : Int
  level : SecurityLevel
  deriving DecidableEq

namespace KeyRecord

/-- The record of a signed chain, or the first check that the chain does not pass. -/
def ofChain (blob : CertificateBlob) (level : SecurityLevel) :
    Except ValidationFault KeyRecord := do
  let chain ← CertificateChain.parse blob.bytes
  let expirationMillis ← chain.leafExpirationMillis
  let point ← chain.leafEcPoint
  let publicKey ← RawPublicKey.ofPoint point
  return { publicKey, chain := blob, expirationMillis, level }

end KeyRecord

end KeyProvisioning
