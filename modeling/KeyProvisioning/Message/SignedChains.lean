import KeyProvisioning.Message.Basic

/-!
# Signed certificate chains

The server answers a signing request with `[shared, [unique, ...]]`: each chain is one unique byte
string followed by the shared one.
-/

namespace KeyProvisioning

/-- Certificates one after another, that of the key first. -/
structure CertificateBlob where
  bytes : Bytes
  deriving DecidableEq, Repr

namespace CertificateBlob

/-- No certificate at all. -/
def empty : CertificateBlob := ⟨[]⟩

/-- The number of octets. -/
def length (blob : CertificateBlob) : Nat := blob.bytes.length

/-- Whether there is no octet. -/
def isEmpty (blob : CertificateBlob) : Bool := blob.bytes.isEmpty

end CertificateBlob

namespace SignedChains

open Message

/-- The chains that share a tail. -/
def ofParts (shared : Bytes) (unique : List Bytes) : List CertificateBlob :=
  unique.map fun certificate => ⟨certificate ++ shared⟩

/-- The chains of a message with these elements. -/
def ofElements (shared unique : Cbor.Item) : Except DecodeFault (List CertificateBlob) := do
  let shared ← bytesOf .sharedCertificatesNotBytes shared
  let unique ← elementsOf .uniqueCertificatesNotArray unique
  let unique ← unique.mapM (bytesOf .uniqueCertificateNotBytes)
  return ofParts shared unique

/-- Decode a message, reporting the first check that it does not pass. -/
def decode (bs : Bytes) : Except DecodeFault (List CertificateBlob) := do
  match ← topLevel bs with
  | [shared, unique] => ofElements shared unique
  | _ => .error .wrongArity

end SignedChains

end KeyProvisioning
