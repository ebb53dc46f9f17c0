import KeyProvisioning.Cbor.Head
import KeyProvisioning.Message.Basic

/-!
# The encryption key response

The server answers a key request with the chain of its encryption key, a challenge and, if it
likes, a policy: `[[chain entry, ...], challenge]` or `[[chain entry, ...], challenge, policy]`.
The chain is handed on as an array of byte strings in its shortest form.
-/

namespace KeyProvisioning

/-- A decoded encryption key response. -/
structure KeyResponse where
  /-- The chain of the encryption key as the custodian expects it. -/
  keyMaterial : Bytes
  /-- The challenge to which a certificate request is bound. -/
  challenge : Bytes
  /-- The policy sent along. -/
  config : DeviceConfig
  deriving DecidableEq, Repr

namespace KeyResponse

open Message

/-- The byte strings of a key chain. -/
def chainEntries (chain : Cbor.Item) : Except DecodeFault (List Bytes) := do
  let entries ← elementsOf .keyChainNotArray chain
  entries.mapM (bytesOf .keyChainEntryNotBytes)

/-- The response with these elements. -/
def ofElements (chain challenge : Cbor.Item) (config : Option Cbor.Item) :
    Except DecodeFault KeyResponse := do
  let entries ← chainEntries chain
  let challenge ← bytesOf .challengeNotBytes challenge
  let config ← match config with
    | some item => DeviceConfig.ofItem item
    | none => .ok DeviceConfig.empty
  return { keyMaterial := Cbor.writeByteStrings entries, challenge, config }

/-- Decode a response, reporting the first check that it does not pass. -/
def decode (bs : Bytes) : Except DecodeFault KeyResponse := do
  match ← topLevel bs with
  | [chain, challenge] => ofElements chain challenge none
  | [chain, challenge, config] => ofElements chain challenge (some config)
  | _ => .error .wrongArity

end KeyResponse

end KeyProvisioning
