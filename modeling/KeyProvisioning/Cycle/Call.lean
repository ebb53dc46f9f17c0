import KeyProvisioning.Certificate.KeyRecord
import KeyProvisioning.Config
import KeyProvisioning.Fault
import KeyProvisioning.Message.KeyResponse
import KeyProvisioning.Message.SignedChains
import KeyProvisioning.Pool
import KeyProvisioning.Settings.Basic

/-!
# Calls of a provisioning cycle

A cycle works through three collaborators: the custodian that keeps the keys, the provisioning
server and the store of settings. Every call to one of them is data, with a type for its answer.
-/

namespace KeyProvisioning

/-- A component that keeps keys. -/
structure Implementation where
  level : SecurityLevel
  /-- The number of the curve that its requests are encrypted with. -/
  curve : UInt32
  deriving DecidableEq, Repr

/-- A call to a collaborator. -/
inductive Call
  /-- Make a signing request for so many unsigned keys. -/
  | generateCsr (testMode : Bool) (count : UInt32) (keyMaterial challenge : Bytes)
      (level : SecurityLevel)
  /-- Make one more key pair. -/
  | generateKeyPair (testMode : Bool) (level : SecurityLevel)
  /-- Count the keys, taking those that end before the horizon as expiring. -/
  | poolStatus (horizon : Nat) (level : SecurityLevel)
  /-- Store a signed chain. -/
  | provisionChain (record : KeyRecord)
  /-- Drop every key. -/
  | deleteAllKeys
  /-- List the components. -/
  | implementations
  /-- Ask the server for key material. -/
  | fetchKeys (base : String)
  /-- Have the server sign. -/
  | sign (base : String) (csr challenge : Bytes)
  | loadSettings
  | updateSettings (change : SettingsChange)
  | clearSettings
  deriving DecidableEq

namespace Call

/-- What the collaborator answers when it does not fail. -/
abbrev Answer : Call → Type
  | generateCsr .. | fetchKeys _ | sign .. => Bytes
  | generateKeyPair .. | provisionChain _ | clearSettings => Unit
  | poolStatus .. => PoolStatus
  | deleteAllKeys => UInt32
  | implementations => List Implementation
  | loadSettings | updateSettings _ => Settings

end Call

/-- What a collaborator does with a call. -/
inductive Reply (α : Type)
  | answered (result : Except Fault α)
  /-- It takes the whole cycle down. -/
  | crashed

/-- How a call ended. -/
inductive CallEnd
  | succeeded
  | failed (fault : Fault)
  | crashed
  deriving DecidableEq

/-- How the call with a reply ended. -/
def Reply.callEnd {α : Type} : Reply α → CallEnd
  | answered (.ok _) => .succeeded
  | answered (.error fault) => .failed fault
  | crashed => .crashed

/-- A call that was made, and its end. -/
structure Event where
  call : Call
  callEnd : CallEnd
  deriving DecidableEq

end KeyProvisioning
