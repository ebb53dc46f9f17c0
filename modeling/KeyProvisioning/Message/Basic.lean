import KeyProvisioning.Cbor.Item
import KeyProvisioning.Fault

/-!
# Messages of the provisioning server

A message is one array of a known number of elements. A policy for the device may be one of them.
-/

namespace KeyProvisioning

/-!
## Envelopes

Both messages of the provisioning server are one CBOR array of a known number of elements and
nothing after it. The checks here fail in a fixed order: the item itself, bytes after it, its
kind, its arity.
-/

namespace Message

open Cbor

/-- Read a message that is exactly one item. -/
def readWhole (bs : Bytes) : Except DecodeFault Item :=
  match Item.read bs with
  | none => .error .malformed
  | some (item, []) => .ok item
  | some (_, _ :: _) => .error .trailingBytes

/-- The elements of an array, with the fault to report for any other item. -/
def elementsOf (fault : DecodeFault) : Item → Except DecodeFault (List Item)
  | .array elements => .ok elements
  | _ => .error fault

/-- The content of a byte string, with the fault to report for any other item. -/
def bytesOf (fault : DecodeFault) : Item → Except DecodeFault Bytes
  | .bytes content => .ok content
  | _ => .error fault

/-- The elements of the array that a message consists of. -/
def topLevel (bs : Bytes) : Except DecodeFault (List Item) := do
  let item ← readWhole bs
  elementsOf .notAnArray item

end Message

/-!
## Policy sent by the server

A map of policy entries may accompany the encryption key. Entries under other keys are ignored,
an entry under a known key must have the right type and range, and of several entries under one
key the last one counts.
-/

/-- Policy sent by the server. An absent field leaves the stored value as it is. -/
structure DeviceConfig where
  /-- Signed keys to keep on hand beyond those in use; zero turns provisioning off. -/
  extraKeys : Option UInt32
  /-- Seconds between two cycles. -/
  refreshSeconds : Option UInt64
  /-- The server to use from the next cycle on. -/
  serverUrl : Option String
  deriving DecidableEq, Repr

namespace DeviceConfig

/-- The policy that changes nothing. -/
def empty : DeviceConfig := ⟨none, none, none⟩

/-- The whole seconds of an interval given in milliseconds. -/
def wholeSeconds (millis : UInt64) : UInt64 := millis / 1000

/-- The fields of the policy. -/
inductive Field
  | extraKeys
  | refreshHours
  | serverUrl
  deriving DecidableEq, Repr

/-- The key under which a field is sent. -/
def Field.key : Field → String
  | extraKeys => "num_extra_attestation_keys"
  | refreshHours => "time_to_refresh_hours"
  | serverUrl => "provisioning_url"

/-- The field that an item names as a key: only text names one. -/
def Field.ofKey? : Cbor.Item → Option Field
  | .text name => [extraKeys, refreshHours, serverUrl].find? fun field => field.key == name
  | _ => none

/-- The seconds in an hour. -/
def secondsPerHour : Nat := 3600

/-- Set one field to the value sent for it, if that has the field's type and range. -/
def set? (config : DeviceConfig) (field : Field) (value : Cbor.Item) : Option DeviceConfig :=
  match field with
  | .extraKeys =>
    match value.unsigned? with
    | some n =>
      if n < UInt32.size then some { config with extraKeys := some (UInt32.ofNat n) } else none
    | none => none
  | .refreshHours =>
    match value.unsigned? with
    | some hours =>
      if hours * secondsPerHour < UInt64.size then
        some { config with refreshSeconds := some (UInt64.ofNat (hours * secondsPerHour)) }
      else none
    | none => none
  | .serverUrl =>
    match value with
    | .text url => some { config with serverUrl := some url }
    | _ => none

/-- Take over one map entry. -/
def addEntry (config : DeviceConfig) (entry : Cbor.Item × Cbor.Item) :
    Except DecodeFault DeviceConfig :=
  match Field.ofKey? entry.1 with
  | none => .ok config
  | some field =>
    match config.set? field entry.2 with
    | some config' => .ok config'
    | none => .error .deviceConfigBadValue

/-- Take over map entries one after another. -/
def addEntries (config : DeviceConfig) : List (Cbor.Item × Cbor.Item) →
    Except DecodeFault DeviceConfig
  | [] => .ok config
  | entry :: rest =>
    match config.addEntry entry with
    | .ok config' => config'.addEntries rest
    | .error fault => .error fault

/-- The policy that a message element holds. -/
def ofItem : Cbor.Item → Except DecodeFault DeviceConfig
  | .map entries => empty.addEntries entries
  | _ => .error .deviceConfigNotMap

end DeviceConfig

end KeyProvisioning
