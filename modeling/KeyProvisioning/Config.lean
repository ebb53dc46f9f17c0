import KeyProvisioning.Disk
import KeyProvisioning.Fault
import KeyProvisioning.Toml.Document

/-!
# Configuration

The fixed tunables of a provisioner, read from a TOML document. Absent fields keep their defaults,
unknown fields are ignored, and a known field of another type or range refuses the whole document.
-/

namespace KeyProvisioning

/-- The tunables of a provisioner. -/
structure Config where
  /-- Whether to ask the custodian for test keys and test requests. -/
  testMode : Bool
  /-- Milliseconds between two key generations while the pool is not empty. -/
  pauseMillis : UInt64
  /-- The settings are reset once more failures than this follow one another. -/
  failureMaximum : UInt32
  connectTimeoutSeconds : UInt64
  requestTimeoutSeconds : UInt64
  /-- Whether a status that is no success fails a request. -/
  strictStatus : Bool
  deriving DecidableEq, Repr

namespace Config

/-- The tunables of an empty document. -/
def default : Config where
  testMode := false
  pauseMillis := 1000
  failureMaximum := 5
  connectTimeoutSeconds := 15
  requestTimeoutSeconds := 60
  strictStatus := true

/-- The tunables in the entries of a document. -/
def ofEntries (entries : Toml.Entries) : Option Config := do
  let testMode ← entries.field "test_mode" Toml.Node.boolean? default.testMode
  let pauseMillis ← entries.field "key_generation_pause_ms" Toml.Node.uint64? default.pauseMillis
  let failureMaximum ← entries.field "failure_maximum" Toml.Node.uint32? default.failureMaximum
  let connectTimeoutSeconds ←
    entries.field "connect_timeout_secs" Toml.Node.uint64? default.connectTimeoutSeconds
  let requestTimeoutSeconds ←
    entries.field "request_timeout_secs" Toml.Node.uint64? default.requestTimeoutSeconds
  let strictStatus ← entries.field "strict_http_status" Toml.Node.boolean? default.strictStatus
  return ⟨testMode, pauseMillis, failureMaximum, connectTimeoutSeconds, requestTimeoutSeconds,
    strictStatus⟩

/-- Read the tunables from a document. -/
def parse (text : String) : Except ConfigurationFault Config :=
  match (Toml.parse text).bind ofEntries with
  | some config => .ok config
  | none => .error .fileUnparsable

/-- Read the tunables from a file. -/
def load (entry : DiskEntry) : Except ConfigurationFault Config :=
  match entry.readText with
  | .ok text => parse text
  | .error _ => .error .fileUnreadable

end Config

end KeyProvisioning
