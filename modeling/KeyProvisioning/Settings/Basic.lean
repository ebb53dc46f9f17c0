import KeyProvisioning.Message.Basic
import KeyProvisioning.Toml.Document
import KeyProvisioning.Toml.Writer

/-!
# Settings

The state that outlives a provisioning cycle: the policy last sent by the server, the window in
which a key counts as expiring, and how many cycles failed in a row. The changes that a cycle
makes are data, so that a store can apply them.
-/

namespace KeyProvisioning

/-- The stored state of provisioning. -/
structure Settings where
  /-- Signed keys to keep on hand beyond those in use; zero turns provisioning off. -/
  extraKeys : UInt32
  /-- Keys whose certificate ends within this many milliseconds count as expiring. -/
  expiringByMillis : UInt64
  /-- Seconds between two cycles. -/
  refreshSeconds : UInt64
  /-- The base of the server's addresses. -/
  serverUrl : String
  /-- Failed cycles since the last one that succeeded. -/
  failures : UInt32
  deriving DecidableEq, Repr

namespace Settings

/-- The settings of a device on which nothing is stored. -/
def default : Settings where
  extraKeys := 6
  expiringByMillis := 259200000
  refreshSeconds := 86400
  serverUrl := "https://remoteprovisioning.googleapis.com"
  failures := 0

/-- Take over every field that the server sent. -/
def withDeviceConfig (settings : Settings) (config : DeviceConfig) : Settings :=
  { settings with
    extraKeys := config.extraKeys.getD settings.extraKeys
    refreshSeconds := config.refreshSeconds.getD settings.refreshSeconds
    serverUrl := config.serverUrl.getD settings.serverUrl }

/-- The next count of failures; the greatest count stays as it is. -/
def nextCount (count : UInt32) : UInt32 :=
  if count.toNat + 1 < UInt32.size then count + 1 else count

/-- Count one more failed cycle. -/
def withFailure (settings : Settings) : Settings :=
  { settings with failures := nextCount settings.failures }

/-- Start counting failed cycles anew. -/
def withoutFailures (settings : Settings) : Settings :=
  { settings with failures := 0 }

/-- Counting saturates at the greatest count. -/
theorem toNat_nextCount (count : UInt32) :
    (nextCount count).toNat = min (count.toNat + 1) (UInt32.size - 1) := by
  have hlt := count.toNat_lt
  have hsize : UInt32.size = 2 ^ 32 := rfl
  unfold nextCount
  split
  · rename_i h
    rw [UInt32.toNat_add, UInt32.toNat_one]
    omega
  · omega

end Settings

/-- A change that a cycle makes to the settings. -/
inductive SettingsChange
  | deviceConfig (config : DeviceConfig)
  | countFailure
  | resetFailures
  deriving DecidableEq, Repr

/-- The settings after a change. -/
def SettingsChange.apply (settings : Settings) : SettingsChange → Settings
  | deviceConfig config => settings.withDeviceConfig config
  | countFailure => settings.withFailure
  | resetFailures => settings.withoutFailures

/-- Fields to overwrite. -/
structure SettingsPatch where
  extraKeys : Option UInt32
  expiringByMillis : Option UInt64
  refreshSeconds : Option UInt64
  serverUrl : Option String
  failures : Option UInt32
  deriving DecidableEq, Repr

/-- The settings with the fields of a patch overwritten. -/
def SettingsPatch.apply (patch : SettingsPatch) (settings : Settings) : Settings where
  extraKeys := patch.extraKeys.getD settings.extraKeys
  expiringByMillis := patch.expiringByMillis.getD settings.expiringByMillis
  refreshSeconds := patch.refreshSeconds.getD settings.refreshSeconds
  serverUrl := patch.serverUrl.getD settings.serverUrl
  failures := patch.failures.getD settings.failures

/-!
## Settings as a document

Settings are kept as a TOML document with one line per field. Reading follows the rules of the
configuration: absent fields keep their defaults and unknown ones are ignored. A count above the
greatest integer of a document cannot be written.
-/

namespace Settings

/-- The settings in the entries of a document. -/
def ofEntries (entries : Toml.Entries) : Option Settings := do
  let extraKeys ← entries.field "extra_signed_keys_available" Toml.Node.uint32? default.extraKeys
  let expiringByMillis ← entries.field "expiring_by_ms" Toml.Node.uint64? default.expiringByMillis
  let refreshSeconds ←
    entries.field "refresh_interval_secs" Toml.Node.uint64? default.refreshSeconds
  let serverUrl ← entries.field "provisioning_url" Toml.Node.string? default.serverUrl
  let failures ← entries.field "failure_counter" Toml.Node.uint32? default.failures
  return ⟨extraKeys, expiringByMillis, refreshSeconds, serverUrl, failures⟩

/-- Read settings from a document. -/
def parse? (text : String) : Option Settings :=
  (Toml.parse text).bind ofEntries

/-- The document of settings, if every count can be written. -/
def render? (settings : Settings) : Option String := do
  let extraKeys ← Toml.Writer.writeCount? settings.extraKeys.toNat
  let expiringByMillis ← Toml.Writer.writeCount? settings.expiringByMillis.toNat
  let refreshSeconds ← Toml.Writer.writeCount? settings.refreshSeconds.toNat
  let failures ← Toml.Writer.writeCount? settings.failures.toNat
  return Toml.Writer.line "extra_signed_keys_available" extraKeys
    ++ Toml.Writer.line "expiring_by_ms" expiringByMillis
    ++ Toml.Writer.line "refresh_interval_secs" refreshSeconds
    ++ Toml.Writer.line "provisioning_url" (Toml.Writer.writeString settings.serverUrl)
    ++ Toml.Writer.line "failure_counter" failures

end Settings

end KeyProvisioning
