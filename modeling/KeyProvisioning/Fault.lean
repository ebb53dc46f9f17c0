import KeyProvisioning.Text.Digits

/-!
# Faults

Every failure is reported as a nonzero code of 32 bits. The upper half of the code names the class
of the failure and decides whether a provisioning cycle counts it; the lower half numbers the cause
within its class. The causes that this library raises itself are listed here with their names and
descriptions; collaborators may answer with any other code, which then has a class but no cause.
-/

namespace KeyProvisioning

/-- The class of a fault. -/
inductive FaultClass
  /-- A caller's mistake. -/
  | configuration
  /-- The exchange with the provisioning server failed. -/
  | transport
  /-- A server's message has the wrong form. -/
  | decode
  /-- The component that keeps the keys refused. -/
  | custodian
  /-- A certificate chain is not acceptable. -/
  | validation
  /-- The stored settings cannot be read or written. -/
  | settings
  /-- The scheduler asked to stop. -/
  | cancelled
  /-- The scheduler could not start work. -/
  | scheduler
  /-- No class has this number. -/
  | unknown
  deriving DecidableEq, Repr

namespace FaultClass

/-- The class with a given number. -/
def ofNumber (n : UInt32) : FaultClass :=
  if n = 1 then configuration
  else if n = 2 then transport
  else if n = 3 then decode
  else if n = 4 then custodian
  else if n = 5 then validation
  else if n = 6 then settings
  else if n = 7 then cancelled
  else if n = 8 then scheduler
  else unknown

/-- The display name of the class. -/
def label : FaultClass → String
  | configuration => "Configuration"
  | transport => "Transport"
  | decode => "Decode"
  | custodian => "Custodian"
  | validation => "Validation"
  | settings => "Settings"
  | cancelled => "Cancelled"
  | scheduler => "Scheduler"
  | unknown => "Unknown"

/-- Faults of the server, of its messages and of the custodian count toward the failure limit. -/
def counted : FaultClass → Bool
  | transport | decode | custodian => true
  | _ => false

end FaultClass

/-- What is wrong with a request of the caller. -/
inductive ConfigurationFault
  | tooFewKeys
  | fileUnreadable
  | fileUnparsable
  deriving DecidableEq, Repr

/-- Where an exchange with the provisioning server broke. -/
inductive TransportFault
  | clientBuild
  | invalidUrl
  | requestFailed
  | badStatus
  | bodyRead
  deriving DecidableEq, Repr

/-- The first check that a server's message does not pass. -/
inductive DecodeFault
  | malformed
  | trailingBytes
  | notAnArray
  | wrongArity
  | keyChainNotArray
  | keyChainEntryNotBytes
  | challengeNotBytes
  | deviceConfigNotMap
  | deviceConfigBadValue
  | sharedCertificatesNotBytes
  | uniqueCertificatesNotArray
  | uniqueCertificateNotBytes
  | reencodeFailed
  deriving DecidableEq, Repr

/-- The request that the custodian could not serve. -/
inductive CustodianFault
  | generateKeyPair
  | generateCsr
  | emptyCsr
  | poolStatus
  | provisionChain
  | deleteAllKeys
  | implementationInfo
  | noImplementations
  deriving DecidableEq, Repr

/-- Why a certificate chain is not accepted. -/
inductive ValidationFault
  | chainUnparsable
  | chainEmpty
  | publicKeyNotEc
  | publicKeyLength
  deriving DecidableEq, Repr

/-- Why stored settings are out of reach. -/
inductive SettingsFault
  | read
  | write
  | parse
  | lockPoisoned
  deriving DecidableEq, Repr

/-- A failure that this library itself can report. -/
inductive Cause
  | configuration (reason : ConfigurationFault)
  | transport (reason : TransportFault)
  | decode (reason : DecodeFault)
  | custodian (reason : CustodianFault)
  | validation (reason : ValidationFault)
  | settings (reason : SettingsFault)
  | cycleCancelled
  | workerSpawn
  deriving DecidableEq, Repr

namespace Cause

/-- Every cause, in the order of their codes. -/
def all : List Cause := [
  .configuration .tooFewKeys, .configuration .fileUnreadable, .configuration .fileUnparsable,
  .transport .clientBuild, .transport .invalidUrl, .transport .requestFailed,
  .transport .badStatus, .transport .bodyRead,
  .decode .malformed, .decode .trailingBytes, .decode .notAnArray, .decode .wrongArity,
  .decode .keyChainNotArray, .decode .keyChainEntryNotBytes, .decode .challengeNotBytes,
  .decode .deviceConfigNotMap, .decode .deviceConfigBadValue,
  .decode .sharedCertificatesNotBytes, .decode .uniqueCertificatesNotArray,
  .decode .uniqueCertificateNotBytes, .decode .reencodeFailed,
  .custodian .generateKeyPair, .custodian .generateCsr, .custodian .emptyCsr,
  .custodian .poolStatus, .custodian .provisionChain, .custodian .deleteAllKeys,
  .custodian .implementationInfo, .custodian .noImplementations,
  .validation .chainUnparsable, .validation .chainEmpty, .validation .publicKeyNotEc,
  .validation .publicKeyLength,
  .settings .read, .settings .write, .settings .parse, .settings .lockPoisoned,
  .cycleCancelled, .workerSpawn]

/-- The code of a cause: its class above, its place in the class below. -/
def code : Cause → UInt32
  | .configuration .tooFewKeys => 0x00010001
  | .configuration .fileUnreadable => 0x00010002
  | .configuration .fileUnparsable => 0x00010003
  | .transport .clientBuild => 0x00020001
  | .transport .invalidUrl => 0x00020002
  | .transport .requestFailed => 0x00020003
  | .transport .badStatus => 0x00020004
  | .transport .bodyRead => 0x00020005
  | .decode .malformed => 0x00030001
  | .decode .trailingBytes => 0x00030002
  | .decode .notAnArray => 0x00030003
  | .decode .wrongArity => 0x00030004
  | .decode .keyChainNotArray => 0x00030005
  | .decode .keyChainEntryNotBytes => 0x00030006
  | .decode .challengeNotBytes => 0x00030007
  | .decode .deviceConfigNotMap => 0x00030008
  | .decode .deviceConfigBadValue => 0x00030009
  | .decode .sharedCertificatesNotBytes => 0x0003000a
  | .decode .uniqueCertificatesNotArray => 0x0003000b
  | .decode .uniqueCertificateNotBytes => 0x0003000c
  | .decode .reencodeFailed => 0x0003000d
  | .custodian .generateKeyPair => 0x00040001
  | .custodian .generateCsr => 0x00040002
  | .custodian .emptyCsr => 0x00040003
  | .custodian .poolStatus => 0x00040004
  | .custodian .provisionChain => 0x00040005
  | .custodian .deleteAllKeys => 0x00040006
  | .custodian .implementationInfo => 0x00040007
  | .custodian .noImplementations => 0x00040008
  | .validation .chainUnparsable => 0x00050001
  | .validation .chainEmpty => 0x00050002
  | .validation .publicKeyNotEc => 0x00050003
  | .validation .publicKeyLength => 0x00050004
  | .settings .read => 0x00060001
  | .settings .write => 0x00060002
  | .settings .parse => 0x00060003
  | .settings .lockPoisoned => 0x00060004
  | .cycleCancelled => 0x00070001
  | .workerSpawn => 0x00080001

/-- The name under which a cause is reported. -/
def label : Cause → String
  | .configuration .tooFewKeys => "CONFIG_NUM_KEYS_TOO_SMALL"
  | .configuration .fileUnreadable => "CONFIG_FILE_READ"
  | .configuration .fileUnparsable => "CONFIG_FILE_PARSE"
  | .transport .clientBuild => "TRANSPORT_CLIENT_BUILD"
  | .transport .invalidUrl => "TRANSPORT_INVALID_URL"
  | .transport .requestFailed => "TRANSPORT_REQUEST_FAILED"
  | .transport .badStatus => "TRANSPORT_BAD_STATUS"
  | .transport .bodyRead => "TRANSPORT_BODY_READ"
  | .decode .malformed => "DECODE_MALFORMED_CBOR"
  | .decode .trailingBytes => "DECODE_TRAILING_BYTES"
  | .decode .notAnArray => "DECODE_NOT_AN_ARRAY"
  | .decode .wrongArity => "DECODE_WRONG_ARITY"
  | .decode .keyChainNotArray => "DECODE_EEK_CHAIN_NOT_ARRAY"
  | .decode .keyChainEntryNotBytes => "DECODE_EEK_CHAIN_ENTRY_NOT_BSTR"
  | .decode .challengeNotBytes => "DECODE_CHALLENGE_NOT_BSTR"
  | .decode .deviceConfigNotMap => "DECODE_DEVICE_CONFIG_NOT_MAP"
  | .decode .deviceConfigBadValue => "DECODE_DEVICE_CONFIG_BAD_VALUE"
  | .decode .sharedCertificatesNotBytes => "DECODE_SHARED_CERTS_NOT_BSTR"
  | .decode .uniqueCertificatesNotArray => "DECODE_UNIQUE_CERTS_NOT_ARRAY"
  | .decode .uniqueCertificateNotBytes => "DECODE_UNIQUE_CERT_NOT_BSTR"
  | .decode .reencodeFailed => "DECODE_REENCODE_FAILED"
  | .custodian .generateKeyPair => "CUSTODIAN_GENERATE_KEY_PAIR"
  | .custodian .generateCsr => "CUSTODIAN_GENERATE_CSR"
  | .custodian .emptyCsr => "CUSTODIAN_EMPTY_CSR"
  | .custodian .poolStatus => "CUSTODIAN_POOL_STATUS"
  | .custodian .provisionChain => "CUSTODIAN_PROVISION_CERT_CHAIN"
  | .custodian .deleteAllKeys => "CUSTODIAN_DELETE_ALL_KEYS"
  | .custodian .implementationInfo => "CUSTODIAN_IMPLEMENTATION_INFO"
  | .custodian .noImplementations => "CUSTODIAN_NO_IMPLEMENTATIONS"
  | .validation .chainUnparsable => "VALIDATION_CERT_CHAIN_PARSE"
  | .validation .chainEmpty => "VALIDATION_EMPTY_CERT_CHAIN"
  | .validation .publicKeyNotEc => "VALIDATION_PUBLIC_KEY_NOT_EC"
  | .validation .publicKeyLength => "VALIDATION_PUBLIC_KEY_LENGTH"
  | .settings .read => "SETTINGS_READ"
  | .settings .write => "SETTINGS_WRITE"
  | .settings .parse => "SETTINGS_PARSE"
  | .settings .lockPoisoned => "SETTINGS_LOCK_POISONED"
  | .cycleCancelled => "CYCLE_CANCELLED"
  | .workerSpawn => "SCHEDULER_WORKER_SPAWN"

/-- One sentence on the cause for a reader of the report. -/
def description : Cause → String
  | .configuration .tooFewKeys => "Configuration Error: at least one key must be requested"
  | .configuration .fileUnreadable => "Configuration Error: unable to read configuration file"
  | .configuration .fileUnparsable => "Configuration Error: unable to parse configuration file"
  | .transport .clientBuild => "Transport Error: unable to build HTTP client"
  | .transport .invalidUrl => "Transport Error: invalid provisioning server URL"
  | .transport .requestFailed => "Transport Error: request to provisioning server failed"
  | .transport .badStatus =>
    "Transport Error: provisioning server returned a non-success status"
  | .transport .bodyRead => "Transport Error: unable to read response body"
  | .decode .malformed => "Decode Error: response is not well-formed CBOR"
  | .decode .trailingBytes => "Decode Error: bytes remain after the top-level data item"
  | .decode .notAnArray => "Decode Error: top-level data item is not an array"
  | .decode .wrongArity => "Decode Error: top-level array has the wrong number of elements"
  | .decode .keyChainNotArray => "Decode Error: encryption key chain is not an array"
  | .decode .keyChainEntryNotBytes =>
    "Decode Error: encryption key chain entry is not a byte string"
  | .decode .challengeNotBytes => "Decode Error: challenge is not a byte string"
  | .decode .deviceConfigNotMap => "Decode Error: device config is not a map"
  | .decode .deviceConfigBadValue => "Decode Error: device config entry has the wrong type"
  | .decode .sharedCertificatesNotBytes =>
    "Decode Error: shared certificates are not a byte string"
  | .decode .uniqueCertificatesNotArray => "Decode Error: unique certificates are not an array"
  | .decode .uniqueCertificateNotBytes =>
    "Decode Error: unique certificate entry is not a byte string"
  | .decode .reencodeFailed => "Decode Error: unable to re-encode encryption key chain"
  | .custodian .generateKeyPair => "Custodian Error: key pair generation failed"
  | .custodian .generateCsr => "Custodian Error: CSR generation failed"
  | .custodian .emptyCsr => "Custodian Error: CSR payload is empty"
  | .custodian .poolStatus => "Custodian Error: unable to read attestation pool status"
  | .custodian .provisionChain => "Custodian Error: unable to store certificate chain"
  | .custodian .deleteAllKeys => "Custodian Error: unable to delete attestation keys"
  | .custodian .implementationInfo => "Custodian Error: unable to read implementation info"
  | .custodian .noImplementations =>
    "Custodian Error: no remotely provisioned components registered"
  | .validation .chainUnparsable => "Validation Error: unable to parse DER certificate chain"
  | .validation .chainEmpty => "Validation Error: certificate chain is empty"
  | .validation .publicKeyNotEc => "Validation Error: leaf public key is not an EC key"
  | .validation .publicKeyLength => "Validation Error: leaf public key is not 65 bytes"
  | .settings .read => "Settings Error: unable to read settings"
  | .settings .write => "Settings Error: unable to write settings"
  | .settings .parse => "Settings Error: unable to parse settings"
  | .settings .lockPoisoned => "Settings Error: settings lock poisoned"
  | .cycleCancelled => "Cycle Error: stop requested by scheduler"
  | .workerSpawn => "Scheduler Error: unable to spawn provisioning worker"

theorem mem_all (cause : Cause) : cause ∈ all := by
  cases cause with
  | configuration r => cases r <;> decide
  | transport r => cases r <;> decide
  | decode r => cases r <;> decide
  | custodian r => cases r <;> decide
  | validation r => cases r <;> decide
  | settings r => cases r <;> decide
  | cycleCancelled => decide
  | workerSpawn => decide

theorem code_ne_zero (cause : Cause) : cause.code ≠ 0 := by
  have h : ∀ c ∈ all, c.code ≠ 0 := by decide
  exact h cause (mem_all cause)

/-- No two causes share a code. -/
theorem code_injective {a b : Cause} (h : a.code = b.code) : a = b := by
  have all_distinct : ∀ c ∈ all, ∀ d ∈ all, c.code = d.code → c = d := by decide
  exact all_distinct a (mem_all a) b (mem_all b) h

end Cause

/-- A reported failure: a code that is not zero. -/
structure Fault where
  /-- The code, class above and cause below. -/
  code : UInt32
  code_ne_zero : code ≠ 0
  deriving DecidableEq

namespace Fault

/-- The fault with a given code; zero is no fault. -/
def ofCode? (code : UInt32) : Option Fault :=
  if h : code = 0 then none else some ⟨code, h⟩

/-- The fault that reports a cause. -/
def ofCause (cause : Cause) : Fault :=
  ⟨cause.code, cause.code_ne_zero⟩

/-- The cause with this fault's code, for the codes that have one. -/
def cause? (fault : Fault) : Option Cause :=
  Cause.all.find? fun cause => cause.code == fault.code

/-- The fault reported under a given name. -/
def ofLabel? (label : String) : Option Fault :=
  (Cause.all.find? fun cause => cause.label == label).map ofCause

/-- The class of a fault is named by the upper half of its code. -/
def faultClass (fault : Fault) : FaultClass :=
  .ofNumber (fault.code >>> 16)

/-- Whether a cycle that ends in this fault counts as a failed one. -/
def counted (fault : Fault) : Bool :=
  fault.faultClass.counted

/-- The code as eight hexadecimal digits. -/
def codeText (fault : Fault) : String :=
  "0x" ++ String.ofList (Hex.fixed Hex.lowerDigit 8 fault.code.toNat)

/-- The name of the fault: that of its cause, else its code. -/
def label (fault : Fault) : String :=
  match fault.cause? with
  | some cause => cause.label
  | none => fault.codeText

/-- The text that reports the fault. -/
def message (fault : Fault) : String :=
  match fault.cause? with
  | some cause => cause.label ++ " (" ++ fault.codeText ++ "): " ++ cause.description
  | none => "unknown error " ++ fault.codeText

/-- A fault raised for a cause is traced back to that cause. -/
@[simp] theorem cause?_ofCause (cause : Cause) : (ofCause cause).cause? = some cause := by
  unfold cause?
  cases h : Cause.all.find? fun c => c.code == (ofCause cause).code with
  | none =>
    have := List.find?_eq_none.1 h cause (Cause.mem_all cause)
    simp [ofCause] at this
  | some c =>
    have := List.find?_some h
    exact congrArg some (Cause.code_injective (by simpa [ofCause] using this))

theorem ofCause_injective {a b : Cause} (h : ofCause a = ofCause b) : a = b :=
  Cause.code_injective (congrArg code h)

end Fault

instance : Coe Cause Fault := ⟨Fault.ofCause⟩
instance : Coe ConfigurationFault Fault := ⟨fun r => .ofCause (.configuration r)⟩
instance : Coe TransportFault Fault := ⟨fun r => .ofCause (.transport r)⟩
instance : Coe DecodeFault Fault := ⟨fun r => .ofCause (.decode r)⟩
instance : Coe CustodianFault Fault := ⟨fun r => .ofCause (.custodian r)⟩
instance : Coe ValidationFault Fault := ⟨fun r => .ofCause (.validation r)⟩
instance : Coe SettingsFault Fault := ⟨fun r => .ofCause (.settings r)⟩

end KeyProvisioning
