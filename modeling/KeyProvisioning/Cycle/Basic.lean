import KeyProvisioning.Cycle.Dialogue

/-!
# The provisioning cycle

One cycle loads the settings, asks the server for key material and takes over its policy, tops up
the pool of every component and has the keys that need it certified. The server can turn
provisioning off and on again.
-/

namespace KeyProvisioning

/-!
## Topping up a pool

At each security level the pool is counted once, and the missing key pairs are made one by one. The
stop signal is looked at before each of them, after a pause unless it is the first one or the pool
was empty. The answer is how many keys then need a signature.
-/

namespace Cycle

/-- Make the remaining key pairs; `delay` is the pause before every pair but the next one. -/
def generatePairs (testMode : Bool) (level : SecurityLevel) (delay : UInt64) :
    (remaining : Nat) → (wait : UInt64) → Procedure Unit
  | 0, _ => pure ()
  | remaining + 1, wait => do
    Procedure.pause wait
    Procedure.ask (.generateKeyPair testMode level)
    generatePairs testMode level delay remaining delay

/-- Top up the pool at a level to `extra` signed keys beyond those in use, and answer with the
number of keys that need a signature. -/
def generateKeys (config : Config) (now : Nat) (level : SecurityLevel) (window : UInt64)
    (extra : UInt32) : Procedure UInt32 := do
  let status ← Procedure.ask (.poolStatus (expirationHorizon now window) level)
  let deficit := status.deficit extra
  let count := deficit.keysToGenerate
  let delay := if status.total = 0 then 0 else config.pauseMillis
  generatePairs config.testMode level delay count.toNat 0
  return deficit.keysToSign count

/-!
## Having keys certified

The custodian makes one signing request for a number of keys, the server signs it, and the chains
that come back are checked and stored in their order. The first chain that is not acceptable or not
accepted ends the batch; chains stored before it stay stored.
-/

/-- Check and store chains in their order, and count them. -/
def storeChains (level : SecurityLevel) : List CertificateBlob → Procedure Nat
  | [] => pure 0
  | blob :: rest => do
    let record ← Procedure.ofResult (KeyRecord.ofChain blob level)
    Procedure.ask (.provisionChain record)
    return (← storeChains level rest) + 1

/-- Have `count` keys at a level certified, and answer with the number of chains stored. -/
def certify (config : Config) (count : UInt32) (level : SecurityLevel) (response : KeyResponse)
    (base : String) : Procedure Nat := do
  if count = 0 then throw (ConfigurationFault.tooFewKeys : Fault)
  let csr ← Procedure.ask
    (.generateCsr config.testMode count response.keyMaterial response.challenge level)
  if csr.isEmpty then throw (CustodianFault.emptyCsr : Fault)
  Procedure.check
  let signed ← Procedure.ask (.sign base csr response.challenge)
  let chains ← Procedure.ofResult (SignedChains.decode signed)
  storeChains level chains

end Cycle

/-!
## From the settings to the outcome

The first fault ends what a cycle does, and what the fault is tells what is left to do. A failure
of the server, of its messages or of the custodian is counted, and too many of them in a row
reset the settings.
-/

/-- How a cycle ended. -/
inductive CycleOutcome
  /-- Done until the next periodic cycle. -/
  | completed
  /-- Broken off; run again. -/
  | rescheduleRequested
  /-- The server turned provisioning off. -/
  | disabled
  deriving DecidableEq, Repr

namespace CycleOutcome

/-- Whether the scheduler should run a cycle again soon. -/
def wantsReschedule (outcome : CycleOutcome) : Bool :=
  outcome = rescheduleRequested

/-- The name of the outcome. -/
def label : CycleOutcome → String
  | completed => "Completed"
  | rescheduleRequested => "RescheduleRequested"
  | disabled => "Disabled"

end CycleOutcome

namespace Cycle

/-- Whether a fault says that stored settings are there but cannot be used. -/
def isUnusable (fault : Fault) : Bool :=
  fault = (SettingsFault.read : Fault) || fault = (SettingsFault.parse : Fault)

/-- The settings a cycle begins with. Unusable ones are reset, so that a damaged store does not
stall provisioning. -/
def snapshot : Procedure Settings :=
  tryCatch (Procedure.ask .loadSettings) fun fault =>
    if isUnusable fault then do
      Procedure.ask .clearSettings
      Procedure.ask .loadSettings
    else throw fault

/-- Ask the server for key material. -/
def fetchResponse (base : String) : Procedure KeyResponse := do
  Procedure.check
  let bytes ← Procedure.ask (.fetchKeys base)
  Procedure.ofResult (KeyResponse.decode bytes)

/-- Top up the pool of each component, and pair its level with the number of keys that need a
signature. -/
def generateAll (config : Config) (now : Nat) (settings : Settings) :
    List Implementation → Procedure (List (SecurityLevel × UInt32))
  | [] => pure []
  | implementation :: rest => do
    let level := implementation.level
    let count ← generateKeys config now level settings.expiringByMillis settings.extraKeys
    return (level, count) :: (← generateAll config now settings rest)

/-- Have the keys of each level certified that needs it. -/
def certifyAll (config : Config) (response : KeyResponse) (base : String) :
    List (SecurityLevel × UInt32) → Procedure Unit
  | [] => pure ()
  | (level, count) :: rest => do
    if 0 < count then
      let _ ← certify config count level response base
    certifyAll config response base rest

/-- Whether provisioning is off and stays off. -/
def staysOff (settings : Settings) (config : DeviceConfig) : Bool :=
  settings.extraKeys = 0 && config.extraKeys.all (· = 0)

/-- Top up all pools and have the keys certified, then start counting failures anew. -/
def replenish (config : Config) (now : Nat) (settings : Settings) (response : KeyResponse)
    (base : String) : Procedure CycleOutcome := do
  let implementations ← Procedure.ask .implementations
  if implementations.isEmpty then throw (CustodianFault.noImplementations : Fault)
  let needed ← generateAll config now settings implementations
  certifyAll config response base needed
  let _ ← Procedure.ask (.updateSettings .resetFailures)
  return .completed

/-- Delete all keys. That the custodian fails to do so changes nothing. -/
def deleteKeys : Procedure CycleOutcome := do
  let _ ← tryCatch (Procedure.ask .deleteAllKeys) fun _ => pure 0
  return .disabled

/-- One cycle, up to the first fault. The server's address is that of the settings at the
beginning, its other directions apply at once. -/
def attempt (config : Config) (now : Nat) : Procedure CycleOutcome := do
  let before ← snapshot
  let response ← fetchResponse before.serverUrl
  if staysOff before response.config then return .completed
  let settings ← Procedure.ask (.updateSettings (.deviceConfig response.config))
  if response.config.extraKeys = some 0 then deleteKeys
  else replenish config now settings response before.serverUrl

/-- Count a failure, and reset the settings once there are too many. Faults of the store change
nothing. -/
def recordFailure (config : Config) : Dialogue Unit :=
  .ask (.updateSettings .countFailure) fun
    | .ok settings =>
      if config.failureMaximum < settings.failures then .ask .clearSettings fun _ => .finish ()
      else .finish ()
    | .error _ => .finish ()

/-- Every fault asks for another cycle; some are counted. -/
def handleFault (config : Config) (fault : Fault) : Dialogue CycleOutcome := do
  if fault.counted then recordFailure config
  return .rescheduleRequested

/-- One cycle. -/
def run (config : Config) (now : Nat) : Dialogue CycleOutcome := do
  match ← (attempt config now).run with
  | .ok outcome => return outcome
  | .error fault => handleFault config fault

end Cycle

end KeyProvisioning
