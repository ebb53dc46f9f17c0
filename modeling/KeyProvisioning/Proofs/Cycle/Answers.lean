import KeyProvisioning.Cycle.Basic
import KeyProvisioning.Proofs.Cycle.Plan

/-!
# The plan of a cycle

What the collaborators answer to a cycle fixes its plan. Every pool is counted and topped up before
any key is certified, and the numbers of pairs to generate and of keys to certify are those of the
status that the pool reported and of the settings after this cycle's update.
-/

namespace KeyProvisioning.Cycle

/-- A component with the status of its pool. -/
structure CountedPool where
  implementation : Implementation
  status : PoolStatus

namespace CountedPool

/-- The key pairs that the pool is short of. -/
def missing (pool : CountedPool) (extra : UInt32) : UInt32 :=
  (pool.status.deficit extra).keysToGenerate

/-- The keys that need a signature once the missing pairs are there. -/
def unsigned (pool : CountedPool) (extra : UInt32) : UInt32 :=
  (pool.status.deficit extra).keysToSign (pool.missing extra)

/-- Count the pool, then generate what is missing. -/
def topUp (config : Config) (now : Nat) (settings : Settings) (pool : CountedPool) : Plan :=
  .ok ⟨.poolStatus (expirationHorizon now settings.expiringByMillis) pool.implementation.level,
    .answered (.ok pool.status)⟩ ::
  List.replicate (pool.missing settings.extraKeys).toNat
    (.ok ⟨.generateKeyPair config.testMode pool.implementation.level, .answered (.ok ())⟩)

end CountedPool

/-- Store a chain, which must be acceptable. -/
def storing (level : SecurityLevel) (blob : CertificateBlob) : Except Fault Turn :=
  match KeyRecord.ofChain blob level with
  | .ok record => .ok ⟨.provisionChain record, .answered (.ok ())⟩
  | .error reason => .error reason

/-- Storing a chain calls the custodian with the record of an acceptable chain. -/
theorem eq_of_storing_eq_ok {level : SecurityLevel} {blob : CertificateBlob} {turn : Turn}
    (h : storing level blob = .ok turn) :
    ∃ record, KeyRecord.ofChain blob level = .ok record ∧
      turn = ⟨.provisionChain record, .answered (.ok ())⟩ := by
  rw [storing] at h
  cases hrecord : KeyRecord.ofChain blob level with
  | ok record =>
    rw [hrecord] at h
    cases h
    exact ⟨record, rfl, rfl⟩
  | error reason =>
    rw [hrecord] at h
    cases h

/-- What is answered about the keys of one level. -/
structure Signing where
  csr : Bytes
  csr_ne_nil : csr ≠ []
  /-- The server's answer to the request. -/
  signed : Bytes
  chains : List CertificateBlob
  decode_signed : SignedChains.decode signed = .ok chains

instance : Inhabited Signing :=
  ⟨⟨[0], nofun, [0x82, 0x40, 0x80], [], by rfl⟩⟩

/-- Request signatures for so many keys, then store the chains. -/
def Signing.plan (config : Config) (count : UInt32) (level : SecurityLevel)
    (response : KeyResponse) (base : String) (signing : Signing) : Plan :=
  .ok ⟨.generateCsr config.testMode count response.keyMaterial response.challenge level,
    .answered (.ok signing.csr)⟩ ::
  .ok ⟨.sign base signing.csr response.challenge, .answered (.ok signing.signed)⟩ ::
  signing.chains.map (storing level)

/-- A counted pool with what is answered about its unsigned keys. -/
structure Batch where
  pool : CountedPool
  signing : Signing

/-- Have the unsigned keys of a pool certified, if there are any. -/
def Batch.certification (config : Config) (settings : Settings) (response : KeyResponse)
    (base : String) (batch : Batch) : Plan :=
  if 0 < batch.pool.unsigned settings.extraKeys then
    batch.signing.plan config (batch.pool.unsigned settings.extraKeys)
      batch.pool.implementation.level response base
  else []

/-- Top up all pools, then have all unsigned keys certified. -/
def provisioning (config : Config) (now : Nat) (settings : Settings) (response : KeyResponse)
    (base : String) (batches : List Batch) : Plan :=
  .ok ⟨.implementations, .answered (.ok (batches.map (·.pool.implementation)))⟩ ::
  (batches.flatMap (fun batch => batch.pool.topUp config now settings) ++
    batches.flatMap (Batch.certification config settings response base))

/-- The calls by which keys are generated and certified. -/
def Provisions : Call → Prop
  | .implementations | .poolStatus .. | .generateKeyPair .. | .generateCsr .. | .sign ..
  | .provisionChain _ => True
  | _ => False

theorem Provisions.isStore_eq_false {call : Call} (h : Provisions call) :
    call.isStore = false := by
  cases call <;> first | rfl | exact h.elim

/-- What provisioning with a response calls, with the server at this address. -/
inductive Provisioned (config : Config) (response : KeyResponse) (base : String) : Call → Prop
  | implementations : Provisioned config response base .implementations
  | poolStatus (horizon : Nat) (level : SecurityLevel) :
      Provisioned config response base (.poolStatus horizon level)
  | generateKeyPair (level : SecurityLevel) :
      Provisioned config response base (.generateKeyPair config.testMode level)
  | generateCsr (count : UInt32) (level : SecurityLevel) :
      Provisioned config response base
        (.generateCsr config.testMode count response.keyMaterial response.challenge level)
  | sign (csr : Bytes) : Provisioned config response base (.sign base csr response.challenge)
  | provisionChain (record : KeyRecord) : Provisioned config response base (.provisionChain record)

section

variable {config : Config} {now : Nat} {settings : Settings} {response : KeyResponse}
  {base : String} {batches : List Batch} {turn : Turn}

theorem provisioned_of_mem
    (h : .ok turn ∈ provisioning config now settings response base batches) :
    Provisioned config response base turn.call := by
  rw [provisioning, List.mem_cons, List.mem_append, List.mem_flatMap, List.mem_flatMap] at h
  rcases h with h | ⟨batch, _, h⟩ | ⟨batch, _, h⟩
  · cases h
    exact .implementations
  · rw [CountedPool.topUp, List.mem_cons, List.mem_replicate] at h
    rcases h with h | ⟨_, h⟩
    · cases h
      exact .poolStatus _ _
    · cases h
      exact .generateKeyPair _
  · rw [Batch.certification] at h
    split at h
    · rw [Signing.plan, List.mem_cons, List.mem_cons, List.mem_map] at h
      rcases h with h | h | ⟨blob, _, h⟩
      · cases h
        exact .generateCsr _ _
      · cases h
        exact .sign _
      · obtain ⟨record, _, rfl⟩ := eq_of_storing_eq_ok h
        exact .provisionChain record
    · cases h

/-- Nothing is called for provisioning but what it takes to generate keys and have them
certified. -/
theorem provisions_of_mem
    (h : .ok turn ∈ provisioning config now settings response base batches) :
    Provisions turn.call := by
  have hcall := provisioned_of_mem h
  generalize turn.call = call at hcall
  cases hcall <;> exact trivial

end

/-- What the collaborators answer to a cycle after its settings are loaded. -/
structure Answers where
  /-- The server's answer to the request for key material. -/
  bytes : Bytes
  response : KeyResponse
  decode_bytes : KeyResponse.decode bytes = .ok response
  /-- The settings after the update with the server's policy. -/
  settings : Settings
  /-- What comes of deleting all keys. -/
  deletion : Except Fault UInt32
  batches : List Batch
  /-- The settings after the count of failures is reset. -/
  final : Settings

namespace Answers

instance : Inhabited Answers :=
  ⟨{ bytes := [0x82, 0x80, 0x40]
     response := ⟨[0x80], [], .empty⟩
     decode_bytes := by rfl
     settings := .default
     deletion := .ok 0
     batches := []
     final := .default }⟩

variable (config : Config) (now : Nat) (before : Settings) (answers : Answers)

/-- Ask for key material. -/
def fetching : Except Fault Turn :=
  .ok ⟨.fetchKeys before.serverUrl, .answered (.ok answers.bytes)⟩

/-- Take over the policy sent along. -/
def adopting : Except Fault Turn :=
  .ok ⟨.updateSettings (.deviceConfig answers.response.config), .answered (.ok answers.settings)⟩

/-- Delete all keys. -/
def deleting : Except Fault Turn :=
  .ok ⟨.deleteAllKeys, .answered answers.deletion⟩

/-- Start counting failures anew. -/
def resetting : Except Fault Turn :=
  .ok ⟨.updateSettings .resetFailures, .answered (.ok answers.final)⟩

/-- The plan of a cycle that has its settings. It ends early where provisioning is off and stays
off, and where the server turns it off. -/
def plan : Plan :=
  if staysOff before answers.response.config then [answers.fetching before]
  else if answers.response.config.extraKeys = some 0 then
    [answers.fetching before, answers.adopting, answers.deleting]
  else
    answers.fetching before :: answers.adopting ::
      (provisioning config now answers.settings answers.response before.serverUrl
        answers.batches ++ [answers.resetting])

/-- The outcome of a cycle that follows its plan to the end. -/
def outcome : CycleOutcome :=
  if staysOff before answers.response.config then .completed
  else if answers.response.config.extraKeys = some 0 then .disabled
  else .completed

end Answers

end KeyProvisioning.Cycle
