import KeyProvisioning.Proofs.Certificate.Leaf
import KeyProvisioning.Proofs.Cycle.Course

/-!
# Storing a batch of chains

The chains that the server signed are checked and offered to the custodian one after another.
What is stored is a first part of them in their order, and the batch ends with the first chain
that is not valid or whose record the custodian does not take.
-/

namespace KeyProvisioning

/-- The record that a turn offers to the custodian. -/
def Turn.offered? : Turn → Option KeyRecord
  | ⟨.provisionChain record, _⟩ => some record
  | _ => none

/-- The turn in which the custodian takes a record. -/
def Turn.stored (record : KeyRecord) : Turn :=
  ⟨.provisionChain record, .answered (.ok ())⟩

namespace Cycle

variable {mayStop : Prop} {turns : List Turn} {level : SecurityLevel}

/-- How a batch ends of which so many chains are stored and these are left: with all chains
stored, at a chain that is not valid, or at a record that the custodian does not take. -/
inductive StoringEnd (level : SecurityLevel) (stored : Nat) :
    List CertificateBlob → List Turn → Except Halt Nat → Prop
  | complete : StoringEnd level stored [] [] (.ok stored)
  | invalid {blob : CertificateBlob} {rest : List CertificateBlob} {reason : ValidationFault}
      (h : KeyRecord.ofChain blob level = .error reason) :
      StoringEnd level stored (blob :: rest) [] (.error (some reason))
  | refused {blob : CertificateBlob} {rest : List CertificateBlob} {record : KeyRecord}
      (h : KeyRecord.ofChain blob level = .ok record) (fault : Fault) :
      StoringEnd level stored (blob :: rest) [⟨.provisionChain record, .answered (.error fault)⟩]
        (.error (some fault))
  | crashed {blob : CertificateBlob} {rest : List CertificateBlob} {record : KeyRecord}
      (h : KeyRecord.ofChain blob level = .ok record) :
      StoringEnd level stored (blob :: rest) [⟨.provisionChain record, .crashed⟩] (.error none)

/-- The chains are all valid at a level, and these are their records. -/
def AreRecords (level : SecurityLevel) (chains : List CertificateBlob) (records : List KeyRecord) :
    Prop :=
  chains.map (KeyRecord.ofChain · level) = records.map .ok

theorem AreRecords.nil : AreRecords level [] [] := rfl

theorem AreRecords.cons {blob : CertificateBlob} {record : KeyRecord}
    {chains : List CertificateBlob} {records : List KeyRecord}
    (h : KeyRecord.ofChain blob level = .ok record) (rest : AreRecords level chains records) :
    AreRecords level (blob :: chains) (record :: records) := by
  rw [AreRecords, List.map_cons, List.map_cons, h, rest]

theorem AreRecords.append {chains more : List CertificateBlob} {records others : List KeyRecord}
    (h : AreRecords level chains records) (k : AreRecords level more others) :
    AreRecords level (chains ++ more) (records ++ others) := by
  rw [AreRecords, List.map_append, List.map_append, h, k]

/-- Chains that are all valid have records that keep them and their level. -/
theorem AreRecords.keep {chains : List CertificateBlob} {records : List KeyRecord}
    (h : AreRecords level chains records) :
    records.map KeyRecord.chain = chains ∧ ∀ record ∈ records, record.level = level := by
  induction chains generalizing records with
  | nil =>
    obtain rfl := List.map_eq_nil_iff.mp h.symm
    simp
  | cons blob chains ih =>
    cases records with
    | nil => cases h
    | cons record records =>
      obtain ⟨hfirst, hrest⟩ := List.cons.inj h
      obtain ⟨-, -, -, hchain, hlevel⟩ := KeyRecord.exists_parse_of_ofChain hfirst
      obtain ⟨hchains, hlevels⟩ := ih hrest
      constructor
      · rw [List.map_cons, hchain, hchains]
      · exact List.forall_mem_cons.mpr ⟨hlevel, hlevels⟩

/-- One more chain stored at the front. -/
theorem StoringEnd.succ {stored : Nat} {rest : List CertificateBlob} {last : List Turn}
    {ending : Except Halt Nat} (h : StoringEnd level stored rest last ending) :
    StoringEnd level (stored + 1) rest last (ending.map (· + 1)) := by
  cases h with
  | complete => exact .complete
  | invalid h => exact .invalid h
  | refused h fault => exact .refused h fault
  | crashed h => exact .crashed h

/-- Storing goes through the first chains in their order, whose records the custodian takes, to
one of the ends. -/
theorem storeChains_course {chains : List CertificateBlob} {ending : Except Halt Nat}
    (h : (storeChains level chains).Goes mayStop turns ending) :
    ∃ stored records rest last, chains = stored ++ rest ∧ AreRecords level stored records ∧
      turns = records.map Turn.stored ++ last ∧
        StoringEnd level stored.length rest last ending := by
  induction chains generalizing turns ending with
  | nil =>
    obtain ⟨rfl, rfl⟩ := Procedure.goes_pure_iff.mp h
    exact ⟨[], [], [], [], rfl, .nil, rfl, .complete⟩
  | cons blob chains ih =>
    rcases storeChains_cons_cases h with ⟨reason, hrecord, rfl, rfl⟩ |
      ⟨record, hrecord, ⟨later, inner, rfl, hchains, rfl⟩ | ⟨halt, hrefused, rfl⟩⟩
    · exact ⟨[], [], blob :: chains, [], rfl, .nil, rfl, .invalid hrecord⟩
    · -- the chain is stored, and the rest of the batch is one chain shorter
      obtain ⟨stored, records, rest, last, rfl, hrecords, rfl, hend⟩ := ih hchains
      exact ⟨blob :: stored, record :: records, rest, last, rfl, .cons hrecord hrecords, rfl,
        hend.succ⟩
    · refine ⟨[], [], blob :: chains, turns, rfl, .nil, rfl, ?_⟩
      obtain ⟨reply, rfl, hreply⟩ := Procedure.goes_ask_iff.mp hrefused
      rcases reply with (fault | answer) | _
      · cases hreply
        exact .refused hrecord fault
      · cases hreply
      · cases hreply
        exact .crashed hrecord

/-- The records that are offered are those of the first chains of the batch, in their order. -/
theorem StoringEnd.exists_offered {stored rest : List CertificateBlob} {records : List KeyRecord}
    {last : List Turn} {ending : Except Halt Nat} (hrecords : AreRecords level stored records)
    (hend : StoringEnd level stored.length rest last ending) :
    ∃ chains, chains <+: stored ++ rest ∧
      AreRecords level chains ((records.map Turn.stored ++ last).filterMap Turn.offered?) := by
  have hstored : (records.map Turn.stored).filterMap Turn.offered? = records := by
    rw [List.filterMap_map]
    exact List.filterMap_some
  rw [List.filterMap_append, hstored]
  cases hend with
  | complete | invalid =>
    refine ⟨stored, List.prefix_append _ _, ?_⟩
    rw [List.filterMap_nil, List.append_nil]
    exact hrecords
  | @refused blob rest record h | @crashed blob rest record h =>
    refine ⟨stored ++ [blob], ⟨rest, List.append_assoc _ _ _⟩, ?_⟩
    exact hrecords.append (AreRecords.nil.cons h)

/-- A batch is stored to its end if and only if all chains are valid and the custodian takes all
their records. -/
theorem StoringEnd.eq_ok_iff {stored rest : List CertificateBlob} {records : List KeyRecord}
    {last : List Turn} {ending : Except Halt Nat} (hrecords : AreRecords level stored records)
    (hend : StoringEnd level stored.length rest last ending) (count : Nat) :
    ending = .ok count ↔ count = (stored ++ rest).length ∧
      ∃ all, AreRecords level (stored ++ rest) all ∧
        records.map Turn.stored ++ last = all.map Turn.stored := by
  cases hend with
  | complete =>
    rw [List.append_nil, List.append_nil, Except.ok.injEq]
    constructor
    · rintro rfl
      exact ⟨rfl, records, hrecords, rfl⟩
    · rintro ⟨rfl, -⟩
      rfl
  | @invalid blob rest reason h =>
    refine iff_of_false (by simp) ?_
    rintro ⟨-, all, hall, -⟩
    have hmem : KeyRecord.ofChain blob level ∈ all.map Except.ok := by
      rw [← hall]
      exact List.mem_map_of_mem (by simp)
    rw [h] at hmem
    simp at hmem
  | @refused blob rest record h fault =>
    refine iff_of_false (by simp) ?_
    rintro ⟨-, all, -, hturns⟩
    have hmem : ⟨.provisionChain record, .answered (.error fault)⟩ ∈ all.map Turn.stored := by
      rw [← hturns]
      simp
    obtain ⟨other, -, hother⟩ := List.mem_map.mp hmem
    cases hother
  | @crashed blob rest record h =>
    refine iff_of_false (by simp) ?_
    rintro ⟨-, all, -, hturns⟩
    have hmem : ⟨.provisionChain record, .crashed⟩ ∈ all.map Turn.stored := by
      rw [← hturns]
      simp
    obtain ⟨other, -, hother⟩ := List.mem_map.mp hmem
    cases hother

/-! ## The whole request -/

section Submitted

variable {σ : Type} {surroundings : Surroundings σ} {state : σ} {config : Config} {count : UInt32}
  {response : KeyResponse} {base : String} {csr bytes : Bytes} {requested submitted : σ}

/-- Once the server has signed, what is left is to decode its answer and to store the chains. -/
theorem certify_of_submitted (positive : count ≠ 0) (nonempty : csr ≠ [])
    (requests : surroundings.reply (.generateCsr config.testMode count response.keyMaterial
      response.challenge level) state = (.answered (.ok csr), requested))
    (unraised : surroundings.isStopped requested = false)
    (submits : surroundings.reply (.sign base csr response.challenge) requested =
      (.answered (.ok bytes), submitted)) :
    let whole := (certify config count level response base).run
    let rest := (Procedure.ofResult (SignedChains.decode bytes) >>= storeChains level).run
    whole.turns surroundings state =
      ⟨.generateCsr config.testMode count response.keyMaterial response.challenge level,
          .answered (.ok csr)⟩ ::
        ⟨.sign base csr response.challenge, .answered (.ok bytes)⟩ ::
        rest.turns surroundings submitted ∧
      (whole.run surroundings state).value = (rest.run surroundings submitted).value := by
  intro whole rest
  have hempty : ¬ List.isEmpty csr = true := fun h => nonempty (List.isEmpty_iff.mp h)
  simp only [whole]
  rw [certify, if_neg positive]
  have hnext : (do
      if List.isEmpty csr then throw (CustodianFault.emptyCsr : Fault)
      Procedure.check
      let signed ← Procedure.ask (.sign base csr response.challenge)
      let chains ← Procedure.ofResult (SignedChains.decode signed)
      storeChains level chains : Procedure Nat) = (do
      Procedure.check
      let signed ← Procedure.ask (.sign base csr response.challenge)
      let chains ← Procedure.ofResult (SignedChains.decode signed)
      storeChains level chains) := if_neg hempty
  constructor
  · refine (Procedure.ask_bind_of_answered requests).1.trans (congrArg _ ?_)
    rw [hnext]
    exact (Procedure.check_bind_of_unraised unraised).1.trans
      (Procedure.ask_bind_of_answered submits).1
  · refine (Procedure.ask_bind_of_answered requests).2.trans ?_
    rw [hnext]
    exact (Procedure.check_bind_of_unraised unraised).2.trans
      (Procedure.ask_bind_of_answered submits).2

/-- A batch of signed chains is stored from the front. An answer of the server that is not
decoded stores nothing and ends the request with its fault. Otherwise the records of the first
chains are offered to the custodian in their order, up to the first that it does not take or to
the first chain that is not valid, which ends the request; every record keeps its chain and the
level. The request succeeds, with the number of chains, if and only if all chains are valid and
all their records are taken. -/
theorem certify_stores_in_order (positive : count ≠ 0) (nonempty : csr ≠ [])
    (requests : surroundings.reply (.generateCsr config.testMode count response.keyMaterial
      response.challenge level) state = (.answered (.ok csr), requested))
    (unraised : surroundings.isStopped requested = false)
    (submits : surroundings.reply (.sign base csr response.challenge) requested =
      (.answered (.ok bytes), submitted)) :
    let whole := (certify config count level response base).run
    let value := (whole.run surroundings state).value
    ∃ offers, whole.turns surroundings state =
        ⟨.generateCsr config.testMode count response.keyMaterial response.challenge level,
            .answered (.ok csr)⟩ ::
          ⟨.sign base csr response.challenge, .answered (.ok bytes)⟩ :: offers ∧
      (∀ reason, SignedChains.decode bytes = .error reason →
        offers = [] ∧ value = some (.error (reason : Fault))) ∧
      ∀ chains, SignedChains.decode bytes = .ok chains →
        (∃ stored records rest last ending, chains = stored ++ rest ∧
          AreRecords level stored records ∧ offers = records.map Turn.stored ++ last ∧
          StoringEnd level stored.length rest last ending ∧ value = Halt.valueOf ending) ∧
        (offers.filterMap Turn.offered?).map KeyRecord.chain <+: chains ∧
        (∀ record ∈ offers.filterMap Turn.offered?, record.level = level) ∧
        ∀ n, value = some (.ok n) ↔ n = chains.length ∧
          ∃ records, AreRecords level chains records ∧ offers = records.map Turn.stored := by
  intro whole value
  obtain ⟨hturns, hvalue⟩ := certify_of_submitted positive nonempty requests unraised submits
  refine ⟨_, hturns, ?_, ?_⟩
  · intro reason hdecode
    simp only [value, whole, hvalue, hdecode]
    exact ⟨rfl, rfl⟩
  · intro chains hdecode
    have hrest : (Procedure.ofResult (SignedChains.decode bytes) >>= storeChains level).run =
        (storeChains level chains).run := by
      rw [hdecode]
      rfl
    rw [hrest] at hvalue ⊢
    obtain ⟨ending, hending⟩ :=
      Halt.exists_valueOf_eq ((storeChains level chains).run.run surroundings submitted).value
    have hgoes : (storeChains level chains).Goes True
        ((storeChains level chains).run.turns surroundings submitted) ending := by
      rw [Procedure.Goes, hending]
      exact Dialogue.talk_run surroundings (fun _ _ => trivial) _ submitted
    obtain ⟨stored, records, rest, last, rfl, hrecords, hoffers, hend⟩ := storeChains_course hgoes
    have hended : value = Halt.valueOf ending := hvalue.trans hending.symm
    obtain ⟨offered, hprefix, hoffered⟩ := hend.exists_offered hrecords
    obtain ⟨hchains, hlevels⟩ := hoffered.keep
    rw [hoffers]
    refine ⟨⟨stored, records, rest, last, ending, rfl, hrecords, rfl, hend, hended⟩, ?_,
      hlevels, ?_⟩
    · rw [hchains]
      exact hprefix
    · intro n
      rw [← hend.eq_ok_iff hrecords n, hended]
      constructor
      · intro h
        exact Halt.valueOf_injective h
      · rintro rfl
        rfl

end Submitted

/-- A certificate without names and extensions, for a point whose coordinates are zero. -/
def bareCertificate : Bytes :=
  [0x30, 0x81, 0x87, 0x30, 0x7D, 0x02, 0x01, 0x01, 0x30, 0x03, 0x06, 0x01, 0x2A, 0x30, 0x00] ++
    [0x30, 0x1E, 0x17, 0x0D] ++ Utf8.encode "250101000000Z".toList ++
    [0x17, 0x0D] ++ Utf8.encode "300101000000Z".toList ++
    [0x30, 0x00, 0x30, 0x4F, 0x30, 0x09, 0x06, 0x07] ++ Certificate.ecAlgorithm ++
    [0x03, 0x42, 0x00, 0x04] ++ List.replicate 64 0 ++
    [0x30, 0x03, 0x06, 0x01, 0x2A, 0x03, 0x01, 0x00]

/-- A batch with the same chain twice and one that is not valid. -/
def repeatedChains : List CertificateBlob :=
  [⟨bareCertificate⟩, ⟨bareCertificate⟩, ⟨[0x30]⟩]

/-- The server's answer with these chains. -/
def signedRepeated : Bytes :=
  [0x82, 0x40] ++ Cbor.writeByteStrings (repeatedChains.map (·.bytes))

/-- A server that signs with these chains, and a custodian that takes one record. -/
def takingOne : Surroundings Nat where
  reply
    | .generateCsr .., taken => (.answered (.ok [1]), taken)
    | .sign .., taken => (.answered (.ok signedRepeated), taken)
    | .provisionChain _, 0 => (.answered (.ok ()), 1)
    | .provisionChain _, taken =>
      (.answered (.error (CustodianFault.provisionChain : Fault)), taken)
    | _, taken => (.crashed, taken)
  isStopped _ := false

/-- The second record is refused, and the third chain is not even looked at. -/
theorem certify_stores_in_order_takingOne :
    let whole := (certify .default 3 .strongBox ⟨[], [], .empty⟩ "").run
    ∃ request submission offers, whole.turns takingOne 0 = request :: submission :: offers ∧
      offers.length = 2 ∧ (offers.filterMap Turn.offered?).map KeyRecord.chain <+: repeatedChains ∧
      (whole.run takingOne 0).value ≠ some (.ok 3) := by
  intro whole
  have hdecode : SignedChains.decode signedRepeated = .ok repeatedChains := by
    have hread : (SignedChains.decode signedRepeated).toOption = some repeatedChains := by
      decide +kernel
    cases hresult : SignedChains.decode signedRepeated with
    | error fault =>
      rw [hresult] at hread
      cases hread
    | ok chains =>
      rw [hresult] at hread
      rw [Option.some.inj hread]
  obtain ⟨offers, hturns, -, hdecoded⟩ :=
    @certify_stores_in_order .strongBox _ takingOne 0 .default 3 ⟨[], [], .empty⟩ "" _ _ _ _
      (by decide) (List.cons_ne_nil 1 []) rfl rfl rfl
  obtain ⟨-, hprefix, -, hiff⟩ := hdecoded repeatedChains hdecode
  have hlength : (whole.turns takingOne 0).length = 4 := by decide +kernel
  rw [hturns] at hlength
  have hoffers : offers.length = 2 := by simpa using hlength
  refine ⟨_, _, offers, hturns, hoffers, hprefix, ?_⟩
  intro hvalue
  obtain ⟨-, records, hrecords, hall⟩ := (hiff 3).mp hvalue
  have hcount := congrArg List.length hrecords
  rw [hall, List.length_map] at hoffers
  rw [List.length_map, List.length_map, hoffers] at hcount
  cases hcount

end Cycle

end KeyProvisioning
