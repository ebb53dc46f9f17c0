import KeyProvisioning.Proofs.Cycle.Answers

/-!
# The course of a cycle

Each part of a cycle follows its own part of the plan, whatever the collaborators reply, and a
cycle that has its settings follows the whole of it.
-/

namespace KeyProvisioning.Cycle

/-! ## Steps -/

section Steps

variable {mayStop : Prop} {turns : List Turn} {plan : Plan} {α : Type} {ending : Except Halt α}

/-- A call and what follows it: the call is answered and the rest goes on, or it ends
everything. -/
theorem of_ask_bind {call : Call} {next : call.Answer → Procedure α}
    (h : (Procedure.ask call >>= next).Goes mayStop turns ending) :
    (∃ answer rest, (next answer).Goes mayStop rest ending ∧
      turns = ⟨call, .answered (.ok answer)⟩ :: rest) ∨
    ∃ halt, (Procedure.ask call).Goes mayStop turns (.error halt) ∧ ending = .error halt := by
  rcases h.of_bind with ⟨answer, first, rest, hask, hrest, rfl⟩ | hhalt
  · obtain rfl := Procedure.goes_ask_ok_iff.mp hask
    exact .inl ⟨answer, rest, hrest, rfl⟩
  · exact .inr hhalt

/-- A procedure whose value is worked on at the end. -/
theorem of_bind_pure {β : Type} {procedure : Procedure β} {f : β → α}
    (h : (procedure >>= fun value => pure (f value)).Goes mayStop turns ending) :
    (∃ value, procedure.Goes mayStop turns (.ok value) ∧ ending = .ok (f value)) ∨
    ∃ halt, procedure.Goes mayStop turns (.error halt) ∧ ending = .error halt := by
  rcases h.of_bind with ⟨value, first, rest, hfirst, hpure, rfl⟩ | hhalt
  · obtain ⟨rfl, rfl⟩ := Procedure.goes_pure_iff.mp hpure
    rw [List.append_nil]
    exact .inl ⟨value, hfirst, rfl⟩
  · exact .inr hhalt

/-- A check and what follows it: it is passed and the rest goes on, or it ends everything. -/
theorem of_ofResult_bind {ε β : Type} [Coe ε Fault] {result : Except ε β} {next : β → Procedure α}
    (h : (Procedure.ofResult result >>= next).Goes mayStop turns ending) :
    (∃ value, result = .ok value ∧ (next value).Goes mayStop turns ending) ∨
    ∃ reason, result = .error reason ∧ turns = [] ∧
      ending = .error (some (Coe.coe reason)) := by
  cases result with
  | ok value =>
    left
    rcases h.of_bind with ⟨_, first, rest, hfirst, hrest, rfl⟩ | ⟨halt, hhalt, -⟩
    · obtain ⟨rfl, hvalue⟩ := Procedure.goes_ofResult_ok_iff.mp hfirst
      cases hvalue
      exact ⟨value, rfl, hrest⟩
    · exact absurd (Procedure.goes_ofResult_ok_iff.mp hhalt).2 (by simp)
  | error reason =>
    right
    rcases h.of_bind with ⟨_, first, rest, hfirst, -, rfl⟩ | ⟨halt, hhalt, rfl⟩
    · exact absurd (Procedure.goes_ofResult_error_iff.mp hfirst).2 (by simp)
    · obtain ⟨rfl, hending⟩ := Procedure.goes_ofResult_error_iff.mp hhalt
      cases hending
      exact ⟨reason, rfl, rfl, rfl⟩

/-- A look at the stop signal and what follows it. -/
theorem of_pause_bind {millis : UInt64} {next : Unit → Procedure α}
    (h : (Procedure.pause millis >>= next).Goes mayStop turns ending) :
    (next ()).Goes mayStop turns ending ∨
      turns = [] ∧ mayStop ∧ ending = .error (some (.ofCause .cycleCancelled)) := by
  rcases h.of_bind with ⟨_, first, rest, hpause, hrest, rfl⟩ | ⟨halt, hpause, rfl⟩
  · obtain ⟨rfl, _⟩ := hpause.of_pause
    exact .inl hrest
  · obtain ⟨rfl, hok | ⟨allowed, he⟩⟩ := hpause.of_pause
    · cases hok
    · cases he
      exact .inr ⟨rfl, allowed, rfl⟩

/-- A call that is not answered is a step that fails. -/
theorem follows_of_goes_ask {call : Call} {planned : Reply call.Answer} {halt : Halt}
    (h : (Procedure.ask call).Goes mayStop turns (.error halt)) (hne : call ≠ .deleteAllKeys) :
    Follows mayStop (.ok ⟨call, planned⟩ :: plan) turns (some halt) := by
  cases halt with
  | none =>
    obtain rfl := Procedure.goes_ask_crash_iff.mp h
    exact .failed rfl
  | some fault =>
    obtain rfl := Procedure.goes_ask_fault_iff.mp h
    apply Follows.failed
    cases call <;> first | rfl | exact absurd rfl hne

/-- A call whose answer is not good enough is a step that fails. -/
theorem follows_of_objection {call : Call} {planned : Reply call.Answer} {answer : call.Answer}
    {fault : Fault} (h : call.objection answer = some fault) :
    Follows mayStop (.ok ⟨call, planned⟩ :: plan) [⟨call, .answered (.ok answer)⟩]
      (some (some fault)) := by
  apply Follows.failed
  rw [Turn.failure, h]
  rfl

end Steps

/-! ## Courses -/

variable {mayStop : Prop} {turns : List Turn}

/-- Generating key pairs follows one step for each. -/
theorem generatePairs_follows {testMode : Bool} {level : SecurityLevel} {delay wait : UInt64}
    {remaining : Nat} {ending : Except Halt Unit}
    (h : (generatePairs testMode level delay remaining wait).Goes mayStop turns ending) :
    Follows mayStop
      (List.replicate remaining (.ok ⟨.generateKeyPair testMode level, .answered (.ok ())⟩))
      turns (haltOf ending) := by
  induction remaining generalizing wait turns with
  | zero =>
    obtain ⟨rfl, rfl⟩ := Procedure.goes_pure_iff.mp h
    exact .done
  | succ remaining ih =>
    rw [generatePairs] at h
    rw [List.replicate_succ]
    rcases of_pause_bind h with hgo | ⟨rfl, allowed, rfl⟩
    · rcases of_ask_bind hgo with ⟨_, rest, hrest, rfl⟩ | ⟨halt, hask, rfl⟩
      · exact .step rfl (ih hrest)
      · exact follows_of_goes_ask hask (by simp)
    · exact .stopped allowed rfl

/-- Topping up a pool counts it first, and its answer depends on the status alone. -/
theorem generateKeys_follows {config : Config} {now : Nat} {settings : Settings}
    {implementation : Implementation} {ending : Except Halt UInt32}
    (h : (generateKeys config now implementation.level settings.expiringByMillis
      settings.extraKeys).Goes mayStop turns ending) :
    ∃ status, Follows mayStop (CountedPool.topUp config now settings ⟨implementation, status⟩)
        turns (haltOf ending) ∧
      ∀ count, ending = .ok count →
        count = CountedPool.unsigned ⟨implementation, status⟩ settings.extraKeys := by
  rw [generateKeys] at h
  rcases of_ask_bind h with ⟨status, rest, hrest, rfl⟩ | ⟨halt, hask, rfl⟩
  · refine ⟨status, ?_⟩
    rcases of_bind_pure hrest with ⟨_, hpairs, rfl⟩ | ⟨halt, hpairs, rfl⟩
    · refine ⟨.step rfl (generatePairs_follows hpairs), ?_⟩
      intro count hcount
      cases hcount
      rfl
    · exact ⟨.step rfl (generatePairs_follows hpairs), by simp⟩
  · exact ⟨default, follows_of_goes_ask hask (by simp), by simp⟩

/-- Topping up all pools follows the plans of the pools one after another. -/
theorem generateAll_follows {config : Config} {now : Nat} {settings : Settings}
    {implementations : List Implementation}
    {ending : Except Halt (List (SecurityLevel × UInt32))}
    (h : (generateAll config now settings implementations).Goes mayStop turns ending) :
    ∃ pools : List CountedPool, pools.map (·.implementation) = implementations ∧
      Follows mayStop (pools.flatMap (CountedPool.topUp config now settings)) turns
        (haltOf ending) ∧
      ∀ needed, ending = .ok needed → needed = pools.map fun pool =>
        (pool.implementation.level, pool.unsigned settings.extraKeys) := by
  induction implementations generalizing turns ending with
  | nil =>
    obtain ⟨rfl, rfl⟩ := Procedure.goes_pure_iff.mp h
    exact ⟨[], rfl, .done, fun needed hn => by cases hn; rfl⟩
  | cons implementation implementations ih =>
    rw [generateAll] at h
    rcases h.of_bind with ⟨count, first, rest, hone, hall, rfl⟩ | ⟨halt, hone, rfl⟩
    · obtain ⟨status, hfirst, hcount⟩ := generateKeys_follows hone
      rcases of_bind_pure hall with ⟨needed, hrest, rfl⟩ | ⟨halt, hrest, rfl⟩
      · obtain ⟨pools, rfl, hpools, hneeded⟩ := ih hrest
        refine ⟨⟨implementation, status⟩ :: pools, rfl, hfirst.append hpools, ?_⟩
        intro all he
        cases he
        rw [hcount count rfl, hneeded needed rfl]
        rfl
      · obtain ⟨pools, rfl, hpools, _⟩ := ih hrest
        exact ⟨⟨implementation, status⟩ :: pools, rfl, hfirst.append hpools, by simp⟩
    · obtain ⟨status, hfirst, _⟩ := generateKeys_follows hone
      refine ⟨⟨implementation, status⟩ :: implementations.map (⟨·, default⟩), ?_,
        hfirst.append_of_halt, by simp⟩
      simp [Function.comp_def]

/-- What becomes of the first chain of a batch: it is not acceptable, it is stored and the others
come next, or the custodian does not store it. -/
theorem storeChains_cons_cases {level : SecurityLevel} {blob : CertificateBlob}
    {chains : List CertificateBlob} {ending : Except Halt Nat}
    (h : (storeChains level (blob :: chains)).Goes mayStop turns ending) :
    (∃ reason, KeyRecord.ofChain blob level = .error reason ∧ turns = [] ∧
      ending = .error (some (reason : Fault))) ∨
    ∃ record, KeyRecord.ofChain blob level = .ok record ∧
      ((∃ later inner, turns = ⟨.provisionChain record, .answered (.ok ())⟩ :: later ∧
        (storeChains level chains).Goes mayStop later inner ∧ ending = inner.map (· + 1)) ∨
      ∃ halt, (Procedure.ask (.provisionChain record)).Goes mayStop turns (.error halt) ∧
        ending = .error halt) := by
  rw [storeChains] at h
  rcases of_ofResult_bind h with ⟨record, hrecord, hask⟩ | ⟨reason, hrecord, rfl, rfl⟩
  · refine .inr ⟨record, hrecord, ?_⟩
    rcases of_ask_bind hask with ⟨_, later, hlater, rfl⟩ | ⟨halt, hrefused, rfl⟩
    · rcases of_bind_pure hlater with ⟨count, hchains, rfl⟩ | ⟨halt, hchains, rfl⟩
      · exact .inl ⟨later, _, rfl, hchains, rfl⟩
      · exact .inl ⟨later, _, rfl, hchains, rfl⟩
    · exact .inr ⟨halt, hrefused, rfl⟩
  · exact .inl ⟨reason, hrecord, rfl, rfl⟩

/-- Storing chains follows one step for each, the first one that is not acceptable or not accepted
being the last. -/
theorem storeChains_follows {level : SecurityLevel} {chains : List CertificateBlob}
    {ending : Except Halt Nat} (h : (storeChains level chains).Goes mayStop turns ending) :
    Follows mayStop (chains.map (storing level)) turns (haltOf ending) := by
  induction chains generalizing turns ending with
  | nil =>
    obtain ⟨rfl, rfl⟩ := Procedure.goes_pure_iff.mp h
    exact .done
  | cons blob chains ih =>
    rw [List.map_cons, storing]
    rcases storeChains_cons_cases h with ⟨reason, hrecord, rfl, rfl⟩ |
      ⟨record, hrecord, ⟨later, inner, rfl, hchains, rfl⟩ | ⟨halt, hrefused, rfl⟩⟩
    · rw [hrecord]
      exact .refused
    · rw [hrecord, haltOf_map]
      exact .step rfl (ih hchains)
    · rw [hrecord]
      exact follows_of_goes_ask hrefused (by simp)

/-- Having keys certified follows the plan that the answers about their level give. -/
theorem certify_follows {config : Config} {count : UInt32} {level : SecurityLevel}
    {response : KeyResponse} {base : String} {ending : Except Halt Nat} (hcount : 0 < count)
    (h : (certify config count level response base).Goes mayStop turns ending) :
    ∃ signing : Signing,
      Follows mayStop (signing.plan config count level response base) turns (haltOf ending) := by
  have hne : count ≠ 0 := (UInt32.ne_of_lt hcount).symm
  rw [certify, if_neg hne] at h
  rcases of_ask_bind h with ⟨csr, rest, hrest, rfl⟩ | ⟨halt, hask, rfl⟩
  · by_cases hempty : List.isEmpty csr = true
    · rw [if_pos hempty] at hrest
      have hthrow : (throw (CustodianFault.emptyCsr : Fault) : Procedure Nat).Goes mayStop rest
        ending := hrest
      obtain ⟨rfl, rfl⟩ := Procedure.goes_throw_iff.mp hthrow
      exact ⟨default, follows_of_objection (if_pos hempty)⟩
    rw [if_neg hempty] at hrest
    have hnil : csr ≠ [] := fun hnil => hempty (List.isEmpty_iff.mpr hnil)
    have hfine : Turn.failure ⟨.generateCsr config.testMode count response.keyMaterial
        response.challenge level, .answered (.ok csr)⟩ = none :=
      congrArg (Option.map some) (if_neg hempty)
    rcases of_pause_bind hrest with hgo | ⟨rfl, allowed, rfl⟩
    · rcases of_ask_bind hgo with ⟨signed, rest, hsigned, rfl⟩ | ⟨halt, hask, rfl⟩
      · rcases of_ofResult_bind hsigned with
          ⟨chains, hdecode, hchains⟩ | ⟨reason, hdecode, rfl, rfl⟩
        · refine ⟨⟨csr, hnil, signed, chains, hdecode⟩,
            .step hfine (.step ?_ (storeChains_follows hchains))⟩
          rw [Turn.failure, Call.objection, hdecode]
          rfl
        · refine ⟨{ (default : Signing) with csr, csr_ne_nil := hnil },
            .step hfine (follows_of_objection ?_)⟩
          simp only [Call.objection, hdecode]
          rfl
      · exact ⟨{ (default : Signing) with csr, csr_ne_nil := hnil },
          .step hfine (follows_of_goes_ask hask (by simp))⟩
    · exact ⟨{ (default : Signing) with csr, csr_ne_nil := hnil },
        .step hfine (.stopped allowed rfl)⟩
  · exact ⟨default, follows_of_goes_ask hask (by simp)⟩

/-- Having the keys of all levels certified follows the plans of the levels one after another. -/
theorem certifyAll_follows {config : Config} {settings : Settings} {response : KeyResponse}
    {base : String} {pools : List CountedPool} {ending : Except Halt Unit}
    (h : (certifyAll config response base (pools.map fun pool =>
      (pool.implementation.level, pool.unsigned settings.extraKeys))).Goes mayStop turns ending) :
    ∃ batches : List Batch, batches.map (·.pool) = pools ∧
      Follows mayStop (batches.flatMap (Batch.certification config settings response base)) turns
        (haltOf ending) := by
  induction pools generalizing turns with
  | nil =>
    obtain ⟨rfl, rfl⟩ := Procedure.goes_pure_iff.mp h
    exact ⟨[], rfl, .done⟩
  | cons pool pools ih =>
    rw [List.map_cons, certifyAll] at h
    by_cases hcount : 0 < pool.unsigned settings.extraKeys
    · rw [if_pos hcount] at h
      rcases h.of_bind with ⟨_, first, rest, hone, hall, rfl⟩ | ⟨halt, hone, rfl⟩
      · obtain ⟨signing, hfirst⟩ := certify_follows hcount hone
        obtain ⟨batches, rfl, hrest⟩ := ih hall
        refine ⟨⟨pool, signing⟩ :: batches, rfl, ?_⟩
        rw [List.flatMap_cons, Batch.certification, if_pos hcount]
        exact hfirst.append hrest
      · obtain ⟨signing, hfirst⟩ := certify_follows hcount hone
        refine ⟨⟨pool, signing⟩ :: pools.map (⟨·, default⟩), ?_, ?_⟩
        · simp [Function.comp_def]
        · rw [List.flatMap_cons, Batch.certification, if_pos hcount]
          exact hfirst.append_of_halt
    · rw [if_neg hcount] at h
      obtain ⟨batches, rfl, hrest⟩ := ih h
      refine ⟨⟨pool, default⟩ :: batches, rfl, ?_⟩
      rw [List.flatMap_cons, Batch.certification, if_neg hcount]
      exact hrest

/-- Any pools are those of some batches. -/
theorem exists_batches (pools : List CountedPool) :
    ∃ batches : List Batch, batches.map (·.pool) = pools :=
  ⟨pools.map (⟨·, default⟩), by simp [Function.comp_def]⟩

/-- Provisioning tops up all pools before it has any key certified, and resets the count of
failures at the end. -/
theorem replenish_follows {config : Config} {now : Nat} {settings : Settings}
    {response : KeyResponse} {base : String} {ending : Except Halt CycleOutcome}
    (h : (replenish config now settings response base).Goes mayStop turns ending) :
    ∃ batches final,
      Follows mayStop (provisioning config now settings response base batches ++
        [.ok ⟨.updateSettings .resetFailures, .answered (.ok final)⟩]) turns (haltOf ending) ∧
      ∀ outcome, ending = .ok outcome → outcome = .completed := by
  rw [replenish] at h
  rcases of_ask_bind h with ⟨implementations, rest, hrest, rfl⟩ | ⟨halt, hask, rfl⟩
  · by_cases hempty : List.isEmpty implementations = true
    · rw [if_pos hempty] at hrest
      have hthrow : (throw (CustodianFault.noImplementations : Fault) :
        Procedure CycleOutcome).Goes mayStop rest ending := hrest
      obtain ⟨rfl, rfl⟩ := Procedure.goes_throw_iff.mp hthrow
      exact ⟨[], .default, follows_of_objection (if_pos hempty), by simp⟩
    rw [if_neg hempty] at hrest
    have hfine : Turn.failure ⟨.implementations, .answered (.ok implementations)⟩ = none :=
      congrArg (Option.map some) (if_neg hempty)
    rcases hrest.of_bind with ⟨needed, first, later, hall, hlater, rfl⟩ | ⟨halt, hall, rfl⟩
    · obtain ⟨pools, rfl, hfirst, hneeded⟩ := generateAll_follows hall
      rw [hneeded needed rfl] at hlater
      rcases hlater.of_bind with ⟨_, second, last, hsome, hlast, rfl⟩ | ⟨halt, hsome, rfl⟩
      · obtain ⟨batches, rfl, hsecond⟩ := certifyAll_follows hsome
        rw [List.flatMap_map] at hfirst
        rw [List.map_map] at hfine ⊢
        rcases of_ask_bind hlast with ⟨final, rest, hpure, rfl⟩ | ⟨halt, hreset, rfl⟩
        · obtain ⟨rfl, rfl⟩ := Procedure.goes_pure_iff.mp hpure
          refine ⟨batches, final, .step hfine ?_, fun outcome he => by cases he; rfl⟩
          rw [← List.append_assoc]
          exact (hfirst.append hsecond).append (.step rfl .done)
        · refine ⟨batches, .default, .step hfine ?_, by simp⟩
          rw [← List.append_assoc]
          exact (hfirst.append hsecond).append (follows_of_goes_ask hreset (by simp))
      · obtain ⟨batches, rfl, hsecond⟩ := certifyAll_follows hsome
        rw [List.flatMap_map] at hfirst
        rw [List.map_map] at hfine ⊢
        exact ⟨batches, .default, .step hfine (hfirst.append hsecond).append_of_halt, by simp⟩
    · obtain ⟨pools, rfl, hfirst, _⟩ := generateAll_follows hall
      obtain ⟨batches, rfl⟩ := exists_batches pools
      rw [List.flatMap_map] at hfirst
      rw [List.map_map] at hfine ⊢
      exact ⟨batches, .default, .step hfine hfirst.append_of_halt.append_of_halt, by simp⟩
  · exact ⟨[], .default, follows_of_goes_ask hask (by simp), by simp⟩

/-- Deleting keys is one call, whatever its answer is. -/
theorem deleteKeys_follows {ending : Except Halt CycleOutcome}
    (h : deleteKeys.Goes mayStop turns ending) :
    ∃ deletion, Follows mayStop [.ok ⟨.deleteAllKeys, .answered deletion⟩] turns (haltOf ending) ∧
      ∀ outcome, ending = .ok outcome → outcome = .disabled := by
  rw [deleteKeys] at h
  rcases h.of_bind with ⟨_, first, rest, hcatch, hpure, rfl⟩ | ⟨halt, hcatch, rfl⟩
  · obtain ⟨rfl, rfl⟩ := Procedure.goes_pure_iff.mp hpure
    have hone : ∃ deletion, first = [⟨.deleteAllKeys, .answered deletion⟩] := by
      rcases hcatch.of_tryCatch with ⟨fault, first, rest, hask, hpure, rfl⟩ |
        ⟨deleted, hask, _⟩ | ⟨_, he⟩
      · obtain ⟨rfl, _⟩ := Procedure.goes_pure_iff.mp hpure
        obtain rfl := Procedure.goes_ask_fault_iff.mp hask
        exact ⟨.error fault, rfl⟩
      · obtain rfl := Procedure.goes_ask_ok_iff.mp hask
        exact ⟨.ok deleted, rfl⟩
      · cases he
    obtain ⟨deletion, rfl⟩ := hone
    refine ⟨deletion, .step ?_ .done, fun outcome he => by cases he; rfl⟩
    cases deletion <;> rfl
  · rcases hcatch.of_tryCatch with ⟨_, _, _, _, hpure, _⟩ | ⟨_, _, he⟩ | ⟨hask, he⟩
    · cases (Procedure.goes_pure_iff.mp hpure).2
    · cases he
    · cases he
      obtain rfl := Procedure.goes_ask_crash_iff.mp hask
      exact ⟨.ok 0, .failed rfl, by simp⟩

/-- A response is fetched and decoded, or fetching it is a step that fails. -/
theorem fetchResponse_follows {base : String} {ending : Except Halt KeyResponse}
    (h : (fetchResponse base).Goes mayStop turns ending) :
    (∃ bytes response, KeyResponse.decode bytes = .ok response ∧
      turns = [⟨.fetchKeys base, .answered (.ok bytes)⟩] ∧ ending = .ok response) ∨
    ∃ halt, ending = .error halt ∧ ∀ planned plan,
      Follows mayStop (.ok ⟨.fetchKeys base, planned⟩ :: plan) turns (some halt) := by
  rw [fetchResponse] at h
  rcases of_pause_bind h with hgo | ⟨rfl, allowed, rfl⟩
  · rcases of_ask_bind hgo with ⟨bytes, rest, hresult, rfl⟩ | ⟨halt, hask, rfl⟩
    · cases hdecode : KeyResponse.decode bytes with
      | error reason =>
        rw [hdecode] at hresult
        obtain ⟨rfl, rfl⟩ := Procedure.goes_ofResult_error_iff.mp hresult
        refine .inr ⟨_, rfl, fun planned plan => follows_of_objection ?_⟩
        simp only [Call.objection, hdecode]
        rfl
      | ok response =>
        rw [hdecode] at hresult
        obtain ⟨rfl, rfl⟩ := Procedure.goes_ofResult_ok_iff.mp hresult
        exact .inl ⟨bytes, response, hdecode, rfl, rfl⟩
    · exact .inr ⟨halt, rfl, fun planned plan => follows_of_goes_ask hask (by simp)⟩
  · exact .inr ⟨_, rfl, fun planned plan => .stopped allowed rfl⟩

/-- A cycle that has its settings. -/
def proceed (config : Config) (now : Nat) (before : Settings) : Procedure CycleOutcome := do
  let response ← fetchResponse before.serverUrl
  if staysOff before response.config then return .completed
  let settings ← Procedure.ask (.updateSettings (.deviceConfig response.config))
  if response.config.extraKeys = some 0 then deleteKeys
  else replenish config now settings response before.serverUrl

theorem attempt_eq (config : Config) (now : Nat) :
    attempt config now = snapshot >>= proceed config now :=
  rfl

/-- Every plan begins with the request for key material, and takes over the policy before all
else. -/
theorem Answers.plan_eq_cons (config : Config) (now : Nat) (before : Settings)
    (answers : Answers) :
    answers.plan config now before = answers.fetching before ::
      if staysOff before answers.response.config then []
      else answers.adopting ::
        if answers.response.config.extraKeys = some 0 then [answers.deleting]
        else provisioning config now answers.settings answers.response before.serverUrl
          answers.batches ++ [answers.resetting] := by
  rw [plan]
  split
  · rfl
  · split <;> rfl

/-- A cycle that has its settings follows the plan that the answers to it give. -/
theorem proceed_follows {config : Config} {now : Nat} {before : Settings}
    {ending : Except Halt CycleOutcome}
    (h : (proceed config now before).Goes mayStop turns ending) :
    ∃ answers : Answers,
      Follows mayStop (answers.plan config now before) turns (haltOf ending) ∧
      ∀ outcome, ending = .ok outcome → outcome = answers.outcome before := by
  rw [proceed] at h
  rcases h.of_bind with ⟨response, first, rest, hfetch, hrest, rfl⟩ | ⟨halt, hfetch, rfl⟩
  · rcases fetchResponse_follows hfetch with ⟨bytes, _, hdecode, rfl, he⟩ | ⟨_, he, _⟩
    · cases he
      have hfine (base : String) :
          Turn.failure ⟨.fetchKeys base, .answered (.ok bytes)⟩ = none := by
        simp only [Turn.failure, Call.objection, hdecode]
        rfl
      let known : Answers := { (default : Answers) with bytes, response, decode_bytes := hdecode }
      by_cases hoff : staysOff before response.config = true
      · rw [if_pos hoff] at hrest
        obtain ⟨rfl, rfl⟩ := Procedure.goes_pure_iff.mp hrest
        refine ⟨known, ?_, fun outcome he => ?_⟩
        · rw [Answers.plan, if_pos hoff]
          exact .step (hfine _) .done
        · cases he
          rw [Answers.outcome, if_pos hoff]
      rw [if_neg hoff] at hrest
      rcases of_ask_bind hrest with ⟨settings, last, hlast, rfl⟩ | ⟨halt, hask, rfl⟩
      · by_cases hzero : response.config.extraKeys = some 0
        · rw [if_pos hzero] at hlast
          obtain ⟨deletion, hdelete, houtcome⟩ := deleteKeys_follows hlast
          refine ⟨{ known with settings, deletion }, ?_, fun outcome he => ?_⟩
          · rw [Answers.plan, if_neg hoff, if_pos hzero]
            exact .step (hfine _) (.step rfl hdelete)
          · rw [houtcome outcome he, Answers.outcome, if_neg hoff, if_pos hzero]
        · rw [if_neg hzero] at hlast
          obtain ⟨batches, final, hreplenish, houtcome⟩ := replenish_follows hlast
          refine ⟨{ known with settings, batches, final }, ?_, fun outcome he => ?_⟩
          · rw [Answers.plan, if_neg hoff, if_neg hzero]
            exact .step (hfine _) (.step rfl hreplenish)
          · rw [houtcome outcome he, Answers.outcome, if_neg hoff, if_neg hzero]
      · refine ⟨known, ?_, by simp⟩
        rw [Answers.plan, if_neg hoff]
        split
        · exact .step (hfine _) (follows_of_goes_ask hask (by simp))
        · exact .step (hfine _) (follows_of_goes_ask hask (by simp))
    · cases he
  · rcases fetchResponse_follows hfetch with ⟨_, _, _, _, he⟩ | ⟨_, he, hfollows⟩
    · cases he
    · cases he
      refine ⟨default, ?_, by simp⟩
      rw [Answers.plan_eq_cons]
      exact hfollows _ _

end KeyProvisioning.Cycle
