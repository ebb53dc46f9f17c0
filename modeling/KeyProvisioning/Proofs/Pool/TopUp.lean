import KeyProvisioning.Proofs.Pool.Reconciliation

/-!
# Topping up below the watermark

The number of pairs to make is computed beforehand from the counts of a pool. It is how often a
loop over unbounded integers goes round that makes one more pair for as long as the pool is below
its target, or the greatest count of 32 bits if the loop goes round more often. The integers of
the computation fit into 64 bits whatever the counts are.
-/

namespace KeyProvisioning

namespace Deficit

/-! ## The loop -/

/-- How often a loop goes round that has made so many pairs and makes one more for as long as the
target is not reached by them, the unsigned ones and the valid ones. -/
def iterations (deficit : Deficit) (generated : Int) : Nat :=
  if generated + deficit.unattested + deficit.valid < deficit.target then
    deficit.iterations (generated + 1) + 1
  else 0
termination_by (deficit.target - deficit.unattested - deficit.valid - generated).toNat

/-- The keys that need a signature once the loop has made so many pairs. -/
def signatures (deficit : Deficit) (generated : Int) : Int :=
  if 0 < deficit.target - deficit.valid then generated + deficit.unattested else 0

/-- The loop goes round once for each pair that is missing. -/
theorem iterations_eq (deficit : Deficit) (generated : Int) :
    deficit.iterations generated =
      (deficit.target - deficit.unattested - deficit.valid - generated).toNat := by
  fun_induction iterations with
  | case1 generated below ih => omega
  | case2 generated reached => omega

theorem toNat_keysToGenerate (deficit : Deficit) :
    deficit.keysToGenerate.toNat = min (deficit.iterations 0) (UInt32.size - 1) := by
  rw [keysToGenerate, toNat_clampToCount, iterations_eq, Int.sub_zero]

theorem toNat_keysToSign (deficit : Deficit) (generated : UInt32) :
    ((deficit.keysToSign generated).toNat : Int) =
      min (max (deficit.signatures generated.toNat) 0) (UInt32.size - 1) := by
  have hsize : UInt32.size = 2 ^ 32 := rfl
  rw [keysToSign, signatures]
  split
  · rw [toNat_clampToCount]
    omega
  · rw [UInt32.toNat_zero]
    omega

end Deficit

/-! ## Integers of 64 bits -/

/-- A number, if it is a signed one of 64 bits. -/
def signed64? (n : Int) : Option Int :=
  if -0x8000000000000000 ≤ n ∧ n ≤ 0x7FFFFFFFFFFFFFFF then some n else none

theorem signed64?_eq_some {n : Int} (h : -0x8000000000000000 ≤ n ∧ n ≤ 0x7FFFFFFFFFFFFFFF) :
    signed64? n = some n :=
  if_pos h

/-- The deficit of a pool, computed in signed numbers of 64 bits alone. -/
def PoolStatus.deficit64? (status : PoolStatus) (extra : UInt32) : Option Deficit := do
  let inUse ← signed64? (status.attested.toNat - status.unassigned.toNat)
  let unattested ← signed64? (status.total.toNat - status.attested.toNat)
  let valid ← signed64? (status.attested.toNat - status.expiring.toNat)
  let target ← signed64? (inUse + extra.toNat)
  return { unattested, valid, inUse, target }

/-- The pairs to generate, computed in signed numbers of 64 bits alone. -/
def Deficit.keysToGenerate64? (deficit : Deficit) : Option UInt32 := do
  let unsignable ← signed64? (deficit.target - deficit.unattested)
  let missing ← signed64? (unsignable - deficit.valid)
  return clampToCount missing

/-- The keys that need a signature, computed in signed numbers of 64 bits alone. -/
def Deficit.keysToSign64? (deficit : Deficit) (generated : UInt32) : Option UInt32 := do
  let lack ← signed64? (deficit.target - deficit.valid)
  if 0 < lack then
    let unsigned ← signed64? (generated.toNat + deficit.unattested)
    return clampToCount unsigned
  else return 0

namespace PoolStatus

variable (status : PoolStatus) (extra : UInt32)

/-- Counts of 32 bits keep every number of a deficit far below 64 bits. -/
theorem deficit_bounds :
    let deficit := status.deficit extra
    (-0x100000000 < deficit.unattested ∧ deficit.unattested < 0x100000000) ∧
      (-0x100000000 < deficit.valid ∧ deficit.valid < 0x100000000) ∧
      (-0x100000000 < deficit.inUse ∧ deficit.inUse < 0x100000000) ∧
      -0x100000000 < deficit.target ∧ deficit.target < 0x200000000 := by
  have htotal := status.total.toNat_lt
  have hattested := status.attested.toNat_lt
  have hunassigned := status.unassigned.toNat_lt
  have hexpiring := status.expiring.toNat_lt
  have hextra := extra.toNat_lt
  simp only [deficit]
  omega

theorem deficit64?_eq_some : status.deficit64? extra = some (status.deficit extra) := by
  obtain ⟨hunattested, hvalid, hinUse, htarget⟩ := deficit_bounds status extra
  simp only [deficit] at hunattested hvalid hinUse htarget
  simp (disch := omega) only [deficit64?, signed64?_eq_some, Option.bind_eq_bind, Option.bind_some]
  rfl

theorem keysToGenerate64?_eq_some :
    (status.deficit extra).keysToGenerate64? = some (status.deficit extra).keysToGenerate := by
  obtain ⟨hunattested, hvalid, -, htarget⟩ := deficit_bounds status extra
  simp (disch := omega) only [Deficit.keysToGenerate64?, signed64?_eq_some, Option.bind_eq_bind,
    Option.bind_some]
  rfl

theorem keysToSign64?_eq_some (generated : UInt32) :
    (status.deficit extra).keysToSign64? generated =
      some ((status.deficit extra).keysToSign generated) := by
  obtain ⟨hunattested, hvalid, -, htarget⟩ := deficit_bounds status extra
  have hgenerated := generated.toNat_lt
  simp (disch := omega) only [Deficit.keysToSign64?, signed64?_eq_some, Option.bind_eq_bind,
    Option.bind_some, Deficit.keysToSign]
  split <;> rfl

end PoolStatus

/-! ## The calls -/

/-- The turn in which the custodian makes a pair. -/
def Turn.made (testMode : Bool) (level : SecurityLevel) : Turn :=
  ⟨.generateKeyPair testMode level, .answered (.ok ())⟩

namespace Cycle

/-- How making pairs ends of which so many are made: with all of them, or at a call in which the
custodian makes none. -/
inductive MakingEnd (testMode : Bool) (level : SecurityLevel) (count made : Nat) :
    List Turn → Except Halt Unit → Prop
  | complete (all : made = count) : MakingEnd testMode level count made [] (.ok ())
  | broken (short : made < count) {reply : Reply Unit} {halt : Halt}
      (failed : reply.ending = .error halt) :
      MakingEnd testMode level count made [⟨.generateKeyPair testMode level, reply⟩] (.error halt)

/-- While nobody stops it, pairs are made one after another up to the number asked for or to the
first that fails. -/
theorem generatePairs_course {testMode : Bool} {level : SecurityLevel} {delay wait : UInt64}
    {count : Nat} {turns : List Turn} {ending : Except Halt Unit}
    (h : (generatePairs testMode level delay count wait).Goes False turns ending) :
    ∃ made last, turns = List.replicate made (.made testMode level) ++ last ∧
      MakingEnd testMode level count made last ending := by
  induction count generalizing wait turns with
  | zero =>
    obtain ⟨rfl, rfl⟩ := Procedure.goes_pure_iff.mp h
    exact ⟨0, [], rfl, .complete rfl⟩
  | succ count ih =>
    rw [generatePairs] at h
    rcases of_pause_bind h with hgo | ⟨-, stopped, -⟩
    · rcases of_ask_bind hgo with ⟨_, rest, hrest, rfl⟩ | ⟨halt, hask, rfl⟩
      · -- one pair is made, and one fewer is asked for in the rest
        obtain ⟨made, last, rfl, hend⟩ := ih hrest
        refine ⟨made + 1, last, by rw [List.replicate_succ]; rfl, ?_⟩
        cases hend with
        | complete all => exact .complete (congrArg (· + 1) all)
        | broken short failed => exact .broken (Nat.succ_lt_succ short) failed
      · obtain ⟨reply, rfl, hfailed⟩ := Procedure.goes_ask_iff.mp hask
        exact ⟨0, _, rfl, .broken (Nat.succ_pos count) hfailed⟩
    · exact stopped.elim

section TopUp

variable {σ : Type} {surroundings : Surroundings σ} {status : PoolStatus} {state counted : σ}

/-- Once the status is known, what is left is to make the pairs and to answer. -/
theorem generateKeys_of_counted (config : Config) (now : Nat) (level : SecurityLevel)
    (window : UInt64) (extra : UInt32)
    (counts : surroundings.reply (.poolStatus (expirationHorizon now window) level) state =
      (.answered (.ok status), counted)) :
    let attempt := (generateKeys config now level window extra).run
    let rest : Procedure UInt32 :=
      generatePairs config.testMode level (if status.total = 0 then 0 else config.pauseMillis)
        (status.deficit extra).keysToGenerate.toNat 0 >>= fun _ => pure (status.estimate extra)
    attempt.turns surroundings state =
        ⟨.poolStatus (expirationHorizon now window) level, .answered (.ok status)⟩ ::
          rest.run.turns surroundings counted ∧
      (attempt.run surroundings state).value = (rest.run.run surroundings counted).value :=
  Procedure.ask_bind_of_answered counts

/-- Topping up a pool, with a custodian that tells its status and then does as it likes, and a
stop signal that nobody raises. The status is asked for once. Then pairs are made as often as the
loop goes round, or to the greatest count of 32 bits, and the answer is the number of keys that
then need a signature, clamped to 32 bits. The first pair that fails is the last call, and its
fault is the result. No number of the computation leaves 64 bits. -/
theorem generateKeys_refines_loop (unraised : ∀ state, surroundings.isStopped state = false)
    (config : Config) (now : Nat) (level : SecurityLevel) (window : UInt64) (extra : UInt32)
    (counts : surroundings.reply (.poolStatus (expirationHorizon now window) level) state =
      (.answered (.ok status), counted)) :
    let attempt := (generateKeys config now level window extra).run
    let deficit := status.deficit extra
    let count := min (deficit.iterations 0) (UInt32.size - 1)
    (∃ made last ending,
      attempt.turns surroundings state =
        ⟨.poolStatus (expirationHorizon now window) level, .answered (.ok status)⟩ ::
          (List.replicate made (.made config.testMode level) ++ last) ∧
      MakingEnd config.testMode level count made last ending ∧
      (attempt.run surroundings state).value =
        Halt.valueOf (ending.map fun _ => status.estimate extra)) ∧
    ((status.estimate extra).toNat : Int) =
      min (max (deficit.signatures count) 0) (UInt32.size - 1) ∧
    status.deficit64? extra = some deficit ∧
    deficit.keysToGenerate64? = some deficit.keysToGenerate ∧
    ∀ generated, deficit.keysToSign64? generated = some (deficit.keysToSign generated) := by
  intro attempt deficit count
  have hcount : deficit.keysToGenerate.toNat = count := deficit.toNat_keysToGenerate
  refine ⟨?_, ?_, status.deficit64?_eq_some extra, status.keysToGenerate64?_eq_some extra,
    status.keysToSign64?_eq_some extra⟩
  · obtain ⟨hturns, hvalue⟩ := generateKeys_of_counted config now level window extra counts
    have hnever : ∀ state, surroundings.isStopped state = true → False :=
      fun state raised => Bool.noConfusion ((unraised state).symm.trans raised)
    obtain ⟨ending, hending, hgoes⟩ := Procedure.exists_goes surroundings hnever _ counted
    rw [← hending] at hvalue
    obtain ⟨pairs, hpairs, rfl⟩ : ∃ pairs, (generatePairs config.testMode level
        (if status.total = 0 then 0 else config.pauseMillis) count 0).Goes False _ pairs ∧
        ending = pairs.map fun _ => status.estimate extra := by
      rw [← hcount]
      rcases of_bind_pure hgoes with ⟨_, hpairs, rfl⟩ | ⟨halt, hpairs, rfl⟩
      · exact ⟨.ok (), hpairs, rfl⟩
      · exact ⟨.error halt, hpairs, rfl⟩
    obtain ⟨made, last, hmade, hend⟩ := generatePairs_course hpairs
    exact ⟨made, last, pairs, hturns.trans (congrArg _ hmade), hend, hvalue⟩
  · rw [← hcount]
    exact deficit.toNat_keysToSign deficit.keysToGenerate

end TopUp

/-- A pool whose counts contradict each other, with a custodian that makes three of the five
pairs that are missing: the fourth pair is the last call. -/
theorem generateKeys_refines_loop_limited :
    let status : PoolStatus := ⟨1, 3, 4, 2⟩
    let attempt := (generateKeys .default 0 .strongBox 0 5).run
    (status.deficit 5).iterations 0 = 5 ∧ status.estimate 5 = 3 ∧
      status.deficit64? 5 = some ⟨-2, 1, -1, 4⟩ ∧
      ∃ (reply : Reply Unit) (halt : Halt), reply.ending = .error halt ∧
        attempt.turns limited (status, 3) = ⟨.poolStatus 0 .strongBox, .answered (.ok status)⟩ ::
          (List.replicate 3 (.made false .strongBox) ++
            [⟨.generateKeyPair false .strongBox, reply⟩]) ∧
        (attempt.run limited (status, 3)).value = Halt.valueOf (.error halt) := by
  intro status attempt
  have hfive : (status.deficit 5).iterations 0 = 5 := by
    rw [Deficit.iterations_eq]
    decide
  have hlength : (attempt.turns limited (status, 3)).length = 5 := by decide +kernel
  obtain ⟨⟨made, last, ending, hturns, hend, hvalue⟩, -, h64, -⟩ :=
    @generateKeys_refines_loop _ limited status (status, 3) (status, 3) (fun _ => rfl) .default 0
      .strongBox 0 5 rfl
  rw [hturns, List.length_cons, List.length_append, List.length_replicate] at hlength
  refine ⟨hfive, by decide, h64, ?_⟩
  cases hend with
  | complete all =>
    rw [all, hfive] at hlength
    exact absurd hlength (by decide)
  | broken short failed =>
    obtain rfl : made = 3 := by simpa using hlength
    exact ⟨_, _, failed, hturns, hvalue⟩

/-- The loop can go round more often than 32 bits can count. -/
example : (PoolStatus.deficit ⟨0, 4294967295, 0, 4294967295⟩ 4294967295).iterations 0 =
    12884901885 := by
  rw [Deficit.iterations_eq]
  decide

end Cycle

end KeyProvisioning
