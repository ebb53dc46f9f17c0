/-!
# The key pool

A status counts the attestation keys at one security level. From it and from the number of signed
keys to keep on hand the pool's deficit is computed in unbounded integers, so that counts which
contradict each other cannot wrap around, and is then clamped to a count of 32 bits.
-/

namespace KeyProvisioning

/-- Counts of the attestation keys at one security level. -/
structure PoolStatus where
  /-- All key pairs. -/
  total : UInt32
  /-- Pairs with a signed certificate. -/
  attested : UInt32
  /-- Attested pairs that no application uses yet. -/
  unassigned : UInt32
  /-- Attested pairs whose certificate expires soon. -/
  expiring : UInt32
  deriving DecidableEq, Repr, Inhabited

/-- What a pool has and what it should have. -/
structure Deficit where
  /-- Pairs that still need a signature. -/
  unattested : Int
  /-- Attested pairs that do not expire soon. -/
  valid : Int
  /-- Attested pairs that applications use. -/
  inUse : Int
  /-- Valid pairs that the pool should have. -/
  target : Int
  deriving DecidableEq, Repr

/-- The nearest count of 32 bits: nothing below zero, the greatest count above it. -/
def clampToCount (n : Int) : UInt32 :=
  UInt32.ofNat (min n.toNat (UInt32.size - 1))

/-- The instant, in milliseconds, before which the end of a certificate counts as soon: so long
after the present, or the greatest number of 63 bits. -/
def expirationHorizon (now : Nat) (window : UInt64) : Nat :=
  min (now + window.toNat) 0x7FFFFFFFFFFFFFFF

/-- Clamping keeps what fits and stops at both ends. -/
theorem toNat_clampToCount (n : Int) :
    (clampToCount n).toNat = min n.toNat (UInt32.size - 1) := by
  have h : min n.toNat (UInt32.size - 1) < UInt32.size := by
    have : 0 < UInt32.size := by decide
    omega
  exact UInt32.toNat_ofNat'.trans (Nat.mod_eq_of_lt h)

namespace PoolStatus

/-- The deficit of a pool that keeps `extra` signed keys beyond those in use. -/
def deficit (status : PoolStatus) (extra : UInt32) : Deficit :=
  let inUse : Int := status.attested.toNat - status.unassigned.toNat
  { unattested := status.total.toNat - status.attested.toNat
    valid := status.attested.toNat - status.expiring.toNat
    inUse
    target := inUse + extra.toNat }

end PoolStatus

namespace Deficit

/-- Key pairs to generate before the pool reaches its target. -/
def keysToGenerate (deficit : Deficit) : UInt32 :=
  clampToCount (deficit.target - deficit.unattested - deficit.valid)

/-- Keys that need a signature once `generated` new pairs exist. -/
def keysToSign (deficit : Deficit) (generated : UInt32) : UInt32 :=
  if 0 < deficit.target - deficit.valid then
    clampToCount (generated.toNat + deficit.unattested)
  else 0

end Deficit

namespace PoolStatus

/-- Keys that need a signature, assuming that every missing pair gets generated. -/
def estimate (status : PoolStatus) (extra : UInt32) : UInt32 :=
  (status.deficit extra).keysToSign (status.deficit extra).keysToGenerate

end PoolStatus

end KeyProvisioning
