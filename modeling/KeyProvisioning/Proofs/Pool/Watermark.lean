import KeyProvisioning.Proofs.Pool.Reconciliation

/-!
# The watermark of a pool

The pairs that are made and the keys that are then signed bring the valid keys of a pool to its
target and not past what is needed: no pair is made that a signed one could replace, none is left
without a signature, and no signature is asked for without a pair. A greater buffer never asks
for less.
-/

namespace KeyProvisioning

theorem clampToCount_mono {m n : Int} (h : m ≤ n) : clampToCount m ≤ clampToCount n := by
  rw [UInt32.le_iff_toNat_le, toNat_clampToCount, toNat_clampToCount]
  omega

namespace PoolStatus

variable {status : PoolStatus} {extra more : UInt32}

/-! ## A greater buffer -/

theorem lack_mono (h : extra ≤ more) : status.lack extra ≤ status.lack more := by
  have hle := UInt32.le_iff_toNat_le.mp h
  rw [lack_eq, lack_eq]
  omega

theorem shortfall_mono (h : extra ≤ more) : status.shortfall extra ≤ status.shortfall more := by
  have hle : status.lack extra ≤ status.lack more := lack_mono h
  rw [shortfall_eq, shortfall_eq]
  omega

theorem keysToGenerate_mono (h : extra ≤ more) :
    (status.deficit extra).keysToGenerate ≤ (status.deficit more).keysToGenerate := by
  rw [keysToGenerate_eq, keysToGenerate_eq]
  exact clampToCount_mono (shortfall_mono h)

theorem estimate_mono (h : extra ≤ more) : status.estimate extra ≤ status.estimate more := by
  have hgenerate : (status.deficit extra).keysToGenerate.toNat ≤
      (status.deficit more).keysToGenerate.toNat :=
    UInt32.le_iff_toNat_le.mp (keysToGenerate_mono h)
  have hlack : status.lack extra ≤ status.lack more := lack_mono h
  rw [estimate_eq, estimate_eq]
  by_cases hpos : 0 < status.lack extra
  · rw [if_pos hpos, if_pos (by omega)]
    exact clampToCount_mono (by omega)
  · rw [if_neg hpos]
    exact UInt32.zero_le

/-! ## Sound pools -/

theorem estimate_eq_zero (h : ¬ 0 < status.lack extra) : status.estimate extra = 0 := by
  rw [estimate_eq, if_neg h]

/-- While valid keys are lacking, every pair without a signature is signed, the new ones as
well. -/
theorem Sound.estimate_of_lack (sound : status.Sound extra) (h : 0 < status.lack extra) :
    ((status.estimate extra).toNat : Int) =
      (status.deficit extra).unattested + (status.deficit extra).keysToGenerate.toNat := by
  have hattested := sound.attested_le
  rw [sound.toNat_estimate, sound.toNat_keysToGenerate, if_pos h]
  simp only [deficit]
  omega

/-- Pairs are made only while valid keys are lacking, and then exactly as many as are missing. -/
theorem Sound.of_generates (sound : status.Sound extra)
    (h : 0 < (status.deficit extra).keysToGenerate) :
    0 < status.lack extra ∧
      (status.deficit extra).unattested + (status.deficit extra).valid +
        (status.deficit extra).keysToGenerate.toNat = (status.deficit extra).target := by
  have hpos := UInt32.lt_iff_toNat_lt.mp h
  have hattested := sound.attested_le
  have hlack := shortfall_eq status extra
  rw [sound.toNat_keysToGenerate] at hpos ⊢
  rw [UInt32.toNat_zero] at hpos
  constructor
  · omega
  · simp only [shortfall, lack] at hpos ⊢
    omega

/-- The pairs made and the unsigned ones are all that is missing while valid keys are lacking. -/
theorem Sound.lack_le (sound : status.Sound extra) :
    status.lack extra ≤
      (status.deficit extra).unattested + (status.deficit extra).keysToGenerate.toNat := by
  have hshort : status.shortfall extra = status.lack extra - (status.deficit extra).unattested :=
    rfl
  rw [sound.toNat_keysToGenerate]
  omega

/-- Making the pairs that are missing and signing what then has no signature is enough for the
target, and not too much: a pair is made only if the target needs it, and it is signed; keys are
signed exactly while valid ones are lacking, and no more than have no signature. A greater buffer
asks for no fewer pairs and no fewer signatures. -/
theorem watermark_reached (sound : status.Sound extra) :
    let deficit := status.deficit extra
    let generated := deficit.keysToGenerate
    let signed := deficit.keysToSign generated
    deficit.target ≤ deficit.valid + signed.toNat ∧
    (0 < generated → deficit.unattested + deficit.valid + generated.toNat = deficit.target) ∧
    (0 < signed ↔ deficit.valid < deficit.target) ∧
    (0 < generated → generated ≤ signed) ∧
    (signed.toNat : Int) ≤ deficit.unattested + generated.toNat ∧
    ∀ more, extra ≤ more →
      generated ≤ (status.deficit more).keysToGenerate ∧
        status.estimate extra ≤ status.estimate more := by
  intro deficit generated signed
  have hunattested : 0 ≤ deficit.unattested :=
    Int.sub_nonneg_of_le (Int.ofNat_le.mpr sound.attested_le)
  have htight (h : 0 < generated) := (sound.of_generates h).2
  have hmono (more : UInt32) (h : extra ≤ more) :
      generated ≤ (status.deficit more).keysToGenerate ∧
        status.estimate extra ≤ status.estimate more :=
    ⟨keysToGenerate_mono h, estimate_mono h⟩
  by_cases hlack : 0 < status.lack extra
  · have hlow : deficit.valid < deficit.target := Int.lt_of_sub_pos hlack
    have hall : (signed.toNat : Int) = deficit.unattested + generated.toNat :=
      sound.estimate_of_lack hlack
    have henough : deficit.target - deficit.valid ≤ signed.toNat := hall ▸ sound.lack_le
    refine ⟨by omega, htight, iff_of_true ?_ hlow, fun _ => ?_, Int.le_of_eq hall, hmono⟩
    · rw [UInt32.lt_iff_toNat_lt, UInt32.toNat_zero]
      omega
    · rw [UInt32.le_iff_toNat_le]
      omega
  · have hhigh : ¬ deficit.valid < deficit.target := fun h => hlack (Int.sub_pos_of_lt h)
    have hnone : signed = 0 := estimate_eq_zero hlack
    have hidle (h : 0 < generated) : False := hlack (sound.of_generates h).1
    rw [hnone, UInt32.toNat_zero]
    exact ⟨by omega, htight, iff_of_false (by decide) hhigh, fun h => (hidle h).elim, by omega,
      hmono⟩

/-- A pool in which six pairs are made and eight keys are signed for a buffer of nine. -/
theorem watermark_reached_nine :
    let status : PoolStatus := ⟨10, 8, 2, 1⟩
    status.Sound 9 ∧ (status.deficit 9).keysToGenerate = 6 ∧ status.estimate 9 = 8 ∧
      (status.deficit 9).target ≤ (status.deficit 9).valid + (status.estimate 9).toNat ∧
      (status.deficit 9).unattested + (status.deficit 9).valid + 6 = (status.deficit 9).target ∧
      status.estimate 9 ≤ status.estimate 4294967295 := by
  intro status
  have sound : status.Sound 9 := ⟨by decide, by decide, by decide, by decide⟩
  obtain ⟨hreached, htight, -, -, -, hmono⟩ := watermark_reached sound
  exact ⟨sound, by decide, by decide, hreached, htight (by decide), (hmono _ (by decide)).2⟩

end PoolStatus

end KeyProvisioning
