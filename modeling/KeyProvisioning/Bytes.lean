/-!
# Byte strings

Byte strings are lists of octets, so that readers recurse on them directly. The two operations here
cut an exact number of octets off the front and read octets as an unsigned big-endian number.
-/

namespace KeyProvisioning

/-- A finite string of octets. -/
abbrev Bytes := List UInt8

/-- A reader takes what it reads off the front and answers it with the rest. -/
abbrev Reader (α : Type) := Bytes → Option (α × Bytes)

/-- Cut exactly `n` octets off the front, or answer nothing when fewer are there. -/
def splitExactly : Nat → Bytes → Option (Bytes × Bytes)
  | 0, bs => some ([], bs)
  | _ + 1, [] => none
  | n + 1, b :: bs =>
    match splitExactly n bs with
    | some (front, back) => some (b :: front, back)
    | none => none

/-- The cut loses no octet and takes exactly as many as were asked for. -/
theorem splitExactly_eq_some_iff {n : Nat} {bs front back : Bytes} :
    splitExactly n bs = some (front, back) ↔ bs = front ++ back ∧ front.length = n := by
  induction n generalizing bs front back with
  | zero => cases front <;> simp [splitExactly, eq_comm]
  | succ n ih =>
    cases bs with
    | nil => cases front <;> simp [splitExactly]
    | cons b bs =>
      cases h : splitExactly n bs with
      | none =>
        simp only [splitExactly, h, reduceCtorEq, false_iff]
        rintro ⟨heq, hlen⟩
        cases front with
        | nil => simp at hlen
        | cons c front =>
          simp only [List.cons_append, List.cons.injEq] at heq
          have := ih.2 ⟨heq.2, by simpa using hlen⟩
          simp [h] at this
      | some p =>
        obtain ⟨f, k⟩ := p
        have hp := ih.1 h
        simp only [splitExactly, h, Option.some.injEq, Prod.mk.injEq]
        constructor
        · rintro ⟨rfl, rfl⟩
          exact ⟨by simp [hp.1], by simp [hp.2]⟩
        · rintro ⟨heq, hlen⟩
          cases front with
          | nil => simp at hlen
          | cons c front =>
            simp only [List.cons_append, List.cons.injEq] at heq
            have := ih.2 ⟨heq.2, by simpa using hlen⟩
            rw [h] at this
            simp only [Option.some.injEq, Prod.mk.injEq] at this
            simp [heq.1, this.1, this.2]

/-- The unsigned number written by the octets, most significant first. -/
def bigEndian (bs : Bytes) : Nat :=
  bs.foldl (fun n b => n * 256 + b.toNat) 0

@[simp] theorem bigEndian_nil : bigEndian [] = 0 := rfl

/-- One more octet shifts the number by eight binary places. -/
theorem bigEndian_append_singleton (bs : Bytes) (b : UInt8) :
    bigEndian (bs ++ [b]) = bigEndian bs * 256 + b.toNat := by
  simp [bigEndian]

end KeyProvisioning
