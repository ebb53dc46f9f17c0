import KeyProvisioning.Der.Element
import KeyProvisioning.Proofs.Cbor.Heads

/-!
# Where DER elements end

A reader is prompt if what it answers is settled by the octets that it takes: whatever follows is
left and has no influence. The readers of identifiers, lengths and elements are prompt. Of a
sequence the content is cut off before it is read, so the reader of a sequence is prompt with any
reader inside.
-/

namespace KeyProvisioning.Der

open Cbor (Reads reads_splitExactly)

section Readers

variable {α β : Type}

/-- The reader takes all of the octets for this value. -/
def TakesWhole (read : Reader α) (x : α) (bs : Bytes) : Prop :=
  read bs = some (x, [])

/-- The reader takes octets exactly where it would take them alone, and leaves what follows
them. -/
def Prompt (read : Reader α) : Prop :=
  Reads read (TakesWhole read)

/-- A reader that fits any relation between values and octets is prompt. -/
theorem prompt_of_reads {read : Reader α} {written : α → Bytes → Prop} (h : Reads read written) :
    Prompt read := by
  refine h.congr fun x bs => ?_
  rw [TakesWhole, h bs x []]
  simp only [List.append_nil, exists_eq_left']

theorem prompt_of_forall {read : Reader α}
    (h : ∀ bs x rest, read bs = some (x, rest) →
      ∃ front, bs = front ++ rest ∧ ∀ other, read (front ++ other) = some (x, other)) :
    Prompt read := by
  intro bs x rest
  constructor
  · intro hread
    obtain ⟨front, hbs, hfront⟩ := h bs x rest hread
    have hwhole := hfront []
    rw [List.append_nil] at hwhole
    exact ⟨front, hbs, hwhole⟩
  · rintro ⟨front, rfl, hwhole⟩
    obtain ⟨front', heq, hfront⟩ := h front x [] hwhole
    rw [List.append_nil] at heq
    rw [heq]
    exact hfront rest

theorem Prompt.exists_front {read : Reader α} (h : Prompt read) {bs rest : Bytes} {x : α}
    (hread : read bs = some (x, rest)) :
    ∃ front, bs = front ++ rest ∧ ∀ other, read (front ++ other) = some (x, other) := by
  obtain ⟨front, hbs, hwhole⟩ := (h bs x rest).mp hread
  exact ⟨front, hbs, h.append hwhole⟩

theorem prompt_pure (x : α) : Prompt fun bs => some (x, bs) :=
  prompt_of_reads (Reads.pure x)

theorem prompt_none : Prompt fun _ : Bytes => (none : Option (α × Bytes)) := by
  apply prompt_of_forall
  rintro _ _ _ ⟨⟩

/-- Prompt readers one after the other, where the value of the first may choose the second. -/
theorem Prompt.bind {read : Reader α} {next : α → Reader β} (h : Prompt read)
    (hnext : ∀ x, Prompt (next x)) : Prompt fun bs => (read bs).bind fun p => next p.1 p.2 := by
  apply prompt_of_forall
  intro bs y rest hread
  obtain ⟨⟨x, middle⟩, hx, hy⟩ := Option.bind_eq_some_iff.mp hread
  obtain ⟨front, rfl, hfront⟩ := h.exists_front hx
  obtain ⟨back, rfl, hback⟩ := (hnext x).exists_front hy
  refine ⟨front ++ back, (List.append_assoc ..).symm, ?_⟩
  intro other
  rw [List.append_assoc, hfront, Option.bind_some]
  exact hback other

theorem Prompt.map {read : Reader α} (h : Prompt read) (f : α → β) :
    Prompt fun bs => (read bs).map fun p => (f p.1, p.2) :=
  prompt_of_reads (Reads.map h f)

theorem Prompt.filterMap {read : Reader α} (h : Prompt read) (f : α → Option β) :
    Prompt fun bs => (read bs).bind fun p => (f p.1).map fun y => (y, p.2) :=
  prompt_of_reads (Reads.filterMap h f)

/-- Read an octet and go on as it says. -/
def afterOctet (next : UInt8 → Reader α) : Reader α
  | [] => none
  | b :: bs => next b bs

theorem prompt_afterOctet {next : UInt8 → Reader α} (h : ∀ b, Prompt (next b)) :
    Prompt (afterOctet next) := by
  apply prompt_of_forall
  intro bs x rest hread
  cases bs with
  | nil => cases hread
  | cons b bs =>
    obtain ⟨front, rfl, hfront⟩ := (h b).exists_front hread
    exact ⟨b :: front, rfl, hfront⟩

end Readers

/-! ## Elements -/

theorem prompt_readTagNumber (fuel number : Nat) : Prompt (readTagNumber fuel number) := by
  induction fuel generalizing number with
  | zero => exact prompt_none
  | succ fuel ih =>
    have heq : readTagNumber (fuel + 1) number = afterOctet fun b bs =>
        if b < 0x80 then some ((number * 128 + b.toNat % 128) % UInt32.size, bs)
        else readTagNumber fuel ((number * 128 + b.toNat % 128) % UInt32.size) bs := by
      funext bs
      cases bs <;> rfl
    rw [heq]
    apply prompt_afterOctet
    intro b
    by_cases hlast : b < 0x80
    · simp only [if_pos hlast]
      exact prompt_pure _
    · simp only [if_neg hlast]
      exact ih _

theorem prompt_readTag : Prompt readTag := by
  have heq : readTag = afterOctet fun b bs =>
      if b.toNat % 32 < 31 then
        some (⟨TagClass.ofBits (b.toNat / 64), b.toNat / 32 % 2 == 1, b.toNat % 32⟩, bs)
      else (readTagNumber tagNumberWidth 0 bs).map fun p =>
        (⟨TagClass.ofBits (b.toNat / 64), b.toNat / 32 % 2 == 1, p.1⟩, p.2) := by
    funext bs
    cases bs <;> rfl
  rw [heq]
  apply prompt_afterOctet
  intro b
  by_cases hshort : b.toNat % 32 < 31
  · simp only [if_pos hshort]
    exact prompt_pure _
  · simp only [if_neg hshort]
    exact (prompt_readTagNumber _ _).map _

theorem prompt_readLength : Prompt readLength := by
  have heq : readLength = afterOctet fun b bs =>
      if b < 0x80 then some (b.toNat, bs)
      else if b = 0x80 ∨ b = 0xFF then none
      else (splitExactly (b.toNat - 0x80) bs).bind fun p =>
        (if bigEndian p.1 < UInt64.size then some (bigEndian p.1) else none).map fun n =>
          (n, p.2) := by
    funext bs
    cases bs with
    | nil => rfl
    | cons b bs =>
      rw [readLength, afterOctet]
      split
      · rfl
      split
      · rfl
      cases splitExactly (b.toNat - 0x80) bs with
      | none => rfl
      | some p =>
        simp only [Option.bind_some]
        split <;> rfl
  rw [heq]
  apply prompt_afterOctet
  intro b
  by_cases hshort : b < 0x80
  · simp only [if_pos hshort]
    exact prompt_pure _
  by_cases hrefused : b = 0x80 ∨ b = 0xFF
  · simp only [if_neg hshort, if_pos hrefused]
    exact prompt_none
  · simp only [if_neg hshort, if_neg hrefused]
    exact (prompt_of_reads (reads_splitExactly _)).filterMap fun digits =>
      if bigEndian digits < UInt64.size then some (bigEndian digits) else none

theorem prompt_readHeader : Prompt readHeader := by
  have heq : readHeader = fun bs => (readTag bs).bind fun p =>
      (readLength p.2).map fun q => ((p.1, q.1), q.2) := by
    funext bs
    rw [readHeader]
    cases readTag bs <;> rfl
  rw [heq]
  exact prompt_readTag.bind fun tag => prompt_readLength.map fun length => (tag, length)

theorem prompt_readElement : Prompt readElement := by
  have heq : readElement = fun bs => (readHeader bs).bind fun p =>
      (splitExactly p.1.2 p.2).map fun q => (⟨p.1.1, q.1⟩, q.2) := by
    funext bs
    rw [readElement]
    cases readHeader bs <;> rfl
  rw [heq]
  exact prompt_readHeader.bind fun header =>
    (prompt_of_reads (reads_splitExactly header.2)).map (Element.mk header.1)

theorem prompt_readNumbered (number : Nat) : Prompt (readNumbered number) := by
  have heq : readNumbered number = fun bs => (readElement bs).bind fun p =>
      (if p.1.tag.number = number then some p.1.content else none).map fun content =>
        (content, p.2) := by
    funext bs
    rw [readNumbered]
    cases readElement bs with
    | none => rfl
    | some p =>
      simp only [Option.bind_some]
      split <;> rfl
  rw [heq]
  exact prompt_readElement.filterMap fun element =>
    if element.tag.number = number then some element.content else none

/-- What the reader inside leaves of the content is passed over, so it need not be prompt
itself. -/
theorem prompt_readSequence {α : Type} (front : Reader α) : Prompt (readSequence front) := by
  have heq : readSequence front = fun bs => (readNumbered sequenceTag bs).bind fun p =>
      ((front p.1).map Prod.fst).map fun x => (x, p.2) := by
    funext bs
    rw [readSequence]
    cases readNumbered sequenceTag bs with
    | none => rfl
    | some p =>
      simp only [Option.bind_some]
      cases front p.1 <;> rfl
  rw [heq]
  exact (prompt_readNumbered sequenceTag).filterMap fun content => (front content).map Prod.fst

/-! ## Elements of a given kind -/

theorem readNumbered_eq_some_iff {number : Nat} {bs content rest : Bytes} :
    readNumbered number bs = some (content, rest) ↔
      ∃ element, readElement bs = some (element, rest) ∧ element.tag.number = number ∧
        element.content = content := by
  rw [readNumbered]
  cases readElement bs with
  | none => simp
  | some p =>
    simp only [Option.ite_none_right_eq_some, Option.some.injEq, Prod.mk.injEq]
    constructor
    · rintro ⟨hnumber, rfl, rfl⟩
      exact ⟨_, rfl, hnumber, rfl⟩
    · rintro ⟨element, rfl, hnumber, hcontent⟩
      exact ⟨hnumber, hcontent, rfl⟩

theorem readSequence_eq_some_iff {α : Type} {front : Reader α} {bs rest : Bytes} {x : α} :
    readSequence front bs = some (x, rest) ↔
      ∃ element, readElement bs = some (element, rest) ∧ element.tag.number = sequenceTag ∧
        ∃ left, front element.content = some (x, left) := by
  have heq : readSequence front bs = (readNumbered sequenceTag bs).bind fun p =>
      (front p.1).map fun q => (q.1, p.2) := by
    rw [readSequence]
    cases readNumbered sequenceTag bs <;> rfl
  simp only [heq, Option.bind_eq_some_iff, Option.map_eq_some_iff, Prod.exists, Prod.mk.injEq,
    readNumbered_eq_some_iff]
  constructor
  · rintro ⟨_, _, ⟨element, hread, hnumber, rfl⟩, _, left, hfront, rfl, rfl⟩
    exact ⟨element, hread, hnumber, left, hfront⟩
  · rintro ⟨element, hread, hnumber, left, hfront⟩
    exact ⟨_, rest, ⟨element, hread, hnumber, rfl⟩, x, left, hfront, rfl, rfl⟩

/-- What comes next is left, or it is an element of the given tag number. -/
theorem of_readOptional {number : Nat} {bs rest : Bytes} {content? : Option Bytes}
    (h : readOptional number bs = some (content?, rest)) :
    (content? = none ∧ rest = bs) ∨
      ∃ element, content? = some element.content ∧ readElement bs = some (element, rest) ∧
        element.tag.number = number := by
  unfold readOptional at h
  split at h
  · cases h
  · cases h
    exact .inl ⟨rfl, rfl⟩
  · rename_i hstarts
    cases hread : readElement bs with
    | none => simp [hread] at h
    | some p =>
      obtain ⟨element, rest'⟩ := p
      simp only [hread, Option.ite_none_right_eq_some, Option.some.injEq, Prod.mk.injEq] at h
      obtain ⟨-, rfl, rfl⟩ := h
      refine .inr ⟨element, rfl, rfl, ?_⟩
      unfold startsWith? at hstarts
      unfold readElement at hread
      cases hheader : readHeader bs with
      | none => simp [hheader] at hread
      | some q =>
        obtain ⟨⟨tag, length⟩, behind⟩ := q
        simp only [hheader, Option.map_eq_some_iff, Prod.exists, Prod.mk.injEq] at hread
        obtain ⟨_, _, -, rfl, -⟩ := hread
        split at hstarts
        · cases hstarts
        · simpa [hheader] using hstarts

end KeyProvisioning.Der
