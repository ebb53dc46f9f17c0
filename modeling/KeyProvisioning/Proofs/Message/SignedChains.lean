import KeyProvisioning.Message.SignedChains
import KeyProvisioning.Proofs.Cbor.Writing
import KeyProvisioning.Proofs.Message.Envelope

/-!
# The grammar of signed chains

Signed chains are decoded from the encodings of `[shared, [unique, ...]]`, in whatever way these
are written. Every other message is refused for the first check that it does not pass.
-/

namespace KeyProvisioning.SignedChains

open Cbor Message

/-- Why a message holds no signed chains, if every check before this one passes. -/
inductive Fails (bs : Bytes) : DecodeFault → Prop
  | envelope {fault : DecodeFault} (fails : EnvelopeFails bs fault) : Fails bs fault
  | arity {elements : List Item} (encoded : (Item.array elements).Encoded bs)
    (other : elements.length ≠ 2) : Fails bs .wrongArity
  | shared {shared unique : Item} (encoded : (Item.array [shared, unique]).Encoded bs)
    (other : ∀ content, shared ≠ .bytes content) : Fails bs .sharedCertificatesNotBytes
  | unique {shared : Bytes} {unique : Item}
    (encoded : (Item.array [.bytes shared, unique]).Encoded bs)
    (other : ∀ elements, unique ≠ .array elements) : Fails bs .uniqueCertificatesNotArray
  /-- One unique part anywhere in the list is no byte string. -/
  | entry {shared : Bytes} {unique : List Item}
    (encoded : (Item.array [.bytes shared, .array unique]).Encoded bs)
    (other : ∃ entry ∈ unique, ∀ content, entry ≠ .bytes content) :
    Fails bs .uniqueCertificateNotBytes

theorem ofElements_eq_ok_iff {shared unique : Item} {chains : List CertificateBlob} :
    ofElements shared unique = .ok chains ↔
      ∃ tail parts, shared = .bytes tail ∧ unique = .array (parts.map .bytes) ∧
        chains = ofParts tail parts := by
  simp only [ofElements, bind_eq_ok_iff, bytesOf_eq_ok_iff, elementsOf_eq_ok_iff,
    mapM_bytesOf_eq_ok_iff, pure, Except.pure, Except.ok.injEq]
  constructor
  · rintro ⟨tail, rfl, _, rfl, parts, rfl, rfl⟩
    exact ⟨tail, parts, rfl, rfl, rfl⟩
  · rintro ⟨tail, parts, rfl, rfl, rfl⟩
    exact ⟨tail, rfl, _, rfl, parts, rfl, rfl⟩

theorem ofElements_eq_error_iff {shared unique : Item} {fault : DecodeFault} :
    ofElements shared unique = .error fault ↔
      (fault = .sharedCertificatesNotBytes ∧ ∀ content, shared ≠ .bytes content) ∨
        ∃ tail, shared = .bytes tail ∧
          ((fault = .uniqueCertificatesNotArray ∧ ∀ elements, unique ≠ .array elements) ∨
            ∃ parts, unique = .array parts ∧ fault = .uniqueCertificateNotBytes ∧
              ∃ entry ∈ parts, ∀ content, entry ≠ .bytes content) := by
  simp only [ofElements, bind_eq_error_iff, bytesOf_eq_ok_iff, bytesOf_eq_error_iff,
    elementsOf_eq_ok_iff, elementsOf_eq_error_iff, mapM_bytesOf_eq_error_iff, pure, Except.pure,
    reduceCtorEq, and_false, exists_false, or_false]

theorem decode_eq_ok_iff {bs : Bytes} {chains : List CertificateBlob} :
    decode bs = .ok chains ↔
      ∃ shared unique, (Item.array [shared, unique]).Encoded bs ∧
        ofElements shared unique = .ok chains := by
  simp only [decode, bind_eq_ok_iff, topLevel_eq_ok_iff]
  constructor
  · rintro ⟨elements, encoded, h⟩
    split at h
    · exact ⟨_, _, encoded, h⟩
    · cases h
  · rintro ⟨shared, unique, encoded, h⟩
    exact ⟨[shared, unique], encoded, h⟩

theorem decode_eq_error_iff {bs : Bytes} {fault : DecodeFault} :
    decode bs = .error fault ↔
      EnvelopeFails bs fault ∨
        (∃ elements, (Item.array elements).Encoded bs ∧ elements.length ≠ 2 ∧
          fault = .wrongArity) ∨
          ∃ shared unique, (Item.array [shared, unique]).Encoded bs ∧
            ofElements shared unique = .error fault := by
  simp only [decode, bind_eq_error_iff, topLevel_eq_ok_iff, topLevel_eq_error_iff]
  apply or_congr_right
  constructor
  · rintro ⟨elements, encoded, h⟩
    split at h
    · exact Or.inr ⟨_, _, encoded, h⟩
    · rename_i hother
      cases h
      refine Or.inl ⟨elements, encoded, ?_, rfl⟩
      intro hlength
      match elements, hlength with
      | [shared, unique], _ => exact hother shared unique rfl
  · rintro (⟨elements, encoded, hlength, rfl⟩ | ⟨shared, unique, encoded, h⟩)
    · refine ⟨elements, encoded, ?_⟩
      split
      · exact absurd rfl hlength
      · rfl
    · exact ⟨[shared, unique], encoded, h⟩

/-- The chains of a message are the unique parts in their order, each followed by the shared
part, exactly if the message is an encoding of the two. Otherwise the fault is that of the first
check that does not pass, and it is reported exactly then. -/
theorem signedChains_grammar (bs : Bytes) :
    (∀ chains, decode bs = .ok chains ↔
      ∃ (shared : Bytes) (unique : List Bytes),
        (Item.array [.bytes shared, .array (unique.map .bytes)]).Encoded bs ∧
          chains = unique.map fun part => ⟨part ++ shared⟩) ∧
      ∀ fault, decode bs = .error fault ↔ Fails bs fault := by
  constructor
  · intro chains
    simp only [decode_eq_ok_iff, ofElements_eq_ok_iff]
    constructor
    · rintro ⟨_, _, encoded, shared, unique, rfl, rfl, rfl⟩
      exact ⟨shared, unique, encoded, rfl⟩
    · rintro ⟨shared, unique, encoded, rfl⟩
      exact ⟨_, _, encoded, shared, unique, rfl, rfl, rfl⟩
  · intro fault
    rw [decode_eq_error_iff]
    simp only [ofElements_eq_error_iff]
    constructor
    · rintro (fails | ⟨elements, encoded, hlength, rfl⟩ | ⟨shared, unique, encoded, h⟩)
      · exact .envelope fails
      · exact .arity encoded hlength
      · obtain ⟨rfl, other⟩ | ⟨tail, rfl, ⟨rfl, other⟩ | ⟨parts, rfl, rfl, other⟩⟩ := h
        · exact .shared encoded other
        · exact .unique encoded other
        · exact .entry encoded other
    · intro h
      cases h with
      | envelope fails => exact Or.inl fails
      | arity encoded other => exact Or.inr (Or.inl ⟨_, encoded, other, rfl⟩)
      | shared encoded other =>
        exact Or.inr (Or.inr ⟨_, _, encoded, Or.inl ⟨rfl, other⟩⟩)
      | unique encoded other =>
        exact Or.inr (Or.inr ⟨_, _, encoded, Or.inr ⟨_, rfl, Or.inl ⟨rfl, other⟩⟩⟩)
      | entry encoded other =>
        exact Or.inr (Or.inr ⟨_, _, encoded, Or.inr ⟨_, rfl, Or.inr ⟨_, rfl, rfl, other⟩⟩⟩)

/-- An array of indefinite length, a string in chunks and a head wider than needed change
nothing. -/
example :
    decode [0x9F, 0x5F, 0x41, 0x01, 0x41, 0x02, 0xFF, 0x98, 0x01, 0x59, 0x00, 0x01, 0x03, 0xFF] =
      .ok [⟨[0x03, 0x01, 0x02]⟩] := by
  rfl

/-! ## Written parts -/

section Written

variable {shared : Bytes} {unique : List Bytes}

/-- The parts of a message are found in one way only. -/
theorem parts_unique {bs shared' : Bytes} {unique' : List Bytes}
    (h : (Item.array [.bytes shared, .array (unique.map .bytes)]).Encoded bs)
    (h' : (Item.array [.bytes shared', .array (unique'.map .bytes)]).Encoded bs) :
    shared = shared' ∧ unique = unique' := by
  have htop := (topLevel_eq_ok_iff.mpr h).symm.trans (topLevel_eq_ok_iff.mpr h')
  obtain ⟨hshared, hunique⟩ : shared = shared' ∧ unique.map Item.bytes = unique'.map .bytes := by
    simpa only [Except.ok.injEq, List.cons.injEq, Item.bytes.injEq, Item.array.injEq, and_true]
      using htop
  exact ⟨hshared, (List.map_inj_right fun _ _ => Item.bytes.inj).mp hunique⟩

/-- The shortest message with these parts. -/
def write (shared : Bytes) (unique : List Bytes) : Bytes :=
  writeHead 4 2 ++ (writeBytes shared ++ writeByteStrings unique)

theorem encoded_write (hshared : shared.length < UInt64.size)
    (hcount : unique.length < UInt64.size) (hparts : ∀ part ∈ unique, part.length < UInt64.size) :
    (Item.array [.bytes shared, .array (unique.map .bytes)]).Encoded (write shared unique) := by
  have hhead : (Head.array (some 2)).Written (writeHead 4 2) := lead_writeHead 4 (by decide)
  have hbody : Consecutive (Encodes 255) [.bytes shared, .array (unique.map .bytes)]
      (writeBytes shared ++ (writeByteStrings unique ++ [])) :=
    .cons (encodes_writeBytes 255 hshared)
      (.cons (encodes_writeByteStrings 254 hcount hparts) .nil)
  rw [List.append_nil] at hbody
  exact .intro hhead (.array rfl (.definite hbody))

/-- What is written is decoded to the parts joined. -/
theorem decode_write (hshared : shared.length < UInt64.size) (hcount : unique.length < UInt64.size)
    (hparts : ∀ part ∈ unique, part.length < UInt64.size) :
    decode (write shared unique) = .ok (ofParts shared unique) :=
  decode_eq_ok_iff.mpr ⟨_, _, encoded_write hshared hcount hparts,
    ofElements_eq_ok_iff.mpr ⟨shared, unique, rfl, rfl, rfl⟩⟩

end Written

end KeyProvisioning.SignedChains
