import KeyProvisioning.Proofs.Cbor.Writing
import KeyProvisioning.Proofs.Message.KeyResponse

/-!
# Key material as a normal form

The chain of a response may be written in many ways, and the key material keeps none of them: it
is one encoding for each list of byte strings, and the list can be read back from it.
-/

namespace KeyProvisioning.KeyResponse

open Cbor Message

/-- The first element of the message is the list of these byte strings, in whatever way it is
written. -/
def Carries (bs : Bytes) (chain : List Bytes) : Prop :=
  ∃ elements, (Item.array (.array (chain.map .bytes) :: elements)).Encoded bs

theorem map_bytes_injective {chain chain' : List Bytes}
    (h : chain.map Item.bytes = chain'.map Item.bytes) : chain = chain' :=
  (List.map_inj_right fun _ _ => Item.bytes.inj).mp h

/-- A message carries one list. -/
theorem Carries.unique {bs : Bytes} {chain chain' : List Bytes} (h : Carries bs chain)
    (h' : Carries bs chain') : chain = chain' := by
  obtain ⟨elements, encoded⟩ := h
  obtain ⟨elements', encoded'⟩ := h'
  obtain ⟨heq, -⟩ := (reads_item maxDepth).unique encoded encoded' (rfl : bs ++ [] = bs ++ [])
  exact map_bytes_injective (Item.array.inj (List.cons.inj (Item.array.inj heq)).1)

/-- Neither the number nor the length of the byte strings exceeds the length of the message. -/
theorem Carries.length_le {bs : Bytes} {chain : List Bytes} (h : Carries bs chain) :
    chain.length ≤ bs.length ∧ ∀ content ∈ chain, content.length ≤ bs.length := by
  obtain ⟨elements, encoded⟩ := h
  obtain ⟨inner, body, hbody, hle⟩ := encoded.exists_consecutive
  obtain ⟨front, hfront, hshort⟩ := hbody.exists_front List.mem_cons_self
  obtain ⟨hcount, hlengths⟩ := hfront.byteStrings_le
  constructor
  · calc
      chain.length ≤ front.length := hcount
      _ ≤ body.length := hshort
      _ ≤ bs.length := hle
  · intro content hmem
    calc
      content.length ≤ front.length := hlengths content hmem
      _ ≤ body.length := hshort
      _ ≤ bs.length := hle

/-- The list that a message carries can be written as an encoding of it. -/
theorem Carries.encoded {bs : Bytes} {chain : List Bytes} (h : Carries bs chain)
    (fits : bs.length < UInt64.size) :
    (Item.array (chain.map .bytes)).Encoded (writeByteStrings chain) := by
  obtain ⟨hcount, hlengths⟩ := h.length_le
  apply encoded_writeByteStrings
  · exact Nat.lt_of_le_of_lt hcount fits
  · intro content hmem
    exact Nat.lt_of_le_of_lt (hlengths content hmem) fits

/-- A response that is accepted carries a list, and its key material is what is written for the
list. -/
theorem exists_carries {bs : Bytes} {response : KeyResponse} (h : decode bs = .ok response) :
    ∃ chain, Carries bs chain ∧ response.keyMaterial = writeByteStrings chain := by
  obtain ⟨_, challenge, policy, encoded, helements⟩ := decode_eq_ok_iff.mp h
  obtain ⟨chain, content, config, rfl, -, -, rfl⟩ := ofElements_eq_ok_iff.mp helements
  exact ⟨chain, ⟨_, encoded⟩, rfl⟩

/-- The key material of one message: what is written for its only list, and read back as it. -/
theorem exists_written {message : Bytes} {response : KeyResponse}
    (fits : message.length < UInt64.size) (accepted : decode message = .ok response) :
    ∃ chain : List Bytes, (∀ entries, Carries message entries ↔ entries = chain) ∧
      response.keyMaterial = writeByteStrings chain ∧
        readWhole response.keyMaterial = .ok (.array (chain.map .bytes)) := by
  obtain ⟨chain, carries, hmaterial⟩ := exists_carries accepted
  refine ⟨chain, ?_, hmaterial, ?_⟩
  · intro entries
    constructor
    · exact fun h => h.unique carries
    · rintro rfl
      exact carries
  · rw [hmaterial, readWhole_eq_ok_iff]
    exact carries.encoded fits

/-- Whatever way two messages are written in, the key material of each is one item that is the
list it carries, with nothing after it, and the two are the same octets exactly if the lists are
the same. The messages have fewer octets than a length of 64 bits can count, as all that stand in
memory. -/
theorem keyMaterial_normalForm {message message' : Bytes} {response response' : KeyResponse}
    (fits : message.length < UInt64.size) (fits' : message'.length < UInt64.size)
    (accepted : decode message = .ok response) (accepted' : decode message' = .ok response') :
    ∃ chain chain' : List Bytes,
      (∀ entries, Carries message entries ↔ entries = chain) ∧
        (∀ entries, Carries message' entries ↔ entries = chain') ∧
          readWhole response.keyMaterial = .ok (.array (chain.map .bytes)) ∧
            readWhole response'.keyMaterial = .ok (.array (chain'.map .bytes)) ∧
              (response.keyMaterial = response'.keyMaterial ↔ chain = chain') := by
  obtain ⟨chain, hcarries, hmaterial, hread⟩ := exists_written fits accepted
  obtain ⟨chain', hcarries', hmaterial', hread'⟩ := exists_written fits' accepted'
  refine ⟨chain, chain', hcarries, hcarries', hread, hread', ?_⟩
  constructor
  · intro hsame
    rw [hsame, hread', Except.ok.injEq, Item.array.injEq] at hread
    exact (map_bytes_injective hread).symm
  · rintro rfl
    rw [hmaterial, hmaterial']

/-- Two byte strings in shortest form. -/
def plainMessage : Bytes := [0x82, 0x82, 0x42, 0x01, 0x02, 0x41, 0x03, 0x40]

/-- The same two in arrays of indefinite length, the first in chunks and the second under a wide
head. -/
def chunkedMessage : Bytes :=
  [0x9F, 0x9F, 0x5F, 0x41, 0x01, 0x41, 0x02, 0xFF, 0x59, 0x00, 0x01, 0x03, 0xFF, 0x41, 0xAA, 0xFF]

/-- The two messages have the same key material, so they carry the same list. -/
theorem keyMaterial_normalForm_chunked :
    decode plainMessage = .ok ⟨[0x82, 0x42, 0x01, 0x02, 0x41, 0x03], [], ⟨none, none, none⟩⟩ ∧
      decode chunkedMessage =
        .ok ⟨[0x82, 0x42, 0x01, 0x02, 0x41, 0x03], [0xAA], ⟨none, none, none⟩⟩ ∧
        ∃ chain, Carries plainMessage chain ∧ Carries chunkedMessage chain ∧
          readWhole [0x82, 0x42, 0x01, 0x02, 0x41, 0x03] = .ok (.array (chain.map .bytes)) := by
  have accepted : decode plainMessage =
      .ok ⟨[0x82, 0x42, 0x01, 0x02, 0x41, 0x03], [], ⟨none, none, none⟩⟩ := by
    rfl
  have accepted' : decode chunkedMessage =
      .ok ⟨[0x82, 0x42, 0x01, 0x02, 0x41, 0x03], [0xAA], ⟨none, none, none⟩⟩ := by
    rfl
  obtain ⟨chain, chain', hcarries, hcarries', hread, -, hsame⟩ :=
    keyMaterial_normalForm (by decide) (by decide) accepted accepted'
  obtain rfl := hsame.mp rfl
  exact ⟨accepted, accepted', chain, (hcarries chain).mpr rfl, (hcarries' chain).mpr rfl, hread⟩

end KeyProvisioning.KeyResponse
