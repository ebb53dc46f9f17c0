import KeyProvisioning.Cbor.Head
import KeyProvisioning.Proofs.Cbor.Items

/-!
# Written byte strings

The writer puts down one of the encodings of an array of byte strings, as long as every length in
it can stand in a head. An encoding is never shorter than a string inside it, so whatever has
been read from a message that is not too long itself can be written again.
-/

namespace KeyProvisioning.Cbor

/-! ## What is written -/

/-- The octets of the argument are those of the number, if it fits their width. -/
theorem lead_bigEndianBytes (major : Nat) {k n : Nat} (width : k < 4)
    (h : n < Nat.pow 256 (Nat.pow 2 k)) :
    Lead major (24 + k) (some n)
      (UInt8.ofNat (major * 32 + (24 + k)) :: bigEndianBytes (Nat.pow 2 k) n) := by
  have hlead : Lead major (24 + k) _ _ :=
    Lead.wide width (length_bigEndianBytes (Nat.pow 2 k) n)
  rwa [bigEndian_bigEndianBytes h] at hlead

/-- The shortest head announces its argument, whatever its width. -/
theorem lead_writeHead (major : Nat) {n : Nat} (h : n < UInt64.size) :
    ∃ info, Lead major info (some n) (writeHead major n) := by
  unfold writeHead
  split
  · rename_i hsmall
    exact ⟨n, .immediate hsmall⟩
  split
  · rename_i hone
    exact ⟨24, lead_bigEndianBytes major (k := 0) (by omega) hone⟩
  split
  · rename_i htwo
    exact ⟨25, lead_bigEndianBytes major (k := 1) (by omega) htwo⟩
  split
  · rename_i hfour
    exact ⟨26, lead_bigEndianBytes major (k := 2) (by omega) hfour⟩
  · exact ⟨27, lead_bigEndianBytes major (k := 3) (by omega) h⟩

theorem itemWritten_writeBytes (nested : Option (Item → Bytes → Prop)) {content : Bytes}
    (h : content.length < UInt64.size) :
    ItemWritten nested (.bytes content) (writeBytes content) := by
  have hhead : (Head.bytes (some content.length)).Written (writeHead 2 content.length) :=
    lead_writeHead 2 h
  have hbody : ItemBody nested (.bytes (some content.length)) (.bytes [content].flatten) content :=
    .bytes (.definite content)
  rw [List.flatten_singleton] at hbody
  exact .intro hhead hbody

theorem encodes_writeBytes (depth : Nat) {content : Bytes} (h : content.length < UInt64.size) :
    Encodes depth (.bytes content) (writeBytes content) := by
  cases depth <;> exact itemWritten_writeBytes _ h

theorem consecutive_writeBytes (depth : Nat) {contents : List Bytes}
    (h : ∀ content ∈ contents, content.length < UInt64.size) :
    Consecutive (Encodes depth) (contents.map .bytes) (contents.flatMap writeBytes) := by
  induction contents with
  | nil => exact .nil
  | cons content contents ih =>
    rw [List.forall_mem_cons] at h
    exact .cons (encodes_writeBytes depth h.1) (ih h.2)

theorem encodes_writeByteStrings (depth : Nat) {contents : List Bytes}
    (hcount : contents.length < UInt64.size)
    (h : ∀ content ∈ contents, content.length < UInt64.size) :
    Encodes (depth + 1) (.array (contents.map .bytes)) (writeByteStrings contents) := by
  have hhead : (Head.array (some (contents.map Item.bytes).length)).Written
      (writeHead 4 contents.length) := by
    rw [List.length_map]
    exact lead_writeHead 4 hcount
  exact .intro hhead (.array rfl (.definite (consecutive_writeBytes depth h)))

/-- What the writer puts down for a list of byte strings is an encoding of their array. -/
theorem encoded_writeByteStrings {contents : List Bytes} (hcount : contents.length < UInt64.size)
    (h : ∀ content ∈ contents, content.length < UInt64.size) :
    (Item.array (contents.map .bytes)).Encoded (writeByteStrings contents) :=
  encodes_writeByteStrings 255 hcount h

/-! ## The size of what was read -/

theorem Chunks.length_le {kind : StringKind} {chunks : List Bytes} {bs : Bytes}
    (h : Chunks kind chunks bs) : chunks.flatten.length ≤ bs.length := by
  induction h with
  | stop => exact Nat.zero_le _
  | chunk _ _ ih =>
    simp only [List.flatten_cons, List.length_append]
    omega
  | nested _ _ _ ihinner ih =>
    simp only [List.flatten_append, List.length_append]
    omega

theorem StringBody.length_le {kind : StringKind} {length : Option Nat} {chunks : List Bytes}
    {bs : Bytes} (h : StringBody kind length chunks bs) : chunks.flatten.length ≤ bs.length := by
  cases h with
  | definite => exact Nat.le_of_eq (congrArg List.length List.flatten_singleton)
  | indefinite written => exact written.length_le

theorem simpleItem?_cases {value : Nat} {item : Item} (h : simpleItem? value = some item) :
    (∃ b, item = .boolean b) ∨ item = .null := by
  unfold simpleItem? at h
  split at h <;> cases h
  · exact Or.inl ⟨false, rfl⟩
  · exact Or.inl ⟨true, rfl⟩
  · exact Or.inr rfl
  · exact Or.inr rfl

theorem ItemWritten.length_bytes_le {nested : Option (Item → Bytes → Prop)} {content bs : Bytes}
    (h : ItemWritten nested (.bytes content) bs) : content.length ≤ bs.length := by
  obtain ⟨_, after⟩ := h
  cases after with
  | bytes written => exact Nat.le_trans written.length_le (List.sublist_append_right ..).length_le
  | simple meaning =>
    obtain ⟨_, hitem⟩ | hitem := simpleItem?_cases meaning <;> cases hitem

/-- A byte string is no longer than its encoding. -/
theorem Encodes.length_bytes_le {depth : Nat} {content bs : Bytes}
    (h : Encodes depth (.bytes content) bs) : content.length ≤ bs.length := by
  cases depth <;> exact ItemWritten.length_bytes_le h

section Sequences

variable {α : Type} {written : α → Bytes → Prop} {xs : List α} {bs : Bytes}

/-- Each of consecutive values takes its part of the octets. -/
theorem Consecutive.exists_front (h : Consecutive written xs bs) {x : α} (hx : x ∈ xs) :
    ∃ front, written x front ∧ front.length ≤ bs.length := by
  induction h with
  | nil => cases hx
  | @cons _ _ front back first _ ih =>
    rw [List.length_append]
    obtain rfl | hx := List.mem_cons.mp hx
    · exact ⟨front, first, by omega⟩
    · obtain ⟨front', hfront', hle⟩ := ih hx
      exact ⟨front', hfront', by omega⟩

theorem Consecutive.length_le (h : Consecutive written xs bs) (hfirst : HeadFirst written) :
    xs.length ≤ bs.length := by
  induction h with
  | nil => exact Nat.le_refl 0
  | cons first _ ih =>
    obtain ⟨b, tail, rfl, -⟩ := hfirst.exists_octet first
    simp only [List.length_cons, List.length_append]
    omega

theorem SequenceBody.exists_consecutive {length : Option Nat}
    (h : SequenceBody written length xs bs) :
    ∃ body, Consecutive written xs body ∧ body.length ≤ bs.length := by
  cases h with
  | definite elements => exact ⟨_, elements, Nat.le_refl _⟩
  | indefinite elements => exact ⟨_, elements, (List.sublist_append_left ..).length_le⟩

end Sequences

theorem ItemWritten.exists_consecutive {nested : Option (Item → Bytes → Prop)}
    {elements : List Item} {bs : Bytes} (h : ItemWritten nested (.array elements) bs) :
    ∃ item body, nested = some item ∧ Consecutive item elements body ∧
      body.length ≤ bs.length := by
  obtain ⟨_, after⟩ := h
  cases after with
  | array inside written =>
    obtain ⟨body, hbody, hle⟩ := written.exists_consecutive
    exact ⟨_, body, inside, hbody, Nat.le_trans hle (List.sublist_append_right ..).length_le⟩
  | simple meaning =>
    obtain ⟨_, hitem⟩ | hitem := simpleItem?_cases meaning <;> cases hitem

/-- The elements of an array follow one another inside its encoding. -/
theorem Encodes.exists_consecutive {depth : Nat} {elements : List Item} {bs : Bytes}
    (h : Encodes depth (.array elements) bs) :
    ∃ inner body, Consecutive (Encodes inner) elements body ∧ body.length ≤ bs.length := by
  cases depth with
  | zero =>
    obtain ⟨_, _, hnone, -⟩ := ItemWritten.exists_consecutive h
    cases hnone
  | succ inner =>
    obtain ⟨_, body, hinner, hbody, hle⟩ := ItemWritten.exists_consecutive h
    cases hinner
    exact ⟨inner, body, hbody, hle⟩

/-- Neither the number of byte strings in an array nor the length of one exceeds that of its
encoding. -/
theorem Encodes.byteStrings_le {depth : Nat} {contents : List Bytes} {bs : Bytes}
    (h : Encodes depth (.array (contents.map .bytes)) bs) :
    contents.length ≤ bs.length ∧ ∀ content ∈ contents, content.length ≤ bs.length := by
  obtain ⟨inner, body, hbody, hle⟩ := h.exists_consecutive
  constructor
  · calc
      contents.length = (contents.map Item.bytes).length := (List.length_map ..).symm
      _ ≤ body.length := hbody.length_le (headFirst_encodes inner)
      _ ≤ bs.length := hle
  · intro content hmem
    obtain ⟨front, hfront, hshort⟩ := hbody.exists_front (List.mem_map_of_mem hmem)
    calc
      content.length ≤ front.length := hfront.length_bytes_le
      _ ≤ body.length := hshort
      _ ≤ bs.length := hle

end KeyProvisioning.Cbor
