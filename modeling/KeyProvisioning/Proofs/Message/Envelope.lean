import KeyProvisioning.Message.Basic
import KeyProvisioning.Message.KeyResponse
import KeyProvisioning.Message.SignedChains
import KeyProvisioning.Proofs.Cbor.Items

/-!
# Messages as encodings

A message decodes to the elements of an array exactly if the whole of it is an encoding of that
array. Each fault of the envelope says what the message is instead, and the checks on elements
say the same of one element.
-/

namespace KeyProvisioning.Message

open Cbor

/-! ## Checks one after another -/

section Checks

variable {ε α β : Type} {first : Except ε α} {next : α → Except ε β}

theorem bind_eq_ok_iff {y : β} :
    (first >>= next) = .ok y ↔ ∃ x, first = .ok x ∧ next x = .ok y := by
  cases first with
  | ok x => simp [bind, Except.bind]
  | error fault => simp [bind, Except.bind]

/-- The fault that is reported is that of the first check that fails. -/
theorem bind_eq_error_iff {fault : ε} :
    (first >>= next) = .error fault ↔
      first = .error fault ∨ ∃ x, first = .ok x ∧ next x = .error fault := by
  cases first with
  | ok x => simp [bind, Except.bind]
  | error fault => simp [bind, Except.bind]

theorem eq_ok_of_toOption {x : α} (h : first.toOption = some x) : first = .ok x := by
  cases first with
  | ok y => exact congrArg _ (Option.some.inj h)
  | error fault => cases h

end Checks

theorem bytesOf_eq_ok_iff {fault : DecodeFault} {item : Item} {content : Bytes} :
    bytesOf fault item = .ok content ↔ item = .bytes content := by
  cases item <;> simp [bytesOf]

theorem bytesOf_eq_error_iff {expected fault : DecodeFault} {item : Item} :
    bytesOf expected item = .error fault ↔
      fault = expected ∧ ∀ content, item ≠ .bytes content := by
  cases item <;> simp [bytesOf, eq_comm]

theorem elementsOf_eq_ok_iff {fault : DecodeFault} {item : Item} {elements : List Item} :
    elementsOf fault item = .ok elements ↔ item = .array elements := by
  cases item <;> simp [elementsOf]

theorem elementsOf_eq_error_iff {expected fault : DecodeFault} {item : Item} :
    elementsOf expected item = .error fault ↔
      fault = expected ∧ ∀ elements, item ≠ .array elements := by
  cases item <;> simp [elementsOf, eq_comm]

theorem mapM_bytesOf_eq_ok_iff {fault : DecodeFault} {items : List Item} {contents : List Bytes} :
    items.mapM (bytesOf fault) = .ok contents ↔ items = contents.map .bytes := by
  induction items generalizing contents with
  | nil => simp [pure, Except.pure, eq_comm]
  | cons item items ih =>
    simp only [List.mapM_cons, bind_eq_ok_iff, bytesOf_eq_ok_iff, ih, pure, Except.pure]
    cases contents with
    | nil => simp
    | cons content contents => simp

/-- One item of another kind anywhere among the items is enough. -/
theorem mapM_bytesOf_eq_error_iff {expected fault : DecodeFault} {items : List Item} :
    items.mapM (bytesOf expected) = .error fault ↔
      fault = expected ∧ ∃ item ∈ items, ∀ content, item ≠ .bytes content := by
  induction items with
  | nil => simp [pure, Except.pure]
  | cons item items ih =>
    simp only [List.mapM_cons, bind_eq_error_iff, bytesOf_eq_error_iff, bytesOf_eq_ok_iff, ih]
    cases item <;> simp [pure, Except.pure]

/-! ## The whole message -/

/-- Why a message is no array that stands alone. -/
inductive EnvelopeFails (bs : Bytes) : DecodeFault → Prop
  /-- No item begins the message. -/
  | malformed (none_encoded : ∀ (item : Item) (front rest : Bytes), bs = front ++ rest →
      ¬ item.Encoded front) : EnvelopeFails bs .malformed
  /-- More octets follow the item that begins it. -/
  | trailing {item : Item} {front rest : Bytes} (split : bs = front ++ rest)
    (encoded : item.Encoded front) (more : rest ≠ []) : EnvelopeFails bs .trailingBytes
  /-- It is another item. -/
  | notAnArray {item : Item} (encoded : item.Encoded bs)
    (other : ∀ elements, item ≠ .array elements) : EnvelopeFails bs .notAnArray

theorem read_eq_none_iff {bs : Bytes} :
    Item.read bs = none ↔ ∀ (item : Item) (front rest : Bytes), bs = front ++ rest →
      ¬ item.Encoded front := by
  rw [Option.eq_none_iff_forall_ne_some]
  constructor
  · rintro h item front rest hm hfront
    exact h (item, rest) (Item.read_eq_some_iff.mpr ⟨front, hm, hfront⟩)
  · rintro h ⟨item, rest⟩ hread
    obtain ⟨front, hm, hfront⟩ := Item.read_eq_some_iff.mp hread
    exact h item front rest hm hfront

theorem readWhole_eq_ok_iff {bs : Bytes} {item : Item} :
    readWhole bs = .ok item ↔ item.Encoded bs := by
  constructor
  · intro h
    unfold readWhole at h
    split at h
    · cases h
    · rename_i hread
      cases h
      obtain ⟨front, rfl, hfront⟩ := Item.read_eq_some_iff.mp hread
      rwa [List.append_nil]
    · cases h
  · intro h
    have hread : Item.read bs = some (item, []) :=
      Item.read_eq_some_iff.mpr ⟨bs, (List.append_nil bs).symm, h⟩
    rw [readWhole, hread]

/-- A message has these elements exactly if it is an encoding of their array. -/
theorem topLevel_eq_ok_iff {bs : Bytes} {elements : List Item} :
    topLevel bs = .ok elements ↔ (Item.array elements).Encoded bs := by
  simp only [topLevel, bind_eq_ok_iff, readWhole_eq_ok_iff, elementsOf_eq_ok_iff, exists_eq_right]

/-- No other fault is reported, and each one exactly where it says. -/
theorem topLevel_eq_error_iff {bs : Bytes} {fault : DecodeFault} :
    topLevel bs = .error fault ↔ EnvelopeFails bs fault := by
  simp only [topLevel, bind_eq_error_iff, readWhole_eq_ok_iff, elementsOf_eq_error_iff]
  constructor
  · rintro (h | ⟨item, hitem, rfl, hother⟩)
    · unfold readWhole at h
      split at h
      · rename_i hread
        cases h
        exact .malformed (read_eq_none_iff.mp hread)
      · cases h
      · rename_i hread
        cases h
        obtain ⟨front, rfl, hfront⟩ := Item.read_eq_some_iff.mp hread
        exact .trailing rfl hfront (List.cons_ne_nil _ _)
    · exact .notAnArray hitem hother
  · intro h
    cases h with
    | malformed none_encoded =>
      left
      rw [readWhole, read_eq_none_iff.mpr none_encoded]
    | @trailing item front rest split encoded more =>
      left
      obtain ⟨b, tail, rfl⟩ := List.exists_cons_of_ne_nil more
      rw [readWhole, Item.read_eq_some_iff.mpr ⟨front, split, encoded⟩]
    | @notAnArray item encoded other => exact Or.inr ⟨item, encoded, rfl, other⟩

/-!
## Where a message ends

No encoding of an item is the beginning of another, so a message tells by itself where it ends.
Cut short anywhere it is malformed, and with octets after it these are reported, whatever checks
would follow.
-/

/-- What is left of an encoding that is cut short begins with no item. -/
theorem topLevel_of_cut {item : Item} {front more : Bytes} (encoded : item.Encoded (front ++ more))
    (hmore : more ≠ []) : topLevel front = .error .malformed := by
  apply topLevel_eq_error_iff.mpr
  apply EnvelopeFails.malformed
  rintro item' front' rest rfl encoded'
  -- the shorter item and the whole one would begin the same octets
  have hsplit : (front' ++ rest ++ more) ++ [] = front' ++ (rest ++ more) := by
    rw [List.append_nil, List.append_assoc]
  obtain ⟨-, -, hnil⟩ := (reads_item maxDepth).unique encoded encoded' hsplit
  exact hmore (List.append_eq_nil_iff.mp hnil.symm).2

theorem topLevel_of_extended {item : Item} {bs more : Bytes} (encoded : item.Encoded bs)
    (hmore : more ≠ []) : topLevel (bs ++ more) = .error .trailingBytes :=
  topLevel_eq_error_iff.mpr (.trailing rfl encoded hmore)

/-- Every message that is accepted is refused when it is cut short anywhere or followed by
anything, with the fault that says which of the two it is. -/
def SelfDelimiting {α : Type} (decode : Bytes → Except DecodeFault α) : Prop :=
  ∀ (message : Bytes) (value : α), decode message = .ok value →
    (∀ front, front <+: message → front ≠ message → decode front = .error .malformed) ∧
      ∀ more, more ≠ [] → decode (message ++ more) = .error .trailingBytes

/-- Checks that come after those of the envelope leave its faults as they are. -/
theorem selfDelimiting_bind {α : Type} (next : List Item → Except DecodeFault α) :
    SelfDelimiting fun bs => topLevel bs >>= next := by
  intro message value accepted
  obtain ⟨elements, htop, -⟩ := bind_eq_ok_iff.mp accepted
  have encoded := topLevel_eq_ok_iff.mp htop
  constructor
  · rintro front ⟨more, rfl⟩ hne
    have hmore : more ≠ [] := by
      rintro rfl
      exact hne (List.append_nil front).symm
    exact bind_eq_error_iff.mpr (Or.inl (topLevel_of_cut encoded hmore))
  · intro more hmore
    exact bind_eq_error_iff.mpr (Or.inl (topLevel_of_extended encoded hmore))

/-- Neither kind of message is accepted, or taken for another one, after octets were lost from
its end or added to it. -/
theorem messages_selfDelimiting :
    SelfDelimiting KeyResponse.decode ∧ SelfDelimiting SignedChains.decode := by
  constructor
  · exact selfDelimiting_bind _
  · exact selfDelimiting_bind _

/-- Signed chains in a message of indefinite length, cut in the middle of a chunk and run on. -/
theorem messages_selfDelimiting_chunked :
    SignedChains.decode [0x9F, 0x5F, 0x41, 0x01, 0xFF, 0x81, 0x42, 0x02, 0x03, 0xFF] =
        .ok [⟨[0x02, 0x03, 0x01]⟩] ∧
      SignedChains.decode [0x9F, 0x5F, 0x41] = .error .malformed ∧
        SignedChains.decode
            ([0x9F, 0x5F, 0x41, 0x01, 0xFF, 0x81, 0x42, 0x02, 0x03, 0xFF] ++ [0xFF]) =
          .error .trailingBytes := by
  have accepted :
      SignedChains.decode [0x9F, 0x5F, 0x41, 0x01, 0xFF, 0x81, 0x42, 0x02, 0x03, 0xFF] =
        .ok [⟨[0x02, 0x03, 0x01]⟩] := by
    rfl
  obtain ⟨hcut, hextended⟩ := messages_selfDelimiting.2 _ _ accepted
  exact ⟨accepted, hcut _ ⟨_, rfl⟩ (by decide), hextended _ (by decide)⟩

end KeyProvisioning.Message
