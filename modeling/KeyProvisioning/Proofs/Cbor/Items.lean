import KeyProvisioning.Proofs.Cbor.Sequences

/-!
# Reading items

The item reader reads each encoding of an item, stops right after it, and reads nothing else. One
step of it fits the items over whatever fits the items inside them, so the depth of nesting is an
induction of a few lines.
-/

namespace KeyProvisioning.Cbor

/-! ## Tagged numbers -/

theorem bignumLength?_eq_some_iff {number n : Nat} {bs rest : Bytes} :
    bignumLength? number bs = some (n, rest) ↔
      (number = 2 ∨ number = 3) ∧ n ≤ bignumWidth ∧
        ∃ lead, bs = lead ++ rest ∧ (Head.bytes (some n)).Written lead := by
  rw [← reads_head bs (.bytes (some n)) rest, bignumLength?]
  split
  · rename_i hnumber
    split
    · rename_i m tail hread
      rw [hread]
      simp only [Option.ite_none_right_eq_some, Option.some.injEq, Prod.mk.injEq, Head.bytes.injEq,
        hnumber, true_and]
      constructor
      · rintro ⟨hm, rfl, rfl⟩
        exact ⟨hm, rfl, rfl⟩
      · rintro ⟨hm, rfl, rfl⟩
        exact ⟨hm, rfl, rfl⟩
    · rename_i hother
      constructor
      · intro h
        cases h
      · rintro ⟨-, -, hread⟩
        exact absurd hread (hother n rest)
  · rename_i hnumber
    simp [hnumber]

theorem bignumLength?_eq_none_iff {number : Nat} {bs : Bytes} :
    bignumLength? number bs = none ↔ (number = 2 ∨ number = 3 → ¬ BeginsShort bs) := by
  rw [Option.eq_none_iff_forall_ne_some]
  constructor
  · rintro h hnumber ⟨n, hn, lead, rest, hlead, rfl⟩
    exact h (n, rest) (bignumLength?_eq_some_iff.mpr ⟨hnumber, hn, lead, rfl, hlead⟩)
  · rintro h ⟨n, rest⟩ hsome
    obtain ⟨hnumber, hn, lead, rfl, hlead⟩ := bignumLength?_eq_some_iff.mp hsome
    exact h hnumber ⟨n, hn, lead, rest, hlead, rfl⟩

/-- What follows an encoding does not change how it begins. -/
theorem HeadFirst.beginsShort_append_iff {α : Type} {written : α → Bytes → Prop}
    (h : HeadFirst written) {x : α} {bs : Bytes} (hx : written x bs) (rest : Bytes) :
    BeginsShort (bs ++ rest) ↔ BeginsShort bs := by
  obtain ⟨head, lead, body, -, hlead, rfl⟩ := h x bs hx
  constructor
  · rintro ⟨n, hn, lead', rest', hlead', heq⟩
    rw [List.append_assoc] at heq
    obtain ⟨rfl, rfl, -⟩ := reads_head.unique hlead hlead' heq
    exact ⟨n, hn, lead, body, hlead, rfl⟩
  · rintro ⟨n, hn, lead', rest', hlead', heq⟩
    exact ⟨n, hn, lead', rest' ++ rest, hlead', by rw [heq, List.append_assoc]⟩

/-! ## Items -/

/-- A reader for the items inside others fits the relation by which these are written; there may be
neither. -/
inductive Fits : Option (Reader Item) → Option (Item → Bytes → Prop) → Prop
  | none : Fits none none
  | some {item : Reader Item} {written : Item → Bytes → Prop} (reads : Reads item written)
    (first : HeadFirst written) : Fits (some item) (some written)

section Items

variable {nested : Option (Reader Item)} {written : Option (Item → Bytes → Prop)}

theorem reads_bytesBody (length : Option Nat) :
    Reads (fun bs => (readString .bytes length bs).map fun (chunks, rest) =>
        (Item.bytes chunks.flatten, rest))
      (ItemBody written (.bytes length)) := by
  refine ((reads_string length).map fun chunks => Item.bytes chunks.flatten).congr
    fun item body => ?_
  constructor
  · rintro ⟨chunks, rfl, hchunks⟩
    exact .bytes hchunks
  · rintro ⟨⟩
    rename_i chunks hchunks
    exact ⟨chunks, rfl, hchunks⟩

theorem reads_textBody (length : Option Nat) :
    Reads (fun bs => (readString .text length bs).bind fun (chunks, rest) =>
        (textOfChunks? chunks).map fun content => (Item.text content, rest))
      (ItemBody written (.text length)) := by
  have h := (@reads_string .text length).filterMap fun chunks =>
    (textOfChunks? chunks).map Item.text
  simp only [Option.map_map, Function.comp_def] at h
  refine h.congr fun item body => ?_
  simp only [Option.map_eq_some_iff, textOfChunks?_eq_some_iff]
  constructor
  · rintro ⟨_, ⟨_, ⟨parts, rfl, rfl⟩, rfl⟩, hchunks⟩
    exact .text hchunks
  · rintro ⟨⟩
    rename_i parts hchunks
    exact ⟨_, ⟨_, ⟨parts, rfl, rfl⟩, rfl⟩, hchunks⟩

theorem reads_arrayBody (hfits : Fits nested written) (length : Option Nat) :
    Reads (fun bs => nested.bind fun item =>
        (readSequence item length bs).map fun (elements, rest) => (Item.array elements, rest))
      (ItemBody written (.array length)) := by
  cases hfits with
  | none =>
    apply Reads.never
    rintro _ _ ⟨⟩
    rename_i hinside _
    cases hinside
  | some reads first =>
    refine ((reads_sequence reads first length).map Item.array).congr fun item body => ?_
    constructor
    · rintro ⟨elements, rfl, helements⟩
      exact .array rfl helements
    · rintro ⟨⟩
      rename_i elements _ hinside helements
      cases hinside
      exact ⟨elements, rfl, helements⟩

theorem reads_mapBody (hfits : Fits nested written) (length : Option Nat) :
    Reads (fun bs => nested.bind fun item =>
        (readSequence (readPair item) length bs).map fun (entries, rest) =>
          (Item.map entries, rest))
      (ItemBody written (.map length)) := by
  cases hfits with
  | none =>
    apply Reads.never
    rintro _ _ ⟨⟩
    rename_i hinside _
    cases hinside
  | some reads first =>
    have hpairs := reads_sequence (reads_pair reads) first.pair length
    refine (hpairs.map Item.map).congr fun item body => ?_
    constructor
    · rintro ⟨entries, rfl, hentries⟩
      exact .map rfl hentries
    · rintro ⟨⟩
      rename_i entries _ hinside hentries
      cases hinside
      exact ⟨entries, rfl, hentries⟩

/-- Nothing follows a head that is an item by itself. -/
theorem reads_alone {head : Head} {item : Item} (alone : ItemBody written head item [])
    (only : ∀ x body, ItemBody written head x body → x = item ∧ body = []) :
    Reads (fun bs => some (item, bs)) (ItemBody written head) := by
  refine (Reads.pure item).congr fun x body => ?_
  constructor
  · rintro ⟨rfl, rfl⟩
    exact alone
  · exact only x body

/-- A tag for numbers in front of a short byte string is read together with it. -/
theorem reads_bignumBody (hfits : Fits nested written) {number n : Nat} {bs tail : Bytes}
    (hshort : bignumLength? number bs = some (n, tail)) (rest : Bytes) (item : Item) :
    ((splitExactly n tail).bind fun (digits, rest') =>
        (bignum? number digits).map fun value => (Item.integer value, rest')) = some (item, rest) ↔
      ∃ body, bs = body ++ rest ∧ ItemBody written (.tag number) item body := by
  obtain ⟨hnumber, hn, lead, rfl, hlead⟩ := bignumLength?_eq_some_iff.mp hshort
  simp only [Option.bind_eq_some_iff, Option.map_eq_some_iff, Prod.exists, Prod.mk.injEq]
  constructor
  · rintro ⟨digits, _, hdigits, value, hvalue, rfl, rfl⟩
    obtain ⟨rfl, rfl⟩ := splitExactly_eq_some_iff.mp hdigits
    exact ⟨lead ++ digits, (List.append_assoc ..).symm, .bignum hnumber hlead hn hvalue⟩
  · rintro ⟨_, heq, hbody⟩
    cases hbody with
    | @bignum _ value lead' digits _ hlead' _ hvalue =>
      rw [List.append_assoc] at heq
      obtain ⟨hhead, rfl, rfl⟩ := reads_head.unique hlead hlead' heq
      cases hhead
      exact ⟨digits, rest, splitExactly_eq_some_iff.mpr ⟨rfl, rfl⟩, value, hvalue, rfl, rfl⟩
    | tagged hinside hcontent hplain =>
      cases hfits with
      | none => cases hinside
      | some _ first =>
        cases hinside
        have hbegins : BeginsShort (_ ++ rest) := ⟨n, hn, lead, tail, hlead, heq.symm⟩
        exact absurd ((first.beginsShort_append_iff hcontent rest).mp hbegins) (hplain hnumber)

/-- Any other tag is read apart from the item that it stands in front of. -/
theorem reads_taggedBody (hfits : Fits nested written) {number : Nat} {bs : Bytes}
    (hplain : bignumLength? number bs = none) (rest : Bytes) (item : Item) :
    (nested.bind fun content =>
        (content bs).map fun (x, rest') => (Item.tagged number x, rest')) = some (item, rest) ↔
      ∃ body, bs = body ++ rest ∧ ItemBody written (.tag number) item body := by
  rw [bignumLength?_eq_none_iff] at hplain
  cases hfits with
  | none =>
    constructor
    · intro h
      cases h
    · rintro ⟨_, rfl, hbody⟩
      cases hbody with
      | bignum hnumber hlead hn _ =>
        exact absurd ⟨_, hn, _, _, hlead, List.append_assoc ..⟩ (hplain hnumber)
      | tagged hinside _ _ => cases hinside
  | some reads first =>
    rw [Option.bind_some, (reads.map (Item.tagged number)) bs item rest]
    constructor
    · rintro ⟨body, rfl, content, rfl, hcontent⟩
      refine ⟨body, rfl, .tagged rfl hcontent fun hnumber hbegins => ?_⟩
      exact hplain hnumber ((first.beginsShort_append_iff hcontent rest).mpr hbegins)
    · rintro ⟨body, rfl, hbody⟩
      cases hbody with
      | bignum hnumber hlead hn _ =>
        exact absurd ⟨_, hn, _, _, hlead, List.append_assoc ..⟩ (hplain hnumber)
      | @tagged _ content _ _ hinside hcontent _ =>
        cases hinside
        exact ⟨body, rfl, content, rfl, hcontent⟩

/-- After each head the reader goes on with what may follow this head. -/
theorem readItemWith_append (hfits : Fits nested written) {head : Head} {lead : Bytes}
    (hlead : head.Written lead) (bs rest : Bytes) (item : Item) :
    readItemWith nested (lead ++ bs) = some (item, rest) ↔
      ∃ body, bs = body ++ rest ∧ ItemBody written head item body := by
  have hread := reads_head.append hlead bs
  cases head with
  | tag number =>
    rw [readItemWith, hread]
    cases hshort : bignumLength? number bs with
    | some p =>
      simp only [hshort]
      rw [← reads_bignumBody hfits hshort rest item]
      cases splitExactly p.1 p.2 <;> exact Iff.rfl
    | none =>
      simp only [hshort]
      rw [← reads_taggedBody hfits hshort rest item]
      cases nested <;> exact Iff.rfl
  | bytes length =>
    rw [readItemWith, hread]
    exact reads_bytesBody length bs item rest
  | text length =>
    rw [readItemWith, hread, ← reads_textBody length bs item rest]
    dsimp only
    cases readString .text length bs <;> exact Iff.rfl
  | array length =>
    rw [readItemWith, hread, ← reads_arrayBody hfits length bs item rest]
    cases nested <;> exact Iff.rfl
  | map length =>
    rw [readItemWith, hread, ← reads_mapBody hfits length bs item rest]
    cases nested <;> exact Iff.rfl
  | unsigned n =>
    rw [readItemWith, hread]
    refine reads_alone (.unsigned n) ?_ bs item rest
    rintro _ _ ⟨⟩
    exact ⟨rfl, rfl⟩
  | negative n =>
    rw [readItemWith, hread]
    refine reads_alone (.negative n) ?_ bs item rest
    rintro _ _ ⟨⟩
    exact ⟨rfl, rfl⟩
  | simple value =>
    rw [readItemWith, hread]
    simp only [Option.map_eq_some_iff]
    constructor
    · rintro ⟨_, hmeaning, heq⟩
      cases heq
      exact ⟨[], rfl, .simple hmeaning⟩
    · rintro ⟨_, rfl, ⟨⟩⟩
      rename_i hmeaning
      exact ⟨item, hmeaning, rfl⟩
  | float width bits =>
    rw [readItemWith, hread]
    refine reads_alone (.float width bits) ?_ bs item rest
    rintro _ _ ⟨⟩
    exact ⟨rfl, rfl⟩
  | stop =>
    rw [readItemWith, hread]
    refine Reads.never ?_ bs item rest
    rintro _ _ ⟨⟩

/-- One step of the item reader fits one layer of items. -/
theorem reads_itemWith (hfits : Fits nested written) :
    Reads (readItemWith nested) (ItemWritten written) := by
  intro bs item rest
  constructor
  · intro h
    cases hhead : Head.read bs with
    | none =>
      rw [readItemWith, hhead] at h
      cases h
    | some p =>
      obtain ⟨lead, rfl, hlead⟩ := (reads_head bs p.1 p.2).mp hhead
      obtain ⟨body, hbody, hafter⟩ := (readItemWith_append hfits hlead p.2 rest item).mp h
      exact ⟨lead ++ body, by rw [hbody, List.append_assoc], .intro hlead hafter⟩
  · rintro ⟨_, rfl, hlead, hafter⟩
    rw [List.append_assoc, readItemWith_append hfits hlead]
    exact ⟨_, rfl, hafter⟩

theorem headFirst_itemWritten : HeadFirst (ItemWritten written) := by
  rintro item _ ⟨hlead, hafter⟩
  refine ⟨_, _, _, ?_, hlead, rfl⟩
  rintro rfl
  cases hafter

end Items

theorem headFirst_encodes (depth : Nat) : HeadFirst (Encodes depth) := by
  cases depth <;> exact headFirst_itemWritten

/-- The item reader reads the encodings of items of its depth. -/
theorem reads_item (depth : Nat) : Reads (readItem depth) (Encodes depth) := by
  induction depth with
  | zero => exact reads_itemWith .none
  | succ depth ih => exact reads_itemWith (.some ih (headFirst_encodes depth))

namespace Item

/-- What is read from the front is an item with one of its encodings. -/
theorem read_eq_some_iff {bs rest : Bytes} {item : Item} :
    read bs = some (item, rest) ↔ ∃ front, bs = front ++ rest ∧ item.Encoded front :=
  reads_item maxDepth bs item rest

end Item

end KeyProvisioning.Cbor
