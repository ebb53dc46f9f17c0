import KeyProvisioning.Proofs.Cbor.Encoding
import KeyProvisioning.Proofs.Text.Characters

/-!
# Reading heads

A reader fits a relation between values and octets if it reads exactly the octets of a value, and
stops right after them, whatever follows. The head reader fits the heads as they are written.
-/

namespace KeyProvisioning.Cbor

/-- A reader answers a value exactly for the octets that write it, and leaves what follows them. -/
def Reads {α : Type} (read : Reader α) (written : α → Bytes → Prop) : Prop :=
  ∀ bs x rest, read bs = some (x, rest) ↔ ∃ front, bs = front ++ rest ∧ written x front

namespace Reads

variable {α β : Type} {read : Reader α} {written : α → Bytes → Prop}

theorem append (h : Reads read written) {x : α} {front : Bytes} (hx : written x front)
    (rest : Bytes) :
    read (front ++ rest) = some (x, rest) :=
  (h _ _ _).mpr ⟨front, rfl, hx⟩

/-- Octets begin with the octets of one value at most. -/
theorem unique (h : Reads read written) {x y : α} {front front' rest rest' : Bytes}
    (hx : written x front) (hy : written y front') (heq : front ++ rest = front' ++ rest') :
    x = y ∧ front = front' ∧ rest = rest' := by
  have hread := h.append hx rest
  rw [heq, h.append hy rest', Option.some.injEq, Prod.mk.injEq] at hread
  obtain ⟨rfl, rfl⟩ := hread
  exact ⟨rfl, List.append_cancel_right heq, rfl⟩

theorem congr {written' : α → Bytes → Prop} (h : Reads read written)
    (hiff : ∀ x bs, written x bs ↔ written' x bs) : Reads read written' := by
  intro bs x rest
  simp only [h bs x rest, hiff]

/-- A reader that takes nothing. -/
theorem pure (x : α) : Reads (fun bs => some (x, bs)) fun y bs => y = x ∧ bs = [] := by
  intro bs y rest
  simp only [Option.some.injEq, Prod.mk.injEq]
  constructor
  · rintro ⟨rfl, rfl⟩
    exact ⟨[], rfl, rfl, rfl⟩
  · rintro ⟨front, rfl, rfl, rfl⟩
    exact ⟨rfl, rfl⟩

/-- A reader that reads nothing at all. -/
theorem never (h : ∀ x bs, ¬ written x bs) : Reads (fun _ => none) written := by
  intro bs x rest
  constructor
  · intro hread
    cases hread
  · rintro ⟨front, -, hx⟩
    exact absurd hx (h x front)

/-- A reader whose values are changed, or refused. -/
theorem filterMap (h : Reads read written) (f : α → Option β) :
    Reads (fun bs => (read bs).bind fun (x, rest) => (f x).map fun y => (y, rest)) fun y bs =>
      ∃ x, f x = some y ∧ written x bs := by
  intro bs y rest
  simp only [Option.bind_eq_some_iff, Option.map_eq_some_iff, Prod.exists, Prod.mk.injEq]
  constructor
  · rintro ⟨x, rest', hread, _, hf, rfl, rfl⟩
    obtain ⟨front, rfl, hx⟩ := (h _ _ _).mp hread
    exact ⟨front, rfl, x, hf, hx⟩
  · rintro ⟨front, rfl, x, hf, hx⟩
    exact ⟨x, rest, h.append hx _, y, hf, rfl, rfl⟩

/-- A reader whose values are changed. -/
theorem map (h : Reads read written) (f : α → β) :
    Reads (fun bs => (read bs).map fun (x, rest) => (f x, rest)) fun y bs =>
      ∃ x, f x = y ∧ written x bs := by
  intro bs y rest
  simp only [Option.map_eq_some_iff, Prod.exists, Prod.mk.injEq]
  constructor
  · rintro ⟨x, rest', hread, rfl, rfl⟩
    obtain ⟨front, rfl, hx⟩ := (h _ _ _).mp hread
    exact ⟨front, rfl, x, rfl, hx⟩
  · rintro ⟨front, rfl, x, rfl, hx⟩
    exact ⟨x, rest, h.append hx _, rfl, rfl⟩

end Reads

theorem reads_splitExactly (n : Nat) :
    Reads (splitExactly n) fun front bs => bs = front ∧ front.length = n := by
  intro bs front rest
  rw [splitExactly_eq_some_iff]
  constructor
  · rintro ⟨rfl, rfl⟩
    exact ⟨front, rfl, rfl, rfl⟩
  · rintro ⟨_, rfl, rfl, rfl⟩
    exact ⟨rfl, rfl⟩

/-! ## Heads -/

theorem argumentWidth?_wide {k : Nat} (h : k < 4) :
    Head.argumentWidth? (24 + k) = some (Nat.pow 2 k) := by
  match k with
  | 0 | 1 | 2 | 3 => rfl

/-- The information of a lead octet that asks for further octets. -/
theorem exists_width {info width : Nat} (h : Head.argumentWidth? info = some width) :
    ∃ k < 4, info = 24 + k ∧ width = Nat.pow 2 k := by
  unfold Head.argumentWidth? at h
  split at h
  · cases h
    exact ⟨0, by omega, rfl, rfl⟩
  · cases h
    exact ⟨1, by omega, rfl, rfl⟩
  · cases h
    exact ⟨2, by omega, rfl, rfl⟩
  · cases h
    exact ⟨3, by omega, rfl, rfl⟩
  · cases h

theorem toNat_leadOctet {major info : Nat} (hmajor : major < 8) (hinfo : info < 32) :
    (UInt8.ofNat (major * 32 + info)).toNat / 32 = major ∧
      (UInt8.ofNat (major * 32 + info)).toNat % 32 = info := by
  rw [Utf8.toNat_octet (by omega)]
  omega

/-- The octets of a head are taken apart as they were put together. -/
theorem Lead.read {major info : Nat} {argument : Option Nat} {lead : Bytes}
    (h : Lead major info argument lead) (hmajor : major < 8) (rest : Bytes) :
    Head.read (lead ++ rest) =
      (Head.ofParts major info argument).map fun head => (head, rest) := by
  cases h with
  | immediate small =>
    obtain ⟨hdiv, hmod⟩ := toNat_leadOctet hmajor (show info < 32 by omega)
    rw [List.singleton_append, Head.read, hdiv, hmod, Head.readArgument, if_pos small]
  | @wide k digits width length =>
    obtain ⟨hdiv, hmod⟩ := toNat_leadOctet hmajor (show 24 + k < 32 by omega)
    have hsplit : splitExactly (Nat.pow 2 k) (digits ++ rest) = some (digits, rest) :=
      (reads_splitExactly _).append ⟨rfl, length⟩ rest
    rw [List.cons_append, Head.read, hdiv, hmod, Head.readArgument, if_neg (by omega),
      if_neg (by omega), argumentWidth?_wide width]
    simp only [hsplit, Option.map_some]
  | indefinite =>
    obtain ⟨hdiv, hmod⟩ := toNat_leadOctet hmajor (show 31 < 32 by omega)
    rw [List.singleton_append, Head.read, hdiv, hmod, Head.readArgument, if_neg (by omega),
      if_pos rfl]

/-- What is taken apart as a head was put together from the parts of one. -/
theorem exists_lead_of_read {bs rest : Bytes} {head : Head}
    (h : Head.read bs = some (head, rest)) :
    ∃ major < 8, ∃ info argument lead, bs = lead ++ rest ∧ Lead major info argument lead ∧
      Head.ofParts major info argument = some head := by
  cases bs with
  | nil => cases h
  | cons b bs =>
    have hlt := b.toNat_lt
    have hmajor : b.toNat / 32 < 8 := by omega
    have hb : UInt8.ofNat (b.toNat / 32 * 32 + b.toNat % 32) = b := by
      rw [Nat.div_add_mod', UInt8.ofNat_toNat]
    rw [Head.read] at h
    split at h
    · cases h
    rename_i argument rest' hargument
    simp only [Option.map_eq_some_iff, Prod.mk.injEq] at h
    obtain ⟨_, hparts, rfl, rfl⟩ := h
    refine ⟨b.toNat / 32, hmajor, b.toNat % 32, argument, ?_⟩
    unfold Head.readArgument at hargument
    split at hargument
    · rename_i hsmall
      cases hargument
      have hlead : Lead (b.toNat / 32) _ _ _ := Lead.immediate hsmall
      rw [hb] at hlead
      exact ⟨[b], rfl, hlead, hparts⟩
    split at hargument
    · rename_i hmark
      cases hargument
      have hlead : Lead (b.toNat / 32) _ _ _ := Lead.indefinite
      rw [← hmark, hb] at hlead
      exact ⟨[b], rfl, hlead, hparts⟩
    split at hargument
    · cases hargument
    rename_i width hwidth
    simp only [Option.map_eq_some_iff, Prod.mk.injEq, Prod.exists] at hargument
    obtain ⟨digits, _, hdigits, rfl, rfl⟩ := hargument
    obtain ⟨rfl, hlength⟩ := splitExactly_eq_some_iff.mp hdigits
    obtain ⟨k, hk, hinfo, rfl⟩ := exists_width hwidth
    have hlead : Lead (b.toNat / 32) _ _ _ := Lead.wide hk hlength
    rw [← hinfo, hb] at hlead
    exact ⟨b :: digits, rfl, hlead, hparts⟩

/-- The information that occurs in a lead octet. -/
theorem Lead.info_cases {major info : Nat} {argument : Option Nat} {lead : Bytes}
    (h : Lead major info argument lead) :
    (info < 24 ∧ argument.isSome) ∨ (∃ k < 4, info = 24 + k ∧ argument.isSome) ∨
      info = 31 ∧ argument = none := by
  cases h with
  | immediate small => exact Or.inl ⟨small, rfl⟩
  | wide width _ => exact Or.inr (Or.inl ⟨_, width, rfl, rfl⟩)
  | indefinite => exact Or.inr (Or.inr ⟨rfl, rfl⟩)

theorem ofParts_simple {info : Nat} (h : info ≤ 24) (value : Nat) :
    Head.ofParts 7 info (some value) = some (.simple value) := by
  cases hwidth : Head.argumentWidth? info with
  | none => simp [Head.ofParts, hwidth]
  | some width =>
    obtain ⟨k, -, rfl, rfl⟩ := exists_width hwidth
    obtain rfl : k = 0 := by omega
    rfl

theorem ofParts_float {k : Nat} (hlow : 1 ≤ k) (hhigh : k < 4) (bits : Nat) :
    Head.ofParts 7 (24 + k) (some bits) = some (.float (Nat.pow 2 k) bits) := by
  match k with
  | 1 | 2 | 3 => rfl

/-- A head is written by putting its parts together. -/
theorem written_iff_ofParts {head : Head} {lead : Bytes} :
    head.Written lead ↔
      ∃ major < 8, ∃ info argument, Lead major info argument lead ∧
        Head.ofParts major info argument = some head := by
  constructor
  · intro h
    cases head with
    | unsigned n =>
      obtain ⟨info, hlead⟩ := h
      exact ⟨0, by omega, info, some n, hlead, rfl⟩
    | negative n =>
      obtain ⟨info, hlead⟩ := h
      exact ⟨1, by omega, info, some n, hlead, rfl⟩
    | bytes length =>
      obtain ⟨info, hlead⟩ := h
      exact ⟨2, by omega, info, length, hlead, rfl⟩
    | text length =>
      obtain ⟨info, hlead⟩ := h
      exact ⟨3, by omega, info, length, hlead, rfl⟩
    | array length =>
      obtain ⟨info, hlead⟩ := h
      exact ⟨4, by omega, info, length, hlead, rfl⟩
    | map length =>
      obtain ⟨info, hlead⟩ := h
      exact ⟨5, by omega, info, length, hlead, rfl⟩
    | tag number =>
      obtain ⟨info, hlead⟩ := h
      exact ⟨6, by omega, info, some number, hlead, rfl⟩
    | simple value =>
      obtain ⟨info, hinfo, hlead⟩ := h
      exact ⟨7, by omega, info, some value, hlead, ofParts_simple hinfo value⟩
    | float width bits =>
      obtain ⟨k, hk, rfl, hlead⟩ := h
      have hwide : k < 4 := by
        obtain ⟨_, -⟩ | ⟨_, _, _, -⟩ | ⟨-, hnone⟩ := hlead.info_cases
        · omega
        · omega
        · cases hnone
      exact ⟨7, by omega, 24 + k, some bits, hlead, ofParts_float hk hwide bits⟩
    | stop => exact ⟨7, by omega, 31, none, h, rfl⟩
  · rintro ⟨major, hmajor, info, argument, hlead, hparts⟩
    match major, argument with
    | 0, some n | 1, some n | 6, some n =>
      cases hparts
      exact ⟨info, hlead⟩
    | 2, length | 3, length | 4, length | 5, length =>
      cases hparts
      exact ⟨info, hlead⟩
    | 0, none | 1, none | 6, none => cases hparts
    | 7, none =>
      cases hparts
      obtain ⟨-, hsome⟩ | ⟨_, -, -, hsome⟩ | ⟨rfl, -⟩ := hlead.info_cases
      · cases hsome
      · cases hsome
      · exact hlead
    | 7, some n =>
      obtain ⟨hinfo, -⟩ | ⟨k, hk, rfl, -⟩ | ⟨-, hnone⟩ := hlead.info_cases
      · rw [ofParts_simple (by omega)] at hparts
        cases hparts
        exact ⟨info, by omega, hlead⟩
      · by_cases hzero : k = 0
        · rw [ofParts_simple (by omega)] at hparts
          cases hparts
          exact ⟨24 + k, by omega, hlead⟩
        · rw [ofParts_float (by omega) hk] at hparts
          cases hparts
          exact ⟨k, by omega, rfl, hlead⟩
      · cases hnone
    | major + 8, _ => omega

theorem reads_head : Reads Head.read fun head bs => head.Written bs := by
  intro bs head rest
  simp only [written_iff_ofParts]
  constructor
  · intro h
    obtain ⟨major, hmajor, info, argument, lead, hbs, hlead, hparts⟩ := exists_lead_of_read h
    exact ⟨lead, hbs, major, hmajor, info, argument, hlead, hparts⟩
  · rintro ⟨lead, rfl, major, hmajor, info, argument, hlead, hparts⟩
    rw [hlead.read hmajor, hparts, Option.map_some]

/-- Every encoding begins with the octets of a head that is no end of a sequence. -/
def HeadFirst {α : Type} (written : α → Bytes → Prop) : Prop :=
  ∀ x bs, written x bs →
    ∃ (head : Head) (lead body : Bytes), head ≠ .stop ∧ head.Written lead ∧ bs = lead ++ body

theorem read_stopOctet (rest : Bytes) : Head.read (stopOctet :: rest) = some (.stop, rest) := by
  rfl

theorem length_pos_of_written {head : Head} {lead : Bytes} (h : head.Written lead) :
    0 < lead.length := by
  apply List.length_pos_iff.mpr
  rintro rfl
  cases reads_head.append h []

/-- The stop octet begins no encoding, and no encoding is empty. -/
theorem HeadFirst.exists_octet {α : Type} {written : α → Bytes → Prop} (h : HeadFirst written)
    {x : α} {bs : Bytes} (hx : written x bs) : ∃ b tail, bs = b :: tail ∧ b ≠ stopOctet := by
  obtain ⟨head, lead, body, hstop, hlead, rfl⟩ := h x bs hx
  have hread := reads_head.append hlead body
  cases hbs : lead ++ body with
  | nil =>
    rw [hbs] at hread
    cases hread
  | cons b tail =>
    refine ⟨b, tail, rfl, ?_⟩
    rintro rfl
    rw [hbs, read_stopOctet, Option.some.injEq, Prod.mk.injEq] at hread
    exact hstop hread.1.symm

end KeyProvisioning.Cbor
