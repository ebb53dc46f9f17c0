import KeyProvisioning.Proofs.Cbor.Heads

/-!
# Reading sequences and strings

Sequences over any element reader are read up to their announced length or to the stop octet,
which no element begins with. The chunk reader counts the strings of indefinite length around it,
so its chunks are related to strings inside strings by induction on what is written.
-/

namespace KeyProvisioning.Cbor

/-! ## Sequences -/

section Sequences

variable {α : Type} {element : Reader α} {written : α → Bytes → Prop}

theorem consecutive_zero_iff {xs : List α} {bs : Bytes} :
    (Consecutive written xs bs ∧ xs.length = 0) ↔ xs = [] ∧ bs = [] := by
  constructor
  · rintro ⟨h, hlength⟩
    cases h with
    | nil => exact ⟨rfl, rfl⟩
    | cons _ _ => cases hlength
  · rintro ⟨rfl, rfl⟩
    exact ⟨.nil, rfl⟩

theorem reads_many (h : Reads element written) (n : Nat) :
    Reads (readMany element n) fun xs bs => Consecutive written xs bs ∧ xs.length = n := by
  induction n with
  | zero => exact (Reads.pure []).congr fun xs bs => consecutive_zero_iff.symm
  | succ n ih =>
    intro bs xs rest
    rw [readMany]
    constructor
    · intro hread
      split at hread
      · cases hread
      rename_i x middle hx
      split at hread
      · cases hread
      rename_i more back hmore
      cases hread
      obtain ⟨front, rfl, hfront⟩ := (h _ _ _).mp hx
      obtain ⟨tail, rfl, htail, hlength⟩ := (ih _ _ _).mp hmore
      exact ⟨front ++ tail, (List.append_assoc ..).symm, .cons hfront htail, by simp [hlength]⟩
    · rintro ⟨_, rfl, hxs, hlength⟩
      cases hxs with
      | nil => cases hlength
      | cons hfront htail =>
        rw [List.append_assoc, h.append hfront]
        simp only [ih.append ⟨htail, Nat.succ.inj hlength⟩]

/-- With more fuel than octets, reading ends at a stop octet exactly. -/
theorem readUntilStop_eq_some_iff (h : Reads element written) (hfirst : HeadFirst written)
    {fuel : Nat} {bs rest : Bytes} {xs : List α} (hfuel : bs.length < fuel) :
    readUntilStop element fuel bs = some (xs, rest) ↔
      ∃ body, bs = body ++ stopOctet :: rest ∧ Consecutive written xs body := by
  induction fuel generalizing bs xs with
  | zero => omega
  | succ fuel ih =>
    cases bs with
    | nil => simp [readUntilStop]
    | cons b bs =>
      rw [readUntilStop]
      constructor
      · intro hread
        split at hread
        · rename_i hb
          cases hread
          exact ⟨[], by rw [hb]; rfl, .nil⟩
        split at hread
        · cases hread
        rename_i x middle hx
        split at hread
        · cases hread
        rename_i more back hmore
        cases hread
        obtain ⟨front, hbs, hfront⟩ := (h _ _ _).mp hx
        obtain ⟨c, tail, rfl, -⟩ := hfirst.exists_octet hfront
        have hshort : middle.length < fuel := by
          have hlength := congrArg List.length hbs
          simp only [List.length_cons, List.length_append] at hlength hfuel
          omega
        obtain ⟨body, rfl, hbody⟩ := (ih hshort).mp hmore
        exact ⟨c :: tail ++ body, by rw [hbs, List.append_assoc], .cons hfront hbody⟩
      · rintro ⟨body, hbs, hbody⟩
        cases hbody with
        | nil =>
          obtain ⟨rfl, rfl⟩ := List.cons.inj hbs
          exact if_pos rfl
        | @cons x more front back hfront hback =>
          obtain ⟨c, tail, rfl, hc⟩ := hfirst.exists_octet hfront
          rw [List.append_assoc] at hbs
          obtain rfl : b = c := (List.cons.inj hbs).1
          have hshort : (back ++ stopOctet :: rest).length < fuel := by
            have hlength := congrArg List.length hbs
            simp only [List.length_cons, List.length_append] at hlength hfuel ⊢
            omega
          rw [if_neg hc, hbs, h.append hfront]
          simp only [(ih hshort).mpr ⟨back, rfl, hback⟩]

theorem reads_sequence (h : Reads element written) (hfirst : HeadFirst written)
    (length : Option Nat) : Reads (readSequence element length) (SequenceBody written length) := by
  intro bs xs rest
  cases length with
  | some n =>
    rw [readSequence, reads_many h n bs xs rest]
    constructor
    · rintro ⟨body, rfl, hbody, rfl⟩
      exact ⟨body, rfl, .definite hbody⟩
    · rintro ⟨_, rfl, hbody⟩
      cases hbody with
      | definite elements => exact ⟨_, rfl, elements, rfl⟩
  | none =>
    rw [readSequence, readUntilStop_eq_some_iff h hfirst (Nat.lt_succ_self _)]
    constructor
    · rintro ⟨body, rfl, hbody⟩
      exact ⟨body ++ [stopOctet], by rw [List.append_assoc]; rfl, .indefinite hbody⟩
    · rintro ⟨_, rfl, hbody⟩
      cases hbody with
      | @indefinite _ body elements => exact ⟨body, by rw [List.append_assoc]; rfl, elements⟩

theorem reads_pair (h : Reads element written) :
    Reads (readPair element) (PairWritten written) := by
  intro bs p rest
  rw [readPair]
  constructor
  · intro hread
    split at hread
    · cases hread
    rename_i x middle hx
    split at hread
    · cases hread
    rename_i y back hy
    cases hread
    obtain ⟨front, rfl, hfront⟩ := (h _ _ _).mp hx
    obtain ⟨tail, rfl, htail⟩ := (h _ _ _).mp hy
    exact ⟨front ++ tail, (List.append_assoc ..).symm, .intro hfront htail⟩
  · rintro ⟨_, rfl, hp⟩
    cases hp with
    | intro hfront htail =>
      rw [List.append_assoc, h.append hfront]
      simp only [h.append htail]

theorem HeadFirst.pair (h : HeadFirst written) : HeadFirst (PairWritten written) := by
  rintro _ _ ⟨hfront, _⟩
  obtain ⟨head, lead, body, hstop, hlead, rfl⟩ := h _ _ hfront
  exact ⟨head, lead, body ++ _, hstop, hlead, List.append_assoc ..⟩

end Sequences

/-! ## Strings -/

theorem StringKind.length?_eq_some_iff {kind : StringKind} {head : Head} {length : Option Nat} :
    kind.length? head = some length ↔ head = kind.head length := by
  cases kind <;> cases head <;> simp [StringKind.length?, StringKind.head, eq_comm]

theorem Lead.eq_of_none {major info : Nat} {lead : Bytes} (h : Lead major info none lead) :
    lead = [UInt8.ofNat (major * 32 + 31)] := by
  cases h
  rfl

theorem written_stop_iff {lead : Bytes} : Head.stop.Written lead ↔ lead = [stopOctet] := by
  constructor
  · exact Lead.eq_of_none
  · rintro rfl
    exact .indefinite

/-- What is left of a string of indefinite length inside `nested` others: its own chunks up to
its end, and then those of the one around it. -/
def Closing (kind : StringKind) : (nested : Nat) → List Bytes → Bytes → Prop
  | 0, chunks, bs => Chunks kind chunks bs
  | outer + 1, chunks, bs => ∃ inner more front back, chunks = inner ++ more ∧ bs = front ++ back ∧
      Chunks kind inner front ∧ Closing kind outer more back

section Strings

variable {kind : StringKind} {nested : Nat}

theorem Closing.chunk {lead chunk back : Bytes} {chunks : List Bytes}
    (head : (kind.head (some chunk.length)).Written lead)
    (more : Closing kind nested chunks back) :
    Closing kind nested (chunk :: chunks) (lead ++ chunk ++ back) := by
  cases nested with
  | zero => exact Chunks.chunk head more
  | succ outer =>
    obtain ⟨inner, after, front, rear, rfl, rfl, hinner, hafter⟩ := more
    exact ⟨chunk :: inner, after, lead ++ chunk ++ front, rear, rfl, (List.append_assoc ..).symm,
      .chunk head hinner, hafter⟩

theorem Closing.enter {lead back : Bytes} {chunks : List Bytes}
    (head : (kind.head none).Written lead) (more : Closing kind (nested + 1) chunks back) :
    Closing kind nested chunks (lead ++ back) := by
  obtain ⟨inner, after, front, rear, rfl, rfl, hinner, hafter⟩ := more
  rw [← List.append_assoc]
  cases nested with
  | zero => exact Chunks.nested head hinner hafter
  | succ outer =>
    obtain ⟨inner', last, front', rear', rfl, rfl, hinner', hlast⟩ := hafter
    exact ⟨inner ++ inner', last, lead ++ front ++ front', rear', (List.append_assoc ..).symm,
      (List.append_assoc ..).symm, .nested head hinner hinner', hlast⟩

/-- A string of indefinite length among the chunks puts the reader deeper. -/
theorem readChunks_enter {fuel : Nat} {lead : Bytes} (head : (kind.head none).Written lead)
    (bs : Bytes) :
    readChunks kind (fuel + 1) nested (lead ++ bs) = readChunks kind fuel (nested + 1) bs := by
  rw [readChunks, reads_head.append head]
  cases kind <;> rfl

/-- A string of announced length is one chunk. -/
theorem readChunks_chunk {fuel : Nat} {lead chunk bs rest : Bytes} {chunks : List Bytes}
    (head : (kind.head (some chunk.length)).Written lead)
    (h : readChunks kind fuel nested bs = some (chunks, rest)) :
    readChunks kind (fuel + 1) nested (lead ++ (chunk ++ bs)) = some (chunk :: chunks, rest) := by
  have hsplit := (reads_splitExactly chunk.length).append ⟨rfl, rfl⟩ bs
  rw [readChunks, reads_head.append head]
  cases kind <;> simp only [StringKind.head, StringKind.length?, hsplit, h]

/-- The chunks that are read are those of strings up to their ends. -/
theorem closing_of_readChunks {fuel : Nat} {bs rest : Bytes} {chunks : List Bytes}
    (h : readChunks kind fuel nested bs = some (chunks, rest)) :
    ∃ front, bs = front ++ rest ∧ Closing kind nested chunks front := by
  induction fuel generalizing nested bs chunks with
  | zero => cases h
  | succ fuel ih =>
    rw [readChunks] at h
    split at h
    · cases h
    · rename_i tail hread
      obtain ⟨lead, rfl, hlead⟩ := (reads_head _ _ _).mp hread
      obtain rfl := written_stop_iff.mp hlead
      cases nested with
      | zero =>
        cases h
        exact ⟨[stopOctet], rfl, Chunks.stop⟩
      | succ outer =>
        obtain ⟨front, rfl, hfront⟩ := ih h
        exact ⟨stopOctet :: front, rfl, [], chunks, [stopOctet], front, rfl, rfl, .stop, hfront⟩
    · rename_i head tail _ hread
      obtain ⟨lead, rfl, hlead⟩ := (reads_head _ _ _).mp hread
      split at h
      · cases h
      · rename_i hlength
        rw [StringKind.length?_eq_some_iff.mp hlength] at hlead
        obtain ⟨front, rfl, hfront⟩ := ih h
        exact ⟨lead ++ front, (List.append_assoc ..).symm, hfront.enter hlead⟩
      · rename_i n hlength
        rw [StringKind.length?_eq_some_iff.mp hlength] at hlead
        split at h
        · cases h
        rename_i chunk middle hchunk
        obtain ⟨rfl, rfl⟩ := splitExactly_eq_some_iff.mp hchunk
        split at h
        · cases h
        rename_i more back hmore
        cases h
        obtain ⟨front, rfl, hfront⟩ := ih hmore
        exact ⟨lead ++ chunk ++ front, by simp only [List.append_assoc], hfront.chunk hlead⟩

/-- What a reader answers with the octets after the end of a string inside `nested` others: it
goes on with the chunks of the next outer one, if there is one. -/
def Resumes (kind : StringKind) (nested : Nat) (bs : Bytes) (result : List Bytes × Bytes) : Prop :=
  match nested with
  | 0 => result = ([], bs)
  | outer + 1 => ∀ fuel, bs.length < fuel → readChunks kind fuel outer bs = some result

/-- Chunks up to their end are read, and what comes after them is added. -/
theorem Chunks.readChunks_append {front : Bytes} {chunks : List Bytes}
    (h : Chunks kind chunks front) {bs rest : Bytes} {more : List Bytes}
    (hresumes : Resumes kind nested bs (more, rest)) {fuel : Nat}
    (hfuel : (front ++ bs).length < fuel) :
    readChunks kind fuel nested (front ++ bs) = some (chunks ++ more, rest) := by
  induction h generalizing nested bs more fuel with
  | stop =>
    obtain ⟨fuel, rfl⟩ := Nat.exists_eq_add_one_of_ne_zero (Nat.ne_zero_of_lt hfuel)
    have hshort : bs.length < fuel := by
      simpa using hfuel
    rw [List.singleton_append, readChunks, read_stopOctet]
    cases nested with
    | zero =>
      cases hresumes
      rfl
    | succ outer => exact hresumes fuel hshort
  | @chunk lead chunk back chunks head _ ih =>
    obtain ⟨fuel, rfl⟩ := Nat.exists_eq_add_one_of_ne_zero (Nat.ne_zero_of_lt hfuel)
    have hlead := length_pos_of_written head
    have hshort : (back ++ bs).length < fuel := by
      simp only [List.length_append] at hfuel ⊢
      omega
    rw [List.append_assoc, List.append_assoc]
    exact readChunks_chunk head (ih hresumes hshort)
  | @nested lead front back inner chunks head _ _ ihinner ih =>
    obtain ⟨fuel, rfl⟩ := Nat.exists_eq_add_one_of_ne_zero (Nat.ne_zero_of_lt hfuel)
    have hlead := length_pos_of_written head
    have hshort : (front ++ (back ++ bs)).length < fuel := by
      simp only [List.length_append] at hfuel ⊢
      omega
    rw [List.append_assoc, List.append_assoc, List.append_assoc, readChunks_enter head]
    -- the inner string ends where the chunks of the outer one go on
    have hinner : Resumes kind (nested + 1) (back ++ bs) (chunks ++ more, rest) :=
      fun _ hfuel' => ih hresumes hfuel'
    exact ihinner hinner hshort

theorem reads_string (length : Option Nat) :
    Reads (readString kind length) (StringBody kind length) := by
  intro bs chunks rest
  cases length with
  | some n =>
    rw [readString]
    constructor
    · intro hread
      rw [Option.map_eq_some_iff] at hread
      obtain ⟨⟨chunk, _⟩, hchunk, heq⟩ := hread
      cases heq
      obtain ⟨rfl, rfl⟩ := splitExactly_eq_some_iff.mp hchunk
      exact ⟨chunk, rfl, .definite chunk⟩
    · rintro ⟨front, rfl, hbody⟩
      cases hbody with
      | definite =>
        rw [(reads_splitExactly front.length).append ⟨rfl, rfl⟩ rest]
        rfl
  | none =>
    rw [readString]
    constructor
    · intro hread
      obtain ⟨front, rfl, hfront⟩ := closing_of_readChunks hread
      exact ⟨front, rfl, .indefinite hfront⟩
    · rintro ⟨front, rfl, hbody⟩
      cases hbody with
      | indefinite written =>
        have hend : Resumes kind 0 rest ([], rest) := rfl
        rw [written.readChunks_append hend (Nat.lt_succ_self _), List.append_nil]

end Strings

theorem mapM_decode?_eq_some_iff {chunks : List Bytes} {parts : List (List Char)} :
    chunks.mapM Utf8.decode? = some parts ↔ chunks = parts.map Utf8.encode := by
  induction chunks generalizing parts with
  | nil => simp [eq_comm]
  | cons chunk chunks ih =>
    cases parts with
    | nil => simp [Option.bind_eq_some_iff]
    | cons part parts => simp [Option.bind_eq_some_iff, Utf8.decode?_eq_some_iff, ih]

/-- The text of chunks is that of the texts that they write. -/
theorem textOfChunks?_eq_some_iff {chunks : List Bytes} {content : String} :
    textOfChunks? chunks = some content ↔
      ∃ parts : List (List Char), chunks = parts.map Utf8.encode ∧
        String.ofList parts.flatten = content := by
  simp only [textOfChunks?, Option.map_eq_some_iff, mapM_decode?_eq_some_iff]

end KeyProvisioning.Cbor
