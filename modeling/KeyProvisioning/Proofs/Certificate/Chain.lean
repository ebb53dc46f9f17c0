import KeyProvisioning.Certificate.KeyRecord
import KeyProvisioning.Proofs.Der.Elements

/-!
# Chains as concatenations of certificates

A chain is parsed exactly if it is whole certificates put one after another, and there is one way
only to take it apart into these. The record of a chain comes from the first certificate, so it
stays the same when further certificates are put behind.
-/

namespace KeyProvisioning.CertificateChain

open Der

theorem prompt_read : Prompt Certificate.read :=
  prompt_readSequence _

/-! ## Whole certificates -/

/-- Each of the parts is read as the certificate in its place, and no octet of it is left. -/
def ReadAs (parts : List Bytes) (certificates : List Certificate) : Prop :=
  parts.map Certificate.read = certificates.map fun certificate => some (certificate, [])

/-- The octets are these parts one after another, and each part is one certificate from end to
end. -/
def SplitsInto (bs : Bytes) (parts : List Bytes) : Prop :=
  parts.flatten = bs ∧
    ∀ part ∈ parts, ∃ certificate, Certificate.read part = some (certificate, [])

theorem readAs_cons_iff {part : Bytes} {parts : List Bytes} {certificates : List Certificate} :
    ReadAs (part :: parts) certificates ↔
      ∃ first more, certificates = first :: more ∧ Certificate.read part = some (first, []) ∧
        ReadAs parts more := by
  cases certificates with
  | nil => simp [ReadAs]
  | cons certificate certificates =>
    simp only [ReadAs, List.map_cons, List.cons.injEq]
    constructor
    · rintro ⟨hpart, hparts⟩
      exact ⟨certificate, certificates, ⟨rfl, rfl⟩, hpart, hparts⟩
    · rintro ⟨_, _, ⟨rfl, rfl⟩, hpart, hparts⟩
      exact ⟨hpart, hparts⟩

theorem ReadAs.length_eq {parts : List Bytes} {certificates : List Certificate}
    (h : ReadAs parts certificates) : parts.length = certificates.length := by
  simpa only [List.length_map] using congrArg List.length h

theorem ReadAs.append {parts parts' : List Bytes} {certificates certificates' : List Certificate}
    (h : ReadAs parts certificates) (h' : ReadAs parts' certificates') :
    ReadAs (parts ++ parts') (certificates ++ certificates') := by
  rw [ReadAs, List.map_append, List.map_append, h, h']

theorem exists_readAs_iff {parts : List Bytes} :
    (∃ certificates, ReadAs parts certificates) ↔
      ∀ part ∈ parts, ∃ certificate, Certificate.read part = some (certificate, []) := by
  induction parts with
  | nil => exact ⟨fun _ _ hmem => absurd hmem List.not_mem_nil, fun _ => ⟨[], rfl⟩⟩
  | cons part parts ih =>
    simp only [readAs_cons_iff, List.forall_mem_cons, ← ih]
    constructor
    · rintro ⟨_, first, more, rfl, hpart, hparts⟩
      exact ⟨⟨first, hpart⟩, more, hparts⟩
    · rintro ⟨⟨first, hpart⟩, more, hparts⟩
      exact ⟨_, first, more, rfl, hpart, hparts⟩

theorem SplitsInto.exists_readAs {bs : Bytes} {parts : List Bytes} (h : SplitsInto bs parts) :
    ∃ certificates, ReadAs parts certificates :=
  exists_readAs_iff.mpr h.2

/-- No certificate is empty. -/
theorem ne_nil_of_read {part rest : Bytes} {certificate : Certificate}
    (h : Certificate.read part = some (certificate, rest)) : part ≠ [] := by
  rintro rfl
  cases h

/-- Parts that begin the same octets are the same, until one of the two lists ends. -/
theorem SplitsInto.exists_append {bs rest : Bytes} {parts parts' : List Bytes}
    (h : SplitsInto bs parts) (h' : SplitsInto (bs ++ rest) parts') :
    ∃ more, parts' = parts ++ more ∧ SplitsInto rest more := by
  induction parts generalizing bs parts' with
  | nil =>
    obtain ⟨rfl, -⟩ := h
    exact ⟨parts', rfl, h'⟩
  | cons part parts ih =>
    obtain ⟨rfl, hwhole⟩ := h
    obtain ⟨⟨certificate, hpart⟩, hparts⟩ := List.forall_mem_cons.mp hwhole
    cases parts' with
    | nil =>
      have hnil : part ++ parts.flatten ++ rest = [] := h'.1.symm
      simp only [List.append_eq_nil_iff] at hnil
      exact absurd hnil.1.1 (ne_nil_of_read hpart)
    | cons part' parts' =>
      obtain ⟨hflatten, hwhole'⟩ := h'
      obtain ⟨⟨certificate', hpart'⟩, hparts'⟩ := List.forall_mem_cons.mp hwhole'
      rw [List.flatten_cons, List.flatten_cons, List.append_assoc] at hflatten
      obtain ⟨-, rfl, hrest⟩ := prompt_read.unique hpart' hpart hflatten
      obtain ⟨more, rfl, hmore⟩ := ih ⟨rfl, hparts⟩ ⟨hrest, hparts'⟩
      exact ⟨more, rfl, hmore⟩

theorem SplitsInto.eq_nil {parts : List Bytes} (h : SplitsInto [] parts) : parts = [] := by
  cases parts with
  | nil => rfl
  | cons part parts =>
    obtain ⟨certificate, hpart⟩ := h.2 part List.mem_cons_self
    exact absurd (List.append_eq_nil_iff.mp h.1).1 (ne_nil_of_read hpart)

/-- There is one way only to take octets apart into certificates. -/
theorem SplitsInto.unique {bs : Bytes} {parts parts' : List Bytes} (h : SplitsInto bs parts)
    (h' : SplitsInto bs parts') : parts = parts' := by
  rw [← List.append_nil bs] at h'
  obtain ⟨more, rfl, hmore⟩ := h.exists_append h'
  rw [hmore.eq_nil, List.append_nil]

/-! ## Reading to the end -/

theorem ReadAs.eq_nil {parts : List Bytes} {certificates : List Certificate}
    (h : ReadAs parts certificates) (hnil : parts.flatten = []) : certificates = [] := by
  have hparts : parts = [] := SplitsInto.eq_nil ⟨hnil, exists_readAs_iff.mp ⟨certificates, h⟩⟩
  apply List.eq_nil_of_length_eq_zero
  rw [← h.length_eq, hparts, List.length_nil]

theorem readAll_nil (fuel : Nat) : readAll fuel [] = some [] := by
  cases fuel <;> rfl

theorem readAll_of_ne_nil (fuel : Nat) {bs : Bytes} (h : bs ≠ []) :
    readAll (fuel + 1) bs = (Certificate.read bs).bind fun p =>
      (readAll fuel p.2).map (p.1 :: ·) := by
  obtain ⟨b, bs, rfl⟩ := List.exists_cons_of_ne_nil h
  rw [readAll]
  · cases Certificate.read (b :: bs) <;> rfl
  · exact h

theorem readAll_nil_eq_some_iff {fuel : Nat} {certificates : List Certificate} :
    readAll fuel [] = some certificates ↔
      ∃ parts, parts.flatten = [] ∧ ReadAs parts certificates := by
  rw [readAll_nil, Option.some.injEq]
  constructor
  · rintro rfl
    exact ⟨[], rfl, rfl⟩
  · rintro ⟨parts, hnil, hparts⟩
    exact (hparts.eq_nil hnil).symm

/-- With as much fuel as octets, exactly the octets that are whole certificates are read to the
end. -/
theorem readAll_eq_some_iff {fuel : Nat} {bs : Bytes} {certificates : List Certificate}
    (hfuel : bs.length ≤ fuel) :
    readAll fuel bs = some certificates ↔
      ∃ parts, parts.flatten = bs ∧ ReadAs parts certificates := by
  induction fuel generalizing bs certificates with
  | zero =>
    obtain rfl := List.eq_nil_of_length_eq_zero (Nat.le_zero.mp hfuel)
    exact readAll_nil_eq_some_iff
  | succ fuel ih =>
    by_cases hnil : bs = []
    · rw [hnil]
      exact readAll_nil_eq_some_iff
    rw [readAll_of_ne_nil fuel hnil, Option.bind_eq_some_iff]
    constructor
    · rintro ⟨⟨certificate, rest⟩, hfirst, hrest⟩
      obtain ⟨more, hmore, rfl⟩ := Option.map_eq_some_iff.mp hrest
      obtain ⟨front, rfl, hfront⟩ := (prompt_read _ _ _).mp hfirst
      have hpos : 0 < front.length := List.length_pos_iff.mpr (ne_nil_of_read hfront)
      have hshort : rest.length ≤ fuel := by
        rw [List.length_append] at hfuel
        omega
      obtain ⟨parts, rfl, hparts⟩ := (ih hshort).mp hmore
      exact ⟨front :: parts, rfl, readAs_cons_iff.mpr ⟨_, _, rfl, hfront, hparts⟩⟩
    · rintro ⟨parts, rfl, hparts⟩
      cases parts with
      | nil => exact absurd rfl hnil
      | cons part parts =>
        obtain ⟨certificate, more, rfl, hpart, hmore⟩ := readAs_cons_iff.mp hparts
        have hpos : 0 < part.length := List.length_pos_iff.mpr (ne_nil_of_read hpart)
        have hshort : parts.flatten.length ≤ fuel := by
          rw [List.flatten_cons, List.length_append] at hfuel
          omega
        refine ⟨(certificate, parts.flatten), prompt_read.append hpart _, ?_⟩
        rw [Option.map_eq_some_iff]
        exact ⟨more, (ih hshort).mpr ⟨parts, rfl, hmore⟩, rfl⟩

/-! ## Chains -/

theorem parse_eq_ok_iff {bs : Bytes} {chain : CertificateChain} :
    parse bs = .ok chain ↔
      ∃ parts, parts.flatten = bs ∧ ReadAs parts (chain.leaf :: chain.issuers) := by
  rw [← readAll_eq_some_iff (Nat.le_refl bs.length), parse]
  cases readAll bs.length bs with
  | none => simp
  | some certificates =>
    cases certificates with
    | nil => simp
    | cons leaf issuers =>
      simp only [Except.ok.injEq, Option.some.injEq, List.cons.injEq]
      constructor
      · rintro rfl
        exact ⟨rfl, rfl⟩
      · rintro ⟨rfl, rfl⟩
        rfl

/-- A chain of some number of certificates is parsed from as many parts. -/
theorem exists_parse_iff {bs : Bytes} {n : Nat} :
    (∃ chain, parse bs = .ok chain ∧ chain.length = n) ↔
      1 ≤ n ∧ ∃ parts : List Bytes, parts.length = n ∧ SplitsInto bs parts := by
  simp only [parse_eq_ok_iff]
  constructor
  · rintro ⟨chain, ⟨parts, rfl, hparts⟩, rfl⟩
    exact ⟨Nat.succ_pos _, parts, hparts.length_eq, rfl, exists_readAs_iff.mp ⟨_, hparts⟩⟩
  · rintro ⟨hpos, parts, rfl, hsplits⟩
    obtain ⟨certificates, hread⟩ := hsplits.exists_readAs
    cases certificates with
    | nil =>
      rw [hread.length_eq] at hpos
      cases hpos
    | cons leaf issuers => exact ⟨⟨leaf, issuers⟩, ⟨parts, hsplits.1, hread⟩, hread.length_eq.symm⟩

theorem exists_splits_of_parse {bs : Bytes} {chain : CertificateChain} (h : parse bs = .ok chain) :
    ∃ parts, SplitsInto bs parts := by
  obtain ⟨parts, hflatten, hparts⟩ := parse_eq_ok_iff.mp h
  exact ⟨parts, hflatten, exists_readAs_iff.mp ⟨_, hparts⟩⟩

theorem exists_parse_of_splits {bs : Bytes} {parts : List Bytes} (h : SplitsInto bs parts)
    (hne : bs ≠ []) : ∃ chain, parse bs = .ok chain := by
  have hpos : 1 ≤ parts.length := by
    apply List.length_pos_iff.mpr
    rintro rfl
    exact hne h.1.symm
  obtain ⟨chain, hchain, -⟩ := exists_parse_iff.mpr ⟨hpos, parts, rfl, h⟩
  exact ⟨chain, hchain⟩

theorem parse_nil : parse [] = .error .chainEmpty := by
  rfl

/-- Octets that are not whole certificates are refused with one fault, whatever is wrong with
them. -/
theorem parse_of_not_splits {bs : Bytes} (h : ∀ parts, ¬ SplitsInto bs parts) :
    parse bs = .error .chainUnparsable := by
  rw [parse]
  cases hread : readAll bs.length bs with
  | none => rfl
  | some certificates =>
    obtain ⟨parts, hflatten, hparts⟩ := (readAll_eq_some_iff (Nat.le_refl _)).mp hread
    exact absurd ⟨hflatten, exists_readAs_iff.mp ⟨_, hparts⟩⟩ (h parts)

theorem parse_eq_error_iff {bs : Bytes} {fault : ValidationFault} :
    parse bs = .error fault ↔
      (bs = [] ∧ fault = .chainEmpty) ∨
        (bs ≠ [] ∧ (∀ parts, ¬ SplitsInto bs parts) ∧ fault = .chainUnparsable) := by
  by_cases hnil : bs = []
  · rw [hnil, parse_nil]
    simp [eq_comm]
  by_cases hsplits : ∃ parts, SplitsInto bs parts
  · obtain ⟨parts, hparts⟩ := hsplits
    obtain ⟨chain, hchain⟩ := exists_parse_of_splits hparts hnil
    rw [hchain]
    simp only [reduceCtorEq, hnil, false_and, false_or, false_iff]
    exact fun hnone => hnone.2.1 parts hparts
  · rw [not_exists] at hsplits
    rw [parse_of_not_splits hsplits]
    simp [hnil, hsplits, eq_comm]

/-! ## One chain behind another -/

section Behind

variable {bs more : Bytes} {chain : CertificateChain}

/-- The certificates of both, in their order. -/
theorem parse_append {behind : CertificateChain} (h : parse bs = .ok chain)
    (hmore : parse more = .ok behind) :
    parse (bs ++ more) = .ok ⟨chain.leaf, chain.issuers ++ behind.leaf :: behind.issuers⟩ := by
  obtain ⟨parts, rfl, hparts⟩ := parse_eq_ok_iff.mp h
  obtain ⟨parts', rfl, hparts'⟩ := parse_eq_ok_iff.mp hmore
  exact parse_eq_ok_iff.mpr ⟨parts ++ parts', List.flatten_append, hparts.append hparts'⟩

/-- What stands behind whole certificates must be whole certificates itself. -/
theorem parse_append_of_not_ok (h : parse bs = .ok chain) (hne : more ≠ [])
    (hmore : ∀ behind, parse more ≠ .ok behind) :
    parse (bs ++ more) = .error .chainUnparsable := by
  apply parse_of_not_splits
  intro parts hparts
  obtain ⟨front, hfront⟩ := exists_splits_of_parse h
  obtain ⟨back, -, hback⟩ := hfront.exists_append hparts
  obtain ⟨behind, hbehind⟩ := exists_parse_of_splits hback hne
  exact hmore behind hbehind

/-- The record is that of the leaf, with the octets of the whole chain. -/
theorem ofChain_of_parse (h : parse bs = .ok chain) (level : SecurityLevel) :
    KeyRecord.ofChain ⟨bs⟩ level = do
      let expirationMillis ← leafExpirationMillis ⟨chain.leaf, []⟩
      let point ← leafEcPoint ⟨chain.leaf, []⟩
      let publicKey ← RawPublicKey.ofPoint point
      return { publicKey, chain := ⟨bs⟩, expirationMillis, level } := by
  rw [KeyRecord.ofChain, h]
  rfl

/-- Certificates behind a chain change neither the outcome of its record nor what stands in it, the
octets of the chain apart. -/
theorem ofChain_append {behind : CertificateChain} (h : parse bs = .ok chain)
    (hmore : parse more = .ok behind) (level : SecurityLevel) :
    KeyRecord.ofChain ⟨bs ++ more⟩ level =
      (KeyRecord.ofChain ⟨bs⟩ level).map fun record => { record with chain := ⟨bs ++ more⟩ } := by
  rw [ofChain_of_parse (parse_append h hmore), ofChain_of_parse h]
  cases leafExpirationMillis ⟨chain.leaf, []⟩ with
  | error => rfl
  | ok expirationMillis =>
    cases leafEcPoint ⟨chain.leaf, []⟩ with
    | error => rfl
    | ok point =>
      cases hkey : RawPublicKey.ofPoint point <;>
        simp [hkey, bind, Except.bind, Except.map, pure, Except.pure]

end Behind

/-- A chain is parsed exactly from whole certificates one after another, that of the key first,
and these are found in one way only. No octets at all have one fault, and all other octets
another one. So two chains make one, whose record is that of the first with the octets of both,
and a chain with anything else behind it is refused. -/
theorem parse_whole_certificates (bs : Bytes) :
    (∀ chain, parse bs = .ok chain ↔
      ∃ parts, parts.flatten = bs ∧ ReadAs parts (chain.leaf :: chain.issuers)) ∧
    (∀ n, (∃ chain, parse bs = .ok chain ∧ chain.length = n) ↔
      1 ≤ n ∧ ∃ parts : List Bytes, parts.length = n ∧ SplitsInto bs parts) ∧
    (∀ parts parts', SplitsInto bs parts → SplitsInto bs parts' → parts = parts') ∧
    (∀ fault, parse bs = .error fault ↔
      (bs = [] ∧ fault = .chainEmpty) ∨
        (bs ≠ [] ∧ (∀ parts, ¬ SplitsInto bs parts) ∧ fault = .chainUnparsable)) ∧
    ∀ chain, parse bs = .ok chain → ∀ more,
      (∀ behind, parse more = .ok behind →
        (∃ whole, parse (bs ++ more) = .ok whole ∧ whole.leaf = chain.leaf ∧
          whole.length = chain.length + behind.length) ∧
        ∀ level, KeyRecord.ofChain ⟨bs ++ more⟩ level =
          (KeyRecord.ofChain ⟨bs⟩ level).map fun record => { record with chain := ⟨bs ++ more⟩ }) ∧
      (more ≠ [] → (∀ behind, parse more ≠ .ok behind) →
        parse (bs ++ more) = .error .chainUnparsable) := by
  refine ⟨fun _ => parse_eq_ok_iff, fun _ => exists_parse_iff, fun _ _ => SplitsInto.unique,
    fun _ => parse_eq_error_iff, ?_⟩
  intro chain h more
  constructor
  · intro behind hmore
    refine ⟨⟨_, parse_append h hmore, rfl, ?_⟩, ofChain_append h hmore⟩
    simp only [length, List.length_append, List.length_cons]
    omega
  · exact fun hne hbehind => parse_append_of_not_ok h hne hbehind

/-- A certificate whose fields are as short as they are read, valid to the end of a year of two
digits, with a key of 64 equal octets. -/
def sampleCertificate (tens ones fill : UInt8) : Bytes :=
  let algorithm : Bytes := [0x30, 0x02, 0x06, 0x00]
  let name : Bytes := [0x30, 0x00]
  -- 500101000000Z and the last second of the given year
  let notBefore : Bytes :=
    [0x17, 0x0D, 0x35, 0x30, 0x30, 0x31, 0x30, 0x31, 0x30, 0x30, 0x30, 0x30, 0x30, 0x30, 0x5A]
  let notAfter : Bytes :=
    [0x17, 0x0D, tens, ones, 0x31, 0x32, 0x33, 0x31, 0x32, 0x33, 0x35, 0x39, 0x35, 0x39, 0x5A]
  let publicKey : Bytes :=
    [0x30, 0x4F, 0x30, 0x09, 0x06, 0x07] ++ Certificate.ecAlgorithm ++
      [0x03, 0x42, 0x00, 0x04] ++ List.replicate 64 fill
  [0x30, 0x81, 0x84, 0x30, 0x7B, 0x02, 0x00] ++ algorithm ++ name ++ [0x30, 0x1E] ++ notBefore ++
    notAfter ++ name ++ publicKey ++ algorithm ++ [0x03, 0x01, 0x00]

theorem parse_of_read {bs : Bytes} {certificate : Certificate}
    (h : Certificate.read bs = some (certificate, [])) : parse bs = .ok ⟨certificate, []⟩ :=
  parse_eq_ok_iff.mpr ⟨[bs], List.flatten_singleton, readAs_cons_iff.mpr ⟨_, [], rfl, h, rfl⟩⟩

/-- The issuer behind a leaf has no influence on the record, and garbage behind it is refused. -/
theorem parse_whole_certificates_two :
    (∃ whole, parse (sampleCertificate 0x33 0x30 1 ++ sampleCertificate 0x34 0x39 2) = .ok whole ∧
      whole.length = 2) ∧
    (KeyRecord.ofChain ⟨sampleCertificate 0x33 0x30 1 ++ sampleCertificate 0x34 0x39 2⟩
        .strongBox).map (fun record => (record.publicKey.bytes, record.expirationMillis)) =
      .ok (List.replicate 64 1, 1924991999000) ∧
    parse (sampleCertificate 0x33 0x30 1 ++ [0xDE, 0xAD]) = .error .chainUnparsable := by
  have hleaf : parse (sampleCertificate 0x33 0x30 1) =
      .ok ⟨⟨1924991999, Certificate.ecAlgorithm, 4 :: List.replicate 64 1⟩, []⟩ :=
    parse_of_read (by decide +kernel)
  have hissuer : parse (sampleCertificate 0x34 0x39 2) =
      .ok ⟨⟨2524607999, Certificate.ecAlgorithm, 4 :: List.replicate 64 2⟩, []⟩ :=
    parse_of_read (by decide +kernel)
  have hgarbage : parse [0xDE, 0xAD] = .error .chainUnparsable := by
    rfl
  obtain ⟨-, -, -, -, hbehind⟩ := parse_whole_certificates (sampleCertificate 0x33 0x30 1)
  obtain ⟨⟨whole, hwhole, -, hlength⟩, hrecord⟩ := (hbehind _ hleaf _).1 _ hissuer
  refine ⟨⟨whole, hwhole, hlength⟩, ?_, (hbehind _ hleaf _).2 (List.cons_ne_nil _ _) ?_⟩
  · rw [hrecord, ofChain_of_parse hleaf]
    rfl
  · intro behind h
    cases hgarbage.symm.trans h

end KeyProvisioning.CertificateChain
