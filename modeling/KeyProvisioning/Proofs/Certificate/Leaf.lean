import KeyProvisioning.Proofs.Certificate.Chain
import KeyProvisioning.Proofs.Message.SignedChains

/-!
# The leaf of a signed chain

A signed chain is a unique part with the shared part behind it, and its record is that of the
certificate at the front of both together. Nothing marks the border between the parts. So the
certificate lies inside the unique part exactly if that begins with a whole certificate.
Otherwise it reaches over the border, or it is the first of the shared ones if the unique part is
empty.
-/

namespace KeyProvisioning

/-! ## Records -/

namespace KeyRecord

/-- The key and the expiration of a record are those of a certificate. -/
structure IsOf (record : KeyRecord) (certificate : Certificate) : Prop where
  publicKey : ∃ form, certificate.ecPoint = some (form :: record.publicKey.bytes)
  expirationMillis : record.expirationMillis = certificate.expirationMillis

end KeyRecord

theorem RawPublicKey.of_ofPoint {point : Bytes} {key : RawPublicKey}
    (h : ofPoint point = .ok key) :
    ∃ form, point = form :: key.bytes := by
  cases point with
  | nil => cases h
  | cons form coordinates =>
    rw [ofPoint] at h
    split at h
    · cases h
      exact ⟨form, rfl⟩
    · cases h

namespace CertificateChain

theorem leafExpirationMillis_eq_ok {chain : CertificateChain} {millis : Int}
    (h : chain.leafExpirationMillis = .ok millis) : millis = chain.leaf.expirationMillis := by
  simp only [leafExpirationMillis] at h
  split at h
  · cases h
    rfl
  · cases h

theorem leafEcPoint_eq_ok {chain : CertificateChain} {point : Bytes}
    (h : chain.leafEcPoint = .ok point) : chain.leaf.ecPoint = some point := by
  unfold leafEcPoint at h
  split at h
  · rename_i hpoint
    cases h
    exact hpoint
  · cases h

end CertificateChain

/-- A record is made of a chain that is parsed, and is of its leaf. -/
theorem KeyRecord.exists_parse_of_ofChain {blob : CertificateBlob} {level : SecurityLevel}
    {record : KeyRecord} (h : ofChain blob level = .ok record) :
    ∃ chain, CertificateChain.parse blob.bytes = .ok chain ∧ record.IsOf chain.leaf ∧
      record.chain = blob ∧ record.level = level := by
  simp only [ofChain, Message.bind_eq_ok_iff] at h
  obtain ⟨chain, hparse, millis, hmillis, point, hpoint, key, hkey, hrecord⟩ := h
  cases hrecord
  obtain ⟨form, rfl⟩ := RawPublicKey.of_ofPoint hkey
  refine ⟨chain, hparse, ⟨⟨form, ?_⟩, ?_⟩, rfl, rfl⟩
  · exact CertificateChain.leafEcPoint_eq_ok hpoint
  · exact CertificateChain.leafExpirationMillis_eq_ok hmillis

/-! ## The border between two parts -/

/-- Octets at the front of two parts lie in the first one, or they go on in the second one. -/
theorem front_cases {part shared own behind : Bytes} (h : part ++ shared = own ++ behind) :
    own <+: part ∨ ∃ rest, rest ≠ [] ∧ own = part ++ rest ∧ rest <+: shared := by
  rcases List.append_eq_append_iff.mp h with ⟨rest, hown, hshared⟩ | ⟨rest, hpart, -⟩
  · by_cases hrest : rest = []
    · rw [hrest, List.append_nil] at hown
      exact .inl (hown ▸ List.prefix_rfl)
    · exact .inr ⟨rest, hrest, hown, behind, hshared.symm⟩
  · exact .inl ⟨rest, hpart.symm⟩

namespace CertificateChain

open Der Cbor

/-- The leaf takes octets of its own at the front of a chain. -/
theorem exists_front_of_parse {bs : Bytes} {chain : CertificateChain} (h : parse bs = .ok chain) :
    ∃ own behind, bs = own ++ behind ∧ Certificate.read own = some (chain.leaf, []) := by
  obtain ⟨parts, rfl, hparts⟩ := parse_eq_ok_iff.mp h
  cases parts with
  | nil => cases hparts
  | cons own parts =>
    obtain ⟨leaf, issuers, hcertificates, hown, -⟩ := readAs_cons_iff.mp hparts
    cases hcertificates
    exact ⟨own, parts.flatten, List.flatten_cons, hown⟩

/-- If the first of two parts begins with a certificate, that one is at the front of both. -/
theorem eq_of_read {part rest shared own behind : Bytes} {first certificate : Certificate}
    (hpart : Certificate.read part = some (first, rest))
    (hown : Certificate.read own = some (certificate, [])) (h : part ++ shared = own ++ behind) :
    first = certificate ∧ part = own ++ rest := by
  obtain ⟨front, rfl, hfront⟩ := (prompt_read _ _ _).mp hpart
  rw [List.append_assoc] at h
  obtain ⟨rfl, rfl, -⟩ := prompt_read.unique hfront hown h
  exact ⟨rfl, rfl⟩

/-- If the first of two parts does not begin with a certificate, the one at the front of both
takes all of it and goes on in the second part. -/
theorem exists_rest_of_read {part shared own behind : Bytes} {certificate : Certificate}
    (hpart : Certificate.read part = none)
    (hown : Certificate.read own = some (certificate, [])) (h : part ++ shared = own ++ behind) :
    ∃ rest, rest ≠ [] ∧ own = part ++ rest ∧ rest <+: shared := by
  rcases front_cases h with ⟨rest, rfl⟩ | hrest
  · rw [prompt_read.append hown rest] at hpart
    cases hpart
  · exact hrest

/-- The chains of a message are its unique parts in their order, each followed by the shared
part. If there is a record of such a chain it is that of the certificate at the front of the two
parts. Where the unique part begins with a whole certificate, it is this one. Where it does not,
all of the unique part belongs to the certificate, which goes on in the shared part, and an empty
one leaves it to the first shared one. -/
theorem leaf_of_signed {bytes : Bytes} {chains : List CertificateBlob}
    (decoded : SignedChains.decode bytes = .ok chains) :
    ∃ (shared : Bytes) (unique : List Bytes),
      (Item.array [.bytes shared, .array (unique.map .bytes)]).Encoded bytes ∧
      chains = unique.map (fun part => ⟨part ++ shared⟩) ∧
      ∀ part ∈ unique, ∀ level record, KeyRecord.ofChain ⟨part ++ shared⟩ level = .ok record →
        ∃ own behind certificate, part ++ shared = own ++ behind ∧
          Certificate.read own = some (certificate, []) ∧ record.IsOf certificate ∧
          (∀ first rest, Certificate.read part = some (first, rest) →
            first = certificate ∧ part = own ++ rest) ∧
          (Certificate.read part = none →
            ∃ rest, rest ≠ [] ∧ own = part ++ rest ∧ rest <+: shared) := by
  obtain ⟨_, _, encoded, helements⟩ := SignedChains.decode_eq_ok_iff.mp decoded
  obtain ⟨shared, unique, rfl, rfl, rfl⟩ := SignedChains.ofElements_eq_ok_iff.mp helements
  refine ⟨shared, unique, encoded, rfl, ?_⟩
  intro part _ level record hrecord
  obtain ⟨chain, hparse, hrecordOf, -, -⟩ := KeyRecord.exists_parse_of_ofChain hrecord
  obtain ⟨own, behind, hsplit, hown⟩ := exists_front_of_parse hparse
  exact ⟨own, behind, chain.leaf, hsplit, hown, hrecordOf,
    fun _ _ hpart => eq_of_read hpart hown hsplit,
    fun hpart => exists_rest_of_read hpart hown hsplit⟩

/-- A certificate that an authority makes for itself, whose key is 64 equal octets. -/
def issuerCertificate : Bytes :=
  let algorithm : Bytes := [0x30, 0x0A, 0x06, 0x08, 0x2A, 0x86, 0x48, 0xCE, 0x3D, 0x04, 0x03, 0x02]
  -- the name is "root"
  let name : Bytes := [0x30, 0x0F, 0x31, 0x0D, 0x30, 0x0B, 0x06, 0x03, 0x55, 0x04, 0x03, 0x0C,
    0x04, 0x72, 0x6F, 0x6F, 0x74]
  -- 200913122640Z and 300317174640Z
  let validity : Bytes := [0x30, 0x1E,
    0x17, 0x0D, 0x32, 0x30, 0x30, 0x39, 0x31, 0x33, 0x31, 0x32, 0x32, 0x36, 0x34, 0x30, 0x5A,
    0x17, 0x0D, 0x33, 0x30, 0x30, 0x33, 0x31, 0x37, 0x31, 0x37, 0x34, 0x36, 0x34, 0x30, 0x5A]
  let publicKey : Bytes :=
    [0x30, 0x59, 0x30, 0x13, 0x06, 0x07] ++ Certificate.ecAlgorithm ++
      [0x06, 0x08, 0x2A, 0x86, 0x48, 0xCE, 0x3D, 0x03, 0x01, 0x07, 0x03, 0x42, 0x00, 0x04] ++
      List.replicate 64 2
  [0x30, 0x81, 0xCB, 0x30, 0x81, 0xB1, 0xA0, 0x03, 0x02, 0x01, 0x02, 0x02, 0x01, 0x01] ++
    algorithm ++ name ++ validity ++ name ++ publicKey ++ algorithm ++
    [0x03, 0x09, 0x00, 0x30, 0x06, 0x02, 0x01, 0x01, 0x02, 0x01, 0x02]

/-- A certificate that is cut off where its signature begins. The length of the signature is that
of the authority's certificate. -/
def cutCertificate : Bytes :=
  [0x30, 0x82, 0x01, 0x53] ++ ((sampleCertificate 0x33 0x30 1).drop 3).take 129 ++
    [0x03, 0x81, 0xCF, 0x00]

/-- The record of the octets of a chain whose leaf has a key of equal octets. -/
def recordOf (bytes : Bytes) (fill : UInt8) (millis : Int) : KeyRecord :=
  ⟨⟨List.replicate 64 fill, List.length_replicate⟩, ⟨bytes⟩, millis, .strongBox⟩

/-- A message with one unique part that is whole and one that is cut off. The first key is that
of its unique part alone. The second leaf takes the shared certificate for its signature. -/
theorem leaf_of_signed_cut :
    let whole := sampleCertificate 0x33 0x30 1
    SignedChains.decode (SignedChains.write issuerCertificate [whole, cutCertificate]) =
        .ok [⟨whole ++ issuerCertificate⟩, ⟨cutCertificate ++ issuerCertificate⟩] ∧
      (∃ record certificate,
        KeyRecord.ofChain ⟨whole ++ issuerCertificate⟩ .strongBox = .ok record ∧
        record.IsOf certificate ∧ Certificate.read whole = some (certificate, [])) ∧
      ∃ record own certificate rest,
        KeyRecord.ofChain ⟨cutCertificate ++ issuerCertificate⟩ .strongBox = .ok record ∧
        record.IsOf certificate ∧ Certificate.read own = some (certificate, []) ∧
        own = cutCertificate ++ rest ∧ rest ≠ [] ∧ rest <+: issuerCertificate := by
  intro whole
  have hshort : ∀ part ∈ [whole, cutCertificate], part.length < UInt64.size := by
    decide +kernel
  have hdecode :
      SignedChains.decode (SignedChains.write issuerCertificate [whole, cutCertificate]) =
        .ok [⟨whole ++ issuerCertificate⟩, ⟨cutCertificate ++ issuerCertificate⟩] :=
    SignedChains.decode_write (by decide +kernel) (by decide) hshort
  obtain ⟨shared, unique, encoded, -, hrecords⟩ := leaf_of_signed hdecode
  obtain ⟨rfl, rfl⟩ := SignedChains.parts_unique encoded
    (SignedChains.encoded_write (by decide +kernel) (by decide) hshort)
  have hwhole : Certificate.read whole =
      some (⟨1924991999, Certificate.ecAlgorithm, 4 :: List.replicate 64 1⟩, []) := by
    decide +kernel
  have hcut : Certificate.read cutCertificate = none := by
    decide +kernel
  have hfirst : KeyRecord.ofChain ⟨whole ++ issuerCertificate⟩ .strongBox =
      .ok (recordOf (whole ++ issuerCertificate) 1 1924991999000) :=
    Message.eq_ok_of_toOption (by decide +kernel)
  have hsecond : KeyRecord.ofChain ⟨cutCertificate ++ issuerCertificate⟩ .strongBox =
      .ok (recordOf (cutCertificate ++ issuerCertificate) 1 1924991999000) :=
    Message.eq_ok_of_toOption (by decide +kernel)
  refine ⟨hdecode, ?_, ?_⟩
  · obtain ⟨own, -, certificate, -, -, hof, hinside, -⟩ :=
      hrecords whole List.mem_cons_self _ _ hfirst
    obtain ⟨rfl, -⟩ := hinside _ _ hwhole
    exact ⟨_, _, hfirst, hof, hwhole⟩
  · obtain ⟨own, -, certificate, -, hown, hof, -, hacross⟩ :=
      hrecords cutCertificate (List.mem_cons_of_mem _ List.mem_cons_self) _ _ hsecond
    obtain ⟨rest, hne, hrest, hprefix⟩ := hacross hcut
    exact ⟨_, own, certificate, rest, hsecond, hof, hown, hrest, hne, hprefix⟩

/-- With an empty unique part the shared certificate is the leaf, and the record has its key. -/
theorem record_of_shared_certificate :
    let message : Bytes := [0x82, 0x58, 0xCE] ++ (issuerCertificate ++ [0x81, 0x40])
    (Item.array [.bytes issuerCertificate, .array ([[]].map .bytes)]).Encoded message ∧
      SignedChains.decode message = .ok [⟨[] ++ issuerCertificate⟩] ∧
      ∃ record, KeyRecord.ofChain ⟨[] ++ issuerCertificate⟩ .strongBox = .ok record ∧
        record.publicKey.bytes = List.replicate 64 2 ∧
        ¬ ∃ own behind certificate, [] = own ++ behind ∧
          Certificate.read own = some (certificate, []) ∧ record.IsOf certificate := by
  intro message
  have hmessage : message = SignedChains.write issuerCertificate [[]] := by
    decide +kernel
  have hshort : ∀ part ∈ [([] : Bytes)], part.length < UInt64.size := by
    decide +kernel
  have hrecord : KeyRecord.ofChain ⟨[] ++ issuerCertificate⟩ .strongBox =
      .ok (recordOf ([] ++ issuerCertificate) 2 1900000000000) :=
    Message.eq_ok_of_toOption (by decide +kernel)
  rw [hmessage]
  refine ⟨SignedChains.encoded_write (by decide +kernel) (by decide) hshort,
    SignedChains.decode_write (by decide +kernel) (by decide) hshort, _, hrecord, rfl, ?_⟩
  rintro ⟨own, behind, certificate, hempty, hown, -⟩
  exact ne_nil_of_read hown (List.append_eq_nil_iff.mp hempty.symm).1

end CertificateChain

end KeyProvisioning
