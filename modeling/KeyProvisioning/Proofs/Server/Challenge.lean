import KeyProvisioning.Proofs.Text.Characters
import KeyProvisioning.Server.Exchange
import Mathlib.Data.List.TakeDrop

/-!
# The challenge in the address

The signing endpoint is told the challenge by the last pair of the query. Writing a pair leaves
none of the marks that part pairs, names and values inside of it, so the pair is read back whole,
and the pairs that the base brought along stay as they are.
-/

namespace KeyProvisioning

/-! ## Escaped octets -/

namespace Percent

/-- An escaped octet is read back. -/
theorem decode_escape (b : UInt8) (cs : List Char) : decode (escape b ++ cs) = b :: decode cs := by
  have hb := b.toNat_lt
  have hhigh := Hex.value?_upperDigit (b.toNat / 16 % 16) (Nat.mod_lt _ (by decide))
  have hlow := Hex.value?_upperDigit (b.toNat % 16) (Nat.mod_lt _ (by decide))
  have hnumber : b.toNat / 16 % 16 * 16 + b.toNat % 16 = b.toNat := by omega
  simp only [escape, Hex.fixed, List.nil_append, List.cons_append, decode, hhigh, hlow, hnumber,
    UInt8.ofNat_toNat]

/-- Escaped octets are read back. -/
theorem decode_flatMap_escape (bs : Bytes) (cs : List Char) :
    decode (bs.flatMap escape ++ cs) = bs ++ decode cs := by
  induction bs with
  | nil => rfl
  | cons b bs ih => rw [List.flatMap_cons, List.append_assoc, decode_escape, ih, List.cons_append]

/-- A character other than a percent sign stands for its octets. -/
theorem decode_cons_of_ne {c : Char} (h : c ≠ '%') (cs : List Char) :
    decode (c :: cs) = Utf8.encode [c] ++ decode cs := by
  rw [decode.eq_def]
  split
  · rename_i heq
    exact absurd (List.cons.inj heq).1 h
  · rename_i heq
    obtain ⟨rfl, rfl⟩ := List.cons.inj heq
    rfl
  · rename_i heq
    cases heq

end Percent

/-! ## Pairs -/

namespace Form

/-- The characters that a written name or value is made of. -/
theorem isPlain_or_of_mem_encode {cs : List Char} {c : Char} (h : c ∈ encode cs) :
    isPlain c = true ∨ c = '+' ∨ c = '%' := by
  have hdigit : ∀ d < 16, isPlain (Hex.upperDigit d) = true := by decide
  obtain ⟨d, -, hc⟩ := List.mem_flatMap.mp h
  split at hc
  · rename_i hplain
    obtain rfl := List.mem_singleton.mp hc
    exact .inl hplain
  split at hc
  · exact .inr (.inl (List.mem_singleton.mp hc))
  · obtain ⟨b, -, hc⟩ := List.mem_flatMap.mp hc
    simp only [Percent.escape, Hex.fixed, List.nil_append, List.cons_append, List.mem_cons,
      List.not_mem_nil, or_false] at hc
    obtain rfl | rfl | rfl := hc
    · exact .inr (.inr rfl)
    · exact .inl (hdigit _ (Nat.mod_lt _ (by decide)))
    · exact .inl (hdigit _ (Nat.mod_lt _ (by decide)))

/-- A mark that parts pairs or their halves is not written inside of them. -/
theorem not_mem_encode {c : Char} (h : c = '&' ∨ c = '=') (cs : List Char) : c ∉ encode cs := by
  intro hmem
  obtain rfl | rfl := h
  · exact absurd (isPlain_or_of_mem_encode hmem) (by decide)
  · exact absurd (isPlain_or_of_mem_encode hmem) (by decide)

/-- How a reader sees a written character: a plus as the blank it stands for. -/
def unplus (c : Char) : Char :=
  if c = '+' then ' ' else c

theorem map_unplus_flatMap_escape (bs : Bytes) :
    (bs.flatMap Percent.escape).map unplus = bs.flatMap Percent.escape := by
  have hdigit : ∀ d < 16, unplus (Hex.upperDigit d) = Hex.upperDigit d := by decide
  have hmod : ∀ n, n % 16 < 16 := fun n => Nat.mod_lt n (by decide)
  have hmark : unplus '%' = '%' := by decide
  induction bs with
  | nil => rfl
  | cons b bs ih =>
    rw [List.flatMap_cons, List.map_append, ih]
    simp [Percent.escape, Hex.fixed, hdigit _ (hmod _), hmark]

/-- What is written for one character is read as its octets. -/
theorem decode_map_encode_singleton (c : Char) (cs : List Char) :
    Percent.decode ((encode [c]).map unplus ++ cs) = Utf8.encode [c] ++ Percent.decode cs := by
  rw [encode, List.flatMap_singleton]
  split
  · rename_i hplain
    have hplus : c ≠ '+' := by
      rintro rfl
      exact absurd hplain (by decide)
    have hpercent : c ≠ '%' := by
      rintro rfl
      exact absurd hplain (by decide)
    have hself : [c].map unplus ++ cs = c :: cs := by simp [unplus, hplus]
    rw [hself, Percent.decode_cons_of_ne hpercent]
  split
  · rename_i hblank
    subst hblank
    exact Percent.decode_cons_of_ne (by decide) cs
  · rw [map_unplus_flatMap_escape, Percent.decode_flatMap_escape]

/-- What is written for a name or a value is read as its octets. -/
theorem decode_map_encode (cs : List Char) :
    Percent.decode ((encode cs).map unplus) = Utf8.encode cs := by
  induction cs with
  | nil => rfl
  | cons c cs ih =>
    have hencode : encode (c :: cs) = encode [c] ++ encode cs := by simp [encode]
    rw [hencode, List.map_append, decode_map_encode_singleton, ih, ← Utf8.encode_append]
    rfl

/-- A name or a value is read back. -/
theorem decode_encode (cs : List Char) : decode (encode cs) = cs := by
  have hoctets := decode_map_encode cs
  unfold unplus at hoctets
  rw [decode, hoctets]
  exact Utf8.decodeLossy_eq_of_decode? (Utf8.decode?_encode cs)

/-- A pair is read back. -/
theorem decodePair_encodePair (name value : List Char) :
    decodePair (encodePair name value) = (name, value) := by
  have hname : ∀ c ∈ encode name, (c != '=') = true := by
    intro c hc
    exact bne_iff_ne.mpr fun he => not_mem_encode (.inr he) name hc
  have hspan : (encodePair name value).span (· != '=') = (encode name, '=' :: encode value) := by
    rw [encodePair, List.span_eq_takeWhile_dropWhile, List.takeWhile_append_of_pos hname,
      List.dropWhile_append_of_pos hname]
    simp
  simp only [decodePair, hspan, List.tail_cons, decode_encode]

/-- One more pair leaves the pairs of the query as they are. -/
theorem pairs_append (query name value : List Char) :
    pairs (append query name value) = pairs query ++ [(name, value)] := by
  have hmark : '&' ∉ encodePair name value := by
    simp [encodePair, not_mem_encode (.inl rfl)]
  have hone : (encodePair name value).splitOn '&' = [encodePair name value] :=
    List.splitOn_eq_singleton hmark
  have hsome : (encodePair name value).isEmpty = false := by
    simp [encodePair]
  unfold append
  split
  · rename_i hempty
    rw [List.isEmpty_iff.mp hempty]
    simp [pairs, hone, hsome, decodePair_encodePair]
  · have hsplit : (query ++ ['&'] ++ encodePair name value).splitOn '&' =
        query.splitOn '&' ++ [encodePair name value] := by
      rw [List.append_assoc, List.singleton_append, List.splitOn,
        List.splitOnP_append_cons _ _ (by decide)]
      exact congrArg _ hone
    rw [pairs, hsplit, List.filter_append, List.map_append]
    simp [hsome, decodePair_encodePair]
    rfl

/-- Different values are written differently. -/
theorem append_right_injective (query name : List Char) {value other : List Char}
    (h : append query name value = append query name other) : value = other := by
  have hencode : encode value = encode other := by
    simpa [append, encodePair] using h
  rw [← decode_encode value, hencode, decode_encode]

end Form

/-! ## Addresses -/

namespace Url

theorem render_addPair (url : Url) (name value : List Char) :
    (url.addPair name value).render =
      url.scheme ++ ':' :: url.renderPlace ++
        '?' :: Form.append (url.query.getD []) name value ++ renderPart '#' url.fragment :=
  rfl

/-- One more pair is the last one. -/
theorem pairs_addPair (url : Url) (name value : List Char) :
    (url.addPair name value).pairs = url.pairs ++ [(name, value)] :=
  Form.pairs_append _ name value

/-- An address with one more pair tells the value of the pair. -/
theorem addPair_right_injective (url : Url) (name : List Char) {value other : List Char}
    (h : (url.addPair name value).render = (url.addPair name other).render) : value = other := by
  rw [render_addPair, render_addPair] at h
  have hquery := List.append_cancel_left (List.append_cancel_right h)
  exact Form.append_right_injective _ name (List.cons.inj hquery).2

end Url

namespace Server

theorem eq_invalidUrl_of_endpoint {base : String} {path : List Char} {fault : TransportFault}
    (h : endpoint base path = .error fault) : fault = .invalidUrl := by
  unfold endpoint at h
  split at h
  · cases h
  · exact (Except.error.inj h).symm

/-- The address that signs is the one of the endpoint with the challenge in its query. -/
theorem signingUrl_eq (base : String) (challenge : Bytes) :
    signingUrl base challenge =
      (endpoint base signingPath).map
        (·.addPair "challenge".toList (Utf8.decodeLossy challenge)) := by
  rw [signingUrl]
  cases endpoint base signingPath <;> rfl

/-- The server is told the challenge. Whether there is an address to sign at depends on the base
alone. If there is, the challenge is the last pair of its query, as text in which malformed
octets are replaced, after pairs that are the base's. Octets that write a text are told as that
text, and different texts lead to different addresses. -/
theorem signingUrl_tells_challenge (base : String) :
    ((∀ challenge, signingUrl base challenge = .error .invalidUrl) ∨
      ∃ before, ∀ challenge, ∃ url, signingUrl base challenge = .ok url ∧
        url.pairs = before ++ [("challenge".toList, Utf8.decodeLossy challenge)]) ∧
    (∀ text, Utf8.decodeLossy (Utf8.encode text) = text) ∧
    ∀ text other url url', text ≠ other → signingUrl base (Utf8.encode text) = .ok url →
      signingUrl base (Utf8.encode other) = .ok url' → url.render ≠ url'.render := by
  have hlossy : ∀ text, Utf8.decodeLossy (Utf8.encode text) = text := fun text =>
    Utf8.decodeLossy_eq_of_decode? (Utf8.decode?_encode text)
  refine ⟨?_, hlossy, ?_⟩
  · cases hplace : endpoint base signingPath with
    | error fault =>
      obtain rfl := eq_invalidUrl_of_endpoint hplace
      left
      intro challenge
      rw [signingUrl_eq, hplace]
      rfl
    | ok place =>
      right
      refine ⟨place.pairs, fun challenge => ⟨_, ?_, place.pairs_addPair _ _⟩⟩
      rw [signingUrl_eq, hplace]
      rfl
  · intro text other url url' hne htext hother hrender
    rw [signingUrl_eq, hlossy] at htext hother
    cases hplace : endpoint base signingPath with
    | error fault =>
      rw [hplace] at htext
      cases htext
    | ok place =>
      rw [hplace] at htext hother
      cases htext
      cases hother
      exact hne (place.addPair_right_injective _ hrender)

/-- A base with a query and a fragment, and two challenges full of the marks of a query. -/
theorem signingUrl_tells_challenge_marks :
    let base := "https://h?x=1&#f"
    let text := "&=+%# é".toList
    let other := "&=+%#+é".toList
    ∃ url url', text ≠ other ∧ signingUrl base (Utf8.encode text) = .ok url ∧
      signingUrl base (Utf8.encode other) = .ok url' ∧
      url.pairs = [(['x'], ['1']), ("challenge".toList, text)] ∧ url.render ≠ url'.render := by
  intro base text other
  have hne : text ≠ other := by decide
  obtain ⟨halways, -, hdistinct⟩ := signingUrl_tells_challenge base
  obtain hnever | ⟨before, hok⟩ := halways
  · exact absurd (hnever []) (by decide +kernel)
  · obtain ⟨url, hurl, -⟩ := hok (Utf8.encode text)
    obtain ⟨url', hurl', -⟩ := hok (Utf8.encode other)
    have hread : (signingUrl base (Utf8.encode text)).map Url.pairs =
        .ok [(['x'], ['1']), ("challenge".toList, text)] := by
      decide +kernel
    rw [hurl] at hread
    exact ⟨url, url', hne, hurl, hurl', Except.ok.inj hread,
      hdistinct text other url url' hne hurl hurl'⟩

end Server

end KeyProvisioning
