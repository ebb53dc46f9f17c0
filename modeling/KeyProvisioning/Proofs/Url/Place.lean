import KeyProvisioning.Proofs.Url.Continuation

/-!
# The place that an address names

A path that is appended to an address does not change the place that it names, unless the address
breaks off where a host is due: then the path is read from its host on, and without a path the
address has no host.
-/

namespace KeyProvisioning.Url

/-- What is appended to an address of a network scheme belongs to its path, unless there are only
slashes after the scheme. -/
theorem parseNetwork?_append {scheme rest more more' : List Char} {number : Nat} {url : Url}
    (h : parseAuthority? scheme (.network number)
      ((rest ++ more).dropWhile (SchemeSyntax.network number).isSlash) = some url)
    (hmore : more.head? = some '/') (hrest : awaitsHost (.network number) rest = false)
    (hmore' : ∀ c ∈ more'.head?, c = '/') :
    ∃ url', parseAuthority? scheme (.network number)
        ((rest ++ more').dropWhile (SchemeSyntax.network number).isSlash) = some url' ∧
      url'.SameOrigin url := by
  have hplace : (rest.dropWhile (SchemeSyntax.network number).isSlash).isEmpty = false := by
    rw [List.isEmpty_eq_false_iff]
    intro hnil
    rw [List.dropWhile_eq_nil_iff] at hnil
    rw [awaitsHost, List.all_eq_true.mpr hnil] at hrest
    cases hrest
  rw [List.dropWhile_append, hplace] at h ⊢
  obtain ⟨url', hurl', hscheme, hauthority⟩ := parseAuthority?_append _ h hmore hmore'
  exact ⟨url', hurl', .of_authority hscheme hauthority⟩

/-- The scheme stands before what is appended after a slash. -/
theorem split?_append (text : List Char) {more : List Char} (hmore : ∀ c ∈ more.head?, c = '/') :
    Scheme.split? (text ++ more) =
      (Scheme.split? text).map fun parts => (parts.1, parts.2 ++ more) := by
  have hspan : (text ++ more).span Scheme.isSchemeChar = _ := span_append fun c hc => by
    rw [hmore c hc]
    rfl
  unfold Scheme.split?
  rw [hspan, List.span_eq_takeWhile_dropWhile]
  rcases text.takeWhile Scheme.isSchemeChar with _ | ⟨c, scheme⟩
  · rfl
  · rcases text.dropWhile Scheme.isSchemeChar with _ | ⟨d, rest⟩
    · rcases more with _ | ⟨d, more⟩
      · rfl
      · obtain rfl := hmore d rfl
        rfl
    · by_cases hd : d = ':'
      · subst hd
        cases hc : c.isAlpha <;> simp [hc]
      · simp [hd]

/-- The scheme stands before the first colon. -/
theorem exists_colon_of_split? {text scheme rest : List Char}
    (h : Scheme.split? (Written.visible text) = some (scheme, rest)) :
    ∃ tail, text.dropWhile (· != ':') = ':' :: tail ∧ Written.visible tail = rest := by
  have hcolon {front tail : List Char} (hfront : ∀ c ∈ front, (c != ':') = true) :
      (front ++ ':' :: tail).dropWhile (· != ':') = ':' :: tail := by
    rw [List.dropWhile_append_of_pos hfront, List.dropWhile_cons_of_neg (by decide)]
  have hvisible : (Written.visible text).dropWhile (· != ':') = ':' :: rest := by
    have hparts := List.takeWhile_append_dropWhile (p := Scheme.isSchemeChar)
      (l := Written.visible text)
    unfold Scheme.split? at h
    rw [List.span_eq_takeWhile_dropWhile] at h
    have hfront : ∀ c ∈ (Written.visible text).takeWhile Scheme.isSchemeChar,
        (c != ':') = true := by
      intro c hc
      have hscheme := List.mem_takeWhile_imp hc
      rw [bne_iff_ne]
      rintro rfl
      cases hscheme
    split at h
    · rename_i c front tail hspan
      obtain ⟨hfirst, hrest⟩ := Prod.mk.inj hspan
      split at h
      · obtain ⟨-, rfl⟩ := Prod.mk.inj (Option.some.inj h)
        rw [← hparts, hrest]
        exact hcolon hfront
      · cases h
    · cases h
  have hfront : ∀ c ∈ Written.visible (text.takeWhile (· != ':')), (c != ':') = true :=
    fun c hc => List.mem_takeWhile_imp (p := (· != ':')) (List.mem_filter.mp hc).1
  rw [← List.takeWhile_append_dropWhile (p := (· != ':')) (l := text),
    Written.visible_append, List.dropWhile_append_of_pos hfront] at hvisible
  cases htail : text.dropWhile (· != ':') with
  | nil =>
    rw [htail] at hvisible
    cases hvisible
  | cons c tail =>
    have hc := List.head?_dropWhile_not (· != ':') text
    rw [htail] at hc hvisible
    obtain rfl : c = ':' := by simpa using hc
    refine ⟨tail, rfl, ?_⟩
    have hcons : Written.visible (':' :: tail) = ':' :: Written.visible tail := rfl
    rw [hcons, List.dropWhile_cons_of_neg (by decide)] at hvisible
    exact (List.cons.inj hvisible).2

/-- The address that a text without blanks around it writes. -/
def parseWritten? (written : List Char) : Option Url := do
  let (scheme, rest) ← Scheme.split? (Written.visible written)
  match SchemeSyntax.ofScheme scheme with
  | .network number =>
    let form := SchemeSyntax.network number
    parseAuthority? scheme form (rest.dropWhile form.isSlash)
  | .file => parseFile? (written.dropWhile (· != ':')).tail
  | .general => parseGeneral? scheme rest

theorem parse?_eq (text : List Char) : parse? text = parseWritten? (Written.trim text) := rfl

/-- Whether an address breaks off where a host is due. -/
def breaksOff (text : List Char) : Bool :=
  match Scheme.split? (Written.visible text) with
  | some (scheme, rest) => awaitsHost (SchemeSyntax.ofScheme scheme) rest
  | none => false

/-- A path of which all characters count, and whose first segment is not empty. -/
structure PathText (text : List Char) : Prop extends Appendable text where
  begins : ∃ c rest, text = '/' :: c :: rest ∧ SchemeSyntax.isSlash .file c = false
  counts : ∀ c ∈ text, Written.isPassedOver c = false

/-- A path that is appended to an address does not change its place, unless the address breaks off
where a host is due. -/
theorem parseWritten?_append {text more more' : List Char} {url : Url}
    (h : parseWritten? (text ++ more) = some url) (hmore : PathText more)
    (htext : breaksOff text = false) (hmore' : ∀ c ∈ more', c = '/') :
    ∃ url', parseWritten? (text ++ more') = some url' ∧ url'.SameOrigin url := by
  have happendable := appendable_slashes hmore'
  have hvisible : Written.visible more = more := Written.visible_eq_self hmore.counts
  have hvisible' : Written.visible more' = more' := Written.visible_eq_self fun c hc => by
    rw [hmore' c hc]
    rfl
  unfold parseWritten? at h ⊢
  unfold breaksOff at htext
  rw [Written.visible_append, hvisible, split?_append _ hmore.head] at h
  rw [Written.visible_append, hvisible', split?_append _ happendable.head]
  obtain ⟨c, rest', rfl, hc⟩ := hmore.begins
  cases hsplit : Scheme.split? (Written.visible text) with
  | none =>
    rw [hsplit] at h
    cases h
  | some parts =>
    obtain ⟨scheme, rest⟩ := parts
    rw [hsplit] at h htext
    simp only [Option.map_some, Option.bind_eq_bind, Option.bind_some] at h htext ⊢
    cases hform : SchemeSyntax.ofScheme scheme with
    | network number =>
      rw [hform] at h htext
      exact parseNetwork?_append h rfl htext happendable.head
    | file =>
      rw [hform] at h htext
      obtain ⟨tail, hcolon, rfl⟩ := exists_colon_of_split? hsplit
      have htail (more : List Char) :
          ((text ++ more).dropWhile (· != ':')).tail = tail ++ more := by
        rw [List.dropWhile_append, hcolon]
        rfl
      simp only [htail] at h ⊢
      exact parseFile?_append h hmore.toAppendable hc (hmore.counts c (by simp)) htext hmore'
    | general =>
      rw [hform] at h htext
      have hslash : c ≠ '/' := by
        rintro rfl
        cases hc
      refine parseGeneral?_append h hslash ?_ hmore'
      rintro rfl
      cases htext

/-- A file address that breaks off has one slash after its scheme. -/
theorem exists_slash_of_awaitsHost {text : List Char}
    (h : awaitsHost .file (Written.visible text) = true) :
    ∃ first rest, Written.next? text = some (first, rest) ∧
      SchemeSyntax.isSlash .file first = true ∧ Written.next? rest = none := by
  have hvisible := visible_eq text
  cases hnext : Written.next? text with
  | none =>
    rw [hnext] at hvisible
    rw [hvisible] at h
    cases h
  | some found =>
    obtain ⟨first, rest⟩ := found
    rw [hnext] at hvisible
    have hrest := visible_eq rest
    rw [hvisible] at h
    cases hsecond : Written.next? rest with
    | none =>
      have hslash := List.all_eq_true.mp (Bool.and_eq_true_iff.mp h).2 first List.mem_cons_self
      exact ⟨first, rest, rfl, hslash, hsecond⟩
    | some found =>
      rw [hsecond] at hrest
      simp [awaitsHost, hrest] at h

theorem eq_slash_of_awaitsHost {rest : List Char} (h : awaitsHost .general rest = true) :
    rest = ['/'] := by
  obtain ⟨hlength, hslash⟩ := Bool.and_eq_true_iff.mp h
  obtain ⟨c, rfl⟩ := List.length_eq_one_iff.mp (of_decide_eq_true hlength)
  simpa [SchemeSyntax.isSlash, SchemeSyntax.isSpecial] using hslash

/-- What is appended to an address that breaks off where a host is due is read from its host on. -/
theorem parseWritten?_of_breaksOff {text more : List Char} (h : breaksOff text = true)
    (hmore : PathText ('/' :: more)) :
    ∃ scheme, (∃ number, parseWritten? (text ++ '/' :: more) =
        parseAuthority? scheme (.network number) more) ∨
      parseWritten? (text ++ '/' :: more) = parseFileHost? more ∨
      parseWritten? (text ++ '/' :: more) = parseAuthority? scheme .general more := by
  have hvisible : Written.visible ('/' :: more) = '/' :: more :=
    Written.visible_eq_self hmore.counts
  obtain ⟨c, rest', hbegins, hc⟩ := hmore.begins
  obtain rfl : more = c :: rest' := (List.cons.inj hbegins).2
  unfold breaksOff at h
  unfold parseWritten?
  rw [Written.visible_append, hvisible, split?_append _ hmore.head]
  cases hsplit : Scheme.split? (Written.visible text) with
  | none =>
    rw [hsplit] at h
    cases h
  | some parts =>
    obtain ⟨scheme, rest⟩ := parts
    rw [hsplit] at h
    simp only [Option.map_some, Option.bind_eq_bind, Option.bind_some] at h ⊢
    refine ⟨scheme, ?_⟩
    cases hform : SchemeSyntax.ofScheme scheme with
    | network number =>
      rw [hform] at h
      refine .inl ⟨number, ?_⟩
      have hslashes : ∀ d ∈ rest ++ ['/'], (SchemeSyntax.network number).isSlash d = true := by
        intro d hd
        rcases List.mem_append.mp hd with hd | hd
        · exact List.all_eq_true.mp h d hd
        · rw [List.mem_singleton.mp hd]
          rfl
      have hfirst : (SchemeSyntax.network number).isSlash c = false := hc
      change parseAuthority? scheme (.network number)
        ((rest ++ '/' :: c :: rest').dropWhile (SchemeSyntax.network number).isSlash) = _
      rw [List.append_cons, List.dropWhile_append_of_pos hslashes,
        List.dropWhile_cons_of_neg (by simp [hfirst])]
    | file =>
      rw [hform] at h
      refine .inr (.inl ?_)
      obtain ⟨tail, hcolon, rfl⟩ := exists_colon_of_split? hsplit
      obtain ⟨first, rest, hfirst, hslash, hrest⟩ := exists_slash_of_awaitsHost h
      have hnext := next?_append tail ('/' :: c :: rest')
      have hnext' := next?_append rest ('/' :: c :: rest')
      rw [hfirst] at hnext
      rw [hrest] at hnext'
      have htail : ((text ++ '/' :: c :: rest').dropWhile (· != ':')).tail =
          tail ++ '/' :: c :: rest' := by
        rw [List.dropWhile_append, hcolon]
        rfl
      change parseFile? ((text ++ '/' :: c :: rest').dropWhile (· != ':')).tail = _
      rw [htail]
      exact parseFile?_of_host hnext hslash hnext' rfl
    | general =>
      rw [hform] at h
      refine .inr (.inr ?_)
      rw [eq_slash_of_awaitsHost h]
      rfl

/-- Without more than slashes an address that breaks off where a host is due has none. -/
theorem host?_of_breaksOff {text more : List Char} {url : Url} (h : breaksOff text = true)
    (hmore : ∀ c ∈ more, c = '/') (hurl : parseWritten? (text ++ more) = some url) :
    url.host? = none := by
  have happendable := appendable_slashes hmore
  have hvisible : Written.visible more = more := Written.visible_eq_self fun c hc => by
    rw [hmore c hc]
    rfl
  unfold breaksOff at h
  unfold parseWritten? at hurl
  rw [Written.visible_append, hvisible, split?_append _ happendable.head] at hurl
  cases hsplit : Scheme.split? (Written.visible text) with
  | none =>
    rw [hsplit] at h
    cases h
  | some parts =>
    obtain ⟨scheme, rest⟩ := parts
    rw [hsplit] at h hurl
    simp only [Option.map_some, Option.bind_eq_bind, Option.bind_some] at h hurl
    cases hform : SchemeSyntax.ofScheme scheme with
    | network number =>
      rw [hform] at h hurl
      have hslashes : ∀ d ∈ rest ++ more, (SchemeSyntax.network number).isSlash d = true := by
        intro d hd
        rcases List.mem_append.mp hd with hd | hd
        · exact List.all_eq_true.mp h d hd
        · rw [hmore d hd]
          rfl
      change parseAuthority? scheme (.network number)
        ((rest ++ more).dropWhile (SchemeSyntax.network number).isSlash) = _ at hurl
      rw [List.dropWhile_eq_nil_iff.mpr hslashes] at hurl
      cases hurl
    | file =>
      rw [hform] at h hurl
      obtain ⟨tail, hcolon, rfl⟩ := exists_colon_of_split? hsplit
      obtain ⟨first, rest, hfirst, hslash, hrest⟩ := exists_slash_of_awaitsHost h
      have hnext := next?_append tail more
      have hnext' := next?_append rest more
      rw [hfirst] at hnext
      rw [hrest] at hnext'
      have htail : ((text ++ more).dropWhile (· != ':')).tail = tail ++ more := by
        rw [List.dropWhile_append, hcolon]
        rfl
      change parseFile? ((text ++ more).dropWhile (· != ':')).tail = _ at hurl
      rw [htail] at hurl
      rcases more with _ | ⟨c, more⟩
      · obtain rfl := Option.some.inj ((parseFile?_of_slash hnext hslash hnext').symm.trans hurl)
        exact (fileWithHost_empty _).2.1
      · obtain rfl := hmore c List.mem_cons_self
        obtain ⟨url', hurl', -, hhost, -⟩ :=
          parseFileHost?_slashes fun d hd => hmore d (List.mem_cons_of_mem _ hd)
        rw [parseFile?_of_host hnext hslash hnext' rfl] at hurl
        rwa [Option.some.inj (hurl.symm.trans hurl')]
    | general =>
      rw [hform] at h hurl
      rw [eq_slash_of_awaitsHost h] at hurl
      have hslashes : ∀ d ∈ ['/'] ++ more, d = '/' := by simpa using hmore
      obtain ⟨url', hurl', -, hhost, -⟩ := parseGeneral?_slashes scheme hslashes
      rwa [Option.some.inj (hurl.symm.trans hurl')]

end KeyProvisioning.Url
