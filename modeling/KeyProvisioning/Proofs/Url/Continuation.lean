import KeyProvisioning.Proofs.Text.Characters
import KeyProvisioning.Url.Parser
import Mathlib.Data.List.TakeDrop

/-!
# Addresses that go on

An address names a host and a port, or none. What goes on with a slash after the text of an
address belongs to the path, whatever the syntax of its scheme, as long as the text does not
break off where a host is due. Only a `file` path can change the place, if it begins with a
drive.
-/

namespace KeyProvisioning

namespace Url

/-- The host that an address names, if any. -/
def host? (url : Url) : Option Host :=
  (url.authority.map Authority.host).filter (· ≠ .empty)

/-- The number of the port that an address names, unless it is its scheme's own. -/
def portNumber? (url : Url) : Option Nat :=
  url.authority.bind Authority.portNumber

/-- Two addresses name the same place. -/
structure SameOrigin (url other : Url) : Prop where
  scheme : url.scheme = other.scheme
  host : url.host? = other.host?
  portNumber : url.portNumber? = other.portNumber?

theorem SameOrigin.symm {url other : Url} (h : url.SameOrigin other) : other.SameOrigin url :=
  ⟨h.scheme.symm, h.host.symm, h.portNumber.symm⟩

/-- Addresses with one authority name the same place. -/
theorem SameOrigin.of_authority {url other : Url} (scheme : url.scheme = other.scheme)
    (authority : url.authority = other.authority) : url.SameOrigin other where
  scheme := scheme
  host := by rw [host?, host?, authority]
  portNumber := by rw [portNumber?, portNumber?, authority]

/-- Text that, after an address, begins with a slash and belongs to the path: it begins no query
and no fragment, and names no drive. -/
structure Appendable (text : List Char) : Prop where
  head : ∀ c ∈ text.head?, c = '/'
  unmarked : ∀ c ∈ text, c ≠ '?' ∧ c ≠ '#'
  driveless : ∀ segment ∈ UrlPath.split .file text.tail,
    Segment.isDrive (Written.visible segment) = false

/-- Slashes are appendable. -/
theorem appendable_slashes {text : List Char} (h : ∀ c ∈ text, c = '/') : Appendable text where
  head := fun c hc => h c (List.mem_of_mem_head? hc)
  unmarked := by
    intro c hc
    rw [h c hc]
    decide
  driveless := by
    have hnil : ∀ text : List Char, (∀ c ∈ text, c = '/') →
        ∀ segment ∈ UrlPath.split .file text, segment = [] := by
      intro text h
      induction text with
      | nil => simp [UrlPath.split]
      | cons c text ih =>
        obtain rfl := h c List.mem_cons_self
        intro segment hmem
        have hcons : UrlPath.split .file ('/' :: text) = [] :: UrlPath.split .file text := rfl
        rw [hcons] at hmem
        rcases List.mem_cons.mp hmem with rfl | hmem
        · rfl
        · exact ih (fun c hc => h c (List.mem_cons_of_mem _ hc)) segment hmem
    intro segment hmem
    rw [hnil text.tail (fun c hc => h c (List.mem_of_mem_tail hc)) segment hmem]
    rfl

section Span

variable {p : Char → Bool} {text more : List Char}

/-- What is read up to a character that ends it does not depend on what is appended after that. -/
theorem span_append (h : ∀ c ∈ more.head?, p c = false) :
    (text ++ more).span p = (text.takeWhile p, text.dropWhile p ++ more) := by
  rw [List.span_eq_takeWhile_dropWhile, takeWhile_append_of_head? _ h,
    dropWhile_append_of_head? _ h]

end Span

/-! ## Authorities -/

/-- An authority that the address goes on after is one at the end of an address too. -/
theorem parse?_of_followed {form : SchemeSyntax} {text : List Char}
    {result : Authority × List Char} (h : Authority.parse? form text true = some result)
    (isFollowed : Bool) :
    Authority.parse? form text isFollowed = some result := by
  unfold Authority.parse? at h ⊢
  generalize Authority.splitUser text = parts at h ⊢
  obtain ⟨user, place⟩ := parts
  dsimp only at h ⊢
  cases hnobody : (decide (user = some []) && place.isEmpty) with
  | true =>
    rw [hnobody] at h
    cases h
  | false =>
    rw [hnobody] at h
    exact h

/-- The authority of an address ends where a path begins. -/
theorem parseAuthority?_append (text : List Char) {scheme more more' : List Char}
    {form : SchemeSyntax} {url : Url} (h : parseAuthority? scheme form (text ++ more) = some url)
    (hmore : more.head? = some '/') (hmore' : ∀ c ∈ more'.head?, c = '/') :
    ∃ url', parseAuthority? scheme form (text ++ more') = some url' ∧ url'.scheme = url.scheme ∧
      url'.authority = url.authority := by
  have hslash : (!form.endsAuthority '/') = false := by
    simp [SchemeSyntax.endsAuthority, SchemeSyntax.isSlash]
  have hspan : (text ++ more).span (!form.endsAuthority ·) = _ := span_append fun c hc => by
    obtain rfl := Option.some.inj (hmore.symm.trans hc)
    exact hslash
  have hspan' : (text ++ more').span (!form.endsAuthority ·) = _ := span_append fun c hc => by
    rw [hmore' c hc]
    exact hslash
  have hfollowed : (text.dropWhile (!form.endsAuthority ·) ++ more).isEmpty = false := by
    cases more with
    | nil => cases hmore
    | cons c more => simp
  unfold parseAuthority? at h ⊢
  rw [hspan] at h
  rw [hspan']
  simp only [hfollowed, Option.bind_eq_bind, Option.bind_eq_some_iff, Bool.not_false,
    Prod.exists, Option.pure_def, Option.some.injEq] at h
  obtain ⟨authority, rest, hauthority, rfl⟩ := h
  simp only [parse?_of_followed hauthority, Option.bind_eq_bind, Option.bind_some, Option.pure_def]
  exact ⟨_, rfl, rfl, rfl⟩

/-! ## Schemes without a syntax of their own -/

/-- One slash begins a path. -/
theorem parseGeneral?_path (scheme text : List Char) {c : Char} (hc : c ≠ '/') :
    parseGeneral? scheme ('/' :: c :: text) =
      some (withTail scheme none .general (UrlPath.ofText .general) (c :: text)) := by
  unfold parseGeneral?
  split
  · rename_i heq
    exact absurd (List.cons.inj (List.cons.inj heq).2).1 hc
  · rename_i heq
    rw [(List.cons.inj heq).2]
  · rename_i hpath
    exact absurd rfl (hpath (c :: text))

/-- Without a slash no host is named. -/
theorem parseGeneral?_text (scheme text : List Char) {c : Char} (hc : c ≠ '/') :
    parseGeneral? scheme (c :: text) =
      some (withTail scheme none .general (.rootless ∘ Percent.encode Percent.isControl)
        (c :: text)) := by
  unfold parseGeneral?
  split
  · rename_i heq
    exact absurd (List.cons.inj heq).1 hc
  · rename_i heq
    exact absurd (List.cons.inj heq).1 hc
  · rfl

/-- After nothing but slashes no host is named. -/
theorem parseGeneral?_slashes (scheme : List Char) {text : List Char} (h : ∀ c ∈ text, c = '/') :
    ∃ url, parseGeneral? scheme text = some url ∧ url.scheme = scheme ∧ url.host? = none ∧
      url.portNumber? = none := by
  match text with
  | [] => exact ⟨_, rfl, rfl, rfl, rfl⟩
  | [c] =>
    obtain rfl := h c (by simp)
    exact ⟨_, rfl, rfl, rfl, rfl⟩
  | c :: d :: text =>
    obtain rfl := h c (by simp)
    obtain rfl := h d (by simp)
    have hspan : text.span (!SchemeSyntax.endsAuthority .general ·) = ([], text) := by
      cases text with
      | nil => rfl
      | cons c text =>
        obtain rfl := h c (by simp)
        rfl
    have hauthority :
        ∀ isFollowed, Authority.parse? .general [] isFollowed = some (.empty, []) := by
      decide
    change ∃ url, parseAuthority? scheme .general text = some url ∧ _
    unfold parseAuthority?
    simp only [hspan, hauthority]
    exact ⟨_, rfl, rfl, rfl, rfl⟩

/-- What is appended to an address of a general scheme belongs to its path, unless the address ends
with the first slash of two. -/
theorem parseGeneral?_append {scheme text more more' : List Char} {url : Url} {c : Char}
    (h : parseGeneral? scheme (text ++ '/' :: c :: more) = some url) (hc : c ≠ '/')
    (htext : text ≠ ['/']) (hmore' : ∀ d ∈ more', d = '/') :
    ∃ url', parseGeneral? scheme (text ++ more') = some url' ∧ url'.SameOrigin url := by
  rcases text with _ | ⟨d, text⟩
  · obtain ⟨url', hurl', hscheme, hhost, hport⟩ := parseGeneral?_slashes scheme hmore'
    obtain rfl := Option.some.inj ((parseGeneral?_path scheme more hc).symm.trans h)
    exact ⟨url', hurl', hscheme, hhost, hport⟩
  · by_cases hd : d = '/'
    · subst hd
      rcases text with _ | ⟨e, text⟩
      · exact absurd rfl htext
      · by_cases he : e = '/'
        · subst he
          obtain ⟨url', hurl', hscheme, hauthority⟩ := parseAuthority?_append text h rfl
            fun c hc => hmore' c (List.mem_of_mem_head? hc)
          exact ⟨url', hurl', .of_authority hscheme hauthority⟩
        · obtain rfl := Option.some.inj ((parseGeneral?_path scheme _ he).symm.trans h)
          exact ⟨_, parseGeneral?_path scheme _ he, .of_authority rfl rfl⟩
    · obtain rfl := Option.some.inj ((parseGeneral?_text scheme _ hd).symm.trans h)
      exact ⟨_, parseGeneral?_text scheme _ hd, .of_authority rfl rfl⟩

/-! ## Files -/

/-- The first character that counts stands in the text itself or in what is appended to it. -/
theorem next?_append (text more : List Char) :
    Written.next? (text ++ more) =
      match Written.next? text with
      | some (c, rest) => some (c, rest ++ more)
      | none => Written.next? more := by
  unfold Written.next?
  rw [List.dropWhile_append]
  cases text.dropWhile Written.isPassedOver with
  | nil => rfl
  | cons c rest => rfl

/-- What counts of a text is the first character that counts and what counts after it. -/
theorem visible_eq (text : List Char) :
    Written.visible text =
      match Written.next? text with
      | some (c, rest) => c :: Written.visible rest
      | none => [] := by
  unfold Written.next?
  induction text with
  | nil => rfl
  | cons c text ih =>
    cases hc : Written.isPassedOver c with
    | true =>
      rw [List.dropWhile_cons_of_pos hc, ← ih]
      simp [Written.visible, hc]
    | false =>
      rw [List.dropWhile_cons_of_neg (by simp [hc])]
      simp [Written.visible, hc]

/-- A file without a host. -/
theorem fileWithHost_empty (text : List Char) :
    (fileWithHost .empty text).scheme = "file".toList ∧ (fileWithHost .empty text).host? = none ∧
      (fileWithHost .empty text).portNumber? = none := by
  refine ⟨rfl, ?_, rfl⟩
  simp [fileWithHost, host?, withTail, Authority.empty]

theorem sameOrigin_fileWithHost_empty (text text' : List Char) :
    (fileWithHost .empty text).SameOrigin (fileWithHost .empty text') :=
  ⟨rfl, (fileWithHost_empty text).2.1.trans (fileWithHost_empty text').2.1.symm, rfl⟩

/-- Whether the path that a text writes begins with a drive. -/
def namesDrive (text : List Char) : Bool :=
  (UrlPath.read .file (splitTail .file text).1).namesDrive

theorem sameOrigin_fileWithHost (host : Host) {text text' : List Char}
    (h : namesDrive text = namesDrive text') :
    (fileWithHost host text).SameOrigin (fileWithHost host text') := by
  refine .of_authority rfl ?_
  simp only [namesDrive] at h
  simp only [fileWithHost, withTail, h]

section Drive

variable {before : UrlPath.Reading}

theorem namesDrive_push (segment : Segment) :
    (before.push segment).namesDrive = before.namesDrive := by
  unfold UrlPath.Reading.push
  repeat' split
  all_goals rfl

/-- Only a drive makes a path begin with one. -/
theorem namesDrive_pushFile {written : Segment}
    (h : Segment.isDrive (Written.visible written) = false) :
    (before.pushFile written).namesDrive = before.namesDrive := by
  unfold UrlPath.Reading.pushFile
  simp only [h]
  split
  · exact namesDrive_push _
  · split
    · rfl
    · exact namesDrive_push _

theorem namesDrive_foldl {segments : List Segment}
    (h : ∀ segment ∈ segments, Segment.isDrive (Written.visible segment) = false) :
    (segments.foldl UrlPath.Reading.pushFile before).namesDrive = before.namesDrive := by
  induction segments generalizing before with
  | nil => rfl
  | cons written rest ih =>
    rw [List.foldl_cons, ih fun segment hmem => h segment (List.mem_cons_of_mem _ hmem)]
    exact namesDrive_pushFile (h written List.mem_cons_self)

/-- The dots at the end of a path do not matter to a drive at its front. -/
theorem namesDrive_pushAll (segments : List Segment) :
    (before.pushAll .file segments).namesDrive =
      (segments.foldl UrlPath.Reading.pushFile before).namesDrive := by
  induction segments generalizing before with
  | nil => rfl
  | cons written rest ih =>
    rw [UrlPath.Reading.pushAll, if_pos rfl]
    split
    · rename_i hlast
      have hrest : rest = [] := by
        simp only [Bool.and_eq_true, List.isEmpty_iff] at hlast
        exact hlast.1
      rw [hrest]
      rfl
    · exact ih

/-- The path goes up to the query or the fragment. -/
theorem namesDrive_eq (text : List Char) :
    namesDrive text =
      ((UrlPath.split .file (text.takeWhile fun c => c != '?' && c != '#')).foldl
        UrlPath.Reading.pushFile .start).namesDrive := by
  have hpath : (splitTail .file text).1 = text.takeWhile fun c => c != '?' && c != '#' := by
    simp only [splitTail, List.span_eq_takeWhile_dropWhile, List.takeWhile_takeWhile,
      Bool.decide_and, Bool.decide_eq_true]
  rw [namesDrive, hpath, UrlPath.read, namesDrive_pushAll]

theorem split_append (text more : List Char) :
    UrlPath.split .file (text ++ '/' :: more) =
      UrlPath.split .file text ++ UrlPath.split .file more := by
  rw [UrlPath.split, List.map_append, List.splitOn]
  exact List.splitOnP_append_cons _ _ rfl

/-- What is appended does not make a path begin with a drive. -/
theorem namesDrive_append (text : List Char) {more : List Char} (h : Appendable more) :
    namesDrive (text ++ more) = namesDrive text := by
  rw [namesDrive_eq, namesDrive_eq, List.takeWhile_append]
  split
  · rename_i hall
    have hmore : more.takeWhile (fun c => c != '?' && c != '#') = more := by
      rw [List.takeWhile_eq_self_iff]
      intro c hc
      simpa using h.unmarked c hc
    have htext := List.takeWhile_prefix (fun c => c != '?' && c != '#') (l := text)
    rw [hmore, htext.eq_of_length hall]
    rcases more with _ | ⟨c, more⟩
    · rw [List.append_nil]
    · obtain rfl := h.head c rfl
      rw [split_append, List.foldl_append]
      exact namesDrive_foldl h.driveless
  · rfl

theorem namesDrive_of_marked {c : Char} (h : c = '?' ∨ c = '#') (text : List Char) :
    namesDrive (c :: text) = false := by
  rw [namesDrive_eq, List.takeWhile_cons_of_neg (by rcases h with rfl | rfl <;> decide)]
  rfl

/-- What is appended after the authority does not make a path begin with a drive. -/
theorem namesDrive_skipFileSlash {text more : List Char}
    (htext : ∀ c ∈ text.head?, SchemeSyntax.endsAuthority .file c = true) (h : Appendable more) :
    namesDrive (skipFileSlash (text ++ more)) = namesDrive (skipFileSlash text) := by
  rcases text with _ | ⟨c, text⟩
  · rcases more with _ | ⟨c, more⟩
    · rfl
    · obtain rfl := h.head c rfl
      have hmore : more.takeWhile (fun c => c != '?' && c != '#') = more := by
        rw [List.takeWhile_eq_self_iff]
        intro c hc
        simpa using h.unmarked c (List.mem_cons_of_mem _ hc)
      change namesDrive more = false
      rw [namesDrive_eq, hmore]
      exact namesDrive_foldl h.driveless
  · have hc := htext c rfl
    cases hslash : SchemeSyntax.isSlash .file c with
    | true =>
      have hskip : ∀ rest, skipFileSlash (c :: rest) = rest := by
        intro rest
        have hnext : Written.next? (c :: rest) = some (c, rest) := by
          have hcases : c = '/' ∨ c = '\\' := by
            simpa [SchemeSyntax.isSlash, SchemeSyntax.isSpecial] using hslash
          rcases hcases with rfl | rfl <;> rfl
        simp [skipFileSlash, hnext, hslash]
      rw [List.cons_append, hskip, hskip]
      exact namesDrive_append text h
    | false =>
      have hmark : c = '?' ∨ c = '#' := by
        simpa [SchemeSyntax.endsAuthority, hslash] using hc
      have hskip : ∀ rest, skipFileSlash (c :: rest) = c :: rest := by
        intro rest
        have hnext : Written.next? (c :: rest) = some (c, rest) := by
          rcases hmark with rfl | rfl <;> rfl
        simp [skipFileSlash, hnext, hslash]
      rw [List.cons_append, hskip, hskip, namesDrive_of_marked hmark, namesDrive_of_marked hmark]

end Drive

/-- What is appended to a file address that names a host belongs to its path. -/
theorem parseFileHost?_append {text more more' : List Char} {url : Url}
    (h : parseFileHost? (text ++ more) = some url) (hmore : Appendable more)
    (hmore' : Appendable more') :
    ∃ url', parseFileHost? (text ++ more') = some url' ∧ url'.SameOrigin url := by
  have hslash : (!SchemeSyntax.endsAuthority .file '/') = false := rfl
  have hspan {more : List Char} (hmore : Appendable more) :
      (text ++ more).span (!SchemeSyntax.endsAuthority .file ·) = _ :=
    span_append fun c hc => by rw [hmore.head c hc, hslash]
  unfold parseFileHost? at h ⊢
  rw [hspan hmore] at h
  rw [hspan hmore']
  simp only [] at h ⊢
  split at h
  · rename_i hdrive
    rw [if_pos hdrive]
    obtain rfl := Option.some.inj h
    exact ⟨_, rfl, sameOrigin_fileWithHost_empty _ _⟩
  · rename_i hdrive
    rw [if_neg hdrive]
    obtain ⟨host, hhost, hurl⟩ := Option.bind_eq_some_iff.mp h
    obtain rfl := Option.some.inj hurl
    refine ⟨_, Option.bind_eq_some_iff.mpr ⟨host, hhost, rfl⟩, ?_⟩
    by_cases hempty : host = .empty
    · rw [if_pos hempty, if_pos hempty, hempty]
      exact sameOrigin_fileWithHost_empty _ _
    · rw [if_neg hempty, if_neg hempty]
      refine sameOrigin_fileWithHost host ?_
      have hends : ∀ c ∈ (text.dropWhile (!SchemeSyntax.endsAuthority .file ·)).head?,
          SchemeSyntax.endsAuthority .file c = true := by
        intro c hc
        have hstop := List.head?_dropWhile_not (!SchemeSyntax.endsAuthority .file ·) text
        rw [Option.mem_def.mp hc] at hstop
        simpa using hstop
      rw [namesDrive_skipFileSlash hends hmore, namesDrive_skipFileSlash hends hmore']

/-- After nothing but slashes a file has no host. -/
theorem parseFileHost?_slashes {text : List Char} (h : ∀ c ∈ text, c = '/') :
    ∃ url, parseFileHost? text = some url ∧ url.scheme = "file".toList ∧ url.host? = none ∧
      url.portNumber? = none := by
  have hspan : text.span (!SchemeSyntax.endsAuthority .file ·) = ([], text) := by
    cases text with
    | nil => rfl
    | cons c text =>
      obtain rfl := h c List.mem_cons_self
      rfl
  unfold parseFileHost?
  rw [hspan]
  exact ⟨_, rfl, fileWithHost_empty _⟩

/-- Whether the text after a scheme breaks off where a host is due, so that what is appended to
it is read as the host. -/
def awaitsHost (form : SchemeSyntax) (rest : List Char) : Bool :=
  match form with
  | .network _ => rest.all form.isSlash
  | _ => rest.length = 1 && rest.all form.isSlash

section Slashes

variable {text rest tail : List Char} {first second : Char}

theorem parseFile?_of_none (h : Written.next? text = none) :
    parseFile? text = some (fileWithHost .empty text) := by
  simp only [parseFile?, h]

theorem parseFile?_of_text (h : Written.next? text = some (first, rest))
    (hfirst : SchemeSyntax.isSlash .file first = false) :
    parseFile? text = some (fileWithHost .empty text) := by
  simp only [parseFile?, h, hfirst, Bool.not_false, if_true]

theorem parseFile?_of_slash (h : Written.next? text = some (first, rest))
    (hfirst : SchemeSyntax.isSlash .file first = true) (hrest : Written.next? rest = none) :
    parseFile? text = some (fileWithHost .empty rest) := by
  simp [parseFile?, h, hfirst, hrest]

theorem parseFile?_of_path (h : Written.next? text = some (first, rest))
    (hfirst : SchemeSyntax.isSlash .file first = true)
    (hrest : Written.next? rest = some (second, tail))
    (hsecond : SchemeSyntax.isSlash .file second = false) :
    parseFile? text = some (fileWithHost .empty rest) := by
  simp [parseFile?, h, hfirst, hrest, hsecond]

theorem parseFile?_of_host (h : Written.next? text = some (first, rest))
    (hfirst : SchemeSyntax.isSlash .file first = true)
    (hrest : Written.next? rest = some (second, tail))
    (hsecond : SchemeSyntax.isSlash .file second = true) :
    parseFile? text = parseFileHost? tail := by
  simp [parseFile?, h, hfirst, hrest, hsecond]

end Slashes

/-- A file address whose place would be written by slashes alone has no host. -/
theorem parseFile?_slashes {text more : List Char} (htext : Written.next? text = none)
    (hmore : ∀ d ∈ more, d = '/') :
    ∃ url, parseFile? (text ++ more) = some url ∧ url.scheme = "file".toList ∧ url.host? = none ∧
      url.portNumber? = none := by
  have hnext := next?_append text more
  rw [htext] at hnext
  match more with
  | [] => exact ⟨_, parseFile?_of_none hnext, fileWithHost_empty _⟩
  | [d] =>
    obtain rfl := hmore d (by simp)
    exact ⟨_, parseFile?_of_slash hnext rfl rfl, fileWithHost_empty _⟩
  | d :: e :: more =>
    obtain rfl := hmore d (by simp)
    obtain rfl := hmore e (by simp)
    have hrest : ∀ d ∈ more, d = '/' := fun d hd =>
      hmore d (List.mem_cons_of_mem _ (List.mem_cons_of_mem _ hd))
    obtain ⟨url, hurl, hplace⟩ := parseFileHost?_slashes hrest
    exact ⟨url, (parseFile?_of_host hnext rfl rfl rfl).trans hurl, hplace⟩

/-- What is appended to a file address belongs to its path, unless the address ends with the first
slash of two. -/
theorem parseFile?_append {text more more' : List Char} {url : Url} {c : Char}
    (h : parseFile? (text ++ '/' :: c :: more) = some url)
    (hmore : Appendable ('/' :: c :: more)) (hc : SchemeSyntax.isSlash .file c = false)
    (hcounts : Written.isPassedOver c = false)
    (htext : awaitsHost .file (Written.visible text) = false) (hmore' : ∀ d ∈ more', d = '/') :
    ∃ url', parseFile? (text ++ more') = some url' ∧ url'.SameOrigin url := by
  have hnext := next?_append text ('/' :: c :: more)
  have hnext' := next?_append text more'
  cases hfirst : Written.next? text with
  | none =>
    rw [hfirst] at hnext
    have hsecond : Written.next? (c :: more) = some (c, more) := by
      simp [Written.next?, hcounts]
    obtain rfl := Option.some.inj ((parseFile?_of_path hnext rfl hsecond hc).symm.trans h)
    obtain ⟨url', hurl', hscheme, hhost, hport⟩ := parseFile?_slashes hfirst hmore'
    exact ⟨url', hurl', hscheme, hhost.trans (fileWithHost_empty _).2.1.symm, hport⟩
  | some found =>
    obtain ⟨first, rest⟩ := found
    rw [hfirst] at hnext hnext'
    cases hslash : SchemeSyntax.isSlash .file first with
    | false =>
      obtain rfl := Option.some.inj ((parseFile?_of_text hnext hslash).symm.trans h)
      exact ⟨_, parseFile?_of_text hnext' hslash, sameOrigin_fileWithHost_empty _ _⟩
    | true =>
      have hrest := next?_append rest ('/' :: c :: more)
      have hrest' := next?_append rest more'
      cases hsecond : Written.next? rest with
      | none =>
        have hvisible : Written.visible text = [first] := by
          have hrest : Written.visible rest = [] := by rw [visible_eq, hsecond]
          rw [visible_eq, hfirst]
          exact congrArg (first :: ·) hrest
        simp [hvisible, awaitsHost, hslash] at htext
      | some found =>
        obtain ⟨second, tail⟩ := found
        rw [hsecond] at hrest hrest'
        cases hslash' : SchemeSyntax.isSlash .file second with
        | false =>
          obtain rfl :=
            Option.some.inj ((parseFile?_of_path hnext hslash hrest hslash').symm.trans h)
          exact ⟨_, parseFile?_of_path hnext' hslash hrest' hslash',
            sameOrigin_fileWithHost_empty _ _⟩
        | true =>
          rw [parseFile?_of_host hnext hslash hrest hslash'] at h
          rw [parseFile?_of_host hnext' hslash hrest' hslash']
          exact parseFileHost?_append h hmore (appendable_slashes hmore')

end Url

end KeyProvisioning
