import KeyProvisioning.Proofs.Server.Challenge
import KeyProvisioning.Proofs.Url.Place

/-!
# Where requests go

Requests go to the place that the base address names, and slashes at its end do not matter. Only
a base that breaks off where a host is due is completed by the path of the endpoint: its first
segment is then the host.
-/

namespace KeyProvisioning

/-! ## Blanks around an address -/

namespace Written

/-- The text without the blanks and control characters before it. -/
def trimFront (text : List Char) : List Char :=
  text.dropWhile (· ≤ ' ')

/-- Text that does not end with a blank is only trimmed at its front. -/
theorem trim_eq_trimFront {text : List Char} (h : ∀ c ∈ text.getLast?, ¬ c ≤ ' ') :
    trim text = trimFront text := by
  have htext := List.takeWhile_append_dropWhile (p := fun c => decide (c ≤ ' ')) (l := text)
  change ((trimFront text).reverse.dropWhile fun c => decide (c ≤ ' ')).reverse = trimFront text
  change text.takeWhile _ ++ trimFront text = text at htext
  rcases List.eq_nil_or_concat (trimFront text) with hnil | ⟨front, last, hfront⟩
  · rw [hnil]
    rfl
  · have hlast : ¬ last ≤ ' ' := by
      refine h last ?_
      rw [← htext, hfront, List.concat_eq_append, ← List.append_assoc, List.getLast?_concat]
      rfl
    rw [hfront, List.concat_eq_append, List.reverse_append, List.reverse_singleton,
      List.singleton_append, List.dropWhile_cons_of_neg (by simpa using hlast)]
    simp

/-- What is appended to text, and begins with no blank, stays as it is when the text is trimmed. -/
theorem trimFront_append (text : List Char) {more : List Char} (h : ∀ c ∈ more.head?, c = '/') :
    trimFront (text ++ more) = trimFront text ++ more := by
  rw [trimFront, List.dropWhile_append]
  split
  · rename_i hblank
    rw [trimFront, List.isEmpty_iff.mp hblank, List.nil_append]
    rcases more with _ | ⟨c, more⟩
    · rfl
    · obtain rfl := h c rfl
      rfl
  · rfl

end Written

namespace Server

/-! ## Bases -/

/-- A base is its text without the slashes at its end, and slashes. -/
theorem exists_slashes (base : List Char) :
    ∃ slashes, base = trimSlashes base ++ slashes ∧ ∀ c ∈ slashes, c = '/' := by
  refine ⟨(base.reverse.takeWhile (· == '/')).reverse, ?_, ?_⟩
  · rw [trimSlashes, ← List.reverse_append, List.takeWhile_append_dropWhile, List.reverse_reverse]
  · intro c hc
    simpa using List.mem_takeWhile_imp (p := (· == '/')) (List.mem_reverse.mp hc)

/-- A text writes a base with any number of slashes at its end, but with no blank there. -/
structure Writes (text : String) (base : String) : Prop where
  trimSlashes_eq : trimSlashes text.toList = trimSlashes base.toList
  unblank : ∀ c ∈ text.toList.getLast?, ¬ c ≤ ' '

/-- Whether a base breaks off where a host is due. -/
def breaksOff (base : String) : Bool :=
  Url.breaksOff (Written.trimFront (trimSlashes base.toList))

/-- The text of a path by checks on its characters. -/
theorem pathText_of_all {path : List Char} (head : path.head? = some '/')
    (unmarked : path.all (fun c => c != '?' && c != '#') = true)
    (driveless : ∀ segment ∈ UrlPath.split .file path.tail,
      Segment.isDrive (Written.visible segment) = false)
    (begins : ∃ c rest, path = '/' :: c :: rest ∧ SchemeSyntax.isSlash .file c = false)
    (counts : path.all (fun c => !Written.isPassedOver c) = true) : Url.PathText path where
  head := by
    rw [head]
    rintro _ ⟨⟩
    rfl
  unmarked := fun c hc => by simpa using List.all_eq_true.mp unmarked c hc
  driveless := driveless
  begins := begins
  counts := fun c hc => by simpa using List.all_eq_true.mp counts c hc

theorem pathText_keyPath : Url.PathText keyPath :=
  pathText_of_all (by decide) (by decide) (by decide) ⟨_, _, rfl, by decide⟩ (by decide)

theorem pathText_signingPath : Url.PathText signingPath :=
  pathText_of_all (by decide) (by decide) (by decide) ⟨_, _, rfl, by decide⟩ (by decide)

/-- A text that ends in a certain character ends in no blank if that is none. -/
theorem unblank_of_getLast? {text : List Char} {c : Char} (hlast : text.getLast? = some c)
    (hc : ¬ c ≤ ' ') : ∀ c ∈ text.getLast?, ¬ c ≤ ' ' := by
  rw [hlast]
  rintro _ ⟨⟩
  exact hc

theorem unblank_keyPath : ∀ c ∈ keyPath.getLast?, ¬ c ≤ ' ' :=
  unblank_of_getLast? (show keyPath.getLast? = some 'n' by decide) (by decide)

theorem unblank_signingPath : ∀ c ∈ signingPath.getLast?, ¬ c ≤ ' ' :=
  unblank_of_getLast? (show signingPath.getLast? = some 's' by decide) (by decide)

/-- The address that a written base writes is read from its text without the slashes at its end. -/
theorem Writes.exists_slashes {text base : String} (h : Writes text base) :
    ∃ slashes, (∀ c ∈ slashes, c = '/') ∧ Url.parse? text.toList =
      Url.parseWritten? (Written.trimFront (trimSlashes base.toList) ++ slashes) := by
  obtain ⟨slashes, htext, hslashes⟩ := Server.exists_slashes text.toList
  refine ⟨slashes, hslashes, ?_⟩
  have happendable := Url.appendable_slashes hslashes
  rw [Url.parse?_eq, Written.trim_eq_trimFront h.unblank, htext,
    Written.trimFront_append _ happendable.head, h.trimSlashes_eq]

/-- An endpoint is read from the base without the slashes at its end. -/
theorem endpoint_eq (base : String) {path : List Char} (hpath : Url.PathText path)
    (unblank : ∀ c ∈ path.getLast?, ¬ c ≤ ' ') :
    endpoint base path =
      match Url.parseWritten? (Written.trimFront (trimSlashes base.toList) ++ path) with
      | some url => .ok url
      | none => .error .invalidUrl := by
  have hlast : ∀ c ∈ (trimSlashes base.toList ++ path).getLast?, ¬ c ≤ ' ' := by
    obtain ⟨c, rest, rfl, -⟩ := hpath.begins
    rwa [List.getLast?_append, Option.or_of_isSome (by simp)]
  have hparse : Url.parse? (trimSlashes base.toList ++ path) =
      Url.parseWritten? (Written.trimFront (trimSlashes base.toList) ++ path) := by
    rw [Url.parse?_eq, Written.trim_eq_trimFront hlast, Written.trimFront_append _ hpath.head]
  cases hurl : Url.parseWritten? (Written.trimFront (trimSlashes base.toList) ++ path) with
  | none => simp only [endpoint, hparse, hurl]
  | some url => simp only [endpoint, hparse, hurl]

/-- Slashes at the end of a base do not matter. -/
theorem endpoint_congr {text base : String}
    (h : trimSlashes text.toList = trimSlashes base.toList) (path : List Char) :
    endpoint text path = endpoint base path := by
  rw [endpoint, endpoint, h]

/-- A request to an endpoint goes to the place that the base names. -/
theorem exists_sameOrigin_of_endpoint {text base : String} {path : List Char} {url : Url}
    (h : endpoint base path = .ok url) (hpath : Url.PathText path)
    (unblank : ∀ c ∈ path.getLast?, ¬ c ≤ ' ') (hbase : breaksOff base = false)
    (htext : Writes text base) :
    ∃ place, Url.parse? text.toList = some place ∧ url.SameOrigin place := by
  obtain ⟨slashes, hslashes, hparse⟩ := htext.exists_slashes
  rw [endpoint_eq base hpath unblank] at h
  cases hurl : Url.parseWritten? (Written.trimFront (trimSlashes base.toList) ++ path) with
  | none =>
    rw [hurl] at h
    cases h
  | some found =>
    rw [hurl] at h
    obtain rfl := Except.ok.inj h
    obtain ⟨place, hplace, hsame⟩ := Url.parseWritten?_append hurl hpath hbase hslashes
    exact ⟨place, hparse.trans hplace, hsame.symm⟩

/-- The path of the key endpoint begins with a host, that of the signing endpoint does not. -/
theorem endpoint_of_breaksOff {base : String} (h : breaksOff base = true) :
    (∃ url, keyUrl base = .ok url ∧ url.host? = some (.name "v1".toList)) ∧
      endpoint base signingPath = .error .invalidUrl := by
  constructor
  · have hparse : ∃ url, Url.parseWritten? (Written.trimFront (trimSlashes base.toList) ++
        keyPath) = some url ∧ url.host? = some (.name "v1".toList) := by
      obtain ⟨scheme, ⟨number, hnetwork⟩ | hfile | hgeneral⟩ :=
        Url.parseWritten?_of_breaksOff h pathText_keyPath
      · exact ⟨_, hnetwork, rfl⟩
      · exact ⟨_, hfile, rfl⟩
      · exact ⟨_, hgeneral, rfl⟩
    obtain ⟨url, hurl, hhost⟩ := hparse
    refine ⟨url, ?_, hhost⟩
    rw [keyUrl, endpoint_eq base pathText_keyPath unblank_keyPath, hurl]
  · have hparse : Url.parseWritten? (Written.trimFront (trimSlashes base.toList) ++ signingPath) =
        none := by
      obtain ⟨scheme, ⟨number, hnetwork⟩ | hfile | hgeneral⟩ :=
        Url.parseWritten?_of_breaksOff h pathText_signingPath
      · exact hnetwork
      · exact hfile
      · exact hgeneral
    rw [endpoint_eq base pathText_signingPath unblank_signingPath, hparse]

/-- Where requests go. Slashes at the end of a base do not matter. If the base does not break off
where a host is due, every address of a request names the scheme, the host and the port that the
base itself names. If it does, it names no host itself; keys are then asked of the first segment
of the path, and nothing is signed. -/
theorem requests_go_to_base (base : String) :
    (∀ text : String, trimSlashes text.toList = trimSlashes base.toList →
      keyUrl text = keyUrl base ∧
        ∀ challenge, signingUrl text challenge = signingUrl base challenge) ∧
    (breaksOff base = false → ∀ url,
      (keyUrl base = .ok url ∨ ∃ challenge, signingUrl base challenge = .ok url) →
        ∀ text, Writes text base →
          ∃ place, Url.parse? text.toList = some place ∧ url.SameOrigin place) ∧
    (breaksOff base = true →
      (∃ url, keyUrl base = .ok url ∧ url.host? = some (.name "v1".toList)) ∧
      (∀ challenge, signingUrl base challenge = .error .invalidUrl) ∧
      ∀ text place, Writes text base → Url.parse? text.toList = some place →
        place.host? = none) := by
  refine ⟨?_, ?_, ?_⟩
  · intro text htext
    refine ⟨endpoint_congr htext keyPath, fun challenge => ?_⟩
    rw [signingUrl_eq, signingUrl_eq, endpoint_congr htext]
  · rintro hbase url (hkey | ⟨challenge, hsigning⟩) text htext
    · exact exists_sameOrigin_of_endpoint hkey pathText_keyPath unblank_keyPath hbase htext
    · rw [signingUrl_eq] at hsigning
      cases hplace : endpoint base signingPath with
      | error fault =>
        rw [hplace] at hsigning
        cases hsigning
      | ok place =>
        rw [hplace] at hsigning
        obtain rfl := Except.ok.inj hsigning
        obtain ⟨other, hother, hsame⟩ :=
          exists_sameOrigin_of_endpoint hplace pathText_signingPath unblank_signingPath hbase htext
        exact ⟨other, hother, ⟨hsame.scheme, hsame.host, hsame.portNumber⟩⟩
  · intro hbase
    obtain ⟨hkey, hsigning⟩ := endpoint_of_breaksOff hbase
    refine ⟨hkey, fun challenge => by rw [signingUrl_eq, hsigning]; rfl, ?_⟩
    intro text place htext hplace
    obtain ⟨slashes, hslashes, hparse⟩ := htext.exists_slashes
    exact Url.host?_of_breaksOff hbase hslashes (hparse.symm.trans hplace)

/-- Requests for a base with a port and two slashes at its end go there, without the slashes too.
A base that ends with slashes after its scheme is completed by the path. -/
theorem requests_go_to_base_slashes :
    (∃ url place, keyUrl "https://h:8//" = .ok url ∧
      Url.parse? "https://h:8".toList = some place ∧ url.SameOrigin place) ∧
    ∃ url, keyUrl "https://" = .ok url ∧ url.host? = some (.name "v1".toList) := by
  obtain ⟨-, hgo, -⟩ := requests_go_to_base "https://h:8//"
  obtain ⟨-, -, hbroken⟩ := requests_go_to_base "https://"
  obtain ⟨hcompleted, -⟩ := hbroken (by decide +kernel)
  refine ⟨?_, hcompleted⟩
  cases hkey : keyUrl "https://h:8//" with
  | error fault =>
    have hok : (keyUrl "https://h:8//").isOk = true := by decide +kernel
    rw [hkey] at hok
    cases hok
  | ok url =>
    have hlast : "https://h:8".toList.getLast? = some '8' := by decide
    have hwrites : Writes "https://h:8" "https://h:8//" :=
      ⟨by decide, unblank_of_getLast? hlast (by decide)⟩
    obtain ⟨place, hplace, hsame⟩ := hgo (by decide +kernel) url (.inl hkey) _ hwrites
    exact ⟨url, place, rfl, hplace, hsame⟩

/-- A base without a host is no address, and nothing is signed at it, but keys are asked of the
host that the path begins with. A control character at the end is part of the host only in a
request. -/
theorem key_request_leaves_base :
    (Url.parse? "https://".toList = none ∧ signingUrl "https://" [] = .error .invalidUrl ∧
      ∃ url, keyUrl "https://" = .ok url ∧ url.render = "https://v1/eekchain".toList) ∧
    ∃ place url, Url.parse? "foo://h\x01".toList = some place ∧ keyUrl "foo://h\x01" = .ok url ∧
      place.host? = some (.name ['h']) ∧ url.host? = some (.name "h%01".toList) := by
  have hsigning : endpoint "https://" signingPath = .error .invalidUrl :=
    (endpoint_of_breaksOff (by decide +kernel)).2
  refine ⟨⟨by decide +kernel, ?_, ⟨_, rfl, by decide +kernel⟩⟩, _, _, rfl, rfl, ?_, ?_⟩
  · rw [signingUrl_eq, hsigning]
    rfl
  · decide +kernel
  · decide +kernel

end Server

end KeyProvisioning
