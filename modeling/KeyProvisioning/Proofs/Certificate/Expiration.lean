import KeyProvisioning.Proofs.Certificate.Leaf
import KeyProvisioning.Proofs.Certificate.WrittenTimes

/-!
# Expirations

The expiration of a chain is the instant that the end of the leaf's validity tells, in
milliseconds by a clock that ticks from the start of 1970 on. Years have four digits, so it is
never out of range. Where the zone of that time loses its sign, the expiration is too early by
twice what the zone is behind. Other expirations come in the order of the instants.
-/

namespace KeyProvisioning.CertificateChain

open Calendar Der Certificate

/-! ## The place of the time -/

/-- The first so many elements of the octets. -/
def elements : Nat → Bytes → Option (List Element)
  | 0, _ => some []
  | n + 1, bs => (readElement bs).bind fun p => (elements n p.2).map (p.1 :: ·)

/-- The octets begin with these elements, one after another. -/
def BeginWith (bs : Bytes) (front : List Element) : Prop :=
  elements front.length bs = some front

instance (bs : Bytes) (front : List Element) : Decidable (BeginWith bs front) :=
  inferInstanceAs (Decidable (_ = _))

theorem beginWith_nil (bs : Bytes) : BeginWith bs [] := rfl

theorem beginWith_cons_iff {bs : Bytes} {element : Element} {front : List Element} :
    BeginWith bs (element :: front) ↔ ∃ rest, readElement bs = some (element, rest) ∧
      BeginWith rest front := by
  simp only [BeginWith, List.length_cons, elements, Option.bind_eq_some_iff,
    Option.map_eq_some_iff, Prod.exists]
  constructor
  · rintro ⟨_, rest, hread, _, hrest, ⟨⟩⟩
    exact ⟨rest, hread, hrest⟩
  · rintro ⟨rest, hread, hrest⟩
    exact ⟨element, rest, hread, front, hrest, rfl⟩

/-- The octets begin with a certificate and the element is where its validity ends: the second of
the two times that stand, in the signed part, behind a version that may be left out, a serial
number, an algorithm and a name. -/
inductive EndsValidity (bs : Bytes) (notAfter : Element) : Prop
  | intro {certificate signed serial algorithm issuer validity notBefore : Element}
      (version : Option Element)
      (outer : BeginWith bs [certificate])
      (inner : BeginWith certificate.content [signed])
      (isVersion : ∀ element ∈ version, element.tag.number = 0)
      (isSerial : serial.tag.number = integerTag)
      (fields : BeginWith signed.content (version.toList ++ [serial, algorithm, issuer, validity]))
      (times : BeginWith validity.content [notBefore, notAfter])

theorem BeginWith.unique {bs : Bytes} {front front' : List Element} (h : BeginWith bs front)
    (h' : BeginWith bs front') (hlength : front.length = front'.length) : front = front' := by
  rw [BeginWith, hlength, h'] at h
  exact (Option.some.inj h).symm

/-- Two fronts of the same octets begin with the same element. -/
theorem BeginWith.head_eq {bs : Bytes} {element element' : Element} {front front' : List Element}
    (h : BeginWith bs (element :: front)) (h' : BeginWith bs (element' :: front')) :
    element = element' := by
  obtain ⟨_, hread, -⟩ := beginWith_cons_iff.mp h
  obtain ⟨_, hread', -⟩ := beginWith_cons_iff.mp h'
  rw [hread, Option.some.injEq, Prod.mk.injEq] at hread'
  exact hread'.1

/-- A version is told from a serial number, so there is one place only where validity ends. -/
theorem EndsValidity.unique {bs : Bytes} {notAfter notAfter' : Element}
    (h : EndsValidity bs notAfter) (h' : EndsValidity bs notAfter') : notAfter = notAfter' := by
  have hnumbers : integerTag ≠ 0 := by decide
  obtain ⟨version, outer, inner, isVersion, isSerial, fields, times⟩ := h
  obtain ⟨version', outer', inner', isVersion', isSerial', fields', times'⟩ := h'
  obtain rfl := outer.head_eq outer'
  obtain rfl := inner.head_eq inner'
  rename_i validity _ _ _ _ validity' _
  have hvalidity : validity = validity' := by
    cases version with
    | none =>
      cases version' with
      | none =>
        have hfields := fields.unique fields' rfl
        simp only [Option.toList_none, List.nil_append, List.cons.injEq] at hfields
        exact hfields.2.2.2.1
      | some element' =>
        obtain rfl := fields.head_eq fields'
        exact absurd (isSerial.symm.trans (isVersion' _ rfl)) hnumbers
    | some element =>
      cases version' with
      | none =>
        obtain rfl := fields.head_eq fields'
        exact absurd (isSerial'.symm.trans (isVersion _ rfl)) hnumbers
      | some element' =>
        have hfields := fields.unique fields' rfl
        simp only [Option.toList_some, List.cons_append, List.nil_append, List.cons.injEq]
          at hfields
        exact hfields.2.2.2.2.1
  subst hvalidity
  have htimes := times.unique times' rfl
  simp only [List.cons.injEq] at htimes
  exact htimes.2.1

/-! ## The fields that are read -/

/-- The end of validity is what the second of two times stands for. -/
theorem of_readValidity {bs rest : Bytes} {seconds : Int}
    (h : readValidity bs = some (seconds, rest)) :
    ∃ validity notBefore notAfter, readElement bs = some (validity, rest) ∧
      BeginWith validity.content [notBefore, notAfter] ∧ seconds? notAfter = some seconds := by
  obtain ⟨validity, hread, -, left, htimes⟩ := readSequence_eq_some_iff.mp h
  simp only [Option.bind_eq_bind, Option.bind_eq_some_iff, Prod.exists] at htimes
  obtain ⟨_, middle, hfirst, hsecond⟩ := htimes
  obtain ⟨notBefore, hnotBefore, -⟩ := readTime_eq_some_iff.mp hfirst
  obtain ⟨notAfter, hnotAfter, hseconds⟩ := readTime_eq_some_iff.mp hsecond
  refine ⟨validity, notBefore, notAfter, hread, ?_, hseconds⟩
  exact beginWith_cons_iff.mpr ⟨middle, hnotBefore,
    beginWith_cons_iff.mpr ⟨left, hnotAfter, beginWith_nil left⟩⟩

/-- What comes before the serial number is a version or nothing. -/
theorem of_readVersion {bs rest : Bytes} (h : readVersion bs = some ((), rest)) :
    ∃ version : Option Element, (∀ element ∈ version, element.tag.number = 0) ∧
      ∀ front, BeginWith rest front → BeginWith bs (version.toList ++ front) := by
  unfold readVersion at h
  split at h
  · cases h
  · rename_i hoptional
    cases h
    rcases of_readOptional hoptional with ⟨-, rfl⟩ | ⟨_, hcontent, -⟩
    · exact ⟨none, by simp, fun _ hfront => hfront⟩
    · cases hcontent
  · rename_i hoptional
    rcases of_readOptional hoptional with ⟨hcontent, -⟩ | ⟨version, -, hread, hnumber⟩
    · cases hcontent
    · split at h
      · cases h
      · obtain ⟨_, -, heq⟩ := Option.map_eq_some_iff.mp h
        cases heq
        exact ⟨some version, by simpa using hnumber,
          fun _ hfront => beginWith_cons_iff.mpr ⟨_, hread, hfront⟩⟩

/-- A certificate that is read has an element where its validity ends, and keeps what it stands
for. -/
theorem exists_endsValidity_of_read {bs rest : Bytes} {certificate : Certificate}
    (h : Certificate.read bs = some (certificate, rest)) :
    ∃ notAfter, EndsValidity bs notAfter ∧ seconds? notAfter = some certificate.notAfter := by
  obtain ⟨outer, houter, -, _, hcontent⟩ := readSequence_eq_some_iff.mp h
  simp only [Option.bind_eq_bind, Option.bind_eq_some_iff, Prod.exists] at hcontent
  obtain ⟨_, _, hinner, _, _, -, _, _, -, ⟨⟩⟩ := hcontent
  obtain ⟨signed, hsigned, -, _, hfields⟩ := readSequence_eq_some_iff.mp hinner
  simp only [Option.bind_eq_bind, Option.bind_eq_some_iff, Prod.exists] at hfields
  obtain ⟨_, _, hversion, _, _, hserial, _, _, halgorithm, _, _, hissuer, seconds, _, hvalidity,
    _, _, -, _, _, _, -, _, _, -, _, _, -, hend⟩ := hfields
  obtain ⟨-, heq⟩ := Option.ite_none_right_eq_some.mp hend
  cases heq
  obtain ⟨version, isVersion, hafter⟩ := of_readVersion hversion
  obtain ⟨serial, hserial, isSerial, -⟩ := readNumbered_eq_some_iff.mp hserial
  obtain ⟨algorithm, halgorithm, -⟩ := readSequence_eq_some_iff.mp halgorithm
  obtain ⟨issuer, hissuer, -⟩ := readNumbered_eq_some_iff.mp hissuer
  obtain ⟨validity, notBefore, notAfter, hvalidity, times, hseconds⟩ := of_readValidity hvalidity
  have fields :
      BeginWith signed.content (version.toList ++ [serial, algorithm, issuer, validity]) :=
    hafter _ (beginWith_cons_iff.mpr ⟨_, hserial, beginWith_cons_iff.mpr ⟨_, halgorithm,
      beginWith_cons_iff.mpr ⟨_, hissuer,
        beginWith_cons_iff.mpr ⟨_, hvalidity, beginWith_nil _⟩⟩⟩⟩)
  exact ⟨notAfter, ⟨version, beginWith_cons_iff.mpr ⟨_, houter, beginWith_nil _⟩,
    beginWith_cons_iff.mpr ⟨_, hsigned, beginWith_nil _⟩, isVersion, isSerial, fields, times⟩,
    hseconds⟩

/-! ## The expiration of the leaf -/

/-- The octets begin with a certificate, and the time is written where its validity ends. -/
def LeafExpires (bs : Bytes) (time : WrittenTime) : Prop :=
  ∃ notAfter, EndsValidity bs notAfter ∧ time.IsWrittenIn notAfter

section Leaf

variable {bs : Bytes} {chain : CertificateChain} {time : WrittenTime} {utc : Moment}

theorem read_of_parse (h : parse bs = .ok chain) :
    ∃ behind, Certificate.read bs = some (chain.leaf, behind) := by
  obtain ⟨own, behind, rfl, hown⟩ := exists_front_of_parse h
  exact ⟨behind, prompt_read.append hown behind⟩

theorem exists_leafExpires (h : parse bs = .ok chain) : ∃ time, LeafExpires bs time := by
  obtain ⟨behind, hread⟩ := read_of_parse h
  obtain ⟨notAfter, hends, hseconds⟩ := exists_endsValidity_of_read hread
  obtain ⟨time, hwritten, -⟩ := seconds?_eq_some_iff.mp hseconds
  exact ⟨time, notAfter, hends, hwritten⟩

/-- Whatever time can be found at the end of the leaf's validity, the leaf keeps the seconds it
is taken for. -/
theorem LeafExpires.notAfter_eq (htime : LeafExpires bs time) (h : parse bs = .ok chain) :
    chain.leaf.notAfter = time.secondsTaken := by
  obtain ⟨behind, hread⟩ := read_of_parse h
  obtain ⟨notAfter, hends, hseconds⟩ := exists_endsValidity_of_read hread
  obtain ⟨notAfter', hends', hwritten⟩ := htime
  obtain rfl := hends.unique hends'
  have htaken := seconds?_eq_some_iff.mpr ⟨time, hwritten, rfl⟩
  exact Option.some.inj (hseconds.symm.trans htaken)

/-- The multiplication by a thousand stays in range. -/
theorem LeafExpires.leafExpirationMillis_eq (htime : LeafExpires bs time)
    (h : parse bs = .ok chain) :
    chain.leafExpirationMillis = .ok (1000 * time.secondsTaken) := by
  have hmillis : chain.leaf.expirationMillis = 1000 * time.secondsTaken := by
    rw [expirationMillis, htime.notAfter_eq h, Int.mul_comm]
  obtain ⟨_, -, hwritten⟩ := htime
  obtain ⟨hlower, hupper⟩ := hwritten.secondsTaken_bounds
  simp only [leafExpirationMillis, hmillis, maxMillis]
  rw [if_pos]
  omega

theorem LeafExpires.leafExpirationMillis_of_isAt (htime : LeafExpires bs time)
    (h : parse bs = .ok chain) (hutc : time.IsAt utc) :
    chain.leafExpirationMillis = .ok (1000 *
      if time.zone.LosesSign then utc.seconds + 2 * (time.zone.minutesAhead * 60)
      else utc.seconds) := by
  rw [htime.leafExpirationMillis_eq h, time.secondsTaken_eq hutc]

end Leaf

theorem LeafExpires.record_eq {blob : CertificateBlob} {level : SecurityLevel} {record : KeyRecord}
    {time : WrittenTime} {utc : Moment} (htime : LeafExpires blob.bytes time)
    (h : KeyRecord.ofChain blob level = .ok record) (hutc : time.IsAt utc)
    (hsign : ¬ time.zone.LosesSign) : record.expirationMillis = 1000 * utc.seconds := by
  obtain ⟨chain, hparse, hof, -, -⟩ := KeyRecord.exists_parse_of_ofChain h
  have hmillis := leafExpirationMillis_eq_ok (htime.leafExpirationMillis_of_isAt hparse hutc)
  rw [hof.expirationMillis, ← hmillis, if_neg hsign]

/-- Of every chain that is parsed the end of the leaf's validity tells an instant, and the
expiration is in range: the ticks of the clock from the start of 1970 to this instant, in
milliseconds. If the zone loses its sign it is earlier by twice what the zone is behind. The
expirations of records compare as the instants do, by year, month, day, hour, minute and second,
where no sign is lost. -/
theorem expiration_of_written_time {bs : Bytes} {chain : CertificateChain}
    (h : parse bs = .ok chain) :
    (∃ time utc seconds, LeafExpires bs time ∧ time.IsAt utc ∧ Moment.epoch.TicksTo utc seconds) ∧
    (∀ time utc seconds, LeafExpires bs time → time.IsAt utc → Moment.epoch.TicksTo utc seconds →
      (¬ time.zone.LosesSign → chain.leafExpirationMillis = .ok (1000 * seconds)) ∧
      (time.zone.LosesSign → chain.leafExpirationMillis =
        .ok (1000 * (seconds + 2 * (time.zone.minutesAhead * 60))))) ∧
    ∀ level record blob' level' record', KeyRecord.ofChain ⟨bs⟩ level = .ok record →
      KeyRecord.ofChain blob' level' = .ok record' →
      ∀ time utc time' utc', LeafExpires bs time → time.IsAt utc → ¬ time.zone.LosesSign →
        LeafExpires blob'.bytes time' → time'.IsAt utc' → ¬ time'.zone.LosesSign →
        (record.expirationMillis < record'.expirationMillis ↔ utc.Earlier utc') ∧
        (record.expirationMillis = record'.expirationMillis ↔ utc = utc') := by
  have hepoch := Moment.seconds_epoch
  refine ⟨?_, ?_, ?_⟩
  · obtain ⟨time, htime⟩ := exists_leafExpires h
    obtain ⟨utc, hutc⟩ := htime.choose_spec.2.exists_isAt
    refine ⟨time, utc, utc.seconds, htime, hutc, Moment.ticksTo_iff.mpr ?_⟩
    omega
  · intro time utc seconds htime hutc hticks
    have hseconds : seconds = utc.seconds := by
      rw [Moment.ticksTo_iff] at hticks
      omega
    have hmillis := htime.leafExpirationMillis_of_isAt h hutc
    rw [hseconds]
    exact ⟨fun hsign => by rw [hmillis, if_neg hsign], fun hsign => by rw [hmillis, if_pos hsign]⟩
  · intro level record blob' level' record' hrecord hrecord' time utc time' utc' htime hutc hsign
      htime' hutc' hsign'
    rw [htime.record_eq hrecord hutc hsign, htime'.record_eq hrecord' hutc' hsign',
      ← Moment.seconds_lt_iff, ← Moment.seconds_inj]
    omega

/-! ## Three chains -/

/-- The last second of 2049. -/
def lastOf2049 : WrittenTime := ⟨⟨⟨2049, 12, 31⟩, ⟨23, 59, 59⟩, rfl, rfl⟩, .universal⟩

/-- The first second of 2050. -/
def firstOf2050 : WrittenTime := ⟨.startOf ⟨2050, 1, 1⟩ rfl, .universal⟩

/-- The start of 2024 in a zone that is half an hour behind. -/
def halfHourBehind : WrittenTime := ⟨.startOf ⟨2024, 1, 1⟩ rfl, .behind 0 30⟩

/-- An element that is short and not made of elements. -/
def primitive (number : Nat) (content : Bytes) : Element :=
  ⟨⟨.universal, false, number⟩, content⟩

/-- A sequence. -/
def sequence (content : Bytes) : Element :=
  ⟨⟨.universal, true, sequenceTag⟩, content⟩

/-- The octets of a short element that is not made of elements. -/
def writePrimitive (number : Nat) (content : Bytes) : Bytes :=
  [UInt8.ofNat number, UInt8.ofNat content.length] ++ content

/-- The ends of validity, of which the first is the start of 1970. -/
def validityUntil (number : Nat) (text : Bytes) : Bytes :=
  writePrimitive utcTimeTag (WrittenTime.utcTimeText ⟨.epoch, .universal⟩) ++
    writePrimitive number text

/-- The identifier of the algorithm of signatures, as the content of a sequence. -/
def signatureAlgorithm : Bytes := [0x06, 0x08, 0x2A, 0x86, 0x48, 0xCE, 0x3D, 0x04, 0x03, 0x02]

/-- The name "root", as the content of a sequence. -/
def rootName : Bytes :=
  [0x31, 0x0D, 0x30, 0x0B, 0x06, 0x03, 0x55, 0x04, 0x03, 0x0C, 0x04, 0x72, 0x6F, 0x6F, 0x74]

/-- A signed part whose validity ends with the time. -/
def signedUntil (number : Nat) (text : Bytes) : Bytes :=
  let validity := validityUntil number text
  [0xA0, 0x03, 0x02, 0x01, 0x02, 0x02, 0x01, 0x01, 0x30, 0x0A] ++ signatureAlgorithm ++
    [0x30, 0x0F] ++ rootName ++ [0x30, UInt8.ofNat validity.length] ++ validity ++
    [0x30, 0x0F] ++ rootName ++ [0x30, 0x59, 0x30, 0x13, 0x06, 0x07] ++ Certificate.ecAlgorithm ++
    [0x06, 0x08, 0x2A, 0x86, 0x48, 0xCE, 0x3D, 0x03, 0x01, 0x07, 0x03, 0x42, 0x00, 0x04] ++
    List.replicate 64 1

/-- The signed part and a signature. -/
def contentUntil (number : Nat) (text : Bytes) : Bytes :=
  let signed := signedUntil number text
  [0x30, 0x81, UInt8.ofNat signed.length] ++ signed ++ [0x30, 0x0A] ++ signatureAlgorithm ++
    [0x03, 0x09, 0x00, 0x30, 0x06, 0x02, 0x01, 0x01, 0x02, 0x01, 0x02]

/-- A certificate whose validity ends with the time. -/
def certificateUntil (number : Nat) (text : Bytes) : Bytes :=
  let content := contentUntil number text
  [0x30, 0x81, UInt8.ofNat content.length] ++ content

theorem endsValidity_certificateUntil :
    ∀ p ∈ [(utcTimeTag, lastOf2049.utcTimeText),
        (generalizedTimeTag, firstOf2050.generalizedTimeText),
        (utcTimeTag, halfHourBehind.utcTimeText)],
      EndsValidity (certificateUntil p.1 p.2) (primitive p.1 p.2) := by
  have hplace :
      ∀ p ∈ [(utcTimeTag, lastOf2049.utcTimeText),
          (generalizedTimeTag, firstOf2050.generalizedTimeText),
          (utcTimeTag, halfHourBehind.utcTimeText)],
        BeginWith (certificateUntil p.1 p.2) [sequence (contentUntil p.1 p.2)] ∧
        BeginWith (contentUntil p.1 p.2) [sequence (signedUntil p.1 p.2)] ∧
        BeginWith (signedUntil p.1 p.2) [⟨⟨.context, true, 0⟩, [0x02, 0x01, 0x02]⟩,
          primitive integerTag [0x01], sequence signatureAlgorithm, sequence rootName,
          sequence (validityUntil p.1 p.2)] ∧
        BeginWith (validityUntil p.1 p.2) [primitive utcTimeTag
          (WrittenTime.utcTimeText ⟨.epoch, .universal⟩), primitive p.1 p.2] := by
    decide +kernel
  intro p hp
  obtain ⟨outer, inner, fields, times⟩ := hplace p hp
  refine EndsValidity.intro (some _) outer inner ?_ rfl fields times
  rintro _ ⟨⟩
  rfl

/-- The last second with a year of two digits and the first one with a year of four. -/
theorem expiration_of_written_time_turn :
    let last := certificateUntil utcTimeTag lastOf2049.utcTimeText
    let first := certificateUntil generalizedTimeTag firstOf2050.generalizedTimeText
    ∃ chain record record', parse last = .ok chain ∧
      chain.leafExpirationMillis = .ok (1000 * 2524607999) ∧
      KeyRecord.ofChain ⟨last⟩ .strongBox = .ok record ∧
      KeyRecord.ofChain ⟨first⟩ .strongBox = .ok record' ∧
      record.expirationMillis < record'.expirationMillis := by
  intro last first
  have hlast : LeafExpires last lastOf2049 :=
    ⟨_, endsValidity_certificateUntil (utcTimeTag, lastOf2049.utcTimeText) (by simp),
      .inl ⟨rfl, WrittenTime.isUtcTime_utcTimeText (by decide)⟩⟩
  have hfirst : LeafExpires first firstOf2050 :=
    ⟨_, endsValidity_certificateUntil
        (generalizedTimeTag, firstOf2050.generalizedTimeText) (by simp),
      .inr ⟨rfl, WrittenTime.isGeneralizedTime_generalizedTimeText (by decide) rfl⟩⟩
  have hlastAt : lastOf2049.IsAt lastOf2049.moment := rfl
  have hfirstAt : firstOf2050.IsAt firstOf2050.moment := rfl
  have hticks : Moment.epoch.TicksTo lastOf2049.moment 2524607999 :=
    Moment.ticksTo_iff.mpr (by decide)
  have hkeeps : ¬ Zone.universal.LosesSign := by decide
  have hparse : parse last = .ok ⟨⟨2524607999, ecAlgorithm, 4 :: List.replicate 64 1⟩, []⟩ :=
    parse_of_read (by decide +kernel)
  have hrecord : KeyRecord.ofChain ⟨last⟩ .strongBox = .ok (recordOf last 1 2524607999000) :=
    Message.eq_ok_of_toOption (by decide +kernel)
  have hrecord' : KeyRecord.ofChain ⟨first⟩ .strongBox = .ok (recordOf first 1 2524608000000) :=
    Message.eq_ok_of_toOption (by decide +kernel)
  obtain ⟨-, hexpiration, horder⟩ := expiration_of_written_time hparse
  obtain ⟨hkept, -⟩ := hexpiration _ _ _ hlast hlastAt hticks
  obtain ⟨hlt, -⟩ := horder _ _ _ _ _ hrecord hrecord' _ _ _ _ hlast hlastAt hkeeps hfirst hfirstAt
    hkeeps
  exact ⟨_, _, _, hparse, hkept hkeeps, hrecord, hrecord', hlt.mpr (.inl (.inl (by decide)))⟩

/-- The start of 2024 in a zone half an hour behind is half past midnight. The expiration is half
past eleven before. -/
theorem expiration_an_hour_early :
    let halfPast : Moment := ⟨⟨2024, 1, 1⟩, ⟨0, 30, 0⟩, rfl, rfl⟩
    let early := certificateUntil utcTimeTag halfHourBehind.utcTimeText
    LeafExpires early halfHourBehind ∧ halfHourBehind.IsAt halfPast ∧
      Moment.epoch.TicksTo halfPast 1704069000 ∧
      ∃ chain, parse early = .ok chain ∧ chain.leafExpirationMillis = .ok (1000 * 1704065400) ∧
        chain.leafExpirationMillis ≠ .ok (1000 * 1704069000) := by
  intro halfPast early
  have hplace : LeafExpires early halfHourBehind :=
    ⟨_, endsValidity_certificateUntil (utcTimeTag, halfHourBehind.utcTimeText) (by simp),
      .inl ⟨rfl, WrittenTime.isUtcTime_utcTimeText (by decide)⟩⟩
  have hparse : parse early = .ok ⟨⟨1704065400, ecAlgorithm, 4 :: List.replicate 64 1⟩, []⟩ :=
    parse_of_read (by decide +kernel)
  have hmillis : leafExpirationMillis ⟨⟨1704065400, ecAlgorithm, 4 :: List.replicate 64 1⟩, []⟩ =
      .ok (1000 * 1704065400) := rfl
  refine ⟨hplace, WrittenTime.isAt_iff.mpr (by decide), Moment.ticksTo_iff.mpr (by decide), _,
    hparse, hmillis, ?_⟩
  rw [hmillis]
  intro heq
  cases heq

end KeyProvisioning.CertificateChain
