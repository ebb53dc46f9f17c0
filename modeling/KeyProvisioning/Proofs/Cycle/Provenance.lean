import KeyProvisioning.Proofs.Cycle.Succession

/-!
# Where the sent data come from

A cycle asks the server once, at the address stored when it begins, and what it sends afterwards
comes from the response and from the custodian. An address that the server sends along is used
from the next cycle on, until another one is sent or the settings are reset.
-/

namespace KeyProvisioning

/-- The custodian made this signing request for this challenge. -/
inductive Turn.IsRequest (csr challenge : Bytes) : Turn → Prop
  | made (testMode : Bool) (count : UInt32) (keyMaterial : Bytes) (level : SecurityLevel) :
      IsRequest csr challenge
        ⟨.generateCsr testMode count keyMaterial challenge level, .answered (.ok csr)⟩

/-- Whether a call asks the server for key material. -/
def Call.isFetch : Call → Bool
  | fetchKeys _ => true
  | _ => false

theorem Call.exists_eq_of_isFetch {call : Call} (h : call.isFetch = true) :
    ∃ base, call = .fetchKeys base := by
  cases call with
  | fetchKeys base => exact ⟨base, rfl⟩
  | _ => cases h

/-! ## Signatures are for the last request -/

/-- Only the signing request that the custodian made right before is sent for signature, with its
challenge, and it is not empty. -/
structure Plan.SignsLast (plan : Plan) : Prop where
  request_before : ∀ {first rest : Plan} {base : String} {csr challenge : Bytes}
    {reply : Reply Bytes}, plan = first ++ .ok ⟨.sign base csr challenge, reply⟩ :: rest →
      csr ≠ [] ∧ ∃ past request, Turn.IsRequest csr challenge request ∧
        first = past ++ [.ok request]

/-- A turn along a plan stands where the plan has its call. -/
theorem Follows.exists_split {mayStop : Prop} {plan : Plan} {first rest : List Turn} {turn : Turn}
    {halt : Option Halt} (h : Follows mayStop plan (first ++ turn :: rest) halt) :
    ∃ (planned : Turn) (more : Plan),
      planned.call = turn.call ∧ plan = first.map .ok ++ .ok planned :: more := by
  induction first generalizing plan with
  | nil =>
    cases h with
    | @step _ plan => exact ⟨turn, plan, rfl, rfl⟩
    | @failed call planned _ plan => exact ⟨⟨call, planned⟩, plan, rfl, rfl⟩
  | cons earlier first ih =>
    generalize hturns : earlier :: first ++ turn :: rest = turns at h
    cases h with
    | done | refused | stopped => cases hturns
    | step _ tail =>
      cases hturns
      obtain ⟨planned, more, hcall, rfl⟩ := ih tail
      exact ⟨planned, more, hcall, rfl⟩
    | failed =>
      obtain ⟨-, hnil⟩ := List.cons.inj hturns
      simp at hnil

namespace Plan.SignsLast

variable {plan rest : Plan}

/-- A plan without signatures. -/
theorem of_not_mem (h : ∀ base csr challenge reply, .ok ⟨.sign base csr challenge, reply⟩ ∉ plan) :
    plan.SignsLast := by
  constructor
  intro first rest base csr challenge reply hsplit
  exact absurd (by simp [hsplit]) (h base csr challenge reply)

theorem append (h : plan.SignsLast) (k : rest.SignsLast) : Plan.SignsLast (plan ++ rest) := by
  constructor
  intro first last base csr challenge reply hsplit
  rcases List.append_eq_append_iff.mp hsplit with
    ⟨between, hfirst, hrest⟩ | ⟨between, hplan, hlast⟩
  · obtain ⟨hnil, past, request, hrequest, rfl⟩ := k.request_before hrest
    exact ⟨hnil, plan ++ past, request, hrequest, by rw [hfirst, List.append_assoc]⟩
  · cases between with
    | nil =>
      have hrest : rest = [] ++ .ok ⟨.sign base csr challenge, reply⟩ :: last := hlast.symm
      obtain ⟨-, past, request, -, hempty⟩ := k.request_before hrest
      simp at hempty
    | cons step between =>
      obtain ⟨rfl, -⟩ := List.cons.inj hlast
      exact h.request_before hplan

theorem flatMap {α : Type} {items : List α} {part : α → Plan}
    (h : ∀ item ∈ items, (part item).SignsLast) : Plan.SignsLast (items.flatMap part) := by
  induction items with
  | nil => exact of_not_mem (by simp)
  | cons item items ih =>
    rw [List.flatMap_cons]
    apply (h item List.mem_cons_self).append
    apply ih
    intro other hother
    exact h other (List.mem_cons_of_mem _ hother)

/-- What is planned for signatures is done for signatures. -/
theorem of_follows {mayStop : Prop} {turns : List Turn} {halt : Option Halt}
    (h : plan.SignsLast) (hfollows : Follows mayStop plan turns halt) :
    Plan.SignsLast (turns.map .ok) := by
  constructor
  intro first rest base csr challenge reply hsplit
  obtain ⟨past, later, rfl, rfl, hlater⟩ := List.map_eq_append_iff.mp hsplit
  obtain ⟨turn, last, rfl, hturn, -⟩ := List.map_eq_cons_iff.mp hlater
  cases hturn
  obtain ⟨⟨call, planned⟩, more, hcall, hplan⟩ := hfollows.exists_split
  cases hcall
  exact h.request_before hplan

end Plan.SignsLast

namespace Cycle

theorem Signing.signsLast (config : Config) (count : UInt32) (level : SecurityLevel)
    (response : KeyResponse) (base : String) (signing : Signing) :
    (signing.plan config count level response base).SignsLast := by
  constructor
  intro first rest base csr challenge reply hsplit
  rw [plan] at hsplit
  rcases first with _ | ⟨request, _ | ⟨sign, stored⟩⟩
  · cases hsplit
  · cases hsplit
    exact ⟨signing.csr_ne_nil, [], _, .made _ _ _ _, rfl⟩
  · -- After the signature there are only chains to store.
    obtain ⟨-, hsplit⟩ := List.cons.inj hsplit
    obtain ⟨-, hsplit⟩ := List.cons.inj hsplit
    have hmem : .ok ⟨.sign base csr challenge, reply⟩ ∈ signing.chains.map (storing level) := by
      rw [hsplit]
      simp
    obtain ⟨blob, -, hblob⟩ := List.mem_map.mp hmem
    obtain ⟨record, -, hturn⟩ := eq_of_storing_eq_ok hblob
    cases hturn

/-- Provisioning has each request signed right after it is made. -/
theorem signsLast_provisioning (config : Config) (now : Nat) (settings : Settings)
    (response : KeyResponse) (base : String) (batches : List Batch) :
    (provisioning config now settings response base batches).SignsLast := by
  rw [provisioning, ← List.singleton_append]
  have htopUp (batch : Batch) : (batch.pool.topUp config now settings).SignsLast :=
    .of_not_mem (by simp [CountedPool.topUp])
  have hcertification (batch : Batch) :
      (batch.certification config settings response base).SignsLast := by
    rw [Batch.certification]
    split
    · exact batch.signing.signsLast ..
    · exact .of_not_mem (by simp)
  apply Plan.SignsLast.append
  · exact .of_not_mem (by simp)
  · exact (Plan.SignsLast.flatMap fun batch _ => htopUp batch).append
      (.flatMap fun batch _ => hcertification batch)

theorem Answers.signsLast_plan (config : Config) (now : Nat) (before : Settings)
    (answers : Answers) : (answers.plan config now before).SignsLast := by
  have hfetching : Plan.SignsLast [answers.fetching before] := .of_not_mem (by simp [fetching])
  have hadopting : Plan.SignsLast [answers.adopting] := .of_not_mem (by simp [adopting])
  have hdeleting : Plan.SignsLast [answers.deleting] := .of_not_mem (by simp [deleting])
  have hresetting : Plan.SignsLast [answers.resetting] := .of_not_mem (by simp [resetting])
  rw [plan]
  split
  · exact hfetching
  · split
    · exact hfetching.append (hadopting.append hdeleting)
    · exact hfetching.append (hadopting.append ((signsLast_provisioning ..).append hresetting))

/-! ## What one cycle sends -/

/-- A plan asks for key material, calls the store, deletes the keys or provisions. -/
theorem Answers.call_of_mem_plan {config : Config} {now : Nat} {before : Settings}
    {answers : Answers} {turn : Turn} (h : .ok turn ∈ answers.plan config now before) :
    turn.call = .fetchKeys before.serverUrl ∨ turn.call.isStore = true ∨
      turn.call = .deleteAllKeys ∨
        Provisioned config answers.response before.serverUrl turn.call := by
  rw [plan_eq_cons, fetching, List.mem_cons] at h
  rcases h with h | h
  · cases h
    exact .inl rfl
  right
  split at h
  · cases h
  rw [adopting, List.mem_cons] at h
  rcases h with h | h
  · cases h
    exact .inl rfl
  split at h
  · rw [deleting, List.mem_singleton] at h
    cases h
    exact .inr (.inl rfl)
  · rw [resetting, List.mem_append, List.mem_singleton] at h
    rcases h with h | h
    · exact .inr (.inr (provisioned_of_mem h))
    · cases h
      exact .inl rfl

/-- A cycle asks for key material once at most. -/
theorem Exit.countP_isFetch_le {before : Settings} {turns : List Turn}
    {ending : Except Halt CycleOutcome} (h : Exit before turns ending) :
    (turns.map Turn.call).countP Call.isFetch ≤ 1 := by
  cases h with
  | stopped | notFetched | off => simp [Call.isFetch]
  | notAdopted => simp [List.countP_cons, Call.isFetch]
  | @adopted _ _ _ _ _ later _ rest =>
    have hlater : (later.map Turn.call).countP Call.isFetch = 0 := by
      rw [List.countP_eq_zero]
      intro call hcall hfetch
      obtain ⟨base, rfl⟩ := Call.exists_eq_of_isFetch hfetch
      rcases rest.of_mem_calls hcall with hprovisions | hdelete | hreset
      · exact hprovisions
      · cases hdelete
      · cases hreset
    simp [List.countP_cons, hlater, Call.isFetch]

namespace Report

/-- What a cycle sends to the custodian and to the server comes from its settings and its
response. -/
structure Provenance (report : Report) : Prop where
  fetches_once : report.calls.countP Call.isFetch ≤ 1
  fetch_base : ∀ base, .fetchKeys base ∈ report.calls → base = report.before.serverUrl
  sign_base : ∀ base csr challenge, .sign base csr challenge ∈ report.calls →
    base = report.before.serverUrl
  request_of_response : ∀ testMode count keyMaterial challenge level,
    .generateCsr testMode count keyMaterial challenge level ∈ report.calls →
      ∃ response, report.Receives response ∧ keyMaterial = response.keyMaterial ∧
        challenge = response.challenge
  signs_last : ∀ first rest base csr challenge reply,
    report.turns = first ++ ⟨.sign base csr challenge, reply⟩ :: rest →
      csr ≠ [] ∧ ∃ past request, Turn.IsRequest csr challenge request ∧ first = past ++ [request]

namespace Parts

variable {config : Config} {now : Nat} {report : Report} {answers : Answers}
  {body last : List Turn} {ending : Except Halt CycleOutcome} {mid : Settings}

/-- Nothing but the request for key material is called without the response. -/
theorem receives_of_mem (parts : report.Parts config now answers body last ending mid)
    {turn : Turn} (hturn : turn ∈ body) (hcall : turn.call ≠ .fetchKeys report.before.serverUrl) :
    report.Receives answers.response := by
  rw [parts.receives_iff]
  have hfollows := parts.follows
  rw [answers.plan_eq_cons, Answers.fetching] at hfollows
  generalize haltOf ending = ended at hfollows
  cases hfollows with
  | step => exact ⟨answers.bytes, List.mem_cons_self, answers.decode_bytes⟩
  | failed =>
    rw [List.mem_singleton] at hturn
    subst hturn
    exact absurd rfl hcall
  | stopped => cases hturn

/-- What a cycle calls but the store: it asks for key material, and with the response it deletes
the keys or provisions. -/
theorem sends (parts : report.Parts config now answers body last ending mid) {call : Call}
    (hcall : call ∈ report.calls) (hstore : call.isStore = false) :
    call = .fetchKeys report.before.serverUrl ∨ report.Receives answers.response ∧
      (call = .deleteAllKeys ∨
        Provisioned config answers.response report.before.serverUrl call) := by
  obtain ⟨turn, hturn, rfl⟩ := List.mem_map.mp ((parts.mem_calls_iff hstore).mp hcall)
  by_cases hfetch : turn.call = .fetchKeys report.before.serverUrl
  · exact .inl hfetch
  · right
    refine ⟨parts.receives_of_mem hturn hfetch, ?_⟩
    obtain ⟨planned, hplanned, hsame⟩ := parts.follows.exists_mem turn hturn
    rw [← hsame] at hfetch hstore ⊢
    rcases Answers.call_of_mem_plan hplanned with h | h | h
    · exact absurd h hfetch
    · rw [hstore] at h
      cases h
    · exact h

theorem signsLast (parts : report.Parts config now answers body last ending mid) :
    Plan.SignsLast (report.turns.map .ok) := by
  have hload : Plan.SignsLast [.ok ⟨.loadSettings, .answered (.ok report.before)⟩] :=
    .of_not_mem (by simp)
  have hbody : Plan.SignsLast (body.map .ok) :=
    (answers.signsLast_plan config now report.before).of_follows parts.follows
  have hlast : Plan.SignsLast (last.map .ok) := by
    apply Plan.SignsLast.of_not_mem
    intro base csr challenge reply hmem
    obtain ⟨turn, hturn, hcall⟩ := List.mem_map.mp hmem
    cases hcall
    cases parts.handles.isStore _ hturn
  rw [parts.turns_eq, List.map_append, List.map_append]
  exact (hload.append hbody).append hlast

theorem countP_isFetch_le (parts : report.Parts config now answers body last ending mid) :
    report.calls.countP Call.isFetch ≤ 1 := by
  have hlast : (last.map Turn.call).countP Call.isFetch = 0 := by
    rw [List.countP_eq_zero]
    intro call hcall hfetch
    obtain ⟨turn, hturn, rfl⟩ := List.mem_map.mp hcall
    have hstore := parts.handles.isStore turn hturn
    obtain ⟨base, hbase⟩ := Call.exists_eq_of_isFetch hfetch
    rw [hbase] at hstore
    cases hstore
  have hbody := parts.leaves.countP_isFetch_le
  rw [calls, parts.turns_eq]
  simpa [List.countP_cons, Call.isFetch, hlast] using hbody

end Parts

theorem IsCycle.provenance {config : Config} {report : Report} (h : report.IsCycle config) :
    report.Provenance := by
  obtain ⟨now, answers, body, last, ending, mid, parts⟩ := h.exists_parts
  constructor
  case fetches_once => exact parts.countP_isFetch_le
  case fetch_base =>
    intro base hmem
    rcases parts.sends hmem rfl with hfetch | ⟨-, hdelete | hprovisioned⟩
    · cases hfetch
      rfl
    · cases hdelete
    · cases hprovisioned
  case sign_base =>
    intro base csr challenge hmem
    rcases parts.sends hmem rfl with hfetch | ⟨-, hdelete | hprovisioned⟩
    · cases hfetch
    · cases hdelete
    · cases hprovisioned
      rfl
  case request_of_response =>
    intro testMode count keyMaterial challenge level hmem
    rcases parts.sends hmem rfl with hfetch | ⟨hreceives, hdelete | hprovisioned⟩
    · cases hfetch
    · cases hdelete
    · cases hprovisioned
      exact ⟨answers.response, hreceives, rfl, rfl⟩
  case signs_last =>
    intro first rest base csr challenge reply hturns
    have hsplit : (report.turns.map .ok : Plan) =
        first.map .ok ++ .ok ⟨.sign base csr challenge, reply⟩ :: rest.map .ok := by
      rw [hturns, List.map_append, List.map_cons]
    obtain ⟨hcsr, past, request, hrequest, hfirst⟩ := parts.signsLast.request_before hsplit
    obtain ⟨before, turns, rfl, -, hturn⟩ := List.map_eq_append_iff.mp hfirst
    obtain ⟨turn, _, rfl, hmade, hnil⟩ := List.map_eq_cons_iff.mp hturn
    cases hmade
    rw [List.map_eq_nil_iff.mp hnil]
    exact ⟨hcsr, before, request, hrequest, rfl⟩

/-! ## The address that a cycle leaves behind -/

/-- The cycle takes over a policy with this address. -/
def CarriesUrl (report : Report) (url : String) : Prop :=
  ∃ response, report.Receives response ∧ response.config.serverUrl = some url ∧
    .updateSettings (.deviceConfig response.config) ∈ report.calls

/-- The cycle neither takes over an address nor resets the settings. -/
def KeepsUrl (report : Report) : Prop :=
  ¬ report.Resets ∧ ∀ url, ¬ report.CarriesUrl url

end Report

/-- A cycle takes over the policy of its response if and only if that does not leave provisioning
off. -/
theorem Exit.adoption_mem_iff {before : Settings} {turns : List Turn}
    {ending : Except Halt CycleOutcome} (h : Exit before turns ending) {response : KeyResponse}
    (hfetched : Fetched before turns response) :
    .updateSettings (.deviceConfig response.config) ∈ turns.map Turn.call ↔
      staysOff before response.config = false := by
  cases h with
  | stopped => exact absurd hfetched (not_fetched_nil response)
  | notFetched failure => exact absurd hfetched (not_fetched_of_failure failure response)
  | off decoded stays =>
    obtain rfl := (fetched_cons_iff decoded (by simp)).mp hfetched
    simp [stays]
  | notAdopted decoded on =>
    obtain rfl := (fetched_cons_iff decoded (by simp)).mp hfetched
    simp [on]
  | adopted decoded on settings rest =>
    obtain rfl := (rest.fetched_iff decoded _ _).mp hfetched
    simp [on]

/-- No policy is taken over by the handling of a fault. -/
theorem Aftermath.adoption_not_mem {config : Config} {turns : List Turn}
    {outcome : Option CycleOutcome} {ending : Except Halt CycleOutcome}
    (h : Aftermath config turns outcome ending) (policy : DeviceConfig) :
    .updateSettings (.deviceConfig policy) ∉ turns.map Turn.call := by
  rcases ending with (_ | fault) | value
  · obtain ⟨rfl, -⟩ := h
    simp
  · cases h <;> simp
  · obtain ⟨rfl, -⟩ := h
    simp

namespace Report.IsCycle

variable {config : Config} {report : Report}

theorem adopts_iff (h : report.IsCycle config) {response : KeyResponse}
    (hreceives : report.Receives response) :
    .updateSettings (.deviceConfig response.config) ∈ report.calls ↔
      staysOff report.before response.config = false := by
  obtain ⟨now, answers, body, last, ending, mid, parts⟩ := h.exists_parts
  rw [← parts.leaves.adoption_mem_iff (parts.receives_iff.mp hreceives), calls, parts.turns_eq,
    List.map_append, List.map_append, List.mem_append, List.mem_append]
  simp [parts.handles.adoption_not_mem]

theorem serverUrl_of_resets (h : report.IsCycle config) (resets : report.Resets) :
    report.after.serverUrl = Settings.default.serverUrl := by
  obtain ⟨policy, -, hreset, -⟩ := h.settings
  rw [hreset resets]

theorem serverUrl_of_carriesUrl (h : report.IsCycle config) (stays : ¬ report.Resets)
    {url : String} (carries : report.CarriesUrl url) : report.after.serverUrl = url := by
  obtain ⟨policy, hpolicy, -, hkept⟩ := h.settings
  obtain ⟨response, hreceives, hurl, hadopts⟩ := carries
  have hon := (h.adopts_iff hreceives).mp hadopts
  obtain rfl := (hpolicy response.config).mpr ⟨response, hreceives, rfl, hon⟩
  obtain ⟨failures, hafter⟩ := hkept stays
  rw [hafter]
  simp [withPolicy, Settings.withDeviceConfig, hurl]

theorem serverUrl_of_keepsUrl (h : report.IsCycle config) (keeps : report.KeepsUrl) :
    report.after.serverUrl = report.before.serverUrl := by
  obtain ⟨policy, hpolicy, -, hkept⟩ := h.settings
  obtain ⟨failures, hafter⟩ := hkept keeps.1
  rw [hafter]
  cases policy with
  | none => rfl
  | some other =>
    obtain ⟨response, hreceives, rfl, hon⟩ := (hpolicy other).mp rfl
    cases hurl : response.config.serverUrl with
    | none => simp [withPolicy, Settings.withDeviceConfig, hurl]
    | some url =>
      exact absurd ⟨response, hreceives, hurl, (h.adopts_iff hreceives).mpr hon⟩ (keeps.2 url)

end Report.IsCycle

/-! ## The address over many cycles -/

/-- The address that is current after some cycles: that of the last one that took over an
address, since the last reset of the settings; else the default one after a reset, and the
initial one without. -/
inductive LatestUrl (initial : String) : List Report → String → Prop
  | initial {reports : List Report} (kept : ∀ report ∈ reports, report.KeepsUrl) :
      LatestUrl initial reports initial
  | carried (past : List Report) {later : List Report} {report : Report} {url : String}
      (carries : report.CarriesUrl url) (stays : ¬ report.Resets)
      (kept : ∀ other ∈ later, other.KeepsUrl) : LatestUrl initial (past ++ report :: later) url
  | reset (past : List Report) {later : List Report} {report : Report} (resets : report.Resets)
      (kept : ∀ other ∈ later, other.KeepsUrl) :
      LatestUrl initial (past ++ report :: later) Settings.default.serverUrl

/-- A cycle before others that leave the current address to it. -/
theorem LatestUrl.cons {config : Config} {report : Report} {reports : List Report} {url : String}
    (cycle : report.IsCycle config) (h : LatestUrl report.after.serverUrl reports url) :
    LatestUrl report.before.serverUrl (report :: reports) url := by
  cases h with
  | initial kept =>
    by_cases hresets : report.Resets
    · rw [cycle.serverUrl_of_resets hresets]
      exact .reset [] hresets kept
    · by_cases hcarries : ∃ url, report.CarriesUrl url
      · obtain ⟨url, hcarries⟩ := hcarries
        rw [cycle.serverUrl_of_carriesUrl hresets hcarries]
        exact .carried [] hcarries hresets kept
      · have hkeeps : report.KeepsUrl := ⟨hresets, fun url h => hcarries ⟨url, h⟩⟩
        rw [cycle.serverUrl_of_keepsUrl hkeeps]
        apply LatestUrl.initial
        intro other hother
        rcases List.mem_cons.mp hother with rfl | hother
        · exact hkeeps
        · exact kept other hother
  | carried past carries stays kept => exact .carried (report :: past) carries stays kept
  | reset past resets kept => exact .reset (report :: past) resets kept

/-- The address stored after some cycles is the current one. -/
theorem Cycles.latestUrl {config : Config} {initial final : Settings} {reports : List Report}
    (h : Cycles config initial reports final) :
    LatestUrl initial.serverUrl reports final.serverUrl := by
  induction h with
  | nil => exact .initial (by simp)
  | cons cycle _ ih => exact .cons cycle ih

/-- What cycles send comes from where it should. Each asks the server once at most and sends its
signing requests to the same address, which is the current one after the cycles before it. It has
requests made for the key material and the challenge of its own response, and it sends no other
one than the request made right before. -/
theorem cycles_provenance {config : Config} {initial final : Settings} {reports : List Report}
    (h : Cycles config initial reports final) :
    (∀ report ∈ reports, report.Provenance) ∧
      ∀ earlier report later, reports = earlier ++ report :: later →
        LatestUrl initial.serverUrl earlier report.before.serverUrl := by
  constructor
  · intro report hreport
    exact (h.isCycle_of_mem report hreport).provenance
  · rintro earlier report later rfl
    obtain ⟨between, hearlier, hrest⟩ := h.of_append
    cases hrest
    exact hearlier.latestUrl

/-- A response of the server with a policy of one entry: another address. -/
def redirectingResponse : Bytes :=
  [0x83, 0x80, 0x40, 0xA1, 0x70] ++ Utf8.encode "provisioning_url".toList ++
    [0x73] ++ Utf8.encode "https://rkp.example".toList

/-- The server sends another address and is asked there next. -/
def redirectedReports : List Report :=
  answeredReports [⟨.strongBox, 1⟩] .default
    [.answered (.ok redirectingResponse), .answered (.ok [0x82, 0x80, 0x40])]

theorem cycles_provenance_redirected :
    ∃ first second, redirectedReports = [first, second] ∧ first.Provenance ∧ second.Provenance ∧
      .sign Settings.default.serverUrl [1] [] ∈ first.calls ∧
      .sign "https://rkp.example" [1] [] ∈ second.calls ∧
      LatestUrl Settings.default.serverUrl [first] "https://rkp.example" := by
  obtain ⟨final, hcycles⟩ := exists_cycles_answered [⟨.strongBox, 1⟩] .default
    [.answered (.ok redirectingResponse), .answered (.ok [0x82, 0x80, 0x40])] (by decide +kernel)
  have hfirst : ∀ report ∈ redirectedReports.take 1,
      .sign Settings.default.serverUrl [1] [] ∈ report.calls := by decide +kernel
  have hsecond : ∀ report ∈ redirectedReports.drop 1,
      .sign "https://rkp.example" [1] [] ∈ report.calls := by decide +kernel
  obtain ⟨first, second, hreports⟩ : ∃ first second, redirectedReports = [first, second] :=
    ⟨_, _, rfl⟩
  rw [redirectedReports] at hreports
  rw [redirectedReports, hreports] at hfirst hsecond
  rw [hreports] at hcycles
  obtain ⟨hsent, hurl⟩ := cycles_provenance hcycles
  have hsigned := hsecond second List.mem_cons_self
  have hsource := hsent second (by simp)
  refine ⟨first, second, hreports, hsent first List.mem_cons_self, hsource,
    hfirst first List.mem_cons_self, hsigned, ?_⟩
  rw [hsource.sign_base _ _ _ hsigned]
  exact hurl [first] second [] rfl

end Cycle

end KeyProvisioning
