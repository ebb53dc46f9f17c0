import KeyProvisioning.Proofs.Cycle.Succession

/-!
# Provisioning that is off

While no keys are to be kept on hand a cycle asks the server and does nothing else, until the
server allows for keys again or too many failures reset the settings. A cycle in which the server
turns provisioning off stores that before it deletes the keys, so later cycles do not delete them
again, even if the deletion failed.
-/

namespace KeyProvisioning.Cycle

/-! ## The response of a cycle -/

section Response

variable {before : Settings} {turns : List Turn} {ending : Except Halt CycleOutcome}

/-- A cycle has one response at most. -/
theorem Exit.eq_of_fetched (h : Exit before turns ending) {response other : KeyResponse}
    (hresponse : Fetched before turns response) (hother : Fetched before turns other) :
    response = other := by
  cases h with
  | stopped => exact absurd hresponse (not_fetched_nil response)
  | notFetched failure => exact absurd hresponse (not_fetched_of_failure failure response)
  | off decoded | notAdopted decoded =>
    have hfirst := (fetched_cons_iff decoded (by simp)).mp hresponse
    have hsecond := (fetched_cons_iff decoded (by simp)).mp hother
    exact hfirst.symm.trans hsecond
  | adopted decoded on settings rest =>
    have hfirst := (rest.fetched_iff decoded _ _).mp hresponse
    have hsecond := (rest.fetched_iff decoded _ _).mp hother
    exact hfirst.symm.trans hsecond

/-- A cycle whose response leaves provisioning off is left once it has the response, or without
one. -/
theorem Exit.early (h : Exit before turns ending)
    (stays : ∀ response, Fetched before turns response → staysOff before response.config = true) :
    (∀ turn ∈ turns, turn.call = .fetchKeys before.serverUrl) ∧ ending ≠ .ok .disabled ∧
      ∀ response, Fetched before turns response → ending = .ok .completed := by
  cases h with
  | stopped =>
    refine ⟨by simp, by simp, ?_⟩
    intro response hfetched
    exact absurd hfetched (not_fetched_nil response)
  | notFetched failure =>
    refine ⟨by simp, by simp, ?_⟩
    intro response hfetched
    exact absurd hfetched (not_fetched_of_failure failure response)
  | off => simp
  | @notAdopted bytes response decoded on =>
    have hoff := stays response ⟨bytes, List.mem_cons_self, decoded⟩
    rw [on] at hoff
    cases hoff
  | @adopted bytes response decoded on =>
    have hoff := stays response ⟨bytes, List.mem_cons_self, decoded⟩
    rw [on] at hoff
    cases hoff

end Response

variable {config : Config} {report : Report}

theorem Report.IsCycle.eq_of_receives (h : report.IsCycle config) {response other : KeyResponse}
    (hresponse : report.Receives response) (hother : report.Receives other) :
    response = other := by
  obtain ⟨_, _, _, _, _, _, parts⟩ := h.exists_parts
  exact parts.leaves.eq_of_fetched (parts.receives_iff.mp hresponse) (parts.receives_iff.mp hother)

/-- The server does not both allow for keys and forbid them. -/
theorem Report.IsCycle.not_enables (h : report.IsCycle config) (forbids : report.Forbids) :
    ¬ report.Enables := by
  rintro ⟨response, count, hreceives, hcount, hpos⟩
  obtain ⟨other, hother, hzero⟩ := forbids
  obtain rfl := h.eq_of_receives hreceives hother
  rw [hcount] at hzero
  cases hzero
  exact UInt32.lt_irrefl 0 hpos

/-! ## One cycle -/

/-- Provisioning stays off unless the server allows for keys. -/
theorem staysOff_of_not_enables (off : report.before.extraKeys = 0) (disabled : ¬ report.Enables)
    {response : KeyResponse} (hreceives : report.Receives response) :
    staysOff report.before response.config = true := by
  simp only [staysOff, off, decide_true, Bool.true_and]
  cases hcount : response.config.extraKeys with
  | none => rfl
  | some count =>
    by_cases hzero : count = 0
    · simp [hzero]
    · have hpos : 0 < count := UInt32.pos_iff_ne_zero.mpr hzero
      exact absurd ⟨response, count, hreceives, hcount, hpos⟩ disabled

/-- A cycle that begins with provisioning off and in which the server does not allow for keys
asks the server and does nothing else. -/
theorem Report.IsCycle.inert (h : report.IsCycle config) (off : report.before.extraKeys = 0)
    (disabled : ¬ report.Enables) :
    (∀ call ∈ report.calls, call.isCustodian = false ∧
      ∀ base csr challenge, call ≠ .sign base csr challenge) ∧
    report.outcome ≠ some .disabled ∧
    (∀ response, report.Receives response → report.outcome = some .completed) ∧
    (¬ report.Resets → ∃ failures, report.after = { report.before with failures }) := by
  obtain ⟨now, answers, body, last, ending, mid, parts⟩ := h.exists_parts
  obtain ⟨hbody, hending, hcompleted⟩ := parts.leaves.early fun response hfetched =>
    staysOff_of_not_enables off disabled (parts.receives_iff.mpr hfetched)
  refine ⟨?_, parts.handles.ne_disabled hending, ?_, ?_⟩
  · intro call hcall
    cases hstore : call.isStore with
    | true =>
      refine ⟨Call.isCustodian_of_isStore hstore, ?_⟩
      rintro base csr challenge rfl
      cases hstore
    | false =>
      obtain ⟨turn, hturn, rfl⟩ := List.mem_map.mp ((parts.mem_calls_iff hstore).mp hcall)
      rw [hbody turn hturn]
      exact ⟨rfl, by simp⟩
  · intro response hreceives
    have hhandles := parts.handles
    rw [hcompleted response (parts.receives_iff.mp hreceives)] at hhandles
    exact hhandles.2
  · intro hreset
    obtain ⟨policy, hpolicy, -, hkept⟩ := h.settings
    obtain ⟨failures, hafter⟩ := hkept hreset
    cases policy with
    | none => exact ⟨failures, hafter⟩
    | some other =>
      obtain ⟨response, hreceives, rfl, on⟩ := (hpolicy other).mp rfl
      rw [staysOff_of_not_enables off disabled hreceives] at on
      cases on

/-- A cycle that begins with provisioning off leaves it on if and only if the server allows for
keys or the settings are reset. -/
theorem Report.IsCycle.on_iff (h : report.IsCycle config) (off : report.before.extraKeys = 0) :
    report.after.extraKeys ≠ 0 ↔ report.Enables ∨ report.Resets := by
  obtain ⟨policy, hpolicy, hreset, hkept⟩ := h.settings
  by_cases hresets : report.Resets
  · refine iff_of_true ?_ (.inr hresets)
    rw [hreset hresets]
    decide
  · by_cases henables : report.Enables
    · refine iff_of_true ?_ (.inl henables)
      obtain ⟨response, count, hreceives, hcount, hpos⟩ := henables
      have hne : count ≠ 0 := UInt32.pos_iff_ne_zero.mp hpos
      have hon : staysOff report.before response.config = false := by
        simp [staysOff, hcount, hne]
      obtain rfl := (hpolicy response.config).mpr ⟨response, hreceives, rfl, hon⟩
      obtain ⟨failures, hafter⟩ := hkept hresets
      rw [hafter]
      simpa [withPolicy, Settings.withDeviceConfig, hcount] using hne
    · refine iff_of_false ?_ (by simp [henables, hresets])
      obtain ⟨-, -, -, hsettings⟩ := h.inert off henables
      obtain ⟨failures, hafter⟩ := hsettings hresets
      rw [hafter]
      simpa using off

/-- A cycle that begins with provisioning on leaves it on unless the server forbids keys. -/
theorem Report.IsCycle.stays_on (h : report.IsCycle config) (on : report.before.extraKeys ≠ 0)
    (allowed : ¬ report.Forbids) : report.after.extraKeys ≠ 0 := by
  obtain ⟨policy, hpolicy, hreset, hkept⟩ := h.settings
  by_cases hresets : report.Resets
  · rw [hreset hresets]
    decide
  · obtain ⟨failures, hafter⟩ := hkept hresets
    rw [hafter]
    cases policy with
    | none => exact on
    | some other =>
      obtain ⟨response, hreceives, rfl, -⟩ := (hpolicy other).mp rfl
      cases hcount : response.config.extraKeys with
      | none => simpa [withPolicy, Settings.withDeviceConfig, hcount] using on
      | some count =>
        have hne : count ≠ 0 := by
          rintro rfl
          exact allowed ⟨response, hreceives, hcount⟩
        simpa [withPolicy, Settings.withDeviceConfig, hcount] using hne

/-- A cycle that deletes the keys leaves provisioning off, whatever comes of the deletion. -/
theorem Report.IsCycle.off_of_deletes (h : report.IsCycle config)
    (deletes : .deleteAllKeys ∈ report.calls) : report.after.extraKeys = 0 := by
  obtain ⟨now, answers, body, last, ending, mid, parts⟩ := h.exists_parts
  obtain ⟨policy, hpolicy, -, hkept⟩ := h.settings
  have hbody := (parts.mem_calls_iff rfl).mp deletes
  have hleaves := parts.leaves
  cases hleaves with
  | stopped | notFetched | off | notAdopted => simp at hbody
  | @adopted bytes response decoded on settings later ending rest =>
    have hreceives : report.Receives response :=
      parts.receives_iff.mpr ⟨bytes, List.mem_cons_self, decoded⟩
    obtain rfl := (hpolicy response.config).mpr ⟨response, hreceives, rfl, on⟩
    have hzero : response.config.extraKeys = some 0 := by
      apply Classical.byContradiction
      intro nonzero
      exact (rest.delete_not_mem nonzero).1 (by simpa using hbody)
    have hresets : ¬ report.Resets := by
      rw [parts.resets_iff]
      have hhandles := parts.handles
      cases rest with
      | deleted =>
        obtain ⟨rfl, -⟩ := hhandles
        simp
      | deletionCrashed =>
        obtain ⟨rfl, -⟩ := hhandles
        simp
      | replenished nonzero | notReplenished nonzero | notReset nonzero =>
        exact absurd hzero nonzero
    obtain ⟨failures, hafter⟩ := hkept hresets
    rw [hafter]
    simp [withPolicy, Settings.withDeviceConfig, hzero]

/-- A cycle in which the server forbids keys deletes them if and only if it begins with
provisioning on. -/
theorem Report.IsCycle.deletes_iff (h : report.IsCycle config) (forbids : report.Forbids) :
    .deleteAllKeys ∈ report.calls ↔ report.before.extraKeys ≠ 0 := by
  constructor
  · intro hdelete off
    obtain ⟨hcalls, -⟩ := h.inert off (h.not_enables forbids)
    cases (hcalls _ hdelete).1
  · intro on
    obtain ⟨now, answers, body, last, ending, mid, parts⟩ := h.exists_parts
    obtain ⟨response, hreceives, hzero⟩ := forbids
    have hfetched := parts.receives_iff.mp hreceives
    rw [parts.mem_calls_iff rfl]
    have hleaves := parts.leaves
    cases hleaves with
    | stopped => exact absurd hfetched (not_fetched_nil response)
    | notFetched failure => exact absurd hfetched (not_fetched_of_failure failure response)
    | off decoded stays => simp [staysOff, on] at stays
    | @notAdopted _ response decoded _ _ _ failed =>
      exact absurd parts.keeping
        (not_keeping_of_failed (.updateSettings (.deviceConfig response.config)) (by simp)
          rfl failed)
    | adopted decoded _ settings rest =>
      obtain rfl := (rest.fetched_iff decoded _ _).mp hfetched
      cases rest with
      | deleted | deletionCrashed => simp
      | replenished nonzero | notReplenished nonzero | notReset nonzero =>
        exact absurd hzero nonzero

/-! ## Cycles with provisioning off -/

namespace Cycles

variable {initial final : Settings} {reports : List Report}

/-- As long as the server does not allow for keys and the settings are not reset, nothing is
stored but the count of failures. -/
theorem settings_of_quiet (h : Cycles config initial reports final) (off : initial.extraKeys = 0)
    (quiet : ∀ report ∈ reports, ¬ report.Enables ∧ ¬ report.Resets) :
    ∃ failures, final = { initial with failures } := by
  induction h with
  | nil => exact ⟨_, rfl⟩
  | @cons report reports final cycle _ ih =>
    obtain ⟨henables, hresets⟩ := quiet report List.mem_cons_self
    obtain ⟨-, -, -, hsettings⟩ := cycle.inert off henables
    obtain ⟨failures, hafter⟩ := hsettings hresets
    have hquiet : ∀ other ∈ reports, ¬ other.Enables ∧ ¬ other.Resets := by
      intro other hother
      exact quiet other (List.mem_cons_of_mem _ hother)
    obtain ⟨count, hfinal⟩ := ih (by rw [hafter]; exact off) hquiet
    exact ⟨count, by rw [hfinal, hafter]⟩

/-- Provisioning that is on stays on as long as the server does not forbid keys. -/
theorem stays_on (h : Cycles config initial reports final) (on : initial.extraKeys ≠ 0)
    (allowed : ∀ report ∈ reports, ¬ report.Forbids) : final.extraKeys ≠ 0 := by
  induction h with
  | nil => exact on
  | @cons report reports final cycle _ ih =>
    have hon := cycle.stays_on on (allowed report List.mem_cons_self)
    apply ih hon
    intro other hother
    exact allowed other (List.mem_cons_of_mem _ hother)

/-- Provisioning that is off is on again, as long as the server does not forbid keys anew, if and
only if the server allowed for keys or the settings were reset. -/
theorem on_iff (h : Cycles config initial reports final) (off : initial.extraKeys = 0)
    (allowed : ∀ report ∈ reports, ¬ report.Forbids) :
    final.extraKeys ≠ 0 ↔ ∃ report ∈ reports, report.Enables ∨ report.Resets := by
  induction h with
  | nil => simp [off]
  | @cons report reports final cycle rest ih =>
    have hallowed : ∀ other ∈ reports, ¬ other.Forbids := fun other hother =>
      allowed other (List.mem_cons_of_mem _ hother)
    simp only [List.mem_cons, exists_eq_or_imp]
    by_cases hon : report.after.extraKeys ≠ 0
    · exact iff_of_true (rest.stays_on hon hallowed) (.inl ((cycle.on_iff off).mp hon))
    · rw [ih (Classical.not_not.mp hon) hallowed, ← cycle.on_iff off]
      simp [hon]

end Cycles

/-! ## Inertness -/

/-- A device with provisioning off stays inert. Up to the first cycle in which the server allows
for keys or the settings are reset, no cycle calls the custodian, has anything signed or is
turned off, each cycle that has a response is completed, and nothing is stored but the count of
failures. -/
theorem cycles_inert {initial final : Settings} {earlier later : List Report}
    (h : Cycles config initial (earlier ++ report :: later) final) (off : initial.extraKeys = 0)
    (quiet : ∀ other ∈ earlier ++ [report], ¬ other.Enables ∧ ¬ other.Resets) :
    (∀ call ∈ report.calls, call.isCustodian = false ∧
      ∀ base csr challenge, call ≠ .sign base csr challenge) ∧
    report.outcome ≠ some .disabled ∧
    (∀ response, report.Receives response → report.outcome = some .completed) ∧
    ∃ failures, report.after = { initial with failures } := by
  obtain ⟨between, hearlier, hrest⟩ := h.of_append
  obtain ⟨count, rfl⟩ := hearlier.settings_of_quiet off fun other hother =>
    quiet other (List.mem_append_left _ hother)
  obtain ⟨henables, hresets⟩ := quiet report (by simp)
  generalize hbefore : { initial with failures := count } = before at hrest
  cases hrest with
  | cons cycle _ =>
    have hoff : report.before.extraKeys = 0 := by
      rw [← hbefore]
      exact off
    obtain ⟨hcalls, houtcome, hcompleted, hsettings⟩ := cycle.inert hoff henables
    obtain ⟨failures, hafter⟩ := hsettings hresets
    exact ⟨hcalls, houtcome, hcompleted, failures, by rw [hafter, ← hbefore]⟩

/-- A response of the server with a policy of one entry: so many keys are to be kept on hand. -/
def keysResponse (count : UInt8) : Bytes :=
  [0x83, 0x80, 0x40, 0xA1, 0x78, 26] ++ Utf8.encode "num_extra_attestation_keys".toList ++ [count]

/-- Settings by which no keys are to be kept on hand. -/
def turnedOff : Settings := { Settings.default with extraKeys := 0 }

/-- What the server may answer to a device with provisioning off: a failure, a response without a
policy, and one that forbids keys. -/
def silentReplies : List (Reply Bytes) :=
  [.answered (.error (TransportFault.badStatus : Fault)), .answered (.ok [0x82, 0x80, 0x40]),
    .answered (.ok (keysResponse 0))]

theorem cycles_inert_silent :
    ∃ first second third, answeredReports [] turnedOff silentReplies = [first, second, third] ∧
      third.Forbids ∧ third.outcome = some .completed ∧
      ∃ failures, third.after = { turnedOff with failures } := by
  obtain ⟨final, hcycles⟩ := exists_cycles_answered [] turnedOff silentReplies (by decide +kernel)
  have hquiet : ∀ report ∈ answeredReports [] turnedOff silentReplies,
      ¬ report.Enables ∧ ¬ report.Resets := by decide +kernel
  have hlast : ∀ report ∈ (answeredReports [] turnedOff silentReplies).drop 2, report.Forbids := by
    decide +kernel
  obtain ⟨first, second, third, hreports⟩ : ∃ first second third,
    answeredReports [] turnedOff silentReplies = [first, second, third] := ⟨_, _, _, rfl⟩
  rw [hreports] at hcycles hquiet hlast
  have hsplit : Cycles .default turnedOff ([first, second] ++ third :: []) final := hcycles
  obtain ⟨-, -, hcompleted, hsettings⟩ := cycles_inert hsplit rfl hquiet
  have hforbids : third.Forbids := hlast third List.mem_cons_self
  obtain ⟨response, hreceives, hzero⟩ := hforbids
  exact ⟨first, second, third, hreports, ⟨response, hreceives, hzero⟩,
    hcompleted response hreceives, hsettings⟩

/-! ## Deletions -/

/-- Once the keys were to be deleted, whatever came of it, the next cycle in which the server
forbids keys deletes them if and only if provisioning was turned on in between, by the server or
by a reset. Otherwise that cycle is completed without a deletion. -/
theorem cycles_delete_again_iff {initial final : Settings} {past between later : List Report}
    {first next : Report}
    (h : Cycles config initial (past ++ first :: (between ++ next :: later)) final)
    (deletes : .deleteAllKeys ∈ first.calls) (allowed : ∀ report ∈ between, ¬ report.Forbids)
    (again : next.Forbids) :
    (.deleteAllKeys ∈ next.calls ↔ ∃ report ∈ between, report.Enables ∨ report.Resets) ∧
      ((∀ report ∈ between, ¬ report.Enables ∧ ¬ report.Resets) →
        next.outcome = some .completed) := by
  obtain ⟨_, -, hrest⟩ := h.of_append
  cases hrest with
  | cons cycle hrest =>
    have hoff := cycle.off_of_deletes deletes
    obtain ⟨start, hbetween, hlast⟩ := hrest.of_append
    have hon := hbetween.on_iff hoff allowed
    cases hlast with
    | cons cycle _ =>
      refine ⟨(cycle.deletes_iff again).trans hon, ?_⟩
      intro quiet
      have hstill : next.before.extraKeys = 0 := by
        apply Classical.not_not.mp
        intro hne
        obtain ⟨report, hreport, hchange⟩ := hon.mp hne
        obtain ⟨henables, hresets⟩ := quiet report hreport
        exact hchange.elim henables hresets
      obtain ⟨-, -, hcompleted, -⟩ := cycle.inert hstill (cycle.not_enables again)
      obtain ⟨response, hreceives, -⟩ := again
      exact hcompleted response hreceives

/-- The server forbids keys, allows for three of them and forbids them again. -/
def waveringReplies : List (Reply Bytes) :=
  [.answered (.ok (keysResponse 0)), .answered (.ok (keysResponse 3)),
    .answered (.ok (keysResponse 0))]

theorem cycles_delete_again_wavering :
    ∃ first second third, answeredReports [] .default waveringReplies = [first, second, third] ∧
      .deleteAllKeys ∈ first.calls ∧ second.Enables ∧ third.Forbids ∧
      .deleteAllKeys ∈ third.calls := by
  obtain ⟨final, hcycles⟩ := exists_cycles_answered [] .default waveringReplies (by decide +kernel)
  have hfirst : ∀ report ∈ (answeredReports [] .default waveringReplies).take 1,
      .deleteAllKeys ∈ report.calls := by decide +kernel
  have hsecond : ∀ report ∈ ((answeredReports [] .default waveringReplies).drop 1).take 1,
      report.Enables ∧ ¬ report.Forbids := by decide +kernel
  have hthird :
      ∀ report ∈ (answeredReports [] .default waveringReplies).drop 2, report.Forbids := by
    decide +kernel
  obtain ⟨first, second, third, hreports⟩ : ∃ first second third,
    answeredReports [] .default waveringReplies = [first, second, third] := ⟨_, _, _, rfl⟩
  rw [hreports] at hcycles hfirst hsecond hthird
  have hdeletes : .deleteAllKeys ∈ first.calls := hfirst first List.mem_cons_self
  obtain ⟨henables, hallowed⟩ := hsecond second List.mem_cons_self
  have hforbids : third.Forbids := hthird third List.mem_cons_self
  have hsplit : Cycles .default .default ([] ++ first :: ([second] ++ third :: [])) final :=
    hcycles
  obtain ⟨hagain, -⟩ :=
    cycles_delete_again_iff hsplit hdeletes (by simpa using hallowed) hforbids
  exact ⟨first, second, third, hreports, hdeletes, henables, hforbids,
    hagain.mpr ⟨second, List.mem_cons_self, .inl henables⟩⟩

/-- The server forbids keys and forbids them again. -/
def forbiddingReplies : List (Reply Bytes) :=
  [.answered (.ok (keysResponse 0)), .answered (.ok (keysResponse 0))]

/-- A cycle whose deletion fails is turned off all the same, and though the server forbids keys
again the next one is completed without deleting them. -/
theorem cycles_delete_forgotten :
    ∃ first second final, answeredReports [] .default forbiddingReplies = [first, second] ∧
      Cycles .default .default [first, second] final ∧
      ⟨.deleteAllKeys, .failed (CustodianFault.deleteAllKeys : Fault)⟩ ∈
        first.turns.map Turn.event ∧
      first.outcome = some .disabled ∧ second.Forbids ∧ .deleteAllKeys ∉ second.calls ∧
      second.outcome = some .completed := by
  obtain ⟨final, hcycles⟩ :=
    exists_cycles_answered [] .default forbiddingReplies (by decide +kernel)
  have hfirst : ∀ report ∈ (answeredReports [] .default forbiddingReplies).take 1,
      ⟨.deleteAllKeys, .failed (CustodianFault.deleteAllKeys : Fault)⟩ ∈
        report.turns.map Turn.event ∧ report.outcome = some .disabled := by decide +kernel
  have hsecond : ∀ report ∈ (answeredReports [] .default forbiddingReplies).drop 1,
      report.Forbids ∧ .deleteAllKeys ∉ report.calls ∧ report.outcome = some .completed := by
    decide +kernel
  obtain ⟨first, second, hreports⟩ : ∃ first second,
    answeredReports [] .default forbiddingReplies = [first, second] := ⟨_, _, rfl⟩
  rw [hreports] at hcycles hfirst hsecond
  obtain ⟨hfailed, hdisabled⟩ := hfirst first List.mem_cons_self
  exact ⟨first, second, final, hreports, hcycles, hfailed, hdisabled,
    hsecond second List.mem_cons_self⟩

end KeyProvisioning.Cycle
