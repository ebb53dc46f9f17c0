import KeyProvisioning.Proofs.Cycle.Dormancy
import Mathlib.Data.List.DropRight

/-!
# The count of failures

The stored count of failures is that of the failures in a row: of those since the settings were
last reset or a cycle last replenished the pools. A reset therefore comes after exactly one
failure more than the configuration allows for. A cycle that is completed because provisioning is
off does not end the row.
-/

namespace KeyProvisioning.Cycle

variable {config : Config}

namespace Report

/-- The cycle ends with a failure that is counted. -/
def Fails (report : Report) : Prop :=
  .updateSettings .countFailure ∈ report.calls

instance (report : Report) : Decidable report.Fails :=
  inferInstanceAs (Decidable (.updateSettings .countFailure ∈ report.calls))

/-- The cycle is completed, and not because provisioning stays off. -/
def Renews (report : Report) : Prop :=
  report.outcome = some .completed ∧ ∃ policy, Adopts report.before report.turns policy

instance (report : Report) : Decidable report.Renews :=
  decidable_of_iff (report.outcome = some .completed ∧ ∃ turn ∈ report.turns,
      (turn.received? report.before.serverUrl).any fun response =>
        staysOff report.before response.config = false) <| by
    rw [any_received_iff]
    simp [Renews, Adopts, Receives]

/-- What a cycle does to the count of failures. -/
inductive Counting (config : Config) (report : Report) : Prop
  | renewed (renews : report.Renews) (fails : ¬ report.Fails) (resets : ¬ report.Resets)
      (after : report.after.failures = 0)
  | kept (renews : ¬ report.Renews) (fails : ¬ report.Fails) (resets : ¬ report.Resets)
      (after : report.after.failures = report.before.failures)
  | raised (outcome : report.outcome ≠ some .completed) (fails : report.Fails)
      (resets : ¬ report.Resets)
      (within : Settings.nextCount report.before.failures ≤ config.failureMaximum)
      (after : report.after.failures = Settings.nextCount report.before.failures)
  | reset (outcome : report.outcome ≠ some .completed) (fails : report.Fails)
      (resets : report.Resets)
      (above : config.failureMaximum < Settings.nextCount report.before.failures)
      (after : report.after.failures = 0)

/-- A cycle that is not completed does not replenish the pools. -/
theorem not_renews {report : Report} (h : report.outcome ≠ some .completed) : ¬ report.Renews :=
  fun renews => h renews.1

end Report

/-! ## One cycle -/

/-- No failure is counted before a fault is handled. -/
theorem Exit.count_not_mem {before : Settings} {turns : List Turn}
    {ending : Except Halt CycleOutcome} (h : Exit before turns ending) :
    .updateSettings .countFailure ∉ turns.map Turn.call := by
  intro hmem
  rcases h.of_mem_calls hmem with hcall | ⟨policy, hcall⟩ | hprovisions | hcall | hcall
  · cases hcall
  · cases hcall
  · exact hprovisions
  · cases hcall
  · cases hcall

/-- A policy does not touch the count of failures. -/
@[simp] theorem failures_withPolicy (before : Settings) (policy : Option DeviceConfig) :
    (withPolicy before policy).failures = before.failures := by
  cases policy <;> rfl

/-- A fault that is not counted changes nothing. One that is raises the count of failures, or
resets the settings if the count is above the maximum then. -/
theorem Closing.failures {fault : Fault} {turns : List Turn} {value : Option CycleOutcome}
    {held final : Settings} (h : Closing config fault turns value)
    (hkeeping : Keeping held turns final) :
    let calls := turns.map Turn.call
    (.updateSettings .countFailure ∉ calls ∧ .clearSettings ∉ calls ∧
      final.failures = held.failures) ∨
    (.updateSettings .countFailure ∈ calls ∧ .clearSettings ∉ calls ∧
      Settings.nextCount held.failures ≤ config.failureMaximum ∧
      final.failures = Settings.nextCount held.failures) ∨
    (.updateSettings .countFailure ∈ calls ∧ .clearSettings ∈ calls ∧
      config.failureMaximum < Settings.nextCount held.failures ∧ final.failures = 0) := by
  intro calls
  cases h with
  | uncounted =>
    cases hkeeping
    exact .inl ⟨by simp [calls], by simp [calls], rfl⟩
  | counted _ settings within =>
    obtain ⟨rfl, hnil⟩ := hkeeping.eq_of_update
    cases hnil
    exact .inr (.inl ⟨by simp [calls], by simp [calls], UInt32.not_lt.mp within, rfl⟩)
  | reset _ settings above result =>
    obtain ⟨rfl, hclear⟩ := hkeeping.eq_of_update
    rw [hclear.eq_of_clear]
    exact .inr (.inr ⟨by simp [calls], by simp [calls], above, rfl⟩)
  | notCounted | crashed => cases hkeeping.keeps _ List.mem_cons_self rfl
  | resetCrashed => cases hkeeping.keeps _ (List.mem_cons_of_mem _ List.mem_cons_self) rfl

/-- A cycle that ends with a fault or crashes is not completed. -/
theorem Aftermath.ne_completed {turns : List Turn} {value : Option CycleOutcome} {halt : Halt}
    (h : Aftermath config turns value (.error halt)) : value ≠ some .completed := by
  cases halt with
  | none =>
    rw [h.2]
    simp
  | some fault => cases h <;> simp

/-- A failure is counted when a fault is handled. -/
theorem Report.Parts.fails_iff {now : Nat} {report : Report} {answers : Answers}
    {body last : List Turn} {ending : Except Halt CycleOutcome} {mid : Settings}
    (parts : report.Parts config now answers body last ending mid) :
    report.Fails ↔ .updateSettings .countFailure ∈ last.map Turn.call := by
  rw [Fails, calls, parts.turns_eq, List.map_append, List.map_append, List.mem_append,
    List.mem_append]
  simp [parts.leaves.count_not_mem]

/-- Every cycle over a store that does not fail counts in one of these ways. -/
theorem Report.IsCycle.counting {report : Report} (h : report.IsCycle config) :
    report.Counting config := by
  obtain ⟨now, answers, body, last, ending, mid, parts⟩ := h.exists_parts
  obtain ⟨policy, hpolicy, hok, herror, -⟩ := parts.leaves.exists_policy parts.keeping
  have hrenews :
      report.Renews ↔ report.outcome = some .completed ∧ ∃ other, policy = some other := by
    simp only [Renews, parts.adopts_iff, hpolicy]
  have hfails := parts.fails_iff
  have hresets := parts.resets_iff
  have hhandles := parts.handles
  have hclosing := parts.closing
  rcases ending with (_ | fault) | outcome
  · -- after a crash nothing more is done
    obtain ⟨rfl, hvalue⟩ := hhandles
    cases hclosing
    refine .kept ?_ (by simp [hfails]) (by simp [hresets]) ?_
    · simp [hrenews, hvalue]
    · rw [herror none rfl, failures_withPolicy]
  · have houtcome := hhandles.ne_completed
    have hmid : mid.failures = report.before.failures := by
      rw [herror (some fault) rfl, failures_withPolicy]
    rcases Closing.failures hhandles hclosing with ⟨hcount, hclear, hafter⟩ |
      ⟨hcount, hclear, hwithin, hafter⟩ | ⟨hcount, hclear, habove, hafter⟩
    · exact .kept (Report.not_renews houtcome) (mt hfails.mp hcount) (mt hresets.mp hclear)
        (hafter.trans hmid)
    · rw [hmid] at hwithin hafter
      exact .raised houtcome (hfails.mpr hcount) (mt hresets.mp hclear) hwithin hafter
    · rw [hmid] at habove
      exact .reset houtcome (hfails.mpr hcount) (hresets.mpr hclear) habove hafter
  · obtain ⟨rfl, hvalue⟩ := hhandles
    cases hclosing
    have hmid := hok config outcome rfl
    have hnotFails : ¬ report.Fails := by simp [hfails]
    have hnotResets : ¬ report.Resets := by simp [hresets]
    by_cases hcompleted : outcome = .completed
    · subst hcompleted
      cases policy with
      | none => exact .kept (by simp [hrenews]) hnotFails hnotResets (by rw [hmid]; rfl)
      | some other =>
        exact .renewed (hrenews.mpr ⟨hvalue, other, rfl⟩) hnotFails hnotResets (by rw [hmid]; rfl)
    · refine .kept (by simp [hrenews, hvalue, hcompleted]) hnotFails hnotResets ?_
      rw [hmid]
      cases outcome with
      | completed => exact absurd rfl hcompleted
      | rescheduleRequested | disabled => exact failures_withPolicy _ _

/-! ## Cycles -/

/-- The cycles since the settings were last reset or a cycle last replenished the pools. -/
def currentRow (reports : List Report) : List Report :=
  reports.rtakeWhile fun report => ¬ report.Renews ∧ ¬ report.Resets

/-- How many of these cycles end with a failure that is counted. -/
def failuresOf (reports : List Report) : Nat :=
  reports.countP fun report => report.Fails

/-- A cycle that starts the count anew ends the row. -/
theorem currentRow_concat_of_ends {past : List Report} {report : Report}
    (h : report.Renews ∨ report.Resets) : currentRow (past ++ [report]) = [] := by
  rw [currentRow, List.rtakeWhile_concat_neg]
  simpa [imp_iff_not_or, or_comm] using h

/-- Any other cycle goes on with it. -/
theorem currentRow_concat {past : List Report} {report : Report} (hrenews : ¬ report.Renews)
    (hresets : ¬ report.Resets) :
    currentRow (past ++ [report]) = currentRow past ++ [report] := by
  rw [currentRow, List.rtakeWhile_concat_pos _ _ _ (by simp [hrenews, hresets]), currentRow]

theorem failuresOf_concat_of_fails {past : List Report} {report : Report} (h : report.Fails) :
    failuresOf (past ++ [report]) = failuresOf past + 1 := by
  simp [failuresOf, h]

theorem failuresOf_concat {past : List Report} {report : Report} (h : ¬ report.Fails) :
    failuresOf (past ++ [report]) = failuresOf past := by
  simp [failuresOf, h]

/-- The count of failures is that of the current row, and it is not above the maximum. -/
theorem Cycles.failures {initial final : Settings} {reports : List Report}
    (h : Cycles config initial reports final) (fresh : initial.failures = 0) :
    final.failures.toNat = min (failuresOf (currentRow reports)) (UInt32.size - 1) ∧
      final.failures ≤ config.failureMaximum := by
  -- the row is read from its end, so the cycles are taken away from the end
  induction reports using List.reverseRecOn generalizing final with
  | nil =>
    rw [h.eq_of_nil, fresh]
    exact ⟨rfl, UInt32.zero_le⟩
  | append_singleton past report ih =>
    obtain ⟨between, hpast, hreport⟩ := h.of_append
    obtain ⟨hcount, hwithin⟩ := ih hpast
    cases hreport with
    | cons cycle rest =>
      rw [rest.eq_of_nil]
      cases cycle.counting with
      | renewed renews fails resets after =>
        rw [currentRow_concat_of_ends (.inl renews), after]
        exact ⟨rfl, UInt32.zero_le⟩
      | kept renews fails resets after =>
        rw [currentRow_concat renews resets, failuresOf_concat fails, after]
        exact ⟨hcount, hwithin⟩
      | raised outcome fails resets within after =>
        rw [currentRow_concat (Report.not_renews outcome) resets, failuresOf_concat_of_fails fails,
          after, Settings.toNat_nextCount, hcount]
        exact ⟨by omega, within⟩
      | reset outcome fails resets above after =>
        rw [currentRow_concat_of_ends (.inr resets), after]
        exact ⟨rfl, UInt32.zero_le⟩

/-- Settings are reset by the first failure above the maximum: of the cycles since the last
reset, and since a cycle last replenished the pools, exactly one more than the maximum end with a
failure that is counted. Of the cycles that are completed, one that replenishes the pools starts
the count anew, and one that leaves provisioning off leaves it as it is. -/
theorem cycles_reset_after_failures {initial final : Settings} {past later : List Report}
    {report : Report} (h : Cycles config initial (past ++ report :: later) final)
    (fresh : initial.failures = 0) :
    (report.Resets →
      failuresOf (currentRow past ++ [report]) = config.failureMaximum.toNat + 1) ∧
    (report.outcome = some .completed →
      report.after.failures = if report.Renews then 0 else report.before.failures) := by
  obtain ⟨between, hpast, hreport⟩ := h.of_append
  obtain ⟨hcount, hwithin⟩ := hpast.failures fresh
  cases hreport with
  | cons cycle _ =>
    cases cycle.counting with
    | renewed renews fails resets after =>
      exact ⟨fun hresets => absurd hresets resets, fun _ => by rw [if_pos renews, after]⟩
    | kept renews fails resets after =>
      exact ⟨fun hresets => absurd hresets resets, fun _ => by rw [if_neg renews, after]⟩
    | raised outcome fails resets within after =>
      exact ⟨fun hresets => absurd hresets resets, fun hcompleted => absurd hcompleted outcome⟩
    | reset outcome fails resets above after =>
      refine ⟨fun _ => ?_, fun hcompleted => absurd hcompleted outcome⟩
      rw [UInt32.lt_iff_toNat_lt, Settings.toNat_nextCount] at above
      rw [UInt32.le_iff_toNat_le] at hwithin
      rw [failuresOf_concat_of_fails fails]
      omega

/-- A failure of the server. -/
def serverFailure : Reply Bytes :=
  .answered (.error (TransportFault.badStatus : Fault))

/-- A failure, a response without a policy, and failures up to the first above the maximum. -/
def recoveringReplies : List (Reply Bytes) :=
  [serverFailure, .answered (.ok [0x82, 0x80, 0x40])] ++ List.replicate 6 serverFailure

/-- One component. -/
def oneComponent : List Implementation := [⟨.trustedEnvironment, 1⟩]

theorem cycles_reset_after_failures_recovering :
    ∃ past report, answeredReports oneComponent .default recoveringReplies = past ++ [report] ∧
      past.length = 7 ∧ report.Resets ∧ failuresOf (currentRow past ++ [report]) = 6 := by
  obtain ⟨final, hcycles⟩ :=
    exists_cycles_answered oneComponent .default recoveringReplies (by decide +kernel)
  have hlast : ∀ report ∈ (answeredReports oneComponent .default recoveringReplies).drop 7,
      report.Resets := by decide +kernel
  obtain ⟨past, report, hreports, hlength⟩ : ∃ past report,
      answeredReports oneComponent .default recoveringReplies = past ++ [report] ∧
      past.length = 7 := ⟨_, _, (List.take_append_drop 7 _).symm, rfl⟩
  rw [hreports, ← hlength, List.drop_left] at hlast
  rw [hreports] at hcycles
  have hresets : report.Resets := hlast report List.mem_cons_self
  obtain ⟨hrow, -⟩ := cycles_reset_after_failures hcycles rfl
  exact ⟨past, report, hreports, hlength, hresets, hrow hresets⟩

/-- Failures up to the maximum, a response without a policy, and one more failure. -/
def interruptedReplies : List (Reply Bytes) :=
  List.replicate 5 serverFailure ++ [.answered (.ok [0x82, 0x80, 0x40]), serverFailure]

/-- With provisioning off, a completed cycle does not start the count anew: a single failure
after it resets the settings, though the configuration allows for five. -/
theorem cycles_reset_after_one_failure :
    ∃ past idle report final,
      answeredReports [] turnedOff interruptedReplies = past ++ [idle, report] ∧
      Cycles .default turnedOff (past ++ [idle, report]) final ∧
      idle.outcome = some .completed ∧ report.Resets ∧ report.after.extraKeys = 6 := by
  obtain ⟨final, hcycles⟩ :=
    exists_cycles_answered [] turnedOff interruptedReplies (by decide +kernel)
  have hidle : ∀ report ∈ ((answeredReports [] turnedOff interruptedReplies).drop 5).take 1,
      report.outcome = some .completed := by decide +kernel
  have hlast : ∀ report ∈ ((answeredReports [] turnedOff interruptedReplies).drop 5).drop 1,
      report.Resets ∧ report.after.extraKeys = 6 := by decide +kernel
  obtain ⟨past, idle, report, hreports, hlength⟩ : ∃ past idle report,
      answeredReports [] turnedOff interruptedReplies = past ++ [idle, report] ∧
      past.length = 5 := ⟨_, _, _, (List.take_append_drop 5 _).symm, rfl⟩
  rw [hreports] at hcycles
  rw [hreports, ← hlength, List.drop_left] at hidle hlast
  exact ⟨past, idle, report, final, hreports, hcycles, hidle idle List.mem_cons_self,
    hlast report List.mem_cons_self⟩

end KeyProvisioning.Cycle
