import KeyProvisioning.Proofs.Cycle.FailureCount

/-!
# The period of the count of failures

Over a store that does not fail, cycles that fail one after another raise the stored count by one
each until it would pass the maximum, and the cycle in which it would resets all settings. The
count is therefore periodic, unless the maximum is the greatest count there is: then it stays
there. The count never passes the maximum, even where calls of the store fail, as long as no
reset does.
-/

namespace KeyProvisioning

variable {σ : Type} {surroundings : Surroundings σ} {stored : σ → Settings}

/-! ## Stores whose calls may fail -/

/-- A call of the store that fails leaves the settings stored in it as they are. -/
def Surroundings.Retains (surroundings : Surroundings σ) (stored : σ → Settings) : Prop :=
  ∀ {call : Call} {state state' : σ} {reply : Reply call.Answer}, call.isStore = true →
    reply.callEnd ≠ .succeeded → surroundings.reply call state = (reply, state') →
      stored state' = stored state

/-- No call but that which counts a failure leaves the count above a bound it was within. -/
theorem Surroundings.Keeps.failures_le (keeps : surroundings.Keeps stored)
    (retains : surroundings.Retains stored) {call : Call} {state state' : σ}
    {reply : Reply call.Answer} {bound : UInt32}
    (replied : surroundings.reply call state = (reply, state'))
    (other : call ≠ .updateSettings .countFailure) (within : (stored state).failures ≤ bound) :
    (stored state').failures ≤ bound := by
  cases hstore : call.isStore with
  | false =>
    rw [keeps.other hstore replied]
    exact within
  | true =>
    by_cases hended : reply.callEnd = .succeeded
    · obtain ⟨answer, rfl⟩ := Reply.exists_eq_of_succeeded hended
      cases call with
      | loadSettings =>
        rw [(keeps.load replied).2]
        exact within
      | updateSettings change =>
        rw [(keeps.update replied).2]
        cases change with
        | deviceConfig policy => exact within
        | countFailure => exact absurd rfl other
        | resetFailures => exact UInt32.zero_le
      | clearSettings =>
        rw [keeps.clear replied]
        exact UInt32.zero_le
      | _ => cases hstore
    · rw [retains hstore hended replied]
      exact within

theorem Surroundings.Path.failures_le (keeps : surroundings.Keeps stored)
    (retains : surroundings.Retains stored) {state final : σ} {turns : List Turn} {bound : UInt32}
    (path : surroundings.Path state turns final)
    (others : .updateSettings .countFailure ∉ turns.map Turn.call)
    (within : (stored state).failures ≤ bound) : (stored final).failures ≤ bound := by
  induction path with
  | nil => exact within
  | cons replied rest ih =>
    rw [List.map_cons, List.mem_cons, not_or] at others
    apply ih others.2
    exact keeps.failures_le retains replied (Ne.symm others.1) within

/-- A store in memory is as it was after a call that failed. -/
theorem MemoryStore.eq_of_reply_failed {store store' : MemoryStore} {call : Call}
    {given reply : Reply call.Answer} (h : store.reply call given = (reply, store'))
    (failed : reply.callEnd ≠ .succeeded) : store' = store := by
  rcases given with (fault | answer) | _
  · cases call <;> exact (congrArg Prod.snd h).symm
  · cases call with
    | updateSettings change =>
      cases hpoisoned : store.poisoned with
      | true =>
        simp only [MemoryStore.reply, update, hpoisoned, if_true] at h
        exact (congrArg Prod.snd h).symm
      | false =>
        simp only [MemoryStore.reply, update, hpoisoned, Bool.false_eq_true, if_false] at h
        rw [← (Prod.mk.inj h).1] at failed
        exact absurd rfl failed
    | clearSettings =>
      cases hpoisoned : store.poisoned with
      | true =>
        simp only [MemoryStore.reply, clear, hpoisoned, if_true] at h
        exact (congrArg Prod.snd h).symm
      | false =>
        simp only [MemoryStore.reply, clear, hpoisoned, Bool.false_eq_true, if_false] at h
        rw [← (Prod.mk.inj h).1] at failed
        exact absurd rfl failed
    | _ => exact (congrArg Prod.snd h).symm
  · cases call <;> exact (congrArg Prod.snd h).symm

theorem Surroundings.retains_withMemory (remote : Surroundings σ) :
    remote.withMemory.Retains fun state => state.2.settings := by
  intro call state state' reply _ failed h
  obtain ⟨hreply, hstate⟩ := Prod.mk.inj h
  subst hstate
  have hstore := MemoryStore.eq_of_reply_failed (Prod.ext hreply rfl) failed
  exact congrArg MemoryStore.settings hstore

namespace Cycle

variable {config : Config}

/-- The settings are come by without counting a failure. -/
theorem Opening.count_not_mem {turns : List Turn} {ending : Except Halt Settings}
    (h : Opening turns ending) : .updateSettings .countFailure ∉ turns.map Turn.call := by
  cases h <;> simp

/-- Up to its first fault a cycle does not count a failure. -/
theorem attempt_count_not_mem {mayStop : Prop} {now : Nat} {turns : List Turn}
    {ending : Except Halt CycleOutcome} (h : (attempt config now).Goes mayStop turns ending) :
    .updateSettings .countFailure ∉ turns.map Turn.call := by
  rcases attempt_exit h with ⟨halt, hopening, rfl⟩ | ⟨before, opening, body, hopening, hexit, rfl⟩
  · exact hopening.count_not_mem
  · rw [List.map_append, List.mem_append, not_or]
    exact ⟨hopening.count_not_mem, hexit.count_not_mem⟩

/-- Handling a fault leaves the count within the maximum, unless a reset fails. -/
theorem Closing.failures_le (keeps : surroundings.Keeps stored)
    (retains : surroundings.Retains stored) {fault : Fault} {turns : List Turn}
    {value : Option CycleOutcome} {state final : σ} (h : Closing config fault turns value)
    (path : surroundings.Path state turns final)
    (resets : ∀ turn ∈ turns, turn.call = .clearSettings → turn.event.callEnd = .succeeded)
    (within : (stored state).failures ≤ config.failureMaximum) :
    (stored final).failures ≤ config.failureMaximum := by
  cases h with
  | uncounted =>
    cases path
    exact within
  | counted _ settings hwithin =>
    cases path with
    | cons replied rest =>
      cases rest
      obtain ⟨rfl, hstored⟩ := keeps.update replied
      rw [hstored]
      exact UInt32.not_lt.mp hwithin
  | reset _ settings _ result =>
    cases path with
    | cons _ rest =>
      cases rest with
      | cons replied rest =>
        cases rest
        have hended : (Reply.answered result).callEnd = .succeeded :=
          resets ⟨.clearSettings, .answered result⟩ (by simp) rfl
        obtain ⟨_, hanswer⟩ := Reply.exists_eq_of_succeeded hended
        rw [hanswer] at replied
        rw [keeps.clear replied]
        exact UInt32.zero_le
  | notCounted | crashed =>
    cases path with
    | cons replied rest =>
      cases rest
      rw [retains rfl (by simp [Reply.callEnd]) replied]
      exact within
  | resetCrashed => cases resets ⟨.clearSettings, .crashed⟩ (by simp) rfl

/-- A cycle leaves the count within the maximum however it ends, unless a reset fails. -/
theorem run_failures_le (keeps : surroundings.Keeps stored) (retains : surroundings.Retains stored)
    (now : Nat) (state : σ) (within : (stored state).failures ≤ config.failureMaximum)
    (resets : ∀ event ∈ ((run config now).run surroundings state).events,
      event.call = .clearSettings → event.callEnd = .succeeded) :
    (stored ((run config now).run surroundings state).state).failures ≤ config.failureMaximum := by
  obtain ⟨ending, last, -, hgoes, hlast, hturns⟩ :=
    run_course surroundings (fun _ _ => trivial) config now state
  have hpath := Dialogue.path_run surroundings (run config now) state
  rw [hturns] at hpath
  obtain ⟨between, hfirst, hrest⟩ := hpath.split
  have hbetween : (stored between).failures ≤ config.failureMaximum :=
    hfirst.failures_le keeps retains (attempt_count_not_mem hgoes) within
  rw [Dialogue.events_run, hturns] at resets
  rcases ending with (_ | fault) | outcome
  · obtain ⟨rfl, -⟩ := hlast
    cases hrest
    exact hbetween
  · refine Closing.failures_le keeps retains hlast hrest (fun turn hturn => ?_) hbetween
    exact resets turn.event (List.mem_map_of_mem (List.mem_append_right _ hturn))
  · obtain ⟨rfl, -⟩ := hlast
    cases hrest
    exact hbetween

/-! ## Cycles that fail -/

/-- A report of a cycle over a store that does not fail, which goes up to a fault that is
counted. -/
inductive Report.IsFailure (config : Config) : Report → Prop
  | of_run {σ : Type} {surroundings : Surroundings σ} {stored : σ → Settings}
      (keeps : surroundings.Keeps stored) (now : Nat) (state : σ)
      (stores : (ofRun surroundings stored config now state).Stores) {fault : Fault}
      (ends : ((attempt config now).run.run surroundings state).value = some (.error fault))
      (counted : fault.counted = true) :
      IsFailure config (ofRun surroundings stored config now state)

/-- A cycle counts a failure if and only if it goes up to a fault that is counted. -/
theorem ofRun_fails_iff {now : Nat} {state : σ} :
    (Report.ofRun surroundings stored config now state).Fails ↔ ∃ fault,
      ((attempt config now).run.run surroundings state).value = some (.error fault) ∧
        fault.counted = true := by
  obtain ⟨ending, last, hvalue, hgoes, hlast, hturns⟩ :=
    run_course surroundings (fun _ _ => trivial) config now state
  have hfails : (Report.ofRun surroundings stored config now state).Fails ↔
      .updateSettings .countFailure ∈ last.map Turn.call := by
    rw [Report.Fails, Report.calls, Report.ofRun, hturns, List.map_append, List.mem_append]
    exact or_iff_right (attempt_count_not_mem hgoes)
  rw [hfails, ← hvalue]
  generalize ((run config now).run surroundings state).value = value at hlast
  rcases ending with (_ | fault) | outcome
  · obtain ⟨rfl, -⟩ := hlast
    simp [Halt.valueOf]
  · simp only [Halt.valueOf, Option.some.injEq, Except.error.injEq, exists_eq_left']
    cases hlast with
    | uncounted huncounted => simp [huncounted]
    | counted hcounted | reset hcounted | notCounted hcounted | crashed hcounted
    | resetCrashed hcounted => simp [hcounted]
  · obtain ⟨rfl, -⟩ := hlast
    simp [Halt.valueOf]

/-- Cycles of one provisioner that count a failure fail. -/
theorem isFailure_of_mem_ofRuns (keeps : surroundings.Keeps stored) {times : List Nat} {state : σ}
    (stores : ∀ report ∈ Report.ofRuns surroundings stored config times state, report.Stores)
    {report : Report} (hreport : report ∈ Report.ofRuns surroundings stored config times state)
    (fails : report.Fails) : report.IsFailure config := by
  induction times generalizing state with
  | nil => cases hreport
  | cons now times ih =>
    rw [Report.ofRuns] at hreport stores
    rcases List.mem_cons.mp hreport with rfl | hreport
    · obtain ⟨fault, ends, counted⟩ := ofRun_fails_iff.mp fails
      exact .of_run keeps now state (stores _ List.mem_cons_self) ends counted
    · exact ih (fun other hother => stores other (List.mem_cons_of_mem _ hother)) hreport

namespace Report

variable {report : Report}

theorem IsFailure.isCycle (h : report.IsFailure config) : report.IsCycle config := by
  cases h with
  | of_run keeps now state stores => exact .of_run keeps now state stores

theorem IsFailure.fails (h : report.IsFailure config) : report.Fails := by
  cases h with
  | of_run _ _ _ _ ends counted => exact ofRun_fails_iff.mpr ⟨_, ends, counted⟩

/-- A cycle that fails raises the count, unless the count would pass the maximum: then the
settings are reset. -/
theorem IsFailure.raised_or_reset (h : report.IsFailure config) :
    (¬ report.Resets ∧ Settings.nextCount report.before.failures ≤ config.failureMaximum ∧
      report.after.failures = Settings.nextCount report.before.failures) ∨
    (report.Resets ∧ config.failureMaximum < Settings.nextCount report.before.failures ∧
      report.after.failures = 0) := by
  cases h.isCycle.counting with
  | renewed _ fails | kept _ fails => exact absurd h.fails fails
  | raised _ _ resets within after => exact .inl ⟨resets, within, after⟩
  | reset _ _ resets above after => exact .inr ⟨resets, above, after⟩

/-- Where there are counts above the maximum, a failure moves the count on to the next
remainder. -/
theorem IsFailure.period (h : report.IsFailure config)
    (room : config.failureMaximum.toNat < UInt32.size - 1)
    (within : report.before.failures ≤ config.failureMaximum) :
    (report.Resets ↔ config.failureMaximum.toNat + 1 ∣ report.before.failures.toNat + 1) ∧
      report.after.failures.toNat =
        (report.before.failures.toNat + 1) % (config.failureMaximum.toNat + 1) := by
  have hwithin := UInt32.le_iff_toNat_le.mp within
  have hnext := Settings.toNat_nextCount report.before.failures
  rcases h.raised_or_reset with ⟨hresets, hbelow, hafter⟩ | ⟨hresets, habove, hafter⟩
  · rw [UInt32.le_iff_toNat_le, hnext] at hbelow
    have hcount : report.before.failures.toNat + 1 < config.failureMaximum.toNat + 1 := by omega
    constructor
    · refine iff_of_false hresets fun hdvd => ?_
      exact Nat.not_lt.mpr (Nat.le_of_dvd (Nat.succ_pos _) hdvd) hcount
    · rw [hafter, hnext, Nat.mod_eq_of_lt hcount]
      omega
  · rw [UInt32.lt_iff_toNat_lt, hnext] at habove
    have hcount : report.before.failures.toNat = config.failureMaximum.toNat := by omega
    rw [hafter, hcount, Nat.mod_self]
    exact ⟨iff_of_true hresets (Nat.dvd_refl _), rfl⟩

/-- Where there are none, nothing resets the settings. -/
theorem IsCycle.not_resets (h : report.IsCycle config)
    (full : config.failureMaximum.toNat = UInt32.size - 1) : ¬ report.Resets := by
  cases h.counting with
  | renewed _ _ resets | kept _ _ resets | raised _ _ resets => exact resets
  | reset _ _ _ above =>
    rw [UInt32.lt_iff_toNat_lt, Settings.toNat_nextCount] at above
    omega

end Report

namespace Cycles

variable {initial final : Settings} {reports : List Report}

/-- Below the greatest maximum the count is that of all failures, up to whole periods. -/
theorem failures_eq_mod (h : Cycles config initial reports final)
    (room : config.failureMaximum.toNat < UInt32.size - 1)
    (within : initial.failures ≤ config.failureMaximum)
    (failing : ∀ report ∈ reports, report.IsFailure config) :
    final.failures.toNat =
      (initial.failures.toNat + reports.length) % (config.failureMaximum.toNat + 1) := by
  induction h with
  | nil =>
    rw [List.length_nil, Nat.add_zero, Nat.mod_eq_of_lt]
    exact Nat.lt_succ_of_le (UInt32.le_iff_toNat_le.mp within)
  | @cons report reports final cycle rest ih =>
    obtain ⟨-, hafter⟩ := (failing report List.mem_cons_self).period room within
    have hstill : report.after.failures ≤ config.failureMaximum := by
      rw [UInt32.le_iff_toNat_le, hafter]
      exact Nat.le_of_lt_succ (Nat.mod_lt _ (Nat.succ_pos _))
    have hrest := ih hstill fun other hother => failing other (List.mem_cons_of_mem _ hother)
    calc
      final.failures.toNat
        = (report.after.failures.toNat + reports.length) %
            (config.failureMaximum.toNat + 1) := hrest
      _ = (report.before.failures.toNat + 1 + reports.length) %
            (config.failureMaximum.toNat + 1) := by rw [hafter, Nat.mod_add_mod]
      _ = (report.before.failures.toNat + (report :: reports).length) %
            (config.failureMaximum.toNat + 1) := by
              rw [List.length_cons, Nat.add_assoc, Nat.add_comm 1]

/-- At the greatest maximum the count stays there once it is reached. -/
theorem failures_eq_min (h : Cycles config initial reports final)
    (full : config.failureMaximum.toNat = UInt32.size - 1)
    (failing : ∀ report ∈ reports, report.IsFailure config) :
    final.failures.toNat = min (initial.failures.toNat + reports.length) (UInt32.size - 1) := by
  induction h with
  | nil settings =>
    have hlt := settings.failures.toNat_lt
    have hsize : UInt32.size = 2 ^ 32 := rfl
    rw [List.length_nil]
    omega
  | @cons report reports final cycle rest ih =>
    have hrest := ih fun other hother => failing other (List.mem_cons_of_mem _ hother)
    rcases (failing report List.mem_cons_self).raised_or_reset with
      ⟨-, -, hafter⟩ | ⟨hresets, -, -⟩
    · rw [hrest, hafter, Settings.toNat_nextCount, List.length_cons]
      omega
    · exact absurd hresets (cycle.not_resets full)

end Cycles

/-- The count of failures in closed form. After cycles that all fail it is the count at the
beginning and the number of the cycles, modulo one more than the maximum, and the settings are
reset to the defaults exactly by the cycles that complete a period. A count within the maximum
stays within it, even if calls of the store fail, unless a reset fails. If the maximum is the
greatest count, the count stays there and nothing is ever reset. -/
theorem cycles_failures_period (config : Config) :
    (∀ {initial final : Settings} {reports : List Report}, Cycles config initial reports final →
      initial.failures ≤ config.failureMaximum →
      (∀ report ∈ reports, report.IsFailure config) →
      config.failureMaximum.toNat < UInt32.size - 1 →
      final.failures.toNat =
        (initial.failures.toNat + reports.length) % (config.failureMaximum.toNat + 1) ∧
      ∀ past report later, reports = past ++ report :: later →
        (report.Resets ↔
          config.failureMaximum.toNat + 1 ∣ initial.failures.toNat + (past.length + 1)) ∧
        (report.Resets → report.after = .default)) ∧
    (∀ {σ : Type} {surroundings : Surroundings σ} {stored : σ → Settings},
      surroundings.Keeps stored → surroundings.Retains stored → ∀ (now : Nat) (state : σ),
      (stored state).failures ≤ config.failureMaximum →
      (∀ event ∈ ((run config now).run surroundings state).events,
        event.call = .clearSettings → event.callEnd = .succeeded) →
      (stored ((run config now).run surroundings state).state).failures ≤ config.failureMaximum) ∧
    (config.failureMaximum.toNat = UInt32.size - 1 →
      ∀ {initial final : Settings} {reports : List Report}, Cycles config initial reports final →
      (∀ report ∈ reports, ¬ report.Resets) ∧
      ((∀ report ∈ reports, report.IsFailure config) → final.failures.toNat =
        min (initial.failures.toNat + reports.length) (UInt32.size - 1))) := by
  refine ⟨?_, ?_, ?_⟩
  · intro initial final reports h within failing room
    refine ⟨h.failures_eq_mod room within failing, ?_⟩
    rintro past report later rfl
    obtain ⟨between, hpast, hreport⟩ := h.of_append
    have hbetween := hpast.failures_eq_mod room within fun other hother =>
      failing other (List.mem_append_left _ hother)
    have hstill : between.failures ≤ config.failureMaximum := by
      rw [UInt32.le_iff_toNat_le, hbetween]
      exact Nat.le_of_lt_succ (Nat.mod_lt _ (Nat.succ_pos _))
    have hfailure : report.IsFailure config := failing report (by simp)
    cases hreport with
    | cons cycle _ =>
      obtain ⟨hresets, -⟩ := hfailure.period room hstill
      obtain ⟨-, -, hdefault, -⟩ := cycle.settings
      refine ⟨?_, hdefault⟩
      rw [hresets, hbetween, Nat.dvd_iff_mod_eq_zero, Nat.mod_add_mod, Nat.dvd_iff_mod_eq_zero,
        Nat.add_assoc]
  · intro σ surroundings stored keeps retains now state within resets
    exact run_failures_le keeps retains now state within resets
  · intro full initial final reports h
    refine ⟨fun report hreport => ?_, h.failures_eq_min full⟩
    exact (h.isCycle_of_mem report hreport).not_resets full

/-- What a server may answer that makes cycles fail for different reasons: a failure, no CBOR at
all, a policy for which there is no component, and another failure. -/
def failingReplies : List (Reply Bytes) :=
  [serverFailure, .answered (.ok [0xFF]), .answered (.ok (keysResponse 3)), serverFailure]

/-- The reports of cycles that all fail so, with a maximum and from a count of failures. -/
def failingReports (maximum count : UInt32) : List Report :=
  Report.ofRuns (answering []).withMemory (·.2.settings)
    { Config.default with failureMaximum := maximum } [0, 1, 2, 3]
    (failingReplies, .new { Settings.default with failures := count })

/-- From a count of three with a maximum of five, the third failure resets the settings. At the
greatest count it stays there. A store that is out of reach keeps its count. -/
theorem cycles_failures_period_failing :
    (∃ past report later final, failingReports 5 3 = past ++ report :: later ∧ past.length = 2 ∧
      Cycles .default { Settings.default with failures := 3 } (past ++ report :: later) final ∧
      report.Resets ∧ report.after = .default ∧ final.failures.toNat = 1) ∧
    (∃ final, final.failures.toNat = UInt32.size - 1 ∧
      Cycles { Config.default with failureMaximum := 4294967295 }
        { Settings.default with failures := 4294967294 }
        (failingReports 4294967295 4294967294) final) ∧
    ((run .default 0).run (answering []).withMemory
        (failingReplies,
          ⟨{ Settings.default with failures := 5 }, true⟩)).state.2.settings.failures ≤
      Config.default.failureMaximum := by
  have hkeeps := Surroundings.keeps_withMemory (answering [])
  refine ⟨?_, ?_, ?_⟩
  · have hstores : ∀ report ∈ failingReports 5 3, report.Stores := by decide +kernel
    have hfails : ∀ report ∈ failingReports 5 3, report.Fails := by decide +kernel
    obtain ⟨final, hcycles⟩ := exists_cycles_ofRuns hkeeps .default [0, 1, 2, 3]
      (failingReplies, .new { Settings.default with failures := 3 }) hstores
    obtain ⟨past, report, later, hreports, hlength⟩ : ∃ past report later,
      failingReports 5 3 = past ++ report :: later ∧ past.length = 2 := ⟨[_, _], _, [_], rfl, rfl⟩
    obtain ⟨hcount, hsplit⟩ := (cycles_failures_period .default).1 hcycles (by decide)
      (fun other hother => isFailure_of_mem_ofRuns hkeeps hstores hother (hfails other hother))
      (by decide)
    obtain ⟨hresets, hdefault⟩ := hsplit past report later hreports
    have hreset : report.Resets := hresets.mpr (by rw [hlength]; decide)
    refine ⟨past, report, later, final, hreports, hlength, ?_, hreset, hdefault hreset, hcount⟩
    rw [← hreports]
    exact hcycles
  · have hstores : ∀ report ∈ failingReports 4294967295 4294967294, report.Stores := by
      decide +kernel
    have hfails : ∀ report ∈ failingReports 4294967295 4294967294, report.Fails := by
      decide +kernel
    obtain ⟨final, hcycles⟩ := exists_cycles_ofRuns hkeeps _ [0, 1, 2, 3]
      (failingReplies, .new { Settings.default with failures := 4294967294 }) hstores
    obtain ⟨-, hcount⟩ := (cycles_failures_period _).2.2 rfl hcycles
    refine ⟨final, ?_, hcycles⟩
    exact hcount fun other hother =>
      isFailure_of_mem_ofRuns hkeeps hstores hother (hfails other hother)
  · exact (cycles_failures_period .default).2.1 hkeeps (Surroundings.retains_withMemory _) 0
      (failingReplies, ⟨{ Settings.default with failures := 5 }, true⟩) (by decide)
      (by decide +kernel)

end Cycle

end KeyProvisioning
