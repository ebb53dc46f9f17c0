import KeyProvisioning.Cycle.Job
import KeyProvisioning.Proofs.Cycle.Crash
import KeyProvisioning.Proofs.Stop.Handles

/-!
# Jobs and cycles

A job does what a cycle with a fresh stop signal does, however its thread takes turns with its
owner and with those who raise older signals. Its thread ends; a stop inside a call is seen as if
the call itself raised the signal.
-/

namespace KeyProvisioning

/-! ## The thread goes on -/

namespace Job

section Thread

variable {σ : Type} {surroundings : Surroundings σ} {job : Job σ}

/-- Whether the thread's signal is raised. -/
def isStopped (job : Job σ) : Bool :=
  job.signals.isStopped job.watched

@[simp] theorem after_nil : job.after surroundings [] = job := rfl

@[simp] theorem after_cons (act : JobAct) (acts : List JobAct) :
    job.after surroundings (act :: acts) =
      (job.act surroundings act).after surroundings acts := rfl

theorem after_append (first rest : List JobAct) :
    job.after surroundings (first ++ rest) =
      (job.after surroundings first).after surroundings rest :=
  List.foldl_append

theorem work_finish {value : CycleOutcome} (h : job.worker = .running (.finish value)) :
    job.work surroundings = { job with worker := .returned value } := by
  simp only [work, h]

theorem work_ask {call : Call} {next : Except Fault call.Answer → Dialogue CycleOutcome}
    (h : job.worker = .running (.ask call next)) :
    job.work surroundings = { job with worker := .calling call next } := by
  simp only [work, h]

theorem work_watch {millis : UInt64} {next : Bool → Dialogue CycleOutcome}
    (h : job.worker = .running (.watch millis next)) :
    job.work surroundings = { job with worker := .running (next job.isStopped) } := by
  simp only [work, h, isStopped]

theorem work_answered {call : Call} {next : Except Fault call.Answer → Dialogue CycleOutcome}
    {result : Except Fault call.Answer} {state : σ} (h : job.worker = .calling call next)
    (replied : surroundings.reply call job.state = (.answered result, state)) :
    job.work surroundings =
      { job with
        worker := .running (next result)
        state
        events := job.events ++ [⟨call, (Reply.answered result).callEnd⟩] } := by
  simp only [work, h, replied]

theorem work_crashed {call : Call} {next : Except Fault call.Answer → Dialogue CycleOutcome}
    {state : σ} (h : job.worker = .calling call next)
    (replied : surroundings.reply call job.state = (.crashed, state)) :
    job.work surroundings =
      { job with worker := .panicked, state, events := job.events ++ [⟨call, .crashed⟩] } := by
  simp only [work, h, replied]

theorem work_of_isFinished (surroundings : Surroundings σ) (h : job.isFinished = true) :
    job.work surroundings = job := by
  unfold isFinished at h
  unfold work
  cases hworker : job.worker with
  | running | calling => simp [hworker] at h
  | returned | panicked => rfl

/-- Nothing but the thread itself changes it, or what its collaborators keep. -/
theorem act_of_ne_work (surroundings : Surroundings σ) (job : Job σ) {act : JobAct}
    (h : act ≠ .work) :
    (job.act surroundings act).worker = job.worker ∧
      (job.act surroundings act).state = job.state := by
  cases act with
  | work => exact absurd rfl h
  | stop | raise => exact ⟨rfl, rfl⟩

/-- An ended thread stays so. -/
theorem isFinished_after (h : job.isFinished = true) (acts : List JobAct) :
    (job.after surroundings acts).isFinished = true := by
  induction acts generalizing job with
  | nil => exact h
  | cons act acts ih =>
    refine ih ?_
    cases act with
    | work =>
      change (job.work surroundings).isFinished = true
      rw [work_of_isFinished surroundings h]
      exact h
    | stop | raise => exact h

/-- The thread ends within so many of its steps, whatever happens in between. -/
def EndsWithin (surroundings : Surroundings σ) (worker : Worker CycleOutcome) (state : σ)
    (steps : Nat) : Prop :=
  ∀ job : Job σ, job.worker = worker → job.state = state → ∀ acts : List JobAct,
    steps ≤ acts.count .work → (job.after surroundings acts).isFinished = true

/-- A thread that ends after its next step ends one step later. -/
theorem endsWithin_succ {worker : Worker CycleOutcome} {state : σ} {steps : Nat}
    (step : ∀ job : Job σ, job.worker = worker → job.state = state →
      EndsWithin surroundings (job.work surroundings).worker (job.work surroundings).state steps) :
    EndsWithin surroundings worker state (steps + 1) := by
  intro job hworker hstate acts hcount
  induction acts generalizing job with
  | nil => simp at hcount
  | cons act acts ih =>
    by_cases hwork : act = .work
    · subst hwork
      rw [List.count_cons_self] at hcount
      exact step job hworker hstate _ rfl rfl acts (Nat.le_of_succ_le_succ hcount)
    · rw [List.count_cons_of_ne hwork] at hcount
      obtain ⟨hsame, hkept⟩ := act_of_ne_work surroundings job hwork
      exact ih _ (hsame.trans hworker) (hkept.trans hstate) hcount

theorem EndsWithin.mono {worker : Worker CycleOutcome} {state : σ} {steps more : Nat}
    (h : EndsWithin surroundings worker state steps) (hle : steps ≤ more) :
    EndsWithin surroundings worker state more :=
  fun job hworker hstate acts hcount => h job hworker hstate acts (Nat.le_trans hle hcount)

/-- Every thread ends. -/
theorem exists_endsWithin (surroundings : Surroundings σ) (dialogue : Dialogue CycleOutcome)
    (state : σ) : ∃ steps, EndsWithin surroundings (.running dialogue) state steps := by
  have hended {worker : Worker CycleOutcome} (state : σ)
      (h : ∀ job : Job σ, job.worker = worker → job.isFinished = true) :
      EndsWithin surroundings worker state 0 :=
    fun job hworker _ acts _ => isFinished_after (h job hworker) acts
  induction dialogue generalizing state with
  | finish value =>
    refine ⟨1, endsWithin_succ fun job hworker hstate => ?_⟩
    rw [work_finish hworker]
    exact hended _ fun job hworker => by simp [isFinished, hworker]
  | ask call next ih =>
    rcases hreply : surroundings.reply call state with ⟨result | _, state'⟩
    · obtain ⟨steps, hsteps⟩ := ih result state'
      refine ⟨steps + 2, endsWithin_succ fun job hworker hstate => ?_⟩
      rw [work_ask hworker]
      refine endsWithin_succ fun job' hworker' hstate' => ?_
      rw [work_answered hworker' (by rw [hstate', hstate, hreply])]
      exact hsteps
    · refine ⟨2, endsWithin_succ fun job hworker hstate => ?_⟩
      rw [work_ask hworker]
      refine endsWithin_succ fun job' hworker' hstate' => ?_
      rw [work_crashed hworker' (by rw [hstate', hstate, hreply])]
      exact hended _ fun job hworker => by simp [isFinished, hworker]
  | watch millis next ih =>
    obtain ⟨unraised, hunraised⟩ := ih false state
    obtain ⟨raised, hraised⟩ := ih true state
    refine ⟨max unraised raised + 1, endsWithin_succ fun job hworker hstate => ?_⟩
    rw [work_watch hworker]
    cases job.isStopped with
    | false => exact hstate ▸ hunraised.mono (Nat.le_max_left ..)
    | true => exact hstate ▸ hraised.mono (Nat.le_max_right ..)

/-! ## The signal of a job -/

/-- The two handles of a job are of one signal, which is of no older handle. -/
structure Private (job : Job σ) (signal : Nat) : Prop where
  own : job.signals.handles[job.own]? = some signal
  watched : job.signals.handles[job.watched]? = some signal
  lt : signal < job.signals.raised.length
  apart : ∀ handle < job.own, job.signals.handles[handle]? ≠ some signal

/-- The others raise signals through handles that are older than the job. -/
def Others (own : Nat) (acts : List JobAct) : Prop :=
  ∀ handle, .raise handle ∈ acts → handle < own

theorem Others.tail {own : Nat} {act : JobAct} {acts : List JobAct}
    (h : Others own (act :: acts)) :
    Others own acts :=
  fun handle hmem => h handle (List.mem_cons_of_mem _ hmem)

/-- The signals that a job begins with. -/
theorem signals_start (dialogue : Dialogue CycleOutcome) (state : σ) (signals : StopSignals) :
    (start dialogue state signals).signals =
      ⟨signals.handles ++ [signals.raised.length] ++ [signals.raised.length],
        signals.raised ++ [false]⟩ := by
  simp [start, StopSignals.new, StopSignals.clone]

/-- A job begins with a signal of its own. -/
theorem private_start (dialogue : Dialogue CycleOutcome) (state : σ) {signals : StopSignals}
    (h : signals.Sound) : (start dialogue state signals).Private signals.raised.length where
  own := by
    rw [signals_start]
    simp [start]
  watched := by
    rw [signals_start]
    simp [start]
  lt := by
    rw [signals_start]
    simp
  apart := by
    intro handle hlt hsignal
    rw [signals_start] at hsignal
    have hold : signals.handles[handle]? = some signals.raised.length := by
      rwa [List.append_assoc, List.getElem?_append_left hlt] at hsignal
    exact Nat.lt_irrefl _ (h _ (List.mem_of_getElem? hold))

/-- The signal of a job that begins is not raised. -/
theorem isStopped_start (dialogue : Dialogue CycleOutcome) (state : σ) {signals : StopSignals}
    (h : signals.Sound) : (start dialogue state signals).isStopped = false := by
  rw [isStopped, StopSignals.isStopped_eq (private_start dialogue state h).watched, signals_start]
  simp

@[simp] theorem signals_work : (job.work surroundings).signals = job.signals := by
  unfold work
  repeat' split
  all_goals rfl

@[simp] theorem own_work : (job.work surroundings).own = job.own := by
  unfold work
  repeat' split
  all_goals rfl

@[simp] theorem watched_work : (job.work surroundings).watched = job.watched := by
  unfold work
  repeat' split
  all_goals rfl

theorem isStopped_work (surroundings : Surroundings σ) (job : Job σ) :
    (job.work surroundings).isStopped = job.isStopped := by
  simp only [isStopped, signals_work, watched_work]

theorem own_act (act : JobAct) : (job.act surroundings act).own = job.own := by
  cases act with
  | work => exact own_work
  | stop | raise => rfl

/-- The signal of a job stays its own. -/
theorem Private.act {signal : Nat} (h : job.Private signal) (act : JobAct) :
    (job.act surroundings act).Private signal := by
  cases act with
  | work =>
    refine ⟨?_, ?_, ?_, ?_⟩ <;> simp only [Job.act, signals_work, own_work, watched_work]
    · exact h.own
    · exact h.watched
    · exact h.lt
    · exact h.apart
  | stop | raise =>
    refine ⟨?_, ?_, ?_, ?_⟩ <;>
      simp only [Job.act, Job.stop, StopSignals.handles_stop, StopSignals.length_raised_stop]
    · exact h.own
    · exact h.watched
    · exact h.lt
    · exact h.apart

theorem own_after (acts : List JobAct) : (job.after surroundings acts).own = job.own := by
  induction acts generalizing job with
  | nil => rfl
  | cons act acts ih => exact ih.trans (own_act act)

theorem Private.after {signal : Nat} (h : job.Private signal) (acts : List JobAct) :
    (job.after surroundings acts).Private signal := by
  induction acts generalizing job with
  | nil => exact h
  | cons act acts ih => exact ih (h.act act)

/-- The thread sees that its owner has stopped it. -/
theorem Private.isStopped_stop {signal : Nat} (h : job.Private signal) :
    job.stop.isStopped = true :=
  StopSignals.isStopped_stop_of_eq h.own h.watched h.lt

/-- The thread does not see that other signals are raised. -/
theorem Private.isStopped_raise (surroundings : Surroundings σ) {signal handle : Nat}
    (h : job.Private signal) (hlt : handle < job.own) :
    (job.act surroundings (.raise handle)).isStopped = job.isStopped :=
  StopSignals.isStopped_stop_of_ne (h.apart handle hlt) h.watched

end Thread

/-! ## A job and a rehearsal -/

section Simulation

variable {script : Script} {job : Job (SettingsStore × List Method)} {rehearsal : Rehearsal}
  {stopAt : Option Nat} {signal : Nat}

/-- What is left of the run of a thread. -/
def rest {σ : Type} (surroundings : Surroundings σ) : Worker CycleOutcome → σ → Run σ CycleOutcome
  | .running dialogue, state => dialogue.run surroundings state
  | .calling call next, state => (Dialogue.ask call next).run surroundings state
  | .returned value, state => ⟨[], some value, state⟩
  | .panicked, state => ⟨[], none, state⟩

/-- The run of a thread: what has happened, and what is left of it in a rehearsal. -/
def whole (script : Script) (job : Job (SettingsStore × List Method)) (rehearsal : Rehearsal) :
    Run Rehearsal CycleOutcome :=
  let left := rest (Rehearsal.surroundings script) job.worker rehearsal
  { left with events := job.events ++ left.events }

/-- The rehearsal after the next step of the thread. -/
def follow (script : Script) (job : Job (SettingsStore × List Method)) (rehearsal : Rehearsal) :
    Rehearsal :=
  match job.worker with
  | .calling call _ => (rehearsal.reply script call).2
  | _ => rehearsal

/-- The collaborators of a job stand where those of a rehearsal stand. -/
def Agrees (job : Job (SettingsStore × List Method)) (rehearsal : Rehearsal) : Prop :=
  job.state = (rehearsal.store, rehearsal.past)

/-- A step of the thread is a step of the rehearsal, if both see the same when they look at the
signal. -/
theorem whole_work (script : Script) (agrees : job.Agrees rehearsal)
    (look : ∀ left, job.worker = .running left → job.isStopped = rehearsal.isStopped) :
    (job.work script.surroundings).Agrees (follow script job rehearsal) ∧
      whole script (job.work script.surroundings) (follow script job rehearsal) =
        whole script job rehearsal := by
  cases hworker : job.worker with
  | running left =>
    have hfollow : follow script job rehearsal = rehearsal := by simp only [follow, hworker]
    rw [hfollow]
    cases left with
    | finish value =>
      rw [work_finish hworker]
      refine ⟨agrees, ?_⟩
      simp only [whole, hworker]
      rfl
    | ask call next =>
      rw [work_ask hworker]
      refine ⟨agrees, ?_⟩
      simp only [whole, hworker]
      rfl
    | watch millis next =>
      rw [work_watch hworker, look _ hworker]
      refine ⟨agrees, ?_⟩
      simp only [whole, hworker]
      rfl
  | calling call next =>
    have hfollow : follow script job rehearsal = (rehearsal.reply script call).2 := by
      simp only [follow, hworker]
    rw [hfollow]
    have hjob := Rehearsal.reply_script script call rehearsal
    rw [← agrees] at hjob
    rcases hreply : (Rehearsal.surroundings script).reply call rehearsal with
      ⟨result | _, rehearsal'⟩
    · have hreplied : rehearsal.reply script call = (.answered result, rehearsal') := hreply
      rw [hreplied] at hjob
      rw [work_answered hworker hjob, hreplied]
      refine ⟨rfl, ?_⟩
      simp only [whole, hworker, rest, Dialogue.run_ask_answered hreply, Run.after,
        List.append_assoc, List.cons_append, List.nil_append]
    · have hreplied : rehearsal.reply script call = (.crashed, rehearsal') := hreply
      rw [hreplied] at hjob
      rw [work_crashed hworker hjob, hreplied]
      refine ⟨rfl, ?_⟩
      simp only [whole, hworker, rest, Dialogue.run_ask_crashed hreply, List.append_nil]
  | returned | panicked =>
    have hfollow : follow script job rehearsal = rehearsal := by simp only [follow, hworker]
    rw [hfollow, work_of_isFinished _ (by simp [isFinished, hworker])]
    exact ⟨agrees, rfl⟩

/-- The thread has made a call and waits for the reply to it. -/
def InCall (job : Job (SettingsStore × List Method)) (n : Nat) : Prop :=
  (∃ call next, job.worker = .calling call next) ∧ job.events.length + 1 = n

/-- Only the reply to a call is kept. -/
theorem events_work_of_calling (script : Script) {call : Call}
    {next : Except Fault call.Answer → Dialogue CycleOutcome}
    (h : job.worker = .calling call next) :
    (job.work script.surroundings).events.length = job.events.length + 1 := by
  rcases hreply : script.surroundings.reply call job.state with ⟨result | _, state⟩
  · rw [work_answered h hreply, List.length_append, List.length_singleton]
  · rw [work_crashed h hreply, List.length_append, List.length_singleton]

theorem events_work_of_ne (h : ∀ call next, job.worker ≠ .calling call next) :
    (job.work script.surroundings).events = job.events := by
  unfold work
  split
  · rfl
  · rfl
  · rfl
  · rename_i call next hworker
    exact absurd hworker (h call next)
  · rfl
  · rfl

theorem length_events_act_le (act : JobAct) :
    job.events.length ≤ (job.act script.surroundings act).events.length := by
  cases act with
  | work =>
    by_cases h : ∃ call next, job.worker = .calling call next
    · obtain ⟨call, next, hworker⟩ := h
      exact (events_work_of_calling script hworker).symm ▸ Nat.le_succ _
    · refine Nat.le_of_eq (congrArg List.length (events_work_of_ne ?_)).symm
      exact fun call next hworker => h ⟨call, next, hworker⟩
  | stop | raise => exact Nat.le_refl _

theorem length_events_after_le (acts : List JobAct) :
    job.events.length ≤ (job.after script.surroundings acts).events.length := by
  induction acts generalizing job with
  | nil => exact Nat.le_refl _
  | cons act acts ih => exact Nat.le_trans (length_events_act_le act) ih

/-- Neither the job nor the rehearsal is stopped yet, and the rehearsal is stopped inside its n-th
call or never. -/
structure Unraised (stopAt : Option Nat) (job : Job (SettingsStore × List Method))
    (rehearsal : Rehearsal) : Prop where
  agrees : job.Agrees rehearsal
  job_eq : job.isStopped = false
  rehearsal_eq : rehearsal.isStopped = false
  away : rehearsal.stopAt = stopAt.map (· - job.events.length)

/-- A step of the thread inside a call before the one in which the rehearsal is stopped. -/
theorem Unraised.work (h : Unraised stopAt job rehearsal)
    (before : ∀ n, stopAt = some n → (job.work script.surroundings).events.length < n) :
    Unraised stopAt (job.work script.surroundings) (follow script job rehearsal) := by
  have hagrees := (whole_work script h.agrees fun _ _ => h.job_eq.trans
    h.rehearsal_eq.symm).1
  have hjob := (isStopped_work script.surroundings job).trans h.job_eq
  by_cases hcalling : ∃ call next, job.worker = .calling call next
  · obtain ⟨call, next, hworker⟩ := hcalling
    have hlength := events_work_of_calling script hworker
    rw [hlength] at before
    refine ⟨hagrees, hjob, ?_, ?_⟩
    · simp only [follow, hworker, Rehearsal.reply, h.rehearsal_eq, h.away, Bool.false_or]
      cases stopAt with
      | none => rfl
      | some n =>
        have hn := before n rfl
        simp only [Option.map_some, beq_eq_false_iff_ne, ne_eq, Option.some.injEq]
        omega
    · simp only [follow, hworker, Rehearsal.reply, h.away, hlength, Option.map_map]
      rfl
  · have hne : ∀ call next, job.worker ≠ .calling call next :=
      fun call next hworker => hcalling ⟨call, next, hworker⟩
    have hfollow : follow script job rehearsal = rehearsal := by
      unfold follow
      split
      · rename_i call next hworker
        exact absurd hworker (hne call next)
      · rfl
    rw [hfollow] at hagrees ⊢
    exact ⟨hagrees, hjob, h.rehearsal_eq, (events_work_of_ne hne).symm ▸ h.away⟩

/-- Up to the call in which it is stopped a job goes along with the rehearsal. -/
theorem Unraised.after (script : Script) (h : Unraised stopAt job rehearsal)
    (apart : job.Private signal) {acts : List JobAct} (others : Others job.own acts)
    (unstopped : .stop ∉ acts)
    (before : ∀ n, stopAt = some n → (job.after script.surroundings acts).events.length < n) :
    ∃ rehearsal', Unraised stopAt (job.after script.surroundings acts) rehearsal' ∧
      whole script (job.after script.surroundings acts) rehearsal' =
        whole script job rehearsal := by
  induction acts generalizing job rehearsal with
  | nil => exact ⟨rehearsal, h, rfl⟩
  | cons act acts ih =>
    have hothers : Others (job.act script.surroundings act).own acts := by
      rw [own_act]
      exact others.tail
    have hrest : ∀ {rehearsal'}, Unraised stopAt (job.act script.surroundings act) rehearsal' →
        _ := fun hnext => ih hnext (apart.act act) hothers
          (fun hmem => unstopped (List.mem_cons_of_mem _ hmem)) before
    cases act with
    | work =>
      obtain ⟨rehearsal', hnext, hwhole⟩ := hrest (h.work fun n hn =>
        Nat.lt_of_le_of_lt (length_events_after_le acts) (before n hn))
      refine ⟨rehearsal', hnext, hwhole.trans ?_⟩
      exact (whole_work script h.agrees fun _ _ => h.job_eq.trans h.rehearsal_eq.symm).2
    | stop => exact absurd List.mem_cons_self unstopped
    | raise handle =>
      have hraise := apart.isStopped_raise script.surroundings
        (others handle List.mem_cons_self)
      exact hrest ⟨h.agrees, hraise.trans h.job_eq, h.rehearsal_eq, h.away⟩

/-- A job that is stopped, and a rehearsal that is stopped by the reply to the call at hand. -/
structure Raised (job : Job (SettingsStore × List Method)) (rehearsal : Rehearsal) : Prop where
  agrees : job.Agrees rehearsal
  job_eq : job.isStopped = true
  running : ∀ left, job.worker = .running left → rehearsal.isStopped = true
  calling : ∀ call next, job.worker = .calling call next →
    (rehearsal.isStopped || rehearsal.stopAt == some 1) = true

/-- A step of a thread that is stopped. -/
theorem Raised.work (h : Raised job rehearsal) :
    Raised (job.work script.surroundings) (follow script job rehearsal) := by
  have hagrees := (whole_work script h.agrees fun left hleft =>
    h.job_eq.trans (h.running left hleft).symm).1
  have hjob := (isStopped_work script.surroundings job).trans h.job_eq
  suffices hseen : (follow script job rehearsal).isStopped = true ∨
      (job.work script.surroundings).isFinished = true by
    rcases hseen with hseen | hfinished
    · exact ⟨hagrees, hjob, fun _ _ => hseen, fun _ _ _ => by rw [hseen, Bool.true_or]⟩
    · refine ⟨hagrees, hjob, fun left hworker => ?_, fun call next hworker => ?_⟩ <;>
        simp [isFinished, hworker] at hfinished
  cases hworker : job.worker with
  | running left =>
    refine .inl ?_
    simp only [follow, hworker]
    exact h.running left hworker
  | calling call next =>
    refine .inl ?_
    simp only [follow, hworker]
    exact h.calling call next hworker
  | returned | panicked =>
    have hfinished : job.isFinished = true := by simp [isFinished, hworker]
    exact .inr ((work_of_isFinished script.surroundings hfinished).symm ▸ hfinished)

/-- Once it is stopped a job goes along with the rehearsal, and stays stopped. -/
theorem Raised.after (h : Raised job rehearsal) (apart : job.Private signal) {acts : List JobAct}
    (others : Others job.own acts) :
    ∃ rehearsal', Raised (job.after script.surroundings acts) rehearsal' ∧
      whole script (job.after script.surroundings acts) rehearsal' =
        whole script job rehearsal := by
  induction acts generalizing job rehearsal with
  | nil => exact ⟨rehearsal, h, rfl⟩
  | cons act acts ih =>
    have hothers : Others (job.act script.surroundings act).own acts := by
      rw [own_act]
      exact others.tail
    have hrest : ∀ {rehearsal'}, Raised (job.act script.surroundings act) rehearsal' → _ :=
      fun hnext => ih hnext (apart.act act) hothers
    cases act with
    | work =>
      obtain ⟨rehearsal', hnext, hwhole⟩ := hrest h.work
      refine ⟨rehearsal', hnext, hwhole.trans ?_⟩
      exact (whole_work script h.agrees fun left hleft =>
        h.job_eq.trans (h.running left hleft).symm).2
    | stop => exact hrest ⟨h.agrees, apart.isStopped_stop, h.running, h.calling⟩
    | raise handle =>
      have hraise := apart.isStopped_raise script.surroundings
        (others handle List.mem_cons_self)
      exact hrest ⟨h.agrees, hraise.trans h.job_eq, h.running, h.calling⟩

/-- The owner of a job never stops it, or stops it for the first time inside its n-th call. -/
def FirstStopped (script : Script) (job : Job (SettingsStore × List Method)) (acts : List JobAct) :
    Option Nat → Prop
  | none => .stop ∉ acts
  | some n => ∃ before rest, acts = before ++ .stop :: rest ∧ .stop ∉ before ∧
      (job.after script.surroundings before).InCall n

/-- A job goes along with the rehearsal that is stopped inside the same call. -/
theorem exists_whole_after (h : Unraised stopAt job rehearsal) (apart : job.Private signal)
    {acts : List JobAct} (others : Others job.own acts)
    (stopped : job.FirstStopped script acts stopAt) :
    ∃ rehearsal', (job.after script.surroundings acts).Agrees rehearsal' ∧
      whole script (job.after script.surroundings acts) rehearsal' =
        whole script job rehearsal := by
  cases stopAt with
  | none =>
    obtain ⟨rehearsal', hend, hwhole⟩ := h.after script apart others stopped (by simp)
    exact ⟨rehearsal', hend.agrees, hwhole⟩
  | some n =>
    obtain ⟨before, rest, rfl, hbefore, ⟨call, next, hworker⟩, hlength⟩ := stopped
    obtain ⟨between, hbetween, hwhole⟩ := h.after script apart
      (fun handle hmem => others handle (List.mem_append_left _ hmem)) hbefore
      (by rintro _ ⟨⟩; omega)
    rw [after_append, after_cons]
    have hraised : Raised ((job.after script.surroundings before).act script.surroundings .stop)
        between := by
      have hinside : ∀ call next, (job.after script.surroundings before).worker =
          .calling call next → (between.isStopped || between.stopAt == some 1) = true := by
        intro _ _ _
        have hone : n - (job.after script.surroundings before).events.length = 1 := by omega
        simp [hbetween.away, hone]
      refine ⟨hbetween.agrees, (apart.after before).isStopped_stop, ?_, hinside⟩
      intro left hleft
      cases hworker.symm.trans hleft
    have hothers :
        Others ((job.after script.surroundings before).act script.surroundings .stop).own
          rest := by
      rw [own_act, own_after]
      exact fun handle hmem =>
        others handle (List.mem_append_right _ (List.mem_cons_of_mem _ hmem))
    obtain ⟨rehearsal', hend, hrest⟩ := hraised.after ((apart.after before).act .stop) hothers
    exact ⟨rehearsal', hend.agrees, hrest.trans hwhole⟩

/-- Joining an ended thread gives the value of its run, or asks for another cycle. -/
theorem join_of_isFinished (h : job.isFinished = true) (rehearsal : Rehearsal) :
    (whole script job rehearsal).events = job.events ∧
      (whole script job rehearsal).state = rehearsal ∧
      job.join? = some ((whole script job rehearsal).value.getD .rescheduleRequested) := by
  unfold isFinished at h
  cases hworker : job.worker with
  | running | calling => simp [hworker] at h
  | returned | panicked => simp [whole, rest, join?, hworker]

/-- A job that has ended has gone the way of the rehearsal that is stopped inside the same call. -/
theorem run_of_isFinished (config : Config) (now : Nat) (start : Rehearsal)
    {signals : StopSignals} (sound : signals.Sound) {acts : List JobAct}
    (others : Others signals.handles.length acts)
    (stopped : (Job.start (Cycle.run config now) (start.store, start.past) signals).FirstStopped
      script acts stopAt) :
    let ended := (Job.start (Cycle.run config now) (start.store, start.past) signals).after
      script.surroundings acts
    let run := { start with isStopped := false }.run script stopAt (Cycle.run config now)
    ended.isFinished = true →
      ended.events = run.events ∧ ended.state = (run.state.store, run.state.past) ∧
        ended.join? = some (run.value.getD .rescheduleRequested) := by
  intro ended run hfinished
  have unraised :
    Unraised stopAt (Job.start (Cycle.run config now) (start.store, start.past) signals)
      { start with isStopped := false, stopAt } :=
    ⟨rfl, isStopped_start _ _ sound, rfl, by cases stopAt <;> rfl⟩
  obtain ⟨final, hagrees, hwhole⟩ :=
    exists_whole_after unraised (private_start _ _ sound) others stopped
  have hrun : whole script (Job.start (Cycle.run config now) (start.store, start.past) signals)
      { start with isStopped := false, stopAt } = run := rfl
  rw [hrun] at hwhole
  obtain ⟨hevents, hstate, hjoin⟩ := join_of_isFinished hfinished final
  rw [hwhole] at hevents hstate hjoin
  exact ⟨hevents.symm, hagrees.trans (by rw [hstate]), hjoin⟩

end Simulation

/-- A job is a cycle on another thread. Its thread ends, however it takes turns with the others.
A job that has ended after being stopped inside its n-th call, or never, has made the calls of
the cycle with a fresh signal that is raised inside its n-th call, or never, and left the same
store behind; joining it gives the outcome of that cycle, or asks for another cycle where that
cycle crashes. The store is as the last completed call to it left it. A call that crashes is the
last one, and is not counted: what may have been counted is a fault before, if the crash is in
the reset for too many of them. -/
theorem job_runs_cycle (script : Script) (config : Config) (now : Nat) (rehearsal : Rehearsal)
    (earlier : List StopOperation) :
    let signals := (StopSignals.empty.performAll earlier).2
    let initial := (rehearsal.store, rehearsal.past)
    let begun := Job.start (Cycle.run config now) initial signals
    let fresh := (rehearsal.perform script config now .newStop).2.2
    (∃ steps, ∀ acts : List JobAct, steps ≤ acts.count .work →
      (begun.after script.surroundings acts).isFinished = true) ∧
    ∀ (stopAt : Option Nat) (acts : List JobAct), Others signals.handles.length acts →
      begun.FirstStopped script acts stopAt →
      let ended := begun.after script.surroundings acts
      let cycle := fresh.perform script config now (.cycle stopAt)
      let work := (Cycle.attempt config now).run.run (Rehearsal.surroundings script)
        { fresh with stopAt }
      ended.isFinished = true →
      ∃ outcome, ended.join? = some outcome ∧
        ended.events = cycle.2.1 ∧ ended.state = (cycle.2.2.store, cycle.2.2.past) ∧
        (cycle.1 = .outcome outcome ∨ cycle.1 = .crashed ∧ outcome = .rescheduleRequested) ∧
        rehearsal.perform script config now (.job stopAt) =
          (.outcome outcome, ended.events,
            { cycle.2.2 with isStopped := rehearsal.isStopped }) ∧
        (∀ before rest, ended.events = before ++ rest →
          (∀ event ∈ rest, event.call.isStore = true → event.callEnd = .crashed) →
          ended.state.1 = (script.surroundings.stateAfter (before.map Event.call) initial).1) ∧
        ((∃ event ∈ ended.events, event.callEnd = .crashed) →
          outcome = .rescheduleRequested ∧
          ∃ front call, ended.events = front ++ [⟨call, .crashed⟩] ∧
            (∀ event ∈ front, event.callEnd ≠ .crashed) ∧
            (.updateSettings .countFailure ∈ front.map Event.call → call = .clearSettings ∧
              ∃ fault, fault.counted = true ∧ work.value = some (.error fault) ∧
                front = work.events ++ [⟨.updateSettings .countFailure, .succeeded⟩])) := by
  intro signals initial begun fresh
  have sound : signals.Sound := StopSignals.sound_empty.performAll earlier
  constructor
  · obtain ⟨steps, hsteps⟩ :=
      exists_endsWithin script.surroundings (Cycle.run config now) initial
    exact ⟨steps, hsteps begun rfl rfl⟩
  · intro stopAt acts others stopped ended cycle work hfinished
    obtain ⟨hevents, hstate, hjoin⟩ :=
      run_of_isFinished config now rehearsal sound others stopped hfinished
    let run := fresh.run script stopAt (Cycle.run config now)
    have hrun :
        { rehearsal with isStopped := false }.run script stopAt (Cycle.run config now) = run :=
      rfl
    rw [hrun] at hevents hstate hjoin
    refine ⟨run.value.getD .rescheduleRequested, hjoin, hevents, hstate, ?_, ?_, ?_, ?_⟩
    · change run.value.elim StepAnswer.crashed .outcome = _ ∨
        run.value.elim StepAnswer.crashed .outcome = _ ∧ _
      cases run.value with
      | none => exact .inr ⟨rfl, rfl⟩
      | some outcome => exact .inl rfl
    · rw [hevents]
      rfl
    · intro before rest hsplit idle
      rw [hstate]
      exact Rehearsal.store_run (Cycle.run config now) (hevents.symm.trans hsplit) idle
    · rintro ⟨event, hmem, hcrashed⟩
      have hnone : run.value = none := by
        rw [hevents] at hmem
        exact Dialogue.value_eq_none_of_crashed hmem hcrashed
      refine ⟨by rw [hnone]; rfl, ?_⟩
      rw [hevents]
      exact Cycle.exists_crash_of_none hnone

/-- A script whose store crashes at the first change of settings. -/
def crashingScript : Script :=
  ⟨[], [], [], [], [], [], [], [], [], [.crashed], []⟩

theorem job_runs_cycle_taken_down :
    let earlier : List StopOperation := [.new, .stop 0]
    let store := SettingsStore.memory (.new .default)
    let begun := Job.start (Cycle.run .default 0) (store, [])
      (StopSignals.empty.performAll earlier).2
    let crashed := begun.after crashingScript.surroundings (.raise 0 :: List.replicate 7 .work)
    let stopped := begun.after crashingScript.surroundings
      ([.work] ++ .stop :: List.replicate 3 .work)
    (crashed.join? = some .rescheduleRequested ∧ crashed.state.1 = store ∧
      crashed.events = [⟨.loadSettings, .succeeded⟩,
        ⟨.fetchKeys Settings.default.serverUrl, .succeeded⟩,
        ⟨.updateSettings .countFailure, .crashed⟩]) ∧
    stopped.join? = some .rescheduleRequested ∧
      stopped.events = [⟨.loadSettings, .succeeded⟩] := by
  intro earlier store begun crashed stopped
  obtain ⟨-, hruns⟩ := job_runs_cycle crashingScript .default 0 ⟨store, [], none, true⟩ earlier
  have hothers : Others 1 (.raise 0 :: List.replicate 7 .work) := by
    intro handle hmem
    simp at hmem
    omega
  have hnever : JobAct.stop ∉ JobAct.raise 0 :: List.replicate 7 .work := by decide
  have hevents : crashed.events = [⟨.loadSettings, .succeeded⟩,
      ⟨.fetchKeys Settings.default.serverUrl, .succeeded⟩,
      ⟨.updateSettings .countFailure, .crashed⟩] := rfl
  obtain ⟨outcome, hjoin, -, -, -, -, hstore, hcrash⟩ := hruns none _ hothers hnever rfl
  have hmem : ⟨.updateSettings .countFailure, .crashed⟩ ∈ crashed.events := by
    rw [hevents]
    simp
  obtain ⟨rfl, -⟩ := hcrash ⟨_, hmem, rfl⟩
  have hinside : begun.FirstStopped crashingScript ([.work] ++ .stop :: List.replicate 3 .work)
      (some 1) :=
    ⟨[.work], List.replicate 3 .work, rfl, by decide, ⟨_, _, rfl⟩, rfl⟩
  obtain ⟨other, hother, hstopped, -, hanswer, -⟩ :=
    hruns (some 1) _ (by simp [Others]) hinside rfl
  refine ⟨⟨hjoin, hstore [⟨.loadSettings, .succeeded⟩] _ hevents (by decide), hevents⟩, ?_, ?_⟩
  · rcases hanswer with hanswer | ⟨-, rfl⟩
    · cases hanswer
      exact hother
    · exact hother
  · exact hstopped

end Job

end KeyProvisioning
