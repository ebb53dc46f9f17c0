import KeyProvisioning.Proofs.Cycle.Succession
import KeyProvisioning.Proofs.Settings.Replacement

/-!
# Recovery from unusable settings

Whatever the file of the settings holds, a cycle that can write beside it comes to ask the
server: with the settings in the file, or with the defaults, which it then has put in the place
of a file that cannot be used. A cycle whose store fails in any other way before it has settings
calls nobody else.
-/

namespace KeyProvisioning

variable {σ : Type}

/-! ## Stores among the collaborators -/

/-- The surroundings with a store of their own in place of theirs. -/
def Surroundings.withStore (remote : Surroundings σ) : Surroundings (σ × SettingsStore) where
  reply
    | .loadSettings, (state, store) => (store.replyLoad.1, state, store.replyLoad.2)
    | .updateSettings change, (state, store) =>
      ((store.replyUpdate change).1, state, (store.replyUpdate change).2)
    | .clearSettings, (state, store) => (store.replyClear.1, state, store.replyClear.2)
    | call, (state, store) => ((remote.reply call state).1, (remote.reply call state).2, store)
  isStopped state := remote.isStopped state.1

namespace Cycle

/-! ## The two halves of a cycle -/

/-- The rest of a cycle that has its settings, or that does not come by them for a fault. -/
def conclude (config : Config) (now : Nat) : Except Fault Settings → Dialogue CycleOutcome
  | .ok before => do
    match ← (proceed config now before).run with
    | .ok outcome => return outcome
    | .error fault => handleFault config fault
  | .error fault => handleFault config fault

theorem run_eq_snapshot_bind (config : Config) (now : Nat) :
    run config now = snapshot.run >>= conclude config now := by
  rw [run, attempt_eq, ExceptT.run_bind, bind_assoc]
  apply bind_congr
  intro result
  cases result <;> rfl

/-- How a cycle comes by its settings, call by call. -/
theorem snapshot_run :
    snapshot.run = .ask .loadSettings fun
      | .ok settings => .finish (.ok settings)
      | .error fault =>
        if isUnusable fault then .ask .clearSettings fun
          | .ok () => .ask .loadSettings .finish
          | .error fault => .finish (.error fault)
        else .finish (.error fault) := by
  refine congrArg (Dialogue.ask .loadSettings) (funext fun result => ?_)
  cases result with
  | ok settings => rfl
  | error fault =>
    -- the answer is at hand, so the handler is what is left of the procedure
    change ExceptT.run (if isUnusable fault then
      Procedure.ask .clearSettings >>= fun _ => Procedure.ask .loadSettings else throw fault) =
        if isUnusable fault then _ else _
    split
    · refine congrArg (Dialogue.ask .clearSettings) (funext fun cleared => ?_)
      cases cleared <;> rfl
    · rfl

/-- A reply that ends a procedure with a fault is that fault. -/
theorem exists_fault_of_ending {α β : Type} {reply : Reply α} {halt : Halt}
    {result : Except Fault β} (failed : reply.ending = .error halt)
    (value : Halt.valueOf (.error halt : Except Halt β) = some result) :
    ∃ fault, halt = some fault ∧ reply = .answered (.error fault) ∧ result = .error fault := by
  cases halt with
  | none => cases value
  | some fault =>
    cases value
    exact ⟨fault, rfl, Reply.ending_eq_fault_iff.mp failed, rfl⟩

section Openings

variable {surroundings : Surroundings σ} {state between : σ} {opening : List Turn}
  {ending : Except Halt Settings} {result : Except Fault Settings}

/-- A store that replies so makes a cycle come by its settings so. -/
theorem Opening.leads (h : Opening opening ending) (value : Halt.valueOf ending = some result)
    (path : surroundings.Path state opening between) :
    Dialogue.Leads surroundings snapshot.run state opening result between := by
  -- an opening tells the end of every call, and the path that surroundings answer each call so
  rw [snapshot_run]
  cases h with
  | loaded settings =>
    cases value
    obtain _ | ⟨load, _ | _⟩ := path
    exact .ask load (Dialogue.leads_finish _)
  | reset unusable settings =>
    cases value
    obtain _ | ⟨load, _ | ⟨clear, _ | ⟨reload, _ | _⟩⟩⟩ := path
    refine .ask load ?_
    simp only [if_pos unusable]
    exact .ask clear (.ask reload (Dialogue.leads_finish _))
  | notLoaded failed usable =>
    obtain ⟨fault, hhalt, rfl, rfl⟩ := exists_fault_of_ending failed value
    obtain _ | ⟨load, _ | _⟩ := path
    refine .ask load ?_
    simp only [if_neg (usable fault hhalt)]
    exact Dialogue.leads_finish _
  | notCleared unusable failed =>
    obtain ⟨fault, -, rfl, rfl⟩ := exists_fault_of_ending failed value
    obtain _ | ⟨load, _ | ⟨clear, _ | _⟩⟩ := path
    refine .ask load ?_
    simp only [if_pos unusable]
    exact .ask clear (Dialogue.leads_finish _)
  | notReloaded unusable failed =>
    obtain ⟨fault, -, rfl, rfl⟩ := exists_fault_of_ending failed value
    obtain _ | ⟨load, _ | ⟨clear, _ | ⟨reload, _ | _⟩⟩⟩ := path
    refine .ask load ?_
    simp only [if_pos unusable]
    exact .ask clear (.ask reload (Dialogue.leads_finish _))

/-- A cycle goes on from where it came by its settings, or did not. -/
theorem Opening.turns_run (h : Opening opening ending) (value : Halt.valueOf ending = some result)
    (path : surroundings.Path state opening between) (config : Config) (now : Nat) :
    let rest := conclude config now result
    (run config now).turns surroundings state = opening ++ rest.turns surroundings between ∧
      ((run config now).run surroundings state).value = (rest.run surroundings between).value := by
  rw [run_eq_snapshot_bind]
  exact (h.leads value path).bind (conclude config now)

/-- A cycle that has its settings asks the server with them, unless the stop signal is raised. -/
theorem exists_turns_conclude (surroundings : Surroundings σ) (state : σ)
    (unraised : surroundings.isStopped state = false) (config : Config) (now : Nat)
    (before : Settings) :
    ∃ reply later, (conclude config now (.ok before)).turns surroundings state =
      ⟨.fetchKeys before.serverUrl, reply⟩ :: later := by
  -- what comes first is a look at the stop signal, in front of the call
  obtain ⟨look, next, hlook, hunraised⟩ : ∃ look next,
      conclude config now (.ok before) = .watch 0 look ∧
        look false = .ask (.fetchKeys before.serverUrl) next := ⟨_, _, rfl, rfl⟩
  rw [hlook, Dialogue.turns, unraised, hunraised]
  exact Dialogue.exists_turns_ask surroundings _ next state

end Openings

/-! ## A file that can be replaced -/

section Files

variable {remote : Surroundings σ} {state : σ} {disk disk' : Disk} {settings : Settings}
  {reason : SettingsFault} {read : Except SettingsFault Settings}

/-- Only what a reset mends keeps a file from being read. -/
theorem isUnusable_of_read (h : FileStore.read disk = .error reason) :
    isUnusable (.ofCause (.settings reason)) = true := by
  unfold FileStore.read at h
  split at h
  · cases h
  · cases h
    decide
  · split at h <;> cases h
    decide

/-- The turns of a cycle that puts the defaults in the place of a file which it cannot use. -/
def resetting (reason : SettingsFault) : List Turn :=
  [⟨.loadSettings, .answered (.error (.ofCause (.settings reason)))⟩,
    ⟨.clearSettings, .answered (.ok ())⟩, ⟨.loadSettings, .answered (.ok .default)⟩]

/-- A new store answers with what is in the file. -/
theorem reply_load (h : FileStore.read disk = read) :
    remote.withStore.reply .loadSettings (state, .file (.new disk)) =
      (.ofStore read, state, .file (.new disk)) := by
  subst h
  rfl

/-- A new store writes the defaults whatever is in the file. -/
theorem reply_clear (h : FileStore.write disk .default = (.ok (), disk')) :
    remote.withStore.reply .clearSettings (state, .file (.new disk)) =
      (.ofStore (.ok ()), state, .file (.new disk')) := by
  have hclear : (FileStore.new disk).clear =
      ((FileStore.write disk .default).1, .new (FileStore.write disk .default).2) := rfl
  simp only [Surroundings.withStore, SettingsStore.replyClear, SettingsStore.clear, hclear, h]

/-- A file that cannot be used is reset to the document of the defaults. -/
theorem exists_path_resetting (remote : Surroundings σ) (state : σ) (working : disk.IsWorking)
    (h : FileStore.read disk = .error reason) :
    ∃ disk', disk'.HoldsDocument .default ∧
      remote.withStore.Path (state, .file (.new disk)) (resetting reason)
        (state, .file (.new disk')) := by
  obtain ⟨disk', hwrite, -, hread⟩ :=
    FileStore.write_of_isWritable working Settings.isWritable_default
  refine ⟨disk', ?_,
    .cons (reply_load h) (.cons (reply_clear hwrite) (.cons (reply_load hread) (.nil _)))⟩
  rcases FileStore.write_ok_or_error disk .default with
    ⟨other, hother, hdocument, -⟩ | ⟨fault, other, hother, -⟩
  · rw [hwrite] at hother
    cases hother
    exact hdocument
  · rw [hwrite] at hother
    cases hother

variable {config : Config} {now : Nat}

/-- A cycle over a file that can be used asks the server with the settings in it. -/
theorem exists_turns_of_read (unraised : remote.isStopped state = false)
    (h : FileStore.read disk = .ok settings) :
    ∃ reply later,
      (run config now).turns remote.withStore (state, .file (.new disk)) =
        ⟨.loadSettings, .answered (.ok settings)⟩ ::
          ⟨.fetchKeys settings.serverUrl, reply⟩ :: later := by
  have path : remote.withStore.Path (state, .file (.new disk)) _ _ :=
    .cons (reply_load h) (.nil _)
  obtain ⟨reply, later, hrest⟩ :=
    exists_turns_conclude remote.withStore (state, .file (.new disk)) unraised config now settings
  refine ⟨reply, later, ?_⟩
  rw [((Opening.loaded settings).turns_run rfl path config now).1, hrest]
  rfl

/-- A cycle over a file that cannot be used asks the server with the defaults, and goes on as
over a file that holds them. -/
theorem exists_turns_resetting (unraised : remote.isStopped state = false)
    (working : disk.IsWorking) (h : FileStore.read disk = .error reason) :
    ∃ disk' reply later, disk'.HoldsDocument .default ∧
      remote.withStore.Path (state, .file (.new disk)) (resetting reason)
        (state, .file (.new disk')) ∧
      (run config now).turns remote.withStore (state, .file (.new disk)) =
        resetting reason ++ ⟨.fetchKeys Settings.default.serverUrl, reply⟩ :: later ∧
      (run config now).turns remote.withStore (state, .file (.new disk')) =
        ⟨.loadSettings, .answered (.ok .default)⟩ ::
          ⟨.fetchKeys Settings.default.serverUrl, reply⟩ :: later := by
  obtain ⟨disk', hdocument, path⟩ := exists_path_resetting remote state working h
  have path' : remote.withStore.Path (state, .file (.new disk')) _ _ :=
    .cons (reply_load (FileStore.read_of_holdsDocument hdocument)) (.nil _)
  have opening : Opening (resetting reason) (.ok .default) :=
    .reset (isUnusable_of_read h) .default
  obtain ⟨reply, later, hrest⟩ :=
    exists_turns_conclude remote.withStore (state, .file (.new disk')) unraised config now .default
  refine ⟨disk', reply, later, hdocument, path, ?_, ?_⟩
  · rw [(opening.turns_run rfl path config now).1, hrest]
  · rw [((Opening.loaded .default).turns_run rfl path' config now).1, hrest]
    rfl

end Files

/-! ## A store that fails -/

section Failing

variable {surroundings : Surroundings σ} {state between : σ} {opening first last : List Turn}
  {fault : Fault} {config : Config} {now : Nat}

/-- A fault that is not counted is over at once. -/
theorem Closing.of_not_counted {value : Option CycleOutcome} (h : Closing config fault last value)
    (uncounted : fault.counted = false) : last = [] ∧ value = some .rescheduleRequested := by
  cases h with
  | uncounted => exact ⟨rfl, rfl⟩
  | counted hcounted | reset hcounted | notCounted hcounted | crashed hcounted
  | resetCrashed hcounted =>
    rw [uncounted] at hcounted
    cases hcounted

/-- A cycle that does not come by its settings for a fault handles the fault and does nothing
else. -/
theorem Opening.exists_closing (h : Opening opening (.error (some fault)))
    (path : surroundings.Path state opening between) (config : Config) (now : Nat) :
    ∃ last, (run config now).turns surroundings state = opening ++ last ∧
      Closing config fault last ((run config now).run surroundings state).value := by
  obtain ⟨hturns, hvalue⟩ := h.turns_run rfl path config now
  refine ⟨_, hturns, ?_⟩
  rw [hvalue]
  exact closing_of_handleFault (Dialogue.talk_run surroundings (fun _ _ => trivial) _ between)

/-- A cycle that does not come by its settings for a fault calls nobody but the store and asks for
another cycle. After a fault that is not counted it calls nobody at all. -/
theorem Opening.run_failed (h : Opening opening (.error (some fault)))
    (path : surroundings.Path state opening between) (config : Config) (now : Nat) :
    let turns := (run config now).turns surroundings state
    let outcome := ((run config now).run surroundings state).value
    (∀ turn ∈ turns, turn.call.isStore = true) ∧
    ((∀ turn ∈ turns, turn.event.callEnd ≠ .crashed) → outcome = some .rescheduleRequested) ∧
    (fault.counted = false → turns = opening ∧ outcome = some .rescheduleRequested) := by
  intro turns outcome
  obtain ⟨last, hturns, hclosing⟩ := h.exists_closing path config now
  have hlast : Aftermath config last outcome (.error (some fault)) := hclosing
  refine ⟨?_, ?_, ?_⟩
  · simp only [turns, hturns]
    intro turn hturn
    rcases List.mem_append.mp hturn with hturn | hturn
    · exact h.isStore turn hturn
    · exact hlast.isStore turn hturn
  · intro calm
    have hcalm : ∀ event ∈ ((run config now).run surroundings state).events,
        event.callEnd ≠ .crashed := by
      rw [Dialogue.events_run]
      simpa using calm
    obtain ⟨value, hvalue⟩ := Dialogue.exists_value_of_calm surroundings _ state hcalm
    exact hclosing.value_eq (by simp [hvalue])
  · intro uncounted
    obtain ⟨rfl, hvalue⟩ := hclosing.of_not_counted uncounted
    exact ⟨by simpa using hturns, hvalue⟩

/-- Settings are reset once at most before a cycle has them. -/
theorem Opening.count_clear_le {ending : Except Halt Settings} (h : Opening opening ending) :
    (opening.map Turn.call).count .clearSettings ≤ 1 := by
  cases h <;> simp

/-- The fault that keeps a cycle from its settings is one of the store. -/
theorem Opening.exists_failed (h : Opening opening (.error (some fault))) :
    ∃ turn ∈ opening, turn.event.callEnd = .failed fault := by
  cases h with
  | notLoaded failed | notCleared _ failed | notReloaded _ failed =>
    obtain rfl := Reply.ending_eq_fault_iff.mp failed
    exact ⟨_, List.mem_of_getLast? rfl, rfl⟩

/-! ## Resets before the server is asked -/

/-- Up to its first fault a cycle resets the settings once at most. -/
theorem count_clear_attempt_le {mayStop : Prop} {ending : Except Halt CycleOutcome}
    (h : (attempt config now).Goes mayStop first ending) :
    (first.map Turn.call).count .clearSettings ≤ 1 := by
  rcases attempt_exit h with ⟨halt, hopening, -⟩ | ⟨before, opening, body, hopening, hexit, rfl⟩
  · exact hopening.count_clear_le
  · rw [List.map_append, List.count_append, List.count_eq_zero.mpr hexit.clear_not_mem]
    exact hopening.count_clear_le

/-- A cycle up to its first fault asks the server, or is ended by the store, a crash or the stop
signal. -/
theorem uncounted_of_not_fetched {mayStop : Prop} {ending : Except Halt CycleOutcome}
    (h : (attempt config now).Goes mayStop first ending)
    (unfetched : ∀ base, .fetchKeys base ∉ first.map Turn.call)
    (uncounted : ∀ turn ∈ first, ∀ fault, turn.event.callEnd = .failed fault →
      fault.counted = false) :
    ∃ halt, ending = .error halt ∧ ∀ fault, halt = some fault → fault.counted = false := by
  rcases attempt_exit h with ⟨halt, hopening, rfl⟩ | ⟨before, opening, body, hopening, hexit, rfl⟩
  · refine ⟨halt, rfl, ?_⟩
    rintro fault rfl
    obtain ⟨turn, hturn, hfailed⟩ := hopening.exists_failed
    exact uncounted turn hturn fault hfailed
  · cases hexit with
    | stopped =>
      refine ⟨_, rfl, ?_⟩
      rintro fault ⟨⟩
      rfl
    | notFetched | off | notAdopted | adopted =>
      exact absurd (by simp) (unfetched before.serverUrl)

/-- Before a cycle asks the server the settings are reset once at most. -/
theorem count_clear_le_of_fetch {before after : List Call} {base : String}
    (h : ((run config now).turns surroundings state).map Turn.call =
      before ++ .fetchKeys base :: after) : before.count .clearSettings ≤ 1 := by
  obtain ⟨ending, last, -, hgoes, hlast, hturns⟩ :=
    run_course surroundings (fun _ _ => trivial) config now state
  rw [hturns, List.map_append, List.append_eq_append_iff] at h
  rcases h with ⟨rest, -, hrest⟩ | ⟨rest, hfirst, -⟩
  · have hmem : .fetchKeys base ∈ last.map Turn.call := by simp [hrest]
    obtain ⟨turn, hturn, hcall⟩ := List.mem_map.mp hmem
    have hstore := hlast.isStore turn hturn
    rw [hcall] at hstore
    cases hstore
  · have hcount := count_clear_attempt_le hgoes
    rw [hfirst, List.count_append] at hcount
    exact Nat.le_of_add_right_le hcount

/-- A cycle that does not ask the server resets the settings once at most, as long as none of its
calls fails with a fault that is counted. -/
theorem count_clear_le_of_not_fetched
    (unfetched : ∀ base,
      .fetchKeys base ∉ ((run config now).turns surroundings state).map Turn.call)
    (uncounted : ∀ turn ∈ (run config now).turns surroundings state, ∀ fault,
      turn.event.callEnd = .failed fault → fault.counted = false) :
    (((run config now).turns surroundings state).map Turn.call).count .clearSettings ≤ 1 := by
  obtain ⟨ending, last, -, hgoes, hlast, hturns⟩ :=
    run_course surroundings (fun _ _ => trivial) config now state
  rw [hturns] at unfetched uncounted ⊢
  obtain ⟨halt, rfl, hhalt⟩ := uncounted_of_not_fetched hgoes
    (fun base hmem => unfetched base (by simp [hmem]))
    fun turn hturn => uncounted turn (List.mem_append_left _ hturn)
  have hnil : last = [] := by
    cases halt with
    | none => exact hlast.1
    | some fault => exact (Closing.of_not_counted hlast (hhalt fault rfl)).1
  rw [hnil, List.append_nil]
  exact count_clear_attempt_le hgoes

end Failing

/-! ## Cycles over any file -/

/-- Over a file that can be replaced, whatever it holds, a cycle asks the server unless the stop
signal is raised: with the settings in the file or, after one reset in which no failure is
counted, with the defaults, and then goes on as over a file that holds these. If any store fails
a cycle before the cycle has settings, nobody else is called, and the cycle asks for another one.
The settings are not reset twice before the server is asked; if it is not asked, then only after
a fault that is counted. -/
theorem run_recovers (remote : Surroundings σ) (config : Config) (now : Nat) {state : σ}
    (unraised : remote.isStopped state = false) {disk : Disk} (working : disk.IsWorking) :
    let turns (disk : Disk) := (run config now).turns remote.withStore (state, .file (.new disk))
    (∀ settings, FileStore.read disk = .ok settings → ∃ reply later,
      turns disk = ⟨.loadSettings, .answered (.ok settings)⟩ ::
        ⟨.fetchKeys settings.serverUrl, reply⟩ :: later) ∧
    (∀ reason, FileStore.read disk = .error reason → ∃ disk' reply later,
      disk'.HoldsDocument .default ∧
      remote.withStore.Path (state, .file (.new disk)) (resetting reason)
        (state, .file (.new disk')) ∧
      turns disk = resetting reason ++
        ⟨.fetchKeys Settings.default.serverUrl, reply⟩ :: later ∧
      turns disk' = ⟨.loadSettings, .answered (.ok .default)⟩ ::
        ⟨.fetchKeys Settings.default.serverUrl, reply⟩ :: later) ∧
    (∀ {τ : Type} (surroundings : Surroundings τ) {start between : τ} {opening : List Turn}
      {fault : Fault}, Opening opening (.error (some fault)) →
      surroundings.Path start opening between →
      let turns := (run config now).turns surroundings start
      let outcome := ((run config now).run surroundings start).value
      (∀ turn ∈ turns, turn.call.isStore = true) ∧
      ((∀ turn ∈ turns, turn.event.callEnd ≠ .crashed) → outcome = some .rescheduleRequested) ∧
      (fault.counted = false → turns = opening ∧ outcome = some .rescheduleRequested)) ∧
    ∀ {τ : Type} (surroundings : Surroundings τ) (start : τ),
      let turns := (run config now).turns surroundings start
      (∀ before base after, turns.map Turn.call = before ++ .fetchKeys base :: after →
        before.count .clearSettings ≤ 1) ∧
      ((∀ base, .fetchKeys base ∉ turns.map Turn.call) →
        (∀ turn ∈ turns, ∀ fault, turn.event.callEnd = .failed fault → fault.counted = false) →
        (turns.map Turn.call).count .clearSettings ≤ 1) := by
  refine ⟨?_, ?_, ?_, ?_⟩
  · exact fun settings hread => exists_turns_of_read unraised hread
  · exact fun reason hread => exists_turns_resetting unraised working hread
  · intro τ surroundings start between opening fault hopening path
    exact hopening.run_failed path config now
  · intro τ surroundings start turns
    exact ⟨fun _ _ _ => count_clear_le_of_fetch, count_clear_le_of_not_fetched⟩

/-- A file that is not text is replaced, and the server is asked. With a directory in the way of
the temporary file the cycle ends after two calls. -/
theorem run_recovers_undecodable :
    let remote := (answering []).withStore
    let start (temporary : DiskEntry) : List (Reply Bytes) × SettingsStore :=
      ([], .file (.new ⟨.file [0xFF], temporary, true⟩))
    let refused : List Turn := [⟨.loadSettings, .answered (.error (SettingsFault.read : Fault))⟩,
      ⟨.clearSettings, .answered (.error (SettingsFault.write : Fault))⟩]
    (∃ disk' : Disk, disk'.HoldsDocument .default ∧ ∃ reply later,
      (run .default 0).turns remote (start .missing) = resetting .read ++
        ⟨.fetchKeys Settings.default.serverUrl, reply⟩ :: later) ∧
    (run .default 0).turns remote (start .directory) = refused ∧
    ((run .default 0).run remote (start .directory)).value = some .rescheduleRequested := by
  intro remote start refused
  have unraised : (answering []).isStopped [] = false := rfl
  have working : (⟨.file [0xFF], .missing, true⟩ : Disk).IsWorking := ⟨rfl, by decide, by decide⟩
  obtain ⟨-, hreset, hfailed, -⟩ := run_recovers (answering []) .default 0 unraised working
  have opening : Opening refused (.error (some (SettingsFault.write : Fault))) :=
    .notCleared (by decide) rfl
  have path : remote.Path (start .directory) refused (start .directory) :=
    .cons rfl (.cons rfl (.nil _))
  obtain ⟨-, -, hrefused⟩ := hfailed remote opening path
  obtain ⟨disk', reply, later, hdocument, -, hturns, -⟩ := hreset .read rfl
  exact ⟨⟨disk', hdocument, reply, later, hturns⟩, hrefused rfl⟩

end Cycle

end KeyProvisioning
