import KeyProvisioning.Proofs.Cycle.Heeding
import KeyProvisioning.Proofs.Dialogue.Stopping

/-!
# Stopped cycles

A cycle whose stop signal is raised inside one of its calls goes through the first calls of the
cycle that is never stopped. It makes no guarded call after that one, and at most one signing
request.
-/

namespace KeyProvisioning.Cycle

variable {σ : Type} {surroundings : Surroundings σ} {request : Bool}
  {dialogue : Dialogue CycleOutcome}

/-! ## Calls made while the signal is raised -/

/-- Events without a guarded call and with at most so many signing requests. -/
structure Quiet (requests : Nat) (events : List Event) : Prop where
  unguarded : ∀ event ∈ events, event.call.isGuarded = false
  countP_le : events.countP (fun event => event.call.isRequest) ≤ requests

namespace Quiet

variable {requests : Nat} {events : List Event} {event : Event}

@[simp] theorem nil : Quiet requests [] := ⟨by simp, by simp⟩

theorem mono {more : Nat} (h : Quiet requests events) (hle : requests ≤ more) :
    Quiet more events :=
  ⟨h.unguarded, Nat.le_trans h.countP_le hle⟩

theorem cons (h : Quiet requests events) (unguarded : event.call.isGuarded = false)
    (noRequest : event.call.isRequest = false) : Quiet requests (event :: events) := by
  constructor
  · intro other hother
    rcases List.mem_cons.mp hother with rfl | hother
    · exact unguarded
    · exact h.unguarded other hother
  · rw [List.countP_cons_of_neg (by simp [noRequest])]
    exact h.countP_le

theorem cons_request (h : Quiet requests events) (unguarded : event.call.isGuarded = false) :
    Quiet (requests + 1) (event :: events) := by
  constructor
  · intro other hother
    rcases List.mem_cons.mp hother with rfl | hother
    · exact unguarded
    · exact h.unguarded other hother
  · rw [List.countP_cons]
    have hone : (if event.call.isRequest = true then 1 else 0) ≤ 1 := by split <;> omega
    exact Nat.add_le_add h.countP_le hone

end Quiet

/-- A look at the signal before it is raised. -/
theorem run_watch_unraised {millis : UInt64} {look : Bool → Dialogue CycleOutcome}
    {going : Dialogue CycleOutcome} (unraised : look false = going) (state : σ) (away : Nat) :
    (Dialogue.watch millis look).run surroundings.stopping (state, away + 1) =
      going.run surroundings.stopping (state, away + 1) := by
  rw [Dialogue.run, ← unraised]
  rfl

/-- A look at the signal once it is raised. -/
theorem run_watch_raised {millis : UInt64} {look : Bool → Dialogue CycleOutcome}
    {stopped : CycleOutcome} (raised : look true = .finish stopped) (state : σ) :
    (Dialogue.watch millis look).run surroundings.stopping (state, 0) =
      ⟨[], some stopped, state, 0⟩ :=
  congrArg (Dialogue.run surroundings.stopping · (state, 0)) raised

/-- Once the signal is raised no guarded call is made, and only a request that is still allowed
for. -/
theorem Heeds.quiet_of_raised (h : Heeds request dialogue) (state : σ) :
    Quiet request.toNat (dialogue.run surroundings.stopping (state, 0)).events := by
  induction h generalizing state with
  | finish outcome => exact .nil
  | @free request call next unguarded noRequest rest ih =>
    rcases hreply : surroundings.reply call state with ⟨result | _, state'⟩
    · rw [Dialogue.run_ask_answered (Surroundings.reply_stopping hreply 0)]
      exact (ih result state').cons unguarded noRequest
    · rw [Dialogue.run_ask_crashed (Surroundings.reply_stopping hreply 0)]
      exact Quiet.nil.cons unguarded noRequest
  | @request testMode count keyMaterial challenge level next rest ih =>
    rcases hreply :
        surroundings.reply (.generateCsr testMode count keyMaterial challenge level) state with
      ⟨result | _, state'⟩
    · rw [Dialogue.run_ask_answered (Surroundings.reply_stopping hreply 0)]
      exact (ih result state').cons_request rfl
    · rw [Dialogue.run_ask_crashed (Surroundings.reply_stopping hreply 0)]
      exact Quiet.nil.cons_request rfl
  | @guarded request millis look call next raised unraised rest ih =>
    rw [run_watch_raised raised]
    exact .nil

/-- What follows a call made before the signal is raised. -/
theorem quiet_drop_ask {call : Call} {next : Except Fault call.Answer → Dialogue CycleOutcome}
    (hnext : ∀ result state away, Quiet 1
      (((next result).run surroundings.stopping (state, away)).events.drop away))
    (state : σ) (away : Nat) :
    Quiet 1 (((Dialogue.ask call next).run surroundings.stopping
      (state, away + 1)).events.drop (away + 1)) := by
  rcases hreply : surroundings.reply call state with ⟨result | _, state'⟩
  · rw [Dialogue.run_ask_answered (Surroundings.reply_stopping hreply (away + 1))]
    exact hnext result state' away
  · rw [Dialogue.run_ask_crashed (Surroundings.reply_stopping hreply (away + 1))]
    simp

/-- After the call inside which the signal is raised no guarded call is made, and at most one
signing request. -/
theorem Heeds.quiet_drop (h : Heeds request dialogue) (state : σ) (away : Nat) :
    Quiet 1 ((dialogue.run surroundings.stopping (state, away)).events.drop away) := by
  induction h generalizing state away with
  | finish outcome => simp [Dialogue.run]
  | free unguarded noRequest rest ih =>
    cases away with
    | zero =>
      have hfree := Heeds.free unguarded noRequest rest
      exact (hfree.quiet_of_raised state).mono (Bool.toNat_le _)
    | succ away => exact quiet_drop_ask ih state away
  | request rest ih =>
    cases away with
    | zero => exact (Heeds.request rest).quiet_of_raised state
    | succ away =>
      apply quiet_drop_ask
      exact ih
  | guarded raised unraised rest ih =>
    cases away with
    | zero =>
      rw [run_watch_raised raised]
      exact .nil
    | succ away =>
      rw [run_watch_unraised unraised]
      exact quiet_drop_ask ih state away

/-! ## The stopped cycle beside the whole one -/

/-- A run goes through all the events of a whole one and ends alike, or it breaks off before. -/
inductive Truncates {τ : Type} (cut : Run τ CycleOutcome) (whole : Run σ CycleOutcome) : Prop
  | whole (events : cut.events = whole.events) (value : cut.value = whole.value)
  | early (value : cut.value = some .rescheduleRequested) (event : Event) (rest : List Event)
      (events : whole.events = cut.events ++ event :: rest)

theorem Truncates.after {τ : Type} {cut : Run τ CycleOutcome} {whole : Run σ CycleOutcome}
    (h : Truncates cut whole) (event : Event) :
    Truncates (cut.after event) (whole.after event) := by
  cases h with
  | whole events value => exact .whole (congrArg (List.cons event) events) value
  | early value next rest events =>
    exact .early value next rest (congrArg (List.cons event) events)

/-- The same call is made with and without the signal. -/
theorem truncates_ask {call : Call} {next : Except Fault call.Answer → Dialogue CycleOutcome}
    (hnext : ∀ result state away,
      Truncates ((next result).run surroundings.stopping (state, away))
        ((next result).run surroundings.unstopped state)) (state : σ) (away : Nat) :
    Truncates ((Dialogue.ask call next).run surroundings.stopping (state, away))
      ((Dialogue.ask call next).run surroundings.unstopped state) := by
  rcases hreply : surroundings.reply call state with ⟨result | _, state'⟩
  · have hunstopped : surroundings.unstopped.reply call state = (.answered result, state') :=
      hreply
    rw [Dialogue.run_ask_answered (Surroundings.reply_stopping hreply away),
      Dialogue.run_ask_answered hunstopped]
    exact (hnext result state' (away - 1)).after _
  · have hunstopped : surroundings.unstopped.reply call state = (.crashed, state') := hreply
    rw [Dialogue.run_ask_crashed (Surroundings.reply_stopping hreply away),
      Dialogue.run_ask_crashed hunstopped]
    exact .whole rfl rfl

/-- A stopped dialogue goes through all the events of the one that is never stopped and ends
alike, or it breaks off before. -/
theorem Heeds.truncates (h : Heeds request dialogue) (state : σ) (away : Nat) :
    Truncates (dialogue.run surroundings.stopping (state, away))
      (dialogue.run surroundings.unstopped state) := by
  induction h generalizing state away with
  | finish outcome => exact .whole rfl rfl
  | free unguarded noRequest rest ih => exact truncates_ask ih state away
  | request rest ih =>
    apply truncates_ask
    exact ih
  | @guarded request millis look call next raised unraised rest ih =>
    have hlook : (Dialogue.watch millis look).run surroundings.unstopped state =
        (Dialogue.ask call next).run surroundings.unstopped state := by
      rw [← unraised]
      rfl
    rw [hlook]
    cases away with
    | zero =>
      rw [run_watch_raised raised]
      rcases hreply : surroundings.unstopped.reply call state with ⟨result | _, state'⟩
      · rw [Dialogue.run_ask_answered hreply]
        exact .early rfl _ _ rfl
      · rw [Dialogue.run_ask_crashed hreply]
        exact .early rfl _ _ rfl
    | succ away =>
      rw [run_watch_unraised unraised]
      exact truncates_ask ih state (away + 1)

/-- Stopping a cycle only truncates it. It goes through the first events of the cycle that is never
stopped. After the call inside which the signal is raised there is no guarded call and at most one
signing request. Either nothing is left out and both end alike, or the stopped one asks for another
cycle and leaves behind what its calls left behind in the other. -/
theorem run_stopping_truncates (surroundings : Surroundings σ) (config : Config) (now : Nat)
    (state : σ) (away : Nat) :
    let whole := (run config now).run surroundings.unstopped state
    let cut := (run config now).run surroundings.stopping (state, away)
    cut.events <+: whole.events ∧
    (∀ event ∈ cut.events.drop away, event.call.isGuarded = false) ∧
    (cut.events.drop away).countP (fun event => event.call.isRequest) ≤ 1 ∧
    (cut.events = whole.events ∧ cut.value = whole.value ∧ cut.state.1 = whole.state ∨
      cut.events ≠ whole.events ∧ cut.value = some .rescheduleRequested ∧
        cut.state.1 = surroundings.stateAfter
          ((whole.events.take cut.events.length).map Event.call) state) := by
  intro whole cut
  have hheeds := heeds_run config now
  have hquiet : Quiet 1 (cut.events.drop away) := hheeds.quiet_drop state away
  have hcut : cut.state.1 = surroundings.stateAfter (cut.events.map Event.call) state := by
    calc
      cut.state.1 =
          (surroundings.stopping.stateAfter (cut.events.map Event.call) (state, away)).1 :=
        congrArg Prod.fst (Dialogue.state_run surroundings.stopping _ (state, away))
      _ = surroundings.stateAfter (cut.events.map Event.call) state :=
        Surroundings.stateAfter_stopping surroundings _ state away
  have hwhole : whole.state = surroundings.stateAfter (whole.events.map Event.call) state :=
    Dialogue.state_run surroundings.unstopped _ state
  have htruncates : Truncates cut whole := hheeds.truncates state away
  cases htruncates with
  | whole events value =>
    refine ⟨⟨[], ?_⟩, hquiet.unguarded, hquiet.countP_le, .inl ⟨events, value, ?_⟩⟩
    · rw [List.append_nil, events]
    · calc
        cut.state.1 = surroundings.stateAfter (cut.events.map Event.call) state := hcut
        _ = surroundings.stateAfter (whole.events.map Event.call) state := by rw [events]
        _ = whole.state := hwhole.symm
  | early value event rest events =>
    refine ⟨⟨event :: rest, events.symm⟩, hquiet.unguarded, hquiet.countP_le, .inr ⟨?_, value, ?_⟩⟩
    · rw [events]
      simp
    · have htake : whole.events.take cut.events.length = cut.events := by
        rw [events, List.take_left]
      rw [hcut, htake]

end KeyProvisioning.Cycle
