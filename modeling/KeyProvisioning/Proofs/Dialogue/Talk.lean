import KeyProvisioning.Cycle.Dialogue

/-!
# Talks

A turn is a call with the reply to it. The talks of a dialogue are the lists of turns it can go
through, whatever its collaborators reply, each with the value at its end. Every run is a talk
along the states of its surroundings. The talks of a procedure are read off those of its parts.
-/

namespace KeyProvisioning

/-- A call with the reply to it. -/
structure Turn where
  call : Call
  reply : Reply call.Answer

/-- The surroundings with a stop signal that is never raised. -/
def Surroundings.unstopped {σ : Type} (surroundings : Surroundings σ) : Surroundings σ :=
  { surroundings with isStopped := fun _ => false }

/-- The event that a run keeps of a turn. -/
def Turn.event (turn : Turn) : Event :=
  ⟨turn.call, turn.reply.callEnd⟩

/-- Surroundings pass through these turns from one state to another. -/
inductive Surroundings.Path {σ : Type} (surroundings : Surroundings σ) : σ → List Turn → σ → Prop
  | nil (state : σ) : Path surroundings state [] state
  | cons {call : Call} {state between final : σ} {reply : Reply call.Answer} {turns : List Turn}
      (replied : surroundings.reply call state = (reply, between))
      (rest : Path surroundings between turns final) :
      Path surroundings state (⟨call, reply⟩ :: turns) final

/-- A path of two parts leads over a state between them. -/
theorem Surroundings.Path.split {σ : Type} {surroundings : Surroundings σ} {state final : σ}
    {first rest : List Turn} (h : surroundings.Path state (first ++ rest) final) :
    ∃ between, surroundings.Path state first between ∧ surroundings.Path between rest final := by
  induction first generalizing state with
  | nil => exact ⟨state, .nil state, h⟩
  | cons turn first ih =>
    cases h with
    | cons replied tail =>
      obtain ⟨between, hfirst, hrest⟩ := ih tail
      exact ⟨between, .cons replied hfirst, hrest⟩

namespace Dialogue

variable {σ α β : Type} {mayStop : Prop}

/-- The turns of a run. -/
def turns (surroundings : Surroundings σ) : Dialogue α → σ → List Turn
  | finish _, _ => []
  | ask call next, state =>
    match surroundings.reply call state with
    | (.answered result, state') =>
      ⟨call, .answered result⟩ :: turns surroundings (next result) state'
    | (.crashed, _) => [⟨call, .crashed⟩]
  | watch _ next, state => turns surroundings (next (surroundings.isStopped state)) state

section Ask

variable {surroundings : Surroundings σ} {call : Call} {state state' : σ}
  {next : Except Fault call.Answer → Dialogue α}

theorem run_ask_answered {result : Except Fault call.Answer}
    (h : surroundings.reply call state = (.answered result, state')) :
    (ask call next).run surroundings state =
      ((next result).run surroundings state').after ⟨call, (Reply.answered result).callEnd⟩ := by
  simp only [run, h]

theorem run_ask_crashed (h : surroundings.reply call state = (.crashed, state')) :
    (ask call next).run surroundings state = ⟨[⟨call, .crashed⟩], none, state'⟩ := by
  simp only [run, h]

theorem turns_ask_answered {result : Except Fault call.Answer}
    (h : surroundings.reply call state = (.answered result, state')) :
    (ask call next).turns surroundings state =
      ⟨call, .answered result⟩ :: (next result).turns surroundings state' := by
  simp only [turns, h]

theorem turns_ask_crashed (h : surroundings.reply call state = (.crashed, state')) :
    (ask call next).turns surroundings state = [⟨call, .crashed⟩] := by
  simp only [turns, h]

end Ask

/-- The events of a run are those of its turns. -/
theorem events_run (surroundings : Surroundings σ) (dialogue : Dialogue α) (state : σ) :
    (dialogue.run surroundings state).events =
      (dialogue.turns surroundings state).map Turn.event := by
  induction dialogue generalizing state with
  | finish value => rfl
  | ask call next ih =>
    rcases h : surroundings.reply call state with ⟨result | _, state'⟩
    · rw [run_ask_answered h, turns_ask_answered h, List.map_cons, ← ih result state']
      rfl
    · rw [run_ask_crashed h, turns_ask_crashed h]
      rfl
  | watch millis next ih => exact ih _ state

/-- A run passes through its turns. -/
theorem path_run (surroundings : Surroundings σ) (dialogue : Dialogue α) (state : σ) :
    surroundings.Path state (dialogue.turns surroundings state)
      (dialogue.run surroundings state).state := by
  induction dialogue generalizing state with
  | finish value => exact .nil state
  | ask call next ih =>
    rcases h : surroundings.reply call state with ⟨result | _, state'⟩
    · rw [run_ask_answered h, turns_ask_answered h]
      exact .cons h (ih result state')
    · rw [run_ask_crashed h, turns_ask_crashed h]
      exact .cons h (.nil state')
  | watch millis next ih => exact ih _ state

/-- The turns of one dialogue and then another, which a crash of the first one leaves out. -/
theorem turns_bind (surroundings : Surroundings σ) (dialogue : Dialogue α)
    (next : α → Dialogue β) (state : σ) :
    (dialogue >>= next).turns surroundings state =
      dialogue.turns surroundings state ++
        (dialogue.run surroundings state).value.elim [] fun value =>
          (next value).turns surroundings (dialogue.run surroundings state).state := by
  induction dialogue generalizing state with
  | finish value => rfl
  | ask call answer ih =>
    rcases h : surroundings.reply call state with ⟨result | _, state'⟩
    · rw [ask_bind, turns_ask_answered h, turns_ask_answered h, run_ask_answered h,
        ih result state']
      rfl
    · rw [ask_bind, turns_ask_crashed h, turns_ask_crashed h, run_ask_crashed h]
      rfl
  | watch millis answer ih => exact ih _ state

/-- Turns that a dialogue can go through, with the value at its end or nothing after a crash. The
stop signal is seen raised only if it may be. -/
inductive Talk (mayStop : Prop) : Dialogue α → List Turn → Option α → Prop
  | finish (value : α) : Talk mayStop (.finish value) [] (some value)
  | answered {call : Call} {next : Except Fault call.Answer → Dialogue α} {turns : List Turn}
      {value : Option α} (result : Except Fault call.Answer)
      (rest : Talk mayStop (next result) turns value) :
      Talk mayStop (.ask call next) (⟨call, .answered result⟩ :: turns) value
  | crashed {call : Call} {next : Except Fault call.Answer → Dialogue α} :
      Talk mayStop (.ask call next) [⟨call, .crashed⟩] none
  | watch {millis : UInt64} {next : Bool → Dialogue α} {turns : List Turn} {value : Option α}
      (isStopped : Bool) (allowed : isStopped = true → mayStop)
      (rest : Talk mayStop (next isStopped) turns value) :
      Talk mayStop (.watch millis next) turns value

/-- Every run is a talk. -/
theorem talk_run (surroundings : Surroundings σ)
    (allowed : ∀ state, surroundings.isStopped state = true → mayStop)
    (dialogue : Dialogue α) (state : σ) :
    Talk mayStop dialogue (dialogue.turns surroundings state)
      (dialogue.run surroundings state).value := by
  induction dialogue generalizing state with
  | finish value => exact .finish value
  | ask call next ih =>
    rcases h : surroundings.reply call state with ⟨result | _, state'⟩
    · rw [run_ask_answered h, turns_ask_answered h]
      exact .answered result (ih result state')
    · rw [run_ask_crashed h, turns_ask_crashed h]
      exact .crashed
  | watch millis next ih => exact .watch _ (allowed state) (ih _ state)

/-- A talk ends without a value only where a collaborator crashes. -/
theorem Talk.exists_crashed {dialogue : Dialogue α} {turns : List Turn}
    (h : Talk mayStop dialogue turns none) : ∃ call, ⟨call, .crashed⟩ ∈ turns := by
  generalize hnone : (none : Option α) = value at h
  induction h with
  | finish value => cases hnone
  | answered result _ ih =>
    obtain ⟨call, hmem⟩ := ih hnone
    exact ⟨call, List.mem_cons_of_mem _ hmem⟩
  | @crashed call => exact ⟨call, List.mem_cons_self⟩
  | watch _ _ _ ih => exact ih hnone

/-- Without a value a dialogue ends with the one call that crashes. -/
theorem Talk.exists_eq_append {dialogue : Dialogue α} {turns : List Turn}
    (h : Talk mayStop dialogue turns none) :
    ∃ front call, turns = front ++ [⟨call, .crashed⟩] ∧
      ∀ turn ∈ front, turn.event.callEnd ≠ .crashed := by
  generalize hnone : (none : Option α) = value at h
  induction h with
  | finish value => cases hnone
  | @answered call next turns value result rest ih =>
    obtain ⟨front, last, rfl, hfront⟩ := ih hnone
    refine ⟨⟨call, .answered result⟩ :: front, last, rfl, ?_⟩
    intro turn hmem
    rcases List.mem_cons.mp hmem with rfl | hmem
    · cases result <;> simp [Turn.event, Reply.callEnd]
    · exact hfront turn hmem
  | @crashed call => exact ⟨[], call, rfl, by simp⟩
  | watch _ _ _ ih => exact ih hnone

/-- With a value no call of a dialogue crashes. -/
theorem Talk.not_crashed {dialogue : Dialogue α} {turns : List Turn} {value : α}
    (h : Talk mayStop dialogue turns (some value)) :
    ∀ turn ∈ turns, turn.event.callEnd ≠ .crashed := by
  generalize hsome : some value = ending at h
  induction h with
  | finish value => simp
  | @answered call next turns ending result rest ih =>
    intro turn hmem
    rcases List.mem_cons.mp hmem with rfl | hmem
    · cases result <;> simp [Turn.event, Reply.callEnd]
    · exact ih hsome turn hmem
  | crashed => cases hsome
  | watch _ _ _ ih => exact ih hsome

/-- A run in which nothing crashes has a value. -/
theorem exists_value_of_calm (surroundings : Surroundings σ) (dialogue : Dialogue α) (state : σ)
    (calm : ∀ event ∈ (dialogue.run surroundings state).events, event.callEnd ≠ .crashed) :
    ∃ value, (dialogue.run surroundings state).value = some value := by
  rw [← Option.ne_none_iff_exists']
  intro hnone
  have htalk := talk_run surroundings (fun _ _ => trivial) dialogue state
  rw [hnone] at htalk
  obtain ⟨call, hmem⟩ := htalk.exists_crashed
  rw [events_run] at calm
  exact calm _ (List.mem_map_of_mem hmem) rfl

/-- A run in which something crashes has no value. -/
theorem value_eq_none_of_crashed {surroundings : Surroundings σ} {dialogue : Dialogue α}
    {state : σ} {event : Event} (hmem : event ∈ (dialogue.run surroundings state).events)
    (crashed : event.callEnd = .crashed) : (dialogue.run surroundings state).value = none := by
  rw [Option.eq_none_iff_forall_not_mem]
  intro value hvalue
  have htalk := talk_run surroundings (fun _ _ => trivial) dialogue state
  rw [Option.mem_def.mp hvalue] at htalk
  rw [events_run] at hmem
  obtain ⟨turn, hturn, rfl⟩ := List.mem_map.mp hmem
  exact htalk.not_crashed turn hturn crashed

/-- A talk of one dialogue and then another is made of a talk of each, unless the first crashes. -/
theorem Talk.of_bind {dialogue : Dialogue α} {next : α → Dialogue β} {turns : List Turn}
    {value : Option β} (h : Talk mayStop (dialogue >>= next) turns value) :
    (∃ result first rest, Talk mayStop dialogue first (some result) ∧
      Talk mayStop (next result) rest value ∧ turns = first ++ rest) ∨
    (Talk mayStop dialogue turns none ∧ value = none) := by
  induction dialogue generalizing turns with
  | finish result => exact .inl ⟨result, [], turns, .finish result, h, rfl⟩
  | ask call answer ih =>
    cases h with
    | answered reply tail =>
      rcases ih reply tail with ⟨result, first, rest, hfirst, hrest, rfl⟩ | ⟨hcrash, hvalue⟩
      · exact .inl ⟨result, _ :: first, rest, .answered reply hfirst, hrest, rfl⟩
      · exact .inr ⟨.answered reply hcrash, hvalue⟩
    | crashed => exact .inr ⟨.crashed, rfl⟩
  | watch millis answer ih =>
    cases h with
    | watch isStopped allowed tail =>
      rcases ih isStopped tail with ⟨result, first, rest, hfirst, hrest, hturns⟩ | ⟨hcrash, hvalue⟩
      · exact .inl ⟨result, first, rest, .watch isStopped allowed hfirst, hrest, hturns⟩
      · exact .inr ⟨.watch isStopped allowed hcrash, hvalue⟩

section Leads

variable {surroundings : Surroundings σ} {state between final : σ} {turns : List Turn}

/-- A dialogue leads from a state over these turns to a value in another state. -/
structure Leads (surroundings : Surroundings σ) (dialogue : Dialogue α) (state : σ)
    (turns : List Turn) (value : α) (final : σ) : Prop where
  turns_eq : dialogue.turns surroundings state = turns
  run_eq : dialogue.run surroundings state = ⟨turns.map Turn.event, some value, final⟩

theorem leads_finish (value : α) : Leads surroundings (.finish value) state [] value state :=
  ⟨rfl, rfl⟩

/-- A call that is answered leads on with its answer. -/
theorem Leads.ask {call : Call} {next : Except Fault call.Answer → Dialogue α} {value : α}
    {result : Except Fault call.Answer}
    (replied : surroundings.reply call state = (.answered result, between))
    (rest : Leads surroundings (next result) between turns value final) :
    Leads surroundings (.ask call next) state (⟨call, .answered result⟩ :: turns) value final where
  turns_eq := by rw [turns_ask_answered replied, rest.turns_eq]
  run_eq := by
    rw [run_ask_answered replied, rest.run_eq]
    rfl

/-- What follows a dialogue goes on from where the dialogue leads. -/
theorem Leads.bind {dialogue : Dialogue α} {value : α}
    (h : Leads surroundings dialogue state turns value between) (next : α → Dialogue β) :
    (dialogue >>= next).turns surroundings state =
        turns ++ (next value).turns surroundings between ∧
      ((dialogue >>= next).run surroundings state).value =
        ((next value).run surroundings between).value := by
  rw [turns_bind, run_bind, h.turns_eq, h.run_eq]
  exact ⟨rfl, rfl⟩

/-- A call comes first among the turns of the dialogue that asks it. -/
theorem exists_turns_ask (surroundings : Surroundings σ) (call : Call)
    (next : Except Fault call.Answer → Dialogue α) (state : σ) :
    ∃ reply later, (ask call next).turns surroundings state = ⟨call, reply⟩ :: later := by
  rcases h : surroundings.reply call state with ⟨result | _, state'⟩
  · exact ⟨_, _, turns_ask_answered h⟩
  · exact ⟨_, _, turns_ask_crashed h⟩

end Leads

end Dialogue

/-- Why a procedure broke off: a fault, or nothing after a crash. -/
abbrev Halt := Option Fault

/-- What ended a procedure before its value, if anything did. -/
def haltOf {α : Type} : Except Halt α → Option Halt
  | .ok _ => none
  | .error halt => some halt

@[simp] theorem haltOf_map {α β : Type} (f : α → β) (ending : Except Halt α) :
    haltOf (ending.map f) = haltOf ending := by
  cases ending <;> rfl

theorem haltOf_eq_none_iff {α : Type} {ending : Except Halt α} :
    haltOf ending = none ↔ ∃ value, ending = .ok value := by
  cases ending <;> simp [haltOf]

theorem haltOf_eq_some_iff {α : Type} {ending : Except Halt α} {halt : Halt} :
    haltOf ending = some halt ↔ ending = .error halt := by
  cases ending <;> simp [haltOf]

/-- The value of a dialogue whose procedure ended so. -/
def Halt.valueOf {α : Type} : Except Halt α → Option (Except Fault α)
  | .ok value => some (.ok value)
  | .error (some fault) => some (.error fault)
  | .error none => none

theorem Halt.exists_valueOf_eq {α : Type} (value : Option (Except Fault α)) :
    ∃ ending, valueOf ending = value := by
  rcases value with _ | fault | result
  · exact ⟨.error none, rfl⟩
  · exact ⟨.error (some fault), rfl⟩
  · exact ⟨.ok result, rfl⟩

theorem Halt.valueOf_injective {α : Type} {a b : Except Halt α} (h : valueOf a = valueOf b) :
    a = b := by
  rcases a with (_ | _) | _ <;> rcases b with (_ | _) | _ <;> cases h <;> rfl

/-- How a call with this reply ends in a procedure. -/
def Reply.ending {α : Type} : Reply α → Except Halt α
  | .answered (.ok answer) => .ok answer
  | .answered (.error fault) => .error (some fault)
  | .crashed => .error none

theorem Reply.ending_eq_ok_iff {α : Type} {reply : Reply α} {answer : α} :
    reply.ending = .ok answer ↔ reply = .answered (.ok answer) := by
  rcases reply with (_ | _) | _ <;> simp [ending]

theorem Reply.ending_eq_fault_iff {α : Type} {reply : Reply α} {fault : Fault} :
    reply.ending = .error (some fault) ↔ reply = .answered (.error fault) := by
  rcases reply with (_ | _) | _ <;> simp [ending]

theorem Reply.ending_eq_crash_iff {α : Type} {reply : Reply α} :
    reply.ending = .error none ↔ reply = .crashed := by
  rcases reply with (_ | _) | _ <;> simp [ending]

namespace Procedure

variable {α β : Type} {mayStop : Prop} {turns : List Turn}

/-- A procedure can go through these turns to this ending. -/
def Goes (mayStop : Prop) (procedure : Procedure α) (turns : List Turn) (ending : Except Halt α) :
    Prop :=
  Dialogue.Talk mayStop procedure.run turns (Halt.valueOf ending)

/-- What a procedure that ends at once with a result goes through. -/
theorem goes_finish_iff {result : Except Fault α} {ending : Except Halt α} :
    Goes mayStop (ExceptT.mk (.finish result)) turns ending ↔
      turns = [] ∧ Halt.valueOf ending = some result := by
  constructor
  · intro h
    rw [Goes] at h
    generalize hv : Halt.valueOf ending = value at h
    cases h
    exact ⟨rfl, rfl⟩
  · rintro ⟨rfl, hv⟩
    rw [Goes, hv]
    exact .finish result

@[simp] theorem goes_pure_iff {value : α} {ending : Except Halt α} :
    Goes mayStop (pure value) turns ending ↔ turns = [] ∧ ending = .ok value := by
  refine goes_finish_iff.trans (and_congr_right fun _ => ?_)
  exact ⟨fun h => Halt.valueOf_injective h, fun h => congrArg Halt.valueOf h⟩

@[simp] theorem goes_throw_iff {fault : Fault} {ending : Except Halt α} :
    Goes mayStop (throw fault) turns ending ↔ turns = [] ∧ ending = .error (some fault) := by
  refine goes_finish_iff.trans (and_congr_right fun _ => ?_)
  exact ⟨fun h => Halt.valueOf_injective h, fun h => congrArg Halt.valueOf h⟩

@[simp] theorem goes_ofResult_ok_iff {ε : Type} [Coe ε Fault] {value : α}
    {ending : Except Halt α} :
    Goes mayStop (ofResult (.ok value : Except ε α)) turns ending ↔
      turns = [] ∧ ending = .ok value :=
  goes_pure_iff

@[simp] theorem goes_ofResult_error_iff {ε : Type} [Coe ε Fault] {reason : ε}
    {ending : Except Halt α} :
    Goes mayStop (ofResult (.error reason : Except ε α)) turns ending ↔
      turns = [] ∧ ending = .error (some (Coe.coe reason)) :=
  goes_throw_iff

@[simp] theorem goes_ask_iff {call : Call} {ending : Except Halt call.Answer} :
    Goes mayStop (ask call) turns ending ↔
      ∃ reply, turns = [⟨call, reply⟩] ∧ reply.ending = ending := by
  constructor
  · intro h
    rw [Goes] at h
    generalize hv : Halt.valueOf ending = value at h
    cases h with
    | answered result rest =>
      cases rest
      refine ⟨.answered result, rfl, Halt.valueOf_injective (Eq.trans ?_ hv.symm)⟩
      cases result <;> rfl
    | crashed => exact ⟨.crashed, rfl, Halt.valueOf_injective hv.symm⟩
  · rintro ⟨reply, rfl, rfl⟩
    rcases reply with (fault | answer) | _
    · exact .answered _ (.finish _)
    · exact .answered _ (.finish _)
    · exact .crashed

theorem goes_ask_ok_iff {call : Call} {answer : call.Answer} :
    Goes mayStop (ask call) turns (.ok answer) ↔ turns = [⟨call, .answered (.ok answer)⟩] := by
  simp [Reply.ending_eq_ok_iff]

theorem goes_ask_fault_iff {call : Call} {fault : Fault} :
    Goes mayStop (ask call) turns (.error (some fault)) ↔
      turns = [⟨call, .answered (.error fault)⟩] := by
  simp [Reply.ending_eq_fault_iff]

theorem goes_ask_crash_iff {call : Call} :
    Goes mayStop (ask call) turns (.error none) ↔ turns = [⟨call, .crashed⟩] := by
  simp [Reply.ending_eq_crash_iff]

/-- A look at the stop signal makes no call, and fails only if the signal may be raised. -/
theorem Goes.of_pause {millis : UInt64} {ending : Except Halt Unit}
    (h : Goes mayStop (pause millis) turns ending) :
    turns = [] ∧ (ending = .ok () ∨
      mayStop ∧ ending = .error (some (.ofCause .cycleCancelled))) := by
  rw [Goes] at h
  generalize hv : Halt.valueOf ending = value at h
  cases h with
  | watch isStopped allowed rest =>
    cases rest
    cases isStopped with
    | false => exact ⟨rfl, .inl (Halt.valueOf_injective hv)⟩
    | true => exact ⟨rfl, .inr ⟨allowed rfl, Halt.valueOf_injective hv⟩⟩

/-- A procedure and then another go through the turns of both, unless the first breaks off. -/
theorem Goes.of_bind {procedure : Procedure α} {next : α → Procedure β} {ending : Except Halt β}
    (h : Goes mayStop (procedure >>= next) turns ending) :
    (∃ value first rest, Goes mayStop procedure first (.ok value) ∧
      Goes mayStop (next value) rest ending ∧ turns = first ++ rest) ∨
    ∃ halt, Goes mayStop procedure turns (.error halt) ∧ ending = .error halt := by
  rcases Dialogue.Talk.of_bind h with ⟨result, first, rest, hfirst, hrest, rfl⟩ | ⟨hcrash, hvalue⟩
  · cases result with
    | ok value => exact .inl ⟨value, first, rest, hfirst, hrest, rfl⟩
    | error fault =>
      generalize hv : Halt.valueOf ending = v at hrest
      cases hrest
      refine .inr ⟨some fault, ?_, Halt.valueOf_injective hv⟩
      rw [List.append_nil]
      exact hfirst
  · exact .inr ⟨none, hcrash, Halt.valueOf_injective hvalue⟩

/-- A procedure whose faults are handled goes to its end or, after a fault, on with the handler. -/
theorem Goes.of_tryCatch {procedure : Procedure α} {handler : Fault → Procedure α}
    {ending : Except Halt α} (h : Goes mayStop (tryCatch procedure handler) turns ending) :
    (∃ fault first rest, Goes mayStop procedure first (.error (some fault)) ∧
      Goes mayStop (handler fault) rest ending ∧ turns = first ++ rest) ∨
    (∃ value, Goes mayStop procedure turns (.ok value) ∧ ending = .ok value) ∨
    (Goes mayStop procedure turns (.error none) ∧ ending = .error none) := by
  rcases Dialogue.Talk.of_bind h with ⟨result, first, rest, hfirst, hrest, rfl⟩ | ⟨hcrash, hvalue⟩
  · cases result with
    | ok value =>
      generalize hv : Halt.valueOf ending = v at hrest
      cases hrest
      refine .inr (.inl ⟨value, ?_, Halt.valueOf_injective hv⟩)
      rw [List.append_nil]
      exact hfirst
    | error fault => exact .inl ⟨fault, first, rest, hfirst, hrest, rfl⟩
  · exact .inr (.inr ⟨hcrash, Halt.valueOf_injective hvalue⟩)

section Bind

variable {σ : Type} {surroundings : Surroundings σ} {state state' : σ}

/-- A call that is answered leads on with its answer. -/
theorem ask_bind_of_answered {call : Call} {answer : call.Answer}
    {next : call.Answer → Procedure α}
    (replied : surroundings.reply call state = (.answered (.ok answer), state')) :
    (ask call >>= next).run.turns surroundings state =
        ⟨call, .answered (.ok answer)⟩ :: (next answer).run.turns surroundings state' ∧
      ((ask call >>= next).run.run surroundings state).value =
        ((next answer).run.run surroundings state').value := by
  have hrun : (ask call >>= next).run =
      .ask call fun result => .finish result >>= ExceptT.bindCont next := rfl
  rw [hrun, Dialogue.turns_ask_answered replied, Dialogue.run_ask_answered replied]
  exact ⟨rfl, rfl⟩

/-- A look at a stop signal that is not raised leads on. -/
theorem check_bind_of_unraised {next : Unit → Procedure α}
    (unraised : surroundings.isStopped state = false) :
    (check >>= next).run.turns surroundings state = (next ()).run.turns surroundings state ∧
      ((check >>= next).run.run surroundings state).value =
        ((next ()).run.run surroundings state).value := by
  have hrun : (check >>= next).run = .watch 0 fun isStopped =>
      .finish (if isStopped then .error (.ofCause .cycleCancelled) else .ok ()) >>=
        ExceptT.bindCont next := rfl
  rw [hrun, Dialogue.turns, Dialogue.run, unraised]
  exact ⟨rfl, rfl⟩

end Bind

/-- A procedure goes where a run of it goes. -/
theorem exists_goes {σ : Type} (surroundings : Surroundings σ)
    (allowed : ∀ state, surroundings.isStopped state = true → mayStop) (procedure : Procedure α)
    (state : σ) :
    ∃ ending, Halt.valueOf ending = (procedure.run.run surroundings state).value ∧
      procedure.Goes mayStop (procedure.run.turns surroundings state) ending := by
  obtain ⟨ending, hvalue⟩ := Halt.exists_valueOf_eq (procedure.run.run surroundings state).value
  refine ⟨ending, hvalue, ?_⟩
  rw [Goes, hvalue]
  exact Dialogue.talk_run surroundings allowed _ state

end Procedure

end KeyProvisioning
