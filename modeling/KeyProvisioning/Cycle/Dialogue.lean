import KeyProvisioning.Cycle.Call

/-!
# Dialogues

A dialogue is a procedure that reaches its collaborators only through calls: it is finished, or it
asks one call and goes on with the answer, or it looks at the stop signal and goes on with what it
saw. A dialogue holds no state of the outside, so what it does depends on the answers alone.
-/

namespace KeyProvisioning

/-- A procedure that ends with a value. -/
inductive Dialogue (α : Type) : Type
  | finish (value : α)
  /-- Make a call and go on with its answer. -/
  | ask (call : Call) (next : Except Fault call.Answer → Dialogue α)
  /-- Wait for so many milliseconds, or until the stop signal is raised, and go on with whether it
  is raised. -/
  | watch (millis : UInt64) (next : Bool → Dialogue α)

namespace Dialogue

/-- Go on with another dialogue once one has finished. -/
def bind {α β : Type} : Dialogue α → (α → Dialogue β) → Dialogue β
  | finish value, rest => rest value
  | ask call next, rest => ask call fun answer => bind (next answer) rest
  | watch millis next, rest => watch millis fun isStopped => bind (next isStopped) rest

instance : Monad Dialogue where
  pure := finish
  bind := bind

variable {α β : Type}

@[simp] theorem pure_eq_finish (value : α) : (pure value : Dialogue α) = finish value := rfl

@[simp] theorem finish_bind (value : α) (rest : α → Dialogue β) :
    finish value >>= rest = rest value := rfl

@[simp] theorem ask_bind (call : Call) (next : Except Fault call.Answer → Dialogue α)
    (rest : α → Dialogue β) :
    ask call next >>= rest = ask call fun answer => next answer >>= rest := rfl

@[simp] theorem watch_bind (millis : UInt64) (next : Bool → Dialogue α) (rest : α → Dialogue β) :
    watch millis next >>= rest = watch millis fun isStopped => next isStopped >>= rest := rfl

theorem bind_finish (dialogue : Dialogue α) : dialogue >>= finish = dialogue := by
  induction dialogue with
  | finish => rfl
  | ask call next ih => simp [ih]
  | watch millis next ih => simp [ih]

theorem bind_assoc {γ : Type} (dialogue : Dialogue α) (f : α → Dialogue β) (g : β → Dialogue γ) :
    dialogue >>= f >>= g = dialogue >>= fun value => f value >>= g := by
  induction dialogue with
  | finish => rfl
  | ask call next ih => simp [ih]
  | watch millis next ih => simp [ih]

instance : LawfulMonad Dialogue :=
  LawfulMonad.mk' Dialogue bind_finish (fun _ _ => rfl) bind_assoc

end Dialogue

/-- A dialogue that may end with a fault. -/
abbrev Procedure (α : Type) := ExceptT Fault Dialogue α

namespace Procedure

/-- Make a call; a fault of the collaborator ends the procedure. -/
def ask (call : Call) : Procedure call.Answer :=
  ExceptT.mk (.ask call .finish)

/-- Wait for so many milliseconds and fail as cancelled if the stop signal is raised by then. -/
def pause (millis : UInt64) : Procedure Unit :=
  ExceptT.mk <| .watch millis fun isStopped =>
    .finish (if isStopped then .error (.ofCause .cycleCancelled) else .ok ())

/-- Fail as cancelled if the stop signal is raised. -/
def check : Procedure Unit :=
  pause 0

/-- End with a result, which may be a fault. -/
def ofResult {ε α : Type} [Coe ε Fault] (result : Except ε α) : Procedure α :=
  ExceptT.mk (.finish (result.mapError fun reason => (Coe.coe reason : Fault)))

end Procedure

/-!
## Runs

A dialogue is run in surroundings that answer its calls and know whether the stop signal is
raised. The run keeps every call with its end, in order. A collaborator that crashes ends the run
at once: it has no value, and no call follows.
-/

/-- Collaborators and a stop signal over states of a type. -/
structure Surroundings (σ : Type) where
  /-- What the collaborator does with a call, and the state after it. -/
  reply : (call : Call) → σ → Reply call.Answer × σ
  /-- Whether the stop signal is raised. -/
  isStopped : σ → Bool

/-- What came of running a dialogue. -/
structure Run (σ α : Type) where
  /-- The calls in their order. -/
  events : List Event
  /-- The value at the end, or nothing after a crash. -/
  value : Option α
  /-- The state at the end. -/
  state : σ

namespace Run

variable {σ α β : Type}

/-- Put an event before a run. -/
def after (event : Event) (run : Run σ α) : Run σ α :=
  { run with events := event :: run.events }

/-- Go on with another run from where a run ended, unless it ended in a crash. -/
def andThen (run : Run σ α) (next : α → σ → Run σ β) : Run σ β :=
  match run.value with
  | none => ⟨run.events, none, run.state⟩
  | some value =>
    let rest := next value run.state
    { rest with events := run.events ++ rest.events }

theorem after_andThen (event : Event) (run : Run σ α) (next : α → σ → Run σ β) :
    (run.after event).andThen next = (run.andThen next).after event := by
  cases h : run.value <;> simp [andThen, after, h]

end Run

namespace Dialogue

/-- Run a dialogue from a state. -/
def run {σ α : Type} (surroundings : Surroundings σ) : Dialogue α → σ → Run σ α
  | finish value, state => ⟨[], some value, state⟩
  | ask call next, state =>
    match surroundings.reply call state with
    | (.answered result, state') =>
      (run surroundings (next result) state').after ⟨call, (Reply.answered result).callEnd⟩
    | (.crashed, state') => ⟨[⟨call, .crashed⟩], none, state'⟩
  | watch _ next, state => run surroundings (next (surroundings.isStopped state)) state

/-- Running one dialogue and then another is running the first and going on from its end. -/
theorem run_bind {σ α β : Type} (surroundings : Surroundings σ) (dialogue : Dialogue α)
    (next : α → Dialogue β) (state : σ) :
    run surroundings (dialogue >>= next) state =
      (run surroundings dialogue state).andThen fun value => run surroundings (next value) := by
  induction dialogue generalizing state with
  | finish value => simp [run, Run.andThen]
  | ask call answer ih =>
    simp only [ask_bind, run]
    split
    · rename_i result state' _
      rw [ih, Run.after_andThen]
    · rfl
  | watch millis answer ih => simp only [watch_bind, run, ih]

end Dialogue

end KeyProvisioning
