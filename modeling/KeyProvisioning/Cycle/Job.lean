import KeyProvisioning.Cycle.Basic
import KeyProvisioning.Cycle.Dialogue
import KeyProvisioning.Stop

/-!
# Jobs

A job runs a cycle on a thread of its own. Its owner keeps one handle of a fresh stop signal, the
thread looks at another one. The thread goes on step by step; between its steps and inside its
calls the owner can stop the job, and others can raise the signals of older handles. Joining a
thread that was taken down by a crash asks for another cycle.
-/

namespace KeyProvisioning

/-- A thread on its way through a dialogue. -/
inductive Worker (α : Type)
  /-- Between two calls. -/
  | running (rest : Dialogue α)
  /-- Inside a call: it was made, and there is no reply yet. -/
  | calling (call : Call) (next : Except Fault call.Answer → Dialogue α)
  | returned (value : α)
  /-- Taken down by a collaborator. -/
  | panicked

/-- A job with all that its thread can reach. -/
structure Job (σ : Type) where
  /-- The owner's handle of the job's signal. -/
  own : Nat
  /-- The thread's handle of the job's signal. -/
  watched : Nat
  /-- Every stop signal there is. -/
  signals : StopSignals
  worker : Worker CycleOutcome
  /-- The state of the collaborators. -/
  state : σ
  /-- The calls that have ended so far. -/
  events : List Event

/-- What can happen while a job is under way. -/
inductive JobAct
  /-- The thread goes on. -/
  | work
  /-- The owner stops the job. -/
  | stop
  /-- Somebody else raises the signal of a handle. -/
  | raise (handle : Nat)
  deriving DecidableEq

namespace Job

variable {σ : Type}

/-- A job whose thread is about to run a dialogue. -/
def start (dialogue : Dialogue CycleOutcome) (state : σ) (signals : StopSignals) : Job σ :=
  let own := signals.handles.length
  { own
    watched := own + 1
    signals := signals.new.clone own
    worker := .running dialogue
    state
    events := [] }

/-- The thread goes on by one step: it makes a call, takes the reply to it, looks at its signal or
returns. -/
def work (surroundings : Surroundings σ) (job : Job σ) : Job σ :=
  match job.worker with
  | .running (.finish value) => { job with worker := .returned value }
  | .running (.ask call next) => { job with worker := .calling call next }
  | .running (.watch _ next) =>
    { job with worker := .running (next (job.signals.isStopped job.watched)) }
  | .calling call next =>
    match surroundings.reply call job.state with
    | (.answered result, state) =>
      { job with
        worker := .running (next result)
        state
        events := job.events ++ [⟨call, (Reply.answered result).callEnd⟩] }
    | (.crashed, state) =>
      { job with worker := .panicked, state, events := job.events ++ [⟨call, .crashed⟩] }
  | .returned _ | .panicked => job

/-- Ask the cycle to stop where it next looks at its signal. -/
def stop (job : Job σ) : Job σ :=
  { job with signals := job.signals.stop job.own }

/-- One thing happens. -/
def act (surroundings : Surroundings σ) (job : Job σ) : JobAct → Job σ
  | .work => job.work surroundings
  | .stop => job.stop
  | .raise handle => { job with signals := job.signals.stop handle }

/-- The job after these things have happened. -/
def after (surroundings : Surroundings σ) (job : Job σ) (acts : List JobAct) : Job σ :=
  acts.foldl (act surroundings) job

/-- Whether the thread has ended. -/
def isFinished (job : Job σ) : Bool :=
  match job.worker with
  | .returned _ | .panicked => true
  | _ => false

/-- How the cycle of an ended thread ended; before that joining the thread waits. -/
def join? (job : Job σ) : Option CycleOutcome :=
  match job.worker with
  | .returned outcome => some outcome
  | .panicked => some .rescheduleRequested
  | _ => none

end Job

end KeyProvisioning
