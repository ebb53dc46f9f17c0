import KeyProvisioning.Fault

/-!
# Stop signals

A stop signal is raised once and stays raised. Cloning a handle gives another handle of the same
signal. The state of all signals is a list of handles, each naming its signal, and a list of the
signals, each raised or not.
-/

namespace KeyProvisioning

/-- All handles made so far, each with the index of its signal, and whether each signal is
raised. -/
structure StopSignals where
  /-- The signal of each handle, in the order in which the handles were made. -/
  handles : List Nat
  /-- Whether each signal is raised. -/
  raised : List Bool
  deriving DecidableEq, Repr

namespace StopSignals

/-- No handle yet. -/
def empty : StopSignals := ⟨[], []⟩

/-- A handle of a fresh signal. -/
def new (signals : StopSignals) : StopSignals :=
  ⟨signals.handles ++ [signals.raised.length], signals.raised ++ [false]⟩

/-- One more handle of the signal of handle `i`. -/
def clone (signals : StopSignals) (i : Nat) : StopSignals :=
  match signals.handles[i]? with
  | some signal => ⟨signals.handles ++ [signal], signals.raised⟩
  | none => signals

/-- Raise the signal of handle `i`. -/
def stop (signals : StopSignals) (i : Nat) : StopSignals :=
  match signals.handles[i]? with
  | some signal => ⟨signals.handles, signals.raised.set signal true⟩
  | none => signals

/-- Whether the signal of handle `i` is raised. -/
def isStopped (signals : StopSignals) (i : Nat) : Bool :=
  match signals.handles[i]? with
  | some signal => signals.raised[signal]?.getD false
  | none => false

/-- Fails as cancelled once the signal of handle `i` is raised. -/
def check (signals : StopSignals) (i : Nat) : Except Fault Unit :=
  if signals.isStopped i then .error (.ofCause .cycleCancelled) else .ok ()

/-- Wait `duration` milliseconds at handle `i`. A stop that arrives `stopAfter` milliseconds into
the wait raises the signal, and ends the wait early when it comes before its end. -/
def pause (signals : StopSignals) (i duration : Nat) (stopAfter : Option Nat) :
    Except Fault Unit × StopSignals :=
  match stopAfter with
  | none => (signals.check i, signals)
  | some delay =>
    if delay < duration then ((signals.stop i).check i, signals.stop i)
    else (signals.check i, signals.stop i)

end StopSignals

/-- An operation on the handles of stop signals. -/
inductive StopOperation
  | new
  | clone (handle : Nat)
  | stop (handle : Nat)
  | isStopped (handle : Nat)
  | check (handle : Nat)
  /-- Wait for `duration` milliseconds, interrupted by a stop `stopAfter` milliseconds into it. -/
  | pause (handle duration : Nat) (stopAfter : Option Nat)
  deriving DecidableEq, Repr

/-- What an operation on stop signals answers. -/
inductive StopAnswer
  /-- The index of the handle just made. -/
  | handle (index : Nat)
  | done
  | stopped (isStopped : Bool)
  | outcome (result : Except Fault Unit)

namespace StopSignals

/-- Perform one operation. -/
def perform (signals : StopSignals) : StopOperation → StopAnswer × StopSignals
  | .new => (.handle signals.handles.length, signals.new)
  | .clone i => (.handle signals.handles.length, signals.clone i)
  | .stop i => (.done, signals.stop i)
  | .isStopped i => (.stopped (signals.isStopped i), signals)
  | .check i => (.outcome (signals.check i), signals)
  | .pause i duration stopAfter =>
    let (result, signals') := signals.pause i duration stopAfter
    (.outcome result, signals')

/-- Perform operations one after another. -/
def performAll (signals : StopSignals) : List StopOperation → List StopAnswer × StopSignals
  | [] => ([], signals)
  | operation :: rest =>
    let (answer, signals') := signals.perform operation
    let (answers, final) := signals'.performAll rest
    (answer :: answers, final)

end StopSignals

/-!
## Stop signals shared by threads

Several threads use the handles of stop signals. While one waits at a handle the others go on,
and waits may overlap. A wait returns once its time is over or its signal is raised, and what it
answers is settled when it returns.
-/

/-- The handle that an operation is performed on. -/
def StopOperation.handle? : StopOperation → Option Nat
  | .new => none
  | .clone i | .stop i | .isStopped i | .check i | .pause i _ _ => some i

/-- A wait that has not returned. -/
structure StopWait where
  /-- The handle that is looked at. -/
  handle : Nat
  /-- When the time of the wait is over. -/
  deadline : Nat
  deriving DecidableEq, Repr

/-- Stop signals and the threads that wait at them. -/
structure SharedSignals where
  signals : StopSignals
  /-- The milliseconds that have passed. -/
  now : Nat
  /-- All waits in the order in which they began; nothing is left of one that has returned. -/
  waits : List (Option StopWait)
  deriving DecidableEq, Repr

/-- What can happen to shared stop signals. -/
inductive SharedAct
  /-- A thread performs an operation all in one: nothing else happens before it is over. -/
  | perform (operation : StopOperation)
  /-- A thread begins to wait at a handle for `duration` milliseconds. -/
  | beginWait (handle duration : Nat)
  /-- Time passes. -/
  | pass (millis : Nat)
  /-- The wait that began as the one with this index returns. -/
  | endWait (wait : Nat)
  deriving DecidableEq, Repr

namespace SharedSignals

/-- Nobody has made a handle yet. -/
def empty : SharedSignals := ⟨.empty, 0, []⟩

/-- One thing happens, if it can: handles that were not made cannot be used, and a wait that is
neither over nor told to stop does not return. -/
def step (shared : SharedSignals) : SharedAct → Option (StopAnswer × SharedSignals)
  | .perform operation =>
    if ∀ i ∈ operation.handle?, i < shared.signals.handles.length then
      let (answer, signals) := shared.signals.perform operation
      some (answer, { shared with signals })
    else none
  | .beginWait i duration =>
    if i < shared.signals.handles.length then
      some (.done, { shared with waits := shared.waits ++ [some ⟨i, shared.now + duration⟩] })
    else none
  | .pass millis => some (.done, { shared with now := shared.now + millis })
  | .endWait index =>
    match shared.waits[index]? with
    | some (some wait) =>
      if wait.deadline ≤ shared.now ∨ shared.signals.isStopped wait.handle = true then
        some (.outcome (shared.signals.check wait.handle),
          { shared with waits := shared.waits.set index none })
      else none
    | _ => none

/-- These things happen one after another, with an answer to each. -/
def run : SharedSignals → List SharedAct → Option (List StopAnswer × SharedSignals)
  | shared, [] => some ([], shared)
  | shared, act :: acts => do
    let (answer, shared) ← shared.step act
    let (answers, shared) ← run shared acts
    return (answer :: answers, shared)

end SharedSignals

end KeyProvisioning
