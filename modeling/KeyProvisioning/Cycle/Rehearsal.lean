import KeyProvisioning.Cycle.Basic
import KeyProvisioning.Cycle.Script

/-!
# Rehearsals

A rehearsal runs cycles of one provisioner against a script and a real store, step by step. The
stop signal can be raised inside a chosen call: after the call was made, before it replies. A job
is a cycle with a fresh signal of its own, and a crash in it asks for another cycle.
-/

namespace KeyProvisioning

/-- The state of a rehearsal between two calls. -/
structure Rehearsal where
  store : SettingsStore
  /-- The methods called so far. -/
  past : List Method
  /-- In how many calls from now the stop signal is raised, if it is to be. -/
  stopAt : Option Nat
  /-- Whether the stop signal is raised. -/
  isStopped : Bool

namespace Rehearsal

/-- No call yet, and the signal not raised. -/
def new (store : SettingsStore) : Rehearsal := ⟨store, [], none, false⟩

/-- Make a call. -/
def reply (script : Script) (call : Call) (rehearsal : Rehearsal) :
    Reply call.Answer × Rehearsal :=
  let (answer, store) :=
    script.reply (rehearsal.past.count call.method) rehearsal.store call
  (answer,
    { store
      past := call.method :: rehearsal.past
      stopAt := rehearsal.stopAt.map (· - 1)
      isStopped := rehearsal.isStopped || rehearsal.stopAt == some 1 })

/-- The collaborators of a rehearsal. -/
def surroundings (script : Script) : Surroundings Rehearsal :=
  ⟨reply script, isStopped⟩

/-- Run a dialogue whose n-th call raises the stop signal, if any does. -/
def run {α : Type} (script : Script) (stopAt : Option Nat) (dialogue : Dialogue α)
    (rehearsal : Rehearsal) : Run Rehearsal α :=
  dialogue.run (surroundings script) { rehearsal with stopAt }

end Rehearsal

/-- One step of a rehearsal. -/
inductive Step
  /-- A cycle. -/
  | cycle (stopAt : Option Nat)
  /-- A cycle with a signal of its own. -/
  | job (stopAt : Option Nat)
  /-- Have keys certified for a response of the server. -/
  | certify (count : UInt32) (level : SecurityLevel) (response : Bytes) (base : String)
      (stopAt : Option Nat)
  /-- Show the configuration. -/
  | showConfig
  /-- Raise the stop signal. -/
  | stop
  /-- Take a fresh stop signal. -/
  | newStop

/-- What a step answers. -/
inductive StepAnswer
  | outcome (outcome : CycleOutcome)
  | certified (result : Except Fault Nat)
  | crashed
  | config (config : Config)
  | done

/-- What came of a step: its answer, its calls and the settings that the store holds after it. -/
structure StepReport where
  answer : StepAnswer
  events : List Event
  settings : Except SettingsFault Settings

namespace Rehearsal

/-- Certify keys for a response that is still encoded. -/
def certifyEncoded (config : Config) (count : UInt32) (level : SecurityLevel) (response : Bytes)
    (base : String) : Procedure Nat := do
  let response ← Procedure.ofResult (KeyResponse.decode response)
  Cycle.certify config count level response base

/-- Perform one step. -/
def perform (script : Script) (config : Config) (now : Nat) (rehearsal : Rehearsal) :
    Step → StepAnswer × List Event × Rehearsal
  | .cycle stopAt =>
    let run := rehearsal.run script stopAt (Cycle.run config now)
    (run.value.elim .crashed .outcome, run.events, run.state)
  | .job stopAt =>
    let run := { rehearsal with isStopped := false }.run script stopAt (Cycle.run config now)
    (.outcome (run.value.getD .rescheduleRequested), run.events,
      { run.state with isStopped := rehearsal.isStopped })
  | .certify count level response base stopAt =>
    let run := rehearsal.run script stopAt (certifyEncoded config count level response base).run
    (run.value.elim .crashed .certified, run.events, run.state)
  | .showConfig => (.config config, [], rehearsal)
  | .stop => (.done, [], { rehearsal with isStopped := true })
  | .newStop => (.done, [], { rehearsal with isStopped := false })

/-- Perform steps one after another. -/
def performAll (script : Script) (config : Config) (now : Nat) (rehearsal : Rehearsal) :
    List Step → List StepReport
  | [] => []
  | step :: rest =>
    let (answer, events, rehearsal') := rehearsal.perform script config now step
    ⟨answer, events, rehearsal'.store.load⟩ :: rehearsal'.performAll script config now rest

end Rehearsal

end KeyProvisioning
