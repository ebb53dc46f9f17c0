import KeyProvisioning.Cycle.Basic
import KeyProvisioning.Proofs.Cycle.Plan

/-!
# Heeding the stop signal

A cycle looks at the stop signal right before every call to the server and before every key pair,
and breaks off if it is raised. Between two looks it makes at most one signing request. A
procedure heeds the signal if it does so whatever follows it, and a cycle is put together from
procedures that do.
-/

namespace KeyProvisioning

/-- Whether a call makes a signing request. -/
def Call.isRequest : Call → Bool
  | generateCsr .. => true
  | _ => false

namespace Cycle

/-- A dialogue looks at the stop signal right before every guarded call and breaks off if it is
raised. Before the next look it makes a signing request only if `request` allows for one. -/
inductive Heeds : (request : Bool) → Dialogue CycleOutcome → Prop
  | finish {request : Bool} (outcome : CycleOutcome) : Heeds request (.finish outcome)
  | free {request : Bool} {call : Call} {next : Except Fault call.Answer → Dialogue CycleOutcome}
      (unguarded : call.isGuarded = false) (noRequest : call.isRequest = false)
      (rest : ∀ result, Heeds request (next result)) : Heeds request (.ask call next)
  | request {testMode : Bool} {count : UInt32} {keyMaterial challenge : Bytes}
      {level : SecurityLevel} {next : Except Fault Bytes → Dialogue CycleOutcome}
      (rest : ∀ result, Heeds false (next result)) :
      Heeds true (.ask (.generateCsr testMode count keyMaterial challenge level) next)
  | guarded {request : Bool} {millis : UInt64} {look : Bool → Dialogue CycleOutcome} {call : Call}
      {next : Except Fault call.Answer → Dialogue CycleOutcome}
      (raised : look true = .finish .rescheduleRequested) (unraised : look false = .ask call next)
      (rest : ∀ result, Heeds true (next result)) : Heeds request (.watch millis look)

/-- Room for a request need not be used. -/
theorem Heeds.mono {request : Bool} {dialogue : Dialogue CycleOutcome} (h : Heeds false dialogue) :
    Heeds request dialogue := by
  generalize hnone : false = none at h
  induction h with
  | finish outcome => exact .finish outcome
  | free unguarded noRequest _ ih => exact .free unguarded noRequest fun result => ih result hnone
  | request => cases hnone
  | guarded raised unraised rest _ => exact .guarded raised unraised rest

/-- What may follow a procedure that heeds the signal: that the cycle is cancelled ends it, and
after any other fault no request is made. -/
structure Continues {α : Type} (request : Bool)
    (next : Except Fault α → Dialogue CycleOutcome) : Prop where
  ok : ∀ value, Heeds request (next (.ok value))
  error : ∀ fault, Heeds false (next (.error fault))
  cancelled : next (.error (.ofCause .cycleCancelled)) = .finish .rescheduleRequested

/-- A procedure heeds the stop signal whatever may follow it. If `before` allows for a request
before the next look, then `after` tells whether one is still allowed for at the end. -/
def HeedsStop {α : Type} (before after : Bool) (procedure : Procedure α) : Prop :=
  ∀ next, Continues after next → Heeds before (procedure.run >>= next)

namespace HeedsStop

variable {α β : Type} {before between after : Bool}

theorem pure (value : α) : HeedsStop after after (Pure.pure value : Procedure α) :=
  fun _ hnext => hnext.ok value

theorem throw (fault : Fault) : HeedsStop before after (throw fault : Procedure α) :=
  fun _ hnext => (hnext.error fault).mono

theorem ofResult {ε : Type} [Coe ε Fault] (result : Except ε α) :
    HeedsStop after after (Procedure.ofResult result) := by
  intro next hnext
  cases result with
  | ok value => exact hnext.ok value
  | error reason => exact (hnext.error _).mono

/-- One procedure and then another. -/
theorem bind {procedure : Procedure α} {rest : α → Procedure β}
    (h : HeedsStop before between procedure)
    (hrest : ∀ value, HeedsStop between after (rest value)) :
    HeedsStop before after (procedure >>= rest) := by
  intro next hnext
  rw [ExceptT.run_bind, bind_assoc]
  apply h
  constructor
  · exact fun value => hrest value next hnext
  · exact hnext.error
  · exact hnext.cancelled

/-- A call that is neither guarded nor a signing request. -/
theorem ask {call : Call} (unguarded : call.isGuarded = false)
    (noRequest : call.isRequest = false) :
    HeedsStop after after (Procedure.ask call) := by
  intro next hnext
  apply Heeds.free unguarded noRequest
  intro result
  cases result with
  | ok value => exact hnext.ok value
  | error fault => exact (hnext.error fault).mono

/-- A signing request. -/
theorem request {testMode : Bool} {count : UInt32} {keyMaterial challenge : Bytes}
    {level : SecurityLevel} :
    HeedsStop true false
      (Procedure.ask (.generateCsr testMode count keyMaterial challenge level)) := by
  intro next hnext
  apply Heeds.request
  intro result
  cases result with
  | ok value => exact hnext.ok value
  | error fault => exact hnext.error fault

/-- A look at the stop signal, then a call, then whatever goes with it. -/
theorem guarded {millis : UInt64} {call : Call} {rest : call.Answer → Procedure β}
    (hrest : ∀ answer, HeedsStop true after (rest answer)) :
    HeedsStop before after (Procedure.pause millis >>= fun _ => Procedure.ask call >>= rest) := by
  intro next hnext
  refine Heeds.guarded hnext.cancelled rfl fun result => ?_
  cases result with
  | ok answer => exact hrest answer next hnext
  | error fault => exact (hnext.error fault).mono

end HeedsStop

/-! ## The parts of a cycle -/

section Parts

variable {testMode : Bool} {config : Config} {now : Nat} {level : SecurityLevel} {delay : UInt64}
  {window : UInt64} {extra count : UInt32} {settings : Settings} {response : KeyResponse}
  {base : String}

theorem heeds_generatePairs {remaining : Nat} {wait : UInt64} :
    HeedsStop true true (generatePairs testMode level delay remaining wait) := by
  induction remaining generalizing wait with
  | zero => exact .pure ()
  | succ remaining ih => exact .guarded fun _ => ih

theorem heeds_generateKeys :
    HeedsStop true true (generateKeys config now level window extra) := by
  apply HeedsStop.bind (.ask rfl rfl)
  intro status
  exact .bind heeds_generatePairs fun _ => .pure _

theorem heeds_generateAll {implementations : List Implementation} :
    HeedsStop true true (generateAll config now settings implementations) := by
  induction implementations with
  | nil => exact .pure []
  | cons implementation rest ih =>
    apply HeedsStop.bind heeds_generateKeys
    intro count
    exact .bind ih fun _ => .pure _

theorem heeds_storeChains {chains : List CertificateBlob} :
    HeedsStop true true (storeChains level chains) := by
  induction chains with
  | nil => exact .pure 0
  | cons blob rest ih =>
    apply HeedsStop.bind (.ofResult _)
    intro record
    apply HeedsStop.bind (.ask rfl rfl)
    intro _
    exact .bind ih fun _ => .pure _

theorem heeds_certify : HeedsStop true true (certify config count level response base) := by
  rw [certify]
  split
  · exact .throw _
  · apply HeedsStop.bind .request
    intro csr
    split
    · exact .throw _
    · apply HeedsStop.guarded
      intro signed
      exact .bind (.ofResult _) fun chains => heeds_storeChains

theorem heeds_certifyAll {needed : List (SecurityLevel × UInt32)} :
    HeedsStop true true (certifyAll config response base needed) := by
  induction needed with
  | nil => exact .pure ()
  | cons need rest ih =>
    rw [certifyAll]
    split
    · exact .bind heeds_certify fun _ => ih
    · exact ih

theorem heeds_replenish :
    HeedsStop true true (replenish config now settings response base) := by
  apply HeedsStop.bind (.ask rfl rfl)
  intro implementations
  split
  · exact .throw _
  · apply HeedsStop.bind heeds_generateAll
    intro needed
    apply HeedsStop.bind heeds_certifyAll
    intro _
    exact .bind (.ask rfl rfl) fun _ => .pure _

theorem heeds_fetchResponse : HeedsStop true true (fetchResponse base) :=
  .guarded fun bytes => .ofResult (KeyResponse.decode bytes)

end Parts

theorem heeds_deleteKeys : HeedsStop true true deleteKeys := by
  intro next hnext
  apply Heeds.free rfl rfl
  intro result
  cases result <;> exact hnext.ok .disabled

theorem heeds_snapshot : HeedsStop true true snapshot := by
  intro next hnext
  apply Heeds.free rfl rfl
  intro result
  cases result with
  | ok settings => exact hnext.ok settings
  | error fault =>
    have hhandler : HeedsStop true true (if isUnusable fault then
        Procedure.ask .clearSettings >>= fun _ => Procedure.ask .loadSettings
        else throw fault) := by
      split
      · exact .bind (.ask rfl rfl) fun _ => .ask rfl rfl
      · exact .throw fault
    exact hhandler next hnext

theorem heeds_attempt (config : Config) (now : Nat) :
    HeedsStop true true (attempt config now) := by
  apply HeedsStop.bind heeds_snapshot
  intro before
  apply HeedsStop.bind heeds_fetchResponse
  intro response
  split
  · exact .pure _
  · apply HeedsStop.bind (.ask rfl rfl)
    intro settings
    split
    · exact heeds_deleteKeys
    · exact heeds_replenish

/-- Handling a fault calls only the store. -/
theorem heeds_handleFault (config : Config) (fault : Fault) :
    Heeds false (handleFault config fault) := by
  rw [handleFault]
  split
  · apply Heeds.free rfl rfl
    intro result
    cases result with
    | ok settings =>
      by_cases habove : config.failureMaximum < settings.failures
      · simp only [if_pos habove]
        exact .free rfl rfl fun _ => .finish _
      · simp only [if_neg habove]
        exact .finish _
    | error failed => exact .finish _
  · exact .finish _

/-- A cycle heeds the stop signal. -/
theorem heeds_run (config : Config) (now : Nat) : Heeds true (run config now) := by
  apply heeds_attempt
  constructor
  · exact fun outcome => .finish outcome
  · exact heeds_handleFault config
  · rfl

end Cycle

end KeyProvisioning
