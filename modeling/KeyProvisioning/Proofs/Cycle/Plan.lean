import KeyProvisioning.Proofs.Dialogue.Talk

/-!
# Plans

A plan lists the turns that a procedure goes through as long as nothing fails. The procedure
follows it up to its end or to the first step that fails: a call whose reply does not let it go
on, a step that no call can be made for, or a call before which the stop signal is seen raised.
-/

namespace KeyProvisioning

namespace Call

/-- Whether a call goes to the store of settings, rather than to the custodian or to the server. -/
def isStore : Call → Bool
  | loadSettings | updateSettings _ | clearSettings => true
  | _ => false

/-- Whether the stop signal is looked at right before a call. -/
def isGuarded : Call → Bool
  | fetchKeys _ | sign .. | generateKeyPair .. => true
  | _ => false

/-- The fault for which a cycle cannot go on with an answer. -/
def objection : (call : Call) → call.Answer → Option Fault
  | fetchKeys _, bytes =>
    match KeyResponse.decode bytes with
    | .ok _ => none
    | .error reason => some reason
  | implementations, list =>
    if list.isEmpty then some (CustodianFault.noImplementations : Fault) else none
  | generateCsr .., csr => if csr.isEmpty then some (CustodianFault.emptyCsr : Fault) else none
  | sign .., bytes =>
    match SignedChains.decode bytes with
    | .ok _ => none
    | .error reason => some reason
  | _, _ => none

end Call

/-- Why a cycle does not go on after a turn. That keys could not be deleted does not matter to
it. -/
def Turn.failure : Turn → Option Halt
  | ⟨_, .crashed⟩ => some none
  | ⟨call, .answered (.ok answer)⟩ => (call.objection answer).map some
  | ⟨.deleteAllKeys, .answered (.error _)⟩ => none
  | ⟨_, .answered (.error fault)⟩ => some (some fault)

/-- Turns to go through in their order. A step may be a fault in place of a turn: then no call
can be made for it. -/
abbrev Plan := List (Except Fault Turn)

/-- The calls of a plan. -/
def Plan.calls (plan : Plan) : List (Except Fault Call) :=
  plan.map fun step => step.map Turn.call

/-- Turns along a plan, up to its end or to a step that fails, with what ended them there. -/
inductive Follows (mayStop : Prop) : Plan → List Turn → Option Halt → Prop
  | done : Follows mayStop [] [] none
  | step {turn : Turn} {plan : Plan} {turns : List Turn} {halt : Option Halt}
      (fine : turn.failure = none) (rest : Follows mayStop plan turns halt) :
      Follows mayStop (.ok turn :: plan) (turn :: turns) halt
  | failed {call : Call} {planned reply : Reply call.Answer} {plan : Plan} {halt : Halt}
      (failure : Turn.failure ⟨call, reply⟩ = some halt) :
      Follows mayStop (.ok ⟨call, planned⟩ :: plan) [⟨call, reply⟩] (some halt)
  | refused {fault : Fault} {plan : Plan} :
      Follows mayStop (.error fault :: plan) [] (some (some fault))
  | stopped {turn : Turn} {plan : Plan} (allowed : mayStop) (guarded : turn.call.isGuarded) :
      Follows mayStop (.ok turn :: plan) [] (some (some (.ofCause .cycleCancelled)))

namespace Follows

variable {mayStop : Prop} {plan rest : Plan} {turns later : List Turn} {halt : Option Halt}

/-- One plan followed to its end and then another one. -/
theorem append (h : Follows mayStop plan turns none) (k : Follows mayStop rest later halt) :
    Follows mayStop (plan ++ rest) (turns ++ later) halt := by
  generalize hn : (none : Option Halt) = ended at h
  induction h with
  | done => exact k
  | step fine _ ih => exact .step fine (ih hn)
  | failed | refused | stopped => cases hn

/-- What comes after a step that failed does not matter. -/
theorem append_of_halt {halt : Halt} (h : Follows mayStop plan turns (some halt)) :
    Follows mayStop (plan ++ rest) turns (some halt) := by
  generalize hs : some halt = ended at h
  induction h with
  | done => cases hs
  | step fine _ ih => exact .step fine (ih hs)
  | failed failure => exact .failed failure
  | refused => exact .refused
  | stopped allowed guarded => exact .stopped allowed guarded

/-- A plan followed to its end is followed turn by turn. -/
theorem eq_map_ok (h : Follows mayStop plan turns none) : plan = turns.map .ok := by
  generalize hn : (none : Option Halt) = ended at h
  induction h with
  | done => rfl
  | step _ _ ih => rw [List.map_cons, ← ih hn]
  | failed | refused | stopped => cases hn

/-- Two plans one after the other are followed to the end of the first and on, or not to its
end. -/
theorem of_append (h : Follows mayStop (plan ++ rest) turns halt) :
    (∃ first last, Follows mayStop plan first none ∧ Follows mayStop rest last halt ∧
      turns = first ++ last) ∨
    ∃ cut, halt = some cut ∧ Follows mayStop plan turns (some cut) := by
  induction plan generalizing turns with
  | nil => exact .inl ⟨[], turns, .done, h, rfl⟩
  | cons step plan ih =>
    cases h with
    | step fine tail =>
      rcases ih tail with ⟨first, last, hfirst, hlast, rfl⟩ | ⟨cut, rfl, hcut⟩
      · exact .inl ⟨_ :: first, last, .step fine hfirst, hlast, rfl⟩
      · exact .inr ⟨cut, rfl, .step fine hcut⟩
    | failed failure => exact .inr ⟨_, rfl, .failed failure⟩
    | refused => exact .inr ⟨_, rfl, .refused⟩
    | stopped allowed guarded => exact .inr ⟨_, rfl, .stopped allowed guarded⟩

/-- Only calls of the plan are made. -/
theorem exists_mem (h : Follows mayStop plan turns halt) :
    ∀ turn ∈ turns, ∃ planned : Turn, .ok planned ∈ plan ∧ planned.call = turn.call := by
  induction h with
  | done | refused | stopped => simp
  | step fine _ ih =>
    intro turn hturn
    rcases List.mem_cons.mp hturn with rfl | hturn
    · exact ⟨turn, List.mem_cons_self, rfl⟩
    · obtain ⟨planned, hmem, hcall⟩ := ih turn hturn
      exact ⟨planned, List.mem_cons_of_mem _ hmem, hcall⟩
  | failed failure =>
    intro turn hturn
    rw [List.mem_singleton] at hturn
    subst hturn
    exact ⟨_, List.mem_cons_self, rfl⟩

/-- A turn that another one follows does not fail. -/
theorem pairwise_fine (h : Follows mayStop plan turns halt) :
    turns.Pairwise fun turn _ => turn.failure = none := by
  induction h with
  | done | refused | stopped => exact List.Pairwise.nil
  | step fine _ ih => exact List.Pairwise.cons (fun _ _ => fine) ih
  | failed => exact List.pairwise_singleton _ _

end Follows

end KeyProvisioning
