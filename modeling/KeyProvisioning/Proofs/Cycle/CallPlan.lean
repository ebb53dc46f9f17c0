import KeyProvisioning.Proofs.Cycle.Borders

/-!
# The calls of a cycle

The calls of one cycle to the custodian and to the server, in their order, are the first calls of
one fixed plan, and a step that fails is the last one taken.
-/

namespace KeyProvisioning

/-- The turns with the custodian and with the server. -/
def remoteTurns (turns : List Turn) : List Turn :=
  turns.filter fun turn => !turn.call.isStore

/-- The steps of a plan that do not call the store. -/
def Plan.remote (plan : Plan) : Plan :=
  plan.filter fun
    | .ok turn => !turn.call.isStore
    | .error _ => true

@[simp] theorem remoteTurns_append (first rest : List Turn) :
    remoteTurns (first ++ rest) = remoteTurns first ++ remoteTurns rest :=
  List.filter_append ..

/-- Among calls to the store there is no other one. -/
theorem remoteTurns_eq_nil {turns : List Turn} (h : ∀ turn ∈ turns, turn.call.isStore = true) :
    remoteTurns turns = [] := by
  apply List.filter_eq_nil_iff.mpr
  intro turn hturn
  simp [h turn hturn]

/-- Calls to the store before and after others do not count. -/
theorem remoteTurns_between {first body last : List Turn}
    (hfirst : ∀ turn ∈ first, turn.call.isStore = true)
    (hlast : ∀ turn ∈ last, turn.call.isStore = true) :
    remoteTurns (first ++ body ++ last) = remoteTurns body := by
  rw [remoteTurns_append, remoteTurns_append, remoteTurns_eq_nil hfirst,
    remoteTurns_eq_nil hlast, List.nil_append, List.append_nil]

/-- The calls made to the custodian and to the server are the first ones of the plan. -/
theorem Follows.remote_isPrefix {mayStop : Prop} {plan : Plan} {turns : List Turn}
    {halt : Option Halt} (h : Follows mayStop plan turns halt) :
    (remoteTurns turns).map (fun turn => Except.ok turn.call) <+: plan.remote.calls := by
  induction h with
  | done => exact List.prefix_rfl
  | @step turn plan turns halt fine rest ih =>
    cases hstore : turn.call.isStore
    · rw [remoteTurns, Plan.remote, List.filter_cons_of_pos (by simpa using hstore),
        List.filter_cons_of_pos (by simpa using hstore)]
      exact (List.prefix_cons_inj _).mpr ih
    · rw [remoteTurns, Plan.remote, List.filter_cons_of_neg (by simpa using hstore),
        List.filter_cons_of_neg (by simpa using hstore)]
      exact ih
  | @failed call planned reply plan halt failure =>
    cases hstore : call.isStore
    · rw [remoteTurns, Plan.remote, List.filter_cons_of_pos (by simpa using hstore),
        List.filter_cons_of_pos (by simpa using hstore)]
      exact (List.prefix_cons_inj _).mpr List.nil_prefix
    · rw [remoteTurns, List.filter_cons_of_neg (by simpa using hstore)]
      exact List.nil_prefix
  | refused | stopped => exact List.nil_prefix

namespace Cycle

/-- The custodian and server calls of a cycle that provisions. -/
def Answers.provisioningCalls (config : Config) (now : Nat) (before : Settings)
    (answers : Answers) : List (Except Fault Call) :=
  Plan.calls (answers.fetching before ::
    provisioning config now answers.settings answers.response before.serverUrl answers.batches)

/-- The custodian and server calls of a cycle in which the server turns provisioning off. -/
def shutdownCalls (before : Settings) : List (Except Fault Call) :=
  [.ok (.fetchKeys before.serverUrl), .ok .deleteAllKeys]

/-- Provisioning does not call the store. -/
theorem remote_provisioning (config : Config) (now : Nat) (settings : Settings)
    (response : KeyResponse) (base : String) (batches : List Batch) :
    Plan.remote (provisioning config now settings response base batches) =
      provisioning config now settings response base batches := by
  apply List.filter_eq_self.2
  intro step hstep
  cases step with
  | error fault => rfl
  | ok turn => simp [(provisions_of_mem hstep).isStore_eq_false]

/-- The custodian and server calls of every plan are among those of a cycle that provisions, or
those of one in which the server turns provisioning off. -/
theorem Answers.remote_plan_isPrefix (config : Config) (now : Nat) (before : Settings)
    (answers : Answers) :
    (answers.plan config now before).remote.calls <+: answers.provisioningCalls config now before ∨
      (answers.plan config now before).remote.calls <+: shutdownCalls before := by
  rw [plan]
  split
  · exact .inr ⟨[.ok .deleteAllKeys], rfl⟩
  · split
    · exact .inr List.prefix_rfl
    · refine .inl ⟨[], ?_⟩
      have hremote := remote_provisioning config now answers.settings answers.response
        before.serverUrl answers.batches
      rw [List.append_nil, provisioningCalls, ← hremote]
      simp [Plan.remote, List.filter_append, fetching, adopting, resetting, Call.isStore]

/-- A plan followed to its end has been followed in all its custodian and server calls. -/
theorem calls_eq_remote {plan : Plan} {body : List Turn} (h : plan = body.map .ok) :
    (remoteTurns body).map (fun turn => Except.ok turn.call) = plan.remote.calls := by
  subst h
  rw [Plan.remote, List.filter_map, Plan.calls, List.map_map]
  rfl

/-- The turns of one cycle are those by which it comes by its settings, the steps of its plan and
what it does about the fault that ended them, if there was one. Only the steps of the plan call
the custodian or the server. Without settings no step is taken. With settings the steps are those
of the plan that the answers in them give, up to its end or to the first step that fails, and the
custodian and server calls are the first ones of a cycle that provisions or of one that shuts
down. If no step fails they are all those of the plan. -/
theorem run_follows_plan {σ : Type} (surroundings : Surroundings σ) (config : Config) (now : Nat)
    (state : σ) :
    let run := (run config now).run surroundings.unstopped state
    let turns := (Cycle.run config now).turns surroundings.unstopped state
    let calls := (remoteTurns turns).map fun turn => Except.ok turn.call
    run.events = turns.map Turn.event ∧
    ∃ opening body closing ending,
      turns = opening ++ body ++ closing ∧
      (∀ turn ∈ opening ++ closing, turn.call.isStore = true) ∧
      Aftermath config closing run.value ending ∧
      ((∃ halt, Opening opening (.error halt) ∧ body = [] ∧ ending = .error halt ∧ calls = []) ∨
        ∃ before answers,
          Opening opening (.ok before) ∧
          Follows False (Answers.plan config now before answers) body (haltOf ending) ∧
          (calls <+: answers.provisioningCalls config now before ∨
            calls <+: shutdownCalls before) ∧
          (remoteTurns turns).Pairwise (fun turn _ => turn.failure = none) ∧
          (haltOf ending = none →
            answers.plan config now before = body.map .ok ∧
            calls = (answers.plan config now before).remote.calls ∧
            run.value = some (answers.outcome before))) := by
  intro run turns calls
  refine ⟨Dialogue.events_run _ _ _, ?_⟩
  obtain ⟨ending, closing, _, hfirst, hclosing, hcourse⟩ := run_course surroundings.unstopped
    (fun _ hraised => Bool.false_ne_true hraised) config now state
  generalize Dialogue.turns surroundings.unstopped (attempt config now).run state = first
    at hfirst hcourse
  have hturns : turns = first ++ closing := hcourse
  rcases attempt_course hfirst with ⟨halt, hopening, rfl⟩ |
    ⟨before, opening, body, answers, hopening, rfl, hfollows, houtcome⟩
  · -- the settings could not be had
    have hsplit : turns = first ++ [] ++ closing := by rw [hturns, List.append_nil]
    have hcalls : calls = [] := by
      simp only [calls, hsplit, remoteTurns_between hopening.isStore hclosing.isStore]
      rfl
    exact ⟨first, [], closing, .error halt, hsplit,
      List.forall_mem_append.mpr ⟨hopening.isStore, hclosing.isStore⟩, hclosing,
      .inl ⟨halt, hopening, rfl, rfl, hcalls⟩⟩
  · have hbody : remoteTurns turns = remoteTurns body := by
      rw [hturns, remoteTurns_between hopening.isStore hclosing.isStore]
    refine ⟨opening, body, closing, ending, hturns,
      List.forall_mem_append.mpr ⟨hopening.isStore, hclosing.isStore⟩, hclosing,
      .inr ⟨before, answers, hopening, hfollows, ?_, ?_, ?_⟩⟩
    · have hcalls : calls <+: (answers.plan config now before).remote.calls := by
        simp only [calls, hbody]
        exact hfollows.remote_isPrefix
      rcases answers.remote_plan_isPrefix config now before with hplan | hplan
      · exact .inl (hcalls.trans hplan)
      · exact .inr (hcalls.trans hplan)
    · rw [hbody]
      exact hfollows.pairwise_fine.filter _
    · intro hhalt
      cases ending with
      | error halt => cases hhalt
      | ok outcome =>
        have hplan := Follows.eq_map_ok hfollows
        refine ⟨hplan, ?_, ?_⟩
        · simp only [calls, hbody]
          exact calls_eq_remote hplan
        · rw [hclosing.2, houtcome outcome rfl]

end Cycle

end KeyProvisioning
