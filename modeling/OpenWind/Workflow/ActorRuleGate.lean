import OpenWind.Workflow.Canvas

/-!
# The gate on actor rules

The routes that create, update and delete a transition ask `assertMaySetActorRules`
first: of the callers who are not person admins, none may write a transition whose
conditions carry an actor rule, before the write or after it, unless the conditions stay
the same.  The gate looks at the transition that is written, and at no other between the
same two states.
-/

open List Bool Txn.Prog

namespace OpenWind

open Txn

mutual

def sameTree : TransitionConditionTree → TransitionConditionTree → Bool
  | .and as, .and bs => sameTrees as bs
  | .or as, .or bs => sameTrees as bs
  | .not a, .not b => sameTree a b
  | .field a, .field b => decide (a = b)
  | .actorNotCreator, .actorNotCreator => true
  | .actorIsCreator, .actorIsCreator => true
  | .actorNotPriorActor states, .actorNotPriorActor states' => states == states'
  | _, _ => false

def sameTrees : List TransitionConditionTree → List TransitionConditionTree → Bool
  | [], [] => true
  | a :: as, b :: bs => sameTree a b && sameTrees as bs
  | _, _ => false

end

mutual

theorem sameTree_iff : ∀ {a b : TransitionConditionTree}, sameTree a b = true ↔ a = b
  | .and as, b => by
    cases b with
    | and bs => rw [sameTree, sameTrees_iff, TransitionConditionTree.and.injEq]
    | _ => simp [sameTree]
  | .or as, b => by
    cases b with
    | or bs => rw [sameTree, sameTrees_iff, TransitionConditionTree.or.injEq]
    | _ => simp [sameTree]
  | .not a, b => by
    cases b with
    | not b => rw [sameTree, sameTree_iff, TransitionConditionTree.not.injEq]
    | _ => simp [sameTree]
  | .field a, b => by cases b <;> simp [sameTree]
  | .actorNotCreator, b => by cases b <;> simp [sameTree]
  | .actorIsCreator, b => by cases b <;> simp [sameTree]
  | .actorNotPriorActor states, b => by cases b <;> simp [sameTree]

theorem sameTrees_iff : ∀ {as bs : List TransitionConditionTree}, sameTrees as bs = true ↔ as = bs
  | [], bs => by cases bs <;> simp [sameTrees]
  | a :: as, bs => by
    cases bs with
    | nil => simp [sameTrees]
    | cons b bs =>
      rw [sameTrees, and_eq_true, sameTree_iff, sameTrees_iff, List.cons.injEq]

end

instance : DecidableEq TransitionConditionTree :=
  fun _ _ => decidable_of_iff _ sameTree_iff

/-! ## The gate -/

/-- `sameJson` is equality here: both sides are documents of the same column, where the
order of keys is none of the writer's. -/
def maySetActorRules (auth : AuthContext) (before next : Option TransitionConditionTree) : Bool :=
  isPersonAdmin auth || !(usesActorRule before || usesActorRule next) || decide (before = next)

def assertMaySetActorRules (auth : AuthContext) (before next : Option TransitionConditionTree) :
    Tx Unit :=
  Prog.require (maySetActorRules auth before next)
    (.route "FORBIDDEN" "Only an admin can add, change or remove an actor rule")

/-- An admin by role owns every workflow, a key with that role too. -/
def toWorkflowCaller (auth : AuthContext) : WorkflowCaller where
  userId := auth.userId
  isGlobalAdmin := auth.roles.contains "admin"

/-! ## The routes -/

def createTransition (tenantId workflowId : Id) (auth : AuthContext)
    (input : CreateWorkflowTransitionInput) (transitionId : Id) : Tx WorkflowTransition := do
  assertMaySetActorRules auth none input.conditions
  addWorkflowTransition tenantId workflowId (toWorkflowCaller auth) input transitionId

/-- An update that leaves the conditions alone is not gated. -/
def gateUpdate (tenantId workflowId transitionId : Id) (auth : AuthContext) :
    Option (Option TransitionConditionTree) → Tx Unit
  | none => pure ()
  | some next => do
    let before ← Tables.workflowTransitions.find
      (WorkflowTransition.isOf tenantId workflowId transitionId)
    assertMaySetActorRules auth (before.bind (·.conditions)) next

def updateTransition (tenantId workflowId transitionId : Id) (auth : AuthContext)
    (input : UpdateWorkflowTransitionInput) : Tx WorkflowTransition := do
  gateUpdate tenantId workflowId transitionId auth input.conditions
  updateWorkflowTransition tenantId workflowId transitionId (toWorkflowCaller auth) input

def gateDelete (auth : AuthContext) : Option WorkflowTransition → Tx Unit
  | none => pure ()
  | some before => assertMaySetActorRules auth before.conditions none

def deleteTransition (tenantId workflowId transitionId : Id) (auth : AuthContext) : Tx Unit := do
  let before ← Tables.workflowTransitions.find
    (WorkflowTransition.isOf tenantId workflowId transitionId)
  gateDelete auth before
  deleteWorkflowTransition tenantId workflowId transitionId (toWorkflowCaller auth)

structure CreateWorkflowStateInput where
  name : String
  label : String
  color : Option String := none
  isTerminal : Option Bool := none
  slaHours : Option (Option Nat) := none
  sortOrder : Option Nat := none

def healInitialState (tenantId workflowId : Id) (existing : List WorkflowState)
    (row : WorkflowState) : Tx Unit :=
  if existing.isEmpty && !row.isTerminal then
    Tables.workflows.update (Workflow.isOwn tenantId workflowId)
      fun w => { w with initialState := row.name }
  else pure ()

def addWorkflowState (tenantId workflowId : Id) (caller : WorkflowCaller)
    (input : CreateWorkflowStateInput) (stateId : Id) : Tx WorkflowState := do
  assertWorkflowOwned tenantId workflowId caller
  let existing ← Tables.workflowStates.filter (WorkflowState.ofWorkflow tenantId workflowId)
  let row : WorkflowState :=
    { id := stateId
      tenantId
      workflowId
      name := input.name
      label := input.label
      color := input.color
      isTerminal := input.isTerminal.getD false
      slaHours := input.slaHours.join
      sortOrder := input.sortOrder.getD 0 }
  Tables.workflowStates.insert (Tx.pkey "workflow_states") [row]
  healInitialState tenantId workflowId existing row
  return row

/-! ## What a request has written -/

variable {auth : AuthContext} {before next : Option TransitionConditionTree} {db db' : Db}
  {u : Unit} {tenantId transitionId workflowId : Id} {row : WorkflowTransition}

theorem exec_assertMaySetActorRules_ok :
    (assertMaySetActorRules auth before next).exec db = .ok (u, db') ↔
      maySetActorRules auth before next ∧ db' = db := by
  unfold assertMaySetActorRules
  exact exec_require_ok

theorem maySetActorRules_iff (person : isPersonAdmin auth = false) (ruled : usesActorRule before) :
    maySetActorRules auth before next ↔ before = next := by
  unfold maySetActorRules
  rw [person, ruled, Bool.true_or, Bool.not_true, Bool.false_or, Bool.false_or, decide_eq_true_iff]

theorem createTransition_cases {input : CreateWorkflowTransitionInput}
    (ran : (createTransition tenantId workflowId auth input transitionId).exec db =
      .ok (row, db')) :
    maySetActorRules auth none input.conditions ∧
      (addWorkflowTransition tenantId workflowId (toWorkflowCaller auth) input transitionId).exec
        db = .ok (row, db') := by
  unfold createTransition at ran
  simp only [exec_seq_ok, exec_assertMaySetActorRules_ok] at ran
  obtain ⟨_, _, ⟨may, rfl⟩, added⟩ := ran
  exact ⟨may, added⟩

/-- An update with new conditions has compared them with those of the stored row. -/
theorem updateTransition_cases {input : UpdateWorkflowTransitionInput}
    (ran : (updateTransition tenantId workflowId transitionId auth input).exec db =
      .ok (row, db')) :
    (∀ next, input.conditions = some next → maySetActorRules auth
        ((db.workflowTransitions.find? (WorkflowTransition.isOf tenantId workflowId
          transitionId)).bind (·.conditions)) next) ∧
      (updateWorkflowTransition tenantId workflowId transitionId (toWorkflowCaller auth)
        input).exec db = .ok (row, db') := by
  unfold updateTransition at ran
  simp only [exec_seq_ok] at ran
  obtain ⟨_, _, gated, updated⟩ := ran
  cases conditions : input.conditions with
  | none =>
    rw [conditions] at gated
    cases gated
    exact ⟨nofun, updated⟩
  | some next =>
    rw [conditions] at gated
    simp only [gateUpdate, exec_seq_ok, Table.exec_find, Tables.workflowTransitions_rows,
      exec_assertMaySetActorRules_ok, ok_eq_ok] at gated
    obtain ⟨_, _, ⟨rfl, rfl⟩, may, rfl⟩ := gated
    refine ⟨fun other same => ?_, updated⟩
    cases same
    exact may

theorem deleteTransition_cases
    (ran : (deleteTransition tenantId workflowId transitionId auth).exec db = .ok (u, db')) :
    (∀ before, db.workflowTransitions.find?
        (WorkflowTransition.isOf tenantId workflowId transitionId) = some before →
        maySetActorRules auth before.conditions none) ∧
      (deleteWorkflowTransition tenantId workflowId transitionId (toWorkflowCaller auth)).exec
        db = .ok (u, db') := by
  unfold deleteTransition at ran
  simp only [exec_seq_ok, Table.exec_find, Tables.workflowTransitions_rows, ok_eq_ok] at ran
  obtain ⟨_, _, ⟨rfl, rfl⟩, _, _, gated, deleted⟩ := ran
  cases found : db.workflowTransitions.find?
      (WorkflowTransition.isOf tenantId workflowId transitionId) with
  | none =>
    rw [found] at gated
    cases gated
    exact ⟨nofun, deleted⟩
  | some before =>
    rw [found] at gated
    obtain ⟨may, rfl⟩ := exec_assertMaySetActorRules_ok.mp gated
    refine ⟨fun other same => ?_, deleted⟩
    cases same
    exact may

/-- A new state writes no transition. -/
theorem addWorkflowState_transitions {tenantId workflowId stateId : Id} {caller : WorkflowCaller}
    {input : CreateWorkflowStateInput} {row : WorkflowState}
    (ran : (addWorkflowState tenantId workflowId caller input stateId).exec db = .ok (row, db')) :
    db'.workflowTransitions = db.workflowTransitions := by
  unfold addWorkflowState at ran
  simp only [exec_seq_ok, Table.exec_filter, Table.exec_insert_ok, exec_pure, ok_eq_ok] at ran
  obtain ⟨_, _, owned, _, _, ⟨rfl, rfl⟩, _, _, ⟨-, rfl⟩, _, _, healed, rfl, rfl⟩ := ran
  obtain rfl := (assertWorkflowOwned_readOnly _ _ _).exec owned
  unfold healInitialState at healed
  split at healed
  · rw [Table.exec_update] at healed
    cases healed
    rfl
  · cases healed
    rfl

theorem canvasSave_gate {input : CanvasSave} {current : WorkflowFull}
    (keyed : Tables.workflowTransitions.Keyed db) (person : isPersonAdmin auth = false)
    (read : (getWorkflow tenantId workflowId).exec db = .ok (current, db))
    (may : input.maySetActorRules auth current) {t : WorkflowTransition}
    (mem : t ∈ db.workflowTransitions) (own : t.ofWorkflow tenantId workflowId)
    (ruled : usesActorRule t.conditions) :
    t ∈ input.keptTransitions tenantId workflowId current db ∧
      ∀ entry ∈ input.existingTransitions current, t.isOf tenantId workflowId entry.1 →
        entry.2.fromState = t.fromState ∧ entry.2.toState = t.toState := by
  obtain ⟨-, transitions, -⟩ := exec_getWorkflow_ok read
  have listed : t ∈ current.transitions := transitions ▸ mem_filter.mpr ⟨mem, own⟩
  have alone : ∀ other ∈ current.transitions, other.id = t.id → other = t := by
    intro other memOther same
    rw [transitions] at memOther
    exact keyed.eq (mem_filter.mp memOther).1 mem (congrArg (LockKey.row .workflowTransitions) same)
  unfold CanvasSave.maySetActorRules at may
  rw [person, Bool.false_or, and_eq_true, all_eq_true, all_eq_true] at may
  obtain ⟨undeleted, unmoved⟩ := may
  constructor
  · refine mem_filter.mpr ⟨mem, ?_⟩
    rw [not_eq_true', and_eq_false_iff]
    refine .inr (eq_false_iff.mpr fun deleted => ?_)
    obtain ⟨other, dropped, same⟩ := mem_map.mp (contains_iff_mem.mp deleted)
    obtain rfl := alone other (mem_filter.mp dropped).1 same
    have unruled := undeleted other dropped
    rw [ruled] at unruled
    cases unruled
  · intro entry memEntry isEntry
    have same : t.id = entry.1 := by
      simp only [WorkflowTransition.isOf, and_eq_true, beq_iff_eq] at isEntry
      exact isEntry.1.2
    have found : current.transitions.find? (fun prior => prior.id == entry.1) = some t := by
      cases search : current.transitions.find? (fun prior => prior.id == entry.1) with
      | none => exact absurd (beq_iff_eq.mpr same) (find?_eq_none.mp search t listed)
      | some other =>
        have hit := find?_some (p := fun prior : WorkflowTransition => prior.id == entry.1) search
        rw [alone other (mem_of_find?_eq_some search) ((eq_of_beq hit).trans same.symm)]
    have stays := unmoved entry memEntry
    simp only [found, ruled, Bool.not_true, Bool.or_false, and_eq_true, beq_iff_eq] at stays
    exact ⟨stays.1.symm, stays.2.symm⟩

end OpenWind
