import OpenWind.Workflow.Engine

/-!
# Editing a workflow

`updateWorkflowState`, `deleteWorkflowState`, `addWorkflowTransition`,
`updateWorkflowTransition` and `deleteWorkflowTransition`, for the caller who owns
the workflow.

A state is referred to by its name, in the transitions, in the workflow's initial
state and in the records.  A rename rewrites all of these; a deletion is refused
while one of them, or a segregation rule, names the state.
-/

open List Bool Function Txn.Prog OpenWind.Tables

namespace OpenWind

open Txn Txn.Table

structure WorkflowCaller where
  userId : String
  isGlobalAdmin : Bool

def isWorkflowAdmin (userId : String) (createdBy : Option String) (assignedTo : List String) :
    Bool :=
  createdBy == some userId || assignedTo.contains userId

/-- The workflow, when it is the tenant's own. -/
def Workflow.isOwn (tenantId workflowId : Id) (workflow : Workflow) : Bool :=
  workflow.id == workflowId && workflow.tenantId == some tenantId

def assertWorkflowOwned (tenantId workflowId : Id) (caller : WorkflowCaller) : Tx Unit := do
  let workflow ← Tables.workflows.find (Workflow.isOwn tenantId workflowId)
  let workflow ← Prog.getOr workflow
    (.workflow .workflowNotFound [("workflowId", .id workflowId)])
  Tx.requireW
    (caller.isGlobalAdmin ||
      isWorkflowAdmin caller.userId workflow.createdBy (workflow.assignedTo.getD []))
    .workflowNotFound [("workflowId", .id workflowId)]

/-! ## States named by rules -/

mutual

/-- The states that the rules of a tree name. -/
def collectRuleStates : TransitionConditionTree → List String
  | .and children => collectRuleStatesOf children
  | .or children => collectRuleStatesOf children
  | .not child => collectRuleStates child
  | .actorNotPriorActor states => states.getD []
  | _ => []

def collectRuleStatesOf : List TransitionConditionTree → List String
  | [] => []
  | child :: rest => collectRuleStates child ++ collectRuleStatesOf rest

end

def ruleStates (conditions : Option TransitionConditionTree) : List String :=
  match conditions with
  | none => []
  | some tree => collectRuleStates tree

def WorkflowTransition.ofWorkflow (tenantId workflowId : Id) (transition : WorkflowTransition) :
    Bool :=
  transition.workflowId == workflowId && transition.tenantId == tenantId

def WorkflowState.ofWorkflow (tenantId workflowId : Id) (state : WorkflowState) : Bool :=
  state.workflowId == workflowId && state.tenantId == tenantId

def WorkflowState.isRow (tenantId workflowId stateId : Id) (state : WorkflowState) : Bool :=
  state.id == stateId && state.ofWorkflow tenantId workflowId

def assertStateNotNamedByRule (tenantId workflowId : Id) (stateName : String) (stateId : Id) :
    Tx Unit := do
  let rows ← Tables.workflowTransitions.filter (WorkflowTransition.ofWorkflow tenantId workflowId)
  Tx.requireW (!rows.any fun t => (ruleStates t.conditions).contains stateName)
    .workflowStateInUse
    [("stateId", .id stateId), ("reason", .str "named by a segregation-of-duties rule")]

def assertRuleStatesExist (tenantId workflowId : Id)
    (conditions : Option TransitionConditionTree) : Tx Unit := do
  let rows ← Tables.workflowStates.filter (WorkflowState.ofWorkflow tenantId workflowId)
  let unknown := (ruleStates conditions).filter fun name => !(rows.map (·.name)).contains name
  Tx.requireW unknown.isEmpty .workflowConditionStateUnknown [("unknown", .strs unknown.dedup)]

/-! ## States -/

structure UpdateWorkflowStateInput where
  name : Option String := none
  label : Option String := none
  color : Option String := none
  isTerminal : Option Bool := none
  slaHours : Option (Option Nat) := none
  sortOrder : Option Nat := none

def UpdateWorkflowStateInput.newName (input : UpdateWorkflowStateInput) (current : WorkflowState) :
    Option String :=
  input.name.filter (· != current.name)

def UpdateWorkflowStateInput.apply (input : UpdateWorkflowStateInput) (newName : Option String)
    (state : WorkflowState) : WorkflowState :=
  { state with
    name := newName.getD state.name
    label := input.label.getD state.label
    color := input.color.or state.color
    isTerminal := input.isTerminal.getD state.isTerminal
    slaHours := input.slaHours.getD state.slaHours
    sortOrder := input.sortOrder.getD state.sortOrder }

def EntityInstance.occupies (tenantId workflowId : Id) (stateName : String)
    (row : EntityInstance) : Bool :=
  row.workflowId == some workflowId && row.tenantId == tenantId && row.currentState == stateName

def checkRename (tenantId workflowId stateId : Id) (oldName newName : String) : Tx Unit := do
  let duplicate ← Tables.workflowStates.find (WorkflowState.isOf tenantId workflowId newName)
  Tx.requireW duplicate.isNone .workflowStateNameTaken [("name", .str newName)]
  assertStateNotNamedByRule tenantId workflowId oldName stateId

/-- Every column that stores the name of a state is rewritten. -/
def cascadeRename (tenantId workflowId : Id) (oldName newName : String) : Tx Unit := do
  Tables.workflowTransitions.update
    (fun t => t.ofWorkflow tenantId workflowId && t.fromState == oldName)
    fun t => { t with fromState := newName }
  Tables.workflowTransitions.update
    (fun t => t.ofWorkflow tenantId workflowId && t.toState == oldName)
    fun t => { t with toState := newName }
  Tables.workflows.update
    (fun w => w.isOwn tenantId workflowId && w.initialState == oldName)
    fun w => { w with initialState := newName }
  Tables.entityInstances.update (EntityInstance.occupies tenantId workflowId oldName)
    fun row => { row with currentState := newName }

def updateWorkflowState (tenantId workflowId stateId : Id) (caller : WorkflowCaller)
    (input : UpdateWorkflowStateInput) : Tx WorkflowState := do
  assertWorkflowOwned tenantId workflowId caller
  let current ← Tables.workflowStates.find (WorkflowState.isRow tenantId workflowId stateId)
  let current ← Prog.getOr current
    (.workflow .workflowStateNotFound [("stateId", .id stateId)])
  match input.newName current with
  | none =>
    Tables.workflowStates.update (WorkflowState.isRow tenantId workflowId stateId)
      (input.apply none)
    return input.apply none current
  | some newName =>
    checkRename tenantId workflowId stateId current.name newName
    Tables.workflowStates.update (WorkflowState.isRow tenantId workflowId stateId)
      (input.apply (some newName))
    cascadeRename tenantId workflowId current.name newName
    return input.apply (some newName) current

def checkStateUnused (tenantId : Id) (workflow : Workflow) (state : WorkflowState) : Tx Unit := do
  let inUse : Fields := [("stateId", .id state.id)]
  Tx.requireW (workflow.initialState != state.name) .workflowStateInUse inUse
  assertStateNotNamedByRule tenantId workflow.id state.name state.id
  let ref ← Tables.workflowTransitions.find fun t =>
    t.ofWorkflow tenantId workflow.id && (t.fromState == state.name || t.toState == state.name)
  Tx.requireW ref.isNone .workflowStateInUse inUse
  let occupant ← Tables.entityInstances.find
    (EntityInstance.occupies tenantId workflow.id state.name)
  Tx.requireW occupant.isNone .workflowStateInUse inUse

def deleteWorkflowState (tenantId workflowId stateId : Id) (caller : WorkflowCaller) : Tx Unit := do
  assertWorkflowOwned tenantId workflowId caller
  let workflow ← Tables.workflows.lockRow none (Workflow.isOwn tenantId workflowId)
  let workflow ← Prog.getOr workflow
    (.workflow .workflowNotFound [("workflowId", .id workflowId)])
  let state ← Tables.workflowStates.lockRow none (WorkflowState.isRow tenantId workflowId stateId)
  let state ← Prog.getOr state (.workflow .workflowStateNotFound [("stateId", .id stateId)])
  checkStateUnused tenantId workflow state
  Tables.workflowStates.delete (WorkflowState.isRow tenantId workflowId stateId)

/-! ## Transitions -/

structure CreateWorkflowTransitionInput where
  fromState : String
  toState : String
  label : Option String := none
  allowedRoles : Option (List String) := none
  conditions : Option TransitionConditionTree := none
  requiresComment : Option Bool := none
  requiresFields : Option (List String) := none

def addWorkflowTransition (tenantId workflowId : Id) (caller : WorkflowCaller)
    (input : CreateWorkflowTransitionInput) (transitionId : Id) : Tx WorkflowTransition := do
  assertWorkflowOwned tenantId workflowId caller
  assertRuleStatesExist tenantId workflowId input.conditions
  let row : WorkflowTransition :=
    { id := transitionId
      tenantId
      workflowId
      fromState := input.fromState
      toState := input.toState
      label := input.label
      allowedRoles := input.allowedRoles.getD []
      conditions := input.conditions
      requiresComment := input.requiresComment.getD false
      requiresFields := input.requiresFields.getD [] }
  Tables.workflowTransitions.insert (Tx.pkey "workflow_transitions") [row]
  return row

/-- `conditions` is absent, null or a tree. -/
structure UpdateWorkflowTransitionInput where
  label : Option String := none
  allowedRoles : Option (List String) := none
  conditions : Option (Option TransitionConditionTree) := none
  requiresComment : Option Bool := none
  requiresFields : Option (List String) := none

def UpdateWorkflowTransitionInput.apply (input : UpdateWorkflowTransitionInput)
    (transition : WorkflowTransition) : WorkflowTransition :=
  { transition with
    label := input.label.or transition.label
    allowedRoles := input.allowedRoles.getD transition.allowedRoles
    conditions := input.conditions.getD transition.conditions
    requiresComment := input.requiresComment.getD transition.requiresComment
    requiresFields := input.requiresFields.getD transition.requiresFields }

def updateWorkflowTransition (tenantId workflowId transitionId : Id) (caller : WorkflowCaller)
    (input : UpdateWorkflowTransitionInput) : Tx WorkflowTransition := do
  assertWorkflowOwned tenantId workflowId caller
  assertRuleStatesExist tenantId workflowId input.conditions.join
  Tables.workflowTransitions.update (WorkflowTransition.isOf tenantId workflowId transitionId)
    input.apply
  let row ← Tables.workflowTransitions.find
    (WorkflowTransition.isOf tenantId workflowId transitionId)
  Prog.getOr row (.workflow .workflowTransitionNotFound [("transitionId", .id transitionId)])

def deleteWorkflowTransition (tenantId workflowId transitionId : Id) (caller : WorkflowCaller) :
    Tx Unit := do
  assertWorkflowOwned tenantId workflowId caller
  let row ← Tables.workflowTransitions.find
    (WorkflowTransition.isOf tenantId workflowId transitionId)
  Tables.workflowTransitions.delete (WorkflowTransition.isOf tenantId workflowId transitionId)
  Tx.requireW row.isSome .workflowTransitionNotFound [("transitionId", .id transitionId)]

/-! ## What an edit does

The checks of an edit only read; the lemmas below say what is written after
them. -/

/-- What a state is known by. -/
def WorkflowState.identity (state : WorkflowState) : Id × Id × Id × String :=
  (state.id, state.tenantId, state.workflowId, state.name)

structure SameStates (db db' : Db) : Prop where
  states : db'.workflowStates.map WorkflowState.identity =
    db.workflowStates.map WorkflowState.identity
  instances : db'.entityInstances = db.entityInstances
  relations : db'.entityRelations = db.entityRelations

theorem SameStates.refl (db : Db) : SameStates db db := ⟨rfl, rfl, rfl⟩

theorem SameStates.trans {a b c : Db} (first : SameStates a b) (second : SameStates b c) :
    SameStates a c :=
  ⟨second.states.trans first.states, second.instances.trans first.instances,
    second.relations.trans first.relations⟩

theorem SameStates.modify (p : WorkflowState → Bool) (f : WorkflowState → WorkflowState)
    (kept : ∀ state, (f state).identity = state.identity) (db : Db) :
    SameStates db (Tables.workflowStates.modify p f db) := by
  refine ⟨?_, rfl, rfl⟩
  change (db.workflowStates.map _).map _ = _
  rw [map_map]
  refine map_congr_left fun state _ => ?_
  by_cases selected : p state = true
  · simp only [comp, if_pos selected, kept]
  · simp only [comp, if_neg selected]

def WorkflowTransition.rules (transition : WorkflowTransition) :
    Id × Id × Option TransitionConditionTree :=
  (transition.tenantId, transition.workflowId, transition.conditions)

def SameRules (db db' : Db) : Prop :=
  db'.workflowTransitions.map WorkflowTransition.rules =
    db.workflowTransitions.map WorkflowTransition.rules

theorem SameRules.modify (p : WorkflowTransition → Bool)
    (f : WorkflowTransition → WorkflowTransition) (kept : ∀ t, (f t).rules = t.rules) (db : Db) :
    SameRules db (Tables.workflowTransitions.modify p f db) := by
  change (db.workflowTransitions.map _).map _ = _
  rw [map_map]
  refine map_congr_left fun t _ => ?_
  by_cases selected : p t = true
  · simp only [comp, if_pos selected, kept]
  · simp only [comp, if_neg selected]

theorem assertWorkflowOwned_readOnly (tenantId workflowId : Id) (caller : WorkflowCaller) :
    (assertWorkflowOwned tenantId workflowId caller).ReadOnly :=
  .bind (.read _) fun _ => .bind (.getOr _ _) fun _ => .require _ _

def Db.Unnamed (db : Db) (tenantId workflowId : Id) (stateName : String) : Prop :=
  ∀ t ∈ db.workflowTransitions, t.ofWorkflow tenantId workflowId = true →
    stateName ∉ ruleStates t.conditions

variable {stateId tenantId transitionId workflowId : Id} {db db' : Db} {u : Unit}
  {caller : WorkflowCaller} {input : CreateWorkflowTransitionInput} {state : WorkflowState}
  {row : WorkflowTransition}

theorem exec_assertStateNotNamedByRule_ok {stateName : String}
    (ran : (assertStateNotNamedByRule tenantId workflowId stateName stateId).exec db =
      .ok (u, db')) : db.Unnamed tenantId workflowId stateName ∧ db' = db := by
  unfold assertStateNotNamedByRule Tx.requireW at ran
  simp only [exec_seq_ok, exec_filter, exec_require_ok, ok_eq_ok] at ran
  obtain ⟨_, _, ⟨rfl, rfl⟩, unnamed, rfl⟩ := ran
  refine ⟨fun t mem own named => ?_, rfl⟩
  rw [not_eq_true', any_eq_false] at unnamed
  exact unnamed t (mem_filter.mpr ⟨mem, own⟩) (contains_iff_mem.mpr named)

theorem exec_assertRuleStatesExist_ok {conditions : Option TransitionConditionTree}
    (ran : (assertRuleStatesExist tenantId workflowId conditions).exec db = .ok (u, db')) :
    (∀ name ∈ ruleStates conditions, ∃ st ∈ db.workflowStates,
        st.ofWorkflow tenantId workflowId ∧ st.name = name) ∧
      db' = db := by
  unfold assertRuleStatesExist Tx.requireW at ran
  simp only [exec_seq_ok, exec_filter, exec_require_ok, ok_eq_ok] at ran
  obtain ⟨_, _, ⟨rfl, rfl⟩, known, rfl⟩ := ran
  refine ⟨fun name named => ?_, rfl⟩
  have listed := filter_eq_nil_iff.mp (List.isEmpty_iff.mp known) name named
  rw [not_eq_true, not_eq_false', contains_iff_mem] at listed
  obtain ⟨st, mem, same⟩ := mem_map.mp listed
  obtain ⟨stored, own⟩ := mem_filter.mp mem
  exact ⟨st, stored, own, same⟩

theorem exec_checkRename_ok {oldName newName : String}
    (ran : (checkRename tenantId workflowId stateId oldName newName).exec db = .ok (u, db')) :
    db.Unnamed tenantId workflowId oldName ∧ db' = db := by
  unfold checkRename Tx.requireW at ran
  simp only [exec_seq_ok, exec_find, exec_require_ok, ok_eq_ok] at ran
  obtain ⟨_, _, ⟨-, rfl⟩, _, _, ⟨-, rfl⟩, rules⟩ := ran
  exact exec_assertStateNotNamedByRule_ok rules

/-- The store after a rename. -/
def Db.renameState (db : Db) (tenantId workflowId stateId : Id)
    (input : UpdateWorkflowStateInput) (oldName newName : String) : Db :=
  { db with
    workflowStates := db.workflowStates.map fun st =>
      if WorkflowState.isRow tenantId workflowId stateId st then input.apply (some newName) st
      else st
    workflowTransitions := (db.workflowTransitions.map fun t =>
      if t.ofWorkflow tenantId workflowId && t.fromState == oldName then
        { t with fromState := newName }
      else t).map fun t =>
        if t.ofWorkflow tenantId workflowId && t.toState == oldName then
          { t with toState := newName }
        else t
    workflows := db.workflows.map fun w =>
      if w.isOwn tenantId workflowId && w.initialState == oldName then
        { w with initialState := newName }
      else w
    entityInstances := db.entityInstances.map fun row =>
      if EntityInstance.occupies tenantId workflowId oldName row then
        { row with currentState := newName }
      else row }

theorem updateWorkflowState_cases {input : UpdateWorkflowStateInput}
    (ran : (updateWorkflowState tenantId workflowId stateId caller input).exec db =
      .ok (state, db')) :
    ∃ current,
      db.workflowStates.find? (WorkflowState.isRow tenantId workflowId stateId) = some current ∧
      ((input.newName current = none ∧ SameStates db db' ∧
          db'.workflowTransitions = db.workflowTransitions) ∨
        ∃ newName, input.newName current = some newName ∧
          db.Unnamed tenantId workflowId current.name ∧
          db' = db.renameState tenantId workflowId stateId input current.name newName) := by
  unfold updateWorkflowState at ran
  simp only [exec_seq_ok, exec_getOr_ok, exec_find, workflowStates_rows, ok_eq_ok] at ran
  obtain ⟨_, mid, owned, _, _, ⟨rfl, rfl⟩, current, _, ⟨found, rfl⟩, rest⟩ := ran
  obtain rfl := (assertWorkflowOwned_readOnly _ _ _).exec owned
  refine ⟨current, found, ?_⟩
  cases renamed : input.newName current with
  | none =>
    simp only [renamed, exec_seq_ok, exec_update, exec_pure, ok_eq_ok] at rest
    obtain ⟨_, _, ⟨-, rfl⟩, -, rfl⟩ := rest
    exact .inl ⟨rfl, .modify _ (input.apply none) (fun _ => rfl) _, rfl⟩
  | some newName =>
    simp only [renamed, cascadeRename, exec_seq_ok, exec_update, exec_pure, ok_eq_ok] at rest
    obtain ⟨_, same, checked, _, _, ⟨-, rfl⟩, _, _, ⟨_, _, ⟨-, rfl⟩, _, _, ⟨-, rfl⟩, _, _, ⟨-, rfl⟩,
      -, rfl⟩, -, rfl⟩ := rest
    obtain ⟨unnamed, rfl⟩ := exec_checkRename_ok checked
    exact .inr ⟨newName, rfl, unnamed, rfl⟩

theorem exec_checkStateUnused_ok {workflow : Workflow}
    (ran : (checkStateUnused tenantId workflow state).exec db = .ok (u, db')) :
    db.Unnamed tenantId workflow.id state.name ∧
      (∀ row ∈ db.entityInstances, row.occupies tenantId workflow.id state.name = false) ∧
      db' = db := by
  unfold checkStateUnused Tx.requireW at ran
  simp only [exec_seq_ok, exec_require_ok, exec_find, entityInstances_rows, ok_eq_ok] at ran
  obtain ⟨_, _, ⟨-, rfl⟩, _, mid, rules, _, _, ⟨rfl, rfl⟩, _, _, ⟨-, rfl⟩, _, _, ⟨rfl, rfl⟩,
    clear, rfl⟩ := ran
  obtain ⟨unnamed, rfl⟩ := exec_assertStateNotNamedByRule_ok rules
  refine ⟨unnamed, fun row mem => ?_, rfl⟩
  have none := find?_eq_none.mp (Option.isNone_iff_eq_none.mp clear) row mem
  exact eq_false_iff.mpr none

theorem deleteWorkflowState_cases
    (ran : (deleteWorkflowState tenantId workflowId stateId caller).exec db = .ok (u, db')) :
    ∃ state,
      db.workflowStates.find? (WorkflowState.isRow tenantId workflowId stateId) = some state ∧
      db.Unnamed tenantId workflowId state.name ∧
      (∀ row ∈ db.entityInstances, row.occupies tenantId workflowId state.name = false) ∧
      db' = Tables.workflowStates.remove (WorkflowState.isRow tenantId workflowId stateId) db := by
  unfold deleteWorkflowState at ran
  simp only [exec_seq_ok, exec_getOr_ok, exec_lockRow, exec_delete, workflows_rows,
    workflowStates_rows, ok_eq_ok] at ran
  obtain ⟨_, mid, owned, _, _, ⟨rfl, rfl⟩, workflow, _, ⟨own, rfl⟩, _, _, ⟨rfl, rfl⟩, state, _,
    ⟨found, rfl⟩, _, last, unused, -, rfl⟩ := ran
  obtain rfl := (assertWorkflowOwned_readOnly _ _ _).exec owned
  obtain ⟨unnamed, clear, rfl⟩ := exec_checkStateUnused_ok unused
  have selected : workflow.isOwn tenantId workflowId := find?_some own
  have named : workflow.id = workflowId := eq_of_beq (and_eq_true_iff.mp selected).1
  exact ⟨state, found, named ▸ unnamed, named ▸ clear, rfl⟩

section

variable
  (ran : (addWorkflowTransition tenantId workflowId caller input transitionId).exec db = .ok (row, db'))

include ran

theorem addWorkflowTransition_row :
    (row.tenantId = tenantId ∧ row.workflowId = workflowId ∧ row.fromState = input.fromState ∧
        row.toState = input.toState ∧ row.conditions = input.conditions) ∧
      Tables.workflowTransitions.fresh [row] db ∧
      db' = Tables.workflowTransitions.append [row] db := by
  unfold addWorkflowTransition at ran
  simp only [exec_seq_ok, exec_insert_ok, exec_pure, ok_eq_ok] at ran
  obtain ⟨_, mid, owned, _, last, exist, _, _, ⟨fresh, rfl⟩, rfl, rfl⟩ := ran
  obtain rfl := (assertWorkflowOwned_readOnly _ _ _).exec owned
  obtain ⟨-, rfl⟩ := exec_assertRuleStatesExist_ok exist
  exact ⟨⟨rfl, rfl, rfl, rfl, rfl⟩, fresh, rfl⟩

theorem addWorkflowTransition_cases :
    SameStates db db' ∧
      (∀ name ∈ ruleStates input.conditions, ∃ st ∈ db.workflowStates,
        st.ofWorkflow tenantId workflowId ∧ st.name = name) ∧
      (row.tenantId = tenantId ∧ row.workflowId = workflowId ∧ row.conditions = input.conditions) ∧
      db'.workflowTransitions = db.workflowTransitions ++ [row] := by
  unfold addWorkflowTransition at ran
  simp only [exec_seq_ok, exec_insert_ok, exec_pure, ok_eq_ok] at ran
  obtain ⟨_, mid, owned, _, last, exist, _, _, ⟨-, rfl⟩, rfl, rfl⟩ := ran
  obtain rfl := (assertWorkflowOwned_readOnly _ _ _).exec owned
  obtain ⟨known, rfl⟩ := exec_assertRuleStatesExist_ok exist
  exact ⟨⟨rfl, rfl, rfl⟩, known, ⟨rfl, rfl, rfl⟩, rfl⟩

end

theorem updateWorkflowTransition_cases {input : UpdateWorkflowTransitionInput}
    (ran : (updateWorkflowTransition tenantId workflowId transitionId caller input).exec db =
      .ok (row, db')) :
    SameStates db db' ∧
      (∀ name ∈ ruleStates input.conditions.join, ∃ st ∈ db.workflowStates,
        st.ofWorkflow tenantId workflowId ∧ st.name = name) ∧
      db'.workflowTransitions = db.workflowTransitions.map fun t =>
        if t.isOf tenantId workflowId transitionId then input.apply t else t := by
  unfold updateWorkflowTransition at ran
  simp only [exec_seq_ok, exec_update, exec_find, exec_getOr_ok, ok_eq_ok] at ran
  obtain ⟨_, mid, owned, _, last, exist, _, _, ⟨-, rfl⟩, _, _, ⟨rfl, rfl⟩, -, rfl⟩ := ran
  obtain rfl := (assertWorkflowOwned_readOnly _ _ _).exec owned
  obtain ⟨known, rfl⟩ := exec_assertRuleStatesExist_ok exist
  exact ⟨⟨rfl, rfl, rfl⟩, known, rfl⟩

theorem deleteWorkflowTransition_cases
    (ran : (deleteWorkflowTransition tenantId workflowId transitionId caller).exec db =
      .ok (u, db')) :
    SameStates db db' ∧
      db'.workflowTransitions = db.workflowTransitions.filter fun t =>
        !t.isOf tenantId workflowId transitionId := by
  unfold deleteWorkflowTransition Tx.requireW at ran
  simp only [exec_seq_ok, exec_delete, exec_find, exec_require_ok, ok_eq_ok] at ran
  obtain ⟨_, mid, owned, _, _, ⟨-, rfl⟩, _, _, ⟨-, rfl⟩, -, rfl⟩ := ran
  obtain rfl := (assertWorkflowOwned_readOnly _ _ _).exec owned
  exact ⟨⟨rfl, rfl, rfl⟩, rfl⟩

end OpenWind
