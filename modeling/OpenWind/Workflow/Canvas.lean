import OpenWind.Workflow.Crud

/-!
# The canvas save

The canvas replaces the states and the transitions of a workflow by the ones it
is given.  What it keeps it recognises by identifier; a state keeps its name.  It
refuses to delete the workflow's initial state, and only an admin may delete or
move a transition that carries a rule on the actor.  It does not look at the
records.
-/

open List Txn.Prog

namespace OpenWind

open Txn Tables Txn.Table

/-- The authenticated caller of a route. -/
structure AuthContext where
  userId : String
  roles : List String

def isPersonAdmin (auth : AuthContext) : Bool :=
  auth.roles.contains "admin" && !startsWith auth.userId "apikey:"

structure CanvasState where
  id : Option Id
  name : String
  label : String
  color : Option String := none
  isTerminal : Bool := false
  slaHours : Option Nat := none
  sortOrder : Nat := 0

structure CanvasTransition where
  id : Option Id
  fromState : String
  toState : String
  label : String := ""
  allowedRoles : List String := []
  requiresComment : Bool := false
  requiresFields : List String := []

structure CanvasSave where
  states : List CanvasState
  transitions : List CanvasTransition

structure WorkflowFull where
  workflow : Workflow
  states : List WorkflowState
  transitions : List WorkflowTransition

def getWorkflow (tenantId workflowId : Id) : Tx WorkflowFull := do
  let workflow ← Tables.workflows.find (Workflow.isOf tenantId workflowId)
  let workflow ← Prog.getOr workflow
    (.workflow .workflowNotFound [("workflowId", .id workflowId)])
  let states ← Tables.workflowStates.filter (WorkflowState.ofWorkflow tenantId workflowId)
  let transitions ← Tables.workflowTransitions.filter
    (WorkflowTransition.ofWorkflow tenantId workflowId)
  return ⟨workflow, states, transitions⟩

/-! ## The difference -/

def CanvasSave.deletedStates (input : CanvasSave) (current : WorkflowFull) : List WorkflowState :=
  current.states.filter fun s => !(input.states.filterMap (·.id)).contains s.id

def CanvasSave.deletedTransitions (input : CanvasSave) (current : WorkflowFull) :
    List WorkflowTransition :=
  let names := (input.deletedStates current).map (·.name)
  current.transitions.filter fun t =>
    !(input.transitions.filterMap (·.id)).contains t.id || names.contains t.fromState ||
      names.contains t.toState

/-- The states that stay, with their identifiers. -/
def CanvasSave.existingStates (input : CanvasSave) (current : WorkflowFull) :
    List (Id × CanvasState) :=
  input.states.filterMap fun s =>
    (s.id.filter (current.states.map (·.id)).contains).map fun id => (id, s)

def CanvasSave.existingTransitions (input : CanvasSave) (current : WorkflowFull) :
    List (Id × CanvasTransition) :=
  input.transitions.filterMap fun t =>
    (t.id.filter (current.transitions.map (·.id)).contains).map fun id => (id, t)

def usesActorRule (conditions : Option TransitionConditionTree) : Bool :=
  match conditions with
  | none => false
  | some tree => treeUsesActorRule tree

def CanvasSave.maySetActorRules (input : CanvasSave) (auth : AuthContext)
    (current : WorkflowFull) : Bool :=
  isPersonAdmin auth ||
    ((input.deletedTransitions current).all fun t => !usesActorRule t.conditions) &&
      (input.existingTransitions current).all fun (id, t) =>
        match current.transitions.find? fun prior => prior.id == id with
        | none => true
        | some prior =>
          (prior.fromState == t.fromState && prior.toState == t.toState) ||
            !usesActorRule prior.conditions

/-! ## The save -/

/-- The row of a new state. -/
def CanvasState.row (state : CanvasState) (tenantId workflowId id : Id) : WorkflowState where
  id := id
  tenantId := tenantId
  workflowId := workflowId
  name := state.name
  label := state.label
  color := state.color
  isTerminal := state.isTerminal
  slaHours := state.slaHours
  sortOrder := state.sortOrder

/-- A state that stays keeps its name. -/
def CanvasState.apply (state : CanvasState) (row : WorkflowState) : WorkflowState :=
  { row with
    label := state.label
    color := state.color
    isTerminal := state.isTerminal
    slaHours := state.slaHours
    sortOrder := state.sortOrder }

/-- `label || null`. -/
def CanvasTransition.storedLabel (transition : CanvasTransition) : Option String :=
  if transition.label == "" then none else some transition.label

def CanvasTransition.row (transition : CanvasTransition) (tenantId workflowId id : Id) :
    WorkflowTransition where
  id := id
  tenantId := tenantId
  workflowId := workflowId
  fromState := transition.fromState
  toState := transition.toState
  label := transition.storedLabel
  allowedRoles := transition.allowedRoles
  requiresComment := transition.requiresComment
  requiresFields := transition.requiresFields

def CanvasTransition.apply (transition : CanvasTransition) (row : WorkflowTransition) :
    WorkflowTransition :=
  { row with
    fromState := transition.fromState
    toState := transition.toState
    label := transition.storedLabel
    allowedRoles := transition.allowedRoles
    requiresComment := transition.requiresComment
    requiresFields := transition.requiresFields }

def CanvasSave.newStates (input : CanvasSave) (tenantId workflowId : Id) (ids : Nat → Id) :
    List WorkflowState :=
  ((input.states.filter fun s => s.id.isNone).zipIdx).map fun (s, i) =>
    s.row tenantId workflowId (ids i)

def CanvasSave.newTransitions (input : CanvasSave) (tenantId workflowId : Id) (ids : Nat → Id) :
    List WorkflowTransition :=
  ((input.transitions.filter fun t => t.id.isNone).zipIdx).map fun (t, i) =>
    t.row tenantId workflowId (ids i)

def CanvasSave.write (input : CanvasSave) (tenantId workflowId : Id) (current : WorkflowFull)
    (ids : Nat → Id) : Tx Unit := do
  Tables.workflowTransitions.delete fun t =>
    t.ofWorkflow tenantId workflowId &&
      ((input.deletedTransitions current).map (·.id)).contains t.id
  Tables.workflowStates.delete fun s =>
    s.ofWorkflow tenantId workflowId && ((input.deletedStates current).map (·.id)).contains s.id
  Tables.workflowStates.insert (Tx.pkey "workflow_states") (input.newStates tenantId workflowId ids)
  Prog.forEach (input.existingStates current) fun (id, s) =>
    Tables.workflowStates.update (WorkflowState.isRow tenantId workflowId id) s.apply
  Tables.workflowTransitions.insert (Tx.pkey "workflow_transitions")
    (input.newTransitions tenantId workflowId ids)
  Prog.forEach (input.existingTransitions current) fun (id, t) =>
    Tables.workflowTransitions.update (WorkflowTransition.isOf tenantId workflowId id) t.apply

def canvasAllowed (tenantId workflowId : Id) (auth : AuthContext) (db : Db) : Bool :=
  auth.roles.contains "admin" ||
    match db.workflows.find? (Workflow.isOwn tenantId workflowId) with
    | none => true
    | some workflow =>
      isWorkflowAdmin auth.userId workflow.createdBy (workflow.assignedTo.getD [])

def canvasSave (tenantId workflowId : Id) (auth : AuthContext) (input : CanvasSave)
    (ids : Nat → Id) : Tx WorkflowFull := do
  let allowed ← Prog.read (canvasAllowed tenantId workflowId auth)
  Prog.require allowed (.route "NOT_FOUND" "Workflow not found")
  let current ← getWorkflow tenantId workflowId
  Prog.require
    (!((input.deletedStates current).map (·.name)).contains current.workflow.initialState)
    (.route "INVALID_OPERATION" "Cannot delete the workflow's initial state")
  Prog.require (input.maySetActorRules auth current)
    (.route "FORBIDDEN" "Only an admin can add, change or remove an actor rule")
  input.write tenantId workflowId current ids
  getWorkflow tenantId workflowId

/-! ## What a save does -/

variable {tenantId workflowId : Id} {db db' : Db} {current full : WorkflowFull}
  {states : List (Id × CanvasState)} {u : Unit} {transitions : List (Id × CanvasTransition)}
  {input : CanvasSave} {ids : Nat → Id} {auth : AuthContext}

theorem exec_getWorkflow_ok (ran : (getWorkflow tenantId workflowId).exec db = .ok (full, db')) :
    full.states = db.workflowStates.filter (WorkflowState.ofWorkflow tenantId workflowId) ∧
      full.transitions =
        db.workflowTransitions.filter (WorkflowTransition.ofWorkflow tenantId workflowId) ∧
      db' = db := by
  unfold getWorkflow at ran
  simp only [exec_seq_ok, exec_find, exec_filter, exec_getOr_ok, exec_pure, ok_eq_ok] at ran
  obtain ⟨_, _, ⟨rfl, rfl⟩, _, _, ⟨-, rfl⟩, _, _, ⟨rfl, rfl⟩, _, _, ⟨rfl, rfl⟩, rfl, rfl⟩ := ran
  exact ⟨rfl, rfl, rfl⟩

def CanvasSave.drops (input : CanvasSave) (tenantId workflowId : Id) (state : WorkflowState) :
    Bool :=
  state.ofWorkflow tenantId workflowId && !(input.states.filterMap (·.id)).contains state.id

theorem CanvasSave.deletes_iff (input : CanvasSave) (read : current.states =
      db.workflowStates.filter (WorkflowState.ofWorkflow tenantId workflowId))
    {state : WorkflowState} (mem : state ∈ db.workflowStates) :
    (state.ofWorkflow tenantId workflowId &&
      ((input.deletedStates current).map (·.id)).contains state.id) =
      input.drops tenantId workflowId state := by
  unfold CanvasSave.drops CanvasSave.deletedStates
  by_cases own : state.ofWorkflow tenantId workflowId = true
  · rw [own, Bool.true_and, Bool.true_and, Bool.eq_iff_iff, contains_iff_mem, mem_map]
    constructor
    · rintro ⟨other, dropped, same⟩
      rw [← same]
      exact (mem_filter.mp dropped).2
    · intro absent
      refine ⟨state, mem_filter.mpr ⟨?_, absent⟩, rfl⟩
      rw [read]
      exact mem_filter.mpr ⟨mem, own⟩
  · rw [Bool.eq_false_iff.mpr own, Bool.false_and, Bool.false_and]

structure SameGraph (db db' : Db) : Prop where
  states : SameStates db db'
  rules : SameRules db db'

theorem SameGraph.refl (db : Db) : SameGraph db db := ⟨.refl db, rfl⟩

theorem SameGraph.trans {a b c : Db} (first : SameGraph a b) (second : SameGraph b c) :
    SameGraph a c :=
  ⟨first.states.trans second.states, second.rules.trans first.rules⟩

theorem exec_canvasStates_ok (ran : (forEach states fun (id, s) =>
      workflowStates.update (WorkflowState.isRow tenantId workflowId id) s.apply : Tx Unit).exec
        db = .ok (u, db')) : SameGraph db db' := by
  refine exec_forEach_ok SameGraph.refl .trans (fun pair _ db db' u wrote => ?_) ran
  simp only [exec_update, Except.ok.injEq, Prod.mk.injEq] at wrote
  obtain ⟨-, rfl⟩ := wrote
  exact ⟨.modify _ pair.2.apply (fun _ => rfl) db, rfl⟩

theorem exec_canvasTransitions_ok (ran : (forEach transitions fun (id, t) =>
      workflowTransitions.update (WorkflowTransition.isOf tenantId workflowId id)
        t.apply : Tx Unit).exec db = .ok (u, db')) : SameGraph db db' := by
  refine exec_forEach_ok SameGraph.refl .trans (fun pair _ db db' u wrote => ?_) ran
  simp only [exec_update, Except.ok.injEq, Prod.mk.injEq] at wrote
  obtain ⟨-, rfl⟩ := wrote
  exact ⟨⟨rfl, rfl, rfl⟩, .modify _ pair.2.apply (fun _ => rfl) db⟩

def CanvasSave.keptTransitions (input : CanvasSave) (tenantId workflowId : Id)
    (current : WorkflowFull) (db : Db) : List WorkflowTransition :=
  db.workflowTransitions.filter fun t => !(t.ofWorkflow tenantId workflowId &&
    ((input.deletedTransitions current).map (·.id)).contains t.id)

/-- The store without the dropped states. -/
def CanvasSave.drop (input : CanvasSave) (tenantId workflowId : Id) (db : Db) : Db :=
  Tables.workflowStates.remove (input.drops tenantId workflowId) db

theorem CanvasSave.exec_write_ok (read : current.states =
      db.workflowStates.filter (WorkflowState.ofWorkflow tenantId workflowId))
    (ran : (input.write tenantId workflowId current ids).exec db = .ok (u, db')) :
    workflowStates.fresh (input.newStates tenantId workflowId ids)
        (input.drop tenantId workflowId db) ∧
      SameStates (workflowStates.append (input.newStates tenantId workflowId ids)
        (input.drop tenantId workflowId db)) db' ∧
      db'.workflowTransitions.map WorkflowTransition.rules =
        (input.keptTransitions tenantId workflowId current db ++
          input.newTransitions tenantId workflowId ids).map WorkflowTransition.rules := by
  unfold CanvasSave.write at ran
  simp only [exec_seq_ok, exec_delete, exec_insert_ok, ok_eq_ok] at ran
  obtain ⟨_, _, ⟨-, rfl⟩, _, dropped, ⟨-, same⟩, _, _, ⟨fresh, rfl⟩, _, kept, states, _, _,
    ⟨-, rfl⟩, transitions⟩ := ran
  have left : dropped.workflowStates = (input.drop tenantId workflowId db).workflowStates := by
    rw [← same]
    exact List.filter_congr fun state mem => congrArg (! ·) (input.deletes_iff read mem)
  have deleted : SameStates (input.drop tenantId workflowId db) dropped := by
    refine ⟨by rw [left], ?_, ?_⟩ <;> rw [← same] <;> rfl
  have added : SameStates
      (workflowStates.append (input.newStates tenantId workflowId ids)
        (input.drop tenantId workflowId db))
      (workflowStates.append (input.newStates tenantId workflowId ids) dropped) := by
    refine ⟨?_, deleted.instances, deleted.relations⟩
    change List.map _ (dropped.workflowStates ++ _) = _
    rw [left]
    rfl
  obtain ⟨sameStates, sameRules⟩ := exec_canvasStates_ok states
  obtain ⟨sameAfter, rulesAfter⟩ := exec_canvasTransitions_ok transitions
  refine ⟨?_, ?_, ?_⟩
  · unfold Table.fresh at fresh ⊢
    rw [workflowStates_rows, left] at fresh
    exact fresh
  · have inserted : SameStates kept (workflowTransitions.append
        (input.newTransitions tenantId workflowId ids) kept) := ⟨rfl, rfl, rfl⟩
    exact ((added.trans sameStates).trans inserted).trans sameAfter
  · have keptRules : kept.workflowTransitions.map WorkflowTransition.rules =
        (input.keptTransitions tenantId workflowId current db).map WorkflowTransition.rules := by
      rw [show kept.workflowTransitions.map _ = _ from sameRules, ← same]
      rfl
    rw [show db'.workflowTransitions.map _ = _ from rulesAfter, map_append, ← keptRules]
    exact map_append

theorem canvasSave_cases
    (ran : (canvasSave tenantId workflowId auth input ids).exec db = .ok (full, db')) :
    ∃ current,
      (getWorkflow tenantId workflowId).exec db = .ok (current, db) ∧
      workflowStates.fresh (input.newStates tenantId workflowId ids)
        (input.drop tenantId workflowId db) ∧
      SameStates (workflowStates.append (input.newStates tenantId workflowId ids)
        (input.drop tenantId workflowId db)) db' ∧
      db'.workflowTransitions.map WorkflowTransition.rules =
        (input.keptTransitions tenantId workflowId current db ++
          input.newTransitions tenantId workflowId ids).map WorkflowTransition.rules := by
  unfold canvasSave at ran
  simp only [exec_seq_ok, exec_read, exec_require_ok, ok_eq_ok] at ran
  obtain ⟨_, _, ⟨-, rfl⟩, _, _, ⟨-, rfl⟩, current, start, loaded, _, _, ⟨-, rfl⟩, _, _, ⟨-, rfl⟩, _,
    written, wrote, returned⟩ := ran
  obtain ⟨read, -, rfl⟩ := exec_getWorkflow_ok loaded
  obtain ⟨-, -, rfl⟩ := exec_getWorkflow_ok returned
  exact ⟨current, loaded, CanvasSave.exec_write_ok read wrote⟩

/-! ## Where a save puts the transitions -/

def placed (tenantId workflowId : Id) (entries : List (Id × CanvasTransition))
    (transition : WorkflowTransition) : WorkflowTransition :=
  entries.foldl
    (fun t entry => if t.isOf tenantId workflowId entry.1 then entry.2.apply t else t) transition

theorem placed_kept (tenantId workflowId : Id) (entries : List (Id × CanvasTransition))
    (t : WorkflowTransition) :
    (placed tenantId workflowId entries t).id = t.id ∧
      (placed tenantId workflowId entries t).rules = t.rules := by
  unfold placed
  induction entries generalizing t with
  | nil => exact ⟨rfl, rfl⟩
  | cons entry rest ih =>
    rw [foldl_cons]
    split
    · exact ih (entry.2.apply t)
    · exact ih t

theorem placed_ends {entries : List (Id × CanvasTransition)} {t : WorkflowTransition}
    (same : ∀ entry ∈ entries, t.isOf tenantId workflowId entry.1 →
      entry.2.fromState = t.fromState ∧ entry.2.toState = t.toState) :
    (placed tenantId workflowId entries t).fromState = t.fromState ∧
      (placed tenantId workflowId entries t).toState = t.toState := by
  unfold placed
  induction entries generalizing t with
  | nil => exact ⟨rfl, rfl⟩
  | cons entry rest ih =>
    have later := fun other mem => same other (mem_cons_of_mem entry mem)
    rw [foldl_cons]
    split
    · rename_i own
      obtain ⟨left, right⟩ := same entry mem_cons_self own
      have kept := ih (t := entry.2.apply t) fun other mem selected => by
        obtain ⟨otherLeft, otherRight⟩ := later other mem selected
        exact ⟨otherLeft.trans left.symm, otherRight.trans right.symm⟩
      exact ⟨kept.1.trans left, kept.2.trans right⟩
    · exact ih later

theorem exec_canvasStates_transitions (ran : (forEach states fun (id, s) =>
      workflowStates.update (WorkflowState.isRow tenantId workflowId id) s.apply : Tx Unit).exec
        db = .ok (u, db')) : db'.workflowTransitions = db.workflowTransitions := by
  refine exec_forEach_ok (R := fun a b => b.workflowTransitions = a.workflowTransitions)
    (fun _ => rfl) (fun {a b c} first second => ?_) (fun pair _ db db' u wrote => ?_) ran
  · exact second.trans first
  · simp only [exec_update, Except.ok.injEq, Prod.mk.injEq] at wrote
    obtain ⟨-, rfl⟩ := wrote
    rfl

theorem exec_canvasTransitions_placed (ran : (forEach transitions fun (id, t) =>
      workflowTransitions.update (WorkflowTransition.isOf tenantId workflowId id)
        t.apply : Tx Unit).exec db = .ok (u, db')) :
    db'.workflowTransitions = db.workflowTransitions.map (placed tenantId workflowId transitions) := by
  induction transitions generalizing db with
  | nil =>
    cases ran
    exact (map_id _).symm
  | cons entry rest ih =>
    rw [forEach] at ran
    simp only [exec_bind_ok, exec_update, ok_eq_ok] at ran
    obtain ⟨_, mid, ⟨-, rfl⟩, later⟩ := ran
    rw [ih later]
    exact map_map

theorem canvasSave_rows
    (ran : (canvasSave tenantId workflowId auth input ids).exec db = .ok (full, db')) :
    ∃ current,
      (getWorkflow tenantId workflowId).exec db = .ok (current, db) ∧
      input.maySetActorRules auth current ∧
      (workflowTransitions.Keyed db → workflowTransitions.Keyed db') ∧
      db'.workflowTransitions =
        (input.keptTransitions tenantId workflowId current db ++
          input.newTransitions tenantId workflowId ids).map
            (placed tenantId workflowId (input.existingTransitions current)) := by
  unfold canvasSave CanvasSave.write at ran
  simp only [exec_seq_ok, exec_read, exec_require_ok, exec_delete, exec_insert_ok, ok_eq_ok] at ran
  obtain ⟨_, _, ⟨-, rfl⟩, _, _, ⟨-, rfl⟩, current, _, loaded, _, _, ⟨-, rfl⟩, _, store,
    ⟨may, rfl⟩, _, _, ⟨_, _, ⟨-, rfl⟩, _, dropped, ⟨-, same⟩, _, _, ⟨-, rfl⟩, _, kept,
    states, _, _, ⟨fresh, rfl⟩, transitions⟩, returned⟩ := ran
  obtain ⟨-, -, rfl⟩ := exec_getWorkflow_ok loaded
  obtain ⟨-, -, rfl⟩ := exec_getWorkflow_ok returned
  have left : kept.workflowTransitions =
      input.keptTransitions tenantId workflowId current store := by
    rw [exec_canvasStates_transitions states, ← same]
    rfl
  have rows := exec_canvasTransitions_placed transitions
  rw [show (workflowTransitions.append _ kept).workflowTransitions =
    kept.workflowTransitions ++ _ from rfl, left] at rows
  refine ⟨current, loaded, may, fun keyed => ?_, rows⟩
  have removed := keyed.remove fun t => t.ofWorkflow tenantId workflowId &&
    ((input.deletedTransitions current).map (·.id)).contains t.id
  have keyedKept : workflowTransitions.Keyed kept := removed.of_rows left
  rw [← left] at rows
  exact (keyedKept.append fresh).of_map rows fun t =>
    congrArg (LockKey.row .workflowTransitions) (placed_kept tenantId workflowId _ t).1

end OpenWind
