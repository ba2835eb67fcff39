import OpenWind.Entity.Effects
import OpenWind.Lib.Worklist
import Mathlib.Data.List.Find

/-!
# Child tickets

`createChildRelation` adds a child ticket to a parent, and `moveChildRelation`
gives a child another parent or detaches it.  A link is a pair of rows, `parent_of`
from the parent and `child_of` from the child.

Both lock the records they are given, and walk the hierarchy above and below with
plain reads.  A walk down has no bound in the code and does not end on a cycle;
here it is given one, and a call that exceeds it is cut off.
-/

open List Option Bool Function Txn.Prog

namespace OpenWind

open Txn

/-! ## Walks -/

def EntityRelation.isParentOf (tenantId instanceId : Id) (relation : EntityRelation) : Bool :=
  relation.isActive tenantId .parentOf && relation.fromInstanceId == instanceId

def Db.childIds (db : Db) (tenantId instanceId : Id) : List Id :=
  (db.entityRelations.filter (EntityRelation.isParentOf tenantId instanceId)).map (·.toInstanceId)

def getChildIds (tenantId instanceId : Id) : Tx (List Id) :=
  .read fun db => db.childIds tenantId instanceId

/-- The number of ancestors, counted up to `limit`. -/
def ancestorDepth (tenantId : Id) : Nat → Id → Tx Nat
  | 0, _ => return 0
  | limit + 1, current => do
    match ← getParentId tenantId current with
    | none => return 0
    | some parentId =>
      let depth ← ancestorDepth tenantId limit parentId
      return depth + 1

def hardMax : Nat := 20

def getAncestorDepth (tenantId instanceId : Id) : Tx Nat :=
  ancestorDepth tenantId hardMax instanceId

/-- The greatest depth below the children, one level included. -/
def deepest (visit : Id → Tx Nat) : List Id → Tx Nat
  | [] => return 0
  | child :: rest => do
    let depth ← visit child
    let others ← deepest visit rest
    return max (depth + 1) others

def getDescendantDepth (tenantId : Id) : Nat → Id → Tx Nat
  | 0, _ => .fail .unfinished
  | bound + 1, instanceId => do
    let children ← getChildIds tenantId instanceId
    deepest (getDescendantDepth tenantId bound) children

def collectDescendants (tenantId : Id) : Nat → List Id → List Id → Tx (List Id)
  | _, [], result => return result
  | 0, _ :: _, _ => .fail .unfinished
  | bound + 1, current :: queue, result => do
    let children ← getChildIds tenantId current
    collectDescendants tenantId bound (queue ++ children) (result ++ children)

def collectDescendantIds (tenantId : Id) (bound : Nat) (instanceId : Id) : Tx (List Id) :=
  collectDescendants tenantId bound [instanceId] []

/-! ## Limits -/

def loadWorkflowLimits (tenantId workflowId : Id) : Tx Workflow := do
  let workflow ← Tables.workflows.find (Workflow.isOf tenantId workflowId)
  Prog.getOr workflow (.entity .entityNotFound [("workflowId", .id workflowId)])

def lockRecord (tenantId instanceId : Id) : Tx EntityInstance := do
  let row ← Tables.entityInstances.lockRow none (EntityInstance.isOf tenantId instanceId)
  Prog.getOr (row.filter fun r => r.deletedAt == none)
    (.entity .entityNotFound [("instanceId", .id instanceId)])

def childLimits (tenantId : Id) (parent : EntityInstance) (reason : String)
    (disabled : Id → Fields) : Tx Workflow := do
  let workflowId ← Prog.getOr parent.workflowId
    (.entity .childrenDisabled [("instanceId", .id parent.id), ("reason", .str reason)])
  let limits ← loadWorkflowLimits tenantId workflowId
  Tx.requireE (limits.maxChildDepth != 0) .childrenDisabled (disabled workflowId)
  return limits

def checkChildCap (tenantId parentId : Id) (limits : Workflow) : Tx Unit := do
  let children ← getChildIds tenantId parentId
  Tx.requireE (children.length < limits.maxChildrenPerParent) .childrenCapExceeded
    [("instanceId", .id parentId), ("cap", .num limits.maxChildrenPerParent)]

/-- The two rows of a link. -/
def relationPair (tenantId parentId childId parentOfId childOfId : Id) : List EntityRelation :=
  [{ id := parentOfId, tenantId, fromInstanceId := parentId, toInstanceId := childId
     relationType := .parentOf },
    { id := childOfId, tenantId, fromInstanceId := childId, toInstanceId := parentId
      relationType := .childOf }]

def insertRelations (rows : List EntityRelation) : Tx Unit :=
  Tables.entityRelations.insert (Tx.pkey "entity_relations") rows

/-! ## Creating a child -/

structure CreateChildRelationInput where
  parentId : Id
  childFields : Fields
  entityTypeId : Id
  assignedTo : Option String := none
  createdBy : Option String := none
  dueDate : Option Time := none
  remark : Option String := none
  actorType : Option ActorType := none
  actingPersonId : Option String := none
  maxAncestorDepth : Option Nat := none
  originMechanism : Option String := none
  originOidcClientId : Option String := none
  originPerformerUserId : Option String := none
  severity : Option String := none
  teamId : Option Id := none

def accessUsersMap (fields : Fields) : Fields :=
  match fields.get "__accessUsers" with
  | some (.arr users) =>
    users.filterMap fun
      | .str uid => some (uid, .obj [("level", .str "read_comment"), ("tag", .str "mention")])
      | _ => none
  | some (.obj entries) => entries
  | _ => []

def childAccessUsers (parent : EntityInstance) (assignedTo : Option String) : Fields :=
  match assignedTo with
  | none => accessUsersMap parent.fields
  | some uid =>
    (accessUsersMap parent.fields).set uid
      (.obj [("level", .str "read_write"), ("tag", .str "assigned")])

def CreateChildRelationInput.fields (input : CreateChildRelationInput) (parent : EntityInstance) :
    Fields :=
  let fields := match input.teamId with
    | none => input.childFields
    | some teamId => input.childFields.set "team_id" (.id teamId)
  (fields.set "child_status" (.str "open")).set "__accessUsers"
    (.obj (childAccessUsers parent input.assignedTo))

def CreateChildRelationInput.row (input : CreateChildRelationInput) (tenantId workflowId : Id)
    (parent : EntityInstance) (supply : EntitySupply) : EntityInstance where
  id := supply.id 0
  entityTypeId := input.entityTypeId
  tenantId := tenantId
  workflowId := some workflowId
  currentState := "open"
  fields := input.fields parent
  createdBy := input.createdBy
  assignedTo := input.assignedTo
  originMechanism := input.originMechanism
  originOidcClientId := input.originOidcClientId
  originPerformerUserId := input.originPerformerUserId
  severity := some (input.severity.getD defaultTicketSeverity)
  dueDate := input.dueDate
  remark := input.remark
  createdAt := supply.startedAt
  updatedAt := supply.startedAt

def CreateChildRelationInput.event (input : CreateChildRelationInput) (row : EntityInstance)
    (workflowId : Id) (supply : EntitySupply) : WorkflowEvent where
  id := supply.id 0
  tenantId := row.tenantId
  instanceId := row.id
  workflowId := workflowId
  fromState := none
  toState := "open"
  triggeredBy := (input.actorType.map ActorType.triggeredBy).getD .user
  actorId := some (input.createdBy.getD "system")
  metadata := [("type", .str "create"), ("actorName", .optStr input.createdBy)] ++
    input.actorType.toList.map (fun actorType => ("actorType", .str actorType.text)) ++
    input.actingPersonId.toList.map fun id => ("actingPersonId", .str id)
  originMechanism := input.originMechanism
  originOidcClientId := input.originOidcClientId
  originPerformerUserId := input.originPerformerUserId
  createdAt := supply.startedAt

def checkNewChild (tenantId : Id) (input : CreateChildRelationInput) (parent : EntityInstance) :
    Tx Workflow := do
  let limits ← childLimits tenantId parent "parent has no workflow" fun workflowId =>
    [("instanceId", .id input.parentId), ("workflowId", .id workflowId)]
  let depth ← getAncestorDepth tenantId input.parentId
  Tx.requireE (input.maxAncestorDepth.all fun cap => depth < cap) .childDepthExceeded
    ([("instanceId", .id input.parentId), ("currentAncestorDepth", .num depth)] ++
      input.maxAncestorDepth.toList.map (fun cap => ("maxAncestorDepth", .num cap)) ++
      [("reason", .str "caller_max_ancestor_depth")])
  Tx.requireE (depth + 1 ≤ limits.maxChildDepth) .childDepthExceeded
    [("instanceId", .id input.parentId), ("currentDepth", .num (depth + 1)),
      ("maxDepth", .num limits.maxChildDepth)]
  checkChildCap tenantId input.parentId limits
  return limits

def createChildRelation (rules : FieldRules) (tenantId : Id) (input : CreateChildRelationInput)
    (supply : EntitySupply) : Tx EntityInstance := do
  let team ← Prog.read fun db => rules.team db tenantId input.teamId
  Tx.lift team
  Tx.lift (checkMandatoryFields rules.enforceMandatory
    ⟨input.childFields.get "title", input.dueDate, input.remark,
      some (input.severity.getD defaultTicketSeverity)⟩)
  let parent ← lockRecord tenantId input.parentId
  Tx.lift (rules.reserved input.childFields)
  let limits ← checkNewChild tenantId input parent
  let row := input.row tenantId limits.id parent supply
  Tables.entityInstances.insert (Tx.pkey "entity_instances") [row]
  insertWorkflowEvent (input.event row limits.id supply)
  let allFields ← loadEntityFields tenantId input.entityTypeId
  Tx.insertOutbox (creationOutbox tenantId row
    (redactMetadata row.fields (buildSensitivityMap allFields)) input.createdBy none
    supply.startedAt (supply.id 0) (supply.id 1))
  insertRelations (relationPair tenantId input.parentId row.id (supply.id 0) (supply.id 1))
  return row

/-! ## Moving a child -/

structure MoveChildRelationInput where
  childId : Id
  newParentId : Option Id

def EntityRelation.delete (now : Time) (relation : EntityRelation) : EntityRelation :=
  { relation with deletedAt := some now }

/-- The relation that mirrors a `child_of` of the record. -/
def EntityRelation.isParentLink (tenantId childId : Id) (relation : EntityRelation) : Bool :=
  relation.isActive tenantId .parentOf && relation.toInstanceId == childId

def unlinkChild (tenantId childId : Id) (now : Time) : Tx Unit := do
  Tables.entityRelations.update (EntityRelation.isChildOf tenantId childId)
    (EntityRelation.delete now)
  match ← Tables.entityRelations.find (EntityRelation.isParentLink tenantId childId) with
  | none => return ()
  | some link =>
    Tables.entityRelations.update (fun r => r.id == link.id) (EntityRelation.delete now)

def EntityInstance.detach (now : Time) (row : EntityInstance) : EntityInstance :=
  { row with fields := row.fields.erase "child_status", currentState := "initial", updatedAt := now }

def checkMove (tenantId childId newParentId : Id) (bound : Nat) : Tx Unit := do
  let newParent ← lockRecord tenantId newParentId
  let limits ← childLimits tenantId newParent "new parent has no workflow" fun _ =>
    [("instanceId", .id newParentId)]
  let descendants ← collectDescendantIds tenantId bound childId
  Tx.requireE (newParentId != childId && !descendants.contains newParentId) .childCycleDetected
    [("childId", .id childId), ("newParentId", .id newParentId)]
  let above ← getAncestorDepth tenantId newParentId
  let below ← getDescendantDepth tenantId bound childId
  Tx.requireE (above + 1 + below ≤ limits.maxChildDepth) .childDepthExceeded
    [("childId", .id childId), ("newParentId", .id newParentId),
      ("currentDepth", .num (above + 1 + below)), ("maxDepth", .num limits.maxChildDepth)]
  checkChildCap tenantId newParentId limits

def moveChildRelation (tenantId : Id) (input : MoveChildRelationInput) (supply : EntitySupply)
    (bound : Nat) : Tx (List EntityRelation) := do
  let _ ← lockRecord tenantId input.childId
  unlinkChild tenantId input.childId supply.startedAt
  match input.newParentId with
  | none =>
    Tables.entityInstances.update (EntityInstance.isOf tenantId input.childId)
      (EntityInstance.detach supply.startedAt)
    return []
  | some newParentId =>
    checkMove tenantId input.childId newParentId bound
    let pair := relationPair tenantId newParentId input.childId (supply.id 0) (supply.id 1)
    insertRelations pair
    return pair

/-! ## What a move does

Run alone, a call reads the hierarchy and writes only the rows of its own child. -/

theorem ancestorDepth_readOnly (tenantId : Id) (limit : Nat) (current : Id) :
    (ancestorDepth tenantId limit current).ReadOnly := by
  induction limit generalizing current with
  | zero => trivial
  | succ limit ih =>
    refine .bind (.read _) fun parent => ?_
    cases parent with
    | none => trivial
    | some parentId => exact .bind (ih parentId) fun _ => trivial

theorem deepest_readOnly {visit : Id → Tx Nat} (reads : ∀ id, (visit id).ReadOnly)
    (children : List Id) : (deepest visit children).ReadOnly := by
  induction children with
  | nil => trivial
  | cons child rest ih => exact .bind (reads child) fun _ => .bind ih fun _ => trivial

theorem getDescendantDepth_readOnly (tenantId : Id) (bound : Nat) (instanceId : Id) :
    (getDescendantDepth tenantId bound instanceId).ReadOnly := by
  induction bound generalizing instanceId with
  | zero => trivial
  | succ bound ih => exact .bind (.read _) fun children => deepest_readOnly ih children

theorem collectDescendants_readOnly (tenantId : Id) (bound : Nat) (queue result : List Id) :
    (collectDescendants tenantId bound queue result).ReadOnly := by
  induction bound generalizing queue result with
  | zero => cases queue <;> trivial
  | succ bound ih =>
    cases queue with
    | nil => trivial
    | cons current queue => exact .bind (.read _) fun children => ih _ _

theorem lockRecord_readOnly (tenantId instanceId : Id) :
    (lockRecord tenantId instanceId).ReadOnly :=
  .bind (.readLocked _ _ _) fun _ => .getOr _ _

theorem childLimits_readOnly (tenantId : Id) (parent : EntityInstance) (reason : String)
    (disabled : Id → Fields) : (childLimits tenantId parent reason disabled).ReadOnly :=
  .bind (.getOr _ _) fun _ => .bind (.bind (.read _) fun _ => .getOr _ _) fun _ =>
    .bind (.require _ _) fun _ => trivial

theorem checkChildCap_readOnly (tenantId parentId : Id) (limits : Workflow) :
    (checkChildCap tenantId parentId limits).ReadOnly :=
  .bind (.read _) fun _ => .require _ _

theorem checkMove_readOnly (tenantId childId newParentId : Id) (bound : Nat) :
    (checkMove tenantId childId newParentId bound).ReadOnly :=
  .bind (lockRecord_readOnly _ _) fun _ => .bind (childLimits_readOnly _ _ _ _) fun _ =>
    .bind (collectDescendants_readOnly _ _ _ _) fun _ => .bind (.require _ _) fun _ =>
      .bind (ancestorDepth_readOnly _ _ _) fun _ =>
        .bind (getDescendantDepth_readOnly _ _ _) fun _ => .bind (.require _ _) fun _ =>
          checkChildCap_readOnly _ _ _

variable {childId id tenantId tenantId' : Id} {db db' : Db} {parent : EntityInstance}
  {limits : Workflow} {u : Unit} {bound : Nat} {input : CreateChildRelationInput}
  {supply : EntitySupply} {r : EntityRelation}

theorem exec_lockRecord_ok {tenantId instanceId : Id} {row : EntityInstance}
    (ran : (lockRecord tenantId instanceId).exec db = .ok (row, db')) :
    (row ∈ db.entityInstances ∧ row.isOf tenantId instanceId ∧ row.deletedAt = none) ∧
      db' = db := by
  unfold lockRecord at ran
  simp only [exec_seq_ok, Table.exec_lockRow, Tables.entityInstances_rows, exec_getOr_ok,
    filter_eq_some_iff, beq_iff_eq, ok_eq_ok] at ran
  obtain ⟨_, _, ⟨rfl, rfl⟩, ⟨found, live⟩, same⟩ := ran
  exact ⟨⟨mem_of_find?_eq_some found, find?_some found, live⟩, same⟩

/-! ## What the walks find -/

def walked {α : Type} (found : Option α) (db : Db) : Except TxError (α × Db) :=
  match found with
  | none => .error .unfinished
  | some a => .ok (a, db)

theorem walked_ok {α : Type} {found : Option α} {a : α} :
    walked found db = .ok (a, db') ↔ found = some a ∧ db' = db := by
  cases found with
  | none => simp [walked]
  | some a => simp [walked, eq_comm]

theorem exec_collectDescendants (tenantId : Id) (bound : Nat) (queue result : List Id) (db : Db) :
    (collectDescendants tenantId bound queue result).exec db =
      walked (Worklist.collect (db.childIds tenantId) bound queue result) db := by
  induction bound generalizing queue result with
  | zero => cases queue <;> rfl
  | succ bound ih =>
    cases queue with
    | nil => rfl
    | cons current queue => exact ih (queue ++ db.childIds tenantId current) _

/-- The number of ancestors, counted up to `limit`. -/
def Db.ancestorDepth (db : Db) (tenantId : Id) : Nat → Id → Nat
  | 0, _ => 0
  | limit + 1, current =>
    match db.parentId tenantId current with
    | none => 0
    | some parentId => db.ancestorDepth tenantId limit parentId + 1

theorem exec_ancestorDepth (tenantId : Id) (limit : Nat) (current : Id) (db : Db) :
    (ancestorDepth tenantId limit current).exec db =
      .ok (db.ancestorDepth tenantId limit current, db) := by
  induction limit generalizing current with
  | zero => rfl
  | succ limit ih =>
    unfold ancestorDepth Db.ancestorDepth getParentId
    simp only [bind_eq, exec_bind, exec_read]
    cases db.parentId tenantId current with
    | none => rfl
    | some parentId => simp only [exec_bind, ih, exec_pure]

def deepestOf (depth : Id → Option Nat) : List Id → Option Nat
  | [] => some 0
  | child :: rest =>
    match depth child, deepestOf depth rest with
    | some below, some others => some (max (below + 1) others)
    | _, _ => none

def Db.descendantDepth (db : Db) (tenantId : Id) : Nat → Id → Option Nat
  | 0, _ => none
  | bound + 1, instanceId =>
    deepestOf (db.descendantDepth tenantId bound) (db.childIds tenantId instanceId)

theorem exec_getDescendantDepth (tenantId : Id) (bound : Nat) (instanceId : Id) (db : Db) :
    (getDescendantDepth tenantId bound instanceId).exec db =
      walked (db.descendantDepth tenantId bound instanceId) db := by
  induction bound generalizing instanceId with
  | zero => rfl
  | succ bound ih =>
    have all (children : List Id) : (deepest (getDescendantDepth tenantId bound) children).exec db =
        walked (deepestOf (db.descendantDepth tenantId bound) children) db := by
      induction children with
      | nil => rfl
      | cons child rest below =>
        unfold deepest deepestOf
        rw [bind_eq, exec_bind, ih child]
        cases db.descendantDepth tenantId bound child with
        | none => rfl
        | some _ =>
          simp only [walked, bind_eq, exec_bind, below]
          cases deepestOf (db.descendantDepth tenantId bound) rest <;> rfl
    exact all (db.childIds tenantId instanceId)

/-! ## What the checks establish -/

structure Db.TakesChild (db : Db) (tenantId : Id) (parent : EntityInstance) (below : Nat) :
    Prop where
  mem : parent ∈ db.entityInstances
  selected : parent.isOf tenantId parent.id = true
  live : parent.deletedAt = none
  limits : ∃ limits, db.workflows.find? (Workflow.isOf tenantId limits.id) = some limits ∧
    parent.workflowId = some limits.id ∧
    db.ancestorDepth tenantId hardMax parent.id + 1 + below ≤ limits.maxChildDepth ∧
    (db.childIds tenantId parent.id).length < limits.maxChildrenPerParent

theorem exec_childLimits_ok {reason : String} {disabled : Id → Fields}
    (ran : (childLimits tenantId parent reason disabled).exec db = .ok (limits, db')) :
    (db.workflows.find? (Workflow.isOf tenantId limits.id) = some limits ∧
      parent.workflowId = some limits.id) ∧ db' = db := by
  have same := (childLimits_readOnly tenantId parent reason disabled).exec ran
  unfold childLimits loadWorkflowLimits Tx.requireE at ran
  simp only [exec_seq_ok, exec_getOr_ok, Table.exec_find, Tables.workflows_rows, exec_require_ok,
    exec_pure, ok_eq_ok] at ran
  obtain ⟨workflowId, _, ⟨attached, rfl⟩, loaded, _, ⟨_, _, ⟨rfl, rfl⟩, found, rfl⟩, _, _,
    ⟨-, rfl⟩, rfl, -⟩ := ran
  have selected : loaded.isOf tenantId workflowId := find?_some found
  obtain rfl : loaded.id = workflowId := eq_of_beq (and_eq_true_iff.mp selected).1
  exact ⟨⟨found, attached⟩, same⟩

theorem exec_checkChildCap_ok {tenantId parentId : Id}
    (ran : (checkChildCap tenantId parentId limits).exec db = .ok (u, db')) :
    (db.childIds tenantId parentId).length < limits.maxChildrenPerParent ∧ db' = db := by
  unfold checkChildCap getChildIds Tx.requireE at ran
  simp only [exec_seq_ok, exec_read, exec_require_ok, decide_eq_true_eq, ok_eq_ok] at ran
  obtain ⟨_, _, ⟨rfl, rfl⟩, few, same⟩ := ran
  exact ⟨few, same⟩

theorem exec_checkMove_ok {tenantId childId newParentId : Id}
    (ran : (checkMove tenantId childId newParentId bound).exec db = .ok (u, db')) :
    (∃ parent below, parent.id = newParentId ∧ db.TakesChild tenantId parent below ∧
      db.descendantDepth tenantId bound childId = some below ∧ newParentId ≠ childId ∧
      ∃ ids, Worklist.collect (db.childIds tenantId) bound [childId] [] = some ids ∧
        newParentId ∉ ids) ∧ db' = db := by
  have same := (checkMove_readOnly tenantId childId newParentId bound).exec ran
  unfold checkMove collectDescendantIds getAncestorDepth Tx.requireE at ran
  simp only [exec_seq_ok, exec_collectDescendants, walked_ok, exec_require_ok, exec_ancestorDepth,
    exec_getDescendantDepth, decide_eq_true_eq, and_eq_true, bne_iff_ne, not_eq_true',
    ok_eq_ok] at ran
  obtain ⟨parent, _, locked, limits, _, limited, ids, _, ⟨collected, rfl⟩, _, _,
    ⟨⟨self, outside⟩, rfl⟩, _, _, ⟨rfl, rfl⟩, below, _, ⟨depth, rfl⟩, _, _, ⟨fits, rfl⟩, capped⟩ := ran
  obtain ⟨⟨mem, selected, live⟩, rfl⟩ := exec_lockRecord_ok locked
  obtain ⟨⟨found, attached⟩, rfl⟩ := exec_childLimits_ok limited
  obtain ⟨few, -⟩ := exec_checkChildCap_ok capped
  have named : parent.id = newParentId := eq_of_beq (and_eq_true_iff.mp selected).1
  subst named
  refine ⟨⟨parent, below, rfl, ⟨mem, selected, live, limits, found, attached, fits, few⟩, depth, self,
    ids, collected, fun listed => ?_⟩, same⟩
  rw [contains_iff_mem.mpr listed] at outside
  cases outside

theorem checkNewChild_readOnly (tenantId : Id) (input : CreateChildRelationInput)
    (parent : EntityInstance) : (checkNewChild tenantId input parent).ReadOnly :=
  .bind (childLimits_readOnly _ _ _ _) fun _ => .bind (ancestorDepth_readOnly _ _ _) fun _ =>
    .bind (.require _ _) fun _ => .bind (.require _ _) fun _ =>
      .bind (checkChildCap_readOnly _ _ _) fun _ => trivial

theorem exec_checkNewChild_ok (mem : parent ∈ db.entityInstances)
    (selected : parent.isOf tenantId parent.id) (live : parent.deletedAt = none)
    (named : parent.id = input.parentId)
    (ran : (checkNewChild tenantId input parent).exec db = .ok (limits, db')) :
    (db.TakesChild tenantId parent 0 ∧ parent.workflowId = some limits.id) ∧ db' = db := by
  have same := (checkNewChild_readOnly tenantId input parent).exec ran
  unfold checkNewChild getAncestorDepth Tx.requireE at ran
  simp only [exec_seq_ok, exec_ancestorDepth, exec_require_ok, decide_eq_true_eq, exec_pure,
    ok_eq_ok] at ran
  obtain ⟨limits, _, limited, _, _, ⟨rfl, rfl⟩, _, _, ⟨-, rfl⟩, _, _, ⟨fits, rfl⟩, _, _, capped,
    rfl, -⟩ := ran
  obtain ⟨⟨found, attached⟩, rfl⟩ := exec_childLimits_ok limited
  obtain ⟨few, -⟩ := exec_checkChildCap_ok capped
  rw [← named] at fits few
  exact ⟨⟨⟨mem, selected, live, limits, found, attached, fits, few⟩, attached⟩, same⟩

theorem createChildRelation_cases {rules : FieldRules} {row : EntityInstance}
    (ran : (createChildRelation rules tenantId input supply).exec db = .ok (row, db')) :
    ∃ parent workflowId mid, parent.id = input.parentId ∧ db.TakesChild tenantId parent 0 ∧
      parent.workflowId = some workflowId ∧ row = input.row tenantId workflowId parent supply ∧
      db.Unused [row] ∧
      Effect db mid (db.entityInstances ++ [row]) [input.event row workflowId supply] ∧
      Tables.entityRelations.fresh
        (relationPair tenantId parent.id row.id (supply.id 0) (supply.id 1)) mid ∧
      db' = Tables.entityRelations.append
        (relationPair tenantId parent.id row.id (supply.id 0) (supply.id 1)) mid := by
  unfold createChildRelation loadEntityFields insertRelations at ran
  simp only [exec_seq_ok, exec_read, exec_lift_ok, Table.exec_insert_ok, Table.exec_filter,
    exec_pure, ok_eq_ok] at ran
  obtain ⟨_, _, ⟨rfl, rfl⟩, _, _, ⟨-, rfl⟩, _, _, ⟨-, rfl⟩, parent, _, locked, _, _, ⟨-, rfl⟩,
    limits, _, checked, _, _, ⟨fresh, rfl⟩, _, _, logged, _, _, ⟨rfl, rfl⟩, _, mid, announced, _, _,
    ⟨freshPair, rfl⟩, rfl, rfl⟩ := ran
  obtain ⟨⟨mem, selected, live⟩, rfl⟩ := exec_lockRecord_ok locked
  have named : parent.id = input.parentId := eq_of_beq (and_eq_true_iff.mp selected).1
  rw [← named] at selected freshPair ⊢
  obtain ⟨⟨takes, attached⟩, rfl⟩ := exec_checkNewChild_ok mem selected live named checked
  have quiet := exec_insertOutbox_ok announced fun out mem => creationOutbox_timer mem
  exact ⟨parent, limits.id, mid, rfl, takes, attached, rfl, Db.unused_of_fresh fresh,
    ((effect_appendInstances _ _).log (exec_insertWorkflowEvent_effect logged)).quiet quiet,
    freshPair, rfl⟩

/-- Relations after a soft deletion. -/
def Db.deleteRelations (db : Db) (p : EntityRelation → Bool) (now : Time) : Db :=
  Tables.entityRelations.modify p (EntityRelation.delete now) db

def Db.unlinked (db : Db) (tenantId childId : Id) (now : Time) : Db :=
  match (db.deleteRelations (EntityRelation.isChildOf tenantId childId) now).entityRelations.find?
    (EntityRelation.isParentLink tenantId childId) with
  | none => db.deleteRelations (EntityRelation.isChildOf tenantId childId) now
  | some link =>
    (db.deleteRelations (EntityRelation.isChildOf tenantId childId) now).deleteRelations
      (fun r => r.id == link.id) now

theorem exec_unlinkChild (tenantId childId : Id) (now : Time) (db : Db) :
    (unlinkChild tenantId childId now).exec db = .ok ((), db.unlinked tenantId childId now) := by
  unfold unlinkChild Db.unlinked Db.deleteRelations
  simp only [bind_eq, exec_bind, Table.exec_update, Table.exec_find, Tables.entityRelations_rows]
  split
  next => rfl
  next => exact Table.exec_update _ _ _ _

theorem moveChildRelation_cases {input : MoveChildRelationInput} {pair : List EntityRelation}
    (ran : (moveChildRelation tenantId input supply bound).exec db = .ok (pair, db')) :
    ∃ child ∈ db.entityInstances, child.isOf tenantId input.childId ∧
      child.deletedAt = none ∧ ((input.newParentId = none ∧
          db' = Tables.entityInstances.modify (EntityInstance.isOf tenantId input.childId)
            (EntityInstance.detach supply.startedAt)
            (db.unlinked tenantId input.childId supply.startedAt)) ∨
        ∃ parent below ids, input.newParentId = some parent.id ∧
          (db.unlinked tenantId input.childId supply.startedAt).TakesChild tenantId parent below ∧
          (db.unlinked tenantId input.childId supply.startedAt).descendantDepth tenantId bound
            input.childId = some below ∧
          parent.id ≠ input.childId ∧
          Worklist.collect
            ((db.unlinked tenantId input.childId supply.startedAt).childIds tenantId) bound
            [input.childId] [] = some ids ∧ parent.id ∉ ids ∧
          Tables.entityRelations.fresh pair (db.unlinked tenantId input.childId supply.startedAt) ∧
          pair = relationPair tenantId parent.id input.childId (supply.id 0) (supply.id 1) ∧
          db' = Tables.entityRelations.append pair
            (db.unlinked tenantId input.childId supply.startedAt)) := by
  unfold moveChildRelation at ran
  simp only [exec_seq_ok, exec_unlinkChild, ok_eq_ok] at ran
  obtain ⟨child, mid, locked, _, _, ⟨-, rfl⟩, rest⟩ := ran
  obtain ⟨⟨mem, selected, live⟩, rfl⟩ := exec_lockRecord_ok locked
  refine ⟨child, mem, selected, live, ?_⟩
  cases asked : input.newParentId with
  | none =>
    simp only [asked, exec_seq_ok, Table.exec_update, exec_pure, ok_eq_ok] at rest
    obtain ⟨_, _, ⟨-, rfl⟩, -, rfl⟩ := rest
    exact .inl ⟨rfl, rfl⟩
  | some newParentId =>
    simp only [asked, exec_seq_ok, insertRelations, Table.exec_insert_ok, exec_pure,
      ok_eq_ok] at rest
    obtain ⟨_, last, checked, _, _, ⟨fresh, rfl⟩, rfl, rfl⟩ := rest
    obtain ⟨⟨parent, below, rfl, takes, depth, self, ids, collected, outside⟩, rfl⟩ :=
      exec_checkMove_ok checked
    exact .inr ⟨parent, below, ids, rfl, takes, depth, self, collected, outside, fresh, rfl, rfl⟩

/-! ## The parent of a record -/

theorem Db.unlinked_keeps {P : Db → Prop} (tenantId childId : Id) {now : Time}
    (kept : ∀ p db, P db → P (db.deleteRelations p now)) (before : P db) :
    P (db.unlinked tenantId childId now) := by
  unfold Db.unlinked
  have first := kept (EntityRelation.isChildOf tenantId childId) db before
  split
  next => exact first
  next link _ => exact kept (fun r => r.id == link.id) _ first

theorem Db.unlinked_instances (db : Db) (tenantId childId : Id) (now : Time) :
    (db.unlinked tenantId childId now).entityInstances = db.entityInstances :=
  Db.unlinked_keeps tenantId childId (P := fun other => other.entityInstances = db.entityInstances)
    (fun _ _ same => same) rfl

theorem EntityRelation.isChildOf_delete (tenantId id : Id) (now : Time) (r : EntityRelation) :
    (r.delete now).isChildOf tenantId id = false := by
  simp [isChildOf, isActive, delete]

theorem EntityRelation.isChildOf_unique {tenantId id tenantId' id' : Id}
    (first : r.isChildOf tenantId id) (second : r.isChildOf tenantId' id') :
    tenantId' = tenantId ∧ id' = id := by
  simp only [isChildOf, isActive, and_eq_true, beq_iff_eq] at first second
  exact ⟨second.1.1.1.symm.trans first.1.1.1, second.2.symm.trans first.2⟩

theorem EntityRelation.isChildOf_of_parentLink (link : r.isParentLink tenantId childId)
    (tenantId' id : Id) : r.isChildOf tenantId' id = false := by
  simp only [isParentLink, isActive, and_eq_true, beq_iff_eq] at link
  simp [isChildOf, isActive, link.1.1.2]

theorem Db.parentId_eq_none :
    db.parentId tenantId id = none ↔ ∀ r ∈ db.entityRelations, r.isChildOf tenantId id = false := by
  unfold Db.parentId
  rw [map_eq_none_iff, find?_eq_none]
  exact forall₂_congr fun r _ => eq_false_iff.symm

theorem Db.parentId_delete {p : EntityRelation → Bool} (now : Time)
    (other : ∀ r ∈ db.entityRelations, p r → r.isChildOf tenantId id = false) :
    (db.deleteRelations p now).parentId tenantId id = db.parentId tenantId id := by
  unfold Db.parentId
  change ((db.entityRelations.map fun r => if p r then r.delete now else r).find? _).map _ = _
  rw [find?_map, Option.map_map]
  have selected : db.entityRelations.find? (EntityRelation.isChildOf tenantId id ∘ fun r =>
      if p r then r.delete now else r) =
      db.entityRelations.find? (EntityRelation.isChildOf tenantId id) := by
    refine find?_congr fun r mem => ?_
    by_cases deleted : p r = true
    · simp only [comp, if_pos deleted, EntityRelation.isChildOf_delete]
      exact (other r mem deleted).symm
    · simp only [comp, if_neg deleted]
  rw [selected]
  congr 1
  funext r
  by_cases deleted : p r = true <;> simp only [comp, deleted] <;> rfl

theorem Db.parentId_unlinked (db : Db) (tenantId childId : Id) (now : Time) :
    (db.unlinked tenantId childId now).parentId tenantId childId = none := by
  have first : (db.deleteRelations (EntityRelation.isChildOf tenantId childId) now).parentId
      tenantId childId = none := by
    refine Db.parentId_eq_none.mpr fun r mem => ?_
    rcases List.mem_map.mp mem with ⟨old, -, rfl⟩
    by_cases child : old.isChildOf tenantId childId = true
    · rw [if_pos child, EntityRelation.isChildOf_delete]
    · rw [if_neg child]
      exact eq_false_iff.mpr child
  unfold Db.unlinked
  split
  next => exact first
  next link _ =>
    rw [Db.parentId_delete now fun r mem _ => Db.parentId_eq_none.mp first r mem]
    exact first

theorem Db.parentId_unlinked_of_ne (keyed : Tables.entityRelations.Keyed db) (now : Time)
    (other : ¬ (tenantId' = tenantId ∧ id = childId)) :
    (db.unlinked tenantId childId now).parentId tenantId' id = db.parentId tenantId' id := by
  have first : (db.deleteRelations (EntityRelation.isChildOf tenantId childId) now).parentId
      tenantId' id = db.parentId tenantId' id := by
    refine Db.parentId_delete now fun r _ child => eq_false_iff.mpr fun also => ?_
    exact other (EntityRelation.isChildOf_unique child also)
  have distinct := keyed.modify (EntityRelation.isChildOf tenantId childId)
    (f := EntityRelation.delete now) fun _ => rfl
  unfold Db.unlinked
  split
  next => exact first
  next link found =>
    rw [Db.parentId_delete now fun r mem named => ?_]
    · exact first
    · have same : r = link := distinct.eq mem (mem_of_find?_eq_some found)
        (congrArg (LockKey.row .entityRelations) (eq_of_beq named))
      rw [same]
      exact EntityRelation.isChildOf_of_parentLink (find?_some found) tenantId' id

theorem Db.parentId_link (db : Db) (tenantId parentId childId parentOfId childOfId tenantId' id : Id) :
    (Tables.entityRelations.append
        (relationPair tenantId parentId childId parentOfId childOfId) db).parentId tenantId' id =
      (db.parentId tenantId' id).or
        (if tenantId' = tenantId ∧ id = childId then some parentId else none) := by
  unfold Db.parentId
  change ((db.entityRelations ++ _).find? _).map _ = _
  rw [find?_append, map_or]
  congr 1
  by_cases child : tenantId' = tenantId ∧ id = childId
  · obtain ⟨rfl, rfl⟩ := child
    simp [relationPair, EntityRelation.isChildOf, EntityRelation.isActive]
  · rw [if_neg child, map_eq_none_iff, find?_eq_none]
    intro r mem
    rcases mem_cons.mp mem with rfl | mem
    · simp [EntityRelation.isChildOf, EntityRelation.isActive]
    · cases mem_singleton.mp mem
      simp only [EntityRelation.isChildOf, EntityRelation.isActive, and_eq_true, beq_iff_eq]
      exact fun same => child ⟨same.1.1.1.symm, same.2.symm⟩

end OpenWind
