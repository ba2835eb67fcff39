import OpenWind.Errors
import OpenWind.Workflow.Conditions
import Mathlib.Data.List.Dedup

/-!
# The transition engine

`executeTransition` moves a record along a transition of its workflow and
`overrideWorkflowState` sets its state outside the rules.  Both lock the record,
check their guards and share `commitStateChange`, the write half: update the
state, append the event, write the outbox event, cancel the timers of the state
being left and schedule the one being entered.
-/

open Txn.Prog OpenWind.Tables

namespace OpenWind

open Txn

/-! ## Actors -/

def userActorId (actorId : Option String) : Option String :=
  match actorId with
  | none => none
  | some id => if id == "" || id == "system" || startsWith id "apikey:" then none else some id

def WorkflowEvent.mover (event : WorkflowEvent) : Option PriorActor :=
  match event.actorId, event.fromState with
  | some actorId, some fromState =>
    if fromState ≠ event.toState then some ⟨actorId, fromState⟩ else none
  | _, _ => none

/-- The people among the movers. -/
def PriorActor.person (mover : PriorActor) : Option PriorActor :=
  (userActorId (some mover.actorId)).map fun id => ⟨id, mover.fromState⟩

def needsPriorActors (tree : Option TransitionConditionTree) : Bool :=
  match tree with
  | none => false
  | some tree => treeNeedsPriorActors tree

def loadActorContext (tenantId instanceId : Id) (createdBy actorId : Option String)
    (trees : List (Option TransitionConditionTree)) : Tx ActorContext :=
  let context : ActorContext := { actorId := userActorId actorId, createdBy }
  if trees.any needsPriorActors then do
    let events ← Tables.workflowEvents.filter fun e =>
      e.instanceId == instanceId && e.tenantId == tenantId
    let rows := (events.filterMap WorkflowEvent.mover).dedup
    return { context with priorActors := some (rows.filterMap PriorActor.person) }
  else
    return context

/-! ## Locking the record -/

structure LockedInstance where
  row : EntityInstance
  workflowId : Id
  attached : row.workflowId = some workflowId

theorem LockedInstance.eq_of_row {a b : LockedInstance} (same : a.row = b.row) : a = b := by
  obtain ⟨row, workflowId, attached⟩ := a
  obtain ⟨row', workflowId', attached'⟩ := b
  cases same
  cases Option.some.inj (attached.symm.trans attached')
  rfl

def EntityInstance.locked (row : EntityInstance) : Option LockedInstance :=
  match attached : row.workflowId with
  | some workflowId => some ⟨row, workflowId, attached⟩
  | none => none

def EntityInstance.isOf (tenantId instanceId : Id) (row : EntityInstance) : Bool :=
  row.id == instanceId && row.tenantId == tenantId

/-- The row once it has entered a state. -/
def EntityInstance.enter (state : String) (now : Time) (row : EntityInstance) : EntityInstance :=
  { row with currentState := state, updatedAt := now }

def lockInstance (tenantId instanceId : Id) : Tx LockedInstance := do
  let row ← Tables.entityInstances.lockRow
    (some (.workflow .transitionLocked [("instanceId", .id instanceId)]))
    (EntityInstance.isOf tenantId instanceId)
  let row ← Prog.getOr row (.workflow .instanceNotFound [("instanceId", .id instanceId)])
  Prog.getOr row.locked (.workflow .instanceNotFound
    [("instanceId", .id instanceId), ("reason", .str "no workflow attached")])

/-! ## Redaction -/

def buildSensitivityMap (fields : List EntityField) : List (String × FieldSensitivity) :=
  ((fields.filter fun f => f.sensitivity == .pii || f.sensitivity == .financial).map
    fun f => (f.name, f.sensitivity)).reverse

def redactMetadata (metadata : Fields) (sensitivityMap : List (String × FieldSensitivity)) :
    Fields :=
  metadata.map fun entry =>
    match sensitivityMap.lookup entry.1 with
    | some .pii => (entry.1, .str "[REDACTED]")
    | some .financial => (entry.1, .str "[REDACTED]")
    | _ => entry

def EntityField.isOf (tenantId entityTypeId : Id) (field : EntityField) : Bool :=
  field.entityTypeId == entityTypeId && (field.tenantId == none || field.tenantId == some tenantId)

/-! ## The write half -/

structure Supply where
  startedAt : Time
  now : Time
  eventId : Id
  transitionEventId : Id
  outboxId : Id
  timerId : Id

structure StateChange where
  toState : String
  triggeredBy : TriggeredBy
  actorId : Option String := none
  comment : Option String := none
  idempotencyKey : Option String := none
  metadata : Option Fields := none
  depth : Option Nat := none
  override : Bool := false

/-- What a call returns about its event. -/
structure EventResult where
  id : Id
  instanceId : Id
  workflowId : Id
  fromState : Option String
  toState : String
  triggeredBy : TriggeredBy
  actorId : Option String
  comment : Option String
  metadata : Fields
  createdAt : Time
  originMechanism : Option String
  originOidcClientId : Option String
  originPerformerUserId : Option String
  transitionEventId : Id

def WorkflowEvent.result (event : WorkflowEvent) (transitionEventId : Id) : EventResult where
  id := event.id
  instanceId := event.instanceId
  workflowId := event.workflowId
  fromState := event.fromState
  toState := event.toState
  triggeredBy := event.triggeredBy
  actorId := event.actorId
  comment := event.comment
  metadata := event.metadata
  createdAt := event.createdAt
  originMechanism := event.originMechanism
  originOidcClientId := event.originOidcClientId
  originPerformerUserId := event.originPerformerUserId
  transitionEventId := transitionEventId

def OutboxEvent.pendingTimer (tenantId instanceId : Id) (stateName : String)
    (row : OutboxEvent) : Bool :=
  row.tenantId == tenantId && row.deliveredAt == none &&
    match row.timer with
    | some timer => timer.instanceId == instanceId && timer.stateName == stateName
    | none => false

def OutboxEvent.deliver (now : Time) (row : OutboxEvent) : OutboxEvent :=
  { row with deliveredAt := some now }

def cancelPendingSlaTimers (tenantId instanceId : Id) (stateName : String) (now : Time) : Tx Unit :=
  Tables.outboxEvents.update (OutboxEvent.pendingTimer tenantId instanceId stateName)
    (OutboxEvent.deliver now)

def WorkflowState.isOf (tenantId workflowId : Id) (name : String) (state : WorkflowState) : Bool :=
  state.workflowId == workflowId && state.name == name && state.tenantId == tenantId

def slaTimer (tenantId workflowId instanceId : Id) (stateName : String)
    (state : Option WorkflowState) (enteredAt createdAt : Time) (timerId : Id) : List OutboxEvent :=
  match state with
  | none => []
  | some state =>
    match state.slaHours with
    | none => []
    | some 0 => []
    | some hours =>
      [{ id := timerId
         tenantId
         payload := .slaScheduled
           { instanceId, workflowId, stateName, slaHours := hours
             fireAt := enteredAt + hours * 60 * 60 * 1000 }
         createdAt }]

def scheduleSlaIfNeeded (tenantId workflowId instanceId : Id) (stateName : String)
    (enteredAt createdAt : Time) (timerId : Id) : Tx Unit := do
  let state ← Tables.workflowStates.find (WorkflowState.isOf tenantId workflowId stateName)
  Tx.insertOutbox
    (slaTimer tenantId workflowId instanceId stateName state enteredAt createdAt timerId)

def insertWorkflowEvent (event : WorkflowEvent) : Tx Unit :=
  match event.idempotencyKey with
  | none => Tables.workflowEvents.insert (Tx.pkey "workflow_events") [event]
  | some key =>
    Tables.workflowEvents.insertUnique [.workflowEventKey event.instanceId key]
      (fun e => e.instanceId == event.instanceId && e.idempotencyKey == some key)
      (.unique "workflow_events_instance_idempotency_idx") event

def StateChange.event (change : StateChange) (tenantId : Id) (instance_ : LockedInstance)
    (metadata : Fields) (supply : Supply) : WorkflowEvent where
  id := supply.eventId
  tenantId := tenantId
  instanceId := instance_.row.id
  workflowId := instance_.workflowId
  fromState := some instance_.row.currentState
  toState := change.toState
  triggeredBy := change.triggeredBy
  actorId := change.actorId
  comment := change.comment
  idempotencyKey := change.idempotencyKey
  metadata := metadata
  createdAt := supply.startedAt

def StateChange.outboxEvent (change : StateChange) (tenantId : Id) (instance_ : LockedInstance)
    (supply : Supply) : OutboxEvent where
  id := supply.outboxId
  tenantId := tenantId
  payload := .transitioned
    { instanceId := instance_.row.id
      entityTypeId := instance_.row.entityTypeId
      workflowId := instance_.workflowId
      fromState := instance_.row.currentState
      toState := change.toState
      triggeredBy := change.triggeredBy
      actorId := change.actorId
      occurredAt := supply.now
      transitionEventId := some supply.transitionEventId
      depth := change.depth
      override := change.override }
  createdAt := supply.startedAt

def safeMetadata (tenantId entityTypeId : Id) (metadata : Fields) : Tx Fields :=
  if metadata.isEmpty then
    return metadata
  else do
    let fieldRows ← Tables.entityFields.filter (EntityField.isOf tenantId entityTypeId)
    return redactMetadata metadata (buildSensitivityMap fieldRows)

def commitStateChange (tenantId : Id) (instance_ : LockedInstance) (change : StateChange)
    (supply : Supply) : Tx EventResult := do
  Tables.entityInstances.update (EntityInstance.isOf tenantId instance_.row.id)
    (EntityInstance.enter change.toState supply.now)
  let metadata ← safeMetadata tenantId instance_.row.entityTypeId (change.metadata.getD [])
  let event := change.event tenantId instance_ metadata supply
  insertWorkflowEvent event
  Tx.insertOutbox [change.outboxEvent tenantId instance_ supply]
  cancelPendingSlaTimers tenantId instance_.row.id instance_.row.currentState supply.now
  scheduleSlaIfNeeded tenantId instance_.workflowId instance_.row.id change.toState supply.now
    supply.startedAt supply.timerId
  return event.result supply.transitionEventId

/-! ## Transitions -/

structure TransitionRequest where
  instanceId : Id
  transitionId : Id
  actorId : Option String := none
  actorRoles : Option (List String) := none
  comment : Option String := none
  idempotencyKey : Option String := none
  triggeredBy : Option TriggeredBy := none
  metadata : Option Fields := none
  depth : Option Nat := none

/-- The key of a request; an empty one counts as absent. -/
def TransitionRequest.key (request : TransitionRequest) : Option String :=
  request.idempotencyKey.filter fun key => key != ""

def WorkflowEvent.keyed (tenantId instanceId : Id) (key : String) (event : WorkflowEvent) : Bool :=
  event.tenantId == tenantId && event.instanceId == instanceId && event.idempotencyKey == some key

/-- The event already stored under the request's key. -/
def findReplay (tenantId : Id) (request : TransitionRequest) : Tx (Option WorkflowEvent) :=
  match request.key with
  | none => return none
  | some key => Tables.workflowEvents.find (WorkflowEvent.keyed tenantId request.instanceId key)

def Workflow.isOf (tenantId workflowId : Id) (workflow : Workflow) : Bool :=
  workflow.id == workflowId && (workflow.tenantId == none || workflow.tenantId == some tenantId)

def WorkflowTransition.isOf (tenantId workflowId transitionId : Id)
    (transition : WorkflowTransition) : Bool :=
  transition.workflowId == workflowId && transition.id == transitionId &&
    transition.tenantId == tenantId

def hasRequiredRole (actorRoles allowedRoles : List String) : Bool :=
  actorRoles.any fun role => allowedRoles.contains role

def missingFields (requiresFields : List String) (fields : Fields) : List String :=
  requiresFields.filter fun name => Json.blank (fields.get name)

/-- `comment?.trim()` is truthy. -/
def hasComment (comment : Option String) : Bool :=
  match comment with
  | none => false
  | some text => trim text != ""

def TransitionRequest.change (request : TransitionRequest) (transition : WorkflowTransition) :
    StateChange where
  toState := transition.toState
  triggeredBy := request.triggeredBy.getD .user
  actorId := request.actorId
  comment := request.comment
  idempotencyKey := request.idempotencyKey
  metadata := request.metadata
  depth := request.depth

def checkTransition (tenantId : Id) (request : TransitionRequest) (instance_ : LockedInstance)
    (transition : WorkflowTransition) : Tx Unit := do
  let row := instance_.row
  Tx.requireW (transition.allowedRoles.isEmpty ||
      hasRequiredRole (request.actorRoles.getD []) transition.allowedRoles)
    .transitionForbidden
    (request.actorRoles.toList.map (fun roles => ("actorRoles", .strs roles)) ++
      [("allowedRoles", .strs transition.allowedRoles)])
  let actor ← loadActorContext tenantId row.id row.createdBy request.actorId
    [transition.conditions]
  Tx.requireW (evaluateConditionTree transition.conditions row.fields actor) .conditionNotMet
    [("transitionId", .id transition.id)]
  Tx.requireW (missingFields transition.requiresFields row.fields).isEmpty
    .requiredFieldsMissing
    [("missing", .strs (missingFields transition.requiresFields row.fields))]
  Tx.requireW (!transition.requiresComment || hasComment request.comment)
    .requiredFieldsMissing [("missing", .strs ["comment"])]

def findTransition (tenantId : Id) (request : TransitionRequest) (instance_ : LockedInstance) :
    Tx WorkflowTransition := do
  let workflow ← Tables.workflows.find (Workflow.isOf tenantId instance_.workflowId)
  let _ ← Prog.getOr workflow
    (.workflow .instanceNotFound [("workflowId", .id instance_.workflowId)])
  let transition ← Tables.workflowTransitions.find
    (WorkflowTransition.isOf tenantId instance_.workflowId request.transitionId)
  Prog.getOr (transition.filter fun t => t.fromState == instance_.row.currentState)
    (.workflow .transitionNotAvailable
      [("instanceId", .id request.instanceId),
        ("currentState", .str instance_.row.currentState),
        ("transitionId", .id request.transitionId)])

def executeTransition (tenantId : Id) (request : TransitionRequest) (supply : Supply) :
    Tx EventResult := do
  match ← findReplay tenantId request with
  | some existing => return existing.result supply.transitionEventId
  | none =>
    let instance_ ← lockInstance tenantId request.instanceId
    let transition ← findTransition tenantId request instance_
    checkTransition tenantId request instance_ transition
    commitStateChange tenantId instance_ (request.change transition) supply

/-! ## Overrides -/

structure StateOverrideRequest where
  instanceId : Id
  state : String
  reason : String
  actorId : String
  actorRoles : List String

def overrideReasonMinLength : Nat := 10

def overrideReasonMaxLength : Nat := 1000

def StateOverrideRequest.change (request : StateOverrideRequest) (actorId : String) :
    StateChange where
  toState := request.state
  triggeredBy := .user
  actorId := some actorId
  comment := some ("Override: " ++ trim request.reason)
  metadata := some [("kind", .str "override"), ("reason", .str (trim request.reason))]
  override := true

def overrideActor (request : StateOverrideRequest) : Option String :=
  (userActorId (some request.actorId)).filter fun _ => request.actorRoles.contains "admin"

def overrideWorkflowState (tenantId : Id) (request : StateOverrideRequest) (supply : Supply) :
    Tx EventResult := do
  let actorId ← Prog.getOr (overrideActor request)
    (.workflow .overrideForbidden [("reason", .str "an admin user is required")])
  let length := textLength (trim request.reason)
  Tx.requireW (decide (overrideReasonMinLength ≤ length ∧ length ≤ overrideReasonMaxLength))
    .overrideReasonRequired
    [("min", .num overrideReasonMinLength), ("max", .num overrideReasonMaxLength)]
  let instance_ ← lockInstance tenantId request.instanceId
  let workflow ← Tables.workflows.find (Workflow.isOf tenantId instance_.workflowId)
  let workflow ← Prog.getOr workflow
    (.workflow .instanceNotFound [("workflowId", .id instance_.workflowId)])
  Tx.requireW workflow.allowStateOverride .overrideNotEnabled
    [("workflowId", .id instance_.workflowId)]
  Tx.requireW (instance_.row.createdBy != some actorId) .overrideForbidden
    [("reason", .str "the creator of a record cannot override its state")]
  let states ← Tables.workflowStates.filter fun st =>
    st.workflowId == instance_.workflowId && st.tenantId == tenantId
  Tx.requireW (states.any fun st => st.name == request.state) .workflowStateNotFound
    [("name", .str request.state)]
  Tx.requireW (request.state != instance_.row.currentState) .overrideNoChange
    [("state", .str request.state)]
  commitStateChange tenantId instance_ (request.change actorId) supply

/-! ## Serial meaning -/

def Db.storedMetadata (db : Db) (tenantId entityTypeId : Id) (metadata : Fields) : Fields :=
  if metadata.isEmpty then metadata
  else
    redactMetadata metadata
      (buildSensitivityMap (db.entityFields.filter (EntityField.isOf tenantId entityTypeId)))

/-- The unique index holds an entry for the key. -/
def Db.keyTaken (db : Db) (instanceId : Id) (key : Option String) : Bool :=
  match key with
  | none => false
  | some key =>
    db.workflowEvents.any fun e => e.instanceId == instanceId && e.idempotencyKey == some key

def Db.changeEvent (db : Db) (tenantId : Id) (instance_ : LockedInstance) (change : StateChange)
    (supply : Supply) : WorkflowEvent :=
  change.event tenantId instance_
    (db.storedMetadata tenantId instance_.row.entityTypeId (change.metadata.getD [])) supply

def Db.changeOutbox (db : Db) (tenantId : Id) (instance_ : LockedInstance) (change : StateChange)
    (supply : Supply) : List OutboxEvent :=
  ((db.outboxEvents ++ [change.outboxEvent tenantId instance_ supply]).map fun row =>
    if OutboxEvent.pendingTimer tenantId instance_.row.id instance_.row.currentState row then
      row.deliver supply.now
    else row) ++
  slaTimer tenantId instance_.workflowId instance_.row.id change.toState
    (db.workflowStates.find? (WorkflowState.isOf tenantId instance_.workflowId change.toState))
    supply.now supply.startedAt supply.timerId

/-- The store after a state change. -/
def Db.changeState (db : Db) (tenantId : Id) (instance_ : LockedInstance) (change : StateChange)
    (supply : Supply) : Db :=
  { db with
    entityInstances := db.entityInstances.map fun row =>
      if EntityInstance.isOf tenantId instance_.row.id row then
        row.enter change.toState supply.now
      else row
    workflowEvents := db.workflowEvents ++ [db.changeEvent tenantId instance_ change supply]
    outboxEvents := db.changeOutbox tenantId instance_ change supply }

theorem exec_safeMetadata (tenantId entityTypeId : Id) (metadata : Fields) (db : Db) :
    (safeMetadata tenantId entityTypeId metadata).exec db =
      .ok (db.storedMetadata tenantId entityTypeId metadata, db) := by
  unfold safeMetadata Db.storedMetadata
  by_cases empty : metadata.isEmpty = true <;> simp [empty]

variable {db db' : Db} {u : Unit} {tenantId : Id} {instance_ : LockedInstance} {supply : Supply}
  {request : TransitionRequest} {transition : WorkflowTransition}

theorem exec_insertWorkflowEvent_ok {event : WorkflowEvent}
    (ran : (insertWorkflowEvent event).exec db = .ok (u, db')) :
    db.keyTaken event.instanceId event.idempotencyKey = false ∧
      db' = Tables.workflowEvents.append [event] db := by
  unfold insertWorkflowEvent at ran
  unfold Db.keyTaken
  cases keyEq : event.idempotencyKey with
  | none =>
    rw [keyEq] at ran
    exact ⟨rfl, ((Table.exec_insert_ok _).mp ran).2⟩
  | some key =>
    rw [keyEq] at ran
    obtain ⟨⟨-, clear⟩, appended⟩ := (Table.exec_insertUnique_ok _).mp ran
    exact ⟨by simpa using clear, appended⟩

theorem exec_commitStateChange_ok {change : StateChange} {result : EventResult}
    (ran : (commitStateChange tenantId instance_ change supply).exec db = .ok (result, db')) :
    db.keyTaken instance_.row.id change.idempotencyKey = false ∧
      result = (db.changeEvent tenantId instance_ change supply).result supply.transitionEventId ∧
      (Tables.outboxEvents.Keyed db → Tables.outboxEvents.Keyed db') ∧
      db' = db.changeState tenantId instance_ change supply := by
  simp only [commitStateChange, cancelPendingSlaTimers, scheduleSlaIfNeeded, Tx.insertOutbox,
    exec_seq_ok, Table.exec_update, exec_safeMetadata, Table.exec_insert_ok, Table.exec_find,
    exec_pure, ok_eq_ok] at ran
  obtain ⟨_, _, ⟨-, rfl⟩, _, _, ⟨rfl, rfl⟩, _, _, inserted, _, _, ⟨announced, rfl⟩, _, _, ⟨-, rfl⟩,
    _, _, ⟨_, _, ⟨rfl, rfl⟩, scheduled, rfl⟩, rfl, rfl⟩ := ran
  obtain ⟨unused, rfl⟩ := exec_insertWorkflowEvent_ok inserted
  refine ⟨unused, rfl, fun keyed => ?_, rfl⟩
  refine Table.Keyed.append ?_ scheduled
  refine Table.Keyed.modify ?_ _ fun _ => rfl
  refine Table.Keyed.append ?_ announced
  exact keyed

/-! ## What a call that returned has done -/

def Db.priorActors (db : Db) (tenantId instanceId : Id) : List PriorActor :=
  ((db.workflowEvents.filter fun e => e.instanceId == instanceId && e.tenantId == tenantId).filterMap
    WorkflowEvent.mover).dedup.filterMap PriorActor.person

def Db.actorContext (db : Db) (tenantId instanceId : Id) (createdBy actorId : Option String)
    (trees : List (Option TransitionConditionTree)) : ActorContext where
  actorId := userActorId actorId
  createdBy := createdBy
  priorActors :=
    if trees.any needsPriorActors then some (db.priorActors tenantId instanceId) else none

theorem exec_loadActorContext (tenantId instanceId : Id) (createdBy actorId : Option String)
    (trees : List (Option TransitionConditionTree)) (db : Db) :
    (loadActorContext tenantId instanceId createdBy actorId trees).exec db =
      .ok (db.actorContext tenantId instanceId createdBy actorId trees, db) := by
  unfold loadActorContext Db.actorContext
  by_cases needed : trees.any needsPriorActors = true
  · rw [if_pos needed, if_pos needed]
    rfl
  · rw [if_neg needed, if_neg needed]
    rfl

theorem EntityInstance.locked_eq_some {row : EntityInstance} :
    row.locked = some instance_ ↔ row = instance_.row := by
  unfold EntityInstance.locked
  constructor
  · intro eq
    split at eq
    · cases eq; rfl
    · cases eq
  · intro eq
    subst eq
    split
    next workflowId attached =>
      have same : workflowId = instance_.workflowId :=
        Option.some.inj (attached.symm.trans instance_.attached)
      subst same
      rfl
    next detached => cases detached.symm.trans instance_.attached

theorem exec_lockInstance_ok {tenantId instanceId : Id} :
    (lockInstance tenantId instanceId).exec db = .ok (instance_, db') ↔
      db.entityInstances.find? (EntityInstance.isOf tenantId instanceId) = some instance_.row ∧
        db' = db := by
  unfold lockInstance
  simp only [exec_seq_ok, Table.exec_lockRow, entityInstances_rows, exec_getOr_ok,
    EntityInstance.locked_eq_some, ok_eq_ok]
  constructor
  · intro ⟨_, _, ⟨rfl, rfl⟩, row, _, ⟨found, rfl⟩, eq, same⟩
    exact ⟨eq ▸ found, same⟩
  · intro ⟨found, same⟩
    exact ⟨_, _, ⟨rfl, rfl⟩, _, _, ⟨found, rfl⟩, rfl, same⟩

/-- The guards of `executeTransition` that hold when it moves a record. -/
structure Permitted (db : Db) (tenantId : Id) (request : TransitionRequest)
    (instance_ : LockedInstance) (transition : WorkflowTransition) : Prop where
  fresh : ∀ key, request.key = some key →
    db.workflowEvents.find? (WorkflowEvent.keyed tenantId request.instanceId key) = none
  found : db.entityInstances.find? (EntityInstance.isOf tenantId request.instanceId) =
    some instance_.row
  defined : ∃ workflow, db.workflows.find? (Workflow.isOf tenantId instance_.workflowId) =
    some workflow
  named : db.workflowTransitions.find?
    (WorkflowTransition.isOf tenantId instance_.workflowId request.transitionId) = some transition
  leaves : transition.fromState = instance_.row.currentState
  roles : transition.allowedRoles.isEmpty ||
    hasRequiredRole (request.actorRoles.getD []) transition.allowedRoles
  conditions : evaluateConditionTree transition.conditions instance_.row.fields
    (db.actorContext tenantId instance_.row.id instance_.row.createdBy request.actorId
      [transition.conditions]) = true
  fields : (missingFields transition.requiresFields instance_.row.fields).isEmpty
  comment : !transition.requiresComment || hasComment request.comment
  unused : db.keyTaken instance_.row.id request.idempotencyKey = false

theorem exec_findReplay (tenantId : Id) (request : TransitionRequest) (db : Db) :
    (findReplay tenantId request).exec db =
      .ok (request.key.bind fun key =>
        db.workflowEvents.find? (WorkflowEvent.keyed tenantId request.instanceId key), db) := by
  unfold findReplay
  cases request.key <;> rfl

theorem exec_checkTransition_ok :
    (checkTransition tenantId request instance_ transition).exec db = .ok (u, db') ↔
      ((transition.allowedRoles.isEmpty ||
          hasRequiredRole (request.actorRoles.getD []) transition.allowedRoles) ∧
        evaluateConditionTree transition.conditions instance_.row.fields
          (db.actorContext tenantId instance_.row.id instance_.row.createdBy request.actorId
            [transition.conditions]) ∧
        (missingFields transition.requiresFields instance_.row.fields).isEmpty ∧
        (!transition.requiresComment || hasComment request.comment)) ∧ db' = db := by
  unfold checkTransition Tx.requireW
  simp only [exec_seq_ok, exec_require_ok, exec_loadActorContext, ok_eq_ok]
  constructor
  · intro ⟨_, _, ⟨roles, rfl⟩, _, _, ⟨rfl, rfl⟩, _, _, ⟨conditions, rfl⟩, _, _, ⟨fields, rfl⟩,
      comment, same⟩
    exact ⟨⟨roles, conditions, fields, comment⟩, same⟩
  · intro ⟨⟨roles, conditions, fields, comment⟩, same⟩
    exact ⟨(), _, ⟨roles, rfl⟩, _, _, ⟨rfl, rfl⟩, (), _, ⟨conditions, rfl⟩, (), _, ⟨fields, rfl⟩,
      comment, same⟩

theorem exec_findTransition_ok :
    (findTransition tenantId request instance_).exec db = .ok (transition, db') ↔
      ((∃ workflow, db.workflows.find? (Workflow.isOf tenantId instance_.workflowId) =
          some workflow) ∧
        db.workflowTransitions.find?
          (WorkflowTransition.isOf tenantId instance_.workflowId request.transitionId) =
            some transition ∧
        transition.fromState = instance_.row.currentState) ∧ db' = db := by
  unfold findTransition
  simp only [exec_seq_ok, Table.exec_find, exec_getOr_ok, workflows_rows, workflowTransitions_rows,
    ok_eq_ok, Option.filter_eq_some_iff, beq_iff_eq]
  constructor
  · intro ⟨_, _, ⟨rfl, rfl⟩, workflow, _, ⟨defined, rfl⟩, _, _, ⟨rfl, rfl⟩, ⟨named, leaves⟩, same⟩
    exact ⟨⟨⟨workflow, defined⟩, named, leaves⟩, same⟩
  · intro ⟨⟨⟨workflow, defined⟩, named, leaves⟩, same⟩
    exact ⟨_, _, ⟨rfl, rfl⟩, workflow, _, ⟨defined, rfl⟩, _, _, ⟨rfl, rfl⟩, ⟨named, leaves⟩, same⟩

theorem executeTransition_cases {result : EventResult}
    (ran : (executeTransition tenantId request supply).exec db = .ok (result, db')) :
    (∃ key event, request.key = some key ∧
        db.workflowEvents.find? (WorkflowEvent.keyed tenantId request.instanceId key) = some event ∧
        result = event.result supply.transitionEventId ∧ db' = db) ∨
    ∃ instance_ transition, Permitted db tenantId request instance_ transition ∧
      result = (db.changeEvent tenantId instance_ (request.change transition) supply).result
        supply.transitionEventId ∧
      (Tables.outboxEvents.Keyed db → Tables.outboxEvents.Keyed db') ∧
      db' = db.changeState tenantId instance_ (request.change transition) supply := by
  unfold executeTransition at ran
  rw [bind_eq, exec_bind, exec_findReplay] at ran
  cases replay : request.key.bind fun key =>
      db.workflowEvents.find? (WorkflowEvent.keyed tenantId request.instanceId key) with
  | some event =>
    obtain ⟨key, keyed, found⟩ := Option.bind_eq_some_iff.mp replay
    simp only [replay, exec_pure, ok_eq_ok] at ran
    exact .inl ⟨key, event, keyed, found, ran.1.symm, ran.2.symm⟩
  | none =>
    simp only [replay, exec_seq_ok, exec_lockInstance_ok, exec_findTransition_ok,
      exec_checkTransition_ok] at ran
    obtain ⟨instance_, db, ⟨found, rfl⟩, transition, db, ⟨⟨defined, named, leaves⟩, rfl⟩, _, db,
      ⟨⟨roles, conditions, fields, comment⟩, rfl⟩, committed⟩ := ran
    obtain ⟨unused, returned, distinct, changed⟩ := exec_commitStateChange_ok committed
    refine .inr ⟨instance_, transition, ⟨fun key keyed => ?_, found, defined, named, leaves, roles,
      conditions, fields, comment, unused⟩, returned, distinct, changed⟩
    rw [keyed] at replay
    exact replay

/-- The guards of `overrideWorkflowState` that hold when it moves a record. -/
structure Overridden (db : Db) (tenantId : Id) (request : StateOverrideRequest)
    (instance_ : LockedInstance) (actorId : String) : Prop where
  admin : overrideActor request = some actorId
  reason : overrideReasonMinLength ≤ textLength (trim request.reason) ∧
    textLength (trim request.reason) ≤ overrideReasonMaxLength
  found : db.entityInstances.find? (EntityInstance.isOf tenantId request.instanceId) =
    some instance_.row
  enabled : ∃ workflow, db.workflows.find? (Workflow.isOf tenantId instance_.workflowId) =
    some workflow ∧ workflow.allowStateOverride = true
  notCreator : instance_.row.createdBy ≠ some actorId
  real : ∃ st ∈ db.workflowStates,
    (st.workflowId = instance_.workflowId ∧ st.tenantId = tenantId) ∧ st.name = request.state
  moves : request.state ≠ instance_.row.currentState

theorem overrideWorkflowState_cases {request : StateOverrideRequest} {result : EventResult}
    (ran : (overrideWorkflowState tenantId request supply).exec db = .ok (result, db')) :
    ∃ instance_ actorId, Overridden db tenantId request instance_ actorId ∧
      result = (db.changeEvent tenantId instance_ (request.change actorId) supply).result
        supply.transitionEventId ∧
      (Tables.outboxEvents.Keyed db → Tables.outboxEvents.Keyed db') ∧
      db' = db.changeState tenantId instance_ (request.change actorId) supply := by
  unfold overrideWorkflowState Tx.requireW at ran
  simp only [exec_seq_ok, exec_getOr_ok, exec_require_ok, exec_lockInstance_ok, Table.exec_find,
    Table.exec_filter, workflows_rows, workflowStates_rows, ok_eq_ok] at ran
  obtain ⟨actorId, db, ⟨admin, rfl⟩, _, db, ⟨reason, rfl⟩, instance_, db, ⟨found, rfl⟩, _, db,
    ⟨rfl, rfl⟩, workflow, db, ⟨defined, rfl⟩, _, db, ⟨enabled, rfl⟩, _, db, ⟨notCreator, rfl⟩, _,
    db, ⟨rfl, rfl⟩, _, db, ⟨real, rfl⟩, _, db, ⟨moves, rfl⟩, committed⟩ := ran
  obtain ⟨-, returned, distinct, changed⟩ := exec_commitStateChange_ok committed
  refine ⟨instance_, actorId, ⟨admin, of_decide_eq_true reason, found,
    ⟨workflow, defined, enabled⟩, by simpa using notCreator, ?_, by simpa using moves⟩, returned,
    distinct, changed⟩
  simpa [List.any_eq_true, and_assoc] using real

end OpenWind
