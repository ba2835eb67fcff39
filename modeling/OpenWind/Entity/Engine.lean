import OpenWind.Entity.StateLock
import OpenWind.Workflow.Engine

/-!
# The entity engine

The operations that create records and write them directly: `createEntity`,
`bulkCreateEntities`, `updateEntity`, `setEntityState` and `bulkSetState`.  Each
writes the event log and the outbox itself, by its own code.

The checks of a record's fields (reserved names, the generated schema, cross-field
validators, references, teams, formulas) are a parameter, `FieldRules`: any
function that accepts or refuses the fields.
-/

namespace OpenWind

open Txn

/-! ## Inputs -/

inductive ActorType
  | user | apiKey | system
  deriving DecidableEq

structure CreateEntityInput where
  entityTypeId : Id
  fields : Fields
  createdBy : Option String := none
  actorId : Option String := none
  actorType : Option ActorType := none
  actorName : Option String := none
  assignedTo : Option String := none
  dueDate : Option Time := none
  remark : Option String := none
  workflowId : Option Id := none
  currentState : Option String := none
  depth : Option Nat := none
  originMechanism : Option String := none
  originOidcClientId : Option String := none
  originPerformerUserId : Option String := none
  severity : Option String := none
  teamId : Option Id := none
  enforceInitialState : Bool := false

structure UpdateEntityInput where
  fields : Option Fields := none
  assignedTo : Option (Option String) := none
  dueDate : Option (Option Time) := none
  currentState : Option (Option String) := none
  actorId : Option String := none
  actorName : Option String := none
  depth : Option Nat := none

structure FieldRules where
  create : Db → Id → CreateEntityInput → Except TxError Fields
  complete : Db → Id → CreateEntityInput → Fields → Except TxError Fields
  update : Db → Id → EntityInstance → Bool → Fields → Except TxError Fields
  team : Db → Id → Option Id → Except TxError Unit
  reserved : Fields → Except TxError Unit
  /-- Missing mandatory values are refused, not only logged. -/
  enforceMandatory : Bool

def FieldRules.acceptAll : FieldRules where
  create _ _ input := .ok input.fields
  complete _ _ _ fields := .ok fields
  update _ _ _ _ fields := .ok fields
  team _ _ _ := .ok ()
  reserved _ := .ok ()
  enforceMandatory := false

/-- The clock, and identifiers for the rows of one call. -/
structure EntitySupply where
  startedAt : Time
  now : Time
  id : Nat → Id

def Tx.lift {α : Type} (result : Except TxError α) : Tx α :=
  match result with
  | .ok a => return a
  | .error e => .fail e

/-! ## Mandatory values -/

structure MandatoryValues where
  title : Option Json
  dueDate : Option Time
  remark : Option String
  severity : Option String

def blankText : Option String → Bool
  | none => true
  | some s => trim s == ""

def blankValue : Option Json → Bool
  | none => true
  | some .null => true
  | some (.str s) => trim s == ""
  | some _ => false

def requiredField (field label : String) : FieldError :=
  ⟨field, "required", label ++ " is required"⟩

def findMissingMandatoryFields (values : MandatoryValues) : List FieldError :=
  (if blankValue values.title then [requiredField "title" "Title"] else []) ++
  (if values.dueDate.isNone then [requiredField "dueDate" "Due date"] else []) ++
  (if blankText values.remark then [requiredField "remark" "Remark"] else []) ++
  (if blankText values.severity then [requiredField "severity" "Severity"] else [])

def reportMissing (enforce : Bool) (missing : List FieldError) : Except TxError Unit :=
  if missing.isEmpty || !enforce then .ok () else .error (.validation missing)

def checkMandatoryFields (enforce : Bool) (values : MandatoryValues) : Except TxError Unit :=
  reportMissing enforce (findMissingMandatoryFields values)

def checkMandatoryFieldsOnUpdate (enforce : Bool) (before after : MandatoryValues) :
    Except TxError Unit :=
  let hadBefore := (findMissingMandatoryFields before).map (·.field)
  reportMissing enforce
    ((findMissingMandatoryFields after).filter fun e => !hadBefore.contains e.field)

/-! ## Due dates -/

def dueDateError (message : String) : TxError := .validation [⟨"dueDate", "invalid", message⟩]

def createDueDateGraceMs : Nat := 15000

def validateDueDateOnCreate (dueDate now : Time) : Except TxError Unit :=
  if dueDate + createDueDateGraceMs < now then
    .error (dueDateError "dueDate must not be in the past")
  else .ok ()

def validateDueDateEdit (dueDate : Time) (existing : EntityInstance) (now : Time) :
    Except TxError Unit :=
  if dueDate ≤ existing.createdAt then
    .error (dueDateError "dueDate must be after the entity's created date")
  else if existing.dueDate == some dueDate then .ok ()
  else validateDueDateOnCreate dueDate now

/-! ## Outbox events of a record -/

def depthField (depth : Option Nat) : Fields :=
  depth.toList.map fun d => ("depth", .num (d + 1))

def buildEntityCreatedPayload (row : EntityInstance) (fields : Fields) (depth : Option Nat) :
    OutboxPayload :=
  .record "entity.created" row.id
    ([("entityTypeId", .id row.entityTypeId), ("fields", .obj fields),
      ("createdBy", .optStr row.createdBy)] ++ depthField depth)

def buildEntityAssignedPayload (row : EntityInstance) (assigneeId : String)
    (assignedBy : Option String) (depth : Option Nat) : OutboxPayload :=
  .record "entity.assigned" row.id
    ([("entityTypeId", .id row.entityTypeId), ("assigneeId", .str assigneeId),
      ("assignedBy", .optStr assignedBy)] ++ depthField depth)

def buildEntityUnassignedPayload (row : EntityInstance) (previousAssigneeId : String)
    (actorId : Option String) (depth : Option Nat) : OutboxPayload :=
  .record "entity.unassigned" row.id
    ([("entityTypeId", .id row.entityTypeId), ("previousAssigneeId", .str previousAssigneeId),
      ("actorId", .optStr actorId)] ++ depthField depth)

def buildEntityDueDateScheduledPayload (row : EntityInstance) (dueDate : Time) : OutboxPayload :=
  .record "entity.due_date_scheduled" row.id
    [("entityTypeId", .id row.entityTypeId), ("dueDate", .num dueDate)]

def resolveAssignedBy (actorId createdBy : Option String) : Option String :=
  actorId.or createdBy

def outboxRow (tenantId : Id) (payload : OutboxPayload) (createdAt : Time) (id : Id) :
    OutboxEvent where
  id := id
  tenantId := tenantId
  payload := payload
  createdAt := createdAt

def OutboxEvent.pendingDueDate (tenantId instanceId : Id) (row : OutboxEvent) : Bool :=
  row.deliveredAt == none && row.tenantId == tenantId &&
    match row.payload with
    | .record eventType about _ => eventType == "entity.due_date_scheduled" && about == instanceId
    | _ => false

def rescheduleDueDate (tenantId : Id) (row : EntityInstance) (oldDueDate newDueDate : Option Time)
    (supply : EntitySupply) (rowId : Id) : Tx Unit :=
  if oldDueDate == newDueDate then return ()
  else do
    Tables.outboxEvents.update (OutboxEvent.pendingDueDate tenantId row.id)
      (OutboxEvent.deliver supply.startedAt)
    match newDueDate with
    | none => return ()
    | some dueDate =>
      Tx.insertOutbox [outboxRow tenantId (buildEntityDueDateScheduledPayload row dueDate)
        supply.startedAt rowId]

/-! ## Creating a record -/

def Db.assertWorkflowMatchesType (db : Db) (tenantId workflowId entityTypeId : Id) :
    Except TxError Unit :=
  match db.workflows.find? (Workflow.isOf tenantId workflowId) with
  | some workflow =>
    if workflow.entityTypeId == entityTypeId then .ok ()
    else .error (.validation
      [⟨"workflowId", "invalid", "The workflow doesn't belong to this entity type"⟩])
  | none => .error (.validation
      [⟨"workflowId", "invalid", "The workflow doesn't belong to this entity type"⟩])

def Db.entityTypeHasWorkflow (db : Db) (tenantId entityTypeId : Id) : Bool :=
  db.workflows.any fun w =>
    w.entityTypeId == entityTypeId && (w.tenantId == some tenantId || w.tenantId == none) &&
      w.isActive

def Db.resolveInitialState (db : Db) (tenantId : Id) (workflowId : Option Id) : String :=
  match workflowId with
  | none => "initial"
  | some id =>
    match db.workflows.find? (Workflow.isOf tenantId id) with
    | none => "initial"
    | some workflow => workflow.initialState

def Db.startState (db : Db) (tenantId workflowId : Id) : String :=
  let initial := db.resolveInitialState tenantId (some workflowId)
  let validStates := db.stateNames tenantId workflowId
  if validStates.contains initial then initial else validStates.headD "initial"

def creationState (tenantId workflowId : Id) (requested : Option String)
    (enforceInitialState : Bool) : Tx String := do
  let validStates ← Prog.read fun db => db.stateNames tenantId workflowId
  let start ← Prog.read fun db => db.startState tenantId workflowId
  match requested.filter (· != "") with
  | none => return start
  | some state =>
    Prog.require (validStates.contains state)
      (invalidState "currentState" ("Invalid state '" ++ state ++
        "' for the selected workflow. Valid states are: " ++ String.intercalate ", " validStates))
    let locked ← Prog.read fun db => db.isStateWriteLocked tenantId workflowId
    Tx.requireE (!(enforceInitialState && state != start && locked)) .stateChangeNotAllowed
      [("workflowId", .id workflowId), ("requested", .str state), ("initial", .str start)]
    return state

def ActorType.text : ActorType → String
  | user => "user"
  | apiKey => "api_key"
  | system => "system"

/-- `api_key` is recorded as `api`. -/
def ActorType.triggeredBy : ActorType → TriggeredBy
  | user => .user
  | apiKey => .api
  | system => .system

def CreateEntityInput.triggeredBy (input : CreateEntityInput) : TriggeredBy :=
  match input.actorType with
  | some actorType => actorType.triggeredBy
  | none => if input.createdBy.isSome then .user else .system

/-- The row a creation inserts. -/
def CreateEntityInput.row (input : CreateEntityInput) (tenantId : Id) (currentState : String)
    (fields : Fields) (supply : EntitySupply) : EntityInstance where
  id := supply.id 0
  entityTypeId := input.entityTypeId
  tenantId := tenantId
  workflowId := input.workflowId
  currentState := currentState
  fields := fields
  createdBy := input.createdBy
  assignedTo := input.assignedTo
  originMechanism := input.originMechanism
  originOidcClientId := input.originOidcClientId
  originPerformerUserId := input.originPerformerUserId
  severity := input.severity
  dueDate := input.dueDate
  remark := input.remark
  createdAt := supply.startedAt
  updatedAt := supply.startedAt

def CreateEntityInput.event (input : CreateEntityInput) (row : EntityInstance) (workflowId : Id)
    (redacted : Fields) (supply : EntitySupply) : WorkflowEvent where
  id := supply.id 0
  tenantId := row.tenantId
  instanceId := row.id
  workflowId := workflowId
  fromState := none
  toState := row.currentState
  triggeredBy := input.triggeredBy
  actorId := input.actorId.or input.createdBy
  comment := some "Record created"
  metadata := [("type", .str "create"), ("fields", .obj redacted),
    ("actorName", .optStr input.actorName)]
  originMechanism := input.originMechanism
  originOidcClientId := input.originOidcClientId
  originPerformerUserId := input.originPerformerUserId
  createdAt := supply.startedAt

def loadEntityFields (tenantId entityTypeId : Id) : Tx (List EntityField) :=
  Tables.entityFields.filter (EntityField.isOf tenantId entityTypeId)

def Db.checkCreate (db : Db) (rules : FieldRules) (tenantId : Id) (input : CreateEntityInput)
    (severity : Option String) (now : Time) : Except TxError Fields := do
  let validated ← rules.create db tenantId input
  match input.dueDate with
  | none => pure ()
  | some dueDate => validateDueDateOnCreate dueDate now
  let fields ← rules.complete db tenantId input validated
  match input.workflowId with
  | none => pure ()
  | some workflowId => db.assertWorkflowMatchesType tenantId workflowId input.entityTypeId
  if input.workflowId.isSome || db.entityTypeHasWorkflow tenantId input.entityTypeId then
    checkMandatoryFields rules.enforceMandatory
      ⟨fields.get "title", input.dueDate, input.remark, severity⟩
  else pure ()
  return fields

def requestedState (tenantId : Id) (input : CreateEntityInput) : Tx String :=
  match input.workflowId with
  | none => return input.currentState.getD "initial"
  | some workflowId =>
    creationState tenantId workflowId input.currentState input.enforceInitialState

def logCreation (input : CreateEntityInput) (row : EntityInstance) (redacted : Fields)
    (supply : EntitySupply) : Tx Unit :=
  match input.workflowId with
  | none => return ()
  | some workflowId => insertWorkflowEvent (input.event row workflowId redacted supply)

/-- The outbox rows that announce a new record. -/
def creationOutbox (tenantId : Id) (row : EntityInstance) (redacted : Fields)
    (actorId : Option String) (depth : Option Nat) (createdAt : Time) (createdId assignedId : Id) :
    List OutboxEvent :=
  outboxRow tenantId (buildEntityCreatedPayload row redacted depth) createdAt createdId ::
    row.assignedTo.toList.map fun assignee =>
      outboxRow tenantId
        (buildEntityAssignedPayload row assignee (resolveAssignedBy actorId row.createdBy) depth)
        createdAt assignedId

def createEntity (rules : FieldRules) (tenantId : Id) (input : CreateEntityInput)
    (supply : EntitySupply) : Tx EntityInstance := do
  let checked ← Prog.read fun db => db.checkCreate rules tenantId input input.severity supply.now
  let fields ← Tx.lift checked
  let currentState ← requestedState tenantId input
  let row := input.row tenantId currentState fields supply
  Tables.entityInstances.insert (Tx.pkey "entity_instances") [row]
  rescheduleDueDate tenantId row none row.dueDate supply (supply.id 1)
  let allFields ← loadEntityFields tenantId input.entityTypeId
  let redacted := redactMetadata fields (buildSensitivityMap allFields)
  logCreation input row redacted supply
  Tx.insertOutbox (creationOutbox tenantId row redacted input.actorId input.depth supply.startedAt
    (supply.id 2) (supply.id 3))
  return row

/-! ## Writing the state directly -/

def EntityInstance.isLive (tenantId instanceId : Id) (row : EntityInstance) : Bool :=
  row.isOf tenantId instanceId && row.deletedAt == none

def directSetEvent (tenantId : Id) (prior : EntityInstance) (workflowId : Id) (state : String)
    (actorId : Option String) (createdAt : Time) (eventId : Id) : WorkflowEvent where
  id := eventId
  tenantId := tenantId
  instanceId := prior.id
  workflowId := workflowId
  fromState := some prior.currentState
  toState := state
  triggeredBy := .user
  actorId := actorId
  comment := some ("State set directly to " ++ state)
  metadata := [("type", .str "direct-set")]
  createdAt := createdAt

def directSetOutbox (tenantId : Id) (prior : EntityInstance) (workflowId : Id) (state : String)
    (actorId : Option String) (occurredAt createdAt : Time) (rowId : Id) : OutboxEvent :=
  outboxRow tenantId
    (.transitioned
      { instanceId := prior.id
        entityTypeId := prior.entityTypeId
        workflowId
        fromState := prior.currentState
        toState := state
        triggeredBy := .user
        actorId
        occurredAt
        transitionEventId := none })
    createdAt rowId

def EntityInstance.loggedWorkflow (prior : EntityInstance) (state : String) : Option Id :=
  if prior.currentState == state then none else prior.workflowId

def logDirectSet (tenantId : Id) (prior : EntityInstance) (state : String)
    (actorId : Option String) (supply : EntitySupply) : Tx Unit :=
  match prior.loggedWorkflow state with
  | none => return ()
  | some workflowId => do
    insertWorkflowEvent
      (directSetEvent tenantId prior workflowId state actorId supply.startedAt (supply.id 0))
    Tx.insertOutbox [directSetOutbox tenantId prior workflowId state actorId supply.now
      supply.startedAt (supply.id 0)]

def setEntityState (tenantId instanceId : Id) (state : String) (actorId : Option String)
    (supply : EntitySupply) : Tx EntityInstance := do
  let existing ← Tables.entityInstances.find (EntityInstance.isLive tenantId instanceId)
  let existing ← Prog.getOr existing
    (.entity .entityNotFound [("instanceId", .id instanceId)])
  let parent ← getParentId tenantId instanceId
  checkStateWrite "state" tenantId instanceId existing.workflowId existing.currentState state
    parent.isSome
  Tables.entityInstances.update (EntityInstance.isOf tenantId instanceId)
    (EntityInstance.enter state supply.now)
  logDirectSet tenantId existing state actorId supply
  return existing.enter state supply.now

/-! ## Editing a record -/

def checkEditState (tenantId : Id) (existing : EntityInstance) (requested : Option String)
    (isChildTicket : Bool) : Tx Unit :=
  match requested with
  | none => return ()
  | some state =>
    checkStateWrite "currentState" tenantId existing.id existing.workflowId existing.currentState
      state isChildTicket

/-- The row an edit leaves. -/
def UpdateEntityInput.apply (input : UpdateEntityInput) (fields : Option Fields) (now : Time)
    (row : EntityInstance) : EntityInstance :=
  { row with
    fields := fields.getD row.fields
    updatedAt := now
    assignedTo := input.assignedTo.getD row.assignedTo
    dueDate := input.dueDate.getD row.dueDate
    currentState := input.currentState.join.getD row.currentState }

def changedFields (sensitivityMap : List (String × FieldSensitivity)) (oldFields newFields : Fields) :
    Fields :=
  newFields.filterMap fun (key, value) =>
    let old := Fields.get oldFields key
    let kept := match old with
      | none => false
      | some old => old.same value
    if kept then none
    else
      match sensitivityMap.lookup key with
      | some .pii => some (key, .obj [("old", .str "[REDACTED]"), ("new", .str "[REDACTED]")])
      | some .financial => some (key, .obj [("old", .str "[REDACTED]"), ("new", .str "[REDACTED]")])
      | _ => some (key, .obj (old.toList.map (fun old => ("old", old)) ++ [("new", value)]))

def withRowChanges (existing row : EntityInstance) (changed : Fields) : Fields :=
  let changed :=
    if existing.assignedTo == row.assignedTo then changed
    else changed.set "assignedTo"
      (.obj [("old", .optStr existing.assignedTo), ("new", .optStr row.assignedTo)])
  if existing.currentState == row.currentState then changed
  else changed.set "state"
    (.obj [("old", .str existing.currentState), ("new", .str row.currentState)])

def Db.effectiveWorkflowId (db : Db) (tenantId : Id) (row : EntityInstance) : Option Id :=
  match row.workflowId with
  | some workflowId => some workflowId
  | none =>
    match db.parentId tenantId row.id with
    | none => none
    | some parentId =>
      (db.entityInstances.find? (EntityInstance.isOf tenantId parentId)).bind (·.workflowId)

/-- The event of an edit. -/
def updateEvent (tenantId : Id) (existing row : EntityInstance) (workflowId : Id)
    (changed : Fields) (input : UpdateEntityInput) (supply : EntitySupply) : WorkflowEvent where
  id := supply.id 0
  tenantId := tenantId
  instanceId := existing.id
  workflowId := workflowId
  fromState := some existing.currentState
  toState := row.currentState
  triggeredBy := .user
  actorId := input.actorId
  comment :=
    if existing.currentState == row.currentState then some "Record updated"
    else some ("State changed to " ++ row.currentState)
  metadata := [("type", .str "update"), ("changed", .obj changed),
    ("actorName", .optStr input.actorName)]
  createdAt := supply.startedAt

def assignmentOutbox (tenantId : Id) (existing row : EntityInstance) (input : UpdateEntityInput)
    (supply : EntitySupply) : List OutboxEvent :=
  if existing.assignedTo == row.assignedTo then []
  else
    (row.assignedTo.toList.map fun assignee =>
      outboxRow tenantId
        (buildEntityAssignedPayload row assignee (resolveAssignedBy input.actorId row.createdBy)
          input.depth)
        supply.startedAt (supply.id 0)) ++
    existing.assignedTo.toList.map fun previous =>
      outboxRow tenantId (buildEntityUnassignedPayload row previous input.actorId input.depth)
        supply.startedAt (supply.id 1)

def entityUpdatedOutbox (tenantId : Id) (row : EntityInstance) (changed : Fields)
    (input : UpdateEntityInput) (supply : EntitySupply) : OutboxEvent :=
  outboxRow tenantId
    (.record "entity.updated" row.id
      [("entityTypeId", .id row.entityTypeId), ("actorId", .optStr input.actorId),
        ("changed", .obj changed)])
    supply.startedAt (supply.id 3)

def insertUpdateEvent (tenantId : Id) (existing row : EntityInstance) (workflowId : Id)
    (changed : Fields) (input : UpdateEntityInput) (supply : EntitySupply) : Tx Unit :=
  if changed.isEmpty then return ()
  else insertWorkflowEvent (updateEvent tenantId existing row workflowId changed input supply)

def insertEntityUpdated (tenantId : Id) (row : EntityInstance) (changed : Fields)
    (input : UpdateEntityInput) (supply : EntitySupply) : Tx Unit :=
  if (changed.filter fun entry => entry.1 != "assignedTo" && entry.1 != "state").isEmpty then
    return ()
  else Tx.insertOutbox [entityUpdatedOutbox tenantId row changed input supply]

def logUpdate (tenantId : Id) (existing row : EntityInstance) (changed : Fields)
    (input : UpdateEntityInput) (supply : EntitySupply) : Tx Unit := do
  match ← Prog.read fun db => db.effectiveWorkflowId tenantId row with
  | none => return ()
  | some workflowId =>
    let changed := withRowChanges existing row changed
    insertUpdateEvent tenantId existing row workflowId changed input supply
    insertEntityUpdated tenantId row changed input supply

/-- The checks of an edit that need no store. -/
def checkEdit (rules : FieldRules) (existing row : EntityInstance) (input : UpdateEntityInput)
    (now : Time) : Except TxError Unit := do
  match input.dueDate.join with
  | none => pure ()
  | some dueDate => validateDueDateEdit dueDate existing now
  if existing.workflowId.isSome then
    checkMandatoryFieldsOnUpdate rules.enforceMandatory
      ⟨existing.fields.get "title", existing.dueDate, existing.remark, existing.severity⟩
      ⟨row.fields.get "title", row.dueDate, existing.remark, existing.severity⟩
  else pure ()

def writeEdit (rules : FieldRules) (tenantId : Id) (existing : EntityInstance)
    (input : UpdateEntityInput) (isChildTicket : Bool) (fields : Option Fields)
    (supply : EntitySupply) : Tx EntityInstance := do
  let row := input.apply fields supply.now existing
  Tx.lift (checkEdit rules existing row input supply.now)
  checkEditState tenantId existing input.currentState.join isChildTicket
  Tables.entityInstances.update (EntityInstance.isOf tenantId existing.id)
    (input.apply fields supply.now)
  Tx.insertOutbox (assignmentOutbox tenantId existing row input supply)
  rescheduleDueDate tenantId row existing.dueDate row.dueDate supply (supply.id 2)
  return row

def updateEntity (rules : FieldRules) (tenantId instanceId : Id) (input : UpdateEntityInput)
    (supply : EntitySupply) : Tx EntityInstance := do
  let existing ← Tables.entityInstances.find (EntityInstance.isLive tenantId instanceId)
  let existing ← Prog.getOr existing
    (.entity .entityNotFound [("instanceId", .id instanceId)])
  match input.fields with
  | some provided =>
    let parent ← getParentId tenantId instanceId
    let fields ← Prog.read fun db => rules.update db tenantId existing parent.isSome provided
    let fields ← Tx.lift fields
    let allFields ← loadEntityFields tenantId existing.entityTypeId
    let row ← writeEdit rules tenantId existing input parent.isSome (some fields) supply
    logUpdate tenantId existing row
      (changedFields (buildSensitivityMap allFields) existing.fields row.fields) input supply
    return row
  | none =>
    if input.assignedTo.isSome || input.currentState.isSome || input.dueDate.isSome then
      let parent ← getParentId tenantId instanceId
      let row ← writeEdit rules tenantId existing input parent.isSome none supply
      logUpdate tenantId existing row [] input supply
      return row
    else return existing

/-! ## Writing the state of many records -/

inductive BulkErrorCode
  | entityNotFound | invalidState | stateChangeNotAllowed
  deriving DecidableEq

structure BulkError where
  index : Nat
  id : Id
  code : BulkErrorCode

structure BulkItem where
  id : Id
  state : String

structure BulkContext where
  found : List EntityInstance
  childIds : List Id
  stateNames : Id → List String
  lockedIds : List Id

/-- The record of an item, as it was when the batch was read. -/
def BulkContext.prior (ctx : BulkContext) (id : Id) : Option EntityInstance :=
  ctx.found.find? fun row => row.id == id

def BulkContext.refusal (ctx : BulkContext) (item : BulkItem) : Option BulkErrorCode :=
  match ctx.prior item.id with
  | none => some .entityNotFound
  | some prior =>
    let locked := prior.workflowId.any ctx.lockedIds.contains && item.state != prior.currentState
    let named := prior.workflowId.any fun workflowId =>
      (ctx.stateNames workflowId).contains item.state
    if ctx.childIds.contains item.id then
      if !childTicketStates.contains item.state then some .invalidState
      else if locked && named then some .stateChangeNotAllowed
      else none
    else if locked then some .stateChangeNotAllowed
    else if prior.workflowId.isSome && !named then some .invalidState
    else none

def BulkContext.errors (ctx : BulkContext) (items : List BulkItem) : List BulkError :=
  let refused := items.zipIdx.filterMap fun (item, index) =>
    (ctx.refusal item).map fun code => (⟨index, item.id, code⟩ : BulkError)
  (refused.filter fun e => e.code == .entityNotFound) ++
    refused.filter fun e => e.code != .entityNotFound

def BulkContext.accepted (ctx : BulkContext) (items : List BulkItem) : List BulkItem :=
  items.filter fun item => (ctx.refusal item).isNone

def statesInOrder (items : List BulkItem) : List String :=
  items.foldl (fun states item =>
    if states.contains item.state then states else states ++ [item.state]) []

/-- One bucket of records for each target state. -/
def groupByState (items : List BulkItem) : List (String × List Id) :=
  (statesInOrder items).map fun state =>
    (state, (items.filter fun item => item.state == state).map (·.id))

def EntityInstance.inBucket (tenantId : Id) (ids : List Id) (row : EntityInstance) : Bool :=
  ids.contains row.id && row.tenantId == tenantId

/-- A record that a batch moved, with the workflow it is logged under. -/
structure BulkMove where
  prior : EntityInstance
  workflowId : Id
  state : String

def BulkContext.move (ctx : BulkContext) (state : String) (row : EntityInstance) :
    Option BulkMove :=
  (ctx.prior row.id).bind fun prior =>
    (prior.loggedWorkflow state).map fun workflowId => ⟨prior, workflowId, state⟩

/-- The moves of one bucket. -/
def BulkContext.moves (ctx : BulkContext) (state : String) (rows : List EntityInstance) :
    List BulkMove :=
  rows.filterMap (ctx.move state)

def bulkWrite (tenantId : Id) (ctx : BulkContext) (now : Time) :
    List (String × List Id) → Tx (List Id × List BulkMove)
  | [] => return ([], [])
  | (state, ids) :: rest => do
    Tables.entityInstances.update (EntityInstance.inBucket tenantId ids)
      (EntityInstance.enter state now)
    let rows ← Tables.entityInstances.filter (EntityInstance.inBucket tenantId ids)
    let (updatedIds, moves) ← bulkWrite tenantId ctx now rest
    return (rows.map (·.id) ++ updatedIds, ctx.moves state rows ++ moves)

structure BulkSetStateResult where
  updatedIds : List Id
  errors : List BulkError

def loadBulkContext (tenantId : Id) (items : List BulkItem) : Tx BulkContext := do
  let found ← Tables.entityInstances.filter fun row =>
    (items.map (·.id)).contains row.id && row.tenantId == tenantId && row.deletedAt == none
  let children ← Tables.entityRelations.filter (EntityRelation.isActive tenantId .childOf)
  let stateNames ← Prog.read fun db => db.stateNames tenantId
  let lockedIds ← Prog.read fun db =>
    db.lockedWorkflowIds tenantId (found.filterMap (·.workflowId))
  return ⟨found, children.map (·.fromInstanceId), stateNames, lockedIds⟩

def bulkSetState (tenantId : Id) (items : List BulkItem) (actorId : Option String)
    (supply : EntitySupply) : Tx BulkSetStateResult := do
  let ctx ← loadBulkContext tenantId items
  let (updatedIds, moves) ← bulkWrite tenantId ctx supply.now (groupByState (ctx.accepted items))
  Tables.workflowEvents.insert (Tx.pkey "workflow_events") (moves.zipIdx.map fun (move, i) =>
    directSetEvent tenantId move.prior move.workflowId move.state actorId supply.startedAt
      (supply.id i))
  Tx.insertOutbox (moves.zipIdx.map fun (move, i) =>
    directSetOutbox tenantId move.prior move.workflowId move.state actorId supply.now
      supply.startedAt (supply.id i))
  return ⟨updatedIds, ctx.errors items⟩

/-! ## Creating many records -/

def defaultTicketSeverity : String := "medium"

def bulkCreateRow (rules : FieldRules) (db : Db) (tenantId : Id) (input : CreateEntityInput)
    (supply : EntitySupply) (index : Nat) : Except TxError EntityInstance := do
  let severity := some (input.severity.getD defaultTicketSeverity)
  let fields ← db.checkCreate rules tenantId input severity supply.now
  return {
    id := supply.id index
    entityTypeId := input.entityTypeId
    tenantId
    workflowId := input.workflowId
    currentState := db.resolveInitialState tenantId input.workflowId
    fields
    createdBy := input.createdBy
    assignedTo := input.assignedTo
    severity
    dueDate := input.dueDate
    remark := input.remark
    createdAt := supply.startedAt
    updatedAt := supply.startedAt }

def bulkCreateRows (rules : FieldRules) (db : Db) (tenantId : Id) (supply : EntitySupply) :
    List (CreateEntityInput × Nat) →
      Except TxError (List (EntityInstance × CreateEntityInput) × List (Nat × List FieldError))
  | [] => .ok ([], [])
  | (input, index) :: rest =>
    match bulkCreateRow rules db tenantId input supply index with
    | .ok row => do
      let (rows, errors) ← bulkCreateRows rules db tenantId supply rest
      return ((row, input) :: rows, errors)
    | .error (.validation fields) => do
      let (rows, errors) ← bulkCreateRows rules db tenantId supply rest
      return (rows, (index, fields) :: errors)
    | .error e => .error e

def scheduleDueDates (tenantId : Id) (supply : EntitySupply) :
    List (EntityInstance × Nat) → Tx Unit
  | [] => return ()
  | (row, index) :: rest => do
    rescheduleDueDate tenantId row none row.dueDate supply (supply.id (3 * index + 2))
    scheduleDueDates tenantId supply rest

structure BulkCreateResult where
  created : List EntityInstance
  errors : List (Nat × List FieldError)

def bulkCreateEntities (rules : FieldRules) (tenantId : Id) (inputs : List CreateEntityInput)
    (supply : EntitySupply) : Tx BulkCreateResult := do
  let checked ← Prog.read fun db => bulkCreateRows rules db tenantId supply inputs.zipIdx
  let (rows, errors) ← Tx.lift checked
  Tables.entityInstances.insert (Tx.pkey "entity_instances") (rows.map (·.1))
  let allFields ← Prog.read fun db => db.entityFields
  Tx.insertOutbox (rows.zipIdx.flatMap fun ((row, input), i) =>
    let ofType := allFields.filter (EntityField.isOf tenantId row.entityTypeId)
    creationOutbox tenantId row (redactMetadata row.fields (buildSensitivityMap ofType))
      input.actorId input.depth supply.startedAt (supply.id (3 * i)) (supply.id (3 * i + 1)))
  scheduleDueDates tenantId supply (rows.map (·.1)).zipIdx
  return ⟨rows.map (·.1), errors⟩

end OpenWind
