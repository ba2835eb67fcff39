import OpenWind.Json
import OpenWind.Lib.Table

/-!
# The database

The rows of the tables that the workflow, entity and automation engines share,
and the store `Db` that holds them.  Identifiers are numbers, timestamps are
milliseconds since the epoch, nullable columns are options.  A table is the list
of its rows in insertion order.
-/

namespace OpenWind

/-- A `uuid` column. -/
abbrev Id := Nat

/-- The text of an identifier. -/
def Id.text (id : Id) : String := toString (id : Nat)

theorem Id.text_toList (id : Id) : id.text.toList = Nat.toDigits 10 id := by
  rw [Id.text, Nat.toString_eq_repr, Nat.toList_repr]

/-- A timestamp, in milliseconds. -/
abbrev Time := Nat

/-! ## Workflow definitions -/

structure Workflow where
  id : Id
  tenantId : Option Id
  entityTypeId : Id
  initialState : String
  createdBy : Option String := none
  assignedTo : Option (List String) := none
  maxChildDepth : Nat := 1
  maxChildrenPerParent : Nat := 10
  allowStateOverride : Bool := false
  isActive : Bool := true

structure WorkflowState where
  id : Id
  tenantId : Id
  workflowId : Id
  name : String
  label : String := ""
  color : Option String := none
  isTerminal : Bool := false
  slaHours : Option Nat := none
  sortOrder : Nat := 0

/-- The operators of a field condition. -/
inductive FieldOp
  | eq | neq | gt | gte | lt | lte | contains | in | empty | notEmpty
  deriving DecidableEq

structure FieldCondition where
  op : FieldOp
  field : String
  value : Option Json := none
  deriving DecidableEq

inductive TransitionConditionTree
  | and (children : List TransitionConditionTree)
  | or (children : List TransitionConditionTree)
  | not (child : TransitionConditionTree)
  | field (cond : FieldCondition)
  | actorNotCreator
  | actorIsCreator
  | actorNotPriorActor (states : Option (List String))

structure WorkflowTransition where
  id : Id
  tenantId : Id
  workflowId : Id
  fromState : String
  toState : String
  label : Option String := none
  allowedRoles : List String := []
  conditions : Option TransitionConditionTree := none
  requiresComment : Bool := false
  requiresFields : List String := []

/-! ## Tenants and types -/

structure SweepTenant where
  id : Id
  status : String
  trialEndsAt : Option Time

def isTenantActive (tenants : List SweepTenant) (now : Time) (tenantId : Id) : Bool :=
  (tenants.find? fun t => t.id == tenantId && t.status == "active").any fun t =>
    t.trialEndsAt.all (now < ·)

structure EntityType where
  id : Id
  tenantId : Option Id := none
  name : String
  allowCustomFields : Bool := true

def EntityType.isOf (tenantId entityTypeId : Id) (entityType : EntityType) : Bool :=
  entityType.id == entityTypeId &&
    (entityType.tenantId == none || entityType.tenantId == some tenantId)

/-! ## Records -/

inductive TriggeredBy
  | user | automation | api | system
  deriving DecidableEq

/-- A row of the append-only event log. -/
structure WorkflowEvent where
  id : Id
  tenantId : Id
  instanceId : Id
  workflowId : Id
  fromState : Option String
  toState : String
  triggeredBy : TriggeredBy
  actorId : Option String := none
  comment : Option String := none
  originMechanism : Option String := none
  originOidcClientId : Option String := none
  originPerformerUserId : Option String := none
  idempotencyKey : Option String := none
  metadata : Fields := []
  createdAt : Time

inductive FieldSensitivity
  | publicField | internalField | pii | financial
  deriving DecidableEq

inductive FieldType
  | text | longtext | number | currency | date | datetime | boolean | enum | select | multiEnum
  | userRef | entityRef | file | files | formula | lookup
  | other (name : String)
  deriving DecidableEq

structure EntityField where
  id : Id
  entityTypeId : Id
  tenantId : Option Id
  name : String
  label : String := ""
  fieldType : FieldType := .text
  config : Fields := []
  isRequired : Bool := false
  isIndexed : Bool := false
  isSystem : Bool := false
  sortOrder : Int := 0
  sensitivity : FieldSensitivity := .internalField

structure EntityInstance where
  id : Id
  entityTypeId : Id
  tenantId : Id
  workflowId : Option Id := none
  currentState : String := "initial"
  fields : Fields := []
  createdBy : Option String := none
  assignedTo : Option String := none
  originMechanism : Option String := none
  originOidcClientId : Option String := none
  originPerformerUserId : Option String := none
  severity : Option String := none
  dueDate : Option Time := none
  remark : Option String := none
  createdAt : Time
  updatedAt : Time
  deletedAt : Option Time := none

structure TenantUser where
  tenantId : Id
  userId : String
  displayName : Option String := none
  email : Option String := none

inductive RelationType
  | childOf
  | parentOf
  | other (name : String)
  deriving DecidableEq

structure EntityRelation where
  id : Id
  tenantId : Id
  fromInstanceId : Id
  toInstanceId : Id
  relationType : RelationType
  deletedAt : Option Time := none

/-! ## The outbox -/

structure TransitionedEvent where
  instanceId : Id
  entityTypeId : Id
  workflowId : Id
  fromState : String
  toState : String
  triggeredBy : TriggeredBy
  actorId : Option String
  occurredAt : Time
  transitionEventId : Option Id
  depth : Option Nat := none
  override : Bool := false

structure SlaScheduled where
  instanceId : Id
  workflowId : Id
  stateName : String
  slaHours : Nat
  fireAt : Time

/-- The payload of a `workflow.sla_breached` event. -/
structure SlaBreached where
  instanceId : Id
  entityTypeId : Id
  workflowId : Id
  state : String
  slaHours : Nat
  breachedAt : Time

inductive OutboxPayload
  | transitioned (event : TransitionedEvent)
  | slaScheduled (timer : SlaScheduled)
  | slaBreached (breach : SlaBreached)
  | record (eventType : String) (instanceId : Id) (body : Fields)

structure OutboxEvent where
  id : Id
  tenantId : Id
  payload : OutboxPayload
  createdAt : Time
  deliveredAt : Option Time := none

def OutboxPayload.eventType : OutboxPayload → String
  | transitioned _ => "workflow.transitioned"
  | slaScheduled _ => "workflow.sla_scheduled"
  | slaBreached _ => "workflow.sla_breached"
  | record eventType _ _ => eventType

def OutboxEvent.timer (row : OutboxEvent) : Option SlaScheduled :=
  match row.payload with
  | .slaScheduled timer => some timer
  | _ => none

/-! ## The store -/

structure Db where
  workflows : List Workflow := []
  workflowStates : List WorkflowState := []
  workflowTransitions : List WorkflowTransition := []
  workflowEvents : List WorkflowEvent := []
  entityFields : List EntityField := []
  entityInstances : List EntityInstance := []
  entityRelations : List EntityRelation := []
  outboxEvents : List OutboxEvent := []
  tenantUsers : List TenantUser := []

inductive TableName
  | workflows | workflowStates | workflowTransitions | workflowEvents | entityFields
  | entityInstances | entityRelations | outboxEvents
  deriving DecidableEq

inductive LockKey
  | row (table : TableName) (id : Id)
  | workflowEventKey (instanceId : Id) (idempotencyKey : String)
  deriving DecidableEq

namespace Tables

open Txn (Table)

@[simps]
def workflows : Table Db LockKey Workflow where
  rows db := db.workflows
  put db rows := { db with workflows := rows }
  key row := .row .workflows row.id
  rows_put _ _ := rfl

@[simps]
def workflowStates : Table Db LockKey WorkflowState where
  rows db := db.workflowStates
  put db rows := { db with workflowStates := rows }
  key row := .row .workflowStates row.id
  rows_put _ _ := rfl

@[simps]
def workflowTransitions : Table Db LockKey WorkflowTransition where
  rows db := db.workflowTransitions
  put db rows := { db with workflowTransitions := rows }
  key row := .row .workflowTransitions row.id
  rows_put _ _ := rfl

@[simps]
def workflowEvents : Table Db LockKey WorkflowEvent where
  rows db := db.workflowEvents
  put db rows := { db with workflowEvents := rows }
  key row := .row .workflowEvents row.id
  rows_put _ _ := rfl

@[simps]
def entityFields : Table Db LockKey EntityField where
  rows db := db.entityFields
  put db rows := { db with entityFields := rows }
  key row := .row .entityFields row.id
  rows_put _ _ := rfl

@[simps]
def entityInstances : Table Db LockKey EntityInstance where
  rows db := db.entityInstances
  put db rows := { db with entityInstances := rows }
  key row := .row .entityInstances row.id
  rows_put _ _ := rfl

@[simps]
def entityRelations : Table Db LockKey EntityRelation where
  rows db := db.entityRelations
  put db rows := { db with entityRelations := rows }
  key row := .row .entityRelations row.id
  rows_put _ _ := rfl

@[simps]
def outboxEvents : Table Db LockKey OutboxEvent where
  rows db := db.outboxEvents
  put db rows := { db with outboxEvents := rows }
  key row := .row .outboxEvents row.id
  rows_put _ _ := rfl

end Tables

end OpenWind
