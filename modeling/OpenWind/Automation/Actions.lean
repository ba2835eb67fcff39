import OpenWind.Automation.Rules
import OpenWind.Entity.ChildRelations
import OpenWind.Lib.Attempt

/-!
# The actions of automation rules

An action works on the store in the transaction of its rule, and on Redis, which no
rollback undoes.  The actions that change records call the entity and the workflow engine,
by `engine`, which also notes the outbox rows that the call added.

What `notify`, `webhook` and `dispatch_severity_notification` do besides failing is not
modelled: they write notifications and call other systems.
-/

namespace OpenWind

open Txn

/-! ## The store -/

inductive RuleRunStatus
  | running | success | failed | degraded
  deriving DecidableEq

inductive AutomationError
  | automation (code : String) (details : Fields)
  | engine (error : TxError)
  /-- A statement or a call to another system that failed. -/
  | failed (message : String)

/-- A run of a rule; `depth` and `chain` are bookkeeping. -/
structure AutomationExecution where
  id : Id
  tenantId : Id
  ruleId : Id
  triggerEvent : TriggerEvent
  status : RuleRunStatus
  skippedActions : Option Nat := none
  error : Option AutomationError := none
  startedAt : Time
  completedAt : Option Time := none
  transitionEventId : Option Id
  depth : Nat
  chain : Nat

structure EntityTypeName where
  id : Id
  tenantId : Option Id
  name : String

structure Team where
  id : Id
  tenantId : Id
  name : String
  deletedAt : Option Time := none

structure DutySchedule where
  id : Id
  tenantId : Id
  teamId : Id
  startsAt : Time
  endsAt : Time
  primaryUserId : String
  backupUserId : Option String := none
  escalationManagerUserId : Option String := none
  deletedAt : Option Time := none

structure AuditEntry where
  tenantId : Id
  resourceId : Id
  action : String
  metadata : Fields
  outboxEventId : Option Id

structure BackupNotification where
  tenantId : Id
  ruleId : Id
  jobEventId : Id
  recipientId : String
  body : String
  link : Id
  deriving DecidableEq

structure Written where
  rowId : Id
  payload : OutboxPayload
  action : String
  depth : Nat
  chain : Nat

/-- `resolve_oncall` completed for a team that an event set on a record. -/
structure Resolution where
  outboxEventId : Option Id
  instanceId : Id
  deriving DecidableEq

/-- `written` and `resolutions` are bookkeeping. -/
structure AutomationStore where
  db : Db
  rules : List AutomationRule
  executions : List AutomationExecution := []
  entityTypes : List EntityTypeName := []
  teams : List Team := []
  schedules : List DutySchedule := []
  notifications : List BackupNotification := []
  auditLog : List AuditEntry := []
  written : List Written := []
  resolutions : List Resolution := []

/-! ## Redis -/

structure Circuit where
  tenantId : Id
  actionType : String
  failures : Nat
  expiresAt : Time

structure ResolveKey where
  instanceId : Id
  teamId : String
  expiresAt : Time

structure AutomationRedis where
  circuits : List Circuit := []
  resolveKeys : List ResolveKey := []
  coverageGaps : List (Id × String) := []

/-! ## Running an action -/

structure AutomationEnv where
  rules : FieldRules
  supply : Nat → EntitySupply
  now : Time
  computedFields : Db → Id → EntityInstance → Fields
  fallbackAssignee : Db → Id → Option Id → Option String
  valueText : Json → String
  toLowerCase : String → String
  idText : Id → String
  uuid : String → Option Id
  sideFailure : ActionConfig → TriggerEvent → Option String
  /-- The calls of the engine that fail by themselves. -/
  fails : Nat → Bool

structure ActionRun where
  env : AutomationEnv
  tenantId : Id
  ruleId : Id
  ruleName : String
  execId : Id
  event : TriggerEvent
  depth : Nat
  chain : Nat
  outboxEventId : Option Id

structure ActionPoint where
  store : AutomationStore
  redis : AutomationRedis
  calls : Nat
  run : ActionRun
  action : ActionConfig

structure AutomationState where
  store : AutomationStore
  redis : AutomationRedis
  calls : Nat := 0
  points : List ActionPoint := []

abbrev Auto : Type → Type := Attempt AutomationState AutomationError

def ActionRun.target (run : ActionRun) (instanceId : Option Id) : Id :=
  instanceId.getD run.event.instanceId

def Db.newOutbox (before after : Db) : List OutboxEvent :=
  after.outboxEvents.filter fun row => !before.outboxEvents.any fun old => old.id == row.id

def ActionRun.wrote (run : ActionRun) (action : String) (row : OutboxEvent) : Written :=
  ⟨row.id, row.payload, action, run.depth, run.chain⟩

/-- The store after a call of the engine. -/
def AutomationStore.after (store : AutomationStore) (run : ActionRun) (action : String) (db : Db) :
    AutomationStore :=
  { store with
    db
    written := store.written ++ (store.db.newOutbox db).map (run.wrote action) }

def engine {α : Type} (run : ActionRun) (action : String) (call : EntitySupply → Tx α) : Auto α :=
  fun s =>
    let next := { s with calls := s.calls + 1 }
    if run.env.fails s.calls then (.error (.failed "database"), next)
    else
      match (call (run.env.supply s.calls)).exec s.store.db with
      | .ok (a, db) => (.ok a, { next with store := s.store.after run action db })
      | .error e => (.error (.engine e), next)

def readStore {α : Type} (f : AutomationStore → α) : Auto α := .get fun s => f s.store

def modifyStore (f : AutomationStore → AutomationStore) : Auto Unit :=
  .modify fun s => { s with store := f s.store }

def modifyRedis (f : AutomationRedis → AutomationRedis) : Auto Unit :=
  .modify fun s => { s with redis := f s.redis }

/-! ## The values of a new ticket -/

def TicketTemplate.DAY_MS : Nat := 24 * 60 * 60 * 1000

def DEFAULT_AUTOMATION_DUE_DAYS : Nat := 3

structure ResolvedTicketValues where
  title : String
  dueDate : Time
  remark : String
  severity : String
  assignedTo : Option String
  teamId : Option String

def nonBlank (v : Option String) : Option String := v.filter fun s => trim s != ""

def Json.asText : Json → Option String
  | .str s => some s
  | _ => none

def TicketTemplate.dueDays (t : TicketTemplate) : Nat :=
  match t.due_days with
  | some days => if isCount days then days.num.toNat else DEFAULT_AUTOMATION_DUE_DAYS
  | none => DEFAULT_AUTOMATION_DUE_DAYS

def Db.isTenantMember (db : Db) (tenantId : Id) (userId : String) : Bool :=
  db.tenantUsers.any fun user => user.tenantId == tenantId && user.userId == userId

structure TicketValuesInput where
  template : Option TicketTemplate
  ruleName : String
  fieldsTitle : Option Json
  defaultTitle : String
  legacyAssignee : Option String
  workflowId : Option Id
  now : Time

def resolveTicketValues (env : AutomationEnv) (db : Db) (tenantId : Id)
    (input : TicketValuesInput) : ResolvedTicketValues :=
  let t := input.template.getD {}
  let teamId := nonBlank t.teamId
  let assignee := (nonBlank t.assignedTo).or (nonBlank input.legacyAssignee)
  { title := ((nonBlank t.title).or (nonBlank (input.fieldsTitle.bind Json.asText))).getD
      input.defaultTitle
    dueDate := input.now + t.dueDays * TicketTemplate.DAY_MS
    remark := (nonBlank t.remark).getD ("Created by automation: " ++ input.ruleName)
    severity := t.severity.getD "medium"
    teamId
    assignedTo :=
      if teamId.isSome then none
      else (assignee.filter (db.isTenantMember tenantId)).or
        ((env.fallbackAssignee db tenantId input.workflowId).filter fun user => user != "") }

/-! ## The actions on records -/

def executeSetFieldAction (run : ActionRun) (instanceId : Option Id) (field : String)
    (value : Json) : Auto Unit := do
  let _ ← engine run "set_field" fun supply =>
    updateEntity run.env.rules run.tenantId (run.target instanceId)
      { fields := some [(field, value)], depth := some run.depth } supply
  return ()

def executeAssignAction (run : ActionRun) (instanceId : Option Id) (assigneeId : String) :
    Auto Unit := do
  let _ ← engine run "assign" fun supply =>
    updateEntity run.env.rules run.tenantId (run.target instanceId)
      { assignedTo := some (some assigneeId), depth := some run.depth } supply
  return ()

def Db.workflowOfType (db : Db) (tenantId entityTypeId : Id) : Option Id :=
  let active := db.workflows.filter fun w => w.entityTypeId == entityTypeId && w.isActive
  ((active.find? fun w => w.tenantId == some tenantId).or
    (active.find? fun w => w.tenantId == none)).map (·.id)

def createEntityInput (run : ActionRun) (db : Db) (now : Time) (entityTypeId : Id) (fields : Fields)
    (assignedTo : Option String) (template : Option TicketTemplate) : CreateEntityInput :=
  match db.workflowOfType run.tenantId entityTypeId with
  | none => { entityTypeId, fields, assignedTo, depth := some run.depth }
  | some workflowId =>
    let values := resolveTicketValues run.env db run.tenantId
      { template
        ruleName := run.ruleName
        fieldsTitle := fields.get "title"
        defaultTitle := run.ruleName
        legacyAssignee := assignedTo
        workflowId := some workflowId
        now }
    { entityTypeId
      fields := fields.set "title" (.str values.title)
      dueDate := some values.dueDate
      remark := some values.remark
      severity := some values.severity
      assignedTo := values.assignedTo
      teamId := values.teamId.bind run.env.uuid
      depth := some run.depth }

def executeCreateEntityAction (run : ActionRun) (entityTypeId : Id) (fields : Option Fields)
    (assignedTo : Option String) (template : Option TicketTemplate) : Auto Unit := do
  let db ← readStore (·.db)
  let _ ← engine run "create_entity" fun supply =>
    createEntity run.env.rules run.tenantId
      (createEntityInput run db supply.now entityTypeId (fields.getD []) assignedTo template) supply
  return ()

/-! ## Creating a child -/

def isWordChar (c : Char) : Bool := c.isAlphanum || c == '_'

def placeholder : List Char → Option (List Char × List Char)
  | '{' :: '{' :: rest =>
    let (name, after) := (rest.dropWhile isSpace).span isWordChar
    match name, after.dropWhile isSpace with
    | [], _ => none
    | name, '}' :: '}' :: rest => some (name, rest)
    | _, _ => none
  | _ => none

def replacePlaceholders (value : String → String) : Nat → List Char → List Char
  | 0, text => text
  | _ + 1, [] => []
  | length + 1, c :: text =>
    match placeholder (c :: text) with
    | some (name, rest) =>
      (value (String.ofList name)).toList ++ replacePlaceholders value length rest
    | none => c :: replacePlaceholders value length text

/-- An unmatched or missing field becomes an empty text. -/
def interpolateTemplate (valueText : Json → String) (template : String) (fields : Fields) :
    String :=
  let value name :=
    match fields.get name with
    | none => ""
    | some .null => ""
    | some value => valueText value
  String.ofList (replacePlaceholders value template.toList.length template.toList)

def getEntity (env : AutomationEnv) (db : Db) (tenantId instanceId : Id) :
    Except TxError EntityInstance :=
  match db.entityInstances.find? (EntityInstance.isLive tenantId instanceId) with
  | none => .error (.entity .entityNotFound [("instanceId", .id instanceId)])
  | some row => .ok { row with fields := env.computedFields db tenantId row }

def CreateChildConfig.writtenBack (config : CreateChildConfig) (parent : EntityInstance) : Bool :=
  match config.writeBackField.filter (· != "") with
  | none => false
  | some field => !Json.blank (parent.fields.get field)

/-- The fields of the child, but for its title. -/
def CreateChildConfig.childFields (config : CreateChildConfig) (env : AutomationEnv)
    (parent : EntityInstance) : Fields :=
  match config.descriptionTemplate.filter (· != "") with
  | none => config.fields.getD []
  | some template =>
    Fields.set (config.fields.getD []) (config.descriptionField.getD "description")
      (.str (interpolateTemplate env.valueText template parent.fields))

def childTitle (ruleName : String) (parent : EntityInstance) : String :=
  match (parent.fields.get "title").bind Json.asText with
  | none => ruleName
  | some title => if title == "" then ruleName else ruleName ++ ": " ++ title

def createChildInput (run : ActionRun) (db : Db) (now : Time) (config : CreateChildConfig)
    (parent : EntityInstance) : CreateChildRelationInput :=
  let childFields := config.childFields run.env parent
  let values := resolveTicketValues run.env db run.tenantId
    { template := config.template
      ruleName := run.ruleName
      fieldsTitle := childFields.get "title"
      defaultTitle := childTitle run.ruleName parent
      legacyAssignee := config.assignToUserId
      workflowId := parent.workflowId
      now }
  { parentId := run.event.instanceId
    childFields := childFields.set "title" (.str values.title)
    entityTypeId := config.entityTypeId.getD parent.entityTypeId
    dueDate := some values.dueDate
    remark := some values.remark
    severity := some values.severity
    assignedTo := values.assignedTo
    teamId := values.teamId.bind run.env.uuid }

def writeBackInput (run : ActionRun) (field : String) (childId : Id) : UpdateEntityInput :=
  { fields := some [(field, .str childId.text)], depth := some run.depth }

/-- Write the child's identifier to the parent. -/
def writeBack (run : ActionRun) (config : CreateChildConfig) (childId : Id) : Auto Unit :=
  match config.writeBackField.filter (· != "") with
  | none => return ()
  | some field => do
    let _ ← engine run "create_child" fun supply =>
      updateEntity run.env.rules run.tenantId run.event.instanceId
        (writeBackInput run field childId) supply
    return ()

def executeCreateChildAction (run : ActionRun) (config : CreateChildConfig) : Auto Unit := do
  let db ← readStore (·.db)
  match getEntity run.env db run.tenantId run.event.instanceId with
  | .error e => Attempt.throw (.engine e)
  | .ok parent =>
    if config.writtenBack parent then return ()
    else do
      let child ← engine run "create_child" fun supply =>
        createChildRelation run.env.rules run.tenantId
          (createChildInput run db supply.now config parent) supply
      writeBack run config child.id

end OpenWind
