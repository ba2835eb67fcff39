import OpenWind.Errors
import OpenWind.Workflow.Conditions
import Mathlib.Data.Rat.Init

/-!
# Automation rules and the events that trigger them

A rule names the type of event that triggers it, a scope and a condition on the event,
and the actions to run.  The events are outbox rows; the worker parses their payloads.
-/

namespace OpenWind

/-! ## Rules -/

/-- The values that a rule gives the tickets it creates. -/
structure TicketTemplate where
  title : Option String := none
  due_days : Option Rat := none
  remark : Option String := none
  severity : Option String := none
  assignedTo : Option String := none
  teamId : Option String := none

structure CreateChildConfig where
  entityTypeId : Option Id := none
  assignToUserId : Option String := none
  descriptionTemplate : Option String := none
  descriptionField : Option String := none
  fields : Option Fields := none
  writeBackField : Option String := none
  template : Option TicketTemplate := none

inductive ActionConfig
  | notify (config : Fields)
  | setField (instanceId : Option Id) (field : String) (value : Json)
  | transition (instanceId : Option Id) (transitionId : Id) (comment : Option String)
  | webhook (config : Fields)
  | assign (instanceId : Option Id) (assigneeId : String)
  | createEntity (entityTypeId : Id) (fields : Option Fields) (assignedTo : Option String)
    (template : Option TicketTemplate)
  | createChild (config : CreateChildConfig)
  | connectorAction (config : Fields)
  | resolveOncall (instanceId : Option Id)
  | dispatchSeverityNotification (instanceId : Option Id)
  | unknown (type : String)

def ActionConfig.type : ActionConfig → String
  | notify _ => "notify"
  | setField _ _ _ => "set_field"
  | transition _ _ _ => "transition"
  | webhook _ => "webhook"
  | assign _ _ => "assign"
  | createEntity _ _ _ _ => "create_entity"
  | createChild _ => "create_child"
  | connectorAction _ => "connector.action"
  | resolveOncall _ => "resolve_oncall"
  | dispatchSeverityNotification _ => "dispatch_severity_notification"
  | unknown type => type

structure AutomationRule where
  id : Id
  tenantId : Id
  name : String := ""
  isEnabled : Bool := true
  triggerType : String
  triggerConfig : Option Fields := none
  conditions : Option TransitionConditionTree := none
  actions : List ActionConfig
  priority : Int := 0
  createdAt : Time := 0

/-! ## Payloads -/

def TriggeredBy.text : TriggeredBy → String
  | user => "user"
  | automation => "automation"
  | api => "api"
  | system => "system"

namespace OutboxPayload

def instanceId : OutboxPayload → Id
  | transitioned event => event.instanceId
  | slaScheduled timer => timer.instanceId
  | slaBreached breach => breach.instanceId
  | record _ instanceId _ => instanceId

def body : OutboxPayload → Fields
  | transitioned event =>
    [("entityTypeId", .id event.entityTypeId), ("workflowId", .id event.workflowId),
      ("fromState", .str event.fromState), ("toState", .str event.toState),
      ("triggeredBy", .str event.triggeredBy.text), ("actorId", .optStr event.actorId),
      ("occurredAt", .num event.occurredAt)] ++
    event.transitionEventId.toList.map (fun id => ("transitionEventId", .id id)) ++
    event.depth.toList.map (fun depth => ("depth", .num depth)) ++
    if event.override then [("override", .bool true)] else []
  | slaScheduled timer =>
    [("workflowId", .id timer.workflowId), ("stateName", .str timer.stateName),
      ("slaHours", .num timer.slaHours), ("fireAt", .num timer.fireAt)]
  | slaBreached breach =>
    [("entityTypeId", .id breach.entityTypeId), ("workflowId", .id breach.workflowId),
      ("state", .str breach.state), ("slaHours", .num breach.slaHours),
      ("breachedAt", .num breach.breachedAt)]
  | record _ _ body => body

end OutboxPayload

/-! ## Parsing -/

inductive PropertyType
  | guid
  | userId
  | userIdOrNull
  | text
  | time
  | positive
  | flag
  /-- An integer that is not negative. -/
  | count
  | object
  /-- An object of objects. -/
  | changes
  deriving DecidableEq

/-- The number is an integer that is not negative. -/
def isCount (n : Rat) : Bool := n.den == 1 && decide (0 ≤ n.num)

def isUserId (s : String) : Bool := decide (1 ≤ textLength s ∧ textLength s ≤ 255)

def PropertyType.accepts : PropertyType → Json → Bool
  | guid, .num n => isCount n
  | userId, .str s => isUserId s
  | userIdOrNull, .null => true
  | userIdOrNull, .str s => isUserId s
  | text, .str _ => true
  | time, .num n => isCount n
  | positive, .num n => decide (0 < n)
  | flag, .bool _ => true
  | count, .num n => isCount n
  | object, .obj _ => true
  | changes, .obj entries => entries.all fun entry =>
      match entry.2 with
      | .obj _ => true
      | _ => false
  | _, _ => false

structure Property where
  name : String
  type : PropertyType
  optional : Bool := false

def Property.accepts (p : Property) (body : Fields) : Bool :=
  match body.get p.name with
  | none => p.optional
  | some value => p.type.accepts value

def triggerSchema (eventType : String) : Option (List Property) :=
  match eventType with
  | "workflow.transitioned" => some
      [⟨"entityTypeId", .guid, false⟩, ⟨"workflowId", .guid, false⟩, ⟨"fromState", .text, false⟩,
        ⟨"toState", .text, false⟩, ⟨"triggeredBy", .text, false⟩,
        ⟨"actorId", .userIdOrNull, false⟩, ⟨"occurredAt", .time, false⟩,
        ⟨"override", .flag, true⟩, ⟨"transitionEventId", .guid, true⟩]
  | "workflow.sla_breached" => some
      [⟨"entityTypeId", .guid, false⟩, ⟨"workflowId", .guid, false⟩, ⟨"state", .text, false⟩,
        ⟨"slaHours", .positive, false⟩, ⟨"breachedAt", .time, false⟩]
  | "entity.created" => some
      [⟨"entityTypeId", .guid, false⟩, ⟨"fields", .object, false⟩,
        ⟨"createdBy", .userIdOrNull, false⟩]
  | "entity.assigned" => some
      [⟨"entityTypeId", .guid, false⟩, ⟨"assigneeId", .userId, false⟩,
        ⟨"assignedBy", .userIdOrNull, false⟩]
  | "entity.unassigned" => some
      [⟨"entityTypeId", .guid, false⟩, ⟨"previousAssigneeId", .userId, false⟩,
        ⟨"actorId", .userIdOrNull, false⟩]
  | "entity.updated" => some
      [⟨"entityTypeId", .guid, true⟩, ⟨"actorId", .userIdOrNull, false⟩,
        ⟨"changed", .changes, true⟩]
  | "entity.due_date_overdue" => some
      [⟨"entityTypeId", .guid, false⟩, ⟨"dueDate", .time, false⟩, ⟨"overdueAt", .time, false⟩]
  | _ => none

/-- The poller delivers the rows of the type. -/
def OutboxPayload.isTrigger (payload : OutboxPayload) : Bool :=
  (triggerSchema payload.eventType).isSome

def depthProperty : Property := ⟨"depth", .count, true⟩

structure TriggerEvent where
  eventType : String
  instanceId : Id
  properties : Fields

def TriggerEvent.get (event : TriggerEvent) (name : String) : Option Json :=
  event.properties.get name

def OutboxPayload.trigger (payload : OutboxPayload) : Option TriggerEvent :=
  (triggerSchema payload.eventType).bind fun schema =>
    if (depthProperty :: schema).all fun p => p.accepts payload.body then
      some ⟨payload.eventType, payload.instanceId,
        schema.filterMap fun p => (payload.body.get p.name).map fun value => (p.name, value)⟩
    else none

/-- A depth that is missing or malformed is 0. -/
def readDepth (payload : OutboxPayload) : Nat :=
  match payload.body.get "depth" with
  | some (.num n) => if isCount n then n.num.toNat else 0
  | _ => 0

def readTransitionEventId (payload : OutboxPayload) : Option Id :=
  match payload.body.get "transitionEventId" with
  | some (.num n) => if isCount n then some n.num.toNat else none
  | _ => none

/-! ## Matching -/

def TriggerEvent.fields (event : TriggerEvent) : Fields :=
  let own := ("eventType", .str event.eventType) :: ("instanceId", .id event.instanceId) ::
    event.properties.filter fun entry => !(["fields", "transitionEventId"].contains entry.1)
  match event.get "fields" with
  | some (.obj fields) => fields.foldl (fun all entry => all.set entry.1 entry.2) own
  | _ => own

def scopeKeys (eventType : String) : Option (List String) :=
  match eventType with
  | "workflow.transitioned" => some ["workflowId", "fromState", "toState", "entityTypeId"]
  | "workflow.sla_breached" => some ["workflowId", "state", "entityTypeId"]
  | "entity.created" => some ["entityTypeId"]
  | "entity.assigned" => some ["entityTypeId"]
  | "entity.unassigned" => some ["entityTypeId"]
  | "entity.updated" => some ["entityTypeId"]
  | "entity.due_date_overdue" => some ["entityTypeId"]
  | _ => none

def idKeys : List String := ["workflowId", "entityTypeId"]

def scopeValueMatches (toLowerCase : String → String) (key : String) (expected : Json)
    (actual : Option Json) : Bool :=
  match actual with
  | none => false
  | some actual =>
    match expected, actual with
    | .str a, .str b =>
      if idKeys.contains key then toLowerCase a == toLowerCase b else a == b
    | _, _ => expected.strictEq actual

def scopeKeyMatches (toLowerCase : String → String) (config : Fields) (event : TriggerEvent)
    (key : String) : Bool :=
  match config.get key with
  | none => true
  | some expected =>
    Json.blank (some expected) || scopeValueMatches toLowerCase key expected (event.get key)

def scopeFieldMatches (config : Fields) (event : TriggerEvent) : Bool :=
  if event.eventType != "entity.updated" || Json.blank (config.get "field") then true
  else
    match config.get "field", event.get "changed" with
    | some (.str field), some (.obj changed) => (Fields.get changed field).isSome
    | _, _ => false

def scopeNameMatches (toLowerCase : String → String) (typeName : Json → Option String)
    (config : Fields) (event : TriggerEvent) : Bool :=
  if Json.blank (config.get "entityType") then true
  else
    match event.get "entityTypeId" with
    | none => false
    | some entityTypeId =>
      match config.get "entityType", typeName entityTypeId with
      | some (.str expected), some actual => toLowerCase actual == toLowerCase expected
      | _, _ => false

def ruleInScope (toLowerCase : String → String) (typeName : Json → Option String)
    (config : Option Fields) (event : TriggerEvent) : Bool :=
  match config with
  | none => true
  | some config =>
    match scopeKeys event.eventType with
    | none => true
    | some keys =>
      keys.all (scopeKeyMatches toLowerCase config event) && scopeFieldMatches config event &&
        scopeNameMatches toLowerCase typeName config event

end OpenWind
