import OpenWind.Automation.ResolveOncall
import OpenWind.Lib.Runs
import Mathlib.Data.List.Sort

/-!
# The automation executor and its worker

`executeAutomationRules` runs the rules that an event triggers, in order.  A rule runs its
actions under a savepoint and records how they ended.  A transition action follows up on its
own transition at once, one level deeper; at `MAX_DEPTH` nothing runs.  The worker runs the
rules of an outbox row in one transaction, from the depth that its payload carries.
-/

namespace OpenWind

open Txn

/-! ## Circuit breakers -/

def circuitThreshold : Nat := 5

def circuitTtlMs : Nat := 300 * 1000

def Circuit.isOf (tenantId : Id) (actionType : String) (circuit : Circuit) : Bool :=
  circuit.tenantId == tenantId && circuit.actionType == actionType

def AutomationRedis.failures (redis : AutomationRedis) (tenantId : Id) (actionType : String)
    (now : Time) : Nat :=
  match redis.circuits.find? (Circuit.isOf tenantId actionType) with
  | some circuit => if now < circuit.expiresAt then circuit.failures else 0
  | none => 0

def AutomationRedis.isOpen (redis : AutomationRedis) (tenantId : Id) (actionType : String)
    (now : Time) : Bool :=
  decide (circuitThreshold ≤ redis.failures tenantId actionType now)

/-- The counter is deleted. -/
def AutomationRedis.reset (redis : AutomationRedis) (tenantId : Id) (actionType : String) :
    AutomationRedis :=
  { redis with
    circuits := redis.circuits.filter fun circuit => !circuit.isOf tenantId actionType }

def AutomationRedis.recordFailure (redis : AutomationRedis) (tenantId : Id) (actionType : String)
    (now : Time) : AutomationRedis :=
  let expiresAt :=
    match redis.circuits.find? (Circuit.isOf tenantId actionType) with
    | some circuit => if now < circuit.expiresAt then circuit.expiresAt else now + circuitTtlMs
    | none => now + circuitTtlMs
  let failures := redis.failures tenantId actionType now + 1
  { redis.reset tenantId actionType with
    circuits := (redis.reset tenantId actionType).circuits ++
      [⟨tenantId, actionType, failures, expiresAt⟩] }

/-! ## Actions -/

abbrev FollowUp : Type := OutboxPayload → Option Id → Auto Unit

def EntitySupply.transition (supply : EntitySupply) : Supply where
  startedAt := supply.startedAt
  now := supply.now
  eventId := supply.id 0
  transitionEventId := supply.id 1
  outboxId := supply.id 2
  timerId := supply.id 3

/-- The event of a transition that an action made. -/
def followUpEvent (instanceId entityTypeId : Id) (result : EventResult) : OutboxPayload :=
  .transitioned
    { instanceId
      entityTypeId
      workflowId := result.workflowId
      fromState := result.fromState.getD ""
      toState := result.toState
      triggeredBy := .automation
      actorId := none
      occurredAt := result.createdAt
      transitionEventId := none }

def executeTransitionAction (run : ActionRun) (instanceId : Option Id) (transitionId : Id)
    (comment : Option String) (followUp : FollowUp) : Auto Unit := do
  let target := run.target instanceId
  let result ← engine run "transition" fun supply =>
    executeTransition run.tenantId
      { instanceId := target
        transitionId
        triggeredBy := some .automation
        depth := some run.depth
        comment } supply.transition
  let row ← readStore fun store =>
    store.db.entityInstances.find? (EntityInstance.isOf run.tenantId target)
  match row with
  | none => return ()
  | some row =>
    followUp (followUpEvent target row.entityTypeId result) (some result.transitionEventId)

/-- An action whose effects are not modelled. -/
def sideAction (run : ActionRun) (action : ActionConfig) : Auto Unit :=
  match run.env.sideFailure action run.event with
  | some message => Attempt.throw (.failed message)
  | none => return ()

def performAction (followUp : FollowUp) (run : ActionRun) : ActionConfig → Auto Unit
  | .setField instanceId field value => executeSetFieldAction run instanceId field value
  | .assign instanceId assigneeId => executeAssignAction run instanceId assigneeId
  | .createEntity entityTypeId fields assignedTo template =>
    executeCreateEntityAction run entityTypeId fields assignedTo template
  | .createChild config => executeCreateChildAction run config
  | .transition instanceId transitionId comment =>
    executeTransitionAction run instanceId transitionId comment followUp
  | .resolveOncall instanceId => executeResolveOncallAction run instanceId
  | .connectorAction _ => return ()
  | .unknown type =>
    Attempt.throw (.automation "UNKNOWN_ACTION_TYPE" [("actionType", .str type)])
  | action => sideAction run action

def notePoint (run : ActionRun) (action : ActionConfig) : Auto Unit :=
  .modify fun s => { s with points := s.points ++ [⟨s.store, s.redis, s.calls, run, action⟩] }

def settleCircuit (run : ActionRun) (action : ActionConfig) (ended : Except AutomationError Unit) :
    Auto Unit :=
  match ended with
  | .ok _ => modifyRedis fun redis => redis.reset run.tenantId action.type
  | .error e => do
    modifyRedis fun redis => redis.recordFailure run.tenantId action.type run.env.now
    Attempt.throw e

def ActionPoint.skipped (p : ActionPoint) : Bool :=
  p.redis.isOpen p.run.tenantId p.action.type p.run.env.now

def runAction (followUp : FollowUp) (run : ActionRun) (action : ActionConfig) : Auto Bool := do
  notePoint run action
  let skipped ← Attempt.get fun s => s.redis.isOpen run.tenantId action.type run.env.now
  if skipped then return true
  else do
    -- The state that a failure leaves goes on to the handler.
    let ended ← Attempt.savepoint (fun _ after => after) (performAction followUp run action)
    settleCircuit run action ended
    return false

def runActions (followUp : FollowUp) (run : ActionRun) : List ActionConfig → Auto Nat
  | [] => return 0
  | action :: rest => do
    let skipped ← runAction followUp run action
    let count ← runActions followUp run rest
    return count + skipped.toNat

/-! ## Rules -/

/-- The rules of an event, in order. -/
def AutomationStore.rulesFor (store : AutomationStore) (tenantId : Id) (eventType : String) :
    List AutomationRule :=
  (store.rules.filter fun rule =>
    rule.tenantId == tenantId && rule.triggerType == eventType && rule.isEnabled).insertionSort
      fun a b => a.priority < b.priority ∨ (a.priority = b.priority ∧ a.createdAt ≤ b.createdAt)

def AutomationStore.typeName (store : AutomationStore) (tenantId : Id) (entityTypeId : Json) :
    Option String :=
  (store.entityTypes.find? fun row =>
    entityTypeId.strictEq (.id row.id) &&
      (row.tenantId == some tenantId || row.tenantId == none)).map (·.name)

def AutomationStore.ruleApplies (store : AutomationStore) (env : AutomationEnv) (tenantId : Id)
    (event : TriggerEvent) (rule : AutomationRule) : Bool :=
  ruleInScope env.toLowerCase (store.typeName tenantId) rule.triggerConfig event &&
    evaluateConditionTree rule.conditions event.fields ⟨none, none, none⟩

def AutomationStore.hasSuccess (store : AutomationStore) (tenantId ruleId transitionEventId : Id) :
    Bool :=
  store.executions.any fun row =>
    row.tenantId == tenantId && row.ruleId == ruleId &&
      row.transitionEventId == some transitionEventId && row.status == .success

structure EventRun where
  env : AutomationEnv
  tenantId : Id
  event : TriggerEvent
  depth : Nat
  chain : Nat
  outboxEventId : Option Id
  transitionEventId : Option Id

def EventRun.execution (run : EventRun) (ruleId execId : Id) : AutomationExecution where
  id := execId
  tenantId := run.tenantId
  ruleId := ruleId
  triggerEvent := run.event
  status := .running
  startedAt := run.env.now
  transitionEventId := run.transitionEventId
  depth := run.depth
  chain := run.chain

def EventRun.action (run : EventRun) (rule : AutomationRule) (execId : Id) : ActionRun :=
  ⟨run.env, run.tenantId, rule.id, rule.name, execId, run.event, run.depth, run.chain,
    run.outboxEventId⟩

def insertExecution (run : EventRun) (ruleId : Id) : Auto Id := fun s =>
  let execId := (run.env.supply s.calls).id 0
  let next := { s with calls := s.calls + 1 }
  if run.env.fails s.calls || s.store.executions.any fun row => row.id == execId then
    (.error (.failed "automation_executions"), next)
  else
    (.ok execId,
      { next with
        store := { s.store with
          executions := s.store.executions ++ [run.execution ruleId execId] } })

/-- How a rule's run ended. -/
def AutomationExecution.complete (ended : Except AutomationError Nat) (now : Time)
    (row : AutomationExecution) : AutomationExecution :=
  match ended with
  | .ok 0 => { row with status := .success, completedAt := some now }
  | .ok (n + 1) =>
    { row with status := .degraded, skippedActions := some (n + 1), completedAt := some now }
  | .error e => { row with status := .failed, error := some e, completedAt := some now }

def updateExecution (run : EventRun) (execId : Id) (ended : Except AutomationError Nat) :
    Auto Unit :=
  modifyStore fun store =>
    { store with
      executions := store.executions.map fun row =>
        if row.id == execId then row.complete ended run.env.now else row }

def rollBack (before after : AutomationState) : AutomationState :=
  { after with store := before.store }

def runRule (followUp : FollowUp) (run : EventRun) (rule : AutomationRule) : Auto Unit := do
  let execId ← insertExecution run rule.id
  let ended ← Attempt.savepoint rollBack (runActions followUp (run.action rule execId) rule.actions)
  updateExecution run execId ended

def ruleTurn (followUp : FollowUp) (run : EventRun) (rule : AutomationRule) : Auto Unit := do
  let applies ← readStore fun store => store.ruleApplies run.env run.tenantId run.event rule
  let done ← readStore fun store =>
    run.transitionEventId.any (store.hasSuccess run.tenantId rule.id)
  if applies && !done then runRule followUp run rule else return ()

def MAX_DEPTH : Nat := 10

def executeRules (env : AutomationEnv) (tenantId : Id) (outboxEventId : Option Id) :
    Nat → (depth chain : Nat) → FollowUp
  | 0, depth, _, _, _ =>
    Attempt.throw (.automation "MAX_DEPTH_EXCEEDED" [("depth", .num depth)])
  | remaining + 1, depth, chain, rawEvent, transitionEventId => do
    let event ← Attempt.getOr rawEvent.trigger (.automation "INVALID_EVENT_PAYLOAD" [])
    let rules ← readStore fun store => store.rulesFor tenantId event.eventType
    let run : EventRun := ⟨env, tenantId, event, depth, chain, outboxEventId, transitionEventId⟩
    Attempt.forEach rules
      (ruleTurn (executeRules env tenantId outboxEventId remaining (depth + 1) (chain + 1)) run)

def executeAutomationRules (env : AutomationEnv) (tenantId : Id) (outboxEventId : Option Id)
    (depth chain : Nat) : FollowUp :=
  executeRules env tenantId outboxEventId (MAX_DEPTH - depth) depth chain

/-! ## The worker -/

/-- The store and Redis, between deliveries. -/
structure AutomationSystem where
  store : AutomationStore
  redis : AutomationRedis := {}

/-- The chain of rule runs that ends in an outbox row. -/
def AutomationStore.chainOf (store : AutomationStore) (rowId : Id) : Nat :=
  match store.written.find? fun row => row.rowId == rowId with
  | some row => row.chain
  | none => 0

def automationJob (env : AutomationEnv) (store : AutomationStore) (row : OutboxEvent) : Auto Unit :=
  executeAutomationRules env row.tenantId (some row.id) (readDepth row.payload)
    (store.chainOf row.id + 1) row.payload (readTransitionEventId row.payload)

def AutomationStore.job (store : AutomationStore) (rowId : Id) : Option OutboxEvent :=
  store.db.outboxEvents.find? fun row => row.id == rowId && row.payload.isTrigger

def AutomationSystem.runJob (s : AutomationSystem) (env : AutomationEnv) (row : OutboxEvent) :
    Except AutomationError Unit × AutomationState :=
  automationJob env s.store row ⟨s.store, s.redis, 0, []⟩

def AutomationSystem.deliver (s : AutomationSystem) (env : AutomationEnv) (commits : Bool)
    (row : OutboxEvent) : AutomationSystem :=
  match s.runJob env row with
  | (.ok _, after) => ⟨if commits then after.store else s.store, after.redis⟩
  | (.error _, after) => ⟨s.store, after.redis⟩

/-- The rows are under new identifiers. -/
def Db.freshRows (db : Db) (rows : List OutboxEvent) : Bool := Tables.outboxEvents.fresh rows db

inductive AutomationLabel
  | deliver (rowId : Id) (env : AutomationEnv) (commits : Bool)
  /-- Whatever else writes the store: it puts the tables in another state, appends rows to
  the outbox and marks rows as delivered. -/
  | others (next : AutomationStore) (delivered : List Id) (at_ : Time) (rows : List OutboxEvent)

def AutomationStore.afterOthers (store next : AutomationStore) (delivered : List Id) (at_ : Time)
    (rows : List OutboxEvent) : AutomationStore :=
  { next with
    executions := store.executions
    written := store.written
    auditLog := store.auditLog
    resolutions := store.resolutions
    db := { next.db with
      outboxEvents := (store.db.outboxEvents ++ rows).map fun row =>
        if delivered.contains row.id then row.deliver at_ else row } }

theorem AutomationStore.job_some {store : AutomationStore} {rowId : Id} {row : OutboxEvent}
    (found : store.job rowId = some row) :
    row ∈ store.db.outboxEvents ∧ row.id = rowId ∧ row.payload.isTrigger := by
  have selected := List.find?_some found
  obtain ⟨named, trigger⟩ := Bool.and_eq_true_iff.mp selected
  exact ⟨List.mem_of_find?_eq_some found, eq_of_beq named, trigger⟩

def AutomationSystem.step (s : AutomationSystem) : AutomationLabel → Option AutomationSystem
  | .deliver rowId env commits => (s.store.job rowId).map (s.deliver env commits)
  | .others next delivered at_ rows =>
    if s.store.db.freshRows rows then
      some { s with store := s.store.afterOthers next delivered at_ rows }
    else none

end OpenWind
