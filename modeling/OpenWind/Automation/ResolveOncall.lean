import OpenWind.Automation.Actions
import OpenWind.Workflow.Notes

/-!
# Assigning a ticket to whom its team has on call

`resolve_oncall` runs on the events that set a record's team.  It claims a key of the record
and the team in Redis, so that an event which is delivered again finds the key held, and
assigns the record to the first of the schedule's primary, backup and escalation manager
who is a user of the tenant, else to the creator of the workflow.  Each outcome writes one
entry to the audit log.
-/

namespace OpenWind

open Txn

/-! ## What the event says -/

structure TeamChange where
  teamId : String
  explicitAssignee : Bool
  deriving DecidableEq

def teamText (env : AutomationEnv) : Json → Option String
  | .str s => if s == "" then none else some s
  | .num n => if isCount n then some (env.idText n.num.toNat) else none
  | _ => none

/-- The team that an update sets. -/
def TriggerEvent.updatedTeam (env : AutomationEnv) (event : TriggerEvent) : Option TeamChange :=
  match event.get "changed" with
  | some (.obj changed) =>
    match Fields.get changed "team_id" with
    | some (.obj change) =>
      ((Fields.get change "new").bind (teamText env)).map fun teamId =>
        ⟨teamId, (Fields.get changed "assignedTo").isSome⟩
    | _ => none
  | _ => none

def TriggerEvent.createdTeam (env : AutomationEnv) (db : Db) (tenantId instanceId : Id)
    (event : TriggerEvent) : Option TeamChange :=
  match event.get "fields" with
  | some (.obj fields) =>
    ((Fields.get fields "team_id").bind (teamText env)).map fun teamId =>
      ⟨teamId, (db.entityInstances.find? (EntityInstance.isLive tenantId instanceId)).any
        fun row => (row.assignedTo.filter (· != "")).isSome⟩
  | _ => none

def TriggerEvent.teamChange (env : AutomationEnv) (db : Db) (tenantId instanceId : Id)
    (event : TriggerEvent) : Option TeamChange :=
  if event.eventType == "entity.updated" then event.updatedTeam env
  else if event.eventType == "entity.created" then event.createdTeam env db tenantId instanceId
  else none

/-! ## Who is on call -/

def DutySchedule.isActive (tenantId teamId : Id) (now : Time) (row : DutySchedule) : Bool :=
  row.tenantId == tenantId && row.teamId == teamId && row.deletedAt.isNone &&
    decide (row.startsAt ≤ now ∧ now < row.endsAt)

def getActiveScheduleForTeam (store : AutomationStore) (tenantId teamId : Id) (now : Time) :
    Option DutySchedule :=
  store.schedules.find? (DutySchedule.isActive tenantId teamId now)

def resolveOncallCascade (db : Db) (tenantId : Id) (schedule : DutySchedule) :
    Option (String × String) :=
  ([("primary", some schedule.primaryUserId), ("backup", schedule.backupUserId),
      ("escalation", schedule.escalationManagerUserId)].filterMap fun tier =>
    tier.2.map fun userId => (tier.1, userId)).find? fun tier =>
      tier.2 != "" && db.isTenantMember tenantId tier.2

def resolveWorkflowAdminFallback (db : Db) (tenantId entityTypeId : Id) : Option String :=
  ((db.workflows.find? fun w =>
    w.entityTypeId == entityTypeId && w.tenantId == some tenantId).bind (·.createdBy)).filter
      fun userId => userId != ""

/-! ## Writing an outcome -/

def postOncallComment (tenantId : Id) (row : EntityInstance) (text : String)
    (supply : EntitySupply) : Tx Unit :=
  match row.workflowId with
  | none => return ()
  | some workflowId => do
    insertNote tenantId row.id ⟨workflowId, row.currentState⟩
      ⟨.system, some "system",
        [("type", .str "comment"), ("text", .str text), ("actorName", .str "System")]⟩
      supply.startedAt (supply.id 0)
    Tx.insertOutbox [outboxRow tenantId
      (.record "comment.created" row.id
        [("actorId", .str "system"), ("commentId", .id (supply.id 0))])
      supply.startedAt (supply.id 0)]

def writeAuditEntry (run : ActionRun) (instanceId : Id) (action : String) (metadata : Fields) :
    Auto Unit :=
  modifyStore fun store =>
    { store with
      auditLog := store.auditLog ++ [⟨run.tenantId, instanceId, action, metadata,
        run.outboxEventId⟩] }

def commentOn (run : ActionRun) (row : Option EntityInstance) (text : String) : Auto Unit :=
  match row with
  | none => return ()
  | some row =>
    engine run "resolve_oncall" fun supply => postOncallComment run.tenantId row text supply

def assignOncall (run : ActionRun) (instanceId : Id) (userId : String) : Auto Unit := do
  let _ ← engine run "resolve_oncall" fun supply =>
    updateEntity run.env.rules run.tenantId instanceId
      { assignedTo := some (some userId), depth := some run.depth } supply
  return ()

def getInstanceContext (run : ActionRun) (instanceId : Id) : Auto (Option EntityInstance) :=
  readStore fun store =>
    store.db.entityInstances.find? (EntityInstance.isLive run.tenantId instanceId)

/-- `oncall:coverage_gap:{tenantId}`. -/
def setCoverageGap (run : ActionRun) (teamId : String) (gap : Bool) : Auto Unit :=
  modifyRedis fun redis =>
    let rest := redis.coverageGaps.filter fun entry => entry != (run.tenantId, teamId)
    { redis with coverageGaps := if gap then rest ++ [(run.tenantId, teamId)] else rest }

structure OncallCase where
  instanceId : Id
  teamId : String
  teamName : String

def handleCascadeMiss (run : ActionRun) (ticket : OncallCase) (scheduleId : Option Id)
    (cascadeExhausted : Bool) : Auto Unit := do
  let ctx ← getInstanceContext run ticket.instanceId
  let db ← readStore (·.db)
  let metadata : Fields := [("teamId", .str ticket.teamId)] ++
    scheduleId.toList.map (fun id => ("scheduleId", .id id)) ++
    [("cascadeExhausted", .bool cascadeExhausted)]
  match ctx.bind fun row => resolveWorkflowAdminFallback db run.tenantId row.entityTypeId with
  | some adminUserId =>
    assignOncall run ticket.instanceId adminUserId
    writeAuditEntry run ticket.instanceId "oncall.auto_assigned" (metadata ++
      [("assignedTier", .str "workflow_admin"), ("assignedUserId", .str adminUserId)])
    setCoverageGap run ticket.teamId false
    commentOn run ctx ("No primary/backup/escalation coverage found for team " ++
      ticket.teamName ++ " — auto-assigned to workflow admin.")
  | none =>
    writeAuditEntry run ticket.instanceId "oncall.no_schedule" metadata
    setCoverageGap run ticket.teamId true
    commentOn run ctx ("No on-call coverage configured for team " ++ ticket.teamName ++
      ", and no workflow admin could be resolved — ticket left unassigned.")

def notifyBackup (run : ActionRun) (ticket : OncallCase) (schedule : DutySchedule)
    (tier : String) : Auto Unit :=
  match schedule.backupUserId.filter fun userId => userId != "" && tier != "backup" with
  | none => return ()
  | some backup =>
    let note : BackupNotification :=
      ⟨run.tenantId, run.ruleId, run.outboxEventId.getD run.execId, backup,
        "Ticket assigned to the on-call " ++ tier ++ " for your team.", ticket.instanceId⟩
    let known (other : BackupNotification) : Bool :=
      other.tenantId == note.tenantId && other.ruleId == note.ruleId &&
        other.jobEventId == note.jobEventId && other.recipientId == note.recipientId
    modifyStore fun store =>
      if store.notifications.any known then store
      else { store with notifications := store.notifications ++ [note] }

def assignFromSchedule (run : ActionRun) (ticket : OncallCase) (schedule : DutySchedule)
    (tier userId : String) : Auto Unit := do
  assignOncall run ticket.instanceId userId
  writeAuditEntry run ticket.instanceId "oncall.auto_assigned"
    [("teamId", .str ticket.teamId), ("scheduleId", .id schedule.id),
      ("primaryUserId", .str schedule.primaryUserId),
      ("backupUserId", .optStr schedule.backupUserId), ("assignedTier", .str tier),
      ("assignedUserId", .str userId)]
  setCoverageGap run ticket.teamId false
  let ctx ← getInstanceContext run ticket.instanceId
  commentOn run ctx
    ("Auto-assigned to the on-call " ++ tier ++ " for team " ++ ticket.teamName ++ ".")
  notifyBackup run ticket schedule tier

/-! ## The action -/

def resolveKeyMs : Nat := 86400 * 1000

def ResolveKey.holds (instanceId : Id) (teamId : String) (now : Time) (key : ResolveKey) : Bool :=
  key.instanceId == instanceId && key.teamId == teamId && decide (now < key.expiresAt)

/-- The key of the record and the team is held. -/
def AutomationRedis.hasResolveKey (redis : AutomationRedis) (instanceId : Id) (teamId : String)
    (now : Time) : Bool :=
  redis.resolveKeys.any (ResolveKey.holds instanceId teamId now)

def claimResolveKey (run : ActionRun) (instanceId : Id) (teamId : String) : Auto Bool := do
  let held ← Attempt.get fun s => s.redis.hasResolveKey instanceId teamId run.env.now
  if held then return false
  else do
    modifyRedis fun redis =>
      { redis with
        resolveKeys := redis.resolveKeys ++ [⟨instanceId, teamId, run.env.now + resolveKeyMs⟩] }
    return true

def findTeam (run : ActionRun) (teamId : String) : Auto (Option Team) := do
  let id ← Attempt.getOr (run.env.uuid teamId) (.failed "invalid input syntax for type uuid")
  readStore fun store => store.teams.find? fun team =>
    team.id == id && team.tenantId == run.tenantId && team.deletedAt.isNone

/-- What follows the claim of the key. -/
def resolveTicket (run : ActionRun) (ticket : OncallCase) (team : Team) (explicitAssignee : Bool) :
    Auto Unit := do
  if explicitAssignee then
    writeAuditEntry run ticket.instanceId "oncall.skipped_explicit_assignee"
      [("teamId", .str ticket.teamId)]
  else do
    let schedule ← readStore fun store =>
      getActiveScheduleForTeam store run.tenantId team.id run.env.now
    match schedule with
    | none => handleCascadeMiss run ticket none false
    | some schedule =>
      let resolved ← readStore fun store => resolveOncallCascade store.db run.tenantId schedule
      match resolved with
      | none => handleCascadeMiss run ticket (some schedule.id) true
      | some (tier, userId) => assignFromSchedule run ticket schedule tier userId

/-- A key that is held already leaves everything as it is. -/
def resolveClaimed (run : ActionRun) (ticket : OncallCase) (team : Team)
    (explicitAssignee claimed : Bool) : Auto Unit :=
  if claimed then resolveTicket run ticket team explicitAssignee else return ()

def noteResolution (run : ActionRun) (instanceId : Id) : Auto Unit :=
  modifyStore fun store =>
    { store with resolutions := store.resolutions ++ [⟨run.outboxEventId, instanceId⟩] }

def executeResolveOncallAction (run : ActionRun) (instanceId : Option Id) : Auto Unit := do
  let target := run.target instanceId
  let change ← readStore fun store =>
    run.event.teamChange run.env store.db run.tenantId target
  match change with
  | none => return ()
  | some change =>
    match ← findTeam run change.teamId with
    | none => return ()
    | some team =>
      let claimed ← claimResolveKey run target change.teamId
      resolveClaimed run ⟨target, change.teamId, team.name⟩ team change.explicitAssignee claimed
      noteResolution run target

end OpenWind
