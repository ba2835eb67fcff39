import OpenWind.OnCall.Rotation
import Mathlib.Data.List.MinMax
import Mathlib.Data.List.Sort

/-!
# The on-call roster generator

The store holds the rows of one tenant.  `toISOString` is that of dates.
-/

namespace OpenWind

structure RosterTeam where
  id : Id
  deletedAt : Option Time := none

structure TeamMember where
  teamId : Id
  userId : String
  position : Nat

inductive RotationStatus
  | active
  | stopped
  deriving DecidableEq

/-- The table keeps the length of a cycle within its range. -/
structure OnCallRotation where
  id : Id
  teamId : Id
  cycleDays : Nat
  status : RotationStatus := .active
  endsOn : Option Nat := none
  blockedReason : Option String := none
  nextStartsAt : Time
  lastPrimaryUserId : String
  lastBackupUserId : Option String
  escalationManagerUserId : Option String
  createdBy : String
  cycle : ROTATION_MIN_CYCLE_DAYS ≤ cycleDays ∧ cycleDays ≤ ROTATION_MAX_CYCLE_DAYS

structure OnCallSchedule where
  teamId : Id
  rotationId : Option Id
  label : String
  startsAt : Time
  endsAt : Time
  primaryUserId : String
  backupUserId : Option String
  escalationManagerUserId : Option String
  createdBy : String
  deletedAt : Option Time := none

structure RosterDb where
  teams : List RosterTeam
  teamMembers : List TeamMember
  rotations : List OnCallRotation
  schedules : List OnCallSchedule

/-! ## What a plan starts from -/

/-- A team's members in rotation order. -/
def loadTeamMemberIds (db : RosterDb) (teamId : Id) : List String :=
  ((db.teamMembers.filter fun row => row.teamId == teamId).insertionSort
    fun row row' => row.position ≤ row'.position).map (·.userId)

def OnCallSchedule.isLiveOf (rotationId : Id) (row : OnCallSchedule) : Bool :=
  row.rotationId == some rotationId && row.deletedAt.isNone

/-- The rotation's latest window that still exists. -/
def latestWindow (db : RosterDb) (rotationId : Id) : Option OnCallSchedule :=
  (db.schedules.filter (OnCallSchedule.isLiveOf rotationId)).argmax (·.startsAt)

def loadPreviousHolders (db : RosterDb) (rotation : OnCallRotation) : RotationHolders :=
  match latestWindow db rotation.id with
  | some latest => ⟨some latest.primaryUserId, latest.backupUserId⟩
  | none => ⟨some rotation.lastPrimaryUserId, rotation.lastBackupUserId⟩

def OnCallRotation.settings (rotation : OnCallRotation) (db : RosterDb) (now : Time) :
    PlanSettings where
  members := loadTeamMemberIds db rotation.teamId
  cycleDays := rotation.cycleDays
  escalationManager := rotation.escalationManagerUserId
  now
  endsOn := rotation.endsOn

def planFor (db : RosterDb) (rotation : OnCallRotation) (now : Time) : PlanWindowsResult :=
  planWindows {
    rotation.settings db now with
    nextStartsAt := rotation.nextStartsAt, previous := loadPreviousHolders db rotation }

/-! ## Generating windows -/

def TEAM_DELETED_REASON : String :=
  "The team was deleted, so this roster cannot make new windows. Stop it."

def NO_MEMBERS_REASON : String :=
  "This team has no members, so no further windows can be made"

def utcStamp (toISOString : Time → String) (d : Time) : String :=
  String.ofList (((toISOString d).toList.take 16).map fun c => if c = 'T' then ' ' else c) ++ " UTC"

def clashWith (db : RosterDb) (teamId : Id) (w : GeneratedWindow) : Option OnCallSchedule :=
  db.schedules.find? fun row => row.teamId == teamId && row.deletedAt.isNone &&
    decide (row.startsAt < w.endsAt) && decide (w.startsAt < row.endsAt)

def overlapReason (toISOString : Time → String) (w : GeneratedWindow) (clash : OnCallSchedule) :
    String :=
  "The window \"" ++ clash.label ++ "\" (" ++ utcStamp toISOString clash.startsAt ++ " to " ++
    utcStamp toISOString clash.endsAt ++ ") overlaps the next window, which would start " ++
    utcStamp toISOString w.startsAt ++ ". Remove or move it to resume."

def untilClash (toISOString : Time → String) (db : RosterDb) (teamId : Id) :
    List GeneratedWindow → List GeneratedWindow × Option String
  | [] => ([], none)
  | w :: rest =>
    match clashWith db teamId w with
    | some clash => ([], some (overlapReason toISOString w clash))
    | none =>
      let (toCreate, reason) := untilClash toISOString db teamId rest
      (w :: toCreate, reason)

def OnCallRotation.scheduleOf (rotation : OnCallRotation) (toISOString : Time → String)
    (w : GeneratedWindow) : OnCallSchedule where
  teamId := rotation.teamId
  rotationId := some rotation.id
  label := "Rotation " ++ String.ofList ((toISOString w.startsAt).toList.take 10)
  startsAt := w.startsAt
  endsAt := w.endsAt
  primaryUserId := w.primary
  backupUserId := w.backup
  escalationManagerUserId := w.escalationManager
  createdBy := rotation.createdBy

def insertWindow (toISOString : Time → String) (rotation : OnCallRotation)
    (schedules : List OnCallSchedule) (w : GeneratedWindow) : List OnCallSchedule :=
  if schedules.any fun row => row.rotationId == some rotation.id && row.startsAt == w.startsAt then
    schedules
  else schedules ++ [rotation.scheduleOf toISOString w]

def cursorAfter (rotation : OnCallRotation) (plan : PlanWindowsResult)
    (toCreate : List GeneratedWindow) (blocked : Bool) : PlanCursor :=
  if blocked then
    match toCreate.getLast? with
    | some last => ⟨last.endsAt, some last.primary, last.backup⟩
    | none =>
      ⟨rotation.nextStartsAt, some rotation.lastPrimaryUserId, rotation.lastBackupUserId⟩
  else plan.cursor

def blockedReasonAfter (rotation : OnCallRotation) (plan : PlanWindowsResult)
    (overlap : Option String) : Option String :=
  if plan.stoppedBy = some .noMembers then some NO_MEMBERS_REASON
  else if overlap.isSome then overlap
  else if 0 < plan.windows.length + plan.skippedEnded then none
  else rotation.blockedReason

def OnCallRotation.moveTo (rotation : OnCallRotation) (cursor : PlanCursor)
    (blockedReason : Option String) : OnCallRotation :=
  { rotation with
    nextStartsAt := cursor.nextStartsAt
    lastPrimaryUserId := cursor.lastPrimary.getD rotation.lastPrimaryUserId
    lastBackupUserId := cursor.lastBackup
    blockedReason }

def RosterDb.updateRotation (db : RosterDb) (rotationId : Id)
    (f : OnCallRotation → OnCallRotation) : RosterDb :=
  { db with rotations := db.rotations.map fun row => if row.id == rotationId then f row else row }

def OnCallRotation.isActive (rotationId : Id) (row : OnCallRotation) : Bool :=
  row.id == rotationId && row.status == .active

def RosterDb.activeRotation (db : RosterDb) (rotationId : Id) : Option OnCallRotation :=
  db.rotations.find? (OnCallRotation.isActive rotationId)

def RosterDb.hasTeam (db : RosterDb) (teamId : Id) : Bool :=
  db.teams.any fun team => team.id == teamId && team.deletedAt.isNone

structure GenerationResult where
  windowsCreated : Nat
  blocked : Bool
  capped : Bool

def GenerationResult.idle : GenerationResult := ⟨0, false, false⟩

def generateForRotation (toISOString : Time → String) (rotationId : Id) (now : Time)
    (lockedElsewhere : Bool) (db : RosterDb) : RosterDb × GenerationResult :=
  match db.activeRotation rotationId with
  | none => (db, .idle)
  | some rotation =>
    if lockedElsewhere then (db, .idle)
    else if db.hasTeam rotation.teamId then
      let plan := planFor db rotation now
      let (toCreate, overlap) := untilClash toISOString db rotation.teamId plan.windows
      let schedules := toCreate.foldl (insertWindow toISOString rotation) db.schedules
      let cursor := cursorAfter rotation plan toCreate overlap.isSome
      let blockedReason := blockedReasonAfter rotation plan overlap
      ({ db with schedules }.updateRotation rotationId fun row => row.moveTo cursor blockedReason, {
        windowsCreated := schedules.length - db.schedules.length
        blocked := blockedReason.isSome
        capped := plan.capped })
    else
      (db.updateRotation rotationId fun row => { row with blockedReason := some TEAM_DELETED_REASON },
        .idle)

/-! ## Starting a roster -/

/-- A window that is to repeat. -/
structure CreateSchedule where
  teamId : Id
  label : String
  startsAt : Time
  endsAt : Time
  primaryUserId : String
  backupUserId : Option String
  escalationManagerUserId : Option String
  cycleDays : Nat
  window : startsAt < endsAt
  cycle : ROTATION_MIN_CYCLE_DAYS ≤ cycleDays ∧ cycleDays ≤ ROTATION_MAX_CYCLE_DAYS

/-- The rotation that repeats the window. -/
def CreateSchedule.rotation (input : CreateSchedule) (rotationId : Id) (userId : String) :
    OnCallRotation where
  id := rotationId
  teamId := input.teamId
  cycleDays := input.cycleDays
  nextStartsAt := input.endsAt
  lastPrimaryUserId := input.primaryUserId
  lastBackupUserId := input.backupUserId
  escalationManagerUserId := input.escalationManagerUserId
  createdBy := userId
  cycle := input.cycle

def CreateSchedule.schedule (input : CreateSchedule) (rotationId : Id) (userId : String) :
    OnCallSchedule where
  teamId := input.teamId
  rotationId := some rotationId
  label := input.label
  startsAt := input.startsAt
  endsAt := input.endsAt
  primaryUserId := input.primaryUserId
  backupUserId := input.backupUserId
  escalationManagerUserId := input.escalationManagerUserId
  createdBy := userId

def createRepeating (input : CreateSchedule) (rotationId : Id) (userId : String) (db : RosterDb) :
    Option RosterDb :=
  if loadTeamMemberIds db input.teamId = [] then none
  else if db.rotations.any (fun row => row.teamId == input.teamId && row.status == .active) then none
  else some {
    db with
    rotations := db.rotations ++ [input.rotation rotationId userId]
    schedules := db.schedules ++ [input.schedule rotationId userId] }

/-! ## Ticks -/

structure RosterTick where
  rotationId : Id
  now : Time
  lockedElsewhere : Bool := false

structure RosterState where
  db : RosterDb
  ticked : Id → Option Time := fun _ => none
  made : List (Time × OnCallSchedule) := []

def RosterState.step (toISOString : Time → String) (w : RosterState) (tick : RosterTick) :
    Option RosterState :=
  if (w.ticked tick.rotationId).all fun last => decide (last ≤ tick.now) then
    let db := (generateForRotation toISOString tick.rotationId tick.now tick.lockedElsewhere w.db).1
    some {
      db
      ticked := if tick.lockedElsewhere then w.ticked
        else Function.update w.ticked tick.rotationId (some tick.now)
      made := w.made ++ (db.schedules.drop w.db.schedules.length).map fun row => (tick.now, row) }
  else none

end OpenWind
