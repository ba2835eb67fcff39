import OpenWind.Schema
import OpenWind.OrgDirectory.TreeBuilder

/-!
# Syncing the org directory

A sync pulls the directory of a tenant and rebuilds the tenant's rows in one
transaction: the root row, a row for each employee, their parents, and the removal
of the employees who have left.
-/

namespace OpenWind

open Txn

/-! ## The store -/

structure Tenant where
  id : Id
  name : String

structure OrgEmployee where
  id : Id
  tenantId : Id
  userId : Option String
  parentId : Option Id := none
  name : String
  title : String := ""
  department : String := ""
  email : String := ""
  isRoot : Bool := false
  createdAt : Time
  updatedAt : Time

inductive SyncStatus
  | running
  | completed
  | failed
  | alreadyRunning
  deriving DecidableEq

structure OrgDirectorySyncRun where
  id : Id
  tenantId : Id
  status : SyncStatus := .running
  completedAt : Option Time := none
  error : Option String := none
  employeeCount : Option Nat := none
  cyclesBroken : Option Nat := none
  reparented : Option Nat := none
  triggeredBy : Option String

structure OrgDb where
  tenants : List Tenant
  orgEmployees : List OrgEmployee
  syncRuns : List OrgDirectorySyncRun

/-- The rows and the unique index entries that statements lock. -/
inductive OrgKey
  | employee (id : Id)
  | user (tenantId : Id) (userId : String)
  | root (tenantId : Id)
  | syncRun (id : Id)
  deriving DecidableEq

inductive OrgError
  | tenantNotFound (tenantId : Id)
  | uniqueViolation
  | foreignKeyViolation

abbrev OrgTx (α : Type) := Prog OrgDb OrgKey OrgError α

@[simps]
def orgEmployees : Table OrgDb OrgKey OrgEmployee where
  rows db := db.orgEmployees
  put db rows := { db with orgEmployees := rows }
  key row := .employee row.id
  rows_put _ _ := rfl

@[simps]
def syncRuns : Table OrgDb OrgKey OrgDirectorySyncRun where
  rows db := db.syncRuns
  put db rows := { db with syncRuns := rows }
  key row := .syncRun row.id
  rows_put _ _ := rfl

/-- The identifiers that a sync gets for new rows. -/
structure OrgSupply where
  runId : Id
  rootId : Id
  employeeId : String → Id

/-! ## Rebuilding the tree -/

def OrgEmployee.isOf (tenantId : Id) (row : OrgEmployee) : Bool := row.tenantId == tenantId

def OrgEmployee.isUser (tenantId : Id) (userId : String) (row : OrgEmployee) : Bool :=
  row.tenantId == tenantId && row.userId == some userId

def OrgEmployee.isRootOf (tenantId : Id) (row : OrgEmployee) : Bool :=
  row.tenantId == tenantId && row.isRoot

def OrgEmployee.hasId (tenantId id : Id) (row : OrgEmployee) : Bool :=
  row.tenantId == tenantId && row.id == id

/-- The prior tree, by user ids. -/
def priorEmployees (rows : List OrgEmployee) : List PriorEmployee :=
  rows.filterMap fun row => row.userId.map fun userId =>
    { userId
      parentUserId := row.parentId.bind fun parentId =>
        (rows.find? fun other => other.id == parentId).bind (·.userId) }

def OrgEmployee.rename (name : String) (now : Time) (row : OrgEmployee) : OrgEmployee :=
  { row with name, updatedAt := now }

def ensureRoot (tenant : Tenant) (now : Time) (supply : OrgSupply) : OrgTx Id := do
  match ← orgEmployees.find (OrgEmployee.isRootOf tenant.id) with
  | some existingRoot =>
    orgEmployees.update (OrgEmployee.hasId tenant.id existingRoot.id)
      (OrgEmployee.rename tenant.name now)
    return existingRoot.id
  | none =>
    orgEmployees.insertUnique [.root tenant.id] (OrgEmployee.isRootOf tenant.id) .uniqueViolation
      { id := supply.rootId, tenantId := tenant.id, userId := none, name := tenant.name
        isRoot := true, createdAt := now, updatedAt := now }
    return supply.rootId

def OrgEmployee.refresh (employee : ResolvedEmployee) (now : Time) (row : OrgEmployee) :
    OrgEmployee :=
  { row with
    name := employee.name, title := employee.title, department := employee.department
    email := employee.email, updatedAt := now }

def upsertEmployee (tenantId : Id) (now : Time) (supply : OrgSupply) (employee : ResolvedEmployee) :
    OrgTx Id := do
  match ← orgEmployees.find (OrgEmployee.isUser tenantId employee.userId) with
  | some existing =>
    orgEmployees.update (OrgEmployee.hasId tenantId existing.id) (OrgEmployee.refresh employee now)
    return existing.id
  | none =>
    orgEmployees.insertUnique [.user tenantId employee.userId]
      (OrgEmployee.isUser tenantId employee.userId) .uniqueViolation
      { id := supply.employeeId employee.userId, tenantId, userId := some employee.userId
        name := employee.name, title := employee.title, department := employee.department
        email := employee.email, createdAt := now, updatedAt := now }
    return supply.employeeId employee.userId

/-- The entries of `idByUserId`. -/
def upsertEmployees (tenantId : Id) (now : Time) (supply : OrgSupply) :
    List ResolvedEmployee → OrgTx (List (String × Id))
  | [] => return []
  | employee :: rest => do
    let id ← upsertEmployee tenantId now supply employee
    let entries ← upsertEmployees tenantId now supply rest
    return (employee.userId, id) :: entries

def idOf (idByUserId : List (String × Id)) (userId : String) : Option Id :=
  (lastOfUser (·.1) idByUserId userId).map (·.2)

def OrgEmployee.setParent (parentId : Option Id) (row : OrgEmployee) : OrgEmployee :=
  { row with parentId }

def resolvedParentId (rootId : Id) (idByUserId : List (String × Id)) (employee : ResolvedEmployee) :
    Id :=
  match employee.parentUserId.filter fun userId => userId != "" with
  | none => rootId
  | some parentUserId => (idOf idByUserId parentUserId).getD rootId

/-- A parent has to be a row of the table. -/
def hasEmployee (id : Id) (db : OrgDb) : Bool := db.orgEmployees.any fun row => row.id == id

/-- The second pass, for one employee. -/
def placeEmployee (tenantId rootId : Id) (idByUserId : List (String × Id))
    (employee : ResolvedEmployee) : OrgTx Unit :=
  match idOf idByUserId employee.userId with
  | none => .ret ()
  | some ownId =>
    .writeChecked (fun view => ((view.orgEmployees.filter (OrgEmployee.hasId tenantId ownId)).map
        orgEmployees.key))
      (hasEmployee (resolvedParentId rootId idByUserId employee)) .foreignKeyViolation fun view =>
        orgEmployees.modify (orgEmployees.selected (OrgEmployee.hasId tenantId ownId) view)
          (OrgEmployee.setParent (some (resolvedParentId rootId idByUserId employee)))

def OrgEmployee.isRemoved (tenantId : Id) (removedUserIds : List String) (row : OrgEmployee) : Bool :=
  row.tenantId == tenantId && row.userId.any fun userId => removedUserIds.contains userId

def unreferenced (p : OrgEmployee → Bool) (db : OrgDb) : Bool :=
  db.orgEmployees.all fun row => p row || db.orgEmployees.all fun gone =>
    !(p gone && row.parentId == some gone.id)

def removeEmployees (tenantId : Id) (removedUserIds : List String) : OrgTx Unit :=
  if removedUserIds = [] then .ret ()
  else do
    orgEmployees.update (OrgEmployee.isRemoved tenantId removedUserIds) (OrgEmployee.setParent none)
    .writeChecked (fun view => (view.orgEmployees.filter
        (OrgEmployee.isRemoved tenantId removedUserIds)).map orgEmployees.key)
      (unreferenced (OrgEmployee.isRemoved tenantId removedUserIds)) .foreignKeyViolation fun view =>
        orgEmployees.remove
          (orgEmployees.selected (OrgEmployee.isRemoved tenantId removedUserIds) view)

/-- The transaction of a sync. -/
def rebuildTree (toLowerCase : String → String) (tenantId : Id) (fresh : List OrgSourceRecord)
    (now : Time) (supply : OrgSupply) : OrgTx OrgTreeBuildResult := do
  let found ← Prog.read fun db => db.tenants.find? fun tenant => tenant.id == tenantId
  let tenant ← Prog.getOr found (.tenantNotFound tenantId)
  let priorRows ← orgEmployees.filter (OrgEmployee.isOf tenantId)
  let built := buildOrgTree toLowerCase fresh (priorEmployees priorRows)
  let rootId ← ensureRoot tenant now supply
  let idByUserId ← upsertEmployees tenantId now supply built.employees
  Prog.forEach built.employees (placeEmployee tenantId rootId idByUserId)
  removeEmployees tenantId built.removedUserIds
  return built

/-! ## A sync -/

structure SyncEnv where
  acquired : Bool
  registered : Bool
  fetched : Option (List OrgSourceRecord)
  rebuilds : Bool
  completes : Bool
  marks : Bool
  toLowerCase : String → String
  now : Time
  supply : OrgSupply
  triggeredBy : Option String
  error : String

structure SyncResult where
  status : SyncStatus
  syncedAt : Option Time := none
  employeeCount : Nat := 0
  cyclesBroken : Nat := 0
  reparented : Nat := 0

def OrgDirectorySyncRun.reclaim (now : Time) (run : OrgDirectorySyncRun) : OrgDirectorySyncRun :=
  { run with
    status := .failed, completedAt := some now
    error := some "interrupted -- reclaimed by a new sync holding the tenant lock" }

def registerRun (tenantId : Id) (env : SyncEnv) (db : OrgDb) : OrgDb :=
  let reclaimed := syncRuns.modify (fun run => run.tenantId == tenantId && run.status == .running)
    (OrgDirectorySyncRun.reclaim env.now) db
  syncRuns.append [{ id := env.supply.runId, tenantId, triggeredBy := env.triggeredBy }] reclaimed

def markRun (tenantId : Id) (env : SyncEnv) (mark : OrgDirectorySyncRun → OrgDirectorySyncRun)
    (db : OrgDb) : OrgDb :=
  syncRuns.modify (fun run => run.tenantId == tenantId && run.id == env.supply.runId) mark db

def failRun (tenantId : Id) (env : SyncEnv) (db : OrgDb) : OrgDb :=
  if env.marks then
    markRun tenantId env (fun run =>
      { run with status := .failed, completedAt := some env.now, error := some env.error }) db
  else db

def completeRun (tenantId : Id) (env : SyncEnv) (plan : OrgTreeBuildResult) (db : OrgDb) : OrgDb :=
  markRun tenantId env (fun run =>
    { run with
      status := .completed, completedAt := some env.now
      employeeCount := some plan.employees.length, cyclesBroken := some plan.cyclesBroken
      reparented := some plan.reparented }) db

def runLockedSync (tenantId : Id) (env : SyncEnv) (db : OrgDb) : Option SyncResult × OrgDb :=
  if env.registered then
    let registered := registerRun tenantId env db
    match env.fetched with
    | none => (some { status := .failed }, failRun tenantId env registered)
    | some fresh =>
      if env.rebuilds then
        match (rebuildTree env.toLowerCase tenantId fresh env.now env.supply).exec registered with
        | .error _ => (some { status := .failed }, failRun tenantId env registered)
        | .ok (plan, rebuilt) =>
          if env.completes then
            (some {
              status := .completed, syncedAt := some env.now
              employeeCount := plan.employees.length, cyclesBroken := plan.cyclesBroken
              reparented := plan.reparented }, completeRun tenantId env plan rebuilt)
          else (some { status := .failed }, failRun tenantId env rebuilt)
      else (some { status := .failed }, failRun tenantId env registered)
  else (none, db)

def runOrgDirectorySync (tenantId : Id) (env : SyncEnv) (db : OrgDb) : Option SyncResult × OrgDb :=
  if env.acquired then runLockedSync tenantId env db
  else (some { status := .alreadyRunning }, db)

end OpenWind
