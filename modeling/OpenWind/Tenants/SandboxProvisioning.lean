import OpenWind.Lib.Attempt
import Mathlib.Data.List.Dedup

/-!
# The provisioning of a sandbox

A job creates an organisation at the identity provider, a tenant with its accounts, modules and
directory, and keeps the credentials for the handover.  When any of its calls raises, it deletes
the organisation and the tenant again.
-/

open List Option

namespace OpenWind

inductive CallEnd
  | answered
  | refused
  /-- It took effect, and then raised. -/
  | unanswered
deriving DecidableEq

def CallEnd.took : CallEnd → Bool
  | .refused => false
  | _ => true

def CallEnd.raises : CallEnd → Bool
  | .answered => false
  | _ => true

theorem CallEnd.took_of_answered {e : CallEnd} (answered : e.raises = false) : e.took := by
  cases e with
  | answered => rfl
  | refused => cases answered
  | unanswered => rfl

inductive TenantTable
  | orgDirectorySyncRuns | orgEmployees | scheduleExecutions | savedViews
  | notificationRecipients | notifications | ticketLabels | labels | entityInstanceTags
  | ticketAlerts | accessRequests | attachments | files | scheduleRules | notificationPolicies
  | onCallScheduleNotices | onCallSchedules | onCallRotations | services | teamMembers | teams
  | workflowTransitions | workflowStates | workflowEvents | workflows | entityRelations
  | entityInstances | entityFields | entityTypes | automationExecutions | automationRules
  | deadLetterEvents | outboxEvents | connectorDeliveryAttempts | connectorCredentials | apiKeys
  | tenantUsers | viewConfigs | pluginErrors | installedPlugins | idempotencyKeys
deriving DecidableEq

def TenantTable.referencesTenants : TenantTable → Bool
  | .orgDirectorySyncRuns | .orgEmployees | .scheduleExecutions | .notificationRecipients
  | .notifications | .ticketLabels | .labels | .entityInstanceTags | .ticketAlerts
  | .accessRequests | .scheduleRules | .notificationPolicies | .onCallScheduleNotices
  | .onCallSchedules | .onCallRotations | .services | .teamMembers | .teams
  | .connectorDeliveryAttempts | .pluginErrors | .installedPlugins => true
  | _ => false

structure ZitadelOrg where
  orgId : String
  name : String
deriving DecidableEq

structure SandboxAccountTemplate where
  givenName : String
  familyName : String
  emailLocalPart : String

structure SandboxOrgTemplate where
  admin : SandboxAccountTemplate
  members : List SandboxAccountTemplate

structure SandboxAccount where
  userId : String
  username : String
  email : String
  password : String

inductive SandboxRole
  | admin | user
deriving DecidableEq

/-- An account as the handover shows it. -/
structure SandboxSeededAccount where
  username : String
  email : String
  role : SandboxRole
  password : String

structure SandboxMember where
  userId : String
  email : String
  displayName : String

inductive ProvisioningStatus
  | pending | running | completed | failed
deriving DecidableEq

structure SandboxProvisioningJobRow where
  resultTenantId : Option String
  status : ProvisioningStatus
  currentStep : Option String
  completedSteps : Nat
  totalSteps : Nat
  zitadelOrgId : Option String
  error : Option String
  rolledBack : Option Bool

structure SandboxProvisioningJobPayload where
  orgName : String
  trialDays : Nat
  requestedBy : String

structure SandboxTenant where
  id : String
  name : String
  zitadelOrgId : String
  trialDays : Nat
  createdByPlatformAdmin : String

structure ProvisioningState where
  orgs : List ZitadelOrg
  tenant : Option SandboxTenant
  rows : List TenantTable
  handover : Option (List SandboxSeededAccount)
  job : SandboxProvisioningJobRow
  zitadelOrgId : Option String
  tenantInserted : Bool

def ProvisioningState.start : ProvisioningState :=
  ⟨[], none, [], none, ⟨none, .pending, none, 0, 0, none, none, none⟩, none, false⟩

/-- Nothing that the job created is left. -/
def ProvisioningState.NoFootprint (s : ProvisioningState) : Prop :=
  s.orgs = [] ∧ s.tenant = none ∧ s.rows = [] ∧ s.handover = none

/-- The writes of the job's progress. -/
inductive ProgressWrite
  | creatingOrg | grantingAccess | creatingTenant
  | creatingAccounts (done : Nat)
  | seedingModules | syncingDirectory | completed | failed | clearResult | rolledBack
deriving DecidableEq

inductive CreateOrgAnswer
  | created (orgId : String)
  | conflict
  | failed
  | unanswered (orgId : String)

def CreateOrgAnswer.isCreated : CreateOrgAnswer → Bool
  | .created _ => true
  | _ => false

def CreateOrgAnswer.isUnanswered : CreateOrgAnswer → Bool
  | .unanswered _ => true
  | _ => false

inductive CreateUserAnswer
  | created (userId : String)
  | conflict
  | failed

structure RowsWritten where
  rows : List TenantTable
  raises : Bool

inductive SyncAnswer
  | alreadyRunning
  | notStarted
  /-- Its run was recorded, and it wrote that many employees. -/
  | started (employees : Nat) (raises : Bool)

/-- The answers of what is outside the job. -/
structure ProvisioningChances where
  tenantId : String
  template : SandboxOrgTemplate
  emailDomain : String
  progress : ProgressWrite → CallEnd
  /-- By attempt, as the random suffix of a further attempt. -/
  orgSuffix : Nat → String
  createOrg : Nat → CreateOrgAnswer
  grantProjectToOrg : Bool
  insertTenant : CallEnd
  /-- By position of the account, and attempt. -/
  emailSuffix : Nat → Nat → String
  password : Nat → String
  createHumanUser : Nat → Nat → CreateUserAnswer
  authorizeUser : Nat → Bool
  registerTenantMembers : CallEnd
  installCoreModules : RowsWritten
  seedAllModulesData : RowsWritten
  runOrgDirectorySync : SyncAnswer
  storeHandover : CallEnd
  auditCompleted : CallEnd
  /-- Raising counts as `false`. -/
  deleteOrg : Bool
  deleteTenant : CallEnd

abbrev Provisioning : Type → Type := Attempt ProvisioningState String

namespace ProvisioningChances

variable (c : ProvisioningChances)

def call (e : CallEnd) (error : String) (f : ProvisioningState → ProvisioningState) :
    Provisioning Unit := fun s =>
  (if e.raises then .error error else .ok (), if e.took then f s else s)

def updateJobProgress (w : ProgressWrite)
    (patch : SandboxProvisioningJobRow → SandboxProvisioningJobRow) : Provisioning Unit :=
  call (c.progress w) "PROGRESS_WRITE_FAILED" fun s => { s with job := patch s.job }

def MAX_NAME_CONFLICT_ATTEMPTS : Nat := 5

def MAX_ACCOUNT_CONFLICT_ATTEMPTS : Nat := 5

def createOrgFrom (baseName : String) : (left attempt : Nat) → Provisioning (Option ZitadelOrg)
  | 0, _ => pure none
  | left + 1, attempt => do
    let name := if attempt = 0 then baseName else baseName ++ "-" ++ c.orgSuffix attempt
    match c.createOrg attempt with
    | .created orgId =>
      Attempt.modify fun s => { s with orgs := s.orgs ++ [⟨orgId, name⟩] }
      pure (some ⟨orgId, name⟩)
    | .unanswered orgId =>
      Attempt.modify fun s => { s with orgs := s.orgs ++ [⟨orgId, name⟩] }
      pure none
    | .conflict => createOrgFrom baseName left (attempt + 1)
    | .failed => pure none

def createOrgWithRetry (baseName : String) : Provisioning (Option ZitadelOrg) :=
  c.createOrgFrom baseName MAX_NAME_CONFLICT_ATTEMPTS 0

def nextEmailCandidate (template : SandboxAccountTemplate) (position attempt : Nat) : String :=
  if attempt = 0 then template.emailLocalPart ++ "@" ++ c.emailDomain
  else template.emailLocalPart ++ c.emailSuffix position attempt ++ "@" ++ c.emailDomain

def createAccountFrom (template : SandboxAccountTemplate) (position : Nat) :
    (left attempt : Nat) → Option SandboxAccount
  | 0, _ => none
  | left + 1, attempt =>
    let email := c.nextEmailCandidate template position attempt
    match c.createHumanUser position attempt with
    | .created userId =>
      some ⟨userId, String.ofList (email.toList.takeWhile (· ≠ '@')), email, c.password position⟩
    | .conflict => createAccountFrom template position left (attempt + 1)
    | .failed => none

def createAccountWithRetry (template : SandboxAccountTemplate) (position : Nat) :
    Option SandboxAccount :=
  c.createAccountFrom template position MAX_ACCOUNT_CONFLICT_ATTEMPTS 0

def createMembers (total : Nat) : List SandboxAccountTemplate → (position : Nat) →
    Provisioning (List (SandboxSeededAccount × SandboxMember))
  | [], _ => pure []
  | member :: rest, position => do
    let seeded := match c.createAccountWithRetry member position with
      | some account =>
        if c.authorizeUser position then
          [(⟨account.username, account.email, .user, account.password⟩,
            ⟨account.userId, account.email, member.givenName ++ " " ++ member.familyName⟩)]
        else []
      | none => []
    c.updateJobProgress (.creatingAccounts position) fun row =>
      { row with
        currentStep := some s!"creating accounts ({position + 1}/{total + 1})"
        completedSteps := 2 + position }
    let others ← createMembers total rest (position + 1)
    pure (seeded ++ others)

/-- A failure is logged only. -/
def registerMembers (members : List SandboxMember) : Provisioning Unit := do
  let _ ← Attempt.caught (call c.registerTenantMembers "INSERT_FAILED" fun s =>
    { s with
      rows := s.rows ++ (members.map SandboxMember.userId).dedup.map fun _ => .tenantUsers }
    : Provisioning Unit)
  pure ()

def writeRows (w : RowsWritten) : Provisioning Unit :=
  fun s => (if w.raises then .error "RAISED" else .ok (), { s with rows := s.rows ++ w.rows })

def syncWritten : SyncAnswer → RowsWritten
  | .alreadyRunning => ⟨[], false⟩
  | .notStarted => ⟨[], true⟩
  | .started employees raises =>
    ⟨.orgDirectorySyncRuns :: replicate employees .orgEmployees, raises⟩

/-- A failure is logged only. -/
def storeSandboxHandoverCredentials (seededAccounts : List SandboxSeededAccount) :
    Provisioning Unit := do
  let _ ← Attempt.caught (call c.storeHandover "REDIS_FAILED" fun s =>
    { s with handover := some seededAccounts } : Provisioning Unit)
  pure ()

/-! ## The job -/

def totalSteps : Nat := c.template.members.length + 5

def provisionOrg (payload : SandboxProvisioningJobPayload) : Provisioning ZitadelOrg := do
  c.updateJobProgress .creatingOrg fun row =>
    { row with
      status := .running, currentStep := some "creating_org", totalSteps := c.totalSteps
      completedSteps := 0 }
  let org ← (← c.createOrgWithRetry payload.orgName).elim
    (Attempt.throw "SANDBOX_ORG_CREATE_FAILED") pure
  Attempt.modify fun s => { s with zitadelOrgId := some org.orgId }
  c.updateJobProgress .grantingAccess fun row =>
    { row with currentStep := some "granting_access" }
  if c.grantProjectToOrg then
    c.updateJobProgress .creatingTenant fun row =>
      { row with currentStep := some "creating_tenant", completedSteps := 1 }
    pure org
  else Attempt.throw "SANDBOX_PROJECT_GRANT_FAILED"

def provisionAccounts (payload : SandboxProvisioningJobPayload) (org : ZitadelOrg) :
    Provisioning (List (SandboxSeededAccount × SandboxMember)) := do
  call c.insertTenant "INSERT_FAILED" fun s =>
    { s with
      tenant := some ⟨c.tenantId, payload.orgName, org.orgId, payload.trialDays,
        payload.requestedBy⟩ }
  Attempt.modify fun s => { s with tenantInserted := true }
  c.updateJobProgress (.creatingAccounts 0) fun row =>
    { row with
      currentStep := some s!"creating accounts (1/{c.template.members.length + 1})"
      completedSteps := 2, resultTenantId := some c.tenantId }
  match c.createAccountWithRetry c.template.admin 0 with
  | none => Attempt.throw "SANDBOX_ADMIN_ACCOUNT_CREATE_FAILED"
  | some admin =>
    if c.authorizeUser 0 then
      let others ← c.createMembers c.template.members.length c.template.members 1
      pure ((⟨admin.username, admin.email, .admin, admin.password⟩,
        ⟨admin.userId, admin.email,
          c.template.admin.givenName ++ " " ++ c.template.admin.familyName⟩) :: others)
    else Attempt.throw "SANDBOX_ADMIN_AUTHORIZATION_FAILED"

/-- The third part: what the tenant is filled with. -/
def provisionContent (seeded : List (SandboxSeededAccount × SandboxMember)) : Provisioning Unit := do
  c.registerMembers (seeded.map Prod.snd)
  c.updateJobProgress .seedingModules fun row =>
    { row with currentStep := some "seeding_modules", completedSteps := c.totalSteps - 2 }
  writeRows c.installCoreModules
  writeRows c.seedAllModulesData
  c.updateJobProgress .syncingDirectory fun row =>
    { row with currentStep := some "syncing_directory", completedSteps := c.totalSteps - 1 }
  writeRows (syncWritten c.runOrgDirectorySync)

def provisionHandover (org : ZitadelOrg) (seeded : List (SandboxSeededAccount × SandboxMember)) :
    Provisioning Unit := do
  c.storeSandboxHandoverCredentials (seeded.map Prod.fst)
  c.updateJobProgress .completed fun row =>
    { row with
      status := .completed, currentStep := none, completedSteps := c.totalSteps
      zitadelOrgId := some org.orgId }
  call c.auditCompleted "AUDIT_FAILED" id

def provision (payload : SandboxProvisioningJobPayload) : Provisioning Unit := do
  let org ← c.provisionOrg payload
  let seeded ← c.provisionAccounts payload org
  c.provisionContent seeded
  c.provisionHandover org seeded

def tenantReferenced (s : ProvisioningState) : Bool :=
  s.job.resultTenantId.isSome || s.rows.any TenantTable.referencesTenants

def deleteTenantRow (s : ProvisioningState) : Bool × ProvisioningState :=
  match c.updateJobProgress .clearResult (fun row => { row with resultTenantId := none }) s with
  | (.error _, s) => (false, s)
  | (.ok _, s) =>
    if tenantReferenced s then (false, s)
    else (!c.deleteTenant.raises, if c.deleteTenant.took then { s with tenant := none } else s)

/-- The `catch` block. -/
def rollBack (message : String) (s : ProvisioningState) : ProvisioningState :=
  let s := (c.updateJobProgress .failed
    (fun row => { row with status := .failed, error := some message }) s).2
  let rolledBack := s.zitadelOrgId.isNone || c.deleteOrg
  let s := if c.deleteOrg
    then { s with orgs := s.orgs.filter fun org => some org.orgId ≠ s.zitadelOrgId } else s
  let (rolledBack, s) := if rolledBack && s.tenantInserted then c.deleteTenantRow s
    else (rolledBack, s)
  (c.updateJobProgress .rolledBack (fun row => { row with rolledBack := some rolledBack }) s).2

/-- The job, and what it leaves. -/
def processSandboxProvisioningJob (payload : SandboxProvisioningJobPayload)
    (s : ProvisioningState) : Except String Unit × ProvisioningState :=
  match c.provision payload s with
  | (.ok _, s) => (.ok (), s)
  | (.error message, s) => (.error message, c.rollBack message s)

/-! ## What the answers lead to -/

def orgAnswer : (left attempt : Nat) → CreateOrgAnswer
  | 0, _ => .conflict
  | left + 1, attempt =>
    match c.createOrg attempt with
    | .conflict => orgAnswer left (attempt + 1)
    | answer => answer

def orgLost : Bool :=
  !(c.progress .creatingOrg).raises && (c.orgAnswer MAX_NAME_CONFLICT_ATTEMPTS 0).isUnanswered

def insertsTenant : Bool :=
  !(c.progress .creatingOrg).raises && (c.orgAnswer MAX_NAME_CONFLICT_ATTEMPTS 0).isCreated &&
    !(c.progress .grantingAccess).raises && c.grantProjectToOrg &&
    !(c.progress .creatingTenant).raises

def insertedTenant : Bool := c.insertsTenant && !c.insertTenant.raises

def registers : Bool :=
  c.insertedTenant && !(c.progress (.creatingAccounts 0)).raises &&
    (c.createAccountWithRetry c.template.admin 0).isSome && c.authorizeUser 0 &&
    (range c.template.members.length).all fun i =>
      !(c.progress (.creatingAccounts (i + 1))).raises

def installs : Bool := c.registers && !(c.progress .seedingModules).raises

def seeds : Bool := c.installs && !c.installCoreModules.raises

def syncs : Bool :=
  c.seeds && !c.seedAllModulesData.raises && !(c.progress .syncingDirectory).raises

def stores : Bool := c.syncs && !(syncWritten c.runOrgDirectorySync).raises

/-- No call of the job fails. -/
def completes : Bool :=
  c.stores && !(c.progress .completed).raises && !c.auditCompleted.raises

def written : List TenantTable :=
  (if c.registers && c.registerTenantMembers.took then [.tenantUsers] else []) ++
    (if c.installs then c.installCoreModules.rows else []) ++
    (if c.seeds then c.seedAllModulesData.rows else []) ++
    if c.syncs then (syncWritten c.runOrgDirectorySync).rows else []

def kept : Bool := c.stores && c.storeHandover.took

/-- The calls of the rollback are answered. -/
def Compensates : Prop :=
  c.deleteOrg = true ∧ c.progress .clearResult = .answered ∧ c.deleteTenant = .answered

def LeavesNothing : Prop :=
  c.orgLost = false ∧ ¬(c.insertsTenant = true ∧ c.insertTenant = .unanswered) ∧
    (c.written.any TenantTable.referencesTenants = true ∨ c.written = [] ∧ c.kept = false)

/-! ## The state at the end of each part -/

structure Stands (lost took inserted : Bool) (rows : List TenantTable) (kept : Bool)
    (s : ProvisioningState) : Prop where
  orgs : (s.orgs.filter fun org => some org.orgId ≠ s.zitadelOrgId) = [] ↔ lost = false
  tenant : s.tenant.isSome = took
  inserted : s.tenantInserted = inserted
  rows : ∀ table, table ∈ s.rows ↔ table ∈ rows
  handover : s.handover.isSome = kept
  unrecorded : s.job.rolledBack = none

def Left : ProvisioningState → Prop :=
  Stands c.orgLost (c.insertsTenant && c.insertTenant.took) c.insertedTenant c.written c.kept

variable {c}

variable {Q : Unit → ProvisioningState → Prop} {E : String → ProvisioningState → Prop}
  {s : ProvisioningState} {lost took inserted keeps : Bool} {rows : List TenantTable}

theorem call_ends {e : CallEnd} {error : String} {f : ProvisioningState → ProvisioningState}
    (answered : e.raises = false → Q () (f s))
    (raised : e.raises → E error (if e.took then f s else s)) : (call e error f).Ends s Q E := by
  cases e with
  | answered =>
    constructor
    · intro a same
      exact answered rfl
    · intro e same
      cases same
  | refused | unanswered =>
    constructor
    · intro a same
      cases same
    · intro e same
      cases same
      exact raised rfl

theorem Stands.withJob (stands : Stands lost took inserted rows keeps s)
    {job : SandboxProvisioningJobRow} (unrecorded : job.rolledBack = none) :
    Stands lost took inserted rows keeps { s with job := job } :=
  ⟨stands.orgs, stands.tenant, stands.inserted, stands.rows, stands.handover, unrecorded⟩

theorem updateJobProgress_ends {w : ProgressWrite}
    {patch : SandboxProvisioningJobRow → SandboxProvisioningJobRow}
    (stands : Stands lost took inserted rows keeps s)
    (leaves : ∀ row, (patch row).rolledBack = row.rolledBack)
    (answered : (c.progress w).raises = false → ∀ t, Stands lost took inserted rows keeps t →
      t.orgs = s.orgs → t.zitadelOrgId = s.zitadelOrgId → Q () t)
    (raised : (c.progress w).raises →
      ∀ error t, Stands lost took inserted rows keeps t → E error t) :
    (c.updateJobProgress w patch).Ends s Q E := by
  have patched : Stands lost took inserted rows keeps { s with job := patch s.job } :=
    stands.withJob ((leaves s.job).trans stands.unrecorded)
  apply call_ends
  · intro quiet
    exact answered quiet _ patched rfl rfl
  · intro loud
    split
    · exact raised loud _ _ patched
    · exact raised loud _ _ stands

/-! ### The organisation -/

theorem createOrgFrom_ends (baseName : String) (left attempt : Nat) :
    (c.createOrgFrom baseName left attempt).Ends s
      (fun result t =>
        (∃ org, result = some org ∧ (c.orgAnswer left attempt).isCreated ∧
          (c.orgAnswer left attempt).isUnanswered = false ∧ t = { s with orgs := s.orgs ++ [org] }) ∨
        (result = none ∧ (c.orgAnswer left attempt).isCreated = false ∧
          (if (c.orgAnswer left attempt).isUnanswered then
            ∃ org, t = { s with orgs := s.orgs ++ [org] } else t = s)))
      fun _ _ => False := by
  induction left generalizing attempt with
  | zero => exact .ret (.inr ⟨rfl, rfl, rfl⟩)
  | succ left ih =>
    unfold createOrgFrom orgAnswer
    rcases answer : c.createOrg attempt with orgId | _ | _ | orgId
    · exact .bind (.modify (.ret (.inl ⟨_, rfl, rfl, rfl, rfl⟩)))
    · exact ih (attempt + 1)
    · exact .ret (.inr ⟨rfl, rfl, rfl⟩)
    · exact .bind (.modify (.ret (.inr ⟨rfl, rfl, _, rfl⟩)))

theorem stands_start : Stands false false false [] false ProvisioningState.start :=
  ⟨by simp [ProvisioningState.start], rfl, rfl, fun _ => Iff.rfl, rfl, rfl⟩

theorem Stands.remember (stands : Stands lost took inserted rows keeps s) (none' : s.orgs = [])
    (org : ZitadelOrg) :
    Stands false took inserted rows keeps
      { s with orgs := s.orgs ++ [org], zitadelOrgId := some org.orgId } := by
  refine ⟨?_, stands.tenant, stands.inserted, stands.rows, stands.handover, stands.unrecorded⟩
  simp [none']

theorem Stands.lose (stands : Stands lost took inserted rows keeps s)
    (unknown : s.zitadelOrgId = none) (org : ZitadelOrg) :
    Stands true took inserted rows keeps { s with orgs := s.orgs ++ [org] } := by
  refine ⟨?_, stands.tenant, stands.inserted, stands.rows, stands.handover, stands.unrecorded⟩
  simp [unknown]

theorem provisionOrg_ends (payload : SandboxProvisioningJobPayload) :
    (c.provisionOrg payload).Ends .start
      (fun _ t => c.insertsTenant ∧ c.orgLost = false ∧ Stands false false false [] false t)
      (fun _ t => c.insertsTenant = false ∧ Stands c.orgLost false false [] false t) := by
  unfold provisionOrg
  refine .bind (updateJobProgress_ends stands_start (fun _ => rfl) ?_ ?_)
  · intro begun t begunStands none' unknown
    refine .bind ((createOrgFrom_ends payload.orgName _ 0).mono ?_ (fun _ _ never => never.elim))
    rintro result t (⟨org, rfl, made, known, rfl⟩ | ⟨rfl, unmade, left⟩)
    · have remembered := begunStands.remember none' org
      have notLost : c.orgLost = false := by
        unfold orgLost
        rw [known, Bool.and_false]
      rw [notLost]
      refine .bind (.ret (.bind (.modify (.bind ?_))))
      refine updateJobProgress_ends remembered (fun _ => rfl) ?_ ?_
      · intro granting t stands _ _
        split
        · next granted =>
          refine .bind (updateJobProgress_ends stands (fun _ => rfl) ?_ ?_)
          · intro creating t stands _ _
            refine .ret ⟨?_, rfl, stands⟩
            simp [insertsTenant, begun, made, granting, granted, creating]
          · intro raised _ t stands
            refine ⟨?_, stands⟩
            simp [insertsTenant, raised]
        · next refused =>
          refine .throw ⟨?_, stands⟩
          simp [insertsTenant, refused]
      · intro raised _ t stands
        refine ⟨?_, stands⟩
        simp [insertsTenant, raised]
    · refine .bind (.throw ⟨?_, ?_⟩)
      · simp [insertsTenant, unmade]
      · have lost : c.orgLost = (c.orgAnswer MAX_NAME_CONFLICT_ATTEMPTS 0).isUnanswered := by
          unfold orgLost
          rw [begun, Bool.not_false, Bool.true_and]
        rw [lost]
        split at left
        · next unanswered =>
          obtain ⟨org, rfl⟩ := left
          rw [unanswered]
          exact begunStands.lose unknown org
        · next answered =>
          rw [left, Bool.eq_false_iff.mpr answered]
          exact begunStands
  · intro raised _ t stands
    have unasked : c.orgLost = false ∧ c.insertsTenant = false := by
      simp [orgLost, insertsTenant, raised]
    rw [unasked.1]
    exact ⟨unasked.2, stands⟩

/-! ### The tenant and its accounts -/

theorem createMembers_ends (total : Nat) (members : List SandboxAccountTemplate)
    (position : Nat) (stands : Stands lost took inserted rows keeps s) :
    (c.createMembers total members position).Ends s
      (fun _ t =>
        (∀ i < members.length, (c.progress (.creatingAccounts (position + i))).raises = false) ∧
          Stands lost took inserted rows keeps t)
      (fun _ t =>
        (∃ i < members.length, (c.progress (.creatingAccounts (position + i))).raises) ∧
          Stands lost took inserted rows keeps t) := by
  induction members generalizing position s with
  | nil => exact .ret ⟨fun i none' => absurd none' (Nat.not_lt_zero i), stands⟩
  | cons member members ih =>
    unfold createMembers
    refine .bind (updateJobProgress_ends stands (fun _ => rfl) ?_ ?_)
    · intro quiet t stands _ _
      refine .bind ((ih (position + 1) stands).mono ?_ ?_)
      · rintro others t ⟨rest, stands⟩
        refine .ret ⟨?_, stands⟩
        intro i inside
        rcases i with _ | i
        · exact quiet
        · have here := rest i (by simpa using inside)
          rw [Nat.add_right_comm] at here
          exact here
      · rintro error t ⟨⟨i, inside, loud⟩, stands⟩
        rw [Nat.add_right_comm] at loud
        exact ⟨⟨i + 1, by simpa using inside, loud⟩, stands⟩
    · intro loud error t stands
      exact ⟨⟨0, by simp, loud⟩, stands⟩

theorem provisionAccounts_ends (payload : SandboxProvisioningJobPayload) (org : ZitadelOrg)
    (reached : c.insertsTenant) (stands : Stands false false false [] false s) :
    (c.provisionAccounts payload org).Ends s
      (fun seeded t => seeded ≠ [] ∧ c.registers ∧ Stands false true true [] false t)
      (fun _ t => c.registers = false ∧
        Stands false c.insertTenant.took (!c.insertTenant.raises) [] false t) := by
  unfold provisionAccounts
  refine .bind (call_ends ?_ ?_)
  · intro answered
    rw [CallEnd.took_of_answered answered, answered]
    refine .bind (.modify (.bind ?_))
    have known : Stands false true true [] false
        { s with
          tenant := some ⟨c.tenantId, payload.orgName, org.orgId, payload.trialDays,
            payload.requestedBy⟩
          tenantInserted := true } :=
      ⟨stands.orgs, rfl, rfl, stands.rows, stands.handover, stands.unrecorded⟩
    refine updateJobProgress_ends known (fun _ => rfl) ?_ ?_
    · intro quiet t stands _ _
      split
      · next none' =>
        refine .throw ⟨?_, stands⟩
        simp [registers, none']
      · next admin made =>
        split
        · next authorized =>
          refine .bind ((createMembers_ends _ c.template.members 1 stands).mono ?_ ?_)
          · rintro others t ⟨rest, stands⟩
            refine .ret ⟨by simp, ?_, stands⟩
            have quietRest : ∀ i < c.template.members.length,
                (c.progress (.creatingAccounts (i + 1))).raises = false := by
              intro i inside
              rw [Nat.add_comm]
              exact rest i inside
            simpa [registers, insertedTenant, reached, answered, quiet, made, authorized]
              using quietRest
          · rintro error t ⟨⟨i, inside, loud⟩, stands⟩
            refine ⟨?_, stands⟩
            rw [Nat.add_comm] at loud
            apply Bool.eq_false_iff.mpr
            intro all
            simp only [registers, Bool.and_eq_true, List.all_eq_true] at all
            have quiet' := all.2 i (mem_range.mpr inside)
            rw [loud] at quiet'
            cases quiet'
        · next refused =>
          refine .throw ⟨?_, stands⟩
          simp [registers, refused]
    · intro loud error t stands
      refine ⟨?_, stands⟩
      simp [registers, loud]
  · intro raised
    rw [raised]
    refine ⟨by simp [registers, insertedTenant, raised], ?_⟩
    split
    · next took =>
      rw [took]
      exact ⟨stands.orgs, rfl, stands.inserted, stands.rows, stands.handover, stands.unrecorded⟩
    · next refused =>
      rw [Bool.eq_false_iff.mpr refused]
      exact stands

/-! ### The content and the handover -/

theorem Stands.withRows (stands : Stands lost took inserted rows keeps s)
    {more others : List TenantTable} (same : ∀ table, table ∈ more ↔ table ∈ others) :
    Stands lost took inserted (rows ++ others) keeps { s with rows := s.rows ++ more } := by
  refine ⟨stands.orgs, stands.tenant, stands.inserted, fun table => ?_, stands.handover,
    stands.unrecorded⟩
  rw [mem_append, mem_append, stands.rows, same]

theorem writeRows_ends {w : RowsWritten} (stands : Stands lost took inserted rows keeps s)
    (quiet : w.raises = false → ∀ t, Stands lost took inserted (rows ++ w.rows) keeps t → Q () t)
    (raised : w.raises →
      ∀ error t, Stands lost took inserted (rows ++ w.rows) keeps t → E error t) :
    (writeRows w).Ends s Q E := by
  have here := stands.withRows (fun table => (Iff.rfl : table ∈ w.rows ↔ table ∈ w.rows))
  unfold writeRows
  constructor
  · intro a same
    apply quiet ?_ _ here
    by_contra loud
    rw [Bool.not_eq_false] at loud
    simp [loud] at same
  · intro e same
    apply raised ?_ _ _ here
    by_contra calm
    simp [calm] at same

theorem caught_ends {p : Provisioning Unit} {E' : String → ProvisioningState → Prop}
    (ends : p.Ends s (fun _ t => Q () t) fun _ t => Q () t) :
    (do let _ ← (Attempt.caught p : Provisioning _); pure () : Provisioning Unit).Ends s Q E' := by
  refine .bind ⟨fun a _ => .ret ?_, fun _ same => by cases same⟩
  rcases result : (p s).1 with e | u
  · exact ends.2 e result
  · exact ends.1 u result

theorem registerMembers_ends {members : List SandboxMember} (some' : members ≠ [])
    (stands : Stands lost took inserted [] keeps s)
    (after : ∀ t, Stands lost took inserted
      (if c.registerTenantMembers.took then [.tenantUsers] else []) keeps t → Q () t) :
    (c.registerMembers members).Ends s Q E := by
  have registered : Stands lost took inserted [.tenantUsers] keeps
      { s with
        rows := s.rows ++ (members.map SandboxMember.userId).dedup.map fun _ => .tenantUsers } := by
    refine stands.withRows fun table => ?_
    have nonempty : (members.map SandboxMember.userId).dedup ≠ [] := by
      simpa [dedup_eq_nil] using some'
    obtain ⟨userId, others, first⟩ := exists_cons_of_ne_nil nonempty
    rw [first]
    simp only [map_cons, mem_cons, List.mem_map, not_mem_nil, or_false]
    constructor
    · rintro (here | ⟨_, _, here⟩)
      · exact here
      · exact here.symm
    · exact Or.inl
  apply caught_ends
  apply call_ends
  · intro answered
    apply after
    rw [if_pos (CallEnd.took_of_answered answered)]
    exact registered
  · intro raised
    split
    · next took =>
      apply after
      rw [if_pos took]
      exact registered
    · next refused =>
      apply after
      rw [if_neg refused]
      exact stands

theorem provisionContent_ends {seeded : List (SandboxSeededAccount × SandboxMember)}
    (some' : seeded ≠ []) (reached : c.registers) (stands : Stands false true true [] false s) :
    (c.provisionContent seeded).Ends s
      (fun _ t => c.stores ∧ Stands false true true c.written false t)
      (fun _ t => c.stores = false ∧ Stands false true true c.written false t) := by
  unfold provisionContent
  refine .bind (registerMembers_ends (by simpa using some') stands fun t stands => ?_)
  refine .bind (updateJobProgress_ends stands (fun _ => rfl) ?_ ?_)
  · intro seeding t stands _ _
    refine .bind (writeRows_ends stands ?_ ?_)
    · intro installed t stands
      refine .bind (writeRows_ends stands ?_ ?_)
      · intro seeded t stands
        refine .bind (updateJobProgress_ends stands (fun _ => rfl) ?_ ?_)
        · intro syncing t stands _ _
          refine writeRows_ends stands ?_ ?_
          · intro synced t stands
            refine ⟨?_, ?_⟩
            · simp [stores, syncs, seeds, installs, reached, seeding, installed, seeded, syncing,
                synced]
            · simpa [written, syncs, seeds, installs, reached, seeding, installed, seeded, syncing]
                using stands
          · intro raised _ t stands
            refine ⟨by simp [stores, raised], ?_⟩
            simpa [written, syncs, seeds, installs, reached, seeding, installed, seeded, syncing]
              using stands
        · intro raised _ t stands
          refine ⟨by simp [stores, syncs, raised], ?_⟩
          simpa [written, syncs, seeds, installs, reached, seeding, installed, raised] using stands
      · intro raised _ t stands
        refine ⟨by simp [stores, syncs, raised], ?_⟩
        simpa [written, syncs, seeds, installs, reached, seeding, installed, raised] using stands
    · intro raised _ t stands
      refine ⟨by simp [stores, syncs, seeds, raised], ?_⟩
      simpa [written, syncs, seeds, installs, reached, seeding, raised] using stands
  · intro raised _ t stands
    refine ⟨by simp [stores, syncs, seeds, installs, raised], ?_⟩
    simpa [written, syncs, seeds, installs, reached, raised] using stands

theorem provisionHandover_ends (org : ZitadelOrg)
    (seeded : List (SandboxSeededAccount × SandboxMember)) (reached : c.stores)
    (stands : Stands false true true rows false s) :
    (c.provisionHandover org seeded).Ends s
      (fun _ t => c.completes ∧ Stands false true true rows c.kept t)
      (fun _ t => c.completes = false ∧ Stands false true true rows c.kept t) := by
  have keeps : c.kept = c.storeHandover.took := by
    unfold kept
    rw [reached, Bool.true_and]
  rw [keeps]
  unfold provisionHandover
  have stored : (c.storeSandboxHandoverCredentials (seeded.map Prod.fst)).Ends s
      (fun _ t => Stands false true true rows c.storeHandover.took t) (fun _ _ => False) := by
    have withThem : Stands false true true rows true
        { s with handover := some (seeded.map Prod.fst) } :=
      ⟨stands.orgs, stands.tenant, stands.inserted, stands.rows, rfl, stands.unrecorded⟩
    apply caught_ends
    apply call_ends
    · intro answered
      rw [CallEnd.took_of_answered answered]
      exact withThem
    · intro raised
      split
      · next took =>
        rw [took]
        exact withThem
      · next refused =>
        rw [Bool.eq_false_iff.mpr refused]
        exact stands
  refine .bind (stored.mono (fun _ t stands => ?_) fun _ _ never => never.elim)
  refine .bind (updateJobProgress_ends stands (fun _ => rfl) ?_ ?_)
  · intro completed t stands _ _
    apply call_ends
    · intro audited
      exact ⟨by simp [completes, reached, completed, audited], stands⟩
    · intro raised
      rw [id, ite_self]
      exact ⟨by simp [completes, raised], stands⟩
  · intro raised _ t stands
    exact ⟨by simp [completes, raised], stands⟩

theorem provision_ends (payload : SandboxProvisioningJobPayload) :
    (c.provision payload).Ends .start (fun _ t => c.completes ∧ c.Left t)
      (fun _ t => c.completes = false ∧ c.Left t) := by
  unfold provision Left
  refine .bind ((provisionOrg_ends payload).mono ?_ ?_)
  · rintro org t ⟨reached, known, stands⟩
    rw [known, reached, Bool.true_and]
    refine .bind ((provisionAccounts_ends payload org reached stands).mono ?_ ?_)
    · rintro seeded t ⟨some', registered, stands⟩
      have inserted : c.insertedTenant ∧ c.insertTenant.took := by
        have inserted : c.insertedTenant := by
          simp only [registers, Bool.and_eq_true] at registered
          exact registered.1.1.1.1
        refine ⟨inserted, CallEnd.took_of_answered ?_⟩
        simpa [insertedTenant, reached] using inserted
      rw [inserted.1, inserted.2]
      refine .bind ((provisionContent_ends some' registered stands).mono ?_ ?_)
      · rintro _ t ⟨stored, stands⟩
        exact provisionHandover_ends org seeded stored stands
      · rintro error t ⟨unstored, stands⟩
        have nothing : c.completes = false ∧ c.kept = false := by
          simp [completes, kept, unstored]
        rw [nothing.2]
        exact ⟨nothing.1, stands⟩
    · rintro error t ⟨unregistered, stands⟩
      have nothing : c.completes = false ∧ c.written = [] ∧ c.kept = false := by
        simp [completes, written, kept, stores, syncs, seeds, installs, unregistered]
      have inserted : c.insertedTenant = !c.insertTenant.raises := by
        unfold insertedTenant
        rw [reached, Bool.true_and]
      rw [nothing.2.1, nothing.2.2, inserted]
      exact ⟨nothing.1, stands⟩
  · rintro error t ⟨unreached, stands⟩
    have nothing : c.completes = false ∧ c.insertedTenant = false ∧ c.written = [] ∧
        c.kept = false := by
      simp [completes, written, kept, stores, syncs, seeds, installs, registers, insertedTenant,
        unreached]
    rw [unreached, nothing.2.1, nothing.2.2.1, nothing.2.2.2, Bool.false_and]
    exact ⟨nothing.1, stands⟩

/-! ## The rollback -/

theorem Stands.referenced (stands : Stands lost took inserted rows keeps s)
    (cleared : s.job.resultTenantId = none) :
    tenantReferenced s = rows.any TenantTable.referencesTenants := by
  unfold tenantReferenced
  rw [cleared, isSome_none, Bool.false_or, Bool.eq_iff_iff, List.any_eq_true, List.any_eq_true]
  exact exists_congr fun table => and_congr_left fun _ => stands.rows table

theorem Stands.rows_nil (stands : Stands lost took inserted rows keeps s) :
    s.rows = [] ↔ rows = [] := by
  rw [eq_nil_iff_forall_not_mem, eq_nil_iff_forall_not_mem]
  exact forall_congr' fun table => not_congr (stands.rows table)

theorem updateJobProgress_state (w : ProgressWrite)
    (patch : SandboxProvisioningJobRow → SandboxProvisioningJobRow) (s : ProvisioningState) :
    (c.updateJobProgress w patch s).2 =
      { s with job := if (c.progress w).took then patch s.job else s.job } := by
  change (if (c.progress w).took then { s with job := patch s.job } else s) = _
  cases (c.progress w).took with
  | true => rfl
  | false => rfl

theorem deleteTenantRow_eq (compensates : c.Compensates)
    (stands : Stands lost took inserted rows keeps s) :
    ∃ job : SandboxProvisioningJobRow, job.rolledBack = none ∧
      c.deleteTenantRow s = if rows.any TenantTable.referencesTenants
        then (false, { s with job := job }) else (true, { s with job := job, tenant := none }) := by
  obtain ⟨-, cleared, deleted⟩ := compensates
  refine ⟨{ s.job with resultTenantId := none }, stands.unrecorded, ?_⟩
  have job : (c.updateJobProgress .clearResult (fun row => { row with resultTenantId := none }) s) =
      (.ok (), { s with job := { s.job with resultTenantId := none } }) := by
    unfold updateJobProgress call
    rw [cleared]
    rfl
  have here : Stands lost took inserted rows keeps
      { s with job := { s.job with resultTenantId := none } } := stands.withJob stands.unrecorded
  unfold deleteTenantRow
  rw [job]
  simp only []
  rw [here.referenced rfl, deleted]
  rfl

theorem record_noFootprint (rolledBack : Bool) (unrecorded : s.job.rolledBack = none)
    {t : ProvisioningState}
    (recorded : t = (c.updateJobProgress .rolledBack
      (fun row => { row with rolledBack := some rolledBack }) s).2) :
    (t.job.rolledBack = some true → t.NoFootprint) ↔
      ((c.progress .rolledBack).took → rolledBack → s.NoFootprint) := by
  rw [updateJobProgress_state] at recorded
  subst recorded
  cases (c.progress .rolledBack).took with
  | true => simp [ProvisioningState.NoFootprint]
  | false => simp [unrecorded]

theorem Stands.withoutOrg (stands : Stands lost took inserted rows keeps s) :
    Stands lost took inserted rows keeps
      { s with orgs := s.orgs.filter fun org => some org.orgId ≠ s.zitadelOrgId } := by
  refine ⟨?_, stands.tenant, stands.inserted, stands.rows, stands.handover, stands.unrecorded⟩
  rw [← stands.orgs, List.filter_filter]
  simp only [Bool.and_self]

theorem Stands.noFootprint_iff (stands : Stands lost took inserted rows keeps s)
    (gone : s.orgs = s.orgs.filter fun org => some org.orgId ≠ s.zitadelOrgId) :
    s.NoFootprint ↔ lost = false ∧ took = false ∧ rows = [] ∧ keeps = false := by
  unfold ProvisioningState.NoFootprint
  rw [gone, stands.orgs, stands.rows_nil, ← stands.tenant, ← stands.handover,
    isSome_eq_false_iff, isSome_eq_false_iff, isNone_iff_eq_none,
    isNone_iff_eq_none]

theorem rollBack_noFootprint (compensates : c.Compensates) (message : String)
    (stands : Stands lost took inserted rows keeps s) :
    ((c.rollBack message s).job.rolledBack = some true → (c.rollBack message s).NoFootprint) ↔
      ((c.progress .rolledBack).took →
        (inserted ∧ rows.any TenantTable.referencesTenants) ∨
          lost = false ∧ (inserted ∨ took = false) ∧ rows = [] ∧ keeps = false) := by
  have deleted := compensates.1
  -- the failure is written, and the organisation is deleted
  obtain ⟨job, unrecorded, failed⟩ : ∃ job : SandboxProvisioningJobRow, job.rolledBack = none ∧
      (c.updateJobProgress .failed
        (fun row => { row with status := .failed, error := some message }) s).2 =
          { s with job := job } := by
    refine ⟨_, ?_, updateJobProgress_state _ _ _⟩
    split
    · exact stands.unrecorded
    · exact stands.unrecorded
  have without : Stands lost took inserted rows keeps
      { s with
        orgs := s.orgs.filter fun org => some org.orgId ≠ s.zitadelOrgId
        job := job } := (stands.withJob unrecorded).withoutOrg
  generalize left : c.rollBack message s = t
  unfold rollBack at left
  rw [failed] at left
  simp only [deleted, Bool.or_true, if_true, Bool.true_and] at left
  cases inserted with
  | true =>
    obtain ⟨job', unrecorded', row⟩ := deleteTenantRow_eq compensates without
    rw [if_pos stands.inserted, row] at left
    cases referenced : rows.any TenantTable.referencesTenants with
    | true =>
      rw [referenced, if_pos rfl] at left
      rw [record_noFootprint false unrecorded' left.symm]
      simp
    | false =>
      rw [referenced, if_neg Bool.false_ne_true] at left
      have gone : Stands lost false true rows keeps
          { s with
            orgs := s.orgs.filter fun org => some org.orgId ≠ s.zitadelOrgId
            tenant := none, job := job' } :=
        ⟨without.orgs, rfl, stands.inserted, stands.rows, stands.handover, unrecorded'⟩
      rw [record_noFootprint true unrecorded' left.symm, gone.noFootprint_iff (by simp)]
      simp
  | false =>
    rw [if_neg (Bool.eq_false_iff.mp stands.inserted)] at left
    rw [record_noFootprint true unrecorded left.symm, without.noFootprint_iff (by simp)]
    simp

theorem inserted_or_iff :
    (c.insertedTenant ∨ (c.insertsTenant && c.insertTenant.took) = false) ↔
      ¬(c.insertsTenant ∧ c.insertTenant = .unanswered) := by
  unfold insertedTenant
  cases c.insertsTenant with
  | false => simp
  | true => cases c.insertTenant <;> simp [CallEnd.raises, CallEnd.took]

theorem of_written {table : TenantTable} (written : table ∈ c.written) :
    c.insertedTenant ∧ c.orgLost = false := by
  have registered : c.registers := by
    by_contra unregistered
    simp [ProvisioningChances.written, syncs, seeds, installs, unregistered] at written
  simp only [registers, Bool.and_eq_true] at registered
  have inserted := registered.1.1.1.1
  refine ⟨inserted, ?_⟩
  simp only [insertedTenant, insertsTenant, Bool.and_eq_true] at inserted
  have made := inserted.1.1.1.1.2
  unfold orgLost
  rcases answer : c.orgAnswer MAX_NAME_CONFLICT_ATTEMPTS 0 with orgId | _ | _ | orgId
  · simp [CreateOrgAnswer.isUnanswered]
  · simp [CreateOrgAnswer.isUnanswered]
  · simp [CreateOrgAnswer.isUnanswered]
  · rw [answer] at made
    cases made

end ProvisioningChances

open ProvisioningChances

/-- Failed provisioning leaves no footprint when it is recorded as rolled back, exactly when the
rollback knew of all that had been created, or could not delete the tenant. -/
theorem failed_provisioning_leaves_nothing (c : ProvisioningChances)
    (payload : SandboxProvisioningJobPayload) (compensates : c.Compensates) :
    ((c.processSandboxProvisioningJob payload .start).2.job.rolledBack = some true →
        (c.processSandboxProvisioningJob payload .start).2.NoFootprint) ↔
      (c.completes = true ∨ (c.progress .rolledBack).took = false ∨ c.LeavesNothing) := by
  have ends : (c.provision payload).Ends .start _ _ := provision_ends payload
  unfold processSandboxProvisioningJob
  rcases result : c.provision payload .start with ⟨message | _, t⟩
  · obtain ⟨failed, stands⟩ := ends.2 message (by rw [result])
    rw [result] at stands
    simp only []
    rw [rollBack_noFootprint compensates message stands, failed]
    have refused : c.insertedTenant ∧
        c.written.any TenantTable.referencesTenants ↔
          c.orgLost = false ∧ ¬(c.insertsTenant ∧ c.insertTenant = .unanswered) ∧
            c.written.any TenantTable.referencesTenants := by
      rw [← inserted_or_iff]
      constructor
      · rintro ⟨inserted, references⟩
        obtain ⟨table, mem, -⟩ := List.any_eq_true.mp references
        exact ⟨(of_written mem).2, .inl inserted, references⟩
      · rintro ⟨-, -, references⟩
        obtain ⟨table, mem, -⟩ := List.any_eq_true.mp references
        exact ⟨(of_written mem).1, references⟩
    rw [refused, inserted_or_iff]
    unfold LeavesNothing
    cases (c.progress .rolledBack).took with
    | false => simp
    | true =>
      simp only [Bool.false_eq_true, Bool.true_eq_false, true_implies, false_or]
      rw [← and_or_left, ← and_or_left]
  · obtain ⟨completes, stands⟩ := ends.1 () (by rw [result])
    rw [result] at stands
    have unrecorded : t.job.rolledBack = none := stands.unrecorded
    simp [completes, unrecorded]

/-- Every call is answered, with ten members. -/
def answeredChances : ProvisioningChances where
  tenantId := "tenant"
  template := ⟨⟨"Ava", "Reed", "ava.reed"⟩, replicate 10 ⟨"Liam", "Cole", "liam.cole"⟩⟩
  emailDomain := "localhost"
  progress := fun _ => .answered
  orgSuffix := fun _ => "1000"
  createOrg := fun _ => .created "org"
  grantProjectToOrg := true
  insertTenant := .answered
  emailSuffix := fun _ _ => "1000"
  password := fun _ => "Ow-9!"
  createHumanUser := fun position _ => .created (toString position)
  authorizeUser := fun _ => true
  registerTenantMembers := .answered
  installCoreModules := ⟨[.entityTypes, .workflows, .automationRules], false⟩
  seedAllModulesData := ⟨[.entityInstances, .workflowEvents, .outboxEvents], false⟩
  runOrgDirectorySync := .started 11 false
  storeHandover := .answered
  auditCompleted := .answered
  deleteOrg := true
  deleteTenant := .answered

def seedingRefused : ProvisioningChances :=
  { answeredChances with progress := fun w => if w = .seedingModules then .refused else .answered }

def completionRefused : ProvisioningChances :=
  { answeredChances with
    registerTenantMembers := .refused
    installCoreModules := ⟨[], false⟩
    seedAllModulesData := ⟨[], false⟩
    runOrgDirectorySync := .alreadyRunning
    progress := fun w => if w = .completed then .refused else .answered }

def sandboxPayload : SandboxProvisioningJobPayload := ⟨"Acme", 14, "admin"⟩

def grantRefused : ProvisioningChances := { answeredChances with grantProjectToOrg := false }

/-- What the job leaves. -/
def leftBy (c : ProvisioningChances) : ProvisioningState :=
  (c.processSandboxProvisioningJob sandboxPayload .start).2

/-- The members stay in `tenant_users`, and the credentials in Redis, of sandboxes that were
rolled back. -/
theorem rolled_back_sandboxes_leave_rows :
    (seedingRefused.Compensates ∧ completionRefused.Compensates) ∧
      (leftBy seedingRefused).job.rolledBack = some true ∧
      (leftBy seedingRefused).rows = replicate 11 .tenantUsers ∧
      (leftBy completionRefused).job.rolledBack = some true ∧
      (leftBy completionRefused).handover.isSome = true := by
  constructor
  · exact ⟨⟨rfl, rfl, rfl⟩, ⟨rfl, rfl, rfl⟩⟩
  · decide +kernel

/-- A sandbox whose project grant fails is rolled back without a trace. -/
theorem failed_provisioning_leaves_nothing_ungranted :
    (leftBy grantRefused).job.rolledBack = some true ∧ (leftBy grantRefused).NoFootprint := by
  have recorded : (leftBy grantRefused).job.rolledBack = some true := by decide +kernel
  refine ⟨recorded, (failed_provisioning_leaves_nothing grantRefused sandboxPayload
    ⟨rfl, rfl, rfl⟩).mpr (.inr (.inr ⟨rfl, ?_, .inr ⟨rfl, rfl⟩⟩)) recorded⟩
  rintro ⟨inserts, -⟩
  cases inserts

end OpenWind
