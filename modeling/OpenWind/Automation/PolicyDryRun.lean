import OpenWind.Automation.SeverityNotices
import Mathlib.Data.List.Pairwise

/-!
# The dry run of a notification policy

`GET /resolve` tells an administrator which policy a record would meet and whom it would notify.
It repeats what `dispatch_severity_notification` does, in a package that cannot import it.
-/

open List

namespace OpenWind

inductive DryRunRole
  | backup | escalationManager
  deriving DecidableEq

structure DryRunRecipient where
  role : DryRunRole
  userId : String
  name : Option String

structure DryRun where
  policyId : Option Id
  matchedAt : PolicyMatch
  channels : List NoticeChannel
  notifyBackup : Bool
  notifyEscalationManager : Bool
  recipients : List DryRunRecipient

def validPolicyRefs (store : AutomationStore) (tenantId : Id) (teamId workflowTypeId : Option Id) :
    Bool :=
  teamId.all (fun id => store.teams.any fun team =>
    team.id == id && team.tenantId == tenantId && team.deletedAt.isNone) &&
  workflowTypeId.all fun id => store.db.workflows.any fun workflow =>
    workflow.id == id && workflow.tenantId.all (· == tenantId)

def Db.memberName (db : Db) (tenantId : Id) (userId : String) : Option String :=
  (db.tenantUsers.find? fun user => user.tenantId == tenantId && user.userId == userId).bind
    fun user => user.displayName.or user.email

def dryRunRecipients (db : Db) (tenantId : Id) (severity : String) (best : NotificationPolicy)
    (activeSchedule : Option DutySchedule) : List DryRunRecipient :=
  let present (user : Option String) : List String := (user.filter fun id => id != "").toList
  match activeSchedule with
  | none => []
  | some schedule =>
    let backup := if best.notifyBackup then present schedule.backupUserId else []
    let manager :=
      if best.notifyEscalationManager || severity == "critical" then
        present schedule.escalationManagerUserId
      else []
    backup.map (fun userId => ⟨.backup, userId, db.memberName tenantId userId⟩) ++
      manager.map fun userId => ⟨.escalationManager, userId, db.memberName tenantId userId⟩

/-- None when a reference is refused. -/
def resolveRoute (store : AutomationStore) (policies : List NotificationPolicy) (tenantId : Id)
    (severity : String) (teamId workflowTypeId : Option Id) (now : Time) : Option DryRun :=
  if validPolicyRefs store tenantId teamId workflowTypeId then
    let candidates :=
      policies.filter (NotificationPolicy.applies tenantId severity teamId workflowTypeId)
    let scored := candidates.insertionSort fun a b => b.score ≤ a.score
    match scored.head? with
    | none => some ⟨none, .hardcodedDefault, [.email], true, false, []⟩
    | some best =>
      let activeSchedule := teamId.bind fun team =>
        getActiveScheduleForTeam store tenantId team now
      some ⟨some best.id, best.matchedAt, best.channels, best.notifyBackup,
        best.notifyEscalationManager,
        dryRunRecipients store.db tenantId severity best activeSchedule⟩
  else none

/-- The four partial unique indexes. -/
def PoliciesIndexed (policies : List NotificationPolicy) : Prop :=
  policies.Pairwise fun p q => p.deletedAt = none → q.deletedAt = none →
    (p.tenantId, p.severity, p.teamId, p.workflowTypeId) ≠
      (q.tenantId, q.severity, q.teamId, q.workflowTypeId)

def Truthful (store : AutomationStore) (policies listed : List NotificationPolicy) (tenantId : Id)
    (severity : String) (teamId workflowTypeId : Option Id) (now : Time) : Prop :=
  let policy := resolvePolicy policies tenantId severity teamId workflowTypeId
  let schedule := teamId.bind fun team => getActiveScheduleForTeam store tenantId team now
  ∃ dry, resolveRoute store listed tenantId severity teamId workflowTypeId now = some dry ∧
    (⟨dry.policyId, dry.channels, dry.notifyBackup, dry.notifyEscalationManager,
      dry.matchedAt⟩ : ResolvedPolicy) = policy ∧
    ∀ (row : EntityInstance) (user : String),
      user ∈ severityRecipients row policy severity schedule ↔
        (row.assignedTo = some user ∧ user ≠ "") ∨ user ∈ dry.recipients.map (·.userId)

/-! ## Recipients -/

def Notifies (schedule : Option DutySchedule) (notifyBackup notifyManager : Bool) (user : String) :
    Prop :=
  ∃ s, schedule = some s ∧ ((notifyBackup = true ∧ s.backupUserId = some user ∧ user ≠ "") ∨
    (notifyManager = true ∧ s.escalationManagerUserId = some user ∧ user ≠ ""))

section Recipients

variable {row : EntityInstance} {user severity : String} {schedule : Option DutySchedule}

theorem mem_present {assigned : Option String} :
    user ∈ (assigned.filter fun id => id != "").toList ↔ assigned = some user ∧ user ≠ "" := by
  rw [Option.mem_toList, Option.filter_eq_some_iff, bne_iff_ne]

theorem mem_severityRecipients {policy : ResolvedPolicy} :
    user ∈ severityRecipients row policy severity schedule ↔
      (row.assignedTo = some user ∧ user ≠ "") ∨ Notifies schedule policy.notifyBackup
        (policy.notifyEscalationManager || severity == "critical") user := by
  unfold severityRecipients severityRecipients.nonEmpty Notifies
  simp only [mem_eraseDups, mem_append, mem_present, or_assoc]
  refine or_congr_right ?_
  cases schedule with
  | none => simp
  | some s =>
    cases policy.notifyBackup <;> cases policy.notifyEscalationManager || severity == "critical" <;>
      simp

theorem mem_dryRunRecipients {db : Db} {tenantId : Id} {best : NotificationPolicy} :
    user ∈ (dryRunRecipients db tenantId severity best schedule).map (·.userId) ↔
      Notifies schedule best.notifyBackup
        (best.notifyEscalationManager || severity == "critical") user := by
  unfold dryRunRecipients Notifies
  cases schedule with
  | none => simp
  | some s =>
    cases best.notifyBackup <;> cases best.notifyEscalationManager || severity == "critical" <;>
      simp

end Recipients

/-! ## The policy -/

section Policies

variable {policies listed : List NotificationPolicy} {tenantId : Id} {severity : String}
  {teamId workflowTypeId : Option Id}

def scoredPolicies (policies : List NotificationPolicy) (tenantId : Id) (severity : String)
    (teamId workflowTypeId : Option Id) : List NotificationPolicy :=
  (policies.filter (NotificationPolicy.applies tenantId severity teamId workflowTypeId)).insertionSort
    fun a b => b.score ≤ a.score

theorem NotificationPolicy.applies_inj {p q : NotificationPolicy}
    (first : p.applies tenantId severity teamId workflowTypeId)
    (second : q.applies tenantId severity teamId workflowTypeId) (score : p.score = q.score) :
    p.deletedAt = none ∧ q.deletedAt = none ∧
      (p.tenantId, p.severity, p.teamId, p.workflowTypeId) =
        (q.tenantId, q.severity, q.teamId, q.workflowTypeId) := by
  unfold applies at first second
  simp only [Bool.and_eq_true, Bool.or_eq_true, beq_iff_eq] at first second
  obtain ⟨⟨⟨⟨tenant, severe⟩, live⟩, team⟩, workflow⟩ := first
  obtain ⟨⟨⟨⟨tenant', severe'⟩, live'⟩, team'⟩, workflow'⟩ := second
  refine ⟨live, live', ?_⟩
  rw [tenant, tenant', severe, severe']
  unfold NotificationPolicy.score at score
  cases hp : p.teamId <;> cases hq : q.teamId <;> cases wp : p.workflowTypeId <;>
    cases wq : q.workflowTypeId <;> simp_all

theorem mem_scoredPolicies {p : NotificationPolicy} :
    p ∈ scoredPolicies policies tenantId severity teamId workflowTypeId ↔
      p ∈ policies ∧ p.applies tenantId severity teamId workflowTypeId := by
  rw [scoredPolicies, mem_insertionSort, mem_filter]

theorem scoredPolicies_sorted :
    (scoredPolicies policies tenantId severity teamId workflowTypeId).Pairwise
      fun a b => b.score ≤ a.score := by
  have total : Std.Total fun a b : NotificationPolicy => b.score ≤ a.score :=
    ⟨fun a b => Nat.le_total _ _⟩
  have trans : IsTrans NotificationPolicy fun a b => b.score ≤ a.score :=
    ⟨fun _ _ _ first second => Nat.le_trans second first⟩
  exact pairwise_insertionSort _ _

theorem scoredPolicies_perm (indexed : PoliciesIndexed policies) (perm : listed.Perm policies) :
    scoredPolicies listed tenantId severity teamId workflowTypeId =
      scoredPolicies policies tenantId severity teamId workflowTypeId := by
  have same : (scoredPolicies listed tenantId severity teamId workflowTypeId).Perm
      (scoredPolicies policies tenantId severity teamId workflowTypeId) :=
    (perm_insertionSort _ _).trans ((perm.filter _).trans (perm_insertionSort _ _).symm)
  refine same.eq_of_pairwise ?_ scoredPolicies_sorted scoredPolicies_sorted
  intro p q memP memQ le ge
  obtain ⟨inP, appliesP⟩ := mem_scoredPolicies.mp memP
  obtain ⟨inQ, appliesQ⟩ := mem_scoredPolicies.mp memQ
  obtain ⟨liveP, liveQ, place⟩ :=
    NotificationPolicy.applies_inj appliesP appliesQ (Nat.le_antisymm ge le)
  by_contra different
  have symm : Std.Symm fun p q : NotificationPolicy => p.deletedAt = none → q.deletedAt = none →
      (p.tenantId, p.severity, p.teamId, p.workflowTypeId) ≠
        (q.tenantId, q.severity, q.teamId, q.workflowTypeId) :=
    ⟨fun _ _ apart live live' => (apart live' live).symm⟩
  exact indexed.forall (perm.mem_iff.mp inP) inQ different liveP liveQ place

end Policies

def NobodyByDefault (severity : String) (schedule : Option DutySchedule) : Prop :=
  ∀ s, schedule = some s → (∀ user, s.backupUserId = some user → user = "") ∧
    (severity = "critical" → ∀ user, s.escalationManagerUserId = some user → user = "")

theorem nobodyByDefault_iff {severity : String} {schedule : Option DutySchedule} :
    NobodyByDefault severity schedule ↔
      ∀ user, ¬ Notifies schedule true (severity == "critical") user := by
  unfold NobodyByDefault Notifies
  cases schedule with
  | none => simp
  | some s =>
    simp only [Option.some.injEq, forall_eq', exists_eq_left', beq_iff_eq, true_and, not_or,
      not_and, ne_eq, not_not, forall_and]
    exact and_congr_right' ⟨fun all user critical named => all critical user named,
      fun all critical user named => all user critical named⟩

section Truth

variable {store : AutomationStore} {policies listed : List NotificationPolicy} {tenantId : Id}
  {severity : String} {teamId workflowTypeId : Option Id} {now : Time}

/-- The dry run tells the truth exactly when its references are valid, and some policy applies or
nobody is notified by default. -/
theorem dry_run_truthful_iff (indexed : PoliciesIndexed policies) (perm : listed.Perm policies) :
    Truthful store policies listed tenantId severity teamId workflowTypeId now ↔
      validPolicyRefs store tenantId teamId workflowTypeId = true ∧
        ((∃ p ∈ policies, p.applies tenantId severity teamId workflowTypeId = true) ∨
          NobodyByDefault severity (teamId.bind fun team =>
            getActiveScheduleForTeam store tenantId team now)) := by
  have same : scoredPolicies listed tenantId severity teamId workflowTypeId =
      scoredPolicies policies tenantId severity teamId workflowTypeId :=
    scoredPolicies_perm indexed perm
  have some_iff : (∃ p ∈ policies, p.applies tenantId severity teamId workflowTypeId) ↔
      ∃ p, p ∈ scoredPolicies policies tenantId severity teamId workflowTypeId := by
    simp only [mem_scoredPolicies]
  unfold Truthful resolveRoute resolvePolicy
  dsimp only
  rw [← scoredPolicies, ← scoredPolicies, same, some_iff]
  by_cases valid : validPolicyRefs store tenantId teamId workflowTypeId = true
  · rw [if_pos valid, eq_true valid, true_and]
    cases best : scoredPolicies policies tenantId severity teamId workflowTypeId with
    | nil =>
      simp only [head?_nil, Option.some.injEq, exists_eq_left', map_nil, not_mem_nil,
        exists_false, or_false, false_or, true_and, mem_severityRecipients, nobodyByDefault_iff,
        Bool.false_or]
      -- a record without an assignee shows whom the default notifies
      refine ⟨fun all user notified => ?_, fun nobody row user => or_iff_left (nobody user)⟩
      have assigned := (all ⟨0, 0, 0, none, "", [], none, none, none, none, none, none, none, none,
        0, 0, none⟩ user).mp (Or.inr notified)
      cases assigned.1
    | cons p rest =>
      simp only [head?_cons, Option.some.injEq, exists_eq_left', true_and,
        mem_severityRecipients, mem_dryRunRecipients, implies_true, mem_cons, true_iff]
      exact Or.inl ⟨p, Or.inl rfl⟩
  · rw [if_neg valid, eq_false valid, false_and]
    simp

/-- A team whose active window names a backup. -/
def backedUpTeam : AutomationStore where
  db := {}
  rules := []
  teams := [⟨1, 1, "Support", none⟩]
  schedules := [
    { id := 1, tenantId := 1, teamId := 1, startsAt := 0, endsAt := 10, primaryUserId := "ann",
      backupUserId := some "bob" }]

def backupPolicy : NotificationPolicy where
  id := 1
  tenantId := 1
  severity := "high"
  channels := [.email]
  notifyBackup := true
  notifyEscalationManager := false

/-- With a policy the route lists the backup. -/
theorem dry_run_truthful_backup :
    Truthful backedUpTeam [backupPolicy] [backupPolicy] 1 "high" (some 1) none 5 :=
  (dry_run_truthful_iff (pairwise_singleton _ _) (Perm.refl _)).mpr
    ⟨by decide, Or.inl ⟨backupPolicy, mem_singleton_self _, by decide⟩⟩

/-- Without one it lists nobody, and the dispatch notifies the backup. -/
theorem dry_run_misses_backup :
    PoliciesIndexed [] ∧ ¬ Truthful backedUpTeam [] [] 1 "high" (some 1) none 5 := by
  refine ⟨Pairwise.nil, ?_⟩
  rintro ⟨dry, resolved, -, all⟩
  have nobody : dry = ⟨none, .hardcodedDefault, [.email], true, false, []⟩ :=
    (Option.some.inj resolved).symm
  subst nobody
  have listed := (all ⟨0, 0, 0, none, "", [], none, none, none, none, none, none, none, none,
    0, 0, none⟩ "bob").mp (by decide)
  rcases listed with ⟨assigned, -⟩ | inList
  · cases assigned
  · exact not_mem_nil inList

end Truth

end OpenWind
