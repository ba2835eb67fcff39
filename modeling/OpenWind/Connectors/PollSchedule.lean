import OpenWind.Entity.Validation
import OpenWind.Lib.Joined
import OpenWind.Lib.Reconciling
import Mathlib.Algebra.Order.Ring.Unbundled.Rat
import Mathlib.Data.List.Induction

/-!
# The schedule of the polls

At every tick the scheduler lists the installations of each tenant and brings the repeatable jobs
of the queue in line with the polls that these connectors want.  The jobs of a tenant whose listing
failed are left alone, and so is a job that is right already: adding it again would put off its
next run.
-/

open List

namespace OpenWind

open Joined Reconciling

/-! ## The desired jobs -/

def MIN_INTERVAL_MINUTES : Rat := 1

def activeTenants (now : Time) (tenants : List SweepTenant) : List Id :=
  ((tenants.filter (·.status != "deleted")).filter fun t => t.trialEndsAt.all (now < ·)).map (·.id)

structure PollTrigger where
  type : String
  polling : Option (Option Rat)

/-- What a tick reads. -/
structure PollReads where
  now : Time
  tenants : List SweepTenant
  /-- The connectors that a tenant has installed and not disabled; none where listing throws. -/
  listing : Id → Option (List String)
  /-- The triggers of a registered connector. -/
  getConnectorDefinition : String → Option (List PollTrigger)

structure DesiredPollJob where
  tenantId : Id
  connectorId : String
  everyMs : Rat

def pollJobId (tenantId : Id) (connectorId : String) : String :=
  "connector-poll:" ++ tenantId.text ++ ":" ++ connectorId

def tenantIdOfJobKey (key : String) : String := ((splitText ':' key)[1]?).getD ""

namespace PollReads

variable (reads : PollReads)

def activeTenants : List Id := OpenWind.activeTenants reads.now reads.tenants

def everyMs (connectorId : String) : Option Rat := do
  let triggers ← reads.getConnectorDefinition connectorId
  let trigger ← triggers.find? (·.type == "polling")
  let intervalMinutes ← (← trigger.polling)
  if intervalMinutes < MIN_INTERVAL_MINUTES then none else some (intervalMinutes * 60000)

def failedTenantIds : List String :=
  (reads.activeTenants.filter fun tenantId => (reads.listing tenantId).isNone).map Id.text

def entriesOf (tenantId : Id) : List (String × DesiredPollJob) :=
  ((reads.listing tenantId).getD []).filterMap fun connectorId =>
    (reads.everyMs connectorId).map fun everyMs =>
      (pollJobId tenantId connectorId, ⟨tenantId, connectorId, everyMs⟩)

end PollReads

def setEntry {α : Type} (map : List (String × α)) (entry : String × α) : List (String × α) :=
  if map.any (·.1 == entry.1) then map.map fun e => if e.1 == entry.1 then entry else e
  else map ++ [entry]

def buildDesiredJobs (reads : PollReads) : List (String × DesiredPollJob) :=
  (reads.activeTenants.flatMap reads.entriesOf).foldl setEntry []

/-! ## A run of the reconciler -/

structure RepeatableJob where
  key : String
  every : Option Rat
  tenantId : Id
  connectorId : String
  /-- When its next run was planned. -/
  addedAt : Time
  deriving DecidableEq

def alreadyCorrect (reads : PollReads) (job : RepeatableJob) : Bool :=
  reads.failedTenantIds.contains (tenantIdOfJobKey job.key) ||
    ((buildDesiredJobs reads).lookup job.key).any fun wanted => job.every == some wanted.everyMs

/-- `connectorPollQueue.add`. -/
def repeatable (now : Time) (entry : String × DesiredPollJob) : RepeatableJob :=
  ⟨entry.1, some entry.2.everyMs, entry.2.tenantId, entry.2.connectorId, now⟩

def reconcileOps (reads : PollReads) (now : Time) (existing : List RepeatableJob) :
    List (Op String RepeatableJob) :=
  Reconciling.plan RepeatableJob.key (alreadyCorrect reads)
    ((buildDesiredJobs reads).map (repeatable now)) existing

def reconcile (reads : PollReads) (now : Time) (existing : List RepeatableJob) :
    List RepeatableJob :=
  applyAll RepeatableJob.key (reconcileOps reads now existing) existing

/-! ## Keys -/

theorem colon_not_mem_text (id : Id) : ':' ∉ id.text.toList := by
  rw [Id.text_toList]
  exact not_mem_toDigits rfl id

theorem pollJobId_toList (tenantId : Id) (connectorId : String) :
    (pollJobId tenantId connectorId).toList =
      "connector-poll".toList ++ ':' :: (tenantId.text.toList ++ ':' :: connectorId.toList) := by
  change ("connector-poll:" ++ tenantId.text ++ ":" ++ connectorId).toList = _
  simp

theorem pollJobId_injective {a b : Id} {c d : String} (same : pollJobId a c = pollJobId b d) :
    a = b ∧ c = d := by
  have lists := congrArg String.toList same
  rw [pollJobId_toList, pollJobId_toList] at lists
  have rest := (cons.inj (append_cancel_left lists)).2
  obtain ⟨tenant, connector⟩ := cut_unique (colon_not_mem_text a) (colon_not_mem_text b) rest
  rw [Id.text_toList, Id.text_toList] at tenant
  exact ⟨toDigits_injective tenant, String.toList_injective connector⟩

theorem tenantIdOfJobKey_pollJobId (tenantId : Id) (connectorId : String) :
    tenantIdOfJobKey (pollJobId tenantId connectorId) = tenantId.text := by
  unfold tenantIdOfJobKey splitText
  rw [pollJobId_toList, splitOn_append_cons_self_of_not_mem (by decide),
    splitOn_append_cons_self_of_not_mem (colon_not_mem_text tenantId)]
  simp

/-! ## The map -/

variable {α : Type} {entry : String × DesiredPollJob} {key : String} {every : Rat}
  {job : RepeatableJob}

theorem mem_setEntry {map : List (String × α)} {entry other : String × α} :
    other ∈ setEntry map entry ↔ other = entry ∨ (other ∈ map ∧ other.1 ≠ entry.1) := by
  unfold setEntry
  split
  · next held =>
    obtain ⟨old, there, same⟩ := any_eq_true.mp held
    rw [mem_map]
    constructor
    · rintro ⟨e, mem, rfl⟩
      by_cases key : e.1 = entry.1
      · exact .inl (if_pos (beq_iff_eq.mpr key))
      · rw [if_neg (mt eq_of_beq key)]
        exact .inr ⟨mem, key⟩
    · rintro (rfl | ⟨mem, key⟩)
      · exact ⟨old, there, if_pos same⟩
      · exact ⟨other, mem, if_neg (mt eq_of_beq key)⟩
  · next absent =>
    rw [mem_append, mem_singleton]
    constructor
    · rintro (mem | rfl)
      · exact .inr ⟨mem, fun key => absent (any_eq_true.mpr ⟨other, mem, beq_iff_eq.mpr key⟩)⟩
      · exact .inl rfl
    · rintro (rfl | ⟨mem, _⟩)
      · exact .inr rfl
      · exact .inl mem

theorem setEntry_keys {map : List (String × α)} (unique : (map.map (·.1)).Nodup)
    (entry : String × α) : ((setEntry map entry).map (·.1)).Nodup := by
  unfold setEntry
  split
  · have same : (map.map fun e => if e.1 == entry.1 then entry else e).map (·.1) =
        map.map (·.1) := by
      rw [map_map]
      refine map_congr_left fun e _ => ?_
      by_cases key : e.1 = entry.1 <;> simp [key]
    rw [same]
    exact unique
  · next absent =>
    rw [map_append, map_singleton]
    refine List.nodup_append.mpr ⟨unique, nodup_singleton _, ?_⟩
    rintro k held _ here rfl
    obtain ⟨e, mem, key⟩ := mem_map.mp held
    refine absent (any_eq_true.mpr ⟨e, mem, beq_iff_eq.mpr ?_⟩)
    exact key.trans (mem_singleton.mp here)

theorem mem_setEntries {entries : List (String × α)}
    (functional : ∀ e ∈ entries, ∀ other ∈ entries, e.1 = other.1 → e = other) {entry : String × α} :
    entry ∈ entries.foldl setEntry [] ↔ entry ∈ entries := by
  induction entries using reverseRecOn with
  | nil => exact Iff.rfl
  | append_singleton entries last ih =>
    have before := ih fun e mem other there =>
      functional e (mem_append_left _ mem) other (mem_append_left _ there)
    rw [foldl_append, foldl_cons, foldl_nil, mem_setEntry, before, mem_append, mem_singleton]
    constructor
    · rintro (rfl | ⟨mem, _⟩)
      · exact .inr rfl
      · exact .inl mem
    · rintro (mem | rfl)
      · by_cases key : entry.1 = last.1
        · exact .inl (functional entry (mem_append_left _ mem) last
            (mem_append_right _ (mem_singleton_self last)) key)
        · exact .inr ⟨mem, key⟩
      · exact .inl rfl

theorem setEntries_keys (entries : List (String × α)) :
    ((entries.foldl setEntry []).map (·.1)).Nodup := by
  induction entries using reverseRecOn with
  | nil => exact nodup_nil
  | append_singleton entries last ih =>
    rw [foldl_append, foldl_cons, foldl_nil]
    exact setEntry_keys ih last

/-! ## What is desired -/

def Desired (reads : PollReads) (key : String) (every : Rat) : Prop :=
  ∃ tenantId ∈ reads.activeTenants, ∃ connectors, reads.listing tenantId = some connectors ∧
    ∃ connectorId ∈ connectors, reads.everyMs connectorId = some every ∧
      key = pollJobId tenantId connectorId

def OfFailedTenant (reads : PollReads) (key : String) : Prop :=
  tenantIdOfJobKey key ∈ reads.failedTenantIds

variable {reads : PollReads}

theorem mem_entriesOf {tenantId : Id} :
    entry ∈ reads.entriesOf tenantId ↔ ∃ connectors, reads.listing tenantId = some connectors ∧
      ∃ connectorId ∈ connectors, ∃ every, reads.everyMs connectorId = some every ∧
        entry = (pollJobId tenantId connectorId, ⟨tenantId, connectorId, every⟩) := by
  unfold PollReads.entriesOf
  rw [mem_filterMap]
  constructor
  · rintro ⟨connectorId, mem, made⟩
    obtain ⟨every, polled, rfl⟩ := Option.map_eq_some_iff.mp made
    cases listed : reads.listing tenantId with
    | none =>
      rw [listed] at mem
      cases mem
    | some connectors =>
      rw [listed] at mem
      exact ⟨connectors, rfl, connectorId, mem, every, polled, rfl⟩
  · rintro ⟨connectors, listed, connectorId, mem, every, polled, rfl⟩
    refine ⟨connectorId, ?_, ?_⟩
    · rw [listed]
      exact mem
    · rw [polled]
      rfl

theorem mem_buildDesiredJobs :
    entry ∈ buildDesiredJobs reads ↔
      ∃ tenantId ∈ reads.activeTenants, entry ∈ reads.entriesOf tenantId := by
  unfold buildDesiredJobs
  rw [mem_setEntries, mem_flatMap]
  intro e mem other there same
  obtain ⟨tenant, _, listed⟩ := mem_flatMap.mp mem
  obtain ⟨tenant', _, listed'⟩ := mem_flatMap.mp there
  obtain ⟨_, _, connector, _, every, polled, rfl⟩ := mem_entriesOf.mp listed
  obtain ⟨_, _, connector', _, every', polled', rfl⟩ := mem_entriesOf.mp listed'
  obtain ⟨rfl, rfl⟩ := pollJobId_injective same
  rw [polled] at polled'
  cases polled'
  rfl

theorem desired_iff :
    Desired reads key every ↔
      ∃ target, (key, target) ∈ buildDesiredJobs reads ∧ target.everyMs = every := by
  constructor
  · rintro ⟨tenantId, active, connectors, listed, connectorId, mem, polled, rfl⟩
    refine ⟨⟨tenantId, connectorId, every⟩, mem_buildDesiredJobs.mpr ⟨tenantId, active, ?_⟩, rfl⟩
    exact mem_entriesOf.mpr ⟨connectors, listed, connectorId, mem, every, polled, rfl⟩
  · rintro ⟨target, mem, rfl⟩
    obtain ⟨tenantId, active, there⟩ := mem_buildDesiredJobs.mp mem
    obtain ⟨connectors, listed, connectorId, among, every, polled, same⟩ := mem_entriesOf.mp there
    cases same
    exact ⟨tenantId, active, connectors, listed, connectorId, among, polled, rfl⟩

theorem Desired.not_failed (desired : Desired reads key every) : ¬ OfFailedTenant reads key := by
  obtain ⟨tenantId, _, connectors, listed, connectorId, _, _, rfl⟩ := desired
  unfold OfFailedTenant PollReads.failedTenantIds
  rw [tenantIdOfJobKey_pollJobId]
  intro failed
  obtain ⟨other, mem, same⟩ := mem_map.mp failed
  have threw := (mem_filter.mp mem).2
  have digits := congrArg String.toList same
  rw [Id.text_toList, Id.text_toList] at digits
  rw [toDigits_injective digits, listed] at threw
  cases threw

theorem lookup_eq_some {map : List (String × α)} (unique : (map.map (·.1)).Nodup) {value : α} :
    map.lookup key = some value ↔ (key, value) ∈ map := by
  constructor
  · intro found
    obtain ⟨before, after, rfl, _⟩ := lookup_eq_some_iff.mp found
    exact mem_append_right _ mem_cons_self
  · exact fun mem => Shape.lookup_of_mem unique mem

theorem alreadyCorrect_iff :
    alreadyCorrect reads job ↔
      OfFailedTenant reads job.key ∨ ∃ every, Desired reads job.key every ∧ job.every = some every := by
  unfold alreadyCorrect OfFailedTenant
  rw [Bool.or_eq_true, contains_iff_mem, Option.any_eq_true]
  refine or_congr_right ?_
  constructor
  · rintro ⟨target, found, same⟩
    have mem := (lookup_eq_some (setEntries_keys _)).mp found
    exact ⟨target.everyMs, desired_iff.mpr ⟨target, mem, rfl⟩, eq_of_beq same⟩
  · rintro ⟨every, desired, same⟩
    obtain ⟨target, mem, rfl⟩ := desired_iff.mp desired
    exact ⟨target, (lookup_eq_some (setEntries_keys _)).mpr mem, beq_iff_eq.mpr same⟩

theorem desired_functional {every other : Rat} (one : Desired reads key every)
    (two : Desired reads key other) : every = other := by
  obtain ⟨target, mem, rfl⟩ := desired_iff.mp one
  obtain ⟨target', there, rfl⟩ := desired_iff.mp two
  have found := (lookup_eq_some (setEntries_keys _)).mpr mem
  rw [(lookup_eq_some (setEntries_keys _)).mpr there] at found
  cases found
  rfl

/-! ## Convergence -/

variable {now : Time} {existing : List RepeatableJob}

theorem repeatable_keys : ((buildDesiredJobs reads).map (repeatable now)).map RepeatableJob.key =
    (buildDesiredJobs reads).map (·.1) := by
  rw [map_map]
  rfl

theorem reconcile_eq (unique : (existing.map RepeatableJob.key).Nodup) :
    reconcile reads now existing = reconciled RepeatableJob.key (alreadyCorrect reads)
      ((buildDesiredJobs reads).map (repeatable now)) existing := by
  refine applyAll_plan unique ?_
  rw [repeatable_keys]
  exact setEntries_keys _

theorem repeatable_correct (mem : job ∈ (buildDesiredJobs reads).map (repeatable now)) :
    ∃ every, Desired reads job.key every ∧ job.every = some every := by
  obtain ⟨⟨key, target⟩, there, rfl⟩ := mem_map.mp mem
  exact ⟨target.everyMs, desired_iff.mpr ⟨target, there, rfl⟩, rfl⟩

theorem reconcile_jobs (unique : (existing.map RepeatableJob.key).Nodup) (key : String)
    (every : Option Rat) :
    (∃ job ∈ reconcile reads now existing, job.key = key ∧ job.every = every) ↔
      (∃ ms, Desired reads key ms ∧ every = some ms) ∨
        (OfFailedTenant reads key ∧ ∃ job ∈ existing, job.key = key ∧ job.every = every) := by
  rw [reconcile_eq unique]
  constructor
  · rintro ⟨job, mem, rfl, rfl⟩
    rcases mem_reconciled.mp mem with ⟨held, correct⟩ | ⟨new, _⟩
    · rcases alreadyCorrect_iff.mp correct with failed | desired
      · exact .inr ⟨failed, job, held, rfl, rfl⟩
      · exact .inl desired
    · exact .inl (repeatable_correct new)
  · rintro (⟨ms, desired, rfl⟩ | ⟨failed, job, held, rfl, rfl⟩)
    · by_cases covered : key ∈ correct RepeatableJob.key (alreadyCorrect reads) existing
      · obtain ⟨job, there, rfl⟩ := mem_map.mp covered
        obtain ⟨held, good⟩ := mem_filter.mp there
        refine ⟨job, mem_reconciled.mpr (.inl ⟨held, good⟩), rfl, ?_⟩
        rcases alreadyCorrect_iff.mp good with failed | ⟨other, wanted, same⟩
        · exact absurd failed desired.not_failed
        · rw [same, desired_functional desired wanted]
      · obtain ⟨target, there, rfl⟩ := desired_iff.mp desired
        exact ⟨repeatable now (key, target), mem_reconciled.mpr (.inr
          ⟨mem_map_of_mem there, covered⟩), rfl, rfl⟩
    · exact ⟨job, mem_reconciled.mpr (.inl ⟨held, alreadyCorrect_iff.mpr (.inl failed)⟩), rfl, rfl⟩

/-- After one run the jobs are exactly the desired ones and those that the failed tenants had; a
job that was right, or is a failed tenant's, is as it was and no call was about it; and a second
run makes no calls. -/
theorem poll_schedule_converges (reads : PollReads) (now later : Time)
    (existing : List RepeatableJob) (unique : (existing.map RepeatableJob.key).Nodup) :
    (∀ key every, (∃ job ∈ reconcile reads now existing, job.key = key ∧ job.every = every) ↔
        (∃ ms, Desired reads key ms ∧ every = some ms) ∨
          (OfFailedTenant reads key ∧ ∃ job ∈ existing, job.key = key ∧ job.every = every)) ∧
      ((reconcile reads now existing).map RepeatableJob.key).Nodup ∧
      (∀ job ∈ existing, OfFailedTenant reads job.key ∨
          (∃ ms, Desired reads job.key ms ∧ job.every = some ms) →
        job ∈ reconcile reads now existing ∧
          ∀ op ∈ reconcileOps reads now existing, op.key RepeatableJob.key ≠ job.key) ∧
      reconcileOps reads later (reconcile reads now existing) = [] ∧
      reconcile reads later (reconcile reads now existing) = reconcile reads now existing := by
  have distinct : (((buildDesiredJobs reads).map (repeatable now)).map RepeatableJob.key).Nodup := by
    rw [repeatable_keys]
    exact setEntries_keys _
  have idle : reconcileOps reads later (reconcile reads now existing) = [] := by
    rw [reconcile_eq unique]
    refine plan_reconciled (fun job mem => ?_) fun job mem => ?_
    · exact alreadyCorrect_iff.mpr (.inr (repeatable_correct mem))
    · have keyed := mem_map_of_mem (f := RepeatableJob.key) mem
      rw [repeatable_keys] at keyed ⊢
      exact keyed
  refine ⟨reconcile_jobs unique, ?_, fun job held good => ?_, idle, ?_⟩
  · rw [reconcile_eq unique]
    exact reconciled_unique unique distinct
  · have correct := alreadyCorrect_iff.mpr good
    refine ⟨?_, untouched unique held correct⟩
    rw [reconcile_eq unique]
    exact mem_reconciled.mpr (.inl ⟨held, correct⟩)
  · unfold reconcile at idle ⊢
    rw [idle]
    rfl

def twoTenants : PollReads where
  now := 50
  tenants := [⟨1, "active", none⟩, ⟨2, "active", some 60⟩, ⟨9, "active", some 40⟩]
  listing tenantId := if tenantId = 1 then some ["mail", "chat"] else none
  getConnectorDefinition connectorId :=
    if connectorId = "mail" then some [⟨"polling", some (some 5)⟩]
    else some [⟨"polling", some (some 10)⟩]

def mixedJobs : List RepeatableJob :=
  [⟨"connector-poll:1:mail", some 300000, 1, "mail", 10⟩,
    ⟨"connector-poll:1:chat", some 60000, 1, "chat", 20⟩,
    ⟨"connector-poll:9:mail", some 300000, 9, "mail", 30⟩,
    ⟨"connector-poll:2:mail", some 900000, 2, "mail", 40⟩]

theorem poll_schedule_converges_at_mixed_jobs :
    (∀ key every, (∃ job ∈ reconcile twoTenants 100 mixedJobs, job.key = key ∧ job.every = every) ↔
        (∃ ms, Desired twoTenants key ms ∧ every = some ms) ∨
          (OfFailedTenant twoTenants key ∧ ∃ job ∈ mixedJobs, job.key = key ∧ job.every = every)) ∧
      ((reconcile twoTenants 100 mixedJobs).map RepeatableJob.key).Nodup ∧
      (∀ job ∈ mixedJobs, OfFailedTenant twoTenants job.key ∨
          (∃ ms, Desired twoTenants job.key ms ∧ job.every = some ms) →
        job ∈ reconcile twoTenants 100 mixedJobs ∧
          ∀ op ∈ reconcileOps twoTenants 100 mixedJobs, op.key RepeatableJob.key ≠ job.key) ∧
      reconcileOps twoTenants 200 (reconcile twoTenants 100 mixedJobs) = [] ∧
      reconcile twoTenants 200 (reconcile twoTenants 100 mixedJobs) =
        reconcile twoTenants 100 mixedJobs :=
  poll_schedule_converges twoTenants 100 200 mixedJobs (by decide)

example : (reconcile twoTenants 100 mixedJobs).map (fun job => (job.key, job.addedAt)) =
    [("connector-poll:1:mail", 10), ("connector-poll:2:mail", 40),
      ("connector-poll:1:chat", 100)] := by decide +kernel

end OpenWind
