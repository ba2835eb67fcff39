import OpenWind.Schema
import OpenWind.Lib.Runs
import OpenWind.Lib.Calls
import OpenWind.Lib.Tally
import OpenWind.Lib.Rows

/-!
# The retention of the access log

A sweep takes the oldest rows of `admin_audit_log` that are past the retention window, a batch
at a time.  One statement selects the batch, adds its counts to the daily rollup and deletes its
rows; it sees the rows as they were committed when it began, and another sweep's statement may
be under way.
-/

open List Option

namespace OpenWind

open Runs Tally

def RETENTION_DAYS : Nat := 90

def BATCH_LIMIT : Nat := 5000

def MAX_BATCHES_PER_RUN : Nat := 20

/-- The milliseconds of a day. -/
def dayMs : Nat := 24 * 60 * 60 * 1000

/-! ## Rows and groups -/

structure AuditLogRow where
  id : Id
  tenantId : Id
  resourceType : String
  action : String
  createdAt : Time
  deriving DecidableEq

/-- The key of `admin_audit_log_daily_rollup`. -/
structure RollupKey where
  tenantId : Id
  day : Nat
  resourceType : String
  action : String
  deriving DecidableEq

def AuditLogRow.rollupKey (row : AuditLogRow) : RollupKey :=
  ⟨row.tenantId, row.createdAt / dayMs, row.resourceType, row.action⟩

/-! ## Sweeps -/

inductive SweepPhase
  | ready
  | selected (batch : List AuditLogRow)
  | ended

/-- `runAccessLogRetentionSweep` -/
structure AccessLogSweep where
  batchNum : Nat := 0
  totalDeleted : Nat := 0
  phase : SweepPhase := .ready

structure AccessLog where
  now : Time
  logged : List AuditLogRow
  detail : List AuditLogRow
  /-- The counts, zero where there is no row. -/
  rollup : RollupKey → Nat
  sweeps : List AccessLogSweep

inductive AccessLogLabel
  | log (row : AuditLogRow)
  | tick (time : Nat)
  | start
  | select (i : Nat) (ordered : List AuditLogRow)
  | commit (i : Nat)
  | stop (i : Nat)

namespace AccessLog

def expired (w : AccessLog) : List AuditLogRow :=
  w.detail.filter fun row => decide (row.createdAt + RETENTION_DAYS * dayMs < w.now)

def put (w : AccessLog) (i : Nat) (sweep : AccessLogSweep) : AccessLog :=
  { w with sweeps := w.sweeps.set i sweep }

def deleted (w : AccessLog) (batch : List AuditLogRow) : List AuditLogRow :=
  w.detail.filter fun row => decide (row.id ∈ batch.map AuditLogRow.id)

def afterBatch (sweep : AccessLogSweep) (deleted : Nat) : AccessLogSweep where
  batchNum := sweep.batchNum + 1
  totalDeleted := sweep.totalDeleted + deleted
  phase :=
    if deleted < BATCH_LIMIT ∨ MAX_BATCHES_PER_RUN ≤ sweep.batchNum + 1 then .ended else .ready

def commitBatch (w : AccessLog) (i : Nat) (sweep : AccessLogSweep) (batch : List AuditLogRow) :
    AccessLog :=
  { w with
    detail := w.detail.filter fun row => decide (row.id ∉ batch.map AuditLogRow.id)
    rollup := fun key => w.rollup key + tally AuditLogRow.rollupKey batch key }.put i
      (afterBatch sweep (w.deleted batch).length)

def step (w : AccessLog) : AccessLogLabel → Option AccessLog
  | .log row =>
    if row.id ∈ w.logged.map (·.id) then none
    else some { w with logged := w.logged ++ [row], detail := w.detail ++ [row] }
  | .tick time => some { w with now := w.now + time }
  | .start => some { w with sweeps := w.sweeps ++ [{}] }
  | .select i ordered =>
    w.sweeps[i]?.bind fun sweep =>
      match sweep.phase with
      | .ready =>
        if ordered.Perm w.expired ∧ ordered.Pairwise (fun a b => a.createdAt ≤ b.createdAt) then
          some (w.put i { sweep with phase := .selected (ordered.take BATCH_LIMIT) })
        else none
      | _ => none
  | .commit i =>
    w.sweeps[i]?.bind fun sweep =>
      match sweep.phase with
      | .selected batch => some (w.commitBatch i sweep batch)
      | _ => none
  | .stop i => w.sweeps[i]?.map fun sweep => w.put i { sweep with phase := .ended }

/-- Nothing is logged. -/
def empty (now : Time) : AccessLog := ⟨now, [], [], fun _ => 0, []⟩

/-! ## Conservation -/

def Conserves (w : AccessLog) : Prop :=
  ∀ key, w.rollup key + tally AuditLogRow.rollupKey w.detail key =
    tally AuditLogRow.rollupKey w.logged key

def CommitsWhole (w : AccessLog) : AccessLogLabel → Prop
  | .commit i => ∀ sweep batch, w.sweeps[i]? = some sweep → sweep.phase = .selected batch →
      ∀ row ∈ batch, row ∈ w.detail
  | _ => True

structure Sound (w : AccessLog) : Prop where
  ids : (w.logged.map (·.id)).Nodup
  detail : w.detail.Sublist w.logged
  batches : ∀ sweep ∈ w.sweeps, ∀ batch, sweep.phase = .selected batch →
    batch.Nodup ∧ ∀ row ∈ batch, row ∈ w.logged

variable {w w' : AccessLog}

theorem Sound.distinct (sound : w.Sound) : w.detail.Nodup :=
  (Nodup.of_map _ sound.ids).sublist sound.detail

theorem Sound.mem_batch_iff (sound : w.Sound) {batch : List AuditLogRow}
    (logged : ∀ row ∈ batch, row ∈ w.logged) {row : AuditLogRow} (mem : row ∈ w.detail) :
    row.id ∈ batch.map AuditLogRow.id ↔ row ∈ batch := by
  constructor
  · intro named
    obtain ⟨other, member, same⟩ := List.mem_map.mp named
    rw [← Rows.eq_of_key sound.ids (logged other member) (sound.detail.subset mem) same]
    exact member
  · intro member
    exact List.mem_map_of_mem member

theorem Sound.put (sound : w.Sound) (i : Nat) {sweep : AccessLogSweep}
    (batches : ∀ batch, sweep.phase = .selected batch →
      batch.Nodup ∧ ∀ row ∈ batch, row ∈ w.logged) : (w.put i sweep).Sound where
  ids := sound.ids
  detail := sound.detail
  batches other mem := by
    rcases Calls.of_mem_replaced mem with rfl | old
    · exact batches
    · exact sound.batches other old

theorem Sound.idle (sound : w.Sound) (i : Nat) {sweep : AccessLogSweep}
    (idle : ∀ batch, sweep.phase ≠ .selected batch) : (w.put i sweep).Sound :=
  sound.put i fun batch selected => absurd selected (idle batch)

theorem afterBatch_idle (sweep : AccessLogSweep) (deleted : Nat) (batch : List AuditLogRow) :
    (afterBatch sweep deleted).phase ≠ .selected batch := by
  unfold afterBatch
  dsimp only
  split
  · exact fun selected => by cases selected
  · exact fun selected => by cases selected

theorem Sound.commitBatch (sound : w.Sound) (i : Nat) (sweep : AccessLogSweep)
    (batch : List AuditLogRow) : (w.commitBatch i sweep batch).Sound := by
  have kept : Sound { w with
      detail := w.detail.filter fun row => decide (row.id ∉ batch.map AuditLogRow.id)
      rollup := fun key => w.rollup key + tally AuditLogRow.rollupKey batch key } :=
    ⟨sound.ids, filter_sublist.trans sound.detail, sound.batches⟩
  exact kept.idle i (afterBatch_idle sweep _)

theorem Sound.step (sound : w.Sound) {label : AccessLogLabel}
    (stepped : w.step label = some w') : w'.Sound := by
  cases label with
  | log row =>
    rw [AccessLog.step] at stepped
    split at stepped
    · cases stepped
    · next fresh =>
      cases stepped
      refine ⟨Rows.nodup_append sound.ids fresh, sound.detail.append_right [row], ?_⟩
      intro sweep mem batch selected
      obtain ⟨distinct, logged⟩ := sound.batches sweep mem batch selected
      exact ⟨distinct, fun row member => mem_append_left _ (logged row member)⟩
  | tick time =>
    cases stepped
    exact ⟨sound.ids, sound.detail, sound.batches⟩
  | start =>
    cases stepped
    refine ⟨sound.ids, sound.detail, fun sweep mem => ?_⟩
    rcases Calls.of_mem_began mem with rfl | old
    · exact fun batch selected => by cases selected
    · exact sound.batches sweep old
  | select i ordered =>
    obtain ⟨sweep, here, stepped⟩ := bind_eq_some_iff.mp stepped
    split at stepped
    · split at stepped
      · next sorted =>
        cases stepped
        apply sound.put i
        intro batch selected
        cases selected
        have old : ∀ row ∈ ordered.take BATCH_LIMIT, row ∈ w.logged := by
          intro row mem
          have expired := sorted.1.subset (mem_of_mem_take mem)
          exact sound.detail.subset (mem_filter.mp expired).1
        have distinct : ordered.Nodup :=
          sorted.1.nodup_iff.mpr (sound.distinct.filter _)
        exact ⟨distinct.sublist (take_sublist _ _), old⟩
      · cases stepped
    · cases stepped
  | commit i =>
    obtain ⟨sweep, here, stepped⟩ := bind_eq_some_iff.mp stepped
    split at stepped <;> cases stepped
    exact sound.commitBatch i sweep _
  | stop i =>
    obtain ⟨sweep, here, rfl⟩ := map_eq_some_iff.mp stepped
    exact sound.idle i fun batch selected => by cases selected

theorem commitBatch_conserves_iff (sound : w.Sound) (conserves : w.Conserves) {i : Nat}
    {sweep : AccessLogSweep} {batch : List AuditLogRow} (here : w.sweeps[i]? = some sweep)
    (selected : sweep.phase = .selected batch) :
    (w.commitBatch i sweep batch).Conserves ↔ ∀ row ∈ batch, row ∈ w.detail := by
  obtain ⟨distinct, logged⟩ :=
    sound.batches sweep (mem_of_getElem? here) batch selected
  have kept : (w.detail.filter fun row => decide (row.id ∉ batch.map AuditLogRow.id)) =
      w.detail.filter fun row => decide (row ∉ batch) := by
    apply List.filter_congr
    intro row mem
    rw [decide_eq_decide, sound.mem_batch_iff logged mem]
  rw [← tally_move_iff sound.distinct distinct conserves]
  unfold Conserves commitBatch AccessLog.put
  rw [kept]

theorem step_conserves_iff (sound : w.Sound) (conserves : w.Conserves) {label : AccessLogLabel} :
    w.CommitsWhole label ↔ ∀ w', w.step label = some w' → w'.Conserves := by
  cases label with
  | commit i =>
    constructor
    · intro whole w' stepped
      obtain ⟨sweep, here, stepped⟩ := bind_eq_some_iff.mp stepped
      split at stepped
      · next batch selected =>
        cases stepped
        exact (commitBatch_conserves_iff sound conserves here selected).mpr
          (whole sweep batch here selected)
      · cases stepped
    · intro kept sweep batch here selected
      have stepped : w.step (.commit i) = some (w.commitBatch i sweep batch) := by
        simp [AccessLog.step, here, selected]
      exact (commitBatch_conserves_iff sound conserves here selected).mp (kept _ stepped)
  | log row =>
    refine ⟨fun _ w' stepped => ?_, fun _ => trivial⟩
    rw [AccessLog.step] at stepped
    split at stepped <;> cases stepped
    intro key
    have before := conserves key
    simp only [tally_append]
    omega
  | select i ordered =>
    refine ⟨fun _ w' stepped => ?_, fun _ => trivial⟩
    obtain ⟨sweep, -, stepped⟩ := bind_eq_some_iff.mp stepped
    split at stepped
    · split at stepped <;> cases stepped
      exact conserves
    · cases stepped
  | tick | start =>
    refine ⟨fun _ w' stepped => ?_, fun _ => trivial⟩
    cases stepped
    exact conserves
  | stop i =>
    refine ⟨fun _ w' stepped => ?_, fun _ => trivial⟩
    obtain ⟨sweep, -, rfl⟩ := map_eq_some_iff.mp stepped
    exact conserves

theorem empty_sound (now : Time) : (empty now).Sound :=
  ⟨nodup_nil, Sublist.slnil, fun _ mem => by cases mem⟩

theorem empty_conserves (now : Time) : (empty now).Conserves := fun _ => rfl

end AccessLog

/-- The rolled-up counts and the remaining rows add up to what was logged throughout a run
exactly when each batch that commits finds all of its rows there. -/
theorem access_log_conserved_iff (now : Time) (labels : List AccessLogLabel) :
    Always AccessLog.step AccessLog.Conserves (AccessLog.empty now) labels ↔
      Guarded AccessLog.step AccessLog.CommitsWhole (AccessLog.empty now) labels :=
  guarded_iff (fun sound _ stepped _ => sound.step stepped)
    (fun sound conserves => AccessLog.step_conserves_iff sound conserves)
    (AccessLog.empty_sound now) (AccessLog.empty_conserves now)

/-! ## Two sweeps over the same rows -/

def viewedRow : AuditLogRow := ⟨1, 7, "ticket", "viewed", 0⟩

def sweptTwice : List AccessLogLabel :=
  [.log viewedRow, .tick (91 * dayMs), .start, .start, .select 0 [viewedRow],
    .select 1 [viewedRow], .commit 0, .commit 1]

/-- The one access is counted twice. -/
theorem access_counted_twice :
    ∃ w, run AccessLog.step (AccessLog.empty 0) sweptTwice = some w ∧ ¬w.Conserves := by
  have counted : (run AccessLog.step (AccessLog.empty 0) sweptTwice).any (fun w =>
      w.rollup viewedRow.rollupKey == 2 && w.detail.isEmpty && w.logged == [viewedRow]) = true := by
    decide +kernel
  obtain ⟨w, ran, facts⟩ := (Option.any_eq_true _ _).mp counted
  simp only [Bool.and_eq_true, beq_iff_eq, List.isEmpty_iff] at facts
  obtain ⟨⟨rolledUp, gone⟩, once⟩ := facts
  refine ⟨w, ran, fun conserves => ?_⟩
  have sum := conserves viewedRow.rollupKey
  rw [rolledUp, gone, once] at sum
  exact absurd sum (by decide)

end OpenWind
