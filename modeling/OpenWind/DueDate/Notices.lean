import OpenWind.DueDate.Scheduler

/-!
# One notice for a due date

A notice that a record is overdue at a date comes from a job of that date, and a job
from a row of the outbox.  Rows without a job, waiting jobs and notices of one date are
together at most one, as long as a record is not given a date back for which a job waits
or a notice was written, and a job that wrote its notice is not run again.
-/

open List Option Bool

namespace OpenWind

open Txn OutboxEvent

/-! ## Notices -/

def Db.notices (db : Db) (instanceId : Id) (dueDate : Time) : List OutboxEvent :=
  db.outboxEvents.filter (OutboxEvent.isFor dueDateOverdueType instanceId dueDate)

def DueState.NoticedOnce (s : DueState) : Prop :=
  ∀ instanceId dueDate, (s.db.notices instanceId dueDate).length ≤ 1

/-! ## The machine -/

inductive NoticeLabel
  | call (call : DueCall)
  | poll (now : Time) (failed unsettled : List Id) (commits : Bool)
  | work (rowId : Id) (active acknowledged : Bool) (supply : EntitySupply)

def DueState.step (s : DueState) : NoticeLabel → Option DueState
  | .call call => s.after call.now { s with db := call.commit s.db }
  | .poll now failed unsettled commits => s.after now (s.poll now failed unsettled commits)
  | .work rowId active acknowledged supply =>
    (s.work rowId active acknowledged supply).bind (s.after supply.now)

/-! ## Conditions -/

def DueState.Unnoticed (s : DueState) (instanceId : Id) (dueDate : Time) : Prop :=
  (∀ job ∈ s.waiting, job.isFor instanceId dueDate = false) ∧ s.db.notices instanceId dueDate = []

instance (s : DueState) (instanceId : Id) (dueDate : Time) :
    Decidable (s.Unnoticed instanceId dueDate) :=
  inferInstanceAs (Decidable (_ ∧ _))

def DueState.Allowed (s : DueState) : NoticeLabel → Prop
  | .call (.updateEntity _ tenantId instanceId input _) =>
    ∀ existing ∈ s.db.entityInstances.find? (EntityInstance.isLive tenantId instanceId),
      ∀ dueDate ∈ input.dueDate.join, existing.dueDate ≠ some dueDate →
        s.Unnoticed instanceId dueDate
  | .work rowId active acknowledged _ =>
    ∀ job ∈ s.waiting.find? (fun job => job.outboxEventId == rowId),
      acknowledged = true ∨ active = false ∨ s.db.isDueAt job = false
  | _ => True

/-! ## Accounts -/

namespace DueState

def queues (s : DueState) (instanceId : Id) (dueDate : Time) (row : OutboxEvent) : Bool :=
  row.deliveredAt == none && row.isFor dueDateScheduled instanceId dueDate && !s.hasJob row.id

def owed (s : DueState) (instanceId : Id) (dueDate : Time) : Nat :=
  s.db.dues.countP (s.queues instanceId dueDate) +
    s.waiting.countP (DueDateJob.isFor instanceId dueDate) +
    s.db.dues.countP (OutboxEvent.isFor dueDateOverdueType instanceId dueDate)

/-- The invariant of the runs. -/
structure Fair (s : DueState) : Prop where
  sound : s.Sound
  owed : ∀ instanceId dueDate, s.owed instanceId dueDate ≤ 1

end DueState

theorem OutboxEvent.isDue_of_isFor {row : OutboxEvent} {instanceId : Id} {dueDate : Time}
    (isFor : row.isFor dueDateOverdueType instanceId dueDate) : row.isDue := by
  obtain ⟨payload, read, -⟩ := (Option.any_eq_true _ _).mp isFor
  unfold isDue
  rw [eventType_of_dueDate read]
  rfl

theorem Db.length_notices (db : Db) (instanceId : Id) (dueDate : Time) :
    (db.notices instanceId dueDate).length =
      db.dues.countP (OutboxEvent.isFor dueDateOverdueType instanceId dueDate) := by
  unfold notices dues
  rw [countP_filter, ← countP_eq_length_filter]
  refine countP_congr fun row _ => ?_
  rw [and_eq_true]
  exact ⟨fun isFor => ⟨isFor, isDue_of_isFor isFor⟩, And.left⟩

theorem DueState.Fair.noticedOnce {s : DueState} (fair : s.Fair) : s.NoticedOnce := by
  intro instanceId dueDate
  have owed := fair.owed instanceId dueDate
  unfold DueState.owed at owed
  rw [s.db.length_notices]
  omega

/-! ## Steps -/

section Steps

variable {s t : DueState}

theorem countP_delivered_le {q q' : OutboxEvent → Bool} (p : OutboxEvent → Bool) (now : Time)
    {dues : List OutboxEvent} (weaker : ∀ r ∈ dues, q (if p r then r.deliver now else r) → q' r) :
    (dues.map fun r => if p r then r.deliver now else r).countP q ≤ dues.countP q' := by
  rw [countP_map]
  exact countP_mono_left weaker

theorem DueState.queues_of_delivered {instanceId : Id} {dueDate : Time}
    (jobs : ∀ id, s.hasJob id → t.hasJob id) (p : OutboxEvent → Bool) (now : Time)
    (row : OutboxEvent)
    (queues : t.queues instanceId dueDate (if p row then row.deliver now else row)) :
    p row = false ∧ s.queues instanceId dueDate row := by
  cases chosen : p row with
  | true =>
    rw [chosen] at queues
    exact absurd queues Bool.false_ne_true
  | false =>
    refine ⟨rfl, ?_⟩
    rw [chosen] at queues
    unfold DueState.queues at queues ⊢
    rw [and_eq_true, not_eq_true'] at queues ⊢
    refine ⟨queues.1, eq_false_iff.mpr fun has => ?_⟩
    exact absurd (queues.2.symm.trans (jobs _ has)) Bool.false_ne_true

section

variable (instanceId : Id) (dueDate : Time)

include instanceId dueDate

theorem DueState.queues_delivered_le
    (jobs : ∀ id, s.hasJob id → t.hasJob id) (p : OutboxEvent → Bool) (now : Time)
    (dues : List OutboxEvent) : (dues.map fun r => if p r then r.deliver now else r).countP
      (t.queues instanceId dueDate) ≤ dues.countP (s.queues instanceId dueDate) :=
  countP_delivered_le p now fun r _ queues => (queues_of_delivered jobs p now r queues).2

theorem OutboxEvent.notices_delivered_le
    (p : OutboxEvent → Bool) (now : Time) (dues : List OutboxEvent) :
    (dues.map fun r => if p r then r.deliver now else r).countP
        (isFor dueDateOverdueType instanceId dueDate) ≤
      dues.countP (isFor dueDateOverdueType instanceId dueDate) :=
  countP_delivered_le p now fun r _ isFor =>
    (isFor_ite_deliver instanceId dueDate p now _ r).symm.trans isFor

theorem DueState.owed_delivered
    (jobs : ∀ id, s.hasJob id → t.hasJob id)
    (waiting : t.waiting.countP (DueDateJob.isFor instanceId dueDate) ≤
      s.waiting.countP (DueDateJob.isFor instanceId dueDate))
    (p : OutboxEvent → Bool) (now : Time)
    (dues : t.db.dues = s.db.dues.map fun r => if p r then r.deliver now else r) :
    t.owed instanceId dueDate ≤ s.owed instanceId dueDate := by
  unfold DueState.owed
  rw [dues]
  have pending := queues_delivered_le instanceId dueDate jobs p now s.db.dues
  have noticed := notices_delivered_le instanceId dueDate p now s.db.dues
  omega

theorem DueState.owed_same
    (jobs : ∀ id, s.hasJob id → t.hasJob id)
    (waiting : t.waiting.countP (DueDateJob.isFor instanceId dueDate) ≤
      s.waiting.countP (DueDateJob.isFor instanceId dueDate))
    (dues : t.db.dues = s.db.dues) :
    t.owed instanceId dueDate ≤ s.owed instanceId dueDate := by
  refine owed_delivered instanceId dueDate jobs waiting (fun _ => false) 0 ?_
  rw [dues]
  exact (List.map_id _).symm

end

theorem DueState.owed_rescheduled {tenantId : Id} {row : EntityInstance}
    {oldDueDate newDueDate : Option Time} {supply : EntitySupply} {rowId : Id}
    (same : t.jobs = s.jobs) (waits : t.waiting = s.waiting)
    (dues : t.db.dues = rescheduled tenantId row oldDueDate newDueDate supply rowId s.db.dues)
    (own : ∀ out ∈ s.db.dues, ∀ payload ∈ out.dueDate dueDateScheduled,
      payload.instanceId = row.id → out.tenantId = tenantId)
    (unnoticed : ∀ dueDate, newDueDate = some dueDate → oldDueDate ≠ some dueDate →
      s.Unnoticed row.id dueDate)
    (before : ∀ instanceId dueDate, s.owed instanceId dueDate ≤ 1) (instanceId : Id)
    (dueDate : Time) : t.owed instanceId dueDate ≤ 1 := by
  have jobs : ∀ id, s.hasJob id → t.hasJob id := by
    intro id has
    unfold hasJob at has ⊢
    rw [same]
    exact has
  have waiting : t.waiting.countP (DueDateJob.isFor instanceId dueDate) ≤
      s.waiting.countP (DueDateJob.isFor instanceId dueDate) := by rw [waits]
  unfold rescheduled at dues
  split at dues
  next => exact (owed_same instanceId dueDate jobs waiting dues).trans (before instanceId dueDate)
  next changed =>
    have total := before instanceId dueDate
    have pending := queues_delivered_le instanceId dueDate jobs
      (fun r => r.pendingDueDate tenantId row.id) supply.startedAt s.db.dues
    have noticed := notices_delivered_le instanceId dueDate
      (fun r => r.pendingDueDate tenantId row.id) supply.startedAt s.db.dues
    unfold DueState.owed at total ⊢
    rw [dues, countP_append, countP_append]
    have noNotice : (newDueDate.toList.map fun dueDate => outboxRow tenantId
        (buildEntityDueDateScheduledPayload row dueDate) supply.startedAt rowId).countP
          (OutboxEvent.isFor dueDateOverdueType instanceId dueDate) = 0 := by
      rw [countP_eq_zero]
      intro out mem
      obtain ⟨_, -, rfl⟩ := List.mem_map.mp mem
      rw [(outboxRow_isFor instanceId dueDate).2]
      exact Bool.false_ne_true
    by_cases given : newDueDate = some dueDate ∧ row.id = instanceId
    · obtain ⟨rfl, rfl⟩ := given
      -- every pending row of the record is delivered, and no job or notice is of the date
      have superseded : (s.db.dues.map fun r => if r.pendingDueDate tenantId row.id then
          r.deliver supply.startedAt else r).countP (t.queues row.id dueDate) = 0 := by
        rw [countP_map, countP_eq_zero]
        intro r mem queued
        obtain ⟨kept, queues⟩ := queues_of_delivered jobs
          (fun r => r.pendingDueDate tenantId row.id) supply.startedAt r queued
        obtain ⟨⟨undelivered, isFor⟩, -⟩ := (and_eq_true_iff.mp queues).imp_left and_eq_true_iff.mp
        obtain ⟨payload, read, about⟩ := (Option.any_eq_true _ _).mp isFor
        have owner := own r mem payload read (eq_of_beq (and_eq_true_iff.mp about).1)
        have chosen := pendingDueDate_of_isFor owner (eq_of_beq undelivered) isFor
        exact absurd (kept.symm.trans chosen) Bool.false_ne_true
      obtain ⟨idle, silent⟩ := unnoticed dueDate rfl fun same =>
        changed (by rw [same]; exact beq_self_eq_true _)
      have noJobs : s.waiting.countP (DueDateJob.isFor row.id dueDate) = 0 :=
        countP_eq_zero.mpr fun job mem => by rw [idle job mem]; exact Bool.false_ne_true
      have noNotices := s.db.length_notices row.id dueDate
      rw [silent] at noNotices
      have one := countP_le_length (p := t.queues row.id dueDate)
        (l := (some dueDate).toList.map fun dueDate => outboxRow tenantId
          (buildEntityDueDateScheduledPayload row dueDate) supply.startedAt rowId)
      rw [length_map] at one
      change _ ≤ 1 at one
      change 0 = _ at noNotices
      omega
    · have others : (newDueDate.toList.map fun dueDate => outboxRow tenantId
          (buildEntityDueDateScheduledPayload row dueDate) supply.startedAt rowId).countP
            (t.queues instanceId dueDate) = 0 := by
        rw [countP_eq_zero]
        intro out mem queues
        obtain ⟨other, set, rfl⟩ := List.mem_map.mp mem
        obtain ⟨-, isFor⟩ := and_eq_true_iff.mp (and_eq_true_iff.mp queues).1
        rw [(outboxRow_isFor instanceId dueDate).1, and_eq_true, beq_iff_eq, beq_iff_eq] at isFor
        exact given ⟨isFor.2 ▸ mem_toList.mp set, isFor.1⟩
      omega

theorem countP_succ_le {α : Type} {p q : α → Bool} {l : List α} {a : α}
    (weaker : ∀ x ∈ l, q x → p x) (mem : a ∈ l) (holds : p a)
    (fails : q a = false) : l.countP q + 1 ≤ l.countP p := by
  obtain ⟨before, after, rfl⟩ := append_of_mem mem
  have left : before.countP q ≤ before.countP p :=
    countP_mono_left fun x listed => weaker x (mem_append_left _ listed)
  have right : after.countP q ≤ after.countP p := countP_mono_left fun x listed =>
    weaker x (mem_append_right _ (mem_cons_of_mem _ listed))
  rw [countP_append, countP_append, countP_cons_of_pos holds,
    countP_cons_of_neg (by rw [fails]; exact Bool.false_ne_true)]
  omega

theorem OutboxEvent.countP_dueDateJob (now : Time) (row : OutboxEvent) (instanceId : Id)
    (dueDate : Time) : (row.dueDateJob now).toList.countP (DueDateJob.isFor instanceId dueDate) =
      if row.isFor dueDateScheduled instanceId dueDate then 1 else 0 := by
  unfold dueDateJob isFor
  cases row.dueDate dueDateScheduled with
  | none => rfl
  | some payload => exact countP_singleton

theorem DueState.owed_add (now : Time) {row : OutboxEvent} (listed : row ∈ s.db.dues)
    (pending : row.deliveredAt = none) (instanceId : Id) (dueDate : Time) :
    (s.add now row).owed instanceId dueDate ≤ s.owed instanceId dueDate := by
  unfold add
  split
  next => exact Nat.le_refl _
  next new =>
    let t : DueState := { s with waiting := s.waiting ++ (row.dueDateJob now).toList }
    have jobs : ∀ id, s.hasJob id → t.hasJob id := by
      intro id has
      obtain ⟨job, mem, named⟩ := hasJob_iff.mp has
      have kept := mem_add_of_mem now row mem
      unfold add at kept
      rw [if_neg new] at kept
      exact hasJob_iff.mpr ⟨job, kept, named⟩
    have weaker : ∀ r ∈ s.db.dues, t.queues instanceId dueDate r →
        s.queues instanceId dueDate r := by
      intro r _ queues
      exact (queues_of_delivered jobs (fun _ => false) now r queues).2
    change s.db.dues.countP (t.queues instanceId dueDate) +
      (s.waiting ++ (row.dueDateJob now).toList).countP _ +
        s.db.dues.countP (OutboxEvent.isFor dueDateOverdueType instanceId dueDate) ≤ _
    unfold DueState.owed
    rw [countP_append, countP_dueDateJob]
    cases isFor : row.isFor dueDateScheduled instanceId dueDate with
    | false =>
      have fewer := countP_mono_left weaker
      rw [if_neg Bool.false_ne_true]
      omega
    | true =>
      have queued : s.queues instanceId dueDate row := by
        unfold DueState.queues
        rw [pending, isFor, eq_false_iff.mpr new]
        rfl
      have taken : t.queues instanceId dueDate row = false := by
        obtain ⟨payload, read, -⟩ := (Option.any_eq_true _ _).mp isFor
        have has := hasJob_add (s := s) now read
        unfold add at has
        rw [if_neg new] at has
        change t.hasJob row.id = true at has
        unfold DueState.queues
        rw [has]
        exact Bool.and_false _
      have fewer := countP_succ_le weaker listed queued taken
      rw [if_pos rfl]
      omega

namespace DueState

theorem Fair.poll (fair : s.Fair) (now : Time) (failed unsettled : List Id) (commits : Bool) :
    (s.poll now failed unsettled commits).Fair := by
  refine ⟨fair.sound.poll now failed unsettled commits, fun instanceId dueDate => ?_⟩
  refine Nat.le_trans ?_ (fair.owed instanceId dueDate)
  have added : ((s.db.dueDateAdded now failed).foldl (add now) s).db = s.db ∧
      ((s.db.dueDateAdded now failed).foldl (add now) s).owed instanceId dueDate ≤
        s.owed instanceId dueDate := by
    refine foldl_add (P := fun t => t.db = s.db ∧ t.owed instanceId dueDate ≤
      s.owed instanceId dueDate) ?_ ⟨rfl, Nat.le_refl _⟩
    intro t row mem ⟨same, fewer⟩
    obtain ⟨listed, pending⟩ := Db.mem_dueDateBatch (Db.mem_dueDateAdded mem).1
    obtain ⟨undelivered, scheduled⟩ := and_eq_true_iff.mp pending
    have due : row ∈ t.db.dues := by
      rw [same]
      exact mem_filter.mpr ⟨listed, or_eq_true_iff.mpr (.inl scheduled)⟩
    exact ⟨(add_db now t row).trans same,
      (owed_add now due (eq_of_beq undelivered) instanceId dueDate).trans fewer⟩
  rw [poll_eq]
  obtain ⟨same, fewer⟩ := added
  refine Nat.le_trans ?_ fewer
  cases commits with
  | false =>
    refine owed_same instanceId dueDate (fun _ => id) (Nat.le_refl _) ?_
    rw [same]
    rfl
  | true =>
    refine owed_delivered instanceId dueDate (fun _ => id) (Nat.le_refl _)
      (fun row => (s.db.dueDateDelivered now failed unsettled).contains row.id) now ?_
    rw [same]
    exact Db.dues_deliver _ now s.db

variable {rowId : Id} {acknowledged active : Bool} {supply : EntitySupply}

theorem hasJob_work (worked : s.work rowId active acknowledged supply = some t) {id : Id}
    (has : s.hasJob id) : t.hasJob id := by
  obtain ⟨job, found, -, waiting, completed⟩ := work_eq worked
  obtain ⟨other, mem, rfl⟩ := hasJob_iff.mp has
  have selected := find?_some found
  have ran : job.outboxEventId = rowId := eq_of_beq selected
  cases acknowledged with
  | false =>
    refine hasJob_iff.mpr ⟨other, ?_, rfl⟩
    unfold jobs
    rw [waiting, completed, if_neg Bool.false_ne_true, if_neg Bool.false_ne_true, append_nil]
    exact mem
  | true =>
    rw [if_pos rfl] at waiting completed
    by_cases same : other.outboxEventId = rowId
    · refine hasJob_iff.mpr ⟨job, ?_, ran.trans same.symm⟩
      unfold jobs
      rw [completed]
      exact mem_append_right _ (mem_append_right _ (mem_singleton_self job))
    · refine hasJob_iff.mpr ⟨other, ?_, rfl⟩
      unfold jobs
      rw [waiting, completed]
      rcases mem_append.mp mem with waits | done
      · exact mem_append_left _ (mem_filter.mpr ⟨waits, bne_iff_ne.mpr same⟩)
      · exact mem_append_right _ (mem_append_left _ done)

theorem countP_work {job : DueDateJob}
    (found : s.waiting.find? (fun job => job.outboxEventId == rowId) = some job) (instanceId : Id)
    (dueDate : Time) :
    (s.waiting.filter fun job => job.outboxEventId != rowId).countP
        (DueDateJob.isFor instanceId dueDate) +
        (if job.isFor instanceId dueDate then 1 else 0) ≤
      s.waiting.countP (DueDateJob.isFor instanceId dueDate) := by
  rw [countP_filter]
  have weaker : ∀ other ∈ s.waiting, (other.isFor instanceId dueDate &&
      other.outboxEventId != rowId) → other.isFor instanceId dueDate :=
    fun other _ both => (and_eq_true_iff.mp both).1
  have selected := find?_some found
  have ran : (job.outboxEventId != rowId) = false := bne_eq_false_iff_eq.mpr (eq_of_beq selected)
  cases isFor : job.isFor instanceId dueDate with
  | false => exact countP_mono_left weaker
  | true =>
    refine countP_succ_le weaker (mem_of_find?_eq_some found) isFor ?_
    rw [ran]
    exact Bool.and_false _

theorem owed_work (worked : s.work rowId active acknowledged supply = some t)
    (allowed : s.Allowed (.work rowId active acknowledged supply)) (instanceId : Id)
    (dueDate : Time) : t.owed instanceId dueDate ≤ s.owed instanceId dueDate := by
  obtain ⟨job, found, db, waiting, -⟩ := work_eq worked
  have jobs : ∀ id, s.hasJob id → t.hasJob id := fun id => hasJob_work worked
  have fewer := countP_work found instanceId dueDate
  have waits : t.waiting.countP (DueDateJob.isFor instanceId dueDate) ≤
      s.waiting.countP (DueDateJob.isFor instanceId dueDate) := by
    rw [waiting]
    cases acknowledged with
    | false => exact Nat.le_refl _
    | true => exact Nat.le_trans (Nat.le_add_right _ _) fewer
  cases active with
  | false =>
    rw [if_neg Bool.false_ne_true] at db
    exact owed_same instanceId dueDate jobs waits (by rw [db])
  | true =>
    rw [if_pos rfl] at db
    rcases dueDateOverdue_cases job supply s.db with same | ⟨due, wrote⟩
    · exact owed_same instanceId dueDate jobs waits (by rw [db, same])
    -- the notice takes the place of the job, whose end is acknowledged
    have acks : acknowledged := by
      rcases allowed job found with acks | absent | notDue
      · exact acks
      · cases absent
      · exact absurd (due.symm.trans notDue).symm Bool.false_ne_true
    rw [acks, if_pos rfl] at waiting
    unfold DueState.owed
    rw [db, wrote, waiting, Db.dues_append]
    have pending : s.db.dues.countP (t.queues instanceId dueDate) ≤
        s.db.dues.countP (s.queues instanceId dueDate) :=
      countP_mono_left fun r _ queues =>
        (queues_of_delivered jobs (fun _ => false) 0 r queues).2
    change (s.db.dues ++ [_]).countP _ + _ + (s.db.dues ++ [_]).countP _ ≤ _
    rw [countP_append, countP_append, countP_singleton, countP_singleton,
      if_neg (by
        unfold queues OutboxEvent.isFor OutboxEvent.dueDate outboxRow
        exact Bool.false_ne_true)]
    change _ + _ + _ + (_ + if job.isFor instanceId dueDate then 1 else 0) ≤ _
    omega

theorem Fair.call {call : DueCall} {db' : Db} {clock : Time} (fair : s.Fair)
    (did : call.Did s.db db') (allowed : s.Allowed (.call call)) :
    DueState.Fair { s with db := db', clock } := by
  refine ⟨fair.sound.call did, fun instanceId dueDate => ?_⟩
  cases did with
  | nothing same =>
    subst same
    exact (owed_same (s := s) instanceId dueDate (fun _ => id) (Nat.le_refl _) rfl).trans
      (fair.owed instanceId dueDate)
  | created row own unused instances outbox dues =>
    have unknown {tenantId : Id} (stores : s.db.Stores tenantId row.id) : False := by
      obtain ⟨old, mem, same, -⟩ := stores
      exact unused.2 row (mem_singleton_self row) old mem same
    refine owed_rescheduled (s := s) (t := { s with db := db', clock }) rfl rfl dues
      (fun out mem payload read named => ?_)
      (fun dueDate _ _ => ⟨fun job mem => ?_, ?_⟩) fair.owed instanceId dueDate
    · exact (unknown (named ▸ fair.sound.rows out mem _ payload read)).elim
    · refine eq_false_iff.mpr fun isFor => ?_
      have stores := fair.sound.jobs job (mem_append_left _ mem)
      rw [eq_of_beq (and_eq_true_iff.mp isFor).1] at stores
      exact unknown stores
    · refine filter_eq_nil_iff.mpr fun out mem isFor => ?_
      obtain ⟨payload, read, about⟩ := (Option.any_eq_true _ _).mp isFor
      have due := mem_filter.mpr ⟨mem, isDue_of_isFor isFor⟩
      have stores := fair.sound.rows out due _ payload read
      rw [eq_of_beq (and_eq_true_iff.mp about).1] at stores
      exact unknown stores
  | @edited _ tenantId other input supply existing fields found instances outbox dues =>
    have live := find?_some found
    have chosen := and_eq_true_iff.mp (EntityInstance.isOf_of_isLive live)
    have stores : s.db.Stores tenantId existing.id :=
      ⟨existing, mem_of_find?_eq_some found, rfl, eq_of_beq chosen.2⟩
    refine owed_rescheduled (s := s) (t := { s with db := db', clock }) rfl rfl dues
      (fun out mem payload read named => ?_)
      (fun dueDate given changed => ?_) fair.owed instanceId dueDate
    · have about := fair.sound.rows out mem _ payload read
      rw [named] at about
      exact about.tenant fair.sound.keyed stores
    · have asked : input.dueDate.join = some dueDate := by
        cases set : input.dueDate with
        | none =>
          rw [set] at given
          exact absurd given changed
        | some newDueDate =>
          rw [set] at given
          exact given
      have unnoticed := allowed existing found dueDate asked changed
      rw [← EntityInstance.id_of_isLive live] at unnoticed
      exact unnoticed
  | archived ids same =>
    subst same
    exact (owed_delivered (s := s) (t := DueState.mk _ clock s.waiting s.completed) instanceId dueDate
      (fun _ => id) (Nat.le_refl _) _ _ (s.db.dues_archived _ _ ids _)).trans
      (fair.owed instanceId dueDate)

theorem after_eq {now : Time} {next : DueState} (moved : s.after now next = some t) :
    t = { next with clock := now } := by
  unfold after at moved
  split at moved
  · cases moved
  · exact (Option.some.inj moved).symm

theorem Fair.clock (fair : s.Fair) (clock : Time) : DueState.Fair { s with clock } :=
  ⟨⟨fair.sound.keyed, fair.sound.rows, fair.sound.jobs⟩, fair.owed⟩

theorem Fair.step {label : NoticeLabel} (fair : s.Fair) (allowed : s.Allowed label)
    (stepped : s.step label = some t) : t.Fair := by
  cases label with
  | call call =>
    rw [after_eq stepped]
    exact fair.call (call.did s.db) allowed
  | poll now failed unsettled commits =>
    rw [after_eq stepped]
    exact (fair.poll now failed unsettled commits).clock now
  | work rowId active acknowledged supply =>
    obtain ⟨next, worked, moved⟩ := bind_eq_some_iff.mp stepped
    rw [after_eq moved]
    exact Fair.clock ⟨fair.sound.work worked, fun instanceId dueDate =>
      (owed_work worked allowed instanceId dueDate).trans (fair.owed instanceId dueDate)⟩ supply.now

/-- A store without due dates, and an empty queue. -/
def start (db : Db) : DueState := { db }

theorem start_fair {db : Db} (keyed : db.Keyed) (none_ : db.dues = []) : (start db).Fair where
  sound := by
    refine ⟨keyed, fun out mem => ?_, fun job mem => (nomatch mem)⟩
    change out ∈ db.dues at mem
    rw [none_] at mem
    cases mem
  owed := by
    intro instanceId dueDate
    unfold owed start
    rw [none_]
    exact Nat.zero_le 1

end DueState

end Steps

/-- At most one notice is written for a record and a due date, along a run in which no
record is given a date back that has a waiting job or a notice, and no job that finds its
record due goes unacknowledged. -/
theorem due_date_noticed_once {db : Db} {labels : List NoticeLabel} (keyed : db.Keyed)
    (none_ : db.dues = [])
    (guarded : Runs.Guarded DueState.step DueState.Allowed (.start db) labels) :
    Runs.Always DueState.step DueState.NoticedOnce (.start db) labels :=
  guarded.always (I := DueState.Fair) (fun fair allowed stepped => fair.step allowed stepped)
    (fun fair => fair.noticedOnce) (DueState.start_fair keyed none_)

/-! ### A date that is given back -/

/-- Create record 10. -/
def dueCreate (dueDate : Time) : NoticeLabel :=
  .call (.createEntity .acceptAll 1 { entityTypeId := 1, fields := [], dueDate := some dueDate }
    ⟨0, 0, fun i => 10 + i⟩)

def dueChange (dueDate now base : Nat) : NoticeLabel :=
  .call (.updateEntity .acceptAll 1 10 { dueDate := some (some dueDate) }
    ⟨now, now, fun i => base + i⟩)

/-- Run the job of a row to its end. -/
def dueWork (rowId now base : Nat) : NoticeLabel :=
  .work rowId true true ⟨now, now, fun i => base + i⟩

/-- The jobs of the first and of the third row find the record due at their date. -/
theorem due_date_noticed_twice :
    ¬ Runs.Always DueState.step DueState.NoticedOnce (.start {})
      [dueCreate 5, .poll 1 [] [] true, dueChange 6 2 20, dueChange 5 3 30, .poll 4 [] [] true,
        dueWork 11 5 40, dueWork 32 5 50] := by
  intro always
  have reached : (Runs.run DueState.step (.start {})
      [dueCreate 5, .poll 1 [] [] true, dueChange 6 2 20, dueChange 5 3 30, .poll 4 [] [] true,
        dueWork 11 5 40, dueWork 32 5 50]).any (fun s =>
          decide ((s.db.notices 10 5).length = 2)) = true := by
    decide +kernel
  obtain ⟨s, ran, two⟩ := (Option.any_eq_true _ _).mp reached
  have one := always.last ran 10 5
  have length := of_decide_eq_true two
  omega

instance DueState.decidableAllowed (s : DueState) (label : NoticeLabel) :
    Decidable (s.Allowed label) := by
  unfold DueState.Allowed
  split <;> infer_instance

/-- A date is changed before its job runs, and the job of the new date writes the notice. -/
theorem due_date_noticed_changed :
    Runs.Always DueState.step DueState.NoticedOnce (.start {})
      [dueCreate 5, .poll 1 [] [] true, dueChange 6 2 20, .poll 4 [] [] true, dueWork 11 5 40,
        dueWork 22 6 50] := by
  refine due_date_noticed_once nodup_nil rfl (.of_check (c := fun s label =>
    decide (s.Allowed label)) of_decide_eq_true ?_)
  decide +kernel

end OpenWind
