import OpenWind.DueDate.Scheduler
import OpenWind.Entity.LostUpdates

/-!
# A trigger for every future due date

A live record with a due date in the future has a trigger for that date: a pending row
of the outbox, or a job.  Setting a date puts the row into the outbox, and a poll turns
it into a job; a new date cancels the row of the old one.  A batch of edits compares each date
with the rows read before the first edit, so that a second date for a record goes wrong.
-/

open List Option Bool Txn.Prog

namespace OpenWind

open Txn OutboxEvent Db

/-! ## Triggers -/

def DueState.Enqueued (s : DueState) (row : EntityInstance) (dueDate : Time) : Prop :=
  ∃ job ∈ s.waiting, job.tenantId = row.tenantId ∧ job.isFor row.id dueDate = true

/-- An undelivered row is of the due date of the record. -/
def Db.Pending (db : Db) (row : EntityInstance) (dueDate : Time) : Prop :=
  ∃ out ∈ db.outboxEvents, out.deliveredAt = none ∧ out.tenantId = row.tenantId ∧
    out.isFor dueDateScheduled row.id dueDate = true

/-- Every live record that is due in the future has a trigger. -/
def DueState.Triggered (s : DueState) : Prop :=
  ∀ row ∈ s.db.entityInstances, row.deletedAt = none → ∀ dueDate, row.dueDate = some dueDate →
    s.clock < dueDate → s.db.Pending row dueDate ∨ s.Enqueued row dueDate

instance (s : DueState) (row : EntityInstance) (dueDate : Time) :
    Decidable (s.Enqueued row dueDate) :=
  inferInstanceAs (Decidable (∃ _ ∈ _, _))

instance (db : Db) (row : EntityInstance) (dueDate : Time) : Decidable (db.Pending row dueDate) :=
  inferInstanceAs (Decidable (∃ _ ∈ _, _))

/-! ## The machine -/

inductive TriggerLabel
  | call (call : DueCall)
  | bulkUpdateEntities (base : FieldRules) (rules : EditRules) (tenantId : Id)
    (items : List BulkUpdateItem) (order : List Nat) (supply : EntitySupply)
  | poll (now : Time) (failed unsettled : List Id) (commits : Bool)

def DueState.turn (s : DueState) : TriggerLabel → Option DueState
  | .call call => s.after call.now { s with db := call.commit s.db }
  | .bulkUpdateEntities base rules tenantId items order supply =>
    s.after supply.now { s with
      db := (OpenWind.bulkUpdateEntities base rules tenantId items order supply).commit s.db }
  | .poll now failed unsettled commits => s.after now (s.poll now failed unsettled commits)

/-! ## Conditions -/

def datedIds (items : List BulkUpdateItem) (order : List Nat) : List Id :=
  ((order.filterMap fun i => items.zipIdx[i]?).filter fun (item, _) =>
    item.input.dueDate.isSome).map fun (item, _) => item.id

/-- A batch sets the due date of a record once. -/
def DueState.Covers (_ : DueState) : TriggerLabel → Prop
  | .bulkUpdateEntities _ _ _ items order _ => (datedIds items order).Nodup
  | _ => True

/-! ## The invariant -/

namespace DueState

structure Bound (s : DueState) : Prop where
  keyed : s.db.Keyed
  outbox : Tables.outboxEvents.Keyed s.db
  idle : s.completed = []
  linked : ∀ job ∈ s.waiting, ∃ out ∈ s.db.dues, out.id = job.outboxEventId ∧
    out.tenantId = job.tenantId ∧ out.isFor dueDateScheduled job.instanceId job.dueDate = true
  triggered : s.Triggered

end DueState

variable {row : OutboxEvent} {instanceId : Id} {dueDate : Time}

theorem OutboxEvent.isDue_of_isFor_scheduled
    (isFor : row.isFor dueDateScheduled instanceId dueDate) : row.isDue := by
  obtain ⟨payload, read, -⟩ := (Option.any_eq_true _ _).mp isFor
  exact isDue_of_dueDate read

theorem Db.pending_iff {db : Db} {row : EntityInstance} :
    db.Pending row dueDate ↔ ∃ out ∈ db.dues, out.deliveredAt = none ∧
      out.tenantId = row.tenantId ∧ out.isFor dueDateScheduled row.id dueDate := by
  constructor
  · rintro ⟨out, mem, undelivered, own, isFor⟩
    exact ⟨out, mem_filter.mpr ⟨mem, isDue_of_isFor_scheduled isFor⟩, undelivered, own, isFor⟩
  · rintro ⟨out, mem, facts⟩
    exact ⟨out, (mem_filter.mp mem).1, facts⟩

theorem OutboxEvent.of_pendingDueDate {tenantId instanceId id : Id}
    (chosen : row.pendingDueDate tenantId instanceId)
    (isFor : row.isFor dueDateScheduled id dueDate) :
    row.tenantId = tenantId ∧ id = instanceId := by
  obtain ⟨payload, read, about⟩ := (Option.any_eq_true _ _).mp isFor
  have named := eq_of_beq (and_eq_true_iff.mp about).1
  unfold pendingDueDate at chosen
  unfold OutboxEvent.dueDate at read
  split at read
  next type other body stored =>
    rw [stored] at chosen
    obtain ⟨own, chosen⟩ := and_eq_true_iff.mp chosen
    refine ⟨eq_of_beq (and_eq_true_iff.mp own).2, ?_⟩
    have same := eq_of_beq (and_eq_true_iff.mp chosen).2
    split at read
    next =>
      split at read
      next =>
        cases read
        exact named.symm.trans same
      next => cases read
    next => cases read
  next => cases read

section Steps

variable {s t : DueState}

variable {dues : List OutboxEvent} {a b out : OutboxEvent} {db db' : Db} {row row' : EntityInstance}
  {archiveTs clock dueDate : Time} {instanceId tenantId : Id} {supply : EntitySupply}
  {f : EntityInstance → EntityInstance} {ids : List Id}

theorem mem_rescheduled_of_mem (tenantId : Id) (row : EntityInstance)
    (oldDueDate newDueDate : Option Time) (supply : EntitySupply) (rowId : Id) (mem : out ∈ dues) :
    ∃ out' ∈ rescheduled tenantId row oldDueDate newDueDate supply rowId dues, out'.id = out.id ∧
      out'.tenantId = out.tenantId ∧ out'.payload = out.payload ∧
      (out.pendingDueDate tenantId row.id = false ∨ oldDueDate = newDueDate → out' = out) := by
  unfold rescheduled
  split
  next same => exact ⟨out, mem, rfl, rfl, rfl, fun _ => rfl⟩
  next changed =>
    refine ⟨_, mem_append_left _ (List.mem_map_of_mem mem), ?_⟩
    cases chosen : out.pendingDueDate tenantId row.id with
    | true =>
      rw [if_pos rfl]
      refine ⟨rfl, rfl, rfl, fun kept => ?_⟩
      rcases kept with other | same
      · cases other
      · exact absurd (beq_iff_eq.mpr same) changed
    | false => exact ⟨rfl, rfl, rfl, fun _ => rfl⟩

theorem OutboxEvent.isFor_congr (same : a.payload = b.payload) (type : String) (instanceId : Id)
    (dueDate : Time) : a.isFor type instanceId dueDate = b.isFor type instanceId dueDate := by
  unfold isFor OutboxEvent.dueDate
  rw [same]

theorem Db.Pending.congr (id : row'.id = row.id) (tenant : row'.tenantId = row.tenantId)
    (pending : db.Pending row dueDate) : db.Pending row' dueDate := by
  unfold Db.Pending
  rw [id, tenant]
  exact pending

theorem DueState.Enqueued.congr (id : row'.id = row.id) (tenant : row'.tenantId = row.tenantId)
    (enqueued : s.Enqueued row dueDate) : s.Enqueued row' dueDate := by
  unfold DueState.Enqueued
  rw [id, tenant]
  exact enqueued

theorem DueState.Bound.linked_of {next : Db} (bound : s.Bound)
    (kept : ∀ out ∈ s.db.dues, ∃ out' ∈ next.dues, out'.id = out.id ∧
      out'.tenantId = out.tenantId ∧ out'.payload = out.payload) :
    ∀ job ∈ s.waiting, ∃ out ∈ next.dues, out.id = job.outboxEventId ∧
      out.tenantId = job.tenantId ∧
      out.isFor dueDateScheduled job.instanceId job.dueDate := by
  intro job mem
  obtain ⟨out, listed, named, own, isFor⟩ := bound.linked job mem
  obtain ⟨out', listed', id, tenant, payload⟩ := kept out listed
  exact ⟨out', listed', id.trans named, tenant.trans own, (isFor_congr payload _ _ _).trans isFor⟩

theorem DueState.Bound.edit {oldDueDate newDueDate : Option Time} {rowId : Id}
    {fresh : List EntityInstance} (bound : s.Bound) (later : s.clock ≤ clock)
    (instances : db'.entityInstances = s.db.entityInstances.map f ++ fresh)
    (unused : s.db.Unused fresh)
    (same : ∀ r, (f r).id = r.id ∧ (f r).tenantId = r.tenantId ∧ (f r).deletedAt = r.deletedAt)
    (outbox : OutboxGrows s.db db')
    (dues : db'.dues = rescheduled tenantId row oldDueDate newDueDate supply rowId s.db.dues)
    (others : ∀ r ∈ s.db.entityInstances, r.isOf tenantId row.id = false → (f r).dueDate = r.dueDate)
    (moved : ∀ r ∈ s.db.entityInstances, r.isOf tenantId row.id →
      r.dueDate = oldDueDate ∧ (f r).dueDate = newDueDate)
    (added : ∀ r ∈ fresh, r.id = row.id ∧ r.tenantId = tenantId ∧ oldDueDate = none ∧
      r.dueDate = newDueDate) : DueState.Bound { s with db := db', clock } := by
  have reset {r : EntityInstance} {dueDate : Time} (named : r.id = row.id)
      (own : r.tenantId = tenantId) (given : newDueDate = some dueDate)
      (changed : oldDueDate ≠ newDueDate) : db'.Pending r dueDate := by
    refine pending_iff.mpr ⟨outboxRow tenantId (buildEntityDueDateScheduledPayload row dueDate)
      supply.startedAt rowId, ?_, rfl, own.symm, ?_⟩
    · rw [dues]
      unfold rescheduled
      rw [if_neg fun eq => changed (eq_of_beq eq), given]
      exact mem_append_right _ (mem_singleton_self _)
    · rw [(outboxRow_isFor r.id dueDate).1, named, beq_self_eq_true, beq_self_eq_true]
      rfl
  have keeps {r : EntityInstance} {dueDate : Time}
      (other : r.isOf tenantId row.id = false ∨ oldDueDate = newDueDate)
      (pending : s.db.Pending r dueDate) : db'.Pending r dueDate := by
    obtain ⟨out, listed, undelivered, own, isFor⟩ := pending_iff.mp pending
    obtain ⟨out', listed', -, -, -, eq⟩ := mem_rescheduled_of_mem tenantId row oldDueDate newDueDate
      supply rowId listed
    have unchanged : out' = out := by
      refine eq (other.imp_left fun notOf => eq_false_iff.mpr fun chosen => ?_)
      obtain ⟨owner, named⟩ := of_pendingDueDate chosen isFor
      rw [EntityInstance.isOf, named, ← own, owner, beq_self_eq_true, beq_self_eq_true] at notOf
      cases notOf
    rw [← dues, unchanged] at listed'
    exact pending_iff.mpr ⟨out, listed', undelivered, own, isFor⟩
  refine ⟨bound.keyed.grow (fun r => (same r).1) instances unused, outbox.keyed bound.outbox,
    bound.idle, bound.linked_of fun out mem => ?_, fun row' mem live dueDate given future => ?_⟩
  · rw [dues]
    obtain ⟨out', listed, id, tenant, payload, -⟩ := mem_rescheduled_of_mem tenantId row oldDueDate
      newDueDate supply rowId mem
    exact ⟨out', listed, id, tenant, payload⟩
  · change row' ∈ db'.entityInstances at mem
    change clock < dueDate at future
    rw [instances] at mem
    rcases mem_append.mp mem with old | new
    · obtain ⟨r, listed, rfl⟩ := List.mem_map.mp old
      obtain ⟨id, tenant, deletedAt⟩ := same r
      have before (date : r.dueDate = some dueDate)
          (kept : r.isOf tenantId row.id = false ∨ oldDueDate = newDueDate) :
          db'.Pending (f r) dueDate ∨ s.Enqueued (f r) dueDate :=
        (bound.triggered r listed (deletedAt.symm.trans live) dueDate date
          (Nat.lt_of_le_of_lt later future)).imp
            (fun pending => (keeps kept pending).congr id tenant) (.congr id tenant)
      cases chosen : r.isOf tenantId row.id with
      | true =>
        obtain ⟨was, is⟩ := moved r listed chosen
        obtain ⟨named, own⟩ := and_eq_true_iff.mp chosen
        by_cases eq : oldDueDate = newDueDate
        · exact before (was.trans (eq.trans (is.symm.trans given))) (.inr eq)
        · exact .inl (reset (id.trans (eq_of_beq named)) (tenant.trans (eq_of_beq own))
            (is.symm.trans given) eq)
      | false => exact before ((others r listed chosen).symm.trans given) (.inl chosen)
    · obtain ⟨named, own, none_, date⟩ := added row' new
      refine .inl (reset named own (date.symm.trans given) ?_)
      rw [none_, ← date, given]
      exact fun eq => nomatch eq

theorem mem_delivered_of_mem (p : OutboxEvent → Bool) (now : Time) (mem : out ∈ dues) :
    ∃ out' ∈ dues.map fun r => if p r then r.deliver now else r, out'.id = out.id ∧
      out'.tenantId = out.tenantId ∧ out'.payload = out.payload := by
  refine ⟨_, List.mem_map_of_mem mem, ?_⟩
  split <;> exact ⟨rfl, rfl, rfl⟩

theorem mem_delivered_of_kept {p : OutboxEvent → Bool} (now : Time) (mem : out ∈ dues)
    (kept : p out = false) : out ∈ dues.map fun r => if p r then r.deliver now else r := by
  refine List.mem_map.mpr ⟨out, mem, ?_⟩
  rw [kept]
  rfl

theorem DueState.Bound.archive {supply : EntitySupply} (bound : s.Bound) (later : s.clock ≤ clock) :
    DueState.Bound { s with db := s.db.archived tenantId instanceId ids supply, clock } := by
  have dues := s.db.dues_archived tenantId instanceId ids supply
  have keyed : (s.db.markTree tenantId instanceId ids none (some supply.now)).Keyed := by
    refine bound.keyed.grow (fun row => ?_) (append_nil _).symm s.db.unused_nil
    split <;> rfl
  refine ⟨keyed, bound.outbox.modify _ fun _ => rfl, bound.idle,
    bound.linked_of fun out mem => ?_, fun row mem live dueDate given future => ?_⟩
  · rw [dues]
    exact mem_delivered_of_mem _ supply.startedAt mem
  · obtain ⟨r, listed, rfl⟩ := List.mem_map.mp mem
    cases chosen : r.isAmong tenantId ids none with
    | true =>
      rw [chosen] at live
      exact nomatch live
    | false =>
      rw [chosen] at live given
      change r.deletedAt = none at live
      refine (bound.triggered r listed live dueDate given
        (Nat.lt_of_le_of_lt later future)).imp_left fun pending => ?_
      obtain ⟨out, due, undelivered, own, isFor⟩ := pending_iff.mp pending
      refine pending_iff.mpr ⟨out, ?_, undelivered, own, isFor⟩
      rw [dues]
      refine mem_delivered_of_kept supply.startedAt due (eq_false_iff.mpr fun cancelled => ?_)
      obtain ⟨id, among, superseded⟩ := List.any_eq_true.mp cancelled
      obtain ⟨owner, named⟩ := of_pendingDueDate superseded isFor
      unfold EntityInstance.isAmong at chosen
      rw [← own, owner, named, live, contains_iff_mem.mpr among, beq_self_eq_true] at chosen
      cases chosen

theorem DueState.hasJob_foldl_add {now : Time} {rows : List OutboxEvent} {row : OutboxEvent}
    {payload : DueDatePayload} (mem : row ∈ rows)
    (read : row.dueDate dueDateScheduled = some payload) :
    (rows.foldl (add now) s).hasJob row.id := by
  induction rows generalizing s with
  | nil => cases mem
  | cons first rest ih =>
    rcases mem_cons.mp mem with rfl | later
    · change (rest.foldl (add now) (s.add now row)).hasJob row.id = true
      refine foldl_add (P := fun t => t.hasJob row.id = true) (fun t r _ has => ?_)
        (hasJob_add now read)
      obtain ⟨job, kept, named⟩ := hasJob_iff.mp has
      exact hasJob_iff.mpr ⟨job, mem_add_of_mem now r kept, named⟩
    · exact ih later

theorem Db.outbox_eq (keyed : Tables.outboxEvents.Keyed db) (memA : a ∈ db.outboxEvents)
    (memB : b ∈ db.outboxEvents) (same : a.id = b.id) : a = b :=
  keyed.eq memA memB (congrArg (LockKey.row .outboxEvents) same)

theorem DueState.Bound.added (bound : s.Bound) {now : Time} {failed : List Id} :
    let t := (s.db.dueDateAdded now failed).foldl (add now) s
    t.db = s.db ∧ t.completed = [] ∧ (∀ job ∈ s.waiting, job ∈ t.waiting) ∧
      ∀ job ∈ t.waiting, ∃ out ∈ s.db.dues, out.id = job.outboxEventId ∧
        out.tenantId = job.tenantId ∧
        out.isFor dueDateScheduled job.instanceId job.dueDate = true := by
  refine foldl_add (P := fun t => t.db = s.db ∧ t.completed = [] ∧
    (∀ job ∈ s.waiting, job ∈ t.waiting) ∧ ∀ job ∈ t.waiting, ∃ out ∈ s.db.dues,
      out.id = job.outboxEventId ∧ out.tenantId = job.tenantId ∧
      out.isFor dueDateScheduled job.instanceId job.dueDate = true) ?_
    ⟨rfl, bound.idle, fun _ => id, bound.linked⟩
  intro t row mem ⟨same, idle, kept, linked⟩
  unfold add
  split
  · exact ⟨same, idle, kept, linked⟩
  · refine ⟨same, idle, fun job old => mem_append_left _ (kept job old), fun job new => ?_⟩
    rcases mem_append.mp new with old | made
    · exact linked job old
    · obtain ⟨payload, read, rfl⟩ := map_eq_some_iff.mp (mem_toList.mp made)
      obtain ⟨listed, pending⟩ := mem_dueDateBatch (mem_dueDateAdded mem).1
      refine ⟨row, mem_filter.mpr ⟨listed, OutboxEvent.isDue_of_dueDate read⟩, rfl, rfl, ?_⟩
      unfold OutboxEvent.isFor
      rw [read]
      exact and_eq_true_iff.mpr ⟨beq_self_eq_true _, beq_self_eq_true _⟩

theorem DueState.Bound.enqueued_of_delivered (bound : s.Bound) {now : Time}
    {failed unsettled : List Id} (due : out ∈ s.db.dues) (own : out.tenantId = row.tenantId)
    (isFor : out.isFor dueDateScheduled row.id dueDate)
    (chosen : out.id ∈ s.db.dueDateDelivered now failed unsettled) (future : now < dueDate) :
    ((s.db.dueDateAdded now failed).foldl (add now) s).Enqueued row dueDate := by
  obtain ⟨-, idle, -, linked⟩ := @DueState.Bound.added s bound now failed
  obtain ⟨payload, read, about⟩ := (Option.any_eq_true _ _).mp isFor
  obtain ⟨named, date⟩ := and_eq_true_iff.mp about
  obtain ⟨row', taken, sameId, fate⟩ := mem_dueDateDelivered chosen
  obtain rfl := outbox_eq bound.outbox (mem_dueDateBatch taken).1 (mem_filter.mp due).1 sameId
  rcases fate with stale | added
  · unfold staleDueDate at stale
    rw [read] at stale
    have passed : payload.dueDate + staleDueDateThresholdMs < now := of_decide_eq_true stale
    rw [eq_of_beq date] at passed
    exact absurd future (Nat.lt_asymm (Nat.lt_of_le_of_lt (Nat.le_add_right _ _) passed))
  · obtain ⟨job, queued, ofRow⟩ := hasJob_iff.mp (hasJob_foldl_add (s := s) added read)
    have waits : job ∈ ((s.db.dueDateAdded now failed).foldl (add now) s).waiting := by
      unfold jobs at queued
      rw [idle, append_nil] at queued
      exact queued
    obtain ⟨out', listed, sameRow, tenant, isJob⟩ := linked job waits
    obtain rfl := outbox_eq bound.outbox (mem_filter.mp listed).1 (mem_filter.mp due).1
      (sameRow.trans ofRow)
    refine ⟨job, waits, tenant.symm.trans own, ?_⟩
    obtain ⟨payload', read', about'⟩ := (Option.any_eq_true _ _).mp isJob
    cases read.symm.trans read'
    obtain ⟨named', date'⟩ := and_eq_true_iff.mp about'
    unfold DueDateJob.isFor
    rw [← eq_of_beq named', ← eq_of_beq date']
    exact about

theorem DueState.Bound.poll (bound : s.Bound) {now : Time} (later : s.clock ≤ now)
    (failed unsettled : List Id) (commits : Bool) :
    DueState.Bound { s.poll now failed unsettled commits with clock := now } := by
  obtain ⟨same, idle, kept, linked⟩ := @DueState.Bound.added s bound now failed
  rw [poll_eq]
  have old (row : EntityInstance) (mem : row ∈ s.db.entityInstances) (live : row.deletedAt = none)
      (dueDate : Time) (given : row.dueDate = some dueDate) (future : now < dueDate) :=
    bound.triggered row mem live dueDate given (Nat.lt_of_le_of_lt later future)
  have enqueued {row : EntityInstance} {dueDate : Time} (has : s.Enqueued row dueDate) :
      ((s.db.dueDateAdded now failed).foldl (add now) s).Enqueued row dueDate := by
    obtain ⟨job, mem, facts⟩ := has
    exact ⟨job, kept job mem, facts⟩
  cases commits with
  | false =>
    exact ⟨bound.keyed, bound.outbox, idle, linked, fun row mem live dueDate given future =>
      (old row mem live dueDate given future).imp_right enqueued⟩
  | true =>
    have dues := dues_deliver
      (fun row => (s.db.dueDateDelivered now failed unsettled).contains row.id) now s.db
    refine ⟨bound.keyed, bound.outbox.modify _ fun _ => rfl, idle, fun job mem => ?_,
      fun row mem live dueDate given future => ?_⟩
    · obtain ⟨out, listed, named, own, isFor⟩ := linked job mem
      obtain ⟨out', listed', id, tenant, payload⟩ := mem_delivered_of_mem _ now listed
      refine ⟨out', ?_, id.trans named, tenant.trans own, (isFor_congr payload _ _ _).trans isFor⟩
      exact dues ▸ listed'
    · rcases old row mem live dueDate given future with pending | has
      · obtain ⟨out, due, undelivered, own, isFor⟩ := pending_iff.mp pending
        cases chosen : (s.db.dueDateDelivered now failed unsettled).contains out.id with
        | false =>
          have stays := mem_delivered_of_kept (p := fun row =>
            (s.db.dueDateDelivered now failed unsettled).contains row.id) now due chosen
          rw [← dues] at stays
          exact .inl (pending_iff.mpr ⟨out, stays, undelivered, own, isFor⟩)
        | true =>
          exact .inr (bound.enqueued_of_delivered due own isFor (contains_iff_mem.mp chosen) future)
      · exact .inr (enqueued has)

theorem DueState.Bound.undated (bound : s.Bound) (later : s.clock ≤ clock)
    (instances : db'.entityInstances = s.db.entityInstances.map f)
    (same : ∀ r, (f r).id = r.id ∧ (f r).tenantId = r.tenantId ∧ (f r).deletedAt = r.deletedAt)
    (dates : ∀ r ∈ s.db.entityInstances, (f r).dueDate = r.dueDate)
    (outbox : Tables.outboxEvents.Keyed s.db → Tables.outboxEvents.Keyed db')
    (dues : db'.dues = s.db.dues) : DueState.Bound { s with db := db', clock } := by
  refine ⟨bound.keyed.grow (fun r => (same r).1) (instances.trans (append_nil _).symm)
    s.db.unused_nil, outbox bound.outbox, bound.idle, bound.linked_of fun out mem =>
      ⟨out, dues ▸ mem, rfl, rfl, rfl⟩, fun row mem live dueDate given future => ?_⟩
  change row ∈ db'.entityInstances at mem
  rw [instances] at mem
  obtain ⟨r, listed, rfl⟩ := List.mem_map.mp mem
  obtain ⟨id, tenant, deletedAt⟩ := same r
  refine (bound.triggered r listed (deletedAt.symm.trans live) dueDate
    ((dates r listed).symm.trans given) (Nat.lt_of_le_of_lt later future)).imp (fun pending => ?_)
      (.congr id tenant)
  obtain ⟨out, due, facts⟩ := pending_iff.mp pending
  exact (pending_iff.mpr ⟨out, dues ▸ due, facts⟩).congr id tenant

theorem DueState.Bound.same (bound : s.Bound) (later : s.clock ≤ clock)
    (instances : db'.entityInstances = s.db.entityInstances)
    (outbox : Tables.outboxEvents.Keyed s.db → Tables.outboxEvents.Keyed db')
    (dues : db'.dues = s.db.dues) : DueState.Bound { s with db := db', clock } :=
  bound.undated (f := id) later (by rw [List.map_id]; exact instances) (fun _ => ⟨rfl, rfl, rfl⟩)
    (fun _ _ => rfl) outbox dues

theorem DueState.Bound.call {call : DueCall} {db' : Db} (bound : s.Bound)
    (later : s.clock ≤ call.now) (did : call.Did s.db db') :
    DueState.Bound { s with db := db', clock := call.now } := by
  cases did with
  | nothing same => exact bound.same later (by rw [same]) (by rw [same]; exact id) (by rw [same])
  | created row own unused instances outbox dues =>
    have absent : ∀ r ∈ s.db.entityInstances, r.id ≠ row.id :=
      unused.2 row (mem_singleton_self row)
    refine bound.edit (f := id) later (by rw [List.map_id]; exact instances) unused
      (fun _ => ⟨rfl, rfl, rfl⟩) outbox dues (fun _ _ _ => rfl) (fun r mem chosen => ?_)
      fun r mem => ?_
    · exact absurd (eq_of_beq (and_eq_true_iff.mp chosen).1) (absent r mem)
    · rw [mem_singleton.mp mem]
      exact ⟨rfl, own, rfl, rfl⟩
  | @edited _ tenantId instanceId input supply existing fields found instances outbox dues =>
    have named (r : EntityInstance) (chosen : r.isOf tenantId existing.id) : r.id = existing.id :=
      eq_of_beq (and_eq_true_iff.mp chosen).1
    refine bound.edit later (instances.trans (append_nil _).symm) s.db.unused_nil
      (fun r => ?_) outbox dues (fun r mem other => ?_) (fun r mem chosen => ?_) fun _ mem => nomatch mem
    · split <;> exact ⟨rfl, rfl, rfl⟩
    · change r.isOf tenantId existing.id = false at other
      rw [if_neg (eq_false_iff.mp other)]
    · change r.isOf tenantId existing.id = true at chosen
      obtain rfl := bound.keyed.eq mem (mem_of_find?_eq_some found) (named r chosen)
      rw [if_pos chosen]
      exact ⟨rfl, rfl⟩
  | archived ids same =>
    rw [same]
    exact bound.archive later

/-! ## Batches -/

def Db.KeepsDates (db db' : Db) (input : UpdateEntityInput) (instanceId : Id) : Prop :=
  ∀ r' ∈ db'.entityInstances, ∃ r ∈ db.entityInstances, r'.id = r.id ∧ r'.tenantId = r.tenantId ∧
    (r.id ≠ instanceId ∨ input.dueDate = none → r'.dueDate = r.dueDate)

theorem Db.KeepsDates.refl (db : Db) (input : UpdateEntityInput) (instanceId : Id) :
    db.KeepsDates db input instanceId :=
  fun r mem => ⟨r, mem, rfl, rfl, fun _ => rfl⟩

theorem DueState.Bound.bulkWriteEdit {tenantId : Id} {existing : EntityInstance}
    {input : UpdateEntityInput} {fields : Option Fields} {supply : EntitySupply} {db' : Db}
    {edit : BulkEdit} (bound : s.Bound)
    (snapshot : input.dueDate.isSome → ∀ r ∈ s.db.entityInstances,
      r.isOf tenantId existing.id → r.dueDate = existing.dueDate)
    (ran : (OpenWind.bulkWriteEdit tenantId existing input fields supply).exec s.db =
      .ok (edit, db')) :
    DueState.Bound { s with db := db' } ∧ s.db.KeepsDates db' input existing.id ∧
      ∀ out ∈ edit.assigned, out.isDue = false := by
  unfold OpenWind.bulkWriteEdit at ran
  simp only [exec_seq_ok, Table.exec_update, Table.exec_find, Tables.entityInstances_rows,
    ok_eq_ok] at ran
  obtain ⟨_, mid, ⟨-, rfl⟩, found, _, ⟨rfl, rfl⟩, rest⟩ := ran
  let f (r : EntityInstance) : EntityInstance :=
    if r.isOf tenantId existing.id then input.withoutState.apply fields supply.now r else r
  have same (r : EntityInstance) : (f r).id = r.id ∧ (f r).tenantId = r.tenantId ∧
      (f r).deletedAt = r.deletedAt := by
    unfold f
    split <;> exact ⟨rfl, rfl, rfl⟩
  have isOf (r : EntityInstance) : (f r).isOf tenantId existing.id = r.isOf tenantId existing.id := by
    unfold EntityInstance.isOf
    rw [(same r).1, (same r).2.1]
  have others (r : EntityInstance) (other : r.isOf tenantId existing.id = false) : f r = r := by
    unfold f
    rw [other]
    rfl
  have unmentioned (r : EntityInstance) (none_ : input.dueDate = none) :
      (f r).dueDate = r.dueDate := by
    unfold f
    split
    · change input.dueDate.getD r.dueDate = r.dueDate
      rw [none_]
      rfl
    · rfl
  have written := effect_modifyInstances (EntityInstance.isOf tenantId existing.id)
    (input.withoutState.apply fields supply.now) s.db
  have keeps {next : Db} (instances : next.entityInstances = s.db.entityInstances.map f) :
      s.db.KeepsDates next input existing.id := by
    intro r' mem
    rw [instances] at mem
    obtain ⟨r, listed, rfl⟩ := List.mem_map.mp mem
    refine ⟨r, listed, (same r).1, (same r).2.1, fun kept => ?_⟩
    rcases kept with other | none_
    · rw [others r (eq_false_iff.mpr fun chosen =>
        other (eq_of_beq (and_eq_true_iff.mp chosen).1))]
    · exact unmentioned r none_
  split at rest
  next missing =>
    cases rest
    refine ⟨bound.undated (f := f) (Nat.le_refl _) rfl same (fun r mem => ?_) written.outbox.keyed
      rfl, keeps rfl, fun _ mem => (nomatch mem)⟩
    rw [others r]
    refine eq_false_iff.mpr fun chosen => ?_
    exact find?_eq_none.mp missing (f r) (List.mem_map_of_mem mem) ((isOf r).trans chosen)
  next row found =>
    simp only [exec_seq_ok, exec_pure, ok_eq_ok] at rest
    obtain ⟨_, _, scheduled, rfl, rfl⟩ := rest
    unfold rescheduleEdit at scheduled
    split at scheduled
    next mentioned =>
      have quiet := exec_rescheduleDueDate_ok scheduled
      have effect := written.quiet quiet
      have chosenRow := find?_some found
      have named : row.id = existing.id := eq_of_beq (and_eq_true_iff.mp chosenRow).1
      obtain ⟨r₀, mem₀, rfl⟩ := List.mem_map.mp (mem_of_find?_eq_some found)
      have dues := exec_rescheduleDueDate_dues scheduled
      refine ⟨bound.edit (f := f) (Nat.le_refl _)
        (effect.instances.trans (append_nil _).symm) s.db.unused_nil same effect.outbox dues
        (fun r _ other => ?_) (fun r mem chosen => ?_) fun _ mem => (nomatch mem),
        keeps effect.instances, assignmentOutbox_other⟩
      · rw [named] at other
        rw [others r other]
      · rw [named] at chosen
        refine ⟨snapshot mentioned r mem chosen, ?_⟩
        have sameId : r₀.id = r.id := (same r₀).1.symm.trans
          (named.trans (eq_of_beq (and_eq_true_iff.mp chosen).1).symm)
        rw [← bound.keyed.eq mem₀ mem sameId]
    next unset =>
      cases scheduled
      have none_ : input.dueDate = none := not_isSome_iff_eq_none.mp unset
      exact ⟨bound.undated (f := f) (Nat.le_refl _) rfl same (fun r _ => unmentioned r none_)
        written.outbox.keyed rfl, keeps rfl, assignmentOutbox_other⟩

theorem DueState.Bound.bulkApplyEdit {base : FieldRules} {tenantId : Id}
    {existing : EntityInstance} {input : UpdateEntityInput} {fields : Option Fields}
    {supply : EntitySupply} {db' : Db} {result : Except (List FieldError) BulkEdit}
    (bound : s.Bound)
    (snapshot : input.dueDate.isSome → ∀ r ∈ s.db.entityInstances,
      r.isOf tenantId existing.id → r.dueDate = existing.dueDate)
    (ran : (OpenWind.bulkApplyEdit base tenantId existing input fields supply).exec s.db =
      .ok (result, db')) :
    DueState.Bound { s with db := db' } ∧ s.db.KeepsDates db' input existing.id ∧
      ∀ edit, result = .ok edit → ∀ out ∈ edit.assigned, out.isDue = false := by
  unfold OpenWind.bulkApplyEdit at ran
  split at ran
  next =>
    cases ran
    exact ⟨bound, .refl _ _ _, fun _ same => nomatch same⟩
  next => cases ran
  next =>
    simp only [exec_seq_ok, exec_pure, ok_eq_ok] at ran
    obtain ⟨edit, _, wrote, rfl, rfl⟩ := ran
    obtain ⟨after, keeps, others⟩ := bound.bulkWriteEdit snapshot wrote
    refine ⟨after, keeps, fun other same => ?_⟩
    cases same
    exact others

theorem DueState.Bound.bulkUpdateItem {base : FieldRules} {rules : EditRules} {tenantId : Id}
    {existing : EntityInstance} {input : UpdateEntityInput} {supply : EntitySupply} {db' : Db}
    {result : Except (List FieldError) BulkEdit} (bound : s.Bound)
    (snapshot : input.dueDate.isSome → ∀ r ∈ s.db.entityInstances,
      r.isOf tenantId existing.id → r.dueDate = existing.dueDate)
    (ran : (OpenWind.bulkUpdateItem base rules tenantId existing input supply).exec s.db =
      .ok (result, db')) :
    DueState.Bound { s with db := db' } ∧ s.db.KeepsDates db' input existing.id ∧
      ∀ edit, result = .ok edit → ∀ out ∈ edit.assigned, out.isDue = false := by
  unfold OpenWind.bulkUpdateItem at ran
  split at ran
  next provided _ =>
    simp only [exec_seq_ok, exec_read, exec_lift_ok, ok_eq_ok] at ran
    obtain ⟨_, _, ⟨rfl, rfl⟩, checked, _, ⟨-, rfl⟩, rest⟩ := ran
    cases checked with
    | error errors =>
      cases rest
      exact ⟨bound, .refl _ _ _, fun _ same => nomatch same⟩
    | ok fields => exact bound.bulkApplyEdit snapshot rest
  next =>
    split at ran
    next => exact bound.bulkApplyEdit snapshot ran
    next =>
      cases ran
      refine ⟨bound, .refl _ _ _, fun edit same => ?_⟩
      cases same
      exact fun _ mem => (nomatch mem)

def Db.Snapshot (db : Db) (tenantId : Id) (existingRows : List EntityInstance)
    (items : List (BulkUpdateItem × Nat)) : Prop :=
  ∀ item ∈ items, item.1.input.dueDate.isSome = true → ∀ existing ∈ existingRows,
    existing.id = item.1.id → ∀ r ∈ db.entityInstances, r.isOf tenantId existing.id = true →
      r.dueDate = existing.dueDate

theorem Db.Snapshot.keep {existingRows : List EntityInstance} {items : List (BulkUpdateItem × Nat)}
    {input : UpdateEntityInput} (snapshot : db.Snapshot tenantId existingRows items)
    (keeps : db.KeepsDates db' input instanceId)
    (once : input.dueDate = none ∨ ∀ item ∈ items, item.1.input.dueDate.isSome →
      item.1.id ≠ instanceId) : db'.Snapshot tenantId existingRows items := by
  intro item mem sets existing listed named r' stored chosen
  obtain ⟨r, old, id, tenant, date⟩ := keeps r' stored
  have ofRow : r.isOf tenantId existing.id := by
    unfold EntityInstance.isOf at chosen ⊢
    rw [← id, ← tenant]
    exact chosen
  have before := snapshot item mem sets existing listed named r old ofRow
  refine (date ?_).trans before
  refine once.symm.imp_left fun apart same => apart item mem sets ?_
  exact named.symm.trans ((eq_of_beq (and_eq_true_iff.mp ofRow).1).symm.trans same)

theorem DueState.Bound.bulkUpdateItems {base : FieldRules} {rules : EditRules} {tenantId : Id}
    {existingRows : List EntityInstance} {supply : EntitySupply}
    {items : List (BulkUpdateItem × Nat)} {result : BulkUpdateResult} {assigned : List OutboxEvent}
    {db' : Db} (bound : s.Bound) (snapshot : s.db.Snapshot tenantId existingRows items)
    (once : ((items.filter fun item => item.1.input.dueDate.isSome).map (·.1.id)).Nodup)
    (ran : (OpenWind.bulkUpdateItems base rules tenantId existingRows supply items).exec s.db =
      .ok ((result, assigned), db')) :
    DueState.Bound { s with db := db' } ∧ ∀ out ∈ assigned, out.isDue = false := by
  induction items generalizing s result assigned with
  | nil =>
    cases ran
    exact ⟨bound, fun _ mem => (nomatch mem)⟩
  | cons head rest ih =>
    have later : s.db.Snapshot tenantId existingRows rest := fun item mem =>
      snapshot item (mem_cons_of_mem _ mem)
    have apart : head.1.input.dueDate = none ∨ ∀ item ∈ rest,
        item.1.input.dueDate.isSome → item.1.id ≠ head.1.id := by
      cases set : head.1.input.dueDate with
      | none => exact .inl rfl
      | some dueDate =>
        refine .inr fun item mem sets same => ?_
        rw [filter_cons_of_pos (by rw [set]; rfl), map_cons, nodup_cons] at once
        exact once.1 (List.mem_map.mpr ⟨item, mem_filter.mpr ⟨mem, sets⟩, same⟩)
    have onceLater : ((rest.filter fun item => item.1.input.dueDate.isSome).map (·.1.id)).Nodup :=
      once.sublist ((sublist_cons_self _ _).filter _ |>.map _)
    unfold OpenWind.bulkUpdateItems at ran
    split at ran
    next =>
      simp only [exec_seq_ok, exec_pure, ok_eq_ok] at ran
      obtain ⟨⟨_, _⟩, _, others, ⟨-, rfl⟩, rfl⟩ := ran
      exact ih bound later onceLater others
    next existing found =>
      have listed := mem_of_find?_eq_some found
      have selected := find?_some found
      have named : existing.id = head.1.id := eq_of_beq selected
      simp only [exec_seq_ok] at ran
      obtain ⟨edited, mid, first, ⟨_, _⟩, _, others, done⟩ := ran
      obtain ⟨after, keeps, own⟩ := bound.bulkUpdateItem (fun sets =>
        snapshot head mem_cons_self sets existing listed named) first
      rw [named] at keeps
      have remaining := later.keep keeps apart
      cases edited with
      | error errors =>
        cases done
        exact ih (s := { s with db := mid }) after remaining onceLater others
      | ok edit =>
        cases done
        obtain ⟨last, rows⟩ := ih (s := { s with db := mid }) after remaining onceLater others
        refine ⟨last, fun out mem => ?_⟩
        rcases mem_append.mp mem with here | there
        · exact own edit rfl out here
        · exact rows out there

theorem DueState.Bound.bulk {base : FieldRules} {rules : EditRules} {items : List BulkUpdateItem}
    {order : List Nat} {result : BulkUpdateResult} (bound : s.Bound)
    (once : (datedIds items order).Nodup)
    (ran : (bulkUpdateEntities base rules tenantId items order supply).exec s.db =
      .ok (result, db')) : DueState.Bound { s with db := db' } := by
  unfold bulkUpdateEntities at ran
  simp only [exec_seq_ok, Table.exec_filter, exec_pure, ok_eq_ok] at ran
  obtain ⟨_, _, ⟨rfl, rfl⟩, ⟨_, assigned⟩, mid, written, _, _, announced, -, rfl⟩ := ran
  have snapshot : s.db.Snapshot tenantId (s.db.entityInstances.filter
      (EntityInstance.isRequested tenantId items)) (order.filterMap fun i => items.zipIdx[i]?) := by
    intro item _ _ existing listed _ r mem chosen
    rw [bound.keyed.eq mem (mem_filter.mp listed).1 (eq_of_beq (and_eq_true_iff.mp chosen).1)]
  obtain ⟨after, others⟩ := bound.bulkUpdateItems snapshot once written
  obtain ⟨fresh, rfl⟩ := (Table.exec_insert_ok _).mp announced
  exact after.same (Nat.le_refl _) rfl (fun keyed => keyed.append fresh)
    (exec_insertOutbox_dues others announced)

theorem DueState.Bound.turn {label : TriggerLabel} (bound : s.Bound) (covers : s.Covers label)
    (stepped : s.turn label = some t) : t.Bound := by
  have moved {now : Time} {next : DueState} (step : s.after now next = some t) :
      s.clock ≤ now ∧ t = { next with clock := now } := by
    unfold after at step
    split at step
    next => cases step
    next inTime => exact ⟨Nat.le_of_not_lt inTime, (Option.some.inj step).symm⟩
  cases label with
  | call call =>
    obtain ⟨later, rfl⟩ := moved stepped
    exact bound.call later (call.did s.db)
  | bulkUpdateEntities base rules tenantId items order supply =>
    obtain ⟨later, rfl⟩ := moved stepped
    refine Tx.commit_of (P := fun db' => DueState.Bound { s with db := db', clock := supply.now })
      (bound.same later rfl id rfl) fun ran => ?_
    exact (bound.bulk covers ran).same later rfl id rfl
  | poll now failed unsettled commits =>
    obtain ⟨later, rfl⟩ := moved stepped
    exact bound.poll later failed unsettled commits

end Steps

/-- Every live record that is due in the future has a trigger for its due date, along a run
in which batches set the due date of a record once. -/
theorem future_due_dates_triggered {db : Db} {labels : List TriggerLabel}
    (none_ : db.entityInstances = []) (outbox : Tables.outboxEvents.Keyed db)
    (guarded : Runs.Guarded DueState.turn DueState.Covers { db } labels) :
    Runs.Always DueState.turn DueState.Triggered { db } labels := by
  refine guarded.always (I := DueState.Bound) (fun bound covers stepped => bound.turn covers stepped)
    (fun bound => DueState.Bound.triggered bound) ⟨?_, outbox, rfl, fun _ mem => (nomatch mem),
      fun row mem => ?_⟩
  · unfold Db.Keyed
    rw [none_]
    exact nodup_nil
  · change row ∈ db.entityInstances at mem
    rw [none_] at mem
    cases mem

/-! ### A date that is set away and back -/

/-- Create record 10. -/
def triggerCreate (dueDate : Time) : TriggerLabel :=
  .call (.createEntity .acceptAll 1 { entityTypeId := 1, fields := [], dueDate := some dueDate }
    ⟨0, 0, fun i => 10 + i⟩)

def triggerBulk (now : Time) (dates : List Time) : TriggerLabel :=
  .bulkUpdateEntities .acceptAll .acceptAll 1
    (dates.map fun dueDate => ⟨10, { dueDate := some (some dueDate) }⟩) (List.range dates.length)
    ⟨now, now, fun i => 100 * now + i⟩

/-- The first item of the batch cancels the row of the due date, and the second, which compares
its date with the one that was read before, writes none. -/
theorem due_date_set_back_untriggered :
    ¬ Runs.Always DueState.turn DueState.Triggered { db := {} }
      [triggerCreate 9, triggerBulk 1 [8, 9], .poll 2 [] [] true] := by
  intro always
  have reached : (Runs.run DueState.turn { db := {} }
      [triggerCreate 9, triggerBulk 1 [8, 9], .poll 2 [] [] true]).any (fun s =>
        decide (s.clock < 9) && s.db.entityInstances.any fun row => decide (row.deletedAt = none ∧
          row.dueDate = some 9 ∧ ¬ s.db.Pending row 9 ∧ ¬ s.Enqueued row 9)) = true := by
    decide +kernel
  obtain ⟨s, ran, found⟩ := (Option.any_eq_true _ _).mp reached
  obtain ⟨early, found⟩ := and_eq_true_iff.mp found
  obtain ⟨row, mem, found⟩ := List.any_eq_true.mp found
  obtain ⟨live, given, noRow, noJob⟩ := of_decide_eq_true found
  rcases always.last ran row mem live 9 given (of_decide_eq_true early) with pending | enqueued
  · exact noRow pending
  · exact noJob enqueued

instance DueState.decidableCovers (s : DueState) (label : TriggerLabel) :
    Decidable (s.Covers label) := by
  unfold DueState.Covers
  split <;> infer_instance

/-- In two batches the date goes away and comes back with its trigger. -/
theorem due_date_set_back_triggered :
    Runs.Always DueState.turn DueState.Triggered { db := {} }
      [triggerCreate 9, .poll 1 [] [] true, triggerBulk 2 [8], triggerBulk 3 [9],
        .poll 4 [] [] true, .call (.archiveEntity 1 10 true ⟨5, 5, fun i => i⟩ 5)] := by
  refine future_due_dates_triggered rfl nodup_nil (.of_check (c := fun s label =>
    decide (s.Covers label)) of_decide_eq_true ?_)
  decide +kernel

end OpenWind
