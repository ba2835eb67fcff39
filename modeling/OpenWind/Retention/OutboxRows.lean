import OpenWind.Retention.ActorHistory
import Mathlib.Data.Fintype.Basic

/-!
# Rows of the outbox

A row of the outbox has two marks of delivery.  The pollers and the schedulers each read rows of
some types that lack one of the marks, and set it; a few of the writers set one themselves.  The
retention sweep deletes an old row when both marks are set.
-/

open List Bool

namespace OpenWind

open Runs

/-! ## Types, writers and consumers -/

inductive OutboxType
  | entityCreated | entityAssigned | entityUnassigned | entityUpdated
  | entityDueDateScheduled | entityDueDateApproaching | entityDueDateOverdue
  | workflowTransitioned | workflowSlaScheduled | workflowSlaBreached
  | commentCreated | commentMentioned | commentMentionAccessGranted | commentReplied
  | accessGranted | accessRevoked | accessUpdated
  | accessRequestCreated | accessRequestUpdated
  | ticketSeverityChanged | ticketAlertScheduled
  | systemError
  deriving DecidableEq

inductive OutboxMark
  | deliveredAt
  | notifiedDeliveredAt
  deriving DecidableEq

instance : Fintype OutboxMark where
  elems := {.deliveredAt, .notifiedDeliveredAt}
  complete mark := by cases mark <;> decide

inductive OutboxWriter
  | createEntity | updateEntity | bulkCreateEntities | bulkUpdateEntities | bulkSetState
  | setEntityState | rescheduleDueDate | createChildRelation
  | commitStateChange | scheduleSlaIfNeeded | emitAccessEvent
  | postScheduleRemarkComment | postRemarkComment | postOncallComment | postSystemComment
  | addComment | thirdPartyComment | resolveMentions
  | requestAccess | resolveAccessRequest | updateSeverity | createAlert | updateAlert
  | dueDateWorker | dueDateApproachingWorker | slaBreacher
  | avScan | fireMisuseAlert | handleFailedJob
  deriving DecidableEq

namespace OutboxWriter

open OutboxType

/-- The types of the rows that it writes. -/
def writes : OutboxWriter → List OutboxType
  | .createEntity => [entityCreated, entityAssigned]
  | .updateEntity => [entityAssigned, entityUnassigned, entityUpdated]
  | .bulkCreateEntities => [entityCreated, entityAssigned]
  | .bulkUpdateEntities => [entityAssigned, entityUnassigned]
  | .bulkSetState => [workflowTransitioned]
  | .setEntityState => [workflowTransitioned]
  | .rescheduleDueDate => [entityDueDateScheduled]
  | .createChildRelation => [entityCreated, entityAssigned]
  | .commitStateChange => [workflowTransitioned]
  | .scheduleSlaIfNeeded => [workflowSlaScheduled]
  | .emitAccessEvent => [accessGranted, accessRevoked, accessUpdated]
  | .postScheduleRemarkComment => [commentCreated]
  | .postRemarkComment => [commentCreated]
  | .postOncallComment => [commentCreated]
  | .postSystemComment => [commentCreated, commentReplied, commentMentioned]
  | .addComment => [commentCreated, commentMentioned, commentReplied, commentMentionAccessGranted]
  | .thirdPartyComment => [commentCreated]
  | .resolveMentions => [commentCreated, commentReplied, accessRequestCreated]
  | .requestAccess => [accessRequestCreated]
  | .resolveAccessRequest => [accessRequestUpdated]
  | .updateSeverity => [ticketSeverityChanged]
  | .createAlert => [ticketAlertScheduled]
  | .updateAlert => [ticketAlertScheduled]
  | .dueDateWorker => [entityDueDateOverdue]
  | .dueDateApproachingWorker => [entityDueDateApproaching]
  | .slaBreacher => [workflowSlaBreached]
  | .avScan => [systemError]
  | .fireMisuseAlert => [systemError]
  | .handleFailedJob => [systemError]

def presets (writer : OutboxWriter) (mark : OutboxMark) : Bool :=
  (writer == .avScan || writer == .fireMisuseAlert) && mark == .deliveredAt

end OutboxWriter

inductive OutboxConsumer
  | outboxPoller
  | notificationPoller
  | slaScheduler
  | dueDateScheduler
  | alertScheduler
  deriving DecidableEq

instance : Fintype OutboxConsumer where
  elems := {.outboxPoller, .notificationPoller, .slaScheduler, .dueDateScheduler, .alertScheduler}
  complete consumer := by cases consumer <;> decide

namespace OutboxConsumer

open OutboxType

def NOTIFICATION_EVENT_TYPES : List OutboxType :=
  [entityAssigned, entityUnassigned, entityUpdated, commentMentioned, commentMentionAccessGranted,
    commentReplied, accessGranted, accessRevoked, accessUpdated, workflowTransitioned,
    workflowSlaBreached, entityDueDateApproaching, systemError, commentCreated,
    accessRequestCreated, accessRequestUpdated, ticketSeverityChanged]

def reads : OutboxConsumer → List OutboxType
  | .outboxPoller => [workflowTransitioned, workflowSlaBreached, entityCreated, entityAssigned,
      entityUnassigned, entityUpdated, entityDueDateOverdue]
  | .notificationPoller => NOTIFICATION_EVENT_TYPES
  | .slaScheduler => [workflowSlaScheduled]
  | .dueDateScheduler => [entityDueDateScheduled]
  | .alertScheduler => [ticketAlertScheduled]

/-- The mark that it looks at and sets. -/
def mark : OutboxConsumer → OutboxMark
  | .notificationPoller => .notifiedDeliveredAt
  | _ => .deliveredAt

def BATCH_SIZE : OutboxConsumer → Nat
  | .outboxPoller => 100
  | .notificationPoller => 100
  | _ => 50

theorem eq_of_mark {consumer other : OutboxConsumer} {eventType : OutboxType}
    (reads : eventType ∈ consumer.reads) (reads' : eventType ∈ other.reads)
    (same : other.mark = consumer.mark) : other = consumer := by
  have apart : ∀ consumer other : OutboxConsumer, other.mark = consumer.mark →
      ∀ eventType ∈ consumer.reads, eventType ∈ other.reads → other = consumer := by
    decide
  exact apart consumer other same eventType reads reads'

end OutboxConsumer

variable {writer : OutboxWriter} {eventType : OutboxType}

theorem OutboxWriter.mark_ne_of_presets {mark : OutboxMark} (written : eventType ∈ writer.writes)
    (presets : writer.presets mark) {consumer : OutboxConsumer}
    (reads : eventType ∈ consumer.reads) : consumer.mark ≠ mark := by
  simp only [OutboxWriter.presets, and_eq_true, or_eq_true, beq_iff_eq] at presets
  have unread : ∀ consumer : OutboxConsumer, .systemError ∈ consumer.reads →
      consumer.mark ≠ .deliveredAt := by
    decide
  rcases presets with ⟨rfl | rfl, rfl⟩
  · rw [mem_singleton.mp written] at reads
    exact unread consumer reads
  · rw [mem_singleton.mp written] at reads
    exact unread consumer reads

def OutboxWriter.Covered (writer : OutboxWriter) (eventType : OutboxType) : Prop :=
  ∀ mark, writer.presets mark = true ∨
    ∃ consumer : OutboxConsumer, eventType ∈ consumer.reads ∧ consumer.mark = mark

instance (writer : OutboxWriter) (eventType : OutboxType) :
    Decidable (writer.Covered eventType) :=
  inferInstanceAs (Decidable (∀ _, _))

/-! ## The outbox and its steps -/

structure OutboxRow where
  id : Id
  tenantId : Id
  eventType : OutboxType
  createdAt : Time
  deliveredAt : Option Time := none
  notifiedDeliveredAt : Option Time := none
  writer : OutboxWriter
  deriving DecidableEq

namespace OutboxRow

def markedAt (row : OutboxRow) : OutboxMark → Option Time
  | .deliveredAt => row.deliveredAt
  | .notifiedDeliveredAt => row.notifiedDeliveredAt

def set (row : OutboxRow) (now : Time) : OutboxMark → OutboxRow
  | .deliveredAt => { row with deliveredAt := some now }
  | .notifiedDeliveredAt => { row with notifiedDeliveredAt := some now }

theorem markedAt_set (row : OutboxRow) (now : Time) (mark other : OutboxMark) :
    (row.set now mark).markedAt other = if other = mark then some now else row.markedAt other := by
  cases mark <;> cases other <;> rfl

section

variable (row : OutboxRow) (now : Time) (mark : OutboxMark)

include row now mark

@[simp] theorem id_set : (row.set now mark).id = row.id := by
  cases mark <;> rfl

@[simp] theorem eventType_set : (row.set now mark).eventType = row.eventType := by
  cases mark <;> rfl

@[simp] theorem writer_set : (row.set now mark).writer = row.writer := by
  cases mark <;> rfl

end

def awaits (row : OutboxRow) (consumer : OutboxConsumer) : Bool :=
  (row.markedAt consumer.mark).isNone && consumer.reads.contains row.eventType

/-- The row is older than the window. -/
def isPast (policy : RetentionPolicy) (now : Time) (row : OutboxRow) : Bool :=
  row.createdAt + policy.noiseDays * dayMs < now

/-- The condition of the sweep. -/
def isDeletable (policy : RetentionPolicy) (now : Time) (row : OutboxRow) : Bool :=
  row.deliveredAt.isSome && row.notifiedDeliveredAt.isSome && row.isPast policy now

end OutboxRow

structure OutboxWorld where
  now : Time
  rows : List OutboxRow
  handled : List (OutboxConsumer × Id)
  /-- The rows that were marked so that no consumer takes them. -/
  withdrawn : List Id
  deriving DecidableEq

inductive OutboxLabel
  | tick (time : Nat)
  | write (writer : OutboxWriter) (eventType : OutboxType) (tenantId id : Id)
  | poll (consumer : OutboxConsumer) (batch : List Id)
  /-- Timers that are cancelled: `delivered_at` is set. -/
  | cancel (ids : List Id)
  /-- The rows of a sandbox that is being seeded: both marks are set. -/
  | suppress (ids : List Id)
  | sweep (tenantId : Id) (batch : List Id)

namespace OutboxWorld

/-- The types of the timers. -/
def timers : List OutboxType :=
  [.workflowSlaScheduled, .entityDueDateScheduled, .ticketAlertScheduled]

/-- The rows of the batch are changed. -/
def update (w : OutboxWorld) (ids : List Id) (f : OutboxRow → OutboxRow) : OutboxWorld :=
  { w with rows := w.rows.map fun row => if row.id ∈ ids then f row else row }

def withdraw (w : OutboxWorld) (ids : List Id) : OutboxWorld :=
  { w with withdrawn := w.withdrawn ++ ids }

def known (w : OutboxWorld) : List Id :=
  w.rows.map OutboxRow.id ++ w.handled.map Prod.snd ++ w.withdrawn

def written (w : OutboxWorld) (writer : OutboxWriter) (eventType : OutboxType)
    (tenantId id : Id) : OutboxRow where
  id := id
  tenantId := tenantId
  eventType := eventType
  createdAt := w.now
  deliveredAt := if writer.presets .deliveredAt then some w.now else none
  notifiedDeliveredAt := if writer.presets .notifiedDeliveredAt then some w.now else none
  writer := writer

def step (policy : Id → RetentionPolicy) (w : OutboxWorld) : OutboxLabel → Option OutboxWorld
  | .tick time => some { w with now := w.now + time }
  | .write writer eventType tenantId id =>
    if eventType ∈ writer.writes ∧ id ∉ w.known then
      some { w with rows := w.rows ++ [w.written writer eventType tenantId id] }
    else none
  | .poll consumer batch =>
    if batch.length ≤ consumer.BATCH_SIZE ∧
        ∀ row ∈ w.rows, row.id ∈ batch → row.awaits consumer = true then
      some { w.update batch fun row => row.set w.now consumer.mark with
        handled := w.handled ++ batch.map (consumer, ·) }
    else none
  | .cancel ids =>
    if ∀ row ∈ w.rows, row.id ∈ ids → row.deliveredAt = none ∧ row.eventType ∈ timers then
      some ((w.update ids fun row => row.set w.now .deliveredAt).withdraw ids)
    else none
  | .suppress ids =>
    if ∀ row ∈ w.rows, row.id ∈ ids → row.deliveredAt = none then
      some ((w.update ids fun row =>
        (row.set w.now .deliveredAt).set w.now .notifiedDeliveredAt).withdraw ids)
    else none
  | .sweep tenantId batch =>
    if (policy tenantId).hold = false ∧ ∀ row ∈ w.rows, row.id ∈ batch →
        row.tenantId = tenantId ∧ row.isDeletable (policy tenantId) w.now = true then
      some { w with rows := w.rows.filter (·.id ∉ batch) }
    else none

def start (now : Time) : OutboxWorld := ⟨now, [], [], []⟩

/-! ## The property -/

def Consumed (w : OutboxWorld) (row : OutboxRow) : Prop :=
  ∀ consumer : OutboxConsumer, row.eventType ∈ consumer.reads → (consumer, row.id) ∈ w.handled

instance (w : OutboxWorld) (row : OutboxRow) : Decidable (w.Consumed row) :=
  inferInstanceAs (Decidable (∀ _, _))

def Awaited (w : OutboxWorld) (row : OutboxRow) : Prop :=
  row.id ∉ w.withdrawn ∧ ∃ consumer : OutboxConsumer, row.eventType ∈ consumer.reads ∧
    (consumer, row.id) ∉ w.handled

def Collects (policy : Id → RetentionPolicy) (w : OutboxWorld) (row : OutboxRow) : Prop :=
  row.id ∉ w.withdrawn → w.Consumed row → row.isPast (policy row.tenantId) w.now = true →
    row.isDeletable (policy row.tenantId) w.now = true

/-! ## The invariant -/

def Marked (w : OutboxWorld) (row : OutboxRow) (mark : OutboxMark) : Prop :=
  row.writer.presets mark = true ∨ ∃ consumer : OutboxConsumer,
    row.eventType ∈ consumer.reads ∧ consumer.mark = mark ∧ (consumer, row.id) ∈ w.handled

structure RowSound (w : OutboxWorld) (row : OutboxRow) : Prop where
  written : row.eventType ∈ row.writer.writes
  marked : row.id ∉ w.withdrawn → ∀ mark, (row.markedAt mark).isSome = true ↔ w.Marked row mark

def Sound (w : OutboxWorld) : Prop := ∀ row ∈ w.rows, w.RowSound row

variable {policy : Id → RetentionPolicy} {w w' : OutboxWorld}

variable {row : OutboxRow}

theorem RowSound.isDeletable_iff (sound : w.RowSound row) (kept : row.id ∉ w.withdrawn) :
    row.isDeletable (policy row.tenantId) w.now ↔
      (∀ mark, w.Marked row mark) ∧ row.isPast (policy row.tenantId) w.now := by
  unfold OutboxRow.isDeletable
  rw [and_eq_true, and_eq_true]
  constructor
  · intro deletable
    obtain ⟨⟨delivered, notified⟩, past⟩ := deletable
    refine ⟨fun mark => ?_, past⟩
    cases mark with
    | deliveredAt => exact (sound.marked kept .deliveredAt).mp delivered
    | notifiedDeliveredAt => exact (sound.marked kept .notifiedDeliveredAt).mp notified
  · intro both
    obtain ⟨marked, past⟩ := both
    exact ⟨⟨(sound.marked kept .deliveredAt).mpr (marked .deliveredAt),
      (sound.marked kept .notifiedDeliveredAt).mpr (marked .notifiedDeliveredAt)⟩, past⟩

theorem Consumed.marked_iff (consumed : w.Consumed row) :
    (∀ mark, w.Marked row mark) ↔ row.writer.Covered row.eventType := by
  constructor
  · intro marked mark
    rcases marked mark with preset | ⟨consumer, reads, sets, -⟩
    · exact .inl preset
    · exact .inr ⟨consumer, reads, sets⟩
  · intro covered mark
    rcases covered mark with preset | ⟨consumer, reads, sets⟩
    · exact .inl preset
    · exact .inr ⟨consumer, reads, sets, consumed consumer reads⟩

theorem RowSound.not_awaited (sound : w.RowSound row) (marked : ∀ mark, w.Marked row mark) :
    ¬ w.Awaited row := by
  intro awaited
  obtain ⟨-, consumer, reads, unhandled⟩ := awaited
  rcases marked consumer.mark with preset | ⟨other, reads', same, handled⟩
  · exact OutboxWriter.mark_ne_of_presets sound.written preset reads rfl
  · rw [OutboxConsumer.eq_of_mark reads reads' same] at handled
    exact unhandled handled

/-! ### Steps -/

theorem RowSound.of_same (sound : w.RowSound row)
    (handled : ∀ consumer, (consumer, row.id) ∈ w'.handled ↔ (consumer, row.id) ∈ w.handled)
    (withdrawn : w.withdrawn ⊆ w'.withdrawn) : w'.RowSound row := by
  refine ⟨sound.written, fun kept mark => ?_⟩
  rw [sound.marked (fun before => kept (withdrawn before)) mark]
  unfold Marked
  simp only [handled]

theorem Sound.poll (sound : w.Sound) {consumer : OutboxConsumer} {batch : List Id}
    (awaits : ∀ row ∈ w.rows, row.id ∈ batch → row.awaits consumer) :
    Sound { w.update batch fun row => row.set w.now consumer.mark with
      handled := w.handled ++ batch.map (consumer, ·) } := by
  intro row' mem
  obtain ⟨row, was, rfl⟩ := mem_map.mp mem
  have before := sound row was
  by_cases polled : row.id ∈ batch
  · rw [if_pos polled]
    have reads : row.eventType ∈ consumer.reads := by
      have taken := awaits row was polled
      simp only [OutboxRow.awaits, and_eq_true, contains_iff_mem] at taken
      exact taken.2
    refine ⟨by simpa using before.written, fun kept mark => ?_⟩
    simp only [OutboxRow.id_set] at kept
    rw [OutboxRow.markedAt_set]
    unfold Marked
    simp only [OutboxRow.id_set, OutboxRow.eventType_set, OutboxRow.writer_set]
    by_cases sets : mark = consumer.mark
    · rw [if_pos sets]
      refine ⟨fun _ => .inr ⟨consumer, reads, sets.symm, ?_⟩, fun _ => rfl⟩
      exact mem_append_right _ (mem_map_of_mem polled)
    · rw [if_neg sets, before.marked kept mark]
      constructor
      · intro marked
        rcases marked with preset | ⟨other, reads', same, handled⟩
        · exact .inl preset
        · exact .inr ⟨other, reads', same, mem_append_left _ handled⟩
      · intro marked
        rcases marked with preset | ⟨other, reads', same, handled⟩
        · exact .inl preset
        · rcases mem_append.mp handled with old | new
          · exact .inr ⟨other, reads', same, old⟩
          · obtain ⟨id, -, eq⟩ := mem_map.mp new
            rw [← (Prod.mk.inj eq).1] at same
            exact absurd same.symm sets
  · rw [if_neg polled]
    refine before.of_same (fun other => ?_) (Subset.refl _)
    constructor
    · intro handled
      rcases mem_append.mp handled with old | new
      · exact old
      · obtain ⟨id, inBatch, eq⟩ := mem_map.mp new
        rw [(Prod.mk.inj eq).2] at inBatch
        exact absurd inBatch polled
    · exact mem_append_left _

theorem Sound.withdraw (sound : w.Sound) (ids : List Id) {f : OutboxRow → OutboxRow}
    (same : ∀ row, (f row).id = row.id)
    (written : ∀ row, (f row).eventType = row.eventType ∧ (f row).writer = row.writer) :
    ((w.update ids f).withdraw ids).Sound := by
  intro row' mem
  obtain ⟨row, was, rfl⟩ := mem_map.mp mem
  by_cases inside : row.id ∈ ids
  · rw [if_pos inside]
    refine ⟨?_, fun kept => ?_⟩
    · rw [(written row).1, (written row).2]
      exact (sound row was).written
    · rw [same] at kept
      exact absurd (mem_append_right _ inside) kept
  · rw [if_neg inside]
    exact (sound row was).of_same (fun _ => Iff.rfl) (subset_append_left _ _)

theorem Sound.write (sound : w.Sound) {writer : OutboxWriter} {eventType : OutboxType}
    {tenantId id : Id} (writes : eventType ∈ writer.writes) (fresh : id ∉ w.known) :
    Sound { w with rows := w.rows ++ [w.written writer eventType tenantId id] } := by
  intro row mem
  rcases mem_append.mp mem with old | new
  · exact (sound row old).of_same (fun _ => Iff.rfl) (Subset.refl _)
  · rw [mem_singleton.mp new]
    refine ⟨writes, fun _ mark => ?_⟩
    have unhandled : ∀ consumer : OutboxConsumer, (consumer, id) ∉ w.handled := by
      intro consumer handled
      refine fresh (mem_append_left _ (mem_append_right _ ?_))
      exact mem_map_of_mem (f := Prod.snd) handled
    have marks : ((w.written writer eventType tenantId id).markedAt mark).isSome =
        writer.presets mark := by
      cases mark with
      | deliveredAt =>
        simp only [written, OutboxRow.markedAt]
        cases writer.presets .deliveredAt <;> rfl
      | notifiedDeliveredAt =>
        simp only [written, OutboxRow.markedAt]
        cases writer.presets .notifiedDeliveredAt <;> rfl
    rw [marks]
    constructor
    · exact .inl
    · intro marked
      rcases marked with preset | ⟨consumer, -, -, handled⟩
      · exact preset
      · exact absurd handled (unhandled consumer)

theorem Sound.next {label : OutboxLabel} (sound : w.Sound)
    (stepped : w.step policy label = some w') : w'.Sound := by
  revert stepped
  fun_cases step policy w label <;> intro stepped <;> cases stepped
  · exact fun row mem => (sound row mem).of_same (fun _ => Iff.rfl) (Subset.refl _)
  · next fresh => exact sound.write fresh.1 fresh.2
  · next due => exact sound.poll due.2
  · exact sound.withdraw _ (fun row => row.id_set _ _)
      fun row => ⟨row.eventType_set _ _, row.writer_set _ _⟩
  · exact sound.withdraw _ (fun _ => rfl) fun _ => ⟨rfl, rfl⟩
  · exact fun row mem => (sound row (mem_filter.mp mem).1).of_same (fun _ => Iff.rfl)
      (Subset.refl _)

/-- In every run an old row that its consumers have handled can be deleted exactly when each of its
marks is one that its writer sets or that there is a consumer for; and a row that a consumer has
still to handle cannot be deleted. -/
theorem consumed_rows_deletable_iff (policy : Id → RetentionPolicy) (now : Time)
    (labels : List OutboxLabel) :
    Always (step policy) (fun w => ∀ row ∈ w.rows,
      (row.id ∉ w.withdrawn → w.Consumed row → row.isPast (policy row.tenantId) w.now = true →
        (row.isDeletable (policy row.tenantId) w.now = true ↔ row.writer.Covered row.eventType)) ∧
      (w.Awaited row → row.isDeletable (policy row.tenantId) w.now = false))
      (start now) labels := by
  have free : Guarded (step policy) (fun _ _ => True) (start now) labels :=
    Guarded.of_forall (fun _ _ => trivial) _ _
  have empty : (start now).Sound := forall_mem_nil _
  refine free.always (I := Sound) (fun sound _ stepped => sound.next stepped)
    (fun sound row mem => ⟨?_, ?_⟩) empty
  · intro kept consumed past
    rw [(sound row mem).isDeletable_iff kept, consumed.marked_iff]
    exact and_iff_left past
  · intro awaited
    rw [eq_false_iff]
    intro deletable
    have marked := ((sound row mem).isDeletable_iff awaited.1).mp deletable
    exact (sound row mem).not_awaited marked.1 awaited

def creation : List OutboxLabel :=
  [.write .createEntity .entityCreated 1 10, .poll .outboxPoller [10], .tick (91 * dayMs)]

/-- The row that is left, which has one mark. -/
def createdRow : OutboxRow where
  id := 10
  tenantId := 1
  eventType := .entityCreated
  createdAt := 0
  deliveredAt := some 0
  writer := .createEntity

/-- The row of a record that was created stays, although its only consumer has handled it. -/
theorem created_row_stays :
    ¬ ∀ (policy : Id → RetentionPolicy) (now : Time) (labels : List OutboxLabel),
      Always (step policy) (fun w => ∀ row ∈ w.rows, w.Collects policy row) (start now) labels := by
  intro collects
  let policy : Id → RetentionPolicy :=
    fun _ => { noiseDays := 90, commentDays := 365, evidenceDays := 2555 }
  let left : OutboxWorld := ⟨91 * dayMs, [createdRow], [(.outboxPoller, 10)], []⟩
  have ran : run (step policy) (start 0) creation = some left := by decide +kernel
  have consumed : left.Consumed createdRow := by decide
  have deletable := (collects policy 0 creation).last ran createdRow mem_cons_self
    not_mem_nil consumed (by decide)
  exact absurd deletable (by decide)

end OutboxWorld

end OpenWind
