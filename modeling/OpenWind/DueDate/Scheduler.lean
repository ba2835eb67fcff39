import OpenWind.Entity.Archive
import OpenWind.Entity.Calls
import Mathlib.Data.List.Sort

/-!
# The due-date scheduler and its worker

A record's due date is put into the outbox when it is set.  The scheduler polls the
outbox and enqueues a delayed job for each row, under an identifier made of the row's;
the worker runs a due job and writes that the record is overdue, unless the record is
archived or its due date is another one by then.
-/

open List Option Bool Txn.Prog

namespace OpenWind

open Txn

/-! ## Rows -/

structure DueDatePayload where
  instanceId : Id
  entityTypeId : Json
  dueDate : Time

def dueDateScheduled : String := "entity.due_date_scheduled"

def dueDateOverdueType : String := "entity.due_date_overdue"

def OutboxEvent.dueDate (eventType : String) (row : OutboxEvent) : Option DueDatePayload :=
  match row.payload with
  | .record type about body =>
    if type == eventType then
      match body.get "dueDate" with
      | some (.num n) => some ⟨about, (body.get "entityTypeId").getD .null, n.num.toNat⟩
      | _ => none
    else none
  | _ => none

/-- An undelivered due date. -/
def OutboxEvent.pendingTrigger (row : OutboxEvent) : Bool :=
  row.deliveredAt == none && row.payload.eventType == dueDateScheduled

def OutboxEvent.isDue (row : OutboxEvent) : Bool :=
  row.payload.eventType == dueDateScheduled || row.payload.eventType == dueDateOverdueType

/-- The rows of due dates. -/
def Db.dues (db : Db) : List OutboxEvent := db.outboxEvents.filter OutboxEvent.isDue

def OutboxEvent.isFor (eventType : String) (instanceId : Id) (dueDate : Time) (row : OutboxEvent) :
    Bool :=
  (row.dueDate eventType).any fun payload =>
    payload.instanceId == instanceId && payload.dueDate == dueDate

/-! ## Polls -/

structure DueDateJob where
  outboxEventId : Id
  tenantId : Id
  instanceId : Id
  entityTypeId : Json
  dueDate : Time
  runAt : Time

def DueDateJob.isFor (instanceId : Id) (dueDate : Time) (job : DueDateJob) : Bool :=
  job.instanceId == instanceId && job.dueDate == dueDate

/-- The rows that a poll takes, the oldest first. -/
def Db.dueDateBatch (db : Db) : List OutboxEvent :=
  ((db.outboxEvents.filter OutboxEvent.pendingTrigger).insertionSort fun a b =>
    a.createdAt ≤ b.createdAt).take 50

/-- 48 hours. -/
def staleDueDateThresholdMs : Nat := 48 * 60 * 60 * 1000

/-- A date that cannot be read is stale. -/
def OutboxEvent.staleDueDate (now : Time) (row : OutboxEvent) : Bool :=
  match row.dueDate dueDateScheduled with
  | none => true
  | some payload => payload.dueDate + staleDueDateThresholdMs < now

def OutboxEvent.dueDateJob (now : Time) (row : OutboxEvent) : Option DueDateJob :=
  (row.dueDate dueDateScheduled).map fun payload =>
    ⟨row.id, row.tenantId, payload.instanceId, payload.entityTypeId, payload.dueDate,
      max now payload.dueDate⟩

namespace DueDate

def tick (now : Time) (failed unsettled : List Id) : Tx (List OutboxEvent) := do
  let rows ← Prog.read Db.dueDateBatch
  let stale := rows.filter (OutboxEvent.staleDueDate now)
  let added := rows.filter fun row => !row.staleDueDate now && !failed.contains row.id
  let delivered := (stale ++ added.filter fun row => !unsettled.contains row.id).map (·.id)
  Tables.outboxEvents.update (fun row => delivered.contains row.id) (OutboxEvent.deliver now)
  return added

def dueDateOverdue (job : DueDateJob) (supply : EntitySupply) : Tx Unit := do
  match ← Tables.entityInstances.find (EntityInstance.isOf job.tenantId job.instanceId) with
  | none => return ()
  | some row =>
    if row.deletedAt.isSome || row.dueDate != some job.dueDate then return ()
    else Tx.insertOutbox [outboxRow job.tenantId
      (.record dueDateOverdueType job.instanceId
        [("entityTypeId", job.entityTypeId), ("dueDate", .num job.dueDate),
          ("overdueAt", .num supply.now)]) supply.startedAt (supply.id 0)]

end DueDate

/-! ## The store and the queue -/

structure DueState where
  db : Db
  clock : Time := 0
  waiting : List DueDateJob := []
  completed : List DueDateJob := []

inductive DueCall
  | createEntity (rules : FieldRules) (tenantId : Id) (input : CreateEntityInput)
    (supply : EntitySupply)
  | updateEntity (rules : FieldRules) (tenantId instanceId : Id) (input : UpdateEntityInput)
    (supply : EntitySupply)
  | archiveEntity (tenantId instanceId : Id) (confirm : Bool) (supply : EntitySupply) (bound : Nat)
  | restoreEntity (tenantId instanceId : Id) (now : Time) (bound : Nat)

/-- The store after a call that ran alone. -/
def DueCall.commit (db : Db) : DueCall → Db
  | createEntity rules tenantId input supply =>
    (OpenWind.createEntity rules tenantId input supply).commit db
  | updateEntity rules tenantId instanceId input supply =>
    (OpenWind.updateEntity rules tenantId instanceId input supply).commit db
  | archiveEntity tenantId instanceId confirm supply bound =>
    (OpenWind.archiveEntity tenantId instanceId confirm supply bound).commit db
  | restoreEntity tenantId instanceId _ bound =>
    (OpenWind.restoreEntity tenantId instanceId bound).commit db

def DueCall.now : DueCall → Time
  | createEntity _ _ _ supply => supply.now
  | updateEntity _ _ _ _ supply => supply.now
  | archiveEntity _ _ _ supply _ => supply.now
  | restoreEntity _ _ now _ => now

namespace DueState

/-- A step at a time that is not before the last one. -/
def after (s : DueState) (now : Time) (next : DueState) : Option DueState :=
  if now < s.clock then none else some { next with clock := now }

def jobs (s : DueState) : List DueDateJob := s.waiting ++ s.completed

def hasJob (s : DueState) (rowId : Id) : Bool := s.jobs.any fun job => job.outboxEventId == rowId

def add (now : Time) (s : DueState) (row : OutboxEvent) : DueState :=
  if s.hasJob row.id then s
  else { s with waiting := s.waiting ++ (row.dueDateJob now).toList }

def poll (s : DueState) (now : Time) (failed unsettled : List Id) (commits : Bool) : DueState :=
  match (DueDate.tick now failed unsettled).exec s.db with
  | .ok (added, db) => { added.foldl (add now) s with db := if commits then db else s.db }
  | .error _ => s

def work (s : DueState) (rowId : Id) (active acknowledged : Bool) (supply : EntitySupply) :
    Option DueState :=
  match s.waiting.find? fun job => job.outboxEventId == rowId with
  | none => none
  | some job =>
    if supply.now < job.runAt then none
    else
      let db := if active then (DueDate.dueDateOverdue job supply).commit s.db else s.db
      if acknowledged then
        some { s with
          db
          waiting := s.waiting.filter fun job => job.outboxEventId != rowId
          completed := s.completed ++ [job] }
      else some { s with db }

end DueState

/-! ## What the operations do to the due dates -/

/-- The rows of due dates after a record's was set. -/
def rescheduled (tenantId : Id) (row : EntityInstance) (oldDueDate newDueDate : Option Time)
    (supply : EntitySupply) (rowId : Id) (dues : List OutboxEvent) : List OutboxEvent :=
  if oldDueDate == newDueDate then dues
  else
    (dues.map fun r =>
      if r.pendingDueDate tenantId row.id then r.deliver supply.startedAt else r) ++
    newDueDate.toList.map fun dueDate =>
      outboxRow tenantId (buildEntityDueDateScheduledPayload row dueDate) supply.startedAt rowId

theorem Db.dues_deliver (p : OutboxEvent → Bool) (now : Time) (db : Db) :
    (Tables.outboxEvents.modify p (OutboxEvent.deliver now) db).dues =
      db.dues.map fun r => if p r then r.deliver now else r := by
  change (db.outboxEvents.map _).filter OutboxEvent.isDue = _
  rw [List.filter_map]
  refine congrArg _ (List.filter_congr fun r _ => ?_)
  change (if p r then r.deliver now else r).isDue = r.isDue
  split <;> rfl

variable {rows : List OutboxEvent} {db db' : Db} {u : Unit} {instanceId rowId tenantId : Id}
  {existing row : EntityInstance} {newDueDate oldDueDate : Option Time} {supply : EntitySupply}
  {redacted : Fields} {createdAt : Time} {input : UpdateEntityInput} {rules : FieldRules}
  {failed : List Id} {type : String} {payload : DueDatePayload}

theorem Db.dues_append (db : Db) :
    (Tables.outboxEvents.append rows db).dues = db.dues ++ rows.filter OutboxEvent.isDue :=
  filter_append ..

theorem exec_insertOutbox_dues (others : ∀ row ∈ rows, row.isDue = false)
    (ran : (Tx.insertOutbox rows).exec db = .ok (u, db')) : db'.dues = db.dues := by
  obtain ⟨-, rfl⟩ := (Table.exec_insert_ok _).mp ran
  rw [Db.dues_append, filter_eq_nil_iff.mpr fun row mem => by rw [others row mem]; simp, append_nil]

theorem exec_rescheduleDueDate_dues
    (ran : (rescheduleDueDate tenantId row oldDueDate newDueDate supply rowId).exec db =
      .ok (u, db')) :
    db'.dues = rescheduled tenantId row oldDueDate newDueDate supply rowId db.dues := by
  unfold rescheduleDueDate at ran
  unfold rescheduled
  by_cases same : (oldDueDate == newDueDate) = true
  · rw [if_pos same] at ran ⊢
    cases ran
    rfl
  · rw [if_neg same] at ran ⊢
    simp only [exec_seq_ok, Table.exec_update, ok_eq_ok] at ran
    obtain ⟨_, _, ⟨-, rfl⟩, rest⟩ := ran
    cases newDueDate with
    | none =>
      cases rest
      rw [Db.dues_deliver]
      exact (append_nil _).symm
    | some dueDate =>
      obtain ⟨-, rfl⟩ := (Table.exec_insert_ok _).mp rest
      rw [Db.dues_append, Db.dues_deliver]
      rfl

theorem exec_insertWorkflowEvent_dues {event : WorkflowEvent}
    (ran : (insertWorkflowEvent event).exec db = .ok (u, db')) : db'.dues = db.dues := by
  obtain ⟨-, rfl⟩ := exec_insertWorkflowEvent_ok ran
  rfl

theorem creationOutbox_other {actorId : Option String} {depth : Option Nat}
    {createdId assignedId : Id} :
    ∀ out ∈ creationOutbox tenantId row redacted actorId depth createdAt createdId assignedId,
      out.isDue = false := by
  intro out mem
  rcases mem_cons.mp mem with rfl | assigned
  · rfl
  · obtain ⟨_, -, rfl⟩ := List.mem_map.mp assigned
    rfl

theorem assignmentOutbox_other :
    ∀ out ∈ assignmentOutbox tenantId existing row input supply, out.isDue = false := by
  intro out mem
  unfold assignmentOutbox at mem
  split at mem
  · cases mem
  · rcases mem_append.mp mem with assigned | unassigned
    · obtain ⟨_, -, rfl⟩ := List.mem_map.mp assigned
      rfl
    · obtain ⟨_, -, rfl⟩ := List.mem_map.mp unassigned
      rfl

theorem exec_logCreation_dues {input : CreateEntityInput}
    (ran : (logCreation input row redacted supply).exec db = .ok (u, db')) :
    db'.dues = db.dues := by
  unfold logCreation at ran
  split at ran
  · cases ran
    rfl
  · exact exec_insertWorkflowEvent_dues ran

theorem exec_logUpdate_dues {changed : Fields}
    (ran : (logUpdate tenantId existing row changed input supply).exec db = .ok (u, db')) :
    db'.dues = db.dues := by
  unfold logUpdate at ran
  simp only [exec_seq_ok, exec_read, ok_eq_ok] at ran
  obtain ⟨_, _, ⟨rfl, rfl⟩, rest⟩ := ran
  split at rest
  · cases rest
    rfl
  · simp only [exec_seq_ok] at rest
    obtain ⟨_, mid, event, announced⟩ := rest
    have logged : mid.dues = db.dues := by
      unfold insertUpdateEvent at event
      split at event
      · cases event
        rfl
      · exact exec_insertWorkflowEvent_dues event
    rw [← logged]
    unfold insertEntityUpdated at announced
    split at announced
    · cases announced
      rfl
    · refine exec_insertOutbox_dues (fun out mem => ?_) announced
      rw [mem_singleton.mp mem]
      rfl

theorem createEntity_dues {input : CreateEntityInput}
    (ran : (createEntity rules tenantId input supply).exec db = .ok (row, db')) :
    db'.dues = rescheduled tenantId row none row.dueDate supply (supply.id 1) db.dues := by
  unfold createEntity loadEntityFields at ran
  simp only [exec_seq_ok, exec_read, exec_lift_ok, Table.exec_insert_ok, Table.exec_filter,
    exec_pure, ok_eq_ok] at ran
  obtain ⟨_, db, ⟨rfl, rfl⟩, fields, db, ⟨-, rfl⟩, state, mid, requested, _, _, ⟨-, rfl⟩, _, _,
    dueDate, _, _, ⟨rfl, rfl⟩, _, _, event, _, _, outbox, rfl, rfl⟩ := ran
  obtain ⟨-, rfl⟩ := exec_requestedState_ok requested
  rw [exec_insertOutbox_dues creationOutbox_other outbox, exec_logCreation_dues event,
    exec_rescheduleDueDate_dues dueDate]
  rfl

theorem exec_writeEdit_dues {isChildTicket : Bool} {fields : Option Fields}
    (ran : (writeEdit rules tenantId existing input isChildTicket fields supply).exec db =
      .ok (row, db')) :
    db'.dues = rescheduled tenantId row existing.dueDate row.dueDate supply (supply.id 2)
      db.dues := by
  unfold writeEdit at ran
  simp only [exec_seq_ok, exec_lift_ok, Table.exec_update, exec_pure, ok_eq_ok] at ran
  obtain ⟨_, db, ⟨-, rfl⟩, _, mid, checked, _, _, ⟨-, rfl⟩, _, _, outbox, _, _, dueDate, rfl,
    rfl⟩ := ran
  obtain ⟨-, rfl⟩ := exec_checkEditState_ok checked
  rw [exec_rescheduleDueDate_dues dueDate, exec_insertOutbox_dues assignmentOutbox_other outbox]
  rfl

theorem updateEntity_dues
    (ran : (updateEntity rules tenantId instanceId input supply).exec db = .ok (row, db')) :
    ∃ existing,
      db.entityInstances.find? (EntityInstance.isLive tenantId instanceId) = some existing ∧
      db'.dues = rescheduled tenantId row existing.dueDate row.dueDate supply (supply.id 2)
        db.dues := by
  unfold updateEntity getParentId loadEntityFields at ran
  simp only [exec_seq_ok, exec_getOr_ok, Table.exec_find, Tables.entityInstances_rows,
    ok_eq_ok] at ran
  obtain ⟨_, _, ⟨rfl, rfl⟩, existing, _, ⟨found, rfl⟩, rest⟩ := ran
  refine ⟨existing, found, ?_⟩
  split at rest
  next =>
    simp only [exec_seq_ok, exec_read, exec_lift_ok, Table.exec_filter, exec_pure, ok_eq_ok] at rest
    obtain ⟨_, _, ⟨-, rfl⟩, _, _, ⟨-, rfl⟩, _, _, ⟨-, rfl⟩, _, _, ⟨-, rfl⟩, _, _, wrote, _, _, logged,
      rfl, rfl⟩ := rest
    rw [exec_logUpdate_dues logged, exec_writeEdit_dues wrote]
  next =>
    split at rest
    next =>
      simp only [exec_seq_ok, exec_read, exec_pure, ok_eq_ok] at rest
      obtain ⟨_, _, ⟨-, rfl⟩, _, _, wrote, _, _, logged, rfl, rfl⟩ := rest
      rw [exec_logUpdate_dues logged, exec_writeEdit_dues wrote]
    next =>
      cases rest
      unfold rescheduled
      rw [if_pos (beq_self_eq_true _)]

theorem Db.dues_archived (db : Db) (tenantId instanceId : Id) (ids : List Id)
    (supply : EntitySupply) : (db.archived tenantId instanceId ids supply).dues = db.dues.map fun r =>
      if r.pendingDueDateAmong tenantId ids then r.deliver supply.startedAt else r :=
  Db.dues_deliver _ _ _

/-! ## Polls -/

theorem Db.mem_dueDateBatch {row : OutboxEvent} (mem : row ∈ db.dueDateBatch) :
    row ∈ db.outboxEvents ∧ row.pendingTrigger := by
  have sorted := mem_of_mem_take mem
  exact mem_filter.mp ((mem_insertionSort _).mp sorted)

/-- The rows for which a poll adds jobs. -/
def Db.dueDateAdded (db : Db) (now : Time) (failed : List Id) : List OutboxEvent :=
  db.dueDateBatch.filter fun row => !row.staleDueDate now && !failed.contains row.id

/-- The rows that a poll delivers. -/
def Db.dueDateDelivered (db : Db) (now : Time) (failed unsettled : List Id) : List Id :=
  (db.dueDateBatch.filter (OutboxEvent.staleDueDate now) ++
    (db.dueDateAdded now failed).filter fun row => !unsettled.contains row.id).map (·.id)

theorem DueDate.exec_tick (now : Time) (failed unsettled : List Id) (db : Db) :
    (DueDate.tick now failed unsettled).exec db =
      .ok (db.dueDateAdded now failed, Tables.outboxEvents.modify
        (fun row => (db.dueDateDelivered now failed unsettled).contains row.id)
        (OutboxEvent.deliver now) db) := by
  unfold DueDate.tick
  simp only [bind_eq, exec_bind, exec_read, Table.exec_update]
  rfl

theorem Db.mem_dueDateAdded {now : Time} {row : OutboxEvent}
    (mem : row ∈ db.dueDateAdded now failed) :
    row ∈ db.dueDateBatch ∧ row.staleDueDate now = false := by
  obtain ⟨taken, fresh⟩ := mem_filter.mp mem
  exact ⟨taken, by simpa using (and_eq_true_iff.mp fresh).1⟩

theorem Db.mem_dueDateDelivered {now : Time} {failed unsettled : List Id} {id : Id}
    (mem : id ∈ db.dueDateDelivered now failed unsettled) :
    ∃ row ∈ db.dueDateBatch, row.id = id ∧
      (row.staleDueDate now ∨ row ∈ db.dueDateAdded now failed) := by
  obtain ⟨row, listed, rfl⟩ := List.mem_map.mp mem
  rcases mem_append.mp listed with stale | settled
  · obtain ⟨taken, old⟩ := mem_filter.mp stale
    exact ⟨row, taken, rfl, .inl old⟩
  · have added := (mem_filter.mp settled).1
    exact ⟨row, (Db.mem_dueDateAdded added).1, rfl, .inr added⟩

def Db.isDueAt (db : Db) (job : DueDateJob) : Bool :=
  (db.entityInstances.find? (EntityInstance.isOf job.tenantId job.instanceId)).any fun row =>
    row.deletedAt.isNone && row.dueDate == some job.dueDate

/-! ## What the calls do -/

inductive DueCall.Did (db db' : Db) : DueCall → Prop
  | nothing {call : DueCall} (same : db' = db) : Did db db' call
  | created {rules : FieldRules} {tenantId : Id} {input : CreateEntityInput}
      {supply : EntitySupply} (row : EntityInstance) (own : row.tenantId = tenantId)
      (unused : db.Unused [row]) (instances : db'.entityInstances = db.entityInstances ++ [row])
      (outbox : OutboxGrows db db')
      (dues : db'.dues = rescheduled tenantId row none row.dueDate supply (supply.id 1) db.dues) :
      Did db db' (.createEntity rules tenantId input supply)
  | edited {rules : FieldRules} {tenantId instanceId : Id} {input : UpdateEntityInput}
      {supply : EntitySupply} (existing : EntityInstance) (fields : Option Fields)
      (found : db.entityInstances.find? (EntityInstance.isLive tenantId instanceId) = some existing)
      (instances : db'.entityInstances = db.entityInstances.map fun r =>
        if EntityInstance.isOf tenantId existing.id r then input.apply fields supply.now r else r)
      (outbox : OutboxGrows db db')
      (dues : db'.dues = rescheduled tenantId (input.apply fields supply.now existing)
        existing.dueDate (input.dueDate.getD existing.dueDate) supply (supply.id 2) db.dues) :
      Did db db' (.updateEntity rules tenantId instanceId input supply)
  | archived {tenantId instanceId : Id} {confirm : Bool} {supply : EntitySupply} {bound : Nat}
      (ids : List Id)
      (same : db' = Tables.outboxEvents.modify (OutboxEvent.pendingDueDateAmong tenantId ids)
        (OutboxEvent.deliver supply.startedAt)
        (db.markTree tenantId instanceId ids none (some supply.now))) :
      Did db db' (.archiveEntity tenantId instanceId confirm supply bound)

theorem DueCall.did (db : Db) (call : DueCall) : call.Did db (call.commit db) := by
  cases call with
  | createEntity rules tenantId input supply =>
    refine Tx.commit_of (P := fun db' => DueCall.Did db db' _) (.nothing rfl) fun ran => ?_
    obtain ⟨fields, _, state, rfl, -, -, unused, effect⟩ := createEntity_cases ran
    exact .created _ rfl unused effect.instances effect.outbox (createEntity_dues ran)
  | updateEntity rules tenantId instanceId input supply =>
    refine Tx.commit_of (P := fun db' => DueCall.Did db db' _) (.nothing rfl) fun ran => ?_
    obtain ⟨existing, found, ⟨same, -⟩ | ⟨fields, changed, workflowId, edited⟩⟩ :=
      updateEntity_cases ran
    · exact .nothing same
    · obtain ⟨_, found', dues⟩ := updateEntity_dues ran
      cases found.symm.trans found'
      rw [edited.row_eq] at dues
      exact .edited existing fields found edited.effect.instances edited.effect.outbox dues
  | archiveEntity tenantId instanceId confirm supply bound =>
    refine Tx.commit_of (P := fun db' => DueCall.Did db db' _) (.nothing rfl) fun ran => ?_
    rcases archiveEntity_cases ran with same | ⟨_, ids, -, -, -, same⟩
    · exact .nothing same
    · exact .archived _ same
  | restoreEntity tenantId instanceId now bound =>
    refine Tx.commit_of (P := fun db' => DueCall.Did db db' _) (.nothing rfl) fun ran => ?_
    exact absurd ran restoreEntity_fails

/-! ## What rows and jobs are about -/

def Db.Stores (db : Db) (tenantId instanceId : Id) : Prop :=
  ∃ row ∈ db.entityInstances, row.id = instanceId ∧ row.tenantId = tenantId

structure DueState.Sound (s : DueState) : Prop where
  keyed : s.db.Keyed
  rows : ∀ out ∈ s.db.dues, ∀ type, ∀ payload ∈ out.dueDate type,
    s.db.Stores out.tenantId payload.instanceId
  jobs : ∀ job ∈ s.jobs, s.db.Stores job.tenantId job.instanceId

theorem Db.Stores.tenant {tenantId tenantId' instanceId : Id}
    (stores : db.Stores tenantId instanceId) (keyed : db.Keyed)
    (stores' : db.Stores tenantId' instanceId) : tenantId = tenantId' := by
  obtain ⟨row, mem, rfl, rfl⟩ := stores
  obtain ⟨row', mem', same, rfl⟩ := stores'
  rw [keyed.eq mem mem' same.symm]

theorem Db.Stores.grow {f : EntityInstance → EntityInstance} {fresh : List EntityInstance}
    (stores : db.Stores tenantId instanceId)
    (instances : db'.entityInstances = db.entityInstances.map f ++ fresh)
    (same : ∀ row, (f row).id = row.id ∧ (f row).tenantId = row.tenantId) :
    db'.Stores tenantId instanceId := by
  obtain ⟨row, mem, rfl, rfl⟩ := stores
  refine ⟨f row, ?_, same row⟩
  rw [instances]
  exact mem_append_left _ (List.mem_map_of_mem mem)

theorem OutboxEvent.dueDate_ite_deliver (p : OutboxEvent → Bool) (now : Time) (type : String)
    (row : OutboxEvent) : (if p row then row.deliver now else row).dueDate type =
      row.dueDate type := by
  split <;> rfl

theorem OutboxEvent.tenantId_ite_deliver (p : OutboxEvent → Bool) (now : Time)
    (row : OutboxEvent) : (if p row then row.deliver now else row).tenantId = row.tenantId := by
  split <;> rfl

theorem OutboxEvent.eventType_of_dueDate {row : OutboxEvent}
    (read : row.dueDate type = some payload) : row.payload.eventType = type := by
  unfold dueDate at read
  split at read
  next eventType about body named =>
    split at read
    next same =>
      rw [named]
      exact eq_of_beq same
    next => cases read
  next => cases read

theorem OutboxEvent.isDue_of_dueDate {row : OutboxEvent}
    (read : row.dueDate dueDateScheduled = some payload) : row.isDue := by
  unfold isDue
  rw [eventType_of_dueDate read]
  rfl

theorem OutboxEvent.isFor_ite_deliver (instanceId : Id) (dueDate : Time) (p : OutboxEvent → Bool)
    (now : Time) (type : String) (row : OutboxEvent) :
    (if p row then row.deliver now else row).isFor type instanceId dueDate =
      row.isFor type instanceId dueDate := by
  unfold isFor
  rw [dueDate_ite_deliver]

theorem OutboxEvent.pendingDueDate_of_isFor {dueDate : Time} {row : OutboxEvent}
    (own : row.tenantId = tenantId) (pending : row.deliveredAt = none)
    (isFor : row.isFor dueDateScheduled instanceId dueDate) :
    row.pendingDueDate tenantId instanceId := by
  obtain ⟨payload, read, about⟩ := (Option.any_eq_true _ _).mp isFor
  have named := eq_of_beq (and_eq_true_iff.mp about).1
  unfold OutboxEvent.dueDate at read
  split at read
  next type other body stored =>
    split at read
    next scheduled =>
      split at read
      next =>
        cases read
        unfold pendingDueDate
        rw [own, pending, beq_self_eq_true, beq_self_eq_true, stored]
        dsimp only at named ⊢
        rw [named, beq_self_eq_true]
        exact and_eq_true_iff.mpr ⟨rfl, and_eq_true_iff.mpr ⟨scheduled, rfl⟩⟩
      next => cases read
    next => cases read
  next => cases read

theorem outboxRow_isFor {newDueDate createdAt : Time} (instanceId : Id) (dueDate : Time) :
    (outboxRow tenantId (buildEntityDueDateScheduledPayload row newDueDate) createdAt rowId).isFor
        dueDateScheduled instanceId dueDate = (row.id == instanceId && newDueDate == dueDate) ∧
      (outboxRow tenantId (buildEntityDueDateScheduledPayload row newDueDate) createdAt rowId).isFor
        dueDateOverdueType instanceId dueDate = false :=
  ⟨rfl, rfl⟩

theorem outboxRow_about {tenantId about createdAt rowId : Id} {eventType type : String}
    {body : Fields}
    (read : (outboxRow tenantId (.record eventType about body) createdAt rowId).dueDate type =
      some payload) : payload.instanceId = about := by
  unfold OutboxEvent.dueDate outboxRow at read
  dsimp only at read
  split at read
  · split at read
    · cases read
      rfl
    · cases read
  · cases read

theorem mem_rescheduled {dues : List OutboxEvent} {out : OutboxEvent}
    (mem : out ∈ rescheduled tenantId row oldDueDate newDueDate supply rowId dues) :
    (∃ old ∈ dues, out.tenantId = old.tenantId ∧ ∀ type, out.dueDate type = old.dueDate type) ∨
      ∃ dueDate, newDueDate = some dueDate ∧
        out = outboxRow tenantId (buildEntityDueDateScheduledPayload row dueDate) supply.startedAt
          rowId := by
  unfold rescheduled at mem
  split at mem
  · exact .inl ⟨out, mem, rfl, fun _ => rfl⟩
  · rcases mem_append.mp mem with old | new
    · obtain ⟨r, listed, rfl⟩ := List.mem_map.mp old
      exact .inl ⟨r, listed, OutboxEvent.tenantId_ite_deliver _ _ _,
        fun type => OutboxEvent.dueDate_ite_deliver _ _ type _⟩
    · obtain ⟨dueDate, listed, rfl⟩ := List.mem_map.mp new
      exact .inr ⟨dueDate, mem_toList.mp listed, rfl⟩

namespace DueState

section Sound

variable {s : DueState}

theorem Sound.grow {next : DueState} {f : EntityInstance → EntityInstance}
    {fresh : List EntityInstance} (sound : s.Sound)
    (instances : next.db.entityInstances = s.db.entityInstances.map f ++ fresh)
    (same : ∀ row, (f row).id = row.id ∧ (f row).tenantId = row.tenantId)
    (unused : s.db.Unused fresh)
    (rows : ∀ out ∈ next.db.dues,
      (∃ old ∈ s.db.dues, out.tenantId = old.tenantId ∧ ∀ type, out.dueDate type = old.dueDate type) ∨
        ∀ type, ∀ payload ∈ out.dueDate type, next.db.Stores out.tenantId payload.instanceId)
    (jobs : ∀ job ∈ next.jobs, job ∈ s.jobs ∨ next.db.Stores job.tenantId job.instanceId) :
    next.Sound where
  keyed := sound.keyed.grow (fun row => (same row).1) instances unused
  rows := by
    intro out mem type payload read
    rcases rows out mem with ⟨old, listed, tenant, dates⟩ | about
    · rw [dates type] at read
      rw [tenant]
      exact (sound.rows old listed type payload read).grow instances same
    · exact about type payload read
  jobs := by
    intro job mem
    rcases jobs job mem with old | about
    · exact (sound.jobs job old).grow instances same
    · exact about

variable {next : DueState} {rowId : Id} {row : OutboxEvent} {job : DueDateJob}
  {acknowledged active : Bool} {supply : EntitySupply}

theorem Sound.outbox (sound : s.Sound) (instances : next.db.entityInstances = s.db.entityInstances)
    (rows : ∀ out ∈ next.db.dues,
      (∃ old ∈ s.db.dues, out.tenantId = old.tenantId ∧ ∀ type, out.dueDate type = old.dueDate type) ∨
        ∀ type, ∀ payload ∈ out.dueDate type, s.db.Stores out.tenantId payload.instanceId)
    (jobs : ∀ job ∈ next.jobs, job ∈ s.jobs ∨ s.db.Stores job.tenantId job.instanceId) :
    next.Sound := by
  have all : next.db.entityInstances = s.db.entityInstances.map id ++ [] := by
    rw [List.map_id, append_nil]
    exact instances
  refine sound.grow all (fun _ => ⟨rfl, rfl⟩) s.db.unused_nil (fun out mem => ?_) fun job mem => ?_
  · exact (rows out mem).imp_right fun about type payload read =>
      (about type payload read).grow all fun _ => ⟨rfl, rfl⟩
  · exact (jobs job mem).imp_right fun about => about.grow all fun _ => ⟨rfl, rfl⟩

theorem mem_delivered {p : OutboxEvent → Bool} {now : Time} {dues : List OutboxEvent}
    {out : OutboxEvent} (mem : out ∈ dues.map fun r => if p r then r.deliver now else r) :
    ∃ old ∈ dues, out.tenantId = old.tenantId ∧ ∀ type, out.dueDate type = old.dueDate type := by
  obtain ⟨old, listed, rfl⟩ := List.mem_map.mp mem
  exact ⟨old, listed, OutboxEvent.tenantId_ite_deliver p now old,
    fun type => OutboxEvent.dueDate_ite_deliver p now type old⟩

theorem Sound.call {call : DueCall} {db' : Db} {clock : Time} (sound : s.Sound)
    (did : call.Did s.db db') : DueState.Sound { s with db := db', clock } := by
  cases did with
  | nothing same =>
    subst same
    exact sound.outbox rfl (fun out mem => .inl ⟨out, mem, rfl, fun _ => rfl⟩) fun _ => .inl
  | created row own unused instances outbox dues =>
    have grown : db'.entityInstances = s.db.entityInstances.map id ++ [row] := by
      rw [List.map_id]
      exact instances
    refine sound.grow grown (fun _ => ⟨rfl, rfl⟩) unused (fun out mem => ?_) fun _ => .inl
    change out ∈ db'.dues at mem
    rw [dues] at mem
    refine (mem_rescheduled mem).imp_right ?_
    rintro ⟨dueDate, -, rfl⟩ type payload read
    have stored : row ∈ db'.entityInstances := by
      rw [instances]
      exact mem_append_right _ (mem_singleton_self row)
    exact ⟨row, stored, (outboxRow_about read).symm, own⟩
  | @edited _ tenantId instanceId input supply existing fields found instances outbox dues =>
    have same (row : EntityInstance) := SameRecord.ite (.apply input fields supply.now)
      (row.isOf tenantId existing.id) row
    have kept := mem_of_find?_eq_some found
    have chosen := EntityInstance.isOf_of_isLive (find?_some found)
    have own : existing.tenantId = tenantId := eq_of_beq (and_eq_true_iff.mp chosen).2
    have grown := instances.trans (append_nil _).symm
    refine sound.grow grown (fun row => ⟨(same row).id, (same row).tenantId⟩) s.db.unused_nil
      (fun out mem => ?_) fun _ => .inl
    change out ∈ db'.dues at mem
    rw [dues] at mem
    refine (mem_rescheduled mem).imp_right ?_
    rintro ⟨dueDate, -, rfl⟩ type payload read
    have stores : s.db.Stores tenantId existing.id := ⟨existing, kept, rfl, own⟩
    rw [outboxRow_about read]
    exact stores.grow grown fun row => ⟨(same row).id, (same row).tenantId⟩
  | archived ids same =>
    subst same
    refine sound.grow (append_nil _).symm (fun row => ?_) s.db.unused_nil (fun out mem => ?_)
      fun _ => .inl
    · split <;> exact ⟨rfl, rfl⟩
    · rw [Db.dues_archived] at mem
      exact .inl (mem_delivered mem)

/-! ## Jobs -/

theorem hasJob_iff : s.hasJob rowId ↔ ∃ job ∈ s.jobs, job.outboxEventId = rowId := by
  unfold hasJob
  rw [List.any_eq_true]
  exact exists_congr fun job => and_congr_right fun _ => beq_iff_eq

theorem mem_add {now : Time} (mem : job ∈ (s.add now row).jobs) :
    job ∈ s.jobs ∨ row.dueDateJob now = some job := by
  unfold add at mem
  split at mem
  · exact .inl mem
  · unfold jobs at mem ⊢
    rcases mem_append.mp mem with waits | done
    · rcases mem_append.mp waits with old | new
      · exact .inl (mem_append_left _ old)
      · exact .inr (mem_toList.mp new)
    · exact .inl (mem_append_right _ done)

theorem mem_add_of_mem (now : Time) (row : OutboxEvent) (mem : job ∈ s.jobs) :
    job ∈ (s.add now row).jobs := by
  unfold add
  split
  · exact mem
  · rcases mem_append.mp mem with waits | done
    · exact mem_append_left _ (mem_append_left _ waits)
    · exact mem_append_right _ done

theorem hasJob_add (now : Time) {payload : DueDatePayload}
    (read : row.dueDate dueDateScheduled = some payload) : (s.add now row).hasJob row.id := by
  unfold add
  split
  next has => exact has
  next =>
    have made : row.dueDateJob now = some ⟨row.id, row.tenantId, payload.instanceId,
        payload.entityTypeId, payload.dueDate, max now payload.dueDate⟩ := by
      unfold OutboxEvent.dueDateJob
      rw [read]
      rfl
    refine hasJob_iff.mpr ⟨_, mem_append_left _ (mem_append_right _ (mem_toList.mpr made)), rfl⟩

theorem add_db (now : Time) (s : DueState) (row : OutboxEvent) : (s.add now row).db = s.db := by
  unfold add
  split <;> rfl

theorem foldl_add {P : DueState → Prop} {now : Time} {rows : List OutboxEvent}
    (kept : ∀ s row, row ∈ rows → P s → P (add now s row)) (init : P s) :
    P (rows.foldl (add now) s) := by
  induction rows generalizing s with
  | nil => exact init
  | cons row rest ih =>
    exact ih (fun s r mem => kept s r (mem_cons_of_mem _ mem)) (kept s row mem_cons_self init)

theorem poll_eq (s : DueState) (now : Time) (failed unsettled : List Id) (commits : Bool) :
    s.poll now failed unsettled commits =
      { (s.db.dueDateAdded now failed).foldl (add now) s with
        db := if commits then Tables.outboxEvents.modify
          (fun row => (s.db.dueDateDelivered now failed unsettled).contains row.id)
          (OutboxEvent.deliver now) s.db else s.db } := by
  unfold poll
  rw [DueDate.exec_tick]

theorem Sound.poll (sound : s.Sound) (now : Time) (failed unsettled : List Id) (commits : Bool) :
    (s.poll now failed unsettled commits).Sound := by
  rw [poll_eq]
  refine sound.outbox (by cases commits <;> rfl) (fun out mem => ?_) fun job mem => ?_
  · cases commits with
    | false => exact .inl ⟨out, mem, rfl, fun _ => rfl⟩
    | true =>
      change out ∈ (Tables.outboxEvents.modify _ _ s.db).dues at mem
      rw [Db.dues_deliver] at mem
      exact .inl (mem_delivered mem)
  · have origin : ∀ job ∈ ((s.db.dueDateAdded now failed).foldl (add now) s).jobs, job ∈ s.jobs ∨
        ∃ row ∈ s.db.dueDateAdded now failed, row.dueDateJob now = some job := by
      refine foldl_add (P := fun t => ∀ job ∈ t.jobs, job ∈ s.jobs ∨
        ∃ row ∈ s.db.dueDateAdded now failed, row.dueDateJob now = some job) ?_ fun _ => .inl
      intro t row listed before job mem
      rcases mem_add mem with old | new
      · exact before job old
      · exact .inr ⟨row, listed, new⟩
    refine (origin job mem).imp_right ?_
    rintro ⟨row, added, made⟩
    obtain ⟨payload, read, rfl⟩ := map_eq_some_iff.mp made
    obtain ⟨listed, -⟩ := Db.mem_dueDateBatch (Db.mem_dueDateAdded added).1
    exact sound.rows row (mem_filter.mpr ⟨listed, OutboxEvent.isDue_of_dueDate read⟩) _ payload read

theorem dueDateOverdue_cases (job : DueDateJob) (supply : EntitySupply) (db : Db) :
    (DueDate.dueDateOverdue job supply).commit db = db ∨
      db.isDueAt job ∧
      (DueDate.dueDateOverdue job supply).commit db = Tables.outboxEvents.append
        [outboxRow job.tenantId (.record dueDateOverdueType job.instanceId
          [("entityTypeId", job.entityTypeId), ("dueDate", .num job.dueDate),
            ("overdueAt", .num supply.now)]) supply.startedAt (supply.id 0)] db := by
  rcases (DueDate.dueDateOverdue job supply).commit_cases db with ⟨_, -, same⟩ | ⟨_, ran⟩
  · exact .inl same
  generalize (DueDate.dueDateOverdue job supply).commit db = db' at ran ⊢
  unfold DueDate.dueDateOverdue at ran
  simp only [exec_seq_ok, Table.exec_find, Tables.entityInstances_rows, ok_eq_ok] at ran
  obtain ⟨_, _, ⟨rfl, rfl⟩, rest⟩ := ran
  split at rest
  next =>
    cases rest
    exact .inl rfl
  next row found =>
    split at rest
    next =>
      cases rest
      exact .inl rfl
    next due =>
      obtain ⟨-, rfl⟩ := (Table.exec_insert_ok _).mp rest
      refine .inr ⟨?_, rfl⟩
      unfold Db.isDueAt
      rw [found]
      simpa using due

theorem work_eq (worked : s.work rowId active acknowledged supply = some next) :
    ∃ job, s.waiting.find? (fun job => job.outboxEventId == rowId) = some job ∧
      next.db = (if active then (DueDate.dueDateOverdue job supply).commit s.db else s.db) ∧
      next.waiting = (if acknowledged then s.waiting.filter fun job => job.outboxEventId != rowId
        else s.waiting) ∧
      next.completed = s.completed ++ if acknowledged then [job] else [] := by
  unfold work at worked
  split at worked
  next => cases worked
  next job found =>
    refine ⟨job, found, ?_⟩
    split at worked
    next => cases worked
    next =>
      dsimp only at worked
      cases acknowledged with
      | true =>
        cases worked
        exact ⟨rfl, rfl, rfl⟩
      | false =>
        cases worked
        exact ⟨rfl, rfl, (append_nil _).symm⟩

theorem mem_jobs_work (worked : s.work rowId active acknowledged supply = some next)
    (mem : job ∈ next.jobs) : job ∈ s.jobs := by
  obtain ⟨ran, found, -, waiting, completed⟩ := work_eq worked
  unfold jobs at mem ⊢
  rw [waiting, completed] at mem
  rcases mem_append.mp mem with waits | done
  · refine mem_append_left _ ?_
    split at waits
    · exact (mem_filter.mp waits).1
    · exact waits
  · rcases mem_append.mp done with old | new
    · exact mem_append_right _ old
    · split at new
      · rw [mem_singleton.mp new]
        exact mem_append_left _ (mem_of_find?_eq_some found)
      · cases new

theorem Sound.work (sound : s.Sound) {rowId : Id} {active acknowledged : Bool}
    {supply : EntitySupply} {next : DueState}
    (worked : s.work rowId active acknowledged supply = some next) : next.Sound := by
  obtain ⟨job, found, db, -, -⟩ := work_eq worked
  have listed : job ∈ s.jobs := mem_append_left _ (mem_of_find?_eq_some found)
  have kept : ∀ {db' : Db}, next.db = db' → db' = s.db → next.Sound := by
    rintro _ rfl same
    exact sound.outbox (by rw [same]) (fun out mem => .inl ⟨out, same ▸ mem, rfl, fun _ => rfl⟩)
      fun other mem => .inl (mem_jobs_work worked mem)
  cases active with
  | false => exact kept db rfl
  | true =>
    rcases dueDateOverdue_cases job supply s.db with same | ⟨-, wrote⟩
    · exact kept db same
    · replace db := db.trans wrote
      refine sound.outbox (by rw [db]; rfl) (fun out mem => ?_) fun other mem =>
        .inl (mem_jobs_work worked mem)
      rw [db, Db.dues_append] at mem
      rcases mem_append.mp mem with old | new
      · exact .inl ⟨out, old, rfl, fun _ => rfl⟩
      · refine .inr fun type payload read => ?_
        rw [mem_singleton.mp (mem_filter.mp new).1] at read ⊢
        rw [outboxRow_about read]
        exact sound.jobs job listed

end Sound

end DueState

end OpenWind
