import OpenWind.Entity.Calls

/-!
# The SLA scheduler

The scheduler polls the outbox for the timers that transitions have left there.
Those that are long overdue it puts aside as dead letters; for the others it adds
delayed jobs, under identifiers with a colon, which the queue refuses.  A poll that
has a timer of the second kind fails, then, and rolls back.
-/

open List Function

namespace OpenWind

open Txn

/-! ## Polls -/

structure SlaJob where
  outboxEventId : Id
  tenantId : Id
  timer : SlaScheduled
  delay : Nat
  enqueuedAt : Time

def batchSize : Nat := 50

/-- 48 hours. -/
def staleSlaThresholdMs : Nat := 48 * 60 * 60 * 1000

/-- The timers that a poll takes, the oldest first. -/
def Db.slaBatch (db : Db) : List OutboxEvent :=
  (db.pendingTimers.mergeSort fun a b => a.createdAt ≤ b.createdAt).take batchSize

def SlaScheduled.stale (now : Time) (timer : SlaScheduled) : Bool :=
  timer.fireAt + staleSlaThresholdMs < now

def OutboxEvent.job (now : Time) (row : OutboxEvent) : Option SlaJob :=
  row.timer.map fun timer => ⟨row.id, row.tenantId, timer, timer.fireAt - now, now⟩

/-- What a poll hands over. -/
structure SlaTick where
  enqueued : List SlaJob
  deadLetters : List OutboxEvent

def OutboxEvent.isStale (now : Time) (row : OutboxEvent) : Bool :=
  row.timer.any (SlaScheduled.stale now)

def OutboxEvent.slaJobId (row : OutboxEvent) : String := "sla:" ++ toString row.id

def tick (now : Time) : Tx SlaTick := do
  let rows ← Prog.read Db.slaBatch
  let fresh := rows.filter fun row => !row.isStale now
  Prog.require (fresh.all fun row => customIdAllowed row.slaJobId) .customId
  Tables.outboxEvents.update (fun row => (rows.map (·.id)).contains row.id)
    (OutboxEvent.deliver now)
  return {
    enqueued := fresh.filterMap (OutboxEvent.job now)
    deadLetters := rows.filter (OutboxEvent.isStale now) }

/-- The timers that a poll has not taken. -/
def Db.untaken (db : Db) : OutboxEvent → Bool := fun row =>
  !(db.slaBatch.map (·.id)).contains row.id

/-- The store after a poll. -/
def Db.tick (db : Db) (now : Time) : Db :=
  Tables.outboxEvents.modify (fun row => (db.slaBatch.map (·.id)).contains row.id)
    (OutboxEvent.deliver now) db

variable {db db' : Db} {out : OutboxEvent} {id tenantId : Id} {instance_ : LockedInstance}
  {change : StateChange} {supply : Supply}

@[simp]
theorem OutboxEvent.slaJobId_refused (row : OutboxEvent) : customIdAllowed row.slaJobId = false := by
  unfold customIdAllowed slaJobId
  rw [String.toList_append]
  rfl

theorem exec_tick_fresh {now : Time} (mem : out ∈ db.slaBatch) (fresh : out.isStale now = false) :
    (tick now).exec db = .error .customId := by
  have refused : ((db.slaBatch.filter fun row => !row.isStale now).all fun row =>
      customIdAllowed row.slaJobId) = false := by
    refine all_eq_false.mpr ⟨out, mem_filter.mpr ⟨mem, by rw [fresh]; rfl⟩, ?_⟩
    rw [OutboxEvent.slaJobId_refused]
    exact Bool.false_ne_true
  simp only [OpenWind.tick, Prog.bind_eq, Prog.exec_bind, Prog.exec_read, refused]
  rfl

theorem exec_tick_stale {now : Time} (stale : ∀ out ∈ db.slaBatch, out.isStale now = true) :
    (tick now).exec db = .ok (⟨[], db.slaBatch⟩, db.tick now) := by
  have none : (db.slaBatch.filter fun row => !row.isStale now) = [] :=
    filter_eq_nil_iff.mpr fun out mem => by rw [stale out mem]; exact Bool.false_ne_true
  have all : db.slaBatch.filter (OutboxEvent.isStale now) = db.slaBatch :=
    filter_eq_self.mpr stale
  simp only [OpenWind.tick, Prog.bind_eq, Prog.exec_bind, Prog.exec_read, none, all, all_nil,
    Prog.exec_require, Table.exec_update]
  rfl

theorem Db.mem_pendingTimers :
    out ∈ db.pendingTimers ↔ out ∈ db.outboxEvents ∧ out.timer.isSome ∧ out.deliveredAt = none := by
  unfold Db.pendingTimers
  rw [mem_filter, Bool.and_eq_true, beq_iff_eq]

theorem Db.mem_slaBatch (mem : out ∈ db.slaBatch) : out ∈ db.pendingTimers :=
  mem_mergeSort.mp (mem_of_mem_take mem)

theorem Db.pendingTimers_tick (db : Db) (now : Time) :
    (db.tick now).pendingTimers = db.pendingTimers.filter db.untaken := by
  exact pendingTimers_deliver _ now db

theorem Db.outboxIds_tick (db : Db) (now : Time) :
    (db.tick now).outboxEvents.map (·.id) = db.outboxEvents.map (·.id) := by
  change (db.outboxEvents.map _).map _ = _
  rw [map_map]
  refine map_congr_left fun row _ => ?_
  by_cases taken : (db.slaBatch.map (·.id)).contains row.id = true
  · simp only [comp, if_pos taken]
    rfl
  · simp only [comp, if_neg taken]

/-! ## Stays -/

/-- When a record was moved, and the length of the outbox before. -/
structure Stay where
  instanceId : Id
  enteredAt : Time
  mark : Nat

def Db.outboxSince (db : Db) (stay : Stay) : List Id :=
  (db.outboxEvents.map (·.id)).drop stay.mark

/-- The timer is one of the record. -/
def OutboxEvent.times (instanceId : Id) (row : OutboxEvent) : Bool :=
  row.timer.any fun timer => timer.instanceId == instanceId

def Db.slaHours (db : Db) (row : EntityInstance) : Option Nat :=
  row.workflowId.bind fun workflowId =>
    (db.workflowStates.find? (WorkflowState.isOf row.tenantId workflowId row.currentState)).bind
      fun state => state.slaHours.filter (· != 0)

/-- The record, when its event log has grown. -/
def Db.carriedOut (db db' : Db) (instanceId : Id) : List Id :=
  if db'.workflowEvents.length = db.workflowEvents.length then [] else [instanceId]

/-! ## The timer of a state change -/

theorem slaTimer_eq (tenantId workflowId instanceId : Id) (stateName : String)
    (state : Option WorkflowState) (enteredAt createdAt : Time) (timerId : Id) :
    slaTimer tenantId workflowId instanceId stateName state enteredAt createdAt timerId =
      (state.bind fun st => st.slaHours.filter (· != 0)).toList.map fun hours =>
        { id := timerId
          tenantId
          payload := .slaScheduled
            { instanceId, workflowId, stateName, slaHours := hours
              fireAt := enteredAt + hours * 60 * 60 * 1000 }
          createdAt } := by
  cases state with
  | none => rfl
  | some st =>
    obtain ⟨_, _, _, _, _, _, _, hours, _⟩ := st
    rcases hours with _ | _ | hours <;> rfl

def Db.enteredTimer (db : Db) (tenantId : Id) (instance_ : LockedInstance) (change : StateChange)
    (supply : Supply) : List OutboxEvent :=
  slaTimer tenantId instance_.workflowId instance_.row.id change.toState
    (db.workflowStates.find? (WorkflowState.isOf tenantId instance_.workflowId change.toState))
    supply.now supply.startedAt supply.timerId

theorem Db.mem_enteredTimer (own : instance_.row.tenantId = tenantId)
    (mem : out ∈ db.enteredTimer tenantId instance_ change supply) :
    ∃ timer, out.timer = some timer ∧ out.id = supply.timerId ∧ out.tenantId = tenantId ∧
      out.deliveredAt = none ∧ timer.instanceId = instance_.row.id ∧
      timer.stateName = change.toState ∧
      timer.fireAt = supply.now + timer.slaHours * 60 * 60 * 1000 ∧
      db.slaHours (instance_.row.enter change.toState supply.now) = some timer.slaHours := by
  unfold Db.enteredTimer at mem
  rw [slaTimer_eq] at mem
  rcases mem_map.mp mem with ⟨hours, memHours, rfl⟩
  refine ⟨_, rfl, rfl, rfl, rfl, rfl, rfl, rfl, ?_⟩
  unfold Db.slaHours
  change (instance_.row.workflowId.bind _) = _
  rw [instance_.attached]
  change (Option.bind (db.workflowStates.find? (WorkflowState.isOf instance_.row.tenantId
    instance_.workflowId change.toState)) _) = _
  rw [own]
  exact Option.mem_toList.mp memHours

theorem Db.length_enteredTimer (own : instance_.row.tenantId = tenantId) :
    (db.enteredTimer tenantId instance_ change supply).length =
      (db.slaHours (instance_.row.enter change.toState supply.now)).isSome.toNat := by
  unfold Db.enteredTimer Db.slaHours
  rw [slaTimer_eq, length_map]
  change _ = (instance_.row.workflowId.bind _).isSome.toNat
  rw [instance_.attached]
  change _ = (Option.bind (db.workflowStates.find? (WorkflowState.isOf instance_.row.tenantId
    instance_.workflowId change.toState)) _).isSome.toNat
  rw [own]
  cases (db.workflowStates.find? (WorkflowState.isOf tenantId instance_.workflowId
    change.toState)).bind fun state => state.slaHours.filter (· != 0) <;> rfl

theorem Db.pendingTimers_changeState (db : Db) (tenantId : Id) (instance_ : LockedInstance)
    (change : StateChange) (supply : Supply) :
    (db.changeState tenantId instance_ change supply).pendingTimers =
      (db.pendingTimers.filter fun row => !row.pendingTimer tenantId instance_.row.id
        instance_.row.currentState) ++ db.enteredTimer tenantId instance_ change supply := by
  have announced : (Tables.outboxEvents.append [change.outboxEvent tenantId instance_ supply]
      db).pendingTimers = db.pendingTimers := by
    unfold Db.pendingTimers
    change (db.outboxEvents ++ _).filter _ = _
    rw [filter_append]
    exact append_nil _
  have cancelled := pendingTimers_deliver
    (OutboxEvent.pendingTimer tenantId instance_.row.id instance_.row.currentState) supply.now
    (Tables.outboxEvents.append [change.outboxEvent tenantId instance_ supply] db)
  rw [announced] at cancelled
  have entered : (db.enteredTimer tenantId instance_ change supply).filter
      (fun row => row.timer.isSome && row.deliveredAt == none) =
      db.enteredTimer tenantId instance_ change supply := by
    refine filter_eq_self.mpr fun out mem => ?_
    unfold Db.enteredTimer at mem
    rw [slaTimer_eq] at mem
    rcases mem_map.mp mem with ⟨hours, -, rfl⟩
    rfl
  rw [← cancelled, ← entered]
  exact filter_append _ _

theorem Db.mem_changeState (keyed : db.Keyed) (mem : instance_.row ∈ db.entityInstances)
    (selected : instance_.row.isOf tenantId instance_.row.id) {row' : EntityInstance}
    (mem' : row' ∈ (db.changeState tenantId instance_ change supply).entityInstances) :
    row' = instance_.row.enter change.toState supply.now ∨
      row' ∈ db.entityInstances ∧ row'.id ≠ instance_.row.id := by
  rcases mem_map.mp mem' with ⟨row, memRow, rfl⟩
  by_cases named : row.id = instance_.row.id
  · obtain rfl := keyed.eq memRow mem named
    rw [if_pos selected]
    exact .inl rfl
  · have other : ¬ row.isOf tenantId instance_.row.id :=
      fun chosen => named (eq_of_beq (Bool.and_eq_true_iff.mp chosen).1)
    rw [if_neg other]
    exact .inr ⟨memRow, named⟩

end OpenWind
