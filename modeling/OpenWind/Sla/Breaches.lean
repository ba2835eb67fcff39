import OpenWind.Lib.Calls
import OpenWind.Sla.PendingTimers

/-!
# The breaches of timers

The worker takes a job when it is due, looks whether the record is in the state that the timer
names, and writes the event of the breach.  The record is read without a lock, and the job may be
of an earlier stay in the state; and a job that has written its event may be taken again.
-/

open List Option Bool

namespace OpenWind

open Txn Runs

/-! ## The breacher -/

/-- A job that has found its record in the state. -/
structure Breaching where
  job : SlaJob
  entityTypeId : Id
  readAt : Time

structure Breach where
  outboxEventId : Id
  event : SlaBreached
  row : Option EntityInstance
  stay : Option Stay
  hours : Option Nat

structure SlaWorld where
  timers : TimerState
  attempts : List (Option Breaching) := []
  breaches : List Breach := []

inductive SlaLabel
  | executeTransition (tenantId : Id) (request : TransitionRequest) (supply : Supply)
  | overrideWorkflowState (tenantId : Id) (request : StateOverrideRequest) (supply : Supply)
  | tick (now : Time) (commits : Bool)
  /-- The worker takes a job, for the first time or once more. -/
  | take (j : Nat) (now : Time)
  | write (k : Nat) (now : Time) (outboxId : Id)
  | drop (k : Nat)

def SlaJob.dueAt (job : SlaJob) : Time := job.enqueuedAt + job.delay

/-- The record of a job. -/
def Db.timed (db : Db) (job : SlaJob) : Option EntityInstance :=
  db.entityInstances.find? (EntityInstance.isOf job.tenantId job.timer.instanceId)

def Breaching.event (attempt : Breaching) (now : Time) : SlaBreached where
  instanceId := attempt.job.timer.instanceId
  entityTypeId := attempt.entityTypeId
  workflowId := attempt.job.timer.workflowId
  state := attempt.job.timer.stateName
  slaHours := attempt.job.timer.slaHours
  breachedAt := now

namespace SlaWorld

variable (w : SlaWorld)

def take (job : SlaJob) (now : Time) : Option SlaWorld :=
  if now < job.dueAt then none
  else
    match w.timers.db.timed job with
    | none => some w
    | some row =>
      if row.currentState != job.timer.stateName then some w
      else some { w with attempts := w.attempts ++ [some ⟨job, row.entityTypeId, now⟩] }

def write (k : Nat) (attempt : Breaching) (now : Time) (outboxId : Id) : SlaWorld :=
  let job := attempt.job
  let event := attempt.event now
  let row : OutboxEvent :=
    { id := outboxId, tenantId := job.tenantId, payload := .slaBreached event, createdAt := now }
  let breach : Breach :=
    { outboxEventId := job.outboxEventId
      event
      row := w.timers.db.timed job
      stay := w.timers.stay job.timer.instanceId
      hours := (w.timers.db.timed job).bind w.timers.db.slaHours }
  { w with
    timers := { w.timers with db := Tables.outboxEvents.append [row] w.timers.db }
    attempts := w.attempts.set k none
    breaches := breach :: w.breaches }

def step (w : SlaWorld) : SlaLabel → Option SlaWorld
  | .executeTransition tenantId request supply =>
    (w.timers.step (.call (.executeTransition tenantId request supply))).map fun timers =>
      { w with timers }
  | .overrideWorkflowState tenantId request supply =>
    (w.timers.step (.call (.overrideWorkflowState tenantId request supply))).map fun timers =>
      { w with timers }
  | .tick now commits => (w.timers.step (.tick now)).map fun ticked =>
      { w with timers := if commits then ticked else { w.timers with jobs := ticked.jobs } }
  | .take j now => w.timers.jobs[j]?.bind fun job => w.take job now
  | .write k now outboxId => w.attempts[k]?.join.bind fun attempt =>
      if now < attempt.readAt ∨ outboxId ∈ w.timers.db.outboxEvents.map (·.id) then none
      else some (w.write k attempt now outboxId)
  | .drop k => some { w with attempts := w.attempts.set k none }

/-- Nothing was moved yet, and no timer is pending. -/
def start (db : Db) : SlaWorld where
  timers := .start db

end SlaWorld

/-! ## The property -/

def Breach.Right (breach : Breach) : Prop :=
  ∃ row stay hours, breach.row = some row ∧ breach.stay = some stay ∧ breach.hours = some hours ∧
    row.id = breach.event.instanceId ∧ row.currentState = breach.event.state ∧
    stay.enteredAt + hours * 60 * 60 * 1000 ≤ breach.event.breachedAt

namespace SlaWorld

structure Timely (w : SlaWorld) : Prop where
  right : ∀ breach ∈ w.breaches, breach.Right
  once : (w.breaches.map Breach.stay).Nodup

/-! ## The invariant -/

structure Idle (w : SlaWorld) : Prop where
  jobs : w.timers.jobs = []
  attempts : ∀ attempt ∈ w.attempts, attempt = none
  breaches : w.breaches = []

variable {w w' : SlaWorld}

theorem Idle.timely (idle : w.Idle) : w.Timely := by
  constructor
  · rw [idle.breaches]
    exact forall_mem_nil _
  · rw [idle.breaches]
    exact nodup_nil

theorem TimerState.step_jobs {timers timers' : TimerState} {label : TimerLabel}
    (stepped : timers.step label = some timers') : timers'.jobs = timers.jobs := by
  cases label with
  | call call =>
    cases stepped
    rfl
  | tick now =>
    rcases timers.step_tick now with ⟨same, -⟩ | ⟨taken, -⟩
    · cases stepped.symm.trans same
      rfl
    · cases stepped.symm.trans taken
      rfl

theorem Idle.next {label : SlaLabel} (idle : w.Idle) (stepped : w.step label = some w') :
    w'.Idle := by
  cases label with
  | executeTransition tenantId request supply =>
    cases stepped
    exact ⟨idle.jobs, idle.attempts, idle.breaches⟩
  | overrideWorkflowState tenantId request supply =>
    cases stepped
    exact ⟨idle.jobs, idle.attempts, idle.breaches⟩
  | tick now commits =>
    obtain ⟨timers, ticked, rfl⟩ := map_eq_some_iff.mp stepped
    have jobs := (TimerState.step_jobs ticked).trans idle.jobs
    cases commits with
    | true => exact ⟨jobs, idle.attempts, idle.breaches⟩
    | false => exact ⟨jobs, idle.attempts, idle.breaches⟩
  | take j now =>
    obtain ⟨job, there, -⟩ := bind_eq_some_iff.mp stepped
    rw [idle.jobs] at there
    cases there
  | write k now outboxId =>
    obtain ⟨attempt, here, -⟩ := bind_eq_some_iff.mp stepped
    cases idle.attempts _ (mem_of_getElem? (join_eq_some_iff.mp here))
  | drop k =>
    cases stepped
    refine ⟨idle.jobs, fun attempt mem => ?_, idle.breaches⟩
    rcases Calls.of_mem_replaced mem with new | old
    · exact new
    · exact idle.attempts attempt old

theorem Idle.start (db : Db) : (start db).Idle := ⟨rfl, forall_mem_nil _, rfl⟩

end SlaWorld

/-- A breach is written only when the record has been in the state for the hours of the state, and
once in a stay at most.  The scheduler has to have added the job of a timer for one to be written,
and the queue refuses the identifiers that it gives its jobs. -/
theorem breaches_timely (db : Db) (labels : List SlaLabel) :
    Always SlaWorld.step SlaWorld.Timely (.start db) labels :=
  Always.of_invariant (fun idle stepped => SlaWorld.Idle.next idle stepped)
    SlaWorld.Idle.timely (.start db)

end OpenWind
