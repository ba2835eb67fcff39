import OpenWind.Schema
import OpenWind.Lib.Runs
import OpenWind.Lib.Slots

/-!
# The scheduler tick

A schedule rule makes a ticket at each slot of its cron expression.  The workers
poll the rules that are due; a worker claims a rule under a row lock, moves
`next_fire_at` on, and then fires the rule for the slot that it was due at, or
for all the slots that were missed when it is long overdue.
-/

namespace OpenWind

inductive ScheduleStatus
  | active
  | paused
  deriving DecidableEq

structure ScheduleRule where
  status : ScheduleStatus
  catchUp : Bool
  nextFireAt : Option Time
  lastFiredAt : Option Time
  updatedAt : Time
  deletedAt : Option Time

structure ScheduleConfig where
  tickIntervalMs : Nat
  catchUpMax : Nat
  catchUpMax_pos : 0 < catchUpMax

def ScheduleRule.isDue (rule : ScheduleRule) (tickTime : Time) : Bool :=
  rule.status == .active && rule.nextFireAt.any (fun next => decide (next ≤ tickTime)) &&
    rule.deletedAt.isNone

/-! ## The fires of a claim -/

def getMissedFires.loop (cron : Slots) (beforeExclusive : Time) (maxFires : Nat) :
    Nat → Time → List Time → Nat → List Time × Nat
  | 0, _, recentFires, totalCount => (recentFires, totalCount)
  | fuel + 1, cursor, recentFires, totalCount =>
    if beforeExclusive ≤ cron.next cursor then (recentFires, totalCount)
    else loop cron beforeExclusive maxFires fuel (cron.next cursor)
      (window maxFires recentFires (cron.next cursor)) (totalCount + 1)

def getMissedFires (cron : Slots) (afterExclusive beforeExclusive : Time) (maxFires : Nat) :
    List Time × Nat :=
  getMissedFires.loop cron beforeExclusive maxFires (beforeExclusive - afterExclusive)
    afterExclusive [] 0

structure Plan where
  fires : List Time
  skips : List Time
  skipped : Nat

def handleCatchUp (cron : Slots) (config : ScheduleConfig) (rule : ScheduleRule)
    (originalScheduledAt now : Time) : Plan :=
  let found := getMissedFires cron originalScheduledAt now config.catchUpMax
  let missedFires := lastOf config.catchUpMax (originalScheduledAt :: found.1)
  let totalMissed := found.2 + 1
  if rule.catchUp then
    { fires := missedFires, skips := [], skipped := totalMissed - missedFires.length }
  else { fires := [], skips := missedFires, skipped := totalMissed }

/-- The rule has been due for more than two ticks. -/
def isOverdue (config : ScheduleConfig) (originalScheduledAt now : Time) : Bool :=
  decide (originalScheduledAt + 2 * config.tickIntervalMs < now)

def plan (cron : Slots) (config : ScheduleConfig) (claimed : ScheduleRule)
    (originalScheduledAt now : Time) : Plan :=
  if isOverdue config originalScheduledAt now then
    handleCatchUp cron config claimed originalScheduledAt now
  else { fires := [originalScheduledAt], skips := [], skipped := 0 }

/-! ## Ticks -/

inductive ExecutionStatus
  | success
  | failed
  | skipped
  deriving DecidableEq

/-- What was done about a slot. -/
structure ScheduleExecution where
  scheduledAt : Time
  firedAt : Time
  status : ExecutionStatus

/-- Where the tick of a worker is. -/
inductive Tick
  /-- It has read the clock. -/
  | started (now : Time)
  /-- The poll has given it the rule. -/
  | due (now : Time) (rule : ScheduleRule)
  /-- It holds the lock on the row. -/
  | locked (now : Time) (rule claimed : ScheduleRule)
  /-- It has the fires to execute and those to skip. -/
  | handling (now : Time) (fires skips : List Time)

structure ScheduleState where
  lastTick : Option Time
  rule : ScheduleRule
  lock : Option Nat
  ticks : Nat → Option Tick
  executions : List ScheduleExecution

inductive TickLabel
  | start (worker : Nat) (now : Time)
  | poll (worker : Nat)
  | lock (worker : Nat)
  | commit (worker : Nat)
  | fire (worker : Nat) (succeeds : Bool)
  | skip (worker : Nat)

namespace ScheduleState

variable (w : ScheduleState)

def put (worker : Nat) (tick : Option Tick) : ScheduleState :=
  { w with ticks := Function.update w.ticks worker tick }

def record (execution : ScheduleExecution) : ScheduleState :=
  { w with executions := w.executions ++ [execution] }

def poll (worker : Nat) : Option ScheduleState :=
  match w.ticks worker with
  | some (.started now) =>
    if w.rule.isDue now && w.rule.nextFireAt.isSome then some (w.put worker (some (.due now w.rule)))
    else some (w.put worker none)
  | _ => none

def lockRule (worker : Nat) : Option ScheduleState :=
  match w.ticks worker with
  | some (.due now rule) =>
    if w.rule.isDue now && w.lock.isNone then
      some { w.put worker (some (.locked now rule w.rule)) with lock := some worker }
    else some (w.put worker none)
  | _ => none

def commit (cron : Slots) (config : ScheduleConfig) (worker : Nat) : Option ScheduleState :=
  match w.ticks worker with
  | some (.locked now rule claimed) =>
    rule.nextFireAt.map fun originalScheduledAt =>
      let handled := plan cron config claimed originalScheduledAt now
      { w.put worker (some (.handling now handled.fires handled.skips)) with
        rule := { w.rule with
          nextFireAt := some (cron.next now), lastFiredAt := some now, updatedAt := now }
        lock := none }
  | _ => none

def fire (worker : Nat) (succeeds : Bool) : Option ScheduleState :=
  match w.ticks worker with
  | some (.handling now (scheduledAt :: rest) skips) =>
    let status := if succeeds then ExecutionStatus.success else .failed
    some ((w.put worker (if rest = [] ∧ skips = [] then none else some (.handling now rest skips))).record
      ⟨scheduledAt, now, status⟩)
  | _ => none

def skip (worker : Nat) : Option ScheduleState :=
  match w.ticks worker with
  | some (.handling now [] (scheduledAt :: rest)) =>
    some ((w.put worker (if rest = [] then none else some (.handling now [] rest))).record
      ⟨scheduledAt, now, .skipped⟩)
  | _ => none

def step (cron : Slots) (config : ScheduleConfig) (w : ScheduleState) :
    TickLabel → Option ScheduleState
  | .start worker now =>
    if w.lastTick.all (fun last => decide (last ≤ now)) ∧ w.ticks worker = none then
      some { w.put worker (some (.started now)) with lastTick := some now }
    else none
  | .poll worker => w.poll worker
  | .lock worker => w.lockRule worker
  | .commit worker => w.commit cron config worker
  | .fire worker succeeds => w.fire worker succeeds
  | .skip worker => w.skip worker

/-- A rule and no tick under way. -/
def idle (rule : ScheduleRule) : ScheduleState :=
  { lastTick := none, rule, lock := none, ticks := fun _ => none, executions := [] }

end ScheduleState

end OpenWind
