import OpenWind.Automation.Executor
import OpenWind.Lib.Calls

/-!
# Jobs that run rules

A transition that an action makes is followed up at once, in the transaction of the action.  So
the transaction of a job is a stack of runs of rules, each under a savepoint of its own, and
what it writes and locks goes with the savepoint.
-/

open List Option

namespace OpenWind

/-! ## Rows, locks and savepoints -/

structure RuleLock where
  ruleId : Id
  transitionEventId : Id
  deriving DecidableEq

/-- What an action of a run has done to the database. -/
structure ActionEffect where
  lock : RuleLock
  execId : Id
  /-- The place of the action in its rule. -/
  action : Nat
  deriving DecidableEq

/-- A row of `automation_executions`. -/
structure RuleExecution where
  id : Id
  ruleId : Id
  transitionEventId : Option Id
  status : RuleRunStatus
  skippedActions : Option Nat := none
  deriving DecidableEq

def RuleExecution.isFor (lock : RuleLock) (row : RuleExecution) : Bool :=
  row.ruleId == lock.ruleId && row.transitionEventId == some lock.transitionEventId

structure RuleWrites where
  executions : List RuleExecution := []
  effects : List ActionEffect := []
  locks : List RuleLock := []
  deriving DecidableEq

/-- A savepoint is released. -/
def RuleWrites.over (inner outer : RuleWrites) : RuleWrites where
  executions := inner.executions ++ outer.executions
  effects := inner.effects ++ outer.effects
  locks := inner.locks ++ outer.locks

/-! ## Jobs -/

structure RuleEvent where
  transitionEventId : Option Id
  depth : Nat
  rules : List AutomationRule

def RuleEvent.lock (event : RuleEvent) (rule : AutomationRule) : Option RuleLock :=
  event.transitionEventId.map (RuleLock.mk rule.id)

structure RuleRun where
  execId : Id
  rule : AutomationRule
  /-- The place of the action that is up. -/
  next : Nat := 0
  skippedCount : Nat := 0
  writes : RuleWrites := {}
  /-- The event, with the rules after this one. -/
  event : RuleEvent

namespace RuleRun

variable (run : RuleRun)

def lock : Option RuleLock := run.event.lock run.rule

def row (status : RuleRunStatus) (skippedActions : Option Nat) : RuleExecution where
  id := run.execId
  ruleId := run.rule.id
  transitionEventId := run.event.transitionEventId
  status := status
  skippedActions := skippedActions

def completed : RuleWrites :=
  let row :=
    if 0 < run.skippedCount then run.row .degraded (some run.skippedCount)
    else run.row .success none
  { run.writes with executions := row :: run.writes.executions }

/-- What it leaves when one has: its savepoint is rolled back. -/
def failed : RuleWrites where
  executions := [run.row .failed none]

/-- The circuit of the action is open. -/
def skip : RuleRun := { run with next := run.next + 1, skippedCount := run.skippedCount + 1 }

def perform : RuleRun :=
  let effects := run.lock.toList.map fun lock => ActionEffect.mk lock run.execId run.next
  { run with
    next := run.next + 1
    writes := { run.writes with effects := effects ++ run.writes.effects } }

end RuleRun

/-- How an action goes. -/
inductive ActionOutcome
  | skipped
  | performed
  /-- A transition, whose rules are run at once. -/
  | followedUp (transitionEventId : Id) (rules : List AutomationRule)
  | failed

def ActionOutcome.events : ActionOutcome → List Id
  | followedUp transitionEventId _ => [transitionEventId]
  | _ => []

/-- A transaction of the worker. -/
structure RuleJob where
  own : RuleWrites := {}
  /-- The runs in progress, the innermost first; the transition of an action of each led to the
  one before it. -/
  runs : List RuleRun := []
  /-- The event whose rules are up; none when the actions of the innermost run are. -/
  event : Option RuleEvent := none

namespace RuleJob

variable (job : RuleJob)

def writes : List RuleWrites := job.runs.map RuleRun.writes ++ [job.own]

def executions : List RuleExecution := job.writes.flatMap RuleWrites.executions

def effects : List ActionEffect := job.writes.flatMap RuleWrites.effects

def locks : List RuleLock := job.writes.flatMap RuleWrites.locks

/-- The innermost savepoint gets the writes. -/
def write (new : RuleWrites) : RuleJob :=
  match job.runs with
  | [] => { job with own := new.over job.own }
  | run :: below => { job with runs := { run with writes := new.over run.writes } :: below }

def begin (execId : Id) (rule : AutomationRule) (event : RuleEvent) : RuleJob :=
  { job with runs := { execId, rule, event } :: job.runs, event := none }

def endRun (run : RuleRun) (below : List RuleRun) (left : RuleWrites) : RuleJob :=
  { job with runs := below, event := some run.event }.write left

def raise : List RuleRun → RuleJob
  | [] => {}
  | run :: below => job.endRun run below run.failed

/-- The action that is up goes in the way given. -/
def act (outcome : ActionOutcome) : Option RuleJob :=
  match job.event, job.runs with
  | none, run :: below =>
    match run.rule.actions[run.next]? with
    | none => none
    | some action =>
      match outcome with
      | .skipped => some { job with runs := run.skip :: below }
      | .performed => some { job with runs := run.perform :: below }
      | .followedUp transitionEventId rules =>
        if action.type != "transition" then none
        else if run.event.depth + 1 < MAX_DEPTH then
          some { job with
            runs := run.perform :: below
            event := some ⟨some transitionEventId, run.event.depth + 1, rules⟩ }
        else some (job.raise (run :: below))
      | .failed => some (job.raise (run :: below))
  | _, _ => none

def complete : Option RuleJob :=
  match job.event, job.runs with
  | none, run :: below =>
    if run.next = run.rule.actions.length then some (job.endRun run below run.completed) else none
  | _, _ => none

def leave : Option RuleJob :=
  match job.event with
  | some event => if event.rules.isEmpty then some { job with event := none } else none
  | none => none

def throws : Option RuleJob :=
  match job.event, job.runs with
  | some _, runs => some (job.raise runs)
  | none, _ :: below => some (job.raise below)
  | none, [] => none

end RuleJob

/-! ## What a job knows -/

def RuleRun.Owns (run : RuleRun) (effect : ActionEffect) : Prop :=
  run.lock = some effect.lock ∧ effect.execId = run.execId

theorem RuleEvent.lock_eq_some {event : RuleEvent} {rule : AutomationRule} {lock : RuleLock}
    (locked : event.lock rule = some lock) :
    rule.id = lock.ruleId ∧ event.transitionEventId = some lock.transitionEventId := by
  unfold RuleEvent.lock at locked
  obtain ⟨transitionEventId, named, rfl⟩ := map_eq_some_iff.mp locked
  exact ⟨rfl, named⟩

theorem RuleRun.lock_eq_some {run : RuleRun} {lock : RuleLock} (locked : run.lock = some lock) :
    run.rule.id = lock.ruleId ∧ run.event.transitionEventId = some lock.transitionEventId :=
  RuleEvent.lock_eq_some locked

/-- The effect is of a run that is over. -/
def ActionEffect.IsOf (effect : ActionEffect) (rows : List RuleExecution) : Prop :=
  ∃ row ∈ rows, row.isFor effect.lock = true ∧ row.id = effect.execId ∧
    (row.status = .success ∨ row.status = .degraded)

theorem RuleRun.Owns.isOf_completed {run : RuleRun} {effect : ActionEffect}
    (owns : run.Owns effect) : effect.IsOf run.completed.executions := by
  obtain ⟨rule, transition⟩ := RuleRun.lock_eq_some owns.1
  refine ⟨_, mem_cons_self, ?_⟩
  split
  · refine ⟨?_, owns.2.symm, .inr rfl⟩
    simp [RuleExecution.isFor, RuleRun.row, rule, transition]
  · refine ⟨?_, owns.2.symm, .inl rfl⟩
    simp [RuleExecution.isFor, RuleRun.row, rule, transition]

theorem ActionEffect.IsOf.mono {effect : ActionEffect} {rows rows' : List RuleExecution}
    (of : effect.IsOf rows) (more : rows ⊆ rows') : effect.IsOf rows' := by
  obtain ⟨row, mem, known⟩ := of
  exact ⟨row, more mem, known⟩

namespace RuleJob

def locksOf (own : RuleWrites) (runs : List RuleRun) : List RuleLock :=
  runs.flatMap (·.writes.locks) ++ own.locks

def Kept (own : RuleWrites) : List RuleRun → Prop
  | [] => ∀ effect ∈ own.effects, effect.lock ∈ own.locks ∧ effect.IsOf own.executions
  | run :: below =>
    (∀ effect ∈ run.writes.effects, effect.lock ∈ locksOf own (run :: below) ∧
      (run.Owns effect ∨ effect.IsOf run.writes.executions)) ∧
    (∀ lock ∈ run.lock, lock ∈ locksOf own below) ∧ Kept own below

def eventIds (job : RuleJob) : List (Option Id) :=
  job.event.toList.map RuleEvent.transitionEventId ++ job.runs.map (·.event.transitionEventId)

structure Sound (events : List Id) (effects : List ActionEffect) (job : RuleJob) : Prop where
  ids : job.eventIds.Nodup
  seen : ∀ transitionEventId, some transitionEventId ∈ job.eventIds → transitionEventId ∈ events
  kept : Kept job.own job.runs
  once : ((job.effects ++ effects).map fun effect => (effect.lock, effect.action)).Nodup
  /-- The effects of a run are of the actions before the one that is up. -/
  ahead : ∀ run ∈ job.runs, ∀ lock ∈ run.lock, ∀ effect ∈ job.effects ++ effects,
    effect.lock = lock → effect.action < run.next

section Lemmas

variable {job : RuleJob} {run : RuleRun} {below : List RuleRun} {own new : RuleWrites}
  {events : List Id} {effects : List ActionEffect}

theorem locks_eq (job : RuleJob) : job.locks = locksOf job.own job.runs := by
  unfold locks writes locksOf
  rw [flatMap_append, flatMap_map]
  simp

theorem effects_eq (job : RuleJob) :
    job.effects = job.runs.flatMap (·.writes.effects) ++ job.own.effects := by
  unfold effects writes
  rw [flatMap_append, flatMap_map]
  simp

theorem executions_eq (job : RuleJob) :
    job.executions = job.runs.flatMap (·.writes.executions) ++ job.own.executions := by
  unfold executions writes
  rw [flatMap_append, flatMap_map]
  simp

theorem effects_write (job : RuleJob) : (job.write new).effects = new.effects ++ job.effects := by
  rw [effects_eq, effects_eq]
  unfold write
  split
  · next none => rw [none]; rfl
  · next run below up =>
    rw [up]
    simp [RuleWrites.over]

theorem locks_write (job : RuleJob) : (job.write new).locks = new.locks ++ job.locks := by
  rw [locks_eq, locks_eq]
  unfold write locksOf
  split
  · next none => rw [none]; rfl
  · next run below up =>
    rw [up]
    simp [RuleWrites.over]

theorem event_write (job : RuleJob) : (job.write new).event = job.event := by
  unfold write
  split
  · rfl
  · rfl

theorem eventIds_write (job : RuleJob) : (job.write new).eventIds = job.eventIds := by
  unfold eventIds
  rw [event_write]
  unfold write
  split
  · next none => rw [none]
  · next run below up => rw [up]; rfl

theorem Kept.locked {runs : List RuleRun} (kept : Kept own runs) {effect : ActionEffect}
    (mem : effect ∈ runs.flatMap (·.writes.effects) ++ own.effects) :
    effect.lock ∈ locksOf own runs := by
  induction runs with
  | nil => exact (kept effect mem).1
  | cons run below ih =>
    rw [flatMap_cons, append_assoc, mem_append] at mem
    rcases mem with here | later
    · exact (kept.1 effect here).1
    · unfold locksOf
      rw [flatMap_cons, append_assoc]
      exact mem_append_right _ (ih kept.2.2 later)

variable {runs : List RuleRun} {event : RuleEvent} {job' : RuleJob}

theorem Kept.owner (kept : Kept own runs) {effect : ActionEffect}
    (mem : effect ∈ runs.flatMap (·.writes.effects) ++ own.effects) :
    (∃ run ∈ runs, run.Owns effect) ∨
      effect.IsOf (runs.flatMap (·.writes.executions) ++ own.executions) := by
  induction runs with
  | nil => exact .inr (kept effect mem).2
  | cons run below ih =>
    rw [flatMap_cons, append_assoc, mem_append] at mem
    rw [flatMap_cons, append_assoc]
    rcases mem with here | later
    · rcases (kept.1 effect here).2 with owns | done
      · exact .inl ⟨run, mem_cons_self, owns⟩
      · exact .inr (done.mono (subset_append_left _ _))
    · rcases ih kept.2.2 later with ⟨run, up, owns⟩ | done
      · exact .inl ⟨run, mem_cons_of_mem _ up, owns⟩
      · exact .inr (done.mono (subset_append_right _ _))

theorem Kept.write (kept : Kept job.own job.runs)
    (known : ∀ effect ∈ new.effects, effect.lock ∈ new.locks ++ job.locks ∧
      effect.IsOf new.executions) :
    Kept (job.write new).own (job.write new).runs := by
  rw [locks_eq] at known
  unfold RuleJob.write
  split
  · next none =>
    rw [none] at kept known ⊢
    intro effect mem
    rcases mem_append.mp mem with added | old
    · exact ⟨(known effect added).1, (known effect added).2.mono (subset_append_left _ _)⟩
    · exact ⟨mem_append_right _ (kept effect old).1,
        (kept effect old).2.mono (subset_append_right _ _)⟩
  · next run below up =>
    rw [up] at kept known
    obtain ⟨here, held, later⟩ := kept
    have locks : locksOf job.own ({ run with writes := new.over run.writes } :: below) =
        new.locks ++ locksOf job.own (run :: below) := by
      simp [locksOf, RuleWrites.over]
    refine ⟨fun effect mem => ?_, held, later⟩
    rw [locks]
    rcases mem_append.mp mem with added | old
    · exact ⟨(known effect added).1,
        .inr ((known effect added).2.mono (subset_append_left _ _))⟩
    · exact ⟨mem_append_right _ (here effect old).1, (here effect old).2.imp_right
        fun done => done.mono (subset_append_right _ _)⟩

theorem mem_runs_write {run' : RuleRun} (mem : run' ∈ (job.write new).runs) :
    ∃ run ∈ job.runs, run'.lock = run.lock ∧ run'.next = run.next := by
  unfold write at mem
  split at mem
  · exact ⟨run', mem, rfl, rfl⟩
  · next run below up =>
    rw [up]
    rcases mem_cons.mp mem with rfl | old
    · exact ⟨run, mem_cons_self, rfl, rfl⟩
    · exact ⟨run', mem_cons_of_mem _ old, rfl, rfl⟩

theorem Sound.write (sound : job.Sound events effects)
    (known : ∀ effect ∈ new.effects, effect.lock ∈ new.locks ++ job.locks ∧
      effect.IsOf new.executions)
    (once : ((new.effects ++ job.effects ++ effects).map
      fun effect => (effect.lock, effect.action)).Nodup)
    (ahead : ∀ run ∈ job.runs, ∀ lock ∈ run.lock, ∀ effect ∈ new.effects, effect.lock = lock →
      effect.action < run.next) :
    (job.write new).Sound events effects := by
  refine ⟨?_, ?_, sound.kept.write known, ?_, ?_⟩
  · rw [eventIds_write]
    exact sound.ids
  · rw [eventIds_write]
    exact sound.seen
  · rw [effects_write]
    exact once
  · intro run' mem lock locked effect found same
    obtain ⟨run, up, sameLock, sameNext⟩ := mem_runs_write mem
    rw [sameLock] at locked
    rw [sameNext]
    rw [effects_write, append_assoc, mem_append] at found
    rcases found with added | old
    · exact ahead run up lock locked effect added same
    · exact sound.ahead run up lock locked effect old same

theorem Sound.write_idle (sound : job.Sound events effects) (idle : new.effects = []) :
    (job.write new).Sound events effects := by
  refine sound.write ?_ ?_ ?_
  · rw [idle]
    exact forall_mem_nil _
  · rw [idle]
    exact sound.once
  · intro run up lock locked
    rw [idle]
    exact forall_mem_nil _

theorem Sound.drop (sound : job.Sound events effects) (up : job.runs = run :: below) :
    ({ job with runs := below, event := some run.event } : RuleJob).Sound events effects := by
  have ids : job.eventIds = job.event.toList.map RuleEvent.transitionEventId ++
      ({ job with runs := below, event := some run.event } : RuleJob).eventIds := by
    unfold eventIds
    rw [up]
    rfl
  have split : job.effects = run.writes.effects ++
      ({ job with runs := below, event := some run.event } : RuleJob).effects := by
    rw [effects_eq, effects_eq, up, flatMap_cons, append_assoc]
  have kept := sound.kept
  have once := sound.once
  have ahead := sound.ahead
  have distinct := sound.ids
  rw [split, append_assoc] at once ahead
  rw [ids] at distinct
  rw [up] at kept ahead
  refine ⟨Nodup.of_append_right distinct, fun transitionEventId mem => ?_, kept.2.2, ?_, ?_⟩
  · refine sound.seen transitionEventId ?_
    rw [ids]
    exact mem_append_right _ mem
  · rw [map_append] at once
    exact Nodup.of_append_right once
  · intro run' mem lock locked effect found same
    exact ahead run' (mem_cons_of_mem _ mem) lock locked effect (mem_append_right _ found) same

theorem Sound.empty (once : (effects.map fun effect => (effect.lock, effect.action)).Nodup) :
    ({} : RuleJob).Sound events effects :=
  ⟨nodup_nil, nofun, nofun, once, nofun⟩

section

variable (sound : job.Sound events effects)

include sound

theorem Sound.committed_once : (effects.map fun effect => (effect.lock, effect.action)).Nodup := by
  have once := sound.once
  rw [map_append] at once
  exact Nodup.of_append_right once

theorem Sound.fail (up : job.runs = run :: below) :
    (job.raise (run :: below)).Sound events effects :=
  (sound.drop up).write_idle rfl

theorem Sound.raise : (job.raise job.runs).Sound events effects := by
  cases up : job.runs with
  | nil => exact Sound.empty sound.committed_once
  | cons run below => exact sound.fail up

theorem Sound.throws {job' : RuleJob}
    (thrown : job.throws = some job') : job'.Sound events effects := by
  unfold RuleJob.throws at thrown
  split at thrown
  · cases thrown
    exact sound.raise
  · next run below none up =>
    cases thrown
    have dropped := (sound.drop up).raise
    exact dropped
  · cases thrown

theorem Sound.complete {job' : RuleJob}
    (completed : job.complete = some job') : job'.Sound events effects := by
  unfold RuleJob.complete at completed
  split at completed
  · next run below none up =>
    split at completed
    · cases completed
      have split : job.effects = run.writes.effects ++
          ({ job with runs := below, event := some run.event } : RuleJob).effects := by
        rw [effects_eq, effects_eq, up, flatMap_cons, append_assoc]
      have kept := sound.kept
      have once := sound.once
      have ahead := sound.ahead
      rw [split] at once ahead
      rw [up] at kept ahead
      refine (sound.drop up).write (fun effect mem => ?_) once
        fun run' mem lock locked effect found same => ?_
      · obtain ⟨locked, known⟩ := kept.1 effect mem
        constructor
        · rw [locks_eq]
          unfold locksOf at locked
          rw [flatMap_cons, append_assoc] at locked
          exact locked
        · rcases known with owns | done
          · exact owns.isOf_completed
          · exact done.mono (subset_cons_self _ _)
      · exact ahead run' (mem_cons_of_mem _ mem) lock locked effect
          (mem_append_left _ (mem_append_left _ found)) same
    · cases completed
  · cases completed

theorem Sound.skip (up : job.runs = run :: below) :
    ({ job with runs := run.skip :: below } : RuleJob).Sound events effects := by
  have same : ({ job with runs := run.skip :: below } : RuleJob).effects = job.effects := by
    rw [effects_eq, effects_eq, up]
    rfl
  have ids : ({ job with runs := run.skip :: below } : RuleJob).eventIds = job.eventIds := by
    unfold eventIds
    rw [up]
    rfl
  have kept := sound.kept
  have ahead := sound.ahead
  rw [up] at kept ahead
  refine ⟨ids ▸ sound.ids, ids ▸ sound.seen, kept, same ▸ sound.once, ?_⟩
  rw [same]
  intro run' mem lock locked effect found of
  rcases mem_cons.mp mem with rfl | later
  · exact Nat.lt_succ_of_lt (ahead run mem_cons_self lock locked effect found of)
  · exact ahead run' (mem_cons_of_mem _ later) lock locked effect found of

theorem Sound.apart (up : job.runs = run :: below) {run' : RuleRun} (later : run' ∈ below)
    {lock : RuleLock} (locked : run.lock = some lock) : run'.lock ≠ some lock := by
  intro locked'
  have distinct := sound.ids
  unfold eventIds at distinct
  rw [up, map_cons] at distinct
  have apart := (nodup_cons.mp (Nodup.of_append_right distinct)).1
  refine apart (List.mem_map.mpr ⟨run', later, ?_⟩)
  rw [(RuleRun.lock_eq_some locked).2, (RuleRun.lock_eq_some locked').2]

theorem Sound.perform (up : job.runs = run :: below) :
    ({ job with runs := run.perform :: below } : RuleJob).Sound events effects := by
  have added : ({ job with runs := run.perform :: below } : RuleJob).effects =
      run.lock.toList.map (fun lock => ActionEffect.mk lock run.execId run.next) ++
        job.effects := by
    rw [effects_eq, effects_eq, up, flatMap_cons, flatMap_cons]
    simp [RuleRun.perform]
  have ids : ({ job with runs := run.perform :: below } : RuleJob).eventIds = job.eventIds := by
    unfold eventIds
    rw [up]
    rfl
  have kept := sound.kept
  have ahead := sound.ahead
  rw [up] at kept ahead
  obtain ⟨here, held, rest⟩ := kept
  refine ⟨ids ▸ sound.ids, ids ▸ sound.seen, ⟨fun effect mem => ?_, held, rest⟩, ?_, ?_⟩
  · rcases mem_append.mp mem with new | old
    · obtain ⟨lock, locked, rfl⟩ := List.mem_map.mp new
      rw [mem_toList] at locked
      refine ⟨?_, .inl ⟨locked, rfl⟩⟩
      unfold locksOf
      rw [flatMap_cons, append_assoc]
      exact mem_append_right _ (held lock locked)
    · exact here effect old
  · rw [added]
    cases locked : run.lock with
    | none => exact sound.once
    | some lock =>
      refine nodup_cons.mpr ⟨fun mem => ?_, sound.once⟩
      obtain ⟨effect, found, same⟩ := List.mem_map.mp mem
      obtain ⟨sameLock, sameAction⟩ := Prod.mk.inj same
      have before := ahead run mem_cons_self lock locked effect found sameLock
      exact absurd sameAction (Nat.ne_of_lt before)
  · rw [added]
    intro run' mem lock locked effect found of
    rw [append_assoc, mem_append] at found
    rcases mem_cons.mp mem with rfl | later
    · rcases found with new | old
      · obtain ⟨_, -, rfl⟩ := List.mem_map.mp new
        exact Nat.lt_succ_self _
      · exact Nat.lt_succ_of_lt (ahead run mem_cons_self lock locked effect old of)
    · rcases found with new | old
      · obtain ⟨own, ownLocked, rfl⟩ := List.mem_map.mp new
        rw [mem_toList] at ownLocked
        subst of
        exact absurd locked (sound.apart up later ownLocked)
      · exact ahead run' (mem_cons_of_mem _ later) lock locked effect old of

theorem Sound.more {events' : List Id} (more : events ⊆ events') : job.Sound events' effects :=
  ⟨sound.ids, fun transitionEventId mem => more (sound.seen transitionEventId mem), sound.kept,
    sound.once, sound.ahead⟩

theorem Sound.followUp (idle : job.event = none) {transitionEventId : Id}
    (fresh : transitionEventId ∉ events) (depth : Nat) (rules : List AutomationRule) :
    ({ job with event := some ⟨some transitionEventId, depth, rules⟩ } : RuleJob).Sound
      (transitionEventId :: events) effects := by
  have ids : ({ job with event := some ⟨some transitionEventId, depth, rules⟩ } :
      RuleJob).eventIds = some transitionEventId :: job.eventIds := by
    unfold eventIds
    rw [idle]
    rfl
  refine ⟨?_, ?_, sound.kept, sound.once, sound.ahead⟩
  · rw [ids]
    exact nodup_cons.mpr ⟨fun mem => fresh (sound.seen _ mem), sound.ids⟩
  · rw [ids]
    intro other mem
    rcases mem_cons.mp mem with same | old
    · rw [Option.some.inj same]
      exact mem_cons_self
    · exact mem_cons_of_mem _ (sound.seen other old)

theorem Sound.act {job' : RuleJob} {outcome : ActionOutcome}
    (fresh : ∀ transitionEventId ∈ outcome.events, transitionEventId ∉ events)
    (acted : job.act outcome = some job') : job'.Sound (outcome.events ++ events) effects := by
  unfold RuleJob.act at acted
  split at acted
  · next run below idle up =>
    split at acted
    · cases acted
    · cases outcome with
      | skipped =>
        cases acted
        exact sound.skip up
      | performed =>
        cases acted
        exact sound.perform up
      | followedUp transitionEventId rules =>
        dsimp only at acted
        split at acted
        · cases acted
        · split at acted
          · cases acted
            have performed := sound.perform up
            exact performed.followUp idle (fresh transitionEventId mem_cons_self) _ rules
          · cases acted
            exact (sound.fail up).more (subset_append_right _ _)
      | failed =>
        cases acted
        exact sound.fail up
  · cases acted

theorem Sound.rest (up : job.event = some event) (rules : List AutomationRule) :
    ({ job with event := some { event with rules } } : RuleJob).Sound events effects := by
  have ids : ({ job with event := some { event with rules } } : RuleJob).eventIds =
      job.eventIds := by
    unfold eventIds
    rw [up]
    rfl
  exact ⟨ids ▸ sound.ids, ids ▸ sound.seen, sound.kept, sound.once, sound.ahead⟩

theorem Sound.leave {job' : RuleJob}
    (left : job.leave = some job') : job'.Sound events effects := by
  unfold RuleJob.leave at left
  split at left
  · next event up =>
    split at left
    · cases left
      have distinct := sound.ids
      unfold eventIds at distinct
      exact ⟨Nodup.of_append_right distinct,
        fun transitionEventId mem => sound.seen _ (mem_append_right _ mem), sound.kept,
        sound.once, sound.ahead⟩
    · cases left
  · cases left

theorem Sound.begin {event : RuleEvent}
    (up : job.event = some event) {execId : Id} {rule : AutomationRule}
    {rest : List AutomationRule}
    (clear : ∀ lock ∈ event.lock rule, lock ∈ job.locks ∧
      ∀ effect ∈ job.effects ++ effects, effect.lock ≠ lock) :
    (job.begin execId rule { event with rules := rest }).Sound events effects := by
  have ids : (job.begin execId rule { event with rules := rest }).eventIds = job.eventIds := by
    unfold eventIds
    rw [up]
    rfl
  have same : (job.begin execId rule { event with rules := rest }).effects = job.effects := by
    rw [effects_eq, effects_eq]
    rfl
  refine ⟨ids ▸ sound.ids, ids ▸ sound.seen, ⟨forall_mem_nil _, ?_, sound.kept⟩,
    same ▸ sound.once, ?_⟩
  · intro lock locked
    have held := (clear lock locked).1
    rw [locks_eq] at held
    exact held
  · rw [same]
    intro run mem lock locked effect found of
    rcases mem_cons.mp mem with rfl | later
    · exact absurd of ((clear lock locked).2 effect found)
    · exact sound.ahead run later lock locked effect found of

theorem Sound.unowned (up : job.event = some event) {rule : AutomationRule} {lock : RuleLock}
    (locked : event.lock rule = some lock) (mem : run ∈ job.runs) : run.lock ≠ some lock := by
  intro owned
  have distinct := sound.ids
  unfold eventIds at distinct
  rw [up] at distinct
  refine (nodup_cons.mp distinct).1 (List.mem_map.mpr ⟨run, mem, ?_⟩)
  have named : event.transitionEventId = some lock.transitionEventId :=
    (RuleEvent.lock_eq_some locked).2
  rw [(RuleRun.lock_eq_some owned).2]
  exact named.symm

end

/-! ## The locks of a job -/

theorem locks_drop (up : job.runs = run :: below) (event : Option RuleEvent) :
    job.locks = run.writes.locks ++ ({ job with runs := below, event } : RuleJob).locks := by
  rw [locks_eq, locks_eq, up]
  unfold locksOf
  rw [flatMap_cons, append_assoc]

theorem locks_fail (up : job.runs = run :: below) :
    (job.raise (run :: below)).locks ⊆ job.locks := by
  have dropped := locks_drop up (some run.event)
  have locks : (job.raise (run :: below)).locks =
      [] ++ ({ job with runs := below, event := some run.event } : RuleJob).locks := locks_write _
  rw [locks, dropped]
  exact subset_append_right _ _

theorem locks_raise (job : RuleJob) : (job.raise job.runs).locks ⊆ job.locks := by
  cases up : job.runs with
  | nil => exact nil_subset _
  | cons run below => exact locks_fail up

theorem locks_throws (thrown : job.throws = some job') : job'.locks ⊆ job.locks := by
  unfold RuleJob.throws at thrown
  split at thrown
  · cases thrown
    exact locks_raise job
  · next run below none up =>
    cases thrown
    have dropped := locks_drop up (some run.event)
    have raised := locks_raise { job with runs := below, event := some run.event }
    rw [dropped]
    exact Subset.trans raised (subset_append_right _ _)
  · cases thrown

theorem locks_complete (completed : job.complete = some job') : job'.locks ⊆ job.locks := by
  unfold RuleJob.complete at completed
  split at completed
  · next run below none up =>
    split at completed
    · cases completed
      have dropped := locks_drop up (some run.event)
      have locks : (job.endRun run below run.completed).locks = run.writes.locks ++
          ({ job with runs := below, event := some run.event } : RuleJob).locks := locks_write _
      rw [locks, dropped]
      exact Subset.refl _
    · cases completed
  · cases completed

theorem locks_leave (left : job.leave = some job') : job'.locks = job.locks := by
  unfold RuleJob.leave at left
  split at left
  · split at left
    · cases left
      rw [locks_eq, locks_eq]
    · cases left
  · cases left

theorem locks_act {outcome : ActionOutcome} (acted : job.act outcome = some job') :
    job'.locks ⊆ job.locks := by
  unfold RuleJob.act at acted
  split at acted
  · next run below idle up =>
    have skipped (event : Option RuleEvent) :
        ({ job with runs := run.skip :: below, event } : RuleJob).locks = job.locks := by
      rw [locks_eq, locks_eq, up]
      rfl
    have performed (event : Option RuleEvent) :
        ({ job with runs := run.perform :: below, event } : RuleJob).locks = job.locks := by
      rw [locks_eq, locks_eq, up]
      rfl
    split at acted
    · cases acted
    · cases outcome with
      | skipped =>
        cases acted
        exact fun lock held => skipped job.event ▸ held
      | performed =>
        cases acted
        exact fun lock held => performed job.event ▸ held
      | followedUp transitionEventId rules =>
        dsimp only at acted
        split at acted
        · cases acted
        · split at acted
          · cases acted
            exact fun lock held => performed _ ▸ held
          · cases acted
            exact locks_fail up
      | failed =>
        cases acted
        exact locks_fail up
  · cases acted

/-! ## The effects of other jobs -/

theorem Sound.locked (sound : job.Sound events effects) {effect : ActionEffect}
    (mem : effect ∈ job.effects) : effect.lock ∈ job.locks := by
  rw [effects_eq] at mem
  rw [locks_eq]
  exact sound.kept.locked mem

theorem Kept.run_locked (kept : Kept own runs) (mem : run ∈ runs) {lock : RuleLock}
    (locked : run.lock = some lock) : lock ∈ locksOf own runs := by
  induction runs with
  | nil => cases mem
  | cons first below ih =>
    have later : locksOf own below ⊆ locksOf own (first :: below) := by
      unfold locksOf
      rw [flatMap_cons, append_assoc]
      exact subset_append_right _ _
    rcases mem_cons.mp mem with rfl | rest
    · exact later (kept.2.1 lock locked)
    · exact later (ih kept.2.2 rest)

theorem Sound.beside {other : RuleJob} (sound : job.Sound events effects)
    (sound' : other.Sound events effects) (apart : ∀ lock ∈ other.locks, lock ∉ job.locks) :
    job.Sound events (other.effects ++ effects) := by
  refine ⟨sound.ids, sound.seen, sound.kept, ?_, fun run mem lock locked effect found of => ?_⟩
  · have own := sound.once
    have theirs := sound'.once
    rw [map_append, List.nodup_append] at own
    rw [map_append, List.nodup_append]
    refine ⟨own.1, theirs, fun key mem key' mem' same => ?_⟩
    rw [map_append, mem_append] at mem'
    rcases mem' with foreign | old
    · obtain ⟨effect, mine, rfl⟩ := List.mem_map.mp mem
      obtain ⟨effect', notMine, rfl⟩ := List.mem_map.mp foreign
      have sameLock : effect.lock = effect'.lock := (Prod.mk.inj same).1
      refine apart effect'.lock (sound'.locked notMine) ?_
      rw [← sameLock]
      exact sound.locked mine
    · exact own.2.2 key mem key' old same
  · rw [mem_append, mem_append] at found
    rcases found with mine | foreign | old
    · exact sound.ahead run mem lock locked effect (mem_append_left _ mine) of
    · have held := sound.kept.run_locked mem locked
      rw [← locks_eq] at held
      subst of
      exact absurd held (apart effect.lock (sound'.locked foreign))
    · exact sound.ahead run mem lock locked effect (mem_append_right _ old) of

end Lemmas

end RuleJob

end OpenWind
