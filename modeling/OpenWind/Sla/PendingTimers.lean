import OpenWind.Entity.EventChain
import OpenWind.Sla.Scheduler

/-!
# Pending timers and the current state

After every call a record should have a timer, pending in the outbox or already
enqueued, exactly when it was moved into its current state and that state has
hours, and no pending timer should name another state.
-/

open List Option Bool

namespace OpenWind

open Txn Db

/-! ## The machine -/

structure TimerState where
  db : Db
  jobs : List SlaJob := []
  stays : List Stay := []

inductive TimerLabel
  | call (call : RecordCall)
  | tick (now : Time)

/-- The records whose state differs. -/
def Db.changed (db db' : Db) : List Id :=
  (db'.entityInstances.filter fun row => db.entityInstances.any fun old =>
    old.id == row.id && old.currentState != row.currentState).map (·.id)

def RecordCall.moved (db : Db) (call : RecordCall) : List Id :=
  match call with
  | executeTransition _ request _ => db.carriedOut (call.commit db) request.instanceId
  | overrideWorkflowState _ request _ => db.carriedOut (call.commit db) request.instanceId
  | _ => db.changed (call.commit db)

def RecordCall.now : RecordCall → Time
  | createEntity _ _ _ supply => supply.now
  | executeTransition _ _ supply => supply.now
  | overrideWorkflowState _ _ supply => supply.now
  | setEntityState _ _ _ _ supply => supply.now
  | bulkSetState _ _ _ supply => supply.now
  | updateEntity _ _ _ _ supply => supply.now
  | insertNote _ _ _ _ createdAt _ => createdAt

/-- The state after a call that moved `ids`. -/
def TimerState.enter (s : TimerState) (db' : Db) (ids : List Id) (now : Time) : TimerState where
  db := db'
  jobs := s.jobs
  stays := ids.map (fun id => ⟨id, now, s.db.outboxEvents.length⟩) ++ s.stays

def TimerState.step (s : TimerState) : TimerLabel → Option TimerState
  | .call call => some (s.enter (call.commit s.db) (call.moved s.db) call.now)
  | .tick now =>
    match (OpenWind.tick now).exec s.db with
    | .error _ => some s
    | .ok (polled, db') => some { s with db := db', jobs := s.jobs ++ polled.enqueued }

/-- The latest stay of a record that was moved. -/
def TimerState.stay (s : TimerState) (id : Id) : Option Stay :=
  s.stays.find? fun stay => stay.instanceId == id

def TimerState.isCurrent (s : TimerState) (job : SlaJob) : Bool :=
  (s.stay job.timer.instanceId).any fun stay =>
    (s.db.outboxSince stay).contains job.outboxEventId

def TimerState.timers (s : TimerState) (id : Id) : List Id :=
  (s.db.pendingTimers.filter (OutboxEvent.times id)).map (·.id) ++
    (s.jobs.filter fun job => job.timer.instanceId == id && s.isCurrent job).map (·.outboxEventId)

structure TimerState.Match (s : TimerState) : Prop where
  named : ∀ row ∈ s.db.entityInstances, ∀ out ∈ s.db.pendingTimers, ∀ timer,
    out.timer = some timer → timer.instanceId = row.id → timer.stateName = row.currentState
  one : ∀ row ∈ s.db.entityInstances, (s.timers row.id).length =
    ((s.stay row.id).isSome && (s.db.slaHours row).isSome).toNat

/-! ## Conditions -/

def RecordCall.target (db : Db) (call : RecordCall) (row : EntityInstance) : Option String :=
  match call with
  | setEntityState tenantId instanceId state _ _ =>
    if row.isOf tenantId instanceId then some state else none
  | updateEntity _ tenantId instanceId input _ =>
    if row.isOf tenantId instanceId then input.currentState.join else none
  | bulkSetState tenantId items _ _ => (row.visits tenantId (db.bulkBuckets tenantId items)).getLast?
  | _ => none

def Db.Untimed (db : Db) (target : EntityInstance → Option String) : Prop :=
  ∀ row ∈ db.entityInstances, ∀ state, target row = some state → state ≠ row.currentState →
    db.pendingTimers.filter (OutboxEvent.times row.id) = [] ∧
      db.slaHours { row with currentState := state } = none

/-- The condition of a step. -/
def TimerState.Allowed (s : TimerState) : TimerLabel → Prop
  | .call (.setEntityState tenantId instanceId state actorId supply) =>
    (setEntityState tenantId instanceId state actorId supply).Commits s.db →
      s.db.Untimed (RecordCall.target s.db (.setEntityState tenantId instanceId state actorId supply))
  | .call (.updateEntity rules tenantId instanceId input supply) =>
    (updateEntity rules tenantId instanceId input supply).Commits s.db →
      s.db.Untimed (RecordCall.target s.db (.updateEntity rules tenantId instanceId input supply))
  | .call (.bulkSetState tenantId items actorId supply) =>
    (bulkSetState tenantId items actorId supply).Commits s.db →
      s.db.Untimed (RecordCall.target s.db (.bulkSetState tenantId items actorId supply))
  | .call _ => True
  | .tick now => (∀ out ∈ s.db.slaBatch, out.isStale now = true) → s.db.slaBatch = []

/-! ## The invariant -/

structure TimerState.Sound (s : TimerState) : Prop where
  keyed : s.db.Keyed
  idle : s.jobs = []
  about : ∀ out ∈ s.db.pendingTimers, ∀ timer, out.timer = some timer →
    ∃ row ∈ s.db.entityInstances, row.id = timer.instanceId ∧ row.tenantId = out.tenantId
  visited : ∀ stay ∈ s.stays, ∃ row ∈ s.db.entityInstances, row.id = stay.instanceId

theorem TimerState.timers_of_idle {s : TimerState} (idle : s.jobs = []) (id : Id) :
    s.timers id = (s.db.pendingTimers.filter (OutboxEvent.times id)).map (·.id) := by
  unfold TimerState.timers
  rw [idle]
  exact append_nil _

/-! ## Entering a store -/

theorem OutboxEvent.times_iff {id : Id} {out : OutboxEvent} :
    out.times id ↔ ∃ timer, out.timer = some timer ∧ timer.instanceId = id := by
  unfold OutboxEvent.times
  rw [Option.any_eq_true]
  exact exists_congr fun timer => and_congr_right fun _ => beq_iff_eq

section Enter

variable {s : TimerState} {db' : Db} {ids : List Id} {now : Time} {id : Id}

theorem TimerState.stay_enter_of_mem (moved : id ∈ ids) :
    (s.enter db' ids now).stay id = some ⟨id, now, s.db.outboxEvents.length⟩ := by
  unfold TimerState.stay TimerState.enter
  have isSome : ((ids.map fun id => (⟨id, now, s.db.outboxEvents.length⟩ : Stay)).find?
      fun stay => stay.instanceId == id).isSome = true :=
    find?_isSome.mpr ⟨_, List.mem_map_of_mem moved, beq_self_eq_true id⟩
  obtain ⟨stay, found⟩ := isSome_iff_exists.mp isSome
  rcases List.mem_map.mp (mem_of_find?_eq_some found) with ⟨other, -, rfl⟩
  have named := find?_some found
  cases eq_of_beq named
  rw [find?_append, found]
  rfl

theorem TimerState.stay_enter_of_not_mem (kept : id ∉ ids) :
    (s.enter db' ids now).stay id = s.stay id := by
  unfold TimerState.stay TimerState.enter
  rw [find?_append, find?_eq_none.mpr, none_or]
  intro stay mem
  rcases List.mem_map.mp mem with ⟨other, memOther, rfl⟩
  rw [beq_iff_eq]
  exact fun same => kept (same ▸ memOther)

theorem TimerState.timers_enter (idle : s.jobs = []) : (s.enter db' ids now).timers id =
    (db'.pendingTimers.filter (OutboxEvent.times id)).map (·.id) :=
  TimerState.timers_of_idle (s := s.enter db' ids now) idle id

end Enter

/-! ## Writes of records -/

structure TimerState.Keeps (s s' : TimerState) (G : Prop) : Prop where
  match_iff : s'.Match ↔ G
  sound : s'.Sound

theorem Db.slaHours_congr {db db' : Db} {old row : EntityInstance} (same : SameDefinitions db db')
    (record : SameRecord old row) :
    db'.slaHours row = db.slaHours { old with currentState := row.currentState } := by
  unfold Db.slaHours
  rw [record.workflowId, record.tenantId, same.states]

theorem Db.mem_changed {db db' : Db} {f : EntityInstance → EntityInstance}
    {fresh : List EntityInstance} (evolves : Evolves db db' f fresh) (keyed : db.Keyed)
    {row : EntityInstance} (mem : row ∈ db.entityInstances) :
    row.id ∈ db.changed db' ↔ (f row).currentState ≠ row.currentState := by
  unfold Db.changed
  rw [List.mem_map]
  constructor
  · rintro ⟨row', filtered, named⟩
    obtain ⟨mem', differs⟩ := mem_filter.mp filtered
    obtain ⟨old, memOld, same⟩ := List.any_eq_true.mp differs
    simp only [and_eq_true, beq_iff_eq, bne_iff_ne] at same
    obtain rfl := keyed.eq memOld mem (same.1.trans named)
    have keyed' := evolves.keyed keyed
    obtain rfl := keyed'.eq mem' (evolves.kept memOld) (named.trans (evolves.same old).id.symm)
    exact same.2.symm
  · intro differs
    refine ⟨f row, mem_filter.mpr ⟨evolves.kept mem, ?_⟩, (evolves.same row).id⟩
    refine List.any_eq_true.mpr ⟨row, mem, ?_⟩
    simp only [and_eq_true, beq_iff_eq, bne_iff_ne]
    exact ⟨(evolves.same row).id.symm, differs.symm⟩

theorem Db.fresh_not_changed {db db' : Db} {fresh : List EntityInstance} (unused : db.Unused fresh)
    {row : EntityInstance} (mem : row ∈ fresh) : row.id ∉ db.changed db' := by
  intro changed
  obtain ⟨row', filtered, named⟩ := List.mem_map.mp changed
  obtain ⟨old, memOld, same⟩ := List.any_eq_true.mp (mem_filter.mp filtered).2
  simp only [and_eq_true, beq_iff_eq] at same
  exact unused.2 row mem old memOld (same.1.trans named)

theorem TimerState.Sound.unused {s : TimerState} (sound : s.Sound) {id : Id}
    (unused : ∀ old ∈ s.db.entityInstances, old.id ≠ id) :
    s.stay id = none ∧ s.db.pendingTimers.filter (OutboxEvent.times id) = [] := by
  refine ⟨find?_eq_none.mpr fun stay mem named => ?_, filter_eq_nil_iff.mpr fun out mem times => ?_⟩
  · obtain ⟨row, memRow, same⟩ := sound.visited stay mem
    exact unused row memRow (same.trans (eq_of_beq named))
  · obtain ⟨timer, timed, named⟩ := OutboxEvent.times_iff.mp times
    obtain ⟨row, memRow, same, -⟩ := sound.about out mem timer timed
    exact unused row memRow (same.trans named)

structure Writes (db db' : Db) (target : EntityInstance → Option String)
    (f : EntityInstance → EntityInstance) (fresh : List EntityInstance) : Prop where
  evolves : Evolves db db' f fresh
  states : ∀ row ∈ db.entityInstances, (f row).currentState = (target row).getD row.currentState
  definitions : SameDefinitions db db'
  pending : db'.pendingTimers = db.pendingTimers

theorem Writes.of_effect {db db' : Db} {target : EntityInstance → Option String}
    {f : EntityInstance → EntityInstance} {fresh instances : List EntityInstance}
    {events : List WorkflowEvent} (evolves : Evolves db db' f fresh)
    (effect : Effect db db' instances events)
    (states : ∀ row ∈ db.entityInstances, (f row).currentState = (target row).getD row.currentState) :
    Writes db db' target f fresh :=
  ⟨evolves, states, effect.definitions, effect.timers⟩

section Writes

variable {s : TimerState} {db' : Db} {target : EntityInstance → Option String}
  {f : EntityInstance → EntityInstance} {fresh : List EntityInstance} {now : Time}

section

variable (writes : Writes s.db db' target f fresh)

include writes

theorem Writes.timers_kept (sound : s.Sound) {row : EntityInstance}
    (mem : row ∈ s.db.entityInstances) (kept : (f row).currentState = row.currentState) :
    (s.enter db' (s.db.changed db') now).timers row.id = s.timers row.id ∧
      (s.enter db' (s.db.changed db') now).stay row.id = s.stay row.id ∧
      db'.slaHours (f row) = s.db.slaHours row := by
  have unchanged : row.id ∉ s.db.changed db' :=
    fun changed => (mem_changed writes.evolves sound.keyed mem).mp changed kept
  refine ⟨?_, TimerState.stay_enter_of_not_mem unchanged, ?_⟩
  · rw [TimerState.timers_enter sound.idle, TimerState.timers_of_idle sound.idle, writes.pending]
  rw [slaHours_congr writes.definitions (writes.evolves.same row), kept]

theorem Writes.timers_entered (sound : s.Sound) (id : Id) :
    (s.enter db' (s.db.changed db') now).timers id =
      (s.db.pendingTimers.filter (OutboxEvent.times id)).map (·.id) := by
  rw [TimerState.timers_enter sound.idle, writes.pending]

theorem Writes.untimed_of_match (sound : s.Sound) (before : s.Match)
    (after : (s.enter db' (s.db.changed db') now).Match) : s.db.Untimed target := by
  intro row mem state given differs
  have entered : (f row).currentState = state := by rw [writes.states row mem, given]; rfl
  have moved : row.id ∈ s.db.changed db' :=
    (mem_changed writes.evolves sound.keyed mem).mpr (entered ▸ differs)
  have kept := writes.evolves.kept mem
  have same := writes.evolves.same row
  have none : s.db.pendingTimers.filter (OutboxEvent.times row.id) = [] := by
    refine filter_eq_nil_iff.mpr fun out memOut times => ?_
    obtain ⟨timer, timed, about⟩ := OutboxEvent.times_iff.mp times
    have old := before.named row mem out memOut timer timed about
    have new := after.named (f row) kept out
      (show out ∈ db'.pendingTimers from writes.pending ▸ memOut) timer timed
      (about.trans same.id.symm)
    rw [entered] at new
    exact differs (new.symm.trans old)
  refine ⟨none, ?_⟩
  have one := after.one (f row) kept
  rw [same.id, writes.timers_entered sound, none, TimerState.stay_enter_of_mem moved] at one
  have hours : db'.slaHours (f row) = s.db.slaHours { row with currentState := state } := by
    rw [slaHours_congr writes.definitions same, entered]
  rw [← hours]
  by_contra timed
  have hasHours : ((s.enter db' (s.db.changed db') now).db.slaHours (f row)).isSome :=
    isSome_iff_ne_none.mpr timed
  rw [hasHours] at one
  cases one

theorem Writes.untimed_changed (untimed : s.db.Untimed target) {row : EntityInstance}
    (mem : row ∈ s.db.entityInstances) (differs : (f row).currentState ≠ row.currentState) :
    s.db.pendingTimers.filter (OutboxEvent.times row.id) = [] ∧ db'.slaHours (f row) = none := by
  have states := writes.states row mem
  cases given : target row with
  | none =>
    rw [given] at states
    exact absurd states differs
  | some state =>
    rw [given, getD_some] at states
    rw [slaHours_congr writes.definitions (writes.evolves.same row), states]
    exact untimed row mem state given (states ▸ differs)

theorem Writes.match_of_untimed (sound : s.Sound)
    (before : s.Match) (untimed : s.db.Untimed target) :
    (s.enter db' (s.db.changed db') now).Match := by
  constructor
  · intro row' mem' out memOut timer timed about
    change out ∈ db'.pendingTimers at memOut
    rw [writes.pending] at memOut
    rcases writes.evolves.mem mem' with ⟨row, mem, rfl⟩ | new
    · have about' := about.trans (writes.evolves.same row).id
      by_cases kept : (f row).currentState = row.currentState
      · rw [kept]
        exact before.named row mem out memOut timer timed about'
      · have none := (writes.untimed_changed untimed mem kept).1
        have listed : out ∈ s.db.pendingTimers.filter (OutboxEvent.times row.id) :=
          mem_filter.mpr ⟨memOut, OutboxEvent.times_iff.mpr ⟨timer, timed, about'⟩⟩
        rw [none] at listed
        cases listed
    · obtain ⟨old, memOld, named, -⟩ := sound.about out memOut timer timed
      exact absurd (named.trans about) (writes.evolves.unused.2 row' new old memOld)
  · intro row' mem'
    rcases writes.evolves.mem mem' with ⟨row, mem, rfl⟩ | new
    · rw [(writes.evolves.same row).id]
      by_cases kept : (f row).currentState = row.currentState
      · obtain ⟨timers, stay, hours⟩ := @Writes.timers_kept _ _ _ _ _ now writes sound _ mem kept
        rw [timers, stay, show (s.enter db' (s.db.changed db') now).db.slaHours (f row) = _ from hours]
        exact before.one row mem
      · obtain ⟨none, hours⟩ := writes.untimed_changed untimed mem kept
        have moved := (mem_changed writes.evolves sound.keyed mem).mpr kept
        rw [writes.timers_entered sound, none,
          show (s.enter db' (s.db.changed db') now).db.slaHours (f row) = _ from hours,
          isSome_none, Bool.and_false]
        rfl
    · obtain ⟨stay, none⟩ := sound.unused (writes.evolves.unused.2 row' new)
      have unchanged : row'.id ∉ s.db.changed db' :=
        fresh_not_changed writes.evolves.unused new
      rw [writes.timers_entered sound, none, TimerState.stay_enter_of_not_mem unchanged, stay]
      rfl

theorem Writes.sound (sound : s.Sound) : (s.enter db' (s.db.changed db') now).Sound := by
  refine ⟨writes.evolves.keyed sound.keyed, sound.idle, fun out memOut timer timed => ?_,
    fun stay mem => ?_⟩
  · change out ∈ db'.pendingTimers at memOut
    rw [writes.pending] at memOut
    obtain ⟨row, memRow, named, tenant⟩ := sound.about out memOut timer timed
    exact ⟨f row, writes.evolves.kept memRow, (writes.evolves.same row).id.trans named,
      (writes.evolves.same row).tenantId.trans tenant⟩
  · rcases mem_append.mp mem with now | old
    · rcases List.mem_map.mp now with ⟨id, changed, rfl⟩
      obtain ⟨row, filtered, named⟩ := List.mem_map.mp changed
      exact ⟨row, (mem_filter.mp filtered).1, named⟩
    · obtain ⟨row, memRow, named⟩ := sound.visited stay old
      exact ⟨f row, writes.evolves.kept memRow, (writes.evolves.same row).id.trans named⟩

theorem Writes.keeps (sound : s.Sound)
    (before : s.Match) : s.Keeps (s.enter db' (s.db.changed db') now) (s.db.Untimed target) :=
  ⟨⟨writes.untimed_of_match sound before, writes.match_of_untimed sound before⟩,
    writes.sound sound⟩

end

end Writes

/-! ## Transitions -/

theorem Db.pendingTimers_changeState_other (db : Db) {tenantId : Id} {instance_ : LockedInstance}
    {change : StateChange} {supply : Supply} (own : instance_.row.tenantId = tenantId) {id : Id}
    (other : id ≠ instance_.row.id) :
    (db.changeState tenantId instance_ change supply).pendingTimers.filter (OutboxEvent.times id) =
      db.pendingTimers.filter (OutboxEvent.times id) := by
  rw [pendingTimers_changeState, filter_append, List.filter_filter]
  have none : (db.enteredTimer tenantId instance_ change supply).filter (OutboxEvent.times id) =
      [] := by
    refine filter_eq_nil_iff.mpr fun out mem times => ?_
    obtain ⟨timer, timed, -, -, -, about, -⟩ := mem_enteredTimer own mem
    obtain ⟨timer', timed', named⟩ := OutboxEvent.times_iff.mp times
    cases timed.symm.trans timed'
    exact other (named.symm.trans about)
  rw [none, append_nil]
  refine List.filter_congr fun out _ => ?_
  cases times : out.times id with
  | false => rfl
  | true =>
    obtain ⟨timer, timed, named⟩ := OutboxEvent.times_iff.mp times
    have kept : out.pendingTimer tenantId instance_.row.id instance_.row.currentState = false := by
      simp [OutboxEvent.pendingTimer, timed, named, other]
    rw [kept]
    rfl

theorem Db.pendingTimers_changeState_own {s : TimerState} (sound : s.Sound) (before : s.Match)
    {tenantId : Id} {instance_ : LockedInstance} {change : StateChange} {supply : Supply}
    (mem : instance_.row ∈ s.db.entityInstances) (own : instance_.row.tenantId = tenantId) :
    (s.db.changeState tenantId instance_ change supply).pendingTimers.filter
        (OutboxEvent.times instance_.row.id) =
      s.db.enteredTimer tenantId instance_ change supply := by
  rw [pendingTimers_changeState, filter_append, List.filter_filter]
  have none : s.db.pendingTimers.filter (fun out => out.times instance_.row.id &&
      !out.pendingTimer tenantId instance_.row.id instance_.row.currentState) = [] := by
    refine filter_eq_nil_iff.mpr fun out memOut both => ?_
    obtain ⟨times, kept⟩ := and_eq_true_iff.mp both
    obtain ⟨timer, timed, named⟩ := OutboxEvent.times_iff.mp times
    obtain ⟨row, memRow, same, tenant⟩ := sound.about out memOut timer timed
    obtain rfl := sound.keyed.eq memRow mem (same.trans named)
    have state := before.named _ mem out memOut timer timed named
    have pending := (mem_pendingTimers.mp memOut).2.2
    simp [OutboxEvent.pendingTimer, timed, named, state, pending, ← tenant, own] at kept
  have all : (s.db.enteredTimer tenantId instance_ change supply).filter
      (OutboxEvent.times instance_.row.id) = s.db.enteredTimer tenantId instance_ change supply := by
    refine filter_eq_self.mpr fun out memOut => ?_
    obtain ⟨timer, timed, -, -, -, about, -⟩ := mem_enteredTimer own memOut
    exact OutboxEvent.times_iff.mpr ⟨timer, timed, about⟩
  rw [none, all]
  rfl

section ChangeState

variable {s : TimerState} {tenantId : Id} {instance_ : LockedInstance} {change : StateChange}
  {supply : Supply} {now : Time}

section

variable (sound : s.Sound) (before : s.Match) (mem : instance_.row ∈ s.db.entityInstances)
  (selected : instance_.row.isOf tenantId instance_.row.id = true)

include sound before mem selected

theorem TimerState.match_changeState :
    (s.enter (s.db.changeState tenantId instance_ change supply) [instance_.row.id] now).Match := by
  have own : instance_.row.tenantId = tenantId := eq_of_beq (and_eq_true_iff.mp selected).2
  constructor
  · intro row' mem' out memOut timer timed about
    rcases mem_changeState sound.keyed mem selected mem' with rfl | ⟨memRow, other⟩
    · have listed : out ∈ (s.db.changeState tenantId instance_ change supply).pendingTimers.filter
          (OutboxEvent.times instance_.row.id) :=
        mem_filter.mpr ⟨memOut, OutboxEvent.times_iff.mpr ⟨timer, timed, about⟩⟩
      rw [pendingTimers_changeState_own sound before mem own] at listed
      obtain ⟨timer', timed', -, -, -, -, state, -⟩ := mem_enteredTimer own listed
      cases timed.symm.trans timed'
      exact state
    · have listed : out ∈ (s.db.changeState tenantId instance_ change supply).pendingTimers.filter
          (OutboxEvent.times row'.id) :=
        mem_filter.mpr ⟨memOut, OutboxEvent.times_iff.mpr ⟨timer, timed, about⟩⟩
      rw [pendingTimers_changeState_other s.db own other] at listed
      exact before.named row' memRow out (mem_filter.mp listed).1 timer timed about
  · intro row' mem'
    rcases mem_changeState sound.keyed mem selected mem' with rfl | ⟨memRow, other⟩
    · have moved : instance_.row.id ∈ [instance_.row.id] := mem_cons_self
      change ((s.enter _ _ now).timers instance_.row.id).length =
        (((s.enter _ _ now).stay instance_.row.id).isSome && _).toNat
      rw [TimerState.timers_enter sound.idle, TimerState.stay_enter_of_mem moved,
        pendingTimers_changeState_own sound before mem own, length_map,
        length_enteredTimer own, isSome_some, Bool.true_and]
      rfl
    · have kept : row'.id ∉ [instance_.row.id] := fun listed => other (mem_singleton.mp listed)
      have one := before.one row' memRow
      rw [TimerState.timers_of_idle sound.idle] at one
      rw [TimerState.timers_enter sound.idle, TimerState.stay_enter_of_not_mem kept,
        pendingTimers_changeState_other s.db own other]
      exact one

theorem TimerState.sound_changeState :
    (s.enter (s.db.changeState tenantId instance_ change supply) [instance_.row.id] now).Sound := by
  have own : instance_.row.tenantId = tenantId := eq_of_beq (and_eq_true_iff.mp selected).2
  have evolves : Evolves s.db (s.db.changeState tenantId instance_ change supply) _ [] :=
    .of_map rfl fun row => .ite (.enter change.toState supply.now) _ row
  refine ⟨evolves.keyed sound.keyed, sound.idle, fun out memOut timer timed => ?_,
    fun stay memStay => ?_⟩
  · by_cases about : timer.instanceId = instance_.row.id
    · have listed : out ∈ (s.db.changeState tenantId instance_ change supply).pendingTimers.filter
          (OutboxEvent.times instance_.row.id) :=
        mem_filter.mpr ⟨memOut, OutboxEvent.times_iff.mpr ⟨timer, timed, about⟩⟩
      rw [pendingTimers_changeState_own sound before mem own] at listed
      obtain ⟨-, -, -, tenant, -⟩ := mem_enteredTimer own listed
      have same := evolves.same instance_.row
      exact ⟨_, evolves.kept mem, same.id.trans about.symm,
        (same.tenantId.trans own).trans tenant.symm⟩
    · have listed : out ∈ (s.db.changeState tenantId instance_ change supply).pendingTimers.filter
          (OutboxEvent.times timer.instanceId) :=
        mem_filter.mpr ⟨memOut, OutboxEvent.times_iff.mpr ⟨timer, timed, rfl⟩⟩
      rw [pendingTimers_changeState_other s.db own about] at listed
      obtain ⟨row, memRow, named, tenant⟩ :=
        sound.about out (mem_filter.mp listed).1 timer timed
      exact ⟨_, evolves.kept memRow, (evolves.same row).id.trans named,
        (evolves.same row).tenantId.trans tenant⟩
  · rcases mem_append.mp memStay with new | old
    · cases mem_singleton.mp new
      exact ⟨_, evolves.kept mem, (evolves.same instance_.row).id⟩
    · obtain ⟨row, memRow, named⟩ := sound.visited stay old
      exact ⟨_, evolves.kept memRow, (evolves.same row).id.trans named⟩

theorem TimerState.keeps_changeState :
    s.Keeps (s.enter (s.db.changeState tenantId instance_ change supply) [instance_.row.id] now)
      True :=
  ⟨iff_true_intro (TimerState.match_changeState sound before mem selected),
    TimerState.sound_changeState sound before mem selected⟩

end

end ChangeState

/-! ## Polls -/

theorem TimerState.step_tick (s : TimerState) (now : Time) :
    (s.step (.tick now) = some s ∧ ∃ out ∈ s.db.slaBatch, out.isStale now = false) ∨
      (s.step (.tick now) = some { s with db := s.db.tick now } ∧
        ∀ out ∈ s.db.slaBatch, out.isStale now = true) := by
  by_cases stale : ∀ out ∈ s.db.slaBatch, out.isStale now = true
  · refine .inr ⟨?_, stale⟩
    rw [TimerState.step, exec_tick_stale stale]
    exact congrArg (fun jobs => some { s with db := s.db.tick now, jobs }) (append_nil _)
  · push Not at stale
    obtain ⟨out, mem, fresh⟩ := stale
    rw [ne_eq, not_eq_true] at fresh
    refine .inl ⟨?_, out, mem, fresh⟩
    rw [TimerState.step, exec_tick_fresh mem fresh]

section Poll

variable {s : TimerState} {now : Time}

theorem Db.untaken_of_mem {db : Db} {out : OutboxEvent} (mem : out ∈ db.slaBatch) :
    db.untaken out = false := by
  unfold untaken
  rw [contains_iff_mem.mpr (List.mem_map_of_mem mem)]
  rfl

theorem TimerState.Sound.tick (sound : s.Sound) (now : Time) :
    TimerState.Sound { s with db := s.db.tick now } := by
  refine ⟨sound.keyed, sound.idle, fun out mem timer timed => ?_, sound.visited⟩
  change out ∈ (s.db.tick now).pendingTimers at mem
  rw [pendingTimers_tick] at mem
  exact sound.about out (mem_filter.mp mem).1 timer timed

theorem TimerState.Sound.batch_of_match (sound : s.Sound) (before : s.Match)
    (after : TimerState.Match { s with db := s.db.tick now }) : s.db.slaBatch = [] := by
  refine eq_nil_iff_forall_not_mem.mpr fun out mem => ?_
  have pending := mem_slaBatch mem
  obtain ⟨timer, timed⟩ := isSome_iff_exists.mp (mem_pendingTimers.mp pending).2.1
  obtain ⟨row, memRow, named, -⟩ := sound.about out pending timer timed
  have times : out.times row.id := OutboxEvent.times_iff.mpr ⟨timer, timed, named.symm⟩
  have same := (before.one row memRow).trans (after.one row memRow).symm
  rw [TimerState.timers_of_idle sound.idle, TimerState.timers_of_idle (by exact sound.idle),
    length_map, length_map] at same
  change _ = ((s.db.tick now).pendingTimers.filter (OutboxEvent.times row.id)).length at same
  rw [pendingTimers_tick, filter_comm] at same
  have lost : ∃ other ∈ s.db.pendingTimers.filter (OutboxEvent.times row.id),
      ¬ s.db.untaken other = true := by
    refine ⟨out, mem_filter.mpr ⟨pending, times⟩, ?_⟩
    rw [Db.untaken_of_mem mem]
    exact Bool.false_ne_true
  exact absurd same (Nat.ne_of_gt (length_filter_lt_length_iff_exists.mpr lost))

theorem TimerState.match_tick_nil (before : s.Match) (empty : s.db.slaBatch = []) :
    TimerState.Match { s with db := s.db.tick now } := by
  have pending : (s.db.tick now).pendingTimers = s.db.pendingTimers := by
    rw [pendingTimers_tick]
    refine filter_eq_self.mpr fun out _ => ?_
    unfold untaken
    rw [empty]
    rfl
  refine ⟨fun row mem out memOut => before.named row mem out (pending ▸ memOut), fun row mem => ?_⟩
  have timers : TimerState.timers { s with db := s.db.tick now } row.id = s.timers row.id := by
    unfold TimerState.timers TimerState.isCurrent Db.outboxSince
    change ((s.db.tick now).pendingTimers.filter _).map _ ++ (s.jobs.filter fun job => _ &&
      (s.stay _).any fun stay => (((s.db.tick now).outboxEvents.map _).drop _).contains _).map _ = _
    rw [pending, outboxIds_tick]
  rw [timers]
  exact before.one row mem

theorem TimerState.keeps_tick {s' : TimerState} (sound : s.Sound) (before : s.Match)
    (stepped : s.step (.tick now) = some s') : s.Keeps s' (s.Allowed (.tick now)) := by
  rcases s.step_tick now with ⟨same, out, mem, fresh⟩ | ⟨taken, stale⟩
  · cases stepped.symm.trans same
    refine ⟨iff_of_true before fun stale => ?_, sound⟩
    rw [stale out mem] at fresh
    cases fresh
  · cases stepped.symm.trans taken
    exact ⟨⟨fun after _ => sound.batch_of_match before after, fun empty =>
      TimerState.match_tick_nil before (empty stale)⟩, sound.tick now⟩

end Poll

/-! ## Calls -/

theorem Writes.create {rules : FieldRules} {tenantId : Id} {input : CreateEntityInput}
    {supply : EntitySupply} {db db' : Db} {row : EntityInstance}
    (ran : (createEntity rules tenantId input supply).exec db = .ok (row, db')) :
    Writes db db' (fun _ => none) id [row] := by
  obtain ⟨fields, redacted, state, rfl, -, -, unused, effect⟩ := createEntity_cases ran
  exact .of_effect (.of_append effect.instances unused) effect fun _ _ => rfl

theorem Writes.note {tenantId instanceId : Id} {ctx : WorkflowContext} {note : Note}
    {createdAt : Time} {eventId : Id} {db db' : Db} {u : Unit}
    (ran : (insertNote tenantId instanceId ctx note createdAt eventId).exec db = .ok (u, db')) :
    Writes db db' (fun _ => none) id [] := by
  obtain ⟨-, effect⟩ := exec_insertNote_ok ran
  exact .of_effect (.of_map (effect.instances.trans (List.map_id _).symm) .refl) effect
    fun _ _ => rfl

theorem Writes.setState {tenantId instanceId : Id} {state : String} {actorId : Option String}
    {supply : EntitySupply} {db db' : Db} {row : EntityInstance}
    (ran : (setEntityState tenantId instanceId state actorId supply).exec db = .ok (row, db')) :
    ∃ f fresh, Writes db db'
      (RecordCall.target db (.setEntityState tenantId instanceId state actorId supply)) f fresh := by
  obtain ⟨existing, -, -, effect⟩ := setEntityState_cases ran
  have evolves := Evolves.of_map effect.instances fun row =>
    .ite (.enter state supply.now) (EntityInstance.isOf tenantId instanceId row) row
  refine ⟨_, [], .of_effect evolves effect fun row _ => ?_⟩
  unfold RecordCall.target
  by_cases chosen : row.isOf tenantId instanceId = true
  · simp only [if_pos chosen]
    rfl
  · simp only [if_neg chosen]
    rfl

theorem Writes.edit {rules : FieldRules} {tenantId instanceId : Id} {input : UpdateEntityInput}
    {supply : EntitySupply} {db db' : Db} {row : EntityInstance}
    (ran : (updateEntity rules tenantId instanceId input supply).exec db = .ok (row, db')) :
    ∃ f fresh, Writes db db'
      (RecordCall.target db (.updateEntity rules tenantId instanceId input supply)) f fresh := by
  obtain ⟨existing, found, ⟨rfl, idle⟩ | ⟨fields, changed, workflowId, edited⟩⟩ := updateEntity_cases ran
  · refine ⟨id, [], .of_effect (.refl db') (Effect.refl db') fun row _ => ?_⟩
    unfold RecordCall.target
    simp only [idle]
    by_cases chosen : row.isOf tenantId instanceId = true
    · simp only [if_pos chosen]
      rfl
    · simp only [if_neg chosen]
      rfl
  · obtain ⟨-, rfl, -⟩ := EntityInstance.foundLive found
    have evolves := Evolves.of_map edited.effect.instances fun row =>
      .ite (.apply input fields supply.now) (EntityInstance.isOf tenantId existing.id row) row
    refine ⟨_, [], .of_effect evolves edited.effect fun row _ => ?_⟩
    unfold RecordCall.target
    by_cases chosen : row.isOf tenantId existing.id = true
    · simp only [if_pos chosen]
      rfl
    · simp only [if_neg chosen]
      rfl

theorem Writes.bulkSet {tenantId : Id} {items : List BulkItem} {actorId : Option String}
    {supply : EntitySupply} {db db' : Db} {result : BulkSetStateResult}
    (ran : (bulkSetState tenantId items actorId supply).exec db = .ok (result, db')) :
    ∃ f fresh, Writes db db' (RecordCall.target db (.bulkSetState tenantId items actorId supply))
      f fresh := by
  have effect := bulkSetState_cases ran
  have evolves := Evolves.of_map effect.instances
    (.throughBuckets tenantId supply.now (db.bulkBuckets tenantId items))
  exact ⟨_, [], .of_effect evolves effect fun row _ =>
    EntityInstance.throughBuckets_state _ _ _ row⟩

section Call

variable {s : TimerState} {now : Time}

theorem Db.changed_self {db : Db} (keyed : db.Keyed) : db.changed db = [] := by
  unfold Db.changed
  rw [map_eq_nil_iff, filter_eq_nil_iff]
  intro row mem differs
  obtain ⟨old, memOld, same⟩ := List.any_eq_true.mp differs
  simp only [and_eq_true, beq_iff_eq, bne_iff_ne] at same
  exact same.2 (congrArg (·.currentState) (keyed.eq memOld mem same.1))

theorem TimerState.keeps_refl (sound : s.Sound) (before : s.Match) :
    s.Keeps (s.enter s.db [] now) True :=
  ⟨iff_true_intro before, sound⟩

theorem TimerState.keeps_write {α : Type} {p : Tx α} {target : EntityInstance → Option String}
    (sound : s.Sound) (before : s.Match)
    (writes : ∀ {a db'}, p.exec s.db = .ok (a, db') → ∃ f fresh, Writes s.db db' target f fresh) :
    s.Keeps (s.enter (p.commit s.db) (s.db.changed (p.commit s.db)) now)
      (p.Commits s.db → s.db.Untimed target) := by
  rcases p.commit_cases s.db with ⟨e, failed, same⟩ | ⟨a, ran⟩
  · rw [same, changed_self sound.keyed]
    obtain ⟨match_iff, kept⟩ := @TimerState.keeps_refl _ now sound before
    refine ⟨match_iff.trans (iff_of_true trivial fun ⟨result, ran⟩ => ?_), kept⟩
    rw [failed] at ran
    cases ran
  · obtain ⟨f, fresh, written⟩ := writes ran
    obtain ⟨match_iff, kept⟩ := @Writes.keeps _ _ _ _ _ now written sound before
    exact ⟨match_iff.trans ⟨fun untimed _ => untimed, fun untimed => untimed ⟨_, ran⟩⟩, kept⟩

theorem TimerState.keeps_plain {α : Type} {p : Tx α} (sound : s.Sound) (before : s.Match)
    (writes : ∀ {a db'}, p.exec s.db = .ok (a, db') →
      ∃ f fresh, Writes s.db db' (fun _ => none) f fresh) :
    s.Keeps (s.enter (p.commit s.db) (s.db.changed (p.commit s.db)) now) True := by
  obtain ⟨match_iff, kept⟩ := @TimerState.keeps_write _ now _ _ _ sound before writes
  exact ⟨match_iff.trans (iff_true_intro fun _ _ _ _ given => nomatch given), kept⟩

theorem TimerState.keeps_carriedOut {α : Type} {p : Tx α} (tenantId instanceId : Id)
    (sound : s.Sound) (before : s.Match)
    (cases_ : ∀ {a db'}, p.exec s.db = .ok (a, db') → db' = s.db ∨
      ∃ instance_ change supply,
        s.db.entityInstances.find? (EntityInstance.isOf tenantId instanceId) = some instance_.row ∧
        db' = s.db.changeState tenantId instance_ change supply) :
    s.Keeps (s.enter (p.commit s.db) (s.db.carriedOut (p.commit s.db) instanceId) now) True := by
  have idle : s.db.carriedOut s.db instanceId = [] := if_pos rfl
  rcases p.commit_cases s.db with ⟨e, failed, same⟩ | ⟨a, ran⟩
  · rw [same, idle]
    exact TimerState.keeps_refl sound before
  · rcases cases_ ran with same | ⟨instance_, change, supply, found, changed⟩
    · rw [same, idle]
      exact TimerState.keeps_refl sound before
    · have selected := find?_some found
      have named : instance_.row.id = instanceId :=
        eq_of_beq (and_eq_true_iff.mp selected).1
      rw [changed]
      have grew : s.db.carriedOut (s.db.changeState tenantId instance_ change supply) instanceId =
          [instance_.row.id] := by
        unfold carriedOut
        rw [named, if_neg]
        change (s.db.workflowEvents ++ [_]).length ≠ _
        simp
      rw [grew]
      exact TimerState.keeps_changeState sound before (mem_of_find?_eq_some found)
        (named ▸ selected)

theorem TimerState.keeps_step {s' : TimerState} {label : TimerLabel} (sound : s.Sound)
    (before : s.Match) (stepped : s.step label = some s') : s.Keeps s' (s.Allowed label) := by
  cases label with
  | tick now =>
    exact TimerState.keeps_tick sound before stepped
  | call call =>
    cases stepped
    cases call with
    | createEntity => exact TimerState.keeps_plain sound before fun ran => ⟨_, _, .create ran⟩
    | insertNote => exact TimerState.keeps_plain sound before fun ran => ⟨_, _, .note ran⟩
    | setEntityState => exact TimerState.keeps_write sound before Writes.setState
    | updateEntity => exact TimerState.keeps_write sound before Writes.edit
    | bulkSetState => exact TimerState.keeps_write sound before Writes.bulkSet
    | executeTransition tenantId request supply =>
      refine TimerState.keeps_carriedOut tenantId request.instanceId sound before fun ran => ?_
      rcases executeTransition_cases ran with ⟨_, _, -, -, -, same⟩ |
        ⟨instance_, transition, permitted, -, -, changed⟩
      · exact .inl same
      · exact .inr ⟨instance_, _, supply, permitted.found, changed⟩
    | overrideWorkflowState tenantId request supply =>
      refine TimerState.keeps_carriedOut tenantId request.instanceId sound before fun ran => ?_
      obtain ⟨instance_, actorId, overridden, -, -, changed⟩ := overrideWorkflowState_cases ran
      exact .inr ⟨instance_, _, supply, overridden.found, changed⟩

end Call

/-- The queue is empty and nothing was moved yet. -/
def TimerState.start (db : Db) : TimerState where
  db := db

theorem TimerState.start_sound {db : Db} (keyed : db.Keyed) (none : db.pendingTimers = []) :
    (TimerState.start db).Sound := by
  refine ⟨keyed, rfl, fun out mem => ?_, fun _ mem => absurd mem not_mem_nil⟩
  change out ∈ db.pendingTimers at mem
  rw [none] at mem
  cases mem

theorem TimerState.start_match {db : Db} (none : db.pendingTimers = []) :
    (TimerState.start db).Match := by
  constructor
  · intro row _ out mem
    change out ∈ db.pendingTimers at mem
    rw [none] at mem
    cases mem
  · intro row _
    have timers : (TimerState.start db).timers row.id = [] := by
      unfold TimerState.timers
      rw [show (TimerState.start db).db.pendingTimers = [] from none]
      rfl
    rw [timers]
    rfl

/-- Along a run that starts without timers they agree with the states of the
records after every step, exactly when every step meets its condition. -/
theorem pending_timers_match {db : Db} {labels : List TimerLabel} (keyed : db.Keyed)
    (none : db.pendingTimers = []) :
    Runs.Always TimerState.step TimerState.Match (.start db) labels ↔
      Runs.Guarded TimerState.step TimerState.Allowed (.start db) labels := by
  refine Runs.guarded_iff (I := TimerState.Sound) (fun sound before stepped _ =>
    (TimerState.keeps_step sound before stepped).sound) (fun {s label} sound before => ?_)
    (TimerState.start_sound keyed none) (TimerState.start_match none)
  constructor
  · intro allowed s' stepped
    exact (TimerState.keeps_step sound before stepped).match_iff.mpr allowed
  · intro kept
    obtain ⟨s', stepped⟩ : ∃ s', s.step label = some s' := by
      cases label with
      | call call => exact ⟨_, rfl⟩
      | tick now => exact (s.step_tick now).elim (⟨_, ·.1⟩) (⟨_, ·.1⟩)
    exact (TimerState.keeps_step sound before stepped).match_iff.mp (kept s' stepped)

/-! ### A direct write out of a timed state -/

def timedDb : Db where
  workflows := [{ id := 1, tenantId := some 1, entityTypeId := 1, initialState := "open" }]
  workflowStates :=
    [{ id := 1, tenantId := 1, workflowId := 1, name := "open" },
      { id := 2, tenantId := 1, workflowId := 1, name := "review", slaHours := some 1 },
      { id := 3, tenantId := 1, workflowId := 1, name := "closed" }]
  workflowTransitions :=
    [{ id := 1, tenantId := 1, workflowId := 1, fromState := "open", toState := "review" }]

/-- Create record 10. -/
def timedCreate : TimerLabel :=
  .call (.createEntity .acceptAll 1 { entityTypeId := 1, fields := [], workflowId := some 1 }
    ⟨0, 0, fun i => 10 + i⟩)

/-- Take it to `review`. -/
def timedReview : TimerLabel :=
  .call (.executeTransition 1 { instanceId := 10, transitionId := 1 } ⟨1, 1, 20, 21, 22, 23⟩)

def timedSet (state : String) (id : Id) : TimerLabel :=
  .call (.setEntityState 1 10 state none ⟨2, 2, fun i => id + i⟩)

theorem timedDb_keyed : timedDb.Keyed := nodup_nil

/-- The record is closed, and its timer still names the state it was in. -/
theorem pending_timer_outlives_state :
    ¬ Runs.Always TimerState.step TimerState.Match (.start timedDb)
      [timedCreate, timedReview, timedSet "closed" 30] := by
  intro always
  have reached : (Runs.run TimerState.step (.start timedDb)
      [timedCreate, timedReview, timedSet "closed" 30]).any (fun s =>
        s.db.entityInstances.any fun row => s.db.pendingTimers.any fun out =>
          out.timer.any fun timer =>
            timer.instanceId == row.id && timer.stateName != row.currentState) = true := by
    decide +kernel
  obtain ⟨s, ran, found⟩ := (Option.any_eq_true _ _).mp reached
  obtain ⟨row, memRow, found⟩ := List.any_eq_true.mp found
  obtain ⟨out, memOut, found⟩ := List.any_eq_true.mp found
  obtain ⟨timer, timed, differs⟩ := (Option.any_eq_true _ _).mp found
  simp only [and_eq_true, beq_iff_eq, bne_iff_ne] at differs
  exact differs.2 ((always.last ran).named row memRow out memOut timer timed differs.1)

def TimerState.allowed (s : TimerState) : TimerLabel → Bool
  | .call (.setEntityState _ _ state _ _) => s.db.entityInstances.all fun row =>
      (s.db.pendingTimers.filter (OutboxEvent.times row.id)).isEmpty &&
        (s.db.slaHours { row with currentState := state }).isNone
  | .call (.updateEntity ..) => false
  | .call (.bulkSetState ..) => false
  | .call _ => true
  | .tick now => s.db.slaBatch.any fun out => !out.isStale now

theorem TimerState.allowed_sound {s : TimerState} {label : TimerLabel}
    (checked : s.allowed label = true) : s.Allowed label := by
  cases label with
  | tick now =>
    intro stale
    obtain ⟨out, mem, fresh⟩ := List.any_eq_true.mp checked
    rw [stale out mem] at fresh
    cases fresh
  | call call =>
    cases call with
    | setEntityState tenantId instanceId state actorId supply =>
      intro _ row mem entered given _
      obtain ⟨pending, hours⟩ := and_eq_true_iff.mp (List.all_eq_true.mp checked row mem)
      unfold RecordCall.target at given
      simp only [ite_none_right_eq_some, Option.some.injEq] at given
      rw [← given.2]
      exact ⟨List.isEmpty_iff.mp pending, isNone_iff_eq_none.mp hours⟩
    | updateEntity => cases checked
    | bulkSetState => cases checked
    | _ => trivial

/-- Direct writes between states without hours, a transition into one that has an hour, and a
poll that cannot add the job of its timer. -/
theorem pending_timers_match_untimed :
    Runs.Always TimerState.step TimerState.Match (.start timedDb)
      [timedCreate, timedSet "closed" 30, timedSet "open" 40, timedReview, .tick 1000] :=
  (pending_timers_match timedDb_keyed rfl).mpr
    (Runs.Guarded.of_check TimerState.allowed_sound (by decide +kernel))

end OpenWind
