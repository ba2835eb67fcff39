import OpenWind.Entity.Engine

/-!
# What the operations of the entity engine do

Run alone, an operation of the entity engine that returns replaces the records,
appends to the event log, and touches neither the workflow definitions nor the
pending timers (`Effect`).  What it does to the records and to the log is said once
for each operation, by `createEntity_cases`, `bulkCreateEntities_cases`,
`updateEntity_cases`, `setEntityState_cases` and `bulkSetState_cases`; the invariants
of the runs are proved from these and unfold no operation.
-/

open List Option Function OpenWind.Tables

namespace OpenWind

open Txn

def Db.pendingTimers (db : Db) : List OutboxEvent :=
  db.outboxEvents.filter fun row => row.timer.isSome && row.deliveredAt == none

structure SameDefinitions (db db' : Db) : Prop where
  workflows : db'.workflows = db.workflows
  states : db'.workflowStates = db.workflowStates
  transitions : db'.workflowTransitions = db.workflowTransitions
  fields : db'.entityFields = db.entityFields
  relations : db'.entityRelations = db.entityRelations
  users : db'.tenantUsers = db.tenantUsers

structure OutboxGrows (db db' : Db) : Prop where
  ids : ∃ new, db'.outboxEvents.map (·.id) = db.outboxEvents.map (·.id) ++ new
  keyed : Tables.outboxEvents.Keyed db → Tables.outboxEvents.Keyed db'

structure Effect (db db' : Db) (instances : List EntityInstance) (events : List WorkflowEvent) :
    Prop where
  instances : db'.entityInstances = instances
  events : db'.workflowEvents = db.workflowEvents ++ events
  definitions : SameDefinitions db db'
  outbox : OutboxGrows db db'
  timers : db'.pendingTimers = db.pendingTimers

variable {a b c db db' : Db} {instances : List EntityInstance} {rows : List OutboxEvent} {u : Unit}
  {instanceId tenantId : Id} {existing prior row : EntityInstance} {supply : EntitySupply}
  {actorId requested : Option String} {state : String} {input : UpdateEntityInput}
  {changed redacted : Fields} {out : OutboxEvent} {rules : FieldRules} {isChildTicket : Bool}
  {fields : Option Fields} {items : List BulkItem} {item : BulkItem} {index : Nat}
  {inputs : List (CreateEntityInput × Nat)} {errors : List (Nat × List FieldError)}

theorem OutboxGrows.of_eq (same : db'.outboxEvents = db.outboxEvents) : OutboxGrows db db' := by
  exact ⟨⟨[], by rw [same, append_nil]⟩, fun keyed => keyed.of_rows same⟩

theorem OutboxGrows.trans (first : OutboxGrows a b) (second : OutboxGrows b c) :
    OutboxGrows a c := by
  refine ⟨?_, fun keyed => second.keyed (first.keyed keyed)⟩
  obtain ⟨new, one⟩ := first.ids
  obtain ⟨more, two⟩ := second.ids
  exact ⟨new ++ more, by rw [two, one, append_assoc]⟩

theorem OutboxGrows.append {db : Db} {rows : List OutboxEvent}
    (fresh : Tables.outboxEvents.fresh rows db) :
    OutboxGrows db (Tables.outboxEvents.append rows db) :=
  ⟨⟨rows.map (·.id), map_append⟩, fun keyed => keyed.append fresh⟩

theorem OutboxGrows.deliver (p : OutboxEvent → Bool) (now : Time) (db : Db) :
    OutboxGrows db (Tables.outboxEvents.modify p (OutboxEvent.deliver now) db) := by
  refine ⟨⟨[], ?_⟩, fun keyed => keyed.modify p fun _ => rfl⟩
  rw [append_nil]
  change (db.outboxEvents.map _).map _ = _
  rw [List.map_map]
  refine map_congr_left fun row _ => ?_
  by_cases selected : p row = true
  · simp only [comp, if_pos selected]
    rfl
  · simp only [comp, if_neg selected]

theorem SameDefinitions.refl (db : Db) : SameDefinitions db db := ⟨rfl, rfl, rfl, rfl, rfl, rfl⟩

theorem SameDefinitions.trans {a b c : Db} (first : SameDefinitions a b)
    (second : SameDefinitions b c) : SameDefinitions a c :=
  ⟨second.workflows.trans first.workflows, second.states.trans first.states,
    second.transitions.trans first.transitions, second.fields.trans first.fields,
    second.relations.trans first.relations, second.users.trans first.users⟩

theorem Effect.refl (db : Db) : Effect db db db.entityInstances [] :=
  ⟨rfl, (append_nil _).symm, .refl db, .of_eq rfl, rfl⟩

theorem Effect.trans {a b c : Db} {first second : List EntityInstance}
    {events more : List WorkflowEvent} (one : Effect a b first events)
    (two : Effect b c second more) : Effect a c second (events ++ more) :=
  ⟨two.instances, by rw [two.events, one.events, append_assoc],
    one.definitions.trans two.definitions, one.outbox.trans two.outbox,
    two.timers.trans one.timers⟩

/-- The outbox alone has changed, and not its pending timers. -/
abbrev Quiet (db db' : Db) : Prop := Effect db db' db.entityInstances []

theorem Effect.log {events more : List WorkflowEvent} (one : Effect a b instances events)
    (two : Effect b c b.entityInstances more) : Effect a c instances (events ++ more) := by
  have both := one.trans two
  rw [one.instances] at both
  exact both

theorem Effect.quiet {events : List WorkflowEvent} (one : Effect a b instances events)
    (two : Quiet b c) : Effect a c instances events := by
  have both := one.log two
  rw [append_nil] at both
  exact both

/-! ## Single statements -/

theorem effect_modifyInstances (p : EntityInstance → Bool) (f : EntityInstance → EntityInstance)
    (db : Db) :
    Effect db (Tables.entityInstances.modify p f db)
      (db.entityInstances.map fun r => if p r then f r else r) [] :=
  ⟨rfl, (append_nil _).symm, ⟨rfl, rfl, rfl, rfl, rfl, rfl⟩, .of_eq rfl, rfl⟩

theorem effect_appendInstances (rows : List EntityInstance) (db : Db) :
    Effect db (Tables.entityInstances.append rows db) (db.entityInstances ++ rows) [] :=
  ⟨rfl, (append_nil _).symm, ⟨rfl, rfl, rfl, rfl, rfl, rfl⟩, .of_eq rfl, rfl⟩

theorem effect_appendEvents (events : List WorkflowEvent) (db : Db) :
    Effect db (Tables.workflowEvents.append events db) db.entityInstances events :=
  ⟨rfl, rfl, ⟨rfl, rfl, rfl, rfl, rfl, rfl⟩, .of_eq rfl, rfl⟩

theorem quiet_appendOutbox (fresh : Tables.outboxEvents.fresh rows db)
    (noTimers : ∀ row ∈ rows, row.timer = none) :
    Quiet db (Tables.outboxEvents.append rows db) := by
  refine ⟨rfl, (append_nil _).symm, ⟨rfl, rfl, rfl, rfl, rfl, rfl⟩, .append fresh, ?_⟩
  have none : rows.filter (fun row => row.timer.isSome && row.deliveredAt == none) = [] := by
    refine filter_eq_nil_iff.mpr fun row mem => ?_
    rw [noTimers row mem]
    simp
  change (db.outboxEvents ++ rows).filter _ = _
  rw [filter_append, none, append_nil]
  rfl

theorem pendingTimers_deliver (p : OutboxEvent → Bool) (now : Time) (db : Db) :
    (Tables.outboxEvents.modify p (OutboxEvent.deliver now) db).pendingTimers =
      db.pendingTimers.filter fun row => !p row := by
  unfold Db.pendingTimers
  change (db.outboxEvents.map fun row => if p row then row.deliver now else row).filter _ = _
  induction db.outboxEvents with
  | nil => rfl
  | cons row rest ih =>
    rw [map_cons, filter_cons, ih, filter_cons]
    by_cases selected : p row = true
    · have gone : ((row.deliver now).deliveredAt == none) = false := rfl
      rw [if_pos selected, gone, Bool.and_false]
      cases pending : row.timer.isSome && row.deliveredAt == none with
      | false => rfl
      | true => simp [selected]
    · rw [if_neg selected]
      cases pending : row.timer.isSome && row.deliveredAt == none with
      | false => rfl
      | true => simp [selected]

theorem quiet_deliver {p : OutboxEvent → Bool} (now : Time) (db : Db)
    (noTimers : ∀ row, p row → row.timer = none) :
    Quiet db (Tables.outboxEvents.modify p (OutboxEvent.deliver now) db) := by
  refine ⟨rfl, (append_nil _).symm, ⟨rfl, rfl, rfl, rfl, rfl, rfl⟩, .deliver p now db, ?_⟩
  rw [pendingTimers_deliver]
  refine filter_eq_self.mpr fun row mem => ?_
  rw [Bool.not_eq_true', Bool.eq_false_iff]
  intro selected
  have timed := (mem_filter.mp mem).2
  rw [noTimers row selected] at timed
  cases timed

theorem exec_insertOutbox_ok (ran : (Tx.insertOutbox rows).exec db = .ok (u, db'))
    (noTimers : ∀ row ∈ rows, row.timer = none) : Quiet db db' := by
  obtain ⟨fresh, rfl⟩ := (Table.exec_insert_ok _).mp ran
  exact quiet_appendOutbox fresh noTimers

theorem pendingDueDate_timer {row : OutboxEvent}
    (pending : row.pendingDueDate tenantId instanceId) : row.timer = none := by
  unfold OutboxEvent.pendingDueDate at pending
  unfold OutboxEvent.timer
  cases payload : row.payload <;> simp_all

theorem exec_rescheduleDueDate_ok {oldDueDate newDueDate : Option Time} {rowId : Id}
    (ran : (rescheduleDueDate tenantId row oldDueDate newDueDate supply rowId).exec db =
      .ok (u, db')) : Quiet db db' := by
  unfold rescheduleDueDate at ran
  by_cases same : (oldDueDate == newDueDate) = true
  · rw [if_pos same] at ran
    cases ran
    exact Effect.refl db
  · rw [if_neg same] at ran
    simp only [Prog.exec_seq_ok, Table.exec_update, Prog.ok_eq_ok] at ran
    obtain ⟨_, _, ⟨-, rfl⟩, rest⟩ := ran
    have marked := quiet_deliver (p := OutboxEvent.pendingDueDate tenantId row.id)
      supply.startedAt db fun _ => pendingDueDate_timer
    cases newDueDate with
    | none =>
      cases rest
      exact marked
    | some dueDate =>
      refine marked.quiet (exec_insertOutbox_ok rest fun row mem => ?_)
      rw [mem_singleton.mp mem]
      rfl

theorem exec_insertWorkflowEvent_effect {event : WorkflowEvent}
    (ran : (insertWorkflowEvent event).exec db = .ok (u, db')) :
    Effect db db' db.entityInstances [event] := by
  obtain ⟨-, rfl⟩ := exec_insertWorkflowEvent_ok ran
  exact effect_appendEvents [event] db

theorem exec_lift_ok {α : Type} {result : Except TxError α} {a : α} :
    (Tx.lift result).exec db = .ok (a, db') ↔ result = .ok a ∧ db' = db := by
  cases result with
  | error e => simp [Tx.lift]
  | ok b => simp [Tx.lift, eq_comm]

/-! ## Creating a record -/

def CreateEntityInput.events (input : CreateEntityInput) (row : EntityInstance) (redacted : Fields)
    (supply : EntitySupply) : List WorkflowEvent :=
  input.workflowId.toList.map fun workflowId => input.event row workflowId redacted supply

def Db.StartsReal (db : Db) (tenantId : Id) (workflowId : Option Id) (state : String) : Prop :=
  ∀ id, workflowId = some id → db.stateNames tenantId id ≠ [] → state ∈ db.stateNames tenantId id

theorem Db.startState_real (db : Db) (tenantId workflowId : Id)
    (states : db.stateNames tenantId workflowId ≠ []) :
    db.startState tenantId workflowId ∈ db.stateNames tenantId workflowId := by
  unfold Db.startState
  by_cases stored : (db.stateNames tenantId workflowId).contains
      (db.resolveInitialState tenantId (some workflowId)) = true
  · simp only [stored, if_true]
    exact contains_iff_mem.mp stored
  · simp only [stored]
    cases names : db.stateNames tenantId workflowId with
    | nil => exact absurd names states
    | cons first rest => exact mem_cons_self

theorem exec_creationState_ok {tenantId workflowId : Id} {enforceInitialState : Bool}
    (ran : (creationState tenantId workflowId requested enforceInitialState).exec db =
      .ok (state, db')) :
    (db.stateNames tenantId workflowId ≠ [] → state ∈ db.stateNames tenantId workflowId) ∧
      db' = db := by
  unfold creationState Tx.requireE at ran
  simp only [Prog.exec_seq_ok, Prog.exec_read, Prog.ok_eq_ok] at ran
  obtain ⟨validStates, db, ⟨rfl, rfl⟩, start, db, ⟨rfl, rfl⟩, rest⟩ := ran
  cases asked : requested.filter (· != "") with
  | none =>
    rw [asked] at rest
    cases rest
    exact ⟨db.startState_real tenantId workflowId, rfl⟩
  | some wanted =>
    rw [asked] at rest
    simp only [Prog.exec_seq_ok, Prog.exec_read, Prog.exec_require_ok, Prog.exec_pure,
      Prog.ok_eq_ok] at rest
    obtain ⟨_, db, ⟨valid, rfl⟩, _, db, ⟨-, rfl⟩, _, db, ⟨-, rfl⟩, rfl, rfl⟩ := rest
    exact ⟨fun _ => contains_iff_mem.mp valid, rfl⟩

theorem exec_requestedState_ok {input : CreateEntityInput}
    (ran : (requestedState tenantId input).exec db = .ok (state, db')) :
    db.StartsReal tenantId input.workflowId state ∧ db' = db := by
  unfold requestedState at ran
  unfold Db.StartsReal
  cases attached : input.workflowId with
  | none =>
    rw [attached] at ran
    cases ran
    exact ⟨nofun, rfl⟩
  | some workflowId =>
    rw [attached] at ran
    obtain ⟨real, same⟩ := exec_creationState_ok ran
    refine ⟨fun id eq states => ?_, same⟩
    cases eq
    exact real states

theorem exec_logCreation_ok {input : CreateEntityInput}
    (ran : (logCreation input row redacted supply).exec db = .ok (u, db')) :
    Effect db db' db.entityInstances (input.events row redacted supply) := by
  unfold logCreation at ran
  unfold CreateEntityInput.events
  cases attached : input.workflowId with
  | none =>
    rw [attached] at ran
    cases ran
    exact Effect.refl db
  | some workflowId =>
    rw [attached] at ran
    exact exec_insertWorkflowEvent_effect ran

theorem creationOutbox_timer {depth : Option Nat} {createdAt : Time} {createdId assignedId : Id}
    (mem : out ∈ creationOutbox tenantId row redacted actorId depth createdAt createdId
      assignedId) : out.timer = none := by
  rcases mem_cons.mp mem with rfl | assigned
  · rfl
  · rcases List.mem_map.mp assigned with ⟨_, -, rfl⟩
    rfl

/-- The identifiers of records are fresh. -/
def Db.Unused (db : Db) (rows : List EntityInstance) : Prop :=
  (rows.map (·.id)).Nodup ∧ ∀ row ∈ rows, ∀ old ∈ db.entityInstances, old.id ≠ row.id

theorem Db.unused_of_fresh {rows : List EntityInstance}
    (fresh : Tables.entityInstances.fresh rows db) : db.Unused rows := by
  simp only [Table.fresh, entityInstances_rows, Bool.and_eq_true, decide_eq_true_eq,
    List.all_eq_true, bne_iff_ne, ne_eq] at fresh
  refine ⟨?_, fun row mem old memOld same => fresh.2 row mem old memOld ?_⟩
  · have distinct := fresh.1
    rw [show Tables.entityInstances.key = LockKey.row .entityInstances ∘ (·.id) from rfl,
      ← List.map_map] at distinct
    exact distinct.of_map _
  · rw [entityInstances_key, entityInstances_key, same]

theorem createEntity_cases {input : CreateEntityInput}
    (ran : (createEntity rules tenantId input supply).exec db = .ok (row, db')) :
    ∃ fields redacted state, row = input.row tenantId state fields supply ∧
      db.checkCreate rules tenantId input input.severity supply.now = .ok fields ∧
      db.StartsReal tenantId input.workflowId state ∧ db.Unused [row] ∧
      Effect db db' (db.entityInstances ++ [row]) (input.events row redacted supply) := by
  unfold createEntity loadEntityFields at ran
  simp only [Prog.exec_seq_ok, Prog.exec_read, exec_lift_ok, Table.exec_insert_ok,
    Table.exec_filter, Prog.exec_pure, Prog.ok_eq_ok] at ran
  obtain ⟨_, db, ⟨rfl, rfl⟩, fields, db, ⟨checked, rfl⟩, state, mid, requested, _, inserted, ⟨fresh, rfl⟩,
    _, scheduled, dueDate, _, _, ⟨rfl, rfl⟩, _, logged, event, _, announced, outbox, rfl, rfl⟩ := ran
  obtain ⟨real, rfl⟩ := exec_requestedState_ok requested
  have appended := effect_appendInstances [input.row tenantId state fields supply] mid
  have scheduled := appended.quiet (exec_rescheduleDueDate_ok dueDate)
  have logged := scheduled.log (exec_logCreation_ok event)
  have announced := logged.quiet (exec_insertOutbox_ok outbox fun _ => creationOutbox_timer)
  exact ⟨fields, _, state, rfl, checked, real, Db.unused_of_fresh fresh, announced⟩

/-! ## Writing the state of a record -/

def directSetEvents (tenantId : Id) (prior : EntityInstance) (state : String)
    (actorId : Option String) (createdAt : Time) (eventId : Id) : List WorkflowEvent :=
  (prior.loggedWorkflow state).toList.map fun workflowId =>
    directSetEvent tenantId prior workflowId state actorId createdAt eventId

theorem exec_logDirectSet_ok
    (ran : (logDirectSet tenantId prior state actorId supply).exec db = .ok (u, db')) :
    Effect db db' db.entityInstances
      (directSetEvents tenantId prior state actorId supply.startedAt (supply.id 0)) := by
  unfold logDirectSet at ran
  unfold directSetEvents
  cases logged : prior.loggedWorkflow state with
  | none =>
    rw [logged] at ran
    cases ran
    exact Effect.refl db
  | some workflowId =>
    rw [logged] at ran
    simp only [Prog.exec_seq_ok] at ran
    obtain ⟨_, mid, event, outbox⟩ := ran
    refine (exec_insertWorkflowEvent_effect event).quiet
      (exec_insertOutbox_ok outbox fun row mem => ?_)
    rw [mem_singleton.mp mem]
    rfl

theorem EntityInstance.isOf_of_isLive (live : row.isLive tenantId instanceId) :
    row.isOf tenantId instanceId :=
  (Bool.and_eq_true_iff.mp live).1

theorem setEntityState_cases
    (ran : (setEntityState tenantId instanceId state actorId supply).exec db = .ok (row, db')) :
    ∃ existing,
      db.entityInstances.find? (EntityInstance.isLive tenantId instanceId) = some existing ∧
      (db.MayWrite tenantId existing.workflowId state (db.parentId tenantId instanceId).isSome ∧
        db.LockAllows tenantId existing.workflowId existing.currentState state) ∧
      Effect db db'
        (db.entityInstances.map fun r =>
          if EntityInstance.isOf tenantId instanceId r then r.enter state supply.now else r)
        (directSetEvents tenantId existing state actorId supply.startedAt (supply.id 0)) := by
  unfold setEntityState getParentId at ran
  simp only [Prog.exec_seq_ok, Prog.exec_getOr_ok, Table.exec_find, entityInstances_rows,
    Prog.exec_read, Table.exec_update, Prog.exec_pure, Prog.ok_eq_ok] at ran
  obtain ⟨_, db, ⟨rfl, rfl⟩, existing, db, ⟨found, rfl⟩, _, db, ⟨rfl, rfl⟩, _, mid, checked, _, _,
    ⟨-, rfl⟩, _, logged, event, -, rfl⟩ := ran
  obtain ⟨allowed, rfl⟩ := exec_checkStateWrite_ok checked
  exact ⟨existing, found, allowed, (effect_modifyInstances _ _ mid).log (exec_logDirectSet_ok event)⟩

/-! ## Editing a record -/

theorem exec_checkEditState_ok
    (ran : (checkEditState tenantId existing requested isChildTicket).exec db = .ok (u, db')) :
    (∀ state, requested = some state →
      db.MayWrite tenantId existing.workflowId state isChildTicket ∧
        db.LockAllows tenantId existing.workflowId existing.currentState state) ∧ db' = db := by
  cases requested with
  | none => cases ran; exact ⟨nofun, rfl⟩
  | some state =>
    obtain ⟨allowed, same⟩ := exec_checkStateWrite_ok ran
    refine ⟨fun state' eq => ?_, same⟩
    cases eq
    exact allowed

theorem assignmentOutbox_timer (mem : out ∈ assignmentOutbox tenantId existing row input supply) :
    out.timer = none := by
  unfold assignmentOutbox at mem
  by_cases kept : (existing.assignedTo == row.assignedTo) = true
  · rw [if_pos kept] at mem
    cases mem
  · rw [if_neg kept] at mem
    rcases mem_append.mp mem with assigned | unassigned
    · rcases List.mem_map.mp assigned with ⟨_, -, rfl⟩
      rfl
    · rcases List.mem_map.mp unassigned with ⟨_, -, rfl⟩
      rfl

theorem exec_writeEdit_ok
    (ran : (writeEdit rules tenantId existing input isChildTicket fields supply).exec db =
      .ok (row, db')) :
    row = input.apply fields supply.now existing ∧
      checkEdit rules existing row input supply.now = .ok () ∧
      (∀ state, input.currentState.join = some state →
        db.MayWrite tenantId existing.workflowId state isChildTicket ∧
          db.LockAllows tenantId existing.workflowId existing.currentState state) ∧
      Effect db db'
        (db.entityInstances.map fun r =>
          if EntityInstance.isOf tenantId existing.id r then input.apply fields supply.now r
          else r) [] := by
  unfold writeEdit at ran
  simp only [Prog.exec_seq_ok, exec_lift_ok, Table.exec_update, Prog.exec_pure,
    Prog.ok_eq_ok] at ran
  obtain ⟨_, db, ⟨passes, rfl⟩, _, mid, checked, _, _, ⟨-, rfl⟩, _, announced, outbox, _, _, dueDate,
    rfl, rfl⟩ := ran
  obtain ⟨allowed, rfl⟩ := exec_checkEditState_ok checked
  have written := effect_modifyInstances (EntityInstance.isOf tenantId existing.id)
    (input.apply fields supply.now) mid
  have announces := written.quiet (exec_insertOutbox_ok outbox fun _ => assignmentOutbox_timer)
  exact ⟨rfl, passes, allowed, announces.quiet (exec_rescheduleDueDate_ok dueDate)⟩

def updateEvents (tenantId : Id) (workflowId : Option Id) (existing row : EntityInstance)
    (changed : Fields) (input : UpdateEntityInput) (supply : EntitySupply) : List WorkflowEvent :=
  let all := withRowChanges existing row changed
  if all.isEmpty then []
  else workflowId.toList.map fun id => updateEvent tenantId existing row id all input supply

theorem exec_logUpdate_ok
    (ran : (logUpdate tenantId existing row changed input supply).exec db = .ok (u, db')) :
    Effect db db' db.entityInstances
      (updateEvents tenantId (db.effectiveWorkflowId tenantId row) existing row changed input
        supply) := by
  unfold logUpdate insertUpdateEvent insertEntityUpdated at ran
  unfold updateEvents
  rw [Prog.bind_eq, Prog.exec_bind, Prog.exec_read] at ran
  cases effective : db.effectiveWorkflowId tenantId row with
  | none =>
    simp only [effective] at ran
    cases ran
    simpa using Effect.refl db
  | some workflowId =>
    simp only [effective, Prog.exec_seq_ok] at ran
    obtain ⟨_, mid, event, outbox⟩ := ran
    refine Effect.quiet (b := mid) ?_ ?_
    · by_cases empty : (withRowChanges existing row changed).isEmpty = true
      · simp only [empty, if_true] at event ⊢
        cases event
        exact Effect.refl db
      · simp only [empty] at event ⊢
        exact exec_insertWorkflowEvent_effect event
    · split at outbox
      · cases outbox
        exact Effect.refl _
      · refine exec_insertOutbox_ok outbox fun row mem => ?_
        rw [mem_singleton.mp mem]
        rfl

def UpdateEntityInput.Yields (input : UpdateEntityInput) (rules : FieldRules) (db : Db)
    (tenantId : Id) (existing : EntityInstance) (fields : Option Fields) : Prop :=
  match input.fields with
  | some provided => ∃ stored, fields = some stored ∧
      rules.update db tenantId existing (db.parentId tenantId existing.id).isSome provided =
        .ok stored
  | none => fields = none

/-- What an edit that wrote the record has done. -/
structure Edited (rules : FieldRules) (tenantId : Id) (input : UpdateEntityInput) (supply : EntitySupply)
    (existing row : EntityInstance) (db db' : Db) (fields : Option Fields) (changed : Fields)
    (workflowId : Option Id) : Prop where
  row_eq : row = input.apply fields supply.now existing
  yields : input.Yields rules db tenantId existing fields
  checked : checkEdit rules existing row input supply.now = .ok ()
  allowed : ∀ state, input.currentState.join = some state →
    db.MayWrite tenantId existing.workflowId state (db.parentId tenantId existing.id).isSome
  unlocked : ∀ state, input.currentState.join = some state →
    db.LockAllows tenantId existing.workflowId existing.currentState state
  logged : existing.workflowId.isSome → workflowId = existing.workflowId
  effect : Effect db db'
    (db.entityInstances.map fun r =>
      if EntityInstance.isOf tenantId existing.id r then input.apply fields supply.now r else r)
    (updateEvents tenantId workflowId existing row changed input supply)

theorem Db.effectiveWorkflowId_own (attached : row.workflowId.isSome) :
    db.effectiveWorkflowId tenantId row = row.workflowId := by
  obtain ⟨workflowId, eq⟩ := isSome_iff_exists.mp attached
  unfold Db.effectiveWorkflowId
  rw [eq]

theorem Edited.of_exec {db mid db' : Db} (yields : input.Yields rules db tenantId existing fields)
    (wrote : (writeEdit rules tenantId existing input (db.parentId tenantId existing.id).isSome
      fields supply).exec db = .ok (row, mid))
    (logged : (logUpdate tenantId existing row changed input supply).exec mid = .ok (u, db')) :
    Edited rules tenantId input supply existing row db db' fields changed
      (mid.effectiveWorkflowId tenantId row) := by
  obtain ⟨rfl, checked, allowed, written⟩ := exec_writeEdit_ok wrote
  exact ⟨rfl, yields, checked, fun state asked => (allowed state asked).1, fun state asked => (allowed state asked).2,
    fun attached => Db.effectiveWorkflowId_own attached, written.log (exec_logUpdate_ok logged)⟩

theorem EntityInstance.id_of_isLive (live : row.isLive tenantId instanceId) :
    row.id = instanceId := by
  have named := Bool.and_eq_true_iff.mp (isOf_of_isLive live)
  exact eq_of_beq named.1

theorem updateEntity_provided {provided : Fields} (asked : input.fields = some provided)
    (ran : (updateEntity rules tenantId instanceId input supply).exec db = .ok (row, db')) :
    ∃ existing fields changed workflowId,
      db.entityInstances.find? (EntityInstance.isLive tenantId instanceId) = some existing ∧
      rules.update db tenantId existing (db.parentId tenantId instanceId).isSome provided =
        .ok fields ∧
      Edited rules tenantId input supply existing row db db' (some fields) changed workflowId := by
  unfold updateEntity getParentId loadEntityFields at ran
  simp only [Prog.exec_seq_ok, Prog.exec_getOr_ok, Table.exec_find, entityInstances_rows,
    Prog.ok_eq_ok, asked, Prog.exec_read, exec_lift_ok, Table.exec_filter, Prog.exec_pure] at ran
  obtain ⟨_, db, ⟨rfl, rfl⟩, existing, db, ⟨found, rfl⟩, _, db, ⟨rfl, rfl⟩, _, db, ⟨rfl, rfl⟩,
    fields, db, ⟨accepted, rfl⟩, _, db, ⟨-, rfl⟩, row', _, wrote, _, _, logged, rfl, rfl⟩ := ran
  have named : existing.id = instanceId := EntityInstance.id_of_isLive (find?_some found)
  subst named
  have yields : input.Yields rules db tenantId existing (some fields) := by
    unfold UpdateEntityInput.Yields
    rw [asked]
    exact ⟨fields, rfl, accepted⟩
  exact ⟨existing, fields, _, _, found, accepted, .of_exec yields wrote logged⟩

theorem updateEntity_bare (bare : input.fields = none)
    (ran : (updateEntity rules tenantId instanceId input supply).exec db = .ok (row, db')) :
    ∃ existing,
      db.entityInstances.find? (EntityInstance.isLive tenantId instanceId) = some existing ∧
      if input.assignedTo.isSome || input.currentState.isSome || input.dueDate.isSome then
        ∃ changed workflowId,
          Edited rules tenantId input supply existing row db db' none changed workflowId
      else row = existing ∧ db' = db := by
  unfold updateEntity getParentId at ran
  simp only [bare, Prog.exec_seq_ok, Prog.exec_getOr_ok, Table.exec_find, entityInstances_rows,
    Prog.ok_eq_ok] at ran
  obtain ⟨_, db, ⟨rfl, rfl⟩, existing, db, ⟨found, rfl⟩, rest⟩ := ran
  have named : existing.id = instanceId := EntityInstance.id_of_isLive (find?_some found)
  refine ⟨existing, found, ?_⟩
  subst named
  split at rest
  · next given =>
    simp only [Prog.exec_seq_ok, Prog.exec_read, Prog.exec_pure, Prog.ok_eq_ok] at rest
    obtain ⟨_, db, ⟨rfl, rfl⟩, row', _, wrote, _, _, logged, rfl, rfl⟩ := rest
    have yields : input.Yields rules db tenantId existing none := by
      unfold UpdateEntityInput.Yields
      rw [bare]
    rw [if_pos given]
    exact ⟨_, _, .of_exec yields wrote logged⟩
  · next idle =>
    cases rest
    rw [if_neg idle]
    exact ⟨rfl, rfl⟩

theorem updateEntity_cases
    (ran : (updateEntity rules tenantId instanceId input supply).exec db = .ok (row, db')) :
    ∃ existing,
      db.entityInstances.find? (EntityInstance.isLive tenantId instanceId) = some existing ∧
      ((db' = db ∧ input.currentState = none) ∨ ∃ fields changed workflowId,
        Edited rules tenantId input supply existing row db db' fields changed workflowId) := by
  cases provided : input.fields with
  | some fields =>
    obtain ⟨existing, fields, changed, workflowId, found, -, edited⟩ :=
      updateEntity_provided provided ran
    exact ⟨existing, found, .inr ⟨some fields, changed, workflowId, edited⟩⟩
  | none =>
    obtain ⟨existing, found, done⟩ := updateEntity_bare provided ran
    refine ⟨existing, found, ?_⟩
    split at done
    · obtain ⟨changed, workflowId, edited⟩ := done
      exact .inr ⟨_, _, _, edited⟩
    · next idle =>
      simp only [Bool.or_eq_true, not_or] at idle
      exact .inl ⟨done.2, not_isSome_iff_eq_none.mp idle.1.2⟩

/-! ## Writing the state of many records -/

/-- A record after the updates of the buckets that contain it. -/
def EntityInstance.throughBuckets (tenantId : Id) (now : Time) (buckets : List (String × List Id))
    (row : EntityInstance) : EntityInstance :=
  buckets.foldl (fun r bucket => if r.inBucket tenantId bucket.2 then r.enter bucket.1 now else r)
    row

def BulkContext.allMoves (ctx : BulkContext) (tenantId : Id) (rows : List EntityInstance)
    (buckets : List (String × List Id)) : List BulkMove :=
  buckets.flatMap fun bucket =>
    ctx.moves bucket.1 (rows.filter (EntityInstance.inBucket tenantId bucket.2))

/-- The events of a batch. -/
def bulkEvents (tenantId : Id) (moves : List BulkMove) (actorId : Option String)
    (supply : EntitySupply) : List WorkflowEvent :=
  moves.zipIdx.map fun (move, i) =>
    directSetEvent tenantId move.prior move.workflowId move.state actorId supply.startedAt
      (supply.id i)

theorem BulkContext.moves_bucket (ctx : BulkContext) (tenantId : Id) (state target : String)
    (now : Time) (ids bucket : List Id) (rows : List EntityInstance) :
    ctx.moves state ((rows.map fun r =>
        if r.inBucket tenantId bucket then r.enter target now else r).filter
      (EntityInstance.inBucket tenantId ids)) =
      ctx.moves state (rows.filter (EntityInstance.inBucket tenantId ids)) := by
  have chosen : (EntityInstance.inBucket tenantId ids ∘ fun r =>
      if r.inBucket tenantId bucket then r.enter target now else r) =
      EntityInstance.inBucket tenantId ids := by
    funext r
    by_cases moved : r.inBucket tenantId bucket = true <;> simp only [comp, moved] <;> rfl
  unfold BulkContext.moves
  rw [List.filter_map, chosen, filterMap_map]
  congr 1
  funext r
  by_cases moved : r.inBucket tenantId bucket = true <;> simp only [comp, moved] <;> rfl

theorem exec_bulkWrite_ok {ctx : BulkContext} {now : Time} {buckets : List (String × List Id)}
    {updatedIds : List Id} {moves : List BulkMove}
    (ran : (bulkWrite tenantId ctx now buckets).exec db = .ok ((updatedIds, moves), db')) :
    moves = ctx.allMoves tenantId db.entityInstances buckets ∧
      Effect db db'
        (db.entityInstances.map (EntityInstance.throughBuckets tenantId now buckets)) [] := by
  induction buckets generalizing db updatedIds moves with
  | nil =>
    cases ran
    refine ⟨rfl, ?_⟩
    have unchanged (rows : List EntityInstance) :
        rows.map (EntityInstance.throughBuckets tenantId now []) = rows := List.map_id _
    rw [unchanged]
    exact Effect.refl _
  | cons bucket rest ih =>
    obtain ⟨state, ids⟩ := bucket
    simp only [bulkWrite, Prog.exec_seq_ok, Table.exec_update, Table.exec_filter, Prog.exec_pure,
      Prog.ok_eq_ok] at ran
    obtain ⟨_, _, ⟨-, rfl⟩, rows, mid, ⟨rfl, rfl⟩, ⟨laterIds, later⟩, last, others, ⟨rfl, rfl⟩, rfl⟩ :=
      ran
    obtain ⟨rfl, effect⟩ := ih others
    have first := effect_modifyInstances (EntityInstance.inBucket tenantId ids)
      (EntityInstance.enter state now) db
    refine ⟨?_, ?_⟩
    · rw [Table.rows_modify]
      simp only [BulkContext.allMoves, flatMap_cons, first.instances, ctx.moves_bucket]
      rfl
    · have both := first.trans effect
      rw [first.instances, List.map_map] at both
      exact both

/-- What a batch reads before it writes. -/
def Db.bulkContext (db : Db) (tenantId : Id) (items : List BulkItem) : BulkContext :=
  let found := db.entityInstances.filter fun row =>
    (items.map (·.id)).contains row.id && row.tenantId == tenantId && row.deletedAt == none
  { found
    childIds := (db.entityRelations.filter (EntityRelation.isActive tenantId .childOf)).map
      (·.fromInstanceId)
    stateNames := db.stateNames tenantId
    lockedIds := db.lockedWorkflowIds tenantId (found.filterMap (·.workflowId)) }

/-- The items of a batch that are not refused. -/
def Db.bulkAccepted (db : Db) (tenantId : Id) (items : List BulkItem) : List BulkItem :=
  (db.bulkContext tenantId items).accepted items

/-- The buckets of a batch. -/
def Db.bulkBuckets (db : Db) (tenantId : Id) (items : List BulkItem) : List (String × List Id) :=
  groupByState (db.bulkAccepted tenantId items)

def Db.bulkMoves (db : Db) (tenantId : Id) (items : List BulkItem) : List BulkMove :=
  (db.bulkContext tenantId items).allMoves tenantId db.entityInstances
    (db.bulkBuckets tenantId items)

theorem exec_loadBulkContext (tenantId : Id) (items : List BulkItem) (db : Db) :
    (loadBulkContext tenantId items).exec db = .ok (db.bulkContext tenantId items, db) := rfl

theorem bulkSetState_cases {result : BulkSetStateResult}
    (ran : (bulkSetState tenantId items actorId supply).exec db = .ok (result, db')) :
    Effect db db'
      (db.entityInstances.map
        (EntityInstance.throughBuckets tenantId supply.now (db.bulkBuckets tenantId items)))
      (bulkEvents tenantId (db.bulkMoves tenantId items) actorId supply) := by
  unfold bulkSetState at ran
  simp only [Prog.exec_seq_ok, exec_loadBulkContext, Table.exec_insert_ok, Prog.exec_pure,
    Prog.ok_eq_ok] at ran
  obtain ⟨_, db, ⟨rfl, rfl⟩, ⟨updatedIds, moves⟩, written, wrote, _, _, ⟨-, rfl⟩, _, announced,
    outbox, -, rfl⟩ := ran
  obtain ⟨rfl, effect⟩ := exec_bulkWrite_ok wrote
  have logged := effect.log (effect_appendEvents
    (bulkEvents tenantId (db.bulkMoves tenantId items) actorId supply) written)
  refine logged.quiet (exec_insertOutbox_ok outbox fun row mem => ?_)
  rcases List.mem_map.mp mem with ⟨_, -, rfl⟩
  rfl

theorem Db.accepted_of_bucket {ids : List Id} {id : Id}
    (bucket : (state, ids) ∈ db.bulkBuckets tenantId items) (mem : id ∈ ids) :
    ⟨id, state⟩ ∈ db.bulkAccepted tenantId items := by
  unfold Db.bulkBuckets groupByState at bucket
  rcases List.mem_map.mp bucket with ⟨_, -, eq⟩
  cases eq
  rcases List.mem_map.mp mem with ⟨item, chosen, rfl⟩
  obtain ⟨accepted, same⟩ := mem_filter.mp chosen
  cases eq_of_beq same
  exact accepted

theorem Db.mayWrite_of_accepted (accepted : item ∈ db.bulkAccepted tenantId items) :
    ∃ prior, (db.bulkContext tenantId items).prior item.id = some prior ∧
      db.MayWrite tenantId prior.workflowId item.state
        ((db.bulkContext tenantId items).childIds.contains item.id) := by
  have clear := (mem_filter.mp accepted).2
  unfold BulkContext.refusal at clear
  cases found : (db.bulkContext tenantId items).prior item.id with
  | none => simp [found] at clear
  | some prior =>
    refine ⟨prior, rfl, ?_⟩
    unfold Db.MayWrite
    simp only [found] at clear
    by_cases child : (db.bulkContext tenantId items).childIds.contains item.id = true
    · simp only [child, if_true] at clear ⊢
      by_cases listed : item.state ∈ childTicketStates
      · exact listed
      · simp [listed] at clear
    · simp only [child, Bool.false_eq_true, if_false] at clear ⊢
      intro workflowId attached
      simp only [attached, any_some] at clear
      split at clear
      · cases clear
      · have named : item.state ∈ (db.bulkContext tenantId items).stateNames workflowId := by
          simpa using clear
        exact named

theorem Db.lockAllows_of_accepted (accepted : item ∈ db.bulkAccepted tenantId items)
    (found : (db.bulkContext tenantId items).prior item.id = some prior) :
    db.LockAllows tenantId prior.workflowId prior.currentState item.state := by
  intro id attached
  refine or_iff_not_imp_left.mpr fun moves => or_iff_not_imp_left.mpr fun named => ?_
  have memFound : prior ∈ (db.bulkContext tenantId items).found := mem_of_find?_eq_some found
  have clear := (mem_filter.mp accepted).2
  unfold BulkContext.refusal at clear
  have states : ((db.bulkContext tenantId items).stateNames id).contains item.state :=
    contains_iff_mem.mpr (not_not.mp named)
  have different : (item.state != prior.currentState) := bne_iff_ne.mpr moves
  simp only [found, attached, any_some, different, states, Bool.and_true, isSome_some,
    Bool.true_and, Bool.not_true, Bool.false_eq_true, if_false] at clear
  have unlisted : (db.bulkContext tenantId items).lockedIds.contains id = false := by
    refine Bool.eq_false_iff.mpr fun locked => ?_
    rw [locked] at clear
    simp only [if_true] at clear
    split at clear
    next => split at clear <;> cases clear
    next => cases clear
  refine Db.isStateWriteLocked_eq_false.mpr ?_
  rintro workflow mem own rfl
  refine Bool.eq_false_iff.mpr fun locked => ?_
  refine absurd (List.mem_map.mpr ⟨workflow, mem_filter.mpr ⟨mem, ?_⟩, rfl⟩)
    (fun listed => Bool.eq_false_iff.mp unlisted (contains_iff_mem.mpr listed))
  have among : workflow.id ∈ (db.bulkContext tenantId items).found.filterMap (·.workflowId) :=
    mem_filterMap.mpr ⟨prior, memFound, attached⟩
  simp only [own, beq_self_eq_true, locked, Bool.and_true, Bool.true_and]
  exact contains_iff_mem.mpr among

/-! ## Creating many records -/

/-- The input passes the checks of a creation. -/
def Db.accepts (db : Db) (rules : FieldRules) (tenantId : Id) (supply : EntitySupply)
    (input : CreateEntityInput) : Bool :=
  (db.checkCreate rules tenantId input (some (input.severity.getD defaultTicketSeverity))
    supply.now).isOk

theorem bulkCreateRow_ok {input : CreateEntityInput}
    (built : bulkCreateRow rules db tenantId input supply index = .ok row) :
    db.accepts rules tenantId supply input ∧ row.workflowId = input.workflowId ∧
      row.tenantId = tenantId ∧ row.deletedAt = none ∧
      row.currentState = db.resolveInitialState tenantId row.workflowId := by
  unfold bulkCreateRow at built
  unfold Db.accepts
  cases checked : db.checkCreate rules tenantId input
      (some (input.severity.getD defaultTicketSeverity)) supply.now with
  | error e => simp [checked, bind, Except.bind] at built
  | ok fields =>
    simp only [checked, bind, Except.bind, pure, Except.pure, Except.ok.injEq] at built
    subst built
    exact ⟨rfl, rfl, rfl, rfl, rfl⟩

theorem bulkCreateRow_error {input : CreateEntityInput} {e : TxError}
    (failed : bulkCreateRow rules db tenantId input supply index = .error e) :
    db.accepts rules tenantId supply input = false := by
  unfold bulkCreateRow at failed
  unfold Db.accepts
  cases checked : db.checkCreate rules tenantId input
      (some (input.severity.getD defaultTicketSeverity)) supply.now with
  | error e => rfl
  | ok fields => simp [checked, bind, Except.bind, pure, Except.pure] at failed

theorem bulkCreateRows_ok {rows : List (EntityInstance × CreateEntityInput)}
    (built : bulkCreateRows rules db tenantId supply inputs = .ok (rows, errors)) :
    (rows.map (·.1)).map (·.workflowId) =
        ((inputs.map (·.1)).filter (db.accepts rules tenantId supply)).map (·.workflowId) ∧
      ∀ row ∈ rows.map (·.1), row.tenantId = tenantId ∧ row.deletedAt = none ∧
        row.currentState = db.resolveInitialState tenantId row.workflowId := by
  induction inputs generalizing rows errors with
  | nil => cases built; exact ⟨rfl, fun _ mem => absurd mem not_mem_nil⟩
  | cons head rest ih =>
    obtain ⟨input, index⟩ := head
    unfold bulkCreateRows at built
    cases head : bulkCreateRow rules db tenantId input supply index with
    | ok row =>
      cases tail : bulkCreateRows rules db tenantId supply rest with
      | error e => simp [head, tail, bind, Except.bind] at built
      | ok later =>
        simp only [head, tail, bind, Except.bind, pure, Except.pure, Except.ok.injEq,
          Prod.mk.injEq] at built
        obtain ⟨rfl, -⟩ := built
        obtain ⟨accepted, same, made⟩ := bulkCreateRow_ok head
        obtain ⟨workflows, others⟩ := ih tail
        rw [map_cons, map_cons, map_cons, filter_cons_of_pos (by exact accepted),
          map_cons, forall_mem_cons, workflows, same]
        exact ⟨rfl, same ▸ made, others⟩
    | error e =>
      have refused := bulkCreateRow_error head
      rw [map_cons, filter_cons_of_neg (by simp [refused])]
      cases e with
      | validation fields =>
        cases tail : bulkCreateRows rules db tenantId supply rest with
        | error e => simp [head, tail, bind, Except.bind] at built
        | ok later =>
          simp only [head, tail, bind, Except.bind, pure, Except.pure, Except.ok.injEq,
            Prod.mk.injEq] at built
          obtain ⟨rfl, -⟩ := built
          exact ih tail
      | workflow | entity | unique | foreignKey | route | library | unfinished =>
        simp [head] at built

theorem bulkCreateRows_mem {rows : List (EntityInstance × CreateEntityInput)}
    (built : bulkCreateRows rules db tenantId supply inputs = .ok (rows, errors)) :
    ∀ row ∈ rows.map (·.1), ∃ input ∈ inputs,
      bulkCreateRow rules db tenantId input.1 supply input.2 = .ok row := by
  induction inputs generalizing rows errors with
  | nil => cases built; exact fun _ mem => absurd mem not_mem_nil
  | cons head rest ih =>
    obtain ⟨input, index⟩ := head
    unfold bulkCreateRows at built
    split at built
    next row accepted =>
      cases tail : bulkCreateRows rules db tenantId supply rest with
      | error e => simp [tail, bind, Except.bind] at built
      | ok later =>
        simp only [tail, bind, Except.bind, pure, Except.pure, Except.ok.injEq,
          Prod.mk.injEq] at built
        obtain ⟨rfl, -⟩ := built
        rw [map_cons, forall_mem_cons]
        refine ⟨⟨_, mem_cons_self, accepted⟩, fun row mem => ?_⟩
        obtain ⟨input, memInput, made⟩ := ih tail row mem
        exact ⟨input, mem_cons_of_mem _ memInput, made⟩
    next =>
      cases tail : bulkCreateRows rules db tenantId supply rest with
      | error e => simp [tail, bind, Except.bind] at built
      | ok later =>
        simp only [tail, bind, Except.bind, pure, Except.pure, Except.ok.injEq,
          Prod.mk.injEq] at built
        obtain ⟨rfl, -⟩ := built
        intro row mem
        obtain ⟨input, memInput, made⟩ := ih tail row mem
        exact ⟨input, mem_cons_of_mem _ memInput, made⟩
    next => cases built

theorem exec_scheduleDueDates_ok {rows : List (EntityInstance × Nat)}
    (ran : (scheduleDueDates tenantId supply rows).exec db = .ok (u, db')) : Quiet db db' := by
  induction rows generalizing db with
  | nil => cases ran; exact Effect.refl _
  | cons head rest ih =>
    simp only [scheduleDueDates, Prog.exec_seq_ok] at ran
    obtain ⟨_, mid, first, others⟩ := ran
    exact (exec_rescheduleDueDate_ok first).quiet (ih others)

theorem bulkCreateEntities_cases {inputs : List CreateEntityInput} {result : BulkCreateResult}
    (ran : (bulkCreateEntities rules tenantId inputs supply).exec db = .ok (result, db')) :
    (result.created.map (·.workflowId) =
        (inputs.filter (db.accepts rules tenantId supply)).map (·.workflowId) ∧
      ∀ row ∈ result.created, row.tenantId = tenantId ∧ row.deletedAt = none ∧
        row.currentState = db.resolveInitialState tenantId row.workflowId) ∧
      (∀ row ∈ result.created, ∃ input ∈ inputs, ∃ index,
        bulkCreateRow rules db tenantId input supply index = .ok row) ∧
      db.Unused result.created ∧ Effect db db' (db.entityInstances ++ result.created) [] := by
  unfold bulkCreateEntities at ran
  simp only [Prog.exec_seq_ok, Prog.exec_read, exec_lift_ok, Table.exec_insert_ok, Prog.exec_pure,
    Prog.ok_eq_ok] at ran
  obtain ⟨_, db, ⟨rfl, rfl⟩, ⟨rows, errors⟩, db, ⟨checked, rfl⟩, _, _, ⟨fresh, rfl⟩, _, _,
    ⟨rfl, rfl⟩, _, announced, outbox, _, scheduled, dueDates, rfl, rfl⟩ := ran
  have made := bulkCreateRows_ok checked
  have indexed : inputs.zipIdx.map (·.1) = inputs := zipIdx_map_fst 0 inputs
  rw [indexed] at made
  have built : ∀ row ∈ rows.map (·.1), ∃ input ∈ inputs, ∃ index,
      bulkCreateRow rules db tenantId input supply index = .ok row := by
    intro row mem
    obtain ⟨⟨input, index⟩, memInput, accepted⟩ := bulkCreateRows_mem checked row mem
    exact ⟨input, indexed ▸ List.mem_map_of_mem memInput, index, accepted⟩
  refine ⟨made, built, Db.unused_of_fresh fresh, ?_⟩
  have appended := effect_appendInstances (rows.map (·.1)) db
  have announces := appended.quiet (exec_insertOutbox_ok outbox fun row mem => by
    rcases mem_flatMap.mp mem with ⟨_, -, inner⟩
    exact creationOutbox_timer inner)
  exact announces.quiet (exec_scheduleDueDates_ok dueDates)

end OpenWind
