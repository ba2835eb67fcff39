import OpenWind.Entity.Calls
import OpenWind.Lib.Chain

/-!
# The state-change log of a record

Every event that changes a record's state should start in the state that the
previous one ended in, and the last should end in the state that is stored.
-/

open List Option

namespace OpenWind

open Txn Chain EntityInstance RecordCall

/-! ## The moves of a record -/

def WorkflowEvent.changesState (event : WorkflowEvent) : Bool :=
  event.fromState != some event.toState

/-- The moves of a record, in the order of the log. -/
def stateMoves (id : Id) (events : List WorkflowEvent) : List (Move String) :=
  (events.filter fun e => e.instanceId == id && e.changesState).map fun e =>
    (e.fromState, e.toState)

def Db.LogsUnbroken (db : Db) : Prop :=
  ∀ row ∈ db.entityInstances, row.workflowId.isSome →
    Unbroken (stateMoves row.id db.workflowEvents) row.currentState

structure Db.Referential (db : Db) : Prop where
  keyed : db.Keyed
  referenced : ∀ e ∈ db.workflowEvents, ∃ row ∈ db.entityInstances, row.id = e.instanceId

@[simp] theorem stateMoves_append (id : Id) (first second : List WorkflowEvent) :
    stateMoves id (first ++ second) = stateMoves id first ++ stateMoves id second := by
  simp [stateMoves]

variable {id instanceId tenantId : Id} {events : List WorkflowEvent} {db db' : Db}
  {f : EntityInstance → EntityInstance} {fresh rows : List EntityInstance} {state : String}
  {existing row : EntityInstance} {supply : EntitySupply} {changed : Fields} {rules : FieldRules}
  {ctx : BulkContext} {items : List BulkItem} {actorId : Option String} {result : EventResult}

theorem stateMoves_eq_nil (none : ∀ e ∈ events, e.instanceId ≠ id) : stateMoves id events = [] := by
  have empty : events.filter (fun e => e.instanceId == id && e.changesState) = [] := by
    refine filter_eq_nil_iff.mpr fun e mem => ?_
    simp [none e mem]
  rw [stateMoves, empty]
  rfl

theorem stateMoves_singleton {event : WorkflowEvent} (about : event.instanceId = id) :
    stateMoves id [event] =
      if event.fromState = some event.toState then [] else [(event.fromState, event.toState)] := by
  unfold stateMoves WorkflowEvent.changesState
  by_cases kept : event.fromState = some event.toState <;> simp [about, kept]

/-! ## What a call logs -/

structure Logs (db db' : Db) (f : EntityInstance → EntityInstance) (fresh : List EntityInstance)
    (events : List WorkflowEvent) : Prop where
  evolves : Evolves db db' f fresh
  log : db'.workflowEvents = db.workflowEvents ++ events
  about : ∀ e ∈ events, ∃ row ∈ db.entityInstances ++ fresh, row.id = e.instanceId
  created : ∀ row ∈ fresh, row.workflowId.isSome →
    Unbroken (stateMoves row.id events) row.currentState
  sources : ∀ row ∈ db.entityInstances, row.workflowId.isSome →
    ∀ move ∈ stateMoves row.id events, move.1 = some row.currentState
  silent : ∀ row ∈ db.entityInstances, row.workflowId.isSome → stateMoves row.id events = [] →
    (f row).currentState = row.currentState

def LeadsOn (db : Db) (f : EntityInstance → EntityInstance) (events : List WorkflowEvent) : Prop :=
  ∀ row ∈ db.entityInstances, row.workflowId.isSome →
    Leads (some row.currentState) (stateMoves row.id events) (some (f row).currentState)

theorem Logs.referential (logs : Logs db db' f fresh events) (sound : db.Referential) :
    db'.Referential := by
  refine ⟨logs.evolves.keyed sound.keyed, fun e mem => ?_⟩
  have named : ∃ row ∈ db.entityInstances ++ fresh, row.id = e.instanceId := by
    rw [logs.log] at mem
    rcases mem_append.mp mem with old | new
    · obtain ⟨row, memRow, same⟩ := sound.referenced e old
      exact ⟨row, mem_append_left _ memRow, same⟩
    · exact logs.about e new
  obtain ⟨row, memRow, same⟩ := named
  rcases mem_append.mp memRow with old | new
  · exact ⟨f row, logs.evolves.kept old, (logs.evolves.same row).id.trans same⟩
  · refine ⟨row, ?_, same⟩
    rw [logs.evolves.instances]
    exact mem_append_right _ new

theorem Logs.unbroken_iff (logs : Logs db db' f fresh events) (sound : db.Referential)
    (before : db.LogsUnbroken) : db'.LogsUnbroken ↔ LeadsOn db f events := by
  constructor
  · intro after row mem attached
    have kept := after (f row) (logs.evolves.kept mem)
      ((logs.evolves.same row).workflowId ▸ attached)
    rw [(logs.evolves.same row).id, logs.log, stateMoves_append] at kept
    refine kept.leads_on (fun move head => ?_) (logs.silent row mem attached)
    exact logs.sources row mem attached move (mem_of_mem_head? head)
  · intro leads row' mem' attached
    rw [logs.log, stateMoves_append]
    rcases logs.evolves.mem mem' with ⟨row, mem, rfl⟩ | new
    · have attachedBefore : row.workflowId.isSome :=
        (logs.evolves.same row).workflowId ▸ attached
      rw [(logs.evolves.same row).id]
      exact (before row mem attachedBefore).append (leads row mem attachedBefore)
    · have unlogged : stateMoves row'.id db.workflowEvents = [] := by
        refine stateMoves_eq_nil fun e memE same => ?_
        obtain ⟨row, mem, named⟩ := sound.referenced e memE
        exact logs.evolves.unused.2 row' new row mem (named.trans same)
      rw [unlogged]
      exact logs.created row' new attached

/-! ## Writers of one record -/

def LogsOne (target : EntityInstance) (state : String) (events : List WorkflowEvent) : Prop :=
  (events = [] ∧ (target.workflowId.isSome → state = target.currentState)) ∨
    ∃ e, events = [e] ∧ e.instanceId = target.id ∧ e.fromState = some target.currentState ∧
      e.toState = state

theorem LogsOne.about {target : EntityInstance} {state : String} {events : List WorkflowEvent}
    (one : LogsOne target state events) : ∀ e ∈ events, e.instanceId = target.id := by
  rcases one with ⟨rfl, -⟩ | ⟨event, rfl, about, -, -⟩
  · exact fun _ mem => absurd mem not_mem_nil
  · intro e mem
    rw [mem_singleton.mp mem]
    exact about

theorem LogsOne.moves {target : EntityInstance} (one : LogsOne target state events)
    (attached : target.workflowId.isSome) :
    stateMoves target.id events = snapshotMoves target.currentState [state] := by
  rcases one with ⟨rfl, kept⟩ | ⟨event, rfl, about, source, ends⟩
  · rw [kept attached]
    simp [stateMoves, snapshotMoves]
  · rw [stateMoves_singleton about, source, ends, snapshotMoves_cons]
    by_cases same : state = target.currentState
    · simp [same, snapshotMoves]
    · have moved : target.currentState ≠ state := fun eq => same eq.symm
      simp [same, moved, snapshotMoves]

theorem Logs.of_write {db db' : Db} {f : EntityInstance → EntityInstance}
    {events : List WorkflowEvent} {target : EntityInstance} (keyed : db.Keyed)
    (mem : target ∈ db.entityInstances) (evolves : Evolves db db' f [])
    (log : db'.workflowEvents = db.workflowEvents ++ events)
    (others : ∀ row, row.id ≠ target.id → (f row).currentState = row.currentState)
    (one : LogsOne target (f target).currentState events) :
    Logs db db' f [] events ∧ LeadsOn db f events := by
  -- another record has no moves and keeps its state
  have moves : ∀ row ∈ db.entityInstances, row.workflowId.isSome →
      stateMoves row.id events = snapshotMoves row.currentState [(f row).currentState] := by
    intro row memRow attached
    by_cases same : row.id = target.id
    · obtain rfl := keyed.eq memRow mem same
      exact one.moves attached
    · rw [stateMoves_eq_nil fun e memE about => same (about.symm.trans (one.about e memE)),
        others row same]
      simp [snapshotMoves]
  refine ⟨⟨evolves, log, fun e memE => ⟨target, ?_, (one.about e memE).symm⟩,
    fun _ memNil => absurd memNil not_mem_nil, ?_, ?_⟩, ?_⟩
  · exact mem_append_left _ mem
  · intro row memRow attached move memMove
    rw [moves row memRow attached] at memMove
    exact snapshotMoves_source memMove
  · intro row memRow attached empty
    rw [moves row memRow attached, snapshotMoves_cons] at empty
    by_contra moved
    rw [if_neg moved] at empty
    cases empty
  · intro row memRow attached
    rw [moves row memRow attached]
    exact (leads_snapshotMoves_iff (nodup_singleton _)).mpr (pairwise_singleton _ _)

/-! ## The calls -/

theorem EntityInstance.found {tenantId instanceId : Id} {rows : List EntityInstance}
    {row : EntityInstance} (found : rows.find? (isOf tenantId instanceId) = some row) :
    row ∈ rows ∧ row.isOf tenantId row.id := by
  have selected := find?_some found
  have named : row.id = instanceId := eq_of_beq (Bool.and_eq_true_iff.mp selected).1
  exact ⟨mem_of_find?_eq_some found, named ▸ selected⟩

theorem EntityInstance.foundLive (found : rows.find? (isLive tenantId instanceId) = some row) :
    row ∈ rows ∧ row.id = instanceId ∧ row.isOf tenantId row.id := by
  have live := find?_some found
  have named : row.id = instanceId := id_of_isLive live
  exact ⟨mem_of_find?_eq_some found, named, named ▸ isOf_of_isLive live⟩

theorem Logs.of_update {db db' : Db} {g : EntityInstance → EntityInstance} {tenantId : Id}
    {events : List WorkflowEvent} {target : EntityInstance} (keyed : db.Keyed)
    (mem : target ∈ db.entityInstances) (selected : target.isOf tenantId target.id)
    (same : ∀ row, SameRecord row (g row))
    (instances : db'.entityInstances = db.entityInstances.map fun row =>
      if isOf tenantId target.id row then g row else row)
    (log : db'.workflowEvents = db.workflowEvents ++ events)
    (one : LogsOne target (g target).currentState events) :
    ∃ f fresh, Logs db db' f fresh events ∧ LeadsOn db f events := by
  refine ⟨_, [], @Logs.of_write _ _ _ _ target keyed mem
    (Evolves.of_map instances fun row => SameRecord.ite same _ row) log ?_ ?_⟩
  · intro row other
    have unselected : isOf tenantId target.id row = false := by
      simp [isOf, other]
    rw [unselected]
    rfl
  · rw [selected]
    exact one

theorem LogsOne.change (db : Db) (tenantId : Id) (instance_ : LockedInstance)
    (change : StateChange) (supply : Supply) :
    LogsOne instance_.row (instance_.row.enter change.toState supply.now).currentState
      [db.changeEvent tenantId instance_ change supply] :=
  .inr ⟨_, rfl, rfl, rfl, rfl⟩

theorem Logs.of_changeState {instance_ : LockedInstance} {change : StateChange} {supply : Supply}
    (keyed : db.Keyed) (mem : instance_.row ∈ db.entityInstances)
    (selected : instance_.row.isOf tenantId instance_.row.id) :
    ∃ f fresh events, Logs db (db.changeState tenantId instance_ change supply) f fresh events ∧
      LeadsOn db f events := by
  obtain ⟨f, fresh, both⟩ := @Logs.of_update _
    (db.changeState tenantId instance_ change supply) _ _ _ _ keyed mem selected
    (.enter change.toState supply.now) rfl rfl (.change db tenantId instance_ change supply)
  exact ⟨f, fresh, _, both⟩

theorem LogsOne.directSet (tenantId : Id) (prior : EntityInstance) (state : String)
    (actorId : Option String) (createdAt : Time) (eventId : Id) :
    LogsOne prior state (directSetEvents tenantId prior state actorId createdAt eventId) := by
  unfold directSetEvents loggedWorkflow
  by_cases same : (prior.currentState == state) = true
  · exact .inl ⟨by simp [same], fun _ => (eq_of_beq same).symm⟩
  · cases attached : prior.workflowId with
    | none =>
      refine .inl ⟨by simp, fun isSome => ?_⟩
      rw [attached] at isSome
      cases isSome
    | some workflowId =>
      rw [if_neg same]
      exact .inr ⟨_, rfl, rfl, rfl, rfl⟩

theorem withRowChanges_ne_nil (moved : row.currentState ≠ existing.currentState) :
    (withRowChanges existing row changed).isEmpty = false := by
  unfold withRowChanges
  have different : (existing.currentState == row.currentState) = false := by
    simpa using fun eq => moved eq.symm
  simp only [different, Bool.false_eq_true, if_false, isEmpty_eq_false_iff]
  exact Fields.set_ne_nil _ _ _

theorem LogsOne.edit {input : UpdateEntityInput} {fields : Option Fields} {workflowId : Option Id}
    (edited : Edited rules tenantId input supply existing row db db' fields changed workflowId) :
    LogsOne existing (input.apply fields supply.now existing).currentState
      (updateEvents tenantId workflowId existing row changed input supply) := by
  rw [← edited.row_eq]
  unfold updateEvents
  by_cases quiet : (withRowChanges existing row changed).isEmpty = true
  · refine .inl ⟨by simp [quiet], fun _ => ?_⟩
    by_contra moved
    rw [withRowChanges_ne_nil moved] at quiet
    cases quiet
  · cases effective : workflowId with
    | none =>
      refine .inl ⟨by simp, fun attached => ?_⟩
      rw [← edited.logged attached, effective] at attached
      cases attached
    | some id =>
      simp only [quiet]
      exact .inr ⟨_, rfl, rfl, rfl, rfl⟩

/-! ## Batches -/

/-- The target states of the buckets that contain a record. -/
def EntityInstance.visits (tenantId : Id) (buckets : List (String × List Id))
    (row : EntityInstance) : List String :=
  (buckets.filter fun bucket => row.inBucket tenantId bucket.2).map (·.1)

theorem EntityInstance.throughBuckets_state (tenantId : Id) (now : Time)
    (buckets : List (String × List Id)) (row : EntityInstance) :
    (row.throughBuckets tenantId now buckets).currentState =
      (row.visits tenantId buckets).getLast?.getD row.currentState := by
  induction buckets generalizing row with
  | nil => rfl
  | cons bucket rest ih =>
    have later := ih (if row.inBucket tenantId bucket.2 then row.enter bucket.1 now else row)
    unfold EntityInstance.visits at later ⊢
    unfold throughBuckets at later ⊢
    rw [foldl_cons, later, filter_cons]
    by_cases listed : row.inBucket tenantId bucket.2 = true
    · simp only [listed, if_true, map_cons]
      have others : (rest.filter fun b => (row.enter bucket.1 now).inBucket tenantId b.2) =
          rest.filter fun b => row.inBucket tenantId b.2 := rfl
      rw [others]
      cases visited : (rest.filter fun b => row.inBucket tenantId b.2).map (·.1) with
      | nil => rfl
      | cons state states =>
        rw [getLast?_cons_cons, getLast?_eq_some_getLast (cons_ne_nil _ _)]
        rfl
    · simp only [listed]
      rfl

theorem stateMoves_bulkEvents (id : Id) (tenantId : Id) (moves : List BulkMove)
    (actorId : Option String) (supply : EntitySupply) :
    stateMoves id (bulkEvents tenantId moves actorId supply) =
      (moves.filter fun m => m.prior.currentState != m.state && m.prior.id == id).map fun m =>
        (some m.prior.currentState, m.state) := by
  have numbered : moves = moves.zipIdx.map (·.1) := by simp
  conv_rhs => rw [numbered]
  unfold stateMoves bulkEvents
  rw [List.filter_map, List.filter_map, List.map_map, List.map_map]
  have kept : ((fun e : WorkflowEvent => e.instanceId == id && e.changesState) ∘
      fun entry : BulkMove × Nat =>
        directSetEvent tenantId entry.1.prior entry.1.workflowId entry.1.state actorId
          supply.startedAt (supply.id entry.2)) =
      (fun m : BulkMove => m.prior.currentState != m.state && m.prior.id == id) ∘ (·.1) := by
    funext entry
    simp [directSetEvent, WorkflowEvent.changesState, bne, Bool.and_comm]
  rw [kept]
  rfl

theorem BulkContext.move_id {move : BulkMove} (made : ctx.move state row = some move) :
    move.prior.id = row.id := by
  unfold BulkContext.move at made
  obtain ⟨prior, found, logged⟩ := bind_eq_some_iff.mp made
  obtain ⟨workflowId, -, rfl⟩ := map_eq_some_iff.mp logged
  have named := find?_some (show ctx.found.find? (fun r => r.id == row.id) = some prior from found)
  exact eq_of_beq named

theorem BulkContext.moves_filter_id (ctx : BulkContext) (state : String)
    (rows : List EntityInstance) (id : Id) :
    (ctx.moves state rows).filter (fun m => m.prior.id == id) =
      ctx.moves state (rows.filter fun r => r.id == id) := by
  unfold BulkContext.moves
  induction rows with
  | nil => rfl
  | cons row rest ih =>
    rw [filterMap_cons, filter_cons]
    cases made : ctx.move state row with
    | none =>
      by_cases same : (row.id == id) = true
      · rw [if_pos same, filterMap_cons, made, ih]
      · rw [if_neg same, ih]
    | some move =>
      have about := BulkContext.move_id made
      rw [filter_cons, about, ih]
      by_cases same : (row.id == id) = true
      · rw [if_pos same, if_pos same, filterMap_cons, made]
      · rw [if_neg same, if_neg same]

theorem BulkContext.moves_about {ids : List Id}
    (only : rows.filter (fun r => r.id == row.id) = [row])
    (read : row.inBucket tenantId ids → ctx.prior row.id = some row)
    (attached : row.workflowId.isSome) :
    ((ctx.moves state (rows.filter (EntityInstance.inBucket tenantId ids))).filter fun m =>
        m.prior.currentState != m.state && m.prior.id == row.id).map
        (fun m => (some m.prior.currentState, m.state)) =
      if row.inBucket tenantId ids then snapshotMoves row.currentState [state] else [] := by
  obtain ⟨workflowId, own⟩ := isSome_iff_exists.mp attached
  have swap : (rows.filter (EntityInstance.inBucket tenantId ids)).filter (fun r => r.id == row.id) =
      (rows.filter fun r => r.id == row.id).filter (EntityInstance.inBucket tenantId ids) := by
    simp only [List.filter_filter, Bool.and_comm]
  rw [← List.filter_filter, ctx.moves_filter_id, swap, only]
  by_cases listed : row.inBucket tenantId ids = true
  · have made : ctx.move state row = (row.loggedWorkflow state).map fun workflowId =>
        (⟨row, workflowId, state⟩ : BulkMove) := by
      rw [BulkContext.move, read listed]
      rfl
    rw [filter_cons_of_pos listed, if_pos listed, filter_nil, BulkContext.moves,
      filterMap_cons, made, loggedWorkflow, own]
    by_cases same : row.currentState = state
    · simp [same, snapshotMoves]
    · have moved : state ≠ row.currentState := fun eq => same eq.symm
      simp [same, moved, snapshotMoves]
  · rw [filter_cons_of_neg listed, if_neg listed]
    rfl

theorem BulkContext.stateMoves_batch {buckets : List (String × List Id)}
    (only : rows.filter (fun r => r.id == row.id) = [row])
    (read : ∀ bucket ∈ buckets, row.inBucket tenantId bucket.2 → ctx.prior row.id = some row)
    (attached : row.workflowId.isSome) (actorId : Option String) (supply : EntitySupply) :
    stateMoves row.id (bulkEvents tenantId (ctx.allMoves tenantId rows buckets) actorId supply) =
      snapshotMoves row.currentState (row.visits tenantId buckets) := by
  rw [stateMoves_bulkEvents]
  induction buckets with
  | nil => rfl
  | cons bucket rest ih =>
    obtain ⟨head, tail⟩ := forall_mem_cons.mp read
    have later := ih tail
    unfold BulkContext.allMoves EntityInstance.visits at later ⊢
    rw [flatMap_cons, filter_append, map_append, later, ctx.moves_about only head attached]
    by_cases listed : row.inBucket tenantId bucket.2 = true
    · rw [if_pos listed, filter_cons_of_pos (by exact listed), map_cons,
        ← snapshotMoves_append]
      rfl
    · rw [if_neg listed, filter_cons_of_neg (by exact listed)]
      rfl

theorem statesInOrder_nodup (items : List BulkItem) : (statesInOrder items).Nodup := by
  unfold statesInOrder
  suffices extended : ∀ states : List String, states.Nodup → (items.foldl (fun states item =>
      if states.contains item.state then states else states ++ [item.state]) states).Nodup from
    extended [] nodup_nil
  induction items with
  | nil => exact fun _ nodup => nodup
  | cons item rest ih =>
    intro states nodup
    rw [foldl_cons]
    by_cases seen : states.contains item.state = true
    · rw [if_pos seen]
      exact ih states nodup
    · rw [if_neg seen]
      refine ih _ (List.nodup_append.mpr ⟨nodup, nodup_singleton _, fun a mem b new eq => ?_⟩)
      rw [mem_singleton.mp new] at eq
      exact seen (contains_iff_mem.mpr (eq ▸ mem))

theorem EntityInstance.visits_groupByState (tenantId : Id) (items : List BulkItem)
    (row : EntityInstance) :
    row.visits tenantId (groupByState items) = (statesInOrder items).filter fun state =>
      row.inBucket tenantId ((items.filter fun item => item.state == state).map (·.id)) := by
  unfold EntityInstance.visits groupByState
  rw [List.filter_map, List.map_map]
  exact List.map_id _

theorem EntityInstance.inBucket_iff :
    row.inBucket tenantId ((items.filter fun item => item.state == state).map (·.id)) ↔
      ⟨row.id, state⟩ ∈ items ∧ row.tenantId = tenantId := by
  unfold EntityInstance.inBucket
  rw [Bool.and_eq_true, beq_iff_eq, contains_iff_mem, List.mem_map]
  refine and_congr_left fun _ =>
    ⟨fun ⟨item, chosen, same⟩ => ?_, fun mem => ⟨⟨row.id, state⟩, ?_, rfl⟩⟩
  · obtain ⟨mem, target⟩ := mem_filter.mp chosen
    cases eq_of_beq target
    exact same ▸ mem
  · exact mem_filter.mpr ⟨mem, beq_self_eq_true _⟩

theorem Db.prior_of_accepted {item : BulkItem} (keyed : db.Keyed) (mem : row ∈ db.entityInstances)
    (accepted : item ∈ db.bulkAccepted tenantId items) (named : row.id = item.id) :
    (db.bulkContext tenantId items).prior row.id = some row ∧
      row ∈ (db.bulkContext tenantId items).found := by
  obtain ⟨prior, found, -⟩ := Db.mayWrite_of_accepted accepted
  have lookup : (db.bulkContext tenantId items).found.find? (fun r => r.id == item.id) =
      some prior := found
  have memFound := mem_of_find?_eq_some lookup
  have about := find?_some lookup
  have same : prior = row :=
    keyed.eq (mem_filter.mp memFound).1 mem ((eq_of_beq about).trans named.symm)
  subst same
  exact ⟨named ▸ found, memFound⟩

def Db.BulkUnambiguous (db : Db) (tenantId : Id) (items : List BulkItem) : Prop :=
  ∀ row ∈ (db.bulkContext tenantId items).found, row.workflowId.isSome →
    (statesInOrder (db.bulkAccepted tenantId items)).Pairwise fun first later =>
      ⟨row.id, first⟩ ∈ db.bulkAccepted tenantId items →
        ⟨row.id, later⟩ ∈ db.bulkAccepted tenantId items → first = row.currentState

theorem Db.bulkUnambiguous_iff (keyed : db.Keyed) :
    db.BulkUnambiguous tenantId items ↔ ∀ row ∈ db.entityInstances, row.workflowId.isSome →
      (row.visits tenantId (db.bulkBuckets tenantId items)).Pairwise fun first _ =>
        first = row.currentState := by
  unfold Db.BulkUnambiguous Db.bulkBuckets
  constructor
  · intro clear row mem attached
    rw [visits_groupByState, pairwise_filter]
    by_cases read : row ∈ (db.bulkContext tenantId items).found
    · refine (clear row read attached).imp fun apart first later => ?_
      exact apart (inBucket_iff.mp first).1 (inBucket_iff.mp later).1
    · refine pairwise_of_forall fun first later listed _ => absurd ?_ read
      exact (Db.prior_of_accepted keyed mem (inBucket_iff.mp listed).1 rfl).2
  · intro settled row read attached
    obtain ⟨mem, live⟩ := mem_filter.mp read
    have own : row.tenantId = tenantId := by simp_all
    have visits := settled row mem attached
    rw [visits_groupByState, pairwise_filter] at visits
    refine visits.imp fun apart first later => ?_
    exact apart (inBucket_iff.mpr ⟨first, own⟩) (inBucket_iff.mpr ⟨later, own⟩)

theorem Logs.of_batch (keyed : db.Keyed) (effect : Effect db db'
      (db.entityInstances.map (throughBuckets tenantId supply.now (db.bulkBuckets tenantId items)))
      (bulkEvents tenantId (db.bulkMoves tenantId items) actorId supply)) :
    ∃ f fresh events, Logs db db' f fresh events ∧
      (LeadsOn db f events ↔ db.BulkUnambiguous tenantId items) := by
  have moves : ∀ row ∈ db.entityInstances, row.workflowId.isSome →
      stateMoves row.id (bulkEvents tenantId (db.bulkMoves tenantId items) actorId supply) =
        snapshotMoves row.currentState (row.visits tenantId (db.bulkBuckets tenantId items)) := by
    intro row mem attached
    refine BulkContext.stateMoves_batch (keyed.filter_id mem) (fun bucket listed inside => ?_)
      attached actorId supply
    have chosen : row.id ∈ bucket.2 :=
      contains_iff_mem.mp (Bool.and_eq_true_iff.mp inside).1
    exact (Db.prior_of_accepted keyed mem (Db.accepted_of_bucket listed chosen) rfl).1
  have ends : ∀ row : EntityInstance,
      (row.throughBuckets tenantId supply.now (db.bulkBuckets tenantId items)).currentState =
        (row.visits tenantId (db.bulkBuckets tenantId items)).getLast?.getD row.currentState :=
    throughBuckets_state tenantId supply.now _
  have evolves := Evolves.of_map effect.instances
    (SameRecord.throughBuckets tenantId supply.now (db.bulkBuckets tenantId items))
  refine ⟨_, [], _, ⟨evolves, effect.events, ?_, fun _ memNil => absurd memNil not_mem_nil, ?_,
    ?_⟩, ?_⟩
  · intro e mem
    rcases List.mem_map.mp mem with ⟨⟨move, index⟩, numbered, rfl⟩
    have listed : move ∈ db.bulkMoves tenantId items := (mem_zipIdx numbered).2.2 ▸ getElem_mem _
    rcases mem_flatMap.mp listed with ⟨bucket, -, inBucket⟩
    rcases mem_filterMap.mp inBucket with ⟨row, chosen, made⟩
    exact ⟨row, mem_append_left _ (mem_filter.mp chosen).1, (BulkContext.move_id made).symm⟩
  · intro row mem attached move memMove
    rw [moves row mem attached] at memMove
    exact snapshotMoves_source memMove
  · intro row mem attached empty
    rw [moves row mem attached] at empty
    rw [ends]
    exact last_of_snapshotMoves_nil empty
  · rw [Db.bulkUnambiguous_iff keyed]
    have distinct : ∀ row : EntityInstance,
        (row.visits tenantId (db.bulkBuckets tenantId items)).Nodup := by
      intro row
      rw [Db.bulkBuckets, visits_groupByState]
      exact (statesInOrder_nodup _).filter _
    constructor
    · intro leads row mem attached
      have led := leads row mem attached
      rw [moves row mem attached, ends] at led
      exact (leads_snapshotMoves_iff (distinct row)).mp led
    · intro settled row mem attached
      rw [moves row mem attached, ends]
      exact (leads_snapshotMoves_iff (distinct row)).mpr (settled row mem attached)

def RecordCall.Unambiguous (db : Db) : RecordCall → Prop
  | bulkSetState tenantId items actorId supply =>
    ∀ result db', (OpenWind.bulkSetState tenantId items actorId supply).exec db =
      .ok (result, db') → db.BulkUnambiguous tenantId items
  | _ => True

/-- The moves of a call lead on. -/
def LogsChange (db db' : Db) : Prop :=
  ∃ f fresh events, Logs db db' f fresh events ∧ LeadsOn db f events

theorem LogsChange.refl (db : Db) : LogsChange db db :=
  ⟨id, [], [], ⟨.refl db, (append_nil _).symm, fun _ mem => absurd mem not_mem_nil,
    fun _ mem => absurd mem not_mem_nil, fun _ _ _ _ mem => absurd mem not_mem_nil,
    fun _ _ _ _ => rfl⟩, fun _ _ _ => rfl⟩

theorem LogsChange.of_commit {α : Type} {p : Tx α}
    (returned : ∀ {a db'}, p.exec db = .ok (a, db') → LogsChange db db') :
    LogsChange db (p.commit db) :=
  Tx.commit_of (.refl db) returned

theorem LogsChange.create {input : CreateEntityInput}
    (ran : (createEntity rules tenantId input supply).exec db = .ok (row, db')) :
    LogsChange db db' := by
  obtain ⟨fields, redacted, state, eq, -, -, unused, effect⟩ := createEntity_cases ran
  have about : ∀ e ∈ input.events row redacted supply, e.instanceId = row.id := by
    intro e mem
    rcases List.mem_map.mp mem with ⟨_, -, rfl⟩
    rfl
  -- no event is about a record that was there before
  have silent : ∀ old ∈ db.entityInstances,
      stateMoves old.id (input.events row redacted supply) = [] := by
    intro old mem
    refine stateMoves_eq_nil fun e memE same => ?_
    exact unused.2 row mem_cons_self old mem (same.symm.trans (about e memE))
  refine ⟨id, [row], _, ⟨.of_append effect.instances unused, effect.events, fun e mem => ?_, ?_, ?_,
    fun _ _ _ _ => rfl⟩, ?_⟩
  · exact ⟨row, mem_append_right _ mem_cons_self, (about e mem).symm⟩
  · intro new mem attached
    rw [mem_singleton.mp mem] at attached ⊢
    have own : row.workflowId = input.workflowId := by rw [eq]; rfl
    obtain ⟨workflowId, named⟩ := isSome_iff_exists.mp (own ▸ attached)
    have created : (input.event row workflowId redacted supply).instanceId = row.id := rfl
    refine unbroken_iff.mpr ⟨none, ?_⟩
    rw [CreateEntityInput.events, named, toList_some, map_singleton, stateMoves_singleton created]
    exact ⟨rfl, rfl⟩
  · intro old mem _ move memMove
    rw [silent old mem] at memMove
    exact absurd memMove not_mem_nil
  · intro old mem _
    rw [silent old mem]
    rfl

theorem LogsChange.transition {request : TransitionRequest} {supply : Supply} (keyed : db.Keyed)
    (ran : (executeTransition tenantId request supply).exec db = .ok (result, db')) :
    LogsChange db db' := by
  rcases executeTransition_cases ran with ⟨_, _, -, -, -, rfl⟩ | ⟨_, _, permitted, -, -, rfl⟩
  · exact .refl db'
  · obtain ⟨mem, selected⟩ := EntityInstance.found permitted.found
    exact Logs.of_changeState keyed mem selected

theorem LogsChange.override {request : StateOverrideRequest} {supply : Supply} (keyed : db.Keyed)
    (ran : (overrideWorkflowState tenantId request supply).exec db = .ok (result, db')) :
    LogsChange db db' := by
  obtain ⟨_, _, overridden, -, -, rfl⟩ := overrideWorkflowState_cases ran
  obtain ⟨mem, selected⟩ := EntityInstance.found overridden.found
  exact Logs.of_changeState keyed mem selected

theorem LogsChange.setState (keyed : db.Keyed)
    (ran : (setEntityState tenantId instanceId state actorId supply).exec db = .ok (row, db')) :
    LogsChange db db' := by
  obtain ⟨existing, found, -, effect⟩ := setEntityState_cases ran
  obtain ⟨mem, named, selected⟩ := foundLive found
  subst named
  obtain ⟨f, fresh, both⟩ := Logs.of_update keyed mem selected (.enter state supply.now)
    effect.instances effect.events
    (.directSet tenantId existing state actorId supply.startedAt (supply.id 0))
  exact ⟨f, fresh, _, both⟩

theorem LogsChange.edit {rules : FieldRules} {tenantId instanceId : Id} {input : UpdateEntityInput}
    {supply : EntitySupply} {db db' : Db} {row : EntityInstance} (keyed : db.Keyed)
    (ran : (updateEntity rules tenantId instanceId input supply).exec db = .ok (row, db')) :
    LogsChange db db' := by
  obtain ⟨existing, found, ⟨rfl, -⟩ | ⟨fields, changed, workflowId, edited⟩⟩ := updateEntity_cases ran
  · exact .refl db'
  · obtain ⟨mem, named, selected⟩ := foundLive found
    obtain ⟨f, fresh, both⟩ := Logs.of_update keyed mem selected (.apply input fields supply.now)
      edited.effect.instances edited.effect.events (.edit edited)
    exact ⟨f, fresh, _, both⟩

/-- A note is no move. -/
theorem LogsChange.note {tenantId instanceId : Id} {ctx : WorkflowContext} {note : Note}
    {createdAt : Time} {eventId : Id} {db db' : Db} {u : Unit}
    (ran : (insertNote tenantId instanceId ctx note createdAt eventId).exec db = .ok (u, db')) :
    LogsChange db db' := by
  obtain ⟨⟨row, mem, named⟩, effect⟩ := exec_insertNote_ok ran
  have silent (id : Id) :
      stateMoves id [note.event tenantId instanceId ctx createdAt eventId] = [] := by
    simp [stateMoves, WorkflowEvent.changesState, Note.event]
  have evolves : Evolves db db' id [] :=
    .of_map (effect.instances.trans (List.map_id _).symm) .refl
  refine ⟨id, [], _, ⟨evolves, effect.events, fun e memE => ?_,
    fun _ memNil => absurd memNil not_mem_nil, fun old _ _ move memMove => ?_,
    fun _ _ _ _ => rfl⟩, fun old _ _ => ?_⟩
  · rw [mem_singleton.mp memE]
    exact ⟨row, mem_append_left _ mem, named⟩
  · rw [silent] at memMove
    exact absurd memMove not_mem_nil
  · rw [silent]
    rfl

theorem RecordCall.logs {db : Db} (keyed : db.Keyed) (call : RecordCall) :
    ∃ f fresh events, Logs db (call.commit db) f fresh events ∧
      (LeadsOn db f events ↔ call.Unambiguous db) := by
  have always {db' : Db} (logged : LogsChange db db') : ∃ f fresh events,
      Logs db db' f fresh events ∧ (LeadsOn db f events ↔ True) := by
    obtain ⟨f, fresh, events, logs, leads⟩ := logged
    exact ⟨f, fresh, events, logs, iff_true_intro leads⟩
  cases call with
  | createEntity => exact always (.of_commit .create)
  | executeTransition => exact always (.of_commit (.transition keyed))
  | overrideWorkflowState => exact always (.of_commit (.override keyed))
  | setEntityState => exact always (.of_commit (.setState keyed))
  | updateEntity => exact always (.of_commit (.edit keyed))
  | insertNote => exact always (.of_commit .note)
  | bulkSetState tenantId items actorId supply =>
    rw [commit, RecordCall.Unambiguous]
    rcases Tx.commit_cases (OpenWind.bulkSetState tenantId items actorId supply) db with
      ⟨_, failed, same⟩ | ⟨result, ran⟩
    · obtain ⟨f, fresh, events, logs, leads⟩ := LogsChange.refl db
      rw [same]
      refine ⟨f, fresh, events, logs, iff_of_true leads fun result db' ran => ?_⟩
      rw [failed] at ran
      cases ran
    · obtain ⟨f, fresh, events, logs, leads⟩ := Logs.of_batch keyed (bulkSetState_cases ran)
      refine ⟨f, fresh, events, logs, leads.trans ⟨fun clear _ _ _ => clear, fun clear => ?_⟩⟩
      exact clear result _ ran

theorem RecordCall.referential {db db' : Db} {call : RecordCall} (sound : db.Referential)
    (stepped : step db call = some db') : db'.Referential := by
  cases stepped
  obtain ⟨f, fresh, events, logs, -⟩ := call.logs sound.keyed
  exact logs.referential sound

theorem RecordCall.unambiguous_iff {call : RecordCall} (sound : db.Referential)
    (before : db.LogsUnbroken) :
    call.Unambiguous db ↔ ∀ db', step db call = some db' → db'.LogsUnbroken := by
  obtain ⟨f, fresh, events, logs, leads⟩ := call.logs sound.keyed
  rw [← leads, ← logs.unbroken_iff sound before]
  exact ⟨fun after db' stepped => Option.some.inj stepped ▸ after, fun all => all _ rfl⟩

/-- Along a run of calls the log of every record stays an unbroken chain that
ends in its stored state, exactly when every batch that commits is unambiguous. -/
theorem state_change_log_chain {db : Db} {calls : List RecordCall} (sound : db.Referential)
    (before : db.LogsUnbroken) :
    Runs.Always RecordCall.step Db.LogsUnbroken db calls ↔
      Runs.Guarded RecordCall.step RecordCall.Unambiguous db calls :=
  Runs.guarded_iff (fun sound _ stepped _ => referential sound stepped) unambiguous_iff sound before

/-- In a run of calls no entry of the log is changed or removed, each is about a record that is
there, and every record stays the record that it was. -/
theorem records_persist {db db' : Db} {calls : List RecordCall} (sound : db.Referential)
    (ran : Runs.run RecordCall.step db calls = some db') :
    db'.Referential ∧ db.workflowEvents <+: db'.workflowEvents ∧
      ∀ row ∈ db.entityInstances, ∃ row' ∈ db'.entityInstances, SameRecord row row' := by
  refine Runs.run_invariant (P := fun db' => db'.Referential ∧
    db.workflowEvents <+: db'.workflowEvents ∧
      ∀ row ∈ db.entityInstances, ∃ row' ∈ db'.entityInstances, SameRecord row row') ?_
    ⟨sound, prefix_refl _, fun row mem => ⟨row, mem, .refl row⟩⟩ ran
  intro mid call after ⟨sound, grown, records⟩ stepped
  refine ⟨call.referential sound stepped, ?_⟩
  cases stepped
  obtain ⟨f, fresh, events, logs, -⟩ := call.logs sound.keyed
  refine ⟨?_, fun row mem => ?_⟩
  · rw [logs.log]
    exact grown.trans (prefix_append _ _)
  · obtain ⟨row', there, same⟩ := records row mem
    exact ⟨f row', logs.evolves.kept there, same.trans (logs.evolves.same row')⟩

/-! ### One record twice in a batch -/

def chainDb : Db where
  workflows := [{ id := 1, tenantId := some 1, entityTypeId := 1, initialState := "open" }]
  workflowStates :=
    [{ id := 1, tenantId := 1, workflowId := 1, name := "open" },
      { id := 2, tenantId := 1, workflowId := 1, name := "review" },
      { id := 3, tenantId := 1, workflowId := 1, name := "closed" }]

def chainCreate : RecordCall :=
  .createEntity .acceptAll 1 { entityTypeId := 1, fields := [], workflowId := some 1 }
    ⟨0, 0, fun i => 10 + i⟩

def chainCalls (states : List String) : List RecordCall :=
  [chainCreate, .bulkSetState 1 (states.map fun state => ⟨10, state⟩) none ⟨1, 1, fun i => 20 + i⟩]

theorem chainDb_referential : chainDb.Referential :=
  ⟨nodup_nil, fun _ mem => absurd mem not_mem_nil⟩

theorem chainDb_unbroken : chainDb.LogsUnbroken := fun _ mem => absurd mem not_mem_nil

/-- Named twice, the record is logged as leaving `open` both times. -/
theorem state_change_log_breaks :
    ¬ Runs.Always RecordCall.step Db.LogsUnbroken chainDb (chainCalls ["review", "closed"]) := by
  intro always
  have reached : (Runs.run step chainDb (chainCalls ["review", "closed"])).map
      (fun db => (db.entityInstances.map fun row => (row.id, row.workflowId, row.currentState),
        stateMoves 10 db.workflowEvents)) =
      some ([(10, some 1, "closed")],
        [(none, "open"), (some "open", "review"), (some "open", "closed")]) := by
    decide +kernel
  obtain ⟨db, ran, shape⟩ := map_eq_some_iff.mp reached
  obtain ⟨rows, moves⟩ := Prod.mk.inj shape
  obtain ⟨row, listed, values⟩ : ∃ row ∈ db.entityInstances,
      (row.id, row.workflowId, row.currentState) = (10, some 1, "closed") :=
    List.mem_map.mp (rows ▸ mem_cons_self)
  simp only [Prod.mk.injEq] at values
  have unbroken := always.last ran row listed (by rw [values.2.1]; rfl)
  rw [values.1, moves] at unbroken
  have linked := (isChain_cons_cons.mp (isChain_cons_cons.mp unbroken.linked).2).1
  exact absurd linked (by decide)

/-- Named once, it leaves an unbroken chain. -/
theorem state_change_log_chain_single :
    Runs.Always RecordCall.step Db.LogsUnbroken chainDb (chainCalls ["closed"]) := by
  have single : (step chainDb chainCreate).map
      (fun db => statesInOrder (db.bulkAccepted 1 [⟨10, "closed"⟩])) = some ["closed"] := by
    decide +kernel
  refine (state_change_log_chain chainDb_referential chainDb_unbroken).mpr
    ⟨trivial, fun created stepped => ⟨fun _ _ _ row _ _ => ?_, fun _ _ => trivial⟩⟩
  rw [stepped] at single
  have states : statesInOrder (created.bulkAccepted 1 [⟨10, "closed"⟩]) = ["closed"] :=
    Option.some.inj single
  change List.Pairwise _ (statesInOrder (created.bulkAccepted 1 [⟨10, "closed"⟩]))
  rw [states]
  exact pairwise_singleton _ _

/-- A record in `open`, and the entry of its creation. -/
def openedDb : Db :=
  { chainDb with
    entityInstances :=
      [{ id := 10, entityTypeId := 1, tenantId := 1, workflowId := some 1, currentState := "open"
         createdBy := some "alice", createdAt := 0, updatedAt := 0 }]
    workflowEvents :=
      [{ id := 30, tenantId := 1, instanceId := 10, workflowId := 1, fromState := none
         toState := "open", triggeredBy := .user, createdAt := 0 }] }

def reviewCalls : List RecordCall :=
  [.setEntityState 1 10 "review" (some "ben") ⟨1, 1, fun i => 40 + i⟩,
    .updateEntity .acceptAll 1 10 { fields := some [("title", .str "payroll")] }
      ⟨2, 2, fun i => 50 + i⟩]

theorem openedDb_referential : openedDb.Referential := by
  refine ⟨nodup_singleton 10, fun e mem => ?_⟩
  obtain rfl := mem_singleton.mp mem
  exact ⟨_, mem_cons_self, rfl⟩

/-- The move and the edit are logged after the creation, and the record stays alice's. -/
theorem records_persist_reviewed :
    ∃ db', Runs.run step openedDb reviewCalls = some db' ∧
      (db'.workflowEvents.map fun e => (e.id, e.fromState, e.toState)) =
        [(30, none, "open"), (40, some "open", "review"), (50, some "review", "review")] ∧
      openedDb.workflowEvents <+: db'.workflowEvents ∧
      ∃ row ∈ db'.entityInstances, row.currentState = "review" ∧
        row.fields = [("title", .str "payroll")] ∧ row.createdBy = some "alice" := by
  have moved : (Runs.run step openedDb reviewCalls).map (fun db =>
      db.workflowEvents.map fun e => (e.id, e.fromState, e.toState)) =
      some [(30, none, "open"), (40, some "open", "review"), (50, some "review", "review")] := by
    decide +kernel
  have edited : (Runs.run step openedDb reviewCalls).map (fun db =>
      db.entityInstances.map fun row => (row.currentState, row.fields)) =
      some [("review", [("title", .str "payroll")])] := by
    decide +kernel
  obtain ⟨db', ran, moves⟩ := map_eq_some_iff.mp moved
  rw [ran] at edited
  have rows := Option.some.inj edited
  obtain ⟨-, kept, records⟩ := records_persist openedDb_referential ran
  obtain ⟨row, there, same⟩ := records _ mem_cons_self
  have values : (row.currentState, row.fields) ∈ [("review", [("title", Json.str "payroll")])] :=
    rows ▸ List.mem_map_of_mem there
  obtain ⟨state, fields⟩ := Prod.mk.inj (mem_singleton.mp values)
  exact ⟨db', ran, moves, kept, row, there, state, fields, same.createdBy⟩

end OpenWind
