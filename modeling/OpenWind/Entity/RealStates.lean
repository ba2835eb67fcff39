import OpenWind.Entity.ChildRelations
import OpenWind.Entity.EventChain
import OpenWind.Workflow.Canvas

/-!
# The states records are in

A record that is not deleted, has no parent and belongs to a workflow with states
should be in one of them.  The operations that write records and the operations
that write workflows all bear on this.
-/

open List Bool

namespace OpenWind

open Txn

/-! ## Real states -/

/-- A record of `row`'s kind may be in the state. -/
def Db.RealState (db : Db) (row : EntityInstance) (state : String) : Prop :=
  row.deletedAt = none → db.parentId row.tenantId row.id = none →
    db.StartsReal row.tenantId row.workflowId state

/-- Every record is in a state it may be in. -/
def Db.RealStates (db : Db) : Prop :=
  ∀ row ∈ db.entityInstances, db.RealState row row.currentState

structure Db.Consistent (db : Db) : Prop where
  keyed : db.Keyed
  states : Tables.workflowStates.Keyed db
  relations : Tables.entityRelations.Keyed db
  linked : ∀ relation ∈ db.entityRelations, ∃ row ∈ db.entityInstances,
    row.id = relation.fromInstanceId

variable {db db' : Db} {id instanceId stateId tenantId workflowId : Id} {state : String} {G : Prop}
  {rules : FieldRules} {input : UpdateWorkflowStateInput} {supply : EntitySupply}
  {actorId : Option String} {items : List BulkItem} {current st : WorkflowState}
  {caller : WorkflowCaller} {ids : Nat → Id} {α : Type}

theorem Db.mem_stateNames {name : String} :
    name ∈ db.stateNames tenantId workflowId ↔
      ∃ st ∈ db.workflowStates, st.ofWorkflow tenantId workflowId ∧ st.name = name := by
  unfold Db.stateNames
  rw [List.mem_map]
  exact ⟨fun ⟨st, listed, named⟩ => ⟨st, (mem_filter.mp listed).1, (mem_filter.mp listed).2, named⟩,
    fun ⟨st, mem, own, named⟩ => ⟨st, mem_filter.mpr ⟨mem, own⟩, named⟩⟩

theorem Db.stateNames_eq (db : Db) (tenantId workflowId : Id) :
    db.stateNames tenantId workflowId =
      ((db.workflowStates.map WorkflowState.identity).filter fun (_, tenant, workflow, _) =>
        workflow == workflowId && tenant == tenantId).map fun (_, _, _, name) => name := by
  unfold Db.stateNames
  rw [List.filter_map, List.map_map]
  rfl

theorem Db.realState_congr {row row' : EntityInstance} (names : db'.stateNames = db.stateNames)
    (parent : db'.parentId row.tenantId row.id = db.parentId row.tenantId row.id)
    (same : SameRecord row row') : db'.RealState row' state ↔ db.RealState row state := by
  unfold Db.RealState Db.StartsReal
  rw [same.deletedAt, same.tenantId, same.id, same.workflowId, names, parent]

/-! ## Steps -/

structure Keeps (db db' : Db) (G : Prop) : Prop where
  consistent : db'.Consistent
  real_iff : db'.RealStates ↔ G

theorem Keeps.congr {G H : Prop} (keeps : Keeps db db' G) (same : G ↔ H) : Keeps db db' H :=
  ⟨keeps.consistent, keeps.real_iff.trans same⟩

theorem SameDefinitions.stateNames {db db' : Db} (same : SameDefinitions db db') :
    db'.stateNames = db.stateNames := by
  funext tenantId workflowId
  unfold Db.stateNames
  rw [same.states]

theorem SameDefinitions.parentId {db db' : Db} (same : SameDefinitions db db') :
    db'.parentId = db.parentId := by
  funext tenantId id
  unfold Db.parentId
  rw [same.relations]

theorem Db.Consistent.parentId_unused (sound : db.Consistent) (tenantId : Id)
    (unused : ∀ old ∈ db.entityInstances, old.id ≠ id) : db.parentId tenantId id = none := by
  refine Db.parentId_eq_none.mpr fun r mem => eq_false_iff.mpr fun child => ?_
  obtain ⟨row, memRow, named⟩ := sound.linked r mem
  have from_ : r.fromInstanceId = id := eq_of_beq (and_eq_true_iff.mp child).2
  exact unused row memRow (named.trans from_)

theorem Evolves.consistent {f : EntityInstance → EntityInstance} {fresh : List EntityInstance}
    (evolves : Evolves db db' f fresh) (same : SameDefinitions db db') (sound : db.Consistent) :
    db'.Consistent := by
  refine ⟨evolves.keyed sound.keyed, sound.states.of_rows same.states,
    sound.relations.of_rows same.relations, fun relation mem => ?_⟩
  rw [same.relations] at mem
  obtain ⟨row, memRow, named⟩ := sound.linked relation mem
  exact ⟨f row, evolves.kept memRow, (evolves.same row).id.trans named⟩

theorem Evolves.keeps {db db' : Db} {f : EntityInstance → EntityInstance}
    {fresh : List EntityInstance} (evolves : Evolves db db' f fresh) (same : SameDefinitions db db')
    (sound : db.Consistent) :
    Keeps db db'
      ((∀ row ∈ db.entityInstances, db.RealState row (f row).currentState) ∧
        ∀ row ∈ fresh, row.deletedAt = none →
          db.StartsReal row.tenantId row.workflowId row.currentState) := by
  refine ⟨evolves.consistent same sound, ⟨fun after => ⟨fun row mem => ?_, fun row mem live => ?_⟩,
    fun ⟨old, new⟩ row' mem' => ?_⟩⟩
  · have kept := after (f row) (evolves.kept mem)
    exact (Db.realState_congr same.stateNames (by rw [same.parentId]) (evolves.same row)).mp kept
  · have listed : row ∈ db'.entityInstances := by
      rw [evolves.instances]
      exact mem_append_right _ mem
    have real := after row listed live
    rw [same.parentId] at real
    have top := sound.parentId_unused row.tenantId (evolves.unused.2 row mem)
    have start := real top
    unfold Db.StartsReal at start ⊢
    rw [same.stateNames] at start
    exact start
  · rcases evolves.mem mem' with ⟨row, mem, rfl⟩ | mem
    · exact (Db.realState_congr same.stateNames (by rw [same.parentId]) (evolves.same row)).mpr
        (old row mem)
    · intro live _
      have start := new row' mem live
      unfold Db.StartsReal at start ⊢
      rw [same.stateNames]
      exact start

theorem Keeps.of_update {db db' : Db} {g : EntityInstance → EntityInstance} {tenantId : Id}
    {target : EntityInstance} (sound : db.Consistent) (before : db.RealStates)
    (mem : target ∈ db.entityInstances) (selected : target.isOf tenantId target.id)
    (sameRecord : ∀ row, SameRecord row (g row))
    (instances : db'.entityInstances = db.entityInstances.map fun row =>
      if EntityInstance.isOf tenantId target.id row then g row else row)
    (same : SameDefinitions db db') :
    Keeps db db' (db.RealState target (g target).currentState) := by
  have evolves : Evolves db db' _ [] := .of_map instances fun row =>
    .ite sameRecord (EntityInstance.isOf tenantId target.id row) row
  refine (evolves.keeps same sound).congr ⟨fun ⟨old, _⟩ => ?_, fun real => ⟨fun row memRow => ?_,
    fun _ none => absurd none not_mem_nil⟩⟩
  · have real := old target mem
    rw [if_pos selected] at real
    exact real
  · by_cases chosen : row.isOf tenantId target.id = true
    · have named : row.id = target.id := eq_of_beq (and_eq_true_iff.mp chosen).1
      obtain rfl := sound.keyed.eq memRow mem named
      rw [if_pos chosen]
      exact real
    · rw [if_neg chosen]
      exact before row memRow

theorem Keeps.refl (sound : db.Consistent) (before : db.RealStates) : Keeps db db True :=
  ⟨sound, iff_true_intro before⟩

theorem Db.MayWrite.real {row : EntityInstance}
    (allowed : db.MayWrite tenantId row.workflowId state (db.parentId tenantId row.id).isSome)
    (own : row.tenantId = tenantId) : db.RealState row state := by
  subst own
  intro _ top
  rw [top] at allowed
  exact fun id attached _ => allowed id attached

/-! ### Calls on records -/

theorem Keeps.create {input : CreateEntityInput} {row : EntityInstance} (sound : db.Consistent)
    (before : db.RealStates)
    (ran : (createEntity rules tenantId input supply).exec db = .ok (row, db')) :
    Keeps db db' True := by
  obtain ⟨fields, redacted, state, rfl, -, real, unused, effect⟩ := createEntity_cases ran
  have evolves := Evolves.of_append effect.instances unused
  refine (evolves.keeps effect.definitions sound).congr (iff_true_intro ⟨before, ?_⟩)
  intro row mem _
  cases mem_singleton.mp mem
  exact real

def Db.BatchStartsReal (db : Db) (rules : FieldRules) (tenantId : Id)
    (inputs : List CreateEntityInput) (supply : EntitySupply) : Prop :=
  ∀ input ∈ inputs, db.accepts rules tenantId supply input = true →
    db.StartsReal tenantId input.workflowId (db.resolveInitialState tenantId input.workflowId)

theorem Keeps.bulkCreate {inputs : List CreateEntityInput} {result : BulkCreateResult}
    (sound : db.Consistent) (before : db.RealStates)
    (ran : (bulkCreateEntities rules tenantId inputs supply).exec db = .ok (result, db')) :
    Keeps db db' (db.BatchStartsReal rules tenantId inputs supply) := by
  obtain ⟨⟨workflows, made⟩, -, unused, effect⟩ := bulkCreateEntities_cases ran
  have evolves := Evolves.of_append effect.instances unused
  have from_ (workflowId : Option Id) : workflowId ∈ result.created.map (·.workflowId) ↔
      ∃ input, (input ∈ inputs ∧ db.accepts rules tenantId supply input) ∧
        input.workflowId = workflowId := by
    rw [workflows, List.mem_map]
    exact exists_congr fun input => and_congr_left' mem_filter
  refine (evolves.keeps effect.definitions sound).congr
    ⟨fun ⟨_, new⟩ input mem accepted => ?_, fun starts => ⟨before, fun row mem _ => ?_⟩⟩
  · obtain ⟨row, memRow, attached⟩ := List.mem_map.mp
      ((from_ input.workflowId).mpr ⟨input, ⟨mem, accepted⟩, rfl⟩)
    obtain ⟨own, live, initial⟩ := made row memRow
    have real := new row memRow live
    rw [own, initial, attached] at real
    exact real
  · obtain ⟨input, ⟨memInput, accepted⟩, attached⟩ :=
      (from_ row.workflowId).mp (List.mem_map_of_mem mem)
    obtain ⟨own, -, initial⟩ := made row mem
    rw [own, initial, ← attached]
    exact starts input memInput accepted

theorem Keeps.changeState {tenantId : Id} {instance_ : LockedInstance} {change : StateChange}
    {supply : Supply} {db : Db} (sound : db.Consistent) (before : db.RealStates)
    (mem : instance_.row ∈ db.entityInstances)
    (selected : instance_.row.isOf tenantId instance_.row.id) :
    Keeps db (db.changeState tenantId instance_ change supply)
      (db.RealState instance_.row change.toState) :=
  .of_update sound before mem selected (.enter change.toState supply.now) rfl
    ⟨rfl, rfl, rfl, rfl, rfl, rfl⟩

def Db.LeadsToReal (db : Db) (tenantId : Id) (request : TransitionRequest) : Prop :=
  ∀ instance_ transition, Permitted db tenantId request instance_ transition →
    db.RealState instance_.row transition.toState

theorem Permitted.unique {request : TransitionRequest} {instance_ other : LockedInstance}
    {transition transition' : WorkflowTransition}
    (first : Permitted db tenantId request instance_ transition)
    (second : Permitted db tenantId request other transition') :
    other = instance_ ∧ transition' = transition := by
  have row := LockedInstance.eq_of_row (Option.some.inj (second.found.symm.trans first.found))
  subst row
  exact ⟨rfl, Option.some.inj (second.named.symm.trans first.named)⟩

theorem Keeps.transition {tenantId : Id} {request : TransitionRequest} {supply : Supply}
    {db db' : Db} {result : EventResult} (sound : db.Consistent) (before : db.RealStates)
    (ran : (executeTransition tenantId request supply).exec db = .ok (result, db')) :
    Keeps db db' (db.LeadsToReal tenantId request) := by
  rcases executeTransition_cases ran with ⟨key, event, keyed, found, -, rfl⟩ |
    ⟨instance_, transition, permitted, -, -, rfl⟩
  · refine (Keeps.refl sound before).congr (iff_of_true trivial fun _ _ permitted => ?_)
    rw [permitted.fresh key keyed] at found
    cases found
  · obtain ⟨mem, selected⟩ := EntityInstance.found permitted.found
    refine (Keeps.changeState sound before mem selected).congr
      ⟨fun real other transition' also => ?_, fun leads => leads _ _ permitted⟩
    obtain ⟨rfl, rfl⟩ := permitted.unique also
    exact real

theorem Keeps.override {request : StateOverrideRequest} {supply : Supply} {result : EventResult}
    (sound : db.Consistent) (before : db.RealStates)
    (ran : (overrideWorkflowState tenantId request supply).exec db = .ok (result, db')) :
    Keeps db db' True := by
  obtain ⟨instance_, actorId, overridden, -, -, rfl⟩ := overrideWorkflowState_cases ran
  obtain ⟨mem, selected⟩ := EntityInstance.found overridden.found
  refine (Keeps.changeState sound before mem selected).congr (iff_true_intro ?_)
  intro _ _ workflowId attached _
  cases instance_.attached.symm.trans attached
  have own : instance_.row.tenantId = tenantId := eq_of_beq (and_eq_true_iff.mp selected).2
  obtain ⟨st, memState, ⟨workflow, tenant⟩, named⟩ := overridden.real
  refine Db.mem_stateNames.mpr ⟨st, memState, ?_, named⟩
  simp [WorkflowState.ofWorkflow, workflow, tenant, own]

theorem Keeps.setState {row : EntityInstance} (sound : db.Consistent) (before : db.RealStates)
    (ran : (setEntityState tenantId instanceId state actorId supply).exec db = .ok (row, db')) :
    Keeps db db' True := by
  obtain ⟨existing, found, ⟨allowed, -⟩, effect⟩ := setEntityState_cases ran
  obtain ⟨mem, rfl, selected⟩ := EntityInstance.foundLive found
  have own : existing.tenantId = tenantId := eq_of_beq (and_eq_true_iff.mp selected).2
  exact (Keeps.of_update sound before mem selected (.enter state supply.now) effect.instances
    effect.definitions).congr (iff_true_intro (allowed.real own))

theorem Keeps.edit {input : UpdateEntityInput} {row : EntityInstance} (sound : db.Consistent)
    (before : db.RealStates)
    (ran : (updateEntity rules tenantId instanceId input supply).exec db = .ok (row, db')) :
    Keeps db db' True := by
  obtain ⟨existing, found, ⟨rfl, -⟩ | ⟨fields, changed, workflowId, edited⟩⟩ := updateEntity_cases ran
  · exact .refl sound before
  · obtain ⟨mem, rfl, selected⟩ := EntityInstance.foundLive found
    have own : existing.tenantId = tenantId := eq_of_beq (and_eq_true_iff.mp selected).2
    refine (Keeps.of_update sound before mem selected (.apply input fields supply.now)
      edited.effect.instances edited.effect.definitions).congr (iff_true_intro ?_)
    change db.RealState existing (input.currentState.join.getD existing.currentState)
    cases asked : input.currentState.join with
    | none => exact before existing mem
    | some state => exact (edited.allowed state asked).real own

theorem Db.bulkContext_child (top : db.parentId tenantId id = none) :
    (db.bulkContext tenantId items).childIds.contains id = false := by
  refine eq_false_iff.mpr fun listed => ?_
  obtain ⟨relation, filtered, named⟩ := List.mem_map.mp (contains_iff_mem.mp listed)
  obtain ⟨mem, active⟩ := mem_filter.mp filtered
  have child : relation.isChildOf tenantId id :=
    and_eq_true_iff.mpr ⟨active, beq_iff_eq.mpr named⟩
  rw [Db.parentId_eq_none.mp top relation mem] at child
  cases child

theorem Keeps.bulkSet {result : BulkSetStateResult} (sound : db.Consistent) (before : db.RealStates)
    (ran : (bulkSetState tenantId items actorId supply).exec db = .ok (result, db')) :
    Keeps db db' True := by
  have effect := bulkSetState_cases ran
  have evolves := Evolves.of_map effect.instances
    (.throughBuckets tenantId supply.now (db.bulkBuckets tenantId items))
  refine (evolves.keeps effect.definitions sound).congr (iff_true_intro
    ⟨fun row mem => ?_, fun _ none => absurd none not_mem_nil⟩)
  rw [EntityInstance.throughBuckets_state]
  cases visited : (row.visits tenantId (db.bulkBuckets tenantId items)).getLast? with
  | none => exact before row mem
  | some state =>
    have entered := mem_of_getLast? visited
    unfold Db.bulkBuckets at entered
    rw [EntityInstance.visits_groupByState, mem_filter, EntityInstance.inBucket_iff] at entered
    obtain ⟨-, accepted, rfl⟩ := entered
    obtain ⟨prior, found, allowed⟩ := Db.mayWrite_of_accepted accepted
    obtain rfl := Option.some.inj
      (found.symm.trans (Db.prior_of_accepted sound.keyed mem accepted rfl).1)
    intro _ top
    rw [Db.bulkContext_child top] at allowed
    exact fun id attached _ => allowed id attached

theorem Keeps.note {tenantId instanceId : Id} {ctx : WorkflowContext} {note : Note}
    {createdAt : Time} {eventId : Id} {db db' : Db} {u : Unit} (sound : db.Consistent)
    (before : db.RealStates)
    (ran : (insertNote tenantId instanceId ctx note createdAt eventId).exec db = .ok (u, db')) :
    Keeps db db' True := by
  obtain ⟨-, effect⟩ := exec_insertNote_ok ran
  have evolves : Evolves db db' id [] :=
    .of_map (effect.instances.trans (List.map_id _).symm) .refl
  exact (evolves.keeps effect.definitions sound).congr
    (iff_true_intro ⟨before, fun _ none => absurd none not_mem_nil⟩)

/-! ### Moves in the hierarchy -/

theorem Db.Consistent.deleteRelations {db : Db} (sound : db.Consistent)
    (p : EntityRelation → Bool) (now : Time) : (db.deleteRelations p now).Consistent := by
  refine ⟨sound.keyed, sound.states, sound.relations.modify p fun _ => rfl, fun relation mem => ?_⟩
  rcases List.mem_map.mp mem with ⟨old, memOld, rfl⟩
  obtain ⟨row, memRow, named⟩ := sound.linked old memOld
  by_cases deleted : p old = true
  · rw [if_pos deleted]
    exact ⟨row, memRow, named⟩
  · rw [if_neg deleted]
    exact ⟨row, memRow, named⟩

theorem Db.Consistent.unlinked {db : Db} (sound : db.Consistent) (tenantId childId : Id)
    (now : Time) : (db.unlinked tenantId childId now).Consistent :=
  Db.unlinked_keeps tenantId childId (fun p _ holds => holds.deleteRelations p now) sound

theorem Db.unlinked_stateNames (db : Db) (tenantId childId : Id) (now : Time) :
    (db.unlinked tenantId childId now).stateNames = db.stateNames :=
  Db.unlinked_keeps tenantId childId (P := fun other => other.stateNames = db.stateNames)
    (fun _ _ same => same) rfl

/-- A detached record is in a real state. -/
def Db.DetachesToReal (db : Db) (tenantId childId : Id) : Prop :=
  ∀ row ∈ db.entityInstances, row.isOf tenantId childId = true → row.deletedAt = none →
    db.StartsReal tenantId row.workflowId "initial"

theorem SameRecord.detach (now : Time) (row : EntityInstance) : SameRecord row (row.detach now) :=
  ⟨rfl, rfl, rfl, rfl, rfl, rfl⟩

theorem Keeps.detach {db : Db} {tenantId childId : Id} (now : Time) (sound : db.Consistent)
    (before : db.RealStates) :
    Keeps db (Tables.entityInstances.modify (EntityInstance.isOf tenantId childId)
      (EntityInstance.detach now) (db.unlinked tenantId childId now))
      (db.DetachesToReal tenantId childId) := by
  have evolves : Evolves (db.unlinked tenantId childId now)
      (Tables.entityInstances.modify (EntityInstance.isOf tenantId childId)
        (EntityInstance.detach now) (db.unlinked tenantId childId now)) _ [] :=
    .of_map rfl fun row => .ite (.detach now) (EntityInstance.isOf tenantId childId row) row
  obtain ⟨consistent, real_iff⟩ :=
    evolves.keeps ⟨rfl, rfl, rfl, rfl, rfl, rfl⟩ (sound.unlinked tenantId childId now)
  refine ⟨consistent, real_iff.trans ?_⟩
  rw [Db.unlinked_instances]
  unfold Db.RealState Db.StartsReal
  rw [Db.unlinked_stateNames]
  constructor
  · intro ⟨all, _⟩ row mem chosen live
    have real := all row mem live
    obtain ⟨named, own⟩ := and_eq_true_iff.mp chosen
    rw [eq_of_beq named, eq_of_beq own, if_pos chosen] at real
    exact real (Db.parentId_unlinked db tenantId childId now)
  · refine fun initial => ⟨fun row mem live top => ?_, fun _ none => absurd none not_mem_nil⟩
    by_cases chosen : row.isOf tenantId childId = true
    · rw [if_pos chosen, eq_of_beq (and_eq_true_iff.mp chosen).2]
      exact initial row mem chosen live
    · rw [if_neg chosen]
      have other : ¬ (row.tenantId = tenantId ∧ row.id = childId) := fun ⟨own, named⟩ =>
        chosen (by simp [EntityInstance.isOf, own, named])
      rw [Db.parentId_unlinked_of_ne sound.relations now other] at top
      exact before row mem live top

theorem Keeps.link {tenantId childId newParentId parentOfId childOfId : Id} {now : Time}
    {child : EntityInstance} (sound : db.Consistent) (before : db.RealStates)
    (mem : child ∈ db.entityInstances) (selected : child.isOf tenantId childId)
    (parent : ∃ row ∈ (db.unlinked tenantId childId now).entityInstances, row.id = newParentId)
    (fresh : Tables.entityRelations.fresh
      (relationPair tenantId newParentId childId parentOfId childOfId)
      (db.unlinked tenantId childId now)) :
    Keeps db (Tables.entityRelations.append
      (relationPair tenantId newParentId childId parentOfId childOfId)
      (db.unlinked tenantId childId now)) True := by
  have mid := sound.unlinked tenantId childId now
  obtain ⟨named, own⟩ := and_eq_true_iff.mp selected
  refine ⟨⟨mid.keyed, mid.states, mid.relations.append fresh, fun relation memRelation => ?_⟩,
    iff_true_intro fun row memRow live top => ?_⟩
  · rcases mem_append.mp memRelation with old | new
    · exact mid.linked relation old
    · rcases mem_cons.mp new with rfl | new
      · exact parent
      · cases mem_singleton.mp new
        refine ⟨child, ?_, eq_of_beq named⟩
        change child ∈ (db.unlinked tenantId childId now).entityInstances
        rw [Db.unlinked_instances]
        exact mem
  · change row ∈ (db.unlinked tenantId childId now).entityInstances at memRow
    rw [Db.unlinked_instances] at memRow
    rw [Db.parentId_link, Option.or_eq_none_iff] at top
    have other : ¬ (row.tenantId = tenantId ∧ row.id = childId) := fun same => by
      rw [if_pos same] at top
      cases top.2
    rw [Db.parentId_unlinked_of_ne sound.relations now other] at top
    have real := before row memRow live top.1
    unfold Db.StartsReal at real ⊢
    change ∀ id, row.workflowId = some id →
      (db.unlinked tenantId childId now).stateNames row.tenantId id ≠ [] →
        row.currentState ∈ (db.unlinked tenantId childId now).stateNames row.tenantId id
    rw [Db.unlinked_stateNames]
    exact real

theorem Keeps.move {input : MoveChildRelationInput} {bound : Nat} {pair : List EntityRelation}
    (sound : db.Consistent) (before : db.RealStates)
    (ran : (moveChildRelation tenantId input supply bound).exec db = .ok (pair, db')) :
    Keeps db db' (input.newParentId = none → db.DetachesToReal tenantId input.childId) := by
  obtain ⟨child, mem, selected, -, ⟨asked, rfl⟩ |
    ⟨parent, _, _, asked, takes, -, -, -, -, fresh, rfl, rfl⟩⟩ := moveChildRelation_cases ran
  · exact (Keeps.detach supply.startedAt sound before).congr
      ⟨fun real _ => real, fun real => real asked⟩
  · refine (Keeps.link sound before mem selected ⟨parent, takes.mem, rfl⟩ fresh).congr
      (iff_of_true trivial fun none => ?_)
    rw [asked] at none
    cases none

/-! ### Edits of a workflow -/

theorem SameStates.stateNames {db db' : Db} (same : SameStates db db') :
    db'.stateNames = db.stateNames := by
  funext tenantId workflowId
  rw [Db.stateNames_eq, Db.stateNames_eq, same.states]

theorem SameStates.parentId {db db' : Db} (same : SameStates db db') :
    db'.parentId = db.parentId := by
  funext tenantId id
  unfold Db.parentId
  rw [same.relations]

theorem SameStates.keyed {db db' : Db} (same : SameStates db db')
    (keyed : Tables.workflowStates.Keyed db) : Tables.workflowStates.Keyed db' := by
  have key (states : List WorkflowState) : states.map Tables.workflowStates.key =
      (states.map WorkflowState.identity).map fun i => .row .workflowStates i.1 := by
    rw [List.map_map]
    rfl
  unfold Table.Keyed at keyed ⊢
  rw [Tables.workflowStates_rows, key, same.states, ← key]
  exact keyed

theorem SameStates.consistent (same : SameStates db db') (sound : db.Consistent) :
    db'.Consistent := by
  refine ⟨sound.keyed.of_instances same.instances, same.keyed sound.states,
    sound.relations.of_rows same.relations, ?_⟩
  rw [same.relations, same.instances]
  exact sound.linked

theorem SameStates.realStates_iff (same : SameStates db db') : db'.RealStates ↔ db.RealStates := by
  unfold Db.RealStates
  rw [same.instances]
  exact forall₂_congr fun row _ =>
    Db.realState_congr same.stateNames (by rw [same.parentId]) (.refl row)

theorem Keeps.same {db mid db' : Db} {G : Prop} (keeps : Keeps db mid G)
    (same : SameStates mid db') : Keeps db db' G :=
  ⟨same.consistent keeps.consistent, same.realStates_iff.trans keeps.real_iff⟩

theorem WorkflowState.isRow_eq (keyed : Tables.workflowStates.Keyed db)
    (found : db.workflowStates.find? (WorkflowState.isRow tenantId workflowId stateId) =
      some current) (mem : st ∈ db.workflowStates)
    (selected : st.isRow tenantId workflowId stateId) : st = current := by
  have row : current.isRow tenantId workflowId stateId := find?_some found
  have named := eq_of_beq (and_eq_true_iff.mp selected).1
  have named' := eq_of_beq (and_eq_true_iff.mp row).1
  exact keyed.eq mem (mem_of_find?_eq_some found)
    (congrArg (LockKey.row .workflowStates) (named.trans named'.symm))

theorem Db.StartsReal.of_row {workflowId : Option Id} (real : ∀ id, workflowId = some id →
      (∃ st ∈ db.workflowStates, st.ofWorkflow tenantId id) →
        ∃ st ∈ db.workflowStates, st.ofWorkflow tenantId id ∧ st.name = state) :
    db.StartsReal tenantId workflowId state := by
  intro id attached states
  obtain ⟨name, listed⟩ := exists_mem_of_ne_nil _ states
  obtain ⟨st, mem, own, -⟩ := Db.mem_stateNames.mp listed
  exact Db.mem_stateNames.mpr (real id attached ⟨st, mem, own⟩)

theorem Db.StartsReal.row {workflowId : Option Id} (real : db.StartsReal tenantId workflowId state)
    (attached : workflowId = some id) (mem : st ∈ db.workflowStates)
    (own : st.ofWorkflow tenantId id) :
    ∃ st ∈ db.workflowStates, st.ofWorkflow tenantId id ∧ st.name = state :=
  Db.mem_stateNames.mp (real id attached
    (ne_nil_of_mem (Db.mem_stateNames.mpr ⟨st, mem, own, rfl⟩)))

theorem EntityInstance.occupies_of_row {row : EntityInstance} (attached : row.workflowId = some id)
    (own : st.ofWorkflow row.tenantId id) (named : st.name = row.currentState)
    (selected : st.isRow tenantId workflowId stateId) :
    row.occupies tenantId workflowId st.name := by
  simp only [WorkflowState.isRow, WorkflowState.ofWorkflow, and_eq_true, beq_iff_eq] at selected own
  simp [EntityInstance.occupies, attached, named, ← own.1, ← own.2, selected.2.1, selected.2.2]

theorem SameRecord.renamed (state : String) (row : EntityInstance) :
    SameRecord row { row with currentState := state } :=
  ⟨rfl, rfl, rfl, rfl, rfl, rfl⟩

section

variable (sound : db.Consistent) (before : db.RealStates)

include sound before

theorem Keeps.rename {newName : String}
    (found : db.workflowStates.find? (WorkflowState.isRow tenantId workflowId stateId) =
      some current) :
    Keeps db (db.renameState tenantId workflowId stateId input current.name newName) True := by
  have currentRow : current.isRow tenantId workflowId stateId := find?_some found
  have evolves : Evolves db (db.renameState tenantId workflowId stateId input current.name newName)
      _ [] := .of_map rfl fun row =>
    .ite (.renamed newName) (EntityInstance.occupies tenantId workflowId current.name row) row
  refine ⟨⟨evolves.keyed sound.keyed, sound.states.modify
      (WorkflowState.isRow tenantId workflowId stateId) fun _ => rfl, sound.relations, ?_⟩,
    iff_true_intro fun row' mem' => ?_⟩
  · intro relation memRelation
    obtain ⟨row, mem, named⟩ := sound.linked relation memRelation
    exact ⟨_, evolves.kept mem, (evolves.same row).id.trans named⟩
  rcases List.mem_map.mp mem' with ⟨row, mem, rfl⟩
  intro live top
  have same := evolves.same row
  rw [same.deletedAt] at live
  rw [same.tenantId, same.id] at top
  rw [same.tenantId, same.workflowId]
  refine .of_row fun id attached ⟨st', memSt', own'⟩ => ?_
  rcases List.mem_map.mp memSt' with ⟨st, memSt, rfl⟩
  have own : st.ofWorkflow row.tenantId id := by
    by_cases selected : st.isRow tenantId workflowId stateId = true
    · rw [if_pos selected] at own'
      exact own'
    · rw [if_neg selected] at own'
      exact own'
  obtain ⟨at_, memAt, ownAt, named⟩ := (before row mem live top).row attached memSt own
  by_cases occupied : row.occupies tenantId workflowId current.name = true
  · rw [if_pos occupied]
    refine ⟨_, List.mem_map_of_mem (mem_of_find?_eq_some found), ?_⟩
    rw [if_pos currentRow]
    refine ⟨?_, rfl⟩
    obtain ⟨both, -⟩ := and_eq_true_iff.mp occupied
    obtain ⟨workflow, tenant⟩ := and_eq_true_iff.mp both
    cases attached.symm.trans (eq_of_beq workflow)
    rw [eq_of_beq tenant]
    exact (and_eq_true_iff.mp currentRow).2
  · rw [if_neg occupied]
    have kept : ¬ at_.isRow tenantId workflowId stateId := by
      intro selected
      obtain rfl := WorkflowState.isRow_eq sound.states found memAt selected
      exact occupied (EntityInstance.occupies_of_row attached ownAt named selected)
    refine ⟨_, List.mem_map_of_mem memAt, ?_⟩
    rw [if_neg kept]
    exact ⟨ownAt, named⟩

theorem Keeps.removeState {state : WorkflowState}
    (found : db.workflowStates.find? (WorkflowState.isRow tenantId workflowId stateId) = some state)
    (empty : ∀ row ∈ db.entityInstances, row.occupies tenantId workflowId state.name = false) :
    Keeps db (Tables.workflowStates.remove (WorkflowState.isRow tenantId workflowId stateId) db)
      True := by
  refine ⟨⟨sound.keyed, sound.states.remove _, sound.relations, sound.linked⟩,
    iff_true_intro fun row mem live top => ?_⟩
  refine .of_row fun id attached ⟨st, memSt, own⟩ => ?_
  obtain ⟨memSt, -⟩ := mem_filter.mp memSt
  obtain ⟨at_, memAt, ownAt, named⟩ := (before row mem live top).row attached memSt own
  refine ⟨at_, mem_filter.mpr ⟨memAt, ?_⟩, ownAt, named⟩
  rw [not_eq_true', eq_false_iff]
  intro selected
  obtain rfl := WorkflowState.isRow_eq sound.states found memAt selected
  have occupied := EntityInstance.occupies_of_row attached ownAt named selected
  rw [empty row mem] at occupied
  cases occupied

theorem Keeps.editState {state : WorkflowState}
    (ran : (updateWorkflowState tenantId workflowId stateId caller input).exec db =
      .ok (state, db')) : Keeps db db' True := by
  obtain ⟨current, found, ⟨-, same, -⟩ | ⟨newName, -, -, rfl⟩⟩ := updateWorkflowState_cases ran
  · exact (Keeps.refl sound before).same same
  · exact .rename sound before found

theorem Keeps.deleteState {u : Unit}
    (ran : (deleteWorkflowState tenantId workflowId stateId caller).exec db = .ok (u, db')) :
    Keeps db db' True := by
  obtain ⟨state, found, -, empty, rfl⟩ := deleteWorkflowState_cases ran
  exact .removeState sound before found empty

/-! ### The canvas -/

end

def CanvasSave.namesAfter (input : CanvasSave) (tenantId workflowId : Id) (db : Db) : List String :=
  ((db.workflowStates.filter fun st => st.ofWorkflow tenantId workflowId &&
      (input.states.filterMap (·.id)).contains st.id).map (·.name)) ++
    (input.states.filter fun s => s.id.isNone).map (·.name)

def Db.CanvasKeepsStates (db : Db) (tenantId workflowId : Id) (input : CanvasSave) : Prop :=
  ∀ row ∈ db.entityInstances, row.workflowId = some workflowId → row.tenantId = tenantId →
    row.deletedAt = none → db.parentId tenantId row.id = none →
      input.namesAfter tenantId workflowId db ≠ [] →
        row.currentState ∈ input.namesAfter tenantId workflowId db

def CanvasSave.replaceStates (input : CanvasSave) (tenantId workflowId : Id) (ids : Nat → Id)
    (db : Db) : Db :=
  Tables.workflowStates.append (input.newStates tenantId workflowId ids)
    (input.drop tenantId workflowId db)

theorem CanvasSave.newStates_own (input : CanvasSave)
    (mem : st ∈ input.newStates tenantId workflowId ids) :
    st.workflowId = workflowId ∧ st.tenantId = tenantId := by
  rcases List.mem_map.mp mem with ⟨_, -, rfl⟩
  exact ⟨rfl, rfl⟩

theorem CanvasSave.newStates_names (input : CanvasSave) (tenantId workflowId : Id)
    (ids : Nat → Id) :
    (input.newStates tenantId workflowId ids).map (·.name) =
      (input.states.filter fun s => s.id.isNone).map (·.name) := by
  unfold CanvasSave.newStates
  calc _ = ((input.states.filter fun s => s.id.isNone).zipIdx.map (·.1)).map (·.name) := by
        rw [List.map_map, List.map_map]
        rfl
    _ = (input.states.filter fun s => s.id.isNone).map (·.name) :=
        congrArg _ (zipIdx_map_fst 0 _)

theorem CanvasSave.stateNames_own (input : CanvasSave) (tenantId workflowId : Id) (ids : Nat → Id)
    (db : Db) :
    (input.replaceStates tenantId workflowId ids db).stateNames tenantId workflowId =
      input.namesAfter tenantId workflowId db := by
  change (((db.workflowStates.filter fun st => !input.drops tenantId workflowId st) ++
    input.newStates tenantId workflowId ids).filter _).map _ = _
  unfold CanvasSave.namesAfter
  rw [filter_append, map_append, List.filter_filter, ← input.newStates_names]
  congr 2
  · refine congrFun (congrArg List.filter (funext fun st => ?_)) _
    unfold CanvasSave.drops WorkflowState.ofWorkflow
    cases st.workflowId == workflowId && st.tenantId == tenantId <;> simp
  · refine filter_eq_self.mpr fun st mem => ?_
    obtain ⟨workflow, tenant⟩ := input.newStates_own mem
    simp [workflow, tenant]

theorem CanvasSave.stateNames_other (input : CanvasSave) (ids : Nat → Id) (db : Db)
    {tenantId' workflowId' : Id} (other : ¬ (workflowId' = workflowId ∧ tenantId' = tenantId)) :
    (input.replaceStates tenantId workflowId ids db).stateNames tenantId' workflowId' =
      db.stateNames tenantId' workflowId' := by
  change (((db.workflowStates.filter fun st => !input.drops tenantId workflowId st) ++
    input.newStates tenantId workflowId ids).filter _).map _ = _
  have none : (input.newStates tenantId workflowId ids).filter (fun st =>
      st.workflowId == workflowId' && st.tenantId == tenantId') = [] := by
    refine filter_eq_nil_iff.mpr fun st mem => ?_
    obtain ⟨rfl, rfl⟩ := input.newStates_own mem
    simp only [and_eq_true, beq_iff_eq]
    exact fun same => other ⟨same.1.symm, same.2.symm⟩
  unfold Db.stateNames
  rw [filter_append, none, append_nil, List.filter_filter]
  congr 1
  refine List.filter_congr fun st _ => ?_
  by_cases own : (st.workflowId == workflowId' && st.tenantId == tenantId') = true
  · have kept : input.drops tenantId workflowId st = false := by
      simp only [and_eq_true, beq_iff_eq] at own
      refine eq_false_iff.mpr fun dropped => ?_
      simp only [CanvasSave.drops, WorkflowState.ofWorkflow, and_eq_true, beq_iff_eq] at dropped
      exact other ⟨own.1.symm.trans dropped.1.1, own.2.symm.trans dropped.1.2⟩
    rw [own, kept]
    rfl
  · rw [eq_false_iff.mpr own]
    rfl

theorem Keeps.canvas {auth : AuthContext} {input : CanvasSave} {full : WorkflowFull}
    (sound : db.Consistent) (before : db.RealStates)
    (ran : (canvasSave tenantId workflowId auth input ids).exec db = .ok (full, db')) :
    Keeps db db' (db.CanvasKeepsStates tenantId workflowId input) := by
  obtain ⟨_, -, fresh, same, -⟩ := canvasSave_cases ran
  have left : (input.replaceStates tenantId workflowId ids db).Consistent :=
    ⟨sound.keyed, (sound.states.remove _).append fresh, sound.relations, sound.linked⟩
  refine Keeps.same ⟨left, ?_⟩ same
  constructor
  · intro after row mem attached own live top states
    have real := after row mem live (own ▸ top) workflowId attached
    rw [own, input.stateNames_own] at real
    exact real states
  · intro kept row mem live top id attached
    by_cases own : id = workflowId ∧ row.tenantId = tenantId
    · obtain ⟨rfl, rfl⟩ := own
      rw [input.stateNames_own]
      exact kept row mem attached rfl live top
    · rw [input.stateNames_other ids db own]
      exact before row mem live top id attached

/-! ## Runs -/

/-- The operations that write records or workflows. -/
inductive EngineCall
  | record (call : RecordCall)
  | bulkCreateEntities (rules : FieldRules) (tenantId : Id) (inputs : List CreateEntityInput)
    (supply : EntitySupply)
  | moveChildRelation (tenantId : Id) (input : MoveChildRelationInput) (supply : EntitySupply)
    (bound : Nat)
  | updateWorkflowState (tenantId workflowId stateId : Id) (caller : WorkflowCaller)
    (input : UpdateWorkflowStateInput)
  | deleteWorkflowState (tenantId workflowId stateId : Id) (caller : WorkflowCaller)
  | addWorkflowTransition (tenantId workflowId : Id) (caller : WorkflowCaller)
    (input : CreateWorkflowTransitionInput) (transitionId : Id)
  | updateWorkflowTransition (tenantId workflowId transitionId : Id) (caller : WorkflowCaller)
    (input : UpdateWorkflowTransitionInput)
  | canvasSave (tenantId workflowId : Id) (auth : AuthContext) (input : CanvasSave) (ids : Nat → Id)

/-- The store after a call that ran alone. -/
def EngineCall.commit (db : Db) : EngineCall → Db
  | record call => call.commit db
  | bulkCreateEntities rules tenantId inputs supply =>
    (OpenWind.bulkCreateEntities rules tenantId inputs supply).commit db
  | moveChildRelation tenantId input supply bound =>
    (OpenWind.moveChildRelation tenantId input supply bound).commit db
  | updateWorkflowState tenantId workflowId stateId caller input =>
    (OpenWind.updateWorkflowState tenantId workflowId stateId caller input).commit db
  | deleteWorkflowState tenantId workflowId stateId caller =>
    (OpenWind.deleteWorkflowState tenantId workflowId stateId caller).commit db
  | addWorkflowTransition tenantId workflowId caller input transitionId =>
    (OpenWind.addWorkflowTransition tenantId workflowId caller input transitionId).commit db
  | updateWorkflowTransition tenantId workflowId transitionId caller input =>
    (OpenWind.updateWorkflowTransition tenantId workflowId transitionId caller input).commit db
  | canvasSave tenantId workflowId auth input ids =>
    (OpenWind.canvasSave tenantId workflowId auth input ids).commit db

def EngineCall.step (db : Db) (call : EngineCall) : Option Db := some (call.commit db)

def EngineCall.Real (db : Db) : EngineCall → Prop
  | record (.executeTransition tenantId request supply) =>
    (OpenWind.executeTransition tenantId request supply).Commits db →
      db.LeadsToReal tenantId request
  | bulkCreateEntities rules tenantId inputs supply =>
    (OpenWind.bulkCreateEntities rules tenantId inputs supply).Commits db →
      db.BatchStartsReal rules tenantId inputs supply
  | moveChildRelation tenantId input supply bound =>
    (OpenWind.moveChildRelation tenantId input supply bound).Commits db →
      input.newParentId = none → db.DetachesToReal tenantId input.childId
  | canvasSave tenantId workflowId auth input ids =>
    (OpenWind.canvasSave tenantId workflowId auth input ids).Commits db →
      db.CanvasKeepsStates tenantId workflowId input
  | _ => True

theorem Keeps.of_commit {p : Tx α} (sound : db.Consistent) (before : db.RealStates)
    (keeps : ∀ {a db'}, p.exec db = .ok (a, db') → Keeps db db' G) :
    Keeps db (p.commit db) (p.Commits db → G) := by
  refine ⟨?_, Tx.commit_iff before fun ran => (keeps ran).real_iff⟩
  rcases p.commit_cases db with ⟨_, -, same⟩ | ⟨_, ran⟩
  · rw [same]
    exact sound
  · exact (keeps ran).consistent

theorem Keeps.of_commit_true {p : Tx α} (sound : db.Consistent) (before : db.RealStates)
    (keeps : ∀ {a db'}, p.exec db = .ok (a, db') → Keeps db db' True) :
    Keeps db (p.commit db) True :=
  (Keeps.of_commit sound before keeps).congr (iff_true_intro fun _ => trivial)

theorem EngineCall.keeps {db : Db} (sound : db.Consistent) (before : db.RealStates)
    (call : EngineCall) : Keeps db (call.commit db) (call.Real db) := by
  cases call with
  | record call =>
    cases call with
    | createEntity => exact .of_commit_true sound before (.create sound before)
    | executeTransition => exact .of_commit sound before (.transition sound before)
    | overrideWorkflowState => exact .of_commit_true sound before (.override sound before)
    | setEntityState => exact .of_commit_true sound before (.setState sound before)
    | bulkSetState => exact .of_commit_true sound before (.bulkSet sound before)
    | updateEntity => exact .of_commit_true sound before (.edit sound before)
    | insertNote => exact .of_commit_true sound before (.note sound before)
  | bulkCreateEntities => exact .of_commit sound before (.bulkCreate sound before)
  | moveChildRelation => exact .of_commit sound before (.move sound before)
  | updateWorkflowState => exact .of_commit_true sound before (.editState sound before)
  | deleteWorkflowState => exact .of_commit_true sound before (.deleteState sound before)
  | addWorkflowTransition =>
    exact .of_commit_true sound before fun ran =>
      (Keeps.refl sound before).same (addWorkflowTransition_cases ran).1
  | updateWorkflowTransition =>
    exact .of_commit_true sound before fun ran =>
      (Keeps.refl sound before).same (updateWorkflowTransition_cases ran).1
  | canvasSave => exact .of_commit sound before (.canvas sound before)

theorem EngineCall.real_iff {db : Db} {call : EngineCall} (sound : db.Consistent)
    (before : db.RealStates) :
    call.Real db ↔ ∀ db', EngineCall.step db call = some db' → db'.RealStates := by
  rw [← (call.keeps sound before).real_iff]
  exact ⟨fun after db' stepped => Option.some.inj stepped ▸ after, fun all => all _ rfl⟩

/-- Along a run every record stays in a real state, exactly when every call that
commits meets its condition. -/
theorem current_state_real {db : Db} {calls : List EngineCall} (sound : db.Consistent)
    (before : db.RealStates) :
    Runs.Always EngineCall.step Db.RealStates db calls ↔
      Runs.Guarded EngineCall.step EngineCall.Real db calls := by
  refine Runs.guarded_iff (fun {s l t} sound before stepped _ => ?_) EngineCall.real_iff sound before
  cases stepped
  exact (l.keeps sound before).consistent

/-! ### A record that is detached -/

def detachDb (first : String) : Db where
  workflows := [{ id := 1, tenantId := some 1, entityTypeId := 1, initialState := first }]
  workflowStates :=
    [{ id := 1, tenantId := 1, workflowId := 1, name := first },
      { id := 2, tenantId := 1, workflowId := 1, name := "closed" }]

def detachCreate (id : Id) : EngineCall :=
  .record (.createEntity .acceptAll 1 { entityTypeId := 1, fields := [], workflowId := some 1 }
    ⟨0, 0, fun i => id + i⟩)

def detachMove (newParentId : Option Id) : EngineCall :=
  .moveChildRelation 1 ⟨40, newParentId⟩ ⟨1, 1, fun i => 70 + i⟩ 5

def detachCalls : List EngineCall :=
  [detachCreate 10, detachCreate 40, detachMove (some 10), detachMove none]

theorem detachDb_consistent (first : String) : (detachDb first).Consistent :=
  ⟨nodup_nil, by simp [Table.Keyed, detachDb], nodup_nil, fun _ mem => absurd mem not_mem_nil⟩

theorem detachDb_realStates (first : String) : (detachDb first).RealStates :=
  fun _ mem => absurd mem not_mem_nil

/-- The detached record is in `initial`, which is none of its workflow's states. -/
theorem current_state_unreal :
    ¬ Runs.Always EngineCall.step Db.RealStates (detachDb "open") detachCalls := by
  intro always
  have reached : (Runs.run EngineCall.step (detachDb "open") detachCalls).any (fun db =>
      db.entityInstances.any fun row => decide (row.deletedAt = none ∧
        db.parentId row.tenantId row.id = none ∧ row.workflowId = some 1 ∧
        db.stateNames row.tenantId 1 ≠ [] ∧
        row.currentState ∉ db.stateNames row.tenantId 1)) = true := by
    decide +kernel
  obtain ⟨db, ran, found⟩ := (Option.any_eq_true _ _).mp reached
  obtain ⟨row, mem, facts⟩ := List.any_eq_true.mp found
  obtain ⟨live, top, attached, states, unreal⟩ := of_decide_eq_true facts
  exact unreal (always.last ran row mem live top 1 attached states)

/-- In a workflow that has the state `initial` the record may be detached. -/
theorem current_state_real_initial :
    Runs.Always EngineCall.step Db.RealStates (detachDb "initial")
      [detachCreate 40, detachMove none] := by
  have created : (EngineCall.step (detachDb "initial") (detachCreate 40)).map
      (fun db => (db.entityInstances.map (·.workflowId), db.stateNames 1 1)) =
      some ([some 1], ["initial", "closed"]) := by
    decide +kernel
  refine (current_state_real (detachDb_consistent _) (detachDb_realStates _)).mpr
    ⟨trivial, fun db stepped => ⟨fun _ _ row mem _ _ id attached _ => ?_, fun _ _ => trivial⟩⟩
  rw [stepped] at created
  obtain ⟨workflows, names⟩ := Prod.mk.inj (Option.some.inj created)
  have one : row.workflowId ∈ [some 1] := workflows ▸ List.mem_map_of_mem mem
  rw [attached, mem_singleton, Option.some.injEq] at one
  rw [one, names]
  exact mem_cons_self

end OpenWind
