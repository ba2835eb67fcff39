import OpenWind.Entity.RealStates
import OpenWind.Entity.BulkUpdate
import OpenWind.Entity.Archive

/-!
# Direct writes of a protected state

A workflow that admits overrides, or has a transition with a rule on the actor, is
protected: its records change their state by transitions and overrides only.
-/

open List Option Bool

namespace OpenWind

open Txn EntityInstance

/-! ## Protected workflows -/

def Db.Protected (db : Db) (workflow : Workflow) : Prop :=
  workflow.allowStateOverride = true ∨ ∃ transition ∈ db.workflowTransitions,
    transition.workflowId = workflow.id ∧
      ∃ tree, transition.conditions = some tree ∧ treeUsesActorRule tree = true

def Db.OwnState (db : Db) (workflow : Workflow) (name : String) : Prop :=
  ∃ st ∈ db.workflowStates, st.workflowId = workflow.id ∧ st.name = name

def Db.LockHolds (db db' : Db) : Prop :=
  ∀ workflow ∈ db.workflows, db.Protected workflow → ∀ row ∈ db.entityInstances,
    row.workflowId = some workflow.id → ∀ row' ∈ db'.entityInstances, row'.id = row.id →
      row'.currentState = row.currentState ∨ ¬ db.OwnState workflow row'.currentState

structure Db.TenantsOwn (db : Db) : Prop where
  keyed : db.Keyed
  records : ∀ row ∈ db.entityInstances, ∀ workflow ∈ db.workflows,
    row.workflowId = some workflow.id → workflow.tenantId = some row.tenantId
  states : ∀ st ∈ db.workflowStates, ∀ workflow ∈ db.workflows,
    st.workflowId = workflow.id → workflow.tenantId = some st.tenantId
  transitions : ∀ transition ∈ db.workflowTransitions, ∀ workflow ∈ db.workflows,
    transition.workflowId = workflow.id → workflow.tenantId = some transition.tenantId

theorem Db.TenantsOwn.locked {db : Db} (own : db.TenantsOwn) {workflow : Workflow}
    {row : EntityInstance} (mem : workflow ∈ db.workflows) (protects : db.Protected workflow)
    (memRow : row ∈ db.entityInstances) (attached : row.workflowId = some workflow.id) :
    db.isStateWriteLocked row.tenantId workflow.id := by
  refine not_eq_false _ ▸ fun unlocked => ?_
  have tenant := own.records row memRow workflow mem attached
  have free := Db.isStateWriteLocked_eq_false.mp unlocked workflow mem tenant rfl
  refine absurd ?_ (eq_false_iff.mp free)
  unfold Db.isLockedWorkflow
  rcases protects with overridable | ⟨transition, memT, ofWorkflow, tree, conditions, rule⟩
  · rw [overridable, Bool.true_or]
  · have tenantT := own.transitions transition memT workflow mem ofWorkflow
    have same : transition.tenantId = row.tenantId := Option.some.inj (tenantT.symm.trans tenant)
    refine or_eq_true_iff.mpr (.inr (List.any_eq_true.mpr ⟨transition, memT, ?_⟩))
    unfold WorkflowTransition.locks
    rw [conditions, ofWorkflow, same]
    simp [mentionsActor_of_usesActorRule rule]

/-! ## What a call does to the records -/

structure Rewrites (db db' : Db) (f : EntityInstance → EntityInstance)
    (fresh : List EntityInstance) : Prop where
  instances : db'.entityInstances = db.entityInstances.map f ++ fresh
  same : ∀ row, (f row).id = row.id ∧ (f row).tenantId = row.tenantId ∧
    (f row).workflowId = row.workflowId
  unused : db.Unused fresh
  attached : ∀ row ∈ fresh, ∃ old ∈ db.entityInstances, old.workflowId = row.workflowId ∧
    old.tenantId = row.tenantId
  workflows : db'.workflows = db.workflows
  states : db'.workflowStates = db.workflowStates
  transitions : db'.workflowTransitions = db.workflowTransitions

variable {db db' : Db} {α : Type}

theorem Rewrites.tenantsOwn {f : EntityInstance → EntityInstance} {fresh : List EntityInstance}
    (rewrites : Rewrites db db' f fresh) (own : db.TenantsOwn) : db'.TenantsOwn := by
  constructor
  · exact own.keyed.grow (fun row => (rewrites.same row).1) rewrites.instances rewrites.unused
  · intro row' mem' workflow
    rw [rewrites.workflows]
    intro mem attached
    rw [rewrites.instances] at mem'
    rcases mem_append.mp mem' with old | new
    · obtain ⟨row, memRow, rfl⟩ := List.mem_map.mp old
      obtain ⟨-, tenant, ofWorkflow⟩ := rewrites.same row
      rw [tenant]
      exact own.records row memRow workflow mem (ofWorkflow.symm.trans attached)
    · obtain ⟨old, memOld, ofWorkflow, tenant⟩ := rewrites.attached row' new
      rw [← tenant]
      exact own.records old memOld workflow mem (ofWorkflow.trans attached)
  · rw [rewrites.states, rewrites.workflows]
    exact own.states
  · rw [rewrites.transitions, rewrites.workflows]
    exact own.transitions

theorem Rewrites.row {db db' : Db} {f : EntityInstance → EntityInstance}
    {fresh : List EntityInstance} (rewrites : Rewrites db db' f fresh) (keyed : db.Keyed)
    {row row' : EntityInstance} (mem : row ∈ db.entityInstances)
    (mem' : row' ∈ db'.entityInstances) (named : row'.id = row.id) : row' = f row := by
  rw [rewrites.instances] at mem'
  rcases mem_append.mp mem' with old | new
  · obtain ⟨other, memOther, rfl⟩ := List.mem_map.mp old
    rw [keyed.eq memOther mem ((rewrites.same other).1.symm.trans named)]
  · exact absurd named.symm (rewrites.unused.2 row' new row mem)

def Db.Direct (db db' : Db) : Prop :=
  ∃ f fresh, Rewrites db db' f fresh ∧ ∀ row ∈ db.entityInstances,
    db.LockAllows row.tenantId row.workflowId row.currentState (f row).currentState

theorem Db.Direct.lockHolds (direct : db.Direct db') (own : db.TenantsOwn) : db.LockHolds db' := by
  obtain ⟨f, fresh, rewrites, allows⟩ := direct
  intro workflow mem protects row memRow attached row' mem' named
  rw [rewrites.row own.keyed memRow mem' named]
  rcases allows row memRow workflow.id attached with same | unnamed | unlocked
  · exact .inl same
  · refine .inr fun ⟨st, memState, ofWorkflow, named⟩ => unnamed (Db.mem_stateNames.mpr
      ⟨st, memState, ?_, named⟩)
    have tenant := own.states st memState workflow mem ofWorkflow
    have same := own.records row memRow workflow mem attached
    have tenants : st.tenantId = row.tenantId := Option.some.inj (tenant.symm.trans same)
    simp [WorkflowState.ofWorkflow, ofWorkflow, tenants]
  · exact absurd (own.locked mem protects memRow attached) (eq_false_iff.mp unlocked)

/-! ## The calls -/

section Calls

variable {db db' : Db} {tenantId : Id}

theorem Rewrites.of_map {f : EntityInstance → EntityInstance}
    (instances : db'.entityInstances = db.entityInstances.map f)
    (same : ∀ row, (f row).id = row.id ∧ (f row).tenantId = row.tenantId ∧
      (f row).workflowId = row.workflowId)
    (workflows : db'.workflows = db.workflows) (states : db'.workflowStates = db.workflowStates)
    (transitions : db'.workflowTransitions = db.workflowTransitions) : Rewrites db db' f [] :=
  ⟨by rw [instances, append_nil], same, db.unused_nil,
    fun _ mem => absurd mem not_mem_nil, workflows, states, transitions⟩

theorem SameRecord.kept {row row' : EntityInstance} (same : SameRecord row row') :
    row'.id = row.id ∧ row'.tenantId = row.tenantId ∧ row'.workflowId = row.workflowId :=
  ⟨same.id, same.tenantId, same.workflowId⟩

theorem Db.LockAllows.refl (db : Db) (tenantId : Id) (workflowId : Option Id) (state : String) :
    db.LockAllows tenantId workflowId state state :=
  fun _ _ => .inl rfl

theorem Db.Direct.refl (db : Db) : db.Direct db :=
  ⟨id, [], .of_map (List.map_id _).symm (fun _ => ⟨rfl, rfl, rfl⟩) rfl rfl rfl,
    fun _ _ => .refl db _ _ _⟩

theorem Db.Direct.of_update (keyed : db.Keyed) {existing : EntityInstance}
    {g : EntityInstance → EntityInstance} (mem : existing ∈ db.entityInstances)
    (selected : existing.isOf tenantId existing.id) (same : ∀ row, SameRecord row (g row))
    (instances : db'.entityInstances = db.entityInstances.map fun row =>
      if isOf tenantId existing.id row then g row else row)
    (definitions : SameDefinitions db db')
    (allows : db.LockAllows tenantId existing.workflowId existing.currentState
      (g existing).currentState) : db.Direct db' := by
  refine ⟨_, [], .of_map instances (fun row => (SameRecord.ite same _ row).kept)
    definitions.workflows definitions.states definitions.transitions, fun row memRow => ?_⟩
  by_cases chosen : row.isOf tenantId existing.id = true
  · obtain ⟨named, own⟩ := and_eq_true_iff.mp chosen
    obtain rfl := keyed.eq memRow mem (eq_of_beq named)
    rw [if_pos chosen, eq_of_beq own]
    exact allows
  · rw [if_neg chosen]
    exact .refl db _ _ _

variable {instanceId : Id} {actorId : Option String} {supply : EntitySupply} {rules : FieldRules}
  {input : MoveChildRelationInput} {bound : Nat}

theorem Db.Direct.setState (keyed : db.Keyed) {state : String} {row : EntityInstance}
    (ran : (setEntityState tenantId instanceId state actorId supply).exec db = .ok (row, db')) :
    db.Direct db' := by
  obtain ⟨existing, found, ⟨-, allows⟩, effect⟩ := setEntityState_cases ran
  obtain ⟨mem, rfl, selected⟩ := foundLive found
  exact .of_update keyed mem selected (.enter state supply.now) effect.instances
    effect.definitions allows

theorem Db.Direct.edit (keyed : db.Keyed) {input : UpdateEntityInput} {row : EntityInstance}
    (ran : (updateEntity rules tenantId instanceId input supply).exec db = .ok (row, db')) :
    db.Direct db' := by
  obtain ⟨existing, found, ⟨rfl, -⟩ | ⟨fields, changed, workflowId, edited⟩⟩ := updateEntity_cases ran
  · exact .refl db'
  · obtain ⟨mem, rfl, selected⟩ := foundLive found
    refine .of_update keyed mem selected (.apply input fields supply.now) edited.effect.instances
      edited.effect.definitions ?_
    cases asked : input.currentState.join with
    | none =>
      have kept : (input.apply fields supply.now existing).currentState = existing.currentState := by
        unfold UpdateEntityInput.apply
        rw [asked, getD_none]
      rw [kept]
      exact .refl db _ _ _
    | some state =>
      have entered : (input.apply fields supply.now existing).currentState = state := by
        unfold UpdateEntityInput.apply
        rw [asked, getD_some]
      rw [entered]
      exact edited.unlocked state asked

theorem Db.Direct.bulkSet (keyed : db.Keyed) {items : List BulkItem} {result : BulkSetStateResult}
    (ran : (bulkSetState tenantId items actorId supply).exec db = .ok (result, db')) :
    db.Direct db' := by
  have effect := bulkSetState_cases ran
  refine ⟨_, [], .of_map effect.instances
    (fun row => (SameRecord.throughBuckets tenantId supply.now _ row).kept)
    effect.definitions.workflows effect.definitions.states effect.definitions.transitions,
    fun row mem => ?_⟩
  rw [throughBuckets_state]
  cases visited : (row.visits tenantId (db.bulkBuckets tenantId items)).getLast? with
  | none => exact .refl db _ _ _
  | some state =>
    have entered := mem_of_getLast? visited
    unfold Db.bulkBuckets at entered
    rw [visits_groupByState, mem_filter, inBucket_iff] at entered
    obtain ⟨-, accepted, rfl⟩ := entered
    exact Db.lockAllows_of_accepted accepted (Db.prior_of_accepted keyed mem accepted rfl).1

theorem Db.Direct.bulkUpdate {base : FieldRules} {rules : EditRules} {items : List BulkUpdateItem}
    {order : List Nat} {result : BulkUpdateResult}
    (ran : (bulkUpdateEntities base rules tenantId items order supply).exec db =
      .ok (result, db')) : db.Direct db' := by
  obtain ⟨f, same, effect⟩ := (bulkUpdateEntities_keepsStates ran).records
  refine ⟨f, [], .of_map effect.instances (fun row => ⟨(same row).1, (same row).2.1, (same row).2.2.1⟩)
    effect.definitions.workflows effect.definitions.states effect.definitions.transitions,
    fun row _ => ?_⟩
  rw [(same row).2.2.2]
  exact .refl db _ _ _

theorem Db.Direct.createChild {input : CreateChildRelationInput} {row : EntityInstance}
    (ran : (createChildRelation rules tenantId input supply).exec db = .ok (row, db')) :
    db.Direct db' := by
  obtain ⟨parent, workflowId, mid, -, takes, attached, rfl, unused, effect, -, rfl⟩ :=
    createChildRelation_cases ran
  refine ⟨id, _, ⟨?_, fun _ => ⟨rfl, rfl, rfl⟩, unused, fun row mem => ?_,
    effect.definitions.workflows, effect.definitions.states, effect.definitions.transitions⟩,
    fun _ _ => .refl db _ _ _⟩
  · rw [List.map_id]
    exact effect.instances
  · rw [mem_singleton.mp mem]
    exact ⟨parent, takes.mem, attached, eq_of_beq (and_eq_true_iff.mp takes.selected).2⟩

/-- The record goes to `initial` without meeting a lock. -/
def Db.DetachAllowed (db : Db) (tenantId childId : Id) : Prop :=
  ∀ row ∈ db.entityInstances, row.isOf tenantId childId = true → row.deletedAt = none →
    ∀ workflow ∈ db.workflows, db.Protected workflow → row.workflowId = some workflow.id →
      row.currentState = "initial" ∨ ¬ db.OwnState workflow "initial"

theorem Db.unlinked_rewrites (db : Db) (tenantId childId : Id) (now : Time) :
    Rewrites db (db.unlinked tenantId childId now) id [] :=
  Db.unlinked_keeps tenantId childId (P := fun other => Rewrites db other id [])
    (fun _ _ rewrites => ⟨rewrites.instances, rewrites.same, rewrites.unused, rewrites.attached,
      rewrites.workflows, rewrites.states, rewrites.transitions⟩)
    (.of_map (List.map_id _).symm (fun _ => ⟨rfl, rfl, rfl⟩) rfl rfl rfl)

theorem Rewrites.detach (db : Db) (tenantId childId : Id) (now : Time) :
    Rewrites db (Tables.entityInstances.modify (isOf tenantId childId)
      (detach now) (db.unlinked tenantId childId now))
      (fun row => if row.isOf tenantId childId then row.detach now else row) [] := by
  have unlinked := db.unlinked_rewrites tenantId childId now
  refine .of_map ?_ (fun row => (SameRecord.ite (.detach now) _ row).kept)
    unlinked.workflows unlinked.states unlinked.transitions
  change (db.unlinked tenantId childId now).entityInstances.map _ = _
  rw [Db.unlinked_instances]

theorem moveChildRelation_rewrites {pair : List EntityRelation}
    (ran : (moveChildRelation tenantId input supply bound).exec db = .ok (pair, db')) :
    ∃ child ∈ db.entityInstances, child.isOf tenantId input.childId ∧
      child.deletedAt = none ∧ ((input.newParentId = none ∧ Rewrites db db' (fun row =>
          if row.isOf tenantId input.childId then row.detach supply.startedAt else row) []) ∨
        input.newParentId ≠ none ∧ Rewrites db db' id []) := by
  obtain ⟨child, mem, selected, live, ⟨asked, rfl⟩ |
    ⟨parent, _, _, asked, -, -, -, -, -, -, -, rfl⟩⟩ := moveChildRelation_cases ran
  · exact ⟨child, mem, selected, live,
      .inl ⟨asked, .detach db tenantId input.childId supply.startedAt⟩⟩
  · have unlinked := db.unlinked_rewrites tenantId input.childId supply.startedAt
    refine ⟨child, mem, selected, live, .inr ⟨by rw [asked]; exact some_ne_none _, ?_⟩⟩
    exact ⟨unlinked.instances, unlinked.same, unlinked.unused, unlinked.attached,
      unlinked.workflows, unlinked.states, unlinked.transitions⟩

theorem moveChildRelation_detaches (keyed : db.Keyed) {row : EntityInstance}
    (asked : input.newParentId = none) (mem : row ∈ db.entityInstances)
    (selected : row.isOf tenantId input.childId) (live : row.deletedAt = none) :
    ∃ result, (moveChildRelation tenantId input supply bound).exec db = .ok result := by
  have found : db.entityInstances.find? (isOf tenantId input.childId) = some row := by
    obtain ⟨other, found⟩ := isSome_iff_exists.mp (find?_isSome.mpr ⟨row, mem, selected⟩)
    have same : other.isOf tenantId input.childId := find?_some found
    rw [found, keyed.eq (mem_of_find?_eq_some found) mem
      ((eq_of_beq (and_eq_true_iff.mp same).1).trans
        (eq_of_beq (and_eq_true_iff.mp selected).1).symm)]
  have alive : (some row).filter (fun r => r.deletedAt == none) = some row := by
    rw [filter_some, live]
    rfl
  have locked : (lockRecord tenantId input.childId).exec db = .ok (row, db) := by
    unfold lockRecord
    rw [Prog.bind_eq, Prog.exec_bind, Table.exec_lockRow, Tables.entityInstances_rows, found]
    simp only [alive]
    rfl
  unfold moveChildRelation
  rw [Prog.bind_eq, Prog.exec_bind, locked]
  simp only [Prog.bind_eq, Prog.exec_bind, exec_unlinkChild, asked, Table.exec_update,
    Prog.exec_pure]
  exact ⟨_, rfl⟩

theorem Db.Direct.markTree (db : Db) (tenantId rootId : Id) (ids : List Id)
    (before after : Option Time) : db.Direct (db.markTree tenantId rootId ids before after) := by
  have kept (b : Bool) (row : EntityInstance) :
      ((if b then row.setDeletedAt after else row).id = row.id ∧
        (if b then row.setDeletedAt after else row).tenantId = row.tenantId ∧
        (if b then row.setDeletedAt after else row).workflowId = row.workflowId) ∧
        (if b then row.setDeletedAt after else row).currentState = row.currentState := by
    cases b
    · exact ⟨⟨rfl, rfl, rfl⟩, rfl⟩
    · exact ⟨⟨rfl, rfl, rfl⟩, rfl⟩
  refine ⟨_, [], .of_map rfl (fun row => (kept _ row).1) rfl rfl rfl, fun row _ => ?_⟩
  rw [(kept _ row).2]
  exact .refl db _ _ _

theorem Db.Direct.archive {confirm : Bool} {result : ArchiveResult}
    (ran : (archiveEntity tenantId instanceId confirm supply bound).exec db = .ok (result, db')) :
    db.Direct db' := by
  rcases archiveEntity_cases ran with rfl | ⟨row, ids, -, -, -, rfl⟩
  · exact .refl db'
  · obtain ⟨f, fresh, rewrites, allows⟩ :=
      Db.Direct.markTree db tenantId instanceId (instanceId :: ids) none (some supply.now)
    exact ⟨f, fresh, ⟨rewrites.instances, rewrites.same, rewrites.unused, rewrites.attached,
      rewrites.workflows, rewrites.states, rewrites.transitions⟩, allows⟩

end Calls

/-! ## Runs -/

/-- The calls that write records directly. -/
inductive DirectCall
  | updateEntity (rules : FieldRules) (tenantId instanceId : Id) (input : UpdateEntityInput)
    (supply : EntitySupply)
  | setEntityState (tenantId instanceId : Id) (state : String) (actorId : Option String)
    (supply : EntitySupply)
  | bulkSetState (tenantId : Id) (items : List BulkItem) (actorId : Option String)
    (supply : EntitySupply)
  | createChildRelation (rules : FieldRules) (tenantId : Id) (input : CreateChildRelationInput)
    (supply : EntitySupply)
  | moveChildRelation (tenantId : Id) (input : MoveChildRelationInput) (supply : EntitySupply)
    (bound : Nat)
  | archiveEntity (tenantId instanceId : Id) (confirm : Bool) (supply : EntitySupply) (bound : Nat)
  | restoreEntity (tenantId instanceId : Id) (bound : Nat)
  | bulkUpdateEntities (base : FieldRules) (rules : EditRules) (tenantId : Id)
    (items : List BulkUpdateItem) (order : List Nat) (supply : EntitySupply)

def DirectCall.commit (db : Db) : DirectCall → Db
  | updateEntity rules tenantId instanceId input supply =>
    (OpenWind.updateEntity rules tenantId instanceId input supply).commit db
  | setEntityState tenantId instanceId state actorId supply =>
    (OpenWind.setEntityState tenantId instanceId state actorId supply).commit db
  | bulkSetState tenantId items actorId supply =>
    (OpenWind.bulkSetState tenantId items actorId supply).commit db
  | createChildRelation rules tenantId input supply =>
    (OpenWind.createChildRelation rules tenantId input supply).commit db
  | moveChildRelation tenantId input supply bound =>
    (OpenWind.moveChildRelation tenantId input supply bound).commit db
  | archiveEntity tenantId instanceId confirm supply bound =>
    (OpenWind.archiveEntity tenantId instanceId confirm supply bound).commit db
  | restoreEntity tenantId instanceId bound =>
    (OpenWind.restoreEntity tenantId instanceId bound).commit db
  | bulkUpdateEntities base rules tenantId items order supply =>
    (OpenWind.bulkUpdateEntities base rules tenantId items order supply).commit db

inductive StateCall
  | direct (call : DirectCall)
  | executeTransition (tenantId : Id) (request : TransitionRequest) (supply : Supply)
  | overrideWorkflowState (tenantId : Id) (request : StateOverrideRequest) (supply : Supply)

def StateCall.commit (db : Db) : StateCall → Db
  | direct call => call.commit db
  | executeTransition tenantId request supply =>
    (OpenWind.executeTransition tenantId request supply).commit db
  | overrideWorkflowState tenantId request supply =>
    (OpenWind.overrideWorkflowState tenantId request supply).commit db

def StateCall.step (db : Db) (call : StateCall) : Option Db := some (call.commit db)

def StateCall.LockHolds (db : Db) : StateCall → Prop
  | direct call => db.LockHolds (call.commit db)
  | _ => True

/-- The condition of a call. -/
def StateCall.Allowed (db : Db) : StateCall → Prop
  | direct (.moveChildRelation tenantId input _ _) =>
    input.newParentId = none → db.DetachAllowed tenantId input.childId
  | _ => True

theorem Db.Direct.of_commit {p : Tx α}
    (direct : ∀ {a db'}, p.exec db = .ok (a, db') → db.Direct db') : db.Direct (p.commit db) :=
  Tx.commit_of (.refl db) direct

theorem Rewrites.refl (db : Db) : Rewrites db db id [] :=
  .of_map (List.map_id _).symm (fun _ => ⟨rfl, rfl, rfl⟩) rfl rfl rfl

theorem Rewrites.of_commit {p : Tx α}
    (rewrites : ∀ {a db'}, p.exec db = .ok (a, db') → ∃ f fresh, Rewrites db db' f fresh) :
    ∃ f fresh, Rewrites db (p.commit db) f fresh :=
  Tx.commit_of (P := fun db' => ∃ f fresh, Rewrites db db' f fresh) ⟨id, [], .refl db⟩ rewrites

theorem Rewrites.changeState (db : Db) (tenantId : Id) (instance_ : LockedInstance)
    (change : StateChange) (supply : Supply) :
    ∃ f fresh, Rewrites db (db.changeState tenantId instance_ change supply) f fresh :=
  ⟨_, [], .of_map rfl (fun row => (SameRecord.ite (.enter change.toState supply.now) _ row).kept)
    rfl rfl rfl⟩

def DirectCall.IsMove : DirectCall → Prop
  | moveChildRelation .. => True
  | _ => False

theorem DirectCall.direct {call : DirectCall} (keyed : db.Keyed) (stays : ¬ call.IsMove) :
    db.Direct (call.commit db) := by
  cases call with
  | updateEntity => exact .of_commit (.edit keyed)
  | setEntityState => exact .of_commit (.setState keyed)
  | bulkSetState => exact .of_commit (.bulkSet keyed)
  | createChildRelation => exact .of_commit .createChild
  | moveChildRelation => exact absurd trivial stays
  | archiveEntity => exact .of_commit .archive
  | restoreEntity => exact .of_commit fun ran => absurd ran restoreEntity_fails
  | bulkUpdateEntities => exact .of_commit .bulkUpdate

theorem StateCall.rewrites (db : Db) (keyed : db.Keyed) (call : StateCall) :
    ∃ f fresh, Rewrites db (call.commit db) f fresh := by
  cases call with
  | direct call =>
    by_cases moves : call.IsMove
    · cases call with
      | moveChildRelation =>
        refine Rewrites.of_commit fun ran => ?_
        obtain ⟨-, -, -, -, ⟨-, rewrites⟩ | ⟨-, rewrites⟩⟩ := moveChildRelation_rewrites ran
        · exact ⟨_, _, rewrites⟩
        · exact ⟨_, _, rewrites⟩
      | _ => exact absurd moves id
    · obtain ⟨f, fresh, rewrites, -⟩ := DirectCall.direct keyed moves
      exact ⟨f, fresh, rewrites⟩
  | executeTransition =>
    refine Rewrites.of_commit fun ran => ?_
    rcases executeTransition_cases ran with ⟨_, _, -, -, -, rfl⟩ | ⟨instance_, _, -, -, -, rfl⟩
    · exact ⟨id, [], .refl _⟩
    · exact Rewrites.changeState _ _ instance_ _ _
  | overrideWorkflowState =>
    refine Rewrites.of_commit fun ran => ?_
    obtain ⟨instance_, _, -, -, -, rfl⟩ := overrideWorkflowState_cases ran
    exact Rewrites.changeState _ _ instance_ _ _

theorem moveChildRelation_lockHolds (own : db.TenantsOwn) (tenantId : Id)
    (input : MoveChildRelationInput) (supply : EntitySupply) (bound : Nat) :
    db.LockHolds ((moveChildRelation tenantId input supply bound).commit db) ↔
      (input.newParentId = none → db.DetachAllowed tenantId input.childId) := by
  constructor
  · intro holds asked row mem selected live workflow memW protects attached
    obtain ⟨⟨pair, db'⟩, ran⟩ := moveChildRelation_detaches own.keyed asked mem selected live
    have committed : (moveChildRelation tenantId input supply bound).commit db = db' := by
      unfold Tx.commit
      rw [ran]
    rw [committed] at holds
    obtain ⟨-, -, -, -, ⟨-, rewrites⟩ | ⟨other, -⟩⟩ := moveChildRelation_rewrites ran
    · have mem' : row.detach supply.startedAt ∈ db'.entityInstances := by
        rw [rewrites.instances]
        exact mem_append_left _ (List.mem_map.mpr ⟨row, mem, if_pos selected⟩)
      rcases holds workflow memW protects row mem attached _ mem' rfl with same | unnamed
      · exact .inl same.symm
      · exact .inr unnamed
    · exact absurd asked other
  · intro allowed
    rcases (moveChildRelation tenantId input supply bound).commit_cases db with
      ⟨_, -, same⟩ | ⟨_, ran⟩
    · rw [same]
      exact (Db.Direct.refl db).lockHolds own
    · obtain ⟨child, memChild, selected, live, ⟨asked, rewrites⟩ | ⟨-, rewrites⟩⟩ :=
        moveChildRelation_rewrites ran
      · intro workflow memW protects row mem attached row' mem' named
        rw [rewrites.row own.keyed mem mem' named]
        by_cases chosen : row.isOf tenantId input.childId = true
        · have child_eq : row = child := own.keyed.eq mem memChild
            ((eq_of_beq (and_eq_true_iff.mp chosen).1).trans
              (eq_of_beq (and_eq_true_iff.mp selected).1).symm)
          rw [if_pos chosen]
          rcases allowed asked row mem chosen (child_eq ▸ live) workflow memW protects attached with
            same | unnamed
          · exact .inl same.symm
          · exact .inr unnamed
        · rw [if_neg chosen]
          exact .inl rfl
      · exact Db.Direct.lockHolds ⟨_, _, rewrites, fun _ _ => .refl db _ _ _⟩ own

theorem StateCall.lockHolds_iff (own : db.TenantsOwn) (call : StateCall) :
    call.LockHolds db ↔ call.Allowed db := by
  cases call with
  | direct call =>
    cases call with
    | moveChildRelation tenantId input supply bound =>
      exact moveChildRelation_lockHolds own tenantId input supply bound
    | _ => exact iff_true_intro ((DirectCall.direct own.keyed id).lockHolds own)
  | executeTransition => exact Iff.rfl
  | overrideWorkflowState => exact Iff.rfl

/-- In a run no direct call moves a protected record exactly when no move detaches one
into a state `initial` of its workflow. -/
theorem direct_writes_locked {db : Db} {calls : List StateCall} (own : db.TenantsOwn) :
    Runs.Guarded StateCall.step StateCall.LockHolds db calls ↔
      Runs.Guarded StateCall.step StateCall.Allowed db calls := by
  induction calls generalizing db with
  | nil => exact Iff.rfl
  | cons call rest ih =>
    refine and_congr (call.lockHolds_iff own) (forall₂_congr fun db' stepped => ih ?_)
    cases stepped
    obtain ⟨f, fresh, rewrites⟩ := call.rewrites db own.keyed
    exact rewrites.tenantsOwn own

/-! ### A detached child -/

def overridableDb (names : List String) : Db where
  workflows :=
    [{ id := 1, tenantId := some 1, entityTypeId := 1, initialState := "open"
       allowStateOverride := true }]
  workflowStates := names.zipIdx.map fun (name, i) =>
    { id := i, tenantId := 1, workflowId := 1, name := name }
  entityInstances :=
    [{ id := 10, entityTypeId := 1, tenantId := 1, workflowId := some 1, currentState := "open"
       createdAt := 0, updatedAt := 0 }]

def overridableCreate : StateCall :=
  .direct (.createChildRelation .acceptAll 1 { parentId := 10, childFields := [], entityTypeId := 1 }
    ⟨100, 100, fun i => 100 + i⟩)

def overridableDetach : StateCall :=
  .direct (.moveChildRelation 1 ⟨100, none⟩ ⟨200, 200, fun i => 200 + i⟩ 5)

theorem overridableDb_own (names : List String) : (overridableDb names).TenantsOwn := by
  refine ⟨nodup_singleton _, fun row mem workflow memW _ => ?_, fun st mem workflow memW _ => ?_,
    fun _ mem => absurd mem not_mem_nil⟩
  · rw [mem_singleton.mp mem, mem_singleton.mp memW]
  · obtain ⟨_, -, rfl⟩ := List.mem_map.mp mem
    rw [mem_singleton.mp memW]

/-- The detached child of a workflow with a state `initial` goes there from `open`. -/
theorem direct_write_unlocked :
    ¬ Runs.Guarded StateCall.step StateCall.LockHolds (overridableDb ["initial", "open"])
      [overridableCreate, overridableDetach] := by
  rintro ⟨-, rest⟩
  obtain ⟨holds, -⟩ := rest _ rfl
  have moved : ((overridableCreate.commit (overridableDb ["initial", "open"])).workflows.any
      fun workflow => (overridableCreate.commit (overridableDb ["initial", "open"])).entityInstances.any
        fun row => (overridableDetach.commit (overridableCreate.commit
          (overridableDb ["initial", "open"]))).entityInstances.any fun row' =>
            workflow.allowStateOverride && row.workflowId == some workflow.id && row'.id == row.id &&
              row'.currentState != row.currentState &&
              (overridableCreate.commit (overridableDb ["initial", "open"])).workflowStates.any
                fun st => st.workflowId == workflow.id && st.name == row'.currentState) = true := by
    decide +kernel
  obtain ⟨workflow, memW, found⟩ := List.any_eq_true.mp moved
  obtain ⟨row, mem, found⟩ := List.any_eq_true.mp found
  obtain ⟨row', mem', facts⟩ := List.any_eq_true.mp found
  simp only [and_eq_true, beq_iff_eq, bne_iff_ne, List.any_eq_true] at facts
  obtain ⟨⟨⟨⟨overridable, attached⟩, named⟩, other⟩, st, memSt, ofWorkflow, entered⟩ := facts
  rcases holds workflow memW (.inl overridable) row mem attached row' mem' named with same | unnamed
  · exact other same
  · exact unnamed ⟨st, memSt, ofWorkflow, entered⟩

/-- The child of a workflow without a state `initial` is detached into none of its
states. -/
theorem direct_writes_locked_detached :
    Runs.Guarded StateCall.step StateCall.LockHolds (overridableDb ["open", "closed"])
      [overridableCreate, overridableDetach] := by
  have names : ((overridableCreate.commit (overridableDb ["open", "closed"])).workflowStates.all
      fun st => st.name != "initial") = true := by
    decide +kernel
  refine (direct_writes_locked (overridableDb_own _)).mpr ⟨trivial, fun mid stepped => ⟨?_,
    fun _ _ => trivial⟩⟩
  cases stepped
  rintro - row - - - workflow - - -
  refine .inr fun own => ?_
  obtain ⟨st, mem, -, named⟩ := own
  exact bne_iff_ne.mp (List.all_eq_true.mp names st mem) named

end OpenWind
