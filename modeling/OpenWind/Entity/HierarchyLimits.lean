import OpenWind.Entity.Mirrors

/-!
# Limits of the hierarchy

A workflow limits how many children its records have and how long the chains of
parents are.  The calls that create and move a child check both limits under the lock
of the parent; an archive only takes children away, and a restore, which would bring links
back without a check, fails.
-/

open List Option Bool

namespace OpenWind

open Txn EntityRelation

/-! ## Limits -/

def Db.Attached (db : Db) (workflowId id : Id) : Prop :=
  ∃ row ∈ db.entityInstances, row.id = id ∧ row.workflowId = some workflowId

structure Db.Limited (db : Db) (tenantId : Id) (limits : Workflow) (next : Id → List Id)
    (live : EntityInstance → Prop) : Prop where
  width : ∀ parent ∈ db.entityInstances, parent.tenantId = tenantId → live parent →
    parent.workflowId = some limits.id → (next parent.id).length ≤ limits.maxChildrenPerParent
  /-- A chain of relations from records of the workflow. -/
  depth : ∀ k a b, Worklist.Path next (db.Attached limits.id) k a b → k ≤ limits.maxChildDepth

def Db.WithinLimits (db : Db) : Prop :=
  ∀ tenantId limits, db.workflows.find? (Workflow.isOf tenantId limits.id) = some limits →
    db.Limited tenantId limits (db.childIds tenantId) fun parent => parent.deletedAt = none

/-- A step that adds no record and no active relation. -/
structure Shrinks (db db' : Db) : Prop where
  workflows : db'.workflows = db.workflows
  records : ∀ row' ∈ db'.entityInstances, ∃ row ∈ db.entityInstances, row.id = row'.id ∧
    row.tenantId = row'.tenantId ∧ row.workflowId = row'.workflowId ∧
    (row'.deletedAt = none → row.deletedAt = none)
  children : ∀ tenantId id, (db'.childIds tenantId id).Sublist (db.childIds tenantId id)

variable {db db' : Db} {g : EntityRelation → EntityRelation} {instanceId tenantId : Id}
  {supply : EntitySupply} {bound : Nat}

theorem Shrinks.withinLimits (shrinks : Shrinks db db') (within : db.WithinLimits) :
    db'.WithinLimits := by
  intro tenantId limits found
  rw [shrinks.workflows] at found
  obtain ⟨width, depth⟩ := within tenantId limits found
  constructor
  · intro row' mem' own live attached
    obtain ⟨row, mem, named, tenant, workflow, alive⟩ := shrinks.records row' mem'
    have few := width row mem (tenant.trans own) (alive live) (workflow.trans attached)
    rw [named] at few
    exact (shrinks.children tenantId row'.id).length_le.trans few
  · intro k a b path
    refine depth k a b (path.mono ?_ fun id _ => (shrinks.children tenantId id).subset)
    rintro id ⟨row', mem', named', attached⟩
    obtain ⟨row, mem, named, -, workflow, -⟩ := shrinks.records row' mem'
    exact ⟨row, mem, named.trans named', workflow.trans attached⟩

theorem SameHierarchy.childIds {db db' : Db} (same : SameHierarchy db db') :
    db'.childIds = db.childIds := by
  funext tenantId id
  unfold Db.childIds
  rw [same.relations]

theorem SameHierarchy.shrinks (same : SameHierarchy db db') : Shrinks db db' := by
  refine ⟨same.workflows, fun row mem => ?_, fun tenantId id => ?_⟩
  · rw [same.instances] at mem
    exact ⟨row, mem, rfl, rfl, rfl, fun live => live⟩
  · rw [same.childIds]

theorem EntityRelation.children_sublist (dates : ∀ r, g r = r ∨ (g r).deletedAt ≠ none)
    (tenantId id : Id) (relations : List EntityRelation) :
    (((relations.map g).filter (EntityRelation.isParentOf tenantId id)).map (·.toInstanceId)).Sublist
      ((relations.filter (EntityRelation.isParentOf tenantId id)).map (·.toInstanceId)) := by
  induction relations with
  | nil => exact Sublist.refl _
  | cons r rest ih =>
    rw [map_cons, filter_cons, filter_cons]
    rcases dates r with same | deleted
    · rw [same]
      split
      next => exact ih.cons_cons _
      next => exact ih
    · have gone : (g r).isParentOf tenantId id = false := by
        rw [eq_false_iff]
        exact fun active =>
          deleted (isActive_iff.mp (and_eq_true_iff.mp active).1).2.2
      rw [gone, if_neg Bool.false_ne_true]
      split
      next => exact ih.cons _
      next => exact ih

theorem Shrinks.of_dates {f : EntityInstance → EntityInstance}
    (workflows : db'.workflows = db.workflows)
    (instances : db'.entityInstances = db.entityInstances.map f)
    (relations : db'.entityRelations = db.entityRelations.map g)
    (records : ∀ row, (f row).id = row.id ∧ (f row).tenantId = row.tenantId ∧
      (f row).workflowId = row.workflowId ∧ ((f row).deletedAt = none → row.deletedAt = none))
    (dates : ∀ r, g r = r ∨ (g r).deletedAt ≠ none) : Shrinks db db' := by
  refine ⟨workflows, fun row' mem' => ?_, fun tenantId id => ?_⟩
  · rw [instances] at mem'
    obtain ⟨row, mem, rfl⟩ := List.mem_map.mp mem'
    obtain ⟨named, tenant, workflow, alive⟩ := records row
    exact ⟨row, mem, named.symm, tenant.symm, workflow.symm, alive⟩
  · unfold Db.childIds
    rw [relations]
    exact children_sublist dates tenantId id _

theorem Shrinks.trans {a b c : Db} (first : Shrinks a b) (second : Shrinks b c) : Shrinks a c := by
  refine ⟨second.workflows.trans first.workflows, fun row mem => ?_, fun tenantId id =>
    (second.children tenantId id).trans (first.children tenantId id)⟩
  obtain ⟨mid, memMid, named, tenant, workflow, alive⟩ := second.records row mem
  obtain ⟨old, memOld, named', tenant', workflow', alive'⟩ := first.records mid memMid
  exact ⟨old, memOld, named'.trans named, tenant'.trans tenant, workflow'.trans workflow,
    fun live => alive' (alive live)⟩

/-! ## What the walks bound -/

section Walks

variable {db : Db} {tenantId : Id}

theorem Db.path_le_ancestorDepth (links : db.LinksSound RelationType.Places) {P : Id → Prop} {k limit : Nat} {a b : Id}
    (path : Worklist.Path (db.childIds tenantId) P k a b) :
    min k limit ≤ db.ancestorDepth tenantId limit b := by
  induction path generalizing limit with
  | refl a => exact Nat.le_trans (Nat.min_le_left _ _) (Nat.zero_le _)
  | tail _ _ step ih =>
    cases limit with
    | zero => exact Nat.min_le_right _ _
    | succ limit =>
      have below : min _ limit ≤ _ := ih
      unfold Db.ancestorDepth
      simp only [(links.mem_childIds (.inl rfl) (.inr rfl)).mp step]
      omega

theorem deepestOf_some {depth : Id → Option Nat} {children : List Id} {below : Nat}
    (found : deepestOf depth children = some below) :
    ∀ child ∈ children, ∃ d, depth child = some d ∧ d + 1 ≤ below := by
  induction children generalizing below with
  | nil => exact fun _ mem => absurd mem not_mem_nil
  | cons child rest ih =>
    unfold deepestOf at found
    split at found
    next d others eq eqRest =>
      cases found
      intro other mem
      rcases mem_cons.mp mem with rfl | mem
      · exact ⟨d, eq, Nat.le_max_left _ _⟩
      · obtain ⟨e, eqOther, le⟩ := ih eqRest other mem
        exact ⟨e, eqOther, Nat.le_trans le (Nat.le_max_right _ _)⟩
    next => cases found

theorem Db.path_le_descendantDepth {P : Id → Prop} {bound k below : Nat} {a b : Id}
    (found : db.descendantDepth tenantId bound a = some below)
    (path : Worklist.Path (db.childIds tenantId) P k a b) : k ≤ below := by
  induction bound generalizing k a below with
  | zero => cases found
  | succ bound ih =>
    cases k with
    | zero => exact Nat.zero_le _
    | succ k =>
      obtain ⟨child, mem, -, rest⟩ := path.head
      obtain ⟨d, deeper, le⟩ := deepestOf_some found child mem
      have bounded := ih deeper rest
      omega

end Walks

/-! ## The parents of the rows -/

/-- An active row to a child leaves a record. -/
def Db.ParentsKnown (db : Db) : Prop :=
  ∀ r ∈ db.entityRelations, r.relationType = .parentOf → r.deletedAt = none →
    db.HasRecord r.tenantId r.fromInstanceId

theorem Db.ParentsKnown.hide (parents : db.ParentsKnown) (records : SameRecords db db')
    (relations : db'.entityRelations = db.entityRelations.map g)
    (redates : EntityRelation.Redates g) (only : ∀ r, (g r).deletedAt = none → r.deletedAt = none) :
    db'.ParentsKnown := by
  intro r' mem type active
  rw [relations] at mem
  obtain ⟨r, memR, rfl⟩ := List.mem_map.mp mem
  rw [redates.type] at type
  rw [redates.tenantId, redates.source]
  exact records.records _ _ (parents r memR type (only r active))

theorem Db.ParentsKnown.deleteRelations (parents : db.ParentsKnown) (p : EntityRelation → Bool)
    (now : Time) : (db.deleteRelations p now).ParentsKnown := by
  refine parents.hide (.of_instances rfl) rfl (.ite p _ (redates_delete now)) fun r active => ?_
  by_cases chosen : p r = true
  · rw [if_pos chosen] at active
    cases active
  · rw [if_neg chosen] at active
    exact active

theorem Db.ParentsKnown.link (parents : db.ParentsKnown)
    {parentId childId parentOfId childOfId : Id} (known : db.HasRecord tenantId parentId) :
    (Tables.entityRelations.append (relationPair tenantId parentId childId parentOfId childOfId)
      db).ParentsKnown := by
  intro r mem type active
  rcases mem_append.mp mem with old | new
  · exact parents r old type active
  · rcases mem_cons.mp new with rfl | new
    · exact known
    · cases mem_singleton.mp new
      cases type

/-! ## A new link -/

theorem Db.childIds_link (db : Db) (tenantId parentId childId parentOfId childOfId tenantId' id : Id) :
    (Tables.entityRelations.append (relationPair tenantId parentId childId parentOfId childOfId)
      db).childIds tenantId' id =
      db.childIds tenantId' id ++ if tenantId' = tenantId ∧ id = parentId then [childId] else [] := by
  unfold Db.childIds
  change ((db.entityRelations ++ _).filter _).map _ = _
  rw [filter_append, map_append]
  congr 1
  by_cases new : tenantId' = tenantId ∧ id = parentId
  · obtain ⟨rfl, rfl⟩ := new
    simp [relationPair, EntityRelation.isParentOf, EntityRelation.isActive]
  · rw [if_neg new]
    have other : (tenantId == tenantId' && parentId == id) = false := by
      rw [eq_false_iff, ne_eq, and_eq_true, beq_iff_eq, beq_iff_eq]
      exact fun same => new ⟨same.1.symm, same.2.symm⟩
    simp [relationPair, EntityRelation.isParentOf, EntityRelation.isActive] at other ⊢
    exact other

theorem Db.WithinLimits.link (within : db.WithinLimits) (links : db.LinksSound RelationType.Places)
    (shallow : ∀ limits ∈ db.workflows, limits.maxChildDepth ≤ hardMax)
    {tenantId childId parentOfId childOfId : Id} {parent : EntityInstance} {below : Nat}
    (takes : db.TakesChild tenantId parent below)
    (down : ∀ P k b, Worklist.Path (db.childIds tenantId) P k childId b → k ≤ below)
    (apart : ∀ P k, ¬ Worklist.Path (db.childIds tenantId) P k childId parent.id) :
    (Tables.entityRelations.append
      (relationPair tenantId parent.id childId parentOfId childOfId) db).WithinLimits := by
  obtain ⟨limits, found, attached, fits, few⟩ := takes.limits
  have same {limits' : Workflow} (attached' : parent.workflowId = some limits'.id)
      (found' : db.workflows.find? (Workflow.isOf tenantId limits'.id) = some limits') :
      limits = limits' := by
    have ids : limits.id = limits'.id := Option.some.inj (attached.symm.trans attached')
    rw [ids] at found
    exact Option.some.inj (found.symm.trans found')
  intro tenantId' limits' found'
  obtain ⟨width, depth⟩ := within tenantId' limits' found'
  constructor
  · intro row mem own live attached'
    rw [Db.childIds_link]
    by_cases new : tenantId' = tenantId ∧ row.id = parent.id
    · obtain ⟨rfl, named⟩ := new
      obtain rfl := links.keyed.eq mem takes.mem named
      obtain rfl := same attached' found'
      rw [if_pos ⟨rfl, rfl⟩, length_append]
      exact few
    · rw [if_neg new, append_nil]
      exact width row mem own live attached'
  · intro k a b path
    by_cases own : tenantId' = tenantId
    · subst own
      have edges : ∀ x, ∀ y ∈ (Tables.entityRelations.append
          (relationPair tenantId' parent.id childId parentOfId childOfId) db).childIds tenantId' x,
          y ∈ db.childIds tenantId' x ∨ x = parent.id ∧ y = childId := by
        intro x y mem
        rw [Db.childIds_link] at mem
        rcases mem_append.mp mem with old | new
        · exact .inl old
        · by_cases named : x = parent.id
          · rw [if_pos ⟨rfl, named⟩] at new
            exact .inr ⟨named, mem_singleton.mp new⟩
          · rw [if_neg fun both => named both.2] at new
            cases new
      rcases path.through edges (apart _) with old | ⟨i, j, up, ⟨row, mem, named, attached'⟩, rest, rfl⟩
      · exact depth k a b old
      · obtain rfl := links.keyed.eq mem takes.mem named
        obtain rfl := same attached' found'
        have above := @Db.path_le_ancestorDepth _ _ links _ _ hardMax _ _ up
        have deep := down _ _ _ rest
        have bounded := shallow limits (mem_of_find?_eq_some found)
        omega
    · refine depth k a b (path.mono (fun _ holds => holds) fun x _ y mem => ?_)
      rw [Db.childIds_link, if_neg fun both => own both.1, append_nil] at mem
      exact mem

/-! ## The calls -/

section Calls

variable {db db' : Db} {tenantId : Id}

theorem Shrinks.deleteRelations (db : Db) (p : EntityRelation → Bool) (now : Time) :
    Shrinks db (db.deleteRelations p now) := by
  refine .of_dates (f := id) rfl (List.map_id _).symm rfl
    (fun row => ⟨rfl, rfl, rfl, fun live => live⟩) fun r => ?_
  by_cases deleted : p r = true
  · rw [if_pos deleted]
    exact .inr (some_ne_none now)
  · rw [if_neg deleted]
    exact .inl rfl

theorem Shrinks.unlinked (db : Db) (tenantId childId : Id) (now : Time) :
    Shrinks db (db.unlinked tenantId childId now) :=
  Db.unlinked_keeps tenantId childId (P := Shrinks db)
    (fun p mid shrinks => shrinks.trans (.deleteRelations mid p now))
    (.of_dates (f := id) (g := id) rfl (List.map_id _).symm (List.map_id _).symm
      (fun _ => ⟨rfl, rfl, rfl, fun live => live⟩) fun _ => .inl rfl)

theorem Shrinks.detach (db : Db) (tenantId childId : Id) (now : Time) :
    Shrinks db (Tables.entityInstances.modify (EntityInstance.isOf tenantId childId)
      (EntityInstance.detach now) db) := by
  refine .of_dates (g := id) rfl rfl (List.map_id _).symm (fun row => ?_) fun _ => .inl rfl
  by_cases chosen : row.isOf tenantId childId = true
  · rw [if_pos chosen]
    exact ⟨rfl, rfl, rfl, fun live => live⟩
  · rw [if_neg chosen]
    exact ⟨rfl, rfl, rfl, fun live => live⟩

theorem Shrinks.markTree (db : Db) (tenantId rootId : Id) (ids : List Id) (now : Time) :
    Shrinks db (db.markTree tenantId rootId ids none (some now)) := by
  refine .of_dates rfl rfl rfl (fun row => ?_) fun r => ?_
  · by_cases chosen : row.isAmong tenantId ids none = true
    · rw [if_pos chosen]
      exact ⟨rfl, rfl, rfl, fun live => absurd live (some_ne_none now)⟩
    · rw [if_neg chosen]
      exact ⟨rfl, rfl, rfl, fun live => live⟩
  · by_cases chosen : r.inTree tenantId rootId ids none = true
    · rw [if_pos chosen]
      exact .inr (some_ne_none now)
    · rw [if_neg chosen]
      exact .inl rfl

variable {instanceId : Id} {supply : EntitySupply} {bound : Nat} {row : EntityInstance}

theorem Db.WithinLimits.archive (within : db.WithinLimits) {confirm : Bool} {result : ArchiveResult}
    (ran : (archiveEntity tenantId instanceId confirm supply bound).exec db = .ok (result, db')) :
    db'.WithinLimits := by
  rcases archiveEntity_cases ran with rfl | ⟨row, ids, -, -, -, rfl⟩
  · exact within
  · have marked := (Shrinks.markTree db tenantId instanceId (instanceId :: ids)
      supply.now).withinLimits within
    refine SameHierarchy.shrinks ?_ |>.withinLimits marked
    exact ⟨rfl, rfl, rfl⟩

theorem Db.WithinLimits.move (within : db.WithinLimits) (links : db.LinksSound RelationType.Places)
    (shallow : ∀ limits ∈ db.workflows, limits.maxChildDepth ≤ hardMax)
    {input : MoveChildRelationInput} {pair : List EntityRelation}
    (ran : (moveChildRelation tenantId input supply bound).exec db = .ok (pair, db')) :
    db'.WithinLimits := by
  have shrinks := Shrinks.unlinked db tenantId input.childId supply.startedAt
  have unlinked := shrinks.withinLimits within
  obtain ⟨child, -, -, -, ⟨-, rfl⟩ |
    ⟨parent, below, ids, -, takes, deep, self, collected, outside, -, rfl, rfl⟩⟩ :=
      moveChildRelation_cases ran
  · exact (Shrinks.detach _ tenantId input.childId supply.startedAt).withinLimits unlinked
  · rw [← shrinks.workflows] at shallow
    have apart := (links.unlink (.inl rfl) tenantId input.childId supply.startedAt).1
    refine unlinked.link apart shallow takes
      (fun P k b path => Db.path_le_descendantDepth deep path) fun P k path => ?_
    cases k with
    | zero =>
      generalize target : parent.id = id at path self
      cases path
      exact self rfl
    | succ k => exact outside ((Worklist.mem_collect collected).mpr path.transGen)

theorem Db.ParentsKnown.childless (parents : db.ParentsKnown) (unused : db.Unused [row])
    (tenantId : Id) : db.childIds tenantId row.id = [] := by
  refine eq_nil_iff_forall_not_mem.mpr fun child step => ?_
  obtain ⟨r, mem, type, -, active, source, -⟩ := Db.mem_childIds.mp step
  obtain ⟨old, memOld, named, -⟩ := parents r mem type active
  exact unused.2 row mem_cons_self old memOld (named.trans source)

theorem Db.WithinLimits.grow (within : db.WithinLimits) (parents : db.ParentsKnown)
    (unused : db.Unused [row]) (instances : db'.entityInstances = db.entityInstances ++ [row])
    (workflows : db'.workflows = db.workflows)
    (relations : db'.entityRelations = db.entityRelations) : db'.WithinLimits := by
  have same : db'.childIds = db.childIds := by
    funext tenantId id
    unfold Db.childIds
    rw [relations]
  intro tenantId limits found
  rw [workflows] at found
  obtain ⟨width, depth⟩ := within tenantId limits found
  rw [same]
  constructor
  · intro parent mem own live attached
    rw [instances] at mem
    rcases mem_append.mp mem with old | new
    · exact width parent old own live attached
    · rw [mem_singleton.mp new, parents.childless unused]
      exact Nat.zero_le _
  · have attached : ∀ id, db'.Attached limits.id id → db.childIds tenantId id ≠ [] →
        db.Attached limits.id id := by
      rintro id ⟨parent, mem, named, attached⟩ children
      rw [instances] at mem
      rcases mem_append.mp mem with old | new
      · exact ⟨parent, old, named, attached⟩
      · rw [mem_singleton.mp new] at named
        exact absurd (named ▸ parents.childless unused tenantId) children
    intro k a b path
    refine depth k a b ?_
    induction path with
    | refl a => exact .refl a
    | tail _ holds step ih => exact .tail ih (attached _ holds (ne_nil_of_mem step)) step

theorem Db.TakesChild.of_same {parent : EntityInstance} {below : Nat}
    (takes : db.TakesChild tenantId parent below) (mem : parent ∈ db'.entityInstances)
    (workflows : db'.workflows = db.workflows)
    (relations : db'.entityRelations = db.entityRelations) :
    db'.TakesChild tenantId parent below := by
  have up (limit : Nat) (id : Id) :
      db'.ancestorDepth tenantId limit id = db.ancestorDepth tenantId limit id := by
    induction limit generalizing id with
    | zero => rfl
    | succ limit ih =>
      unfold Db.ancestorDepth Db.parentId
      rw [relations]
      simp only [ih]
  obtain ⟨limits, found, attached, fits, few⟩ := takes.limits
  refine ⟨mem, takes.selected, takes.live, limits, workflows ▸ found, attached, (up _ _).symm ▸ fits, ?_⟩
  unfold Db.childIds at few ⊢
  rw [relations]
  exact few

theorem Db.WithinLimits.createChild (within : db.WithinLimits)
    (links : db.LinksSound RelationType.Places) (parents : db.ParentsKnown)
    (shallow : ∀ limits ∈ db.workflows, limits.maxChildDepth ≤ hardMax) {rules : FieldRules}
    {input : CreateChildRelationInput}
    (ran : (createChildRelation rules tenantId input supply).exec db = .ok (row, db')) :
    db'.WithinLimits := by
  obtain ⟨parent, workflowId, mid, -, takes, -, rfl, unused, effect, -, rfl⟩ :=
    createChildRelation_cases ran
  have relations := effect.definitions.relations
  have grown := within.grow parents unused effect.instances effect.definitions.workflows relations
  rw [← effect.definitions.workflows] at shallow
  have linksMid := links.grow effect.instances unused relations
  have memParent : parent ∈ mid.entityInstances := by
    rw [effect.instances]
    exact mem_append_left _ takes.mem
  have bare : mid.childIds tenantId (input.row tenantId workflowId parent supply).id = [] := by
    unfold Db.childIds
    rw [relations]
    exact parents.childless unused tenantId
  have stuck {P : Id → Prop} {k : Nat} {b : Id} (path : Worklist.Path (mid.childIds tenantId) P k
      (input.row tenantId workflowId parent supply).id b) :
      k = 0 ∧ b = (input.row tenantId workflowId parent supply).id := by
    cases k with
    | zero =>
      cases path
      exact ⟨rfl, rfl⟩
    | succ k =>
      obtain ⟨child, step, -⟩ := path.head
      rw [bare] at step
      cases step
  refine grown.link linksMid shallow (takes.of_same memParent effect.definitions.workflows relations)
    (fun P k b path => Nat.le_of_eq (stuck path).1) fun P k path => ?_
  exact unused.2 _ mem_cons_self parent takes.mem (stuck path).2

end Calls

/-! ## Runs -/

inductive HierarchyCall
  | createChildRelation (rules : FieldRules) (tenantId : Id) (input : CreateChildRelationInput)
    (supply : EntitySupply)
  | moveChildRelation (tenantId : Id) (input : MoveChildRelationInput) (supply : EntitySupply)
    (bound : Nat)
  | archiveEntity (tenantId instanceId : Id) (confirm : Bool) (supply : EntitySupply) (bound : Nat)
  | restoreEntity (tenantId instanceId : Id) (bound : Nat)

def HierarchyCall.commit (db : Db) : HierarchyCall → Db
  | createChildRelation rules tenantId input supply =>
    (OpenWind.createChildRelation rules tenantId input supply).commit db
  | moveChildRelation tenantId input supply bound =>
    (OpenWind.moveChildRelation tenantId input supply bound).commit db
  | archiveEntity tenantId instanceId confirm supply bound =>
    (OpenWind.archiveEntity tenantId instanceId confirm supply bound).commit db
  | restoreEntity tenantId instanceId bound =>
    (OpenWind.restoreEntity tenantId instanceId bound).commit db

def HierarchyCall.step (db : Db) (call : HierarchyCall) : Option Db := some (call.commit db)

/-- What the calls keep. -/
structure Db.HierarchySound (db : Db) : Prop where
  links : db.LinksSound RelationType.Places
  parents : db.ParentsKnown
  /-- A workflow's depth limit is at most the number of levels that a walk up counts. -/
  shallow : ∀ limits ∈ db.workflows, limits.maxChildDepth ≤ hardMax
  within : db.WithinLimits

namespace Db.HierarchySound

variable {rules : FieldRules}

theorem createChild (sound : db.HierarchySound) {input : CreateChildRelationInput}
    (ran : (createChildRelation rules tenantId input supply).exec db = .ok (row, db')) :
    db'.HierarchySound := by
  refine ⟨sound.links.createChild ran, ?_, ?_,
    sound.within.createChild sound.links sound.parents sound.shallow ran⟩
  · obtain ⟨parent, workflowId, mid, -, takes, -, rfl, unused, effect, -, rfl⟩ :=
      createChildRelation_cases ran
    have grown : mid.ParentsKnown :=
      sound.parents.hide (g := id) (.of_append effect.instances unused)
        (effect.definitions.relations.trans (List.map_id _).symm) (fun _ => rfl) fun _ active => active
    have known : mid.HasRecord tenantId parent.id :=
      (SameRecords.of_append effect.instances unused).records _ _
        (EntityInstance.dated takes.mem takes.selected).1
    exact grown.link known
  · obtain ⟨_, _, mid, -, -, -, -, -, effect, -, rfl⟩ := createChildRelation_cases ran
    exact effect.definitions.workflows.symm ▸ sound.shallow

theorem move (sound : db.HierarchySound) {input : MoveChildRelationInput}
    {pair : List EntityRelation}
    (ran : (moveChildRelation tenantId input supply bound).exec db = .ok (pair, db')) :
    db'.HierarchySound := by
  have workflows := (Shrinks.unlinked db tenantId input.childId supply.startedAt).workflows
  have unlinked : (db.unlinked tenantId input.childId supply.startedAt).ParentsKnown :=
    Db.unlinked_keeps tenantId input.childId
      (fun p mid parents => parents.deleteRelations p supply.startedAt) sound.parents
  refine ⟨sound.links.move (.inl rfl) ran, ?_, ?_,
    sound.within.move sound.links sound.shallow ran⟩
  · obtain ⟨_, -, -, -, ⟨-, rfl⟩ | ⟨parent, _, _, -, takes, -, -, -, -, -, rfl, rfl⟩⟩ :=
      moveChildRelation_cases ran
    · refine unlinked.hide (g := id) (.of_map rfl fun row => ?_) (List.map_id _).symm
        (fun _ => rfl) fun _ active => active
      split
      · exact ⟨rfl, rfl, id⟩
      · exact ⟨rfl, rfl, id⟩
    · exact unlinked.link (EntityInstance.dated takes.mem takes.selected).1
  · obtain ⟨_, -, -, -, ⟨-, rfl⟩ | ⟨_, _, _, -, -, -, -, -, -, -, rfl, rfl⟩⟩ :=
      moveChildRelation_cases ran
    · exact workflows.symm ▸ sound.shallow
    · exact workflows.symm ▸ sound.shallow

theorem archive (sound : db.HierarchySound) {confirm : Bool} {result : ArchiveResult}
    (ran : (archiveEntity tenantId instanceId confirm supply bound).exec db = .ok (result, db')) :
    db'.HierarchySound := by
  have links := sound.links.archive (.inl rfl) ran
  have within := sound.within.archive ran
  rcases archiveEntity_cases ran with rfl | ⟨_, ids, -, -, -, rfl⟩
  · exact sound
  · refine ⟨links, ?_, sound.shallow, within⟩
    refine sound.parents.hide (.of_map rfl fun row => ?_) rfl
      (.ite _ _ (EntityRelation.redates_setDeletedAt _)) fun r active => ?_
    · by_cases chosen : row.isAmong tenantId (instanceId :: ids) none = true
      · rw [if_pos chosen]
        exact ⟨rfl, rfl, nofun⟩
      · rw [if_neg chosen]
        exact ⟨rfl, rfl, id⟩
    · by_cases chosen : r.inTree tenantId instanceId (instanceId :: ids) none = true
      · rw [if_pos chosen] at active
        cases active
      · rw [if_neg chosen] at active
        exact active

end Db.HierarchySound

theorem HierarchyCall.sound {db db' : Db} {call : HierarchyCall} (sound : db.HierarchySound)
    (stepped : call.step db = some db') : db'.HierarchySound := by
  cases stepped
  cases call with
  | createChildRelation => exact Tx.commit_of sound sound.createChild
  | moveChildRelation => exact Tx.commit_of sound sound.move
  | archiveEntity => exact Tx.commit_of sound sound.archive
  | restoreEntity =>
    change ((OpenWind.restoreEntity _ _ _).commit db).HierarchySound
    rw [restoreEntity_commit]
    exact sound

end OpenWind
