import OpenWind.Entity.RestoreArchive

/-!
# Counting children

`countActiveChildren` counts the active `parent_of` rows of a record, and not the records
at their other end.
-/

open List Option Bool

namespace OpenWind

open Txn RelationType

/-- The number of active children. -/
def countActiveChildren (tenantId parentId : Id) : Tx Nat :=
  .read fun db => db.entityRelations.countP (EntityRelation.isParentOf tenantId parentId)

def Db.liveChildren (db : Db) (tenantId parentId : Id) : List EntityInstance :=
  db.entityInstances.filter fun row => row.tenantId == tenantId && row.deletedAt == none &&
    db.parentId tenantId row.id == some parentId

def Db.ChildCountsMatch (db : Db) : Prop :=
  ∀ tenantId parentId, (countActiveChildren tenantId parentId).exec db =
    .ok ((db.liveChildren tenantId parentId).length, db)

abbrev Db.ChildrenPlaced (db : Db) : Prop := db.LinksSound Places

/-! ## The count -/

theorem exec_countActiveChildren (tenantId parentId : Id) (db : Db) :
    (countActiveChildren tenantId parentId).exec db =
      .ok ((db.childIds tenantId parentId).length, db) := by
  unfold countActiveChildren Db.childIds
  rw [Prog.exec_read, length_map, countP_eq_length_filter]

section Count

variable {db : Db} (placed : db.ChildrenPlaced) {tenantId parentId : Id}

include placed

theorem Db.ChildrenPlaced.nodup_childIds : (db.childIds tenantId parentId).Nodup := by
  have rows : db.entityRelations.Nodup := Nodup.of_map _ placed.relations
  refine Nodup.map_on (fun r mem r' mem' same => ?_) (rows.filter _)
  obtain ⟨memR, parentOf⟩ := mem_filter.mp mem
  obtain ⟨memR', parentOf'⟩ := mem_filter.mp mem'
  obtain ⟨tenant, type, active⟩ :=
    EntityRelation.isActive_iff.mp (and_eq_true_iff.mp parentOf).1
  obtain ⟨tenant', type', active'⟩ :=
    EntityRelation.isActive_iff.mp (and_eq_true_iff.mp parentOf').1
  exact placed.single r' memR' r memR (.inl type') ⟨type.trans type'.symm, tenant.trans tenant'.symm,
    same, .inl type'⟩ active' active

theorem Db.ChildrenPlaced.matches : db.ChildCountsMatch := by
  intro tenantId parentId
  have distinct : ((db.liveChildren tenantId parentId).map (·.id)).Nodup :=
    placed.keyed.sublist (filter_sublist.map _)
  have same : (db.childIds tenantId parentId).Perm
      ((db.liveChildren tenantId parentId).map (·.id)) := by
    refine (perm_ext_iff_of_nodup placed.nodup_childIds distinct).mpr fun child => ?_
    rw [placed.mem_childIds (.inl rfl) (.inr rfl), List.mem_map]
    constructor
    · intro parent
      obtain ⟨r, memR, type, tenant, active, -, target⟩ :=
        Db.mem_childIds.mp ((placed.mem_childIds (.inl rfl) (.inr rfl)).mpr parent)
      obtain ⟨⟨row, mem, named, own⟩, alive⟩ := placed.live r memR (.inl type) active
      rw [EntityRelation.anchor_parentOf type, target] at named alive
      have live : row.deletedAt = none :=
        Db.DeletedAs.unique placed.keyed ⟨row, mem, named, rfl⟩ alive
      refine ⟨row, mem_filter.mpr ⟨mem, ?_⟩, named⟩
      rw [named, parent, own, tenant, live]
      simp
    · rintro ⟨row, listed, rfl⟩
      have chosen := (mem_filter.mp listed).2
      simp only [and_eq_true, beq_iff_eq] at chosen
      exact chosen.2
  rw [exec_countActiveChildren, same.length_eq, length_map]

end Count

/-! ## Deleting a record -/

variable {db db' : Db} {tenantId : Id} {supply : EntitySupply}

theorem Db.ChildrenPlaced.deleteRoot (placed : db.ChildrenPlaced) {rules : EditRules}
    {instanceId : Id} {u : Unit} (root : db.parentId tenantId instanceId = none)
    (ran : (deleteEntity rules tenantId instanceId supply).exec db = .ok (u, db')) :
    db'.ChildrenPlaced := by
  obtain ⟨instances, relations⟩ := deleteEntity_cases ran
  refine placed.of_live (.of_map instances fun row => ?_) relations
    fun r mem places active before => ?_
  · split
    · exact ⟨rfl, rfl, nofun⟩
    · exact ⟨rfl, rfl, id⟩
  obtain ⟨⟨row, memRow, named, own⟩, alive⟩ := before
  have live : row.deletedAt = none :=
    Db.DeletedAs.unique placed.keyed ⟨row, memRow, named, rfl⟩ alive
  have childless : ∀ r ∈ db.entityRelations, r.isChildOf tenantId instanceId = false :=
    Db.parentId_eq_none.mp root
  have other : ¬ row.isLive tenantId instanceId := by
    intro chosen
    have selected := and_eq_true_iff.mp (EntityInstance.isOf_of_isLive chosen)
    have tenant : r.tenantId = tenantId := own.symm.trans (eq_of_beq selected.2)
    have anchor : r.anchor = instanceId := named.symm.trans (eq_of_beq selected.1)
    have up {m : EntityRelation} (memM : m ∈ db.entityRelations) (tenantM : m.tenantId = tenantId)
        (type : m.relationType = .childOf) (activeM : m.deletedAt = none)
        (anchorM : m.anchor = instanceId) : False := by
      have child : m.isChildOf tenantId instanceId := EntityRelation.isChildOf_iff.mpr
        ⟨tenantM, type, activeM, (EntityRelation.anchor_childOf type).symm.trans anchorM⟩
      rw [childless m memM] at child
      cases child
    rcases places with type | type
    · obtain ⟨m, memM, mirrors, activeM⟩ := placed.pair mem (.inl type) (.inl type) active
      have mirror := mirrors.2.2.2
      rw [type] at mirror
      exact up memM (mirrors.1.trans tenant) (Option.some.inj mirror).symm activeM
        (mirrors.anchor.trans ((EntityRelation.farAnchor_eq (.inl type)).trans anchor))
    · exact up mem tenant type active anchor
  refine ⟨row, ?_, named, live⟩
  rw [instances]
  exact List.mem_map.mpr ⟨row, memRow, if_neg other⟩

/-! ## Runs -/

inductive PlacingCall
  | createChildRelation (rules : FieldRules) (tenantId : Id) (input : CreateChildRelationInput)
    (supply : EntitySupply)
  | moveChildRelation (tenantId : Id) (input : MoveChildRelationInput) (supply : EntitySupply)
    (bound : Nat)
  | archiveEntity (tenantId instanceId : Id) (confirm : Bool) (supply : EntitySupply) (bound : Nat)
  | restoreEntity (tenantId instanceId : Id) (bound : Nat)
  | deleteEntity (rules : EditRules) (tenantId instanceId : Id) (supply : EntitySupply)

def PlacingCall.commit (db : Db) : PlacingCall → Db
  | createChildRelation rules tenantId input supply =>
    (OpenWind.createChildRelation rules tenantId input supply).commit db
  | moveChildRelation tenantId input supply bound =>
    (OpenWind.moveChildRelation tenantId input supply bound).commit db
  | archiveEntity tenantId instanceId confirm supply bound =>
    (OpenWind.archiveEntity tenantId instanceId confirm supply bound).commit db
  | restoreEntity tenantId instanceId bound =>
    (OpenWind.restoreEntity tenantId instanceId bound).commit db
  | deleteEntity rules tenantId instanceId supply =>
    (OpenWind.deleteEntity rules tenantId instanceId supply).commit db

def PlacingCall.step (db : Db) (call : PlacingCall) : Option Db := some (call.commit db)

/-- The condition of a call. -/
def PlacingCall.Allowed (db : Db) : PlacingCall → Prop
  | deleteEntity _ tenantId instanceId _ => db.parentId tenantId instanceId = none
  | _ => True

theorem PlacingCall.placed {db db' : Db} {call : PlacingCall} (placed : db.ChildrenPlaced)
    (allowed : call.Allowed db) (stepped : call.step db = some db') : db'.ChildrenPlaced := by
  cases stepped
  cases call with
  | createChildRelation => exact Tx.commit_of placed placed.createChild
  | moveChildRelation => exact Tx.commit_of placed (placed.move (.inl rfl))
  | archiveEntity => exact Tx.commit_of placed (placed.archive (.inl rfl))
  | restoreEntity =>
    change ((OpenWind.restoreEntity _ _ _).commit db).ChildrenPlaced
    rw [restoreEntity_commit]
    exact placed
  | deleteEntity => exact Tx.commit_of placed (placed.deleteRoot allowed)

/-- Along a run whose calls meet their conditions the count of each record is that of its live
children. -/
theorem countActiveChildren_matches {db : Db} {calls : List PlacingCall} (placed : db.ChildrenPlaced)
    (guarded : Runs.Guarded PlacingCall.step PlacingCall.Allowed db calls) :
    Runs.Always PlacingCall.step Db.ChildCountsMatch db calls :=
  guarded.always (fun placed allowed stepped => PlacingCall.placed placed allowed stepped)
    Db.ChildrenPlaced.matches placed

/-! ### A child that was deleted by itself -/

def growChild : PlacingCall :=
  .createChildRelation .acceptAll 1 { parentId := 10, childFields := [], entityTypeId := 1 }
    (linkSupply 100)

/-- Once its only child is deleted, record 10 has a child by the count. -/
theorem countActiveChildren_stale :
    ¬ Runs.Always PlacingCall.step Db.ChildCountsMatch treeDb
      [growChild, .deleteEntity .acceptAll 1 100 (linkSupply 300)] := by
  intro always
  have reached : (Runs.run PlacingCall.step treeDb
      [growChild, .deleteEntity .acceptAll 1 100 (linkSupply 300)]).any (fun db =>
        (db.childIds 1 10).length != (db.liveChildren 1 10).length) = true := by
    decide +kernel
  obtain ⟨db, ran, differs⟩ := (Option.any_eq_true _ _).mp reached
  have same := always.last ran 1 10
  rw [exec_countActiveChildren] at same
  injection same with pair
  injection pair with counts
  exact bne_iff_ne.mp differs counts

/-- A child that is archived counts no longer, and another one in its place does.  Record 10,
which has no parent, may be deleted. -/
theorem countActiveChildren_archived :
    Runs.Always PlacingCall.step Db.ChildCountsMatch treeDb
      [growChild, .archiveEntity 1 100 true (linkSupply 200) 5,
        .createChildRelation .acceptAll 1 { parentId := 10, childFields := [], entityTypeId := 1 }
          (linkSupply 300), .restoreEntity 1 100 5, .deleteEntity .acceptAll 1 10 (linkSupply 400)] := by
  have placed : treeDb.ChildrenPlaced := .of_none (nodup_singleton 10) rfl
  refine countActiveChildren_matches placed (Runs.Guarded.of_check
    (c := fun db call => match call with
      | PlacingCall.deleteEntity _ tenant record _ => db.parentId tenant record == none
      | _ => true) (fun {db call} checked => ?_) (by decide +kernel))
  cases call with
  | deleteEntity => exact eq_of_beq checked
  | _ => exact trivial

end OpenWind
