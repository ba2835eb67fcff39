import OpenWind.Entity.Mirrors
import OpenWind.Entity.LostUpdates

/-!
# Restoring what was archived

`restoreEntity` should undo `archiveEntity`.  It fails on every record that was archived, so
what an archive has hidden stays hidden.
-/

open List Option Txn.Prog

namespace OpenWind

open Txn Db Worklist

/-! ## Deleting one record -/

def cancelDueDate (tenantId : Id) (row : EntityInstance) (supply : EntitySupply) : Tx Unit :=
  if row.dueDate.isSome then
    rescheduleDueDate tenantId row row.dueDate none supply (supply.id 0)
  else return ()

/-- Delete a record, whatever relations it has. -/
def deleteEntity (rules : EditRules) (tenantId instanceId : Id) (supply : EntitySupply) : Tx Unit := do
  let row ← Tables.entityInstances.find (EntityInstance.isLive tenantId instanceId)
  let row ← Prog.getOr row (.entity .entityNotFound [("instanceId", .id instanceId)])
  Tables.entityInstances.update (EntityInstance.isLive tenantId instanceId)
    (EntityInstance.setDeletedAt (some supply.now))
  cancelDueDate tenantId row supply
  let entityType ← Prog.read fun db => rules.loadEntityType db tenantId row.entityTypeId
  let _ ← Tx.lift entityType
  return ()

theorem deleteEntity_cases {rules : EditRules} {tenantId instanceId : Id} {supply : EntitySupply}
    {u : Unit} (ran : (deleteEntity rules tenantId instanceId supply).exec db = .ok (u, db')) :
    (db'.entityInstances = db.entityInstances.map fun row =>
      if row.isLive tenantId instanceId then row.setDeletedAt (some supply.now) else row) ∧
      db'.entityRelations = db.entityRelations := by
  unfold deleteEntity at ran
  simp only [exec_seq_ok, Table.exec_find, exec_getOr_ok, Table.exec_update, exec_read,
    exec_lift_ok, exec_pure, ok_eq_ok] at ran
  obtain ⟨_, _, ⟨rfl, rfl⟩, row, _, ⟨-, rfl⟩, _, _, ⟨-, rfl⟩, _, mid, cancelled, _, _, ⟨-, rfl⟩,
    _, _, ⟨-, rfl⟩, -, rfl⟩ := ran
  unfold cancelDueDate at cancelled
  split at cancelled
  · have quiet := exec_rescheduleDueDate_ok cancelled
    exact ⟨quiet.instances, quiet.definitions.relations⟩
  · cases cancelled
    exact ⟨rfl, rfl⟩

/-! ## Undoing an archive -/

variable {db mid : Db} {tenantId rootId : Id} {supply : EntitySupply} {bound count : Nat}

def Db.GivenBack (db archived : Db) (tenantId instanceId : Id) (bound : Nat) : Prop :=
  ((restoreEntity tenantId instanceId bound).commit archived).entityInstances =
      db.entityInstances ∧
    ((restoreEntity tenantId instanceId bound).commit archived).entityRelations =
      db.entityRelations

theorem archiveEntity_confirmed {result : ArchiveResult}
    (ran : (archiveEntity tenantId rootId true supply bound).exec db = .ok (result, mid)) :
    ∃ root ids, db.entityInstances.find? (EntityInstance.isOf tenantId rootId) = some root ∧
      root.deletedAt = none ∧ mid = db.archived tenantId rootId (rootId :: ids) supply := by
  unfold archiveEntity collectActiveDescendants at ran
  simp only [exec_seq_ok, Table.exec_find, Tables.entityInstances_rows, exec_getOr_ok,
    exec_collectDescendants, walked_ok, filter_eq_some_iff, beq_iff_eq, ok_eq_ok, Bool.not_true,
    Bool.and_false, Bool.false_eq_true, if_false, exec_markTree, Table.exec_update,
    exec_pure] at ran
  obtain ⟨_, _, ⟨rfl, rfl⟩, root, _, ⟨⟨found, live⟩, rfl⟩, ids, _, ⟨-, rfl⟩, _, _,
    ⟨-, rfl⟩, _, _, ⟨-, rfl⟩, -, rfl⟩ := ran
  exact ⟨root, ids, found, live, rfl⟩

/-- The root is archived at the end, where it was live. -/
theorem archive_never_restored
    (archived : (archiveEntity tenantId rootId true supply bound).exec db =
      .ok (.archived count, mid)) : ¬ db.GivenBack mid tenantId rootId bound := by
  obtain ⟨root, ids, found, live, rfl⟩ := archiveEntity_confirmed archived
  rintro ⟨instances, -⟩
  rw [restoreEntity_commit] at instances
  have selected : root.isOf tenantId rootId = true := find?_some found
  obtain ⟨named, own⟩ := Bool.and_eq_true_iff.mp selected
  have marked : root.isAmong tenantId (rootId :: ids) none = true := by
    unfold EntityInstance.isAmong
    rw [eq_of_beq named, eq_of_beq own, live]
    simp
  have each : ∀ row ∈ db.entityInstances, (if row.isAmong tenantId (rootId :: ids) none then
      row.setDeletedAt (some supply.now) else row) = row :=
    map_inj_left.mp (instances.trans (List.map_id _).symm)
  have same := each root (mem_of_find?_eq_some found)
  rw [if_pos marked] at same
  have gone : (root.setDeletedAt (some supply.now)).deletedAt = some supply.now := rfl
  rw [same, live] at gone
  cases gone

/-! ### A record with a child -/

def treeDb : Db where
  workflows := [{ id := 1, tenantId := some 1, entityTypeId := 1, initialState := "open"
                  maxChildDepth := 2 }]
  entityInstances :=
    [{ id := 10, entityTypeId := 1, tenantId := 1, workflowId := some 1, createdAt := 0
       updatedAt := 0 }]

/-- Record 10 has the child 100. -/
def treeGrow : LinkCall :=
  .createChildRelation .acceptAll 1 { parentId := 10, childFields := [], entityTypeId := 1 }
    (linkSupply 100)

def Db.archivesTree (db : Db) : Option (Nat × Db) :=
  match (archiveEntity 1 10 true (linkSupply 400) 5).exec db with
  | .ok (.archived count, mid) => some (count, mid)
  | _ => none

theorem Db.archivesTree_eq (archived : db.archivesTree = some (count, mid)) :
    (archiveEntity 1 10 true (linkSupply 400) 5).exec db = .ok (.archived count, mid) := by
  unfold archivesTree at archived
  split at archived
  next result =>
    cases archived
    exact result
  next => cases archived

/-- The record and its child are archived, and the restore of the record leaves both so. -/
theorem archive_unrestored :
    ¬ ∀ db mid count, Runs.run LinkCall.step treeDb [treeGrow] = some db →
      (archiveEntity 1 10 true (linkSupply 400) 5).exec db = .ok (.archived count, mid) →
        db.GivenBack mid 1 10 5 := by
  intro all
  have reached : (Runs.run LinkCall.step treeDb [treeGrow]).any (fun db =>
      db.archivesTree.any fun done => done.1 == 2 &&
        (((restoreEntity 1 10 5).commit done.2).entityInstances.map (·.deletedAt) !=
          db.entityInstances.map (·.deletedAt))) = true := by
    decide +kernel
  obtain ⟨db, ran, found⟩ := (Option.any_eq_true _ _).mp reached
  obtain ⟨⟨count, mid⟩, archived, lost⟩ := (Option.any_eq_true _ _).mp found
  obtain ⟨-, differs⟩ := Bool.and_eq_true_iff.mp lost
  exact bne_iff_ne.mp differs
    (congrArg (List.map (·.deletedAt)) (all db mid count ran (archivesTree_eq archived)).1)

/-- So it is for the record and its child. -/
theorem archive_never_restored_tree :
    ∃ db mid count, Runs.run LinkCall.step treeDb [treeGrow] = some db ∧
      (archiveEntity 1 10 true (linkSupply 400) 5).exec db = .ok (.archived count, mid) ∧
      ¬ db.GivenBack mid 1 10 5 := by
  have reached : (Runs.run LinkCall.step treeDb [treeGrow]).any (fun db =>
      db.archivesTree.isSome) = true := by
    decide +kernel
  obtain ⟨db, ran, found⟩ := (Option.any_eq_true _ _).mp reached
  obtain ⟨⟨count, mid⟩, done⟩ := isSome_iff_exists.mp found
  have archived := archivesTree_eq done
  exact ⟨db, mid, count, ran, archived, archive_never_restored archived⟩

end OpenWind
