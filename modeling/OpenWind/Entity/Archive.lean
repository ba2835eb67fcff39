import OpenWind.Entity.ChildRelations

/-!
# Archiving

`archiveEntity` soft-deletes a record with its descendants and the relations that
leave them, all at one time.  `restoreEntity` means to find the batch again by that time,
walking down the relations deleted then to the records deleted then.  It binds the time as
a JavaScript `Date` in `sql` templates, which the driver does not serialise: its first such
query throws.
-/

open Txn.Prog

namespace OpenWind

open Txn

/-! ## Trees -/

def EntityInstance.setDeletedAt (deletedAt : Option Time) (row : EntityInstance) : EntityInstance :=
  { row with deletedAt := deletedAt }

def EntityRelation.setDeletedAt (deletedAt : Option Time) (relation : EntityRelation) :
    EntityRelation :=
  { relation with deletedAt := deletedAt }

def EntityInstance.isAmong (tenantId : Id) (ids : List Id) (deletedAt : Option Time)
    (row : EntityInstance) : Bool :=
  row.tenantId == tenantId && ids.contains row.id && row.deletedAt == deletedAt

def EntityRelation.leaves (tenantId : Id) (ids : List Id) (deletedAt : Option Time)
    (relation : EntityRelation) : Bool :=
  relation.tenantId == tenantId && ids.contains relation.fromInstanceId &&
    relation.deletedAt == deletedAt

def EntityRelation.parentsRoot (tenantId instanceId : Id) (deletedAt : Option Time)
    (relation : EntityRelation) : Bool :=
  relation.tenantId == tenantId && relation.toInstanceId == instanceId &&
    relation.relationType == .parentOf && relation.deletedAt == deletedAt

def markTree (tenantId rootId : Id) (ids : List Id) (before after : Option Time) : Tx Unit := do
  Tables.entityInstances.update (EntityInstance.isAmong tenantId ids before)
    (EntityInstance.setDeletedAt after)
  Tables.entityRelations.update (EntityRelation.leaves tenantId ids before)
    (EntityRelation.setDeletedAt after)
  Tables.entityRelations.update (EntityRelation.parentsRoot tenantId rootId before)
    (EntityRelation.setDeletedAt after)

/-! ## Archiving a record -/

inductive ArchiveResult
  | requiresConfirm (childCount : Nat)
  | archived (count : Nat)

/-- The descendants by active relations. -/
def collectActiveDescendants (tenantId : Id) (bound : Nat) (instanceId : Id) : Tx (List Id) :=
  collectDescendants tenantId bound [instanceId] []

def OutboxEvent.pendingDueDateAmong (tenantId : Id) (ids : List Id) (row : OutboxEvent) : Bool :=
  ids.any fun id => row.pendingDueDate tenantId id

def archiveEntity (tenantId instanceId : Id) (confirm : Bool) (supply : EntitySupply)
    (bound : Nat) : Tx ArchiveResult := do
  let row ← Tables.entityInstances.find (EntityInstance.isOf tenantId instanceId)
  let _ ← Prog.getOr (row.filter fun r => r.deletedAt == none)
    (.entity .entityNotFound [("instanceId", .id instanceId)])
  let descendantIds ← collectActiveDescendants tenantId bound instanceId
  if !descendantIds.isEmpty && !confirm then return .requiresConfirm descendantIds.length
  else
    let allIds := instanceId :: descendantIds
    markTree tenantId instanceId allIds none (some supply.now)
    Tables.outboxEvents.update (OutboxEvent.pendingDueDateAmong tenantId allIds)
      (OutboxEvent.deliver supply.startedAt)
    return .archived allIds.length

/-! ## Restoring a record -/

def bindDate (_ : Time) : Tx Unit :=
  .fail (.library "The \"string\" argument must be of type string. Received an instance of Date")

def EntityRelation.isBatchLink (tenantId instanceId : Id) (archiveTs : Time)
    (relation : EntityRelation) : Bool :=
  relation.tenantId == tenantId && relation.fromInstanceId == instanceId &&
    relation.relationType == .parentOf && relation.deletedAt == some archiveTs

def Db.inBatch (db : Db) (tenantId : Id) (archiveTs : Time) (instanceId : Id) : Bool :=
  ((db.entityInstances.find? (EntityInstance.isOf tenantId instanceId)).bind (·.deletedAt)) ==
    some archiveTs

def keepBatch (tenantId : Id) (archiveTs : Time) : List Id → Tx (List Id)
  | [] => return []
  | child :: rest => do
    let same ← Prog.read fun db => db.inBatch tenantId archiveTs child
    let others ← keepBatch tenantId archiveTs rest
    return if same then child :: others else others

def collectBatch (tenantId : Id) (archiveTs : Time) : Nat → List Id → List Id → Tx (List Id)
  | _, [], result => return result
  | 0, _ :: _, _ => .fail .unfinished
  | bound + 1, current :: queue, result => do
    bindDate archiveTs
    let links ← Tables.entityRelations.filter
      (EntityRelation.isBatchLink tenantId current archiveTs)
    let children ← keepBatch tenantId archiveTs (links.map (·.toInstanceId))
    collectBatch tenantId archiveTs bound (queue ++ children) (result ++ children)

def collectBatchDescendants (tenantId : Id) (archiveTs : Time) (bound : Nat) (instanceId : Id) :
    Tx (List Id) :=
  collectBatch tenantId archiveTs bound [instanceId] []

/-- The result is the number of records restored. -/
def restoreEntity (tenantId instanceId : Id) (bound : Nat) : Tx Nat := do
  let row ← Tables.entityInstances.find (EntityInstance.isOf tenantId instanceId)
  let row ← Prog.getOr row (.entity .entityNotFound [("instanceId", .id instanceId)])
  let archiveTs ← Prog.getOr row.deletedAt
    (.entity .entityNotFound [("instanceId", .id instanceId), ("reason", .str "not archived")])
  let batchDescendants ← collectBatchDescendants tenantId archiveTs bound instanceId
  let allIds := instanceId :: batchDescendants
  -- each of the three updates compares with the time in the same way
  bindDate archiveTs
  markTree tenantId instanceId allIds (some archiveTs) none
  return allIds.length

/-! ## The tree of a call -/

variable {instanceId tenantId : Id} {bound : Nat} {db db' : Db}

theorem restoreEntity_fails {result : Nat × Db} :
    (restoreEntity tenantId instanceId bound).exec db ≠ .ok result := by
  obtain ⟨count, db'⟩ := result
  unfold restoreEntity collectBatchDescendants bindDate
  simp only [ne_eq, exec_seq_ok, Table.exec_find, exec_getOr_ok, exec_fail, reduceCtorEq,
    false_and, and_false, exists_false, not_false_eq_true]

@[simp]
theorem restoreEntity_commit : (restoreEntity tenantId instanceId bound).commit db = db := by
  rcases (restoreEntity tenantId instanceId bound).commit_cases db with ⟨_, -, same⟩ | ⟨_, ran⟩
  · exact same
  · exact absurd ran restoreEntity_fails

/-- The relation is one that `markTree` writes. -/
def EntityRelation.inTree (tenantId rootId : Id) (ids : List Id) (before : Option Time)
    (relation : EntityRelation) : Bool :=
  relation.leaves tenantId ids before || relation.parentsRoot tenantId rootId before

/-- The store after the write of a tree. -/
def Db.markTree (db : Db) (tenantId rootId : Id) (ids : List Id) (before after : Option Time) : Db :=
  Tables.entityRelations.modify (EntityRelation.inTree tenantId rootId ids before)
    (EntityRelation.setDeletedAt after)
    (Tables.entityInstances.modify (EntityInstance.isAmong tenantId ids before)
      (EntityInstance.setDeletedAt after) db)

theorem EntityRelation.setDeletedAt_both (tenantId rootId : Id) (ids : List Id)
    (before after : Option Time) (relation : EntityRelation) :
    (let first := if relation.leaves tenantId ids before then relation.setDeletedAt after else relation
     if first.parentsRoot tenantId rootId before then first.setDeletedAt after else first) =
      if relation.inTree tenantId rootId ids before then relation.setDeletedAt after else relation := by
  unfold inTree
  cases leaves : relation.leaves tenantId ids before with
  | false => rfl
  | true =>
    simp only [if_true, Bool.true_or]
    split <;> rfl

theorem exec_markTree (tenantId rootId : Id) (ids : List Id) (before after : Option Time) (db : Db) :
    (OpenWind.markTree tenantId rootId ids before after).exec db =
      .ok ((), db.markTree tenantId rootId ids before after) := by
  unfold OpenWind.markTree Db.markTree
  simp only [bind_eq, exec_bind, Table.exec_update]
  have relations : ((db.entityRelations.map fun r =>
      if r.leaves tenantId ids before then r.setDeletedAt after else r).map fun r =>
        if r.parentsRoot tenantId rootId before then r.setDeletedAt after else r) =
      db.entityRelations.map fun r =>
        if r.inTree tenantId rootId ids before then r.setDeletedAt after else r := by
    rw [List.map_map]
    exact List.map_congr_left fun r _ => r.setDeletedAt_both tenantId rootId ids before after
  exact congrArg (fun rows => Except.ok ((), Tables.entityRelations.put
    (Tables.entityInstances.modify (EntityInstance.isAmong tenantId ids before)
      (EntityInstance.setDeletedAt after) db) rows)) relations

/-- The store without a record and the records below it. -/
abbrev Db.archived (db : Db) (tenantId rootId : Id) (ids : List Id) (supply : EntitySupply) : Db :=
  Tables.outboxEvents.modify (OutboxEvent.pendingDueDateAmong tenantId ids)
    (OutboxEvent.deliver supply.startedAt) (db.markTree tenantId rootId ids none (some supply.now))

theorem archiveEntity_cases {confirm : Bool} {supply : EntitySupply} {result : ArchiveResult}
    (ran : (archiveEntity tenantId instanceId confirm supply bound).exec db = .ok (result, db')) :
    db' = db ∨ ∃ row ids,
      db.entityInstances.find? (EntityInstance.isOf tenantId instanceId) = some row ∧
      row.deletedAt = none ∧
      Worklist.collect (db.childIds tenantId) bound [instanceId] [] = some ids ∧
      db' = db.archived tenantId instanceId (instanceId :: ids) supply := by
  unfold archiveEntity collectActiveDescendants at ran
  simp only [exec_seq_ok, Table.exec_find, Tables.entityInstances_rows, exec_getOr_ok,
    exec_collectDescendants, walked_ok, Option.filter_eq_some_iff, beq_iff_eq, ok_eq_ok] at ran
  obtain ⟨_, _, ⟨rfl, rfl⟩, row, _, ⟨⟨found, live⟩, rfl⟩, ids, _, ⟨collected, rfl⟩, rest⟩ := ran
  by_cases asks : (!ids.isEmpty && !confirm) = true
  · rw [if_pos asks] at rest
    cases rest
    exact .inl rfl
  · rw [if_neg asks] at rest
    simp only [exec_seq_ok, exec_markTree, Table.exec_update, exec_pure, ok_eq_ok] at rest
    obtain ⟨_, _, ⟨-, rfl⟩, _, _, ⟨-, rfl⟩, -, rfl⟩ := rest
    exact .inr ⟨row, ids, found, live, collected, rfl⟩

end OpenWind
