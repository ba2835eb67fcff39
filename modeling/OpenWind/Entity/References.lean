import OpenWind.Entity.ChildRelations
import OpenWind.Workflow.Notes

/-!
# Reference links

A reference link is a pair of rows, `references` from one record and
`referenced_by` from the other.  `createReferenceLink` and `deleteReferenceLink`
write both; `createRelation` writes one row and `deleteRelation` deletes the one it is given, of
whatever type.
Each files a note under both records.
-/

open List Txn.Prog OpenWind.Tables

namespace OpenWind

open Txn

def relationReferences : RelationType := .other "references"

def relationReferencedBy : RelationType := .other "referenced_by"

def RelationType.text : RelationType → String
  | childOf => "child_of"
  | parentOf => "parent_of"
  | other name => name

/-! ## History -/

inductive LinkHistoryType
  | linkCreated | linkRemoved | referenceCreated | referenceRemoved

def LinkHistoryType.text : LinkHistoryType → String
  | linkCreated => "link_created"
  | linkRemoved => "link_removed"
  | referenceCreated => "reference_created"
  | referenceRemoved => "reference_removed"

/-- The note of a link in the log of one of its records. -/
def writeLinkHistoryEvent (tenantId instanceId counterpartId : Id) (relationType : RelationType)
    (actorId : Option String) (type : LinkHistoryType) (createdAt : Time) (eventId : Id) :
    Tx Unit := do
  match ← resolveWorkflowContext tenantId instanceId with
  | none => return ()
  | some ctx =>
    insertNote tenantId instanceId ctx
      ⟨.user, actorId, [("type", .str type.text), ("counterpartId", .id counterpartId),
        ("relationType", .str relationType.text)]⟩ createdAt eventId

/-- The notes of both records. -/
def writeLinkHistory (tenantId fromInstanceId toInstanceId : Id) (relationType : RelationType)
    (actorId : Option String) (type : LinkHistoryType) (supply : EntitySupply) : Tx Unit := do
  writeLinkHistoryEvent tenantId fromInstanceId toInstanceId relationType actorId type
    supply.startedAt (supply.id 0)
  writeLinkHistoryEvent tenantId toInstanceId fromInstanceId relationType actorId type
    supply.startedAt (supply.id 1)

/-! ## Creating a link -/

structure CreateReferenceLinkInput where
  fromInstanceId : Id
  toInstanceId : Id
  actorId : Option String := none

def requireLive (tenantId instanceId : Id) : Tx EntityInstance := do
  let row ← Tables.entityInstances.find (EntityInstance.isLive tenantId instanceId)
  Prog.getOr row (.entity .relationTargetNotFound [("instanceId", .id instanceId)])

structure CreateRelationInput where
  fromInstanceId : Id
  toInstanceId : Id
  relationType : RelationType
  actorId : Option String := none

def createRelation (tenantId : Id) (input : CreateRelationInput) (supply : EntitySupply) :
    Tx EntityRelation := do
  let _ ← requireLive tenantId input.fromInstanceId
  let _ ← requireLive tenantId input.toInstanceId
  let row : EntityRelation :=
    { id := supply.id 0, tenantId, fromInstanceId := input.fromInstanceId
      toInstanceId := input.toInstanceId, relationType := input.relationType }
  insertRelations [row]
  writeLinkHistory tenantId input.fromInstanceId input.toInstanceId input.relationType
    input.actorId .linkCreated supply
  return row

def EntityRelation.links (tenantId : Id) (relationType : RelationType)
    (fromInstanceId toInstanceId : Id) (relation : EntityRelation) : Bool :=
  relation.isActive tenantId relationType && relation.fromInstanceId == fromInstanceId &&
    relation.toInstanceId == toInstanceId

def referencePair (tenantId fromInstanceId toInstanceId referencesId referencedById : Id) :
    List EntityRelation :=
  [{ id := referencesId, tenantId, fromInstanceId, toInstanceId
     relationType := relationReferences },
    { id := referencedById, tenantId, fromInstanceId := toInstanceId
      toInstanceId := fromInstanceId, relationType := relationReferencedBy }]

def createReferenceLink (tenantId : Id) (input : CreateReferenceLinkInput)
    (supply : EntitySupply) : Tx (List EntityRelation) := do
  Tx.requireE (input.fromInstanceId != input.toInstanceId) .relationSelfLink
    [("instanceId", .id input.fromInstanceId)]
  let _ ← requireLive tenantId input.fromInstanceId
  let _ ← requireLive tenantId input.toInstanceId
  let existing ← Tables.entityRelations.find
    (EntityRelation.links tenantId relationReferences input.fromInstanceId input.toInstanceId)
  Tx.requireE existing.isNone .relationAlreadyExists
    [("fromInstanceId", .id input.fromInstanceId), ("toInstanceId", .id input.toInstanceId)]
  let pair := referencePair tenantId input.fromInstanceId input.toInstanceId (supply.id 0)
    (supply.id 1)
  insertRelations pair
  writeLinkHistory tenantId input.fromInstanceId input.toInstanceId relationReferences
    input.actorId .referenceCreated supply
  return pair

/-! ## Deleting a link -/

/-- An active row of a reference link. -/
def EntityRelation.isReference (tenantId relationId : Id) (relation : EntityRelation) : Bool :=
  relation.id == relationId && (relation.isActive tenantId relationReferences ||
    relation.isActive tenantId relationReferencedBy)

def RelationType.referenceMirror (relationType : RelationType) : RelationType :=
  if relationType == relationReferences then relationReferencedBy else relationReferences

/-- The row itself, and the active rows that mirror it. -/
def EntityRelation.ofLink (tenantId : Id) (link relation : EntityRelation) : Bool :=
  relation.id == link.id || relation.links tenantId link.relationType.referenceMirror
    link.toInstanceId link.fromInstanceId

def deleteReferenceLink (tenantId relationId : Id) (actorId : Option String)
    (supply : EntitySupply) : Tx Unit := do
  let relation ← Tables.entityRelations.find (EntityRelation.isReference tenantId relationId)
  let relation ← Prog.getOr relation
    (.entity .relationNotFound [("relationId", .id relationId)])
  Tables.entityRelations.update (EntityRelation.ofLink tenantId relation)
    (EntityRelation.delete supply.startedAt)
  writeLinkHistory tenantId relation.fromInstanceId relation.toInstanceId relation.relationType
    actorId .referenceRemoved supply

/-- Only the row that is named is deleted, and it need not be active. -/
def deleteRelation (tenantId relationId : Id) (actorId : Option String) (supply : EntitySupply) :
    Tx Unit := do
  let existing ← Tables.entityRelations.find fun r => r.id == relationId && r.tenantId == tenantId
  let existing ← Prog.getOr existing
    (.entity .relationNotFound [("relationId", .id relationId)])
  Tables.entityRelations.update (fun r => r.id == relationId)
    (EntityRelation.delete supply.startedAt)
  writeLinkHistory tenantId existing.fromInstanceId existing.toInstanceId existing.relationType
    actorId .linkRemoved supply

/-! ## What the calls write -/

structure SameHierarchy (db db' : Db) : Prop where
  instances : db'.entityInstances = db.entityInstances
  relations : db'.entityRelations = db.entityRelations
  workflows : db'.workflows = db.workflows

theorem SameHierarchy.refl (db : Db) : SameHierarchy db db := ⟨rfl, rfl, rfl⟩

theorem SameHierarchy.trans {a b c : Db} (first : SameHierarchy a b) (second : SameHierarchy b c) :
    SameHierarchy a c :=
  ⟨second.instances.trans first.instances, second.relations.trans first.relations,
    second.workflows.trans first.workflows⟩

variable {db db' : Db} {instanceId relationId tenantId : Id} {relationType : RelationType}
  {actorId : Option String} {type : LinkHistoryType} {u : Unit} {supply : EntitySupply}

theorem Effect.sameHierarchy {events : List WorkflowEvent}
    (effect : Effect db db' db.entityInstances events) : SameHierarchy db db' :=
  ⟨effect.instances, effect.definitions.relations, effect.definitions.workflows⟩

theorem exec_resolveWorkflowContext_ok {ctx : Option WorkflowContext}
    (ran : (resolveWorkflowContext tenantId instanceId).exec db = .ok (ctx, db')) : db' = db := by
  refine ReadOnly.exec (.bind (.read _) fun row => ?_) ran
  cases row with
  | none => trivial
  | some row => exact .bind (.read _) fun _ => trivial

theorem exec_writeLinkHistoryEvent_ok {tenantId instanceId counterpartId : Id} {createdAt : Time}
    {eventId : Id}
    (ran : (writeLinkHistoryEvent tenantId instanceId counterpartId relationType actorId type
      createdAt eventId).exec db = .ok (u, db')) : SameHierarchy db db' := by
  unfold writeLinkHistoryEvent at ran
  rw [bind_eq, exec_bind_ok] at ran
  obtain ⟨ctx, mid, resolved, noted⟩ := ran
  obtain rfl := exec_resolveWorkflowContext_ok resolved
  cases ctx with
  | none => cases noted; exact .refl _
  | some ctx => exact (exec_insertNote_ok noted).2.sameHierarchy

theorem exec_writeLinkHistory_ok {tenantId fromInstanceId toInstanceId : Id}
    (ran : (writeLinkHistory tenantId fromInstanceId toInstanceId relationType actorId type
      supply).exec db = .ok (u, db')) : SameHierarchy db db' := by
  unfold writeLinkHistory at ran
  rw [bind_eq, exec_bind_ok] at ran
  obtain ⟨_, mid, first, second⟩ := ran
  exact (exec_writeLinkHistoryEvent_ok first).trans (exec_writeLinkHistoryEvent_ok second)

theorem exec_requireLive_ok {row : EntityInstance}
    (ran : (requireLive tenantId instanceId).exec db = .ok (row, db')) :
    (row ∈ db.entityInstances ∧ row.isLive tenantId instanceId) ∧ db' = db := by
  unfold requireLive at ran
  simp only [exec_seq_ok, Table.exec_find, entityInstances_rows, exec_getOr_ok, ok_eq_ok] at ran
  obtain ⟨_, _, ⟨rfl, rfl⟩, found, same⟩ := ran
  exact ⟨⟨mem_of_find?_eq_some found, find?_some found⟩, same⟩

theorem createRelation_cases {input : CreateRelationInput} {row : EntityRelation}
    (ran : (createRelation tenantId input supply).exec db = .ok (row, db')) :
    (∃ row ∈ db.entityInstances, row.isLive tenantId input.fromInstanceId) ∧
      (row.tenantId = tenantId ∧ row.fromInstanceId = input.fromInstanceId ∧ row.deletedAt = none) ∧
      Tables.entityRelations.fresh [row] db ∧
      SameHierarchy (Tables.entityRelations.append [row] db) db' := by
  unfold createRelation at ran
  simp only [exec_seq_ok, insertRelations, Table.exec_insert_ok, exec_pure, ok_eq_ok] at ran
  obtain ⟨one, _, first, _, _, second, _, _, ⟨fresh, rfl⟩, _, _, noted, rfl, rfl⟩ := ran
  obtain ⟨⟨mem, live⟩, rfl⟩ := exec_requireLive_ok first
  obtain ⟨-, rfl⟩ := exec_requireLive_ok second
  exact ⟨⟨one, mem, live⟩, ⟨rfl, rfl, rfl⟩, fresh, exec_writeLinkHistory_ok noted⟩

theorem createReferenceLink_cases {input : CreateReferenceLinkInput} {pair : List EntityRelation}
    (ran : (createReferenceLink tenantId input supply).exec db = .ok (pair, db')) :
    (∃ row ∈ db.entityInstances, row.isLive tenantId input.fromInstanceId) ∧
      (∃ row ∈ db.entityInstances, row.isLive tenantId input.toInstanceId) ∧
      (∀ r ∈ db.entityRelations, r.links tenantId relationReferences input.fromInstanceId
        input.toInstanceId = false) ∧
      pair = referencePair tenantId input.fromInstanceId input.toInstanceId (supply.id 0)
        (supply.id 1) ∧
      Tables.entityRelations.fresh pair db ∧
      SameHierarchy (Tables.entityRelations.append pair db) db' := by
  unfold createReferenceLink Tx.requireE at ran
  simp only [exec_seq_ok, exec_require_ok, Table.exec_find, entityRelations_rows, insertRelations,
    Table.exec_insert_ok, exec_pure, ok_eq_ok] at ran
  obtain ⟨_, _, ⟨-, rfl⟩, row, mid, one, row', mid', two, _, _, ⟨rfl, rfl⟩, _, _, ⟨new, rfl⟩, _, _,
    ⟨fresh, rfl⟩, _, _, noted, rfl, rfl⟩ := ran
  obtain ⟨⟨mem, live⟩, rfl⟩ := exec_requireLive_ok one
  obtain ⟨⟨mem', live'⟩, rfl⟩ := exec_requireLive_ok two
  refine ⟨⟨row, mem, live⟩, ⟨row', mem', live'⟩, fun r memR => ?_, rfl, fresh,
    exec_writeLinkHistory_ok noted⟩
  exact Bool.eq_false_iff.mpr (find?_eq_none.mp (Option.isNone_iff_eq_none.mp new) r memR)

theorem deleteReferenceLink_cases
    (ran : (deleteReferenceLink tenantId relationId actorId supply).exec db = .ok (u, db')) :
    ∃ link ∈ db.entityRelations, link.isReference tenantId relationId ∧
      SameHierarchy (db.deleteRelations (EntityRelation.ofLink tenantId link) supply.startedAt)
        db' := by
  unfold deleteReferenceLink at ran
  simp only [exec_seq_ok, Table.exec_find, entityRelations_rows, exec_getOr_ok, Table.exec_update,
    ok_eq_ok] at ran
  obtain ⟨_, _, ⟨rfl, rfl⟩, link, _, ⟨found, rfl⟩, _, _, ⟨-, rfl⟩, noted⟩ := ran
  exact ⟨link, mem_of_find?_eq_some found, find?_some found, exec_writeLinkHistory_ok noted⟩

theorem deleteRelation_cases
    (ran : (deleteRelation tenantId relationId actorId supply).exec db = .ok (u, db')) :
    (∃ r ∈ db.entityRelations, r.id = relationId ∧ r.tenantId = tenantId) ∧
      SameHierarchy (db.deleteRelations (fun r => r.id == relationId) supply.startedAt) db' := by
  unfold deleteRelation at ran
  simp only [exec_seq_ok, Table.exec_find, entityRelations_rows, exec_getOr_ok, Table.exec_update,
    ok_eq_ok] at ran
  obtain ⟨_, _, ⟨rfl, rfl⟩, r, _, ⟨found, rfl⟩, _, _, ⟨-, rfl⟩, noted⟩ := ran
  have selected := find?_some found
  simp only [Bool.and_eq_true, beq_iff_eq] at selected
  exact ⟨⟨r, mem_of_find?_eq_some found, selected⟩, exec_writeLinkHistory_ok noted⟩

end OpenWind
