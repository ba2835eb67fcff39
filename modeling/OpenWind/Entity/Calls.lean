import OpenWind.Workflow.Notes
import OpenWind.Lib.Runs

/-!
# Runs of calls on records

`RecordCall` lists the operations that create a record, write its state or add a
note to its log, with their arguments, and `RecordCall.step` runs one alone: it commits what the
operation did, or nothing when it failed.
-/

open List

namespace OpenWind

open Txn

inductive RecordCall
  | createEntity (rules : FieldRules) (tenantId : Id) (input : CreateEntityInput)
    (supply : EntitySupply)
  | executeTransition (tenantId : Id) (request : TransitionRequest) (supply : Supply)
  | overrideWorkflowState (tenantId : Id) (request : StateOverrideRequest) (supply : Supply)
  | setEntityState (tenantId instanceId : Id) (state : String) (actorId : Option String)
    (supply : EntitySupply)
  | bulkSetState (tenantId : Id) (items : List BulkItem) (actorId : Option String)
    (supply : EntitySupply)
  | updateEntity (rules : FieldRules) (tenantId instanceId : Id) (input : UpdateEntityInput)
    (supply : EntitySupply)
  | insertNote (tenantId instanceId : Id) (ctx : WorkflowContext) (note : Note) (createdAt : Time)
    (eventId : Id)

/-- The store after a call that ran alone. -/
def RecordCall.commit (db : Db) : RecordCall → Db
  | createEntity rules tenantId input supply =>
    (OpenWind.createEntity rules tenantId input supply).commit db
  | executeTransition tenantId request supply =>
    (OpenWind.executeTransition tenantId request supply).commit db
  | overrideWorkflowState tenantId request supply =>
    (OpenWind.overrideWorkflowState tenantId request supply).commit db
  | setEntityState tenantId instanceId state actorId supply =>
    (OpenWind.setEntityState tenantId instanceId state actorId supply).commit db
  | bulkSetState tenantId items actorId supply =>
    (OpenWind.bulkSetState tenantId items actorId supply).commit db
  | updateEntity rules tenantId instanceId input supply =>
    (OpenWind.updateEntity rules tenantId instanceId input supply).commit db
  | insertNote tenantId instanceId ctx note createdAt eventId =>
    (OpenWind.insertNote tenantId instanceId ctx note createdAt eventId).commit db

def RecordCall.step (db : Db) (call : RecordCall) : Option Db := some (call.commit db)

/-! ## Records across a step -/

/-- The two rows are of one record: what identifies it and what it belongs to
are the same. -/
structure SameRecord (old new : EntityInstance) : Prop where
  id : new.id = old.id
  tenantId : new.tenantId = old.tenantId
  entityTypeId : new.entityTypeId = old.entityTypeId
  workflowId : new.workflowId = old.workflowId
  createdBy : new.createdBy = old.createdBy
  deletedAt : new.deletedAt = old.deletedAt

theorem SameRecord.refl (row : EntityInstance) : SameRecord row row :=
  ⟨rfl, rfl, rfl, rfl, rfl, rfl⟩

theorem SameRecord.trans {a b c : EntityInstance} (first : SameRecord a b)
    (second : SameRecord b c) : SameRecord a c :=
  ⟨second.id.trans first.id, second.tenantId.trans first.tenantId,
    second.entityTypeId.trans first.entityTypeId, second.workflowId.trans first.workflowId,
    second.createdBy.trans first.createdBy, second.deletedAt.trans first.deletedAt⟩

theorem SameRecord.enter (state : String) (now : Time) (row : EntityInstance) :
    SameRecord row (row.enter state now) :=
  ⟨rfl, rfl, rfl, rfl, rfl, rfl⟩

theorem SameRecord.apply (input : UpdateEntityInput) (fields : Option Fields) (now : Time)
    (row : EntityInstance) : SameRecord row (input.apply fields now row) :=
  ⟨rfl, rfl, rfl, rfl, rfl, rfl⟩

variable {f : EntityInstance → EntityInstance} {db db' : Db} {row : EntityInstance}
  {fresh : List EntityInstance}

theorem SameRecord.ite (same : ∀ row, SameRecord row (f row)) (b : Bool) (row : EntityInstance) :
    SameRecord row (if b then f row else row) := by
  cases b
  · exact .refl row
  · exact same row

theorem SameRecord.throughBuckets (tenantId : Id) (now : Time) (buckets : List (String × List Id))
    (row : EntityInstance) : SameRecord row (row.throughBuckets tenantId now buckets) := by
  unfold EntityInstance.throughBuckets
  induction buckets generalizing row with
  | nil => exact .refl row
  | cons bucket rest ih =>
    exact (SameRecord.ite (.enter bucket.1 now) _ row).trans (ih _)

structure Evolves (db db' : Db) (f : EntityInstance → EntityInstance)
    (fresh : List EntityInstance) : Prop where
  instances : db'.entityInstances = db.entityInstances.map f ++ fresh
  same : ∀ row, SameRecord row (f row)
  unused : db.Unused fresh

/-- The identifiers of the records are distinct. -/
def Db.Keyed (db : Db) : Prop := (db.entityInstances.map (·.id)).Nodup

theorem Db.Keyed.eq (keyed : db.Keyed) {r r' : EntityInstance} (mem : r ∈ db.entityInstances)
    (mem' : r' ∈ db.entityInstances) (same : r.id = r'.id) : r = r' :=
  inj_on_of_nodup_map keyed mem mem' same

theorem Db.Keyed.of_instances {db' : Db} (keyed : db.Keyed)
    (same : db'.entityInstances = db.entityInstances) : db'.Keyed := by
  unfold Db.Keyed
  rw [same]
  exact keyed

/-- The one row of a record. -/
theorem Db.Keyed.filter_id (keyed : db.Keyed) (mem : row ∈ db.entityInstances) :
    db.entityInstances.filter (fun r => r.id == row.id) = [row] := by
  have nodup : (db.entityInstances.filter fun r => r.id == row.id).Nodup :=
    (Nodup.of_map _ keyed).filter _
  have only : ∀ r ∈ db.entityInstances.filter (fun r => r.id == row.id), r = row := by
    intro r filtered
    obtain ⟨memR, same⟩ := mem_filter.mp filtered
    exact keyed.eq memR mem (eq_of_beq same)
  have listed : row ∈ db.entityInstances.filter fun r => r.id == row.id :=
    mem_filter.mpr ⟨mem, beq_self_eq_true _⟩
  obtain ⟨n, repeated⟩ : ∃ n, db.entityInstances.filter (fun r => r.id == row.id) =
      replicate n row := ⟨_, eq_replicate_of_mem only⟩
  rw [repeated] at nodup listed ⊢
  have length : n = 1 := by
    have upper := nodup_replicate.mp nodup
    have lower : n ≠ 0 := (mem_replicate.mp listed).1
    omega
  rw [length]
  rfl

theorem Db.unused_nil (db : Db) : db.Unused [] :=
  ⟨nodup_nil, fun _ mem => absurd mem not_mem_nil⟩

theorem Evolves.refl (db : Db) : Evolves db db id [] :=
  ⟨by rw [map_id, append_nil], .refl, db.unused_nil⟩

theorem Evolves.of_map (instances : db'.entityInstances = db.entityInstances.map f)
    (same : ∀ row, SameRecord row (f row)) : Evolves db db' f [] :=
  ⟨by rw [instances, append_nil], same, db.unused_nil⟩

theorem Evolves.of_append (instances : db'.entityInstances = db.entityInstances ++ fresh)
    (unused : db.Unused fresh) : Evolves db db' id fresh :=
  ⟨by rw [instances, map_id], .refl, unused⟩

theorem Db.Keyed.grow (keyed : db.Keyed) (ids : ∀ row, (f row).id = row.id)
    (instances : db'.entityInstances = db.entityInstances.map f ++ fresh) (unused : db.Unused fresh) :
    db'.Keyed := by
  have same : (db.entityInstances.map f).map (·.id) = db.entityInstances.map (·.id) := by
    rw [map_map]
    exact map_congr_left fun row _ => ids row
  unfold Db.Keyed
  rw [instances, map_append, same, List.nodup_append]
  refine ⟨keyed, unused.1, fun i old j new eq => ?_⟩
  obtain ⟨row, mem, rfl⟩ := mem_map.mp old
  obtain ⟨row', mem', rfl⟩ := mem_map.mp new
  exact unused.2 row' mem' row mem eq

theorem Evolves.keyed {db db' : Db} {f : EntityInstance → EntityInstance}
    {fresh : List EntityInstance} (evolves : Evolves db db' f fresh) (keyed : db.Keyed) :
    db'.Keyed :=
  keyed.grow (fun row => (evolves.same row).id) evolves.instances evolves.unused

theorem Evolves.mem {db db' : Db} {f : EntityInstance → EntityInstance}
    {fresh : List EntityInstance} (evolves : Evolves db db' f fresh) {row' : EntityInstance}
    (mem : row' ∈ db'.entityInstances) :
    (∃ row ∈ db.entityInstances, row' = f row) ∨ row' ∈ fresh := by
  rw [evolves.instances] at mem
  rcases mem_append.mp mem with old | new
  · rcases mem_map.mp old with ⟨row, memRow, rfl⟩
    exact .inl ⟨row, memRow, rfl⟩
  · exact .inr new

/-- Every record is still there. -/
theorem Evolves.kept (evolves : Evolves db db' f fresh) (mem : row ∈ db.entityInstances) :
    f row ∈ db'.entityInstances := by
  rw [evolves.instances]
  exact mem_append_left _ (mem_map_of_mem mem)

end OpenWind
