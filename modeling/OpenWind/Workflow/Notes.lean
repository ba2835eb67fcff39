import OpenWind.Entity.Effects

/-!
# Notes in the event log

Comments and access events are rows of the event log too.  A note is filed under
the workflow of its record, or of the record's parent, and takes the record's
state both as the state left and as the state entered.  The state is read in one
transaction and the note is inserted in another, so `insertNote` is given a
context that may be out of date.
-/

namespace OpenWind

open Txn

/-- What a note is filed under. -/
structure WorkflowContext where
  workflowId : Id
  currentState : String

/-- The workflow of a record without one of its own is its parent's. -/
def resolveWorkflowContext (tenantId instanceId : Id) : Tx (Option WorkflowContext) := do
  match ← Tables.entityInstances.find (EntityInstance.isOf tenantId instanceId) with
  | none => return none
  | some row =>
    let workflowId ← Prog.read fun db => db.effectiveWorkflowId tenantId row
    return workflowId.map fun id => ⟨id, row.currentState⟩

/-- Who writes a note and what it says. -/
structure Note where
  triggeredBy : TriggeredBy := .user
  actorId : Option String
  metadata : Fields

def Note.event (note : Note) (tenantId instanceId : Id) (ctx : WorkflowContext) (createdAt : Time)
    (eventId : Id) : WorkflowEvent where
  id := eventId
  tenantId := tenantId
  instanceId := instanceId
  workflowId := ctx.workflowId
  fromState := some ctx.currentState
  toState := ctx.currentState
  triggeredBy := note.triggeredBy
  actorId := note.actorId
  metadata := note.metadata
  createdAt := createdAt

/-- The insert of a note, under the foreign key on the record. -/
def insertNote (tenantId instanceId : Id) (ctx : WorkflowContext) (note : Note) (createdAt : Time)
    (eventId : Id) : Tx Unit := do
  let row ← Tables.entityInstances.find fun row => row.id == instanceId
  Prog.require row.isSome (.foreignKey "workflow_events_instance_id")
  insertWorkflowEvent (note.event tenantId instanceId ctx createdAt eventId)

/-- The event of a grant, a change or a revocation of access. -/
def emitAccessEvent (tenantId instanceId : Id) (actorId : String) (payload : Fields)
    (createdAt : Time) (eventId : Id) : Tx Unit := do
  match ← resolveWorkflowContext tenantId instanceId with
  | none => return ()
  | some ctx =>
    insertNote tenantId instanceId ctx ⟨.user, some actorId, payload⟩ createdAt eventId

variable {eventId instanceId tenantId : Id} {createdAt : Time} {db db' : Db} {u : Unit}

theorem exec_insertNote_ok {ctx : WorkflowContext} {note : Note}
    (ran : (insertNote tenantId instanceId ctx note createdAt eventId).exec db = .ok (u, db')) :
    (∃ row ∈ db.entityInstances, row.id = instanceId) ∧
      Effect db db' db.entityInstances [note.event tenantId instanceId ctx createdAt eventId] := by
  unfold insertNote at ran
  simp only [Prog.exec_seq_ok, Table.exec_find, Tables.entityInstances_rows, Prog.exec_require_ok,
    Prog.ok_eq_ok] at ran
  obtain ⟨_, db, ⟨rfl, rfl⟩, _, db, ⟨found, rfl⟩, inserted⟩ := ran
  obtain ⟨row, eq⟩ := Option.isSome_iff_exists.mp found
  have named := List.find?_some eq
  exact ⟨⟨row, List.mem_of_find?_eq_some eq, eq_of_beq named⟩,
    exec_insertWorkflowEvent_effect inserted⟩

end OpenWind
