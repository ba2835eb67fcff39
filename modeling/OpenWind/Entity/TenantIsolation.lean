import OpenWind.Entity.RestoreArchive
import OpenWind.Workflow.TransitionIdempotency

/-!
# Tenants beside each other

The records of all tenants, their event log and the outbox are three tables, and each operation
selects rows of the tenant that calls it.  Any number of operations run at once, for any tenants.

Relations do not count here: `unlinkChild` ends a row that it has found by its identifier alone.
-/

open List Bool Txn.Prog Functor

namespace OpenWind

open Txn

/-! ## What a tenant owns -/

structure TenantRows where
  instances : List EntityInstance
  events : List WorkflowEvent
  outbox : List OutboxEvent

def Db.rowsOf (db : Db) (tenantId : Id) : TenantRows where
  instances := db.entityInstances.filter fun row => row.tenantId == tenantId
  events := db.workflowEvents.filter fun event => event.tenantId == tenantId
  outbox := db.outboxEvents.filter fun row => row.tenantId == tenantId

/-- The change leaves what the other tenants own. -/
def Confined (tenantId : Id) (change : Db → Db) : Prop :=
  ∀ db other, other ≠ tenantId → (change db).rowsOf other = db.rowsOf other

structure Owned {ρ : Type} (T : Table Db LockKey ρ) where
  tenantOf : ρ → Id
  framed : ∀ {db rows other},
    (rows.filter fun r => tenantOf r == other) = (T.rows db).filter (fun r => tenantOf r == other) →
      (T.put db rows).rowsOf other = db.rowsOf other

def instancesOwned : Owned Tables.entityInstances where
  tenantOf row := row.tenantId
  framed same := by
    unfold Db.rowsOf
    congr 1

def eventsOwned : Owned Tables.workflowEvents where
  tenantOf event := event.tenantId
  framed same := by
    unfold Db.rowsOf
    congr 1

def outboxOwned : Owned Tables.outboxEvents where
  tenantOf row := row.tenantId
  framed same := by
    unfold Db.rowsOf
    congr 1

namespace Owned

variable {ρ : Type} {T : Table Db LockKey ρ} {tenantId : Id} {e : TxError}

theorem update (owned : Owned T) {p : ρ → Bool} {f : ρ → ρ}
    (own : ∀ r, p r = true → owned.tenantOf r = tenantId)
    (stays : ∀ r, owned.tenantOf (f r) = owned.tenantOf r) :
    (T.update p f : Tx Unit).Keeps (Confined tenantId) := by
  refine .write fun patch view kept db other ne => ?_
  refine (owned.framed ?_).trans (kept db other ne)
  rw [filter_map]
  have selects : ((fun r => owned.tenantOf r == other) ∘ fun r =>
      if T.selected p view r then f r else r) = fun r => owned.tenantOf r == other := by
    funext r
    dsimp only [Function.comp_apply]
    split
    · rw [stays]
    · rfl
  rw [selects]
  -- a row of another tenant is not among those that the update matched
  refine (map_congr_left fun r mem => ?_).trans (map_id _)
  obtain ⟨-, theirs⟩ := mem_filter.mp mem
  rw [if_neg, id]
  intro matched
  obtain ⟨mine, -⟩ := Bool.and_eq_true_iff.mp matched
  exact ne ((eq_of_beq theirs).symm.trans (own r mine))

theorem append (owned : Owned T) {rs : List ρ} {patch : Db → Db}
    (own : ∀ r ∈ rs, owned.tenantOf r = tenantId) (kept : Confined tenantId patch) :
    Confined tenantId (T.append rs ∘ patch) := by
  intro db other ne
  refine (owned.framed ?_).trans (kept db other ne)
  have none_ : rs.filter (fun r => owned.tenantOf r == other) = [] := by
    refine filter_eq_nil_iff.mpr fun r mem theirs => ?_
    exact ne ((eq_of_beq theirs).symm.trans (own r mem))
  rw [filter_append, none_, append_nil]

theorem insert (owned : Owned T) {rs : List ρ} (own : ∀ r ∈ rs, owned.tenantOf r = tenantId) :
    (T.insert e rs : Tx Unit).Keeps (Confined tenantId) :=
  Table.keeps_insert fun _ => owned.append own

theorem insertOne (owned : Owned T) {r : ρ} (own : owned.tenantOf r = tenantId) :
    (T.insert e [r] : Tx Unit).Keeps (Confined tenantId) :=
  owned.insert fun _ mem => mem_singleton.mp mem ▸ own

end Owned

section Operations

variable {α β : Type} {A : (Db → Db) → Prop} {tenantId instanceId : Id} {row existing : EntityInstance}
  {rules : FieldRules} {input : UpdateEntityInput} {supply : EntitySupply} {bound : Nat}
  {actorId : Option String}

theorem lift_keeps {next : α → Tx β} {result : Except TxError α}
    (rest : ∀ a, result = .ok a → (next a).Keeps A) : ((Tx.lift result).bind next).Keeps A := by
  cases result with
  | ok a => exact rest a rfl
  | error e => trivial

/-! ## The statements that the operations share -/

/-- A change of the relations. -/
theorem relations_confined {p : EntityRelation → Bool} {f : EntityRelation → EntityRelation} :
    (Tables.entityRelations.update p f : Tx Unit).Keeps (Confined tenantId) :=
  Table.keeps_update fun _ _ kept => kept

theorem insertRelations_confined (rows : List EntityRelation) :
    (insertRelations rows).Keeps (Confined tenantId) :=
  Table.keeps_insert fun _ kept => kept

theorem insertOutbox_confined {rows : List OutboxEvent} (own : ∀ r ∈ rows, r.tenantId = tenantId) :
    (Tx.insertOutbox rows).Keeps (Confined tenantId) :=
  outboxOwned.insert own

theorem insertWorkflowEvent_confined {event : WorkflowEvent} (own : event.tenantId = tenantId) :
    (insertWorkflowEvent event).Keeps (Confined tenantId) := by
  unfold insertWorkflowEvent
  split
  · exact eventsOwned.insertOne own
  · exact .writeChecked fun _ _ => eventsOwned.append fun e mem => mem_singleton.mp mem ▸ own

theorem isOf_own : ∀ r, EntityInstance.isOf tenantId instanceId r = true → r.tenantId = tenantId :=
  fun _ selects => eq_of_beq (and_eq_true_iff.mp selects).2

theorem pendingDueDate_own :
    ∀ r, OutboxEvent.pendingDueDate tenantId instanceId r = true → r.tenantId = tenantId :=
  fun _ selects => eq_of_beq (and_eq_true_iff.mp (and_eq_true_iff.mp selects).1).2

theorem rescheduleDueDate_confined {old new : Option Time} {rowId : Id} :
    (rescheduleDueDate tenantId row old new supply rowId).Keeps (Confined tenantId) := by
  unfold rescheduleDueDate
  split
  · trivial
  · refine .bind (outboxOwned.update pendingDueDate_own fun _ => rfl) fun _ => ?_
    split
    · trivial
    · exact outboxOwned.insertOne rfl

theorem checkStateWrite_keeps {field : String} {workflowId : Option Id} {state target : String}
    {isChildTicket : Bool} :
    (checkStateWrite field tenantId instanceId workflowId state target isChildTicket).Keeps A := by
  have direct {workflowId : Option Id} {b : Bool} :
      (assertDirectStateWriteAllowed tenantId instanceId workflowId state target b).Keeps A := by
    unfold assertDirectStateWriteAllowed
    split
    · trivial
    · split
      · trivial
      · exact .bind (.read _) fun _ => .require ..
  unfold checkStateWrite
  split
  · exact .bind (.require ..) fun _ => direct
  · split
    · trivial
    · exact .bind direct fun _ => .bind (.read _) fun _ => .require ..

theorem creationOutbox_own {redacted : Fields} {depth : Option Nat} {createdAt : Time}
    {createdId assignedId : Id} :
    ∀ r ∈ creationOutbox tenantId row redacted actorId depth createdAt createdId assignedId,
      r.tenantId = tenantId := by
  unfold creationOutbox
  rw [forall_mem_cons, forall_mem_map]
  exact ⟨rfl, fun _ _ => rfl⟩

theorem assignmentOutbox_own :
    ∀ r ∈ assignmentOutbox tenantId existing row input supply, r.tenantId = tenantId := by
  unfold assignmentOutbox
  split
  · exact nofun
  · rw [forall_mem_append, forall_mem_map, forall_mem_map]
    exact ⟨fun _ _ => rfl, fun _ _ => rfl⟩

/-! ## Records -/

theorem createEntity_confined {input : CreateEntityInput} :
    (createEntity rules tenantId input supply).Keeps (Confined tenantId) := by
  have state : (requestedState tenantId input).Keeps (Confined tenantId) := by
    unfold requestedState
    split
    · trivial
    · refine .bind (.read _) fun _ => .bind (.read _) fun _ => ?_
      split
      · trivial
      · exact .bind (.require ..) fun _ => .bind (.read _) fun _ => .bind (.require ..) fun _ => trivial
  refine .reading fun view => lift_keeps fun fields _ => .bind state fun current => ?_
  refine .bind (instancesOwned.insertOne rfl) fun _ => ?_
  refine .bind rescheduleDueDate_confined fun _ => .bind (.read _) fun _ => .bind ?_ fun _ =>
    .bind (insertOutbox_confined creationOutbox_own) fun _ => trivial
  unfold logCreation
  split
  · trivial
  · exact insertWorkflowEvent_confined rfl

theorem bulkCreateEntities_confined {inputs : List CreateEntityInput} :
    (bulkCreateEntities rules tenantId inputs supply).Keeps (Confined tenantId) := by
  have schedule (rows : List (EntityInstance × Nat)) :
      (scheduleDueDates tenantId supply rows).Keeps (Confined tenantId) := by
    induction rows with
    | nil => trivial
    | cons head rest ih => exact .bind rescheduleDueDate_confined fun _ => ih
  refine .reading fun view => lift_keeps fun (rows, errors) built => ?_
  have own := (bulkCreateRows_ok built).2
  refine .bind (instancesOwned.insert fun r mem => (own r mem).1) fun _ => .bind (.read _) fun _ => ?_
  refine .bind (insertOutbox_confined fun out mem => ?_) fun _ => .bind (schedule _) fun _ => trivial
  obtain ⟨_, -, mem⟩ := mem_flatMap.mp mem
  exact creationOutbox_own out mem

theorem logUpdate_confined {changed : Fields} :
    (logUpdate tenantId existing row changed input supply).Keeps (Confined tenantId) := by
  unfold logUpdate insertUpdateEvent insertEntityUpdated
  refine .bind (.read _) fun _ => ?_
  split
  · trivial
  · refine .bind ?_ fun _ => ?_
    · split
      · trivial
      · exact insertWorkflowEvent_confined rfl
    · split
      · trivial
      · exact outboxOwned.insertOne rfl

theorem writeEdit_confined {isChildTicket : Bool} {fields : Option Fields} :
    (writeEdit rules tenantId existing input isChildTicket fields supply).Keeps
      (Confined tenantId) := by
  refine lift_keeps fun _ _ => .bind ?_ fun _ => ?_
  · unfold checkEditState
    split
    · trivial
    · exact checkStateWrite_keeps
  · exact .bind (instancesOwned.update isOf_own fun _ => rfl) fun _ =>
      .bind (insertOutbox_confined assignmentOutbox_own) fun _ =>
        .bind rescheduleDueDate_confined fun _ => trivial

theorem updateEntity_confined :
    (updateEntity rules tenantId instanceId input supply).Keeps (Confined tenantId) := by
  refine .bind (.read _) fun _ => .bind (.getOr ..) fun existing => ?_
  split
  · exact .bind (.read _) fun _ => .reading fun _ => lift_keeps fun _ _ => .bind (.read _) fun _ =>
      .bind writeEdit_confined fun _ => .bind logUpdate_confined fun _ => trivial
  · split
    · exact .bind (.read _) fun _ => .bind writeEdit_confined fun _ =>
        .bind logUpdate_confined fun _ => trivial
    · trivial

theorem setEntityState_confined {state : String} :
    (setEntityState tenantId instanceId state actorId supply).Keeps (Confined tenantId) := by
  refine .bind (.read _) fun _ => .bind (.getOr ..) fun _ => .bind (.read _) fun _ =>
    .bind checkStateWrite_keeps fun _ => .bind (instancesOwned.update isOf_own fun _ => rfl) fun _ =>
      .bind ?_ fun _ => trivial
  unfold logDirectSet
  split
  · trivial
  · exact .bind (insertWorkflowEvent_confined rfl) fun _ =>
      outboxOwned.insertOne rfl

theorem bulkSetState_confined {items : List BulkItem} :
    (bulkSetState tenantId items actorId supply).Keeps (Confined tenantId) := by
  have write (ctx : BulkContext) (buckets : List (String × List Id)) :
      (bulkWrite tenantId ctx supply.now buckets).Keeps (Confined tenantId) := by
    induction buckets with
    | nil => trivial
    | cons bucket rest ih =>
      have own : ∀ r, EntityInstance.inBucket tenantId bucket.2 r = true → r.tenantId = tenantId :=
        fun _ selects => eq_of_beq (and_eq_true_iff.mp selects).2
      exact .bind (instancesOwned.update own fun _ => rfl) fun _ => .bind (.read _) fun _ =>
        .bind ih fun _ => trivial
  refine .bind (.bind (.read _) fun _ => .bind (.read _) fun _ => .bind (.read _) fun _ =>
    .bind (.read _) fun _ => trivial) fun ctx => .bind (write ctx _) fun (_, moves) => ?_
  refine .bind (eventsOwned.insert ?_) fun _ => .bind (insertOutbox_confined ?_) fun _ => trivial
  · exact forall_mem_map.mpr fun _ _ => rfl
  · exact forall_mem_map.mpr fun _ _ => rfl

/-! ## Transitions and notes -/

theorem commitStateChange_confined {instance_ : LockedInstance} {change : StateChange}
    {supply : Supply} :
    (commitStateChange tenantId instance_ change supply).Keeps (Confined tenantId) := by
  have pending : ∀ r, OutboxEvent.pendingTimer tenantId instance_.row.id instance_.row.currentState r
      = true → r.tenantId = tenantId := fun _ selects =>
    eq_of_beq (and_eq_true_iff.mp (and_eq_true_iff.mp selects).1).1
  refine .bind (instancesOwned.update isOf_own fun _ => rfl) fun _ =>
    .bind (safeMetadata_keeps ..) fun _ => .bind (insertWorkflowEvent_confined rfl) fun _ =>
      .bind (outboxOwned.insertOne rfl) fun _ =>
        .bind (outboxOwned.update pending fun _ => rfl) fun _ =>
          .bind (.bind (.read _) fun state => insertOutbox_confined ?_) fun _ => trivial
  unfold slaTimer
  split
  · exact nofun
  · split
    · exact nofun
    · exact nofun
    · exact fun _ mem => mem_singleton.mp mem ▸ rfl

theorem lockInstance_keeps : (lockInstance tenantId instanceId).Keeps A :=
  .bind (.reads (.readLocked _ _ _)) fun _ => .bind (.getOr ..) fun _ => .getOr ..

theorem executeTransition_confined {request : TransitionRequest} {supply : Supply} :
    (executeTransition tenantId request supply).Keeps (Confined tenantId) := by
  refine .bind ?_ fun replay => ?_
  · unfold findReplay
    split
    · trivial
    · exact .read _
  · cases replay with
    | some existing => trivial
    | none =>
      exact .bind lockInstance_keeps fun _ => .bind (findTransition_keeps ..) fun _ =>
        .bind (checkTransition_keeps ..) fun _ => commitStateChange_confined

theorem overrideWorkflowState_confined {request : StateOverrideRequest} {supply : Supply} :
    (overrideWorkflowState tenantId request supply).Keeps (Confined tenantId) := by
  unfold overrideWorkflowState
  refine .bind (.getOr ..) fun _ => ?_
  -- the bounds on the length of the reason are not to be unrolled
  generalize textLength _ = length
  refine .bind ?_ fun _ => .bind lockInstance_keeps fun _ => .bind (.read _) fun _ => ?_
  · exact .require _ _
  · exact .bind (.getOr ..) fun _ => .bind (.require ..) fun _ => .bind (.require ..) fun _ =>
      .bind (.read _) fun _ => .bind (.require ..) fun _ => .bind (.require ..) fun _ =>
        commitStateChange_confined

theorem insertNote_confined {ctx : WorkflowContext} {note : Note} {createdAt : Time} {eventId : Id} :
    (insertNote tenantId instanceId ctx note createdAt eventId).Keeps (Confined tenantId) :=
  .bind (.read _) fun _ => .bind (.require ..) fun _ => insertWorkflowEvent_confined rfl

/-! ## Child tickets -/

theorem createChildRelation_confined {input : CreateChildRelationInput} :
    (createChildRelation rules tenantId input supply).Keeps (Confined tenantId) :=
  .reading fun _ => lift_keeps fun _ _ => lift_keeps fun _ _ =>
    .bind (.reads (lockRecord_readOnly _ _)) fun _ => lift_keeps fun _ _ =>
      .bind (.reads (checkNewChild_readOnly _ _ _)) fun _ =>
        .bind (instancesOwned.insertOne rfl) fun _ =>
          .bind (insertWorkflowEvent_confined rfl) fun _ => .bind (.read _) fun _ =>
            .bind (insertOutbox_confined creationOutbox_own) fun _ =>
              .bind (insertRelations_confined _) fun _ => trivial

theorem moveChildRelation_confined {input : MoveChildRelationInput} :
    (moveChildRelation tenantId input supply bound).Keeps (Confined tenantId) := by
  refine .bind (.reads (lockRecord_readOnly _ _)) fun _ =>
    .bind (.bind relations_confined fun _ => .bind (.read _) fun link => ?_) fun _ => ?_
  · split
    · trivial
    · exact relations_confined
  · split
    · exact .bind (instancesOwned.update isOf_own fun _ => rfl) fun _ => trivial
    · exact .bind (.reads (checkMove_readOnly _ _ _ _)) fun _ =>
        .bind (insertRelations_confined _) fun _ => trivial

/-! ## Archives -/

theorem markTree_confined {rootId : Id} {ids : List Id} {before after : Option Time} :
    (markTree tenantId rootId ids before after).Keeps (Confined tenantId) :=
  .bind (instancesOwned.update (fun _ selects =>
      eq_of_beq (and_eq_true_iff.mp (and_eq_true_iff.mp selects).1).1) fun _ => rfl) fun _ =>
    .bind relations_confined fun _ => relations_confined

theorem archiveEntity_confined {confirm : Bool} :
    (archiveEntity tenantId instanceId confirm supply bound).Keeps (Confined tenantId) := by
  refine .bind (.read _) fun _ => .bind (.getOr ..) fun _ =>
    .bind (.reads (collectDescendants_readOnly _ _ _ _)) fun ids => ?_
  split
  · trivial
  · refine .bind markTree_confined fun _ => .bind (outboxOwned.update ?_ fun _ => rfl) fun _ => trivial
    intro r selects
    obtain ⟨id, -, pending⟩ := any_eq_true.mp selects
    exact pendingDueDate_own r pending

theorem restoreEntity_confined :
    (restoreEntity tenantId instanceId bound).Keeps (Confined tenantId) := by
  -- the first query that binds the time fails
  have batch (archiveTs : Time) :
      (collectBatchDescendants tenantId archiveTs bound instanceId).Keeps (Confined tenantId) := by
    cases bound <;> trivial
  exact .bind (.read _) fun _ => .bind (.getOr ..) fun _ => .bind (.getOr ..) fun _ =>
    .bind (batch _) fun _ => trivial

theorem deleteEntity_confined {rules : EditRules} :
    (deleteEntity rules tenantId instanceId supply).Keeps (Confined tenantId) := by
  have live : ∀ r, EntityInstance.isLive tenantId instanceId r = true → r.tenantId = tenantId :=
    fun r selects => isOf_own r (and_eq_true_iff.mp selects).1
  refine .bind (.read _) fun _ => .bind (.getOr ..) fun _ =>
    .bind (instancesOwned.update live fun _ => rfl) fun _ =>
      .bind ?_ fun _ => .reading fun _ => lift_keeps fun _ _ => trivial
  unfold cancelDueDate
  split
  · exact rescheduleDueDate_confined
  · trivial

end Operations

/-! ## Any operations at once -/

/-- The operations that write records, with what they return left out. -/
inductive TenantCall (tenantId : Id) : Tx Unit → Prop
  | createEntity {rules input supply} :
    TenantCall tenantId (discard (createEntity rules tenantId input supply))
  | bulkCreateEntities {rules inputs supply} :
    TenantCall tenantId (discard (bulkCreateEntities rules tenantId inputs supply))
  | updateEntity {rules instanceId input supply} :
    TenantCall tenantId (discard (updateEntity rules tenantId instanceId input supply))
  | setEntityState {instanceId state actorId supply} :
    TenantCall tenantId (discard (setEntityState tenantId instanceId state actorId supply))
  | bulkSetState {items actorId supply} :
    TenantCall tenantId (discard (bulkSetState tenantId items actorId supply))
  | executeTransition {request supply} :
    TenantCall tenantId (discard (executeTransition tenantId request supply))
  | overrideWorkflowState {request supply} :
    TenantCall tenantId (discard (overrideWorkflowState tenantId request supply))
  | insertNote {instanceId ctx note createdAt eventId} :
    TenantCall tenantId (insertNote tenantId instanceId ctx note createdAt eventId)
  | createChildRelation {rules input supply} :
    TenantCall tenantId (discard (createChildRelation rules tenantId input supply))
  | moveChildRelation {input supply bound} :
    TenantCall tenantId (discard (moveChildRelation tenantId input supply bound))
  | archiveEntity {instanceId confirm supply bound} :
    TenantCall tenantId (discard (archiveEntity tenantId instanceId confirm supply bound))
  | restoreEntity {instanceId bound} :
    TenantCall tenantId (discard (restoreEntity tenantId instanceId bound))
  | deleteEntity {rules instanceId supply} :
    TenantCall tenantId (deleteEntity rules tenantId instanceId supply)

theorem TenantCall.keeps {tenantId : Id} {program : Tx Unit} (call : TenantCall tenantId program) :
    program.Keeps (Confined tenantId) := by
  have discarded {α : Type} {p : Tx α} (keeps : p.Keeps (Confined tenantId)) :
      (discard p).Keeps (Confined tenantId) := .bind keeps fun _ => trivial
  cases call with
  | createEntity => exact discarded createEntity_confined
  | bulkCreateEntities => exact discarded bulkCreateEntities_confined
  | updateEntity => exact discarded updateEntity_confined
  | setEntityState => exact discarded setEntityState_confined
  | bulkSetState => exact discarded bulkSetState_confined
  | executeTransition => exact discarded executeTransition_confined
  | overrideWorkflowState => exact discarded overrideWorkflowState_confined
  | insertNote => exact insertNote_confined
  | createChildRelation => exact discarded createChildRelation_confined
  | moveChildRelation => exact discarded moveChildRelation_confined
  | archiveEntity => exact discarded archiveEntity_confined
  | restoreEntity => exact discarded restoreEntity_confined
  | deleteEntity => exact deleteEntity_confined

structure TenantOp where
  tenantId : Id
  program : Tx Unit
  call : TenantCall tenantId program

/-- A commit leaves the rows of the other tenants. -/
def tenantContract : Contract TenantOp Db TxError Unit where
  failed _ _ _ := True
  returned op _ before after _ :=
    ∀ tenantId, tenantId ≠ op.tenantId → after.rowsOf tenantId = before.rowsOf tenantId

/-- Whatever runs beside each other, in every state that is reached the finished transactions
follow one another, and none has changed a row of another tenant than its own. -/
theorem tenant_isolation (db : Db) (labels : List (Txn.Label TenantOp)) :
    Runs.Always (Pool.next TenantOp.program) (fun pool => Linked db pool.log pool.db ∧
      ∀ f ∈ pool.log, ∀ tenantId, tenantId ≠ f.call.tenantId →
        f.after.rowsOf tenantId = f.before.rowsOf tenantId) (Pool.init db) labels := by
  let anything : Rely Db LockKey := .steady (fun _ _ => True) (fun _ => trivial) fun _ _ => trivial
  have safe (op : TenantOp) (start : Db) : Safe anything (fun _ => True) (fun _ => True)
      (tenantContract.Commits anything (fun _ => True) op start) op.program [] id start := by
    refine Safe.quiet (fun _ => trivial) op.call.keeps (fun _ _ _ => rfl) ?_
    intro _ _ patch later _ confined _ _
    exact ⟨trivial, fun _ _ => trivial, confined later⟩
  refine Runs.Always.of_invariant (I := Pool.Sound tenantContract anything (fun _ => True) db)
    (fun sound stepped => sound.next (fun op start _ => safe op start) stepped)
    (fun sound => ⟨sound.linked, fun f mem tenantId ne => ?_⟩) (.initial trivial)
  obtain ⟨-, met⟩ := sound.met f mem
  split at met
  · rw [met.2]
  · exact met tenantId ne

end OpenWind
