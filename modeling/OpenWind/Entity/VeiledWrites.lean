import OpenWind.Entity.VeiledRecords

/-!
# Writes of records that differ in sensitive values

The engine's writes run in lockstep on two stores that differ in sensitive values, and log and
announce the same.
-/

open Option

namespace OpenWind

open Txn Veil Txn.Lockstep EntityInstance Veiled

/-! ## The engine's writes -/

section Engine

variable {fieldRows : List EntityField} {supplied : List (Id × String)} {tenantId : Id}

theorem Veiled.insertWorkflowEvent (event : WorkflowEvent) :
    Tx.Veiled fieldRows supplied Eq (insertWorkflowEvent event) (insertWorkflowEvent event) := by
  unfold OpenWind.insertWorkflowEvent
  cases event.idempotencyKey with
  | none => exact workflowEvents.insert _ _
  | some key => exact workflowEvents.insertUnique _ _ _ _

theorem Veiled.rescheduleDueDate {row : EntityInstance} {oldDueDate newDueDate : Option Time}
    {supply : EntitySupply} {rowId : Id} :
    Tx.Veiled fieldRows supplied Eq
      (rescheduleDueDate tenantId row oldDueDate newDueDate supply rowId)
      (rescheduleDueDate tenantId row oldDueDate newDueDate supply rowId) := by
  unfold OpenWind.rescheduleDueDate
  split
  · exact ret rfl
  · apply bind_eq (outboxEvents.update _ _)
    intro _
    cases newDueDate with
    | none => exact ret rfl
    | some dueDate => exact outboxEvents.insert _ _

theorem Veiled.requestedState {input : CreateEntityInput} :
    Tx.Veiled fieldRows supplied Eq (requestedState tenantId input)
      (requestedState tenantId input) := by
  unfold OpenWind.requestedState creationState
  cases input.workflowId with
  | none => exact ret rfl
  | some workflowId =>
    apply bind_eq (Veiled.read fun _ _ => rfl)
    intro validStates
    apply bind_eq (Veiled.read fun _ _ => rfl)
    intro start
    split
    · exact ret rfl
    · apply bind_eq (require rfl)
      intro _
      apply bind_eq (Veiled.read fun _ _ => rfl)
      intro locked
      apply bind_eq (require rfl)
      intro _
      exact ret rfl

theorem Veiled.logCreation {input : CreateEntityInput} {row : EntityInstance} {redacted : Fields}
    {supply : EntitySupply} :
    Tx.Veiled fieldRows supplied Eq (logCreation input row redacted supply)
      (logCreation input row redacted supply) := by
  unfold OpenWind.logCreation
  cases input.workflowId with
  | none => exact ret rfl
  | some workflowId => exact Veiled.insertWorkflowEvent _

variable {rules : FieldRules} {input : UpdateEntityInput} {supply : EntitySupply} {db db' : Db}
  {e : TxError} {existing row : EntityInstance} {request : TransitionRequest}
  {transition : WorkflowTransition} {now : Time} {instanceId : Id} {provided : Fields}

theorem createEntity_refused {input : CreateEntityInput}
    (refused : db.checkCreate rules tenantId input input.severity supply.now = .error e) :
    (OpenWind.createEntity rules tenantId input supply).exec db = .error e := by
  unfold OpenWind.createEntity
  rw [Prog.bind_eq, Prog.exec_bind, Prog.exec_read, refused]
  rfl

theorem Veiled.createEntity {rules : FieldRules} {input : CreateEntityInput} {values' : Fields}
    {supply : EntitySupply} {db db' : Db} {fields fields' : Fields}
    (veiled : Veiled fieldRows supplied db db')
    (accepted : db.checkCreate rules tenantId input input.severity supply.now = .ok fields)
    (accepted' : db'.checkCreate rules tenantId { input with fields := values' } input.severity
      supply.now = .ok fields')
    (alike : Alike (fun key => (supply.id 0, key) ∈ supplied) fields fields')
    (shown : Alike (· ∈ sensitiveNames (fieldsOfType fieldRows tenantId input.entityTypeId)) fields
      fields') :
    Paired (OpenWind.Veiled fieldRows supplied)
      (fun row row' => row.id = supply.id 0 ∧ row'.id = supply.id 0 ∧ row.fields = fields ∧
        row'.fields = fields')
      ((createEntity rules tenantId input supply).exec db)
      ((createEntity rules tenantId { input with fields := values' } supply).exec db') := by
  have redacted := redactMetadata_alike shown
  unfold OpenWind.createEntity
  refine Paired.after (by rw [Prog.exec_read, accepted]) (by rw [Prog.exec_read, accepted']) ?_
  refine Paired.after rfl rfl ?_
  apply bind_eq Veiled.requestedState _ db db' veiled
  intro currentState
  apply bind_eq (insertRecord ⟨_, rfl, alike⟩ _)
  intro _
  apply bind_eq Veiled.rescheduleDueDate
  intro _
  apply Lockstep.bind (Veiled.loadEntityFields _ _)
  intro allFields allFields' typed
  obtain ⟨rfl, rfl⟩ := typed
  rw [redacted]
  apply bind_eq Veiled.logCreation
  intro _
  apply bind_eq (outboxEvents.insert _ _)
  intro _
  exact ret ⟨rfl, rfl, rfl, rfl⟩

/-! ### Moving a record -/

theorem EntityInstance.locked_none (detached : row.workflowId = none) : row.locked = none := by
  cases found : row.locked with
  | none => rfl
  | some locked =>
    cases locked_eq_some.mp found
    cases detached.symm.trans locked.attached

theorem Veiled.lockInstance {instanceId : Id} :
    Tx.Veiled fieldRows supplied
      (fun (locked locked' : LockedInstance) => locked.row.Veiled supplied locked'.row ∧
        locked.workflowId = locked'.workflowId)
      (lockInstance tenantId instanceId) (lockInstance tenantId instanceId) := by
  unfold OpenWind.lockInstance
  apply Lockstep.bind (Q := Option.Rel (EntityInstance.Veiled supplied))
  · exact readLocked fun db db' veiled => veiled.find fun row fields => rfl
  intro row row' found
  cases found with
  | none => exact fail _ _
  | some veiled =>
    apply Lockstep.bind (ret veiled)
    intro row row' veiled
    obtain ⟨fields, rfl, alike⟩ := veiled
    rcases eq_none_or_eq_some row.workflowId with detached | ⟨workflowId, attached⟩
    · have locked : EntityInstance.locked { row with fields := fields } = none :=
        locked_none detached
      rw [locked_none detached, locked]
      exact fail _ _
    · have locked : row.locked = some ⟨row, workflowId, attached⟩ :=
        locked_eq_some.mpr rfl
      have locked' : EntityInstance.locked { row with fields := fields } =
          some ⟨{ row with fields := fields }, workflowId, attached⟩ :=
        locked_eq_some.mpr rfl
      rw [locked, locked']
      exact ret ⟨⟨fields, rfl, alike⟩, rfl⟩

/-- The verdict of the two guards that look at the record's values, on the transition that the
request names. -/
def Db.transitionVerdict (db : Db) (tenantId : Id) (request : TransitionRequest) :
    Option (Bool × Bool) := do
  let row ← db.entityInstances.find? (EntityInstance.isOf tenantId request.instanceId)
  let workflowId ← row.workflowId
  let transition ← db.workflowTransitions.find?
    (WorkflowTransition.isOf tenantId workflowId request.transitionId)
  return (evaluateConditionTree transition.conditions row.fields
      (db.actorContext tenantId row.id row.createdBy request.actorId [transition.conditions]),
    (missingFields transition.requiresFields row.fields).isEmpty)

theorem Veiled.safeMetadata {entityTypeId : Id} {metadata metadata' : Fields}
    (alike : Alike (· ∈ sensitiveNames (fieldsOfType fieldRows tenantId entityTypeId)) metadata
      metadata') :
    Tx.Veiled fieldRows supplied Eq (safeMetadata tenantId entityTypeId metadata)
      (safeMetadata tenantId entityTypeId metadata') := by
  have redacted := redactMetadata_alike alike
  unfold OpenWind.safeMetadata
  cases alike with
  | nil => exact ret rfl
  | cons same rest =>
    apply Lockstep.bind (Veiled.loadEntityFields _ _)
    intro fields fields' typed
    obtain ⟨rfl, rfl⟩ := typed
    exact ret redacted

theorem Veiled.commitStateChange {instance_ instance_' : LockedInstance} {change : StateChange}
    {metadata' : Option Fields} {supply : Supply}
    (row : instance_.row.Veiled supplied instance_'.row)
    (workflow : instance_.workflowId = instance_'.workflowId)
    (metadata : Alike (· ∈ sensitiveNames (fieldsOfType fieldRows tenantId
      instance_.row.entityTypeId)) (change.metadata.getD []) (metadata'.getD [])) :
    Tx.Veiled fieldRows supplied (fun _ _ => True)
      (commitStateChange tenantId instance_ change supply)
      (commitStateChange tenantId instance_' { change with metadata := metadata' } supply) := by
  obtain ⟨row, workflowId, attached⟩ := instance_
  obtain ⟨row', workflowId', attached'⟩ := instance_'
  dsimp only at row workflow metadata
  subst workflow
  obtain ⟨fields, rfl, alike⟩ := row
  unfold OpenWind.commitStateChange
  apply bind_eq
  · apply updateRecords
    · exact fun _ _ => rfl
    · intro row row' _ veiled
      obtain ⟨fields, rfl, alike⟩ := veiled
      exact ⟨fields, rfl, alike⟩
  intro _
  apply bind_eq (Veiled.safeMetadata metadata)
  intro stored
  apply bind_eq (Veiled.insertWorkflowEvent _)
  intro _
  apply bind_eq (outboxEvents.insert _ _)
  intro _
  apply bind_eq (outboxEvents.update _ _)
  intro _
  apply bind_eq
  · unfold scheduleSlaIfNeeded
    apply bind_eq (workflowStates.find _)
    intro state
    exact outboxEvents.insert _ _
  intro _
  exact ret trivial

theorem Veiled.findTransition {request : TransitionRequest} {instance_ : LockedInstance} :
    Tx.Veiled fieldRows supplied Eq (findTransition tenantId request instance_)
      (findTransition tenantId request instance_) := by
  unfold OpenWind.findTransition
  apply bind_eq (workflows.find _)
  intro workflow
  apply bind_eq (getOr _ _ _)
  intro _
  apply bind_eq (workflowTransitions.find _)
  intro transition
  exact getOr _ _ _

theorem Db.transitionVerdict_eq {workflowId : Id}
    (found : db.entityInstances.find? (isOf tenantId request.instanceId) = some row)
    (attached : row.workflowId = some workflowId) (named : db.workflowTransitions.find?
      (WorkflowTransition.isOf tenantId workflowId request.transitionId) = some transition) :
    db.transitionVerdict tenantId request = some
      (evaluateConditionTree transition.conditions row.fields
        (db.actorContext tenantId row.id row.createdBy request.actorId [transition.conditions]),
      (missingFields transition.requiresFields row.fields).isEmpty) := by
  unfold Db.transitionVerdict
  rw [found, bind_eq_bind, bind_some, attached, bind_eq_bind, bind_some, named]
  rfl

/-- The guards of two requests, when those that read values decide the same. -/
theorem checkTransition_lockstep {metadata' : Option Fields} {locked locked' : LockedInstance}
    (conditions : evaluateConditionTree transition.conditions locked.row.fields
        (db.actorContext tenantId locked.row.id locked.row.createdBy request.actorId
          [transition.conditions]) =
      evaluateConditionTree transition.conditions locked'.row.fields
        (db'.actorContext tenantId locked'.row.id locked'.row.createdBy request.actorId
          [transition.conditions]))
    (required : (missingFields transition.requiresFields locked.row.fields).isEmpty =
      (missingFields transition.requiresFields locked'.row.fields).isEmpty) :
    Paired (fun s s' => db = s ∧ db' = s') Eq
      ((checkTransition tenantId request locked transition).exec db)
      ((checkTransition tenantId { request with metadata := metadata' } locked' transition).exec
        db') := by
  refine bind_eq (R := fun s s' => db = s ∧ db' = s') ?_ ?_ db db' ⟨rfl, rfl⟩
  · exact require rfl
  intro _
  apply Lockstep.bind (Q := fun actor actor' =>
    actor = db.actorContext tenantId locked.row.id locked.row.createdBy request.actorId
      [transition.conditions] ∧
    actor' = db'.actorContext tenantId locked'.row.id locked'.row.createdBy request.actorId
      [transition.conditions])
  · intro s s' stores
    obtain ⟨rfl, rfl⟩ := stores
    rw [exec_loadActorContext, exec_loadActorContext]
    exact .returned ⟨rfl, rfl⟩ ⟨rfl, rfl⟩
  intro actor actor' read
  obtain ⟨rfl, rfl⟩ := read
  apply bind_eq (require conditions)
  intro _
  apply bind_eq (require required)
  intro _
  exact require rfl

theorem Veiled.executeTransition {request : TransitionRequest} {metadata' : Option Fields}
    {supply : Supply} {db db' : Db} (veiled : Veiled fieldRows supplied db db')
    (metadata : ∀ row, db.entityInstances.find? (isOf tenantId request.instanceId) =
      some row → Alike (· ∈ sensitiveNames (fieldsOfType fieldRows tenantId row.entityTypeId))
        (request.metadata.getD []) (metadata'.getD []))
    (verdict : db.transitionVerdict tenantId request = db'.transitionVerdict tenantId request) :
    Paired (OpenWind.Veiled fieldRows supplied) (fun _ _ => True)
      ((executeTransition tenantId request supply).exec db)
      ((executeTransition tenantId { request with metadata := metadata' } supply).exec db') := by
  have read : db'.workflowEvents = db.workflowEvents := by
    obtain ⟨-, rows, rfl, -⟩ := veiled
    rfl
  have named : db'.workflowTransitions = db.workflowTransitions := by
    obtain ⟨-, rows, rfl, -⟩ := veiled
    rfl
  unfold OpenWind.executeTransition
  have replay : (findReplay tenantId { request with metadata := metadata' }).exec db' = .ok
      (request.key.bind fun key => db.workflowEvents.find?
        (WorkflowEvent.keyed tenantId request.instanceId key), db') := by
    rw [exec_findReplay, read]
    rfl
  refine Paired.after (exec_findReplay _ _ _) replay ?_
  cases request.key.bind fun key => db.workflowEvents.find?
      (WorkflowEvent.keyed tenantId request.instanceId key) with
  | some event => exact .returned trivial veiled
  | none =>
    apply Paired.bind (R := fun s s' => db = s ∧ db' = s')
      (Q := fun locked locked' =>
        db.entityInstances.find? (isOf tenantId request.instanceId) = some locked.row ∧
        db'.entityInstances.find? (isOf tenantId request.instanceId) = some locked'.row ∧
        locked.row.Veiled supplied locked'.row ∧ locked.workflowId = locked'.workflowId)
    · refine (Veiled.lockInstance db db' veiled).sharpen fun _ _ _ _ ran ran' rows _ => ?_
      obtain ⟨found, rfl⟩ := exec_lockInstance_ok.mp ran
      obtain ⟨found', rfl⟩ := exec_lockInstance_ok.mp ran'
      exact ⟨⟨found, found', rows⟩, rfl, rfl⟩
    intro locked locked' _ _ rows stores
    obtain ⟨rfl, rfl⟩ := stores
    obtain ⟨row, workflowId, attached⟩ := locked
    obtain ⟨row', workflowId', attached'⟩ := locked'
    obtain ⟨found, found', ⟨fields, rfl, alike⟩, same⟩ := rows
    dsimp only at found found' alike same
    subst same
    apply Paired.bind (R := fun s s' => db = s ∧ db' = s')
      (Q := fun transition transition' => transition' = transition ∧
        db.workflowTransitions.find? (WorkflowTransition.isOf tenantId workflowId
          request.transitionId) = some transition)
    · have both : Paired (OpenWind.Veiled fieldRows supplied) Eq
          ((OpenWind.findTransition tenantId request ⟨row, workflowId, attached⟩).exec db)
          ((OpenWind.findTransition tenantId request ⟨row, workflowId, attached⟩).exec db') :=
        Veiled.findTransition db db' veiled
      refine Paired.sharpen both fun _ _ _ _ ran ran' same _ => ?_
      obtain ⟨⟨-, found, -⟩, rfl⟩ := exec_findTransition_ok.mp ran
      obtain ⟨-, rfl⟩ := exec_findTransition_ok.mp ran'
      exact ⟨⟨same.symm, found⟩, rfl, rfl⟩
    intro transition transition' _ _ chosen stores
    obtain ⟨rfl, rfl⟩ := stores
    obtain ⟨rfl, chosen⟩ := chosen
    rw [Db.transitionVerdict_eq found attached chosen,
      Db.transitionVerdict_eq found' attached' (named ▸ chosen)] at verdict
    obtain ⟨conditions, required⟩ := Prod.mk.inj (Option.some.inj verdict)
    apply Paired.bind (checkTransition_lockstep conditions required)
    intro _ _ _ _ _ stores
    obtain ⟨rfl, rfl⟩ := stores
    apply Veiled.commitStateChange _ _ _ db db' veiled
    · exact ⟨fields, rfl, alike⟩
    · rfl
    · exact metadata row found

/-! ### Editing a record -/

theorem Veiled.assertDirectStateWriteAllowed {instanceId : Id} {workflowId : Option Id}
    {currentState target : String} {child : Bool} :
    Tx.Veiled fieldRows supplied Eq
      (assertDirectStateWriteAllowed tenantId instanceId workflowId currentState target child)
      (assertDirectStateWriteAllowed tenantId instanceId workflowId currentState target child) := by
  unfold OpenWind.assertDirectStateWriteAllowed
  cases workflowId with
  | none => exact ret rfl
  | some workflowId =>
    dsimp only
    split
    · exact ret rfl
    · apply bind_eq (Veiled.read fun _ _ => rfl)
      intro refused
      exact require rfl

theorem Veiled.checkStateWrite {field : String} {instanceId : Id} {workflowId : Option Id}
    {currentState target : String} {child : Bool} :
    Tx.Veiled fieldRows supplied Eq
      (checkStateWrite field tenantId instanceId workflowId currentState target child)
      (checkStateWrite field tenantId instanceId workflowId currentState target child) := by
  unfold OpenWind.checkStateWrite
  cases child with
  | true =>
    apply bind_eq (require rfl)
    intro _
    exact Veiled.assertDirectStateWriteAllowed
  | false =>
    cases workflowId with
    | none => exact ret rfl
    | some workflowId =>
      apply bind_eq Veiled.assertDirectStateWriteAllowed
      intro _
      apply bind_eq (Veiled.read fun _ _ => rfl)
      intro validStates
      exact require rfl

theorem Veiled.checkEditState {existing : EntityInstance} {requested : Option String}
    {child : Bool} :
    Tx.Veiled fieldRows supplied Eq (checkEditState tenantId existing requested child)
      (checkEditState tenantId existing requested child) := by
  cases requested with
  | none => exact ret rfl
  | some state => exact Veiled.checkStateWrite

theorem Veiled.writeEdit {rules : FieldRules} {existing existing' : EntityInstance}
    {input : UpdateEntityInput} {values' : Option Fields} {child : Bool}
    {fields fields' : Option Fields} {supply : EntitySupply}
    (same : existing.Veiled supplied existing')
    (checked : checkEdit rules existing (input.apply fields supply.now existing) input supply.now =
      .ok ())
    (checked' : checkEdit rules existing'
      (UpdateEntityInput.apply { input with fields := values' } fields' supply.now existing')
      { input with fields := values' } supply.now = .ok ())
    (applied : ∀ row row', row.id = existing.id → row.Veiled supplied row' →
      (input.apply fields supply.now row).Veiled supplied (input.apply fields' supply.now row')) :
    Tx.Veiled fieldRows supplied
      (fun row row' => row = input.apply fields supply.now existing ∧
        row' = input.apply fields' supply.now existing')
      (writeEdit rules tenantId existing input child fields supply)
      (writeEdit rules tenantId existing' { input with fields := values' } child fields'
        supply) := by
  have written := applied existing existing' rfl same
  obtain ⟨stored', rfl, alike⟩ := same
  unfold OpenWind.writeEdit
  apply bind_eq
  · rw [checked, checked']
    exact ret rfl
  intro _
  apply bind_eq Veiled.checkEditState
  intro _
  apply bind_eq
  · apply updateRecords
    · exact fun _ _ => rfl
    · intro row row' selected veiled
      exact applied row row' (eq_of_beq (Bool.and_eq_true_iff.mp selected).1) veiled
  intro _
  apply bind_eq (outboxEvents.insert _ _)
  intro _
  apply bind_eq Veiled.rescheduleDueDate
  intro _
  exact ret ⟨rfl, rfl⟩

theorem Veiled.effectiveWorkflowId {db db' : Db} {row : EntityInstance} {fields : Fields}
    (veiled : Veiled fieldRows supplied db db') :
    db.effectiveWorkflowId tenantId row =
      db'.effectiveWorkflowId tenantId { row with fields := fields } := by
  have parent : ∀ id, (db.entityInstances.find? (isOf tenantId id)).bind
      (·.workflowId) = (db'.entityInstances.find? (isOf tenantId id)).bind (·.workflowId) := by
    intro id
    have rows := veiled.find (p := isOf tenantId id) fun _ _ => rfl
    generalize db.entityInstances.find? (isOf tenantId id) = found at rows ⊢
    generalize db'.entityInstances.find? (isOf tenantId id) = found' at rows ⊢
    cases rows with
    | none => rfl
    | some same =>
      obtain ⟨_, rfl, -⟩ := same
      rfl
  have relations : ∀ id, db.parentId tenantId id = db'.parentId tenantId id := by
    obtain ⟨-, rows, rfl, -⟩ := veiled
    exact fun _ => rfl
  unfold Db.effectiveWorkflowId
  dsimp only
  rw [relations row.id]
  cases row.workflowId with
  | some workflowId => rfl
  | none =>
    cases db'.parentId tenantId row.id with
    | none => rfl
    | some parentId => exact parent parentId

theorem Veiled.logUpdate {existing row row' : EntityInstance}
    {stored' fields' changed changed' : Fields} {input : UpdateEntityInput}
    {values' : Option Fields} {supply : EntitySupply} (after : row' = { row with fields := fields' })
    (same : changed' = changed) :
    Tx.Veiled fieldRows supplied Eq (logUpdate tenantId existing row changed input supply)
      (logUpdate tenantId { existing with fields := stored' } row' changed'
        { input with fields := values' } supply) := by
  rw [after, same]
  unfold OpenWind.logUpdate
  apply bind_eq
  · exact Lockstep.read fun db db' veiled => veiled.effectiveWorkflowId
  intro workflowId
  cases workflowId with
  | none => exact ret rfl
  | some workflowId =>
    apply bind_eq
    · unfold insertUpdateEvent
      split
      next unchanged =>
        rw [if_pos (by exact unchanged)]
        exact ret rfl
      next changed =>
        rw [if_neg (by exact changed)]
        exact Veiled.insertWorkflowEvent _
    intro _
    unfold insertEntityUpdated
    split
    next unchanged =>
      rw [if_pos (by exact unchanged)]
      exact ret rfl
    next changed =>
      rw [if_neg (by exact changed)]
      exact outboxEvents.insert _ _

/-- The checks of an edit on the record that it finds; the result is the fields to store. -/
def Db.checkUpdate (db : Db) (rules : FieldRules) (tenantId : Id) (existing : EntityInstance)
    (input : UpdateEntityInput) (now : Time) : Except TxError (Option Fields) := do
  match input.fields with
  | none =>
    checkEdit rules existing (input.apply none now existing) input now
    return none
  | some provided =>
    let fields ← rules.update db tenantId existing (db.parentId tenantId existing.id).isSome provided
    checkEdit rules existing (input.apply (some fields) now existing) input now
    return some fields

theorem reportMissing_error {enforce : Bool} {missing : List FieldError}
    (refused : reportMissing enforce missing = .error e) : e.isValidation := by
  unfold reportMissing at refused
  split at refused
  · cases refused
  · cases refused
    rfl

theorem validateDueDateEdit_error {dueDate now : Time}
    (refused : validateDueDateEdit dueDate existing now = .error e) : e.isValidation := by
  unfold validateDueDateEdit validateDueDateOnCreate at refused
  split at refused
  · cases refused
    rfl
  · split at refused
    · cases refused
    · split at refused
      · cases refused
        rfl
      · cases refused

theorem checkEdit_error (refused : checkEdit rules existing row input now = .error e) :
    e.isValidation := by
  have dated : ∀ (dueDate : Time) (rest : Except TxError Unit),
      (rest = .error e → e.isValidation = true) →
        (validateDueDateEdit dueDate existing now >>= fun _ => rest) = .error e →
          e.isValidation = true := by
    intro dueDate rest later refused
    cases due : validateDueDateEdit dueDate existing now with
    | error e' =>
      rw [due] at refused
      cases refused
      exact validateDueDateEdit_error due
    | ok _ =>
      rw [due] at refused
      exact later refused
  unfold checkEdit at refused
  split at refused
  · dsimp only at refused
    split at refused
    · exact reportMissing_error refused
    · exact dated _ _ reportMissing_error refused
  · dsimp only at refused
    split at refused
    · cases refused
    · exact dated _ _ (fun absent => by cases absent) refused

abbrev UpdateEntityInput.fill (input : UpdateEntityInput) (provided : Fields) : UpdateEntityInput :=
  { input with fields := some provided }

abbrev UpdateEntityInput.bare (input : UpdateEntityInput) : UpdateEntityInput :=
  { input with fields := none }

theorem updateEntity_missing
    (missing : db.entityInstances.find? (isLive tenantId instanceId) = none) :
    (updateEntity rules tenantId instanceId input supply).exec db =
      .error (.entity .entityNotFound [("instanceId", .id instanceId)]) := by
  unfold updateEntity
  rw [Prog.bind_eq, Prog.exec_bind, Table.exec_find, Tables.entityInstances_rows, missing]
  rfl

theorem updateEntity_refused
    (found : db.entityInstances.find? (isLive tenantId instanceId) = some existing)
    (refused : rules.update db tenantId existing (db.parentId tenantId instanceId).isSome provided =
      .error e) :
    (updateEntity rules tenantId instanceId (input.fill provided) supply).exec db =
      .error e := by
  unfold updateEntity
  rw [Prog.bind_eq, Prog.exec_bind, Table.exec_find, Tables.entityInstances_rows, found]
  change Prog.exec (Prog.bind (Tx.lift (rules.update db tenantId existing
    (db.parentId tenantId instanceId).isSome provided)) _) db = _
  rw [refused]
  rfl

/-- Two edits of the fields of a record. -/
theorem Veiled.editFields {stored' provided provided' fields fields' : Fields}
    (veiled : Veiled fieldRows supplied db db')
    (found : db.entityInstances.find? (isLive tenantId instanceId) = some existing)
    (found' : db'.entityInstances.find? (isLive tenantId instanceId) =
      some { existing with fields := stored' })
    (stored : Alike (fun key => (existing.id, key) ∈ supplied) existing.fields stored')
    (accepted : rules.update db tenantId existing (db.parentId tenantId instanceId).isSome provided =
      .ok fields) (accepted' : rules.update db' tenantId { existing with fields := stored' }
      (db'.parentId tenantId instanceId).isSome provided' = .ok fields')
    (checked : checkEdit rules existing
      ((input.fill provided).apply (some fields) supply.now
        existing) (input.fill provided) supply.now = .ok ())
    (checked' : checkEdit rules { existing with fields := stored' }
      ((input.fill provided').apply (some fields') supply.now { existing with fields := stored' })
      (input.fill provided') supply.now = .ok ())
    (alike : Alike (fun key => (existing.id, key) ∈ supplied) fields fields')
    (known : ∀ key, (existing.id, key) ∈ supplied →
      key ∈ sensitiveNames (fieldsOfType fieldRows tenantId existing.entityTypeId))
    (together : sensitiveChanges (sensitiveNames (fieldsOfType fieldRows tenantId
        existing.entityTypeId)) existing.fields fields =
      sensitiveChanges (sensitiveNames (fieldsOfType fieldRows tenantId existing.entityTypeId))
        stored' fields') :
    Paired (OpenWind.Veiled fieldRows supplied)
      (fun row row' => row.fields = fields ∧ row'.fields = fields')
      ((updateEntity rules tenantId instanceId (input.fill provided) supply).exec db)
      ((updateEntity rules tenantId instanceId (input.fill provided') supply).exec
        db') := by
  have changed := changedFields_alike (stored.mono known) (alike.mono known) together
  have child : (db.parentId tenantId instanceId).isSome =
      (db'.parentId tenantId instanceId).isSome := by
    obtain ⟨-, rows, rfl, -⟩ := veiled
    rfl
  unfold OpenWind.updateEntity
  refine Paired.after (by rw [Table.exec_find, Tables.entityInstances_rows, found])
    (by rw [Table.exec_find, Tables.entityInstances_rows, found']) ?_
  refine Paired.after (Prog.exec_ret _ _) (Prog.exec_ret _ _) ?_
  dsimp only
  refine Paired.after (Prog.exec_read _ _) (Prog.exec_read _ _) ?_
  refine Paired.after (by rw [Prog.exec_read, accepted]) (by rw [Prog.exec_read, accepted']) ?_
  rw [← child]
  refine Paired.after rfl rfl ?_
  apply Lockstep.bind (Veiled.loadEntityFields _ _) _ db db' veiled
  intro allFields allFields' typed
  obtain ⟨rfl, rfl⟩ := typed
  have written : ∀ row row', row.id = existing.id → row.Veiled supplied row' →
      ((input.fill provided).apply (some fields) supply.now
        row).Veiled supplied ((input.fill provided).apply
          (some fields') supply.now row') := by
    intro row row' same veiled
    obtain ⟨_, rfl, -⟩ := veiled
    refine ⟨fields', rfl, ?_⟩
    change Alike (fun key => (row.id, key) ∈ supplied) fields fields'
    rw [same]
    exact alike
  apply Lockstep.bind (Veiled.writeEdit ⟨stored', rfl, stored⟩ checked checked' written)
  intro row row' rows
  obtain ⟨rfl, rfl⟩ := rows
  apply bind_eq
  · exact Veiled.logUpdate rfl changed.symm
  intro _
  exact ret ⟨rfl, rfl⟩

/-- Two edits of a record that leave its fields alone. -/
theorem Veiled.editRow (veiled : Veiled fieldRows supplied db db')
    (checked : ∀ row ∈ db.entityInstances.find? (isLive tenantId instanceId),
      checkEdit rules row (input.bare.apply none supply.now row) input.bare supply.now = .ok ())
    (checked' : ∀ row ∈ db'.entityInstances.find? (isLive tenantId instanceId),
      checkEdit rules row (input.bare.apply none supply.now row) input.bare supply.now = .ok ()) :
    Paired (OpenWind.Veiled fieldRows supplied) (fun _ _ => True)
      ((updateEntity rules tenantId instanceId input.bare supply).exec db)
      ((updateEntity rules tenantId instanceId input.bare supply).exec db') := by
  unfold OpenWind.updateEntity
  refine Paired.after (Table.exec_find _ _ _) (Table.exec_find _ _ _) ?_
  rw [Tables.entityInstances_rows, Tables.entityInstances_rows]
  have rows := veiled.find (p := isLive tenantId instanceId) fun _ _ => rfl
  generalize db.entityInstances.find? (isLive tenantId instanceId) = found at *
  generalize db'.entityInstances.find? (isLive tenantId instanceId) = found' at *
  cases rows with
  | none => exact .failed
  | @some existing existing' same =>
    have accepted := checked existing rfl
    have accepted' := checked' existing' rfl
    have written : ∀ row row' : EntityInstance, row.id = existing.id → row.Veiled supplied row' →
        (input.bare.apply none supply.now row).Veiled supplied
          (input.bare.apply none supply.now row') := by
      intro row row' _ veiled
      obtain ⟨fields, rfl, alike⟩ := veiled
      exact ⟨fields, rfl, alike⟩
    refine Paired.after (Prog.exec_ret _ _) (Prog.exec_ret _ _) ?_
    dsimp only
    split
    · apply bind_eq (Veiled.read fun _ _ => rfl) _ db db' veiled
      intro parent
      apply Lockstep.bind (Veiled.writeEdit same accepted accepted' written)
      intro row row' rows
      obtain ⟨rfl, rfl⟩ := rows
      obtain ⟨stored', rfl, -⟩ := same
      apply bind_eq (Veiled.logUpdate rfl rfl)
      intro _
      exact ret trivial
    · exact ret trivial db db' veiled

end Engine

end OpenWind
