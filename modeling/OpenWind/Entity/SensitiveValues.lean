import OpenWind.Entity.VeiledWrites
import OpenWind.Entity.SchemaCache

/-!
# Sensitive values and what is derived from records

The values of `pii` and `financial` fields are redacted before they go to the event log, to the
outbox and to the snapshots of the audit log.  Which keys that are, is read from the fields that
the type has at the time.
-/

open List Option

namespace OpenWind

open Txn Veil

/-! ## The fields of a type -/

structure RecordEnv where
  zod : Zod
  entityTypes : List EntityType
  crossFieldValidators : String → Fields → SchemaMode → List FieldError
  evaluateFormula : String → Fields → Option Json
  assertTeamInTenant : Id → Id → Except TxError Unit
  enforceMandatory : Bool

namespace RecordEnv

variable (env : RecordEnv)

def loadEntityType (tenantId entityTypeId : Id) : Except TxError EntityType :=
  match env.entityTypes.find? (EntityType.isOf tenantId entityTypeId) with
  | some entityType => .ok entityType
  | none => .error (.entity .entityTypeNotFound [("entityTypeId", .id entityTypeId)])

def fieldEnv : FieldEnv where
  zod := env.zod
  loadEntityType _ tenantId entityTypeId := (env.loadEntityType tenantId entityTypeId).map (·.name)
  crossFieldValidators := env.crossFieldValidators
  evaluateFormula := env.evaluateFormula
  assertTeamInTenant _ := env.assertTeamInTenant
  enforceMandatory := env.enforceMandatory

def rules : FieldRules := env.fieldEnv.rules

theorem fieldEnv_outside : env.fieldEnv.Outside :=
  ⟨fun _ _ => rfl, fun _ _ => rfl⟩

def addEntityField (tenantId entityTypeId : Id) (field : EntityField) : Tx EntityField := do
  Prog.require (!isReservedFieldName field.name) (.validation [⟨"name", "RESERVED_FIELD",
    "Field name '" ++ field.name ++ "' is reserved for internal engine use"⟩])
  let entityType ← Tx.lift (env.loadEntityType tenantId entityTypeId)
  Tx.requireE (entityType.allowCustomFields || entityType.tenantId.isNone) .customFieldsNotAllowed
    [("entityTypeId", .id entityTypeId)]
  let row := { field with entityTypeId, tenantId := some tenantId }
  Tables.entityFields.insertUnique []
    (fun f => f.entityTypeId == entityTypeId && f.name == field.name)
    (.unique "entity_fields_entity_type_id_name_unique") row
  return row

end RecordEnv

def deleteEntityField (tenantId entityTypeId fieldId : Id) : Tx Unit := do
  let existing ← Tables.entityFields.find fun f => f.id == fieldId && f.isOf tenantId entityTypeId
  let existing ← Prog.getOr existing (.entity .fieldNotFound [("fieldId", .id fieldId)])
  Tx.requireE (!existing.isSystem) .systemFieldImmutable [("fieldId", .id fieldId)]
  Tables.entityFields.delete (FieldChange.names ⟨tenantId, entityTypeId, .delete fieldId⟩ fieldId)

/-! ## The audit log -/

inductive EntityAuditAction
  | created | updated
  deriving DecidableEq

structure EntityAuditEntry where
  tenantId : Id
  actorId : String
  resourceType : String
  resourceId : Id
  action : EntityAuditAction
  beforeSnapshot : Option Fields
  afterSnapshot : Option Fields

def EntityAuditEntry.write (entry : EntityAuditEntry) (entityFields : List EntityField) :
    EntityAuditEntry :=
  let sensitivityMap := buildSensitivityMap entityFields
  { entry with
    beforeSnapshot := entry.beforeSnapshot.map (redactMetadata · sensitivityMap)
    afterSnapshot := entry.afterSnapshot.map (redactMetadata · sensitivityMap) }

def suppliedNames (fields : List EntityField) (provided : Fields) : List String :=
  (sensitiveNames fields).filter fun name =>
    (provided.get name).isSome || fields.any fun f => f.fieldType == .formula && f.name == name

structure AuditedDb where
  db : Db
  auditLog : List EntityAuditEntry := []
  supplied : List (Id × String) := []

/-- The keys of the record that a call supplied. -/
def suppliedKeys (id : Id) (fields : List EntityField) (provided : Fields) : List (Id × String) :=
  (suppliedNames fields provided).map fun name => (id, name)

/-! ## Calls -/

inductive FieldCall
  | createEntity (tenantId : Id) (input : CreateEntityInput) (supply : EntitySupply)
  | updateEntity (tenantId instanceId : Id) (input : UpdateEntityInput) (supply : EntitySupply)
  | executeTransition (tenantId : Id) (request : TransitionRequest) (supply : Supply)
  | addEntityField (tenantId entityTypeId : Id) (field : EntityField)
  | deleteEntityField (tenantId entityTypeId fieldId : Id)

namespace AuditedDb

variable (env : RecordEnv) (w : AuditedDb)

def entityTypeName (tenantId entityTypeId : Id) : Option String :=
  (env.loadEntityType tenantId entityTypeId).toOption.map (·.name)

/-- The state once a record was created. -/
def created (tenantId : Id) (input : CreateEntityInput) (row : EntityInstance) (db : Db) :
    AuditedDb :=
  let allFields := w.db.fieldsOf tenantId input.entityTypeId
  { db
    auditLog := w.auditLog ++ ((entityTypeName env tenantId input.entityTypeId).toList.map
      fun name => EntityAuditEntry.write {
        tenantId
        actorId := (input.actorId.or input.createdBy).getD "system"
        resourceType := name
        resourceId := row.id
        action := .created
        beforeSnapshot := none
        afterSnapshot := some row.fields } allFields)
    supplied := w.supplied ++ suppliedKeys row.id allFields input.fields }

def editedKeys (tenantId : Id) (existing : EntityInstance) (provided : Fields) :
    List (Id × String) :=
  w.supplied ++ suppliedKeys existing.id (w.db.fieldsOf tenantId existing.entityTypeId) provided

/-- The state once the fields of a record were edited. -/
def edited (tenantId : Id) (existing : EntityInstance) (provided : Fields)
    (actorId : Option String) (row : EntityInstance) (db : Db) : AuditedDb :=
  let allFields := w.db.fieldsOf tenantId existing.entityTypeId
  { db
    auditLog := w.auditLog ++ ((entityTypeName env tenantId existing.entityTypeId).toList.map
      fun name => EntityAuditEntry.write {
        tenantId
        actorId := actorId.getD "system"
        resourceType := name
        resourceId := existing.id
        action := .updated
        beforeSnapshot := some existing.fields
        afterSnapshot := some row.fields } allFields)
    supplied := w.editedKeys tenantId existing provided }

def live (tenantId instanceId : Id) : Option EntityInstance :=
  w.db.entityInstances.find? (EntityInstance.isLive tenantId instanceId)

/-- The state after a call; one that fails leaves it alone. -/
def commit : FieldCall → AuditedDb
  | .createEntity tenantId input supply =>
    match (OpenWind.createEntity env.rules tenantId input supply).exec w.db with
    | .ok (row, db) => w.created env tenantId input row db
    | .error _ => w
  | .updateEntity tenantId instanceId input supply =>
    match (OpenWind.updateEntity env.rules tenantId instanceId input supply).exec w.db with
    | .ok (row, db) =>
      match w.live tenantId instanceId, input.fields with
      | some existing, some provided => w.edited env tenantId existing provided input.actorId row db
      | _, _ => { w with db }
    | .error _ => w
  | .executeTransition tenantId request supply =>
    { w with db := (OpenWind.executeTransition tenantId request supply).commit w.db }
  | .addEntityField tenantId entityTypeId field =>
    { w with db := (env.addEntityField tenantId entityTypeId field).commit w.db }
  | .deleteEntityField tenantId entityTypeId fieldId =>
    { w with db := (OpenWind.deleteEntityField tenantId entityTypeId fieldId).commit w.db }

def sensitiveOf (tenantId : Id) (row : Option EntityInstance) : List String :=
  match row with
  | some row => sensitiveNames (w.db.fieldsOf tenantId row.entityTypeId)
  | none => []

end AuditedDb

/-! ## Two runs -/

def TxError.notValidation {α : Type} : Except TxError α → Bool
  | .error e => !e.isValidation
  | .ok _ => true

namespace FieldCall

/-- The call is not refused by a check of the values. -/
def accepted (env : RecordEnv) (w : AuditedDb) : FieldCall → Bool
  | createEntity tenantId input supply =>
    TxError.notValidation (w.db.checkCreate env.rules tenantId input input.severity supply.now)
  | updateEntity tenantId instanceId input supply =>
    (w.live tenantId instanceId).all fun existing =>
      TxError.notValidation (w.db.checkUpdate env.rules tenantId existing input supply.now)
  | _ => true

def changes (env : RecordEnv) (w : AuditedDb) : FieldCall → List (String × Bool)
  | updateEntity tenantId instanceId input supply =>
    match w.live tenantId instanceId with
    | some existing =>
      match w.db.checkUpdate env.rules tenantId existing input supply.now with
      | .ok (some fields) =>
        sensitiveChanges (w.sensitiveOf tenantId (some existing)) existing.fields fields
      | _ => []
    | none => []
  | _ => []

inductive Like (w : AuditedDb) : FieldCall → FieldCall → Prop
  | createEntity {tenantId : Id} {input : CreateEntityInput} {supply : EntitySupply}
    {fields' : Fields}
    (fields : Alike (· ∈ sensitiveNames (w.db.fieldsOf tenantId input.entityTypeId)) input.fields
      fields') :
    Like w (.createEntity tenantId input supply)
      (.createEntity tenantId { input with fields := fields' } supply)
  | updateEntity {tenantId instanceId : Id} {input : UpdateEntityInput} {supply : EntitySupply}
    {fields fields' : Option Fields}
    (values : Option.Rel (Alike (· ∈ w.sensitiveOf tenantId (w.live tenantId instanceId))) fields
      fields') :
    Like w (.updateEntity tenantId instanceId { input with fields := fields } supply)
      (.updateEntity tenantId instanceId { input with fields := fields' } supply)
  | executeTransition {tenantId : Id} {request : TransitionRequest} {supply : Supply}
    {metadata metadata' : Option Fields}
    (values : Option.Rel (Alike (· ∈ w.sensitiveOf tenantId (w.db.entityInstances.find?
      (EntityInstance.isOf tenantId request.instanceId)))) metadata metadata') :
    Like w (.executeTransition tenantId { request with metadata := metadata } supply)
      (.executeTransition tenantId { request with metadata := metadata' } supply)
  | addEntityField {tenantId entityTypeId : Id} {field : EntityField} :
    Like w (.addEntityField tenantId entityTypeId field)
      (.addEntityField tenantId entityTypeId field)
  | deleteEntityField {tenantId entityTypeId fieldId : Id} :
    Like w (.deleteEntityField tenantId entityTypeId fieldId)
      (.deleteEntityField tenantId entityTypeId fieldId)

theorem Like.refl (w : AuditedDb) (call : FieldCall) : call.Like w call := by
  have same : ∀ (names : List String) (values : Option Fields),
      Option.Rel (Alike (· ∈ names)) values values := by
    intro names values
    cases values with
    | none => exact .none
    | some values => exact .some (.refl _ _)
  cases call with
  | createEntity tenantId input supply =>
    exact @Like.createEntity w tenantId input supply input.fields (.refl _ _)
  | updateEntity tenantId instanceId input supply =>
    exact @Like.updateEntity w tenantId instanceId input supply input.fields input.fields (same _ _)
  | executeTransition tenantId request supply =>
    exact @Like.executeTransition w tenantId request supply request.metadata request.metadata
      (same _ _)
  | addEntityField tenantId entityTypeId field => exact .addEntityField
  | deleteEntityField tenantId entityTypeId fieldId => exact .deleteEntityField

end FieldCall

namespace RecordEnv

variable (env : RecordEnv)

structure Like (both : AuditedDb × AuditedDb) (calls : FieldCall × FieldCall) : Prop where
  like : calls.1.Like both.1 calls.2
  accepted : calls.1.accepted env both.1 = true
  accepted' : calls.2.accepted env both.2 = true
  together : calls.1.changes env both.1 = calls.2.changes env both.2

def Conceals (both : AuditedDb × AuditedDb) (calls : FieldCall × FieldCall) : Prop :=
  match calls.1 with
  | .createEntity tenantId input _ =>
    FormulasBlind env.evaluateFormula (both.1.db.fieldsOf tenantId input.entityTypeId)
      (· ∈ sensitiveNames (both.1.db.fieldsOf tenantId input.entityTypeId))
  | .updateEntity tenantId instanceId input _ =>
    input.fields.isSome = true → ∀ existing, both.1.live tenantId instanceId = some existing →
      FormulasBlind env.evaluateFormula (both.1.db.fieldsOf tenantId existing.entityTypeId)
        (· ∈ both.1.sensitiveOf tenantId (some existing)) ∧
      ∀ key, (existing.id, key) ∈ both.1.supplied →
        key ∈ both.1.sensitiveOf tenantId (some existing)
  | .executeTransition tenantId request _ =>
    both.1.db.transitionVerdict tenantId request = both.2.db.transitionVerdict tenantId request
  | .addEntityField .. => True
  | .deleteEntityField .. => True

/-- One call of each run. -/
def stepBoth (both : AuditedDb × AuditedDb) (calls : FieldCall × FieldCall) :
    Option (AuditedDb × AuditedDb) :=
  some (both.1.commit env calls.1, both.2.commit env calls.2)

end RecordEnv

structure AuditedDb.TellsAlike (w w' : AuditedDb) : Prop where
  metadata : w.db.workflowEvents.map (·.metadata) = w'.db.workflowEvents.map (·.metadata)
  payloads : w.db.outboxEvents.map (·.payload) = w'.db.outboxEvents.map (·.payload)
  snapshots : w.auditLog.map (fun entry => (entry.beforeSnapshot, entry.afterSnapshot)) =
    w'.auditLog.map fun entry => (entry.beforeSnapshot, entry.afterSnapshot)

/-! ## The invariant of two runs -/

structure AuditedDb.Veiled (w w' : AuditedDb) : Prop where
  stores : OpenWind.Veiled w.db.entityFields w.supplied w.db w'.db
  supplied : w'.supplied = w.supplied
  auditLog : w'.auditLog = w.auditLog

variable {w w' : AuditedDb} {α : Type}

theorem AuditedDb.Veiled.tellsAlike (veiled : w.Veiled w') : w.TellsAlike w' := by
  obtain ⟨⟨-, rows, same, -⟩, -, audited⟩ := veiled
  constructor
  · rw [same]
  · rw [same]
  · rw [audited]

theorem AuditedDb.Veiled.refl {w : AuditedDb} : w.Veiled w :=
  ⟨.refl _ _, rfl, rfl⟩

theorem AuditedDb.Veiled.committed {Q : α → α → Prop} {p p' : Tx α} (veiled : w.Veiled w')
    (both : Paired (fun s s' => OpenWind.Veiled s.entityFields w.supplied s s') Q (p.exec w.db)
      (p'.exec w'.db)) :
    AuditedDb.Veiled { w with db := p.commit w.db } { w' with db := p'.commit w'.db } := by
  refine ⟨?_, veiled.supplied, veiled.auditLog⟩
  have stores := veiled.stores
  unfold Tx.commit
  generalize p.exec w.db = outcome at both
  generalize p'.exec w'.db = outcome' at both
  cases both with
  | failed => exact stores
  | returned values stores => exact stores

theorem Veiled.paired {Q : α → α → Prop} {fieldRows : List EntityField}
    {supplied : List (Id × String)} {outcome outcome' : Except TxError (α × Db)}
    (both : Paired (Veiled fieldRows supplied) Q outcome outcome') :
    Paired (fun s s' => Veiled s.entityFields supplied s s') Q outcome outcome' :=
  both.sharpen fun _ _ _ _ _ _ values stores => ⟨values, rfl, stores.2⟩

/-! ### Changes of the fields -/

section FieldChanges

variable {supplied : List (Id × String)} {tenantId entityTypeId : Id}

theorem Veiled.fieldTable :
    Shared (fun s s' => Veiled s.entityFields supplied s s') Tables.entityFields := by
  constructor
  · intro db db' veiled
    obtain ⟨-, rows, rfl, -⟩ := veiled
    rfl
  · intro db db' fields veiled
    obtain ⟨-, rows, rfl, each⟩ := veiled
    exact ⟨rfl, rows, rfl, each⟩

theorem Veiled.addEntityField {env : RecordEnv} {field : EntityField} :
    Lockstep (fun s s' => Veiled s.entityFields supplied s s') Eq
      (env.addEntityField tenantId entityTypeId field)
      (env.addEntityField tenantId entityTypeId field) := by
  unfold RecordEnv.addEntityField
  apply Lockstep.bind_eq (Lockstep.require rfl)
  intro _
  apply Lockstep.bind_eq
  · cases env.loadEntityType tenantId entityTypeId with
    | error e => exact Lockstep.fail e e
    | ok entityType => exact Lockstep.ret rfl
  intro entityType
  apply Lockstep.bind_eq (Lockstep.require rfl)
  intro _
  apply Lockstep.bind_eq (Veiled.fieldTable.insertUnique _ _ _ _)
  intro _
  exact Lockstep.ret rfl

theorem Veiled.deleteEntityField {fieldId : Id} :
    Lockstep (fun s s' => Veiled s.entityFields supplied s s') Eq
      (deleteEntityField tenantId entityTypeId fieldId)
      (deleteEntityField tenantId entityTypeId fieldId) := by
  unfold OpenWind.deleteEntityField
  apply Lockstep.bind_eq (Veiled.fieldTable.find _)
  intro existing
  apply Lockstep.bind_eq (Lockstep.getOr _ _ _)
  intro existing
  apply Lockstep.bind_eq (Lockstep.require rfl)
  intro _
  exact Veiled.fieldTable.delete _

end FieldChanges

/-! ### Supplied keys -/

section Supplied

variable {fields : List EntityField} {provided provided' : Fields}

theorem suppliedNames_sensitive {name : String} (mem : name ∈ suppliedNames fields provided) :
    name ∈ sensitiveNames fields :=
  (mem_filter.mp mem).1

theorem mem_suppliedKeys {id : Id} {name : String} :
    (id, name) ∈ suppliedKeys id fields provided ↔ name ∈ suppliedNames fields provided := by
  unfold suppliedKeys
  rw [List.mem_map]
  constructor
  · intro listed
    obtain ⟨_, mem, same⟩ := listed
    cases same
    exact mem
  · intro mem
    exact ⟨name, mem, rfl⟩

theorem suppliedNames_veil (alike : Alike (· ∈ sensitiveNames fields) provided provided') :
    Alike (· ∈ suppliedNames fields provided) provided provided' := by
  apply alike.of_mem
  intro entry mem sensitive
  apply mem_filter.mpr
  refine ⟨sensitive, ?_⟩
  have given : (provided.get entry.1).isSome := by
    rw [isSome_iff_ne_none]
    intro absent
    have other := lookup_eq_none_iff.mp absent entry mem
    rw [bne_self_eq_false] at other
    cases other
  rw [given]
  rfl

theorem suppliedNames_alike {hidden : String → Prop} (alike : Alike hidden provided provided') :
    suppliedNames fields provided = suppliedNames fields provided' := by
  unfold suppliedNames
  refine List.filter_congr fun name _ => ?_
  have given : (provided.get name).isSome = (provided'.get name).isSome := alike.isSome name
  rw [given]

theorem suppliedNames_computed {field : EntityField} (mem : field ∈ fields)
    (formula : field.fieldType = .formula) (sensitive : field.name ∈ sensitiveNames fields) :
    field.name ∈ suppliedNames fields provided := by
  apply mem_filter.mpr
  refine ⟨sensitive, Bool.or_eq_true_iff.mpr (.inr (List.any_eq_true.mpr ⟨field, mem, ?_⟩))⟩
  rw [formula, beq_self_eq_true, beq_self_eq_true]
  rfl

end Supplied

/-! ### Calls keep the two runs alike -/

theorem notValidation_iff {result : Except TxError α} :
    TxError.notValidation result ↔ ∀ e, result = .error e → ¬ e.isValidation := by
  cases result with
  | ok a => simp [TxError.notValidation]
  | error e => simp [TxError.notValidation]

section Calls

variable {env : RecordEnv} {w w' : AuditedDb} {tenantId : Id}

variable {input : UpdateEntityInput} {supply : EntitySupply} {instanceId : Id}
  {existing : EntityInstance}

theorem AuditedDb.Veiled.create (veiled : w.Veiled w') {input : CreateEntityInput}
    {fields' : Fields}
    (like : Alike (· ∈ sensitiveNames (w.db.fieldsOf tenantId input.entityTypeId)) input.fields
      fields') (accepted : FieldCall.accepted env w (.createEntity tenantId input supply))
    (accepted' : FieldCall.accepted env w'
      (.createEntity tenantId { input with fields := fields' } supply))
    (blind : FormulasBlind env.evaluateFormula (w.db.fieldsOf tenantId input.entityTypeId)
      (· ∈ sensitiveNames (w.db.fieldsOf tenantId input.entityTypeId))) :
    (w.commit env (.createEntity tenantId input supply)).Veiled
      (w'.commit env (.createEntity tenantId { input with fields := fields' } supply)) := by
  have values := suppliedNames_veil like
  have names : suppliedNames (w.db.fieldsOf tenantId input.entityTypeId) input.fields =
      suppliedNames (w.db.fieldsOf tenantId input.entityTypeId) fields' := suppliedNames_alike like
  have types : w'.db.fieldsOf = w.db.fieldsOf := by
    obtain ⟨-, rows, same, -⟩ := veiled.stores
    rw [same]
    rfl
  have checked := env.fieldEnv.checkCreate_alike env.fieldEnv_outside input.severity supply.now
    veiled.stores values blind (fun _ => suppliedNames_sensitive)
    fun field mem => suppliedNames_computed mem
  unfold AuditedDb.commit
  dsimp only
  rcases checked.unexcused (notValidation_iff.mp accepted) (notValidation_iff.mp accepted') with
    ⟨e, e', refused, refused'⟩ | ⟨fields, made', taken, taken', alike⟩
  · have failed : (createEntity env.rules tenantId input supply).exec w.db = .error e :=
      createEntity_refused refused
    have failed' : (createEntity env.rules tenantId { input with fields := fields' } supply).exec
        w'.db = .error e' := createEntity_refused refused'
    rw [failed, failed']
    exact veiled
  · have shown := alike.mono fun _ => suppliedNames_sensitive
    have redacted := redactMetadata_alike shown
    have stores : OpenWind.Veiled w.db.entityFields (w.supplied ++ suppliedKeys (supply.id 0)
        (w.db.fieldsOf tenantId input.entityTypeId) input.fields) w.db w'.db :=
      veiled.stores.mono fun _ mem => mem_append_left _ mem
    have both : Paired _ _ ((createEntity env.rules tenantId input supply).exec w.db)
        ((createEntity env.rules tenantId { input with fields := fields' } supply).exec w'.db) :=
      Veiled.createEntity stores taken taken'
        (alike.mono fun _ mem => mem_append_right _ (mem_suppliedKeys.mpr mem)) shown
    generalize (createEntity env.rules tenantId input supply).exec w.db = outcome at both
    generalize (createEntity env.rules tenantId { input with fields := fields' } supply).exec
      w'.db = outcome' at both
    cases both with
    | failed => exact veiled
    | @returned row row' db db' values stores =>
      obtain ⟨id, id', rfl, rfl⟩ := values
      dsimp only
      unfold AuditedDb.created
      dsimp only
      rw [types, id, id', veiled.supplied, veiled.auditLog]
      refine ⟨⟨rfl, stores.2⟩, ?_, ?_⟩
      · dsimp only
        unfold suppliedKeys
        rw [names]
      · dsimp only
        unfold EntityAuditEntry.write
        dsimp only [map_some]
        rw [redacted]

theorem AuditedDb.Veiled.live (veiled : w.Veiled w') (instanceId : Id) :
    (w.live tenantId instanceId = none ∧ w'.live tenantId instanceId = none) ∨
      ∃ existing stored', w.live tenantId instanceId = some existing ∧
        w'.live tenantId instanceId = some { existing with fields := stored' } ∧
        Alike (fun key => (existing.id, key) ∈ w.supplied) existing.fields stored' := by
  have rows := veiled.stores.find (p := EntityInstance.isLive tenantId instanceId) fun _ _ => rfl
  unfold AuditedDb.live
  generalize w.db.entityInstances.find? (EntityInstance.isLive tenantId instanceId) = found at rows ⊢
  generalize w'.db.entityInstances.find? (EntityInstance.isLive tenantId instanceId) = found'
    at rows ⊢
  cases rows with
  | none => exact .inl ⟨rfl, rfl⟩
  | @some existing _ same =>
    obtain ⟨stored', rfl, alike⟩ := same
    exact .inr ⟨existing, stored', rfl, rfl, alike⟩

theorem AuditedDb.commit_missing (absent : w.live tenantId instanceId = none) :
    w.commit env (.updateEntity tenantId instanceId input supply) = w := by
  have failed : (updateEntity env.rules tenantId instanceId input supply).exec w.db = _ :=
    updateEntity_missing absent
  unfold AuditedDb.commit
  dsimp only
  rw [failed]

theorem AuditedDb.commit_editRow (found : w.live tenantId instanceId = some existing) :
    w.commit env (.updateEntity tenantId instanceId input.bare supply) =
      { w with db := (updateEntity env.rules tenantId instanceId input.bare supply).commit w.db } := by
  unfold AuditedDb.commit Tx.commit
  dsimp only
  rw [found]
  cases (updateEntity env.rules tenantId instanceId input.bare supply).exec w.db
  · rfl
  · rfl

theorem checkEdit_of_accepted (found : w.live tenantId instanceId = some existing)
    (accepted : FieldCall.accepted env w (.updateEntity tenantId instanceId input.bare supply)) :
    checkEdit env.rules existing (input.bare.apply none supply.now existing) input.bare supply.now =
      .ok () := by
  unfold FieldCall.accepted at accepted
  dsimp only at accepted
  rw [found, all_some] at accepted
  cases checked : checkEdit env.rules existing (input.bare.apply none supply.now existing) input.bare
      supply.now with
  | ok _ => rfl
  | error e =>
    have refused : w.db.checkUpdate env.rules tenantId existing input.bare supply.now =
        .error e := by
      unfold Db.checkUpdate
      dsimp only
      rw [checked]
      rfl
    exact absurd (checkEdit_error checked) (notValidation_iff.mp accepted e refused)

theorem AuditedDb.Veiled.editRow (veiled : w.Veiled w') {instanceId : Id}
    {input : UpdateEntityInput} {supply : EntitySupply}
    (accepted : FieldCall.accepted env w (.updateEntity tenantId instanceId input.bare supply))
    (accepted' : FieldCall.accepted env w' (.updateEntity tenantId instanceId input.bare supply)) :
    (w.commit env (.updateEntity tenantId instanceId input.bare supply)).Veiled
      (w'.commit env (.updateEntity tenantId instanceId input.bare supply)) := by
  rcases veiled.live instanceId with ⟨absent, absent'⟩ | ⟨existing, stored', found, found', -⟩
  · rw [AuditedDb.commit_missing absent, AuditedDb.commit_missing absent']
    exact veiled
  · have both := veiled.committed (Veiled.paired (OpenWind.Veiled.editRow veiled.stores
      (fun row mem => by
        cases found.symm.trans mem
        exact checkEdit_of_accepted found accepted)
      fun row mem => by
        cases found'.symm.trans mem
        exact checkEdit_of_accepted found' accepted'))
    rw [AuditedDb.commit_editRow found, AuditedDb.commit_editRow found']
    exact both

theorem AuditedDb.live_id (found : w.live tenantId instanceId = some existing) :
    existing.id = instanceId := by
  unfold AuditedDb.live at found
  exact EntityInstance.id_of_isLive (find?_some found)

theorem updateFields_accepted {provided : Fields}
    (found : w.live tenantId instanceId = some existing)
    (accepted : FieldCall.accepted env w
      (.updateEntity tenantId instanceId (input.fill provided) supply)) :
    (∀ e, env.rules.update w.db tenantId existing (w.db.parentId tenantId instanceId).isSome
        provided = .error e → ¬ e.isValidation) ∧
      ∀ fields, env.rules.update w.db tenantId existing
          (w.db.parentId tenantId instanceId).isSome provided = .ok fields →
        checkEdit env.rules existing ((input.fill provided).apply (some fields) supply.now existing)
          (input.fill provided) supply.now = .ok () ∧
        FieldCall.changes env w (.updateEntity tenantId instanceId (input.fill provided) supply) =
          sensitiveChanges (sensitiveNames (w.db.fieldsOf tenantId existing.entityTypeId))
              existing.fields fields := by
  have own := AuditedDb.live_id found
  unfold FieldCall.accepted at accepted
  dsimp only at accepted
  rw [found, all_some] at accepted
  have unrefused := notValidation_iff.mp accepted
  unfold Db.checkUpdate at unrefused
  dsimp only at unrefused
  rw [own] at unrefused
  constructor
  · intro e refused
    apply unrefused e
    rw [refused]
    rfl
  · intro fields made
    rw [made] at unrefused
    have checked : checkEdit env.rules existing
        ((input.fill provided).apply (some fields) supply.now existing) (input.fill provided)
        supply.now = .ok () := by
      cases edit : checkEdit env.rules existing
          ((input.fill provided).apply (some fields) supply.now existing) (input.fill provided)
          supply.now with
      | ok _ => rfl
      | error e =>
        refine absurd (checkEdit_error edit) (unrefused e ?_)
        change (checkEdit env.rules existing _ _ supply.now >>= fun _ => _) = _
        rw [edit]
        rfl
    refine ⟨checked, ?_⟩
    have result : w.db.checkUpdate env.rules tenantId existing (input.fill provided) supply.now =
        .ok (some fields) := by
      unfold Db.checkUpdate
      dsimp only
      rw [own, made]
      change (checkEdit env.rules existing _ _ supply.now >>= fun _ => _) = _
      rw [checked]
      rfl
    unfold FieldCall.changes
    dsimp only
    rw [found]
    dsimp only
    rw [result]
    rfl

theorem AuditedDb.Veiled.editFields (veiled : w.Veiled w') {instanceId : Id}
    {input : UpdateEntityInput} {supply : EntitySupply} {provided provided' : Fields}
    (like : Alike (· ∈ w.sensitiveOf tenantId (w.live tenantId instanceId)) provided provided')
    (accepted : FieldCall.accepted env w
      (.updateEntity tenantId instanceId (input.fill provided) supply))
    (accepted' : FieldCall.accepted env w'
      (.updateEntity tenantId instanceId (input.fill provided') supply))
    (together : FieldCall.changes env w (.updateEntity tenantId instanceId (input.fill provided) supply) =
      FieldCall.changes env w' (.updateEntity tenantId instanceId (input.fill provided') supply))
    (conceals : ∀ existing, w.live tenantId instanceId = some existing →
      FormulasBlind env.evaluateFormula (w.db.fieldsOf tenantId existing.entityTypeId)
        (· ∈ w.sensitiveOf tenantId (some existing)) ∧
      ∀ key, (existing.id, key) ∈ w.supplied → key ∈ w.sensitiveOf tenantId (some existing)) :
    (w.commit env (.updateEntity tenantId instanceId (input.fill provided) supply)).Veiled
      (w'.commit env (.updateEntity tenantId instanceId (input.fill provided') supply)) := by
  rcases veiled.live instanceId with ⟨absent, absent'⟩ | ⟨existing, stored', found, found', alike⟩
  · rw [AuditedDb.commit_missing absent, AuditedDb.commit_missing absent']
    exact veiled
  obtain ⟨blind, known⟩ := conceals existing found
  rw [found] at like
  change Alike (· ∈ sensitiveNames (w.db.fieldsOf tenantId existing.entityTypeId)) provided
    provided' at like
  have own := AuditedDb.live_id found
  have types : w'.db.fieldsOf = w.db.fieldsOf := by
    obtain ⟨-, rows, same, -⟩ := veiled.stores
    rw [same]
    rfl
  have parents : w'.db.parentId = w.db.parentId := by
    obtain ⟨-, rows, same, -⟩ := veiled.stores
    rw [same]
    rfl
  have supplied := suppliedNames_veil like
  have names : suppliedNames (w.db.fieldsOf tenantId existing.entityTypeId) provided =
      suppliedNames (w.db.fieldsOf tenantId existing.entityTypeId) provided' :=
    suppliedNames_alike like
  have old : ∀ entry ∈ w.supplied, entry ∈ w.editedKeys tenantId existing provided :=
    fun _ mem => mem_append_left _ mem
  have new : ∀ key ∈ suppliedNames (w.db.fieldsOf tenantId existing.entityTypeId) provided,
      (existing.id, key) ∈ w.editedKeys tenantId existing provided :=
    fun _ mem => mem_append_right _ (mem_suppliedKeys.mpr mem)
  have still : ∀ key, (existing.id, key) ∈ w.editedKeys tenantId existing provided →
      key ∈ sensitiveNames (w.db.fieldsOf tenantId existing.entityTypeId) := by
    intro key mem
    rcases mem_append.mp mem with before | now
    · exact known key before
    · exact suppliedNames_sensitive (mem_suppliedKeys.mp now)
  have stores := veiled.stores.mono old
  have before := alike.mono fun key mem => old (existing.id, key) mem
  have checked : Checked (Alike fun key => (existing.id, key) ∈ w.editedKeys tenantId existing
      provided) (env.rules.update w.db tenantId existing
        (w.db.parentId tenantId instanceId).isSome provided) (env.rules.update w'.db tenantId
          { existing with fields := stored' } (w'.db.parentId tenantId instanceId).isSome
            provided') := by
    rw [parents]
    exact env.fieldEnv.updateFields_alike env.fieldEnv_outside stores before (supplied.mono new)
      blind still fun field mem formula sensitive =>
        new _ (suppliedNames_computed mem formula sensitive)
  obtain ⟨unrefused, done⟩ := updateFields_accepted found accepted
  obtain ⟨unrefused', done'⟩ := updateFields_accepted found' accepted'
  rcases checked.unexcused unrefused unrefused' with
    ⟨e, e', refused, refused'⟩ | ⟨fields, fields', made, made', after⟩
  · have failed : (updateEntity env.rules tenantId instanceId (input.fill provided) supply).exec
        w.db = .error e := updateEntity_refused found refused
    have failed' : (updateEntity env.rules tenantId instanceId (input.fill provided') supply).exec
        w'.db = .error e' := updateEntity_refused found' refused'
    unfold AuditedDb.commit
    dsimp only
    rw [failed, failed']
    exact veiled
  · obtain ⟨edit, changes⟩ := done fields made
    obtain ⟨edit', changes'⟩ := done' fields' made'
    rw [changes, changes', types] at together
    have both : Paired _ _
        ((updateEntity env.rules tenantId instanceId (input.fill provided) supply).exec w.db)
        ((updateEntity env.rules tenantId instanceId (input.fill provided') supply).exec w'.db) :=
      OpenWind.Veiled.editFields stores found found' before made made' edit edit' after still together
    have redacted := redactMetadata_alike (before.mono still)
    have redacted' := redactMetadata_alike (after.mono still)
    unfold AuditedDb.commit
    dsimp only
    rw [found, found']
    generalize (updateEntity env.rules tenantId instanceId (input.fill provided) supply).exec w.db =
      outcome at both ⊢
    generalize (updateEntity env.rules tenantId instanceId (input.fill provided') supply).exec
      w'.db = outcome' at both ⊢
    cases both with
    | failed => exact veiled
    | @returned row row' db db' values stores =>
      obtain ⟨rfl, rfl⟩ := values
      unfold AuditedDb.edited
      dsimp only
      rw [types, veiled.auditLog]
      refine ⟨⟨rfl, stores.2⟩, ?_, ?_⟩
      · unfold AuditedDb.editedKeys suppliedKeys
        dsimp only
        rw [types, veiled.supplied, names]
      · unfold EntityAuditEntry.write
        dsimp only [map_some]
        rw [redacted, redacted']

theorem AuditedDb.Veiled.transition (veiled : w.Veiled w') {request : TransitionRequest}
    {supply : Supply} {metadata metadata' : Option Fields}
    (like : Option.Rel (Alike (· ∈ w.sensitiveOf tenantId (w.db.entityInstances.find?
      (EntityInstance.isOf tenantId request.instanceId)))) metadata metadata')
    (verdict : w.db.transitionVerdict tenantId { request with metadata := metadata } =
      w'.db.transitionVerdict tenantId { request with metadata := metadata }) :
    (w.commit env (.executeTransition tenantId { request with metadata := metadata } supply)).Veiled
      (w'.commit env (.executeTransition tenantId { request with metadata := metadata' }
        supply)) := by
  have values : ∀ row, w.db.entityInstances.find? (EntityInstance.isOf tenantId
      request.instanceId) = some row → Alike (· ∈ sensitiveNames (fieldsOfType w.db.entityFields
        tenantId row.entityTypeId)) (metadata.getD []) (metadata'.getD []) := by
    intro row found
    rw [found] at like
    cases like with
    | none => exact .refl _ _
    | some alike => exact alike
  exact veiled.committed (Veiled.paired (OpenWind.Veiled.executeTransition veiled.stores values
    verdict))

theorem AuditedDb.Veiled.step (veiled : w.Veiled w') {call call' : FieldCall}
    (like : env.Like (w, w') (call, call')) (conceals : env.Conceals (w, w') (call, call')) :
    (w.commit env call).Veiled (w'.commit env call') := by
  obtain ⟨like, accepted, accepted', together⟩ := like
  dsimp only at like accepted accepted' together
  cases like with
  | createEntity fields => exact veiled.create fields accepted accepted' conceals
  | updateEntity values =>
    cases values with
    | none => exact veiled.editRow accepted accepted'
    | some alike => exact veiled.editFields alike accepted accepted' together (conceals rfl)
  | executeTransition values => exact veiled.transition values conceals
  | addEntityField =>
    exact veiled.committed (Veiled.addEntityField _ _ ⟨rfl, veiled.stores.2⟩)
  | deleteEntityField =>
    exact veiled.committed (Veiled.deleteEntityField _ _ ⟨rfl, veiled.stores.2⟩)

end Calls

/-! ## The runs -/

/-- Two runs from one state whose calls differ in sensitive values only, and whose steps conceal
them, leave the same metadata, payloads and snapshots at every moment. -/
theorem sensitive_values_concealed (env : RecordEnv) {start : AuditedDb}
    {calls : List (FieldCall × FieldCall)}
    (alike : Runs.Guarded env.stepBoth env.Like (start, start) calls)
    (concealed : Runs.Guarded env.stepBoth env.Conceals (start, start) calls) :
    Runs.Always env.stepBoth (fun both => both.1.TellsAlike both.2) (start, start) calls := by
  refine (alike.and concealed).always (I := fun both => both.1.Veiled both.2)
    (fun veiled allowed stepped => ?_) (fun veiled => veiled.tellsAlike) .refl
  cases stepped
  exact veiled.step allowed.1 allowed.2

/-! ### A ticket with a sensitive number -/

def ticketEnv : RecordEnv where
  zod := { regExp := fun _ => none, date := fun _ => true, datetime := fun _ => true
           guid := fun _ => true, decimalPlaces := fun _ => 0, message := fun _ => "" }
  entityTypes := [{ id := 1, name := "ticket" }]
  crossFieldValidators _ _ _ := []
  evaluateFormula _ _ := none
  assertTeamInTenant _ _ := .ok ()
  enforceMandatory := false

def ticketStart : AuditedDb where
  db := { entityFields :=
    [{ id := 1, entityTypeId := 1, tenantId := some 1, name := "title" },
      { id := 2, entityTypeId := 1, tenantId := some 1, name := "ssn", sensitivity := .pii }] }

def ticketSupply (base : Nat) : EntitySupply where
  startedAt := 0
  now := 0
  id k := base + k

def createTicket (ssn : String) : FieldCall :=
  .createEntity 1 { entityTypeId := 1, fields := [("title", .str "a"), ("ssn", .str ssn)] }
    (ticketSupply 10)

def renameTicket : FieldCall :=
  .updateEntity 1 10 { fields := some [("title", .str "b")] } (ticketSupply 20)

def FieldCall.both (call : FieldCall) : FieldCall × FieldCall := (call, call)

def renumberTicket (ssn : String) : FieldCall :=
  .updateEntity 1 10 { fields := some [("ssn", .str ssn)] } (ticketSupply 20)

theorem createTicket_like : ticketEnv.Like (ticketStart, ticketStart)
    (createTicket "1", createTicket "2") := by
  refine ⟨.createEntity (.cons ⟨rfl, fun _ => rfl⟩ (.cons ⟨rfl, fun shown => ?_⟩ .nil)), ?_, ?_, rfl⟩
  · exact absurd (by decide +kernel) shown
  · decide +kernel
  · decide +kernel

/-- Once the field of the number is deleted, a new title takes the number into the snapshots. -/
theorem deleted_field_reveals :
    ¬ ∀ (env : RecordEnv) (start : AuditedDb) (calls : List (FieldCall × FieldCall)),
      Runs.Guarded env.stepBoth env.Like (start, start) calls →
        Runs.Always env.stepBoth (fun both => both.1.TellsAlike both.2) (start, start) calls := by
  intro all
  have told := all ticketEnv ticketStart
    [(createTicket "1", createTicket "2"), (FieldCall.deleteEntityField 1 1 2).both,
      renameTicket.both]
  have differ : (Runs.run ticketEnv.stepBoth (ticketStart, ticketStart)
      [(createTicket "1", createTicket "2"), (FieldCall.deleteEntityField 1 1 2).both,
        renameTicket.both]).any (fun both =>
      both.1.auditLog.map (fun entry => entry.beforeSnapshot.map (·.get "ssn")) !=
        both.2.auditLog.map fun entry => entry.beforeSnapshot.map (·.get "ssn")) = true := by
    decide +kernel
  obtain ⟨last, ran, differ⟩ := (Option.any_eq_true _ _).mp differ
  have snapshots := ((told ⟨createTicket_like, fun _ created => ?_⟩).last ran).snapshots
  · refine absurd ?_ (bne_iff_ne.mp differ)
    have before := congrArg (List.map fun pair => pair.1.map (Fields.get · "ssn")) snapshots
    rw [List.map_map, List.map_map] at before
    exact before
  · cases created
    refine ⟨⟨.refl _ _, rfl, rfl, rfl⟩, fun _ deleted => ?_⟩
    cases deleted
    refine ⟨⟨.refl _ _, ?_, ?_, ?_⟩, fun _ _ => trivial⟩
    · decide +kernel
    · decide +kernel
    · decide +kernel

theorem FormulasBlind.of_none {evaluateFormula : String → Fields → Option Json}
    {fields : List EntityField} {hidden : String → Prop}
    (plain : fields.all (fun field => field.fieldType != .formula)) :
    FormulasBlind evaluateFormula fields hidden := by
  intro field mem formula
  have other := List.all_eq_true.mp plain field mem
  rw [formula, bne_self_eq_false] at other
  cases other

theorem conceals_edit {env : RecordEnv} {both : AuditedDb × AuditedDb} {tenantId instanceId : Id}
    {input : UpdateEntityInput} {supply : EntitySupply} {call : FieldCall}
    (checked : (both.1.live tenantId instanceId).all (fun existing =>
      (both.1.db.fieldsOf tenantId existing.entityTypeId).all
        (fun field => field.fieldType != .formula) &&
      both.1.supplied.all fun entry =>
        entry.1 != existing.id || (both.1.sensitiveOf tenantId (some existing)).contains entry.2) =
      true) :
    env.Conceals both (.updateEntity tenantId instanceId input supply, call) := by
  intro _ existing found
  rw [found, all_some, Bool.and_eq_true] at checked
  refine ⟨.of_none checked.1, fun key supplied => ?_⟩
  have sensitive := List.all_eq_true.mp checked.2 _ supplied
  rw [bne_self_eq_false, Bool.false_or] at sensitive
  exact contains_iff_mem.mp sensitive

/-- Two tickets with other numbers, which change to other numbers, tell the same. -/
theorem sensitive_values_concealed_tickets :
    Runs.Always ticketEnv.stepBoth (fun both => both.1.TellsAlike both.2)
      (ticketStart, ticketStart)
      [(createTicket "1", createTicket "2"), (renumberTicket "3", renumberTicket "4")] := by
  apply sensitive_values_concealed ticketEnv
  · refine ⟨createTicket_like, fun _ created => ?_⟩
    cases created
    refine ⟨⟨@FieldCall.Like.updateEntity _ 1 10 {} (ticketSupply 20) _ _
      (.some (.cons ⟨rfl, fun shown => ?_⟩ .nil)), ?_, ?_, ?_⟩, fun _ _ => trivial⟩
    · exact absurd (by decide +kernel) shown
    · decide +kernel
    · decide +kernel
    · decide +kernel
  · refine ⟨.of_none (by decide +kernel), fun _ created => ?_⟩
    cases created
    refine ⟨conceals_edit ?_, fun _ _ => trivial⟩
    decide +kernel

end OpenWind
