import OpenWind.Entity.Revalidation

/-!
# References within a tenant

A value of an `entity_ref` or `user_ref` field names a record or a user of the record's
own tenant.  `createEntity`, `bulkCreateEntities` and `updateEntity` look up the
references that they are given; `bulkUpdateEntities` stores them as they are.
-/

open List Option

namespace OpenWind

open Txn

/-! ## Existing references -/

def Db.RefExists (db : Db) (tenantId : Id) (ref : String) : FieldType → Prop
  | .entityRef => ∃ target ∈ db.entityInstances, target.tenantId = tenantId ∧ target.id.text = ref
  | .userRef => ∃ user ∈ db.tenantUsers, user.tenantId = tenantId ∧ user.userId = ref
  | _ => True

instance (db : Db) (tenantId : Id) (ref : String) (type : FieldType) :
    Decidable (db.RefExists tenantId ref type) := by
  unfold Db.RefExists
  cases type <;> infer_instance

def Db.RefsExist (db : Db) (tenantId entityTypeId : Id) (fields : Fields) : Prop :=
  ∀ f ∈ db.fieldsOf tenantId entityTypeId, ∀ ref ∈ fields.ref f.name,
    db.RefExists tenantId ref f.fieldType

instance (db : Db) (tenantId entityTypeId : Id) (fields : Fields) :
    Decidable (db.RefsExist tenantId entityTypeId fields) :=
  inferInstanceAs (Decidable (∀ _ ∈ _, ∀ _ ∈ _, _))

def Db.TenantRefs (db : Db) : Prop :=
  ∀ row ∈ db.entityInstances, db.RefsExist row.tenantId row.entityTypeId row.fields

instance (db : Db) : Decidable db.TenantRefs :=
  inferInstanceAs (Decidable (∀ _ ∈ _, _))

theorem refErrors_nil {refs : List (String × String)} {known : List String} {message : String}
    (none_ : refErrors refs known message = []) : ∀ ref ∈ refs, ref.2 ∈ known := by
  intro ref mem
  unfold refErrors at none_
  have filtered := map_eq_nil_iff.mp none_
  by_contra unknown
  have rejected : ref ∈ refs.filter fun ref => !known.contains ref.2 :=
    mem_filter.mpr ⟨mem, by simpa using unknown⟩
  rw [filtered] at rejected
  cases rejected

theorem mem_refEntries {refType : FieldType} {fields : Fields} {entityFields : List EntityField}
    {f : EntityField} {ref : String} (mem : f ∈ entityFields) (type : f.fieldType = refType)
    (refers : fields.ref f.name = some ref) :
    (f.name, ref) ∈ refEntries refType fields entityFields := by
  unfold refEntries
  refine mem_filterMap.mpr ⟨f, mem_filter.mpr ⟨mem, beq_iff_eq.mpr type⟩, ?_⟩
  rw [refers]
  rfl

theorem validateRefs_ok {db : Db} {tenantId : Id} {fields : Fields}
    {entityFields : List EntityField}
    (accepted : noFieldErrors (validateRefs db tenantId fields entityFields) = .ok ()) :
    ∀ f ∈ entityFields, ∀ ref, fields.ref f.name = some ref →
      db.RefExists tenantId ref f.fieldType := by
  have none_ : validateRefs db tenantId fields entityFields = [] := by
    unfold noFieldErrors at accepted
    split at accepted
    next empty => exact List.isEmpty_iff.mp empty
    next => cases accepted
  obtain ⟨records, users⟩ := append_eq_nil_iff.mp none_
  intro f mem ref refers
  cases type : f.fieldType with
  | entityRef =>
    have known := refErrors_nil records _ (mem_refEntries mem type refers)
    obtain ⟨target, listed, named⟩ := List.mem_map.mp known
    obtain ⟨stored, own⟩ := mem_filter.mp listed
    exact ⟨target, stored, eq_of_beq own, named⟩
  | userRef =>
    have known := refErrors_nil users _ (mem_refEntries mem type refers)
    obtain ⟨user, listed, named⟩ := List.mem_map.mp known
    obtain ⟨stored, own⟩ := mem_filter.mp listed
    exact ⟨user, stored, eq_of_beq own, named⟩
  | _ => trivial

/-! ## What is stored -/

def EntityField.refers (f : EntityField) : Prop :=
  f.fieldType = .entityRef ∨ f.fieldType = .userRef

instance (f : EntityField) : Decidable f.refers :=
  inferInstanceAs (Decidable (_ ∨ _))

theorem EntityField.refers.plain {f : EntityField} (refers : f.refers) : f.computed = false := by
  unfold computed
  rcases refers with type | type <;> rw [type] <;> rfl

theorem EntityField.refers.value_same {f : EntityField} (refers : f.refers) {zod : Zod}
    {mode : SchemaMode} {v w : Json} (parsed : (f.entry zod mode).value v = some w) : w = v := by
  have made := Shape.Entry.value_eq_some.mp parsed
  rw [f.entry_parse, ← f.entry_parse zod .update] at made
  unfold entry at made
  rw [if_neg (by rw [refers.plain]; exact Bool.false_ne_true)] at made
  change (buildFieldSchema zod f).parse v = .ok w at made
  unfold buildFieldSchema at made
  rcases refers with type | type
  · rw [type] at made
    exact stringSchema_same made
  · rw [type] at made
    exact stringSchema_same made

theorem storedValue_origin {value : Json → Option Json}
    (same : ∀ {v w}, value v = some w → w = v) {child : Bool} {given stored : Option Json} {w : Json}
    (made : storedValue value child given stored = some w) : given = some w ∨ stored = some w := by
  have parsed {other : Option Json} (holds : (other.bind value).or stored = some w) :
      other = some w ∨ stored = some w := by
    rcases or_eq_some_iff.mp holds with here | ⟨-, before⟩
    · obtain ⟨v, rfl, parses⟩ := bind_eq_some_iff.mp here
      exact .inl (congrArg some (same parses).symm)
    · exact .inr before
  unfold storedValue at made
  cases child with
  | true => exact parsed made
  | false =>
    rcases parsed made with merged | before
    · exact parsed merged
    · exact .inr before

theorem Fields.ref_eq_some {fields : Fields} {name ref : String} :
    fields.ref name = some ref ↔ fields.get name = some (.str ref) ∧ ref ≠ "" := by
  unfold Fields.ref Fields.text
  rw [filter_eq_some_iff]
  refine and_congr ?_ bne_iff_ne
  cases fields.get name with
  | none => exact ⟨fun absent => (nomatch absent), fun absent => (nomatch absent)⟩
  | some v => cases v <;> simp

section Stored

variable {db : Db} {env : FieldEnv} {tenantId : Id} {f : EntityField}

theorem FieldEnv.makes_ref (named : db.FieldsNamed) {existing : EntityInstance} {child : Bool}
    {provided fields : Fields}
    (made : env.editRules.Makes db tenantId existing child provided fields)
    (mem : f ∈ db.fieldsOf tenantId existing.entityTypeId) (refers : f.refers) {ref : String}
    (stored : fields.ref f.name = some ref) :
    provided.ref f.name = some ref ∨ existing.fields.ref f.name = some ref := by
  obtain ⟨value, filled⟩ := Fields.ref_eq_some.mp stored
  rw [env.editRules_lawful.stores made fun all result applied => by
    cases applied
    exact applyFormulaFields_get (named.free mem refers.plain) all, named.fieldValue mem] at value
  rcases storedValue_origin refers.value_same value with given | before
  · exact .inl (Fields.ref_eq_some.mpr ⟨given, filled⟩)
  · exact .inr (Fields.ref_eq_some.mpr ⟨before, filled⟩)

def Db.TeamApart (db : Db) (tenantId : Id) (input : CreateEntityInput) : Prop :=
  input.teamId = none ∨ ∀ f ∈ db.fieldsOf tenantId input.entityTypeId, f.refers → f.name ≠ teamKey

instance (input : CreateEntityInput) : Decidable (db.TeamApart tenantId input) :=
  inferInstanceAs (Decidable (_ ∨ _))

theorem Db.RefExists.of_refers {ref : String}
    (exists_ : f.refers → db.RefExists tenantId ref f.fieldType) :
    db.RefExists tenantId ref f.fieldType := by
  cases type : f.fieldType with
  | entityRef => exact type ▸ exists_ (.inl type)
  | userRef => exact type ▸ exists_ (.inr type)
  | _ => trivial

theorem FieldEnv.completeFields_refs (named : db.FieldsNamed) {input : CreateEntityInput}
    {data fields : Fields} (apart : db.TeamApart tenantId input)
    (created : env.createFields db tenantId input = .ok data)
    (completed : env.completeFields db tenantId input data = .ok fields) :
    db.RefsExist tenantId input.entityTypeId fields := by
  intro f mem ref stored
  refine .of_refers fun refers => validateRefs_ok (createFields_ok created).2 f mem ref ?_
  unfold completeFields at completed
  obtain ⟨_, -, returned⟩ := Except.bind_ok.mp completed
  cases returned
  obtain ⟨value, filled⟩ := Fields.ref_eq_some.mp stored
  refine Fields.ref_eq_some.mpr ⟨?_, filled⟩
  have formulas := @applyFormulaFields_get env.evaluateFormula _ _
    (named.free mem refers.plain) data
  rw [← formulas, ← value]
  rcases apart with none_ | apart
  · rw [none_]
    rfl
  · rw [withTeam_get _ _ (apart f mem refers)]

end Stored

/-! ## Runs -/

/-- The operations that store the fields of records. -/
inductive RefCall
  | createEntity (env : FieldEnv) (tenantId : Id) (input : CreateEntityInput) (supply : EntitySupply)
  | bulkCreateEntities (env : FieldEnv) (tenantId : Id) (inputs : List CreateEntityInput)
    (supply : EntitySupply)
  | updateEntity (env : FieldEnv) (tenantId instanceId : Id) (input : UpdateEntityInput)
    (supply : EntitySupply)
  | bulkUpdateEntities (env : FieldEnv) (tenantId : Id) (items : List BulkUpdateItem)
    (order : List Nat) (supply : EntitySupply)

/-- The store after a call that ran alone. -/
def RefCall.commit (db : Db) : RefCall → Db
  | createEntity env tenantId input supply =>
    (OpenWind.createEntity env.rules tenantId input supply).commit db
  | bulkCreateEntities env tenantId inputs supply =>
    (OpenWind.bulkCreateEntities env.rules tenantId inputs supply).commit db
  | updateEntity env tenantId instanceId input supply =>
    (OpenWind.updateEntity env.rules tenantId instanceId input supply).commit db
  | bulkUpdateEntities env tenantId items order supply =>
    (OpenWind.bulkUpdateEntities env.rules env.editRules tenantId items order supply).commit db

def RefCall.step (db : Db) (call : RefCall) : Option Db := some (call.commit db)

def Db.ItemRefsExist (db : Db) (tenantId : Id) (items : List BulkUpdateItem)
    (item : BulkUpdateItem) : Prop :=
  ∀ existing ∈ db.entityInstances.filter (EntityInstance.isRequested tenantId items),
    existing.id = item.id → ∀ provided ∈ item.input.fields,
      db.RefsExist tenantId existing.entityTypeId provided

def RefCall.Allowed (db : Db) : RefCall → Prop
  | createEntity _ tenantId input _ => db.TeamApart tenantId input
  | bulkCreateEntities _ tenantId inputs _ => ∀ input ∈ inputs, db.TeamApart tenantId input
  | updateEntity _ _ _ _ _ => True
  | bulkUpdateEntities _ tenantId items _ _ => ∀ item ∈ items, db.ItemRefsExist tenantId items item

instance (db : Db) (tenantId : Id) (items : List BulkUpdateItem) (item : BulkUpdateItem) :
    Decidable (db.ItemRefsExist tenantId items item) :=
  inferInstanceAs (Decidable (∀ _ ∈ _, _ → ∀ _ ∈ _, _))

instance (db : Db) (call : RefCall) : Decidable (call.Allowed db) := by
  cases call <;> unfold RefCall.Allowed <;> infer_instance

structure Db.RefsSound (db : Db) : Prop where
  named : db.FieldsNamed
  keyed : db.Keyed
  refs : db.TenantRefs

section Keeps

variable {db db' : Db} {env : FieldEnv} {tenantId : Id} {supply : EntitySupply}

theorem Db.RefExists.mono {ref : String} {type : FieldType}
    (records : ∀ row ∈ db.entityInstances, ∃ row' ∈ db'.entityInstances,
      row'.id = row.id ∧ row'.tenantId = row.tenantId)
    (users : db'.tenantUsers = db.tenantUsers) (exists_ : db.RefExists tenantId ref type) :
    db'.RefExists tenantId ref type := by
  cases type with
  | entityRef =>
    obtain ⟨target, mem, own, named⟩ := exists_
    obtain ⟨target', mem', id, tenant⟩ := records target mem
    refine ⟨target', mem', tenant.trans own, ?_⟩
    rw [id]
    exact named
  | userRef =>
    obtain ⟨user, mem, facts⟩ := exists_
    exact ⟨user, users ▸ mem, facts⟩
  | _ => trivial

section

variable (before : db.RefsSound)

include before

theorem Db.RefsSound.grow {f : EntityInstance → EntityInstance} {fresh : List EntityInstance}
    (instances : db'.entityInstances = db.entityInstances.map f ++ fresh)
    (same : ∀ row, (f row).id = row.id ∧ (f row).tenantId = row.tenantId) (unused : db.Unused fresh)
    (definitions : SameDefinitions db db')
    (refs : ∀ row ∈ db'.entityInstances, db.RefsExist row.tenantId row.entityTypeId row.fields) :
    db'.RefsSound := by
  refine ⟨definitions.fieldsNamed before.named,
    before.keyed.grow (fun row => (same row).1) instances unused, fun row mem g listed ref refers => ?_⟩
  rw [definitions.fieldsOf] at listed
  refine (refs row mem g listed ref refers).mono (fun target stored => ?_) definitions.users
  refine ⟨f target, ?_, same target⟩
  rw [instances]
  exact mem_append_left _ (List.mem_map_of_mem stored)

/-- New records. -/
theorem Db.RefsSound.append {fresh : List EntityInstance}
    (instances : db'.entityInstances = db.entityInstances ++ fresh) (unused : db.Unused fresh)
    (definitions : SameDefinitions db db')
    (refs : ∀ row ∈ fresh, db.RefsExist row.tenantId row.entityTypeId row.fields) :
    db'.RefsSound := by
  refine before.grow (f := id) ?_ (fun _ => ⟨rfl, rfl⟩) unused definitions fun row mem => ?_
  · rw [List.map_id]
    exact instances
  · rw [instances] at mem
    rcases mem_append.mp mem with old | new
    · exact before.refs row old
    · exact refs row new

theorem Db.RefsSound.create {input : CreateEntityInput} {row : EntityInstance}
    (apart : db.TeamApart tenantId input)
    (ran : (createEntity env.rules tenantId input supply).exec db = .ok (row, db')) :
    db'.RefsSound := by
  obtain ⟨fields, redacted, state, rfl, checked, -, unused, effect⟩ := createEntity_cases ran
  obtain ⟨data, created, completed, -⟩ := Db.checkCreate_ok checked
  refine before.append effect.instances unused effect.definitions fun row mem => ?_
  obtain rfl := mem_singleton.mp mem
  exact FieldEnv.completeFields_refs before.named apart created completed

theorem Db.RefsSound.bulkCreate {inputs : List CreateEntityInput} {result : BulkCreateResult}
    (apart : ∀ input ∈ inputs, db.TeamApart tenantId input)
    (ran : (bulkCreateEntities env.rules tenantId inputs supply).exec db = .ok (result, db')) :
    db'.RefsSound := by
  obtain ⟨-, built, unused, effect⟩ := bulkCreateEntities_cases ran
  refine before.append effect.instances unused effect.definitions fun row mem => ?_
  obtain ⟨input, asked, index, made⟩ := built row mem
  obtain ⟨checked, tenant, type, -⟩ := bulkCreateRow_built made
  obtain ⟨data, created, completed, -⟩ := Db.checkCreate_ok checked
  rw [tenant, type]
  exact FieldEnv.completeFields_refs before.named (apart input asked) created completed

theorem Db.RefsSound.makes {existing : EntityInstance}
    (stored : existing ∈ db.entityInstances) {child : Bool} {provided fields : Fields}
    (made : env.editRules.Makes db existing.tenantId existing child provided fields)
    (given : ∀ f ∈ db.fieldsOf existing.tenantId existing.entityTypeId, f.refers →
      ∀ ref ∈ provided.ref f.name, db.RefExists existing.tenantId ref f.fieldType) :
    db.RefsExist existing.tenantId existing.entityTypeId fields := by
  intro f mem ref refers
  refine .of_refers fun isRef => ?_
  rcases FieldEnv.makes_ref before.named made mem isRef refers with here | there
  · exact given f mem isRef ref here
  · exact before.refs existing stored f mem ref there

end

theorem FieldEnv.updateFields_given {existing : EntityInstance} {child : Bool}
    {provided fields : Fields}
    (accepted : env.editRules.updateFields db tenantId existing child provided = .ok fields) :
    ∀ f ∈ db.fieldsOf tenantId existing.entityTypeId, ∀ ref ∈ provided.ref f.name,
      db.RefExists tenantId ref f.fieldType := by
  intro f mem ref refers
  have checked := (EditRules.updateFields_ok accepted).2
  refine validateRefs_ok checked f (mem_filter.mpr ⟨mem, ?_⟩) ref refers
  rw [(Fields.ref_eq_some.mp refers).1]
  rfl

theorem Db.RefsSound.update {instanceId : Id} {input : UpdateEntityInput} {row : EntityInstance}
    (before : db.RefsSound)
    (ran : (updateEntity env.rules tenantId instanceId input supply).exec db = .ok (row, db')) :
    db'.RefsSound := by
  obtain ⟨existing, found, ⟨rfl, -⟩ | ⟨fields, changed, workflowId, edited⟩⟩ :=
    updateEntity_cases ran
  · exact before
  have same (row : EntityInstance) := SameRecord.ite (.apply input fields supply.now)
    (row.isOf tenantId existing.id) row
  refine before.grow (by rw [edited.effect.instances, append_nil])
    (fun row => ⟨(same row).id, (same row).tenantId⟩) db.unused_nil edited.effect.definitions
    fun row' mem => ?_
  rcases edited.row_cases mem with old | ⟨old, memOld, chosen, rfl⟩
  · exact before.refs row' old
  · obtain ⟨named, own⟩ := Bool.and_eq_true_iff.mp chosen
    obtain rfl := before.keyed.eq memOld (mem_of_find?_eq_some found) (eq_of_beq named)
    obtain rfl := eq_of_beq own
    have yields := edited.yields
    unfold UpdateEntityInput.Yields at yields
    split at yields
    next provided =>
      obtain ⟨made, rfl, accepted⟩ := yields
      have given := FieldEnv.updateFields_given accepted
      exact before.makes memOld (EditRules.updateFields_ok accepted).1 fun f mem _ => given f mem
    next =>
      subst yields
      exact before.refs old memOld

theorem FieldEnv.makes_of_same {mid : Db} (same : SameDefinitions db mid)
    {existing : EntityInstance} {child : Bool} {provided fields : Fields}
    (made : env.editRules.Makes mid tenantId existing child provided fields) :
    env.editRules.Makes db tenantId existing child provided fields := by
  have schemas (mode : SchemaMode) :
      env.editRules.getValidationSchema mid tenantId existing.entityTypeId mode =
        env.editRules.getValidationSchema db tenantId existing.entityTypeId mode := by
    change env.getValidationSchema mid _ _ _ = env.getValidationSchema db _ _ _
    unfold getValidationSchema
    rw [same.fieldsOf]
  unfold EditRules.Makes at made ⊢
  rw [schemas .update, schemas .create, same.fieldsOf] at made
  exact made

theorem Db.RefsSound.bulkUpdate {items : List BulkUpdateItem} {order : List Nat}
    {result : BulkUpdateResult} (before : db.RefsSound)
    (given : ∀ item ∈ items, db.ItemRefsExist tenantId items item)
    (ran : (bulkUpdateEntities env.rules env.editRules tenantId items order supply).exec db =
      .ok (result, db')) : db'.RefsSound := by
  obtain ⟨f, same, effect⟩ := (bulkUpdateEntities_keepsStates ran).records
  refine before.grow (by rw [effect.instances, append_nil])
    (fun row => ⟨(same row).1, (same row).2.1⟩) db.unused_nil effect.definitions fun row mem => ?_
  have rows := bulkUpdateEntities_rows (P := fun row =>
    db.RefsExist row.tenantId row.entityTypeId row.fields ∧ ∀ old ∈ db.entityInstances,
      old.id = row.id → old.tenantId = row.tenantId ∧ old.entityTypeId = row.entityTypeId) ?_ ?_ ran
  · exact (rows.2 row mem).1
  · intro item asked existing requested named mid fields definitions accepted row ⟨refs, kept⟩ chosen
    refine ⟨?_, kept⟩
    have stored := (mem_filter.mp requested).1
    have ofRow : existing.id = row.id := (eq_of_beq (Bool.and_eq_true_iff.mp chosen).1).symm
    obtain ⟨tenant, type⟩ := kept existing stored ofRow
    have own : row.tenantId = tenantId := eq_of_beq (Bool.and_eq_true_iff.mp chosen).2
    have yields := accepted.yields
    split at yields
    next provided provides =>
      obtain ⟨made, rfl, checked⟩ := yields
      change db.RefsExist row.tenantId row.entityTypeId made
      rw [← tenant, ← type]
      have ofTenant : tenantId = existing.tenantId := own.symm.trans tenant.symm
      have exist := given item asked existing requested named provided provides
      rw [ofTenant] at checked exist
      have makes := FieldEnv.makes_of_same definitions (EditRules.bulkFields_ok checked)
      exact before.makes stored makes fun f mem _ => exist f mem
    next =>
      rw [yields]
      exact refs
  · intro row memRow
    refine ⟨before.refs row memRow, fun old memOld named => ?_⟩
    rw [before.keyed.eq memOld memRow named]
    exact ⟨rfl, rfl⟩

end Keeps

theorem RefCall.sound {db : Db} {call : RefCall} (before : db.RefsSound) (allowed : call.Allowed db) :
    (call.commit db).RefsSound := by
  cases call with
  | createEntity => exact Tx.commit_of before (before.create allowed)
  | bulkCreateEntities => exact Tx.commit_of before (before.bulkCreate allowed)
  | updateEntity => exact Tx.commit_of before before.update
  | bulkUpdateEntities => exact Tx.commit_of before (before.bulkUpdate allowed)

/-- Every stored reference names a record or a user of its tenant, along a run in which
the references given to batches of edits do and teams are stored apart from references. -/
theorem tenant_refs_kept {db : Db} {calls : List RefCall} (before : db.RefsSound)
    (guarded : Runs.Guarded RefCall.step RefCall.Allowed db calls) :
    Runs.Always RefCall.step Db.TenantRefs db calls := by
  refine guarded.always (fun {db call t} sound allowed stepped => ?_)
    (fun sound => Db.RefsSound.refs sound) before
  cases stepped
  exact RefCall.sound sound allowed

/-! ### A record of another tenant -/

def refZod : Zod := { bareZod with guid := fun s => [10, 20].any fun id => s == Id.text id }

def refEnv : FieldEnv := { orderEnv with zod := refZod }

def refDb : Db where
  entityFields :=
    [{ id := 1, entityTypeId := 1, tenantId := some 1, name := "parent", fieldType := .entityRef }]
  entityInstances :=
    [{ id := 10, entityTypeId := 1, tenantId := 1, createdAt := 0, updatedAt := 0 },
      { id := 20, entityTypeId := 2, tenantId := 2, createdAt := 0, updatedAt := 0 }]

def refSupply (base : Nat) : EntitySupply := ⟨base, base, fun i => base + i⟩

def refBatch (target : Id) (base : Nat) : RefCall :=
  .bulkUpdateEntities refEnv 1
    [{ id := 10, input := { fields := some [("parent", .str target.text)] } }] [0] (refSupply base)

theorem refDb_sound : refDb.RefsSound := by
  have named : ([(1, "parent")] : List (Id × String)).Nodup := by decide
  have keyed : ([10, 20] : List Id).Nodup := by decide
  exact ⟨named, keyed, by decide +kernel⟩

/-- The batch stores the identifier of the other tenant's record. -/
theorem tenant_ref_crossed : ¬ Runs.Always RefCall.step Db.TenantRefs refDb [refBatch 20 100] := by
  intro always
  have reached : (Runs.run RefCall.step refDb [refBatch 20 100]).any (fun db =>
      decide (¬ db.TenantRefs)) = true := by
    decide +kernel
  obtain ⟨db, ran, crossed⟩ := (Option.any_eq_true _ _).mp reached
  exact of_decide_eq_true crossed (always.last ran)

/-- A batch and an edit that refer to the tenant's own record; an edit that refers to the
other tenant's is refused. -/
theorem tenant_refs_own :
    Runs.Always RefCall.step Db.TenantRefs refDb
      [refBatch 10 100,
        .updateEntity refEnv 1 10 { fields := some [("parent", .str (Id.text 20))] } (refSupply 200)] := by
  refine tenant_refs_kept refDb_sound (.of_check (c := fun db call => decide (call.Allowed db))
    of_decide_eq_true ?_)
  decide +kernel

end OpenWind
