import OpenWind.Entity.Validation
import OpenWind.Entity.StoredRows
import OpenWind.Entity.LostUpdates

/-!
# The revalidation of a stored record

An edit merges what it was given into the stored fields and parses the result by the
schema of a new record.  Stored fields were parsed by that schema before, but then the
formulas and the team were stored beside them.
-/

open List

namespace OpenWind

open Txn

/-! ## Parsing twice -/

theorem passed_same {issues : List ZodIssue} {v w : Json} (ran : passed issues v = .ok w) :
    w = v := by
  unfold passed at ran
  split at ran
  · cases ran
    rfl
  · cases ran

theorem stable_of_same {schema : ValueSchema}
    (same : ∀ {v w}, schema.parse v = .ok w → w = v) : schema.Stable := by
  intro v w parsed
  obtain rfl := same parsed
  exact parsed

theorem stringSchema_same {checks : String → List ZodIssue} {v w : Json}
    (parsed : (stringSchema checks).parse v = .ok w) : w = v := by
  cases v with
  | str s => exact passed_same parsed
  | _ => cases parsed

theorem stringSchema_stable (checks : String → List ZodIssue) : (stringSchema checks).Stable :=
  stable_of_same stringSchema_same

theorem numberSchema_stable (checks : Rat → List ZodIssue) : (numberSchema checks).Stable := by
  refine stable_of_same fun {v w} parsed => ?_
  cases v with
  | num n => exact passed_same parsed
  | _ => cases parsed

theorem booleanSchema_stable : booleanSchema.Stable := by
  refine stable_of_same fun {v w} parsed => ?_
  cases v with
  | bool b =>
    cases parsed
    rfl
  | _ => cases parsed

theorem enumSchema_stable (values : List String) : (enumSchema values).Stable := by
  refine stable_of_same fun {v w} parsed => ?_
  cases v with
  | str s => exact passed_same parsed
  | _ => cases parsed

theorem arraySchema_stable (item : ValueSchema) (checks : List Json → List ZodIssue) :
    (arraySchema item checks).Stable := by
  refine stable_of_same fun {v w} parsed => ?_
  cases v with
  | arr items => exact passed_same parsed
  | _ => cases parsed

theorem currencySchema_stable {amount currency : ValueSchema} (stableAmount : amount.Stable)
    (stableCurrency : currency.Stable) : (currencySchema amount currency).Stable := by
  intro v w parsed
  cases v with
  | obj entries =>
    unfold currencySchema at parsed ⊢
    dsimp only at parsed
    split at parsed
    next out here =>
      cases parsed
      have stable : ∀ e ∈ [("amount", amount), ("currency", currency)], e.2.Stable := by
        simp only [forall_mem_cons, not_mem_nil, false_implies, implies_true, and_true]
        exact ⟨stableAmount, stableCurrency⟩
      have distinct : ["amount", "currency"].Nodup := by decide
      have again := Shape.parse_again stable distinct here
      dsimp only
      rw [again]
    next => cases parsed
  | _ => cases parsed

theorem unknownSchema_stable : unknownSchema.Stable := fun _ => rfl

theorem neverSchema_stable : neverSchema.Stable := fun parsed => nomatch parsed

theorem currencyCode_stable (allowed : Option Json) : (currencyCode allowed).Stable := by
  unfold currencyCode
  split
  · exact enumSchema_stable _
  · exact stringSchema_stable _

theorem optionSchema_stable (options : Option Json) : (optionSchema options).Stable := by
  unfold optionSchema
  split
  · exact stringSchema_stable _
  · exact enumSchema_stable _

theorem buildFieldSchema_stable (zod : Zod) (field : EntityField) :
    (buildFieldSchema zod field).Stable := by
  unfold buildFieldSchema
  cases field.fieldType with
  | text | longtext | date | datetime | userRef | entityRef | file => exact stringSchema_stable _
  | number => exact numberSchema_stable _
  | currency => exact currencySchema_stable (numberSchema_stable _) (currencyCode_stable _)
  | boolean => exact booleanSchema_stable
  | enum => exact optionSchema_stable _
  | select => exact optionSchema_stable _
  | multiEnum => exact arraySchema_stable _ _
  | files => exact arraySchema_stable _ _
  | formula | lookup | other => exact unknownSchema_stable

theorem EntityField.entry_parse (zod : Zod) (field : EntityField) (mode : SchemaMode) :
    (field.entry zod mode).parse = (field.entry zod .create).parse := by
  unfold entry
  by_cases computed : field.computed = true
  · rw [if_pos computed, if_pos computed]
  · rw [if_neg computed, if_neg computed]
    dsimp only
    split <;> split <;> rfl

theorem EntityField.entry_stable (zod : Zod) (mode : SchemaMode) (field : EntityField) :
    (field.entry zod mode).Stable := by
  have stable : (field.entry zod .update).Stable := by
    unfold entry
    by_cases computed : field.computed = true
    · rw [if_pos computed]
      exact neverSchema_stable
    · rw [if_neg computed]
      exact buildFieldSchema_stable zod field
  intro v w parsed
  rw [entry_parse] at parsed ⊢
  rw [← entry_parse zod field .update] at parsed ⊢
  exact stable parsed

theorem EntityField.accepts_computed {zod : Zod} {field : EntityField} {mode : SchemaMode}
    (computed : field.computed) {value : Option Json} :
    (field.entry zod mode).Accepts value ↔ value = none := by
  unfold entry
  rw [if_pos computed]
  cases value with
  | none => exact ⟨fun _ => rfl, fun _ => rfl⟩
  | some v => exact ⟨fun ⟨_, parsed⟩ => (nomatch parsed), fun absent => (nomatch absent)⟩

/-! ## The laws of the generated schemas -/

/-- What the schema of a type makes of a value under a key. -/
def fieldValue (zod : Zod) (allFields : List EntityField) (key : String) (v : Json) : Option Json :=
  Shape.value (buildZodSchema zod (sortFields allFields) .create) key v

theorem mem_sortFields {fields : List EntityField} {f : EntityField} :
    f ∈ sortFields fields ↔ f ∈ fields :=
  (perm_insertionSort _ _).mem_iff

theorem lookup_buildZodSchema (zod : Zod) (fields : List EntityField) (mode : SchemaMode)
    (key : String) : (buildZodSchema zod fields mode).lookup key =
      (fields.find? fun f => key == f.name).map (EntityField.entry zod mode) := by
  unfold buildZodSchema
  induction fields with
  | nil => rfl
  | cons f rest ih =>
    rw [map_cons, lookup_cons, find?_cons]
    cases key == f.name with
    | true => rfl
    | false => exact ih

theorem value_buildZodSchema (zod : Zod) (fields : List EntityField) (mode : SchemaMode)
    (key : String) : Shape.value (buildZodSchema zod fields mode) key =
      Shape.value (buildZodSchema zod fields .create) key := by
  funext v
  unfold Shape.value
  rw [lookup_buildZodSchema, lookup_buildZodSchema]
  cases fields.find? fun f => key == f.name with
  | none => rfl
  | some f =>
    change (f.entry zod mode).value v = (f.entry zod .create).value v
    unfold Shape.Entry.value
    rw [f.entry_parse]

theorem parseFields_ok {zod : Zod} {schema : List (String × ValueSchema)} {fields out : Fields}
    (parsed : parseFields zod schema fields = .ok out) :
    Shape.parse ZodIssue.under fields schema = .ok out := by
  unfold parseFields at parsed
  split at parsed
  next here =>
    cases parsed
    exact here
  next => cases parsed

theorem exists_parseFields_iff {zod : Zod} {fields : List EntityField} {mode : SchemaMode}
    {object : Fields} :
    (∃ out, parseFields zod (buildZodSchema zod fields mode) object = .ok out) ↔
      ∀ f ∈ fields, (f.entry zod mode).Accepts (object.get f.name) := by
  have parses : (∃ out, parseFields zod (buildZodSchema zod fields mode) object = .ok out) ↔
      ∃ out, Shape.parse ZodIssue.under object (buildZodSchema zod fields mode) = .ok out := by
    refine ⟨fun ⟨out, parsed⟩ => ⟨out, parseFields_ok parsed⟩, fun ⟨out, parsed⟩ => ⟨out, ?_⟩⟩
    unfold parseFields
    rw [parsed]
  rw [parses, Shape.exists_parse_iff]
  unfold buildZodSchema
  rw [forall_mem_map]
  exact Iff.rfl

theorem applyFormulaFields_get {evaluateFormula : String → Fields → Option Json}
    {fields : List EntityField} {name : String}
    (free : ∀ f ∈ fields, f.fieldType = .formula → f.name ≠ name) (values : Fields) :
    (applyFormulaFields evaluateFormula fields values).get name = values.get name := by
  unfold applyFormulaFields
  induction fields generalizing values with
  | nil => rfl
  | cons f rest ih =>
    rw [forall_mem_cons] at free
    rw [foldl_cons, ih free.2]
    unfold applyFormula
    split
    next formula =>
      have other : name ≠ f.name := (free.1 (eq_of_beq formula)).symm
      split
      next =>
        unfold Fields.put
        split
        next => exact Fields.get_set_ne _ _ other
        next => exact Fields.get_erase_ne _ other
      next => rfl
    next => rfl

theorem FieldEnv.editRules_lawful (env : FieldEnv) : env.editRules.Lawful (fieldValue env.zod) := by
  constructor
  · intro db tenantId entityTypeId mode schema fields out loaded parsed key
    cases loaded
    have each := Shape.lookup_parse (parseFields_ok parsed) key
    rw [value_buildZodSchema] at each
    exact each
  · intro allFields key v w parsed
    unfold fieldValue Shape.value at parsed ⊢
    rw [lookup_buildZodSchema] at parsed ⊢
    cases found : (sortFields allFields).find? fun f => key == f.name with
    | none =>
      rw [found] at parsed
      cases parsed
    | some f =>
      rw [found] at parsed
      exact Shape.Entry.value_eq_some.mpr
        (f.entry_stable env.zod .create (Shape.Entry.value_eq_some.mp parsed))
  · intro db tenantId entityTypeId schema provided out all key result loaded parsed given applied
    cases loaded
    cases applied
    refine applyFormulaFields_get (fun f mem formula named => ?_) all
    have accepted := exists_parseFields_iff.mp ⟨out, parsed⟩ f mem
    have computed : f.computed := by
      unfold EntityField.computed
      rw [formula]
      rfl
    rw [named, EntityField.accepts_computed computed] at accepted
    rw [accepted] at given
    cases given

/-! ## What is stored -/

def Db.FieldsNamed (db : Db) : Prop :=
  (db.entityFields.map fun f => (f.entityTypeId, f.name)).Nodup

def teamKey : String := "team_id"

def Db.Revalidates (db : Db) (zod : Zod) (tenantId entityTypeId : Id) (stored : Fields) : Prop :=
  ∀ f ∈ db.fieldsOf tenantId entityTypeId, f.computed = false → f.name ≠ teamKey →
    (f.entry zod .create).Accepts (stored.get f.name)

section Stored

variable {db : Db} {zod : Zod} {tenantId entityTypeId : Id} {f : EntityField}

section

variable (named : db.FieldsNamed)

include named

theorem Db.FieldsNamed.eq {g : EntityField} (mem : f ∈ db.fieldsOf tenantId entityTypeId)
    (mem' : g ∈ db.fieldsOf tenantId entityTypeId) (same : f.name = g.name) : f = g := by
  obtain ⟨listed, ofType⟩ := mem_filter.mp mem
  obtain ⟨listed', ofType'⟩ := mem_filter.mp mem'
  have type := eq_of_beq (Bool.and_eq_true_iff.mp ofType).1
  have type' := eq_of_beq (Bool.and_eq_true_iff.mp ofType').1
  exact inj_on_of_nodup_map named listed listed' (Prod.ext (type.trans type'.symm) same)

theorem Db.FieldsNamed.names (tenantId entityTypeId : Id) :
    ((sortFields (db.fieldsOf tenantId entityTypeId)).map (·.name)).Nodup := by
  have sorted := (perm_insertionSort (fun a b : EntityField => a.sortOrder ≤ b.sortOrder)
    (db.fieldsOf tenantId entityTypeId)).map (·.name)
  refine sorted.nodup_iff.mpr (Nodup.map_on (fun f mem g mem' same => ?_) ?_)
  · exact named.eq mem mem' same
  · exact (Nodup.of_map _ named).filter _

theorem Db.FieldsNamed.distinct (zod : Zod) (tenantId entityTypeId : Id) (mode : SchemaMode) :
    ((buildZodSchema zod (sortFields (db.fieldsOf tenantId entityTypeId)) mode).map
      Prod.fst).Nodup := by
  unfold buildZodSchema
  rw [map_map]
  exact named.names tenantId entityTypeId

theorem Db.FieldsNamed.fieldValue (mem : f ∈ db.fieldsOf tenantId entityTypeId) :
    fieldValue zod (db.fieldsOf tenantId entityTypeId) f.name = (f.entry zod .create).value := by
  funext v
  unfold OpenWind.fieldValue Shape.value
  have listed : (f.name, f.entry zod .create) ∈
      buildZodSchema zod (sortFields (db.fieldsOf tenantId entityTypeId)) .create :=
    mem_map.mpr ⟨f, mem_sortFields.mpr mem, rfl⟩
  rw [Shape.lookup_of_mem (named.distinct zod tenantId entityTypeId .create) listed]
  rfl

theorem Db.FieldsNamed.free (mem : f ∈ db.fieldsOf tenantId entityTypeId)
    (plain : f.computed = false) :
    ∀ g ∈ sortFields (db.fieldsOf tenantId entityTypeId), g.fieldType = .formula →
      g.name ≠ f.name := by
  intro g memG formula same
  obtain rfl := named.eq (mem_sortFields.mp memG) mem same
  unfold EntityField.computed at plain
  rw [formula] at plain
  cases plain

end

theorem storedValue_accepts {entry : ValueSchema} (stable : entry.Stable) (child : Bool)
    {given stored : Option Json} (accepts : entry.Accepts stored) :
    entry.Accepts (storedValue entry.value child given stored) := by
  have parsed {value : Option Json} : entry.Accepts ((value.bind entry.value).or stored) := by
    cases made : value.bind entry.value with
    | none => exact accepts
    | some w =>
      obtain ⟨v, -, parses⟩ := Option.bind_eq_some_iff.mp made
      exact ⟨w, stable (Shape.Entry.value_eq_some.mp parses)⟩
  unfold storedValue
  cases child with
  | true => exact parsed
  | false => exact parsed

end Stored

/-! ## Creating and editing -/

section Rules

variable {db : Db} {env : FieldEnv} {tenantId : Id} {input : CreateEntityInput}

theorem FieldEnv.createFields_ok {data : Fields}
    (created : env.createFields db tenantId input = .ok data) :
    parseFields env.zod (buildZodSchema env.zod
        (sortFields (db.fieldsOf tenantId input.entityTypeId)) .create) input.fields = .ok data ∧
      noFieldErrors (validateRefs db tenantId data
        (db.fieldsOf tenantId input.entityTypeId)) = .ok () := by
  unfold createFields at created
  obtain ⟨_, -, rest⟩ := Except.bind_ok.mp created
  obtain ⟨_, -, rest⟩ := Except.bind_ok.mp rest
  obtain ⟨schema, loaded, rest⟩ := Except.bind_ok.mp rest
  obtain ⟨parsed, made, rest⟩ := Except.bind_ok.mp rest
  obtain ⟨_, -, rest⟩ := Except.bind_ok.mp rest
  obtain ⟨_, references, returned⟩ := Except.bind_ok.mp rest
  cases loaded
  cases returned
  exact ⟨throwFieldErrors_ok.mp made, throwFieldErrors_ok.mp references⟩

theorem FieldEnv.createFields_accepted (named : db.FieldsNamed) {data : Fields}
    (created : env.createFields db tenantId input = .ok data) :
    ∀ f ∈ db.fieldsOf tenantId input.entityTypeId,
      (f.entry env.zod .create).Accepts (data.get f.name) := by
  have again := Shape.parse_again
    (fun e mem => by
      obtain ⟨f, -, rfl⟩ := mem_map.mp mem
      exact f.entry_stable env.zod .create)
    (named.distinct env.zod tenantId input.entityTypeId .create)
    (parseFields_ok (createFields_ok created).1)
  have accepted := Shape.exists_parse_iff.mp ⟨_, again⟩
  intro f mem
  exact accepted (f.name, f.entry env.zod .create) (mem_map.mpr ⟨f, mem_sortFields.mpr mem, rfl⟩)

theorem FieldEnv.withTeam_get (fields : Fields) (teamId : Option Id) {name : String}
    (other : name ≠ teamKey) : (withTeam fields teamId).get name = fields.get name := by
  unfold withTeam
  cases teamId with
  | none => rfl
  | some team => exact Fields.get_set_ne _ _ other

theorem FieldEnv.completeFields_revalidates (named : db.FieldsNamed) {data fields : Fields}
    (created : env.createFields db tenantId input = .ok data)
    (completed : env.completeFields db tenantId input data = .ok fields) :
    db.Revalidates env.zod tenantId input.entityTypeId fields := by
  intro f mem plain other
  unfold completeFields at completed
  obtain ⟨_, -, returned⟩ := Except.bind_ok.mp completed
  cases returned
  rw [withTeam_get _ _ other, applyFormulaFields_get (named.free mem plain)]
  exact createFields_accepted named created f mem

theorem FieldEnv.makes_revalidates (named : db.FieldsNamed) {existing : EntityInstance}
    {child : Bool} {provided fields : Fields}
    (before : db.Revalidates env.zod tenantId existing.entityTypeId existing.fields)
    (edited : env.editRules.Makes db tenantId existing child provided fields) :
    db.Revalidates env.zod tenantId existing.entityTypeId fields := by
  intro f mem plain other
  have stored := env.editRules_lawful.stores edited fun all result applied => by
    cases applied
    exact applyFormulaFields_get (named.free mem plain) all
  rw [stored, named.fieldValue mem]
  exact storedValue_accepts (f.entry_stable env.zod .create) child (before f mem plain other)

end Rules

/-! ## Runs -/

/-- The operations that store a record's fields. -/
inductive RecordWrite
  | createEntity (env : FieldEnv) (tenantId : Id) (input : CreateEntityInput) (supply : EntitySupply)
  | updateEntity (env : FieldEnv) (tenantId instanceId : Id) (input : UpdateEntityInput)
    (supply : EntitySupply)

/-- The store after a call that ran alone, under the one schema library. -/
def RecordWrite.commit (zod : Zod) (db : Db) : RecordWrite → Db
  | createEntity env tenantId input supply =>
    (OpenWind.createEntity { env with zod := zod }.rules tenantId input supply).commit db
  | updateEntity env tenantId instanceId input supply =>
    (OpenWind.updateEntity { env with zod := zod }.rules tenantId instanceId input supply).commit db

def RecordWrite.step (zod : Zod) (db : Db) (write : RecordWrite) : Option Db :=
  some (write.commit zod db)

structure Db.StoredSound (db : Db) (zod : Zod) : Prop where
  named : db.FieldsNamed
  keyed : db.Keyed
  rows : ∀ row ∈ db.entityInstances, db.Revalidates zod row.tenantId row.entityTypeId row.fields

section Writes

variable {db db' : Db} {zod : Zod} {env : FieldEnv} {tenantId : Id} {supply : EntitySupply}

theorem SameDefinitions.fieldsOf (same : SameDefinitions db db') (tenantId entityTypeId : Id) :
    db'.fieldsOf tenantId entityTypeId = db.fieldsOf tenantId entityTypeId := by
  unfold Db.fieldsOf
  rw [same.fields]

theorem SameDefinitions.revalidates (same : SameDefinitions db db') {entityTypeId : Id}
    {stored : Fields} (before : db.Revalidates zod tenantId entityTypeId stored) :
    db'.Revalidates zod tenantId entityTypeId stored := by
  unfold Db.Revalidates
  rw [same.fieldsOf]
  exact before

theorem SameDefinitions.fieldsNamed (same : SameDefinitions db db') (named : db.FieldsNamed) :
    db'.FieldsNamed := by
  unfold Db.FieldsNamed
  rw [same.fields]
  exact named

theorem Db.StoredSound.create {input : CreateEntityInput} {row : EntityInstance}
    (before : db.StoredSound env.zod)
    (ran : (createEntity env.rules tenantId input supply).exec db = .ok (row, db')) :
    db'.StoredSound env.zod := by
  obtain ⟨fields, redacted, state, rfl, checked, -, unused, effect⟩ := createEntity_cases ran
  obtain ⟨data, created, completed, -⟩ := Db.checkCreate_ok checked
  refine ⟨effect.definitions.fieldsNamed before.named,
    (Evolves.of_append effect.instances unused).keyed before.keyed, fun row mem => ?_⟩
  refine effect.definitions.revalidates ?_
  rw [effect.instances] at mem
  rcases mem_append.mp mem with old | new
  · exact before.rows row old
  · obtain rfl := mem_singleton.mp new
    exact FieldEnv.completeFields_revalidates before.named created completed

theorem Db.StoredSound.update {instanceId : Id} {input : UpdateEntityInput} {row : EntityInstance}
    (before : db.StoredSound env.zod)
    (ran : (updateEntity env.rules tenantId instanceId input supply).exec db = .ok (row, db')) :
    db'.StoredSound env.zod := by
  obtain ⟨existing, found, ⟨rfl, -⟩ | ⟨fields, changed, workflowId, edited⟩⟩ :=
    updateEntity_cases ran
  · exact before
  have evolves := Evolves.of_map edited.effect.instances fun row =>
    .ite (.apply input fields supply.now) _ row
  refine ⟨edited.effect.definitions.fieldsNamed before.named, evolves.keyed before.keyed,
    fun row' mem => edited.effect.definitions.revalidates ?_⟩
  rcases edited.row_cases mem with old | ⟨old, memOld, chosen, rfl⟩
  · exact before.rows row' old
  · obtain ⟨named, own⟩ := Bool.and_eq_true_iff.mp chosen
    obtain rfl := before.keyed.eq memOld (mem_of_find?_eq_some found) (eq_of_beq named)
    obtain rfl := eq_of_beq own
    have stored := before.rows old memOld
    have yields := edited.yields
    unfold UpdateEntityInput.Yields at yields
    split at yields
    next =>
      obtain ⟨made, rfl, accepted⟩ := yields
      change db.Revalidates env.zod old.tenantId old.entityTypeId made
      exact FieldEnv.makes_revalidates before.named stored (EditRules.updateFields_ok accepted).1
    next =>
      subst yields
      exact stored

theorem RecordWrite.sound {write : RecordWrite} (before : db.StoredSound zod) :
    (write.commit zod db).StoredSound zod := by
  cases write with
  | createEntity env tenantId input supply =>
    exact Tx.commit_of before fun ran => Db.StoredSound.create before ran
  | updateEntity env tenantId instanceId input supply =>
    exact Tx.commit_of before fun ran => Db.StoredSound.update before ran

end Writes

/-! ## Editing a stored record -/

structure Db.UntouchedPass (db : Db) (zod : Zod) (row : EntityInstance) (provided : Fields) :
    Prop where
  computed : ∀ f ∈ db.fieldsOf row.tenantId row.entityTypeId, f.computed = true →
    row.fields.get f.name = none
  team : ∀ f ∈ db.fieldsOf row.tenantId row.entityTypeId, f.name = teamKey →
    provided.get teamKey = none → (f.entry zod .create).Accepts (row.fields.get teamKey)

def FieldEnv.Accepts (env : FieldEnv) (db : Db) (row : EntityInstance) (provided merged : Fields) :
    Prop :=
  env.editRules.mergeProvided db row.tenantId row provided = .ok (.ok merged)

def FieldEnv.Passes (env : FieldEnv) (db : Db) (row : EntityInstance) (merged : Fields) : Prop :=
  ∃ validated, env.editRules.validateMerged db row.tenantId row
    (db.parentId row.tenantId row.id).isSome merged = .ok validated

theorem FieldEnv.passes_iff {env : FieldEnv} {db : Db} {row : EntityInstance} {merged : Fields} :
    env.Passes db row merged ↔ (db.parentId row.tenantId row.id).isSome ∨
      ∀ f ∈ db.fieldsOf row.tenantId row.entityTypeId,
        (f.entry env.zod .create).Accepts (merged.get f.name) := by
  unfold Passes EditRules.validateMerged
  cases (db.parentId row.tenantId row.id).isSome with
  | true => exact ⟨fun _ => .inl rfl, fun _ => ⟨merged, rfl⟩⟩
  | false =>
    have parses := @exists_parseFields_iff env.zod
      (sortFields (db.fieldsOf row.tenantId row.entityTypeId)) .create merged
    simp only [mem_sortFields] at parses
    rw [← parses]
    constructor
    · rintro ⟨validated, made⟩
      rw [if_neg Bool.false_ne_true] at made
      obtain ⟨outcome, full, rest⟩ := Except.bind_ok.mp made
      obtain ⟨out, thrown, -⟩ := Except.bind_ok.mp rest
      rw [throwFieldErrors_ok] at thrown
      subst thrown
      exact .inr ⟨out, Except.ok.inj full⟩
    · rintro (absurd_ | ⟨out, parsed⟩)
      · cases absurd_
      · refine ⟨row.fields.merge out, ?_⟩
        rw [if_neg Bool.false_ne_true]
        have full : env.editRules.parseFull db row.tenantId row merged = .ok (.ok out) :=
          congrArg Except.ok parsed
        rw [full]
        rfl

theorem Db.StoredSound.passes_iff {db : Db} {env : FieldEnv} (sound : db.StoredSound env.zod)
    {row : EntityInstance} (stored : row ∈ db.entityInstances) {provided merged : Fields}
    (accepted : env.Accepts db row provided merged) :
    env.Passes db row merged ↔ (db.parentId row.tenantId row.id).isSome ∨
      db.UntouchedPass env.zod row provided := by
  obtain ⟨schema, parsed, loaded, parses, rfl⟩ := EditRules.mergeProvided_ok accepted
  have value := env.editRules_lawful.parses loaded parses
  cases loaded
  have given := exists_parseFields_iff.mp ⟨parsed, parses⟩
  rw [FieldEnv.passes_iff]
  refine or_congr_right ?_
  have merged (f : EntityField) (mem : f ∈ db.fieldsOf row.tenantId row.entityTypeId) :
      (row.fields.merge parsed).get f.name =
        ((provided.get f.name).bind (f.entry env.zod .create).value).or (row.fields.get f.name) := by
    rw [Fields.get_merge, value, sound.named.fieldValue mem]
  constructor
  · intro all
    refine ⟨fun f mem computed => ?_, fun f mem team untouched => ?_⟩
    · have none_ := (EntityField.accepts_computed computed).mp (given f (mem_sortFields.mpr mem))
      have passes := all f mem
      rw [merged f mem, none_] at passes
      exact (EntityField.accepts_computed computed).mp passes
    · have passes := all f mem
      rw [merged f mem, team, untouched] at passes
      exact passes
  · intro untouched f mem
    rw [merged f mem]
    cases provides : provided.get f.name with
    | some v =>
      have takes := given f (mem_sortFields.mpr mem)
      rw [provides] at takes
      obtain ⟨w, made⟩ := takes
      rw [f.entry_parse] at made
      rw [Option.bind_some, Shape.Entry.value_eq_some.mpr made]
      exact ⟨w, f.entry_stable env.zod .create made⟩
    | none =>
      change (f.entry env.zod .create).Accepts (row.fields.get f.name)
      cases computed : f.computed with
      | true => exact (EntityField.accepts_computed computed).mpr (untouched.computed f mem computed)
      | false =>
        by_cases team : f.name = teamKey
        · rw [team] at provides ⊢
          exact untouched.team f mem team provides
        · exact sound.rows row stored f mem computed team

/-- Throughout a run, an edit of a stored record that the partial schema accepts passes
the full one exactly when the stored values of computed fields and of the team do. -/
theorem stored_records_updatable {zod : Zod} {db : Db} {writes : List RecordWrite}
    (sound : db.StoredSound zod) :
    Runs.Always (RecordWrite.step zod) (fun db => ∀ row ∈ db.entityInstances,
      ∀ (env : FieldEnv) (provided merged : Fields), env.zod = zod →
        env.Accepts db row provided merged →
          (env.Passes db row merged ↔ (db.parentId row.tenantId row.id).isSome = true ∨
            db.UntouchedPass zod row provided)) db writes := by
  refine Runs.Always.of_invariant (I := fun db => db.StoredSound zod)
    (fun {db write t} sound stepped => ?_)
    (fun {db} sound row stored env provided merged library accepted => ?_) sound
  · cases stepped
    exact RecordWrite.sound sound
  · subst library
    exact sound.passes_iff stored accepted

/-! ### A stored formula -/

/-- A schema library for types that use no format and no pattern. -/
def bareZod : Zod where
  regExp _ := none
  date _ := false
  datetime _ := false
  guid _ := false
  decimalPlaces _ := 0
  message _ := "Invalid input"

def orderEnv : FieldEnv where
  zod := bareZod
  loadEntityType _ _ _ := .ok "order"
  crossFieldValidators _ _ _ := []
  evaluateFormula _ _ := some .null
  assertTeamInTenant _ _ _ := .ok ()
  enforceMandatory := false

def orderDb : Db where
  entityFields :=
    [{ id := 1, entityTypeId := 1, tenantId := some 1, name := "name", isRequired := true },
      { id := 2, entityTypeId := 1, tenantId := some 1, name := "total", fieldType := .formula
        config := [("expression", .str "fields.price * 2")] }]

def orderCreate : RecordWrite :=
  .createEntity orderEnv 1 { entityTypeId := 1, fields := [("name", .str "first")] }
    ⟨100, 100, fun i => 100 + i⟩

/-- The partial schema accepts a new name, and the full one refuses the record. -/
def orderRefused (db : Db) (row : EntityInstance) : Bool :=
  match orderEnv.editRules.mergeProvided db row.tenantId row [("name", .str "second")] with
  | .ok (.ok merged) =>
    match orderEnv.editRules.validateMerged db row.tenantId row
        (db.parentId row.tenantId row.id).isSome merged with
    | .error _ => true
    | .ok _ => false
  | _ => false

/-- The record that was created with a formula takes no edit. -/
theorem stored_record_refused :
    ¬ Runs.Always (RecordWrite.step bareZod) (fun db => ∀ row ∈ db.entityInstances,
      ∀ (env : FieldEnv) (provided merged : Fields), env.zod = bareZod →
        env.Accepts db row provided merged → env.Passes db row merged) orderDb [orderCreate] := by
  intro always
  have reached : (Runs.run (RecordWrite.step bareZod) orderDb [orderCreate]).any (fun db =>
      db.entityInstances.any fun row => orderRefused db row) = true := by
    decide +kernel
  obtain ⟨db, ran, found⟩ := (Option.any_eq_true _ _).mp reached
  obtain ⟨row, mem, refused⟩ := any_eq_true.mp found
  unfold orderRefused at refused
  split at refused
  next merged accepted =>
    obtain ⟨validated, passes⟩ := always.last ran row mem orderEnv _ merged rfl accepted
    rw [passes] at refused
    cases refused
  next => cases refused

/-- The orders without their formula. -/
def namedDb : Db where
  entityFields :=
    [{ id := 1, entityTypeId := 1, tenantId := some 1, name := "name", isRequired := true }]

theorem namedDb_sound : namedDb.StoredSound bareZod := by
  have named : ([(1, "name")] : List (Id × String)).Nodup := by decide
  exact ⟨named, nodup_nil, fun _ mem => nomatch mem⟩

def namedAccepted (db : Db) (row : EntityInstance) : Bool :=
  (db.fieldsOf row.tenantId row.entityTypeId).all (fun f => !f.computed && f.name != teamKey) &&
    match orderEnv.editRules.mergeProvided db row.tenantId row [("name", .str "second")] with
    | .ok (.ok _) => true
    | _ => false

/-- The record without a formula takes the edit. -/
theorem stored_records_updatable_name :
    ∃ db row merged, Runs.run (RecordWrite.step bareZod) namedDb [orderCreate] = some db ∧
      row ∈ db.entityInstances ∧ orderEnv.Accepts db row [("name", .str "second")] merged ∧
      orderEnv.Passes db row merged := by
  have reached : (Runs.run (RecordWrite.step bareZod) namedDb [orderCreate]).any (fun db =>
      db.entityInstances.any fun row => namedAccepted db row) = true := by
    decide +kernel
  obtain ⟨db, ran, found⟩ := (Option.any_eq_true _ _).mp reached
  obtain ⟨row, mem, accepts⟩ := any_eq_true.mp found
  obtain ⟨plain, accepts⟩ := Bool.and_eq_true_iff.mp accepts
  have untouched : db.UntouchedPass bareZod row [("name", .str "second")] := by
    refine ⟨fun f listed computed => ?_, fun f listed team => ?_⟩
    · have other := (Bool.and_eq_true_iff.mp (all_eq_true.mp plain f listed)).1
      rw [computed] at other
      cases other
    · have other := (Bool.and_eq_true_iff.mp (all_eq_true.mp plain f listed)).2
      rw [team, bne_self_eq_false] at other
      cases other
  split at accepts
  next merged accepted =>
    have updatable := (stored_records_updatable namedDb_sound).last ran row mem orderEnv
      [("name", .str "second")] merged rfl accepted
    exact ⟨db, row, merged, ran, mem, accepted, updatable.mpr (.inr untouched)⟩
  next => cases accepts

end OpenWind
