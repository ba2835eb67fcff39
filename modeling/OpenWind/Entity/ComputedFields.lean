import OpenWind.Entity.Revalidation
import OpenWind.Entity.Lookups
import OpenWind.Lib.Rows

/-!
# Computed fields

The formulas of a type are evaluated once each, in the order of the type's form, over the record
as it is then.  A read of the record evaluates them again over what is stored.
-/

open List Option

namespace OpenWind

open EntityInstance Fields

/-- The expression that is evaluated for a field. -/
def EntityField.formula (field : EntityField) : Option String :=
  if field.fieldType == .formula then field.config.text "expression" else none

def Respects (refers : String → List String) (evaluateFormula : String → Fields → Option Json) :
    Prop :=
  ∀ expression a b, (∀ name ∈ refers expression, Fields.get a name = Fields.get b name) →
    evaluateFormula expression a = evaluateFormula expression b

def Acyclic (refers : String → List String) (fields : List EntityField) : Prop :=
  ∃ rank : EntityField → Nat, ∀ f ∈ fields, ∀ g ∈ fields, ∀ expression ∈ f.formula,
    g.formula.isSome = true → g.name ∈ refers expression → rank g < rank f

def Plain (fields : List EntityField) (name : String) : Prop :=
  ∀ f ∈ fields, f.fieldType = .lookup → f.name ≠ name

/-- The formulas refer to no lookup. -/
def FreeOfLookups (refers : String → List String) (fields : List EntityField) : Prop :=
  ∀ f ∈ fields, ∀ expression ∈ f.formula, ∀ name ∈ refers expression, Plain fields name

instance (fields : List EntityField) (name : String) : Decidable (Plain fields name) :=
  inferInstanceAs (Decidable (∀ f ∈ fields, f.fieldType = .lookup → f.name ≠ name))

instance (refers : String → List String) (fields : List EntityField) :
    Decidable (FreeOfLookups refers fields) :=
  inferInstanceAs (Decidable (∀ f ∈ fields, ∀ expression ∈ f.formula, ∀ name ∈ refers expression,
    Plain fields name))

def Stable (evaluateFormula : String → Fields → Option Json) (fields : List EntityField)
    (stored : Fields) : Prop :=
  ∀ f ∈ fields, ∀ expression ∈ f.formula, stored.get f.name = evaluateFormula expression stored

instance (evaluateFormula : String → Fields → Option Json) (fields : List EntityField)
    (stored : Fields) : Decidable (Stable evaluateFormula fields stored) :=
  inferInstanceAs (Decidable (∀ f ∈ fields, ∀ expression ∈ f.formula, _ = _))

def storedFields (evaluateFormula : String → Fields → Option Json) (fields : List EntityField)
    (data : Fields) (teamId : Option Id) : Fields :=
  FieldEnv.withTeam (applyFormulaFields evaluateFormula (sortFields fields) data) teamId

structure Ordered (refers : String → List String) (fields : List EntityField) (data : Fields)
    (teamId : Option Id) : Prop where
  forward : (sortFields fields).Pairwise fun f g => ∀ expression ∈ f.formula,
    g.formula.isSome = true → g.name ∉ refers expression
  team : ∀ team ∈ teamId, ∀ f ∈ fields, ∀ expression ∈ f.formula, f.name ≠ teamKey ∧
    (teamKey ∈ refers expression → data.get teamKey = some (.str team.text))

/-- `getEntity`: a live record, with its lookups and its formulas worked out. -/
def FieldEnv.getEntity (env : FieldEnv) (order : RowOrder) (db : Db) (tenantId instanceId : Id) :
    Except TxError EntityInstance :=
  match db.entityInstances.find? (EntityInstance.isLive tenantId instanceId) with
  | none => .error (.entity .entityNotFound [("instanceId", .id instanceId)])
  | some row =>
    let allFields := sortFields (db.fieldsOf tenantId row.entityTypeId)
    .ok { row with
      fields := applyFormulaFields env.evaluateFormula allFields
        (resolveLookupFields order db tenantId row.id allFields row.fields) }

/-- The formulas of a stored record have their values, and a read gives what is stored. -/
structure FormulasSettled (env : FieldEnv) (order : RowOrder) (db : Db) (tenantId : Id)
    (row : EntityInstance) : Prop where
  stable : Stable env.evaluateFormula (db.fieldsOf tenantId row.entityTypeId) row.fields
  read : ∃ read, env.getEntity order db tenantId row.id = .ok read ∧
    ∀ name, Plain (db.fieldsOf tenantId row.entityTypeId) name →
      read.fields.get name = row.fields.get name

structure Computes (refers : String → List String) (env : FieldEnv) (order : RowOrder) (db : Db)
    (tenantId : Id) (row : EntityInstance) (data : Fields) (teamId : Option Id) : Prop where
  stored : row.fields =
    storedFields env.evaluateFormula (db.fieldsOf tenantId row.entityTypeId) data teamId
  ordered_iff : Ordered refers (db.fieldsOf tenantId row.entityTypeId) data teamId ↔
    ∀ evaluateFormula, Respects refers evaluateFormula →
      Stable evaluateFormula (db.fieldsOf tenantId row.entityTypeId)
        (storedFields evaluateFormula (db.fieldsOf tenantId row.entityTypeId) data teamId)
  settled : Ordered refers (db.fieldsOf tenantId row.entityTypeId) data teamId →
    FormulasSettled env order db tenantId row

section Formulas

variable {evaluateFormula : String → Fields → Option Json} {refers : String → List String}
  {fields : List EntityField} {f : EntityField} {name : String} {data stored : Fields}
  {teamId : Option Id}

/-! ## One pass -/

theorem applyFormula_eq (values : Fields) : applyFormula evaluateFormula values f =
    match f.formula with
    | some expression => values.put f.name (evaluateFormula expression values)
    | none => values := by
  unfold applyFormula EntityField.formula
  split
  · rfl
  · rfl

theorem Fields.get_put_self (values : Fields) (value : Option Json) :
    (values.put name value).get name = value := by
  cases value with
  | some v => exact get_set_self values name v
  | none => exact get_erase_self values name

theorem Fields.get_put_ne (values : Fields) (value : Option Json) {other : String}
    (different : other ≠ name) : (values.put name value).get other = values.get other := by
  cases value with
  | some v => exact get_set_ne values v different
  | none => exact get_erase_ne values different

theorem applyFormulaFields_other (free : ∀ g ∈ fields, g.formula.isSome → g.name ≠ name) :
    (applyFormulaFields evaluateFormula fields data).get name = data.get name := by
  refine foldlRecOn fields _ (motive := fun values => Fields.get values name = data.get name)
    rfl fun values same g mem => ?_
  rw [applyFormula_eq]
  split
  · next expression formula =>
    have named := free g mem (formula ▸ rfl)
    rw [get_put_ne _ _ named.symm, same]
  · exact same

theorem applyFormulaFields_value {before after : List EntityField} {expression : String}
    (distinct : ((before ++ f :: after).map (·.name)).Nodup)
    (formula : f.formula = some expression) :
    (applyFormulaFields evaluateFormula (before ++ f :: after) data).get f.name =
      evaluateFormula expression (applyFormulaFields evaluateFormula before data) := by
  rw [map_append, map_cons] at distinct
  have later := (nodup_cons.mp (List.nodup_append.mp distinct).2.1).1
  unfold applyFormulaFields
  rw [foldl_append, foldl_cons]
  refine (applyFormulaFields_other fun g mem _ same => ?_).trans ?_
  · exact later (List.mem_map.mpr ⟨g, mem, same⟩)
  · rw [applyFormula_eq, formula]
    exact get_put_self _ _

theorem applyFormulaFields_before {before after : List EntityField}
    (split : sortFields fields = before ++ f :: after)
    (named : ∀ g ∈ fields, ∀ expression ∈ g.formula, g.name ≠ name) :
    (applyFormulaFields evaluateFormula before data).get name = data.get name := by
  refine applyFormulaFields_other fun g mem formula => ?_
  obtain ⟨_, formula⟩ := isSome_iff_exists.mp formula
  have listed : g ∈ sortFields fields := split ▸ mem_append_left _ mem
  exact named g (mem_sortFields.mp listed) _ formula

theorem storedFields_get (other : ∀ team, teamId = some team → name ≠ teamKey) :
    (storedFields evaluateFormula fields data teamId).get name =
      (applyFormulaFields evaluateFormula (sortFields fields) data).get name := by
  cases teamId with
  | none => rfl
  | some team => exact FieldEnv.withTeam_get _ _ (other team rfl)

/-! ## Ordered types -/

theorem stable_of_ordered (distinct : ((sortFields fields).map (·.name)).Nodup)
    (respects : Respects refers evaluateFormula) (acyclic : Acyclic refers fields)
    (ordered : Ordered refers fields data teamId) :
    Stable evaluateFormula fields (storedFields evaluateFormula fields data teamId) := by
  intro f mem expression formula
  obtain ⟨before, after, split⟩ := append_of_mem (mem_sortFields.mpr mem)
  have forward := ordered.forward
  rw [split, pairwise_append, pairwise_cons] at forward
  -- none of the formulas from this one on is referred to
  have seen : ∀ name ∈ refers expression,
      (applyFormulaFields evaluateFormula (before ++ f :: after) data).get name =
        (applyFormulaFields evaluateFormula before data).get name := by
    intro name refersTo
    unfold applyFormulaFields
    rw [foldl_append]
    refine applyFormulaFields_other fun g mem' formula' same => ?_
    subst same
    rcases mem_cons.mp mem' with rfl | later
    · obtain ⟨rank, below⟩ := acyclic
      exact Nat.lt_irrefl _ (below g mem g mem expression formula formula' refersTo)
    · exact forward.2.1.1 g later expression formula formula' refersTo
  rw [storedFields_get fun team given => (ordered.team team given f mem expression formula).1,
    split, applyFormulaFields_value (split ▸ distinct) formula]
  refine respects _ _ _ fun name refersTo => ?_
  by_cases other : ∀ team, teamId = some team → name ≠ teamKey
  · rw [storedFields_get other, split, seen name refersTo]
  · push Not at other
    obtain ⟨team, rfl, rfl⟩ := other
    rw [applyFormulaFields_before split fun g mem expression formula =>
        (ordered.team team rfl g mem expression formula).1,
      (ordered.team team rfl f mem expression formula).2 refersTo]
    exact (get_set_self _ _ _).symm

/-! ## Other types -/

/-- An evaluator that tells whether a field has the given value. -/
def spy (expression name : String) (seen other : Option Json) (x : String) (values : Fields) :
    Option Json :=
  if x = expression then if values.get name = seen then some (.bool true) else none else other

theorem spy_respects {expression : String} (refersTo : name ∈ refers expression)
    (seen other : Option Json) : Respects refers (spy expression name seen other) := by
  intro x a b agree
  unfold spy
  split
  · next same => rw [agree name (same ▸ refersTo)]
  · rfl

theorem spy_self {expression : String} {seen other : Option Json} {values : Fields} :
    spy expression name seen other expression values =
      if values.get name = seen then some (.bool true) else none :=
  if_pos rfl

theorem pairwise_of_split {α : Type} {R : α → α → Prop} {list : List α}
    (each : ∀ before a after, list = before ++ a :: after → ∀ b ∈ after, R a b) :
    list.Pairwise R := by
  induction list with
  | nil => exact Pairwise.nil
  | cons a rest ih =>
    refine Pairwise.cons (each [] a rest rfl) (ih fun before b after eq => ?_)
    exact each (a :: before) b after (congrArg (List.cons a) eq)

theorem ordered_of_stable (distinct : ((sortFields fields).map (·.name)).Nodup)
    (acyclic : Acyclic refers fields)
    (always : ∀ evaluateFormula, Respects refers evaluateFormula →
      Stable evaluateFormula fields (storedFields evaluateFormula fields data teamId)) :
    Ordered refers fields data teamId := by
  have named : ∀ team ∈ teamId, ∀ f ∈ fields, ∀ expression ∈ f.formula, f.name ≠ teamKey := by
    rintro team rfl f mem expression formula same
    have nothing := always (fun _ _ => none) (fun _ _ _ _ => rfl) f mem expression formula
    rw [same] at nothing
    exact some_ne_none _ ((get_set_self _ _ _).symm.trans nothing)
  constructor
  · refine pairwise_of_split fun before f after split g later expression formula formula' => ?_
    intro refersTo
    have listed : f ∈ sortFields fields := split ▸ mem_append_right _ mem_cons_self
    have listed' : g ∈ sortFields fields :=
      split ▸ mem_append_right _ (mem_cons_of_mem _ later)
    rw [mem_sortFields] at listed listed'
    obtain ⟨expression', formula'⟩ := isSome_iff_exists.mp formula'
    -- the later formula gets a value that the record did not have under its name
    obtain ⟨value, new⟩ : ∃ value : Option Json, value ≠ data.get g.name := by
      cases data.get g.name with
      | none => exact ⟨some .null, some_ne_none _⟩
      | some v => exact ⟨none, (some_ne_none v).symm⟩
    have stable := always _ (spy_respects refersTo (data.get g.name) value)
    have differ : expression' ≠ expression := by
      rintro rfl
      obtain ⟨rank, below⟩ := acyclic
      exact Nat.lt_irrefl _ (below g listed' g listed' _ formula' (formula' ▸ rfl) refersTo)
    have gValue := stable g listed' expression' formula'
    have fValue := stable f listed expression formula
    rw [storedFields_get fun team given => named team given f listed expression formula, split,
      applyFormulaFields_value (split ▸ distinct) formula] at fValue
    have unseen : (applyFormulaFields (spy expression g.name (data.get g.name) value) before
        data).get g.name = data.get g.name := by
      refine applyFormulaFields_other fun h mem _ same => ?_
      rw [split, map_append, List.nodup_append] at distinct
      exact distinct.2.2 _ (List.mem_map.mpr ⟨h, mem, rfl⟩) _
        (List.mem_map.mpr ⟨g, mem_cons_of_mem _ later, rfl⟩) same
    rw [spy, if_neg differ] at gValue
    rw [spy_self, spy_self, if_pos unseen, if_neg (gValue.trans_ne new)] at fValue
    cases fValue
  · rintro team rfl f mem expression formula
    refine ⟨named team rfl f mem expression formula, fun refersTo => by_contra fun differs => ?_⟩
    have fValue := always _ (spy_respects refersTo (some (.str team.text)) none) f mem expression
      formula
    have given : (storedFields (spy expression teamKey (some (.str team.text)) none) fields data
        (some team)).get teamKey = some (.str team.text) := get_set_self _ _ _
    obtain ⟨before, after, split⟩ := append_of_mem (mem_sortFields.mpr mem)
    rw [spy_self, if_pos given,
      storedFields_get fun team given => named team given f mem expression formula, split,
      applyFormulaFields_value (split ▸ distinct) formula, spy_self,
      applyFormulaFields_before split (named team rfl), if_neg differs] at fValue
    cases fValue

end Formulas

/-! ## Reading -/

section Calls

variable {refers : String → List String} {env : FieldEnv} {order : RowOrder} {db db' : Db}
  {tenantId instanceId entityTypeId : Id} {row existing : EntityInstance} {supply : EntitySupply}
  {data : Fields} {teamId : Option Id}

theorem lookUp_other {lookups : List ParsedLookup} {name : String}
    (other : ∀ l ∈ lookups, name ≠ l.fieldName) (chosen : String → Option Fields)
    (values : Fields) : (lookUp lookups chosen values).get name = values.get name := by
  refine foldlRecOn _ _ (motive := fun read => Fields.get read name = values.get name) rfl
    fun read same relationType _ => ?_
  cases chosen relationType with
  | none => exact same
  | some target =>
    refine foldlRecOn _ _ (motive := fun read => Fields.get read name = values.get name) same
      fun read same l mem => ?_
    exact (get_set_ne _ _ (other l (mem_of_mem_filter mem))).trans same

theorem resolveLookupFields_other {fields : List EntityField} {name : String}
    (plain : Plain fields name) (values : Fields) :
    (resolveLookupFields order db tenantId instanceId fields values).get name =
      values.get name := by
  rw [resolveLookupFields_eq]
  refine lookUp_other (fun l mem same => ?_) _ _
  obtain ⟨f, listed, parsed⟩ := mem_filterMap.mp mem
  unfold parseLookupField at parsed
  split at parsed
  · cases parsed
  · next lookup =>
    split at parsed
    · cases parsed
      exact plain f listed (by simpa using lookup) same.symm
    · cases parsed

theorem Stable.settled (respects : Respects refers env.evaluateFormula)
    (free : FreeOfLookups refers (db.fieldsOf tenantId row.entityTypeId))
    (stable : Stable env.evaluateFormula (db.fieldsOf tenantId row.entityTypeId) row.fields)
    (found : db.entityInstances.find? (isLive tenantId row.id) = some row) :
    FormulasSettled env order db tenantId row := by
  refine ⟨stable, ?_⟩
  unfold FieldEnv.getEntity
  rw [found]
  refine ⟨_, rfl, ?_⟩
  have plain {name : String} (plain : Plain (db.fieldsOf tenantId row.entityTypeId) name) :
      Plain (sortFields (db.fieldsOf tenantId row.entityTypeId)) name :=
    fun f mem => plain f (mem_sortFields.mp mem)
  refine foldlRecOn _ _ (motive := fun read => ∀ name,
    Plain (db.fieldsOf tenantId row.entityTypeId) name → Fields.get read name = row.fields.get name)
    (fun name free => resolveLookupFields_other (plain free) _) fun read same f mem name free' => ?_
  rw [mem_sortFields] at mem
  rw [applyFormula_eq]
  split
  · next expression formula =>
    by_cases named : name = f.name
    · subst named
      rw [get_put_self, stable f mem expression formula]
      exact respects _ _ _ fun name refersTo =>
        same name (free f mem expression formula name refersTo)
    · rw [get_put_ne _ _ named, same name free']
  · exact same name free'

/-! ## The calls -/

theorem Computes.of_stored (named : db.FieldsNamed) (respects : Respects refers env.evaluateFormula)
    (acyclic : Acyclic refers (db.fieldsOf tenantId row.entityTypeId))
    (free : FreeOfLookups refers (db.fieldsOf tenantId row.entityTypeId))
    (stored : row.fields = storedFields env.evaluateFormula (db.fieldsOf tenantId row.entityTypeId)
      data teamId)
    (found : db.entityInstances.find? (isLive tenantId row.id) = some row) :
    Computes refers env order db tenantId row data teamId := by
  have distinct := named.names tenantId row.entityTypeId
  refine ⟨stored, ⟨fun ordered evaluateFormula respects => ?_, ordered_of_stable distinct acyclic⟩,
    fun ordered => ?_⟩
  · exact stable_of_ordered distinct respects acyclic ordered
  · refine Stable.settled respects free ?_ found
    rw [stored]
    exact stable_of_ordered distinct respects acyclic ordered

theorem find?_appended (unused : db.Unused [row]) (live : row.isLive tenantId row.id) :
    (db.entityInstances ++ [row]).find? (isLive tenantId row.id) = some row := by
  rw [find?_append, find?_eq_none.mpr, none_or, find?_singleton, if_pos live]
  intro old mem live
  exact unused.2 row mem_cons_self old mem (id_of_isLive live)

theorem find?_edited {fields : Option Fields} {input : UpdateEntityInput} {now : Time}
    (found : db.entityInstances.find? (isLive tenantId instanceId) = some existing) :
    (db.entityInstances.map fun r =>
      if isOf tenantId existing.id r then input.apply fields now r else r).find?
        (isLive tenantId existing.id) = some (input.apply fields now existing) := by
  have live := find?_some found
  obtain rfl := id_of_isLive live
  rw [Rows.find?_updated, found, map_some, if_pos (isOf_of_isLive live)]
  intro r
  split
  · rfl
  · rfl

/-- For every accepted call on a record of a type whose formulas refer to each other without cycles
and to no lookup: a call that is given fields stores formulas that are right, and read as stored,
exactly when the type is ordered, and one without keeps them as they were. -/
theorem computed_fields_settled_iff (named : db.FieldsNamed)
    (respects : Respects refers env.evaluateFormula)
    (acyclic : Acyclic refers (db.fieldsOf tenantId entityTypeId))
    (free : FreeOfLookups refers (db.fieldsOf tenantId entityTypeId)) :
    (∀ input supply row db', input.entityTypeId = entityTypeId →
      (createEntity env.rules tenantId input supply).exec db = .ok (row, db') →
        ∃ data, env.createFields db tenantId input = .ok data ∧
          Computes refers env order db' tenantId row data input.teamId) ∧
    ∀ instanceId input supply row db',
      (updateEntity env.rules tenantId instanceId input supply).exec db = .ok (row, db') →
      row.entityTypeId = entityTypeId →
        match input.fields with
        | some _ => ∃ data, Computes refers env order db' tenantId row data none
        | none => ∃ existing ∈ db.entityInstances,
          existing.id = row.id ∧ row.fields = existing.fields ∧
            (FormulasSettled env order db' tenantId row ↔
              Stable env.evaluateFormula (db.fieldsOf tenantId entityTypeId) existing.fields) := by
  refine ⟨?_, ?_⟩
  · rintro input supply row db' rfl ran
    obtain ⟨fields, redacted, state, rfl, checked, -, unused, effect⟩ := createEntity_cases ran
    obtain ⟨data, created, completed, -⟩ := Db.checkCreate_ok checked
    obtain ⟨_, -, completed⟩ := Except.bind_ok.mp completed
    cases completed
    have same := effect.definitions.fieldsOf tenantId input.entityTypeId
    refine ⟨data, created, .of_stored (effect.definitions.fieldsNamed named) respects ?_ ?_ ?_ ?_⟩
    · exact same.symm ▸ acyclic
    · exact same.symm ▸ free
    · exact same.symm ▸ rfl
    · rw [effect.instances]
      refine find?_appended unused ?_
      unfold isLive isOf
      simp [CreateEntityInput.row]
  · rintro instanceId input supply row db' ran rfl
    split
    · next provided asked =>
      obtain ⟨existing, fields, changed, workflowId, found, accepted, edited⟩ :=
        updateEntity_provided asked ran
      obtain ⟨⟨_, _, data, -, -, made, -⟩, -⟩ := EditRules.updateFields_ok accepted
      cases made
      obtain rfl := edited.row_eq
      have same := edited.effect.definitions.fieldsOf tenantId existing.entityTypeId
      refine ⟨data, .of_stored (edited.effect.definitions.fieldsNamed named) respects ?_ ?_ ?_ ?_⟩
      · exact same.symm ▸ acyclic
      · exact same.symm ▸ free
      · exact same.symm ▸ rfl
      · rw [edited.effect.instances]
        exact find?_edited found
    · next bare =>
      obtain ⟨existing, found, done⟩ := updateEntity_bare bare ran
      obtain ⟨id, fields, same, reread⟩ : existing.id = row.id ∧ row.fields = existing.fields ∧
          SameDefinitions db db' ∧
          db'.entityInstances.find? (isLive tenantId row.id) = some row := by
        obtain rfl := id_of_isLive (find?_some found)
        split at done
        · obtain ⟨changed, workflowId, edited⟩ := done
          obtain rfl := edited.row_eq
          refine ⟨rfl, rfl, edited.effect.definitions, ?_⟩
          rw [edited.effect.instances]
          exact find?_edited found
        · obtain ⟨rfl, rfl⟩ := done
          exact ⟨rfl, rfl, SameDefinitions.refl _, found⟩
      have type := same.fieldsOf tenantId row.entityTypeId
      refine ⟨existing, mem_of_find?_eq_some found, id, fields, ?_⟩
      rw [← fields, ← type]
      exact ⟨fun settled => settled.stable, fun stable =>
        stable.settled respects (type.symm ▸ free) reread⟩

end Calls

/-! ### A formula before the one it refers to -/

namespace FormulaSample

def readField (expression : String) : String := String.ofList (expression.toList.drop 7)

def refers (expression : String) : List String := [readField expression]

def env : FieldEnv := { orderEnv with
  evaluateFormula expression values := values.get (readField expression) }

theorem env_respects : Respects refers env.evaluateFormula := fun _ _ _ agree =>
  agree _ mem_cons_self

def order : RowOrder := ⟨id, fun _ => .refl _⟩

def invoices (netOrder totalOrder : Int) : Db where
  entityFields :=
    [{ id := 1, entityTypeId := 1, tenantId := some 1, name := "price", fieldType := .number },
      { id := 2, entityTypeId := 1, tenantId := some 1, name := "net", fieldType := .formula
        config := [("expression", .str "fields.price")], sortOrder := netOrder },
      { id := 3, entityTypeId := 1, tenantId := some 1, name := "total", fieldType := .formula
        config := [("expression", .str "fields.net")], sortOrder := totalOrder }]

def input : CreateEntityInput := { entityTypeId := 1, fields := [("price", .num 5)] }

def create : Tx EntityInstance :=
  createEntity env.rules 1 input ⟨100, 100, fun i => 100 + i⟩

def rank (field : EntityField) : Nat := if field.name = "total" then 1 else 0

end FormulaSample

open FormulaSample in
theorem computed_fields_settled_invoice :
    ∃ row db' data, create.exec (invoices 1 2) = .ok (row, db') ∧
      Computes refers env order db' 1 row data none := by
  have accepted : (create.exec (invoices 1 2)).isOk := by decide +kernel
  have named : (invoices 1 2).FieldsNamed := by
    change ([(1, "price"), (1, "net"), (1, "total")] : List (Id × String)).Nodup
    decide
  cases ran : create.exec (invoices 1 2) with
  | error e =>
    rw [ran] at accepted
    cases accepted
  | ok result =>
    obtain ⟨data, -, computes⟩ := (computed_fields_settled_iff named env_respects
      ⟨rank, by decide +kernel⟩ (by decide +kernel)).1 input _ result.1 result.2 rfl ran
    exact ⟨result.1, result.2, data, rfl, computes⟩

open FormulaSample in
/-- The total is evaluated before the net amount is there. -/
theorem formula_before_its_field :
    Acyclic refers ((invoices 2 1).fieldsOf 1 1) ∧
      FreeOfLookups refers ((invoices 2 1).fieldsOf 1 1) ∧
      ¬ ∀ row db', create.exec (invoices 2 1) = .ok (row, db') →
        FormulasSettled env order db' 1 row := by
  refine ⟨⟨rank, by decide +kernel⟩, by decide +kernel, fun always => ?_⟩
  have stale : (create.exec (invoices 2 1)).toOption.any (fun result =>
      decide ¬ Stable env.evaluateFormula (result.2.fieldsOf 1 result.1.entityTypeId)
        result.1.fields) = true := by
    decide +kernel
  obtain ⟨result, ran, unstable⟩ := (Option.any_eq_true _ _).mp stale
  cases done : create.exec (invoices 2 1) with
  | error e =>
    rw [done] at ran
    cases ran
  | ok result' =>
    rw [done] at ran
    cases ran
    exact of_decide_eq_true unstable (always result.1 result.2 done).stable

end OpenWind
