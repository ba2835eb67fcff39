import OpenWind.Entity.Validation
import OpenWind.Lib.ReadThrough

/-!
# The cache of the validation schemas

`getValidationSchema` keeps the field rows of an entity type in a cache, by the type,
the tenant and the mode, and builds the schema from the rows.  The calls that change a
field delete the cached rows of the type and the tenant when they have written theirs,
and return; their transaction commits after that.
-/

open List

namespace OpenWind

open ReadThrough

/-! ## Fields and their changes -/

structure SchemaKey where
  entityTypeId : Id
  tenantId : Id
  mode : SchemaMode
  deriving DecidableEq

structure UpdateEntityFieldInput where
  label : Option String := none
  config : Option Fields := none
  isRequired : Option Bool := none
  sortOrder : Option Int := none
  sensitivity : Option FieldSensitivity := none

def UpdateEntityFieldInput.apply (input : UpdateEntityFieldInput) (field : EntityField) :
    EntityField :=
  { field with
    label := input.label.getD field.label
    config := input.config.getD field.config
    isRequired := input.isRequired.getD field.isRequired
    sortOrder := input.sortOrder.getD field.sortOrder
    sensitivity := input.sensitivity.getD field.sensitivity }

inductive FieldEdit
  | add (field : EntityField)
  | update (fieldId : Id) (input : UpdateEntityFieldInput)
  | delete (fieldId : Id)

/-- A call that changes a field. -/
structure FieldChange where
  tenantId : Id
  entityTypeId : Id
  edit : FieldEdit

def FieldChange.names (change : FieldChange) (fieldId : Id) (field : EntityField) : Bool :=
  field.id == fieldId && field.entityTypeId == change.entityTypeId &&
    field.tenantId == some change.tenantId

def FieldChange.apply (change : FieldChange) (fields : List EntityField) : List EntityField :=
  match change.edit with
  | .add field =>
    fields ++ [{ field with entityTypeId := change.entityTypeId, tenantId := some change.tenantId }]
  | .update fieldId input =>
    fields.map fun field => if change.names fieldId field then input.apply field else field
  | .delete fieldId => fields.filter fun field => !change.names fieldId field

/-- The rows that `getValidationSchema` selects. -/
def selectFields (fields : List EntityField) (key : SchemaKey) : List EntityField :=
  sortFields (fields.filter (EntityField.isOf key.tenantId key.entityTypeId))

def FieldChange.matches (change : FieldChange) (key : SchemaKey) : Bool :=
  key.entityTypeId == change.entityTypeId && key.tenantId == change.tenantId

def schemaSource : Source (List EntityField) SchemaKey (List EntityField) FieldChange where
  view := selectFields
  apply := FieldChange.apply
  touches := FieldChange.matches

/-! ## What a change touches -/

variable {change : FieldChange} {field : EntityField}

theorem FieldChange.isOf_false {key : SchemaKey} (other : change.matches key = false)
    (type : field.entityTypeId = change.entityTypeId)
    (tenant : field.tenantId = some change.tenantId) :
    field.isOf key.tenantId key.entityTypeId = false := by
  unfold EntityField.isOf
  rw [type, tenant]
  unfold FieldChange.matches at other
  by_contra selected
  simp only [Bool.not_eq_false, Bool.and_eq_true, Bool.or_eq_true, beq_iff_eq, reduceCtorEq,
    false_or, Option.some.injEq] at selected
  rw [selected.1, selected.2, beq_self_eq_true, beq_self_eq_true] at other
  cases other

theorem FieldChange.names_iff {fieldId : Id} :
    change.names fieldId field ↔ field.id = fieldId ∧
      field.entityTypeId = change.entityTypeId ∧ field.tenantId = some change.tenantId := by
  unfold names
  simp only [Bool.and_eq_true, beq_iff_eq, and_assoc]

theorem schemaSource_local : schemaSource.Local := by
  intro change fields key other
  change change.matches key = false at other
  change sortFields _ = sortFields _
  refine congrArg sortFields ?_
  unfold schemaSource FieldChange.apply
  dsimp only
  cases change.edit with
  | add field =>
    dsimp only
    rw [filter_append, filter_singleton]
    have unselected : EntityField.isOf key.tenantId key.entityTypeId { field with
        entityTypeId := change.entityTypeId, tenantId := some change.tenantId } = false :=
      FieldChange.isOf_false other rfl rfl
    rw [unselected]
    exact append_nil _
  | update fieldId input =>
    dsimp only
    induction fields with
    | nil => rfl
    | cons field rest ih =>
      rw [map_cons, filter_cons, filter_cons, ih]
      by_cases named : change.names fieldId field = true
      · obtain ⟨-, type, tenant⟩ := FieldChange.names_iff.mp named
        have before := FieldChange.isOf_false other type tenant
        have after : (input.apply field).isOf key.tenantId key.entityTypeId = false :=
          FieldChange.isOf_false other type tenant
        rw [if_pos named, before, after]
        rfl
      · rw [if_neg named]
  | delete fieldId =>
    dsimp only
    rw [filter_filter]
    refine List.filter_congr fun field _ => ?_
    cases named : change.names fieldId field with
    | false => exact Bool.and_true _
    | true =>
      obtain ⟨-, type, tenant⟩ := FieldChange.names_iff.mp named
      rw [FieldChange.isOf_false other type tenant]
      rfl

/-! ## Runs -/

abbrev SchemaState := State (List EntityField) SchemaKey (List EntityField) FieldChange

/-- Every reading that returned has the fields as they were committed when it began or
later, along a run in which a reading puts rows into the cache only while they are
current and no change of their type and tenant has begun to delete keys. -/
theorem schema_cache_fresh {fields : List EntityField}
    {labels : List (Label SchemaKey FieldChange)}
    (guarded : Runs.Guarded (State.step schemaSource) (State.Allowed schemaSource)
      (⟨fields, [], [], []⟩ : SchemaState) labels) :
    Runs.Always (State.step schemaSource) (State.Fresh schemaSource)
      (⟨fields, [], [], []⟩ : SchemaState) labels :=
  fresh_of_guarded schemaSource_local (.init schemaSource fields) guarded

/-! ### A reading between the deletion and the commit -/

def titleField : EntityField := { id := 1, entityTypeId := 1, tenantId := some 1, name := "title" }

def addPriority : FieldChange where
  tenantId := 1
  entityTypeId := 1
  edit := .add { id := 2, entityTypeId := 1, tenantId := some 1, name := "priority" }

def createKey : SchemaKey := ⟨1, 1, .create⟩

/-- A reading that finds nothing in the cache. -/
def readThrough (r : Nat) : List (Label SchemaKey FieldChange) :=
  [.read r createKey, .get r, .load r, .put r]

def clearKeys (keys : List SchemaKey) : List (Label SchemaKey FieldChange) :=
  [.write 0 addPriority, .list 0, .page 0 keys, .listed 0, .delete 0]

/-- The rows that reading 0 put into the cache before the commit are those that reading 1
gets after it. -/
theorem schema_cache_stale :
    ¬ Runs.Always (State.step schemaSource) (State.Fresh schemaSource)
      (⟨[titleField], [], [], []⟩ : SchemaState)
      (clearKeys [] ++ readThrough 0 ++ [.commit 0, .read 1 createKey, .get 1]) := by
  intro always
  have reached : (Runs.run (State.step schemaSource) (⟨[titleField], [], [], []⟩ : SchemaState)
      (clearKeys [] ++ readThrough 0 ++ [.commit 0, .read 1 createKey, .get 1])).any (fun s =>
        s.readers.any fun e => match e.2.reading with
          | .returned value =>
            e.2.since.all fun fields => (selectFields fields e.2.key).length != value.length
          | _ => false) = true := by
    decide +kernel
  obtain ⟨s, ran, found⟩ := (Option.any_eq_true _ _).mp reached
  obtain ⟨e, mem, stale⟩ := any_eq_true.mp found
  split at stale
  next value returned =>
    obtain ⟨fields, seen, view⟩ := always.last ran e mem value returned
    have differs := bne_iff_ne.mp (all_eq_true.mp stale fields seen)
    exact differs (congrArg length view)
  next => cases stale

/-- Without a reading in between, the rows that were cached before the change are gone
after it. -/
theorem schema_cache_fresh_after :
    Runs.Always (State.step schemaSource) (State.Fresh schemaSource)
      (⟨[titleField], [], [], []⟩ : SchemaState)
      (readThrough 0 ++ (clearKeys [createKey] ++ [.commit 0, .read 1 createKey, .get 1, .load 1])) := by
  refine schema_cache_fresh ⟨trivial, fun _ stepped => ?_⟩
  cases stepped
  refine ⟨trivial, fun _ stepped => ?_⟩
  cases stepped
  refine ⟨trivial, fun _ stepped => ?_⟩
  cases stepped
  refine ⟨fun key since value found => ?_, fun s _ => ?_⟩
  · cases found
    exact ⟨rfl, fun _ mem => nomatch mem⟩
  · refine Runs.Guarded.of_mem (fun l mem s => ?_) s
    cases l with
    | put r => simp [clearKeys] at mem
    | _ => trivial

end OpenWind
