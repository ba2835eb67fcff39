import OpenWind.Entity.Effects

/-!
# Editing many records

`bulkUpdateEntities` validates and writes each item by its own code, against the rows
that one query read before the first write.
-/

open List Txn.Prog

namespace OpenWind

open Txn

/-! ## The checks of the fields -/

inductive SchemaMode
  | create | update
  deriving DecidableEq

abbrev FieldSchema := Fields → Except (List FieldError) Fields

def Fields.merge (fields other : Fields) : Fields :=
  (fields.map fun (key, value) => (key, (other.get key).getD value)) ++
    other.filter fun entry => (fields.get entry.1).isNone

structure EditRules where
  validateReservedFieldNames : Fields → Except (List FieldError) Unit
  getValidationSchema : Db → Id → Id → SchemaMode → Except TxError FieldSchema
  loadEntityType : Db → Id → Id → Except TxError String
  runCrossFieldValidators : String → Fields → List FieldError
  /-- `validateEntityRefs` and `validateUserRefs` on the reference fields provided. -/
  validateRefs : Db → Id → List EntityField → Fields → List FieldError
  applyFormulaFields : List EntityField → Fields → Except TxError Fields

def throwFieldErrors {α : Type} : Except (List FieldError) α → Except TxError α
  | .ok a => .ok a
  | .error errors => .error (.validation errors)

theorem throwFieldErrors_ok {α : Type} {result : Except (List FieldError) α} {a : α} :
    throwFieldErrors result = .ok a ↔ result = .ok a := by
  cases result with
  | ok b => simp [throwFieldErrors]
  | error errors => simp [throwFieldErrors]

def noFieldErrors (errors : List FieldError) : Except (List FieldError) Unit :=
  if errors.isEmpty then .ok () else .error errors

def Db.fieldsOf (db : Db) (tenantId entityTypeId : Id) : List EntityField :=
  db.entityFields.filter (EntityField.isOf tenantId entityTypeId)

namespace EditRules

variable (rules : EditRules) (db : Db) (tenantId : Id) (existing : EntityInstance)

def mergeProvided (provided : Fields) : Except TxError (Except (List FieldError) Fields) :=
  match rules.validateReservedFieldNames provided with
  | .error errors => .ok (.error errors)
  | .ok () => do
    let partialSchema ← rules.getValidationSchema db tenantId existing.entityTypeId .update
    return (partialSchema provided).map existing.fields.merge

def parseFull (merged : Fields) : Except TxError (Except (List FieldError) Fields) := do
  let fullSchema ← rules.getValidationSchema db tenantId existing.entityTypeId .create
  return fullSchema merged

def validateMerged (isChildTicket : Bool) (merged : Fields) : Except TxError Fields :=
  if isChildTicket then .ok merged
  else do
    let full ← throwFieldErrors (← rules.parseFull db tenantId existing merged)
    return existing.fields.merge full

def crossFieldErrors (isChildTicket : Bool) (entityType : String) (validatedFields : Fields) :
    List FieldError :=
  if isChildTicket then [] else rules.runCrossFieldValidators entityType validatedFields

/-- The field checks of `updateEntity`. -/
def updateFields (isChildTicket : Bool) (provided : Fields) : Except TxError Fields := do
  let merged ← throwFieldErrors (← rules.mergeProvided db tenantId existing provided)
  let validatedFields ← rules.validateMerged db tenantId existing isChildTicket merged
  let entityType ← rules.loadEntityType db tenantId existing.entityTypeId
  throwFieldErrors (noFieldErrors (rules.crossFieldErrors isChildTicket entityType validatedFields))
  let allFields := db.fieldsOf tenantId existing.entityTypeId
  throwFieldErrors (noFieldErrors (rules.validateRefs db tenantId allFields provided))
  rules.applyFormulaFields allFields validatedFields

def bulkFields (provided : Fields) : Except TxError (Except (List FieldError) Fields) := do
  match ← rules.mergeProvided db tenantId existing provided with
  | .error errors => return .error errors
  | .ok merged =>
    match ← rules.parseFull db tenantId existing merged with
    | .error errors => return .error errors
    | .ok full =>
      let entityType ← rules.loadEntityType db tenantId existing.entityTypeId
      match noFieldErrors (rules.runCrossFieldValidators entityType full) with
      | .error errors => return .error errors
      | .ok () =>
        let fields ← rules.applyFormulaFields (db.fieldsOf tenantId existing.entityTypeId)
          (existing.fields.merge full)
        return .ok fields

def fieldRules (base : FieldRules) : FieldRules := { base with update := rules.updateFields }

end EditRules

/-! ## One item -/

structure BulkUpdateItem where
  id : Id
  input : UpdateEntityInput

structure BulkEdit where
  row : Option EntityInstance
  assigned : List OutboxEvent

/-- The path has no write of the state. -/
def UpdateEntityInput.withoutState (input : UpdateEntityInput) : UpdateEntityInput :=
  { input with currentState := none }

/-- The identifiers for the rows of one item. -/
def EntitySupply.item (supply : EntitySupply) (index : Nat) : EntitySupply :=
  { supply with id := fun k => supply.id (3 * index + k) }

def rescheduleEdit (tenantId : Id) (existing row : EntityInstance) (input : UpdateEntityInput)
    (supply : EntitySupply) : Tx Unit :=
  if input.dueDate.isSome then
    rescheduleDueDate tenantId row existing.dueDate row.dueDate supply (supply.id 2)
  else return ()

def bulkWriteEdit (tenantId : Id) (existing : EntityInstance) (input : UpdateEntityInput)
    (fields : Option Fields) (supply : EntitySupply) : Tx BulkEdit := do
  Tables.entityInstances.update (EntityInstance.isOf tenantId existing.id)
    (input.withoutState.apply fields supply.now)
  match ← Tables.entityInstances.find (EntityInstance.isOf tenantId existing.id) with
  | none => return ⟨none, []⟩
  | some row =>
    rescheduleEdit tenantId existing row input supply
    return ⟨some row, assignmentOutbox tenantId existing row input supply⟩

/-- The errors of an item's due date and mandatory values. -/
def bulkCheckEdit (rules : FieldRules) (existing : EntityInstance) (input : UpdateEntityInput)
    (fields : Option Fields) (now : Time) : Except TxError Unit :=
  checkEdit rules existing (input.withoutState.apply fields now existing) input now

def bulkApplyEdit (rules : FieldRules) (tenantId : Id) (existing : EntityInstance)
    (input : UpdateEntityInput) (fields : Option Fields) (supply : EntitySupply) :
    Tx (Except (List FieldError) BulkEdit) :=
  match bulkCheckEdit rules existing input fields supply.now with
  | .error (.validation errors) => return .error errors
  | .error e => .fail e
  | .ok () => do
    let edit ← bulkWriteEdit tenantId existing input fields supply
    return .ok edit

def bulkUpdateItem (base : FieldRules) (rules : EditRules) (tenantId : Id)
    (existing : EntityInstance) (input : UpdateEntityInput) (supply : EntitySupply) :
    Tx (Except (List FieldError) BulkEdit) :=
  match input.fields with
  | some provided => do
    let checked ← Prog.read fun db => rules.bulkFields db tenantId existing provided
    match ← Tx.lift checked with
    | .error errors => return .error errors
    | .ok fields => bulkApplyEdit base tenantId existing input (some fields) supply
  | none =>
    if input.assignedTo.isSome || input.dueDate.isSome then
      bulkApplyEdit base tenantId existing input none supply
    else return .ok ⟨some existing, []⟩

/-! ## All items -/

/-- Why an item is refused. -/
inductive BulkUpdateErrorCode
  | entityNotFound
  | validationError (fields : List FieldError)

structure BulkUpdateError where
  index : Nat
  id : Id
  code : BulkUpdateErrorCode

structure BulkUpdateResult where
  updated : List EntityInstance
  errors : List BulkUpdateError

def bulkUpdateItems (base : FieldRules) (rules : EditRules) (tenantId : Id)
    (existingRows : List EntityInstance) (supply : EntitySupply) :
    List (BulkUpdateItem × Nat) → Tx (BulkUpdateResult × List OutboxEvent)
  | [] => return (⟨[], []⟩, [])
  | (item, index) :: rest =>
    match existingRows.find? fun row => row.id == item.id with
    | none => do
      let (result, assigned) ← bulkUpdateItems base rules tenantId existingRows supply rest
      return ({ result with errors := ⟨index, item.id, .entityNotFound⟩ :: result.errors }, assigned)
    | some existing => do
      let edited ← bulkUpdateItem base rules tenantId existing item.input (supply.item index)
      let (result, assigned) ← bulkUpdateItems base rules tenantId existingRows supply rest
      match edited with
      | .error errors =>
        return ({ result with
          errors := ⟨index, item.id, .validationError errors⟩ :: result.errors }, assigned)
      | .ok edit =>
        return ({ result with updated := edit.row.toList ++ result.updated },
          edit.assigned ++ assigned)

def EntityInstance.isRequested (tenantId : Id) (items : List BulkUpdateItem)
    (row : EntityInstance) : Bool :=
  (items.map (·.id)).contains row.id && row.tenantId == tenantId && row.deletedAt == none

def bulkUpdateEntities (base : FieldRules) (rules : EditRules) (tenantId : Id)
    (items : List BulkUpdateItem) (order : List Nat) (supply : EntitySupply) :
    Tx BulkUpdateResult := do
  let existingRows ← Tables.entityInstances.filter (EntityInstance.isRequested tenantId items)
  let (result, assigned) ← bulkUpdateItems base rules tenantId existingRows supply
    (order.filterMap fun i => items.zipIdx[i]?)
  Tx.insertOutbox assigned
  return result

/-! ## What a call leaves alone -/

structure KeepsStates (db db' : Db) : Prop where
  records : ∃ f : EntityInstance → EntityInstance,
    (∀ row, (f row).id = row.id ∧ (f row).tenantId = row.tenantId ∧
      (f row).workflowId = row.workflowId ∧ (f row).currentState = row.currentState) ∧
    Effect db db' (db.entityInstances.map f) []

theorem KeepsStates.of_quiet {db db' : Db} (quiet : Quiet db db') : KeepsStates db db' := by
  refine ⟨id, fun _ => ⟨rfl, rfl, rfl, rfl⟩, ?_⟩
  rw [map_id]
  exact quiet

theorem KeepsStates.refl (db : Db) : KeepsStates db db := .of_quiet (Effect.refl db)

theorem KeepsStates.trans {a b c : Db} (first : KeepsStates a b) (second : KeepsStates b c) :
    KeepsStates a c := by
  obtain ⟨f, same, one⟩ := first.records
  obtain ⟨g, same', two⟩ := second.records
  rw [one.instances, map_map] at two
  refine ⟨g ∘ f, fun row => ?_, one.trans two⟩
  obtain ⟨id, tenant, workflow, state⟩ := same row
  obtain ⟨id', tenant', workflow', state'⟩ := same' (f row)
  exact ⟨id'.trans id, tenant'.trans tenant, workflow'.trans workflow, state'.trans state⟩

/-- The rows to write at the end are no timers. -/
def BulkEdit.NoTimers (edit : BulkEdit) : Prop := ∀ out ∈ edit.assigned, out.timer = none

section Keeps

variable {base : FieldRules} {rules : EditRules} {tenantId : Id} {existing : EntityInstance}
  {input : UpdateEntityInput} {fields : Option Fields} {supply : EntitySupply} {db db' : Db}

theorem bulkWriteEdit_keepsStates {edit : BulkEdit}
    (ran : (bulkWriteEdit tenantId existing input fields supply).exec db = .ok (edit, db')) :
    KeepsStates db db' ∧ edit.NoTimers := by
  unfold bulkWriteEdit at ran
  simp only [exec_seq_ok, Table.exec_update, Table.exec_find, ok_eq_ok] at ran
  obtain ⟨_, mid, ⟨-, rfl⟩, found, _, ⟨-, rfl⟩, rest⟩ := ran
  have written : KeepsStates db (Tables.entityInstances.modify
      (EntityInstance.isOf tenantId existing.id) (input.withoutState.apply fields supply.now) db) := by
    refine ⟨_, fun row => ?_, effect_modifyInstances _ _ db⟩
    by_cases chosen : row.isOf tenantId existing.id = true
    · rw [if_pos chosen]
      exact ⟨rfl, rfl, rfl, rfl⟩
    · rw [if_neg chosen]
      exact ⟨rfl, rfl, rfl, rfl⟩
  cases found with
  | none =>
    cases rest
    exact ⟨written, fun _ mem => absurd mem not_mem_nil⟩
  | some row =>
    simp only [exec_seq_ok, exec_pure, ok_eq_ok] at rest
    obtain ⟨_, _, scheduled, rfl, rfl⟩ := rest
    refine ⟨?_, fun out mem => assignmentOutbox_timer mem⟩
    unfold rescheduleEdit at scheduled
    by_cases mentioned : input.dueDate.isSome = true
    · rw [if_pos mentioned] at scheduled
      exact written.trans (.of_quiet (exec_rescheduleDueDate_ok scheduled))
    · rw [if_neg mentioned] at scheduled
      cases scheduled
      exact written

variable {result : Except (List FieldError) BulkEdit}

theorem bulkApplyEdit_keepsStates
    (ran : (bulkApplyEdit base tenantId existing input fields supply).exec db = .ok (result, db')) :
    KeepsStates db db' ∧ ∀ edit, result = .ok edit → edit.NoTimers := by
  unfold bulkApplyEdit at ran
  split at ran
  next =>
    cases ran
    exact ⟨.refl db, fun _ same => nomatch same⟩
  next => cases ran
  next =>
    simp only [exec_seq_ok, exec_pure, ok_eq_ok] at ran
    obtain ⟨edit, _, written, rfl, rfl⟩ := ran
    obtain ⟨kept, noTimers⟩ := bulkWriteEdit_keepsStates written
    refine ⟨kept, fun other same => ?_⟩
    cases same
    exact noTimers

theorem bulkUpdateItem_keepsStates
    (ran : (bulkUpdateItem base rules tenantId existing input supply).exec db = .ok (result, db')) :
    KeepsStates db db' ∧ ∀ edit, result = .ok edit → edit.NoTimers := by
  unfold bulkUpdateItem at ran
  split at ran
  next provided _ =>
    simp only [exec_seq_ok, exec_read, exec_lift_ok, ok_eq_ok] at ran
    obtain ⟨_, _, ⟨rfl, rfl⟩, checked, _, ⟨-, rfl⟩, rest⟩ := ran
    cases checked with
    | error errors =>
      cases rest
      exact ⟨.refl _, fun _ same => nomatch same⟩
    | ok fields => exact bulkApplyEdit_keepsStates rest
  next =>
    split at ran
    next => exact bulkApplyEdit_keepsStates ran
    next =>
      cases ran
      refine ⟨.refl _, fun edit same => ?_⟩
      cases same
      exact fun _ mem => absurd mem not_mem_nil

theorem bulkUpdateItems_keepsStates {existingRows : List EntityInstance}
    {items : List (BulkUpdateItem × Nat)} {result : BulkUpdateResult} {assigned : List OutboxEvent}
    (ran : (bulkUpdateItems base rules tenantId existingRows supply items).exec db =
      .ok ((result, assigned), db')) :
    KeepsStates db db' ∧ ∀ out ∈ assigned, out.timer = none := by
  induction items generalizing db result assigned with
  | nil =>
    cases ran
    exact ⟨.refl _, fun _ mem => absurd mem not_mem_nil⟩
  | cons head rest ih =>
    unfold bulkUpdateItems at ran
    split at ran
    next =>
      simp only [exec_seq_ok, exec_pure, ok_eq_ok] at ran
      obtain ⟨⟨_, _⟩, _, later, ⟨-, rfl⟩, rfl⟩ := ran
      exact ih later
    next existing _ =>
      simp only [exec_seq_ok] at ran
      obtain ⟨edited, mid, first, ⟨_, others⟩, last, later, done⟩ := ran
      obtain ⟨keptFirst, noTimers⟩ := bulkUpdateItem_keepsStates first
      cases edited with
      | error errors =>
        cases done
        obtain ⟨keptLater, noTimersLater⟩ := ih later
        exact ⟨keptFirst.trans keptLater, noTimersLater⟩
      | ok edit =>
        cases done
        obtain ⟨keptLater, noTimersLater⟩ := ih later
        refine ⟨keptFirst.trans keptLater, fun out mem => ?_⟩
        rcases mem_append.mp mem with own | other
        · exact noTimers edit rfl out own
        · exact noTimersLater out other

theorem bulkUpdateEntities_keepsStates {items : List BulkUpdateItem} {order : List Nat}
    {result : BulkUpdateResult}
    (ran : (bulkUpdateEntities base rules tenantId items order supply).exec db =
      .ok (result, db')) : KeepsStates db db' := by
  unfold bulkUpdateEntities at ran
  simp only [exec_seq_ok, Table.exec_filter, exec_pure, ok_eq_ok] at ran
  obtain ⟨_, _, ⟨-, rfl⟩, ⟨_, assigned⟩, mid, written, _, _, announced, -, rfl⟩ := ran
  obtain ⟨kept, noTimers⟩ := bulkUpdateItems_keepsStates written
  exact kept.trans (.of_quiet (exec_insertOutbox_ok announced noTimers))

end Keeps

end OpenWind
