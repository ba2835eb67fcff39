import OpenWind.Entity.SensitiveFields
import OpenWind.Lib.Lockstep

/-!
# Records that differ in sensitive values

Two stores that are the same but for the values of records under some of their keys.
-/

open List

namespace OpenWind

open Txn Veil Txn.Excused

/-! ## Records and stores -/

/-- The record with other values under the keys that were supplied of it. -/
def EntityInstance.Veiled (supplied : List (Id × String)) (row row' : EntityInstance) : Prop :=
  ∃ fields, row' = { row with fields := fields } ∧
    Alike (fun key => (row.id, key) ∈ supplied) row.fields fields

/-- The store with such records, and with these rows of `entity_fields`. -/
def Veiled (fieldRows : List EntityField) (supplied : List (Id × String)) (db db' : Db) : Prop :=
  db.entityFields = fieldRows ∧ ∃ rows, db' = { db with entityInstances := rows } ∧
    Forall₂ (EntityInstance.Veiled supplied) db.entityInstances rows

/-- The two programs, which return values that are related. -/
abbrev Tx.Veiled {α β : Type} (fieldRows : List EntityField) (supplied : List (Id × String))
    (Q : α → β → Prop) (p : Tx α) (p' : Tx β) : Prop :=
  Lockstep (OpenWind.Veiled fieldRows supplied) Q p p'

theorem EntityInstance.Veiled.refl (supplied : List (Id × String)) (row : EntityInstance) :
    row.Veiled supplied row :=
  ⟨row.fields, rfl, .refl _ _⟩

theorem Veiled.refl (supplied : List (Id × String)) (db : Db) :
    Veiled db.entityFields supplied db db :=
  ⟨rfl, db.entityInstances, rfl, forall₂_same.mpr fun row _ => .refl supplied row⟩

section Stores

variable {fieldRows : List EntityField} {supplied more : List (Id × String)} {db db' : Db}

theorem EntityInstance.Veiled.mono {row row' : EntityInstance} (veiled : row.Veiled supplied row')
    (wider : ∀ entry ∈ supplied, entry ∈ more) : row.Veiled more row' := by
  obtain ⟨fields, same, alike⟩ := veiled
  exact ⟨fields, same, alike.mono fun key mem => wider _ mem⟩

theorem Veiled.mono (veiled : Veiled fieldRows supplied db db')
    (wider : ∀ entry ∈ supplied, entry ∈ more) : Veiled fieldRows more db db' := by
  obtain ⟨typed, rows, same, each⟩ := veiled
  exact ⟨typed, rows, same, each.imp fun _ _ veiled => veiled.mono wider⟩

theorem Veiled.find (veiled : Veiled fieldRows supplied db db') {p : EntityInstance → Bool}
    (blind : ∀ row fields, p { row with fields := fields } = p row) :
    Option.Rel (EntityInstance.Veiled supplied) (db.entityInstances.find? p)
      (db'.entityInstances.find? p) := by
  obtain ⟨typed, rows, rfl, each⟩ := veiled
  dsimp only
  generalize db.entityInstances = rs at each
  induction each with
  | nil => exact .none
  | @cons row row' _ _ here _ ih =>
    obtain ⟨fields, rfl, alike⟩ := here
    have same : p { row with fields := fields } = p row := blind row fields
    by_cases selected : p row = true
    · rw [find?_cons_of_pos selected, find?_cons_of_pos (same.trans selected)]
      exact .some ⟨fields, rfl, alike⟩
    · rw [find?_cons_of_neg selected, find?_cons_of_neg (same ▸ selected)]
      exact ih

theorem Veiled.shared {ρ : Type} {T : Table Db LockKey ρ}
    (rows : ∀ db rs, T.rows { db with entityInstances := rs } = T.rows db)
    (put : ∀ db rs ts,
      T.put { db with entityInstances := rs } ts = { T.put db ts with entityInstances := rs })
    (records : ∀ db ts, (T.put db ts).entityInstances = db.entityInstances)
    (fields : ∀ db ts, (T.put db ts).entityFields = db.entityFields) :
    Shared (Veiled fieldRows supplied) T := by
  constructor
  · intro db db' veiled
    obtain ⟨-, rs, rfl, -⟩ := veiled
    exact (rows db rs).symm
  · intro db db' ts veiled
    obtain ⟨typed, rs, rfl, each⟩ := veiled
    rw [← records db ts] at each
    exact ⟨(fields db ts).trans typed, rs, put db rs ts, each⟩

theorem Veiled.workflows : Shared (Veiled fieldRows supplied) Tables.workflows :=
  Veiled.shared (fun _ _ => rfl) (fun _ _ _ => rfl) (fun _ _ => rfl) fun _ _ => rfl

theorem Veiled.workflowStates : Shared (Veiled fieldRows supplied) Tables.workflowStates :=
  Veiled.shared (fun _ _ => rfl) (fun _ _ _ => rfl) (fun _ _ => rfl) fun _ _ => rfl

theorem Veiled.workflowTransitions : Shared (Veiled fieldRows supplied) Tables.workflowTransitions :=
  Veiled.shared (fun _ _ => rfl) (fun _ _ _ => rfl) (fun _ _ => rfl) fun _ _ => rfl

theorem Veiled.workflowEvents : Shared (Veiled fieldRows supplied) Tables.workflowEvents :=
  Veiled.shared (fun _ _ => rfl) (fun _ _ _ => rfl) (fun _ _ => rfl) fun _ _ => rfl

def fieldsOfType (fieldRows : List EntityField) (tenantId entityTypeId : Id) : List EntityField :=
  fieldRows.filter (EntityField.isOf tenantId entityTypeId)

theorem Veiled.loadEntityFields (tenantId entityTypeId : Id) :
    Tx.Veiled fieldRows supplied
      (fun fields fields' => fields = fieldsOfType fieldRows tenantId entityTypeId ∧
        fields' = fieldsOfType fieldRows tenantId entityTypeId)
      (loadEntityFields tenantId entityTypeId) (loadEntityFields tenantId entityTypeId) := by
  refine Lockstep.read fun db db' veiled => ?_
  obtain ⟨rfl, rows, rfl, -⟩ := veiled
  exact ⟨rfl, rfl⟩

theorem Veiled.outboxEvents : Shared (Veiled fieldRows supplied) Tables.outboxEvents :=
  Veiled.shared (fun _ _ => rfl) (fun _ _ _ => rfl) (fun _ _ => rfl) fun _ _ => rfl

theorem Veiled.updateRecords {p : EntityInstance → Bool} {f f' : EntityInstance → EntityInstance}
    (blind : ∀ row fields, p { row with fields := fields } = p row)
    (changed : ∀ row row', p row → row.Veiled supplied row' → (f row).Veiled supplied (f' row')) :
    Tx.Veiled fieldRows supplied Eq (Tables.entityInstances.update p f)
      (Tables.entityInstances.update p f') := by
  refine Lockstep.write fun db db' veiled => ?_
  rw [Table.modify_selected, Table.modify_selected]
  obtain ⟨typed, rows, rfl, each⟩ := veiled
  refine ⟨typed, rows.map fun row => if p row then f' row else row, rfl, ?_⟩
  apply forall₂_map_left_iff.mpr
  apply forall₂_map_right_iff.mpr
  refine each.imp fun row row' veiled => ?_
  have same : p row' = p row := by
    obtain ⟨fields, rfl, -⟩ := veiled
    exact blind row fields
  rw [same]
  by_cases selected : p row = true
  · rw [if_pos selected, if_pos selected]
    exact changed row row' selected veiled
  · rw [if_neg selected, if_neg selected]
    exact veiled

theorem Veiled.keys (veiled : Veiled fieldRows supplied db db') :
    db.entityInstances.map Tables.entityInstances.key =
      db'.entityInstances.map Tables.entityInstances.key := by
  obtain ⟨typed, rows, rfl, each⟩ := veiled
  dsimp only
  generalize db.entityInstances = rs at each
  induction each with
  | nil => rfl
  | cons here _ ih =>
    obtain ⟨_, rfl, -⟩ := here
    rw [map_cons, map_cons, ih]
    rfl

theorem Veiled.insertRecord {row row' : EntityInstance} (veiled : row.Veiled supplied row')
    (e : TxError) :
    Tx.Veiled fieldRows supplied Eq (Tables.entityInstances.insert e [row])
      (Tables.entityInstances.insert e [row']) := by
  obtain ⟨fields, rfl, alike⟩ := veiled
  refine Lockstep.writeChecked (fun db db' veiled => ?_) fun db db' veiled => ?_
  · have keys := veiled.keys
    have taken : ∀ db : Db, (db.entityInstances.all fun v =>
        Tables.entityInstances.key v != Tables.entityInstances.key row) =
          (db.entityInstances.map Tables.entityInstances.key).all
            (· != Tables.entityInstances.key row) := by
      intro db
      rw [all_map]
      rfl
    unfold Table.fresh
    rw [all_cons, all_nil, all_cons, all_nil]
    exact congrArg _ (congrArg (· && true) ((taken db).trans
      ((congrArg (List.all · _) keys).trans (taken db').symm)))
  · obtain ⟨typed, rows, rfl, each⟩ := veiled
    exact ⟨typed, rows ++ [{ row with fields := fields }], rfl,
      rel_append each (.cons ⟨fields, rfl, alike⟩ .nil)⟩

/-- A value that is not read from the records. -/
theorem Veiled.read {α : Type} {f : Db → α}
    (blind : ∀ db rows, f { db with entityInstances := rows } = f db) :
    Tx.Veiled fieldRows supplied Eq (Prog.read f : Tx α) (Prog.read f : Tx α) := by
  refine Lockstep.read fun db db' veiled => ?_
  obtain ⟨-, rows, rfl, -⟩ := veiled
  exact (blind db rows).symm

end Stores

/-! ## The checks of the fields -/

def TxError.isValidation : TxError → Bool
  | .validation _ => true
  | _ => false

abbrev Checked {α β : Type} (Q : α → β → Prop) (result : Except TxError α)
    (result' : Except TxError β) : Prop :=
  Excused (fun e => e.isValidation = true) Q result result'

/-- The entity types and the teams are not read from the records. -/
structure FieldEnv.Outside (env : FieldEnv) : Prop where
  types : ∀ db rows, env.loadEntityType { db with entityInstances := rows } = env.loadEntityType db
  teams : ∀ db rows,
    env.assertTeamInTenant { db with entityInstances := rows } = env.assertTeamInTenant db

section Checks

variable {env : FieldEnv} {fieldRows : List EntityField} {supplied : List (Id × String)}
  {tenantId : Id} {hidden known : String → Prop} {values values' : Fields}

variable {α β : Type} {input : CreateEntityInput} {existing : EntityInstance}
  {provided provided' stored' : Fields} {child : Bool}

theorem Checked.fieldErrors {Q : α → β → Prop} {result : Except (List FieldError) α}
    {result' : Except (List FieldError) β} (both : ∀ a b, result = .ok a → result' = .ok b → Q a b) :
    Checked Q (throwFieldErrors result) (throwFieldErrors result') := by
  cases result with
  | error errors => exact .left rfl
  | ok a =>
    cases result' with
    | error errors => exact .right rfl
    | ok b => exact .returned (both a b rfl rfl)

theorem parseFields_alike {zod : Zod} {schema : List (String × ValueSchema)}
    (alike : Alike hidden values values') :
    ∀ parsed parsed', parseFields zod schema values = .ok parsed →
      parseFields zod schema values' = .ok parsed' → Alike hidden parsed parsed' := by
  intro parsed parsed' ran ran'
  unfold parseFields at ran ran'
  split at ran
  next made =>
    split at ran'
    next made' =>
      cases ran
      cases ran'
      exact alike.parse made made'
    next => cases ran'
  next => cases ran

theorem FormulasBlind.sort {evaluateFormula : String → Fields → Option Json}
    {fields : List EntityField} (blind : FormulasBlind evaluateFormula fields hidden) :
    FormulasBlind evaluateFormula (sortFields fields) hidden :=
  fun field mem => blind field ((perm_insertionSort _ fields).mem_iff.mp mem)

variable (outside : env.Outside) {db db' : Db}

include outside in
theorem FieldEnv.createFields_alike (veiled : Veiled fieldRows supplied db db')
    (alike : Alike hidden input.fields values') :
    Checked (Alike hidden) (env.createFields db tenantId input)
      (env.createFields db' tenantId { input with fields := values' }) := by
  obtain ⟨-, rows, rfl, -⟩ := veiled
  unfold FieldEnv.createFields
  apply bind_eq
  · exact .of_eq (congrFun (congrFun (outside.types db rows).symm tenantId) input.entityTypeId)
  intro entityType
  apply Excused.bind (Q := fun _ _ => True)
  · exact Checked.fieldErrors fun _ _ _ _ => trivial
  intro _ _ _
  apply Excused.bind (Q := fun schema schema' =>
    schema = parseFields env.zod (buildZodSchema env.zod
      (sortFields (db.fieldsOf tenantId input.entityTypeId)) .create) ∧ schema' = schema)
  · exact .returned ⟨rfl, rfl⟩
  intro schema schema' built
  obtain ⟨rfl, rfl⟩ := built
  apply Excused.bind (Q := Alike hidden)
  · exact Checked.fieldErrors (parseFields_alike alike)
  intro data data' parsed
  apply Excused.bind (Q := fun _ _ => True)
  · exact Checked.fieldErrors fun _ _ _ _ => trivial
  intro _ _ _
  apply Excused.bind (Q := fun _ _ => True)
  · exact Checked.fieldErrors fun _ _ _ _ => trivial
  intro _ _ _
  exact .returned parsed

include outside in
theorem FieldEnv.completeFields_alike {data data' : Fields}
    (veiled : Veiled fieldRows supplied db db') (alike : Alike hidden data data')
    (blind : FormulasBlind env.evaluateFormula (fieldsOfType fieldRows tenantId input.entityTypeId)
      known) (narrower : ∀ name, hidden name → known name)
    (computed : ∀ field ∈ fieldsOfType fieldRows tenantId input.entityTypeId,
      field.fieldType = .formula → known field.name → hidden field.name) :
    Checked (Alike hidden) (env.completeFields db tenantId input data)
      (env.completeFields db' tenantId { input with fields := values' } data') := by
  obtain ⟨rfl, rows, rfl, -⟩ := veiled
  unfold FieldEnv.completeFields
  apply bind_eq
  · apply Excused.of_eq
    unfold FieldEnv.checkTeam
    dsimp only
    cases input.teamId with
    | none => rfl
    | some team => exact congrFun (congrFun (outside.teams db rows).symm tenantId) team
  intro _
  apply returned
  have made := blind.sort.apply narrower
    (fun field mem => computed field ((perm_insertionSort _ _).mem_iff.mp mem)) alike
  unfold FieldEnv.withTeam
  dsimp only
  cases input.teamId with
  | none => exact made
  | some team => exact Fields.set_alike made fun _ => rfl

theorem reportMissing_checked {enforce : Bool} {missing missing' : List FieldError} :
    Checked (fun _ _ => True) (reportMissing enforce missing) (reportMissing enforce missing') := by
  unfold reportMissing
  split
  · split
    · exact .returned trivial
    · exact .right rfl
  · exact .left rfl

def CreateEntityInput.checkDueDate (input : CreateEntityInput) (now : Time) : Except TxError Unit :=
  match input.dueDate with
  | none => .ok ()
  | some dueDate => validateDueDateOnCreate dueDate now

def Db.checkWorkflow (db : Db) (tenantId : Id) (input : CreateEntityInput) : Except TxError Unit :=
  match input.workflowId with
  | none => .ok ()
  | some workflowId => db.assertWorkflowMatchesType tenantId workflowId input.entityTypeId

def Db.checkMandatory (db : Db) (enforce : Bool) (tenantId : Id) (input : CreateEntityInput)
    (severity : Option String) (fields : Fields) : Except TxError Unit :=
  if input.workflowId.isSome || db.entityTypeHasWorkflow tenantId input.entityTypeId then
    checkMandatoryFields enforce ⟨fields.get "title", input.dueDate, input.remark, severity⟩
  else .ok ()

theorem Db.checkCreate_eq (db : Db) (rules : FieldRules) (tenantId : Id)
    (input : CreateEntityInput) (severity : Option String) (now : Time) :
    db.checkCreate rules tenantId input severity now = do
      let validated ← rules.create db tenantId input
      input.checkDueDate now
      let fields ← rules.complete db tenantId input validated
      db.checkWorkflow tenantId input
      db.checkMandatory rules.enforceMandatory tenantId input severity fields
      return fields := by
  unfold Db.checkCreate CreateEntityInput.checkDueDate Db.checkWorkflow Db.checkMandatory
  refine bind_congr fun validated => ?_
  cases input.dueDate with
  | none =>
    refine bind_congr fun fields => ?_
    cases input.workflowId with
    | none =>
      dsimp only
      split
      · rfl
      · rfl
    | some workflowId => rfl
  | some dueDate =>
    refine bind_congr fun _ => bind_congr fun fields => ?_
    cases input.workflowId with
    | none =>
      dsimp only
      split
      · rfl
      · rfl
    | some workflowId => rfl

include outside in
theorem FieldEnv.checkCreate_alike (severity : Option String) (now : Time)
    (veiled : Veiled fieldRows supplied db db') (alike : Alike hidden input.fields values')
    (blind : FormulasBlind env.evaluateFormula (fieldsOfType fieldRows tenantId input.entityTypeId)
      known) (narrower : ∀ name, hidden name → known name)
    (computed : ∀ field ∈ fieldsOfType fieldRows tenantId input.entityTypeId,
      field.fieldType = .formula → known field.name → hidden field.name) :
    Checked (Alike hidden) (db.checkCreate env.rules tenantId input severity now)
      (db'.checkCreate env.rules tenantId { input with fields := values' } severity now) := by
  rw [Db.checkCreate_eq, Db.checkCreate_eq]
  apply Excused.bind (env.createFields_alike outside veiled alike)
  intro data data' validated
  apply bind_eq (.of_eq rfl)
  intro _
  apply Excused.bind (env.completeFields_alike outside veiled validated blind narrower computed)
  intro fields fields' made
  obtain ⟨-, rows, rfl, -⟩ := veiled
  apply bind_eq (.of_eq rfl)
  intro _
  apply Excused.bind (Q := fun _ _ => True)
  · unfold Db.checkMandatory checkMandatoryFields
    split
    next reached =>
      rw [if_pos (by exact reached)]
      exact reportMissing_checked
    next unreached =>
      rw [if_neg (by exact unreached)]
      exact .returned trivial
  intro _ _ _
  exact .returned made

theorem Except.map_ok {ε α β : Type} {result : Except ε α} {f : α → β} {b : β} :
    result.map f = .ok b ↔ ∃ a, result = .ok a ∧ f a = b := by
  cases result with
  | error e => simp [Except.map]
  | ok a => simp [Except.map]

theorem FieldEnv.mergeProvided_alike (veiled : Veiled fieldRows supplied db db')
    (stored : Alike hidden existing.fields stored') (alike : Alike hidden provided provided') :
    Checked (fun merged merged' => ∀ a a', merged = .ok a → merged' = .ok a' → Alike hidden a a')
      (env.editRules.mergeProvided db tenantId existing provided)
      (env.editRules.mergeProvided db' tenantId { existing with fields := stored' } provided') := by
  obtain ⟨-, rows, rfl, -⟩ := veiled
  unfold EditRules.mergeProvided
  split
  next =>
    split
    · exact .returned fun _ _ refused => by cases refused
    · exact .returned fun _ _ refused => by cases refused
  next =>
    split
    · exact .returned fun _ _ _ refused => by cases refused
    · apply returned
      intro a a' made made'
      obtain ⟨parsed, ran, rfl⟩ := Except.map_ok.mp made
      obtain ⟨parsed', ran', rfl⟩ := Except.map_ok.mp made'
      exact Fields.merge_alike stored (parseFields_alike alike _ _ ran ran')

theorem FieldEnv.validateMerged_alike {stored' merged merged' : Fields}
    (veiled : Veiled fieldRows supplied db db') (stored : Alike hidden existing.fields stored')
    (alike : Alike hidden merged merged') :
    Checked (Alike hidden) (env.editRules.validateMerged db tenantId existing child merged)
      (env.editRules.validateMerged db' tenantId { existing with fields := stored' } child
        merged') := by
  obtain ⟨-, rows, rfl, -⟩ := veiled
  unfold EditRules.validateMerged
  cases child with
  | true => exact .returned alike
  | false =>
    apply Excused.bind (Q := fun full full' => ∀ a a', full = .ok a → full' = .ok a' →
      Alike hidden a a')
    · exact .returned (parseFields_alike alike)
    intro full full' parsed
    apply Excused.bind (Checked.fieldErrors parsed)
    intro data data' alike
    exact .returned (Fields.merge_alike stored alike)

include outside in
theorem FieldEnv.updateFields_alike (veiled : Veiled fieldRows supplied db db')
    (stored : Alike hidden existing.fields stored') (alike : Alike hidden provided provided')
    (blind : FormulasBlind env.evaluateFormula
      (fieldsOfType fieldRows tenantId existing.entityTypeId) known)
    (narrower : ∀ name, hidden name → known name)
    (computed : ∀ field ∈ fieldsOfType fieldRows tenantId existing.entityTypeId,
      field.fieldType = .formula → known field.name → hidden field.name) :
    Checked (Alike hidden) (env.rules.update db tenantId existing child provided)
      (env.rules.update db' tenantId { existing with fields := stored' } child provided') := by
  have rulesUpdate : env.rules.update = env.editRules.updateFields := rfl
  rw [rulesUpdate]
  unfold EditRules.updateFields
  apply Excused.bind (env.mergeProvided_alike veiled stored alike)
  intro merged merged' both
  apply Excused.bind (Checked.fieldErrors both)
  intro merged merged' alike
  apply Excused.bind (env.validateMerged_alike veiled stored alike)
  intro validated validated' alike
  obtain ⟨rfl, rows, rfl, -⟩ := veiled
  apply bind_eq
  · exact .of_eq (congrFun (congrFun (outside.types db rows).symm tenantId) existing.entityTypeId)
  intro entityType
  apply Excused.bind (Q := fun _ _ => True)
  · exact Checked.fieldErrors fun _ _ _ _ => trivial
  intro _ _ _
  apply Excused.bind (Q := fun _ _ => True)
  · exact Checked.fieldErrors fun _ _ _ _ => trivial
  intro _ _ _
  apply returned
  exact blind.sort.apply narrower
    (fun field mem => computed field ((perm_insertionSort _ _).mem_iff.mp mem)) alike

end Checks

end OpenWind
