import OpenWind.Entity.StoredRows
import OpenWind.Entity.ChildRelations
import OpenWind.Entity.Calls

/-!
# Mandatory values

A record of a workflow has a title, a due date, a remark and a severity.  A new record
is refused without them, and an edit when it removes one; both only log it unless the
mode is `enforce`.
-/

open List Txn.Prog

namespace OpenWind

open Txn

/-! ## Complete values -/

structure MandatoryValues.Complete (values : MandatoryValues) : Prop where
  title : blankValue values.title = false
  dueDate : values.dueDate.isSome = true
  remark : blankText values.remark = false
  severity : blankText values.severity = false

variable {values : MandatoryValues} {rules : FieldRules} {existing row : EntityInstance}
  {input : UpdateEntityInput} {now : Time} {db : Db}

theorem MandatoryValues.complete_iff :
    values.Complete ↔ findMissingMandatoryFields values = [] := by
  unfold findMissingMandatoryFields
  constructor
  · intro ⟨title, dueDate, remark, severity⟩
    rw [title, remark, severity, Option.isNone_eq_false_iff.mpr dueDate]
    rfl
  · intro none
    simp only [append_eq_nil_iff, ite_eq_right_iff, cons_ne_nil, imp_false,
      Bool.not_eq_true] at none
    obtain ⟨⟨⟨title, dueDate⟩, remark⟩, severity⟩ := none
    exact ⟨title, Option.isNone_eq_false_iff.mp dueDate, remark, severity⟩

theorem reportMissing_enforced {missing : List FieldError}
    (accepted : reportMissing true missing = .ok ()) : missing = [] := by
  unfold reportMissing at accepted
  by_cases none : missing.isEmpty = true
  · exact List.isEmpty_iff.mp none
  · rw [if_neg (by simpa using none)] at accepted
    cases accepted

theorem checkMandatoryFields_complete (accepted : checkMandatoryFields true values = .ok ()) :
    values.Complete :=
  MandatoryValues.complete_iff.mpr (reportMissing_enforced accepted)

theorem checkMandatoryFieldsOnUpdate_complete {before after : MandatoryValues}
    (complete : before.Complete)
    (accepted : checkMandatoryFieldsOnUpdate true before after = .ok ()) : after.Complete := by
  unfold checkMandatoryFieldsOnUpdate at accepted
  rw [MandatoryValues.complete_iff.mp complete] at accepted
  refine MandatoryValues.complete_iff.mpr ?_
  have none := reportMissing_enforced accepted
  simpa using none

/-! ## Records -/

def EntityInstance.mandatoryValues (row : EntityInstance) : MandatoryValues :=
  ⟨row.fields.get "title", row.dueDate, row.remark, row.severity⟩

def EntityInstance.Complete (row : EntityInstance) : Prop :=
  row.workflowId.isSome = true → row.mandatoryValues.Complete

def Db.MandatoryComplete (db : Db) : Prop := ∀ row ∈ db.entityInstances, row.Complete

theorem checkEdit_complete (enforced : rules.enforceMandatory)
    (attached : existing.workflowId.isSome) (complete : existing.mandatoryValues.Complete)
    (checked : checkEdit rules existing row input now = .ok ()) :
    MandatoryValues.Complete
      ⟨row.fields.get "title", row.dueDate, existing.remark, existing.severity⟩ := by
  have mandatory : checkMandatoryFieldsOnUpdate rules.enforceMandatory existing.mandatoryValues
      ⟨row.fields.get "title", row.dueDate, existing.remark, existing.severity⟩ = .ok () := by
    unfold checkEdit at checked
    rw [if_pos attached] at checked
    dsimp only at checked
    split at checked
    · exact checked
    · exact (Except.bind_ok.mp checked).choose_spec.2
  rw [enforced] at mandatory
  exact checkMandatoryFieldsOnUpdate_complete complete mandatory

theorem UpdateEntityInput.complete_apply {fields : Option Fields}
    (enforced : rules.enforceMandatory) (before : existing.Complete)
    (complete : row.Complete) (same : row.workflowId = existing.workflowId)
    (checked : checkEdit rules existing (input.apply fields now existing) input now = .ok ()) :
    (input.apply fields now row).Complete := by
  intro attached
  change row.workflowId.isSome = true at attached
  have values := complete attached
  rw [same] at attached
  have after := checkEdit_complete enforced attached (before attached) checked
  refine ⟨?_, ?_, values.remark, values.severity⟩
  · cases fields with
    | none => exact values.title
    | some stored => exact after.title
  · cases given : input.dueDate with
    | none =>
      change (input.dueDate.getD row.dueDate).isSome = true
      rw [given]
      exact values.dueDate
    | some dueDate =>
      have kept : (input.dueDate.getD existing.dueDate).isSome := after.dueDate
      change (input.dueDate.getD row.dueDate).isSome = true
      rw [given] at kept ⊢
      exact kept

/-! ## Setting the severity -/

inductive TicketSeverity
  | low | medium | high | critical
  deriving DecidableEq

def TicketSeverity.text : TicketSeverity → String
  | low => "low"
  | medium => "medium"
  | high => "high"
  | critical => "critical"

def EntityInstance.setSeverity (severity : TicketSeverity) (now : Time) (row : EntityInstance) :
    EntityInstance :=
  { row with severity := some severity.text, updatedAt := now }

def setEntityInstanceSeverity (tenantId instanceId : Id) (severity : TicketSeverity)
    (supply : EntitySupply) : Tx (EntityInstance × Option String) := do
  let existing ← Tables.entityInstances.find (EntityInstance.isLive tenantId instanceId)
  let existing ← Prog.getOr existing
    (.entity .entityNotFound [("instanceId", .id instanceId)])
  Tables.entityInstances.update (EntityInstance.isOf tenantId instanceId)
    (EntityInstance.setSeverity severity supply.now)
  return (existing.setSeverity severity supply.now, existing.severity)

theorem TicketSeverity.not_blank (severity : TicketSeverity) :
    blankText (some severity.text) = false := by
  cases severity <;> decide

theorem setEntityInstanceSeverity_rows {tenantId instanceId : Id} {severity : TicketSeverity}
    {supply : EntitySupply} {db db' : Db} {result : EntityInstance × Option String}
    (ran : (setEntityInstanceSeverity tenantId instanceId severity supply).exec db =
      .ok (result, db')) :
    db'.entityInstances = db.entityInstances.map fun r =>
      if r.isOf tenantId instanceId then r.setSeverity severity supply.now else r := by
  unfold setEntityInstanceSeverity at ran
  simp only [exec_seq_ok, exec_getOr_ok, Table.exec_find, Table.exec_update, exec_pure,
    ok_eq_ok] at ran
  obtain ⟨_, _, ⟨rfl, rfl⟩, _, _, ⟨-, rfl⟩, _, _, ⟨-, rfl⟩, -, rfl⟩ := ran
  rfl

/-! ## Runs -/

/-- The operations that write mandatory values. -/
inductive MandatoryCall
  | createEntity (rules : FieldRules) (tenantId : Id) (input : CreateEntityInput)
    (supply : EntitySupply)
  | bulkCreateEntities (rules : FieldRules) (tenantId : Id) (inputs : List CreateEntityInput)
    (supply : EntitySupply)
  | createChildRelation (rules : FieldRules) (tenantId : Id) (input : CreateChildRelationInput)
    (supply : EntitySupply)
  | updateEntity (rules : FieldRules) (tenantId instanceId : Id) (input : UpdateEntityInput)
    (supply : EntitySupply)
  | bulkUpdateEntities (base : FieldRules) (rules : EditRules) (tenantId : Id)
    (items : List BulkUpdateItem) (order : List Nat) (supply : EntitySupply)
  | setEntityInstanceSeverity (tenantId instanceId : Id) (severity : TicketSeverity)
    (supply : EntitySupply)

/-- The store after a call that ran alone. -/
def MandatoryCall.commit (db : Db) : MandatoryCall → Db
  | createEntity rules tenantId input supply =>
    (OpenWind.createEntity rules tenantId input supply).commit db
  | bulkCreateEntities rules tenantId inputs supply =>
    (OpenWind.bulkCreateEntities rules tenantId inputs supply).commit db
  | createChildRelation rules tenantId input supply =>
    (OpenWind.createChildRelation rules tenantId input supply).commit db
  | updateEntity rules tenantId instanceId input supply =>
    (OpenWind.updateEntity rules tenantId instanceId input supply).commit db
  | bulkUpdateEntities base rules tenantId items order supply =>
    (OpenWind.bulkUpdateEntities base rules tenantId items order supply).commit db
  | setEntityInstanceSeverity tenantId instanceId severity supply =>
    (OpenWind.setEntityInstanceSeverity tenantId instanceId severity supply).commit db

def MandatoryCall.step (db : Db) (call : MandatoryCall) : Option Db := some (call.commit db)

def MandatoryCall.Enforces : MandatoryCall → Prop
  | createEntity rules _ _ _ => rules.enforceMandatory = true
  | bulkCreateEntities rules _ _ _ => rules.enforceMandatory = true
  | createChildRelation rules _ _ _ => rules.enforceMandatory = true
  | updateEntity rules _ _ _ _ => rules.enforceMandatory = true
  | bulkUpdateEntities base _ _ _ _ _ => base.enforceMandatory = true
  | setEntityInstanceSeverity _ _ _ _ => True

/-- Every record of a workflow has the mandatory values, and one row. -/
structure Db.MandatorySound (db : Db) : Prop where
  keyed : db.Keyed
  complete : db.MandatoryComplete

section Keeps

variable {db db' : Db} {rules : FieldRules} {tenantId : Id} {supply : EntitySupply}

theorem Db.MandatorySound.append (before : db.MandatorySound) {rows : List EntityInstance}
    (instances : db'.entityInstances = db.entityInstances ++ rows) (unused : db.Unused rows)
    (complete : ∀ row ∈ rows, row.Complete) : db'.MandatorySound := by
  constructor
  · exact (Evolves.of_append instances unused).keyed before.keyed
  · intro row mem
    rw [instances] at mem
    rcases mem_append.mp mem with old | new
    · exact before.complete row old
    · exact complete row new

theorem Db.MandatorySound.map (before : db.MandatorySound) {f : EntityInstance → EntityInstance}
    (instances : db'.entityInstances = db.entityInstances.map f) (ids : ∀ row, (f row).id = row.id)
    (complete : db'.MandatoryComplete) : db'.MandatorySound := by
  have all : db'.entityInstances = db.entityInstances.map f ++ [] := by
    rw [instances, append_nil]
  exact ⟨before.keyed.grow ids all db.unused_nil, complete⟩

variable {input : CreateChildRelationInput} {row : EntityInstance}

theorem Db.MandatorySound.create {input : CreateEntityInput} (before : db.MandatorySound)
    (enforced : rules.enforceMandatory)
    (ran : (createEntity rules tenantId input supply).exec db = .ok (row, db')) :
    db'.MandatorySound := by
  obtain ⟨fields, redacted, state, rfl, checked, -, unused, effect⟩ := createEntity_cases ran
  refine before.append effect.instances unused fun row mem attached => ?_
  obtain rfl := mem_singleton.mp mem
  obtain ⟨_, -, -, mandatory⟩ := Db.checkCreate_ok checked
  rw [enforced] at mandatory
  exact checkMandatoryFields_complete (mandatory attached)

theorem Db.MandatorySound.bulkCreate {inputs : List CreateEntityInput} {result : BulkCreateResult}
    (before : db.MandatorySound) (enforced : rules.enforceMandatory)
    (ran : (bulkCreateEntities rules tenantId inputs supply).exec db = .ok (result, db')) :
    db'.MandatorySound := by
  obtain ⟨-, built, unused, effect⟩ := bulkCreateEntities_cases ran
  refine before.append effect.instances unused fun row mem attached => ?_
  obtain ⟨input, -, index, made⟩ := built row mem
  obtain ⟨checked, -, -, workflow, dueDate, remark, severity⟩ := bulkCreateRow_built made
  obtain ⟨_, -, -, mandatory⟩ := Db.checkCreate_ok checked
  unfold EntityInstance.mandatoryValues
  rw [enforced] at mandatory
  rw [dueDate, remark, severity]
  exact checkMandatoryFields_complete (mandatory (workflow ▸ attached))

theorem CreateChildRelationInput.title (input : CreateChildRelationInput)
    (parent : EntityInstance) :
    (input.fields parent).get "title" = input.childFields.get "title" := by
  unfold CreateChildRelationInput.fields
  rw [Fields.get_set_ne _ _ (by decide), Fields.get_set_ne _ _ (by decide)]
  cases input.teamId with
  | none => rfl
  | some teamId => exact Fields.get_set_ne _ _ (by decide)

theorem createChildRelation_mandatory
    (ran : (createChildRelation rules tenantId input supply).exec db = .ok (row, db')) :
    checkMandatoryFields rules.enforceMandatory
      ⟨input.childFields.get "title", input.dueDate, input.remark,
        some (input.severity.getD defaultTicketSeverity)⟩ = .ok () := by
  unfold createChildRelation at ran
  simp only [exec_seq_ok, exec_read, exec_lift_ok] at ran
  obtain ⟨_, _, -, _, _, -, _, _, ⟨mandatory, -⟩, -⟩ := ran
  exact mandatory

section

variable (before : db.MandatorySound) (enforced : rules.enforceMandatory = true)

include before enforced

theorem Db.MandatorySound.createChild
    (ran : (createChildRelation rules tenantId input supply).exec db = .ok (row, db')) :
    db'.MandatorySound := by
  have mandatory := createChildRelation_mandatory ran
  obtain ⟨parent, workflowId, mid, -, -, -, rfl, unused, effect, -, rfl⟩ :=
    createChildRelation_cases ran
  refine Db.MandatorySound.append before effect.instances unused fun row mem _ => ?_
  obtain rfl := mem_singleton.mp mem
  rw [enforced] at mandatory
  have complete := checkMandatoryFields_complete mandatory
  refine ⟨?_, complete.dueDate, complete.remark, complete.severity⟩
  have title : blankValue (input.childFields.get "title") = false := complete.title
  change blankValue ((input.fields parent).get "title") = false
  rw [input.title parent]
  exact title

theorem Db.MandatorySound.update {instanceId : Id} {input : UpdateEntityInput}
    {row : EntityInstance}
    (ran : (updateEntity rules tenantId instanceId input supply).exec db = .ok (row, db')) :
    db'.MandatorySound := by
  obtain ⟨existing, found, ⟨rfl, -⟩ | ⟨fields, changed, workflowId, edited⟩⟩ :=
    updateEntity_cases ran
  · exact before
  · have stored := mem_of_find?_eq_some found
    refine before.map edited.effect.instances
      (fun row => (SameRecord.ite (.apply input fields supply.now) _ row).id) fun row' mem => ?_
    rcases edited.row_cases mem with old | ⟨old, memOld, chosen, rfl⟩
    · exact before.complete row' old
    · have named : old.id = existing.id := eq_of_beq (Bool.and_eq_true_iff.mp chosen).1
      have same : old.workflowId = existing.workflowId := by
        rw [before.keyed.eq memOld stored named]
      have checked := edited.checked
      rw [edited.row_eq] at checked
      exact UpdateEntityInput.complete_apply enforced (before.complete existing stored)
        (before.complete old memOld) same checked

theorem Db.MandatorySound.bulkUpdate {edits : EditRules} {items : List BulkUpdateItem}
    {order : List Nat} {result : BulkUpdateResult}
    (ran : (bulkUpdateEntities rules edits tenantId items order supply).exec db =
      .ok (result, db')) : db'.MandatorySound := by
  obtain ⟨f, same, effect⟩ := (bulkUpdateEntities_keepsStates ran).records
  refine before.map effect.instances (fun row => (same row).1) fun row mem => ?_
  -- the values are complete, and the record is still of the workflow it was of
  have rows := bulkUpdateEntities_rows (P := fun row => row.Complete ∧
    ∀ old ∈ db.entityInstances, old.id = row.id → row.workflowId = old.workflowId) ?_ ?_ ran
  · exact (rows.2 row mem).1
  · intro item _ existing requested named mid fields _ accepted row ⟨complete, kept⟩ chosen
    have stored := (mem_filter.mp requested).1
    have ofRow : existing.id = row.id := (eq_of_beq (Bool.and_eq_true_iff.mp chosen).1).symm
    exact ⟨UpdateEntityInput.complete_apply enforced (before.complete existing stored) complete
      (kept existing stored ofRow) accepted.checked, kept⟩
  · intro row memRow
    refine ⟨before.complete row memRow, fun old memOld named => ?_⟩
    rw [before.keyed.eq memOld memRow named]

end

theorem Db.MandatorySound.severity {instanceId : Id} {severity : TicketSeverity}
    {result : EntityInstance × Option String} (before : db.MandatorySound)
    (ran : (setEntityInstanceSeverity tenantId instanceId severity supply).exec db =
      .ok (result, db')) : db'.MandatorySound := by
  have instances := setEntityInstanceSeverity_rows ran
  refine before.map instances (fun row => ?_) fun row' mem => ?_
  · by_cases chosen : row.isOf tenantId instanceId = true
    · rw [if_pos chosen]
      rfl
    · rw [if_neg chosen]
  · rw [instances] at mem
    obtain ⟨row, memRow, rfl⟩ := mem_map.mp mem
    have complete := before.complete row memRow
    by_cases chosen : row.isOf tenantId instanceId = true
    · rw [if_pos chosen]
      exact fun attached => ⟨(complete attached).title, (complete attached).dueDate,
        (complete attached).remark, severity.not_blank⟩
    · rw [if_neg chosen]
      exact complete

end Keeps

theorem MandatoryCall.sound {call : MandatoryCall} (before : db.MandatorySound)
    (enforces : call.Enforces) : (call.commit db).MandatorySound := by
  cases call with
  | createEntity => exact Tx.commit_of before (before.create enforces)
  | bulkCreateEntities => exact Tx.commit_of before (before.bulkCreate enforces)
  | createChildRelation => exact Tx.commit_of before (before.createChild enforces)
  | updateEntity => exact Tx.commit_of before (before.update enforces)
  | bulkUpdateEntities => exact Tx.commit_of before (before.bulkUpdate enforces)
  | setEntityInstanceSeverity => exact Tx.commit_of before before.severity

/-- With enforcement on throughout, every record of a workflow has its title, its due
date, its remark and its severity at every moment. -/
theorem mandatory_values_kept {db : Db} {calls : List MandatoryCall}
    (before : db.MandatorySound) (enforced : ∀ call ∈ calls, call.Enforces) :
    Runs.Always MandatoryCall.step Db.MandatoryComplete db calls := by
  refine (Runs.Guarded.of_mem (fun call mem _ => enforced call mem) db).always
    (I := Db.MandatorySound) (fun {db call t} sound enforces stepped => ?_)
    (fun sound => sound.complete) before
  cases stepped
  exact MandatoryCall.sound sound enforces

/-! ### A title that an edit would remove -/

def enforcedRules : FieldRules := { FieldRules.acceptAll with enforceMandatory := true }

/-- A workflow without records. -/
def mandatoryDb : Db where
  workflows := [{ id := 1, tenantId := some 1, entityTypeId := 1, initialState := "open" }]
  workflowStates := [{ id := 1, tenantId := 1, workflowId := 1, name := "open" }]

def mandatorySupply (base : Nat) : EntitySupply := ⟨base, base, fun i => base + i⟩

def mandatoryRun : List MandatoryCall :=
  [.createEntity enforcedRules 1
      { entityTypeId := 1, fields := [("title", .str "Printer")], dueDate := some 900
        remark := some "out of paper", severity := some "low", workflowId := some 1 }
      (mandatorySupply 100),
    .updateEntity enforcedRules 1 100 { fields := some [("title", .str " ")] } (mandatorySupply 200),
    .setEntityInstanceSeverity 1 100 .high (mandatorySupply 300)]

theorem mandatory_values_printer :
    Runs.Always MandatoryCall.step Db.MandatoryComplete mandatoryDb mandatoryRun ∧
      (Runs.run MandatoryCall.step mandatoryDb mandatoryRun).any (fun db =>
        db.entityInstances.any fun row => row.severity == some "high") = true := by
  refine ⟨mandatory_values_kept ⟨nodup_nil, fun _ mem => nomatch mem⟩ ?_, by decide +kernel⟩
  intro call mem
  unfold mandatoryRun at mem
  simp only [mem_cons, not_mem_nil, or_false] at mem
  rcases mem with rfl | rfl | rfl
  · rfl
  · rfl
  · trivial

end OpenWind
