import OpenWind.Entity.BulkUpdate

/-!
# The rows that the operations store

For invariants of the records: which rows an operation leaves, and which checks it
made of them.  `createEntity_cases`, `bulkCreateEntities_cases` and
`updateEntity_cases` say this of the operations on one record; here are
-/

open List Txn.Prog

namespace OpenWind

open Txn

/-! ## New records -/

variable {db : Db} {rules : FieldRules} {tenantId : Id} {input : CreateEntityInput}
  {severity : Option String} {fields : Fields} {supply : EntitySupply} {row : EntityInstance}

/-- What is checked of a new record once its fields were parsed. -/
theorem Db.checkCreate_completed {validated fields : Fields} (checked : (do
      let stored ← rules.complete db tenantId input validated
      match input.workflowId with
      | none => pure ()
      | some workflowId => db.assertWorkflowMatchesType tenantId workflowId input.entityTypeId
      if input.workflowId.isSome || db.entityTypeHasWorkflow tenantId input.entityTypeId then
        checkMandatoryFields rules.enforceMandatory
          ⟨stored.get "title", input.dueDate, input.remark, severity⟩
      else pure ()
      return stored) = Except.ok fields) :
    rules.complete db tenantId input validated = .ok fields ∧
      (input.workflowId.isSome →
        checkMandatoryFields rules.enforceMandatory
          ⟨fields.get "title", input.dueDate, input.remark, severity⟩ = .ok ()) := by
  obtain ⟨stored, completed, rest⟩ := Except.bind_ok.mp checked
  cases attached : input.workflowId with
  | none =>
    refine ⟨?_, fun absent => by cases absent⟩
    simp only [attached] at rest
    split at rest
    · obtain ⟨_, -, returned⟩ := Except.bind_ok.mp rest
      cases returned
      exact completed
    · cases rest
      exact completed
  | some workflowId =>
    simp only [attached] at rest
    obtain ⟨_, -, rest⟩ := Except.bind_ok.mp rest
    rw [if_pos (by rfl)] at rest
    obtain ⟨_, mandatory, returned⟩ := Except.bind_ok.mp rest
    cases returned
    exact ⟨completed, fun _ => mandatory⟩

/-- A new record's fields were parsed, checked and completed, and it has the mandatory
values when its type has a workflow. -/
theorem Db.checkCreate_ok {now : Time}
    (checked : db.checkCreate rules tenantId input severity now = .ok fields) :
    ∃ validated, rules.create db tenantId input = .ok validated ∧
      rules.complete db tenantId input validated = .ok fields ∧
      (input.workflowId.isSome →
        checkMandatoryFields rules.enforceMandatory
          ⟨fields.get "title", input.dueDate, input.remark, severity⟩ = .ok ()) := by
  unfold Db.checkCreate at checked
  obtain ⟨validated, created, rest⟩ := Except.bind_ok.mp checked
  refine ⟨validated, created, ?_⟩
  -- the due date's check, when there is one, comes first
  dsimp only at rest
  split at rest
  · exact Db.checkCreate_completed rest
  · exact Db.checkCreate_completed (Except.bind_ok.mp rest).choose_spec.2

theorem bulkCreateRow_built {index : Nat}
    (built : bulkCreateRow rules db tenantId input supply index = .ok row) :
    db.checkCreate rules tenantId input (some (input.severity.getD defaultTicketSeverity))
        supply.now = .ok row.fields ∧
      row.tenantId = tenantId ∧ row.entityTypeId = input.entityTypeId ∧
      row.workflowId = input.workflowId ∧ row.dueDate = input.dueDate ∧
      row.remark = input.remark ∧
      row.severity = some (input.severity.getD defaultTicketSeverity) := by
  obtain ⟨fields, checked, made⟩ := Except.bind_ok.mp built
  cases made
  exact ⟨checked, rfl, rfl, rfl, rfl, rfl, rfl⟩

/-! ## Edits -/

theorem Edited.row_cases {input : UpdateEntityInput} {existing row row' : EntityInstance}
    {db db' : Db} {fields : Option Fields} {changed : Fields} {workflowId : Option Id}
    (edited : Edited rules tenantId input supply existing row db db' fields changed workflowId)
    (mem : row' ∈ db'.entityInstances) :
    row' ∈ db.entityInstances ∨ ∃ old ∈ db.entityInstances,
      old.isOf tenantId existing.id ∧ row' = input.apply fields supply.now old := by
  rw [edited.effect.instances] at mem
  rcases mem_map.mp mem with ⟨old, memOld, rfl⟩
  by_cases chosen : old.isOf tenantId existing.id = true
  · rw [if_pos chosen]
    exact .inr ⟨old, memOld, chosen, rfl⟩
  · rw [if_neg chosen]
    exact .inl memOld

/-! ## Batches of edits -/

section Bulk

variable {base : FieldRules} {rules : EditRules} {tenantId : Id} {existing : EntityInstance}
  {input : UpdateEntityInput} {supply : EntitySupply} {db db' : Db}

/-- An item passes: its fields are those that the bulk checks make of the ones
provided, and its due date and mandatory values are in order. -/
structure BulkAccepted (base : FieldRules) (rules : EditRules) (tenantId : Id)
    (existing : EntityInstance) (input : UpdateEntityInput) (now : Time) (db : Db)
    (fields : Option Fields) : Prop where
  yields : match input.fields with
    | some provided => ∃ stored, fields = some stored ∧
        rules.bulkFields db tenantId existing provided = .ok (.ok stored)
    | none => fields = none
  checked : bulkCheckEdit base existing input fields now = .ok ()

/-- The rows after an item is written. -/
def Db.bulkRows (db : Db) (tenantId : Id) (existing : EntityInstance) (input : UpdateEntityInput)
    (fields : Option Fields) (now : Time) : List EntityInstance :=
  db.entityInstances.map fun r =>
    if EntityInstance.isOf tenantId existing.id r then input.withoutState.apply fields now r else r

theorem exec_rescheduleEdit_ok {row : EntityInstance} {u : Unit}
    (ran : (rescheduleEdit tenantId existing row input supply).exec db = .ok (u, db')) :
    Quiet db db' := by
  unfold rescheduleEdit at ran
  by_cases mentioned : input.dueDate.isSome = true
  · rw [if_pos mentioned] at ran
    exact exec_rescheduleDueDate_ok ran
  · rw [if_neg mentioned] at ran
    cases ran
    exact .refl _

variable {fields : Option Fields} {result : Except (List FieldError) BulkEdit}

theorem bulkWriteEdit_rows {edit : BulkEdit}
    (ran : (bulkWriteEdit tenantId existing input fields supply).exec db = .ok (edit, db')) :
    Effect db db' (db.bulkRows tenantId existing input fields supply.now) [] := by
  unfold bulkWriteEdit at ran
  simp only [exec_seq_ok, Table.exec_update, Table.exec_find, ok_eq_ok] at ran
  obtain ⟨_, mid, ⟨-, rfl⟩, found, _, ⟨-, rfl⟩, rest⟩ := ran
  have written := effect_modifyInstances (EntityInstance.isOf tenantId existing.id)
    (input.withoutState.apply fields supply.now) db
  cases found with
  | none =>
    cases rest
    exact written
  | some row =>
    simp only [exec_seq_ok, exec_pure, ok_eq_ok] at rest
    obtain ⟨_, _, scheduled, -, rfl⟩ := rest
    exact written.quiet (exec_rescheduleEdit_ok scheduled)

/-- An item changes nothing, or it is accepted and written. -/
theorem bulkApplyEdit_rows
    (ran : (bulkApplyEdit base tenantId existing input fields supply).exec db = .ok (result, db')) :
    db' = db ∨ bulkCheckEdit base existing input fields supply.now = .ok () ∧
      Effect db db' (db.bulkRows tenantId existing input fields supply.now) [] := by
  unfold bulkApplyEdit at ran
  split at ran
  next =>
    cases ran
    exact .inl rfl
  next => cases ran
  next checked =>
    simp only [exec_seq_ok, exec_pure, ok_eq_ok] at ran
    obtain ⟨edit, _, written, -, rfl⟩ := ran
    exact .inr ⟨checked, bulkWriteEdit_rows written⟩

theorem bulkUpdateItem_rows
    (ran : (bulkUpdateItem base rules tenantId existing input supply).exec db = .ok (result, db')) :
    db' = db ∨ ∃ fields, BulkAccepted base rules tenantId existing input supply.now db fields ∧
      Effect db db' (db.bulkRows tenantId existing input fields supply.now) [] := by
  unfold bulkUpdateItem at ran
  cases provided : input.fields with
  | some given =>
    simp only [provided, exec_seq_ok, exec_read, exec_lift_ok, ok_eq_ok] at ran
    obtain ⟨_, _, ⟨rfl, rfl⟩, checked, _, ⟨accepted, rfl⟩, rest⟩ := ran
    cases checked with
    | error errors =>
      cases rest
      exact .inl rfl
    | ok stored =>
      rcases bulkApplyEdit_rows rest with same | ⟨passes, effect⟩
      · exact .inl same
      · refine .inr ⟨some stored, ⟨?_, passes⟩, effect⟩
        rw [provided]
        exact ⟨stored, rfl, accepted⟩
  | none =>
    simp only [provided] at ran
    split at ran
    next =>
      rcases bulkApplyEdit_rows ran with same | ⟨passes, effect⟩
      · exact .inl same
      · refine .inr ⟨none, ⟨?_, passes⟩, effect⟩
        rw [provided]
    next =>
      cases ran
      exact .inl rfl

variable {P : EntityInstance → Prop} {existingRows : List EntityInstance}

def BulkKeeps (base : FieldRules) (rules : EditRules) (tenantId : Id)
    (existingRows : List EntityInstance) (start : Db) (P : EntityInstance → Prop)
    (item : BulkUpdateItem) (now : Time) : Prop :=
  ∀ existing ∈ existingRows, existing.id = item.id → ∀ mid fields, SameDefinitions start mid →
    BulkAccepted base rules tenantId existing item.input now mid fields →
    ∀ row, P row → row.isOf tenantId existing.id = true →
      P (item.input.withoutState.apply fields now row)

theorem bulkUpdateItems_rows {start : Db} {items : List (BulkUpdateItem × Nat)}
    {result : BulkUpdateResult × List OutboxEvent} (same : SameDefinitions start db)
    (keeps : ∀ item ∈ items.map (·.1), BulkKeeps base rules tenantId existingRows start P item
      supply.now)
    (before : ∀ row ∈ db.entityInstances, P row)
    (ran : (bulkUpdateItems base rules tenantId existingRows supply items).exec db =
      .ok (result, db')) :
    SameDefinitions start db' ∧ ∀ row ∈ db'.entityInstances, P row := by
  induction items generalizing db result with
  | nil =>
    cases ran
    exact ⟨same, before⟩
  | cons head rest ih =>
    rw [map_cons, forall_mem_cons] at keeps
    unfold bulkUpdateItems at ran
    split at ran
    next =>
      simp only [exec_seq_ok, exec_pure, ok_eq_ok] at ran
      obtain ⟨⟨_, _⟩, _, later, -, rfl⟩ := ran
      exact ih same keeps.2 before later
    next existing found =>
      simp only [exec_seq_ok] at ran
      obtain ⟨edited, mid, first, ⟨_, _⟩, last, later, done⟩ := ran
      have ended : last = db' := by
        cases edited with
        | error | ok =>
          cases done
          rfl
      subst ended
      rcases bulkUpdateItem_rows first with rfl | ⟨fields, accepted, effect⟩
      · exact ih same keeps.2 before later
      · refine ih (same.trans effect.definitions) keeps.2 (fun row' mem => ?_) later
        rw [effect.instances] at mem
        rcases mem_map.mp mem with ⟨row, memRow, rfl⟩
        have selected := find?_some found
        have named : existing.id = head.1.id := eq_of_beq selected
        by_cases chosen : row.isOf tenantId existing.id = true
        · rw [if_pos chosen]
          exact keeps.1 existing (mem_of_find?_eq_some found) named db fields same accepted
            row (before row memRow) chosen
        · rw [if_neg chosen]
          exact before row memRow

theorem bulkUpdateEntities_rows {items : List BulkUpdateItem} {order : List Nat}
    {result : BulkUpdateResult}
    (keeps : ∀ item ∈ items, BulkKeeps base rules tenantId
      (db.entityInstances.filter (EntityInstance.isRequested tenantId items)) db P item supply.now)
    (before : ∀ row ∈ db.entityInstances, P row)
    (ran : (bulkUpdateEntities base rules tenantId items order supply).exec db =
      .ok (result, db')) :
    SameDefinitions db db' ∧ ∀ row ∈ db'.entityInstances, P row := by
  unfold bulkUpdateEntities at ran
  simp only [exec_seq_ok, Table.exec_filter, exec_pure, ok_eq_ok] at ran
  obtain ⟨_, _, ⟨rfl, rfl⟩, ⟨_, assigned⟩, mid, written, _, _, announced, -, rfl⟩ := ran
  have requested : ∀ item ∈ (order.filterMap fun i => items.zipIdx[i]?).map (·.1), item ∈ items := by
    intro item mem
    obtain ⟨pair, memPair, rfl⟩ := mem_map.mp mem
    obtain ⟨i, -, at_⟩ := mem_filterMap.mp memPair
    have listed := mem_map_of_mem (f := (·.1)) (mem_of_getElem? at_)
    rw [zipIdx_map_fst] at listed
    exact listed
  obtain ⟨same, rows⟩ := bulkUpdateItems_rows (.refl _)
    (fun item mem => keeps item (requested item mem)) before written
  unfold Tx.insertOutbox at announced
  rw [Table.exec_insert_ok] at announced
  obtain ⟨-, rfl⟩ := announced
  exact ⟨same.trans ⟨rfl, rfl, rfl, rfl, rfl, rfl⟩, rows⟩

end Bulk

end OpenWind
