import OpenWind.Entity.RealStates

/-!
# The states that rules name

A segregation rule names states, and one that names no state blocks nobody.  A
rule is written only when its states exist, and a state that a rule names is
neither renamed nor deleted.  The canvas save deletes states without that check.
-/

open List Bool

namespace OpenWind

open Txn WorkflowState

def Db.RuleStatesExist (db : Db) : Prop :=
  ∀ t ∈ db.workflowTransitions, ∀ name ∈ ruleStates t.conditions,
    name ∈ db.stateNames t.tenantId t.workflowId

structure KeepsRules (db' : Db) (G : Prop) : Prop where
  keyed : Tables.workflowStates.Keyed db'
  exist_iff : db'.RuleStatesExist ↔ G

theorem Db.ruleStatesExist_iff (db : Db) :
    db.RuleStatesExist ↔ ∀ rule ∈ db.workflowTransitions.map WorkflowTransition.rules,
      ∀ name ∈ ruleStates rule.2.2, name ∈ db.stateNames rule.1 rule.2.1 := by
  rw [forall_mem_map]
  rfl

theorem KeepsRules.same {db db' : Db} (keyed : Tables.workflowStates.Keyed db)
    (before : db.RuleStatesExist) (same : SameStates db db')
    (rules : ∀ t ∈ db'.workflowTransitions, ∃ old ∈ db.workflowTransitions, t.rules = old.rules) :
    KeepsRules db' True := by
  refine ⟨same.keyed keyed, iff_true_intro fun t mem name named => ?_⟩
  obtain ⟨old, memOld, eq⟩ := rules t mem
  obtain ⟨tenant, workflow, conditions⟩ : t.tenantId = old.tenantId ∧
      t.workflowId = old.workflowId ∧ t.conditions = old.conditions := by
    simpa [WorkflowTransition.rules] using eq
  rw [same.stateNames, tenant, workflow]
  exact before old memOld name (conditions ▸ named)

variable {db db' : Db} {stateId tenantId transitionId workflowId : Id} {current : WorkflowState}
  {caller : WorkflowCaller} {u : Unit} {row : WorkflowTransition} {ids : Nat → Id} {α : Type}

/-! ## States -/

theorem Db.mem_stateNames_other (keyed : Tables.workflowStates.Keyed db)
    (found : db.workflowStates.find? (isRow tenantId workflowId stateId) = some current)
    (stay : ∀ st ∈ db.workflowStates, ¬ st.isRow tenantId workflowId stateId →
      st ∈ db'.workflowStates) {tenantId' workflowId' : Id} {name : String}
    (listed : name ∈ db.stateNames tenantId' workflowId')
    (other : tenantId' = tenantId → workflowId' = workflowId → name ≠ current.name) :
    name ∈ db'.stateNames tenantId' workflowId' := by
  obtain ⟨st, mem, own, named⟩ := Db.mem_stateNames.mp listed
  refine Db.mem_stateNames.mpr ⟨st, stay st mem fun selected => ?_, own, named⟩
  obtain rfl := isRow_eq keyed found mem selected
  simp only [isRow, WorkflowState.ofWorkflow, and_eq_true, beq_iff_eq] at own selected
  exact other (own.2.symm.trans selected.2.2) (own.1.symm.trans selected.2.1) named.symm

theorem KeepsRules.withoutState (keyed : Tables.workflowStates.Keyed db)
    (before : db.RuleStatesExist)
    (found : db.workflowStates.find? (isRow tenantId workflowId stateId) =
      some current) (unnamed : db.Unnamed tenantId workflowId current.name)
    (keyed' : Tables.workflowStates.Keyed db')
    (stay : ∀ st ∈ db.workflowStates, ¬ st.isRow tenantId workflowId stateId →
      st ∈ db'.workflowStates) (rules : SameRules db db') : KeepsRules db' True := by
  refine ⟨keyed', iff_true_intro ?_⟩
  rw [Db.ruleStatesExist_iff, show db'.workflowTransitions.map _ = _ from rules]
  intro rule mem name named
  obtain ⟨t, memT, rfl⟩ := mem_map.mp mem
  refine Db.mem_stateNames_other keyed found stay (before t memT name named) ?_
  rintro tenant workflow rfl
  exact unnamed t memT (and_eq_true_iff.mpr ⟨beq_iff_eq.mpr workflow, beq_iff_eq.mpr tenant⟩) named

theorem Db.renameState_rules (db : Db) (tenantId workflowId stateId : Id)
    (input : UpdateWorkflowStateInput) (oldName newName : String) :
    SameRules db (db.renameState tenantId workflowId stateId input oldName newName) := by
  have left := SameRules.modify (fun t => t.ofWorkflow tenantId workflowId && t.fromState == oldName)
    (fun t => { t with fromState := newName }) (fun _ => rfl) db
  have right := SameRules.modify (fun t => t.ofWorkflow tenantId workflowId && t.toState == oldName)
    (fun t => { t with toState := newName }) (fun _ => rfl)
    (Tables.workflowTransitions.modify
      (fun t => t.ofWorkflow tenantId workflowId && t.fromState == oldName)
      (fun t => { t with fromState := newName }) db)
  exact right.trans left

theorem KeepsRules.editState {input : UpdateWorkflowStateInput} {state : WorkflowState}
    (keyed : Tables.workflowStates.Keyed db) (before : db.RuleStatesExist)
    (ran : (updateWorkflowState tenantId workflowId stateId caller input).exec db =
      .ok (state, db')) : KeepsRules db' True := by
  obtain ⟨current, found, ⟨-, same, transitions⟩ | ⟨newName, -, unnamed, rfl⟩⟩ :=
    updateWorkflowState_cases ran
  · exact .same keyed before same fun t mem => ⟨t, transitions ▸ mem, rfl⟩
  · refine .withoutState keyed before found unnamed
      (keyed.modify (isRow tenantId workflowId stateId) fun _ => rfl)
      (fun st mem other => ?_) (db.renameState_rules ..)
    exact mem_map.mpr ⟨st, mem, if_neg other⟩

theorem KeepsRules.deleteState (keyed : Tables.workflowStates.Keyed db)
    (before : db.RuleStatesExist)
    (ran : (deleteWorkflowState tenantId workflowId stateId caller).exec db = .ok (u, db')) :
    KeepsRules db' True := by
  obtain ⟨state, found, unnamed, -, rfl⟩ := deleteWorkflowState_cases ran
  refine .withoutState keyed before found unnamed (keyed.remove _) (fun st mem other => ?_) rfl
  exact mem_filter.mpr ⟨mem, by rw [eq_false_iff.mpr other]; rfl⟩

/-! ## Transitions -/

section

variable (keyed : Tables.workflowStates.Keyed db) (before : db.RuleStatesExist)

include keyed before

theorem KeepsRules.addTransition {input : CreateWorkflowTransitionInput}
    (ran : (addWorkflowTransition tenantId workflowId caller input transitionId).exec db =
      .ok (row, db')) : KeepsRules db' True := by
  obtain ⟨same, known, ⟨tenant, workflow, conditions⟩, rows⟩ := addWorkflowTransition_cases ran
  refine ⟨same.keyed keyed, iff_true_intro fun t mem name named => ?_⟩
  rw [same.stateNames]
  rw [rows] at mem
  rcases mem_append.mp mem with old | new
  · exact before t old name named
  · obtain rfl := mem_singleton.mp new
    rw [tenant, workflow]
    exact Db.mem_stateNames.mpr (known name (conditions ▸ named))

theorem KeepsRules.updateTransition {input : UpdateWorkflowTransitionInput}
    (ran : (updateWorkflowTransition tenantId workflowId transitionId caller input).exec db =
      .ok (row, db')) : KeepsRules db' True := by
  obtain ⟨same, known, rows⟩ := updateWorkflowTransition_cases ran
  refine ⟨same.keyed keyed, iff_true_intro fun t' mem' name named => ?_⟩
  rw [same.stateNames]
  rw [rows] at mem'
  obtain ⟨t, mem, rfl⟩ := mem_map.mp mem'
  by_cases selected : t.isOf tenantId workflowId transitionId = true
  · rw [if_pos selected] at named ⊢
    cases conditions : input.conditions with
    | none =>
      refine before t mem name ?_
      simpa [UpdateWorkflowTransitionInput.apply, conditions] using named
    | some tree =>
      have checked : name ∈ ruleStates input.conditions.join := by
        rw [conditions]
        simpa [UpdateWorkflowTransitionInput.apply, conditions] using named
      simp only [WorkflowTransition.isOf, and_eq_true, beq_iff_eq] at selected
      change name ∈ db.stateNames t.tenantId t.workflowId
      rw [selected.2, selected.1.1]
      exact Db.mem_stateNames.mpr (known name checked)
  · rw [if_neg selected] at named ⊢
    exact before t mem name named

theorem KeepsRules.deleteTransition
    (ran : (deleteWorkflowTransition tenantId workflowId transitionId caller).exec db =
      .ok (u, db')) : KeepsRules db' True := by
  obtain ⟨same, rows⟩ := deleteWorkflowTransition_cases ran
  exact .same keyed before same fun t mem =>
    ⟨t, (mem_filter.mp (rows ▸ mem)).1, rfl⟩

/-! ## The canvas -/

end

def Db.CanvasKeepsNamed (db : Db) (tenantId workflowId : Id) (input : CanvasSave) : Prop :=
  ∀ current, (OpenWind.getWorkflow tenantId workflowId).exec db = .ok (current, db) →
    ∀ t ∈ current.transitions, t.id ∉ (input.deletedTransitions current).map (·.id) →
      ∀ name ∈ ruleStates t.conditions, name ∈ input.namesAfter tenantId workflowId db

theorem CanvasSave.newTransitions_rules (input : CanvasSave) {t : WorkflowTransition}
    (mem : t ∈ input.newTransitions tenantId workflowId ids) : ruleStates t.conditions = [] := by
  obtain ⟨_, -, rfl⟩ := mem_map.mp mem
  rfl

theorem KeepsRules.canvas {auth : AuthContext} {input : CanvasSave} {full : WorkflowFull}
    (keyed : Tables.workflowStates.Keyed db) (before : db.RuleStatesExist)
    (ran : (canvasSave tenantId workflowId auth input ids).exec db = .ok (full, db')) :
    KeepsRules db' (db.CanvasKeepsNamed tenantId workflowId input) := by
  obtain ⟨current, read, fresh, same, rules⟩ := canvasSave_cases ran
  obtain ⟨-, transitions, -⟩ := exec_getWorkflow_ok read
  refine ⟨same.keyed ((keyed.remove _).append fresh), ?_⟩
  rw [Db.ruleStatesExist_iff, rules, forall_mem_map, same.stateNames]
  change (∀ t : WorkflowTransition, t ∈ _ → ∀ name ∈ ruleStates t.conditions,
    name ∈ (input.replaceStates tenantId workflowId ids db).stateNames t.tenantId t.workflowId) ↔ _
  constructor
  · intro after other readOther t mem kept name named
    cases read.symm.trans readOther
    rw [transitions] at mem
    obtain ⟨stored, own⟩ := mem_filter.mp mem
    obtain ⟨workflow, tenant⟩ := and_eq_true_iff.mp own
    have listed := after t (mem_append_left _ (mem_filter.mpr ⟨stored, ?_⟩)) name named
    · rw [eq_of_beq workflow, eq_of_beq tenant, input.stateNames_own] at listed
      exact listed
    · rw [own, Bool.true_and, not_eq_true', eq_false_iff, ne_eq, contains_iff_mem]
      exact kept
  · intro keeps t mem name named
    rcases mem_append.mp mem with old | new
    · obtain ⟨stored, kept⟩ := mem_filter.mp old
      by_cases own : t.workflowId = workflowId ∧ t.tenantId = tenantId
      · have ofWorkflow : t.ofWorkflow tenantId workflowId :=
          and_eq_true_iff.mpr ⟨beq_iff_eq.mpr own.1, beq_iff_eq.mpr own.2⟩
        rw [ofWorkflow, Bool.true_and, not_eq_true', eq_false_iff, ne_eq, contains_iff_mem] at kept
        rw [own.1, own.2, input.stateNames_own]
        exact keeps current read t (transitions ▸ mem_filter.mpr ⟨stored, ofWorkflow⟩) kept
          name named
      · rw [input.stateNames_other ids db own]
        exact before t stored name named
    · rw [input.newTransitions_rules new] at named
      cases named

/-! ## Runs -/

inductive WorkflowEdit
  | addWorkflowTransition (tenantId workflowId : Id) (caller : WorkflowCaller)
    (input : CreateWorkflowTransitionInput) (transitionId : Id)
  | updateWorkflowTransition (tenantId workflowId transitionId : Id) (caller : WorkflowCaller)
    (input : UpdateWorkflowTransitionInput)
  | deleteWorkflowTransition (tenantId workflowId transitionId : Id) (caller : WorkflowCaller)
  | updateWorkflowState (tenantId workflowId stateId : Id) (caller : WorkflowCaller)
    (input : UpdateWorkflowStateInput)
  | deleteWorkflowState (tenantId workflowId stateId : Id) (caller : WorkflowCaller)
  | canvasSave (tenantId workflowId : Id) (auth : AuthContext) (input : CanvasSave) (ids : Nat → Id)

/-- The store after an edit that ran alone. -/
def WorkflowEdit.commit (db : Db) : WorkflowEdit → Db
  | addWorkflowTransition tenantId workflowId caller input transitionId =>
    (OpenWind.addWorkflowTransition tenantId workflowId caller input transitionId).commit db
  | updateWorkflowTransition tenantId workflowId transitionId caller input =>
    (OpenWind.updateWorkflowTransition tenantId workflowId transitionId caller input).commit db
  | deleteWorkflowTransition tenantId workflowId transitionId caller =>
    (OpenWind.deleteWorkflowTransition tenantId workflowId transitionId caller).commit db
  | updateWorkflowState tenantId workflowId stateId caller input =>
    (OpenWind.updateWorkflowState tenantId workflowId stateId caller input).commit db
  | deleteWorkflowState tenantId workflowId stateId caller =>
    (OpenWind.deleteWorkflowState tenantId workflowId stateId caller).commit db
  | canvasSave tenantId workflowId auth input ids =>
    (OpenWind.canvasSave tenantId workflowId auth input ids).commit db

def WorkflowEdit.step (db : Db) (edit : WorkflowEdit) : Option Db := some (edit.commit db)

def WorkflowEdit.KeepsNamed (db : Db) : WorkflowEdit → Prop
  | canvasSave tenantId workflowId auth input ids =>
    (OpenWind.canvasSave tenantId workflowId auth input ids).Commits db →
      db.CanvasKeepsNamed tenantId workflowId input
  | _ => True

theorem KeepsRules.of_commit {p : Tx α} {G : Prop} (keyed : Tables.workflowStates.Keyed db)
    (before : db.RuleStatesExist) (keeps : ∀ {a db'}, p.exec db = .ok (a, db') → KeepsRules db' G) :
    KeepsRules (p.commit db) (p.Commits db → G) := by
  refine ⟨?_, Tx.commit_iff before fun ran => (keeps ran).exist_iff⟩
  rcases p.commit_cases db with ⟨_, -, same⟩ | ⟨_, ran⟩
  · rw [same]
    exact keyed
  · exact (keeps ran).keyed

/-- An edit that checks the rules itself. -/
theorem KeepsRules.of_commit_true {p : Tx α} (keyed : Tables.workflowStates.Keyed db)
    (before : db.RuleStatesExist)
    (keeps : ∀ {a db'}, p.exec db = .ok (a, db') → KeepsRules db' True) :
    KeepsRules (p.commit db) True :=
  ⟨(KeepsRules.of_commit keyed before keeps).keyed,
    (KeepsRules.of_commit keyed before keeps).exist_iff.trans (iff_true_intro fun _ => trivial)⟩

theorem WorkflowEdit.keeps {db : Db} (keyed : Tables.workflowStates.Keyed db)
    (before : db.RuleStatesExist) (edit : WorkflowEdit) :
    KeepsRules (edit.commit db) (edit.KeepsNamed db) := by
  cases edit with
  | addWorkflowTransition => exact .of_commit_true keyed before (.addTransition keyed before)
  | updateWorkflowTransition => exact .of_commit_true keyed before (.updateTransition keyed before)
  | deleteWorkflowTransition => exact .of_commit_true keyed before (.deleteTransition keyed before)
  | updateWorkflowState => exact .of_commit_true keyed before (.editState keyed before)
  | deleteWorkflowState => exact .of_commit_true keyed before (.deleteState keyed before)
  | canvasSave => exact .of_commit keyed before (.canvas keyed before)

/-- Along a run every state that a rule names exists, exactly when every canvas save
that commits leaves the states that its remaining rules name. -/
theorem rule_states_exist {db : Db} {edits : List WorkflowEdit}
    (keyed : Tables.workflowStates.Keyed db) (before : db.RuleStatesExist) :
    Runs.Always WorkflowEdit.step Db.RuleStatesExist db edits ↔
      Runs.Guarded WorkflowEdit.step WorkflowEdit.KeepsNamed db edits := by
  refine Runs.guarded_iff (fun {s l t} keyed before stepped _ => ?_) (fun {s l} keyed before => ?_)
    keyed before
  · cases stepped
    exact (l.keeps keyed before).keyed
  · rw [← (l.keeps keyed before).exist_iff]
    exact ⟨fun after t stepped => Option.some.inj stepped ▸ after, fun all => all _ rfl⟩

/-! ### A named state that the canvas drops -/

def reviewDb : Db where
  workflows := [{ id := 1, tenantId := some 1, entityTypeId := 1, initialState := "open" }]
  workflowStates :=
    [{ id := 1, tenantId := 1, workflowId := 1, name := "open" },
      { id := 2, tenantId := 1, workflowId := 1, name := "review" },
      { id := 3, tenantId := 1, workflowId := 1, name := "closed" }]
  workflowTransitions :=
    [{ id := 5, tenantId := 1, workflowId := 1, fromState := "open", toState := "closed",
       conditions := some (.actorNotPriorActor (some ["review"])) }]

def reviewCanvas (states : List CanvasState) : CanvasSave where
  states := states
  transitions := [{ id := some 5, fromState := "open", toState := "closed" }]

def reviewSave (states : List CanvasState) : WorkflowEdit :=
  .canvasSave 1 1 ⟨"root", ["admin"]⟩ (reviewCanvas states) fun i => 90 + i

def openState : CanvasState := { id := some 1, name := "open", label := "Open" }
def reviewState : CanvasState := { id := some 2, name := "review", label := "Review" }
def closedState : CanvasState := { id := some 3, name := "closed", label := "Closed" }

theorem reviewDb_keyed : Tables.workflowStates.Keyed reviewDb := by
  simp [Table.Keyed, reviewDb]

theorem reviewDb_rules : reviewDb.RuleStatesExist := by
  intro t mem name named
  obtain rfl := mem_singleton.mp mem
  obtain rfl := mem_singleton.mp named
  decide +kernel

/-- The canvas drops the state that the rule names and keeps the rule. -/
theorem rule_states_missing :
    ¬ Runs.Always WorkflowEdit.step Db.RuleStatesExist reviewDb
      [reviewSave [openState, closedState]] := by
  intro always
  have reached : (Runs.run WorkflowEdit.step reviewDb [reviewSave [openState, closedState]]).any
      (fun db => db.workflowTransitions.any fun t => (ruleStates t.conditions).any fun name =>
        decide (name ∉ db.stateNames t.tenantId t.workflowId)) = true := by
    decide +kernel
  obtain ⟨db, ran, found⟩ := (Option.any_eq_true _ _).mp reached
  obtain ⟨t, mem, some⟩ := any_eq_true.mp found
  obtain ⟨name, named, missing⟩ := any_eq_true.mp some
  exact of_decide_eq_true missing (always.last ran t mem name named)

/-- A canvas that drops the last state may be saved. -/
theorem rule_states_exist_review :
    Runs.Always WorkflowEdit.step Db.RuleStatesExist reviewDb
      [reviewSave [openState, reviewState]] := by
  refine (rule_states_exist reviewDb_keyed reviewDb_rules).mpr
    ⟨fun _ current read t mem _ name named => ?_, fun _ _ => trivial⟩
  obtain ⟨-, transitions, -⟩ := exec_getWorkflow_ok read
  rw [transitions] at mem
  obtain rfl := mem_singleton.mp (mem_filter.mp mem).1
  obtain rfl := mem_singleton.mp named
  decide +kernel

end OpenWind
