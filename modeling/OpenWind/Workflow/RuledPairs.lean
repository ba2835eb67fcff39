import OpenWind.Lib.Runs
import OpenWind.Workflow.ActorRuleGate

/-!
# The rules between two states

An actor rule protects the records that go from one state to another, as long as every
transition between the two carries one.  The gate protects each transition that carries a
rule; nothing keeps an unruled one from joining the two states beside it.
-/

open List Option

namespace OpenWind

open Txn

/-- Two states of a workflow, by their names. -/
structure StatePair where
  tenantId : Id
  workflowId : Id
  fromState : String
  toState : String

def StatePair.joins (pair : StatePair) (t : WorkflowTransition) : Bool :=
  t.ofWorkflow pair.tenantId pair.workflowId && t.fromState == pair.fromState &&
    t.toState == pair.toState

variable {pair : StatePair} {t : WorkflowTransition} {db db' : Db} {u : Unit} {edit : RuleEdit}
  {rules : List (Option TransitionConditionTree)} {w : RuleWatch}

theorem StatePair.joins_iff :
    pair.joins t ↔ (t.workflowId = pair.workflowId ∧ t.tenantId = pair.tenantId) ∧
      t.fromState = pair.fromState ∧ t.toState = pair.toState := by
  unfold joins WorkflowTransition.ofWorkflow
  simp only [Bool.and_eq_true, beq_iff_eq, and_assoc]

def StatePair.conditions (pair : StatePair) (transitions : List WorkflowTransition) :
    List (Option TransitionConditionTree) :=
  (transitions.filter pair.joins).map (·.conditions)

/-! ## An edit of the transitions -/

section Edit

variable {old fresh : List WorkflowTransition} {keep : WorkflowTransition → Bool}
  {change : WorkflowTransition → WorkflowTransition} {pair pair' : StatePair}

def KeepsBetween (old : List WorkflowTransition) (keep : WorkflowTransition → Bool)
    (change : WorkflowTransition → WorkflowTransition) (pair pair' : StatePair) : Prop :=
  ∀ t ∈ old, pair.joins t = true →
    keep t = true ∧ pair'.joins (change t) = true ∧ (change t).conditions = t.conditions

def Joined (old fresh : List WorkflowTransition) (keep : WorkflowTransition → Bool)
    (change : WorkflowTransition → WorkflowTransition) (pair pair' : StatePair) : Prop :=
  (∃ t ∈ old, keep t = true ∧ pair.joins t = false ∧ pair'.joins (change t) = true) ∨
    ∃ t ∈ fresh, pair'.joins (change t) = true

theorem conditions_rows :
    pair'.conditions ((old.filter keep ++ fresh).map change) =
      ((old.filter fun t => pair'.joins (change t) && keep t).map fun t => (change t).conditions) ++
        (fresh.filter fun t => pair'.joins (change t)).map fun t => (change t).conditions := by
  unfold StatePair.conditions
  rw [List.filter_map, filter_append, List.filter_filter, List.map_map, map_append]
  rfl

theorem between_eq (keeps : KeepsBetween old keep change pair pair')
    (alone : ¬ Joined old fresh keep change pair pair') :
    pair'.conditions ((old.filter keep ++ fresh).map change) = pair.conditions old := by
  have none : (fresh.filter fun t => pair'.joins (change t)) = [] :=
    filter_eq_nil_iff.mpr fun t mem joins => alone (.inr ⟨t, mem, joins⟩)
  have same : (old.filter fun t => pair'.joins (change t) && keep t) = old.filter pair.joins := by
    refine List.filter_congr fun t mem => ?_
    rw [Bool.eq_iff_iff, Bool.and_eq_true]
    constructor
    · intro ⟨joins, kept⟩
      by_contra other
      exact alone (.inl ⟨t, mem, kept, Bool.eq_false_iff.mpr other, joins⟩)
    · intro joins
      obtain ⟨kept, joins', -⟩ := keeps t mem joins
      exact ⟨joins', kept⟩
  rw [conditions_rows, none, same, map_nil, append_nil]
  refine map_congr_left fun t mem => ?_
  obtain ⟨memOld, joins⟩ := mem_filter.mp mem
  exact (keeps t memOld joins).2.2

theorem not_joined (keeps : KeepsBetween old keep change pair pair')
    (count : (pair'.conditions ((old.filter keep ++ fresh).map change)).length =
      (pair.conditions old).length) : ¬ Joined old fresh keep change pair pair' := by
  have sub : (old.filter pair.joins).Sublist
      (old.filter fun t => pair'.joins (change t) && keep t) := by
    have eq : old.filter pair.joins =
        (old.filter fun t => pair'.joins (change t) && keep t).filter pair.joins := by
      rw [List.filter_filter]
      refine List.filter_congr fun t mem => ?_
      rw [Bool.eq_iff_iff, Bool.and_eq_true, Bool.and_eq_true]
      refine ⟨fun joins => ?_, And.left⟩
      obtain ⟨kept, joins', -⟩ := keeps t mem joins
      exact ⟨joins, joins', kept⟩
    rw [eq]
    exact filter_sublist
  rw [conditions_rows] at count
  unfold StatePair.conditions at count
  rw [length_append, length_map, length_map, length_map] at count
  have atLeast := sub.length_le
  rintro (⟨t, mem, kept, other, joins⟩ | ⟨t, mem, joins⟩)
  · have same := sub.eq_of_length (by omega)
    have found : t ∈ old.filter fun t => pair'.joins (change t) && keep t :=
      mem_filter.mpr ⟨mem, Bool.and_eq_true_iff.mpr ⟨joins, kept⟩⟩
    rw [← same] at found
    rw [(mem_filter.mp found).2] at other
    cases other
  · have found : t ∈ fresh.filter fun t => pair'.joins (change t) :=
      mem_filter.mpr ⟨mem, joins⟩
    have some := length_pos_of_mem found
    omega

end Edit

/-! ## The requests -/

inductive WorkflowRequest
  | createTransition (input : CreateWorkflowTransitionInput) (transitionId : Id)
  | updateTransition (transitionId : Id) (input : UpdateWorkflowTransitionInput)
  | deleteTransition (transitionId : Id)
  | createState (input : CreateWorkflowStateInput) (stateId : Id)
  | updateState (stateId : Id) (input : UpdateWorkflowStateInput)
  | deleteState (stateId : Id)
  | canvasSave (input : CanvasSave) (ids : Nat → Id)

structure RuleEdit where
  tenantId : Id
  workflowId : Id
  auth : AuthContext
  person : isPersonAdmin auth = false
  request : WorkflowRequest

/-- A program, for what it writes. -/
def Tx.done {α : Type} (p : Tx α) : Tx Unit := do
  let _ ← p
  return ()

theorem Tx.exec_done_ok {α : Type} {p : Tx α} :
    p.done.exec db = .ok (u, db') ↔ ∃ a, p.exec db = .ok (a, db') := by
  unfold Tx.done
  simp only [Prog.exec_seq_ok, Prog.exec_pure, Prog.ok_eq_ok]
  constructor
  · rintro ⟨a, _, ran, -, rfl⟩
    exact ⟨a, ran⟩
  · rintro ⟨a, ran⟩
    exact ⟨a, db', ran, trivial, rfl⟩

def RuleEdit.handle (edit : RuleEdit) : Tx Unit :=
  match edit.request with
  | .createTransition input transitionId =>
    (OpenWind.createTransition edit.tenantId edit.workflowId edit.auth input transitionId).done
  | .updateTransition transitionId input =>
    (OpenWind.updateTransition edit.tenantId edit.workflowId transitionId edit.auth input).done
  | .deleteTransition transitionId =>
    OpenWind.deleteTransition edit.tenantId edit.workflowId transitionId edit.auth
  | .createState input stateId =>
    (addWorkflowState edit.tenantId edit.workflowId (toWorkflowCaller edit.auth) input stateId).done
  | .updateState stateId input =>
    (updateWorkflowState edit.tenantId edit.workflowId stateId (toWorkflowCaller edit.auth)
      input).done
  | .deleteState stateId =>
    deleteWorkflowState edit.tenantId edit.workflowId stateId (toWorkflowCaller edit.auth)
  | .canvasSave input ids =>
    (OpenWind.canvasSave edit.tenantId edit.workflowId edit.auth input ids).done

/-! ## Renames -/

def renamed (oldName newName name : String) : String := if name == oldName then newName else name

def WorkflowTransition.rename (tenantId workflowId : Id) (oldName newName : String)
    (t : WorkflowTransition) : WorkflowTransition :=
  if t.ofWorkflow tenantId workflowId then
    { t with
      fromState := renamed oldName newName t.fromState
      toState := renamed oldName newName t.toState }
  else t

/-- The two states after a rename. -/
def StatePair.rename (tenantId workflowId : Id) (oldName newName : String) (pair : StatePair) :
    StatePair :=
  if pair.workflowId = workflowId ∧ pair.tenantId = tenantId then
    { pair with
      fromState := renamed oldName newName pair.fromState
      toState := renamed oldName newName pair.toState }
  else pair

def RuleEdit.renames (edit : RuleEdit) (db : Db) : Option (String × String) :=
  match edit.request with
  | .updateState stateId input =>
    (db.workflowStates.find?
        (WorkflowState.isRow edit.tenantId edit.workflowId stateId)).bind fun current =>
      (input.newName current).map fun newName => (current.name, newName)
  | _ => none

/-- The two states after the request. -/
def RuleEdit.follow (edit : RuleEdit) (db : Db) (pair : StatePair) : StatePair :=
  match edit.renames db with
  | some (oldName, newName) => pair.rename edit.tenantId edit.workflowId oldName newName
  | none => pair

theorem StatePair.rename_joins {tenantId workflowId : Id} {oldName newName : String}
    (joins : pair.joins t) :
    (pair.rename tenantId workflowId oldName newName).joins
      (t.rename tenantId workflowId oldName newName) := by
  obtain ⟨⟨workflow, tenant⟩, left, right⟩ := StatePair.joins_iff.mp joins
  unfold rename WorkflowTransition.rename WorkflowTransition.ofWorkflow
  by_cases own : pair.workflowId = workflowId ∧ pair.tenantId = tenantId
  · rw [if_pos own, if_pos (by rw [workflow, tenant, own.1, own.2, beq_self_eq_true,
      beq_self_eq_true, Bool.and_self])]
    exact StatePair.joins_iff.mpr ⟨⟨workflow, tenant⟩, by rw [← left], by rw [← right]⟩
  · rw [if_neg own, if_neg (by rwa [workflow, tenant, Bool.and_eq_true, beq_iff_eq, beq_iff_eq])]
    exact joins

theorem Db.renameState_transitions (db : Db) (tenantId workflowId stateId : Id)
    (input : UpdateWorkflowStateInput) (oldName newName : String) :
    (db.renameState tenantId workflowId stateId input oldName newName).workflowTransitions =
      db.workflowTransitions.map (WorkflowTransition.rename tenantId workflowId oldName newName) := by
  unfold renameState
  rw [List.map_map]
  refine map_congr_left fun t _ => ?_
  have passed : ∀ name, WorkflowTransition.ofWorkflow tenantId workflowId
      { t with fromState := name } = t.ofWorkflow tenantId workflowId := fun _ => rfl
  unfold WorkflowTransition.rename renamed
  cases own : t.ofWorkflow tenantId workflowId with
  | false => simp [own]
  | true =>
    cases left : t.fromState == oldName <;> cases right : t.toState == oldName <;>
      simp only [Function.comp, own, left, right, passed, Bool.true_and, Bool.false_eq_true,
        if_true, if_false]

/-! ## What a request does to the rules -/

def Db.Ruled (db : Db) (pair : StatePair) : Prop :=
  ∀ t ∈ db.workflowTransitions, pair.joins t = true → usesActorRule t.conditions = true

def RuleEdit.Joins (edit : RuleEdit) (db : Db) (pair : StatePair) : Prop :=
  match edit.request with
  | .createTransition input _ =>
    (edit.workflowId = pair.workflowId ∧ edit.tenantId = pair.tenantId) ∧
      input.fromState = pair.fromState ∧ input.toState = pair.toState
  | .updateState _ _ => ∃ names, edit.renames db = some names ∧
      ∃ t ∈ db.workflowTransitions, pair.joins t = false ∧
        (pair.rename edit.tenantId edit.workflowId names.1 names.2).joins
          (t.rename edit.tenantId edit.workflowId names.1 names.2) = true
  | .canvasSave input ids => ∃ current,
      (getWorkflow edit.tenantId edit.workflowId).exec db = .ok (current, db) ∧
        ((∃ t ∈ input.keptTransitions edit.tenantId edit.workflowId current db,
            pair.joins t = false ∧ pair.joins
              (placed edit.tenantId edit.workflowId (input.existingTransitions current) t) = true) ∨
          ∃ t ∈ input.newTransitions edit.tenantId edit.workflowId ids, pair.joins
            (placed edit.tenantId edit.workflowId (input.existingTransitions current) t) = true)
  | _ => False

structure RuleEffect (db db' : Db) (pair pair' : StatePair) (J : Prop) : Prop where
  keyed : Tables.workflowTransitions.Keyed db'
  rows : ∃ fresh keep change,
    db'.workflowTransitions = (db.workflowTransitions.filter keep ++ fresh).map change ∧
      KeepsBetween db.workflowTransitions keep change pair pair' ∧
      (Joined db.workflowTransitions fresh keep change pair pair' ↔ J)

theorem RuleEffect.congr {pair pair' : StatePair} {J J' : Prop}
    (effect : RuleEffect db db' pair pair' J) (same : J ↔ J') :
    RuleEffect db db' pair pair' J' := by
  obtain ⟨fresh, keep, change, rows, keeps, joined⟩ := effect.rows
  exact ⟨effect.keyed, fresh, keep, change, rows, keeps, joined.trans same⟩

theorem RuleEffect.idle {db db' : Db} {pair : StatePair}
    (keyed : Tables.workflowTransitions.Keyed db)
    (same : db'.workflowTransitions = db.workflowTransitions) :
    RuleEffect db db' pair pair False := by
  refine ⟨keyed.of_rows same, [], fun _ => true, id, ?_, fun t _ joins => ⟨rfl, joins, rfl⟩, ?_⟩
  · rw [same, filter_true, append_nil, List.map_id]
  · refine iff_of_false ?_ id
    rintro (⟨t, -, -, other, joins⟩ | ⟨t, mem, -⟩)
    · rw [id, other] at joins
      cases joins
    · cases mem

theorem RuleEffect.change {db db' : Db} {pair pair' : StatePair} {J : Prop}
    {change : WorkflowTransition → WorkflowTransition}
    (keyed : Tables.workflowTransitions.Keyed db) (named : ∀ t, (change t).id = t.id)
    (rows : db'.workflowTransitions = db.workflowTransitions.map change)
    (keeps : ∀ t ∈ db.workflowTransitions, pair.joins t →
      pair'.joins (change t) ∧ (change t).conditions = t.conditions)
    (joined : (∃ t ∈ db.workflowTransitions, pair.joins t = false ∧ pair'.joins (change t)) ↔ J) :
    RuleEffect db db' pair pair' J := by
  refine ⟨?_, [], fun _ => true, change, ?_, fun t mem joins => ⟨rfl, keeps t mem joins⟩, ?_⟩
  · exact keyed.of_map rows fun t => congrArg (LockKey.row .workflowTransitions) (named t)
  · rw [rows, filter_true, append_nil]
  · rw [← joined]
    constructor
    · rintro (⟨t, mem, -, found⟩ | ⟨t, mem, -⟩)
      · exact ⟨t, mem, found⟩
      · cases mem
    · rintro ⟨t, mem, found⟩
      exact .inl ⟨t, mem, rfl, found⟩

section Requests

variable {tenantId workflowId : Id} {auth : AuthContext} {pair : StatePair} {db db' : Db}

section

variable (keyed : Tables.workflowTransitions.Keyed db)

include keyed

theorem RuleEffect.created {input : CreateWorkflowTransitionInput} {transitionId : Id}
    {row : WorkflowTransition}
    (ran : (OpenWind.createTransition tenantId workflowId auth input transitionId).exec db =
      .ok (row, db')) :
    RuleEffect db db' pair pair ((workflowId = pair.workflowId ∧ tenantId = pair.tenantId) ∧
      input.fromState = pair.fromState ∧ input.toState = pair.toState) := by
  obtain ⟨-, added⟩ := createTransition_cases ran
  obtain ⟨⟨tenant, workflow, left, right, -⟩, fresh, rfl⟩ := addWorkflowTransition_row added
  refine ⟨keyed.append fresh, [row], fun _ => true, id, ?_, fun t _ joins => ⟨rfl, joins, rfl⟩, ?_⟩
  · rw [filter_true, List.map_id]
    rfl
  · have ends : pair.joins row ↔ (workflowId = pair.workflowId ∧ tenantId = pair.tenantId) ∧
        input.fromState = pair.fromState ∧ input.toState = pair.toState := by
      rw [StatePair.joins_iff, tenant, workflow, left, right]
    rw [← ends]
    constructor
    · rintro (⟨t, -, -, other, joins⟩ | ⟨t, mem, joins⟩)
      · rw [id, other] at joins
        cases joins
      · obtain rfl := mem_singleton.mp mem
        exact joins
    · intro joins
      exact .inr ⟨row, mem_singleton_self row, joins⟩

theorem find_isOf {transitionId : Id} {t : WorkflowTransition} (mem : t ∈ db.workflowTransitions)
    (named : t.isOf tenantId workflowId transitionId) :
    db.workflowTransitions.find? (WorkflowTransition.isOf tenantId workflowId transitionId) =
      some t := by
  cases search : db.workflowTransitions.find?
      (WorkflowTransition.isOf tenantId workflowId transitionId) with
  | none => exact absurd named (find?_eq_none.mp search t mem)
  | some other =>
    have hit := find?_some search
    unfold WorkflowTransition.isOf at hit named
    simp only [Bool.and_eq_true, beq_iff_eq] at hit named
    rw [keyed.eq (mem_of_find?_eq_some search) mem
      (congrArg (LockKey.row .workflowTransitions) (hit.1.2.trans named.1.2.symm))]

theorem RuleEffect.updated {input : UpdateWorkflowTransitionInput} {transitionId : Id}
    {row : WorkflowTransition}
    (ruled : db.Ruled pair) (person : isPersonAdmin auth = false)
    (ran : (OpenWind.updateTransition tenantId workflowId transitionId auth input).exec db =
      .ok (row, db')) : RuleEffect db db' pair pair False := by
  obtain ⟨gated, updated⟩ := updateTransition_cases ran
  obtain ⟨-, -, rows⟩ := updateWorkflowTransition_cases updated
  have ends : ∀ t : WorkflowTransition,
      pair.joins (if t.isOf tenantId workflowId transitionId then input.apply t else t) =
        pair.joins t := by
    intro t
    split <;> rfl
  refine .change keyed (fun t => ?_) rows (fun t mem joins => ⟨?_, ?_⟩) (iff_of_false ?_ id)
  · split <;> rfl
  · rw [ends, joins]
  · by_cases named : t.isOf tenantId workflowId transitionId = true
    · rw [if_pos named]
      cases conditions : input.conditions with
      | none => rw [UpdateWorkflowTransitionInput.apply, conditions, getD_none]
      | some next =>
        have may := gated next conditions
        rw [find_isOf keyed mem named, bind_some,
          maySetActorRules_iff person (ruled t mem joins)] at may
        rw [UpdateWorkflowTransitionInput.apply, conditions, getD_some, may]
    · rw [if_neg named]
  · rintro ⟨t, -, other, joins⟩
    rw [ends, other] at joins
    cases joins

theorem RuleEffect.deleted {transitionId : Id} {u : Unit} (ruled : db.Ruled pair)
    (person : isPersonAdmin auth = false)
    (ran : (OpenWind.deleteTransition tenantId workflowId transitionId auth).exec db =
      .ok (u, db')) : RuleEffect db db' pair pair False := by
  obtain ⟨gated, deleted⟩ := deleteTransition_cases ran
  obtain ⟨-, rows⟩ := deleteWorkflowTransition_cases deleted
  refine ⟨?_, [], fun t => !t.isOf tenantId workflowId transitionId, id, ?_,
    fun t mem joins => ⟨?_, joins, rfl⟩, iff_of_false ?_ id⟩
  · exact (keyed.remove (WorkflowTransition.isOf tenantId workflowId transitionId)).of_rows rows
  · rw [rows, append_nil, List.map_id]
  · rw [Bool.not_eq_true', Bool.eq_false_iff]
    intro named
    have may := gated t (find_isOf keyed mem named)
    rw [maySetActorRules_iff person (ruled t mem joins)] at may
    have uses := ruled t mem joins
    rw [may] at uses
    cases uses
  · rintro (⟨t, -, -, other, joins⟩ | ⟨t, mem, -⟩)
    · rw [id, other] at joins
      cases joins
    · cases mem

theorem RuleEffect.saved {input : CanvasSave} {ids : Nat → Id} {full : WorkflowFull}
    (ruled : db.Ruled pair)
    (person : isPersonAdmin auth = false)
    (ran : (OpenWind.canvasSave tenantId workflowId auth input ids).exec db = .ok (full, db')) :
    RuleEffect db db' pair pair (∃ current,
      (getWorkflow tenantId workflowId).exec db = .ok (current, db) ∧
        ((∃ t ∈ input.keptTransitions tenantId workflowId current db, pair.joins t = false ∧
            pair.joins (placed tenantId workflowId (input.existingTransitions current) t)) ∨
          ∃ t ∈ input.newTransitions tenantId workflowId ids,
            pair.joins (placed tenantId workflowId (input.existingTransitions current) t) =
              true)) := by
  obtain ⟨current, read, may, keyed', rows⟩ := canvasSave_rows ran
  refine ⟨keyed' keyed, _, _, _, rows, fun t mem joins => ?_, ?_⟩
  · obtain ⟨⟨workflow, tenant⟩, left, right⟩ := StatePair.joins_iff.mp joins
    obtain ⟨-, rules⟩ := placed_kept tenantId workflowId (input.existingTransitions current) t
    unfold WorkflowTransition.rules at rules
    simp only [Prod.mk.injEq] at rules
    obtain ⟨sameTenant, sameWorkflow, conditions⟩ := rules
    have stays : (!(t.ofWorkflow tenantId workflowId &&
          ((input.deletedTransitions current).map (·.id)).contains t.id)) ∧
        ∀ entry ∈ input.existingTransitions current, t.isOf tenantId workflowId entry.1 →
          entry.2.fromState = t.fromState ∧ entry.2.toState = t.toState := by
      by_cases own : t.ofWorkflow tenantId workflowId = true
      · obtain ⟨kept, ends⟩ := canvasSave_gate keyed person read may mem own (ruled t mem joins)
        exact ⟨(mem_filter.mp kept).2, ends⟩
      · refine ⟨by rw [Bool.eq_false_iff.mpr own]; rfl, fun entry _ named => absurd ?_ own⟩
        unfold WorkflowTransition.isOf at named
        simp only [Bool.and_eq_true] at named
        exact Bool.and_eq_true_iff.mpr ⟨named.1.1, named.2⟩
    obtain ⟨fromSame, toSame⟩ := placed_ends stays.2
    refine ⟨stays.1, StatePair.joins_iff.mpr ⟨⟨?_, ?_⟩, ?_, ?_⟩, conditions⟩
    · rw [sameWorkflow, workflow]
    · rw [sameTenant, tenant]
    · rw [fromSame, left]
    · rw [toSame, right]
  · constructor
    · rintro (⟨t, mem, kept, found⟩ | new)
      · exact ⟨current, read, .inl ⟨t, mem_filter.mpr ⟨mem, kept⟩, found⟩⟩
      · exact ⟨current, read, .inr new⟩
    · rintro ⟨other, readOther, found⟩
      cases read.symm.trans readOther
      rcases found with ⟨t, mem, found⟩ | new
      · obtain ⟨stored, kept⟩ := mem_filter.mp mem
        exact .inl ⟨t, stored, kept, found⟩
      · exact .inr new

theorem RuleEffect.renamed {oldName newName : String}
    (rows : db'.workflowTransitions =
      db.workflowTransitions.map (WorkflowTransition.rename tenantId workflowId oldName newName)) :
    RuleEffect db db' pair (pair.rename tenantId workflowId oldName newName)
      (∃ t ∈ db.workflowTransitions, pair.joins t = false ∧
        (pair.rename tenantId workflowId oldName newName).joins
          (t.rename tenantId workflowId oldName newName)) := by
  refine .change keyed (fun t => ?_) rows (fun t _ joins => ⟨StatePair.rename_joins joins, ?_⟩)
    Iff.rfl
  all_goals
    unfold WorkflowTransition.rename
    split <;> rfl

end

end Requests

theorem RuleEdit.effect (keyed : Tables.workflowTransitions.Keyed db) (ruled : db.Ruled pair)
    (ran : edit.handle.exec db = .ok (u, db')) :
    RuleEffect db db' pair (edit.follow db pair) (edit.Joins db pair) := by
  obtain ⟨tenantId, workflowId, auth, person, request⟩ := edit
  unfold RuleEdit.follow
  cases request with
  | createTransition input transitionId =>
    obtain ⟨row, created⟩ := Tx.exec_done_ok.mp ran
    exact .created keyed created
  | updateTransition transitionId input =>
    obtain ⟨row, updated⟩ := Tx.exec_done_ok.mp ran
    exact .updated keyed ruled person updated
  | deleteTransition transitionId => exact .deleted keyed ruled person ran
  | createState input stateId =>
    obtain ⟨row, created⟩ := Tx.exec_done_ok.mp ran
    exact .idle keyed (addWorkflowState_transitions created)
  | updateState stateId input =>
    obtain ⟨row, updated⟩ := Tx.exec_done_ok.mp ran
    obtain ⟨current, found, ⟨same, -, transitions⟩ | ⟨newName, new, -, rfl⟩⟩ :=
      updateWorkflowState_cases updated
    · have none : RuleEdit.renames ⟨tenantId, workflowId, auth, person, .updateState stateId input⟩
          db = none := by
        simp only [RuleEdit.renames, found, bind_some, same, map_none]
      rw [none]
      refine (RuleEffect.idle keyed transitions).congr (iff_of_false id ?_)
      rintro ⟨names, renames, -⟩
      rw [none] at renames
      cases renames
    · have some : RuleEdit.renames ⟨tenantId, workflowId, auth, person, .updateState stateId input⟩
          db = some (current.name, newName) := by
        simp only [RuleEdit.renames, found, bind_some, new, map_some]
      rw [some]
      refine (RuleEffect.renamed keyed (db.renameState_transitions ..)).congr
        ⟨fun joined => ⟨_, some, joined⟩, ?_⟩
      rintro ⟨names, renames, joined⟩
      rw [some] at renames
      cases renames
      exact joined
  | deleteState stateId =>
    obtain ⟨state, -, -, -, rfl⟩ := deleteWorkflowState_cases ran
    exact .idle keyed rfl
  | canvasSave input ids =>
    obtain ⟨full, saved⟩ := Tx.exec_done_ok.mp ran
    exact .saved keyed ruled person saved

/-! ## Runs -/

/-- A store, and two states of a workflow as the renames have named them. -/
structure RuleWatch where
  db : Db
  pair : StatePair

/-- A request that fails changes nothing. -/
def RuleWatch.step (w : RuleWatch) (edit : RuleEdit) : Option RuleWatch :=
  match edit.handle.exec w.db with
  | .ok (_, db) => some ⟨db, edit.follow w.db w.pair⟩
  | .error _ => some w

structure RulesKept (rules : List (Option TransitionConditionTree)) (w : RuleWatch) : Prop where
  ruled : w.db.Ruled w.pair
  same : (w.pair.conditions w.db.workflowTransitions).Perm rules

def RuleWatch.Spares (w : RuleWatch) (edit : RuleEdit) : Prop :=
  edit.handle.Commits w.db → ¬ edit.Joins w.db w.pair

theorem Db.ruled_iff :
    db.Ruled pair ↔ ∀ conditions ∈ pair.conditions db.workflowTransitions,
      usesActorRule conditions := by
  unfold Ruled StatePair.conditions
  rw [List.forall_mem_map]
  simp only [mem_filter, and_imp]

theorem RulesKept.next_iff (keyed : Tables.workflowTransitions.Keyed w.db)
    (kept : RulesKept rules w) (ran : edit.handle.exec w.db = .ok (u, db)) :
    RulesKept rules ⟨db, edit.follow w.db w.pair⟩ ↔ ¬ edit.Joins w.db w.pair := by
  obtain ⟨fresh, keep, change, rows, keeps, joined⟩ := (RuleEdit.effect keyed kept.ruled ran).rows
  rw [← joined]
  constructor
  · intro after
    refine not_joined keeps ?_
    rw [← rows]
    exact after.same.length_eq.trans kept.same.length_eq.symm
  · intro alone
    have same := between_eq keeps alone
    rw [← rows] at same
    refine ⟨Db.ruled_iff.mpr ?_, ?_⟩
    · rw [same]
      exact Db.ruled_iff.mp kept.ruled
    · change ((edit.follow w.db w.pair).conditions db.workflowTransitions).Perm rules
      rw [same]
      exact kept.same

theorem RuleEdit.kept_iff (keyed : Tables.workflowTransitions.Keyed w.db) (kept : RulesKept rules w)
    (edit : RuleEdit) : w.Spares edit ↔ ∀ w', w.step edit = some w' → RulesKept rules w' := by
  unfold RuleWatch.Spares RuleWatch.step
  cases ran : edit.handle.exec w.db with
  | error e =>
    refine iff_of_true (fun ⟨result, returned⟩ => ?_) fun w' stepped => ?_
    · rw [ran] at returned
      cases returned
    · cases stepped
      exact kept
  | ok result =>
    rw [← RulesKept.next_iff keyed kept ran]
    constructor
    · intro spares w' stepped
      cases stepped
      exact spares ⟨result, ran⟩
    · intro after _
      exact after _ rfl

theorem RuleWatch.keyed_step {w w' : RuleWatch} (keyed : Tables.workflowTransitions.Keyed w.db)
    (ruled : w.db.Ruled w.pair) (stepped : w.step edit = some w') :
    Tables.workflowTransitions.Keyed w'.db := by
  unfold RuleWatch.step at stepped
  cases ran : edit.handle.exec w.db with
  | error e =>
    rw [ran] at stepped
    cases stepped
    exact keyed
  | ok result =>
    rw [ran] at stepped
    cases stepped
    exact (RuleEdit.effect keyed ruled ran).keyed

/-- Let every transition from one state of a workflow to another carry an actor rule.  Along
a run of requests by callers who are no person admins each still does, with the same rules,
exactly when no request that commits brings another transition between the two. -/
theorem ruled_pair_kept_iff {w : RuleWatch} {edits : List RuleEdit}
    (keyed : Tables.workflowTransitions.Keyed w.db) (ruled : w.db.Ruled w.pair) :
    Runs.Always RuleWatch.step (RulesKept (w.pair.conditions w.db.workflowTransitions)) w edits ↔
      Runs.Guarded RuleWatch.step RuleWatch.Spares w edits := by
  refine Runs.guarded_iff (I := fun w => Tables.workflowTransitions.Keyed w.db)
    (fun keyed kept stepped _ => RuleWatch.keyed_step keyed kept.ruled stepped)
    (fun keyed kept => RuleEdit.kept_iff keyed kept _) keyed ⟨ruled, .refl _⟩

/-! ### Ways around a rule -/

def ownWorkflow : RuleWatch where
  db :=
    { workflows := [{ id := 1, tenantId := some 1, entityTypeId := 1, initialState := "open",
                      createdBy := some "owner" }]
      workflowStates :=
        [{ id := 1, tenantId := 1, workflowId := 1, name := "open" },
          { id := 2, tenantId := 1, workflowId := 1, name := "closed" }]
      workflowTransitions :=
        [{ id := 5, tenantId := 1, workflowId := 1, fromState := "open", toState := "closed",
           conditions := some .actorNotCreator },
          { id := 6, tenantId := 1, workflowId := 1, fromState := "ready",
            toState := "closed" }] }
  pair := ⟨1, 1, "open", "closed"⟩

theorem ownWorkflow_keyed : Tables.workflowTransitions.Keyed ownWorkflow.db := by
  simp [Table.Keyed, ownWorkflow]

theorem ownWorkflow_ruled : ownWorkflow.db.Ruled ownWorkflow.pair := by
  intro t mem joins
  rcases mem_cons.mp mem with rfl | mem
  · rfl
  · obtain rfl := mem_singleton.mp mem
    cases joins

def ownEdit (request : WorkflowRequest) : RuleEdit := ⟨1, 1, ⟨"owner", ["user"]⟩, rfl, request⟩

def ownCanvas (transitions : List CanvasTransition) : RuleEdit :=
  ownEdit (.canvasSave
    { states := [{ id := some 1, name := "open", label := "Open" },
        { id := some 2, name := "closed", label := "Closed" }]
      transitions := { id := some 5, fromState := "open", toState := "closed" } :: transitions }
    fun i => 90 + i)

def ruleBypasses : List RuleEdit :=
  [ownEdit (.createTransition { fromState := "open", toState := "closed" } 7),
    ownCanvas [{ id := some 6, fromState := "ready", toState := "closed" },
      { id := none, fromState := "open", toState := "closed" }],
    ownCanvas [{ id := some 6, fromState := "open", toState := "closed" }],
    ownEdit (.updateState 1 { name := some "ready" })]

/-- The gate lets each of the four requests pass, and an unruled transition joins the two
states. -/
theorem ruled_pair_bypassed :
    ruleBypasses.Forall fun edit => ¬ Runs.Always RuleWatch.step
      (RulesKept (ownWorkflow.pair.conditions ownWorkflow.db.workflowTransitions)) ownWorkflow
        [edit] := by
  refine forall_iff_forall_mem.mpr fun edit mem always => ?_
  have reached : ∀ edit ∈ ruleBypasses, (Runs.run RuleWatch.step ownWorkflow [edit]).any (fun w =>
      w.db.workflowTransitions.any fun t => w.pair.joins t && !usesActorRule t.conditions) =
        true := by
    decide +kernel
  obtain ⟨w, ran, found⟩ := (Option.any_eq_true _ _).mp (reached edit mem)
  obtain ⟨t, stored, unruled⟩ := List.any_eq_true.mp found
  obtain ⟨joins, none⟩ := Bool.and_eq_true_iff.mp unruled
  rw [(always.last ran).ruled t stored joins] at none
  cases none

/-- A transition back to the first state leaves the rules as they are. -/
theorem ruled_pair_kept_iff_back :
    Runs.Always RuleWatch.step
      (RulesKept (ownWorkflow.pair.conditions ownWorkflow.db.workflowTransitions)) ownWorkflow
        [ownEdit (.createTransition { fromState := "closed", toState := "open" } 7)] := by
  refine (ruled_pair_kept_iff ownWorkflow_keyed ownWorkflow_ruled).mpr
    ⟨fun _ joins => ?_, fun _ _ => trivial⟩
  exact absurd joins.2.1 (by decide)

end OpenWind
