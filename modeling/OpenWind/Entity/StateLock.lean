import OpenWind.Errors
import OpenWind.Workflow.Conditions

/-!
# Direct writes of a record's state

`updateEntity`, `setEntityState` and `bulkSetState` write the state column
without a transition.  A workflow that has a rule on the actor, or that has
switched the override on, is locked: its records refuse such a write.  A child
ticket takes a fixed list of states instead of its workflow's.
-/

open List Bool Txn.Prog

namespace OpenWind

open Txn

/-! ## Relations of a record -/

def EntityRelation.isActive (tenantId : Id) (relationType : RelationType)
    (relation : EntityRelation) : Bool :=
  relation.tenantId == tenantId && relation.relationType == relationType &&
    relation.deletedAt == none

/-- The relation that makes `instanceId` a child. -/
def EntityRelation.isChildOf (tenantId instanceId : Id) (relation : EntityRelation) : Bool :=
  relation.isActive tenantId .childOf && relation.fromInstanceId == instanceId

def Db.parentId (db : Db) (tenantId instanceId : Id) : Option Id :=
  (db.entityRelations.find? (EntityRelation.isChildOf tenantId instanceId)).map (·.toInstanceId)

def getParentId (tenantId instanceId : Id) : Tx (Option Id) :=
  .read fun db => db.parentId tenantId instanceId

def childTicketStates : List String := ["open", "in-progress", "closed"]

/-! ## Locked workflows

The conditions are searched as text for `"actor_`.  A JSON string contributes
that text when it starts with `actor_` or contains it after a quote. -/

def textMentionsActor (s : String) : Bool :=
  startsWith s "actor_" || includesText s "\"actor_"

mutual

def Json.mentionsActor : Json → Bool
  | .str s => textMentionsActor s
  | .arr items => Json.someMentionsActor items
  | .obj entries => Json.entriesMentionActor entries
  | _ => false

def Json.someMentionsActor : List Json → Bool
  | [] => false
  | item :: rest => item.mentionsActor || Json.someMentionsActor rest

def Json.entriesMentionActor : List (String × Json) → Bool
  | [] => false
  | (key, value) :: rest =>
    textMentionsActor key || value.mentionsActor || Json.entriesMentionActor rest

end

def FieldCondition.mentionsActor (cond : FieldCondition) : Bool :=
  textMentionsActor cond.field ||
    match cond.value with
    | none => false
    | some value => value.mentionsActor

mutual

/-- The text of the tree contains `"actor_`. -/
def TransitionConditionTree.mentionsActor : TransitionConditionTree → Bool
  | .and children => TransitionConditionTree.someMentionsActor children
  | .or children => TransitionConditionTree.someMentionsActor children
  | .not child => child.mentionsActor
  | .field cond => cond.mentionsActor
  | .actorNotCreator => true
  | .actorIsCreator => true
  | .actorNotPriorActor _ => true

def TransitionConditionTree.someMentionsActor : List TransitionConditionTree → Bool
  | [] => false
  | child :: rest => child.mentionsActor || TransitionConditionTree.someMentionsActor rest

end

def WorkflowTransition.locks (tenantId workflowId : Id) (transition : WorkflowTransition) : Bool :=
  transition.workflowId == workflowId && transition.tenantId == tenantId &&
    match transition.conditions with
    | none => false
    | some tree => tree.mentionsActor

def Db.isLockedWorkflow (db : Db) (tenantId : Id) (workflow : Workflow) : Bool :=
  workflow.allowStateOverride ||
    db.workflowTransitions.any (WorkflowTransition.locks tenantId workflow.id)

/-- The locked workflows among `workflowIds`. -/
def Db.lockedWorkflowIds (db : Db) (tenantId : Id) (workflowIds : List Id) : List Id :=
  (db.workflows.filter fun workflow =>
    workflow.tenantId == some tenantId && workflowIds.contains workflow.id &&
      db.isLockedWorkflow tenantId workflow).map (·.id)

def Db.isStateWriteLocked (db : Db) (tenantId workflowId : Id) : Bool :=
  (db.lockedWorkflowIds tenantId [workflowId]).contains workflowId

def Db.workflowHasStateNamed (db : Db) (tenantId workflowId : Id) (name : String) : Bool :=
  db.workflowStates.any fun st =>
    st.workflowId == workflowId && st.tenantId == tenantId && st.name == name

def Db.childStateWriteReachesLockedStep (db : Db) (tenantId workflowId : Id) (name : String) :
    Bool :=
  db.workflows.any fun workflow =>
    workflow.tenantId == some tenantId && workflow.id == workflowId &&
      db.isLockedWorkflow tenantId workflow && db.workflowHasStateNamed tenantId workflow.id name

/-! ## The check -/

def assertDirectStateWriteAllowed (tenantId instanceId : Id) (workflowId : Option Id)
    (currentState target : String) (isChildTicket : Bool) : Tx Unit :=
  match workflowId with
  | none => return ()
  | some workflowId =>
    if target == currentState then return ()
    else do
      let refused ← Prog.read fun db =>
        if isChildTicket then db.childStateWriteReachesLockedStep tenantId workflowId target
        else db.isStateWriteLocked tenantId workflowId
      Tx.requireE (!refused) .stateChangeNotAllowed
        [("instanceId", .id instanceId), ("from", .str currentState), ("to", .str target)]

def Db.stateNames (db : Db) (tenantId workflowId : Id) : List String :=
  (db.workflowStates.filter fun st =>
    st.workflowId == workflowId && st.tenantId == tenantId).map (·.name)

def invalidState (field message : String) : TxError :=
  .validation [⟨field, "invalid", message⟩]

def checkStateWrite (field : String) (tenantId instanceId : Id) (workflowId : Option Id)
    (currentState target : String) (isChildTicket : Bool) : Tx Unit :=
  if isChildTicket then do
    Prog.require (childTicketStates.contains target)
      (invalidState field ("Child ticket state must be one of: " ++
        String.intercalate ", " childTicketStates))
    assertDirectStateWriteAllowed tenantId instanceId workflowId currentState target true
  else
    match workflowId with
    | none => return ()
    | some id => do
      assertDirectStateWriteAllowed tenantId instanceId workflowId currentState target false
      let validStates ← Prog.read fun db => db.stateNames tenantId id
      Prog.require (validStates.contains target)
        (invalidState field ("Invalid state '" ++ target ++ "' for the workflow. Valid states are: " ++
          String.intercalate ", " validStates))

/-! ## What the check allows -/

mutual

/-- The text search finds every rule on the actor. -/
theorem mentionsActor_of_usesActorRule :
    ∀ {tree : TransitionConditionTree}, treeUsesActorRule tree = true → tree.mentionsActor = true
  | .and children, uses => by
    rw [TransitionConditionTree.mentionsActor]
    exact someMentionsActor_of_someUsesActorRule uses
  | .or children, uses => by
    rw [TransitionConditionTree.mentionsActor]
    exact someMentionsActor_of_someUsesActorRule uses
  | .not child, uses => by
    rw [TransitionConditionTree.mentionsActor]
    exact mentionsActor_of_usesActorRule uses
  | .field _, uses => by cases uses
  | .actorNotCreator, _ => rfl
  | .actorIsCreator, _ => rfl
  | .actorNotPriorActor _, _ => rfl

theorem someMentionsActor_of_someUsesActorRule :
    ∀ {children : List TransitionConditionTree}, someUsesActorRule children = true →
      TransitionConditionTree.someMentionsActor children = true
  | [], uses => by cases uses
  | child :: rest, uses => by
    rw [TransitionConditionTree.someMentionsActor, or_eq_true]
    rcases or_eq_true_iff.mp uses with here | later
    · exact .inl (mentionsActor_of_usesActorRule here)
    · exact .inr (someMentionsActor_of_someUsesActorRule later)

end

/-- The states a direct write may set. -/
def Db.MayWrite (db : Db) (tenantId : Id) (workflowId : Option Id) (target : String)
    (isChildTicket : Bool) : Prop :=
  if isChildTicket then target ∈ childTicketStates
  else ∀ id, workflowId = some id → target ∈ db.stateNames tenantId id

def Db.LockAllows (db : Db) (tenantId : Id) (workflowId : Option Id)
    (currentState target : String) : Prop :=
  ∀ id, workflowId = some id → target = currentState ∨ target ∉ db.stateNames tenantId id ∨
    db.isStateWriteLocked tenantId id = false

variable {db db' : Db} {instanceId tenantId : Id} {workflowId : Option Id}
  {currentState target : String} {isChildTicket : Bool} {u : Unit}

theorem Db.isStateWriteLocked_eq_false {tenantId workflowId : Id} :
    db.isStateWriteLocked tenantId workflowId = false ↔ ∀ workflow ∈ db.workflows,
      workflow.tenantId = some tenantId → workflow.id = workflowId →
        db.isLockedWorkflow tenantId workflow = false := by
  unfold Db.isStateWriteLocked Db.lockedWorkflowIds
  rw [eq_false_iff, ne_eq, contains_iff_mem, mem_map]
  constructor
  · rintro none workflow mem own rfl
    refine eq_false_iff.mpr fun locked => none ⟨workflow, mem_filter.mpr ⟨mem, ?_⟩, rfl⟩
    simp [own, locked]
  · rintro unlocked ⟨workflow, listed, named⟩
    obtain ⟨mem, selected⟩ := mem_filter.mp listed
    simp only [and_eq_true, beq_iff_eq] at selected
    rw [unlocked workflow mem selected.1.1 named] at selected
    exact Bool.false_ne_true selected.2

theorem exec_assertDirectStateWriteAllowed_ok
    (ran : (assertDirectStateWriteAllowed tenantId instanceId workflowId currentState target
      isChildTicket).exec db = .ok (u, db')) :
    db.LockAllows tenantId workflowId currentState target ∧ db' = db := by
  unfold assertDirectStateWriteAllowed at ran
  cases workflowId with
  | none => cases ran; exact ⟨nofun, rfl⟩
  | some workflowId =>
    by_cases same : (target == currentState) = true
    · simp only [same, if_true] at ran
      cases ran
      exact ⟨fun _ _ => .inl (eq_of_beq same), rfl⟩
    · simp only [same, false_eq_true, if_false, exec_seq_ok, exec_read, Tx.requireE,
        exec_require_ok, ok_eq_ok] at ran
      obtain ⟨_, _, ⟨rfl, rfl⟩, allowed, rfl⟩ := ran
      refine ⟨fun id attached => .inr ?_, rfl⟩
      cases attached
      rw [not_eq_true'] at allowed
      cases isChildTicket with
      | false => exact .inr allowed
      | true =>
        refine or_iff_not_imp_left.mpr fun named => Db.isStateWriteLocked_eq_false.mpr ?_
        rintro workflow mem own rfl
        refine eq_false_iff.mpr fun locked => ?_
        have reaches : db'.workflowHasStateNamed tenantId workflow.id target := by
          obtain ⟨st, listed, rfl⟩ := mem_map.mp (not_not.mp named)
          obtain ⟨memSt, own⟩ := mem_filter.mp listed
          unfold Db.workflowHasStateNamed
          exact any_eq_true.mpr ⟨st, memSt, by rw [own, beq_self_eq_true]; rfl⟩
        refine absurd (any_eq_true.mpr ⟨workflow, mem, ?_⟩) (eq_false_iff.mp allowed)
        simp [own, locked, reaches]

theorem exec_checkStateWrite_ok {field : String}
    (ran : (checkStateWrite field tenantId instanceId workflowId currentState target
      isChildTicket).exec db = .ok (u, db')) :
    (db.MayWrite tenantId workflowId target isChildTicket ∧
      db.LockAllows tenantId workflowId currentState target) ∧ db' = db := by
  unfold checkStateWrite at ran
  unfold Db.MayWrite
  cases isChildTicket with
  | true =>
    simp only [if_true, exec_seq_ok, exec_require_ok] at ran
    obtain ⟨_, _, ⟨listed, rfl⟩, allowed⟩ := ran
    obtain ⟨unlocked, same⟩ := exec_assertDirectStateWriteAllowed_ok allowed
    exact ⟨⟨by simpa using listed, unlocked⟩, same⟩
  | false =>
    simp only [false_eq_true, if_false] at ran ⊢
    cases workflowId with
    | none => cases ran; exact ⟨⟨nofun, nofun⟩, rfl⟩
    | some id =>
      simp only [exec_seq_ok, exec_read, exec_require_ok, ok_eq_ok] at ran
      obtain ⟨_, mid, allowed, validStates, _, ⟨rfl, rfl⟩, real, rfl⟩ := ran
      obtain ⟨unlocked, rfl⟩ := exec_assertDirectStateWriteAllowed_ok allowed
      refine ⟨⟨fun id' eq => ?_, unlocked⟩, rfl⟩
      cases eq
      simpa using real

end OpenWind
