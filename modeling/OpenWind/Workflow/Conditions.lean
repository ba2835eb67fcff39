import OpenWind.Schema

/-!
# Conditions of a transition

`evaluateConditionTree` decides whether a transition's condition tree holds for a
record's fields and the person who acts.
-/

namespace OpenWind

open TransitionConditionTree

structure PriorActor where
  actorId : String
  fromState : String
  deriving DecidableEq

structure ActorContext where
  actorId : Option String
  createdBy : Option String
  priorActors : Option (List PriorActor) := none

def compareNumbers (compare : Rat → Rat → Bool) : Option Json → Option Json → Bool
  | some (.num a), some (.num b) => compare a b
  | _, _ => false

def sameValue : Option Json → Option Json → Bool
  | none, none => true
  | some a, some b => a.strictEq b
  | _, _ => false

def evaluateFieldCondition (cond : FieldCondition) (fields : Fields) : Bool :=
  let value := fields.get cond.field
  match cond.op with
  | .eq => sameValue value cond.value
  | .neq => !sameValue value cond.value
  | .gt => compareNumbers (fun a b => decide (b < a)) value cond.value
  | .gte => compareNumbers (fun a b => decide (b ≤ a)) value cond.value
  | .lt => compareNumbers (fun a b => decide (a < b)) value cond.value
  | .lte => compareNumbers (fun a b => decide (a ≤ b)) value cond.value
  | .contains =>
    match value, cond.value with
    | some (.str text), some (.str part) => includesText text part
    | _, _ => false
  | .in =>
    match cond.value with
    | some (.arr items) => items.any fun item => sameValue (some item) value
    | _ => false
  | .empty => Json.blank value
  | .notEmpty => !Json.blank value

mutual

def treeUsesActorRule : TransitionConditionTree → Bool
  | .and children => someUsesActorRule children
  | .or children => someUsesActorRule children
  | .not child => treeUsesActorRule child
  | .field _ => false
  | .actorNotCreator => true
  | .actorIsCreator => true
  | .actorNotPriorActor _ => true

def someUsesActorRule : List TransitionConditionTree → Bool
  | [] => false
  | child :: rest => treeUsesActorRule child || someUsesActorRule rest

end

mutual

def treeNeedsPriorActors : TransitionConditionTree → Bool
  | .and children => someNeedsPriorActors children
  | .or children => someNeedsPriorActors children
  | .not child => treeNeedsPriorActors child
  | .actorNotPriorActor _ => true
  | _ => false

def someNeedsPriorActors : List TransitionConditionTree → Bool
  | [] => false
  | child :: rest => treeNeedsPriorActors child || someNeedsPriorActors rest

end

mutual

/-- The value of a tree that is present. -/
def evaluateTree (fields : Fields) (actor : ActorContext) : TransitionConditionTree → Bool
  | .or children => someHolds fields actor children
  | .and children => everyHolds fields actor children
  | .not child => if treeUsesActorRule child then false else !evaluateTree fields actor child
  | .actorNotCreator =>
    match actor.actorId with
    | none => false
    | some actorId => decide (some actorId ≠ actor.createdBy)
  | .actorIsCreator =>
    match actor.actorId with
    | none => false
    | some actorId => decide (some actorId = actor.createdBy)
  | .actorNotPriorActor states =>
    match actor.actorId, actor.priorActors with
    | some actorId, some prior =>
      !prior.any fun p =>
        p.actorId == actorId &&
          match states with
          | none => true
          | some states => states.contains p.fromState
    | _, _ => false
  | .field cond => evaluateFieldCondition cond fields

def someHolds (fields : Fields) (actor : ActorContext) : List TransitionConditionTree → Bool
  | [] => false
  | child :: rest => evaluateTree fields actor child || someHolds fields actor rest

def everyHolds (fields : Fields) (actor : ActorContext) : List TransitionConditionTree → Bool
  | [] => true
  | child :: rest => evaluateTree fields actor child && everyHolds fields actor rest

end

def evaluateConditionTree (tree : Option TransitionConditionTree) (fields : Fields)
    (actor : ActorContext) : Bool :=
  match tree with
  | none => true
  | some tree => evaluateTree fields actor tree

/-! ## Conjuncts -/

/-- `leaf` stands in the tree under `and` nodes only. -/
inductive Conjunct (leaf : TransitionConditionTree) : TransitionConditionTree → Prop
  | self : Conjunct leaf leaf
  | child {children : List TransitionConditionTree} {tree : TransitionConditionTree} :
    tree ∈ children → Conjunct leaf tree → Conjunct leaf (.and children)

variable {fields : Fields} {actor : ActorContext} {children : List TransitionConditionTree}

theorem everyHolds_iff :
    everyHolds fields actor children ↔ ∀ child ∈ children, evaluateTree fields actor child := by
  induction children with
  | nil => simp [everyHolds]
  | cons child rest ih => simp [everyHolds, ih]

theorem Conjunct.holds {leaf tree : TransitionConditionTree} {fields : Fields}
    {actor : ActorContext} (conjunct : Conjunct leaf tree)
    (holds : evaluateTree fields actor tree) : evaluateTree fields actor leaf := by
  induction conjunct with
  | self => exact holds
  | child mem _ ih =>
    rw [evaluateTree, everyHolds_iff] at holds
    exact ih (holds _ mem)

/-- The states of an `actor_not_prior_actor` rule cover `state`. -/
def coversState (states : Option (List String)) (state : String) : Prop :=
  ∀ listed, states = some listed → state ∈ listed

theorem notPriorActor_iff {states : Option (List String)} :
    evaluateTree fields actor (.actorNotPriorActor states) ↔
      ∃ actorId prior, actor.actorId = some actorId ∧ actor.priorActors = some prior ∧
        ∀ p ∈ prior, p.actorId = actorId → ¬ coversState states p.fromState := by
  rw [evaluateTree]
  cases actorEq : actor.actorId with
  | none => simp
  | some actorId =>
    cases priorEq : actor.priorActors with
    | none => simp
    | some prior =>
      cases states <;> simp [coversState, imp_not_comm]

theorem notCreator_iff :
    evaluateTree fields actor .actorNotCreator ↔
      ∃ actorId, actor.actorId = some actorId ∧ some actorId ≠ actor.createdBy := by
  rw [evaluateTree]
  cases actorEq : actor.actorId with
  | none => simp
  | some actorId => simp

/-! ## Unidentified actors

An actor rule refuses whoever is not identified, and a `not` over one holds for nobody.
So no tree holds for an unidentified actor unless it holds for everybody. -/

mutual

theorem evaluateTree_of_no_rule {fields : Fields} {actor other : ActorContext} :
    ∀ {tree : TransitionConditionTree}, treeUsesActorRule tree = false →
      evaluateTree fields actor tree = evaluateTree fields other tree
  | .and children, free => by
    rw [evaluateTree, evaluateTree, (evaluateTrees_of_no_rule free).2]
  | .or children, free => by
    rw [evaluateTree, evaluateTree, (evaluateTrees_of_no_rule free).1]
  | .not child, free => by
    have same : evaluateTree fields actor child = evaluateTree fields other child :=
      evaluateTree_of_no_rule free
    rw [evaluateTree, evaluateTree, same]
  | .field _, _ => rfl
  | .actorNotCreator, uses => nomatch uses
  | .actorIsCreator, uses => nomatch uses
  | .actorNotPriorActor _, uses => nomatch uses

theorem evaluateTrees_of_no_rule {fields : Fields} {actor other : ActorContext} :
    ∀ {children : List TransitionConditionTree}, someUsesActorRule children = false →
      someHolds fields actor children = someHolds fields other children ∧
        everyHolds fields actor children = everyHolds fields other children
  | [], _ => ⟨rfl, rfl⟩
  | child :: rest, free => by
    obtain ⟨here, later⟩ := Bool.or_eq_false_iff.mp free
    have same : evaluateTree fields actor child = evaluateTree fields other child :=
      evaluateTree_of_no_rule here
    have ⟨some_, every⟩ : someHolds fields actor rest = someHolds fields other rest ∧
        everyHolds fields actor rest = everyHolds fields other rest :=
      evaluateTrees_of_no_rule later
    exact ⟨by rw [someHolds, someHolds, same, some_], by rw [everyHolds, everyHolds, same, every]⟩

end

theorem evaluateTree_not_rule {child : TransitionConditionTree}
    (uses : treeUsesActorRule child) : evaluateTree fields actor (.not child) = false := by
  rw [evaluateTree, if_pos uses]

mutual

theorem evaluateTree_of_unidentified {fields : Fields} {unidentified actor : ActorContext}
    (nobody : unidentified.actorId = none) :
    ∀ {tree : TransitionConditionTree}, evaluateTree fields unidentified tree →
      evaluateTree fields actor tree
  | .and children, holds => by
    rw [evaluateTree] at holds ⊢
    exact (evaluateTrees_of_unidentified nobody).2 holds
  | .or children, holds => by
    rw [evaluateTree] at holds ⊢
    exact (evaluateTrees_of_unidentified nobody).1 holds
  | .not child, holds => by
    cases uses : treeUsesActorRule child with
    | true =>
      rw [evaluateTree_not_rule uses] at holds
      cases holds
    | false =>
      have free : treeUsesActorRule (.not child) = false := uses
      exact (evaluateTree_of_no_rule free).trans holds
  | .field _, holds => holds
  | .actorNotCreator, holds => by
    rw [evaluateTree, nobody] at holds
    cases holds
  | .actorIsCreator, holds => by
    rw [evaluateTree, nobody] at holds
    cases holds
  | .actorNotPriorActor _, holds => by
    rw [evaluateTree, nobody] at holds
    cases holds

theorem evaluateTrees_of_unidentified {fields : Fields} {unidentified actor : ActorContext}
    (nobody : unidentified.actorId = none) :
    ∀ {children : List TransitionConditionTree},
      (someHolds fields unidentified children → someHolds fields actor children) ∧
        (everyHolds fields unidentified children → everyHolds fields actor children)
  | [] => ⟨id, id⟩
  | child :: rest => by
    have here : evaluateTree fields unidentified child →
        evaluateTree fields actor child := evaluateTree_of_unidentified nobody
    have ⟨some_, every⟩ :
        (someHolds fields unidentified rest → someHolds fields actor rest) ∧
        (everyHolds fields unidentified rest → everyHolds fields actor rest) :=
      evaluateTrees_of_unidentified nobody
    constructor
    · intro holds
      rw [someHolds, Bool.or_eq_true] at holds ⊢
      exact holds.imp here some_
    · intro holds
      rw [everyHolds, Bool.and_eq_true] at holds ⊢
      exact ⟨here holds.1, every holds.2⟩

end

/-- Conditions that hold for an unidentified actor hold for every actor with every history,
and no `not` over an actor rule holds for anybody. -/
theorem actor_rules_fail_closed (tree : Option TransitionConditionTree) (fields : Fields)
    (unidentified actor : ActorContext) (nobody : unidentified.actorId = none) :
    (evaluateConditionTree tree fields unidentified = true →
        evaluateConditionTree tree fields actor = true) ∧
      ∀ child, treeUsesActorRule child = true →
        evaluateConditionTree (some (.not child)) fields unidentified = false ∧
          evaluateConditionTree (some (.not child)) fields actor = false := by
  refine ⟨fun holds => ?_, fun child uses => ?_⟩
  · cases tree with
    | none => rfl
    | some tree => exact evaluateTree_of_unidentified nobody holds
  · exact ⟨evaluateTree_not_rule uses, evaluateTree_not_rule uses⟩

/-- An actor without an identity and the record's creator, on a tree with a rule below an
`or` and a `not` over a field. -/
theorem actor_rules_fail_closed_creator :
    (evaluateConditionTree
          (some (.or [.actorIsCreator, .not (.field { op := .empty, field := "approved" })]))
          [("approved", .bool true)] ⟨none, some "u1", none⟩ = true →
        evaluateConditionTree
          (some (.or [.actorIsCreator, .not (.field { op := .empty, field := "approved" })]))
          [("approved", .bool true)] ⟨some "u1", some "u1", some []⟩ = true) ∧
      ∀ child, treeUsesActorRule child = true →
        evaluateConditionTree (some (.not child)) [("approved", .bool true)]
            ⟨none, some "u1", none⟩ = false ∧
          evaluateConditionTree (some (.not child)) [("approved", .bool true)]
            ⟨some "u1", some "u1", some []⟩ = false :=
  actor_rules_fail_closed _ _ _ _ rfl

end OpenWind
