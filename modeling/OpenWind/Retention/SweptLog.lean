import OpenWind.Entity.Archive
import OpenWind.Workflow.Notes
import OpenWind.Lib.Lockstep

/-!
# Calls on a store whose log was swept

Two stores that differ in their event logs only: one of them still has events that were swept
from the other.  The calls on a record run in lockstep on the two, as long as they do not meet a
swept event, by its identifier, by its idempotency key or as a move of the record.
-/

open List Option

namespace OpenWind

open Txn Txn.Lockstep

/-- The second store has the events of the first and those that were swept, and is the same
otherwise. -/
def Behind (swept : List WorkflowEvent) (db full : Db) : Prop :=
  ∃ events, full = { db with workflowEvents := events } ∧
    ∀ e, e ∈ events ↔ e ∈ db.workflowEvents ∨ e ∈ swept

/-- The two programs, which return values that are related. -/
abbrev Tx.Behind {α β : Type} (swept : List WorkflowEvent) (Q : α → β → Prop) (p : Tx α)
    (p' : Tx β) : Prop := Lockstep (OpenWind.Behind swept) Q p p'

theorem Behind.refl (db : Db) : Behind [] db db := by
  refine ⟨db.workflowEvents, rfl, fun e => ?_⟩
  simp only [not_mem_nil, or_false]

theorem Behind.shared {ρ : Type} {T : Table Db LockKey ρ} {swept : List WorkflowEvent}
    (rows : ∀ db events, T.rows { db with workflowEvents := events } = T.rows db)
    (put : ∀ db events rs,
      T.put { db with workflowEvents := events } rs = { T.put db rs with workflowEvents := events })
    (log : ∀ db rs, (T.put db rs).workflowEvents = db.workflowEvents) :
    Shared (Behind swept) T := by
  refine ⟨fun db full behind => ?_, fun db full rs behind => ?_⟩
  · obtain ⟨events, rfl, -⟩ := behind
    exact (rows db events).symm
  · obtain ⟨events, rfl, same⟩ := behind
    refine ⟨events, put db events rs, fun e => ?_⟩
    rw [log]
    exact same e

section Tables

variable {swept : List WorkflowEvent}

theorem Behind.workflows : Shared (Behind swept) Tables.workflows :=
  Behind.shared (fun _ _ => rfl) (fun _ _ _ => rfl) fun _ _ => rfl

theorem Behind.workflowStates : Shared (Behind swept) Tables.workflowStates :=
  Behind.shared (fun _ _ => rfl) (fun _ _ _ => rfl) fun _ _ => rfl

theorem Behind.workflowTransitions : Shared (Behind swept) Tables.workflowTransitions :=
  Behind.shared (fun _ _ => rfl) (fun _ _ _ => rfl) fun _ _ => rfl

theorem Behind.entityFields : Shared (Behind swept) Tables.entityFields :=
  Behind.shared (fun _ _ => rfl) (fun _ _ _ => rfl) fun _ _ => rfl

theorem Behind.entityInstances : Shared (Behind swept) Tables.entityInstances :=
  Behind.shared (fun _ _ => rfl) (fun _ _ _ => rfl) fun _ _ => rfl

theorem Behind.entityRelations : Shared (Behind swept) Tables.entityRelations :=
  Behind.shared (fun _ _ => rfl) (fun _ _ _ => rfl) fun _ _ => rfl

theorem Behind.outboxEvents : Shared (Behind swept) Tables.outboxEvents :=
  Behind.shared (fun _ _ => rfl) (fun _ _ _ => rfl) fun _ _ => rfl

end Tables

/-! ## What the rules on the actor read -/

structure ActorContext.Agrees (context context' : ActorContext) : Prop where
  actorId : context.actorId = context'.actorId
  createdBy : context.createdBy = context'.createdBy
  priorActors : Option.Rel (fun prior prior' => ∀ p, p ∈ prior ↔ p ∈ prior') context.priorActors
    context'.priorActors

section Rules

variable {context context' : ActorContext} {fields : Fields}

theorem ActorContext.Agrees.notPriorActor (agrees : context.Agrees context')
    (states : Option (List String)) :
    evaluateTree fields context (.actorNotPriorActor states) =
      evaluateTree fields context' (.actorNotPriorActor states) := by
  rw [Bool.eq_iff_iff, notPriorActor_iff, notPriorActor_iff, agrees.actorId]
  rcases prior : context.priorActors with _ | actors
  · have same := agrees.priorActors
    rw [prior] at same
    cases same' : context'.priorActors with
    | none => rfl
    | some actors' =>
      rw [same'] at same
      cases same
  · have same := agrees.priorActors
    rw [prior] at same
    cases same' : context'.priorActors with
    | none =>
      rw [same'] at same
      cases same
    | some actors' =>
      rw [same'] at same
      rcases same with ⟨members⟩
      simp only [Option.some.injEq, exists_and_left, exists_eq_left', members]

mutual

/-- Every rule decides the same. -/
theorem ActorContext.Agrees.evaluateTree (agrees : context.Agrees context') :
    ∀ tree, OpenWind.evaluateTree fields context tree = OpenWind.evaluateTree fields context' tree
  | .and children => agrees.everyHolds children
  | .or children => agrees.someHolds children
  | .not child => by
    unfold OpenWind.evaluateTree
    rw [agrees.evaluateTree child]
  | .field cond => rfl
  | .actorNotCreator => by
    unfold OpenWind.evaluateTree
    rw [agrees.actorId, agrees.createdBy]
  | .actorIsCreator => by
    unfold OpenWind.evaluateTree
    rw [agrees.actorId, agrees.createdBy]
  | .actorNotPriorActor states => agrees.notPriorActor states

theorem ActorContext.Agrees.someHolds (agrees : context.Agrees context') :
    ∀ children, OpenWind.someHolds fields context children =
      OpenWind.someHolds fields context' children
  | [] => rfl
  | child :: rest => by
    unfold OpenWind.someHolds
    rw [agrees.evaluateTree child, agrees.someHolds rest]

theorem ActorContext.Agrees.everyHolds (agrees : context.Agrees context') :
    ∀ children, OpenWind.everyHolds fields context children =
      OpenWind.everyHolds fields context' children
  | [] => rfl
  | child :: rest => by
    unfold OpenWind.everyHolds
    rw [agrees.evaluateTree child, agrees.everyHolds rest]

end

theorem ActorContext.Agrees.evaluateConditionTree (agrees : context.Agrees context')
    (tree : Option TransitionConditionTree) :
    OpenWind.evaluateConditionTree tree fields context =
      OpenWind.evaluateConditionTree tree fields context' := by
  cases tree with
  | none => rfl
  | some tree => exact agrees.evaluateTree tree

end Rules

/-! ## The engine -/

theorem Behind.insertWorkflowEvent {swept : List WorkflowEvent} {event : WorkflowEvent}
    (ids : ∀ e ∈ swept, e.id ≠ event.id)
    (keys : ∀ key, event.idempotencyKey = some key → ∀ e ∈ swept, e.instanceId = event.instanceId →
      e.idempotencyKey ≠ some key) :
    Tx.Behind swept Eq (insertWorkflowEvent event) (insertWorkflowEvent event) := by
  have fresh : ∀ db full, Behind swept db full →
      Tables.workflowEvents.fresh [event] db = Tables.workflowEvents.fresh [event] full := by
    intro db full behind
    obtain ⟨events, rfl, same⟩ := behind
    unfold Table.fresh
    have taken : (db.workflowEvents.all fun e => Tables.workflowEvents.key e !=
        Tables.workflowEvents.key event) = events.all fun e => Tables.workflowEvents.key e !=
          Tables.workflowEvents.key event := by
      rw [Bool.eq_iff_iff, List.all_eq_true, List.all_eq_true]
      constructor
      · intro free e mem
        rcases (same e).mp mem with here | gone
        · exact free e here
        · rw [bne_iff_ne]
          intro clash
          exact ids e gone (LockKey.row.inj clash).2
      · exact fun free e mem => free e ((same e).mpr (.inl mem))
    rw [all_cons, all_nil, all_cons, all_nil]
    exact congrArg _ (congrArg (· && true) taken)
  have appended : ∀ db full, Behind swept db full →
      Behind swept (Tables.workflowEvents.append [event] db)
        (Tables.workflowEvents.append [event] full) := by
    intro db full behind
    obtain ⟨events, rfl, same⟩ := behind
    refine ⟨events ++ [event], rfl, fun e => ?_⟩
    have log : (Tables.workflowEvents.append [event] db).workflowEvents =
        db.workflowEvents ++ [event] := rfl
    rw [log, mem_append, mem_append, same e]
    exact or_right_comm
  unfold OpenWind.insertWorkflowEvent
  cases key : event.idempotencyKey with
  | none => exact writeChecked fresh appended
  | some key' =>
    refine writeChecked (fun db full behind => ?_) appended
    rw [fresh db full behind]
    obtain ⟨events, rfl, same⟩ := behind
    have clash : (db.workflowEvents.any fun e => e.instanceId == event.instanceId &&
        e.idempotencyKey == some key') = events.any fun e => e.instanceId == event.instanceId &&
          e.idempotencyKey == some key' := by
      rw [Bool.eq_iff_iff, List.any_eq_true, List.any_eq_true]
      constructor
      · rintro ⟨e, mem, is⟩
        exact ⟨e, (same e).mpr (.inl mem), is⟩
      · rintro ⟨e, mem, is⟩
        rcases (same e).mp mem with here | gone
        · exact ⟨e, here, is⟩
        · rw [Bool.and_eq_true, beq_iff_eq, beq_iff_eq] at is
          exact absurd is.2 (keys key' key e gone is.1)
    exact congrArg (fun taken => _ && !taken) clash

section Engine

variable {swept : List WorkflowEvent} {tenantId instanceId : Id}

theorem Behind.lockInstance :
    Tx.Behind swept Eq (lockInstance tenantId instanceId) (lockInstance tenantId instanceId) := by
  unfold OpenWind.lockInstance
  refine bind_eq (Behind.entityInstances.lockRow _ _) fun row => ?_
  refine bind_eq (getOr _ _ _) fun row => ?_
  exact getOr _ _ _

/-- The record that is locked is the one asked for. -/
theorem Behind.lockOwn :
    Tx.Behind swept
      (fun (locked locked' : LockedInstance) => locked = locked' ∧ locked.row.id = instanceId)
      (OpenWind.lockInstance tenantId instanceId) (OpenWind.lockInstance tenantId instanceId) := by
  intro db full behind
  have both : Paired (OpenWind.Behind swept) Eq ((OpenWind.lockInstance tenantId instanceId).exec db)
      ((OpenWind.lockInstance tenantId instanceId).exec full) := Behind.lockInstance db full behind
  rcases ran : (OpenWind.lockInstance tenantId instanceId).exec db with e | ⟨locked, after⟩
  · rw [ran] at both
    generalize (OpenWind.lockInstance tenantId instanceId).exec full = outcome at both ⊢
    cases both with
    | failed => exact .failed
  · have selected := find?_some (exec_lockInstance_ok.mp ran).1
    rw [ran] at both
    generalize (OpenWind.lockInstance tenantId instanceId).exec full = outcome at both ⊢
    cases both with
    | returned values stores =>
      exact .returned ⟨values, eq_of_beq (Bool.and_eq_true_iff.mp selected).1⟩ stores

theorem Behind.findTransition {request : TransitionRequest} {instance_ : LockedInstance} :
    Tx.Behind swept Eq (findTransition tenantId request instance_)
      (findTransition tenantId request instance_) := by
  unfold OpenWind.findTransition
  refine bind_eq (Behind.workflows.find _) fun workflow => ?_
  refine bind_eq (getOr _ _ _) fun _ => ?_
  refine bind_eq (Behind.workflowTransitions.find _) fun transition => ?_
  exact getOr _ _ _

theorem Behind.priorActors {db full : Db} (behind : Behind swept db full)
    (kept : ∀ e ∈ swept, e.instanceId = instanceId → e.tenantId = tenantId → e.mover = none)
    (p : PriorActor) :
    p ∈ db.priorActors tenantId instanceId ↔ p ∈ full.priorActors tenantId instanceId := by
  obtain ⟨events, rfl, same⟩ := behind
  unfold Db.priorActors
  simp only [mem_filterMap, mem_dedup, mem_filter, Bool.and_eq_true, beq_iff_eq, same]
  constructor
  · rintro ⟨m, ⟨e, ⟨mem, about⟩, mover⟩, person⟩
    exact ⟨m, ⟨e, ⟨.inl mem, about⟩, mover⟩, person⟩
  · rintro ⟨m, ⟨e, ⟨here | gone, about⟩, mover⟩, person⟩
    · exact ⟨m, ⟨e, ⟨here, about⟩, mover⟩, person⟩
    · rw [kept e gone about.1 about.2] at mover
      cases mover

theorem Behind.actorContext {db full : Db} {createdBy actorId : Option String}
    {trees : List (Option TransitionConditionTree)} (behind : Behind swept db full)
    (kept : ∀ e ∈ swept, e.instanceId = instanceId → e.tenantId = tenantId → e.mover = none) :
    (db.actorContext tenantId instanceId createdBy actorId trees).Agrees
      (full.actorContext tenantId instanceId createdBy actorId trees) := by
  refine ⟨rfl, rfl, ?_⟩
  unfold Db.actorContext
  dsimp only
  split
  · exact .some (behind.priorActors kept)
  · exact .none

theorem Behind.loadActorContext {createdBy actorId : Option String}
    {trees : List (Option TransitionConditionTree)}
    (kept : ∀ e ∈ swept, e.instanceId = instanceId → e.tenantId = tenantId → e.mover = none) :
    Tx.Behind swept ActorContext.Agrees
      (loadActorContext tenantId instanceId createdBy actorId trees)
      (loadActorContext tenantId instanceId createdBy actorId trees) := by
  intro db full behind
  rw [exec_loadActorContext, exec_loadActorContext]
  exact .returned (behind.actorContext kept) behind

theorem Behind.checkTransition {request : TransitionRequest} {instance_ : LockedInstance}
    {transition : WorkflowTransition}
    (kept : ∀ e ∈ swept, e.instanceId = instance_.row.id → e.tenantId = tenantId → e.mover = none) :
    Tx.Behind swept Eq (checkTransition tenantId request instance_ transition)
      (checkTransition tenantId request instance_ transition) := by
  unfold OpenWind.checkTransition
  refine bind_eq (require rfl) fun _ => ?_
  refine Lockstep.bind (Behind.loadActorContext kept) fun context context' agrees => ?_
  refine bind_eq (require (agrees.evaluateConditionTree _)) fun _ => ?_
  refine bind_eq (require rfl) fun _ => ?_
  exact require rfl

theorem Behind.commitStateChange {instance_ : LockedInstance} {change : StateChange}
    {supply : Supply} (ids : ∀ e ∈ swept, e.id ≠ supply.eventId)
    (keys : ∀ key, change.idempotencyKey = some key → ∀ e ∈ swept,
      e.instanceId = instance_.row.id → e.idempotencyKey ≠ some key) :
    Tx.Behind swept (fun _ _ => True) (commitStateChange tenantId instance_ change supply)
      (commitStateChange tenantId instance_ change supply) := by
  unfold OpenWind.commitStateChange
  refine bind_eq (Behind.entityInstances.update _ _) fun _ => ?_
  refine bind_eq ?_ fun metadata => ?_
  · unfold safeMetadata
    split
    · exact ret rfl
    · refine bind_eq (Behind.entityFields.filter _) fun fieldRows => ?_
      exact ret rfl
  · refine bind_eq (Behind.insertWorkflowEvent ids keys) fun _ => ?_
    refine bind_eq (Behind.outboxEvents.insert _ _) fun _ => ?_
    refine bind_eq (Behind.outboxEvents.update _ _) fun _ => ?_
    refine bind_eq ?_ fun _ => ?_
    · unfold scheduleSlaIfNeeded
      refine bind_eq (Behind.workflowStates.find _) fun state => ?_
      exact Behind.outboxEvents.insert _ _
    · exact ret trivial

theorem Behind.findReplay {request : TransitionRequest}
    (keys : ∀ key, request.idempotencyKey = some key → ∀ e ∈ swept,
      e.instanceId = request.instanceId → e.idempotencyKey ≠ some key) :
    Tx.Behind swept (fun found found' => found.isSome = found'.isSome)
      (findReplay tenantId request) (findReplay tenantId request) := by
  intro db full behind
  rw [exec_findReplay, exec_findReplay]
  refine .returned ?_ behind
  obtain ⟨events, rfl, same⟩ := behind
  cases key : request.key with
  | none => rfl
  | some key' =>
    rw [bind_some, bind_some, isSome_find?, isSome_find?, Bool.eq_iff_iff,
      List.any_eq_true, List.any_eq_true]
    have own : request.idempotencyKey = some key' := (filter_eq_some_iff.mp key).1
    constructor
    · rintro ⟨e, mem, is⟩
      exact ⟨e, (same e).mpr (.inl mem), is⟩
    · rintro ⟨e, mem, is⟩
      rcases (same e).mp mem with here | gone
      · exact ⟨e, here, is⟩
      · unfold WorkflowEvent.keyed at is
        simp only [Bool.and_eq_true, beq_iff_eq] at is
        exact absurd is.2 (keys key' own e gone is.1.2)

theorem Behind.executeTransition {request : TransitionRequest} {supply : Supply}
    (ids : ∀ e ∈ swept, e.id ≠ supply.eventId)
    (keys : ∀ key, request.idempotencyKey = some key → ∀ e ∈ swept,
      e.instanceId = request.instanceId → e.idempotencyKey ≠ some key)
    (kept : ∀ e ∈ swept, e.instanceId = request.instanceId → e.tenantId = tenantId →
      e.mover = none) :
    Tx.Behind swept (fun _ _ => True) (executeTransition tenantId request supply)
      (executeTransition tenantId request supply) := by
  unfold OpenWind.executeTransition
  refine Lockstep.bind (Behind.findReplay keys) fun found found' same => ?_
  cases found with
  | some existing =>
    cases found' with
    | some existing' => exact ret trivial
    | none => cases same
  | none =>
    cases found' with
    | some existing' => cases same
    | none =>
      refine Lockstep.bind Behind.lockOwn fun instance_ locked' own => ?_
      obtain ⟨rfl, own⟩ := own
      rw [← own] at keys kept
      refine bind_eq Behind.findTransition fun transition => ?_
      refine bind_eq (Behind.checkTransition kept) fun _ => ?_
      exact Behind.commitStateChange ids keys

theorem Behind.overrideWorkflowState {request : StateOverrideRequest} {supply : Supply}
    (ids : ∀ e ∈ swept, e.id ≠ supply.eventId) :
    Tx.Behind swept (fun _ _ => True) (overrideWorkflowState tenantId request supply)
      (overrideWorkflowState tenantId request supply) := by
  unfold OpenWind.overrideWorkflowState
  refine bind_eq (getOr _ _ _) fun actorId => ?_
  refine bind_eq (require rfl) fun _ => ?_
  refine bind_eq Behind.lockInstance fun instance_ => ?_
  refine bind_eq (Behind.workflows.find _) fun workflow => ?_
  refine bind_eq (getOr _ _ _) fun workflow => ?_
  refine bind_eq (require rfl) fun _ => ?_
  refine bind_eq (require rfl) fun _ => ?_
  refine bind_eq (Behind.workflowStates.filter _) fun states => ?_
  refine bind_eq (require rfl) fun _ => ?_
  refine bind_eq (require rfl) fun _ => ?_
  refine Behind.commitStateChange ids fun key keyed => ?_
  cases keyed

theorem Behind.insertNote {ctx : WorkflowContext} {note : Note} {createdAt : Time} {eventId : Id}
    (ids : ∀ e ∈ swept, e.id ≠ eventId) :
    Tx.Behind swept (fun _ _ => True) (insertNote tenantId instanceId ctx note createdAt eventId)
      (insertNote tenantId instanceId ctx note createdAt eventId) := by
  unfold OpenWind.insertNote
  refine bind_eq (Behind.entityInstances.find _) fun row => ?_
  refine bind_eq (require rfl) fun _ => ?_
  refine (Behind.insertWorkflowEvent ids fun key keyed => ?_).mono fun _ _ _ => trivial
  cases keyed

end Engine

/-! ## The entity engine -/

/-- The checks of the fields do not read the log. -/
structure FieldRules.IgnoreLog (rules : FieldRules) : Prop where
  create : ∀ db events tenantId input,
    rules.create { db with workflowEvents := events } tenantId input = rules.create db tenantId input
  complete : ∀ db events tenantId input fields,
    rules.complete { db with workflowEvents := events } tenantId input fields =
      rules.complete db tenantId input fields

section Entities

variable {swept : List WorkflowEvent} {tenantId instanceId : Id}

theorem Behind.rescheduleDueDate {row : EntityInstance} {oldDueDate newDueDate : Option Time}
    {supply : EntitySupply} {rowId : Id} :
    Tx.Behind swept Eq (rescheduleDueDate tenantId row oldDueDate newDueDate supply rowId)
      (rescheduleDueDate tenantId row oldDueDate newDueDate supply rowId) := by
  unfold OpenWind.rescheduleDueDate
  split
  · exact ret rfl
  · refine bind_eq (Behind.outboxEvents.update _ _) fun _ => ?_
    cases newDueDate with
    | none => exact ret rfl
    | some dueDate => exact Behind.outboxEvents.insert _ _

theorem Behind.requestedState {input : CreateEntityInput} :
    Tx.Behind swept Eq (requestedState tenantId input) (requestedState tenantId input) := by
  unfold OpenWind.requestedState creationState
  cases input.workflowId with
  | none => exact ret rfl
  | some workflowId =>
    refine bind_eq (read fun db full behind => ?_) fun validStates => ?_
    · obtain ⟨events, rfl, -⟩ := behind
      rfl
    refine bind_eq (read fun db full behind => ?_) fun start => ?_
    · obtain ⟨events, rfl, -⟩ := behind
      rfl
    split
    · exact ret rfl
    · refine bind_eq (require rfl) fun _ => ?_
      refine bind_eq (read fun db full behind => ?_) fun locked => ?_
      · obtain ⟨events, rfl, -⟩ := behind
        rfl
      refine bind_eq (require rfl) fun _ => ?_
      exact ret rfl

theorem Behind.createEntity {rules : FieldRules} {input : CreateEntityInput} {supply : EntitySupply}
    (ignore : rules.IgnoreLog) (ids : ∀ e ∈ swept, e.id ≠ supply.id 0) :
    Tx.Behind swept (fun _ _ => True) (createEntity rules tenantId input supply)
      (createEntity rules tenantId input supply) := by
  unfold OpenWind.createEntity
  refine bind_eq (read fun db full behind => ?_) fun checked => ?_
  · obtain ⟨events, rfl, -⟩ := behind
    unfold Db.checkCreate
    simp only [ignore.create, ignore.complete]
    rfl
  refine bind_eq ?_ fun fields => ?_
  · cases checked with
    | ok fields => exact ret rfl
    | error e => exact fail e e
  refine bind_eq Behind.requestedState fun currentState => ?_
  refine bind_eq (Behind.entityInstances.insert _ _) fun _ => ?_
  refine bind_eq Behind.rescheduleDueDate fun _ => ?_
  refine bind_eq (Behind.entityFields.filter _) fun allFields => ?_
  refine bind_eq ?_ fun _ => ?_
  · unfold logCreation
    cases input.workflowId with
    | none => exact ret rfl
    | some workflowId =>
      refine Behind.insertWorkflowEvent ids fun key keyed => ?_
      cases keyed
  refine bind_eq (Behind.outboxEvents.insert _ _) fun _ => ?_
  exact ret trivial

/-! ## Archiving -/

theorem Behind.collectDescendants (bound : Nat) (queue result : List Id) :
    Tx.Behind swept Eq (collectDescendants tenantId bound queue result)
      (collectDescendants tenantId bound queue result) := by
  intro db full behind
  rw [exec_collectDescendants, exec_collectDescendants]
  obtain ⟨events, rfl, same⟩ := behind
  have children : Db.childIds { db with workflowEvents := events } tenantId = db.childIds tenantId :=
    rfl
  rw [children]
  cases Worklist.collect (db.childIds tenantId) bound queue result with
  | none => exact .failed
  | some ids => exact .returned rfl ⟨events, rfl, same⟩

theorem Behind.markTree {rootId : Id} {ids : List Id} {before after : Option Time} :
    Tx.Behind swept Eq (markTree tenantId rootId ids before after)
      (markTree tenantId rootId ids before after) := by
  unfold OpenWind.markTree
  refine bind_eq (Behind.entityInstances.update _ _) fun _ => ?_
  refine bind_eq (Behind.entityRelations.update _ _) fun _ => ?_
  exact Behind.entityRelations.update _ _

theorem Behind.archiveEntity {confirm : Bool} {supply : EntitySupply} {bound : Nat} :
    Tx.Behind swept (fun _ _ => True) (archiveEntity tenantId instanceId confirm supply bound)
      (archiveEntity tenantId instanceId confirm supply bound) := by
  unfold OpenWind.archiveEntity
  refine bind_eq (Behind.entityInstances.find _) fun row => ?_
  refine bind_eq (getOr _ _ _) fun _ => ?_
  refine bind_eq (Behind.collectDescendants _ _ _) fun descendantIds => ?_
  split
  · exact ret trivial
  · refine bind_eq Behind.markTree fun _ => ?_
    refine bind_eq (Behind.outboxEvents.update _ _) fun _ => ?_
    exact ret trivial

end Entities

end OpenWind
