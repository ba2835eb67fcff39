import OpenWind.Workflow.Engine

/-!
# The transitions on offer

`getAvailableTransitions` lists the transitions that a person may take from a record's
state.  It repeats the guards of `executeTransition` on roles and conditions, over a history
that is read once for all the transitions of the state.
-/

open List Option Bool Txn.Prog

namespace OpenWind

open Txn TransitionConditionTree

/-! ## Listing -/

def WorkflowTransition.leavesState (tenantId : Id) (instance_ : LockedInstance)
    (transition : WorkflowTransition) : Bool :=
  transition.workflowId == instance_.workflowId &&
    transition.fromState == instance_.row.currentState && transition.tenantId == tenantId

def WorkflowTransition.isOpen (transition : WorkflowTransition) (actorRoles : List String)
    (fields : Fields) (actor : ActorContext) : Bool :=
  (transition.allowedRoles.isEmpty || hasRequiredRole actorRoles transition.allowedRoles) &&
    evaluateConditionTree transition.conditions fields actor

def getAvailableTransitions (tenantId instanceId : Id) (actorRoles : List String)
    (actorId : Option String) : Tx (List WorkflowTransition) := do
  let row ← Tables.entityInstances.find (EntityInstance.isOf tenantId instanceId)
  match row.bind EntityInstance.locked with
  | none => return []
  | some instance_ =>
    let transitions ← Tables.workflowTransitions.filter
      (WorkflowTransition.leavesState tenantId instance_)
    let actor ← loadActorContext tenantId instance_.row.id instance_.row.createdBy actorId
      (transitions.map (·.conditions))
    return transitions.filter fun transition =>
      transition.isOpen actorRoles instance_.row.fields actor

/-! ## The history that is loaded -/

mutual

theorem evaluateTree_of_no_prior {fields : Fields} {actorId createdBy : Option String}
    {prior other : Option (List PriorActor)} :
    ∀ {tree : TransitionConditionTree}, treeNeedsPriorActors tree = false →
      evaluateTree fields ⟨actorId, createdBy, prior⟩ tree =
        evaluateTree fields ⟨actorId, createdBy, other⟩ tree
  | .and children, free => by
    rw [evaluateTree, evaluateTree, (evaluateTrees_of_no_prior free).2]
  | .or children, free => by
    rw [evaluateTree, evaluateTree, (evaluateTrees_of_no_prior free).1]
  | .not child, free => by
    have same : evaluateTree fields ⟨actorId, createdBy, prior⟩ child =
        evaluateTree fields ⟨actorId, createdBy, other⟩ child := evaluateTree_of_no_prior free
    rw [evaluateTree, evaluateTree, same]
  | .field _, _ => rfl
  | .actorNotCreator, _ => rfl
  | .actorIsCreator, _ => rfl
  | .actorNotPriorActor _, needs => nomatch needs

theorem evaluateTrees_of_no_prior {fields : Fields} {actorId createdBy : Option String}
    {prior other : Option (List PriorActor)} :
    ∀ {children : List TransitionConditionTree}, someNeedsPriorActors children = false →
      someHolds fields ⟨actorId, createdBy, prior⟩ children =
          someHolds fields ⟨actorId, createdBy, other⟩ children ∧
        everyHolds fields ⟨actorId, createdBy, prior⟩ children =
          everyHolds fields ⟨actorId, createdBy, other⟩ children
  | [], _ => ⟨rfl, rfl⟩
  | child :: rest, free => by
    obtain ⟨here, later⟩ := or_eq_false_iff.mp free
    have same : evaluateTree fields ⟨actorId, createdBy, prior⟩ child =
        evaluateTree fields ⟨actorId, createdBy, other⟩ child := evaluateTree_of_no_prior here
    have ⟨some_, every⟩ : someHolds fields ⟨actorId, createdBy, prior⟩ rest =
          someHolds fields ⟨actorId, createdBy, other⟩ rest ∧
        everyHolds fields ⟨actorId, createdBy, prior⟩ rest =
          everyHolds fields ⟨actorId, createdBy, other⟩ rest := evaluateTrees_of_no_prior later
    exact ⟨by rw [someHolds, someHolds, same, some_], by rw [everyHolds, everyHolds, same, every]⟩

end

/-- The context with the whole history, loaded whether it is needed or not. -/
def Db.fullContext (db : Db) (tenantId instanceId : Id) (createdBy actorId : Option String) :
    ActorContext where
  actorId := userActorId actorId
  createdBy := createdBy
  priorActors := some (db.priorActors tenantId instanceId)

theorem evaluateConditionTree_lazy (db : Db) (tenantId instanceId : Id)
    (createdBy actorId : Option String) {trees : List (Option TransitionConditionTree)}
    {tree : Option TransitionConditionTree} (mem : tree ∈ trees) (fields : Fields) :
    evaluateConditionTree tree fields (db.actorContext tenantId instanceId createdBy actorId trees) =
      evaluateConditionTree tree fields (db.fullContext tenantId instanceId createdBy actorId) := by
  unfold Db.actorContext Db.fullContext
  by_cases needed : trees.any needsPriorActors = true
  · rw [if_pos needed]
  · rw [if_neg needed]
    cases tree with
    | none => rfl
    | some tree =>
      refine evaluateTree_of_no_prior ?_
      rw [eq_false_iff]
      exact fun needs => needed (List.any_eq_true.mpr ⟨some tree, mem, needs⟩)

/-! ## The guards of a transition -/

def WorkflowErrorCode.isGuard : WorkflowErrorCode → Bool
  | .instanceNotFound | .transitionNotAvailable | .transitionForbidden | .conditionNotMet => true
  | _ => false

/-- A transaction that failed at one of these guards. -/
def RefusedByGuards {α : Type} (result : Except TxError α) : Prop :=
  ∃ code details, result = .error (.workflow code details) ∧ code.isGuard = true

def checkSupplied (request : TransitionRequest) (row : EntityInstance)
    (transition : WorkflowTransition) : Tx Unit := do
  Tx.requireW (missingFields transition.requiresFields row.fields).isEmpty .requiredFieldsMissing
    [("missing", .strs (missingFields transition.requiresFields row.fields))]
  Tx.requireW (!transition.requiresComment || hasComment request.comment)
    .requiredFieldsMissing [("missing", .strs ["comment"])]

/-- What `executeTransition` does with a request that has passed the guards. -/
def proceed (tenantId : Id) (request : TransitionRequest) (instance_ : LockedInstance)
    (transition : WorkflowTransition) (supply : Supply) : Tx EventResult := do
  checkSupplied request instance_.row transition
  commitStateChange tenantId instance_ (request.change transition) supply

/-- The guards on state, roles and conditions let the request pass. -/
structure Db.Admits (db : Db) (tenantId : Id) (request : TransitionRequest)
    (instance_ : LockedInstance) (transition : WorkflowTransition) : Prop where
  found : db.entityInstances.find? (EntityInstance.isOf tenantId request.instanceId) =
    some instance_.row
  defined : ∃ workflow, db.workflows.find? (Workflow.isOf tenantId instance_.workflowId) =
    some workflow
  named : db.workflowTransitions.find?
    (WorkflowTransition.isOf tenantId instance_.workflowId request.transitionId) = some transition
  leaves : transition.fromState = instance_.row.currentState
  isOpen : transition.isOpen (request.actorRoles.getD []) instance_.row.fields
    (db.actorContext tenantId instance_.row.id instance_.row.createdBy request.actorId
      [transition.conditions]) = true

/-- The event that answers a request without asking the guards. -/
def Db.replayOf (db : Db) (tenantId : Id) (request : TransitionRequest) : Option WorkflowEvent :=
  request.key.bind fun key =>
    db.workflowEvents.find? (WorkflowEvent.keyed tenantId request.instanceId key)

section Guards

variable {db : Db} {tenantId : Id} {request : TransitionRequest}

theorem exec_lockInstance_cases (db : Db) (tenantId instanceId : Id) :
    (∃ instance_, (lockInstance tenantId instanceId).exec db = .ok (instance_, db)) ∨
      RefusedByGuards ((lockInstance tenantId instanceId).exec db) := by
  unfold lockInstance
  simp only [bind_eq, exec_bind, Table.exec_lockRow, exec_getOr]
  cases (Tables.entityInstances.rows db).find? (EntityInstance.isOf tenantId instanceId) with
  | none => exact .inr ⟨_, _, rfl, rfl⟩
  | some row =>
    dsimp only
    cases row.locked with
    | none => exact .inr ⟨_, _, rfl, rfl⟩
    | some instance_ => exact .inl ⟨instance_, rfl⟩

theorem exec_findTransition_cases (db : Db) (tenantId : Id) (request : TransitionRequest)
    (instance_ : LockedInstance) :
    (∃ transition, (findTransition tenantId request instance_).exec db = .ok (transition, db)) ∨
      RefusedByGuards ((findTransition tenantId request instance_).exec db) := by
  unfold findTransition
  simp only [bind_eq, exec_bind, Table.exec_find, exec_getOr]
  cases (Tables.workflows.rows db).find? (Workflow.isOf tenantId instance_.workflowId) with
  | none => exact .inr ⟨_, _, rfl, rfl⟩
  | some workflow =>
    dsimp only
    cases ((Tables.workflowTransitions.rows db).find? (WorkflowTransition.isOf tenantId
        instance_.workflowId request.transitionId)).filter
          fun t => t.fromState == instance_.row.currentState with
    | none => exact .inr ⟨_, _, rfl, rfl⟩
    | some transition => exact .inl ⟨transition, rfl⟩

variable {instance_ : LockedInstance} {transition : WorkflowTransition}

theorem exec_checkTransition_open
    (isOpen : transition.isOpen (request.actorRoles.getD []) instance_.row.fields
      (db.actorContext tenantId instance_.row.id instance_.row.createdBy request.actorId
        [transition.conditions])) :
    (checkTransition tenantId request instance_ transition).exec db =
      (checkSupplied request instance_.row transition).exec db := by
  obtain ⟨roles, met⟩ := and_eq_true_iff.mp isOpen
  unfold checkTransition checkSupplied Tx.requireW
  simp only [bind_eq, exec_bind, exec_loadActorContext, exec_require, roles, met, if_true]

theorem exec_checkTransition_refused
    (shut : transition.isOpen (request.actorRoles.getD []) instance_.row.fields
      (db.actorContext tenantId instance_.row.id instance_.row.createdBy request.actorId
        [transition.conditions]) = false) :
    RefusedByGuards ((checkTransition tenantId request instance_ transition).exec db) := by
  unfold checkTransition Tx.requireW
  simp only [bind_eq, exec_bind, exec_loadActorContext, exec_require]
  rcases and_eq_false_iff.mp shut with roles | unmet
  · rw [roles]
    exact ⟨.transitionForbidden, _, rfl, rfl⟩
  · cases (transition.allowedRoles.isEmpty ||
        hasRequiredRole (request.actorRoles.getD []) transition.allowedRoles) with
    | false => exact ⟨.transitionForbidden, _, rfl, rfl⟩
    | true =>
      simp only [if_true, unmet]
      exact ⟨.conditionNotMet, _, rfl, rfl⟩

theorem exec_executeTransition_admitted (unanswered : db.replayOf tenantId request = none)
    (supply : Supply) (admits : db.Admits tenantId request instance_ transition) :
    (executeTransition tenantId request supply).exec db =
      (proceed tenantId request instance_ transition supply).exec db := by
  have locked := exec_lockInstance_ok.mpr ⟨admits.found, Eq.refl db⟩
  have selected := exec_findTransition_ok.mpr
    ⟨⟨admits.defined, admits.named, admits.leaves⟩, Eq.refl db⟩
  unfold Db.replayOf at unanswered
  unfold executeTransition proceed
  rw [bind_eq, exec_bind, exec_findReplay, unanswered]
  simp only [bind_eq, exec_bind, locked, selected, exec_checkTransition_open admits.isOpen]

theorem exec_executeTransition (unanswered : db.replayOf tenantId request = none)
    (supply : Supply) :
    (∃ instance_ transition, db.Admits tenantId request instance_ transition) ∨
      RefusedByGuards ((executeTransition tenantId request supply).exec db) := by
  unfold Db.replayOf at unanswered
  unfold executeTransition
  rw [bind_eq, exec_bind, exec_findReplay, unanswered]
  simp only [bind_eq, exec_bind]
  rcases exec_lockInstance_cases db tenantId request.instanceId with
    ⟨instance_, locked⟩ | ⟨code, details, refused, guard⟩
  · rw [locked]
    dsimp only
    rcases exec_findTransition_cases db tenantId request instance_ with
      ⟨transition, selected⟩ | ⟨code, details, refused, guard⟩
    · rw [selected]
      dsimp only
      cases isOpen : transition.isOpen (request.actorRoles.getD []) instance_.row.fields
          (db.actorContext tenantId instance_.row.id instance_.row.createdBy request.actorId
            [transition.conditions]) with
      | true =>
        obtain ⟨found, -⟩ := exec_lockInstance_ok.mp locked
        obtain ⟨⟨defined, named, leaves⟩, -⟩ := exec_findTransition_ok.mp selected
        exact .inl ⟨instance_, transition, ⟨found, defined, named, leaves, isOpen⟩⟩
      | false =>
        obtain ⟨code, details, refused, guard⟩ := exec_checkTransition_refused isOpen
        rw [refused]
        exact .inr ⟨code, details, rfl, guard⟩
    · rw [refused]
      exact .inr ⟨code, details, rfl, guard⟩
  · rw [refused]
    exact .inr ⟨code, details, rfl, guard⟩

def AfterGuards : TxError → Prop
  | .workflow code _ => code = .requiredFieldsMissing
  | .unique _ => True
  | _ => False

theorem proceed_fails (tenantId : Id) (request : TransitionRequest) (instance_ : LockedInstance)
    (transition : WorkflowTransition) (supply : Supply) :
    (proceed tenantId request instance_ transition supply).FailsBy AfterGuards := by
  have inserts (event : WorkflowEvent) : (insertWorkflowEvent event).FailsBy AfterGuards := by
    unfold insertWorkflowEvent
    split
    next => exact .writeChecked trivial
    next => exact .writeChecked trivial
  have metadata : (safeMetadata tenantId instance_.row.entityTypeId
      ((request.change transition).metadata.getD [])).FailsBy AfterGuards := by
    unfold safeMetadata
    split
    next => trivial
    next => exact .bind (.read _) fun _ => trivial
  refine .bind (.bind (.require rfl) fun _ => .require rfl) fun _ => ?_
  refine .bind (.write _ _) fun _ => .bind metadata fun _ => .bind (inserts _) fun _ => ?_
  refine .bind (.writeChecked trivial) fun _ => .bind (.write _ _) fun _ => ?_
  exact .bind (.bind (.read _) fun _ => .writeChecked trivial) fun _ => trivial

theorem not_refused_proceed (db : Db) (tenantId : Id) (request : TransitionRequest)
    (instance_ : LockedInstance) (transition : WorkflowTransition) (supply : Supply) :
    ¬ RefusedByGuards ((proceed tenantId request instance_ transition supply).exec db) := by
  rintro ⟨code, details, failed, guard⟩
  have after : code = .requiredFieldsMissing :=
    (proceed_fails tenantId request instance_ transition supply).exec failed
  rw [after] at guard
  cases guard

end Guards

/-! ## What is offered and what is accepted -/

def Db.offered (db : Db) (tenantId instanceId : Id) (actorRoles : List String)
    (actorId : Option String) : List WorkflowTransition :=
  match (db.entityInstances.find? (EntityInstance.isOf tenantId instanceId)).bind
      EntityInstance.locked with
  | none => []
  | some instance_ =>
    let transitions := db.workflowTransitions.filter
      (WorkflowTransition.leavesState tenantId instance_)
    transitions.filter fun transition => transition.isOpen actorRoles instance_.row.fields
      (db.actorContext tenantId instance_.row.id instance_.row.createdBy actorId
        (transitions.map (·.conditions)))

theorem exec_getAvailableTransitions (db : Db) (tenantId instanceId : Id)
    (actorRoles : List String) (actorId : Option String) :
    (getAvailableTransitions tenantId instanceId actorRoles actorId).exec db =
      .ok (db.offered tenantId instanceId actorRoles actorId, db) := by
  unfold getAvailableTransitions Db.offered
  simp only [bind_eq, exec_bind, Table.exec_find, Tables.entityInstances_rows]
  cases (db.entityInstances.find? (EntityInstance.isOf tenantId instanceId)).bind
      EntityInstance.locked with
  | none => rfl
  | some instance_ =>
    simp only [exec_bind, Table.exec_filter, Tables.workflowTransitions_rows, exec_loadActorContext,
      exec_pure]

theorem mem_offered_iff {db : Db} {tenantId : Id} {request : TransitionRequest}
    {workflow : Workflow} {transition : WorkflowTransition}
    (keyed : Tables.workflowTransitions.Keyed db) (memWorkflow : workflow ∈ db.workflows)
    (belongs : workflow.isOf tenantId transition.workflowId)
    (mem : transition ∈ db.workflowTransitions) (asked : request.transitionId = transition.id) :
    transition ∈ db.offered tenantId request.instanceId (request.actorRoles.getD [])
        request.actorId ↔
      ∃ instance_ named, db.Admits tenantId request instance_ named := by
  have unique : ∀ {workflowId : Id} {named : WorkflowTransition}, db.workflowTransitions.find?
      (WorkflowTransition.isOf tenantId workflowId request.transitionId) = some named →
      named = transition := by
    intro workflowId named found
    have selected := find?_some found
    simp only [WorkflowTransition.isOf, and_eq_true, beq_iff_eq] at selected
    refine keyed.eq (mem_of_find?_eq_some found) mem ?_
    exact congrArg (LockKey.row .workflowTransitions) (selected.1.2.trans asked)
  unfold Db.offered
  constructor
  · intro listed
    cases locked : (db.entityInstances.find? (EntityInstance.isOf tenantId
        request.instanceId)).bind EntityInstance.locked with
    | none =>
      rw [locked] at listed
      cases listed
    | some instance_ =>
      rw [locked] at listed
      obtain ⟨leaving, isOpen⟩ := mem_filter.mp listed
      obtain ⟨-, leaves⟩ := mem_filter.mp leaving
      simp only [WorkflowTransition.leavesState, and_eq_true, beq_iff_eq] at leaves
      obtain ⟨⟨ofWorkflow, fromState⟩, ofTenant⟩ := leaves
      obtain ⟨row, found, attached⟩ := bind_eq_some_iff.mp locked
      rw [EntityInstance.locked_eq_some.mp attached] at found
      have defined : ∃ workflow, db.workflows.find?
          (Workflow.isOf tenantId instance_.workflowId) = some workflow := by
        refine isSome_iff_exists.mp (find?_isSome.mpr ⟨workflow, memWorkflow, ?_⟩)
        rw [← ofWorkflow]
        exact belongs
      have named : db.workflowTransitions.find? (WorkflowTransition.isOf tenantId
          instance_.workflowId request.transitionId) = some transition := by
        have some_ : (db.workflowTransitions.find? (WorkflowTransition.isOf tenantId
            instance_.workflowId request.transitionId)).isSome := by
          refine find?_isSome.mpr ⟨transition, mem, ?_⟩
          simp only [WorkflowTransition.isOf, and_eq_true, beq_iff_eq]
          exact ⟨⟨ofWorkflow, asked.symm⟩, ofTenant⟩
        obtain ⟨named, is⟩ := isSome_iff_exists.mp some_
        rw [is, unique is]
      refine ⟨instance_, transition, ⟨found, defined, named, fromState, ?_⟩⟩
      obtain ⟨roles, met⟩ := and_eq_true_iff.mp isOpen
      refine and_eq_true_iff.mpr ⟨roles, ?_⟩
      rw [evaluateConditionTree_lazy db _ _ _ _ (mem_singleton_self _)]
      rw [evaluateConditionTree_lazy db _ _ _ _ (List.mem_map_of_mem leaving)] at met
      exact met
  · rintro ⟨instance_, named, admits⟩
    obtain rfl := unique admits.named
    have locked : (db.entityInstances.find? (EntityInstance.isOf tenantId
        request.instanceId)).bind EntityInstance.locked = some instance_ := by
      rw [admits.found, bind_some]
      exact EntityInstance.locked_eq_some.mpr rfl
    rw [locked]
    have selected := find?_some admits.named
    simp only [WorkflowTransition.isOf, and_eq_true, beq_iff_eq] at selected
    have leaving : named ∈ db.workflowTransitions.filter
        (WorkflowTransition.leavesState tenantId instance_) := by
      refine mem_filter.mpr ⟨mem, ?_⟩
      simp only [WorkflowTransition.leavesState, and_eq_true, beq_iff_eq]
      exact ⟨⟨selected.1.1, admits.leaves⟩, selected.2⟩
    refine mem_filter.mpr ⟨leaving, ?_⟩
    obtain ⟨roles, met⟩ := and_eq_true_iff.mp admits.isOpen
    refine and_eq_true_iff.mpr ⟨roles, ?_⟩
    rw [evaluateConditionTree_lazy db _ _ _ _ (List.mem_map_of_mem leaving)]
    rw [evaluateConditionTree_lazy db _ _ _ _ (mem_singleton_self _)] at met
    exact met

def Db.OffersAccepted (db : Db) (tenantId : Id) (request : TransitionRequest) (supply : Supply)
    (transition : WorkflowTransition) : Prop :=
  ∃ offered, (getAvailableTransitions tenantId request.instanceId (request.actorRoles.getD [])
      request.actorId).exec db = .ok (offered, db) ∧
    (transition ∈ offered ↔
      ¬ RefusedByGuards ((executeTransition tenantId request supply).exec db)) ∧
    (transition ∈ offered → ∃ instance_, (executeTransition tenantId request supply).exec db =
      (proceed tenantId request instance_ transition supply).exec db)

def Db.LoadsEnough (db : Db) (tenantId : Id) : Prop :=
  ∀ (instanceId : Id) (createdBy actorId : Option String)
    (trees : List (Option TransitionConditionTree)), ∃ context,
      (loadActorContext tenantId instanceId createdBy actorId trees).exec db = .ok (context, db) ∧
      ∀ tree ∈ trees, ∀ fields, evaluateConditionTree tree fields context =
        evaluateConditionTree tree fields (db.fullContext tenantId instanceId createdBy actorId)

theorem Db.loadsEnough (db : Db) (tenantId : Id) : db.LoadsEnough tenantId :=
  fun instanceId createdBy actorId trees =>
    ⟨_, exec_loadActorContext tenantId instanceId createdBy actorId trees db,
      fun _ mem fields => evaluateConditionTree_lazy db tenantId instanceId createdBy actorId mem
        fields⟩

/-- What is offered is what is accepted: over one snapshot, a transition of a workflow is
listed for a person exactly when a request of that person for it, under a key that has no event
yet, passes the guards on state, roles and conditions. -/
theorem offered_iff_accepted {db : Db} {tenantId : Id} {request : TransitionRequest}
    {workflow : Workflow} {transition : WorkflowTransition} (supply : Supply)
    (keyed : Tables.workflowTransitions.Keyed db) (memWorkflow : workflow ∈ db.workflows)
    (belongs : workflow.isOf tenantId transition.workflowId = true)
    (mem : transition ∈ db.workflowTransitions) (asked : request.transitionId = transition.id)
    (unanswered : db.replayOf tenantId request = none) :
    db.OffersAccepted tenantId request supply transition ∧ db.LoadsEnough tenantId := by
  refine ⟨⟨_, exec_getAvailableTransitions db tenantId request.instanceId _ _, ?_, fun listed => ?_⟩,
    db.loadsEnough tenantId⟩
  · rw [mem_offered_iff keyed memWorkflow belongs mem asked]
    rcases exec_executeTransition unanswered supply with ⟨instance_, named, admits⟩ | refused
    · rw [exec_executeTransition_admitted unanswered supply admits]
      exact iff_of_true ⟨instance_, named, admits⟩
        (not_refused_proceed db tenantId request instance_ named supply)
    · refine iff_of_false (fun ⟨instance_, named, admits⟩ => ?_) (not_not_intro refused)
      rw [exec_executeTransition_admitted unanswered supply admits] at refused
      exact not_refused_proceed db tenantId request instance_ named supply refused
  · obtain ⟨instance_, named, admits⟩ := (mem_offered_iff keyed memWorkflow belongs mem asked).mp listed
    have same : named = transition := by
      have selected := find?_some admits.named
      simp only [WorkflowTransition.isOf, and_eq_true, beq_iff_eq] at selected
      refine keyed.eq (mem_of_find?_eq_some admits.named) mem ?_
      exact congrArg (LockKey.row .workflowTransitions) (selected.1.2.trans asked)
    rw [← same]
    exact ⟨instance_, exec_executeTransition_admitted unanswered supply admits⟩

def barredTicket : Db where
  workflows := [{ id := 1, tenantId := some 1, entityTypeId := 2, initialState := "open" }]
  workflowTransitions := [{ id := 5, tenantId := 1, workflowId := 1, fromState := "open",
                            toState := "done", conditions := some (.actorNotPriorActor none) }]
  entityInstances := [{ id := 10, entityTypeId := 2, tenantId := 1, workflowId := some 1,
                        currentState := "open", createdAt := 0, updatedAt := 0 }]

/-- The transition of the ticket, and a first request for it. -/
theorem offered_iff_accepted_barred :
    barredTicket.OffersAccepted 1 { instanceId := 10, transitionId := 5, actorId := some "u1" }
        ⟨0, 0, 20, 21, 22, 23⟩
        { id := 5, tenantId := 1, workflowId := 1, fromState := "open", toState := "done",
          conditions := some (.actorNotPriorActor none) } ∧
      barredTicket.LoadsEnough 1 :=
  offered_iff_accepted _ (nodup_singleton _) (mem_singleton_self _) rfl
    (mem_singleton_self _) rfl rfl

end OpenWind
