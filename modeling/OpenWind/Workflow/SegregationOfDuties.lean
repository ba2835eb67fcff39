import OpenWind.Entity.EventChain

/-!
# Segregation of duties

A transition may be barred to the people who moved the record before, or to its
creator.  The rules are evaluated over the event log, where notes and self-loops
stand between the moves.
-/

open List Option

namespace OpenWind

open Txn RecordCall

/-! ## What happened to a record -/

/-- The state of a record. -/
def Db.stateOf (db : Db) (tenantId instanceId : Id) : Option String :=
  (db.entityInstances.find? (EntityInstance.isOf tenantId instanceId)).map (·.currentState)

def RecordCall.mover : RecordCall → Option (Id × Id × Option String)
  | executeTransition tenantId request _ => some (tenantId, request.instanceId, request.actorId)
  | overrideWorkflowState tenantId request _ =>
    some (tenantId, request.instanceId, some request.actorId)
  | _ => none

def RecordCall.TakesOut (tenantId instanceId : Id) (actorId state : String) (db : Db)
    (call : RecordCall) : Prop :=
  call.mover = some (tenantId, instanceId, some actorId) ∧
    db.stateOf tenantId instanceId = some state ∧
    ∃ entered, (call.commit db).stateOf tenantId instanceId = some entered ∧ entered ≠ state

def RecordCall.Creates (instanceId : Id) (actorId : String) (db : Db) : RecordCall → Prop
  | createEntity rules tenantId input supply =>
    input.createdBy = some actorId ∧ ∃ row db',
      (OpenWind.createEntity rules tenantId input supply).exec db = .ok (row, db') ∧
        row.id = instanceId
  | _ => False

/-! ## What the log keeps of it -/

def Db.HasMover (db : Db) (tenantId instanceId : Id) (actorId state : String) : Prop :=
  ∃ e ∈ db.workflowEvents, (e.instanceId = instanceId ∧ e.tenantId = tenantId) ∧
    e.mover = some ⟨actorId, state⟩

/-- The record exists and `actorId` is its creator. -/
def Db.HasCreator (db : Db) (instanceId : Id) (actorId : String) : Prop :=
  (∃ row ∈ db.entityInstances, row.id = instanceId) ∧
    ∀ row ∈ db.entityInstances, row.id = instanceId → row.createdBy = some actorId

theorem RecordCall.keyed {db db' : Db} {call : RecordCall} (keyed : db.Keyed)
    (stepped : step db call = some db') : db'.Keyed := by
  cases stepped
  obtain ⟨f, fresh, events, logs, -⟩ := call.logs keyed
  exact logs.evolves.keyed keyed

theorem Db.HasMover.step {db db' : Db} {call : RecordCall} {tenantId instanceId : Id}
    {actorId state : String} (keyed : db.Keyed) (has : db.HasMover tenantId instanceId actorId state)
    (stepped : step db call = some db') :
    db'.HasMover tenantId instanceId actorId state := by
  cases stepped
  obtain ⟨f, fresh, events, logs, -⟩ := call.logs keyed
  obtain ⟨e, mem, about⟩ := has
  refine ⟨e, ?_, about⟩
  rw [logs.log]
  exact mem_append_left _ mem

theorem Db.HasCreator.step {db db' : Db} {call : RecordCall} {instanceId : Id} {actorId : String}
    (keyed : db.Keyed) (has : db.HasCreator instanceId actorId)
    (stepped : step db call = some db') : db'.HasCreator instanceId actorId := by
  cases stepped
  obtain ⟨f, fresh, events, logs, -⟩ := call.logs keyed
  obtain ⟨⟨row, mem, named⟩, creator⟩ := has
  refine ⟨⟨f row, logs.evolves.kept mem, (logs.evolves.same row).id.trans named⟩, ?_⟩
  intro row' mem' named'
  rcases logs.evolves.mem mem' with ⟨old, memOld, rfl⟩ | new
  · rw [(logs.evolves.same old).createdBy]
    exact creator old memOld ((logs.evolves.same old).id.symm.trans named')
  · exact absurd (named.trans named'.symm) (logs.evolves.unused.2 row' new row mem)

variable {db db' : Db} {instanceId tenantId : Id} {instance_ : LockedInstance}
  {change : StateChange} {supply : Supply} {actorId state : String} {call : RecordCall}

theorem Db.stateOf_changeState
    (current : (db.changeState tenantId instance_ change supply).stateOf tenantId instance_.row.id =
      some state) : state = change.toState := by
  unfold Db.stateOf at current
  obtain ⟨row, found, rfl⟩ := map_eq_some_iff.mp current
  have selected := find?_some found
  have mem := mem_of_find?_eq_some found
  rcases List.mem_map.mp mem with ⟨old, -, eq⟩
  subst eq
  by_cases same : EntityInstance.isOf tenantId instance_.row.id old = true
  · rw [if_pos same]
    rfl
  · rw [if_neg same] at selected
    exact absurd selected same

theorem Db.hasMover_changeState (by_ : change.actorId = some actorId)
    (moved : change.toState ≠ instance_.row.currentState) :
    (db.changeState tenantId instance_ change supply).HasMover tenantId instance_.row.id actorId
      instance_.row.currentState := by
  refine ⟨db.changeEvent tenantId instance_ change supply,
    mem_append_right _ mem_cons_self, ⟨rfl, rfl⟩, ?_⟩
  have left : instance_.row.currentState ≠ change.toState := fun eq => moved eq.symm
  simp [WorkflowEvent.mover, Db.changeEvent, StateChange.event, by_, left]

theorem Db.hasMover_of_change {actorId state entered : String}
    (found : db.entityInstances.find? (EntityInstance.isOf tenantId instanceId) =
      some instance_.row) (by_ : change.actorId = some actorId)
    (before : db.stateOf tenantId instanceId = some state)
    (after : (db.changeState tenantId instance_ change supply).stateOf tenantId instanceId =
      some entered) (moved : entered ≠ state) :
    (db.changeState tenantId instance_ change supply).HasMover tenantId instanceId actorId
      state := by
  have selected := find?_some found
  have named : instance_.row.id = instanceId := eq_of_beq (Bool.and_eq_true_iff.mp selected).1
  subst named
  have left : state = instance_.row.currentState := by
    rw [Db.stateOf, found] at before
    exact (Option.some.inj before).symm
  subst left
  exact Db.hasMover_changeState by_ (Db.stateOf_changeState after ▸ moved)

theorem userActorId_eq {actorId : Option String} {person : String}
    (identified : userActorId actorId = some person) : actorId = some person := by
  unfold userActorId at identified
  cases actorId with
  | none => cases identified
  | some id =>
    dsimp only at identified
    split at identified
    · cases identified
    · exact identified

theorem overrideActor_eq {request : StateOverrideRequest}
    (admin : overrideActor request = some actorId) : actorId = request.actorId := by
  have identified := userActorId_eq (filter_eq_some_iff.mp admin).1
  exact (Option.some.inj identified).symm

theorem RecordCall.TakesOut.hasMover (takes : call.TakesOut tenantId instanceId actorId state db)
    (stepped : step db call = some db') : db'.HasMover tenantId instanceId actorId state := by
  cases stepped
  obtain ⟨mover, before, entered, after, moved⟩ := takes
  have changed : call.commit db ≠ db := by
    intro same
    rw [same, before] at after
    exact moved (Option.some.inj after).symm
  cases call with
  | executeTransition tenant request supply =>
    simp only [RecordCall.mover, Option.some.injEq, Prod.mk.injEq] at mover
    obtain ⟨rfl, rfl, by_⟩ := mover
    rcases Tx.commit_cases (OpenWind.executeTransition tenant request supply) db with
      ⟨_, -, same⟩ | ⟨result, ran⟩
    · exact absurd same changed
    · rcases executeTransition_cases ran with ⟨_, _, -, -, -, same⟩ | ⟨_, _, permitted, -, -, eq⟩
      · exact absurd same changed
      · rw [commit, eq] at after ⊢
        exact Db.hasMover_of_change permitted.found by_ before after moved
  | overrideWorkflowState tenant request supply =>
    simp only [RecordCall.mover, Option.some.injEq, Prod.mk.injEq] at mover
    obtain ⟨rfl, rfl, by_⟩ := mover
    rcases Tx.commit_cases (OpenWind.overrideWorkflowState tenant request supply) db with
      ⟨_, -, same⟩ | ⟨result, ran⟩
    · exact absurd same changed
    · obtain ⟨instance_, actor, overridden, -, -, eq⟩ := overrideWorkflowState_cases ran
      have person : actor = request.actorId := overrideActor_eq overridden.admin
      rw [commit, eq] at after ⊢
      refine Db.hasMover_of_change overridden.found ?_ before after moved
      exact congrArg some (person.trans by_)
  | createEntity | setEntityState | bulkSetState | updateEntity | insertNote => cases mover

theorem RecordCall.Creates.hasCreator (creates : call.Creates instanceId actorId db)
    (stepped : step db call = some db') : db'.HasCreator instanceId actorId := by
  cases call with
  | createEntity rules tenantId input supply =>
    obtain ⟨creator, row, after, ran, named⟩ := creates
    have committed : db' = after := by
      rw [step, commit, Tx.commit, ran] at stepped
      exact (Option.some.inj stepped).symm
    subst committed
    obtain ⟨fields, redacted, state, eq, -, -, unused, effect⟩ := createEntity_cases ran
    have own : row.createdBy = some actorId := by
      rw [eq]
      exact creator
    unfold Db.HasCreator
    rw [effect.instances]
    refine ⟨⟨row, mem_append_right _ mem_cons_self, named⟩, fun row' mem named' => ?_⟩
    rcases mem_append.mp mem with old | new
    · exact absurd (named'.trans named.symm) (unused.2 row mem_cons_self row' old)
    · rw [mem_singleton.mp new]
      exact own
  | executeTransition | overrideWorkflowState | setEntityState | bulkSetState | updateEntity
  | insertNote => exact creates.elim

/-! ## The rules -/

/-- The rules of segregation. -/
def TransitionConditionTree.segregates : TransitionConditionTree → Prop
  | .actorNotCreator => True
  | .actorNotPriorActor _ => True
  | _ => False

inductive Barred (db : Db) (calls : List RecordCall) (tenantId instanceId : Id) :
    Option String → TransitionConditionTree → Prop
  | nobody {actorId : Option String} {leaf : TransitionConditionTree} :
    userActorId actorId = none → leaf.segregates → Barred db calls tenantId instanceId actorId leaf
  | priorActor {actorId state : String} {states : Option (List String)} :
    coversState states state →
    Runs.Occurs RecordCall.step
      (fun mid call => call.TakesOut tenantId instanceId actorId state mid) db calls →
    Barred db calls tenantId instanceId (some actorId) (.actorNotPriorActor states)
  | creator {actorId : String} :
    Runs.Occurs RecordCall.step (fun mid call => call.Creates instanceId actorId mid) db calls →
    Barred db calls tenantId instanceId (some actorId) .actorNotCreator

theorem Db.HasMover.priorActor {db : Db} {tenantId instanceId : Id} {actorId state : String}
    (has : db.HasMover tenantId instanceId actorId state)
    (person : userActorId (some actorId) = some actorId) :
    ⟨actorId, state⟩ ∈ db.priorActors tenantId instanceId := by
  obtain ⟨e, mem, ⟨about, ofTenant⟩, mover⟩ := has
  have listed : e ∈ db.workflowEvents.filter fun e =>
      e.instanceId == instanceId && e.tenantId == tenantId :=
    mem_filter.mpr ⟨mem, by simp [about, ofTenant]⟩
  refine mem_filterMap.mpr ⟨⟨actorId, state⟩, ?_, by simp [PriorActor.person, person]⟩
  exact mem_dedup.mpr (mem_filterMap.mpr ⟨e, listed, mover⟩)

theorem Barred.not_holds {calls : List RecordCall} {actorId createdBy : Option String}
    {leaf : TransitionConditionTree} {trees : List (Option TransitionConditionTree)}
    {fields : Fields} (keyed : db.Keyed) (ran : Runs.run step db calls = some db')
    (barred : Barred db calls tenantId instanceId actorId leaf)
    (creator : ∀ person, db'.HasCreator instanceId person → createdBy = some person) :
    evaluateTree fields (db'.actorContext tenantId instanceId createdBy actorId trees) leaf ≠
      true := by
  intro holds
  cases barred with
  | nobody anonymous rule =>
    cases leaf with
    | actorNotCreator =>
      obtain ⟨person, identified, -⟩ := notCreator_iff.mp holds
      cases anonymous.symm.trans identified
    | actorNotPriorActor states =>
      obtain ⟨person, prior, identified, -, -⟩ := notPriorActor_iff.mp holds
      cases anonymous.symm.trans identified
    | and | or | not | field | actorIsCreator => exact rule.elim
  | @priorActor actorId state states covers occurs =>
    obtain ⟨person, prior, identified, read, clear⟩ := notPriorActor_iff.mp holds
    have self : actorId = person := Option.some.inj (userActorId_eq identified)
    subst self
    have logged : db'.HasMover tenantId instanceId actorId state :=
      occurs.after RecordCall.keyed (fun _ => RecordCall.TakesOut.hasMover) Db.HasMover.step keyed ran
    have listed : prior = db'.priorActors tenantId instanceId := by
      unfold Db.actorContext at read
      split at read
      · exact (Option.some.inj read).symm
      · cases read
    exact clear _ (listed ▸ logged.priorActor identified) rfl covers
  | @creator actorId occurs =>
    obtain ⟨person, identified, other⟩ := notCreator_iff.mp holds
    have self : actorId = person := Option.some.inj (userActorId_eq identified)
    subst self
    have created : db'.HasCreator instanceId actorId :=
      occurs.after RecordCall.keyed (fun _ => RecordCall.Creates.hasCreator) Db.HasCreator.step keyed ran
    exact other (creator actorId created).symm

/-- `executeTransition` never commits a transition for an actor that a top-level
rule of its conditions bars: not for someone who moved the record out of a state
that the rule covers, nor for the record's creator, nor for an actor who is no
identified person. -/
theorem segregation_of_duties {db db' : Db} {calls : List RecordCall} (keyed : db.Keyed)
    (ran : Runs.run RecordCall.step db calls = some db') {tenantId : Id}
    {request : TransitionRequest} {supply : Supply} {instance_ : LockedInstance}
    {transition : WorkflowTransition} {tree leaf : TransitionConditionTree}
    (found : db'.entityInstances.find? (EntityInstance.isOf tenantId request.instanceId) =
      some instance_.row)
    (named : db'.workflowTransitions.find?
      (WorkflowTransition.isOf tenantId instance_.workflowId request.transitionId) =
        some transition)
    (conditions : transition.conditions = some tree) (conjunct : Conjunct leaf tree)
    (barred : Barred db calls tenantId request.instanceId request.actorId leaf) :
    (executeTransition tenantId request supply).commit db' = db' := by
  rcases Tx.commit_cases (executeTransition tenantId request supply) db' with
    ⟨_, -, same⟩ | ⟨result, returned⟩
  · exact same
  · rcases executeTransition_cases returned with ⟨_, _, -, -, -, same⟩ |
      ⟨locked, chosen, permitted, -, -, -⟩
    · exact same
    · exfalso
      have sameRow : instance_ = locked :=
        LockedInstance.eq_of_row (Option.some.inj (found.symm.trans permitted.found))
      subst sameRow
      have sameTransition : transition = chosen :=
        Option.some.inj (named.symm.trans permitted.named)
      subst sameTransition
      have own : instance_.row.id = request.instanceId := by
        have selected := find?_some found
        exact eq_of_beq (Bool.and_eq_true_iff.mp selected).1
      have holds := permitted.conditions
      rw [conditions, own] at holds
      refine barred.not_holds keyed ran (fun person created => ?_) (conjunct.holds holds)
      exact created.2 _ (mem_of_find?_eq_some found) own

/-! ### An approver who handed the record in -/

def dutiesTree : TransitionConditionTree := .and [.actorNotPriorActor (some ["open"])]

def dutiesDb : Db where
  workflows := [{ id := 1, tenantId := some 1, entityTypeId := 1, initialState := "open" }]
  workflowStates :=
    [{ id := 1, tenantId := 1, workflowId := 1, name := "open" },
      { id := 2, tenantId := 1, workflowId := 1, name := "review" },
      { id := 3, tenantId := 1, workflowId := 1, name := "done" }]
  workflowTransitions :=
    [{ id := 1, tenantId := 1, workflowId := 1, fromState := "open", toState := "review" },
      { id := 2, tenantId := 1, workflowId := 1, fromState := "review", toState := "done"
        conditions := some dutiesTree }]

def dutiesMove (actorId : String) (transitionId : Id) : TransitionRequest where
  instanceId := 10
  transitionId := transitionId
  actorId := some actorId

def dutiesCalls : List RecordCall :=
  [.createEntity .acceptAll 1
      { entityTypeId := 1, fields := [], workflowId := some 1, createdBy := some "ana" }
      ⟨0, 0, fun i => 10 + i⟩,
    .executeTransition 1 (dutiesMove "ben" 1) ⟨1, 1, 30, 31, 32, 33⟩]

/-- Ben may not approve the record, and Carl may. -/
theorem segregation_of_duties_approval :
    ∃ db, Runs.run RecordCall.step dutiesDb dutiesCalls = some db ∧
      (executeTransition 1 (dutiesMove "ben" 2) ⟨2, 2, 40, 41, 42, 43⟩).commit db = db ∧
      ((executeTransition 1 (dutiesMove "carl" 2) ⟨2, 2, 40, 41, 42, 43⟩).commit db).stateOf 1 10 =
        some "done" := by
  have shape : (Runs.run step dutiesDb dutiesCalls).map (fun db =>
      ((db.entityInstances.find? (EntityInstance.isOf 1 10)).map (·.workflowId),
        ((executeTransition 1 (dutiesMove "carl" 2) ⟨2, 2, 40, 41, 42, 43⟩).commit db).stateOf 1
          10)) = some (some (some 1), some "done") := by
    decide +kernel
  obtain ⟨db, ran, values⟩ := map_eq_some_iff.mp shape
  obtain ⟨attached, approved⟩ := Prod.mk.inj values
  obtain ⟨row, found, own⟩ := map_eq_some_iff.mp attached
  have named : db.workflowTransitions.find? (WorkflowTransition.isOf 1 1 2) =
      some dutiesDb.workflowTransitions[1] := by
    cases ran
    rfl
  have moved : Runs.Occurs step
      (fun mid call => call.TakesOut 1 10 "ben" "open" mid) dutiesDb dutiesCalls :=
    .inr ⟨_, rfl, .inl ⟨rfl, by decide +kernel, "review", by decide +kernel, by decide⟩⟩
  have keyed : dutiesDb.Keyed := nodup_nil
  have covers : coversState (some ["open"]) "open" := fun _ eq => by cases eq; decide
  refine ⟨db, ran, ?_, approved⟩
  exact segregation_of_duties keyed ran (show _ = some (⟨row, 1, own⟩ : LockedInstance).row from found)
    named rfl (.child mem_cons_self .self) (.priorActor covers moved)

end OpenWind
