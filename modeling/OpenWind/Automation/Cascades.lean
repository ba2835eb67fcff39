import OpenWind.Automation.Depths

/-!
# Cascades of transitions

A transition of an action is followed twice: at once, one level deeper, and by the worker,
which is given its outbox row.  The row carries the depth of the action itself.  A rule that
completed at once is not run again for the row; one that failed, at the limit or otherwise,
is, and one level above the one where it failed.
-/

namespace OpenWind

open Txn AutomationSystem

/-- At `MAX_DEPTH` nothing runs. -/
theorem executeAutomationRules_limit (env : AutomationEnv) (tenantId : Id)
    (outboxEventId : Option Id) {depth : Nat} (chain : Nat) (payload : OutboxPayload)
    (transitionEventId : Option Id) (s : AutomationState) (deep : MAX_DEPTH ≤ depth) :
    executeAutomationRules env tenantId outboxEventId depth chain payload transitionEventId s =
      (.error (.automation "MAX_DEPTH_EXCEEDED" [("depth", .num depth)]), s) := by
  unfold executeAutomationRules
  have none : MAX_DEPTH - depth = 0 := by omega
  rw [none]
  rfl

theorem AutomationStore.Tracked.transition_depth {store : AutomationStore} (tracked : store.Tracked)
    {w : Written} (mem : w ∈ store.written) (moved : w.action = "transition")
    (trigger : w.payload.isTrigger) : readDepth w.payload = w.depth := by
  rcases tracked.fits w mem trigger with ⟨other, -⟩ | ⟨-, event, payload, depth⟩
  · exact absurd moved other
  · rw [payload]
    exact readDepth_transitioned depth

theorem AutomationSystem.deliver_settled {s : AutomationSystem} {env : AutomationEnv}
    {commits : Bool} {row : OutboxEvent} (settled : s.store.settled env row) :
    (s.deliver env commits row).store = s.store := by
  refine deliver_store (P := fun store => store = s.store) rfl fun _ => ?_
  unfold runJob automationJob
  rw [AutomationStore.settled_idle settled rfl]

/-- In a run whose deliveries stamp what they send, and deliver the row of an action's
transition once its rules have completed, no chain of rule runs is longer than `MAX_DEPTH`,
nothing runs at that depth, and what follows from such a row was done at once.  The rows
themselves do not carry a greater depth than the action, so the part of them that asks for
one is met by no action that made a transition. -/
theorem transition_cascades_bounded {s t : AutomationSystem} {labels : List AutomationLabel}
    (start : s.store.Untouched)
    (stamped : Runs.Guarded AutomationSystem.step AutomationSystem.Stamps s labels)
    (ran : Runs.run AutomationSystem.step s labels = some t) :
    (∀ e ∈ t.store.executions, e.chain ≤ MAX_DEPTH) ∧
    (∀ (env : AutomationEnv) (commits : Bool) (row : OutboxEvent),
      t.store.transitionRow row = true → t.deliveryStamps env row = true →
      (t.deliver env commits row).store = t.store) ∧
    (∀ (env : AutomationEnv) (tenantId : Id) (outboxEventId : Option Id) (depth chain : Nat)
      (payload : OutboxPayload) (transitionEventId : Option Id) (before : AutomationState),
      MAX_DEPTH ≤ depth →
      (executeAutomationRules env tenantId outboxEventId depth chain payload transitionEventId
        before).2 = before) ∧
    ((∀ w ∈ t.store.written, w.action = "transition" → w.payload.isTrigger = true →
        w.depth < readDepth w.payload) ↔
      ∀ w ∈ t.store.written, w.action = "transition" → w.payload.isTrigger = false) := by
  have tracked : t.store.Tracked :=
    stamped.invariant step_tracked start.tracked ran
  refine ⟨tracked.chains, fun env commits row transition stamps => ?_,
    fun env tenantId outboxEventId depth chain payload transitionEventId before deep => ?_, ?_⟩
  · obtain ⟨ready, -⟩ := Bool.and_eq_true_iff.mp stamps
    rw [transition, Bool.not_true, Bool.false_or] at ready
    exact deliver_settled ready
  · rw [executeAutomationRules_limit env tenantId outboxEventId chain payload transitionEventId
      before deep]
  · refine ⟨fun above w mem moved => ?_, fun none w mem moved trigger => ?_⟩
    · cases trigger : w.payload.isTrigger with
      | false => rfl
      | true =>
        have greater := above w mem moved trigger
        rw [tracked.transition_depth mem moved trigger] at greater
        exact absurd greater (Nat.lt_irrefl _)
    · rw [none w mem moved] at trigger
      cases trigger

namespace CascadeSample

def record : EntityInstance where
  id := 1
  entityTypeId := 7
  tenantId := 1
  workflowId := some 1
  currentState := "a"
  createdAt := 0
  updatedAt := 0

def entered : TransitionedEvent where
  instanceId := 1
  entityTypeId := 7
  workflowId := 1
  fromState := "b"
  toState := "a"
  triggeredBy := .user
  actorId := none
  occurredAt := 0
  transitionEventId := some 100

def db : Db where
  workflows := [{ id := 1, tenantId := some 1, entityTypeId := 7, initialState := "a" }]
  workflowStates :=
    [{ id := 1, tenantId := 1, workflowId := 1, name := "a" },
      { id := 2, tenantId := 1, workflowId := 1, name := "b" }]
  workflowTransitions :=
    [{ id := 1, tenantId := 1, workflowId := 1, fromState := "a", toState := "b" },
      { id := 2, tenantId := 1, workflowId := 1, fromState := "b", toState := "a" }]
  entityInstances := [record]
  outboxEvents := [⟨100, 1, .transitioned entered, 0, none⟩]

/-- When the record enters the state, take it along the transition. -/
def rule (id : Id) (entered : String) (transitionId : Id) : AutomationRule where
  id := id
  tenantId := 1
  triggerType := "workflow.transitioned"
  triggerConfig := some [("toState", .str entered)]
  actions := [.transition none transitionId none]

def store (rules : List AutomationRule) : AutomationStore where
  db := db
  rules := rules

end CascadeSample

/-- Two rules that take the record back and forth.  The rule that meets the limit fails and
is undone; the row of the transition before it is delivered at the depth of that transition,
so that the rule runs below the limit and succeeds, and so on with the row it writes. -/
theorem transition_cascade_unbounded : ∃ (s : AutomationSystem) (labels : List AutomationLabel)
    (t : AutomationSystem), s.store.Untouched ∧ Runs.run AutomationSystem.step s labels = some t ∧
    (∃ w ∈ t.store.written, w.action = "transition" ∧ w.payload.isTrigger = true ∧
      ¬ w.depth < readDepth w.payload) ∧
    ∃ e ∈ t.store.executions, e.status = .success ∧ MAX_DEPTH < e.chain := by
  have cascade : (Runs.run step
      ⟨CascadeSample.store [CascadeSample.rule 1 "a" 1, CascadeSample.rule 2 "b" 2], {}⟩
      [.deliver 100 (AutomationSample.env 1000) true,
        .deliver 1172 (AutomationSample.env 2000) true,
        .deliver 2012 (AutomationSample.env 3000) true]).any (fun t =>
        (t.store.written.any fun w => w.action == "transition" && w.payload.isTrigger &&
          !decide (w.depth < readDepth w.payload)) &&
        t.store.executions.any fun e => e.status == .success && decide (MAX_DEPTH < e.chain)) =
      true := by
    decide +kernel
  obtain ⟨t, ran, found⟩ := (Option.any_eq_true _ _).mp cascade
  obtain ⟨sent, long⟩ := Bool.and_eq_true_iff.mp found
  obtain ⟨w, memW, unstamped⟩ := List.any_eq_true.mp sent
  obtain ⟨e, memE, chained⟩ := List.any_eq_true.mp long
  simp only [Bool.and_eq_true, beq_iff_eq, Bool.not_eq_true', decide_eq_false_iff_not] at unstamped
  simp only [Bool.and_eq_true, beq_iff_eq, decide_eq_true_eq] at chained
  exact ⟨_, _, t, ⟨by unfold Txn.Table.Keyed; decide, rfl, rfl⟩, ran,
    ⟨w, memW, unstamped.1.1, unstamped.1.2, unstamped.2⟩, e, memE, chained⟩

/-- One rule, whose transition triggers none; its row is delivered too. -/
theorem transition_cascades_bounded_once : ∃ t : AutomationSystem,
    t.store.written.length = 1 ∧ t.store.executions.length = 1 ∧
    ∀ e ∈ t.store.executions, e.chain ≤ MAX_DEPTH := by
  have ran : (Runs.run step
      ⟨CascadeSample.store [CascadeSample.rule 1 "a" 1], {}⟩
      [.deliver 100 (AutomationSample.env 1000) true,
        .deliver 1012 (AutomationSample.env 2000) true]).any (fun t =>
          t.store.written.length == 1 && t.store.executions.length == 1) = true := by
    decide +kernel
  obtain ⟨t, ran, counted⟩ := (Option.any_eq_true _ _).mp ran
  obtain ⟨rows, runs⟩ := Bool.and_eq_true_iff.mp counted
  refine ⟨t, eq_of_beq rows, eq_of_beq runs, (transition_cascades_bounded
    ⟨by unfold Txn.Table.Keyed; decide, rfl, rfl⟩
    (Runs.Guarded.of_check stamps_of_check (by decide +kernel)) ran).1⟩

end OpenWind
