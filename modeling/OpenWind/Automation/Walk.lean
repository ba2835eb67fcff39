import OpenWind.Automation.Executor

/-!
# What holds along the executor

The executor keeps a property of the store when each of its actions does, whether the
actions fail or not: a failed rule leaves the store as it was before its actions.
-/

open List

namespace OpenWind

open Txn

variable {ok : ActionPoint → Bool} {I : AutomationStore → Prop}

def Along (ok : ActionPoint → Bool) (I : AutomationStore → Prop) (s t : AutomationState) : Prop :=
  s.points ⊆ t.points ∧ ((∀ p ∈ t.points, ok p = true) → I s.store → I t.store)

instance : Std.Refl (Along ok I) := ⟨fun s => ⟨Subset.refl s.points, fun _ holds => holds⟩⟩

instance : IsTrans AutomationState (Along ok I) :=
  ⟨fun _ _ _ first second =>
    ⟨Subset.trans first.1 second.1, fun all holds =>
      second.2 all (first.2 (fun p mem => all p (second.1 mem)) holds)⟩⟩

/-- The actions that were noted are still noted. -/
def Grows (s t : AutomationState) : Prop := s.points ⊆ t.points

instance : Std.Refl Grows := ⟨fun s => Subset.refl s.points⟩

instance : IsTrans AutomationState Grows :=
  ⟨fun _ _ _ first second => Subset.trans first second⟩

namespace Along

/-- Nothing is to be shown after an action that does not satisfy `ok`. -/
theorem of_not_ok {s t : AutomationState} {p : ActionPoint} (grows : Grows s t)
    (noted : p ∈ s.points) (refused : ¬ ok p) : Along ok I s t :=
  ⟨grows, fun all => absurd (all p (grows noted)) refused⟩

theorem of_store {s t : AutomationState} (points : t.points = s.points)
    (kept : I s.store → I t.store) : Along ok I s t :=
  ⟨by rw [points]; exact Subset.refl _, fun _ => kept⟩

end Along

theorem modifyRedis_along (f : AutomationRedis → AutomationRedis) :
    (modifyRedis f).Carries (Along ok I) :=
  .modify fun _ => .of_store rfl id

theorem readStore_along {α : Type} (f : AutomationStore → α) : (readStore f).Carries (Along ok I) :=
  .get _

theorem modifyStore_along {f : AutomationStore → AutomationStore}
    (kept : ∀ store, I store → I (f store)) : (modifyStore f).Carries (Along ok I) :=
  .modify fun s => .of_store rfl (kept s.store)

theorem claimResolveKey_along {run : ActionRun} (instanceId : Id) (teamId : String) :
    (claimResolveKey run instanceId teamId).Carries (Along ok I) := by
  unfold claimResolveKey
  refine .bind (.get _) fun held => ?_
  split
  · exact .ret _
  · exact .bind (modifyRedis_along _) fun _ => .ret _

@[simp] theorem readStore_bind {α β : Type} (f : AutomationStore → α) (g : α → Auto β)
    (s : AutomationState) : (readStore f).bind g s = g (f s.store) s := rfl

theorem engine_along {α : Type} {run : ActionRun} {action : String}
    {call : EntitySupply → Tx α} {s : AutomationState}
    (kept : ∀ {supply a db}, (call supply).exec s.store.db = .ok (a, db) → I s.store →
      I (s.store.after run action db)) :
    Along ok I s (engine run action call s).2 := by
  unfold engine
  dsimp only
  split
  · exact .of_store rfl id
  · split
    next ran => exact .of_store rfl (kept ran)
    next => exact .of_store rfl id

theorem engine_grows {α : Type} (run : ActionRun) (action : String)
    (call : EntitySupply → Tx α) : (engine run action call).Carries Grows := fun s =>
  (@engine_along (fun _ => true) (fun _ => True) _ _ _ _ s fun _ _ => trivial).1

/-! ## Rules -/

/-- The row of a rule's run is inserted. -/
def AutomationStore.started (store : AutomationStore) (run : EventRun) (ruleId execId : Id) :
    AutomationStore :=
  { store with executions := store.executions ++ [run.execution ruleId execId] }

/-- The row of a rule's run is completed. -/
def AutomationStore.ended (store : AutomationStore) (execId : Id)
    (result : Except AutomationError Nat) (now : Time) : AutomationStore :=
  { store with
    executions := store.executions.map fun row =>
      if row.id == execId then row.complete result now else row }

/-- What single actions and the rows of rule runs keep; `fits` relates the depth of a run to
its chain. -/
structure Keeping (ok : ActionPoint → Bool) (I : AutomationStore → Prop)
    (fits : Nat → Nat → Prop) : Prop where
  next : ∀ {depth chain}, fits depth chain → fits (depth + 1) (chain + 1)
  action : ∀ {run : ActionRun} {followUp : FollowUp} {action : ActionConfig} {s : AutomationState},
    fits run.depth run.chain → ⟨s.store, s.redis, s.calls, run, action⟩ ∈ s.points →
    s.redis.isOpen run.tenantId action.type run.env.now = false →
    (∀ payload transitionEventId, (followUp payload transitionEventId).Carries (Along ok I)) →
    Along ok I s (performAction followUp run action s).2
  started : ∀ {store : AutomationStore} {run : EventRun} {ruleId execId : Id},
    fits run.depth run.chain → run.depth < MAX_DEPTH → I store → I (store.started run ruleId execId)
  ended : ∀ {store : AutomationStore} {execId : Id} {result : Except AutomationError Nat}
    {now : Time}, I store → I (store.ended execId result now)

namespace Keeping

variable {fits : Nat → Nat → Prop} (keeping : Keeping ok I fits)

include keeping

section

variable {followUp : FollowUp} (follows : ∀ payload transitionEventId,
  (followUp payload transitionEventId).Carries (Along ok I))

include follows

theorem runAction_along {run : ActionRun} (fit : fits run.depth run.chain)
    (action : ActionConfig) : (runAction followUp run action).Carries (Along ok I) := by
  intro s
  refine Attempt.Carries.bind_at ⟨subset_append_left _ _, fun _ holds => holds⟩ fun _ => ?_
  have noted : ⟨s.store, s.redis, s.calls, run, action⟩ ∈ (notePoint run action s).2.points :=
    mem_append_right _ mem_cons_self
  change Along ok I _ ((if s.redis.isOpen run.tenantId action.type run.env.now = true then
    Attempt.ret true else _ : Auto Bool) _).2
  cases opened : s.redis.isOpen run.tenantId action.type run.env.now with
  | true => exact refl_of (Along ok I) _
  | false =>
    rw [if_neg Bool.false_ne_true]
    refine Attempt.Carries.bind_at (Attempt.Carries.savepoint_at
      (keeping.action fit noted opened follows) fun _ kept => kept) fun result => ?_
    refine Attempt.Carries.bind (R := Along ok I) ?_ (fun _ => .ret _) _
    unfold settleCircuit
    split
    · exact modifyRedis_along _
    · exact .bind (modifyRedis_along _) fun _ => .throw _

theorem runActions_along {run : ActionRun} (fit : fits run.depth run.chain)
    (actions : List ActionConfig) : (runActions followUp run actions).Carries (Along ok I) := by
  induction actions with
  | nil => exact .ret _
  | cons action rest ih =>
    exact .bind (keeping.runAction_along follows fit action) fun _ => .bind ih fun _ => .ret _

theorem runRule_along {run : EventRun} (fit : fits run.depth run.chain)
    (within : run.depth < MAX_DEPTH) (rule : AutomationRule) :
    (runRule followUp run rule).Carries (Along ok I) := by
  unfold runRule
  refine .bind (fun s => ?_) fun execId => .bind
    (.savepoint (keeping.runActions_along follows fit _) fun s t kept => ⟨kept.1, fun _ => id⟩)
    fun result => modifyStore_along fun _ => keeping.ended
  unfold insertExecution
  dsimp only
  split
  · exact .of_store rfl id
  · exact .of_store rfl (keeping.started fit within)

theorem ruleTurn_along {run : EventRun} (fit : fits run.depth run.chain)
    (within : run.depth < MAX_DEPTH) (rule : AutomationRule) :
    (ruleTurn followUp run rule).Carries (Along ok I) := by
  unfold ruleTurn
  refine .bind (readStore_along _) fun applies => .bind (readStore_along _) fun done => ?_
  split
  · exact keeping.runRule_along follows fit within rule
  · exact .ret _

end

theorem executeRules_along (env : AutomationEnv) (tenantId : Id) (outboxEventId : Option Id)
    {remaining depth chain : Nat} (levels : depth + remaining ≤ MAX_DEPTH)
    (fit : fits depth chain) (payload : OutboxPayload) (transitionEventId : Option Id) :
    (executeRules env tenantId outboxEventId remaining depth chain payload
      transitionEventId).Carries (Along ok I) := by
  induction remaining generalizing depth chain payload transitionEventId with
  | zero => exact .throw _
  | succ remaining ih =>
    unfold executeRules
    refine .bind (.getOr _ _) fun event => .bind (readStore_along _) fun rules => ?_
    have within : depth < MAX_DEPTH := by omega
    refine .forEach fun rule _ => keeping.ruleTurn_along (fun payload transitionEventId => ?_)
      fit within rule
    exact ih (by omega) (keeping.next fit) payload transitionEventId

theorem executeAutomationRules_along (env : AutomationEnv) (tenantId : Id)
    (outboxEventId : Option Id) {depth chain : Nat} (fit : fits depth chain)
    (payload : OutboxPayload) (transitionEventId : Option Id) :
    (executeAutomationRules env tenantId outboxEventId depth chain payload
      transitionEventId).Carries (Along ok I) := by
  unfold executeAutomationRules
  by_cases within : depth ≤ MAX_DEPTH
  · exact keeping.executeRules_along env tenantId outboxEventId (by omega) fit payload
      transitionEventId
  · have none : MAX_DEPTH - depth = 0 := by omega
    rw [none]
    exact .throw _

theorem job {s : AutomationSystem} {env : AutomationEnv} {row : OutboxEvent}
    (fit : fits (readDepth row.payload) (s.store.chainOf row.id + 1))
    (all : (s.runJob env row).2.points.all ok) (holds : I s.store) : I (s.runJob env row).2.store :=
  (keeping.executeAutomationRules_along env row.tenantId (some row.id) fit row.payload
    (readTransitionEventId row.payload) ⟨s.store, s.redis, 0, []⟩).2
    (fun p mem => all_eq_true.mp all p mem) holds

end Keeping

theorem AutomationSystem.deliver_store {P : AutomationStore → Prop} {s : AutomationSystem}
    {env : AutomationEnv} {commits : Bool} {row : OutboxEvent} (before : P s.store)
    (after : commits → P (s.runJob env row).2.store) : P (s.deliver env commits row).store := by
  unfold deliver
  split
  next ran =>
    cases commits with
    | false => exact before
    | true =>
      rw [ran] at after
      exact after rfl
  next => exact before

end OpenWind
