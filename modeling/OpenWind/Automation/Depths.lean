import OpenWind.Automation.Sends
import OpenWind.Automation.Walk

/-!
# Depths of automation chains

An event that an action writes carries the depth after the action's, and the worker goes on
from there.  Two writers leave the depth out: `entity.updated`, which `set_field` has sent,
and the events of a child ticket; and the row of a transition carries the depth of the action
itself, so that rules which did not complete at once start again at that depth.
-/

open List Bool

namespace OpenWind

open Txn AutomationStore

/-! ## What holds of the store -/

def entityActions : List String :=
  ["set_field", "assign", "create_entity", "create_child", "resolve_oncall"]

def Written.Fits (w : Written) : Prop :=
  w.payload.isTrigger = true →
    (w.action ≠ "transition" ∧ w.depth < readDepth w.payload) ∨
      (w.action = "transition" ∧
        ∃ event, w.payload = .transitioned event ∧ event.depth = some w.depth)

structure AutomationStore.Tracked (store : AutomationStore) : Prop where
  keyed : Tables.outboxEvents.Keyed store.db
  rows : ∀ w ∈ store.written, ∃ row ∈ store.db.outboxEvents,
    row.id = w.rowId ∧ row.payload = w.payload
  fits : ∀ w ∈ store.written, w.Fits
  shallow : ∀ w ∈ store.written, w.chain ≤ w.depth + 1
  chains : ∀ e ∈ store.executions, e.chain ≤ MAX_DEPTH

def AutomationStore.LoopBounded (store : AutomationStore) : Prop :=
  (∀ w ∈ store.written, w.action ∈ entityActions → w.payload.isTrigger = true →
    w.depth < readDepth w.payload) ∧
  ∀ e ∈ store.executions, e.chain ≤ MAX_DEPTH

theorem AutomationStore.Tracked.loopBounded {store : AutomationStore} (tracked : store.Tracked) :
    store.LoopBounded := by
  refine ⟨fun w mem own trigger => ?_, tracked.chains⟩
  rcases tracked.fits w mem trigger with ⟨-, above⟩ | ⟨moved, -⟩
  · exact above
  · rw [moved] at own
    exact absurd own (by decide)

/-! ## What an action may do -/

def ActionPoint.stamps (p : ActionPoint) : Bool :=
  p.skipped || match p.action with
  | .setField instanceId field value =>
    !p.store.db.announcesEdit p.run.env.rules p.run.tenantId (p.run.target instanceId)
      [(field, value)]
  | .createChild config =>
    match getEntity p.run.env p.store.db p.run.tenantId p.run.event.instanceId with
    | .error _ => true
    | .ok parent => config.writtenBack parent
  | _ => true

theorem AutomationStore.Tracked.of_eq {store store' : AutomationStore} (tracked : store.Tracked)
    (db : store'.db = store.db) (written : store'.written = store.written)
    (executions : store'.executions = store.executions) : store'.Tracked := by
  refine ⟨?_, ?_, ?_, ?_, ?_⟩
  · rw [db]
    exact tracked.keyed
  · rw [db, written]
    exact tracked.rows
  · rw [written]
    exact tracked.fits
  · rw [written]
    exact tracked.shallow
  · rw [executions]
    exact tracked.chains

/-! ## Calls of the engines -/

variable {row : OutboxEvent} {s : AutomationSystem} {rowId : Id} {label : AutomationLabel}

theorem Db.mem_newOutbox {before after : Db} :
    row ∈ before.newOutbox after ↔
      row ∈ after.outboxEvents ∧ ∀ old ∈ before.outboxEvents, old.id ≠ row.id := by
  unfold Db.newOutbox
  rw [mem_filter]
  simp

theorem AutomationStore.Tracked.after {store : AutomationStore} (tracked : store.Tracked)
    {run : ActionRun} {action : String} {db : Db} (shallow : run.chain ≤ run.depth + 1)
    (sends : store.db.Sends (fun payload => payload.isTrigger →
      (action ≠ "transition" ∧ run.depth < readDepth payload) ∨
        (action = "transition" ∧
          ∃ event, payload = .transitioned event ∧ event.depth = some run.depth)) db) :
    (store.after run action db).Tracked := by
  have split : ∀ w ∈ (store.after run action db).written, w ∈ store.written ∨
      ∃ row ∈ store.db.newOutbox db, run.wrote action row = w := by
    intro w mem
    rcases mem_append.mp mem with old | new
    · exact .inl old
    · exact .inr (mem_map.mp new)
  refine ⟨sends.keyed tracked.keyed, fun w mem => ?_, fun w mem => ?_, fun w mem => ?_,
    tracked.chains⟩
  · rcases split w mem with old | ⟨row, new, rfl⟩
    · obtain ⟨row, memRow, named, payload⟩ := tracked.rows w old
      obtain ⟨row', memRow', named', payload'⟩ := sends.kept row memRow
      exact ⟨row', memRow', named'.trans named, payload'.trans payload⟩
    · exact ⟨row, (Db.mem_newOutbox.mp new).1, rfl, rfl⟩
  · rcases split w mem with old | ⟨row, new, rfl⟩
    · exact tracked.fits w old
    · obtain ⟨memRow, unknown⟩ := Db.mem_newOutbox.mp new
      rcases sends.sent row memRow with ⟨before, memBefore, named, -⟩ | fits
      · exact absurd named (unknown before memBefore)
      · exact fits
  · rcases split w mem with old | ⟨row, -, rfl⟩
    · exact tracked.shallow w old
    · exact shallow

theorem Db.Sends.mono {P Q : OutboxPayload → Prop} {db db' : Db} (sends : db.Sends P db')
    (weaker : ∀ payload, P payload → Q payload) : db.Sends Q db' :=
  ⟨sends.keyed, sends.kept, fun row mem => (sends.sent row mem).imp id (weaker _)⟩

abbrev Kept : AutomationState → AutomationState → Prop :=
  Along ActionPoint.stamps AutomationStore.Tracked

theorem engine_kept {α : Type} {run : ActionRun} {action : String} {call : EntitySupply → Tx α}
    {s : AutomationState} (other : action ≠ "transition") (shallow : run.chain ≤ run.depth + 1)
    (sends : ∀ {supply a db'}, (call supply).exec s.store.db = .ok (a, db') →
      s.store.db.Sends (OutboxPayload.StampedAbove run.depth) db') :
    Kept s (engine run action call s).2 :=
  engine_along fun ran tracked => tracked.after shallow
    ((sends ran).mono fun _ above trigger => .inl ⟨other, above trigger⟩)

/-! ## The actions -/

section

variable {run : ActionRun}

variable {s : AutomationState} {followUp : FollowUp}

theorem executeSetFieldAction_kept {instanceId : Option Id} {field : String} {value : Json}
    (shallow : run.chain ≤ run.depth + 1)
    (noted : ⟨s.store, s.redis, s.calls, run, .setField instanceId field value⟩ ∈ s.points)
    (closed : s.redis.isOpen run.tenantId "set_field" run.env.now = false) :
    Kept s (executeSetFieldAction run instanceId field value s).2 := by
  refine Attempt.Carries.bind_at ?_ fun _ => refl_of Kept _
  by_cases stamps : ActionPoint.stamps
      ⟨s.store, s.redis, s.calls, run, .setField instanceId field value⟩ = true
  · refine engine_kept (by decide) shallow fun ran => updateEntity_sends rfl ?_ ran
    intro provided asked
    cases asked
    rcases or_eq_true_iff.mp stamps with skipped | quiet
    · exact absurd (closed.symm.trans skipped) Bool.false_ne_true
    · exact (not_eq_true' _).mp quiet
  · exact .of_not_ok (engine_grows _ _ _ s) noted stamps

theorem executeAssignAction_kept (shallow : run.chain ≤ run.depth + 1) (instanceId : Option Id)
    (assigneeId : String) : (executeAssignAction run instanceId assigneeId).Carries Kept := by
  refine .bind (fun s => engine_kept (by decide) shallow fun ran => ?_) fun _ => .ret _
  exact updateEntity_sends rfl (fun _ asked => by cases asked) ran

theorem createEntityInput_depth {db : Db} {now : Time} {entityTypeId : Id} {fields : Fields}
    {assignedTo : Option String} {template : Option TicketTemplate} :
    (createEntityInput run db now entityTypeId fields assignedTo template).depth =
      some run.depth := by
  unfold createEntityInput
  split
  · rfl
  · rfl

theorem executeCreateEntityAction_kept (shallow : run.chain ≤ run.depth + 1) (entityTypeId : Id)
    (fields : Option Fields) (assignedTo : Option String) (template : Option TicketTemplate) :
    (executeCreateEntityAction run entityTypeId fields assignedTo template).Carries Kept := by
  unfold executeCreateEntityAction
  refine .bind (readStore_along _) fun db => .bind (fun s => ?_) fun _ => .ret _
  exact engine_kept (by decide) shallow fun ran => createEntity_sends createEntityInput_depth ran

theorem executeCreateChildAction_grows (config : CreateChildConfig) :
    (executeCreateChildAction run config).Carries Grows := by
  unfold executeCreateChildAction
  refine .bind (.get _) fun db => ?_
  split
  · exact .throw _
  · split
    · exact .ret _
    · refine .bind (engine_grows _ _ _) fun child => ?_
      unfold writeBack
      split
      · exact .ret _
      · exact .bind (engine_grows _ _ _) fun _ => .ret _

theorem executeCreateChildAction_kept {config : CreateChildConfig}
    (noted : ⟨s.store, s.redis, s.calls, run, .createChild config⟩ ∈ s.points)
    (closed : s.redis.isOpen run.tenantId "create_child" run.env.now = false) :
    Kept s (executeCreateChildAction run config s).2 := by
  by_cases stamps :
      ActionPoint.stamps ⟨s.store, s.redis, s.calls, run, .createChild config⟩ = true
  · unfold executeCreateChildAction
    rw [Attempt.bind_eq, readStore_bind]
    rcases or_eq_true_iff.mp stamps with skipped | nothing
    · exact absurd (closed.symm.trans skipped) Bool.false_ne_true
    · dsimp only at nothing
      cases read : getEntity run.env s.store.db run.tenantId run.event.instanceId with
      | error e => exact refl_of Kept s
      | ok parent =>
        rw [read] at nothing
        dsimp only
        rw [if_pos nothing]
        exact refl_of Kept s
  · exact .of_not_ok (executeCreateChildAction_grows config s) noted stamps

/-! ### Assigning to whom is on call -/

theorem assignOncall_kept (shallow : run.chain ≤ run.depth + 1) (instanceId : Id)
    (userId : String) : (assignOncall run instanceId userId).Carries Kept := by
  refine .bind (fun s => engine_kept (by decide) shallow fun ran => ?_) fun _ => .ret _
  exact updateEntity_sends rfl (fun _ asked => by cases asked) ran

theorem commentOn_kept (shallow : run.chain ≤ run.depth + 1) (row : Option EntityInstance)
    (text : String) : (commentOn run row text).Carries Kept := by
  cases row with
  | none => exact .ret _
  | some row =>
    exact fun s => engine_kept (by decide) shallow fun ran => postOncallComment_sends ran

theorem writeAuditEntry_kept (instanceId : Id) (action : String) (metadata : Fields) :
    (writeAuditEntry run instanceId action metadata).Carries Kept :=
  modifyStore_along fun _ tracked => tracked.of_eq rfl rfl rfl

theorem handleCascadeMiss_kept (shallow : run.chain ≤ run.depth + 1) (ticket : OncallCase)
    (scheduleId : Option Id) (cascadeExhausted : Bool) :
    (handleCascadeMiss run ticket scheduleId cascadeExhausted).Carries Kept := by
  unfold handleCascadeMiss
  refine .bind (readStore_along _) fun ctx => .bind (readStore_along _) fun db => ?_
  split
  · refine .bind (assignOncall_kept shallow _ _) fun _ => ?_
    refine .bind (writeAuditEntry_kept _ _ _) fun _ => ?_
    exact .bind (modifyRedis_along _) fun _ => commentOn_kept shallow _ _
  · refine .bind (writeAuditEntry_kept _ _ _) fun _ => ?_
    exact .bind (modifyRedis_along _) fun _ => commentOn_kept shallow _ _

theorem notifyBackup_kept (ticket : OncallCase) (schedule : DutySchedule) (tier : String) :
    (notifyBackup run ticket schedule tier).Carries Kept := by
  unfold notifyBackup
  split
  · exact .ret _
  · refine modifyStore_along fun store tracked => ?_
    split
    · exact tracked
    · exact tracked.of_eq rfl rfl rfl

theorem assignFromSchedule_kept (shallow : run.chain ≤ run.depth + 1) (ticket : OncallCase)
    (schedule : DutySchedule) (tier userId : String) :
    (assignFromSchedule run ticket schedule tier userId).Carries Kept := by
  unfold assignFromSchedule
  refine .bind (assignOncall_kept shallow _ _) fun _ => ?_
  refine .bind (writeAuditEntry_kept _ _ _) fun _ => ?_
  refine .bind (modifyRedis_along _) fun _ => .bind (readStore_along _) fun ctx => ?_
  exact .bind (commentOn_kept shallow _ _) fun _ => notifyBackup_kept _ _ _

theorem resolveTicket_kept (shallow : run.chain ≤ run.depth + 1) (ticket : OncallCase) (team : Team)
    (explicitAssignee : Bool) : (resolveTicket run ticket team explicitAssignee).Carries Kept := by
  unfold resolveTicket
  split
  · exact writeAuditEntry_kept _ _ _
  · refine .bind (readStore_along _) fun schedule => ?_
    split
    · exact handleCascadeMiss_kept shallow _ _ _
    · refine .bind (readStore_along _) fun resolved => ?_
      split
      · exact handleCascadeMiss_kept shallow _ _ _
      · exact assignFromSchedule_kept shallow _ _ _ _

theorem executeResolveOncallAction_kept (shallow : run.chain ≤ run.depth + 1)
    (instanceId : Option Id) : (executeResolveOncallAction run instanceId).Carries Kept := by
  unfold executeResolveOncallAction
  refine .bind (readStore_along _) fun change => ?_
  split
  · exact .ret _
  · refine .bind (.bind (.getOr _ _) fun id => readStore_along _) fun team => ?_
    split
    · exact .ret _
    · refine .bind (claimResolveKey_along _ _) fun claimed => .bind ?_ fun _ =>
        modifyStore_along fun _ tracked => tracked.of_eq rfl rfl rfl
      unfold resolveClaimed
      split
      · exact resolveTicket_kept shallow _ _ _
      · exact .ret _

/-! ### Any action -/

section

variable (shallow : run.chain ≤ run.depth + 1)
  (follows : ∀ payload transitionEventId, (followUp payload transitionEventId).Carries Kept)

include shallow follows

theorem executeTransitionAction_kept
    (instanceId : Option Id) (transitionId : Id) (comment : Option String) :
    (executeTransitionAction run instanceId transitionId comment followUp).Carries Kept := by
  unfold executeTransitionAction
  refine .bind (fun s => engine_along fun ran tracked => ?_) fun result =>
    .bind (readStore_along _) fun row => ?_
  · exact tracked.after shallow ((executeTransition_sends ran).mono fun payload moved trigger =>
      .inr ⟨rfl, moved trigger⟩)
  · split
    · exact .ret _
    · exact follows _ _

theorem performAction_kept
    {action : ActionConfig} (noted : ⟨s.store, s.redis, s.calls, run, action⟩ ∈ s.points)
    (closed : s.redis.isOpen run.tenantId action.type run.env.now = false) :
    Kept s (performAction followUp run action s).2 := by
  have side : (sideAction run action).Carries Kept := by
    unfold sideAction
    split
    · exact .throw _
    · exact .ret _
  cases action with
  | setField instanceId field value => exact executeSetFieldAction_kept shallow noted closed
  | assign instanceId assigneeId => exact executeAssignAction_kept shallow _ _ s
  | createEntity entityTypeId fields assignedTo template =>
    exact executeCreateEntityAction_kept shallow _ _ _ _ s
  | createChild config => exact executeCreateChildAction_kept noted closed
  | transition instanceId transitionId comment =>
    exact executeTransitionAction_kept shallow follows _ _ _ s
  | resolveOncall instanceId => exact executeResolveOncallAction_kept shallow _ s
  | connectorAction config => exact refl_of Kept s
  | unknown type => exact refl_of Kept s
  | notify config => exact side s
  | webhook config => exact side s
  | dispatchSeverityNotification instanceId => exact side s

end

end

def Shallow (depth chain : Nat) : Prop := chain ≤ depth + 1

theorem keeping_tracked : Keeping ActionPoint.stamps AutomationStore.Tracked Shallow where
  next shallow := Nat.succ_le_succ shallow
  action shallow noted closed follows := performAction_kept shallow follows noted closed
  started shallow within tracked := by
    refine ⟨tracked.keyed, tracked.rows, tracked.fits, tracked.shallow, fun e mem => ?_⟩
    rcases mem_append.mp mem with old | new
    · exact tracked.chains e old
    · rw [mem_singleton.mp new]
      exact Nat.le_trans shallow within
  ended tracked := by
    refine ⟨tracked.keyed, tracked.rows, tracked.fits, tracked.shallow, fun e mem => ?_⟩
    obtain ⟨row, memRow, rfl⟩ := mem_map.mp mem
    have bound := tracked.chains row memRow
    split
    · unfold AutomationExecution.complete
      split
      · exact bound
      · exact bound
      · exact bound
    · exact bound

/-! ## Deliveries -/

def AutomationStore.settled (store : AutomationStore) (env : AutomationEnv) (row : OutboxEvent) :
    Bool :=
  match row.payload.trigger with
  | none => true
  | some event =>
    (store.rulesFor row.tenantId event.eventType).all fun rule =>
      !store.ruleApplies env row.tenantId event rule ||
        (readTransitionEventId row.payload).any (store.hasSuccess row.tenantId rule.id)

def AutomationStore.transitionRow (store : AutomationStore) (row : OutboxEvent) : Bool :=
  store.written.any fun w => w.rowId == row.id && w.action == "transition"

def AutomationSystem.deliveryStamps (s : AutomationSystem) (env : AutomationEnv)
    (row : OutboxEvent) : Bool :=
  (!s.store.transitionRow row || s.store.settled env row) &&
    (s.runJob env row).2.points.all ActionPoint.stamps

/-- The condition on a step. -/
def AutomationSystem.Stamps (s : AutomationSystem) (label : AutomationLabel) : Prop :=
  match label with
  | .deliver rowId env _ => ∀ row, s.store.job rowId = some row → s.deliveryStamps env row = true
  | .others _ _ _ _ => True

theorem AutomationStore.settled_idle {store : AutomationStore} {env : AutomationEnv}
    (settled : store.settled env row) {outboxEventId : Option Id} {depth chain : Nat}
    {s : AutomationState} (same : s.store = store) :
    (executeAutomationRules env row.tenantId outboxEventId depth chain row.payload
      (readTransitionEventId row.payload) s).2 = s := by
  unfold executeAutomationRules
  cases MAX_DEPTH - depth with
  | zero => rfl
  | succ remaining =>
    unfold executeRules
    unfold AutomationStore.settled at settled
    cases parsed : row.payload.trigger with
    | none => rfl
    | some event =>
      rw [parsed] at settled
      rw [← same] at settled
      have idle := @Attempt.forEach_idle _ _ _ (s.store.rulesFor row.tenantId
        event.eventType) (ruleTurn (executeRules env row.tenantId outboxEventId remaining
          (depth + 1) (chain + 1)) ⟨env, row.tenantId, event, depth, chain, outboxEventId,
            readTransitionEventId row.payload⟩) s ?_
      · exact congrArg Prod.snd idle
      · intro rule mem
        have above := all_eq_true.mp settled rule mem
        unfold ruleTurn
        rw [Attempt.bind_eq, readStore_bind, Attempt.bind_eq, readStore_bind, if_neg]
        · rfl
        · dsimp only
          rcases or_eq_true_iff.mp above with off | done
          · rw [(not_eq_true' _).mp off]
            exact Bool.false_ne_true
          · rw [done, Bool.not_true, Bool.and_false]
            exact Bool.false_ne_true

theorem AutomationStore.Tracked.payload {store : AutomationStore} (tracked : store.Tracked)
    {w : Written} (mem : w ∈ store.written) {row : OutboxEvent}
    (memRow : row ∈ store.db.outboxEvents) (named : w.rowId = row.id) : w.payload = row.payload := by
  obtain ⟨row', memRow', named', payload⟩ := tracked.rows w mem
  have same : row' = row := tracked.keyed.eq memRow' memRow
    (congrArg (LockKey.row .outboxEvents) (named'.trans named))
  rw [← payload, same]

theorem AutomationSystem.runJob_kept {env : AutomationEnv} (tracked : s.store.Tracked)
    (found : s.store.job rowId = some row) (stamps : s.deliveryStamps env row) :
    (s.runJob env row).2.store.Tracked := by
  obtain ⟨ready, points⟩ := and_eq_true_iff.mp stamps
  obtain ⟨memRow, -, trigger⟩ := job_some found
  have finish : ∀ chain : Nat, s.store.chainOf row.id = chain →
      chain + 1 ≤ readDepth row.payload + 1 → (s.runJob env row).2.store.Tracked := by
    intro chain eq shallow
    refine keeping_tracked.job ?_ points tracked
    rw [eq]
    exact shallow
  cases wrote : s.store.written.find? fun w => w.rowId == row.id with
  | none =>
    refine finish 0 ?_ (by omega)
    unfold chainOf
    rw [wrote]
  | some w =>
    have memW := mem_of_find?_eq_some wrote
    have selected := find?_some wrote
    have named : w.rowId = row.id := eq_of_beq selected
    have payload := tracked.payload memW memRow named
    have chain : s.store.chainOf row.id = w.chain := by
      unfold chainOf
      rw [wrote]
    have shallow := tracked.shallow w memW
    rcases tracked.fits w memW (by rw [payload]; exact trigger) with ⟨-, above⟩ | ⟨moved, -⟩
    · rw [payload] at above
      exact finish w.chain chain (by omega)
    · have transition : s.store.transitionRow row :=
        any_eq_true.mpr ⟨w, memW, by rw [named, moved]; simp⟩
      rw [transition, Bool.not_true, Bool.false_or] at ready
      unfold AutomationSystem.runJob automationJob
      rw [settled_idle ready rfl]
      exact tracked

theorem AutomationSystem.deliver_tracked {env : AutomationEnv} {commits : Bool}
    (tracked : s.store.Tracked) (found : s.store.job rowId = some row)
    (stamps : s.deliveryStamps env row) : (s.deliver env commits row).store.Tracked :=
  deliver_store tracked fun _ => runJob_kept tracked found stamps

theorem AutomationStore.Tracked.afterOthers {store next : AutomationStore} {delivered : List Id}
    {at_ : Time} {rows : List OutboxEvent} (tracked : store.Tracked)
    (fresh : store.db.freshRows rows) : (store.afterOthers next delivered at_ rows).Tracked := by
  have sends : store.db.Sends (fun _ => True)
      (Tables.outboxEvents.modify (fun row => delivered.contains row.id) (OutboxEvent.deliver at_)
        (Tables.outboxEvents.append rows store.db)) :=
    (Db.Sends.append fresh fun _ _ => trivial).trans (.deliver _ _ _)
  have same : store.db.Sends (fun _ => True) (store.afterOthers next delivered at_ rows).db :=
    sends.trans (.of_outbox_eq rfl)
  refine ⟨same.keyed tracked.keyed, fun w mem => ?_, tracked.fits, tracked.shallow, tracked.chains⟩
  obtain ⟨row, memRow, named, payload⟩ := tracked.rows w mem
  obtain ⟨row', memRow', named', payload'⟩ := same.kept row memRow
  exact ⟨row', memRow', named'.trans named, payload'.trans payload⟩

/-! ## Runs -/

/-- No rule has run yet; the outbox has distinct identifiers. -/
structure AutomationStore.Untouched (store : AutomationStore) : Prop where
  keyed : Tables.outboxEvents.Keyed store.db
  written : store.written = []
  executions : store.executions = []

theorem AutomationStore.Untouched.tracked {store : AutomationStore} (start : store.Untouched) :
    store.Tracked := by
  refine ⟨start.keyed, ?_, ?_, ?_, ?_⟩
  · rw [start.written]
    exact fun _ mem => absurd mem not_mem_nil
  · rw [start.written]
    exact fun _ mem => absurd mem not_mem_nil
  · rw [start.written]
    exact fun _ mem => absurd mem not_mem_nil
  · rw [start.executions]
    exact fun _ mem => absurd mem not_mem_nil

/-- The condition as a test. -/
def AutomationSystem.checkStamps (s : AutomationSystem) (label : AutomationLabel) : Bool :=
  match label with
  | .deliver rowId env _ => (s.store.job rowId).all (s.deliveryStamps env)
  | .others _ _ _ _ => true

theorem AutomationSystem.stamps_of_check (checked : s.checkStamps label) : s.Stamps label := by
  cases label with
  | deliver rowId env commits =>
    intro row found
    unfold checkStamps at checked
    dsimp only at checked
    rw [found] at checked
    exact checked
  | others next delivered at_ rows => trivial

theorem AutomationSystem.step_tracked {s t : AutomationSystem} (tracked : s.store.Tracked)
    (stamps : s.Stamps label) (stepped : s.step label = some t) : t.store.Tracked := by
  cases label with
  | deliver rowId env commits =>
    obtain ⟨row, found, rfl⟩ := Option.map_eq_some_iff.mp stepped
    exact deliver_tracked tracked found (stamps row found)
  | others next delivered at_ rows =>
    unfold step at stepped
    dsimp only at stepped
    split at stepped
    next fresh =>
      cases stepped
      exact tracked.afterOthers fresh
    next => cases stepped

/-- In a run whose deliveries stamp what they send, every event that an action on records
wrote carries a depth above the action's, and no chain of rule runs is longer than
`MAX_DEPTH`. -/
theorem entity_chains_bounded {s t : AutomationSystem} {labels : List AutomationLabel}
    (start : s.store.Untouched)
    (stamped : Runs.Guarded AutomationSystem.step AutomationSystem.Stamps s labels)
    (ran : Runs.run AutomationSystem.step s labels = some t) : t.store.LoopBounded :=
  (stamped.invariant AutomationSystem.step_tracked start.tracked ran).loopBounded

/-! ## A loop of automation -/

namespace AutomationSample

/-- Identifiers from `base` on. -/
def env (base : Id) : AutomationEnv where
  rules := .acceptAll
  supply call := ⟨base, base, fun k => base + 10 * call + k⟩
  now := base
  computedFields _ _ row := row.fields
  fallbackAssignee _ _ _ := none
  valueText _ := ""
  toLowerCase s := s
  idText := toString
  uuid := String.toNat?
  sideFailure _ _ := none
  fails _ := false

/-- A record with a workflow, and one outbox row about it. -/
def store (rules : List AutomationRule) (payload : OutboxPayload) : AutomationStore where
  db :=
    { workflows := [{ id := 1, tenantId := some 1, entityTypeId := 7, initialState := "open" }]
      entityInstances :=
        [{ id := 1, entityTypeId := 7, tenantId := 1, workflowId := some 1,
           fields := [("a", .num 1)], createdAt := 0, updatedAt := 0 }]
      outboxEvents := [{ id := 100, tenantId := 1, payload := payload, createdAt := 0 }] }
  rules := rules

def toggling : AutomationRule where
  id := 1
  tenantId := 1
  triggerType := "entity.updated"
  actions := [.setField none "a" (.num 0), .setField none "a" (.num 1)]

def updated : OutboxPayload :=
  .record "entity.updated" 1 [("entityTypeId", .id 7), ("actorId", .null), ("changed", .obj [])]

def loop (deliveries : Nat) : List AutomationLabel :=
  (range deliveries).map fun i =>
    .deliver (if i == 0 then 100 else 1000 * i + 13) (env (1000 * (i + 1))) true

def assigning : List AutomationRule :=
  [{ id := 1, tenantId := 1, triggerType := "entity.created", actions := [.assign none "ann"] },
    { id := 2, tenantId := 1, triggerType := "entity.assigned",
      actions := [.createEntity 9 none none none, .setField none "a" (.num 1)] }]

def created : OutboxPayload :=
  .record "entity.created" 1 [("entityTypeId", .id 7), ("fields", .obj []), ("createdBy", .null)]

end AutomationSample

/-- The events of the edits carry no depth: the rule runs again and again at depth 0, and the
chain of its runs passes `MAX_DEPTH`. -/
theorem entity_updated_resets_depth : ∃ (s : AutomationSystem) (labels : List AutomationLabel)
    (t : AutomationSystem), s.store.Untouched ∧ Runs.run AutomationSystem.step s labels = some t ∧
    (∃ w ∈ t.store.written, w.action = "set_field" ∧ w.payload.isTrigger = true ∧
      ¬ w.depth < readDepth w.payload) ∧
    ∃ e ∈ t.store.executions, e.status = .success ∧ MAX_DEPTH < e.chain := by
  have looped : (Runs.run AutomationSystem.step
      ⟨AutomationSample.store [AutomationSample.toggling] AutomationSample.updated, {}⟩
      (AutomationSample.loop 11)).any (fun t =>
        (t.store.written.any fun w => w.action == "set_field" && w.payload.isTrigger &&
          !decide (w.depth < readDepth w.payload)) &&
        t.store.executions.any fun e => e.status == .success && decide (MAX_DEPTH < e.chain)) =
      true := by
    decide +kernel
  obtain ⟨t, ran, found⟩ := (Option.any_eq_true _ _).mp looped
  obtain ⟨sent, long⟩ := and_eq_true_iff.mp found
  obtain ⟨w, memW, unstamped⟩ := any_eq_true.mp sent
  obtain ⟨e, memE, chained⟩ := any_eq_true.mp long
  simp only [and_eq_true, beq_iff_eq, not_eq_true', decide_eq_false_iff_not] at unstamped
  simp only [and_eq_true, beq_iff_eq, decide_eq_true_eq] at chained
  exact ⟨_, _, t, ⟨by unfold Txn.Table.Keyed; decide, rfl, rfl⟩, ran,
    ⟨w, memW, unstamped.1.1, unstamped.1.2, unstamped.2⟩, e, memE, chained⟩

/-- Two rules of which each triggers the other's event. -/
theorem entity_chains_bounded_assigning : ∃ t : AutomationSystem,
    t.store.written.length = 2 ∧ t.store.executions.length = 2 ∧ t.store.LoopBounded := by
  have ran : (Runs.run AutomationSystem.step
      ⟨AutomationSample.store AutomationSample.assigning AutomationSample.created, {}⟩
      [.deliver 100 (AutomationSample.env 1000) true,
        .deliver 1010 (AutomationSample.env 2000) true]).any (fun t =>
          t.store.written.length == 2 && t.store.executions.length == 2) = true := by
    decide +kernel
  obtain ⟨t, ran, counted⟩ := (Option.any_eq_true _ _).mp ran
  obtain ⟨rows, runs⟩ := and_eq_true_iff.mp counted
  refine ⟨t, eq_of_beq rows, eq_of_beq runs, entity_chains_bounded
    ⟨by unfold Txn.Table.Keyed; decide, rfl, rfl⟩
    (Runs.Guarded.of_check AutomationSystem.stamps_of_check (by decide +kernel)) ran⟩

end OpenWind
