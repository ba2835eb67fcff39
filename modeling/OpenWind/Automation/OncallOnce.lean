import OpenWind.Automation.Walk

/-!
# Resolving a team change once

An outcome of `resolve_oncall` is one entry of the audit log.  The key in Redis that keeps a
second delivery from writing another is of the record and the team, not of the event, and
is claimed outside the transaction.  So an event is resolved once as long as, whenever its
action runs, the key is held exactly when the event has its outcome.
-/

open List Option Bool

namespace OpenWind

open Txn

/-! ## Outcomes -/

def AuditEntry.isFor (resolution : Resolution) (entry : AuditEntry) : Bool :=
  entry.outboxEventId == resolution.outboxEventId && entry.resourceId == resolution.instanceId

def AutomationStore.outcomes (store : AutomationStore) (resolution : Resolution) : Nat :=
  store.auditLog.countP (AuditEntry.isFor resolution)

structure AutomationStore.ResolvedOnce (store : AutomationStore) : Prop where
  one : ∀ resolution ∈ store.resolutions, store.outcomes resolution = 1
  atMost : ∀ resolution, store.outcomes resolution ≤ 1

/-! ## Programs that write one outcome -/

def SameOutcomes (s t : AutomationState) : Prop :=
  t.store.auditLog = s.store.auditLog ∧ t.store.resolutions = s.store.resolutions ∧
    t.points = s.points

instance : Std.Refl SameOutcomes := ⟨fun _ => ⟨rfl, rfl, rfl⟩⟩

instance : IsTrans AutomationState SameOutcomes :=
  ⟨fun _ _ _ first second => ⟨second.1.trans first.1, second.2.1.trans first.2.1,
    second.2.2.trans first.2.2⟩⟩

/-- One outcome was written. -/
def AddsOutcome (resolution : Resolution) (s t : AutomationState) : Prop :=
  (∃ entry, entry.isFor resolution = true ∧ t.store.auditLog = s.store.auditLog ++ [entry]) ∧
    t.store.resolutions = s.store.resolutions ∧ t.points = s.points

variable {s t u : AutomationState} {α : Type} {entry : AuditEntry}

theorem AddsOutcome.after {resolution : Resolution} (same : SameOutcomes s t)
    (adds : AddsOutcome resolution t u) : AddsOutcome resolution s u := by
  obtain ⟨⟨entry, own, log⟩, resolutions, points⟩ := adds
  exact ⟨⟨entry, own, by rw [log, same.1]⟩, resolutions.trans same.2.1, points.trans same.2.2⟩

theorem AddsOutcome.before {resolution : Resolution} (adds : AddsOutcome resolution s t)
    (same : SameOutcomes t u) : AddsOutcome resolution s u := by
  obtain ⟨⟨entry, own, log⟩, resolutions, points⟩ := adds
  exact ⟨⟨entry, own, same.1.trans log⟩, same.2.1.trans resolutions, same.2.2.trans points⟩

def WritesOne (resolution : Resolution) {α : Type} (p : Auto α) : Prop :=
  ∀ s, (∃ e, (p s).1 = .error e ∧ SameOutcomes s (p s).2) ∨ AddsOutcome resolution s (p s).2

namespace WritesOne

variable {resolution : Resolution} {α β : Type}

theorem after {p : Auto α} {f : α → Auto β} (first : p.Carries SameOutcomes)
    (rest : ∀ a, WritesOne resolution (f a)) : WritesOne resolution (p.bind f) := by
  intro s
  have same := first s
  unfold Attempt.bind
  rcases eq : p s with ⟨e | a, mid⟩
  · rw [eq] at same
    exact .inl ⟨e, rfl, same⟩
  · rw [eq] at same
    rcases rest a mid with ⟨e, failed, unchanged⟩ | adds
    · exact .inl ⟨e, failed, trans_of SameOutcomes same unchanged⟩
    · exact .inr (adds.after same)

theorem before {p : Auto α} {f : α → Auto β} (first : WritesOne resolution p)
    (rest : ∀ a, (f a).Carries SameOutcomes) : WritesOne resolution (p.bind f) := by
  intro s
  unfold Attempt.bind
  rcases first s with ⟨e, failed, same⟩ | adds
  · rcases eq : p s with ⟨e' | a, mid⟩
    · rw [eq] at same
      exact .inl ⟨e', rfl, same⟩
    · rw [eq] at failed
      cases failed
  · rcases eq : p s with ⟨e | a, mid⟩
    · rw [eq] at adds
      exact .inr adds
    · rw [eq] at adds
      exact .inr (adds.before (rest a mid))

end WritesOne

theorem modifyRedis_same (f : AutomationRedis → AutomationRedis) :
    (modifyRedis f).Carries SameOutcomes :=
  .modify fun _ => ⟨rfl, rfl, rfl⟩

theorem engine_same (run : ActionRun) (action : String) (call : EntitySupply → Tx α) :
    (engine run action call).Carries SameOutcomes := by
  intro s
  unfold engine
  dsimp only
  split
  · exact ⟨rfl, rfl, rfl⟩
  · split
    · exact ⟨rfl, rfl, rfl⟩
    · exact ⟨rfl, rfl, rfl⟩

section

variable {run : ActionRun} {ticket : OncallCase}

/-- What an event's outcome for a ticket is filed under. -/
def OncallCase.resolution (ticket : OncallCase) (run : ActionRun) : Resolution :=
  ⟨run.outboxEventId, ticket.instanceId⟩

theorem assignOncall_same (instanceId : Id) (userId : String) :
    (assignOncall run instanceId userId).Carries SameOutcomes :=
  .bind (engine_same _ _ _) fun _ => .ret _

theorem commentOn_same (row : Option EntityInstance) (text : String) :
    (commentOn run row text).Carries SameOutcomes := by
  cases row with
  | none => exact .ret _
  | some row => exact engine_same _ _ _

theorem notifyBackup_same (schedule : DutySchedule) (tier : String) :
    (notifyBackup run ticket schedule tier).Carries SameOutcomes := by
  unfold notifyBackup
  split
  · exact .ret _
  · refine .modify fun s => ?_
    dsimp only
    split
    · exact ⟨rfl, rfl, rfl⟩
    · exact ⟨rfl, rfl, rfl⟩

theorem writeAuditEntry_one (action : String) (metadata : Fields) :
    WritesOne (ticket.resolution run) (writeAuditEntry run ticket.instanceId action metadata) := by
  intro s
  refine .inr ⟨⟨_, ?_, rfl⟩, rfl, rfl⟩
  unfold AuditEntry.isFor OncallCase.resolution
  simp

theorem handleCascadeMiss_one (scheduleId : Option Id) (cascadeExhausted : Bool) :
    WritesOne (ticket.resolution run)
      (handleCascadeMiss run ticket scheduleId cascadeExhausted) := by
  unfold handleCascadeMiss
  refine .after (.get _) fun ctx => .after (.get _) fun db => ?_
  split
  · refine .after (assignOncall_same _ _) fun _ => .before (writeAuditEntry_one _ _) fun _ => ?_
    exact .bind (modifyRedis_same _) fun _ => commentOn_same _ _
  · refine .before (writeAuditEntry_one _ _) fun _ => ?_
    exact .bind (modifyRedis_same _) fun _ => commentOn_same _ _

theorem assignFromSchedule_one (schedule : DutySchedule) (tier userId : String) :
    WritesOne (ticket.resolution run) (assignFromSchedule run ticket schedule tier userId) := by
  unfold assignFromSchedule
  refine .after (assignOncall_same _ _) fun _ => .before (writeAuditEntry_one _ _) fun _ => ?_
  refine .bind (modifyRedis_same _) fun _ => .bind (.get _) fun ctx => ?_
  exact .bind (commentOn_same _ _) fun _ => notifyBackup_same _ _

theorem resolveTicket_one (team : Team) (explicitAssignee : Bool) :
    WritesOne (ticket.resolution run) (resolveTicket run ticket team explicitAssignee) := by
  unfold resolveTicket
  split
  · exact writeAuditEntry_one _ _
  · refine .after (.get _) fun schedule => ?_
    split
    · exact handleCascadeMiss_one _ _
    · refine .after (.get _) fun resolved => ?_
      split
      · exact handleCascadeMiss_one _ _
      · exact assignFromSchedule_one _ _ _

end

/-! ## The action -/

def ActionRun.teamToResolve (run : ActionRun) (store : AutomationStore) (instanceId : Id) :
    Option String :=
  (run.event.teamChange run.env store.db run.tenantId instanceId).bind fun change =>
    (run.env.uuid change.teamId).bind fun id =>
      (store.teams.find? fun team =>
        team.id == id && team.tenantId == run.tenantId && team.deletedAt.isNone).map fun _ =>
          change.teamId

def ActionPoint.keyAgrees (p : ActionPoint) : Bool :=
  match p.action with
  | .resolveOncall instanceId =>
    p.skipped ||
      (p.run.teamToResolve p.store (p.run.target instanceId)).all fun teamId =>
        p.redis.hasResolveKey (p.run.target instanceId) teamId p.run.env.now ==
          decide (0 < p.store.outcomes ⟨p.run.outboxEventId, p.run.target instanceId⟩)
  | _ => true

abbrev Resolving : AutomationState → AutomationState → Prop :=
  Along ActionPoint.keyAgrees AutomationStore.ResolvedOnce

theorem AutomationStore.ResolvedOnce.of_eq {store store' : AutomationStore}
    (once : store.ResolvedOnce) (log : store'.auditLog = store.auditLog)
    (resolutions : store'.resolutions = store.resolutions) : store'.ResolvedOnce := by
  refine ⟨?_, ?_⟩
  · unfold outcomes
    rw [resolutions, log]
    exact once.one
  · unfold outcomes
    rw [log]
    exact once.atMost

theorem engine_resolving (run : ActionRun) (action : String) (call : EntitySupply → Tx α) :
    (engine run action call).Carries Resolving :=
  fun _ => engine_along fun _ once => once.of_eq rfl rfl

theorem AutomationStore.outcomes_append {store store' : AutomationStore}
    (log : store'.auditLog = store.auditLog ++ [entry]) (resolution : Resolution) :
    store'.outcomes resolution = store.outcomes resolution + (entry.isFor resolution).toNat := by
  unfold outcomes
  rw [log, countP_append, countP_singleton]
  cases entry.isFor resolution <;> rfl

theorem AuditEntry.isFor_unique {a b : Resolution} (left : entry.isFor a)
    (right : entry.isFor b) : a = b := by
  obtain ⟨event, record⟩ := and_eq_true_iff.mp left
  obtain ⟨event', record'⟩ := and_eq_true_iff.mp right
  have events := (eq_of_beq event).symm.trans (eq_of_beq event')
  have records := (eq_of_beq record).symm.trans (eq_of_beq record')
  cases a
  cases b
  cases events
  cases records
  rfl

theorem AutomationStore.ResolvedOnce.first {resolution : Resolution} (once : s.store.ResolvedOnce)
    (none : s.store.outcomes resolution = 0) (adds : AddsOutcome resolution s t) :
    t.store.ResolvedOnce ∧ t.store.outcomes resolution = 1 := by
  obtain ⟨⟨entry, own, log⟩, resolutions, -⟩ := adds
  have counted := AutomationStore.outcomes_append log
  have now : t.store.outcomes resolution = 1 := by rw [counted, none, own]; rfl
  have others : ∀ other, other ≠ resolution → t.store.outcomes other = s.store.outcomes other := by
    intro other different
    rw [counted]
    cases same : entry.isFor other with
    | true => exact absurd (AuditEntry.isFor_unique same own) different
    | false => rfl
  refine ⟨⟨fun other mem => ?_, fun other => ?_⟩, now⟩
  · by_cases same : other = resolution
    · rw [same, now]
    · rw [others other same]
      rw [resolutions] at mem
      exact once.one other mem
  · by_cases same : other = resolution
    · rw [same, now]
    · rw [others other same]
      exact once.atMost other

theorem AutomationStore.ResolvedOnce.note {store : AutomationStore} {resolution : Resolution}
    (once : store.ResolvedOnce) (one : store.outcomes resolution = 1) :
    AutomationStore.ResolvedOnce
      { store with resolutions := store.resolutions ++ [resolution] } := by
  refine ⟨fun other mem => ?_, once.atMost⟩
  rcases mem_append.mp mem with old | new
  · exact once.one other old
  · rw [mem_singleton.mp new]
    exact one

section

variable {run : ActionRun}

theorem resolveClaimed_once {ticket : OncallCase} {team : Team}
    {explicitAssignee claimed : Bool} {s : AutomationState} (once : s.store.ResolvedOnce)
    (agrees : claimed = !decide (0 < s.store.outcomes (ticket.resolution run))) :
    (((resolveClaimed run ticket team explicitAssignee claimed).bind fun _ =>
      noteResolution run ticket.instanceId) s).2.store.ResolvedOnce := by
  have single := once.atMost (ticket.resolution run)
  unfold resolveClaimed
  cases claimed with
  | false =>
    have held := (not_eq_false' _).mp agrees.symm
    have written := of_decide_eq_true held
    have one : s.store.outcomes (ticket.resolution run) = 1 := by omega
    exact once.note one
  | true =>
    have free := (not_eq_true' _).mp agrees.symm
    have none : s.store.outcomes (ticket.resolution run) = 0 := by
      have := of_decide_eq_false free
      omega
    rw [if_pos rfl]
    unfold Attempt.bind
    rcases @resolveTicket_one run ticket team explicitAssignee s with
      ⟨e, failed, same⟩ | adds
    · rcases eq : resolveTicket run ticket team explicitAssignee s with ⟨e' | a, t⟩
      · rw [eq] at same
        exact once.of_eq same.1 same.2.1
      · rw [eq] at failed
        cases failed
    · obtain ⟨after, one⟩ := once.first none adds
      rcases eq : resolveTicket run ticket team explicitAssignee s with ⟨e | a, t⟩
      · rw [eq] at after
        exact after
      · rw [eq] at after one
        exact after.note one

theorem findTeam_eq (teamId : String) (s : AutomationState) :
    findTeam run teamId s = match run.env.uuid teamId with
      | none => (.error (.failed "invalid input syntax for type uuid"), s)
      | some id => (.ok (s.store.teams.find? fun team =>
          team.id == id && team.tenantId == run.tenantId && team.deletedAt.isNone), s) := by
  unfold findTeam
  cases run.env.uuid teamId with
  | none => rfl
  | some id => rfl

theorem claimResolveKey_eq (instanceId : Id) (teamId : String) (s : AutomationState) :
    ∃ t, claimResolveKey run instanceId teamId s =
        (.ok (!s.redis.hasResolveKey instanceId teamId run.env.now), t) ∧
      t.store = s.store ∧ t.points = s.points := by
  unfold claimResolveKey
  cases held : s.redis.hasResolveKey instanceId teamId run.env.now with
  | true =>
    refine ⟨s, ?_, rfl, rfl⟩
    simp [Attempt.bind, Attempt.get, held, Attempt.ret]
  | false =>
    refine ⟨(modifyRedis (fun redis =>
      { redis with
        resolveKeys := redis.resolveKeys ++ [⟨instanceId, teamId, run.env.now + resolveKeyMs⟩] })
      s).2, ?_, rfl, rfl⟩
    simp [Attempt.bind, Attempt.get, held, Attempt.ret, modifyRedis, Attempt.modify]

theorem resolveTicket_grows (ticket : OncallCase) (team : Team) (explicitAssignee : Bool) :
    (resolveTicket run ticket team explicitAssignee).Carries Grows := by
  intro s
  unfold Grows
  rcases @resolveTicket_one run ticket team explicitAssignee s with
    ⟨_, -, same⟩ | adds
  · rw [same.2.2]
    exact Subset.refl _
  · rw [adds.2.2]
    exact Subset.refl _

theorem executeResolveOncallAction_grows (instanceId : Option Id) :
    (executeResolveOncallAction run instanceId).Carries Grows := by
  unfold executeResolveOncallAction
  refine .bind (.get _) fun change => ?_
  split
  · exact .ret _
  · refine .bind (.bind (.getOr _ _) fun id => .get _) fun team => ?_
    split
    · exact .ret _
    · refine .bind (fun s => ?_) fun claimed => .bind ?_ fun _ =>
        .modify fun s => Subset.refl s.points
      · obtain ⟨t, eq, -, points⟩ := @claimResolveKey_eq run (run.target instanceId) _ s
        rw [eq]
        unfold Grows
        rw [points]
        exact Subset.refl _
      · unfold resolveClaimed
        split
        · exact resolveTicket_grows _ _ _
        · exact .ret _

theorem executeResolveOncallAction_resolving {instanceId : Option Id} {s : AutomationState}
    (noted : ⟨s.store, s.redis, s.calls, run, .resolveOncall instanceId⟩ ∈ s.points)
    (closed : s.redis.isOpen run.tenantId "resolve_oncall" run.env.now = false) :
    Resolving s (executeResolveOncallAction run instanceId s).2 := by
  by_cases agrees :
      ActionPoint.keyAgrees ⟨s.store, s.redis, s.calls, run, .resolveOncall instanceId⟩ = true
  · refine ⟨executeResolveOncallAction_grows instanceId s, fun _ once => ?_⟩
    rcases or_eq_true_iff.mp agrees with skipped | agrees
    · exact absurd (closed.symm.trans skipped) Bool.false_ne_true
    · dsimp only at agrees
      unfold ActionRun.teamToResolve at agrees
      unfold executeResolveOncallAction
      rw [Attempt.bind_eq, readStore_bind]
      cases event : run.event.teamChange run.env s.store.db run.tenantId
          (run.target instanceId) with
      | none => exact once
      | some change =>
        rw [event] at agrees
        dsimp only [bind_some] at agrees ⊢
        rw [Attempt.bind_eq]
        unfold Attempt.bind
        rw [findTeam_eq]
        cases parsed : run.env.uuid change.teamId with
        | none => exact once
        | some id =>
          rw [parsed] at agrees
          dsimp only [bind_some] at agrees ⊢
          cases found : s.store.teams.find? fun team =>
              team.id == id && team.tenantId == run.tenantId && team.deletedAt.isNone with
          | none => exact once
          | some team =>
            rw [found] at agrees
            obtain ⟨t, claimed, store, -⟩ :=
              @claimResolveKey_eq run (run.target instanceId) change.teamId s
            dsimp only
            rw [Attempt.bind_eq]
            unfold Attempt.bind
            rw [claimed]
            rw [← store] at once agrees
            refine @resolveClaimed_once _ ⟨run.target instanceId, change.teamId, team.name⟩ _ _ _ _
              once ?_
            rw [eq_of_beq agrees]
            rfl
  · exact .of_not_ok (executeResolveOncallAction_grows instanceId s) noted agrees

theorem executeCreateChildAction_resolving (config : CreateChildConfig) :
    (executeCreateChildAction run config).Carries Resolving := by
  unfold executeCreateChildAction
  refine .bind (.get _) fun db => ?_
  split
  · exact .throw _
  · split
    · exact .ret _
    · refine .bind (engine_resolving _ _ _) fun child => ?_
      unfold writeBack
      split
      · exact .ret _
      · exact .bind (engine_resolving _ _ _) fun _ => .ret _

theorem performAction_resolving {followUp : FollowUp} {action : ActionConfig} {s : AutomationState}
    (noted : ⟨s.store, s.redis, s.calls, run, action⟩ ∈ s.points)
    (closed : s.redis.isOpen run.tenantId action.type run.env.now = false)
    (follows : ∀ payload transitionEventId,
      (followUp payload transitionEventId).Carries Resolving) :
    Resolving s (performAction followUp run action s).2 := by
  have side : (sideAction run action).Carries Resolving := by
    unfold sideAction
    split
    · exact .throw _
    · exact .ret _
  have call : ∀ {α : Type} (name : String) (p : EntitySupply → Tx α),
      ((engine run name p).bind fun _ => Attempt.ret ()).Carries Resolving :=
    fun name p => .bind (engine_resolving run name p) fun _ => .ret _
  cases action with
  | setField instanceId field value => exact call _ _ s
  | assign instanceId assigneeId => exact call _ _ s
  | createEntity entityTypeId fields assignedTo template =>
    have created : (executeCreateEntityAction run entityTypeId fields assignedTo
        template).Carries Resolving := by
      unfold executeCreateEntityAction
      exact .bind (.get _) fun db => call _ _
    exact created s
  | createChild config => exact executeCreateChildAction_resolving config s
  | transition instanceId transitionId comment =>
    have moved : (executeTransitionAction run instanceId transitionId comment
        followUp).Carries Resolving := by
      unfold executeTransitionAction
      refine .bind (engine_resolving _ _ _) fun result => .bind (.get _) fun row => ?_
      split
      · exact .ret _
      · exact follows _ _
    exact moved s
  | resolveOncall instanceId => exact executeResolveOncallAction_resolving noted closed
  | connectorAction config => exact refl_of Resolving s
  | unknown type => exact refl_of Resolving s
  | notify config => exact side s
  | webhook config => exact side s
  | dispatchSeverityNotification instanceId => exact side s

end

theorem keeping_resolvedOnce :
    Keeping ActionPoint.keyAgrees AutomationStore.ResolvedOnce fun _ _ => True where
  next _ := trivial
  action _ noted closed follows := performAction_resolving noted closed follows
  started _ _ once := once.of_eq rfl rfl
  ended once := once.of_eq rfl rfl

/-! ## Runs -/

def AutomationSystem.KeysAgree (s : AutomationSystem) (label : AutomationLabel) : Prop :=
  match label with
  | .deliver rowId env commits => commits = true → ∀ row, s.store.job rowId = some row →
    (s.runJob env row).2.points.all ActionPoint.keyAgrees = true
  | .others _ _ _ _ => True

theorem AutomationSystem.step_resolvedOnce {s t : AutomationSystem} {label : AutomationLabel}
    (once : s.store.ResolvedOnce) (agree : s.KeysAgree label) (stepped : s.step label = some t) :
    t.store.ResolvedOnce := by
  cases label with
  | deliver rowId env commits =>
    obtain ⟨row, found, rfl⟩ := map_eq_some_iff.mp stepped
    exact deliver_store once fun commits =>
      keeping_resolvedOnce.job trivial (agree commits row found) once
  | others next delivered at_ rows =>
    unfold step at stepped
    dsimp only at stepped
    split at stepped
    next =>
      cases stepped
      exact once.of_eq rfl rfl
    next => cases stepped

/-- In a run from a store without outcomes in which the keys agree with the outcomes, a team
change whose action completed, in a delivery that was committed, has exactly one outcome. -/
theorem team_changes_resolved_once {s t : AutomationSystem} {labels : List AutomationLabel}
    (unresolved : s.store.resolutions = []) (silent : s.store.auditLog = [])
    (agree : Runs.Guarded AutomationSystem.step AutomationSystem.KeysAgree s labels)
    (ran : Runs.run AutomationSystem.step s labels = some t) :
    ∀ resolution ∈ t.store.resolutions, t.store.outcomes resolution = 1 := by
  have start : s.store.ResolvedOnce := by
    refine ⟨?_, fun resolution => ?_⟩
    · rw [unresolved]
      exact fun _ mem => absurd mem not_mem_nil
    · unfold AutomationStore.outcomes
      rw [silent]
      exact Nat.zero_le 1
  have once : t.store.ResolvedOnce :=
    agree.invariant AutomationSystem.step_resolvedOnce start ran
  exact once.one

namespace OncallSample

/-- The identifiers of the teams as texts. -/
def env (base : Id) : AutomationEnv where
  rules := .acceptAll
  supply call := ⟨base, base, fun k => base + 10 * call + k⟩
  now := base
  computedFields _ _ row := row.fields
  fallbackAssignee _ _ _ := none
  valueText _ := ""
  toLowerCase s := s
  idText id := if id == 5 then "five" else "six"
  uuid s := if s == "five" then some 5 else if s == "six" then some 6 else none
  sideFailure _ _ := none
  fails _ := false

def change (id : Id) (old new : Json) : OutboxEvent where
  id := id
  tenantId := 1
  payload := .record "entity.updated" 1
    [("entityTypeId", .id 7), ("actorId", .null),
      ("changed", .obj [("team_id", .obj [("old", old), ("new", new)])])]
  createdAt := id

def db : Db where
  entityInstances := [{ id := 1, entityTypeId := 7, tenantId := 1, createdAt := 0, updatedAt := 0 }]
  outboxEvents :=
    [change 100 .null (.str "five"), change 101 (.str "five") (.str "six"),
      change 102 (.str "six") (.str "five")]
  tenantUsers := [{ tenantId := 1, userId := "ann" }, { tenantId := 1, userId := "bob" }]

def rule : AutomationRule where
  id := 1
  tenantId := 1
  triggerType := "entity.updated"
  actions := [.resolveOncall none]

def store : AutomationStore where
  db := db
  rules := [rule]
  teams := [⟨5, 1, "Five", none⟩, ⟨6, 1, "Six", none⟩]
  schedules := [⟨1, 1, 5, 0, 100000, "ann", none, none, none⟩,
    ⟨2, 1, 6, 0, 100000, "bob", none, none, none⟩]

end OncallSample

/-- A team that is changed away and back within a day: the third event is delivered and its
action completes, but the key of the first is still held and the event has no outcome. -/
theorem team_change_back_unresolved : ∃ (labels : List AutomationLabel) (t : AutomationSystem),
    Runs.run AutomationSystem.step ⟨OncallSample.store, {}⟩ labels = some t ∧
    (∃ e ∈ t.store.executions, e.status = .success ∧ e.triggerEvent.instanceId = 1 ∧
      e.startedAt = 3000) ∧
    ⟨some 102, 1⟩ ∈ t.store.resolutions ∧ t.store.outcomes ⟨some 102, 1⟩ = 0 := by
  have ran : (Runs.run AutomationSystem.step ⟨OncallSample.store, {}⟩
      [.deliver 100 (OncallSample.env 1000) true, .deliver 101 (OncallSample.env 2000) true,
        .deliver 102 (OncallSample.env 3000) true]).any (fun t =>
          (t.store.executions.any fun e => e.status == .success &&
            e.triggerEvent.instanceId == 1 && e.startedAt == 3000) &&
          t.store.resolutions.contains ⟨some 102, 1⟩ &&
          t.store.outcomes ⟨some 102, 1⟩ == 0) = true := by
    decide +kernel
  obtain ⟨t, ran, found⟩ := (Option.any_eq_true _ _).mp ran
  obtain ⟨both, none⟩ := and_eq_true_iff.mp found
  obtain ⟨finished, noted⟩ := and_eq_true_iff.mp both
  obtain ⟨e, mem, success⟩ := List.any_eq_true.mp finished
  simp only [and_eq_true, beq_iff_eq] at success
  exact ⟨_, t, ran, ⟨e, mem, success.1.1, success.1.2, success.2⟩,
    contains_iff_mem.mp noted, eq_of_beq none⟩

/-- Two team changes, the first of which is delivered twice. -/
theorem team_changes_resolved_once_twice : ∃ t : AutomationSystem,
    t.store.resolutions = [⟨some 100, 1⟩, ⟨some 100, 1⟩, ⟨some 101, 1⟩] ∧
    ∀ resolution ∈ t.store.resolutions, t.store.outcomes resolution = 1 := by
  have ran : (Runs.run AutomationSystem.step ⟨OncallSample.store, {}⟩
      [.deliver 100 (OncallSample.env 1000) true, .deliver 100 (OncallSample.env 2000) true,
        .deliver 101 (OncallSample.env 3000) true]).any (fun t =>
          t.store.resolutions == [⟨some 100, 1⟩, ⟨some 100, 1⟩, ⟨some 101, 1⟩]) = true := by
    decide +kernel
  obtain ⟨t, ran, noted⟩ := (Option.any_eq_true _ _).mp ran
  refine ⟨t, eq_of_beq noted, team_changes_resolved_once rfl rfl
    (Runs.Guarded.of_check (c := fun s label =>
      match label with
      | .deliver rowId env _ => (s.store.job rowId).all fun row =>
        (s.runJob env row).2.points.all ActionPoint.keyAgrees
      | .others _ _ _ _ => true) ?_ (by decide +kernel)) ran⟩
  intro s label checked
  cases label with
  | deliver rowId env commits =>
    intro _ row found
    dsimp only at checked
    rw [found] at checked
    exact checked
  | others next delivered at_ rows => trivial

end OpenWind
