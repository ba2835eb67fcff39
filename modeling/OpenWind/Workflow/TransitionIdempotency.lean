import OpenWind.Lib.Pool
import OpenWind.Workflow.Engine
import Mathlib.Data.List.Pairwise

/-!
# Transition idempotency

Any number of `executeTransition` calls run concurrently.  Each looks its key up
before it takes the lock, and the unique index on (instance, idempotency key)
decides between those that missed the stored event.
-/

open List Option

namespace OpenWind

open Txn Txn.Safe

/-- A call of `executeTransition`. -/
structure TransitionCall where
  tenantId : Id
  request : TransitionRequest
  supply : Supply

def TransitionCall.program (call : TransitionCall) : Tx EventResult :=
  executeTransition call.tenantId call.request call.supply

def WorkflowEvent.Carries (event : WorkflowEvent) (instanceId : Id) (key : String) : Prop :=
  event.instanceId = instanceId ∧ event.idempotencyKey = some key

instance (event : WorkflowEvent) (instanceId : Id) (key : String) :
    Decidable (event.Carries instanceId key) :=
  inferInstanceAs (Decidable (_ ∧ _))

/-- The two rows have different entries in the index, or none. -/
def WorkflowEvent.Apart (a b : WorkflowEvent) : Prop :=
  ∀ instanceId key, a.Carries instanceId key → ¬ b.Carries instanceId key

instance : Std.Symm WorkflowEvent.Apart where
  symm _ _ apart instanceId key carries carries' := apart instanceId key carries' carries

def UniqueKeys (db : Db) : Prop :=
  db.workflowEvents.Pairwise WorkflowEvent.Apart

variable {a b db : Db} {instanceId : Id} {key : String} {held : List LockKey}
  {event : WorkflowEvent} {f : Finished TransitionCall Db TxError EventResult}

theorem UniqueKeys.eq (unique : UniqueKeys db) {a b : WorkflowEvent} (memA : a ∈ db.workflowEvents)
    (memB : b ∈ db.workflowEvents) (carriesA : a.Carries instanceId key)
    (carriesB : b.Carries instanceId key) : a = b := by
  by_contra ne
  exact Pairwise.forall unique memA memB ne instanceId key carriesA carriesB

/-! ## What the others may do -/

def LogGrows (held : List LockKey) (db db' : Db) : Prop :=
  ∃ more, db'.workflowEvents = db.workflowEvents ++ more ∧
    ∀ event ∈ more, ∀ instanceId key, event.Carries instanceId key →
      LockKey.workflowEventKey instanceId key ∉ held

theorem LogGrows.refl (held : List LockKey) (db : Db) : LogGrows held db db :=
  ⟨[], by simp, fun _ mem => absurd mem not_mem_nil⟩

theorem LogGrows.trans {a b c : Db} (first : LogGrows held a b) (second : LogGrows held b c) :
    LogGrows held a c := by
  rcases first with ⟨new, eqb, free⟩
  rcases second with ⟨newer, eqc, free'⟩
  refine ⟨new ++ newer, by rw [eqc, eqb, append_assoc], fun event mem => ?_⟩
  rcases mem_append.mp mem with mem | mem
  · exact free event mem
  · exact free' event mem

theorem LogGrows.anti {held more : List LockKey} (subset : held ⊆ more) (grows : LogGrows more a b) :
    LogGrows held a b := by
  rcases grows with ⟨new, eq, free⟩
  exact ⟨new, eq, fun event mem instanceId key carries taken =>
    free event mem instanceId key carries (subset taken)⟩

def log_rely : Rely Db LockKey where
  rel := LogGrows
  refl := LogGrows.refl
  trans := LogGrows.trans
  anti := LogGrows.anti

theorem LogGrows.mem {held : List LockKey} {db db' : Db} {event : WorkflowEvent}
    (grows : LogGrows held db db') (mem : event ∈ db.workflowEvents) :
    event ∈ db'.workflowEvents := by
  obtain ⟨more, eq, -⟩ := grows
  rw [eq]
  exact mem_append_left _ mem

theorem LogGrows.unused {held : List LockKey} {db db' : Db} {instanceId : Id} {key : String}
    (grows : LogGrows held db db') (holds : LockKey.workflowEventKey instanceId key ∈ held)
    (unused : ∀ event ∈ db.workflowEvents, ¬ event.Carries instanceId key) :
    ∀ event ∈ db'.workflowEvents, ¬ event.Carries instanceId key := by
  obtain ⟨more, eq, free⟩ := grows
  intro event mem carries
  rw [eq] at mem
  rcases mem_append.mp mem with mem | mem
  · exact unused event mem carries
  · exact free event mem instanceId key carries holds

theorem LogGrows.unique {held : List LockKey} {db db' : Db} (grows : LogGrows held db db')
    (unique : UniqueKeys db') : UniqueKeys db := by
  obtain ⟨more, eq, -⟩ := grows
  unfold UniqueKeys at unique
  rw [eq] at unique
  exact (pairwise_append.mp unique).1

/-! ## Changes of the log -/

/-- Uncommitted changes that leave the log alone. -/
def KeepsLog (patch : Db → Db) : Prop :=
  ∀ db, (patch db).workflowEvents = db.workflowEvents

/-- Uncommitted changes that append one event. -/
def AppendsEvent (event : WorkflowEvent) (patch : Db → Db) : Prop :=
  ∀ db, (patch db).workflowEvents = db.workflowEvents ++ [event]

structure AboutLog (A : (Db → Db) → Prop) : Prop where
  instances : ∀ patch p f, A patch → A (Tables.entityInstances.modify p f ∘ patch)
  outbox : ∀ patch p f, A patch → A (Tables.outboxEvents.modify p f ∘ patch)
  outboxNew : ∀ patch rs, A patch → A (Tables.outboxEvents.append rs ∘ patch)

theorem aboutLog_appendsEvent (event : WorkflowEvent) : AboutLog (AppendsEvent event) where
  instances _ _ _ kept := kept
  outbox _ _ _ kept := kept
  outboxNew _ _ kept := kept

section Keeps

variable {A : (Db → Db) → Prop}

theorem findTransition_keeps (tenantId : Id) (request : TransitionRequest)
    (instance_ : LockedInstance) : (findTransition tenantId request instance_).Keeps A :=
  .bind (.read _) fun _ => .bind (.getOr ..) fun _ => .bind (.read _) fun _ => .getOr ..

theorem loadActorContext_keeps (tenantId instanceId : Id) (createdBy actorId : Option String)
    (trees : List (Option TransitionConditionTree)) :
    (loadActorContext tenantId instanceId createdBy actorId trees).Keeps A := by
  unfold loadActorContext
  split
  · exact .bind (.read _) fun _ => trivial
  · trivial

theorem checkTransition_keeps (tenantId : Id) (request : TransitionRequest)
    (instance_ : LockedInstance) (transition : WorkflowTransition) :
    (checkTransition tenantId request instance_ transition).Keeps A :=
  .bind (.require ..) fun _ => .bind (loadActorContext_keeps ..) fun _ =>
    .bind (.require ..) fun _ => .bind (.require ..) fun _ => .require ..

theorem safeMetadata_keeps (tenantId entityTypeId : Id) (metadata : Fields) :
    (safeMetadata tenantId entityTypeId metadata).Keeps A := by
  unfold safeMetadata
  split
  · trivial
  · exact .bind (.read _) fun _ => trivial

theorem outbox_keeps (about : AboutLog A) (tenantId : Id) (instance_ : LockedInstance)
    (change : StateChange) (supply : Supply) (result : EventResult) :
    Prog.Keeps A (do
      Tx.insertOutbox [change.outboxEvent tenantId instance_ supply]
      cancelPendingSlaTimers tenantId instance_.row.id instance_.row.currentState supply.now
      scheduleSlaIfNeeded tenantId instance_.workflowId instance_.row.id change.toState supply.now
        supply.startedAt supply.timerId
      return result : Tx EventResult) :=
  .bind (Table.keeps_insert fun patch => about.outboxNew patch _) fun _ =>
    .bind (Table.keeps_update fun patch q => about.outbox patch q _) fun _ =>
      .bind (.bind (.read _) fun _ => Table.keeps_insert fun patch => about.outboxNew patch _)
        fun _ => trivial

end Keeps

/-! ## The contract of a call -/

def TransitionCall.Stored (call : TransitionCall) (db : Db) (event : WorkflowEvent) : Prop :=
  ∃ key, call.request.key = some key ∧ event ∈ db.workflowEvents ∧
    event.keyed call.tenantId call.request.instanceId key = true

theorem TransitionCall.Stored.carries {call : TransitionCall} (stored : call.Stored db event) :
    ∃ key, call.request.idempotencyKey = some key ∧ event.Carries call.request.instanceId key := by
  obtain ⟨key, keyed, -, matched⟩ := stored
  simp only [TransitionRequest.key, filter_eq_some_iff] at keyed
  simp only [WorkflowEvent.keyed, Bool.and_eq_true, beq_iff_eq] at matched
  exact ⟨key, keyed.1, matched.1.2, matched.2⟩

def transitionContract : Contract TransitionCall Db TxError EventResult where
  failed call start _ := ∀ event, ¬ call.Stored start event
  returned call start before after result :=
    (after = before ∧
      (∃ event, call.Stored before event ∧ result = event.result call.supply.transitionEventId) ∧
      ∀ event, call.Stored start event → result = event.result call.supply.transitionEventId) ∨
    ((∀ event, ¬ call.Stored start event) ∧
      ∃ event, after.workflowEvents = before.workflowEvents ++ [event] ∧
        event.instanceId = call.request.instanceId ∧
        event.idempotencyKey = call.request.idempotencyKey)

section Safety

variable {call : TransitionCall} {start db : Db} {held : List LockKey} {patch : Db → Db}

abbrev TransitionCall.Owes (call : TransitionCall) (start : Db) :
    EventResult → List LockKey → (Db → Db) → Db → Prop :=
  transitionContract.Commits log_rely UniqueKeys call start

theorem commits_append {event : WorkflowEvent} {result : EventResult}
    (absent : ∀ e, ¬ call.Stored start e)
    (instanceEq : event.instanceId = call.request.instanceId)
    (keyEq : event.idempotencyKey = call.request.idempotencyKey)
    (holds : ∀ instanceId key, event.Carries instanceId key →
      LockKey.workflowEventKey instanceId key ∈ held)
    (unused : ∀ instanceId key, event.Carries instanceId key →
      ∀ e ∈ db.workflowEvents, ¬ e.Carries instanceId key)
    (appends : AppendsEvent event patch) (unique : UniqueKeys db) :
    call.Owes start result held patch db := by
  refine ⟨?_, fun others disjoint => ⟨[event], appends db, ?_⟩,
    .inr ⟨absent, event, appends db, instanceEq, keyEq⟩⟩
  · unfold UniqueKeys
    rw [appends db]
    refine pairwise_append.mpr ⟨unique, pairwise_singleton _ _, ?_⟩
    intro a mem b new instanceId key carries carries'
    rw [mem_singleton.mp new] at carries'
    exact unused instanceId key carries' a mem carries
  · intro new mem instanceId key carries taken
    rw [mem_singleton.mp mem] at carries
    exact disjoint _ taken (holds instanceId key carries)

theorem safe_insertWorkflowEvent {α : Type} {F : TxError → Prop}
    {Q : α → List LockKey → (Db → Db) → Db → Prop} {next : Unit → Tx α} {event : WorkflowEvent}
    (errors : ∀ e, F e) (kept : KeepsLog patch)
    (onward : ∀ more later patch, AppendsEvent event patch → UniqueKeys later →
      (∀ instanceId key, event.Carries instanceId key →
        LockKey.workflowEventKey instanceId key ∈ more ∧
          ∀ e ∈ later.workflowEvents, ¬ e.Carries instanceId key) →
      Safe log_rely UniqueKeys F Q (next ()) more patch later) :
    Safe log_rely UniqueKeys F Q ((insertWorkflowEvent event).bind next) held patch db := by
  unfold insertWorkflowEvent
  cases keyEq : event.idempotencyKey with
  | none =>
    refine writeChecked (errors _) fun later _ inv _ =>
      onward _ later _ (fun mid => ?_) inv ?_
    · exact congrArg (· ++ [event]) (kept mid)
    · intro instanceId key carries
      cases keyEq.symm.trans carries.2
  | some key =>
    refine writeChecked (errors _) fun later _ inv valid =>
      onward _ later _ (fun mid => ?_) inv ?_
    · exact congrArg (· ++ [event]) (kept mid)
    · intro instanceId key' carries
      obtain rfl : key = key' := Option.some.inj (keyEq.symm.trans carries.2)
      obtain rfl : event.instanceId = instanceId := carries.1
      refine ⟨by simp, fun e mem taken => ?_⟩
      have free : ∀ x ∈ later.workflowEvents, x.instanceId = event.instanceId →
          ¬ x.idempotencyKey = some key := by
        simpa [kept later] using (Bool.and_eq_true_iff.mp valid).2
      exact free e mem taken.1 taken.2

theorem safe_commitStateChange {instance_ : LockedInstance} {change : StateChange}
    (absent : ∀ e, ¬ call.Stored start e) (kept : KeepsLog patch)
    (instanceEq : instance_.row.id = call.request.instanceId)
    (keyEq : change.idempotencyKey = call.request.idempotencyKey) :
    Safe log_rely UniqueKeys (transitionContract.failed call start) (call.Owes start)
      (commitStateChange call.tenantId instance_ change call.supply) held patch db := by
  have errors : ∀ e, transitionContract.failed call start e := fun _ => absent
  refine Safe.bind (quiet (A := KeepsLog) errors (Table.keeps_update fun _ _ kept => kept) kept ?_)
  intro _ more patch later _ kept _ _
  refine Safe.bind (quiet errors (safeMetadata_keeps ..) kept ?_)
  intro metadata more patch later _ kept _ _
  refine safe_insertWorkflowEvent errors kept ?_
  intro more later patch appends _ entry
  refine quiet errors (outbox_keeps (aboutLog_appendsEvent _) ..) appends ?_
  intro result more patch last grown appends moved unique
  refine commits_append absent instanceEq keyEq ?_ ?_ appends unique
  · intro instanceId key carries
    exact grown (entry instanceId key carries).1
  · intro instanceId key carries
    exact moved.unused (entry instanceId key carries).1 (entry instanceId key carries).2

theorem safe_moveRecord (absent : ∀ e, ¬ call.Stored start e) (kept : KeepsLog patch) :
    Safe log_rely UniqueKeys (transitionContract.failed call start) (call.Owes start)
      (do
        let instance_ ← lockInstance call.tenantId call.request.instanceId
        let transition ← findTransition call.tenantId call.request instance_
        checkTransition call.tenantId call.request instance_ transition
        commitStateChange call.tenantId instance_ (call.request.change transition) call.supply)
      held patch db := by
  have errors : ∀ e, transitionContract.failed call start e := fun _ => absent
  refine Safe.bind (readLocked (fun e _ => errors e) fun later _ _ => ?_)
  refine getOr (fun _ => errors _) fun row found => ?_
  cases attached : row.locked with
  | none => exact fail (errors _)
  | some instance_ =>
    refine ret fun later _ _ => ?_
    have rowEq : row = instance_.row := EntityInstance.locked_eq_some.mp attached
    have sameId : instance_.row.id = call.request.instanceId := by
      have matched := find?_some found
      rw [rowEq] at matched
      simp only [EntityInstance.isOf, Bool.and_eq_true, beq_iff_eq] at matched
      exact matched.1
    refine Safe.bind (quiet errors (findTransition_keeps ..) kept ?_)
    intro transition more patch later _ kept _ _
    refine Safe.bind (quiet errors (checkTransition_keeps ..) kept ?_)
    intro _ more patch later _ kept _ _
    exact safe_commitStateChange absent kept sameId rfl

theorem safe_executeTransition (call : TransitionCall) (start : Db) :
    Safe log_rely UniqueKeys (transitionContract.failed call start) (call.Owes start)
      call.program [] id start := by
  unfold TransitionCall.program executeTransition findReplay
  cases keyEq : call.request.key with
  | none =>
    refine safe_moveRecord (fun event stored => ?_) fun _ => rfl
    obtain ⟨key, keyed, -⟩ := stored
    cases keyEq.symm.trans keyed
  | some key =>
    refine read fun later moved _ => ?_
    cases found : (Tables.workflowEvents.rows (id later)).find?
        (WorkflowEvent.keyed call.tenantId call.request.instanceId key) with
    | none =>
      refine safe_moveRecord (fun event stored => ?_) fun _ => rfl
      -- An event stored at the start would still be in the log at the look-up.
      obtain ⟨key', keyed, mem, matched⟩ := stored
      obtain rfl : key = key' := Option.some.inj (keyEq.symm.trans keyed)
      exact find?_eq_none.mp found event (moved.mem mem) matched
    | some existing =>
      refine ret fun last onward unique =>
        ⟨unique, fun others _ => log_rely.refl others last, .inl ⟨rfl, ?_⟩⟩
      have mem : existing ∈ last.workflowEvents := onward.mem (mem_of_find?_eq_some found)
      have stored : call.Stored last existing := ⟨key, keyEq, mem, find?_some found⟩
      refine ⟨⟨existing, stored, rfl⟩, fun event atStart => ?_⟩
      -- Both rows carry the key of the call, and the index holds one of them only.
      obtain ⟨_, keyA, carriesA⟩ := stored.carries
      obtain ⟨_, keyB, carriesB⟩ := atStart.carries
      obtain rfl := Option.some.inj (keyA.symm.trans keyB)
      obtain ⟨_, -, old, -⟩ := atStart
      rw [unique.eq mem (onward.mem (moved.mem old)) carriesA carriesB]

end Safety

/-! ## Every run -/

def Carrying (instanceId : Id) (key : String)
    (f : Finished TransitionCall Db TxError EventResult) : Prop :=
  f.call.request.instanceId = instanceId ∧ f.call.request.idempotencyKey = some key

theorem length_le_one_of_pairwise {α : Type} {l : List α} (apart : l.Pairwise fun _ _ => False) :
    l.length ≤ 1 := by
  match l, apart with
  | [], _ => exact Nat.zero_le 1
  | [_], _ => exact Nat.le_refl 1
  | a :: b :: rest, apart => exact ((pairwise_cons.mp apart).1 b (by simp)).elim

theorem UniqueKeys.length_le_one (unique : UniqueKeys db) :
    (db.workflowEvents.filter fun e => decide (e.Carries instanceId key)).length ≤ 1 := by
  apply length_le_one_of_pairwise
  refine (Pairwise.filter _ unique).imp_of_mem ?_
  intro a b memA memB ne
  exact ne instanceId key (of_decide_eq_true (mem_filter.mp memA).2)
    (of_decide_eq_true (mem_filter.mp memB).2)

theorem unchanged_of_carried (met : transitionContract.Met log_rely f)
    (carrying : Carrying instanceId key f) (unique : UniqueKeys f.after)
    (mem : event ∈ f.before.workflowEvents) (carries : event.Carries instanceId key) :
    f.after = f.before := by
  unfold Contract.Met at met
  cases result : f.result with
  | error e =>
    rw [result] at met
    exact met.2.2
  | ok value =>
    rw [result] at met
    rcases met.2 with ⟨unchanged, -⟩ | ⟨-, new, appended, instanceEq, keyEq⟩
    · exact unchanged
    · unfold UniqueKeys at unique
      rw [appended] at unique
      have apart := (pairwise_append.mp unique).2.2 event mem new (by simp)
      exact (apart instanceId key carries
        ⟨instanceEq.trans carrying.1, keyEq.trans carrying.2⟩).elim

theorem logGrows_of_met (met : transitionContract.Met log_rely f) :
    LogGrows [] f.before f.after := by
  unfold Contract.Met at met
  cases result : f.result with
  | error e =>
    rw [result] at met
    rw [met.2.2]
    exact log_rely.refl _ _
  | ok value =>
    rw [result] at met
    rcases met.2 with ⟨unchanged, -⟩ | ⟨-, new, appended, -⟩
    · rw [unchanged]
      exact log_rely.refl _ _
    · exact ⟨[new], appended, fun _ _ _ _ _ => not_mem_nil⟩

theorem stored_of_changed (met : transitionContract.Met log_rely f)
    (carrying : Carrying instanceId key f) (changed : f.after ≠ f.before) :
    ∃ event ∈ f.after.workflowEvents, event.Carries instanceId key := by
  unfold Contract.Met at met
  cases result : f.result with
  | error e =>
    rw [result] at met
    exact (changed met.2.2).elim
  | ok value =>
    rw [result] at met
    rcases met.2 with ⟨unchanged, -⟩ | ⟨-, new, appended, instanceEq, keyEq⟩
    · exact (changed unchanged).elim
    · exact ⟨new, appended ▸ mem_append_right _ (by simp), instanceEq.trans carrying.1,
        keyEq.trans carrying.2⟩

theorem pairwise_unchanged {db db' : Db}
    {log : List (Finished TransitionCall Db TxError EventResult)} (linked : Linked db log db')
    (met : ∀ f ∈ log, transitionContract.Met log_rely f) (unique : UniqueKeys db') :
    log.Pairwise fun f g => Carrying instanceId key f → Carrying instanceId key g →
      f.after = f.before ∨ g.after = g.before := by
  induction log generalizing db with
  | nil => exact Pairwise.nil
  | cons f rest ih =>
    obtain ⟨rfl, linked⟩ := linked
    have metRest : ∀ g ∈ rest, transitionContract.Met log_rely g :=
      fun g mem => met g (mem_cons_of_mem f mem)
    refine pairwise_cons.mpr ⟨fun g mem carryingF carryingG => ?_, ih linked metRest⟩
    by_cases unchanged : f.after = f.before
    · exact .inl unchanged
    · -- The event of the first call is still there when the second one ends.
      obtain ⟨event, stored, carries⟩ :=
        stored_of_changed (met f (by simp)) carryingF unchanged
      obtain ⟨before, after⟩ := linked.around (log_rely.refl []) log_rely.trans
        (fun g mem => logGrows_of_met (metRest g mem)) mem
      exact .inr (unchanged_of_carried (metRest g mem) carryingG (LogGrows.unique after unique)
        (LogGrows.mem before stored) carries)

/-- In every run of concurrent `executeTransition` calls, at most one event is
committed for an instance and a key, at most one of the calls with that key
changes the store, and a call that begins when the event is committed returns it
and writes nothing. -/
theorem transition_idempotency {db : Db} {labels : List (Txn.Label TransitionCall)}
    {pool : Pool TransitionCall Db LockKey TxError EventResult} (index : UniqueKeys db)
    (ran : Pool.runFrom TransitionCall.program db labels = some pool)
    (instanceId : Id) (key : String) :
    (pool.db.workflowEvents.filter fun e => decide (e.Carries instanceId key)).length ≤ 1 ∧
    pool.log.Pairwise (fun f g => Carrying instanceId key f → Carrying instanceId key g →
      f.after = f.before ∨ g.after = g.before) ∧
    ∀ f ∈ pool.log, Carrying instanceId key f →
      ∀ event ∈ f.start.workflowEvents, event.Carries instanceId key →
        f.after = f.before ∧
        (key ≠ "" → event.tenantId = f.call.tenantId →
          f.result = .ok (event.result f.call.supply.transitionEventId)) := by
  have sound := Pool.sound (C := transitionContract) (R := log_rely)
    (fun call start _ => safe_executeTransition call start) index ran
  refine ⟨sound.inv.length_le_one, pairwise_unchanged sound.linked sound.met sound.inv, ?_⟩
  intro f mem carrying event atStart carries
  have met := sound.met f mem
  have later : LogGrows [] f.after pool.db :=
    (sound.linked.around (log_rely.refl []) log_rely.trans
      (fun g mem => logGrows_of_met (sound.met g mem)) mem).2
  refine ⟨unchanged_of_carried met carrying (LogGrows.unique later sound.inv)
    (LogGrows.mem met.1 atStart) carries, fun nonempty ofTenant => ?_⟩
  have stored : f.call.Stored f.start event := by
    refine ⟨key, ?_, atStart, ?_⟩
    · simp [TransitionRequest.key, carrying.2, nonempty]
    · simp [WorkflowEvent.keyed, ofTenant, carries.1, carries.2, carrying.1]
  unfold Contract.Met at met
  cases result : f.result with
  | error e =>
    rw [result] at met
    exact (met.2.1 event stored).elim
  | ok value =>
    rw [result] at met
    rcases met.2 with ⟨-, -, replayed⟩ | ⟨absent, -⟩
    · rw [replayed event stored]
    · exact (absent event stored).elim

/-! ### A run with a race and a retry -/

/-- One record in state `open`, with a self-loop and no timers. -/
def raceDb : Db where
  workflows := [{ id := 1, tenantId := some 1, entityTypeId := 1, initialState := "open" }]
  workflowStates := [{ id := 1, tenantId := 1, workflowId := 1, name := "open" }]
  workflowTransitions :=
    [{ id := 7, tenantId := 1, workflowId := 1, fromState := "open", toState := "open" }]
  entityInstances :=
    [{ id := 5, entityTypeId := 1, tenantId := 1, workflowId := some 1, currentState := "open"
       createdAt := 0, updatedAt := 0 }]

def raceCall (n : Nat) : TransitionCall where
  tenantId := 1
  request := { instanceId := 5, transitionId := 7, idempotencyKey := some "k" }
  supply := ⟨n, n, 100 + n, 200 + n, 300 + n, 400 + n⟩

def raceLabels : List (Txn.Label TransitionCall) :=
  [.begin 0 (raceCall 0), .begin 1 (raceCall 1), .step 0, .step 1] ++
    replicate 9 (.step 0) ++
    [.refuse 1, .finish 0, .finish 1, .begin 2 (raceCall 2), .step 2, .finish 2]

theorem transition_idempotency_race :
    ∃ pool, Pool.runFrom TransitionCall.program raceDb raceLabels = some pool ∧
      (pool.db.workflowEvents.length = 1 ∧ pool.log.length = 3) ∧
      (pool.db.workflowEvents.filter fun e => decide (e.Carries 5 "k")).length ≤ 1 ∧
      pool.log.Pairwise (fun f g => Carrying 5 "k" f → Carrying 5 "k" g →
        f.after = f.before ∨ g.after = g.before) ∧
      ∀ f ∈ pool.log, Carrying 5 "k" f →
        ∀ event ∈ f.start.workflowEvents, event.Carries 5 "k" →
          f.after = f.before ∧
          ("k" ≠ "" → event.tenantId = f.call.tenantId →
            f.result = .ok (event.result f.call.supply.transitionEventId)) := by
  have counted : (Pool.runFrom TransitionCall.program raceDb raceLabels).map
      (fun pool => (pool.db.workflowEvents.length, pool.log.length)) = some (1, 3) := by
    decide +kernel
  obtain ⟨pool, ran, sizes⟩ := map_eq_some_iff.mp counted
  simp only [Prod.mk.injEq] at sizes
  have index : UniqueKeys raceDb := Pairwise.nil
  exact ⟨pool, ran, sizes, transition_idempotency index ran 5 "k"⟩

end OpenWind
