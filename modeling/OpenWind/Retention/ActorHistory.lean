import OpenWind.Retention.AccessLog
import OpenWind.Retention.SweptLog
import OpenWind.Workflow.SegregationOfDuties

/-!
# Retention and segregation of duties

The retention sweep deletes old rows of the event log by class.  The rules on the actor read the
moves of a record from the same log.
-/

open List Option

namespace OpenWind

open Txn Runs WorkflowEvent

/-! ## Classes of events -/

inductive RetentionClass
  | noise
  | comment
  | evidence
  deriving DecidableEq

structure RetentionPolicy where
  hold : Bool := false
  noiseDays : Nat
  commentDays : Nat
  evidenceDays : Nat

def RetentionPolicy.windowDays (policy : RetentionPolicy) : RetentionClass → Nat
  | .noise => policy.noiseDays
  | .comment => policy.commentDays
  | .evidence => policy.evidenceDays

def WorkflowEvent.sameState (e : WorkflowEvent) : Bool := e.fromState == some e.toState

def WorkflowEvent.untyped (e : WorkflowEvent) : Bool :=
  match e.metadata.get "type" with
  | none => true
  | some .null => true
  | some _ => false

def WorkflowEvent.typedComment (e : WorkflowEvent) : Bool :=
  e.metadata.get "type" == some (.str "comment")

def WorkflowEvent.isOfClass (e : WorkflowEvent) : RetentionClass → Bool
  | .noise => e.sameState && e.untyped
  | .comment => e.sameState && e.typedComment
  | .evidence => !e.sameState || (!e.untyped && !e.typedComment)

/-! ## Sweeping -/

def Db.currentStates (db : Db) (i : EntityInstance) : List WorkflowState :=
  db.workflowStates.filter fun s =>
    some s.workflowId == i.workflowId && s.tenantId == i.tenantId && s.name == i.currentState

/-- A state without a row counts as not terminal. -/
def Db.isOpenCase (db : Db) (i : EntityInstance) : Bool :=
  i.workflowId.isSome &&
    ((db.currentStates i).isEmpty || (db.currentStates i).any fun s => !s.isTerminal)

def Db.holdsCase (db : Db) (e : WorkflowEvent) (evidenceDays : Nat) (now : Time) : Bool :=
  db.entityInstances.any fun i =>
    i.id == e.instanceId && i.tenantId == e.tenantId && i.deletedAt == none &&
      (db.isOpenCase i || decide (now ≤ i.updatedAt + evidenceDays * dayMs))

structure RetentionBatch where
  policy : RetentionPolicy
  cls : RetentionClass
  now : Time
  picked : List Id

/-- The rows that the statement selects from. -/
def Db.sweepable (db : Db) (tenantId : Id) (batch : RetentionBatch) (e : WorkflowEvent) : Bool :=
  e.tenantId == tenantId &&
    decide (e.createdAt + batch.policy.windowDays batch.cls * dayMs < batch.now) &&
    e.isOfClass batch.cls &&
    !(decide (batch.cls = .evidence) && db.holdsCase e batch.policy.evidenceDays batch.now)

def Db.takes (db : Db) (tenantId : Id) (batch : RetentionBatch) (e : WorkflowEvent) : Bool :=
  !batch.policy.hold && batch.picked.contains e.id && db.sweepable tenantId batch e

def workflowEventsBatch (tenantId : Id) (batch : RetentionBatch) (db : Db) : Db :=
  { db with workflowEvents := db.workflowEvents.filter fun e => !db.takes tenantId batch e }

/-! ## Calls on a record -/

inductive CaseCall
  | createEntity (rules : FieldRules) (input : CreateEntityInput) (supply : EntitySupply)
  | executeTransition (request : TransitionRequest) (supply : Supply)
  | overrideWorkflowState (request : StateOverrideRequest) (supply : Supply)
  | insertNote (instanceId : Id) (ctx : WorkflowContext) (note : Note) (createdAt : Time)
    (eventId : Id)
  | archiveEntity (instanceId : Id) (confirm : Bool) (supply : EntitySupply) (bound : Nat)
  | restoreEntity (instanceId : Id) (bound : Nat)

/-- The store after a call that ran alone. -/
def CaseCall.commit (tenantId : Id) (db : Db) : CaseCall → Db
  | createEntity rules input supply => (OpenWind.createEntity rules tenantId input supply).commit db
  | executeTransition request supply =>
    (OpenWind.executeTransition tenantId request supply).commit db
  | overrideWorkflowState request supply =>
    (OpenWind.overrideWorkflowState tenantId request supply).commit db
  | insertNote instanceId ctx note createdAt eventId =>
    (OpenWind.insertNote tenantId instanceId ctx note createdAt eventId).commit db
  | archiveEntity instanceId confirm supply bound =>
    (OpenWind.archiveEntity tenantId instanceId confirm supply bound).commit db
  | restoreEntity instanceId bound => (OpenWind.restoreEntity tenantId instanceId bound).commit db

inductive RetentionEvent
  | call (call : CaseCall)
  | sweep (batch : RetentionBatch)

/-- The calls, without the batches. -/
def RetentionEvent.unswept : RetentionEvent → Option CaseCall
  | .call c => some c
  | .sweep _ => none

structure SweptDb where
  db : Db
  swept : List WorkflowEvent := []

def SweptDb.step (tenantId : Id) (w : SweptDb) : RetentionEvent → Option SweptDb
  | .call call => some { w with db := call.commit tenantId w.db }
  | .sweep batch => some {
      db := workflowEventsBatch tenantId batch w.db
      swept := w.swept ++ w.db.workflowEvents.filter (w.db.takes tenantId batch) }

def CaseCall.About (instanceId : Id) : CaseCall → Prop
  | executeTransition request _ => request.instanceId = instanceId
  | overrideWorkflowState request _ => request.instanceId = instanceId
  | _ => True

/-- The identifier of the event that the call logs. -/
def CaseCall.eventId : CaseCall → Option Id
  | createEntity _ _ supply => some (supply.id 0)
  | executeTransition _ supply => some supply.eventId
  | overrideWorkflowState _ supply => some supply.eventId
  | insertNote _ _ _ _ eventId => some eventId
  | archiveEntity .. => none
  | restoreEntity .. => none

def CaseCall.key : CaseCall → Option String
  | executeTransition request _ => request.idempotencyKey
  | _ => none

structure CaseCall.Fits (instanceId : Id) (swept : List WorkflowEvent) (call : CaseCall) : Prop where
  about : call.About instanceId
  rules : ∀ rules input supply, call = .createEntity rules input supply → rules.IgnoreLog
  ids : ∀ id, call.eventId = some id → ∀ e ∈ swept, e.id ≠ id
  keys : ∀ key, call.key = some key → ∀ e ∈ swept, e.instanceId = instanceId →
    e.idempotencyKey ≠ some key

def Db.recordOf (db : Db) (tenantId instanceId : Id) : Option EntityInstance :=
  db.entityInstances.find? (EntityInstance.isOf tenantId instanceId)

def WorkflowEvent.IsOf (tenantId instanceId : Id) (e : WorkflowEvent) : Prop :=
  e.instanceId = instanceId ∧ e.tenantId = tenantId

def Db.OpenState (db : Db) (tenantId instanceId : Id) : Prop :=
  ∀ row, db.recordOf tenantId instanceId = some row →
    ∀ s ∈ db.currentStates row, s.isTerminal = false

def SweptDb.Keeps (tenantId instanceId : Id) (w : SweptDb) : RetentionEvent → Prop
  | .call call => call.Fits instanceId w.swept
  | .sweep _ => w.db.OpenState tenantId instanceId

/-! ## Calls keep the stores apart by what was swept -/

theorem Tx.Behind.commit {α : Type} {swept : List WorkflowEvent} {Q : α → α → Prop} {p : Tx α}
    (lockstep : Tx.Behind swept Q p p) {db full : Db} (behind : OpenWind.Behind swept db full) :
    OpenWind.Behind swept (p.commit db) (p.commit full) := by
  have both := lockstep db full behind
  unfold Tx.commit
  generalize p.exec db = outcome at both
  generalize p.exec full = outcome' at both
  cases both with
  | failed => exact behind
  | returned values stores => exact stores

section History

variable {tenantId instanceId : Id}

theorem Behind.call {swept : List WorkflowEvent} {db full : Db} (behind : Behind swept db full)
    {call : CaseCall} (fits : call.Fits instanceId swept)
    (kept : ∀ e ∈ swept, e.IsOf tenantId instanceId → e.mover = none) :
    Behind swept (call.commit tenantId db) (call.commit tenantId full) := by
  cases call with
  | createEntity rules input supply =>
    exact Tx.Behind.commit (Behind.createEntity (fits.rules _ _ _ rfl) (fits.ids _ rfl)) behind
  | executeTransition request supply =>
    have about : request.instanceId = instanceId := fits.about
    have keys := fits.keys
    rw [← about] at keys kept
    exact Tx.Behind.commit (Behind.executeTransition (fits.ids _ rfl) keys
      fun e mem of tenant => kept e mem ⟨of, tenant⟩) behind
  | overrideWorkflowState request supply =>
    exact Tx.Behind.commit (Behind.overrideWorkflowState (fits.ids _ rfl)) behind
  | insertNote id ctx note createdAt eventId =>
    exact Tx.Behind.commit (Behind.insertNote (fits.ids _ rfl)) behind
  | archiveEntity id confirm supply bound => exact Tx.Behind.commit Behind.archiveEntity behind
  | restoreEntity id bound =>
    change Behind swept ((OpenWind.restoreEntity _ _ _).commit db)
      ((OpenWind.restoreEntity _ _ _).commit full)
    rw [restoreEntity_commit, restoreEntity_commit]
    exact behind

variable {db db' full : Db} {e : WorkflowEvent}

theorem Behind.sweep {swept : List WorkflowEvent} (behind : Behind swept db full)
    (batch : RetentionBatch) :
    Behind (swept ++ db.workflowEvents.filter (db.takes tenantId batch))
      (workflowEventsBatch tenantId batch db) full := by
  obtain ⟨events, rfl, same⟩ := behind
  refine ⟨events, rfl, fun e => ?_⟩
  unfold workflowEventsBatch
  rw [same e, mem_append, mem_filter, mem_filter]
  cases db.takes tenantId batch e with
  | true => simp only [Bool.not_true, Bool.false_eq_true, and_false, and_true, false_or, or_comm]
  | false => simp only [Bool.not_false, Bool.false_eq_true, and_false, and_true, or_false]

/-! ## The row of a record -/

theorem Db.recordOf_map {g : EntityInstance → EntityInstance}
    (same : ∀ row, (g row).id = row.id ∧ (g row).tenantId = row.tenantId)
    (instances : db'.entityInstances = db.entityInstances.map g) :
    db'.recordOf tenantId instanceId = (db.recordOf tenantId instanceId).map g := by
  have reads : EntityInstance.isOf tenantId instanceId ∘ g =
      EntityInstance.isOf tenantId instanceId := by
    funext row
    simp only [Function.comp, EntityInstance.isOf, (same row).1, (same row).2]
  unfold Db.recordOf
  rw [instances, find?_map, reads]

theorem Db.recordOf_append {row : EntityInstance} {fresh : List EntityInstance}
    (instances : db'.entityInstances = db.entityInstances ++ fresh)
    (found : db.recordOf tenantId instanceId = some row) :
    db'.recordOf tenantId instanceId = some row := by
  unfold Db.recordOf at found ⊢
  rw [instances, find?_append, found]
  rfl

/-! ## Moves of a record that was found -/

def Db.MovesFiled (db : Db) (tenantId instanceId : Id) : Prop :=
  ∀ e ∈ db.workflowEvents, e.IsOf tenantId instanceId → e.mover ≠ none →
    ∃ row, db.recordOf tenantId instanceId = some row ∧ row.workflowId.isSome

theorem Db.MovesFiled.of_map (filed : db.MovesFiled tenantId instanceId)
    {g : EntityInstance → EntityInstance}
    (same : ∀ row, (g row).id = row.id ∧ (g row).tenantId = row.tenantId ∧
      (g row).workflowId = row.workflowId)
    (instances : db'.entityInstances = db.entityInstances.map g)
    (logged : ∀ e ∈ db'.workflowEvents, e ∈ db.workflowEvents ∨
      (e.IsOf tenantId instanceId → e.mover ≠ none →
        ∃ row, db.recordOf tenantId instanceId = some row ∧ row.workflowId.isSome)) :
    db'.MovesFiled tenantId instanceId := by
  intro e mem of moves
  have before : ∃ row, db.recordOf tenantId instanceId = some row ∧ row.workflowId.isSome := by
    rcases logged e mem with old | new
    · exact filed e old of moves
    · exact new of moves
  obtain ⟨row, found, attached⟩ := before
  refine ⟨g row, ?_, ?_⟩
  · rw [Db.recordOf_map (fun row => ⟨(same row).1, (same row).2.1⟩) instances, found]
    rfl
  · rw [(same row).2.2]
    exact attached

theorem Db.MovesFiled.of_append (filed : db.MovesFiled tenantId instanceId)
    {fresh : List EntityInstance} (instances : db'.entityInstances = db.entityInstances ++ fresh)
    (logged : ∀ e ∈ db'.workflowEvents, e ∈ db.workflowEvents ∨ e.mover = none) :
    db'.MovesFiled tenantId instanceId := by
  intro e mem of moves
  rcases logged e mem with old | still
  · obtain ⟨row, found, attached⟩ := filed e old of moves
    exact ⟨row, Db.recordOf_append instances found, attached⟩
  · exact absurd still moves

theorem Db.MovesFiled.changeState {db : Db} (filed : db.MovesFiled tenantId instanceId)
    {instance_ : LockedInstance} {change : StateChange} {supply : Supply}
    (found : db.recordOf tenantId instanceId = some instance_.row) :
    (db.changeState tenantId instance_ change supply).MovesFiled tenantId instanceId := by
  refine filed.of_map (fun row => ?_) rfl fun e mem => ?_
  · split
    · exact ⟨rfl, rfl, rfl⟩
    · exact ⟨rfl, rfl, rfl⟩
  · rcases mem_append.mp mem with old | new
    · exact .inl old
    · refine .inr fun _ _ => ⟨instance_.row, found, ?_⟩
      rw [instance_.attached]
      rfl

theorem Db.MovesFiled.call {db : Db} (filed : db.MovesFiled tenantId instanceId) {call : CaseCall}
    (about : call.About instanceId) : (call.commit tenantId db).MovesFiled tenantId instanceId := by
  cases call with
  | createEntity rules input supply =>
    refine Tx.commit_of (P := fun db => db.MovesFiled tenantId _) filed fun ran => ?_
    obtain ⟨fields, redacted, state, -, -, -, -, effect⟩ := createEntity_cases ran
    refine filed.of_append effect.instances fun e mem => ?_
    rw [effect.events] at mem
    rcases mem_append.mp mem with old | new
    · exact .inl old
    · obtain ⟨workflowId, -, rfl⟩ := List.mem_map.mp new
      right
      unfold mover CreateEntityInput.event
      dsimp only
      split
      · next clash => cases clash
      · rfl
  | executeTransition request supply =>
    have about : request.instanceId = instanceId := about
    subst about
    refine Tx.commit_of (P := fun db => db.MovesFiled tenantId _) filed fun ran => ?_
    rcases executeTransition_cases ran with ⟨_, _, -, -, -, same⟩ | ⟨_, _, permitted, -, -, same⟩
    · rw [same]
      exact filed
    · rw [same]
      exact filed.changeState permitted.found
  | overrideWorkflowState request supply =>
    have about : request.instanceId = instanceId := about
    subst about
    refine Tx.commit_of (P := fun db => db.MovesFiled tenantId _) filed fun ran => ?_
    obtain ⟨_, _, overridden, -, -, same⟩ := overrideWorkflowState_cases ran
    rw [same]
    exact filed.changeState overridden.found
  | insertNote id ctx note createdAt eventId =>
    refine Tx.commit_of (P := fun db => db.MovesFiled tenantId _) filed fun ran => ?_
    obtain ⟨-, effect⟩ := exec_insertNote_ok ran
    refine filed.of_append (effect.instances.trans (append_nil _).symm) fun e mem => ?_
    rw [effect.events] at mem
    rcases mem_append.mp mem with old | new
    · exact .inl old
    · right
      rw [mem_singleton.mp new]
      unfold mover Note.event
      dsimp only
      split
      · next actorId fromState actor state =>
        cases state
        rw [if_neg (not_not.mpr rfl)]
      · rfl
  | archiveEntity id confirm supply bound =>
    refine Tx.commit_of (P := fun db => db.MovesFiled tenantId _) filed fun ran => ?_
    rcases archiveEntity_cases ran with same | ⟨row, ids, -, -, -, same⟩
    · rw [same]
      exact filed
    · rw [same]
      refine filed.of_map (fun row => ?_) rfl fun e mem => .inl mem
      split
      · exact ⟨rfl, rfl, rfl⟩
      · exact ⟨rfl, rfl, rfl⟩
  | restoreEntity id bound =>
    change ((OpenWind.restoreEntity _ _ _).commit db).MovesFiled tenantId instanceId
    rw [restoreEntity_commit]
    exact filed

/-! ## Archived records -/

/-- The record is archived. -/
def Db.Gone (db : Db) (tenantId instanceId : Id) : Prop :=
  ∃ row, db.recordOf tenantId instanceId = some row ∧ row.deletedAt ≠ none

theorem Db.Gone.of_map {g : EntityInstance → EntityInstance} (gone : db.Gone tenantId instanceId)
    (same : ∀ row, (g row).id = row.id ∧ (g row).tenantId = row.tenantId ∧
      (row.deletedAt ≠ none → (g row).deletedAt ≠ none))
    (instances : db'.entityInstances = db.entityInstances.map g) :
    db'.Gone tenantId instanceId := by
  obtain ⟨row, found, archived⟩ := gone
  refine ⟨g row, ?_, (same row).2.2 archived⟩
  rw [Db.recordOf_map (fun row => ⟨(same row).1, (same row).2.1⟩) instances, found]
  rfl

theorem Db.Gone.changeState {id : Id} (gone : db.Gone tenantId instanceId)
    {instance_ : LockedInstance} {change : StateChange} {supply : Supply} :
    (db.changeState id instance_ change supply).Gone tenantId instanceId := by
  refine gone.of_map (fun row => ?_) rfl
  split
  · exact ⟨rfl, rfl, fun archived => archived⟩
  · exact ⟨rfl, rfl, fun archived => archived⟩

theorem Db.Gone.call (gone : db.Gone tenantId instanceId) (call : CaseCall) :
    (call.commit tenantId db).Gone tenantId instanceId := by
  have appended {db' : Db} {fresh : List EntityInstance}
      (instances : db'.entityInstances = db.entityInstances ++ fresh) :
      db'.Gone tenantId instanceId := by
    obtain ⟨row, found, archived⟩ := gone
    exact ⟨row, Db.recordOf_append instances found, archived⟩
  cases call with
  | createEntity rules input supply =>
    refine Tx.commit_of (P := fun db => db.Gone tenantId _) gone fun ran => ?_
    obtain ⟨_, _, _, -, -, -, -, effect⟩ := createEntity_cases ran
    exact appended effect.instances
  | executeTransition request supply =>
    refine Tx.commit_of (P := fun db => db.Gone tenantId _) gone fun ran => ?_
    rcases executeTransition_cases ran with ⟨_, _, -, -, -, same⟩ | ⟨_, _, -, -, -, same⟩
    · rw [same]
      exact gone
    · rw [same]
      exact gone.changeState
  | overrideWorkflowState request supply =>
    refine Tx.commit_of (P := fun db => db.Gone tenantId _) gone fun ran => ?_
    obtain ⟨_, _, -, -, -, same⟩ := overrideWorkflowState_cases ran
    rw [same]
    exact gone.changeState
  | insertNote id ctx note createdAt eventId =>
    refine Tx.commit_of (P := fun db => db.Gone tenantId _) gone fun ran => ?_
    obtain ⟨-, effect⟩ := exec_insertNote_ok ran
    exact appended (effect.instances.trans (append_nil _).symm)
  | archiveEntity id confirm supply bound =>
    refine Tx.commit_of (P := fun db => db.Gone tenantId _) gone fun ran => ?_
    rcases archiveEntity_cases ran with same | ⟨_, ids, -, -, -, same⟩
    · rw [same]
      exact gone
    · rw [same]
      refine gone.of_map (fun row => ?_) rfl
      split
      · exact ⟨rfl, rfl, fun _ => some_ne_none _⟩
      · exact ⟨rfl, rfl, fun archived => archived⟩
  | restoreEntity id bound =>
    change ((OpenWind.restoreEntity _ _ _).commit db).Gone tenantId instanceId
    rw [restoreEntity_commit]
    exact gone

/-! ## Batches leave the moves -/

theorem WorkflowEvent.moves_state (moves : e.mover ≠ none) : e.sameState = false := by
  by_contra same
  rw [Bool.not_eq_false, sameState, beq_iff_eq] at same
  apply moves
  unfold mover
  rw [same]
  split
  · next actorId fromState actor state =>
    cases state
    rw [if_neg (not_not.mpr rfl)]
  · rfl

theorem Db.isOpenCase_of_live {row : EntityInstance} (attached : row.workflowId.isSome)
    (live : ∀ s ∈ db.currentStates row, s.isTerminal = false) : db.isOpenCase row := by
  unfold Db.isOpenCase
  rw [attached, Bool.true_and]
  rcases states : db.currentStates row with _ | ⟨s, rest⟩
  · rfl
  · have open' : s.isTerminal = false := live s (by rw [states]; exact mem_cons_self)
    rw [any_cons, open', Bool.not_false, Bool.true_or, Bool.or_true]

theorem Db.OpenState.kept {batch : RetentionBatch} (open_ : db.OpenState tenantId instanceId)
    (filed : db.MovesFiled tenantId instanceId) (live : ¬ db.Gone tenantId instanceId)
    (mem : e ∈ db.workflowEvents) (of : e.IsOf tenantId instanceId)
    (takes : db.takes tenantId batch e) : e.mover = none := by
  by_contra moves
  have moved := moves_state moves
  unfold Db.takes Db.sweepable at takes
  simp only [Bool.and_eq_true, Bool.not_eq_true', decide_eq_true_eq] at takes
  obtain ⟨-, ⟨⟨-, old⟩, cls⟩, free⟩ := takes
  have evidence : batch.cls = .evidence := by
    cases which : batch.cls with
    | noise | comment =>
      rw [which] at cls
      simp only [isOfClass, moved, Bool.false_and, Bool.false_eq_true] at cls
    | evidence => rfl
  obtain ⟨row, found, attached⟩ := filed e mem of moves
  rw [evidence] at old free
  have kept : row.deletedAt = none := not_not.mp fun archived => live ⟨row, found, archived⟩
  -- the case is open, so the batch would have left the event
  have memRow : row ∈ db.entityInstances := mem_of_find?_eq_some found
  have selected : row.isOf tenantId instanceId :=
    find?_some (p := EntityInstance.isOf tenantId instanceId) found
  have own : (row.id == instanceId) ∧ (row.tenantId == tenantId) :=
    Bool.and_eq_true_iff.mp selected
  have held : db.holdsCase e batch.policy.evidenceDays batch.now := by
    apply List.any_eq_true.mpr
    refine ⟨row, memRow, ?_⟩
    rw [of.1, of.2, own.1, own.2, kept, Db.isOpenCase_of_live attached (open_ row found)]
    rfl
  rw [held] at free
  cases free

theorem Db.MovesFiled.sweep (filed : db.MovesFiled tenantId instanceId) (batch : RetentionBatch) :
    (workflowEventsBatch tenantId batch db).MovesFiled tenantId instanceId :=
  fun e mem of moves => filed e (mem_of_mem_filter mem) of moves

/-! ## Runs -/

def SweptDb.Tracks (tenantId instanceId : Id) (w : SweptDb) (full : Db) : Prop :=
  (Behind w.swept w.db full ∧ (∀ e ∈ w.swept, e.IsOf tenantId instanceId → e.mover = none) ∧
    w.db.MovesFiled tenantId instanceId) ∨
  w.db.Gone tenantId instanceId ∧ full.Gone tenantId instanceId

theorem SweptDb.Tracks.call {w : SweptDb} (tracks : w.Tracks tenantId instanceId full)
    {call : CaseCall} (fits : call.Fits instanceId w.swept) :
    SweptDb.Tracks tenantId instanceId { w with db := call.commit tenantId w.db }
      (call.commit tenantId full) := by
  rcases tracks with ⟨behind, still, filed⟩ | ⟨gone, gone'⟩
  · exact .inl ⟨behind.call fits still, still, filed.call fits.about⟩
  · exact .inr ⟨gone.call call, gone'.call call⟩

theorem SweptDb.Tracks.sweep {w : SweptDb} (tracks : w.Tracks tenantId instanceId full)
    (open_ : w.db.OpenState tenantId instanceId) (batch : RetentionBatch) :
    SweptDb.Tracks tenantId instanceId
      { db := workflowEventsBatch tenantId batch w.db
        swept := w.swept ++ w.db.workflowEvents.filter (w.db.takes tenantId batch) } full := by
  rcases tracks with ⟨behind, still, filed⟩ | ⟨gone, gone'⟩
  · by_cases gone : w.db.Gone tenantId instanceId
    · refine .inr ⟨gone, ?_⟩
      obtain ⟨events, rfl, -⟩ := behind
      exact gone
    · refine .inl ⟨behind.sweep batch, fun e mem of => ?_, filed.sweep batch⟩
      rcases mem_append.mp mem with before | now
      · exact still e before of
      · obtain ⟨logged, takes⟩ := mem_filter.mp now
        exact open_.kept filed gone logged of takes
  · exact .inr ⟨gone, gone'⟩

end History

def Db.liveRecord (db : Db) (tenantId instanceId : Id) : Option EntityInstance :=
  (db.recordOf tenantId instanceId).filter fun row => row.deletedAt == none

structure Db.SameActors (db full : Db) (tenantId instanceId : Id) : Prop where
  row : full.liveRecord tenantId instanceId = db.liveRecord tenantId instanceId
  contexts : ∀ row, db.liveRecord tenantId instanceId = some row →
    ∀ actorId trees, ∃ context context',
      (loadActorContext tenantId instanceId row.createdBy actorId trees).exec db =
        .ok (context, db) ∧
      (loadActorContext tenantId instanceId row.createdBy actorId trees).exec full =
        .ok (context', full) ∧
      context.Agrees context' ∧
      ∀ tree fields, evaluateConditionTree tree fields context =
        evaluateConditionTree tree fields context'

theorem Db.SameActors.priorActors {db full : Db} {tenantId instanceId : Id} {row : EntityInstance}
    (same : db.SameActors full tenantId instanceId)
    (found : db.liveRecord tenantId instanceId = some row) (p : PriorActor) :
    p ∈ db.priorActors tenantId instanceId ↔ p ∈ full.priorActors tenantId instanceId := by
  obtain ⟨context, context', loaded, loaded', agrees, -⟩ :=
    same.contexts row found none [some (.actorNotPriorActor none)]
  rw [exec_loadActorContext] at loaded loaded'
  cases loaded
  cases loaded'
  rcases agrees.priorActors with ⟨members⟩ | _
  exact members p

theorem Db.Gone.liveRecord {db : Db} {tenantId instanceId : Id}
    (gone : db.Gone tenantId instanceId) : db.liveRecord tenantId instanceId = none := by
  obtain ⟨row, found, archived⟩ := gone
  unfold Db.liveRecord
  rw [found]
  exact filter_some_neg (beq_false_of_ne archived)

theorem Db.OpenState.of_check {tenantId instanceId : Id} {db : Db}
    (checked : (db.recordOf tenantId instanceId).all fun row =>
      (db.currentStates row).all fun s => !s.isTerminal) : db.OpenState tenantId instanceId := by
  intro row found s mem
  rw [found, all_some, List.all_eq_true] at checked
  exact (Bool.not_eq_true' _).mp (checked s mem)

theorem CaseCall.Fits.of_check {instanceId : Id} {swept : List WorkflowEvent} {call : CaseCall}
    (about : call.About instanceId)
    (rules : ∀ rules input supply, call = .createEntity rules input supply → rules.IgnoreLog)
    (checked : swept.all fun e => call.eventId.all (· != e.id) &&
      call.key.all fun key => e.idempotencyKey != some key) : call.Fits instanceId swept := by
  have each {e : WorkflowEvent} (mem : e ∈ swept) :=
    Bool.and_eq_true_iff.mp (List.all_eq_true.mp checked e mem)
  refine ⟨about, rules, fun id logs e mem same => ?_, fun key keyed e mem _ => ?_⟩
  · have other := (each mem).1
    rw [logs, all_some, same] at other
    exact bne_iff_ne.mp other rfl
  · have other := (each mem).2
    rw [keyed, all_some] at other
    exact bne_iff_ne.mp other

theorem FieldRules.IgnoreLog.acceptAll : FieldRules.acceptAll.IgnoreLog :=
  ⟨fun _ _ _ _ => rfl, fun _ _ _ _ _ => rfl⟩

namespace ActorHistorySample

def batch (cls : RetentionClass) (now : Time) : RetentionEvent :=
  .sweep
    { policy := { noiseDays := 90, commentDays := 365, evidenceDays := 365 }, cls, now
      picked := [10, 30, 40] }

end ActorHistorySample

end OpenWind
