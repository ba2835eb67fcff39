import OpenWind.Automation.Executor
import OpenWind.Entity.Calls

/-!
# What the engines send

`Db.Sends P` relates a store to one after it: the outbox rows keep their identifier and
payload, and the payloads of the new ones satisfy `P`.
-/

open List Txn.Prog

namespace OpenWind

open Txn

/-! ## Depths of payloads -/

/-- The payload, if its rows are delivered, carries a depth above `d`. -/
def OutboxPayload.StampedAbove (d : Nat) (payload : OutboxPayload) : Prop :=
  payload.isTrigger = true → d < readDepth payload

theorem isCount_natCast (n : Nat) : isCount (n : Rat) := by
  unfold isCount
  rw [Rat.den_natCast, Rat.num_natCast]
  simp

variable {payload : OutboxPayload} {d : Nat}

theorem readDepth_eq {n : Nat} (found : payload.body.get "depth" = some (.num n)) :
    readDepth payload = n := by
  unfold readDepth
  rw [found]
  dsimp only
  rw [if_pos (isCount_natCast n), Rat.num_natCast]
  rfl

theorem OutboxPayload.stampedAbove_of_get (found : payload.body.get "depth" = some (.num (d + 1))) :
    payload.StampedAbove d := by
  intro _
  rw [readDepth_eq (n := d + 1) (by rw [found]; push_cast; rfl)]
  exact Nat.lt_succ_self d

theorem OutboxPayload.stampedAbove_of_other (other : payload.isTrigger = false) :
    payload.StampedAbove d := by
  intro trigger
  rw [other] at trigger
  cases trigger

theorem readDepth_transitioned {event : TransitionedEvent} (given : event.depth = some d) :
    readDepth (.transitioned event) = d := by
  refine readDepth_eq ?_
  unfold OutboxPayload.body
  dsimp only
  rw [given]
  cases event.transitionEventId with
  | none => rfl
  | some id => rfl

/-! ## Stores and the rows they gain -/

structure Db.Sends (P : OutboxPayload → Prop) (db db' : Db) : Prop where
  keyed : Tables.outboxEvents.Keyed db → Tables.outboxEvents.Keyed db'
  kept : ∀ row ∈ db.outboxEvents, ∃ row' ∈ db'.outboxEvents,
    row'.id = row.id ∧ row'.payload = row.payload
  sent : ∀ row' ∈ db'.outboxEvents,
    (∃ row ∈ db.outboxEvents, row.id = row'.id ∧ row.payload = row'.payload) ∨ P row'.payload

namespace Db.Sends

variable {P : OutboxPayload → Prop} {a b c db db' : Db}

theorem of_outbox_eq (same : db'.outboxEvents = db.outboxEvents) : Sends P db db' where
  keyed keyed := keyed.of_rows same
  kept row mem := ⟨row, by rw [same]; exact mem, rfl, rfl⟩
  sent row mem := .inl ⟨row, by rw [← same]; exact mem, rfl, rfl⟩

theorem refl (db : Db) : Sends P db db := of_outbox_eq rfl

theorem trans (first : Sends P a b) (second : Sends P b c) : Sends P a c where
  keyed keyed := second.keyed (first.keyed keyed)
  kept row mem := by
    obtain ⟨mid, memMid, idMid, payloadMid⟩ := first.kept row mem
    obtain ⟨last, memLast, idLast, payloadLast⟩ := second.kept mid memMid
    exact ⟨last, memLast, idLast.trans idMid, payloadLast.trans payloadMid⟩
  sent row mem := by
    rcases second.sent row mem with ⟨mid, memMid, idMid, payloadMid⟩ | new
    · rcases first.sent mid memMid with ⟨old, memOld, idOld, payloadOld⟩ | new
      · exact .inl ⟨old, memOld, idOld.trans idMid, payloadOld.trans payloadMid⟩
      · exact .inr (payloadMid ▸ new)
    · exact .inr new

theorem deliver (p : OutboxEvent → Bool) (now : Time) (db : Db) :
    Sends P db (Tables.outboxEvents.modify p (OutboxEvent.deliver now) db) where
  keyed keyed := keyed.modify p fun _ => rfl
  kept row mem := by
    refine ⟨if p row then row.deliver now else row, mem_map_of_mem mem, ?_⟩
    split
    · exact ⟨rfl, rfl⟩
    · exact ⟨rfl, rfl⟩
  sent row' mem := by
    obtain ⟨row, old, rfl⟩ := mem_map.mp mem
    refine .inl ⟨row, old, ?_⟩
    split
    · exact ⟨rfl, rfl⟩
    · exact ⟨rfl, rfl⟩

theorem append {rows : List OutboxEvent} (fresh : Tables.outboxEvents.fresh rows db)
    (new : ∀ row ∈ rows, P row.payload) : Sends P db (Tables.outboxEvents.append rows db) where
  keyed keyed := keyed.append fresh
  kept row mem := ⟨row, mem_append_left _ mem, rfl, rfl⟩
  sent row mem := by
    rcases mem_append.mp mem with old | sent
    · exact .inl ⟨row, old, rfl, rfl⟩
    · exact .inr (new row sent)

end Db.Sends

/-! ## The entity engine -/

section

variable {d : Nat} {db db' : Db} {u : Unit} {tenantId : Id} {supply : EntitySupply}

variable {P : OutboxPayload → Prop} {existing row : EntityInstance} {changed redacted : Fields}
  {input : UpdateEntityInput} {rules : FieldRules}

theorem exec_insertOutbox_sends {rows : List OutboxEvent}
    (ran : (Tx.insertOutbox rows).exec db = .ok (u, db')) (new : ∀ row ∈ rows, P row.payload) :
    db.Sends P db' := by
  obtain ⟨fresh, rfl⟩ := (Table.exec_insert_ok _).mp ran
  exact .append fresh new

theorem exec_insertWorkflowEvent_sends {event : WorkflowEvent}
    (ran : (insertWorkflowEvent event).exec db = .ok (u, db')) : db.Sends P db' := by
  obtain ⟨-, rfl⟩ := exec_insertWorkflowEvent_ok ran
  exact .of_outbox_eq rfl

theorem exec_rescheduleDueDate_sends {oldDueDate newDueDate : Option Time} {rowId : Id}
    (ran : (rescheduleDueDate tenantId row oldDueDate newDueDate supply rowId).exec db =
      .ok (u, db')) : db.Sends (OutboxPayload.StampedAbove d) db' := by
  unfold rescheduleDueDate at ran
  by_cases same : (oldDueDate == newDueDate) = true
  · rw [if_pos same] at ran
    cases ran
    exact .refl db
  · rw [if_neg same] at ran
    simp only [exec_seq_ok, Table.exec_update, ok_eq_ok] at ran
    obtain ⟨_, _, ⟨-, rfl⟩, rest⟩ := ran
    have delivered := Db.Sends.deliver (P := OutboxPayload.StampedAbove d)
      (OutboxEvent.pendingDueDate tenantId row.id) supply.startedAt db
    cases newDueDate with
    | none =>
      cases rest
      exact delivered
    | some dueDate =>
      refine delivered.trans (exec_insertOutbox_sends rest fun out mem => ?_)
      rw [mem_singleton.mp mem]
      exact OutboxPayload.stampedAbove_of_other rfl

theorem creationOutbox_stamped {actorId : Option String} {createdAt : Time}
    {createdId assignedId : Id} :
    ∀ out ∈ creationOutbox tenantId row redacted actorId (some d) createdAt createdId assignedId,
      out.payload.StampedAbove d := by
  intro out mem
  rcases mem_cons.mp mem with rfl | assigned
  · exact OutboxPayload.stampedAbove_of_get rfl
  · obtain ⟨_, -, rfl⟩ := mem_map.mp assigned
    exact OutboxPayload.stampedAbove_of_get rfl

theorem assignmentOutbox_stamped (depth : input.depth = some d) :
    ∀ out ∈ assignmentOutbox tenantId existing row input supply, out.payload.StampedAbove d := by
  intro out mem
  unfold assignmentOutbox at mem
  rw [depth] at mem
  split at mem
  · cases mem
  · rcases mem_append.mp mem with assigned | unassigned
    · obtain ⟨_, -, rfl⟩ := mem_map.mp assigned
      exact OutboxPayload.stampedAbove_of_get rfl
    · obtain ⟨_, -, rfl⟩ := mem_map.mp unassigned
      exact OutboxPayload.stampedAbove_of_get rfl

theorem exec_logCreation_sends {input : CreateEntityInput}
    (ran : (logCreation input row redacted supply).exec db = .ok (u, db')) : db.Sends P db' := by
  unfold logCreation at ran
  split at ran
  · cases ran
    exact .refl _
  · exact exec_insertWorkflowEvent_sends ran

/-- The events of a new record carry the next depth. -/
theorem createEntity_sends {input : CreateEntityInput} (depth : input.depth = some d)
    (ran : (createEntity rules tenantId input supply).exec db = .ok (row, db')) :
    db.Sends (OutboxPayload.StampedAbove d) db' := by
  unfold createEntity loadEntityFields at ran
  simp only [exec_seq_ok, exec_read, exec_lift_ok, Table.exec_insert_ok, Table.exec_filter,
    exec_pure, ok_eq_ok] at ran
  obtain ⟨_, db, ⟨rfl, rfl⟩, fields, db, ⟨-, rfl⟩, state, mid, requested, _, _, ⟨-, rfl⟩, _, _,
    dueDate, _, _, ⟨rfl, rfl⟩, _, _, event, _, _, outbox, rfl, rfl⟩ := ran
  obtain ⟨-, rfl⟩ := exec_requestedState_ok requested
  have inserted : mid.Sends (OutboxPayload.StampedAbove d)
      (Tables.entityInstances.append [input.row tenantId state fields supply] mid) :=
    .of_outbox_eq rfl
  rw [depth] at outbox
  exact inserted.trans ((exec_rescheduleDueDate_sends dueDate).trans
    ((exec_logCreation_sends event).trans (exec_insertOutbox_sends outbox creationOutbox_stamped)))

/-! ## Edits -/

/-- The changes that an `entity.updated` event is sent for. -/
def announced (changed : Fields) : Fields :=
  changed.filter fun entry => entry.1 != "assignedTo" && entry.1 != "state"

theorem announced_set {key : String} {value : Json} (quiet : announced changed = [])
    (own : key = "assignedTo" ∨ key = "state") : announced (changed.set key value) = [] := by
  have internal : (key != "assignedTo" && key != "state") = false := by
    rcases own with rfl | rfl
    · rfl
    · rfl
  unfold announced at quiet ⊢
  induction changed with
  | nil =>
    rw [Fields.set, filter_cons, if_neg (by rw [internal]; exact Bool.false_ne_true)]
    rfl
  | cons entry rest ih =>
    rw [filter_cons] at quiet
    split at quiet
    · cases quiet
    next dropped =>
      rw [Fields.set]
      split
      next same =>
        rw [filter_cons, if_neg (by rw [eq_of_beq same, internal]; exact Bool.false_ne_true)]
        exact quiet
      next =>
        rw [filter_cons, if_neg dropped]
        exact ih quiet

/-- The assignee and the state have events of their own. -/
theorem announced_withRowChanges (quiet : announced changed = []) :
    announced (withRowChanges existing row changed) = [] := by
  unfold withRowChanges
  have assigned : announced
      (if existing.assignedTo == row.assignedTo then changed
      else changed.set "assignedTo"
        (.obj [("old", .optStr existing.assignedTo), ("new", .optStr row.assignedTo)])) = [] := by
    split
    · exact quiet
    · exact announced_set quiet (.inl rfl)
  dsimp only
  split
  · exact assigned
  · exact announced_set assigned (.inr rfl)

theorem exec_logUpdate_sends
    (ran : (logUpdate tenantId existing row changed input supply).exec db = .ok (u, db'))
    (quiet : (db.effectiveWorkflowId tenantId row).isSome → announced changed = []) :
    db.Sends P db' := by
  unfold logUpdate at ran
  simp only [exec_seq_ok, exec_read, ok_eq_ok] at ran
  obtain ⟨_, _, ⟨rfl, rfl⟩, rest⟩ := ran
  split at rest
  · cases rest
    exact .refl _
  next workflowId effective =>
    simp only [exec_seq_ok] at rest
    obtain ⟨_, mid, event, sent⟩ := rest
    have logged : db.Sends P mid := by
      unfold insertUpdateEvent at event
      split at event
      · cases event
        exact .refl _
      · exact exec_insertWorkflowEvent_sends event
    have nothing : announced (withRowChanges existing row changed) = [] :=
      announced_withRowChanges (quiet (by rw [effective]; rfl))
    unfold insertEntityUpdated at sent
    unfold announced at nothing
    rw [nothing] at sent
    cases sent
    exact logged

theorem exec_writeEdit_sends {isChildTicket : Bool} {fields : Option Fields}
    (depth : input.depth = some d)
    (ran : (writeEdit rules tenantId existing input isChildTicket fields supply).exec db =
      .ok (row, db')) : db.Sends (OutboxPayload.StampedAbove d) db' := by
  unfold writeEdit at ran
  simp only [exec_seq_ok, exec_lift_ok, Table.exec_update, exec_pure, ok_eq_ok] at ran
  obtain ⟨_, db, ⟨-, rfl⟩, _, mid, checked, _, _, ⟨-, rfl⟩, _, _, outbox, _, _, dueDate, rfl,
    rfl⟩ := ran
  obtain ⟨-, rfl⟩ := exec_checkEditState_ok checked
  have written : mid.Sends (OutboxPayload.StampedAbove d)
      (Tables.entityInstances.modify (EntityInstance.isOf tenantId existing.id)
        (input.apply fields supply.now) mid) := .of_outbox_eq rfl
  exact written.trans ((exec_insertOutbox_sends outbox (assignmentOutbox_stamped depth)).trans
    (exec_rescheduleDueDate_sends dueDate))

theorem SameRecord.isOf {old new : EntityInstance} (same : SameRecord old new)
    {instanceId : Id} : new.isOf tenantId instanceId = old.isOf tenantId instanceId := by
  unfold EntityInstance.isOf
  rw [same.id, same.tenantId]

theorem Effect.effectiveWorkflowId {existing row : EntityInstance} {input : UpdateEntityInput}
    {fields : Option Fields} {events : List WorkflowEvent}
    (effect : Effect db db'
      (db.entityInstances.map fun r =>
        if EntityInstance.isOf tenantId existing.id r then input.apply fields supply.now r else r)
      events)
    (same : SameRecord existing row) :
    db'.effectiveWorkflowId tenantId row = db.effectiveWorkflowId tenantId existing := by
  unfold Db.effectiveWorkflowId Db.parentId
  rw [same.workflowId, same.id, effect.definitions.relations, effect.instances]
  cases existing.workflowId with
  | some workflowId => rfl
  | none =>
    cases (db.entityRelations.find? (EntityRelation.isChildOf tenantId existing.id)).map
      (·.toInstanceId) with
    | none => rfl
    | some parentId =>
      dsimp only
      have kept : ∀ r : EntityInstance, SameRecord r
          (if EntityInstance.isOf tenantId existing.id r then input.apply fields supply.now r
          else r) := fun r => .ite (.apply input fields supply.now) _ r
      rw [find?_map, Option.bind_map]
      have parents : (EntityInstance.isOf tenantId parentId ∘ fun r =>
          if EntityInstance.isOf tenantId existing.id r then input.apply fields supply.now r
          else r) = EntityInstance.isOf tenantId parentId := by
        exact funext fun r => (kept r).isOf
      rw [parents]
      exact congrArg _ (funext fun r => (kept r).workflowId)

def Db.announcesEdit (db : Db) (rules : FieldRules) (tenantId instanceId : Id)
    (provided : Fields) : Bool :=
  match db.entityInstances.find? (EntityInstance.isLive tenantId instanceId) with
  | none => false
  | some existing =>
    match rules.update db tenantId existing (db.parentId tenantId instanceId).isSome provided with
    | .error _ => false
    | .ok fields =>
      (db.effectiveWorkflowId tenantId existing).isSome &&
        !(announced (changedFields
          (buildSensitivityMap
            (db.entityFields.filter (EntityField.isOf tenantId existing.entityTypeId)))
          existing.fields fields)).isEmpty

theorem updateEntity_sends {instanceId : Id} (depth : input.depth = some d)
    (quiet : ∀ provided, input.fields = some provided →
      db.announcesEdit rules tenantId instanceId provided = false)
    (ran : (updateEntity rules tenantId instanceId input supply).exec db = .ok (row, db')) :
    db.Sends (OutboxPayload.StampedAbove d) db' := by
  unfold updateEntity getParentId loadEntityFields at ran
  simp only [exec_seq_ok, exec_getOr_ok, Table.exec_find, Tables.entityInstances_rows,
    ok_eq_ok] at ran
  obtain ⟨_, _, ⟨rfl, rfl⟩, existing, _, ⟨found, rfl⟩, rest⟩ := ran
  have named : existing.id = instanceId := EntityInstance.id_of_isLive (find?_some found)
  split at rest
  next provided asked =>
    simp only [exec_seq_ok, exec_read, exec_lift_ok, Table.exec_filter, exec_pure, ok_eq_ok] at rest
    obtain ⟨_, _, ⟨rfl, rfl⟩, _, _, ⟨rfl, rfl⟩, fields, _, ⟨accepted, rfl⟩, _, _, ⟨rfl, rfl⟩, row', mid,
      wrote, _, _, logged, rfl, rfl⟩ := rest
    obtain ⟨rfl, -, -, effect⟩ := exec_writeEdit_ok wrote
    refine (exec_writeEdit_sends depth wrote).trans (exec_logUpdate_sends logged fun attached => ?_)
    rw [effect.effectiveWorkflowId (.apply input _ supply.now existing)] at attached
    have silent := quiet provided asked
    unfold Db.announcesEdit at silent
    rw [found] at silent
    dsimp only at silent
    rw [accepted] at silent
    dsimp only at silent
    rw [attached, Bool.true_and, Bool.not_eq_false', List.isEmpty_iff] at silent
    exact silent
  next =>
    split at rest
    next =>
      simp only [exec_seq_ok, exec_read, exec_pure, ok_eq_ok] at rest
      obtain ⟨_, _, ⟨-, rfl⟩, _, _, wrote, _, _, logged, rfl, rfl⟩ := rest
      exact (exec_writeEdit_sends depth wrote).trans (exec_logUpdate_sends logged fun _ => rfl)
    next =>
      cases rest
      exact .refl _

/-- Comments trigger no rule. -/
theorem postOncallComment_sends {text : String}
    (ran : (postOncallComment tenantId row text supply).exec db = .ok (u, db')) :
    db.Sends (OutboxPayload.StampedAbove d) db' := by
  unfold postOncallComment at ran
  split at ran
  · cases ran
    exact .refl _
  · simp only [exec_seq_ok] at ran
    obtain ⟨_, mid, noted, sent⟩ := ran
    unfold insertNote at noted
    simp only [exec_seq_ok, Table.exec_find, exec_require_ok, ok_eq_ok] at noted
    obtain ⟨_, _, ⟨-, rfl⟩, _, _, ⟨-, rfl⟩, inserted⟩ := noted
    refine (exec_insertWorkflowEvent_sends inserted).trans
      (exec_insertOutbox_sends sent fun out mem => ?_)
    rw [mem_singleton.mp mem]
    exact OutboxPayload.stampedAbove_of_other rfl

end

/-! ## The workflow engine -/

theorem executeTransition_sends {tenantId : Id} {request : TransitionRequest} {supply : Supply}
    {db db' : Db} {result : EventResult}
    (ran : (executeTransition tenantId request supply).exec db = .ok (result, db')) :
    db.Sends (fun payload => payload.isTrigger →
      ∃ event, payload = .transitioned event ∧ event.depth = request.depth) db' := by
  rcases executeTransition_cases ran with ⟨_, _, -, -, -, rfl⟩ | ⟨instance_, transition, -, -,
    keyed, rfl⟩
  · exact .refl _
  · refine ⟨keyed, fun row mem => ?_, fun row' mem => ?_⟩
    · refine ⟨_, mem_append_left _ (mem_map_of_mem (mem_append_left _ mem)), ?_⟩
      split
      · exact ⟨rfl, rfl⟩
      · exact ⟨rfl, rfl⟩
    · rcases mem_append.mp mem with settled | timer
      · obtain ⟨row, old, rfl⟩ := mem_map.mp settled
        have same : ∀ b : Bool, (if b then row.deliver supply.now else row).id = row.id ∧
            (if b then row.deliver supply.now else row).payload = row.payload := by
          intro b
          cases b
          · exact ⟨rfl, rfl⟩
          · exact ⟨rfl, rfl⟩
        rw [(same _).1, (same _).2]
        rcases mem_append.mp old with before | own
        · exact .inl ⟨row, before, rfl, rfl⟩
        · rw [mem_singleton.mp own]
          exact .inr fun _ => ⟨_, rfl, rfl⟩
      · right
        intro trigger
        have other : row'.payload.isTrigger = false := by
          unfold slaTimer at timer
          split at timer
          · cases timer
          · split at timer
            · cases timer
            · cases timer
            · rw [mem_singleton.mp timer]
              rfl
        rw [other] at trigger
        cases trigger

end OpenWind
