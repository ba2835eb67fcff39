import OpenWind.Entity.Revalidation
import OpenWind.Lib.Overwrites

/-!
# Edits of a record's access list

The users who may see a record are kept under `__accessUsers` in its fields: as a list of
identifiers in old records, as a map from a user to a level in the others.  Grants, revocations
and the grants of a mention are statements that edit this key; `updateEntity` reads the fields,
and writes the whole of them back.
-/

open Option

namespace OpenWind

open Overwrites Runs

/-! ## The access list -/

inductive AccessLevel
  | readOnly | readComment | readWrite

def AccessLevel.text : AccessLevel → String
  | .readOnly => "read_only"
  | .readComment => "read_comment"
  | .readWrite => "read_write"

inductive AccessTag
  | mention | manual | assigned

def AccessTag.text : AccessTag → String
  | .mention => "mention"
  | .manual => "manual"
  | .assigned => "assigned"

def accessEntry (level : AccessLevel) (tag : AccessTag) : Json :=
  .obj [("level", .str level.text), ("tag", .str tag.text)]

inductive RecordAccess
  /-- The user is in a list, which gives no level. -/
  | listed
  | entry (value : Json)

def recordAccess (fields : Fields) (userId : String) : Option RecordAccess :=
  match fields.get "__accessUsers" with
  | some (.obj entries) => (Fields.get entries userId).map .entry
  | some (.arr items) => if items.any (·.strictEq (.str userId)) then some .listed else none
  | _ => none

def grantEntry (userId : String) (entry : Json) (fields : Fields) : Fields :=
  let users := match fields.get "__accessUsers" with
    | some (.obj entries) => entries
    | _ => []
  fields.set "__accessUsers" (.obj (Fields.set users userId entry))

def revokeEntry (userId : String) (fields : Fields) : Option Fields :=
  match fields.get "__accessUsers" with
  | none => some (fields.set "__accessUsers" (.obj []))
  | some (.obj entries) =>
    some (fields.set "__accessUsers" (.obj (Fields.erase entries userId)))
  | some (.arr items) =>
    some (fields.set "__accessUsers" (.arr (items.filter fun item => !item.strictEq (.str userId))))
  | some _ => none

/-! ## The calls -/

structure RecordEdit where
  env : FieldEnv
  db : Db
  tenantId : Id
  input : UpdateEntityInput
  supply : EntitySupply
  unreserved : ∀ f ∈ db.entityFields, isReservedFieldName f.name = false

def RecordEdit.plan (edit : RecordEdit) (existing : EntityInstance) : Overwrites.Plan EntityInstance :=
  if existing.deletedAt.isSome then .refuse
  else
    match edit.input.fields with
    | some provided =>
      match edit.env.editRules.updateFields edit.db edit.tenantId existing
          (edit.db.parentId edit.tenantId existing.id).isSome provided with
      | .ok fields => .write (edit.input.apply (some fields) edit.supply.now)
      | .error _ => .refuse
    | none =>
      if edit.input.assignedTo.isSome || edit.input.currentState.isSome ||
          edit.input.dueDate.isSome then
        .write (edit.input.apply none edit.supply.now)
      else .idle

inductive AccessOp
  | grantAccess (userId : String) (level : AccessLevel) (tag : AccessTag)
  /-- The target was the assignee when the record was read. -/
  | revokeAccess (targetUserId : String) (wasAssignee : Bool)
  | autoGrant (grantedUserId : String)
  | updateEntity (edit : RecordEdit)

namespace AccessOp

def way : AccessOp → Way EntityInstance
  | .grantAccess userId level tag =>
    .statement fun row =>
      some { row with fields := grantEntry userId (accessEntry level tag) row.fields }
  | .revokeAccess targetUserId wasAssignee =>
    .statement fun row =>
      (revokeEntry targetUserId row.fields).map fun fields =>
        { row with
          fields
          assignedTo := if wasAssignee then none else row.assignedTo }
  | .autoGrant grantedUserId =>
    .statement fun row =>
      if row.deletedAt.isSome then none
      else some { row with
        fields := grantEntry grantedUserId (accessEntry .readOnly .mention) row.fields }
  | .updateEntity edit => .rewrite edit.plan

def sets : AccessOp → (userId : String) → Option (Option RecordAccess)
  | .grantAccess own level tag, userId =>
    if userId = own then some (some (.entry (accessEntry level tag))) else none
  | .revokeAccess own _, userId => if userId = own then some none else none
  | .autoGrant own, userId =>
    if userId = own then some (some (.entry (accessEntry .readOnly .mention))) else none
  | .updateEntity _, _ => none

def Safe : AccessOp → (source current : EntityInstance) → Prop
  | .grantAccess own _ _, _, current | .autoGrant own, _, current =>
    ∀ userId, userId ≠ own → recordAccess current.fields userId ≠ some .listed
  | .revokeAccess _ _, _, _ => True
  | .updateEntity edit, source, current => edit.input.fields.isSome = true →
    ∀ userId, recordAccess source.fields userId = recordAccess current.fields userId

end AccessOp

def AccessReflects (init : EntityInstance) (w : Overwrites.World EntityInstance AccessOp) : Prop :=
  ∀ userId, recordAccess w.value.fields userId =
    (lastSet (ω := fun _ => Option RecordAccess) AccessOp.sets w.log userId).getD
      (recordAccess init.fields userId)

/-! ## Their effects -/

section Effects

variable {fields : Fields} {own userId : String}

theorem recordAccess_map {entries : Fields} :
    recordAccess (fields.set "__accessUsers" (.obj entries)) userId =
      (entries.get userId).map .entry := by
  unfold recordAccess
  rw [Fields.get_set_self]

theorem recordAccess_list {items : List Json} :
    recordAccess (fields.set "__accessUsers" (.arr items)) userId =
      if items.any (·.strictEq (.str userId)) then some .listed else none := by
  unfold recordAccess
  rw [Fields.get_set_self]

theorem recordAccess_congr {fields' : Fields}
    (same : fields'.get "__accessUsers" = fields.get "__accessUsers") :
    recordAccess fields' userId = recordAccess fields userId := by
  unfold recordAccess
  rw [same]

theorem recordAccess_grant_self (own : String) (entry : Json) (fields : Fields) :
    recordAccess (grantEntry own entry fields) own = some (.entry entry) := by
  unfold grantEntry
  rw [recordAccess_map, Fields.get_set_self]
  rfl

theorem recordAccess_grant_other (entry : Json) (other : userId ≠ own) :
    recordAccess (grantEntry own entry fields) userId = recordAccess fields userId ↔
      recordAccess fields userId ≠ some .listed := by
  unfold grantEntry
  rw [recordAccess_map, Fields.get_set_ne _ _ other]
  unfold recordAccess
  cases fields.get "__accessUsers" with
  | none => exact ⟨fun _ => nofun, fun _ => rfl⟩
  | some value =>
    cases value with
    | obj entries =>
      refine ⟨fun _ => ?_, fun _ => rfl⟩
      dsimp only
      cases Fields.get entries userId with
      | none => exact nofun
      | some value => exact nofun
    | arr items =>
      dsimp only
      split
      · exact ⟨nofun, fun free => absurd rfl free⟩
      · exact ⟨fun _ => nofun, fun _ => rfl⟩
    | _ => exact ⟨fun _ => nofun, fun _ => rfl⟩

theorem recordAccess_revoke {fields' : Fields} (revoked : revokeEntry own fields = some fields') :
    recordAccess fields' userId = if userId = own then none else recordAccess fields userId := by
  unfold revokeEntry at revoked
  split at revoked
  · next absent =>
    cases revoked
    rw [recordAccess_map]
    unfold recordAccess
    rw [absent]
    exact (ite_self _).symm
  · next entries map =>
    cases revoked
    rw [recordAccess_map]
    by_cases same : userId = own
    · rw [if_pos same, same, Fields.get_erase_self]
      rfl
    · rw [if_neg same, Fields.get_erase_ne _ same]
      unfold recordAccess
      rw [map]
  · next items list =>
    cases revoked
    rw [recordAccess_list, Json.any_filter_str]
    by_cases same : userId = own
    · rw [if_pos same, bne_eq_false_iff_eq.mpr same, Bool.and_false]
      rfl
    · rw [if_neg same, bne_iff_ne.mpr same, Bool.and_true]
      unfold recordAccess
      rw [list]
  · cases revoked

end Effects

/-! ## An edit of the fields -/

theorem storedValue_none (child : Bool) (given stored : Option Json) :
    storedValue (fun _ => none) child given stored = stored := by
  have nothing (v : Option Json) : v.bind (fun _ => (none : Option Json)) = none := by
    cases v <;> rfl
  unfold storedValue
  simp only [nothing, none_or]
  exact ite_self _

theorem FieldEnv.updateFields_reserved {env : FieldEnv} {db : Db} {tenantId : Id}
    {existing : EntityInstance} {child : Bool} {provided fields : Fields} {key : String}
    (unreserved : ∀ f ∈ db.entityFields, isReservedFieldName f.name = false)
    (reserved : isReservedFieldName key)
    (accepted : env.editRules.updateFields db tenantId existing child provided = .ok fields) :
    fields.get key = existing.fields.get key := by
  have other : ∀ f ∈ sortFields (db.fieldsOf tenantId existing.entityTypeId), f.name ≠ key := by
    intro f mem same
    have free := unreserved f (List.mem_filter.mp (mem_sortFields.mp mem)).1
    rw [same, reserved] at free
    cases free
  have dropped : fieldValue env.zod (db.fieldsOf tenantId existing.entityTypeId) key =
      fun _ => none := by
    funext v
    unfold fieldValue Shape.value
    rw [lookup_buildZodSchema, List.find?_eq_none.mpr fun f mem same =>
      other f mem (eq_of_beq same).symm]
    rfl
  have made := (EditRules.updateFields_ok accepted).1
  rw [env.editRules_lawful.stores made ?_, dropped, storedValue_none]
  intro all result applied
  cases applied
  exact applyFormulaFields_get (fun f mem _ => other f mem) all

theorem RecordEdit.plan_write {edit : RecordEdit} {source : EntityInstance}
    {write : EntityInstance → EntityInstance} (writes : edit.plan source = .write write)
    (current : EntityInstance) (userId : String) :
    recordAccess (write current).fields userId =
      recordAccess (if edit.input.fields.isSome then source.fields else current.fields) userId := by
  unfold plan at writes
  split at writes
  · cases writes
  · split at writes
    · next provided asked =>
      split at writes
      · next fields accepted =>
        cases writes
        rw [if_pos (by rw [asked]; rfl)]
        exact recordAccess_congr
          (FieldEnv.updateFields_reserved edit.unreserved (by decide) accepted)
      · cases writes
    · next asked =>
      split at writes
      · cases writes
        rw [asked]
        rfl
      · cases writes

/-- `updateEntity`, alone on a database, does what was planned with the row that it found. -/
theorem RecordEdit.updateEntity_planned (edit : RecordEdit) {instanceId : Id} {db' : Db}
    {row : EntityInstance}
    (ran : (updateEntity edit.env.rules edit.tenantId instanceId edit.input edit.supply).exec
      edit.db = .ok (row, db')) :
    ∃ existing, edit.db.entityInstances.find? (EntityInstance.isLive edit.tenantId instanceId) =
        some existing ∧
      ((edit.plan existing = .idle ∧ db' = edit.db) ∨
        ∃ write, edit.plan existing = .write write ∧ row = write existing ∧
          db'.entityInstances = edit.db.entityInstances.map fun r =>
            if EntityInstance.isOf edit.tenantId existing.id r then write r else r) := by
  have live {existing : EntityInstance} (found : edit.db.entityInstances.find?
      (EntityInstance.isLive edit.tenantId instanceId) = some existing) :
      existing.id = instanceId ∧ ¬existing.deletedAt.isSome := by
    have is := List.find?_some found
    refine ⟨EntityInstance.id_of_isLive is, ?_⟩
    rw [eq_of_beq (Bool.and_eq_true_iff.mp is).2]
    exact Bool.false_ne_true
  cases asked : edit.input.fields with
  | some provided =>
    obtain ⟨existing, fields, changed, workflowId, found, accepted, edited⟩ :=
      updateEntity_provided asked ran
    obtain ⟨rfl, kept⟩ := live found
    refine ⟨existing, found, .inr ⟨_, ?_, edited.row_eq, edited.effect.instances⟩⟩
    have accepted : edit.env.editRules.updateFields edit.db edit.tenantId existing
      (edit.db.parentId edit.tenantId existing.id).isSome provided = .ok fields := accepted
    simp only [plan, if_neg kept, asked, accepted]
  | none =>
    obtain ⟨existing, found, done⟩ := updateEntity_bare asked ran
    obtain ⟨rfl, kept⟩ := live found
    refine ⟨existing, found, ?_⟩
    split at done
    · next given =>
      obtain ⟨changed, workflowId, edited⟩ := done
      refine .inr ⟨_, ?_, edited.row_eq, edited.effect.instances⟩
      simp only [plan, if_neg kept, asked, if_pos given]
    · next idle =>
      refine .inl ⟨?_, done.2⟩
      simp only [plan, if_neg kept, asked, if_neg idle]

/-! ## The condition -/

theorem safe_iff {op : AccessOp} {source current written : EntityInstance}
    (made : Made AccessOp.way op source current written) :
    op.Safe source current ↔ ∀ userId, recordAccess written.fields userId =
      (op.sets userId).getD (recordAccess current.fields userId) := by
  have grants (own : String) (entry : Json) :
      (∀ userId, userId ≠ own → recordAccess current.fields userId ≠ some .listed) ↔
        ∀ userId, recordAccess (grantEntry own entry current.fields) userId =
          getD (if userId = own then some (some (.entry entry)) else none)
            (recordAccess current.fields userId) := by
    refine forall_congr' fun userId => ?_
    by_cases same : userId = own
    · rw [if_pos same, same]
      exact ⟨fun _ => recordAccess_grant_self own entry _, fun _ other => absurd rfl other⟩
    · rw [if_neg same]
      exact ⟨fun free => (recordAccess_grant_other entry same).mpr (free same),
        fun left _ => (recordAccess_grant_other entry same).mp left⟩
  cases made with
  | idle rewrites nothing =>
    cases op with
    | updateEntity edit => exact ⟨fun _ _ => rfl, fun _ _ _ => rfl⟩
    | _ => cases rewrites
  | edited edits writes =>
    cases op with
    | grantAccess own level tag =>
      cases edits
      cases writes
      exact grants own _
    | autoGrant own =>
      cases edits
      dsimp only at writes
      split at writes
      · cases writes
      · cases writes
        exact grants own _
    | revokeAccess own wasAssignee =>
      cases edits
      obtain ⟨fields, revoked, rfl⟩ := map_eq_some_iff.mp writes
      refine ⟨fun _ userId => (recordAccess_revoke revoked).trans ?_, fun _ => trivial⟩
      change _ = getD (if userId = own then some none else none) _
      by_cases same : userId = own
      · rw [if_pos same, if_pos same]
        rfl
      · rw [if_neg same, if_neg same]
        rfl
    | updateEntity edit => cases edits
  | rewritten rewrites writes =>
    cases op with
    | updateEntity edit =>
      cases rewrites
      have left := edit.plan_write writes current
      constructor
      · intro safe userId
        rw [left userId]
        split
        · next given => exact safe given userId
        · rfl
      · intro kept given userId
        have same := (left userId).symm.trans (kept userId)
        rw [if_pos given] at same
        exact same
    | _ => cases rewrites

/-- Every access edit that has committed is reflected throughout a run exactly when every
committed edit of the fields read the access of all users as it stands when they are written,
and every committed grant found no other user in a list. -/
theorem access_reflects_iff (init : EntityInstance) (labels : List (Label AccessOp)) :
    Always (step AccessOp.way) (AccessReflects init) (initial init) labels ↔
      Guarded (step AccessOp.way) (Under AccessOp.way AccessOp.Safe) (initial init) labels :=
  reflects_iff safe_iff init labels

/-! ## Access that other writes undo -/

namespace AccessSample

def row (access : Json) : EntityInstance where
  id := 10
  entityTypeId := 1
  tenantId := 1
  fields := [("name", .str "first"), ("__accessUsers", access)]
  createdAt := 0
  updatedAt := 0

/-- A record with a map, and an old one with a list. -/
def mapped : EntityInstance := row (.obj [("alice", accessEntry .readOnly .manual)])
def old : EntityInstance := row (.arr [.str "alice"])

def rename : RecordEdit where
  env := orderEnv
  db := orderDb
  tenantId := 1
  input := { fields := some [("name", .str "second")] }
  supply := ⟨100, 100, fun i => 100 + i⟩
  unreserved := by decide

def granted : List (Label AccessOp) :=
  [.start (.updateEntity rename), .read 0, .start (.grantAccess "bob" .readWrite .manual), .write 1,
    .start (.revokeAccess "alice" false), .write 2, .write 0]

/-- A user is granted access to an old record. -/
def listed : List (Label AccessOp) :=
  [.start (.grantAccess "bob" .readOnly .manual), .write 0]

def renameMapped : RecordEdit := { rename with db := { orderDb with entityInstances := [mapped] } }

end AccessSample

open AccessSample in
theorem renameMapped_planned : ∃ existing, renameMapped.plan existing ≠ .refuse ∧
    renameMapped.db.entityInstances.find? (EntityInstance.isLive 1 10) = some existing := by
  have returns : ((updateEntity renameMapped.env.rules 1 10 renameMapped.input
      renameMapped.supply).exec renameMapped.db).isOk = true := by
    decide +kernel
  cases ran : (updateEntity renameMapped.env.rules 1 10 renameMapped.input
      renameMapped.supply).exec renameMapped.db with
  | error e => rw [ran] at returns; cases returns
  | ok result =>
    obtain ⟨existing, found, ⟨idle, -⟩ | ⟨write, writes, -⟩⟩ := renameMapped.updateEntity_planned ran
    · exact ⟨existing, by rw [idle]; exact nofun, found⟩
    · exact ⟨existing, by rw [writes]; exact nofun, found⟩

open AccessSample in
/-- An edit of a field takes back a grant and a revocation that commit while it is under way, and
a grant takes all others off the list of an old record. -/
theorem access_undone :
    (∃ w, run (step AccessOp.way) (initial mapped) granted = some w ∧
      (recordAccess w.value.fields "bob").isNone = true ∧
      (recordAccess w.value.fields "alice").isSome = true ∧ ¬AccessReflects mapped w) ∧
    ∃ w, run (step AccessOp.way) (initial old) listed = some w ∧
      (recordAccess w.value.fields "alice").isNone = true ∧ ¬AccessReflects old w := by
  constructor
  · have undone : (run (step AccessOp.way) (initial mapped) granted).any (fun w =>
        ((recordAccess w.value.fields "bob").isNone &&
          (recordAccess w.value.fields "alice").isSome) &&
            (lastSet AccessOp.sets w.log "bob").any Option.isSome) = true := by
      decide +kernel
    obtain ⟨w, ran, undone⟩ := (any_eq_true _ _).mp undone
    obtain ⟨access, set'⟩ := Bool.and_eq_true_iff.mp undone
    obtain ⟨gone, kept⟩ := Bool.and_eq_true_iff.mp access
    obtain ⟨given, is, some'⟩ := (any_eq_true _ _).mp set'
    refine ⟨w, ran, gone, kept, fun reflects => ?_⟩
    have stored : recordAccess w.value.fields "bob" = given := by
      rw [reflects "bob", is]
      rfl
    rw [stored] at gone
    cases given with
    | none => cases some'
    | some access => cases gone
  · have undone : (run (step AccessOp.way) (initial old) listed).any (fun w =>
        (recordAccess w.value.fields "alice").isNone &&
          (lastSet AccessOp.sets w.log "alice").isNone) = true := by
      decide +kernel
    obtain ⟨w, ran, undone⟩ := (any_eq_true _ _).mp undone
    obtain ⟨gone, untouched⟩ := Bool.and_eq_true_iff.mp undone
    refine ⟨w, ran, gone, fun reflects => ?_⟩
    rw [reflects "alice", isNone_iff_eq_none.mp untouched] at gone
    cases gone

end OpenWind
