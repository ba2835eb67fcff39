import OpenWind.Automation.Walk
import OpenWind.Entity.Revalidation

/-!
# The child that a rule creates

`create_child` reads the parent, goes no further when the field that it writes back to has a
value, creates the child under the lock of the parent, and writes the child's identifier to that
field with an ordinary edit.  The guard is read before the lock is taken, and the edit drops a
key that the parent's type does not define.
-/

open List Option Bool

namespace OpenWind

open Txn Runs Txn.Safe

/-! ## The transaction -/

structure ChildCall (tenantId parentId : Id) (field : String) where
  run : ActionRun
  config : CreateChildConfig
  supply : EntitySupply
  writeSupply : EntitySupply
  tenant : run.tenantId = tenantId
  parent : run.event.instanceId = parentId
  writesTo : config.writeBackField = some field
  named : field ≠ ""

/-- Write the child's identifier to the parent. -/
def writeChildBack (rules : FieldRules) (run : ActionRun) (config : CreateChildConfig)
    (childId : Id) (supply : EntitySupply) : Tx Unit :=
  match config.writeBackField.filter (· != "") with
  | none => return ()
  | some field => do
    let _ ← updateEntity rules run.tenantId run.event.instanceId
      (writeBackInput run field childId) supply
    return ()

def createChild (rules : FieldRules) (run : ActionRun) (config : CreateChildConfig)
    (supply writeSupply : EntitySupply) : Tx (Option Id) := do
  let parent ← Prog.read fun db => getEntity run.env db run.tenantId run.event.instanceId
  let parent ← Tx.lift parent
  if config.writtenBack parent then return none
  else
    let input ← Prog.read fun db => createChildInput run db supply.now config parent
    let child ← createChildRelation rules run.tenantId input supply
    writeChildBack rules run config child.id writeSupply
    return some child.id

theorem engine_up {α : Type} {run : ActionRun} {action : String} {call : EntitySupply → Tx α}
    {s : AutomationState} (up : run.env.fails s.calls = false) :
    engine run action call s =
      match (call (run.env.supply s.calls)).exec s.store.db with
      | .ok (a, db) =>
        (.ok a, { s with calls := s.calls + 1, store := s.store.after run action db })
      | .error e => (.error (.engine e), { s with calls := s.calls + 1 }) := by
  unfold engine
  rw [up]
  rfl

section Alone

variable {run : ActionRun} {config : CreateChildConfig} {s : AutomationState}

theorem writeBack_alone (config : CreateChildConfig) (childId : Id) (up : run.env.fails s.calls = false) :
    match (writeChildBack run.env.rules run config childId (run.env.supply s.calls)).exec
        s.store.db with
    | .ok (_, db) => ∃ t, writeBack run config childId s = (.ok (), t) ∧ t.store.db = db
    | .error e => ∃ t, writeBack run config childId s = (.error (.engine e), t) := by
  unfold writeChildBack writeBack
  cases config.writeBackField.filter (· != "") with
  | none => exact ⟨s, rfl, rfl⟩
  | some field =>
    simp only [Prog.bind_eq, Prog.exec_bind, Attempt.bind_eq, Attempt.bind, engine_up up]
    cases (updateEntity run.env.rules run.tenantId run.event.instanceId
      (writeBackInput run field childId) (run.env.supply s.calls)).exec s.store.db with
    | error e => exact ⟨_, rfl⟩
    | ok made => exact ⟨_, rfl, rfl⟩

theorem executeCreateChildAction_alone (up : ∀ call, run.env.fails call = false) :
    match (createChild run.env.rules run config (run.env.supply s.calls)
        (run.env.supply (s.calls + 1))).exec s.store.db with
    | .ok (_, db) =>
      ∃ t, executeCreateChildAction run config s = (.ok (), t) ∧ t.store.db = db
    | .error e => ∃ t, executeCreateChildAction run config s = (.error (.engine e), t) := by
  unfold createChild executeCreateChildAction
  rw [Attempt.bind_eq, readStore_bind, Prog.bind_eq, Prog.exec_bind, Prog.exec_read]
  cases read : getEntity run.env s.store.db run.tenantId run.event.instanceId with
  | error e => exact ⟨s, rfl⟩
  | ok parent =>
    cases written : config.writtenBack parent with
    | true =>
      simp only [Tx.lift, Prog.bind_eq, Prog.pure_eq, Prog.exec_bind, Prog.exec_ret, written, if_true]
      exact ⟨s, rfl, rfl⟩
    | false =>
      simp only [Tx.lift, Prog.bind_eq, Prog.pure_eq, Prog.exec_bind, Prog.exec_ret, Prog.exec_read,
        written, false_eq_true, if_false, Attempt.bind_eq, Attempt.bind, engine_up (up s.calls)]
      cases (createChildRelation run.env.rules run.tenantId
          (createChildInput run s.store.db (run.env.supply s.calls).now config parent)
          (run.env.supply s.calls)).exec s.store.db with
      | error e => exact ⟨_, rfl⟩
      | ok made =>
        obtain ⟨child, db⟩ := made
        have rest := writeBack_alone config child.id
          (s := { s with calls := s.calls + 1, store := s.store.after run "create_child" db }) (up _)
        dsimp only [AutomationStore.after] at rest ⊢
        cases ended : (writeChildBack run.env.rules run config child.id
            (run.env.supply (s.calls + 1))).exec db with
        | error e =>
          rw [ended] at rest
          exact rest
        | ok written =>
          rw [ended] at rest
          exact rest

end Alone

section Executions

variable {tenantId parentId : Id} {field : String}

def ChildCall.program (fields : FieldEnv) (call : ChildCall tenantId parentId field) :
    Tx (Option Id) :=
  createChild fields.rules call.run call.config call.supply call.writeSupply

/-! ## What the write-back stores -/

variable {key s : String} {w : Json} {zod : Zod} {f : EntityInstance → EntityInstance}
  {rows : List EntityInstance} {patch : Db → Db} {α : Type}

theorem optionSchema_str {options : Option Json}
    (parsed : (optionSchema options).parse (.str s) = .ok w) : w = .str s := by
  unfold optionSchema at parsed
  split at parsed
  · exact stringSchema_same parsed
  · exact passed_same parsed

theorem buildFieldSchema_str {f : EntityField}
    (parsed : (buildFieldSchema zod f).parse (.str s) = .ok w) : w = .str s := by
  unfold buildFieldSchema at parsed
  cases type : f.fieldType with
  | text | longtext | date | datetime | userRef | entityRef | file =>
    rw [type] at parsed
    exact stringSchema_same parsed
  | number | currency | boolean | multiEnum | files =>
    rw [type] at parsed
    cases parsed
  | enum | select =>
    rw [type] at parsed
    exact optionSchema_str parsed
  | formula | lookup | other =>
    rw [type] at parsed
    cases parsed
    rfl

theorem EntityField.entry_str {f : EntityField} {mode : SchemaMode}
    (parsed : (f.entry zod mode).parse (.str s) = .ok w) : w = .str s := by
  unfold entry at parsed
  split at parsed
  · cases parsed
  · dsimp only at parsed
    split at parsed
    · exact buildFieldSchema_str parsed
    · exact buildFieldSchema_str parsed

theorem fieldValue_str {allFields : List EntityField} (defined : ∃ f ∈ allFields, f.name = key)
    (accepted : ∀ f ∈ allFields,
      (f.entry zod .update).Accepts (Fields.get [(key, .str s)] f.name)) :
    fieldValue zod allFields key (.str s) = some (.str s) := by
  obtain ⟨g, mem, named⟩ := defined
  unfold fieldValue Shape.value
  rw [lookup_buildZodSchema]
  have found : ((sortFields allFields).find? fun f => key == f.name).isSome = true :=
    find?_isSome.mpr ⟨g, mem_sortFields.mpr mem, beq_iff_eq.mpr named.symm⟩
  obtain ⟨f, first⟩ := isSome_iff_exists.mp found
  have selected := find?_some first
  have same : key = f.name := eq_of_beq selected
  have accepts := accepted f (mem_sortFields.mp (mem_of_find?_eq_some first))
  have given : Fields.get [(key, Json.str s)] f.name = some (.str s) := by
    rw [← same]
    simp [Fields.get]
  rw [given] at accepts
  obtain ⟨w, parsed⟩ := accepts
  rw [first, map_some]
  apply Shape.Entry.value_eq_some.mpr
  rw [← EntityField.entry_parse zod f .update, parsed, EntityField.entry_str parsed]

theorem FieldEnv.update_writes {fields : FieldEnv} {db : Db} {existing : EntityInstance}
    {child : Bool} {result : Fields}
    (accepted : fields.rules.update db tenantId existing child [(key, .str s)] = .ok result)
    (defined : ∃ f ∈ db.fieldsOf tenantId existing.entityTypeId, f.name = key) :
    result.get key = some (.str s) := by
  have made := (EditRules.updateFields_ok accepted).1
  obtain ⟨schema, parsed, -, loaded, parses, -⟩ := id made
  cases loaded
  have lawful := fields.editRules_lawful
  have given : Fields.get [(key, Json.str s)] key = some (.str s) := by simp [Fields.get]
  have value := fieldValue_str defined
    (fun f mem => exists_parseFields_iff.mp ⟨parsed, parses⟩ f (mem_sortFields.mpr mem))
  rw [lawful.stores made fun all out applied =>
    lawful.computed rfl parses (by rw [given]; rfl) applied]
  unfold storedValue
  rw [given, bind_some, value, some_or]
  cases child with
  | true => rfl
  | false =>
    simp only [false_eq_true, if_false, bind_some]
    rw [value, some_or]

/-! ## What an execution changes -/

structure SameTypes (db db' : Db) : Prop where
  fields : db'.entityFields = db.entityFields
  records : ∀ row ∈ db.entityInstances, ∃ row' ∈ db'.entityInstances,
    row'.id = row.id ∧ row'.tenantId = row.tenantId ∧ row'.entityTypeId = row.entityTypeId

theorem SameTypes.refl (db : Db) : SameTypes db db :=
  ⟨rfl, fun row mem => ⟨row, mem, rfl, rfl, rfl⟩⟩

theorem SameTypes.trans {a b c : Db} (first : SameTypes a b) (second : SameTypes b c) :
    SameTypes a c := by
  refine ⟨second.fields.trans first.fields, fun row mem => ?_⟩
  obtain ⟨mid, memMid, id, tenant, type⟩ := first.records row mem
  obtain ⟨row', mem', id', tenant', type'⟩ := second.records mid memMid
  exact ⟨row', mem', id'.trans id, tenant'.trans tenant, type'.trans type⟩

def typesRely : Rely Db LockKey where
  rel _ := SameTypes
  refl _ := .refl
  trans := .trans
  anti _ same := same

def Reshapes (rows : List EntityInstance) (f : EntityInstance → EntityInstance)
    (patch : Db → Db) : Prop :=
  ∀ db, (patch db).entityInstances = (db.entityInstances ++ rows).map f ∧
    (patch db).entityFields = db.entityFields

/-- The edit leaves each record its identity and its type. -/
def KeepsTypes (f : EntityInstance → EntityInstance) : Prop :=
  ∀ row, (f row).id = row.id ∧ (f row).tenantId = row.tenantId ∧
    (f row).entityTypeId = row.entityTypeId

theorem Reshapes.sameTypes (reshapes : Reshapes rows f patch) (keeps : KeepsTypes f) (db : Db) :
    SameTypes db (patch db) := by
  refine ⟨(reshapes db).2, fun row mem => ⟨f row, ?_, keeps row⟩⟩
  rw [(reshapes db).1]
  exact List.mem_map_of_mem (mem_append_left rows mem)

theorem insertWorkflowEvent_keeps (event : WorkflowEvent) :
    (insertWorkflowEvent event).Keeps (Reshapes rows f) := by
  unfold insertWorkflowEvent
  split
  · exact Table.keeps_insert fun _ shape => shape
  · exact .writeChecked fun _ _ shape => shape

theorem insertOutbox_keeps (events : List OutboxEvent) :
    (Tx.insertOutbox events).Keeps (Reshapes rows f) :=
  Table.keeps_insert fun _ shape => shape

theorem insertRelations_keeps (relations : List EntityRelation) :
    (insertRelations relations).Keeps (Reshapes rows f) :=
  Table.keeps_insert fun _ shape => shape

theorem rescheduleDueDate_keeps (tenantId : Id) (row : EntityInstance)
    (oldDueDate newDueDate : Option Time) (supply : EntitySupply) (rowId : Id) :
    (rescheduleDueDate tenantId row oldDueDate newDueDate supply rowId).Keeps
      (Reshapes rows f) := by
  unfold rescheduleDueDate
  split
  · trivial
  · refine .bind (Table.keeps_update fun _ _ shape => shape) fun _ => ?_
    split
    · trivial
    · exact insertOutbox_keeps _

theorem logUpdate_keeps (tenantId : Id) (existing row : EntityInstance) (changed : Fields)
    (input : UpdateEntityInput) (supply : EntitySupply) :
    (logUpdate tenantId existing row changed input supply).Keeps (Reshapes rows f) := by
  unfold logUpdate
  refine .bind (.read _) fun workflowId => ?_
  split
  · trivial
  · refine .bind ?_ fun _ => ?_
    · unfold insertUpdateEvent
      split
      · trivial
      · exact insertWorkflowEvent_keeps _
    · unfold insertEntityUpdated
      split
      · trivial
      · exact insertOutbox_keeps _

theorem lift_readOnly (result : Except TxError α) : (Tx.lift result).ReadOnly := by
  cases result with
  | ok a => trivial
  | error e => trivial

theorem safe_lift {α β : Type} {F : TxError → Prop} {R : Rely Db LockKey} {I : Db → Prop}
    {Q : β → List LockKey → (Db → Db) → Db → Prop} {result : Except TxError α} {next : α → Tx β}
    {held : List LockKey} {db : Db} (errors : ∀ e, F e)
    (onward : ∀ a, result = .ok a → Safe R I F Q (next a) held patch db) :
    Safe R I F Q ((Tx.lift result).bind next) held patch db := by
  cases result with
  | error e => exact fail (errors e)
  | ok a => exact onward a rfl

/-! ## The contract of an execution -/

def Marks (db : Db) (tenantId parentId : Id) (key text : String)
    (f : EntityInstance → EntityInstance) : Prop :=
  (∀ row ∈ db.entityInstances, row.isOf tenantId parentId = true →
    ∃ g ∈ db.fieldsOf tenantId row.entityTypeId, g.name = key) →
  ∀ row, row.isOf tenantId parentId = true → (f row).fields.get key = some (.str text)

section Safety

variable {F : TxError → Prop} {held : List LockKey} {patch : Db → Db} {db : Db}

variable {Q : EntityInstance → List LockKey → (Db → Db) → Db → Prop} {supply : EntitySupply}
  {fields : FieldEnv} {key text : String}

theorem safe_createChildRelation (errors : ∀ e, F e) {rules : FieldRules}
    {input : CreateChildRelationInput}
    (ends : ∀ row more patch later, Reshapes [row] id patch → row.id ≠ input.parentId →
      Q row more patch later) :
    Safe typesRely (fun _ => True) F Q (createChildRelation rules tenantId input supply) held id
      db := by
  unfold createChildRelation
  refine readOnly errors (.read _) fun team more later _ _ => ?_
  refine readOnly errors (lift_readOnly _) fun _ more later _ _ => ?_
  refine readOnly errors (lift_readOnly _) fun _ more later _ _ => ?_
  refine Safe.bind ?_
  unfold lockRecord
  refine readLocked (fun e _ => errors e) fun mid _ _ => ?_
  cases found : ((Tables.entityInstances.rows (id mid)).find?
      (EntityInstance.isOf tenantId input.parentId)).filter fun r => r.deletedAt == none with
  | none => exact fail (errors _)
  | some parent =>
    refine ret fun last moved _ => ?_
    have matched := (filter_eq_some_iff.mp found).1
    have listed : parent ∈ mid.entityInstances := mem_of_find?_eq_some matched
    have isOf : parent.isOf tenantId input.parentId := find?_some matched
    have named : parent.id = input.parentId := eq_of_beq (and_eq_true_iff.mp isOf).1
    refine readOnly errors (lift_readOnly _) fun _ more later next _ => ?_
    refine readOnly errors (checkNewChild_readOnly ..) fun limits more later' next' _ => ?_
    refine writeChecked (errors _) fun view inserted _ valid => ?_
    have apart : (input.row tenantId limits.id parent supply).id ≠ input.parentId := by
      obtain ⟨same, mem, id', -⟩ :=
        (((SameTypes.trans moved next).trans next').trans inserted).records parent listed
      have unused := Db.unused_of_fresh valid
      exact fun clash => (unused.2 _ mem_cons_self same mem) ((id'.trans named).trans clash.symm)
    have shape : Reshapes [input.row tenantId limits.id parent supply] id
        (Tables.entityInstances.append [input.row tenantId limits.id parent supply] ∘ id) :=
      fun db => ⟨(List.map_id _).symm, rfl⟩
    refine keeping errors (insertWorkflowEvent_keeps _) shape ?_
    intro _ more patch later shape _ _
    refine readOnly errors (.read _) fun allFields more later _ _ => ?_
    refine keeping errors (insertOutbox_keeps _) shape ?_
    intro _ more patch later shape _ _
    refine keeping errors (insertRelations_keeps _) shape ?_
    intro _ more patch later shape _ _
    exact ret fun last _ _ => ends _ more patch last shape apart

theorem isOf_same {row row' : EntityInstance} (id' : row'.id = row.id)
    (tenant : row'.tenantId = row.tenantId) :
    row'.isOf tenantId parentId = row.isOf tenantId parentId := by
  unfold EntityInstance.isOf
  rw [id', tenant]

theorem marks_selected {reading view last : Db} {existing : EntityInstance} {child : Bool}
    {result : Fields} {rows : List EntityInstance} {edit : EntityInstance → EntityInstance}
    (accepted : fields.rules.update (patch reading) tenantId existing child [(key, .str text)] =
      .ok result) (shape : Reshapes rows id patch) (isOf : existing.isOf tenantId parentId)
    (before : ∃ r ∈ reading.entityInstances, r.isOf tenantId parentId ∧
      r.entityTypeId = existing.entityTypeId) (onward : SameTypes reading view)
    (later : SameTypes view last) (edits : ∀ row, (edit row).fields = result) :
    Marks last tenantId parentId key text fun row =>
      if Tables.entityInstances.selected (EntityInstance.isOf tenantId existing.id) (patch view) row
      then edit row else row := by
  intro defined row rowIsOf
  have named : existing.id = parentId := eq_of_beq (and_eq_true_iff.mp isOf).1
  obtain ⟨r, mem, rIsOf, type⟩ := before
  obtain ⟨r', mem', id', tenant', type'⟩ := onward.records r mem
  obtain ⟨r'', mem'', id'', tenant'', type''⟩ := (onward.trans later).records r mem
  have isOf' : r'.isOf tenantId parentId := (isOf_same id' tenant').trans rIsOf
  have isOf'' : r''.isOf tenantId parentId := (isOf_same id'' tenant'').trans rIsOf
  have selected : Tables.entityInstances.selected (EntityInstance.isOf tenantId existing.id)
      (patch view) row := by
    rw [named]
    unfold Table.selected
    have inView : r' ∈ (patch view).entityInstances := by
      rw [(shape view).1, List.map_id]
      exact mem_append_left rows mem'
    have sameKey : r'.id = row.id := by
      have one := eq_of_beq (and_eq_true_iff.mp isOf').1
      have two := eq_of_beq (and_eq_true_iff.mp rowIsOf).1
      exact one.trans two.symm
    rw [rowIsOf, Bool.true_and]
    refine List.any_eq_true.mpr ⟨r', inView, ?_⟩
    rw [isOf', Bool.and_true]
    exact beq_iff_eq.mpr (congrArg (LockKey.row .entityInstances) sameKey)
  dsimp only
  rw [if_pos selected, edits]
  apply FieldEnv.update_writes accepted
  obtain ⟨g, member, called⟩ := defined r'' mem'' isOf''
  refine ⟨g, ?_, called⟩
  have sameFields : (patch reading).entityFields = last.entityFields :=
    (shape reading).2.trans (onward.trans later).fields.symm
  unfold Db.fieldsOf at member ⊢
  rw [sameFields, ← type, ← type'']
  exact member

theorem safe_updateEntity (errors : ∀ e, F e) {depth : Option Nat} {child : EntityInstance}
    (shape : Reshapes [child] id patch) (apart : child.id ≠ parentId)
    (ends : ∀ row more f patch later, Reshapes [child] f patch → KeepsTypes f →
      (∀ last, SameTypes later last → Marks last tenantId parentId key text f) →
      Q row more patch later) :
    Safe typesRely (fun _ => True) F Q
      (updateEntity fields.rules tenantId parentId { fields := some [(key, .str text)], depth }
        supply) held patch db := by
  unfold updateEntity
  refine read fun seen _ _ => ?_
  refine getOr (fun _ => errors _) fun existing found => ?_
  have live : existing.isLive tenantId parentId := find?_some found
  have isOf : existing.isOf tenantId parentId := EntityInstance.isOf_of_isLive live
  have named : existing.id = parentId := EntityInstance.id_of_isLive live
  have listed : existing ∈ seen.entityInstances := by
    have mem : existing ∈ (patch seen).entityInstances := mem_of_find?_eq_some found
    rw [(shape seen).1, List.map_id] at mem
    rcases mem_append.mp mem with old | new
    · exact old
    · rw [mem_singleton.mp new] at named
      exact absurd named apart
  refine readOnly errors (.read _) fun parent more later moved _ => ?_
  refine read fun reading movedOn _ => ?_
  refine safe_lift errors fun result accepted => ?_
  refine readOnly errors (.read _) fun allFields more later movedAfter _ => ?_
  refine Safe.bind ?_
  unfold writeEdit
  refine safe_lift errors fun _ _ => ?_
  refine readOnly errors (p := checkEditState tenantId existing none parent.isSome) trivial
    fun _ more later' movedLast _ => ?_
  refine write fun view viewed _ => ?_
  have shaped : Reshapes [child] (fun row =>
      if Tables.entityInstances.selected (EntityInstance.isOf tenantId existing.id) (patch view) row
      then UpdateEntityInput.apply { fields := some [(key, .str text)], depth } (some result)
        supply.now row
      else row)
      (Tables.entityInstances.modify
        (Tables.entityInstances.selected (EntityInstance.isOf tenantId existing.id) (patch view))
        (UpdateEntityInput.apply { fields := some [(key, .str text)], depth } (some result)
          supply.now) ∘ patch) := by
    intro db
    refine ⟨?_, (shape db).2⟩
    change (patch db).entityInstances.map _ = _
    rw [(shape db).1, List.map_id]
  have keepsTypes : KeepsTypes fun row =>
      if Tables.entityInstances.selected (EntityInstance.isOf tenantId existing.id) (patch view) row
      then UpdateEntityInput.apply { fields := some [(key, .str text)], depth } (some result)
        supply.now row
      else row := by
    intro row
    dsimp only
    split
    · exact ⟨rfl, rfl, rfl⟩
    · exact ⟨rfl, rfl, rfl⟩
  refine keeping errors (insertOutbox_keeps _) shaped ?_
  intro _ more patch' one shaped first _
  refine keeping errors (rescheduleDueDate_keeps ..) shaped ?_
  intro _ more patch' two shaped second _
  refine ret fun three third _ => ?_
  refine keeping errors (logUpdate_keeps ..) shaped ?_
  intro _ more patch' four shaped fourth _
  refine ret fun five fifth _ => ?_
  refine ends _ more _ patch' five shaped keepsTypes fun last sixth => ?_
  have found : ∃ r ∈ reading.entityInstances, r.isOf tenantId parentId ∧
      r.entityTypeId = existing.entityTypeId := by
    obtain ⟨r, mem, id', tenant', type'⟩ := (SameTypes.trans moved movedOn).records existing listed
    exact ⟨r, mem, (isOf_same id' tenant').trans isOf, type'⟩
  exact marks_selected accepted shape isOf found
    ((SameTypes.trans movedAfter movedLast).trans viewed)
    (((((SameTypes.trans first second).trans third).trans fourth).trans fifth).trans sixth)
    fun _ => rfl

end Safety

def childContract : Contract (ChildCall tenantId parentId field) Db TxError (Option Id) where
  failed _ _ _ := True
  returned _ _ before after
    | none => after = before
    | some childId => ∃ child f, child.id = childId ∧ KeepsTypes f ∧
      after.entityInstances = (before.entityInstances ++ [child]).map f ∧
      Marks before tenantId parentId field childId.text f

theorem safe_createChild (fields : FieldEnv) (call : ChildCall tenantId parentId field) (db : Db) :
    Safe typesRely (fun _ => True) (childContract.failed call db)
      (childContract.Commits typesRely (fun _ => True) call db) (call.program fields) [] id db := by
  have errors : ∀ e, childContract.failed call db e := fun _ => trivial
  obtain ⟨run, config, supply, writeSupply, rfl, rfl, writesTo, named⟩ := call
  unfold ChildCall.program createChild
  refine read fun seen _ _ => ?_
  refine safe_lift errors fun parent found => ?_
  split
  · exact ret fun last _ _ => ⟨trivial, fun _ _ => SameTypes.refl _, rfl⟩
  · refine read fun later _ _ => ?_
    refine Safe.bind (safe_createChildRelation errors ?_)
    intro child more patch mid shape apart
    have writes : config.writeBackField.filter (· != "") = some field := by
      rw [writesTo]
      simp [named]
    unfold writeChildBack
    rw [writes]
    refine Safe.bind (Safe.bind (safe_updateEntity errors shape apart ?_))
    intro row more f patch stop reshapes keeps marks
    refine ret fun next first _ => ret fun last second _ => ?_
    refine ⟨trivial, fun _ _ => reshapes.sameTypes keeps last, child, f, rfl, keeps,
      (reshapes last).1, ?_⟩
    exact marks last (SameTypes.trans first second)

/-! ## One child -/

def Db.newRecords (init db : Db) : List EntityInstance :=
  db.entityInstances.filter fun row => decide (row.id ∉ init.entityInstances.map EntityInstance.id)

def Db.CreatedOnce (init : Db) (tenantId parentId : Id) (field : String) (db : Db) : Prop :=
  (init.newRecords db).length ≤ 1 ∧ ∀ child ∈ init.newRecords db, ∀ parent ∈ db.entityInstances,
    parent.isOf tenantId parentId = true → parent.fields.get field = some (.str child.id.text)

def ChildCall.WritesFirst (_ : ChildCall tenantId parentId field) : Option Id → Db → Prop
  | none, _ => True
  | some _, db =>
    (∃ parent ∈ db.entityInstances, parent.isOf tenantId parentId = true ∧
      Json.blank (parent.fields.get field) = true) ∧
    ∀ parent ∈ db.entityInstances, parent.isOf tenantId parentId = true →
      ∃ f ∈ db.fieldsOf tenantId parent.entityTypeId, f.name = field

theorem text_not_blank (id : Id) : Json.blank (some (.str id.text)) = false := by
  have some' : Id.text id ≠ "" := Nat.repr_ne_empty
  exact beq_eq_false_iff_ne.mpr some'

theorem Db.newRecords_created {init before after : Db} {child : EntityInstance}
    (keeps : KeepsTypes f)
    (instances : after.entityInstances = (before.entityInstances ++ [child]).map f) :
    init.newRecords after = (init.newRecords before ++
      [child].filter fun row => decide (row.id ∉ init.entityInstances.map EntityInstance.id)).map
        f := by
  unfold newRecords
  rw [instances, ← filter_append, List.filter_map]
  congr 2
  funext row
  rw [Function.comp, (keeps row).1]

theorem Db.CreatedOnce.commit {init start before after : Db}
    {call : ChildCall tenantId parentId field} {result : Option Id}
    (first : call.WritesFirst result before)
    (once : init.CreatedOnce tenantId parentId field before)
    (returned : childContract.returned call start before after result) :
    init.CreatedOnce tenantId parentId field after := by
  cases result with
  | none =>
    have same : after = before := returned
    rw [same]
    exact once
  | some childId =>
    obtain ⟨⟨parent, mem, isOf, empty⟩, defined⟩ := first
    obtain ⟨child, f, named, keeps, instances, marks⟩ := returned
    -- the field that is still empty says that none was created before
    have none' : init.newRecords before = [] := by
      apply eq_nil_iff_forall_not_mem.mpr
      intro other created
      rw [once.2 other created parent mem isOf, text_not_blank] at empty
      cases empty
    have news : init.newRecords after = (init.newRecords before ++
        [child].filter fun row => decide (row.id ∉ init.entityInstances.map EntityInstance.id)).map
          f := Db.newRecords_created keeps instances
    rw [none', nil_append] at news
    constructor
    · rw [news, length_map]
      exact length_filter_le _ _
    · intro created memCreated parent' mem' isOf'
      rw [news] at memCreated
      obtain ⟨row, memRow, rfl⟩ := List.mem_map.mp memCreated
      have same := mem_singleton.mp (mem_filter.mp memRow).1
      rw [(keeps row).1, same, named]
      rw [instances] at mem'
      obtain ⟨old, -, rfl⟩ := List.mem_map.mp mem'
      exact marks defined old ((isOf_same (keeps old).1 (keeps old).2.1).symm.trans isOf')

end Executions

/-- At most one child is created by any number of executions, and the parent's field holds its
identifier, throughout a run in which an execution commits a child only while the field is empty,
and one that the parent's type defines. -/
theorem child_created_once {tenantId parentId : Id} {field : String} (fields : FieldEnv) (init : Db)
    (labels : List (Label (ChildCall tenantId parentId field)))
    (first : Guarded (Pool.next (ChildCall.program fields))
      (Pool.CommitsUnder ChildCall.WritesFirst) (Pool.init init) labels) :
    Always (Pool.next (ChildCall.program fields))
      (fun pool => init.CreatedOnce tenantId parentId field pool.db) (Pool.init init) labels := by
  refine Pool.always (C := childContract) (R := typesRely) (I := fun _ => True)
    (fun call db _ => safe_createChild fields call db)
    (fun first once returned => once.commit first returned) trivial ?_ first
  have none' : init.newRecords init = [] := by
    apply filter_eq_nil_iff.mpr
    intro row mem
    simpa using List.mem_map_of_mem mem
  unfold Db.CreatedOnce
  rw [none']
  exact ⟨Nat.zero_le _, fun child mem => by cases mem⟩

/-! ## Two children -/

namespace ChildSample

def db : Db where
  workflows := [{ id := 1, tenantId := some 1, entityTypeId := 7, initialState := "open"
                  maxChildDepth := 1, maxChildrenPerParent := 5 }]
  entityFields := [{ id := 3, entityTypeId := 7, tenantId := some 1, name := "costing_child_id" }]
  entityInstances := [{ id := 10, entityTypeId := 7, tenantId := 1, workflowId := some 1
                        createdAt := 0, updatedAt := 0 }]

def env (base : Id) : AutomationEnv where
  rules := orderEnv.rules
  supply call := ⟨base, base, fun k => base + 10 * call + k⟩
  now := base
  computedFields _ _ row := row.fields
  fallbackAssignee _ _ _ := none
  valueText _ := ""
  toLowerCase s := s
  idText := Id.text
  uuid := String.toNat?
  sideFailure _ _ := none
  fails _ := false

def call (field : String) (named : field ≠ "") (base : Id) : ChildCall 1 10 field where
  run := ⟨env base, 1, 1, "costing", base, ⟨"workflow.transitioned", 10, []⟩, 0, 0, none⟩
  config := { writeBackField := some field }
  supply := ⟨base, base, fun k => base + k⟩
  writeSupply := ⟨base, base, fun k => base + 10 + k⟩
  tenant := rfl
  parent := rfl
  writesTo := rfl
  named := named

/-- The next statements of an execution, and its commit. -/
def rest (field : String) (t steps : Nat) : List (Label (ChildCall 1 10 field)) :=
  replicate steps (.step t) ++ [.finish t]

/-- One execution. -/
def once : List (Label (ChildCall 1 10 "costing_child_id")) :=
  .begin 0 (call "costing_child_id" (by decide) 100) :: rest "costing_child_id" 0 21

/-- Both executions read the parent before either takes its lock. -/
def guardsFirst : List (Label (ChildCall 1 10 "costing_child_id")) :=
  [.begin 0 (call "costing_child_id" (by decide) 100),
    .begin 1 (call "costing_child_id" (by decide) 200), .step 0, .step 1] ++
    rest "costing_child_id" 0 20 ++ rest "costing_child_id" 1 20

def droppedKey : List (Label (ChildCall 1 10 "subtask")) :=
  .begin 0 (call "subtask" (by decide) 100) :: rest "subtask" 0 19 ++
    .begin 1 (call "subtask" (by decide) 200) :: rest "subtask" 1 19

/-- A commit of a child meets the condition. -/
def commitsFirst {field : String}
    (pool : Pool (ChildCall 1 10 field) Db LockKey TxError (Option Id)) :
    Label (ChildCall 1 10 field) → Bool
  | .finish t =>
    match pool.sessions t with
    | some ⟨_, _, .ret (some _), _, _⟩ =>
      (pool.db.entityInstances.any fun parent =>
        parent.isOf 1 10 && Json.blank (parent.fields.get field)) &&
      pool.db.entityInstances.all fun parent =>
        !parent.isOf 1 10 || (pool.db.fieldsOf 1 parent.entityTypeId).any (·.name == field)
    | _ => true
  | _ => true

theorem commitsFirst_sound {field : String}
    {pool : Pool (ChildCall 1 10 field) Db LockKey TxError (Option Id)}
    {label : Label (ChildCall 1 10 field)} (checked : commitsFirst pool label) :
    Pool.CommitsUnder ChildCall.WritesFirst pool label := by
  cases label with
  | finish t =>
    intro s result running code
    cases result with
    | none => trivial
    | some childId =>
      obtain ⟨call, start, prog, held, patch⟩ := s
      cases code
      rw [commitsFirst, running] at checked
      obtain ⟨empty, defined⟩ := and_eq_true_iff.mp checked
      obtain ⟨parent, mem, both⟩ := List.any_eq_true.mp empty
      obtain ⟨isOf, blank⟩ := and_eq_true_iff.mp both
      refine ⟨⟨parent, mem, isOf, blank⟩, fun other member isOf' => ?_⟩
      have known := List.all_eq_true.mp defined other member
      rw [isOf', Bool.not_true, Bool.false_or] at known
      obtain ⟨f, listed, named⟩ := List.any_eq_true.mp known
      exact ⟨f, listed, eq_of_beq named⟩
  | begin | step | refuse | abort => trivial

end ChildSample

open ChildSample in
/-- One execution alone creates one child. -/
theorem child_created_once_alone :
    ∃ pool, Pool.runFrom (ChildCall.program orderEnv) ChildSample.db once = some pool ∧
      (ChildSample.db.newRecords pool.db).length = 1 ∧
      ChildSample.db.CreatedOnce 1 10 "costing_child_id" pool.db := by
  have created : (Pool.runFrom (ChildCall.program orderEnv) ChildSample.db once).any (fun pool =>
      (ChildSample.db.newRecords pool.db).length == 1) = true := by
    decide +kernel
  obtain ⟨pool, ran, one⟩ := (Option.any_eq_true _ _).mp created
  have checked : check (Pool.next (ChildCall.program orderEnv)) commitsFirst
      (Pool.init ChildSample.db) once := by
    decide +kernel
  have always := child_created_once orderEnv ChildSample.db once
    (.of_check commitsFirst_sound checked)
  exact ⟨pool, ran, eq_of_beq one, always.last ran⟩

open ChildSample in
/-- Two executions that read the parent at once create two children, and so do two in turn that
write back to a field that the type does not define. -/
theorem two_children_created :
    (∃ pool, Pool.runFrom (ChildCall.program orderEnv) ChildSample.db guardsFirst = some pool ∧
      ¬ChildSample.db.CreatedOnce 1 10 "costing_child_id" pool.db) ∧
    ∃ pool, Pool.runFrom (ChildCall.program orderEnv) ChildSample.db droppedKey = some pool ∧
      ¬ChildSample.db.CreatedOnce 1 10 "subtask" pool.db := by
  constructor
  · have created : (Pool.runFrom (ChildCall.program orderEnv) ChildSample.db guardsFirst).any
        (fun pool => (ChildSample.db.newRecords pool.db).length == 2) = true := by
      decide +kernel
    obtain ⟨pool, ran, two⟩ := (Option.any_eq_true _ _).mp created
    refine ⟨pool, ran, fun once => ?_⟩
    have few := once.1
    rw [eq_of_beq two] at few
    omega
  · have created : (Pool.runFrom (ChildCall.program orderEnv) ChildSample.db droppedKey).any
        (fun pool => (ChildSample.db.newRecords pool.db).length == 2) = true := by
      decide +kernel
    obtain ⟨pool, ran, two⟩ := (Option.any_eq_true _ _).mp created
    refine ⟨pool, ran, fun once => ?_⟩
    have few := once.1
    rw [eq_of_beq two] at few
    omega

end OpenWind
