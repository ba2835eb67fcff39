import OpenWind.Entity.BulkUpdate
import OpenWind.Entity.Calls
import OpenWind.Lib.Pool

/-!
# Concurrent edits of one record

`updateEntity` reads the whole fields of a record without a lock, merges what it was
given into them and writes them back.
-/

open List

namespace OpenWind

open Txn

/-! ## The laws of the checks -/

theorem Fields.get_map_entries (fields other : Fields) (key : String) :
    Fields.get (fields.map fun (key, value) => (key, (other.get key).getD value)) key =
      (fields.get key).map fun value => (other.get key).getD value := by
  induction fields with
  | nil => rfl
  | cons entry rest ih =>
    unfold Fields.get at ih ⊢
    rw [map_cons, lookup_cons, lookup_cons, ih]
    by_cases same : (key == entry.1) = true
    · rw [same, eq_of_beq same]
      rfl
    · rw [Bool.eq_false_iff.mpr same]

theorem Fields.get_merge (fields other : Fields) (key : String) :
    (fields.merge other).get key = (other.get key).or (fields.get key) := by
  have added (none_ : fields.get key = none) :
      Fields.get (other.filter fun entry => (fields.get entry.1).isNone) key = other.get key := by
    induction other with
    | nil => rfl
    | cons entry rest ih =>
      unfold Fields.get at ih none_ ⊢
      rw [filter_cons, lookup_cons]
      by_cases same : (key == entry.1) = true
      · have missing : (List.lookup entry.1 fields).isNone := by
          rw [← eq_of_beq same, none_]
          rfl
        rw [if_pos missing, lookup_cons, same]
      · rw [Bool.eq_false_iff.mpr same]
        split
        next => rw [lookup_cons, Bool.eq_false_iff.mpr same, ih]
        next => exact ih
  unfold Fields.merge
  rw [Fields.get, lookup_append]
  change Option.or (Fields.get _ key) (Fields.get _ key) = _
  rw [Fields.get_map_entries]
  cases stored : fields.get key with
  | none => rw [Option.map_none, Option.none_or, added stored, Option.or_none]
  | some value => cases other.get key <;> rfl

structure EditRules.Lawful (rules : EditRules) (value : List EntityField → String → Json → Option Json) :
    Prop where
  parses : ∀ {db tenantId entityTypeId mode schema fields out},
    rules.getValidationSchema db tenantId entityTypeId mode = .ok schema → schema fields = .ok out →
      ∀ key, out.get key = (fields.get key).bind (value (db.fieldsOf tenantId entityTypeId) key)
  /-- A parsed value parses to itself. -/
  again : ∀ {allFields key v w}, value allFields key v = some w → value allFields key w = some w
  /-- A formula's key is not accepted from a client. -/
  computed : ∀ {db tenantId entityTypeId schema provided out all key result},
    rules.getValidationSchema db tenantId entityTypeId .update = .ok schema →
      schema provided = .ok out → (provided.get key).isSome →
        rules.applyFormulaFields (db.fieldsOf tenantId entityTypeId) all = .ok result →
          result.get key = all.get key

section Laws

variable {rules : EditRules} {value : List EntityField → String → Json → Option Json} {db db' : Db}
  {tenantId : Id} {existing existing' : EntityInstance} {child : Bool}
  {provided provided' fields fields' : Fields} {key : String}

theorem EditRules.mergeProvided_ok {merged : Fields}
    (accepted : rules.mergeProvided db tenantId existing provided = .ok (.ok merged)) :
    ∃ schema parsed, rules.getValidationSchema db tenantId existing.entityTypeId .update =
        .ok schema ∧ schema provided = .ok parsed ∧ merged = existing.fields.merge parsed := by
  unfold mergeProvided at accepted
  split at accepted
  next => cases accepted
  next =>
    obtain ⟨schema, loaded, rest⟩ := Except.bind_ok.mp accepted
    cases parsed : schema provided with
    | error errors =>
      rw [parsed] at rest
      cases rest
    | ok out =>
      rw [parsed] at rest
      cases rest
      exact ⟨schema, out, loaded, parsed, rfl⟩

def EditRules.Makes (rules : EditRules) (db : Db) (tenantId : Id) (existing : EntityInstance)
    (child : Bool) (provided fields : Fields) : Prop :=
  ∃ schema parsed validated,
    rules.getValidationSchema db tenantId existing.entityTypeId .update = .ok schema ∧
    schema provided = .ok parsed ∧
    rules.applyFormulaFields (db.fieldsOf tenantId existing.entityTypeId) validated = .ok fields ∧
    if child then validated = existing.fields.merge parsed
    else ∃ schema full,
      rules.getValidationSchema db tenantId existing.entityTypeId .create = .ok schema ∧
      schema (existing.fields.merge parsed) = .ok full ∧ validated = existing.fields.merge full

theorem EditRules.parseFull_ok {merged full : Fields}
    (accepted : rules.parseFull db tenantId existing merged = .ok (.ok full)) :
    ∃ schema, rules.getValidationSchema db tenantId existing.entityTypeId .create = .ok schema ∧
      schema merged = .ok full := by
  unfold parseFull at accepted
  obtain ⟨schema, loaded, parsed⟩ := Except.bind_ok.mp accepted
  exact ⟨schema, loaded, Except.ok.inj parsed⟩

theorem EditRules.updateFields_ok
    (accepted : rules.updateFields db tenantId existing child provided = .ok fields) :
    rules.Makes db tenantId existing child provided fields ∧
      noFieldErrors (rules.validateRefs db tenantId
        (db.fieldsOf tenantId existing.entityTypeId) provided) = .ok () := by
  unfold updateFields at accepted
  obtain ⟨outcome, merged, rest⟩ := Except.bind_ok.mp accepted
  obtain ⟨parsedInto, thrown, later⟩ := Except.bind_ok.mp rest
  rw [throwFieldErrors_ok] at thrown
  subst thrown
  obtain ⟨schema, parsed, loaded, parses, rfl⟩ := mergeProvided_ok merged
  obtain ⟨validated, chosen, named⟩ := Except.bind_ok.mp later
  obtain ⟨entityType, -, crossed⟩ := Except.bind_ok.mp named
  obtain ⟨-, -, referred⟩ := Except.bind_ok.mp crossed
  obtain ⟨_, references, formulas⟩ := Except.bind_ok.mp referred
  refine ⟨⟨schema, parsed, validated, loaded, parses, formulas, ?_⟩, throwFieldErrors_ok.mp references⟩
  unfold validateMerged at chosen
  cases child with
  | true =>
    cases chosen
    rfl
  | false =>
    rw [if_neg Bool.false_ne_true] at chosen ⊢
    obtain ⟨outcome, full, rest⟩ := Except.bind_ok.mp chosen
    obtain ⟨fullFields, thrown, rest⟩ := Except.bind_ok.mp rest
    rw [throwFieldErrors_ok] at thrown
    subst thrown
    obtain ⟨schema', loaded', full⟩ := parseFull_ok full
    cases rest
    exact ⟨schema', fullFields, loaded', full, rfl⟩

theorem EditRules.bulkFields_ok
    (accepted : rules.bulkFields db tenantId existing provided = .ok (.ok fields)) :
    rules.Makes db tenantId existing false provided fields := by
  unfold bulkFields at accepted
  obtain ⟨outcome, merged, rest⟩ := Except.bind_ok.mp accepted
  cases outcome with
  | error errors => cases rest
  | ok mergedFields =>
    obtain ⟨schema, parsed, loaded, parses, rfl⟩ := mergeProvided_ok merged
    obtain ⟨outcome, full, rest⟩ := Except.bind_ok.mp rest
    cases outcome with
    | error errors => cases rest
    | ok fullFields =>
      obtain ⟨schema', loaded', parses'⟩ := parseFull_ok full
      obtain ⟨entityType, -, rest⟩ := Except.bind_ok.mp rest
      split at rest
      next => cases rest
      next =>
        obtain ⟨completed, formulas, returned⟩ := Except.bind_ok.mp rest
        cases returned
        exact ⟨schema, parsed, _, loaded, parses, formulas, schema', fullFields, loaded', parses',
          rfl⟩

def storedValue (value : Json → Option Json) (child : Bool) (given stored : Option Json) :
    Option Json :=
  let merged := (given.bind value).or stored
  if child then merged else (merged.bind value).or stored

theorem storedValue_keeps {parse : Json → Option Json}
    (again : ∀ {v w}, parse v = some w → parse w = some w) (child : Bool)
    (given stored : Option Json) :
    storedValue parse child none (storedValue parse child given stored) =
      storedValue parse child given stored := by
  cases child with
  | true => rfl
  | false =>
    unfold storedValue
    simp only [Bool.false_eq_true, if_false, Option.bind_none, Option.none_or]
    cases parsed : given.bind parse with
    | some w =>
      obtain ⟨v, -, parses⟩ := Option.bind_eq_some_iff.mp parsed
      simp only [Option.some_or, Option.bind_some, again parses]
    | none =>
      cases stored with
      | none => rfl
      | some v =>
        simp only [Option.none_or, Option.bind_some]
        cases parses : parse v with
        | none => simp only [Option.none_or, Option.bind_some, parses]
        | some w => simp only [Option.some_or, Option.bind_some, again parses]

theorem EditRules.Lawful.stores (lawful : rules.Lawful value)
    (made : rules.Makes db tenantId existing child provided fields)
    (free : ∀ all result,
      rules.applyFormulaFields (db.fieldsOf tenantId existing.entityTypeId) all = .ok result →
        result.get key = all.get key) :
    fields.get key = storedValue (value (db.fieldsOf tenantId existing.entityTypeId) key) child
      (provided.get key) (existing.fields.get key) := by
  obtain ⟨schema, parsed, validated, loaded, parses, formulas, rest⟩ := made
  have given := lawful.parses loaded parses key
  rw [free validated fields formulas]
  unfold storedValue
  cases child with
  | true =>
    rw [if_pos rfl] at rest
    rw [rest, Fields.get_merge, given]
    rfl
  | false =>
    rw [if_neg Bool.false_ne_true] at rest
    obtain ⟨schema', full, loaded', parses', rfl⟩ := rest
    rw [Fields.get_merge, lawful.parses loaded' parses' key, Fields.get_merge, given]
    rfl

theorem EditRules.Lawful.updateFields_keeps (lawful : rules.Lawful value)
    (first : rules.updateFields db tenantId existing child provided = .ok fields)
    (second : rules.updateFields db' tenantId existing' child provided' = .ok fields')
    (left : existing'.fields = fields) (type : existing'.entityTypeId = existing.entityTypeId)
    (definitions : db'.entityFields = db.entityFields) (given : (provided.get key).isSome)
    (notGiven : provided'.get key = none) : fields'.get key = fields.get key := by
  obtain ⟨schema, parsed, -, loaded, parses, -⟩ := (updateFields_ok first).1
  have free := fun all result =>
    @EditRules.Lawful.computed _ _ lawful _ _ _ _ _ _ all _ result loaded parses given
  have same : db'.fieldsOf tenantId existing'.entityTypeId =
      db.fieldsOf tenantId existing.entityTypeId := by
    unfold Db.fieldsOf
    rw [definitions, type]
  have stored := lawful.stores (updateFields_ok first).1 free
  have storedAfter := lawful.stores (updateFields_ok second).1 (by rw [same]; exact free)
  rw [storedAfter, same, notGiven, left, stored]
  exact storedValue_keeps lawful.again child _ _

end Laws

/-! ## Two edits -/

structure EditCall where
  tenantId : Id
  instanceId : Id
  input : UpdateEntityInput
  supply : EntitySupply

def EditCall.program (base : FieldRules) (rules : EditRules) (call : EditCall) : Tx EntityInstance :=
  updateEntity (rules.fieldRules base) call.tenantId call.instanceId call.input call.supply

def Db.KeepsEdits (db : Db) (instanceId : Id) (provided provided' : Fields)
    (row row' : EntityInstance) : Prop :=
  ∃ stored ∈ db.entityInstances, stored.id = instanceId ∧
    (∀ key, (provided.get key).isSome → stored.fields.get key = row.fields.get key) ∧
    ∀ key, (provided'.get key).isSome → stored.fields.get key = row'.fields.get key

theorem EditCall.written {base : FieldRules} {rules : EditRules} {call : EditCall} {db db' : Db}
    {row : EntityInstance} {provided : Fields} (asked : call.input.fields = some provided)
    (ran : (call.program base rules).exec db = .ok (row, db')) :
    ∃ existing fields, existing ∈ db.entityInstances ∧ existing.id = call.instanceId ∧
      rules.updateFields db call.tenantId existing
        (db.parentId call.tenantId call.instanceId).isSome provided = .ok fields ∧
      row = call.input.apply (some fields) call.supply.now existing ∧
      row ∈ db'.entityInstances ∧ ((Evolves db db' (fun r =>
        if EntityInstance.isOf call.tenantId call.instanceId r then
          call.input.apply (some fields) call.supply.now r else r) []) ∧ SameDefinitions db db') := by
  obtain ⟨existing, fields, changed, workflowId, found, accepted, edited⟩ :=
    updateEntity_provided asked ran
  have live : existing.isLive call.tenantId call.instanceId := find?_some found
  have mem := mem_of_find?_eq_some found
  have named : existing.id = call.instanceId := EntityInstance.id_of_isLive live
  have instances := edited.effect.instances
  rw [named] at instances
  have evolves := Evolves.of_map instances fun r =>
    .ite (.apply call.input (some fields) call.supply.now) _ r
  refine ⟨existing, fields, mem, named, accepted, edited.row_eq, ?_, evolves,
    edited.effect.definitions⟩
  have kept := evolves.kept mem
  rw [if_pos (EntityInstance.isOf_of_isLive live), ← edited.row_eq] at kept
  exact kept

/-- Of two edits of one record, of which none reads while the other one is under way,
nothing is lost. -/
theorem edits_kept {base : FieldRules} {rules : EditRules}
    {value : List EntityField → String → Json → Option Json} (lawful : rules.Lawful value) {db : Db}
    (keyed : db.Keyed) {labels : List (Label EditCall)}
    {pool : Pool EditCall Db LockKey TxError EntityInstance}
    (ran : Pool.runFrom (EditCall.program base rules) db labels = some pool)
    (one : serial none labels = true) {f g : Finished EditCall Db TxError EntityInstance}
    (log : pool.log = [f, g]) {row row' : EntityInstance} (first : f.result = .ok row)
    (second : g.result = .ok row') (tenant : g.call.tenantId = f.call.tenantId)
    (record : g.call.instanceId = f.call.instanceId) {provided provided' : Fields}
    (asked : f.call.input.fields = some provided) (asked' : g.call.input.fields = some provided')
    (disjoint : ∀ key, (provided.get key).isSome → provided'.get key = none) :
    pool.db.KeepsEdits f.call.instanceId provided provided' row row' := by
  obtain ⟨alone, linked⟩ := Pool.serial_sound one ran
  have ranF := alone f (log ▸ mem_cons_self)
  have ranG := alone g (log ▸ mem_cons_of_mem _ mem_cons_self)
  unfold Finished.Alone at ranF ranG
  rw [first] at ranF
  rw [second] at ranG
  rw [log] at linked
  obtain ⟨rfl, between, last⟩ := linked
  have last : pool.db = g.after := last
  rw [last]
  rw [between] at ranG
  obtain ⟨existing, fields, mem, named, accepted, rfl, memRow, evolves, definitions⟩ :=
    EditCall.written asked ranF
  obtain ⟨existing', fields', mem', named', accepted', rfl, memRow', -, -⟩ :=
    EditCall.written asked' ranG
  -- the second edit reads the row that the first one returned
  have same : existing' = f.call.input.apply (some fields) f.call.supply.now existing :=
    (evolves.keyed keyed).eq mem' memRow (named'.trans (record.trans named.symm))
  subst same
  have parent : f.after.parentId = f.before.parentId := by
    funext tenantId id
    unfold Db.parentId
    rw [definitions.relations]
  rw [tenant, record, parent] at accepted'
  refine ⟨_, memRow', named'.trans record, fun key given => ?_, fun _ _ => rfl⟩
  exact lawful.updateFields_keeps accepted accepted' rfl rfl definitions.fields given
    (disjoint key given)

/-! ### Two edits that overlap -/

def EditRules.acceptAll : EditRules where
  validateReservedFieldNames _ := .ok ()
  getValidationSchema _ _ _ _ := .ok .ok
  loadEntityType _ _ _ := .ok "ticket"
  runCrossFieldValidators _ _ := []
  validateRefs _ _ _ _ := []
  applyFormulaFields _ fields := .ok fields

theorem EditRules.acceptAll_lawful : EditRules.acceptAll.Lawful fun _ _ v => some v := by
  refine ⟨fun loaded parses key => ?_, fun _ => rfl, fun _ _ _ applied => ?_⟩
  · cases loaded
    cases parses
    exact (Option.bind_fun_some _).symm
  · cases applied
    rfl

/-- A record with two fields. -/
def editDb : Db where
  entityInstances :=
    [{ id := 10, entityTypeId := 1, tenantId := 1, fields := [("a", .str "old"), ("b", .str "old")]
       createdAt := 0, updatedAt := 0 }]

/-- Set one field of record 10. -/
def editCall (key : String) (base : Nat) : EditCall where
  tenantId := 1
  instanceId := 10
  input := { fields := some [(key, .str "new")] }
  supply := ⟨base, base, fun i => base + i⟩

def editSteps (t : Nat) : List (Label EditCall) := replicate 7 (.step t) ++ [.finish t]

/-- The text under a key. -/
def textAt (fields : Fields) (key : String) : Option String :=
  match fields.get key with
  | some (.str s) => some s
  | _ => none

def firstGone (pool : Pool EditCall Db LockKey TxError EntityInstance) : Bool :=
  match pool.log with
  | [f, g] =>
    match f.result, g.result with
    | .ok row, .ok _ => textAt row.fields "a" == some "new" &&
      pool.db.entityInstances.all fun stored => textAt stored.fields "a" == some "old"
    | _, _ => false
  | _ => false

/-- Both edits read the record before either writes it: the value that the first one
wrote is gone. -/
theorem edit_lost :
    ∃ pool f g row row', Pool.runFrom (EditCall.program .acceptAll .acceptAll) editDb
        ([.begin 0 (editCall "a" 100), .begin 1 (editCall "b" 200), .step 0, .step 1] ++
          (editSteps 0).tail ++ (editSteps 1).tail) = some pool ∧
      pool.log = [f, g] ∧ f.result = .ok row ∧ g.result = .ok row' ∧
      ¬ pool.db.KeepsEdits 10 [("a", .str "new")] [("b", .str "new")] row row' := by
  have reached : (Pool.runFrom (EditCall.program .acceptAll .acceptAll) editDb
      ([.begin 0 (editCall "a" 100), .begin 1 (editCall "b" 200), .step 0, .step 1] ++
        (editSteps 0).tail ++ (editSteps 1).tail)).any firstGone := by
    decide +kernel
  obtain ⟨pool, ran, facts⟩ := (Option.any_eq_true _ _).mp reached
  unfold firstGone at facts
  split at facts
  next f g log =>
    split at facts
    next row row' first second =>
      refine ⟨pool, f, g, row, row', ran, log, first, second, ?_⟩
      rintro ⟨stored, mem, -, kept, -⟩
      obtain ⟨new, old⟩ := Bool.and_eq_true_iff.mp facts
      have same := kept "a" rfl
      have text : textAt stored.fields "a" = textAt row.fields "a" := by
        unfold textAt
        rw [same]
      rw [eq_of_beq new, eq_of_beq (all_eq_true.mp old stored mem)] at text
      exact absurd text (by decide)
    next => cases facts
  next => cases facts

def EditCall.setsText (call : EditCall) (key text : String) : Bool :=
  match call.input.fields with
  | some [(k, .str s)] => k == key && s == text
  | _ => false

theorem EditCall.fields_of_setsText {call : EditCall} {key text : String}
    (sets : call.setsText key text) : call.input.fields = some [(key, .str text)] := by
  unfold setsText at sets
  split at sets
  next k s asked =>
    obtain ⟨named, valued⟩ := Bool.and_eq_true_iff.mp sets
    rw [asked, eq_of_beq named, eq_of_beq valued]
  next => cases sets

def bothSet (pool : Pool EditCall Db LockKey TxError EntityInstance) : Bool :=
  match pool.log with
  | [f, g] => f.result.isOk && g.result.isOk && f.call.setsText "a" "new" &&
    g.call.setsText "b" "new" && g.call.tenantId == f.call.tenantId &&
    g.call.instanceId == f.call.instanceId
  | _ => false

/-- One edit after the other: both values are stored. -/
theorem edits_kept_serial :
    ∃ pool f g row row', Pool.runFrom (EditCall.program .acceptAll .acceptAll) editDb
        ([.begin 0 (editCall "a" 100), .begin 1 (editCall "b" 200)] ++ editSteps 0 ++ editSteps 1) =
          some pool ∧
      pool.log = [f, g] ∧ f.result = .ok row ∧ g.result = .ok row' ∧
      pool.db.KeepsEdits f.call.instanceId [("a", .str "new")] [("b", .str "new")] row row' := by
  have reached : (Pool.runFrom (EditCall.program .acceptAll .acceptAll) editDb
      ([.begin 0 (editCall "a" 100), .begin 1 (editCall "b" 200)] ++ editSteps 0 ++
        editSteps 1)).any bothSet := by
    decide +kernel
  obtain ⟨pool, ran, facts⟩ := (Option.any_eq_true _ _).mp reached
  unfold bothSet at facts
  split at facts
  next f g log =>
    simp only [Bool.and_eq_true, beq_iff_eq] at facts
    obtain ⟨⟨⟨⟨⟨okF, okG⟩, setsF⟩, setsG⟩, tenant⟩, record⟩ := facts
    cases first : f.result with
    | error => rw [first] at okF; cases okF
    | ok row =>
      cases second : g.result with
      | error => rw [second] at okG; cases okG
      | ok row' =>
        have keyed : editDb.Keyed := nodup_singleton _
        have disjoint : ∀ key, (Fields.get [("a", .str "new")] key).isSome →
            Fields.get [("b", .str "new")] key = none := by
          intro key given
          unfold Fields.get at given ⊢
          by_cases own : (key == "a") = true
          · rw [eq_of_beq own]
            rfl
          · simp [lookup_cons, Bool.eq_false_iff.mpr own] at given
        exact ⟨pool, f, g, row, row', ran, log, first, second,
          edits_kept EditRules.acceptAll_lawful keyed ran (by decide) log first
            second tenant record (EditCall.fields_of_setsText setsF)
            (EditCall.fields_of_setsText setsG) disjoint⟩
  next => cases facts

end OpenWind
