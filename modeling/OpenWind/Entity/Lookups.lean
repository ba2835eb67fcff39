import OpenWind.Entity.Calls
import OpenWind.Entity.References

/-!
# Lookup fields

A lookup field of a type shows a field of the record that a relation leads to.  It is never stored:
`resolveLookupFields` works it out for one record, and `resolveLookupFieldsBatch` for the records
of a page, with two queries for each type of relation.
-/

open List Option

namespace OpenWind

/-! ## Declared lookups -/

structure ParsedLookup where
  fieldName : String
  relationType : String
  targetField : String

def parseLookupField (field : EntityField) : Option ParsedLookup :=
  if field.fieldType != .lookup then none
  else
    match field.config.get "relationType", field.config.get "targetField" with
    | some (.str relationType), some (.str targetField) =>
      some ⟨field.name, relationType, targetField⟩
    | _, _ => none

def parseLookupFields (fields : List EntityField) : List ParsedLookup :=
  fields.filterMap parseLookupField

def relationTypes (lookups : List ParsedLookup) : List String :=
  (lookups.map (·.relationType)).eraseDups

/-! ## The two resolvers -/

structure RowOrder where
  rows : List EntityRelation → List EntityRelation
  perm : ∀ list, (rows list).Perm list

/-- A row that a lookup along the type reads. -/
def EntityRelation.isAlong (tenantId : Id) (relationType : String) (r : EntityRelation) : Bool :=
  r.tenantId == tenantId && r.relationType.text == relationType

def ParsedLookup.assign (targetFields result : Fields) (lookup : ParsedLookup) : Fields :=
  result.set lookup.fieldName ((targetFields.get lookup.targetField).getD .null)

def resolveLookupFields (order : RowOrder) (db : Db) (tenantId instanceId : Id)
    (fields : List EntityField) (values : Fields) : Fields :=
  let lookups := parseLookupFields fields
  if lookups.isEmpty then values
  else
    (relationTypes lookups).foldl (fun result relationType =>
      let relation := (order.rows (db.entityRelations.filter fun r =>
        r.fromInstanceId == instanceId && r.isAlong tenantId relationType)).head?
      match relation with
      | none => result
      | some relation =>
        match db.entityInstances.find? (EntityInstance.isLive tenantId relation.toInstanceId) with
        | none => result
        | some target =>
          lookups.foldl (fun result lookup =>
            if lookup.relationType != relationType then result
            else lookup.assign target.fields result) result) values

/-- `new Map(entries)`: the last entry of a key counts. -/
def mapOf {α : Type} (entries : List (Id × α)) (id : Id) : Option α :=
  (entries.reverse.find? fun e => e.1 == id).map (·.2)

/-- `if (!map.has(key)) map.set(key, value)` -/
def setIfAbsent {α : Type} (map : List (Id × α)) (entry : Id × α) : List (Id × α) :=
  if map.any fun e => e.1 == entry.1 then map else map ++ [entry]

/-- The first relation of each record. -/
def fromToMap (relations : List EntityRelation) : List (Id × Id) :=
  (relations.map fun rel => (rel.fromInstanceId, rel.toInstanceId)).foldl setIfAbsent []

def resolveType (order : RowOrder) (db : Db) (tenantId : Id) (instanceIds : List Id)
    (lookups : List ParsedLookup) (resultMap : Id → Option Fields) (relationType : String) :
    Id → Option Fields :=
  let relations := order.rows (db.entityRelations.filter fun r =>
    instanceIds.contains r.fromInstanceId && r.isAlong tenantId relationType)
  let toIds := ((fromToMap relations).map (·.2)).eraseDups
  let targets := db.entityInstances.filter fun t =>
    toIds.contains t.id && t.tenantId == tenantId && t.deletedAt == none
  let targetFieldsById := mapOf (targets.map fun t => (t.id, t.fields))
  let lookupsForType := lookups.filter fun l => l.relationType == relationType
  (fromToMap relations).foldl (fun resultMap entry =>
    match targetFieldsById entry.2 with
    | none => resultMap
    | some targetFields =>
      match resultMap entry.1 with
      | none => resultMap
      | some instanceValues =>
        Function.update resultMap entry.1
          (some (lookupsForType.foldl (fun values l => l.assign targetFields values)
            instanceValues))) resultMap

def resolveLookupFieldsBatch (order : RowOrder) (db : Db) (tenantId : Id)
    (instances : List (Id × Fields)) (fields : List EntityField) : Id → Option Fields :=
  let resultMap := mapOf instances
  let lookups := parseLookupFields fields
  if lookups.isEmpty then resultMap
  else if instances.isEmpty then resultMap
  else
    (relationTypes lookups).foldl
      (resolveType order db tenantId (instances.map (·.1)) lookups) resultMap

/-! ## Maps -/

section Maps

variable {α : Type} {map entries : List (Id × α)} {id : Id}

theorem mapOf_eq {a : α} (mem : (id, a) ∈ entries) (agree : ∀ e ∈ entries, e.1 = id → e.2 = a) :
    mapOf entries id = some a := by
  unfold mapOf
  have there : (entries.reverse.find? fun e => e.1 == id).isSome = true :=
    find?_isSome.mpr ⟨_, mem_reverse.mpr mem, beq_self_eq_true id⟩
  obtain ⟨e, found⟩ := isSome_iff_exists.mp there
  have key := find?_some found
  rw [found, map_some, agree e (mem_reverse.mp (mem_of_find?_eq_some found)) (eq_of_beq key)]

theorem mapOf_eq_some_iff (nodup : (entries.map (·.1)).Nodup) {a : α} :
    mapOf entries id = some a ↔ (id, a) ∈ entries := by
  constructor
  · intro mapped
    obtain ⟨e, found, rfl⟩ := map_eq_some_iff.mp mapped
    have same := find?_some found
    rw [← eq_of_beq same]
    exact mem_reverse.mp (mem_of_find?_eq_some found)
  · intro mem
    refine mapOf_eq mem fun e there key => ?_
    rw [inj_on_of_nodup_map nodup there mem key]

theorem setIfAbsent_keys (nodup : (map.map (·.1)).Nodup) (entry : Id × α) :
    ((setIfAbsent map entry).map (·.1)).Nodup := by
  unfold setIfAbsent
  split
  · exact nodup
  · next absent =>
    rw [map_append, map_singleton]
    refine List.nodup_append.mpr ⟨nodup, nodup_singleton _, ?_⟩
    rintro key held _ here rfl
    obtain ⟨e, mem, same⟩ := List.mem_map.mp held
    refine absent (List.any_eq_true.mpr ⟨e, mem, beq_iff_eq.mpr ?_⟩)
    exact same.trans (mem_singleton.mp here)

theorem find?_setIfAbsent (entry : Id × α) : (setIfAbsent map entry).find? (fun e => e.1 == id) =
    (map.find? fun e => e.1 == id).or (if entry.1 == id then some entry else none) := by
  unfold setIfAbsent
  split
  · next held =>
    split
    · next same =>
      obtain ⟨e, mem, key⟩ := List.any_eq_true.mp held
      have there : (map.find? fun e => e.1 == id).isSome = true :=
        find?_isSome.mpr ⟨e, mem, beq_iff_eq.mpr ((eq_of_beq key).trans (eq_of_beq same))⟩
      obtain ⟨first, found⟩ := isSome_iff_exists.mp there
      rw [found]
      rfl
    · rw [or_none]
  · rw [find?_append, find?_singleton]

theorem foldl_setIfAbsent_keys (nodup : (map.map (·.1)).Nodup) :
    ((entries.foldl setIfAbsent map).map (·.1)).Nodup := by
  induction entries generalizing map with
  | nil => exact nodup
  | cons entry rest ih => exact ih (setIfAbsent_keys nodup entry)

theorem find?_foldl_setIfAbsent : (entries.foldl setIfAbsent map).find? (fun e => e.1 == id) =
    (map.find? fun e => e.1 == id).or (entries.find? fun e => e.1 == id) := by
  induction entries generalizing map with
  | nil => rw [foldl_nil, find?_nil, or_none]
  | cons entry rest ih =>
    rw [foldl_cons, ih, find?_setIfAbsent, find?_cons, Option.or_assoc]
    congr 1
    cases entry.1 == id <;> rfl

end Maps

theorem fromToMap_keys (relations : List EntityRelation) :
    ((fromToMap relations).map (·.1)).Nodup :=
  foldl_setIfAbsent_keys nodup_nil

theorem find?_fromToMap (relations : List EntityRelation) (id : Id) :
    (fromToMap relations).find? (fun e => e.1 == id) =
      (relations.find? fun r => r.fromInstanceId == id).map
        fun r => (r.fromInstanceId, r.toInstanceId) := by
  unfold fromToMap
  rw [find?_foldl_setIfAbsent, find?_nil, none_or, find?_map]
  rfl

/-! ## What the resolvers work out -/

def assignType (lookups : List ParsedLookup) (relationType : String) (targetFields values : Fields) :
    Fields :=
  (lookups.filter fun l => l.relationType == relationType).foldl
    (fun values l => l.assign targetFields values) values

def lookUp (lookups : List ParsedLookup) (chosen : String → Option Fields) (values : Fields) :
    Fields :=
  (relationTypes lookups).foldl (fun values relationType =>
    (chosen relationType).elim values fun targetFields =>
      assignType lookups relationType targetFields values) values

/-- The fields of a live record. -/
def Db.liveFields (db : Db) (tenantId id : Id) : Option Fields :=
  (db.entityInstances.find? (EntityInstance.isLive tenantId id)).map (·.fields)

/-- The relation that the query for one record gives. -/
def RowOrder.firstOf (order : RowOrder) (db : Db) (tenantId instanceId : Id) (relationType : String) :
    Option EntityRelation :=
  (order.rows (db.entityRelations.filter fun r =>
    r.fromInstanceId == instanceId && r.isAlong tenantId relationType)).head?

def RowOrder.firstIn (order : RowOrder) (db : Db) (tenantId : Id) (instanceIds : List Id)
    (instanceId : Id) (relationType : String) : Option EntityRelation :=
  (order.rows (db.entityRelations.filter fun r =>
    instanceIds.contains r.fromInstanceId && r.isAlong tenantId relationType)).find?
      fun r => r.fromInstanceId == instanceId

section Resolvers

variable (order : RowOrder) (db : Db) (tenantId : Id)

theorem resolveLookupFields_eq (instanceId : Id) (fields : List EntityField) (values : Fields) :
    resolveLookupFields order db tenantId instanceId fields values =
      lookUp (parseLookupFields fields) (fun relationType =>
        (order.firstOf db tenantId instanceId relationType).bind fun r =>
          db.liveFields tenantId r.toInstanceId) values := by
  unfold resolveLookupFields lookUp
  dsimp only
  split
  · next none' =>
    rw [List.isEmpty_iff.mp none']
    rfl
  · congr 1
    funext result relationType
    unfold RowOrder.firstOf Db.liveFields
    cases (order.rows _).head? with
    | none => rfl
    | some relation =>
      rw [bind_some]
      dsimp only
      cases db.entityInstances.find? (EntityInstance.isLive tenantId relation.toInstanceId) with
      | none => rfl
      | some target =>
        rw [map_some, elim_some]
        unfold assignType
        dsimp only
        rw [foldl_filter]
        congr 1
        funext values l
        cases same : l.relationType == relationType with
        | true => rw [bne, same]; rfl
        | false => rw [bne, same]; rfl

theorem foldl_entries (targetFieldsById : Id → Option Fields) (assign : Fields → Fields → Fields)
    {entries : List (Id × Id)} (nodup : (entries.map (·.1)).Nodup) (map : Id → Option Fields)
    (id : Id) :
    entries.foldl (fun map entry =>
      match targetFieldsById entry.2 with
      | none => map
      | some targetFields =>
        match map entry.1 with
        | none => map
        | some values => Function.update map entry.1 (some (assign targetFields values))) map id =
      (map id).map fun values =>
        ((entries.find? fun e => e.1 == id).bind fun e => targetFieldsById e.2).elim values
          fun targetFields => assign targetFields values := by
  induction entries generalizing map with
  | nil =>
    rw [foldl_nil]
    cases map id <;> rfl
  | cons entry rest ih =>
    obtain ⟨absent, nodup⟩ := nodup_cons.mp nodup
    rw [foldl_cons, ih nodup, find?_cons]
    by_cases same : entry.1 = id
    · subst same
      have others : rest.find? (fun e => e.1 == entry.1) = none := find?_eq_none.mpr
        fun e mem key => absent (List.mem_map.mpr ⟨e, mem, eq_of_beq key⟩)
      rw [others, beq_self_eq_true]
      dsimp only [bind_some, bind_none]
      cases targetFieldsById entry.2 with
      | none => rfl
      | some targetFields =>
        dsimp only
        cases found : map entry.1 with
        | none => simp [found]
        | some values => simp
    · rw [beq_eq_false_iff_ne.mpr same]
      dsimp only
      congr 1
      cases targetFieldsById entry.2 with
      | none => rfl
      | some targetFields =>
        dsimp only
        cases map entry.1 with
        | none => rfl
        | some values => exact Function.update_of_ne (Ne.symm same) _ _

variable {db} in
theorem mapOf_targets (keyed : db.Keyed) {tenantId toId : Id} {toIds : List Id} (mem : toId ∈ toIds) :
    mapOf ((db.entityInstances.filter fun t =>
        toIds.contains t.id && t.tenantId == tenantId && t.deletedAt == none).map
          fun t => (t.id, t.fields)) toId = db.liveFields tenantId toId := by
  have distinct : (((db.entityInstances.filter fun t =>
      toIds.contains t.id && t.tenantId == tenantId && t.deletedAt == none).map
        fun t => (t.id, t.fields)).map (·.1)).Nodup := by
    rw [List.map_map]
    exact keyed.sublist (filter_sublist.map _)
  have chosen (t : EntityInstance) :
      (toIds.contains t.id && t.tenantId == tenantId && t.deletedAt == none) ∧ t.id = toId ↔
        t.isLive tenantId toId := by
    unfold EntityInstance.isLive EntityInstance.isOf
    simp only [Bool.and_eq_true, beq_iff_eq, contains_iff_mem]
    constructor
    · rintro ⟨⟨⟨-, tenant⟩, live⟩, named⟩
      exact ⟨⟨named, tenant⟩, live⟩
    · rintro ⟨⟨named, tenant⟩, live⟩
      exact ⟨⟨⟨named ▸ mem, tenant⟩, live⟩, named⟩
  apply ext
  intro fields
  rw [mapOf_eq_some_iff distinct, Db.liveFields, map_eq_some_iff, List.mem_map]
  constructor
  · rintro ⟨t, filtered, pair⟩
    obtain ⟨memT, selected⟩ := mem_filter.mp filtered
    obtain ⟨named, rfl⟩ := Prod.mk.inj pair
    have live := (chosen t).mp ⟨selected, named⟩
    obtain ⟨found, eq⟩ := isSome_iff_exists.mp (find?_isSome.mpr ⟨t, memT, live⟩)
    have named' := ((chosen found).mpr (find?_some eq)).2
    exact ⟨found, eq, by rw [keyed.eq (mem_of_find?_eq_some eq) memT (named'.trans named.symm)]⟩
  · rintro ⟨t, found, rfl⟩
    obtain ⟨selected, named⟩ := (chosen t).mpr (find?_some found)
    exact ⟨t, mem_filter.mpr ⟨mem_of_find?_eq_some found, selected⟩, by rw [named]⟩

theorem resolveType_apply (keyed : db.Keyed) (instanceIds : List Id) (lookups : List ParsedLookup)
    (resultMap : Id → Option Fields) (relationType : String) (id : Id) :
    resolveType order db tenantId instanceIds lookups resultMap relationType id =
      (resultMap id).map fun values =>
        ((order.firstIn db tenantId instanceIds id relationType).bind fun r =>
          db.liveFields tenantId r.toInstanceId).elim values fun targetFields =>
            assignType lookups relationType targetFields values := by
  unfold resolveType
  refine (foldl_entries _ (assignType lookups relationType) (fromToMap_keys _) _ _).trans ?_
  congr 1
  funext values
  congr 1
  unfold RowOrder.firstIn
  generalize order.rows _ = relations
  have entry := find?_fromToMap relations id
  cases first : (fromToMap relations).find? fun e => e.1 == id with
  | none =>
    rw [first] at entry
    rw [map_eq_none_iff.mp entry.symm]
    rfl
  | some e =>
    rw [first] at entry
    obtain ⟨r, found, rfl⟩ := map_eq_some_iff.mp entry.symm
    rw [found, bind_some, bind_some]
    refine mapOf_targets keyed (mem_eraseDups.mpr ?_)
    exact List.mem_map.mpr ⟨_, mem_of_find?_eq_some first, rfl⟩

theorem resolveLookupFieldsBatch_eq (keyed : db.Keyed) (instances : List (Id × Fields))
    (fields : List EntityField) (id : Id) :
    resolveLookupFieldsBatch order db tenantId instances fields id =
      (mapOf instances id).map (lookUp (parseLookupFields fields) fun relationType =>
        (order.firstIn db tenantId (instances.map (·.1)) id relationType).bind fun r =>
          db.liveFields tenantId r.toInstanceId) := by
  have types (ts : List String) (resultMap : Id → Option Fields) :
      ts.foldl (resolveType order db tenantId (instances.map (·.1)) (parseLookupFields fields))
        resultMap id = (resultMap id).map fun values => ts.foldl (fun values relationType =>
          ((order.firstIn db tenantId (instances.map (·.1)) id relationType).bind fun r =>
            db.liveFields tenantId r.toInstanceId).elim values fun targetFields =>
              assignType (parseLookupFields fields) relationType targetFields values) values := by
    induction ts generalizing resultMap with
    | nil =>
      rw [foldl_nil]
      exact (congrFun Option.map_id _).symm
    | cons type rest ih =>
      rw [foldl_cons, ih, resolveType_apply order db tenantId keyed, Option.map_map]
      rfl
  unfold resolveLookupFieldsBatch
  split
  · next none' =>
    rw [List.isEmpty_iff.mp none']
    exact (congrFun Option.map_id _).symm
  · split
    · next empty =>
      rw [List.isEmpty_iff.mp empty]
      rfl
    · exact types _ _

end Resolvers

/-! ## The value of one field -/

section Value

variable {lookups : List ParsedLookup} {chosen : String → Option Fields} {values : Fields}

theorem get_foldl_assign (targetFields : Fields) {ls : List ParsedLookup}
    (nodup : (ls.map (·.fieldName)).Nodup) (name : String) :
    (ls.foldl (fun values l => l.assign targetFields values) values).get name =
      ((ls.find? fun l => l.fieldName == name).elim (values.get name) fun l =>
        some ((targetFields.get l.targetField).getD .null)) := by
  induction ls generalizing values with
  | nil => rfl
  | cons l rest ih =>
    obtain ⟨absent, nodup⟩ := nodup_cons.mp nodup
    rw [foldl_cons, ih nodup, find?_cons]
    by_cases same : l.fieldName = name
    · subst same
      have others : rest.find? (fun o => o.fieldName == l.fieldName) = none :=
        find?_eq_none.mpr fun o mem key =>
          absent (List.mem_map.mpr ⟨o, mem, eq_of_beq key⟩)
      rw [others, beq_self_eq_true]
      exact Fields.get_set_self _ _ _
    · rw [beq_eq_false_iff_ne.mpr same]
      dsimp only
      congr 1
      exact Fields.get_set_ne _ _ (Ne.symm same)

theorem get_assignType (nodup : (lookups.map (·.fieldName)).Nodup) {l : ParsedLookup}
    (mem : l ∈ lookups) (relationType : String) (targetFields : Fields) :
    (assignType lookups relationType targetFields values).get l.fieldName =
      if l.relationType = relationType then some ((targetFields.get l.targetField).getD .null)
      else values.get l.fieldName := by
  have distinct : ((lookups.filter fun l => l.relationType == relationType).map
      (·.fieldName)).Nodup := nodup.sublist (filter_sublist.map _)
  unfold assignType
  rw [get_foldl_assign targetFields distinct]
  have one {o : ParsedLookup} (there : o ∈ lookups) (same : o.fieldName = l.fieldName) : o = l :=
    inj_on_of_nodup_map nodup there mem same
  split
  · next type =>
    have held : l ∈ lookups.filter fun l => l.relationType == relationType :=
      mem_filter.mpr ⟨mem, beq_iff_eq.mpr type⟩
    have some' : ((lookups.filter fun l => l.relationType == relationType).find? fun o =>
        o.fieldName == l.fieldName).isSome = true :=
      find?_isSome.mpr ⟨l, held, beq_self_eq_true l.fieldName⟩
    obtain ⟨o, found⟩ := isSome_iff_exists.mp some'
    have there := (mem_filter.mp (mem_of_find?_eq_some found)).1
    have named := find?_some found
    rw [found, one there (eq_of_beq named)]
    rfl
  · next other =>
    rw [find?_eq_none.mpr]
    · rfl
    · intro o filtered same
      obtain ⟨there, type⟩ := mem_filter.mp filtered
      rw [one there (eq_of_beq same)] at type
      exact other (eq_of_beq type)

theorem get_lookUp (nodup : (lookups.map (·.fieldName)).Nodup) {l : ParsedLookup}
    (mem : l ∈ lookups) :
    (lookUp lookups chosen values).get l.fieldName =
      (chosen l.relationType).elim (values.get l.fieldName) fun targetFields =>
        some ((targetFields.get l.targetField).getD .null) := by
  have through {types : List String} (values : Fields) : (types.foldl (fun values relationType =>
      (chosen relationType).elim values fun targetFields =>
        assignType lookups relationType targetFields values) values).get l.fieldName =
      if l.relationType ∈ types then
        (chosen l.relationType).elim (values.get l.fieldName) fun targetFields =>
          some ((targetFields.get l.targetField).getD .null)
      else values.get l.fieldName := by
    induction types generalizing values with
    | nil => rfl
    | cons type rest ih =>
      have first : ((chosen type).elim values fun targetFields =>
          assignType lookups type targetFields values).get l.fieldName =
            if l.relationType = type then (chosen type).elim (values.get l.fieldName)
              fun targetFields => some ((targetFields.get l.targetField).getD .null)
            else values.get l.fieldName := by
        cases chosen type with
        | none => rw [elim_none, elim_none, ite_self]
        | some targetFields => exact get_assignType nodup mem type targetFields
      rw [foldl_cons, ih, first]
      by_cases same : l.relationType = type
      · subst same
        rw [if_pos rfl, if_pos mem_cons_self]
        cases chosen l.relationType with
        | none => simp
        | some targetFields => simp
      · rw [if_neg same]
        simp only [mem_cons, same, false_or]
  unfold lookUp
  rw [through, if_pos]
  exact mem_eraseDups.mpr (List.mem_map_of_mem mem)

end Value

end OpenWind
