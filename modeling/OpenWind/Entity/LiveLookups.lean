import OpenWind.Entity.Lookups
import OpenWind.Entity.Mirrors

/-!
# Lookups and deleted relations

A lookup field should show what an active relation leads to.  The resolvers read the deleted rows
as well, so that they are right for as long as a row that a lookup follows is deleted with its
record only.
-/

open List Bool

namespace OpenWind

open Txn

/-- The fields that a type declares, under distinct names. -/
structure DeclaredFields where
  fields : List EntityField
  unique : (fields.map (·.name)).Nodup

def DeclaredFields.lookups (declared : DeclaredFields) : List ParsedLookup :=
  parseLookupFields declared.fields

theorem parseLookupField_name {field : EntityField} {l : ParsedLookup}
    (parsed : parseLookupField field = some l) : l.fieldName = field.name := by
  unfold parseLookupField at parsed
  split at parsed
  · cases parsed
  · split at parsed
    · cases parsed
      rfl
    · cases parsed

theorem DeclaredFields.distinct (declared : DeclaredFields) :
    (declared.lookups.map (·.fieldName)).Nodup := by
  have names : declared.lookups.map (·.fieldName) =
      (declared.fields.filter fun f => (parseLookupField f).isSome).map (·.name) := by
    unfold lookups parseLookupFields
    induction declared.fields with
    | nil => rfl
    | cons field rest ih =>
      cases parsed : parseLookupField field with
      | none =>
        rw [filterMap_cons_none parsed, filter_cons_of_neg (by rw [parsed]; simp), ih]
      | some l =>
        rw [filterMap_cons_some parsed, filter_cons_of_pos (by rw [parsed]; rfl),
          map_cons, map_cons, ih, parseLookupField_name parsed]
  rw [names]
  exact declared.unique.sublist (filter_sublist.map _)

/-! ## What the resolvers owe -/

structure Db.ActiveAlong (db : Db) (row : EntityInstance) (l : ParsedLookup) (r : EntityRelation) :
    Prop where
  mem : r ∈ db.entityRelations
  leaves : r.fromInstanceId = row.id
  along : r.isAlong row.tenantId l.relationType = true
  active : r.deletedAt = none

def Db.lookedUp (db : Db) (tenantId : Id) (l : ParsedLookup) (r : EntityRelation) : Option Json :=
  (db.liveFields tenantId r.toInstanceId).map fun targetFields =>
    (targetFields.get l.targetField).getD .null

def Db.Reflects (db : Db) (row : EntityInstance) (lookups : List ParsedLookup) (values : Fields) :
    Prop :=
  ∀ l ∈ lookups, (∃ r, db.ActiveAlong row l r ∧
      values.get l.fieldName = (db.lookedUp row.tenantId l r).or (row.fields.get l.fieldName)) ∨
    (∀ r, ¬ db.ActiveAlong row l r) ∧ values.get l.fieldName = row.fields.get l.fieldName

def Db.IsPage (db : Db) (tenantId entityTypeId : Id) (page : List EntityInstance) : Prop :=
  ∀ row ∈ page, row ∈ db.entityInstances ∧ row.deletedAt = none ∧ row.tenantId = tenantId ∧
    row.entityTypeId = entityTypeId

section Owed

variable (declared : Id → Id → DeclaredFields)

def resolveOne (order : RowOrder) (db : Db) (row : EntityInstance) : Fields :=
  resolveLookupFields order db row.tenantId row.id (declared row.tenantId row.entityTypeId).fields
    row.fields

def resolvePage (order : RowOrder) (db : Db) (tenantId entityTypeId : Id)
    (page : List EntityInstance) : Id → Option Fields :=
  resolveLookupFieldsBatch order db tenantId (page.map fun row => (row.id, row.fields))
    (declared tenantId entityTypeId).fields

structure Db.LookupsLive (db : Db) : Prop where
  one : ∀ (order : RowOrder), ∀ row ∈ db.entityInstances, row.deletedAt = none →
    db.Reflects row (declared row.tenantId row.entityTypeId).lookups (resolveOne declared order db row)
  batch : ∀ (order : RowOrder) (tenantId entityTypeId : Id) (page : List EntityInstance),
    db.IsPage tenantId entityTypeId page → ∀ row ∈ page, ∃ values,
      resolvePage declared order db tenantId entityTypeId page row.id = some values ∧
        db.Reflects row (declared tenantId entityTypeId).lookups values
  agree : ∀ (order order' : RowOrder) (tenantId entityTypeId : Id) (page : List EntityInstance),
    db.IsPage tenantId entityTypeId page → ∀ row ∈ page,
      (∀ l ∈ (declared tenantId entityTypeId).lookups, ∀ r r', db.ActiveAlong row l r →
        db.ActiveAlong row l r' → r = r') →
      resolvePage declared order db tenantId entityTypeId page row.id =
        some (resolveOne declared order' db row)

/-! ## The invariant -/

def Db.Follows (db : Db) (r : EntityRelation) : Prop :=
  ∃ row ∈ db.entityInstances, row.id = r.fromInstanceId ∧ row.tenantId = r.tenantId ∧
    ∃ l ∈ (declared row.tenantId row.entityTypeId).lookups, l.relationType = r.relationType.text

structure Db.LookupsKept (db : Db) : Prop where
  keyed : db.Keyed
  relations : Tables.entityRelations.Keyed db
  ends : ∀ r ∈ db.entityRelations, db.HasRecord r.tenantId r.fromInstanceId
  kept : ∀ r ∈ db.entityRelations, db.Follows declared r → r.deletedAt ≠ none →
    db.DeletedAs r.fromInstanceId r.deletedAt

end Owed

variable {declared : Id → Id → DeclaredFields} {db db' : Db} {row : EntityInstance}

section

variable (kept : db.LookupsKept declared) (mem : row ∈ db.entityInstances)
  (live : row.deletedAt = none)

include kept mem live

theorem Db.LookupsKept.activeAlong {l : ParsedLookup}
    (looks : l ∈ (declared row.tenantId row.entityTypeId).lookups) {r : EntityRelation}
    (memR : r ∈ db.entityRelations) (leaves : r.fromInstanceId = row.id)
    (along : r.isAlong row.tenantId l.relationType) : db.ActiveAlong row l r := by
  refine ⟨memR, leaves, along, ?_⟩
  obtain ⟨tenant, type⟩ := and_eq_true_iff.mp along
  have follows : db.Follows declared r :=
    ⟨row, mem, leaves.symm, (eq_of_beq tenant).symm, l, looks, (eq_of_beq type).symm⟩
  by_contra deleted
  have dated := kept.kept r memR follows deleted
  rw [leaves] at dated
  exact deleted (dated.unique kept.keyed ⟨row, mem, rfl, live⟩)

theorem Db.LookupsKept.firstOf {l : ParsedLookup}
    (looks : l ∈ (declared row.tenantId row.entityTypeId).lookups) (order : RowOrder) :
    (∃ r, order.firstOf db row.tenantId row.id l.relationType = some r ∧ db.ActiveAlong row l r) ∨
      order.firstOf db row.tenantId row.id l.relationType = none ∧
        ∀ r, ¬ db.ActiveAlong row l r := by
  have same := order.perm (db.entityRelations.filter fun r =>
    r.fromInstanceId == row.id && r.isAlong row.tenantId l.relationType)
  cases found : order.firstOf db row.tenantId row.id l.relationType with
  | none =>
    refine .inr ⟨rfl, fun r active => ?_⟩
    have listed : r ∈ db.entityRelations.filter fun r =>
        r.fromInstanceId == row.id && r.isAlong row.tenantId l.relationType :=
      mem_filter.mpr ⟨active.mem, and_eq_true_iff.mpr ⟨beq_iff_eq.mpr active.leaves, active.along⟩⟩
    have given := same.mem_iff.mpr listed
    rw [head?_eq_none_iff.mp found] at given
    cases given
  | some r =>
    obtain ⟨memR, selected⟩ := mem_filter.mp (same.mem_iff.mp (mem_of_head? found))
    obtain ⟨leaves, along⟩ := and_eq_true_iff.mp selected
    exact .inl ⟨r, rfl, kept.activeAlong mem live looks memR (eq_of_beq leaves) along⟩

theorem Db.LookupsKept.firstIn {l : ParsedLookup}
    (looks : l ∈ (declared row.tenantId row.entityTypeId).lookups) (order : RowOrder)
    {instanceIds : List Id} (asked : row.id ∈ instanceIds) :
    (∃ r, order.firstIn db row.tenantId instanceIds row.id l.relationType = some r ∧
        db.ActiveAlong row l r) ∨
      order.firstIn db row.tenantId instanceIds row.id l.relationType = none ∧
        ∀ r, ¬ db.ActiveAlong row l r := by
  have same := order.perm (db.entityRelations.filter fun r =>
    instanceIds.contains r.fromInstanceId && r.isAlong row.tenantId l.relationType)
  cases found : order.firstIn db row.tenantId instanceIds row.id l.relationType with
  | none =>
    refine .inr ⟨rfl, fun r active => ?_⟩
    have listed : r ∈ db.entityRelations.filter fun r =>
        instanceIds.contains r.fromInstanceId && r.isAlong row.tenantId l.relationType := by
      refine mem_filter.mpr ⟨active.mem, and_eq_true_iff.mpr ⟨?_, active.along⟩⟩
      rw [active.leaves]
      exact contains_iff_mem.mpr asked
    exact find?_eq_none.mp found r (same.mem_iff.mpr listed) (beq_iff_eq.mpr active.leaves)
  | some r =>
    have leaves := find?_some found
    obtain ⟨memR, selected⟩ :=
      mem_filter.mp (same.mem_iff.mp (mem_of_find?_eq_some found))
    obtain ⟨-, along⟩ := and_eq_true_iff.mp selected
    exact .inl ⟨r, rfl, kept.activeAlong mem live looks memR (eq_of_beq leaves) along⟩

end

theorem Db.reflects_lookUp {lookups : List ParsedLookup} {choose : String → Option EntityRelation}
    (distinct : (lookups.map (·.fieldName)).Nodup)
    (chosen : ∀ l ∈ lookups, (∃ r, choose l.relationType = some r ∧ db.ActiveAlong row l r) ∨
      choose l.relationType = none ∧ ∀ r, ¬ db.ActiveAlong row l r) :
    db.Reflects row lookups (lookUp lookups (fun type => (choose type).bind fun r =>
      db.liveFields row.tenantId r.toInstanceId) row.fields) := by
  intro l mem
  rw [get_lookUp distinct mem]
  rcases chosen l mem with ⟨r, found, active⟩ | ⟨found, inactive⟩
  · refine .inl ⟨r, active, ?_⟩
    rw [found, Option.bind_some, lookedUp]
    cases db.liveFields row.tenantId r.toInstanceId <;> rfl
  · refine .inr ⟨inactive, ?_⟩
    rw [found]
    rfl

theorem lookUp_congr {lookups : List ParsedLookup} {chosen chosen' : String → Option Fields}
    (same : ∀ l ∈ lookups, chosen l.relationType = chosen' l.relationType) (values : Fields) :
    lookUp lookups chosen values = lookUp lookups chosen' values := by
  unfold lookUp
  refine foldl_ext _ _ _ fun values type mem => ?_
  obtain ⟨l, memL, rfl⟩ := mem_map.mp (mem_eraseDups.mp mem)
  rw [same l memL]

theorem Db.LookupsKept.live (kept : db.LookupsKept declared) : db.LookupsLive declared := by
  have paged {tenantId entityTypeId : Id} {page : List EntityInstance}
      (isPage : db.IsPage tenantId entityTypeId page) {row : EntityInstance} (mem : row ∈ page)
      (order : RowOrder) : resolvePage declared order db tenantId entityTypeId page row.id =
        some (lookUp (declared tenantId entityTypeId).lookups (fun type =>
          (order.firstIn db tenantId (page.map (·.id)) row.id type).bind fun r =>
            db.liveFields tenantId r.toInstanceId) row.fields) := by
    have held : mapOf (page.map fun row => (row.id, row.fields)) row.id = some row.fields := by
      refine mapOf_eq (mem_map_of_mem mem) fun e there key => ?_
      obtain ⟨other, memOther, rfl⟩ := mem_map.mp there
      rw [kept.keyed.eq (isPage other memOther).1 (isPage row mem).1 key]
    unfold resolvePage
    rw [resolveLookupFieldsBatch_eq order db tenantId kept.keyed, held, map_map]
    rfl
  refine ⟨fun order row mem live => ?_, fun order tenantId entityTypeId page isPage row mem => ?_,
    fun order order' tenantId entityTypeId page isPage row mem most => ?_⟩
  · unfold resolveOne
    rw [resolveLookupFields_eq]
    exact Db.reflects_lookUp (DeclaredFields.distinct _)
      fun l looks => kept.firstOf mem live looks order
  · obtain ⟨there, live, rfl, rfl⟩ := isPage row mem
    exact ⟨_, paged isPage mem order, Db.reflects_lookUp (DeclaredFields.distinct _)
      fun l looks => kept.firstIn there live looks order (mem_map_of_mem mem)⟩
  · obtain ⟨there, live, rfl, rfl⟩ := isPage row mem
    rw [paged isPage mem order]
    unfold resolveOne
    rw [resolveLookupFields_eq]
    congr 1
    refine lookUp_congr (fun l looks => ?_) row.fields
    rcases kept.firstIn there live looks order (mem_map_of_mem mem) with
      ⟨r, found, active⟩ | ⟨found, inactive⟩
    · rcases kept.firstOf there live looks order' with ⟨r', found', active'⟩ | ⟨-, inactive⟩
      · rw [found, found', most l looks r r' active active']
      · exact absurd active (inactive r)
    · rcases kept.firstOf there live looks order' with ⟨r', -, active'⟩ | ⟨found', -⟩
      · exact absurd active' (inactive r')
      · rw [found, found']

/-! ## The writes -/

theorem Db.LookupsKept.redate (kept : db.LookupsKept declared) {f : EntityInstance → EntityInstance}
    {g : EntityRelation → EntityRelation}
    (instances : db'.entityInstances = db.entityInstances.map f)
    (same : ∀ row, (f row).id = row.id ∧ (f row).tenantId = row.tenantId ∧
      (f row).entityTypeId = row.entityTypeId ∧
      ((f row).deletedAt = none → row.deletedAt = none))
    (relations : db'.entityRelations = db.entityRelations.map g)
    (redates : EntityRelation.Redates g)
    (deleted : ∀ r ∈ db.entityRelations, db.Follows declared r → (g r).deletedAt ≠ none →
      db'.DeletedAs r.fromInstanceId (g r).deletedAt) : db'.LookupsKept declared := by
  have records := SameRecords.of_map instances fun row =>
    ⟨(same row).1, (same row).2.1, (same row).2.2.2⟩
  have mem {r' : EntityRelation} (mem' : r' ∈ db'.entityRelations) :
      ∃ r ∈ db.entityRelations, g r = r' := by
    rw [relations] at mem'
    exact mem_map.mp mem'
  refine ⟨records.keyed kept.keyed, ?_, fun r' mem' => ?_, fun r' mem' follows gone => ?_⟩
  · exact kept.relations.of_map relations fun r => congrArg (LockKey.row .entityRelations) (redates.id r)
  · obtain ⟨r, memR, rfl⟩ := mem mem'
    rw [redates.tenantId, redates.source]
    exact records.records _ _ (kept.ends r memR)
  · obtain ⟨r, memR, rfl⟩ := mem mem'
    rw [redates.source]
    refine deleted r memR ?_ gone
    obtain ⟨row', mapped, named, tenant, l, looks, type⟩ := follows
    rw [instances] at mapped
    obtain ⟨row, memRow, rfl⟩ := mem_map.mp mapped
    rw [(same row).1, redates.source] at named
    rw [(same row).2.1, redates.tenantId] at tenant
    rw [(same row).2.1, (same row).2.2.1] at looks
    rw [redates.type] at type
    exact ⟨row, memRow, named, tenant, l, looks, type⟩

theorem SameHierarchy.lookupsKept (same : SameHierarchy db db') (kept : db.LookupsKept declared) :
    db'.LookupsKept declared := by
  refine kept.redate (same.instances.trans (map_id _).symm)
    (fun _ => ⟨rfl, rfl, rfl, id⟩)
    (same.relations.trans (map_id _).symm) (fun _ => rfl) fun r mem follows gone => ?_
  obtain ⟨row, memRow, dated⟩ := kept.kept r mem follows gone
  exact ⟨row, same.instances ▸ memRow, dated⟩

section

variable (kept : db.LookupsKept declared)

include kept

theorem Db.LookupsKept.deleteRelations (p : EntityRelation → Bool)
    (now : Time) (free : ∀ r ∈ db.entityRelations, p r → ¬ db.Follows declared r) :
    (db.deleteRelations p now).LookupsKept declared := by
  refine @Db.LookupsKept.redate _ _ (db.deleteRelations p now) kept id
    (fun r => if p r then r.delete now else r) (map_id _).symm
    (fun _ => ⟨rfl, rfl, rfl, id⟩) rfl (.ite p _ (EntityRelation.redates_delete now))
    fun r mem follows gone => ?_
  have other : ¬ p r := fun chosen => free r mem chosen follows
  rw [if_neg other] at gone ⊢
  exact kept.kept r mem follows gone

theorem Db.LookupsKept.append {rows : List EntityRelation}
    (fresh : Tables.entityRelations.fresh rows db)
    (active : ∀ r ∈ rows, db.HasRecord r.tenantId r.fromInstanceId ∧ r.deletedAt = none) :
    (Tables.entityRelations.append rows db).LookupsKept declared := by
  refine ⟨kept.keyed, kept.relations.append fresh, fun r mem => ?_, fun r mem follows gone => ?_⟩
  · rcases mem_append.mp mem with old | new
    · exact kept.ends r old
    · exact (active r new).1
  · rcases mem_append.mp mem with old | new
    · exact kept.kept r old follows gone
    · exact absurd (active r new).2 gone

theorem Db.LookupsKept.grow {fresh : List EntityInstance}
    (instances : db'.entityInstances = db.entityInstances ++ fresh) (unused : db.Unused fresh)
    (relations : db'.entityRelations = db.entityRelations) : db'.LookupsKept declared := by
  have evolves := Evolves.of_append instances unused
  refine ⟨evolves.keyed kept.keyed, kept.relations.of_rows relations, fun r mem => ?_,
    fun r mem follows gone => ?_⟩
  · rw [relations] at mem
    obtain ⟨row, memRow, named⟩ := kept.ends r mem
    exact ⟨row, evolves.kept memRow, named⟩
  · rw [relations] at mem
    have before : db.Follows declared r := by
      obtain ⟨row, memRow, named, rest⟩ := follows
      rw [instances] at memRow
      rcases mem_append.mp memRow with old | new
      · exact ⟨row, old, named, rest⟩
      · obtain ⟨other, memOther, named', -⟩ := kept.ends r mem
        exact absurd (named'.trans named.symm) (unused.2 row new other memOther)
    obtain ⟨row, memRow, dated⟩ := kept.kept r mem before gone
    exact ⟨row, evolves.kept memRow, dated⟩

theorem Db.LookupsKept.markTree {tenantId rootId : Id}
    {ids : List Id} {now : Time}
    (whole : ∀ r ∈ db.entityRelations, r.inTree tenantId rootId ids none →
      db.Follows declared r → r.fromInstanceId ∈ ids ∧ db.DeletedAs r.fromInstanceId none) :
    (db.markTree tenantId rootId ids none (some now)).LookupsKept declared := by
  have same (row : EntityInstance) :
      (if row.isAmong tenantId ids none then row.setDeletedAt (some now) else row).id = row.id ∧
        (if row.isAmong tenantId ids none then row.setDeletedAt (some now) else row).tenantId =
          row.tenantId ∧
        (if row.isAmong tenantId ids none then row.setDeletedAt (some now) else row).entityTypeId =
          row.entityTypeId ∧
        ((if row.isAmong tenantId ids none then row.setDeletedAt (some now) else row).deletedAt =
          none → row.deletedAt = none) := by
    split
    · exact ⟨rfl, rfl, rfl, nofun⟩
    · exact ⟨rfl, rfl, rfl, id⟩
  have tenant {r : EntityRelation} (mem : r ∈ db.entityRelations) {row : EntityInstance}
      (memRow : row ∈ db.entityInstances) (named : row.id = r.fromInstanceId) :
      row.tenantId = r.tenantId := by
    obtain ⟨other, memOther, named', own⟩ := kept.ends r mem
    rw [kept.keyed.eq memRow memOther (named.trans named'.symm), own]
  refine @Db.LookupsKept.redate _ _ (db.markTree tenantId rootId ids none (some now)) kept
    (fun row => if row.isAmong tenantId ids none then row.setDeletedAt (some now) else row)
    (fun r => if r.inTree tenantId rootId ids none then r.setDeletedAt (some now) else r) rfl same rfl
    (.ite _ _ (EntityRelation.redates_setDeletedAt (some now))) fun r mem follows gone => ?_
  by_cases chosen : r.inTree tenantId rootId ids none = true
  · rw [if_pos chosen] at gone ⊢
    obtain ⟨inside, row, memRow, named, dated⟩ := whole r mem chosen follows
    have own := (tenant mem memRow named).trans (EntityRelation.inTree_iff.mp chosen).1
    have marked : row.isAmong tenantId ids none := by
      unfold EntityInstance.isAmong
      simp only [and_eq_true, beq_iff_eq, contains_iff_mem]
      exact ⟨⟨own, named ▸ inside⟩, dated⟩
    refine ⟨_, mem_map_of_mem memRow, (same row).1.trans named, ?_⟩
    rw [if_pos marked]
    rfl
  · rw [if_neg chosen] at gone ⊢
    obtain ⟨row, memRow, named, dated⟩ := kept.kept r mem follows gone
    have other : ¬ row.isAmong tenantId ids none := by
      unfold EntityInstance.isAmong
      simp only [and_eq_true, beq_iff_eq, contains_iff_mem]
      rintro ⟨⟨own, inside⟩, date⟩
      exact chosen (EntityRelation.inTree_iff.mpr ⟨(tenant mem memRow named).symm.trans own,
        dated.symm.trans date, .inl (named ▸ inside)⟩)
    exact ⟨row, mem_map.mpr ⟨row, memRow, if_neg other⟩, named, dated⟩

end

/-! ## The calls -/

section Calls

variable {tenantId : Id}

theorem Db.LookupsKept.createRelation (kept : db.LookupsKept declared) {input : CreateRelationInput}
    {supply : EntitySupply} {r : EntityRelation}
    (ran : (OpenWind.createRelation tenantId input supply).exec db = .ok (r, db')) :
    db'.LookupsKept declared := by
  obtain ⟨⟨row, mem, live⟩, ⟨tenant, source, active⟩, fresh, same⟩ := createRelation_cases ran
  have record := (EntityInstance.dated_of_isLive mem live).1
  refine same.lookupsKept (kept.append fresh fun r' new => ?_)
  rw [mem_singleton.mp new, tenant, source]
  exact ⟨record, active⟩

variable {supply : EntitySupply} {pair : List EntityRelation} {bound : Nat} {instanceId : Id}

section

variable (kept : db.LookupsKept declared)

include kept

theorem Db.LookupsKept.createReference {input : CreateReferenceLinkInput}
    (ran : (createReferenceLink tenantId input supply).exec db = .ok (pair, db')) :
    db'.LookupsKept declared := by
  obtain ⟨⟨row, mem, live⟩, ⟨row', mem', live'⟩, -, rfl, fresh, same⟩ :=
    createReferenceLink_cases ran
  refine same.lookupsKept (kept.append fresh fun r new => ?_)
  rcases mem_pair.mp new with rfl | rfl
  · exact ⟨(EntityInstance.dated_of_isLive mem live).1, rfl⟩
  · exact ⟨(EntityInstance.dated_of_isLive mem' live').1, rfl⟩

theorem Db.LookupsKept.link
    {parentId childId parentOfId childOfId : Id}
    (fresh : Tables.entityRelations.fresh
      (relationPair tenantId parentId childId parentOfId childOfId) db)
    (parent : db.HasRecord tenantId parentId) (child : db.HasRecord tenantId childId) :
    (Tables.entityRelations.append (relationPair tenantId parentId childId parentOfId childOfId)
      db).LookupsKept declared := by
  refine kept.append fresh fun r new => ?_
  rcases mem_pair.mp new with rfl | rfl
  · exact ⟨parent, rfl⟩
  · exact ⟨child, rfl⟩

theorem Db.LookupsKept.createChild {rules : FieldRules} {input : CreateChildRelationInput}
    (ran : (createChildRelation rules tenantId input supply).exec db = .ok (row, db')) :
    db'.LookupsKept declared := by
  obtain ⟨parent, workflowId, mid, -, takes, -, rfl, unused, effect, fresh, rfl⟩ :=
    createChildRelation_cases ran
  obtain ⟨⟨old, memOld, named, own⟩, -⟩ := EntityInstance.dated takes.mem takes.selected
  have instances := effect.instances
  have grown := kept.grow instances unused effect.definitions.relations
  refine grown.link fresh ⟨old, ?_, named, own⟩ ⟨_, ?_, rfl, rfl⟩
  · rw [instances]
    exact mem_append_left _ memOld
  · rw [instances]
    exact mem_append_right _ mem_cons_self

theorem Db.LookupsKept.unlinked {childId : Id} {now : Time}
    (free : ∀ r ∈ db.entityRelations, r.ofChild tenantId childId → ¬ db.Follows declared r) :
    (db.unlinked tenantId childId now).LookupsKept declared := by
  have first := kept.deleteRelations (EntityRelation.isChildOf tenantId childId) now
    fun r mem child => free r mem (or_eq_true_iff.mpr (.inl child))
  unfold Db.unlinked
  split
  next => exact first
  next link found =>
    have chosen : link.isParentLink tenantId childId := find?_some found
    have memLink := mem_of_find?_eq_some found
    have before := Db.mem_of_deleteRelations memLink
      (EntityRelation.isParentLink_iff.mp chosen).2.2.1
    refine first.deleteRelations _ now fun r mem named => ?_
    rw [first.relations.eq mem memLink (congrArg (LockKey.row .entityRelations) (eq_of_beq named))]
    exact free link before.1 (or_eq_true_iff.mpr (.inr chosen))

theorem Db.LookupsKept.move {input : MoveChildRelationInput}
    (free : ∀ r ∈ db.entityRelations, r.ofChild tenantId input.childId → ¬ db.Follows declared r)
    (ran : (moveChildRelation tenantId input supply bound).exec db = .ok (pair, db')) :
    db'.LookupsKept declared := by
  have unlinked : (db.unlinked tenantId input.childId supply.startedAt).LookupsKept declared :=
    kept.unlinked free
  obtain ⟨child, mem, selected, alive, ⟨-, rfl⟩ |
    ⟨parent, _, _, -, takes, -, -, -, -, fresh, rfl, rfl⟩⟩ := moveChildRelation_cases ran
  · refine @Db.LookupsKept.redate _ _ _ unlinked (fun row =>
      if row.isOf tenantId input.childId then row.detach supply.startedAt else row) id rfl
      (fun row => ?_) (map_id _).symm (fun _ => rfl) fun r memR follows gone => ?_
    · split <;> exact ⟨rfl, rfl, rfl, id⟩
    · obtain ⟨row, memRow, named, dated⟩ := unlinked.kept r memR follows gone
      refine ⟨_, mem_map_of_mem memRow, ?_, ?_⟩
      · split <;> exact named
      · split <;> exact dated
  · refine unlinked.link fresh (EntityInstance.dated takes.mem takes.selected).1 ?_
    unfold Db.HasRecord
    rw [db.unlinked_instances tenantId input.childId supply.startedAt]
    exact (EntityInstance.dated mem selected).1

theorem Db.LookupsKept.deleteReference {relationId : Id}
    {actorId : Option String} {u : Unit}
    (free : ∀ link ∈ db.entityRelations, link.isReference tenantId relationId →
      ∀ r ∈ db.entityRelations, EntityRelation.ofLink tenantId link r → ¬ db.Follows declared r)
    (ran : (deleteReferenceLink tenantId relationId actorId supply).exec db = .ok (u, db')) :
    db'.LookupsKept declared := by
  obtain ⟨link, memLink, chosen, same⟩ := deleteReferenceLink_cases ran
  exact same.lookupsKept (kept.deleteRelations _ _ (free link memLink chosen))

theorem Db.LookupsKept.deleteRelation {relationId : Id}
    {actorId : Option String} {supply : EntitySupply} {u : Unit}
    (free : ∀ r ∈ db.entityRelations, r.id = relationId → r.tenantId = tenantId →
      ¬ db.Follows declared r)
    (ran : (OpenWind.deleteRelation tenantId relationId actorId supply).exec db = .ok (u, db')) :
    db'.LookupsKept declared := by
  obtain ⟨⟨found, memFound, named, tenant⟩, same⟩ := deleteRelation_cases ran
  refine same.lookupsKept (kept.deleteRelations _ _ fun r mem chosen => ?_)
  obtain rfl := kept.relations.eq mem memFound (congrArg (LockKey.row .entityRelations)
    ((eq_of_beq chosen).trans named.symm))
  exact free r mem named tenant

end

def Db.TakesWhole (declared : Id → Id → DeclaredFields) (db : Db) (tenantId instanceId : Id)
    (bound : Nat) : Prop :=
  ∀ ids, Worklist.collect (db.childIds tenantId) bound [instanceId] [] = some ids →
    ∀ r ∈ db.entityRelations, r.inTree tenantId instanceId (instanceId :: ids) none = true →
      db.Follows declared r →
        r.fromInstanceId ∈ instanceId :: ids ∧ db.DeletedAs r.fromInstanceId none

theorem Db.LookupsKept.archive (kept : db.LookupsKept declared) {confirm : Bool}
    {result : ArchiveResult} (whole : db.TakesWhole declared tenantId instanceId bound)
    (ran : (archiveEntity tenantId instanceId confirm supply bound).exec db = .ok (result, db')) :
    db'.LookupsKept declared := by
  rcases archiveEntity_cases ran with rfl | ⟨row, ids, -, -, collected, rfl⟩
  · exact kept
  · exact @SameHierarchy.lookupsKept _ (db.markTree tenantId instanceId (instanceId :: ids) none
      (some supply.now)) _ ⟨rfl, rfl, rfl⟩ (kept.markTree (whole ids collected))

end Calls

/-! ## Runs -/

/-- The calls that write relations, or hide them. -/
inductive RelationCall
  | createRelation (tenantId : Id) (input : CreateRelationInput) (supply : EntitySupply)
  | link (call : LinkCall)

def RelationCall.commit (db : Db) : RelationCall → Db
  | createRelation tenantId input supply =>
    (OpenWind.createRelation tenantId input supply).commit db
  | link call => call.commit db

def RelationCall.step (db : Db) (call : RelationCall) : Option Db := some (call.commit db)

def RelationCall.KeepsLookups (declared : Id → Id → DeclaredFields) (db : Db) : RelationCall → Prop
  | link (.moveChildRelation tenantId input _ _) =>
    ∀ r ∈ db.entityRelations, r.ofChild tenantId input.childId = true → ¬ db.Follows declared r
  | link (.deleteReferenceLink tenantId relationId _ _) =>
    ∀ link ∈ db.entityRelations, link.isReference tenantId relationId = true →
      ∀ r ∈ db.entityRelations, EntityRelation.ofLink tenantId link r = true →
        ¬ db.Follows declared r
  | link (.deleteRelation tenantId relationId _ _) =>
    ∀ r ∈ db.entityRelations, r.id = relationId → r.tenantId = tenantId → ¬ db.Follows declared r
  | link (.archiveEntity tenantId instanceId _ _ bound) =>
    db.TakesWhole declared tenantId instanceId bound
  | _ => True

theorem RelationCall.kept {call : RelationCall} (kept : db.LookupsKept declared)
    (keeps : call.KeepsLookups declared db) (stepped : call.step db = some db') :
    db'.LookupsKept declared := by
  cases stepped
  cases call with
  | createRelation => exact Tx.commit_of kept kept.createRelation
  | link call =>
    cases call with
    | createChildRelation => exact Tx.commit_of kept kept.createChild
    | moveChildRelation => exact Tx.commit_of kept (kept.move keeps)
    | createReferenceLink => exact Tx.commit_of kept kept.createReference
    | deleteReferenceLink => exact Tx.commit_of kept (kept.deleteReference keeps)
    | deleteRelation => exact Tx.commit_of kept (kept.deleteRelation keeps)
    | archiveEntity => exact Tx.commit_of kept (kept.archive keeps)
    | restoreEntity =>
      change ((OpenWind.restoreEntity _ _ _).commit db).LookupsKept declared
      rw [restoreEntity_commit]
      exact kept

/-- Along a run whose calls keep the lookups, both resolvers give what they owe. -/
theorem lookups_live {calls : List RelationCall} (kept : db.LookupsKept declared)
    (guarded : Runs.Guarded RelationCall.step (RelationCall.KeepsLookups declared) db calls) :
    Runs.Always RelationCall.step (Db.LookupsLive declared) db calls :=
  guarded.always (fun kept keeps stepped => RelationCall.kept kept keeps stepped)
    Db.LookupsKept.live kept

theorem Db.LookupsKept.of_none (keyed : db.Keyed) (none : db.entityRelations = []) :
    db.LookupsKept declared := by
  refine ⟨keyed, .of_nil none, ?_, ?_⟩
  · rw [none]
    exact fun _ mem => absurd mem not_mem_nil
  · rw [none]
    exact fun _ mem => absurd mem not_mem_nil

/-! ### An owner -/

/-- The name of the record's owner. -/
def ownerName : DeclaredFields where
  fields := [{ id := 1, entityTypeId := 1, tenantId := some 1, name := "ownerName"
               fieldType := .lookup
               config := [("relationType", .str "owner"), ("targetField", .str "name")] }]
  unique := nodup_singleton _

/-- A record, and one that can own it. -/
def ownedDb : Db where
  workflows := [{ id := 1, tenantId := some 1, entityTypeId := 1, initialState := "open" }]
  entityInstances :=
    [{ id := 10, entityTypeId := 1, tenantId := 1, workflowId := some 1, createdAt := 0, updatedAt := 0 },
      { id := 20, entityTypeId := 1, tenantId := 1, workflowId := some 1
        fields := [("name", .str "Ada")], createdAt := 0, updatedAt := 0 }]

def ownCreate : RelationCall := .createRelation 1 ⟨10, 20, .other "owner", none⟩ (linkSupply 100)

theorem ownedDb_kept : ownedDb.LookupsKept fun _ _ => ownerName := by
  have distinct : (ownedDb.entityInstances.map (·.id)).Nodup := by decide
  exact .of_none distinct rfl

def RelationCall.keepsOwner (db : Db) : RelationCall → Bool
  | createRelation .. => true
  | link (.createReferenceLink ..) => true
  | link (.deleteReferenceLink tenantId relationId _ _) => db.entityRelations.all fun r =>
      r.relationType.text != "owner" || db.entityRelations.all fun link =>
        !(link.isReference tenantId relationId && EntityRelation.ofLink tenantId link r)
  | link (.archiveEntity _ instanceId _ _ _) => db.entityRelations.all fun r =>
      r.relationType.text != "owner" || r.fromInstanceId == instanceId &&
        db.entityInstances.any fun row => row.id == instanceId && row.deletedAt == none
  | _ => false

theorem RelationCall.KeepsLookups.of_check {call : RelationCall} (checked : call.keepsOwner db) :
    call.KeepsLookups (fun _ _ => ownerName) db := by
  have owner {r : EntityRelation} (follows : db.Follows (fun _ _ => ownerName) r) :
      ¬ (r.relationType.text != "owner") = true := by
    obtain ⟨_, -, -, -, l, looks, type⟩ := follows
    obtain rfl : l = ⟨"ownerName", "owner", "name"⟩ := mem_singleton.mp looks
    simp [← type]
  unfold keepsOwner at checked
  split at checked
  · exact trivial
  · exact trivial
  · intro link memLink reference r mem ofLink follows
    have other := (or_eq_true_iff.mp (all_eq_true.mp checked r mem)).resolve_left (owner follows)
    have apart := all_eq_true.mp other link memLink
    rw [reference, ofLink] at apart
    cases apart
  · intro ids _ r mem _ follows
    have whole := (or_eq_true_iff.mp (all_eq_true.mp checked r mem)).resolve_left (owner follows)
    obtain ⟨leaves, live⟩ := and_eq_true_iff.mp whole
    obtain ⟨row, memRow, facts⟩ := any_eq_true.mp live
    simp only [and_eq_true, beq_iff_eq] at facts leaves
    exact ⟨leaves ▸ mem_cons_self, row, memRow, facts.1.trans leaves.symm, facts.2⟩
  · cases checked

/-- A reference link comes and goes beside the owner, and the record is archived with the row of
its owner. -/
theorem lookups_live_archived :
    Runs.Always RelationCall.step (Db.LookupsLive fun _ _ => ownerName) ownedDb
      [ownCreate, .link (.createReferenceLink 1 ⟨10, 20, none⟩ (linkSupply 200)),
        .link (.deleteReferenceLink 1 200 none (linkSupply 300)),
        .link (.archiveEntity 1 10 true (linkSupply 400) 5)] :=
  lookups_live ownedDb_kept
    (Runs.Guarded.of_check (fun checked => RelationCall.KeepsLookups.of_check checked)
      (by decide +kernel))

/-- The relation is deleted, and the record still shows its owner. -/
theorem lookup_of_deleted_relation :
    ¬ Runs.Always RelationCall.step (Db.LookupsLive fun _ _ => ownerName) ownedDb
      [ownCreate, .link (.deleteRelation 1 100 none (linkSupply 200))] := by
  intro always
  have reached : (Runs.run RelationCall.step ownedDb
      [ownCreate, .link (.deleteRelation 1 100 none (linkSupply 200))]).any (fun db =>
        db.entityRelations.all (fun r => r.deletedAt != none) &&
          db.entityInstances.any fun row => row.deletedAt == none &&
            (row.fields.get "ownerName").isNone &&
            ((resolveOne (fun _ _ => ownerName) ⟨id, fun _ => .refl _⟩ db row).get
              "ownerName").isSome) = true := by
    decide +kernel
  obtain ⟨db, ran, found⟩ := (Option.any_eq_true _ _).mp reached
  obtain ⟨deleted, found⟩ := and_eq_true_iff.mp found
  obtain ⟨row, mem, facts⟩ := any_eq_true.mp found
  simp only [and_eq_true, beq_iff_eq] at facts
  obtain ⟨⟨live, empty⟩, shown⟩ := facts
  have owed := (always.last ran).one ⟨id, fun _ => .refl _⟩ row mem live
    ⟨"ownerName", "owner", "name"⟩ mem_cons_self
  rcases owed with ⟨r, active, -⟩ | ⟨-, stored⟩
  · exact bne_iff_ne.mp (all_eq_true.mp deleted r active.mem) active.active
  · rw [stored, Option.isNone_iff_eq_none.mp empty] at shown
    cases shown

end OpenWind
