import OpenWind.Entity.Archive
import OpenWind.Entity.References
import OpenWind.Entity.Calls

/-!
# Links and their mirrors

A link is two rows, one from each of its records.  Archiving a record hides the rows that it
anchors, and a child anchors both rows of its link.
-/

open List

namespace OpenWind

open Txn

/-! ## Rows and their records -/

/-- The type of the rows that mirror those of a link. -/
def RelationType.mirror : RelationType → Option RelationType
  | parentOf => some childOf
  | childOf => some parentOf
  | other name =>
    if other name = relationReferences then some relationReferencedBy
    else if other name = relationReferencedBy then some relationReferences
    else none

/-- The rows of one of the two kinds of links. -/
def RelationType.IsLink (type : RelationType) : Prop := type.mirror ≠ none

def RelationType.Places (type : RelationType) : Prop := type = .parentOf ∨ type = .childOf

def EntityRelation.Mirrors (r m : EntityRelation) : Prop :=
  m.tenantId = r.tenantId ∧ m.fromInstanceId = r.toInstanceId ∧ m.toInstanceId = r.fromInstanceId ∧
    r.relationType.mirror = some m.relationType

def EntityRelation.anchor (r : EntityRelation) : Id :=
  if r.relationType = .parentOf then r.toInstanceId else r.fromInstanceId

/-- The record whose archiving hides the mirror of the row. -/
def EntityRelation.farAnchor (r : EntityRelation) : Id :=
  if r.relationType = .childOf then r.fromInstanceId else r.toInstanceId

def Db.HasRecord (db : Db) (tenantId id : Id) : Prop :=
  ∃ row ∈ db.entityInstances, row.id = id ∧ row.tenantId = tenantId

def Db.DeletedAs (db : Db) (id : Id) (deletedAt : Option Time) : Prop :=
  ∃ row ∈ db.entityInstances, row.id = id ∧ row.deletedAt = deletedAt

def Db.LiveRecord (db : Db) (tenantId id : Id) : Prop :=
  db.HasRecord tenantId id ∧ db.DeletedAs id none

def Db.Archived (db : Db) (id : Id) : Prop := ∃ deletedAt, db.DeletedAs id (some deletedAt)

def EntityRelation.Rivals (r r' : EntityRelation) : Prop :=
  r'.relationType = r.relationType ∧ r'.tenantId = r.tenantId ∧
    r'.toInstanceId = r.toInstanceId ∧
    (r.relationType = .parentOf ∨ r.relationType ≠ .childOf ∧ r'.fromInstanceId = r.fromInstanceId)

/-- The active rows of the given types are those of whole links. -/
structure Db.LinksSound (db : Db) (types : RelationType → Prop) : Prop where
  keyed : db.Keyed
  relations : Tables.entityRelations.Keyed db
  live : ∀ r ∈ db.entityRelations, types r.relationType → r.deletedAt = none →
    db.LiveRecord r.tenantId r.anchor
  mirrored : ∀ r ∈ db.entityRelations, types r.relationType → r.deletedAt = none →
    (∃ m ∈ db.entityRelations, r.Mirrors m ∧ m.deletedAt = none) ∨ db.Archived r.farAnchor
  single : ∀ r ∈ db.entityRelations, ∀ r' ∈ db.entityRelations, types r.relationType →
    r.Rivals r' → r.deletedAt = none → r'.deletedAt = none → r' = r

theorem RelationType.mirror_mirror {type type' : RelationType} (mirrors : type.mirror = some type') :
    type'.mirror = some type := by
  cases type with
  | parentOf => cases mirrors; rfl
  | childOf => cases mirrors; rfl
  | other name =>
    unfold mirror at mirrors
    by_cases references : other name = relationReferences
    · rw [references] at mirrors ⊢
      cases mirrors
      rfl
    · by_cases referencedBy : other name = relationReferencedBy
      · rw [referencedBy] at mirrors ⊢
        cases mirrors
        rfl
      · simp only [if_neg references, if_neg referencedBy] at mirrors
        cases mirrors

theorem EntityRelation.Mirrors.symm {r m : EntityRelation} (mirrors : r.Mirrors m) : m.Mirrors r :=
  ⟨mirrors.1.symm, mirrors.2.2.1.symm, mirrors.2.1.symm, RelationType.mirror_mirror mirrors.2.2.2⟩

theorem RelationType.mirror_ne {type : RelationType} : type.mirror ≠ some type := by
  intro self
  cases type with
  | parentOf => cases self
  | childOf => cases self
  | other name =>
    unfold mirror at self
    by_cases references : other name = relationReferences
    · rw [references] at self
      exact absurd self (by decide)
    · by_cases referencedBy : other name = relationReferencedBy
      · rw [referencedBy] at self
        exact absurd self (by decide)
      · simp only [if_neg references, if_neg referencedBy] at self
        cases self

theorem EntityRelation.Rivals.symm {r r' : EntityRelation} (rivals : r.Rivals r') : r'.Rivals r := by
  obtain ⟨type, tenant, target, parent | ⟨other, source⟩⟩ := rivals
  · exact ⟨type.symm, tenant.symm, target.symm, .inl (type.trans parent)⟩
  · exact ⟨type.symm, tenant.symm, target.symm, .inr ⟨type ▸ other, source.symm⟩⟩

theorem EntityRelation.isActive_iff {tenantId : Id} {type : RelationType} {r : EntityRelation} :
    r.isActive tenantId type ↔
      r.tenantId = tenantId ∧ r.relationType = type ∧ r.deletedAt = none := by
  unfold isActive
  simp only [Bool.and_eq_true, beq_iff_eq, and_assoc]

section Anchors

variable {r m : EntityRelation}

theorem EntityRelation.anchor_parentOf (type : r.relationType = .parentOf) :
    r.anchor = r.toInstanceId := if_pos type

theorem EntityRelation.anchor_of_ne (type : r.relationType ≠ .parentOf) :
    r.anchor = r.fromInstanceId := if_neg type

theorem EntityRelation.anchor_childOf (type : r.relationType = .childOf) :
    r.anchor = r.fromInstanceId := anchor_of_ne (by rw [type]; exact nofun)

theorem EntityRelation.farAnchor_childOf (type : r.relationType = .childOf) :
    r.farAnchor = r.fromInstanceId := if_pos type

theorem EntityRelation.farAnchor_of_ne (type : r.relationType ≠ .childOf) :
    r.farAnchor = r.toInstanceId := if_neg type

theorem EntityRelation.farAnchor_eq (places : r.relationType.Places) : r.farAnchor = r.anchor := by
  rcases places with type | type
  · rw [anchor_parentOf type, farAnchor_of_ne (by rw [type]; exact nofun)]
  · rw [anchor_childOf type, farAnchor_childOf type]

theorem EntityRelation.Mirrors.anchor (mirrors : r.Mirrors m) : m.anchor = r.farAnchor := by
  obtain ⟨-, source, target, type⟩ := mirrors
  by_cases childOf : r.relationType = .childOf
  · rw [childOf] at type
    rw [anchor_parentOf (Option.some.inj type).symm, farAnchor_childOf childOf, target]
  · rw [anchor_of_ne, farAnchor_of_ne childOf, source]
    intro parentOf
    rw [parentOf] at type
    exact childOf (Option.some.inj (RelationType.mirror_mirror type)).symm

theorem EntityRelation.Mirrors.isLink (mirrors : r.Mirrors m) : r.relationType.IsLink :=
  Option.ne_none_iff_exists'.mpr ⟨_, mirrors.2.2.2⟩

theorem EntityRelation.Mirrors.places (mirrors : r.Mirrors m) (places : r.relationType.Places) :
    m.relationType.Places := by
  have mirror := mirrors.2.2.2
  rcases places with type | type <;> rw [type] at mirror
  · exact .inr (Option.some.inj mirror).symm
  · exact .inl (Option.some.inj mirror).symm

end Anchors

section Sound

variable {r : EntityRelation} {db db' : Db} {types : RelationType → Prop}

theorem Db.DeletedAs.unique (keyed : db.Keyed) {id : Id} {one two : Option Time}
    (first : db.DeletedAs id one) (second : db.DeletedAs id two) : one = two := by
  obtain ⟨row, mem, named, rfl⟩ := first
  obtain ⟨row', mem', named', rfl⟩ := second
  rw [keyed.eq mem mem' (named.trans named'.symm)]

theorem Db.DeletedAs.not_archived (keyed : db.Keyed) {id : Id} (live : db.DeletedAs id none) :
    ¬ db.Archived id := fun ⟨_, gone⟩ => absurd (live.unique keyed gone) nofun

theorem Db.LinksSound.row_eq (sound : db.LinksSound types) {r r' : EntityRelation}
    (mem : r ∈ db.entityRelations) (mem' : r' ∈ db.entityRelations) (same : r.id = r'.id) :
    r = r' :=
  sound.relations.eq mem mem' (congrArg (LockKey.row .entityRelations) same)

theorem Db.LinksSound.mirror (sound : db.LinksSound types) (mem : r ∈ db.entityRelations)
    (counted : types r.relationType) (active : r.deletedAt = none)
    (live : db.DeletedAs r.farAnchor none) :
    ∃ m ∈ db.entityRelations, r.Mirrors m ∧ m.deletedAt = none :=
  (sound.mirrored r mem counted active).resolve_right (live.not_archived sound.keyed)

theorem Db.LinksSound.pair (sound : db.LinksSound types) (mem : r ∈ db.entityRelations)
    (counted : types r.relationType) (places : r.relationType.Places) (active : r.deletedAt = none) :
    ∃ m ∈ db.entityRelations, r.Mirrors m ∧ m.deletedAt = none := by
  refine sound.mirror mem counted active ?_
  rw [EntityRelation.farAnchor_eq places]
  exact (sound.live r mem counted active).2

end Sound

variable {r : EntityRelation} {db db' : Db} {types : RelationType → Prop}

/-! ## Steps that rewrite rows -/

/-- The step changes nothing of a row but its deletion time. -/
def EntityRelation.Redates (g : EntityRelation → EntityRelation) : Prop :=
  ∀ r, g r = { r with deletedAt := (g r).deletedAt }

section Redates

variable {g : EntityRelation → EntityRelation}

theorem EntityRelation.Redates.id (redates : Redates g) (r : EntityRelation) : (g r).id = r.id := by
  rw [redates r]

theorem EntityRelation.Redates.tenantId (redates : Redates g) (r : EntityRelation) :
    (g r).tenantId = r.tenantId := by
  rw [redates r]

theorem EntityRelation.Redates.source (redates : Redates g) (r : EntityRelation) :
    (g r).fromInstanceId = r.fromInstanceId := by
  rw [redates r]

theorem EntityRelation.Redates.target (redates : Redates g) (r : EntityRelation) :
    (g r).toInstanceId = r.toInstanceId := by
  rw [redates r]

theorem EntityRelation.Redates.type (redates : Redates g) (r : EntityRelation) :
    (g r).relationType = r.relationType := by
  rw [redates r]

theorem EntityRelation.Redates.anchor (redates : Redates g) (r : EntityRelation) :
    (g r).anchor = r.anchor := by
  unfold EntityRelation.anchor
  rw [redates.type, redates.source, redates.target]

theorem EntityRelation.Redates.farAnchor (redates : Redates g) (r : EntityRelation) :
    (g r).farAnchor = r.farAnchor := by
  unfold EntityRelation.farAnchor
  rw [redates.type, redates.source, redates.target]

theorem EntityRelation.Redates.mirrors (redates : Redates g) {r m : EntityRelation} :
    (g r).Mirrors (g m) ↔ r.Mirrors m := by
  unfold Mirrors
  rw [redates.type, redates.source, redates.target, redates.tenantId, redates.type, redates.source,
    redates.target, redates.tenantId]

theorem EntityRelation.Redates.rivals (redates : Redates g) {r r' : EntityRelation} :
    (g r).Rivals (g r') ↔ r.Rivals r' := by
  unfold Rivals
  rw [redates.type, redates.source, redates.target, redates.tenantId, redates.type, redates.source,
    redates.target, redates.tenantId]

theorem EntityRelation.Redates.ite (p : EntityRelation → Bool) (f : EntityRelation → EntityRelation)
    (redates : Redates f) : Redates fun r => if p r then f r else r := by
  intro r
  by_cases selected : p r = true
  · simp only [selected, if_true]
    exact redates r
  · simp only [selected, Bool.false_eq_true, if_false]

theorem EntityRelation.redates_delete (now : Time) : Redates (EntityRelation.delete now) :=
  fun _ => rfl

theorem EntityRelation.redates_setDeletedAt (deletedAt : Option Time) :
    Redates (EntityRelation.setDeletedAt deletedAt) :=
  fun _ => rfl

end Redates

/-- The records are the same ones, and none comes back. -/
structure SameRecords (db db' : Db) : Prop where
  keyed : db.Keyed → db'.Keyed
  records : ∀ tenantId id, db.HasRecord tenantId id → db'.HasRecord tenantId id
  archived : ∀ id, db.Archived id → db'.Archived id

theorem SameRecords.of_map {f : EntityInstance → EntityInstance}
    (instances : db'.entityInstances = db.entityInstances.map f)
    (same : ∀ row, (f row).id = row.id ∧ (f row).tenantId = row.tenantId ∧
      ((f row).deletedAt = none → row.deletedAt = none)) : SameRecords db db' := by
  have kept {row : EntityInstance} (mem : row ∈ db.entityInstances) :
      f row ∈ db'.entityInstances := by
    rw [instances]
    exact mem_map_of_mem mem
  refine ⟨fun keyed => ?_, ?_, ?_⟩
  · unfold Db.Keyed at keyed ⊢
    have ids : (·.id) ∘ f = (·.id) := funext fun row => (same row).1
    rw [instances, map_map, ids]
    exact keyed
  · rintro tenantId id ⟨row, mem, rfl, rfl⟩
    exact ⟨f row, kept mem, (same row).1, (same row).2.1⟩
  · rintro id ⟨deletedAt, row, mem, rfl, gone⟩
    have still : (f row).deletedAt ≠ none := fun live => by
      rw [(same row).2.2 live] at gone
      cases gone
    obtain ⟨deletedAt', gone'⟩ := Option.ne_none_iff_exists'.mp still
    exact ⟨deletedAt', f row, kept mem, (same row).1, gone'⟩

theorem SameRecords.of_instances (instances : db'.entityInstances = db.entityInstances) :
    SameRecords db db' :=
  .of_map (instances.trans (map_id _).symm) fun _ => ⟨rfl, rfl, id⟩

theorem SameRecords.of_append {fresh : List EntityInstance}
    (instances : db'.entityInstances = db.entityInstances ++ fresh) (unused : db.Unused fresh) :
    SameRecords db db' := by
  have evolves := Evolves.of_append instances unused
  refine ⟨evolves.keyed, ?_, ?_⟩
  · rintro tenantId id ⟨row, mem, named⟩
    exact ⟨row, evolves.kept mem, named⟩
  · rintro id ⟨deletedAt, row, mem, named⟩
    exact ⟨deletedAt, row, evolves.kept mem, named⟩

theorem Db.LinksSound.hide {g : EntityRelation → EntityRelation} (sound : db.LinksSound types)
    (records : SameRecords db db') (relations : db'.entityRelations = db.entityRelations.map g)
    (redates : EntityRelation.Redates g)
    (only : ∀ r ∈ db.entityRelations, (g r).deletedAt = none → r.deletedAt = none)
    (live : ∀ r ∈ db.entityRelations, types r.relationType → (g r).deletedAt = none →
      db.LiveRecord r.tenantId r.anchor → db'.DeletedAs r.anchor none)
    (paired : ∀ r ∈ db.entityRelations, ∀ m ∈ db.entityRelations, types r.relationType →
      r.Mirrors m → m.deletedAt = none → (g r).deletedAt = none →
        (g m).deletedAt = none ∨ db'.Archived m.anchor) : db'.LinksSound types := by
  have mem {r' : EntityRelation} (mem' : r' ∈ db'.entityRelations) :
      ∃ r ∈ db.entityRelations, g r = r' := by
    rw [relations] at mem'
    exact mem_map.mp mem'
  refine ⟨records.keyed sound.keyed, ?_, ?_, ?_, ?_⟩
  · exact sound.relations.of_map relations fun r =>
      congrArg (LockKey.row .entityRelations) (redates.id r)
  · intro r' mem' counted active
    obtain ⟨r, memR, rfl⟩ := mem mem'
    rw [redates.type] at counted
    rw [redates.tenantId, redates.anchor]
    have before := sound.live r memR counted (only r memR active)
    exact ⟨records.records _ _ before.1, live r memR counted active before⟩
  · intro r' mem' counted active
    obtain ⟨r, memR, rfl⟩ := mem mem'
    rw [redates.type] at counted
    rw [redates.farAnchor]
    rcases sound.mirrored r memR counted (only r memR active) with ⟨m, memM, mirrors, activeM⟩ | gone
    · rcases paired r memR m memM counted mirrors activeM active with stays | gone
      · refine .inl ⟨g m, ?_, redates.mirrors.mpr mirrors, stays⟩
        rw [relations]
        exact mem_map_of_mem memM
      · exact .inr (mirrors.anchor ▸ gone)
    · exact .inr (records.archived _ gone)
  · intro r' mem' s' memS' counted rivals active active'
    obtain ⟨r, memR, rfl⟩ := mem mem'
    obtain ⟨s, memS, rfl⟩ := mem memS'
    rw [redates.type] at counted
    rw [sound.single r memR s memS counted (redates.rivals.mp rivals) (only r memR active)
      (only s memS active')]

theorem Db.LinksSound.of_live (sound : db.LinksSound types) (records : SameRecords db db')
    (relations : db'.entityRelations = db.entityRelations)
    (live : ∀ r ∈ db.entityRelations, types r.relationType → r.deletedAt = none →
      db.LiveRecord r.tenantId r.anchor → db'.DeletedAs r.anchor none) : db'.LinksSound types :=
  sound.hide (g := id) records (relations.trans (map_id _).symm) (fun _ => rfl)
    (fun _ _ active => active) live fun _ _ _ _ _ _ activeM _ => .inl activeM

theorem SameHierarchy.linksSound (same : SameHierarchy db db') (sound : db.LinksSound types) :
    db'.LinksSound types := by
  refine sound.of_live (.of_instances same.instances) same.relations fun r _ _ _ before => ?_
  unfold Db.DeletedAs
  rw [same.instances]
  exact before.2

theorem Db.LinksSound.deleteRelations (sound : db.LinksSound types) (p : EntityRelation → Bool)
    (now : Time)
    (paired : ∀ r ∈ db.entityRelations, ∀ m ∈ db.entityRelations, types r.relationType →
      r.Mirrors m → r.deletedAt = none → m.deletedAt = none → p m →
        p r ∨ db.Archived m.anchor) : (db.deleteRelations p now).LinksSound types := by
  have kept {r : EntityRelation} (active : (if p r then r.delete now else r).deletedAt = none) :
      ¬ p r = true ∧ r.deletedAt = none := by
    by_cases chosen : p r = true
    · rw [if_pos chosen] at active
      cases active
    · rw [if_neg chosen] at active
      exact ⟨chosen, active⟩
  refine sound.hide (.of_instances rfl) rfl (.ite p _ (EntityRelation.redates_delete now))
    (fun r _ active => (kept active).2) (fun _ _ _ _ before => before.2)
    fun r memR m memM counted mirrors activeM active => ?_
  obtain ⟨other, active⟩ := kept active
  by_cases chosen : p m = true
  · exact .inr ((paired r memR m memM counted mirrors active activeM chosen).resolve_left other)
  · rw [if_neg chosen]
    exact .inl activeM

/-- A store without relations. -/
theorem Db.LinksSound.of_none (keyed : db.Keyed) (none : db.entityRelations = []) :
    db.LinksSound types := by
  have empty {P : EntityRelation → Prop} : ∀ r ∈ db.entityRelations, P r := by
    rw [none]
    exact fun _ mem => absurd mem not_mem_nil
  exact ⟨keyed, .of_nil none, empty, empty, empty⟩

/-! ## New pairs -/

theorem Db.LinksSound.append (sound : db.LinksSound types) {r m : EntityRelation}
    (fresh : Tables.entityRelations.fresh [r, m] db) (mirrors : r.Mirrors m)
    (active : r.deletedAt = none ∧ m.deletedAt = none)
    (live : db.LiveRecord r.tenantId r.anchor) (live' : db.LiveRecord m.tenantId m.anchor)
    (free : ∀ old ∈ db.entityRelations, types old.relationType → r.Rivals old ∨ m.Rivals old →
      old.deletedAt ≠ none) : (Tables.entityRelations.append [r, m] db).LinksSound types := by
  have rows : (Tables.entityRelations.append [r, m] db).entityRelations =
      db.entityRelations ++ [r, m] := rfl
  have apart : r.relationType ≠ m.relationType :=
    fun same => RelationType.mirror_ne (same ▸ mirrors.2.2.2)
  have cases_ {x : EntityRelation} (mem : x ∈ db.entityRelations ++ [r, m]) :
      x ∈ db.entityRelations ∨ x = r ∨ x = m := by
    rcases mem_append.mp mem with old | new
    · exact .inl old
    · rcases mem_cons.mp new with rfl | new
      · exact .inr (.inl rfl)
      · exact .inr (.inr (mem_singleton.mp new))
  have counts {x y : EntityRelation} (rivals : x.Rivals y) (counted : types x.relationType) :
      types y.relationType := rivals.1 ▸ counted
  refine ⟨sound.keyed, sound.relations.append fresh, ?_, ?_, ?_⟩
  · intro x mem counted active
    rcases cases_ mem with old | rfl | rfl
    · exact sound.live x old counted active
    · exact live
    · exact live'
  · intro x mem counted activeX
    rw [rows]
    rcases cases_ mem with old | rfl | rfl
    · refine (sound.mirrored x old counted activeX).imp_left fun ⟨y, memY, mirrorsY⟩ => ?_
      exact ⟨y, mem_append_left _ memY, mirrorsY⟩
    · exact .inl ⟨m, mem_append_right _ (mem_cons_of_mem _ mem_cons_self), mirrors, active.2⟩
    · exact .inl ⟨r, mem_append_right _ mem_cons_self, mirrors.symm, active.1⟩
  · intro x memX y memY counted rivals activeX activeY
    rcases cases_ memX with oldX | rfl | rfl <;> rcases cases_ memY with oldY | rfl | rfl
    · exact sound.single x oldX y oldY counted rivals activeX activeY
    · exact absurd activeX (free x oldX counted (.inl rivals.symm))
    · exact absurd activeX (free x oldX counted (.inr rivals.symm))
    · exact absurd activeY (free y oldY (counts rivals counted) (.inl rivals))
    · rfl
    · exact absurd rivals.1.symm apart
    · exact absurd activeY (free y oldY (counts rivals counted) (.inr rivals))
    · exact absurd rivals.1 apart
    · rfl

theorem Db.LinksSound.link (sound : db.LinksSound types)
    {tenantId parentId childId parentOfId childOfId : Id} (fresh : Tables.entityRelations.fresh
      (relationPair tenantId parentId childId parentOfId childOfId) db)
    (child : db.LiveRecord tenantId childId)
    (free : ∀ old ∈ db.entityRelations, types .parentOf → old.relationType = .parentOf →
      old.tenantId = tenantId → old.toInstanceId = childId → old.deletedAt ≠ none) :
    (Tables.entityRelations.append (relationPair tenantId parentId childId parentOfId childOfId)
      db).LinksSound types := by
  refine sound.append fresh ⟨rfl, rfl, rfl, rfl⟩ ⟨rfl, rfl⟩ child child ?_
  rintro old mem counted (⟨type, tenant, target, -⟩ | ⟨-, -, -, parentOf | ⟨childOf, -⟩⟩)
  · have parentOf : old.relationType = .parentOf := type
    exact free old mem (parentOf ▸ counted) parentOf tenant target
  · cases parentOf
  · exact absurd rfl childOf

/-! ## Trees -/

structure Db.Tree (db : Db) (tenantId rootId : Id) (ids : List Id) : Prop where
  root : rootId ∈ ids
  live : ∀ id ∈ ids, db.LiveRecord tenantId id
  below : ∀ r ∈ db.entityRelations, r.relationType = .parentOf → r.tenantId = tenantId →
    r.deletedAt = none → r.fromInstanceId ∈ ids → r.toInstanceId ∈ ids
  linked : ∀ id ∈ ids, id = rootId ∨ ∃ r ∈ db.entityRelations, r.relationType = .parentOf ∧
    r.tenantId = tenantId ∧ r.deletedAt = none ∧ r.toInstanceId = id ∧ r.fromInstanceId ∈ ids

theorem EntityRelation.inTree_iff {tenantId rootId : Id} {ids : List Id} {before : Option Time} :
    r.inTree tenantId rootId ids before ↔
      r.tenantId = tenantId ∧ r.deletedAt = before ∧
        (r.fromInstanceId ∈ ids ∨ r.toInstanceId = rootId ∧ r.relationType = .parentOf) := by
  unfold inTree leaves parentsRoot
  simp only [Bool.or_eq_true, Bool.and_eq_true, beq_iff_eq, contains_iff_mem]
  constructor
  · rintro (⟨⟨tenant, source⟩, date⟩ | ⟨⟨⟨tenant, target⟩, type⟩, date⟩)
    · exact ⟨tenant, date, .inl source⟩
    · exact ⟨tenant, date, .inr ⟨target, type⟩⟩
  · rintro ⟨tenant, date, source | ⟨target, type⟩⟩
    · exact .inl ⟨⟨tenant, source⟩, date⟩
    · exact .inr ⟨⟨⟨tenant, target⟩, type⟩, date⟩

section Tree

variable {tenantId rootId : Id} {ids : List Id}

theorem Db.Tree.deletedAs_markTree (tree : db.Tree tenantId rootId ids) (keyed : db.Keyed)
    (now : Time) {id : Id} {deletedAt : Option Time} :
    (db.markTree tenantId rootId ids none (some now)).DeletedAs id deletedAt ↔
      id ∈ ids ∧ deletedAt = some now ∨ id ∉ ids ∧ db.DeletedAs id deletedAt := by
  have instances : (db.markTree tenantId rootId ids none (some now)).entityInstances =
      db.entityInstances.map fun row : EntityInstance =>
        if row.isAmong tenantId ids none then row.setDeletedAt (some now) else row := rfl
  have among {row : EntityInstance} (mem : row ∈ db.entityInstances) :
      row.isAmong tenantId ids none ↔ row.id ∈ ids := by
    unfold EntityInstance.isAmong
    simp only [Bool.and_eq_true, beq_iff_eq, contains_iff_mem]
    refine ⟨fun ⟨⟨_, listed⟩, _⟩ => listed, fun listed => ?_⟩
    obtain ⟨⟨row', mem', named, tenant⟩, dated⟩ := tree.live row.id listed
    obtain rfl := keyed.eq mem' mem named
    exact ⟨⟨tenant, listed⟩, Db.DeletedAs.unique keyed ⟨row', mem, rfl, rfl⟩ dated⟩
  unfold Db.DeletedAs
  rw [instances]
  constructor
  · rintro ⟨row', mem', rfl, rfl⟩
    obtain ⟨row, mem, rfl⟩ := mem_map.mp mem'
    by_cases listed : row.id ∈ ids
    · rw [if_pos ((among mem).mpr listed)]
      exact .inl ⟨listed, rfl⟩
    · rw [if_neg fun chosen => listed ((among mem).mp chosen)]
      exact .inr ⟨listed, row, mem, rfl, rfl⟩
  · rintro (⟨listed, rfl⟩ | ⟨outside, row, mem, rfl, rfl⟩)
    · obtain ⟨⟨row, mem, rfl, -⟩, -⟩ := tree.live id listed
      exact ⟨_, mem_map_of_mem mem, by rw [if_pos ((among mem).mpr listed)]; rfl,
        by rw [if_pos ((among mem).mpr listed)]; rfl⟩
    · exact ⟨row, mem_map.mpr ⟨row, mem, if_neg fun chosen => outside ((among mem).mp chosen)⟩,
        rfl, rfl⟩

theorem Db.Tree.marks (tree : db.Tree tenantId rootId ids) (mem : r ∈ db.entityRelations)
    (chosen : r.inTree tenantId rootId ids none) : r.anchor ∈ ids := by
  obtain ⟨tenant, active, reached⟩ := EntityRelation.inTree_iff.mp chosen
  by_cases type : r.relationType = .parentOf
  · rw [EntityRelation.anchor_parentOf type]
    rcases reached with source | ⟨target, -⟩
    · exact tree.below r mem type tenant active source
    · exact target ▸ tree.root
  · rw [EntityRelation.anchor_of_ne type]
    exact reached.resolve_right fun parent => type parent.2

theorem Db.LinksSound.inTree (sound : db.LinksSound types) (tree : db.Tree tenantId rootId ids)
    (mem : r ∈ db.entityRelations) (counted : types r.relationType) (active : r.deletedAt = none)
    (inside : r.anchor ∈ ids) : r.inTree tenantId rootId ids none := by
  obtain ⟨⟨row, memRow, named, own⟩, -⟩ := sound.live r mem counted active
  obtain ⟨⟨row', memRow', named', own'⟩, -⟩ := tree.live _ inside
  obtain rfl := sound.keyed.eq memRow memRow' (named.trans named'.symm)
  have tenant : r.tenantId = tenantId := own.symm.trans own'
  refine EntityRelation.inTree_iff.mpr ⟨tenant, active, ?_⟩
  by_cases type : r.relationType = .parentOf
  · rw [EntityRelation.anchor_parentOf type] at inside
    rcases tree.linked _ inside with root | ⟨link, memLink, typeLink, tenantLink, date, target, source⟩
    · exact .inr ⟨root, type⟩
    · have countedLink : types link.relationType := typeLink ▸ type ▸ counted
      rw [sound.single link memLink r mem countedLink ⟨type.trans typeLink.symm,
        tenant.trans tenantLink.symm, target.symm, .inl typeLink⟩ date active]
      exact .inl source
  · rw [EntityRelation.anchor_of_ne type] at inside
    exact .inl inside

theorem Db.LinksSound.markTree (sound : db.LinksSound types) (tree : db.Tree tenantId rootId ids)
    (now : Time) : (db.markTree tenantId rootId ids none (some now)).LinksSound types := by
  have kept {r : EntityRelation} (active : (if r.inTree tenantId rootId ids none then
      r.setDeletedAt (some now) else r).deletedAt = none) :
      ¬ r.inTree tenantId rootId ids none = true ∧ r.deletedAt = none := by
    by_cases chosen : r.inTree tenantId rootId ids none = true
    · rw [if_pos chosen] at active
      cases active
    · rw [if_neg chosen] at active
      exact ⟨chosen, active⟩
  refine sound.hide (.of_map rfl fun row => ?_) rfl
    (.ite _ _ (EntityRelation.redates_setDeletedAt _)) (fun r _ active => (kept active).2)
    (fun r mem counted active before => ?_) fun r mem m memM counted mirrors activeM active => ?_
  · by_cases chosen : row.isAmong tenantId ids none = true
    · rw [if_pos chosen]
      exact ⟨rfl, rfl, nofun⟩
    · rw [if_neg chosen]
      exact ⟨rfl, rfl, id⟩
  · obtain ⟨other, active⟩ := kept active
    have outside := fun inside => other (sound.inTree tree mem counted active inside)
    exact (tree.deletedAs_markTree sound.keyed now).mpr (.inr ⟨outside, before.2⟩)
  · by_cases chosen : m.inTree tenantId rootId ids none = true
    · exact .inr ⟨now, (tree.deletedAs_markTree sound.keyed now).mpr
        (.inl ⟨tree.marks memM chosen, rfl⟩)⟩
    · rw [if_neg chosen]
      exact .inl activeM

end Tree

end OpenWind
