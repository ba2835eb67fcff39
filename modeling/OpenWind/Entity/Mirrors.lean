import OpenWind.Entity.Links

/-!
# Links stay mirrored

Between two records that are not archived a row of a link should be active exactly when
its mirror is.
-/

open List Option

namespace OpenWind

open Txn EntityRelation RelationType EntityInstance Worklist

/-! ## Archiving -/

variable {db db' : Db} {child childId id instanceId tenantId : Id} {row : EntityInstance}
  {r : EntityRelation} {types : RelationType → Prop}

theorem Db.mem_childIds :
    child ∈ db.childIds tenantId id ↔ ∃ r ∈ db.entityRelations, r.relationType = .parentOf ∧
      r.tenantId = tenantId ∧ r.deletedAt = none ∧ r.fromInstanceId = id ∧
      r.toInstanceId = child := by
  unfold Db.childIds isParentOf
  simp only [List.mem_map, mem_filter, Bool.and_eq_true, isActive_iff, beq_iff_eq]
  constructor
  · rintro ⟨r, ⟨mem, ⟨tenant, type, date⟩, source⟩, target⟩
    exact ⟨r, mem, type, tenant, date, source, target⟩
  · rintro ⟨r, mem, type, tenant, date, source, target⟩
    exact ⟨r, ⟨mem, ⟨tenant, type, date⟩, source⟩, target⟩

theorem EntityInstance.dated (mem : row ∈ db.entityInstances)
    (selected : row.isOf tenantId instanceId) :
    db.HasRecord tenantId instanceId ∧ db.DeletedAs instanceId row.deletedAt := by
  obtain ⟨named, own⟩ := Bool.and_eq_true_iff.mp selected
  exact ⟨⟨row, mem, eq_of_beq named, eq_of_beq own⟩, row, mem, eq_of_beq named, rfl⟩

theorem EntityInstance.dated_of_isLive (mem : row ∈ db.entityInstances)
    (live : row.isLive tenantId instanceId) :
    db.HasRecord tenantId instanceId ∧ db.DeletedAs instanceId none := by
  have alive : row.deletedAt = none := eq_of_beq (Bool.and_eq_true_iff.mp live).2
  exact alive ▸ EntityInstance.dated mem (isOf_of_isLive live)

section Archive

variable {bound : Nat} {ids : List Id} {supply : EntitySupply}

theorem Db.LinksSound.activeTree (sound : db.LinksSound types) (children : types .parentOf)
    (mem : row ∈ db.entityInstances) (selected : row.isOf tenantId instanceId)
    (live : row.deletedAt = none)
    (found : collect (db.childIds tenantId) bound [instanceId] [] = some ids) :
    db.Tree tenantId instanceId (instanceId :: ids) := by
  obtain ⟨record, dated⟩ := EntityInstance.dated mem selected
  rw [live] at dated
  have step {parent child : Id} (child_ : child ∈ db.childIds tenantId parent) :
      db.LiveRecord tenantId child ∧ ∃ r ∈ db.entityRelations, r.relationType = .parentOf ∧
        r.tenantId = tenantId ∧ r.deletedAt = none ∧ r.toInstanceId = child ∧
        r.fromInstanceId = parent := by
    obtain ⟨r, memR, type, tenant, active, source, target⟩ := Db.mem_childIds.mp child_
    have alive := sound.live r memR (type ▸ children) active
    rw [tenant, anchor_parentOf type, target] at alive
    exact ⟨alive, r, memR, type, tenant, active, target, source⟩
  have reached {id : Id} (mem : id ∈ ids) :
      ∃ parent ∈ instanceId :: ids, id ∈ db.childIds tenantId parent := by
    cases (mem_collect found).mp mem with
    | single step => exact ⟨instanceId, mem_cons_self, step⟩
    | tail first step =>
      exact ⟨_, mem_cons_of_mem _ ((mem_collect found).mpr first), step⟩
  refine ⟨mem_cons_self, fun id listed => ?_, fun r memR type tenant active source => ?_,
    fun id listed => ?_⟩
  · rcases mem_cons.mp listed with rfl | below
    · exact ⟨record, dated⟩
    · obtain ⟨parent, -, child_⟩ := reached below
      exact (step child_).1
  · have child_ : r.toInstanceId ∈ db.childIds tenantId r.fromInstanceId :=
      Db.mem_childIds.mpr ⟨r, memR, type, tenant, active, rfl, rfl⟩
    refine mem_cons_of_mem _ ((mem_collect found).mpr ?_)
    rcases mem_cons.mp source with root | below
    · exact .single (root ▸ child_)
    · exact ((mem_collect found).mp below).tail child_
  · rcases mem_cons.mp listed with rfl | below
    · exact .inl rfl
    · obtain ⟨parent, inside, child_⟩ := reached below
      obtain ⟨-, r, memR, type, tenant, active, target, source⟩ := step child_
      exact .inr ⟨r, memR, type, tenant, active, target, source ▸ inside⟩

theorem Db.LinksSound.archive (sound : db.LinksSound types) (children : types .parentOf)
    {confirm : Bool} {result : ArchiveResult}
    (ran : (archiveEntity tenantId instanceId confirm supply bound).exec db = .ok (result, db')) :
    db'.LinksSound types := by
  rcases archiveEntity_cases ran with rfl | ⟨row, ids, found, live, collected, rfl⟩
  · exact sound
  · have tree := sound.activeTree children (mem_of_find?_eq_some found) (find?_some found) live
      collected
    exact @SameHierarchy.linksSound (db.markTree tenantId instanceId (instanceId :: ids) none
      (some supply.now)) _ _ ⟨rfl, rfl, rfl⟩ (sound.markTree tree supply.now)

end Archive

/-! ## Moving a child -/

theorem EntityRelation.isChildOf_iff :
    r.isChildOf tenantId id ↔ r.tenantId = tenantId ∧ r.relationType = .childOf ∧
      r.deletedAt = none ∧ r.fromInstanceId = id := by
  unfold isChildOf
  simp only [Bool.and_eq_true, isActive_iff, beq_iff_eq, and_assoc]

theorem EntityRelation.isParentLink_iff :
    r.isParentLink tenantId id ↔ r.tenantId = tenantId ∧ r.relationType = .parentOf ∧
      r.deletedAt = none ∧ r.toInstanceId = id := by
  unfold isParentLink
  simp only [Bool.and_eq_true, isActive_iff, beq_iff_eq, and_assoc]

/-- The rows that make a record a child. -/
def EntityRelation.ofChild (tenantId childId : Id) (r : EntityRelation) : Bool :=
  r.isChildOf tenantId childId || r.isParentLink tenantId childId

theorem Db.mem_of_deleteRelations {p : EntityRelation → Bool} {now : Time}
    (mem : r ∈ (db.deleteRelations p now).entityRelations) (active : r.deletedAt = none) :
    r ∈ db.entityRelations ∧ ¬ p r := by
  obtain ⟨old, memOld, eq⟩ := List.mem_map.mp mem
  by_cases chosen : p old = true
  · rw [if_pos chosen] at eq
    rw [← eq] at active
    cases active
  · rw [if_neg chosen] at eq
    exact eq ▸ ⟨memOld, chosen⟩

theorem Db.unlinked_eq (keyed : Tables.entityRelations.Keyed db)
    (single : ∀ link ∈ db.entityRelations, ∀ r ∈ db.entityRelations,
      link.isParentLink tenantId childId → r.isParentLink tenantId childId → r = link)
    (now : Time) : db.unlinked tenantId childId now =
      db.deleteRelations (ofChild tenantId childId) now := by
  have row_eq {r r' : EntityRelation} (mem : r ∈ db.entityRelations)
      (mem' : r' ∈ db.entityRelations) (same : r.id = r'.id) : r = r' :=
    keyed.eq mem mem' (congrArg (LockKey.row .entityRelations) same)
  have same {p q : EntityRelation → Bool} {db : Db} (agree : ∀ r ∈ db.entityRelations, p r = q r) :
      db.deleteRelations p now = db.deleteRelations q now := by
    unfold Db.deleteRelations Table.modify
    congr 1
    exact map_congr_left fun r mem => by rw [agree r mem]
  have stays {r : EntityRelation} (mem : r ∈ db.entityRelations)
      (link : r.isParentLink tenantId childId) :
      r ∈ (db.deleteRelations (EntityRelation.isChildOf tenantId childId) now).entityRelations :=
    List.mem_map.mpr ⟨r, mem, if_neg (Bool.eq_false_iff.mp
      (isChildOf_of_parentLink link tenantId childId))⟩
  unfold Db.unlinked
  split
  next none =>
    refine same fun r mem => ?_
    unfold ofChild
    cases link : r.isParentLink tenantId childId with
    | false => rw [Bool.or_false]
    | true => exact absurd link (find?_eq_none.mp none r (stays mem link))
  next link found =>
    have chosen : link.isParentLink tenantId childId := find?_some found
    have memLink : link ∈ db.entityRelations :=
      (Db.mem_of_deleteRelations (mem_of_find?_eq_some found) (isParentLink_iff.mp chosen).2.2.1).1
    suffices rows : ((db.entityRelations.map fun r =>
        if r.isChildOf tenantId childId then r.delete now else r).map fun r =>
          if r.id == link.id then r.delete now else r) =
        db.entityRelations.map fun r => if r.ofChild tenantId childId then r.delete now else r by
      exact congrArg (Tables.entityRelations.put db) rows
    rw [List.map_map]
    refine map_congr_left fun r mem => ?_
    unfold ofChild
    by_cases child : r.isChildOf tenantId childId = true
    · have other : ¬ (r.id == link.id) := fun named => by
        rw [row_eq mem memLink (eq_of_beq named), isChildOf_of_parentLink chosen] at child
        cases child
      simp only [Function.comp, child, if_true, Bool.true_or]
      exact if_neg other
    · simp only [Function.comp, child, Bool.false_eq_true, if_false, Bool.false_or]
      have iff : (r.id == link.id) = r.isParentLink tenantId childId := by
        rw [Bool.eq_iff_iff, beq_iff_eq]
        refine ⟨fun named => row_eq mem memLink named ▸ chosen, fun also => ?_⟩
        rw [single link memLink r mem chosen also]
      rw [iff]

section Move

variable {now : Time}

theorem EntityRelation.ofChild_iff (places : r.relationType.Places) (active : r.deletedAt = none) :
    r.ofChild tenantId childId ↔ r.tenantId = tenantId ∧ r.anchor = childId := by
  unfold ofChild
  rw [Bool.or_eq_true, isChildOf_iff, isParentLink_iff]
  rcases places with type | type
  · rw [anchor_parentOf type]
    simp [type, active]
  · rw [anchor_childOf type]
    simp [type, active]

theorem EntityRelation.ofChild_places (chosen : r.ofChild tenantId childId) :
    r.relationType.Places := by
  rcases Bool.or_eq_true_iff.mp chosen with child | link
  · exact .inr (isChildOf_iff.mp child).2.1
  · exact .inl (isParentLink_iff.mp link).2.1

theorem Db.LinksSound.unlinked_eq (sound : db.LinksSound types) (children : types .parentOf)
    (tenantId childId : Id) (now : Time) : db.unlinked tenantId childId now =
      db.deleteRelations (ofChild tenantId childId) now := by
  refine Db.unlinked_eq sound.relations (fun link memLink r mem chosen also => ?_) now
  obtain ⟨tenant, type, active, target⟩ := isParentLink_iff.mp chosen
  obtain ⟨tenant', type', active', target'⟩ := isParentLink_iff.mp also
  exact sound.single link memLink r mem (type ▸ children) ⟨type'.trans type.symm,
    tenant'.trans tenant.symm, target'.trans target.symm, .inl type⟩ active active'

theorem Db.LinksSound.unlink (sound : db.LinksSound types) (children : types .parentOf)
    (tenantId childId : Id) (now : Time) :
    (db.unlinked tenantId childId now).LinksSound types ∧
      ∀ r ∈ (db.unlinked tenantId childId now).entityRelations, r.relationType = .parentOf →
        r.tenantId = tenantId → r.toInstanceId = childId → r.deletedAt ≠ none := by
  rw [sound.unlinked_eq children]
  constructor
  · refine sound.deleteRelations _ now fun r memR m memM counted mirrors active activeM chosen => ?_
    have places := mirrors.symm.places (ofChild_places chosen)
    rw [ofChild_iff (mirrors.places places) activeM, mirrors.1, mirrors.anchor,
      farAnchor_eq places] at chosen
    exact .inl ((ofChild_iff places active).mpr chosen)
  · intro r mem type tenant target active
    exact (Db.mem_of_deleteRelations mem active).2
      ((ofChild_iff (.inl type) active).mpr ⟨tenant, (anchor_parentOf type).trans target⟩)

theorem Db.LinksSound.detach (sound : db.LinksSound types) :
    (Tables.entityInstances.modify (isOf tenantId childId) (detach now) db).LinksSound types := by
  have same (row : EntityInstance) :
      (if row.isOf tenantId childId then row.detach now else row).id = row.id ∧
        (if row.isOf tenantId childId then row.detach now else row).tenantId = row.tenantId ∧
        (if row.isOf tenantId childId then row.detach now else row).deletedAt = row.deletedAt := by
    by_cases chosen : row.isOf tenantId childId = true
    · rw [if_pos chosen]
      exact ⟨rfl, rfl, rfl⟩
    · rw [if_neg chosen]
      exact ⟨rfl, rfl, rfl⟩
  refine sound.of_live (.of_map rfl fun row => ⟨(same row).1, (same row).2.1, fun live =>
    (same row).2.2.symm.trans live⟩) rfl fun r _ _ _ before => ?_
  obtain ⟨-, row, mem, named, dated⟩ := before
  exact ⟨_, List.mem_map_of_mem mem, (same row).1.trans named, (same row).2.2.trans dated⟩

theorem Db.LinksSound.move (sound : db.LinksSound types) (children : types .parentOf)
    {input : MoveChildRelationInput} {supply : EntitySupply} {bound : Nat}
    {pair : List EntityRelation}
    (ran : (moveChildRelation tenantId input supply bound).exec db = .ok (pair, db')) :
    db'.LinksSound types := by
  obtain ⟨unlinked, free⟩ := sound.unlink children tenantId input.childId supply.startedAt
  obtain ⟨child, mem, selected, alive, ⟨-, rfl⟩ | ⟨_, _, _, -, -, -, -, -, -, fresh, rfl, rfl⟩⟩ :=
    moveChildRelation_cases ran
  · exact unlinked.detach
  · have instances := db.unlinked_instances tenantId input.childId supply.startedAt
    obtain ⟨record, dated⟩ := EntityInstance.dated mem selected
    rw [alive] at dated
    refine unlinked.link fresh ?_ fun r memR _ => free r memR
    unfold Db.LiveRecord Db.HasRecord Db.DeletedAs
    rw [instances]
    exact ⟨record, dated⟩

end Move

/-! ## Creating a child -/

theorem Db.LinksSound.grow (sound : db.LinksSound types) {fresh : List EntityInstance}
    (instances : db'.entityInstances = db.entityInstances ++ fresh) (unused : db.Unused fresh)
    (relations : db'.entityRelations = db.entityRelations) : db'.LinksSound types := by
  refine sound.of_live (.of_append instances unused) relations fun r _ _ _ before => ?_
  obtain ⟨-, old, mem, dated⟩ := before
  exact ⟨old, (Evolves.of_append instances unused).kept mem, dated⟩

theorem Db.LinksSound.createChild (sound : db.LinksSound types) {rules : FieldRules}
    {input : CreateChildRelationInput} {supply : EntitySupply}
    (ran : (createChildRelation rules tenantId input supply).exec db = .ok (row, db')) :
    db'.LinksSound types := by
  obtain ⟨parent, workflowId, mid, -, -, -, rfl, unused, effect, fresh, rfl⟩ :=
    createChildRelation_cases ran
  have relations := effect.definitions.relations
  have memRow : input.row tenantId workflowId parent supply ∈ mid.entityInstances := by
    rw [effect.instances]
    exact mem_append_right _ mem_cons_self
  refine (sound.grow effect.instances unused relations).link fresh ⟨⟨_, memRow, rfl, rfl⟩, _, memRow, rfl, rfl⟩
    fun r mem counted type _ target active => ?_
  rw [relations] at mem
  obtain ⟨⟨old, memOld, named, -⟩, -⟩ := sound.live r mem (type ▸ counted) active
  exact unused.2 _ mem_cons_self old memOld
    (named.trans ((anchor_parentOf type).trans target))

/-! ## Reading the parent -/

theorem Db.LinksSound.mem_childIds (sound : db.LinksSound types) (down : types .parentOf)
    (up : types .childOf) {parentId : Id} :
    child ∈ db.childIds tenantId parentId ↔ db.parentId tenantId child = some parentId := by
  have mirror {r : EntityRelation} (mem : r ∈ db.entityRelations) (places : r.relationType.Places)
      (active : r.deletedAt = none) {type : RelationType}
      (mirrors : r.relationType.mirror = some type) : ∃ m ∈ db.entityRelations,
        m.relationType = type ∧ m.tenantId = r.tenantId ∧ m.deletedAt = none ∧
          m.fromInstanceId = r.toInstanceId ∧ m.toInstanceId = r.fromInstanceId := by
    have counted : types r.relationType := by
      rcases places with type | type <;> rw [type]
      · exact down
      · exact up
    obtain ⟨m, memM, ⟨tenant, source, target, typeM⟩, activeM⟩ := sound.pair mem counted places active
    exact ⟨m, memM, Option.some.inj (typeM.symm.trans mirrors), tenant, activeM, source, target⟩
  -- the parent that is read from a `child_of` row is that of the `parent_of` row
  have read {up : EntityRelation} (mem : up ∈ db.entityRelations)
      (childOf : up.isChildOf tenantId child) :
      child ∈ db.childIds tenantId up.toInstanceId := by
    obtain ⟨tenant, type, active, source⟩ := isChildOf_iff.mp childOf
    obtain ⟨m, memM, typeM, tenantM, activeM, sourceM, targetM⟩ :=
      mirror mem (.inr type) active ((congrArg RelationType.mirror type).trans rfl)
    exact Db.mem_childIds.mpr ⟨m, memM, typeM, tenantM.trans tenant, activeM, sourceM,
      targetM.trans source⟩
  have one {parent parent' : Id} (first : child ∈ db.childIds tenantId parent)
      (second : child ∈ db.childIds tenantId parent') : parent' = parent := by
    obtain ⟨r, memR, type, tenant, active, rfl, target⟩ := Db.mem_childIds.mp first
    obtain ⟨r', memR', type', tenant', active', rfl, target'⟩ := Db.mem_childIds.mp second
    rw [sound.single r memR r' memR' (type ▸ down) ⟨type'.trans type.symm,
      tenant'.trans tenant.symm, target'.trans target.symm, .inl type⟩ active active']
  unfold Db.parentId
  rw [map_eq_some_iff]
  constructor
  · intro listed
    obtain ⟨r, memR, type, tenant, active, source, target⟩ := Db.mem_childIds.mp listed
    obtain ⟨m, memM, typeM, tenantM, activeM, sourceM, -⟩ :=
      mirror memR (.inl type) active ((congrArg RelationType.mirror type).trans rfl)
    have childOf : m.isChildOf tenantId child := isChildOf_iff.mpr
      ⟨tenantM.trans tenant, typeM, activeM, sourceM.trans target⟩
    obtain ⟨up, found⟩ := isSome_iff_exists.mp (find?_isSome.mpr ⟨m, memM, childOf⟩)
    exact ⟨up, found, one listed (read (mem_of_find?_eq_some found) (find?_some found))⟩
  · rintro ⟨up, found, rfl⟩
    exact read (mem_of_find?_eq_some found) (find?_some found)

/-! ## Reference links -/

section References

variable {type : RelationType} {supply : EntitySupply} {relationId : Id} {actorId : Option String}
  {u : Unit}

theorem EntityRelation.links_iff {source target : Id} {r : EntityRelation} :
    r.links tenantId type source target ↔ r.tenantId = tenantId ∧ r.relationType = type ∧
      r.deletedAt = none ∧ r.fromInstanceId = source ∧ r.toInstanceId = target := by
  unfold links
  simp only [Bool.and_eq_true, isActive_iff, beq_iff_eq, and_assoc]

/-- The types of the rows of a reference link. -/
def RelationType.IsReference (type : RelationType) : Prop :=
  type = relationReferences ∨ type = relationReferencedBy

theorem RelationType.IsReference.ne (reference : type.IsReference) :
    type ≠ .parentOf ∧ type ≠ .childOf ∧ type.mirror = some type.referenceMirror := by
  rcases reference with rfl | rfl
  · exact ⟨by decide, by decide, by decide⟩
  · exact ⟨by decide, by decide, by decide⟩

theorem relationReferences_mirror : relationReferences.mirror = some relationReferencedBy := by
  decide

theorem relationReferencedBy_mirror : relationReferencedBy.mirror = some relationReferences := by
  decide

theorem Db.LinksSound.createReference (sound : db.LinksSound IsLink)
    {input : CreateReferenceLinkInput} {pair : List EntityRelation}
    (ran : (createReferenceLink tenantId input supply).exec db = .ok (pair, db')) :
    db'.LinksSound IsLink := by
  obtain ⟨⟨row, mem, live⟩, ⟨row', mem', live'⟩, new, rfl, fresh, same⟩ :=
    createReferenceLink_cases ran
  have source := dated_of_isLive mem live
  have target := dated_of_isLive mem' live'
  have none_ : ∀ old ∈ db.entityRelations, old.relationType = relationReferences →
      old.tenantId = tenantId → old.fromInstanceId = input.fromInstanceId →
      old.toInstanceId = input.toInstanceId → old.deletedAt ≠ none := by
    intro old memOld type tenant source target active
    have linked := links_iff.mpr ⟨tenant, type, active, source, target⟩
    rw [new old memOld] at linked
    cases linked
  refine same.linksSound (sound.append fresh ⟨rfl, rfl, rfl, relationReferences_mirror⟩
    ⟨rfl, rfl⟩ source target ?_)
  rintro old memOld counted (⟨type, tenant, target', parentOf | ⟨-, source'⟩⟩ |
    ⟨type, tenant, target', parentOf | ⟨-, source'⟩⟩) active
  · exact absurd parentOf (RelationType.IsReference.ne (.inl rfl)).1
  · exact none_ old memOld type tenant source' target' active
  · exact absurd parentOf (RelationType.IsReference.ne (.inr rfl)).1
  · have far : old.farAnchor = input.fromInstanceId := by
      rw [farAnchor_of_ne, target']
      rw [type]
      exact (RelationType.IsReference.ne (.inr rfl)).2.1
    obtain ⟨m, memM, mirrors, activeM⟩ := sound.mirror memOld counted active (far ▸ source.2)
    have typeM : m.relationType = relationReferences := by
      have mirror := mirrors.2.2.2
      rw [type] at mirror
      exact (Option.some.inj mirror).symm
    exact none_ m memM typeM (mirrors.1.trans tenant) (mirrors.2.1.trans target')
      (mirrors.2.2.1.trans source') activeM

theorem Db.LinksSound.deleteReference (sound : db.LinksSound IsLink)
    (ran : (deleteReferenceLink tenantId relationId actorId supply).exec db = .ok (u, db')) :
    db'.LinksSound IsLink := by
  obtain ⟨link, memLink, chosen, same⟩ := deleteReferenceLink_cases ran
  obtain ⟨tenant, reference, active⟩ : link.tenantId = tenantId ∧ link.relationType.IsReference ∧
      link.deletedAt = none := by
    rcases Bool.or_eq_true_iff.mp (Bool.and_eq_true_iff.mp chosen).2 with first | second
    · obtain ⟨tenant, type, active⟩ := isActive_iff.mp first
      exact ⟨tenant, .inl type, active⟩
    · obtain ⟨tenant, type, active⟩ := isActive_iff.mp second
      exact ⟨tenant, .inr type, active⟩
  obtain ⟨-, notChild, mirror⟩ := reference.ne
  have chosen_iff {r : EntityRelation} (mem : r ∈ db.entityRelations) :
      ofLink tenantId link r ↔ r = link ∨
        r.links tenantId link.relationType.referenceMirror link.toInstanceId link.fromInstanceId =
          true := by
    unfold ofLink
    rw [Bool.or_eq_true, beq_iff_eq]
    refine or_congr_left ⟨fun named => sound.row_eq mem memLink named, ?_⟩
    rintro rfl
    rfl
  refine same.linksSound (sound.deleteRelations _ supply.startedAt
    fun r memR m memM counted mirrors activeR activeM deleted => ?_)
  refine .inl ((chosen_iff memR).mpr ?_)
  rcases (chosen_iff memM).mp deleted with rfl | mirrored
  · have typeR : r.relationType = m.relationType.referenceMirror :=
      Option.some.inj ((mirror_mirror mirrors.2.2.2).symm.trans mirror)
    exact .inr (links_iff.mpr ⟨mirrors.1.symm.trans tenant, typeR, activeR, mirrors.2.2.1.symm,
      mirrors.2.1.symm⟩)
  · obtain ⟨tenant', type', -, source', target'⟩ := links_iff.mp mirrored
    have typeR : r.relationType = link.relationType := by
      have back := mirror_mirror mirrors.2.2.2
      rw [type'] at back
      exact Option.some.inj (back.symm.trans (mirror_mirror mirror))
    exact .inl (sound.single link memLink r memR (typeR ▸ counted)
      ⟨typeR, (mirrors.1.symm.trans tenant').trans tenant.symm, mirrors.2.1.symm.trans source',
        .inr ⟨notChild, mirrors.2.2.1.symm.trans target'⟩⟩ active activeR)

def Db.OutsideLinks (db : Db) (tenantId relationId : Id) : Prop :=
  ∀ r ∈ db.entityRelations, r.id = relationId → r.tenantId = tenantId → r.relationType.IsLink →
    r.deletedAt = none → ¬ db.DeletedAs r.farAnchor none

theorem Db.LinksSound.deleteOutside (sound : db.LinksSound IsLink)
    (outside : db.OutsideLinks tenantId relationId)
    (ran : (deleteRelation tenantId relationId actorId supply).exec db = .ok (u, db')) :
    db'.LinksSound IsLink := by
  obtain ⟨⟨found, memFound, named, tenant⟩, same⟩ := deleteRelation_cases ran
  refine same.linksSound (sound.deleteRelations _ supply.startedAt
    fun r memR m memM counted mirrors active activeM chosen => ?_)
  obtain rfl := sound.row_eq memM memFound ((eq_of_beq chosen).trans named.symm)
  refine absurd ?_ (outside m memM named tenant mirrors.symm.isLink activeM)
  rw [← mirrors.symm.anchor]
  exact (sound.live r memR counted active).2

end References

/-! ## Runs -/

inductive LinkCall
  | createChildRelation (rules : FieldRules) (tenantId : Id) (input : CreateChildRelationInput)
    (supply : EntitySupply)
  | moveChildRelation (tenantId : Id) (input : MoveChildRelationInput) (supply : EntitySupply)
    (bound : Nat)
  | createReferenceLink (tenantId : Id) (input : CreateReferenceLinkInput) (supply : EntitySupply)
  | deleteReferenceLink (tenantId relationId : Id) (actorId : Option String) (supply : EntitySupply)
  | deleteRelation (tenantId relationId : Id) (actorId : Option String) (supply : EntitySupply)
  | archiveEntity (tenantId instanceId : Id) (confirm : Bool) (supply : EntitySupply) (bound : Nat)
  | restoreEntity (tenantId instanceId : Id) (bound : Nat)

def LinkCall.commit (db : Db) : LinkCall → Db
  | createChildRelation rules tenantId input supply =>
    (OpenWind.createChildRelation rules tenantId input supply).commit db
  | moveChildRelation tenantId input supply bound =>
    (OpenWind.moveChildRelation tenantId input supply bound).commit db
  | createReferenceLink tenantId input supply =>
    (OpenWind.createReferenceLink tenantId input supply).commit db
  | deleteReferenceLink tenantId relationId actorId supply =>
    (OpenWind.deleteReferenceLink tenantId relationId actorId supply).commit db
  | deleteRelation tenantId relationId actorId supply =>
    (OpenWind.deleteRelation tenantId relationId actorId supply).commit db
  | archiveEntity tenantId instanceId confirm supply bound =>
    (OpenWind.archiveEntity tenantId instanceId confirm supply bound).commit db
  | restoreEntity tenantId instanceId bound =>
    (OpenWind.restoreEntity tenantId instanceId bound).commit db

def LinkCall.step (db : Db) (call : LinkCall) : Option Db := some (call.commit db)

/-- The condition of a call. -/
def LinkCall.Allowed (db : Db) : LinkCall → Prop
  | deleteRelation tenantId relationId _ _ => db.OutsideLinks tenantId relationId
  | _ => True

def Db.MirrorsSymmetric (db : Db) : Prop :=
  ∀ tenantId, ∀ a ∈ db.entityInstances, ∀ b ∈ db.entityInstances, a.deletedAt = none →
    b.deletedAt = none →
    ((∃ r ∈ db.entityRelations, r.links tenantId .parentOf a.id b.id = true) ↔
        ∃ r ∈ db.entityRelations, r.links tenantId .childOf b.id a.id = true) ∧
      ((∃ r ∈ db.entityRelations, r.links tenantId relationReferences a.id b.id = true) ↔
        ∃ r ∈ db.entityRelations, r.links tenantId relationReferencedBy b.id a.id = true)

theorem LinkCall.sound {db db' : Db} {call : LinkCall} (sound : db.LinksSound IsLink)
    (allowed : call.Allowed db) (stepped : call.step db = some db') : db'.LinksSound IsLink := by
  have children : IsLink .parentOf := some_ne_none _
  cases stepped
  cases call with
  | createChildRelation => exact Tx.commit_of sound sound.createChild
  | moveChildRelation => exact Tx.commit_of sound (sound.move children)
  | createReferenceLink => exact Tx.commit_of sound sound.createReference
  | deleteReferenceLink => exact Tx.commit_of sound sound.deleteReference
  | deleteRelation => exact Tx.commit_of sound (sound.deleteOutside allowed)
  | archiveEntity => exact Tx.commit_of sound (sound.archive children)
  | restoreEntity =>
    change ((OpenWind.restoreEntity _ _ _).commit db).LinksSound IsLink
    rw [restoreEntity_commit]
    exact sound

theorem Db.LinksSound.linked (sound : db.LinksSound IsLink) {source target : Id}
    {type type' : RelationType} (mirrors : type.mirror = some type')
    (live : db.DeletedAs source none) (live' : db.DeletedAs target none)
    (linked : ∃ r ∈ db.entityRelations, r.links tenantId type source target) :
    ∃ r ∈ db.entityRelations, r.links tenantId type' target source := by
  obtain ⟨r, mem, links⟩ := linked
  obtain ⟨tenant, typeR, active, sourceR, targetR⟩ := links_iff.mp links
  have counted : r.relationType.IsLink := by
    rw [typeR]
    exact ne_none_iff_exists'.mpr ⟨type', mirrors⟩
  have far : db.DeletedAs r.farAnchor none := by
    unfold EntityRelation.farAnchor
    split
    next => exact sourceR ▸ live
    next => exact targetR ▸ live'
  obtain ⟨m, memM, ⟨tenantM, sourceM, targetM, mirror⟩, activeM⟩ :=
    sound.mirror mem counted active far
  rw [typeR, mirrors] at mirror
  exact ⟨m, memM, links_iff.mpr ⟨tenantM.trans tenant, (Option.some.inj mirror).symm, activeM,
    sourceM.trans targetR, targetM.trans sourceR⟩⟩

theorem Db.LinksSound.symmetric (sound : db.LinksSound IsLink) : db.MirrorsSymmetric := by
  intro tenantId a memA b memB liveA liveB
  have dateA : db.DeletedAs a.id none := ⟨a, memA, rfl, liveA⟩
  have dateB : db.DeletedAs b.id none := ⟨b, memB, rfl, liveB⟩
  exact ⟨⟨sound.linked rfl dateA dateB, sound.linked rfl dateB dateA⟩,
    ⟨sound.linked relationReferences_mirror dateA dateB,
      sound.linked relationReferencedBy_mirror dateB dateA⟩⟩

/-- Along a run in which `deleteRelation` takes no row of a link between live records the links
stay mirrored. -/
theorem mirrors_symmetric {db : Db} {calls : List LinkCall} (sound : db.LinksSound IsLink)
    (guarded : Runs.Guarded LinkCall.step LinkCall.Allowed db calls) :
    Runs.Always LinkCall.step Db.MirrorsSymmetric db calls :=
  guarded.always (fun sound allowed stepped => LinkCall.sound sound allowed stepped)
    Db.LinksSound.symmetric sound

/-! ### One row of a link -/

/-- Two records of a workflow, without relations. -/
def linkDb : Db where
  workflows := [{ id := 1, tenantId := some 1, entityTypeId := 1, initialState := "open" }]
  entityInstances :=
    [{ id := 10, entityTypeId := 1, tenantId := 1, workflowId := some 1, createdAt := 0, updatedAt := 0 },
      { id := 20, entityTypeId := 1, tenantId := 1, workflowId := some 1, createdAt := 0
        updatedAt := 0 }]

def linkSupply (base : Nat) : EntitySupply := ⟨base, base, fun i => base + i⟩

def linkCreate : LinkCall := .createReferenceLink 1 ⟨10, 20, none⟩ (linkSupply 100)

theorem linkDb_sound : linkDb.LinksSound IsLink := by
  have distinct : (linkDb.entityInstances.map (·.id)).Nodup := by decide
  exact .of_none distinct rfl

/-- Once its `references` row is deleted the link has its other row only. -/
theorem mirrors_asymmetric :
    ¬ Runs.Always LinkCall.step Db.MirrorsSymmetric linkDb
      [linkCreate, .deleteRelation 1 100 none (linkSupply 200)] := by
  intro always
  have reached : (Runs.run LinkCall.step linkDb
      [linkCreate, .deleteRelation 1 100 none (linkSupply 200)]).any (fun db =>
        db.entityInstances.any fun a => db.entityInstances.any fun b =>
          a.deletedAt == none && b.deletedAt == none &&
            db.entityRelations.any (EntityRelation.links 1 relationReferencedBy b.id a.id) &&
            !db.entityRelations.any (EntityRelation.links 1 relationReferences a.id b.id)) =
      true := by
    decide +kernel
  obtain ⟨db, ran, found⟩ := (Option.any_eq_true _ _).mp reached
  obtain ⟨a, memA, found⟩ := List.any_eq_true.mp found
  obtain ⟨b, memB, facts⟩ := List.any_eq_true.mp found
  simp only [Bool.and_eq_true, beq_iff_eq, Bool.not_eq_true', List.any_eq_true] at facts
  obtain ⟨⟨⟨liveA, liveB⟩, mirrored⟩, missing⟩ := facts
  obtain ⟨r, mem, links⟩ :=
    (always.last ran 1 a memA b memB liveA liveB).2.mpr mirrored
  exact absurd links (List.any_eq_false.mp missing r mem)

/-- Whether `deleteRelation` is allowed, computed. -/
def Db.outsideLinks (db : Db) (tenantId relationId : Id) : Bool :=
  db.entityRelations.all fun r => !(r.id == relationId && r.tenantId == tenantId &&
    r.deletedAt == none && db.entityInstances.any fun row =>
      row.id == r.farAnchor && row.deletedAt == none)

theorem Db.OutsideLinks.of_check (checked : db.outsideLinks tenantId instanceId) :
    db.OutsideLinks tenantId instanceId := by
  rintro r mem named tenant - active ⟨row, memRow, far, live⟩
  have refused := List.all_eq_true.mp checked r mem
  rw [Bool.not_eq_true', Bool.eq_false_iff] at refused
  refine refused ?_
  simp only [Bool.and_eq_true, beq_iff_eq, List.any_eq_true]
  exact ⟨⟨⟨named, tenant⟩, active⟩, row, memRow, far, live⟩

/-- Record 10 is archived with its row of the link; the row that is left, of record 20, may be
deleted by itself, and record 20 is linked to a new record. -/
theorem mirrors_symmetric_archived :
    Runs.Always LinkCall.step Db.MirrorsSymmetric linkDb
      [linkCreate, .archiveEntity 1 10 true (linkSupply 300) 5,
        .deleteRelation 1 101 none (linkSupply 400), .restoreEntity 1 10 5] := by
  refine mirrors_symmetric linkDb_sound (Runs.Guarded.of_check
    (c := fun db call => match call with
      | LinkCall.deleteRelation tenant relationId _ _ => db.outsideLinks tenant relationId
      | _ => true) (fun {db call} checked => ?_) (by decide +kernel))
  cases call with
  | deleteRelation => exact .of_check checked
  | _ => exact trivial

end OpenWind
