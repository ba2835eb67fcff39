import OpenWind.Entity.ChildRelations
import OpenWind.Lib.Keyset
import Mathlib.Data.Prod.Lex
import Mathlib.Data.List.Perm.Subperm

/-!
# Pages of relations

`listRelations` and `listChildInstances` list the relations of a record in the order of
their creation, ties by id.  The database keeps the time of creation in microseconds; the
cursor carries it in milliseconds, as the `Date` it is made of does.
-/

open List Option

namespace OpenWind

open Keyset

structure StoredRelation extends EntityRelation where
  createdAt : Nat

structure RelationStore where
  entityRelations : List StoredRelation
  entityInstances : List EntityInstance
  keyed : (entityRelations.map (·.id)).Nodup

/-! ## Cursors -/

structure Cursor where
  createdAt : Time
  id : Id
deriving DecidableEq

structure CursorPage (α : Type) where
  data : List α
  nextCursor : Option Cursor
deriving DecidableEq

/-- `toISOString` drops what is below the millisecond. -/
def encodeCursor (createdAt : Nat) (id : Id) : Cursor := ⟨createdAt / 1000, id⟩

def maxPageSize : Nat := 100
def defaultPageSize : Nat := 50

/-- The page sizes that the API admits. -/
abbrev PageSize := { limit : Nat // 1 ≤ limit ∧ limit ≤ maxPageSize }

def StoredRelation.key (r : StoredRelation) : ℕ ×ₗ ℕ := toLex (r.createdAt, r.id)

/-- The row comes after the cursor. -/
def StoredRelation.follows (r : StoredRelation) (decoded : Cursor) : Bool :=
  decide (decoded.createdAt * 1000 < r.createdAt) ||
    (r.createdAt == decoded.createdAt * 1000 && decide (decoded.id < r.id))

def orderByCreatedAt (rows : List StoredRelation) : List StoredRelation :=
  rows.insertionSort fun r s => r.key ≤ s.key

/-! ## The listings -/

inductive RelationDirection
  | fromRecord
  | toRecord
  | both
deriving DecidableEq

structure ListRelationsInput where
  direction : Option RelationDirection := none
  relationType : Option RelationType := none
  cursor : Option Cursor := none
  limit : Option PageSize := none

def PageSize.applied (limit : Option PageSize) : Nat :=
  min ((limit.map Subtype.val).getD defaultPageSize) maxPageSize

/-- The conditions of `listRelations`, the cursor's apart. -/
def StoredRelation.listed (tenantId instanceId : Id) (input : ListRelationsInput)
    (r : StoredRelation) : Bool :=
  r.tenantId == tenantId && r.deletedAt.isNone &&
    (match input.direction.getD .both with
      | .fromRecord => r.fromInstanceId == instanceId
      | .toRecord => r.toInstanceId == instanceId
      | .both => r.fromInstanceId == instanceId || r.toInstanceId == instanceId) &&
    input.relationType.all (r.relationType == ·)

def pageOf (limit : Nat) (rows : List StoredRelation) : CursorPage StoredRelation :=
  let hasMore := decide (limit < rows.length)
  let data := if hasMore then rows.take limit else rows
  let nextCursor := if hasMore then data.getLast?.map fun last => encodeCursor last.createdAt last.id
    else none
  ⟨data, nextCursor⟩

def listRelations (db : RelationStore) (tenantId instanceId : Id) (input : ListRelationsInput) :
    CursorPage StoredRelation :=
  let limit := PageSize.applied input.limit
  let conditions (r : StoredRelation) :=
    r.listed tenantId instanceId input && input.cursor.all r.follows
  pageOf limit ((orderByCreatedAt (db.entityRelations.filter conditions)).take (limit + 1))

structure ListChildInstancesOpts where
  cursor : Option Cursor := none
  limit : Option PageSize := none

def RelationStore.liveInstances (db : RelationStore) (tenantId : Id) (ids : List Id) :
    List EntityInstance :=
  db.entityInstances.filter fun row =>
    row.tenantId == tenantId && ids.contains row.id && row.deletedAt.isNone

def listChildInstances (db : RelationStore) (tenantId parentId : Id)
    (opts : ListChildInstancesOpts) : CursorPage EntityInstance :=
  let limit := PageSize.applied opts.limit
  let conditions (r : StoredRelation) :=
    r.toEntityRelation.isParentOf tenantId parentId && opts.cursor.all r.follows
  let relRows := (orderByCreatedAt (db.entityRelations.filter conditions)).take (limit + 1)
  let page := pageOf limit relRows
  let childIds := page.data.map (·.toInstanceId)
  if childIds.isEmpty then ⟨[], none⟩
  else
    let instances := db.liveInstances tenantId childIds
    -- The relations' order is kept, and a relation without a live child is left out.
    let ordered := childIds.flatMap fun id => (instances.find? (·.id == id)).toList
    ⟨ordered, page.nextCursor⟩

/-! ## Following the cursors -/

def follow {α : Type} (list : Option Cursor → CursorPage α) : Nat → Option Cursor → Option (List α)
  | 0, _ => none
  | pages + 1, cursor =>
    match list cursor with
    | ⟨data, none⟩ => some data
    | ⟨data, some next⟩ => (follow list pages (some next)).map (data ++ ·)

def PagesCompletely {α : Type} (list : Option Cursor → CursorPage α) (rows : List α) : Prop :=
  ∃ pages listed, follow list pages none = some listed ∧ listed.Perm rows

def PivotsAtMilliseconds (limit : Nat) (rows : List StoredRelation) : Prop :=
  Keyset.Pivots limit (orderByCreatedAt rows) fun r => r.createdAt % 1000 = 0

def RelationStore.matching (db : RelationStore) (tenantId instanceId : Id)
    (input : ListRelationsInput) : List StoredRelation :=
  db.entityRelations.filter (·.listed tenantId instanceId input)

def RelationStore.childRelations (db : RelationStore) (tenantId parentId : Id) :
    List StoredRelation :=
  db.entityRelations.filter fun r => r.toEntityRelation.isParentOf tenantId parentId

def RelationStore.child? (db : RelationStore) (tenantId : Id) (r : StoredRelation) :
    Option EntityInstance :=
  db.entityInstances.find? fun row =>
    row.id == r.toInstanceId && row.tenantId == tenantId && row.deletedAt.isNone

def RelationStore.children (db : RelationStore) (tenantId parentId : Id) : List EntityInstance :=
  (db.childRelations tenantId parentId).filterMap (db.child? tenantId)

/-- The place of a cursor in the order of the rows. -/
def Cursor.key (cursor : Cursor) : ℕ ×ₗ ℕ := toLex (cursor.createdAt * 1000, cursor.id)

def StoredRelation.mark (r : StoredRelation) : ℕ ×ₗ ℕ := (encodeCursor r.createdAt r.id).key

theorem StoredRelation.mark_le (r : StoredRelation) : r.mark ≤ r.key := by
  refine Prod.Lex.toLex_le_toLex.mpr ?_
  have floor : r.createdAt / 1000 * 1000 ≤ r.createdAt := Nat.div_mul_le_self _ _
  rcases Nat.lt_or_ge (r.createdAt / 1000 * 1000) r.createdAt with less | same
  · exact Or.inl less
  · exact Or.inr ⟨Nat.le_antisymm floor same, Nat.le_refl _⟩

theorem StoredRelation.mark_eq_iff (r : StoredRelation) :
    r.mark = r.key ↔ r.createdAt % 1000 = 0 := by
  have shape : r.mark = r.key ↔ r.createdAt / 1000 * 1000 = r.createdAt :=
    toLex.injective.eq_iff.trans ⟨fun same => (Prod.mk.inj same).1, fun same => congrArg (·, r.id) same⟩
  rw [shape]
  omega

theorem StoredRelation.follows_eq (r : StoredRelation) (cursor : Option Cursor) :
    cursor.all r.follows = above StoredRelation.key (cursor.map Cursor.key) r := by
  cases cursor with
  | none => rfl
  | some decoded =>
    refine Bool.eq_iff_iff.mpr ?_
    simp only [all_some, map_some, above, decide_eq_true_eq,
      StoredRelation.follows, Bool.or_eq_true, Bool.and_eq_true, beq_iff_eq]
    refine Iff.trans ?_ Prod.Lex.toLex_lt_toLex.symm
    exact or_congr_right (and_congr_left' eq_comm)

theorem orderByCreatedAt_filter (rows : List StoredRelation) (matches' : StoredRelation → Bool)
    (cursor : Option Cursor) :
    orderByCreatedAt (rows.filter fun r => matches' r && cursor.all r.follows) =
      Keyset.after StoredRelation.key (cursor.map Cursor.key) (rows.filter matches') := by
  rw [Keyset.after, List.filter_filter]
  refine congrArg orderByCreatedAt (List.filter_congr fun r _ => ?_)
  rw [r.follows_eq, Bool.and_comm]

theorem orderByCreatedAt_eq (rows : List StoredRelation) :
    orderByCreatedAt rows = Keyset.after StoredRelation.key none rows := by
  have all : rows.filter (above StoredRelation.key none) = rows :=
    filter_eq_self.mpr fun _ _ => rfl
  rw [Keyset.after, all]
  rfl

theorem pivotsAtMilliseconds_iff {limit : Nat} {rows : List StoredRelation} :
    PivotsAtMilliseconds limit rows ↔
      Keyset.Pivots limit (Keyset.after StoredRelation.key none rows) fun r => r.mark = r.key := by
  simp only [PivotsAtMilliseconds, orderByCreatedAt_eq, StoredRelation.mark_eq_iff]

/-! ## A page of a listing is a page by key -/

theorem PageSize.applied_pos (limit : Option PageSize) : 0 < PageSize.applied limit := by
  cases limit with
  | none => decide
  | some size =>
    have bound := size.2
    exact lt_min bound.1 (by decide)

section Pages

variable {db : RelationStore} {tenantId : Id}

variable {limit : Nat} {rows : List StoredRelation} {α : Type}

theorem pageOf_more (more : limit < rows.length) :
    pageOf limit rows = ⟨rows.take limit, (rows.take limit).getLast?.map fun last =>
      encodeCursor last.createdAt last.id⟩ := by
  simp only [pageOf, more, decide_true, if_true]

theorem pageOf_last (last : ¬limit < rows.length) : pageOf limit rows = ⟨rows, none⟩ := by
  simp only [pageOf, last, decide_false, Bool.false_eq_true, if_false]

theorem pageOf_empty (empty : (pageOf limit rows).data = []) : pageOf limit rows = ⟨[], none⟩ := by
  by_cases more : limit < rows.length
  · rw [pageOf_more more] at empty ⊢
    have none' : rows.take limit = [] := empty
    rw [none']
    rfl
  · rw [pageOf_last more] at empty ⊢
    exact congrArg (CursorPage.mk · none) empty

theorem pageOf_eq (rows : List StoredRelation) (limit : Nat) (cursor : Option Cursor) :
    let page := pageOf limit
      ((Keyset.after StoredRelation.key (cursor.map Cursor.key) rows).take (limit + 1))
    Keyset.page StoredRelation.key StoredRelation.mark limit (cursor.map Cursor.key) rows =
      (page.data, page.nextCursor.map Cursor.key) := by
  simp only [Keyset.page]
  generalize (Keyset.after StoredRelation.key (cursor.map Cursor.key) rows).take (limit + 1) = found
  by_cases more : limit < found.length
  · rw [if_pos more, pageOf_more more, Option.map_map]
    rfl
  · rw [if_neg more, pageOf_last more]
    rfl

def Shows {α : Type} (list : Option Cursor → CursorPage α) (limit : Nat)
    (rows : List StoredRelation) (shown : StoredRelation → Option α) : Prop :=
  ∀ cursor, ((list cursor).data, (list cursor).nextCursor.map Cursor.key) =
    (Keyset.page StoredRelation.key StoredRelation.mark limit (cursor.map Cursor.key) rows).map
      (·.filterMap shown) id

theorem listRelations_shows (instanceId : Id) (input : ListRelationsInput) :
    Shows (fun cursor => listRelations db tenantId instanceId { input with cursor })
      (PageSize.applied input.limit) (db.matching tenantId instanceId input) some := by
  intro cursor
  have found := orderByCreatedAt_filter db.entityRelations
    (fun r => r.listed tenantId instanceId input) cursor
  rw [pageOf_eq, Prod.map_apply, filterMap_some, RelationStore.matching, ← found]
  rfl

theorem liveInstances_find {childIds : List Id} {r : StoredRelation}
    (among : r.toInstanceId ∈ childIds) :
    (db.liveInstances tenantId childIds).find? (·.id == r.toInstanceId) = db.child? tenantId r := by
  rw [RelationStore.liveInstances, find?_filter, RelationStore.child?]
  congr 1
  funext row
  by_cases same : row.id = r.toInstanceId
  · have held : childIds.contains r.toInstanceId := contains_iff_mem.mpr among
    rw [same, held, beq_self_eq_true, Bool.and_true, Bool.true_and]
    simp only [and_true, Bool.decide_eq_true]
  · have apart : (row.id == r.toInstanceId) = false := beq_false_of_ne same
    rw [apart, Bool.false_and, Bool.false_and]
    simp

theorem listChildInstances_shows (parentId : Id) (opts : ListChildInstancesOpts) :
    Shows (fun cursor => listChildInstances db tenantId parentId { opts with cursor })
      (PageSize.applied opts.limit) (db.childRelations tenantId parentId)
      (db.child? tenantId) := by
  intro cursor
  have found := orderByCreatedAt_filter db.entityRelations
    (fun r => r.toEntityRelation.isParentOf tenantId parentId) cursor
  rw [pageOf_eq, Prod.map_apply, RelationStore.childRelations, ← found]
  simp only [listChildInstances]
  by_cases empty : (pageOf (PageSize.applied opts.limit) ((orderByCreatedAt
      (db.entityRelations.filter fun r => r.toEntityRelation.isParentOf tenantId parentId &&
        cursor.all r.follows)).take (PageSize.applied opts.limit + 1))).data = []
  · rw [pageOf_empty empty]
    rfl
  · generalize pageOf _ _ = page at empty ⊢
    have nonempty : ((page.data.map (·.toInstanceId)).isEmpty) = false :=
      isEmpty_eq_false_iff.mpr fun none' => empty (map_eq_nil_iff.mp none')
    rw [nonempty]
    refine Prod.ext ?_ rfl
    change (page.data.map (·.toInstanceId)).flatMap _ = page.data.filterMap _
    rw [flatMap_map, filterMap_eq_flatMap_toList]
    refine flatMap_congr fun r member => ?_
    have among : r.toInstanceId ∈ page.data.map (·.toInstanceId) :=
      List.mem_map.mpr ⟨r, member, rfl⟩
    exact congrArg toList (liveInstances_find among)

theorem follow_eq {list : Option Cursor → CursorPage α} {shown : StoredRelation → Option α}
    (shows' : Shows list limit rows shown) (pages : Nat) (cursor : Option Cursor) :
    follow list pages cursor =
      (walk StoredRelation.key StoredRelation.mark limit rows pages
        (cursor.map Cursor.key)).map (·.filterMap shown) := by
  induction pages generalizing cursor with
  | zero => rfl
  | succ pages ih =>
    have page := shows' cursor
    rw [follow, walk]
    generalize list cursor = shownPage at page ⊢
    generalize Keyset.page StoredRelation.key StoredRelation.mark limit (cursor.map Cursor.key)
      rows = keyed at page ⊢
    obtain ⟨data, next⟩ := shownPage
    obtain ⟨found, pivot⟩ := keyed
    obtain ⟨rfl, rfl⟩ := Prod.mk.inj page
    cases next with
    | none => rfl
    | some next =>
      simp only [map_some, ih, Option.map_map]
      congr 1
      funext rest
      exact filterMap_append.symm

theorem distinct_keys (sub : rows.Sublist db.entityRelations) :
    (rows.map StoredRelation.key).Nodup := by
  have ids : (rows.map (·.id)).Nodup := db.keyed.sublist (sub.map _)
  refine Nodup.of_map (fun key => (ofLex key).2) ?_
  rw [List.map_map]
  exact ids

theorem complete_of_pivots {list : Option Cursor → CursorPage α} {shown : StoredRelation → Option α}
    (shows' : Shows list limit rows shown) (positive : 0 < limit)
    (sub : rows.Sublist db.entityRelations) (marked : PivotsAtMilliseconds limit rows) :
    PagesCompletely list (rows.filterMap shown) := by
  obtain ⟨pages, listed, walked, same⟩ :=
    (complete_iff positive StoredRelation.mark_le (distinct_keys sub)).mpr
      (pivotsAtMilliseconds_iff.mp marked)
  refine ⟨pages, listed.filterMap shown, ?_, same.filterMap shown⟩
  rw [follow_eq shows', map_none, walked, map_some]

theorem pivots_of_complete {list : Option Cursor → CursorPage α} {shown : StoredRelation → Option α}
    (shows' : Shows list limit rows shown) (positive : 0 < limit)
    (sub : rows.Sublist db.entityRelations) (visible : ∀ r ∈ rows, (shown r).isSome)
    (complete : PagesCompletely list (rows.filterMap shown)) : PivotsAtMilliseconds limit rows := by
  have distinct : (rows.map StoredRelation.key).Nodup := distinct_keys sub
  obtain ⟨pages, all, followed, same⟩ := complete
  rw [follow_eq shows', map_none] at followed
  obtain ⟨listed, walked, rfl⟩ := map_eq_some_iff.mp followed
  have covered : ∀ r ∈ rows, r ∈ listed := fun r member =>
    walk_covers positive StoredRelation.mark_le distinct walked member rfl
  have inside : rows.Subperm listed := subperm_of_subset (distinct.of_map _) covered
  have shownAll (some' : List StoredRelation) (among : ∀ r ∈ some', r ∈ rows) :
      (some'.filterMap shown).length = some'.length := by
    rw [length_filterMap_eq_countP, countP_eq_length]
    exact fun r member => visible r (among r member)
  have lengths : listed.length = rows.length := by
    calc listed.length = (listed.filterMap shown).length :=
          (shownAll listed fun r member => mem_of_walk walked member).symm
      _ = (rows.filterMap shown).length := same.length_eq
      _ = rows.length := shownAll rows fun r member => member
  have once : listed.Perm rows := (inside.perm_of_length_le (by omega)).symm
  exact pivotsAtMilliseconds_iff.mpr
    ((complete_iff positive StoredRelation.mark_le distinct).mp ⟨pages, listed, walked, once⟩)

/-! ## The listings -/

theorem listRelations_complete_iff (db : RelationStore) (tenantId instanceId : Id)
    (input : ListRelationsInput) :
    PagesCompletely (fun cursor => listRelations db tenantId instanceId { input with cursor })
        (db.matching tenantId instanceId input) ↔
      PivotsAtMilliseconds (PageSize.applied input.limit) (db.matching tenantId instanceId input) := by
  have shows' : Shows (fun cursor => listRelations db tenantId instanceId { input with cursor })
      (PageSize.applied input.limit) (db.matching tenantId instanceId input) some :=
    listRelations_shows instanceId input
  have positive : 0 < PageSize.applied input.limit := PageSize.applied_pos input.limit
  have all : (db.matching tenantId instanceId input).filterMap some =
      db.matching tenantId instanceId input := filterMap_some
  constructor
  · intro complete
    exact pivots_of_complete shows' positive filter_sublist (fun _ _ => rfl) (all.symm ▸ complete)
  · intro marked
    exact all ▸ complete_of_pivots shows' positive filter_sublist marked

theorem listChildInstances_complete (db : RelationStore) (tenantId parentId : Id)
    (opts : ListChildInstancesOpts)
    (marked : PivotsAtMilliseconds (PageSize.applied opts.limit)
      (db.childRelations tenantId parentId)) :
    PagesCompletely (fun cursor => listChildInstances db tenantId parentId { opts with cursor })
      (db.children tenantId parentId) :=
  complete_of_pivots (listChildInstances_shows parentId opts) (PageSize.applied_pos opts.limit)
    filter_sublist marked

theorem listChildInstances_exact (db : RelationStore) (tenantId parentId : Id)
    (opts : ListChildInstancesOpts)
    (live : ∀ r ∈ db.childRelations tenantId parentId, (db.child? tenantId r).isSome)
    (complete : PagesCompletely
      (fun cursor => listChildInstances db tenantId parentId { opts with cursor })
      (db.children tenantId parentId)) :
    PivotsAtMilliseconds (PageSize.applied opts.limit) (db.childRelations tenantId parentId) :=
  pivots_of_complete (listChildInstances_shows parentId opts) (PageSize.applied_pos opts.limit)
    filter_sublist live complete

/-- Both listings page completely where every pivot was created at a whole millisecond, and
only there: for the child tickets as long as no relation leads to a deleted child. -/
theorem relation_pages_complete_iff (db : RelationStore) (tenantId instanceId : Id)
    (input : ListRelationsInput) (opts : ListChildInstancesOpts) :
    (PagesCompletely (fun cursor => listRelations db tenantId instanceId { input with cursor })
        (db.matching tenantId instanceId input) ↔
      PivotsAtMilliseconds (PageSize.applied input.limit) (db.matching tenantId instanceId input)) ∧
    (PivotsAtMilliseconds (PageSize.applied opts.limit) (db.childRelations tenantId instanceId) →
      PagesCompletely (fun cursor => listChildInstances db tenantId instanceId { opts with cursor })
        (db.children tenantId instanceId)) ∧
    ((∀ r ∈ db.childRelations tenantId instanceId, (db.child? tenantId r).isSome) →
      PagesCompletely (fun cursor => listChildInstances db tenantId instanceId { opts with cursor })
        (db.children tenantId instanceId) →
      PivotsAtMilliseconds (PageSize.applied opts.limit)
        (db.childRelations tenantId instanceId)) :=
  ⟨listRelations_complete_iff db tenantId instanceId input,
    listChildInstances_complete db tenantId instanceId opts,
    listChildInstances_exact db tenantId instanceId opts⟩

end Pages

/-! ## Two children of one parent, a page each -/

namespace RelationPagesSample

def relation (id child : Id) (createdAt : Nat) : StoredRelation where
  id := id
  tenantId := 1
  fromInstanceId := 10
  toInstanceId := child
  relationType := .parentOf
  createdAt := createdAt

def instance' (id : Id) : EntityInstance where
  id := id
  entityTypeId := 5
  tenantId := 1
  createdAt := 0
  updatedAt := 0

def store : RelationStore where
  entityRelations := [relation 1 11 1000500, relation 2 12 2000000]
  entityInstances := [instance' 10, instance' 11, instance' 12]
  keyed := by decide

def one : PageSize := ⟨1, by decide⟩

end RelationPagesSample

open RelationPagesSample in
/-- With a page for each, neither listing gets past the first of two children. -/
theorem relation_pages_repeat :
    ¬PagesCompletely
        (fun cursor => listRelations store 1 10 { cursor, limit := some one : ListRelationsInput })
        (store.matching 1 10 { limit := some one }) ∧
      ¬PagesCompletely
        (fun cursor => listChildInstances store 1 10
          { cursor, limit := some one : ListChildInstancesOpts })
        (store.children 1 10) := by
  have pivot (rows : List StoredRelation) (two : rows.length = 2)
      (first : ((orderByCreatedAt rows)[0]?.map (·.createdAt)) = some 1000500) :
      ¬PivotsAtMilliseconds 1 rows := by
    intro marked
    obtain ⟨r, found, created⟩ := map_eq_some_iff.mp first
    have whole : r.createdAt % 1000 = 0 := marked 0 r
      (by rw [orderByCreatedAt, length_insertionSort]; omega) found
    omega
  constructor
  · intro complete
    exact pivot _ (by decide +kernel) (by decide +kernel)
      ((listRelations_complete_iff store 1 10 { limit := some one }).mp complete)
  · intro complete
    have live : ∀ r ∈ store.childRelations 1 10, (store.child? 1 r).isSome := by decide +kernel
    exact pivot _ (by decide +kernel) (by decide +kernel)
      (listChildInstances_exact store 1 10 { limit := some one } live complete)

end OpenWind
