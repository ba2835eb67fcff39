import OpenWind.OrgDirectory.Sync
import OpenWind.Lib.Runs

/-!
# The rows of a tenant are one rooted tree

A sync that completes leaves the root row and one row for each employee of the pull,
and from each row the parents lead to the root.
-/

open List Option Bool Function Txn.Prog

namespace OpenWind

open Txn Pointers OrgEmployee OrgDb

/-! ## Trees of rows -/

def OrgDb.rowsOf (db : OrgDb) (tenantId : Id) : List OrgEmployee :=
  db.orgEmployees.filter (OrgEmployee.isOf tenantId)

inductive ReachesRoot (rows : List OrgEmployee) : OrgEmployee → Prop
  | root {row : OrgEmployee} : row.isRoot = true → ReachesRoot rows row
  | up {row parent : OrgEmployee} : parent ∈ rows → row.parentId = some parent.id →
    ReachesRoot rows parent → ReachesRoot rows row

structure OrgDb.RootedTree (db : OrgDb) (tenantId : Id) (userIds : List String) : Prop where
  users : ((db.rowsOf tenantId).map (·.userId)).Perm (none :: userIds.map some)
  root : ∀ row ∈ db.rowsOf tenantId, row.isRoot = true ↔ row.userId = none
  reaches : ∀ row ∈ db.rowsOf tenantId, ReachesRoot (db.rowsOf tenantId) row

/-! ## Cards -/

/-- What the shape of the tree depends on in a row. -/
structure Card where
  id : Id
  tenantId : Id
  userId : Option String
  parentId : Option Id
  isRoot : Bool

def OrgEmployee.card (row : OrgEmployee) : Card :=
  ⟨row.id, row.tenantId, row.userId, row.parentId, row.isRoot⟩

def OrgDb.cards (db : OrgDb) : List Card := db.orgEmployees.map OrgEmployee.card

structure Cards.Sound (cards : List Card) : Prop where
  ids : (cards.map (·.id)).Nodup
  users : (cards.map fun card => (card.tenantId, card.userId)).Nodup
  roots : ∀ card ∈ cards, card.isRoot = true ↔ card.userId = none

variable {db db' : OrgDb} {now : Time} {supply : OrgSupply} {id rootId tenantId : Id}
  {employee : ResolvedEmployee} {employees : List ResolvedEmployee} {userId : String} {u : Unit}
  {fresh : List OrgSourceRecord} {toLowerCase : String → String} {plan : OrgTreeBuildResult}

theorem OrgDb.mem_cards {card : Card} :
    card ∈ db.cards ↔ ∃ row ∈ db.orgEmployees, row.card = card :=
  List.mem_map

theorem Cards.Sound.eq_of_id {cards : List Card} (sound : Cards.Sound cards) {card card' : Card}
    (mem : card ∈ cards) (mem' : card' ∈ cards) (same : card.id = card'.id) : card = card' :=
  inj_on_of_nodup_map sound.ids mem mem' same

theorem Cards.Sound.eq_of_user {cards : List Card} (sound : Cards.Sound cards) {card card' : Card}
    (mem : card ∈ cards) (mem' : card' ∈ cards) (tenant : card.tenantId = card'.tenantId)
    (user : card.userId = card'.userId) : card = card' :=
  inj_on_of_nodup_map sound.users mem mem' (Prod.ext tenant user)

theorem Cards.Sound.sublist {cards cards' : List Card} (sound : Cards.Sound cards)
    (sub : cards'.Sublist cards) : Cards.Sound cards' where
  ids := sound.ids.sublist (sub.map _)
  users := sound.users.sublist (sub.map _)
  roots card mem := sound.roots card (sub.subset mem)

/-- A change of the parents alone. -/
theorem Cards.Sound.map {cards : List Card} (sound : Cards.Sound cards) {f : Card → Card}
    (kept : ∀ card, (f card).id = card.id ∧ (f card).tenantId = card.tenantId ∧
      (f card).userId = card.userId ∧ (f card).isRoot = card.isRoot) :
    Cards.Sound (cards.map f) := by
  constructor
  · rw [List.map_map]
    refine (map_congr_left fun card _ => ?_) ▸ sound.ids
    exact (kept card).1.symm
  · rw [List.map_map]
    refine (map_congr_left fun card _ => ?_) ▸ sound.users
    exact Prod.ext (kept card).2.1.symm (kept card).2.2.1.symm
  · intro card mem
    rcases List.mem_map.mp mem with ⟨old, there, rfl⟩
    rw [(kept old).2.2.2, (kept old).2.2.1]
    exact sound.roots old there

theorem Cards.Sound.append {cards : List Card} (sound : Cards.Sound cards) {card : Card}
    (newId : ∀ old ∈ cards, old.id ≠ card.id)
    (newUser : ∀ old ∈ cards, old.tenantId = card.tenantId → old.userId ≠ card.userId)
    (root : card.isRoot ↔ card.userId = none) : Cards.Sound (cards ++ [card]) := by
  constructor
  · rw [map_append]
    refine List.nodup_append.mpr ⟨sound.ids, nodup_singleton _, ?_⟩
    intro id mem id' here
    rcases List.mem_map.mp mem with ⟨old, there, rfl⟩
    cases mem_singleton.mp here
    exact newId old there
  · rw [map_append]
    refine List.nodup_append.mpr ⟨sound.users, nodup_singleton _, ?_⟩
    intro user mem user' here same
    rcases List.mem_map.mp mem with ⟨old, there, rfl⟩
    cases mem_singleton.mp here
    exact newUser old there (Prod.mk.inj same).1 (Prod.mk.inj same).2
  · intro other mem
    rcases mem_append.mp mem with there | here
    · exact sound.roots other there
    · cases mem_singleton.mp here
      exact root

/-! ## The rows of other tenants -/

def SameElsewhere (tenantId : Id) (db db' : OrgDb) : Prop :=
  ∀ other, other ≠ tenantId → db'.rowsOf other = db.rowsOf other

namespace SameElsewhere

variable {tenantId : Id} {db db' db'' : OrgDb}

theorem refl (tenantId : Id) (db : OrgDb) : SameElsewhere tenantId db db := fun _ _ => rfl

theorem trans (first : SameElsewhere tenantId db db') (second : SameElsewhere tenantId db' db'') :
    SameElsewhere tenantId db db'' :=
  fun other distinct => (second other distinct).trans (first other distinct)

theorem modify {p : OrgEmployee → Bool} {f : OrgEmployee → OrgEmployee}
    (own : ∀ row, p row → row.tenantId = tenantId) (kept : ∀ row, (f row).tenantId = row.tenantId)
    (db : OrgDb) : SameElsewhere tenantId db (orgEmployees.modify p f db) := by
  intro other distinct
  change (db.orgEmployees.map _).filter _ = db.orgEmployees.filter _
  induction db.orgEmployees with
  | nil => rfl
  | cons row rest ih =>
    rw [map_cons, filter_cons, filter_cons, ih]
    by_cases selected : p row = true
    · have foreign : isOf other row = false :=
        beq_false_of_ne (own row selected ▸ Ne.symm distinct)
      have foreign' : isOf other (f row) = false := by
        unfold isOf
        rw [kept]
        exact foreign
      rw [if_pos selected, foreign, foreign']
      rfl
    · rw [if_neg selected]

theorem remove {p : OrgEmployee → Bool} (own : ∀ row, p row → row.tenantId = tenantId)
    (db : OrgDb) : SameElsewhere tenantId db (orgEmployees.remove p db) := by
  intro other distinct
  change (db.orgEmployees.filter _).filter _ = db.orgEmployees.filter _
  rw [List.filter_filter]
  refine List.filter_congr fun row _ => ?_
  by_cases selected : p row = true
  · have foreign : isOf other row = false :=
      beq_false_of_ne (own row selected ▸ Ne.symm distinct)
    rw [foreign, Bool.false_and]
  · rw [eq_false_iff.mpr selected, Bool.not_false, Bool.and_true]

theorem append {row : OrgEmployee} (own : row.tenantId = tenantId) (db : OrgDb) :
    SameElsewhere tenantId db (orgEmployees.append [row] db) := by
  intro other distinct
  have foreign : ¬ isOf other row := fun is =>
    distinct ((beq_iff_eq.mp is).symm.trans own)
  change (db.orgEmployees ++ [row]).filter _ = db.orgEmployees.filter _
  rw [filter_append, filter_cons_of_neg foreign, filter_nil, append_nil]

end SameElsewhere

/-! ## Rows for the root and the employees -/

structure Upserts (tenantId : Id) (users : List (Option String)) (db db' : OrgDb) : Prop where
  sound : Cards.Sound db'.cards
  elsewhere : SameElsewhere tenantId db db'
  added : ∃ added, db'.cards = db.cards ++ added ∧
    ∀ card ∈ added, card.tenantId = tenantId ∧ card.userId ∈ users

namespace Upserts

variable {tenantId : Id} {users : List (Option String)} {db db' db'' : OrgDb}

theorem trans {users' : List (Option String)} (first : Upserts tenantId users db db')
    (second : Upserts tenantId users' db' db'') : Upserts tenantId (users ++ users') db db'' := by
  obtain ⟨added, cards, of⟩ := first.added
  obtain ⟨added', cards', of'⟩ := second.added
  refine ⟨second.sound, first.elsewhere.trans second.elsewhere, added ++ added', ?_, ?_⟩
  · rw [cards', cards, append_assoc]
  · intro card mem
    rcases mem_append.mp mem with before | later
    · exact ⟨(of card before).1, mem_append_left _ (of card before).2⟩
    · exact ⟨(of' card later).1, mem_append_right _ (of' card later).2⟩

theorem kept (upserts : Upserts tenantId users db db') {card : Card} (mem : card ∈ db.cards) :
    card ∈ db'.cards := by
  obtain ⟨added, cards, _⟩ := upserts.added
  rw [cards]
  exact mem_append_left _ mem

theorem refresh (sound : Cards.Sound db.cards) (id : Id) {f : OrgEmployee → OrgEmployee}
    (same : ∀ row, (f row).card = row.card) :
    Upserts tenantId users db (orgEmployees.modify (hasId tenantId id) f db) := by
  have cards : (orgEmployees.modify (hasId tenantId id) f db).cards = db.cards := by
    change (db.orgEmployees.map _).map _ = _
    rw [List.map_map]
    refine map_congr_left fun row _ => ?_
    by_cases selected : hasId tenantId id row = true
    · simp only [comp, if_pos selected, same]
    · simp only [comp, if_neg selected]
  refine ⟨cards ▸ sound, SameElsewhere.modify (fun row is => ?_) (fun row => ?_) db, [], ?_, ?_⟩
  · exact beq_iff_eq.mp (and_eq_true_iff.mp is).1
  · exact congrArg Card.tenantId (same row)
  · rw [cards, append_nil]
  · exact fun card mem => absurd mem not_mem_nil

theorem insert (sound : Cards.Sound db.cards) {row : OrgEmployee} {entries : List OrgKey}
    {clash : OrgEmployee → Bool} {u : Unit} (own : row.tenantId = tenantId)
    (mem : row.userId ∈ users) (root : row.isRoot ↔ row.userId = none)
    (clashes : ∀ old ∈ db.orgEmployees, old.tenantId = tenantId → old.userId = row.userId →
      clash old)
    (ran : (orgEmployees.insertUnique entries clash OrgError.uniqueViolation row).exec db =
      .ok (u, db')) :
    Upserts tenantId users db db' ∧ row.card ∈ db'.cards := by
  obtain ⟨⟨fresh, free⟩, rfl⟩ := orgEmployees.exec_insertUnique_ok.mp ran
  have cards : (orgEmployees.append [row] db).cards = db.cards ++ [row.card] := map_append
  have newId : ∀ old ∈ db.cards, old.id ≠ row.card.id := by
    intro old there same
    rcases mem_cards.mp there with ⟨oldRow, memRow, rfl⟩
    have distinct := (and_eq_true_iff.mp fresh).2
    rw [all_cons, and_eq_true] at distinct
    have other := List.all_eq_true.mp distinct.1 oldRow memRow
    exact bne_iff_ne.mp other (congrArg OrgKey.employee same)
  have newUser : ∀ old ∈ db.cards, old.tenantId = row.card.tenantId → old.userId ≠ row.card.userId := by
    intro old there tenant user
    rcases mem_cards.mp there with ⟨oldRow, memRow, rfl⟩
    have clashing := clashes oldRow memRow (tenant.trans own) user
    rw [free oldRow memRow] at clashing
    cases clashing
  refine ⟨⟨?_, SameElsewhere.append own db, [row.card], cards, ?_⟩, ?_⟩
  · rw [cards]
    exact sound.append newId newUser root
  · intro card here
    cases mem_singleton.mp here
    exact ⟨own, mem⟩
  · rw [cards]
    exact mem_append_right _ (mem_singleton_self _)

end Upserts

/-- The root has a row. -/
theorem exec_ensureRoot_ok {tenant : Tenant} (sound : Cards.Sound db.cards)
    (ran : (ensureRoot tenant now supply).exec db = .ok (rootId, db')) :
    Upserts tenant.id [none] db db' ∧
      ∃ card ∈ db'.cards, card.id = rootId ∧ card.tenantId = tenant.id ∧ card.userId = none := by
  unfold ensureRoot at ran
  simp only [bind_eq, exec_bind, Table.exec_find] at ran
  split at ran
  · next existing found =>
    simp only [exec_bind, Table.exec_update] at ran
    cases ran
    have upserts : Upserts tenant.id [none] db
        (orgEmployees.modify (hasId tenant.id existing.id)
          (rename tenant.name now) db) :=
      Upserts.refresh sound existing.id fun row => rfl
    refine ⟨upserts, existing.card, upserts.kept (mem_cards.mpr ⟨existing, ?_, rfl⟩), rfl, ?_⟩
    · exact mem_of_find?_eq_some found
    · have is : isRootOf tenant.id existing := find?_some found
      obtain ⟨own, root⟩ := and_eq_true_iff.mp is
      refine ⟨beq_iff_eq.mp own, ?_⟩
      exact (sound.roots existing.card (mem_cards.mpr
        ⟨existing, mem_of_find?_eq_some found, rfl⟩)).mp root
  · next absent =>
    obtain ⟨u, mid, inserted, returned⟩ := exec_bind_ok.mp ran
    cases returned
    have inserted := @Upserts.insert tenant.id [none] _ _ sound _ _ _ _ rfl
      mem_cons_self ⟨fun _ => rfl, fun _ => rfl⟩ (fun old mem tenant user => ?_) inserted
    · exact ⟨inserted.1, _, inserted.2, rfl, rfl, rfl⟩
    · have root := (sound.roots old.card (mem_cards.mpr ⟨old, mem, rfl⟩)).mpr user
      exact and_eq_true_iff.mpr ⟨beq_iff_eq.mpr tenant, root⟩

theorem exec_upsertEmployee_ok (sound : Cards.Sound db.cards)
    (ran : (upsertEmployee tenantId now supply employee).exec db = .ok (id, db')) :
    Upserts tenantId [some employee.userId] db db' ∧ ∃ card ∈ db'.cards,
      card.id = id ∧ card.tenantId = tenantId ∧ card.userId = some employee.userId := by
  unfold upsertEmployee at ran
  simp only [bind_eq, exec_bind, Table.exec_find] at ran
  split at ran
  · next existing found =>
    simp only [exec_bind, Table.exec_update] at ran
    cases ran
    have upserts : Upserts tenantId [some employee.userId] db
        (orgEmployees.modify (hasId tenantId existing.id)
          (OrgEmployee.refresh employee now) db) :=
      Upserts.refresh sound existing.id fun row => rfl
    refine ⟨upserts, existing.card, upserts.kept (mem_cards.mpr ⟨existing, ?_, rfl⟩), rfl, ?_⟩
    · exact mem_of_find?_eq_some found
    · have is : isUser tenantId employee.userId existing := find?_some found
      obtain ⟨own, user⟩ := and_eq_true_iff.mp is
      exact ⟨beq_iff_eq.mp own, beq_iff_eq.mp user⟩
  · next absent =>
    obtain ⟨u, mid, inserted, returned⟩ := exec_bind_ok.mp ran
    cases returned
    have inserted := @Upserts.insert tenantId [some employee.userId] _ _ sound _ _ _ _ rfl
      mem_cons_self ⟨fun root => Bool.noConfusion root, fun user => absurd user (some_ne_none _)⟩
      (fun old mem tenant user => ?_) inserted
    · exact ⟨inserted.1, _, inserted.2, rfl, rfl, rfl⟩
    · exact and_eq_true_iff.mpr ⟨beq_iff_eq.mpr tenant, beq_iff_eq.mpr user⟩

/-- The entries of the map are rows of the employees. -/
def EntriesOf (tenantId : Id) (cards : List Card) (entries : List (String × Id)) : Prop :=
  ∀ entry ∈ entries, ∃ card ∈ cards,
    card.id = entry.2 ∧ card.tenantId = tenantId ∧ card.userId = some entry.1

theorem exec_upsertEmployees_ok {entries : List (String × Id)} (sound : Cards.Sound db.cards)
    (ran : (upsertEmployees tenantId now supply employees).exec db = .ok (entries, db')) :
    Upserts tenantId (employees.map fun employee => some employee.userId) db db' ∧
      entries.map (·.1) = employees.map (·.userId) ∧ EntriesOf tenantId db'.cards entries := by
  induction employees generalizing db entries with
  | nil =>
    cases ran
    refine ⟨⟨sound, SameElsewhere.refl _ _, [], (append_nil _).symm, ?_⟩, rfl, ?_⟩
    · exact fun card mem => absurd mem not_mem_nil
    · exact fun entry mem => absurd mem not_mem_nil
  | cons employee rest ih =>
    simp only [upsertEmployees, bind_eq] at ran
    obtain ⟨id, mid, first, ran⟩ := exec_bind_ok.mp ran
    obtain ⟨others, last, later, returned⟩ := exec_bind_ok.mp ran
    cases returned
    obtain ⟨upserts, card, there, is⟩ := exec_upsertEmployee_ok sound first
    obtain ⟨upserts', names, of⟩ := ih upserts.sound later
    refine ⟨upserts.trans upserts', congrArg (employee.userId :: ·) names, fun entry mem => ?_⟩
    rcases mem_cons.mp mem with rfl | mem
    · exact ⟨card, upserts'.kept there, is⟩
    · exact of entry mem

/-! ## Parents -/

theorem mem_of_idOf {entries : List (String × Id)} (found : idOf entries userId = some id) :
    (userId, id) ∈ entries := by
  obtain ⟨entry, last, rfl⟩ := map_eq_some_iff.mp found
  have last : entries.reverse.find? (fun other => other.1 == userId) = some entry := last
  have mem := mem_reverse.mp (mem_of_find?_eq_some last)
  have is := find?_some last
  rw [← beq_iff_eq.mp is]
  exact mem

theorem exists_idOf {entries : List (String × Id)} (mem : userId ∈ entries.map (·.1)) :
    ∃ id, idOf entries userId = some id := by
  rcases List.mem_map.mp mem with ⟨entry, there, rfl⟩
  have found : ((entries.reverse).find? fun other => other.1 == entry.1).isSome = true :=
    find?_isSome.mpr ⟨entry, mem_reverse.mpr there, beq_self_eq_true _⟩
  obtain ⟨last, found⟩ := isSome_iff_exists.mp found
  exact ⟨last.2, map_eq_some_iff.mpr ⟨last, found, rfl⟩⟩

def Card.isUser (tenantId : Id) (userId : String) (card : Card) : Bool :=
  card.tenantId == tenantId && card.userId == some userId

theorem Card.isUser_congr {card card' : Card} (tenant : card'.tenantId = card.tenantId)
    (user : card'.userId = card.userId) :
    card'.isUser tenantId userId = card.isUser tenantId userId := by
  unfold Card.isUser
  rw [tenant, user]

theorem Card.isUser_iff {card : Card} :
    card.isUser tenantId userId ↔ card.tenantId = tenantId ∧ card.userId = some userId := by
  unfold Card.isUser
  rw [and_eq_true, beq_iff_eq, beq_iff_eq]

/-- Nothing but the parents has changed. -/
structure Reparents (tenantId : Id) (db db' : OrgDb) (f : Card → Card) : Prop where
  cards : db'.cards = db.cards.map f
  kept : ∀ card, (f card).id = card.id ∧ (f card).tenantId = card.tenantId ∧
    (f card).userId = card.userId ∧ (f card).isRoot = card.isRoot
  elsewhere : SameElsewhere tenantId db db'

namespace Reparents

variable {tenantId : Id} {db db' db'' : OrgDb} {f g : Card → Card}

theorem trans (first : Reparents tenantId db db' f) (second : Reparents tenantId db' db'' g) :
    Reparents tenantId db db'' (g ∘ f) where
  cards := by rw [second.cards, first.cards, List.map_map]
  kept card := by
    obtain ⟨id, tenant, user, root⟩ := first.kept card
    obtain ⟨id', tenant', user', root'⟩ := second.kept (f card)
    exact ⟨id'.trans id, tenant'.trans tenant, user'.trans user, root'.trans root⟩
  elsewhere := first.elsewhere.trans second.elsewhere

theorem entries (reparents : Reparents tenantId db db' f) {entries : List (String × Id)}
    (of : EntriesOf tenantId db.cards entries) : EntriesOf tenantId db'.cards entries := by
  intro entry mem
  obtain ⟨card, there, id, tenant, user⟩ := of entry mem
  obtain ⟨id', tenant', user', _⟩ := reparents.kept card
  refine ⟨f card, ?_, id'.trans id, tenant'.trans tenant, user'.trans user⟩
  rw [reparents.cards]
  exact List.mem_map_of_mem there

end Reparents

def Card.setParent (parentId : Option Id) (card : Card) : Card := { card with parentId }

theorem exec_placeEmployee_ok {entries : List (String × Id)} (sound : Cards.Sound db.cards)
    (of : EntriesOf tenantId db.cards entries) (mem : employee.userId ∈ entries.map (·.1))
    (ran : (placeEmployee tenantId rootId entries employee).exec db = .ok (u, db')) :
    Reparents tenantId db db' fun card =>
      if card.isUser tenantId employee.userId then
        card.setParent (some (resolvedParentId rootId entries employee))
      else card := by
  obtain ⟨ownId, own⟩ := exists_idOf mem
  obtain ⟨card, there, id, tenant, user⟩ := of _ (mem_of_idOf own)
  unfold placeEmployee at ran
  rw [own] at ran
  obtain ⟨_, rfl⟩ := exec_writeChecked_ok.mp ran
  rw [Table.modify_selected]
  have selects : ∀ row ∈ db.orgEmployees, hasId tenantId ownId row =
      row.card.isUser tenantId employee.userId := by
    intro row memRow
    have memCard : row.card ∈ db.cards := mem_cards.mpr ⟨row, memRow, rfl⟩
    rw [Bool.eq_iff_iff]
    constructor
    · intro has
      obtain ⟨_, same⟩ := and_eq_true_iff.mp has
      have eq := sound.eq_of_id memCard there ((beq_iff_eq.mp same).trans id.symm)
      rw [eq]
      exact and_eq_true_iff.mpr ⟨beq_iff_eq.mpr tenant, beq_iff_eq.mpr user⟩
    · intro is
      obtain ⟨tenant', user'⟩ := and_eq_true_iff.mp is
      have eq := sound.eq_of_user memCard there ((beq_iff_eq.mp tenant').trans tenant.symm)
        ((beq_iff_eq.mp user').trans user.symm)
      have same : row.id = ownId := (congrArg Card.id eq).trans id
      exact and_eq_true_iff.mpr ⟨tenant', beq_iff_eq.mpr same⟩
  refine ⟨?_, fun card => ?_, SameElsewhere.modify (fun row is => ?_) (fun row => ?_) db⟩
  · change (db.orgEmployees.map _).map _ = (db.orgEmployees.map _).map _
    rw [List.map_map, List.map_map]
    refine map_congr_left fun row memRow => ?_
    simp only [comp, selects row memRow]
    by_cases is : row.card.isUser tenantId employee.userId = true
    · rw [if_pos is, if_pos is]
      rfl
    · rw [if_neg is, if_neg is]
  · by_cases is : card.isUser tenantId employee.userId = true
    · rw [if_pos is]
      exact ⟨rfl, rfl, rfl, rfl⟩
    · rw [if_neg is]
      exact ⟨rfl, rfl, rfl, rfl⟩
  · exact beq_iff_eq.mp (and_eq_true_iff.mp is).1
  · rfl

theorem exec_placeEmployees_ok {entries : List (String × Id)} (sound : Cards.Sound db.cards)
    (of : EntriesOf tenantId db.cards entries)
    (mem : ∀ employee ∈ employees, employee.userId ∈ entries.map (·.1))
    (distinct : (employees.map (·.userId)).Nodup)
    (ran : (forEach employees (placeEmployee tenantId rootId entries)).exec db = .ok (u, db')) :
    ∃ f, Reparents tenantId db db' f ∧
      (∀ employee ∈ employees, ∀ card, card.isUser tenantId employee.userId →
        (f card).parentId = some (resolvedParentId rootId entries employee)) ∧
      ∀ card, (∀ employee ∈ employees, card.isUser tenantId employee.userId = false) →
        f card = card := by
  induction employees generalizing db with
  | nil =>
    cases ran
    refine ⟨id, ⟨(List.map_id _).symm, fun _ => ⟨rfl, rfl, rfl, rfl⟩, SameElsewhere.refl _ _⟩, ?_,
      fun _ _ => rfl⟩
    exact fun employee mem => absurd mem not_mem_nil
  | cons employee rest ih =>
    rw [forEach] at ran
    obtain ⟨u', mid, first, later⟩ := exec_bind_ok.mp ran
    have one := exec_placeEmployee_ok sound of (mem employee mem_cons_self) first
    obtain ⟨fresh, distinct⟩ := nodup_cons.mp distinct
    obtain ⟨g, all, sets, leaves⟩ := ih (one.cards ▸ sound.map one.kept) (one.entries of)
      (fun other there => mem other (mem_cons_of_mem _ there)) distinct later
    refine ⟨_, one.trans all, fun other there card is => ?_, fun card none_of => ?_⟩
    · rcases mem_cons.mp there with rfl | there
      · simp only [comp, if_pos is]
        rw [leaves]
        · rfl
        · intro another among
          refine eq_false_iff.mpr fun is' => fresh ?_
          have user := beq_iff_eq.mp (and_eq_true_iff.mp is).2
          have user' := beq_iff_eq.mp (and_eq_true_iff.mp is').2
          have same : other.userId = another.userId := Option.some.inj (user.symm.trans user')
          change other.userId ∈ _
          rw [same]
          exact List.mem_map_of_mem among
      · refine sets other there _ ?_
        have kept := one.kept card
        exact (Card.isUser_congr kept.2.1 kept.2.2.1).trans is
    · have first_ := none_of employee mem_cons_self
      simp only [comp, first_, false_eq_true, if_false]
      exact leaves card fun other there => none_of other (mem_cons_of_mem _ there)

/-! ## The employees who have left -/

theorem exec_removeEmployees_ok {removed : List String}
    (ran : (removeEmployees tenantId removed).exec db = .ok (u, db')) :
    SameElsewhere tenantId db db' ∧ db'.cards = db.cards.filter fun card =>
      !(card.tenantId == tenantId && card.userId.any fun userId => removed.contains userId) := by
  unfold removeEmployees at ran
  by_cases none_ : removed = []
  · rw [if_pos none_] at ran
    cases ran
    refine ⟨SameElsewhere.refl _ _, (filter_eq_self.mpr fun card _ => ?_).symm⟩
    subst none_
    cases card.userId <;> simp
  · rw [if_neg none_] at ran
    simp only [bind_eq] at ran
    obtain ⟨_, mid, updated, ran⟩ := exec_bind_ok.mp ran
    rw [Table.exec_update] at updated
    cases updated
    obtain ⟨_, rfl⟩ := exec_writeChecked_ok.mp ran
    rw [Table.remove_selected]
    have own : ∀ row, isRemoved tenantId removed row → row.tenantId = tenantId :=
      fun row is => beq_iff_eq.mp (and_eq_true_iff.mp is).1
    refine ⟨SameElsewhere.trans (SameElsewhere.modify own (fun row => ?_) db)
      (SameElsewhere.remove own _), ?_⟩
    · rfl
    change ((db.orgEmployees.map _).filter _).map _ = (db.orgEmployees.map _).filter _
    rw [List.filter_map, List.map_map, List.filter_map]
    have same : (fun row : OrgEmployee => !isRemoved tenantId removed
        (if isRemoved tenantId removed row then row.setParent none else row)) =
        fun row => !isRemoved tenantId removed row := by
      funext row
      by_cases is : isRemoved tenantId removed row = true
      · rw [if_pos is]
        rfl
      · rw [if_neg is]
    change List.map _ (List.filter (fun row => !isRemoved tenantId removed
        (if isRemoved tenantId removed row then row.setParent none else row)) _) = _
    rw [same]
    refine map_congr_left fun row mem => ?_
    have stays := (mem_filter.mp mem).2
    have not : ¬ isRemoved tenantId removed row := by
      intro is
      rw [is] at stays
      cases stays
    simp only [comp, if_neg not]

/-! ## The rebuilt tree -/

theorem isFresh_iff : isFresh fresh userId ↔ userId ∈ fresh.map (·.userId) := by
  unfold isFresh
  rw [List.any_eq_true, List.mem_map]
  exact ⟨fun ⟨record, mem, same⟩ => ⟨record, mem, beq_iff_eq.mp same⟩,
    fun ⟨record, mem, same⟩ => ⟨record, mem, beq_iff_eq.mpr same⟩⟩

theorem mem_removedUserIds {rows : List OrgEmployee} :
    userId ∈ (buildOrgTree toLowerCase fresh (priorEmployees rows)).removedUserIds ↔
      (∃ row ∈ rows, row.userId = some userId) ∧ userId ∉ fresh.map (·.userId) := by
  unfold buildOrgTree
  dsimp only
  rw [mem_filter, not_eq_eq_eq_not, Bool.not_true, eq_false_iff, Ne, isFresh_iff]
  refine and_congr_left fun _ => ?_
  unfold priorEmployees
  rw [List.mem_map]
  constructor
  · rintro ⟨prior, mem, rfl⟩
    rcases mem_filterMap.mp mem with ⟨row, there, is⟩
    obtain ⟨user, named, rfl⟩ := map_eq_some_iff.mp is
    exact ⟨row, there, named⟩
  · rintro ⟨row, there, named⟩
    refine ⟨_, mem_filterMap.mpr ⟨row, there, map_eq_some_iff.mpr ⟨userId, named, rfl⟩⟩, rfl⟩

theorem resolvedParentId_cases (rootId : Id) {entries : List (String × Id)}
    (employee : ResolvedEmployee) :
    resolvedParentId rootId entries employee = rootId ∨ ∃ parent,
      employee.parentUserId = some parent ∧
        idOf entries parent = some (resolvedParentId rootId entries employee) := by
  unfold resolvedParentId
  cases given : employee.parentUserId.filter fun userId => userId != "" with
  | none => exact Or.inl rfl
  | some parent =>
    dsimp only
    cases found : idOf entries parent with
    | none => exact Or.inl rfl
    | some id => exact Or.inr ⟨parent, (filter_eq_some_iff.mp given).1, found⟩

structure Planted (tenantId rootId : Id) (fresh : List OrgSourceRecord)
    (employees : List ResolvedEmployee) (entries : List (String × Id)) (cards : List Card) : Prop where
  sound : Cards.Sound cards
  root : ∃ card ∈ cards, card.id = rootId ∧ card.tenantId = tenantId ∧ card.userId = none
  rowed : EntriesOf tenantId cards entries
  named : entries.map (·.1) = fresh.map (·.userId)
  only : ∀ card ∈ cards, card.tenantId = tenantId → ∀ userId, card.userId = some userId →
    userId ∈ fresh.map (·.userId)
  parents : ∀ card ∈ cards, ∀ employee ∈ employees, card.isUser tenantId employee.userId = true →
    card.parentId = some (resolvedParentId rootId entries employee)

namespace Planted

variable {tenantId rootId : Id} {fresh : List OrgSourceRecord} {entries : List (String × Id)}
  {resolvedParent : String → Option String} {toLowerCase : String → String} {db : OrgDb}

variable {row : OrgEmployee}

theorem mem_rowsOf :
    row ∈ db.rowsOf tenantId ↔ row ∈ db.orgEmployees ∧ row.tenantId = tenantId := by
  unfold rowsOf
  rw [mem_filter]
  exact and_congr_right fun _ => beq_iff_eq

theorem row_of {card : Card} (mem : card ∈ db.cards) (own : card.tenantId = tenantId) :
    ∃ row ∈ db.rowsOf tenantId, row.card = card := by
  rcases mem_cards.mp mem with ⟨row, there, rfl⟩
  exact ⟨row, mem_rowsOf.mpr ⟨there, own⟩, rfl⟩

section

variable
  (planted : Planted tenantId rootId fresh
    (fresh.map (resolveEmployee toLowerCase resolvedParent)) entries db.cards)

include planted

theorem reaches_root (mem : row ∈ db.rowsOf tenantId) (user : row.userId = none) :
    ReachesRoot (db.rowsOf tenantId) row :=
  .root ((planted.sound.roots row.card (mem_cards.mpr ⟨row, (mem_rowsOf.mp mem).1, rfl⟩)).mpr user)

theorem reaches {userId : String}
    (grounded : Grounded (parentAmong fresh resolvedParent) userId) (mem : row ∈ db.rowsOf tenantId)
    (user : row.userId = some userId) : ReachesRoot (db.rowsOf tenantId) row := by
  have place : ∀ {userId row}, row ∈ db.rowsOf tenantId → row.userId = some userId →
      row.parentId = some rootId ∨ ∃ parent card, parentAmong fresh resolvedParent userId =
        some parent ∧ card ∈ db.rowsOf tenantId ∧ card.userId = some parent ∧
          row.parentId = some card.id := by
    intro userId row mem user
    obtain ⟨there, own⟩ := mem_rowsOf.mp mem
    have card : row.card ∈ db.cards := mem_cards.mpr ⟨row, there, rfl⟩
    obtain ⟨record, among, same⟩ := List.mem_map.mp (planted.only row.card card own userId user)
    have parent := planted.parents row.card card (resolveEmployee toLowerCase resolvedParent record)
      (List.mem_map_of_mem among) (Card.isUser_iff.mpr ⟨own, user.trans (congrArg some same.symm)⟩)
    rcases resolvedParentId_cases rootId (resolveEmployee toLowerCase resolvedParent record) with
      root | ⟨manager, is, found⟩
    · left
      rw [root] at parent
      exact parent
    · right
      have entry := mem_of_idOf found
      obtain ⟨managerCard, there', id, own', named⟩ := planted.rowed _ entry
      have known : isFresh fresh manager := by
        rw [isFresh_iff, ← planted.named]
        exact List.mem_map_of_mem entry
      have is : resolvedParent userId = some manager := by
        rw [← same]
        exact is
      obtain ⟨managerRow, memRow, rfl⟩ := row_of there' own'
      refine ⟨manager, managerRow, ?_, memRow, named, parent.trans (congrArg some id.symm)⟩
      unfold parentAmong
      rw [is, filter_some, if_pos known]
  have top : ∀ {row : OrgEmployee}, row.parentId = some rootId →
      ReachesRoot (db.rowsOf tenantId) row := by
    intro row parent
    obtain ⟨card, there, id, own, user⟩ := planted.root
    obtain ⟨rootRow, memRow, rfl⟩ := row_of there own
    exact .up memRow (parent.trans (congrArg some id.symm)) (planted.reaches_root memRow user)
  induction grounded generalizing row with
  | root ends =>
    rcases place mem user with parent | ⟨manager, card, points, _⟩
    · exact top parent
    · cases ends.symm.trans points
  | step points _ ih =>
    rcases place mem user with parent | ⟨manager, card, points', memCard, named, parent⟩
    · exact top parent
    · cases points.symm.trans points'
      exact .up memCard parent (ih memCard named)

theorem rootedTree (distinct : (fresh.map (·.userId)).Nodup)
    (grounded : ∀ record ∈ fresh, Grounded (parentAmong fresh resolvedParent) record.userId) :
    db.RootedTree tenantId (fresh.map (·.userId)) := by
  constructor
  · have ids : (db.orgEmployees.map (·.id)).Nodup := by
      have ids := planted.sound.ids
      unfold OrgDb.cards at ids
      rw [List.map_map] at ids
      exact ids
    have nodup : ((db.rowsOf tenantId).map (·.userId)).Nodup := by
      refine Nodup.map_on (fun row mem row' mem' same => ?_)
        ((Nodup.of_map _ ids).sublist filter_sublist)
      obtain ⟨there, own⟩ := mem_rowsOf.mp mem
      obtain ⟨there', own'⟩ := mem_rowsOf.mp mem'
      have cards := planted.sound.eq_of_user (mem_cards.mpr ⟨row, there, rfl⟩)
        (mem_cards.mpr ⟨row', there', rfl⟩) (own.trans own'.symm) same
      exact inj_on_of_nodup_map ids there there' (congrArg Card.id cards)
    have nodup' : (none :: (fresh.map (·.userId)).map some).Nodup := by
      refine nodup_cons.mpr ⟨fun mem => ?_, distinct.map (some_injective _)⟩
      rcases List.mem_map.mp mem with ⟨_, _, same⟩
      cases same
    refine (perm_ext_iff_of_nodup nodup nodup').mpr fun user => ?_
    rw [List.mem_map, mem_cons]
    constructor
    · rintro ⟨row, mem, rfl⟩
      obtain ⟨there, own⟩ := mem_rowsOf.mp mem
      cases user : row.userId with
      | none => exact Or.inl rfl
      | some userId =>
        exact Or.inr (List.mem_map_of_mem
          (planted.only row.card (mem_cards.mpr ⟨row, there, rfl⟩) own userId user))
    · rintro (rfl | mem)
      · obtain ⟨card, there, _, own, user⟩ := planted.root
        obtain ⟨row, memRow, rfl⟩ := row_of there own
        exact ⟨row, memRow, user⟩
      · rcases List.mem_map.mp mem with ⟨userId, known, rfl⟩
        rw [← planted.named] at known
        rcases List.mem_map.mp known with ⟨entry, there, rfl⟩
        obtain ⟨card, there, _, own, user⟩ := planted.rowed entry there
        obtain ⟨row, memRow, rfl⟩ := row_of there own
        exact ⟨row, memRow, user⟩
  · intro row mem
    exact planted.sound.roots row.card (mem_cards.mpr ⟨row, (mem_rowsOf.mp mem).1, rfl⟩)
  · intro row mem
    obtain ⟨there, own⟩ := mem_rowsOf.mp mem
    cases user : row.userId with
    | none => exact planted.reaches_root mem user
    | some userId =>
      have known := planted.only row.card (mem_cards.mpr ⟨row, there, rfl⟩) own userId user
      rcases List.mem_map.mp known with ⟨record, among, rfl⟩
      exact planted.reaches (grounded record among) mem user

end

end Planted

def OrgDb.builtTree (db : OrgDb) (toLowerCase : String → String) (tenantId : Id)
    (fresh : List OrgSourceRecord) : OrgTreeBuildResult :=
  buildOrgTree toLowerCase fresh (priorEmployees (db.orgEmployees.filter (OrgEmployee.isOf tenantId)))

theorem exec_rebuildTree_ok
    (ran : (rebuildTree toLowerCase tenantId fresh now supply).exec db = .ok (plan, db')) :
    plan = db.builtTree toLowerCase tenantId fresh ∧
      ∃ tenant rootId entries db₁ db₂ db₃, tenant.id = tenantId ∧
        (ensureRoot tenant now supply).exec db = .ok (rootId, db₁) ∧
        (upsertEmployees tenantId now supply plan.employees).exec db₁ = .ok (entries, db₂) ∧
        (forEach plan.employees (placeEmployee tenantId rootId entries)).exec db₂ = .ok ((), db₃) ∧
        (removeEmployees tenantId plan.removedUserIds).exec db₃ = .ok ((), db') := by
  unfold rebuildTree at ran
  simp only [bind_eq] at ran
  obtain ⟨found, db₀, read, ran⟩ := exec_bind_ok.mp ran
  cases read
  obtain ⟨tenant, db₀, got, ran⟩ := exec_bind_ok.mp ran
  obtain ⟨is, same⟩ := exec_getOr_ok.mp got
  cases same
  have found : db.tenants.find? (fun tenant => tenant.id == tenantId) = some tenant := is
  have named := find?_some found
  obtain ⟨rows, mid, selected, ran⟩ := exec_bind_ok.mp ran
  cases selected
  obtain ⟨rootId, db₁, rooted, ran⟩ := exec_bind_ok.mp ran
  obtain ⟨entries, db₂, upserted, ran⟩ := exec_bind_ok.mp ran
  obtain ⟨u, db₃, placed, ran⟩ := exec_bind_ok.mp ran
  obtain ⟨u', db₄, removed, ran⟩ := exec_bind_ok.mp ran
  cases ran
  exact ⟨rfl, tenant, rootId, entries, db₁, db₂, db₃, beq_iff_eq.mp named, rooted, upserted, placed,
    removed⟩

theorem rebuildTree_rooted (sound : Cards.Sound db.cards) (distinct : (fresh.map (·.userId)).Nodup)
    (ran : (rebuildTree toLowerCase tenantId fresh now supply).exec db = .ok (plan, db')) :
    Cards.Sound db'.cards ∧ SameElsewhere tenantId db db' ∧
      db'.RootedTree tenantId (fresh.map (·.userId)) := by
  obtain ⟨built, tenant, rootId, entries, db₁, db₂, db₃, rfl, rooted, upserted, placed, removed⟩ :=
    exec_rebuildTree_ok ran
  obtain ⟨first, root, rootThere, rootIs, rootOwn, rootUser⟩ := exec_ensureRoot_ok sound rooted
  obtain ⟨second, named, rowed⟩ := exec_upsertEmployees_ok first.sound upserted
  have users : plan.employees.map (·.userId) = fresh.map (·.userId) := by
    rw [built]
    exact List.map_map.trans rfl
  have gone : ∀ userId, userId ∈ plan.removedUserIds ↔
      (∃ row ∈ db.orgEmployees.filter (isOf tenant.id), row.userId = some userId) ∧
        userId ∉ fresh.map (·.userId) := by
    intro userId
    rw [built]
    exact mem_removedUserIds
  obtain ⟨f, third, sets, _⟩ := exec_placeEmployees_ok second.sound rowed (fun employee mem => by
    rw [named]
    exact List.mem_map_of_mem mem) (users ▸ distinct) placed
  obtain ⟨last, filtered⟩ := exec_removeEmployees_ok removed
  have sound₃ : Cards.Sound db₃.cards := third.cards ▸ second.sound.map third.kept
  have sub : db'.cards.Sublist db₃.cards := filtered ▸ filter_sublist
  have elsewhere := ((first.elsewhere.trans second.elsewhere).trans third.elsewhere).trans last
  -- a card without a user, or of an employee of the pull, is not removed
  have stays : ∀ card ∈ db₃.cards, (∀ userId, card.userId = some userId →
      userId ∈ fresh.map (·.userId)) → card ∈ db'.cards := by
    intro card mem known
    rw [filtered]
    refine mem_filter.mpr ⟨mem, ?_⟩
    rw [not_eq_eq_eq_not, Bool.not_true, and_eq_false_iff]
    right
    cases user : card.userId with
    | none => rfl
    | some userId =>
      refine eq_false_iff.mpr fun contains => ?_
      exact ((gone userId).mp (contains_iff_mem.mp contains)).2 (known userId user)
  have planted : Planted tenant.id rootId fresh plan.employees entries db'.cards := by
    refine ⟨sound₃.sublist sub, ?_, ?_, named.trans users, ?_, ?_⟩
    · obtain ⟨id, own, user, _⟩ := third.kept root
      refine ⟨f root, stays _ ?_ fun userId is => ?_, id.trans rootIs, own.trans rootOwn,
        user.trans rootUser⟩
      · rw [third.cards]
        exact List.mem_map_of_mem (second.kept rootThere)
      · cases (user.trans rootUser).symm.trans is
    · intro entry mem
      obtain ⟨card, there, id, own, user⟩ := third.entries rowed entry mem
      refine ⟨card, stays card there fun userId is => ?_, id, own, user⟩
      cases user.symm.trans is
      rw [← users, ← named]
      exact List.mem_map_of_mem mem
    · intro card mem own userId user
      have there := sub.subset mem
      rw [third.cards] at there
      rcases List.mem_map.mp there with ⟨placed, among, rfl⟩
      obtain ⟨id, own', user', _⟩ := third.kept placed
      obtain ⟨added, cards, of⟩ := first.added
      obtain ⟨added', cards', of'⟩ := second.added
      rw [cards', cards] at among
      rcases mem_append.mp among with before | new
      · rcases mem_append.mp before with old | new
        · -- a row of the prior tree is of the pull, or removed
          by_contra absent
          rw [filtered] at mem
          have kept := (mem_filter.mp mem).2
          rcases mem_cards.mp old with ⟨row, memRow, rfl⟩
          have known : userId ∈ plan.removedUserIds :=
            (gone userId).mpr ⟨⟨row, mem_filter.mpr
              ⟨memRow, beq_iff_eq.mpr (own'.symm.trans own)⟩, user'.symm.trans user⟩, absent⟩
          rw [own, user, any_some, contains_iff_mem.mpr known, beq_self_eq_true] at kept
          cases kept
        · cases (mem_singleton.mp (of placed new).2).symm.trans (user'.symm.trans user)
      · rcases List.mem_map.mp (of' placed new).2 with ⟨employee, mem, same⟩
        cases same.trans (user'.symm.trans user)
        rw [← users]
        exact List.mem_map_of_mem mem
    · intro card mem employee among is
      have there := sub.subset mem
      rw [third.cards] at there
      rcases List.mem_map.mp there with ⟨card, there, rfl⟩
      have kept := third.kept card
      exact sets employee among card ((Card.isUser_congr kept.2.1 kept.2.2.1).symm.trans is)
  refine ⟨planted.sound, elsewhere, ?_⟩
  subst built
  exact planted.rootedTree distinct fun record mem => breakCycles_grounded _ mem

end OpenWind
