import OpenWind.Entity.Validation
import OpenWind.OrgDirectory.RootedTree
import OpenWind.Lib.GuardedWalks
import OpenWind.Lib.Rows

/-!
# Queries of the org directory

The chain of a user is found by following the parents up to the root, and the people below a user
level by level from the children of each row.  Both leave out the root, which is no person, and
both remember the rows that they have visited, as a cycle may have survived the syncs.
-/

open List Option

namespace OpenWind

open Pointers GuardedWalks

structure OrgNode where
  userId : String
  parentId : Option Id
  name : String
  title : String
  department : String
  email : String
  isRoot : Bool

def toNode (row : OrgEmployee) : OrgNode where
  userId := row.userId.getD row.id.text
  parentId := row.parentId
  name := row.name
  title := row.title
  department := row.department
  email := row.email
  isRoot := row.isRoot

/-! ## The queries -/

section Queries

variable (rows : List OrgEmployee)

/-- The first row of the user. -/
def startOf (userId : String) : Option OrgEmployee := rows.find? fun r => r.userId == some userId

/-- `byId.get(id)`. -/
def byId (id : Id) : Option OrgEmployee := rows.find? fun r => r.id == id

/-- The row that the walk up goes on to: it ends at the root. -/
def parentCard (row : OrgEmployee) : Option OrgEmployee :=
  (row.parentId.bind (byId rows)).filter (!·.isRoot)

def reportsOf (row : OrgEmployee) : List OrgEmployee :=
  (rows.filter fun child => child.parentId == some row.id).filter (·.userId.isSome)

def getChainToRoot (userId : String) : Option (List OrgNode) :=
  match startOf rows userId with
  | none => some []
  | some start =>
    (climb OrgEmployee.id (parentCard rows) (rows.length + 1) ((some start).filter (!·.isRoot))
      []).map (·.map toNode)

def getReportsByLevel (userId : String) : Option (List (List OrgNode)) :=
  match startOf rows userId with
  | none => some []
  | some start =>
    (levels OrgEmployee.id (reportsOf rows) (rows.length + 1) (reportsOf rows start)
      [start.id]).map (·.map (·.map toNode))

/-- Everybody on the levels once, without the user. -/
def addMember (userId : String) (members : List OrgNode) (node : OrgNode) : List OrgNode :=
  if node.userId == userId || members.any (·.userId == node.userId) then members
  else members ++ [node]

structure SubtreeMembers where
  ids : List String
  members : List OrgNode

def getSubtreeMembers (userId : String) : Option SubtreeMembers :=
  (getReportsByLevel rows userId).map fun found =>
    let members := found.flatten.foldl (addMember userId) []
    ⟨members.map (·.userId), members⟩

end Queries

/-! ## The rows of a tenant -/

structure People (rows : List OrgEmployee) : Prop where
  ids : (rows.map (·.id)).Nodup
  roots : ∀ row ∈ rows, row.isRoot = true ↔ row.userId = none
  users : ∀ row ∈ rows, ∀ other ∈ rows, row.userId.isSome = true → row.userId = other.userId →
    row = other

def persons (rows : List OrgEmployee) : List OrgEmployee := rows.filter (·.userId.isSome)

variable {rows : List OrgEmployee}

variable {row start : OrgEmployee} {userId : String}

theorem mem_persons : row ∈ persons rows ↔ row ∈ rows ∧ row.userId.isSome := mem_filter

namespace People

variable (people : People rows)
include people

theorem unique {row other : OrgEmployee} (mem : row ∈ rows) (there : other ∈ rows)
    (same : row.id = other.id) : row = other :=
  inj_on_of_nodup_map people.ids mem there same

theorem not_root {row : OrgEmployee} (mem : row ∈ rows) :
    row.isRoot = false ↔ row.userId.isSome := by
  rw [← Bool.not_eq_true, people.roots row mem, isSome_iff_ne_none]

theorem byId_eq_some {id : Id} {row : OrgEmployee} :
    byId rows id = some row ↔ row ∈ rows ∧ row.id = id :=
  Rows.find?_iff people.ids fun _ => beq_iff_eq

theorem parentCard_eq_some {row parent : OrgEmployee} :
    parentCard rows row = some parent ↔ parent ∈ persons rows ∧ row.parentId = some parent.id := by
  unfold parentCard
  rw [filter_eq_some_iff, mem_persons]
  constructor
  · rintro ⟨found, plain⟩
    obtain ⟨id, points, found⟩ := bind_eq_some_iff.mp found
    obtain ⟨mem, rfl⟩ := people.byId_eq_some.mp found
    exact ⟨⟨mem, (people.not_root mem).mp (by simpa using plain)⟩, points⟩
  · rintro ⟨⟨mem, user⟩, points⟩
    refine ⟨?_, by simpa using (people.not_root mem).mpr user⟩
    rw [points]
    exact people.byId_eq_some.mpr ⟨mem, rfl⟩

end People

theorem mem_reportsOf {row child : OrgEmployee} :
    child ∈ reportsOf rows row ↔ child ∈ persons rows ∧ child.parentId = some row.id := by
  unfold reportsOf
  rw [mem_filter, mem_filter, mem_persons, beq_iff_eq]
  exact and_right_comm

section Walks

variable (people : People rows)
include people

theorem persons_unique : ∀ row ∈ persons rows, ∀ other ∈ persons rows, row.id = other.id →
    row = other :=
  fun _ mem _ there => people.unique (mem_persons.mp mem).1 (mem_persons.mp there).1

theorem parentCard_closed : ∀ row ∈ persons rows, ∀ parent, parentCard rows row = some parent →
    parent ∈ persons rows :=
  fun _ _ _ points => (people.parentCard_eq_some.mp points).1

omit people in
theorem reportsOf_closed : ∀ row ∈ persons rows, ∀ child ∈ reportsOf rows row,
    child ∈ persons rows :=
  fun _ _ _ below => (mem_reportsOf.mp below).1

theorem reportsOf_inverse : ∀ row ∈ persons rows, ∀ child, child ∈ reportsOf rows row ↔
    child ∈ persons rows ∧ parentCard rows child = some row := by
  intro row mem child
  rw [mem_reportsOf, people.parentCard_eq_some]
  exact ⟨fun ⟨held, points⟩ => ⟨held, mem, points⟩, fun ⟨held, _, points⟩ => ⟨held, points⟩⟩

theorem startOf_eq_some {userId : String} {row : OrgEmployee} :
    startOf rows userId = some row ↔ row ∈ rows ∧ row.userId = some userId := by
  constructor
  · intro found
    have same := find?_some (p := fun r : OrgEmployee => r.userId == some userId) found
    exact ⟨mem_of_find?_eq_some found, eq_of_beq same⟩
  · rintro ⟨mem, user⟩
    cases found : startOf rows userId with
    | none =>
      have absent := find?_eq_none.mp found row mem
      exact absurd (beq_iff_eq.mpr user) absent
    | some other =>
      have same := eq_of_beq (find?_some (p := fun r : OrgEmployee =>
        r.userId == some userId) found)
      rw [people.users other (mem_of_find?_eq_some found) row mem (by rw [same]; rfl)
        (same.trans user.symm)]

omit people in
theorem persons_le (rows : List OrgEmployee) : (persons rows).length ≤ rows.length := length_filter_le _ _

end Walks

theorem toNode_userId (user : row.userId = some userId) : (toNode row).userId = userId := by
  simp [toNode, user]

theorem named_iff (people : People rows) {path : List OrgEmployee}
    (inside : ∀ row ∈ path, row ∈ persons rows) :
    userId ∈ (path.map toNode).map (·.userId) ↔ ∃ row ∈ path, startOf rows userId = some row := by
  rw [List.map_map, List.mem_map]
  constructor
  · rintro ⟨row, there, named⟩
    obtain ⟨mem, some_⟩ := mem_persons.mp (inside row there)
    obtain ⟨own, user⟩ := isSome_iff_exists.mp some_
    have same : own = userId := (toNode_userId user).symm.trans named
    exact ⟨row, there, (startOf_eq_some people).mpr ⟨mem, by rw [user, same]⟩⟩
  · rintro ⟨row, there, found⟩
    exact ⟨row, there, toNode_userId ((startOf_eq_some people).mp found).2⟩

theorem start_person (people : People rows) (found : startOf rows userId = some start) :
    start ∈ persons rows := by
  obtain ⟨mem, user⟩ := (startOf_eq_some people).mp found
  exact mem_persons.mpr ⟨mem, by rw [user]; rfl⟩

theorem chain_spec (people : People rows) (found : startOf rows userId = some start) :
    ∃ chain, getChainToRoot rows userId = some chain ∧ ∀ other,
      other ∈ chain.map (·.userId) ↔
        ∃ row, startOf rows other = some row ∧ LeadsTo (parentCard rows) start row := by
  have person := start_person people found
  have plain : (some start).filter (!·.isRoot) = some start := by
    obtain ⟨mem, user⟩ := mem_persons.mp person
    rw [filter_some, (people.not_root mem).mpr user]
    rfl
  have fewer := persons_le rows
  obtain ⟨path, ran⟩ : ∃ path, climb OrgEmployee.id (parentCard rows) (rows.length + 1)
      (some start) [] = some path :=
    climb_ends (parentCard_closed people) (rows.length + 1) (some start)
      (fun a same => by cases same; exact person) nodup_nil (nil_subset _)
      (by rw [length_nil]; omega)
  have reached : ∀ {row}, row ∈ path ↔ LeadsTo (parentCard rows) start row :=
    mem_climb (persons_unique people) (parentCard_closed people) person ran
  have inside : ∀ row ∈ path, row ∈ persons rows := by
    intro row mem
    have leads := reached.mp mem
    clear mem
    induction leads with
    | refl => exact person
    | tail _ points ih => exact parentCard_closed people _ ih _ points
  refine ⟨path.map toNode, ?_, fun other => ?_⟩
  · unfold getChainToRoot
    rw [found]
    dsimp only
    rw [plain, ran]
    rfl
  · rw [named_iff people inside]
    exact exists_congr fun row => by rw [reached, and_comm]

/-! ## Members -/

theorem mem_members {userId other : String} {nodes members : List OrgNode} :
    other ∈ (nodes.foldl (addMember userId) members).map (·.userId) ↔
      other ∈ members.map (·.userId) ∨ (other ≠ userId ∧ other ∈ nodes.map (·.userId)) := by
  induction nodes generalizing members with
  | nil => simp
  | cons node nodes ih =>
    rw [foldl_cons, ih, map_cons, mem_cons]
    unfold addMember
    split
    · next skipped =>
      rw [Bool.or_eq_true, beq_iff_eq] at skipped
      constructor
      · rintro (old | ⟨different, later⟩)
        · exact .inl old
        · exact .inr ⟨different, .inr later⟩
      · rintro (old | ⟨different, rfl | later⟩)
        · exact .inl old
        · obtain ⟨held, mem, same⟩ := List.any_eq_true.mp (skipped.resolve_left different)
          exact .inl (List.mem_map.mpr ⟨held, mem, eq_of_beq same⟩)
        · exact .inr ⟨different, later⟩
    · next added =>
      rw [Bool.or_eq_true, beq_iff_eq, not_or] at added
      rw [map_append, mem_append, map_singleton, mem_singleton]
      constructor
      · rintro ((old | rfl) | ⟨different, later⟩)
        · exact .inl old
        · exact .inr ⟨added.1, .inl rfl⟩
        · exact .inr ⟨different, .inr later⟩
      · rintro (old | ⟨different, rfl | later⟩)
        · exact .inl (.inl old)
        · exact .inl (.inr rfl)
        · exact .inr ⟨different, later⟩

theorem members_spec (people : People rows) (found : startOf rows userId = some start) :
    ∃ below, getSubtreeMembers rows userId = some below ∧ ∀ other,
      other ∈ below.ids ↔ other ≠ userId ∧
        ∃ row, startOf rows other = some row ∧ Below (reportsOf rows) start row := by
  have person := start_person people found
  have fewer := persons_le rows
  obtain ⟨listed, ran⟩ : ∃ listed, levels OrgEmployee.id (reportsOf rows) (rows.length + 1)
      (reportsOf rows start) [start.id] = some listed :=
    levels_ends reportsOf_closed (rows.length + 1) (reportsOf_closed start person)
      (nodup_singleton _)
      (fun id mem => by rw [mem_singleton.mp mem]; exact List.mem_map_of_mem person)
      (Nat.succ_pos _) (fun _ => by rw [length_singleton]; omega)
  have reached : ∀ {row}, row ∈ listed.flatten ↔ Below (reportsOf rows) start row :=
    mem_levels (persons_unique people) reportsOf_closed person ran
  have inside : ∀ row ∈ listed.flatten, row ∈ persons rows := by
    intro row mem
    have below := reached.mp mem
    clear mem
    induction below with
    | single step => exact reportsOf_closed _ person _ step
    | tail _ step ih => exact reportsOf_closed _ ih _ step
  have byLevel : getReportsByLevel rows userId = some (listed.map (·.map toNode)) := by
    unfold getReportsByLevel
    rw [found]
    dsimp only
    rw [ran]
    rfl
  refine ⟨_, by rw [getSubtreeMembers, byLevel]; rfl, fun other => ?_⟩
  dsimp only
  rw [mem_members, ← map_flatten, named_iff people inside]
  constructor
  · rintro (none_ | ⟨different, row, there, here⟩)
    · cases none_
    · exact ⟨different, row, here, reached.mp there⟩
  · rintro ⟨different, row, here, below⟩
    exact .inr ⟨different, row, reached.mpr below, here⟩

/-- Both queries end for every user; and of two users the second is among the members below the
first exactly when the first is in the chain of the second, cycles or not. -/
theorem org_queries_dual (rows : List OrgEmployee) (people : People rows) (u v : String)
    (different : u ≠ v) :
    ∃ below chain, getSubtreeMembers rows u = some below ∧ getChainToRoot rows v = some chain ∧
      (v ∈ below.ids ↔ u ∈ chain.map (·.userId)) := by
  cases upper : startOf rows u with
  | none =>
    have empty : getSubtreeMembers rows u = some ⟨[], []⟩ := by
      rw [getSubtreeMembers, getReportsByLevel, upper]
      rfl
    cases lower : startOf rows v with
    | none => exact ⟨_, [], empty, by rw [getChainToRoot, lower], by simp⟩
    | some bottom =>
      obtain ⟨chain, ran, names⟩ := chain_spec people lower
      refine ⟨_, chain, empty, ran, iff_of_false not_mem_nil fun mem => ?_⟩
      obtain ⟨row, found, _⟩ := (names u).mp mem
      rw [upper] at found
      cases found
  | some top =>
    obtain ⟨below, walked, members⟩ := members_spec people upper
    cases lower : startOf rows v with
    | none =>
      refine ⟨below, [], walked, by rw [getChainToRoot, lower], iff_of_false (fun mem => ?_)
        not_mem_nil⟩
      obtain ⟨_, row, found, _⟩ := (members v).mp mem
      rw [lower] at found
      cases found
    | some bottom =>
      obtain ⟨chain, ran, names⟩ := chain_spec people lower
      refine ⟨below, chain, walked, ran, ?_⟩
      have apart : top ≠ bottom := by
        rintro rfl
        have first := ((startOf_eq_some people).mp upper).2
        have second := ((startOf_eq_some people).mp lower).2
        exact different (Option.some.inj (first.symm.trans second))
      have dual := below_iff_leadsTo (parentCard_closed people) (reportsOf_inverse people)
        (start_person people upper) (start_person people lower) apart
      rw [members, names, upper, lower]
      constructor
      · rintro ⟨_, row, same, under⟩
        cases same
        exact ⟨top, rfl, dual.mp under⟩
      · rintro ⟨row, same, leads⟩
        cases same
        exact ⟨different.symm, bottom, rfl, dual.mpr leads⟩

/-! ## A cycle that survived -/

def employee (id : Id) (userId : Option String) (parentId : Option Id) : OrgEmployee where
  id := id
  tenantId := 1
  userId := userId
  parentId := parentId
  name := "Acme"
  isRoot := userId.isNone
  createdAt := 0
  updatedAt := 0

def cyclicRows : List OrgEmployee :=
  [employee 10 none none, employee 11 (some "ann") (some 12), employee 12 (some "bob") (some 11),
    employee 13 (some "cid") (some 12)]

theorem cyclicRows_people : People cyclicRows := by
  refine ⟨by decide, ?_, ?_⟩
  · simp [cyclicRows, employee]
  · simp [cyclicRows, employee]

theorem org_queries_dual_at_cycle :
    ∃ below chain, getSubtreeMembers cyclicRows "ann" = some below ∧
      getChainToRoot cyclicRows "cid" = some chain ∧
      ("cid" ∈ below.ids ↔ "ann" ∈ chain.map (·.userId)) :=
  org_queries_dual cyclicRows cyclicRows_people "ann" "cid" (by decide)

example : (getChainToRoot cyclicRows "cid").map (·.map (·.userId)) = some ["cid", "bob", "ann"] ∧
    (getSubtreeMembers cyclicRows "ann").map (·.ids) = some ["bob", "cid"] := by
  decide

end OpenWind
