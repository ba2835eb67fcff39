import OpenWind.Lib.Keyset
import OpenWind.OnCall.TeamMembers

/-!
# Positions in a team

A removal from a team leaves a gap between the positions of its members.  It is closed with one
update for each row that moves, under a unique index on the team and the position.
-/

open List

namespace OpenWind

/-- A row of `team_members` with its primary key. -/
structure MemberRow extends TeamMemberRow where
  id : Id
  deriving DecidableEq

namespace MemberRow

def isIn (tenantId teamId : Id) (row : MemberRow) : Bool := row.isOf tenantId teamId

def placed (tenantId id : Id) (index : Nat) (row : MemberRow) : MemberRow :=
  if row.tenantId = tenantId ∧ row.id = id then { row with position := index } else row

def ordered (tenantId teamId : Id) (rows : List MemberRow) : List MemberRow :=
  (rows.filter (isIn tenantId teamId)).insertionSort fun row row' => row.position ≤ row'.position

def renumber (tenantId : Id) : Nat → List MemberRow → List MemberRow → List (List MemberRow)
  | _, [], _ => []
  | index, row :: rest, rows =>
    if row.position = index then renumber tenantId (index + 1) rest rows
    else
      let updated := rows.map (placed tenantId row.id index)
      updated :: renumber tenantId (index + 1) rest updated

/-- The tables after each of the updates. -/
def compactTeamPositions (tenantId teamId : Id) (rows : List MemberRow) : List (List MemberRow) :=
  renumber tenantId 0 (ordered tenantId teamId rows) rows

/-! ## Distinct positions -/

def Distinct (tenantId teamId : Id) (rows : List MemberRow) : Prop :=
  ((rows.filter (isIn tenantId teamId)).map (·.position)).Nodup

def UniquePositions (rows : List MemberRow) : Prop :=
  (rows.map fun row => (row.teamId, row.position)).Nodup

/-- The tables agree on the rows of the other teams. -/
def SameOthers (tenantId teamId : Id) (rows rows' : List MemberRow) : Prop :=
  rows'.filter (fun row => !row.isIn tenantId teamId) =
    rows.filter fun row => !row.isIn tenantId teamId

structure Numbered (tenantId teamId : Id) (rows front rest : List MemberRow) : Prop where
  members : (rows.filter (isIn tenantId teamId)).Perm (front ++ rest)
  keyed : (rows.map (·.id)).Nodup
  counted : front.map (·.position) = range front.length
  sorted : rest.Pairwise fun row row' => row.position < row'.position
  waiting : ∀ row ∈ rest, front.length ≤ row.position

variable {tenantId teamId id : Id} {index : Nat} {row : MemberRow}
  {rows rows' front rest : List MemberRow}

theorem placed_id : (row.placed tenantId id index).id = row.id := by
  unfold placed
  split <;> rfl

theorem placed_isIn :
    (row.placed tenantId id index).isIn tenantId teamId = row.isIn tenantId teamId := by
  unfold placed
  split <;> rfl

theorem filter_placed (p : Bool → Bool) :
    (rows.map (placed tenantId id index)).filter (fun row => p (row.isIn tenantId teamId)) =
      (rows.filter fun row => p (row.isIn tenantId teamId)).map (placed tenantId id index) := by
  rw [filter_map]
  congr 1
  exact filter_congr fun row _ => congrArg p placed_isIn

theorem placed_other (other : row.id ≠ id) : row.placed tenantId id index = row :=
  if_neg fun same => other same.2

theorem map_id_of {f : MemberRow → MemberRow} (same : ∀ row ∈ rows, f row = row) :
    rows.map f = rows :=
  (map_congr_left same).trans (map_id _)

theorem ordered_sorted (distinct : Distinct tenantId teamId rows) :
    (ordered tenantId teamId rows).Pairwise fun row row' => row.position < row'.position := by
  have sorted := Keyset.after_sorted distinct none
  have all : (rows.filter (isIn tenantId teamId)).filter (Keyset.above (·.position) none) =
    rows.filter (isIn tenantId teamId) := filter_eq_self.mpr fun _ _ => rfl
  rwa [Keyset.after, all] at sorted

theorem ordered_eq (members : (rows.filter (isIn tenantId teamId)).Perm front)
    (sorted : front.Pairwise fun row row' => row.position < row'.position) :
    ordered tenantId teamId rows = front := by
  have distinct : Distinct tenantId teamId rows := by
    refine (members.map (·.position)).nodup_iff.mpr ?_
    exact pairwise_map.mpr (sorted.imp Nat.ne_of_lt)
  have perm : (ordered tenantId teamId rows).Perm front := (perm_insertionSort _ _).trans members
  exact perm.eq_of_pairwise (fun row row' _ _ below above => absurd below (Nat.lt_asymm above))
    (ordered_sorted distinct) sorted

theorem Numbered.distinct (numbered : Numbered tenantId teamId rows front rest) :
    Distinct tenantId teamId rows := by
  refine (numbered.members.map (·.position)).nodup_iff.mpr ?_
  rw [map_append, numbered.counted]
  refine nodup_append'.mpr ⟨nodup_range, pairwise_map.mpr (numbered.sorted.imp Nat.ne_of_lt), ?_⟩
  intro position low high
  obtain ⟨row, mem, rfl⟩ := mem_map.mp high
  exact absurd (mem_range.mp low) (Nat.not_lt.mpr (numbered.waiting row mem))

section

variable (numbered : Numbered tenantId teamId rows front (row :: rest))

include numbered

theorem Numbered.skip (placed : row.position = front.length) :
    Numbered tenantId teamId rows (front ++ [row]) rest := by
  obtain ⟨after, sorted⟩ := pairwise_cons.mp numbered.sorted
  refine ⟨?_, numbered.keyed, ?_, sorted, fun later mem => ?_⟩
  · rw [append_assoc]
    exact numbered.members
  · rw [map_append, numbered.counted, length_append, length_singleton, range_succ, ← placed]
    rfl
  · rw [length_append, length_singleton, ← placed]
    exact after later mem

theorem Numbered.place :
    Numbered tenantId teamId (rows.map (placed tenantId row.id front.length))
      (front ++ [{ row with position := front.length }]) rest := by
  obtain ⟨after, sorted⟩ := pairwise_cons.mp numbered.sorted
  have mem : row ∈ rows.filter (isIn tenantId teamId) :=
    numbered.members.mem_iff.mpr (mem_append_right _ mem_cons_self)
  have tenant : row.tenantId = tenantId := (TeamMemberRow.isOf_iff.mp (mem_filter.mp mem).2).1
  have keyed : ((front ++ row :: rest).map (·.id)).Nodup :=
    (numbered.members.map (·.id)).nodup_iff.mp (numbered.keyed.sublist (filter_sublist.map _))
  have stays : ∀ other ∈ front ++ rest, other.placed tenantId row.id front.length = other := by
    rw [(perm_middle.map _).nodup_iff, map_cons, nodup_cons] at keyed
    exact fun other mem => placed_other fun same => keyed.1 (mem_map.mpr ⟨other, mem, same⟩)
  have moved : (front ++ row :: rest).map (placed tenantId row.id front.length) =
      front ++ { row with position := front.length } :: rest := by
    have here : row.placed tenantId row.id front.length = { row with position := front.length } :=
      if_pos ⟨tenant, rfl⟩
    rw [map_append, map_cons, here,
      map_id_of fun other mem => stays other (mem_append_left _ mem),
      map_id_of fun other mem => stays other (mem_append_right _ mem)]
  refine ⟨?_, ?_, ?_, sorted, fun later mem => ?_⟩
  · rw [filter_placed (fun inside => inside), append_assoc, singleton_append, ← moved]
    exact numbered.members.map _
  · rw [map_map]
    have same : (·.id) ∘ placed tenantId row.id front.length = (·.id) := funext fun _ => placed_id
    rw [same]
    exact numbered.keyed
  · rw [map_append, numbered.counted, length_append, length_singleton, range_succ]
    rfl
  · rw [length_append, length_singleton]
    exact Nat.lt_of_le_of_lt (numbered.waiting row mem_cons_self) (after later mem)

theorem Numbered.others :
    SameOthers tenantId teamId rows (rows.map (placed tenantId row.id index)) := by
  have mem : row ∈ rows.filter (isIn tenantId teamId) :=
    numbered.members.mem_iff.mpr (mem_append_right _ mem_cons_self)
  obtain ⟨mem, inside⟩ := mem_filter.mp mem
  refine (filter_placed (fun inside => !inside)).trans (map_id_of fun other mem' => ?_)
  obtain ⟨listed, outside⟩ := mem_filter.mp mem'
  refine placed_other fun same => ?_
  rw [inj_on_of_nodup_map numbered.keyed listed mem same, inside] at outside
  cases outside

end

theorem Numbered.renumber (numbered : Numbered tenantId teamId rows front rest) :
    (∀ state ∈ renumber tenantId front.length rest rows,
      Distinct tenantId teamId state ∧ SameOthers tenantId teamId rows state) ∧
    ∃ last, Numbered tenantId teamId
        ((MemberRow.renumber tenantId front.length rest rows).getLastD rows) last [] ∧
      last.map (·.id) = (front ++ rest).map (·.id) := by
  induction rest generalizing rows front with
  | nil => exact ⟨forall_mem_nil _, front, numbered, by rw [append_nil]⟩
  | cons row rest ih =>
    unfold MemberRow.renumber
    split
    · next here =>
      have next := ih (numbered.skip here)
      rwa [length_append, append_assoc] at next
    · obtain ⟨states, last, final, order⟩ := ih numbered.place
      rw [length_append, length_singleton] at states final
      refine ⟨forall_mem_cons.mpr ⟨⟨numbered.place.distinct, numbered.others⟩, fun state mem => ?_⟩,
        last, ?_, ?_⟩
      · exact ⟨(states state mem).1, (states state mem).2.trans numbered.others⟩
      · rwa [getLastD_cons]
      · rw [order]
        simp only [map_append, map_cons, append_assoc, singleton_append]

theorem Distinct.unique (distinct : Distinct tenantId teamId rows')
    (others : SameOthers tenantId teamId rows rows') (unique : UniquePositions rows)
    (tenant : ∀ row ∈ rows, row.teamId = teamId → row.tenantId = tenantId) :
    UniquePositions rows' := by
  refine ((filter_append_perm (isIn tenantId teamId) rows').map _).nodup_iff.mp ?_
  rw [map_append, others]
  refine nodup_append'.mpr ⟨Nodup.of_map Prod.snd (by rwa [map_map]), ?_, ?_⟩
  · exact unique.sublist (filter_sublist.map _)
  · intro key left right
    obtain ⟨row, mem, rfl⟩ := mem_map.mp left
    obtain ⟨other, mem', same⟩ := mem_map.mp right
    obtain ⟨listed, outside⟩ := mem_filter.mp mem'
    have team : other.teamId = teamId :=
      (congrArg Prod.fst same).trans (TeamMemberRow.isOf_iff.mp (mem_filter.mp mem).2).2
    have inside : other.isIn tenantId teamId :=
      TeamMemberRow.isOf_iff.mpr ⟨tenant other listed team, team⟩
    rw [inside] at outside
    cases outside

end MemberRow

open MemberRow in
/-- From members at distinct positions, each update leaves distinct positions and the rows of the
other teams as they were, so that the unique index is kept, and the last update leaves the members
at the positions from zero on, in the order in which they were. -/
theorem compact_positions_distinct (tenantId teamId : Id) (rows : List MemberRow)
    (keyed : (rows.map (·.id)).Nodup) (distinct : Distinct tenantId teamId rows) :
    (∀ state ∈ compactTeamPositions tenantId teamId rows,
      Distinct tenantId teamId state ∧ SameOthers tenantId teamId rows state ∧
      (UniquePositions rows →
        (∀ row ∈ rows, row.teamId = teamId → row.tenantId = tenantId) →
        UniquePositions state)) ∧
    let last := ordered tenantId teamId ((compactTeamPositions tenantId teamId rows).getLastD rows)
    last.map (·.id) = (ordered tenantId teamId rows).map (·.id) ∧
      last.map (·.position) = range last.length := by
  have start : Numbered tenantId teamId rows [] (ordered tenantId teamId rows) :=
    ⟨(perm_insertionSort _ _).symm, keyed, rfl, ordered_sorted distinct, fun _ _ => Nat.zero_le _⟩
  obtain ⟨states, last, final, order⟩ := start.renumber
  refine ⟨fun state mem => ?_, ?_⟩
  · obtain ⟨apart, others⟩ := states state mem
    exact ⟨apart, others, apart.unique others⟩
  · have sorted : last.Pairwise fun row row' => row.position < row'.position := by
      have ascending : (range last.length).Pairwise (· < ·) := pairwise_lt_range
      rw [← final.counted] at ascending
      exact pairwise_map.mp ascending
    have members := final.members
    rw [append_nil] at members
    have eq : ordered tenantId teamId ((compactTeamPositions tenantId teamId rows).getLastD rows) =
      last := ordered_eq members sorted
    rw [eq]
    exact ⟨order, final.counted⟩

/-- Two members are left of three, with a gap between them. -/
def MemberRow.gapped : List MemberRow :=
  [⟨⟨0, 1, 7, 2⟩, 3⟩, ⟨⟨0, 1, 8, 0⟩, 1⟩, ⟨⟨0, 2, 9, 0⟩, 4⟩]

open MemberRow in
theorem gap_closed :
    compactTeamPositions 0 1 gapped = [[⟨⟨0, 1, 7, 1⟩, 3⟩, ⟨⟨0, 1, 8, 0⟩, 1⟩, ⟨⟨0, 2, 9, 0⟩, 4⟩]] ∧
      ∀ state ∈ compactTeamPositions 0 1 gapped, Distinct 0 1 state := by
  have distinct : Distinct 0 1 gapped := by
    unfold Distinct
    decide
  exact ⟨by decide,
    fun state mem => ((compact_positions_distinct 0 1 gapped (by decide) distinct).1 state mem).1⟩

end OpenWind
