import OpenWind.Lib.Cycles

/-!
# Guarded walks

Two walks through a graph that remember the keys of what they have visited: `climb` follows
pointers from one node, `levels` goes breadth first along lists of successors.  The memory ends
them on cycles as well.

* `climb_ends`, `levels_ends`: over finitely many nodes both end, within a number of rounds that
  is known beforehand.
-/

open List Option

namespace GuardedWalks

open Relation Pointers

variable {α K : Type} [DecidableEq K] (key : α → K)

/-- Follow the pointers to the end, or to a key that was seen. -/
def climb (up : α → Option α) : Nat → Option α → List K → Option (List α)
  | 0, _, _ => none
  | _ + 1, none, _ => some []
  | fuel + 1, some a, seen =>
    if key a ∈ seen then some []
    else (climb up fuel (up a) (key a :: seen)).map (a :: ·)

/-- The successors of the nodes of a level that have not been seen, and what is seen then. -/
def expand (down : α → List α) : List α → List K → List α × List K
  | [], seen => ([], seen)
  | a :: frontier, seen =>
    if key a ∈ seen then expand down frontier seen
    else ((down a) ++ (expand down frontier (key a :: seen)).1,
      (expand down frontier (key a :: seen)).2)

/-- The levels below, from a first one on. -/
def levels (down : α → List α) : Nat → List α → List K → Option (List (List α))
  | 0, _, _ => none
  | _ + 1, [], _ => some []
  | fuel + 1, a :: frontier, seen =>
    (levels down fuel (expand key down (a :: frontier) seen).1
      (expand key down (a :: frontier) seen).2).map ((a :: frontier) :: ·)

variable {key}

omit [DecidableEq K] in
theorem seen_le {nodes : List α} {seen : List K} (nodup : seen.Nodup)
    (among : seen ⊆ nodes.map key) : seen.length ≤ nodes.length := by
  have fewer := (subperm_of_subset nodup among).length_le
  rwa [length_map] at fewer

/-! ## Upward -/

section Climb

variable {up : α → Option α} {nodes : List α}

variable {seen : List K} {fuel : Nat} {a : α} {path : List α}

theorem climb_ends (closed : ∀ a ∈ nodes, ∀ b, up a = some b → b ∈ nodes) (fuel : Nat)
    (current : Option α) (member : ∀ a, current = some a → a ∈ nodes) (nodup : seen.Nodup)
    (among : seen ⊆ nodes.map key) (enough : nodes.length < fuel + seen.length) :
    ∃ path, climb key up fuel current seen = some path := by
  induction fuel generalizing current seen with
  | zero =>
    have fewer := seen_le nodup among
    omega
  | succ fuel ih =>
    cases current with
    | none => exact ⟨[], rfl⟩
    | some a =>
      rw [climb]
      by_cases visited : key a ∈ seen
      · exact ⟨[], if_pos visited⟩
      · rw [if_neg visited]
        have mem := member a rfl
        have more : key a :: seen ⊆ nodes.map key :=
          cons_subset.mpr ⟨List.mem_map_of_mem mem, among⟩
        obtain ⟨path, ran⟩ := ih (up a) (closed a mem) (nodup_cons.mpr ⟨visited, nodup⟩) more
          (by rw [length_cons]; omega)
        exact ⟨a :: path, by rw [ran]; rfl⟩

theorem climb_sound (ran : climb key up fuel (some a) seen = some path) :
    ∀ x ∈ path, LeadsTo up a x := by
  induction fuel generalizing a seen path with
  | zero => cases ran
  | succ fuel ih =>
    rw [climb] at ran
    split at ran
    · cases ran
      exact nofun
    · obtain ⟨rest, goes, rfl⟩ := map_eq_some_iff.mp ran
      intro x mem
      rcases mem_cons.mp mem with rfl | later
      · exact .refl
      · cases points : up a with
        | none =>
          rw [points] at goes
          cases fuel with
          | zero => cases goes
          | succ fuel =>
            cases goes
            cases later
        | some b =>
          rw [points] at goes
          exact .head points (ih goes x later)

section

variable (unique : ∀ a ∈ nodes, ∀ b ∈ nodes, key a = key b → a = b)
  (closed : ∀ a ∈ nodes, ∀ b, up a = some b → b ∈ nodes)

include unique closed

theorem climb_closed {current : Option α} (member : ∀ a, current = some a → a ∈ nodes)
    (visited : ∀ a ∈ nodes, key a ∈ seen → ∀ b, up a = some b → key b ∈ seen ∨ current = some b)
    (ran : climb key up fuel current seen = some path) :
    ∀ a ∈ nodes, (a ∈ path ∨ key a ∈ seen) → ∀ b, up a = some b → b ∈ path ∨ key b ∈ seen := by
  induction fuel generalizing current seen path with
  | zero => cases ran
  | succ fuel ih =>
    cases current with
    | none =>
      cases ran
      intro a mem found b points
      exact .inr ((visited a mem (found.resolve_left not_mem_nil) b points).resolve_right nofun)
    | some c =>
      have there := member c rfl
      rw [climb] at ran
      split at ran
      · next known =>
        cases ran
        intro a mem found b points
        refine .inr ?_
        rcases visited a mem (found.resolve_left not_mem_nil) b points with old | same
        · exact old
        · cases same
          exact known
      · obtain ⟨rest, goes, rfl⟩ := map_eq_some_iff.mp ran
        have onward : ∀ a ∈ nodes, key a ∈ key c :: seen → ∀ b, up a = some b →
            key b ∈ key c :: seen ∨ up c = some b := by
          intro a mem found b points
          rcases mem_cons.mp found with same | old
          · exact .inr (unique a mem c there same ▸ points)
          · rcases visited a mem old b points with known | same
            · exact .inl (mem_cons_of_mem _ known)
            · cases same
              exact .inl mem_cons_self
        have later := ih (closed c there) onward goes
        intro a mem found b points
        have place : a ∈ rest ∨ key a ∈ key c :: seen := by
          rcases found with listed | old
          · rcases mem_cons.mp listed with rfl | listed
            · exact .inr mem_cons_self
            · exact .inl listed
          · exact .inr (mem_cons_of_mem _ old)
        rcases later a mem place b points with listed | known
        · exact .inl (mem_cons_of_mem _ listed)
        · rcases mem_cons.mp known with same | old
          · exact .inl (unique b (closed a mem b points) c there same ▸ mem_cons_self)
          · exact .inr old

theorem mem_climb (mem : a ∈ nodes)
    (ran : climb key up fuel (some a) [] = some path) {x : α} : x ∈ path ↔ LeadsTo up a x := by
  refine ⟨climb_sound ran x, fun leads => ?_⟩
  have start : a ∈ path := by
    cases fuel with
    | zero => cases ran
    | succ fuel =>
      obtain ⟨rest, _, rfl⟩ := map_eq_some_iff.mp ran
      exact mem_cons_self
  have onward := climb_closed unique closed (fun b same => by cases same; exact mem)
    (fun _ _ none_ => absurd none_ not_mem_nil) ran
  have both : x ∈ nodes ∧ x ∈ path := by
    induction leads with
    | refl => exact ⟨mem, start⟩
    | tail _ points ih =>
      refine ⟨closed _ ih.1 _ points, ?_⟩
      exact (onward _ ih.1 (.inl ih.2) _ points).resolve_right not_mem_nil
  exact both.2

end

end Climb

/-! ## Downward -/

section Levels

variable {down : α → List α} {nodes : List α}

/-- What is below a node, at any depth. -/
def Below (down : α → List α) : α → α → Prop := TransGen fun a b => b ∈ down a

/-- What the expansion of a level makes of the memory. -/
structure Expanded (key : α → K) (down : α → List α) (frontier : List α) (seen : List K)
    (next : List α) (known : List K) : Prop where
  kept : seen ⊆ known
  marked : ∀ a ∈ frontier, key a ∈ known
  from_ : ∀ b ∈ next, ∃ a ∈ frontier, b ∈ down a
  expanded : ∀ k ∈ known, k ∈ seen ∨ ∃ a ∈ frontier, key a = k ∧ down a ⊆ next
  nodup : seen.Nodup → known.Nodup
  grows : next ≠ [] → seen.length < known.length
  larger : seen.length ≤ known.length

theorem expand_spec (frontier : List α) (seen : List K) :
    Expanded key down frontier seen (expand key down frontier seen).1
      (expand key down frontier seen).2 := by
  induction frontier generalizing seen with
  | nil =>
    exact ⟨Subset.refl _, nofun, nofun, fun k mem => .inl mem, id, fun some_ => absurd rfl some_,
      Nat.le_refl _⟩
  | cons a frontier ih =>
    rw [expand]
    by_cases visited : key a ∈ seen
    · rw [if_pos visited]
      have rest := ih seen
      refine ⟨rest.kept, ?_, ?_, ?_, rest.nodup, rest.grows, rest.larger⟩
      · intro b mem
        rcases mem_cons.mp mem with rfl | later
        · exact rest.kept visited
        · exact rest.marked b later
      · intro b mem
        obtain ⟨c, there, below⟩ := rest.from_ b mem
        exact ⟨c, mem_cons_of_mem a there, below⟩
      · intro k mem
        rcases rest.expanded k mem with old | ⟨c, there, is, all⟩
        · exact .inl old
        · exact .inr ⟨c, mem_cons_of_mem a there, is, all⟩
    · rw [if_neg visited]
      have rest := ih (key a :: seen)
      have longer : seen.length < (expand key down frontier (key a :: seen)).2.length :=
        rest.larger
      refine ⟨fun k mem => rest.kept (mem_cons_of_mem _ mem), ?_, ?_, ?_, ?_, fun _ => longer,
        Nat.le_of_lt longer⟩
      · intro b mem
        rcases mem_cons.mp mem with rfl | later
        · exact rest.kept mem_cons_self
        · exact rest.marked b later
      · intro b mem
        rcases mem_append.mp mem with here | later
        · exact ⟨a, mem_cons_self, here⟩
        · obtain ⟨c, there, below⟩ := rest.from_ b later
          exact ⟨c, mem_cons_of_mem a there, below⟩
      · intro k mem
        rcases rest.expanded k mem with old | ⟨c, there, is, all⟩
        · rcases mem_cons.mp old with rfl | old
          · exact .inr ⟨a, mem_cons_self, rfl, subset_append_left _ _⟩
          · exact .inl old
        · exact .inr ⟨c, mem_cons_of_mem a there, is, fun b mem =>
            mem_append_right _ (all mem)⟩
      · exact fun nodup => rest.nodup (nodup_cons.mpr ⟨visited, nodup⟩)

variable {frontier : List α} {seen : List K} {fuel : Nat} {found : List (List α)}

theorem levels_ends (closed : ∀ a ∈ nodes, ∀ b ∈ down a, b ∈ nodes) (fuel : Nat)
    (member : ∀ a ∈ frontier, a ∈ nodes) (nodup : seen.Nodup) (among : seen ⊆ nodes.map key)
    (some_ : 0 < fuel) (enough : frontier ≠ [] → nodes.length + 1 < fuel + seen.length) :
    ∃ found, levels key down fuel frontier seen = some found := by
  induction fuel generalizing frontier seen with
  | zero => exact absurd some_ (Nat.lt_irrefl 0)
  | succ fuel ih =>
    cases frontier with
    | nil => exact ⟨[], rfl⟩
    | cons a frontier =>
      rw [levels]
      have spec : Expanded key down (a :: frontier) seen _ _ := expand_spec (a :: frontier) seen
      have room := enough (cons_ne_nil a frontier)
      have fewer := seen_le nodup among
      have inside : (expand key down (a :: frontier) seen).2 ⊆ nodes.map key := by
        intro k mem
        rcases spec.expanded k mem with old | ⟨c, there, rfl, _⟩
        · exact among old
        · exact List.mem_map_of_mem (member c there)
      obtain ⟨found, ran⟩ := ih
        (fun b mem => by
          obtain ⟨c, there, below⟩ := spec.from_ b mem
          exact closed c (member c there) b below)
        (spec.nodup nodup) inside (by omega)
        (fun more => by have grown := spec.grows more; omega)
      exact ⟨(a :: frontier) :: found, by rw [ran]; rfl⟩

theorem levels_sound (ran : levels key down fuel frontier seen = some found) :
    ∀ x ∈ found.flatten, ∃ a ∈ frontier, ReflTransGen (fun a b => b ∈ down a) a x := by
  induction fuel generalizing frontier seen found with
  | zero => cases ran
  | succ fuel ih =>
    cases frontier with
    | nil =>
      cases ran
      exact nofun
    | cons a frontier =>
      obtain ⟨rest, goes, rfl⟩ := map_eq_some_iff.mp ran
      intro x mem
      rcases mem_append.mp mem with here | later
      · exact ⟨x, here, .refl⟩
      · obtain ⟨b, there, leads⟩ := ih goes x later
        obtain ⟨c, above, below⟩ := (expand_spec (a :: frontier) seen).from_ b there
        exact ⟨c, above, .head below leads⟩

theorem levels_closed (unique : ∀ a ∈ nodes, ∀ b ∈ nodes, key a = key b → a = b)
    (closed : ∀ a ∈ nodes, ∀ b ∈ down a, b ∈ nodes) (before : List α)
    (member : ∀ a ∈ frontier, a ∈ nodes)
    (visited : ∀ a ∈ nodes, key a ∈ seen → down a ⊆ before ++ frontier)
    (ran : levels key down fuel frontier seen = some found) :
    ∀ a ∈ nodes, (a ∈ found.flatten ∨ key a ∈ seen) → down a ⊆ before ++ found.flatten := by
  induction fuel generalizing frontier before seen found with
  | zero => cases ran
  | succ fuel ih =>
    cases frontier with
    | nil =>
      cases ran
      intro a mem known
      exact visited a mem (known.resolve_left not_mem_nil)
    | cons c frontier =>
      obtain ⟨rest, goes, rfl⟩ := map_eq_some_iff.mp ran
      have spec : Expanded key down (c :: frontier) seen _ _ := expand_spec (c :: frontier) seen
      have onward : ∀ a ∈ nodes, key a ∈ (expand key down (c :: frontier) seen).2 →
          down a ⊆ (before ++ (c :: frontier)) ++ (expand key down (c :: frontier) seen).1 := by
        intro a mem known
        rcases spec.expanded _ known with old | ⟨d, there, same, all⟩
        · exact fun b below => mem_append_left _ (visited a mem old below)
        · rw [← unique d (member d there) a mem same]
          exact fun b below => mem_append_right _ (all below)
      have later := ih (before ++ c :: frontier)
        (fun b mem => by
          obtain ⟨d, there, below⟩ := spec.from_ b mem
          exact closed d (member d there) b below)
        onward goes
      intro a mem known
      have place : a ∈ rest.flatten ∨ key a ∈ (expand key down (c :: frontier) seen).2 := by
        rcases known with listed | old
        · rcases mem_append.mp listed with here | listed
          · exact .inr (spec.marked a here)
          · exact .inl listed
        · exact .inr (spec.kept old)
      rw [flatten_cons, ← append_assoc]
      exact later a mem place

theorem mem_levels (unique : ∀ a ∈ nodes, ∀ b ∈ nodes, key a = key b → a = b)
    (closed : ∀ a ∈ nodes, ∀ b ∈ down a, b ∈ nodes) {a : α} (mem : a ∈ nodes)
    (ran : levels key down fuel (down a) [key a] = some found) {x : α} :
    x ∈ found.flatten ↔ Below down a x := by
  constructor
  · intro there
    obtain ⟨b, below, leads⟩ := levels_sound ran x there
    exact TransGen.head' below leads
  · intro below
    have onward := levels_closed unique closed [] (closed a mem)
      (fun b there same => by
        rw [unique b there a mem (mem_singleton.mp same)]
        exact Subset.refl _) ran
    have both : x ∈ nodes ∧ x ∈ found.flatten := by
      induction below with
      | single first =>
        exact ⟨closed a mem _ first, onward a mem (.inr mem_cons_self) first⟩
      | tail _ step ih => exact ⟨closed _ ih.1 _ step, onward _ ih.1 (.inl ih.2) step⟩
    exact both.2

end Levels

/-! ## Both -/

theorem below_iff_leadsTo {up : α → Option α} {down : α → List α} {nodes : List α}
    (closed : ∀ a ∈ nodes, ∀ b, up a = some b → b ∈ nodes)
    (inverse : ∀ a ∈ nodes, ∀ b, b ∈ down a ↔ b ∈ nodes ∧ up b = some a) {a b : α} (mem : a ∈ nodes)
    (there : b ∈ nodes) (different : a ≠ b) : Below down a b ↔ LeadsTo up b a := by
  constructor
  · intro below
    have both : b ∈ nodes ∧ LeadsTo up b a := by
      clear there different
      induction below with
      | single step =>
        obtain ⟨held, points⟩ := (inverse a mem _).mp step
        exact ⟨held, .single points⟩
      | tail _ step ih =>
        obtain ⟨held, points⟩ := (inverse _ ih.1 _).mp step
        exact ⟨held, .head points ih.2⟩
    exact both.2
  · intro leads
    have steps : TransGen (Points up) b a :=
      (reflTransGen_iff_eq_or_transGen.mp leads).resolve_left different
    clear leads different
    induction steps using TransGen.head_induction_on with
    | single points => exact .single ((inverse a mem _).mpr ⟨there, points⟩)
    | head points _ ih =>
      have held := closed _ there _ points
      exact .tail (ih held) ((inverse _ held _).mpr ⟨there, points⟩)

end GuardedWalks
