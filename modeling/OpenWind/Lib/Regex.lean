import Mathlib.Data.List.Basic

/-!
# Regular expressions that backtrack

A pattern is tried at the start of a text in a fixed order: `star` takes as many letters as it can,
`few` as few, and `alt` tries its first part first.  `run` lists the ways to match in that order, so
that its head is the match that a backtracking engine gives.

* `Matches` is the language of a pattern, with what its groups capture, and `mem_run` says that
  `run` lists what is in it.
-/

inductive Regex (α : Type)
  | eps
  | char (p : α → Bool)
  | seq (first second : Regex α)
  | alt (first second : Regex α)
  | star (p : α → Bool)
  | few (p : α → Bool)
  | group (body : Regex α)

open List Option

namespace Regex

variable {α : Type}

/-- `r?` -/
def opt (r : Regex α) : Regex α := alt r eps

/-- One letter and more of them. -/
def plus (p : α → Bool) : Regex α := seq (char p) (star p)

/-! ## Matching -/

structure Hit (α : Type) where
  text : List α
  captures : List (List α)
  rest : List α
  deriving DecidableEq

def Hit.andThen (first second : Hit α) : Hit α :=
  ⟨first.text ++ second.text, first.captures ++ second.captures, second.rest⟩

def Hit.captured (hit : Hit α) : Hit α := { hit with captures := hit.text :: hit.captures }

def Hit.cons (c : α) (hit : Hit α) : Hit α := { hit with text := c :: hit.text }

/-- As many letters as there are first. -/
def most (p : α → Bool) : List α → List (Hit α)
  | [] => [⟨[], [], []⟩]
  | c :: rest =>
    (if p c then (most p rest).map (Hit.cons c) else []) ++ [⟨[], [], c :: rest⟩]

/-- No letter first. -/
def fewest (p : α → Bool) : List α → List (Hit α)
  | [] => [⟨[], [], []⟩]
  | c :: rest => ⟨[], [], c :: rest⟩ :: if p c then (fewest p rest).map (Hit.cons c) else []

def run : Regex α → List α → List (Hit α)
  | eps, text => [⟨[], [], text⟩]
  | char p, text =>
    match text with
    | [] => []
    | c :: rest => if p c then [⟨[c], [], rest⟩] else []
  | seq r t, text => (r.run text).flatMap fun hit => (t.run hit.rest).map hit.andThen
  | alt r t, text => r.run text ++ t.run text
  | star p, text => most p text
  | few p, text => fewest p text
  | group r, text => (r.run text).map Hit.captured

structure Found (α : Type) where
  start : Nat
  text : List α
  captures : List (List α)

def Found.lastIndex (found : Found α) : Nat := found.start + found.text.length

def Hit.foundAt (index : Nat) (hit : Hit α) : Found α := ⟨index, hit.text, hit.captures⟩

def execFrom (r : Regex α) : Nat → List α → Option (Found α)
  | index, [] => (r.run []).head?.map (Hit.foundAt index)
  | index, c :: rest =>
    ((r.run (c :: rest)).head?.map (Hit.foundAt index)).or (execFrom r (index + 1) rest)

def exec (r : Regex α) (text : List α) (lastIndex : Nat) : Option (Found α) :=
  execFrom r lastIndex (text.drop lastIndex)

def execAll (r : Regex α) (text : List α) : Nat → Nat → List (Found α)
  | 0, _ => []
  | bound + 1, lastIndex =>
    match r.exec text lastIndex with
    | none => []
    | some found => found :: execAll r text bound found.lastIndex

def test (r : Regex α) (text : List α) : Bool := (r.exec text 0).isSome

/-! ## The language of a pattern -/

def Matches : Regex α → List α → List (List α) → Prop
  | eps, text, captures => text = [] ∧ captures = []
  | char p, text, captures => (∃ c, p c = true ∧ text = [c]) ∧ captures = []
  | seq r t, text, captures => ∃ first second one two, r.Matches first one ∧ t.Matches second two ∧
      text = first ++ second ∧ captures = one ++ two
  | alt r t, text, captures => r.Matches text captures ∨ t.Matches text captures
  | star p, text, captures => (∀ c ∈ text, p c = true) ∧ captures = []
  | few p, text, captures => (∀ c ∈ text, p c = true) ∧ captures = []
  | group r, text, captures => ∃ inner, r.Matches text inner ∧ captures = text :: inner

def Takes (r : Regex α) (text : List α) : Prop := ∃ captures, r.Matches text captures

def Occurs (r : Regex α) (text : List α) : Prop :=
  ∃ before matched captures after, text = before ++ (matched ++ after) ∧ r.Matches matched captures

variable {r t : Regex α} {p : α → Bool} {text : List α} {hit : Hit α}

theorem Takes.seq {first second : List α} (left : r.Takes first) (right : t.Takes second) :
    (Regex.seq r t).Takes (first ++ second) := by
  obtain ⟨one, matched⟩ := left
  obtain ⟨two, matched'⟩ := right
  exact ⟨one ++ two, first, second, one, two, matched, matched', rfl, rfl⟩

theorem Takes.occurs {before matched after : List α} (takes : r.Takes matched) :
    r.Occurs (before ++ (matched ++ after)) := by
  obtain ⟨captures, matched_⟩ := takes
  exact ⟨before, matched, captures, after, rfl, matched_⟩

theorem mem_most : hit ∈ most p text ↔
    text = hit.text ++ hit.rest ∧ (∀ c ∈ hit.text, p c) ∧ hit.captures = [] := by
  induction text generalizing hit with
  | nil =>
    rcases hit with ⟨taken, captures, rest⟩
    simp only [most, mem_singleton, Hit.mk.injEq, nil_eq_append_iff]
    constructor
    · rintro ⟨rfl, rfl, rfl⟩
      exact ⟨⟨rfl, rfl⟩, nofun, rfl⟩
    · rintro ⟨⟨rfl, rfl⟩, -, rfl⟩
      exact ⟨rfl, rfl, rfl⟩
  | cons c tail ih =>
    rcases hit with ⟨taken, captures, rest⟩
    simp only [most, mem_append, mem_singleton, Hit.mk.injEq]
    constructor
    · rintro (listed | ⟨rfl, rfl, rfl⟩)
      · by_cases chosen : p c = true
        · rw [if_pos chosen] at listed
          obtain ⟨inner, mem, eq⟩ := List.mem_map.mp listed
          cases eq
          obtain ⟨rfl, all, none⟩ := ih.mp mem
          exact ⟨rfl, forall_mem_cons.mpr ⟨chosen, all⟩, none⟩
        · rw [if_neg chosen] at listed
          cases listed
      · exact ⟨rfl, nofun, rfl⟩
    · rintro ⟨split, all, rfl⟩
      cases taken with
      | nil => exact .inr ⟨rfl, rfl, split.symm⟩
      | cons d taken =>
        obtain ⟨rfl, rfl⟩ := List.cons.inj split
        obtain ⟨chosen, all⟩ := forall_mem_cons.mp all
        rw [if_pos chosen]
        exact .inl (List.mem_map.mpr ⟨⟨taken, [], rest⟩, ih.mpr ⟨rfl, all, rfl⟩, rfl⟩)

theorem mem_fewest : hit ∈ fewest p text ↔
    text = hit.text ++ hit.rest ∧ (∀ c ∈ hit.text, p c) ∧ hit.captures = [] := by
  rw [← mem_most]
  induction text generalizing hit with
  | nil => rfl
  | cons c tail ih =>
    unfold fewest most
    rw [mem_append, mem_singleton, mem_cons, or_comm]
    refine or_congr_left ?_
    split
    · rw [List.mem_map, List.mem_map]
      exact exists_congr fun inner => and_congr_left fun _ => ih
    · rfl

theorem mem_run : hit ∈ r.run text ↔
    text = hit.text ++ hit.rest ∧ r.Matches hit.text hit.captures := by
  induction r generalizing text hit with
  | eps =>
    rcases hit with ⟨taken, captures, rest⟩
    simp only [run, Matches, mem_singleton, Hit.mk.injEq]
    constructor
    · rintro ⟨rfl, rfl, rfl⟩
      exact ⟨rfl, rfl, rfl⟩
    · rintro ⟨rfl, rfl, rfl⟩
      exact ⟨rfl, rfl, rfl⟩
  | char p =>
    rcases hit with ⟨taken, captures, rest⟩
    unfold run Matches
    constructor
    · intro mem
      cases text with
      | nil => cases mem
      | cons c tail =>
        dsimp only at mem
        split at mem
        · next chosen =>
          cases mem_singleton.mp mem
          exact ⟨rfl, ⟨c, chosen, rfl⟩, rfl⟩
        · cases mem
    · rintro ⟨rfl, ⟨c, chosen, rfl⟩, rfl⟩
      dsimp only [cons_append, nil_append]
      rw [if_pos chosen]
      exact mem_singleton.mpr rfl
  | seq r t first second =>
    unfold run Matches
    rw [mem_flatMap]
    constructor
    · rintro ⟨one, memOne, mem⟩
      obtain ⟨two, memTwo, rfl⟩ := List.mem_map.mp mem
      obtain ⟨split, matched⟩ := first.mp memOne
      obtain ⟨split', matched'⟩ := second.mp memTwo
      refine ⟨?_, one.text, two.text, one.captures, two.captures, matched, matched', rfl, rfl⟩
      rw [split, split']
      exact (append_assoc _ _ _).symm
    · rcases hit with ⟨taken, captures, rest⟩
      rintro ⟨rfl, one, two, c, c', matched, matched', rfl, rfl⟩
      exact ⟨⟨one, c, two ++ rest⟩, first.mpr ⟨append_assoc _ _ _, matched⟩,
        List.mem_map.mpr ⟨⟨two, c', rest⟩, second.mpr ⟨rfl, matched'⟩, rfl⟩⟩
  | alt r t first second =>
    unfold run Matches
    rw [mem_append, first, second, and_or_left]
  | star p => exact mem_most
  | few p => exact mem_fewest
  | group r ih =>
    unfold run Matches
    rw [List.mem_map]
    constructor
    · rintro ⟨inner, mem, rfl⟩
      obtain ⟨split, matched⟩ := ih.mp mem
      exact ⟨split, inner.captures, matched, rfl⟩
    · rcases hit with ⟨taken, captures, rest⟩
      dsimp only
      rintro ⟨split, inner, matched, rfl⟩
      exact ⟨⟨taken, inner, rest⟩, ih.mpr ⟨split, matched⟩, rfl⟩

/-! ## Which match is tried first -/

theorem run_seq_head? (first : ((seq r t).run text).head? = some hit) :
    ∃ earlier one later two, r.run text = earlier ++ one :: later ∧
      (∀ failed ∈ earlier, t.run failed.rest = []) ∧ (t.run one.rest).head? = some two ∧
      hit = one.andThen two := by
  unfold run at first
  rw [head?_flatMap, findSome?_eq_some_iff] at first
  obtain ⟨earlier, one, later, listed, here, failed⟩ := first
  rw [head?_map, map_eq_some_iff] at here
  obtain ⟨two, first, rfl⟩ := here
  refine ⟨earlier, one, later, two, listed, fun hit mem => ?_, first, rfl⟩
  have none := failed hit mem
  rwa [head?_map, map_eq_none_iff, head?_eq_none_iff] at none

theorem fewest_pairwise (p : α → Bool) (text : List α) :
    (fewest p text).Pairwise fun one two => one.text.length < two.text.length := by
  induction text with
  | nil => exact pairwise_singleton _ _
  | cons c rest ih =>
    unfold fewest
    refine pairwise_cons.mpr ⟨fun hit mem => ?_, ?_⟩
    · split at mem
      · obtain ⟨inner, -, rfl⟩ := List.mem_map.mp mem
        exact Nat.succ_pos _
      · cases mem
    · split
      · exact pairwise_map.mpr (ih.imp fun shorter => Nat.succ_lt_succ shorter)
      · exact Pairwise.nil

theorem run_few_head? (first : ((seq (group (few p)) t).run text).head? = some hit) :
    ∃ taken tail captures, hit = ⟨taken ++ tail, taken :: captures, hit.rest⟩ ∧
      text = taken ++ (tail ++ hit.rest) ∧ t.Matches tail captures ∧
      ∀ taken' tail' captures' rest', text = taken' ++ (tail' ++ rest') → (∀ c ∈ taken', p c) →
        t.Matches tail' captures' → taken.length ≤ taken'.length := by
  obtain ⟨earlier, one, later, two, listed, failed, follows, rfl⟩ := run_seq_head? first
  have mem : one ∈ (group (few p)).run text := listed ▸ mem_append_right _ mem_cons_self
  obtain ⟨split, inner, ⟨-, rfl⟩, captured⟩ := mem_run.mp mem
  obtain ⟨split', matched⟩ := mem_run.mp (mem_of_head? follows)
  have ordered : ((group (few p)).run text).Pairwise fun one two =>
      one.text.length < two.text.length := pairwise_map.mpr (fewest_pairwise p text)
  refine ⟨one.text, two.text, two.captures, ?_, split.trans (congrArg _ split'), matched,
    fun taken' tail' captures' rest' other all matched' => ?_⟩
  · unfold Hit.andThen
    rw [captured]
    rfl
  · have mem' : (⟨taken', [taken'], tail' ++ rest'⟩ : Hit α) ∈ (group (few p)).run text :=
      mem_run.mpr ⟨other, [], ⟨all, rfl⟩, rfl⟩
    have tried : (⟨tail', captures', rest'⟩ : Hit α) ∈ t.run (tail' ++ rest') :=
      mem_run.mpr ⟨rfl, matched'⟩
    rw [listed] at mem' ordered
    rcases mem_append.mp mem' with before | behind
    · have none := failed _ before
      dsimp only at none
      rw [none] at tried
      cases tried
    · rcases mem_cons.mp behind with rfl | behind
      · exact Nat.le_refl _
      · exact Nat.le_of_lt ((pairwise_cons.mp (pairwise_append.mp ordered).2.1).1 _ behind)

/-! ## Searching -/

variable {found : Found α} {place : Nat}

theorem execFrom_some {index : Nat} (searched : r.execFrom index text = some found) :
    ∃ skipped hit, skipped ≤ text.length ∧ (r.run (text.drop skipped)).head? = some hit ∧
      found = hit.foundAt (index + skipped) ∧ ∀ i < skipped, r.run (text.drop i) = [] := by
  induction text generalizing index with
  | nil =>
    obtain ⟨hit, first, rfl⟩ := map_eq_some_iff.mp searched
    exact ⟨0, hit, Nat.le_refl 0, first, rfl, nofun⟩
  | cons c rest ih =>
    unfold execFrom at searched
    rcases or_eq_some_iff.mp searched with here | ⟨none, later⟩
    · obtain ⟨hit, first, rfl⟩ := map_eq_some_iff.mp here
      exact ⟨0, hit, Nat.zero_le _, first, rfl, nofun⟩
    · rw [map_eq_none_iff, head?_eq_none_iff] at none
      obtain ⟨skipped, hit, short, first, rfl, failed⟩ := ih later
      refine ⟨skipped + 1, hit, Nat.succ_le_succ short, first, ?_, fun i lt => ?_⟩
      · rw [Nat.add_right_comm, Nat.add_assoc]
      · cases i with
        | zero => exact none
        | succ i => exact failed i (Nat.lt_of_succ_lt_succ lt)

theorem execFrom_none {index : Nat} (searched : r.execFrom index text = none) {i : Nat}
    (short : i ≤ text.length) : r.run (text.drop i) = [] := by
  induction text generalizing index i with
  | nil =>
    rw [drop_nil]
    exact head?_eq_none_iff.mp (map_eq_none_iff.mp searched)
  | cons c rest ih =>
    unfold execFrom at searched
    obtain ⟨here, later⟩ := or_eq_none_iff.mp searched
    cases i with
    | zero => exact head?_eq_none_iff.mp (map_eq_none_iff.mp here)
    | succ i => exact ih later (Nat.le_of_succ_le_succ short)

theorem exec_some {lastIndex : Nat} (known : lastIndex ≤ text.length)
    (searched : r.exec text lastIndex = some found) :
    lastIndex ≤ found.start ∧ found.start ≤ text.length ∧
      (∃ hit, (r.run (text.drop found.start)).head? = some hit ∧ found = hit.foundAt found.start) ∧
      ∀ i, lastIndex ≤ i → i < found.start → r.run (text.drop i) = [] := by
  obtain ⟨skipped, hit, short, first, rfl, failed⟩ := execFrom_some searched
  rw [length_drop] at short
  rw [drop_drop] at first
  refine ⟨Nat.le_add_right _ _, ?_, ⟨hit, first, rfl⟩, fun i from_ lt => ?_⟩
  · change lastIndex + skipped ≤ text.length
    omega
  · have none := failed (i - lastIndex) (by change i < lastIndex + skipped at lt; omega)
    rwa [drop_drop, Nat.add_sub_cancel' from_] at none

theorem exec_takes (searched : r.exec text 0 = some found) :
    ∃ front back, text = front ++ (found.text ++ back) ∧ r.Takes found.text := by
  obtain ⟨-, -, ⟨hit, first, eq⟩, -⟩ := exec_some (Nat.zero_le _) searched
  obtain ⟨split, matched⟩ := mem_run.mp (mem_of_head? first)
  refine ⟨text.take found.start, hit.rest, ?_, hit.captures, ?_⟩
  · rw [eq]
    change text = text.take found.start ++ (hit.text ++ hit.rest)
    rw [← split, take_append_drop]
  · rw [eq]
    exact matched

theorem exec_reaches {lastIndex place : Nat} (from_ : lastIndex ≤ place)
    (short : place ≤ text.length) (here : r.run (text.drop place) ≠ []) :
    ∃ found, r.exec text lastIndex = some found ∧ found.start ≤ place := by
  cases searched : r.exec text lastIndex with
  | none =>
    have none := @execFrom_none _ r _ _ searched (place - lastIndex) (by rw [length_drop]; omega)
    rw [drop_drop, Nat.add_sub_cancel' from_] at none
    exact absurd none here
  | some found =>
    refine ⟨found, rfl, Nat.le_of_not_lt fun past => here ?_⟩
    exact (exec_some (Nat.le_trans from_ short) searched).2.2.2 place from_ past

theorem occurs_iff : r.Occurs text ↔ ∃ place ≤ text.length, r.run (text.drop place) ≠ [] := by
  constructor
  · rintro ⟨before, matched, captures, after, rfl, matches_⟩
    refine ⟨before.length, ?_, ?_⟩
    · rw [length_append]
      exact Nat.le_add_right _ _
    · rw [drop_left]
      have mem : (⟨matched, captures, after⟩ : Hit α) ∈ r.run (matched ++ after) :=
        mem_run.mpr ⟨rfl, matches_⟩
      exact ne_nil_of_mem mem
  · rintro ⟨place, -, here⟩
    obtain ⟨hit, mem⟩ := exists_mem_of_ne_nil _ here
    obtain ⟨split, matches_⟩ := mem_run.mp mem
    exact ⟨text.take place, hit.text, hit.captures, hit.rest,
      by rw [← split, take_append_drop], matches_⟩

theorem test_iff : r.test text ↔ r.Occurs text := by
  rw [occurs_iff]
  unfold test
  constructor
  · intro isSome
    obtain ⟨found, searched⟩ := isSome_iff_exists.mp isSome
    obtain ⟨-, short, ⟨hit, first, -⟩, -⟩ := exec_some (Nat.zero_le _) searched
    exact ⟨found.start, short, ne_nil_of_mem (mem_of_head? first)⟩
  · rintro ⟨place, short, here⟩
    obtain ⟨found, searched, -⟩ := exec_reaches (Nat.zero_le place) short here
    rw [searched]
    rfl

theorem mem_execAll (here : (r.run (text.drop place)).head? = some hit)
    (nonempty : ∀ matched captures, r.Matches matched captures → matched ≠ [])
    (apart : ∀ i < place, ∀ first, (r.run (text.drop i)).head? = some first →
      i + first.text.length ≤ place) {bound lastIndex : Nat} (from_ : lastIndex ≤ place)
    (enough : text.length < bound + lastIndex) :
    hit.foundAt place ∈ r.execAll text bound lastIndex := by
  have short : place ≤ text.length := by
    by_contra past
    obtain ⟨split, matched⟩ := mem_run.mp (mem_of_head? here)
    rw [drop_eq_nil_of_le (by omega)] at split
    exact nonempty _ _ matched (append_eq_nil_iff.mp split.symm).1
  induction bound generalizing lastIndex with
  | zero => omega
  | succ bound ih =>
    obtain ⟨found, searched, le⟩ :=
      exec_reaches from_ short (ne_nil_of_mem (mem_of_head? here))
    obtain ⟨behind, -, ⟨first, head, eq⟩, -⟩ := exec_some (Nat.le_trans from_ short) searched
    unfold execAll
    rw [searched]
    rcases Nat.eq_or_lt_of_le le with same | before
    · rw [same, here] at head
      cases head
      rw [eq, same]
      exact mem_cons_self
    · refine mem_cons_of_mem _ (@ih found.lastIndex ?_ ?_)
      · rw [eq]
        exact apart found.start before first head
      · obtain ⟨-, matched⟩ := mem_run.mp (mem_of_head? head)
        have progress := length_pos_iff.mpr (nonempty _ _ matched)
        rw [eq]
        unfold Found.lastIndex Hit.foundAt
        dsimp only
        omega

/-! ## What the letters of a match are -/

def Within (P : α → Prop) : Regex α → Prop
  | eps => True
  | char p | star p | few p => ∀ c, p c = true → P c
  | seq r t | alt r t => r.Within P ∧ t.Within P
  | group r => r.Within P

theorem Matches.within {P : α → Prop} {captures : List (List α)} (within : r.Within P)
    (matched : r.Matches text captures) : ∀ c ∈ text, P c := by
  induction r generalizing text captures with
  | eps =>
    rw [matched.1]
    exact nofun
  | char p =>
    obtain ⟨⟨c, taken, rfl⟩, -⟩ := matched
    exact forall_mem_singleton.mpr (within c taken)
  | seq r t first second =>
    obtain ⟨one, two, _, _, left, right, rfl, -⟩ := matched
    exact forall_mem_append.mpr ⟨first within.1 left, second within.2 right⟩
  | alt r t first second =>
    rcases matched with left | right
    · exact first within.1 left
    · exact second within.2 right
  | star | few => exact fun c mem => within c (matched.1 c mem)
  | group r ih =>
    obtain ⟨inner, matched, -⟩ := matched
    exact ih within matched

/-- The pattern has no group. -/
def Plain : Regex α → Prop
  | eps | char _ | star _ | few _ => True
  | seq r t | alt r t => r.Plain ∧ t.Plain
  | group _ => False

theorem Matches.captures_eq {captures : List (List α)} (plain : r.Plain)
    (matched : r.Matches text captures) : captures = [] := by
  induction r generalizing text captures with
  | eps | char | star | few => exact matched.2
  | seq r t first second =>
    obtain ⟨one, two, _, _, left, right, -, rfl⟩ := matched
    rw [first plain.1 left, second plain.2 right]
    rfl
  | alt r t first second =>
    rcases matched with left | right
    · exact first plain.1 left
    · exact second plain.2 right
  | group r => exact plain.elim

def EndsIn (P : α → Prop) (r : Regex α) : Prop :=
  ∀ text captures, r.Matches text captures → ∃ front c, text = front ++ [c] ∧ P c

section EndsIn

variable {P : α → Prop}

theorem EndsIn.seq (ends : t.EndsIn P) : (Regex.seq r t).EndsIn P := by
  rintro _ _ ⟨one, two, _, _, -, right, rfl, -⟩
  obtain ⟨front, c, rfl, last⟩ := ends two _ right
  exact ⟨one ++ front, c, (append_assoc _ _ _).symm, last⟩

theorem EndsIn.seq_opt (ends : r.EndsIn P) (ends' : t.EndsIn P) : (Regex.seq r t.opt).EndsIn P := by
  rintro _ _ ⟨one, two, _, _, left, right | ⟨rfl, -⟩, rfl, -⟩
  · obtain ⟨front, c, rfl, last⟩ := ends' two _ right
    exact ⟨one ++ front, c, (append_assoc _ _ _).symm, last⟩
  · rw [append_nil]
    exact ends one _ left

theorem EndsIn.plus (last : ∀ c, p c → P c) : (Regex.plus p).EndsIn P := by
  rintro _ _ ⟨_, two, _, _, ⟨⟨c, taken, rfl⟩, -⟩, ⟨all, -⟩, rfl, -⟩
  rcases eq_nil_or_concat two with rfl | ⟨front, d, rfl⟩
  · exact ⟨[], c, rfl, last c taken⟩
  · rw [concat_eq_append] at all ⊢
    exact ⟨c :: front, d, rfl, last d (all d (mem_append_right _ mem_cons_self))⟩

end EndsIn

/-! ## Words -/

/-- The letter, as a capital or not. -/
def caseless (c : Char) : Regex Char := char fun x => x.toUpper == c.toUpper

/-- A word, in capitals or not. -/
def word : List Char → Regex Char
  | [] => eps
  | c :: rest => seq (caseless c) (word rest)

theorem word_plain (w : List Char) : (word w).Plain := by
  induction w with
  | nil => trivial
  | cons c rest ih => exact ⟨trivial, ih⟩

theorem word_within {w : List Char} {c : Char} (free : ∀ d ∈ w, c.toUpper ≠ d.toUpper) :
    (word w).Within (· ≠ c) := by
  induction w with
  | nil => trivial
  | cons d rest ih =>
    obtain ⟨other, free⟩ := forall_mem_cons.mp free
    refine ⟨fun x same => ?_, ih free⟩
    rintro rfl
    exact other (beq_iff_eq.mp same)

end Regex
