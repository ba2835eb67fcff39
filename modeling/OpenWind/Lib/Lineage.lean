import Mathlib.Data.List.Nodup
import Mathlib.Logic.Relation

/-!
# Lineages

Rows may name the row that they replace.  Rows that such names connect are of one lineage.

* `Lines.Same`: the keys of one lineage.  A new row is either alone (`same_append_root`) or of
  the lineage of the row that it replaces (`same_append_leaf`).
-/

/-- Rows with a key, and the key of the row that they replace. -/
structure Lines (ρ ι : Type) where
  key : ρ → ι
  origin : ρ → Option ι

open List

namespace Lines

variable {ρ ι : Type} (L : Lines ρ ι)

/-- A row replaces another. -/
def Link (rows : List ρ) (a b : ι) : Prop := ∃ r ∈ rows, L.key r = b ∧ L.origin r = some a

def Same (rows : List ρ) : ι → ι → Prop := Relation.EqvGen (L.Link rows)

def Replaced (rows : List ρ) (a : ι) : Prop := ∃ r ∈ rows, L.origin r = some a

/-- Keys are distinct, and what a row replaces is a row. -/
structure Rooted (rows : List ρ) : Prop where
  keyed : (rows.map L.key).Nodup
  origins : ∀ r ∈ rows, ∀ a, L.origin r = some a → ∃ p ∈ rows, L.key p = a

structure Short (rows : List ρ) (live : ρ → Prop) : Prop where
  two : ∀ a ∈ rows, ∀ b ∈ rows, ∀ c ∈ rows, live a → live b → live c →
    L.Same rows (L.key a) (L.key b) → L.Same rows (L.key a) (L.key c) → a = b ∨ a = c ∨ b = c
  one : ∀ a ∈ rows, ∀ b ∈ rows, live a → live b → ¬ L.Replaced rows (L.key a) →
    ¬ L.Replaced rows (L.key b) → L.Same rows (L.key a) (L.key b) → a = b

variable {L}

namespace Same

variable {rows : List ρ} {a b c : ι}

theorem refl (a : ι) : L.Same rows a a := Relation.EqvGen.refl a

theorem symm (same : L.Same rows a b) : L.Same rows b a :=
  Relation.EqvGen.symm _ _ same

theorem trans (first : L.Same rows a b) (second : L.Same rows b c) : L.Same rows a c :=
  Relation.EqvGen.trans _ _ _ first second

end Same

variable {rows : List ρ} {live live' : ρ → Prop}

theorem Rooted.eq (rooted : L.Rooted rows) {r r' : ρ} (mem : r ∈ rows) (mem' : r' ∈ rows)
    (same : L.key r = L.key r') : r = r' :=
  inj_on_of_nodup_map rooted.keyed mem mem' same

/-! ## Rows that change -/

section Map

variable {rows : List ρ} {f : ρ → ρ} (keys : ∀ r, L.key (f r) = L.key r)
  (origins : ∀ r, L.origin (f r) = L.origin r)

include origins

theorem replaced_map {a : ι} : L.Replaced (rows.map f) a ↔ L.Replaced rows a := by
  unfold Replaced
  simp only [mem_map, exists_exists_and_eq_and, origins]

include keys

theorem link_map : L.Link (rows.map f) = L.Link rows := by
  funext a b
  unfold Link
  simp only [mem_map, exists_exists_and_eq_and, keys, origins]

theorem same_map : L.Same (rows.map f) = L.Same rows :=
  congrArg Relation.EqvGen (link_map keys origins)

theorem Rooted.map (rooted : L.Rooted rows) : L.Rooted (rows.map f) := by
  constructor
  · have same : L.key ∘ f = L.key := funext keys
    rw [map_map, same]
    exact rooted.keyed
  · intro r' mem' a origin
    obtain ⟨r, mem, rfl⟩ := mem_map.mp mem'
    obtain ⟨p, memP, named⟩ := rooted.origins r mem a ((origins r).symm.trans origin)
    exact ⟨f p, mem_map_of_mem memP, (keys p).trans named⟩

theorem Short.map {live live' : ρ → Prop} (short : L.Short rows live)
    (shrinks : ∀ r ∈ rows, live' (f r) → live r) : L.Short (rows.map f) live' := by
  constructor
  · intro a' memA' b' memB' c' memC' liveA liveB liveC
    obtain ⟨a, memA, rfl⟩ := mem_map.mp memA'
    obtain ⟨b, memB, rfl⟩ := mem_map.mp memB'
    obtain ⟨c, memC, rfl⟩ := mem_map.mp memC'
    rw [same_map keys origins, keys, keys, keys]
    intro sameB sameC
    exact (short.two a memA b memB c memC (shrinks a memA liveA) (shrinks b memB liveB)
      (shrinks c memC liveC) sameB sameC).imp (congrArg f) (Or.imp (congrArg f) (congrArg f))
  · intro a' memA' b' memB' liveA liveB
    obtain ⟨a, memA, rfl⟩ := mem_map.mp memA'
    obtain ⟨b, memB, rfl⟩ := mem_map.mp memB'
    rw [same_map keys origins, replaced_map origins, replaced_map origins, keys, keys]
    intro currentA currentB same
    exact congrArg f (short.one a memA b memB (shrinks a memA liveA) (shrinks b memB liveB)
      currentA currentB same)

end Map

theorem Short.mono (short : L.Short rows live) (shrinks : ∀ r ∈ rows, live' r → live r) :
    L.Short rows live' := by
  have mapped : L.Short (rows.map id) live' := short.map (fun _ => rfl) (fun _ => rfl) shrinks
  rwa [map_id] at mapped

/-! ## A new row -/

section Append

variable {rows : List ρ} {n : ρ} (rooted : L.Rooted rows) (fresh : ∀ r ∈ rows, L.key r ≠ L.key n)

include rooted fresh

variable {a b : ι} {live : ρ → Prop}

theorem not_link (link : L.Link rows a b) : a ≠ L.key n ∧ b ≠ L.key n := by
  obtain ⟨r, mem, rfl, origin⟩ := link
  obtain ⟨p, memP, rfl⟩ := rooted.origins r mem a origin
  exact ⟨fresh p memP, fresh r mem⟩

theorem not_replaced (others : L.origin n ≠ some (L.key n)) :
    ¬ L.Replaced (rows ++ [n]) (L.key n) := by
  rintro ⟨r, mem, origin⟩
  rcases mem_append.mp mem with old | new
  · obtain ⟨p, memP, named⟩ := rooted.origins r old _ origin
    exact fresh p memP named
  · rw [mem_singleton.mp new] at origin
    exact others origin

theorem Rooted.append (origins : ∀ a, L.origin n = some a → ∃ p ∈ rows, L.key p = a) :
    L.Rooted (rows ++ [n]) := by
  constructor
  · rw [map_append, List.nodup_append]
    refine ⟨rooted.keyed, nodup_singleton _, ?_⟩
    intro k mem k' mem'
    obtain ⟨r, memR, rfl⟩ := mem_map.mp mem
    rw [map_singleton] at mem'
    rw [mem_singleton.mp mem']
    exact fresh r memR
  · intro r mem a origin
    rcases mem_append.mp mem with old | new
    · obtain ⟨p, memP, named⟩ := rooted.origins r old a origin
      exact ⟨p, mem_append_left _ memP, named⟩
    · rw [mem_singleton.mp new] at origin
      obtain ⟨p, memP, named⟩ := origins a origin
      exact ⟨p, mem_append_left _ memP, named⟩

omit rooted fresh in
theorem same_append_root (root : L.origin n = none) : L.Same (rows ++ [n]) = L.Same rows := by
  refine congrArg Relation.EqvGen ?_
  funext a b
  refine propext ⟨?_, fun ⟨r, mem, link⟩ => ⟨r, mem_append_left _ mem, link⟩⟩
  rintro ⟨r, mem, named, origin⟩
  rcases mem_append.mp mem with old | new
  · exact ⟨r, old, named, origin⟩
  · rw [mem_singleton.mp new, root] at origin
    cases origin

/-- No row is of the lineage of an unused key. -/
theorem same_fresh (same : L.Same rows a b) : a = L.key n ↔ b = L.key n := by
  induction same with
  | rel a b link =>
    have others := not_link rooted fresh link
    exact iff_of_false others.1 others.2
  | refl => exact Iff.rfl
  | symm _ _ _ ih => exact ih.symm
  | trans _ _ _ _ _ first second => exact first.trans second

theorem Short.append_root (short : L.Short rows live) (root : L.origin n = none) :
    L.Short (rows ++ [n]) live := by
  have alone {r : ρ} (mem : r ∈ rows) : ¬ L.Same rows (L.key n) (L.key r) :=
    fun same => fresh r mem ((same_fresh rooted fresh same).mp rfl)
  have replaced {a : ι} (old : L.Replaced rows a) : L.Replaced (rows ++ [n]) a := by
    obtain ⟨r, mem, origin⟩ := old
    exact ⟨r, mem_append_left _ mem, origin⟩
  have both {a b : ρ} (memA : a ∈ rows ++ [n]) (memB : b ∈ rows ++ [n])
      (same : L.Same rows (L.key a) (L.key b)) : (a ∈ rows ∧ b ∈ rows) ∨ a = b := by
    rcases mem_append.mp memA with oldA | newA <;> rcases mem_append.mp memB with oldB | newB
    · exact .inl ⟨oldA, oldB⟩
    · rw [mem_singleton.mp newB] at same
      exact absurd same.symm (alone oldA)
    · rw [mem_singleton.mp newA] at same
      exact absurd same (alone oldB)
    · exact .inr ((mem_singleton.mp newA).trans (mem_singleton.mp newB).symm)
  constructor
  · intro a memA b memB c memC liveA liveB liveC
    rw [same_append_root root]
    intro sameB sameC
    rcases both memA memB sameB with ⟨oldA, oldB⟩ | same
    · rcases both memA memC sameC with ⟨-, oldC⟩ | same
      · exact short.two a oldA b oldB c oldC liveA liveB liveC sameB sameC
      · exact .inr (.inl same)
    · exact .inl same
  · intro a memA b memB liveA liveB currentA currentB
    rw [same_append_root root]
    intro same
    rcases both memA memB same with ⟨oldA, oldB⟩ | equal
    · exact short.one a oldA b oldB liveA liveB (fun old => currentA (replaced old))
        (fun old => currentB (replaced old)) same
    · exact equal

variable {o : ρ} (memO : o ∈ rows) (leaf : L.origin n = some (L.key o))

include memO leaf

theorem same_append_leaf [DecidableEq ι] : L.Same (rows ++ [n]) a b ↔
    L.Same rows (if a = L.key n then L.key o else a) (if b = L.key n then L.key o else b) := by
  have keep {x y : ι} (same : L.Same rows x y) : L.Same (rows ++ [n]) x y :=
    same.mono fun a b ⟨r, mem, link⟩ => ⟨r, mem_append_left _ mem, link⟩
  have new : L.Same (rows ++ [n]) (L.key o) (L.key n) :=
    .rel _ _ ⟨n, mem_append_right _ mem_cons_self, rfl, leaf⟩
  have stem (x : ι) : L.Same (rows ++ [n]) x (if x = L.key n then L.key o else x) := by
    split
    next named =>
      rw [named]
      exact new.symm
    next => exact .refl x
  constructor
  · intro same
    induction same with
    | rel a b link =>
      obtain ⟨r, mem, rfl, origin⟩ := link
      rcases mem_append.mp mem with old | added
      · have link : L.Link rows a (L.key r) := ⟨r, old, rfl, origin⟩
        have others := not_link rooted fresh link
        rw [if_neg others.1, if_neg others.2]
        exact .rel _ _ link
      · rw [mem_singleton.mp added] at origin ⊢
        rw [leaf] at origin
        obtain rfl := Option.some.inj origin
        rw [if_neg (fresh o memO), if_pos rfl]
        exact .refl _
    | refl => exact .refl _
    | symm _ _ _ ih => exact ih.symm
    | trans _ _ _ _ _ first second => exact first.trans second
  · intro same
    exact (stem a).trans ((keep same).trans (stem b).symm)

theorem short_append_leaf_iff (short : L.Short rows live) (alive : live n) :
    L.Short (rows ++ [n]) live ↔
      (∀ a ∈ rows, ∀ b ∈ rows, live a → live b → L.Same rows (L.key o) (L.key a) →
        L.Same rows (L.key o) (L.key b) → a = b) ∧
      ∀ a ∈ rows, live a → L.Same rows (L.key o) (L.key a) → a = o ∨ L.Replaced rows (L.key a) := by
  classical
  have others {r : ρ} (mem : r ∈ rows) : n ≠ r := fun same => fresh r mem (same ▸ rfl)
  have memN : n ∈ rows ++ [n] := mem_append_right _ mem_cons_self
  have old {r : ρ} (mem : r ∈ rows) : r ∈ rows ++ [n] := mem_append_left _ mem
  have sameOld {a b : ρ} (memA : a ∈ rows) (memB : b ∈ rows) :
      L.Same (rows ++ [n]) (L.key a) (L.key b) ↔ L.Same rows (L.key a) (L.key b) := by
    rw [same_append_leaf rooted fresh memO leaf, if_neg (fresh a memA), if_neg (fresh b memB)]
  have sameNew {a : ρ} (memA : a ∈ rows) :
      L.Same (rows ++ [n]) (L.key n) (L.key a) ↔ L.Same rows (L.key o) (L.key a) := by
    rw [same_append_leaf rooted fresh memO leaf, if_pos rfl, if_neg (fresh a memA)]
  have replaced {a : ρ} (memA : a ∈ rows) : L.Replaced (rows ++ [n]) (L.key a) ↔
      a = o ∨ L.Replaced rows (L.key a) := by
    constructor
    · rintro ⟨r, mem, origin⟩
      rcases mem_append.mp mem with oldR | new
      · exact .inr ⟨r, oldR, origin⟩
      · rw [mem_singleton.mp new, leaf] at origin
        exact .inl (rooted.eq memA memO (Option.some.inj origin).symm)
    · rintro (rfl | ⟨r, mem, origin⟩)
      · exact ⟨n, memN, leaf⟩
      · exact ⟨r, old mem, origin⟩
  have current : ¬ L.Replaced (rows ++ [n]) (L.key n) :=
    not_replaced rooted fresh (by rw [leaf]; exact fun same => fresh o memO (Option.some.inj same))
  constructor
  · intro after
    refine ⟨fun a memA b memB liveA liveB sameA sameB => ?_, fun a memA liveA sameA => ?_⟩
    · rcases after.two n memN a (old memA) b (old memB) alive liveA liveB ((sameNew memA).mpr sameA)
        ((sameNew memB).mpr sameB) with same | same | same
      · exact absurd same (others memA)
      · exact absurd same (others memB)
      · exact same
    · by_contra free
      exact others memA (after.one n memN a (old memA) alive liveA current
        (fun now => free ((replaced memA).mp now)) ((sameNew memA).mpr sameA))
  · rintro ⟨few, gone⟩
    have cases_ {r : ρ} (mem : r ∈ rows ++ [n]) : r ∈ rows ∨ r = n :=
      (mem_append.mp mem).imp_right mem_singleton.mp
    constructor
    · intro a memA b memB c memC liveA liveB liveC sameB sameC
      rcases cases_ memA with oldA | rfl <;> rcases cases_ memB with oldB | rfl <;>
        rcases cases_ memC with oldC | rfl
      · exact short.two a oldA b oldB c oldC liveA liveB liveC ((sameOld oldA oldB).mp sameB)
          ((sameOld oldA oldC).mp sameC)
      · have line := (sameNew oldA).mp sameC.symm
        exact .inl (few a oldA b oldB liveA liveB line (line.trans ((sameOld oldA oldB).mp sameB)))
      · have line := (sameNew oldA).mp sameB.symm
        exact .inr (.inl (few a oldA c oldC liveA liveC line
          (line.trans ((sameOld oldA oldC).mp sameC))))
      · exact .inr (.inr rfl)
      · exact .inr (.inr (few b oldB c oldC liveB liveC ((sameNew oldB).mp sameB)
          ((sameNew oldC).mp sameC)))
      · exact .inr (.inl rfl)
      · exact .inl rfl
      · exact .inl rfl
    · intro a memA b memB liveA liveB currentA currentB same
      rcases cases_ memA with oldA | rfl <;> rcases cases_ memB with oldB | rfl
      · exact short.one a oldA b oldB liveA liveB
          (fun now => currentA ((replaced oldA).mpr (.inr now)))
          (fun now => currentB ((replaced oldB).mpr (.inr now))) ((sameOld oldA oldB).mp same)
      · have line := (sameNew oldA).mp same.symm
        exact absurd ((replaced oldA).mpr (gone a oldA liveA line)) currentA
      · exact absurd ((replaced oldB).mpr (gone b oldB liveB ((sameNew oldB).mp same))) currentB
      · rfl

end Append

/-- Rows die, and a live row replaces `o`. -/
theorem short_replace_iff {f : ρ → ρ} {n o : ρ} (keys : ∀ r, L.key (f r) = L.key r)
    (origins : ∀ r, L.origin (f r) = L.origin r) (rooted : L.Rooted rows)
    (short : L.Short rows live) (shrinks : ∀ r ∈ rows, live' (f r) → live r)
    (fresh : ∀ r ∈ rows, L.key r ≠ L.key n) (memO : o ∈ rows) (leaf : L.origin n = some (L.key o))
    (alive : live' n) :
    L.Short (rows.map f ++ [n]) live' ↔
      (∀ a ∈ rows, ∀ b ∈ rows, live' (f a) → live' (f b) → L.Same rows (L.key o) (L.key a) →
        L.Same rows (L.key o) (L.key b) → a = b) ∧
      ∀ a ∈ rows, live' (f a) → L.Same rows (L.key o) (L.key a) →
        a = o ∨ L.Replaced rows (L.key a) := by
  have freshMap : ∀ r ∈ rows.map f, L.key r ≠ L.key n := by
    intro r' mem'
    obtain ⟨r, mem, rfl⟩ := mem_map.mp mem'
    rw [keys]
    exact fresh r mem
  have injective {a b : ρ} (memA : a ∈ rows) (memB : b ∈ rows) : f a = f b ↔ a = b := by
    refine ⟨fun same => rooted.eq memA memB ?_, congrArg f⟩
    rw [← keys a, same, keys]
  rw [short_append_leaf_iff (rooted.map keys origins) freshMap (mem_map_of_mem memO)
    (leaf.trans (congrArg some (keys o).symm)) (short.map keys origins shrinks) alive]
  simp only [forall_mem_map, same_map keys origins, replaced_map origins, keys]
  refine and_congr (forall₂_congr fun a memA => forall₂_congr fun b memB => ?_)
    (forall₂_congr fun a memA => ?_)
  · rw [injective memA memB]
  · rw [injective memA memO]

end Lines
