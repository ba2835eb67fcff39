import Mathlib.Data.Set.Card
import OpenWind.Lib.Pointers

/-!
# Cycles of pointer graphs

In a graph in which each node points to one other node at most, a cycle is what can be reached
from any node of it, so cutting one edge of each cycle leaves none.

* `OnCycle next a`: following the pointers from `a` leads back to `a`.
-/

open List

namespace Pointers

open Relation

variable {α : Type}

/-- `a` points to `b`. -/
def Points (next : α → Option α) (a b : α) : Prop := next a = some b

/-- Following the pointers from `a` leads to `b`. -/
def LeadsTo (next : α → Option α) : α → α → Prop := ReflTransGen (Points next)

def OnCycle (next : α → Option α) (a : α) : Prop := TransGen (Points next) a a

def cycleOf (next : α → Option α) (a : α) : Set α := {b | LeadsTo next a b}

def cycles (next : α → Option α) : Set (Set α) := {C | ∃ a, OnCycle next a ∧ C = cycleOf next a}

section Cycles

variable {next next' : α → Option α} {a b c : α}

section

variable (on : OnCycle next a)

include on

theorem OnCycle.points (points : Points next a b) : LeadsTo next b a := by
  obtain ⟨c, step, back⟩ := TransGen.head'_iff.mp on
  have same : c = b := Option.some.inj (step.symm.trans points)
  exact same ▸ back

theorem OnCycle.of_leadsTo (there : LeadsTo next a b) (back : LeadsTo next b a) : OnCycle next b :=
  TransGen.trans_right back (on.trans_left there)

theorem OnCycle.back (there : LeadsTo next a b) : LeadsTo next b a := by
  induction there with
  | refl => exact .refl
  | tail before points ih => exact ((on.of_leadsTo before ih).points points).trans ih

theorem OnCycle.along (there : LeadsTo next a b) : OnCycle next b :=
  on.of_leadsTo there (on.back there)

theorem OnCycle.exists_next : ∃ b, next a = some b ∧ OnCycle next b := by
  obtain ⟨b, points, _⟩ := TransGen.head'_iff.mp on
  exact ⟨b, points, on.along (.single points)⟩

theorem OnCycle.cycleOf_eq (there : LeadsTo next a b) : cycleOf next b = cycleOf next a :=
  Set.ext fun _ => ⟨there.trans, (on.back there).trans⟩

end

theorem Grounded.not_onCycle (grounded : Grounded next a) : ¬ OnCycle next a := by
  induction grounded with
  | root none_ =>
    intro on
    obtain ⟨b, points, _⟩ := on.exists_next
    cases none_.symm.trans points
  | step some_ _ ih => exact fun on => ih (on.along (.single some_))

variable {path : List α} {cursor : Option α} {last : α}

theorem Trail.leadsTo_last (trail : Trail next path cursor) (ends : path.getLast? = some last) :
    ∀ a ∈ path, LeadsTo next a last := by
  induction path with
  | nil => exact fun a mem => absurd mem not_mem_nil
  | cons a rest ih =>
    cases rest with
    | nil =>
      intro b mem
      cases mem_singleton.mp mem
      cases ends
      exact .refl
    | cons b rest =>
      rw [getLast?_cons_cons] at ends
      have later := ih trail.2 ends
      intro c mem
      rcases mem_cons.mp mem with rfl | mem
      · exact .head trail.1 (later b mem_cons_self)
      · exact later c mem

theorem Trail.last_points (trail : Trail next path cursor) (ends : path.getLast? = some last) :
    next last = cursor := by
  induction path with
  | nil => cases ends
  | cons a rest ih =>
    cases rest with
    | nil =>
      cases ends
      exact trail
    | cons b rest =>
      rw [getLast?_cons_cons] at ends
      exact ih trail.2 ends

theorem Trail.onCycle {cursor last : α} (trail : Trail next path (some cursor))
    (ends : path.getLast? = some last) (mem : cursor ∈ path) : OnCycle next last :=
  TransGen.head' (trail.last_points ends) (trail.leadsTo_last ends cursor mem)

/-- A cycle that is left alone stays. -/
theorem OnCycle.of_agree (on : OnCycle next a)
    (agree : ∀ b ∈ cycleOf next a, next' b = next b) : OnCycle next' a := by
  have steps : ∀ {b}, TransGen (Points next) a b → TransGen (Points next') a b := by
    intro b there
    induction there with
    | single points => exact .single ((agree a .refl).trans points)
    | tail before points ih => exact ih.tail ((agree _ before.to_reflTransGen).trans points)
  exact steps on

end Cycles

/-! ## Cutting -/

section Cuts

variable [DecidableEq α] {next : α → Option α} {cuts : List α}

/-- The pointers with some nodes made roots. -/
def cutAt (next : α → Option α) (cuts : List α) (a : α) : Option α :=
  if a ∈ cuts then none else next a

theorem cutAt_nil (next : α → Option α) : cutAt next [] = next :=
  funext fun a => if_neg (not_mem_nil (a := a))

theorem cutAt_of_not_mem {a : α} (out : a ∉ cuts) : cutAt next cuts a = next a := if_neg out

theorem cutAt_cons (next : α → Option α) (cut : α) (cuts : List α) :
    cutAt next (cut :: cuts) = Function.update (cutAt next cuts) cut none := by
  funext a
  unfold cutAt
  by_cases same : a = cut
  · rw [same, if_pos mem_cons_self, Function.update_self]
  · have other : a ∈ cut :: cuts ↔ a ∈ cuts := mem_cons.trans (or_iff_right same)
    simp only [Function.update_of_ne same, other]

theorem points_of_cutAt {a b : α} (points : cutAt next cuts a = some b) : next a = some b := by
  unfold cutAt at points
  split at points
  · cases points
  · exact points

theorem cutAt_ne {a : α} (points : cutAt next cuts a ≠ next a) : a ∈ cuts := by
  by_contra out
  exact points (cutAt_of_not_mem out)

/-- Between two graphs, one pointer of each cycle is cut, and nothing else is changed. -/
structure CutsEachCycle (next next' : α → Option α) : Prop where
  once : ∀ C ∈ cycles next, ∃ a ∈ C, next' a ≠ next a ∧ ∀ b ∈ C, next' b ≠ next b → b = a
  rooted : ∀ a, next' a ≠ next a → next' a = none ∧ ∃ C ∈ cycles next, a ∈ C
  acyclic : ∀ a, ¬ OnCycle next' a

structure Cuts (next : α → Option α) (cuts : List α) : Prop where
  nodup : cuts.Nodup
  onCycle : ∀ a ∈ cuts, OnCycle next a
  apart : ∀ a ∈ cuts, ∀ b ∈ cuts, LeadsTo next a b → a = b

theorem exists_cut (acyclic : ∀ a, ¬ OnCycle (cutAt next cuts) a) {a : α} (on : OnCycle next a) :
    ∃ cut ∈ cuts, LeadsTo next a cut := by
  by_contra none_
  refine acyclic a (on.of_agree fun b there => cutAt_of_not_mem fun mem => none_ ⟨b, mem, there⟩)

theorem Cuts.cutsEachCycle (sound : Cuts next cuts) (acyclic : ∀ a, ¬ OnCycle (cutAt next cuts) a) :
    CutsEachCycle next (cutAt next cuts) := by
  refine ⟨?_, fun a points => ?_, acyclic⟩
  · rintro _ ⟨a, on, rfl⟩
    obtain ⟨cut, mem, there⟩ := exists_cut acyclic on
    refine ⟨cut, there, ?_, fun b there' points => ?_⟩
    · obtain ⟨b, points, _⟩ := (sound.onCycle cut mem).exists_next
      rw [cutAt, if_pos mem, points]
      exact (Option.some_ne_none b).symm
    · exact sound.apart b (cutAt_ne points) cut mem ((on.back there').trans there)
  · have mem := cutAt_ne points
    exact ⟨if_pos mem, _, ⟨a, sound.onCycle a mem, rfl⟩, .refl⟩

theorem Cuts.encard_cycles (sound : Cuts next cuts) (acyclic : ∀ a, ¬ OnCycle (cutAt next cuts) a) :
    (cycles next).encard = cuts.length := by
  have all : cycles next = cycleOf next '' {a | a ∈ cuts} := by
    ext C
    constructor
    · rintro ⟨a, on, rfl⟩
      obtain ⟨cut, mem, there⟩ := exists_cut acyclic on
      exact ⟨cut, mem, on.cycleOf_eq there⟩
    · rintro ⟨cut, mem, rfl⟩
      exact ⟨cut, sound.onCycle cut mem, rfl⟩
  have distinct : Set.InjOn (cycleOf next) {a | a ∈ cuts} := by
    intro a mem b mem' same
    have there : b ∈ cycleOf next a := same ▸ ReflTransGen.refl
    exact sound.apart a mem b mem' there
  have listed : {a | a ∈ cuts} = (cuts.toFinset : Set α) := (coe_toFinset cuts).symm
  rw [all, distinct.encard_image, listed, Set.encard_coe_eq_coe_finsetCard,
    toFinset_card_of_nodup sound.nodup]

end Cuts

end Pointers
