import Mathlib.Data.List.Nodup
import Mathlib.Data.Option.Basic

/-!
# Pointer graphs

A graph in which each node points to one other node at most: `next a` is where `a`
points to, and a node that points nowhere is a root.

* `Grounded next a`: following the pointers from `a` ends at a root.
-/

open List

namespace Pointers

variable {α : Type}

/-- The pointers from a node lead to a root. -/
inductive Grounded (next : α → Option α) : α → Prop
  | root {a : α} : next a = none → Grounded next a
  | step {a b : α} : next a = some b → Grounded next b → Grounded next a

/-- A change of the pointers outside a closed set does not affect the set. -/
theorem Grounded.of_agree {next next' : α → Option α} {D : α → Prop}
    (closed : ∀ {a b}, D a → next a = some b → D b) (agree : ∀ {a}, D a → next' a = next a)
    {a : α} (mem : D a) (grounded : Grounded next a) : Grounded next' a := by
  induction grounded with
  | root none_ => exact .root ((agree mem).trans none_)
  | step some_ _ ih => exact .step ((agree mem).trans some_) (ih (closed mem some_))

/-- Each node of the path points to the next one, and the last one to `cursor`. -/
def Trail (next : α → Option α) : List α → Option α → Prop
  | [], _ => True
  | [a], cursor => next a = cursor
  | a :: b :: rest, cursor => next a = some b ∧ Trail next (b :: rest) cursor

variable {next : α → Option α} {path : List α} {cursor : Option α}

/-- The path goes on by the node that it led to. -/
theorem Trail.snoc {c : α} (trail : Trail next path (some c)) :
    Trail next (path ++ [c]) (next c) := by
  induction path with
  | nil => exact rfl
  | cons a rest ih =>
    cases rest with
    | nil => exact ⟨trail, rfl⟩
    | cons b rest => exact ⟨trail.1, ih trail.2⟩

theorem Trail.grounded (trail : Trail next path cursor)
    (ends : ∀ c, cursor = some c → Grounded next c) : ∀ a ∈ path, Grounded next a := by
  induction path with
  | nil => exact fun a mem => absurd mem not_mem_nil
  | cons a rest ih =>
    cases rest with
    | nil =>
      intro b mem
      cases mem_singleton.mp mem
      cases points : next a with
      | none => exact .root points
      | some c => exact .step points (ends c (trail.symm.trans points))
    | cons b rest =>
      have later := ih trail.2
      intro c mem
      rcases mem_cons.mp mem with rfl | mem
      · exact .step trail.1 (later b mem_cons_self)
      · exact later c mem

theorem Trail.points {next : α → Option α} {path : List α} {cursor : Option α}
    (trail : Trail next path cursor) {a b : α} (mem : a ∈ path) (points : next a = some b) :
    b ∈ path ∨ cursor = some b := by
  induction path with
  | nil => cases mem
  | cons first rest ih =>
    cases rest with
    | nil =>
      cases mem_singleton.mp mem
      exact Or.inr (trail.symm.trans points)
    | cons second rest =>
      rcases mem_cons.mp mem with rfl | later
      · cases trail.1.symm.trans points
        exact Or.inl (mem_cons_of_mem _ mem_cons_self)
      · exact (ih trail.2 later).imp_left (mem_cons_of_mem _)

variable [DecidableEq α]

/-- The path with its last node made a root. -/
theorem Trail.cut {last : α} (trail : Trail next path cursor) (nodup : path.Nodup)
    (ends : path.getLast? = some last) : Trail (Function.update next last none) path none := by
  induction path with
  | nil => cases ends
  | cons a rest ih =>
    cases rest with
    | nil =>
      cases ends
      exact Function.update_self _ _ _
    | cons b rest =>
      rw [getLast?_cons_cons] at ends
      have later : last ∈ b :: rest := mem_of_getLast? ends
      have other : a ≠ last := fun same => (nodup_cons.mp nodup).1 (same ▸ later)
      exact ⟨(Function.update_of_ne other _ _).trans trail.1,
        ih trail.2 (nodup_cons.mp nodup).2 ends⟩

end Pointers
