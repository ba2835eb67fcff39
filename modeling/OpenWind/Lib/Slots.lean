import Mathlib.Data.List.Basic

/-!
# Slots of time

A recurring schedule is the set of its slots, given by the function that finds
the next one.

* `Slots.walk` follows that function up to a bound: `mem_walk` says that it meets
  every slot before the bound, and `walk_sorted` that it meets them in order.
-/

/-- A set of times with the next one after each time. -/
structure Slots where
  slot : Nat → Prop
  next : Nat → Nat
  later : ∀ t, t < next t
  isSlot : ∀ t, slot (next t)
  least : ∀ {s t}, slot s → t < s → next t ≤ s

open List

namespace Slots

variable (S : Slots)

/-- The slots after `cursor` and before `bound`, as far as the fuel reaches. -/
def walk (bound : Nat) : Nat → Nat → List Nat
  | 0, _ => []
  | fuel + 1, cursor =>
    if bound ≤ S.next cursor then [] else S.next cursor :: walk bound fuel (S.next cursor)

/-- The slots strictly between two times. -/
def between (after before : Nat) : List Nat := S.walk before (before - after) after

/-- The time is `first` or a slot after it. -/
def From (first s : Nat) : Prop := first ≤ s ∧ (s = first ∨ S.slot s)

variable {S}

theorem From.slot {first s : Nat} (since : S.From first s) (after : first < s) : S.slot s :=
  since.2.resolve_left fun same => Nat.ne_of_gt after same

variable {bound cursor fuel s t u : Nat}

theorem next_mono (le : t ≤ u) : S.next t ≤ S.next u :=
  S.least (S.isSlot u) (Nat.lt_of_le_of_lt le (S.later u))

theorem next_eq (le : t ≤ u) (free : u < S.next t) : S.next t = S.next u :=
  Nat.le_antisymm (next_mono le) (S.least (S.isSlot t) free)

theorem walk_bounds (mem : s ∈ S.walk bound fuel cursor) : S.slot s ∧ cursor < s ∧ s < bound := by
  induction fuel generalizing cursor with
  | zero => cases mem
  | succ fuel ih =>
    rw [walk] at mem
    by_cases past : bound ≤ S.next cursor
    · rw [if_pos past] at mem
      cases mem
    · rw [if_neg past] at mem
      rcases mem_cons.mp mem with rfl | rest
      · exact ⟨S.isSlot cursor, S.later cursor, Nat.not_le.mp past⟩
      · obtain ⟨slot, after, before⟩ := ih rest
        exact ⟨slot, Nat.lt_trans (S.later cursor) after, before⟩

theorem walk_complete (enough : bound ≤ cursor + fuel) (slot : S.slot s) (after : cursor < s)
    (before : s < bound) : s ∈ S.walk bound fuel cursor := by
  induction fuel generalizing cursor with
  | zero => omega
  | succ fuel ih =>
    have first := S.least slot after
    have advances := S.later cursor
    rw [walk, if_neg (by omega)]
    by_cases here : s = S.next cursor
    · exact mem_cons.mpr (Or.inl here)
    · exact mem_cons_of_mem _ (ih (by omega) (by omega))

theorem mem_walk (enough : bound ≤ cursor + fuel) :
    s ∈ S.walk bound fuel cursor ↔ S.slot s ∧ cursor < s ∧ s < bound :=
  ⟨walk_bounds, fun ⟨slot, after, before⟩ => walk_complete enough slot after before⟩

theorem walk_sorted (bound fuel cursor : Nat) : (S.walk bound fuel cursor).Pairwise (· < ·) := by
  induction fuel generalizing cursor with
  | zero => exact Pairwise.nil
  | succ fuel ih =>
    rw [walk]
    by_cases past : bound ≤ S.next cursor
    · rw [if_pos past]
      exact Pairwise.nil
    · rw [if_neg past]
      exact Pairwise.cons (fun s mem => (walk_bounds mem).2.1) (ih _)

theorem mem_between {after before s : Nat} :
    s ∈ S.between after before ↔ S.slot s ∧ after < s ∧ s < before :=
  mem_walk (by omega)

theorem between_sorted (after before : Nat) : (S.between after before).Pairwise (· < ·) :=
  walk_sorted _ _ _

end Slots

/-! ## Windows -/

section Windows

variable {α : Type}

def lastOf (n : Nat) (entries : List α) : List α := entries.drop (entries.length - n)

/-- One more entry in a window of `n`. -/
def window (n : Nat) (entries : List α) (entry : α) : List α :=
  if n < (entries ++ [entry]).length then (entries ++ [entry]).tail else entries ++ [entry]

theorem lastOf_of_le {n : Nat} {entries : List α} (short : entries.length ≤ n) :
    lastOf n entries = entries := by
  rw [lastOf, Nat.sub_eq_zero_of_le short, drop_zero]

theorem window_lastOf {n : Nat} (entries : List α) (entry : α) :
    window n (lastOf n entries) entry = lastOf n (entries ++ [entry]) := by
  unfold window lastOf
  simp only [length_append, length_drop, length_singleton]
  by_cases full : n ≤ entries.length
  · rw [if_pos (by omega)]
    by_cases none_left : n = 0
    · subst none_left
      simp
    · rw [tail_append_of_ne_nil (by
        refine ne_nil_of_length_pos ?_
        rw [length_drop]
        omega), tail_drop, drop_append_of_le_length (by omega)]
      congr 2
      omega
  · rw [if_neg (by omega), Nat.sub_eq_zero_of_le (by omega), Nat.sub_eq_zero_of_le (by omega),
      drop_zero, drop_zero]

end Windows
