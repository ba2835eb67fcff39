import Mathlib.Data.List.Basic

/-!
# Calls by number

The calls of a system are a list: a new one takes the next number, and a step replaces the
one that takes it.
-/

open List

namespace Calls

variable {α : Type} {calls : List α} {i j : Nat} {call call' other : α}

/-- A call after a step is the one that took it or one that was there. -/
theorem getElem?_replaced (here : calls[i]? = some call)
    (found : (calls.set i call')[j]? = some other) :
    (j = i ∧ other = call') ∨ (j ≠ i ∧ calls[j]? = some other) := by
  by_cases same : i = j
  · subst same
    have inside : i < calls.length := (List.getElem?_eq_some_iff.mp here).1
    rw [getElem?_set_self inside] at found
    exact .inl ⟨rfl, (Option.some.inj found).symm⟩
  · rw [getElem?_set_ne same] at found
    exact .inr ⟨Ne.symm same, found⟩

/-- A call after a new one has begun is the new one or one that was there. -/
theorem getElem?_began (found : (calls ++ [call])[j]? = some other) :
    (j = calls.length ∧ other = call) ∨ calls[j]? = some other := by
  rcases Nat.lt_or_ge j calls.length with old | new
  · rw [getElem?_append_left old] at found
    exact .inr found
  · rw [getElem?_append_right new] at found
    have bound : j - calls.length < [call].length := (List.getElem?_eq_some_iff.mp found).1
    rw [length_singleton] at bound
    have last : j = calls.length := by omega
    subst last
    rw [Nat.sub_self] at found
    exact .inl ⟨rfl, (Option.some.inj found).symm⟩

/-- The other calls stay. -/
theorem mem_replaced (here : calls[i]? = some call) (member : other ∈ calls) :
    other = call ∨ other ∈ calls.set i call' := by
  obtain ⟨j, bound, rfl⟩ := mem_iff_getElem.mp member
  obtain ⟨inside, rfl⟩ := List.getElem?_eq_some_iff.mp here
  by_cases same : i = j
  · subst same
    exact .inl rfl
  · refine .inr (mem_iff_getElem.mpr ⟨j, by rw [length_set]; exact bound, ?_⟩)
    rw [getElem_set_ne same]

theorem mem_replacement (here : calls[i]? = some call) : call' ∈ calls.set i call' := by
  have inside : i < calls.length := (List.getElem?_eq_some_iff.mp here).1
  exact mem_iff_getElem.mpr ⟨i, by rw [length_set]; exact inside, getElem_set_self _⟩

theorem of_mem_replaced (member : other ∈ calls.set i call') : other = call' ∨ other ∈ calls :=
  (mem_or_eq_of_mem_set member).symm

theorem forall_replaced {P : α → Prop} (old : ∀ other ∈ calls, P other) (new : P call') :
    ∀ other ∈ calls.set i call', P other := by
  intro other member
  rcases mem_or_eq_of_mem_set member with still | rfl
  · exact old other still
  · exact new

theorem of_mem_began (member : other ∈ calls ++ [call]) : other = call ∨ other ∈ calls := by
  rcases mem_append.mp member with old | new
  · exact .inr old
  · exact .inl (mem_singleton.mp new)

end Calls
