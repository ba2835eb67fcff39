import Mathlib.Data.Option.Basic
import Mathlib.Tactic.Common

/-!
# Requirements among items

Some items are active, and each of them requires others.

* `Met`: what an active item requires is active.
-/

open Function

namespace Requirements

variable {κ : Type}

/-- What an active item requires is active. -/
def Met (items : κ → Option (List κ)) : Prop :=
  ∀ key required, items key = some required → ∀ other ∈ required, (items other).isSome = true

variable [DecidableEq κ] {items : κ → Option (List κ)} {key : κ} {required : List κ}

theorem isSome_activate (other : κ) :
    (Function.update items key (some required) other).isSome =
      (decide (other = key) || (items other).isSome) := by
  by_cases same : other = key
  · subst same
    simp
  · simp [same]

/-- An item becomes active in view of what it requires. -/
theorem met_activate_iff (met : Met items) (inactive : items key = none) :
    Met (Function.update items key (some required)) ↔
      ∀ other ∈ required, other = key ∨ (items other).isSome := by
  constructor
  · intro after other mem
    have active := after key required (update_self key _ items) other mem
    rw [isSome_activate, Bool.or_eq_true, decide_eq_true_eq] at active
    exact active
  · intro active holder needs holds other mem
    rw [isSome_activate, Bool.or_eq_true, decide_eq_true_eq]
    by_cases own : holder = key
    · subst own
      rw [update_self] at holds
      cases holds
      exact active other mem
    · rw [update_of_ne own] at holds
      exact .inr (met holder needs holds other mem)

/-- An item ceases to be active in view of what requires it. -/
theorem met_deactivate_iff (met : Met items) :
    Met (Function.update items key none) ↔
      ∀ other needs, other ≠ key → items other = some needs → key ∉ needs := by
  constructor
  · intro after other needs different holds mem
    rw [← update_of_ne different none items] at holds
    have active := after other needs holds key mem
    rw [update_self] at active
    cases active
  · intro free holder needs holds other mem
    by_cases own : holder = key
    · subst own
      rw [update_self] at holds
      cases holds
    · rw [update_of_ne own] at holds
      have different : other ≠ key := fun same => free holder needs own holds (same ▸ mem)
      rw [update_of_ne different]
      exact met holder needs holds other mem

end Requirements
