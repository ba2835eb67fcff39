import Mathlib.Data.List.Basic

/-!
# Lists joined by a separator

A list that is put together from parts with a separator between them is taken apart again at the
first separator, where the first part is free of it.

* `cut_unique`: the part before the first separator, and what follows it, are determined.
-/

open List

namespace Joined

variable {α : Type} {separator : α}

/-- Two cuts at the first separator are one cut. -/
theorem cut_unique {left right rest other : List α} (free : separator ∉ left)
    (free' : separator ∉ right) (same : left ++ separator :: rest = right ++ separator :: other) :
    left = right ∧ rest = other := by
  rcases append_eq_append_iff.mp same with ⟨more, rfl, tail⟩ | ⟨more, rfl, tail⟩
  · cases more with
    | nil => exact ⟨(append_nil left).symm, (List.cons.inj tail).2⟩
    | cons c cs =>
      obtain ⟨rfl, _⟩ := List.cons.inj tail
      exact absurd (mem_append_right _ mem_cons_self) free'
  · cases more with
    | nil => exact ⟨append_nil right, (List.cons.inj tail).2.symm⟩
    | cons c cs =>
      obtain ⟨rfl, _⟩ := List.cons.inj tail
      exact absurd (mem_append_right _ mem_cons_self) free

/-- A list that is cut at its first separator is cut elsewhere behind it: the front is the part
before the first cut, or begins with that part and the separator. -/
theorem cut_cases {left rest front back : List α} (free : separator ∉ left)
    (same : left ++ separator :: rest = front ++ separator :: back) :
    (front = left ∧ rest = back) ∨
      ∃ more, front = left ++ separator :: more ∧ rest = more ++ separator :: back := by
  rcases append_eq_append_iff.mp same with ⟨more, rfl, tail⟩ | ⟨more, rfl, tail⟩
  · cases more with
    | nil => exact .inl ⟨append_nil left, (List.cons.inj tail).2⟩
    | cons c cs =>
      obtain ⟨rfl, rest_⟩ := List.cons.inj tail
      exact .inr ⟨cs, rfl, rest_⟩
  · cases more with
    | nil => exact .inl ⟨(append_nil front).symm, (List.cons.inj tail).2.symm⟩
    | cons c cs =>
      obtain ⟨rfl, _⟩ := List.cons.inj tail
      exact absurd (mem_append_right _ mem_cons_self) free

/-! ## Numbers in digits -/

theorem not_mem_toDigits {c : Char} (other : c.isDigit = false) (n : Nat) :
    c ∉ Nat.toDigits 10 n := by
  intro mem
  rw [Nat.isDigit_of_mem_toDigits (by decide) (by decide) mem] at other
  cases other

/-- A number is read off its digits. -/
theorem toDigits_injective {n m : Nat} (same : Nat.toDigits 10 n = Nat.toDigits 10 m) : n = m := by
  have left := Nat.ofDigitChars_ten_toDigits (n := n)
  rw [same, Nat.ofDigitChars_ten_toDigits] at left
  exact left.symm

end Joined
