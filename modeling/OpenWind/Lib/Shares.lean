import Mathlib.Data.List.Nodup

/-!
# Shared work

Items that several workers work off.  Each item that has come up is done or in the
hands of one worker, and no item comes twice.

* `Shares.take`: a worker without items takes new ones.
-/

variable {ι α : Type}

/-- The items with `P` have come up: they are in `done` or with one of the workers. -/
structure Shares (P : α → Prop) (done : List α) (pending : ι → List α) : Prop where
  all : ∀ a, (a ∈ done ∨ ∃ i, a ∈ pending i) ↔ P a
  nodup : done.Nodup
  nodupPending : ∀ i, (pending i).Nodup
  apart : ∀ {i a}, a ∈ pending i → a ∉ done
  distinct : ∀ {i j a}, a ∈ pending i → a ∈ pending j → i = j

open List Function

namespace Shares

variable {P : α → Prop} {done : List α} {pending : ι → List α}

theorem none : Shares (fun _ => False) ([] : List α) (fun _ : ι => []) where
  all _ := ⟨fun mem => mem.elim not_mem_nil fun ⟨_, mem⟩ => not_mem_nil mem, False.elim⟩
  nodup := nodup_nil
  nodupPending _ := nodup_nil
  apart mem := absurd mem not_mem_nil
  distinct mem := absurd mem not_mem_nil

theorem congr (shares : Shares P done pending) {Q : α → Prop} (same : ∀ a, P a ↔ Q a) :
    Shares Q done pending :=
  { shares with all := fun a => (shares.all a).trans (same a) }

variable {i : ι} {a : α} {items : List α}

theorem pending_of (shares : Shares P done pending) (mem : a ∈ pending i) : P a :=
  (shares.all a).mp (Or.inr ⟨i, mem⟩)

variable [DecidableEq ι]

/-- Membership in the items of the workers after one of them has changed. -/
theorem mem_update {i j : ι} :
    a ∈ Function.update pending i items j ↔ (j = i ∧ a ∈ items) ∨ (j ≠ i ∧ a ∈ pending j) := by
  by_cases same : j = i
  · subst same
    rw [update_self]
    exact ⟨fun mem => Or.inl ⟨rfl, mem⟩, fun mem =>
      mem.elim (fun mem => mem.2) fun mem => absurd rfl mem.1⟩
  · rw [update_of_ne same]
    exact ⟨fun mem => Or.inr ⟨same, mem⟩, fun mem =>
      mem.elim (fun mem => absurd mem.1 same) fun mem => mem.2⟩

theorem take (shares : Shares P done pending) (idle : pending i = []) (nodup : items.Nodup)
    (new : ∀ a ∈ items, ¬ P a) :
    Shares (fun a => P a ∨ a ∈ items) done (Function.update pending i items) where
  all a := by
    constructor
    · rintro (mem | ⟨j, mem⟩)
      · exact Or.inl ((shares.all a).mp (Or.inl mem))
      · rcases mem_update.mp mem with ⟨_, taken⟩ | ⟨_, mem⟩
        · exact Or.inr taken
        · exact Or.inl (shares.pending_of mem)
    · rintro (holds | taken)
      · rcases (shares.all a).mpr holds with mem | ⟨j, mem⟩
        · exact Or.inl mem
        · have other : j ≠ i := by
            rintro rfl
            rw [idle] at mem
            cases mem
          exact Or.inr ⟨j, mem_update.mpr (Or.inr ⟨other, mem⟩)⟩
      · exact Or.inr ⟨i, mem_update.mpr (Or.inl ⟨rfl, taken⟩)⟩
  nodup := shares.nodup
  nodupPending j := by
    by_cases same : j = i
    · subst same
      rw [update_self]
      exact nodup
    · rw [update_of_ne same]
      exact shares.nodupPending j
  apart := by
    intro j a mem finished
    rcases mem_update.mp mem with ⟨_, taken⟩ | ⟨_, mem⟩
    · exact new a taken ((shares.all a).mp (Or.inl finished))
    · exact shares.apart mem finished
  distinct := by
    intro j k a mem mem'
    rcases mem_update.mp mem with ⟨rfl, taken⟩ | ⟨_, held⟩
    · rcases mem_update.mp mem' with ⟨rfl, _⟩ | ⟨_, held'⟩
      · rfl
      · exact absurd (shares.pending_of held') (new a taken)
    · rcases mem_update.mp mem' with ⟨rfl, taken⟩ | ⟨_, held'⟩
      · exact absurd (shares.pending_of held) (new a taken)
      · exact shares.distinct held held'

theorem finish (shares : Shares P done pending) {rest : List α} (first : pending i = a :: rest) :
    Shares P (done ++ [a]) (Function.update pending i rest) := by
  have mine : a ∈ pending i := first ▸ mem_cons_self
  have nodup := shares.nodupPending i
  rw [first, nodup_cons] at nodup
  have within : ∀ {j b}, b ∈ Function.update pending i rest j → b ∈ pending j := by
    intro j b mem
    rcases mem_update.mp mem with ⟨rfl, later⟩ | ⟨_, mem⟩
    · exact first ▸ mem_cons_of_mem _ later
    · exact mem
  constructor
  · intro b
    rw [← shares.all b, mem_append, mem_singleton]
    constructor
    · rintro ((finished | rfl) | ⟨j, mem⟩)
      · exact Or.inl finished
      · exact Or.inr ⟨i, mine⟩
      · exact Or.inr ⟨j, within mem⟩
    · rintro (finished | ⟨j, mem⟩)
      · exact Or.inl (Or.inl finished)
      · by_cases same : j = i
        · subst same
          rw [first] at mem
          rcases mem_cons.mp mem with rfl | later
          · exact Or.inl (Or.inr rfl)
          · exact Or.inr ⟨j, mem_update.mpr (Or.inl ⟨rfl, later⟩)⟩
        · exact Or.inr ⟨j, mem_update.mpr (Or.inr ⟨same, mem⟩)⟩
  · refine List.nodup_append.mpr ⟨shares.nodup, nodup_singleton _, ?_⟩
    rintro b finished _ here rfl
    cases mem_singleton.mp here
    exact shares.apart mine finished
  · intro j
    by_cases same : j = i
    · subst same
      rw [update_self]
      exact nodup.2
    · rw [update_of_ne same]
      exact shares.nodupPending j
  · intro j b mem
    rw [mem_append, mem_singleton]
    rintro (finished | rfl)
    · exact shares.apart (within mem) finished
    · rcases mem_update.mp mem with ⟨_, later⟩ | ⟨other, mem⟩
      · exact nodup.1 later
      · exact other (shares.distinct mem mine)
  · exact fun {j k b} mem mem' => shares.distinct (within mem) (within mem')

omit [DecidableEq ι]

variable [DecidableEq α]

theorem count_le_one (shares : Shares P done pending) (a : α) : done.count a ≤ 1 :=
  nodup_iff_count_le_one.mp shares.nodup a

/-- With nothing left to do, each item that has come up is done once. -/
theorem count_eq_one (shares : Shares P done pending) (idle : ∀ i, pending i = []) (holds : P a) :
    done.count a = 1 := by
  refine count_eq_one_of_mem shares.nodup ?_
  rcases (shares.all a).mpr holds with mem | ⟨i, mem⟩
  · exact mem
  · rw [idle] at mem
    cases mem

end Shares
