import Mathlib.Data.List.Dedup

/-!
# Tallies

The tally of some items counts, for each group, the items that belong to it.

* `tally_remove`: a tally as that of the items that are removed and of those that are kept.
-/

open List

namespace Tally

variable {α κ : Type} [DecidableEq κ] {group : α → κ} {items batch : List α}

/-- How many of the items belong to each group. -/
def tally (group : α → κ) (items : List α) (key : κ) : Nat := items.countP fun a => group a = key

theorem tally_append (more : List α) (key : κ) :
    tally group (items ++ more) key = tally group items key + tally group more key :=
  countP_append

theorem tally_remove (p : α → Bool) (key : κ) :
    tally group items key =
      tally group (items.filter p) key + tally group (items.filter fun a => !p a) key := by
  unfold tally
  rw [countP_filter, countP_filter,
    countP_eq_countP_filter_add items _ p, countP_filter, countP_filter]

theorem tally_eq_zero_iff : (∀ key, tally group items key = 0) ↔ items = [] := by
  constructor
  · intro zero
    apply eq_nil_iff_forall_not_mem.mpr
    intro a mem
    have none' := countP_eq_zero.mp (zero (group a)) a mem
    simp at none'
  · rintro rfl key
    rfl

variable [DecidableEq α]

/-- What two lists have in common, tallied from either. -/
theorem tally_common (distinct : items.Nodup) (distinctBatch : batch.Nodup) (key : κ) :
    tally group (items.filter fun a => decide (a ∈ batch)) key =
      tally group (batch.filter fun a => decide (a ∈ items)) key := by
  apply Perm.countP_eq
  apply (perm_ext_iff_of_nodup (distinct.filter _) (distinctBatch.filter _)).mpr
  intro a
  simp only [mem_filter, decide_eq_true_eq]
  exact And.comm

/-- Nothing is lost exactly when all that is counted is there to be removed. -/
theorem tally_move_iff (distinct : items.Nodup) (distinctBatch : batch.Nodup) {counted total : κ → Nat}
    (before : ∀ key, counted key + tally group items key = total key) :
    (∀ key, counted key + tally group batch key +
        tally group (items.filter fun a => decide (a ∉ batch)) key = total key) ↔
      ∀ a ∈ batch, a ∈ items := by
  have surplus : ∀ key, counted key + tally group batch key +
      tally group (items.filter fun a => decide (a ∉ batch)) key =
        total key + tally group (batch.filter fun a => !decide (a ∈ items)) key := by
    intro key
    have here : tally group items key = tally group (items.filter fun a => decide (a ∈ batch)) key +
        tally group (items.filter fun a => !decide (a ∈ batch)) key := tally_remove _ key
    have there : tally group batch key = tally group (batch.filter fun a => decide (a ∈ items)) key +
        tally group (batch.filter fun a => !decide (a ∈ items)) key := tally_remove _ key
    have common : tally group (items.filter fun a => decide (a ∈ batch)) key =
        tally group (batch.filter fun a => decide (a ∈ items)) key :=
      tally_common distinct distinctBatch key
    have kept : (items.filter fun a => decide (a ∉ batch)) =
        items.filter fun a => !decide (a ∈ batch) := by
      simp only [decide_not]
    have sum := before key
    rw [kept]
    omega
  have exact' : (∀ key, total key + tally group (batch.filter fun a => !decide (a ∈ items)) key =
      total key) ↔ ∀ key, tally group (batch.filter fun a => !decide (a ∈ items)) key = 0 := by
    refine forall_congr' fun key => ?_
    omega
  simp only [surplus]
  rw [exact', tally_eq_zero_iff, filter_eq_nil_iff]
  simp

end Tally
