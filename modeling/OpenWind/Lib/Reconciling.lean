import Mathlib.Data.List.Nodup

/-!
# Reconciling a keyed store

A store holds entries under keys that are its own.  To reconcile it with the entries that are
wanted, every entry that is not right is removed, and every wanted entry is put whose key no right
entry has.

* `applyAll_plan`: what the store holds after the operations of the plan.
-/

open List Bool

namespace Reconciling

variable {K J : Type}

/-- An operation on the store. -/
inductive Op (K J : Type)
  | remove (k : K)
  | put (j : J)

/-- The key that an operation is about. -/
def Op.key (key : J → K) : Op K J → K
  | .remove k => k
  | .put j => key j

variable [DecidableEq K] (key : J → K)

def without (k : K) (store : List J) : List J := store.filter fun j => key j ≠ k

/-- An entry that is put replaces the one under its key. -/
def Op.apply : Op K J → List J → List J
  | .remove k, store => without key k store
  | .put j, store => without key (key j) store ++ [j]

def applyAll (ops : List (Op K J)) (store : List J) : List J :=
  ops.foldl (fun store op => op.apply key store) store

variable (right : J → Bool) (wanted : List J)

/-- The keys of the right entries. -/
def correct (store : List J) : List K := (store.filter right).map key

def missing (store : List J) : List J :=
  wanted.filter fun j => !(correct key right store).contains (key j)

def plan (store : List J) : List (Op K J) :=
  (store.filter (!right ·)).map (fun j => .remove (key j)) ++
    (missing key right wanted store).map .put

/-- The right entries stay, and the missing ones are added. -/
def reconciled (store : List J) : List J :=
  store.filter right ++ missing key right wanted store

variable {key right wanted} {store : List J}

theorem applyAll_append (first second : List (Op K J)) :
    applyAll key (first ++ second) store = applyAll key second (applyAll key first store) :=
  foldl_append

theorem applyAll_remove (gone : List J) :
    applyAll key (gone.map fun j => Op.remove (key j)) store =
      store.filter fun j => !(gone.map key).contains (key j) := by
  induction gone generalizing store with
  | nil => exact (filter_eq_self.mpr fun _ _ => rfl).symm
  | cons first gone ih =>
    change applyAll key (gone.map fun j => Op.remove (key j)) (without key (key first) store) = _
    rw [ih, without, filter_filter]
    refine List.filter_congr fun j _ => ?_
    by_cases same : key j = key first <;> simp [same]

theorem applyAll_put {new : List J} (distinct : (new.map key).Nodup)
    (free : ∀ j ∈ new, ∀ held ∈ store, key held ≠ key j) :
    applyAll key (new.map Op.put) store = store ++ new := by
  induction new generalizing store with
  | nil => exact (append_nil store).symm
  | cons first new ih =>
    obtain ⟨unused, distinct⟩ := nodup_cons.mp distinct
    have kept : without key (key first) store = store :=
      filter_eq_self.mpr fun held mem =>
        decide_eq_true (free first mem_cons_self held mem)
    change applyAll key (new.map Op.put) (without key (key first) store ++ [first]) = _
    rw [kept, ih distinct ?_, append_assoc, singleton_append]
    intro j mem held there
    rcases mem_append.mp there with old | here
    · exact free j (mem_cons_of_mem first mem) held old
    · rw [mem_singleton.mp here]
      exact fun same => unused (same ▸ mem_map_of_mem mem)

theorem filter_right (unique : (store.map key).Nodup) :
    (store.filter fun j => !((store.filter (!right ·)).map key).contains (key j)) =
      store.filter right := by
  refine List.filter_congr fun j mem => ?_
  rw [Bool.eq_iff_iff, not_eq_true', ← not_eq_true, contains_iff_mem]
  constructor
  · intro alone
    by_contra wrong
    refine alone (mem_map_of_mem (mem_filter.mpr ⟨mem, ?_⟩))
    rw [not_eq_true] at wrong
    rw [wrong, Bool.not_false]
  · intro good found
    obtain ⟨other, there, same⟩ := mem_map.mp found
    obtain ⟨held, wrong⟩ := mem_filter.mp there
    rw [inj_on_of_nodup_map unique held mem same, good] at wrong
    cases wrong

theorem applyAll_plan (unique : (store.map key).Nodup) (distinct : (wanted.map key).Nodup) :
    applyAll key (plan key right wanted store) store = reconciled key right wanted store := by
  unfold plan reconciled
  rw [applyAll_append, applyAll_remove, filter_right unique, applyAll_put]
  · exact distinct.sublist (filter_sublist.map key)
  · intro j mem held there same
    have absent := (mem_filter.mp mem).2
    have present : (correct key right store).contains (key j) := by
      rw [← same]
      exact contains_iff_mem.mpr (mem_map_of_mem there)
    rw [present] at absent
    cases absent

theorem mem_reconciled {j : J} :
    j ∈ reconciled key right wanted store ↔
      (j ∈ store ∧ right j) ∨ (j ∈ wanted ∧ key j ∉ correct key right store) := by
  unfold reconciled missing
  rw [mem_append, mem_filter, mem_filter, not_eq_true', ← not_eq_true, contains_iff_mem]

theorem reconciled_unique (unique : (store.map key).Nodup) (distinct : (wanted.map key).Nodup) :
    ((reconciled key right wanted store).map key).Nodup := by
  unfold reconciled
  rw [map_append, List.nodup_append]
  refine ⟨unique.sublist (filter_sublist.map key), distinct.sublist (filter_sublist.map key), ?_⟩
  rintro k held _ new rfl
  obtain ⟨j, mem, rfl⟩ := mem_map.mp new
  have absent := (mem_filter.mp mem).2
  have present : (correct key right store).contains (key j) :=
    contains_iff_mem.mpr held
  rw [present] at absent
  cases absent

theorem plan_reconciled {again : List J} (rightly : ∀ j ∈ wanted, right j)
    (keys : ∀ j ∈ again, key j ∈ wanted.map key) :
    plan key right again (reconciled key right wanted store) = [] := by
  have good : ∀ j ∈ reconciled key right wanted store, right j := by
    intro j mem
    rcases mem_reconciled.mp mem with held | new
    · exact held.2
    · exact rightly j new.1
  have none_wrong : (reconciled key right wanted store).filter (!right ·) = [] :=
    filter_eq_nil_iff.mpr fun j mem => by rw [good j mem]; exact Bool.false_ne_true
  have none_missing : missing key right again (reconciled key right wanted store) = [] := by
    refine filter_eq_nil_iff.mpr fun j mem => ?_
    obtain ⟨want, wants, same⟩ := mem_map.mp (keys j mem)
    have covered : key j ∈ correct key right (reconciled key right wanted store) := by
      by_cases held : key j ∈ correct key right store
      · obtain ⟨old, there, is⟩ := mem_map.mp held
        refine mem_map.mpr ⟨old, mem_filter.mpr ⟨?_, (mem_filter.mp there).2⟩, is⟩
        exact mem_append_left _ there
      · refine mem_map.mpr ⟨want, mem_filter.mpr ⟨?_, rightly want wants⟩, same⟩
        exact mem_reconciled.mpr (.inr ⟨wants, by rwa [same]⟩)
    rw [contains_iff_mem.mpr covered]
    exact Bool.false_ne_true
  unfold plan
  rw [none_wrong, none_missing]
  rfl

theorem untouched (unique : (store.map key).Nodup) {j : J} (mem : j ∈ store)
    (good : right j) : ∀ op ∈ plan key right wanted store, op.key key ≠ key j := by
  intro op planned same
  rcases mem_append.mp planned with removed | put
  · obtain ⟨other, there, rfl⟩ := mem_map.mp removed
    obtain ⟨held, wrong⟩ := mem_filter.mp there
    rw [inj_on_of_nodup_map unique held mem same, good] at wrong
    cases wrong
  · obtain ⟨other, there, rfl⟩ := mem_map.mp put
    have absent := (mem_filter.mp there).2
    have present : key other ∈ correct key right store := by
      rw [show key other = key j from same]
      exact mem_map_of_mem (mem_filter.mpr ⟨mem, good⟩)
    rw [contains_iff_mem.mpr present] at absent
    cases absent

end Reconciling
