import Mathlib.Data.List.Nodup

/-!
# The keys that were used last

A log of uses of keys, each with the value that the key had, the latest first.

* `latest`: each key once, with its latest value, in the order of the latest uses.
-/

open List

namespace LastUsed

variable {κ ν : Type} [DecidableEq κ]

/-- Without the entry of a key. -/
def without (k : κ) (entries : List (κ × ν)) : List (κ × ν) := entries.filter fun e => e.1 ≠ k

/-- Each key once, at its latest use. -/
def latest : List (κ × ν) → List (κ × ν)
  | [] => []
  | use :: log => use :: without use.1 (latest log)

theorem nodup_latest (log : List (κ × ν)) : ((latest log).map Prod.fst).Nodup := by
  induction log with
  | nil => exact nodup_nil
  | cons use log ih =>
    rw [latest, map_cons, nodup_cons]
    refine ⟨fun mem => ?_, ih.sublist (filter_sublist.map _)⟩
    obtain ⟨e, kept, same⟩ := mem_map.mp mem
    exact of_decide_eq_true (mem_filter.mp kept).2 same

theorem mem_of_latest {log : List (κ × ν)} {e : κ × ν} (mem : e ∈ latest log) : e ∈ log := by
  induction log with
  | nil => exact mem
  | cons use log ih =>
    rcases mem_cons.mp mem with rfl | older
    · exact mem_cons_self
    · exact mem_cons_of_mem _ (ih (mem_of_mem_filter older))

theorem without_eq {k : κ} {entries : List (κ × ν)} (absent : k ∉ entries.map Prod.fst) :
    without k entries = entries :=
  filter_eq_self.mpr fun _ mem => decide_eq_true fun same => absent (same ▸ mem_map_of_mem mem)

/-- A dropped key makes room for one more of the others. -/
theorem take_filter {entries : List (κ × ν)} (distinct : (entries.map Prod.fst).Nodup) (k : κ)
    (n : Nat) : (without k (entries.take (n + 1))).take n = (without k entries).take n := by
  induction entries generalizing n with
  | nil => rfl
  | cons e rest ih =>
    rw [map_cons, nodup_cons] at distinct
    cases n with
    | zero => rfl
    | succ n =>
      rw [take_succ_cons]
      by_cases same : e.1 = k
      · -- the key is among the rest no more
        have absent : k ∉ rest.map Prod.fst := same ▸ distinct.1
        have dropped (es : List (κ × ν)) : without k (e :: es) = without k es := by
          unfold without
          rw [filter_cons_of_neg (by simpa using same)]
        have fewer : k ∉ (rest.take (n + 1)).map Prod.fst := fun mem =>
          absent (((take_sublist _ _).map _).subset mem)
        rw [dropped, dropped, without_eq absent, without_eq fewer, take_take, Nat.min_self]
      · have kept (es : List (κ × ν)) : without k (e :: es) = e :: without k es := by
          unfold without
          rw [filter_cons_of_pos (by simpa using same)]
        rw [kept, kept, take_succ_cons, take_succ_cons, ih distinct.2]

/-- A use of a key keeps the store that of the last keys. -/
theorem take_touch (use : κ × ν) (log : List (κ × ν)) (n : Nat) :
    (use :: without use.1 ((latest log).take (n + 1))).take (n + 1) =
      (latest (use :: log)).take (n + 1) := by
  rw [take_succ_cons, latest, take_succ_cons, take_filter (nodup_latest log)]

end LastUsed
