import Mathlib.Data.List.Nodup

/-!
# Rows with a key

A list of rows whose keys are distinct.

* `find?_iff`: a search by the key finds the row with that key.
-/

open List

namespace Rows

variable {ρ κ : Type} {key : ρ → κ} {p : ρ → Bool} {k : κ} {rows : List ρ} {row other : ρ}

/-- A key determines its row. -/
theorem eq_of_key (distinct : (rows.map key).Nodup) (mem : row ∈ rows) (memOther : other ∈ rows)
    (same : key row = key other) : row = other :=
  inj_on_of_nodup_map distinct mem memOther same

/-- The search finds the row with the key. -/
theorem find?_iff (distinct : (rows.map key).Nodup) (selects : ∀ r, p r ↔ key r = k) :
    rows.find? p = some row ↔ row ∈ rows ∧ key row = k := by
  constructor
  · intro found
    exact ⟨mem_of_find?_eq_some found, (selects row).mp (find?_some found)⟩
  · rintro ⟨mem, named⟩
    cases found : rows.find? p with
    | none => exact absurd ((selects row).mpr named) (find?_eq_none.mp found row mem)
    | some other =>
      have same : key other = key row :=
        ((selects other).mp (find?_some found)).trans named.symm
      rw [eq_of_key distinct (mem_of_find?_eq_some found) mem same]

theorem find?_none_iff (selects : ∀ r, p r ↔ key r = k) :
    rows.find? p = none ↔ k ∉ rows.map key := by
  rw [find?_eq_none]
  constructor
  · intro none' listed
    obtain ⟨row, mem, named⟩ := mem_map.mp listed
    exact none' row mem ((selects row).mpr named)
  · intro absent row mem selected
    exact absent (mem_map.mpr ⟨row, mem, (selects row).mp selected⟩)

/-- An update that the search cannot tell leaves the row found in its place. -/
theorem find?_updated {f : ρ → ρ} (same : ∀ r, p (f r) = p r) :
    (rows.map f).find? p = (rows.find? p).map f := by
  rw [find?_map]
  congr 2
  funext r
  exact same r

theorem keys_updated {f : ρ → ρ} (same : ∀ r, key (f r) = key r) :
    (rows.map f).map key = rows.map key := by
  rw [map_map]
  exact map_congr_left fun r _ => same r

/-- A row with a new key leaves the keys distinct. -/
theorem nodup_append (distinct : (rows.map key).Nodup) (fresh : key row ∉ rows.map key) :
    ((rows ++ [row]).map key).Nodup := by
  rw [map_append, map_singleton, List.nodup_append]
  refine ⟨distinct, nodup_singleton _, fun a mem b single same => ?_⟩
  rw [mem_singleton] at single
  exact fresh (single ▸ same ▸ mem)

end Rows
