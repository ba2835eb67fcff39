import OpenWind.Lib.Pool
import OpenWind.Lib.Table

/-!
# Row locks

What a transaction may rely on for the rows of a table that it has locked: the others leave them
as they are, and add none with their keys.

* `Table.lockedStay`: this as a rely.
-/

open List

namespace Txn

variable {σ κ ε α ρ : Type} [DecidableEq κ]

namespace Table

variable (T : Table σ κ ρ)

def lockedStay : Rely σ κ where
  rel held a b := ∀ row, T.key row ∈ held → (row ∈ T.rows a ↔ row ∈ T.rows b)
  refl _ _ _ _ := Iff.rfl
  trans first second row held := (first row held).trans (second row held)
  anti more same row held := same row (more held)

variable {T} {db db' : σ} {held : List κ}

omit [DecidableEq κ] in
/-- A change of rows that the transaction has locked. -/
theorem respects_modify {f : ρ → ρ} (rows : T.rows db' = (T.rows db).map f)
    (keys : ∀ row, T.key (f row) = T.key row) (own : ∀ row, T.key row ∉ held → f row = row) :
    T.lockedStay.Respects held db db' := by
  intro others disjoint row locked
  have same : f row = row := own row (disjoint _ locked)
  rw [rows, mem_map]
  constructor
  · exact fun mem => ⟨row, mem, same⟩
  · rintro ⟨before, mem, rfl⟩
    rw [keys] at locked
    rwa [own before (disjoint _ locked)]

omit [DecidableEq κ] in
theorem respects_append {new : List ρ} (rows : T.rows db' = T.rows db ++ new)
    (own : ∀ row ∈ new, T.key row ∈ held) : T.lockedStay.Respects held db db' := by
  intro others disjoint row locked
  rw [rows, mem_append]
  constructor
  · exact .inl
  · rintro (old | added)
    · exact old
    · exact absurd (own row added) (disjoint _ locked)

omit [DecidableEq κ] in
theorem respects_replace {q : ρ → Bool} {new : List ρ}
    (rows : T.rows db' = (T.rows db).filter (fun row => !q row) ++ new)
    (own : ∀ row, q row → T.key row ∈ held) (own' : ∀ row ∈ new, T.key row ∈ held) :
    T.lockedStay.Respects held db db' := by
  intro others disjoint row locked
  have free : q row = false := Bool.eq_false_iff.mpr fun gone => disjoint _ locked (own row gone)
  rw [rows, mem_append, mem_filter]
  constructor
  · exact fun mem => .inl ⟨mem, by rw [free]; rfl⟩
  · rintro (⟨mem, -⟩ | added)
    · exact mem
    · exact absurd (own' row added) (disjoint _ locked)

omit [DecidableEq κ] in
theorem respects_remove {q : ρ → Bool} (rows : T.rows db' = (T.rows db).filter fun row => !q row)
    (own : ∀ row, q row → T.key row ∈ held) : T.lockedStay.Respects held db db' :=
  respects_replace (rows.trans (append_nil _).symm) own nofun

theorem fresh_later {new : List ρ} (fresh : T.fresh new db)
    (stays : ∀ row, T.key row ∈ held → row ∈ T.rows db' → row ∈ T.rows db)
    (own : ∀ row ∈ new, T.key row ∈ held) : T.fresh new db' := by
  simp only [Table.fresh, Bool.and_eq_true, decide_eq_true_eq, all_eq_true, bne_iff_ne] at fresh ⊢
  refine ⟨fresh.1, fun row added other mem same => ?_⟩
  exact fresh.2 row added other (stays other (same ▸ own row added) mem) same

/-- A row that an update of the view changes is locked by it. -/
theorem key_of_selected {p : ρ → Bool} {view : σ} {row : ρ} (selected : T.selected p view row) :
    p row ∧ T.key row ∈ ((T.rows view).filter p).map T.key := by
  obtain ⟨selects, matched⟩ := Bool.and_eq_true_iff.mp selected
  obtain ⟨found, mem, both⟩ := any_eq_true.mp matched
  obtain ⟨same, selects'⟩ := Bool.and_eq_true_iff.mp both
  exact ⟨selects, mem_map.mpr ⟨found, mem_filter.mpr ⟨mem, selects'⟩, eq_of_beq same⟩⟩

/-- A row that has the key of one of `rows`, which are locked. -/
theorem key_of_among {rows : List ρ} {row : ρ} (among : T.among rows row) :
    T.key row ∈ rows.map T.key := by
  obtain ⟨found, mem, same⟩ := any_eq_true.mp among
  exact mem_map.mpr ⟨found, mem, eq_of_beq same⟩

end Table

namespace Safe

variable {T : Table σ κ ρ} {R : Rely σ κ} {I : σ → Prop} {F : ε → Prop}
  {Q : α → List κ → (σ → σ) → σ → Prop} {held : List κ} {patch : σ → σ} {db : σ} {p : ρ → Bool}

omit [DecidableEq κ] in
theorem lockRow {busy : Option ε} {next : Option ρ → Prog σ κ ε α}
    (refused : ∀ e, busy = some e → F e)
    (missing : ∀ later, R.rel held db later → I later → Safe R I F Q (next none) held patch later)
    (found : ∀ later row, R.rel held db later → I later → row ∈ T.rows (patch later) →
      p row → Safe R I F Q (next (some row)) (T.key row :: held) patch later) :
    Safe R I F Q ((T.lockRow busy p).bind next) held patch db := by
  refine readLocked refused fun later onward inv => ?_
  cases first : (T.rows (patch later)).find? p with
  | none => exact missing later onward inv
  | some row =>
    exact found later row onward inv (mem_of_find?_eq_some first) (find?_some first)

/-- An update of the one row with a key, when it has not failed, changes what `p` selects. -/
theorem updateOr {e : ε} {f : ρ → ρ} {next : Unit → Prog σ κ ε α}
    (one : ∀ v r, p v → p r → T.key v = T.key r) (violated : F e)
    (found : ∀ later row, R.rel held db later → I later → row ∈ T.rows (patch later) →
      p row → Safe R I F Q (next ()) (((T.rows (patch later)).filter p).map T.key ++ held)
        (T.modify p f ∘ patch) later) :
    Safe R I F Q ((T.updateOr e p f).bind next) held patch db := by
  refine writeChecked violated fun later onward inv some' => ?_
  obtain ⟨row, mem, selects⟩ := any_eq_true.mp some'
  rw [T.selected_one one some']
  exact found later row onward inv mem selects

theorem deleteReturning {next : List ρ → Prog σ κ ε α} {Q : α → List κ → (σ → σ) → σ → Prop}
    (onward : ∀ later last rows, R.rel held db later → I later →
      rows = (T.rows (patch later)).filter p → R.rel (rows.map T.key ++ held) later last → I last →
      Safe R I F Q (next rows) (rows.map T.key ++ held) (T.remove (T.among rows) ∘ patch) last) :
    Safe R I F Q ((T.deleteReturning p).bind next) held patch db := by
  change Safe R I F Q ((T.lockRows p).bind fun rows =>
    (Prog.write (fun _ => []) fun _ => T.remove (T.among rows)).bind fun _ => next rows) held patch
      db
  refine readLocked (fun _ busy => by cases busy) fun later moved inv => ?_
  refine write fun last moved' inv' => ?_
  exact onward later last _ moved inv rfl moved' inv'

/-- An update of the one row with a key, which is there, changes what `p` selects. -/
theorem updateOne {f : ρ → ρ} {next : Unit → Prog σ κ ε α}
    (one : ∀ v r, p v → p r → T.key v = T.key r)
    (present : ∀ later, R.rel held db later → ∃ row ∈ T.rows (patch later), p row)
    (onward : ∀ later, R.rel held db later → I later →
      Safe R I F Q (next ()) (((T.rows (patch later)).filter p).map T.key ++ held)
        (T.modify p f ∘ patch) later) :
    Safe R I F Q ((T.update p f).bind next) held patch db := by
  refine write fun later moved inv => ?_
  rw [T.selected_one one (any_eq_true.mpr (present later moved))]
  exact onward later moved inv

end Safe

end Txn
