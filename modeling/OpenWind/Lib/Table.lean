import OpenWind.Lib.Prog
import Mathlib.Data.List.Nodup

/-!
# Tables of a store

A `Table` is one list of rows inside a store, with the lock that stands for each
row.  The SQL statements on it are transaction programs:

* `Table.find`, `Table.filter`: plain reads;

Run alone, an update is `Table.modify` (`exec_update`) and an insert that
succeeds is `Table.append` (`exec_insert_ok`).
-/

open List Txn.Prog

namespace Txn

variable {σ κ ε ρ : Type} [DecidableEq κ]

/-- A list of rows inside a store. -/
structure Table (σ κ ρ : Type) where
  rows : σ → List ρ
  put : σ → List ρ → σ
  key : ρ → κ
  rows_put : ∀ db rs, rows (put db rs) = rs

namespace Table

variable (T : Table σ κ ρ)

/-- Change the rows that satisfy `p`. -/
def modify (p : ρ → Bool) (f : ρ → ρ) (db : σ) : σ :=
  T.put db ((T.rows db).map fun r => if p r then f r else r)

/-- Drop the rows that satisfy `p`. -/
def remove (p : ρ → Bool) (db : σ) : σ := T.put db ((T.rows db).filter fun r => !p r)

def append (rs : List ρ) (db : σ) : σ := T.put db (T.rows db ++ rs)

omit [DecidableEq κ] in
@[simp] theorem rows_modify (p : ρ → Bool) (f : ρ → ρ) (db : σ) :
    T.rows (T.modify p f db) = (T.rows db).map fun r => if p r then f r else r :=
  T.rows_put _ _

omit [DecidableEq κ] in
@[simp] theorem rows_remove (p : ρ → Bool) (db : σ) :
    T.rows (T.remove p db) = (T.rows db).filter fun r => !p r :=
  T.rows_put _ _

omit [DecidableEq κ] in
@[simp] theorem rows_append (rs : List ρ) (db : σ) : T.rows (T.append rs db) = T.rows db ++ rs :=
  T.rows_put _ _

/-! ## Statements -/

def find (p : ρ → Bool) : Prog σ κ ε (Option ρ) :=
  .read fun db => (T.rows db).find? p

def filter (p : ρ → Bool) : Prog σ κ ε (List ρ) :=
  .read fun db => (T.rows db).filter p

def lockRow (busy : Option ε) (p : ρ → Bool) : Prog σ κ ε (Option ρ) :=
  .readLocked (fun db => ((T.rows db).find? p).toList.map T.key) busy fun db => (T.rows db).find? p

def lockRows (p : ρ → Bool) : Prog σ κ ε (List ρ) :=
  .readLocked (fun db => ((T.rows db).filter p).map T.key) none fun db => (T.rows db).filter p

def selected (p : ρ → Bool) (view : σ) (r : ρ) : Bool :=
  p r && (T.rows view).any fun v => T.key v == T.key r && p v

def update (p : ρ → Bool) (f : ρ → ρ) : Prog σ κ ε Unit :=
  .write (fun view => ((T.rows view).filter p).map T.key) fun view =>
    T.modify (T.selected p view) f

/-- An update that throws when it has matched no row. -/
def updateOr (e : ε) (p : ρ → Bool) (f : ρ → ρ) : Prog σ κ ε Unit :=
  .writeChecked (fun view => ((T.rows view).filter p).map T.key) (fun view => (T.rows view).any p) e
    fun view => T.modify (T.selected p view) f

def delete (p : ρ → Bool) : Prog σ κ ε Unit :=
  .write (fun view => ((T.rows view).filter p).map T.key) fun view => T.remove (T.selected p view)

def among (rows : List ρ) (r : ρ) : Bool := rows.any fun v => T.key v == T.key r

def deleteReturning (p : ρ → Bool) : Prog σ κ ε (List ρ) :=
  (T.lockRows p).bind fun rows =>
    (Prog.write (fun _ => []) fun _ => T.remove (T.among rows)).bind fun _ => .ret rows

def fresh (rs : List ρ) (db : σ) : Bool :=
  decide (rs.map T.key).Nodup && rs.all fun r => (T.rows db).all fun v => T.key v != T.key r

def insert (e : ε) (rs : List ρ) : Prog σ κ ε Unit :=
  .writeChecked (fun _ => rs.map T.key) (T.fresh rs) e fun _ => T.append rs

def insertUnique (entries : List κ) (clash : ρ → Bool) (e : ε) (r : ρ) : Prog σ κ ε Unit :=
  .writeChecked (fun _ => T.key r :: entries)
    (fun view => T.fresh [r] view && !(T.rows view).any clash) e fun _ => T.append [r]

/-! ## Serial execution -/

variable {db db' : σ} {r : ρ} {p : ρ → Bool} {e : ε} {rs : List ρ} {u : Unit}

theorem selected_self (p : ρ → Bool) (mem : r ∈ T.rows db) : T.selected p db r = p r := by
  by_cases ok : p r = true
  · have any : (T.rows db).any (fun v => T.key v == T.key r && p v) = true :=
      any_eq_true.mpr ⟨r, mem, by simp [ok]⟩
    simp [selected, ok, any]
  · simp [selected, ok]

theorem selected_one {view : σ} (one : ∀ v r, p v → p r → T.key v = T.key r)
    (some' : (T.rows view).any p) : T.selected p view = p := by
  funext r
  by_cases ok : p r = true
  · obtain ⟨v, mem, selects⟩ := any_eq_true.mp some'
    have any : (T.rows view).any (fun v => T.key v == T.key r && p v) = true :=
      any_eq_true.mpr ⟨v, mem, by simp [selects, one v r selects ok]⟩
    simp [selected, ok, any]
  · simp [selected, ok]

theorem modify_selected (p : ρ → Bool) (f : ρ → ρ) (db : σ) :
    T.modify (T.selected p db) f db = T.modify p f db := by
  unfold modify
  congr 1
  apply map_congr_left
  intro r mem
  rw [T.selected_self p mem]

theorem remove_selected (p : ρ → Bool) (db : σ) :
    T.remove (T.selected p db) db = T.remove p db := by
  unfold remove
  congr 1
  apply List.filter_congr
  intro r mem
  rw [T.selected_self p mem]

omit [DecidableEq κ] in
@[simp] theorem exec_find (p : ρ → Bool) (db : σ) :
    (T.find p : Prog σ κ ε _).exec db = .ok ((T.rows db).find? p, db) := rfl

omit [DecidableEq κ] in
@[simp] theorem exec_filter (p : ρ → Bool) (db : σ) :
    (T.filter p : Prog σ κ ε _).exec db = .ok ((T.rows db).filter p, db) := rfl

omit [DecidableEq κ] in
@[simp] theorem exec_lockRow (busy : Option ε) (p : ρ → Bool) (db : σ) :
    (T.lockRow busy p).exec db = .ok ((T.rows db).find? p, db) := rfl

omit [DecidableEq κ] in
@[simp] theorem exec_lockRows (p : ρ → Bool) (db : σ) :
    (T.lockRows p : Prog σ κ ε _).exec db = .ok ((T.rows db).filter p, db) := rfl

@[simp] theorem exec_update (p : ρ → Bool) (f : ρ → ρ) (db : σ) :
    (T.update p f : Prog σ κ ε Unit).exec db = .ok ((), T.modify p f db) := by
  rw [update, exec_write, modify_selected]

@[simp] theorem exec_delete (p : ρ → Bool) (db : σ) :
    (T.delete p : Prog σ κ ε Unit).exec db = .ok ((), T.remove p db) := by
  rw [delete, exec_write, remove_selected]

theorem exec_insert_ok :
    (T.insert e rs).exec db = .ok (u, db') ↔ T.fresh rs db ∧ db' = T.append rs db :=
  exec_writeChecked_ok

theorem exec_insertUnique_ok {entries : List κ} {clash : ρ → Bool} :
    (T.insertUnique entries clash e r).exec db = .ok (u, db') ↔
      (T.fresh [r] db ∧ ∀ v ∈ T.rows db, clash v = false) ∧ db' = T.append [r] db := by
  rw [insertUnique, exec_writeChecked_ok]
  simp

/-! ## Primary keys -/

/-- The keys of the rows are distinct. -/
def Keyed (db : σ) : Prop := ((T.rows db).map T.key).Nodup

variable {T}

omit [DecidableEq κ] in
theorem Keyed.eq (keyed : T.Keyed db) {r r' : ρ} (mem : r ∈ T.rows db) (mem' : r' ∈ T.rows db)
    (same : T.key r = T.key r') : r = r' :=
  inj_on_of_nodup_map keyed mem mem' same

omit [DecidableEq κ] in
theorem Keyed.of_rows {db db' : σ} (keyed : T.Keyed db) (same : T.rows db' = T.rows db) :
    T.Keyed db' := by
  unfold Keyed
  rw [same]
  exact keyed

omit [DecidableEq κ] in
theorem Keyed.of_nil {db : σ} (none : T.rows db = []) : T.Keyed db := by
  unfold Keyed
  rw [none]
  exact nodup_nil

omit [DecidableEq κ] in
theorem Keyed.of_map {db db' : σ} (keyed : T.Keyed db) {g : ρ → ρ}
    (rows : T.rows db' = (T.rows db).map g) (kept : ∀ r, T.key (g r) = T.key r) : T.Keyed db' := by
  have keys : (T.rows db').map T.key = (T.rows db).map T.key := by
    rw [rows, map_map]
    exact map_congr_left fun r _ => kept r
  unfold Keyed
  rw [keys]
  exact keyed

omit [DecidableEq κ] in
theorem Keyed.modify {db : σ} (keyed : T.Keyed db) (p : ρ → Bool) {f : ρ → ρ}
    (kept : ∀ r, T.key (f r) = T.key r) : T.Keyed (T.modify p f db) := by
  refine keyed.of_map (T.rows_modify p f db) fun r => ?_
  split
  · exact kept r
  · rfl

omit [DecidableEq κ] in
theorem Keyed.remove {db : σ} (keyed : T.Keyed db) (p : ρ → Bool) : T.Keyed (T.remove p db) := by
  unfold Keyed
  rw [rows_remove]
  exact Nodup.sublist (Sublist.map _ filter_sublist) keyed

theorem Keyed.exec_deleteReturning (keyed : T.Keyed db) (p : ρ → Bool) :
    (T.deleteReturning p : Prog σ κ ε _).exec db = .ok ((T.rows db).filter p, T.remove p db) := by
  have same : T.remove (T.among ((T.rows db).filter p)) db = T.remove p db := by
    unfold Table.remove
    congr 1
    refine List.filter_congr fun r mem => congrArg (!·) (Bool.eq_iff_iff.mpr ⟨fun listed => ?_, ?_⟩)
    · obtain ⟨v, found, key⟩ := any_eq_true.mp listed
      obtain ⟨memV, selects⟩ := mem_filter.mp found
      rwa [← keyed.eq memV mem (eq_of_beq key)]
    · exact fun selects => any_eq_true.mpr ⟨r, mem_filter.mpr ⟨mem, selects⟩, by simp⟩
  rw [deleteReturning, exec_bind, exec_lockRows]
  dsimp only
  rw [exec_bind, exec_write, same]
  rfl

theorem Keyed.append {db : σ} (keyed : T.Keyed db) {rs : List ρ} (fresh : T.fresh rs db) :
    T.Keyed (T.append rs db) := by
  simp only [Table.fresh, Bool.and_eq_true, decide_eq_true_eq, all_eq_true, bne_iff_ne] at fresh
  unfold Keyed
  rw [rows_append, map_append, List.nodup_append]
  refine ⟨keyed, fresh.1, ?_⟩
  intro k old k' new eq
  rcases mem_map.mp old with ⟨v, memV, rfl⟩
  rcases mem_map.mp new with ⟨r, memR, rfl⟩
  exact fresh.2 r memR v memV eq

/-! ## Changes of other tables -/

variable {A : (σ → σ) → Prop}

theorem keeps_update {f : ρ → ρ} (kept : ∀ patch q, A patch → A (T.modify q f ∘ patch)) :
    (T.update p f : Prog σ κ ε Unit).Keeps A :=
  .write fun patch _ holds => kept patch _ holds

theorem keeps_insert (kept : ∀ patch, A patch → A (T.append rs ∘ patch)) :
    (T.insert e rs : Prog σ κ ε Unit).Keeps A :=
  .writeChecked fun patch _ holds => kept patch holds

end Table

end Txn
