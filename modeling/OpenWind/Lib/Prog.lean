import Mathlib.Tactic.Common

/-!
# Transaction programs

A transaction is a sequence of SQL statements with code in between.  `Prog` is
that sequence as a tree: each node is one statement, and its continuation reads
the transaction's own view of the store right after the statement.

* `Prog.exec` is the meaning of a program that runs alone: a partial function on
  stores that either returns a value and the new store or fails and changes
  nothing.  The `exec_…` lemmas are the simp set every serial proof uses.

What happens when statements of several programs alternate is the subject of
`Lib/Pool.lean`.
-/

namespace Txn

variable {σ κ ε α β : Type}

structure Stmt (σ κ ε : Type) where
  /-- The row locks the statement takes, computed from the rows it matches. -/
  keys : σ → List κ
  /-- The error raised when a lock is taken already; `none` means it waits. -/
  busy : Option ε
  /-- The change the statement makes to the rows it matched in the view. -/
  write : σ → Except ε (σ → σ)

/-- A transaction program with result `α`. -/
inductive Prog (σ κ ε α : Type) : Type
  | ret (a : α)
  | fail (e : ε)
  | stmt (s : Stmt σ κ ε) (next : σ → Prog σ κ ε α)

namespace Prog

/-- Sequencing. -/
def bind : Prog σ κ ε α → (α → Prog σ κ ε β) → Prog σ κ ε β
  | ret a, f => f a
  | fail e, _ => fail e
  | stmt s next, f => stmt s fun view => (next view).bind f

instance : Monad (Prog σ κ ε) where
  pure := ret
  bind := bind

theorem bind_ret (p : Prog σ κ ε α) : p.bind ret = p := by
  induction p with
  | ret a => rfl
  | fail e => rfl
  | stmt s next ih => exact congrArg (stmt s) (funext ih)

/-- The meaning of a program that runs alone. -/
def exec : Prog σ κ ε α → σ → Except ε (α × σ)
  | ret a, db => .ok (a, db)
  | fail e, _ => .error e
  | stmt s next, db =>
    match s.write db with
    | .error e => .error e
    | .ok change => (next (change db)).exec (change db)

/-! ## Statements -/

/-- A plain `SELECT`. -/
def read (f : σ → α) : Prog σ κ ε α :=
  .stmt ⟨fun _ => [], none, fun _ => .ok id⟩ fun view => .ret (f view)

def readLocked (keys : σ → List κ) (busy : Option ε) (f : σ → α) : Prog σ κ ε α :=
  .stmt ⟨keys, busy, fun _ => .ok id⟩ fun view => .ret (f view)

def write (keys : σ → List κ) (change : σ → σ → σ) : Prog σ κ ε Unit :=
  .stmt ⟨keys, none, fun view => .ok (change view)⟩ fun _ => .ret ()

def writeChecked (keys : σ → List κ) (valid : σ → Bool) (e : ε) (change : σ → σ → σ) :
    Prog σ κ ε Unit :=
  .stmt ⟨keys, none, fun view => if valid view then .ok (change view) else .error e⟩
    fun _ => .ret ()

/-- Throw `e` unless `b`. -/
def require (b : Bool) (e : ε) : Prog σ κ ε Unit :=
  if b then .ret () else .fail e

def getOr (o : Option α) (e : ε) : Prog σ κ ε α :=
  match o with
  | some a => .ret a
  | none => .fail e

/-- Run `f` on each element, in order. -/
def forEach (as : List β) (f : β → Prog σ κ ε Unit) : Prog σ κ ε Unit :=
  match as with
  | [] => .ret ()
  | a :: rest => (f a).bind fun _ => forEach rest f

/-! ## Serial execution -/

@[simp] theorem pure_eq (a : α) : (pure a : Prog σ κ ε α) = .ret a := rfl

@[simp] theorem bind_eq (p : Prog σ κ ε α) (f : α → Prog σ κ ε β) : (p >>= f) = p.bind f := rfl

@[simp] theorem exec_ret (a : α) (db : σ) : (ret a : Prog σ κ ε α).exec db = .ok (a, db) := rfl

@[simp] theorem exec_fail (e : ε) (db : σ) : (fail e : Prog σ κ ε α).exec db = .error e := rfl

@[simp] theorem exec_bind (p : Prog σ κ ε α) (f : α → Prog σ κ ε β) (db : σ) :
    (p.bind f).exec db =
      match p.exec db with
      | .error e => .error e
      | .ok (a, db') => (f a).exec db' := by
  induction p generalizing db with
  | ret a => rfl
  | fail e => rfl
  | stmt s next ih =>
    simp only [bind, exec]
    cases s.write db with
    | error e => rfl
    | ok change => exact ih (change db) (change db)

@[simp] theorem exec_read (f : σ → α) (db : σ) : (read f : Prog σ κ ε α).exec db = .ok (f db, db) := rfl

@[simp] theorem exec_write (keys : σ → List κ) (change : σ → σ → σ) (db : σ) :
    (write keys change : Prog σ κ ε Unit).exec db = .ok ((), change db db) := rfl

theorem exec_writeChecked (keys : σ → List κ) (valid : σ → Bool) (e : ε)
    (change : σ → σ → σ) (db : σ) :
    (writeChecked keys valid e change).exec db =
      if valid db then .ok ((), change db db) else .error e := by
  by_cases ok : valid db <;> simp [writeChecked, exec, ok]

theorem exec_getOr (o : Option α) (e : ε) (db : σ) :
    (getOr o e : Prog σ κ ε α).exec db =
      match o with
      | some a => .ok (a, db)
      | none => .error e := by
  cases o <;> rfl

theorem exec_require (b : Bool) (e : ε) (db : σ) :
    (require b e : Prog σ κ ε Unit).exec db = if b then .ok ((), db) else .error e := by
  cases b <;> rfl

/-! ## Inversions

A run of a sequence that returned took each of its steps.  These are the rules
the inversion lemmas of operations are made of. -/

variable {db db' : σ} {e : ε} {u : Unit}

theorem exec_bind_ok {p : Prog σ κ ε α} {f : α → Prog σ κ ε β} {b : β} :
    (p.bind f).exec db = .ok (b, db') ↔
      ∃ a mid, p.exec db = .ok (a, mid) ∧ (f a).exec mid = .ok (b, db') := by
  rw [exec_bind]
  cases p.exec db with
  | error e => simp
  | ok r => exact ⟨fun ran => ⟨r.1, r.2, rfl, ran⟩, fun ⟨_, _, eq, ran⟩ => by cases eq; exact ran⟩

theorem exec_seq_ok {p : Prog σ κ ε α} {f : α → Prog σ κ ε β} {b : β} :
    (p >>= f).exec db = .ok (b, db') ↔
      ∃ a mid, p.exec db = .ok (a, mid) ∧ (f a).exec mid = .ok (b, db') :=
  exec_bind_ok

theorem exec_pure (a : α) (db : σ) : (pure a : Prog σ κ ε α).exec db = .ok (a, db) := rfl

theorem ok_eq_ok {a b : α} :
    (Except.ok (a, db) : Except ε (α × σ)) = .ok (b, db') ↔ a = b ∧ db = db' := by
  rw [Except.ok.injEq, Prod.mk.injEq]

theorem exec_require_ok {b : Bool} :
    (require b e : Prog σ κ ε Unit).exec db = .ok (u, db') ↔ b ∧ db' = db := by
  cases b <;> simp [require, eq_comm]

theorem exec_getOr_ok {o : Option α} {a : α} :
    (getOr o e : Prog σ κ ε α).exec db = .ok (a, db') ↔ o = some a ∧ db' = db := by
  cases o <;> simp [getOr, eq_comm]

theorem exec_writeChecked_ok {keys : σ → List κ} {valid : σ → Bool} {change : σ → σ → σ} :
    (writeChecked keys valid e change).exec db = .ok (u, db') ↔ valid db ∧ db' = change db db := by
  rw [exec_writeChecked]
  by_cases ok : valid db <;> simp [ok, eq_comm]

theorem exec_forEach_ok {R : σ → σ → Prop} (refl : ∀ db, R db db)
    (trans : ∀ {a b c}, R a b → R b c → R a c) {as : List β} {f : β → Prog σ κ ε Unit}
    (each : ∀ a ∈ as, ∀ {db db' u}, (f a).exec db = .ok (u, db') → R db db')
    (ran : (forEach as f).exec db = .ok (u, db')) : R db db' := by
  induction as generalizing db with
  | nil =>
    cases ran
    exact refl _
  | cons a rest ih =>
    rw [forEach] at ran
    obtain ⟨_, mid, first, later⟩ := exec_bind_ok.mp ran
    have before := each a List.mem_cons_self first
    exact trans before (ih (fun b mem => each b (List.mem_cons_of_mem a mem)) later)

/-! ## Programs that only read -/

def ReadOnly : Prog σ κ ε α → Prop
  | ret _ => True
  | fail _ => True
  | stmt s next =>
    (∀ view change, s.write view = .ok change → change = id) ∧ ∀ view, (next view).ReadOnly

namespace ReadOnly

theorem bind {p : Prog σ κ ε α} {f : α → Prog σ κ ε β} (first : p.ReadOnly)
    (rest : ∀ a, (f a).ReadOnly) : (p.bind f).ReadOnly := by
  induction p with
  | ret a => exact rest a
  | fail e => trivial
  | stmt s next ih => exact ⟨first.1, fun view => ih view (first.2 view)⟩

theorem read (f : σ → α) : (Prog.read f : Prog σ κ ε α).ReadOnly :=
  ⟨fun _ _ eq => (Except.ok.inj eq).symm, fun _ => trivial⟩

theorem readLocked (keys : σ → List κ) (busy : Option ε) (f : σ → α) :
    (Prog.readLocked keys busy f).ReadOnly :=
  ⟨fun _ _ eq => (Except.ok.inj eq).symm, fun _ => trivial⟩

theorem require (b : Bool) (e : ε) : (Prog.require b e : Prog σ κ ε Unit).ReadOnly := by
  cases b <;> trivial

theorem getOr (o : Option α) (e : ε) : (Prog.getOr o e : Prog σ κ ε α).ReadOnly := by
  cases o <;> trivial

theorem exec {p : Prog σ κ ε α} (reads : p.ReadOnly) {db db' : σ} {a : α}
    (ran : p.exec db = .ok (a, db')) : db' = db := by
  induction p generalizing db with
  | ret b =>
    cases ran
    rfl
  | fail e => cases ran
  | stmt s next ih =>
    rw [Prog.exec] at ran
    cases written : s.write db with
    | error e =>
      rw [written] at ran
      cases ran
    | ok change =>
      rw [written, reads.1 db change written] at ran
      exact ih _ (reads.2 _) ran

end ReadOnly

/-! ## How programs fail -/

def FailsBy (P : ε → Prop) : Prog σ κ ε α → Prop
  | ret _ => True
  | fail e => P e
  | stmt s next =>
    (∀ view e, s.write view = .error e → P e) ∧ ∀ view, (next view).FailsBy P

namespace FailsBy

variable {P : ε → Prop}

theorem bind {p : Prog σ κ ε α} {f : α → Prog σ κ ε β} (first : p.FailsBy P)
    (rest : ∀ a, (f a).FailsBy P) : (p.bind f).FailsBy P := by
  induction p with
  | ret a => exact rest a
  | fail e => exact first
  | stmt s next ih => exact ⟨first.1, fun view => ih view (first.2 view)⟩

theorem read (f : σ → α) : (Prog.read f : Prog σ κ ε α).FailsBy P :=
  ⟨nofun, fun _ => trivial⟩

theorem write (keys : σ → List κ) (change : σ → σ → σ) :
    (Prog.write keys change : Prog σ κ ε Unit).FailsBy P :=
  ⟨nofun, fun _ => trivial⟩

theorem writeChecked {keys : σ → List κ} {valid : σ → Bool} {e : ε} {change : σ → σ → σ}
    (own : P e) : (Prog.writeChecked keys valid e change).FailsBy P := by
  refine ⟨fun view e' failed => ?_, fun _ => trivial⟩
  dsimp only at failed
  split at failed
  · cases failed
  · exact Except.error.inj failed ▸ own

theorem require {b : Bool} {e : ε} (own : P e) : (Prog.require b e : Prog σ κ ε Unit).FailsBy P := by
  cases b with
  | true => trivial
  | false => exact own

theorem exec {p : Prog σ κ ε α} (fails : p.FailsBy P) {db : σ} {e : ε}
    (failed : p.exec db = .error e) : P e := by
  induction p generalizing db with
  | ret a => cases failed
  | fail e' => exact Except.error.inj failed ▸ fails
  | stmt s next ih =>
    rw [Prog.exec] at failed
    cases written : s.write db with
    | error e' =>
      rw [written] at failed
      exact Except.error.inj failed ▸ fails.1 db e' written
    | ok change =>
      rw [written] at failed
      exact ih _ (fails.2 _) failed

end FailsBy

/-! ## Programs that keep a property of their changes

A transaction carries its uncommitted changes as a function on stores.  `Keeps A`
says that no statement of the program breaks the property `A` of that function. -/

def Keeps (A : (σ → σ) → Prop) : Prog σ κ ε α → Prop
  | ret _ => True
  | fail _ => True
  | stmt s next =>
    (∀ patch view change, A patch → s.write view = .ok change → A (change ∘ patch)) ∧
      ∀ view, (next view).Keeps A

namespace Keeps

variable {A : (σ → σ) → Prop}

theorem bind {p : Prog σ κ ε α} {f : α → Prog σ κ ε β} (first : p.Keeps A)
    (rest : ∀ a, (f a).Keeps A) : (p.bind f).Keeps A := by
  induction p with
  | ret a => exact rest a
  | fail e => trivial
  | stmt s next ih => exact ⟨first.1, fun view => ih view (first.2 view)⟩

theorem read (f : σ → α) : (Prog.read f : Prog σ κ ε α).Keeps A :=
  ⟨fun _ _ _ kept eq => Except.ok.inj eq ▸ kept, fun _ => trivial⟩

theorem write {keys : σ → List κ} {change : σ → σ → σ}
    (kept : ∀ patch view, A patch → A (change view ∘ patch)) :
    (Prog.write keys change : Prog σ κ ε Unit).Keeps A :=
  ⟨fun patch view _ holds eq => Except.ok.inj eq ▸ kept patch view holds, fun _ => trivial⟩

theorem writeChecked {keys : σ → List κ} {valid : σ → Bool} {e : ε} {change : σ → σ → σ}
    (kept : ∀ patch view, A patch → A (change view ∘ patch)) :
    (Prog.writeChecked keys valid e change).Keeps A := by
  refine ⟨fun patch view _ holds eq => ?_, fun _ => trivial⟩
  dsimp only at eq
  split at eq
  · exact Except.ok.inj eq ▸ kept patch view holds
  · cases eq

theorem require (b : Bool) (e : ε) : (Prog.require b e : Prog σ κ ε Unit).Keeps A := by
  cases b <;> trivial

theorem getOr (o : Option α) (e : ε) : (Prog.getOr o e : Prog σ κ ε α).Keeps A := by
  cases o <;> trivial

theorem reads {p : Prog σ κ ε α} (only : p.ReadOnly) : p.Keeps A := by
  induction p with
  | ret a => trivial
  | fail e => trivial
  | stmt s next ih =>
    refine ⟨fun patch view change holds written => ?_, fun view => ih view (only.2 view)⟩
    rw [only.1 view change written]
    exact holds

theorem of_readOnly {p : Prog σ κ ε α} (only : p.ReadOnly) (patch : σ → σ) :
    p.Keeps (· = patch) :=
  reads only

theorem reading {f : σ → α} {next : α → Prog σ κ ε β} (rest : ∀ view, (next (f view)).Keeps A) :
    ((Prog.read f).bind next).Keeps A :=
  ⟨fun _ _ _ holds eq => Except.ok.inj eq ▸ holds, rest⟩

end Keeps

end Prog

end Txn
