import OpenWind.Lib.Prog

/-!
# Attempts

An `Attempt` is a program over a state that may fail.  What it did to the state stays
when it fails, unless it ran under a savepoint.

* `Carries R p`: the program leads from a state to one that `R` relates it to, whether it
  fails or not.  For a preorder `R` the rules follow the program.
-/

/-- A program over `σ` that may fail with `ε`. -/
def Attempt (σ ε α : Type) : Type := σ → Except ε α × σ

namespace Attempt

variable {σ ε ε' α β : Type}

def ret (a : α) : Attempt σ ε α := fun s => (.ok a, s)

def bind (p : Attempt σ ε α) (f : α → Attempt σ ε β) : Attempt σ ε β := fun s =>
  match p s with
  | (.ok a, mid) => f a mid
  | (.error e, mid) => (.error e, mid)

instance : Monad (Attempt σ ε) where
  pure := ret
  bind := bind

def throw (e : ε) : Attempt σ ε α := fun s => (.error e, s)

def get (f : σ → α) : Attempt σ ε α := fun s => (.ok (f s), s)

def modify (f : σ → σ) : Attempt σ ε Unit := fun s => (.ok (), f s)

/-- The value of an option, or the error `e`. -/
def getOr (o : Option α) (e : ε) : Attempt σ ε α :=
  match o with
  | some a => ret a
  | none => throw e

def savepoint (undo : σ → σ → σ) (p : Attempt σ ε α) : Attempt σ ε' (Except ε α) := fun s =>
  match p s with
  | (.ok a, after) => (.ok (.ok a), after)
  | (.error e, after) => (.ok (.error e), undo s after)

def transaction {κ : Type} (p : Txn.Prog σ κ ε α) : Attempt σ ε α := fun s =>
  match p.exec s with
  | .ok (a, t) => (.ok a, t)
  | .error e => (.error e, s)

def mapError (f : ε → ε') (p : Attempt σ ε α) : Attempt σ ε' α := fun s =>
  ((p s).1.mapError f, (p s).2)

/-- Run the program; its failure becomes a value, and what it did stays. -/
def caught (p : Attempt σ ε α) : Attempt σ ε' (Except ε α) := fun s => (.ok (p s).1, (p s).2)

def forEach (as : List β) (f : β → Attempt σ ε Unit) : Attempt σ ε Unit :=
  match as with
  | [] => ret ()
  | a :: rest => (f a).bind fun _ => forEach rest f

@[simp] theorem pure_eq (a : α) : (pure a : Attempt σ ε α) = ret a := rfl

@[simp] theorem bind_eq (p : Attempt σ ε α) (f : α → Attempt σ ε β) : (p >>= f) = p.bind f := rfl

theorem forEach_idle {as : List β} {f : β → Attempt σ ε Unit} {s : σ}
    (idle : ∀ a ∈ as, f a s = (.ok (), s)) : forEach as f s = (.ok (), s) := by
  induction as with
  | nil => rfl
  | cons a rest ih =>
    have first := idle a List.mem_cons_self
    unfold forEach bind
    rw [first]
    exact ih fun b mem => idle b (List.mem_cons_of_mem a mem)

/-! ## Relations along a program -/

/-- The program relates each state to the one it leaves. -/
def Carries (R : σ → σ → Prop) (p : Attempt σ ε α) : Prop := ∀ s, R s (p s).2

namespace Carries

variable {R : σ → σ → Prop}

theorem modify {f : σ → σ} (each : ∀ s, R s (f s)) :
    (Attempt.modify f : Attempt σ ε Unit).Carries R := each

theorem bind_at [IsTrans σ R] {p : Attempt σ ε α} {f : α → Attempt σ ε β} {s : σ}
    (first : R s (p s).2) (rest : ∀ a, R (p s).2 (f a (p s).2).2) : R s ((p.bind f) s).2 := by
  unfold Attempt.bind
  rcases eq : p s with ⟨e | a, mid⟩
  · rw [eq] at first
    exact first
  · have second := rest a
    rw [eq] at first second
    exact trans_of R first second

theorem bind [IsTrans σ R] {p : Attempt σ ε α} {f : α → Attempt σ ε β} (first : p.Carries R)
    (rest : ∀ a, (f a).Carries R) : (p.bind f).Carries R :=
  fun s => bind_at (first s) fun a => rest a _

theorem mapError {f : ε → ε'} {p : Attempt σ ε α} (inner : p.Carries R) :
    (Attempt.mapError f p).Carries R := inner

theorem savepoint_at {undo : σ → σ → σ} {p : Attempt σ ε α} {s : σ} (inner : R s (p s).2)
    (undone : ∀ t, R s t → R s (undo s t)) :
    R s ((Attempt.savepoint undo p : Attempt σ ε' (Except ε α)) s).2 := by
  unfold Attempt.savepoint
  rcases eq : p s with ⟨e | a, t⟩
  · rw [eq] at inner
    exact undone t inner
  · rw [eq] at inner
    exact inner

theorem savepoint {undo : σ → σ → σ} {p : Attempt σ ε α} (inner : p.Carries R)
    (undone : ∀ s t, R s t → R s (undo s t)) :
    (Attempt.savepoint undo p : Attempt σ ε' (Except ε α)).Carries R :=
  fun s => savepoint_at (inner s) (undone s)

variable [Std.Refl R]

theorem ret (a : α) : (Attempt.ret a : Attempt σ ε α).Carries R := fun s => refl_of R s

theorem throw (e : ε) : (Attempt.throw e : Attempt σ ε α).Carries R := fun s => refl_of R s

theorem get (f : σ → α) : (Attempt.get f : Attempt σ ε α).Carries R := fun s => refl_of R s

theorem getOr (o : Option α) (e : ε) : (Attempt.getOr o e : Attempt σ ε α).Carries R := by
  cases o with
  | none => exact throw e
  | some a => exact ret a

theorem transaction {κ : Type} {p : Txn.Prog σ κ ε α}
    (commits : ∀ {s t a}, p.exec s = .ok (a, t) → R s t) : (Attempt.transaction p).Carries R := by
  intro s
  unfold Attempt.transaction
  cases ran : p.exec s with
  | error e => exact refl_of R s
  | ok done => exact commits ran

theorem forEach [IsTrans σ R] {as : List β} {f : β → Attempt σ ε Unit}
    (each : ∀ a ∈ as, (f a).Carries R) : (Attempt.forEach as f).Carries R := by
  induction as with
  | nil => exact ret ()
  | cons a rest ih =>
    exact bind (each a List.mem_cons_self) fun _ =>
      ih fun b mem => each b (List.mem_cons_of_mem a mem)

end Carries

/-! ## Ends of a program -/

/-- What holds of the end of a program that starts in `s`. -/
def Ends (p : Attempt σ ε α) (s : σ) (Q : α → σ → Prop) (E : ε → σ → Prop) : Prop :=
  (∀ a, (p s).1 = .ok a → Q a (p s).2) ∧ ∀ e, (p s).1 = .error e → E e (p s).2

namespace Ends

variable {p : Attempt σ ε α} {s : σ} {Q Q' : α → σ → Prop} {E : ε → σ → Prop}

theorem ret {a : α} (holds : Q a s) : (Attempt.ret a).Ends s Q E := by
  constructor
  · intro b same
    cases same
    exact holds
  · intro e same
    cases same

theorem throw {e : ε} (holds : E e s) : (Attempt.throw e : Attempt σ ε α).Ends s Q E := by
  constructor
  · intro b same
    cases same
  · intro e' same
    cases same
    exact holds

theorem modify {f : σ → σ} {Q : Unit → σ → Prop} (holds : Q () (f s)) :
    (Attempt.modify f : Attempt σ ε Unit).Ends s Q E :=
  ⟨fun _ _ => holds, fun _ same => by cases same⟩

theorem bind {Q : β → σ → Prop} {f : α → Attempt σ ε β}
    (first : p.Ends s (fun a t => (f a).Ends t Q E) E) : (p.bind f).Ends s Q E := by
  unfold Ends Attempt.bind at *
  rcases eq : p s with ⟨e | a, t⟩
  · rw [eq] at first
    constructor
    · intro b same
      cases same
    · intro e' same
      cases same
      exact first.2 e rfl
  · rw [eq] at first
    exact first.1 a rfl

theorem mono {E' : ε → σ → Prop} (ends : p.Ends s Q E) (value : ∀ a t, Q a t → Q' a t)
    (failure : ∀ e t, E e t → E' e t) : p.Ends s Q' E' :=
  ⟨fun a same => value a _ (ends.1 a same), fun e same => failure e _ (ends.2 e same)⟩

end Ends

end Attempt
