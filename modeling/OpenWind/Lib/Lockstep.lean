import OpenWind.Lib.Table

/-!
# Programs in lockstep

Two transaction programs that run from related stores may fail both, or return both, with related
values and related stores.

* `Lockstep R Q p p'`: so they do, when `R` relates the stores and `Q` the values.
-/

namespace Txn

variable {σ κ ε σ' κ' ε' α α' β β' ρ : Type}

/-- Two runs failed both, or returned related values and stores. -/
inductive Paired (R : σ → σ' → Prop) (Q : α → α' → Prop) :
    Except ε (α × σ) → Except ε' (α' × σ') → Prop
  | failed {e : ε} {e' : ε'} : Paired R Q (.error e) (.error e')
  | returned {a : α} {a' : α'} {db : σ} {db' : σ'} (values : Q a a') (stores : R db db') :
    Paired R Q (.ok (a, db)) (.ok (a', db'))

theorem Paired.sharpen {R R' : σ → σ' → Prop} {Q Q' : α → α' → Prop} {outcome : Except ε (α × σ)}
    {outcome' : Except ε' (α' × σ')} (both : Paired R Q outcome outcome')
    (sharper : ∀ a a' s s', outcome = .ok (a, s) → outcome' = .ok (a', s') → Q a a' → R s s' →
      Q' a a' ∧ R' s s') : Paired R' Q' outcome outcome' := by
  cases both with
  | failed => exact .failed
  | returned values stores =>
    obtain ⟨values', stores'⟩ := sharper _ _ _ _ rfl rfl values stores
    exact .returned values' stores'

theorem Paired.bind {R : σ → σ' → Prop} {Q : α → α' → Prop} {R' : σ → σ' → Prop}
    {T : β → β' → Prop} {p : Prog σ κ ε α} {p' : Prog σ' κ' ε' α'} {f : α → Prog σ κ ε β}
    {f' : α' → Prog σ' κ' ε' β'} {db : σ} {db' : σ'} (first : Paired R Q (p.exec db) (p'.exec db'))
    (next : ∀ a a' s s', Q a a' → R s s' → Paired R' T ((f a).exec s) ((f' a').exec s')) :
    Paired R' T ((p.bind f).exec db) ((p'.bind f').exec db') := by
  rw [Prog.exec_bind, Prog.exec_bind]
  generalize p.exec db = outcome at first
  generalize p'.exec db' = outcome' at first
  cases first with
  | failed => exact .failed
  | returned values stores => exact next _ _ _ _ values stores

/-- What follows two runs that returned. -/
theorem Paired.after {R : σ → σ' → Prop} {T : β → β' → Prop} {p : Prog σ κ ε α}
    {p' : Prog σ' κ' ε' α'} {f : α → Prog σ κ ε β} {f' : α' → Prog σ' κ' ε' β'} {db mid : σ}
    {db' mid' : σ'} {a : α} {a' : α'} (ran : p.exec db = .ok (a, mid))
    (ran' : p'.exec db' = .ok (a', mid')) (next : Paired R T ((f a).exec mid) ((f' a').exec mid')) :
    Paired R T ((p.bind f).exec db) ((p'.bind f').exec db') := by
  rw [Prog.exec_bind, Prog.exec_bind, ran, ran']
  exact next

/-- From related stores the programs fail both, or return related values and stores. -/
def Lockstep (R : σ → σ' → Prop) (Q : α → α' → Prop) (p : Prog σ κ ε α) (p' : Prog σ' κ' ε' α') :
    Prop :=
  ∀ db db', R db db' → Paired R Q (p.exec db) (p'.exec db')

namespace Lockstep

variable {R : σ → σ' → Prop} {Q : α → α' → Prop} {T : β → β' → Prop}

theorem ret {a : α} {a' : α'} (values : Q a a') :
    Lockstep R Q (Prog.ret a : Prog σ κ ε α) (Prog.ret a' : Prog σ' κ' ε' α') :=
  fun _ _ stores => .returned values stores

theorem fail (e : ε) (e' : ε') :
    Lockstep R Q (Prog.fail e : Prog σ κ ε α) (Prog.fail e' : Prog σ' κ' ε' α') :=
  fun _ _ _ => .failed

theorem bind {p : Prog σ κ ε α} {p' : Prog σ' κ' ε' α'} {f : α → Prog σ κ ε β}
    {f' : α' → Prog σ' κ' ε' β'} (first : Lockstep R Q p p')
    (next : ∀ a a', Q a a' → Lockstep R T (f a) (f' a')) :
    Lockstep R T (p.bind f) (p'.bind f') := by
  intro db db' stores
  exact (first db db' stores).bind fun a a' s s' values stores => next a a' values s s' stores

theorem bind_eq {p : Prog σ κ ε α} {p' : Prog σ' κ' ε' α} {f : α → Prog σ κ ε β}
    {f' : α → Prog σ' κ' ε' β'} (first : Lockstep R Eq p p')
    (next : ∀ a, Lockstep R T (f a) (f' a)) : Lockstep R T (p.bind f) (p'.bind f') := by
  refine first.bind fun a a' same => ?_
  rw [← same]
  exact next a

theorem mono {Q' : α → α' → Prop} {p : Prog σ κ ε α} {p' : Prog σ' κ' ε' α'}
    (lockstep : Lockstep R Q p p') (weaker : ∀ a a', Q a a' → Q' a a') : Lockstep R Q' p p' := by
  intro db db' stores
  have both := lockstep db db' stores
  generalize p.exec db = outcome at both
  generalize p'.exec db' = outcome' at both
  cases both with
  | failed => exact .failed
  | returned values stores => exact .returned (weaker _ _ values) stores

theorem read {f : σ → α} {f' : σ' → α'} (values : ∀ db db', R db db' → Q (f db) (f' db')) :
    Lockstep R Q (Prog.read f : Prog σ κ ε α) (Prog.read f' : Prog σ' κ' ε' α') :=
  fun db db' stores => .returned (values db db' stores) stores

theorem readLocked {keys : σ → List κ} {keys' : σ' → List κ'} {busy : Option ε} {busy' : Option ε'}
    {f : σ → α} {f' : σ' → α'} (values : ∀ db db', R db db' → Q (f db) (f' db')) :
    Lockstep R Q (Prog.readLocked keys busy f) (Prog.readLocked keys' busy' f') :=
  fun db db' stores => .returned (values db db' stores) stores

theorem write {keys : σ → List κ} {keys' : σ' → List κ'} {change : σ → σ → σ}
    {change' : σ' → σ' → σ'} (changed : ∀ db db', R db db' → R (change db db) (change' db' db')) :
    Lockstep R Eq (Prog.write keys change : Prog σ κ ε Unit)
      (Prog.write keys' change' : Prog σ' κ' ε' Unit) :=
  fun db db' stores => .returned rfl (changed db db' stores)

theorem writeChecked {keys : σ → List κ} {keys' : σ' → List κ'} {valid : σ → Bool}
    {valid' : σ' → Bool} {e : ε} {e' : ε'} {change : σ → σ → σ} {change' : σ' → σ' → σ'}
    (agree : ∀ db db', R db db' → valid db = valid' db')
    (changed : ∀ db db', R db db' → R (change db db) (change' db' db')) :
    Lockstep R Eq (Prog.writeChecked keys valid e change)
      (Prog.writeChecked keys' valid' e' change') := by
  intro db db' stores
  rw [Prog.exec_writeChecked, Prog.exec_writeChecked, agree db db' stores]
  split
  · exact .returned rfl (changed db db' stores)
  · exact .failed

theorem require {b b' : Bool} {e : ε} {e' : ε'} (same : b = b') :
    Lockstep R Eq (Prog.require b e : Prog σ κ ε Unit) (Prog.require b' e' : Prog σ' κ' ε' Unit) := by
  rw [same]
  cases b' with
  | true => exact ret rfl
  | false => exact fail e e'

theorem getOr (o : Option α) (e : ε) (e' : ε') :
    Lockstep R Eq (Prog.getOr o e : Prog σ κ ε α) (Prog.getOr o e' : Prog σ' κ' ε' α) := by
  cases o with
  | none => exact fail e e'
  | some a => exact ret rfl

end Lockstep

/-! ## Tables -/

variable {R : σ → σ → Prop} [DecidableEq κ]

structure Shared (R : σ → σ → Prop) (T : Table σ κ ρ) : Prop where
  rows : ∀ db db', R db db' → T.rows db = T.rows db'
  put : ∀ db db' rs, R db db' → R (T.put db rs) (T.put db' rs)

namespace Shared

variable {T : Table σ κ ρ}

omit [DecidableEq κ] in
theorem find (shared : Shared R T) (p : ρ → Bool) :
    Lockstep R Eq (T.find p : Prog σ κ ε _) (T.find p : Prog σ κ ε _) := by
  refine Lockstep.read fun db db' stores => ?_
  rw [shared.rows db db' stores]

omit [DecidableEq κ] in
theorem filter (shared : Shared R T) (p : ρ → Bool) :
    Lockstep R Eq (T.filter p : Prog σ κ ε _) (T.filter p : Prog σ κ ε _) := by
  refine Lockstep.read fun db db' stores => ?_
  rw [shared.rows db db' stores]

omit [DecidableEq κ] in
theorem lockRow (shared : Shared R T) (busy : Option ε) (p : ρ → Bool) :
    Lockstep R Eq (T.lockRow busy p) (T.lockRow busy p) := by
  refine Lockstep.readLocked fun db db' stores => ?_
  rw [shared.rows db db' stores]

theorem update (shared : Shared R T) (p : ρ → Bool) (f : ρ → ρ) :
    Lockstep R Eq (T.update p f : Prog σ κ ε Unit) (T.update p f : Prog σ κ ε Unit) := by
  refine Lockstep.write fun db db' stores => ?_
  rw [T.modify_selected, T.modify_selected]
  unfold Table.modify
  rw [shared.rows db db' stores]
  exact shared.put db db' _ stores

theorem insert (shared : Shared R T) (e : ε) (rs : List ρ) :
    Lockstep R Eq (T.insert e rs) (T.insert e rs) := by
  refine Lockstep.writeChecked (fun db db' stores => ?_) fun db db' stores => ?_
  · unfold Table.fresh
    rw [shared.rows db db' stores]
  · unfold Table.append
    rw [shared.rows db db' stores]
    exact shared.put db db' _ stores

theorem delete (shared : Shared R T) (p : ρ → Bool) :
    Lockstep R Eq (T.delete p : Prog σ κ ε Unit) (T.delete p : Prog σ κ ε Unit) := by
  refine Lockstep.write fun db db' stores => ?_
  rw [T.remove_selected, T.remove_selected]
  unfold Table.remove
  rw [shared.rows db db' stores]
  exact shared.put db db' _ stores

theorem insertUnique (shared : Shared R T) (entries : List κ) (clash : ρ → Bool) (e : ε) (r : ρ) :
    Lockstep R Eq (T.insertUnique entries clash e r) (T.insertUnique entries clash e r) := by
  refine Lockstep.writeChecked (fun db db' stores => ?_) fun db db' stores => ?_
  · unfold Table.fresh
    rw [shared.rows db db' stores]
  · unfold Table.append
    rw [shared.rows db db' stores]
    exact shared.put db db' _ stores

end Shared

/-! ## Checks -/

inductive Excused (kind : ε → Prop) (Q : α → α' → Prop) : Except ε α → Except ε α' → Prop
  | left {e : ε} {result : Except ε α'} (thrown : kind e) : Excused kind Q (.error e) result
  | right {result : Except ε α} {e : ε} (thrown : kind e) : Excused kind Q result (.error e)
  | failed {e e' : ε} : Excused kind Q (.error e) (.error e')
  | returned {a : α} {a' : α'} (values : Q a a') : Excused kind Q (.ok a) (.ok a')

namespace Excused

variable {kind : ε → Prop} {Q : α → α' → Prop} {T : β → β' → Prop}

variable {result : Except ε α} {result' : Except ε α'} {f : α → Except ε β}

theorem bind {f' : α' → Except ε β'} (first : Excused kind Q result result')
    (next : ∀ a a', Q a a' → Excused kind T (f a) (f' a')) :
    Excused kind T (result >>= f) (result' >>= f') := by
  cases first with
  | left thrown => exact .left thrown
  | right thrown => exact .right thrown
  | failed => exact .failed
  | returned values => exact next _ _ values

/-- Checks that return the same value are followed by one check. -/
theorem bind_eq {result result' : Except ε α} {f' : α → Except ε β'}
    (first : Excused kind Eq result result') (next : ∀ a, Excused kind T (f a) (f' a)) :
    Excused kind T (result >>= f) (result' >>= f') := by
  apply first.bind
  intro a a' same
  rw [← same]
  exact next a

theorem of_eq {result result' : Except ε α} (same : result = result') :
    Excused kind Eq result result' := by
  rw [same]
  cases result' with
  | error e => exact .failed
  | ok a => exact .returned rfl

/-- None of the two threw such an error. -/
theorem unexcused (excused : Excused kind Q result result')
    (none : ∀ e, result = .error e → ¬ kind e) (none' : ∀ e, result' = .error e → ¬ kind e) :
    (∃ e e', result = .error e ∧ result' = .error e') ∨
      ∃ a a', result = .ok a ∧ result' = .ok a' ∧ Q a a' := by
  cases excused with
  | left thrown => exact absurd thrown (none _ rfl)
  | right thrown => exact absurd thrown (none' _ rfl)
  | failed => exact .inl ⟨_, _, rfl, rfl⟩
  | returned values => exact .inr ⟨_, _, rfl, rfl, values⟩

end Excused

end Txn
