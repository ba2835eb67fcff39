import OpenWind.Lib.Prog
import OpenWind.Lib.Runs

/-!
# Transactions under READ COMMITTED

A pool runs any number of transaction programs over one store.  Every statement
sees the store as committed at that moment, under the transaction's own changes;
it needs the row locks it takes to be free; a commit applies the transaction's
changes to the store and releases its locks.

* `Pool.next` is one step of the pool: begin, one statement, a refused lock
  (`NOWAIT`), the end of a transaction, or its abort at any moment;
  `Pool.next_cases` says what each step does.
-/

open List

namespace Txn

variable {σ κ ε α β Call : Type}

/-! ## The pool -/

structure Session (Call σ κ ε α : Type) where
  call : Call
  /-- The store as it was committed when the transaction began. -/
  start : σ
  /-- What remains to be run. -/
  prog : Prog σ κ ε α
  held : List κ
  /-- The transaction's own uncommitted changes. -/
  patch : σ → σ

/-- A finished transaction: the stores around its end and what it returned. -/
structure Finished (Call σ ε α : Type) where
  call : Call
  start : σ
  before : σ
  after : σ
  result : Except ε α

structure Pool (Call σ κ ε α : Type) where
  db : σ
  sessions : Nat → Option (Session Call σ κ ε α)
  owner : κ → Option Nat
  log : List (Finished Call σ ε α)

inductive Label (Call : Type)
  | begin (t : Nat) (call : Call)
  | step (t : Nat)
  | refuse (t : Nat)
  | finish (t : Nat)
  | abort (t : Nat)

namespace Pool

variable [DecidableEq κ]

def init (db : σ) : Pool Call σ κ ε α := ⟨db, fun _ => none, fun _ => none, []⟩

/-- No other transaction owns one of `keys`. -/
def free (pool : Pool Call σ κ ε α) (t : Nat) (keys : List κ) : Bool :=
  keys.all fun k => pool.owner k = none ∨ pool.owner k = some t

def put (pool : Pool Call σ κ ε α) (t : Nat) (s : Session Call σ κ ε α) : Pool Call σ κ ε α :=
  { pool with sessions := fun u => if u = t then some s else pool.sessions u }

/-- End transaction `t`: it leaves the pool and its locks are released. -/
def drop (pool : Pool Call σ κ ε α) (t : Nat) : Pool Call σ κ ε α :=
  { pool with
    sessions := fun u => if u = t then none else pool.sessions u
    owner := fun k => if pool.owner k = some t then none else pool.owner k }

def acquire (pool : Pool Call σ κ ε α) (t : Nat) (keys : List κ) : Pool Call σ κ ε α :=
  { pool with owner := fun k => if k ∈ keys then some t else pool.owner k }

/-- Run one statement of `s`, whose locks are free. -/
def statement (pool : Pool Call σ κ ε α) (t : Nat) (s : Session Call σ κ ε α)
    (st : Stmt σ κ ε) (next : σ → Prog σ κ ε α) : Pool Call σ κ ε α :=
  let view := s.patch pool.db
  match st.write view with
  | .error e => pool.put t { s with prog := .fail e }
  | .ok change =>
    (pool.acquire t (st.keys view)).put t
      { s with
        prog := next (change view)
        held := st.keys view ++ s.held
        patch := change ∘ s.patch }

def next (program : Call → Prog σ κ ε α) (pool : Pool Call σ κ ε α) :
    Label Call → Option (Pool Call σ κ ε α)
  | .begin t call =>
    match pool.sessions t with
    | some _ => none
    | none => some (pool.put t ⟨call, pool.db, program call, [], id⟩)
  | .step t =>
    match pool.sessions t with
    | some s =>
      match s.prog with
      | .stmt st next =>
        if pool.free t (st.keys (s.patch pool.db)) then some (pool.statement t s st next)
        else none
      | _ => none
    | none => none
  | .refuse t =>
    match pool.sessions t with
    | some s =>
      match s.prog with
      | .stmt ⟨keys, some e, _⟩ _ =>
        if pool.free t (keys (s.patch pool.db)) then none
        else some (pool.put t { s with prog := .fail e })
      | _ => none
    | none => none
  | .finish t =>
    match pool.sessions t with
    | some s =>
      match s.prog with
      | .ret a =>
        some { pool.drop t with
          db := s.patch pool.db
          log := pool.log ++ [⟨s.call, s.start, pool.db, s.patch pool.db, .ok a⟩] }
      | .fail e =>
        some { pool.drop t with
          log := pool.log ++ [⟨s.call, s.start, pool.db, pool.db, .error e⟩] }
      | _ => none
    | none => none
  | .abort t =>
    match pool.sessions t with
    | some _ => some (pool.drop t)
    | none => none

/-- A run of the pool from the store `db`. -/
def runFrom (program : Call → Prog σ κ ε α) (db : σ) (labels : List (Label Call)) :
    Option (Pool Call σ κ ε α) :=
  Runs.run (next program) (init db) labels

/-- What a step does, with what enables it. -/
inductive Stepped (program : Call → Prog σ κ ε α) (pool : Pool Call σ κ ε α) :
    Label Call → Pool Call σ κ ε α → Prop
  | begin {t : Nat} {call : Call} (idle : pool.sessions t = none) :
    Stepped program pool (.begin t call) (pool.put t ⟨call, pool.db, program call, [], id⟩)
  | statement {t : Nat} {s : Session Call σ κ ε α} {st : Stmt σ κ ε} {next : σ → Prog σ κ ε α}
    (running : pool.sessions t = some s) (code : s.prog = .stmt st next)
    (free : pool.free t (st.keys (s.patch pool.db)) = true) :
    Stepped program pool (.step t) (pool.statement t s st next)
  | refuse {t : Nat} {s : Session Call σ κ ε α} {keys : σ → List κ} {e : ε}
    {write : σ → Except ε (σ → σ)} {next : σ → Prog σ κ ε α}
    (running : pool.sessions t = some s) (code : s.prog = .stmt ⟨keys, some e, write⟩ next)
    (blocked : ¬ pool.free t (keys (s.patch pool.db)) = true) :
    Stepped program pool (.refuse t) (pool.put t { s with prog := .fail e })
  | commit {t : Nat} {s : Session Call σ κ ε α} {a : α} (running : pool.sessions t = some s)
    (code : s.prog = .ret a) :
    Stepped program pool (.finish t)
      { pool.drop t with
        db := s.patch pool.db
        log := pool.log ++ [⟨s.call, s.start, pool.db, s.patch pool.db, .ok a⟩] }
  | rollback {t : Nat} {s : Session Call σ κ ε α} {e : ε} (running : pool.sessions t = some s)
    (code : s.prog = .fail e) :
    Stepped program pool (.finish t)
      { pool.drop t with
        log := pool.log ++ [⟨s.call, s.start, pool.db, pool.db, .error e⟩] }
  | abort {t : Nat} {s : Session Call σ κ ε α} (running : pool.sessions t = some s) :
    Stepped program pool (.abort t) (pool.drop t)

theorem next_cases {program : Call → Prog σ κ ε α} {label : Label Call}
    {pool pool' : Pool Call σ κ ε α} (stepped : next program pool label = some pool') :
    Stepped program pool label pool' := by
  revert stepped
  fun_cases next program pool label <;> intro stepped <;> cases stepped
  · next idle => exact .begin idle
  · next running _ _ code free => exact .statement running code free
  · next running _ _ _ _ code blocked => exact .refuse running code blocked
  · next running _ code => exact .commit running code
  · next running _ code => exact .rollback running code
  · next running => exact .abort running

end Pool

/-! ## What other transactions may do -/

structure Rely (σ κ : Type) where
  rel : List κ → σ → σ → Prop
  refl : ∀ held db, rel held db db
  trans : ∀ {held a b c}, rel held a b → rel held b c → rel held a c
  /-- More locks allow the others less. -/
  anti : ∀ {held more a b}, held ⊆ more → rel more a b → rel held a b

/-- What the others may do whatever is locked. -/
def Rely.steady (rel : σ → σ → Prop) (refl : ∀ db, rel db db)
    (trans : ∀ {a b c}, rel a b → rel b c → rel a c) : Rely σ κ where
  rel _ := rel
  refl _ := refl
  trans := trans
  anti _ same := same

/-- What the others may do is within both. -/
def Rely.both (R S : Rely σ κ) : Rely σ κ where
  rel held a b := R.rel held a b ∧ S.rel held a b
  refl held db := ⟨R.refl held db, S.refl held db⟩
  trans first second := ⟨R.trans first.1 second.1, S.trans first.2 second.2⟩
  anti more same := ⟨R.anti more same.1, S.anti more same.2⟩

def Rely.Respects (R : Rely σ κ) (held : List κ) (db db' : σ) : Prop :=
  ∀ others : List κ, (∀ k ∈ others, k ∉ held) → R.rel others db db'

variable {R : Rely σ κ} {I : σ → Prop}

def Safe (R : Rely σ κ) (I : σ → Prop) (F : ε → Prop)
    (Q : α → List κ → (σ → σ) → σ → Prop) :
    Prog σ κ ε α → List κ → (σ → σ) → σ → Prop
  | .ret a, held, patch, db => ∀ db', R.rel held db db' → I db' → Q a held patch db'
  | .fail e, held, _, db => ∀ db', R.rel held db db' → I db' → F e
  | .stmt st next, held, patch, db =>
    ∀ db', R.rel held db db' → I db' →
      (∀ e, st.busy = some e → F e) ∧
      match st.write (patch db') with
      | .error e => F e
      | .ok change =>
        Safe R I F Q (next (change (patch db'))) (st.keys (patch db') ++ held) (change ∘ patch) db'

namespace Safe

variable {F F' : ε → Prop} {Q Q' : α → List κ → (σ → σ) → σ → Prop} {held : List κ}
  {patch : σ → σ} {db db' : σ}

variable {p : Prog σ κ ε α} {A : (σ → σ) → Prop}

theorem iff_later :
    Safe R I F Q p held patch db ↔
      ∀ db', R.rel held db db' → I db' → Safe R I F Q p held patch db' := by
  constructor
  · intro safe later onward _
    cases p <;> exact fun last beyond => safe last (R.trans onward beyond)
  · intro safe
    cases p <;> exact fun later onward inv => safe later onward inv later (R.refl _ _) inv

theorem rely (moved : R.rel held db db') (safe : Safe R I F Q p held patch db) :
    Safe R I F Q p held patch db' :=
  iff_later.mpr fun later onward inv => iff_later.mp safe later (R.trans moved onward) inv

theorem mono (errors : ∀ e, F e → F' e)
    (returns : ∀ a held patch db, I db → Q a held patch db → Q' a held patch db)
    (safe : Safe R I F Q p held patch db) : Safe R I F' Q' p held patch db := by
  induction p generalizing held patch db with
  | ret a => exact fun later onward inv => returns a held patch later inv (safe later onward inv)
  | fail e => exact fun later onward inv => errors e (safe later onward inv)
  | stmt st next ih =>
    intro later onward inv
    obtain ⟨refused, ran⟩ := safe later onward inv
    refine ⟨fun e busy => errors e (refused e busy), ?_⟩
    cases written : st.write (patch later) with
    | error e => rw [written] at ran; exact errors e ran
    | ok change => rw [written] at ran; exact ih _ ran

theorem since (safe : Safe R I F Q p held patch db) :
    Safe R I F (fun a more patch later => held ⊆ more ∧ R.rel held db later ∧ Q a more patch later)
      p held patch db := by
  suffices onward : ∀ {first : List κ} {start : σ}, first ⊆ held → R.rel first start db →
      Safe R I F (fun a more patch later => first ⊆ more ∧ R.rel first start later ∧
        Q a more patch later) p held patch db from onward (fun _ mem => mem) (R.refl _ _)
  intro first start sub before
  induction p generalizing held patch db with
  | ret a =>
    exact fun later moved inv =>
      ⟨sub, R.trans before (R.anti sub moved), safe later moved inv⟩
  | fail e => exact safe
  | stmt st next ih =>
    intro later moved inv
    obtain ⟨refused, ran⟩ := safe later moved inv
    refine ⟨refused, ?_⟩
    cases written : st.write (patch later) with
    | error e =>
      rw [written] at ran
      exact ran
    | ok change =>
      rw [written] at ran
      exact ih _ ran (fun _ mem => mem_append_right _ (sub mem)) (R.trans before (R.anti sub moved))

theorem bind {p : Prog σ κ ε α} {f : α → Prog σ κ ε β} {Q : β → List κ → (σ → σ) → σ → Prop}
    (safe : Safe R I F (fun a held patch db => Safe R I F Q (f a) held patch db) p held patch db) :
    Safe R I F Q (p.bind f) held patch db := by
  induction p generalizing held patch db with
  | ret a => exact iff_later.mpr safe
  | fail e => exact safe
  | stmt st next ih =>
    intro later onward inv
    obtain ⟨refused, ran⟩ := safe later onward inv
    refine ⟨refused, ?_⟩
    cases written : st.write (patch later) with
    | error e => rw [written] at ran; exact ran
    | ok change => rw [written] at ran; exact ih _ ran

/-! ### One rule for each kind of statement

Each rule runs the statement at a store the others may have left, and continues
there. -/

variable {next : α → Prog σ κ ε β} {unitNext : Unit → Prog σ κ ε β}
  {Q : β → List κ → (σ → σ) → σ → Prop} {f : σ → α} {keys : σ → List κ}
  {change : σ → σ → σ} {e : ε}

theorem ret {b : β} (returns : ∀ later, R.rel held db later → I later → Q b held patch later) :
    Safe R I F Q (.ret b) held patch db := returns

theorem ends {p : Prog σ κ ε β} (safe : Safe R I F Q (p.bind .ret) held patch db) :
    Safe R I F Q p held patch db := by
  rwa [Prog.bind_ret] at safe

theorem fail (failed : F e) : Safe R I F Q (.fail e : Prog σ κ ε β) held patch db :=
  fun _ _ _ => failed

theorem read (onward : ∀ later, R.rel held db later → I later →
      Safe R I F Q (next (f (patch later))) held patch later) :
    Safe R I F Q ((Prog.read f).bind next) held patch db :=
  fun later moved inv => ⟨nofun, onward later moved inv⟩

theorem readLocked {busy : Option ε} (refused : ∀ e, busy = some e → F e)
    (onward : ∀ later, R.rel held db later → I later →
      Safe R I F Q (next (f (patch later))) (keys (patch later) ++ held) patch later) :
    Safe R I F Q ((Prog.readLocked keys busy f).bind next) held patch db :=
  fun later moved inv => ⟨refused, onward later moved inv⟩

theorem write (onward : ∀ later, R.rel held db later → I later →
      Safe R I F Q (unitNext ()) (keys (patch later) ++ held)
        (change (patch later) ∘ patch) later) :
    Safe R I F Q ((Prog.write keys change).bind unitNext) held patch db :=
  fun later moved inv => ⟨nofun, onward later moved inv⟩

theorem writeChecked {valid : σ → Bool} (violated : F e)
    (onward : ∀ later, R.rel held db later → I later → valid (patch later) →
      Safe R I F Q (unitNext ()) (keys (patch later) ++ held)
        (change (patch later) ∘ patch) later) :
    Safe R I F Q ((Prog.writeChecked keys valid e change).bind unitNext) held patch db := by
  intro later moved inv
  refine ⟨nofun, ?_⟩
  by_cases ok : valid (patch later) = true
  · simpa [ok, Prog.bind] using onward later moved inv ok
  · simpa [ok] using violated

theorem require {b : Bool} (violated : b = false → F e)
    (onward : b → Safe R I F Q (unitNext ()) held patch db) :
    Safe R I F Q ((Prog.require b e).bind unitNext) held patch db := by
  cases b with
  | false => exact fail (violated rfl)
  | true => exact onward rfl

theorem getOr {o : Option α} (missing : o = none → F e)
    (onward : ∀ a, o = some a → Safe R I F Q (next a) held patch db) :
    Safe R I F Q ((Prog.getOr o e).bind next) held patch db := by
  cases o with
  | none => exact fail (missing rfl)
  | some a => exact onward a rfl

theorem quiet {p : Prog σ κ ε β} (errors : ∀ e, F e) (keeps : p.Keeps A) (kept : A patch)
    (ends : ∀ b more patch later, held ⊆ more → A patch → R.rel held db later → I later →
      Q b more patch later) : Safe R I F Q p held patch db := by
  induction p generalizing held patch db with
  | ret b => exact fun later moved inv => ends b held patch later (fun _ mem => mem) kept moved inv
  | fail e => exact fail (errors e)
  | stmt st next ih =>
    intro later moved inv
    refine ⟨fun e _ => errors e, ?_⟩
    cases written : st.write (patch later) with
    | error e => exact errors e
    | ok change =>
      refine ih _ (keeps.2 _) (keeps.1 patch _ change kept written) ?_
      intro b more patch last grown kept beyond
      exact ends b more patch last (fun _ mem => grown (mem_append_right _ mem)) kept
        (R.trans moved (R.anti (fun _ mem => mem_append_right _ mem) beyond))

theorem keeping (errors : ∀ e, F e) (keeps : p.Keeps A) (kept : A patch)
    (onward : ∀ a more patch later, A patch → R.rel held db later → I later →
      Safe R I F Q (next a) more patch later) : Safe R I F Q (p.bind next) held patch db :=
  bind (quiet errors keeps kept fun a more patch later _ => onward a more patch later)

theorem readOnly (errors : ∀ e, F e) (only : p.ReadOnly)
    (onward : ∀ a more later, R.rel held db later → I later →
      Safe R I F Q (next a) more patch later) : Safe R I F Q (p.bind next) held patch db := by
  refine keeping errors (.of_readOnly only patch) rfl ?_
  intro a more patch' later same moved inv
  rw [same]
  exact onward a more later moved inv

end Safe

/-! ## Soundness -/

structure Contract (Call σ ε α : Type) where
  failed : Call → σ → ε → Prop
  returned : Call → σ → σ → σ → α → Prop

def Contract.Met (C : Contract Call σ ε α) (R : Rely σ κ) (f : Finished Call σ ε α) : Prop :=
  R.rel [] f.start f.before ∧
    match f.result with
    | .error e => C.failed f.call f.start e ∧ f.after = f.before
    | .ok a => C.returned f.call f.start f.before f.after a

def Contract.Commits (C : Contract Call σ ε α) (R : Rely σ κ) (I : σ → Prop)
    (call : Call) (start : σ) (a : α) (held : List κ) (patch : σ → σ) (db : σ) : Prop :=
  I (patch db) ∧ R.Respects held db (patch db) ∧ C.returned call start db (patch db) a

def Linked : σ → List (Finished Call σ ε α) → σ → Prop
  | db, [], db' => db' = db
  | db, f :: rest, db' => f.before = db ∧ Linked f.after rest db'

variable {db db' : σ} {log : List (Finished Call σ ε α)} {rel : σ → σ → Prop}

theorem Linked.snoc {db mid : σ} {f : Finished Call σ ε α} (linked : Linked db log mid)
    (next : f.before = mid) : Linked db (log ++ [f]) f.after := by
  induction log generalizing db with
  | nil => exact ⟨next.trans linked, rfl⟩
  | cons g rest ih => exact ⟨linked.1, ih linked.2⟩

section

variable (refl : ∀ db, rel db db) (trans : ∀ {a b c}, rel a b → rel b c → rel a c)
  (linked : Linked db log db') (each : ∀ f ∈ log, rel f.before f.after)

include refl trans linked each

theorem Linked.mono : rel db db' := by
  induction log generalizing db with
  | nil => cases linked; exact refl _
  | cons f rest ih =>
    obtain ⟨rfl, linked⟩ := linked
    exact trans (each f (by simp)) (ih linked fun g mem => each g (by simp [mem]))

theorem Linked.around {g : Finished Call σ ε α} (mem : g ∈ log) :
    rel db g.before ∧ rel g.after db' := by
  induction log generalizing db with
  | nil => cases mem
  | cons f rest ih =>
    obtain ⟨rfl, linked⟩ := linked
    have later : ∀ f ∈ rest, rel f.before f.after := fun f mem => each f (by simp [mem])
    rcases mem_cons.mp mem with rfl | mem
    · exact ⟨refl _, linked.mono refl trans later⟩
    · obtain ⟨before, after⟩ := ih linked later mem
      exact ⟨trans (each f (by simp)) before, after⟩

end

namespace Pool

variable [DecidableEq κ]

/-- The invariant of a pool whose programs are safe. -/
structure Sound (C : Contract Call σ ε α) (R : Rely σ κ) (I : σ → Prop) (init : σ)
    (pool : Pool Call σ κ ε α) : Prop where
  inv : I pool.db
  owns : ∀ t s, pool.sessions t = some s → ∀ k ∈ s.held, pool.owner k = some t
  safe : ∀ t s, pool.sessions t = some s →
    Safe R I (C.failed s.call s.start) (C.Commits R I s.call s.start) s.prog s.held s.patch pool.db
  since : ∀ t s, pool.sessions t = some s → R.rel [] s.start pool.db
  met : ∀ f ∈ pool.log, C.Met R f
  linked : Linked init pool.log pool.db

variable {C : Contract Call σ ε α} {init : σ} {pool : Pool Call σ κ ε α} {t : Nat}
  {s : Session Call σ κ ε α}

omit [DecidableEq κ] in
theorem Sound.initial (inv : I init) :
    Sound C R I init (Pool.init init : Pool Call σ κ ε α) where
  inv := inv
  owns := nofun
  safe := nofun
  since := nofun
  met := nofun
  linked := rfl

omit [DecidableEq κ] in
theorem Sound.put {call : Call} {start : σ} {prog : Prog σ κ ε α} {held : List κ} {patch : σ → σ}
    (sound : Sound C R I init pool) (owns : ∀ k ∈ held, pool.owner k = some t)
    (safe : Safe R I (C.failed call start) (C.Commits R I call start) prog held patch pool.db)
    (since : R.rel [] start pool.db) :
    Sound C R I init (pool.put t ⟨call, start, prog, held, patch⟩) := by
  refine ⟨sound.inv, fun u r => ?_, fun u r => ?_, fun u r => ?_, sound.met, sound.linked⟩
  · by_cases eq : u = t
    · subst eq
      simp only [Pool.put, if_true, Option.some.injEq]
      rintro rfl
      exact owns
    · simpa [Pool.put, eq] using sound.owns u r
  · by_cases eq : u = t
    · subst eq
      simp only [Pool.put, if_true, Option.some.injEq]
      rintro rfl
      exact safe
    · simpa [Pool.put, eq] using sound.safe u r
  · by_cases eq : u = t
    · subst eq
      simp only [Pool.put, if_true, Option.some.injEq]
      rintro rfl
      exact since
    · simpa [Pool.put, eq] using sound.since u r

theorem Sound.acquire {keys : List κ} (sound : Sound C R I init pool)
    (free : pool.free t keys) : Sound C R I init (pool.acquire t keys) := by
  refine ⟨sound.inv, fun u r running k mem => ?_, sound.safe, sound.since, sound.met, sound.linked⟩
  have owned : pool.owner k = some u := sound.owns u r running k mem
  by_cases taken : k ∈ keys
  · have mine : pool.owner k = none ∨ pool.owner k = some t := by
      simpa using List.all_eq_true.mp free k taken
    rw [owned] at mine
    simpa [Pool.acquire, taken, eq_comm] using mine
  · simpa [Pool.acquire, taken] using owned

omit [DecidableEq κ] in
theorem Sound.drop (sound : Sound C R I init pool) : Sound C R I init (pool.drop t) := by
  have others : ∀ u r, (pool.drop t).sessions u = some r → u ≠ t ∧ pool.sessions u = some r := by
    intro u r running
    by_cases eq : u = t
    · simp [Pool.drop, eq] at running
    · exact ⟨eq, by simpa [Pool.drop, eq] using running⟩
  refine ⟨sound.inv, fun u r running k mem => ?_, fun u r running => ?_, fun u r running => ?_,
    sound.met, sound.linked⟩
  · obtain ⟨ne, was⟩ := others u r running
    have owned := sound.owns u r was k mem
    simp [Pool.drop, owned, ne]
  · exact sound.safe u r (others u r running).2
  · exact sound.since u r (others u r running).2

theorem Sound.statement {st : Stmt σ κ ε} {next : σ → Prog σ κ ε α}
    (sound : Sound C R I init pool) (running : pool.sessions t = some s)
    (code : s.prog = .stmt st next) (free : pool.free t (st.keys (s.patch pool.db))) :
    Sound C R I init (pool.statement t s st next) := by
  have safe := sound.safe t s running
  rw [code] at safe
  obtain ⟨-, ran⟩ := safe pool.db (R.refl _ _) sound.inv
  cases written : st.write (s.patch pool.db) with
  | error e =>
    rw [written] at ran
    simp only [Pool.statement, written]
    exact sound.put (sound.owns t s running) (Safe.fail ran) (sound.since t s running)
  | ok change =>
    rw [written] at ran
    simp only [Pool.statement, written]
    refine (sound.acquire free).put (fun k mem => ?_) ran (sound.since t s running)
    by_cases taken : k ∈ st.keys (s.patch pool.db)
    · simp [Pool.acquire, taken]
    · have mem : k ∈ s.held := (mem_append.mp mem).resolve_left taken
      simpa [Pool.acquire, taken] using sound.owns t s running k mem

omit [DecidableEq κ] in
theorem Sound.commit {a : α} (sound : Sound C R I init pool)
    (running : pool.sessions t = some s) (code : s.prog = .ret a) :
    Sound C R I init
      { pool.drop t with
        db := s.patch pool.db
        log := pool.log ++ [⟨s.call, s.start, pool.db, s.patch pool.db, .ok a⟩] } := by
  have safe := sound.safe t s running
  rw [code] at safe
  obtain ⟨inv, respects, returned⟩ := safe pool.db (R.refl _ _) sound.inv
  have dropped : Sound C R I init (pool.drop t) := sound.drop
  refine ⟨inv, dropped.owns, fun u r was => ?_, fun u r was => ?_, fun f mem => ?_,
    sound.linked.snoc rfl⟩
  · refine (dropped.safe u r was).rely (respects r.held fun k mem mine => ?_)
    have gone : (pool.drop t).owner k = some u := dropped.owns u r was k mem
    simp [Pool.drop, sound.owns t s running k mine] at gone
  · exact R.trans (dropped.since u r was) (respects [] nofun)
  · rcases mem_append.mp mem with old | new
    · exact sound.met f old
    · cases mem_singleton.mp new
      exact ⟨sound.since t s running, returned⟩

omit [DecidableEq κ] in
theorem Sound.rollback {e : ε} (sound : Sound C R I init pool)
    (running : pool.sessions t = some s) (code : s.prog = .fail e) :
    Sound C R I init
      { pool.drop t with
        log := pool.log ++ [⟨s.call, s.start, pool.db, pool.db, .error e⟩] } := by
  have safe := sound.safe t s running
  rw [code] at safe
  have failed := safe pool.db (R.refl _ _) sound.inv
  have dropped : Sound C R I init (pool.drop t) := sound.drop
  refine ⟨sound.inv, dropped.owns, dropped.safe, dropped.since, fun f mem => ?_,
    sound.linked.snoc rfl⟩
  rcases mem_append.mp mem with old | new
  · exact sound.met f old
  · cases mem_singleton.mp new
    exact ⟨sound.since t s running, failed, rfl⟩

theorem Sound.next {program : Call → Prog σ κ ε α}
    (safe : ∀ call db, I db →
      Safe R I (C.failed call db) (C.Commits R I call db) (program call) [] id db)
    {label : Label Call} {pool' : Pool Call σ κ ε α} (sound : Sound C R I init pool)
    (stepped : Pool.next program pool label = some pool') : Sound C R I init pool' := by
  cases next_cases stepped with
  | begin => exact sound.put nofun (safe _ pool.db sound.inv) (R.refl _ _)
  | statement running code free => exact sound.statement running code free
  | @refuse t s keys e _ _ running code =>
    have safe := sound.safe t s running
    rw [code] at safe
    obtain ⟨refused, -⟩ := safe pool.db (R.refl _ _) sound.inv
    exact sound.put (sound.owns t s running) (.fail (refused e rfl)) (sound.since t s running)
  | commit running code => exact sound.commit running code
  | rollback running code => exact sound.rollback running code
  | abort => exact sound.drop

theorem sound {program : Call → Prog σ κ ε α}
    (safe : ∀ call db, I db →
      Safe R I (C.failed call db) (C.Commits R I call db) (program call) [] id db)
    (inv : I init) {labels : List (Label Call)} (ran : runFrom program init labels = some pool) :
    Sound C R I init pool :=
  Runs.run_invariant (P := Sound C R I init) (fun sound stepped => sound.next safe stepped)
    (.initial inv) ran

/-! ### What holds of the store throughout -/

def CommitsUnder (G : Call → α → σ → Prop) (pool : Pool Call σ κ ε α) : Label Call → Prop
  | .finish t => ∀ s a, pool.sessions t = some s → s.prog = .ret a → G s.call a pool.db
  | _ => True

variable {program : Call → Prog σ κ ε α} {label : Label Call} {pool' : Pool Call σ κ ε α}
  {G : Call → α → σ → Prop} {P : σ → Prop} {labels : List (Label Call)}

theorem next_committed (stepped : Pool.next program pool label = some pool') :
    pool'.db = pool.db ∨ ∃ t s a, label = .finish t ∧ pool.sessions t = some s ∧
      s.prog = .ret a ∧ pool'.db = s.patch pool.db := by
  cases next_cases stepped with
  | begin | refuse | rollback | abort => exact .inl rfl
  | statement =>
    refine .inl ?_
    unfold Pool.statement
    dsimp only
    split
    · rfl
    · rfl
  | @commit t s a running code => exact .inr ⟨t, s, a, rfl, running, code, rfl⟩

section

variable
  (safe : ∀ call db, I db →
    Safe R I (C.failed call db) (C.Commits R I call db) (program call) [] id db)
  (kept : ∀ {call start before after a}, G call a before → P before →
    C.returned call start before after a → P after)
  (inv : I init) (holds : P init)
  (guarded : Runs.Guarded (next program) (CommitsUnder G) (Pool.init init) labels)

include safe kept inv holds guarded

theorem always_inv :
    Runs.Always (next program) (fun pool => I pool.db ∧ P pool.db) (Pool.init init) labels := by
  refine guarded.always (I := fun pool => Sound C R I init pool ∧ P pool.db) ?_
    (fun both => ⟨both.1.inv, both.2⟩) ⟨.initial inv, holds⟩
  intro pool label pool' both under stepped
  refine ⟨both.1.next safe stepped, ?_⟩
  rcases next_committed stepped with same | ⟨t, s, a, rfl, running, code, committed⟩
  · rw [same]
    exact both.2
  · have owed := both.1.safe t s running
    rw [code] at owed
    obtain ⟨-, -, returned⟩ := owed pool.db (R.refl _ _) both.1.inv
    rw [committed]
    exact kept (under s a running code) both.2 returned

theorem always : Runs.Always (next program) (fun pool => P pool.db) (Pool.init init) labels :=
  (always_inv safe kept inv holds guarded).mono And.right

end

def commitsCheck (g : Call → α → σ → Bool) (pool : Pool Call σ κ ε α) : Label Call → Bool
  | .finish t =>
    match pool.sessions t with
    | some ⟨call, _, .ret a, _, _⟩ => g call a pool.db
    | _ => true
  | _ => true

omit [DecidableEq κ] in
theorem commitsCheck_sound {g : Call → α → σ → Bool}
    (implies : ∀ {call a db}, g call a db → G call a db)
    (checked : commitsCheck g pool label) : CommitsUnder G pool label := by
  cases label with
  | finish t =>
    intro s a running code
    obtain ⟨call, start, prog, held, patch⟩ := s
    cases code
    rw [commitsCheck, running] at checked
    exact implies checked
  | begin | step | refuse | abort => trivial

theorem Sound.onward (safe : ∀ call db, I db →
      Safe R I (C.failed call db) (C.Commits R I call db) (program call) [] id db)
    (sound : Sound C R I init pool) (ran : Runs.run (Pool.next program) pool labels = some pool') :
    R.rel [] pool.db pool'.db := by
  induction labels generalizing pool with
  | nil =>
    cases ran
    exact R.refl _ _
  | cons label rest ih =>
    obtain ⟨mid, stepped, later⟩ := Runs.run_cons.mp ran
    have after := ih (sound.next safe stepped) later
    rcases next_committed stepped with same | ⟨t, s, a, rfl, running, code, committed⟩
    · rwa [same] at after
    · have owed := sound.safe t s running
      rw [code] at owed
      obtain ⟨-, respects, -⟩ := owed pool.db (R.refl _ _) sound.inv
      rw [committed] at after
      exact R.trans (respects [] nofun) after

end Pool

/-! ## Serial runs -/

def Finished.Alone (program : Call → Prog σ κ ε α) (f : Finished Call σ ε α) : Prop :=
  match f.result with
  | .ok a => (program f.call).exec f.before = .ok (a, f.after)
  | .error e => (program f.call).exec f.before = .error e ∧ f.after = f.before

namespace Label

/-- A transaction may run a statement when no other one, `active`, is under way. -/
def mayFollow (active : Option Nat) : Label Call → Bool
  | step t => active == none || active == some t
  | refuse t => active == none || active == some t
  | _ => true

/-- The transaction that has run a statement and has not ended. -/
def underWay (active : Option Nat) : Label Call → Option Nat
  | step t => some t
  | refuse t => some t
  | finish t => if active = some t then none else active
  | abort t => if active = some t then none else active
  | begin _ _ => active

end Label

def serial : Option Nat → List (Label Call) → Bool
  | _, [] => true
  | active, label :: rest => label.mayFollow active && serial (label.underWay active) rest

namespace Pool

variable [DecidableEq κ] {program : Call → Prog σ κ ε α} {init : σ} {active : Option Nat}
  {pool pool' : Pool Call σ κ ε α} {t : Nat} {s : Session Call σ κ ε α}

structure Undisturbed (program : Call → Prog σ κ ε α) (active : Option Nat) (db : σ) (t : Nat)
    (s : Session Call σ κ ε α) : Prop where
  onward : s.prog.exec (s.patch db) = (program s.call).exec db
  waiting : active ≠ some t → s.prog = program s.call ∧ s.patch = id

/-- The invariant of serial runs. -/
structure Serial (program : Call → Prog σ κ ε α) (init : σ) (active : Option Nat)
    (pool : Pool Call σ κ ε α) : Prop where
  sessions : ∀ t s, pool.sessions t = some s → Undisturbed program active pool.db t s
  owners : ∀ k t, pool.owner k = some t → active = some t
  alone : ∀ f ∈ pool.log, f.Alone program
  linked : Linked init pool.log pool.db

omit [DecidableEq κ] in
theorem Serial.initial : Serial program init none (Pool.init init : Pool Call σ κ ε α) :=
  ⟨nofun, nofun, nofun, rfl⟩

omit [DecidableEq κ] in
theorem Undisturbed.wait {db db' : σ} {active' : Option Nat}
    (undisturbed : Undisturbed program active db t s) (waits : active ≠ some t) :
    Undisturbed program active' db' t s := by
  obtain ⟨code, patch⟩ := undisturbed.waiting waits
  exact ⟨by rw [code, patch, id], fun _ => ⟨code, patch⟩⟩

theorem Serial.statement {st : Stmt σ κ ε} {next : σ → Prog σ κ ε α}
    (inv : Serial program init active pool) (running : pool.sessions t = some s)
    (code : s.prog = .stmt st next) (turn : active = none ∨ active = some t) :
    Serial program init (some t) (pool.statement t s st next) := by
  have onward := (inv.sessions t s running).onward
  rw [code, Prog.exec] at onward
  have others : ∀ u r, u ≠ t → pool.sessions u = some r →
      Undisturbed program (some t) pool.db u r := by
    intro u r other was
    refine (inv.sessions u r was).wait fun same => ?_
    rcases turn with none_ | own
    · rw [none_] at same
      cases same
    · exact other (Option.some.inj (same.symm.trans own))
  have owned : ∀ k u, pool.owner k = some u → some t = some u := by
    intro k u owner
    have same := inv.owners k u owner
    rcases turn with none_ | own
    · rw [none_] at same
      cases same
    · exact own.symm.trans same
  have sessions (pool' : Pool Call σ κ ε α) (r : Session Call σ κ ε α)
      (same : pool'.sessions = pool.sessions)
      (own : r.prog.exec (r.patch pool.db) = (program r.call).exec pool.db) :
      ∀ u q, (pool'.put t r).sessions u = some q → Undisturbed program (some t) pool.db u q := by
    intro u q now
    by_cases eq : u = t
    · subst eq
      simp only [Pool.put, if_true, Option.some.injEq] at now
      subst now
      exact ⟨own, fun waits => absurd rfl waits⟩
    · simp only [Pool.put, eq, if_false, same] at now
      exact others u q eq now
  cases written : st.write (s.patch pool.db) with
  | error e =>
    rw [written] at onward
    simp only [Pool.statement, written]
    exact ⟨sessions pool { s with prog := .fail e } rfl onward, owned, inv.alone, inv.linked⟩
  | ok change =>
    rw [written] at onward
    simp only [Pool.statement, written]
    refine ⟨sessions (pool.acquire t (st.keys (s.patch pool.db)))
      { s with
        prog := next (change (s.patch pool.db))
        held := st.keys (s.patch pool.db) ++ s.held
        patch := change ∘ s.patch } rfl onward, fun k u owner => ?_, inv.alone, inv.linked⟩
    by_cases taken : k ∈ st.keys (s.patch pool.db)
    · simpa [Pool.acquire, Pool.put, taken] using owner
    · exact owned k u (by simpa [Pool.acquire, Pool.put, taken] using owner)

omit [DecidableEq κ] in
/-- The end of a transaction. -/
theorem Serial.ended (inv : Serial program init active pool) (db : σ)
    (log : List (Finished Call σ ε α)) (stays : active ≠ some t → db = pool.db)
    (alone : ∀ f ∈ log, f.Alone program) (linked : Linked init log db) :
    Serial program init (if active = some t then none else active)
      { pool.drop t with db := db, log := log } := by
  refine ⟨fun u r was => ?_, fun k u owner => ?_, alone, linked⟩
  · by_cases eq : u = t
    · simp [Pool.drop, eq] at was
    · have running : pool.sessions u = some r := by simpa [Pool.drop, eq] using was
      by_cases own : active = some t
      · rw [if_pos own]
        refine (inv.sessions u r running).wait fun same => eq ?_
        exact Option.some.inj (same.symm.trans own)
      · rw [if_neg own]
        change Undisturbed program active db u r
        rw [stays own]
        exact inv.sessions u r running
  · by_cases mine : pool.owner k = some t
    · simp [Pool.drop, mine] at owner
    · have owned : pool.owner k = some u := by simpa [Pool.drop, mine] using owner
      have same := inv.owners k u owned
      rw [if_neg fun own => mine (by rw [owned, ← same, own])]
      exact same

theorem Serial.next {label : Label Call} (inv : Serial program init active pool)
    (follows : label.mayFollow active) (stepped : Pool.next program pool label = some pool') :
    Serial program init (label.underWay active) pool' := by
  cases next_cases stepped with
  | @begin t call =>
    refine ⟨fun u r now => ?_, inv.owners, inv.alone, inv.linked⟩
    by_cases eq : u = t
    · subst eq
      simp only [Pool.put, if_true, Option.some.injEq] at now
      subst now
      exact ⟨rfl, fun _ => ⟨rfl, rfl⟩⟩
    · simp only [Pool.put, eq, if_false] at now
      exact inv.sessions u r now
  | @statement t _ _ _ running code =>
    have turn : active = none ∨ active = some t := by
      simpa [Label.mayFollow] using follows
    exact inv.statement running code turn
  | @refuse t _ _ _ _ _ _ _ blocked =>
    have turn : active = none ∨ active = some t := by
      simpa [Label.mayFollow] using follows
    -- a lock is taken only by the transaction under way
    refine absurd (List.all_eq_true.mpr fun k _ => ?_) blocked
    rw [decide_eq_true_eq]
    cases owner : pool.owner k with
    | none => exact .inl rfl
    | some u =>
      have same := inv.owners k u owner
      rcases turn with none_ | own
      · rw [none_] at same
        cases same
      · exact .inr (same.symm.trans own)
  | @commit t s a running code =>
    have onward := (inv.sessions t s running).onward
    rw [code, Prog.exec] at onward
    refine inv.ended _ _ (fun waits => ?_) (fun f mem => ?_) (inv.linked.snoc rfl)
    · rw [((inv.sessions t s running).waiting waits).2, id]
    · rcases mem_append.mp mem with old | new
      · exact inv.alone f old
      · cases mem_singleton.mp new
        exact onward.symm
  | @rollback t s e running code =>
    have onward := (inv.sessions t s running).onward
    rw [code, Prog.exec] at onward
    refine inv.ended pool.db _ (fun _ => rfl) (fun f mem => ?_) (inv.linked.snoc rfl)
    rcases mem_append.mp mem with old | new
    · exact inv.alone f old
    · cases mem_singleton.mp new
      exact ⟨onward.symm, rfl⟩
  | abort => exact inv.ended pool.db pool.log (fun _ => rfl) inv.alone inv.linked

theorem serial_sound {labels : List (Label Call)} (one : serial none labels)
    (ran : runFrom program init labels = some pool) :
    (∀ f ∈ pool.log, f.Alone program) ∧ Linked init pool.log pool.db := by
  suffices keeps : ∀ {active : Option Nat} {labels : List (Label Call)} {first : Pool Call σ κ ε α},
      serial active labels = true → Serial program init active first →
        Runs.run (next program) first labels = some pool → ∃ active, Serial program init active pool by
    obtain ⟨_, inv⟩ := keeps one .initial ran
    exact ⟨inv.alone, inv.linked⟩
  intro active labels first
  induction labels generalizing active first with
  | nil =>
    intro _ inv ran
    cases ran
    exact ⟨active, inv⟩
  | cons label rest ih =>
    intro one inv ran
    obtain ⟨follows, later⟩ := Bool.and_eq_true_iff.mp one
    obtain ⟨mid, stepped, onward⟩ := Runs.run_cons.mp ran
    exact ih later (inv.next follows stepped) onward

end Pool

end Txn
