import OpenWind.Lib.Runs
import OpenWind.Lib.Calls

/-!
# A value that sections overwrite

A value is changed by statements, which edit what they find, and by sections that read it
and later write what follows from what they read, whatever stands there by then.  Each
operation is one of the two (`Way`).

* `step` interleaves the reads and the writes of any number of operations; `log` is the
  operations that have committed, in their order.
-/

namespace Overwrites

open Runs

inductive Plan (σ : Type)
  | refuse
  /-- There is nothing to write. -/
  | idle
  /-- Write what the edit makes of the value that stands there by then. -/
  | write (edit : σ → σ)

/-- How an operation changes a value of type `σ`. -/
inductive Way (σ : Type)
  /-- One statement, which edits the value that it finds or fails. -/
  | statement (edit : σ → Option σ)
  /-- The value is read, and what follows from it written later. -/
  | rewrite (plan : σ → Plan σ)

inductive Phase (σ : Type)
  | begun
  | holding (snapshot : σ)
  | ended

/-- An operation under way. -/
structure Section (σ Op : Type) where
  op : Op
  phase : Phase σ

structure World (σ Op : Type) where
  value : σ
  sections : List (Section σ Op)
  log : List Op

inductive Label (Op : Type)
  | start (op : Op)
  | read (i : Nat)
  | write (i : Nat)
  | abandon (i : Nat)

variable {σ Op : Type}

namespace World

def enter (w : World σ Op) (i : Nat) (op : Op) (phase : Phase σ) : World σ Op :=
  { w with sections := w.sections.set i ⟨op, phase⟩ }

def commit (w : World σ Op) (i : Nat) (op : Op) (written : σ) : World σ Op :=
  { value := written, sections := w.sections.set i ⟨op, .ended⟩, log := w.log ++ [op] }

end World

/-- No operation has begun. -/
def initial (value : σ) : World σ Op where
  value := value
  sections := []
  log := []

def step (way : Op → Way σ) (w : World σ Op) : Label Op → Option (World σ Op)
  | .start op => some { w with sections := w.sections ++ [⟨op, .begun⟩] }
  | .read i =>
    match w.sections[i]? with
    | some ⟨op, .begun⟩ =>
      match way op with
      | .statement _ => none
      | .rewrite plan =>
        match plan w.value with
        | .refuse => none
        | .idle => some (w.commit i op w.value)
        | .write _ => some (w.enter i op (.holding w.value))
    | _ => none
  | .write i =>
    match w.sections[i]? with
    | some ⟨op, .begun⟩ =>
      match way op with
      | .statement edit => (edit w.value).map (w.commit i op)
      | .rewrite _ => none
    | some ⟨op, .holding snapshot⟩ =>
      match way op with
      | .statement _ => none
      | .rewrite plan =>
        match plan snapshot with
        | .write edit => some (w.commit i op (edit w.value))
        | _ => none
    | _ => none
  | .abandon i =>
    match w.sections[i]? with
    | some ⟨_, .ended⟩ => none
    | some ⟨op, _⟩ => some (w.enter i op .ended)
    | none => none

/-! ## What a step commits -/

inductive Made (way : Op → Way σ) (op : Op) : (source current written : σ) → Prop
  | idle {plan : σ → Plan σ} {current : σ} (rewrites : way op = .rewrite plan)
      (nothing : plan current = .idle) : Made way op current current current
  | edited {edit : σ → Option σ} {current written : σ} (edits : way op = .statement edit)
      (writes : edit current = some written) : Made way op current current written
  | rewritten {plan : σ → Plan σ} {edit : σ → σ} {source current : σ}
      (rewrites : way op = .rewrite plan) (writes : plan source = .write edit) :
      Made way op source current (edit current)

inductive Commits (way : Op → Way σ) (w : World σ Op) :
    (label : Label Op) → (op : Op) → (source written : σ) → Prop
  | idle {i : Nat} {op : Op} {plan : σ → Plan σ} (here : w.sections[i]? = some ⟨op, .begun⟩)
      (rewrites : way op = .rewrite plan) (nothing : plan w.value = .idle) :
      Commits way w (.read i) op w.value w.value
  | edited {i : Nat} {op : Op} {edit : σ → Option σ} {written : σ}
      (here : w.sections[i]? = some ⟨op, .begun⟩) (edits : way op = .statement edit)
      (writes : edit w.value = some written) : Commits way w (.write i) op w.value written
  | rewritten {i : Nat} {op : Op} {plan : σ → Plan σ} {edit : σ → σ} {source : σ}
      (here : w.sections[i]? = some ⟨op, .holding source⟩) (rewrites : way op = .rewrite plan)
      (writes : plan source = .write edit) : Commits way w (.write i) op source (edit w.value)

section Steps

variable {way : Op → Way σ} {w w' : World σ Op} {l : Label Op} {op : Op} {source written : σ}

theorem Commits.made (commits : Commits way w l op source written) :
    Made way op source w.value written := by
  cases commits with
  | idle _ rewrites nothing => exact .idle rewrites nothing
  | edited _ edits writes => exact .edited edits writes
  | rewritten _ rewrites writes => exact .rewritten rewrites writes

theorem Commits.step (commits : Commits way w l op source written) :
    ∃ i, step way w l = some (w.commit i op written) := by
  cases commits with
  | @idle i _ _ here rewrites nothing =>
    exact ⟨i, by simp only [Overwrites.step, here, rewrites, nothing]⟩
  | @edited i _ _ _ here edits writes =>
    exact ⟨i, by simp only [Overwrites.step, here, edits, writes, Option.map_some]⟩
  | @rewritten i _ _ _ _ here rewrites writes =>
    exact ⟨i, by simp only [Overwrites.step, here, rewrites, writes]⟩

theorem step_cases (stepped : step way w l = some w') :
    (∃ op source written, Commits way w l op source written) ∨
      w'.value = w.value ∧ w'.log = w.log := by
  revert stepped
  fun_cases step way w l <;> intro stepped <;> try cases stepped
  case case4.refl op here plan rewrites nothing =>
    exact .inl ⟨op, _, _, .idle here rewrites nothing⟩
  case case7 op here edit edits =>
    obtain ⟨written, writes, -⟩ := Option.map_eq_some_iff.mp stepped
    exact .inl ⟨op, _, written, .edited here edits writes⟩
  case case10.refl op source here plan rewrites edit writes =>
    exact .inl ⟨op, source, _, .rewritten here rewrites writes⟩
  all_goals exact .inr ⟨rfl, rfl⟩

end Steps

/-! ## What holds of the value -/

def Under (way : Op → Way σ) (C : Op → (source current : σ) → Prop) (w : World σ Op)
    (l : Label Op) : Prop :=
  ∀ op source written, Commits way w l op source written → C op source w.value

theorem always_iff {way : Op → Way σ} {C : Op → (source current : σ) → Prop} {J P : σ → Prop}
    (invariant : ∀ {op source current written}, Made way op source current written →
      J current → J written)
    (exact : ∀ {op source current written}, Made way op source current written →
      J current → P current → (C op source current ↔ P written))
    {init : σ} (start : J init) (holds : P init) (labels : List (Label Op)) :
    Always (step way) (fun w => P w.value) (initial init) labels ↔
      Guarded (step way) (Under way C) (initial init) labels := by
  refine guarded_iff (I := fun w => J w.value) ?_ ?_ start holds
  · intro w l w' inv _ stepped _
    rcases step_cases stepped with ⟨op, source, written, commits⟩ | ⟨value, -⟩
    · obtain ⟨i, committed⟩ := commits.step
      obtain rfl := Option.some.inj (committed.symm.trans stepped)
      exact invariant commits.made inv
    · rw [value]
      exact inv
  · intro w l inv holds
    constructor
    · intro under w' stepped
      rcases step_cases stepped with ⟨op, source, written, commits⟩ | ⟨value, -⟩
      · obtain ⟨i, committed⟩ := commits.step
        obtain rfl := Option.some.inj (committed.symm.trans stepped)
        exact (exact commits.made inv holds).mp (under op source written commits)
      · rw [value]
        exact holds
    · intro kept op source written commits
      obtain ⟨i, committed⟩ := commits.step
      exact (exact commits.made inv holds).mpr (kept _ committed)

/-! ## What a log has settled -/

section Settled

variable {κ : Type} {ω : κ → Type} (effect : Op → (k : κ) → Option (ω k))

def lastSet (log : List Op) (k : κ) : Option (ω k) :=
  (log.filterMap fun op => effect op k).getLast?

def settled (init : (k : κ) → ω k) (log : List Op) (k : κ) : ω k :=
  (lastSet effect log k).getD (init k)

theorem settled_append (init : (k : κ) → ω k) (log : List Op) (op : Op) (k : κ) :
    settled effect init (log ++ [op]) k = (effect op k).getD (settled effect init log k) := by
  unfold settled lastSet
  rw [List.filterMap_append]
  cases set' : effect op k with
  | none => simp [set']
  | some value => simp [set']

theorem settled_untouched (init : (k : κ) → ω k) {log : List Op} {k : κ}
    (untouched : ∀ op ∈ log, effect op k = none) : settled effect init log k = init k := by
  have nothing : log.filterMap (fun op => effect op k) = [] :=
    List.filterMap_eq_nil_iff.mpr untouched
  rw [settled, lastSet, nothing]
  rfl

variable (obs : σ → (k : κ) → ω k)

def Reflects (init : σ) (w : World σ Op) : Prop :=
  ∀ k, obs w.value k = settled effect (obs init) w.log k

variable {effect obs}

theorem reflects_iff {way : Op → Way σ} {C : Op → (source current : σ) → Prop}
    (exact : ∀ {op source current written}, Made way op source current written →
      (C op source current ↔ ∀ k, obs written k = (effect op k).getD (obs current k)))
    (init : σ) (labels : List (Label Op)) :
    Always (step way) (Reflects effect obs init) (initial init) labels ↔
      Guarded (step way) (Under way C) (initial init) labels := by
  refine guarded_iff (I := fun _ => True) (fun _ _ _ _ => trivial) ?_ trivial fun k => rfl
  intro w l _ holds
  constructor
  · intro under w' stepped k
    rcases step_cases stepped with ⟨op, source, written, commits⟩ | ⟨value, log⟩
    · obtain ⟨i, committed⟩ := commits.step
      obtain rfl := Option.some.inj (committed.symm.trans stepped)
      have sets := (exact commits.made).mp (under op source written commits) k
      have before := holds k
      change obs written k = settled effect (obs init) (w.log ++ [op]) k
      rw [settled_append, ← before]
      exact sets
    · rw [value, log]
      exact holds k
  · intro kept op source written commits
    obtain ⟨i, committed⟩ := commits.step
    refine (exact commits.made).mpr fun k => ?_
    have after := kept _ committed k
    have before := holds k
    change obs written k = settled effect (obs init) (w.log ++ [op]) k at after
    rw [settled_append, ← before] at after
    exact after

end Settled

end Overwrites
