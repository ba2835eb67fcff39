import Mathlib.Data.Option.Basic
import Mathlib.Tactic.Common

/-!
# Runs of a partial step function

A machine is a function `step : S → L → Option S`: label `l` either moves state
`s` or is not enabled there.  A run is a list of labels.

* `run_invariant`: what one step preserves holds after every run.
-/

open Option

namespace Runs

variable {S L : Type} {step : S → L → Option S}

/-- The state after the labels `ls`, when all of them are enabled in turn. -/
def run (step : S → L → Option S) : S → List L → Option S
  | s, [] => some s
  | s, l :: ls => (step s l).bind fun mid => run step mid ls

@[simp] theorem run_nil (s : S) : run step s [] = some s := rfl

theorem run_cons {s t : S} {l : L} {ls : List L} :
    run step s (l :: ls) = some t ↔ ∃ mid, step s l = some mid ∧ run step mid ls = some t := by
  simp [run, bind_eq_some_iff]

theorem run_append {s t : S} {first second : List L} :
    run step s (first ++ second) = some t ↔
      ∃ mid, run step s first = some mid ∧ run step mid second = some t := by
  induction first generalizing s with
  | nil => simp
  | cons l ls ih =>
    rw [List.cons_append, run_cons]
    constructor
    · rintro ⟨next, stepped, rest⟩
      obtain ⟨mid, left, right⟩ := ih.mp rest
      exact ⟨mid, run_cons.mpr ⟨next, stepped, left⟩, right⟩
    · rintro ⟨mid, left, right⟩
      obtain ⟨next, stepped, rest⟩ := run_cons.mp left
      exact ⟨next, stepped, ih.mpr ⟨mid, rest, right⟩⟩

theorem run_invariant {P : S → Prop} (preserved : ∀ {s l t}, P s → step s l = some t → P t)
    {s t : S} {ls : List L} (init : P s) (ran : run step s ls = some t) : P t := by
  induction ls generalizing s with
  | nil => cases ran; exact init
  | cons l ls ih =>
    obtain ⟨mid, stepped, rest⟩ := run_cons.mp ran
    exact ih (preserved init stepped) rest

theorem run_mono {R : S → S → Prop} (refl : ∀ s, R s s) (trans : ∀ {a b c}, R a b → R b c → R a c)
    (stepwise : ∀ {s l t}, step s l = some t → R s t) {s t : S} {ls : List L}
    (ran : run step s ls = some t) : R s t := by
  induction ls generalizing s with
  | nil => cases ran; exact refl _
  | cons l ls ih =>
    obtain ⟨mid, stepped, rest⟩ := run_cons.mp ran
    exact trans (stepwise stepped) (ih rest)

/-! ## Steps of a run -/

/-- Some step of the run satisfies `E` at the state before it. -/
def Occurs (step : S → L → Option S) (E : S → L → Prop) : S → List L → Prop
  | _, [] => False
  | s, l :: ls => E s l ∨ ∃ t, step s l = some t ∧ Occurs step E t ls

theorem Occurs.after {E : S → L → Prop} {I P : S → Prop}
    (invariant : ∀ {s l t}, I s → step s l = some t → I t)
    (established : ∀ {s l t}, I s → E s l → step s l = some t → P t)
    (kept : ∀ {s l t}, I s → P s → step s l = some t → P t) {s t : S} {ls : List L} (init : I s)
    (occurs : Occurs step E s ls) (ran : run step s ls = some t) : P t := by
  induction ls generalizing s with
  | nil => exact occurs.elim
  | cons l ls ih =>
    obtain ⟨mid, stepped, rest⟩ := run_cons.mp ran
    rcases occurs with here | ⟨mid', stepped', later⟩
    · have both : I t ∧ P t := run_invariant (P := fun s => I s ∧ P s)
        (fun holds stepped => ⟨invariant holds.1 stepped, kept holds.1 holds.2 stepped⟩)
        ⟨invariant init stepped, established init here stepped⟩ rest
      exact both.2
    · cases stepped.symm.trans stepped'
      exact ih (invariant init stepped) later rest

/-! ## Guarded runs -/

/-- Every step of the run meets the condition `G`. -/
def Guarded (step : S → L → Option S) (G : S → L → Prop) : S → List L → Prop
  | _, [] => True
  | s, l :: ls => G s l ∧ ∀ t, step s l = some t → Guarded step G t ls

theorem Guarded.invariant {G : S → L → Prop} {P : S → Prop}
    (preserved : ∀ {s l t}, P s → G s l → step s l = some t → P t) {s t : S} {ls : List L}
    (guarded : Guarded step G s ls) (init : P s) (ran : run step s ls = some t) : P t := by
  induction ls generalizing s with
  | nil => cases ran; exact init
  | cons l ls ih =>
    obtain ⟨mid, stepped, rest⟩ := run_cons.mp ran
    exact ih (guarded.2 mid stepped) (preserved init guarded.1 stepped) rest

theorem Guarded.and {G H : S → L → Prop} {s : S} {ls : List L} (first : Guarded step G s ls)
    (second : Guarded step H s ls) : Guarded step (fun s l => G s l ∧ H s l) s ls := by
  induction ls generalizing s with
  | nil => trivial
  | cons l ls ih =>
    exact ⟨⟨first.1, second.1⟩, fun t stepped => ih (first.2 t stepped) (second.2 t stepped)⟩

theorem Guarded.of_forall {G : S → L → Prop} (all : ∀ s l, G s l) (s : S) (ls : List L) :
    Guarded step G s ls := by
  induction ls generalizing s with
  | nil => trivial
  | cons l ls ih => exact ⟨all s l, fun t _ => ih t⟩

theorem Guarded.of_mem {G : S → L → Prop} {ls : List L} (all : ∀ l ∈ ls, ∀ s, G s l) (s : S) :
    Guarded step G s ls := by
  induction ls generalizing s with
  | nil => trivial
  | cons l ls ih =>
    rw [List.forall_mem_cons] at all
    exact ⟨all.1 s, fun t _ => ih all.2 t⟩

def check (step : S → L → Option S) (c : S → L → Bool) : S → List L → Bool
  | _, [] => true
  | s, l :: ls => c s l && (step s l).all fun t => check step c t ls

theorem Guarded.of_check {G : S → L → Prop} {c : S → L → Bool} (implies : ∀ {s l}, c s l → G s l)
    {s : S} {ls : List L} (checked : check step c s ls) : Guarded step G s ls := by
  induction ls generalizing s with
  | nil => trivial
  | cons l ls ih =>
    obtain ⟨here, later⟩ := Bool.and_eq_true_iff.mp checked
    refine ⟨implies here, fun t stepped => ih ?_⟩
    rw [stepped] at later
    exact later

theorem Guarded.append {G : S → L → Prop} {s : S} {first second : List L}
    (guarded : Guarded step G s (first ++ second)) :
    Guarded step G s first ∧ ∀ mid, run step s first = some mid → Guarded step G mid second := by
  induction first generalizing s with
  | nil => exact ⟨trivial, fun mid ran => by cases ran; exact guarded⟩
  | cons l ls ih =>
    refine ⟨⟨guarded.1, fun t stepped => (ih (guarded.2 t stepped)).1⟩, fun mid ran => ?_⟩
    obtain ⟨t, stepped, rest⟩ := run_cons.mp ran
    exact (ih (guarded.2 t stepped)).2 mid rest

theorem Guarded.between {G : S → L → Prop} {I : S → Prop} {R : S → S → Prop} (refl : ∀ s, R s s)
    (trans : ∀ {a b c}, R a b → R b c → R a c)
    (preserved : ∀ {s l t}, I s → G s l → step s l = some t → I t)
    (stepwise : ∀ {s l t}, I s → G s l → step s l = some t → R s t) {s mid t : S}
    {first second : List L} (guarded : Guarded step G s (first ++ second)) (init : I s)
    (ran : run step s first = some mid) (later : run step mid second = some t) : R mid t := by
  obtain ⟨before, after⟩ := guarded.append
  have reached : I t ∧ R mid t := by
    refine (after mid ran).invariant (P := fun s => I s ∧ R mid s)
      (fun holds allowed stepped => ⟨preserved holds.1 allowed stepped,
        trans holds.2 (stepwise holds.1 allowed stepped)⟩) ?_ later
    exact ⟨before.invariant preserved init ran, refl mid⟩
  exact reached.2

/-- Every state the run passes, its first and its last included, satisfies `P`. -/
def Always (step : S → L → Option S) (P : S → Prop) : S → List L → Prop
  | s, [] => P s
  | s, l :: ls => P s ∧ ∀ t, step s l = some t → Always step P t ls

theorem Always.head {P : S → Prop} {s : S} {ls : List L} (always : Always step P s ls) : P s := by
  cases ls with
  | nil => exact always
  | cons l ls => exact always.1

theorem Always.last {P : S → Prop} {s t : S} {ls : List L} (always : Always step P s ls)
    (ran : run step s ls = some t) : P t := by
  induction ls generalizing s with
  | nil => cases ran; exact always
  | cons l ls ih =>
    obtain ⟨mid, stepped, rest⟩ := run_cons.mp ran
    exact ih (always.2 mid stepped) rest

theorem Always.mono {P Q : S → Prop} (weaker : ∀ {s}, P s → Q s) {s : S} {ls : List L}
    (always : Always step P s ls) : Always step Q s ls := by
  induction ls generalizing s with
  | nil => exact weaker always
  | cons l ls ih => exact ⟨weaker always.1, fun t stepped => ih (always.2 t stepped)⟩

theorem Always.of_invariant {I P : S → Prop} (preserved : ∀ {s l t}, I s → step s l = some t → I t)
    (holds : ∀ {s}, I s → P s) {s : S} {ls : List L} (init : I s) : Always step P s ls := by
  induction ls generalizing s with
  | nil => exact holds init
  | cons l ls ih => exact ⟨holds init, fun t stepped => ih (preserved init stepped)⟩

theorem Guarded.always {G : S → L → Prop} {I P : S → Prop}
    (preserved : ∀ {s l t}, I s → G s l → step s l = some t → I t) (holds : ∀ {s}, I s → P s)
    {s : S} {ls : List L} (guarded : Guarded step G s ls) (init : I s) : Always step P s ls := by
  induction ls generalizing s with
  | nil => exact holds init
  | cons l ls ih =>
    exact ⟨holds init, fun t stepped => ih (guarded.2 t stepped) (preserved init guarded.1 stepped)⟩

theorem Guarded.under {G H : S → L → Prop} {I : S → Prop}
    (preserved : ∀ {s l t}, I s → G s l → step s l = some t → I t)
    (implies : ∀ {s l}, I s → G s l → H s l)
    {s : S} {ls : List L} (guarded : Guarded step G s ls) (init : I s) : Guarded step H s ls := by
  induction ls generalizing s with
  | nil => trivial
  | cons l ls ih =>
    exact ⟨implies init guarded.1,
      fun t stepped => ih (guarded.2 t stepped) (preserved init guarded.1 stepped)⟩

/-- How many of the run's steps are of the kind `K`. -/
def count (step : S → L → Option S) (K : S → L → Bool) : S → List L → Nat
  | _, [] => 0
  | s, l :: ls => (step s l).elim 0 fun t => (K s l).toNat + count step K t ls

theorem Guarded.count_le {G : S → L → Prop} {K : S → L → Bool} {I : S → Prop} {potential : S → Nat}
    {bound : Nat} (preserved : ∀ {s l t}, I s → G s l → step s l = some t → I t)
    (paid : ∀ {s l t}, I s → G s l → step s l = some t → potential s + (K s l).toNat ≤ potential t)
    (spare : ∀ {s} l, I s → potential s + (K s l).toNat ≤ bound)
    (within : ∀ {s}, I s → potential s ≤ bound) {s : S} {ls : List L} (last : Option L)
    (guarded : Guarded step G s ls) (init : I s) :
    potential s + count step K s (ls ++ last.toList) ≤ bound := by
  induction ls generalizing s with
  | nil =>
    cases last with
    | none => exact within init
    | some l =>
      have room := spare l init
      simp only [toList_some, List.nil_append, count]
      cases step s l with
      | none =>
        rw [elim_none]
        omega
      | some t =>
        rw [elim_some, Nat.add_zero]
        exact room
  | cons l ls ih =>
    rw [List.cons_append, count]
    cases stepped : step s l with
    | none =>
      rw [elim_none]
      exact within init
    | some t =>
      have raised := paid init guarded.1 stepped
      have rest := ih (guarded.2 t stepped) (preserved init guarded.1 stepped)
      rw [elim_some]
      omega

theorem guarded_iff {I P : S → Prop} {G : S → L → Prop}
    (invariant : ∀ {s l t}, I s → P s → step s l = some t → P t → I t)
    (exact : ∀ {s l}, I s → P s → (G s l ↔ ∀ t, step s l = some t → P t)) {s : S} {ls : List L}
    (inv : I s) (init : P s) : Always step P s ls ↔ Guarded step G s ls := by
  induction ls generalizing s with
  | nil => exact ⟨fun _ => trivial, fun _ => init⟩
  | cons l ls ih =>
    constructor
    · intro ⟨_, later⟩
      have kept : ∀ t, step s l = some t → P t := fun t stepped => (later t stepped).head
      exact ⟨(exact inv init).mpr kept, fun t stepped =>
        (ih (invariant inv init stepped (kept t stepped)) (kept t stepped)).mp (later t stepped)⟩
    · intro ⟨allowed, later⟩
      have kept := (exact inv init).mp allowed
      exact ⟨init, fun t stepped =>
        (ih (invariant inv init stepped (kept t stepped)) (kept t stepped)).mpr (later t stepped)⟩

theorem run_guarded_iff {I P : S → Prop} {G H : S → L → Prop}
    (invariant : ∀ {s l t}, I s → P s → step s l = some t → I t)
    (exact : ∀ {s l t}, I s → P s → step s l = some t → (G s l ↔ H s l ∧ P t))
    {s t : S} {ls : List L} (inv : I s) (init : P s) (ran : run step s ls = some t) :
    Always step P s ls ∧ Guarded step H s ls ↔ Guarded step G s ls := by
  induction ls generalizing s with
  | nil => exact ⟨fun _ => trivial, fun _ => ⟨init, trivial⟩⟩
  | cons l ls ih =>
    obtain ⟨mid, stepped, rest⟩ := run_cons.mp ran
    have one {Q : S → Prop} (holds : Q mid) : ∀ t, step s l = some t → Q t := by
      intro t stepped'
      cases stepped.symm.trans stepped'
      exact holds
    constructor
    · intro ⟨⟨_, always⟩, succeeds, later⟩
      have kept := (always mid stepped).head
      exact ⟨(exact inv init stepped).mpr ⟨succeeds, kept⟩, one
        ((ih (invariant inv init stepped) kept rest).mp ⟨always mid stepped, later mid stepped⟩)⟩
    · intro ⟨allowed, later⟩
      obtain ⟨succeeds, kept⟩ := (exact inv init stepped).mp allowed
      have sound := invariant inv init stepped
      obtain ⟨always, guarded⟩ := (ih sound kept rest).mpr (later mid stepped)
      exact ⟨⟨init, one always⟩, succeeds, one guarded⟩

end Runs
