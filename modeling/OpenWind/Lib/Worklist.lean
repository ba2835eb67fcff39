import Mathlib.Logic.Relation
import Mathlib.Tactic.Common

/-!
# Worklists and paths

`collect next bound [root] []` visits what can be reached from `root` by `next`,
breadth first, without marking what it has visited: every step takes an element of
the queue and appends its successors to the queue and to the result.  After
`bound` steps it gives up.

* `mem_collect`: the result of a walk that ended holds what some steps reach.
-/

open List

namespace Worklist

variable {α : Type}

def collect (next : α → List α) : Nat → List α → List α → Option (List α)
  | _, [], result => some result
  | 0, _ :: _, _ => none
  | bound + 1, current :: queue, result =>
    collect next bound (queue ++ next current) (result ++ next current)

variable {next : α → List α}

/-- One step of `next`. -/
def Step (next : α → List α) (x y : α) : Prop := y ∈ next x

variable {bound : Nat} {out queue result : List α} {next' : α → List α}

section

variable (ran : collect next bound queue result = some out)

include ran

/-- Nothing that was found is dropped. -/
theorem subset_collect : result ⊆ out := by
  induction bound generalizing queue result with
  | zero =>
    cases queue with
    | nil => cases ran; exact Subset.refl _
    | cons _ _ => cases ran
  | succ bound ih =>
    cases queue with
    | nil => cases ran; exact Subset.refl _
    | cons current queue => exact fun x mem => ih ran (mem_append_left _ mem)

theorem collect_closed (visited : ∀ x ∈ result, x ∈ queue ∨ next x ⊆ result) :
    ∀ x, x ∈ queue ∨ x ∈ out → next x ⊆ out := by
  induction bound generalizing queue result with
  | zero =>
    cases queue with
    | nil =>
      cases ran
      rintro x (listed | mem)
      · cases listed
      · exact (visited x mem).resolve_left not_mem_nil
    | cons _ _ => cases ran
  | succ bound ih =>
    cases queue with
    | nil =>
      cases ran
      rintro x (listed | mem)
      · cases listed
      · exact (visited x mem).resolve_left not_mem_nil
    | cons current queue =>
      change collect next bound (queue ++ next current) (result ++ next current) = some out at ran
      have found : next current ⊆ out :=
        fun y mem => subset_collect ran (mem_append_right _ mem)
      have kept : ∀ x ∈ result ++ next current,
          x ∈ queue ++ next current ∨ next x ⊆ result ++ next current := by
        intro x mem
        rcases mem_append.mp mem with old | new
        · rcases visited x old with listed | done
          · rcases mem_cons.mp listed with rfl | listed
            · exact .inr (subset_append_right _ _)
            · exact .inl (mem_append_left _ listed)
          · exact .inr fun y mem => mem_append_left _ (done mem)
        · exact .inl (mem_append_right _ new)
      rintro x (listed | mem)
      · rcases mem_cons.mp listed with rfl | listed
        · exact found
        · exact ih ran kept x (.inl (mem_append_left _ listed))
      · exact ih ran kept x (.inr mem)

theorem collect_sound {P : α → Prop} (queued : ∀ x ∈ queue, ∀ y ∈ next x, P y)
    (stepwise : ∀ x, P x → ∀ y ∈ next x, P y) (found : ∀ x ∈ result, P x) : ∀ x ∈ out, P x := by
  induction bound generalizing queue result with
  | zero =>
    cases queue with
    | nil => cases ran; exact found
    | cons _ _ => cases ran
  | succ bound ih =>
    cases queue with
    | nil => cases ran; exact found
    | cons current queue =>
      have new : ∀ y ∈ next current, P y := queued current mem_cons_self
      refine ih ran (fun x mem => ?_) fun x mem => ?_
      · rcases mem_append.mp mem with listed | mem
        · exact queued x (mem_cons_of_mem _ listed)
        · exact stepwise x (new x mem)
      · rcases mem_append.mp mem with old | mem
        · exact found x old
        · exact new x mem

end

/-- A walk that ended has found exactly what one or more steps reach. -/
theorem mem_collect {root : α} (ran : collect next bound [root] [] = some out) {x : α} :
    x ∈ out ↔ Relation.TransGen (Step next) root x := by
  constructor
  · refine collect_sound (P := Relation.TransGen (Step next) root) ran (fun y mem z step => ?_)
      (fun y reached z step => reached.tail step) (fun _ mem => absurd mem not_mem_nil) x
    cases mem_singleton.mp mem
    exact .single step
  · intro reached
    have closed := collect_closed ran fun _ mem => absurd mem not_mem_nil
    induction reached with
    | single step => exact closed root (.inl mem_cons_self) step
    | tail _ step ih => exact closed _ (.inr ih) step

/-! ## Paths -/

/-- `k` steps of `next`, each from an element of `P`. -/
inductive Path (next : α → List α) (P : α → Prop) : Nat → α → α → Prop
  | refl (a : α) : Path next P 0 a a
  | tail {k : Nat} {a b c : α} : Path next P k a b → P b → c ∈ next b → Path next P (k + 1) a c

variable {P Q : α → Prop} {k : Nat} {a b c : α}

theorem Path.mono (path : Path next P k a b) (weaker : ∀ x, P x → Q x)
    (more : ∀ x, P x → next x ⊆ next' x) : Path next' Q k a b := by
  induction path with
  | refl a => exact .refl a
  | tail _ holds step ih => exact .tail ih (weaker _ holds) (more _ holds step)

theorem Path.head (path : Path next P (k + 1) a c) : ∃ b ∈ next a, P a ∧ Path next P k b c := by
  induction k generalizing c with
  | zero =>
    cases path with
    | tail first holds step =>
      cases first
      exact ⟨c, step, holds, .refl c⟩
  | succ k ih =>
    cases path with
    | tail first holds step =>
      obtain ⟨b, start, holdsA, rest⟩ := ih first
      exact ⟨b, start, holdsA, .tail rest holds step⟩

theorem Path.transGen (path : Path next P (k + 1) a b) : Relation.TransGen (Step next) a b := by
  induction k generalizing b with
  | zero =>
    cases path with
    | tail first _ step =>
      cases first
      exact .single step
  | succ k ih =>
    cases path with
    | tail first _ step => exact (ih first).tail step

/-- When one new step closes no cycle, a path takes it once at most. -/
theorem Path.through {source target : α}
    (edges : ∀ x, ∀ y ∈ next' x, y ∈ next x ∨ x = source ∧ y = target)
    (apart : ∀ j, ¬ Path next P j target source) (path : Path next' P k a b) :
    Path next P k a b ∨ ∃ i j, Path next P i a source ∧ P source ∧ Path next P j target b ∧
      k = i + 1 + j := by
  induction path with
  | refl a => exact .inl (.refl a)
  | tail _ holds step ih =>
    rcases ih with before | ⟨i, j, up, at_, down, rfl⟩
    · rcases edges _ _ step with old | ⟨rfl, rfl⟩
      · exact .inl (.tail before holds old)
      · exact .inr ⟨_, 0, before, holds, .refl _, rfl⟩
    · rcases edges _ _ step with old | ⟨rfl, rfl⟩
      · exact .inr ⟨i, j + 1, up, at_, .tail down holds old, rfl⟩
      · exact absurd down (apart j)

end Worklist
