import Mathlib.Data.List.Chain
import Mathlib.Data.List.Nodup

/-!
# Logs of moves

A move goes from a source to a target; a source of `none` says that there was
nothing before it.  A log is the list of its moves, oldest first.

* `Leads s log t`: the log starts in `s`, each move starts where the one before
  it ended, and it ends in `t`.
-/

open List

namespace Chain

variable {α : Type}

/-- A move, and the value it replaced. -/
abbrev Move (α : Type) := Option α × α

/-- The log takes `s` to `t`. -/
def Leads : Option α → List (Move α) → Option α → Prop
  | s, [], t => s = t
  | s, move :: rest, t => move.1 = s ∧ Leads (some move.2) rest t

theorem leads_append {s t : Option α} {first second : List (Move α)} :
    Leads s (first ++ second) t ↔ ∃ mid, Leads s first mid ∧ Leads mid second t := by
  induction first generalizing s with
  | nil => simp [Leads]
  | cons move rest ih =>
    rw [cons_append, Leads, ih]
    constructor
    · intro ⟨starts, mid, left, right⟩
      exact ⟨mid, ⟨starts, left⟩, right⟩
    · intro ⟨mid, ⟨starts, left⟩, right⟩
      exact ⟨starts, mid, left, right⟩

/-- Each move starts where the one before it ended, and the last one ended in
`current`. -/
structure Unbroken (log : List (Move α)) (current : α) : Prop where
  linked : log.IsChain fun a b => b.1 = some a.2
  ends : ∀ last ∈ log.getLast?, last.2 = current

theorem Unbroken.nil (current : α) : Unbroken [] current := ⟨.nil, nofun⟩

variable {move : Move α} {current : α} {log : List (Move α)} {visits : List α}

theorem unbroken_cons {rest : List (Move α)} :
    Unbroken (move :: rest) current ↔
      (∀ next ∈ rest.head?, next.1 = some move.2) ∧ Unbroken rest current ∧
        (rest = [] → move.2 = current) := by
  constructor
  · intro ⟨linked, ends⟩
    obtain ⟨first, linked⟩ := isChain_cons.mp linked
    refine ⟨first, ⟨linked, fun last mem => ends last ?_⟩, fun empty => ends move ?_⟩
    · cases rest with
      | nil => cases mem
      | cons next rest => rwa [getLast?_cons_cons]
    · subst empty
      rfl
  · intro ⟨first, ⟨linked, ends⟩, single⟩
    refine ⟨isChain_cons.mpr ⟨first, linked⟩, fun last mem => ?_⟩
    cases rest with
    | nil => cases mem; exact single rfl
    | cons next rest =>
      rw [getLast?_cons_cons] at mem
      exact ends last mem

theorem unbroken_iff : Unbroken log current ↔ ∃ s, Leads s log (some current) := by
  induction log with
  | nil => exact ⟨fun _ => ⟨some current, rfl⟩, fun _ => .nil current⟩
  | cons move rest ih =>
    rw [unbroken_cons]
    constructor
    · intro ⟨first, later, single⟩
      refine ⟨move.1, rfl, ?_⟩
      cases rest with
      | nil => exact congrArg some (single rfl)
      | cons next rest =>
        obtain ⟨s, starts, leads⟩ := ih.mp later
        exact ⟨first next rfl, leads⟩
    · intro ⟨s, starts, leads⟩
      refine ⟨?_, ih.mpr ⟨_, leads⟩, ?_⟩
      · cases rest with
        | nil => exact nofun
        | cons next rest =>
          intro _ mem
          cases mem
          exact leads.1
      · intro empty
        subst empty
        exact Option.some.inj leads

theorem Unbroken.append {log more : List (Move α)} {current later : α}
    (unbroken : Unbroken log current) (leads : Leads (some current) more (some later)) :
    Unbroken (log ++ more) later := by
  obtain ⟨s, before⟩ := unbroken_iff.mp unbroken
  exact unbroken_iff.mpr ⟨s, leads_append.mpr ⟨_, before, leads⟩⟩

/-- An extension that is unbroken leads on, when it starts in the current value
or is empty. -/
theorem Unbroken.leads_on {log more : List (Move α)} {current later : α}
    (unbroken : Unbroken (log ++ more) later) (starts : ∀ move ∈ more.head?, move.1 = some current)
    (kept : more = [] → later = current) : Leads (some current) more (some later) := by
  obtain ⟨s, leads⟩ := unbroken_iff.mp unbroken
  obtain ⟨mid, -, leads⟩ := leads_append.mp leads
  cases more with
  | nil => exact congrArg some (kept rfl).symm
  | cons move rest => exact ⟨starts move rfl, leads.2⟩

/-! ## Moves logged from one snapshot -/

variable [DecidableEq α]

/-- The moves logged for the visits: each from `current`, none for a visit to
`current` itself. -/
def snapshotMoves (current : α) (visits : List α) : List (Move α) :=
  (visits.filter fun visit => visit ≠ current).map fun visit => (some current, visit)

theorem snapshotMoves_cons (current visit : α) (rest : List α) :
    snapshotMoves current (visit :: rest) =
      if visit = current then snapshotMoves current rest
      else (some current, visit) :: snapshotMoves current rest := by
  unfold snapshotMoves
  by_cases same : visit = current <;> simp [same]

theorem snapshotMoves_append (current : α) (first second : List α) :
    snapshotMoves current (first ++ second) =
      snapshotMoves current first ++ snapshotMoves current second := by
  simp [snapshotMoves]

theorem snapshotMoves_source (mem : move ∈ snapshotMoves current visits) :
    move.1 = some current := by
  rcases List.mem_map.mp mem with ⟨_, -, rfl⟩
  rfl

theorem last_of_snapshotMoves_nil (empty : snapshotMoves current visits = []) :
    visits.getLast?.getD current = current := by
  have all : ∀ visit ∈ visits, visit = current := by
    intro visit mem
    have dropped := filter_eq_nil_iff.mp (map_eq_nil_iff.mp empty) visit mem
    simpa using dropped
  cases last : visits.getLast? with
  | none => rfl
  | some visit => exact all visit (mem_of_getLast? last)

theorem leads_snapshotMoves_iff (distinct : visits.Nodup) :
    Leads (some current) (snapshotMoves current visits) (some (visits.getLast?.getD current)) ↔
      visits.Pairwise fun first _ => first = current := by
  induction visits with
  | nil => simp [snapshotMoves, Leads]
  | cons visit rest ih =>
    obtain ⟨notMem, distinctRest⟩ := nodup_cons.mp distinct
    cases rest with
    | nil =>
      by_cases same : visit = current <;> simp [snapshotMoves, Leads, same]
    | cons next rest =>
      rw [getLast?_cons_cons, snapshotMoves_cons, pairwise_cons]
      by_cases same : visit = current
      · rw [if_pos same, ih distinctRest]
        exact ⟨fun later => ⟨fun _ _ => same, later⟩, fun both => both.2⟩
      · rw [if_neg same]
        constructor
        · -- the next move would have to start in the visit, not in the snapshot
          rintro ⟨-, leads⟩
          exfalso
          cases moves : snapshotMoves current (next :: rest) with
          | nil =>
            rw [moves] at leads
            have last : visit = (next :: rest).getLast?.getD current := Option.some.inj leads
            rw [getLast?_eq_some_getLast (cons_ne_nil _ _), Option.getD_some] at last
            exact notMem (last ▸ getLast_mem _)
          | cons move _ =>
            rw [moves] at leads
            have source := snapshotMoves_source (moves ▸ mem_cons_self :
              move ∈ snapshotMoves current (next :: rest))
            exact same (Option.some.inj (leads.1.symm.trans source))
        · rintro ⟨all, -⟩
          exact absurd (all next mem_cons_self) same

end Chain
