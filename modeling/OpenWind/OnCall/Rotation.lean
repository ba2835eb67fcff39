import Mathlib.Logic.Function.Iterate
import OpenWind.Schema

/-!
# Rotation rules
-/

open List

namespace OpenWind

def ROTATION_MIN_CYCLE_DAYS : Nat := 3
def ROTATION_MAX_CYCLE_DAYS : Nat := 90
def ROTATION_MAX_STEPS_PER_RUN : Nat := 52
def DAY_MS : Time := 24 * 60 * 60 * 1000
def ROTATION_NOTICE_LEAD_MS : Time := 2 * DAY_MS

structure RotationHolders where
  primary : Option String
  backup : Option String

structure NextAssignment where
  primary : String
  backup : Option String

def NextAssignment.holders (next : NextAssignment) : RotationHolders :=
  ⟨some next.primary, next.backup⟩

def placeOf (members : List String) (previous : Option String) : Option Nat :=
  (previous.filter fun userId => userId != "").bind members.idxOf?

def placeAfter (members : List String) (previous : Option String) : Nat :=
  match placeOf members previous with
  | none => 0
  | some place => (place + 1) % members.length

/-- Who takes over in a team that has members. -/
def assignNext (members : List String) (previous : RotationHolders) : NextAssignment :=
  let primaryIdx := placeAfter members previous.primary
  let primary := members.getD primaryIdx ""
  if members.length = 1 then { primary, backup := none }
  else
    let backupIdx :=
      if previous.backup = none then (primaryIdx + 1) % members.length
      else placeAfter members previous.backup
    let backupIdx :=
      if members.getD backupIdx "" = primary then (backupIdx + 1) % members.length else backupIdx
    { primary, backup := some (members.getD backupIdx "") }

def nextAssignment (members : List String) (previous : RotationHolders) : Option NextAssignment :=
  if members = [] then none else some (assignNext members previous)

structure GeneratedWindow where
  startsAt : Time
  endsAt : Time
  primary : String
  backup : Option String
  escalationManager : Option String
  deriving DecidableEq

structure PlanSettings where
  members : List String
  cycleDays : Nat
  escalationManager : Option String
  now : Time
  endsOn : Option Nat

structure PlanWindowsInput extends PlanSettings where
  nextStartsAt : Time
  previous : RotationHolders

inductive StoppedBy
  | noMembers
  | endsOn
  deriving DecidableEq

structure PlanCursor where
  nextStartsAt : Time
  lastPrimary : Option String
  lastBackup : Option String

structure PlanWindowsResult where
  windows : List GeneratedWindow
  skippedEnded : Nat
  capped : Bool
  stoppedBy : Option StoppedBy
  cursor : PlanCursor

namespace PlanSettings

def cycleMs (input : PlanSettings) : Time := input.cycleDays * DAY_MS

def dueUntilMs (input : PlanSettings) : Time := input.now + ROTATION_NOTICE_LEAD_MS

def isPastEnd (input : PlanSettings) (startMs : Time) : Bool :=
  input.endsOn.any fun day => decide (day * DAY_MS + DAY_MS ≤ startMs)

def keptManager (input : PlanSettings) : Option String :=
  input.escalationManager.filter fun userId => userId != "" && input.members.contains userId

/-- A window that is over is not listed. -/
def isOpen (input : PlanSettings) (window : GeneratedWindow) : Bool :=
  decide (input.now < window.endsAt)

end PlanSettings

def stepWindows (input : PlanSettings) (left : Nat) (startMs : Time) (previous : RotationHolders) :
    PlanWindowsResult :=
  let stopped (capped : Bool) (stoppedBy : Option StoppedBy) : PlanWindowsResult :=
    { windows := [], skippedEnded := 0, capped, stoppedBy
      cursor := ⟨startMs, previous.primary, previous.backup⟩ }
  if startMs ≤ input.dueUntilMs then
    if input.isPastEnd startMs then stopped false (some .endsOn)
    else
      match left with
      | 0 => stopped true none
      | left + 1 =>
        let next := assignNext input.members previous
        let endMs := startMs + input.cycleMs
        let window : GeneratedWindow := {
          startsAt := startMs, endsAt := endMs, primary := next.primary, backup := next.backup
          escalationManager := input.keptManager }
        let rest := stepWindows input left endMs next.holders
        if input.isOpen window then { rest with windows := window :: rest.windows }
        else { rest with skippedEnded := rest.skippedEnded + 1 }
  else stopped false none

def planWindows (input : PlanWindowsInput) (maxSteps : Nat := ROTATION_MAX_STEPS_PER_RUN) :
    PlanWindowsResult :=
  if input.members = [] then
    { windows := [], skippedEnded := 0, capped := false, stoppedBy := some .noMembers
      cursor := ⟨input.nextStartsAt, input.previous.primary, input.previous.backup⟩ }
  else stepWindows input.toPlanSettings maxSteps input.nextStartsAt input.previous

example : (planWindows {
    members := ["a", "b", "c"], cycleDays := 7, nextStartsAt := 0, previous := ⟨some "a", some "b"⟩
    escalationManager := some "c", now := 26 * DAY_MS, endsOn := none }).windows.map
      (fun window => (window.startsAt, window.primary, window.backup)) =
    [(21 * DAY_MS, "b", some "c"), (28 * DAY_MS, "c", some "a")] := by decide +kernel

/-! ## The steps of a plan -/

/-- The holders after a step. -/
def advance (members : List String) (previous : RotationHolders) : RotationHolders :=
  (assignNext members previous).holders

namespace PlanWindowsInput

variable (input : PlanWindowsInput)

/-- The start of the window of a step. -/
def startAt (i : Nat) : Time := input.nextStartsAt + i * input.cycleMs

/-- The holders before a step. -/
def holdersAt (i : Nat) : RotationHolders := (advance input.members)^[i] input.previous

/-- The window of a step. -/
def windowAt (i : Nat) : GeneratedWindow :=
  let next := assignNext input.members (input.holdersAt i)
  { startsAt := input.startAt i, endsAt := input.startAt (i + 1), primary := next.primary
    backup := next.backup, escalationManager := input.keptManager }

def IsDue (i : Nat) : Prop :=
  input.startAt i ≤ input.dueUntilMs ∧ input.isPastEnd (input.startAt i) = false

theorem startAt_zero : input.startAt 0 = input.nextStartsAt := by
  unfold startAt
  rw [Nat.zero_mul, Nat.add_zero]

theorem startAt_succ (i : Nat) : input.startAt (i + 1) = input.startAt i + input.cycleMs := by
  unfold startAt
  generalize input.cycleMs = cycleMs
  rw [Nat.succ_mul, Nat.add_assoc]

theorem startAt_add (i j : Nat) : input.startAt (i + j) = input.startAt i + j * input.cycleMs := by
  unfold startAt
  generalize input.cycleMs = cycleMs
  rw [Nat.add_mul, Nat.add_assoc]

theorem startAt_mono {i j : Nat} (le : i ≤ j) : input.startAt i ≤ input.startAt j :=
  Nat.add_le_add_left (Nat.mul_le_mul_right _ le) _

theorem holdersAt_succ (i : Nat) :
    input.holdersAt (i + 1) = (assignNext input.members (input.holdersAt i)).holders := by
  unfold holdersAt
  rw [Function.iterate_succ_apply']
  rfl

theorem isPastEnd_mono {start later : Time} (le : start ≤ later)
    (past : input.isPastEnd start) : input.isPastEnd later := by
  unfold PlanSettings.isPastEnd at past ⊢
  rw [Option.any_eq_true] at past ⊢
  obtain ⟨day, ends, before⟩ := past
  exact ⟨day, ends, decide_eq_true (Nat.le_trans (of_decide_eq_true before) le)⟩

theorem IsDue.of_le {i j : Nat} (due : input.IsDue j) (le : i ≤ j) : input.IsDue i := by
  refine ⟨Nat.le_trans (input.startAt_mono le) due.1, Bool.eq_false_iff.mpr fun past => ?_⟩
  have later := input.isPastEnd_mono (input.startAt_mono le) past
  rw [due.2] at later
  cases later

end PlanWindowsInput

structure PlanWindowsResult.Steps (input : PlanWindowsInput) (left k n : Nat)
    (plan : PlanWindowsResult) : Prop where
  le : n ≤ left
  due : ∀ i, k ≤ i → i < k + n → input.IsDue i
  windows : plan.windows = ((range' k n).map input.windowAt).filter input.isOpen
  skipped : plan.skippedEnded + plan.windows.length = n
  cursor : plan.cursor =
    ⟨input.startAt (k + n), (input.holdersAt (k + n)).primary, (input.holdersAt (k + n)).backup⟩
  stops : plan.capped = true ∧ n = left ∧ input.IsDue (k + n) ∨
    plan.capped = false ∧ ¬ input.IsDue (k + n)

theorem PlanWindowsResult.Steps.stopped {input : PlanWindowsInput} {left k : Nat}
    {plan : PlanWindowsResult} (windows : plan.windows = []) (skipped : plan.skippedEnded = 0)
    (cursor : plan.cursor =
      ⟨input.startAt k, (input.holdersAt k).primary, (input.holdersAt k).backup⟩)
    (stops : plan.capped ∧ 0 = left ∧ input.IsDue k ∨ plan.capped = false ∧ ¬ input.IsDue k) :
    plan.Steps input left k 0 := by
  refine ⟨Nat.zero_le _, fun i from_ before => ?_, windows, ?_, cursor, stops⟩
  · exact absurd before (Nat.not_lt.mpr from_)
  · rw [skipped, windows]
    rfl

theorem stepWindows_spec (input : PlanWindowsInput) (left k : Nat) :
    ∃ n, (stepWindows input.toPlanSettings left (input.startAt k) (input.holdersAt k)).Steps input
      left k n := by
  induction left generalizing k with
  | zero =>
    refine ⟨0, ?_⟩
    unfold stepWindows
    dsimp only
    split
    · next due =>
      split
      · next past =>
        exact .stopped rfl rfl rfl (Or.inr ⟨rfl, fun is => nomatch is.2.symm.trans past⟩)
      · next within =>
        exact .stopped rfl rfl rfl (Or.inl ⟨rfl, rfl, due, Bool.eq_false_iff.mpr within⟩)
    · next later =>
      exact .stopped rfl rfl rfl (Or.inr ⟨rfl, fun is => later is.1⟩)
  | succ left ih =>
    unfold stepWindows
    dsimp only
    split
    · next due =>
      split
      · next past =>
        exact ⟨0, .stopped rfl rfl rfl (Or.inr ⟨rfl, fun is => nomatch is.2.symm.trans past⟩)⟩
      · next within =>
        obtain ⟨n, rest⟩ := ih (k + 1)
        rw [← input.startAt_succ, ← input.holdersAt_succ]
        have dues : ∀ i, k ≤ i → i < k + (n + 1) → input.IsDue i := by
          intro i from_ before
          rcases Nat.eq_or_lt_of_le from_ with rfl | after
          · exact ⟨due, Bool.eq_false_iff.mpr within⟩
          · exact rest.due i after (by omega)
        have more : k + 1 + n = k + (n + 1) := by omega
        obtain ⟨le, _, windows, skipped, cursor, stops⟩ := rest
        rw [more] at cursor stops
        have stops' : ∀ plan : PlanWindowsResult, plan.capped = (stepWindows input.toPlanSettings left
            (input.startAt (k + 1)) (input.holdersAt (k + 1))).capped →
            plan.capped ∧ n + 1 = left + 1 ∧ input.IsDue (k + (n + 1)) ∨
              plan.capped = false ∧ ¬ input.IsDue (k + (n + 1)) := by
          intro plan same
          rw [same]
          exact stops.imp_left fun ⟨capped, all, due⟩ => ⟨capped, congrArg Nat.succ all, due⟩
        refine ⟨n + 1, ?_⟩
        split
        · next open_ =>
          refine ⟨Nat.succ_le_succ le, dues, ?_, ?_, cursor, stops' _ rfl⟩
          · have listed : input.isOpen (input.windowAt k) := open_
            rw [range'_succ, map_cons, filter_cons_of_pos listed, ← windows]
            rfl
          · dsimp only
            rw [length_cons]
            omega
        · next elapsed =>
          refine ⟨Nat.succ_le_succ le, dues, ?_, ?_, cursor, stops' _ rfl⟩
          · have ended : ¬ input.isOpen (input.windowAt k) := elapsed
            rw [range'_succ, map_cons, filter_cons_of_neg ended, ← windows]
          · dsimp only
            omega
    · next later =>
      exact ⟨0, .stopped rfl rfl rfl (Or.inr ⟨rfl, fun is => later is.1⟩)⟩

/-- The input after some steps. -/
def PlanWindowsInput.resumed (input : PlanWindowsInput) (k : Nat) : PlanWindowsInput :=
  { input with nextStartsAt := input.startAt k, previous := input.holdersAt k }

theorem planWindows_spec (input : PlanWindowsInput) (maxSteps k : Nat) :
    (input.members = [] ∧ (planWindows (input.resumed k) maxSteps).windows = [] ∧
        (planWindows (input.resumed k) maxSteps).capped = false ∧
        (planWindows (input.resumed k) maxSteps).cursor =
          ⟨input.startAt k, (input.holdersAt k).primary, (input.holdersAt k).backup⟩) ∨
      (input.members ≠ [] ∧
        ∃ n, (planWindows (input.resumed k) maxSteps).Steps input maxSteps k n) := by
  by_cases empty : input.members = []
  · left
    have plan : planWindows (input.resumed k) maxSteps = {
        windows := [], skippedEnded := 0, capped := false, stoppedBy := some .noMembers
        cursor := ⟨input.startAt k, (input.holdersAt k).primary, (input.holdersAt k).backup⟩ } := by
      unfold planWindows PlanWindowsInput.resumed
      rw [if_pos empty]
    rw [plan]
    exact ⟨empty, rfl, rfl, rfl⟩
  · right
    have plan : planWindows (input.resumed k) maxSteps =
      stepWindows input.toPlanSettings maxSteps (input.startAt k) (input.holdersAt k) := by
      unfold planWindows PlanWindowsInput.resumed
      rw [if_neg empty]
    rw [plan]
    exact ⟨empty, stepWindows_spec input maxSteps k⟩

theorem PlanWindowsInput.resumed_zero (input : PlanWindowsInput) : input.resumed 0 = input := by
  have holders : input.holdersAt 0 = input.previous := rfl
  unfold resumed
  rw [input.startAt_zero, holders]

/-! ## Walks without a cap -/

def uncappedWalk (input : PlanWindowsInput) : PlanWindowsResult :=
  planWindows input (input.dueUntilMs + 1)

namespace PlanWindowsInput

variable (input : PlanWindowsInput)

theorem cycleMs_pos (cycle : 0 < input.cycleDays) : 0 < input.cycleMs :=
  Nat.mul_pos cycle (by decide)

theorem le_startAt (cycle : 0 < input.cycleDays) (i : Nat) : i ≤ input.startAt i :=
  Nat.le_trans (Nat.le_mul_of_pos_right i (input.cycleMs_pos cycle)) (Nat.le_add_left _ _)

theorem startAt_lt (cycle : 0 < input.cycleDays) {i j : Nat} (lt : i < j) :
    input.startAt i < input.startAt j := by
  refine Nat.lt_of_lt_of_le ?_ (input.startAt_mono lt)
  rw [input.startAt_succ]
  exact Nat.lt_add_of_pos_right (input.cycleMs_pos cycle)

end PlanWindowsInput

theorem uncappedWalk_capped (input : PlanWindowsInput) (cycle : 0 < input.cycleDays) :
    (uncappedWalk input).capped = false := by
  have spec := planWindows_spec input (input.dueUntilMs + 1) 0
  rw [input.resumed_zero] at spec
  rcases spec with ⟨_, _, not, _⟩ | ⟨_, n, steps⟩
  · exact not
  · rcases steps.stops with ⟨_, all, due⟩ | ⟨not, _⟩
    · have far := input.le_startAt cycle (0 + n)
      have near := due.1
      rw [Nat.zero_add, all] at far near
      exact absurd (Nat.le_trans far near) (Nat.not_succ_le_self _)
    · exact not

theorem mem_uncappedWalk {input : PlanWindowsInput} (cycle : 0 < input.cycleDays)
    {window : GeneratedWindow} :
    window ∈ (uncappedWalk input).windows ↔ input.members ≠ [] ∧
      ∃ i, input.IsDue i ∧ input.isOpen window ∧ input.windowAt i = window := by
  have uncapped := uncappedWalk_capped input cycle
  have spec := planWindows_spec input (input.dueUntilMs + 1) 0
  rw [input.resumed_zero] at spec
  unfold uncappedWalk at uncapped ⊢
  rcases spec with ⟨empty, none_, _⟩ | ⟨some_, n, steps⟩
  · rw [none_]
    exact ⟨fun mem => absurd mem not_mem_nil, fun ⟨some_, _⟩ => absurd empty some_⟩
  · rw [steps.windows, mem_filter, mem_map]
    constructor
    · rintro ⟨⟨i, mem, is⟩, listed⟩
      obtain ⟨from_, before⟩ := mem_range'_1.mp mem
      exact ⟨some_, i, steps.due i from_ before, listed, is⟩
    · rintro ⟨_, i, due, listed, is⟩
      refine ⟨⟨i, mem_range'_1.mpr ⟨Nat.zero_le _, ?_⟩, is⟩, listed⟩
      by_contra after
      rcases steps.stops with ⟨capped, _⟩ | ⟨_, stopped⟩
      · cases uncapped.symm.trans capped
      · exact stopped (PlanWindowsInput.IsDue.of_le input due (Nat.le_of_not_lt after))

end OpenWind
