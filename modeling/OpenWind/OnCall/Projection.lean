import Mathlib.Data.List.Chain
import OpenWind.OnCall.Rotation

/-!
# Plans and projections

A rotation is planned up to a cap and taken up again where the plan stopped, and projected for
display without a clock.
-/

open List

namespace OpenWind

open PlanWindowsResult

/-- What stays the same during a projection. -/
structure ProjectSettings where
  members : List String
  cycleDays : Nat
  escalationManager : Option String
  endsOn : Option Nat

structure ProjectWindowsInput extends ProjectSettings where
  nextStartsAt : Time
  previous : RotationHolders
  count : Nat

namespace ProjectSettings

def cycleMs (input : ProjectSettings) : Time := input.cycleDays * DAY_MS

def isPastEnd (input : ProjectSettings) (startMs : Time) : Bool :=
  input.endsOn.any fun day => decide (day * DAY_MS + DAY_MS ≤ startMs)

def keptManager (input : ProjectSettings) : Option String :=
  input.escalationManager.filter fun userId => userId != "" && input.members.contains userId

end ProjectSettings

def projectFrom (input : ProjectSettings) :
    Nat → Time → RotationHolders → List GeneratedWindow
  | 0, _, _ => []
  | missing + 1, startMs, previous =>
    if input.isPastEnd startMs then []
    else
      match nextAssignment input.members previous with
      | none => []
      | some next =>
        let endMs := startMs + input.cycleMs
        let window : GeneratedWindow := {
          startsAt := startMs, endsAt := endMs, primary := next.primary, backup := next.backup
          escalationManager := input.keptManager }
        window :: projectFrom input missing endMs next.holders

def projectWindows (input : ProjectWindowsInput) : List GeneratedWindow :=
  projectFrom input.toProjectSettings input.count input.nextStartsAt input.previous

/-! ## The walk, step by step -/

namespace PlanSettings

variable (input : PlanSettings)

/-- A window that starts then is due. -/
def IsDueAt (startMs : Time) : Prop :=
  startMs ≤ input.dueUntilMs ∧ input.isPastEnd startMs = false

/-- The window of a step. -/
def windowFrom (startMs : Time) (previous : RotationHolders) : GeneratedWindow where
  startsAt := startMs
  endsAt := startMs + input.cycleMs
  primary := (assignNext input.members previous).primary
  backup := (assignNext input.members previous).backup
  escalationManager := input.keptManager

end PlanSettings

def PlanWindowsResult.after (rest : PlanWindowsResult) (input : PlanSettings)
    (window : GeneratedWindow) : PlanWindowsResult :=
  if input.isOpen window then { rest with windows := window :: rest.windows }
  else { rest with skippedEnded := rest.skippedEnded + 1 }

theorem PlanWindowsResult.windows_after (rest : PlanWindowsResult) (input : PlanSettings)
    (window : GeneratedWindow) : (rest.after input window).windows =
      if input.now < window.endsAt then window :: rest.windows else rest.windows := by
  unfold after PlanSettings.isOpen
  by_cases isOpen : input.now < window.endsAt
  · rw [if_pos isOpen, if_pos (decide_eq_true isOpen)]
  · rw [if_neg isOpen, if_neg (by rw [decide_eq_false isOpen]; exact Bool.false_ne_true)]

section Walk

variable {input : PlanSettings} {startMs : Time} {previous : RotationHolders}

theorem stepWindows_of_not_due (later : ¬ input.IsDueAt startMs) (left : Nat) :
    stepWindows input left startMs previous = {
      windows := [], skippedEnded := 0, capped := false
      stoppedBy := if startMs ≤ input.dueUntilMs then some .endsOn else none
      cursor := ⟨startMs, previous.primary, previous.backup⟩ } := by
  unfold stepWindows
  by_cases near : startMs ≤ input.dueUntilMs
  · have past : input.isPastEnd startMs := by
      by_contra within
      exact later ⟨near, Bool.eq_false_iff.mpr within⟩
    simp only [if_pos near, if_pos past]
  · simp only [if_neg near]

theorem stepWindows_zero (due : input.IsDueAt startMs) :
    stepWindows input 0 startMs previous = {
      windows := [], skippedEnded := 0, capped := true, stoppedBy := none
      cursor := ⟨startMs, previous.primary, previous.backup⟩ } := by
  have within : ¬ input.isPastEnd startMs := Bool.eq_false_iff.mp due.2
  unfold stepWindows
  simp only [if_pos due.1, if_neg within]

theorem stepWindows_succ (due : input.IsDueAt startMs) (left : Nat) :
    stepWindows input (left + 1) startMs previous =
      (stepWindows input left (startMs + input.cycleMs) (advance input.members previous)).after
        input (input.windowFrom startMs previous) := by
  have within : ¬ input.isPastEnd startMs := Bool.eq_false_iff.mp due.2
  rw [stepWindows.eq_def]
  simp only [if_pos due.1, if_neg within]
  rfl

end Walk

/-! ## Cutting a walk -/

def PlanWindowsResult.followedBy (first later : PlanWindowsResult) : PlanWindowsResult where
  windows := first.windows ++ later.windows
  skippedEnded := first.skippedEnded + later.skippedEnded
  capped := later.capped
  stoppedBy := later.stoppedBy
  cursor := later.cursor

def PlanCursor.holders (cursor : PlanCursor) : RotationHolders :=
  ⟨cursor.lastPrimary, cursor.lastBackup⟩

theorem PlanWindowsResult.after_followedBy (rest later : PlanWindowsResult) (input : PlanSettings)
    (window : GeneratedWindow) :
    (rest.after input window).followedBy later = (rest.followedBy later).after input window := by
  unfold after followedBy
  split
  · rfl
  · rw [Nat.add_right_comm]

theorem PlanWindowsResult.nothing_followedBy {first : PlanWindowsResult}
    (listed : first.windows = []) (skipped : first.skippedEnded = 0) (later : PlanWindowsResult) :
    first.followedBy later = later := by
  unfold followedBy
  rw [listed, skipped, nil_append, Nat.zero_add]

theorem PlanWindowsResult.after_cursor (rest : PlanWindowsResult) (input : PlanSettings)
    (window : GeneratedWindow) : (rest.after input window).cursor = rest.cursor := by
  unfold after
  split
  · rfl
  · rfl

theorem stepWindows_add (input : PlanSettings) (a b : Nat) (startMs : Time)
    (previous : RotationHolders) :
    stepWindows input (a + b) startMs previous =
      (stepWindows input a startMs previous).followedBy
        (stepWindows input b (stepWindows input a startMs previous).cursor.nextStartsAt
          (stepWindows input a startMs previous).cursor.holders) := by
  induction a generalizing startMs previous with
  | zero =>
    by_cases due : input.IsDueAt startMs
    · rw [stepWindows_zero due, nothing_followedBy rfl rfl, Nat.zero_add]
      rfl
    · rw [stepWindows_of_not_due due 0, nothing_followedBy rfl rfl, Nat.zero_add]
      rfl
  | succ a ih =>
    by_cases due : input.IsDueAt startMs
    · rw [Nat.add_right_comm, stepWindows_succ due, stepWindows_succ due, ih,
        after_followedBy, after_cursor]
    · rw [stepWindows_of_not_due due (a + 1), nothing_followedBy rfl rfl]
      rw [stepWindows_of_not_due due (a + 1 + b)]
      exact (stepWindows_of_not_due due b).symm

/-! ## The steps of a walk -/

/-- Where a step leaves the rotation. -/
def PlanCursor.step (_cursor : PlanCursor) (window : GeneratedWindow) : PlanCursor :=
  ⟨window.endsAt, some window.primary, window.backup⟩

structure PlanWindowsResult.Takes (plan : PlanWindowsResult) (input : PlanSettings)
    (start : PlanCursor) (steps : List GeneratedWindow) : Prop where
  listed : plan.windows = steps.filter input.isOpen
  skipped : plan.skippedEnded = steps.countP fun window => !input.isOpen window
  cursor : plan.cursor = steps.foldl PlanCursor.step start

theorem PlanWindowsResult.Takes.after {rest : PlanWindowsResult} {input : PlanSettings}
    {start : PlanCursor} {window : GeneratedWindow} {steps : List GeneratedWindow}
    (takes : rest.Takes input (start.step window) steps) :
    (rest.after input window).Takes input start (window :: steps) := by
  unfold PlanWindowsResult.after
  cases isOpen : input.isOpen window with
  | true =>
    rw [if_pos rfl]
    refine ⟨?_, ?_, takes.cursor⟩
    · rw [filter_cons_of_pos isOpen, ← takes.listed]
    · rw [countP_cons_of_neg (by rw [isOpen]; exact Bool.false_ne_true), ← takes.skipped]
  | false =>
    rw [if_neg Bool.false_ne_true]
    refine ⟨?_, ?_, takes.cursor⟩
    · rw [filter_cons_of_neg (by rw [isOpen]; exact Bool.false_ne_true), ← takes.listed]
    · rw [countP_cons_of_pos (by rw [isOpen]; rfl), ← takes.skipped]

def PlanSettings.projected (input : PlanSettings) (nextStartsAt : Time)
    (previous : RotationHolders) (count : Nat) : ProjectWindowsInput where
  members := input.members
  cycleDays := input.cycleDays
  nextStartsAt := nextStartsAt
  previous := previous
  escalationManager := input.escalationManager
  endsOn := input.endsOn
  count := count

section Steps

variable {input : PlanSettings}

theorem projectWindows_succ (some_ : input.members ≠ []) {startMs : Time}
    (due : input.IsDueAt startMs) (previous : RotationHolders) (count : Nat) :
    projectWindows (input.projected startMs previous (count + 1)) =
      input.windowFrom startMs previous :: projectWindows (input.projected
        (startMs + input.cycleMs) (advance input.members previous) count) := by
  have within : ¬ (input.projected startMs previous (count + 1)).isPastEnd startMs :=
    Bool.eq_false_iff.mp due.2
  have assigned : nextAssignment (input.projected startMs previous (count + 1)).members previous =
      some (assignNext input.members previous) := if_neg some_
  change projectFrom (input.projected startMs previous (count + 1)).toProjectSettings (count + 1)
    startMs previous = _
  rw [projectFrom, if_neg within, assigned]
  rfl

theorem stepWindows_takes (some_ : input.members ≠ []) (left : Nat) (startMs : Time)
    (previous : RotationHolders) :
    ∃ steps, (stepWindows input left startMs previous).Takes input
        ⟨startMs, previous.primary, previous.backup⟩ steps ∧
      ∀ count, steps.take count <+: projectWindows (input.projected startMs previous count) := by
  induction left generalizing startMs previous with
  | zero =>
    refine ⟨[], ?_, fun count => ?_⟩
    · by_cases due : input.IsDueAt startMs
      · rw [stepWindows_zero due]
        exact ⟨rfl, rfl, rfl⟩
      · rw [stepWindows_of_not_due due]
        exact ⟨rfl, rfl, rfl⟩
    · rw [take_nil]
      exact nil_prefix
  | succ left ih =>
    by_cases due : input.IsDueAt startMs
    · obtain ⟨steps, takes, shown⟩ := ih (startMs + input.cycleMs) (advance input.members previous)
      refine ⟨input.windowFrom startMs previous :: steps, ?_, fun count => ?_⟩
      · rw [stepWindows_succ due]
        exact takes.after
      · cases count with
        | zero => exact nil_prefix
        | succ count =>
          rw [projectWindows_succ some_ due, take_succ_cons, prefix_cons_inj]
          exact shown count
    · refine ⟨[], ?_, fun count => ?_⟩
      · rw [stepWindows_of_not_due due]
        exact ⟨rfl, rfl, rfl⟩
      · rw [take_nil]
        exact nil_prefix

end Steps

/-! ## The windows of a plan -/

structure PlanSettings.Tiled (input : PlanSettings) (windows : List GeneratedWindow) : Prop where
  backToBack : windows.IsChain fun window next => next.startsAt = window.endsAt
  oneCycle : ∀ window ∈ windows, window.endsAt = window.startsAt + input.cycleMs
  notOver : ∀ window ∈ windows, input.now < window.endsAt
  inTime : ∀ window ∈ windows, input.isPastEnd window.startsAt = false

theorem PlanSettings.tiled_nil (input : PlanSettings) : input.Tiled [] where
  backToBack := IsChain.nil
  oneCycle _ mem := absurd mem not_mem_nil
  notOver _ mem := absurd mem not_mem_nil
  inTime _ mem := absurd mem not_mem_nil

theorem PlanSettings.Tiled.cons {input : PlanSettings} {startMs : Time}
    {previous : RotationHolders} {windows : List GeneratedWindow} (tiled : input.Tiled windows)
    (due : input.IsDueAt startMs) (isOpen : input.now < startMs + input.cycleMs)
    (adjoins : ∀ window ∈ windows.head?, window.startsAt = startMs + input.cycleMs) :
    input.Tiled (input.windowFrom startMs previous :: windows) where
  backToBack := isChain_cons.mpr ⟨adjoins, tiled.backToBack⟩
  oneCycle := forall_mem_cons.mpr ⟨rfl, tiled.oneCycle⟩
  notOver := forall_mem_cons.mpr ⟨isOpen, tiled.notOver⟩
  inTime := forall_mem_cons.mpr ⟨due.2, tiled.inTime⟩

theorem stepWindows_tiled (input : PlanSettings) (left : Nat) (startMs : Time)
    (previous : RotationHolders) :
    input.Tiled (stepWindows input left startMs previous).windows ∧
      (input.now < startMs + input.cycleMs →
        ∀ window ∈ (stepWindows input left startMs previous).windows.head?,
          window.startsAt = startMs) := by
  induction left generalizing startMs previous with
  | zero =>
    have none_ : (stepWindows input 0 startMs previous).windows = [] := by
      by_cases due : input.IsDueAt startMs
      · rw [stepWindows_zero due]
      · rw [stepWindows_of_not_due due]
    rw [none_]
    exact ⟨input.tiled_nil, fun _ window mem => nomatch mem⟩
  | succ left ih =>
    by_cases due : input.IsDueAt startMs
    · obtain ⟨tiled, adjoins⟩ := ih (startMs + input.cycleMs) (advance input.members previous)
      have ends : (input.windowFrom startMs previous).endsAt = startMs + input.cycleMs := rfl
      rw [stepWindows_succ due, windows_after, ends]
      by_cases isOpen : input.now < startMs + input.cycleMs
      · rw [if_pos isOpen]
        refine ⟨tiled.cons due isOpen (adjoins (Nat.lt_add_right _ isOpen)), fun _ window mem => ?_⟩
        obtain rfl := Option.some.inj mem
        rfl
      · rw [if_neg isOpen]
        exact ⟨tiled, fun listed => absurd listed isOpen⟩
    · rw [stepWindows_of_not_due due]
      exact ⟨input.tiled_nil, fun _ window mem => nomatch mem⟩

/-! ## Plans -/

def PlanWindowsInput.resumedFrom (input : PlanWindowsInput) (cursor : PlanCursor) : PlanWindowsInput :=
  { input with nextStartsAt := cursor.nextStartsAt, previous := cursor.holders }

def PlanWindowsInput.start (input : PlanWindowsInput) : PlanCursor :=
  ⟨input.nextStartsAt, input.previous.primary, input.previous.backup⟩

/-- A plan with the cap `a + b` is the plan with the cap `a` and, from its cursor on, the one
with the cap `b`.  Its steps are the first windows of the projection, and the windows that it
lists are back to back, one cycle long, not over and in time. -/
theorem window_planning (input : PlanWindowsInput) (a b : Nat) :
    planWindows input (a + b) = (planWindows input a).followedBy
        (planWindows (input.resumedFrom (planWindows input a).cursor) b) ∧
      (∃ steps, (planWindows input a).Takes input.toPlanSettings input.start steps ∧
        ∀ count, steps.take count <+: projectWindows
          (input.projected input.nextStartsAt input.previous count)) ∧
      input.Tiled (planWindows input a).windows := by
  by_cases empty : input.members = []
  · have planned (cap : Nat) : planWindows input cap = {
        windows := [], skippedEnded := 0, capped := false, stoppedBy := some .noMembers
        cursor := input.start } := if_pos empty
    have resumed : planWindows (input.resumedFrom input.start) b = {
        windows := [], skippedEnded := 0, capped := false, stoppedBy := some .noMembers
        cursor := input.start } := if_pos empty
    rw [planned, planned]
    refine ⟨?_, ⟨[], ⟨rfl, rfl, rfl⟩, fun count => ?_⟩, input.tiled_nil⟩
    · rw [resumed]
      rfl
    · rw [take_nil]
      exact nil_prefix
  · have planned (from_ : PlanWindowsInput) (same : from_.members = input.members) (cap : Nat) :
        planWindows from_ cap = stepWindows from_.toPlanSettings cap from_.nextStartsAt
          from_.previous := by
      unfold planWindows
      rw [if_neg (same ▸ empty)]
    rw [planned input rfl, planned input rfl, planned (input.resumedFrom _) rfl]
    exact ⟨stepWindows_add input.toPlanSettings a b _ _, stepWindows_takes empty a _ _,
      (stepWindows_tiled input.toPlanSettings a _ _).1⟩

end OpenWind
