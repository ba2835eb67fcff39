import OpenWind.OnCall.Generator
import OpenWind.Lib.Runs

/-!
# Windows do not depend on the ticks
-/

open List Option Bool Function

namespace OpenWind

open Runs PlanWindowsInput OnCallRotation

def OnCallSchedule.toWindow (row : OnCallSchedule) : GeneratedWindow :=
  ⟨row.startsAt, row.endsAt, row.primaryUserId, row.backupUserId, row.escalationManagerUserId⟩

def OnCallRotation.origin (r : OnCallRotation) (initial : RosterDb) (now : Time) :
    PlanWindowsInput where
  toPlanSettings := r.settings initial now
  nextStartsAt := r.nextStartsAt
  previous := ⟨some r.lastPrimaryUserId, r.lastBackupUserId⟩

namespace OnCallRotation

variable (r : OnCallRotation) (initial : RosterDb)

theorem cycleDays_pos : 0 < r.cycleDays := Nat.lt_of_lt_of_le (by decide) r.cycle.1

theorem origin_startAt (now i : Nat) :
    (r.origin initial now).startAt i = (r.origin initial 0).startAt i := by
  unfold startAt PlanSettings.cycleMs origin settings
  rfl

theorem origin_windowAt (now i : Nat) :
    (r.origin initial now).windowAt i = (r.origin initial 0).windowAt i := by
  unfold windowAt
  rw [r.origin_startAt, r.origin_startAt initial now]
  unfold holdersAt PlanSettings.keptManager origin settings
  rfl

theorem origin_holdersAt (now i : Nat) :
    (r.origin initial now).holdersAt i = (r.origin initial 0).holdersAt i := by
  unfold holdersAt origin settings
  rfl

theorem origin_holdersAt_some (i : Nat) :
    ∃ primary backup, (r.origin initial 0).holdersAt i = ⟨some primary, backup⟩ := by
  cases i with
  | zero => exact ⟨_, _, rfl⟩
  | succ i =>
    rw [holdersAt_succ]
    exact ⟨_, _, rfl⟩

theorem settings_isPastEnd (now : Nat) (start : Time) :
    (r.settings initial now).isPastEnd start = (r.settings initial 0).isPastEnd start := by
  unfold PlanSettings.isPastEnd settings
  rfl

end OnCallRotation

/-! ## The windows that are made -/

theorem untilClash_prefix (toISOString : Time → String) (db : RosterDb) (teamId : Id)
    (windows : List GeneratedWindow) :
    ∃ later, windows = (untilClash toISOString db teamId windows).1 ++ later ∧
      ((untilClash toISOString db teamId windows).2 = none → later = []) := by
  induction windows with
  | nil => exact ⟨[], rfl, fun _ => rfl⟩
  | cons w rest ih =>
    obtain ⟨later, split_, all⟩ := ih
    cases clash : clashWith db teamId w with
    | some row =>
      refine ⟨w :: rest, ?_, ?_⟩
      · simp only [untilClash, clash]
        rfl
      · simp only [untilClash, clash]
        exact fun none_ => nomatch none_
    | none =>
      refine ⟨later, ?_, ?_⟩
      · simp only [untilClash, clash]
        exact congrArg (w :: ·) split_
      · simp only [untilClash, clash]
        exact all

section Inserts

variable {toISOString : Time → String} {rotation : OnCallRotation}

theorem insertWindow_cases (schedules : List OnCallSchedule) (w : GeneratedWindow) :
    ∃ added, insertWindow toISOString rotation schedules w = schedules ++ added ∧
      (added = [] ∨ added = [rotation.scheduleOf toISOString w]) := by
  unfold insertWindow
  split
  · exact ⟨[], (append_nil _).symm, Or.inl rfl⟩
  · exact ⟨_, rfl, Or.inr rfl⟩

theorem foldl_insertWindow (windows : List GeneratedWindow) (schedules : List OnCallSchedule) :
    ∃ added, windows.foldl (insertWindow toISOString rotation) schedules = schedules ++ added ∧
      ∀ row ∈ added, row.rotationId = some rotation.id ∧ row.deletedAt = none := by
  induction windows generalizing schedules with
  | nil => exact ⟨[], (append_nil _).symm, fun row mem => absurd mem not_mem_nil⟩
  | cons w rest ih =>
    rw [foldl_cons]
    obtain ⟨first, inserted, is⟩ := insertWindow_cases schedules w
    obtain ⟨added, rows, of⟩ := ih (insertWindow toISOString rotation schedules w)
    refine ⟨first ++ added, ?_, ?_⟩
    · rw [rows, inserted, append_assoc]
    · intro row mem
      rcases mem_append.mp mem with here | later
      · rcases is with rfl | rfl
        · exact absurd here not_mem_nil
        · cases mem_singleton.mp here
          exact ⟨rfl, rfl⟩
      · exact of row later

theorem foldl_insertWindow_all {windows : List GeneratedWindow} {schedules : List OnCallSchedule}
    (after : ∀ w ∈ windows, ∀ row ∈ schedules, row.rotationId = some rotation.id →
      row.startsAt < w.startsAt)
    (sorted : windows.Pairwise fun w w' => w.startsAt < w'.startsAt) :
    windows.foldl (insertWindow toISOString rotation) schedules =
      schedules ++ windows.map (rotation.scheduleOf toISOString) := by
  induction windows generalizing schedules with
  | nil => exact (append_nil _).symm
  | cons w rest ih =>
    obtain ⟨first, later⟩ := pairwise_cons.mp sorted
    have new : insertWindow toISOString rotation schedules w =
        schedules ++ [rotation.scheduleOf toISOString w] := by
      refine if_neg fun clash => ?_
      obtain ⟨row, mem, is⟩ := List.any_eq_true.mp clash
      obtain ⟨own, same⟩ := and_eq_true_iff.mp is
      have before := after w mem_cons_self row mem (beq_iff_eq.mp own)
      rw [beq_iff_eq.mp same] at before
      exact Nat.lt_irrefl _ before
    rw [foldl_cons, new, ih ?_ later, append_assoc]
    · rfl
    · intro w' mem row there own
      rcases mem_append.mp there with old | here
      · exact after w' (mem_cons_of_mem _ mem) row old own
      · cases mem_singleton.mp here
        exact first w' mem

end Inserts

theorem walk_prefix {f : Nat → GeneratedWindow} {p : GeneratedWindow → Bool} {k n : Nat}
    {toCreate later : List GeneratedWindow} {last : GeneratedWindow}
    (split_ : ((range' k n).map f).filter p = toCreate ++ later)
    (ends : toCreate.getLast? = some last) :
    ∃ m < n, f (k + m) = last ∧ toCreate = ((range' k (m + 1)).map f).filter p := by
  obtain ⟨before, rfl⟩ := getLast?_eq_some_iff.mp ends
  rw [append_assoc] at split_
  obtain ⟨first, second, whole, firsts, seconds⟩ := filter_eq_append_iff.mp split_
  obtain ⟨skipped, rest, parts, elapsed, listed, _⟩ := filter_eq_cons_iff.mp seconds
  rw [parts, ← append_assoc] at whole
  obtain ⟨left, right, steps, lefts, rights⟩ := map_eq_append_iff.mp whole
  obtain ⟨m, le, rfl, rfl⟩ := range'_eq_append_iff.mp steps
  obtain ⟨i, tail, cons, here, _⟩ := map_eq_cons_iff.mp rights
  obtain ⟨rfl, pos, _⟩ := range'_eq_cons_iff.mp cons
  rw [Nat.mul_one] at here
  refine ⟨m, by omega, here, ?_⟩
  rw [range'_concat, map_append, filter_append, lefts, filter_append, firsts,
    filter_eq_nil_iff.mpr elapsed, append_nil, Nat.one_mul, map_singleton, here,
    filter_cons_of_pos listed, filter_nil]

/-! ## The way of a rotation -/

def RosterDb.outruns (db : RosterDb) (tick : RosterTick) : Bool :=
  !tick.lockedElsewhere && (db.activeRotation tick.rotationId).any fun rotation =>
    db.hasTeam rotation.teamId && !(loadTeamMemberIds db rotation.teamId).isEmpty &&
      (latestWindow db rotation.id).isSome &&
      let cappedAt := rotation.nextStartsAt +
        ROTATION_MAX_STEPS_PER_RUN * (rotation.settings db tick.now).cycleMs
      decide (cappedAt ≤ tick.now) && !(rotation.settings db tick.now).isPastEnd cappedAt

structure RosterDb.Begins (initial : RosterDb) (r : OnCallRotation) : Prop where
  active : initial.activeRotation r.id = some r
  before : ∀ row ∈ initial.schedules, row.rotationId = some r.id → row.startsAt < r.nextStartsAt
  holders : loadPreviousHolders initial r = ⟨some r.lastPrimaryUserId, r.lastBackupUserId⟩

/-- The generator has come to step `k` of the plan from the initial cursor. -/
structure RosterState.At (initial : RosterDb) (r : OnCallRotation) (w : RosterState) (k : Nat)
    (current : OnCallRotation) : Prop where
  found : w.db.activeRotation r.id = some current
  id : current.id = r.id
  settings : ∀ now, current.settings w.db now = r.settings initial now
  members : w.db.teamMembers = initial.teamMembers
  next : current.nextStartsAt = (r.origin initial 0).startAt k
  holders : (r.settings initial 0).isPastEnd current.nextStartsAt = true ∨
    loadPreviousHolders w.db current = (r.origin initial 0).holdersAt k
  before : ∀ row ∈ w.db.schedules, row.rotationId = some r.id → row.startsAt < current.nextStartsAt
  fresh : w.ticked r.id = none → k = 0
  made : ∀ now row, (now, row) ∈ w.made → row.rotationId = some r.id →
    row.toWindow ∈ (uncappedWalk (r.origin initial now)).windows
  walked : ∀ last, w.ticked r.id = some last → ∀ i < k, last < (r.origin initial 0).startAt (i + 1) →
    ∃ row ∈ w.db.schedules, row.rotationId = some r.id ∧
      row.toWindow = (r.origin initial 0).windowAt i

/-- What a tick makes and where it leaves the cursor, when it takes `n` steps. -/
structure Progress (initial : RosterDb) (r : OnCallRotation) (now : Time) (db : RosterDb)
    (current : OnCallRotation) (k n : Nat) (toCreate : List GeneratedWindow) (cursor : PlanCursor) :
    Prop where
  windows : toCreate =
    ((range' k n).map (r.origin initial 0).windowAt).filter (r.settings initial now).isOpen
  due : ∀ i, k ≤ i → i < k + n → (r.origin initial now).IsDue i
  members : 0 < n → (r.origin initial now).members ≠ []
  next : cursor.nextStartsAt = (r.origin initial 0).startAt (k + n)
  holders : (r.settings initial 0).isPastEnd cursor.nextStartsAt = true ∨
    (latestWindow db current.id = none → RotationHolders.mk
        (some (cursor.lastPrimary.getD current.lastPrimaryUserId)) cursor.lastBackup =
          (r.origin initial 0).holdersAt (k + n)) ∧
      (toCreate = [] → latestWindow db current.id ≠ none → n = 0)

section Progress

variable {initial : RosterDb} {r : OnCallRotation} {w : RosterState} {k : Nat}
  {current : OnCallRotation} {toISOString : Time → String} {now : Time}

theorem RosterState.At.progress_past (at_ : w.At initial r k current)
    (past : (r.settings initial 0).isPastEnd current.nextStartsAt) :
    (planFor w.db current now).windows = [] ∧
      (planFor w.db current now).cursor.nextStartsAt = current.nextStartsAt := by
  have spec := planWindows_spec ⟨current.settings w.db now, current.nextStartsAt,
    loadPreviousHolders w.db current⟩ ROTATION_MAX_STEPS_PER_RUN 0
  rw [resumed_zero] at spec
  unfold planFor
  rcases spec with ⟨_, windows, _, cursor⟩ | ⟨_, n, steps⟩
  · rw [cursor]
    exact ⟨windows, startAt_zero _⟩
  · have none_ : n = 0 := by
      by_contra some_
      have due := (steps.due 0 (Nat.le_refl _) (by omega)).2
      rw [startAt_zero, at_.settings] at due
      have open_ : (r.settings initial now).isPastEnd current.nextStartsAt = false := due
      rw [r.settings_isPastEnd, past] at open_
      cases open_
    subst none_
    rw [steps.windows, steps.cursor]
    exact ⟨rfl, startAt_zero _⟩

theorem untilClash_nil (toISOString : Time → String) (db : RosterDb) (teamId : Id) :
    untilClash toISOString db teamId [] = ([], none) := rfl

section

variable (at_ : w.At initial r k current)

include at_

theorem RosterState.At.input
    (holders : loadPreviousHolders w.db current = (r.origin initial 0).holdersAt k) :
    planFor w.db current now =
      planWindows ((r.origin initial now).resumed k) ROTATION_MAX_STEPS_PER_RUN := by
  unfold planFor resumed
  rw [at_.settings, at_.next, holders, r.origin_startAt, r.origin_holdersAt]
  rfl

theorem RosterState.At.stays :
    Progress initial r now w.db current k 0 []
      ⟨current.nextStartsAt, some current.lastPrimaryUserId, current.lastBackupUserId⟩ := by
  refine ⟨rfl, fun i from_ before => absurd before (Nat.not_lt.mpr from_), nofun, at_.next, ?_⟩
  rcases at_.holders with past | holders
  · exact Or.inl past
  · refine Or.inr ⟨fun none_ => Eq.trans ?_ holders, fun _ _ => rfl⟩
    unfold loadPreviousHolders
    rw [none_]
    rfl

/-- The tick outruns its plan. -/
theorem RosterState.At.outruns
    (team : w.db.hasTeam current.teamId) (some_ : (r.origin initial now).members ≠ [])
    (latest : latestWindow w.db current.id ≠ none)
    (elapsed : (r.origin initial 0).startAt (k + ROTATION_MAX_STEPS_PER_RUN) ≤ now)
    (within : ¬ (r.settings initial 0).isPastEnd
      ((r.origin initial 0).startAt (k + ROTATION_MAX_STEPS_PER_RUN))) :
    w.db.outruns ⟨r.id, now, false⟩ := by
  have capped : (r.origin initial 0).startAt (k + ROTATION_MAX_STEPS_PER_RUN) =
      current.nextStartsAt + ROTATION_MAX_STEPS_PER_RUN * (r.settings initial now).cycleMs := by
    rw [startAt_add, at_.next]
    rfl
  have members : loadTeamMemberIds w.db current.teamId = (r.origin initial now).members :=
    congrArg PlanSettings.members (at_.settings now)
  rw [capped] at elapsed within
  unfold RosterDb.outruns
  rw [at_.found, any_some, team, members]
  dsimp only
  rw [at_.settings, r.settings_isPastEnd, eq_false_iff.mpr within, decide_eq_true elapsed,
    isSome_iff_ne_none.mpr latest, eq_false_iff.mpr fun empty =>
      some_ (List.isEmpty_iff.mp empty)]
  rfl

theorem RosterState.At.progress_whole
    (quiet : w.db.outruns ⟨r.id, now, false⟩ = false) (team : w.db.hasTeam current.teamId)
    {n : Nat} {plan : PlanWindowsResult} (some_ : (r.origin initial now).members ≠ [])
    (steps : plan.Steps (r.origin initial now) ROTATION_MAX_STEPS_PER_RUN k n) :
    Progress initial r now w.db current k n plan.windows plan.cursor := by
  have next : plan.cursor.nextStartsAt = (r.origin initial 0).startAt (k + n) := by
    rw [steps.cursor, r.origin_startAt]
  refine ⟨?_, steps.due, fun _ => some_, next, ?_⟩
  · rw [steps.windows, funext (r.origin_windowAt initial now)]
    rfl
  · by_cases past : (r.settings initial 0).isPastEnd plan.cursor.nextStartsAt = true
    · exact Or.inl past
    · right
      constructor
      · intro _
        obtain ⟨primary, backup, are⟩ := r.origin_holdersAt_some initial (k + n)
        rw [steps.cursor, r.origin_holdersAt, are]
        rfl
      · intro none_ latest
        by_contra moved
        -- the last step is over, so only the cap or the end stops the plan
        have elapsed : plan.cursor.nextStartsAt ≤ now := by
          by_contra open_
          have listed : (r.origin initial now).windowAt (k + (n - 1)) ∈ plan.windows := by
            rw [steps.windows]
            refine mem_filter.mpr ⟨List.mem_map_of_mem (mem_range'_1.mpr (by omega)), ?_⟩
            have ends : k + (n - 1) + 1 = k + n := by omega
            refine decide_eq_true ?_
            change now < (r.origin initial now).startAt (k + (n - 1) + 1)
            rw [ends, r.origin_startAt, ← next]
            exact Nat.lt_of_not_le open_
          rw [none_] at listed
          exact not_mem_nil listed
        rw [next] at elapsed past
        rcases steps.stops with ⟨_, all, _⟩ | ⟨_, stopped⟩
        · rw [all] at elapsed past
          cases (at_.outruns team some_ latest elapsed past).symm.trans quiet
        · refine stopped ⟨?_, ?_⟩
          · rw [r.origin_startAt]
            exact Nat.le_trans elapsed (Nat.le_add_right _ _)
          · rw [r.origin_startAt]
            exact (r.settings_isPastEnd initial now _).trans (eq_false_iff.mpr past)

end

theorem RosterState.At.progress (toISOString : Time → String) (at_ : w.At initial r k current)
    (quiet : w.db.outruns ⟨r.id, now, false⟩ = false) (team : w.db.hasTeam current.teamId) :
    ∃ n, Progress initial r now w.db current k n
      (untilClash toISOString w.db current.teamId (planFor w.db current now).windows).1
      (cursorAfter current (planFor w.db current now)
        (untilClash toISOString w.db current.teamId (planFor w.db current now).windows).1
        (untilClash toISOString w.db current.teamId (planFor w.db current now).windows).2.isSome) := by
  rcases at_.holders with past | holders
  · obtain ⟨windows, next⟩ := @RosterState.At.progress_past _ _ _ _ _ now at_ past
    rw [windows, untilClash_nil]
    refine ⟨0, ⟨rfl, fun i from_ before => absurd before (Nat.not_lt.mpr from_), nofun, ?_, ?_⟩⟩
    · exact next.trans at_.next
    · left
      exact (congrArg _ next).trans past
  · have spec := planWindows_spec (r.origin initial now) ROTATION_MAX_STEPS_PER_RUN k
    rw [← at_.input holders] at spec
    obtain ⟨primary, backup, are⟩ := r.origin_holdersAt_some initial k
    rcases spec with ⟨_, windows, _, cursor⟩ | ⟨some_, n, steps⟩
    · rw [windows, untilClash_nil]
      refine ⟨0, ⟨rfl, fun i from_ before => absurd before (Nat.not_lt.mpr from_), nofun, ?_, ?_⟩⟩
      · exact (congrArg PlanCursor.nextStartsAt cursor).trans (r.origin_startAt initial now k)
      · right
        refine ⟨fun _ => ?_, fun _ _ => rfl⟩
        change RotationHolders.mk (some ((planFor w.db current now).cursor.lastPrimary.getD
          current.lastPrimaryUserId)) (planFor w.db current now).cursor.lastBackup = _
        rw [cursor, r.origin_holdersAt, are]
        exact are.symm
    · obtain ⟨later, split_, all⟩ := untilClash_prefix toISOString w.db current.teamId
        (planFor w.db current now).windows
      cases overlap : (untilClash toISOString w.db current.teamId
        (planFor w.db current now).windows).2 with
      | none =>
        have whole := at_.progress_whole quiet team some_ steps
        rw [split_, all overlap, append_nil] at whole
        exact ⟨n, whole⟩
      | some reason =>
        cases ends : (untilClash toISOString w.db current.teamId
          (planFor w.db current now).windows).1.getLast? with
        | none =>
          rw [getLast?_eq_none_iff.mp ends]
          exact ⟨0, at_.stays⟩
        | some last =>
          obtain ⟨m, before, is, created⟩ := walk_prefix (steps.windows.symm.trans split_) ends
          have cursor : cursorAfter current (planFor w.db current now)
              (untilClash toISOString w.db current.teamId (planFor w.db current now).windows).1
              (some reason).isSome = ⟨last.endsAt, some last.primary, last.backup⟩ := by
            unfold cursorAfter
            rw [ends]
            rfl
          rw [cursor, created, funext (r.origin_windowAt initial now)]
          rw [r.origin_windowAt] at is
          subst is
          refine ⟨m + 1, ⟨rfl, fun i from_ last => steps.due i from_ (by omega), fun _ => some_, rfl,
            Or.inr ⟨fun _ => ?_, fun none_ => ?_⟩⟩⟩
          · exact (holdersAt_succ _ (k + m)).symm
          · rw [created] at ends
            rw [r.origin_windowAt] at ends
            cases none_ ▸ ends

end Progress

/-! ## One tick -/

theorem OnCallRotation.toWindow_scheduleOf (rotation : OnCallRotation) (toISOString : Time → String)
    (window : GeneratedWindow) : (rotation.scheduleOf toISOString window).toWindow = window := rfl

section Updates

variable {db : RosterDb} {f : OnCallRotation → OnCallRotation}

theorem activeRotation_updateRotation {rotationId : Id} {current : OnCallRotation}
    (kept : ∀ row, (f row).id = row.id ∧ (f row).status = row.status)
    (found : db.activeRotation rotationId = some current) :
    (db.updateRotation rotationId f).activeRotation rotationId = some (f current) := by
  unfold RosterDb.updateRotation RosterDb.activeRotation at *
  dsimp only
  have same : (isActive rotationId ∘
      fun row => if (row.id == rotationId) = true then f row else row) =
      isActive rotationId := by
    funext row
    dsimp only [comp]
    split
    · unfold isActive
      rw [(kept row).1, (kept row).2]
    · rfl
  have named : isActive rotationId current := find?_some found
  rw [find?_map, same, found, map_some, if_pos (and_eq_true_iff.mp named).1]

theorem activeRotation_updateRotation_other {rotationId other : Id}
    (kept : ∀ row, (f row).id = row.id) (distinct : other ≠ rotationId) :
    (db.updateRotation other f).activeRotation rotationId = db.activeRotation rotationId := by
  unfold RosterDb.updateRotation RosterDb.activeRotation
  dsimp only
  induction db.rotations with
  | nil => rfl
  | cons row rest ih =>
    rw [map_cons]
    by_cases its : (row.id == other) = true
    · have foreign : ∀ row' : OnCallRotation, row'.id = row.id →
          row'.isActive rotationId = false := by
        intro row' same
        unfold isActive
        rw [same, beq_iff_eq.mp its, beq_false_of_ne distinct, Bool.false_and]
      rw [if_pos its, find?_cons_of_neg (eq_false_iff.mp (foreign _ (kept row))),
        find?_cons_of_neg (eq_false_iff.mp (foreign _ rfl)), ih]
    · rw [if_neg its, find?_cons, find?_cons, ih]

end Updates

section Ticks

variable {initial : RosterDb} {r : OnCallRotation} {w : RosterState} {k : Nat}
  {current : OnCallRotation} {toISOString : Time → String} {now : Time}

variable {n : Nat} {toCreate : List GeneratedWindow} {cursor : PlanCursor}

theorem Progress.step_of (progress : Progress initial r now w.db current k n toCreate cursor)
    {window : GeneratedWindow} (mem : window ∈ toCreate) :
    ∃ i, k ≤ i ∧ i < k + n ∧ (r.origin initial 0).windowAt i = window ∧ now < window.endsAt := by
  rw [progress.windows] at mem
  obtain ⟨mem, open_⟩ := mem_filter.mp mem
  rcases List.mem_map.mp mem with ⟨i, steps, is⟩
  obtain ⟨from_, before⟩ := mem_range'_1.mp steps
  exact ⟨i, from_, before, is, of_decide_eq_true open_⟩

theorem Progress.makes (progress : Progress initial r now w.db current k n toCreate cursor)
    {i : Nat} (from_ : k ≤ i) (before : i < k + n)
    (open_ : now < (r.origin initial 0).startAt (i + 1)) :
    (r.origin initial 0).windowAt i ∈ toCreate := by
  rw [progress.windows]
  refine mem_filter.mpr ⟨List.mem_map_of_mem (mem_range'_1.mpr ⟨from_, before⟩), ?_⟩
  exact decide_eq_true open_

theorem Progress.inserted (at_ : w.At initial r k current)
    (progress : Progress initial r now w.db current k n toCreate cursor) :
    toCreate.foldl (insertWindow toISOString current) w.db.schedules =
      w.db.schedules ++ toCreate.map (current.scheduleOf toISOString) := by
  refine foldl_insertWindow_all ?_ ?_
  · intro window mem row there own
    obtain ⟨i, from_, _, rfl, _⟩ := progress.step_of mem
    rw [at_.id] at own
    refine Nat.lt_of_lt_of_le (at_.before row there own) ?_
    rw [at_.next]
    exact startAt_mono _ from_
  · rw [progress.windows]
    refine Pairwise.filter _ (pairwise_map.mpr ?_)
    refine (pairwise_lt_range' ..).imp fun {i j} before => ?_
    exact startAt_lt _ r.cycleDays_pos before

theorem Progress.latest {n : Nat} {toCreate : List GeneratedWindow} {cursor : PlanCursor}
    (at_ : w.At initial r k current)
    (progress : Progress initial r now w.db current k n toCreate cursor) (some_ : toCreate ≠ [])
    {db' : RosterDb} {current' : OnCallRotation} (id : current'.id = current.id)
    (rows : db'.schedules = w.db.schedules ++ toCreate.map (current.scheduleOf toISOString)) :
    loadPreviousHolders db' current' = (r.origin initial 0).holdersAt (k + n) := by
  obtain ⟨window, mem⟩ := exists_mem_of_ne_nil _ some_
  obtain ⟨i, from_, before, rfl, open_⟩ := progress.step_of mem
  have last : k + (n - 1) + 1 = k + n := by omega
  have made : (r.origin initial 0).windowAt (k + (n - 1)) ∈ toCreate := by
    refine progress.makes (Nat.le_add_right _ _) (by omega) (Nat.lt_of_lt_of_le open_ ?_)
    exact startAt_mono _ (by omega)
  have there : current.scheduleOf toISOString ((r.origin initial 0).windowAt (k + (n - 1))) ∈
      db'.schedules.filter (OnCallSchedule.isLiveOf current'.id) := by
    refine mem_filter.mpr ⟨?_, ?_⟩
    · rw [rows]
      exact mem_append_right _ (List.mem_map_of_mem made)
    · rw [id]
      exact and_eq_true_iff.mpr ⟨beq_self_eq_true _, rfl⟩
  unfold loadPreviousHolders
  cases latest : latestWindow db' current'.id with
  | none =>
    rw [argmax_eq_none.mp latest] at there
    exact absurd there not_mem_nil
  | some row =>
    have late := le_of_mem_argmax there latest
    obtain ⟨among, live⟩ := mem_filter.mp (argmax_mem latest)
    have own : row.rotationId = some r.id := by
      rw [← at_.id, ← id]
      exact beq_iff_eq.mp (and_eq_true_iff.mp live).1
    rw [rows] at among
    rcases mem_append.mp among with old | new
    · have early := at_.before row old own
      rw [at_.next] at early
      have start := startAt_mono (r.origin initial 0) (Nat.le_add_right k (n - 1))
      exact absurd (Nat.le_trans start late) (Nat.not_le_of_lt early)
    · rcases List.mem_map.mp new with ⟨window, mem, rfl⟩
      obtain ⟨j, _, within, rfl, _⟩ := progress.step_of mem
      have same : j = k + (n - 1) := by
        by_contra distinct
        have early := startAt_lt (r.origin initial 0) r.cycleDays_pos
          (show j < k + (n - 1) by omega)
        exact absurd late (Nat.not_le_of_lt early)
      subst same
      rw [← last, holdersAt_succ]
      rfl

theorem RosterState.At.moved {n : Nat} {toCreate : List GeneratedWindow} {cursor : PlanCursor}
    {blockedReason : Option String} {db' : RosterDb} (at_ : w.At initial r k current)
    (progress : Progress initial r now w.db current k n toCreate cursor)
    (order : ∀ last, w.ticked r.id = some last → last ≤ now)
    (found : db'.activeRotation r.id = some (current.moveTo cursor blockedReason))
    (members : db'.teamMembers = w.db.teamMembers)
    (rows : db'.schedules = w.db.schedules ++ toCreate.map (current.scheduleOf toISOString)) :
    RosterState.At initial r ⟨db', Function.update w.ticked r.id (some now), w.made ++
        (toCreate.map (current.scheduleOf toISOString)).map fun row => (now, row)⟩
      (k + n) (current.moveTo cursor blockedReason) where
  found := found
  id := at_.id
  settings other := by
    rw [← at_.settings other]
    unfold OnCallRotation.settings loadTeamMemberIds
    rw [members]
    rfl
  members := members.trans at_.members
  next := progress.next
  holders := by
    by_cases none_ : toCreate = []
    · have latest : latestWindow db' (current.moveTo cursor blockedReason).id =
          latestWindow w.db current.id := by
        unfold latestWindow
        rw [rows, none_, map_nil, append_nil]
        rfl
      rcases progress.holders with past | ⟨moved, still⟩
      · exact Or.inl past
      · cases is : latestWindow w.db current.id with
        | none =>
          right
          unfold loadPreviousHolders
          rw [latest, is]
          exact moved is
        | some row =>
          have zero := still none_ (by rw [is]; exact some_ne_none row)
          subst zero
          rcases at_.holders with past | holders
          · left
            rw [at_.next] at past
            exact (congrArg _ progress.next).trans past
          · right
            refine Eq.trans ?_ holders
            unfold loadPreviousHolders
            rw [latest, is]
    · exact Or.inr (progress.latest at_ none_ rfl rows)
  before row mem own := by
    change row.startsAt < cursor.nextStartsAt
    rw [progress.next]
    rw [rows] at mem
    rcases mem_append.mp mem with old | new
    · have early := at_.before row old own
      rw [at_.next] at early
      exact Nat.lt_of_lt_of_le early (startAt_mono _ (Nat.le_add_right _ _))
    · rcases List.mem_map.mp new with ⟨window, made, rfl⟩
      obtain ⟨i, _, before, rfl, _⟩ := progress.step_of made
      exact startAt_lt _ r.cycleDays_pos before
  fresh none_ := by
    dsimp only at none_
    rw [update_self] at none_
    cases none_
  made at' row mem own := by
    rcases mem_append.mp mem with old | new
    · exact at_.made at' row old own
    · rcases List.mem_map.mp new with ⟨row', made, same⟩
      cases same
      rcases List.mem_map.mp made with ⟨window, created, rfl⟩
      obtain ⟨i, from_, before, is, open_⟩ := progress.step_of created
      refine (mem_uncappedWalk r.cycleDays_pos).mpr ⟨progress.members (by omega), i,
        progress.due i from_ before, decide_eq_true open_, ?_⟩
      rw [r.origin_windowAt]
      exact is
  walked last ticked i before open_ := by
    dsimp only at ticked
    rw [update_self] at ticked
    cases ticked
    by_cases early : i < k
    · cases was : w.ticked r.id with
      | none =>
        rw [at_.fresh was] at early
        exact absurd early (Nat.not_lt_zero _)
      | some last =>
        obtain ⟨row, mem, own, is⟩ :=
          at_.walked last was i early (Nat.lt_of_le_of_lt (order last was) open_)
        refine ⟨row, ?_, own, is⟩
        rw [rows]
        exact mem_append_left _ mem
    · refine ⟨current.scheduleOf toISOString ((r.origin initial 0).windowAt i), ?_, ?_, rfl⟩
      · rw [rows]
        exact mem_append_right _
          (List.mem_map_of_mem (progress.makes (Nat.le_of_not_lt early) before open_))
      · exact congrArg some at_.id

theorem generateForRotation_team {db : RosterDb} {rotationId : Id}
    (found : db.activeRotation rotationId = some current) (team : db.hasTeam current.teamId)
    {toCreate : List GeneratedWindow} {overlap : Option String}
    (created : (untilClash toISOString db current.teamId (planFor db current now).windows).1 = toCreate)
    (clash : (untilClash toISOString db current.teamId (planFor db current now).windows).2 = overlap) :
    ∃ db' blockedReason, (generateForRotation toISOString rotationId now false db).1 = db' ∧
      db'.activeRotation rotationId = some (current.moveTo
        (cursorAfter current (planFor db current now) toCreate overlap.isSome) blockedReason) ∧
      db'.teamMembers = db.teamMembers ∧
      db'.schedules = toCreate.foldl (insertWindow toISOString current) db.schedules := by
  refine ⟨_, blockedReasonAfter current (planFor db current now) overlap, rfl, ?_⟩
  unfold generateForRotation
  rw [found]
  dsimp only
  rw [if_neg Bool.false_ne_true, if_pos team, created, clash]
  exact ⟨activeRotation_updateRotation (fun _ => ⟨rfl, rfl⟩) found, rfl, rfl⟩

theorem generateForRotation_deleted {db : RosterDb} {rotationId : Id}
    (found : db.activeRotation rotationId = some current) (team : ¬ db.hasTeam current.teamId) :
    ∃ db', (generateForRotation toISOString rotationId now false db).1 = db' ∧
      db'.activeRotation rotationId = some (current.moveTo ⟨current.nextStartsAt,
        some current.lastPrimaryUserId, current.lastBackupUserId⟩ (some TEAM_DELETED_REASON)) ∧
      db'.teamMembers = db.teamMembers ∧ db'.schedules = db.schedules := by
  refine ⟨_, rfl, ?_⟩
  unfold generateForRotation
  rw [found]
  dsimp only
  rw [if_neg Bool.false_ne_true, if_neg team]
  exact ⟨activeRotation_updateRotation (fun _ => ⟨rfl, rfl⟩) found, rfl, rfl⟩

theorem RosterState.At.tick (at_ : w.At initial r k current) {locked : Bool} {w' : RosterState}
    (quiet : w.db.outruns ⟨r.id, now, locked⟩ = false)
    (stepped : w.step toISOString ⟨r.id, now, locked⟩ = some w') :
    ∃ k' current', w'.At initial r k' current' := by
  unfold RosterState.step at stepped
  split at stepped
  · next inOrder =>
    cases stepped
    have order : ∀ last, w.ticked r.id = some last → last ≤ now := by
      intro last is
      dsimp only at inOrder
      rw [is, all_some] at inOrder
      exact of_decide_eq_true inOrder
    cases locked with
    | true =>
      have still : generateForRotation toISOString r.id now true w.db = (w.db, .idle) := by
        unfold generateForRotation
        rw [at_.found]
        rfl
      refine ⟨k, current, ?_⟩
      dsimp only
      rw [still, drop_length, map_nil, append_nil]
      exact at_
    | false =>
      by_cases team : w.db.hasTeam current.teamId = true
      · obtain ⟨n, progress⟩ := at_.progress toISOString quiet team
        obtain ⟨db', blockedReason, ran, found, members, rows⟩ :=
          @generateForRotation_team _ _ now _ _ at_.found team _ _ rfl rfl
        rw [progress.inserted at_] at rows
        refine ⟨k + n, current.moveTo (cursorAfter current (planFor w.db current now)
          (untilClash toISOString w.db current.teamId (planFor w.db current now).windows).1
          (untilClash toISOString w.db current.teamId (planFor w.db current now).windows).2.isSome)
          blockedReason, ?_⟩
        dsimp only
        rw [ran, rows, drop_left]
        exact at_.moved progress order found members rows
      · obtain ⟨db', ran, found, members, rows⟩ :=
          @generateForRotation_deleted _ toISOString now _ _ at_.found team
        have rows : db'.schedules = w.db.schedules ++ [].map (current.scheduleOf toISOString) :=
          rows.trans (append_nil _).symm
        refine ⟨k + 0, current.moveTo ⟨current.nextStartsAt, some current.lastPrimaryUserId,
          current.lastBackupUserId⟩ (some TEAM_DELETED_REASON), ?_⟩
        dsimp only
        rw [ran, rows, drop_left]
        exact at_.moved at_.stays order found members rows
  · cases stepped

theorem generateForRotation_other {db : RosterDb} {rotationId other : Id} {locked : Bool}
    (distinct : other ≠ rotationId) :
    ∃ db' added, (generateForRotation toISOString other now locked db).1 = db' ∧
      db'.activeRotation rotationId = db.activeRotation rotationId ∧
      db'.teamMembers = db.teamMembers ∧ db'.schedules = db.schedules ++ added ∧
      ∀ row ∈ added, row.rotationId = some other := by
  have nothing : ∀ row ∈ ([] : List OnCallSchedule), row.rotationId = some other :=
    fun row mem => absurd mem not_mem_nil
  unfold generateForRotation
  split
  · exact ⟨_, [], rfl, rfl, rfl, (append_nil _).symm, nothing⟩
  · next rotation found =>
    have is : isActive other rotation := find?_some found
    split
    · exact ⟨_, [], rfl, rfl, rfl, (append_nil _).symm, nothing⟩
    · split
      · obtain ⟨added, rows, of⟩ := @foldl_insertWindow toISOString rotation
          (untilClash toISOString db rotation.teamId (planFor db rotation now).windows).1 db.schedules
        refine ⟨_, added, rfl, ?_, rfl, rows, fun row mem => ?_⟩
        · exact activeRotation_updateRotation_other (fun _ => rfl) distinct
        · rw [(of row mem).1, beq_iff_eq.mp (and_eq_true_iff.mp is).1]
      · refine ⟨_, [], rfl, ?_, rfl, (append_nil _).symm, nothing⟩
        exact activeRotation_updateRotation_other (fun _ => rfl) distinct

theorem RosterState.At.other (at_ : w.At initial r k current) {tick : RosterTick}
    {w' : RosterState} (distinct : tick.rotationId ≠ r.id)
    (stepped : w.step toISOString tick = some w') : w'.At initial r k current := by
  unfold RosterState.step at stepped
  split at stepped
  · cases stepped
    obtain ⟨db', added, ran, active, members, rows, of⟩ :=
      @generateForRotation_other toISOString tick.now w.db _ _ tick.lockedElsewhere distinct
    have ticked : (if tick.lockedElsewhere = true then w.ticked
        else Function.update w.ticked tick.rotationId (some tick.now)) r.id = w.ticked r.id := by
      split
      · rfl
      · exact update_of_ne (Ne.symm distinct) _ _
    have foreign : ∀ row ∈ added, row.rotationId ≠ some r.id := by
      intro row mem own
      exact distinct (Option.some.inj ((of row mem).symm.trans own))
    have live : added.filter (OnCallSchedule.isLiveOf current.id) = [] := by
      refine filter_eq_nil_iff.mpr fun row mem is => ?_
      rw [at_.id] at is
      exact foreign row mem (beq_iff_eq.mp (and_eq_true_iff.mp is).1)
    rw [ran, rows, drop_left]
    refine ⟨active.trans at_.found, at_.id, fun other => ?_, members.trans at_.members, at_.next, ?_,
      ?_, ?_, ?_, ?_⟩
    · rw [← at_.settings other]
      unfold OnCallRotation.settings loadTeamMemberIds
      rw [members]
    · refine at_.holders.imp_right fun holders => Eq.trans ?_ holders
      unfold loadPreviousHolders latestWindow
      dsimp only
      rw [rows, filter_append, live, append_nil]
    · intro row mem own
      dsimp only at mem
      rw [rows] at mem
      rcases mem_append.mp mem with old | new
      · exact at_.before row old own
      · exact absurd own (foreign row new)
    · dsimp only
      rw [ticked]
      exact at_.fresh
    · intro now row mem own
      rcases mem_append.mp mem with old | new
      · exact at_.made now row old own
      · rcases List.mem_map.mp new with ⟨row', among, same⟩
        cases same
        exact absurd own (foreign row among)
    · dsimp only
      rw [ticked, rows]
      intro last is i before open_
      obtain ⟨row, mem, own, window⟩ := at_.walked last is i before open_
      exact ⟨row, mem_append_left _ mem, own, window⟩
  · cases stepped

theorem RosterState.At.goes_on (at_ : w.At initial r k current) {tick : RosterTick}
    {w' : RosterState} (quiet : tick.rotationId = r.id → w.db.outruns tick = false)
    (stepped : w.step toISOString tick = some w') : ∃ k' current', w'.At initial r k' current' := by
  by_cases own : tick.rotationId = r.id
  · obtain ⟨rotationId, now, locked⟩ := tick
    cases own
    exact at_.tick (quiet rfl) stepped
  · exact ⟨k, current, at_.other own stepped⟩

end Ticks

/-! ## Runs -/

structure RosterState.OneWalk (initial : RosterDb) (r : OnCallRotation) (w : RosterState) : Prop where
  made : ∀ now row, (now, row) ∈ w.made → row.rotationId = some r.id → now ≤ row.startsAt →
    row.toWindow ∈ (uncappedWalk (r.origin initial now)).windows
  walked : ∀ now current, w.ticked r.id = some now → w.db.activeRotation r.id = some current →
    ∀ window ∈ (uncappedWalk (r.origin initial now)).windows, now ≤ window.startsAt →
      window.startsAt < current.nextStartsAt →
        ∃ row ∈ w.db.schedules, row.rotationId = some r.id ∧ row.toWindow = window

variable {k : Nat} {initial : RosterDb} {r : OnCallRotation}

theorem RosterState.At.oneWalk {w : RosterState} {current : OnCallRotation}
    (at_ : w.At initial r k current) : w.OneWalk initial r := by
  refine ⟨fun now row mem own _ => at_.made now row mem own, ?_⟩
  intro now current' ticked found window mem _ early
  cases at_.found.symm.trans found
  obtain ⟨_, i, _, open_, rfl⟩ := (mem_uncappedWalk r.cycleDays_pos).mp mem
  rw [r.origin_windowAt] at early open_ ⊢
  have before : i < k := by
    by_contra late
    rw [at_.next] at early
    exact absurd early (Nat.not_lt_of_le (startAt_mono _ (Nat.le_of_not_lt late)))
  exact at_.walked now ticked i before (of_decide_eq_true open_)

theorem RosterDb.Begins.at (begins : initial.Begins r) :
    RosterState.At initial r { db := initial } 0 r where
  found := begins.active
  id := rfl
  settings _ := rfl
  members := rfl
  next := (startAt_zero (r.origin initial 0)).symm
  holders := Or.inr begins.holders
  before := begins.before
  fresh _ := rfl
  made _ _ mem := absurd mem not_mem_nil
  walked _ ticked := nomatch ticked

/-- While no tick of a rotation outruns its plan, the windows of the rotation do not
depend on when its ticks ran. -/
theorem oncall_windows_one_walk (toISOString : Time → String) (initial : RosterDb)
    (r : OnCallRotation) (ticks : List RosterTick) (begins : initial.Begins r)
    (quiet : Guarded (RosterState.step toISOString)
      (fun w tick => tick.rotationId = r.id → w.db.outruns tick = false) { db := initial } ticks) :
    Always (RosterState.step toISOString) (RosterState.OneWalk initial r) { db := initial }
      ticks := by
  refine quiet.always (I := fun w => ∃ k current, w.At initial r k current) ?_ ?_ ⟨0, r, begins.at⟩
  · intro w tick w' ⟨k, current, at_⟩ quiet stepped
    exact at_.goes_on quiet stepped
  · intro w ⟨k, current, at_⟩
    exact at_.oneWalk

theorem createRepeating_begins {input : CreateSchedule} {rotationId : Id} {userId : String}
    {db db' : RosterDb} (newRotation : ∀ row ∈ db.rotations, row.id ≠ rotationId)
    (newRows : ∀ row ∈ db.schedules, row.rotationId ≠ some rotationId)
    (created : createRepeating input rotationId userId db = some db') :
    db'.Begins (input.rotation rotationId userId) := by
  unfold createRepeating at created
  split at created
  · cases created
  · split at created
    · cases created
    · cases created
      have other : db.rotations.find? (isActive rotationId) = none := by
        refine find?_eq_none.mpr fun row mem is => newRotation row mem ?_
        exact beq_iff_eq.mp (and_eq_true_iff.mp is).1
      have own : isActive rotationId (input.rotation rotationId userId) :=
        and_eq_true_iff.mpr ⟨beq_self_eq_true _, rfl⟩
      have foreign : db.schedules.filter (OnCallSchedule.isLiveOf rotationId) = [] := by
        refine filter_eq_nil_iff.mpr fun row mem is => newRows row mem ?_
        exact beq_iff_eq.mp (and_eq_true_iff.mp is).1
      refine ⟨?_, ?_, ?_⟩
      · unfold RosterDb.activeRotation
        dsimp only
        rw [find?_append, CreateSchedule.rotation, other, none_or]
        exact find?_cons_of_pos own
      · intro row mem of
        rcases mem_append.mp mem with old | here
        · exact absurd of (newRows row old)
        · cases mem_singleton.mp here
          exact input.window
      · have live : OnCallSchedule.isLiveOf rotationId (input.schedule rotationId userId) :=
          and_eq_true_iff.mpr ⟨beq_self_eq_true _, rfl⟩
        unfold loadPreviousHolders latestWindow
        dsimp only
        rw [filter_append, CreateSchedule.rotation, foreign, nil_append, filter_cons_of_pos live]
        rfl

/-! ## An outage that outruns a plan -/

/-- A window of three days that is to repeat. -/
def firstWindow : CreateSchedule where
  teamId := 1
  label := "First"
  startsAt := 0
  endsAt := 3 * DAY_MS
  primaryUserId := "a"
  backupUserId := some "b"
  escalationManagerUserId := none
  cycleDays := 3
  window := by decide
  cycle := by decide

def threeMembers : RosterDb where
  teams := [⟨1, none⟩]
  teamMembers := [⟨1, "a", 0⟩, ⟨1, "b", 1⟩, ⟨1, "c", 2⟩]
  rotations := []
  schedules := []

def threeDayRoster : RosterDb := (createRepeating firstWindow 7 "admin" threeMembers).getD threeMembers

def threeDayRotation : OnCallRotation := firstWindow.rotation 7 "admin"

theorem threeDayRoster_begins : threeDayRoster.Begins threeDayRotation := by
  have allowed : (createRepeating firstWindow 7 "admin" threeMembers).isSome := by
    decide +kernel
  have created : createRepeating firstWindow 7 "admin" threeMembers = some threeDayRoster :=
    (some_get allowed).symm.trans (congrArg some (get_eq_getD ..))
  exact createRepeating_begins (fun row mem => absurd mem not_mem_nil)
    (fun row mem => absurd mem not_mem_nil) created

/-- Ticks a day before the end of the window, and after an outage of thirty days. -/
theorem oncall_windows_one_walk_resumed :
    Always (RosterState.step fun _ => "") (RosterState.OneWalk threeDayRoster threeDayRotation)
      { db := threeDayRoster } [⟨7, 2 * DAY_MS, false⟩, ⟨7, 32 * DAY_MS, false⟩] := by
  have checked : check (RosterState.step fun _ => "") (fun w tick => !w.db.outruns tick)
      { db := threeDayRoster } [⟨7, 2 * DAY_MS, false⟩, ⟨7, 32 * DAY_MS, false⟩] = true := by
    decide +kernel
  exact oncall_windows_one_walk (fun _ => "") threeDayRoster threeDayRotation _
    threeDayRoster_begins
    (Guarded.of_check (fun quiet _ => (not_eq_true' _).mp quiet) checked)

/-- After an outage of more than fifty-two cycles, the first tick moves the cursor but
makes no window, and the next one takes the holders of the latest window. -/
theorem oncall_windows_stale_holders :
    ¬ ∀ (toISOString : Time → String) (initial : RosterDb) (r : OnCallRotation)
      (ticks : List RosterTick), initial.Begins r →
        Always (RosterState.step toISOString) (RosterState.OneWalk initial r) { db := initial }
          ticks := by
  intro always
  have holds := always (fun _ => "") threeDayRoster threeDayRotation
    [⟨7, 160 * DAY_MS, false⟩, ⟨7, 160 * DAY_MS + 1, false⟩] threeDayRoster_begins
  have stale : (run (RosterState.step fun _ => "") { db := threeDayRoster }
      [⟨7, 160 * DAY_MS, false⟩, ⟨7, 160 * DAY_MS + 1, false⟩]).any (fun w =>
        w.made.any fun (now, row) => row.rotationId == some 7 && decide (now ≤ row.startsAt) &&
          !(uncappedWalk (threeDayRotation.origin threeDayRoster now)).windows.contains
            row.toWindow) = true := by decide +kernel
  obtain ⟨w, ran, found⟩ := (Option.any_eq_true _ _).mp stale
  obtain ⟨⟨now, row⟩, mem, is⟩ := List.any_eq_true.mp found
  simp only [and_eq_true, beq_iff_eq, decide_eq_true_eq, not_eq_eq_eq_not, Bool.not_true] at is
  obtain ⟨⟨own, later⟩, other⟩ := is
  have walked := (holds.last ran).made now row mem own later
  rw [← contains_iff_mem, other] at walked
  cases walked

end OpenWind
