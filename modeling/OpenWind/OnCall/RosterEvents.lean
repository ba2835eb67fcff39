import OpenWind.OnCall.OneWalk
import Mathlib.Data.List.Pairwise

/-!
# What changes a roster
-/

open List Option

namespace OpenWind

/-! ## Stopping and resuming -/

def RosterDb.upcoming (db : RosterDb) (rotationId : Id) (now : Time) : List OnCallSchedule :=
  db.schedules.filter fun row => row.rotationId == some rotationId && decide (now < row.startsAt)

def RosterDb.withoutUpcoming (db : RosterDb) (rotationId : Id) (now : Time) : RosterDb :=
  { db with
    schedules := db.schedules.filter fun row =>
      !(row.rotationId == some rotationId && decide (now < row.startsAt)) }

def releaseUpcomingWindows (rotationId : Id) (now : Time) (db : RosterDb) : RosterDb :=
  match ((db.upcoming rotationId now).map (·.startsAt)).min? with
  | none => db
  | some earliest =>
    (db.withoutUpcoming rotationId now).updateRotation rotationId
      fun row => { row with nextStartsAt := earliest }

def RosterDb.findRotation (db : RosterDb) (rotationId : Id) : Option OnCallRotation :=
  db.rotations.find? fun row => row.id == rotationId

/-- The request that sets the status to `stopped`. -/
def stopRotation (rotationId : Id) (now : Time) (db : RosterDb) : RosterDb :=
  match db.findRotation rotationId with
  | none => db
  | some before =>
    let stopped := db.updateRotation rotationId fun row => { row with status := .stopped }
    if before.status = .active then releaseUpcomingWindows rotationId now stopped else stopped

def resumeRotation (rotationId : Id) (db : RosterDb) : Option RosterDb :=
  match db.findRotation rotationId with
  | none => none
  | some before =>
    if before.status = .active then some db
    else if db.hasTeam before.teamId && (loadTeamMemberIds db before.teamId).length != 0 &&
        !db.rotations.any (fun row => row.teamId == before.teamId && row.status == .active) then
      some (db.updateRotation rotationId
        fun row => { row with status := .active, blockedReason := none })
    else none

/-! ## Events -/

inductive RosterEvent
  | tick (tick : RosterTick)
  | createWindow (input : CreateSchedule) (userId : String)
  | createRepeating (input : CreateSchedule) (rotationId : Id) (userId : String)
  /-- The team's live window that starts at the time. -/
  | deleteWindow (teamId : Id) (startsAt : Time) (now : Time)
  | setEndsOn (rotationId : Id) (endsOn : Option Nat)
  | stop (rotationId : Id) (now : Time)
  | resume (rotationId : Id)

def RosterDb.excludes (db : RosterDb) (input : CreateSchedule) : Bool :=
  db.schedules.any fun row => row.teamId == input.teamId && row.deletedAt.isNone &&
    decide (row.startsAt < input.endsAt) && decide (input.startsAt < row.endsAt)

/-- A row that the window's deletion marks. -/
def OnCallSchedule.isLiveAt (teamId : Id) (startsAt : Time) (row : OnCallSchedule) : Bool :=
  row.teamId == teamId && row.startsAt == startsAt && row.deletedAt.isNone

/-- A request that is refused leaves the store. -/
def RosterDb.apply (toISOString : Time → String) (db : RosterDb) : RosterEvent → RosterDb
  | .tick tick => (generateForRotation toISOString tick.rotationId tick.now tick.lockedElsewhere db).1
  | .createWindow input userId =>
    if db.excludes input then db
    else { db with
      schedules := db.schedules ++ [{ input.schedule 0 userId with rotationId := none }] }
  | .createRepeating input rotationId userId =>
    if db.excludes input || db.rotations.any (·.id == rotationId) then db
    else (createRepeating input rotationId userId db).getD db
  | .deleteWindow teamId startsAt now =>
    { db with
      schedules := db.schedules.map fun row =>
        if row.isLiveAt teamId startsAt then { row with deletedAt := some now } else row }
  | .setEndsOn rotationId endsOn =>
    db.updateRotation rotationId fun row => { row with endsOn }
  | .stop rotationId now => stopRotation rotationId now db
  | .resume rotationId => (resumeRotation rotationId db).getD db

def RosterDb.after (toISOString : Time → String) (db : RosterDb) (events : List RosterEvent) :
    RosterDb :=
  events.foldl (RosterDb.apply toISOString) db

/-! ## What holds of every roster -/

def OnCallSchedule.Apart (row other : OnCallSchedule) : Prop :=
  row.endsAt ≤ other.startsAt ∨ other.endsAt ≤ row.startsAt

/-- Live windows of a team are apart. -/
def OnCallSchedule.Exclusive (row other : OnCallSchedule) : Prop :=
  row.teamId = other.teamId → row.deletedAt = none → other.deletedAt = none → row.Apart other

def OnCallSchedule.Distinct (row other : OnCallSchedule) : Prop :=
  ∀ id, row.rotationId = some id → other.rotationId = some id → row.Apart other

theorem OnCallSchedule.Apart.symm {row other : OnCallSchedule} (apart : row.Apart other) :
    other.Apart row := Or.symm apart

instance : Std.Symm OnCallSchedule.Exclusive :=
  ⟨fun _ _ exclusive team live liveOther => (exclusive team.symm liveOther live).symm⟩

instance : Std.Symm OnCallSchedule.Distinct :=
  ⟨fun _ _ distinct id of ofOther => (distinct id ofOther of).symm⟩

structure RosterDb.Sound (db : RosterDb) : Prop where
  spans : ∀ row ∈ db.schedules, row.startsAt < row.endsAt
  exclusive : db.schedules.Pairwise OnCallSchedule.Exclusive
  distinct : db.schedules.Pairwise OnCallSchedule.Distinct
  before : ∀ r ∈ db.rotations, ∀ row ∈ db.schedules, row.rotationId = some r.id →
    row.teamId = r.teamId ∧ row.endsAt ≤ r.nextStartsAt
  known : ∀ row ∈ db.schedules, ∀ id, row.rotationId = some id → ∃ r ∈ db.rotations, r.id = id
  ids : (db.rotations.map OnCallRotation.id).Nodup

namespace RosterDb.Sound

variable {db : RosterDb} {rotationId : Id}

theorem empty (teams : List RosterTeam) (teamMembers : List TeamMember) :
    RosterDb.Sound ⟨teams, teamMembers, [], []⟩ := by
  refine ⟨?_, .nil, .nil, ?_, ?_, .nil⟩
  · intro row mem
    cases mem
  · intro r mem
    cases mem
  · intro row mem
    cases mem

theorem updateRotation (sound : db.Sound) {f : OnCallRotation → OnCallRotation}
    (kept : ∀ r, (f r).id = r.id ∧ (f r).teamId = r.teamId)
    (later : ∀ r ∈ db.rotations, r.id = rotationId → ∀ row ∈ db.schedules,
      row.rotationId = some r.id → row.endsAt ≤ (f r).nextStartsAt) :
    (db.updateRotation rotationId f).Sound := by
  have same : ∀ r, (if r.id == rotationId then f r else r).id = r.id := by
    intro r
    split
    · exact (kept r).1
    · rfl
  refine ⟨sound.spans, sound.exclusive, sound.distinct, ?_, ?_, ?_⟩
  · intro r mem row memRow of
    obtain ⟨old, memOld, rfl⟩ := List.mem_map.mp mem
    rw [same] at of
    have here := sound.before old memOld row memRow of
    split
    · next its => exact ⟨here.1.trans (kept old).2.symm,
        later old memOld (beq_iff_eq.mp its) row memRow of⟩
    · exact here
  · intro row mem id of
    obtain ⟨r, memR, is⟩ := sound.known row mem id of
    exact ⟨_, List.mem_map_of_mem memR, (same r).trans is⟩
  · have ids : (db.updateRotation rotationId f).rotations.map OnCallRotation.id =
        db.rotations.map OnCallRotation.id := by
      unfold RosterDb.updateRotation
      rw [List.map_map]
      exact map_congr_left fun r _ => same r
    rw [ids]
    exact sound.ids

/-- Fewer rows. -/
theorem filter (sound : db.Sound) (p : OnCallSchedule → Bool) :
    RosterDb.Sound { db with schedules := db.schedules.filter p } := by
  refine ⟨?_, sound.exclusive.filter p, sound.distinct.filter p, ?_, ?_, sound.ids⟩
  · exact fun row mem => sound.spans row (mem_of_mem_filter mem)
  · exact fun r memR row mem => sound.before r memR row (mem_of_mem_filter mem)
  · exact fun row mem => sound.known row (mem_of_mem_filter mem)

theorem eq_of_start (sound : db.Sound) {row other : OnCallSchedule} (mem : row ∈ db.schedules)
    (memOther : other ∈ db.schedules) (of : row.rotationId = some rotationId)
    (ofOther : other.rotationId = some rotationId) (start : row.startsAt = other.startsAt) :
    row = other := by
  by_contra different
  have spans : row.startsAt < row.endsAt := sound.spans row mem
  have spansOther : other.startsAt < other.endsAt := sound.spans other memOther
  rcases sound.distinct.forall mem memOther different rotationId of ofOther with before | before
  · exact absurd (Nat.lt_of_lt_of_le spans before) (Nat.not_lt.mpr (Nat.le_of_eq start.symm))
  · exact absurd (Nat.lt_of_lt_of_le spansOther before) (Nat.not_lt.mpr (Nat.le_of_eq start))

theorem append (sound : db.Sound) {news : List OnCallSchedule}
    (spans : ∀ new ∈ news, new.startsAt < new.endsAt) (apart : news.Pairwise OnCallSchedule.Apart)
    (exclusive : ∀ row ∈ db.schedules, ∀ new ∈ news, row.Exclusive new)
    (distinct : ∀ row ∈ db.schedules, ∀ new ∈ news, row.Distinct new)
    (before : ∀ r ∈ db.rotations, ∀ new ∈ news, new.rotationId = some r.id →
      new.teamId = r.teamId ∧ new.endsAt ≤ r.nextStartsAt)
    (known : ∀ new ∈ news, ∀ id, new.rotationId = some id → ∃ r ∈ db.rotations, r.id = id) :
    RosterDb.Sound { db with schedules := db.schedules ++ news } := by
  refine ⟨?_, ?_, ?_, ?_, ?_, sound.ids⟩
  · intro row mem
    rcases mem_append.mp mem with old | here
    · exact sound.spans row old
    · exact spans row here
  · exact pairwise_append.mpr ⟨sound.exclusive, apart.imp fun apart _ _ _ => apart, exclusive⟩
  · exact pairwise_append.mpr ⟨sound.distinct, apart.imp fun apart _ _ _ => apart, distinct⟩
  · intro r memR row mem of
    rcases mem_append.mp mem with old | here
    · exact sound.before r memR row old of
    · exact before r memR row here of
  · intro row mem id of
    rcases mem_append.mp mem with old | here
    · exact sound.known row old id of
    · exact known row here id of

theorem marked (sound : db.Sound) {f : OnCallSchedule → OnCallSchedule}
    (same : ∀ row, (f row).teamId = row.teamId ∧ (f row).rotationId = row.rotationId ∧
      (f row).startsAt = row.startsAt ∧ (f row).endsAt = row.endsAt)
    (dead : ∀ row, (f row).deletedAt = none → row.deletedAt = none) :
    RosterDb.Sound { db with schedules := db.schedules.map f } := by
  have apart : ∀ {row other : OnCallSchedule}, row.Apart other → (f row).Apart (f other) := by
    intro row other
    unfold OnCallSchedule.Apart
    rw [(same row).2.2.1, (same row).2.2.2, (same other).2.2.1, (same other).2.2.2]
    exact id
  refine ⟨?_, ?_, ?_, ?_, ?_, sound.ids⟩
  · intro row mem
    obtain ⟨old, memOld, rfl⟩ := List.mem_map.mp mem
    rw [(same old).2.2.1, (same old).2.2.2]
    exact sound.spans old memOld
  · refine pairwise_map.mpr (sound.exclusive.imp fun {row other} exclusive => ?_)
    intro team live liveOther
    rw [(same row).1, (same other).1] at team
    exact apart (exclusive team (dead row live) (dead other liveOther))
  · refine pairwise_map.mpr (sound.distinct.imp fun {row other} distinct => ?_)
    intro id of ofOther
    rw [(same row).2.1] at of
    rw [(same other).2.1] at ofOther
    exact apart (distinct id of ofOther)
  · intro r memR row mem of
    obtain ⟨old, memOld, rfl⟩ := List.mem_map.mp mem
    rw [(same old).2.1] at of
    rw [(same old).1, (same old).2.2.2]
    exact sound.before r memR old memOld of
  · intro row mem id of
    obtain ⟨old, memOld, rfl⟩ := List.mem_map.mp mem
    rw [(same old).2.1] at of
    exact sound.known old memOld id of

end RosterDb.Sound

/-! ### The windows of a tick -/

/-- Windows that lie one after the other between two times. -/
structure Lined (lo : Time) (windows : List GeneratedWindow) (hi : Time) : Prop where
  le : lo ≤ hi
  bounds : ∀ w ∈ windows, lo ≤ w.startsAt ∧ w.startsAt < w.endsAt ∧ w.endsAt ≤ hi
  line : windows.Pairwise fun w w' => w.endsAt ≤ w'.startsAt

theorem planWindows_lined (input : PlanWindowsInput) (maxSteps : Nat)
    (cycle : 0 < input.cycleDays) :
    Lined input.nextStartsAt (planWindows input maxSteps).windows
      (planWindows input maxSteps).cursor.nextStartsAt := by
  have advances : ∀ i, input.startAt i < input.startAt (i + 1) := by
    intro i
    rw [input.startAt_succ]
    exact Nat.lt_add_of_pos_right (Nat.mul_pos cycle (by decide))
  have plan := planWindows_spec input maxSteps 0
  rw [input.resumed_zero] at plan
  rcases plan with ⟨-, windows, -, cursor⟩ | ⟨-, n, steps⟩
  · rw [windows, cursor, input.startAt_zero]
    exact ⟨Nat.le_refl _, fun w mem => (by cases mem), Pairwise.nil⟩
  · rw [steps.windows, steps.cursor, Nat.zero_add]
    refine ⟨?_, ?_, ?_⟩
    · have first := input.startAt_mono (Nat.zero_le n)
      rw [input.startAt_zero] at first
      exact first
    · intro w mem
      obtain ⟨i, memI, rfl⟩ := List.mem_map.mp (mem_of_mem_filter mem)
      have inside := mem_range'_1.mp memI
      have first := input.startAt_mono (Nat.zero_le i)
      rw [input.startAt_zero] at first
      exact ⟨first, advances i, input.startAt_mono (by omega)⟩
    · refine Pairwise.filter _ (pairwise_map.mpr ?_)
      exact (pairwise_lt_range' 1).imp fun {i j} (lt : i < j) => input.startAt_mono lt

theorem Lined.taken {r : OnCallRotation} {plan : PlanWindowsResult}
    {toCreate later : List GeneratedWindow} {blocked : Bool}
    (lined : Lined r.nextStartsAt plan.windows plan.cursor.nextStartsAt)
    (windows : plan.windows = toCreate ++ later) :
    Lined r.nextStartsAt toCreate (cursorAfter r plan toCreate blocked).nextStartsAt := by
  rw [windows] at lined
  have line := (pairwise_append.mp lined.line).1
  have bounds : ∀ w ∈ toCreate, r.nextStartsAt ≤ w.startsAt ∧ w.startsAt < w.endsAt ∧
      w.endsAt ≤ plan.cursor.nextStartsAt := by
    intro w mem
    exact lined.bounds w (mem_append_left _ mem)
  unfold cursorAfter
  split
  · rcases end_ : toCreate.getLast? with _ | last
    · rw [getLast?_eq_none_iff.mp end_]
      exact ⟨Nat.le_refl _, fun w mem => (by cases mem), Pairwise.nil⟩
    · obtain ⟨init, rfl⟩ := getLast?_eq_some_iff.mp end_
      have lastBounds := bounds last (mem_append_right _ (mem_singleton_self _))
      refine ⟨?_, ?_, line⟩
      · exact Nat.le_trans lastBounds.1 (Nat.le_of_lt lastBounds.2.1)
      · intro w mem
        refine ⟨(bounds w mem).1, (bounds w mem).2.1, ?_⟩
        rcases mem_append.mp mem with early | here
        · have first := (pairwise_append.mp line).2.2 w early last (mem_singleton_self _)
          exact Nat.le_trans first (Nat.le_of_lt lastBounds.2.1)
        · rw [mem_singleton.mp here]
  · exact ⟨lined.le, bounds, line⟩

theorem untilClash_free (toISOString : Time → String) (db : RosterDb) (teamId : Id)
    (windows : List GeneratedWindow) :
    ∀ w ∈ (untilClash toISOString db teamId windows).1, clashWith db teamId w = none := by
  induction windows with
  | nil => exact fun w mem => absurd mem not_mem_nil
  | cons w rest ih =>
    cases clash : clashWith db teamId w with
    | some row =>
      simp only [untilClash, clash]
      exact fun w mem => absurd mem not_mem_nil
    | none =>
      simp only [untilClash, clash]
      intro other mem
      rcases mem_cons.mp mem with rfl | later
      · exact clash
      · exact ih other later

theorem apart_of_free {db : RosterDb} {teamId : Id} {w : GeneratedWindow}
    (free : clashWith db teamId w = none) {row : OnCallSchedule} (mem : row ∈ db.schedules)
    (team : row.teamId = teamId) (live : row.deletedAt = none) :
    row.endsAt ≤ w.startsAt ∨ w.endsAt ≤ row.startsAt := by
  have clear := find?_eq_none.mp free row mem
  rw [team, live] at clear
  by_contra overlap
  rw [not_or, Nat.not_le, Nat.not_le] at overlap
  apply clear
  simp only [beq_self_eq_true, isNone_none, Bool.and_self, Bool.true_and,
    Bool.and_eq_true, decide_eq_true_eq]
  exact ⟨overlap.2, overlap.1⟩

section Ticks

variable {toISOString : Time → String} {db : RosterDb} {rotationId : Id} {now : Time}
  {r : OnCallRotation}

theorem RosterDb.activeRotation_spec (found : db.activeRotation rotationId = some r) :
    r ∈ db.rotations ∧ r.id = rotationId ∧ r.status = .active := by
  have named : OnCallRotation.isActive rotationId r := find?_some found
  have is := Bool.and_eq_true_iff.mp named
  exact ⟨mem_of_find?_eq_some found, beq_iff_eq.mp is.1, beq_iff_eq.mp is.2⟩

theorem RosterDb.Sound.eq_of_id (sound : db.Sound) {other : OnCallRotation} (mem : r ∈ db.rotations)
    (memOther : other ∈ db.rotations) (same : r.id = other.id) : r = other :=
  inj_on_of_nodup_map sound.ids mem memOther same

structure TickMakes (toISOString : Time → String) (db : RosterDb) (r : OnCallRotation)
    (now : Time) (toCreate : List GeneratedWindow) (cursor : PlanCursor) (db' : RosterDb) :
    Prop where
  lined : Lined r.nextStartsAt toCreate cursor.nextStartsAt
  free : ∀ w ∈ toCreate, clashWith db r.teamId w = none
  schedules : db'.schedules = db.schedules ++ toCreate.map (r.scheduleOf toISOString)
  rotations : ∃ blockedReason, db'.rotations =
    (db.updateRotation r.id fun row => row.moveTo cursor blockedReason).rotations
  teams : db'.teams = db.teams
  teamMembers : db'.teamMembers = db.teamMembers

theorem RosterDb.Sound.tickMakes (sound : db.Sound)
    (found : db.activeRotation rotationId = some r) (team : db.hasTeam r.teamId) :
    let taken := untilClash toISOString db r.teamId (planFor db r now).windows
    TickMakes toISOString db r now taken.1 (cursorAfter r (planFor db r now) taken.1 taken.2.isSome)
      (generateForRotation toISOString rotationId now false db).1 := by
  intro taken
  obtain ⟨mem, rfl, -⟩ := db.activeRotation_spec found
  have lined : Lined r.nextStartsAt (planFor db r now).windows
      (planFor db r now).cursor.nextStartsAt := by
    have plan := planWindows_lined {
      r.settings db now with
      nextStartsAt := r.nextStartsAt, previous := loadPreviousHolders db r }
      ROTATION_MAX_STEPS_PER_RUN r.cycleDays_pos
    exact plan
  obtain ⟨later, windows, -⟩ := untilClash_prefix toISOString db r.teamId (planFor db r now).windows
  have linedHere : Lined r.nextStartsAt taken.1
      (cursorAfter r (planFor db r now) taken.1 taken.2.isSome).nextStartsAt := lined.taken windows
  have inserted : taken.1.foldl (insertWindow toISOString r) db.schedules =
      db.schedules ++ taken.1.map (r.scheduleOf toISOString) := by
    apply foldl_insertWindow_all
    · intro w memW row memRow of
      exact Nat.lt_of_lt_of_le (sound.spans row memRow) (Nat.le_trans
        (sound.before r mem row memRow of).2 (linedHere.bounds w memW).1)
    · refine linedHere.line.imp_of_mem fun {w w'} memW memW' ends => ?_
      exact Nat.lt_of_lt_of_le (linedHere.bounds w memW).2.1 ends
  have made : (generateForRotation toISOString r.id now false db).1 =
      { db with schedules := taken.1.foldl (insertWindow toISOString r) db.schedules }.updateRotation
        r.id fun row => row.moveTo
          (cursorAfter r (planFor db r now) taken.1 taken.2.isSome)
          (blockedReasonAfter r (planFor db r now) taken.2) := by
    unfold generateForRotation
    rw [found]
    dsimp only
    rw [if_neg Bool.false_ne_true, if_pos team]
  rw [made]
  exact ⟨linedHere, untilClash_free _ _ _ _, inserted, ⟨_, rfl⟩, rfl, rfl⟩

theorem TickMakes.sound {toCreate : List GeneratedWindow} {cursor : PlanCursor} {db' : RosterDb}
    (makes : TickMakes toISOString db r now toCreate cursor db') (sound : db.Sound)
    (mem : r ∈ db.rotations) : db'.Sound := by
  obtain ⟨lined, free, schedules, ⟨blockedReason, rotations⟩, teams, teamMembers⟩ := makes
  -- the cursor is moved first, so that the new windows are before it
  have moved : (db.updateRotation r.id fun row => row.moveTo cursor blockedReason).Sound := by
    refine sound.updateRotation (fun _ => ⟨rfl, rfl⟩) fun other memOther same row memRow of => ?_
    rw [sound.eq_of_id memOther mem same] at of
    exact Nat.le_trans (sound.before r mem row memRow of).2 lined.le
  have own : ∀ {new : OnCallSchedule}, new ∈ toCreate.map (r.scheduleOf toISOString) →
      ∃ w ∈ toCreate, new = r.scheduleOf toISOString w := by
    intro new memNew
    obtain ⟨w, memW, same⟩ := List.mem_map.mp memNew
    exact ⟨w, memW, same.symm⟩
  have appended := @RosterDb.Sound.append _ moved (toCreate.map (r.scheduleOf toISOString))
    ?_ ?_ ?_ ?_ ?_ ?_
  · have same : db' = { (db.updateRotation r.id fun row => row.moveTo cursor blockedReason) with
        schedules := db.schedules ++ toCreate.map (r.scheduleOf toISOString) } := by
      cases db'
      subst schedules
      subst rotations
      subst teams
      subst teamMembers
      rfl
    rw [same]
    exact appended
  · intro new memNew
    obtain ⟨w, memW, rfl⟩ := own memNew
    exact (lined.bounds w memW).2.1
  · exact pairwise_map.mpr (lined.line.imp fun {w w'} ends => Or.inl ends)
  · intro row memRow new memNew team live _
    obtain ⟨w, memW, rfl⟩ := own memNew
    exact apart_of_free (free w memW) memRow team live
  · intro row memRow new memNew id of ofNew
    obtain ⟨w, memW, rfl⟩ := own memNew
    have same : r.id = id := Option.some.inj ofNew
    rw [← same] at of
    exact .inl (Nat.le_trans (sound.before r mem row memRow of).2 (lined.bounds w memW).1)
  · intro other memOther new memNew ofNew
    obtain ⟨w, memW, rfl⟩ := own memNew
    obtain ⟨old, memOld, rfl⟩ := List.mem_map.mp memOther
    have same : old.id = r.id := by
      split at ofNew
      · exact (Option.some.inj ofNew).symm
      · exact (Option.some.inj ofNew).symm
    rw [sound.eq_of_id memOld mem same, if_pos (beq_self_eq_true _)]
    exact ⟨rfl, (lined.bounds w memW).2.2⟩
  · intro new memNew id ofNew
    obtain ⟨w, memW, rfl⟩ := own memNew
    refine ⟨_, List.mem_map_of_mem mem, ?_⟩
    rw [if_pos (beq_self_eq_true _)]
    exact Option.some.inj ofNew

theorem RosterDb.Sound.tick (sound : db.Sound) (lockedElsewhere : Bool) :
    (generateForRotation toISOString rotationId now lockedElsewhere db).1.Sound := by
  rcases found : db.activeRotation rotationId with _ | r
  · unfold generateForRotation
    rw [found]
    exact sound
  · obtain ⟨mem, same, -⟩ := db.activeRotation_spec found
    cases lockedElsewhere with
    | true =>
      unfold generateForRotation
      rw [found]
      exact sound
    | false =>
      by_cases team : db.hasTeam r.teamId = true
      · exact (sound.tickMakes found team).sound sound mem
      · have made : (generateForRotation toISOString rotationId now false db).1 =
            db.updateRotation rotationId
              fun row => { row with blockedReason := some TEAM_DELETED_REASON } := by
          unfold generateForRotation
          rw [found]
          dsimp only
          rw [if_neg Bool.false_ne_true, if_neg team]
        rw [made]
        exact sound.updateRotation (fun _ => ⟨rfl, rfl⟩)
          fun other memOther _ row memRow of => (sound.before other memOther row memRow of).2

end Ticks

/-! ### The other events -/

section Events

variable {toISOString : Time → String} {db : RosterDb} {rotationId : Id} {now : Time}

variable {row : OnCallSchedule} {input : CreateSchedule}

theorem RosterDb.mem_upcoming :
    row ∈ db.upcoming rotationId now ↔
      row ∈ db.schedules ∧ row.rotationId = some rotationId ∧ now < row.startsAt := by
  unfold RosterDb.upcoming
  rw [mem_filter, Bool.and_eq_true, beq_iff_eq, decide_eq_true_eq]

theorem RosterDb.mem_withoutUpcoming :
    row ∈ (db.withoutUpcoming rotationId now).schedules ↔
      row ∈ db.schedules ∧ (row.rotationId = some rotationId → row.startsAt ≤ now) := by
  unfold RosterDb.withoutUpcoming
  rw [mem_filter, Bool.not_eq_true', Bool.and_eq_false_imp, beq_iff_eq]
  simp only [decide_eq_false_iff_not, Nat.not_lt]

theorem RosterDb.earliest_spec {earliest : Time}
    (least : ((db.upcoming rotationId now).map (·.startsAt)).min? = some earliest) :
    (∃ u ∈ db.upcoming rotationId now, u.startsAt = earliest) ∧
      ∀ u ∈ db.upcoming rotationId now, earliest ≤ u.startsAt := by
  obtain ⟨mem, le⟩ := min?_eq_some_iff.mp least
  obtain ⟨u, memU, same⟩ := List.mem_map.mp mem
  exact ⟨⟨u, memU, same⟩, fun u memU => le _ (List.mem_map_of_mem memU)⟩

theorem RosterDb.Sound.left_before (sound : db.Sound) {row u : OnCallSchedule}
    (upcoming : u ∈ db.upcoming rotationId now)
    (left : row ∈ (db.withoutUpcoming rotationId now).schedules)
    (of : row.rotationId = some rotationId) : row.endsAt ≤ u.startsAt := by
  obtain ⟨memU, ofU, later⟩ := RosterDb.mem_upcoming.mp upcoming
  obtain ⟨mem, started⟩ := RosterDb.mem_withoutUpcoming.mp left
  have begun : row.startsAt < u.startsAt := Nat.lt_of_le_of_lt (started of) later
  have different : row ≠ u := by
    rintro rfl
    exact Nat.lt_irrefl _ begun
  rcases sound.distinct.forall mem memU different rotationId of ofU with before | before
  · exact before
  · exact absurd (Nat.lt_of_lt_of_le (sound.spans u memU) before)
      (Nat.not_lt.mpr (Nat.le_of_lt begun))

theorem RosterDb.Sound.release (sound : db.Sound) :
    (releaseUpcomingWindows rotationId now db).Sound := by
  unfold releaseUpcomingWindows
  split
  · exact sound
  · next earliest least =>
    obtain ⟨⟨u, upcoming, rfl⟩, -⟩ := RosterDb.earliest_spec least
    refine (sound.filter _).updateRotation (fun _ => ⟨rfl, rfl⟩) fun r memR same row mem of => ?_
    rw [same] at of
    exact sound.left_before upcoming mem of

theorem RosterDb.Sound.stop (sound : db.Sound) : (stopRotation rotationId now db).Sound := by
  unfold stopRotation
  split
  · exact sound
  · have stopped : (db.updateRotation rotationId
        fun row => { row with status := .stopped }).Sound :=
      sound.updateRotation (fun _ => ⟨rfl, rfl⟩)
        fun r memR _ row mem of => (sound.before r memR row mem of).2
    dsimp only
    split
    · exact stopped.release
    · exact stopped

theorem RosterDb.Sound.resume (sound : db.Sound) {db' : RosterDb}
    (resumed : resumeRotation rotationId db = some db') : db'.Sound := by
  unfold resumeRotation at resumed
  split at resumed
  · cases resumed
  · split at resumed
    · cases resumed
      exact sound
    · split at resumed
      · cases resumed
        exact sound.updateRotation (fun _ => ⟨rfl, rfl⟩)
          fun r memR _ row mem of => (sound.before r memR row mem of).2
      · cases resumed

theorem RosterDb.apart_of_not_excludes (free : db.excludes input = false) (mem : row ∈ db.schedules)
    (team : row.teamId = input.teamId) (live : row.deletedAt = none) :
    row.endsAt ≤ input.startsAt ∨ input.endsAt ≤ row.startsAt := by
  have clear := List.any_eq_false.mp free row mem
  rw [team, live] at clear
  by_contra overlap
  rw [not_or, Nat.not_le, Nat.not_le] at overlap
  apply clear
  simp only [beq_self_eq_true, isNone_none, Bool.and_self, Bool.true_and,
    Bool.and_eq_true, decide_eq_true_eq]
  exact ⟨overlap.2, overlap.1⟩

theorem RosterDb.Sound.requested (sound : db.Sound) {new : OnCallSchedule}
    (free : db.excludes input = false) (team : new.teamId = input.teamId)
    (starts : new.startsAt = input.startsAt) (ends : new.endsAt = input.endsAt)
    (distinct : ∀ row ∈ db.schedules, row.Distinct new)
    (before : ∀ r ∈ db.rotations, new.rotationId = some r.id →
      new.teamId = r.teamId ∧ new.endsAt ≤ r.nextStartsAt)
    (known : ∀ id, new.rotationId = some id → ∃ r ∈ db.rotations, r.id = id) :
    RosterDb.Sound { db with schedules := db.schedules ++ [new] } := by
  refine sound.append ?_ (pairwise_singleton _ _) ?_ ?_ ?_ ?_
  · intro row here
    rw [mem_singleton.mp here, starts, ends]
    exact input.window
  · intro row mem other here same live _
    rw [mem_singleton.mp here] at same ⊢
    unfold OnCallSchedule.Apart
    rw [starts, ends]
    exact RosterDb.apart_of_not_excludes free mem (same.trans team) live
  · intro row mem other here
    rw [mem_singleton.mp here]
    exact distinct row mem
  · intro r memR other here of
    rw [mem_singleton.mp here] at of ⊢
    exact before r memR of
  · intro other here id of
    rw [mem_singleton.mp here] at of
    exact known id of

theorem RosterDb.Sound.created (sound : db.Sound) {input : CreateSchedule}
    {userId : String} {db' : RosterDb} (free : db.excludes input = false)
    (new : ∀ r ∈ db.rotations, r.id ≠ rotationId)
    (created : createRepeating input rotationId userId db = some db') : db'.Sound := by
  unfold createRepeating at created
  split at created
  · cases created
  · split at created
    · cases created
    · cases created
      have added : RosterDb.Sound
          { db with rotations := db.rotations ++ [input.rotation rotationId userId] } := by
        refine ⟨sound.spans, sound.exclusive, sound.distinct, ?_, ?_, ?_⟩
        · intro r memR row mem of
          rcases mem_append.mp memR with old | here
          · exact sound.before r old row mem of
          · rw [mem_singleton.mp here] at of
            obtain ⟨other, memOther, same⟩ := sound.known row mem _ of
            exact absurd same (new other memOther)
        · intro row mem id of
          obtain ⟨r, memR, same⟩ := sound.known row mem id of
          exact ⟨r, mem_append_left _ memR, same⟩
        · rw [map_append]
          refine sound.ids.append (nodup_singleton _) ?_
          intro id memId here
          obtain ⟨r, memR, same⟩ := List.mem_map.mp memId
          rw [map_singleton, mem_singleton] at here
          exact new r memR (same.trans here)
      refine RosterDb.Sound.requested added free rfl rfl rfl ?_ ?_ ?_
      · intro row mem id of ofNew
        cases Option.some.inj ofNew
        obtain ⟨r, memR, same⟩ := sound.known row mem _ of
        exact absurd same (new r memR)
      · intro r memR of
        rcases mem_append.mp memR with old | last
        · exact absurd (Option.some.inj of).symm (new r old)
        · rw [mem_singleton.mp last]
          exact ⟨rfl, Nat.le_refl _⟩
      · intro id of
        exact ⟨_, mem_append_right _ (mem_singleton_self _), Option.some.inj of⟩

theorem RosterDb.Sound.apply (sound : db.Sound) (event : RosterEvent) :
    (db.apply toISOString event).Sound := by
  cases event with
  | tick tick => exact sound.tick tick.lockedElsewhere
  | createWindow input userId =>
    simp only [RosterDb.apply]
    split
    · exact sound
    · next free =>
      rw [Bool.not_eq_true] at free
      exact sound.requested free rfl rfl rfl (fun _ _ _ _ ofNew => by cases ofNew)
        (fun _ _ of => by cases of) fun _ of => by cases of
  | createRepeating input rotationId userId =>
    simp only [RosterDb.apply]
    split
    · exact sound
    · next free =>
      rw [Bool.not_eq_true, Bool.or_eq_false_iff] at free
      rcases created : createRepeating input rotationId userId db with _ | db'
      · exact sound
      · refine sound.created free.1 (fun r memR same => ?_) created
        exact List.any_eq_false.mp free.2 r memR (beq_iff_eq.mpr same)
  | deleteWindow teamId startsAt now =>
    refine sound.marked (fun row => ?_) fun row => ?_
    · split
      · exact ⟨rfl, rfl, rfl, rfl⟩
      · exact ⟨rfl, rfl, rfl, rfl⟩
    · split
      · exact fun live => by cases live
      · exact id
  | setEndsOn rotationId endsOn =>
    exact sound.updateRotation (fun _ => ⟨rfl, rfl⟩)
      fun r memR _ row mem of => (sound.before r memR row mem of).2
  | stop rotationId now => exact sound.stop
  | resume rotationId =>
    simp only [RosterDb.apply]
    rcases resumed : resumeRotation rotationId db with _ | db'
    · exact sound
    · exact sound.resume resumed

theorem RosterDb.Sound.after (sound : db.Sound) (events : List RosterEvent) :
    (db.after toISOString events).Sound := by
  induction events generalizing db with
  | nil => exact sound
  | cons event events ih => exact ih (sound.apply event)

end Events

/-- Whatever happens from an empty roster on: a team has one live window at a time at most, and the
windows that a rotation has made, deleted ones included, are windows of its team, of which no two
overlap and none is still to come when the next one starts. -/
theorem one_on_call (toISOString : Time → String) (teams : List RosterTeam)
    (teamMembers : List TeamMember) (events : List RosterEvent) :
    let db := RosterDb.after toISOString ⟨teams, teamMembers, [], []⟩ events
    (∀ row ∈ db.schedules, ∀ other ∈ db.schedules, ∀ t, row.teamId = other.teamId →
      row.deletedAt = none → other.deletedAt = none → row.startsAt ≤ t ∧ t < row.endsAt →
        other.startsAt ≤ t ∧ t < other.endsAt → row = other) ∧
      db.schedules.Pairwise OnCallSchedule.Distinct ∧
      ∀ r ∈ db.rotations, ∀ row ∈ db.schedules, row.rotationId = some r.id →
        row.teamId = r.teamId ∧ row.endsAt ≤ r.nextStartsAt := by
  intro db
  have sound : db.Sound := (RosterDb.Sound.empty teams teamMembers).after events
  refine ⟨?_, sound.distinct, sound.before⟩
  intro row mem other memOther t team live liveOther covers coversOther
  by_contra different
  rcases sound.exclusive.forall mem memOther different team live liveOther with before | before
  · exact Nat.lt_irrefl t (covers.2.trans_le (before.trans coversOther.1))
  · exact Nat.lt_irrefl t (coversOther.2.trans_le (before.trans covers.1))

end OpenWind
