import OpenWind.OnCall.RosterEvents

/-!
# Stopping and resuming a rotation
-/

open List Option Bool Function

namespace OpenWind

open OnCallSchedule RosterDb OnCallRotation RosterDb.Sound

def RosterDb.windows (db : RosterDb) (rotationId : Id) : List GeneratedWindow :=
  (db.schedules.filter (OnCallSchedule.isLiveOf rotationId)).map OnCallSchedule.toWindow

variable {db : RosterDb} {rotationId : Id}

theorem latestWindow_none :
    latestWindow db rotationId = none ↔ ∀ row ∈ db.schedules, isLiveOf rotationId row = false := by
  unfold latestWindow
  rw [argmax_eq_none, filter_eq_nil_iff]
  simp only [not_eq_true]

theorem latestWindow_some {latest : OnCallSchedule} (is : latestWindow db rotationId = some latest) :
    latest ∈ db.schedules ∧ isLiveOf rotationId latest ∧
      ∀ row ∈ db.schedules, isLiveOf rotationId row → row.startsAt ≤ latest.startsAt := by
  obtain ⟨mem, live⟩ := mem_filter.mp (argmax_mem is)
  exact ⟨mem, live, fun row memRow liveRow =>
    le_of_mem_argmax (mem_filter.mpr ⟨memRow, liveRow⟩) is⟩

theorem OnCallSchedule.isLiveOf_iff {row : OnCallSchedule} :
    isLiveOf rotationId row ↔ row.rotationId = some rotationId ∧ row.deletedAt = none := by
  unfold isLiveOf
  rw [and_eq_true, beq_iff_eq, isNone_iff_eq_none]

/-- What the generator reads of a row. -/
def OnCallSchedule.plain (row : OnCallSchedule) : OnCallSchedule :=
  { row with label := "", createdBy := "" }

def OnCallRotation.plain (r : OnCallRotation) : OnCallRotation := { r with blockedReason := none }

theorem OnCallRotation.id_of_plain (r : OnCallRotation) {r' : OnCallRotation}
    (same : r.plain = r'.plain) : r.id = r'.id := by
  have ids : r.plain.id = r'.plain.id := by rw [same]
  exact ids

/-- The same windows, and rotations that go on in the same way. -/
structure RosterDb.Alike (db other : RosterDb) : Prop where
  teams : db.teams = other.teams
  teamMembers : db.teamMembers = other.teamMembers
  rotations : Forall₂ (fun r r' : OnCallRotation => r.plain = r'.plain) db.rotations other.rotations
  schedules : (db.schedules.map OnCallSchedule.plain).Perm
    (other.schedules.map OnCallSchedule.plain)

namespace RosterDb.Alike

variable {db other : RosterDb} {rotationId : Id} {r r' : OnCallRotation}

section

variable (alike : db.Alike other)

include alike

theorem symm : other.Alike db :=
  ⟨alike.teams.symm, alike.teamMembers.symm, alike.rotations.flip.imp fun _ _ => Eq.symm,
    alike.schedules.symm⟩

theorem any_congr {p : OnCallSchedule → Bool}
    (reads : ∀ row, p row.plain = p row) : db.schedules.any p = other.schedules.any p := by
  have plainly : ∀ rows : List OnCallSchedule, rows.any p = (rows.map OnCallSchedule.plain).any p := by
    intro rows
    rw [List.any_map]
    congr 1
    exact funext fun row => (reads row).symm
  rw [plainly db.schedules, plainly other.schedules, alike.schedules.any_eq]

theorem row {row : OnCallSchedule} (mem : row ∈ db.schedules) :
    ∃ row' ∈ other.schedules, row'.plain = row.plain :=
  List.mem_map.mp (alike.schedules.mem_iff.mp (List.mem_map_of_mem mem))

theorem hasTeam_congr (teamId : Id) : db.hasTeam teamId = other.hasTeam teamId := by
  unfold hasTeam
  rw [alike.teams]

theorem members_congr (teamId : Id) :
    loadTeamMemberIds db teamId = loadTeamMemberIds other teamId := by
  unfold loadTeamMemberIds
  rw [alike.teamMembers]

theorem find_congr {p : OnCallRotation → Bool} (reads : ∀ r, p r.plain = p r) :
    (db.rotations.find? p).map OnCallRotation.plain =
      (other.rotations.find? p).map OnCallRotation.plain := by
  have lists := alike.rotations
  generalize db.rotations = rows at lists
  generalize other.rotations = rows' at lists
  induction lists with
  | nil => rfl
  | @cons r r' rest rest' same _ ih =>
    have agree : p r = p r' := by rw [← reads r, same, reads r']
    rw [find?_cons, find?_cons, agree]
    split
    · exact congrArg some same
    · exact ih

theorem updateRotation {f g : OnCallRotation → OnCallRotation}
    (same : ∀ r r', r.plain = r'.plain → (f r).plain = (g r').plain) :
    (db.updateRotation rotationId f).Alike (other.updateRotation rotationId g) := by
  refine ⟨alike.teams, alike.teamMembers, ?_, alike.schedules⟩
  unfold RosterDb.updateRotation
  dsimp only
  rw [forall₂_map_left_iff, forall₂_map_right_iff]
  refine alike.rotations.imp fun r r' plain => ?_
  rw [r.id_of_plain plain]
  split
  · exact same r r' plain
  · exact plain

end

theorem isLiveOf_congr {row row' : OnCallSchedule} (plain : row'.plain = row.plain) :
    isLiveOf rotationId row' = isLiveOf rotationId row := by
  have plains := congrArg (isLiveOf rotationId) plain
  exact plains

theorem toWindow_congr {row row' : OnCallSchedule} (plain : row'.plain = row.plain) :
    row'.toWindow = row.toWindow := by
  have plains := congrArg toWindow plain
  exact plains

theorem latest_congr (alike : db.Alike other) (sound : other.Sound) :
    (latestWindow db rotationId).map toWindow = (latestWindow other rotationId).map toWindow := by
  rcases latest : latestWindow db rotationId with _ | m
  · rcases latest' : latestWindow other rotationId with _ | m'
    · rfl
    · obtain ⟨mem, live, -⟩ := latestWindow_some latest'
      obtain ⟨row, memRow, plain⟩ := alike.symm.row mem
      rw [← isLiveOf_congr plain, latestWindow_none.mp latest row memRow] at live
      cases live
  · obtain ⟨mem, live, last⟩ := latestWindow_some latest
    obtain ⟨row, memRow, plain⟩ := alike.row mem
    have liveRow : isLiveOf rotationId row :=
      (isLiveOf_congr plain).trans live
    rcases latest' : latestWindow other rotationId with _ | m'
    · rw [latestWindow_none.mp latest' row memRow] at liveRow
      cases liveRow
    · obtain ⟨mem', live', last'⟩ := latestWindow_some latest'
      obtain ⟨row', memRow', plain'⟩ := alike.symm.row mem'
      -- both are the last to start, and only one window starts then
      have starts : row.startsAt = m.startsAt :=
        congrArg GeneratedWindow.startsAt (toWindow_congr plain)
      have starts' : row'.startsAt = m'.startsAt :=
        congrArg GeneratedWindow.startsAt (toWindow_congr plain')
      have le := last row' memRow' ((isLiveOf_congr plain').trans live')
      have ge := last' row memRow liveRow
      rw [starts'] at le
      rw [starts] at ge
      have same : row = m' := sound.eq_of_start memRow mem'
        (isLiveOf_iff.mp liveRow).1 (isLiveOf_iff.mp live').1
        (starts.trans (Nat.le_antisymm ge le))
      rw [map_some, map_some, ← same, toWindow_congr plain]

theorem holders_congr (alike : db.Alike other) (sound : other.Sound) (same : r.plain = r'.plain) :
    loadPreviousHolders db r = loadPreviousHolders other r' := by
  have cursors : (⟨some r.plain.lastPrimaryUserId, r.plain.lastBackupUserId⟩ : RotationHolders) =
      ⟨some r'.plain.lastPrimaryUserId, r'.plain.lastBackupUserId⟩ := by rw [same]
  have latest : (latestWindow db r.id).map toWindow = _ := alike.latest_congr sound
  unfold loadPreviousHolders
  rw [r.id_of_plain same] at latest ⊢
  rcases here : latestWindow db r'.id with _ | m
  · rw [here, map_none] at latest
    rw [map_eq_none_iff.mp latest.symm]
    exact cursors
  · rw [here, map_some] at latest
    obtain ⟨m', there, windows⟩ := map_eq_some_iff.mp latest.symm
    rw [there]
    have primaries : m'.primaryUserId = m.primaryUserId :=
      congrArg GeneratedWindow.primary windows
    have backups : m'.backupUserId = m.backupUserId := congrArg GeneratedWindow.backup windows
    dsimp only
    rw [primaries, backups]

theorem plan_congr (alike : db.Alike other) (sound : other.Sound) (same : r.plain = r'.plain)
    (now : Time) : planFor db r now = planFor other r' now := by
  have settings : r.settings db now = r'.settings other now := by
    refine (congrArg (fun r => OnCallRotation.settings r db now) same).trans ?_
    unfold OnCallRotation.settings
    rw [alike.members_congr]
    rfl
  have cursors : r.nextStartsAt = r'.nextStartsAt := congrArg (fun r => r.nextStartsAt) same
  unfold planFor
  rw [settings, alike.holders_congr sound same, cursors]

theorem untilClash_congr (alike : db.Alike other) (toISOString : Time → String) (teamId : Id)
    (windows : List GeneratedWindow) :
    (untilClash toISOString db teamId windows).1 = (untilClash toISOString other teamId windows).1 ∧
      (untilClash toISOString db teamId windows).2.isSome =
        (untilClash toISOString other teamId windows).2.isSome := by
  induction windows with
  | nil => exact ⟨rfl, rfl⟩
  | cons w rest ih =>
    have clashes : (clashWith db teamId w).isSome = (clashWith other teamId w).isSome := by
      unfold clashWith
      rw [isSome_find?, isSome_find?]
      exact alike.any_congr fun _ => rfl
    rcases here : clashWith db teamId w with _ | row
    · rw [here, isSome_none] at clashes
      have there := isSome_eq_false_iff.mp clashes.symm
      rw [isNone_iff_eq_none] at there
      simp only [untilClash, here, there]
      exact ⟨congrArg (w :: ·) ih.1, ih.2⟩
    · rw [here, isSome_some] at clashes
      obtain ⟨row', there⟩ := isSome_iff_exists.mp clashes.symm
      simp only [untilClash, here, there]
      exact ⟨trivial, rfl⟩

theorem cursorAfter_congr (same : r.plain = r'.plain) (plan : PlanWindowsResult)
    (toCreate : List GeneratedWindow) (blocked : Bool) :
    cursorAfter r plan toCreate blocked = cursorAfter r' plan toCreate blocked := by
  have plains := congrArg (fun r => cursorAfter r plan toCreate blocked) same
  exact plains

theorem makes {toISOString : Time → String} {now : Time} {toCreate : List GeneratedWindow}
    {cursor : PlanCursor} {db' other' : RosterDb} (alike : db.Alike other)
    (same : r.plain = r'.plain) (makes : TickMakes toISOString db r now toCreate cursor db')
    (makes' : TickMakes toISOString other r' now toCreate cursor other') : db'.Alike other' := by
  have rows : ∀ w, (r.scheduleOf toISOString w).plain = (r'.scheduleOf toISOString w).plain := by
    intro w
    have plains := congrArg (fun r => (OnCallRotation.scheduleOf r toISOString w).plain) same
    exact plains
  obtain ⟨reason, rotations⟩ := makes.rotations
  obtain ⟨reason', rotations'⟩ := makes'.rotations
  have moved : (db.updateRotation r.id fun row => row.moveTo cursor reason).Alike
      (other.updateRotation r.id fun row => row.moveTo cursor reason') :=
    alike.updateRotation fun _ _ same => congrArg (fun r => r.moveTo cursor none) same
  refine ⟨?_, ?_, ?_, ?_⟩
  · rw [makes.teams, makes'.teams, alike.teams]
  · rw [makes.teamMembers, makes'.teamMembers, alike.teamMembers]
  · rw [rotations, rotations', ← r.id_of_plain same]
    exact moved.rotations
  · rw [makes.schedules, makes'.schedules, map_append, map_append, List.map_map,
      List.map_map]
    refine alike.schedules.append (Perm.of_eq (map_congr_left fun w _ => rows w))

/-- A tick on both. -/
theorem tick (toISOString : Time → String) (alike : db.Alike other) (sound : db.Sound)
    (sound' : other.Sound) (now : Time) (lockedElsewhere : Bool) :
    (generateForRotation toISOString rotationId now lockedElsewhere db).1.Alike
      (generateForRotation toISOString rotationId now lockedElsewhere other).1 := by
  have active : (db.activeRotation rotationId).map OnCallRotation.plain =
      (other.activeRotation rotationId).map OnCallRotation.plain :=
    alike.find_congr fun _ => rfl
  rcases found : db.activeRotation rotationId with _ | r
  · rw [found, map_none] at active
    have found' := map_eq_none_iff.mp active.symm
    unfold generateForRotation
    rw [found, found']
    exact alike
  · rw [found, map_some] at active
    obtain ⟨r', found', same⟩ := map_eq_some_iff.mp active.symm
    have same : r.plain = r'.plain := same.symm
    have teamId : r.teamId = r'.teamId := congrArg (fun r => r.teamId) same
    cases lockedElsewhere with
    | true =>
      unfold generateForRotation
      rw [found, found']
      exact alike
    | false =>
      by_cases team : db.hasTeam r.teamId = true
      · have team' : other.hasTeam r'.teamId := by
          rw [← teamId, ← alike.hasTeam_congr]
          exact team
        have here := @tickMakes toISOString _ _ now _ sound found team
        have there := @tickMakes toISOString _ _ now _ sound' found' team'
        have taken := alike.untilClash_congr toISOString r.teamId (planFor db r now).windows
        rw [alike.plan_congr sound' same now, teamId] at taken
        dsimp only at here there
        rw [alike.plan_congr sound' same now, teamId, taken.1, taken.2,
          cursorAfter_congr same] at here
        exact alike.makes same here there
      · have team' : ¬ other.hasTeam r'.teamId := by
          rw [← teamId, ← alike.hasTeam_congr]
          exact team
        unfold generateForRotation
        rw [found, found']
        dsimp only
        rw [if_neg Bool.false_ne_true, if_neg Bool.false_ne_true, if_neg team, if_neg team']
        refine alike.updateRotation fun r r' same => ?_
        exact same

section

variable (alike : db.Alike other)

include alike

theorem filter_congr {p : OnCallSchedule → Bool} (reads : ∀ row, p row.plain = p row) :
    ((db.schedules.filter p).map OnCallSchedule.plain).Perm
      ((other.schedules.filter p).map OnCallSchedule.plain) := by
  have plainly : ∀ rows : List OnCallSchedule, (rows.filter p).map OnCallSchedule.plain =
      (rows.map OnCallSchedule.plain).filter p := by
    intro rows
    rw [List.filter_map]
    congr 2
    exact funext fun row => (reads row).symm
  rw [plainly db.schedules, plainly other.schedules]
  exact alike.schedules.filter p

theorem windows_perm : (db.windows rotationId).Perm (other.windows rotationId) := by
  have rows := alike.filter_congr (fun row => (rfl : isLiveOf rotationId row.plain =
    isLiveOf rotationId row))
  have windows := rows.map toWindow
  rw [List.map_map, List.map_map] at windows
  exact windows

theorem earliest_congr (now : Time) :
    ((db.upcoming rotationId now).map (·.startsAt)).min? =
      ((other.upcoming rotationId now).map (·.startsAt)).min? := by
  have rows : ((db.upcoming rotationId now).map OnCallSchedule.plain).Perm
      ((other.upcoming rotationId now).map OnCallSchedule.plain) :=
    alike.filter_congr fun _ => rfl
  have starts := rows.map (·.startsAt)
  rw [List.map_map, List.map_map] at starts
  have perm : ((db.upcoming rotationId now).map (·.startsAt)).Perm
      ((other.upcoming rotationId now).map (·.startsAt)) := starts
  rcases least : ((other.upcoming rotationId now).map (·.startsAt)).min? with _ | earliest
  · rw [min?_eq_none_iff.mp least] at perm
    rw [least, perm.eq_nil]
    rfl
  · obtain ⟨mem, le⟩ := min?_eq_some_iff.mp least
    rw [least, min?_eq_some_iff]
    exact ⟨perm.mem_iff.mpr mem, fun start memStart => le start (perm.mem_iff.mp memStart)⟩

theorem release (now : Time) :
    (releaseUpcomingWindows rotationId now db).Alike (releaseUpcomingWindows rotationId now other) := by
  have without : (db.withoutUpcoming rotationId now).Alike (other.withoutUpcoming rotationId now) :=
    ⟨alike.teams, alike.teamMembers, alike.rotations, alike.filter_congr fun _ => rfl⟩
  unfold releaseUpcomingWindows
  rw [alike.earliest_congr]
  split
  · exact alike
  · next earliest _ =>
    exact without.updateRotation fun _ _ same =>
      congrArg (fun r => { r with nextStartsAt := earliest }) same

theorem setStatus (status : RotationStatus) (reason reason' : OnCallRotation → Option String) :
    (db.updateRotation rotationId fun row => { row with status, blockedReason := reason row }).Alike
      (other.updateRotation rotationId
        fun row => { row with status, blockedReason := reason' row }) :=
  alike.updateRotation fun _ _ same => congrArg (fun r => { r with status }) same

theorem stop (now : Time) :
    (stopRotation rotationId now db).Alike (stopRotation rotationId now other) := by
  have found : (db.findRotation rotationId).map OnCallRotation.plain =
      (other.findRotation rotationId).map OnCallRotation.plain :=
    alike.find_congr fun _ => rfl
  have stopped := @setStatus _ _ rotationId alike .stopped (·.blockedReason) (·.blockedReason)
  unfold stopRotation
  rcases here : db.findRotation rotationId with _ | r
  · rw [here, map_none] at found
    rw [map_eq_none_iff.mp found.symm]
    exact alike
  · rw [here, map_some] at found
    obtain ⟨r', there, same⟩ := map_eq_some_iff.mp found.symm
    have status : r'.status = r.status := congrArg (fun r => r.status) same
    rw [there]
    dsimp only
    rw [status]
    split
    · exact stopped.release now
    · exact stopped

theorem any_rotation_congr {p : OnCallRotation → Bool}
    (reads : ∀ r, p r.plain = p r) : db.rotations.any p = other.rotations.any p := by
  have found := congrArg Option.isSome (alike.find_congr reads)
  rw [isSome_map, isSome_map, isSome_find?, isSome_find?] at found
  exact found

theorem resume :
    ((resumeRotation rotationId db).getD db).Alike
      ((resumeRotation rotationId other).getD other) := by
  have found : (db.findRotation rotationId).map OnCallRotation.plain =
      (other.findRotation rotationId).map OnCallRotation.plain :=
    alike.find_congr fun _ => rfl
  unfold resumeRotation
  rcases here : db.findRotation rotationId with _ | r
  · rw [here, map_none] at found
    rw [map_eq_none_iff.mp found.symm]
    exact alike
  · rw [here, map_some] at found
    obtain ⟨r', there, same⟩ := map_eq_some_iff.mp found.symm
    have status : r'.status = r.status := congrArg (fun r => r.status) same
    have teamId : r'.teamId = r.teamId := congrArg (fun r => r.teamId) same
    rw [there]
    dsimp only
    rw [status, teamId, alike.hasTeam_congr, alike.members_congr,
      alike.any_rotation_congr fun _ => rfl]
    split
    · exact alike
    · split
      · exact alike.setStatus .active (fun _ => none) (fun _ => none)
      · exact alike

end

/-- Whatever happens to both. -/
theorem apply (toISOString : Time → String) (alike : db.Alike other) (sound : db.Sound)
    (sound' : other.Sound) (event : RosterEvent) :
    (db.apply toISOString event).Alike (other.apply toISOString event) := by
  cases event with
  | tick tick => exact alike.tick toISOString sound sound' tick.now tick.lockedElsewhere
  | createWindow input userId =>
    have excludes : db.excludes input = other.excludes input := alike.any_congr fun _ => rfl
    simp only [RosterDb.apply, excludes]
    split
    · exact alike
    · refine ⟨alike.teams, alike.teamMembers, alike.rotations, ?_⟩
      rw [map_append, map_append]
      exact alike.schedules.append_right _
  | createRepeating input rotationId userId =>
    have excludes : db.excludes input = other.excludes input := alike.any_congr fun _ => rfl
    have ids : db.rotations.any (·.id == rotationId) = other.rotations.any (·.id == rotationId) :=
      alike.any_rotation_congr fun _ => rfl
    simp only [RosterDb.apply, excludes, ids]
    split
    · exact alike
    · unfold createRepeating
      rw [alike.members_congr, alike.any_rotation_congr fun _ => rfl]
      split
      · exact alike
      · split
        · exact alike
        · refine ⟨alike.teams, alike.teamMembers, ?_, ?_⟩
          · exact rel_append alike.rotations (.cons rfl .nil)
          · rw [getD_some, getD_some, map_append, map_append]
            exact alike.schedules.append_right _
  | deleteWindow teamId startsAt now =>
    refine ⟨alike.teams, alike.teamMembers, alike.rotations, ?_⟩
    have plainly : ∀ rows : List OnCallSchedule,
        (rows.map fun row => if row.isLiveAt teamId startsAt then { row with deletedAt := some now }
          else row).map OnCallSchedule.plain =
        (rows.map OnCallSchedule.plain).map fun row =>
          if row.isLiveAt teamId startsAt then { row with deletedAt := some now } else row := by
      intro rows
      rw [List.map_map, List.map_map]
      refine map_congr_left fun row _ => ?_
      have reads : row.plain.isLiveAt teamId startsAt = row.isLiveAt teamId startsAt := rfl
      simp only [comp, reads]
      split
      · rfl
      · rfl
    simp only [RosterDb.apply]
    rw [plainly db.schedules, plainly other.schedules]
    exact alike.schedules.map _
  | setEndsOn rotationId endsOn =>
    exact alike.updateRotation fun _ _ same => congrArg (fun r => { r with endsOn }) same
  | stop rotationId now => exact alike.stop now
  | resume rotationId => exact alike.resume

theorem after (toISOString : Time → String) (alike : db.Alike other) (sound : db.Sound)
    (sound' : other.Sound) (events : List RosterEvent) :
    (db.after toISOString events).Alike (other.after toISOString events) := by
  induction events generalizing db other with
  | nil => exact alike
  | cons event events ih =>
    exact ih (alike.apply toISOString sound sound' event) (sound.apply event) (sound'.apply event)

end RosterDb.Alike

/-! ## Plans of one window at most -/

theorem planWindows_early (input : PlanWindowsInput) (maxSteps : Nat)
    (later : input.dueUntilMs < input.nextStartsAt) :
    (planWindows input maxSteps).windows = [] ∧ (planWindows input maxSteps).cursor =
      ⟨input.nextStartsAt, input.previous.primary, input.previous.backup⟩ := by
  unfold planWindows
  split
  · exact ⟨rfl, rfl⟩
  · unfold stepWindows
    dsimp only
    rw [if_neg (Nat.not_le.mpr later)]
    exact ⟨rfl, rfl⟩

/-- The roster has ended. -/
theorem planWindows_past (input : PlanWindowsInput) (maxSteps : Nat)
    (past : input.isPastEnd input.nextStartsAt) :
    (planWindows input maxSteps).windows = [] ∧ (planWindows input maxSteps).cursor =
      ⟨input.nextStartsAt, input.previous.primary, input.previous.backup⟩ := by
  unfold planWindows
  split
  · exact ⟨rfl, rfl⟩
  · unfold stepWindows
    dsimp only
    rw [if_pos past]
    split
    · exact ⟨rfl, rfl⟩
    · exact ⟨rfl, rfl⟩

theorem planWindows_one (input : PlanWindowsInput) (maxSteps : Nat) (some' : input.members ≠ [])
    (due : input.nextStartsAt ≤ input.dueUntilMs)
    (within : input.isPastEnd input.nextStartsAt = false)
    (open' : input.now < input.nextStartsAt + input.cycleMs)
    (later : input.dueUntilMs < input.nextStartsAt + input.cycleMs) :
    let next := assignNext input.members input.previous
    (planWindows input (maxSteps + 1)).windows = [⟨input.nextStartsAt,
        input.nextStartsAt + input.cycleMs, next.primary, next.backup, input.keptManager⟩] ∧
      (planWindows input (maxSteps + 1)).cursor =
        ⟨input.nextStartsAt + input.cycleMs, some next.primary, next.backup⟩ := by
  intro next
  unfold planWindows
  rw [if_neg some']
  unfold stepWindows
  dsimp only
  rw [if_pos due, if_neg (eq_false_iff.mp within)]
  have opens : input.isOpen ⟨input.nextStartsAt, input.nextStartsAt + input.cycleMs, next.primary,
      next.backup, input.keptManager⟩ := decide_eq_true open'
  have stops : stepWindows input.toPlanSettings maxSteps (input.nextStartsAt + input.cycleMs)
      next.holders = {
        windows := [], skippedEnded := 0, capped := false, stoppedBy := none
        cursor := ⟨input.nextStartsAt + input.cycleMs, some next.primary, next.backup⟩ } := by
    generalize input.nextStartsAt + input.cycleMs = endMs at later
    unfold stepWindows
    dsimp only
    rw [if_neg (Nat.not_le.mpr later)]
    rfl
  rw [if_pos opens, stops]
  exact ⟨rfl, rfl⟩

def OnCallRotation.windowFrom (r : OnCallRotation) (db : RosterDb) (startsAt : Time) :
    GeneratedWindow :=
  let members := loadTeamMemberIds db r.teamId
  let next := assignNext members (loadPreviousHolders db r)
  { startsAt, endsAt := startsAt + r.cycleDays * DAY_MS, primary := next.primary
    backup := next.backup
    escalationManager := r.escalationManagerUserId.filter fun userId =>
      userId != "" && members.contains userId }

/-! ## The store after the rotation was resumed -/

section Resumed

variable {db resumed : RosterDb} {rotationId : Id} {r : OnCallRotation} {now : Time}

theorem RosterDb.findRotation_updateRotation {f : OnCallRotation → OnCallRotation}
    (kept : ∀ r, (f r).id = r.id) :
    (db.updateRotation rotationId f).findRotation rotationId =
      (db.findRotation rotationId).map f := by
  unfold RosterDb.updateRotation RosterDb.findRotation
  dsimp only
  have same : ((fun row : OnCallRotation => row.id == rotationId) ∘
      fun row => if (row.id == rotationId) = true then f row else row) =
      fun row => row.id == rotationId := by
    funext row
    dsimp only [comp]
    split
    · rw [kept row]
    · rfl
  rw [find?_map, same]
  refine Option.map_congr fun row found => ?_
  have named : (row.id == rotationId) :=
    find?_some (p := fun row : OnCallRotation => row.id == rotationId) found
  rw [if_pos named]

theorem RosterDb.updateRotation_updateRotation {f g : OnCallRotation → OnCallRotation}
    (kept : ∀ r, (f r).id = r.id) :
    (db.updateRotation rotationId f).updateRotation rotationId g =
      db.updateRotation rotationId fun row => g (f row) := by
  unfold RosterDb.updateRotation
  dsimp only
  rw [List.map_map]
  congr 1
  refine map_congr_left fun row _ => ?_
  by_cases its : (row.id == rotationId) = true
  · have itsToo : ((f row).id == rotationId) := by
      rw [kept]
      exact its
    simp only [comp, if_pos its, if_pos itsToo]
  · simp only [comp, if_neg its]

theorem RosterDb.Sound.findRotation (sound : db.Sound)
    (active : db.activeRotation rotationId = some r) : db.findRotation rotationId = some r := by
  obtain ⟨mem, rfl, -⟩ := db.activeRotation_spec active
  rcases found : db.findRotation r.id with _ | other
  · have none' := find?_eq_none.mp found r mem
    exact absurd (beq_self_eq_true r.id) none'
  · have named : (other.id == r.id) :=
      find?_some (p := fun row : OnCallRotation => row.id == r.id) found
    rw [sound.eq_of_id (mem_of_find?_eq_some found) mem (beq_iff_eq.mp named)]

def OnCallRotation.stoppedAt (startsAt : Option Time) (r : OnCallRotation) : OnCallRotation :=
  { r with status := .stopped, nextStartsAt := startsAt.getD r.nextStartsAt }

/-- The rotation goes on where the first window that was removed began. -/
def OnCallRotation.resumedAt (startsAt : Option Time) (r : OnCallRotation) : OnCallRotation :=
  { r with
    status := .active, blockedReason := none, nextStartsAt := startsAt.getD r.nextStartsAt }

/-- Where the first upcoming window begins. -/
def RosterDb.firstUpcoming (db : RosterDb) (rotationId : Id) (now : Time) : Option Time :=
  ((db.upcoming rotationId now).map (·.startsAt)).min?

theorem RosterDb.withoutUpcoming_self (none' : db.upcoming rotationId now = []) :
    db.withoutUpcoming rotationId now = db := by
  unfold withoutUpcoming
  have all : (db.schedules.filter fun row =>
      !(row.rotationId == some rotationId && decide (now < row.startsAt))) = db.schedules := by
    refine filter_eq_self.mpr fun row mem => ?_
    have out := filter_eq_nil_iff.mp none' row mem
    rw [not_eq_true] at out
    rw [out, Bool.not_false]
  rw [all]

theorem RosterDb.Sound.stopped_eq (sound : db.Sound)
    (active : db.activeRotation rotationId = some r) :
    stopRotation rotationId now db = (db.withoutUpcoming rotationId now).updateRotation rotationId
      (stoppedAt (db.firstUpcoming rotationId now)) := by
  unfold stopRotation
  rw [sound.findRotation active]
  dsimp only
  rw [if_pos (db.activeRotation_spec active).2.2]
  unfold releaseUpcomingWindows firstUpcoming
  have upcoming : (db.updateRotation rotationId fun row =>
      { row with status := .stopped }).upcoming rotationId now = db.upcoming rotationId now := rfl
  rw [upcoming]
  split
  · next none' =>
    rw [none']
    rw [min?_eq_none_iff, map_eq_nil_iff] at none'
    rw [withoutUpcoming_self none']
    rfl
  · next earliest some' =>
    rw [some']
    have kept : ∀ row : OnCallRotation, { row with status := .stopped }.id = row.id := fun _ => rfl
    exact @updateRotation_updateRotation (db.withoutUpcoming rotationId now) rotationId
      (fun row => { row with status := .stopped }) (fun row => { row with nextStartsAt := earliest })
      kept

theorem RosterDb.Sound.resumed_eq (sound : db.Sound)
    (active : db.activeRotation rotationId = some r)
    (resumes : resumeRotation rotationId (stopRotation rotationId now db) = some resumed) :
    resumed = (db.withoutUpcoming rotationId now).updateRotation rotationId
        (resumedAt (db.firstUpcoming rotationId now)) ∧
      db.hasTeam r.teamId ∧ loadTeamMemberIds db r.teamId ≠ [] := by
  have kept : ∀ row : OnCallRotation,
      (stoppedAt (db.firstUpcoming rotationId now) row).id = row.id := fun _ => rfl
  have found : (db.withoutUpcoming rotationId now).findRotation rotationId = some r :=
    sound.findRotation active
  rw [sound.stopped_eq active] at resumes
  unfold resumeRotation at resumes
  rw [findRotation_updateRotation kept, found, map_some] at resumes
  dsimp only at resumes
  have stopped : (r.stoppedAt (db.firstUpcoming rotationId now)).status ≠ .active := by
    intro same
    cases same
  rw [if_neg stopped] at resumes
  split at resumes
  · next allowed =>
    rw [and_eq_true, and_eq_true] at allowed
    rw [updateRotation_updateRotation kept] at resumes
    refine ⟨(Option.some.inj resumes).symm, allowed.1.1, fun none' => ?_⟩
    have members := allowed.1.2
    have none'' : loadTeamMemberIds ((db.withoutUpcoming rotationId now).updateRotation rotationId
        (stoppedAt (db.firstUpcoming rotationId now)))
        (r.stoppedAt (db.firstUpcoming rotationId now)).teamId = [] := none'
    rw [none''] at members
    cases members
  · cases resumes

structure RosterDb.Catches (db : RosterDb) (rotationId : Id) (now : Time) (tick : RosterTick) :
    Prop where
  rotation : tick.rotationId = rotationId
  unlocked : tick.lockedElsewhere = false
  later : now ≤ tick.now
  before : ∀ u ∈ db.upcoming rotationId now, tick.now < u.startsAt
  due : db.upcoming rotationId now = [] ∨
    ∃ u ∈ db.upcoming rotationId now, u.startsAt ≤ tick.now + ROTATION_NOTICE_LEAD_MS

/-- The rotation makes the windows that a stop removes again. -/
def RosterDb.Remade (db : RosterDb) (r : OnCallRotation) (now : Time) : Prop :=
  ∀ u ∈ db.upcoming r.id now,
    u.deletedAt = none ∧ u.endsAt = r.nextStartsAt ∧
      (r.settings db now).isPastEnd u.startsAt = false ∧
      u.toWindow = r.windowFrom (db.withoutUpcoming r.id now) u.startsAt

instance (db : RosterDb) (r : OnCallRotation) (now : Time) : Decidable (db.Remade r now) :=
  inferInstanceAs (Decidable (∀ u ∈ db.upcoming r.id now, _))

theorem RosterDb.Sound.activeRotation (sound : db.Sound)
    (found : db.findRotation rotationId = some r) (status : r.status = .active) :
    db.activeRotation rotationId = some r := by
  have named : (r.id == rotationId) :=
    find?_some (p := fun row : OnCallRotation => row.id == rotationId) found
  have mem : r ∈ db.rotations := mem_of_find?_eq_some found
  rcases active : db.activeRotation rotationId with _ | other
  · have none' := find?_eq_none.mp active r mem
    exact absurd (and_eq_true_iff.mpr ⟨named, beq_iff_eq.mpr status⟩) none'
  · obtain ⟨memOther, same, -⟩ := db.activeRotation_spec active
    rw [sound.eq_of_id memOther mem (same.trans (beq_iff_eq.mp named).symm)]

theorem OnCallRotation.lead_lt_cycle (r : OnCallRotation) {time startsAt : Time}
    (before : time < startsAt) :
    time + ROTATION_NOTICE_LEAD_MS < startsAt + r.cycleDays * DAY_MS := by
  have cycle : 3 * DAY_MS ≤ r.cycleDays * DAY_MS := Nat.mul_le_mul_right _ r.cycle.1
  have lead : ROTATION_NOTICE_LEAD_MS ≤ 3 * DAY_MS := by decide
  exact Nat.add_lt_add_of_lt_of_le before (Nat.le_trans lead cycle)

theorem planFor_due {tick : Time} (some' : loadTeamMemberIds db r.teamId ≠ [])
    (before : tick < r.nextStartsAt) (due : r.nextStartsAt ≤ tick + ROTATION_NOTICE_LEAD_MS)
    (within : (r.settings db tick).isPastEnd r.nextStartsAt = false) :
    (planFor db r tick).windows = [r.windowFrom db r.nextStartsAt] ∧
      (planFor db r tick).cursor = ⟨r.nextStartsAt + r.cycleDays * DAY_MS,
        some (r.windowFrom db r.nextStartsAt).primary, (r.windowFrom db r.nextStartsAt).backup⟩ := by
  have plan := planWindows_one {
    r.settings db tick with
    nextStartsAt := r.nextStartsAt, previous := loadPreviousHolders db r } 51 some' due within
    (Nat.lt_of_lt_of_le before (Nat.le_add_right _ _)) (r.lead_lt_cycle before)
  exact plan

theorem planFor_early {tick : Time} (later : tick + ROTATION_NOTICE_LEAD_MS < r.nextStartsAt) :
    (planFor db r tick).windows = [] ∧ (planFor db r tick).cursor =
      ⟨r.nextStartsAt, (loadPreviousHolders db r).primary, (loadPreviousHolders db r).backup⟩ :=
  planWindows_early _ _ later

theorem planFor_past {tick : Time} (past : (r.settings db tick).isPastEnd r.nextStartsAt) :
    (planFor db r tick).windows = [] ∧ (planFor db r tick).cursor =
      ⟨r.nextStartsAt, (loadPreviousHolders db r).primary, (loadPreviousHolders db r).backup⟩ :=
  planWindows_past _ _ past

/-! ## Windows that are made again -/

theorem RosterDb.Sound.eq_of_overlap (sound : db.Sound) {u v : OnCallSchedule}
    (mem : u ∈ db.schedules) (mem' : v ∈ db.schedules) (of : u.rotationId = some rotationId)
    (of' : v.rotationId = some rotationId) (starts : u.startsAt < v.endsAt)
    (ends : v.startsAt < u.endsAt) : u = v := by
  by_contra different
  rcases sound.distinct.forall mem mem' different rotationId of of' with early | early
  · exact absurd ends (Nat.not_lt.mpr early)
  · exact absurd starts (Nat.not_lt.mpr early)

theorem RosterDb.Sound.upcoming_one (sound : db.Sound) {u v : OnCallSchedule}
    (upcoming : u ∈ db.upcoming rotationId now) (upcoming' : v ∈ db.upcoming rotationId now)
    (ends : u.endsAt = v.endsAt) : u = v := by
  obtain ⟨mem, of, -⟩ := mem_upcoming.mp upcoming
  obtain ⟨mem', of', -⟩ := mem_upcoming.mp upcoming'
  exact sound.eq_of_overlap mem mem' of of' (ends ▸ sound.spans u mem) (ends ▸ sound.spans v mem')

theorem RosterDb.Sound.alike_resumedAt (sound : db.Sound)
    (active : db.activeRotation rotationId = some r) :
    db.Alike (db.updateRotation rotationId (resumedAt none)) := by
  obtain ⟨mem, rfl, status⟩ := db.activeRotation_spec active
  refine ⟨rfl, rfl, ?_, Perm.refl _⟩
  unfold RosterDb.updateRotation
  dsimp only
  rw [forall₂_map_right_iff, forall₂_same]
  intro row memRow
  split
  · next its =>
    rw [sound.eq_of_id memRow mem (beq_iff_eq.mp its)]
    unfold OnCallRotation.plain resumedAt
    rw [status]
    rfl
  · rfl

theorem RosterDb.Sound.resumed_active (sound : db.Sound)
    (active : db.activeRotation rotationId = some r)
    (resumes : resumeRotation rotationId (stopRotation rotationId now db) = some resumed) :
    resumed.Sound ∧
      resumed.activeRotation rotationId = some (r.resumedAt (db.firstUpcoming rotationId now)) := by
  have stopped : (stopRotation rotationId now db).Sound := sound.stop
  have soundResumed : resumed.Sound := stopped.resume resumes
  refine ⟨soundResumed, soundResumed.activeRotation ?_ rfl⟩
  have found : (db.withoutUpcoming rotationId now).findRotation rotationId = some r :=
    sound.findRotation active
  have kept : ∀ row : OnCallRotation,
      (resumedAt (db.firstUpcoming rotationId now) row).id = row.id := fun _ => rfl
  rw [(sound.resumed_eq active resumes).1, findRotation_updateRotation kept, found]
  rfl

variable {time : Time} {u : OnCallSchedule} {toISOString : Time → String}
  {rows : List OnCallSchedule} {w : GeneratedWindow} {r' : OnCallRotation} {cursor : PlanCursor}

theorem RosterDb.Sound.kept_tick (sound : db.Sound) (active : db.activeRotation rotationId = some r)
    (team : db.hasTeam r.teamId) (upcoming : u ∈ db.upcoming rotationId now)
    (live : u.deletedAt = none) (last : u.endsAt = r.nextStartsAt)
    (cycle : u.endsAt = u.startsAt + r.cycleDays * DAY_MS) (before : time < u.startsAt) :
    TickMakes toISOString db r time []
      ⟨r.nextStartsAt, some u.primaryUserId, u.backupUserId⟩
      (generateForRotation toISOString rotationId time false db).1 := by
  obtain ⟨mem, rfl, -⟩ := db.activeRotation_spec active
  obtain ⟨memU, of, -⟩ := mem_upcoming.mp upcoming
  have later : time + ROTATION_NOTICE_LEAD_MS < r.nextStartsAt := by
    rw [← last, cycle]
    exact r.lead_lt_cycle before
  -- the window is the last of the rotation, so its holders are the previous ones
  have holders : loadPreviousHolders db r = ⟨some u.primaryUserId, u.backupUserId⟩ := by
    have liveU : isLiveOf r.id u := isLiveOf_iff.mpr ⟨of, live⟩
    unfold loadPreviousHolders
    rcases latest : latestWindow db r.id with _ | m
    · rw [latestWindow_none.mp latest u memU] at liveU
      cases liveU
    · obtain ⟨memM, liveM, le⟩ := latestWindow_some latest
      have ofM := (isLiveOf_iff.mp liveM).1
      have same : m = u := by
        have spans : m.startsAt < m.endsAt := sound.spans m memM
        have ends : m.endsAt ≤ u.endsAt := by
          rw [last]
          exact (sound.before r mem m memM ofM).2
        exact sound.eq_of_overlap memM memU ofM of (Nat.lt_of_lt_of_le spans ends)
          (Nat.lt_of_le_of_lt (le u memU liveU) spans)
      rw [same]
  have makes := @tickMakes toISOString _ _ time _ sound active team
  dsimp only at makes
  obtain ⟨windows, cursor⟩ := planFor_early later
  rw [windows, untilClash_nil] at makes
  unfold cursorAfter at makes
  rw [isSome_none, if_neg Bool.false_ne_true, cursor, holders] at makes
  exact makes

theorem RosterDb.Sound.resumed_tick (sound : db.Sound)
    (active : db.activeRotation rotationId = some r)
    (resumes : resumeRotation rotationId (stopRotation rotationId now db) = some resumed)
    (upcoming : u ∈ db.upcoming rotationId now) (live : u.deletedAt = none)
    (first : db.firstUpcoming rotationId now = some u.startsAt)
    (within : (r.settings db now).isPastEnd u.startsAt = false)
    (same : u.toWindow = r.windowFrom (db.withoutUpcoming rotationId now) u.startsAt)
    (before : time < u.startsAt) (due : u.startsAt ≤ time + ROTATION_NOTICE_LEAD_MS) :
    TickMakes toISOString resumed (r.resumedAt (some u.startsAt)) time [u.toWindow]
      ⟨u.endsAt, some u.primaryUserId, u.backupUserId⟩
      (generateForRotation toISOString rotationId time false resumed).1 := by
  obtain ⟨soundResumed, activeResumed⟩ := sound.resumed_active active resumes
  obtain ⟨is, team, members⟩ := sound.resumed_eq active resumes
  obtain ⟨mem, rfl, -⟩ := db.activeRotation_spec active
  obtain ⟨memU, of, laterU⟩ := mem_upcoming.mp upcoming
  rw [first] at activeResumed is
  have teamResumed : resumed.hasTeam (r.resumedAt (some u.startsAt)).teamId := by
    rw [is]
    exact team
  have plan : (planFor resumed (r.resumedAt (some u.startsAt)) time).windows = [u.toWindow] ∧
      (planFor resumed (r.resumedAt (some u.startsAt)) time).cursor =
        ⟨u.startsAt + r.cycleDays * DAY_MS, some u.primaryUserId, u.backupUserId⟩ := by
    have some' : loadTeamMemberIds resumed (r.resumedAt (some u.startsAt)).teamId ≠ [] := by
      rw [is]
      exact members
    have made := planFor_due some' before due within
    have window : (r.resumedAt (some u.startsAt)).windowFrom resumed u.startsAt = u.toWindow := by
      rw [same, is]
      rfl
    have start : (r.resumedAt (some u.startsAt)).nextStartsAt = u.startsAt := rfl
    rw [start, window] at made
    exact made
  have free : clashWith resumed (r.resumedAt (some u.startsAt)).teamId u.toWindow = none := by
    apply find?_eq_none.mpr
    intro row memRow overlaps
    rw [is] at memRow
    obtain ⟨memOld, started⟩ := mem_withoutUpcoming.mp memRow
    simp only [and_eq_true, beq_iff_eq, isNone_iff_eq_none, decide_eq_true_eq] at overlaps
    obtain ⟨⟨⟨teamRow, liveRow⟩, starts⟩, ends⟩ := overlaps
    have different : row ≠ u := by
      intro here
      rw [here] at started
      exact absurd (started of) (Nat.not_le.mpr laterU)
    have teamU : row.teamId = u.teamId := teamRow.trans (sound.before r mem u memU of).1.symm
    rcases sound.exclusive.forall memOld memU different teamU liveRow live with early | early
    · exact absurd early (Nat.not_le.mpr ends)
    · exact absurd early (Nat.not_le.mpr starts)
  have makes := @tickMakes toISOString _ _ time _ soundResumed activeResumed teamResumed
  have ends : u.endsAt = u.startsAt + r.cycleDays * DAY_MS := congrArg GeneratedWindow.endsAt same
  dsimp only at makes
  rw [plan.1] at makes
  simp only [untilClash, free] at makes
  unfold cursorAfter at makes
  rw [isSome_none, if_neg Bool.false_ne_true, plan.2, ← ends] at makes
  exact makes

theorem RosterDb.Sound.remade_one (sound : db.Sound) (remade : db.Remade r now)
    (upcoming : u ∈ db.upcoming r.id now) : db.upcoming r.id now = [u] := by
  have only : ∀ v ∈ db.upcoming r.id now, v = u := by
    intro v upcoming'
    exact sound.upcoming_one upcoming' upcoming
      ((remade v upcoming').2.1.trans (remade u upcoming).2.1.symm)
  obtain ⟨mem, of, -⟩ := mem_upcoming.mp upcoming
  have spans : u.startsAt < u.endsAt := sound.spans u mem
  have distinct : (db.upcoming r.id now).Pairwise OnCallSchedule.Distinct := sound.distinct.filter _
  rcases rows : db.upcoming r.id now with _ | ⟨v, rest⟩
  · rw [rows] at upcoming
    cases upcoming
  · rw [rows] at only distinct
    have first : v = u := only v mem_cons_self
    rcases rest with _ | ⟨v', rest⟩
    · rw [first]
    · have second : v' = u := only v' (mem_cons_of_mem _ mem_cons_self)
      have apart := (pairwise_cons.mp distinct).1 v' mem_cons_self
      rw [first, second] at apart
      rcases apart r.id of of with early | early
      · exact absurd early (Nat.not_le.mpr spans)
      · exact absurd early (Nat.not_le.mpr spans)

theorem RosterDb.Sound.alike_after_tick (sound : db.Sound)
    (active : db.activeRotation rotationId = some r)
    (resumes : resumeRotation rotationId (stopRotation rotationId now db) = some resumed)
    (remade : db.Remade r now) {tick : RosterTick} (catches : db.Catches rotationId now tick) :
    (db.apply toISOString (.tick tick)).Alike (resumed.apply toISOString (.tick tick)) := by
  obtain ⟨soundResumed, -⟩ := sound.resumed_active active resumes
  obtain ⟨is, team, -⟩ := sound.resumed_eq active resumes
  obtain ⟨mem, rfl, status⟩ := db.activeRotation_spec active
  rcases upcoming : db.upcoming r.id now with _ | ⟨u, others⟩
  · have first : db.firstUpcoming r.id now = none := by
      unfold firstUpcoming
      rw [upcoming]
      rfl
    rw [first, withoutUpcoming_self upcoming] at is
    have alike : db.Alike resumed := by
      rw [is]
      exact sound.alike_resumedAt active
    exact alike.apply toISOString sound soundResumed (.tick tick)
  · have memU : u ∈ db.upcoming r.id now := by
      rw [upcoming]
      exact mem_cons_self
    obtain ⟨live, last, within, same⟩ := remade u memU
    have ends : u.endsAt = u.startsAt + r.cycleDays * DAY_MS := congrArg GeneratedWindow.endsAt same
    have one : db.upcoming r.id now = [u] := sound.remade_one remade memU
    have first : db.firstUpcoming r.id now = some u.startsAt := by
      unfold firstUpcoming
      rw [one]
      rfl
    have before : tick.now < u.startsAt := catches.before u memU
    have due : u.startsAt ≤ tick.now + ROTATION_NOTICE_LEAD_MS := by
      rcases catches.due with none' | ⟨v, memV, due⟩
      · rw [none'] at memU
        cases memU
      · rw [one, mem_singleton] at memV
        rw [memV] at due
        exact due
    have kept : TickMakes toISOString db r tick.now [] _ _ :=
      sound.kept_tick active team memU live last ends before
    have made : TickMakes toISOString resumed _ tick.now [u.toWindow] _ _ :=
      sound.resumed_tick active resumes memU live first within same before due
    rw [last] at made
    rw [first] at is
    simp only [RosterDb.apply, catches.rotation, catches.unlocked]
    obtain ⟨-, -, rows, ⟨reason, rotations⟩, teams, teamMembers⟩ := kept
    obtain ⟨-, -, rows', ⟨reason', rotations'⟩, teams', teamMembers'⟩ := made
    refine ⟨?_, ?_, ?_, ?_⟩
    · rw [teams, teams', is]
      rfl
    · rw [teamMembers, teamMembers', is]
      rfl
    · have updated : (RosterDb.updateRotation resumed (r.resumedAt (some u.startsAt)).id fun row =>
          row.moveTo ⟨r.nextStartsAt, some u.primaryUserId, u.backupUserId⟩ reason').rotations =
          (db.updateRotation r.id fun row => (row.resumedAt (some u.startsAt)).moveTo
            ⟨r.nextStartsAt, some u.primaryUserId, u.backupUserId⟩ reason').rotations := by
        have keptId : ∀ row : OnCallRotation,
            (resumedAt (some u.startsAt) row).id = row.id := fun _ => rfl
        rw [is, keptId, updateRotation_updateRotation keptId]
        rfl
      rw [rotations, rotations', updated]
      unfold RosterDb.updateRotation
      dsimp only
      rw [forall₂_map_left_iff, forall₂_map_right_iff, forall₂_same]
      intro row memRow
      split
      · next its =>
        rw [sound.eq_of_id memRow mem (beq_iff_eq.mp its)]
        unfold OnCallRotation.plain moveTo resumedAt
        rw [status]
      · rfl
    · have left : resumed.schedules = (db.withoutUpcoming r.id now).schedules := by
        rw [is]
        rfl
      have again : OnCallSchedule.plain ((r.resumedAt (some u.startsAt)).scheduleOf toISOString
          u.toWindow) = u.plain := by
        obtain ⟨memRow, of, -⟩ := mem_upcoming.mp memU
        have teamU : u.teamId = r.teamId := (sound.before r mem u memRow of).1
        unfold OnCallSchedule.plain
        rw [of, live, teamU]
        rfl
      have parts : (db.schedules).Perm
          ((db.withoutUpcoming r.id now).schedules ++ db.upcoming r.id now) := by
        refine Perm.trans ?_ perm_append_comm
        exact (filter_append_perm _ _).symm
      rw [rows, rows', left, map_nil, append_nil, map_append, map_singleton, map_singleton, again]
      have plains := parts.map OnCallSchedule.plain
      rw [map_append, one, map_singleton] at plains
      exact plains

/-! ## Rosters that come apart -/

def OnCallSchedule.deletion (row : OnCallSchedule) : RosterEvent :=
  .deleteWindow row.teamId row.startsAt 0

theorem RosterDb.after_deletions (toISOString : Time → String) (rows : List OnCallSchedule)
    (db : RosterDb) :
    let after := db.after toISOString (rows.map deletion)
    after.teams = db.teams ∧ after.teamMembers = db.teamMembers ∧ after.rotations = db.rotations ∧
      ∀ row ∈ after.schedules, row.deletedAt = none → row ∈ db.schedules ∧
        ∀ other ∈ rows, row.isLiveAt other.teamId other.startsAt = false := by
  induction rows generalizing db with
  | nil =>
    exact ⟨rfl, rfl, rfl, fun row mem _ => ⟨mem, fun other here => absurd here not_mem_nil⟩⟩
  | cons first rest ih =>
    obtain ⟨teams, teamMembers, rotations, live⟩ := ih (db.apply toISOString first.deletion)
    refine ⟨teams, teamMembers, rotations, fun row mem alive => ?_⟩
    obtain ⟨memHere, others⟩ := live row mem alive
    obtain ⟨old, memOld, is⟩ := List.mem_map.mp memHere
    split at is
    · rw [← is] at alive
      cases alive
    · next kept =>
      subst is
      refine ⟨memOld, fun other here => ?_⟩
      rcases mem_cons.mp here with same | later
      · rw [same, ← not_eq_true]
        exact kept
      · exact others other later

theorem RosterDb.Sound.tick_rows {lockedElsewhere : Bool} (sound : db.Sound)
    (found : db.findRotation rotationId = some r) {row : OnCallSchedule}
    (mem : row ∈ (generateForRotation toISOString rotationId now lockedElsewhere db).1.schedules) :
    row ∈ db.schedules ∨ r.nextStartsAt ≤ row.startsAt := by
  rcases active : db.activeRotation rotationId with _ | r'
  · unfold generateForRotation at mem
    rw [active] at mem
    exact .inl mem
  · have same : r' = r := Option.some.inj ((sound.findRotation active).symm.trans found)
    subst same
    cases lockedElsewhere with
    | true =>
      unfold generateForRotation at mem
      rw [active] at mem
      exact .inl mem
    | false =>
      by_cases team : db.hasTeam r'.teamId = true
      · have makes := @tickMakes toISOString _ _ now _ sound active team
        rw [makes.schedules] at mem
        rcases mem_append.mp mem with old | new
        · exact .inl old
        · obtain ⟨w, memW, is⟩ := List.mem_map.mp new
          rw [← is]
          exact .inr (makes.lined.bounds w memW).1
      · unfold generateForRotation at mem
        rw [active] at mem
        dsimp only at mem
        rw [if_neg Bool.false_ne_true, if_neg team] at mem
        exact .inl mem

def RosterDb.cleared (toISOString : Time → String) (db : RosterDb) (rows : List OnCallSchedule)
    (rotationId : Id) : RosterDb :=
  (db.after toISOString (rows.map OnCallSchedule.deletion)).updateRotation rotationId
    fun row => { row with endsOn := none }

def probe (rows : List OnCallSchedule) (rotationId : Id) (time : Time) : List RosterEvent :=
  rows.map OnCallSchedule.deletion ++
    [.setEndsOn rotationId none, .tick ⟨rotationId, time - 1, false⟩]

theorem RosterDb.after_probe (toISOString : Time → String) (db : RosterDb)
    (rows : List OnCallSchedule) (rotationId : Id) (time : Time) :
    db.after toISOString (probe rows rotationId time) = (generateForRotation toISOString rotationId
      (time - 1) false (db.cleared toISOString rows rotationId)).1 := by
  have parts : db.after toISOString (probe rows rotationId time) =
      (db.after toISOString (rows.map deletion)).after toISOString
        [.setEndsOn rotationId none, .tick ⟨rotationId, time - 1, false⟩] := foldl_append
  rw [parts]
  rfl

theorem RosterDb.cleared_dead (all : ∀ row ∈ db.schedules, row ∈ rows) {row : OnCallSchedule}
    (mem : row ∈ (db.cleared toISOString rows rotationId).schedules) : row.deletedAt ≠ none := by
  intro alive
  obtain ⟨old, others⟩ := (after_deletions toISOString rows db).2.2.2 row mem alive
  have kept := others row (all row old)
  unfold isLiveAt at kept
  rw [beq_self_eq_true, beq_self_eq_true, alive] at kept
  cases kept

theorem RosterDb.Sound.cleared {toISOString : Time → String} (sound : db.Sound)
    (rows : List OnCallSchedule) : (db.cleared toISOString rows rotationId).Sound := by
  have deleted : (db.after toISOString (rows.map deletion)).Sound := sound.after _
  have lifted : ((db.after toISOString (rows.map deletion)).apply toISOString
      (.setEndsOn rotationId none)).Sound := deleted.apply _
  exact lifted

theorem RosterDb.cleared_findRotation (found : db.findRotation rotationId = some r) :
    (db.cleared toISOString rows rotationId).findRotation rotationId =
      some { r with endsOn := none } := by
  have rotations := (after_deletions toISOString rows db).2.2.1
  have kept : ∀ row : OnCallRotation, { row with endsOn := none }.id = row.id := fun _ => rfl
  have same : (db.after toISOString (rows.map deletion)).findRotation rotationId =
      some r := by
    unfold RosterDb.findRotation at found ⊢
    rw [rotations]
    exact found
  unfold RosterDb.cleared
  rw [findRotation_updateRotation kept, same]
  rfl

theorem RosterDb.Sound.probe_windows (sound : db.Sound)
    (found : db.findRotation rotationId = some r) (all : ∀ row ∈ db.schedules, row ∈ rows)
    (mem : w ∈ (db.after toISOString (probe rows rotationId time)).windows rotationId) :
    r.nextStartsAt ≤ w.startsAt := by
  obtain ⟨row, memRow, rfl⟩ := List.mem_map.mp mem
  obtain ⟨memRow, live⟩ := mem_filter.mp memRow
  rw [after_probe] at memRow
  rcases (sound.cleared rows).tick_rows (cleared_findRotation found) memRow with old | new
  · exact absurd (isLiveOf_iff.mp live).2 (cleared_dead all old)
  · exact new

theorem RosterDb.Sound.probe_makes (sound : db.Sound)
    (active : db.activeRotation rotationId = some r) (team : db.hasTeam r.teamId)
    (members : loadTeamMemberIds db r.teamId ≠ []) (all : ∀ row ∈ db.schedules, row ∈ rows)
    (positive : 0 < r.nextStartsAt) :
    ∃ w ∈ (db.after toISOString (probe rows rotationId r.nextStartsAt)).windows rotationId,
      w.startsAt = r.nextStartsAt := by
  obtain ⟨teams, teamMembers, -, -⟩ := after_deletions toISOString rows db
  obtain ⟨mem, rfl, status⟩ := db.activeRotation_spec active
  have soundCleared : (db.cleared toISOString rows r.id).Sound := sound.cleared rows
  have activeCleared : (db.cleared toISOString rows r.id).activeRotation r.id =
      some { r with endsOn := none } :=
    soundCleared.activeRotation (cleared_findRotation (sound.findRotation active)) status
  have teamCleared : (db.cleared toISOString rows r.id).hasTeam r.teamId := by
    have same : (db.cleared toISOString rows r.id).hasTeam r.teamId = db.hasTeam r.teamId :=
      congrArg (fun teams : List RosterTeam => teams.any fun team =>
        team.id == r.teamId && team.deletedAt.isNone) teams
    exact same.trans team
  have some' : loadTeamMemberIds (db.cleared toISOString rows r.id) r.teamId ≠ [] := by
    have same : loadTeamMemberIds (db.cleared toISOString rows r.id) r.teamId =
        loadTeamMemberIds db r.teamId := by
      unfold loadTeamMemberIds
      have kept : (db.cleared toISOString rows r.id).teamMembers = db.teamMembers := teamMembers
      rw [kept]
    rw [same]
    exact members
  have due : r.nextStartsAt ≤ r.nextStartsAt - 1 + ROTATION_NOTICE_LEAD_MS :=
    Nat.le_trans (Nat.le_add_of_sub_le (Nat.le_refl _)) (Nat.add_le_add_left (by decide) _)
  have plan := (@planFor_due (db.cleared toISOString rows r.id) { r with endsOn := none } _ some'
    (Nat.sub_lt positive Nat.one_pos) due rfl).1
  have makes := @tickMakes toISOString _ _ (r.nextStartsAt - 1) _ soundCleared
    activeCleared teamCleared
  dsimp only at makes
  rw [plan] at makes
  have free : clashWith (db.cleared toISOString rows r.id) r.teamId
      ({ r with endsOn := none }.windowFrom (db.cleared toISOString rows r.id) r.nextStartsAt) =
        none := by
    apply find?_eq_none.mpr
    intro row memRow overlaps
    simp only [and_eq_true, isNone_iff_eq_none] at overlaps
    exact cleared_dead all memRow overlaps.1.1.2
  simp only [untilClash, free] at makes
  refine ⟨({ r with endsOn := none }.windowFrom (db.cleared toISOString rows r.id) r.nextStartsAt),
    ?_, rfl⟩
  apply List.mem_map.mpr
  refine ⟨_, mem_filter.mpr ⟨?_, isLiveOf_iff.mpr ⟨rfl, rfl⟩⟩,
    toWindow_scheduleOf { r with endsOn := none } toISOString _⟩
  rw [after_probe, makes.schedules]
  exact mem_append_right _ (List.mem_map_of_mem mem_cons_self)

theorem RosterDb.Sound.comes_apart {other : RosterDb} (sound : db.Sound) (sound' : other.Sound)
    (found : db.findRotation rotationId = some r)
    (active : other.activeRotation rotationId = some r') (team : other.hasTeam r'.teamId)
    (members : loadTeamMemberIds other r'.teamId ≠ []) (positive : 0 < r'.nextStartsAt)
    (behind : r'.nextStartsAt < r.nextStartsAt) :
    ∃ later, ¬ ((other.after toISOString later).windows rotationId).Perm
      ((db.after toISOString later).windows rotationId) := by
  refine ⟨probe (db.schedules ++ other.schedules) rotationId r'.nextStartsAt, fun perm => ?_⟩
  have makes : ∃ w ∈ (other.after toISOString (probe (db.schedules ++ other.schedules) rotationId
      r'.nextStartsAt)).windows rotationId, w.startsAt = r'.nextStartsAt :=
    sound'.probe_makes active team members
      (fun row memRow => mem_append_right db.schedules memRow) positive
  obtain ⟨w, mem, start⟩ := makes
  have late := sound.probe_windows found
    (fun row memRow => mem_append_left other.schedules memRow) (perm.mem_iff.mp mem)
  rw [start] at late
  exact absurd behind (Nat.not_lt.mpr late)

/-! ## Stopping and resuming is neutral -/

theorem TickMakes.findRotation {toISOString : Time → String} {time : Time}
    {toCreate : List GeneratedWindow} {cursor : PlanCursor} {db' : RosterDb}
    (makes : TickMakes toISOString db r time toCreate cursor db')
    (found : db.findRotation r.id = some r) :
    ∃ reason, db'.findRotation r.id = some (r.moveTo cursor reason) := by
  obtain ⟨reason, rotations⟩ := makes.rotations
  refine ⟨reason, ?_⟩
  have kept : ∀ row : OnCallRotation, (row.moveTo cursor reason).id = row.id := fun _ => rfl
  have moved := @findRotation_updateRotation db r.id _ kept
  unfold RosterDb.findRotation at moved found ⊢
  rw [rotations, moved, found]
  rfl

theorem RosterDb.Sound.level {toCreate toCreate' : List GeneratedWindow}
    {cursor cursor' : PlanCursor} {after after' : RosterDb} (sound : db.Sound)
    (soundResumed : resumed.Sound) (active : db.activeRotation rotationId = some r)
    (active' : resumed.activeRotation rotationId = some r')
    (team : resumed.hasTeam r'.teamId) (members : loadTeamMemberIds resumed r'.teamId ≠ [])
    (positive : 0 < r'.nextStartsAt) (makes : TickMakes toISOString db r time toCreate cursor after)
    (makes' : TickMakes toISOString resumed r' time toCreate' cursor' after')
    (neutral : ∀ later, ((after'.after toISOString later).windows rotationId).Perm
      ((after.after toISOString later).windows rotationId)) :
    r.nextStartsAt ≤ cursor'.nextStartsAt := by
  by_contra behind
  have soundAfter : after.Sound := makes.sound sound (db.activeRotation_spec active).1
  have soundAfter' : after'.Sound :=
    makes'.sound soundResumed (resumed.activeRotation_spec active').1
  obtain ⟨-, rfl, -⟩ := db.activeRotation_spec active
  obtain ⟨-, same, status⟩ := resumed.activeRotation_spec active'
  obtain ⟨reason, found⟩ := makes.findRotation (sound.findRotation active)
  rw [← same] at active'
  obtain ⟨reason', found'⟩ := makes'.findRotation (soundResumed.findRotation active')
  rw [same] at found'
  have activeAfter' := soundAfter'.activeRotation found' status
  have teamAfter' : after'.hasTeam r'.teamId := by
    unfold hasTeam at team ⊢
    rw [makes'.teams]
    exact team
  have membersAfter' : loadTeamMemberIds after' r'.teamId ≠ [] := by
    unfold loadTeamMemberIds at members ⊢
    rw [makes'.teamMembers]
    exact members
  obtain ⟨later, differ⟩ := soundAfter.comes_apart soundAfter' found activeAfter' teamAfter'
    membersAfter' (Nat.lt_of_lt_of_le positive makes'.lined.le)
    (Nat.lt_of_lt_of_le (Nat.lt_of_not_le behind) makes.lined.le)
  exact differ (neutral later)

theorem RosterDb.Sound.due_tick {toISOString : Time → String} {time : Time} (sound : db.Sound)
    (active : db.activeRotation rotationId = some r) (team : db.hasTeam r.teamId)
    (members : loadTeamMemberIds db r.teamId ≠ []) (before : time < r.nextStartsAt)
    (due : r.nextStartsAt ≤ time + ROTATION_NOTICE_LEAD_MS) :
    ∃ toCreate cursor, TickMakes toISOString db r time toCreate cursor
        (generateForRotation toISOString rotationId time false db).1 ∧
      (cursor.nextStartsAt = r.nextStartsAt ∨
        (r.settings db now).isPastEnd r.nextStartsAt = false ∧
          toCreate = [r.windowFrom db r.nextStartsAt] ∧
          cursor.nextStartsAt = r.nextStartsAt + r.cycleDays * DAY_MS) := by
  have makes := @tickMakes toISOString _ _ time _ sound active team
  dsimp only at makes
  refine ⟨_, _, makes, ?_⟩
  rcases past : (r.settings db time).isPastEnd r.nextStartsAt
  · obtain ⟨windows, cursor⟩ := planFor_due members before due past
    rw [windows]
    rcases clash : clashWith db r.teamId (r.windowFrom db r.nextStartsAt) with _ | row
    · simp only [untilClash, clash]
      unfold cursorAfter
      rw [isSome_none, if_neg Bool.false_ne_true, cursor]
      exact .inr ⟨past, trivial, rfl⟩
    · simp only [untilClash, clash]
      unfold cursorAfter
      rw [isSome_some, if_pos rfl]
      exact .inl rfl
  · obtain ⟨windows, cursor⟩ := planFor_past past
    rw [windows, untilClash_nil]
    unfold cursorAfter
    rw [isSome_none, if_neg Bool.false_ne_true, cursor]
    exact .inl rfl

theorem RosterDb.Sound.made_is {after after' : RosterDb} {e : OnCallSchedule} (sound : after.Sound)
    (memE : e ∈ after.schedules) (of : e.rotationId = some r'.id)
    (makes : TickMakes toISOString resumed r' time [w] cursor after')
    (start : w.startsAt = e.startsAt) (perm : (after'.windows r'.id).Perm (after.windows r'.id)) :
    e.deletedAt = none ∧ e.toWindow = w := by
  have there : w ∈ after'.windows r'.id := by
    apply List.mem_map.mpr
    refine ⟨r'.scheduleOf toISOString w, mem_filter.mpr ⟨?_, ?_⟩,
      toWindow_scheduleOf r' toISOString w⟩
    · rw [makes.schedules]
      exact mem_append_right _ (List.mem_map_of_mem mem_cons_self)
    · exact isLiveOf_iff.mpr ⟨rfl, rfl⟩
  obtain ⟨row, memRow, same⟩ := List.mem_map.mp (perm.mem_iff.mp there)
  obtain ⟨memRow, live⟩ := mem_filter.mp memRow
  obtain ⟨ofRow, alive⟩ := isLiveOf_iff.mp live
  have startRow : row.startsAt = e.startsAt :=
    (congrArg GeneratedWindow.startsAt same).trans start
  have is : row = e := sound.eq_of_start memRow memE ofRow of startRow
  rw [← is]
  exact ⟨alive, same⟩

theorem RosterDb.Sound.remade_of_neutral (sound : db.Sound)
    (active : db.activeRotation rotationId = some r)
    (resumes : resumeRotation rotationId (stopRotation rotationId now db) = some resumed)
    (neutral : ∀ tick, db.Catches rotationId now tick → ∀ later,
      (((resumed.apply toISOString (.tick tick)).after toISOString later).windows rotationId).Perm
        (((db.apply toISOString (.tick tick)).after toISOString later).windows rotationId)) :
    db.Remade r now := by
  obtain ⟨soundResumed, activeResumed⟩ := sound.resumed_active active resumes
  obtain ⟨is, team, members⟩ := sound.resumed_eq active resumes
  obtain ⟨mem, rfl, status⟩ := db.activeRotation_spec active
  intro u memU
  rcases least : db.firstUpcoming r.id now with _ | startsAt
  · unfold firstUpcoming at least
    rw [min?_eq_none_iff, map_eq_nil_iff] at least
    rw [least] at memU
    cases memU
  · obtain ⟨⟨e, memE, rfl⟩, first⟩ := earliest_spec least
    obtain ⟨memRow, of, later⟩ := mem_upcoming.mp memE
    have before : e.startsAt - 1 < e.startsAt :=
      Nat.sub_lt (Nat.lt_of_le_of_lt (Nat.zero_le _) later) Nat.one_pos
    have due : e.startsAt ≤ e.startsAt - 1 + ROTATION_NOTICE_LEAD_MS :=
      Nat.le_trans (Nat.le_add_of_sub_le (Nat.le_refl _)) (Nat.add_le_add_left (by decide) _)
    -- the tick is just before the first of them
    have catches : db.Catches r.id now ⟨r.id, e.startsAt - 1, false⟩ :=
      ⟨rfl, rfl, Nat.le_sub_one_of_lt later,
        fun v memV => Nat.lt_of_lt_of_le before (first v memV), .inr ⟨e, memE, due⟩⟩
    have same := neutral _ catches
    simp only [RosterDb.apply] at same
    rw [least] at activeResumed is
    have teamResumed : resumed.hasTeam (r.resumedAt (some e.startsAt)).teamId := by
      rw [is]
      exact team
    have membersResumed : loadTeamMemberIds resumed (r.resumedAt (some e.startsAt)).teamId ≠ [] := by
      rw [is]
      exact members
    have makes := @tickMakes toISOString _ _ (e.startsAt - 1) _ sound active team
    obtain ⟨toCreate, cursor, makes', cases'⟩ := @due_tick _ _ _ now toISOString _
      soundResumed activeResumed teamResumed membersResumed before due
    have level : r.nextStartsAt ≤ cursor.nextStartsAt :=
      sound.level soundResumed active activeResumed teamResumed membersResumed
        (Nat.lt_of_le_of_lt (Nat.zero_le _) later) makes makes' same
    have spans : e.startsAt < e.endsAt := sound.spans e memRow
    have ends : e.endsAt ≤ r.nextStartsAt := (sound.before r mem e memRow of).2
    rcases cases' with stays | ⟨within, made, moves⟩
    · have start : (r.resumedAt (some e.startsAt)).nextStartsAt = e.startsAt := rfl
      rw [stays, start] at level
      exact absurd (Nat.le_trans ends level) (Nat.not_le.mpr spans)
    · have soundAfter := makes.sound sound mem
      have memAfter :
          e ∈ (generateForRotation toISOString r.id (e.startsAt - 1) false db).1.schedules := by
        rw [makes.schedules]
        exact mem_append_left _ memRow
      rw [made] at makes'
      have start : ((r.resumedAt (some e.startsAt)).windowFrom resumed
          (r.resumedAt (some e.startsAt)).nextStartsAt).startsAt = e.startsAt := rfl
      have ofResumed : e.rotationId = some (r.resumedAt (some e.startsAt)).id := of
      have now' : ((generateForRotation toISOString r.id (e.startsAt - 1) false resumed).1.windows
          (r.resumedAt (some e.startsAt)).id).Perm ((generateForRotation toISOString r.id
            (e.startsAt - 1) false db).1.windows (r.resumedAt (some e.startsAt)).id) := same []
      obtain ⟨live, window⟩ := soundAfter.made_is memAfter ofResumed makes' start now'
      have cycle : e.endsAt = e.startsAt + r.cycleDays * DAY_MS :=
        congrArg GeneratedWindow.endsAt window
      have moved : cursor.nextStartsAt = e.endsAt := moves.trans cycle.symm
      rw [moved] at level
      have last : e.endsAt = r.nextStartsAt := Nat.le_antisymm ends level
      -- the others would start after the cursor
      have only : u = e := by
        obtain ⟨memRowU, ofU, -⟩ := mem_upcoming.mp memU
        have spansU : u.startsAt < u.endsAt := sound.spans u memRowU
        have endsU : u.endsAt ≤ e.endsAt := by
          rw [last]
          exact (sound.before r mem u memRowU ofU).2
        exact sound.eq_of_overlap memRowU memRow ofU of (Nat.lt_of_lt_of_le spansU endsU)
          (Nat.lt_of_le_of_lt (first u memU) spansU)
      rw [only]
      refine ⟨live, last, within, ?_⟩
      rw [window, is]
      rfl

end Resumed

/-- A rotation that is stopped and resumed has the windows of one that was not, whatever happens
after the next tick, if and only if the windows that the stop removed are such as are made again. -/
theorem stop_resume_neutral_iff (toISOString : Time → String) (teams : List RosterTeam)
    (teamMembers : List TeamMember) (events : List RosterEvent) (rotationId : Id) (now : Time)
    {r : OnCallRotation} {db resumed : RosterDb}
    (reached : db = RosterDb.after toISOString ⟨teams, teamMembers, [], []⟩ events)
    (active : db.activeRotation rotationId = some r)
    (resumes : resumeRotation rotationId (stopRotation rotationId now db) = some resumed) :
    (∀ tick, db.Catches rotationId now tick → ∀ later,
      (((resumed.apply toISOString (.tick tick)).after toISOString later).windows rotationId).Perm
        (((db.apply toISOString (.tick tick)).after toISOString later).windows rotationId)) ↔
      db.Remade r now := by
  have sound : db.Sound := by
    rw [reached]
    exact (empty teams teamMembers).after events
  constructor
  · exact sound.remade_of_neutral active resumes
  · intro remade tick catches later
    have soundResumed : resumed.Sound := (sound.resumed_active active resumes).1
    have alike : (db.apply toISOString (.tick tick)).Alike (resumed.apply toISOString (.tick tick)) :=
      sound.alike_after_tick active resumes remade catches
    exact (alike.after toISOString (sound.apply (.tick tick)) (soundResumed.apply (.tick tick))
      later).symm.windows_perm

/-! ### A roster of three members -/

def generatedRoster : RosterDb :=
  threeMembers.after (fun _ => "")
    [.createRepeating firstWindow 7 "admin", .tick ⟨7, 2 * DAY_MS, false⟩]

def deletedRoster (startsAt : Time) : RosterDb :=
  generatedRoster.after (fun _ => "") [.deleteWindow 1 startsAt (2 * DAY_MS)]

def RosterDb.stoppedResumed (db : RosterDb) : RosterDb :=
  (resumeRotation 7 (stopRotation 7 (2 * DAY_MS) db)).getD db

theorem RosterDb.stoppedResumed_eq
    (allowed : (resumeRotation 7 (stopRotation 7 (2 * DAY_MS) db)).isSome) :
    resumeRotation 7 (stopRotation 7 (2 * DAY_MS) db) = some db.stoppedResumed := by
  obtain ⟨resumed, is⟩ := isSome_iff_exists.mp allowed
  unfold stoppedResumed
  rw [is]
  rfl

/-- The window that was made is made again. -/
theorem stop_resume_neutral_generated :
    (generatedRoster.upcoming 7 (2 * DAY_MS)).length = 1 ∧
      ∀ tick, generatedRoster.Catches 7 (2 * DAY_MS) tick → ∀ later,
        (((generatedRoster.stoppedResumed.apply (fun _ => "") (.tick tick)).after (fun _ => "")
          later).windows 7).Perm
          (((generatedRoster.apply (fun _ => "") (.tick tick)).after (fun _ => "")
            later).windows 7) := by
  have checked : (generatedRoster.activeRotation 7).any (fun r =>
      decide (generatedRoster.Remade r (2 * DAY_MS))) = true := by decide +kernel
  obtain ⟨r, active, remade⟩ := (Option.any_eq_true _ _).mp checked
  refine ⟨by decide +kernel, ?_⟩
  exact (stop_resume_neutral_iff (fun _ => "") _ _ _ 7 (2 * DAY_MS) rfl active
    (stoppedResumed_eq (by decide +kernel))).mpr (of_decide_eq_true remade)

/-- A window that was deleted before it started comes back. -/
theorem stop_resume_deleted_comes_back :
    ¬ ∀ (toISOString : Time → String) (teams : List RosterTeam) (teamMembers : List TeamMember)
      (events : List RosterEvent) (rotationId : Id) (now : Time) (r : OnCallRotation)
      (db resumed : RosterDb),
      db = RosterDb.after toISOString ⟨teams, teamMembers, [], []⟩ events →
      db.activeRotation rotationId = some r →
      resumeRotation rotationId (stopRotation rotationId now db) = some resumed →
      ∀ tick, db.Catches rotationId now tick → ∀ later,
        (((resumed.apply toISOString (.tick tick)).after toISOString later).windows rotationId).Perm
          (((db.apply toISOString (.tick tick)).after toISOString later).windows rotationId) := by
  intro neutral
  have active : ((deletedRoster (3 * DAY_MS)).activeRotation 7).isSome := by decide +kernel
  have catches : (deletedRoster (3 * DAY_MS)).Catches 7 (2 * DAY_MS) ⟨7, 2 * DAY_MS, false⟩ :=
    ⟨rfl, rfl, Nat.le_refl _, by decide +kernel, .inr (by decide +kernel)⟩
  have perm := neutral (fun _ => "") _ _
    [.createRepeating firstWindow 7 "admin", .tick ⟨7, 2 * DAY_MS, false⟩,
      .deleteWindow 1 (3 * DAY_MS) (2 * DAY_MS)] 7 (2 * DAY_MS) _ _ _ rfl
    (some_get active).symm (stoppedResumed_eq (by decide +kernel)) _ catches []
  have longer : (((deletedRoster (3 * DAY_MS)).stoppedResumed.apply (fun _ => "")
      (.tick ⟨7, 2 * DAY_MS, false⟩)).windows 7).length ≠
      (((deletedRoster (3 * DAY_MS)).apply (fun _ => "") (.tick ⟨7, 2 * DAY_MS, false⟩)).windows
        7).length := by decide +kernel
  exact longer perm.length_eq

-- with the first window deleted, the holders move on by one
example :
    (((deletedRoster 0).apply (fun _ => "") (.tick ⟨7, 2 * DAY_MS, false⟩)).windows 7).map
        (fun w => (w.startsAt, w.primary)) = [(3 * DAY_MS, "b")] ∧
      (((deletedRoster 0).stoppedResumed.apply (fun _ => "") (.tick ⟨7, 2 * DAY_MS, false⟩)).windows
        7).map (fun w => (w.startsAt, w.primary)) = [(3 * DAY_MS, "c")] := by decide +kernel

end OpenWind
