import OpenWind.OnCall.RosterEvents

/-!
# Resizing a window

An edit that gives a window of a rotation another end removes the windows after it, moves the end,
and lets the rotation go on from there.  A length of whole days becomes that of a cycle.
-/

open List Option Bool

namespace OpenWind

open Runs

/-! ## The request -/

def OnCallSchedule.releases (window : OnCallSchedule) (now : Time) (row : OnCallSchedule) : Bool :=
  row.rotationId == window.rotationId && decide (now < row.startsAt) &&
    decide (window.startsAt < row.startsAt)

def releaseWindowsAfter (window : OnCallSchedule) (now : Time) (db : RosterDb) : RosterDb :=
  match window.rotationId.bind db.findRotation with
  | none => db
  | some rotation =>
    match ((db.schedules.filter (window.releases now)).map (·.startsAt)).min? with
    | none => db
    | some earliest =>
      { db with schedules := db.schedules.filter fun row => !window.releases now row }.updateRotation
        rotation.id fun row => { row with nextStartsAt := earliest }

def OnCallRotation.alignTo (window : OnCallSchedule) (row : OnCallRotation) : OnCallRotation :=
  let days := (window.endsAt - window.startsAt) / DAY_MS
  if whole : (window.endsAt - window.startsAt) % DAY_MS = 0 ∧
      ROTATION_MIN_CYCLE_DAYS ≤ days ∧ days ≤ ROTATION_MAX_CYCLE_DAYS then
    { row with nextStartsAt := window.endsAt, cycleDays := days, cycle := whole.2 }
  else { row with nextStartsAt := window.endsAt }

def alignRotationCursor (window : OnCallSchedule) (db : RosterDb) : RosterDb :=
  match window.rotationId.bind db.findRotation with
  | none => db
  | some rotation => db.updateRotation rotation.id (OnCallRotation.alignTo window)

def RosterDb.setEnd (db : RosterDb) (teamId : Id) (startsAt endsAt : Time) : RosterDb :=
  { db with
    schedules := db.schedules.map fun row =>
      if row.isLiveAt teamId startsAt then { row with endsAt } else row }

inductive ResizeRefusal
  | notFound | alreadyStarted | endInPast | badWindow | overlaps

def resizeWindow (teamId : Id) (startsAt endsAt now : Time) (db : RosterDb) :
    Except ResizeRefusal RosterDb :=
  match db.schedules.find? (OnCallSchedule.isLiveAt teamId startsAt) with
  | none => .error .notFound
  | some existing =>
    if existing.startsAt ≤ now ∧ existing.endsAt ≤ now then .error .alreadyStarted
    else if existing.startsAt ≤ now ∧ endsAt ≤ now then .error .endInPast
    else if endsAt ≤ existing.startsAt then .error .badWindow
    else
      let endChanges := decide (endsAt ≠ existing.endsAt)
      let released := if endChanges then releaseWindowsAfter existing now db else db
      -- the table excludes overlapping live windows of a team
      if released.schedules.any fun row => row.teamId == teamId && row.deletedAt.isNone &&
          row.startsAt != startsAt && decide (row.startsAt < endsAt) &&
          decide (startsAt < row.endsAt) then .error .overlaps
      else
        let updated := released.setEnd teamId startsAt endsAt
        .ok (if endChanges then alignRotationCursor { existing with endsAt } updated else updated)

/-! ## What it does -/

structure RosterDb.Resizable (db : RosterDb) (r : OnCallRotation) (window : OnCallSchedule)
    (now : Time) : Prop where
  active : db.activeRotation r.id = some r
  mem : window ∈ db.schedules
  own : window.rotationId = some r.id
  live : window.deletedAt = none
  unfinished : now < window.endsAt
  spans : ∀ row ∈ db.schedules, row.startsAt < row.endsAt
  ofRotation : ∀ row ∈ db.schedules, row.rotationId = some r.id → row = window ∨
    row.startsAt < window.startsAt ∨ row.deletedAt = none ∧ window.endsAt ≤ row.startsAt
  ofTeam : ∀ row ∈ db.schedules, row.teamId = window.teamId → row.deletedAt = none → row = window ∨
    row.endsAt ≤ window.startsAt ∨ row.rotationId = some r.id ∧ window.endsAt ≤ row.startsAt

section Request

variable {db : RosterDb} {r : OnCallRotation} {window : OnCallSchedule} {now endsAt : Time}

theorem RosterDb.findRotation_of_active {rotationId : Id}
    (found : db.activeRotation rotationId = some r) :
    ∃ rotation, db.findRotation rotationId = some rotation ∧ rotation.id = rotationId := by
  obtain ⟨mem, named, -⟩ := db.activeRotation_spec found
  have there : (db.findRotation rotationId).isSome :=
    find?_isSome.mpr ⟨r, mem, beq_iff_eq.mpr named⟩
  obtain ⟨rotation, first⟩ := isSome_iff_exists.mp there
  have id := find?_some first
  exact ⟨rotation, first, eq_of_beq id⟩

theorem releaseWindowsAfter_spec (now : Time) (own : window.rotationId = some r.id)
    (active : db.activeRotation r.id = some r) :
    ∃ next, (releaseWindowsAfter window now db).activeRotation r.id =
        some { r with nextStartsAt := next } ∧
      (releaseWindowsAfter window now db).schedules =
        db.schedules.filter (fun row => !window.releases now row) ∧
      (releaseWindowsAfter window now db).teamMembers = db.teamMembers := by
  obtain ⟨rotation, found, id⟩ := db.findRotation_of_active active
  unfold releaseWindowsAfter
  rw [own, bind_some, found]
  dsimp only
  split
  · next nothing =>
    rw [min?_eq_none_iff, map_eq_nil_iff, filter_eq_nil_iff] at nothing
    refine ⟨r.nextStartsAt, active, (filter_eq_self.mpr fun row mem => ?_).symm, rfl⟩
    rw [eq_false_iff.mpr (nothing row mem)]
    rfl
  · next earliest _ =>
    rw [id]
    exact ⟨earliest, activeRotation_updateRotation (fun _ => ⟨rfl, rfl⟩) active, rfl, rfl⟩

theorem alignRotationCursor_eq (window : OnCallSchedule) {rotationId : Id}
    (own : window.rotationId = some rotationId)
    (active : db.activeRotation rotationId = some r) :
    alignRotationCursor window db = db.updateRotation rotationId (OnCallRotation.alignTo window) := by
  obtain ⟨rotation, found, id⟩ := db.findRotation_of_active active
  unfold alignRotationCursor
  rw [own, bind_some, found]
  dsimp only
  rw [id]

theorem OnCallRotation.alignTo_next (next : Time) :
    { r with nextStartsAt := next }.alignTo window = r.alignTo window := rfl

theorem OnCallRotation.alignTo_kept : (r.alignTo window).id = r.id ∧
    (r.alignTo window).status = r.status ∧ (r.alignTo window).nextStartsAt = window.endsAt := by
  unfold alignTo
  dsimp only
  split
  · exact ⟨rfl, rfl, rfl⟩
  · exact ⟨rfl, rfl, rfl⟩

theorem RosterDb.Resizable.isLiveAt_iff (resizable : db.Resizable r window now)
    {row : OnCallSchedule} (mem : row ∈ db.schedules) :
    row.isLiveAt window.teamId window.startsAt ↔ row = window := by
  have spans : row.startsAt < row.endsAt := resizable.spans row mem
  have spans' : window.startsAt < window.endsAt := resizable.spans window resizable.mem
  unfold OnCallSchedule.isLiveAt
  simp only [and_eq_true, beq_iff_eq, isNone_iff_eq_none]
  constructor
  · rintro ⟨⟨team, start⟩, live⟩
    rcases resizable.ofTeam row mem team live with same | before | ⟨-, after⟩
    · exact same
    · rw [start] at spans
      exact absurd before (Nat.not_le_of_lt spans)
    · rw [start] at after
      exact absurd after (Nat.not_le_of_lt spans')
  · rintro rfl
    exact ⟨⟨rfl, rfl⟩, resizable.live⟩

theorem RosterDb.Resizable.releases (resizable : db.Resizable r window now) {row : OnCallSchedule}
    (own : row.rotationId = some r.id) (after : window.endsAt ≤ row.startsAt) :
    window.releases now row := by
  have later : window.startsAt < row.startsAt :=
    Nat.lt_of_lt_of_le (resizable.spans window resizable.mem) after
  unfold OnCallSchedule.releases
  rw [own, resizable.own, beq_self_eq_true, Bool.true_and, and_eq_true]
  exact ⟨decide_eq_true (Nat.lt_of_lt_of_le resizable.unfinished after), decide_eq_true later⟩

theorem OnCallSchedule.releases_not {row : OnCallSchedule} (start : row.startsAt ≤ window.startsAt) :
    (!window.releases now row) := by
  unfold releases
  rw [decide_eq_false (Nat.not_lt_of_le start), Bool.and_false]
  rfl

theorem RosterDb.Resizable.resized (resizable : db.Resizable r window now)
    (future : now < endsAt) (spans : window.startsAt < endsAt) (changes : endsAt ≠ window.endsAt) :
    ∃ db', resizeWindow window.teamId window.startsAt endsAt now db = .ok db' ∧
      db'.activeRotation r.id = some (r.alignTo { window with endsAt }) ∧
      db'.teamMembers = db.teamMembers ∧
      ∀ row, row ∈ db'.schedules ∧ row.rotationId = some r.id ↔
        row = { window with endsAt } ∨
          row ∈ db.schedules ∧ row.rotationId = some r.id ∧ row.startsAt < window.startsAt := by
  have found : db.schedules.find? (OnCallSchedule.isLiveAt window.teamId window.startsAt) =
      some window := by
    cases first : db.schedules.find? (OnCallSchedule.isLiveAt window.teamId window.startsAt) with
    | none =>
      exact absurd ((resizable.isLiveAt_iff resizable.mem).mpr rfl)
        (find?_eq_none.mp first window resizable.mem)
    | some row =>
      exact congrArg some ((resizable.isLiveAt_iff (mem_of_find?_eq_some first)).mp
        (find?_some first))
  obtain ⟨next, active, schedules, members⟩ :=
    releaseWindowsAfter_spec now resizable.own resizable.active
  have free : ((releaseWindowsAfter window now db).schedules.any fun row =>
      row.teamId == window.teamId && row.deletedAt.isNone && row.startsAt != window.startsAt &&
        decide (row.startsAt < endsAt) && decide (window.startsAt < row.endsAt)) = false := by
    rw [schedules, List.any_eq_false]
    intro row mem overlap
    obtain ⟨mem, stays⟩ := mem_filter.mp mem
    simp only [and_eq_true, beq_iff_eq, bne_iff_ne, decide_eq_true_eq,
      isNone_iff_eq_none] at overlap
    obtain ⟨⟨⟨⟨team, live⟩, other⟩, -⟩, (late : window.startsAt < row.endsAt)⟩ := overlap
    rcases resizable.ofTeam row mem team live with rfl | before | ⟨own, after⟩
    · exact other rfl
    · exact Nat.not_le_of_lt late before
    · rw [resizable.releases own after] at stays
      cases stays
  have active : ((releaseWindowsAfter window now db).setEnd window.teamId window.startsAt
      endsAt).activeRotation r.id = some { r with nextStartsAt := next } := active
  refine ⟨((releaseWindowsAfter window now db).setEnd window.teamId window.startsAt
    endsAt).updateRotation r.id (OnCallRotation.alignTo { window with endsAt }), ?_, ?_, members,
      fun row => ?_⟩
  · unfold resizeWindow
    rw [found]
    dsimp only
    rw [if_neg fun past => Nat.not_le_of_lt resizable.unfinished past.2,
      if_neg fun past => Nat.not_le_of_lt future past.2, if_neg (Nat.not_le_of_lt spans),
      decide_eq_true changes, if_pos rfl, free, if_neg Bool.false_ne_true, if_pos rfl,
      alignRotationCursor_eq { window with endsAt } resizable.own active]
  · rw [activeRotation_updateRotation (fun _ => ⟨OnCallRotation.alignTo_kept.1,
      OnCallRotation.alignTo_kept.2.1⟩) active, OnCallRotation.alignTo_next]
  · have rows : ((releaseWindowsAfter window now db).setEnd window.teamId window.startsAt
        endsAt).schedules = (db.schedules.filter fun row => !window.releases now row).map fun row =>
          if row.isLiveAt window.teamId window.startsAt then { row with endsAt } else row :=
      congrArg (List.map _) schedules
    have other {old : OnCallSchedule} (mem : old ∈ db.schedules) (different : old ≠ window) :
        ¬ old.isLiveAt window.teamId window.startsAt :=
      mt (resizable.isLiveAt_iff mem).mp different
    change row ∈ ((releaseWindowsAfter window now db).setEnd window.teamId window.startsAt
      endsAt).schedules ∧ _ ↔ _
    rw [rows, List.mem_map]
    constructor
    · rintro ⟨⟨old, mem, rfl⟩, own⟩
      obtain ⟨mem, stays⟩ := mem_filter.mp mem
      by_cases edited : old = window
      · rw [if_pos ((resizable.isLiveAt_iff mem).mpr edited), edited]
        exact Or.inl rfl
      · rw [if_neg (other mem edited)] at own ⊢
        rcases resizable.ofRotation old mem own with same | before | ⟨-, after⟩
        · exact absurd same edited
        · exact Or.inr ⟨mem, own, before⟩
        · rw [resizable.releases own after] at stays
          cases stays
    · rintro (rfl | ⟨mem, own, before⟩)
      · refine ⟨⟨window, mem_filter.mpr ⟨resizable.mem, ?_⟩, ?_⟩, resizable.own⟩
        · exact OnCallSchedule.releases_not (Nat.le_refl _)
        · exact if_pos ((resizable.isLiveAt_iff resizable.mem).mpr rfl)
      · refine ⟨⟨row, mem_filter.mpr ⟨mem, ?_⟩, if_neg (other mem ?_)⟩, own⟩
        · exact OnCallSchedule.releases_not (Nat.le_of_lt before)
        · rintro rfl
          exact Nat.lt_irrefl _ before

end Request

/-! ## What follows it -/

def OnCallRotation.heldBy (r : OnCallRotation) (window : OnCallSchedule) : OnCallRotation :=
  { r with lastPrimaryUserId := window.primaryUserId, lastBackupUserId := window.backupUserId }

/-- The cycles from the end of a window on, with the holders of the window before the first. -/
def OnCallRotation.replan (r : OnCallRotation) (db : RosterDb) (window : OnCallSchedule) :
    PlanWindowsInput :=
  ((r.alignTo window).heldBy window).origin db 0

/-- The next cycle is over before the tick. -/
def RosterDb.late (db : RosterDb) (tick : RosterTick) : Bool :=
  !tick.lockedElsewhere && (db.activeRotation tick.rotationId).any fun rotation =>
    decide (rotation.nextStartsAt + (rotation.settings db tick.now).cycleMs ≤ tick.now)

structure Replanned (r : OnCallRotation) (db : RosterDb) (window : OnCallSchedule) (endsAt : Time)
    (k : Nat) (w : RosterState) : Prop where
  cursor : ∃ current, w.db.activeRotation r.id = some current ∧
    current.nextStartsAt = (r.replan db { window with endsAt }).startAt k
  earlier : ∀ row, row ∈ w.db.schedules ∧ row.rotationId = some r.id ∧
      row.startsAt ≤ window.startsAt ↔
    row = { window with endsAt } ∨
      row ∈ db.schedules ∧ row.rotationId = some r.id ∧ row.startsAt < window.startsAt
  later : ∀ row ∈ w.db.schedules, row.rotationId = some r.id → window.startsAt < row.startsAt →
    row.deletedAt = none ∧ ∃ i < k, row.toWindow = (r.replan db { window with endsAt }).windowAt i
  made : ∀ last, w.ticked r.id = some last →
    ∀ i < k, last < (r.replan db { window with endsAt }).startAt (i + 1) →
      ∃ row ∈ w.db.schedules, row.rotationId = some r.id ∧
        row.toWindow = (r.replan db { window with endsAt }).windowAt i

structure Grown (start : RosterDb) (w : RosterState) : Prop where
  rows : w.db.schedules = start.schedules ++ w.made.map Prod.snd
  live : ∀ made ∈ w.made, made.2.deletedAt = none

section Ticks

variable {db start : RosterDb} {r : OnCallRotation} {window : OnCallSchedule} {now endsAt : Time}
  {toISOString : Time → String} {w w' : RosterState} {tick : RosterTick} {k : Nat}
  {current : OnCallRotation}

theorem generateForRotation_appends (rotationId : Id) (locked : Bool) :
    ∃ added, (generateForRotation toISOString rotationId now locked db).1.schedules =
      db.schedules ++ added ∧ ∀ row ∈ added, row.deletedAt = none := by
  have nothing : ∃ added, db.schedules = db.schedules ++ added ∧
      ∀ row ∈ added, row.deletedAt = none :=
    ⟨[], (append_nil _).symm, fun row mem => absurd mem not_mem_nil⟩
  unfold generateForRotation
  split
  · exact nothing
  · next rotation _ =>
    split
    · exact nothing
    · split
      · obtain ⟨added, rows, of⟩ := @foldl_insertWindow toISOString rotation
          (untilClash toISOString db rotation.teamId (planFor db rotation now).windows).1 db.schedules
        exact ⟨added, rows, fun row mem => (of row mem).2⟩
      · exact nothing

theorem Grown.step (grown : Grown start w) (stepped : w.step toISOString tick = some w') :
    Grown start w' := by
  unfold RosterState.step at stepped
  split at stepped
  · cases stepped
    obtain ⟨added, rows, live⟩ := @generateForRotation_appends w.db tick.now toISOString
      tick.rotationId tick.lockedElsewhere
    have new : (added.map fun row => (tick.now, row)).map Prod.snd = added := by
      rw [List.map_map]
      exact List.map_id _
    constructor
    · dsimp only
      rw [rows, drop_left, map_append, new, grown.rows, append_assoc]
    · intro made mem
      dsimp only at mem
      rw [rows, drop_left] at mem
      rcases mem_append.mp mem with old | new
      · exact grown.live made old
      · obtain ⟨row, added, rfl⟩ := List.mem_map.mp new
        exact live row added
  · cases stepped

theorem RosterDb.Resizable.at (spans : window.startsAt < endsAt)
    (active : start.activeRotation r.id = some (r.alignTo { window with endsAt }))
    (members : start.teamMembers = db.teamMembers)
    (live : window.deletedAt = none)
    (rows : ∀ row, row ∈ start.schedules ∧ row.rotationId = some r.id ↔
      row = { window with endsAt } ∨
        row ∈ db.schedules ∧ row.rotationId = some r.id ∧ row.startsAt < window.startsAt) :
    RosterState.At db ((r.alignTo { window with endsAt }).heldBy { window with endsAt })
      { db := start } 0 (r.alignTo { window with endsAt }) := by
  obtain ⟨id, -, next⟩ := @OnCallRotation.alignTo_kept r { window with endsAt }
  have edited := (rows { window with endsAt }).mpr (Or.inl rfl)
  refine ⟨id.symm ▸ active, rfl, fun now => ?_, members, ?_, Or.inr ?_, ?_, fun _ => rfl,
    fun _ _ mem => absurd mem not_mem_nil, fun _ ticked => nomatch ticked⟩
  · unfold OnCallRotation.settings loadTeamMemberIds
    rw [members]
    rfl
  · rw [PlanWindowsInput.startAt_zero]
    rfl
  · have listed : ({ window with endsAt } : OnCallSchedule) ∈
        start.schedules.filter (OnCallSchedule.isLiveOf (r.alignTo { window with endsAt }).id) := by
      refine mem_filter.mpr ⟨edited.1, ?_⟩
      unfold OnCallSchedule.isLiveOf
      rw [id, edited.2, live, beq_self_eq_true]
      rfl
    unfold loadPreviousHolders
    cases latest : latestWindow start (r.alignTo { window with endsAt }).id with
    | none =>
      rw [argmax_eq_none.mp latest] at listed
      exact absurd listed not_mem_nil
    | some row =>
      have late := le_of_mem_argmax listed latest
      obtain ⟨mem, live'⟩ := mem_filter.mp (argmax_mem latest)
      have own' : row.rotationId = some r.id :=
        id ▸ beq_iff_eq.mp (and_eq_true_iff.mp live').1
      rcases (rows row).mp ⟨mem, own'⟩ with rfl | ⟨-, -, before⟩
      · rfl
      · exact absurd late (Nat.not_le_of_lt before)
  · intro row mem own'
    have own' : row.rotationId = some r.id := own'.trans (congrArg some id)
    rw [next]
    rcases (rows row).mp ⟨mem, own'⟩ with rfl | ⟨-, -, before⟩
    · exact spans
    · exact Nat.lt_trans before spans

theorem RosterState.At.replanned (at_ : w.At db ((r.alignTo { window with endsAt }).heldBy
      { window with endsAt }) k current) (grown : Grown start w) (spans : window.startsAt < endsAt)
    (rows : ∀ row, row ∈ start.schedules ∧ row.rotationId = some r.id ↔
      row = { window with endsAt } ∨
        row ∈ db.schedules ∧ row.rotationId = some r.id ∧ row.startsAt < window.startsAt) :
    Replanned r db window endsAt k w := by
  obtain ⟨id, -, next⟩ := @OnCallRotation.alignTo_kept r { window with endsAt }
  have id' : ((r.alignTo { window with endsAt }).heldBy { window with endsAt }).id = r.id := id
  obtain ⟨found, -, -, -, cursor, -, before, -, made, walked⟩ := at_
  rw [id'] at found before made walked
  have first : (r.replan db { window with endsAt }).startAt 0 = endsAt :=
    (PlanWindowsInput.startAt_zero _).trans next
  -- the row of a tick is that of a cycle, which starts at the new end or later
  have cycle : ∀ e ∈ w.made, e.2.rotationId = some r.id → window.startsAt < e.2.startsAt ∧
      e.2.deletedAt = none ∧
        ∃ i < k, e.2.toWindow = (r.replan db { window with endsAt }).windowAt i := by
    intro e mem own
    obtain ⟨-, i, -, -, is⟩ := (mem_uncappedWalk (OnCallRotation.cycleDays_pos _)).mp
      (made e.1 e.2 mem own)
    rw [OnCallRotation.origin_windowAt] at is
    have start' : e.2.startsAt = (r.replan db { window with endsAt }).startAt i :=
      (congrArg GeneratedWindow.startsAt is).symm
    have early := before e.2 (grown.rows ▸ mem_append_right _ (List.mem_map_of_mem mem)) own
    rw [cursor, start'] at early
    refine ⟨?_, grown.live e mem, i, ?_, is.symm⟩
    · have mono := (r.replan db { window with endsAt }).startAt_mono (Nat.zero_le i)
      rw [first, ← start'] at mono
      exact Nat.lt_of_lt_of_le spans mono
    · by_contra beyond
      exact Nat.not_le_of_lt early (PlanWindowsInput.startAt_mono _ (Nat.le_of_not_lt beyond))
  refine ⟨⟨current, found, cursor⟩, fun row => ⟨?_, fun given => ?_⟩, ?_, walked⟩
  · rintro ⟨mem, own, early⟩
    rw [grown.rows] at mem
    rcases mem_append.mp mem with old | new
    · exact (rows row).mp ⟨old, own⟩
    · obtain ⟨e, made, rfl⟩ := List.mem_map.mp new
      exact absurd early (Nat.not_le_of_lt (cycle e made own).1)
  · obtain ⟨mem, own⟩ := (rows row).mpr given
    refine ⟨grown.rows ▸ mem_append_left _ mem, own, ?_⟩
    rcases given with rfl | ⟨-, -, before⟩
    · exact Nat.le_refl _
    · exact Nat.le_of_lt before
  · intro row mem own late
    rw [grown.rows] at mem
    rcases mem_append.mp mem with old | new
    · rcases (rows row).mp ⟨old, own⟩ with rfl | ⟨-, -, before⟩
      · exact absurd late (Nat.lt_irrefl _)
      · exact absurd late (Nat.lt_asymm before)
    · obtain ⟨e, made, rfl⟩ := List.mem_map.mp new
      exact (cycle e made own).2

/-- Where the next cycle is not over, the cycles of a plan are not. -/
theorem RosterDb.outruns_of_early (early : db.late tick = false) : db.outruns tick = false := by
  unfold late at early
  unfold outruns
  cases locked : tick.lockedElsewhere with
  | true => rfl
  | false =>
    cases found : db.activeRotation tick.rotationId with
    | none => rfl
    | some rotation =>
      rw [locked, found, Bool.not_false, Bool.true_and, any_some] at early
      have beyond : ¬ rotation.nextStartsAt +
          ROTATION_MAX_STEPS_PER_RUN * (rotation.settings db tick.now).cycleMs ≤ tick.now := by
        refine mt (Nat.le_trans (Nat.add_le_add_left ?_ _)) (of_decide_eq_false early)
        exact Nat.le_mul_of_pos_left _ (by decide)
      dsimp only
      rw [any_some, decide_eq_false beyond, Bool.false_and, Bool.and_false, Bool.and_false]

theorem RosterState.At.same_step {r current' : OnCallRotation} {k' : Nat}
    (at_ : w.At db r k current) (at' : w'.At db r k' current')
    (same : w'.db.activeRotation r.id = w.db.activeRotation r.id) : k' = k := by
  obtain rfl : current' = current :=
    Option.some.inj (at'.found.symm.trans (same.trans at_.found))
  have starts := at'.next.symm.trans at_.next
  rcases Nat.lt_trichotomy k' k with before | rfl | after
  · exact absurd starts (Nat.ne_of_lt (PlanWindowsInput.startAt_lt _ r.cycleDays_pos before))
  · rfl
  · exact absurd starts.symm (Nat.ne_of_lt (PlanWindowsInput.startAt_lt _ r.cycleDays_pos after))

theorem RosterState.At.whole_step {r current' : OnCallRotation} {k' : Nat}
    (at_ : w.At db r k current) (at' : w'.At db r k' current')
    (early : tick.rotationId = r.id → w.db.late tick = false)
    (stepped : w.step toISOString tick = some w')
    (whole : ∀ i < k, ∃ row ∈ w.db.schedules, row.rotationId = some r.id ∧
      row.toWindow = (r.origin db 0).windowAt i) :
    ∀ i < k', ∃ row ∈ w'.db.schedules, row.rotationId = some r.id ∧
      row.toWindow = (r.origin db 0).windowAt i := by
  intro i before
  by_cases old : i < k
  · obtain ⟨row, mem, own, is⟩ := whole i old
    refine ⟨row, ?_, own, is⟩
    unfold RosterState.step at stepped
    split at stepped
    · cases stepped
      obtain ⟨added, rows, -⟩ := @generateForRotation_appends w.db tick.now toISOString
        tick.rotationId tick.lockedElsewhere
      dsimp only
      rw [rows]
      exact mem_append_left _ mem
    · cases stepped
  · have moved : ¬ w'.db.activeRotation r.id = w.db.activeRotation r.id := fun same =>
      old (at_.same_step at' same ▸ before)
    by_cases own : tick.rotationId = r.id
    · specialize early own
      unfold RosterState.step at stepped
      split at stepped
      · cases stepped
        by_cases locked : tick.lockedElsewhere = true
        · refine absurd ?_ moved
          dsimp only
          unfold generateForRotation
          rw [own, at_.found, locked]
          exact at_.found
        · have ticked : (if tick.lockedElsewhere = true then w.ticked
              else Function.update w.ticked tick.rotationId (some tick.now)) r.id =
                some tick.now := by
            rw [if_neg locked, own, Function.update_self]
          refine at'.walked tick.now ticked i before ?_
          unfold RosterDb.late at early
          rw [eq_false_iff.mpr locked, own, at_.found, Bool.not_false, Bool.true_and,
            any_some, at_.settings, at_.next] at early
          have next := Nat.lt_of_not_le (of_decide_eq_false early)
          refine Nat.lt_of_lt_of_le next ?_
          have start' := (r.origin db 0).startAt_succ k
          refine Nat.le_trans (Nat.le_of_eq start'.symm) ?_
          exact PlanWindowsInput.startAt_mono _ (Nat.succ_le_succ (Nat.le_of_not_lt old))
      · cases stepped
    · have still := at_.other own stepped
      exact absurd (still.found.trans at_.found.symm) moved

end Ticks

/-- An edit of the end of a window that is not over, in a rotation with nothing manual or deleted
after it: the windows before it stay, and the later ones are cycles of the plan from the new end,
all of them that are not over when a tick comes.  Without late ticks no cycle is left out. -/
theorem windows_replanned (toISOString : Time → String) {db : RosterDb} {r : OnCallRotation}
    {window : OnCallSchedule} {now endsAt : Time} (resizable : db.Resizable r window now)
    (future : now < endsAt) (spans : window.startsAt < endsAt) (changes : endsAt ≠ window.endsAt) :
    ∃ db', resizeWindow window.teamId window.startsAt endsAt now db = .ok db' ∧ ∀ ticks,
      (Guarded (RosterState.step toISOString)
          (fun w tick => tick.rotationId = r.id → w.db.outruns tick = false) { db := db' } ticks →
        Always (RosterState.step toISOString) (fun w => ∃ k, Replanned r db window endsAt k w)
          { db := db' } ticks) ∧
      (Guarded (RosterState.step toISOString)
          (fun w tick => tick.rotationId = r.id → w.db.late tick = false) { db := db' } ticks →
        Always (RosterState.step toISOString) (fun w => ∃ k, Replanned r db window endsAt k w ∧
            ∀ i < k, ∃ row ∈ w.db.schedules, row.rotationId = some r.id ∧
              row.toWindow = (r.replan db { window with endsAt }).windowAt i)
          { db := db' } ticks) := by
  obtain ⟨db', done, active, members, rows⟩ := resizable.resized future spans changes
  have begins := RosterDb.Resizable.at spans active members resizable.live rows
  have grown : Grown db' { db := db' } :=
    ⟨(append_nil _).symm, fun _ mem => absurd mem not_mem_nil⟩
  have id : ((r.alignTo { window with endsAt }).heldBy { window with endsAt }).id = r.id :=
    OnCallRotation.alignTo_kept.1
  refine ⟨db', done, fun ticks => ⟨fun quiet => ?_, fun early => ?_⟩⟩
  · refine quiet.always (I := fun w => Grown db' w ∧ ∃ k current, w.At db
      ((r.alignTo { window with endsAt }).heldBy { window with endsAt }) k current) ?_ ?_
      ⟨grown, 0, _, begins⟩
    · intro w tick w' ⟨grown, k, current, at_⟩ quiet stepped
      exact ⟨grown.step stepped, at_.goes_on (id ▸ quiet) stepped⟩
    · intro w ⟨grown, k, current, at_⟩
      exact ⟨k, at_.replanned grown spans rows⟩
  · refine early.always (I := fun w => Grown db' w ∧ ∃ k current, w.At db
      ((r.alignTo { window with endsAt }).heldBy { window with endsAt }) k current ∧
        ∀ i < k, ∃ row ∈ w.db.schedules, row.rotationId = some r.id ∧
          row.toWindow = (r.replan db { window with endsAt }).windowAt i) ?_ ?_
      ⟨grown, 0, _, begins, fun i before => absurd before (Nat.not_lt_zero i)⟩
    · intro w tick w' ⟨grown, k, current, at_, whole⟩ early stepped
      obtain ⟨k', current', at'⟩ := at_.goes_on
        (fun own => RosterDb.outruns_of_early (early (own.trans id))) stepped
      refine ⟨grown.step stepped, k', current', at', ?_⟩
      rw [← id] at early whole ⊢
      exact at_.whole_step at' early stepped whole
    · intro w ⟨grown, k, current, at_, whole⟩
      exact ⟨k, at_.replanned grown spans rows, whole⟩

/-! ### A window of three days that gets a fourth -/

def editedWindow : OnCallSchedule := firstWindow.schedule 7 "admin"

def resizedRoster : Except ResizeRefusal RosterDb :=
  resizeWindow 1 0 (4 * DAY_MS) DAY_MS threeDayRoster

/-- The cycles of four days from the new end on. -/
def fourDayPlan : PlanWindowsInput :=
  threeDayRotation.replan threeDayRoster { editedWindow with endsAt := 4 * DAY_MS }

theorem threeDayRoster_resizable :
    threeDayRoster.Resizable threeDayRotation editedWindow DAY_MS := by
  have rows : threeDayRoster.schedules = [editedWindow] := rfl
  have only : ∀ row ∈ threeDayRoster.schedules, row = editedWindow := by
    rw [rows]
    exact fun row mem => mem_singleton.mp mem
  refine ⟨threeDayRoster_begins.active, rows ▸ mem_singleton_self _, rfl, rfl, by decide,
    fun row mem => ?_, fun row mem _ => Or.inl (only row mem), fun row mem _ _ =>
      Or.inl (only row mem)⟩
  rw [only row mem]
  decide

theorem windows_replanned_day : ∃ db', resizedRoster = .ok db' ∧
    Always (RosterState.step fun _ => "") (fun w => ∃ k,
        Replanned threeDayRotation threeDayRoster editedWindow (4 * DAY_MS) k w ∧
          ∀ i < k, ∃ row ∈ w.db.schedules, row.rotationId = some 7 ∧
            row.toWindow = fourDayPlan.windowAt i)
      { db := db' } [⟨7, 2 * DAY_MS, false⟩, ⟨7, 7 * DAY_MS, false⟩] := by
  obtain ⟨db', done, follows⟩ := windows_replanned (fun _ => "") threeDayRoster_resizable
    (show DAY_MS < 4 * DAY_MS by decide) (by decide) (by decide)
  have checked : resizedRoster.toOption.all (fun db => check (RosterState.step fun _ => "")
      (fun w tick => !w.db.late tick) { db } [⟨7, 2 * DAY_MS, false⟩, ⟨7, 7 * DAY_MS, false⟩]) =
        true := by
    decide +kernel
  have same : resizedRoster = .ok db' := done
  rw [same] at checked
  exact ⟨db', same, (follows _).2
    (Guarded.of_check (fun early _ => (not_eq_true' _).mp early) checked)⟩

/-- The generator comes after the first cycle of four days: that cycle has no window. -/
theorem resize_late_gap :
    ¬ ∀ (toISOString : Time → String) (db : RosterDb) (r : OnCallRotation)
      (window : OnCallSchedule) (now endsAt : Time), db.Resizable r window now → now < endsAt →
        window.startsAt < endsAt → endsAt ≠ window.endsAt → ∀ db' ticks,
          resizeWindow window.teamId window.startsAt endsAt now db = .ok db' →
            Always (RosterState.step toISOString) (fun w => ∃ k, Replanned r db window endsAt k w ∧
                ∀ i < k, ∃ row ∈ w.db.schedules, row.rotationId = some r.id ∧
                  row.toWindow = (r.replan db { window with endsAt }).windowAt i)
              { db := db' } ticks := by
  intro always
  have gap : resizedRoster.toOption.any (fun db => (run (RosterState.step fun _ => "") { db }
      [⟨7, 9 * DAY_MS, false⟩]).any fun w => (w.db.activeRotation 7).any (fun current =>
        decide (fourDayPlan.startAt 0 < current.nextStartsAt)) &&
          !w.db.schedules.any fun row => row.rotationId == some 7 &&
            row.toWindow == fourDayPlan.windowAt 0) = true := by
    decide +kernel
  obtain ⟨db', done, gap⟩ := (Option.any_eq_true _ _).mp gap
  obtain ⟨w, ran, gap⟩ := (Option.any_eq_true _ _).mp gap
  have accepted : resizedRoster = .ok db' := by
    cases is : resizedRoster with
    | error refusal =>
      rw [is] at done
      cases done
    | ok db'' =>
      rw [is] at done
      cases done
      rfl
  obtain ⟨k, replanned, whole⟩ := (always (fun _ => "") threeDayRoster threeDayRotation editedWindow
    DAY_MS (4 * DAY_MS) threeDayRoster_resizable (by decide) (by decide) (by decide) db' _
      accepted).last ran
  obtain ⟨current, found, cursor⟩ := replanned.cursor
  have found : w.db.activeRotation 7 = some current := found
  rw [found, any_some, and_eq_true, cursor] at gap
  have some_ : 0 < k := by
    rcases Nat.eq_zero_or_pos k with rfl | pos
    · exact absurd (of_decide_eq_true gap.1) (Nat.lt_irrefl _)
    · exact pos
  obtain ⟨row, mem, own, is⟩ := whole 0 some_
  have there : (w.db.schedules.any fun row => row.rotationId == some 7 &&
      row.toWindow == fourDayPlan.windowAt 0) = true := by
    refine List.any_eq_true.mpr ⟨row, mem, and_eq_true_iff.mpr ⟨?_, ?_⟩⟩
    · exact beq_iff_eq.mpr own
    · exact beq_iff_eq.mpr is
  rw [there] at gap
  cases gap.2

end OpenWind
