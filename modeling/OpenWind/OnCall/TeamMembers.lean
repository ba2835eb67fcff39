import OpenWind.Lib.RowLocks
import OpenWind.Schema

/-!
# Members of teams

A person is in one team at most, which a unique index sees to.  A replacement of the members reads
the team, waits for its row and writes the members; a deletion removes the members first and then
writes the row of the team.
-/

open List Option Bool Txn.Prog

namespace OpenWind

open Txn Runs Txn.Table

/-- A row of `teams`. -/
structure TeamRow where
  id : Id
  tenantId : Id
  deletedAt : Option Time := none
  deriving DecidableEq

structure TeamMemberRow where
  tenantId : Id
  teamId : Id
  userId : Id
  position : Nat
  deriving DecidableEq

structure TeamStore where
  teams : List TeamRow
  members : List TeamMemberRow
  deriving DecidableEq

inductive TeamKey
  | team (id : Id)
  | member (tenantId userId : Id)
  deriving DecidableEq

inductive TeamError
  | listedTwice
  | onAnotherTeam
  | notOnCall
  | notFound
  | conflict
  | oneTeam
  | teamChanged
  deriving DecidableEq

namespace TeamStore

def teamRows : Table TeamStore TeamKey TeamRow where
  rows := teams
  put db rows := { db with teams := rows }
  key row := .team row.id
  rows_put _ _ := rfl

def memberRows : Table TeamStore TeamKey TeamMemberRow where
  rows := members
  put db rows := { db with members := rows }
  key row := .member row.tenantId row.userId
  rows_put _ _ := rfl

end TeamStore

abbrev TeamTx := Prog TeamStore TeamKey TeamError

/-! ## Requests -/

def TeamRow.isOf (tenantId teamId : Id) (row : TeamRow) : Bool :=
  row.id == teamId && row.tenantId == tenantId

def TeamRow.isLive (tenantId teamId : Id) (row : TeamRow) : Bool :=
  row.isOf tenantId teamId && row.deletedAt.isNone

def TeamMemberRow.isOf (tenantId teamId : Id) (row : TeamMemberRow) : Bool :=
  row.tenantId == tenantId && row.teamId == teamId

def TeamStore.isTaken (db : TeamStore) (tenantId : Id) (thisTeamId : Option Id)
    (member : TeamMemberRow) : Bool :=
  member.tenantId == tenantId && some member.teamId != thisTeamId &&
    db.teams.any (·.isLive tenantId member.teamId)

/-- `refuseBadMembers`; who has a role on call is asked of the directory. -/
def refuseBadMembers (tenantId : Id) (userIds alreadyMembers : List Id) (thisTeamId : Option Id)
    (onCall : Id → Bool) : TeamTx Unit := do
  Prog.require (decide userIds.Nodup) .listedTwice
  let adding := userIds.filter fun userId => !alreadyMembers.contains userId
  let taken ← Prog.read fun db => db.members.filter fun member =>
    db.isTaken tenantId thisTeamId member && adding.contains member.userId
  Prog.require taken.isEmpty .onAnotherTeam
  Prog.require (adding.all onCall) .notOnCall

def newMembers (tenantId teamId : Id) : Nat → List Id → List TeamMemberRow
  | _, [] => []
  | position, userId :: rest =>
    ⟨tenantId, teamId, userId, position⟩ :: newMembers tenantId teamId (position + 1) rest

def replaceTeamMembers (tenantId teamId : Id) (userIds : List Id) : TeamTx (List Id) := do
  let _ ← TeamStore.teamRows.lockRow none (·.isOf tenantId teamId)
  let previous ← TeamStore.memberRows.filter (·.isOf tenantId teamId)
  let _ ← TeamStore.memberRows.deleteReturning (·.isOf tenantId teamId)
  TeamStore.memberRows.insert .oneTeam (newMembers tenantId teamId 0 userIds)
  return previous.map TeamMemberRow.userId

def createTeam (tenantId teamId : Id) (userIds : List Id) (onCall : Id → Bool) : TeamTx Unit := do
  refuseBadMembers tenantId userIds [] none onCall
  TeamStore.teamRows.insert .conflict [{ id := teamId, tenantId }]
  let _ ← replaceTeamMembers tenantId teamId userIds
  return ()

def setTeamMembers (tenantId teamId : Id) (userIds : List Id) (onCall : Id → Bool) : TeamTx Unit := do
  let exists_ ← TeamStore.teamRows.find (·.isLive tenantId teamId)
  let _ ← Prog.getOr exists_ .notFound
  let current ← TeamStore.memberRows.filter (·.isOf tenantId teamId)
  let alreadyChecked := current.map TeamMemberRow.userId
  refuseBadMembers tenantId userIds alreadyChecked (some teamId) onCall
  let team ← TeamStore.teamRows.find (·.isLive tenantId teamId)
  let _ ← Prog.getOr team .notFound
  let previous ← replaceTeamMembers tenantId teamId userIds
  Prog.require (userIds.all fun userId =>
    !(alreadyChecked.contains userId && !previous.contains userId)) .teamChanged

def deleteTeam (tenantId teamId : Id) (now : Time) : TeamTx (List TeamMemberRow) := do
  let removed ← TeamStore.memberRows.deleteReturning (·.isOf tenantId teamId)
  TeamStore.teamRows.update (·.isLive tenantId teamId) fun row => { row with deletedAt := some now }
  return removed

inductive TeamCall
  | create (tenantId teamId : Id) (userIds : List Id) (onCall : Id → Bool)
  | setMembers (tenantId teamId : Id) (userIds : List Id) (onCall : Id → Bool)
  | delete (tenantId teamId : Id) (now : Time)

def TeamCall.program : TeamCall → TeamTx (List TeamMemberRow)
  | .create tenantId teamId userIds onCall => do
    createTeam tenantId teamId userIds onCall
    return []
  | .setMembers tenantId teamId userIds onCall => do
    setTeamMembers tenantId teamId userIds onCall
    return []
  | .delete tenantId teamId now => deleteTeam tenantId teamId now

/-! ## The properties and the condition -/

namespace TeamStore

def Emptied (db : TeamStore) : Prop :=
  ∀ team ∈ db.teams, team.deletedAt ≠ none →
    ∀ member ∈ db.members, member.isOf team.tenantId team.id = false

def OneTeam (db : TeamStore) : Prop :=
  ∀ member ∈ db.members, ∀ other ∈ db.members, member.tenantId = other.tenantId →
    member.userId = other.userId → member = other

def Joinable (db : TeamStore) : Prop :=
  ∀ tenantId teamId userIds onCall, db.teams.any (·.isLive tenantId teamId) = true →
    userIds.Nodup → (∀ userId ∈ userIds, onCall userId = true) →
    (∀ member ∈ db.members, member.userId ∈ userIds →
      db.isTaken tenantId (some teamId) member = false) →
    ∃ db', (TeamCall.setMembers tenantId teamId userIds onCall).program.exec db = .ok ([], db') ∧
      (db'.members.filter (·.isOf tenantId teamId)).map TeamMemberRow.userId = userIds

def Live (db : TeamStore) : Prop :=
  ∀ member ∈ db.members, db.teams.any (·.isLive member.tenantId member.teamId) = true

structure Keyed (db : TeamStore) : Prop where
  teams : teamRows.Keyed db
  members : memberRows.Keyed db

end TeamStore

def TeamCall.isSettled (call : TeamCall) (removed : List TeamMemberRow) (db : TeamStore) : Bool :=
  match call with
  | .create .. => true
  | .setMembers tenantId teamId userIds _ =>
    userIds.isEmpty || db.teams.any (·.isLive tenantId teamId)
  | .delete tenantId teamId _ =>
    db.members.all fun member => !member.isOf tenantId teamId || removed.contains member

def TeamCall.Settled (call : TeamCall) (removed : List TeamMemberRow) (db : TeamStore) : Prop :=
  call.isSettled removed db = true

/-! ## Safety -/

def teamRely : Rely TeamStore TeamKey :=
  .both TeamStore.teamRows.lockedStay TeamStore.memberRows.lockedStay

/-- What a request commits. -/
def teamContract : Contract TeamCall TeamStore TeamError (List TeamMemberRow) where
  failed _ _ _ := True
  returned call _ before after removed :=
    match call with
    | .create tenantId teamId userIds _ =>
        after.teams = before.teams ++ [{ id := teamId, tenantId }] ∧
        ∃ gone, after.members = before.members.filter (fun row => !TeamStore.memberRows.among gone row)
          ++ newMembers tenantId teamId 0 userIds
    | .setMembers tenantId teamId userIds _ =>
        after.teams = before.teams ∧
        ∃ gone, after.members = before.members.filter (fun row => !TeamStore.memberRows.among gone row)
          ++ newMembers tenantId teamId 0 userIds
    | .delete tenantId teamId _ =>
        (∃ f : TeamRow → TeamRow, after.teams = before.teams.map f ∧
          ∀ row, row.isLive tenantId teamId = false → f row = row) ∧
        after.members = before.members.filter fun row => !TeamStore.memberRows.among removed row

section Safety

variable {tenantId teamId : Id} {userIds : List Id} {held : List TeamKey}
  {patch : TeamStore → TeamStore} {db last : TeamStore} {gone new : List TeamMemberRow}

structure Replaces (gone new : List TeamMemberRow) (held : List TeamKey)
    (patch : TeamStore → TeamStore) (db : TeamStore) : Prop where
  members : ∀ db, (patch db).members =
    db.members.filter (fun row => !TeamStore.memberRows.among gone row) ++ new
  goneKeys : ∀ key ∈ gone.map TeamStore.memberRows.key, key ∈ held
  newKeys : ∀ row ∈ new, TeamStore.memberRows.key row ∈ held
  fresh : TeamStore.memberRows.fresh new
    (TeamStore.memberRows.remove (TeamStore.memberRows.among gone) db) = true

theorem Replaces.onward (replaces : Replaces gone new held patch db)
    (onward : teamRely.rel held db last) : Replaces gone new held patch last := by
  refine ⟨replaces.members, replaces.goneKeys, replaces.newKeys, ?_⟩
  refine fresh_later replaces.fresh (fun row locked mem => ?_) replaces.newKeys
  rw [rows_remove] at mem ⊢
  obtain ⟨listed, stays⟩ := mem_filter.mp mem
  exact mem_filter.mpr ⟨(onward.2 row locked).mpr listed, stays⟩

theorem Replaces.keyed (replaces : Replaces gone new held patch db)
    (keyed : TeamStore.memberRows.Keyed db) : TeamStore.memberRows.Keyed (patch db) := by
  have appended := (keyed.remove (TeamStore.memberRows.among gone)).append replaces.fresh
  unfold Table.Keyed at appended ⊢
  rw [rows_append, rows_remove] at appended
  change ((patch db).members.map _).Nodup
  rw [replaces.members]
  exact appended

theorem Replaces.respects (replaces : Replaces gone new held patch db) :
    TeamStore.memberRows.lockedStay.Respects held db (patch db) :=
  respects_replace (replaces.members db)
    (fun _ among => replaces.goneKeys _ (key_of_among among)) replaces.newKeys

theorem safe_refuse {userIds alreadyMembers : List Id} {thisTeamId : Option Id}
    {onCall : Id → Bool} {α : Type} {next : Unit → TeamTx α}
    {Q : α → List TeamKey → (TeamStore → TeamStore) → TeamStore → Prop}
    (onward : ∀ later, teamRely.rel held db later →
      Safe teamRely TeamStore.Keyed (fun _ => True) Q (next ()) held patch later) :
    Safe teamRely TeamStore.Keyed (fun _ => True) Q
      ((refuseBadMembers tenantId userIds alreadyMembers thisTeamId onCall).bind next) held patch
      db := by
  refine Safe.bind (Safe.require (fun _ => trivial) fun _ => ?_)
  refine Safe.read fun later moved _ => ?_
  refine Safe.require (fun _ => trivial) fun _ => Safe.ends ?_
  refine Safe.require (fun _ => trivial) fun _ => ?_
  exact Safe.ret fun last moved' _ => onward last (teamRely.trans moved moved')

theorem safe_replace (tenantId teamId : Id) (userIds : List Id)
    (alone : ∀ db, (patch db).members = db.members) :
    Safe teamRely TeamStore.Keyed (fun _ => True)
      (fun _ more patch' later => (∀ db, (patch' db).teams = (patch db).teams) ∧
        ∃ gone, Replaces gone (newMembers tenantId teamId 0 userIds) more patch' later)
      (replaceTeamMembers tenantId teamId userIds) held patch db := by
  unfold replaceTeamMembers
  refine Safe.readLocked (fun _ busy => by cases busy) fun _ _ _ => ?_
  refine Safe.read fun _ _ _ => ?_
  refine Safe.deleteReturning fun _ _ gone _ _ _ _ _ => ?_
  refine Safe.writeChecked trivial fun inserting _ _ fresh => ?_
  refine Safe.ret fun last onward _ => ⟨fun _ => rfl, gone, ?_⟩
  refine Replaces.onward ⟨fun db => ?_, ?_, ?_, ?_⟩ onward
  · change (patch db).members.filter _ ++ _ = _
    rw [alone]
  · exact fun key mem => mem_append_right _ (mem_append_left _ mem)
  · exact fun row mem => mem_append_left _ (List.mem_map_of_mem mem)
  · have same : TeamStore.memberRows.rows (patch inserting) = inserting.members := alone inserting
    unfold Table.fresh at fresh ⊢
    rw [Function.comp, rows_remove, same] at fresh
    rw [rows_remove]
    exact fresh

theorem selected_live {view : TeamStore} {row : TeamRow} (isLive : row.isLive tenantId teamId = false) :
    TeamStore.teamRows.selected (·.isLive tenantId teamId) view row = false :=
  eq_false_iff.mpr fun selected =>
    eq_false_iff.mp isLive (key_of_selected selected).1

theorem safe_team (call : TeamCall) (db : TeamStore) :
    Safe teamRely TeamStore.Keyed (teamContract.failed call db)
      (teamContract.Commits teamRely TeamStore.Keyed call db) call.program [] id db := by
  cases call with
  | create tenantId teamId userIds onCall =>
    refine Safe.bind (safe_refuse fun later _ => ?_)
    refine Safe.writeChecked trivial fun inserting _ _ fresh => ?_
    have alone : ∀ db : TeamStore, ((TeamStore.teamRows.append [{ id := teamId, tenantId }] ∘ id)
        db).members = db.members := fun _ => rfl
    refine Safe.bind ((safe_replace tenantId teamId userIds alone).since.mono (fun _ _ => trivial) ?_)
    intro _ held patch later _ replaced
    obtain ⟨more, since, teams, gone, replaces⟩ := replaced
    refine Safe.ret fun mid onward _ => Safe.ret fun last moved keyed => ?_
    have final := replaces.onward (teamRely.trans onward moved)
    have onwards := teamRely.trans since (teamRely.anti more (teamRely.trans onward moved))
    have own : ∀ row ∈ [({ id := teamId, tenantId } : TeamRow)],
        TeamStore.teamRows.key row ∈ held :=
      fun row mem => more (mem_append_left _ (List.mem_map_of_mem mem))
    have new : TeamStore.teamRows.fresh [{ id := teamId, tenantId }] last :=
      fresh_later fresh (fun row locked => (onwards.1 row locked).mpr)
        fun row mem => mem_append_left _ (List.mem_map_of_mem mem)
    have rows : TeamStore.teamRows.rows (patch last) =
        TeamStore.teamRows.rows last ++ [{ id := teamId, tenantId }] := teams last
    refine ⟨⟨?_, final.keyed keyed.members⟩, fun others disjoint => ⟨?_, ?_⟩, teams last, gone,
      final.members last⟩
    · have appended := keyed.teams.append new
      unfold Table.Keyed at appended ⊢
      rwa [rows, ← rows_append]
    · exact respects_append rows own others disjoint
    · exact final.respects others disjoint
  | setMembers tenantId teamId userIds onCall =>
    refine Safe.bind ?_
    refine Safe.read fun first _ _ => ?_
    refine Safe.getOr (fun _ => trivial) fun _ _ => ?_
    refine Safe.read fun second _ _ => ?_
    refine safe_refuse fun third _ => ?_
    refine Safe.read fun fourth _ _ => ?_
    refine Safe.getOr (fun _ => trivial) fun _ _ => ?_
    have alone : ∀ db : TeamStore, (id db).members = db.members := fun _ => rfl
    refine Safe.bind ((safe_replace tenantId teamId userIds alone).mono (fun _ _ => trivial) ?_)
    intro previous held patch db' keyed replaced
    obtain ⟨teams, gone, replaces⟩ := replaced
    refine Safe.ends (Safe.require (fun _ => trivial) fun _ => ?_)
    refine Safe.ret fun mid onward _ => Safe.ret fun last moved keyed => ?_
    have final := replaces.onward (teamRely.trans onward moved)
    have same : TeamStore.teamRows.rows (patch last) = last.teams := teams last
    refine ⟨⟨?_, final.keyed keyed.members⟩, fun others disjoint => ⟨?_, ?_⟩, teams last, gone,
      final.members last⟩
    · unfold Table.Keyed
      rw [same]
      exact keyed.teams
    · intro row _
      rw [same]
      exact Iff.rfl
    · exact final.respects others disjoint
  | delete tenantId teamId now =>
    refine Safe.deleteReturning fun later removing removed _ _ _ _ _ => ?_
    refine Safe.write fun updating _ _ => ?_
    refine Safe.ret fun last _ keyed => ?_
    refine ⟨⟨keyed.teams.modify _ fun _ => rfl, keyed.members.remove _⟩,
      fun others disjoint => ⟨?_, ?_⟩, ⟨_, rfl, fun row isLive => ?_⟩, rfl⟩
    · refine respects_modify (rows_modify ..) (fun row => ?_) (fun row free => ?_) others
        disjoint
      · split
        · rfl
        · rfl
      · exact if_neg fun selected => free (mem_append_left _ (key_of_selected selected).2)
    · refine respects_remove (rows_remove ..) (fun row among => ?_) others disjoint
      exact mem_append_right _ (mem_append_left _ (key_of_among among))
    · exact if_neg (eq_false_iff.mp (selected_live isLive))

end Safety

/-! ## Live teams -/

section Live

variable {tenantId teamId : Id} {userIds : List Id} {db : TeamStore}

theorem TeamRow.isOf_iff {row : TeamRow} :
    row.isOf tenantId teamId ↔ row.id = teamId ∧ row.tenantId = tenantId := by
  unfold isOf
  rw [and_eq_true, beq_iff_eq, beq_iff_eq]

theorem TeamRow.isLive_iff {row : TeamRow} :
    row.isLive tenantId teamId ↔
      (row.id = teamId ∧ row.tenantId = tenantId) ∧ row.deletedAt = none := by
  unfold isLive
  rw [and_eq_true, isOf_iff, isNone_iff_eq_none]

theorem TeamMemberRow.isOf_iff {row : TeamMemberRow} :
    row.isOf tenantId teamId ↔ row.tenantId = tenantId ∧ row.teamId = teamId := by
  unfold isOf
  rw [and_eq_true, beq_iff_eq, beq_iff_eq]

theorem mem_newMembers {row : TeamMemberRow} {position : Nat}
    (mem : row ∈ newMembers tenantId teamId position userIds) :
    row.tenantId = tenantId ∧ row.teamId = teamId ∧ row.userId ∈ userIds := by
  induction userIds generalizing position with
  | nil => cases mem
  | cons userId rest ih =>
    rcases mem_cons.mp mem with rfl | mem
    · exact ⟨rfl, rfl, mem_cons_self⟩
    · obtain ⟨tenant, team, user⟩ := ih mem
      exact ⟨tenant, team, mem_cons_of_mem _ user⟩

theorem newMembers_userIds (tenantId teamId : Id) (position : Nat) (userIds : List Id) :
    (newMembers tenantId teamId position userIds).map TeamMemberRow.userId = userIds := by
  induction userIds generalizing position with
  | nil => rfl
  | cons userId rest ih => exact congrArg (userId :: ·) (ih (position + 1))

theorem TeamStore.Live.replace {gone : List TeamMemberRow} {after : TeamStore} (live : db.Live)
    (teams : ∀ team ∈ db.teams, team ∈ after.teams)
    (members : after.members = db.members.filter (fun row => !memberRows.among gone row) ++
      newMembers tenantId teamId 0 userIds)
    (team : userIds.isEmpty = false → after.teams.any (·.isLive tenantId teamId)) :
    after.Live := by
  intro member mem
  rw [members] at mem
  rcases mem_append.mp mem with old | new
  · obtain ⟨row, listed, isLive⟩ := List.any_eq_true.mp (live member (mem_filter.mp old).1)
    exact List.any_eq_true.mpr ⟨row, teams row listed, isLive⟩
  · obtain ⟨sameTenant, sameTeam, named⟩ := mem_newMembers new
    rw [sameTenant, sameTeam]
    apply team
    cases userIds with
    | nil => cases named
    | cons => rfl

theorem live_committed {call : TeamCall} {start before after : TeamStore}
    {removed : List TeamMemberRow} (settled : call.Settled removed before) (live : before.Live)
    (returned : teamContract.returned call start before after removed) : after.Live := by
  cases call with
  | create tenantId teamId userIds onCall =>
    obtain ⟨teams, gone, members⟩ := returned
    refine live.replace (fun team mem => ?_) members fun _ => ?_
    · rw [teams]
      exact mem_append_left _ mem
    · rw [teams, any_append]
      simp [TeamRow.isLive, TeamRow.isOf]
  | setMembers tenantId teamId userIds onCall =>
    obtain ⟨teams, gone, members⟩ := returned
    refine live.replace (fun team mem => teams ▸ mem) members fun some' => ?_
    rw [teams]
    rcases or_eq_true_iff.mp settled with empty | isLive
    · rw [some'] at empty
      cases empty
    · exact isLive
  | delete tenantId teamId now =>
    obtain ⟨⟨f, teams, others⟩, members⟩ := returned
    intro member mem
    rw [members] at mem
    obtain ⟨listed, stays⟩ := mem_filter.mp mem
    obtain ⟨row, inTeams, isLive⟩ := List.any_eq_true.mp (live member listed)
    have other : row.isLive tenantId teamId = false := by
      refine eq_false_iff.mpr fun isTeam => ?_
      have same := TeamRow.isLive_iff.mp isTeam
      have same' := TeamRow.isLive_iff.mp isLive
      have isMember : member.isOf tenantId teamId := TeamMemberRow.isOf_iff.mpr
        ⟨same'.1.2.symm.trans same.1.2, same'.1.1.symm.trans same.1.1⟩
      have gone := List.all_eq_true.mp settled member listed
      rw [isMember, Bool.not_true, Bool.false_or] at gone
      have among : TeamStore.memberRows.among removed member :=
        List.any_eq_true.mpr ⟨member, contains_iff_mem.mp gone, beq_self_eq_true _⟩
      rw [among] at stays
      cases stays
    rw [teams]
    refine List.any_eq_true.mpr ⟨f row, List.mem_map_of_mem inTeams, ?_⟩
    rw [others row other]
    exact isLive

theorem TeamStore.Live.emptied (live : db.Live) (keyed : db.Keyed) : db.Emptied := by
  intro team mem deleted member listed
  refine eq_false_iff.mpr fun isMember => deleted ?_
  obtain ⟨row, inTeams, isLive⟩ := List.any_eq_true.mp (live member listed)
  obtain ⟨tenant, team'⟩ := TeamMemberRow.isOf_iff.mp isMember
  obtain ⟨⟨named, -⟩, present⟩ := TeamRow.isLive_iff.mp isLive
  have same : row = team :=
    keyed.teams.eq inTeams mem (congrArg TeamKey.team (named.trans team'))
  rwa [same] at present

theorem TeamStore.Keyed.oneTeam (keyed : db.Keyed) : db.OneTeam := by
  intro member mem other mem' tenant user
  refine keyed.members.eq mem mem' ?_
  change TeamKey.member member.tenantId member.userId = TeamKey.member other.tenantId other.userId
  rw [tenant, user]

/-! ## Who is in no live team can be put into one -/

theorem keys_newMembers (tenantId teamId : Id) (position : Nat) (userIds : List Id) :
    (newMembers tenantId teamId position userIds).map TeamStore.memberRows.key =
      userIds.map (TeamKey.member tenantId) := by
  induction userIds generalizing position with
  | nil => rfl
  | cons userId rest ih => exact congrArg (TeamKey.member tenantId userId :: ·) (ih (position + 1))

theorem fresh_newMembers (live : db.Live) (unique : userIds.Nodup)
    (free : ∀ member ∈ db.members, member.userId ∈ userIds →
      db.isTaken tenantId (some teamId) member = false) :
    TeamStore.memberRows.fresh (newMembers tenantId teamId 0 userIds)
      (TeamStore.memberRows.remove (·.isOf tenantId teamId) db) := by
  simp only [Table.fresh, and_eq_true, decide_eq_true_eq, List.all_eq_true, bne_iff_ne,
    rows_remove, mem_filter, not_eq_true']
  refine ⟨?_, fun row new member stays same => ?_⟩
  · rw [keys_newMembers]
    exact unique.map fun _ _ same => (TeamKey.member.inj same).2
  · obtain ⟨listed, other⟩ := stays
    obtain ⟨tenant, -, named⟩ := mem_newMembers new
    obtain ⟨tenant', user⟩ := TeamKey.member.inj same
    have notTaken := free member listed (by rw [user]; exact named)
    have inTenant : member.tenantId = tenantId := tenant'.trans tenant
    have isLive := live member listed
    rw [inTenant] at isLive
    have another : member.teamId ≠ teamId := by
      intro same
      rw [TeamMemberRow.isOf_iff.mpr ⟨inTenant, same⟩] at other
      cases other
    simp [TeamStore.isTaken, inTenant, isLive, another] at notTaken

/-- The people are accepted. -/
theorem exec_refuseBadMembers {alreadyMembers : List Id} {onCall : Id → Bool}
    (unique : userIds.Nodup) (eligible : ∀ userId ∈ userIds, onCall userId)
    (free : ∀ member ∈ db.members, member.userId ∈ userIds →
      db.isTaken tenantId (some teamId) member = false) :
    (refuseBadMembers tenantId userIds alreadyMembers (some teamId) onCall).exec db =
      .ok ((), db) := by
  have taken : (db.members.filter fun member => db.isTaken tenantId (some teamId) member &&
      (userIds.filter fun userId => !alreadyMembers.contains userId).contains member.userId) = [] := by
    refine filter_eq_nil_iff.mpr fun member listed both => ?_
    obtain ⟨isTaken, adding⟩ := and_eq_true_iff.mp both
    have named := (mem_filter.mp (contains_iff_mem.mp adding)).1
    rw [free member listed named] at isTaken
    cases isTaken
  have onCalls : (userIds.filter fun userId => !alreadyMembers.contains userId).all onCall = true :=
    List.all_eq_true.mpr fun userId mem => eligible userId (mem_filter.mp mem).1
  unfold refuseBadMembers
  simp only [bind_eq, exec_bind, require, decide_eq_true unique, if_true,
    exec_ret, exec_read, taken, isEmpty_nil, onCalls]

theorem exec_replaceTeamMembers (keyed : db.Keyed)
    (fresh : TeamStore.memberRows.fresh (newMembers tenantId teamId 0 userIds)
      (TeamStore.memberRows.remove (·.isOf tenantId teamId) db)) :
    (replaceTeamMembers tenantId teamId userIds).exec db =
      .ok ((db.members.filter (·.isOf tenantId teamId)).map TeamMemberRow.userId,
        TeamStore.memberRows.append (newMembers tenantId teamId 0 userIds)
          (TeamStore.memberRows.remove (·.isOf tenantId teamId) db)) := by
  unfold replaceTeamMembers
  simp only [bind_eq, exec_bind, exec_lockRow, exec_filter, keyed.members.exec_deleteReturning,
    Table.insert, exec_writeChecked, fresh, if_true, exec_pure]
  rfl

theorem TeamStore.Live.joinable (live : db.Live) (keyed : db.Keyed) : db.Joinable := by
  intro tenantId teamId userIds onCall team unique eligible free
  have fresh := fresh_newMembers live unique free
  obtain ⟨row, found⟩ : ∃ row, db.teams.find? (·.isLive tenantId teamId) = some row :=
    isSome_iff_exists.mp (by rwa [find?_isSome, ← List.any_eq_true])
  refine ⟨TeamStore.memberRows.append (newMembers tenantId teamId 0 userIds)
    (TeamStore.memberRows.remove (·.isOf tenantId teamId) db), ?_, ?_⟩
  · have checked : (userIds.all fun userId =>
        !(((db.members.filter (·.isOf tenantId teamId)).map TeamMemberRow.userId).contains userId &&
          !((db.members.filter (·.isOf tenantId teamId)).map TeamMemberRow.userId).contains
            userId)) = true := by
      refine List.all_eq_true.mpr fun userId _ => ?_
      rw [Bool.and_not_self, Bool.not_false]
    have found' : (TeamStore.teamRows.rows db).find? (·.isLive tenantId teamId) = some row := found
    have current : (TeamStore.memberRows.rows db).filter (·.isOf tenantId teamId) =
      db.members.filter (·.isOf tenantId teamId) := rfl
    simp only [TeamCall.program, setTeamMembers, bind_eq, exec_bind, exec_find, exec_filter, found',
      current, exec_getOr, exec_refuseBadMembers unique eligible free,
      exec_replaceTeamMembers keyed fresh, checked, require, if_true, pure_eq, exec_ret]
  · have rows : (TeamStore.memberRows.append (newMembers tenantId teamId 0 userIds)
        (TeamStore.memberRows.remove (·.isOf tenantId teamId) db)).members =
        db.members.filter (fun member => !member.isOf tenantId teamId) ++
          newMembers tenantId teamId 0 userIds := rfl
    have none' : (db.members.filter fun member =>
        member.isOf tenantId teamId && !member.isOf tenantId teamId) = [] :=
      filter_eq_nil_iff.mpr fun member _ => by rw [Bool.and_not_self]; exact Bool.false_ne_true
    have all' : (newMembers tenantId teamId 0 userIds).filter (·.isOf tenantId teamId) =
        newMembers tenantId teamId 0 userIds := by
      refine filter_eq_self.mpr fun member mem => ?_
      obtain ⟨tenant, team', -⟩ := mem_newMembers mem
      exact TeamMemberRow.isOf_iff.mpr ⟨tenant, team'⟩
    rw [rows, filter_append, List.filter_filter, none', all', nil_append, newMembers_userIds]

end Live

/-- In a run whose replacements commit on a team that is not deleted, unless they leave it without
members, and whose deletions commit on a team whose members they have all removed, no deleted team
has members, no person is in two teams, and whoever is in no live team can be put into one. -/
theorem deleted_team_holds_nobody (db : TeamStore) (labels : List (Label TeamCall))
    (keyed : db.Keyed) (live : db.Live)
    (settled : Guarded (Pool.next TeamCall.program) (Pool.CommitsUnder TeamCall.Settled)
      (Pool.init db) labels) :
    Always (Pool.next TeamCall.program)
      (fun pool => pool.db.Emptied ∧ pool.db.OneTeam ∧ pool.db.Joinable) (Pool.init db) labels := by
  have both := Pool.always_inv (fun call store _ => safe_team call store)
    (fun under live returned => live_committed under live returned) keyed live settled
  exact both.mono fun both => ⟨both.2.emptied both.1, both.1.oneTeam, both.2.joinable both.1⟩

/-! ## A deleted team that has a member -/

namespace TeamSample

/-- Two teams, the first of which has a member. -/
def start : TeamStore := ⟨[⟨1, 0, none⟩, ⟨2, 0, none⟩], [⟨0, 1, 7, 0⟩]⟩

def anyone : Id → Bool := fun _ => true

def checks (t : Nat) (teamId : Id) (userIds : List Id) : List (Label TeamCall) :=
  .begin t (.setMembers 0 teamId userIds anyone) :: replicate 4 (.step t)

def writes (t : Nat) : List (Label TeamCall) := replicate 5 (.step t) ++ [.finish t]

/-- A deletion, with the removal of the members in two steps. -/
def deletes (t : Nat) (teamId : Id) : List (Label TeamCall) :=
  [.begin t (.delete 0 teamId 9), .step t, .step t, .step t, .finish t]

def moved : List (Label TeamCall) := deletes 0 1 ++ checks 1 2 [7] ++ writes 1

def overlapping : List (Label TeamCall) := checks 0 2 [8] ++ deletes 1 2 ++ writes 0

end TeamSample

open TeamSample in
theorem moved_member_found :
    Always (Pool.next TeamCall.program)
      (fun pool => pool.db.Emptied ∧ pool.db.OneTeam ∧ pool.db.Joinable) (Pool.init start)
      moved := by
  refine deleted_team_holds_nobody start moved ⟨?_, ?_⟩ ?_
    (Guarded.of_check (Pool.commitsCheck_sound fun settled => settled) (by decide +kernel))
  · unfold Table.Keyed
    decide +kernel
  · unfold Table.Keyed
    decide +kernel
  · unfold TeamStore.Live
    decide +kernel

open TeamSample in
/-- The replacement waits for the deletion, and then puts its members into the deleted team. -/
theorem deleted_team_has_member :
    ¬ Always (Pool.next TeamCall.program)
      (fun pool => pool.db.Emptied ∧ pool.db.OneTeam ∧ pool.db.Joinable) (Pool.init start)
      overlapping := by
  intro always
  have holds : (run (Pool.next TeamCall.program) (Pool.init start) overlapping).any (fun pool =>
      pool.db.teams.any fun team => team.deletedAt.isSome && pool.db.members.any
        fun member => member.isOf team.tenantId team.id) = true := by
    decide +kernel
  obtain ⟨pool, ran, holds⟩ := (Option.any_eq_true _ _).mp holds
  obtain ⟨team, mem, holds⟩ := List.any_eq_true.mp holds
  obtain ⟨deleted, holds⟩ := and_eq_true_iff.mp holds
  obtain ⟨member, listed, isMember⟩ := List.any_eq_true.mp holds
  have emptied := (always.last ran).1 team mem (ne_none_iff_isSome.mpr deleted) member listed
  rw [emptied] at isMember
  cases isMember

end OpenWind
