import OpenWind.Json
import OpenWind.Lib.Pointers

/-!
# Building the org tree

A pull of the directory names the manager of each employee.  The builder gives each
employee a parent: the manager, the last known parent of a manager who has left, or
the root.  Then it breaks the cycles.
-/

open List Option

namespace OpenWind

open Pointers

structure OrgSourceRecord where
  userId : String
  managerId : Option String
  department : Option String
  name : String
  title : String
  email : String

/-- An employee of the last sync; a parent `none` is the root. -/
structure PriorEmployee where
  userId : String
  parentUserId : Option String

structure ResolvedEmployee where
  userId : String
  parentUserId : Option String
  name : String
  title : String
  department : String
  email : String

structure OrgTreeBuildResult where
  employees : List ResolvedEmployee
  removedUserIds : List String
  cyclesBroken : Nat
  reparented : Nat

def normalizeDepartment (toLowerCase : String → String) (department : Option String) : String :=
  toLowerCase (trim (department.getD ""))

def lastOfUser {ρ : Type} (userIdOf : ρ → String) (rows : List ρ) (userId : String) : Option ρ :=
  rows.reverse.find? fun row => userIdOf row == userId

def isFresh (fresh : List OrgSourceRecord) (userId : String) : Bool :=
  fresh.any fun record => record.userId == userId

def resolveParent (fresh : List OrgSourceRecord) (prior : List PriorEmployee)
    (record : OrgSourceRecord) : Option String × Bool :=
  match record.managerId with
  | none => (none, false)
  | some managerId =>
    if isFresh fresh managerId then (some managerId, false)
    else
      match lastOfUser PriorEmployee.userId prior managerId with
      | some priorManager => (priorManager.parentUserId, true)
      | none => (none, false)

/-- `resolvedParent` after the first pass. -/
def resolvedParents (fresh : List OrgSourceRecord) (prior : List PriorEmployee)
    (userId : String) : Option String :=
  (lastOfUser OrgSourceRecord.userId fresh userId).bind fun record =>
    (resolveParent fresh prior record).1

inductive Visit
  | unvisited
  | visiting
  | done
  deriving DecidableEq

structure Walk where
  marks : String → Option Visit
  path : List String
  cursor : Option String

def walkUp (resolvedParent : String → Option String) : Nat → Walk → Walk
  | 0, walk => walk
  | fuel + 1, walk =>
    match walk.cursor with
    | none => walk
    | some cursor =>
      if walk.marks cursor = some .unvisited then
        walkUp resolvedParent fuel
          { marks := Function.update walk.marks cursor (some .visiting)
            path := walk.path ++ [cursor]
            cursor := resolvedParent cursor }
      else walk

structure Breaking where
  resolvedParent : String → Option String
  marks : String → Option Visit
  cyclesBroken : Nat

/-- The node whose edge closes a cycle. -/
def Walk.closingNode (walk : Walk) : Option String :=
  match walk.cursor with
  | none => none
  | some cursor => if walk.marks cursor = some .visiting then walk.path.getLast? else none

def Breaking.close (breaking : Breaking) (walk : Walk) : Breaking where
  resolvedParent :=
    match walk.closingNode with
    | none => breaking.resolvedParent
    | some closing => Function.update breaking.resolvedParent closing none
  marks userId := if walk.path.contains userId then some .done else walk.marks userId
  cyclesBroken := breaking.cyclesBroken + if walk.closingNode.isSome then 1 else 0

def breakCycle (fuel : Nat) (breaking : Breaking) (record : OrgSourceRecord) : Breaking :=
  if breaking.marks record.userId = some .unvisited then
    breaking.close (walkUp breaking.resolvedParent fuel ⟨breaking.marks, [], some record.userId⟩)
  else breaking

/-- The second pass. -/
def breakCycles (fresh : List OrgSourceRecord) (prior : List PriorEmployee) : Breaking :=
  fresh.foldl (breakCycle fresh.length)
    { resolvedParent := resolvedParents fresh prior
      marks := fun userId => if isFresh fresh userId then some .unvisited else none
      cyclesBroken := 0 }

def resolveEmployee (toLowerCase : String → String) (resolvedParent : String → Option String)
    (record : OrgSourceRecord) : ResolvedEmployee where
  userId := record.userId
  parentUserId := resolvedParent record.userId
  name := record.name
  title := record.title
  department := normalizeDepartment toLowerCase record.department
  email := record.email

def buildOrgTree (toLowerCase : String → String) (fresh : List OrgSourceRecord)
    (prior : List PriorEmployee) : OrgTreeBuildResult where
  employees := fresh.map (resolveEmployee toLowerCase (breakCycles fresh prior).resolvedParent)
  removedUserIds := (prior.map (·.userId)).filter fun userId => !isFresh fresh userId
  cyclesBroken := (breakCycles fresh prior).cyclesBroken
  reparented := (fresh.filter fun record => (resolveParent fresh prior record).2).length

/-! ## The way up -/

section WalkUp

variable {resolvedParent : String → Option String} {fresh : List OrgSourceRecord}
  {marks : String → Option Visit}

def parentAmong (fresh : List OrgSourceRecord) (resolvedParent : String → Option String)
    (userId : String) : Option String :=
  (resolvedParent userId).filter fun parent => isFresh fresh parent

/-- The number of employees that are still unvisited. -/
def unvisited (fresh : List OrgSourceRecord) (marks : String → Option Visit) : Nat :=
  (fresh.filter fun record => marks record.userId == some .unvisited).length

structure Walk.On (fresh : List OrgSourceRecord) (resolvedParent : String → Option String)
    (marks : String → Option Visit) (walk : Walk) : Prop where
  nodup : walk.path.Nodup
  visited : ∀ userId ∈ walk.path, marks userId = some .unvisited
  marked : ∀ userId, walk.marks userId =
    if walk.path.contains userId then some .visiting else marks userId
  trail : Trail (parentAmong fresh resolvedParent) walk.path (walk.cursor.filter (isFresh fresh))

theorem unvisited_lt {marks' : String → Option Visit} {userId : String}
    (known : isFresh fresh userId) (before : marks userId = some .unvisited)
    (after : marks' userId ≠ some .unvisited)
    (others : ∀ other, marks' other = some .unvisited → marks other = some .unvisited) :
    unvisited fresh marks' < unvisited fresh marks := by
  obtain ⟨record, mem, same⟩ := List.any_eq_true.mp known
  have same : record.userId = userId := beq_iff_eq.mp same
  have sub : (fresh.filter fun record => marks' record.userId == some .unvisited).Sublist
      (fresh.filter fun record => marks record.userId == some .unvisited) := by
    refine monotone_filter_right _ fun record holds => ?_
    exact beq_iff_eq.mpr (others _ (beq_iff_eq.mp holds))
  refine Nat.lt_of_le_of_ne sub.length_le fun equal => ?_
  have equal := sub.eq_of_length equal
  have there : record ∈ fresh.filter fun record => marks record.userId == some .unvisited :=
    mem_filter.mpr ⟨mem, beq_iff_eq.mpr (same ▸ before)⟩
  rw [← equal] at there
  exact after (same ▸ beq_iff_eq.mp (mem_filter.mp there).2)

theorem Walk.On.advance {walk : Walk} (on : walk.On fresh resolvedParent marks) {cursor : String}
    (at_ : walk.cursor = some cursor) (known : isFresh fresh cursor)
    (fresh_ : walk.marks cursor = some .unvisited) :
    Walk.On fresh resolvedParent marks
      { marks := Function.update walk.marks cursor (some .visiting)
        path := walk.path ++ [cursor]
        cursor := resolvedParent cursor } := by
  have outside : cursor ∉ walk.path := by
    intro mem
    have marked := on.marked cursor
    rw [if_pos (contains_iff_mem.mpr mem), fresh_] at marked
    cases marked
  have unmarked : marks cursor = some .unvisited := by
    have marked := on.marked cursor
    rw [if_neg fun contains => outside (contains_iff_mem.mp contains)] at marked
    exact marked.symm.trans fresh_
  constructor
  · refine List.nodup_append.mpr ⟨on.nodup, nodup_singleton _, ?_⟩
    rintro a mem _ here rfl
    cases mem_singleton.mp here
    exact outside mem
  · intro userId mem
    rcases mem_append.mp mem with before | here
    · exact on.visited userId before
    · cases mem_singleton.mp here
      exact unmarked
  · intro userId
    by_cases same : userId = cursor
    · subst same
      rw [if_pos (contains_iff_mem.mpr (mem_append_right _ (mem_singleton_self _)))]
      exact Function.update_self _ _ _
    · have contains : (walk.path ++ [cursor]).contains userId = walk.path.contains userId := by
        rw [Bool.eq_iff_iff, contains_iff_mem, contains_iff_mem, mem_append, mem_singleton]
        exact or_iff_left same
      rw [contains]
      exact (Function.update_of_ne same _ _).trans (on.marked userId)
  · have trail := on.trail
    rw [at_, filter_some, if_pos known] at trail
    exact trail.snoc

theorem walkUp_on {fuel : Nat} {walk : Walk} (on : walk.On fresh resolvedParent marks)
    (known : ∀ userId, marks userId = some .unvisited → isFresh fresh userId)
    (enough : unvisited fresh walk.marks ≤ fuel) :
    (walkUp resolvedParent fuel walk).On fresh resolvedParent marks ∧
      (∀ cursor, (walkUp resolvedParent fuel walk).cursor = some cursor →
        (walkUp resolvedParent fuel walk).marks cursor ≠ some .unvisited) ∧
      walk.path ⊆ (walkUp resolvedParent fuel walk).path := by
  have fresh_of : ∀ {walk : Walk}, walk.On fresh resolvedParent marks → ∀ {cursor},
      walk.marks cursor = some .unvisited → isFresh fresh cursor := by
    intro walk on cursor unvisited_
    refine known cursor ?_
    have marked := on.marked cursor
    rw [unvisited_] at marked
    split at marked
    · cases marked
    · exact marked.symm
  induction fuel generalizing walk with
  | zero =>
    refine ⟨on, fun cursor _ unvisited_ => ?_, Subset.refl _⟩
    obtain ⟨record, mem, same⟩ := List.any_eq_true.mp (fresh_of on unvisited_)
    have counted : record ∈ fresh.filter fun record => walk.marks record.userId == some .unvisited :=
      mem_filter.mpr ⟨mem, beq_iff_eq.mpr (beq_iff_eq.mp same ▸ unvisited_)⟩
    have positive : 0 < unvisited fresh walk.marks := length_pos_of_mem counted
    exact absurd enough (Nat.not_le.mpr positive)
  | succ fuel ih =>
    cases at_ : walk.cursor with
    | none =>
      rw [walkUp, at_]
      refine ⟨on, fun cursor here => ?_, Subset.refl _⟩
      cases at_.symm.trans here
    | some cursor =>
      rw [walkUp, at_]
      dsimp only
      by_cases unvisited_ : walk.marks cursor = some .unvisited
      · rw [if_pos unvisited_]
        have advanced := on.advance at_ (fresh_of on unvisited_) unvisited_
        have fewer : unvisited fresh (Function.update walk.marks cursor (some .visiting)) <
            unvisited fresh walk.marks := by
          refine unvisited_lt (fresh_of on unvisited_) unvisited_ ?_ fun other holds => ?_
          · rw [Function.update_self]
            nofun
          · by_cases same : other = cursor
            · subst same
              rw [Function.update_self] at holds
              cases holds
            · rw [Function.update_of_ne same] at holds
              exact holds
        obtain ⟨on', stops, sub⟩ := ih advanced (Nat.le_of_lt_succ (Nat.lt_of_lt_of_le fewer enough))
        exact ⟨on', stops, fun userId mem => sub (mem_append_left _ mem)⟩
      · rw [if_neg unvisited_]
        refine ⟨on, fun cursor' here => ?_, Subset.refl _⟩
        cases at_.symm.trans here
        exact unvisited_

end WalkUp

/-! ## Breaking the cycles -/

structure Breaking.On (fresh : List OrgSourceRecord) (breaking : Breaking) : Prop where
  known : ∀ userId, (breaking.marks userId).isSome = isFresh fresh userId
  settled : ∀ userId, breaking.marks userId ≠ some .visiting
  grounded : ∀ {userId}, breaking.marks userId = some .done →
    Grounded (parentAmong fresh breaking.resolvedParent) userId
  closed : ∀ {userId parent}, breaking.marks userId = some .done →
    parentAmong fresh breaking.resolvedParent userId = some parent →
    breaking.marks parent = some .done

variable {fresh : List OrgSourceRecord} {breaking : Breaking} {record : OrgSourceRecord}

theorem Breaking.On.isFresh_of_unvisited (sound : breaking.On fresh) {userId : String}
    (unvisited_ : breaking.marks userId = some .unvisited) : isFresh fresh userId := by
  rw [← sound.known, unvisited_]
  rfl

theorem Walk.On.start (fresh : List OrgSourceRecord) (resolvedParent : String → Option String)
    (marks : String → Option Visit) (userId : String) :
    Walk.On fresh resolvedParent marks ⟨marks, [], some userId⟩ :=
  ⟨nodup_nil, fun _ mem => absurd mem not_mem_nil, fun _ => rfl, trivial⟩

theorem parentAmong_update (fresh : List OrgSourceRecord) (resolvedParent : String → Option String)
    (closing : String) :
    parentAmong fresh (Function.update resolvedParent closing none) =
      Function.update (parentAmong fresh resolvedParent) closing none := by
  funext userId
  unfold parentAmong
  by_cases same : userId = closing
  · subst same
    rw [Function.update_self, Function.update_self]
    rfl
  · rw [Function.update_of_ne same, Function.update_of_ne same]

theorem Breaking.On.close {fresh : List OrgSourceRecord} {breaking : Breaking}
    (sound : breaking.On fresh) {walk : Walk}
    (on : walk.On fresh breaking.resolvedParent breaking.marks)
    (stops : ∀ cursor, walk.cursor = some cursor → walk.marks cursor ≠ some .unvisited)
    (nonempty : walk.path ≠ []) : (breaking.close walk).On fresh := by
  have outside : ∀ {userId}, breaking.marks userId = some .done → userId ∉ walk.path := by
    intro userId done mem
    cases done.symm.trans (on.visited userId mem)
  have kept : ∀ {userId}, userId ∉ walk.path →
      (breaking.close walk).marks userId = breaking.marks userId := by
    intro userId out
    have absent : ¬ walk.path.contains userId := fun contains =>
      out (contains_iff_mem.mp contains)
    exact (if_neg absent).trans ((on.marked userId).trans (if_neg absent))
  have closed : ∀ {userId}, userId ∈ walk.path →
      (breaking.close walk).marks userId = some .done := fun mem =>
    if_pos (contains_iff_mem.mpr mem)
  have done_or : ∀ {userId}, (breaking.close walk).marks userId = some .done →
      userId ∈ walk.path ∨ breaking.marks userId = some .done := by
    intro userId done
    by_cases mem : userId ∈ walk.path
    · exact Or.inl mem
    · exact Or.inr ((kept mem).symm.trans done)
  -- the path leads on to a node that is done with, or to nowhere
  obtain ⟨cursor, trail, ends, agree⟩ : ∃ cursor,
      Trail (parentAmong fresh (breaking.close walk).resolvedParent) walk.path cursor ∧
      (∀ c, cursor = some c → breaking.marks c = some .done) ∧
      ∀ {userId}, breaking.marks userId = some .done →
        parentAmong fresh (breaking.close walk).resolvedParent userId =
          parentAmong fresh breaking.resolvedParent userId := by
    unfold Breaking.close
    cases closing : walk.closingNode with
    | none =>
      refine ⟨_, on.trail, fun c at_ => ?_, fun _ => rfl⟩
      obtain ⟨at_, known⟩ := filter_eq_some_iff.mp at_
      have unclosed : walk.marks c ≠ some .visiting := by
        intro visiting
        unfold Walk.closingNode at closing
        rw [at_] at closing
        dsimp only at closing
        rw [if_pos visiting] at closing
        exact nonempty (getLast?_eq_none_iff.mp closing)
      have marked := on.marked c
      by_cases mem : walk.path.contains c = true
      · rw [if_pos mem] at marked
        exact absurd marked unclosed
      · rw [if_neg mem] at marked
        have some_ := sound.known c
        rw [known] at some_
        obtain ⟨mark, is⟩ := isSome_iff_exists.mp some_
        cases mark with
        | unvisited => exact absurd (marked.trans is) (stops c at_)
        | visiting => exact absurd is (sound.settled c)
        | done => exact is
    | some last =>
      have ends : walk.path.getLast? = some last := by
        unfold Walk.closingNode at closing
        split at closing
        · cases closing
        · split at closing
          · exact closing
          · cases closing
      dsimp only
      rw [parentAmong_update]
      refine ⟨none, on.trail.cut on.nodup ends, nofun, fun {userId} done => ?_⟩
      refine Function.update_of_ne ?_ _ _
      rintro rfl
      exact outside done (mem_of_getLast? ends)
  have grounded : ∀ {userId}, breaking.marks userId = some .done →
      Grounded (parentAmong fresh (breaking.close walk).resolvedParent) userId :=
    fun done => (sound.grounded done).of_agree (D := fun u => breaking.marks u = some .done)
      sound.closed agree done
  constructor
  · intro userId
    by_cases mem : userId ∈ walk.path
    · rw [closed mem, ← sound.known, on.visited userId mem]
      rfl
    · rw [kept mem]
      exact sound.known userId
  · intro userId visiting
    by_cases mem : userId ∈ walk.path
    · cases (closed mem).symm.trans visiting
    · exact sound.settled userId ((kept mem).symm.trans visiting)
  · intro userId done
    rcases done_or done with mem | old
    · exact trail.grounded (fun c at_ => grounded (ends c at_)) userId mem
    · exact grounded old
  · intro userId parent done points
    rcases done_or done with mem | old
    · rcases trail.points mem points with there | at_
      · exact closed there
      · have old := ends parent at_
        exact (kept (outside old)).trans old
    · have old' := sound.closed old ((agree old).symm.trans points)
      exact (kept (outside old')).trans old'

/-- What one employee's turn does. -/
theorem breakCycle_on (sound : breaking.On fresh) (mem : record ∈ fresh) :
    (breakCycle fresh.length breaking record).On fresh ∧
      (breakCycle fresh.length breaking record).marks record.userId = some .done ∧
      ∀ userId, breaking.marks userId = some .done →
        (breakCycle fresh.length breaking record).marks userId = some .done := by
  have known : isFresh fresh record.userId := List.any_eq_true.mpr ⟨record, mem, beq_self_eq_true _⟩
  unfold breakCycle
  by_cases unvisited_ : breaking.marks record.userId = some .unvisited
  · rw [if_pos unvisited_]
    have start := Walk.On.start fresh breaking.resolvedParent breaking.marks record.userId
    have fresh_of (userId : String) (is : breaking.marks userId = some .unvisited) :=
      sound.isFresh_of_unvisited is
    obtain ⟨on, stops, _⟩ := walkUp_on start fresh_of (length_filter_le _ _)
    have first : record.userId ∈
        (walkUp breaking.resolvedParent fresh.length ⟨breaking.marks, [], some record.userId⟩).path := by
      obtain ⟨n, length⟩ := Nat.exists_eq_succ_of_ne_zero (Nat.ne_of_gt (length_pos_of_mem mem))
      have advanced := start.advance rfl known unvisited_
      have fewer : unvisited fresh (Function.update breaking.marks record.userId (some .visiting)) ≤
          n := by
        refine Nat.le_of_lt_succ (Nat.lt_of_lt_of_le (@unvisited_lt _ breaking.marks _ _ known
          unvisited_ ?_ fun other holds => ?_) (length ▸ length_filter_le _ _))
        · rw [Function.update_self]
          nofun
        · by_cases same : other = record.userId
          · rw [same, Function.update_self] at holds
            cases holds
          · rw [Function.update_of_ne same] at holds
            exact holds
      rw [length, walkUp]
      dsimp only
      rw [if_pos unvisited_]
      exact (walkUp_on advanced fresh_of fewer).2.2 (mem_singleton_self _)
    have nonempty := ne_nil_of_mem first
    refine ⟨sound.close on stops nonempty, if_pos (contains_iff_mem.mpr first), ?_⟩
    intro userId done
    have outside : ¬ (walkUp breaking.resolvedParent fresh.length
        ⟨breaking.marks, [], some record.userId⟩).path.contains userId := by
      intro contains
      cases done.symm.trans (on.visited userId (contains_iff_mem.mp contains))
    exact (if_neg outside).trans ((on.marked userId).trans ((if_neg outside).trans done))
  · rw [if_neg unvisited_]
    refine ⟨sound, ?_, fun _ done => done⟩
    have some_ := sound.known record.userId
    rw [known] at some_
    obtain ⟨mark, is⟩ := isSome_iff_exists.mp some_
    cases mark with
    | unvisited => exact absurd is unvisited_
    | visiting => exact absurd is (sound.settled _)
    | done => exact is

theorem foldl_breakCycle_on (records : List OrgSourceRecord) (sub : records ⊆ fresh)
    (sound : breaking.On fresh) :
    (records.foldl (breakCycle fresh.length) breaking).On fresh ∧
      ∀ userId, (breaking.marks userId = some .done ∨ ∃ record ∈ records, record.userId = userId) →
        (records.foldl (breakCycle fresh.length) breaking).marks userId = some .done := by
  induction records generalizing breaking with
  | nil =>
    refine ⟨sound, fun userId done => ?_⟩
    rcases done with done | ⟨record, mem, _⟩
    · exact done
    · cases mem
  | cons record rest ih =>
    obtain ⟨sound', done, kept⟩ := breakCycle_on sound (sub mem_cons_self)
    obtain ⟨last, all⟩ := ih (fun _ mem => sub (mem_cons_of_mem _ mem)) sound'
    refine ⟨last, fun userId either => all userId ?_⟩
    rcases either with old | ⟨other, mem, rfl⟩
    · exact Or.inl (kept userId old)
    · rcases mem_cons.mp mem with rfl | later
      · exact Or.inl done
      · exact Or.inr ⟨other, later, rfl⟩

theorem Breaking.On.start (fresh : List OrgSourceRecord) (prior : List PriorEmployee) :
    Breaking.On fresh
      { resolvedParent := resolvedParents fresh prior
        marks := fun userId => if isFresh fresh userId then some .unvisited else none
        cyclesBroken := 0 } := by
  refine ⟨fun userId => ?_, fun userId visiting => ?_, fun {userId} done => ?_,
    fun {userId _} done => ?_⟩
  · dsimp only
    cases isFresh fresh userId
    · rfl
    · rfl
  · dsimp only at visiting
    split at visiting
    · cases visiting
    · cases visiting
  · dsimp only at done
    split at done
    · cases done
    · cases done
  · dsimp only at done
    split at done
    · cases done
    · cases done

theorem breakCycles_grounded (prior : List PriorEmployee) (mem : record ∈ fresh) :
    Grounded (parentAmong fresh (breakCycles fresh prior).resolvedParent) record.userId := by
  obtain ⟨sound, done⟩ := foldl_breakCycle_on fresh (Subset.refl _) (Breaking.On.start fresh prior)
  exact sound.grounded (done _ (Or.inr ⟨record, mem, rfl⟩))

end OpenWind
