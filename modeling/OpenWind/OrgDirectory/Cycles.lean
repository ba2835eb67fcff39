import OpenWind.Lib.Cycles
import OpenWind.OrgDirectory.TreeBuilder

/-!
# The cycles of a pull

The second pass visits every employee once and cuts a cycle when its walk comes back to its own
path, which happens once for each cycle of the resolved parents, wherever the walk came in.
-/

open List Option

namespace OpenWind

open Pointers

def OrgTreeBuildResult.parentOf (result : OrgTreeBuildResult) (userId : String) : Option String :=
  (result.employees.find? fun employee => employee.userId == userId).bind (·.parentUserId)

/-! ## What is cut -/

/-- The pass has cut the cycles of `next` at `cuts`, all among the employees that it is done
with.  What these employees had for a parent is done with too. -/
structure Breaking.CutBy (fresh : List OrgSourceRecord) (next : String → Option String)
    (breaking : Breaking) (cuts : List String) : Prop where
  sound : Cuts next cuts
  count : breaking.cyclesBroken = cuts.length
  parents : breaking.resolvedParent = cutAt next cuts
  done : ∀ userId ∈ cuts, breaking.marks userId = some .done
  closed : ∀ {userId parent}, breaking.marks userId = some .done → next userId = some parent →
    breaking.marks parent = some .done ∨ isFresh fresh parent = false

section Close

variable {fresh : List OrgSourceRecord} {next : String → Option String} {breaking : Breaking}
  {walk : Walk}

theorem parentAmong_eq_some {resolvedParent : String → Option String} {userId parent : String} :
    parentAmong fresh resolvedParent userId = some parent ↔
      resolvedParent userId = some parent ∧ isFresh fresh parent :=
  filter_eq_some_iff

theorem Walk.On.stop (on : walk.On fresh breaking.resolvedParent breaking.marks)
    (sound : breaking.On fresh)
    (stops : ∀ cursor, walk.cursor = some cursor → walk.marks cursor ≠ some .unvisited)
    {cursor : String} (at_ : walk.cursor = some cursor) (known : isFresh fresh cursor) :
    cursor ∈ walk.path ∨ breaking.marks cursor = some .done := by
  by_cases mem : cursor ∈ walk.path
  · exact .inl mem
  · have marked := on.marked cursor
    rw [if_neg fun contains => mem (contains_iff_mem.mp contains)] at marked
    have some_ := sound.known cursor
    rw [known] at some_
    obtain ⟨mark, is⟩ := isSome_iff_exists.mp some_
    cases mark with
    | unvisited => exact absurd (marked.trans is) (stops cursor at_)
    | visiting => exact absurd is (sound.settled cursor)
    | done => exact .inr is

variable {last userId : String} {cuts : List String}

/-- An employee who is done with leads to no employee who is not. -/
theorem Breaking.CutBy.stays (cut : breaking.CutBy fresh next cuts)
    (orphan : ∀ userId, isFresh fresh userId = false → next userId = none)
    (done : breaking.marks userId = some .done) (there : LeadsTo next userId last) :
    breaking.marks last = some .done ∨ isFresh fresh last = false := by
  induction there with
  | refl => exact .inl done
  | tail _ points ih =>
    rcases ih with done | left
    · exact cut.closed done points
    · cases (orphan _ left).symm.trans points

theorem Breaking.CutBy.on_path (cut : breaking.CutBy fresh next cuts)
    (on : walk.On fresh breaking.resolvedParent breaking.marks) (mem : userId ∈ walk.path) :
    breaking.resolvedParent userId = next userId := by
  rw [cut.parents]
  refine cutAt_of_not_mem fun old => ?_
  cases (cut.done userId old).symm.trans (on.visited userId mem)

theorem Walk.On.closes (on : walk.On fresh breaking.resolvedParent breaking.marks)
    (sound : breaking.On fresh) (closing : walk.closingNode = some last) :
    walk.path.getLast? = some last ∧ OnCycle (parentAmong fresh breaking.resolvedParent) last := by
  unfold Walk.closingNode at closing
  cases at_ : walk.cursor with
  | none =>
    rw [at_] at closing
    cases closing
  | some cursor =>
    rw [at_] at closing
    dsimp only at closing
    by_cases visiting : walk.marks cursor = some .visiting
    · rw [if_pos visiting] at closing
      have mem : cursor ∈ walk.path := by
        by_contra out
        have marked := on.marked cursor
        rw [if_neg fun contains => out (contains_iff_mem.mp contains), visiting] at marked
        exact sound.settled cursor marked.symm
      have known : isFresh fresh cursor := by
        rw [← sound.known, on.visited cursor mem]
        rfl
      have trail := on.trail
      rw [at_, filter_some, if_pos known] at trail
      exact ⟨closing, trail.onCycle closing mem⟩
    · rw [if_neg visiting] at closing
      cases closing

theorem Breaking.close_marks (on : walk.On fresh breaking.resolvedParent breaking.marks)
    (userId : String) :
    (breaking.close walk).marks userId =
      if userId ∈ walk.path then some .done else breaking.marks userId := by
  by_cases mem : userId ∈ walk.path
  · rw [if_pos mem]
    exact if_pos (contains_iff_mem.mpr mem)
  · have absent : ¬ walk.path.contains userId := fun contains =>
      mem (contains_iff_mem.mp contains)
    rw [if_neg mem]
    exact (if_neg absent).trans ((on.marked userId).trans (if_neg absent))

theorem Breaking.CutBy.close_closed {cuts : List String} (cut : breaking.CutBy fresh next cuts)
    (sound : breaking.On fresh) (on : walk.On fresh breaking.resolvedParent breaking.marks)
    (stops : ∀ cursor, walk.cursor = some cursor → walk.marks cursor ≠ some .unvisited)
    {userId parent : String} (done : (breaking.close walk).marks userId = some .done)
    (points : next userId = some parent) :
    (breaking.close walk).marks parent = some .done ∨ isFresh fresh parent = false := by
  have kept : breaking.marks parent = some .done →
      (breaking.close walk).marks parent = some .done := by
    intro old
    rw [close_marks on, old, ite_self]
  rw [close_marks on] at done
  by_cases mem : userId ∈ walk.path
  · cases known : isFresh fresh parent with
    | false => exact .inr rfl
    | true =>
      have among := parentAmong_eq_some.mpr ⟨(cut.on_path on mem).trans points, known⟩
      rcases on.trail.points mem among with there | at_
      · exact .inl ((close_marks on parent).trans (if_pos there))
      · rcases on.stop sound stops (filter_eq_some_iff.mp at_).1 known with there | old
        · exact .inl ((close_marks on parent).trans (if_pos there))
        · exact .inl (kept old)
  · rw [if_neg mem] at done
    exact (cut.closed done points).imp_left kept

theorem Breaking.CutBy.close {cuts : List String} (cut : breaking.CutBy fresh next cuts)
    (orphan : ∀ userId, isFresh fresh userId = false → next userId = none)
    (sound : breaking.On fresh) (on : walk.On fresh breaking.resolvedParent breaking.marks)
    (stops : ∀ cursor, walk.cursor = some cursor → walk.marks cursor ≠ some .unvisited) :
    ∃ cuts', (breaking.close walk).CutBy fresh next cuts' := by
  have closed := @Breaking.CutBy.close_closed _ _ _ _ _ cut sound on stops
  have kept : ∀ userId ∈ cuts, (breaking.close walk).marks userId = some .done := by
    intro userId mem
    rw [close_marks on, cut.done userId mem, ite_self]
  cases closing : walk.closingNode with
  | none =>
    refine ⟨cuts, cut.sound, ?_, ?_, kept, closed⟩
    · unfold Breaking.close
      rw [closing]
      exact cut.count
    · unfold Breaking.close
      rw [closing]
      exact cut.parents
  | some last =>
    obtain ⟨ends, among⟩ := on.closes sound closing
    have onPath := mem_of_getLast? ends
    have unvisited_ := on.visited last onPath
    have known : isFresh fresh last := by
      rw [← sound.known, unvisited_]
      rfl
    have new : last ∉ cuts := fun old => nomatch (cut.done last old).symm.trans unvisited_
    -- the way round runs along parents that are left
    have onCycle : OnCycle next last := by
      refine Relation.TransGen.mono (fun userId parent points => ?_) _ _ among
      have left := (parentAmong_eq_some.mp points).1
      rw [cut.parents] at left
      exact points_of_cutAt left
    have apart : ∀ userId ∈ cuts, ¬ LeadsTo next userId last := by
      intro userId mem there
      rcases cut.stays orphan (cut.done userId mem) there with done | left
      · cases done.symm.trans unvisited_
      · cases known.symm.trans left
    refine ⟨last :: cuts, ⟨nodup_cons.mpr ⟨new, cut.sound.nodup⟩,
      forall_mem_cons.mpr ⟨onCycle, cut.sound.onCycle⟩, ?_⟩, ?_, ?_,
      forall_mem_cons.mpr ⟨?_, kept⟩, closed⟩
    · intro a mem b mem' there
      rcases mem_cons.mp mem with rfl | old
      · rcases mem_cons.mp mem' with rfl | old'
        · rfl
        · exact absurd (onCycle.back there) (apart b old')
      · rcases mem_cons.mp mem' with rfl | old'
        · exact absurd there (apart a old)
        · exact cut.sound.apart a old b old' there
    · unfold Breaking.close
      rw [closing, length_cons, ← cut.count]
      rfl
    · unfold Breaking.close
      rw [closing, cutAt_cons, ← cut.parents]
    · exact (close_marks on last).trans (if_pos onPath)

end Close

/-! ## The second pass -/

section Pass

variable {fresh : List OrgSourceRecord} {next : String → Option String}

variable {breaking : Breaking} {cuts : List String}

theorem breakCycle_cutBy (orphan : ∀ userId, isFresh fresh userId = false → next userId = none)
    (cut : breaking.CutBy fresh next cuts) (sound : breaking.On fresh) (record : OrgSourceRecord) :
    ∃ cuts', (breakCycle fresh.length breaking record).CutBy fresh next cuts' := by
  unfold breakCycle
  by_cases unvisited_ : breaking.marks record.userId = some .unvisited
  · rw [if_pos unvisited_]
    obtain ⟨on, stops, _⟩ := walkUp_on (Walk.On.start fresh _ _ record.userId)
      (fun _ is => sound.isFresh_of_unvisited is) (length_filter_le _ _)
    exact cut.close orphan sound on stops
  · rw [if_neg unvisited_]
    exact ⟨cuts, cut⟩

theorem foldl_breakCycle_cutBy
    (orphan : ∀ userId, isFresh fresh userId = false → next userId = none)
    (records : List OrgSourceRecord) (sub : records ⊆ fresh) (cut : breaking.CutBy fresh next cuts)
    (sound : breaking.On fresh) :
    ∃ cuts', (records.foldl (breakCycle fresh.length) breaking).CutBy fresh next cuts' := by
  induction records generalizing breaking cuts with
  | nil => exact ⟨cuts, cut⟩
  | cons record rest ih =>
    obtain ⟨cuts', cut'⟩ := breakCycle_cutBy orphan cut sound record
    have sound' := (breakCycle_on sound (sub mem_cons_self)).1
    exact ih (fun _ mem => sub (mem_cons_of_mem _ mem)) cut' sound'

theorem resolvedParents_of_not_fresh (prior : List PriorEmployee) {userId : String}
    (left : isFresh fresh userId = false) : resolvedParents fresh prior userId = none := by
  have absent : lastOfUser OrgSourceRecord.userId fresh userId = none := by
    refine find?_eq_none.mpr fun record mem same => ?_
    have known : isFresh fresh userId :=
      List.any_eq_true.mpr ⟨record, mem_reverse.mp mem, same⟩
    cases left.symm.trans known
  unfold resolvedParents
  rw [absent]
  rfl

/-- The cuts of the second pass. -/
theorem breakCycles_cutBy (fresh : List OrgSourceRecord) (prior : List PriorEmployee) :
    ∃ cuts, (breakCycles fresh prior).CutBy fresh (resolvedParents fresh prior) cuts := by
  have uncut : Breaking.CutBy fresh (resolvedParents fresh prior)
      { resolvedParent := resolvedParents fresh prior
        marks := fun userId => if isFresh fresh userId then some .unvisited else none
        cyclesBroken := 0 } [] := by
    refine ⟨⟨nodup_nil, ?_, ?_⟩, rfl, (cutAt_nil _).symm, ?_, ?_⟩
    · exact fun _ mem => absurd mem not_mem_nil
    · exact fun _ mem => absurd mem not_mem_nil
    · exact fun _ mem => absurd mem not_mem_nil
    · intro userId parent done
      dsimp only at done
      split at done
      · cases done
      · cases done
  exact foldl_breakCycle_cutBy (fun _ left => resolvedParents_of_not_fresh prior left) fresh
    (Subset.refl _) uncut (Breaking.On.start fresh prior)

end Pass

/-! ## The tree -/

theorem parentOf_buildOrgTree (toLowerCase : String → String) (fresh : List OrgSourceRecord)
    (prior : List PriorEmployee) :
    (buildOrgTree toLowerCase fresh prior).parentOf = (breakCycles fresh prior).resolvedParent := by
  funext userId
  unfold OrgTreeBuildResult.parentOf buildOrgTree
  dsimp only
  rw [find?_map]
  cases found : fresh.find? ((fun employee => employee.userId == userId) ∘
      resolveEmployee toLowerCase (breakCycles fresh prior).resolvedParent) with
  | none =>
    obtain ⟨cuts, cut⟩ := breakCycles_cutBy fresh prior
    have left : isFresh fresh userId = false := by
      refine Bool.eq_false_iff.mpr fun known => ?_
      obtain ⟨record, mem, same⟩ := List.any_eq_true.mp known
      exact find?_eq_none.mp found record mem same
    have none_ := resolvedParents_of_not_fresh prior left
    rw [cut.parents]
    unfold cutAt
    rw [none_, ite_self]
    rfl
  | some record =>
    have selected := find?_some found
    have same : record.userId = userId := beq_iff_eq.mp selected
    rw [← same]
    rfl

/-- From no user do the parents lead back. -/
theorem breakCycles_acyclic (fresh : List OrgSourceRecord) (prior : List PriorEmployee)
    (userId : String) : ¬ OnCycle (breakCycles fresh prior).resolvedParent userId := by
  have fresh_of : ∀ {userId}, OnCycle (breakCycles fresh prior).resolvedParent userId →
      isFresh fresh userId := by
    intro userId on
    by_contra left
    obtain ⟨cuts, cut⟩ := breakCycles_cutBy fresh prior
    obtain ⟨parent, points, _⟩ := on.exists_next
    rw [cut.parents] at points
    have none_ := resolvedParents_of_not_fresh prior (Bool.eq_false_iff.mpr left)
    cases none_.symm.trans (points_of_cutAt points)
  intro on
  obtain ⟨record, mem, same⟩ := List.any_eq_true.mp (fresh_of on)
  have same : record.userId = userId := beq_iff_eq.mp same
  refine (breakCycles_grounded prior mem).not_onCycle (same ▸ on.of_agree fun other there => ?_)
  obtain ⟨parent, points, onward⟩ := (on.along there).exists_next
  rw [points]
  exact parentAmong_eq_some.mpr ⟨points, fresh_of onward⟩

/-- The tree of a pull: its employees with their resolved parents, but for one cut in each
cycle; the users of the last sync that it does not have are removed. -/
theorem buildOrgTree_cuts_cycles (toLowerCase : String → String) (fresh : List OrgSourceRecord)
    (prior : List PriorEmployee) :
    CutsEachCycle (resolvedParents fresh prior) (buildOrgTree toLowerCase fresh prior).parentOf ∧
      (cycles (resolvedParents fresh prior)).encard =
        (buildOrgTree toLowerCase fresh prior).cyclesBroken ∧
      (buildOrgTree toLowerCase fresh prior).employees.map (·.userId) = fresh.map (·.userId) ∧
      ∀ userId, userId ∈ (buildOrgTree toLowerCase fresh prior).removedUserIds ↔
        userId ∈ prior.map (·.userId) ∧ userId ∉ fresh.map (·.userId) := by
  obtain ⟨cuts, cut⟩ := breakCycles_cutBy fresh prior
  have acyclic := breakCycles_acyclic fresh prior
  have count : (buildOrgTree toLowerCase fresh prior).cyclesBroken = cuts.length := cut.count
  rw [cut.parents] at acyclic
  rw [parentOf_buildOrgTree, cut.parents, count]
  refine ⟨cut.sound.cutsEachCycle acyclic, cut.sound.encard_cycles acyclic, ?_, fun userId => ?_⟩
  · unfold buildOrgTree
    rw [List.map_map]
    rfl
  · have known : isFresh fresh userId ↔ userId ∈ fresh.map (·.userId) := by
      unfold isFresh
      rw [List.any_eq_true, List.mem_map]
      simp only [beq_iff_eq]
    unfold buildOrgTree
    rw [mem_filter, ← known, Bool.not_eq_true']
    exact and_congr_right' Bool.eq_false_iff

end OpenWind
