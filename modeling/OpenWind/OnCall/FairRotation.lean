import Mathlib.Data.List.Count
import Mathlib.Data.List.GetD
import Mathlib.Data.List.Rotate
import Mathlib.Data.Option.Basic
import OpenWind.OnCall.Rotation

/-!
# Fairness of the rotation

The primary and the backup of a team move on by one place a step, wherever the rotation
began, so they never meet and each of them comes round once in as many steps as the team has
members.
-/

open List Option

namespace OpenWind

/-! ## Places -/

section Places

variable {members : List String}

theorem placeAfter_getElem (distinct : members.Nodup) (named : "" ∉ members.dropLast) {place : Nat}
    (lt : place < members.length) :
    placeAfter members (some members[place]) = (place + 1) % members.length := by
  have found : members.idxOf? members[place] = some place := by
    refine idxOf?_eq_some_iff.mpr ⟨lt, rfl, fun j before same => ?_⟩
    exact absurd (distinct.getElem_inj_iff.mp same) (Nat.ne_of_lt before)
  unfold placeAfter placeOf
  by_cases empty : members[place] = ""
  · have last : place + 1 = members.length := by
      by_contra inner
      have short : place < members.dropLast.length := by
        rw [length_dropLast]
        omega
      refine named (mem_iff_getElem.mpr ⟨place, short, ?_⟩)
      rw [getElem_dropLast, empty]
    rw [empty, last, Nat.mod_self]
    rfl
  · have counts : (members[place] != "") := bne_iff_ne.mpr empty
    rw [filter_some, if_pos counts, bind_some, found]

theorem placeAfter_lt (some_ : 0 < members.length) (previous : Option String) :
    placeAfter members previous < members.length := by
  unfold placeAfter
  split
  · exact some_
  · exact Nat.mod_lt _ some_

/-- Two places that differ still differ one place on. -/
theorem succ_mod_ne {n p b : Nat} (pLt : p < n) (bLt : b < n) (ne : p ≠ b) :
    (p + 1) % n ≠ (b + 1) % n := by
  rcases Nat.lt_or_ge (p + 1) n with pIn | pLast
  · rcases Nat.lt_or_ge (b + 1) n with bIn | bLast
    · rw [Nat.mod_eq_of_lt pIn, Nat.mod_eq_of_lt bIn]
      omega
    · have wraps : b + 1 = n := by omega
      rw [Nat.mod_eq_of_lt pIn, wraps, Nat.mod_self]
      omega
  · have wraps : p + 1 = n := by omega
    have bIn : b + 1 < n := by omega
    rw [wraps, Nat.mod_self, Nat.mod_eq_of_lt bIn]
    omega

theorem succ_mod_ne_self {n p : Nat} (two : 2 ≤ n) (lt : p < n) : (p + 1) % n ≠ p := by
  rcases Nat.lt_or_ge (p + 1) n with inner | last
  · rw [Nat.mod_eq_of_lt inner]
    omega
  · have wraps : p + 1 = n := by omega
    rw [wraps, Nat.mod_self]
    omega

end Places

/-! ## One step -/

/-- A step seats the members of the places `p` and `b`, which differ. -/
structure NextAssignment.Seated (members : List String) (p b : Nat) (next : NextAssignment) :
    Prop where
  primaryLt : p < members.length
  backupLt : b < members.length
  apart : p ≠ b
  primary : next.primary = members[p]
  backup : next.backup = some members[b]

section Steps

variable {members : List String}

section

variable (two : 2 ≤ members.length) (distinct : members.Nodup)

include two distinct

theorem assignNext_seated
    (previous : RotationHolders) {p b : Nat} (pIs : placeAfter members previous.primary = p)
    (bIs : (if previous.backup = none then (p + 1) % members.length
      else placeAfter members previous.backup) = b) :
    (assignNext members previous).Seated members p
      (if b = p then (b + 1) % members.length else b) := by
  have pLt : p < members.length := pIs ▸ placeAfter_lt (by omega) previous.primary
  have bLt : b < members.length := by
    rw [← bIs]
    split
    · exact Nat.mod_lt _ (by omega)
    · exact placeAfter_lt (by omega) previous.backup
  have several : members.length ≠ 1 := by omega
  have nextLt : (b + 1) % members.length < members.length := Nat.mod_lt _ (by omega)
  have meets : (members.getD b "" = members.getD p "") ↔ b = p := by
    rw [getD_eq_getElem _ _ bLt, getD_eq_getElem _ _ pLt, distinct.getElem_inj_iff]
  unfold assignNext
  simp only [pIs, bIs, if_neg several, meets]
  by_cases collide : b = p
  · simp only [if_pos collide]
    refine ⟨pLt, nextLt, ?_, getD_eq_getElem _ _ pLt, ?_⟩
    · rw [collide]
      exact (succ_mod_ne_self two pLt).symm
    · exact congrArg some (getD_eq_getElem _ _ nextLt)
  · simp only [if_neg collide]
    refine ⟨pLt, bLt, Ne.symm collide, getD_eq_getElem _ _ pLt, ?_⟩
    exact congrArg some (getD_eq_getElem _ _ bLt)

theorem exists_seated (previous : RotationHolders) :
    ∃ p b, (assignNext members previous).Seated members p b :=
  ⟨_, _, assignNext_seated two distinct previous rfl rfl⟩

theorem NextAssignment.Seated.next {next : NextAssignment} {p b : Nat} (named : "" ∉ members.dropLast)
    (seated : next.Seated members p b) :
    (assignNext members next.holders).Seated members ((p + 1) % members.length)
      ((b + 1) % members.length) := by
  have pIs : placeAfter members next.holders.primary = (p + 1) % members.length := by
    unfold holders
    rw [seated.primary]
    exact placeAfter_getElem distinct named seated.primaryLt
  have bIs : (if next.holders.backup = none then ((p + 1) % members.length + 1) % members.length
      else placeAfter members next.holders.backup) = (b + 1) % members.length := by
    unfold holders
    rw [seated.backup, if_neg (some_ne_none _)]
    exact placeAfter_getElem distinct named seated.backupLt
  have apart := succ_mod_ne seated.primaryLt seated.backupLt seated.apart
  have step := assignNext_seated two distinct next.holders pIs bIs
  rw [if_neg apart.symm] at step
  exact step

end

end Steps

/-! ## All steps -/

def nthAssignment (members : List String) (previous : RotationHolders) :
    Nat → Option NextAssignment
  | 0 => nextAssignment members previous
  | i + 1 => (nthAssignment members previous i).bind fun next =>
      nextAssignment members next.holders

def nthPrimary (members : List String) (previous : RotationHolders) (i : Nat) : Option String :=
  (nthAssignment members previous i).map (·.primary)

def nthBackup (members : List String) (previous : RotationHolders) (i : Nat) : Option String :=
  (nthAssignment members previous i).bind (·.backup)

def EachOnce (members : List String) (holder : Nat → Option String) (k : Nat) : Prop :=
  ∀ member ∈ members, ((range' k members.length).map holder).count (some member) = 1

structure RotatesFairly (members : List String) (previous : RotationHolders) : Prop where
  apart : ∀ i, ∃ next, nthAssignment members previous i = some next ∧
    next.backup ≠ some next.primary
  primaries : ∀ k, EachOnce members (nthPrimary members previous) k
  backups : ∀ k, EachOnce members (nthBackup members previous) k

section Rotations

variable {members : List String} {previous : RotationHolders}

theorem nthAssignment_seated (two : 2 ≤ members.length) (distinct : members.Nodup)
    (named : "" ∉ members.dropLast) {p b : Nat}
    (first : (assignNext members previous).Seated members p b) (i : Nat) :
    ∃ next, nthAssignment members previous i = some next ∧
      next.Seated members ((i + p) % members.length) ((i + b) % members.length) := by
  have some_ : members ≠ [] := ne_nil_of_length_pos (by omega)
  have assigned (holders : RotationHolders) :
      nextAssignment members holders = some (assignNext members holders) := if_neg some_
  induction i with
  | zero =>
    refine ⟨_, assigned previous, ?_⟩
    rw [Nat.zero_add, Nat.zero_add, Nat.mod_eq_of_lt first.primaryLt,
      Nat.mod_eq_of_lt first.backupLt]
    exact first
  | succ i ih =>
    obtain ⟨next, is, seated⟩ := ih
    refine ⟨assignNext members next.holders, ?_, ?_⟩
    · rw [nthAssignment, is, bind_some, assigned]
    · have moved := seated.next two distinct named
      rw [Nat.mod_add_mod, Nat.mod_add_mod] at moved
      rw [Nat.add_right_comm i 1 p, Nat.add_right_comm i 1 b]
      exact moved

theorem eachOnce_of_places (distinct : members.Nodup) {holder : Nat → Option String} (place : Nat)
    (holds : ∀ i, holder i = members[(i + place) % members.length]?) (k : Nat) :
    EachOnce members holder k := by
  intro member mem
  have turned : (range' k members.length).map holder = (members.rotate (k + place)).map some := by
    refine ext_getElem? fun j => ?_
    rw [getElem?_map, getElem?_map]
    rcases Nat.lt_or_ge j members.length with lt | ge
    · rw [getElem?_range' lt, getElem?_rotate lt, map_some, holds, Nat.one_mul]
      have place_ : k + j + place = j + (k + place) := by omega
      rw [place_, getElem?_eq_getElem (Nat.mod_lt _ (by omega)), map_some]
    · rw [getElem?_eq_none (by rw [length_range']; exact ge),
        getElem?_eq_none (by rw [length_rotate]; exact ge)]
      rfl
  rw [turned, count_map_of_injective _ some (some_injective _), (rotate_perm members _).count_eq]
  exact count_eq_one_of_mem distinct mem

end Rotations

/-- The rotation is fair, whoever held before.  The steps count from the first one on. -/
theorem rotation_fair {members : List String} (two : 2 ≤ members.length)
    (distinct : members.Nodup) (named : "" ∉ members.dropLast) (previous : RotationHolders) :
    RotatesFairly members previous := by
  obtain ⟨p, b, first⟩ := exists_seated two distinct previous
  have seated := nthAssignment_seated two distinct named first
  constructor
  case apart =>
    intro i
    obtain ⟨next, is, at_⟩ := seated i
    refine ⟨next, is, fun same => at_.apart ?_⟩
    rw [at_.backup, at_.primary, some_inj] at same
    exact (distinct.getElem_inj_iff.mp same).symm
  case primaries =>
    refine eachOnce_of_places distinct p fun i => ?_
    obtain ⟨next, is, at_⟩ := seated i
    rw [nthPrimary, is, map_some, at_.primary]
    exact (getElem?_eq_getElem at_.primaryLt).symm
  case backups =>
    refine eachOnce_of_places distinct b fun i => ?_
    obtain ⟨next, is, at_⟩ := seated i
    rw [nthBackup, is, bind_some, at_.backup]
    exact (getElem?_eq_getElem at_.backupLt).symm

/-- A team of three after holders who have left it. -/
theorem rotation_fair_three : RotatesFairly ["a", "b", "c"] ⟨some "gone", some "left"⟩ :=
  rotation_fair (by decide) (by decide) (by decide) _

/-- An empty user id that is not the last is taken for none, so nobody comes after it. -/
theorem empty_member_stays :
    (["", "b"].length ≥ 2 ∧ ["", "b"].Nodup) ∧ ¬ RotatesFairly ["", "b"] ⟨none, none⟩ := by
  refine ⟨by decide, fun fair => ?_⟩
  have once := fair.primaries 0 "b" (by decide)
  revert once
  decide

end OpenWind
