import Mathlib.Algebra.Order.Group.Defs
import Mathlib.Data.List.Infix
import Mathlib.Data.List.TakeWhile

/-!
# Sliding windows

Events have times and fall into the half-open window of some width that ends at a time.

* `count` is how many events of a log, latest first, fall into a window.
-/

open List

namespace SlidingWindow

variable {T E : Type} [AddCommGroup T] [LinearOrder T]

/-- The time lies in the window of the width that ends at `t`. -/
def Within (width t time : T) : Prop := t - width < time ∧ time ≤ t

instance (width t time : T) : Decidable (Within width t time) :=
  inferInstanceAs (Decidable (_ ∧ _))

variable {at_ : E → T} {allowed : E → Bool} {width : T} {limit : Nat}

/-- How many events fall into the window that ends at `t`. -/
def count (at_ : E → T) (width t : T) (log : List E) : Nat :=
  log.countP fun e => decide (Within width t (at_ e))

theorem count_cons (t : T) (e : E) (log : List E) :
    count at_ width t (e :: log) =
      count at_ width t log + if Within width t (at_ e) then 1 else 0 := by
  simp [count, countP_cons]

theorem count_filter_le (t : T) (p : E → Bool) (log : List E) :
    count at_ width t (log.filter p) ≤ count at_ width t log :=
  Sublist.countP_le filter_sublist

/-- The events of the log, latest first, came in order, and each was allowed exactly when fewer
than the limit lay in the window behind it. -/
structure Limited (at_ : E → T) (allowed : E → Bool) (width : T) (limit : Nat) (log : List E) :
    Prop where
  ordered : log.Pairwise fun later earlier => at_ earlier ≤ at_ later
  decided : ∀ e earlier, (e :: earlier) <:+ log →
    (allowed e = true ↔ count at_ width (at_ e) earlier < limit)

theorem Limited.nil : Limited at_ allowed width limit [] :=
  ⟨Pairwise.nil, fun _ _ suffix => absurd (suffix_nil.mp suffix) nofun⟩

theorem Limited.cons {e : E} {log : List E} (limited : Limited at_ allowed width limit log)
    (past : ∀ earlier ∈ log, at_ earlier ≤ at_ e)
    (decided : allowed e ↔ count at_ width (at_ e) log < limit) :
    Limited at_ allowed width limit (e :: log) := by
  refine ⟨pairwise_cons.mpr ⟨past, limited.ordered⟩, fun other earlier suffix => ?_⟩
  rcases suffix_cons_iff.mp suffix with same | older
  · cases same
    exact decided
  · exact limited.decided other earlier older

variable {e : E} {log : List E} {t time : T} {marked p : E → Bool}

theorem Limited.tail (limited : Limited at_ allowed width limit (e :: log)) :
    Limited at_ allowed width limit log :=
  ⟨(pairwise_cons.mp limited.ordered).2, fun other earlier suffix =>
    limited.decided other earlier (suffix.trans (suffix_cons e log))⟩

variable [IsOrderedAddMonoid T]

theorem Within.ending {t time earlier : T} (inside : Within width t time)
    (window : Within width t earlier) (le : earlier ≤ time) : Within width time earlier :=
  ⟨lt_of_le_of_lt (sub_le_sub_right inside.2 width) window.1, le⟩

theorem count_ending (inside : Within width t time) (past : ∀ e ∈ log, at_ e ≤ time) :
    count at_ width t log ≤ count at_ width time log := by
  refine countP_mono_left fun e mem window => ?_
  have window : Within width t (at_ e) := of_decide_eq_true window
  exact decide_eq_true (inside.ending window (past e mem))

theorem Limited.allowed_le (limited : Limited at_ allowed width limit log) (t : T) :
    count at_ width t (log.filter allowed) ≤ limit := by
  induction log with
  | nil => exact Nat.zero_le limit
  | cons e log ih =>
    have before := ih limited.tail
    by_cases counts : allowed e = true ∧ Within width t (at_ e)
    · -- what the window holds up to its last allowed event lies in the window of that event
      obtain ⟨yes, inside⟩ := counts
      have past := (pairwise_cons.mp limited.ordered).1
      have room := (limited.decided e log suffix_rfl).mp yes
      have behind := Nat.le_trans (count_filter_le t allowed log) (count_ending inside past)
      rw [filter_cons_of_pos yes, count_cons, if_pos inside]
      exact Nat.lt_of_le_of_lt behind room
    · by_cases yes : allowed e = true
      · rw [filter_cons_of_pos yes, count_cons, if_neg fun inside => counts ⟨yes, inside⟩]
        exact before
      · rw [filter_cons_of_neg yes]
        exact before

/-! ## Blocks of consecutive events -/

/-- Wherever events of the kind `p` follow one another, at most one of them is marked. -/
def OncePerBlock (p marked : E → Bool) (log : List E) : Prop :=
  ∀ block, block <:+: log → (∀ e ∈ block, p e = true) → block.countP marked ≤ 1

omit [AddCommGroup T] [LinearOrder T] [IsOrderedAddMonoid T]

theorem OncePerBlock.nil : OncePerBlock p marked [] := by
  intro block inside _
  rw [infix_nil.mp inside]
  exact Nat.zero_le 1

/-- A marked event must find none marked in the block that it continues. -/
theorem oncePerBlock_cons (kind : marked e → p e) :
    OncePerBlock p marked (e :: log) ↔
      OncePerBlock p marked log ∧
        (marked e → ∀ earlier ∈ log.takeWhile p, marked earlier = false) := by
  constructor
  · intro once
    refine ⟨fun block inside => once block (infix_cons inside), fun yes => ?_⟩
    have block : (e :: log.takeWhile p) <:+: e :: log :=
      ((prefix_cons_inj e).mpr ( takeWhile_prefix p)).isInfix
    have bounded := once _ block fun other mem => by
      rcases mem_cons.mp mem with rfl | before
      · exact kind yes
      · exact mem_takeWhile_imp before
    rw [countP_cons_of_pos yes] at bounded
    have none_ : (log.takeWhile p).countP marked = 0 := Nat.le_zero.mp (Nat.le_of_succ_le_succ bounded)
    exact fun earlier mem => Bool.eq_false_iff.mpr (countP_eq_zero.mp none_ earlier mem)
  · intro ⟨once, free⟩ block inside all
    rcases infix_cons_iff.mp inside with first | older
    · cases block with
      | nil => exact Nat.zero_le 1
      | cons head rest =>
        obtain ⟨rfl, start⟩ := cons_prefix_cons.mp first
        have kinds : ∀ other ∈ rest, p other := (forall_mem_cons.mp all).2
        have before := once rest start.isInfix kinds
        by_cases yes : marked head = true
        · have none_ : rest.countP marked = 0 := by
            refine countP_eq_zero.mpr fun other mem => Bool.eq_false_iff.mp (free yes other ?_)
            obtain ⟨later, rfl⟩ := start
            rw [takeWhile_append_of_pos kinds]
            exact mem_append_left _ mem
          rw [countP_cons_of_pos yes, none_]
        · rw [countP_cons_of_neg yes]
          exact before
    · exact once block older all

end SlidingWindow
