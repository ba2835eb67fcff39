import OpenWind.Lib.Runs
import OpenWind.Lib.Expiring
import OpenWind.Lib.SlidingWindow
import Mathlib.Algebra.Order.Ring.Int

/-!
# The sliding-window rate limit

`checkRateLimit` keeps the calls on a key in a sorted set with their times as scores.  A call
removes what is older than the window, adds itself, counts, and lets the key expire after two
windows; a refused call stays in the set.
-/

open List

namespace OpenWind

open Runs SlidingWindow

/-! ## Sorted sets -/

abbrev SortedSet := List (String × Nat)

/-- `ZREMRANGEBYSCORE`, with both ends included. -/
def zremrangebyscore (low high : Int) (set : SortedSet) : SortedSet :=
  set.filter fun entry => !(low ≤ (entry.2 : Int) && (entry.2 : Int) ≤ high)

def zadd (score : Nat) (member : String) (set : SortedSet) : SortedSet :=
  (member, score) :: set.filter fun entry => entry.1 != member

def zcard (set : SortedSet) : Nat := set.length

/-- `EXPIRE`, in seconds: a key that is to live for no time is deleted. -/
def expire (now : Nat) (seconds : Nat) (set : SortedSet) : Slot SortedSet :=
  if seconds = 0 then none else Slot.keep now (seconds * 1000) set

/-! ## The check -/

structure RateLimitResult where
  allowed : Bool
  remaining : Nat
  resetAt : Nat
  deriving DecidableEq

structure RateCall where
  now : Nat
  random : String

def RateCall.member (call : RateCall) : String := s!"{call.now}-{call.random}"

def resetAt (windowSeconds : Nat) (now : Nat) : Nat := (now + 999) / 1000 + windowSeconds

def runCheck (limit windowSeconds : Nat) (call : RateCall) (key : Slot SortedSet) :
    RateLimitResult × Slot SortedSet :=
  let windowStart : Int := call.now - windowSeconds * 1000
  let kept := zremrangebyscore 0 windowStart ((key.read call.now).getD [])
  let added := zadd call.now call.member kept
  let count := zcard added
  ({ allowed := count ≤ limit
     remaining := limit - count
     resetAt := resetAt windowSeconds call.now }, expire call.now (windowSeconds * 2) added)

def checkRateLimit (limit windowSeconds : Nat) (now : Nat) (checked : Option RateLimitResult) :
    RateLimitResult :=
  checked.getD { allowed := true, remaining := limit, resetAt := resetAt windowSeconds now }

/-! ## Runs of calls on one key -/

structure RateWorld where
  key : Slot SortedSet
  log : List (RateCall × RateLimitResult)

namespace RateWorld

def start : RateWorld := ⟨none, []⟩

/-- The clock does not go back, and the member is a new one. -/
def accepts (w : RateWorld) (call : RateCall) : Bool :=
  w.log.all fun earlier => earlier.1.now ≤ call.now && earlier.1.member != call.member

/-- A call to which Redis answers. -/
def check (limit windowSeconds : Nat) (w : RateWorld) (call : RateCall) : RateWorld :=
  let (result, key) := runCheck limit windowSeconds call w.key
  ⟨key, (call, checkRateLimit limit windowSeconds call.now (some result)) :: w.log⟩

def step (limit windowSeconds : Nat) (w : RateWorld) (call : RateCall) : Option RateWorld :=
  if w.accepts call then some (w.check limit windowSeconds call) else none

def width (windowSeconds : Nat) : Int := windowSeconds * 1000

/-- The time of a call. -/
def at_ (entry : RateCall × RateLimitResult) : Int := entry.1.now

def allowed (entry : RateCall × RateLimitResult) : Bool := entry.2.allowed

variable {limit windowSeconds : Nat} {w w' : RateWorld} {call : RateCall}

/-- The member under which a call is in the set. -/
def stored (entry : RateCall × RateLimitResult) : String × Nat := (entry.1.member, entry.1.now)

def recent (windowSeconds : Nat) (now : Nat) (log : List (RateCall × RateLimitResult)) :
    List (RateCall × RateLimitResult) :=
  log.filter fun entry => (now : Int) - width windowSeconds < at_ entry

def Reflects (windowSeconds : Nat) (w : RateWorld) : Prop :=
  ∀ now : Nat, (∀ entry ∈ w.log, entry.1.now ≤ now) →
    ((w.key.read now).getD []).filter (fun entry => (now : Int) - width windowSeconds < entry.2) =
      (recent windowSeconds now w.log).map stored

structure Sound (limit windowSeconds : Nat) (w : RateWorld) : Prop where
  reflects : w.Reflects windowSeconds
  limited : Limited at_ allowed (width windowSeconds) limit w.log

theorem accepts_iff :
    w.accepts call ↔ ∀ entry ∈ w.log, entry.1.now ≤ call.now ∧ entry.1.member ≠ call.member := by
  simp [accepts]

theorem step_eq_some (stepped : w.step limit windowSeconds call = some w') :
    w.accepts call ∧ w' = w.check limit windowSeconds call := by
  unfold step at stepped
  split at stepped
  · next fits => exact ⟨fits, (Option.some.inj stepped).symm⟩
  · cases stepped

theorem Reflects.kept (reflects : w.Reflects windowSeconds) (fits : w.accepts call) :
    zremrangebyscore 0 (call.now - windowSeconds * 1000) ((w.key.read call.now).getD []) =
      (recent windowSeconds call.now w.log).map stored := by
  rw [← reflects call.now fun entry mem => (accepts_iff.mp fits entry mem).1]
  unfold zremrangebyscore width
  refine List.filter_congr fun entry _ => ?_
  have positive : (0 : Int) ≤ (entry.2 : Int) := Int.natCast_nonneg entry.2
  rw [decide_eq_true positive, Bool.true_and, ← decide_not, decide_eq_decide, not_le]

theorem zadd_new {entries : List (RateCall × RateLimitResult)}
    (new : ∀ entry ∈ entries, entry.1.member ≠ call.member) :
    zadd call.now call.member (entries.map stored) =
      (call.member, call.now) :: entries.map stored := by
  unfold zadd
  rw [filter_eq_self.mpr fun entry mem => ?_]
  obtain ⟨earlier, before, rfl⟩ := mem_map.mp mem
  exact bne_iff_ne.mpr (new earlier before)

theorem Reflects.added (reflects : w.Reflects windowSeconds) (fits : w.accepts call) :
    zadd call.now call.member
        (zremrangebyscore 0 (call.now - windowSeconds * 1000) ((w.key.read call.now).getD [])) =
      (call.member, call.now) :: (recent windowSeconds call.now w.log).map stored := by
  rw [reflects.kept fits]
  exact zadd_new fun entry mem => (accepts_iff.mp fits entry (mem_of_mem_filter mem)).2

theorem Reflects.decided (reflects : w.Reflects windowSeconds) (fits : w.accepts call) :
    (runCheck limit windowSeconds call w.key).1.allowed ↔
      count at_ (width windowSeconds) (call.now : Int) w.log < limit := by
  have past : ∀ entry ∈ w.log, at_ entry ≤ (call.now : Int) := fun entry mem =>
    Int.ofNat_le.mpr (accepts_iff.mp fits entry mem).1
  have same : count at_ (width windowSeconds) (call.now : Int) w.log =
      (recent windowSeconds call.now w.log).length := by
    rw [recent, ← countP_eq_length_filter]
    refine countP_congr fun entry mem => ?_
    simp [Within, past entry mem]
  dsimp only [runCheck]
  rw [reflects.added fits, zcard, length_cons, length_map, ← same, decide_eq_true_eq]
  exact Nat.succ_le_iff

theorem recent_eq_nil {now : Nat} {log : List (RateCall × RateLimitResult)}
    (passed : ∀ entry ∈ log, at_ entry + width windowSeconds ≤ now) :
    recent windowSeconds now log = [] := by
  refine filter_eq_nil_iff.mpr fun entry mem => ?_
  have old := passed entry mem
  rw [decide_eq_true_eq]
  omega

theorem recent_recent {now later : Nat} (le : now ≤ later)
    (log : List (RateCall × RateLimitResult)) :
    recent windowSeconds later (recent windowSeconds now log) = recent windowSeconds later log := by
  unfold recent
  rw [filter_filter]
  refine List.filter_congr fun entry _ => ?_
  rw [← Bool.decide_and, decide_eq_decide]
  omega

theorem filter_added {now : Nat} {entry : RateCall × RateLimitResult}
    (le : entry.1.now ≤ now) (log : List (RateCall × RateLimitResult)) :
    (stored entry :: (recent windowSeconds entry.1.now log).map stored).filter
        (fun held => (now : Int) - width windowSeconds < held.2) =
      (recent windowSeconds now (entry :: log)).map stored := by
  have rest : ((recent windowSeconds entry.1.now log).map stored).filter
      (fun held => (now : Int) - width windowSeconds < held.2) =
      (recent windowSeconds now log).map stored := by
    rw [filter_map, ← recent_recent le log]
    rfl
  unfold recent at rest ⊢
  rw [filter_cons, filter_cons, rest]
  by_cases inside : (now : Int) - width windowSeconds < at_ entry
  · have held : (now : Int) - width windowSeconds < (stored entry).2 := inside
    rw [if_pos (decide_eq_true inside), if_pos (decide_eq_true held), map_cons]
  · have held : ¬ (now : Int) - width windowSeconds < (stored entry).2 := inside
    rw [if_neg (by simpa only [decide_eq_true_eq] using held),
      if_neg (by simpa only [decide_eq_true_eq] using inside)]

theorem Reflects.check (reflects : w.Reflects windowSeconds) (fits : w.accepts call) :
    (w.check limit windowSeconds call).Reflects windowSeconds := by
  intro now past
  let entry := (call, checkRateLimit limit windowSeconds call.now
    (some (runCheck limit windowSeconds call w.key).1))
  have since : call.now ≤ now := past entry mem_cons_self
  have before : ∀ other ∈ entry :: w.log, at_ other ≤ (call.now : Int) := by
    intro other mem
    rcases mem_cons.mp mem with rfl | older
    · exact Int.le_refl _
    · exact Int.ofNat_le.mpr (accepts_iff.mp fits other older).1
  have key : (w.check limit windowSeconds call).key = expire call.now (windowSeconds * 2)
      (stored entry :: (recent windowSeconds call.now w.log).map stored) := by
    have added := reflects.added fits
    unfold RateWorld.check runCheck
    dsimp only
    rw [added]
    rfl
  have log : (w.check limit windowSeconds call).log = entry :: w.log := rfl
  rw [key, log]
  -- a key that is gone has outlived every window that a call was in
  have gone : call.now + windowSeconds * 1000 ≤ now →
      recent windowSeconds now (entry :: w.log) = [] := by
    intro outlived
    refine recent_eq_nil fun other mem => ?_
    have le := before other mem
    unfold width
    omega
  unfold expire
  by_cases none_ : windowSeconds * 2 = 0
  · rw [if_pos none_, gone (by omega)]
    rfl
  · rw [if_neg none_]
    by_cases alive : now ≤ call.now + windowSeconds * 2 * 1000
    · have held : Slot.read now (Slot.keep call.now (windowSeconds * 2 * 1000)
          (stored entry :: (recent windowSeconds call.now w.log).map stored)) =
          some (stored entry :: (recent windowSeconds call.now w.log).map stored) :=
        Slot.read_eq_some.mpr ⟨_, rfl, decide_eq_true alive, rfl⟩
      rw [held]
      exact filter_added since w.log
    · have dead : Slot.read now (Slot.keep call.now (windowSeconds * 2 * 1000)
          (stored entry :: (recent windowSeconds call.now w.log).map stored)) = none := by
        refine Option.eq_none_iff_forall_ne_some.mpr fun value found => ?_
        obtain ⟨held, same, lives, _⟩ := Slot.read_eq_some.mp found
        cases same
        exact alive (of_decide_eq_true lives)
      rw [dead, gone (by omega)]
      rfl

theorem Sound.step (sound : w.Sound limit windowSeconds)
    (stepped : w.step limit windowSeconds call = some w') : w'.Sound limit windowSeconds := by
  obtain ⟨fits, rfl⟩ := step_eq_some stepped
  refine ⟨sound.reflects.check fits, sound.limited.cons (fun entry mem => ?_) ?_⟩
  · exact Int.ofNat_le.mpr (accepts_iff.mp fits entry mem).1
  · exact sound.reflects.decided fits

theorem Sound.start : RateWorld.start.Sound limit windowSeconds :=
  ⟨fun _ _ => rfl, Limited.nil⟩

theorem Sound.run {calls : List RateCall}
    (ran : run (RateWorld.step limit windowSeconds) RateWorld.start calls = some w) :
    w.Sound limit windowSeconds :=
  run_invariant (P := fun w => w.Sound limit windowSeconds) (fun sound stepped => sound.step stepped)
    Sound.start ran

theorem run_exists {calls : List RateCall}
    (ordered : calls.Pairwise fun earlier later => earlier.now ≤ later.now)
    (distinct : (calls.map RateCall.member).Nodup) (w : RateWorld)
    (fresh : ∀ call ∈ calls, w.accepts call) :
    ∃ w', run (RateWorld.step limit windowSeconds) w calls = some w' ∧
      w'.log.map Prod.fst = calls.reverse ++ w.log.map Prod.fst := by
  induction calls generalizing w with
  | nil => exact ⟨w, rfl, rfl⟩
  | cons call calls ih =>
    obtain ⟨first, ordered⟩ := pairwise_cons.mp ordered
    obtain ⟨unused, distinct⟩ := nodup_cons.mp distinct
    have fits := fresh call mem_cons_self
    have next : ∀ later ∈ calls, (w.check limit windowSeconds call).accepts later := by
      intro later mem
      refine accepts_iff.mpr fun entry logged => ?_
      rcases mem_cons.mp logged with rfl | older
      · exact ⟨first later mem, fun same => unused (same ▸ mem_map_of_mem mem)⟩
      · exact accepts_iff.mp (fresh later (mem_cons_of_mem call mem)) entry older
    obtain ⟨w', ran, log⟩ := ih ordered distinct (w.check limit windowSeconds call) next
    refine ⟨w', run_cons.mpr ⟨_, if_pos fits, ran⟩, ?_⟩
    rw [log, reverse_cons, append_assoc]
    rfl

end RateWorld

open RateWorld

/-- Calls on one key that come in order under distinct members are all answered.  Then no window
ends anywhere with more allowed calls in it than the limit, and each call was refused exactly when
the window that ended at it held at least as many earlier calls, allowed or refused. -/
theorem rate_limit_sound (limit windowSeconds : Nat) (calls : List RateCall)
    (ordered : calls.Pairwise fun earlier later => earlier.now ≤ later.now)
    (distinct : (calls.map RateCall.member).Nodup) :
    ∃ w, Runs.run (RateWorld.step limit windowSeconds) RateWorld.start calls = some w ∧
      w.log.map Prod.fst = calls.reverse ∧
      (∀ t : Int, count at_ (width windowSeconds) t (w.log.filter allowed) ≤ limit) ∧
      ∀ entry earlier, (entry :: earlier) <:+ w.log →
        (allowed entry = false ↔ limit ≤ count at_ (width windowSeconds) (at_ entry) earlier) := by
  obtain ⟨w, ran, log⟩ := run_exists ordered distinct RateWorld.start fun _ _ => rfl
  have sound := RateWorld.Sound.run ran
  refine ⟨w, ran, log.trans (append_nil _), sound.limited.allowed_le,
    fun entry earlier suffix => ?_⟩
  have decided := sound.limited.decided entry earlier suffix
  rw [← Bool.not_eq_true, decided, Nat.not_lt]

def fourCalls : List RateCall := [⟨5000, "a"⟩, ⟨5400, "b"⟩, ⟨5900, "c"⟩, ⟨7000, "d"⟩]

theorem rate_limit_sound_at_four_calls :
    ∃ w, Runs.run (RateWorld.step 2 1) RateWorld.start fourCalls = some w ∧
      w.log.map Prod.fst = fourCalls.reverse ∧
      (∀ t : Int, count at_ (width 1) t (w.log.filter allowed) ≤ 2) ∧
      ∀ entry earlier, (entry :: earlier) <:+ w.log →
        (allowed entry = false ↔ 2 ≤ count at_ (width 1) (at_ entry) earlier) := by
  refine rate_limit_sound 2 1 fourCalls ?_ ?_
  · simp [fourCalls]
  · simp [fourCalls, RateCall.member, toString, Nat.repr]
    decide

example : (Runs.run (RateWorld.step 2 1) RateWorld.start fourCalls).map
    (fun w => (w.log.map allowed, w.key)) =
    some ([true, false, true, true], some ⟨[("7000-d", 7000)], some 9000⟩) := by rfl

end OpenWind
