import OpenWind.Lib.Expiring
import OpenWind.Lib.Runs
import OpenWind.Schema

/-!
# The circuit breaker, one command at a time

The failures of a tenant's actions of one type are counted in Redis.  A call that counts the first
one sets the expiry of the counter with a second command; others run between the two, and the
process may stop there.
-/

open Option Runs

namespace OpenWind

namespace CircuitBreaker

structure World where
  now : Time := 0
  counter : Slot Nat := none
  about : Nat := 0
  failures : List Time := []
  deriving DecidableEq

inductive Command
  | incr
  /-- `EXPIRE`, by a call whose `INCR` has answered 1. -/
  | expire
  /-- A process stops between the two commands. -/
  | stop
  /-- `DEL`. -/
  | del
  | tick (time : Time)

variable (threshold ttlSeconds : Nat)

def isOpen (world : World) : Bool :=
  (world.counter.read world.now).any fun val => decide (threshold ≤ val)

def recordFailure (world : World) : World :=
  { world with
    counter := world.counter.incr world.now
    about := if world.counter.counted world.now = 1 then world.about + 1 else world.about
    failures := world.now :: world.failures }

def step (world : World) : Command → Option World
  | .incr => some (recordFailure world)
  | .expire => guard (0 < world.about) >>= fun _ => some
    { world with
      counter := world.counter.expire world.now ttlSeconds
      about := world.about - 1 }
  | .stop => guard (0 < world.about) >>= fun _ => some { world with about := world.about - 1 }
  | .del => some { world with counter := none, failures := [] }
  | .tick time => some { world with now := world.now + time }

/-! ## The property and the condition -/

def Expires (world : World) : Prop :=
  ∀ val, world.counter = some ⟨val, none⟩ → 0 < world.about

def Warranted (world : World) : Prop :=
  isOpen threshold world = true → ∃ first ∈ world.failures,
    threshold ≤ world.failures.countP fun time => first ≤ time ∧ time ≤ first + ttlSeconds

def Timely (world : World) : Command → Prop
  | .incr => ∀ val first, world.counter.read world.now = some val →
      world.failures[val - 1]? = some first → world.now ≤ first + ttlSeconds
  | .stop => ∀ val, world.counter = some ⟨val, none⟩ → 1 < world.about
  | _ => True

/-! ## Safety -/

def Counts (failures : List Time) (val : Nat) : Prop :=
  0 < val ∧ ∃ first, failures[val - 1]? = some first ∧
    ∀ time ∈ failures.take val, first ≤ time ∧ time ≤ first + ttlSeconds

structure Sound (world : World) : Prop where
  expires : Expires world
  counts : ∀ entry, world.counter = some entry → Counts ttlSeconds world.failures entry.value
  past : ∀ time ∈ world.failures, time ≤ world.now

variable {threshold ttlSeconds} {world world' : World} {command : Command} {val : Nat}

theorem Counts.next (counts : Counts ttlSeconds world.failures val)
    (past : ∀ time ∈ world.failures, time ≤ world.now)
    (timely : ∀ first, world.failures[val - 1]? = some first → world.now ≤ first + ttlSeconds) :
    Counts ttlSeconds (world.now :: world.failures) (val + 1) := by
  obtain ⟨positive, first, found, within⟩ := counts
  refine ⟨Nat.succ_pos _, first, ?_, ?_⟩
  · obtain ⟨val, rfl⟩ := Nat.exists_eq_succ_of_ne_zero (Nat.ne_of_gt positive)
    exact found
  · rw [List.take_succ_cons, List.forall_mem_cons]
    exact ⟨⟨past first (List.mem_of_getElem? found), timely first found⟩, within⟩

theorem Counts.warranted (counts : Counts ttlSeconds world.failures val) :
    ∃ first ∈ world.failures,
      val ≤ world.failures.countP fun time => first ≤ time ∧ time ≤ first + ttlSeconds := by
  obtain ⟨positive, first, found, within⟩ := counts
  refine ⟨first, List.mem_of_getElem? found, ?_⟩
  have all : (world.failures.take val).countP
      (fun time => first ≤ time ∧ time ≤ first + ttlSeconds) = val := by
    obtain ⟨inside, -⟩ := List.getElem?_eq_some_iff.mp found
    rw [List.countP_eq_length.mpr fun time mem => decide_eq_true (within time mem),
      List.length_take]
    omega
  exact Nat.le_trans (Nat.le_of_eq all.symm) (List.take_sublist val _).countP_le

theorem Sound.cleared (world : World) :
    Sound ttlSeconds { world with counter := none, failures := [] } where
  expires _ held := nomatch held
  counts _ held := nomatch held
  past := List.forall_mem_nil _

theorem Sound.recordFailure (sound : Sound ttlSeconds world)
    (timely : Timely ttlSeconds world .incr) : Sound ttlSeconds (recordFailure world) := by
  refine ⟨fun val held => ?_, fun entry held => ?_, ?_⟩
  · rcases Slot.incr_cases held with ⟨none', -⟩ | ⟨was, is, -, same⟩
    · unfold CircuitBreaker.recordFailure Slot.counted
      rw [none']
      exact Nat.succ_pos _
    · have unset : none = was.expiresAt := congrArg Entry.expiresAt same
      have about := sound.expires was.value (by rw [is, unset])
      unfold CircuitBreaker.recordFailure
      dsimp only
      split
      · exact Nat.succ_pos _
      · exact about
  · rcases Slot.incr_cases held with ⟨-, rfl⟩ | ⟨was, is, reads, rfl⟩
    · refine ⟨Nat.one_pos, world.now, rfl, fun time mem => ?_⟩
      cases List.mem_singleton.mp mem
      exact ⟨Nat.le_refl _, Nat.le_add_right _ _⟩
    · exact (sound.counts was is).next sound.past fun first found => timely _ first reads found
  · exact List.forall_mem_cons.mpr ⟨Nat.le_refl _, sound.past⟩

theorem Sound.step (sound : Sound ttlSeconds world) (timely : Timely ttlSeconds world command)
    (stepped : step ttlSeconds world command = some world') : Sound ttlSeconds world' := by
  cases command with
  | incr =>
    cases stepped
    exact sound.recordFailure timely
  | expire =>
    obtain ⟨-, -, stepped⟩ := bind_eq_some_iff.mp stepped
    cases stepped
    refine ⟨fun val held => ?_, fun entry held => ?_, sound.past⟩
    · cases (Slot.expire_some held).1
    · obtain ⟨-, was, is, same⟩ := Slot.expire_some held
      rw [same]
      exact sound.counts was is
  | stop =>
    obtain ⟨-, -, stepped⟩ := bind_eq_some_iff.mp stepped
    cases stepped
    exact ⟨fun val held => Nat.sub_pos_of_lt (timely val held), sound.counts, sound.past⟩
  | del =>
    cases stepped
    exact Sound.cleared world
  | tick time =>
    cases stepped
    exact ⟨sound.expires, sound.counts, fun failed mem => Nat.le_add_right_of_le (sound.past _ mem)⟩

theorem Sound.warranted (sound : Sound ttlSeconds world) :
    Warranted threshold ttlSeconds world := by
  intro isOpen
  obtain ⟨val, reads, reached⟩ := (any_eq_true _ _).mp isOpen
  obtain ⟨entry, held, -, rfl⟩ := Slot.read_eq_some.mp reads
  obtain ⟨first, mem, counted⟩ := (sound.counts entry held).warranted
  exact ⟨first, mem, Nat.le_trans (of_decide_eq_true reached) counted⟩

end CircuitBreaker

open CircuitBreaker in
/-- In a run in which no process stops as the last one to set the expiry of a counter, and no
failure is added to a counter that has outlived its first failure by more than a lifetime, a counter
without an expiry is about to get one, and a circuit is open only for as many failures as the
threshold, within one lifetime of the first of them. -/
theorem circuit_closes_again (threshold ttlSeconds : Nat) (commands : List Command)
    (timely : Guarded (step ttlSeconds) (Timely ttlSeconds) {} commands) :
    Always (step ttlSeconds) (fun world => Expires world ∧ Warranted threshold ttlSeconds world) {}
      commands := by
  exact timely.always Sound.step (fun sound => ⟨sound.expires, sound.warranted⟩) (Sound.cleared {})

open CircuitBreaker in
/-- One failure is counted, and four more within the lifetime of the counter. -/
theorem circuit_opened_in_time :
    Always (step 300) (fun world => Expires world ∧ Warranted 5 300 world) {}
      [.incr, .tick 1, .expire, .incr, .incr, .tick 200, .incr, .incr] := by
  refine circuit_closes_again 5 300 _ ?_
  simp [Guarded, Timely, step, recordFailure, Slot.read, Slot.incr, Slot.expire, Slot.keep,
    Slot.counted, Entry.alive]

open CircuitBreaker in
/-- The process stops after the first failure, and the fifth one opens the circuit for good, long
after the others. -/
theorem circuit_open_for_good :
    ¬ Always (step 300) (fun world => Expires world ∧ Warranted 5 300 world) {}
      [.incr, .stop, .tick 9000, .incr, .incr, .incr, .tick 9000, .incr] := by
  intro always
  have last : (run (step 300) {} [.incr, .stop, .tick 9000, .incr, .incr, .incr, .tick 9000,
    .incr]).any (fun world => world.counter = some ⟨5, none⟩ ∧ world.about = 0) = true := by decide
  obtain ⟨world, ran, held⟩ := (any_eq_true _ _).mp last
  obtain ⟨counter, about⟩ := of_decide_eq_true held
  have := (always.last ran).1 5 counter
  omega

end OpenWind
