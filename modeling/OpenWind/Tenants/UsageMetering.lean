import OpenWind.Lib.Expiring
import OpenWind.Lib.Runs
import OpenWind.Schema
import Mathlib.Logic.Function.Basic

/-!
# Metered usage

The calls of a tenant are counted in Redis under the UTC day, for two days after the last of them.
A sweep copies the counters of its day and of the day before to the database, over what is there.
It steps back to the day before in the local time of the process.
-/

open List Runs

namespace OpenWind

namespace UsageMetering

/-- A time zone of a process: `LocalTime(t)` and `UTC(t)`. -/
structure Zone where
  toLocal : Int → Int
  toUtc : Int → Int

def msPerDay : Int := 86400000

/-- The UTC day whose date `toISOString` begins with. -/
def utcDay (time : Int) : Int := time / msPerDay

def Zone.yesterday (zone : Zone) (now : Time) : Int :=
  utcDay (zone.toUtc (zone.toLocal now - msPerDay))

structure Sweep where
  today : Int
  yesterday : Int
  values : Option (Nat × Nat) := none
  deriving DecidableEq

structure World where
  now : Time := 0
  counters : Int → Slot Nat := fun _ => none
  stored : Int → Option Nat := fun _ => none
  sweeps : List Sweep := []
  counted : Int → Nat := fun _ => 0
  swept : List Int := []

inductive Label
  | count (computedAt : Time)
  /-- A sweep starts, and has computed its day earlier. -/
  | start (computedAt : Time)
  | read (i : Nat)
  | write (i : Nat)
  | tick (time : Time)

def ttlMs : Nat := 172800 * 1000

def enforceTenantBillingGate (day : Int) (world : World) : World :=
  { world with
    counters := Function.update world.counters day
      (((world.counters day).incr world.now).expire world.now ttlMs)
    counted := Function.update world.counted day (world.counted day + 1) }

def readCounter (world : World) (day : Int) : Nat := ((world.counters day).read world.now).getD 0

def upsert (sweep : Sweep) (values : Nat × Nat) (world : World) : World :=
  { world with
    stored := Function.update (Function.update world.stored sweep.yesterday (some values.1))
      sweep.today (some values.2)
    swept := sweep.today :: world.swept }

def step (zone : Zone) (world : World) : Label → Option World
  | .count computedAt =>
      if computedAt ≤ world.now then some (enforceTenantBillingGate (utcDay computedAt) world)
      else none
  | .start computedAt =>
      if computedAt ≤ world.now then some { world with
        sweeps := world.sweeps ++ [⟨utcDay computedAt, zone.yesterday world.now, none⟩] }
      else none
  | .read i => (world.sweeps[i]?).map fun sweep => { world with
      sweeps := world.sweeps.set i { sweep with
        values := some (readCounter world sweep.yesterday, readCounter world sweep.today) } }
  | .write i => (world.sweeps[i]?).bind fun sweep => sweep.values.map fun values =>
      upsert sweep values { world with sweeps := world.sweeps.eraseIdx i }
  | .tick time => some { world with now := world.now + time }

/-! ## The property and the condition -/

def Final (world : World) : Prop :=
  ∀ day ∈ world.swept, world.stored (day - 1) = some (world.counted (day - 1))

def Open (day : Int) (world : World) : Prop := ∀ later ∈ world.swept, later ≤ day

def Regular (zone : Zone) (world : World) : Label → Prop
  | .count computedAt => utcDay world.now ≤ utcDay computedAt + 1 ∧ Open (utcDay computedAt) world ∧
      ∀ sweep ∈ world.sweeps, sweep.values ≠ none → sweep.today ≤ utcDay computedAt
  | .start computedAt => zone.yesterday world.now = utcDay computedAt - 1
  | .read i => ∀ sweep, world.sweeps[i]? = some sweep → utcDay world.now ≤ sweep.today
  | .write i => ∀ sweep, world.sweeps[i]? = some sweep → Open sweep.today world
  | .tick _ => True

/-! ## Safety -/

def Lasts (world : World) (day : Int) : Prop :=
  (world.counters day = none ∧ world.counted day = 0) ∨
    ∃ time : Nat, world.counters day = some ⟨world.counted day, some time⟩ ∧
      (day + 2) * msPerDay ≤ time

structure Sound (world : World) : Prop where
  final : Final world
  lasts : ∀ day, Lasts world day
  steps : ∀ sweep ∈ world.sweeps, sweep.yesterday = sweep.today - 1
  values : ∀ sweep ∈ world.sweeps, ∀ values, sweep.values = some values →
    values.1 = world.counted sweep.yesterday

variable {zone : Zone} {world world' : World} {label : Label} {day : Int} {i : Nat} {sweep : Sweep}

theorem Lasts.readCounter (lasts : Lasts world day) (early : utcDay world.now ≤ day + 1) :
    readCounter world day = world.counted day := by
  unfold UsageMetering.readCounter
  rcases lasts with ⟨none', zero⟩ | ⟨time, held, late⟩
  · rw [none', zero]
    rfl
  · have alive : Entry.alive world.now ⟨world.counted day, some time⟩ := by
      unfold utcDay msPerDay at *
      refine decide_eq_true ?_
      omega
    rw [Slot.read_eq_some.mpr ⟨_, held, alive, rfl⟩]
    rfl

theorem Lasts.count (lasts : Lasts world day) (early : utcDay world.now ≤ day + 1)
    (late : day * msPerDay ≤ world.now) : Lasts (enforceTenantBillingGate day world) day := by
  refine .inr ⟨world.now + ttlMs, ?_, ?_⟩
  · unfold enforceTenantBillingGate
    dsimp only
    rw [Function.update_self, Function.update_self, Slot.expire_eq (Slot.read_incr _ _),
      ← lasts.readCounter early]
    rfl
  · unfold msPerDay ttlMs at *
    omega

theorem utcDay_le (time : Int) : utcDay time * msPerDay ≤ time :=
  Int.ediv_mul_le time (by decide)

theorem Sound.count (sound : Sound world) (early : utcDay world.now ≤ day + 1)
    (late : day * msPerDay ≤ world.now) (unswept : Open day world)
    (unread : ∀ sweep ∈ world.sweeps, sweep.values ≠ none → sweep.today ≤ day) :
    Sound (enforceTenantBillingGate day world) := by
  have other {d : Int} (ne : d ≠ day) :
      (enforceTenantBillingGate day world).counted d = world.counted d :=
    Function.update_of_ne ne _ _
  refine ⟨fun d mem => ?_, fun d => ?_, sound.steps, fun sweep mem values held => ?_⟩
  · rw [other (by have := unswept d mem; omega)]
    exact sound.final d mem
  · by_cases same : d = day
    · rw [same]
      exact (sound.lasts day).count early late
    · have kept : (enforceTenantBillingGate day world).counters d = world.counters d :=
        Function.update_of_ne same _ _
      have lasts := sound.lasts d
      unfold Lasts at lasts ⊢
      rwa [kept, other same]
  · have earlier := unread sweep mem (by rw [held]; exact nofun)
    have steps := sound.steps sweep mem
    rw [other (by omega)]
    exact sound.values sweep mem values held

theorem Sound.read (sound : Sound world) (found : world.sweeps[i]? = some sweep)
    (early : utcDay world.now ≤ sweep.today) :
    Sound { world with
      sweeps := world.sweeps.set i { sweep with
        values := some (UsageMetering.readCounter world sweep.yesterday,
          UsageMetering.readCounter world sweep.today) } } := by
  have mem := mem_of_getElem? found
  have steps := sound.steps sweep mem
  refine ⟨sound.final, sound.lasts, fun other mem' => ?_, fun other mem' values held => ?_⟩
  · rcases mem_or_eq_of_mem_set mem' with old | rfl
    · exact sound.steps other old
    · exact steps
  · rcases mem_or_eq_of_mem_set mem' with old | rfl
    · exact sound.values other old values held
    · cases held
      exact (sound.lasts sweep.yesterday).readCounter (by omega)

theorem Sound.write (sound : Sound world) (found : world.sweeps[i]? = some sweep)
    {values : Nat × Nat} (held : sweep.values = some values) (unswept : Open sweep.today world) :
    Sound (upsert sweep values { world with sweeps := world.sweeps.eraseIdx i }) := by
  have mem := mem_of_getElem? found
  have steps := sound.steps sweep mem
  have value := sound.values sweep mem values held
  refine ⟨fun d mem' => ?_, sound.lasts, fun other mem' => ?_, fun other mem' => ?_⟩
  · have stored : d = sweep.today ∨ d ∈ world.swept := mem_cons.mp mem'
    have le : d ≤ sweep.today := stored.elim Int.le_of_eq (unswept d)
    unfold upsert
    dsimp only
    rw [Function.update_of_ne (by omega)]
    by_cases here : d - 1 = sweep.yesterday
    · rw [here, Function.update_self, value]
    · rw [Function.update_of_ne here]
      exact sound.final d (stored.resolve_left (by omega))
  · exact sound.steps other (mem_of_mem_eraseIdx mem')
  · exact sound.values other (mem_of_mem_eraseIdx mem')

theorem Sound.step (sound : Sound world) (regular : Regular zone world label)
    (stepped : step zone world label = some world') : Sound world' := by
  cases label with
  | count computedAt =>
    obtain ⟨past, stepped⟩ := Option.ite_none_right_eq_some.mp stepped
    cases stepped
    obtain ⟨early, unswept, unread⟩ := regular
    exact sound.count early (Int.le_trans (utcDay_le computedAt) (Int.ofNat_le.mpr past)) unswept
      unread
  | start computedAt =>
    obtain ⟨-, stepped⟩ := Option.ite_none_right_eq_some.mp stepped
    cases stepped
    refine ⟨sound.final, sound.lasts, forall_mem_append.mpr ⟨sound.steps, ?_⟩,
      forall_mem_append.mpr ⟨sound.values, ?_⟩⟩
    · exact forall_mem_singleton.mpr regular
    · exact forall_mem_singleton.mpr nofun
  | read i =>
    obtain ⟨sweep, found, rfl⟩ := Option.map_eq_some_iff.mp stepped
    exact sound.read found (regular sweep found)
  | write i =>
    obtain ⟨sweep, found, stepped⟩ := Option.bind_eq_some_iff.mp stepped
    obtain ⟨values, held, rfl⟩ := Option.map_eq_some_iff.mp stepped
    exact sound.write found held (regular sweep found)
  | tick time =>
    cases stepped
    exact ⟨sound.final, sound.lasts, sound.steps, sound.values⟩

end UsageMetering

open UsageMetering in
/-- In a run whose sweeps step back to the UTC day before their own, read the counters on their day
and write before a sweep of a later day has written, and whose calls are counted before such a sweep
has read, the usage of a day is what was counted on it from the first sweep of the next day on. -/
theorem usage_final (zone : Zone) (labels : List Label)
    (regular : Guarded (step zone) (Regular zone) {} labels) :
    Always (step zone) Final {} labels := by
  have start : Sound {} :=
    ⟨forall_mem_nil _, fun _ => .inl ⟨rfl, rfl⟩, forall_mem_nil _, forall_mem_nil _⟩
  exact regular.always Sound.step Sound.final start

namespace UsageMetering

/-- The process is in UTC. -/
def utc : Zone := ⟨id, id⟩

def central (summerEnds : Int) : Zone where
  toLocal time := time + if time < summerEnds then 7200000 else 3600000
  toUtc time := time - if time < summerEnds + 7200000 then 7200000 else 3600000

def nightSweep (day : Nat) : List Label :=
  [.tick (day * 86400000 + 36000000), .count (day * 86400000 + 36000000), .tick 52200000,
    .start ((day + 1) * 86400000 + 1800000), .read 0, .write 0]

end UsageMetering

open UsageMetering in
theorem usage_final_in_utc : Always (step utc) Final {} (nightSweep 10) := by
  refine usage_final utc _ ?_
  simp [Guarded, Regular, step, nightSweep, Open, upsert, enforceTenantBillingGate, utc,
    Zone.yesterday, utcDay, UsageMetering.msPerDay]

open UsageMetering in
/-- The clocks go back on the day of the call, and the sweep steps back over the whole of it. -/
theorem usage_of_long_day_missed :
    ¬ ∀ (zone : Zone) (labels : List Label), Always (step zone) Final {} labels := by
  intro always
  have last : (run (step (central (10 * 86400000 + 3600000))) {} (nightSweep 10)).any (fun world =>
      11 ∈ world.swept ∧ world.stored 10 = none) = true := by decide
  obtain ⟨world, ran, held⟩ := (Option.any_eq_true _ _).mp last
  obtain ⟨swept, missed⟩ := of_decide_eq_true held
  have final := (always _ _).last ran 11 swept
  rw [show (11 : Int) - 1 = 10 from rfl, missed] at final
  cases final

end OpenWind
