import OpenWind.Schema
import OpenWind.Lib.Runs
import OpenWind.Lib.Calls

/-!
# The cache of a tenant's status

An instance keeps one entry for a tenant: its status and the end of its trial, its plan and
its IP allowlist.  Each of these is filled by a caller of its own, and every store gives the
whole entry 30 seconds more.
-/

open Option

namespace OpenWind

open Runs

def STATUS_CACHE_TTL_MS : Nat := 30000

/-- The columns of a tenant that are resolved. -/
structure TenantStatus where
  status : String
  trialEndsAt : Option Time
deriving DecidableEq

structure StatusReading where
  at' : Time
  invalidations : Nat
deriving DecidableEq

structure StatusEntry where
  status : String
  plan : Option String
  ipAllowlist : Option (List String)
  trialEndsAt : Option (Option Time)
  exp : Time
  /-- The reading that the status and the trial end are from. -/
  reading : StatusReading

inductive StatusPhase
  | reading
  | storing (found : TenantStatus) (reading : StatusReading)
  | answered (answer : TenantStatus) (reading : StatusReading)

/-- A call of `resolveTenantStatus`. -/
structure StatusCall where
  calledAt : Time
  /-- The invalidations that had been processed. -/
  invalidations : Nat
  phase : StatusPhase

structure StatusWorld where
  now : Time
  tenant : Option TenantStatus
  cache : Option StatusEntry
  invalidations : Nat
  calls : List StatusCall
  /-- When the database last ceased to hold a status, and a trial end. -/
  statusUntil : String → Option Time
  trialUntil : Option Time → Option Time

inductive StatusLabel
  | call
  | read (i : Nat)
  | store (i : Nat)
  | getPlan
  | setPlan (plan : String)
  | getIpAllowlist
  | setIpAllowlist (ipAllowlist : List String)
  | invalidate
  | change (tenant : Option TenantStatus)
  | tick (time : Nat)

namespace StatusWorld

/-- What a row says of the tenant. -/
def resolved (tenant : Option TenantStatus) : TenantStatus :=
  tenant.getD { status := "deleted", trialEndsAt := none }

def get (w : StatusWorld) : StatusWorld × Option StatusEntry :=
  match w.cache with
  | none => (w, none)
  | some entry => if entry.exp < w.now then ({ w with cache := none }, none) else (w, some entry)

/-- `setCachedTenantStatus`. -/
def setCachedTenantStatus (w : StatusWorld) (found : TenantStatus) (reading : StatusReading) :
    StatusWorld :=
  { w with
    cache := some {
      status := found.status
      plan := w.cache.bind (·.plan)
      ipAllowlist := w.cache.bind (·.ipAllowlist)
      trialEndsAt := some found.trialEndsAt
      exp := w.now + STATUS_CACHE_TTL_MS
      reading } }

def stored (w : StatusWorld) (plan : Option String) (ipAllowlist : Option (List String)) :
    StatusWorld :=
  { w with
    cache := some {
      status := (w.cache.map (·.status)).getD "active"
      plan
      ipAllowlist
      trialEndsAt := w.cache.bind (·.trialEndsAt)
      exp := w.now + STATUS_CACHE_TTL_MS
      reading := (w.cache.map (·.reading)).getD ⟨w.now, w.invalidations⟩ } }

def setCachedTenantPlan (w : StatusWorld) (plan : String) : StatusWorld :=
  w.stored (some plan) (w.cache.bind (·.ipAllowlist))

def setCachedTenantIpAllowlist (w : StatusWorld) (ipAllowlist : List String) : StatusWorld :=
  w.stored (w.cache.bind (·.plan)) (some ipAllowlist)

def afterGet (entry : Option StatusEntry) : StatusPhase :=
  match entry with
  | none => .reading
  | some entry =>
    match entry.trialEndsAt with
    | none => .reading
    | some trialEndsAt => .answered { status := entry.status, trialEndsAt } entry.reading

def begin (w : StatusWorld) : StatusWorld :=
  let (w, entry) := w.get
  { w with
    calls := w.calls ++ [{
      calledAt := w.now
      invalidations := w.invalidations
      phase := afterGet entry }] }

def enter (w : StatusWorld) (i : Nat) (call : StatusCall) (phase : StatusPhase) : StatusWorld :=
  { w with calls := w.calls.set i { call with phase } }

def step (w : StatusWorld) : StatusLabel → Option StatusWorld
  | .call => some w.begin
  | .read i =>
    match w.calls[i]? with
    | some call =>
      match call.phase with
      | .reading => some (w.enter i call (.storing (resolved w.tenant) ⟨w.now, w.invalidations⟩))
      | _ => none
    | none => none
  | .store i =>
    match w.calls[i]? with
    | some call =>
      match call.phase with
      | .storing found reading =>
        some ((w.setCachedTenantStatus found reading).enter i call (.answered found reading))
      | _ => none
    | none => none
  | .getPlan => some w.get.1
  | .setPlan plan => some (w.setCachedTenantPlan plan)
  | .getIpAllowlist => some w.get.1
  | .setIpAllowlist ipAllowlist => some (w.setCachedTenantIpAllowlist ipAllowlist)
  | .invalidate => some { w with cache := none, invalidations := w.invalidations + 1 }
  | .change tenant =>
    some { w with
      tenant
      statusUntil := Function.update w.statusUntil (resolved w.tenant).status (some w.now)
      trialUntil := Function.update w.trialUntil (resolved w.tenant).trialEndsAt (some w.now) }
  | .tick time => some { w with now := w.now + time }

/-- An instance that has just started. -/
def started (now : Time) (tenant : Option TenantStatus) : StatusWorld where
  now := now
  tenant := tenant
  cache := none
  invalidations := 0
  calls := []
  statusUntil := fun _ => none
  trialUntil := fun _ => none

/-! ## Freshness -/

structure Held (w : StatusWorld) (found : TenantStatus) (time : Time) : Prop where
  past : time ≤ w.now
  status : (resolved w.tenant).status = found.status ∨
    ∃ until', w.statusUntil found.status = some until' ∧ time ≤ until'
  trial : (resolved w.tenant).trialEndsAt = found.trialEndsAt ∨
    ∃ until', w.trialUntil found.trialEndsAt = some until' ∧ time ≤ until'

def Fresh (w : StatusWorld) : Prop :=
  ∀ call ∈ w.calls, ∀ answer reading, call.phase = .answered answer reading →
    w.Held answer (call.calledAt - 30000) ∧ call.invalidations ≤ reading.invalidations

def Matching (w : StatusWorld) : Prop :=
  ∀ entry trialEndsAt, w.cache = some entry → entry.trialEndsAt = some trialEndsAt →
    resolved w.tenant = { status := entry.status, trialEndsAt }

def Unchanged (w : StatusWorld) : StatusLabel → Prop
  | .store i => ∀ call, w.calls[i]? = some call → ∀ found reading,
      call.phase = .storing found reading →
        resolved w.tenant = found ∧ w.invalidations ≤ reading.invalidations
  | .setPlan _ => w.Matching
  | .setIpAllowlist _ => w.Matching
  | _ => True

variable {w w' : StatusWorld}

theorem Held.earlier {found : TenantStatus} {time earlier : Time} (held : w.Held found time)
    (before : earlier ≤ time) : w.Held found earlier := by
  refine ⟨Nat.le_trans before held.past, held.status.imp_right ?_, held.trial.imp_right ?_⟩
  · rintro ⟨until', ceased, within⟩
    exact ⟨until', ceased, Nat.le_trans before within⟩
  · rintro ⟨until', ceased, within⟩
    exact ⟨until', ceased, Nat.le_trans before within⟩

theorem Held.now : w.Held (resolved w.tenant) w.now := ⟨Nat.le_refl _, .inl rfl, .inl rfl⟩

/-- What the database held once, it held. -/
structure Later (w w' : StatusWorld) : Prop where
  held : ∀ found time, w.Held found time → w'.Held found time
  now : w.now ≤ w'.now
  invalidations : w.invalidations ≤ w'.invalidations

theorem Later.of_same (tenant : w'.tenant = w.tenant) (status : w'.statusUntil = w.statusUntil)
    (trial : w'.trialUntil = w.trialUntil) (now : w.now ≤ w'.now)
    (invalidations : w.invalidations ≤ w'.invalidations) : Later w w' := by
  refine ⟨fun found time held => ⟨Nat.le_trans held.past now, ?_, ?_⟩, now, invalidations⟩
  · rw [tenant, status]
    exact held.status
  · rw [tenant, trial]
    exact held.trial

theorem ceased_after {α : Type} [DecidableEq α] {ceased : α → Option Time} {current value : α}
    {time now : Time} (past : time ≤ now)
    (held : current = value ∨ ∃ until', ceased value = some until' ∧ time ≤ until') :
    ∃ until', Function.update ceased current (some now) value = some until' ∧ time ≤ until' := by
  by_cases same : value = current
  · subst same
    exact ⟨now, Function.update_self _ _ _, past⟩
  · obtain ⟨until', was, within⟩ := held.resolve_left (Ne.symm same)
    exact ⟨until', (Function.update_of_ne same _ _).trans was, within⟩

theorem Later.change (tenant : Option TenantStatus) :
    Later w { w with
      tenant
      statusUntil := Function.update w.statusUntil (resolved w.tenant).status (some w.now)
      trialUntil := Function.update w.trialUntil (resolved w.tenant).trialEndsAt (some w.now) } := by
  refine ⟨fun found time held => ⟨held.past, .inr ?_, .inr ?_⟩, Nat.le_refl _, Nat.le_refl _⟩
  · exact ceased_after held.past held.status
  · exact ceased_after held.past held.trial

/-! ## The invariant -/

/-- What is known of a call that was made. -/
structure CallSound (w : StatusWorld) (call : StatusCall) : Prop where
  begun : call.calledAt ≤ w.now ∧ call.invalidations ≤ w.invalidations
  storing : ∀ found reading, call.phase = .storing found reading →
    w.Held found reading.at' ∧ call.calledAt ≤ reading.at' ∧
      call.invalidations ≤ reading.invalidations
  fresh : ∀ answer reading, call.phase = .answered answer reading →
    w.Held answer (call.calledAt - 30000) ∧ call.invalidations ≤ reading.invalidations

structure Sound (w : StatusWorld) : Prop where
  cached : ∀ entry trialEndsAt, w.cache = some entry → entry.trialEndsAt = some trialEndsAt →
    w.Held { status := entry.status, trialEndsAt } (entry.exp - STATUS_CACHE_TTL_MS) ∧
      w.invalidations ≤ entry.reading.invalidations
  calls : ∀ call ∈ w.calls, w.CallSound call

theorem Sound.isFresh (sound : w.Sound) : w.Fresh :=
  fun call mem => (sound.calls call mem).fresh

theorem Sound.started (now : Time) (tenant : Option TenantStatus) :
    (StatusWorld.started now tenant).Sound := by
  refine ⟨fun _ _ found => ?_, fun _ mem => ?_⟩
  · cases found
  · cases mem

theorem CallSound.later {call : StatusCall} (sound : w.CallSound call) (later : Later w w') :
    w'.CallSound call := by
  refine ⟨⟨Nat.le_trans sound.begun.1 later.now, Nat.le_trans sound.begun.2 later.invalidations⟩,
    fun found reading phase => ?_, fun answer reading phase => ?_⟩
  · obtain ⟨held, after, current⟩ := sound.storing found reading phase
    exact ⟨later.held _ _ held, after, current⟩
  · obtain ⟨held, current⟩ := sound.fresh answer reading phase
    exact ⟨later.held _ _ held, current⟩

theorem Sound.kept (sound : w.Sound) (later : Later w w')
    (cache : (w'.cache = w.cache ∧ w'.invalidations = w.invalidations) ∨ w'.cache = none)
    (calls : w'.calls = w.calls) : w'.Sound := by
  refine ⟨fun entry trialEndsAt found defined => ?_, fun call mem => ?_⟩
  · rcases cache with ⟨same, none⟩ | gone
    · rw [same] at found
      obtain ⟨held, current⟩ := sound.cached entry trialEndsAt found defined
      exact ⟨later.held _ _ held, by rw [none]; exact current⟩
    · rw [gone] at found
      cases found
  · rw [calls] at mem
    exact (sound.calls call mem).later later

theorem get_cases (w : StatusWorld) :
    (w.get = (w, w.cache)) ∨ w.get = ({ w with cache := none }, none) := by
  unfold get
  split
  · next none' => exact .inl (by rw [none'])
  · next entry held =>
    split
    · exact .inr rfl
    · exact .inl (by rw [held])

theorem Sound.get (sound : w.Sound) : w.get.1.Sound := by
  rcases w.get_cases with same | gone
  · rw [same]
    exact sound
  · rw [gone]
    exact sound.kept (.of_same rfl rfl rfl (Nat.le_refl _) (Nat.le_refl _)) (.inr rfl) rfl

theorem Sound.stored (sound : w.Sound) (plan : Option String) (ipAllowlist : Option (List String))
    (matching : w.Matching) : (w.stored plan ipAllowlist).Sound := by
  have later : Later w (w.stored plan ipAllowlist) :=
    .of_same rfl rfl rfl (Nat.le_refl _) (Nat.le_refl _)
  refine ⟨fun entry trialEndsAt found defined => ?_, fun call mem =>
    (sound.calls call mem).later later⟩
  obtain rfl := Option.some.inj found
  obtain ⟨old, held, defined⟩ := bind_eq_some_iff.mp defined
  have current := (sound.cached old trialEndsAt held defined).2
  simp only [held, map_some, getD_some, Nat.add_sub_cancel]
  refine ⟨later.held _ _ ?_, current⟩
  rw [← matching old trialEndsAt held defined]
  exact .now

theorem Sound.append (sound : w.Sound) {call : StatusCall} (own : w.CallSound call) :
    ({ w with calls := w.calls ++ [call] } : StatusWorld).Sound := by
  have later : Later w { w with calls := w.calls ++ [call] } :=
    .of_same rfl rfl rfl (Nat.le_refl _) (Nat.le_refl _)
  refine ⟨fun entry trialEndsAt found defined =>
    (sound.cached entry trialEndsAt found defined).imp_left (later.held _ _), fun other mem => ?_⟩
  rcases Calls.of_mem_began mem with rfl | old
  · exact own.later later
  · exact (sound.calls other old).later later

theorem Sound.enter (sound : w.Sound) {i : Nat} {call : StatusCall} {phase : StatusPhase}
    (own : w.CallSound { call with phase }) : (w.enter i call phase).Sound := by
  have later : Later w (w.enter i call phase) :=
    .of_same rfl rfl rfl (Nat.le_refl _) (Nat.le_refl _)
  refine ⟨fun entry trialEndsAt found defined =>
    (sound.cached entry trialEndsAt found defined).imp_left (later.held _ _), fun other mem => ?_⟩
  rcases Calls.of_mem_replaced mem with rfl | old
  · exact own.later later
  · exact (sound.calls other old).later later

theorem get_some {entry : StatusEntry} (found : w.get.2 = some entry) :
    w.get.1 = w ∧ w.cache = some entry ∧ w.now ≤ entry.exp := by
  unfold get at found ⊢
  split at found
  · cases found
  · next held =>
    split at found
    · cases found
    · next alive =>
      obtain rfl := Option.some.inj found
      simp only [held, if_neg alive]
      exact ⟨trivial, trivial, Nat.le_of_not_lt alive⟩

variable {entry : Option StatusEntry} {reading : StatusReading} {l : StatusLabel}

theorem afterGet_answered {answer : TenantStatus}
    (phase : afterGet entry = .answered answer reading) :
    ∃ found trialEndsAt, entry = some found ∧ found.trialEndsAt = some trialEndsAt ∧
      answer = { status := found.status, trialEndsAt } ∧ reading = found.reading := by
  unfold afterGet at phase
  split at phase
  · cases phase
  · next found =>
    split at phase
    · cases phase
    · next trialEndsAt defined =>
      cases phase
      exact ⟨found, trialEndsAt, rfl, defined, rfl, rfl⟩

theorem afterGet_storing {found : TenantStatus} : afterGet entry ≠ .storing found reading := by
  unfold afterGet
  split
  · exact nofun
  · split <;> exact nofun

theorem Sound.begin (sound : w.Sound) : w.begin.Sound := by
  have own : w.get.1.CallSound ⟨w.get.1.now, w.get.1.invalidations, afterGet w.get.2⟩ := by
    refine ⟨⟨Nat.le_refl _, Nat.le_refl _⟩, fun found reading phase =>
      absurd phase afterGet_storing, fun answer reading phase => ?_⟩
    obtain ⟨entry, trialEndsAt, found, defined, rfl, rfl⟩ := afterGet_answered phase
    obtain ⟨same, cached, alive⟩ := get_some found
    obtain ⟨held, current⟩ := sound.cached entry trialEndsAt cached defined
    rw [same]
    exact ⟨held.earlier (Nat.sub_le_sub_right alive _), current⟩
  exact sound.get.append own

theorem Sound.next (sound : w.Sound) {l : StatusLabel} (unchanged : w.Unchanged l)
    (stepped : step w l = some w') : w'.Sound := by
  revert stepped
  fun_cases step w l <;> intro stepped <;> cases stepped
  · exact sound.begin
  · next call here reading =>
    have own := sound.calls call (List.mem_of_getElem? here)
    refine sound.enter ⟨own.begun, fun found reading phase => ?_, nofun⟩
    cases phase
    exact ⟨.now, own.begun⟩
  · next call here found reading phase =>
    have own := sound.calls call (List.mem_of_getElem? here)
    obtain ⟨held, after, current⟩ := own.storing found reading phase
    obtain ⟨rfl, last⟩ := unchanged call here found reading phase
    have later : Later w (w.setCachedTenantStatus (resolved w.tenant) reading) :=
      .of_same rfl rfl rfl (Nat.le_refl _) (Nat.le_refl _)
    have stored : (w.setCachedTenantStatus (resolved w.tenant) reading).Sound := by
      refine ⟨fun entry trialEndsAt is defined => ?_, fun other mem =>
        (sound.calls other mem).later later⟩
      obtain rfl := Option.some.inj is
      obtain rfl := Option.some.inj defined
      rw [Nat.add_sub_cancel]
      exact ⟨later.held _ _ .now, last⟩
    refine stored.enter ⟨(own.later later).begun, nofun, fun answer reading' answered => ?_⟩
    cases answered
    refine ⟨(later.held _ _ held).earlier ?_, current⟩
    exact Nat.le_trans (Nat.sub_le _ _) after
  · exact sound.get
  · exact sound.stored _ _ unchanged
  · exact sound.get
  · exact sound.stored _ _ unchanged
  · exact sound.kept (.of_same rfl rfl rfl (Nat.le_refl _) (Nat.le_succ _)) (.inr rfl) rfl
  · next tenant => exact sound.kept (.change tenant) (.inl ⟨rfl, rfl⟩) rfl
  · exact sound.kept (.of_same rfl rfl rfl (Nat.le_add_right _ _) (Nat.le_refl _))
      (.inl ⟨rfl, rfl⟩) rfl

/-- In a run of which every store gives its 30 seconds to what the tenant's row says, read after
the last invalidation, every answer is fresh. -/
theorem status_fresh {now : Time} {tenant : Option TenantStatus} {labels : List StatusLabel}
    (unchanged : Guarded step Unchanged (started now tenant) labels) :
    Always step Fresh (started now tenant) labels :=
  unchanged.always (fun sound unchanged stepped => sound.next unchanged stepped) Sound.isFresh
    (Sound.started now tenant)

/-! ## The condition, checked -/

def matching (w : StatusWorld) : Bool :=
  w.cache.all fun entry => entry.trialEndsAt.all fun trialEndsAt =>
    resolved w.tenant == { status := entry.status, trialEndsAt }

def unchanged (w : StatusWorld) : StatusLabel → Bool
  | .store i => w.calls[i]?.all fun call =>
      match call.phase with
      | .storing found reading =>
        resolved w.tenant == found && decide (w.invalidations ≤ reading.invalidations)
      | _ => true
  | .setPlan _ => w.matching
  | .setIpAllowlist _ => w.matching
  | _ => true

theorem matching_sound (checked : w.matching) : w.Matching := by
  intro entry trialEndsAt found defined
  rw [matching, found, all_some, defined, all_some, beq_iff_eq] at checked
  exact checked

theorem unchanged_sound {l : StatusLabel} (checked : w.unchanged l) : w.Unchanged l := by
  cases l with
  | store i =>
    intro call here found reading phase
    simp only [unchanged, here, all_some, phase] at checked
    obtain ⟨same, last⟩ := Bool.and_eq_true_iff.mp checked
    exact ⟨eq_of_beq same, of_decide_eq_true last⟩
  | setPlan | setIpAllowlist => exact matching_sound checked
  | _ => trivial

end StatusWorld

/-! ## A status that outlives its 30 seconds, and one that outlives its invalidation -/

namespace StatusSample

def active : Option TenantStatus := some { status := "active", trialEndsAt := none }
def suspended : Option TenantStatus := some { status := "suspended", trialEndsAt := none }

def renewed : List StatusLabel :=
  [.call, .read 0, .store 0, .tick 1000, .change suspended, .tick 28000, .setPlan "pro",
    .tick 29000, .call]

def overtaken : List StatusLabel :=
  [.call, .read 0, .change suspended, .invalidate, .store 0, .call]

def inTime : List StatusLabel :=
  [.setPlan "pro", .call, .read 0, .store 0, .tick 20000, .setIpAllowlist [], .change suspended,
    .tick 30000, .call, .tick 1, .call, .read 2, .store 2, .invalidate, .call]

end StatusSample

open StatusSample StatusWorld in
theorem status_fresh_inTime : Always step Fresh (started 0 active) inTime :=
  status_fresh (Guarded.of_check unchanged_sound (by decide +kernel))

open StatusSample StatusWorld in
/-- The plan keeps a status in the cache that the database has not held for 57 seconds, and a
store after an invalidation brings one back that was read before it. -/
theorem status_stale :
    (∃ w, run step (started 0 active) renewed = some w ∧ ¬w.Fresh) ∧
      ∃ w, run step (started 0 active) overtaken = some w ∧ ¬w.Fresh := by
  constructor
  · have stale : (run step (started 0 active) renewed).any (fun w =>
        w.calls[1]?.any fun call => call.calledAt == 58000 &&
          (resolved w.tenant).status == "suspended" && w.statusUntil "active" == some 1000 &&
            match call.phase with
            | .answered answer _ => answer.status == "active"
            | _ => false) = true := by
      decide +kernel
    obtain ⟨w, ran, old⟩ := (any_eq_true _ _).mp stale
    obtain ⟨call, here, old⟩ := (any_eq_true _ _).mp old
    simp only [Bool.and_eq_true, beq_iff_eq] at old
    obtain ⟨⟨⟨late, current⟩, ceased⟩, answered⟩ := old
    refine ⟨w, ran, fun fresh => ?_⟩
    split at answered
    · next answer reading phase =>
      have status : answer.status = "active" := eq_of_beq answered
      obtain ⟨held, -⟩ := fresh call (List.mem_of_getElem? here) answer reading phase
      rw [late] at held
      rcases held.status with still | ⟨until', was, within⟩
      · rw [current, status] at still
        exact absurd still (by decide)
      · rw [status, ceased] at was
        obtain rfl := Option.some.inj was
        exact absurd within (by decide)
    · cases answered
  · have stale : (run step (started 0 active) overtaken).any (fun w =>
        w.calls[1]?.any fun call => call.invalidations == 1 &&
            match call.phase with
            | .answered _ reading => reading.invalidations == 0
            | _ => false) = true := by
      decide +kernel
    obtain ⟨w, ran, old⟩ := (any_eq_true _ _).mp stale
    obtain ⟨call, here, old⟩ := (any_eq_true _ _).mp old
    obtain ⟨after, answered⟩ := Bool.and_eq_true_iff.mp old
    refine ⟨w, ran, fun fresh => ?_⟩
    split at answered
    · next answer reading phase =>
      obtain ⟨-, current⟩ := fresh call (List.mem_of_getElem? here) answer reading phase
      rw [eq_of_beq after, eq_of_beq answered] at current
      exact absurd current (by decide)
    · cases answered

end OpenWind
