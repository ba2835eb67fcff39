import OpenWind.Schema
import OpenWind.Lib.Runs
import OpenWind.Lib.Calls
import Mathlib.Algebra.Group.Nat.Defs

/-!
# The deletion of a tenant

`scheduleTenantDeletion` commits the status of the tenant, and then adds a job to the queue that
purges the tenant's data when the delay is over.  A call may fail between any two of its steps,
and an attempt of the job at any of its own.
-/

open List Option Bool

namespace OpenWind

open Runs

inductive LifecycleStatus
  | active | suspended | deleted | purged
deriving DecidableEq

structure TenantRow where
  status : LifecycleStatus
  suspendedAt : Option Time
  deletionScheduledAt : Option Time

inductive PurgePhase
  | starting
  /-- The tenant was found deleted. -/
  | purging
  /-- The tenant is purged; what is outside the database is cleaned up. -/
  | finishing
deriving DecidableEq

inductive PurgeState
  | waiting
  | active (phase : PurgePhase)
  | completed
  | failed
deriving DecidableEq

/-- The job `tenant-purge-<tenantId>`. -/
structure PurgeJob where
  runAt : Time
  attemptsMade : Nat
  state : PurgeState

def PURGE_ATTEMPTS : Nat := 5

def purgeBackoff (attemptsMade : Nat) : Nat := 60000 * 2 ^ (attemptsMade - 1)

def PurgeState.live : PurgeState → Bool
  | .waiting => true
  | .active _ => true
  | _ => false

/-- An attempt has seen the tenant purged. -/
def PurgeState.done : PurgeState → Bool
  | .active .finishing => true
  | .completed => true
  | _ => false

inductive DeletionPhase
  | begun
  | loaded (deletionScheduledAt : Time)
  | updated (deletionScheduledAt : Time)
  | enqueued (deletionScheduledAt : Time)
  | answered (deletionScheduledAt : Time)
  | failed

def DeletionPhase.isUpdated : DeletionPhase → Bool
  | .updated _ => true
  | _ => false

/-- A call of `scheduleTenantDeletion`. -/
structure DeletionCall where
  delayDays : Nat
  phase : DeletionPhase

def DeletionCall.delayMs (call : DeletionCall) : Nat := call.delayDays * 24 * 60 * 60 * 1000

structure DeletionWorld where
  now : Time
  tenant : Option TenantRow
  job : Option PurgeJob
  calls : List DeletionCall

inductive DeletionLabel
  | provision
  | suspendTenant
  | reactivateTenant
  | scheduleTenantDeletion (delayDays : Nat)
  | load (i : Nat)
  | update (i : Nat)
  | enqueue (i : Nat)
  | audit (i : Nat)
  | fail (i : Nat)
  | startPurge
  | readStatus
  | markPurged
  | finishPurge
  | purgeFails
  | removeJob
  | tick (time : Nat)

namespace DeletionWorld

def enter (w : DeletionWorld) (i : Nat) (call : DeletionCall) (phase : DeletionPhase) :
    DeletionWorld :=
  { w with calls := w.calls.set i { call with phase } }

def updateTenant (w : DeletionWorld) (allowed : List LifecycleStatus)
    (set' : TenantRow → TenantRow) : Option DeletionWorld :=
  match w.tenant with
  | some row => if row.status ∈ allowed then some { w with tenant := some (set' row) } else none
  | none => none

def withJob (w : DeletionWorld) (job : PurgeJob) : DeletionWorld := { w with job := some job }

/-- `loadTenant` and `assertTransition`. -/
def loaded (w : DeletionWorld) (call : DeletionCall) : DeletionPhase :=
  match w.tenant with
  | some row =>
    if row.status ∈ [.active, .suspended] then .loaded (w.now + call.delayMs) else .failed
  | none => .failed

def purgeState (w : DeletionWorld) : PurgeState :=
  match w.tenant with
  | none => .completed
  | some row =>
    match row.status with
    | .purged => .active .finishing
    | .deleted => .active .purging
    | _ => .completed

def afterFailure (w : DeletionWorld) (job : PurgeJob) : PurgeJob :=
  let attemptsMade := job.attemptsMade + 1
  if attemptsMade < PURGE_ATTEMPTS then
    { runAt := w.now + purgeBackoff attemptsMade, attemptsMade, state := .waiting }
  else { job with attemptsMade, state := .failed }

def step (w : DeletionWorld) : DeletionLabel → Option DeletionWorld
  | .provision =>
    match w.tenant with
    | none => some { w with tenant := some ⟨.active, none, none⟩ }
    | some _ => none
  | .suspendTenant =>
    w.updateTenant [.active] fun row =>
      { row with status := .suspended, suspendedAt := some w.now }
  | .reactivateTenant =>
    w.updateTenant [.suspended] fun row => { row with status := .active, suspendedAt := none }
  | .scheduleTenantDeletion delayDays => some { w with calls := w.calls ++ [⟨delayDays, .begun⟩] }
  | .load i =>
    match w.calls[i]? with
    | some call =>
      match call.phase with
      | .begun => some (w.enter i call (w.loaded call))
      | _ => none
    | none => none
  | .update i =>
    match w.calls[i]? with
    | some call =>
      match call.phase with
      | .loaded at' =>
        match w.updateTenant [.active, .suspended] fun row =>
            { row with status := .deleted, deletionScheduledAt := some at' } with
        | some w' => some (w'.enter i call (.updated at'))
        | none => some (w.enter i call .failed)
      | _ => none
    | none => none
  | .enqueue i =>
    match w.calls[i]? with
    | some call =>
      match call.phase with
      | .updated at' =>
        -- a job of this name that is still kept is not replaced
        some ((w.withJob (w.job.getD ⟨w.now + call.delayMs, 0, .waiting⟩)).enter i call
          (.enqueued at'))
      | _ => none
    | none => none
  | .audit i =>
    match w.calls[i]? with
    | some call =>
      match call.phase with
      | .enqueued at' => some (w.enter i call (.answered at'))
      | _ => none
    | none => none
  | .fail i =>
    match w.calls[i]? with
    | some call =>
      match call.phase with
      | .answered _ => none
      | .failed => none
      | _ => some (w.enter i call .failed)
    | none => none
  | .startPurge =>
    match w.job with
    | some job =>
      if job.state = .waiting ∧ job.runAt ≤ w.now then
        some (w.withJob { job with state := .active .starting })
      else none
    | none => none
  | .readStatus =>
    match w.job with
    | some job =>
      if job.state = .active .starting then some (w.withJob { job with state := w.purgeState })
      else none
    | none => none
  | .markPurged =>
    match w.job with
    | some job =>
      if job.state = .active .purging then
        some (((w.updateTenant [.deleted] fun row => { row with status := .purged }).getD w).withJob
          { job with state := .active .finishing })
      else none
    | none => none
  | .finishPurge =>
    match w.job with
    | some job =>
      if job.state = .active .finishing then some (w.withJob { job with state := .completed })
      else none
    | none => none
  | .purgeFails =>
    match w.job with
    | some job =>
      match job.state with
      | .active _ => some (w.withJob (w.afterFailure job))
      | _ => none
    | none => none
  | .removeJob =>
    match w.job with
    | some job => if job.state = .completed then some { w with job := none } else none
    | none => none
  | .tick time => some { w with now := w.now + time }

/-- Before the tenant is provisioned. -/
def before (now : Time) : DeletionWorld where
  now := now
  tenant := none
  job := none
  calls := []

/-! ## Deletions that are not lost -/

def HasPurgeJob (w : DeletionWorld) : Prop := ∃ job, w.job = some job ∧ job.state.live = true

def Enqueuing (w : DeletionWorld) : Prop :=
  ∃ (i : Nat) (call : DeletionCall), w.calls[i]? = some call ∧ call.phase.isUpdated = true

/-- Another call, up to its job. -/
def again (w : DeletionWorld) (delayDays : Nat) : List DeletionLabel :=
  [.scheduleTenantDeletion delayDays, .load w.calls.length, .update w.calls.length,
    .enqueue w.calls.length]

def CanReschedule (w : DeletionWorld) : Prop :=
  ∃ delayDays w', run step w (w.again delayDays) = some w' ∧ w'.HasPurgeJob

def Kept (w : DeletionWorld) : Prop :=
  ∀ row, w.tenant = some row → row.status = .deleted → w.Enqueuing ∨ w.HasPurgeJob ∨ w.CanReschedule

def Lossless (w : DeletionWorld) : DeletionLabel → Prop
  | .fail i => ∀ call : DeletionCall, w.calls[i]? = some call → call.phase.isUpdated = false
  | .purgeFails => ∀ job phase row, w.job = some job → job.state = .active phase →
      w.tenant = some row → row.status = .deleted → job.attemptsMade + 1 < PURGE_ATTEMPTS
  | _ => True

variable {w w' : DeletionWorld} {i : Nat} {call : DeletionCall}

/-! ### A deleted tenant is not given another job -/

theorem updateTenant_some {allowed : List LifecycleStatus} {set' : TenantRow → TenantRow}
    (updated : w.updateTenant allowed set' = some w') :
    ∃ row, w.tenant = some row ∧ row.status ∈ allowed ∧ w' = { w with tenant := some (set' row) } := by
  unfold updateTenant at updated
  split at updated
  · next row found =>
    split at updated
    · next may =>
      cases updated
      exact ⟨row, found, may, rfl⟩
    · cases updated
  · cases updated

/-- What a step does, with its guards. -/
inductive Stepped (w : DeletionWorld) : DeletionLabel → DeletionWorld → Prop
  | provision (absent : w.tenant = none) :
    Stepped w .provision { w with tenant := some ⟨.active, none, none⟩ }
  | suspendTenant {row : TenantRow} (found : w.tenant = some row) (may : row.status ∈ [.active]) :
    Stepped w .suspendTenant
      { w with tenant := some { row with status := .suspended, suspendedAt := some w.now } }
  | reactivateTenant {row : TenantRow} (found : w.tenant = some row)
    (may : row.status ∈ [.suspended]) :
    Stepped w .reactivateTenant
      { w with tenant := some { row with status := .active, suspendedAt := none } }
  | scheduleTenantDeletion (delayDays : Nat) :
    Stepped w (.scheduleTenantDeletion delayDays)
      { w with calls := w.calls ++ [⟨delayDays, .begun⟩] }
  | load {i : Nat} {call : DeletionCall} (here : w.calls[i]? = some call)
    (phase : call.phase = .begun) : Stepped w (.load i) (w.enter i call (w.loaded call))
  | update {i : Nat} {call : DeletionCall} {at' : Time} {row : TenantRow}
    (here : w.calls[i]? = some call) (phase : call.phase = .loaded at')
    (found : w.tenant = some row) (may : row.status ∈ [.active, .suspended]) :
    Stepped w (.update i) (DeletionWorld.enter
      { w with tenant := some { row with status := .deleted, deletionScheduledAt := some at' } }
      i call (.updated at'))
  | refuse {i : Nat} {call : DeletionCall} {at' : Time} (here : w.calls[i]? = some call)
    (phase : call.phase = .loaded at') : Stepped w (.update i) (w.enter i call .failed)
  | enqueue {i : Nat} {call : DeletionCall} {at' : Time} (here : w.calls[i]? = some call)
    (phase : call.phase = .updated at') : Stepped w (.enqueue i)
      ((w.withJob (w.job.getD ⟨w.now + call.delayMs, 0, .waiting⟩)).enter i call (.enqueued at'))
  | audit {i : Nat} {call : DeletionCall} {at' : Time} (here : w.calls[i]? = some call)
    (phase : call.phase = .enqueued at') : Stepped w (.audit i) (w.enter i call (.answered at'))
  | fail {i : Nat} {call : DeletionCall} (here : w.calls[i]? = some call) :
    Stepped w (.fail i) (w.enter i call .failed)
  | startPurge {job : PurgeJob} (has : w.job = some job) :
    Stepped w .startPurge (w.withJob { job with state := .active .starting })
  | readStatus {job : PurgeJob} (has : w.job = some job) :
    Stepped w .readStatus (w.withJob { job with state := w.purgeState })
  | markPurged {job : PurgeJob} (has : w.job = some job) : Stepped w .markPurged
      (((w.updateTenant [.deleted] fun row => { row with status := .purged }).getD w).withJob
        { job with state := .active .finishing })
  | finishPurge {job : PurgeJob} (has : w.job = some job)
    (finishing : job.state = .active .finishing) :
    Stepped w .finishPurge (w.withJob { job with state := .completed })
  | purgeFails {job : PurgeJob} {phase : PurgePhase} (has : w.job = some job)
    (active : job.state = .active phase) : Stepped w .purgeFails (w.withJob (w.afterFailure job))
  | removeJob {job : PurgeJob} (has : w.job = some job) (completed : job.state = .completed) :
    Stepped w .removeJob { w with job := none }
  | tick (time : Nat) : Stepped w (.tick time) { w with now := w.now + time }

variable {l : DeletionLabel} {row : TenantRow}

theorem step_cases (stepped : step w l = some w') : w.Stepped l w' := by
  revert stepped
  fun_cases step w l <;> intro stepped <;> try cases stepped
  case case1.refl absent => exact .provision absent
  case case3 =>
    obtain ⟨row, found, may, rfl⟩ := updateTenant_some stepped
    exact .suspendTenant found may
  case case4 =>
    obtain ⟨row, found, may, rfl⟩ := updateTenant_some stepped
    exact .reactivateTenant found may
  case case5.refl delayDays => exact .scheduleTenantDeletion delayDays
  case case6.refl here phase => exact .load here phase
  case case9.refl here _ phase _ updated =>
    obtain ⟨row, found, may, rfl⟩ := updateTenant_some updated
    exact .update here phase found may
  case case10.refl here _ phase _ => exact .refuse here phase
  case case13.refl here _ phase => exact .enqueue here phase
  case case16.refl here _ phase => exact .audit here phase
  case case21.refl here _ _ => exact .fail here
  case case23.refl has _ => exact .startPurge has
  case case26.refl has _ => exact .readStatus has
  case case29.refl has _ => exact .markPurged has
  case case32.refl has finishing => exact .finishPurge has finishing
  case case35.refl has _ active => exact .purgeFails has active
  case case38.refl has completed => exact .removeJob has completed
  case case41.refl time => exact .tick time

theorem calls_enter (here : w.calls[i]? = some call) (phase : DeletionPhase) :
    (w.enter i call phase).calls[i]? = some { call with phase } := by
  have inside : i < w.calls.length := (List.getElem?_eq_some_iff.mp here).1
  exact getElem?_set_self inside

theorem not_canReschedule (found : w.tenant = some row) (deleted : row.status = .deleted) :
    ¬w.CanReschedule := by
  rintro ⟨delayDays, w', ran, -⟩
  obtain ⟨begun, started, ran⟩ := run_cons.mp ran
  obtain ⟨read, stepped, ran⟩ := run_cons.mp ran
  obtain ⟨updated, stepped', -⟩ := run_cons.mp ran
  cases started
  have last : (w.calls ++ [(⟨delayDays, .begun⟩ : DeletionCall)])[w.calls.length]? =
      some ⟨delayDays, .begun⟩ := getElem?_concat_length
  have refused : loaded { w with calls := w.calls ++ [⟨delayDays, .begun⟩] } ⟨delayDays, .begun⟩ =
      .failed := by
    simp only [loaded, found, deleted]
    rfl
  simp only [step, last, refused] at stepped
  cases stepped
  have failed := calls_enter (w := { w with calls := w.calls ++ [⟨delayDays, .begun⟩] }) last .failed
  simp only [step, failed] at stepped'
  cases stepped'

/-- The part of `Kept` that a step can keep. -/
def Attended (w : DeletionWorld) : Prop :=
  ∀ row, w.tenant = some row → row.status = .deleted → w.Enqueuing ∨ w.HasPurgeJob

theorem kept_iff : w.Kept ↔ w.Attended := by
  refine ⟨fun kept row found deleted => ?_, fun kept row found deleted => ?_⟩
  · rcases kept row found deleted with enqueuing | has | can
    · exact .inl enqueuing
    · exact .inr has
    · exact absurd can (not_canReschedule found deleted)
  · rcases kept row found deleted with enqueuing | has
    · exact .inl enqueuing
    · exact .inr (.inl has)

/-! ### The invariant -/

structure Sound (w : DeletionWorld) : Prop where
  job : ∀ job, w.job = some job →
    ∃ row, w.tenant = some row ∧ (row.status = .deleted ∨ row.status = .purged)
  done : ∀ job row, w.job = some job → job.state.done = true → w.tenant = some row →
    row.status = .purged
  updated : ∀ (i : Nat) (call : DeletionCall), w.calls[i]? = some call →
    call.phase.isUpdated = true → w.job = none ∧ ∃ row, w.tenant = some row ∧ row.status = .deleted
  one : ∀ (i j : Nat) (ci cj : DeletionCall), w.calls[i]? = some ci → w.calls[j]? = some cj →
    ci.phase.isUpdated = true → cj.phase.isUpdated = true → i = j

theorem Sound.before (now : Time) : (DeletionWorld.before now).Sound := by
  refine ⟨nofun, nofun, fun i call here => ?_, fun i j ci cj here => ?_⟩
  · cases here
  · cases here

section

variable (sound : w.Sound)

include sound

theorem Sound.alive (alive : ∀ row, w.tenant = some row → row.status ∈ [.active, .suspended]) :
    w.job = none ∧ ∀ (i : Nat) (call : DeletionCall), w.calls[i]? = some call →
      call.phase.isUpdated = false := by
  have not_ (row : TenantRow) (found : w.tenant = some row)
      (gone : row.status = .deleted ∨ row.status = .purged) : False := by
    have status := alive row found
    rcases gone with is | is <;> rw [is] at status <;> exact absurd status (by decide)
  constructor
  · cases has : w.job with
    | none => rfl
    | some job =>
      obtain ⟨row, found, gone⟩ := sound.job job has
      exact (not_ row found gone).elim
  · intro i call here
    refine eq_false_iff.mpr fun updated => ?_
    obtain ⟨-, row, found, deleted⟩ := sound.updated i call here updated
    exact not_ row found (.inl deleted)

theorem Sound.tenant (row : TenantRow)
    (alive : ∀ row, w.tenant = some row → row.status ∈ [.active, .suspended]) :
    ({ w with tenant := some row } : DeletionWorld).Sound := by
  obtain ⟨noJob, noCall⟩ := sound.alive alive
  refine ⟨fun job has => ?_, fun job row has => ?_, fun i call here updated => ?_, sound.one⟩
  · exact absurd (noJob.symm.trans has) nofun
  · exact absurd (noJob.symm.trans has) nofun
  · exact absurd ((noCall i call here).symm.trans updated) nofun

theorem Sound.enter (here : w.calls[i]? = some call) {phase : DeletionPhase}
    (other : phase.isUpdated = false) : (w.enter i call phase).Sound := by
  have was {j : Nat} {cj : DeletionCall} (found : (w.enter i call phase).calls[j]? = some cj)
      (updated : cj.phase.isUpdated) : w.calls[j]? = some cj := by
    rcases Calls.getElem?_replaced here found with ⟨-, rfl⟩ | ⟨-, old⟩
    · exact absurd (other.symm.trans updated) nofun
    · exact old
  exact ⟨sound.job, sound.done, fun j cj found updated => sound.updated j cj (was found updated) updated,
    fun j k cj ck first second updated updated' =>
      sound.one j k cj ck (was first updated) (was second updated') updated updated'⟩

theorem Sound.began (delayDays : Nat) :
    ({ w with calls := w.calls ++ [⟨delayDays, .begun⟩] } : DeletionWorld).Sound := by
  have was {j : Nat} {cj : DeletionCall}
      (found : (w.calls ++ [(⟨delayDays, .begun⟩ : DeletionCall)])[j]? = some cj)
      (updated : cj.phase.isUpdated) : w.calls[j]? = some cj := by
    rcases Calls.getElem?_began found with ⟨-, rfl⟩ | old
    · cases updated
    · exact old
  exact ⟨sound.job, sound.done, fun j cj found updated => sound.updated j cj (was found updated) updated,
    fun j k cj ck first second updated updated' =>
      sound.one j k cj ck (was first updated) (was second updated') updated updated'⟩

theorem Sound.update (here : w.calls[i]? = some call) {row : TenantRow}
    (alive : ∀ row, w.tenant = some row → row.status ∈ [.active, .suspended])
    (deleted : row.status = .deleted) (at' : Time) :
    (DeletionWorld.enter { w with tenant := some row } i call (.updated at')).Sound := by
  obtain ⟨noJob, noCall⟩ := sound.alive alive
  have own {j : Nat} {cj : DeletionCall}
      (found : (w.enter i call (.updated at')).calls[j]? = some cj)
      (updated : cj.phase.isUpdated) : j = i := by
    rcases Calls.getElem?_replaced here found with ⟨same, -⟩ | ⟨-, old⟩
    · exact same
    · exact absurd ((noCall j cj old).symm.trans updated) nofun
  refine ⟨fun job has => absurd (noJob.symm.trans has) nofun, fun job row has =>
    absurd (noJob.symm.trans has) nofun, fun _ _ _ _ => ⟨noJob, row, rfl, deleted⟩,
    fun j k cj ck first second updated updated' => ?_⟩
  rw [own first updated, own second updated']

theorem Sound.withJob {old : PurgeJob} (has : w.job = some old) (job : PurgeJob)
    (done : job.state.done → ∀ row, w.tenant = some row → row.status = .purged) :
    (w.withJob job).Sound := by
  refine ⟨fun _ _ => sound.job old has, fun job' row is finished found => ?_,
    fun i call here updated => ?_, sound.one⟩
  · cases is
    exact done finished row found
  · exact absurd ((sound.updated i call here updated).1.symm.trans has) nofun

theorem Sound.enqueue (here : w.calls[i]? = some call)
    (updated : call.phase.isUpdated) {job : PurgeJob} (fresh : job.state = .waiting)
    (at' : Time) : ((w.withJob job).enter i call (.enqueued at')).Sound := by
  obtain ⟨-, row, found, deleted⟩ := sound.updated i call here updated
  have noCall {j : Nat} {cj : DeletionCall}
      (found : (w.enter i call (.enqueued at')).calls[j]? = some cj) : cj.phase.isUpdated = false := by
    rcases Calls.getElem?_replaced here found with ⟨-, rfl⟩ | ⟨other, old⟩
    · rfl
    · exact eq_false_iff.mpr fun updated' => other (sound.one j i cj call old here updated' updated)
  refine ⟨fun _ _ => ⟨row, found, .inl deleted⟩, fun job' row is finished => ?_,
    fun j cj here' updated' => ?_, fun j k cj ck first second updated' => ?_⟩
  · cases is
    rw [fresh] at finished
    cases finished
  · exact absurd ((noCall here').symm.trans updated') nofun
  · exact absurd ((noCall first).symm.trans updated') nofun

theorem Sound.markPurged {old : PurgeJob} (has : w.job = some old) (job : PurgeJob) :
    (((w.updateTenant [.deleted] fun row => { row with status := .purged }).getD w).withJob
      job).Sound := by
  obtain ⟨row, found, gone⟩ := sound.job old has
  rcases gone with deleted | purged
  · have updated : w.updateTenant [.deleted] (fun row => { row with status := .purged }) =
        some { w with tenant := some { row with status := .purged } } := by
      simp only [updateTenant, found, deleted]
      rfl
    rw [updated, getD_some]
    refine ⟨fun _ _ => ⟨_, rfl, .inr rfl⟩, fun job' row' is finished found' => ?_,
      fun i call here updated => ?_, sound.one⟩
    · obtain rfl := Option.some.inj found'
      rfl
    · exact absurd ((sound.updated i call here updated).1.symm.trans has) nofun
  · have refused : w.updateTenant [.deleted] (fun row => { row with status := .purged }) = none := by
      simp only [updateTenant, found, purged]
      rfl
    rw [refused, getD_none]
    refine sound.withJob has job fun _ row' found' => ?_
    obtain rfl := Option.some.inj (found.symm.trans found')
    exact purged

theorem Sound.removeJob : ({ w with job := none } : DeletionWorld).Sound :=
  ⟨nofun, nofun, fun i call here updated => ⟨rfl, (sound.updated i call here updated).2⟩, sound.one⟩

end

theorem loaded_isUpdated (w : DeletionWorld) (call : DeletionCall) :
    (w.loaded call).isUpdated = false := by
  unfold loaded
  split
  · split
    · rfl
    · rfl
  · rfl

theorem purgeState_done (found : w.tenant = some row)
    (gone : row.status = .deleted ∨ row.status = .purged) (done : w.purgeState.done) :
    row.status = .purged := by
  refine gone.resolve_left fun deleted => ?_
  simp only [purgeState, found, deleted] at done
  cases done

theorem afterFailure_done (w : DeletionWorld) (job : PurgeJob) :
    (w.afterFailure job).state.done = false := by
  unfold afterFailure
  dsimp only
  split
  · rfl
  · rfl

theorem Sound.next (sound : w.Sound) (stepped : step w l = some w') : w'.Sound := by
  have only {row : TenantRow} {statuses : List LifecycleStatus} (found : w.tenant = some row)
      (may : row.status ∈ statuses) : ∀ row', w.tenant = some row' → row'.status ∈ statuses := by
    intro row' found'
    rwa [← Option.some.inj (found.symm.trans found')]
  cases step_cases stepped with
  | provision absent =>
    refine sound.tenant _ fun row found => ?_
    rw [absent] at found
    cases found
  | suspendTenant found may =>
    exact sound.tenant _ (only found (mem_cons.mpr (.inl (mem_singleton.mp may))))
  | reactivateTenant found may => exact sound.tenant _ (only found (mem_cons_of_mem _ may))
  | scheduleTenantDeletion delayDays => exact sound.began delayDays
  | @load _ call here => exact sound.enter here (w.loaded_isUpdated call)
  | @update _ _ at' _ here _ found may => exact sound.update here (only found may) rfl at'
  | refuse here | audit here | fail here => exact sound.enter here rfl
  | @enqueue i call at' here phase =>
    have updated : call.phase.isUpdated := by rw [phase]; rfl
    rw [(sound.updated i call here updated).1]
    exact sound.enqueue here updated rfl at'
  | startPurge has => exact sound.withJob has _ nofun
  | @readStatus job has =>
    refine sound.withJob has _ fun done row found => ?_
    obtain ⟨row', found', gone⟩ := sound.job job has
    obtain rfl := Option.some.inj (found.symm.trans found')
    exact purgeState_done found gone done
  | markPurged has => exact sound.markPurged has _
  | @finishPurge job has finishing =>
    exact sound.withJob has _ fun _ row found =>
      sound.done job row has (by rw [finishing]; rfl) found
  | @purgeFails job _ has =>
    exact sound.withJob has _ fun done => absurd ((w.afterFailure_done job).symm.trans done) nofun
  | removeJob => exact sound.removeJob
  | tick time => exact ⟨sound.job, sound.done, sound.updated, sound.one⟩

/-! ### What is kept -/

theorem Attended.of_alive (alive : ∀ row, w.tenant = some row → row.status ≠ .deleted) :
    w.Attended :=
  fun row found deleted => absurd deleted (alive row found)

theorem Attended.enter (attended : w.Attended) (here : w.calls[i]? = some call)
    (other : call.phase.isUpdated = false) (phase : DeletionPhase) :
    (w.enter i call phase).Attended := by
  intro row found deleted
  rcases attended row found deleted with ⟨j, cj, found', updated⟩ | has
  · refine .inl ⟨j, cj, ?_, updated⟩
    have different : i ≠ j := by
      rintro rfl
      obtain rfl := Option.some.inj (here.symm.trans found')
      exact absurd (other.symm.trans updated) nofun
    exact (getElem?_set_ne different).trans found'
  · exact .inr has

theorem Attended.withJob {job : PurgeJob} (live : job.state.live) : (w.withJob job).Attended :=
  fun _ _ _ => .inr ⟨job, rfl, live⟩

theorem Attended.next (sound : w.Sound) (attended : w.Attended) (lossless : w.Lossless l)
    (stepped : step w l = some w') : w'.Attended := by
  cases step_cases stepped with
  | provision | suspendTenant | reactivateTenant =>
    refine .of_alive fun row found => ?_
    cases found
    exact nofun
  | scheduleTenantDeletion delayDays =>
    intro row found deleted
    rcases attended row found deleted with ⟨j, cj, here, updated⟩ | has
    · have inside : j < w.calls.length := (List.getElem?_eq_some_iff.mp here).1
      exact .inl ⟨j, cj, (getElem?_append_left inside).trans here, updated⟩
    · exact .inr has
  | load here phase | refuse here phase | audit here phase =>
    exact attended.enter here (by rw [phase]; rfl) _
  | @update i _ _ _ here => exact fun _ _ _ => .inl ⟨i, _, calls_enter here _, rfl⟩
  | @enqueue i call _ here phase =>
    have updated : call.phase.isUpdated := by rw [phase]; rfl
    rw [(sound.updated i call here updated).1]
    exact fun _ _ _ => .inr ⟨_, rfl, rfl⟩
  | @fail _ call here => exact attended.enter here (lossless call here) _
  | startPurge => exact .withJob rfl
  | readStatus =>
    intro row found deleted
    refine .inr ⟨_, rfl, ?_⟩
    have found : w.tenant = some row := found
    simp only [purgeState, found, deleted]
    rfl
  | markPurged => exact .withJob rfl
  | @finishPurge job has finishing =>
    refine .of_alive fun row found => ?_
    rw [sound.done job row has (by rw [finishing]; rfl) found]
    exact nofun
  | @purgeFails job phase has active =>
    intro row found deleted
    refine .inr ⟨_, rfl, ?_⟩
    unfold afterFailure
    rw [if_pos (lossless job phase row has active found deleted)]
    rfl
  | @removeJob job has completed =>
    refine .of_alive fun row found => ?_
    rw [sound.done job row has (by rw [completed]; rfl) found]
    exact nofun
  | tick time => exact attended

theorem Attended.lossless (sound : w.Sound) (kept : ∀ w', step w l = some w' → w'.Attended) :
    w.Lossless l := by
  cases l with
  | fail i =>
    intro call here
    refine eq_false_iff.mpr fun updated => ?_
    obtain ⟨noJob, row, found, deleted⟩ := sound.updated i call here updated
    have stepped : step w (.fail i) = some (w.enter i call .failed) := by
      simp only [step, here]
      split
      · next phase =>
        rw [phase] at updated
        cases updated
      · next phase =>
        rw [phase] at updated
        cases updated
      · rfl
    rcases kept _ stepped row found deleted with ⟨j, cj, here', updated'⟩ | ⟨job, has, -⟩
    · rcases Calls.getElem?_replaced here here' with ⟨-, rfl⟩ | ⟨other, old⟩
      · cases updated'
      · exact other (sound.one j i cj call old here updated' updated)
    · exact absurd (noJob.symm.trans has) nofun
  | purgeFails =>
    intro job phase row has active found deleted
    by_contra last
    have stepped : step w .purgeFails = some (w.withJob (w.afterFailure job)) := by
      simp only [step, has, active]
    rcases kept _ stepped row found deleted with ⟨i, call, here, updated⟩ | ⟨job', has', live⟩
    · exact absurd ((sound.updated i call here updated).1.symm.trans has) nofun
    · cases has'
      unfold afterFailure at live
      rw [if_neg last] at live
      cases live
  | _ => trivial

/-- Throughout every run a purge job is for a tenant that is deleted or purged, one that is done
has purged it, and at most one call is about to add a job, when there is none. -/
theorem purge_job_sound (now : Time) (labels : List DeletionLabel) :
    Always step Sound (DeletionWorld.before now) labels :=
  Always.of_invariant (fun sound stepped => sound.next stepped) id (Sound.before now)

/-- A tenant that is deleted has a purge job or can be given one, throughout a run, exactly when
no call fails between its update and its job and no job of a tenant that is still deleted fails
for good. -/
theorem deletion_kept_iff (now : Time) (labels : List DeletionLabel) :
    Always step Kept (DeletionWorld.before now) labels ↔
      Guarded step Lossless (DeletionWorld.before now) labels := by
  have same : Kept = Attended := funext fun w => propext kept_iff
  rw [same]
  refine guarded_iff (I := Sound) (fun sound _ stepped _ => sound.next stepped) ?_
    (Sound.before now) nofun
  intro w l sound attended
  exact ⟨fun lossless w' stepped => attended.next sound lossless stepped,
    fun kept => Attended.lossless sound kept⟩

def abandoned (w : DeletionWorld) : Bool :=
  w.tenant.any (·.status == .deleted) && w.job.all (!·.state.live) &&
    w.calls.all (!·.phase.isUpdated)

theorem not_kept (abandoned : w.abandoned) : ¬w.Kept := by
  obtain ⟨here, noCall⟩ := and_eq_true_iff.mp abandoned
  obtain ⟨deleted, noJob⟩ := and_eq_true_iff.mp here
  obtain ⟨row, found, deleted⟩ := (Option.any_eq_true _ _).mp deleted
  rw [kept_iff]
  intro attended
  rcases attended row found (eq_of_beq deleted) with ⟨i, call, here, updated⟩ | ⟨job, has, live⟩
  · have other := List.all_eq_true.mp noCall call (mem_of_getElem? here)
    rw [updated] at other
    cases other
  · rw [has, all_some, live] at noJob
    cases noJob

end DeletionWorld

/-! ## Deletions that are lost -/

namespace DeletionSample

/-- The queue refuses the job, and the call is made again. -/
def unqueued : List DeletionLabel :=
  [.provision, .scheduleTenantDeletion 30, .load 0, .update 0, .fail 0,
    .scheduleTenantDeletion 30, .load 1]

def attempt (wait : Nat) : List DeletionLabel := [.tick wait, .startPurge, .readStatus, .purgeFails]

/-- All attempts of the job fail. -/
def exhausted : List DeletionLabel :=
  [.provision, .scheduleTenantDeletion 1, .load 0, .update 0, .enqueue 0, .audit 0] ++
    [86400000, 60000, 120000, 240000, 480000].flatMap attempt

end DeletionSample

open DeletionSample DeletionWorld in
/-- A tenant stays deleted, and is never purged, when the queue refuses the job, and when all
attempts of the job fail. -/
theorem deletion_lost :
    (∃ w, run step (before 0) unqueued = some w ∧ ¬w.Kept) ∧
      ∃ w, run step (before 0) exhausted = some w ∧ ¬w.Kept := by
  constructor
  · have lost : (run step (before 0) unqueued).any abandoned := by decide +kernel
    obtain ⟨w, ran, lost⟩ := (Option.any_eq_true _ _).mp lost
    exact ⟨w, ran, not_kept lost⟩
  · have lost : (run step (before 0) exhausted).any abandoned := by decide +kernel
    obtain ⟨w, ran, lost⟩ := (Option.any_eq_true _ _).mp lost
    exact ⟨w, ran, not_kept lost⟩

end OpenWind
