import OpenWind.Errors
import OpenWind.Lib.Runs

/-!
# Poll jobs of a connector

A poll job fetches the events after the stored cursor, adds an inbound job for each of them and
then stores the next cursor.  The inbound job is named after the poll job and the place of the
event in what was fetched, with a colon between them, and the queue refuses such a name: an
attempt with an event to add fails there, and the cursor stays.
-/

open List Option

namespace OpenWind

open Runs

def MAX_EVENTS_PER_POLL : Nat := 1000

def DEFAULT_MAX_OUTPUT_BYTES : Nat := 256 * 1024

structure PollSource (E : Type) where
  after : Option String → E → Bool
  jsonBytes : E → Nat

/-- A job of the queue `connector-inbound`. -/
structure PolledJob (E : Type) where
  jobId : String
  event : E
  deriving DecidableEq

/-- The row of `connector_credentials`. -/
structure PollInstallation where
  cursor : Option String
  disabledAt : Option Time
  deriving DecidableEq

/-- How far an attempt has come. -/
inductive PollAttempt (E : Type)
  | idle
  /-- It has read the installation and calls `fetch`. -/
  | fetching (bullJobId : String) (cursorBeforePoll : Option String)
  /-- These events of the ones that it fetched are left, the first of them at the index. -/
  | adding (bullJobId : String) (index : Nat) (events : List E) (nextCursor : Option String)
  deriving DecidableEq

structure PollWorld (E : Type) where
  occurred : List E
  /-- The events that some fetch returned. -/
  fetched : List E
  installation : Option PollInstallation
  queue : List (PolledJob E)
  attempt : PollAttempt E
  deriving DecidableEq

inductive PollLabel (E : Type)
  | occur (event : E)
  | setDisabled (disabledAt : Option Time)
  | start (bullJobId : String) (active resolvable : Bool)
  | fetch (events : List E) (nextCursor : Option String)
  | add
  | advance
  | throws

def derivePollEventId (bullJobId : String) (index : Nat) : String :=
  bullJobId ++ ":" ++ toString index

namespace PollWorld

variable {E : Type} [DecidableEq E]

def enqueue (w : PollWorld E) (job : PolledJob E) : PollWorld E :=
  { w with queue := if w.queue.any (·.jobId == job.jobId) then w.queue else w.queue ++ [job] }

/-- The attempt begins, or has nothing to do. -/
def start (w : PollWorld E) (bullJobId : String) (active resolvable : Bool) : PollWorld E :=
  match w.installation with
  | none => w
  | some installation =>
    if active && resolvable && installation.disabledAt.isNone then
      { w with attempt := .fetching bullJobId installation.cursor }
    else w

def fetch (source : PollSource E) (w : PollWorld E) (bullJobId : String)
    (cursorBeforePoll : Option String) (events : List E) (nextCursor : Option String) :
    Option (PollWorld E) :=
  if events.Perm (w.occurred.filter (source.after cursorBeforePoll)) then
    some { w with
      fetched := w.fetched ++ events
      attempt := if MAX_EVENTS_PER_POLL < events.length then .idle
        else .adding bullJobId 0 events nextCursor }
  else none

def step (source : PollSource E) (w : PollWorld E) : PollLabel E → Option (PollWorld E)
  | .occur event => some { w with occurred := w.occurred ++ [event] }
  | .setDisabled disabledAt =>
    some { w with installation := w.installation.map fun i => { i with disabledAt } }
  | .start bullJobId active resolvable =>
    match w.attempt with
    | .idle => some (w.start bullJobId active resolvable)
    | _ => none
  | .fetch events nextCursor =>
    match w.attempt with
    | .fetching bullJobId cursorBeforePoll =>
      w.fetch source bullJobId cursorBeforePoll events nextCursor
    | _ => none
  | .add =>
    match w.attempt with
    | .adding bullJobId index (event :: rest) nextCursor =>
      if DEFAULT_MAX_OUTPUT_BYTES < source.jsonBytes event then some { w with attempt := .idle }
      else if customIdAllowed (derivePollEventId bullJobId index) then
        some { w.enqueue ⟨derivePollEventId bullJobId index, event⟩ with
          attempt := .adding bullJobId (index + 1) rest nextCursor }
      -- `connectorInboundQueue.add` throws
      else some { w with attempt := .idle }
    | _ => none
  | .advance =>
    match w.attempt with
    | .adding _ _ [] nextCursor =>
      some { w with
        installation := match nextCursor with
          | none => w.installation
          | some cursor => w.installation.map fun i => { i with cursor := some cursor }
        attempt := .idle }
    | _ => none
  | .throws => if w.attempt = .idle then none else some { w with attempt := .idle }

def fresh (installation : Option PollInstallation) : PollWorld E :=
  ⟨[], [], installation, [], .idle⟩

/-! ## The property -/

def Queued (w : PollWorld E) (event : E) : Prop := ∃ job ∈ w.queue, job.event = event

def NoneLost (source : PollSource E) (w : PollWorld E) : Prop :=
  ∀ installation ∈ w.installation, ∀ event ∈ w.fetched,
    source.after installation.cursor event = false → w.Queued event

theorem derivePollEventId_refused (bullJobId : String) (index : Nat) :
    customIdAllowed (derivePollEventId bullJobId index) = false := by
  unfold customIdAllowed derivePollEventId
  have colon : ':' ∈ (bullJobId ++ ":" ++ toString index).toList := by
    rw [String.toList_append, String.toList_append]
    exact mem_append_left _ (mem_append_right _ (mem_singleton_self _))
  rw [contains_iff_mem.mpr colon]
  rfl

/-! ## The invariant -/

/-- What the attempt under way relies on. -/
def Underway (w : PollWorld E) : PollAttempt E → Prop
  | .idle => True
  | .fetching _ cursorBeforePoll =>
    ∃ installation, w.installation = some installation ∧ installation.cursor = cursorBeforePoll
  | .adding _ _ events _ => ∀ event ∈ w.fetched, event ∈ events ∨ w.Queued event

structure Sound (source : PollSource E) (w : PollWorld E) : Prop where
  lost : w.NoneLost source
  known : ∀ event ∈ w.fetched, event ∈ w.occurred
  underway : w.Underway w.attempt

variable {source : PollSource E} {w w' : PollWorld E}

omit [DecidableEq E] in
theorem Sound.fresh (installation : Option PollInstallation) :
    (PollWorld.fresh installation : PollWorld E).Sound source :=
  ⟨nofun, nofun, trivial⟩

omit [DecidableEq E] in
theorem Sound.giveUp (sound : w.Sound source) : Sound source { w with attempt := .idle } :=
  ⟨sound.lost, sound.known, trivial⟩

omit [DecidableEq E] in
theorem Sound.start (sound : w.Sound source) (bullJobId : String) (active resolvable : Bool) :
    (w.start bullJobId active resolvable).Sound source := by
  unfold PollWorld.start
  split
  · exact sound
  · next installation stored =>
    split
    · exact ⟨sound.lost, sound.known, installation, stored, rfl⟩
    · exact sound

theorem Sound.fetch (sound : w.Sound source) {bullJobId : String}
    {cursorBeforePoll nextCursor : Option String} {events : List E}
    (attempt : w.attempt = .fetching bullJobId cursorBeforePoll)
    (stepped : w.fetch source bullJobId cursorBeforePoll events nextCursor = some w') :
    w'.Sound source := by
  obtain ⟨installation, stored, rfl⟩ :
      ∃ installation, w.installation = some installation ∧
        installation.cursor = cursorBeforePoll := by
    have underway := sound.underway
    rw [attempt] at underway
    exact underway
  unfold PollWorld.fetch at stepped
  split at stepped
  case isFalse => cases stepped
  case isTrue all =>
    cases stepped
    have fetched : ∀ event, event ∈ events ↔
        event ∈ w.occurred ∧ source.after installation.cursor event := by
      intro event
      rw [all.mem_iff, mem_filter]
    refine ⟨?_, ?_, ?_⟩
    · intro other same event member passed
      have eq : installation = other := Option.some.inj (stored.symm.trans same)
      rcases mem_append.mp member with before | now
      · exact sound.lost other same event before passed
      · rw [← eq, ((fetched event).mp now).2] at passed
        cases passed
    · intro event member
      rcases mem_append.mp member with before | now
      · exact sound.known event before
      · exact ((fetched event).mp now).1
    · dsimp only
      split
      · trivial
      · intro event member
        rcases mem_append.mp member with before | now
        · cases later : source.after installation.cursor event with
          | true => exact .inl ((fetched event).mpr ⟨sound.known event before, later⟩)
          | false => exact .inr (sound.lost installation stored event before later)
        · exact .inl now

theorem Sound.next (sound : w.Sound source) {label : PollLabel E}
    (stepped : step source w label = some w') : w'.Sound source := by
  revert stepped
  fun_cases step source w label <;> intro stepped <;> try cases stepped
  case case1.refl =>
    refine ⟨sound.lost, fun other member => mem_append_left _ (sound.known other member), ?_⟩
    exact sound.underway
  case case2.refl disabledAt =>
    refine ⟨?_, sound.known, ?_⟩
    · intro installation stored event member passed
      obtain ⟨before, was, rfl⟩ := map_eq_some_iff.mp stored
      exact sound.lost before was event member passed
    · have underway := sound.underway
      dsimp only
      cases attempt : w.attempt with
      | idle => trivial
      | fetching bullJobId cursorBeforePoll =>
        rw [attempt] at underway
        obtain ⟨installation, stored, cursor⟩ := underway
        exact ⟨{ installation with disabledAt }, map_eq_some_iff.mpr ⟨_, stored, rfl⟩, cursor⟩
      | adding bullJobId index events nextCursor =>
        rw [attempt] at underway
        exact underway
  case case3.refl bullJobId active resolvable _ => exact sound.start bullJobId active resolvable
  case case5 attempt => exact sound.fetch attempt stepped
  case case7.refl => exact sound.giveUp
  case case8.refl refused =>
    rw [derivePollEventId_refused] at refused
    cases refused
  case case9.refl => exact sound.giveUp
  case case11.refl attempt =>
    have underway := sound.underway
    rw [attempt] at underway
    refine ⟨?_, sound.known, trivial⟩
    intro installation stored event member passed
    exact (underway event member).resolve_left not_mem_nil
  case case14.refl => exact sound.giveUp

/-- Whatever the attempts, their exceptions and the order of what they fetch, the stored cursor
passes no event that some fetch returned and that is not queued. -/
theorem polled_events_queued (source : PollSource E) (installation : Option PollInstallation)
    (labels : List (PollLabel E)) :
    Always (step source) (NoneLost source) (fresh installation) labels :=
  Always.of_invariant (fun sound stepped => sound.next stepped) Sound.lost (.fresh installation)

end PollWorld

end OpenWind
