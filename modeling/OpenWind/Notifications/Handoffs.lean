import OpenWind.Lib.Runs
import OpenWind.Schema
import Mathlib.Data.List.Perm.Subperm

/-!
# Notifications that are handed off

A notification has a job that hands it off to an outbound service.  An attempt claims the
notification, hands it off and records it as sent; a job that stalls is attempted again while the
first attempt goes on.  When the attempts of a job are exhausted, its handler marks the notification
as failed, and reports it with an event unless it is the notification of such an event.
-/

open List Runs

namespace OpenWind

namespace Handoffs

inductive OutboundStatus
  | pending | attempted | sent | failed
  deriving DecidableEq

structure Notification where
  id : Id
  type : String
  outboundStatus : OutboundStatus := .pending
  attempts : Nat
  attemptsMade : Nat := 0
  lock : Option Nat := none
  finished : Bool := false
  deriving DecidableEq

inductive AttemptPhase
  | started | claimed | returning
  deriving DecidableEq

structure Attempt where
  notificationId : Id
  token : Nat
  phase : AttemptPhase
  deriving DecidableEq

inductive HandlerPhase
  | waiting | marked | reported | ended
  deriving DecidableEq

/-- The handler of an exhausted job. -/
structure Handler where
  notificationId : Id
  phase : HandlerPhase
  deriving DecidableEq

structure World where
  notifications : List Notification := []
  attempts : List Attempt := []
  handlers : List Handler := []
  tokens : Nat := 0
  deriving DecidableEq

inductive Label
  | add (id : Id) (type : String) (attempts : Nat)
  | start (id : Id)
  /-- The tenant is not active. -/
  | skip (i : Nat)
  | claim (i : Nat)
  /-- The service has accepted the notification. -/
  | record (i : Nat)
  | complete (i : Nat)
  | throw (i : Nat)
  | markFailed (j : Nat)
  | report (j : Nat)
  /-- A transaction of a handler throws. -/
  | abandon (j : Nat)

/-! ## Steps -/

namespace Notification

def locked (token : Nat) (row : Notification) : Notification :=
  if row.finished then row else { row with lock := some token }

def claim (row : Notification) : Notification :=
  if row.outboundStatus = .sent then row else { row with outboundStatus := .attempted }

def completed (token : Nat) (row : Notification) : Notification :=
  if row.lock = some token then { row with lock := none, finished := true } else row

def exhausts (token : Nat) (row : Notification) : Bool :=
  row.lock = some token && decide (row.attempts ≤ row.attemptsMade + 1)

def thrown (token : Nat) (row : Notification) : Notification :=
  if row.lock = some token then { row with
    lock := none
    attemptsMade := row.attemptsMade + 1
    finished := row.finished || row.exhausts token }
  else row

end Notification

namespace World

variable (world : World)

def modify (id : Id) (f : Notification → Notification) : World :=
  { world with
    notifications := world.notifications.map fun row => if row.id = id then f row else row }

def has (id : Id) (p : Notification → Bool) : Bool :=
  world.notifications.any fun row => row.id = id && p row

def setAttempt (i : Nat) (attempt : Attempt) : World :=
  { world with attempts := world.attempts.set i attempt }

def setHandler (j : Nat) (handler : Handler) : World :=
  { world with handlers := world.handlers.set j handler }

def throw (i : Nat) (attempt : Attempt) : World :=
  let ended : World := { world with
    attempts := world.attempts.eraseIdx i
    handlers := if world.has attempt.notificationId (·.exhausts attempt.token)
      then world.handlers ++ [⟨attempt.notificationId, .waiting⟩] else world.handlers }
  ended.modify attempt.notificationId (Notification.thrown attempt.token)

def handleFailedJob (j : Nat) (id : Id) : World :=
  let phase : HandlerPhase := if world.has id (·.type = "system.error") then .ended else .marked
  (world.setHandler j ⟨id, phase⟩).modify id fun row => { row with outboundStatus := .failed }

/-- A label that is not enabled changes nothing. -/
def next : Label → World
  | .add id type attempts =>
    if world.has id fun _ => true then world
    else { world with notifications := world.notifications ++ [{ id, type, attempts }] }
  | .start id =>
    if world.has id (!·.finished) then
      World.modify { world with
        attempts := world.attempts ++ [⟨id, world.tokens, .started⟩]
        tokens := world.tokens + 1 } id (Notification.locked world.tokens)
    else world
  | .skip i =>
    match world.attempts[i]? with
    | some ⟨id, token, .started⟩ => world.setAttempt i ⟨id, token, .returning⟩
    | _ => world
  | .claim i =>
    match world.attempts[i]? with
    | some ⟨id, token, .started⟩ =>
      let claimed := world.has id (·.outboundStatus != .sent)
      (world.setAttempt i ⟨id, token, if claimed then .claimed else .returning⟩).modify id
        Notification.claim
    | _ => world
  | .record i =>
    match world.attempts[i]? with
    | some ⟨id, token, .claimed⟩ =>
      (world.setAttempt i ⟨id, token, .returning⟩).modify id fun row =>
        { row with outboundStatus := .sent }
    | _ => world
  | .complete i =>
    match world.attempts[i]? with
    | some ⟨id, token, .returning⟩ =>
      World.modify { world with attempts := world.attempts.eraseIdx i } id
        (Notification.completed token)
    | _ => world
  | .throw i =>
    match world.attempts[i]? with
    | some attempt => world.throw i attempt
    | none => world
  | .markFailed j =>
    match world.handlers[j]? with
    | some ⟨id, .waiting⟩ => world.handleFailedJob j id
    | _ => world
  | .report j =>
    match world.handlers[j]? with
    | some ⟨id, .marked⟩ => world.setHandler j ⟨id, .reported⟩
    | _ => world
  | .abandon j =>
    match world.handlers[j]? with
    | some ⟨id, .waiting⟩ => world.setHandler j ⟨id, .ended⟩
    | some ⟨id, .marked⟩ => world.setHandler j ⟨id, .ended⟩
    | _ => world

/-- The notifications of the `system.error` events. -/
def reports : List Id :=
  (world.handlers.filter (·.phase = .reported)).map (·.notificationId)

end World

def step (world : World) (label : Label) : Option World := some (world.next label)

/-! ## The properties and the condition -/

def Keeps (world world' : World) : Prop :=
  ∀ row ∈ world.notifications, row.outboundStatus = .sent →
    (∃ row' ∈ world'.notifications, row'.id = row.id ∧ row'.outboundStatus = .sent) ∧
    (row.id ∈ world'.reports → row.id ∈ world.reports)

def isUnsent (world : World) : Label → Bool
  | .markFailed j => world.handlers[j]?.all fun handler =>
      !world.has handler.notificationId (·.outboundStatus = .sent)
  | .report j => world.handlers[j]?.all fun handler =>
      !world.has handler.notificationId (·.outboundStatus = .sent)
  | _ => true

/-! ## Safety -/

structure Mild (f : Notification → Notification) : Prop where
  id : ∀ row, (f row).id = row.id
  type : ∀ row, (f row).type = row.type
  finished : ∀ row, row.finished = true → (f row).finished = true
  unlocked : ∀ row, (row.finished = true → row.lock = none) →
    (f row).finished = true → (f row).lock = none

structure Sound (world : World) : Prop where
  keyed : (world.notifications.map (·.id)).Nodup
  unlocked : ∀ row ∈ world.notifications, row.finished = true → row.lock = none
  once : (world.handlers.map (·.notificationId)).Nodup
  finished : ∀ handler ∈ world.handlers, ∃ row ∈ world.notifications,
    row.id = handler.notificationId ∧ row.finished = true
  typed : ∀ handler ∈ world.handlers, handler.phase = .marked ∨ handler.phase = .reported →
    ∃ row ∈ world.notifications, row.id = handler.notificationId ∧ row.type ≠ "system.error"

variable {world world' : World} {label : Label} {row : Notification} {id token i j : Nat}
  {f : Notification → Notification} {p : Notification → Bool} {handler : Handler}

theorem has_iff : world.has id p ↔ ∃ row ∈ world.notifications, row.id = id ∧ p row := by
  unfold World.has
  simp only [any_eq_true, Bool.and_eq_true, decide_eq_true_eq]

theorem mild_locked (token : Nat) : Mild (Notification.locked token) := by
  refine ⟨fun row => ?_, fun row => ?_, fun row => ?_, fun row => ?_⟩ <;>
    unfold Notification.locked <;> split <;> simp_all

theorem mild_claim : Mild Notification.claim := by
  refine ⟨fun row => ?_, fun row => ?_, fun row => ?_, fun row => ?_⟩ <;>
    unfold Notification.claim <;> split <;> simp

theorem mild_completed (token : Nat) : Mild (Notification.completed token) := by
  refine ⟨fun row => ?_, fun row => ?_, fun row => ?_, fun row => ?_⟩ <;>
    unfold Notification.completed <;> split <;> simp

theorem mild_thrown (token : Nat) : Mild (Notification.thrown token) := by
  refine ⟨fun row => ?_, fun row => ?_, fun row => ?_, fun row => ?_⟩ <;>
    unfold Notification.thrown <;> split <;> simp_all

theorem mild_status (status : OutboundStatus) :
    Mild fun row => { row with outboundStatus := status } :=
  ⟨fun _ => rfl, fun _ => rfl, fun _ finished => finished, fun _ unlocked => unlocked⟩

theorem mem_modify (mem : row ∈ world.notifications) :
    (if row.id = id then f row else row) ∈ (world.modify id f).notifications :=
  mem_map_of_mem mem

theorem Mild.at (mild : Mild f) (id : Id) : Mild fun row => if row.id = id then f row else row := by
  refine ⟨fun row => ?_, fun row => ?_, fun row => ?_, fun row => ?_⟩ <;> split
  · exact mild.id row
  · rfl
  · exact mild.type row
  · rfl
  · exact mild.finished row
  · exact fun finished => finished
  · exact mild.unlocked row
  · exact fun unlocked => unlocked

section

variable (sound : Sound world)

include sound

theorem Sound.modify (mild : Mild f) : Sound (world.modify id f) := by
  have mild := mild.at id
  refine ⟨?_, ?_, sound.once, fun handler mem => ?_, fun handler mem phase => ?_⟩
  · have ids : (world.modify id f).notifications.map (·.id) = world.notifications.map (·.id) := by
      unfold World.modify
      rw [map_map]
      exact map_congr_left fun row _ => mild.id row
    exact ids ▸ sound.keyed
  · exact forall_mem_map.mpr fun row mem => mild.unlocked row (sound.unlocked row mem)
  · obtain ⟨row, mem, is, finished⟩ := sound.finished handler mem
    exact ⟨_, mem_modify mem, (mild.id row).trans is, mild.finished row finished⟩
  · obtain ⟨row, mem, is, typed⟩ := sound.typed handler mem phase
    exact ⟨_, mem_modify mem, (mild.id row).trans is, (mild.type row).symm ▸ typed⟩

theorem Sound.elsewhere (attempts : List Attempt) (tokens : Nat) :
    Sound { world with attempts, tokens } :=
  ⟨sound.keyed, sound.unlocked, sound.once, sound.finished, sound.typed⟩

theorem Sound.setHandler {phase : HandlerPhase}
    (found : world.handlers[j]? = some handler)
    (typed : phase = .marked ∨ phase = .reported → ∃ row ∈ world.notifications,
      row.id = handler.notificationId ∧ row.type ≠ "system.error") :
    Sound (world.setHandler j ⟨handler.notificationId, phase⟩) := by
  have ids : (world.setHandler j ⟨handler.notificationId, phase⟩).handlers.map (·.notificationId) =
      world.handlers.map (·.notificationId) := by
    obtain ⟨inside, rfl⟩ := List.getElem?_eq_some_iff.mp found
    unfold World.setHandler
    rw [map_set]
    refine (congrArg _ (getElem_map _).symm).trans (set_getElem_self ?_)
    rwa [length_map]
  refine ⟨sound.keyed, sound.unlocked, ids ▸ sound.once, fun other mem => ?_,
    fun other mem phase' => ?_⟩
  · rcases mem_or_eq_of_mem_set mem with old | rfl
    · exact sound.finished other old
    · exact sound.finished handler (mem_of_getElem? found)
  · rcases mem_or_eq_of_mem_set mem with old | rfl
    · exact sound.typed other old phase'
    · exact typed phase'

theorem Sound.throw (attempt : Attempt) : Sound (world.throw i attempt) := by
  have modified : Sound (World.modify { world with attempts := world.attempts.eraseIdx i }
      attempt.notificationId (Notification.thrown attempt.token)) :=
    (sound.elsewhere _ _).modify (mild_thrown attempt.token)
  unfold World.throw
  dsimp only
  split
  · next exhausts =>
    obtain ⟨row, mem, is, exhausts⟩ := has_iff.mp exhausts
    have held := Bool.and_eq_true_iff.mp exhausts
    have locked : row.lock = some attempt.token := of_decide_eq_true held.1
    refine ⟨modified.keyed, modified.unlocked, ?_, ?_, ?_⟩
    · change ((world.handlers ++ [Handler.mk _ _]).map Handler.notificationId).Nodup
      rw [map_append, map_singleton, ← concat_eq_append]
      refine sound.once.concat fun handled => ?_
      obtain ⟨handler, mem', same⟩ := mem_map.mp handled
      obtain ⟨other, mem', is', finished⟩ := sound.finished handler mem'
      have eq := inj_on_of_nodup_map sound.keyed mem' mem (is'.trans (same.trans is.symm))
      rw [sound.unlocked row mem (eq ▸ finished)] at locked
      cases locked
    · refine forall_mem_append.mpr ⟨modified.finished, forall_mem_singleton.mpr ?_⟩
      refine ⟨_, mem_modify mem, ?_, ?_⟩
      · rw [if_pos is]
        exact ((mild_thrown _).id row).trans is
      · rw [if_pos is, Notification.thrown, if_pos locked]
        exact Bool.or_eq_true_iff.mpr (.inr exhausts)
    · refine forall_mem_append.mpr ⟨modified.typed, forall_mem_singleton.mpr ?_⟩
      exact fun phase => phase.elim nofun nofun
  · exact modified

theorem Sound.handleFailedJob
    (found : world.handlers[j]? = some ⟨id, .waiting⟩) : Sound (world.handleFailedJob j id) := by
  unfold World.handleFailedJob
  refine Sound.modify (sound.setHandler found fun phase => ?_) (mild_status .failed)
  obtain ⟨row, mem, is, -⟩ := sound.finished _ (mem_of_getElem? found)
  refine ⟨row, mem, is, fun type => ?_⟩
  rw [if_pos (has_iff.mpr ⟨row, mem, is, decide_eq_true type⟩)] at phase
  exact phase.elim nofun nofun

theorem Sound.add {type : String} {attempts : Nat} (absent : ¬ (world.has id fun _ => true)) :
    Sound { world with notifications := world.notifications ++ [{ id, type, attempts }] } := by
  have mono {p : Notification → Prop} (found : ∃ row ∈ world.notifications, p row) :
      ∃ row ∈ world.notifications ++ [{ id := id, type := type, attempts := attempts }], p row :=
    found.imp fun row both => ⟨mem_append_left _ both.1, both.2⟩
  refine ⟨?_, ?_, sound.once, fun handler mem => mono (sound.finished handler mem),
    fun handler mem phase => mono (sound.typed handler mem phase)⟩
  · rw [map_append, map_singleton, ← concat_eq_append]
    refine sound.keyed.concat fun known => absent ?_
    obtain ⟨row, mem, is⟩ := mem_map.mp known
    exact has_iff.mpr ⟨row, mem, is, rfl⟩
  · exact forall_mem_append.mpr ⟨sound.unlocked, forall_mem_singleton.mpr nofun⟩

theorem Sound.next (label : Label) : Sound (world.next label) := by
  fun_cases World.next world label
  case case2 absent => exact sound.add absent
  case case3 => exact (sound.elsewhere _ _).modify (mild_locked _)
  case case5 => exact sound.elsewhere _ _
  case case7 => exact (sound.elsewhere _ _).modify mild_claim
  case case9 => exact (sound.elsewhere _ _).modify (mild_status .sent)
  case case11 => exact (sound.elsewhere _ _).modify (mild_completed _)
  case case13 attempt _ => exact sound.throw attempt
  case case15 found => exact sound.handleFailedJob found
  case case17 found =>
    exact sound.setHandler found fun _ => sound.typed _ (mem_of_getElem? found) (.inl rfl)
  case case19 found => exact sound.setHandler found fun phase => phase.elim nofun nofun
  case case20 found => exact sound.setHandler found fun phase => phase.elim nofun nofun
  all_goals exact sound

theorem Sound.reports_le :
    world.reports.length ≤
      (world.notifications.filter fun row => row.type ≠ "system.error").length := by
  have nodup : world.reports.Nodup := sound.once.sublist (filter_sublist.map _)
  have others : world.reports ⊆
      (world.notifications.filter fun row => row.type ≠ "system.error").map (·.id) := by
    intro id mem
    obtain ⟨handler, listed, rfl⟩ := mem_map.mp mem
    obtain ⟨listed, phase⟩ := mem_filter.mp listed
    obtain ⟨row, listed, is, typed⟩ := sound.typed handler listed (.inr (of_decide_eq_true phase))
    exact mem_map.mpr ⟨row, mem_filter.mpr ⟨listed, decide_eq_true typed⟩, is⟩
  exact Nat.le_trans (subperm_of_subset nodup others).length_le (Nat.le_of_eq (length_map _))

end

/-! ## What is sent stays so -/

theorem mem_reports : id ∈ world.reports ↔ ⟨id, .reported⟩ ∈ world.handlers := by
  unfold World.reports
  constructor
  · intro mem
    obtain ⟨⟨notificationId, phase⟩, listed, rfl⟩ := mem_map.mp mem
    obtain ⟨listed, reported⟩ := mem_filter.mp listed
    cases of_decide_eq_true reported
    exact listed
  · exact fun mem => mem_map.mpr ⟨_, mem_filter.mpr ⟨mem, rfl⟩, rfl⟩

theorem Keeps.same (notifications : world'.notifications = world.notifications)
    (reports : ∀ id, id ∈ world'.reports → id ∈ world.reports) : Keeps world world' :=
  fun row mem sent => ⟨⟨row, notifications ▸ mem, rfl, sent⟩, reports row.id⟩

theorem Keeps.trans {first second third : World} (before : Keeps first second)
    (after : Keeps second third) : Keeps first third := by
  intro row mem sent
  obtain ⟨⟨row', mem', is, sent'⟩, reports⟩ := before row mem sent
  obtain ⟨⟨last, mem'', is', sent''⟩, reports'⟩ := after row' mem' sent'
  exact ⟨⟨last, mem'', is'.trans is, sent''⟩,
    fun reported => reports (is ▸ reports' (is ▸ reported))⟩

theorem Keeps.modify (mild : Mild f) (stays : ∀ row ∈ world.notifications, row.id = id →
    row.outboundStatus = .sent → (f row).outboundStatus = .sent) :
    Keeps world (world.modify id f) := by
  intro row mem sent
  refine ⟨⟨_, mem_modify mem, (mild.at id).id row, ?_⟩, fun reported => reported⟩
  split
  · next is => exact stays row mem is sent
  · exact sent

theorem Keeps.setHandler {phase : HandlerPhase} (quiet : phase ≠ .reported) :
    Keeps world (world.setHandler j ⟨id, phase⟩) := by
  refine Keeps.same rfl fun id reported => mem_reports.mpr ?_
  rcases mem_or_eq_of_mem_set (mem_reports.mp reported) with old | new
  · exact old
  · exact absurd (Handler.mk.inj new).2.symm quiet

theorem Keeps.report
    (unsent : ∀ row ∈ world.notifications, row.id = id → row.outboundStatus ≠ .sent) :
    Keeps world (world.setHandler j ⟨id, .reported⟩) := by
  refine fun row mem sent => ⟨⟨row, mem, rfl, sent⟩, fun reported => mem_reports.mpr ?_⟩
  rcases mem_or_eq_of_mem_set (mem_reports.mp reported) with old | new
  · exact old
  · exact absurd sent (unsent row mem (Handler.mk.inj new).1)

theorem not_sent (unsent : (some handler).all (fun handler =>
      !world.has handler.notificationId (·.outboundStatus = .sent))) :
    ∀ row ∈ world.notifications, row.id = handler.notificationId → row.outboundStatus ≠ .sent := by
  intro row mem is sent
  have found : world.has handler.notificationId (·.outboundStatus = .sent) :=
    has_iff.mpr ⟨row, mem, is, decide_eq_true sent⟩
  rw [Option.all_some, found] at unsent
  cases unsent

theorem Keeps.throw (attempt : Attempt) : Keeps world (world.throw i attempt) := by
  unfold World.throw
  dsimp only
  refine Keeps.trans ?_ (Keeps.modify (mild_thrown attempt.token) fun row _ _ sent => ?_)
  · refine Keeps.same rfl fun id reported => mem_reports.mpr ?_
    have mem := mem_reports.mp reported
    dsimp only at mem
    split at mem
    · exact (mem_append.mp mem).resolve_right fun new => nomatch mem_singleton.mp new
    · exact mem
  · unfold Notification.thrown
    split <;> exact sent

theorem Keeps.next (unsent : isUnsent world label) : Keeps world (world.next label) := by
  have refl : Keeps world world := Keeps.same rfl fun _ reported => reported
  have elsewhere (attempts : List Attempt) (tokens : Nat) :
      Keeps world { world with attempts, tokens } :=
    Keeps.same rfl fun _ reported => reported
  revert unsent
  fun_cases World.next world label <;> intro unsent
  case case2 =>
    exact fun row mem sent => ⟨⟨row, mem_append_left _ mem, rfl, sent⟩, fun reported => reported⟩
  case case3 =>
    refine (elsewhere _ _).trans (Keeps.modify (mild_locked _) fun row _ _ sent => ?_)
    unfold Notification.locked
    split <;> exact sent
  case case5 => exact elsewhere _ _
  case case7 =>
    refine (elsewhere _ _).trans (Keeps.modify mild_claim fun row _ _ sent => ?_)
    rw [Notification.claim, if_pos sent]
    exact sent
  case case9 => exact (elsewhere _ _).trans (Keeps.modify (mild_status .sent) fun _ _ _ _ => rfl)
  case case11 =>
    refine (elsewhere _ _).trans (Keeps.modify (mild_completed _) fun row _ _ sent => ?_)
    unfold Notification.completed
    split <;> exact sent
  case case13 attempt _ => exact Keeps.throw attempt
  case case15 j id found =>
    rw [isUnsent, found] at unsent
    refine Keeps.trans (Keeps.setHandler ?_) (Keeps.modify (mild_status .failed) ?_)
    · split <;> exact nofun
    · exact fun row mem is sent => absurd sent (not_sent unsent row mem is)
  case case17 j id found =>
    rw [isUnsent, found] at unsent
    exact Keeps.report (not_sent unsent)
  case case19 => exact Keeps.setHandler nofun
  case case20 => exact Keeps.setHandler nofun
  all_goals exact refl

end Handoffs

open Handoffs in
/-- At any time the `system.error` events are no more than the other notifications; and in a run
whose handlers write only for notifications that are not sent, a notification that is sent stays so
and is not reported from then on. -/
theorem sent_stays_sent (first second : List Label) (mid last : World)
    (ran : run step {} first = some mid) (later : run step mid second = some last) :
    last.reports.length ≤ (last.notifications.filter fun row => row.type ≠ "system.error").length ∧
      (Guarded step (fun world label => isUnsent world label = true) {} (first ++ second) →
        Keeps mid last) := by
  have sound : Sound last := by
    have start : Sound {} :=
      ⟨nodup_nil, forall_mem_nil _, nodup_nil, forall_mem_nil _, forall_mem_nil _⟩
    have keeps {world world' label} (sound : Sound world)
        (stepped : step world label = some world') : Sound world' := by
      cases stepped
      exact sound.next label
    exact run_invariant keeps (run_invariant keeps start ran) later
  refine ⟨sound.reports_le, fun unsent => ?_⟩
  refine Guarded.between (I := fun _ => True) (R := Keeps) (fun world => Keeps.same rfl fun _ => id)
    Keeps.trans (fun _ _ _ => trivial) ?_ unsent trivial ran later
  intro world label world' _ unsent stepped
  cases stepped
  exact Keeps.next unsent

namespace Handoffs

def inTurn : List Label :=
  [.add 1 "ticket.created" 1, .add 2 "ticket.created" 1, .start 2, .claim 0, .record 0, .complete 0]

def exhausted : List Label := [.start 1, .claim 0, .throw 0, .markFailed 0, .report 0]

def overtaken : List Label :=
  [.add 1 "ticket.created" 1, .start 1, .claim 0, .start 1, .claim 1, .record 0]

def overwrites : List Label := [.throw 1, .markFailed 0, .report 0]

end Handoffs

open Handoffs in
theorem sent_stays_sent_in_turn :
    ∃ mid last, run step {} inTurn = some mid ∧ run step mid exhausted = some last ∧
      last.reports = [1] ∧ Keeps mid last :=
  ⟨_, _, rfl, rfl, by decide, (sent_stays_sent inTurn exhausted _ _ rfl rfl).2
    (Guarded.of_check (fun unsent => unsent) (by decide))⟩

open Handoffs in
/-- The notification is sent, then marked as failed and reported. -/
theorem sent_marked_failed :
    ¬ ∀ (first second : List Label) (mid last : World), run step {} first = some mid →
      run step mid second = some last →
      last.reports.length ≤
          (last.notifications.filter fun row => row.type ≠ "system.error").length ∧
        Keeps mid last := by
  intro always
  obtain ⟨⟨row, mem, -, sent⟩, -⟩ :=
    (always overtaken overwrites _ _ rfl rfl).2 _ mem_cons_self rfl
  cases mem_singleton.mp mem
  cases sent

end OpenWind
