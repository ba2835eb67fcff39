import OpenWind.Schema
import OpenWind.Lib.Overwrites

/-!
# Ticket alerts

An alert is a row of `ticket_alerts` that a delayed job fires: the worker reads the alert,
creates a notification while the alert is pending, and sets it to `fired`.  The creator may
edit or cancel the alert, and it is cancelled with its ticket.  All of them read the row in a
transaction and update it later, without a lock in between.
-/

open List

namespace OpenWind

open Overwrites Runs

/-! ## The tables -/

inductive AlertScope
  | me | all
  deriving DecidableEq

inductive AlertStatus
  | pending | fired | cancelled
  deriving DecidableEq

/-- A row of `ticket_alerts`. -/
structure TicketAlert where
  createdBy : String
  note : String
  fireAt : Time
  scope : AlertScope
  recipientsSnapshot : Option (List String) := none
  status : AlertStatus := .pending
  firedAt : Option Time := none
  updatedAt : Time

structure AlertNotification where
  title : String
  body : String
  createdAt : Time
  recipients : List String
  /-- The alert had been cancelled when the notification was committed. -/
  afterCancel : Bool

/-- What is stored of an alert. -/
structure AlertState where
  alert : TicketAlert
  notifications : List AlertNotification
  /-- A cancellation has been committed. -/
  cancelled : Bool

/-! ## The transactions -/

structure AlertPatch where
  note : Option String := none
  fireAt : Option Time := none
  scope : Option AlertScope := none

inductive AlertOp
  | deliver (now : Time)
  | edit (userId : String) (patch : AlertPatch) (accessList : Option (List String)) (now : Time)
  | delete (userId : String) (now : Time)
  /-- `cancelPendingAlerts`: of all creators, or of one. -/
  | cascadeCancel (createdBy : Option String) (now : Time)

def TicketAlert.recipients (alert : TicketAlert) : List String :=
  match alert.scope with
  | .all => (alert.recipientsSnapshot.getD [alert.createdBy]).eraseDups
  | .me => [alert.createdBy]

def fireAlert (alert : TicketAlert) (now : Time) : Overwrites.Plan AlertState :=
  if alert.status ≠ .pending then .idle
  else .write fun current => { current with
    alert := { current.alert with status := .fired, firedAt := some now, updatedAt := now }
    notifications := current.notifications ++
      [⟨"Ticket alert", alert.note, now, alert.recipients, current.cancelled⟩] }

def updateAlert (alert : TicketAlert) (userId : String) (patch : AlertPatch)
    (accessList : Option (List String)) (now : Time) : Overwrites.Plan AlertState :=
  if alert.createdBy ≠ userId ∨ alert.status ≠ .pending then .refuse
  else
    let nextScope := patch.scope.getD alert.scope
    let recipientsSnapshot :=
      if nextScope = .all ∧ alert.scope ≠ .all then accessList
      else if nextScope = .me then none
      else alert.recipientsSnapshot
    .write fun current => { current with
      alert := { current.alert with
        note := patch.note.getD alert.note
        fireAt := patch.fireAt.getD alert.fireAt
        scope := nextScope
        recipientsSnapshot
        updatedAt := now } }

def AlertState.cancel (current : AlertState) (now : Time) : AlertState :=
  { current with
    alert := { current.alert with status := .cancelled, updatedAt := now }
    cancelled := true }

def deleteAlert (alert : TicketAlert) (userId : String) (now : Time) : Overwrites.Plan AlertState :=
  if alert.createdBy ≠ userId ∨ alert.status ≠ .pending then .refuse
  else .write fun current => current.cancel now

def cancelPendingAlerts (alert : TicketAlert) (createdBy : Option String) (now : Time) :
    Overwrites.Plan AlertState :=
  if alert.status = .pending ∧ (createdBy = none ∨ createdBy = some alert.createdBy) then
    .write fun current => current.cancel now
  else .idle

def AlertOp.way : AlertOp → Way AlertState
  | .deliver now => .rewrite fun read => fireAlert read.alert now
  | .edit userId patch accessList now =>
    .rewrite fun read => updateAlert read.alert userId patch accessList now
  | .delete userId now => .rewrite fun read => deleteAlert read.alert userId now
  | .cascadeCancel createdBy now =>
    .rewrite fun read => cancelPendingAlerts read.alert createdBy now

/-! ## What a commit does -/

namespace AlertState

/-- A pending alert. -/
def created (createdBy note : String) (fireAt : Time) (scope : AlertScope)
    (recipientsSnapshot : Option (List String)) (now : Time) : AlertState where
  alert := { createdBy, note, fireAt, scope, recipientsSnapshot, updatedAt := now }
  notifications := []
  cancelled := false

def FiresOnce (s : AlertState) : Prop :=
  s.notifications.length ≤ 1 ∧ ∀ n ∈ s.notifications, n.afterCancel = false

def Sound (s : AlertState) : Prop :=
  s.alert.status = .pending ↔ s.notifications = [] ∧ s.cancelled = false

end AlertState

def AlertOp.FindsPending : AlertOp → (read current : AlertState) → Prop
  | .deliver _, read, current => read.alert.status = .pending → current.alert.status = .pending
  | _, _, _ => True

inductive AlertEffect (op : AlertOp) (read current : AlertState) : AlertState → Prop
  | idle (nothing : ∀ now, op = .deliver now → read.alert.status ≠ .pending) :
    AlertEffect op read current current
  | fired {now : Time} {written : AlertState} {n : AlertNotification} (delivers : op = .deliver now)
    (pending : read.alert.status = .pending) (status : written.alert.status = .fired)
    (appended : written.notifications = current.notifications ++ [n])
    (after : n.afterCancel = current.cancelled) (cancelled : written.cancelled = current.cancelled) :
    AlertEffect op read current written
  | edited {written : AlertState} (edits : ∀ now, op ≠ .deliver now)
    (status : written.alert.status = current.alert.status)
    (notifications : written.notifications = current.notifications)
    (cancelled : written.cancelled = current.cancelled) : AlertEffect op read current written
  | cancelled {now : Time} (cancels : ∀ now, op ≠ .deliver now) :
    AlertEffect op read current (current.cancel now)

section Effects

variable {op : AlertOp} {read current written : AlertState}

theorem alertEffect (made : Made AlertOp.way op read current written) :
    AlertEffect op read current written := by
  cases made with
  | idle rewrites nothing =>
    apply AlertEffect.idle
    rintro now rfl pending
    cases rewrites
    simp [fireAlert, pending] at nothing
  | edited edits => cases op <;> cases edits
  | rewritten rewrites writes =>
    cases op with
    | deliver now =>
      cases rewrites
      change fireAlert read.alert now = _ at writes
      unfold fireAlert at writes
      split at writes
      · cases writes
      · next pending =>
        cases writes
        exact .fired rfl (not_not.mp pending) rfl rfl rfl rfl
    | edit userId patch accessList now =>
      cases rewrites
      change updateAlert read.alert userId patch accessList now = _ at writes
      unfold updateAlert at writes
      split at writes
      · cases writes
      · cases writes
        exact .edited (fun _ same => by cases same) rfl rfl rfl
    | delete userId now =>
      cases rewrites
      change deleteAlert read.alert userId now = _ at writes
      unfold deleteAlert at writes
      split at writes
      · cases writes
      · cases writes
        exact .cancelled fun _ same => by cases same
    | cascadeCancel createdBy now =>
      cases rewrites
      change cancelPendingAlerts read.alert createdBy now = _ at writes
      unfold cancelPendingAlerts at writes
      split at writes
      · cases writes
        exact .cancelled fun _ same => by cases same
      · cases writes

theorem AlertState.Sound.made (made : Made AlertOp.way op read current written)
    (sound : current.Sound) : written.Sound := by
  cases alertEffect made with
  | idle => exact sound
  | fired _ _ status appended =>
    unfold Sound
    rw [status, appended]
    simp
  | edited _ status notifications cancelled =>
    unfold Sound
    rw [status, notifications, cancelled]
    exact sound
  | cancelled =>
    unfold Sound AlertState.cancel
    simp

theorem firesOnce_iff (made : Made AlertOp.way op read current written) (sound : current.Sound)
    (once : current.FiresOnce) : op.FindsPending read current ↔ written.FiresOnce := by
  cases alertEffect made with
  | idle nothing =>
    refine ⟨fun _ => once, fun _ => ?_⟩
    cases op with
    | deliver now => exact fun pending => absurd pending (nothing now rfl)
    | _ => trivial
  | @fired now _ n delivers pending status appended after cancelled =>
    subst delivers
    unfold AlertState.FiresOnce
    rw [appended]
    constructor
    · intro finds
      obtain ⟨none', live⟩ := sound.mp (finds pending)
      rw [none', nil_append]
      refine ⟨Nat.le_refl _, fun other mem => ?_⟩
      rw [mem_singleton.mp mem, after, live]
    · rintro ⟨short, live⟩ -
      apply sound.mpr
      have last := live n (mem_append_right _ mem_cons_self)
      rw [length_append, length_singleton] at short
      exact ⟨eq_nil_of_length_eq_zero (by omega), after.symm.trans last⟩
  | edited edits _ notifications =>
    unfold AlertState.FiresOnce
    rw [notifications]
    refine ⟨fun _ => once, fun _ => ?_⟩
    cases op with
    | deliver now => exact absurd rfl (edits now)
    | _ => trivial
  | cancelled cancels =>
    refine ⟨fun _ => once, fun _ => ?_⟩
    cases op with
    | deliver now => exact absurd rfl (cancels now)
    | _ => trivial

end Effects

/-- The alert fires at most once, and not after it was cancelled, throughout a run exactly when
every delivery that read a pending alert commits while the alert is still pending. -/
theorem alert_fires_once_iff (createdBy note : String) (fireAt : Time) (scope : AlertScope)
    (recipientsSnapshot : Option (List String)) (now : Time) (labels : List (Label AlertOp)) :
    Always (step AlertOp.way) (fun w => w.value.FiresOnce)
        (initial (.created createdBy note fireAt scope recipientsSnapshot now)) labels ↔
      Guarded (step AlertOp.way) (Under AlertOp.way AlertOp.FindsPending)
        (initial (.created createdBy note fireAt scope recipientsSnapshot now)) labels := by
  refine always_iff (fun made sound => sound.made made)
    (fun made sound once => firesOnce_iff made sound once) ?_ ?_ labels
  · exact ⟨fun _ => ⟨rfl, rfl⟩, fun _ => rfl⟩
  · exact ⟨Nat.zero_le _, fun n mem => by cases mem⟩

/-! ## An alert that fires twice -/

namespace AlertSample

def reminder : AlertState := .created "ana" "call back" 100 .me none 0

def deliveredTwice : List (Label AlertOp) :=
  [.start (.deliver 100), .start (.deliver 101), .read 0, .read 1, .write 0, .write 1]

def cancelledMeanwhile : List (Label AlertOp) :=
  [.start (.deliver 100), .read 0, .start (.delete "ana" 101), .read 1, .write 1, .write 0]

end AlertSample

open AlertSample in
/-- Both deliveries create their notification, and one is created for a cancelled alert. -/
theorem alert_fired_again :
    (∃ w, run (step AlertOp.way) (initial reminder) deliveredTwice = some w ∧ ¬w.value.FiresOnce) ∧
    ∃ w, run (step AlertOp.way) (initial reminder) cancelledMeanwhile = some w ∧
      ¬w.value.FiresOnce := by
  constructor
  · have fired : (run (step AlertOp.way) (initial reminder) deliveredTwice).any (fun w =>
        w.value.notifications.length == 2) = true := by
      decide +kernel
    obtain ⟨w, ran, twice⟩ := (Option.any_eq_true _ _).mp fired
    refine ⟨w, ran, fun once => ?_⟩
    have short := once.1
    rw [eq_of_beq twice] at short
    exact absurd short (by decide)
  · have fired : (run (step AlertOp.way) (initial reminder) cancelledMeanwhile).any (fun w =>
        w.value.notifications.any (·.afterCancel)) = true := by
      decide +kernel
    obtain ⟨w, ran, late⟩ := (Option.any_eq_true _ _).mp fired
    obtain ⟨n, mem, after⟩ := any_eq_true.mp late
    refine ⟨w, ran, fun once => ?_⟩
    rw [once.2 n mem] at after
    cases after

end OpenWind
