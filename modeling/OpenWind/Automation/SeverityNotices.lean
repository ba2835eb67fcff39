import OpenWind.Automation.ResolveOncall
import OpenWind.Lib.Expiring
import OpenWind.Lib.Runs
import OpenWind.Lib.Calls
import OpenWind.Lib.Rows
import Mathlib.Data.List.Sort

/-!
# Notices of a severity

`dispatch_severity_notification` handles the events of a record.  It resolves a policy and the
recipients from what is stored at that time, claims the record's severity in Redis for a day, and
inserts a notification for each channel and recipient under an identifier derived from them and
the severity.  The claim is made inside the transaction of the rule, and stays when that is
rolled back.
-/

open List

namespace OpenWind

open Runs

/-! ## Policies -/

inductive NoticeChannel
  | email | sms | whatsapp | call
  deriving DecidableEq

/-- A row of `notification_policies`. -/
structure NotificationPolicy where
  id : Id
  tenantId : Id
  severity : String
  teamId : Option Id := none
  workflowTypeId : Option Id := none
  channels : List NoticeChannel
  notifyBackup : Bool
  notifyEscalationManager : Bool
  deletedAt : Option Time := none

inductive PolicyMatch
  | teamWorkflow | team | workflow | global | hardcodedDefault
  deriving DecidableEq

structure ResolvedPolicy where
  policyId : Option Id
  channels : List NoticeChannel
  notifyBackup : Bool
  notifyEscalationManager : Bool
  matchedAt : PolicyMatch

def NotificationPolicy.score (policy : NotificationPolicy) : Nat :=
  (if policy.teamId.isSome then 2 else 0) + if policy.workflowTypeId.isSome then 1 else 0

def NotificationPolicy.applies (tenantId : Id) (severity : String)
    (teamId workflowTypeId : Option Id) (policy : NotificationPolicy) : Bool :=
  policy.tenantId == tenantId && policy.severity == severity && policy.deletedAt == none &&
    (policy.teamId == none || policy.teamId == teamId) &&
    (policy.workflowTypeId == none || policy.workflowTypeId == workflowTypeId)

def NotificationPolicy.matchedAt (policy : NotificationPolicy) : PolicyMatch :=
  match policy.teamId, policy.workflowTypeId with
  | some _, some _ => .teamWorkflow
  | some _, none => .team
  | none, some _ => .workflow
  | none, none => .global

def resolvePolicy (policies : List NotificationPolicy) (tenantId : Id) (severity : String)
    (teamId workflowTypeId : Option Id) : ResolvedPolicy :=
  let candidates :=
    policies.filter (NotificationPolicy.applies tenantId severity teamId workflowTypeId)
  match (candidates.insertionSort fun a b => b.score ≤ a.score).head? with
  | none => ⟨none, [.email], true, false, .hardcodedDefault⟩
  | some best =>
    ⟨some best.id, best.channels, best.notifyBackup, best.notifyEscalationManager, best.matchedAt⟩

/-! ## What a delivery resolves -/

structure SeverityView where
  store : AutomationStore
  policies : List NotificationPolicy
  uuid : String → Option Id

/-- What is to be sent, and to whom. -/
structure SeverityDispatch where
  severity : String
  channels : List NoticeChannel
  recipients : List String
  deriving DecidableEq

def SeverityDispatch.pairs (d : SeverityDispatch) : List (NoticeChannel × String) :=
  d.channels.flatMap fun channel => d.recipients.map fun recipient => (channel, recipient)

/-- The severity that an update has set. -/
def TriggerEvent.changedSeverity (event : TriggerEvent) : Option String :=
  match event.get "changed" with
  | some (.obj changed) =>
    match Fields.get changed "severity" with
    | some (.obj change) =>
      ((Fields.get change "new").bind Json.asText).filter fun severity => severity != ""
    | _ => none
  | _ => none

def TriggerEvent.severity (event : TriggerEvent) (row : EntityInstance) : Option String :=
  if event.eventType == "entity.updated" then event.changedSeverity
  else if event.eventType == "entity.created" then row.severity.filter fun s => s != ""
  else none

def severityRecipients (row : EntityInstance) (policy : ResolvedPolicy) (severity : String)
    (schedule : Option DutySchedule) : List String :=
  let backup := if policy.notifyBackup then schedule.bind (·.backupUserId) else none
  let manager :=
    if policy.notifyEscalationManager || severity == "critical" then
      schedule.bind (·.escalationManagerUserId)
    else none
  ((nonEmpty row.assignedTo).toList ++ (nonEmpty backup).toList ++
    (nonEmpty manager).toList).eraseDups
where
  nonEmpty (user : Option String) : Option String := user.filter fun id => id != ""

def resolveDispatch (tenantId instanceId : Id) (event : TriggerEvent) (view : SeverityView)
    (now : Time) : Option SeverityDispatch := do
  let row ← view.store.db.entityInstances.find? (EntityInstance.isLive tenantId instanceId)
  let severity ← event.severity row
  let teamId := ((row.fields.get "team_id").bind Json.asText).bind view.uuid
  let policy := resolvePolicy view.policies tenantId severity teamId row.workflowId
  let schedule := teamId.bind fun team =>
    getActiveScheduleForTeam view.store tenantId team now
  return ⟨severity, policy.channels, severityRecipients row policy severity schedule⟩

/-! ## Deliveries -/

structure SeverityNotice where
  severity : String
  channel : NoticeChannel
  recipientId : String
  event : Nat
  deriving DecidableEq

/-- What `deriveNotificationId` hashes, for the record. -/
def SeverityNotice.key (n : SeverityNotice) : String × NoticeChannel × String :=
  (n.severity, n.channel, n.recipientId)

inductive SeverityPhase
  | begun
  | resolved (d : SeverityDispatch)
  | claimed (d : SeverityDispatch)
  /-- The action returned without inserting anything. -/
  | returned (d : Option SeverityDispatch)
  | ended

structure SeverityRun where
  event : Nat
  phase : SeverityPhase

structure SeverityHandling where
  event : Nat
  severity : String
  pairs : List (NoticeChannel × String)

structure SeverityWorld where
  now : Time
  events : List TriggerEvent
  claims : String → Slot Unit
  notices : List SeverityNotice
  runs : List SeverityRun
  handled : List SeverityHandling

inductive SeverityLabel
  | tick (time : Nat)
  | emit (event : TriggerEvent)
  | deliver (event : Nat)
  | resolve (r : Nat) (view : SeverityView)
  | claim (r : Nat)
  | commit (r : Nat)
  /-- The transaction is rolled back. -/
  | fail (r : Nat)

def severityClaimMs : Nat := 86400 * 1000

namespace SeverityWorld

def put (w : SeverityWorld) (r : Nat) (run : SeverityRun) : SeverityWorld :=
  { w with runs := w.runs.set r run }

/-- `INSERT … ON CONFLICT DO NOTHING` -/
def insertNotice (notices : List SeverityNotice) (n : SeverityNotice) : List SeverityNotice :=
  if n.key ∈ notices.map SeverityNotice.key then notices else notices ++ [n]

def insertNotices (notices : List SeverityNotice) (event : Nat) (d : SeverityDispatch) :
    List SeverityNotice :=
  (d.pairs.map fun pair => (⟨d.severity, pair.1, pair.2, event⟩ : SeverityNotice)).foldl
    insertNotice notices

def handle (w : SeverityWorld) (event : Nat) (d : SeverityDispatch) : List SeverityHandling :=
  if w.handled.any (·.event == event) then w.handled
  else w.handled ++ [⟨event, d.severity, d.pairs⟩]

def step (tenantId instanceId : Id) (w : SeverityWorld) : SeverityLabel → Option SeverityWorld
  | .tick time => some { w with now := w.now + time }
  | .emit event => some { w with events := w.events ++ [event] }
  | .deliver event =>
    if event < w.events.length then some { w with runs := w.runs ++ [⟨event, .begun⟩] } else none
  | .resolve r view =>
    match w.runs[r]? with
    | some ⟨number, .begun⟩ =>
      (w.events[number]?).map fun event =>
        match resolveDispatch tenantId instanceId event view w.now with
        | none => w.put r ⟨number, .returned none⟩
        | some d =>
          w.put r ⟨number, if d.recipients.isEmpty then .returned (some d) else .resolved d⟩
    | _ => none
  | .claim r =>
    match w.runs[r]? with
    | some ⟨number, .resolved d⟩ =>
      match (w.claims d.severity).read w.now with
      | some _ => some (w.put r ⟨number, .returned (some d)⟩)
      | none => some ({ w with
          claims := fun severity =>
            if severity = d.severity then .keep w.now severityClaimMs ()
            else w.claims severity }.put r ⟨number, .claimed d⟩)
    | _ => none
  | .commit r =>
    match w.runs[r]? with
    | some ⟨number, .returned none⟩ => some (w.put r ⟨number, .ended⟩)
    | some ⟨number, .returned (some d)⟩ =>
      some ({ w with handled := w.handle number d }.put r ⟨number, .ended⟩)
    | some ⟨number, .claimed d⟩ =>
      some ({ w with
        notices := insertNotices w.notices number d
        handled := w.handle number d }.put r ⟨number, .ended⟩)
    | _ => none
  | .fail r =>
    match w.runs[r]? with
    | some ⟨_, .ended⟩ => none
    | some ⟨number, _⟩ => some (w.put r ⟨number, .ended⟩)
    | none => none

/-- Nothing has happened to the record. -/
def initial (now : Time) : SeverityWorld := ⟨now, [], fun _ => none, [], [], []⟩

/-! ## Announcing -/

def Told (w : SeverityWorld) (event : Nat) (severity : String)
    (pair : NoticeChannel × String) : Prop :=
  ∃ n ∈ w.notices, n.event = event ∧ n.key = (severity, pair)

def TellsIn (w : SeverityWorld) (r event : Nat) (severity : String)
    (pair : NoticeChannel × String) : Prop :=
  ∃ d, w.runs[r]? = some ⟨event, .claimed d⟩ ∧ d.severity = severity ∧ pair ∈ d.pairs

def AnnouncedOnce (w : SeverityWorld) : Prop :=
  ∀ h ∈ w.handled, ∀ pair ∈ h.pairs,
    (w.notices.filter fun n => decide (n.event = h.event ∧ n.key = (h.severity, pair))).length = 1

instance (w : SeverityWorld) : Decidable w.AnnouncedOnce :=
  inferInstanceAs (Decidable (∀ h ∈ w.handled, ∀ pair ∈ h.pairs,
    (w.notices.filter fun n => decide (n.event = h.event ∧ n.key = (h.severity, pair))).length = 1))

/-- No delivery is between its claim and its end. -/
def Quiet (w : SeverityWorld) : Prop :=
  ∀ (r event : Nat) (d : SeverityDispatch), w.runs[r]? ≠ some ⟨event, .claimed d⟩

def Spares (w : SeverityWorld) : SeverityLabel → Prop
  | .commit r =>
    (∀ event d, w.runs[r]? = some ⟨event, .returned (some d)⟩ →
      (∀ h ∈ w.handled, h.event ≠ event) → ∀ pair ∈ d.pairs,
        w.Told event d.severity pair ∨ ∃ other, w.TellsIn other event d.severity pair) ∧
    ∀ event d, w.runs[r]? = some ⟨event, .claimed d⟩ → ∀ pair ∈ d.pairs, ∀ n ∈ w.notices,
      n.key = (d.severity, pair) → n.event = event
  | .fail r => ∀ event d, w.runs[r]? = some ⟨event, .claimed d⟩ →
    ∀ h ∈ w.handled, h.event = event → ∀ pair ∈ h.pairs,
      w.Told event h.severity pair ∨ ∃ other, other ≠ r ∧ w.TellsIn other event h.severity pair
  | _ => True

structure Sound (w : SeverityWorld) : Prop where
  keys : (w.notices.map SeverityNotice.key).Nodup
  announced : ∀ h ∈ w.handled, ∀ pair ∈ h.pairs,
    w.Told h.event h.severity pair ∨ ∃ r, w.TellsIn r h.event h.severity pair

section Insertion

variable {notices : List SeverityNotice} {n : SeverityNotice}

theorem insertNotice_keys (distinct : (notices.map SeverityNotice.key).Nodup) :
    ((insertNotice notices n).map SeverityNotice.key).Nodup := by
  unfold insertNotice
  split
  · exact distinct
  · next fresh => exact Rows.nodup_append distinct fresh

variable {other : SeverityNotice} {news : List SeverityNotice}

theorem mem_insertNotice (mem : other ∈ notices) : other ∈ insertNotice notices n := by
  unfold insertNotice
  split
  · exact mem
  · exact mem_append_left _ mem

theorem foldl_keys (distinct : (notices.map SeverityNotice.key).Nodup) :
    ((news.foldl insertNotice notices).map SeverityNotice.key).Nodup := by
  induction news generalizing notices with
  | nil => exact distinct
  | cons n news ih => exact ih (insertNotice_keys distinct)

theorem mem_foldl (mem : other ∈ notices) : other ∈ news.foldl insertNotice notices := by
  induction news generalizing notices with
  | nil => exact mem
  | cons n news ih => exact ih (mem_insertNotice mem)

theorem told_foldl {event : Nat} (ofEvent : ∀ n ∈ news, n.event = event)
    (own : ∀ n ∈ news, ∀ old ∈ notices, old.key = n.key → old.event = event) :
    ∀ n ∈ news,
      ∃ told ∈ news.foldl insertNotice notices, told.event = event ∧ told.key = n.key := by
  induction news generalizing notices with
  | nil => exact fun n mem => by cases mem
  | cons first news ih =>
    rw [forall_mem_cons] at ofEvent own
    have here : ∃ told ∈ insertNotice notices first, told.event = event ∧ told.key = first.key := by
      unfold insertNotice
      split
      · next taken =>
        obtain ⟨old, mem, same⟩ := mem_map.mp taken
        exact ⟨old, mem, own.1 old mem same, same⟩
      · exact ⟨first, mem_append_right _ mem_cons_self, ofEvent.1, rfl⟩
    intro n mem
    rcases mem_cons.mp mem with rfl | later
    · obtain ⟨told, memTold, facts⟩ := here
      have kept : told ∈ news.foldl insertNotice (insertNotice notices n) := mem_foldl memTold
      exact ⟨told, kept, facts⟩
    · apply ih ofEvent.2 ?_ n later
      intro m memM old memOld same
      unfold insertNotice at memOld
      split at memOld
      · exact own.2 m memM old memOld same
      · rcases mem_append.mp memOld with before | new
        · exact own.2 m memM old before same
        · rw [mem_singleton.mp new]
          exact ofEvent.1

end Insertion

variable {w w' : SeverityWorld} {tenantId instanceId : Id} {label : SeverityLabel}

variable {event r : Nat} {pair : NoticeChannel × String} {d : SeverityDispatch}

theorem Sound.count (sound : w.Sound) {severity : String} (told : w.Told event severity pair) :
    (w.notices.filter fun n => decide (n.event = event ∧ n.key = (severity, pair))).length = 1 := by
  obtain ⟨n, mem, ofEvent, named⟩ := told
  have distinct : w.notices.Nodup := Nodup.of_map _ sound.keys
  have single : (w.notices.filter fun n =>
      decide (n.event = event ∧ n.key = (severity, pair))).Perm [n] := by
    apply (perm_ext_iff_of_nodup (distinct.filter _) (nodup_singleton n)).mpr
    intro other
    rw [mem_filter, mem_singleton, decide_eq_true_eq]
    constructor
    · rintro ⟨member, -, same⟩
      exact Rows.eq_of_key sound.keys member mem (same.trans named.symm)
    · rintro rfl
      exact ⟨mem, ofEvent, named⟩
  exact single.length_eq

theorem Sound.announcedOnce (sound : w.Sound) (quiet : w.Quiet) : w.AnnouncedOnce := by
  intro h mem pair member
  rcases sound.announced h mem pair member with told | ⟨r, d, here, -⟩
  · exact sound.count told
  · exact absurd here (quiet r h.event d)

theorem Sound.idle (sound : w.Sound) (notices : w'.notices = w.notices)
    (handled : w'.handled = w.handled)
    (tells : ∀ r event severity pair, w.TellsIn r event severity pair →
      w'.TellsIn r event severity pair) : w'.Sound := by
  refine ⟨by rw [notices]; exact sound.keys, ?_⟩
  intro h mem pair member
  rw [handled] at mem
  rcases sound.announced h mem pair member with ⟨n, listed, facts⟩ | ⟨r, telling⟩
  · exact .inl ⟨n, by rw [notices]; exact listed, facts⟩
  · exact .inr ⟨r, tells r _ _ _ telling⟩

theorem TellsIn.put {r r' event number : Nat} {severity : String} {pair : NoticeChannel × String}
    {phase : SeverityPhase} {next : SeverityRun} (here : w.runs[r]? = some ⟨number, phase⟩)
    (idle : ∀ d, phase ≠ .claimed d) (telling : w.TellsIn r' event severity pair) :
    (w.put r next).TellsIn r' event severity pair := by
  obtain ⟨d, there, facts⟩ := telling
  refine ⟨d, ?_, facts⟩
  have apart : r ≠ r' := by
    rintro rfl
    rw [here] at there
    cases there
    exact idle d rfl
  change (w.runs.set r next)[r']? = _
  rw [getElem?_set_ne apart]
  exact there

theorem TellsIn.put_ne {r r' event : Nat} {severity : String} {next : SeverityRun} (apart : r' ≠ r)
    (telling : w.TellsIn r' event severity pair) :
    (w.put r next).TellsIn r' event severity pair := by
  obtain ⟨d, there, facts⟩ := telling
  refine ⟨d, ?_, facts⟩
  change (w.runs.set r next)[r']? = _
  rw [getElem?_set_ne (Ne.symm apart)]
  exact there

theorem mem_handle {h : SeverityHandling} (mem : h ∈ w.handle event d) :
    h ∈ w.handled ∨ (∀ old ∈ w.handled, old.event ≠ event) ∧ h = ⟨event, d.severity, d.pairs⟩ := by
  unfold handle at mem
  split at mem
  · exact .inl mem
  · next first =>
    rcases mem_append.mp mem with old | new
    · exact .inl old
    · refine .inr ⟨fun old member same => first ?_, mem_singleton.mp new⟩
      exact any_eq_true.mpr ⟨old, member, beq_iff_eq.mpr same⟩

theorem Sound.skipped (sound : w.Sound) (here : w.runs[r]? = some ⟨event, .returned (some d)⟩)
    (spared : (∀ h ∈ w.handled, h.event ≠ event) → ∀ pair ∈ d.pairs,
      w.Told event d.severity pair ∨ ∃ other, w.TellsIn other event d.severity pair) :
    Sound ({ w with handled := w.handle event d }.put r ⟨event, .ended⟩) := by
  refine ⟨sound.keys, fun h mem pair member => ?_⟩
  have covered : w.Told h.event h.severity pair ∨ ∃ r, w.TellsIn r h.event h.severity pair := by
    rcases mem_handle mem with old | ⟨first, rfl⟩
    · exact sound.announced h old pair member
    · exact spared first pair member
  rcases covered with told | ⟨other, telling⟩
  · exact .inl told
  · exact .inr ⟨other, TellsIn.put (w := { w with handled := w.handle event d }) here
      (fun d same => by cases same) telling⟩

theorem Sound.dispatched (sound : w.Sound) (here : w.runs[r]? = some ⟨event, .claimed d⟩)
    (spared : ∀ pair ∈ d.pairs, ∀ n ∈ w.notices, n.key = (d.severity, pair) → n.event = event) :
    Sound ({ w with
      notices := insertNotices w.notices event d
      handled := w.handle event d }.put r ⟨event, .ended⟩) := by
  have told : ∀ pair ∈ d.pairs,
      ∃ n ∈ insertNotices w.notices event d, n.event = event ∧ n.key = (d.severity, pair) := by
    intro pair mem
    have listed : (⟨d.severity, pair.1, pair.2, event⟩ : SeverityNotice) ∈
        d.pairs.map fun p => ⟨d.severity, p.1, p.2, event⟩ := mem_map_of_mem mem
    refine told_foldl ?_ ?_ _ listed
    · intro n listed
      obtain ⟨other, -, rfl⟩ := mem_map.mp listed
      rfl
    · intro n listed old memOld same
      obtain ⟨other, memOther, rfl⟩ := mem_map.mp listed
      exact spared other memOther old memOld same
  refine ⟨foldl_keys sound.keys, fun h mem pair member => ?_⟩
  rcases mem_handle mem with old | ⟨-, rfl⟩
  · rcases sound.announced h old pair member with ⟨n, listed, facts⟩ | ⟨other, telling⟩
    · exact .inl ⟨n, mem_foldl listed, facts⟩
    · by_cases same : other = r
      · subst same
        obtain ⟨d', there, severity, memPair⟩ := telling
        cases here.symm.trans there
        rw [← severity]
        exact .inl (told pair memPair)
      · exact .inr ⟨other, TellsIn.put_ne (w := { w with
          notices := insertNotices w.notices event d
          handled := w.handle event d }) same telling⟩
  · exact .inl (told pair member)

theorem Sound.failed (sound : w.Sound) {phase : SeverityPhase}
    (here : w.runs[r]? = some ⟨event, phase⟩)
    (spared : ∀ d, phase = .claimed d → ∀ h ∈ w.handled, h.event = event → ∀ pair ∈ h.pairs,
      w.Told event h.severity pair ∨ ∃ other, other ≠ r ∧ w.TellsIn other event h.severity pair) :
    (w.put r ⟨event, .ended⟩).Sound := by
  refine ⟨sound.keys, fun h mem pair member => ?_⟩
  rcases sound.announced h mem pair member with told | ⟨other, telling⟩
  · exact .inl told
  · by_cases same : other = r
    · subst same
      obtain ⟨d, there, facts⟩ := id telling
      cases here.symm.trans there
      rcases spared d rfl h mem rfl pair member with told | ⟨another, apart, telling'⟩
      · exact .inl told
      · exact .inr ⟨another, telling'.put_ne apart⟩
    · exact .inr ⟨other, telling.put_ne same⟩

theorem Sound.step (sound : w.Sound) (spares : w.Spares label)
    (stepped : w.step tenantId instanceId label = some w') : w'.Sound := by
  revert spares stepped
  fun_cases SeverityWorld.step tenantId instanceId w label <;> intro spares stepped <;>
    try cases stepped
  case case3.refl =>
    refine sound.idle rfl rfl ?_
    rintro r event' severity pair ⟨d, there, facts⟩
    refine ⟨d, ?_, facts⟩
    rw [getElem?_append_left (List.getElem?_eq_some_iff.mp there).1]
    exact there
  case case5 r _ number here =>
    obtain ⟨event, -, rfl⟩ := Option.map_eq_some_iff.mp stepped
    have onward (next : SeverityRun) : (w.put r next).Sound :=
      sound.idle rfl rfl fun _ _ _ _ telling => telling.put here (fun d same => by cases same)
    split
    · exact onward _
    · exact onward _
  case case7.refl here _ _ =>
    exact sound.idle rfl rfl fun _ _ _ _ telling => telling.put here (fun d same => by cases same)
  case case8.refl here _ =>
    exact sound.idle rfl rfl fun _ _ _ _ telling =>
      TellsIn.put (w := { w with claims := _ }) here (fun d same => by cases same) telling
  case case10.refl here =>
    exact sound.idle rfl rfl fun _ _ _ _ telling => telling.put here (fun d same => by cases same)
  case case11.refl number d here => exact sound.skipped here (spares.1 number d here)
  case case12.refl number d here => exact sound.dispatched here (spares.2 number d here)
  case case15.refl number phase _ here =>
    apply sound.failed here
    rintro d rfl
    exact spares number d here
  all_goals exact sound.idle rfl rfl fun _ _ _ _ telling => telling

end SeverityWorld

open SeverityWorld in
/-- Each event that was handled has one notification for each pair, whenever no delivery is
between its claim and its end, in a run in which a delivery is skipped only when its event has
been or is being announced by another one, which does not fail then, and in which no identifier
that a delivery inserts is taken by another event. -/
theorem severity_announced_once (tenantId instanceId : Id) (now : Time)
    (labels : List SeverityLabel)
    (spares : Guarded (step tenantId instanceId) Spares (.initial now) labels) :
    Always (step tenantId instanceId) (fun w => w.Quiet → w.AnnouncedOnce) (.initial now)
      labels := by
  have start : (SeverityWorld.initial now).Sound :=
    ⟨nodup_nil, fun h mem => by cases mem⟩
  exact spares.always (fun sound here stepped => sound.step here stepped)
    (fun sound quiet => sound.announcedOnce quiet) start

/-! ## Severities that are not announced -/

namespace SeveritySample

def view : SeverityView where
  store :=
    { db :=
        { entityInstances := [{ id := 10, entityTypeId := 7, tenantId := 1, assignedTo := some "ana"
                                createdAt := 0, updatedAt := 0 }] }
      rules := [] }
  policies := []
  uuid _ := none

def change (severity : String) : TriggerEvent :=
  ⟨"entity.updated", 10,
    [("changed", .obj [("severity", .obj [("old", .null), ("new", .str severity)])])]⟩

def handle (event r : Nat) : List SeverityLabel :=
  [.deliver event, .resolve r view, .claim r, .commit r]

/-- The event is delivered twice. -/
def redelivered : List SeverityLabel := .emit (change "high") :: handle 0 0 ++ handle 0 1

def returnsAfter (time : Nat) : List SeverityLabel :=
  .emit (change "high") :: handle 0 0 ++ .emit (change "low") :: handle 1 1 ++
    .tick time :: .emit (change "high") :: handle 2 2

def rolledBack : List SeverityLabel :=
  [.emit (change "high"), .deliver 0, .resolve 0 view, .claim 0, .fail 0] ++ handle 0 1

def hasEnded (run : SeverityRun) : Bool :=
  match run.phase with
  | .ended => true
  | _ => false

theorem quiet_of_ended {w : SeverityWorld} (ended : w.runs.all hasEnded) : w.Quiet := by
  intro r event d here
  have done := all_eq_true.mp ended _ (mem_of_getElem? here)
  cases done

def spared (w : SeverityWorld) : SeverityLabel → Bool
  | .commit r =>
    match w.runs[r]? with
    | some ⟨event, .returned (some _)⟩ => w.handled.any (·.event == event)
    | some ⟨_, .claimed _⟩ => w.notices.isEmpty
    | _ => true
  | .fail _ => false
  | _ => true

theorem spares_of_spared {w : SeverityWorld} {label : SeverityLabel}
    (checked : spared w label) : w.Spares label := by
  cases label with
  | commit r =>
    constructor
    · intro event d here first
      rw [spared, here] at checked
      obtain ⟨h, mem, same⟩ := any_eq_true.mp checked
      exact absurd (eq_of_beq same) (first h mem)
    · intro event d here pair _ n mem
      rw [spared, here] at checked
      rw [List.isEmpty_iff.mp checked] at mem
      cases mem
  | fail r => cases checked
  | tick | emit | deliver | resolve | claim => trivial

end SeveritySample

open SeverityWorld SeveritySample in
/-- An event that is delivered twice is announced once. -/
theorem severity_announced_once_redelivered :
    ∃ w, run (step 1 10) (.initial 0) redelivered = some w ∧ w.handled.length = 1 ∧
      w.notices.length = 1 ∧ w.AnnouncedOnce := by
  have reached : (run (step 1 10) (.initial 0) redelivered).any (fun w =>
      w.runs.all hasEnded && w.handled.length == 1 && w.notices.length == 1) = true := by
    decide +kernel
  have checked : check (step 1 10) spared (.initial 0) redelivered := by
    decide +kernel
  obtain ⟨w, ran, facts⟩ := (Option.any_eq_true _ _).mp reached
  simp only [Bool.and_eq_true, beq_iff_eq] at facts
  obtain ⟨⟨ended, handled⟩, notices⟩ := facts
  have always := severity_announced_once 1 10 0 redelivered (.of_check spares_of_spared checked)
  exact ⟨w, ran, handled, notices, always.last ran (quiet_of_ended ended)⟩

open SeverityWorld SeveritySample in
def SeverityWorld.Misses (labels : List SeverityLabel) : Prop :=
  ∃ w, run (step 1 10) (.initial 0) labels = some w ∧ w.Quiet ∧ ¬w.AnnouncedOnce

open SeverityWorld SeveritySample in
/-- A severity that returns within a day is skipped, one that returns later meets the identifiers
of its first time, and a delivery that was rolled back leaves its claim to the next one. -/
theorem severity_not_announced :
    SeverityWorld.Misses (returnsAfter 0) ∧ SeverityWorld.Misses (returnsAfter 86400001) ∧
      SeverityWorld.Misses rolledBack := by
  have silent : [returnsAfter 0, returnsAfter 86400001, rolledBack].all (fun labels =>
      (run (step 1 10) (.initial 0) labels).any fun w =>
        w.runs.all hasEnded && !decide w.AnnouncedOnce) = true := by
    decide +kernel
  have misses : ∀ labels ∈ [returnsAfter 0, returnsAfter 86400001, rolledBack],
      SeverityWorld.Misses labels := by
    intro labels mem
    obtain ⟨w, ran, facts⟩ := (Option.any_eq_true _ _).mp (all_eq_true.mp silent labels mem)
    obtain ⟨ended, missing⟩ := Bool.and_eq_true_iff.mp facts
    rw [Bool.not_eq_true', decide_eq_false_iff_not] at missing
    exact ⟨w, ran, quiet_of_ended ended, missing⟩
  exact ⟨misses _ (by simp), misses _ (by simp), misses _ (by simp)⟩

end OpenWind
