import OpenWind.Automation.SeverityNotices

/-!
# Failures of notification channels

`dispatch_severity_notification` inserts a notification and its recipient for each channel and
each recipient, catches what fails, and records a failed channel in the audit log.  It does so in
the transaction of its caller, where a failed statement makes every later one fail, up to the
rollback to the savepoint that the rule's actions run under.
-/

open List

namespace OpenWind

open Attempt

inductive DispatchAudit
  | channelFailed (channel : NoticeChannel) (errorSummary : String)
  | dispatched (severity : String) (policy : ResolvedPolicy) (recipientCount : Nat)
      (channelResults : List (NoticeChannel × Bool)) (partialFailure allChannelsFailed : Bool)

structure NoticeTx where
  notifications : List (NoticeChannel × String) := []
  notificationRecipients : List (NoticeChannel × String) := []
  audit : List DispatchAudit := []
  /-- A statement has failed, and nothing was rolled back since. -/
  aborted : Bool := false

namespace NoticeTx

structure InsertFaults where
  notification : Nat → String → Option String
  recipient : Nat → String → Option String

def InsertFaults.fails (faults : InsertFaults) (i : Nat) (recipientId : String) : Prop :=
  faults.notification i recipientId ≠ none ∨ faults.recipient i recipientId ≠ none

def txAborted : String :=
  "current transaction is aborted, commands ignored until end of transaction block"

def statement (fault : Option String) (effect : NoticeTx → NoticeTx) :
    Attempt NoticeTx String Unit := fun s =>
  if s.aborted then (.error txAborted, s)
  else
    match fault with
    | some message => (.error message, { s with aborted := true })
    | none => (.ok (), effect s)

/-- Both inserts do nothing where there is such a row. -/
def insertNotice (faults : InsertFaults) (i : Nat) (channel : NoticeChannel) (recipientId : String) :
    Attempt NoticeTx String Unit := do
  statement (faults.notification i recipientId) fun s =>
    { s with notifications := s.notifications.insert (channel, recipientId) }
  statement (faults.recipient i recipientId) fun s =>
    { s with notificationRecipients := s.notificationRecipients.insert (channel, recipientId) }

def dispatchRecipients (faults : InsertFaults) (i : Nat) (channel : NoticeChannel) :
    List String → Attempt NoticeTx String (Option String)
  | [] => ret none
  | recipientId :: rest => do
    let outcome ← caught (insertNotice faults i channel recipientId)
    let later ← dispatchRecipients faults i channel rest
    ret (match outcome with
      | .error message => some ((message.take 200).toString)
      | .ok () => later)

def writeAuditEntry (entry : DispatchAudit) : Attempt NoticeTx String Unit :=
  statement none fun s => { s with audit := s.audit ++ [entry] }

def setResult (results : List (NoticeChannel × Bool)) (channel : NoticeChannel) (ok : Bool) :
    List (NoticeChannel × Bool) :=
  if results.any (·.1 == channel) then
    results.map fun r => if r.1 == channel then (channel, ok) else r
  else results ++ [(channel, ok)]

/-- The loop over the channels. -/
def dispatchChannels (faults : InsertFaults) (recipients : List String) :
    Nat → List (NoticeChannel × Bool) → List NoticeChannel →
      Attempt NoticeTx String (List (NoticeChannel × Bool))
  | _, results, [] => ret results
  | i, results, channel :: rest => do
    let channelFailure ← dispatchRecipients faults i channel recipients
    match channelFailure.filter (· != "") with
    | some errorSummary =>
      writeAuditEntry (.channelFailed channel errorSummary)
      dispatchChannels faults recipients (i + 1) (setResult results channel false) rest
    | none => dispatchChannels faults recipients (i + 1) (setResult results channel true) rest

def dispatchSeverityNotification (faults : InsertFaults) (severity : String)
    (policy : ResolvedPolicy) (recipients : List String) : Attempt NoticeTx String Unit := do
  let channelResults ← dispatchChannels faults recipients 0 [] policy.channels
  let allChannelsFailed := !channelResults.isEmpty && channelResults.all fun r => !r.2
  let partialFailure := (channelResults.any fun r => !r.2) && !allChannelsFailed
  writeAuditEntry (.dispatched severity policy recipients.length channelResults partialFailure
    allChannelsFailed)

def runRule (action : Attempt NoticeTx String Unit) :
    Attempt NoticeTx String (Except String Unit) :=
  savepoint (fun before _ => before) action

/-- What is committed at the end of the transaction. -/
def committed (before after : NoticeTx) : NoticeTx := if after.aborted then before else after

def InsertFaults.Spares (faults : InsertFaults) (channels : List NoticeChannel)
    (recipients : List String) (pair : NoticeChannel × String) : Prop :=
  pair.1 ∈ channels ∧ pair.2 ∈ recipients ∧
    ∀ i, channels[i]? = some pair.1 → ¬ faults.fails i pair.2

structure Isolated (faults : InsertFaults) (channels : List NoticeChannel)
    (recipients : List String) (before after : NoticeTx) : Prop where
  notifications : ∀ pair, pair ∈ after.notifications ↔
    pair ∈ before.notifications ∨ faults.Spares channels recipients pair
  notificationRecipients : ∀ pair, pair ∈ after.notificationRecipients ↔
    pair ∈ before.notificationRecipients ∨ faults.Spares channels recipients pair
  recorded : ∃ entries, after.audit = before.audit ++ entries ∧
    ∀ i channel recipientId, channels[i]? = some channel → recipientId ∈ recipients →
      faults.fails i recipientId → ∃ summary, .channelFailed channel summary ∈ entries

section Dispatch

variable {faults : InsertFaults} {i : Nat} {channel : NoticeChannel} {recipientId : String}
  {recipients : List String} {s : NoticeTx}

/-! ## After a failure -/

theorem statement_aborted {fault : Option String} {effect : NoticeTx → NoticeTx}
    (aborted : s.aborted) : statement fault effect s = (.error txAborted, s) := by
  unfold statement
  rw [if_pos aborted]

theorem statement_runs {effect : NoticeTx → NoticeTx} (running : s.aborted = false) :
    statement none effect s = (.ok (), effect s) := by
  unfold statement
  rw [running, if_neg Bool.false_ne_true]

theorem statement_fails {message : String} {effect : NoticeTx → NoticeTx}
    (running : s.aborted = false) :
    statement (some message) effect s = (.error message, { s with aborted := true }) := by
  unfold statement
  rw [running, if_neg Bool.false_ne_true]

theorem insertNotice_aborted (aborted : s.aborted) :
    insertNotice faults i channel recipientId s = (.error txAborted, s) := by
  simp only [insertNotice, bind_eq, Attempt.bind, statement_aborted aborted]

theorem insertNotice_fails (fails : faults.fails i recipientId) :
    (insertNotice faults i channel recipientId s).2.aborted := by
  by_cases aborted : s.aborted = true
  · rw [insertNotice_aborted aborted]
    exact aborted
  · have running : s.aborted = false := Bool.not_eq_true _ ▸ aborted
    cases first : faults.notification i recipientId with
    | some message =>
      simp only [insertNotice, bind_eq, Attempt.bind, first, statement_fails running]
    | none =>
      cases second : faults.recipient i recipientId with
      | some message =>
        have running' : NoticeTx.aborted { s with
            notifications := s.notifications.insert (channel, recipientId) } = false := running
        simp only [insertNotice, bind_eq, Attempt.bind, first, second, statement_runs running,
          statement_fails running']
      | none => exact absurd fails (by simp [InsertFaults.fails, first, second])

theorem dispatchRecipients_cons {rest : List String} :
    (dispatchRecipients faults i channel (recipientId :: rest) s).2 =
      (dispatchRecipients faults i channel rest
        (insertNotice faults i channel recipientId s).2).2 := by
  simp only [dispatchRecipients, bind_eq, Attempt.bind, caught]
  split <;> simp_all [ret]

theorem dispatchRecipients_aborted (aborted : s.aborted) :
    (dispatchRecipients faults i channel recipients s).2 = s := by
  induction recipients with
  | nil => rfl
  | cons recipientId rest ih => rw [dispatchRecipients_cons, insertNotice_aborted aborted, ih]

theorem dispatchRecipients_fails (mem : recipientId ∈ recipients)
    (fails : faults.fails i recipientId) :
    (dispatchRecipients faults i channel recipients s).2.aborted := by
  induction recipients generalizing s with
  | nil => cases mem
  | cons first rest ih =>
    rw [dispatchRecipients_cons]
    rcases mem_cons.mp mem with rfl | later
    · have aborted : (insertNotice faults i channel recipientId s).2.aborted :=
        insertNotice_fails fails
      rw [dispatchRecipients_aborted aborted]
      exact aborted
    · exact ih later

def Faulty (faults : InsertFaults) (recipients : List String) (i : Nat)
    (channels : List NoticeChannel) : Prop :=
  ∃ j < channels.length, ∃ recipientId ∈ recipients, faults.fails (i + j) recipientId

theorem dispatchChannels_fails {results : List (NoticeChannel × Bool)}
    {channels : List NoticeChannel} (failed : s.aborted ∨ Faulty faults recipients i channels) :
    (dispatchChannels faults recipients i results channels).Ends s
      (fun _ t => t.aborted) fun _ _ => True := by
  induction channels generalizing i s results with
  | nil =>
    rcases failed with aborted | ⟨j, inside, -⟩
    · exact Ends.ret aborted
    · cases inside
  | cons channel rest ih =>
    have goesOn : ((dispatchRecipients faults i channel recipients s).2).aborted ∨
        Faulty faults recipients (i + 1) rest := by
      rcases failed with aborted | ⟨j, inside, recipientId, mem, fails⟩
      · rw [dispatchRecipients_aborted aborted]
        exact Or.inl aborted
      · cases j with
        | zero => exact Or.inl (dispatchRecipients_fails mem fails)
        | succ j =>
          have index : i + (j + 1) = i + 1 + j := by omega
          exact Or.inr ⟨j, Nat.lt_of_succ_lt_succ inside, recipientId, mem, index ▸ fails⟩
    refine Ends.bind ⟨fun failure _ => ?_, fun _ _ => trivial⟩
    dsimp only
    split
    · -- the entry is refused when the transaction is aborted
      refine Ends.bind ⟨fun _ wrote => ih ?_, fun _ _ => trivial⟩
      refine goesOn.imp_left fun aborted => ?_
      rw [writeAuditEntry, statement_aborted aborted] at wrote
      cases wrote
    · exact ih goesOn

theorem dispatch_fails (severity : String) {policy : ResolvedPolicy}
    (failed : Faulty faults recipients 0 policy.channels) :
    ∃ e, (dispatchSeverityNotification faults severity policy recipients s).1 = .error e := by
  have ends : (dispatchSeverityNotification faults severity policy recipients).Ends s
      (fun _ _ => False) fun _ _ => True := by
    refine Ends.bind ((dispatchChannels_fails (Or.inr failed)).mono (fun results t aborted => ?_)
      fun _ _ _ => trivial)
    refine ⟨fun _ wrote => ?_, fun _ _ => trivial⟩
    rw [writeAuditEntry, statement_aborted aborted] at wrote
    cases wrote
  cases ran : (dispatchSeverityNotification faults severity policy recipients s).1 with
  | error e => exact ⟨e, rfl⟩
  | ok _ => exact (ends.1 _ ran).elim

/-! ## Without a failure -/

def add (s : NoticeTx) (pair : NoticeChannel × String) : NoticeTx :=
  { s with
    notifications := s.notifications.insert pair
    notificationRecipients := s.notificationRecipients.insert pair }

theorem foldl_add (pairs : List (NoticeChannel × String)) :
    (∀ pair, pair ∈ (pairs.foldl add s).notifications ↔ pair ∈ s.notifications ∨ pair ∈ pairs) ∧
    (∀ pair, pair ∈ (pairs.foldl add s).notificationRecipients ↔
      pair ∈ s.notificationRecipients ∨ pair ∈ pairs) ∧
    (pairs.foldl add s).audit = s.audit ∧ (pairs.foldl add s).aborted = s.aborted := by
  induction pairs generalizing s with
  | nil => simp
  | cons first rest ih =>
    obtain ⟨notifications, recipients, audit, aborted⟩ := ih (s := s.add first)
    refine ⟨fun pair => ?_, fun pair => ?_, audit, aborted⟩
    · rw [foldl_cons, notifications, add, mem_insert_iff, mem_cons]
      tauto
    · rw [foldl_cons, recipients, add, mem_insert_iff, mem_cons]
      tauto

theorem insertNotice_spared (running : s.aborted = false) (spared : ¬ faults.fails i recipientId) :
    insertNotice faults i channel recipientId s = (.ok (), s.add (channel, recipientId)) := by
  rw [InsertFaults.fails, not_or, not_not, not_not] at spared
  simp only [insertNotice, bind_eq, Attempt.bind, spared.1, spared.2, statement_runs running]
  exact statement_runs running

theorem dispatchRecipients_spared (running : s.aborted = false)
    (spared : ∀ recipientId ∈ recipients, ¬ faults.fails i recipientId) :
    dispatchRecipients faults i channel recipients s =
      (.ok none, (recipients.map fun recipientId => (channel, recipientId)).foldl add s) := by
  induction recipients generalizing s with
  | nil => rfl
  | cons recipientId rest ih =>
    obtain ⟨first, later⟩ := forall_mem_cons.mp spared
    simp only [dispatchRecipients, bind_eq, Attempt.bind, caught,
      insertNotice_spared running first, ih (s := s.add (channel, recipientId)) running later]
    rfl

theorem dispatchChannels_spared (results : List (NoticeChannel × Bool))
    {channels : List NoticeChannel} (running : s.aborted = false)
    (spared : ¬ Faulty faults recipients i channels) :
    ∃ results', dispatchChannels faults recipients i results channels s = (.ok results',
      (channels.flatMap fun channel => recipients.map fun recipientId =>
        (channel, recipientId)).foldl add s) := by
  induction channels generalizing i s results with
  | nil => exact ⟨results, rfl⟩
  | cons channel rest ih =>
    have here : ∀ recipientId ∈ recipients, ¬ faults.fails i recipientId :=
      fun recipientId mem fails => spared ⟨0, Nat.zero_lt_succ _, recipientId, mem, fails⟩
    have later : ¬ Faulty faults recipients (i + 1) rest := by
      rintro ⟨j, inside, recipientId, mem, fails⟩
      have index : i + 1 + j = i + (j + 1) := by omega
      exact spared ⟨j + 1, Nat.succ_lt_succ inside, recipientId, mem, index ▸ fails⟩
    simp only [dispatchChannels, bind_eq, Attempt.bind, dispatchRecipients_spared running here,
      Option.filter_none, flatMap_cons, foldl_append]
    exact ih _ ((foldl_add (recipients.map fun recipientId =>
      (channel, recipientId))).2.2.2.trans running) later

theorem dispatch_spared (severity : String) {policy : ResolvedPolicy} (running : s.aborted = false)
    (spared : ¬ Faulty faults recipients 0 policy.channels) :
    ∃ entry, dispatchSeverityNotification faults severity policy recipients s = (.ok (),
      { (policy.channels.flatMap fun channel => recipients.map fun recipientId =>
          (channel, recipientId)).foldl add s with audit := s.audit ++ [entry] }) := by
  obtain ⟨results, ran⟩ := dispatchChannels_spared [] running spared
  obtain ⟨-, -, audit, aborted⟩ := foldl_add (s := s)
    (policy.channels.flatMap fun channel => recipients.map fun recipientId => (channel, recipientId))
  apply Exists.intro
  simp only [dispatchSeverityNotification, bind_eq, Attempt.bind, ran]
  rw [← audit]
  exact statement_runs (aborted.trans running)

theorem mem_pairs {channels : List NoticeChannel}
    (spared : ∀ i < channels.length, ∀ recipientId ∈ recipients, ¬ faults.fails i recipientId)
    (pair : NoticeChannel × String) :
    pair ∈ (channels.flatMap fun channel => recipients.map fun recipientId =>
      (channel, recipientId)) ↔ faults.Spares channels recipients pair := by
  obtain ⟨channel, recipientId⟩ := pair
  simp only [mem_flatMap, mem_map, Prod.mk.injEq]
  constructor
  · rintro ⟨_, inChannels, _, inRecipients, rfl, rfl⟩
    refine ⟨inChannels, inRecipients, fun i found => ?_⟩
    exact spared i (List.getElem?_eq_some_iff.mp found).1 _ inRecipients
  · rintro ⟨inChannels, inRecipients, -⟩
    exact ⟨channel, inChannels, recipientId, inRecipients, rfl, rfl⟩

end Dispatch

/-- The transaction commits the rows of exactly the spared pairs, with the failed channels on
record, if and only if no insert fails. -/
theorem channels_isolated_iff (faults : InsertFaults) (severity : String) (policy : ResolvedPolicy)
    (recipients : List String) (before : NoticeTx) (running : before.aborted = false) :
    Isolated faults policy.channels recipients before (committed before
        (runRule (dispatchSeverityNotification faults severity policy recipients) before).2) ↔
      ∀ i < policy.channels.length, ∀ recipientId ∈ recipients, ¬ faults.fails i recipientId := by
  by_cases faulty : Faulty faults recipients 0 policy.channels
  · -- everything is rolled back, the record of the failed channel too
    obtain ⟨e, failed⟩ := dispatch_fails (s := before) severity faulty
    have undone : (runRule (dispatchSeverityNotification faults severity policy recipients)
        before).2 = before := by
      unfold runRule savepoint
      rcases ran : dispatchSeverityNotification faults severity policy recipients before with ⟨r, t⟩
      rw [ran] at failed
      cases failed
      rfl
    obtain ⟨i, inside, recipientId, mem, fails⟩ := faulty
    rw [Nat.zero_add] at fails
    rw [undone, committed, running, if_neg Bool.false_ne_true]
    refine ⟨fun isolated => ?_, fun spared => absurd fails (spared i inside recipientId mem)⟩
    obtain ⟨entries, appended, recorded⟩ := isolated.recorded
    have nothing : entries = [] := self_eq_append_right.mp appended
    obtain ⟨summary, entry⟩ :=
      recorded i _ recipientId (getElem?_eq_getElem inside) mem fails
    rw [nothing] at entry
    cases entry
  · have spared : ∀ i < policy.channels.length, ∀ recipientId ∈ recipients,
        ¬ faults.fails i recipientId := fun i inside recipientId mem fails =>
      faulty ⟨i, inside, recipientId, mem, (Nat.zero_add i).symm ▸ fails⟩
    refine iff_of_true ?_ spared
    obtain ⟨entry, ran⟩ := dispatch_spared severity running faulty
    obtain ⟨notifications, notificationRecipients, -, aborted⟩ := foldl_add (s := before)
      (policy.channels.flatMap fun channel => recipients.map fun recipientId => (channel, recipientId))
    have pairs := mem_pairs spared
    have succeeded : (runRule (dispatchSeverityNotification faults severity policy recipients)
        before).2 = (dispatchSeverityNotification faults severity policy recipients before).2 := by
      unfold runRule savepoint
      rw [ran]
    rw [succeeded, ran, committed, aborted, running, if_neg Bool.false_ne_true]
    refine ⟨fun pair => ?_, fun pair => ?_, [entry], rfl, fun i channel recipientId found mem fails =>
      absurd fails (spared i (List.getElem?_eq_some_iff.mp found).1 recipientId mem)⟩
    · rw [← pairs]
      exact notifications pair
    · rw [← pairs]
      exact notificationRecipients pair

/-! ## An insert that fails -/

def mailAndCall : ResolvedPolicy := ⟨none, [.email, .call], true, false, .hardcodedDefault⟩

def callFails : InsertFaults where
  notification i recipientId := if i = 1 ∧ recipientId = "bob" then some "timeout" else none
  recipient _ _ := none

theorem channels_isolated_quiet :
    Isolated ⟨fun _ _ => none, fun _ _ => none⟩ [.email, .call] ["ann", "bob"] {}
      (committed {} (runRule (dispatchSeverityNotification ⟨fun _ _ => none, fun _ _ => none⟩
        "high" mailAndCall ["ann", "bob"]) {}).2) := by
  refine (channels_isolated_iff _ "high" mailAndCall ["ann", "bob"] {} rfl).mpr fun i _ id _ => ?_
  simp [InsertFaults.fails]

/-- The e-mails are lost with it, and nothing is recorded. -/
theorem channel_failure_loses_others :
    let after := committed {} (runRule (dispatchSeverityNotification callFails "high" mailAndCall
      ["ann", "bob"]) {}).2
    after.notifications = [] ∧ callFails.Spares [.email, .call] ["ann", "bob"] (.email, "ann") ∧
      ¬ Isolated callFails [.email, .call] ["ann", "bob"] {} after := by
  have rolledBack : (committed {} (runRule (dispatchSeverityNotification callFails "high" mailAndCall
      ["ann", "bob"]) {}).2).notifications = [] := by rfl
  have spared : callFails.Spares [.email, .call] ["ann", "bob"] (.email, "ann") := by
    refine ⟨by decide, by decide, fun i _ => ?_⟩
    simp [InsertFaults.fails, callFails]
  refine ⟨rolledBack, spared, fun isolated => ?_⟩
  have kept := (isolated.notifications (.email, "ann")).mpr (Or.inr spared)
  rw [rolledBack] at kept
  cases kept

end NoticeTx

end OpenWind
