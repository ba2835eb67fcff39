import OpenWind.Lib.RowLocks
import OpenWind.Schedule.Tick

/-!
# Edits of schedule rules

The next fire time of a rule is computed from its cron expression and its timezone when the rule
is created, when it is edited and when a tick claims it.  An edit merges what it is given with a
row that it has read without a lock, and a claim computes with the row that the poll has read.
-/

open List Option

namespace OpenWind

open Txn Runs Txn.Safe

inductive RuleStatus
  | active | paused | archived
  deriving DecidableEq

structure ScheduleRuleRow where
  id : Id
  tenantId : Id
  cronExpr : String
  timezone : String
  status : RuleStatus := .active
  nextFireAt : Option Time
  lastFiredAt : Option Time := none
  updatedAt : Time
  deletedAt : Option Time := none
  deriving DecidableEq

structure CronParser where
  validateCronExpr : String → Bool
  isValidTimezone : String → Bool
  slots : String → String → Option Slots

def CronParser.computeNextFireAt (cron : CronParser) (cronExpr timezone : String) (now : Time) :
    Option Time :=
  (cron.slots cronExpr timezone).map fun slots => slots.next now

inductive RuleError
  | validation (field : String)
  | notFound
  | archivedTerminal
  | internal
  | skipped
  deriving DecidableEq

structure RuleStore where
  rules : List ScheduleRuleRow
  deriving DecidableEq

namespace RuleStore

def scheduleRules : Table RuleStore Id ScheduleRuleRow where
  rows := rules
  put db rows := { db with rules := rows }
  key := ScheduleRuleRow.id
  rows_put _ _ := rfl

end RuleStore

/-! ## Requests and claims -/

def ScheduleRuleRow.isOf (tenantId id : Id) (row : ScheduleRuleRow) : Bool :=
  row.id == id && row.tenantId == tenantId

def ScheduleRuleRow.isLive (tenantId id : Id) (row : ScheduleRuleRow) : Bool :=
  row.isOf tenantId id && row.deletedAt.isNone

def ScheduleRuleRow.isDue (tenantId id : Id) (tickTime : Time) (row : ScheduleRuleRow) : Bool :=
  row.isLive tenantId id && row.status == .active &&
    row.nextFireAt.any fun next => decide (next ≤ tickTime)

/-- What a `POST` is given. -/
structure NewRule where
  id : Id
  tenantId : Id
  cronExpr : String
  timezone : String

structure RulePatch where
  cronExpr : Option String := none
  timezone : Option String := none
  status : Option RuleStatus := none

abbrev RuleTx := Prog RuleStore Id RuleError

def NewRule.row (input : NewRule) (nextFireAt now : Time) : ScheduleRuleRow :=
  { id := input.id, tenantId := input.tenantId, cronExpr := input.cronExpr,
    timezone := input.timezone, nextFireAt := some nextFireAt, updatedAt := now }

def createRule (cron : CronParser) (input : NewRule) (now : Time) : RuleTx Unit := do
  Prog.require (cron.isValidTimezone input.timezone) (.validation "timezone")
  Prog.require (cron.validateCronExpr input.cronExpr) (.validation "cronExpr")
  let nextFireAt ← Prog.getOr (cron.computeNextFireAt input.cronExpr input.timezone now)
    (.validation "cronExpr")
  RuleStore.scheduleRules.insert .internal [input.row nextFireAt now]

namespace RulePatch

/-- The schedule itself is changed. -/
def reschedules (input : RulePatch) : Bool := input.cronExpr.isSome || input.timezone.isSome

def recompute (cron : CronParser) (input : RulePatch) (existing : ScheduleRuleRow) (now : Time) :
    Option Time :=
  cron.computeNextFireAt (input.cronExpr.getD existing.cronExpr)
    (input.timezone.getD existing.timezone) now

def nextFireAtUpdate (cron : CronParser) (input : RulePatch) (existing : ScheduleRuleRow)
    (now : Time) : Option (Option (Option Time)) :=
  if input.status = some .paused then some (some none)
  else if input.status = some .archived then some (some none)
  else if input.status = some .active ∧ existing.status = .paused then
    (input.recompute cron existing now).map fun next => some (some next)
  else if input.reschedules then
    (input.recompute cron existing now).map fun next => some (some next)
  else some none

/-- `set({ ...input, … })` -/
def apply (input : RulePatch) (update : Option (Option Time)) (now : Time) (row : ScheduleRuleRow) :
    ScheduleRuleRow :=
  { row with
    cronExpr := input.cronExpr.getD row.cronExpr
    timezone := input.timezone.getD row.timezone
    status := input.status.getD row.status
    nextFireAt := update.getD row.nextFireAt
    updatedAt := now }

end RulePatch

/-- The row that the edit has read. -/
def patchRule (cron : CronParser) (tenantId id : Id) (input : RulePatch) (now : Time) :
    RuleTx ScheduleRuleRow := do
  Prog.require (input.timezone.all cron.isValidTimezone) (.validation "timezone")
  Prog.require (input.cronExpr.all cron.validateCronExpr) (.validation "cronExpr")
  let existing ← RuleStore.scheduleRules.find (·.isLive tenantId id)
  let existing ← Prog.getOr existing .notFound
  Prog.require (!(existing.status == .archived && input.status.isSome)) .archivedTerminal
  let update ← Prog.getOr (input.nextFireAtUpdate cron existing now) .internal
  RuleStore.scheduleRules.updateOr .notFound (·.isLive tenantId id) (input.apply update now)
  return existing

def ScheduleRuleRow.deleted (now : Time) (row : ScheduleRuleRow) : ScheduleRuleRow :=
  { row with status := .paused, nextFireAt := none, deletedAt := some now, updatedAt := now }

def deleteRule (tenantId id : Id) (now : Time) : RuleTx Unit :=
  RuleStore.scheduleRules.updateOr .notFound (·.isLive tenantId id) (ScheduleRuleRow.deleted now)

def ScheduleRuleRow.advanced (nextFireAt tickTime : Time) (row : ScheduleRuleRow) :
    ScheduleRuleRow :=
  { row with nextFireAt := some nextFireAt, lastFiredAt := some tickTime, updatedAt := tickTime }

def claimRule (cron : CronParser) (tenantId id : Id) (tickTime : Time) :
    RuleTx (Option ScheduleRuleRow) := do
  let rule ← RuleStore.scheduleRules.find (·.isDue tenantId id tickTime)
  match rule with
  | none => return none
  | some rule =>
    let claimedRow ← RuleStore.scheduleRules.lockRow (some .skipped) (·.isDue tenantId id tickTime)
    match claimedRow with
    | none => return none
    | some _ =>
      let nextFireAt ← Prog.getOr (cron.computeNextFireAt rule.cronExpr rule.timezone tickTime)
        .internal
      RuleStore.scheduleRules.update (·.isOf tenantId id) (.advanced nextFireAt tickTime)
      return some rule

inductive RuleCall
  | create (input : NewRule) (now : Time)
  | patch (tenantId id : Id) (input : RulePatch) (now : Time)
  | delete (tenantId id : Id) (now : Time)
  | claim (tenantId id : Id) (tickTime : Time)

def RuleCall.program (cron : CronParser) : RuleCall → RuleTx (Option ScheduleRuleRow)
  | .create input now => do
    createRule cron input now
    return none
  | .patch tenantId id input now => do
    let existing ← patchRule cron tenantId id input now
    return some existing
  | .delete tenantId id now => do
    deleteRule tenantId id now
    return none
  | .claim tenantId id tickTime => claimRule cron tenantId id tickTime

/-! ## The property and the condition -/

def ScheduleRuleRow.Fits (cron : CronParser) (row : ScheduleRuleRow) : Prop :=
  if row.status = .active ∧ row.deletedAt = none then
    ∃ slots ∈ cron.slots row.cronExpr row.timezone, ∃ next ∈ row.nextFireAt, slots.slot next
  else row.nextFireAt = none

def RuleStore.Fit (cron : CronParser) (db : RuleStore) : Prop :=
  ∀ row ∈ db.rules, row.Fits cron

def RulePatch.sameSchedule (input : RulePatch) (existing row : ScheduleRuleRow) : Bool :=
  input.cronExpr.getD existing.cronExpr == input.cronExpr.getD row.cronExpr &&
    input.timezone.getD existing.timezone == input.timezone.getD row.timezone

def RulePatch.suits (input : RulePatch) (existing row : ScheduleRuleRow) : Bool :=
  match input.status with
  | some .paused => true
  | some .archived => true
  | some .active =>
    if existing.status = .paused || input.reschedules then input.sameSchedule existing row
    else row.status == .active
  | none => !input.reschedules || (row.status == .active && input.sameSchedule existing row)

def RuleCall.suited (call : RuleCall) (seen : Option ScheduleRuleRow) (db : RuleStore) : Bool :=
  match call with
  | .patch tenantId id input _ => seen.all fun existing => db.rules.all fun row =>
      !row.isLive tenantId id || input.suits existing row
  | .claim tenantId id _ => seen.all fun rule => db.rules.all fun row =>
      !row.isOf tenantId id || (row.cronExpr == rule.cronExpr && row.timezone == rule.timezone)
  | _ => true

def Suited (call : RuleCall) (seen : Option ScheduleRuleRow) (db : RuleStore) : Prop :=
  call.suited seen db = true

/-! ## Rows -/

section Rows

variable {cron : CronParser} {row existing : ScheduleRuleRow} {input : RulePatch} {now : Time}

theorem CronParser.computed {cronExpr timezone : String} {next : Time}
    (computed : cron.computeNextFireAt cronExpr timezone now = some next) :
    ∃ slots ∈ cron.slots cronExpr timezone, slots.slot next := by
  obtain ⟨slots, parsed, rfl⟩ := map_eq_some_iff.mp computed
  exact ⟨slots, parsed, slots.isSlot now⟩

theorem ScheduleRuleRow.fits_active (active : row.status = .active) (live : row.deletedAt = none) :
    row.Fits cron ↔
      ∃ slots ∈ cron.slots row.cronExpr row.timezone, ∃ next ∈ row.nextFireAt, slots.slot next := by
  unfold Fits
  rw [if_pos ⟨active, live⟩]

theorem ScheduleRuleRow.fits_idle (idle : ¬ (row.status = .active ∧ row.deletedAt = none)) :
    row.Fits cron ↔ row.nextFireAt = none := by
  unfold Fits
  rw [if_neg idle]

theorem ScheduleRuleRow.live_of_isLive {tenantId id : Id} (isLive : row.isLive tenantId id) :
    row.deletedAt = none :=
  isNone_iff_eq_none.mp (Bool.and_eq_true_iff.mp isLive).2

theorem RulePatch.recompute_fits {next : Time} (live : row.deletedAt = none)
    (active : input.status.getD row.status = .active)
    (recomputed : input.recompute cron existing now = some next)
    (same : input.sameSchedule existing row) :
    (input.apply (some (some next)) now row).Fits cron := by
  obtain ⟨slots, parsed, slot⟩ := CronParser.computed recomputed
  simp only [sameSchedule, Bool.and_eq_true, beq_iff_eq] at same
  rw [same.1, same.2] at parsed
  have stored : (input.apply (some (some next)) now row).status = .active := active
  exact (ScheduleRuleRow.fits_active stored live).mpr ⟨slots, parsed, next, rfl, slot⟩

theorem RulePatch.leave_fits (fits : row.Fits cron) (fixed : input.reschedules = false)
    (status : input.status.getD row.status = row.status) :
    (input.apply none now row).Fits cron := by
  simp only [reschedules, Bool.or_eq_false_iff, isSome_eq_false_iff, isNone_iff_eq_none] at fixed
  unfold ScheduleRuleRow.Fits apply at *
  rw [status, fixed.1, fixed.2]
  exact fits

theorem RulePatch.apply_fits {update : Option (Option Time)} (live : row.deletedAt = none)
    (fits : row.Fits cron) (suited : input.suits existing row)
    (updates : input.nextFireAtUpdate cron existing now = some update) :
    (input.apply update now row).Fits cron := by
  cases status : input.status with
  | none =>
    simp only [nextFireAtUpdate, status, reduceCtorEq, if_false, false_and] at updates
    simp only [suits, status] at suited
    by_cases changes : input.reschedules = true
    · rw [if_pos changes] at updates
      obtain ⟨next, recomputed, rfl⟩ := map_eq_some_iff.mp updates
      rw [changes, Bool.not_true, Bool.false_or, Bool.and_eq_true, beq_iff_eq] at suited
      refine recompute_fits live ?_ recomputed suited.2
      rw [status]
      exact suited.1
    · rw [if_neg changes] at updates
      cases updates
      exact leave_fits fits (Bool.eq_false_iff.mpr changes) (by rw [status]; rfl)
  | some stored =>
    cases stored with
    | paused =>
      simp only [nextFireAtUpdate, status, if_true] at updates
      cases updates
      have idle : (input.apply (some none) now row).status ≠ .active := by
        simp [apply, status]
      exact (ScheduleRuleRow.fits_idle fun both => idle both.1).mpr rfl
    | archived =>
      simp only [nextFireAtUpdate, status, Option.some.injEq, reduceCtorEq, if_false, if_true]
        at updates
      subst updates
      have idle : (input.apply (some none) now row).status ≠ .active := by
        simp [apply, status]
      exact (ScheduleRuleRow.fits_idle fun both => idle both.1).mpr rfl
    | active =>
      simp only [nextFireAtUpdate, status, Option.some.injEq, reduceCtorEq, if_false, true_and]
        at updates
      simp only [suits, status] at suited
      have made : input.status.getD row.status = .active := by rw [status]; rfl
      by_cases computes : existing.status = .paused ∨ input.reschedules = true
      · rw [if_pos (by simpa using computes)] at suited
        have recomputes : (input.recompute cron existing now).map (fun next => some (some next)) =
            some update := by
          rcases computes with resumed | changes
          · rwa [if_pos resumed] at updates
          · split at updates
            · exact updates
            · exact updates
        obtain ⟨next, recomputed, rfl⟩ := map_eq_some_iff.mp recomputes
        exact recompute_fits live made recomputed suited
      · obtain ⟨running, fixed⟩ := not_or.mp computes
        rw [if_neg (by simpa using computes), beq_iff_eq] at suited
        rw [if_neg running, if_neg fixed] at updates
        cases updates
        exact leave_fits fits (Bool.eq_false_iff.mpr fixed) (made.trans suited.symm)

end Rows

/-! ## Safety -/

/-- The rows that are locked stay. -/
def ruleRely : Rely RuleStore Id := RuleStore.scheduleRules.lockedStay

abbrev RuleStore.Keyed (db : RuleStore) : Prop := RuleStore.scheduleRules.Keyed db

/-- What a transaction commits. -/
def ruleContract (cron : CronParser) :
    Contract RuleCall RuleStore RuleError (Option ScheduleRuleRow) where
  failed _ _ _ := True
  returned call _ before after seen :=
    match call with
    | .create input now => ∃ next, (input.row next now).Fits cron ∧
        after.rules = before.rules ++ [input.row next now]
    | .patch tenantId id input now => ∃ existing update, seen = some existing ∧
        input.nextFireAtUpdate cron existing now = some update ∧
        after = RuleStore.scheduleRules.modify (·.isLive tenantId id) (input.apply update now) before
    | .delete tenantId id now =>
        after = RuleStore.scheduleRules.modify (·.isLive tenantId id) (.deleted now) before
    | .claim tenantId id tickTime => after = before ∨ ∃ rule next, seen = some rule ∧
        cron.computeNextFireAt rule.cronExpr rule.timezone tickTime = some next ∧
        (∀ row ∈ before.rules, row.isOf tenantId id = true →
          row.isDue tenantId id tickTime = true) ∧
        after = RuleStore.scheduleRules.modify (·.isOf tenantId id) (.advanced next tickTime) before

section Safety

variable {cron : CronParser} {tenantId ruleId : Id} {held : List Id} {db : RuleStore}

theorem ScheduleRuleRow.isOf_of_isLive {row : ScheduleRuleRow}
    (isLive : row.isLive tenantId ruleId) : row.isOf tenantId ruleId :=
  (Bool.and_eq_true_iff.mp isLive).1

variable {tickTime : Time} {f : ScheduleRuleRow → ScheduleRuleRow}

theorem ScheduleRuleRow.isLive_of_isDue {row : ScheduleRuleRow}
    (isDue : row.isDue tenantId ruleId tickTime) : row.isLive tenantId ruleId :=
  (Bool.and_eq_true_iff.mp (Bool.and_eq_true_iff.mp isDue).1).1

theorem ScheduleRuleRow.id_of_isOf {row : ScheduleRuleRow}
    (isOf : row.isOf tenantId ruleId) : row.id = ruleId :=
  eq_of_beq (Bool.and_eq_true_iff.mp isOf).1

theorem ScheduleRuleRow.id_of_isLive {row : ScheduleRuleRow}
    (isLive : row.isLive tenantId ruleId) : row.id = ruleId :=
  id_of_isOf (isOf_of_isLive isLive)

theorem respects_rule {p : ScheduleRuleRow → Bool} (keys : ∀ row, (f row).id = row.id)
    (rule : ∀ row, p row → row.id = ruleId) (own : ruleId ∈ held) :
    ruleRely.Respects held db (RuleStore.scheduleRules.modify p f db) := by
  refine Table.respects_modify (Table.rows_modify ..) (fun row => ?_) fun row free => ?_
  · split
    · exact keys row
    · rfl
  · refine if_neg fun selects => free ?_
    change row.id ∈ held
    rw [rule row selects]
    exact own

theorem safe_update (cron : CronParser) (call : RuleCall) (start : RuleStore)
    (seen : Option ScheduleRuleRow) {α : Type} {next : Unit → RuleTx α}
    {Q : α → List Id → (RuleStore → RuleStore) → RuleStore → Prop}
    (keys : ∀ row, (f row).id = row.id)
    (returns : ∀ before, (ruleContract cron).returned call start before
      (RuleStore.scheduleRules.modify (·.isLive tenantId ruleId) f before) seen)
    (ends : ∀ held patch later, (∀ last, RuleStore.Keyed last →
      (ruleContract cron).Commits ruleRely RuleStore.Keyed call start seen held patch last) →
      Safe ruleRely RuleStore.Keyed (fun _ => True) Q (next ()) held patch later) :
    Safe ruleRely RuleStore.Keyed (fun _ => True) Q
      ((RuleStore.scheduleRules.updateOr .notFound (·.isLive tenantId ruleId) f).bind next) held id
      db := by
  refine updateOr (fun v r selects selects' => ?_) trivial fun later row _ _ mem selects => ?_
  · exact (ScheduleRuleRow.id_of_isLive selects).trans (ScheduleRuleRow.id_of_isLive selects').symm
  · have own : ruleId ∈ ((RuleStore.scheduleRules.rows later).filter (·.isLive tenantId ruleId)).map
        RuleStore.scheduleRules.key :=
      List.mem_map.mpr ⟨row, mem_filter.mpr ⟨mem, selects⟩, ScheduleRuleRow.id_of_isLive selects⟩
    refine ends _ _ later fun last keyed => ⟨keyed.modify _ keys, ?_, returns last⟩
    exact respects_rule keys (fun row selects => ScheduleRuleRow.id_of_isLive selects)
      (mem_append_left _ own)

theorem safe_claim {start : RuleStore} :
    Safe ruleRely RuleStore.Keyed (fun _ => True)
      ((ruleContract cron).Commits ruleRely RuleStore.Keyed (.claim tenantId ruleId tickTime) start)
      (claimRule cron tenantId ruleId tickTime) held id db := by
  have idle : ∀ held last, RuleStore.Keyed last → (ruleContract cron).Commits ruleRely
      RuleStore.Keyed (.claim tenantId ruleId tickTime) start none held id last :=
    fun held last keyed => ⟨keyed, fun others _ => ruleRely.refl others last, .inl rfl⟩
  refine read fun polled _ _ => ?_
  split
  · exact ret fun last _ keyed => idle _ last keyed
  · next rule _ =>
    refine lockRow (fun _ _ => trivial) (fun later _ _ => ?_) fun locked row _ _ mem due => ?_
    · exact ret fun last _ keyed => idle _ last keyed
    · refine getOr (fun _ => trivial) fun next computed => ?_
      have isOf : row.isOf tenantId ruleId :=
        ScheduleRuleRow.isOf_of_isLive (ScheduleRuleRow.isLive_of_isDue due)
      have named : row.id = ruleId := ScheduleRuleRow.id_of_isOf isOf
      refine updateOne (fun v r selects selects' => ?_) (fun later onward => ?_)
        fun later onward _ => ?_
      · exact (ScheduleRuleRow.id_of_isOf selects).trans (ScheduleRuleRow.id_of_isOf selects').symm
      · exact ⟨row, (onward row mem_cons_self).mp mem, isOf⟩
      · refine ret fun last moved keyed => ⟨keyed.modify _ fun _ => rfl, ?_, ?_⟩
        · refine respects_rule (fun _ => rfl) (fun row selects => ScheduleRuleRow.id_of_isOf selects) ?_
          exact mem_append_right _ (named ▸ mem_cons_self)
        · refine .inr ⟨rule, next, rfl, computed, fun other mem' isOf' => ?_, rfl⟩
          have listed : row ∈ last.rules :=
            (moved row (mem_append_right _ mem_cons_self)).mp ((onward row mem_cons_self).mp mem)
          rwa [keyed.eq mem' listed ((ScheduleRuleRow.id_of_isOf isOf').trans named.symm)]

theorem safe_call (call : RuleCall) (db : RuleStore) :
    Safe ruleRely RuleStore.Keyed ((ruleContract cron).failed call db)
      ((ruleContract cron).Commits ruleRely RuleStore.Keyed call db) (call.program cron) [] id
      db := by
  cases call with
  | create input now =>
    refine Safe.bind (require (fun _ => trivial) fun _ => ?_)
    refine require (fun _ => trivial) fun _ => ?_
    refine getOr (fun _ => trivial) fun next computed => ?_
    have fits : (input.row next now).Fits cron := by
      obtain ⟨slots, parsed, slot⟩ := CronParser.computed computed
      have active : (input.row next now).status = .active := rfl
      exact (ScheduleRuleRow.fits_active active rfl).mpr ⟨slots, parsed, next, rfl, slot⟩
    refine Safe.ends (writeChecked trivial fun later _ _ fresh => ?_)
    refine ret fun mid onward _ => ret fun last moved keyed => ?_
    have own : ∀ row ∈ [input.row next now], RuleStore.scheduleRules.key row ∈
        [input.row next now].map RuleStore.scheduleRules.key ++ [] :=
      fun row mem => mem_append_left _ (List.mem_map_of_mem mem)
    have fresh' := Table.fresh_later fresh
      (fun row locked => (ruleRely.trans onward moved row locked).mpr) own
    exact ⟨keyed.append fresh', Table.respects_append (Table.rows_append ..) own, next, fits, rfl⟩
  | patch tenantId ruleId input now =>
    refine Safe.bind (require (fun _ => trivial) fun _ => ?_)
    refine require (fun _ => trivial) fun _ => ?_
    refine read fun later _ _ => ?_
    refine getOr (fun _ => trivial) fun existing _ => ?_
    refine require (fun _ => trivial) fun _ => ?_
    refine getOr (fun _ => trivial) fun update updates => ?_
    refine safe_update cron (.patch tenantId ruleId input now) db (some existing) (fun _ => rfl)
      (fun before => ⟨existing, update, rfl, updates, rfl⟩) ?_
    intro held patch later commits
    exact ret fun _ _ _ => ret fun last _ keyed => commits last keyed
  | delete tenantId ruleId now =>
    refine safe_update cron (.delete tenantId ruleId now) db none (fun _ => rfl) (fun _ => rfl) ?_
    intro held patch later commits
    exact ret fun last _ keyed => commits last keyed
  | claim tenantId ruleId tickTime => exact safe_claim

end Safety

/-! ## The runs -/

section Runs

variable {cron : CronParser} {tenantId ruleId : Id}

theorem RuleStore.Fit.modify {before : RuleStore} {p : ScheduleRuleRow → Bool}
    {f : ScheduleRuleRow → ScheduleRuleRow} (fit : before.Fit cron)
    (each : ∀ row ∈ before.rules, p row → (f row).Fits cron) :
    RuleStore.Fit cron (RuleStore.scheduleRules.modify p f before) := by
  intro row mem
  obtain ⟨old, listed, rfl⟩ := List.mem_map.mp mem
  split
  · next selects => exact each old listed selects
  · exact fit old listed

theorem ScheduleRuleRow.deleted_fits (row : ScheduleRuleRow) (now : Time) :
    (row.deleted now).Fits cron :=
  (fits_idle fun both => RuleStatus.noConfusion both.1).mpr rfl

theorem ScheduleRuleRow.advanced_fits {row rule : ScheduleRuleRow} {next tickTime : Time}
    (due : row.isDue tenantId ruleId tickTime)
    (computed : cron.computeNextFireAt rule.cronExpr rule.timezone tickTime = some next)
    (cronExpr : row.cronExpr = rule.cronExpr) (timezone : row.timezone = rule.timezone) :
    (row.advanced next tickTime).Fits cron := by
  obtain ⟨slots, parsed, slot⟩ := CronParser.computed computed
  rw [← cronExpr, ← timezone] at parsed
  have active : (row.advanced next tickTime).status = .active :=
    eq_of_beq (Bool.and_eq_true_iff.mp (Bool.and_eq_true_iff.mp due).1).2
  have isLive : row.isLive tenantId ruleId := isLive_of_isDue due
  have live : (row.advanced next tickTime).deletedAt = none := live_of_isLive isLive
  exact (fits_active active live).mpr ⟨slots, parsed, next, rfl, slot⟩

theorem fit_committed {call : RuleCall} {start before after : RuleStore}
    {seen : Option ScheduleRuleRow} (suited : Suited call seen before) (fit : before.Fit cron)
    (returned : (ruleContract cron).returned call start before after seen) : after.Fit cron := by
  cases call with
  | create input now =>
    obtain ⟨next, fits, rows⟩ := returned
    intro row mem
    rw [rows] at mem
    rcases mem_append.mp mem with old | new
    · exact fit row old
    · rw [mem_singleton.mp new]
      exact fits
  | patch tenantId ruleId input now =>
    obtain ⟨existing, update, rfl, updates, rfl⟩ := returned
    refine fit.modify fun row mem selects => ?_
    rw [Suited, RuleCall.suited, all_some] at suited
    have suits := List.all_eq_true.mp suited row mem
    rw [selects, Bool.not_true, Bool.false_or] at suits
    exact RulePatch.apply_fits (ScheduleRuleRow.live_of_isLive selects) (fit row mem) suits updates
  | delete tenantId ruleId now =>
    cases returned
    exact fit.modify fun row _ _ => row.deleted_fits now
  | claim tenantId ruleId tickTime =>
    rcases returned with rfl | ⟨rule, next, rfl, computed, due, rfl⟩
    · exact fit
    · refine fit.modify fun row mem selects => ?_
      rw [Suited, RuleCall.suited, all_some] at suited
      have same := List.all_eq_true.mp suited row mem
      rw [selects, Bool.not_true, Bool.false_or, Bool.and_eq_true, beq_iff_eq, beq_iff_eq] at same
      exact ScheduleRuleRow.advanced_fits (due row mem selects) computed same.1 same.2

end Runs

/-- In a run whose edits and claims commit on rules that suit what they have read, every rule that
is active and not deleted is due at a slot of its schedule, and no other rule is ever due. -/
theorem next_fire_at_fits (cron : CronParser) (db : RuleStore) (labels : List (Label RuleCall))
    (keyed : db.Keyed) (fit : db.Fit cron)
    (suited : Guarded (Pool.next (RuleCall.program cron)) (Pool.CommitsUnder Suited)
      (Pool.init db) labels) :
    Always (Pool.next (RuleCall.program cron)) (fun pool => pool.db.Fit cron) (Pool.init db)
      labels :=
  Pool.always (fun call store _ => safe_call call store)
    (fun under fit returned => fit_committed under fit returned) keyed fit suited

/-! ## A rule that is due while it is paused -/

namespace RuleEditSample

/-- The full hours, in minutes. -/
def hourly : Slots where
  slot t := t % 60 = 0
  next t := (t / 60 + 1) * 60
  later t := by omega
  isSlot t := by omega
  least slot after := by omega

def cron : CronParser := ⟨fun _ => true, fun _ => true, fun _ _ => some hourly⟩

def create : List (Label RuleCall) :=
  [.begin 0 (.create ⟨1, 0, "0 * * * *", "UTC"⟩ 10), .step 0, .finish 0]

/-- An edit from its start to its commit. -/
def edit (t : Nat) (input : RulePatch) (now : Time) : List (Label RuleCall) :=
  [.begin t (.patch 0 1 input now), .step t, .step t, .finish t]

def resumed : List (Label RuleCall) :=
  create ++ edit 1 { status := some .paused } 20 ++
    edit 2 { cronExpr := some "0 0 * * *", status := some .active } 30 ++
    [.begin 3 (.claim 0 1 70), .step 3, .step 3, .step 3, .finish 3, .begin 4 (.delete 0 1 80),
      .step 4, .finish 4]

def rescheduled : List (Label RuleCall) :=
  create ++ edit 1 { status := some .paused } 20 ++ edit 2 { cronExpr := some "0 0 * * *" } 30

end RuleEditSample

open RuleEditSample in
theorem resumed_rule_fits :
    Always (Pool.next (RuleCall.program cron)) (fun pool => pool.db.Fit cron)
      (Pool.init ⟨[]⟩) resumed :=
  next_fire_at_fits cron ⟨[]⟩ resumed nodup_nil nofun
    (Guarded.of_check (Pool.commitsCheck_sound fun suited => suited) (by decide +kernel))

open RuleEditSample in
/-- The paused rule has a next fire time. -/
theorem paused_rule_rescheduled :
    ¬ Always (Pool.next (RuleCall.program cron)) (fun pool => pool.db.Fit cron)
      (Pool.init ⟨[]⟩) rescheduled := by
  intro always
  have due : (run (Pool.next (RuleCall.program cron)) (Pool.init ⟨[]⟩) rescheduled).any (fun pool =>
      pool.db.rules.any fun row => row.status == .paused && row.nextFireAt.isSome) = true := by
    decide +kernel
  obtain ⟨pool, ran, due⟩ := (Option.any_eq_true _ _).mp due
  obtain ⟨row, mem, due⟩ := List.any_eq_true.mp due
  obtain ⟨paused, due⟩ := Bool.and_eq_true_iff.mp due
  have idle : ¬ (row.status = .active ∧ row.deletedAt = none) := by
    rw [eq_of_beq paused]
    exact fun both => RuleStatus.noConfusion both.1
  rw [(ScheduleRuleRow.fits_idle idle).mp (always.last ran row mem)] at due
  cases due

end OpenWind
