import OpenWind.Entity.Listings
import OpenWind.RateLimits.SlidingLimit

/-!
# Grants by mention

A mention in a comment of a third party may grant the person who is mentioned access to the
ticket, at most five times an hour: the grants of a ticket go through the rate limit.  A mention
that is refused leaves an audit row and raises the misuse alert.
-/

namespace OpenWind

open Runs SlidingWindow

def AUTO_GRANT_RATE_LIMIT : Nat := 5
def AUTO_GRANT_RATE_WINDOW_SECONDS : Nat := 60 * 60

/-! ## Who is mentioned -/

structure OrgUser where
  userId : String
  email : String
  loginName : String

structure ResolvedIdentifier where
  userId : String
  isTenantUser : Bool

def resolveIdentifier (toLowerCase : String → String) (zitadelUsers : List OrgUser)
    (rolesByUserId : List (String × List String)) (identifier : String) :
    Option ResolvedIdentifier :=
  let lowerIdentifier := toLowerCase identifier
  (zitadelUsers.find? fun u => u.userId == identifier || toLowerCase u.email == lowerIdentifier ||
    toLowerCase u.loginName == lowerIdentifier).map fun match_ =>
      ⟨match_.userId, ((rolesByUserId.lookup match_.userId).getD []).contains "user"⟩

/-! ## A job -/

/-- The data of a job, without the tenant and the ticket. -/
structure MentionJob where
  mentionIdentifier : String
  actingPersonId : String
  commentId : Id

/-- What a job reads, and how its transaction ends. -/
structure MentionReads where
  active : Bool
  instance_ : Option EntityInstance
  zitadelUsers : List OrgUser
  rolesByUserId : List (String × List String)
  /-- The workflows, when access is checked. -/
  db : Db
  /-- `allow_auto_grant_on_mention` of the workflow, when its row is found. -/
  allowAutoGrantOnMention : Option Bool
  pendingRequest : Bool
  /-- The update that grants access finds the ticket. -/
  updated : Bool
  /-- The transaction of the outcome is committed; otherwise the job fails. -/
  committed : Bool

structure MisuseAlert where
  reason : String
  source : String
  trigger : String
  ticketId : Id
  actingPersonId : String

/-- What a job writes. -/
inductive MentionEffect
  | audit (action : String) (grantedUserId : Option String)
  | systemReply (text : String) (targetUserId : String)
  | accessRequest (requesterId : String)
  | misuseAlert (alert : MisuseAlert)
  | grant (userId : String)
  | accessEvent (userId : String)

inductive MentionOutcome
  | skipped
  | existingAccess
  | requestAccess (userId : String)
  | autoGrant (userId : String)
  | fallback

def mentionOutcome (toLowerCase : String → String) (tenantId : Id) (job : MentionJob)
    (reads : MentionReads) : MentionOutcome :=
  if !reads.active then .skipped
  else match reads.instance_ with
    | none => .skipped
    | some instance_ =>
      let resolved := resolveIdentifier toLowerCase reads.zitadelUsers reads.rolesByUserId
        job.mentionIdentifier
      let accessCheckTargetId := (resolved.map (·.userId)).getD (instance_.createdBy.getD "")
      match hasEntityAccess reads.db tenantId instance_ accessCheckTargetId [] with
      | none => .skipped
      | some hasAccess =>
        match resolved with
        | none => .fallback
        | some resolved =>
          if !resolved.isTenantUser then .fallback
          else if hasAccess then .existingAccess
          else if reads.allowAutoGrantOnMention == some true then .autoGrant resolved.userId
          else .requestAccess resolved.userId

def tagMisuseAlert (ticketId : Id) (job : MentionJob) : MisuseAlert where
  reason := s!"Ticket {ticketId} hit its tagging-driven auto-grant rate cap ({AUTO_GRANT_RATE_LIMIT} per {AUTO_GRANT_RATE_WINDOW_SECONDS}s)"
  source := "third-party-api-misuse"
  trigger := "tagging_grant_cap"
  ticketId := ticketId
  actingPersonId := job.actingPersonId

def grantEffects (ticketId : Id) (job : MentionJob) (reads : MentionReads) (userId : String)
    (rateLimit : RateLimitResult) : List MentionEffect :=
  if !rateLimit.allowed then
    [.audit "tag.misuse_rate_capped" (some userId), .misuseAlert (tagMisuseAlert ticketId job)]
  else if reads.updated then
    [.grant userId, .audit "tag.auto_granted" (some userId), .accessEvent userId]
  else []

structure MentionRun where
  call : RateCall
  rateLimit : Option RateLimitResult
  effects : List MentionEffect

def resolveMention (toLowerCase : String → String) (tenantId ticketId : Id) (job : MentionJob)
    (reads : MentionReads) (call : RateCall) (rate : RateWorld) : MentionRun × RateWorld :=
  let whenCommitted (effects : List MentionEffect) := if reads.committed then effects else []
  match mentionOutcome toLowerCase tenantId job reads with
  | .skipped => (⟨call, none, []⟩, rate)
  | .existingAccess =>
    (⟨call, none, whenCommitted [.audit "tag.resolved_existing_access" none]⟩, rate)
  | .fallback =>
    (⟨call, none, whenCommitted [.audit "tag.fallback" none, .systemReply
      "One of the mentions in this comment could not be resolved to an org member."
      job.actingPersonId]⟩, rate)
  | .requestAccess userId =>
    let request := if reads.pendingRequest then [] else [.accessRequest userId]
    (⟨call, none, whenCommitted (request ++ [.audit "tag.access_request_created" (some userId)])⟩,
      rate)
  | .autoGrant userId =>
    let rateLimit := checkRateLimit AUTO_GRANT_RATE_LIMIT AUTO_GRANT_RATE_WINDOW_SECONDS call.now
      (some (runCheck AUTO_GRANT_RATE_LIMIT AUTO_GRANT_RATE_WINDOW_SECONDS call rate.key).1)
    (⟨call, some rateLimit, whenCommitted (grantEffects ticketId job reads userId rateLimit)⟩,
      rate.check AUTO_GRANT_RATE_LIMIT AUTO_GRANT_RATE_WINDOW_SECONDS call)

/-! ## Runs of jobs on one ticket -/

structure MentionWorld where
  rate : RateWorld
  runs : List MentionRun

structure MentionLabel where
  job : MentionJob
  reads : MentionReads
  call : RateCall

namespace MentionRun

def attempted (run : MentionRun) : Bool := run.rateLimit.isSome

def refused (run : MentionRun) : Bool := run.rateLimit.any (!·.allowed)

def granted (run : MentionRun) : Bool := run.effects.any fun
  | .grant _ => true
  | _ => false

def alerted (run : MentionRun) : Bool := run.effects.any fun
  | .misuseAlert _ => true
  | _ => false

def at_ (run : MentionRun) : Int := run.call.now

end MentionRun

namespace MentionWorld

def start : MentionWorld := ⟨RateWorld.start, []⟩

def step (toLowerCase : String → String) (tenantId ticketId : Id) (w : MentionWorld)
    (l : MentionLabel) : Option MentionWorld :=
  if w.rate.accepts l.call then
    let (run, rate) := resolveMention toLowerCase tenantId ticketId l.job l.reads l.call w.rate
    some ⟨rate, run :: w.runs⟩
  else none

/-- The jobs that came to the rate limit. -/
def attempts (w : MentionWorld) : List MentionRun := w.runs.filter MentionRun.attempted

def OneAlertPerHit (w : MentionWorld) : Prop :=
  OncePerBlock MentionRun.refused MentionRun.alerted w.attempts

/-- Five attempts fall into the hour that ends now. -/
def Full (w : MentionWorld) (now : Nat) : Prop :=
  AUTO_GRANT_RATE_LIMIT ≤
    count RateWorld.at_ (RateWorld.width AUTO_GRANT_RATE_WINDOW_SECONDS) (now : Int) w.rate.log

def Rearmed (toLowerCase : String → String) (tenantId : Id) (w : MentionWorld)
    (l : MentionLabel) : Prop :=
  ∀ userId, mentionOutcome toLowerCase tenantId l.job l.reads = .autoGrant userId →
    l.reads.committed = true → w.Full l.call.now →
    ∀ run ∈ w.attempts.takeWhile MentionRun.refused, run.alerted = false

structure Sound (w : MentionWorld) : Prop where
  rate : w.rate.Sound AUTO_GRANT_RATE_LIMIT AUTO_GRANT_RATE_WINDOW_SECONDS
  covered : ∀ t : Int,
    count MentionRun.at_ (RateWorld.width AUTO_GRANT_RATE_WINDOW_SECONDS) t
        (w.runs.filter MentionRun.granted) ≤
      count RateWorld.at_ (RateWorld.width AUTO_GRANT_RATE_WINDOW_SECONDS) t
        (w.rate.log.filter RateWorld.allowed)

variable {toLowerCase : String → String} {tenantId ticketId : Id} {w w' : MentionWorld}
  {l : MentionLabel}

variable {job : MentionJob} {reads : MentionReads} {userId : String} {rateLimit : RateLimitResult}
  {call : RateCall}

theorem granted_allowed
    (granted : (MentionRun.mk call (some rateLimit) (if reads.committed = true then
      grantEffects ticketId job reads userId rateLimit else [])).granted) :
    rateLimit.allowed := by
  unfold MentionRun.granted grantEffects at granted
  cases allowed : rateLimit.allowed with
  | true => rfl
  | false => cases committed : reads.committed <;> simp [allowed, committed] at granted

theorem alerted_iff :
    (MentionRun.mk call (some rateLimit) (if reads.committed = true then
      grantEffects ticketId job reads userId rateLimit else [])).alerted ↔
      rateLimit.allowed = false ∧ reads.committed := by
  unfold MentionRun.alerted grantEffects
  cases allowed : rateLimit.allowed <;> cases committed : reads.committed <;>
    cases updated : reads.updated <;> simp

theorem step_cases (stepped : w.step toLowerCase tenantId ticketId l = some w') :
    w.rate.accepts l.call ∧
      ((∃ run, w' = ⟨w.rate, run :: w.runs⟩ ∧ run.attempted = false ∧ run.granted = false ∧
          ∀ userId, mentionOutcome toLowerCase tenantId l.job l.reads ≠ .autoGrant userId) ∨
        ∃ userId rateLimit, mentionOutcome toLowerCase tenantId l.job l.reads = .autoGrant userId ∧
          rateLimit = (runCheck AUTO_GRANT_RATE_LIMIT AUTO_GRANT_RATE_WINDOW_SECONDS l.call
            w.rate.key).1 ∧
          w' = ⟨w.rate.check AUTO_GRANT_RATE_LIMIT AUTO_GRANT_RATE_WINDOW_SECONDS l.call,
            ⟨l.call, some rateLimit, if l.reads.committed = true then
              grantEffects ticketId l.job l.reads userId rateLimit else []⟩ :: w.runs⟩) := by
  unfold step at stepped
  split at stepped
  · next fits =>
    refine ⟨fits, ?_⟩
    have next := Option.some.inj stepped
    subst next
    cases outcome : mentionOutcome toLowerCase tenantId l.job l.reads with
    | autoGrant userId => exact .inr ⟨userId, _, rfl, rfl, rfl⟩
    | skipped => exact .inl ⟨_, rfl, rfl, rfl, nofun⟩
    | existingAccess | fallback =>
      refine .inl ⟨_, rfl, rfl, ?_, nofun⟩
      cases committed : l.reads.committed <;> rfl
    | requestAccess userId =>
      refine .inl ⟨_, rfl, rfl, ?_, nofun⟩
      cases committed : l.reads.committed <;> cases pending : l.reads.pendingRequest <;> rfl
  · cases stepped

theorem Sound.step (sound : w.Sound)
    (stepped : w.step toLowerCase tenantId ticketId l = some w') : w'.Sound := by
  obtain ⟨fits, ⟨run, rfl, _, granted, _⟩ | ⟨userId, rateLimit, _, answered, rfl⟩⟩ :=
    step_cases stepped
  · refine ⟨sound.rate, fun t => ?_⟩
    rw [List.filter_cons_of_neg (Bool.eq_false_iff.mp granted)]
    exact sound.covered t
  · refine ⟨sound.rate.step (if_pos fits), fun t => ?_⟩
    have before := sound.covered t
    have log : (w.rate.check AUTO_GRANT_RATE_LIMIT AUTO_GRANT_RATE_WINDOW_SECONDS l.call).log =
        (l.call, rateLimit) :: w.rate.log := by
      rw [answered]
      rfl
    rw [log, List.filter_cons, List.filter_cons]
    by_cases granted : MentionRun.granted ⟨l.call, some rateLimit,
      if l.reads.committed = true then grantEffects ticketId l.job l.reads userId rateLimit else []⟩
    · have allowed : RateWorld.allowed (l.call, rateLimit) := granted_allowed granted
      rw [if_pos granted, if_pos allowed, count_cons, count_cons]
      exact Nat.add_le_add_right before _
    · rw [if_neg granted]
      refine Nat.le_trans before ?_
      split
      · rw [count_cons]
        exact Nat.le_add_right _ _
      · exact Nat.le_refl _

theorem Sound.start : MentionWorld.start.Sound := ⟨RateWorld.Sound.start, fun _ => Nat.le_refl _⟩

theorem oneAlert_step (sound : w.Sound) (once : w.OneAlertPerHit)
    (stepped : w.step toLowerCase tenantId ticketId l = some w') :
    w.Rearmed toLowerCase tenantId l ↔ w'.OneAlertPerHit := by
  obtain ⟨fits, ⟨run, rfl, skipped, _, other⟩ | ⟨userId, rateLimit, outcome, answered, rfl⟩⟩ :=
    step_cases stepped
  · have same : (MentionWorld.mk w.rate (run :: w.runs)).attempts = w.attempts :=
      List.filter_cons_of_neg (Bool.eq_false_iff.mp skipped)
    unfold OneAlertPerHit
    rw [same]
    exact ⟨fun _ => once, fun _ userId is => absurd is (other userId)⟩
  · have decided : rateLimit.allowed ↔
        count RateWorld.at_ (RateWorld.width AUTO_GRANT_RATE_WINDOW_SECONDS) (l.call.now : Int)
          w.rate.log < AUTO_GRANT_RATE_LIMIT := by
      rw [answered]
      exact sound.rate.reflects.decided fits
    have full : rateLimit.allowed = false ↔ w.Full l.call.now := by
      rw [← Bool.not_eq_true, decided, Nat.not_lt]
      rfl
    have refused : MentionRun.alerted ⟨l.call, some rateLimit, if l.reads.committed = true then
        grantEffects ticketId l.job l.reads userId rateLimit else []⟩ = true →
        MentionRun.refused ⟨l.call, some rateLimit, if l.reads.committed = true then
          grantEffects ticketId l.job l.reads userId rateLimit else []⟩ = true := by
      intro alerted
      simp [MentionRun.refused, (alerted_iff.mp alerted).1]
    unfold OneAlertPerHit attempts
    rw [List.filter_cons_of_pos rfl, oncePerBlock_cons refused, alerted_iff, full]
    constructor
    · exact fun rearmed => ⟨once, fun ⟨isFull, committed⟩ => rearmed userId outcome committed isFull⟩
    · exact fun ⟨_, free⟩ _ _ committed isFull => free ⟨isFull, committed⟩

end MentionWorld

open MentionWorld

/-- In every run of mention jobs on a ticket, no hour holds more than five grants; and the misuse
alert is raised at most once in each block of consecutive refused attempts exactly when each
attempt that finds the hour full, and is committed, is the first one since an attempt was
allowed. -/
theorem mention_grants_iff (toLowerCase : String → String) (tenantId ticketId : Id)
    (jobs : List MentionLabel) (w : MentionWorld)
    (ran : run (MentionWorld.step toLowerCase tenantId ticketId) MentionWorld.start jobs = some w) :
    (∀ t : Int, count MentionRun.at_ (RateWorld.width AUTO_GRANT_RATE_WINDOW_SECONDS) t
        (w.runs.filter MentionRun.granted) ≤ AUTO_GRANT_RATE_LIMIT) ∧
      (Always (MentionWorld.step toLowerCase tenantId ticketId) OneAlertPerHit MentionWorld.start
          jobs ↔
        Guarded (MentionWorld.step toLowerCase tenantId ticketId) (Rearmed toLowerCase tenantId)
          MentionWorld.start jobs) := by
  have sound : w.Sound := run_invariant (P := Sound) (fun sound stepped => sound.step stepped)
    Sound.start ran
  refine ⟨fun t => Nat.le_trans (sound.covered t) (sound.rate.limited.allowed_le t), ?_⟩
  have all := run_guarded_iff (H := fun _ _ => True) (I := Sound) (P := OneAlertPerHit)
    (fun inv _ stepped => inv.step stepped)
    (fun inv once stepped => (oneAlert_step inv once stepped).trans (and_iff_right trivial).symm)
    Sound.start OncePerBlock.nil ran
  exact (and_iff_left (Guarded.of_forall (fun _ _ => trivial) _ _)).symm.trans all

/-! ## Seven mentions in a minute -/

def colleagues : List String := ["ann", "ben", "cem", "dan", "eve", "fay", "gus"]

def mentioningReads (user : String) : MentionReads where
  active := true
  instance_ := some { id := 7, entityTypeId := 2, tenantId := 1, createdAt := 0, updatedAt := 0 }
  zitadelUsers := [⟨user, user ++ "@acme.example", user⟩]
  rolesByUserId := [(user, ["user"])]
  db := {}
  allowAutoGrantOnMention := some true
  pendingRequest := false
  updated := true
  committed := true

def mentions (count : Nat) : List MentionLabel :=
  (colleagues.take count).mapIdx fun i user =>
    ⟨⟨user, "bot", 30⟩, mentioningReads user, ⟨1000 * (i + 1), "r"⟩⟩

def mentionStep : MentionWorld → MentionLabel → Option MentionWorld :=
  MentionWorld.step String.toLower 1 7

def afterMentions (count : Nat) : MentionWorld :=
  (run mentionStep MentionWorld.start (mentions count)).getD MentionWorld.start

/-- The sixth and the seventh mention are both refused, and both raise the alert. -/
theorem two_alerts_in_one_hit :
    run mentionStep MentionWorld.start (mentions 7) = some (afterMentions 7) ∧
      ¬ (afterMentions 7).OneAlertPerHit := by
  refine ⟨rfl, fun once => ?_⟩
  have bounded := once ((afterMentions 7).attempts.take 2) (List.take_prefix 2 _).isInfix
    (List.all_eq_true.mp rfl)
  exact absurd bounded (by decide)

/-- Of six mentions within a minute five are granted, and the sixth raises an alert. -/
theorem mention_grants_iff_at_six_mentions :
    ((∀ t : Int, count MentionRun.at_ (RateWorld.width AUTO_GRANT_RATE_WINDOW_SECONDS) t
        ((afterMentions 6).runs.filter MentionRun.granted) ≤ AUTO_GRANT_RATE_LIMIT) ∧
      Always mentionStep OneAlertPerHit MentionWorld.start (mentions 6)) ∧
    ((afterMentions 6).runs.map fun run => (run.granted, run.alerted)) =
      (false, true) :: List.replicate 5 (true, false) := by
  obtain ⟨bound, alerts⟩ := mention_grants_iff String.toLower 1 7 (mentions 6) (afterMentions 6) rfl
  refine ⟨⟨bound, alerts.mpr (.of_check (c := fun w _ =>
    (w.attempts.takeWhile MentionRun.refused).all (!·.alerted)) (fun quiet => ?_) rfl)⟩, rfl⟩
  intro _ _ _ _ run mem
  simpa using List.all_eq_true.mp quiet run mem

end OpenWind
