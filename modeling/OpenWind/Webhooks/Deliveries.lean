import OpenWind.Webhooks.Replays

/-!
# Deliveries and their jobs

A delivery answered 202 has a job, as long as the queue has no job of another installation or
with another body under its id; and a sender that comes again after an error is let in, as long
as nothing else has taken the replay key in the last 300 seconds, and nothing that failed.
-/

open List Option Bool

namespace OpenWind

open Runs

namespace WebhookWorld

/-- How long a replay key is kept, in milliseconds. -/
def replayWindow : Nat := TIMESTAMP_TOLERANCE_SECONDS * 1000

def HasJob (w : WebhookWorld) (delivery : SignedDelivery) : Prop :=
  ∃ job ∈ w.queue, job.tenantId = delivery.tenantId ∧ job.connectorId = delivery.connectorId ∧
    job.deliveryId = delivery.deliveryId ∧ job.rawBody = delivery.rawBody

def SameDelivery (p q : Presentation) : Prop :=
  q.key = p.key ∧ q.delivery.rawBody = p.delivery.rawBody

def underWay (p : Presentation) : Bool :=
  match p.phase with
  | .dispatching => true
  | .enqueuing _ => true
  | _ => false

def Delivered (w : WebhookWorld) : Prop :=
  ∀ p ∈ w.presentations, accepted p = true → w.HasJob p.delivery

def Readmits (w : WebhookWorld) : WebhookLabel → Prop
  | .dedupe i => ∀ p, w.presentations[i]? = some p → p.retryOf.isSome = true →
      (w.replayKeys p.key).read w.now = some () →
      w.HasJob p.delivery ∨ ∃ q ∈ w.presentations, SameDelivery p q ∧ underWay q = true
  | _ => True

def Distinct (w : WebhookWorld) (i : Nat) : Prop :=
  ∀ p, w.presentations[i]? = some p → ∀ job ∈ w.queue, job.jobId = p.delivery.deliveryId →
    job.tenantId = p.delivery.tenantId ∧ job.connectorId = p.delivery.connectorId ∧
      job.rawBody = p.delivery.rawBody

def Unspoilt (w : WebhookWorld) (i : Nat) : Prop :=
  ∀ p, w.presentations[i]? = some p → p.retryOf.isSome = true → ∀ q ∈ w.presentations,
    q.key = p.key → ∀ t, q.takenAt = some t → w.now ≤ t + replayWindow →
    q.delivery.rawBody = p.delivery.rawBody ∧ (failed q = true → w.HasJob p.delivery)

def Apart (w : WebhookWorld) : WebhookLabel → Prop
  | .dedupe i => w.Unspoilt i
  | .enqueue i => w.Distinct i
  | .enqueueFails i true => w.Distinct i
  | _ => True

structure Traced (w : WebhookWorld) : Prop where
  held : ∀ key entry, w.replayKeys key = some entry → ∃ p ∈ w.presentations, p.key = key ∧
    ∃ t, p.takenAt = some t ∧ entry.expiresAt = some (t + replayWindow)
  waiting : ∀ p ∈ w.presentations, p.takenAt.isSome = true → p.phase ≠ .deduping
  delivered : w.Delivered
  named : ∀ job ∈ w.queue, job.jobId = job.deliveryId

variable {gateway : Gateway} {w w' : WebhookWorld}

theorem Traced.idle (now : Time) : (WebhookWorld.idle now).Traced := by
  refine ⟨fun _ _ found => ?_, fun _ mem => ?_, fun _ mem => ?_, fun _ mem => ?_⟩
  · cases found
  · cases mem
  · cases mem
  · cases mem

theorem Traced.enter (sound : w.Traced) {i : Nat} {p : Presentation} {phase : WebhookPhase}
    (here : w.presentations[i]? = some p) (onward : phase ≠ .deduping)
    (job : accepted { p with phase } → w.HasJob p.delivery) : (w.enter i p phase).Traced := by
  refine ⟨fun key entry found => ?_, Calls.forall_replaced sound.waiting fun _ => onward,
    Calls.forall_replaced sound.delivered job, sound.named⟩
  obtain ⟨q, member, keyed, t, taken, lasts⟩ := sound.held key entry found
  rcases Calls.mem_replaced here member with rfl | still
  · exact ⟨{ q with phase }, Calls.mem_replacement here, keyed, t, taken, lasts⟩
  · exact ⟨q, still, keyed, t, taken, lasts⟩

theorem Traced.takeKey (sound : w.Traced) {i : Nat} {p : Presentation} {phase : WebhookPhase}
    (here : w.presentations[i]? = some p) (onward : phase ≠ .deduping)
    (error : accepted { p with phase } = false) : (w.takeKey i p phase).Traced := by
  refine ⟨fun key entry found => ?_, Calls.forall_replaced sound.waiting fun _ => onward,
    Calls.forall_replaced sound.delivered fun received => ?_, sound.named⟩
  · change Function.update w.replayKeys p.key _ key = some entry at found
    by_cases same : key = p.key
    · subst same
      rw [Function.update_self] at found
      obtain rfl := Option.some.inj found
      exact ⟨_, Calls.mem_replacement here, rfl, w.now, rfl, rfl⟩
    · rw [Function.update_of_ne same] at found
      obtain ⟨q, member, keyed, t, taken, lasts⟩ := sound.held key entry found
      rcases Calls.mem_replaced here member with rfl | still
      · exact absurd keyed.symm same
      · exact ⟨q, still, keyed, t, taken, lasts⟩
  · change accepted { p with phase } = true at received
    rw [error] at received
    cases received

variable {p : Presentation} {event : Json} {job : InboundJob} {i : Nat} {l : WebhookLabel}

theorem Traced.arrive (sound : w.Traced) (phase : p.phase = .deduping) (taken : p.takenAt = none) :
    ({ w with presentations := w.presentations ++ [p] } : WebhookWorld).Traced := by
  refine ⟨fun key entry found => ?_, fun q mem => ?_, fun q mem => ?_, sound.named⟩
  · obtain ⟨q, member, rest⟩ := sound.held key entry found
    exact ⟨q, mem_append_left _ member, rest⟩
  · rcases mem_append.mp mem with old | new
    · exact sound.waiting q old
    · obtain rfl := mem_singleton.mp new
      rw [taken]
      exact nofun
  · rcases mem_append.mp mem with old | new
    · exact sound.delivered q old
    · obtain rfl := mem_singleton.mp new
      intro received
      rw [accepted, phase] at received
      cases received

/-! ## Jobs -/

theorem jobs_add (member : job ∈ w.queue) : job ∈ (w.add i p event).queue := by
  unfold add
  split
  · exact member
  · exact mem_append_left _ member

theorem hasJob_add (named : ∀ job ∈ w.queue, job.jobId = job.deliveryId)
    (here : w.presentations[i]? = some p) (distinct : w.Distinct i) :
    (w.add i p event).HasJob p.delivery := by
  unfold add
  split
  · next there =>
    obtain ⟨job, member, same⟩ := List.any_eq_true.mp there
    have id : job.jobId = p.delivery.deliveryId := eq_of_beq same
    obtain ⟨tenant, connector, body⟩ := distinct p here job member id
    exact ⟨job, member, tenant, connector, (named job member).symm.trans id, body⟩
  · exact ⟨_, mem_append_right _ (mem_singleton_self _), rfl, rfl, rfl, rfl⟩

theorem Traced.add (sound : w.Traced) (i : Nat) (p : Presentation) (event : Json) :
    (w.add i p event).Traced := by
  refine ⟨?_, ?_, fun q mem received => ?_, fun job mem => ?_⟩
  · rw [add_replayKeys, add_presentations]
    exact sound.held
  · rw [add_presentations]
    exact sound.waiting
  · rw [add_presentations] at mem
    obtain ⟨job, member, own⟩ := sound.delivered q mem received
    exact ⟨job, jobs_add member, own⟩
  · unfold WebhookWorld.add at mem
    split at mem
    · exact sound.named job mem
    · rcases mem_append.mp mem with old | new
      · exact sound.named job old
      · obtain rfl := mem_singleton.mp new
        rfl

theorem Traced.next (sound : w.Traced) {l : WebhookLabel} (apart : w.Apart l)
    (stepped : step gateway w l = some w') : w'.Traced := by
  cases step_to stepped with
  | rejected => exact sound
  | arrived phase taken => exact sound.arrive phase taken
  | refused here phase held | dispatched here phase => exact sound.enter here nofun nofun
  | took here phase free next =>
    rcases next with ⟨-, rfl⟩ | ⟨-, rfl⟩
    · exact sound.takeKey here nofun rfl
    · exact sound.takeKey here nofun rfl
  | errored here running error =>
    exact sound.enter here nofun fun received => absurd (eq_of_beq received) error
  | @added i p l event answer here phase next =>
    have distinct : w.Distinct i := by
      rcases next with ⟨rfl, -⟩ | ⟨rfl, -⟩
      · exact apart
      · exact apart
    exact (sound.add i p event).enter (by rw [add_presentations]; exact here) nofun fun _ =>
      hasJob_add sound.named here distinct
  | ticked => exact ⟨sound.held, sound.waiting, sound.delivered, sound.named⟩

theorem HasJob.same {p q : Presentation} (has : w.HasJob q.delivery) (same : SameDelivery p q) :
    w.HasJob p.delivery := by
  obtain ⟨job, member, tenant, connector, id, body⟩ := has
  obtain ⟨key, bodies⟩ := same
  obtain ⟨tenants, connectors, ids⟩ := ReplayKey.mk.inj key
  exact ⟨job, member, tenant.trans tenants, connector.trans connectors, id.trans ids,
    body.trans bodies⟩

theorem Traced.readmits (sound : w.Traced) (apart : w.Apart l) : w.Readmits l := by
  cases l with
  | dedupe i =>
    intro p here retry found
    obtain ⟨entry, is, alive, -⟩ := Slot.read_eq_some.mp found
    obtain ⟨q, member, keyed, t, taken, lasts⟩ := sound.held _ entry is
    have recent : w.now ≤ t + replayWindow := by
      rw [Entry.alive, lasts, all_some, decide_eq_true_eq] at alive
      exact alive
    obtain ⟨body, spoilt⟩ := apart p here retry q member keyed t taken recent
    have past : q.phase ≠ .deduping := sound.waiting q member (by rw [taken]; rfl)
    cases phase : q.phase with
    | deduping => exact absurd phase past
    | dispatching | enqueuing => exact .inr ⟨q, member, ⟨keyed, body⟩, by rw [underWay, phase]⟩
    | answered answer =>
      left
      by_cases received : answer = .received
      · refine (sound.delivered q member ?_).same ⟨keyed, body⟩
        rw [accepted, phase, received]
        rfl
      · refine spoilt ?_
        rw [failed, phase]
        exact bne_iff_ne.mpr received
  | _ => trivial

/-- Where no other job is in the way, and no other delivery and none that failed has kept the
replay key, every delivery answered 202 has a job of its own and a sender that comes again after
an error is let in. -/
theorem deliveries_kept {now : Time} {labels : List WebhookLabel}
    (apart : Guarded (step gateway) Apart (idle now) labels) :
    Always (step gateway) Delivered (idle now) labels ∧
      Guarded (step gateway) Readmits (idle now) labels :=
  ⟨apart.always (fun sound apart stepped => sound.next apart stepped) Traced.delivered
      (Traced.idle now),
    apart.under (fun sound apart stepped => sound.next apart stepped)
      (fun sound apart => sound.readmits apart) (Traced.idle now)⟩

/-! ## The condition, checked -/

def hasJob (w : WebhookWorld) (delivery : SignedDelivery) : Bool :=
  w.queue.any fun job => job.tenantId == delivery.tenantId &&
    (job.connectorId == delivery.connectorId &&
      (job.deliveryId == delivery.deliveryId && job.rawBody == delivery.rawBody))

theorem hasJob_iff {delivery : SignedDelivery} : w.hasJob delivery ↔ w.HasJob delivery := by
  rw [hasJob, List.any_eq_true]
  refine exists_congr fun job => and_congr_right' ?_
  simp only [and_eq_true, beq_iff_eq]

def unspoilt (w : WebhookWorld) (i : Nat) : Bool :=
  w.presentations[i]?.all fun p => !p.retryOf.isSome || w.presentations.all fun q =>
    q.key != p.key || q.takenAt.all (fun t => decide (t + replayWindow < w.now)) ||
      (q.delivery.rawBody == p.delivery.rawBody && (!failed q || w.hasJob p.delivery))

def distinct (w : WebhookWorld) (i : Nat) : Bool :=
  w.presentations[i]?.all fun p => w.queue.all fun job => job.jobId != p.delivery.deliveryId ||
    (job.tenantId == p.delivery.tenantId && (job.connectorId == p.delivery.connectorId &&
      job.rawBody == p.delivery.rawBody))

def apart (w : WebhookWorld) : WebhookLabel → Bool
  | .dedupe i => w.unspoilt i
  | .enqueue i => w.distinct i
  | .enqueueFails i true => w.distinct i
  | _ => true

theorem unspoilt_sound (checked : w.unspoilt i) : w.Unspoilt i := by
  intro p here retry q mem keyed t taken recent
  rw [unspoilt, here, all_some, retry, Bool.not_true, Bool.false_or] at checked
  have first := List.all_eq_true.mp checked q mem
  rw [keyed, taken, bne_self_eq_false, all_some, Bool.false_or, or_eq_true,
    decide_eq_true_eq] at first
  obtain ⟨body, spoilt⟩ := and_eq_true_iff.mp (first.resolve_left (Nat.not_lt.mpr recent))
  refine ⟨eq_of_beq body, fun error => ?_⟩
  rw [error, Bool.not_true, Bool.false_or] at spoilt
  exact hasJob_iff.mp spoilt

theorem distinct_sound (checked : w.distinct i) : w.Distinct i := by
  intro p here job mem id
  rw [distinct, here, all_some] at checked
  have own := List.all_eq_true.mp checked job mem
  rw [id, bne_self_eq_false, Bool.false_or, and_eq_true, and_eq_true, beq_iff_eq, beq_iff_eq,
    beq_iff_eq] at own
  exact own

theorem apart_sound (checked : w.apart l) : w.Apart l := by
  unfold WebhookWorld.apart at checked
  unfold Apart
  split
  · exact unspoilt_sound checked
  · exact distinct_sound checked
  · exact distinct_sound checked
  · trivial

end WebhookWorld

/-! ## Two installations with one delivery id, and a sender that comes again -/

namespace WebhookSample

/-- The deliveries of two tenants under one id. -/
def clash : List WebhookLabel := accept 1 "d" 0 ++ accept 2 "d" 1

/-- The job cannot be added, and the sender comes again. -/
def retry : List WebhookLabel :=
  [.present (request 1 "d") none, .dedupe 0, .dispatch 0, .enqueueFails 0 false,
    .present (request 1 "d") (some 0), .dedupe 1]

def inTurn : List WebhookLabel :=
  accept 1 "d" 0 ++ [.present (request 2 "e") none, .dedupeFails 1 false,
    .present (request 2 "e") (some 1), .dedupe 2, .dispatch 2, .enqueue 2] ++
    [.present (request 1 "f") none, .dedupe 3, .dispatch 3, .enqueueFails 3 true,
      .present (request 1 "f") (some 3), .dedupe 4, .tick 301000] ++ accept 1 "d" 5

end WebhookSample

open WebhookSample WebhookWorld in
theorem deliveries_kept_inTurn :
    Always (step gateway) Delivered (idle 900000) inTurn ∧
      Guarded (step gateway) Readmits (idle 900000) inTurn :=
  deliveries_kept (Guarded.of_check apart_sound (by decide +kernel))

open WebhookSample WebhookWorld in
/-- The second of two installations is answered 202 and has no job; and a delivery that could
not be enqueued is refused as a replay when its sender comes again. -/
theorem deliveries_lost :
    (∃ w, run (step gateway) (idle 1001000) clash = some w ∧ ¬w.Delivered) ∧
      ¬Guarded (step gateway) Readmits (idle 1001000) retry := by
  constructor
  · have lost : (run (step gateway) (idle 1001000) clash).any (fun w =>
        w.presentations.any fun p => accepted p && !w.hasJob p.delivery) = true := by
      decide +kernel
    obtain ⟨w, ran, some'⟩ := (Option.any_eq_true _ _).mp lost
    obtain ⟨p, member, received⟩ := List.any_eq_true.mp some'
    obtain ⟨received, missing⟩ := and_eq_true_iff.mp received
    refine ⟨w, ran, fun delivered => ?_⟩
    rw [hasJob_iff.mpr (delivered p member received)] at missing
    cases missing
  · intro guarded
    have before : (run (step gateway) (idle 1001000) (retry.take 5)).any (fun w =>
        w.presentations[1]?.any fun p => p.retryOf.isSome &&
          (w.replayKeys p.key).read w.now == some () && !w.hasJob p.delivery &&
          !w.presentations.any underWay) = true := by
      decide +kernel
    obtain ⟨w, ran, refused⟩ := (Option.any_eq_true _ _).mp before
    obtain ⟨p, here, refused⟩ := (Option.any_eq_true _ _).mp refused
    simp only [and_eq_true, beq_iff_eq, not_eq_true'] at refused
    obtain ⟨⟨⟨again, found⟩, missing⟩, idle⟩ := refused
    have split : retry = retry.take 5 ++ [.dedupe 1] := rfl
    rw [split] at guarded
    rcases (guarded.append.2 w ran).1 p here again found with job | ⟨q, member, -, running⟩
    · rw [hasJob_iff.mpr job] at missing
      cases missing
    · rw [List.any_eq_true.mpr ⟨q, member, running⟩] at idle
      cases idle

end OpenWind
