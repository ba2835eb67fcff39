import OpenWind.Webhooks.Gateway

/-!
# Replays of a delivery

A delivery that is signed ahead of the clock is let in for longer than its replay key lasts, so
a second presentation of it may be answered 202 as well.  It is not enqueued again: the job is
named after the delivery, and the job of the first one is still in the queue.
-/

open List Option

namespace OpenWind

open Runs

namespace WebhookWorld

/-- The job of the presentation was added, and not found in the queue. -/
def Enqueued (w : WebhookWorld) (i : Nat) : Prop := ∃ job ∈ w.queue, job.presentation = i

/-- Of the presentations of a delivery one at most was answered 202 and enqueued. -/
def AcceptedOnce (w : WebhookWorld) : Prop :=
  ∀ (i j : Nat) (p q : Presentation), w.presentations[i]? = some p →
    w.presentations[j]? = some q → p.delivery = q.delivery →
    accepted p = true → w.Enqueued i → accepted q = true → w.Enqueued j → i = j

/-! ## The invariant -/

structure Filed (w : WebhookWorld) : Prop where
  distinct : (w.queue.map InboundJob.jobId).Nodup
  source : ∀ job ∈ w.queue, ∃ p, w.presentations[job.presentation]? = some p ∧
    job.jobId = p.delivery.deliveryId

variable {gateway : Gateway} {w w' : WebhookWorld} {i : Nat} {p : Presentation}

theorem Filed.idle (now : Time) : (WebhookWorld.idle now).Filed := ⟨nodup_nil, nofun⟩

theorem Filed.acceptedOnce (filed : w.Filed) : w.AcceptedOnce := by
  rintro i j p q here there same - ⟨job, member, rfl⟩ - ⟨job', member', rfl⟩
  obtain ⟨p', here', id⟩ := filed.source job member
  obtain ⟨q', there', id'⟩ := filed.source job' member'
  cases here.symm.trans here'
  cases there.symm.trans there'
  have one : job.jobId = job'.jobId := by rw [id, id', same]
  rw [inj_on_of_nodup_map filed.distinct member member' one]

/-- Presentations keep their deliveries as they go on. -/
theorem Filed.onward (filed : w.Filed) (queue : w'.queue = w.queue)
    (kept : ∀ (k : Nat) (q : Presentation), w.presentations[k]? = some q →
      ∃ q' : Presentation, w'.presentations[k]? = some q' ∧ q'.delivery = q.delivery) : w'.Filed := by
  refine ⟨by rw [queue]; exact filed.distinct, fun job member => ?_⟩
  rw [queue] at member
  obtain ⟨q, there, id⟩ := filed.source job member
  obtain ⟨q', there', same⟩ := kept _ q there
  exact ⟨q', there', by rw [same]; exact id⟩

theorem Filed.replace (filed : w.Filed) (here : w.presentations[i]? = some p) (p' : Presentation)
    (replayKeys : ReplayKey → Slot Unit) (same : p'.delivery = p.delivery) :
    ({ w with replayKeys, presentations := w.presentations.set i p' } : WebhookWorld).Filed := by
  refine filed.onward rfl fun k q there => ?_
  by_cases own : i = k
  · subst own
    cases here.symm.trans there
    have inside : i < w.presentations.length := (List.getElem?_eq_some_iff.mp here).1
    exact ⟨p', getElem?_set_self inside, same⟩
  · exact ⟨q, (getElem?_set_ne own).trans there, rfl⟩

theorem Filed.arrive (filed : w.Filed) (p : Presentation) :
    ({ w with presentations := w.presentations ++ [p] } : WebhookWorld).Filed := by
  refine filed.onward rfl fun k q there => ⟨q, ?_, rfl⟩
  have inside : k < w.presentations.length := (List.getElem?_eq_some_iff.mp there).1
  exact (getElem?_append_left inside).trans there

theorem Filed.add (filed : w.Filed) (here : w.presentations[i]? = some p) (event : Json) :
    (w.add i p event).Filed := by
  unfold WebhookWorld.add
  split
  · exact filed
  · next absent =>
    refine ⟨?_, fun job member => ?_⟩
    · have free : p.delivery.deliveryId ∉ w.queue.map InboundJob.jobId := by
        intro listed
        obtain ⟨job, member, same⟩ := List.mem_map.mp listed
        exact absent (List.any_eq_true.mpr ⟨job, member, beq_iff_eq.mpr same⟩)
      rw [map_append]
      exact filed.distinct.append (nodup_singleton _) (disjoint_singleton.mpr free)
    · rcases mem_append.mp member with old | new
      · exact filed.source job old
      · cases mem_singleton.mp new
        exact ⟨p, here, rfl⟩

theorem Filed.next (filed : w.Filed) {l : WebhookLabel} (stepped : step gateway w l = some w') :
    w'.Filed := by
  cases step_to stepped with
  | rejected => exact filed
  | @arrived _ _ p _ _ => exact filed.arrive p
  | refused here | errored here | dispatched here => exact filed.replace here _ _ rfl
  | took here => exact filed.replace here _ _ rfl
  | @added i p l event answer here phase next =>
    have here' : (w.add i p event).presentations[i]? = some p := by
      rw [add_presentations]
      exact here
    exact (filed.add here event).replace here' _ _ rfl
  | ticked => exact ⟨filed.distinct, filed.source⟩

/-- In every run, presentations and steps that fail included, a delivery is answered 202 and
enqueued once at most. -/
theorem delivery_accepted_once (gateway : Gateway) (now : Time) (labels : List WebhookLabel) :
    Always (step gateway) AcceptedOnce (idle now) labels :=
  Always.of_invariant (fun filed stepped => filed.next stepped) Filed.acceptedOnce (.idle now)

end WebhookWorld

namespace WebhookSample

def gateway : Gateway where
  connectorCredentials _ _ := some { secrets := [(WEBHOOK_SIGNING_SECRET_KEY, "c")], disabledAt := none }
  decryptCredential _ _ := some "secret"
  signOutboundPayload _ _ _ _ := "ab"
  getConnectorDefinition _ := some { triggers := [{ type := "webhook", transform := some some }] }
  parseJson body := some (.str body)
  customIdAllowed := customIdAllowed

def request (tenantId : Id) (deliveryId : String) : WebhookRequest where
  connectorId := 1
  tenantId := tenantId
  rawBody := "body"
  signatureHeader := some "t=1000,v1=ab"
  deliveryIdHeader := some deliveryId

/-- The steps of a presentation that goes through. -/
def accept (tenantId : Id) (deliveryId : String) (i : Nat) : List WebhookLabel :=
  [.present (request tenantId deliveryId) none, .dedupe i, .dispatch i, .enqueue i]

end WebhookSample

open WebhookSample WebhookWorld in
example : (run (step gateway) (idle 700000) (accept 1 "d" 0 ++ [.tick 301000] ++ accept 1 "d" 1)).any
    (fun w => w.presentations.all accepted && w.queue.length == 1) = true := by
  decide +kernel

end OpenWind
