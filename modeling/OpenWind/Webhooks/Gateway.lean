import OpenWind.Errors
import OpenWind.Lib.Runs
import OpenWind.Lib.Expiring
import OpenWind.Lib.Calls

/-!
# The inbound webhook gateway

A sender posts a signed delivery to a connector installation.  The gateway checks the
timestamp and the signature, takes the replay key of the delivery in Redis, lets the
connector turn the body into an event and adds it to the queue.  Nothing consumes the queue
yet, so its jobs stay.
-/

namespace OpenWind

def TIMESTAMP_TOLERANCE_SECONDS : Nat := 5 * 60

def WEBHOOK_SIGNING_SECRET_KEY : String := "webhookSigningSecret"

/-! ## What the deployment supplies -/

structure ConnectorCredential where
  secrets : List (String × String)
  disabledAt : Option Time

structure ConnectorTrigger where
  type : String
  transform : Option (Json → Option Json)

structure ConnectorDefinition where
  triggers : List ConnectorTrigger

structure Gateway where
  connectorCredentials : Id → Id → Option ConnectorCredential
  decryptCredential : Id → String → Option String
  /-- The signature of a payload, in hexadecimal digits. -/
  signOutboundPayload : (secret deliveryId : String) → (timestamp : Nat) → (rawBody : String) →
    String
  getConnectorDefinition : Id → Option ConnectorDefinition
  /-- `JSON.parse`, `none` where it throws. -/
  parseJson : String → Option Json
  /-- The queue takes a job under the id; it refuses one with a colon. -/
  customIdAllowed : String → Bool

/-! ## The checks -/

structure WebhookRequest where
  connectorId : Id
  tenantId : Id
  rawBody : String
  signatureHeader : Option String
  deliveryIdHeader : Option String
deriving DecidableEq

def isHexDigit (c : Char) : Bool := c.isDigit || "abcdef".toList.contains c

/-- `/^t=(\d+),v1=([0-9a-f]+)$/`. -/
def parseSignatureHeader (value : String) : Option (Nat × String) :=
  match value.toList with
  | 't' :: '=' :: rest =>
    let (digits, rest) := rest.span Char.isDigit
    match digits, rest with
    | first :: more, ',' :: 'v' :: '1' :: '=' :: hex =>
      if hex ≠ [] ∧ hex.all isHexDigit then
        some ((first :: more).foldl (fun n c => n * 10 + (c.toNat - '0'.toNat)) 0,
          String.ofList hex)
      else none
    | _, _ => none
  | _ => none

def hexBytes : List Char → List (Char × Char)
  | high :: low :: rest => (high, low) :: hexBytes rest
  | _ => []

def Gateway.verifyOutboundSignature (gateway : Gateway) (secret deliveryId rawBody : String)
    (timestamp : Nat) (signatureHex : String) : Bool :=
  hexBytes (gateway.signOutboundPayload secret deliveryId timestamp rawBody).toList ==
    hexBytes signatureHex.toList

structure SignedDelivery where
  connectorId : Id
  tenantId : Id
  deliveryId : String
  timestamp : Nat
  rawBody : String
  signatureHex : String
deriving DecidableEq

inductive WebhookAnswer
  | unauthorized
  /-- 500: a step threw. -/
  | threw
  /-- 503 -/
  | unavailable
  /-- 409 -/
  | duplicate
  /-- 400 -/
  | unsupportedTrigger
  /-- 400 -/
  | invalidJson
  /-- 400 -/
  | transformFailed
  /-- 202 -/
  | received
deriving DecidableEq

namespace WebhookAnswer

def status : WebhookAnswer → Nat
  | unauthorized => 401
  | threw => 500
  | unavailable => 503
  | duplicate => 409
  | unsupportedTrigger => 400
  | invalidJson => 400
  | transformFailed => 400
  | received => 202

def body : WebhookAnswer → Option (String × String)
  | unauthorized => some ("UNAUTHORIZED", "Invalid or missing webhook signature")
  | threw => none
  | unavailable => some ("SERVICE_UNAVAILABLE", "Try again shortly")
  | duplicate => some ("DUPLICATE_DELIVERY", "Delivery already processed")
  | unsupportedTrigger =>
    some ("UNSUPPORTED_TRIGGER", "Connector does not support inbound webhooks")
  | invalidJson => some ("INVALID_JSON", "Malformed body")
  | transformFailed => some ("TRANSFORM_FAILED", "Payload rejected by connector")
  | received => none

end WebhookAnswer

def WebhookRequest.fresh (request : WebhookRequest) (now : Time) : Option SignedDelivery := do
  let (timestamp, signatureHex) ← request.signatureHeader.bind parseSignatureHeader
  let deliveryId ← request.deliveryIdHeader.filter (· != "")
  let nowSeconds := now / 1000
  if TIMESTAMP_TOLERANCE_SECONDS < (nowSeconds - timestamp) + (timestamp - nowSeconds) then none
  else
    some {
      connectorId := request.connectorId
      tenantId := request.tenantId
      deliveryId
      timestamp
      rawBody := request.rawBody
      signatureHex }

def Gateway.authenticate (gateway : Gateway) (now : Time) (request : WebhookRequest) :
    Except WebhookAnswer SignedDelivery :=
  match request.fresh now with
  | none => .error .unauthorized
  | some delivery =>
    let installation := gateway.connectorCredentials request.tenantId request.connectorId
    let secretCiphertext := installation.bind fun credential =>
      (credential.secrets.lookup WEBHOOK_SIGNING_SECRET_KEY).filter (· != "")
    match installation, secretCiphertext with
    | some credential, some ciphertext =>
      if credential.disabledAt.isSome then .error .unauthorized
      else
        match gateway.decryptCredential request.tenantId ciphertext with
        | none => .error .threw
        | some signingSecret =>
          if gateway.verifyOutboundSignature signingSecret delivery.deliveryId delivery.rawBody
              delivery.timestamp delivery.signatureHex then .ok delivery
          else .error .unauthorized
    | _, _ => .error .unauthorized

def Gateway.event (gateway : Gateway) (delivery : SignedDelivery) : Except WebhookAnswer Json :=
  match gateway.getConnectorDefinition delivery.connectorId with
  | none => .error .unauthorized
  | some definition =>
    let webhookTrigger := definition.triggers.find? fun t => t.type == "webhook" && t.transform.isSome
    match webhookTrigger.bind (·.transform) with
    | none => .error .unsupportedTrigger
    | some transform =>
      match gateway.parseJson delivery.rawBody with
      | none => .error .invalidJson
      | some parsedPayload =>
        match transform parsedPayload with
        | none => .error .transformFailed
        | some event => .ok event

/-! ## Presentations -/

structure ReplayKey where
  tenantId : Id
  connectorId : Id
  deliveryId : String
deriving DecidableEq

structure InboundJob where
  jobId : String
  tenantId : Id
  connectorId : Id
  deliveryId : String
  event : Json
  presentation : Nat
  rawBody : String

inductive WebhookPhase
  | deduping
  | dispatching
  | enqueuing (event : Json)
  | answered (answer : WebhookAnswer)

structure Presentation where
  delivery : SignedDelivery
  /-- The presentation that was answered with an error before its sender came again. -/
  retryOf : Option Nat
  phase : WebhookPhase
  /-- When it took the replay key. -/
  takenAt : Option Time := none

def Presentation.key (p : Presentation) : ReplayKey :=
  ⟨p.delivery.tenantId, p.delivery.connectorId, p.delivery.deliveryId⟩

structure WebhookWorld where
  now : Time
  replayKeys : ReplayKey → Slot Unit
  queue : List InboundJob
  presentations : List Presentation

namespace WebhookWorld

def enter (w : WebhookWorld) (i : Nat) (p : Presentation) (phase : WebhookPhase) : WebhookWorld :=
  { w with presentations := w.presentations.set i { p with phase } }

def takeKey (w : WebhookWorld) (i : Nat) (p : Presentation) (phase : WebhookPhase) : WebhookWorld :=
  { w with
    replayKeys := Function.update w.replayKeys p.key
      (Slot.keep w.now (TIMESTAMP_TOLERANCE_SECONDS * 1000) ())
    presentations := w.presentations.set i { p with phase, takenAt := some w.now } }

def add (w : WebhookWorld) (i : Nat) (p : Presentation) (event : Json) : WebhookWorld :=
  if w.queue.any (·.jobId == p.delivery.deliveryId) then w
  else
    { w with
      queue := w.queue ++ [{
        jobId := p.delivery.deliveryId
        tenantId := p.delivery.tenantId
        connectorId := p.delivery.connectorId
        deliveryId := p.delivery.deliveryId
        event
        presentation := i
        rawBody := p.delivery.rawBody }] }

def failed (p : Presentation) : Bool :=
  match p.phase with
  | .answered answer => answer != .received
  | _ => false

def accepted (p : Presentation) : Bool :=
  match p.phase with
  | .answered answer => answer == .received
  | _ => false

def present (gateway : Gateway) (w : WebhookWorld) (request : WebhookRequest)
    (retryOf : Option Nat) : Option WebhookWorld :=
  match gateway.authenticate w.now request with
  | .error _ => some w
  | .ok delivery =>
    let p : Presentation := { delivery, retryOf, phase := .deduping }
    if retryOf.all fun i => w.presentations[i]?.any fun earlier =>
        earlier.key == p.key && earlier.delivery.rawBody == delivery.rawBody && failed earlier then
      some { w with presentations := w.presentations ++ [p] }
    else none

def dedupe (w : WebhookWorld) (i : Nat) (p : Presentation) : WebhookWorld :=
  match (w.replayKeys p.key).read w.now with
  | some _ => w.enter i p (.answered .duplicate)
  | none => w.takeKey i p .dispatching

def dedupeFails (w : WebhookWorld) (i : Nat) (p : Presentation) (applied : Bool) : WebhookWorld :=
  match applied, (w.replayKeys p.key).read w.now with
  | true, none => w.takeKey i p (.answered .unavailable)
  | _, _ => w.enter i p (.answered .unavailable)

def dispatch (gateway : Gateway) (w : WebhookWorld) (i : Nat) (p : Presentation) : WebhookWorld :=
  match gateway.event p.delivery with
  | .error answer => w.enter i p (.answered answer)
  | .ok event => w.enter i p (.enqueuing event)

def enqueue (gateway : Gateway) (w : WebhookWorld) (i : Nat) (p : Presentation) (event : Json) :
    WebhookWorld :=
  if gateway.customIdAllowed p.delivery.deliveryId then
    (w.add i p event).enter i p (.answered .received)
  else w.enter i p (.answered .threw)

def enqueueFails (gateway : Gateway) (w : WebhookWorld) (i : Nat) (p : Presentation) (event : Json)
    (applied : Bool) : WebhookWorld :=
  (if applied && gateway.customIdAllowed p.delivery.deliveryId then w.add i p event else w).enter i p
    (.answered .threw)

end WebhookWorld

inductive WebhookLabel
  | present (request : WebhookRequest) (retryOf : Option Nat)
  | dedupe (i : Nat)
  | dedupeFails (i : Nat) (applied : Bool)
  | dispatch (i : Nat)
  | transformFails (i : Nat)
  | enqueue (i : Nat)
  | enqueueFails (i : Nat) (applied : Bool)
  | tick (time : Nat)

namespace WebhookWorld

def step (gateway : Gateway) (w : WebhookWorld) : WebhookLabel → Option WebhookWorld
  | .present request retryOf => w.present gateway request retryOf
  | .dedupe i =>
    match w.presentations[i]? with
    | some p =>
      match p.phase with
      | .deduping => some (w.dedupe i p)
      | _ => none
    | none => none
  | .dedupeFails i applied =>
    match w.presentations[i]? with
    | some p =>
      match p.phase with
      | .deduping => some (w.dedupeFails i p applied)
      | _ => none
    | none => none
  | .dispatch i =>
    match w.presentations[i]? with
    | some p =>
      match p.phase with
      | .dispatching => some (w.dispatch gateway i p)
      | _ => none
    | none => none
  | .transformFails i =>
    match w.presentations[i]? with
    | some p =>
      match p.phase with
      | .dispatching => some (w.enter i p (.answered .transformFailed))
      | _ => none
    | none => none
  | .enqueue i =>
    match w.presentations[i]? with
    | some p =>
      match p.phase with
      | .enqueuing event => some (w.enqueue gateway i p event)
      | _ => none
    | none => none
  | .enqueueFails i applied =>
    match w.presentations[i]? with
    | some p =>
      match p.phase with
      | .enqueuing event => some (w.enqueueFails gateway i p event applied)
      | _ => none
    | none => none
  | .tick time => some { w with now := w.now + time }

/-- Nothing has been presented yet. -/
def idle (now : Time) : WebhookWorld :=
  { now, replayKeys := fun _ => none, queue := [], presentations := [] }

/-! ## The steps as rules -/

inductive StepTo (gateway : Gateway) (w : WebhookWorld) : WebhookLabel → WebhookWorld → Prop
  | rejected {request retryOf} : StepTo gateway w (.present request retryOf) w
  | arrived {request retryOf} {p : Presentation}
    (phase : p.phase = .deduping) (taken : p.takenAt = none) :
    StepTo gateway w (.present request retryOf) { w with presentations := w.presentations ++ [p] }
  | refused {i p} (here : w.presentations[i]? = some p) (phase : p.phase = .deduping)
    (held : (w.replayKeys p.key).read w.now = some ()) :
    StepTo gateway w (.dedupe i) (w.enter i p (.answered .duplicate))
  | took {i p l phase'} (here : w.presentations[i]? = some p) (phase : p.phase = .deduping)
    (free : (w.replayKeys p.key).read w.now = none)
    (next : l = .dedupe i ∧ phase' = .dispatching ∨
      l = .dedupeFails i true ∧ phase' = .answered .unavailable) :
    StepTo gateway w l (w.takeKey i p phase')
  | errored {i p l answer} (here : w.presentations[i]? = some p)
    (running : ∀ earlier, p.phase ≠ .answered earlier) (error : answer ≠ .received) :
    StepTo gateway w l (w.enter i p (.answered answer))
  | dispatched {i p event} (here : w.presentations[i]? = some p) (phase : p.phase = .dispatching) :
    StepTo gateway w (.dispatch i) (w.enter i p (.enqueuing event))
  | added {i p l event answer} (here : w.presentations[i]? = some p)
    (phase : p.phase = .enqueuing event)
    (next : l = .enqueue i ∧ answer = .received ∨ l = .enqueueFails i true ∧ answer = .threw) :
    StepTo gateway w l ((w.add i p event).enter i p (.answered answer))
  | ticked {time} : StepTo gateway w (.tick time) { w with now := w.now + time }

variable {gateway : Gateway} {w w' : WebhookWorld}

theorem event_error {delivery : SignedDelivery} {answer : WebhookAnswer}
    (failed : gateway.event delivery = .error answer) : answer ≠ .received := by
  rintro rfl
  unfold Gateway.event at failed
  split at failed
  · cases failed
  · dsimp only at failed
    split at failed
    · cases failed
    · split at failed
      · cases failed
      · split at failed <;> cases failed

theorem step_to {l : WebhookLabel} (stepped : step gateway w l = some w') :
    StepTo gateway w l w' := by
  revert stepped
  fun_cases step gateway w l <;> intro stepped <;> try cases stepped
  case case1 request retryOf =>
    unfold present at stepped
    split at stepped
    · cases stepped
      exact .rejected
    · obtain ⟨-, stepped⟩ := Option.ite_none_right_eq_some.mp stepped
      cases stepped
      exact .arrived rfl rfl
  case case2.refl here phase =>
    unfold dedupe
    split
    · next held => exact .refused here phase held
    · next free => exact .took here phase free (.inl ⟨rfl, rfl⟩)
  case case5.refl here phase =>
    unfold dedupeFails
    split
    · next free => exact .took here phase free (.inr ⟨rfl, rfl⟩)
    · exact .errored here (by rw [phase]; exact fun _ => nofun) (by decide)
  case case8.refl here phase =>
    unfold dispatch
    split
    · next failed => exact .errored here (by rw [phase]; exact fun _ => nofun) (event_error failed)
    · exact .dispatched here phase
  case case11.refl here phase =>
    exact .errored here (by rw [phase]; exact fun _ => nofun) (by decide)
  case case14.refl here _ phase =>
    unfold enqueue
    split
    · exact .added here phase (.inl ⟨rfl, rfl⟩)
    · exact .errored here (by rw [phase]; exact fun _ => nofun) (by decide)
  case case17.refl applied p here event phase =>
    unfold enqueueFails
    split
    · next both =>
      obtain ⟨rfl, -⟩ := Bool.and_eq_true_iff.mp both
      exact .added here phase (.inr ⟨rfl, rfl⟩)
    · exact .errored here (by rw [phase]; exact fun _ => nofun) (by decide)
  case case20.refl => exact .ticked

@[simp] theorem add_presentations (i : Nat) (p : Presentation) (event : Json) :
    (w.add i p event).presentations = w.presentations := by
  unfold add
  split <;> rfl

@[simp] theorem add_replayKeys (i : Nat) (p : Presentation) (event : Json) :
    (w.add i p event).replayKeys = w.replayKeys := by
  unfold add
  split <;> rfl

end WebhookWorld

end OpenWind
