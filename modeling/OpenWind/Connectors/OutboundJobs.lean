import OpenWind.Connectors.PollJobs
import OpenWind.Entity.SensitiveFields

/-!
# Outbound deliveries of connectors

An attempt of a delivery validates the raw payload against the schema of its action, redacts the
fields that the entity type marks as `pii` or `financial`, and sends what is left, signed.  The
last attempt that fails is dead-lettered, with the redacted payload once there is one and with
the raw payload before.
-/

open List

namespace OpenWind

open Veil

namespace Outbound

/-! ## Connectors and jobs -/

structure ActionDefinition where
  id : String
  output : Fields → Except String Json
  maxOutputBytes : Option Nat := none

structure ConnectorDefinition where
  actions : List ActionDefinition

structure OutboundEnvelope where
  version : Nat
  deliveryId : String
  eventType : String
  tenantId : Id
  connectorId : String
  timestamp : Time
  data : Json

structure Env where
  getConnectorDefinition : String → Option ConnectorDefinition
  entityFields : List EntityField
  stringify : Fields → String
  stringifyEnvelope : OutboundEnvelope → String
  signOutboundPayload : (secret deliveryId : String) → (timestampUnixSeconds : Nat) →
    (rawBody : String) → String

/-- The data of a job, and how often it is attempted. -/
structure OutboundJob where
  tenantId : Id
  connectorId : String
  actionId : String
  targetUrl : String
  eventType : String
  payload : Fields
  signingSecretCiphertext : String
  entityTypeId : Option Id
  deliveryId : String
  maxAttempts : Nat := 1

inductive FieldLookup
  | all
  | platform
  | throws (message : String)
  deriving DecidableEq

structure Attempt where
  active : Except String Bool := .ok true
  /-- The identifier of the row of the attempt. -/
  inserted : Except String Id
  startedAt : Time
  lookup : FieldLookup := .all
  /-- `disabledAt`, when the connector is installed. -/
  installation : Except String (Option (Option Time)) := .ok (some none)
  /-- `assertEgressAllowed` -/
  validatedIp : Except String String
  sentAt : Time
  decryptCredential : Except String String
  delivered : Except String Unit
  finishedAt : Time
  /-- Whether the row of the attempt is updated, and the dead letter inserted. -/
  succeeded : Except String Unit := .ok ()
  failed : Except String Unit := .ok ()
  deadLettered : Except String Unit := .ok ()

inductive AttemptStatus
  | pending | success | failed | exhausted
  deriving DecidableEq

structure OutboundRequest where
  targetUrl : String
  validatedIp : String
  headers : List (String × String)
  rawBody : String
  deriving DecidableEq

structure DeadLetter where
  tenantId : Id
  eventType : String
  connectorId : String
  actionId : String
  deliveryId : String
  targetUrl : String
  payload : Json
  error : String
  attemptCount : Nat

inductive Effect
  | pending (id tenantId : Id) (connectorId deliveryId : String) (attemptNumber : Nat)
  | finalized (id : Id) (status : AttemptStatus) (latencyMs : Nat) (error : Option String)
      (nextRetryAt : Option Time)
  | deadLettered (row : DeadLetter)
  | sent (request : OutboundRequest)

/-! ## The steps up to the redaction -/

/-- `Object.entries`; it throws on `null`. -/
def entries : Json → Option Fields
  | .null => none
  | .obj fields => some fields
  | .arr items => some (items.mapIdx fun i item => (toString i, item))
  | .str text => some (text.toList.mapIdx fun i letter => (toString i, .str letter.toString))
  | _ => some []

def validateActionOutput (env : Env) (action : ActionDefinition) (candidate : Fields) :
    Except String Json :=
  let maxBytes := action.maxOutputBytes.getD DEFAULT_MAX_OUTPUT_BYTES
  let sizeBytes := (env.stringify candidate).utf8ByteSize
  if maxBytes < sizeBytes then
    .error s!"payload size {sizeBytes} bytes exceeds max {maxBytes} bytes"
  else match action.output candidate with
    | .error message => .error s!"payload failed schema validation: {message}"
    | .ok data => .ok data

def FieldLookup.rows (fields : List EntityField) (tenantId entityTypeId : Id) :
    FieldLookup → Except String (List EntityField)
  | .all => .ok (fields.filter (EntityField.isOf tenantId entityTypeId))
  | .platform => .ok (fields.filter fun field =>
      field.isOf tenantId entityTypeId && field.tenantId.isNone)
  | .throws message => .error message

def redactForDelivery (env : Env) (lookup : FieldLookup) (tenantId : Id)
    (entityTypeId : Option Id) (payload : Json) : Except String Json :=
  match entityTypeId with
  | none => .ok payload
  | some entityTypeId =>
    match entries payload with
    | none => .error "Cannot convert undefined or null to object"
    | some [] => .ok payload
    | some (entry :: rest) =>
      match lookup.rows env.entityFields tenantId entityTypeId with
      | .error message => .error message
      | .ok rows => .ok (.obj (redactMetadata (entry :: rest) (buildSensitivityMap rows)))

def findAction (env : Env) (job : OutboundJob) : Except String ActionDefinition :=
  match env.getConnectorDefinition job.connectorId with
  | none => .error s!"Connector \"{job.connectorId}\" is not registered in this process"
  | some definition =>
    match definition.actions.find? (·.id == job.actionId) with
    | none => .error s!"Connector \"{job.connectorId}\" has no action \"{job.actionId}\""
    | some action => .ok action

/-- The steps up to the redaction. -/
def prepare (env : Env) (lookup : FieldLookup) (job : OutboundJob) : Except String Json :=
  match findAction env job with
  | .error message => .error message
  | .ok action =>
    match validateActionOutput env action job.payload with
    | .error reason => .error s!"payload validation failed: {reason}"
    | .ok data => redactForDelivery env lookup job.tenantId job.entityTypeId data

/-! ## An attempt -/

def OUTBOUND_ENVELOPE_VERSION : Nat := 1

def buildOutboundEnvelope (attempt : Attempt) (job : OutboundJob) (redacted : Json) :
    OutboundEnvelope :=
  ⟨OUTBOUND_ENVELOPE_VERSION, job.deliveryId, job.eventType, job.tenantId, job.connectorId,
    attempt.sentAt, redacted⟩

def signOutboundRequest (env : Env) (secret rawBody deliveryId : String) (now : Time) :
    List (String × String) :=
  let timestamp := now / 1000
  let signature := env.signOutboundPayload secret deliveryId timestamp rawBody
  [("X-OpenWind-Signature", s!"t={timestamp},v1={signature}"),
    ("X-OpenWind-Delivery-Id", deliveryId)]

def send (env : Env) (attempt : Attempt) (job : OutboundJob) (redacted : Json) :
    List Effect × Except String Unit :=
  match attempt.installation with
  | .error message => ([], .error message)
  | .ok (some none) =>
    match attempt.validatedIp, attempt.decryptCredential with
    | .error message, _ => ([], .error message)
    | .ok _, .error message => ([], .error message)
    | .ok validatedIp, .ok secret =>
      let rawBody := env.stringifyEnvelope (buildOutboundEnvelope attempt job redacted)
      let headers := signOutboundRequest env secret rawBody job.deliveryId attempt.sentAt
      ([.sent ⟨job.targetUrl, validatedIp, headers, rawBody⟩], attempt.delivered)
  | .ok _ => ([], .error
      s!"Connector \"{job.connectorId}\" is disabled or uninstalled for tenant \"{job.tenantId}\"")

def fail (attempt : Attempt) (job : OutboundJob) (attemptNumber : Nat) (id : Id)
    (payloadForDeadLetter : Json) (message : String) : List Effect × Except String Unit :=
  let latencyMs := attempt.finishedAt - attempt.startedAt
  match attempt.failed with
  | .error other => ([], .error other)
  | .ok () =>
    if job.maxAttempts ≤ attemptNumber then
      let exhausted := Effect.finalized id .exhausted latencyMs (some message) none
      match attempt.deadLettered with
      | .error other => ([exhausted], .error other)
      | .ok () => ([exhausted, .deadLettered ⟨job.tenantId, s!"connector.{job.eventType}",
          job.connectorId, job.actionId, job.deliveryId, job.targetUrl, payloadForDeadLetter,
          message, attemptNumber⟩], .error message)
    else
      let backoffMs := 45000 * Nat.pow 2 (attemptNumber - 1)
      ([.finalized id .failed latencyMs (some message) (some (attempt.finishedAt + backoffMs))],
        .error message)

/-- The steps of an attempt whose row is inserted. -/
def attemptJob (env : Env) (attempt : Attempt) (job : OutboundJob) (attemptNumber : Nat) (id : Id) :
    List Effect × Except String Unit :=
  match prepare env attempt.lookup job with
  | .error message => fail attempt job attemptNumber id (.obj job.payload) message
  | .ok redacted =>
    let (sent, result) := send env attempt job redacted
    let stored := result.bind fun _ => attempt.succeeded
    match stored with
    | .error message =>
      let (written, raised) := fail attempt job attemptNumber id redacted message
      (sent ++ written, raised)
    | .ok () =>
      let latencyMs := attempt.finishedAt - attempt.startedAt
      (sent ++ [.finalized id .success latencyMs none none], .ok ())

def processJob (env : Env) (attempt : Attempt) (job : OutboundJob) (attemptNumber : Nat) :
    List Effect × Except String Unit :=
  match attempt.active, attempt.inserted with
  | .error message, _ => ([], .error message)
  | .ok false, _ => ([], .ok ())
  | .ok true, .error message => ([], .error message)
  | .ok true, .ok id =>
    let (effects, result) := attemptJob env attempt job attemptNumber id
    (.pending id job.tenantId job.connectorId job.deliveryId attemptNumber :: effects, result)

def deliveries (env : Env) (job : OutboundJob) : Nat → List Attempt → List Effect
  | _, [] => []
  | attemptNumber, attempt :: rest =>
    match processJob env attempt job attemptNumber with
    | (effects, .ok ()) => effects
    | (effects, .error _) =>
      if job.maxAttempts ≤ attemptNumber then effects
      else effects ++ deliveries env job (attemptNumber + 1) rest

/-! ## The condition -/

/-- A step up to the redaction. -/
inductive PrepareStep
  | action | validation | entries | lookup
  deriving DecidableEq

def redactionFailsAt (lookup : FieldLookup) (entityTypeId : Option Id) (payload : Json) :
    Option PrepareStep :=
  match entityTypeId, entries payload, lookup with
  | none, _, _ => none
  | some _, none, _ => some .entries
  | some _, some (_ :: _), .throws _ => some .lookup
  | _, _, _ => none

def failsAt (env : Env) (lookup : FieldLookup) (job : OutboundJob) : Option PrepareStep :=
  match findAction env job with
  | .error _ => some .action
  | .ok action =>
    match validateActionOutput env action job.payload with
    | .error _ => some .validation
    | .ok data => redactionFailsAt lookup job.entityTypeId data

def Env.Marks (env : Env) (tenantId entityTypeId : Id) (name : String) : Prop :=
  name ∈ sensitiveNames (env.entityFields.filter (EntityField.isOf tenantId entityTypeId))

structure Twins (env : Env) (job : OutboundJob) (payload' : Fields) (entityTypeId : Id)
    (attempts : List Attempt) : Prop where
  typed : job.entityTypeId = some entityTypeId
  alike : Alike (env.Marks job.tenantId entityTypeId) job.payload payload'
  together : ∀ attempt ∈ attempts, failsAt env attempt.lookup { job with payload := payload' } =
    failsAt env attempt.lookup job

/-- The attempt gets as far as the connector. -/
def Attempt.Begins (attempt : Attempt) : Prop :=
  attempt.active = .ok true ∧ ∃ id, attempt.inserted = .ok id

def Attempt.Sends (attempt : Attempt) : Prop :=
  attempt.installation = .ok (some none) ∧ (∃ ip, attempt.validatedIp = .ok ip) ∧
    ∃ secret, attempt.decryptCredential = .ok secret

def Attempt.DeadLetters (attempt : Attempt) (job : OutboundJob) (attemptNumber : Nat) : Prop :=
  attempt.failed = .ok () ∧ job.maxAttempts ≤ attemptNumber ∧ attempt.deadLettered = .ok ()

def Attempt.Ends (env : Env) (job : OutboundJob) (attempt : Attempt) : Prop :=
  attempt.active = .ok false ∨
    attempt.Begins ∧ failsAt env attempt.lookup job = none ∧ attempt.Sends ∧
      attempt.delivered = .ok () ∧ attempt.succeeded = .ok ()

inductive Made (env : Env) (job : OutboundJob) : Nat → List Attempt → Nat → Attempt → Prop
  | first {attemptNumber : Nat} {attempt : Attempt} {rest : List Attempt} :
    Made env job attemptNumber (attempt :: rest) attemptNumber attempt
  | next {attemptNumber laterNumber : Nat} {attempt later : Attempt} {rest : List Attempt}
    (goesOn : ¬ attempt.Ends env job) (left : attemptNumber < job.maxAttempts)
    (made : Made env job (attemptNumber + 1) rest laterNumber later) :
    Made env job attemptNumber (attempt :: rest) laterNumber later

def Env.Hides (env : Env) (lookup : FieldLookup) (tenantId entityTypeId : Id) (name : String) :
    Prop :=
  ∃ rows, lookup.rows env.entityFields tenantId entityTypeId = .ok rows ∧ name ∈ sensitiveNames rows

def SameData (hidden : String → Prop) (data data' : Json) : Prop :=
  data = data' ∨ ∃ entry rest fields', entries data = some (entry :: rest) ∧
    entries data' = some fields' ∧ Alike hidden (entry :: rest) fields'

def SameReason (env : Env) (job : OutboundJob) (payload' : Fields) : Prop :=
  ∀ action, findAction env job = .ok action → ∀ reason reason',
    validateActionOutput env action job.payload = .error reason →
    validateActionOutput env action payload' = .error reason' → reason' = reason

def SameOutput (env : Env) (lookup : FieldLookup) (job : OutboundJob) (payload' : Fields)
    (entityTypeId : Id) : Prop :=
  ∀ action, findAction env job = .ok action → ∀ data data',
    validateActionOutput env action job.payload = .ok data →
    validateActionOutput env action payload' = .ok data' →
    SameData (env.Hides lookup job.tenantId entityTypeId) data data'

structure Discreet (env : Env) (job : OutboundJob) (payload' : Fields) (entityTypeId : Id)
    (attempt : Attempt) (attemptNumber : Nat) : Prop where
  raw : (failsAt env attempt.lookup job).isSome → attempt.DeadLetters job attemptNumber →
    payload' = job.payload
  reasons : attempt.failed = .ok () → SameReason env job payload'
  output : failsAt env attempt.lookup job = none →
    attempt.Sends ∨ attempt.DeadLetters job attemptNumber →
      SameOutput env attempt.lookup job payload' entityTypeId

def Legible (env : Env) (job : OutboundJob) (payload' : Fields) (attempt : Attempt) : Prop :=
  ∀ redacted redacted', prepare env attempt.lookup job = .ok redacted →
    prepare env attempt.lookup { job with payload := payload' } = .ok redacted' →
    env.stringifyEnvelope (buildOutboundEnvelope attempt job redacted') =
      env.stringifyEnvelope (buildOutboundEnvelope attempt job redacted) → redacted' = redacted

/-! ## Two jobs -/

section TwoJobs

variable {env : Env} {job : OutboundJob} {payload' : Fields} {entityTypeId : Id}
  {attempt : Attempt} {attemptNumber : Nat} {attempts : List Attempt}

variable {lookup : FieldLookup} {tenantId : Id} {data data' redacted redacted' : Json}

theorem redactForDelivery_empty (empty : entries data = some []) :
    redactForDelivery env lookup tenantId (some entityTypeId) data = .ok data := by
  simp only [redactForDelivery, empty]

theorem redactForDelivery_cons {entry : String × Json} {rest : Fields}
    (has : entries data = some (entry :: rest))
    (redacts : redactForDelivery env lookup tenantId (some entityTypeId) data = .ok redacted) :
    ∃ rows, lookup.rows env.entityFields tenantId entityTypeId = .ok rows ∧
      redacted = .obj (redactMetadata (entry :: rest) (buildSensitivityMap rows)) := by
  simp only [redactForDelivery, has] at redacts
  cases found : lookup.rows env.entityFields tenantId entityTypeId with
  | error message =>
    rw [found] at redacts
    cases redacts
  | ok rows =>
    rw [found] at redacts
    cases redacts
    exact ⟨rows, rfl, rfl⟩

theorem hides_eq {rows : List EntityField}
    (found : lookup.rows env.entityFields tenantId entityTypeId = .ok rows) :
    env.Hides lookup tenantId entityTypeId = (· ∈ sensitiveNames rows) := by
  funext name
  refine propext ⟨fun ⟨_, again, marked⟩ => ?_, fun marked => ⟨rows, found, marked⟩⟩
  rw [Except.ok.inj (found.symm.trans again)]
  exact marked

theorem redactForDelivery_same_iff
    (first : redactForDelivery env lookup tenantId (some entityTypeId) data = .ok redacted)
    (second : redactForDelivery env lookup tenantId (some entityTypeId) data' = .ok redacted') :
    redacted' = redacted ↔ SameData (env.Hides lookup tenantId entityTypeId) data data' := by
  cases has : entries data with
  | none => simp only [redactForDelivery, has, reduceCtorEq] at first
  | some fields =>
    cases has' : entries data' with
    | none => simp only [redactForDelivery, has', reduceCtorEq] at second
    | some fields' =>
      unfold SameData
      rw [has, has']
      cases fields with
      | nil =>
        obtain rfl := Except.ok.inj ((redactForDelivery_empty has).symm.trans first)
        cases fields' with
        | nil =>
          obtain rfl := Except.ok.inj ((redactForDelivery_empty has').symm.trans second)
          exact ⟨fun same => .inl same.symm, fun same => same.elim Eq.symm nofun⟩
        | cons entry' rest' =>
          obtain ⟨rows, -, rfl⟩ := redactForDelivery_cons has' second
          refine ⟨?_, ?_⟩
          · rintro rfl
            cases has
          · rintro (rfl | ⟨_, _, _, none, -⟩)
            · cases has.symm.trans has'
            · cases none
      | cons entry rest =>
        obtain ⟨rows, found, rfl⟩ := redactForDelivery_cons has first
        cases fields' with
        | nil =>
          obtain rfl := Except.ok.inj ((redactForDelivery_empty has').symm.trans second)
          refine ⟨?_, ?_⟩
          · rintro rfl
            cases has'
          · rintro (rfl | ⟨_, _, _, -, none, alike⟩)
            · cases has.symm.trans has'
            · cases none
              cases alike
        | cons entry' rest' =>
          obtain ⟨rows', found', rfl⟩ := redactForDelivery_cons has' second
          obtain rfl := Except.ok.inj (found.symm.trans found')
          have masked : redactMetadata (entry :: rest) (buildSensitivityMap rows) =
              redactMetadata (entry' :: rest') (buildSensitivityMap rows) ↔
                Alike (· ∈ sensitiveNames rows) (entry :: rest) (entry' :: rest') :=
            redactMetadata_alike_iff
          rw [hides_eq found]
          refine ⟨fun same => ?_, ?_⟩
          · exact .inr ⟨entry, rest, _, rfl, rfl, masked.mp (Json.obj.inj same).symm⟩
          · rintro (rfl | ⟨_, _, _, same, same', alike⟩)
            · rw [has] at has'
              cases has'
              rfl
            · cases same
              cases same'
              rw [masked.mpr alike]

theorem redactForDelivery_outcome (env : Env) (lookup : FieldLookup) (tenantId entityTypeId : Id)
    (data : Json) :
    (redactionFailsAt lookup (some entityTypeId) data = none ∧
      ∃ redacted, redactForDelivery env lookup tenantId (some entityTypeId) data = .ok redacted) ∨
    ∃ step message, redactionFailsAt lookup (some entityTypeId) data = some step ∧
      redactForDelivery env lookup tenantId (some entityTypeId) data = .error message ∧
      ∀ data', redactionFailsAt lookup (some entityTypeId) data' = some step →
        redactForDelivery env lookup tenantId (some entityTypeId) data' = .error message := by
  unfold redactionFailsAt redactForDelivery
  cases has : entries data with
  | none =>
    refine .inr ⟨.entries, _, rfl, rfl, fun data' step => ?_⟩
    split at step
    · cases step
    · next has' => rw [has']
    · cases step
    · cases step
  | some fields =>
    cases fields with
    | nil => exact .inl ⟨rfl, _, rfl⟩
    | cons entry rest =>
      cases lookup with
      | all => exact .inl ⟨rfl, _, rfl⟩
      | platform => exact .inl ⟨rfl, _, rfl⟩
      | throws message =>
        refine .inr ⟨.lookup, message, rfl, rfl, fun data' step => ?_⟩
        split at step
        · cases step
        · cases step
        · next has' is =>
          cases is
          rw [has']
          rfl
        · cases step

inductive Prepared (env : Env) (lookup : FieldLookup) (job : OutboundJob) (payload' : Fields)
    (entityTypeId : Id) : Prop
  | failed {message message' : String} (first : prepare env lookup job = .error message)
    (second : prepare env lookup { job with payload := payload' } = .error message')
    (fails : (failsAt env lookup job).isSome)
    (reason : message' = message ↔ SameReason env job payload')
  | redacted {redacted redacted' : Json} (first : prepare env lookup job = .ok redacted)
    (second : prepare env lookup { job with payload := payload' } = .ok redacted')
    (passes : failsAt env lookup job = none) (reason : SameReason env job payload')
    (output : redacted' = redacted ↔ SameOutput env lookup job payload' entityTypeId)

section

variable {action : ActionDefinition} (registered : findAction env job = .ok action)

include registered

variable (lookup) in
theorem prepare_refused {reason : String}
    (refused : validateActionOutput env action job.payload = .error reason) :
    prepare env lookup job = .error s!"payload validation failed: {reason}" ∧
      failsAt env lookup job = some .validation := by
  unfold prepare failsAt
  simp only [registered, refused, and_self]

variable (lookup) in
theorem prepare_accepted (accepted : validateActionOutput env action job.payload = .ok data) :
    prepare env lookup job = redactForDelivery env lookup job.tenantId job.entityTypeId data ∧
      failsAt env lookup job = redactionFailsAt lookup job.entityTypeId data := by
  unfold prepare failsAt
  simp only [registered, accepted, and_self]

theorem sameReason_refused {reason reason' : String}
    (first : validateActionOutput env action job.payload = .error reason)
    (second : validateActionOutput env action payload' = .error reason') :
    SameReason env job payload' ↔ reason' = reason := by
  refine ⟨fun same => same action registered reason reason' first second,
    fun same other found _ _ first' second' => ?_⟩
  obtain rfl := Except.ok.inj (registered.symm.trans found)
  rw [← Except.error.inj (first.symm.trans first'), ← Except.error.inj (second.symm.trans second')]
  exact same

theorem sameReason_accepted (first : validateActionOutput env action job.payload = .ok data) :
    SameReason env job payload' := by
  intro other found _ _ first'
  obtain rfl := Except.ok.inj (registered.symm.trans found)
  cases first.symm.trans first'

theorem sameOutput_accepted (first : validateActionOutput env action job.payload = .ok data)
    (second : validateActionOutput env action payload' = .ok data') :
    SameOutput env lookup job payload' entityTypeId ↔
      SameData (env.Hides lookup job.tenantId entityTypeId) data data' := by
  refine ⟨fun same => same action registered data data' first second,
    fun same other found _ _ first' second' => ?_⟩
  obtain rfl := Except.ok.inj (registered.symm.trans found)
  rw [← Except.ok.inj (first.symm.trans first'), ← Except.ok.inj (second.symm.trans second')]
  exact same

theorem prepared_refused {reason reason' : String}
    (first : validateActionOutput env action job.payload = .error reason)
    (second : validateActionOutput env action payload' = .error reason') :
    Prepared env lookup job payload' entityTypeId := by
  have registered' : findAction env { job with payload := payload' } = .ok action := registered
  obtain ⟨fails, step⟩ := prepare_refused lookup registered first
  refine .failed fails (prepare_refused lookup registered' second).1 (by rw [step]; rfl) ?_
  rw [sameReason_refused registered first second]
  exact String.append_right_inj _

theorem prepared_accepted (typed : job.entityTypeId = some entityTypeId)
    (first : validateActionOutput env action job.payload = .ok data)
    (second : validateActionOutput env action payload' = .ok data')
    (together : failsAt env lookup { job with payload := payload' } = failsAt env lookup job) :
    Prepared env lookup job payload' entityTypeId := by
  have reason : SameReason env job payload' := sameReason_accepted registered first
  have registered' : findAction env { job with payload := payload' } = .ok action := registered
  obtain ⟨made, step⟩ := prepare_accepted lookup registered first
  obtain ⟨made', step'⟩ := prepare_accepted lookup registered' second
  rw [step', step] at together
  have outcome := redactForDelivery_outcome env lookup job.tenantId entityTypeId data
  have outcome' := redactForDelivery_outcome env lookup job.tenantId entityTypeId data'
  rw [← typed] at outcome outcome'
  rcases outcome with ⟨passes, redacted, redacts⟩ | ⟨failure, message, fails, throws, alike⟩
  · rcases outcome' with ⟨-, redacted', redacts'⟩ | ⟨_, _, fails', -⟩
    · refine .redacted (made.trans redacts) (made'.trans redacts') (step.trans passes) reason ?_
      rw [sameOutput_accepted registered first second]
      rw [typed] at redacts redacts'
      exact redactForDelivery_same_iff redacts redacts'
    · cases fails'.symm.trans (together.trans passes)
  · have throws' := alike data' (together.trans fails)
    refine .failed (made.trans throws) (made'.trans throws') ?_ ⟨fun _ => reason, fun _ => rfl⟩
    rw [step, fails]
    rfl

end

theorem redactionFailsAt_ne (lookup : FieldLookup) (entityTypeId : Option Id) (payload : Json) :
    redactionFailsAt lookup entityTypeId payload ≠ some .validation := by
  unfold redactionFailsAt
  split <;> nofun

theorem prepared (typed : job.entityTypeId = some entityTypeId)
    (together : failsAt env lookup { job with payload := payload' } = failsAt env lookup job) :
    Prepared env lookup job payload' entityTypeId := by
  have same : findAction env { job with payload := payload' } = findAction env job := rfl
  cases registered : findAction env job with
  | error message =>
    have reason : SameReason env job payload' := fun action found => by
      rw [registered] at found
      cases found
    have first : prepare env lookup job = .error message := by simp only [prepare, registered]
    have second : prepare env lookup { job with payload := payload' } = .error message := by
      simp only [prepare, same, registered]
    refine .failed first second ?_ ⟨fun _ => reason, fun _ => rfl⟩
    simp only [failsAt, registered]
    rfl
  | ok action =>
    have registered' := same.trans registered
    cases first : validateActionOutput env action job.payload with
    | error reason =>
      cases second : validateActionOutput env action payload' with
      | error reason' => exact prepared_refused registered first second
      | ok data' =>
        rw [(prepare_refused _ registered first).2, (prepare_accepted _ registered' second).2] at together
        exact absurd together (redactionFailsAt_ne _ _ _)
    | ok data =>
      cases second : validateActionOutput env action payload' with
      | error reason' =>
        rw [(prepare_accepted _ registered first).2, (prepare_refused _ registered' second).2] at together
        exact absurd together.symm (redactionFailsAt_ne _ _ _)
      | ok data' => exact prepared_accepted registered typed first second together

/-! ### An attempt -/

theorem fail_same_iff {payload other : Json} {id : Id} {message message' : String} :
    (fail attempt job attemptNumber id other message').1 =
        (fail attempt job attemptNumber id payload message).1 ↔
      (attempt.failed = .ok () → message' = message) ∧
        (attempt.DeadLetters job attemptNumber → other = payload) := by
  unfold fail Attempt.DeadLetters
  cases attempt.failed with
  | error message => simp
  | ok recorded =>
    by_cases last : job.maxAttempts ≤ attemptNumber
    · cases attempt.deadLettered with
      | error message => simp [last]
      | ok stored => simp [last, and_comm]
    · simp [last]

theorem fail_length (payload other : Json) (id : Id) (message message' : String) :
    (fail attempt job attemptNumber id other message').1.length =
      (fail attempt job attemptNumber id payload message).1.length := by
  unfold fail
  cases attempt.failed with
  | error message => rfl
  | ok recorded =>
    by_cases last : job.maxAttempts ≤ attemptNumber
    · simp only [if_pos last]
      cases attempt.deadLettered with
      | error message => rfl
      | ok stored => rfl
    · simp only [if_neg last]
      rfl

variable (env job) in
theorem send_of_sends (sends : attempt.Sends) : ∃ request : String → OutboundRequest,
    (∀ body, (request body).rawBody = body) ∧ ∀ redacted, send env attempt job redacted =
      ([.sent (request (env.stringifyEnvelope (buildOutboundEnvelope attempt job redacted)))],
        attempt.delivered) := by
  obtain ⟨installed, ⟨ip, allowed⟩, secret, decrypted⟩ := sends
  refine ⟨fun body => ⟨job.targetUrl, ip, signOutboundRequest env secret body job.deliveryId
    attempt.sentAt, body⟩, fun _ => rfl, fun redacted => ?_⟩
  simp only [send, installed, allowed, decrypted]

theorem send_payload : send env attempt { job with payload := payload' } redacted =
    send env attempt job redacted := rfl

variable (env job) in
theorem send_of_not_sends (rests : ¬ attempt.Sends) :
    ∃ message, ∀ redacted, send env attempt job redacted = ([], .error message) := by
  unfold Attempt.Sends at rests
  unfold send
  rcases installed : attempt.installation with message | _ | _ | disabledAt
  · exact ⟨message, fun _ => rfl⟩
  · exact ⟨_, fun _ => rfl⟩
  · cases allowed : attempt.validatedIp with
    | error message => exact ⟨message, fun _ => rfl⟩
    | ok ip =>
      cases decrypted : attempt.decryptCredential with
      | error message => exact ⟨message, fun _ => rfl⟩
      | ok secret => exact absurd ⟨installed, ⟨ip, allowed⟩, secret, decrypted⟩ rests
  · exact ⟨_, fun _ => rfl⟩

theorem attemptJob_unprepared {message : String} (id : Id)
    (fails : prepare env attempt.lookup job = .error message) :
    attemptJob env attempt job attemptNumber id =
      fail attempt job attemptNumber id (.obj job.payload) message := by
  simp only [attemptJob, fails]

/-- The rows that are written after the redaction. -/
def closing (attempt : Attempt) (job : OutboundJob) (attemptNumber : Nat) (id : Id)
    (redacted : Json) (result : Except String Unit) : List Effect × Except String Unit :=
  match result.bind fun _ => attempt.succeeded with
  | .error message => fail attempt job attemptNumber id redacted message
  | .ok () =>
    ([.finalized id .success (attempt.finishedAt - attempt.startedAt) none none], .ok ())

theorem attemptJob_prepared (id : Id) (redacts : prepare env attempt.lookup job = .ok redacted) :
    attemptJob env attempt job attemptNumber id =
      let (sent, result) := send env attempt job redacted
      let (written, raised) := closing attempt job attemptNumber id redacted result
      (sent ++ written, raised) := by
  simp only [attemptJob, redacts, closing]
  split <;> rfl

theorem closing_length (id : Id) (redacted redacted' : Json) (result : Except String Unit) :
    (closing attempt job attemptNumber id redacted' result).1.length =
      (closing attempt job attemptNumber id redacted result).1.length := by
  unfold closing
  split
  · exact fail_length _ _ _ _ _
  · rfl

theorem attemptJob_same_iff (typed : job.entityTypeId = some entityTypeId)
    (together : failsAt env attempt.lookup { job with payload := payload' } =
      failsAt env attempt.lookup job) (legible : Legible env job payload' attempt) (id : Id) :
    (attemptJob env attempt { job with payload := payload' } attemptNumber id).1 =
        (attemptJob env attempt job attemptNumber id).1 ↔
      Discreet env job payload' entityTypeId attempt attemptNumber := by
  cases prepared typed together with
  | failed first second fails reason =>
    rw [attemptJob_unprepared id first, attemptJob_unprepared id second]
    refine fail_same_iff.trans ⟨fun ⟨reasons, raw⟩ => ⟨fun _ stored => Json.obj.inj (raw stored),
      fun recorded => reason.mp (reasons recorded), fun passes => ?_⟩, fun discreet =>
      ⟨fun recorded => reason.mpr (discreet.reasons recorded), fun stored => ?_⟩⟩
    · rw [passes] at fails
      cases fails
    · exact congrArg Json.obj (discreet.raw fails stored)
  | @redacted redacted redacted' first second passes reason output =>
    have masked : (attempt.Sends ∨ attempt.DeadLetters job attemptNumber → redacted' = redacted) ↔
        Discreet env job payload' entityTypeId attempt attemptNumber := by
      refine ⟨fun same => ⟨fun fails => ?_, fun _ => reason, fun _ seen => output.mp (same seen)⟩,
        fun discreet seen => output.mpr (discreet.output passes seen)⟩
      rw [passes] at fails
      cases fails
    rw [← masked, attemptJob_prepared id first, attemptJob_prepared id second]
    by_cases sends : attempt.Sends
    · obtain ⟨request, body, sent⟩ := send_of_sends env job sends
      rw [send_payload, sent, sent]
      refine ⟨fun same _ => ?_, fun same => by rw [same (.inl sends)]; rfl⟩
      have text := congrArg OutboundRequest.rawBody (Effect.sent.inj (cons.inj same).1)
      rw [body, body] at text
      exact legible redacted redacted' first second text
    · obtain ⟨message, unsent⟩ := send_of_not_sends env job sends
      rw [send_payload, unsent, unsent]
      have failed : (fail attempt job attemptNumber id redacted' message).1 =
          (fail attempt job attemptNumber id redacted message).1 ↔
            (attempt.Sends ∨ attempt.DeadLetters job attemptNumber → redacted' = redacted) :=
        fail_same_iff.trans ⟨fun same seen => same.2 (seen.resolve_left sends),
          fun same => ⟨fun _ => rfl, fun stored => same (.inr stored)⟩⟩
      exact failed

theorem attemptJob_length (typed : job.entityTypeId = some entityTypeId)
    (together : failsAt env attempt.lookup { job with payload := payload' } =
      failsAt env attempt.lookup job) (id : Id) :
    (attemptJob env attempt { job with payload := payload' } attemptNumber id).1.length =
      (attemptJob env attempt job attemptNumber id).1.length := by
  cases prepared typed together with
  | failed first second =>
    rw [attemptJob_unprepared id first, attemptJob_unprepared id second]
    exact fail_length _ _ _ _ _
  | @redacted redacted redacted' first second =>
    rw [attemptJob_prepared id first, attemptJob_prepared id second]
    by_cases sends : attempt.Sends
    · obtain ⟨request, -, sent⟩ := send_of_sends env job sends
      rw [send_payload, sent, sent]
      exact congrArg (· + 1) (closing_length id redacted redacted' attempt.delivered)
    · obtain ⟨message, unsent⟩ := send_of_not_sends env job sends
      rw [send_payload, unsent, unsent]
      exact closing_length id redacted redacted' (.error message)

/-! ### The attempts of a job -/

theorem Made.mem {laterNumber : Nat}
    (made : Made env job attemptNumber attempts laterNumber attempt) : attempt ∈ attempts := by
  induction made with
  | first => exact mem_cons_self
  | next _ _ _ ih => exact mem_cons_of_mem _ ih

theorem processJob_begins {id : Id} (active : attempt.active = .ok true)
    (inserted : attempt.inserted = .ok id) :
    processJob env attempt job attemptNumber =
      (.pending id job.tenantId job.connectorId job.deliveryId attemptNumber ::
        (attemptJob env attempt job attemptNumber id).1,
        (attemptJob env attempt job attemptNumber id).2) := by
  simp only [processJob, active, inserted]

variable (env attemptNumber) in
theorem processJob_rests (rests : ¬ attempt.Begins) :
    ∃ result, (result = .ok () ↔ attempt.active = .ok false) ∧
      ∀ job, processJob env attempt job attemptNumber = ([], result) := by
  unfold Attempt.Begins at rests
  rcases active : attempt.active with message | _ | _
  · exact ⟨.error message, ⟨nofun, nofun⟩, fun job => by simp only [processJob, active]⟩
  · exact ⟨.ok (), ⟨fun _ => rfl, fun _ => rfl⟩, fun job => by simp only [processJob, active]⟩
  · cases inserted : attempt.inserted with
    | error message =>
      exact ⟨.error message, ⟨nofun, nofun⟩, fun job => by simp only [processJob, active, inserted]⟩
    | ok id => exact absurd ⟨active, id, inserted⟩ rests

theorem fail_raises (id : Id) (payload : Json) (message : String) :
    (fail attempt job attemptNumber id payload message).2 ≠ .ok () := by
  unfold fail
  cases attempt.failed with
  | error other => exact nofun
  | ok recorded =>
    by_cases last : job.maxAttempts ≤ attemptNumber
    · simp only [if_pos last]
      cases attempt.deadLettered with
      | error other => exact nofun
      | ok stored => exact nofun
    · simp only [if_neg last]
      exact nofun

theorem closing_ok_iff (id : Id) (redacted : Json) (result : Except String Unit) :
    (closing attempt job attemptNumber id redacted result).2 = .ok () ↔
      result = .ok () ∧ attempt.succeeded = .ok () := by
  unfold closing
  cases result with
  | error message => exact ⟨fun ok => absurd ok (fail_raises id redacted message), nofun⟩
  | ok delivered =>
    cases succeeded : attempt.succeeded with
    | error message =>
      refine ⟨fun ok => absurd ok (fail_raises id redacted message), nofun⟩
    | ok stored => exact ⟨fun _ => ⟨rfl, rfl⟩, fun _ => rfl⟩

theorem attemptJob_ok_iff (typed : job.entityTypeId = some entityTypeId) (id : Id) :
    (attemptJob env attempt job attemptNumber id).2 = .ok () ↔
      failsAt env attempt.lookup job = none ∧ attempt.Sends ∧ attempt.delivered = .ok () ∧
        attempt.succeeded = .ok () := by
  have both : Prepared env attempt.lookup job job.payload entityTypeId := prepared typed rfl
  cases both with
  | failed first _ fails =>
    rw [attemptJob_unprepared id first]
    refine ⟨fun ok => absurd ok (fail_raises _ _ _), fun ends => ?_⟩
    rw [ends.1] at fails
    cases fails
  | @redacted redacted _ first _ passes =>
    rw [attemptJob_prepared id first]
    by_cases sends : attempt.Sends
    · obtain ⟨request, -, sent⟩ := send_of_sends env job sends
      rw [sent]
      exact (closing_ok_iff id redacted attempt.delivered).trans
        ⟨fun ends => ⟨passes, sends, ends⟩, fun ends => ends.2.2⟩
    · obtain ⟨message, unsent⟩ := send_of_not_sends env job sends
      rw [unsent]
      exact ⟨fun ok => absurd ok (fail_raises id redacted message), fun ends => absurd ends.2.1 sends⟩

variable (attemptNumber) in
theorem processJob_ok_iff (typed : job.entityTypeId = some entityTypeId) :
    (processJob env attempt job attemptNumber).2 = .ok () ↔ attempt.Ends env job := by
  unfold Attempt.Ends
  by_cases begins : attempt.Begins
  · obtain ⟨active, id, inserted⟩ := begins
    rw [processJob_begins active inserted]
    refine (attemptJob_ok_iff typed id).trans ⟨fun ends => .inr ⟨⟨active, id, inserted⟩, ends⟩, ?_⟩
    rintro (inactive | ends)
    · rw [active] at inactive
      cases inactive
    · exact ends.2
  · obtain ⟨result, ends, processed⟩ := processJob_rests env attemptNumber begins
    rw [processed]
    exact ends.trans ⟨.inl, fun ends => ends.resolve_right fun ends => begins ends.1⟩

variable (attemptNumber) in
theorem processJob_same_iff (typed : job.entityTypeId = some entityTypeId)
    (together : failsAt env attempt.lookup { job with payload := payload' } =
      failsAt env attempt.lookup job) (legible : Legible env job payload' attempt) :
    (processJob env attempt { job with payload := payload' } attemptNumber).1 =
        (processJob env attempt job attemptNumber).1 ↔
      (attempt.Begins → Discreet env job payload' entityTypeId attempt attemptNumber) := by
  by_cases begins : attempt.Begins
  · obtain ⟨active, id, inserted⟩ := begins
    rw [processJob_begins active inserted, processJob_begins active inserted, cons_inj_right,
      attemptJob_same_iff typed together legible id]
    exact ⟨fun discreet _ => discreet, fun discreet => discreet ⟨active, id, inserted⟩⟩
  · obtain ⟨result, -, processed⟩ := processJob_rests env attemptNumber begins
    rw [processed, processed]
    exact ⟨fun _ begins' => absurd begins' begins, fun _ => rfl⟩

theorem processJob_length (typed : job.entityTypeId = some entityTypeId)
    (together : failsAt env attempt.lookup { job with payload := payload' } =
      failsAt env attempt.lookup job) :
    (processJob env attempt { job with payload := payload' } attemptNumber).1.length =
      (processJob env attempt job attemptNumber).1.length := by
  by_cases begins : attempt.Begins
  · obtain ⟨active, id, inserted⟩ := begins
    rw [processJob_begins active inserted, processJob_begins active inserted]
    exact congrArg (· + 1) (attemptJob_length typed together id)
  · obtain ⟨result, -, processed⟩ := processJob_rests env attemptNumber begins
    rw [processed, processed]

theorem deliveries_over {rest : List Attempt} (typed : job.entityTypeId = some entityTypeId)
    (last : attempt.Ends env job ∨ job.maxAttempts ≤ attemptNumber) :
    deliveries env job attemptNumber (attempt :: rest) =
      (processJob env attempt job attemptNumber).1 := by
  unfold deliveries
  split
  · next processed => rw [processed]
  · next processed =>
    have failed : ¬ attempt.Ends env job := fun ends => by
      have ok := (processJob_ok_iff attemptNumber typed).mpr ends
      rw [processed] at ok
      cases ok
    rw [if_pos (last.resolve_left failed), processed]

theorem deliveries_next {rest : List Attempt} (typed : job.entityTypeId = some entityTypeId)
    (goesOn : ¬ attempt.Ends env job) (left : attemptNumber < job.maxAttempts) :
    deliveries env job attemptNumber (attempt :: rest) =
      (processJob env attempt job attemptNumber).1 ++ deliveries env job (attemptNumber + 1) rest := by
  conv => lhs; unfold deliveries
  split
  · next processed =>
    refine absurd ((processJob_ok_iff attemptNumber typed).mp ?_) goesOn
    rw [processed]
  · next processed => rw [if_neg (Nat.not_le.mpr left), processed]

/-- Two jobs that differ in the payload values of the marked fields only write the same rows and
send the same bytes exactly when each attempt that is made, and gets as far as the connector, is
discreet. -/
theorem deliveries_alike_iff (env : Env) (job : OutboundJob) (payload' : Fields) (entityTypeId : Id)
    (attempts : List Attempt) (attemptNumber : Nat)
    (twins : Twins env job payload' entityTypeId attempts)
    (legible : ∀ attempt ∈ attempts, Legible env job payload' attempt) :
    deliveries env { job with payload := payload' } attemptNumber attempts =
        deliveries env job attemptNumber attempts ↔
      ∀ laterNumber attempt, Made env job attemptNumber attempts laterNumber attempt →
        attempt.Begins → Discreet env job payload' entityTypeId attempt laterNumber := by
  obtain ⟨typed, -, together⟩ := twins
  have typed' : { job with payload := payload' }.entityTypeId = some entityTypeId := typed
  induction attempts generalizing attemptNumber with
  | nil => exact ⟨fun _ _ _ made => (nomatch made), fun _ => rfl⟩
  | cons attempt rest ih =>
    have together' := together attempt mem_cons_self
    have first := processJob_same_iff attemptNumber typed together'
      (legible attempt mem_cons_self)
    have ends : attempt.Ends env { job with payload := payload' } ↔ attempt.Ends env job := by
      unfold Attempt.Ends
      rw [together']
    by_cases last : attempt.Ends env job ∨ job.maxAttempts ≤ attemptNumber
    · rw [deliveries_over typed last, deliveries_over typed' (last.imp_left ends.mpr), first]
      refine ⟨fun discreet _ _ made => ?_, fun discreet => discreet _ _ .first⟩
      cases made with
      | first => exact discreet
      | next goesOn left => exact absurd last (not_or.mpr ⟨goesOn, Nat.not_le.mpr left⟩)
    · obtain ⟨goesOn, left⟩ := not_or.mp last
      have left := Nat.not_le.mp left
      rw [deliveries_next typed goesOn left, deliveries_next typed' (mt ends.mp goesOn) left]
      have later := ih (attemptNumber + 1) (fun other mem => legible other (mem_cons_of_mem _ mem))
        fun other mem => together other (mem_cons_of_mem _ mem)
      constructor
      · intro same
        obtain ⟨head, tail⟩ := append_inj same (processJob_length typed together')
        intro _ _ made
        cases made with
        | first => exact first.mp head
        | next _ _ made => exact later.mp tail _ _ made
      · intro discreet
        rw [first.mpr (discreet _ _ .first),
          later.mpr fun _ _ made => discreet _ _ (.next goesOn left made)]

end TwoJobs

/-! ## Two deliveries -/

/-- The payload that is stored. -/
def Effect.payload : Effect → Option Json
  | .deadLettered row => some row.payload
  | _ => none

namespace Sample

/-- An action that takes any payload. -/
def notify : ActionDefinition where
  id := "notify"
  output fields := .ok (.obj fields)

def env (connectors : List String) : Env where
  getConnectorDefinition id :=
    if id ∈ connectors then some { actions := [notify] } else none
  entityFields := [{ id := 1, entityTypeId := 7, tenantId := some 1, name := "email"
                     sensitivity := .pii }]
  stringify _ := ""
  stringifyEnvelope envelope := envelope.deliveryId
  signOutboundPayload secret _ _ _ := secret

def email (address : String) : Fields := [("email", .str address)]

def job : OutboundJob where
  tenantId := 1
  connectorId := "mail"
  actionId := "notify"
  targetUrl := "hooks"
  eventType := "ticket.created"
  payload := email "ana@mail"
  signingSecretCiphertext := ""
  entityTypeId := some 7
  deliveryId := "d1"
  maxAttempts := 2

def refused : Attempt where
  inserted := .ok 1
  startedAt := 0
  validatedIp := .ok "192.0.2.1"
  sentAt := 0
  decryptCredential := .ok "secret"
  delivered := .error "connector delivery received non-2xx: 500"
  finishedAt := 0

theorem marks_email (connectors : List String) : (env connectors).Marks 1 7 "email" :=
  mem_cons_self

theorem alike_email (connectors : List String) (address address' : String) :
    Alike ((env connectors).Marks 1 7) (email address) (email address') :=
  .cons ⟨rfl, fun shown => absurd (marks_email connectors) shown⟩ .nil

theorem refused_of_mem {attempt : Attempt} (mem : attempt ∈ [refused, refused]) :
    attempt = refused :=
  eq_of_mem_replicate (n := 2) mem

theorem failsAt_refused (connectors : List String) (address : String) :
    failsAt (env connectors) refused.lookup { job with payload := email address } =
      if "mail" ∈ connectors then none else some .action := by
  unfold failsAt findAction
  by_cases listed : "mail" ∈ connectors
  · simp only [env, job, if_pos listed]
    rfl
  · simp only [env, job, if_neg listed]

theorem twins (connectors : List String) (address : String) :
    Twins (env connectors) job (email address) 7 [refused, refused] := by
  refine ⟨rfl, alike_email connectors _ _, fun attempt mem => ?_⟩
  rw [refused_of_mem mem, failsAt_refused connectors address]
  exact (failsAt_refused connectors "ana@mail").symm

theorem findAction_mail : findAction (env ["mail"]) job = .ok notify := rfl

theorem discreet (address : String) (attemptNumber : Nat) :
    Discreet (env ["mail"]) job (email address) 7 refused attemptNumber := by
  refine ⟨fun fails => ?_, fun _ => ?_, fun _ _ => ?_⟩
  · rw [show failsAt (env ["mail"]) refused.lookup job = none from
      failsAt_refused ["mail"] "ana@mail"] at fails
    cases fails
  · exact sameReason_accepted findAction_mail rfl
  · refine (sameOutput_accepted findAction_mail rfl rfl).mpr (.inr ⟨_, [], _, rfl, rfl, ?_⟩)
    exact .cons ⟨rfl, fun shown => absurd ⟨_, rfl, marks_email ["mail"]⟩ shown⟩ .nil

end Sample

/-- Both addresses are redacted in what two attempts send and store. -/
theorem refused_twins_alike :
    deliveries (Sample.env ["mail"]) { Sample.job with payload := Sample.email "ben@mail" } 1
        [Sample.refused, Sample.refused] =
      deliveries (Sample.env ["mail"]) Sample.job 1 [Sample.refused, Sample.refused] := by
  refine (deliveries_alike_iff _ Sample.job _ 7 [Sample.refused, Sample.refused] 1
    (Sample.twins _ _) fun attempt mem redacted redacted' first second _ => ?_).mpr
      fun laterNumber attempt made _ => ?_
  · rw [Sample.refused_of_mem mem] at first second
    exact Except.ok.inj (second.symm.trans first)
  · rw [Sample.refused_of_mem made.mem]
    exact Sample.discreet _ _

/-- The connector is not registered, and the last attempt stores the address. -/
theorem unregistered_twins_differ :
    ¬ ∀ (env : Env) (job : OutboundJob) (payload' : Fields) (entityTypeId : Id)
      (attempts : List Attempt), Twins env job payload' entityTypeId attempts →
      deliveries env { job with payload := payload' } 1 attempts =
        deliveries env job 1 attempts := by
  intro same
  have stored := congrArg (filterMap Effect.payload)
    (same (Sample.env []) Sample.job (Sample.email "ben@mail") 7
      [Sample.refused, Sample.refused] (Sample.twins _ _))
  have raw : [Json.obj (Sample.email "ben@mail")] = [Json.obj (Sample.email "ana@mail")] := stored
  simp only [Sample.email, List.cons.injEq, Json.obj.injEq, Prod.mk.injEq, Json.str.injEq] at raw
  exact absurd raw.1.1.2 (by decide)

end Outbound

end OpenWind
