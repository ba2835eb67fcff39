import OpenWind.Schema
import OpenWind.Lib.Runs

/-!
# Idempotency keys of third-party requests

A mutating request may carry an `Idempotency-Key`.  Its response is then kept for
24 hours, under the tenant, the application, the person and the key, and replayed
to a request that comes again.
-/

namespace OpenWind

/-! ## Scopes and responses -/

structure IdempotencyScope where
  tenantId : String
  applicationActorId : String
  actingPersonId : String
  idempotencyKey : Option String
  deriving DecidableEq

inductive IdempotencyStatus
  | ok
  | created
  | badRequest
  | unauthorized
  | forbidden
  | notFound
  | conflict
  | unprocessable
  | tooManyRequests
  | internalError
  deriving DecidableEq

namespace IdempotencyStatus

def code : IdempotencyStatus → Nat
  | ok => 200
  | created => 201
  | badRequest => 400
  | unauthorized => 401
  | forbidden => 403
  | notFound => 404
  | conflict => 409
  | unprocessable => 422
  | tooManyRequests => 429
  | internalError => 500

def all : List IdempotencyStatus :=
  [ok, created, badRequest, unauthorized, forbidden, notFound, conflict, unprocessable,
    tooManyRequests, internalError]

/-- `isIdempotencyStatus`, with the status it recognizes. -/
def ofCode (status : Nat) : Option IdempotencyStatus := all.find? fun s => s.code == status

@[simp] theorem ofCode_code (status : IdempotencyStatus) : ofCode status.code = some status := by
  cases status <;> rfl

end IdempotencyStatus

structure IdempotencyResponse where
  status : IdempotencyStatus
  body : Json
  headers : List (String × String) := []
  doNotCache : Bool := false

namespace IdempotencyResponse

def errorBody (error message : String) : List (String × Json) :=
  [("error", .str error), ("message", .str message)]

def keyInvalid : IdempotencyResponse :=
  { status := .badRequest
    body := .obj (errorBody "IDEMPOTENCY_KEY_INVALID"
      "Idempotency-Key must be at most 255 characters") }

def invalidStatus : IdempotencyResponse :=
  { status := .internalError
    body := .obj (errorBody "INTERNAL_ERROR" "Cached response has invalid status code") }

def keyConflict : IdempotencyResponse :=
  { status := .conflict
    body := .obj (errorBody "IDEMPOTENCY_KEY_CONFLICT"
      "This idempotency key was already used for a request with different content") }

def inProgress : IdempotencyResponse :=
  { status := .conflict
    body := .obj (errorBody "IDEMPOTENCY_IN_PROGRESS"
      "A request with this idempotency key is already in progress" ++
        [("retryAfterSeconds", .num 1)])
    headers := [("Retry-After", "1")] }

/-- The response as the cache gives it back. -/
def replay (response : IdempotencyResponse) : IdempotencyResponse :=
  { status := response.status, body := response.body }

end IdempotencyResponse

/-! ## Keys -/

def LOCK_TTL_MS : Nat := 30000

def CACHE_TTL_MS : Nat := 24 * 60 * 60 * 1000

def MAX_IDEMPOTENCY_KEY_LENGTH : Nat := 255

structure Hashing where
  canonicalize : Json → Option String
  sha256 : String → String

/-- The text that is hashed. -/
def Hashing.canonical (H : Hashing) (content : Json) : String :=
  (H.canonicalize content).getD "null"

def Hashing.computeContentHash (H : Hashing) (content : Json) : String :=
  H.sha256 (H.canonical content)

def isUnescaped (c : Char) : Bool :=
  c.isAlphanum || "-_.!~*'()".toList.contains c

def hexDigit (n : Nat) : Char :=
  if n < 10 then Char.ofNat (48 + n) else Char.ofNat (55 + n)

def escapeByte (byte : UInt8) : List Char :=
  ['%', hexDigit (byte.toNat / 16), hexDigit (byte.toNat % 16)]

def encodeURIComponent (text : String) : String :=
  String.ofList <| text.toList.flatMap fun c =>
    if isUnescaped c then [c] else (String.utf8EncodeChar c).flatMap escapeByte

def lockKey (tenantId applicationActorId actingPersonId idempotencyKey : String) : String :=
  "idempotency-lock:" ++ tenantId ++ ":" ++ applicationActorId ++ ":" ++ actingPersonId ++ ":" ++
    encodeURIComponent idempotencyKey

def IdempotencyScope.key (scope : IdempotencyScope) : Option String :=
  scope.idempotencyKey.filter fun key =>
    key != "" && decide (textLength key ≤ MAX_IDEMPOTENCY_KEY_LENGTH)

/-! ## Requests under way -/

structure IdempotencyKeyRow where
  tenantId : String
  apiKeyId : String
  actingPersonId : String
  idempotencyKey : String
  contentHash : String
  responseStatus : Nat
  responseBody : Json
  expiresAt : Time

structure IdempotencyLock where
  token : Nat
  expiresAt : Time

structure Request where
  scope : IdempotencyScope
  content : Json

/-- What `withIdempotency` returns, or that it throws. -/
inductive Answer
  | returned (response : IdempotencyResponse)
  | threw

inductive Entry
  | direct
  | unlocked
  | locked
  deriving DecidableEq

inductive Phase
  | lookup
  | acquire
  | recheck
  | executing (entry : Entry)
  | caching (entry : Entry) (response : IdempotencyResponse)
  | releasing (answer : Answer)
  | answered (answer : Answer)

/-- The request holds the lock. -/
def Phase.inSection : Phase → Bool
  | .recheck => true
  | .executing entry => entry == .locked
  | .caching entry _ => entry == .locked
  | .releasing _ => true
  | _ => false

structure Call where
  request : Request
  key : String
  contentHash : String
  phase : Phase

def Call.lockKey (call : Call) : String :=
  OpenWind.lockKey call.request.scope.tenantId call.request.scope.applicationActorId
    call.request.scope.actingPersonId call.key

inductive Event
  | began (id : Nat) (request : Request)
  | called (id : Nat) (request : Request)
  | produced (id : Nat) (request : Request) (outcome : Option IdempotencyResponse)
  | answered (id : Nat) (request : Request) (answer : Answer)

structure World where
  now : Time
  rows : List IdempotencyKeyRow
  locks : String → Option IdempotencyLock
  calls : Nat → Option Call
  log : List Event

/-! ## The cache and the locks -/

def IdempotencyKeyRow.isOf (scope : IdempotencyScope) (key : String) (row : IdempotencyKeyRow) :
    Bool :=
  row.tenantId == scope.tenantId && row.apiKeyId == scope.applicationActorId &&
    row.actingPersonId == scope.actingPersonId && row.idempotencyKey == key

def World.liveRow (w : World) (scope : IdempotencyScope) (key : String) :
    Option IdempotencyKeyRow :=
  w.rows.find? fun row => row.isOf scope key && decide (w.now < row.expiresAt)

def IdempotencyKeyRow.response (row : IdempotencyKeyRow) (contentHash : String) :
    IdempotencyResponse :=
  if row.contentHash == contentHash then
    match IdempotencyStatus.ofCode row.responseStatus with
    | none => .invalidStatus
    | some status => { status, body := row.responseBody }
  else .keyConflict

def World.lookupCached (w : World) (call : Call) : Option IdempotencyResponse :=
  (w.liveRow call.request.scope call.key).map fun row => row.response call.contentHash

def IdempotencyResponse.isStorable (response : IdempotencyResponse) : Bool :=
  !response.body.same .null

def cachedRow (now : Time) (call : Call) (response : IdempotencyResponse) : IdempotencyKeyRow where
  tenantId := call.request.scope.tenantId
  apiKeyId := call.request.scope.applicationActorId
  actingPersonId := call.request.scope.actingPersonId
  idempotencyKey := call.key
  contentHash := call.contentHash
  responseStatus := response.status.code
  responseBody := response.body
  expiresAt := now + CACHE_TTL_MS

def World.unexpired (w : World) (call : Call) : List IdempotencyKeyRow :=
  w.rows.filter fun row =>
    !(row.isOf call.request.scope call.key && decide (row.expiresAt ≤ w.now))

def World.persist (w : World) (call : Call) (response : IdempotencyResponse) : World :=
  { w with
    rows :=
      if (w.unexpired call).any (IdempotencyKeyRow.isOf call.request.scope call.key) then
        w.unexpired call
      else w.unexpired call ++ [cachedRow w.now call response] }

/-- The entry that Redis has under the key. -/
def World.lockAt (w : World) (key : String) : Option IdempotencyLock :=
  (w.locks key).filter fun lock => decide (w.now < lock.expiresAt)

def World.setLock (w : World) (id : Nat) (call : Call) : World :=
  { w with
    locks := Function.update w.locks call.lockKey (some ⟨id, w.now + LOCK_TTL_MS⟩) }

def World.unlock (w : World) (id : Nat) (call : Call) : World :=
  if (w.lockAt call.lockKey).any fun lock => lock.token == id then
    { w with locks := Function.update w.locks call.lockKey none }
  else w

/-! ## Steps -/

def World.enter (w : World) (id : Nat) (call : Call) (phase : Phase) : World :=
  { w with calls := Function.update w.calls id (some { call with phase }) }

def World.note (w : World) (event : Event) : World := { w with log := w.log ++ [event] }

def World.execute (w : World) (id : Nat) (call : Call) (entry : Entry) : World :=
  (w.enter id call (.executing entry)).note (.called id call.request)

def World.answer (w : World) (id : Nat) (call : Call) (answer : Answer) : World :=
  (w.enter id call (.answered answer)).note (.answered id call.request answer)

def World.leave (w : World) (id : Nat) (call : Call) (entry : Entry) (answer : Answer) : World :=
  if entry = .locked then w.enter id call (.releasing answer) else w.answer id call answer

/-- `withIdempotency`, up to its first access. -/
def World.begin (H : Hashing) (w : World) (id : Nat) (request : Request) : World :=
  let w := w.note (.began id request)
  let call (key : String) : Call :=
    { request, key, contentHash := H.computeContentHash request.content, phase := .lookup }
  match request.scope.idempotencyKey with
  | none => w.execute id (call "") .direct
  | some key =>
    if key = "" then w.execute id (call key) .direct
    else if MAX_IDEMPOTENCY_KEY_LENGTH < textLength key then
      w.answer id (call key) (.returned .keyInvalid)
    else w.enter id (call key) .lookup

def World.proceed (w : World) (id : Nat) (call : Call) : Option World :=
  match call.phase with
  | .lookup =>
    match w.lookupCached call with
    | some response => some (w.answer id call (.returned response))
    | none => some (w.enter id call .acquire)
  | .acquire =>
    match w.lockAt call.lockKey with
    | some _ => some (w.answer id call (.returned .inProgress))
    | none => some ((w.setLock id call).enter id call .recheck)
  | .recheck =>
    match w.lookupCached call with
    | some response => some (w.enter id call (.releasing (.returned response)))
    | none => some (w.execute id call .locked)
  | .caching entry response =>
    if response.isStorable then
      some ((w.persist call response).leave id call entry (.returned response))
    else some (w.leave id call entry (.returned response))
  | .releasing answer => some ((w.unlock id call).answer id call answer)
  | .executing _ => none
  | .answered _ => none

/-- The handler ends with a response, or throws. -/
def World.executed (w : World) (id : Nat) (call : Call) (outcome : Option IdempotencyResponse) :
    Option World :=
  match call.phase with
  | .executing entry =>
    let w := w.note (.produced id call.request outcome)
    match outcome with
    | none => some (w.leave id call entry .threw)
    | some response =>
      if entry = .direct ∨ response.doNotCache then
        some (w.leave id call entry (.returned response))
      else some (w.enter id call (.caching entry response))
  | _ => none

def World.dbError (w : World) (id : Nat) (call : Call) : Option World :=
  match call.phase with
  | .lookup => some (w.answer id call .threw)
  | .recheck => some (w.enter id call (.releasing .threw))
  | .caching entry response => some (w.leave id call entry (.returned response))
  | _ => none

def World.redisError (w : World) (id : Nat) (call : Call) : Option World :=
  match call.phase with
  | .acquire => some (w.execute id call .unlocked)
  | .releasing answer => some (w.answer id call answer)
  | _ => none

inductive RequestLabel
  | tick (time : Nat)
  | begin (id : Nat) (request : Request)
  | proceed (id : Nat)
  | executed (id : Nat) (outcome : Option IdempotencyResponse)
  | dbError (id : Nat)
  | redisError (id : Nat)

namespace World

def step (H : Hashing) (w : World) : RequestLabel → Option World
  | .tick time => some { w with now := w.now + time }
  | .begin id request =>
    match w.calls id with
    | none => some (w.begin H id request)
    | some _ => none
  | .proceed id => (w.calls id).bind (w.proceed id)
  | .executed id outcome => (w.calls id).bind fun call => w.executed id call outcome
  | .dbError id => (w.calls id).bind (w.dbError id)
  | .redisError id => (w.calls id).bind (w.redisError id)

/-- No request is under way. -/
def idle (now : Time) (rows : List IdempotencyKeyRow) (locks : String → Option IdempotencyLock) :
    World :=
  { now, rows, locks, calls := fun _ => none, log := [] }

end World

end OpenWind
