import OpenWind.Schema
import OpenWind.Lib.Attempt

/-!
# API keys

An admin creates, rotates, emergency-rotates and revokes the API keys of a tenant.  A key names
roles, or it names actions and belongs to an application, with a record of it.
-/

open List Txn.Prog

namespace OpenWind

open Txn

/-! ## Rows -/

inductive ScopesFormat
  | role | action
deriving DecidableEq

/-- A row of `api_keys`. -/
structure ApiKey where
  id : Id
  tenantId : Id
  name : String
  keyHash : String
  scopes : List String := []
  scopesFormat : ScopesFormat := .role
  createdBy : Option String := none
  expiresAt : Option Time := none
  revokedAt : Option Time := none
  revokedBy : Option String := none
  rotatedFrom : Option Id := none
  applicationName : Option String := none
  applicationDescription : Option String := none
  applicationContactEmail : Option String := none
  oidcClientId : Option String := none
  oidcClientIdActive : Bool := true
  externalIssuer : Option String := none
  externalOrgId : Option String := none
  /-- The key holds the claim on its application name. -/
  applicationNameActive : Bool := true
deriving DecidableEq

structure KeyStore where
  apiKeys : List ApiKey

def apiKeysTable : Table KeyStore Id ApiKey :=
  ⟨KeyStore.apiKeys, fun _ rows => ⟨rows⟩, ApiKey.id, fun _ _ => rfl⟩

@[simp] theorem apiKeysTable_rows (s : KeyStore) : apiKeysTable.rows s = s.apiKeys := rfl

inductive KeyError
  | response (status : Nat) (code message : String)
  | uniqueViolation (index : String)
  /-- `new URL` threw. -/
  | invalidUrl
deriving DecidableEq

abbrev KeyTx := Prog KeyStore Id KeyError

abbrev KeyHandler := Attempt KeyStore KeyError

/-- The URL of a text. -/
structure Url where
  href : String
  origin : String

/-- What the handlers use from outside. -/
structure KeyEnv where
  /-- `lower(btrim(name))` -/
  normalized : String → String
  parseUrl : String → Option Url
  /-- The origin of `ZITADEL_ISSUER`. -/
  primaryOrigin : String
  /-- Why `assertExternalIssuerEgressAllowed` throws, when it does. -/
  egressDenied : String → Option String

/-- The caller of a route. -/
structure KeyAdmin where
  userId : String
  tenantId : Id
  roles : List String

structure KeySupply where
  id : Id
  keyHash : String
  now : Time

/-! ## Expiry and claims -/

def API_KEY_DEFAULT_TTL_DAYS : Nat := 365

def API_KEY_ROTATION_OVERLAP_HOURS : Nat := 24

def THREE_MONTHS_MS : Nat := 90 * 24 * 60 * 60 * 1000

def ApiKey.ttl : ScopesFormat → Nat
  | .action => THREE_MONTHS_MS
  | .role => API_KEY_DEFAULT_TTL_DAYS * 24 * 60 * 60 * 1000

def ApiKey.isLive (now : Time) (k : ApiKey) : Bool :=
  k.revokedAt.isNone && k.expiresAt.all fun expiresAt => now < expiresAt

def ApiKey.isOf (tenantId id : Id) (k : ApiKey) : Bool := k.id == id && k.tenantId == tenantId

def ApiKey.revoke (now : Time) (revokedBy : String) (k : ApiKey) : ApiKey :=
  { k with revokedAt := some now, revokedBy := some revokedBy }

def ApiKey.claimsClientId (clientId : String) (k : ApiKey) : Bool :=
  k.revokedAt.isNone && k.oidcClientIdActive && k.oidcClientId == some clientId

def ApiKey.claimsName (env : KeyEnv) (tenantId : Id) (name : String) (k : ApiKey) : Bool :=
  k.revokedAt.isNone && k.applicationNameActive && k.tenantId == tenantId &&
    k.applicationName.any fun own => env.normalized own == env.normalized name

def ApiKey.clashesClientId (n k : ApiKey) : Bool :=
  n.revokedAt.isNone && n.oidcClientIdActive && n.oidcClientId.any k.claimsClientId

def ApiKey.clashesName (env : KeyEnv) (n k : ApiKey) : Bool :=
  n.revokedAt.isNone && n.applicationNameActive &&
    n.applicationName.any fun name => k.claimsName env n.tenantId name

/-- The index that refuses the row. -/
def KeyStore.violated (env : KeyEnv) (n : ApiKey) (s : KeyStore) : Option String :=
  if s.apiKeys.any fun k => k.id == n.id then some "api_keys_pkey"
  else if s.apiKeys.any fun k => k.keyHash == n.keyHash then some "api_keys_key_hash_unique"
  else if s.apiKeys.any n.clashesClientId then some "api_keys_oidc_client_id_active_unique"
  else if s.apiKeys.any (n.clashesName env) then
    some "api_keys_tenant_application_name_active_unique"
  else none

def insertApiKey (env : KeyEnv) (n : ApiKey) : KeyTx Unit :=
  .stmt ⟨fun _ => [n.id], none, fun view =>
    match view.violated env n with
    | none => .ok (apiKeysTable.append [n])
    | some index => .error (.uniqueViolation index)⟩ fun _ => .ret ()

/-! ## Scopes -/

/-- A lower-case name. -/
def isActionWord : List Char → Bool
  | [] => false
  | first :: rest => ('a' ≤ first && first ≤ 'z') && rest.all fun c =>
    ('a' ≤ c && c ≤ 'z') || ('0' ≤ c && c ≤ '9') || c == '_'

/-- `ACTION_SCOPE_PATTERN` -/
def isActionScope (scope : String) : Bool :=
  match scope.toList.splitOn ':' with
  | [entity, type, verb] => entity == "entity".toList && isActionWord type && isActionWord verb
  | _ => false

def detectScopesFormat (scopes : List String) : Except String ScopesFormat :=
  if scopes.isEmpty then .ok .role
  else if scopes.all isActionScope then .ok .action
  else if !scopes.any isActionScope then .ok .role
  else .error ("Cannot determine scopes_format: scopes mix action-shaped and role-shaped strings " ++
    "(" ++ ", ".intercalate scopes ++ ")")

def TICKET_ACTION_VERBS : List String :=
  ["create", "read", "comment", "transition", "subticket", "attach"]

def unknownTicketActionScopes (scopes : List String) : List String :=
  scopes.filter fun scope => !(TICKET_ACTION_VERBS.map ("entity:ticket:" ++ ·)).contains scope

def INHERITED_NAMES : List String :=
  ["constructor", "hasOwnProperty", "isPrototypeOf", "propertyIsEnumerable", "toLocaleString",
    "toString", "valueOf", "__proto__", "__defineGetter__", "__defineSetter__",
    "__lookupGetter__", "__lookupSetter__"]

def roleLevel : String → Option Int
  | "user" => some 0
  | "agent" => some 1
  | "admin" => some 2
  | "superadmin" => some 3
  | role => if INHERITED_NAMES.contains role then none else some (-1)

/-- No comparison with `NaN` holds. -/
def isLess : Option Int → Option Int → Bool
  | some a, some b => a < b
  | _, _ => false

/-- `Math.max` -/
def mathMax : Option Int → Option Int → Option Int
  | some a, some b => some (max a b)
  | _, _ => none

def scopeCeilingError (roles scopes : List String) : Option String :=
  let creatorMax := (roles.map roleLevel).foldl mathMax (some (-1))
  if scopes.any fun scope => isLess (roleLevel scope) (some 0) || isLess creatorMax (roleLevel scope)
  then some "Cannot grant scope exceeding your own roles"
  else none

def checkCeiling (roles : List String) (k : ApiKey) : KeyTx Unit :=
  match k.scopesFormat, scopeCeilingError roles k.scopes with
  | .role, some message => .fail (.response 403 "FORBIDDEN" message)
  | _, _ => .ret ()

def requireAdmin (admin : KeyAdmin) : KeyHandler Unit :=
  if admin.roles.contains "admin" then pure ()
  else Attempt.throw (.response 403 "FORBIDDEN" "Insufficient permissions")

def keyNotFound : KeyError := .response 404 "NOT_FOUND" "API key not found"

/-! ## Creating -/

structure CreateApiKeyInput where
  name : String
  scopes : List String := []
  applicationName : Option String := none
  applicationDescription : Option String := none
  applicationContactEmail : Option String := none
  oidcClientId : Option String := none
  externalIssuer : Option String := none
  externalOrgId : Option String := none

def validationError (message : String) : KeyError := .response 422 "VALIDATION_ERROR" message

def dropTrailingSlash (href : String) : String :=
  if href.toList.getLast? = some '/' then String.ofList href.toList.dropLast else href

def normalizeIssuer (env : KeyEnv) : Option String → Except KeyError (Option String)
  | none => .ok none
  | some issuer =>
    match env.parseUrl issuer with
    | none => .error .invalidUrl
    | some url => .ok (some (dropTrailingSlash url.href))

def checkExternalIssuer (env : KeyEnv) (issuer : String) (externalOrgId : Option String) :
    Except KeyError Unit :=
  match env.parseUrl issuer with
  | none => .error (validationError "externalIssuer must be a valid URL")
  | some url =>
    if url.origin == env.primaryOrigin then
      .error (validationError ("externalIssuer matches this platform's primary identity provider" ++
        " — omit externalIssuer/externalOrgId for a key that uses it"))
    else if externalOrgId.isNone then
      .error (.response 422 "ORG_MAPPING_REQUIRED" ("This key's externalIssuer differs from the " ++
        "tenant's primary identity provider — externalOrgId is required so acting-person tokens " ++
        "from that issuer can be matched to this tenant"))
    else match env.egressDenied issuer with
      | some message => .error (validationError message)
      | none => .ok ()

def checkRoleKey (admin : KeyAdmin) (input : CreateApiKeyInput) : Except KeyError Unit :=
  if input.externalIssuer.isSome || input.externalOrgId.isSome then
    .error (validationError
      "externalIssuer/externalOrgId only apply to action-scoped (third-party) keys")
  else match scopeCeilingError admin.roles input.scopes with
    | some message => .error (.response 403 "FORBIDDEN" message)
    | none => .ok ()

def checkActionKey (env : KeyEnv) (input : CreateApiKeyInput) : Except KeyError Unit := do
  if input.externalOrgId.isSome && input.externalIssuer.isNone then
    throw (validationError "externalOrgId requires externalIssuer to also be set")
  match input.externalIssuer with
  | none => pure ()
  | some issuer => checkExternalIssuer env issuer input.externalOrgId
  let unknown := unknownTicketActionScopes input.scopes
  if !unknown.isEmpty then
    throw (.response 422 "INVALID_SCOPES" ("Unknown scope(s): " ++ ", ".intercalate unknown))
  if input.applicationName.isNone || input.applicationContactEmail.isNone ||
      input.oidcClientId.isNone then
    throw (validationError ("applicationName, applicationContactEmail, and oidcClientId are " ++
      "required for an action-scoped key"))

def checkNewKey (env : KeyEnv) (admin : KeyAdmin) (input : CreateApiKeyInput) :
    Except KeyError (ScopesFormat × Option String) := do
  let issuer ← normalizeIssuer env input.externalIssuer
  match detectScopesFormat input.scopes with
  | .error message => throw (.response 422 "INVALID_SCOPES" message)
  | .ok .role =>
    checkRoleKey admin input
    return (.role, issuer)
  | .ok .action =>
    checkActionKey env input
    return (.action, issuer)

def ApiKey.isExpired (now : Time) (k : ApiKey) : Bool :=
  k.expiresAt.any fun expiresAt => expiresAt ≤ now

def clientIdInUse : KeyError :=
  .response 409 "CLIENT_ID_IN_USE"
    "This Zitadel Client ID is already registered to another active key"

def applicationNameInUse (name : String) : KeyError :=
  .response 409 "APPLICATION_NAME_IN_USE" ("An application named \"" ++ name ++
    "\" is already registered for this tenant — use a different name, or mint a new key under " ++
    "the existing application instead")

def reclaim (conflict : Option ApiKey) (now : Time) (inUse : KeyError) : KeyTx Unit :=
  match conflict with
  | none => .ret ()
  | some conflict =>
    if conflict.isExpired now then
      apiKeysTable.update (fun k => k.id == conflict.id) (ApiKey.revoke now "system:expiry-reclaim")
    else .fail inUse

def reclaimClientId (clientId : String) (now : Time) : KeyTx Unit := do
  let conflict ← apiKeysTable.find (ApiKey.claimsClientId clientId)
  reclaim conflict now clientIdInUse

def reclaimApplicationName (env : KeyEnv) (tenantId : Id) (name : String)
    (clientId : Option String) (now : Time) : KeyTx Unit := do
  let conflict ← apiKeysTable.find (ApiKey.claimsName env tenantId name)
  reclaim (conflict.filter fun k => k.oidcClientId != clientId) now (applicationNameInUse name)

def CreateApiKeyInput.row (input : CreateApiKeyInput) (admin : KeyAdmin) (format : ScopesFormat)
    (issuer : Option String) (supply : KeySupply) : ApiKey :=
  let row : ApiKey :=
    { id := supply.id, tenantId := admin.tenantId, name := input.name, keyHash := supply.keyHash
      scopes := input.scopes, scopesFormat := format, createdBy := some admin.userId
      expiresAt := some (supply.now + ApiKey.ttl format) }
  match format with
  | .role => row
  | .action =>
    { row with
      applicationName := input.applicationName
      applicationDescription := input.applicationDescription
      applicationContactEmail := input.applicationContactEmail
      oidcClientId := input.oidcClientId
      externalIssuer := issuer
      externalOrgId := input.externalOrgId }

def insertResponse (input : CreateApiKeyInput) : KeyError → KeyError
  | .uniqueViolation "api_keys_oidc_client_id_active_unique" => clientIdInUse
  | .uniqueViolation "api_keys_tenant_application_name_active_unique" =>
    applicationNameInUse (input.applicationName.getD "")
  | e => e

def insertNewKey (env : KeyEnv) (row : ApiKey) : KeyTx ApiKey := do
  insertApiKey env row
  return row

def createApiKeyHandler (env : KeyEnv) (admin : KeyAdmin) (input : CreateApiKeyInput)
    (supply : KeySupply) : KeyHandler ApiKey := do
  requireAdmin admin
  match checkNewKey env admin input with
  | .error e => Attempt.throw e
  | .ok (format, issuer) =>
    match format, input.oidcClientId with
    | .action, some clientId => Attempt.transaction (reclaimClientId clientId supply.now)
    | _, _ => pure ()
    match format, input.applicationName with
    | .action, some name =>
      Attempt.transaction
        (reclaimApplicationName env admin.tenantId name input.oidcClientId supply.now)
    | _, _ => pure ()
    Attempt.mapError (insertResponse input)
      (Attempt.transaction (insertNewKey env (input.row admin format issuer supply)))

/-! ## Rotating -/

def ApiKey.successor (original : ApiKey) (admin : KeyAdmin) (supply : KeySupply) : ApiKey :=
  let row : ApiKey :=
    { id := supply.id, tenantId := admin.tenantId, name := original.name
      keyHash := supply.keyHash, scopes := original.scopes, scopesFormat := original.scopesFormat
      createdBy := some admin.userId, expiresAt := some (supply.now + ttl original.scopesFormat)
      rotatedFrom := some original.id }
  match original.scopesFormat with
  | .role => row
  | .action =>
    { row with
      applicationName := original.applicationName
      applicationDescription := original.applicationDescription
      applicationContactEmail := original.applicationContactEmail
      oidcClientId := original.oidcClientId }

def ApiKey.overlapEnd (now : Time) (original : ApiKey) : Time :=
  let overlapExpiresAt := now + API_KEY_ROTATION_OVERLAP_HOURS * 60 * 60 * 1000
  match original.expiresAt with
  | none => overlapExpiresAt
  | some expiresAt => if expiresAt < overlapExpiresAt then expiresAt else overlapExpiresAt

def ApiKey.handOff (expiresAt : Time) (k : ApiKey) : ApiKey :=
  { k with
    expiresAt := some expiresAt
    oidcClientIdActive := false
    applicationNameActive := false }

def ApiKey.isNextTo (original : ApiKey) (k : ApiKey) : Bool :=
  original.rotatedFrom == some k.id || k.rotatedFrom == some original.id

def ApiKey.isCapped (tenantId : Id) (original created : ApiKey) (now : Time) (k : ApiKey) : Bool :=
  k.tenantId == tenantId && k.id != original.id && k.id != created.id && k.isLive now &&
    original.isNextTo k

def findLiveKey (tenantId id : Id) (now : Time) : KeyTx ApiKey := do
  let row ← apiKeysTable.find fun k => k.isOf tenantId id && k.isLive now
  Prog.getOr row keyNotFound

def rotateApiKey (env : KeyEnv) (admin : KeyAdmin) (id : Id) (supply : KeySupply) : KeyTx ApiKey := do
  let original ← findLiveKey admin.tenantId id supply.now
  checkCeiling admin.roles original
  apiKeysTable.update (ApiKey.isOf admin.tenantId original.id)
    (ApiKey.handOff (original.overlapEnd supply.now))
  let created := original.successor admin supply
  insertApiKey env created
  apiKeysTable.update (ApiKey.isCapped admin.tenantId original created supply.now)
    (ApiKey.revoke supply.now "system:rotation-lineage-cap")
  return created

def rotateApiKeyHandler (env : KeyEnv) (admin : KeyAdmin) (id : Id) (supply : KeySupply) :
    KeyHandler ApiKey := do
  requireAdmin admin
  Attempt.transaction (rotateApiKey env admin id supply)

def ApiKey.isLiveSuccessor (tenantId : Id) (target : ApiKey) (now : Time) (k : ApiKey) : Bool :=
  k.tenantId == tenantId && k.rotatedFrom == some target.id && k.isLive now

def revokeFound (admin : KeyAdmin) (now : Time) : Option ApiKey → KeyTx Unit
  | none => .ret ()
  | some k => apiKeysTable.update (ApiKey.isOf admin.tenantId k.id) (ApiKey.revoke now admin.userId)

def emergencyRotateApiKey (env : KeyEnv) (admin : KeyAdmin) (id : Id) (supply : KeySupply) :
    KeyTx ApiKey := do
  let target ← findLiveKey admin.tenantId id supply.now
  checkCeiling admin.roles target
  let liveSuccessor ← apiKeysTable.find (ApiKey.isLiveSuccessor admin.tenantId target supply.now)
  apiKeysTable.update (ApiKey.isOf admin.tenantId target.id) (ApiKey.revoke supply.now admin.userId)
  revokeFound admin supply.now liveSuccessor
  let created := target.successor admin supply
  insertApiKey env created
  return created

def emergencyRotateApiKeyHandler (env : KeyEnv) (admin : KeyAdmin) (id : Id)
    (supply : KeySupply) : KeyHandler ApiKey := do
  requireAdmin admin
  Attempt.transaction (emergencyRotateApiKey env admin id supply)

inductive RotationRoute
  | rotate | emergencyRotate

def RotationRoute.handler (route : RotationRoute) (env : KeyEnv) (admin : KeyAdmin) (id : Id)
    (supply : KeySupply) : KeyHandler ApiKey :=
  match route with
  | rotate => rotateApiKeyHandler env admin id supply
  | emergencyRotate => emergencyRotateApiKeyHandler env admin id supply

/-! ## Revoking -/

def deleteApiKey (admin : KeyAdmin) (id : Id) (now : Time) : KeyTx Unit :=
  apiKeysTable.updateOr keyNotFound (fun k => k.isOf admin.tenantId id && k.revokedAt.isNone)
    (ApiKey.revoke now admin.userId)

def deleteApiKeyHandler (admin : KeyAdmin) (id : Id) (now : Time) : KeyHandler Unit := do
  requireAdmin admin
  Attempt.transaction (deleteApiKey admin id now)

/-! ## What the calls do -/

def ApiKey.CoveredBy (roles : List String) (k : ApiKey) : Prop :=
  k.scopesFormat = .role → scopeCeilingError roles k.scopes = none

section Successor

variable (original : ApiKey) (admin : KeyAdmin) (supply : KeySupply)

theorem ApiKey.successor_id : (original.successor admin supply).id = supply.id := by
  unfold successor
  cases original.scopesFormat <;> rfl

theorem ApiKey.successor_tenantId :
    (original.successor admin supply).tenantId = admin.tenantId := by
  unfold successor
  cases original.scopesFormat <;> rfl

theorem ApiKey.successor_rotatedFrom :
    (original.successor admin supply).rotatedFrom = some original.id := by
  unfold successor
  cases original.scopesFormat <;> rfl

theorem ApiKey.successor_revokedAt : (original.successor admin supply).revokedAt = none := by
  unfold successor
  cases original.scopesFormat <;> rfl

theorem ApiKey.successor_expiresAt :
    (original.successor admin supply).expiresAt =
      some (supply.now + ttl original.scopesFormat) := by
  unfold successor
  cases original.scopesFormat <;> rfl

theorem ApiKey.ttl_pos (format : ScopesFormat) : 0 < ttl format := by
  cases format <;> decide

theorem ApiKey.successor_live : (original.successor admin supply).isLive supply.now := by
  unfold isLive
  rw [successor_revokedAt, successor_expiresAt]
  exact decide_eq_true (Nat.lt_add_of_pos_right (ttl_pos original.scopesFormat))

end Successor

section Exec

variable {env : KeyEnv} {admin : KeyAdmin} {id : Id} {supply : KeySupply} {s t : KeyStore}

variable {created k n : ApiKey} {tenantId : Id} {α : Type} {u : Unit} {now : Time}

theorem KeyStore.find_key (mem : k ∈ s.apiKeys) (named : k.isOf tenantId id) {p : ApiKey → Bool}
    (chosen : p k) (one : ∀ other ∈ s.apiKeys, other.id = k.id → other = k) :
    s.apiKeys.find? (fun other => other.isOf tenantId id && p other) = some k := by
  have found : (s.apiKeys.find? fun other => other.isOf tenantId id && p other).isSome = true :=
    find?_isSome.mpr ⟨k, mem, Bool.and_eq_true_iff.mpr ⟨named, chosen⟩⟩
  obtain ⟨other, eq⟩ := Option.isSome_iff_exists.mp found
  have chosen' := find?_some eq
  have isOf := (Bool.and_eq_true_iff.mp chosen').1
  have same : other.id = k.id := (eq_of_beq (Bool.and_eq_true_iff.mp isOf).1).trans
    (eq_of_beq (Bool.and_eq_true_iff.mp named).1).symm
  rw [eq, one other (mem_of_find?_eq_some eq) same]

theorem requireAdmin_transaction_ok {p : KeyTx α} {a : α} :
    (requireAdmin admin).bind (fun _ => Attempt.transaction p) s = (.ok a, t) ↔
      admin.roles.contains "admin" ∧ p.exec s = .ok (a, t) := by
  unfold requireAdmin
  by_cases isAdmin : admin.roles.contains "admin" = true
  · rw [if_pos isAdmin, iff_true_intro isAdmin, true_and]
    show Attempt.transaction p s = _ ↔ _
    unfold Attempt.transaction
    cases p.exec s with
    | error e => simp
    | ok done => simp [Prod.ext_iff]
  · rw [if_neg isAdmin]
    constructor
    · exact fun ran => nomatch ran
    · exact fun both => absurd both.1 isAdmin

theorem requireAdmin_transaction_failed {p : KeyTx α} {e : KeyError}
    (failed : (requireAdmin admin).bind (fun _ => Attempt.transaction p) s = (.error e, t)) :
    t = s := by
  unfold requireAdmin at failed
  by_cases isAdmin : admin.roles.contains "admin" = true
  · rw [if_pos isAdmin] at failed
    change Attempt.transaction p s = _ at failed
    unfold Attempt.transaction at failed
    cases ran : p.exec s with
    | error e' =>
      rw [ran] at failed
      exact (Prod.ext_iff.mp failed).2.symm
    | ok done =>
      rw [ran] at failed
      cases failed
  · rw [if_neg isAdmin] at failed
    exact (Prod.ext_iff.mp failed).2.symm

theorem exec_checkCeiling_ok {roles : List String} :
    (checkCeiling roles k).exec s = .ok (u, t) ↔ k.CoveredBy roles ∧ t = s := by
  unfold checkCeiling ApiKey.CoveredBy
  cases k.scopesFormat with
  | action => simp [eq_comm]
  | role => cases scopeCeilingError roles k.scopes <;> simp [eq_comm]

theorem exec_findLiveKey_ok :
    (findLiveKey tenantId id now).exec s = .ok (k, t) ↔
      s.apiKeys.find? (fun k => k.isOf tenantId id && k.isLive now) = some k ∧ t = s := by
  unfold findLiveKey
  simp only [bind_eq, exec_bind, Table.exec_find, apiKeysTable_rows, exec_getOr_ok]

theorem exec_insertApiKey_ok :
    (insertApiKey env n).exec s = .ok (u, t) ↔
      s.violated env n = none ∧ t = ⟨s.apiKeys ++ [n]⟩ := by
  unfold insertApiKey exec
  dsimp only
  cases s.violated env n with
  | none => simp [exec, Table.append, apiKeysTable, eq_comm]
  | some index => simp

theorem KeyStore.violated_none : s.violated env n = none ↔ ∀ k ∈ s.apiKeys,
    k.id ≠ n.id ∧ k.keyHash ≠ n.keyHash ∧ n.clashesClientId k = false ∧
      n.clashesName env k = false := by
  have passed {found : Bool} {index : String} {rest : Option String} :
      (if found then some index else rest) = none ↔ found = false ∧ rest = none := by
    cases found <;> simp
  unfold violated
  rw [passed, passed, passed, passed]
  simp only [any_eq_false, beq_iff_eq, Bool.not_eq_true, and_true, forall_and]

theorem KeyStore.violated_none_id (free : s.violated env n = none) : ∀ k ∈ s.apiKeys, k.id ≠ n.id :=
  fun k mem => (KeyStore.violated_none.mp free k mem).1

def KeyStore.handedOff (s : KeyStore) (tenantId : Id) (original : ApiKey) (now : Time) : KeyStore :=
  ⟨s.apiKeys.map fun k =>
    if k.isOf tenantId original.id then k.handOff (original.overlapEnd now) else k⟩

def KeyStore.capped (s : KeyStore) (tenantId : Id) (original created : ApiKey) (now : Time) :
    KeyStore :=
  ⟨s.apiKeys.map fun k =>
    if ApiKey.isCapped tenantId original created now k then
      k.revoke now "system:rotation-lineage-cap" else k⟩

theorem exec_rotateApiKey_ok :
    (rotateApiKey env admin id supply).exec s = .ok (created, t) ↔ ∃ original,
      s.apiKeys.find? (fun k => k.isOf admin.tenantId id && k.isLive supply.now) = some original ∧
      original.CoveredBy admin.roles ∧ created = original.successor admin supply ∧
      (s.handedOff admin.tenantId original supply.now).violated env created = none ∧
      t = KeyStore.capped ⟨(s.handedOff admin.tenantId original supply.now).apiKeys ++ [created]⟩
        admin.tenantId original created supply.now := by
  unfold rotateApiKey
  simp only [exec_seq_ok, exec_findLiveKey_ok, exec_checkCeiling_ok, Table.exec_update,
    exec_insertApiKey_ok, exec_pure, ok_eq_ok]
  constructor
  · rintro ⟨original, _, ⟨found, rfl⟩, _, _, ⟨covered, rfl⟩, _, _, ⟨-, rfl⟩, _, _, ⟨free, rfl⟩, _,
      _, ⟨-, rfl⟩, rfl, rfl⟩
    exact ⟨original, found, covered, rfl, free, rfl⟩
  · rintro ⟨original, found, covered, rfl, free, rfl⟩
    exact ⟨original, s, ⟨found, rfl⟩, (), s, ⟨covered, rfl⟩, (), _, ⟨trivial, rfl⟩, (), _,
      ⟨free, rfl⟩, (), _, ⟨trivial, rfl⟩, rfl, rfl⟩

def KeyStore.killed (s : KeyStore) (admin : KeyAdmin) (target : ApiKey)
    (liveSuccessor : Option ApiKey) (now : Time) : KeyStore :=
  ⟨s.apiKeys.map fun k =>
    if k.isOf admin.tenantId target.id || liveSuccessor.any fun successor =>
      k.isOf admin.tenantId successor.id then k.revoke now admin.userId else k⟩

theorem ApiKey.revoke_revoke (now : Time) (revokedBy : String) (k : ApiKey) :
    (k.revoke now revokedBy).revoke now revokedBy = k.revoke now revokedBy := rfl

theorem exec_revokeFound (liveSuccessor : Option ApiKey) (target : ApiKey) (now : Time) :
    (revokeFound admin now liveSuccessor).exec (apiKeysTable.modify
        (ApiKey.isOf admin.tenantId target.id) (ApiKey.revoke now admin.userId) s) =
      .ok ((), s.killed admin target liveSuccessor now) := by
  cases liveSuccessor with
  | none =>
    unfold revokeFound KeyStore.killed
    simp only [Option.any_none, Bool.or_false, exec_ret]
    rfl
  | some successor =>
    unfold revokeFound
    rw [Table.exec_update]
    refine congrArg (fun rows => Except.ok ((), KeyStore.mk rows)) ?_
    refine (map_map ..).trans (map_congr_left fun k _ => ?_)
    simp only [Function.comp, Option.any_some]
    have same : (k.revoke now admin.userId).isOf admin.tenantId successor.id =
        k.isOf admin.tenantId successor.id := rfl
    cases k.isOf admin.tenantId target.id with
    | false => rfl
    | true => simp only [if_true, Bool.true_or, same, ApiKey.revoke_revoke, ite_self]

theorem exec_emergencyRotateApiKey_ok :
    (emergencyRotateApiKey env admin id supply).exec s = .ok (created, t) ↔ ∃ target,
      s.apiKeys.find? (fun k => k.isOf admin.tenantId id && k.isLive supply.now) = some target ∧
      target.CoveredBy admin.roles ∧ created = target.successor admin supply ∧
      (s.killed admin target (s.apiKeys.find? (ApiKey.isLiveSuccessor admin.tenantId target
        supply.now)) supply.now).violated env created = none ∧
      t = ⟨(s.killed admin target (s.apiKeys.find? (ApiKey.isLiveSuccessor admin.tenantId target
        supply.now)) supply.now).apiKeys ++ [created]⟩ := by
  unfold emergencyRotateApiKey
  simp only [exec_seq_ok, exec_findLiveKey_ok, exec_checkCeiling_ok, Table.exec_find,
    Table.exec_update, exec_insertApiKey_ok, exec_pure, ok_eq_ok, apiKeysTable_rows]
  constructor
  · rintro ⟨target, _, ⟨found, rfl⟩, _, _, ⟨covered, rfl⟩, _, _, ⟨rfl, rfl⟩, _, _, ⟨-, rfl⟩, _, _,
      ran, _, _, ⟨free, rfl⟩, rfl, rfl⟩
    rw [exec_revokeFound] at ran
    cases ran
    exact ⟨target, found, covered, rfl, free, rfl⟩
  · rintro ⟨target, found, covered, rfl, free, rfl⟩
    exact ⟨target, s, ⟨found, rfl⟩, (), s, ⟨covered, rfl⟩, _, s, ⟨rfl, rfl⟩, (), _, ⟨trivial, rfl⟩,
      (), _, exec_revokeFound _ target supply.now, (), _, ⟨free, rfl⟩, rfl, rfl⟩

theorem exec_deleteApiKey_ok (ran : (deleteApiKey admin id now).exec s = .ok (u, t)) :
    t = ⟨s.apiKeys.map fun k => if k.isOf admin.tenantId id && k.revokedAt.isNone then
      k.revoke now admin.userId else k⟩ := by
  unfold deleteApiKey Table.updateOr at ran
  rw [exec_writeChecked_ok] at ran
  rw [ran.2, Table.modify_selected]
  rfl

end Exec

end OpenWind
