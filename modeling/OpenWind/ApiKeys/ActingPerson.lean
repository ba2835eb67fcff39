import OpenWind.ApiKeys.Keys
import Mathlib.Algebra.Order.Ring.Rat

/-!
# Rotation and the acting person

A request with the key of an application carries the token of a person.  The columns of the key
say who verifies the token, and which organisation the person has to belong to.
-/

open List

namespace OpenWind

open Txn

/-! ## The check of a request -/

inductive Principal
  | person (userId : String)
  | apiKey (id : Id)

structure RequestAuth where
  principal : Principal
  tenantId : Id
  orgId : Option String

structure TokenVerifiers where
  verifyJwtForIssuer : Time → String → String → String → Option Fields
  verifyJwtWithAudience : Time → String → String → Option Fields
  /-- The organisation of a tenant. -/
  lookupOrgIdByTenantId : Id → Option String

structure ActingPersonContext where
  userId : String
  email : String
  displayName : String
  orgId : String

def ACTING_PERSON_TOKEN_MAX_AGE_MINUTES : Nat := 15

def ORG_CLAIM_NAMES : List String := ["urn:zitadel:iam:user:resourceowner:id", "org_id"]

def ORG_CLAIM_NAME_BY_EXTERNAL_ISSUER : List (String × String) := []

def DEFAULT_EXTERNAL_ORG_CLAIM_NAME : String := "org_id"

/-- A text that is there and not empty. -/
def present (text : Option String) : Option String := text.filter (· ≠ "")

def claimText (claims : Fields) (name : String) : Option String :=
  match claims.get name with
  | some (.str text) => some text
  | _ => none

def extractOrgClaim (claims : Fields) : Option String :=
  ORG_CLAIM_NAMES.findSome? fun name => present (claimText claims name)

def extractOrgClaimForExternalIssuer (claims : Fields) (issuer : String) : Option String :=
  present (claimText claims
    ((ORG_CLAIM_NAME_BY_EXTERNAL_ISSUER.lookup issuer).getD DEFAULT_EXTERNAL_ORG_CLAIM_NAME))

def isFreshToken (claims : Fields) (now : Time) : Bool :=
  match claims.get "iat" with
  | some (.num issuedAt) =>
    let ageSeconds := (now : Rat) / 1000 - issuedAt
    !(decide (ageSeconds > (ACTING_PERSON_TOKEN_MAX_AGE_MINUTES * 60 : Nat)) ||
      decide (ageSeconds < -60))
  | _ => false

def displayNameOf (claims : Fields) (userId : String) : String :=
  let parts := [claimText claims "given_name", claimText claims "family_name"].filterMap present
  let names := (claimText claims "name").or (present (" ".intercalate parts))
  (names.or (claimText claims "email")).getD userId

def actingPerson (verifiers : TokenVerifiers) (k : ApiKey) (tenantOrgId : Option String)
    (personToken : String) (now : Time) : Option ActingPersonContext := do
  let clientId ← present k.oidcClientId
  let claims ← match present k.externalIssuer with
    | some issuer => verifiers.verifyJwtForIssuer now personToken issuer clientId
    | none => verifiers.verifyJwtWithAudience now personToken clientId
  guard (isFreshToken claims now)
  let expectedOrgId := match present k.externalIssuer with
    | some _ => k.externalOrgId
    | none => tenantOrgId
  let tokenOrgId ← match present k.externalIssuer with
    | some issuer => extractOrgClaimForExternalIssuer claims issuer
    | none => extractOrgClaim claims
  guard (expectedOrgId = some tokenOrgId)
  let userId ← present (claimText claims "sub")
  return { userId, email := (claimText claims "email").getD "",
           displayName := displayNameOf claims userId, orgId := tokenOrgId }

/-- No result is an answer 401. -/
def requireActingPerson (verifiers : TokenVerifiers) (s : KeyStore) (auth : RequestAuth)
    (personToken : Option String) (now : Time) : Option ActingPersonContext :=
  match auth.principal, present personToken with
  | .apiKey id, some personToken =>
    (s.apiKeys.find? fun k => k.isOf auth.tenantId id && k.revokedAt.isNone).bind fun k =>
      actingPerson verifiers k auth.orgId personToken now
  | _, _ => none

def resolveApiKey (verifiers : TokenVerifiers) (k : ApiKey) : RequestAuth :=
  ⟨.apiKey k.id, k.tenantId, verifiers.lookupOrgIdByTenantId k.tenantId⟩

/-! ## What a rotation keeps -/

/-- The columns that say what the key is for. -/
structure ApiKey.SameIdentity (original created : ApiKey) : Prop where
  name : created.name = original.name
  scopes : created.scopes = original.scopes
  scopesFormat : created.scopesFormat = original.scopesFormat
  applicationName : created.applicationName = original.applicationName
  applicationDescription : created.applicationDescription = original.applicationDescription
  applicationContactEmail : created.applicationContactEmail = original.applicationContactEmail
  oidcClientId : created.oidcClientId = original.oidcClientId
  externalIssuer : created.externalIssuer = original.externalIssuer
  externalOrgId : created.externalOrgId = original.externalOrgId

structure OnlyCredentialChanged (verifiers : TokenVerifiers) (before after : KeyStore)
    (original created : ApiKey) : Prop where
  identity : original.SameIdentity created
  accepted : ∀ personToken now,
    (requireActingPerson verifiers after (resolveApiKey verifiers created) personToken now).isSome =
      (requireActingPerson verifiers before (resolveApiKey verifiers original) personToken
        now).isSome

structure ApiKey.Carried (k : ApiKey) : Prop where
  issuer : k.externalIssuer = none
  org : k.externalOrgId = none
  application : k.scopesFormat = .action ∨ k.applicationName = none ∧
    k.applicationDescription = none ∧ k.applicationContactEmail = none ∧ k.oidcClientId = none

section Rotation

variable {env : KeyEnv} {verifiers : TokenVerifiers} {admin : KeyAdmin} {id : Id}
  {supply : KeySupply} {s t : KeyStore} {original created : ApiKey}

theorem ApiKey.successor_identity_iff :
    original.SameIdentity (original.successor admin supply) ↔ original.Carried := by
  unfold successor
  cases format : original.scopesFormat with
  | action =>
    constructor
    · intro same
      exact ⟨same.externalIssuer.symm, same.externalOrgId.symm, .inl format⟩
    · intro carried
      exact ⟨rfl, rfl, format.symm, rfl, rfl, rfl, rfl, carried.issuer.symm, carried.org.symm⟩
  | role =>
    constructor
    · intro same
      exact ⟨same.externalIssuer.symm, same.externalOrgId.symm, .inr ⟨same.applicationName.symm,
        same.applicationDescription.symm, same.applicationContactEmail.symm,
        same.oidcClientId.symm⟩⟩
    · intro carried
      obtain ⟨name, description, email, clientId⟩ :=
        carried.application.resolve_left (by rw [format]; exact nofun)
      exact ⟨rfl, rfl, format.symm, name.symm, description.symm, email.symm, clientId.symm,
        carried.issuer.symm, carried.org.symm⟩

theorem RotationRoute.handler_ok {route : RotationRoute}
    (ran : route.handler env admin id supply s = (.ok created, t)) :
    ∃ found, s.apiKeys.find? (fun k => k.isOf admin.tenantId id && k.isLive supply.now) =
      some found ∧ created = found.successor admin supply ∧ created ∈ t.apiKeys ∧
      ∀ k ∈ t.apiKeys, k.id = created.id → k = created := by
  cases route with
  | rotate =>
    obtain ⟨found, eq, -, rfl, free, rfl⟩ :=
      exec_rotateApiKey_ok.mp (requireAdmin_transaction_ok.mp ran).2
    have others := KeyStore.violated_none_id free
    have kept : ¬ ApiKey.isCapped admin.tenantId found (found.successor admin supply) supply.now
        (found.successor admin supply) := by
      simp [ApiKey.isCapped]
    refine ⟨found, eq, rfl, mem_map.mpr ⟨_, mem_append_right _ mem_cons_self,
      if_neg kept⟩, fun k' mem' same => ?_⟩
    obtain ⟨k, mem, rfl⟩ := mem_map.mp mem'
    have sameId : k.id = (found.successor admin supply).id := by
      refine Eq.trans ?_ same
      split <;> rfl
    rcases mem_append.mp mem with old | new
    · exact absurd sameId (others k old)
    · rw [mem_singleton.mp new]
      exact if_neg kept
  | emergencyRotate =>
    obtain ⟨found, eq, -, rfl, free, rfl⟩ :=
      exec_emergencyRotateApiKey_ok.mp (requireAdmin_transaction_ok.mp ran).2
    refine ⟨found, eq, rfl, mem_append_right _ mem_cons_self, fun k mem same => ?_⟩
    rcases mem_append.mp mem with old | new
    · exact absurd same (KeyStore.violated_none_id free k old)
    · exact mem_singleton.mp new

theorem actingPerson_congr {tenantOrgId : Option String} {personToken : String} {now : Time}
    (clientId : created.oidcClientId = original.oidcClientId)
    (issuer : created.externalIssuer = original.externalIssuer)
    (org : created.externalOrgId = original.externalOrgId) :
    actingPerson verifiers created tenantOrgId personToken now =
      actingPerson verifiers original tenantOrgId personToken now := by
  unfold actingPerson
  rw [clientId, issuer, org]

theorem requireActingPerson_key {k : ApiKey} (mem : k ∈ s.apiKeys) (kept : k.revokedAt = none)
    (one : ∀ other ∈ s.apiKeys, other.id = k.id → other = k) (personToken : Option String)
    (now : Time) : requireActingPerson verifiers s (resolveApiKey verifiers k) personToken now =
      (present personToken).bind fun personToken => actingPerson verifiers k
        (verifiers.lookupOrgIdByTenantId k.tenantId) personToken now := by
  unfold requireActingPerson resolveApiKey
  cases present personToken with
  | none => rfl
  | some personToken =>
    dsimp only
    have unrevoked : (fun k : ApiKey => k.revokedAt.isNone) k = true := by
      dsimp only
      rw [kept, Option.isNone_none]
    have named : k.isOf k.tenantId k.id := by simp [ApiKey.isOf]
    rw [KeyStore.find_key mem named unrevoked one]
    rfl

/-- A rotation of a live key changes only the credential exactly when the identity of the key
is carried. -/
theorem rotation_identity_iff {route : RotationRoute} (keyed : apiKeysTable.Keyed s)
    (mem : original ∈ s.apiKeys) (own : original.isOf admin.tenantId id = true)
    (live : original.isLive supply.now = true)
    (ran : route.handler env admin id supply s = (.ok created, t)) :
    OnlyCredentialChanged verifiers s t original created ↔ original.Carried := by
  obtain ⟨found, eq, rfl, memCreated, oneCreated⟩ := RotationRoute.handler_ok ran
  have one : ∀ other ∈ s.apiKeys, other.id = original.id → other = original :=
    fun other mem' same => keyed.eq mem' mem same
  obtain ⟨named, tenant⟩ := Bool.and_eq_true_iff.mp own
  obtain rfl : found = original := by
    refine one found (mem_of_find?_eq_some eq) ?_
    have chosen := find?_some eq
    have isOf := (Bool.and_eq_true_iff.mp chosen).1
    exact (eq_of_beq (Bool.and_eq_true_iff.mp isOf).1).trans (eq_of_beq named).symm
  constructor
  · exact fun changed => ApiKey.successor_identity_iff.mp changed.identity
  · intro carried
    have same : found.SameIdentity (found.successor admin supply) :=
      ApiKey.successor_identity_iff.mpr carried
    refine ⟨same, fun personToken now => ?_⟩
    have kept : found.revokedAt = none :=
      Option.isNone_iff_eq_none.mp (Bool.and_eq_true_iff.mp live).1
    rw [requireActingPerson_key memCreated (ApiKey.successor_revokedAt ..) oneCreated,
      requireActingPerson_key mem kept one, ApiKey.successor_tenantId, eq_of_beq tenant]
    simp only [actingPerson_congr same.oidcClientId same.externalIssuer same.externalOrgId]

end Rotation

/-! ## A key with an external mapping -/

def anyEnv : KeyEnv := ⟨id, fun _ => none, "https://id.example", fun _ => none⟩

def keyAdmin : KeyAdmin := ⟨"ada", 1, ["admin"]⟩

def portalKey : ApiKey :=
  { id := 1, tenantId := 1, name := "portal", keyHash := "h1", scopes := ["entity:ticket:read"]
    scopesFormat := .action, createdBy := some "ada", expiresAt := some 1000
    applicationName := some "Portal", applicationContactEmail := some "portal@example"
    oidcClientId := some "portal-client" }

def partnerKey : ApiKey :=
  { portalKey with externalIssuer := some "https://partner.example", externalOrgId := some "org-7" }

def partnerVerifiers : TokenVerifiers where
  verifyJwtForIssuer _ _ _ _ :=
    some [("sub", .str "joe"), ("iat", .num 0), ("org_id", .str "org-7")]
  verifyJwtWithAudience _ _ _ := none
  lookupOrgIdByTenantId _ := none

theorem rotation_identity_portal :
    OnlyCredentialChanged partnerVerifiers ⟨[portalKey]⟩
      (RotationRoute.rotate.handler anyEnv keyAdmin 1 ⟨2, "h2", 0⟩ ⟨[portalKey]⟩).2 portalKey
      (portalKey.successor keyAdmin ⟨2, "h2", 0⟩) := by
  have keyed : apiKeysTable.Keyed ⟨[portalKey]⟩ := nodup_singleton portalKey.id
  have ran : RotationRoute.rotate.handler anyEnv keyAdmin 1 ⟨2, "h2", 0⟩ ⟨[portalKey]⟩ =
      (.ok (portalKey.successor keyAdmin ⟨2, "h2", 0⟩),
        (RotationRoute.rotate.handler anyEnv keyAdmin 1 ⟨2, "h2", 0⟩ ⟨[portalKey]⟩).2) := rfl
  exact (rotation_identity_iff keyed mem_cons_self rfl rfl ran).mpr ⟨rfl, rfl, .inl rfl⟩

/-- The successor of the other key has no external mapping, and no person is accepted with it. -/
theorem rotation_drops_issuer : ¬ ∀ (env : KeyEnv) (verifiers : TokenVerifiers) (admin : KeyAdmin)
    (id : Id) (supply : KeySupply) (s t : KeyStore) (original created : ApiKey)
    (route : RotationRoute), apiKeysTable.Keyed s → original ∈ s.apiKeys →
    original.isOf admin.tenantId id = true → original.isLive supply.now = true →
    route.handler env admin id supply s = (.ok created, t) →
    OnlyCredentialChanged verifiers s t original created := by
  intro every
  have changed := every anyEnv partnerVerifiers keyAdmin 1 ⟨2, "h2", 0⟩ ⟨[partnerKey]⟩ _ partnerKey
    (partnerKey.successor keyAdmin ⟨2, "h2", 0⟩) .rotate (nodup_singleton partnerKey.id)
    mem_cons_self rfl rfl rfl
  have before : (requireActingPerson partnerVerifiers ⟨[partnerKey]⟩
      (resolveApiKey partnerVerifiers partnerKey) (some "token") 0).isSome := by
    decide +kernel
  have after : (requireActingPerson partnerVerifiers
      (RotationRoute.rotate.handler anyEnv keyAdmin 1 ⟨2, "h2", 0⟩ ⟨[partnerKey]⟩).2
      (resolveApiKey partnerVerifiers (partnerKey.successor keyAdmin ⟨2, "h2", 0⟩))
      (some "token") 0).isSome = false := by
    decide +kernel
  have accepted := changed.accepted (some "token") 0
  rw [before] at accepted
  exact nomatch after.symm.trans accepted

end OpenWind
