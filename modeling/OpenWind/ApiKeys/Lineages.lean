import OpenWind.ApiKeys.Keys
import OpenWind.Lib.Lineage
import OpenWind.Lib.Runs

/-!
# Key lineages

A rotation links a key to the one it replaces, and the keys so linked are a lineage.
-/

open List Option Bool

namespace OpenWind

open Txn

/-! ## Lineages -/

def keyLines : Lines ApiKey Id := ⟨ApiKey.id, ApiKey.rotatedFrom⟩

def KeyStore.SameLineage (s : KeyStore) (k k' : ApiKey) : Prop :=
  keyLines.Same s.apiKeys k.id k'.id

def KeyStore.Rotated (s : KeyStore) (k : ApiKey) : Prop := keyLines.Replaced s.apiKeys k.id

def KeyStore.LineagesShort (s : KeyStore) (now : Time) : Prop :=
  keyLines.Short s.apiKeys fun k => k.isLive now = true

structure KeyStore.Sound (s : KeyStore) : Prop where
  rooted : keyLines.Rooted s.apiKeys
  tenants : ∀ k ∈ s.apiKeys, ∀ p ∈ s.apiKeys, k.rotatedFrom = some p.id → p.tenantId = k.tenantId
  others : ∀ k ∈ s.apiKeys, k.rotatedFrom ≠ some k.id

/-! ## Calls -/

inductive KeyCall
  | create (admin : KeyAdmin) (input : CreateApiKeyInput) (supply : KeySupply)
  | rotate (route : RotationRoute) (admin : KeyAdmin) (id : Id) (supply : KeySupply)
  | delete (admin : KeyAdmin) (id : Id) (now : Time)

structure KeyWorld where
  store : KeyStore
  now : Time

def KeyWorld.LineagesShort (w : KeyWorld) : Prop := w.store.LineagesShort w.now

def KeySupply.isFresh (supply : KeySupply) (s : KeyStore) : Bool :=
  s.apiKeys.all fun k => k.id != supply.id && k.keyHash != supply.keyHash

namespace KeyCall

def now : KeyCall → Time
  | create _ _ supply => supply.now
  | rotate _ _ _ supply => supply.now
  | delete _ _ now => now

def isFresh (s : KeyStore) : KeyCall → Bool
  | create _ _ supply => supply.isFresh s
  | rotate _ _ _ supply => supply.isFresh s
  | delete _ _ _ => true

/-- The keys after the call, whether it succeeds or not. -/
def perform (env : KeyEnv) (s : KeyStore) : KeyCall → KeyStore
  | create admin input supply => (createApiKeyHandler env admin input supply s).2
  | rotate route admin id supply => (route.handler env admin id supply s).2
  | delete admin id now => (deleteApiKeyHandler admin id now s).2

/-- Calls come one after another, and time does not go back. -/
def step (env : KeyEnv) (w : KeyWorld) (call : KeyCall) : Option KeyWorld :=
  if w.now ≤ call.now && call.isFresh w.store then some ⟨call.perform env w.store, call.now⟩
  else none

end KeyCall

structure KeyAdmin.MayRotate (admin : KeyAdmin) (id : Id) (now : Time) (k : ApiKey) : Prop where
  named : k.isOf admin.tenantId id = true
  live : k.isLive now = true
  isAdmin : admin.roles.contains "admin" = true
  covered : k.CoveredBy admin.roles

namespace KeyAdmin.MayRotate

variable {admin : KeyAdmin} {id : Id} {now : Time} {k : ApiKey}

theorem id_eq (may : admin.MayRotate id now k) : k.id = id :=
  eq_of_beq (and_eq_true_iff.mp may.named).1

theorem tenantId_eq (may : admin.MayRotate id now k) : k.tenantId = admin.tenantId :=
  eq_of_beq (and_eq_true_iff.mp may.named).2

end KeyAdmin.MayRotate

def KeyCall.Succeeds (env : KeyEnv) (w : KeyWorld) : KeyCall → Prop
  | rotate route admin id supply => ∀ original ∈ w.store.apiKeys,
    admin.MayRotate id supply.now original →
      ∃ created, (route.handler env admin id supply w.store).1 = .ok created
  | _ => True

def ApiKey.contests (env : KeyEnv) (original k : ApiKey) : Bool :=
  original.scopesFormat == .action && (original.oidcClientId.any k.claimsClientId ||
    original.applicationName.any fun name => k.claimsName env original.tenantId name)

def RotationRoute.Allowed (env : KeyEnv) (s : KeyStore) (original : ApiKey) (now : Time) :
    RotationRoute → Prop
  | rotate =>
    (∀ k ∈ s.apiKeys, original.contests env k = true → k = original) ∧
    ∀ k ∈ s.apiKeys, k.isLive now = true → s.SameLineage original k →
      k = original ∨ original.isNextTo k = true
  | emergencyRotate =>
    (∀ k ∈ s.apiKeys, original.contests env k = true →
      k = original ∨ k.isLive now = true ∧ k.rotatedFrom = some original.id) ∧
    ∀ k ∈ s.apiKeys, k.isLive now = true → s.SameLineage original k →
      k = original ∨ k.rotatedFrom = some original.id ∨ s.Rotated k

def KeyCall.Allowed (env : KeyEnv) (w : KeyWorld) : KeyCall → Prop
  | rotate route admin id supply => ∀ original ∈ w.store.apiKeys,
    admin.MayRotate id supply.now original → route.Allowed env w.store original supply.now
  | _ => True

theorem KeySupply.ne_of_isFresh {s : KeyStore} (supply : KeySupply)
    (fresh : supply.isFresh s) {k : ApiKey} (mem : k ∈ s.apiKeys) : k.id ≠ supply.id :=
  bne_iff_ne.mp (and_eq_true_iff.mp (List.all_eq_true.mp fresh k mem)).1

/-! ## Time -/

theorem ApiKey.isLive_earlier {k : ApiKey} {now later : Time} (le : now ≤ later)
    (live : k.isLive later) : k.isLive now := by
  obtain ⟨unrevoked, unexpired⟩ := and_eq_true_iff.mp live
  refine and_eq_true_iff.mpr ⟨unrevoked, ?_⟩
  cases expires : k.expiresAt with
  | none => rfl
  | some expiresAt =>
    rw [expires, all_some, decide_eq_true_eq] at unexpired
    rw [all_some, decide_eq_true_eq]
    exact Nat.lt_of_le_of_lt le unexpired

theorem KeyStore.LineagesShort.later {s : KeyStore} {now later : Time}
    (short : s.LineagesShort now) (le : now ≤ later) : s.LineagesShort later :=
  Lines.Short.mono short fun _ _ live => ApiKey.isLive_earlier le live

/-! ## Sound stores -/

namespace KeyStore.Sound

variable {s : KeyStore}

theorem eq (sound : s.Sound) {k k' : ApiKey} (mem : k ∈ s.apiKeys) (mem' : k' ∈ s.apiKeys)
    (same : k.id = k'.id) : k = k' :=
  sound.rooted.eq mem mem' same

theorem map {f : ApiKey → ApiKey} (sound : s.Sound) (ids : ∀ k, (f k).id = k.id)
    (origins : ∀ k, (f k).rotatedFrom = k.rotatedFrom)
    (tenants : ∀ k, (f k).tenantId = k.tenantId) : KeyStore.Sound ⟨s.apiKeys.map f⟩ := by
  refine ⟨sound.rooted.map ids origins, ?_, ?_⟩
  · simp only [List.forall_mem_map, ids, origins, tenants]
    exact sound.tenants
  · simp only [List.forall_mem_map, ids, origins]
    exact sound.others

theorem append {n : ApiKey} (sound : s.Sound) (fresh : ∀ k ∈ s.apiKeys, k.id ≠ n.id)
    (origin : ∀ a, n.rotatedFrom = some a → ∃ p ∈ s.apiKeys, p.id = a ∧ p.tenantId = n.tenantId) :
    KeyStore.Sound ⟨s.apiKeys ++ [n]⟩ := by
  have unused (k : ApiKey) (mem : k ∈ s.apiKeys ++ [n]) : k.rotatedFrom ≠ some n.id := by
    intro replaces
    rcases mem_append.mp mem with old | new
    · obtain ⟨p, memP, same⟩ := sound.rooted.origins k old _ replaces
      exact fresh p memP same
    · rw [mem_singleton.mp new] at replaces
      obtain ⟨p, memP, same, -⟩ := origin _ replaces
      exact fresh p memP same
  refine ⟨sound.rooted.append fresh fun a replaces => ?_, fun k mem p memP replaces => ?_,
    fun k mem => ?_⟩
  · obtain ⟨p, memP, same, -⟩ := origin a replaces
    exact ⟨p, memP, same⟩
  · rcases mem_append.mp memP with oldP | newP
    · rcases mem_append.mp mem with old | new
      · exact sound.tenants k old p oldP replaces
      · rw [mem_singleton.mp new] at replaces ⊢
        obtain ⟨p', memP', same, tenant⟩ := origin _ replaces
        rwa [sound.eq oldP memP' same.symm]
    · rw [mem_singleton.mp newP] at replaces
      exact absurd replaces (unused k mem)
  · rcases mem_append.mp mem with old | new
    · exact sound.others k old
    · rw [mem_singleton.mp new]
      exact unused n (mem_append_right _ mem_cons_self)

end KeyStore.Sound

/-! ## Rotations -/

def RotationRoute.settle (admin : KeyAdmin) (original : ApiKey) (supply : KeySupply) (k : ApiKey) :
    RotationRoute → ApiKey
  | rotate =>
    let handed := if k.isOf admin.tenantId original.id then
      k.handOff (original.overlapEnd supply.now) else k
    if ApiKey.isCapped admin.tenantId original (original.successor admin supply) supply.now
        handed then handed.revoke supply.now "system:rotation-lineage-cap" else handed
  | emergencyRotate =>
    if k.isOf admin.tenantId original.id ||
        ApiKey.isLiveSuccessor admin.tenantId original supply.now k then
      k.revoke supply.now admin.userId else k

/-- The keys that a rotation leaves live. -/
def RotationRoute.Spares (original k : ApiKey) : RotationRoute → Prop
  | rotate => k = original ∨ original.isNextTo k = false
  | emergencyRotate => k ≠ original ∧ k.rotatedFrom ≠ some original.id

/-- The keys whose claims a rotation frees. -/
def RotationRoute.Frees (original k : ApiKey) (now : Time) : RotationRoute → Prop
  | rotate => k = original
  | emergencyRotate => k = original ∨ k.isLive now = true ∧ k.rotatedFrom = some original.id

theorem ApiKey.isLive_handOff {k : ApiKey} {now : Time} (live : k.isLive now) :
    (k.handOff (k.overlapEnd now)).isLive now := by
  obtain ⟨unrevoked, unexpired⟩ := and_eq_true_iff.mp live
  refine and_eq_true_iff.mpr ⟨unrevoked, decide_eq_true ?_⟩
  have overlap : now < now + API_KEY_ROTATION_OVERLAP_HOURS * 60 * 60 * 1000 :=
    Nat.lt_add_of_pos_right (by decide)
  unfold overlapEnd
  cases expires : k.expiresAt with
  | none => exact overlap
  | some expiresAt =>
    rw [expires, all_some, decide_eq_true_eq] at unexpired
    dsimp only
    split
    · exact unexpired
    · exact overlap

namespace RotationRoute

variable {env : KeyEnv} {admin : KeyAdmin} {id : Id} {supply : KeySupply} {s t : KeyStore}
  {original created k : ApiKey} (route : RotationRoute)

theorem settle_id : (route.settle admin original supply k).id = k.id := by
  cases route <;> dsimp only [settle] <;> split_ifs <;> rfl

theorem settle_rotatedFrom :
    (route.settle admin original supply k).rotatedFrom = k.rotatedFrom := by
  cases route <;> dsimp only [settle] <;> split_ifs <;> rfl

theorem settle_tenantId : (route.settle admin original supply k).tenantId = k.tenantId := by
  cases route <;> dsimp only [settle] <;> split_ifs <;> rfl

section Settled

variable (sound : s.Sound) (mem : original ∈ s.apiKeys)
  (may : admin.MayRotate id supply.now original) (memK : k ∈ s.apiKeys)

include sound mem may memK

theorem isOf_iff : k.isOf admin.tenantId original.id ↔ k = original := by
  constructor
  · exact fun isOf => sound.eq memK mem (eq_of_beq (and_eq_true_iff.mp isOf).1)
  · rintro rfl
    exact and_eq_true_iff.mpr ⟨beq_self_eq_true _, beq_iff_eq.mpr may.tenantId_eq⟩

theorem tenantId_of_isNextTo (next : original.isNextTo k) : (k.tenantId == admin.tenantId) := by
  have own := may.tenantId_eq
  rcases or_eq_true_iff.mp next with up | down
  · rw [sound.tenants original mem k memK (eq_of_beq up), own]
    exact beq_self_eq_true _
  · rw [← sound.tenants k memK original mem (eq_of_beq down), own]
    exact beq_self_eq_true _

theorem successor_iff : ApiKey.isLiveSuccessor admin.tenantId original supply.now k ↔
    k.isLive supply.now ∧ k.rotatedFrom = some original.id := by
  have next (down : k.rotatedFrom = some original.id) : original.isNextTo k :=
    or_eq_true_iff.mpr (.inr (beq_iff_eq.mpr down))
  unfold ApiKey.isLiveSuccessor
  rw [and_eq_true_iff, and_eq_true_iff, beq_iff_eq (b := some original.id)]
  constructor
  · exact fun ⟨⟨_, down⟩, live⟩ => ⟨live, down⟩
  · exact fun ⟨live, down⟩ => ⟨⟨tenantId_of_isNextTo sound mem may memK (next down), down⟩, live⟩

theorem settle_live (fresh : k.id ≠ supply.id) :
    (route.settle admin original supply k).isLive supply.now ↔
      k.isLive supply.now ∧ route.Spares original k := by
  have isOf := isOf_iff sound mem may memK
  cases route with
  | rotate =>
    dsimp only [settle, Spares]
    by_cases own : k = original
    · have uncapped : ¬ ApiKey.isCapped admin.tenantId original (original.successor admin supply)
          supply.now (k.handOff (original.overlapEnd supply.now)) := by
        simp [ApiKey.isCapped, ApiKey.handOff, own]
      rw [if_pos (isOf.mpr own), if_neg uncapped, own]
      exact iff_of_true (ApiKey.isLive_handOff may.live) ⟨may.live, .inl rfl⟩
    · have distinct : (k.id != original.id) :=
        bne_iff_ne.mpr fun same => own (sound.eq memK mem same)
      have created : (k.id != (original.successor admin supply).id) := by
        rw [ApiKey.successor_id]
        exact bne_iff_ne.mpr fresh
      rw [if_neg fun chosen => own (isOf.mp chosen)]
      cases next : original.isNextTo k with
      | false =>
        rw [if_neg (by simp [ApiKey.isCapped, next])]
        exact (and_iff_left (.inr rfl)).symm
      | true =>
        have tenant := tenantId_of_isNextTo sound mem may memK next
        have capped : ApiKey.isCapped admin.tenantId original (original.successor admin supply)
            supply.now k = k.isLive supply.now := by
          unfold ApiKey.isCapped
          rw [tenant, distinct, created, next, Bool.and_true, Bool.true_and, Bool.true_and,
            Bool.true_and]
        rw [capped]
        refine iff_of_false ?_ fun both => both.2.elim own (by decide)
        split
        · exact fun live => by cases live
        next dead => exact dead
  | emergencyRotate =>
    dsimp only [settle, Spares]
    by_cases own : k = original
    · rw [if_pos (or_eq_true_iff.mpr (.inl (isOf.mpr own)))]
      exact iff_of_false (fun live => by cases live) fun both => both.2.1 own
    · have other : k.isOf admin.tenantId original.id = false :=
        eq_false_iff.mpr fun chosen => own (isOf.mp chosen)
      have successor := successor_iff sound mem may memK
      rw [other, Bool.false_or]
      split
      next killed =>
        exact iff_of_false (fun live => by cases live) fun both =>
          both.2.2 (successor.mp killed).2
      next kept =>
        exact ⟨fun live => ⟨live, own, fun down => kept (successor.mpr ⟨live, down⟩)⟩,
          fun both => both.1⟩

end Settled

/-! ## Claims -/

theorem successor_clashes (own : original.tenantId = admin.tenantId) :
    ((original.successor admin supply).clashesClientId k = false ∧
      (original.successor admin supply).clashesName env k = false) ↔
    original.contests env k = false := by
  unfold ApiKey.successor ApiKey.clashesClientId ApiKey.clashesName ApiKey.contests
  rw [own]
  cases original.scopesFormat with
  | role => simp
  | action => simp

theorem violated_map {g : ApiKey → ApiKey} (own : original.tenantId = admin.tenantId)
    (fresh : supply.isFresh s) (ids : ∀ k, (g k).id = k.id)
    (hashes : ∀ k, (g k).keyHash = k.keyHash) :
    KeyStore.violated env (original.successor admin supply) ⟨s.apiKeys.map g⟩ = none ↔
      ∀ k ∈ s.apiKeys, original.contests env (g k) = false := by
  rw [KeyStore.violated_none]
  simp only [List.forall_mem_map, ids, hashes, successor_clashes own, ApiKey.successor_id]
  refine forall₂_congr fun k mem => ?_
  obtain ⟨id, hash⟩ := and_eq_true_iff.mp (List.all_eq_true.mp fresh k mem)
  have keyHash : (original.successor admin supply).keyHash = supply.keyHash := by
    unfold ApiKey.successor
    cases original.scopesFormat <;> rfl
  rw [keyHash]
  exact ⟨fun free => free.2.2, fun free => ⟨bne_iff_ne.mp id, bne_iff_ne.mp hash, free⟩⟩

theorem contests_revoke {now : Time} {revokedBy : String} :
    original.contests env (k.revoke now revokedBy) = false := by
  simp [ApiKey.contests, ApiKey.claimsClientId, ApiKey.claimsName, ApiKey.revoke]

theorem contests_handOff {expiresAt : Time} :
    original.contests env (k.handOff expiresAt) = false := by
  simp [ApiKey.contests, ApiKey.claimsClientId, ApiKey.claimsName, ApiKey.handOff]

theorem contests_ite {P : Prop} {c : Bool} {k' : ApiKey} (freed : c ↔ P)
    (quiet : original.contests env k' = false) :
    original.contests env (if c then k' else k) = false ↔ (original.contests env k → P) := by
  rw [← freed]
  cases c with
  | true => simpa using quiet
  | false => simp

/-! ## What a rotation leaves -/

def after (admin : KeyAdmin) (original : ApiKey) (supply : KeySupply) (s : KeyStore) : KeyStore :=
  ⟨s.apiKeys.map (fun k => route.settle admin original supply k) ++
    [original.successor admin supply]⟩

theorem capped_eq (s : KeyStore) : KeyStore.capped
    ⟨(s.handedOff admin.tenantId original supply.now).apiKeys ++
      [original.successor admin supply]⟩ admin.tenantId original
    (original.successor admin supply) supply.now = rotate.after admin original supply s := by
  have created : ¬ ApiKey.isCapped admin.tenantId original (original.successor admin supply)
      supply.now (original.successor admin supply) := by
    simp [ApiKey.isCapped]
  refine congrArg KeyStore.mk ?_
  rw [map_append, map_singleton, if_neg created]
  exact congrArg (· ++ _) (List.map_map ..)

section Done

variable (sound : s.Sound) (mem : original ∈ s.apiKeys)
  (may : admin.MayRotate id supply.now original)

include sound mem may

theorem find_original : s.apiKeys.find? (fun k => k.isOf admin.tenantId id && k.isLive supply.now) =
    some original :=
  KeyStore.find_key mem may.named may.live fun _ mem' same => sound.eq mem' mem same

theorem killed_eq (short : s.LineagesShort supply.now) :
    s.killed admin original (s.apiKeys.find? (ApiKey.isLiveSuccessor admin.tenantId original
      supply.now)) supply.now =
    ⟨s.apiKeys.map fun k => emergencyRotate.settle admin original supply k⟩ := by
  have down {k : ApiKey} (memK : k ∈ s.apiKeys) (chosen : ApiKey.isLiveSuccessor admin.tenantId
      original supply.now k) : s.SameLineage original k ∧ original ≠ k := by
    have next := ((successor_iff sound mem may memK).mp chosen).2
    refine ⟨.rel _ _ ⟨k, memK, rfl, next⟩, ?_⟩
    rintro rfl
    exact sound.others _ mem next
  refine congrArg KeyStore.mk (map_congr_left fun k memK => ?_)
  dsimp only [settle]
  congr 3
  rcases found : s.apiKeys.find? (ApiKey.isLiveSuccessor admin.tenantId original supply.now) with
    - | successor
  · exact (eq_false_iff.mpr (find?_eq_none.mp found k memK)).symm
  · have chosen := find?_some found
    have memS := mem_of_find?_eq_some found
    have live := ((successor_iff sound mem may memS).mp chosen).1
    rw [any_some, Bool.eq_iff_iff]
    constructor
    · intro isOf
      rwa [sound.eq memK memS (eq_of_beq (and_eq_true_iff.mp isOf).1)]
    · intro chosen'
      have live' := ((successor_iff sound mem may memK).mp chosen').1
      obtain ⟨lineS, otherS⟩ := down memS chosen
      obtain ⟨lineK, otherK⟩ := down memK chosen'
      rcases short.two original mem successor memS k memK may.live live live' lineS lineK with
        same | same | rfl
      · exact absurd same otherS
      · exact absurd same otherK
      · exact and_eq_true_iff.mpr
          ⟨beq_self_eq_true _, (and_eq_true_iff.mp (and_eq_true_iff.mp chosen).1).1⟩

theorem handler_ok_iff (fresh : supply.isFresh s) (short : s.LineagesShort supply.now) :
    route.handler env admin id supply s = (.ok created, t) ↔
      (∀ k ∈ s.apiKeys, original.contests env k → route.Frees original k supply.now) ∧
      created = original.successor admin supply ∧ t = route.after admin original supply s := by
  have own := may.tenantId_eq
  have found := find_original sound mem may
  cases route with
  | rotate =>
    have free : (s.handedOff admin.tenantId original supply.now).violated env
        (original.successor admin supply) = none ↔
          ∀ k ∈ s.apiKeys, original.contests env k → k = original := by
      refine (violated_map own fresh (fun k => ?_) (fun k => ?_)).trans
        (forall₂_congr fun k memK => contests_ite (isOf_iff sound mem may memK) contests_handOff)
      · split <;> rfl
      · split <;> rfl
    refine requireAdmin_transaction_ok.trans ?_
    rw [exec_rotateApiKey_ok]
    constructor
    · rintro ⟨-, other, eq, -, rfl, unrefused, rfl⟩
      cases found.symm.trans eq
      exact ⟨free.mp unrefused, rfl, capped_eq s⟩
    · rintro ⟨freed, rfl, rfl⟩
      exact ⟨may.isAdmin, original, found, may.covered, rfl, free.mpr freed, (capped_eq s).symm⟩
  | emergencyRotate =>
    have free : KeyStore.violated env (original.successor admin supply)
        ⟨s.apiKeys.map fun k => emergencyRotate.settle admin original supply k⟩ = none ↔
          ∀ k ∈ s.apiKeys, original.contests env k = true → k = original ∨
            k.isLive supply.now = true ∧ k.rotatedFrom = some original.id := by
      refine (violated_map own fresh (fun k => settle_id _) (fun k => ?_)).trans
        (forall₂_congr fun k memK => contests_ite (or_eq_true_iff.trans (or_congr
          (isOf_iff sound mem may memK) (successor_iff sound mem may memK))) contests_revoke)
      dsimp only [settle]
      split <;> rfl
    refine requireAdmin_transaction_ok.trans ?_
    rw [exec_emergencyRotateApiKey_ok]
    constructor
    · rintro ⟨-, other, eq, -, rfl, unrefused, rfl⟩
      cases found.symm.trans eq
      rw [killed_eq sound mem may short] at unrefused ⊢
      exact ⟨free.mp unrefused, rfl, rfl⟩
    · rintro ⟨freed, rfl, rfl⟩
      have killed := killed_eq sound mem may short
      exact ⟨may.isAdmin, original, found, may.covered, rfl, killed ▸ free.mpr freed,
        congrArg (fun s : KeyStore => KeyStore.mk (s.apiKeys ++ _)) killed.symm⟩

omit may in
theorem after_sound (own : original.tenantId = admin.tenantId) (fresh : supply.isFresh s) :
    (route.after admin original supply s).Sound := by
  refine KeyStore.Sound.append (sound.map (fun _ => route.settle_id)
    (fun _ => route.settle_rotatedFrom) fun _ => route.settle_tenantId) ?_ ?_
  · rw [List.forall_mem_map]
    intro k memK
    rw [settle_id, ApiKey.successor_id]
    exact supply.ne_of_isFresh fresh memK
  · intro a origin
    rw [ApiKey.successor_rotatedFrom] at origin
    obtain rfl := Option.some.inj origin
    refine ⟨_, List.mem_map_of_mem mem, settle_id _, ?_⟩
    rw [settle_tenantId, ApiKey.successor_tenantId, own]

theorem after_short (fresh : supply.isFresh s) (short : s.LineagesShort supply.now) :
    (route.after admin original supply s).LineagesShort supply.now ↔
      (∀ a ∈ s.apiKeys, ∀ b ∈ s.apiKeys, a.isLive supply.now ∧ route.Spares original a →
        b.isLive supply.now ∧ route.Spares original b → s.SameLineage original a →
        s.SameLineage original b → a = b) ∧
      ∀ a ∈ s.apiKeys, a.isLive supply.now ∧ route.Spares original a →
        s.SameLineage original a → a = original ∨ s.Rotated a := by
  have unused {k : ApiKey} (memK : k ∈ s.apiKeys) := supply.ne_of_isFresh fresh memK
  have settled {k : ApiKey} (memK : k ∈ s.apiKeys) :=
    route.settle_live sound mem may memK (unused memK)
  refine (Lines.short_replace_iff (fun _ => route.settle_id) (fun _ => route.settle_rotatedFrom)
    sound.rooted short (fun k memK live => ((settled memK).mp live).1) (fun k memK => ?_) mem
    (original.successor_rotatedFrom admin supply) (original.successor_live admin supply)).trans ?_
  · exact fun same => unused memK (same.trans (original.successor_id admin supply))
  · refine and_congr (forall₂_congr fun a memA => forall₂_congr fun b memB => ?_)
      (forall₂_congr fun a memA => ?_)
    · exact imp_congr (settled memA) (imp_congr (settled memB) Iff.rfl)
    · exact imp_congr (settled memA) Iff.rfl

theorem allowed_iff (fresh : supply.isFresh s) (short : s.LineagesShort supply.now) :
    route.Allowed env s original supply.now ↔
      (∀ k ∈ s.apiKeys, original.contests env k → route.Frees original k supply.now) ∧
      (route.after admin original supply s).LineagesShort supply.now := by
  rw [after_short route sound mem may fresh short]
  cases route with
  | rotate =>
    refine and_congr_right fun _ => ⟨fun near => ?_, fun both k memK live line => ?_⟩
    · have only {k : ApiKey} (memK : k ∈ s.apiKeys)
          (left : k.isLive supply.now ∧ rotate.Spares original k)
          (line : s.SameLineage original k) : k = original := by
        rcases near k memK left.1 line with own | next
        · exact own
        · exact left.2.resolve_right (by rw [next]; decide)
      exact ⟨fun a memA b memB leftA leftB lineA lineB =>
        (only memA leftA lineA).trans (only memB leftB lineB).symm,
        fun a memA leftA lineA => .inl (only memA leftA lineA)⟩
    · cases next : original.isNextTo k with
      | true => exact .inr rfl
      | false =>
        exact .inl (both.1 k memK original mem ⟨live, .inr next⟩ ⟨may.live, .inl rfl⟩ line (.refl _))
  | emergencyRotate =>
    refine and_congr_right fun _ => ⟨fun near => ⟨fun a memA b memB leftA leftB lineA lineB => ?_,
      fun a memA leftA lineA => ?_⟩, fun both k memK live line => ?_⟩
    · rcases short.two original mem a memA b memB may.live leftA.1 leftB.1 lineA lineB with
        same | same | same
      · exact absurd same.symm leftA.2.1
      · exact absurd same.symm leftB.2.1
      · exact same
    · exact (near a memA leftA.1 lineA).imp_right fun down => down.resolve_left leftA.2.2
    · by_cases own : k = original
      · exact .inl own
      · by_cases down : k.rotatedFrom = some original.id
        · exact .inr (.inl down)
        · exact .inr (.inr ((both.2 k memK ⟨live, own, down⟩ line).resolve_left own))

end Done

end RotationRoute

/-! ## Creating and revoking -/

def KeyStore.Keeps (now : Time) (s t : KeyStore) : Prop :=
  s.Sound ∧ s.LineagesShort now → t.Sound ∧ t.LineagesShort now

namespace KeyStore.Keeps

variable {now : Time} {s t : KeyStore}

instance : Std.Refl (Keeps now) := ⟨fun _ holds => holds⟩

instance : IsTrans KeyStore (Keeps now) := ⟨fun _ _ _ first second holds => second (first holds)⟩

/-- Keys die. -/
theorem modify (p : ApiKey → Bool) (revokedAt : Time) (revokedBy : String) :
    Keeps now s (apiKeysTable.modify p (ApiKey.revoke revokedAt revokedBy) s) := by
  intro ⟨sound, short⟩
  have kept {γ : Type} {g : ApiKey → γ} (same : ∀ k, g (k.revoke revokedAt revokedBy) = g k)
      (k : ApiKey) : g (if p k then k.revoke revokedAt revokedBy else k) = g k := by
    split
    · exact same k
    · rfl
  refine ⟨sound.map (kept fun _ => rfl) (kept fun _ => rfl) (kept fun _ => rfl),
    Lines.Short.map (kept fun _ => rfl) (kept fun _ => rfl) short fun k _ live => ?_⟩
  split at live
  · cases live
  · exact live

theorem append {n : ApiKey} (fresh : ∀ k ∈ s.apiKeys, k.id ≠ n.id) (root : n.rotatedFrom = none) :
    Keeps now s ⟨s.apiKeys ++ [n]⟩ := by
  intro ⟨sound, short⟩
  refine ⟨sound.append fresh fun a replaces => ?_, Lines.Short.append_root sound.rooted fresh short
    root⟩
  rw [root] at replaces
  cases replaces

theorem reclaim {conflict : Option ApiKey} {inUse : KeyError} {u : Unit}
    (ran : (OpenWind.reclaim conflict now inUse).exec s = .ok (u, t)) : Keeps now s t := by
  unfold OpenWind.reclaim at ran
  cases conflict with
  | none =>
    rw [Prog.exec_ret] at ran
    cases ran
    exact refl_of (Keeps now) s
  | some conflict =>
    dsimp only at ran
    split at ran
    · rw [Table.exec_update] at ran
      cases ran
      exact modify _ _ _
    · cases ran

end KeyStore.Keeps

theorem reclaim_keeps (p : ApiKey → Bool) (conflicting : Option ApiKey → Option ApiKey)
    (now : Time) (inUse : KeyError) :
    (Attempt.transaction ((apiKeysTable.find p).bind fun conflict =>
      reclaim (conflicting conflict) now inUse)).Carries (KeyStore.Keeps now) := by
  refine .transaction fun ran => ?_
  obtain ⟨conflict, mid, found, ran⟩ := Prog.exec_bind_ok.mp ran
  rw [Table.exec_find] at found
  cases found
  exact .reclaim ran

theorem requireAdmin_keeps (admin : KeyAdmin) (now : Time) :
    (requireAdmin admin).Carries (KeyStore.Keeps now) := by
  unfold requireAdmin
  split
  · exact .ret ()
  · exact .throw _

theorem createApiKeyHandler_keeps (env : KeyEnv) (admin : KeyAdmin) (input : CreateApiKeyInput)
    (supply : KeySupply) :
    (createApiKeyHandler env admin input supply).Carries (KeyStore.Keeps supply.now) := by
  have inserted {row : ApiKey} (root : row.rotatedFrom = none) :
      (Attempt.transaction (insertNewKey env row)).Carries (KeyStore.Keeps supply.now) := by
    refine .transaction fun ran => ?_
    unfold insertNewKey at ran
    obtain ⟨_, mid, ran, rest⟩ := Prog.exec_bind_ok.mp ran
    obtain ⟨free, rfl⟩ := exec_insertApiKey_ok.mp ran
    cases rest
    exact .append (KeyStore.violated_none_id free) root
  refine .bind (requireAdmin_keeps admin supply.now) fun _ => ?_
  split
  · exact .throw _
  next format issuer _ =>
    have root : (input.row admin format issuer supply).rotatedFrom = none := by
      unfold CreateApiKeyInput.row
      cases format <;> rfl
    have written : (Attempt.mapError (insertResponse input) (Attempt.transaction (insertNewKey env
        (input.row admin format issuer supply)))).Carries (KeyStore.Keeps supply.now) :=
      .mapError (inserted root)
    dsimp only
    split
    · refine .bind (reclaim_keeps _ (fun conflict => conflict) _ _) fun _ => ?_
      split
      · exact .bind (reclaim_keeps _ _ _ _) fun _ => written
      · exact written
    · split
      · exact .bind (reclaim_keeps _ _ _ _) fun _ => written
      · exact written

theorem deleteApiKeyHandler_keeps (admin : KeyAdmin) (id : Id) (now : Time) :
    (deleteApiKeyHandler admin id now).Carries (KeyStore.Keeps now) := by
  refine .bind (requireAdmin_keeps admin now) fun _ => .transaction fun ran => ?_
  rw [exec_deleteApiKey_ok ran]
  exact .modify (fun k => k.isOf admin.tenantId id && k.revokedAt.isNone) now admin.userId

/-! ## Runs -/

namespace KeyCall

variable {env : KeyEnv} {w w' : KeyWorld} {call : KeyCall}

theorem step_eq (stepped : step env w call = some w') : w.now ≤ call.now ∧
    call.isFresh w.store ∧ w' = ⟨call.perform env w.store, call.now⟩ := by
  unfold step at stepped
  split at stepped
  next enabled =>
    rw [and_eq_true_iff, decide_eq_true_eq] at enabled
    exact ⟨enabled.1, enabled.2, (Option.some.inj stepped).symm⟩
  next => cases stepped

variable {route : RotationRoute} {admin : KeyAdmin} {id : Id} {supply : KeySupply} {s t : KeyStore}

theorem mayRotate_of_ok {created : ApiKey}
    (ran : route.handler env admin id supply s = (.ok created, t)) :
    ∃ original ∈ s.apiKeys, admin.MayRotate id supply.now original := by
  have of_find {original : ApiKey} (isAdmin : admin.roles.contains "admin" = true)
      (found : s.apiKeys.find? (fun k => k.isOf admin.tenantId id && k.isLive supply.now) =
        some original) (covered : original.CoveredBy admin.roles) :
      ∃ original ∈ s.apiKeys, admin.MayRotate id supply.now original := by
    have chosen := find?_some found
    obtain ⟨named, live⟩ := and_eq_true_iff.mp chosen
    exact ⟨original, mem_of_find?_eq_some found, named, live, isAdmin, covered⟩
  cases route with
  | rotate =>
    obtain ⟨isAdmin, done⟩ := requireAdmin_transaction_ok.mp ran
    obtain ⟨original, found, covered, -⟩ := exec_rotateApiKey_ok.mp done
    exact of_find isAdmin found covered
  | emergencyRotate =>
    obtain ⟨isAdmin, done⟩ := requireAdmin_transaction_ok.mp ran
    obtain ⟨original, found, covered, -⟩ := exec_emergencyRotateApiKey_ok.mp done
    exact of_find isAdmin found covered

theorem handler_failed {e : KeyError} (failed : route.handler env admin id supply s = (.error e, t)) :
    t = s := by
  cases route with
  | rotate | emergencyRotate => exact requireAdmin_transaction_failed failed

theorem exact_rotate (sound : w.store.Sound) (short : w.store.LineagesShort supply.now)
    (fresh : supply.isFresh w.store) :
    (route.handler env admin id supply w.store).2.Sound ∧
    ((rotate route admin id supply).Allowed env w ↔
      (rotate route admin id supply).Succeeds env w ∧
      (route.handler env admin id supply w.store).2.LineagesShort supply.now) := by
  dsimp only [Allowed, Succeeds]
  by_cases some_ : ∃ original ∈ w.store.apiKeys, admin.MayRotate id supply.now original
  · obtain ⟨original, mem, may⟩ := some_
    have only {Q : ApiKey → Prop} : (∀ k ∈ w.store.apiKeys, admin.MayRotate id supply.now k → Q k) ↔
        Q original := by
      refine ⟨fun all => all original mem may, fun holds k memK mayK => ?_⟩
      rwa [sound.eq memK mem (mayK.id_eq.trans may.id_eq.symm)]
    have done {created : ApiKey} {t : KeyStore} :
        route.handler env admin id supply w.store = (.ok created, t) ↔
          (∀ k ∈ w.store.apiKeys, original.contests env k → route.Frees original k supply.now) ∧
          created = original.successor admin supply ∧
          t = route.after admin original supply w.store :=
      route.handler_ok_iff sound mem may fresh short
    rw [only, only, route.allowed_iff sound mem may fresh short]
    rcases ran : route.handler env admin id supply w.store with ⟨e | created, t⟩
    · obtain rfl := handler_failed ran
      refine ⟨sound, iff_of_false (fun both => ?_) fun both => ?_⟩
      · cases ran.symm.trans (done.mpr ⟨both.1, rfl, rfl⟩)
      · obtain ⟨⟨created, ok⟩, -⟩ := both
        cases ok
    · obtain ⟨freed, rfl, rfl⟩ := done.mp ran
      exact ⟨route.after_sound sound mem may.tenantId_eq fresh,
        fun both => ⟨⟨_, rfl⟩, both.2⟩, fun both => ⟨freed, both.2⟩⟩
  · have vacuous {Q : ApiKey → Prop} :
        ∀ k ∈ w.store.apiKeys, admin.MayRotate id supply.now k → Q k :=
      fun k mem may => absurd ⟨k, mem, may⟩ some_
    have unchanged : (route.handler env admin id supply w.store).2 = w.store := by
      rcases ran : route.handler env admin id supply w.store with ⟨e | created, t⟩
      · exact handler_failed ran
      · exact absurd (mayRotate_of_ok ran) some_
    rw [unchanged]
    exact ⟨sound, iff_of_true vacuous ⟨vacuous, short⟩⟩

theorem exact_step (sound : w.store.Sound) (short : w.LineagesShort)
    (stepped : step env w call = some w') :
    w'.store.Sound ∧ (call.Allowed env w ↔ call.Succeeds env w ∧ w'.LineagesShort) := by
  obtain ⟨le, fresh, rfl⟩ := step_eq stepped
  have before := short.later le
  cases call with
  | create admin input supply =>
    have kept := createApiKeyHandler_keeps env admin input supply w.store ⟨sound, before⟩
    exact ⟨kept.1, iff_of_true trivial ⟨trivial, kept.2⟩⟩
  | rotate route admin id supply => exact exact_rotate sound before fresh
  | delete admin id now =>
    have kept := deleteApiKeyHandler_keeps admin id now w.store ⟨sound, before⟩
    exact ⟨kept.1, iff_of_true trivial ⟨trivial, kept.2⟩⟩

end KeyCall

/-- A run keeps the lineages short, and its rotations of live keys succeed, exactly when each of
its rotations is allowed. -/
theorem lineages_short_iff {env : KeyEnv} {w w' : KeyWorld} {calls : List KeyCall}
    (sound : w.store.Sound) (short : w.LineagesShort)
    (ran : Runs.run (KeyCall.step env) w calls = some w') :
    Runs.Always (KeyCall.step env) KeyWorld.LineagesShort w calls ∧
      Runs.Guarded (KeyCall.step env) (KeyCall.Succeeds env) w calls ↔
    Runs.Guarded (KeyCall.step env) (KeyCall.Allowed env) w calls :=
  Runs.run_guarded_iff (I := fun w => w.store.Sound)
    (fun sound short stepped => (KeyCall.exact_step sound short stepped).1)
    (fun sound short stepped => (KeyCall.exact_step sound short stepped).2) sound short ran

/-! ## Runs on one lineage -/

namespace KeyWorld

def hour : Nat := 60 * 60 * 1000

def roleEnv : KeyEnv := ⟨id, fun _ => none, "", fun _ => none⟩

def grace : KeyAdmin := ⟨"grace", 1, ["admin"]⟩

def createInput : CreateApiKeyInput := { name := "reports" }

def createFirst : KeyCall := .create grace createInput ⟨1, "h1", 0⟩

def rotateFirst : KeyCall := .rotate .rotate grace 1 ⟨2, "h2", hour⟩

def rotateOnward : List KeyCall :=
  [createFirst, rotateFirst, .rotate .emergencyRotate grace 2 ⟨3, "h3", 2 * hour⟩,
    .rotate .rotate grace 3 ⟨4, "h4", 3 * hour⟩]

def empty : KeyWorld := ⟨⟨[]⟩, 0⟩

theorem no_key {k : ApiKey} : k ∉ empty.store.apiKeys := not_mem_nil

theorem empty_sound : empty.store.Sound where
  rooted := ⟨nodup_nil, fun _ mem => absurd mem no_key⟩
  tenants _ mem := absurd mem no_key
  others _ mem := absurd mem no_key

theorem empty_short : empty.LineagesShort :=
  ⟨fun _ mem => absurd mem no_key, fun _ mem => absurd mem no_key⟩

def rotated : KeyWorld :=
  ⟨rotateFirst.perform roleEnv (createFirst.perform roleEnv empty.store), hour⟩

end KeyWorld

open KeyWorld

/-- A key that is alone in its lineage is rotated. -/
theorem lineages_short_rotate :
    Runs.Always (KeyCall.step roleEnv) KeyWorld.LineagesShort empty [createFirst, rotateFirst] ∧
      Runs.Guarded (KeyCall.step roleEnv) (KeyCall.Succeeds roleEnv) empty
        [createFirst, rotateFirst] := by
  have ran : Runs.run (KeyCall.step roleEnv) empty [createFirst, rotateFirst] = some rotated := rfl
  refine (lineages_short_iff empty_sound empty_short ran).mpr ⟨trivial, fun w stepped => ⟨?_,
    fun _ _ => trivial⟩⟩
  obtain ⟨-, -, rfl⟩ := KeyCall.step_eq stepped
  have one {k : ApiKey} (mem : k ∈ (createFirst.perform roleEnv empty.store).apiKeys) :
      k = createInput.row grace .role none ⟨1, "h1", 0⟩ := mem_singleton.mp mem
  intro original mem _
  exact ⟨fun k memK _ => (one memK).trans (one mem).symm,
    fun k memK _ _ => .inl ((one memK).trans (one mem).symm)⟩

/-- A key that an emergency rotation cut off from its lineage stays live. -/
theorem lineages_long : ¬ ∀ (env : KeyEnv) (w w' : KeyWorld) (calls : List KeyCall),
    w.store.Sound → w.LineagesShort → Runs.run (KeyCall.step env) w calls = some w' →
    Runs.Always (KeyCall.step env) KeyWorld.LineagesShort w calls ∧
      Runs.Guarded (KeyCall.step env) (KeyCall.Succeeds env) w calls := by
  intro every
  obtain ⟨w, ran, rows⟩ : ∃ w, Runs.run (KeyCall.step roleEnv) empty rotateOnward = some w ∧
      ∃ k₁ k₂ k₃ k₄, w.store.apiKeys = [k₁, k₂, k₃, k₄] ∧
        (k₁.id = 1 ∧ k₂.id = 2 ∧ k₃.id = 3 ∧ k₄.id = 4) ∧
        (k₂.rotatedFrom = some 1 ∧ k₃.rotatedFrom = some 2 ∧ k₄.rotatedFrom = some 3) ∧
        k₁.isLive w.now = true ∧ k₃.isLive w.now = true ∧ k₄.isLive w.now = true :=
    ⟨_, rfl, _, _, _, _, rfl, ⟨rfl, rfl, rfl, rfl⟩, ⟨rfl, rfl, rfl⟩, rfl, rfl, rfl⟩
  obtain ⟨k₁, k₂, k₃, k₄, rows, ⟨id₁, id₂, id₃, id₄⟩, ⟨from₂, from₃, from₄⟩, live₁, live₃, live₄⟩ :=
    rows
  have short : w.LineagesShort :=
    (every roleEnv empty w rotateOnward empty_sound empty_short ran).1.last ran
  have mem : k₁ ∈ w.store.apiKeys ∧ k₂ ∈ w.store.apiKeys ∧ k₃ ∈ w.store.apiKeys ∧
      k₄ ∈ w.store.apiKeys := by
    simp [rows]
  have link {k : ApiKey} (memK : k ∈ w.store.apiKeys) {a : Id} (origin : k.rotatedFrom = some a) :
      keyLines.Same w.store.apiKeys a k.id := .rel _ _ ⟨k, memK, rfl, origin⟩
  have line₂ := link mem.2.1 from₂
  have line₃ := link mem.2.2.1 from₃
  have line₄ := link mem.2.2.2 from₄
  rw [id₂] at line₂
  rw [id₃] at line₃
  rw [id₄] at line₄
  have toThird : w.store.SameLineage k₁ k₃ := by
    unfold KeyStore.SameLineage
    rw [id₁, id₃]
    exact line₂.trans line₃
  have toFourth : w.store.SameLineage k₁ k₄ := by
    unfold KeyStore.SameLineage
    rw [id₁, id₄]
    exact (line₂.trans line₃).trans line₄
  rcases short.two k₁ mem.1 k₃ mem.2.2.1 k₄ mem.2.2.2 live₁ live₃ live₄ toThird toFourth with
    same | same | same
  · cases (id₁.symm.trans (congrArg ApiKey.id same)).trans id₃
  · cases (id₁.symm.trans (congrArg ApiKey.id same)).trans id₄
  · cases (id₃.symm.trans (congrArg ApiKey.id same)).trans id₄

end OpenWind
