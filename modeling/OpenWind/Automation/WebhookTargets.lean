import OpenWind.Json
import Mathlib.Data.BitVec

/-!
# Where a webhook goes

A webhook action checks the addresses of its URL's host before it connects: every address that
the name resolves to is looked up in a list of blocks, and the connection is pinned to the first.
Whether it is made over TLS is decided by the text of the URL.
-/

open List Option

namespace OpenWind

/-! ## Addresses -/

inductive IpAddr
  | v4 (bits : BitVec 32)
  | v6 (bits : BitVec 128)
  deriving DecidableEq

def ipv4 (a b c d : Nat) : BitVec 32 := BitVec.ofNat 32 (((a * 256 + b) * 256 + c) * 256 + d)

def ipv6 (first last : Nat) : BitVec 128 := BitVec.ofNat 128 (first * 2 ^ 112 + last)

structure Cidr where
  network : IpAddr
  prefixLength : Nat

def Cidr.covers (block : Cidr) (addr : IpAddr) : Bool :=
  match block.network, addr with
  | .v4 network, .v4 bits =>
    bits.toNat / 2 ^ (32 - block.prefixLength) == network.toNat / 2 ^ (32 - block.prefixLength)
  | .v6 network, .v6 bits =>
    bits.toNat / 2 ^ (128 - block.prefixLength) == network.toNat / 2 ^ (128 - block.prefixLength)
  | _, _ => false

/-- `::ffff:0:0/96` -/
def mappedBlock : Cidr := ⟨.v6 (BitVec.ofNat 128 (0xffff * 2 ^ 32)), 96⟩

/-- An address of IPv4 that is written as one of IPv6 is unwrapped. -/
def IpAddr.normalized : IpAddr → IpAddr
  | .v4 bits => .v4 bits
  | .v6 bits => if mappedBlock.covers (.v6 bits) then .v4 (bits.setWidth 32) else .v6 bits

def HARDCODED_BLOCKED_CIDRS : List Cidr := [
  ⟨.v4 (ipv4 127 0 0 0), 8⟩,
  ⟨.v6 (ipv6 0 1), 128⟩,
  ⟨.v4 (ipv4 10 0 0 0), 8⟩,
  ⟨.v4 (ipv4 172 16 0 0), 12⟩,
  ⟨.v4 (ipv4 192 168 0 0), 16⟩,
  ⟨.v4 (ipv4 169 254 0 0), 16⟩,
  ⟨.v6 (ipv6 0xfe80 0), 10⟩,
  ⟨.v4 (ipv4 100 64 0 0), 10⟩,
  ⟨.v6 (ipv6 0xfc00 0), 7⟩,
  mappedBlock,
  ⟨.v4 (ipv4 0 0 0 0), 8⟩]

def IpAddr.unspecified6 : IpAddr := .v6 (ipv6 0 0)

def specialRanges4 : List (BitVec 32 × BitVec 32) := [
  (ipv4 0 0 0 0, ipv4 0 255 255 255),
  (ipv4 127 0 0 0, ipv4 127 255 255 255),
  (ipv4 10 0 0 0, ipv4 10 255 255 255),
  (ipv4 172 16 0 0, ipv4 172 31 255 255),
  (ipv4 192 168 0 0, ipv4 192 168 255 255),
  (ipv4 169 254 0 0, ipv4 169 254 255 255),
  (ipv4 100 64 0 0, ipv4 100 127 255 255)]

def specialRanges6 : List (BitVec 128 × BitVec 128) := [
  (ipv6 0 0, ipv6 0 0),
  (ipv6 0 1, ipv6 0 1),
  (ipv6 0xfe80 0, ipv6 0xfebf (2 ^ 112 - 1)),
  (ipv6 0xfc00 0, ipv6 0xfdff (2 ^ 112 - 1))]

def inRanges {w : Nat} (ranges : List (BitVec w × BitVec w)) (bits : BitVec w) : Prop :=
  ∃ range ∈ ranges, range.1 ≤ bits ∧ bits ≤ range.2

def IpAddr.Special : IpAddr → Prop
  | .v4 bits => inRanges specialRanges4 bits
  | .v6 bits => inRanges specialRanges6 bits ∨
      mappedBlock.covers (.v6 bits) = true ∧ inRanges specialRanges4 (bits.setWidth 32)

/-! ## The check of a URL -/

structure TargetUrl where
  protocol : String
  hostname : String
  port : Option Nat

inductive DnsFailure
  | timeout | error

/-- Why `WEBHOOK_SSRF_BLOCKED` is thrown. -/
inductive SsrfBlocked
  | invalidUrl
  | schemeNotAllowed (scheme : String)
  | portNotAllowed (port : Nat)
  | dns (failure : DnsFailure)
  | dnsNoResults
  | resolvedIp (ip : String) (reason : Option Cidr)

structure WebhookPlatform where
  parseUrl : String → Option TargetUrl
  lookup : String → Except DnsFailure (List String)
  parseIp : String → Option IpAddr
  parseCIDR : String → Option Cidr
  isIP : String → Bool
  https_protocol : ∀ url parsed, parseUrl url = some parsed → startsWith url "https:" = true →
    parsed.protocol = "https:"
  lookup_literal : ∀ hostname addresses, isIP hostname = true → lookup hostname = .ok addresses →
    addresses = [hostname]

namespace WebhookPlatform

variable (platform : WebhookPlatform)

def parseCidrs (cidrs : List String) : List Cidr := cidrs.filterMap platform.parseCIDR

def isBlockedIp (ipStr : String) (extraParsed : List Cidr) : Option (Option Cidr) :=
  match platform.parseIp ipStr with
  | none => some none
  | some addr =>
    ((HARDCODED_BLOCKED_CIDRS ++ extraParsed).find? fun block =>
      block.covers addr.normalized).map some

def ALLOWED_PORTS : List Nat := [80, 443, 8080, 8443]

def validateWebhookUrl (url : String) (extraCidrs : List String) : Except SsrfBlocked String :=
  match platform.parseUrl url with
  | none => .error .invalidUrl
  | some parsed =>
    if parsed.protocol ≠ "http:" ∧ parsed.protocol ≠ "https:" then
      .error (.schemeNotAllowed parsed.protocol)
    else
      match parsed.port.filter fun port => !ALLOWED_PORTS.contains port with
      | some port => .error (.portNotAllowed port)
      | none =>
        match platform.lookup parsed.hostname with
        | .error failure => .error (.dns failure)
        | .ok addresses =>
          let extraParsed := platform.parseCidrs extraCidrs
          match addresses.findSome? fun ip => (platform.isBlockedIp ip extraParsed).map (ip, ·) with
          | some (ip, reason) => .error (.resolvedIp ip reason)
          | none =>
            match addresses.head? with
            | none => .error .dnsNoResults
            | some firstAddress => .ok firstAddress

/-! ## The connection -/

structure WebhookConnection where
  tls : Bool
  address : String
  port : Nat

/-- The connection that the action makes. -/
def executeWebhookAction (url : String) (extraBlockCidrs : List String) :
    Except SsrfBlocked WebhookConnection :=
  match platform.validateWebhookUrl url extraBlockCidrs with
  | .error blocked => .error blocked
  | .ok validatedIp =>
    match platform.parseUrl url with
    | none => .error .invalidUrl
    | some parsedUrl =>
      let isHttps := startsWith url "https:"
      -- the lookup of the agent answers with the validated address
      let address := if platform.isIP parsedUrl.hostname then parsedUrl.hostname else validatedIp
      .ok ⟨isHttps, address, parsedUrl.port.getD (if isHttps then 443 else 80)⟩

/-- The port of the URL, its scheme's own where it has none. -/
def effectivePort (parsed : TargetUrl) : Nat :=
  parsed.port.getD (if parsed.protocol = "https:" then 443 else 80)

def GoesWhereItSays (url : String) (extraBlockCidrs : List String) (parsed : TargetUrl)
    (validatedIp : String) : Prop :=
  ∃ connection addr,
    platform.executeWebhookAction url extraBlockCidrs = .ok connection ∧
    connection.address = validatedIp ∧ platform.parseIp validatedIp = some addr ∧
    ¬ addr.Special ∧ (connection.tls = true ↔ parsed.protocol = "https:") ∧
    connection.port = effectivePort parsed

end WebhookPlatform

/-! ## The block list -/

theorem unblocked4 {bits : BitVec 32}
    (unblocked : ∀ block ∈ HARDCODED_BLOCKED_CIDRS, block.covers (.v4 bits) = false) :
    ¬ inRanges specialRanges4 bits := by
  simp only [HARDCODED_BLOCKED_CIDRS, mappedBlock, forall_mem_cons, Cidr.covers, ipv4,
    beq_eq_false_iff_ne, BitVec.toNat_ofNat, Nat.reduceAdd, Nat.reduceMul, Nat.reduceSub, Nat.reducePow,
    Nat.reduceMod, Nat.reduceDiv, ne_eq] at unblocked
  simp only [inRanges, specialRanges4, exists_mem_cons_iff, ipv4, BitVec.le_def,
    BitVec.toNat_ofNat, not_mem_nil, false_and, exists_false, or_false, Nat.reduceAdd,
    Nat.reduceMul, Nat.reducePow, Nat.reduceMod]
  omega

theorem unblocked6 {bits : BitVec 128} (specified : bits ≠ ipv6 0 0)
    (unblocked : ∀ block ∈ HARDCODED_BLOCKED_CIDRS, block.covers (.v6 bits) = false) :
    ¬ inRanges specialRanges6 bits := by
  have nonzero : bits.toNat ≠ 0 := fun zero => specified (BitVec.eq_of_toNat_eq zero)
  simp only [HARDCODED_BLOCKED_CIDRS, mappedBlock, forall_mem_cons, Cidr.covers, ipv6,
    beq_eq_false_iff_ne, BitVec.toNat_ofNat, Nat.reduceAdd, Nat.reduceMul, Nat.reduceSub, Nat.reducePow,
    Nat.reduceMod, Nat.reduceDiv, ne_eq] at unblocked
  simp only [inRanges, specialRanges6, exists_mem_cons_iff, ipv6, BitVec.le_def,
    BitVec.toNat_ofNat, not_mem_nil, false_and, exists_false, or_false, Nat.reduceAdd,
    Nat.reduceMul, Nat.reduceSub, Nat.reducePow, Nat.reduceMod]
  omega

theorem mapped_not_special6 {bits : BitVec 128} (mapped : mappedBlock.covers (.v6 bits)) :
    ¬ inRanges specialRanges6 bits := by
  simp only [mappedBlock, Cidr.covers, beq_iff_eq, BitVec.toNat_ofNat, Nat.reduceMul,
    Nat.reduceSub, Nat.reducePow, Nat.reduceMod, Nat.reduceDiv] at mapped
  simp only [inRanges, specialRanges6, exists_mem_cons_iff, ipv6, BitVec.le_def,
    BitVec.toNat_ofNat, not_mem_nil, false_and, exists_false, or_false, Nat.reduceAdd,
    Nat.reduceMul, Nat.reduceSub, Nat.reducePow, Nat.reduceMod]
  omega

theorem special_iff_of_unblocked {addr : IpAddr}
    (unblocked : ∀ block ∈ HARDCODED_BLOCKED_CIDRS, block.covers addr.normalized = false) :
    addr.Special ↔ addr = .unspecified6 := by
  refine ⟨fun special => ?_, fun same => ?_⟩
  · cases addr with
    | v4 bits => exact absurd special (unblocked4 unblocked)
    | v6 bits =>
      by_contra other
      have specified : bits ≠ ipv6 0 0 := fun same => other (congrArg IpAddr.v6 same)
      rw [IpAddr.normalized] at unblocked
      by_cases mapped : mappedBlock.covers (.v6 bits) = true
      · rw [if_pos mapped] at unblocked
        rcases special with plain | ⟨-, special⟩
        · exact mapped_not_special6 mapped plain
        · exact unblocked4 unblocked special
      · rw [if_neg mapped] at unblocked
        rcases special with plain | ⟨mapped', -⟩
        · exact unblocked6 specified unblocked plain
        · exact mapped mapped'
  · subst same
    exact Or.inl ⟨(ipv6 0 0, ipv6 0 0), mem_cons_self, BitVec.le_refl _, BitVec.le_refl _⟩

/-! ## The connection is what the URL says -/

namespace WebhookPlatform

variable {platform : WebhookPlatform} {url validatedIp : String} {extra : List String}
  {parsed : TargetUrl}

theorem unblocked_of_isBlockedIp {ip : String} {cidrs : List Cidr}
    (free : platform.isBlockedIp ip cidrs = none) : ∃ addr, platform.parseIp ip = some addr ∧
      ∀ block ∈ HARDCODED_BLOCKED_CIDRS, block.covers addr.normalized = false := by
  unfold isBlockedIp at free
  split at free
  · cases free
  · next addr parsed =>
    refine ⟨addr, parsed, fun block mem => ?_⟩
    have none' := find?_eq_none.mp (map_eq_none_iff.mp free) block (mem_append_left _ mem)
    exact Bool.not_eq_true _ ▸ none'

theorem validateWebhookUrl_ok (parses : platform.parseUrl url = some parsed)
    (accepted : platform.validateWebhookUrl url extra = .ok validatedIp) :
    (parsed.protocol = "http:" ∨ parsed.protocol = "https:") ∧
      (∃ addresses, platform.lookup parsed.hostname = .ok addresses ∧
        addresses.head? = some validatedIp) ∧
      platform.isBlockedIp validatedIp (platform.parseCidrs extra) = none := by
  unfold validateWebhookUrl at accepted
  rw [parses] at accepted
  dsimp only at accepted
  split at accepted
  · cases accepted
  · next scheme =>
    rw [not_and_or, not_not, not_not] at scheme
    split at accepted
    · cases accepted
    · split at accepted
      · cases accepted
      · next addresses resolved =>
        split at accepted
        · cases accepted
        · next free =>
          split at accepted
          · cases accepted
          · next first head =>
            cases accepted
            refine ⟨scheme, ⟨addresses, resolved, head⟩, ?_⟩
            have unblocked := findSome?_eq_none_iff.mp free _ (mem_of_mem_head? head)
            exact map_eq_none_iff.mp unblocked

end WebhookPlatform

open WebhookPlatform in
/-- The connection for an accepted URL is what the URL says, to an address that is not special,
exactly when the URL begins with `https:` in small letters or its scheme is `http`, and the address
is not `::`. -/
theorem webhook_target_iff (platform : WebhookPlatform) {url validatedIp : String}
    {extra : List String} {parsed : TargetUrl} (parses : platform.parseUrl url = some parsed)
    (accepted : platform.validateWebhookUrl url extra = .ok validatedIp) :
    platform.GoesWhereItSays url extra parsed validatedIp ↔
      (startsWith url "https:" = true ∨ parsed.protocol = "http:") ∧
        platform.parseIp validatedIp ≠ some .unspecified6 := by
  obtain ⟨scheme, ⟨addresses, resolved, head⟩, free⟩ := validateWebhookUrl_ok parses accepted
  obtain ⟨addr, parsedIp, unblocked⟩ := unblocked_of_isBlockedIp free
  have special := special_iff_of_unblocked unblocked
  have address : (if platform.isIP parsed.hostname then parsed.hostname else validatedIp) =
      validatedIp := by
    split
    · next literal =>
      rw [platform.lookup_literal _ _ literal resolved] at head
      exact Option.some.inj head
    · rfl
  have connects : platform.executeWebhookAction url extra = .ok ⟨startsWith url "https:",
      validatedIp, parsed.port.getD (if startsWith url "https:" then 443 else 80)⟩ := by
    unfold executeWebhookAction
    rw [accepted, parses]
    dsimp only
    rw [address]
  have apart : ("http:" : String) ≠ "https:" := by decide
  have tls : (startsWith url "https:" ↔ parsed.protocol = "https:") ↔
      startsWith url "https:" ∨ parsed.protocol = "http:" := by
    refine ⟨fun same => ?_, fun holds => ⟨platform.https_protocol url parsed parses, fun https => ?_⟩⟩
    · exact scheme.symm.imp same.mpr id
    · exact holds.resolve_right fun http => apart (http.symm.trans https)
  unfold GoesWhereItSays
  rw [connects, parsedIp]
  constructor
  · rintro ⟨_, _, ⟨⟩, -, ⟨⟩, ordinary, secure, -⟩
    exact ⟨tls.mp secure, fun same => ordinary (special.mpr (Option.some.inj same))⟩
  · rintro ⟨plain, ordinary⟩
    refine ⟨_, addr, rfl, rfl, rfl, fun is => ordinary (congrArg some (special.mp is)),
      tls.mpr plain, ?_⟩
    unfold effectivePort
    by_cases https : startsWith url "https:" = true
    · rw [if_pos https, if_pos (platform.https_protocol url parsed parses https)]
    · rw [if_neg https, if_neg fun is => https ((tls.mpr plain).mpr is)]

/-! ## Capital letters, and the unspecified address -/

def samplePlatform : WebhookPlatform where
  parseUrl url :=
    if url = "https://example.com/hook" ∨ url = "HTTPS://example.com/hook" then
      some ⟨"https:", "example.com", none⟩
    else if url = "http://localhost.example/" then some ⟨"http:", "localhost.example", none⟩
    else none
  lookup hostname := .ok (if hostname = "example.com" then ["93.184.216.34"] else ["::"])
  parseIp text :=
    if text = "93.184.216.34" then some (.v4 (ipv4 93 184 216 34))
    else if text = "::" then some .unspecified6 else none
  parseCIDR _ := none
  isIP _ := false
  https_protocol url parsed parses https := by
    split at parses
    · cases parses
      rfl
    · split at parses
      · next plain =>
        rw [plain] at https
        exact absurd https (by decide)
      · cases parses
  lookup_literal _ _ literal := by cases literal

theorem webhook_target_example :
    samplePlatform.GoesWhereItSays "https://example.com/hook" [] ⟨"https:", "example.com", none⟩
      "93.184.216.34" :=
  (webhook_target_iff samplePlatform rfl rfl).mpr ⟨.inl (by decide), by decide⟩

/-- With the scheme in capitals the connection is made without TLS, and `::` is accepted. -/
theorem webhook_target_missed :
    (samplePlatform.validateWebhookUrl "HTTPS://example.com/hook" [] = .ok "93.184.216.34" ∧
      ¬ samplePlatform.GoesWhereItSays "HTTPS://example.com/hook" [] ⟨"https:", "example.com", none⟩
        "93.184.216.34") ∧
    samplePlatform.validateWebhookUrl "http://localhost.example/" [] = .ok "::" ∧
      ¬ samplePlatform.GoesWhereItSays "http://localhost.example/" []
        ⟨"http:", "localhost.example", none⟩ "::" := by
  refine ⟨⟨rfl, ?_⟩, rfl, ?_⟩
  · rintro ⟨connection, addr, ran, -, -, -, secure, -⟩
    have plain : samplePlatform.executeWebhookAction "HTTPS://example.com/hook" [] =
        .ok ⟨false, "93.184.216.34", 80⟩ := rfl
    obtain rfl := Except.ok.inj (plain.symm.trans ran)
    cases secure.mpr rfl
  · rintro ⟨connection, addr, -, -, parsed, ordinary, -⟩
    obtain rfl : IpAddr.unspecified6 = addr := Option.some.inj parsed
    exact ordinary (Or.inl ⟨(ipv6 0 0, ipv6 0 0), mem_cons_self, BitVec.le_refl _,
      BitVec.le_refl _⟩)

end OpenWind
