import OpenWind.Json

/-!
# The address of a client

A request is from the address of its peer, unless the peer is a proxy that is trusted: then
`X-Real-IP` and `X-Forwarded-For` say whose request it is.  `TRUST_PROXY` is `true`, `false`, or a
list of addresses and ranges, which the peer is looked up in like a client in the allowlist of a
tenant; an allowlist that is empty lets everybody in.
-/

namespace OpenWind

/-! ## Allowlists -/

inductive IpKind
  | ipv4 | ipv6
  deriving DecidableEq

structure IpaddrJs where
  Addr : Type
  parse : String → Option Addr
  parseCIDR : String → Option (Addr × Int)
  kind : Addr → IpKind
  isIPv4MappedAddress : Addr → Bool
  toIPv4Address : Addr → Addr
  match_ : Addr → Addr → Int → Option Bool
  toString : Addr → String

namespace IpaddrJs

variable (ipaddr : IpaddrJs)

def isMapped (addr : ipaddr.Addr) : Bool :=
  ipaddr.kind addr == .ipv6 && ipaddr.isIPv4MappedAddress addr

def normalize (addr : ipaddr.Addr) : ipaddr.Addr :=
  if ipaddr.isMapped addr then ipaddr.toIPv4Address addr else addr

def rangeMatches (normalized : ipaddr.Addr) (range : String) : Bool :=
  if range.toList.contains '/' then
    match ipaddr.parseCIDR range with
    | none => false
    | some (network, bits) =>
      let normalizedNetwork := ipaddr.normalize network
      let normalizedPrefix := if ipaddr.isMapped network then bits - 96 else bits
      ipaddr.kind normalized == ipaddr.kind normalizedNetwork &&
        ipaddr.match_ normalized normalizedNetwork normalizedPrefix == some true
  else
    match ipaddr.parse range with
    | none => false
    | some parsed =>
      let normalizedRange := ipaddr.normalize parsed
      ipaddr.kind normalized == ipaddr.kind normalizedRange &&
        ipaddr.toString normalized == ipaddr.toString normalizedRange

def checkIpInAllowlist (ipStr : String) (allowlist : List String) : Bool :=
  if allowlist.isEmpty then true
  else match ipaddr.parse ipStr with
    | none => false
    | some addr => allowlist.any (ipaddr.rangeMatches (ipaddr.normalize addr))

end IpaddrJs

/-! ## The address of a request -/

structure ClientRequest where
  remoteAddress : Option String
  realIp : Option String
  forwardedFor : Option String

def peerIp (remoteAddress : Option String) : String :=
  (remoteAddress.filter (· != "")).getD "unknown"

def trustedProxies (trustProxy : String) : List String :=
  ((splitText ',' trustProxy).map trim).filter (· != "")

def isTrusted (ipaddr : IpaddrJs) (trustProxy peer : String) : Bool :=
  if trustProxy = "true" then true
  else if trustProxy = "false" then false
  else peer != "unknown" && ipaddr.checkIpInAllowlist peer (trustedProxies trustProxy)

/-- The address that the headers name. -/
def forwardedIp (request : ClientRequest) : Option String :=
  let realIp := (request.realIp.map trim).filter (· != "")
  let fromForwarded := (request.forwardedFor.filter (· != "")).bind fun forwardedFor =>
    ((splitText ',' forwardedFor).head?.map trim).filter (· != "")
  realIp <|> fromForwarded

def getClientIp (ipaddr : IpaddrJs) (trustProxy : String) (request : ClientRequest) : String :=
  let peer := peerIp request.remoteAddress
  if isTrusted ipaddr trustProxy peer then (forwardedIp request).getD peer else peer

inductive IpDecision
  | proceed
  /-- 403 -/
  | forbidden
  /-- 503 -/
  | unavailable
  deriving DecidableEq

def enforceTenantIpAllowlist (ipaddr : IpaddrJs) (trustProxy : String) (request : ClientRequest)
    (ipAllowlist : Option (List String)) : IpDecision :=
  match ipAllowlist with
  | none => .unavailable
  | some ipAllowlist =>
    if ipAllowlist.isEmpty ||
        ipaddr.checkIpInAllowlist (getClientIp ipaddr trustProxy request) ipAllowlist then .proceed
    else .forbidden

/-! ## Headers that a client has written -/

def PeerListed (ipaddr : IpaddrJs) (trustProxy peer : String) : Prop :=
  ∃ addr, ipaddr.parse peer = some addr ∧
    ∃ range ∈ trustedProxies trustProxy, ipaddr.rangeMatches (ipaddr.normalize addr) range = true

def Unspoofable (ipaddr : IpaddrJs) (trustProxy : String) (remoteAddress : Option String) : Prop :=
  ¬ PeerListed ipaddr trustProxy (peerIp remoteAddress) →
    ∀ one other : ClientRequest, one.remoteAddress = remoteAddress →
      other.remoteAddress = remoteAddress →
      getClientIp ipaddr trustProxy one = getClientIp ipaddr trustProxy other ∧
        ∀ ipAllowlist, enforceTenantIpAllowlist ipaddr trustProxy one ipAllowlist =
          enforceTenantIpAllowlist ipaddr trustProxy other ipAllowlist

variable {ipaddr : IpaddrJs} {trustProxy : String}

theorem trustedProxies_eq_nil :
    trustedProxies trustProxy = [] ↔ ∀ part ∈ splitText ',' trustProxy, trim part = "" := by
  simp [trustedProxies, List.filter_eq_nil_iff]

theorem checkIpInAllowlist_iff {ipStr : String} {allowlist : List String}
    (entries : allowlist ≠ []) :
    ipaddr.checkIpInAllowlist ipStr allowlist ↔ ∃ addr, ipaddr.parse ipStr = some addr ∧
      ∃ range ∈ allowlist, ipaddr.rangeMatches (ipaddr.normalize addr) range := by
  unfold IpaddrJs.checkIpInAllowlist
  rw [if_neg (by rwa [List.isEmpty_iff])]
  cases parsed : ipaddr.parse ipStr with
  | none => simp
  | some addr => simp

theorem isTrusted_unlisted {peer : String} (other : trustProxy ≠ "true")
    (unlisted : ¬ PeerListed ipaddr trustProxy peer) :
    isTrusted ipaddr trustProxy peer ↔
      trustProxy ≠ "false" ∧ trustedProxies trustProxy = [] ∧ peer ≠ "unknown" := by
  unfold isTrusted
  rw [if_neg other]
  by_cases off : trustProxy = "false"
  · simp [off]
  · rw [if_neg off, Bool.and_eq_true, bne_iff_ne]
    by_cases empty : trustedProxies trustProxy = []
    · simp [off, empty, IpaddrJs.checkIpInAllowlist]
    · rw [checkIpInAllowlist_iff empty]
      exact ⟨fun both => absurd both.2 unlisted, fun both => absurd both.2.1 empty⟩

theorem getClientIp_untrusted {request : ClientRequest}
    (untrusted : isTrusted ipaddr trustProxy (peerIp request.remoteAddress) = false) :
    getClientIp ipaddr trustProxy request = peerIp request.remoteAddress := by
  unfold getClientIp
  exact if_neg (Bool.eq_false_iff.mp untrusted)

def naming (remoteAddress : Option String) (address : String) : ClientRequest :=
  ⟨remoteAddress, some address, none⟩

theorem getClientIp_trusted {remoteAddress : Option String} {address : String}
    (trusted : isTrusted ipaddr trustProxy (peerIp remoteAddress))
    (plain : trim address = address) (named : address ≠ "") :
    getClientIp ipaddr trustProxy (naming remoteAddress address) = address := by
  unfold getClientIp
  have is : forwardedIp (naming remoteAddress address) = some address := by
    simp [forwardedIp, naming, plain, named]
  rw [is]
  simp only [naming, trusted, if_true, Option.getD_some]

theorem trim_plain {letters : List Char} (plain : ∀ c ∈ letters, isSpace c = false) :
    trim (String.ofList letters) = String.ofList letters := by
  unfold trim
  have kept : ∀ cs : List Char, (∀ c ∈ cs, isSpace c = false) → cs.dropWhile isSpace = cs := by
    intro cs none_
    cases cs with
    | nil => rfl
    | cons c rest => simp [none_ c List.mem_cons_self]
  rw [String.toList_ofList, kept letters plain,
    kept _ fun c mem => plain c (List.mem_reverse.mp mem), List.reverse_reverse]

theorem getClientIp_spoofed {remoteAddress : Option String} (letters : List Char)
    (trusted : isTrusted ipaddr trustProxy (peerIp remoteAddress))
    (plain : ∀ c ∈ letters, isSpace c = false) (some_ : letters ≠ []) :
    getClientIp ipaddr trustProxy (naming remoteAddress (String.ofList letters)) =
      String.ofList letters :=
  getClientIp_trusted trusted (trim_plain plain) fun empty =>
    some_ (by rw [← String.toList_ofList (l := letters), empty]; rfl)

/-- For a setting other than `true`, the headers of a peer that is not listed are without effect
exactly when the setting is `false` or has a part that is not blank, or the peer is not known. -/
theorem client_ip_unspoofable_iff (ipaddr : IpaddrJs) (trustProxy : String)
    (remoteAddress : Option String) (other : trustProxy ≠ "true") :
    Unspoofable ipaddr trustProxy remoteAddress ↔
      trustProxy = "false" ∨ (∃ part ∈ splitText ',' trustProxy, trim part ≠ "") ∨
        peerIp remoteAddress = "unknown" := by
  have listed : (∃ part ∈ splitText ',' trustProxy, trim part ≠ "") ↔
      trustedProxies trustProxy ≠ [] := by
    rw [Ne, trustedProxies_eq_nil]
    simp
  rw [listed]
  constructor
  · intro unspoofable
    by_contra exposed
    simp only [not_or, not_not] at exposed
    obtain ⟨on, empty, known⟩ := exposed
    have unlisted : ¬ PeerListed ipaddr trustProxy (peerIp remoteAddress) := by
      rintro ⟨addr, _, range, mem, _⟩
      rw [empty] at mem
      cases mem
    have trusted := (isTrusted_unlisted other unlisted).mpr ⟨on, empty, known⟩
    have first := getClientIp_spoofed ['1'] trusted (List.forall_mem_singleton.mpr rfl) nofun
    have second := getClientIp_spoofed ['2'] trusted (List.forall_mem_singleton.mpr rfl) nofun
    have same := (unspoofable unlisted (naming remoteAddress (String.ofList ['1']))
      (naming remoteAddress (String.ofList ['2'])) rfl rfl).1
    rw [first, second] at same
    exact absurd (String.ofList_injective same) (by decide)
  · intro safe unlisted one two here there
    have untrusted : isTrusted ipaddr trustProxy (peerIp remoteAddress) = false := by
      refine Bool.eq_false_iff.mpr fun trusted => ?_
      obtain ⟨on, empty, known⟩ := (isTrusted_unlisted other unlisted).mp trusted
      rcases safe with off | entries | unknown
      · exact on off
      · exact entries empty
      · exact known unknown
    have same : getClientIp ipaddr trustProxy one = getClientIp ipaddr trustProxy two := by
      rw [getClientIp_untrusted (by rwa [here]), getClientIp_untrusted (by rwa [there]), here, there]
    refine ⟨same, fun ipAllowlist => ?_⟩
    unfold enforceTenantIpAllowlist
    rw [same]

def plainIpaddr : IpaddrJs where
  Addr := String
  parse s := if s.toList.all fun c => c.isDigit || c == '.' then some s else none
  parseCIDR _ := none
  kind _ := .ipv4
  isIPv4MappedAddress _ := false
  toIPv4Address := id
  match_ _ _ _ := none
  toString := id

/-- With an empty setting a stranger is let in as whom the header names. -/
theorem spoofed_past_the_allowlist :
    enforceTenantIpAllowlist plainIpaddr "" (naming (some "9.9.9.9") "1.2.3.4")
        (some ["1.2.3.4"]) = .proceed ∧
      enforceTenantIpAllowlist plainIpaddr "" (naming (some "9.9.9.9") "9.9.9.9")
        (some ["1.2.3.4"]) = .forbidden ∧
      ¬ Unspoofable plainIpaddr "" (some "9.9.9.9") := by
  have spoofed : enforceTenantIpAllowlist plainIpaddr "" (naming (some "9.9.9.9") "1.2.3.4")
      (some ["1.2.3.4"]) = .proceed := by rfl
  have honest : enforceTenantIpAllowlist plainIpaddr "" (naming (some "9.9.9.9") "9.9.9.9")
      (some ["1.2.3.4"]) = .forbidden := by rfl
  refine ⟨spoofed, honest, fun unspoofable => ?_⟩
  have unlisted : ¬ PeerListed plainIpaddr "" (peerIp (some "9.9.9.9")) := by
    rintro ⟨addr, _, range, mem, _⟩
    cases mem
  have same := (unspoofable unlisted (naming (some "9.9.9.9") "1.2.3.4")
    (naming (some "9.9.9.9") "9.9.9.9") rfl rfl).2 (some ["1.2.3.4"])
  rw [spoofed, honest] at same
  cases same

/-- An entry that is no address still keeps the headers of other peers without effect. -/
theorem client_ip_unspoofable_iff_at_an_entry :
    Unspoofable plainIpaddr ",proxy" (some "9.9.9.9") :=
  (client_ip_unspoofable_iff plainIpaddr ",proxy" (some "9.9.9.9") (by decide)).mpr
    (.inr (.inl ⟨"proxy", by decide, by decide⟩))

end OpenWind
