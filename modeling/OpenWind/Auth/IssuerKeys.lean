import OpenWind.Lib.LastUsed
import OpenWind.Lib.Runs

/-!
# The keys of external issuers

A key may name an issuer of its own for the tokens of persons.  The key sets of such issuers are
found through the discovery document of the issuer, and kept for the issuers that were used last.
A discovery takes time, and other tokens are verified meanwhile.
-/

open List

namespace OpenWind

namespace IssuerKeys

open LastUsed

def MAX_CACHED_EXTERNAL_ISSUERS : Nat := 50

/-- A document that the schema has accepted. -/
structure OidcDiscovery where
  issuer : String
  jwksUri : String

/-- The keys of an issuer are those that its `jwks_uri` serves. -/
abbrev JwksGetter := String

/-- `_jwksByIssuer`, in the order of insertion. -/
abbrev JwksByIssuer := List (String × JwksGetter)

def touchIssuer (issuer : String) (jwks : JwksGetter) (jwksByIssuer : JwksByIssuer) :
    JwksByIssuer :=
  let touched := without issuer jwksByIssuer ++ [(issuer, jwks)]
  if touched.length > MAX_CACHED_EXTERNAL_ISSUERS then touched.tail else touched

structure IssuerWorld where
  jwksByIssuer : JwksByIssuer
  discovering : List String
  used : List (String × JwksGetter)
  passed : List OidcDiscovery

inductive IssuerLabel
  | getJwksForIssuer (issuer : String) (egressAllowed : Bool)
  | discovered (i : Nat) (answer : Option OidcDiscovery) (egressAllowed : Bool)

def start : IssuerWorld := ⟨[], [], [], []⟩

def IssuerWorld.touch (w : IssuerWorld) (issuer : String) (jwks : JwksGetter) : IssuerWorld :=
  { w with
    jwksByIssuer := touchIssuer issuer jwks w.jwksByIssuer
    used := (issuer, jwks) :: w.used }

def IssuerWorld.getJwksForIssuer (w : IssuerWorld) (issuer : String) (egressAllowed : Bool) :
    IssuerWorld :=
  match w.jwksByIssuer.lookup issuer with
  | some cached => w.touch issuer cached
  | none => if egressAllowed then { w with discovering := w.discovering ++ [issuer] } else w

/-- The end of a discovery of the issuer. -/
def IssuerWorld.discovered (w : IssuerWorld) (issuer : String) (answer : Option OidcDiscovery)
    (egressAllowed : Bool) : IssuerWorld :=
  match answer with
  | none => w
  | some discovery =>
    if discovery.issuer = issuer ∧ egressAllowed then
      { w.touch issuer discovery.jwksUri with passed := discovery :: w.passed }
    else w

def step (w : IssuerWorld) : IssuerLabel → Option IssuerWorld
  | .getJwksForIssuer issuer egressAllowed => some (w.getJwksForIssuer issuer egressAllowed)
  | .discovered i answer egressAllowed =>
    w.discovering[i]?.map fun issuer =>
      { w with discovering := w.discovering.eraseIdx i }.discovered issuer answer egressAllowed

structure Sound (w : IssuerWorld) : Prop where
  lastUsed : w.jwksByIssuer = ((latest w.used).take MAX_CACHED_EXTERNAL_ISSUERS).reverse
  passed : ∀ entry ∈ w.used, ⟨entry.1, entry.2⟩ ∈ w.passed

variable {w w' : IssuerWorld} {issuer : String} {jwks : JwksGetter}

theorem touchIssuer_latest (used : List (String × JwksGetter)) :
    touchIssuer issuer jwks ((latest used).take MAX_CACHED_EXTERNAL_ISSUERS).reverse =
      ((latest ((issuer, jwks) :: used)).take MAX_CACHED_EXTERNAL_ISSUERS).reverse := by
  have few : (without issuer ((latest used).take 50)).length ≤ 50 :=
    Nat.le_trans (length_filter_le _ _) (length_take_le _ _)
  have touched : without issuer ((latest used).take 50).reverse ++ [(issuer, jwks)] =
      ((issuer, jwks) :: without issuer ((latest used).take 50)).reverse := by
    rw [reverse_cons, without, without, filter_reverse]
  have taken := take_touch (issuer, jwks) used 49
  unfold touchIssuer MAX_CACHED_EXTERNAL_ISSUERS
  rw [touched, ← taken]
  dsimp only
  rw [length_reverse, length_cons]
  split
  · next full =>
    rw [tail_reverse, dropLast_eq_take, length_cons]
    congr 2
    omega
  · next room =>
    refine congrArg reverse (take_of_length_le ?_).symm
    rw [length_cons]
    omega

theorem Sound.touch (sound : Sound w) (passed : ⟨issuer, jwks⟩ ∈ w.passed) :
    Sound (w.touch issuer jwks) where
  lastUsed := by
    unfold IssuerWorld.touch
    rw [sound.lastUsed]
    exact touchIssuer_latest w.used
  passed := forall_mem_cons.mpr ⟨passed, sound.passed⟩

theorem Sound.mem (sound : Sound w) {entry : String × JwksGetter} (mem : entry ∈ w.jwksByIssuer) :
    entry ∈ w.used := by
  rw [sound.lastUsed] at mem
  exact mem_of_latest (mem_of_mem_take (mem_reverse.mp mem))

theorem mem_of_lookup {entries : JwksByIssuer} (found : entries.lookup issuer = some jwks) :
    (issuer, jwks) ∈ entries := by
  obtain ⟨before, after, rfl, -⟩ := lookup_eq_some_iff.mp found
  exact mem_append_right before mem_cons_self

theorem Sound.step {label : IssuerLabel} (sound : Sound w) (stepped : step w label = some w') :
    Sound w' := by
  cases label with
  | getJwksForIssuer issuer egressAllowed =>
    cases stepped
    unfold IssuerWorld.getJwksForIssuer
    split
    · next cached found => exact sound.touch (sound.passed _ (sound.mem (mem_of_lookup found)))
    · split
      · exact ⟨sound.lastUsed, sound.passed⟩
      · exact sound
  | discovered i answer egressAllowed =>
    obtain ⟨issuer, -, rfl⟩ := Option.map_eq_some_iff.mp stepped
    unfold IssuerWorld.discovered
    split
    · exact ⟨sound.lastUsed, sound.passed⟩
    · next discovery =>
      split
      · next checked =>
        obtain ⟨rfl, -⟩ := checked
        have known : Sound { w with passed := discovery :: w.passed } :=
          ⟨sound.lastUsed, fun entry mem => mem_cons_of_mem _ (sound.passed entry mem)⟩
        have touched := known.touch (show discovery ∈ _ from mem_cons_self)
        exact ⟨touched.lastUsed, touched.passed⟩
      · exact ⟨sound.lastUsed, sound.passed⟩

/-- In every run the cache is of the issuers that were used last, at most
`MAX_CACHED_EXTERNAL_ISSUERS`, each once, and the keys that an issuer is looked up with are from a
document that named this issuer and passed the checks. -/
theorem issuer_keys_sound (labels : List IssuerLabel) :
    Runs.Always step (fun w =>
      (w.jwksByIssuer = ((latest w.used).take MAX_CACHED_EXTERNAL_ISSUERS).reverse ∧
        w.jwksByIssuer.length ≤ MAX_CACHED_EXTERNAL_ISSUERS ∧
        (w.jwksByIssuer.map Prod.fst).Nodup) ∧
      ∀ issuer jwks, w.jwksByIssuer.lookup issuer = some jwks → ⟨issuer, jwks⟩ ∈ w.passed)
      start labels := by
  refine Runs.Always.of_invariant (I := Sound) (fun sound stepped => sound.step stepped)
    (fun {w} sound => ⟨⟨sound.lastUsed, ?_, ?_⟩, fun issuer jwks found => ?_⟩) ⟨rfl, nofun⟩
  · rw [sound.lastUsed, length_reverse]
    exact length_take_le _ _
  · rw [sound.lastUsed, map_reverse, nodup_reverse]
    exact (nodup_latest w.used).sublist ((take_sublist _ _).map _)
  · exact sound.passed _ (sound.mem (mem_of_lookup found))

end IssuerKeys

end OpenWind
