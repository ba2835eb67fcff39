import OpenWind.Json
import OpenWind.Lib.Overwrites

/-!
# The configuration of a tenant

`tenants.config` is one JSON document that several features write.  A module is installed and
uninstalled by writing the whole document back as it was read, with another list of modules;
an installation seeds its tables in between.  The rate limit is set by a statement that edits
its own key.
-/

open Option

namespace OpenWind

open Overwrites Runs

/-! ## The calls -/

def installedList (config : Fields) : List Json :=
  match config.get "installed_modules" with
  | some (.arr items) => items
  | _ => []

/-- `installedList.includes(slug)`. -/
def isInstalled (config : Fields) (slug : String) : Bool :=
  (installedList config).any (·.strictEq (.str slug))

def withInstalled (config : Fields) (items : List Json) : Fields :=
  config.set "installed_modules" (.arr items)

def installModule (slug : String) (config : Fields) : Overwrites.Plan Fields :=
  if isInstalled config slug then .idle
  else .write fun _ => withInstalled config (installedList config ++ [.str slug])

def uninstallModule (slug : String) (config : Fields) : Overwrites.Plan Fields :=
  if isInstalled config slug then
    .write fun _ =>
      withInstalled config ((installedList config).filter fun m => !m.strictEq (.str slug))
  else .idle

def setTenantRateLimitOverride (ratePerMin : Option Rat) (config : Fields) : Fields :=
  match ratePerMin with
  | none => config.erase "rate_limit_per_min"
  | some rate => config.set "rate_limit_per_min" (.num rate)

inductive ConfigOp
  | installModule (slug : String)
  | uninstallModule (slug : String)
  | setTenantRateLimitOverride (ratePerMin : Option Rat)

namespace ConfigOp

def way : ConfigOp → Way Fields
  | .installModule slug => .rewrite (OpenWind.installModule slug)
  | .uninstallModule slug => .rewrite (OpenWind.uninstallModule slug)
  | .setTenantRateLimitOverride rate =>
    .statement fun config => some (OpenWind.setTenantRateLimitOverride rate config)

end ConfigOp

/-! ## What the calls set -/

/-- A module that may be listed, or a key other than the list of them. -/
inductive ConfigPart
  | module (slug : String)
  | key (name : String) (other : name ≠ "installed_modules")

abbrev ConfigPart.Value : ConfigPart → Type
  | .module _ => Bool
  | .key _ _ => Option Json

def ConfigPart.read (config : Fields) : (part : ConfigPart) → part.Value
  | .module slug => isInstalled config slug
  | .key name _ => config.get name

def ConfigOp.sets : ConfigOp → (part : ConfigPart) → Option part.Value
  | .installModule own, .module slug => if slug = own then some true else none
  | .uninstallModule own, .module slug => if slug = own then some false else none
  | .setTenantRateLimitOverride rate, .key name _ =>
    if name = "rate_limit_per_min" then some (rate.map .num) else none
  | .setTenantRateLimitOverride _, .module _ => none
  | _, .key _ _ => none

theorem rateLimit_other : "rate_limit_per_min" ≠ "installed_modules" := by decide

def ConfigPart.rateLimit : ConfigPart := .key "rate_limit_per_min" rateLimit_other

structure ConfigReflects (init : Fields) (w : Overwrites.World Fields ConfigOp) : Prop where
  modules : ∀ slug, isInstalled w.value slug =
    (lastSet ConfigOp.sets w.log (.module slug)).getD (isInstalled init slug)
  rateLimit : w.value.get "rate_limit_per_min" =
    (lastSet ConfigOp.sets w.log .rateLimit).getD (init.get "rate_limit_per_min")
  others : ∀ key, key ≠ "installed_modules" → key ≠ "rate_limit_per_min" →
    w.value.get key = init.get key

def ConfigOp.UpToDate : ConfigOp → (source current : Fields) → Prop
  | .installModule own, source, current | .uninstallModule own, source, current =>
    (∀ slug, slug ≠ own → isInstalled source slug = isInstalled current slug) ∧
      ∀ key, key ≠ "installed_modules" → source.get key = current.get key
  | .setTenantRateLimitOverride _, _, _ => True

/-! ## Their effects -/

section Effects

variable {config : Fields} {items : List Json} {slug own : String}

theorem installedList_with : installedList (withInstalled config items) = items := by
  unfold installedList withInstalled
  rw [Fields.get_set_self]

theorem isInstalled_with :
    isInstalled (withInstalled config items) slug = items.any (·.strictEq (.str slug)) := by
  rw [isInstalled, installedList_with]

variable {key : String} {edit : Fields → Fields}

theorem get_with (other : key ≠ "installed_modules") :
    (withInstalled config items).get key = config.get key :=
  Fields.get_set_ne config _ other

theorem any_append_slug :
    (items ++ [Json.str own]).any (·.strictEq (.str slug)) =
      (items.any (·.strictEq (.str slug)) || own == slug) := by
  rw [List.any_append, List.any_cons, List.any_nil, Bool.or_false]
  rfl

theorem installModule_write (writes : installModule own config = .write edit) (current : Fields) :
    (∀ slug, isInstalled (edit current) slug = (isInstalled config slug || own == slug)) ∧
      ∀ key, key ≠ "installed_modules" → (edit current).get key = config.get key := by
  unfold installModule at writes
  split at writes
  · cases writes
  · cases writes
    exact ⟨fun slug => by rw [isInstalled_with, any_append_slug]; rfl, fun key => get_with⟩

theorem uninstallModule_write (writes : uninstallModule own config = .write edit) (current : Fields) :
    (∀ slug, isInstalled (edit current) slug = (isInstalled config slug && slug != own)) ∧
      ∀ key, key ≠ "installed_modules" → (edit current).get key = config.get key := by
  unfold uninstallModule at writes
  split at writes
  · cases writes
    exact ⟨fun slug => by rw [isInstalled_with, Json.any_filter_str]; rfl, fun key => get_with⟩
  · cases writes

theorem setRate_get (rate : Option Rat) :
    (setTenantRateLimitOverride rate config).get "rate_limit_per_min" = rate.map .num := by
  cases rate with
  | none => exact Fields.get_erase_self config _
  | some rate => exact Fields.get_set_self config _ _

theorem setRate_other (rate : Option Rat) (other : key ≠ "rate_limit_per_min") :
    (setTenantRateLimitOverride rate config).get key = config.get key := by
  cases rate with
  | none => exact Fields.get_erase_ne config other
  | some rate => exact Fields.get_set_ne config _ other

theorem setRate_installed (rate : Option Rat) :
    isInstalled (setTenantRateLimitOverride rate config) slug = isInstalled config slug := by
  unfold isInstalled installedList
  rw [setRate_other rate rateLimit_other.symm]

end Effects

/-! ## The condition -/

theorem module_sets_iff {op : ConfigOp} {own : String} {listed : Bool}
    (sets : op.sets = (ConfigOp.installModule own).sets ∧ listed ∨
      op.sets = (ConfigOp.uninstallModule own).sets ∧ listed = false)
    {source current written : Fields} (at' : isInstalled written own = listed)
    (modules : ∀ slug, slug ≠ own → isInstalled written slug = isInstalled source slug)
    (keys : ∀ key, key ≠ "installed_modules" → written.get key = source.get key) :
    ((∀ slug, slug ≠ own → isInstalled source slug = isInstalled current slug) ∧
      ∀ key, key ≠ "installed_modules" → source.get key = current.get key) ↔
    ∀ part, ConfigPart.read written part = (op.sets part).getD (ConfigPart.read current part) := by
  have onOwn : op.sets (.module own) = some listed := by
    rcases sets with ⟨sets, rfl⟩ | ⟨sets, rfl⟩
    · rw [sets]
      exact if_pos rfl
    · rw [sets]
      exact if_pos rfl
  have onModule : ∀ slug, slug ≠ own → op.sets (.module slug) = none := by
    intro slug other
    rcases sets with ⟨sets, -⟩ | ⟨sets, -⟩
    · rw [sets]
      exact if_neg other
    · rw [sets]
      exact if_neg other
  have onKey : ∀ key other, op.sets (.key key other) = none := by
    intro key other
    rcases sets with ⟨sets, -⟩ | ⟨sets, -⟩
    · rw [sets]
      rfl
    · rw [sets]
      rfl
  constructor
  · rintro ⟨listedAs, held⟩ (slug | ⟨key, other⟩)
    · by_cases own' : slug = own
      · subst own'
        rw [onOwn]
        exact at'
      · rw [onModule slug own']
        exact (modules slug own').trans (listedAs slug own')
    · rw [onKey key other]
      exact (keys key other).trans (held key other)
  · intro reads
    constructor
    · intro slug other
      have read := reads (.module slug)
      rw [onModule slug other] at read
      exact (modules slug other).symm.trans read
    · intro key other
      have read := reads (.key key other)
      rw [onKey key other] at read
      exact (keys key other).symm.trans read

theorem upToDate_iff {op : ConfigOp} {source current written : Fields}
    (made : Made ConfigOp.way op source current written) :
    op.UpToDate source current ↔
      ∀ part, ConfigPart.read written part = (op.sets part).getD (ConfigPart.read current part) := by
  cases made with
  | idle rewrites nothing =>
    cases op with
    | installModule own =>
      cases rewrites
      have listed : isInstalled source own := by
        unfold installModule at nothing
        split at nothing
        · assumption
        · cases nothing
      exact module_sets_iff (.inl ⟨rfl, rfl⟩) listed (fun _ _ => rfl) fun _ _ => rfl
    | uninstallModule own =>
      cases rewrites
      have unlisted : isInstalled source own = false := by
        unfold uninstallModule at nothing
        split at nothing
        · cases nothing
        · next absent => exact Bool.eq_false_iff.mpr absent
      exact module_sets_iff (.inr ⟨rfl, rfl⟩) unlisted (fun _ _ => rfl) fun _ _ => rfl
    | setTenantRateLimitOverride rate => cases rewrites
  | edited edits writes =>
    cases op with
    | installModule own => cases edits
    | uninstallModule own => cases edits
    | setTenantRateLimitOverride rate =>
      cases edits
      cases writes
      refine ⟨fun _ part => ?_, fun _ => trivial⟩
      rcases part with slug | ⟨key, other⟩
      · exact setRate_installed rate
      · by_cases own : key = "rate_limit_per_min"
        · subst own
          exact setRate_get rate
        · change _ = getD (if key = "rate_limit_per_min" then _ else _) _
          rw [if_neg own]
          exact setRate_other rate own
  | rewritten rewrites writes =>
    cases op with
    | installModule own =>
      cases rewrites
      obtain ⟨modules, keys⟩ := installModule_write writes current
      refine module_sets_iff (.inl ⟨rfl, rfl⟩) ?_ (fun slug other => ?_) keys
      · rw [modules own, beq_self_eq_true, Bool.or_true]
      · rw [modules slug, beq_eq_false_iff_ne.mpr (Ne.symm other), Bool.or_false]
    | uninstallModule own =>
      cases rewrites
      obtain ⟨modules, keys⟩ := uninstallModule_write writes current
      refine module_sets_iff (.inr ⟨rfl, rfl⟩) ?_ (fun slug other => ?_) keys
      · rw [modules own, bne_self_eq_false, Bool.and_false]
      · rw [modules slug, bne_iff_ne.mpr other, Bool.and_true]
    | setTenantRateLimitOverride rate => cases rewrites

/-! ## Runs -/

theorem sets_other {op : ConfigOp} {key : String} (other : key ≠ "installed_modules")
    (free : key ≠ "rate_limit_per_min") : op.sets (.key key other) = none := by
  cases op with
  | setTenantRateLimitOverride rate => exact if_neg free
  | _ => rfl

theorem configReflects_iff {init : Fields} {w : Overwrites.World Fields ConfigOp} :
    ConfigReflects init w ↔ Reflects ConfigOp.sets ConfigPart.read init w := by
  constructor
  · rintro ⟨modules, rateLimit, others⟩ (slug | ⟨key, other⟩)
    · exact modules slug
    · by_cases own : key = "rate_limit_per_min"
      · subst own
        exact rateLimit
      · rw [settled_untouched _ _ fun op _ => sets_other other own]
        exact others key other own
  · intro reflects
    refine ⟨fun slug => reflects (.module slug), reflects .rateLimit, fun key other own => ?_⟩
    have untouched : settled ConfigOp.sets (ConfigPart.read init) w.log (.key key other) =
        ConfigPart.read init (.key key other) :=
      settled_untouched _ _ fun op _ => sets_other other own
    exact (reflects (.key key other)).trans untouched

/-- Every call that has committed is reflected throughout a run exactly when every installation
and uninstallation that commits read a configuration which agrees, apart from its own module,
with the one that it overwrites. -/
theorem config_reflects_iff (init : Fields) (labels : List (Label ConfigOp)) :
    Always (step ConfigOp.way) (ConfigReflects init) (initial init) labels ↔
      Guarded (step ConfigOp.way) (Under ConfigOp.way ConfigOp.UpToDate) (initial init) labels := by
  have same : ConfigReflects init = Reflects ConfigOp.sets ConfigPart.read init :=
    funext fun w => propext configReflects_iff
  rw [same]
  exact reflects_iff upToDate_iff init labels

/-! ## Calls that undo one another -/

namespace ConfigSample

def seeded : Fields := [("timezone", .str "UTC"), ("installed_modules", .arr [])]

def bothInstalled : List (Label ConfigOp) :=
  [.start (.installModule "helpdesk"), .start (.installModule "assets"), .read 0, .read 1,
    .write 0, .write 1]

/-- The rate limit is set while a module's tables are seeded. -/
def limitedMeanwhile : List (Label ConfigOp) :=
  [.start (.installModule "helpdesk"), .read 0, .start (.setTenantRateLimitOverride (some 600)),
    .write 1, .write 0]

end ConfigSample

open ConfigSample in
/-- The second installation takes the first module off the list, and an installation resets the
rate limit. -/
theorem config_lost :
    (∃ w, run (step ConfigOp.way) (initial seeded) bothInstalled = some w ∧
      ¬ConfigReflects seeded w) ∧
    ∃ w, run (step ConfigOp.way) (initial seeded) limitedMeanwhile = some w ∧
      ¬ConfigReflects seeded w := by
  constructor
  · have lost : (run (step ConfigOp.way) (initial seeded) bothInstalled).any (fun w =>
        !isInstalled w.value "helpdesk" &&
          lastSet ConfigOp.sets w.log (.module "helpdesk") == some true) = true := by
      decide +kernel
    obtain ⟨w, ran, lost⟩ := (any_eq_true _ _).mp lost
    obtain ⟨unlisted, installed⟩ := Bool.and_eq_true_iff.mp lost
    refine ⟨w, ran, fun reflects => ?_⟩
    have listed := reflects.modules "helpdesk"
    rw [eq_of_beq installed, getD_some] at listed
    rw [listed] at unlisted
    cases unlisted
  · have lost : (run (step ConfigOp.way) (initial seeded) limitedMeanwhile).any (fun w =>
        (w.value.get "rate_limit_per_min").isNone &&
          (lastSet ConfigOp.sets w.log .rateLimit).any Option.isSome) = true := by
      decide +kernel
    obtain ⟨w, ran, lost⟩ := (any_eq_true _ _).mp lost
    obtain ⟨unlimited, limited⟩ := Bool.and_eq_true_iff.mp lost
    obtain ⟨rate, set', some'⟩ := (any_eq_true _ _).mp limited
    refine ⟨w, ran, fun reflects => ?_⟩
    have stored : w.value.get "rate_limit_per_min" = rate := by
      rw [reflects.rateLimit, set']
      rfl
    rw [stored] at unlimited
    cases rate with
    | none => cases some'
    | some rate => cases unlimited

end OpenWind
