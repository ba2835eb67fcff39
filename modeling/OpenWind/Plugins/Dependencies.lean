import OpenWind.Plugins.Lifecycle
import OpenWind.Lib.Requirements

/-!
# Dependencies of plugins

An installation is refused when a required plugin has no row for the tenant.  An uninstalled
plugin keeps its row, and nothing looks at what requires it.
-/

open List Option

namespace OpenWind

open Runs

namespace PluginDb

def RequirementsMet (catalog : PluginCatalog) (db : PluginDb) : Prop :=
  ∀ tenantId, Requirements.Met (db.active catalog tenantId)

def Reinstallable (env : PluginEnv) (catalog : PluginCatalog) (db : PluginDb) : Prop :=
  ∀ tenantId slug plugin row, catalog.find slug = some plugin →
    db.row tenantId plugin.id = some row → row.status = .disabled →
      ∀ opts manifest, parseManifest opts.manifest = .ok manifest →
        (∀ dep ∈ requiredPlugins manifest, (db.active catalog tenantId dep).isSome = true) →
        isPlatformVersionCompatible ((manifest.text "platformVersion").getD "")
          CURRENT_PLATFORM_VERSION = true →
        env.lintPluginMigration opts.migrationSql = [] →
          ∃ id, (installPlugin env catalog tenantId slug opts { id } db).1 = .ok id


end PluginDb

/-! ## The conditions -/

def PluginDb.KeepsRequired (env : PluginEnv) (catalog : PluginCatalog) (db : PluginDb) :
    PluginLabel → Prop
  | .install tenantId slug opts chance => ∀ plugin manifest,
      chance.id ∉ db.installed.map (·.id) →
        Installs env catalog tenantId slug opts chance db plugin manifest →
          ∀ dep ∈ requiredPlugins manifest, (db.active catalog tenantId dep).isSome = true
  | .uninstall tenantId slug retainData chance => ∀ plugin row,
      Uninstalls catalog tenantId slug retainData chance db plugin row →
        ∀ other required, other ≠ slug → db.active catalog tenantId other = some required →
          slug ∉ required

/-- Nothing is uninstalled. -/
def PluginDb.KeepsInstalled (catalog : PluginCatalog) (db : PluginDb) : PluginLabel → Prop
  | .install _ _ _ _ => True
  | .uninstall tenantId slug retainData chance =>
    ¬∃ plugin row, Uninstalls catalog tenantId slug retainData chance db plugin row

namespace PluginDb

variable {env : PluginEnv} {catalog : PluginCatalog} {db db' : PluginDb} {tenantId : Id}
  {slug : String}

/-! ## One call -/

variable {label : PluginLabel} {opts : InstallPluginOptions} {chance : PluginChance}
  {plugin : PluginDefinition} {manifest : Fields} {retainData : Bool} {row : InstalledPlugin}

theorem step_keyed (keyed : db.Keyed) (stepped : db.step env catalog label = some db') :
    db'.Keyed := by
  cases label with
  | install tenantId slug opts chance =>
    rw [step] at stepped
    split at stepped
    · cases stepped
    · next fresh =>
      cases stepped
      rcases installPlugin_cases env catalog tenantId slug opts chance db with
        ⟨plugin, manifest, installs⟩ | same
      · rw [installPlugin_of installs]
        exact keyed.installs fresh installs.unlisted
      · exact ⟨same ▸ keyed.ids, same ▸ keyed.pairs⟩
  | uninstall tenantId slug retainData chance =>
    cases stepped
    rcases uninstallPlugin_cases catalog tenantId slug retainData chance db with
      ⟨plugin, row, uninstalls⟩ | same
    · rw [uninstallPlugin_of uninstalls]
      exact keyed.disables row.id
    · exact ⟨same ▸ keyed.ids, same ▸ keyed.pairs⟩

theorem requirementsMet_congr (same : db'.installed = db.installed) :
    db'.RequirementsMet catalog ↔ db.RequirementsMet catalog := by
  unfold RequirementsMet
  simp only [active_congr same]

theorem requirementsMet_update_iff {items : String → Option (List String)}
    (met : db.RequirementsMet catalog)
    (changes : ∀ tenant, db'.active catalog tenant =
      if tenant = tenantId then items else db.active catalog tenant) :
    db'.RequirementsMet catalog ↔ Requirements.Met items := by
  unfold RequirementsMet
  constructor
  · intro after
    have own := after tenantId
    rw [changes, if_pos rfl] at own
    exact own
  · intro own tenant
    rw [changes]
    split
    · exact own
    · exact met tenant

theorem installs_met_iff (met : db.RequirementsMet catalog)
    (installs : Installs env catalog tenantId slug opts chance db plugin manifest) :
    (installPlugin env catalog tenantId slug opts chance db).2.RequirementsMet catalog ↔
      ∀ dep ∈ requiredPlugins manifest, (db.active catalog tenantId dep).isSome := by
  have inactive : db.active catalog tenantId slug = none := by
    rw [active_of_found installs.found, installs.unlisted, bind_none]
  have changes : ∀ tenant,
      (installPlugin env catalog tenantId slug opts chance db).2.active catalog tenant =
        if tenant = tenantId then
          Function.update (db.active catalog tenantId) slug (some (requiredPlugins manifest))
        else db.active catalog tenant := by
    intro tenant
    rw [installPlugin_of installs, active_installs installs tenant]
    split
    · next own => rw [own]
    · rfl
  rw [requirementsMet_update_iff met changes, Requirements.met_activate_iff (met tenantId) inactive]
  constructor
  · intro active dep mem
    rcases active dep mem with rfl | active
    · -- a plugin that requires itself has no row yet
      have own := installs.listed dep mem
      unfold installedSlugs at own
      simp only [mem_flatMap, mem_filter, List.mem_map, beq_iff_eq] at own
      obtain ⟨row, ⟨listed, tenant⟩, plugin', ⟨defined, joined⟩, named⟩ := own
      have found := PluginCatalog.find_eq_some.mpr ⟨defined, named⟩
      rw [installs.found, Option.some.injEq] at found
      have absent := find?_eq_none.mp installs.unlisted row listed
      simp [tenant, found, joined] at absent
    · exact active
  · intro active dep mem
    exact .inr (active dep mem)

theorem uninstalls_met_iff (keyed : db.Keyed) (met : db.RequirementsMet catalog)
    (uninstalls : Uninstalls catalog tenantId slug retainData chance db plugin row) :
    (uninstallPlugin catalog tenantId slug retainData chance db).2.RequirementsMet catalog ↔
      ∀ other required, other ≠ slug → db.active catalog tenantId other = some required →
        slug ∉ required := by
  have changes : ∀ tenant,
      (uninstallPlugin catalog tenantId slug retainData chance db).2.active catalog tenant =
        if tenant = tenantId then Function.update (db.active catalog tenantId) slug none
        else db.active catalog tenant := by
    intro tenant
    rw [uninstallPlugin_of uninstalls, active_uninstalls keyed uninstalls tenant]
    split
    · next own => rw [own]
    · rfl
  rw [requirementsMet_update_iff met changes, Requirements.met_deactivate_iff (met tenantId)]

theorem step_met_iff (keyed : db.Keyed) (met : db.RequirementsMet catalog) :
    db.KeepsRequired env catalog label ↔
      ∀ db', db.step env catalog label = some db' → db'.RequirementsMet catalog := by
  cases label with
  | install tenantId slug opts chance =>
    constructor
    · intro keeps db' stepped
      rw [step] at stepped
      split at stepped
      · cases stepped
      · next fresh =>
        cases stepped
        rcases installPlugin_cases env catalog tenantId slug opts chance db with
          ⟨plugin, manifest, installs⟩ | same
        · exact (installs_met_iff met installs).mpr (keeps plugin manifest fresh installs)
        · exact (requirementsMet_congr same).mpr met
    · intro kept plugin manifest fresh installs
      exact (installs_met_iff met installs).mp (kept _ (if_neg fresh))
  | uninstall tenantId slug retainData chance =>
    constructor
    · intro keeps db' stepped
      cases stepped
      rcases uninstallPlugin_cases catalog tenantId slug retainData chance db with
        ⟨plugin, row, uninstalls⟩ | same
      · exact (uninstalls_met_iff keyed met uninstalls).mpr (keeps plugin row uninstalls)
      · exact (requirementsMet_congr same).mpr met
    · intro kept plugin row uninstalls
      exact (uninstalls_met_iff keyed met uninstalls).mp (kept _ rfl)

/-! ## Installing again -/

/-- A manifest that requires nothing. -/
def plainManifest : Fields :=
  [("id", .str "plugin"), ("name", .str "Plugin"), ("version", .str "1"),
    ("platformVersion", .str "1.0.0"), ("permissions", .arr [])]

def Enabled (catalog : PluginCatalog) (db : PluginDb) : Prop :=
  ∀ tenantId slug plugin row, catalog.find slug = some plugin →
    db.row tenantId plugin.id = some row → row.status ≠ .disabled

theorem reinstallable_iff (lints : env.lintPluginMigration "" = []) :
    db.Reinstallable env catalog ↔ db.Enabled catalog := by
  constructor
  · intro again tenantId slug plugin row found listed disabled
    obtain ⟨id, installed⟩ := again tenantId slug plugin row found listed disabled
      ⟨.obj plainManifest, ""⟩ plainManifest (by rfl) (by intro dep mem; cases mem)
      (by decide +kernel) lints
    simp [installPlugin, found, listed] at installed
  · intro enabled tenantId slug plugin row found listed disabled
    exact absurd disabled (enabled tenantId slug plugin row found listed)

theorem enabled_congr (same : db'.installed = db.installed) :
    db'.Enabled catalog ↔ db.Enabled catalog := by
  unfold Enabled PluginDb.row
  rw [same]

theorem enabled_installs (enabled : db.Enabled catalog)
    (installs : Installs env catalog tenantId slug opts chance db plugin manifest) :
    (installPlugin env catalog tenantId slug opts chance db).2.Enabled catalog := by
  rw [installPlugin_of installs]
  intro tenant slug' plugin' row found listed disabled
  unfold PluginDb.row at listed
  rw [find?_append, or_eq_some_iff] at listed
  rcases listed with old | ⟨-, new⟩
  · exact enabled tenant slug' plugin' row found old disabled
  · rw [mem_singleton.mp (mem_of_find?_eq_some new)] at disabled
    cases disabled

theorem not_enabled_uninstalls (keyed : db.Keyed)
    (uninstalls : Uninstalls catalog tenantId slug retainData chance db plugin row) :
    ¬(uninstallPlugin catalog tenantId slug retainData chance db).2.Enabled catalog := by
  rw [uninstallPlugin_of uninstalls]
  intro enabled
  obtain ⟨mem, own, joined⟩ := (row_eq_some keyed).mp uninstalls.listed
  refine enabled tenantId slug plugin { row with status := .disabled } uninstalls.found ?_ rfl
  apply (row_eq_some (keyed.disables row.id)).mpr
  exact ⟨List.mem_map.mpr ⟨row, mem, if_pos rfl⟩, own, joined⟩

theorem step_enabled_iff (keyed : db.Keyed) (enabled : db.Enabled catalog) :
    db.KeepsInstalled catalog label ↔
      ∀ db', db.step env catalog label = some db' → db'.Enabled catalog := by
  cases label with
  | install tenantId slug opts chance =>
    refine ⟨fun _ db' stepped => ?_, fun _ => trivial⟩
    rw [step] at stepped
    split at stepped
    · cases stepped
    · cases stepped
      rcases installPlugin_cases env catalog tenantId slug opts chance db with
        ⟨plugin, manifest, installs⟩ | same
      · exact enabled_installs enabled installs
      · exact (enabled_congr same).mpr enabled
  | uninstall tenantId slug retainData chance =>
    constructor
    · intro keeps db' stepped
      cases stepped
      rcases uninstallPlugin_cases catalog tenantId slug retainData chance db with
        uninstalls | same
      · exact absurd uninstalls keeps
      · exact (enabled_congr same).mpr enabled
    · intro kept uninstalls
      obtain ⟨plugin, row, uninstalls⟩ := uninstalls
      exact not_enabled_uninstalls keyed uninstalls (kept _ rfl)

/-! ## Runs -/

theorem empty_keyed : empty.Keyed := ⟨nodup_nil, nodup_nil⟩

theorem empty_met : empty.RequirementsMet catalog := by
  intro tenantId slug required holds
  unfold active at holds
  cases found : catalog.find slug <;> simp [found, PluginDb.row, empty] at holds

theorem empty_enabled : empty.Enabled catalog := by
  intro tenantId slug plugin row found listed
  cases listed

end PluginDb

/-- What active plugins require is active throughout a run exactly when every installation that
gets past the checks requires active plugins only, and no plugin is uninstalled that another
active one requires.  A plugin that was uninstalled can be installed again throughout a run
exactly when no plugin is uninstalled. -/
theorem plugin_dependencies_iff {env : PluginEnv} (lints : env.lintPluginMigration "" = [])
    (catalog : PluginCatalog) (labels : List PluginLabel) :
    (Always (PluginDb.step env catalog) (PluginDb.RequirementsMet catalog) PluginDb.empty labels ↔
        Guarded (PluginDb.step env catalog) (PluginDb.KeepsRequired env catalog) PluginDb.empty
          labels) ∧
      (Always (PluginDb.step env catalog) (PluginDb.Reinstallable env catalog) PluginDb.empty
          labels ↔
        Guarded (PluginDb.step env catalog) (PluginDb.KeepsInstalled catalog) PluginDb.empty
          labels) := by
  have same : PluginDb.Reinstallable env catalog = PluginDb.Enabled catalog :=
    funext fun db => propext (PluginDb.reinstallable_iff lints)
  rw [same]
  constructor
  · exact guarded_iff (fun keyed _ stepped _ => PluginDb.step_keyed keyed stepped)
      (fun keyed met => PluginDb.step_met_iff keyed met) PluginDb.empty_keyed PluginDb.empty_met
  · exact guarded_iff (fun keyed _ stepped _ => PluginDb.step_keyed keyed stepped)
      (fun keyed enabled => PluginDb.step_enabled_iff keyed enabled) PluginDb.empty_keyed
      PluginDb.empty_enabled

/-! ## A plugin that rests on another -/

namespace PluginSample

/-- The lint finds nothing. -/
def env : PluginEnv := ⟨fun _ => []⟩

def catalog : PluginCatalog where
  definitions := [⟨1, "crm"⟩, ⟨2, "quotes"⟩]
  ids := by decide
  slugs := by decide

def crm : PluginLabel := .install 7 "crm" ⟨.obj PluginDb.plainManifest, ""⟩ { id := 100 }

def quotes : PluginLabel :=
  .install 7 "quotes" ⟨.obj (("requires", .arr [.str "crm"]) :: PluginDb.plainManifest), ""⟩
    { id := 101 }

def dropCrm : PluginLabel := .uninstall 7 "crm" true {}

end PluginSample

open PluginSample in
/-- The plugin that rests on the other stays active without it, and is installed without it; and
a plugin that was uninstalled is not installed again. -/
theorem requirement_gone :
    ((∃ db, run (PluginDb.step env catalog) PluginDb.empty [crm, quotes, dropCrm] = some db ∧
        ¬db.RequirementsMet catalog) ∧
      ∃ db, run (PluginDb.step env catalog) PluginDb.empty [crm, dropCrm, quotes] = some db ∧
        ¬db.RequirementsMet catalog) ∧
    ∃ db, run (PluginDb.step env catalog) PluginDb.empty [crm, dropCrm] = some db ∧
      ¬db.Reinstallable env catalog := by
  have broken : ∀ db : PluginDb, (db.active catalog 7 "quotes" == some ["crm"] &&
      db.active catalog 7 "crm" == none) → ¬db.RequirementsMet catalog := by
    intro db facts met
    obtain ⟨holds, missing⟩ := Bool.and_eq_true_iff.mp facts
    have active := met 7 "quotes" ["crm"] (eq_of_beq holds) "crm" mem_cons_self
    rw [eq_of_beq missing] at active
    cases active
  refine ⟨⟨?_, ?_⟩, ?_⟩
  · have reached : (run (PluginDb.step env catalog) PluginDb.empty [crm, quotes, dropCrm]).any
        (fun db => db.active catalog 7 "quotes" == some ["crm"] &&
          db.active catalog 7 "crm" == none) = true := by
      decide +kernel
    obtain ⟨db, ran, facts⟩ := (Option.any_eq_true _ _).mp reached
    exact ⟨db, ran, broken db facts⟩
  · have reached : (run (PluginDb.step env catalog) PluginDb.empty [crm, dropCrm, quotes]).any
        (fun db => db.active catalog 7 "quotes" == some ["crm"] &&
          db.active catalog 7 "crm" == none) = true := by
      decide +kernel
    obtain ⟨db, ran, facts⟩ := (Option.any_eq_true _ _).mp reached
    exact ⟨db, ran, broken db facts⟩
  · have reached : (run (PluginDb.step env catalog) PluginDb.empty [crm, dropCrm]).any (fun db =>
        (db.row 7 1).any fun row => row.status == .disabled) = true := by
      decide +kernel
    obtain ⟨db, ran, facts⟩ := (Option.any_eq_true _ _).mp reached
    obtain ⟨row, listed, disabled⟩ := (Option.any_eq_true _ _).mp facts
    refine ⟨db, ran, fun again => ?_⟩
    exact (PluginDb.reinstallable_iff rfl).mp again 7 "crm" ⟨1, "crm"⟩ row rfl listed
      (eq_of_beq disabled)

theorem PluginSample.required {given : Json} {manifest : Fields} {required : List String}
    (requires : ((parseManifest given).toOption.map requiredPlugins) = some required)
    (parsed : parseManifest given = .ok manifest) : requiredPlugins manifest = required := by
  rw [parsed] at requires
  exact Option.some.inj requires

open PluginSample in
/-- The plugins are installed in the order of their requirements, and both stay. -/
theorem plugin_dependencies_installed :
    Always (PluginDb.step env catalog) (PluginDb.RequirementsMet catalog) PluginDb.empty
        [crm, quotes] ∧
      Always (PluginDb.step env catalog) (PluginDb.Reinstallable env catalog) PluginDb.empty
        [crm, quotes] := by
  have lints : env.lintPluginMigration "" = [] := rfl
  obtain ⟨met, again⟩ := plugin_dependencies_iff lints catalog [crm, quotes]
  refine ⟨met.mpr ⟨?_, fun db stepped => ⟨?_, fun _ _ => trivial⟩⟩,
    again.mpr ⟨trivial, fun _ _ => ⟨trivial, fun _ _ => trivial⟩⟩⟩
  · intro plugin manifest _ installs dep mem
    rw [required (by decide +kernel : _ = some []) installs.parsed] at mem
    cases mem
  · intro plugin manifest _ installs dep mem
    rw [required (by decide +kernel : _ = some ["crm"]) installs.parsed, mem_singleton] at mem
    subst mem
    cases stepped
    decide +kernel

end OpenWind
