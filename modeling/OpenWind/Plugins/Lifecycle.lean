import OpenWind.Entity.Validation
import OpenWind.Lib.Runs
import OpenWind.Lib.Rows

/-!
# Plugins of a tenant

A tenant installs a plugin of the catalog with a manifest, which names the plugins that it
requires, and uninstalls it again.  An uninstalled plugin keeps its row, with the status
`disabled`.
-/

open Option Function

namespace OpenWind

open Runs

/-! ## Manifests -/

def PluginPermissionSchema : ValueSchema :=
  stringSchema fun s => issueUnless
    (["db:", "events:", "slots:", "api:"].any (startsWith s) ||
      ["ai:inference", "files:read", "files:write"].contains s) .invalidValue

def ValueSchema.orMissing (schema : ValueSchema) : ValueSchema := { schema with optional := true }

def anyText : ValueSchema := stringSchema fun _ => []

/-- `z.array(item)`. -/
def listSchema (item : ValueSchema) : ValueSchema where
  optional := false
  missing := ⟨[], .invalidType true⟩
  parse
    | .arr items =>
      match items.zipIdx.flatMap fun (value, index) => itemIssues item value index with
      | [] => .ok (.arr (items.filterMap item.value))
      | issues => .error issues
    | _ => wrongType

/-- `z.object(entries)`: other keys are dropped. -/
def objectSchema (entries : List (String × ValueSchema)) : ValueSchema where
  optional := false
  missing := ⟨[], .invalidType true⟩
  parse
    | .obj object =>
      match Shape.parse ZodIssue.under object entries with
      | .ok parsed => .ok (.obj parsed)
      | .error issues => .error issues
    | _ => wrongType

def SlotRegistrationSchema : ValueSchema :=
  objectSchema [
    ("name", nonEmptyText),
    ("component", nonEmptyText),
    ("priority", (numberSchema fun _ => []).orMissing),
    ("context", (listSchema anyText).orMissing)]

def PageRegistrationSchema : ValueSchema :=
  objectSchema [
    ("path", nonEmptyText),
    ("component", nonEmptyText),
    ("title", nonEmptyText),
    ("icon", anyText.orMissing)]

def pluginManifestEntries : List (String × ValueSchema) := [
  ("id", nonEmptyText),
  ("name", nonEmptyText),
  ("version", nonEmptyText),
  ("platformVersion", nonEmptyText),
  ("description", anyText.orMissing),
  ("authorUrl", anyText.orMissing),
  ("requires", (listSchema anyText).orMissing),
  ("permissions", listSchema PluginPermissionSchema),
  ("migrations", anyText.orMissing),
  ("routes", anyText.orMissing),
  ("hooks", anyText.orMissing),
  ("jobs", anyText.orMissing),
  ("ui", (objectSchema [
    ("remote", nonEmptyText),
    ("slots", (listSchema SlotRegistrationSchema).orMissing),
    ("pages", (listSchema PageRegistrationSchema).orMissing)]).orMissing),
  ("onActivate", anyText.orMissing),
  ("onDeactivate", anyText.orMissing)]

def parseManifest : Json → Except (List ZodIssue) Fields
  | .obj manifest => Shape.parse ZodIssue.under manifest pluginManifestEntries
  | _ => .error [⟨[], .invalidType false⟩]

def requiredPlugins (manifest : Fields) : List String :=
  match manifest.get "requires" with
  | some (.arr items) => items.filterMap fun
    | .str s => some s
    | _ => none
  | _ => []

/-! ## Versions of the platform -/

def CURRENT_PLATFORM_VERSION : String := "1.0.0"

structure ParsedVersion where
  major : Nat
  minor : Nat
  patch : Nat

/-- `\d+` -/
def parseDigits (digits : List Char) : Option Nat :=
  if digits ≠ [] ∧ digits.all Char.isDigit then
    some (digits.foldl (fun n c => 10 * n + (c.toNat - '0'.toNat)) 0)
  else none

def parseVersion (version : List Char) : Option ParsedVersion :=
  match version.splitOn '.' with
  | [major, minor, patch] => do
    return ⟨← parseDigits major, ← parseDigits minor, ← parseDigits patch⟩
  | _ => none

def ParsedVersion.atLeast (a b : ParsedVersion) : Bool :=
  if a.major ≠ b.major then decide (b.major < a.major)
  else if a.minor ≠ b.minor then decide (b.minor < a.minor)
  else decide (b.patch ≤ a.patch)

/-- What cannot be parsed is incompatible. -/
def isPlatformVersionCompatible (range platformVersion : String) : Bool :=
  match parseVersion platformVersion.toList with
  | none => false
  | some platform =>
    if startsWith range ">=" then
      (parseVersion (trim (String.ofList (range.toList.drop 2))).toList).any platform.atLeast
    else if startsWith range "^" then
      (parseVersion (trim (String.ofList (range.toList.drop 1))).toList).any fun min =>
        platform.major == min.major && platform.atLeast min
    else
      (parseVersion range.toList).any fun exact => platform.atLeast exact && exact.atLeast platform

/-! ## The tables -/

structure PluginDefinition where
  id : Id
  slug : String

structure PluginCatalog where
  definitions : List PluginDefinition
  ids : (definitions.map (·.id)).Nodup
  slugs : (definitions.map (·.slug)).Nodup

inductive PluginStatus
  | installing | active | error | disabled
  deriving DecidableEq

/-- A row of `installed_plugins`. -/
structure InstalledPlugin where
  id : Id
  tenantId : Id
  pluginId : Id
  manifestSnapshot : Fields
  version : String
  status : PluginStatus

structure PluginError where
  tenantId : Id
  pluginId : Id
  stage : String
  error : String

structure PluginDb where
  installed : List InstalledPlugin
  errors : List PluginError

/-- `PluginLifecycleError`, by its code. -/
inductive PluginLifecycleError
  | pluginNotFound (pluginSlug : String)
  | alreadyInstalled (tenantId : Id) (pluginSlug : String)
  | notInstalled (tenantId : Id) (pluginSlug : String)
  | invalidManifest (pluginSlug : String) (issues : List ZodIssue)
  | missingDependency (pluginSlug : String) (missing : List String)
  | platformVersionIncompatible (pluginSlug required current : String)
  | migrationValidationFailed (pluginSlug : String) (violations : List String)
  | migrationFailed (pluginSlug error : String)
  | uninstallFailed (pluginSlug error : String)

/-! ## The service -/

structure PluginEnv where
  lintPluginMigration : String → List String

structure InstallPluginOptions where
  manifest : Json
  migrationSql : String

structure PluginChance where
  failure : Option String := none
  recorded : Bool := true
  id : Id := 0

namespace PluginCatalog

def find (catalog : PluginCatalog) (slug : String) : Option PluginDefinition :=
  catalog.definitions.find? fun plugin => plugin.slug == slug

end PluginCatalog

namespace PluginDb

def row (db : PluginDb) (tenantId pluginId : Id) : Option InstalledPlugin :=
  db.installed.find? fun row => row.tenantId == tenantId && row.pluginId == pluginId

def installedSlugs (db : PluginDb) (catalog : PluginCatalog) (tenantId : Id) : List String :=
  (db.installed.filter fun row => row.tenantId == tenantId).flatMap fun row =>
    (catalog.definitions.filter fun plugin => plugin.id == row.pluginId).map (·.slug)

def writeLifecycleError (db : PluginDb) (chance : PluginChance) (error : PluginError) : PluginDb :=
  if chance.recorded then { db with errors := db.errors ++ [error] } else db

def disable (db : PluginDb) (id : Id) : PluginDb :=
  { db with installed := db.installed.map fun row =>
      if row.id = id then { row with status := .disabled } else row }

end PluginDb

def newPluginRow (tenantId pluginId id : Id) (manifest : Fields) : InstalledPlugin :=
  { id, tenantId, pluginId, manifestSnapshot := manifest
    version := (manifest.text "version").getD "", status := .active }

def installPlugin (env : PluginEnv) (catalog : PluginCatalog) (tenantId : Id) (pluginSlug : String)
    (opts : InstallPluginOptions) (chance : PluginChance) (db : PluginDb) :
    Except PluginLifecycleError Id × PluginDb :=
  match catalog.find pluginSlug with
  | none => (.error (.pluginNotFound pluginSlug), db)
  | some plugin =>
    if (db.row tenantId plugin.id).isSome then (.error (.alreadyInstalled tenantId pluginSlug), db)
    else
      match parseManifest opts.manifest with
      | .error issues => (.error (.invalidManifest pluginSlug issues), db)
      | .ok manifest =>
        let missing := (requiredPlugins manifest).filter fun dep =>
          !(db.installedSlugs catalog tenantId).contains dep
        let range := (manifest.text "platformVersion").getD ""
        let violations := env.lintPluginMigration opts.migrationSql
        if missing ≠ [] then (.error (.missingDependency pluginSlug missing), db)
        else if !isPlatformVersionCompatible range CURRENT_PLATFORM_VERSION then
          (.error (.platformVersionIncompatible pluginSlug range CURRENT_PLATFORM_VERSION), db)
        else if violations ≠ [] then
          (.error (.migrationValidationFailed pluginSlug violations), db)
        else
          match chance.failure with
          | some error =>
            (.error (.migrationFailed pluginSlug error),
              db.writeLifecycleError chance ⟨tenantId, plugin.id, "run_migration", error⟩)
          | none =>
            (.ok chance.id, { db with
              installed := db.installed ++ [newPluginRow tenantId plugin.id chance.id manifest] })

def uninstallPlugin (catalog : PluginCatalog) (tenantId : Id) (pluginSlug : String)
    (retainData : Bool) (chance : PluginChance) (db : PluginDb) :
    Except PluginLifecycleError Unit × PluginDb :=
  match catalog.find pluginSlug with
  | none => (.error (.pluginNotFound pluginSlug), db)
  | some plugin =>
    match db.row tenantId plugin.id with
    | none => (.error (.notInstalled tenantId pluginSlug), db)
    | some installed =>
      match if retainData then none else chance.failure with
      | some error =>
        (.error (.uninstallFailed pluginSlug error),
          db.writeLifecycleError chance ⟨tenantId, plugin.id, "uninstall_purge", error⟩)
      | none => (.ok (), db.disable installed.id)

inductive PluginLabel
  | install (tenantId : Id) (pluginSlug : String) (opts : InstallPluginOptions)
    (chance : PluginChance)
  | uninstall (tenantId : Id) (pluginSlug : String) (retainData : Bool) (chance : PluginChance)

def PluginDb.step (env : PluginEnv) (catalog : PluginCatalog) (db : PluginDb) :
    PluginLabel → Option PluginDb
  | .install tenantId pluginSlug opts chance =>
    if chance.id ∈ db.installed.map (·.id) then none
    else some (installPlugin env catalog tenantId pluginSlug opts chance db).2
  | .uninstall tenantId pluginSlug retainData chance =>
    some (uninstallPlugin catalog tenantId pluginSlug retainData chance db).2

/-- Nothing is installed. -/
def PluginDb.empty : PluginDb := ⟨[], []⟩

/-! ## What a call does -/

/-- The call gets past every check of `installPlugin`. -/
structure Installs (env : PluginEnv) (catalog : PluginCatalog) (tenantId : Id) (pluginSlug : String)
    (opts : InstallPluginOptions) (chance : PluginChance) (db : PluginDb)
    (plugin : PluginDefinition) (manifest : Fields) : Prop where
  found : catalog.find pluginSlug = some plugin
  unlisted : db.row tenantId plugin.id = none
  parsed : parseManifest opts.manifest = .ok manifest
  listed : ∀ dep ∈ requiredPlugins manifest, dep ∈ db.installedSlugs catalog tenantId
  compatible : isPlatformVersionCompatible ((manifest.text "platformVersion").getD "")
    CURRENT_PLATFORM_VERSION = true
  lints : env.lintPluginMigration opts.migrationSql = []
  migrates : chance.failure = none

section Effects

variable {env : PluginEnv} {catalog : PluginCatalog} {tenantId : Id} {pluginSlug : String}
  {opts : InstallPluginOptions} {chance : PluginChance} {db : PluginDb}

theorem writeLifecycleError_installed (error : PluginError) :
    (db.writeLifecycleError chance error).installed = db.installed := by
  unfold PluginDb.writeLifecycleError
  split <;> rfl

theorem installPlugin_of {plugin : PluginDefinition} {manifest : Fields}
    (installs : Installs env catalog tenantId pluginSlug opts chance db plugin manifest) :
    installPlugin env catalog tenantId pluginSlug opts chance db =
      (.ok chance.id, { db with
        installed := db.installed ++ [newPluginRow tenantId plugin.id chance.id manifest] }) := by
  simpa [installPlugin, installs.found, installs.unlisted, installs.parsed, installs.compatible,
    installs.lints, installs.migrates] using installs.listed

theorem installPlugin_cases (env : PluginEnv) (catalog : PluginCatalog) (tenantId : Id)
    (pluginSlug : String) (opts : InstallPluginOptions) (chance : PluginChance) (db : PluginDb) :
    (∃ plugin manifest, Installs env catalog tenantId pluginSlug opts chance db plugin manifest) ∨
      (installPlugin env catalog tenantId pluginSlug opts chance db).2.installed =
        db.installed := by
  unfold installPlugin
  split
  · exact .inr rfl
  · next plugin found =>
    split
    · exact .inr rfl
    · next unlisted =>
      split
      · exact .inr rfl
      · next manifest parsed =>
        dsimp only
        split
        · exact .inr rfl
        · next listed =>
          split
          · exact .inr rfl
          · next compatible =>
            split
            · exact .inr rfl
            · next lints =>
              split
              · exact .inr (writeLifecycleError_installed _)
              · next migrates =>
                refine .inl ⟨plugin, manifest, found, by simpa using unlisted, parsed, ?_,
                  by simpa using compatible, by simpa using lints, migrates⟩
                intro dep mem
                have kept := List.filter_eq_nil_iff.mp (not_not.mp listed) dep mem
                simpa using kept

structure Uninstalls (catalog : PluginCatalog) (tenantId : Id) (pluginSlug : String)
    (retainData : Bool) (chance : PluginChance) (db : PluginDb) (plugin : PluginDefinition)
    (row : InstalledPlugin) : Prop where
  found : catalog.find pluginSlug = some plugin
  listed : db.row tenantId plugin.id = some row
  purges : retainData = true ∨ chance.failure = none

theorem uninstallPlugin_of {retainData : Bool} {plugin : PluginDefinition} {row : InstalledPlugin}
    (uninstalls : Uninstalls catalog tenantId pluginSlug retainData chance db plugin row) :
    uninstallPlugin catalog tenantId pluginSlug retainData chance db =
      (.ok (), db.disable row.id) := by
  have purged : (if retainData then none else chance.failure) = none := by
    rcases uninstalls.purges with kept | purges
    · simp [kept]
    · simp [purges]
  simp [uninstallPlugin, uninstalls.found, uninstalls.listed, purged]

theorem uninstallPlugin_cases (catalog : PluginCatalog) (tenantId : Id) (pluginSlug : String)
    (retainData : Bool) (chance : PluginChance) (db : PluginDb) :
    (∃ plugin row, Uninstalls catalog tenantId pluginSlug retainData chance db plugin row) ∨
      (uninstallPlugin catalog tenantId pluginSlug retainData chance db).2.installed =
        db.installed := by
  unfold uninstallPlugin
  split
  · exact .inr rfl
  · next plugin found =>
    split
    · exact .inr rfl
    · next row listed =>
      split
      · exact .inr (writeLifecycleError_installed _)
      · next purged =>
        refine .inl ⟨plugin, row, found, listed, ?_⟩
        cases retainData with
        | true => exact .inl rfl
        | false => exact .inr purged

end Effects

/-! ## The plugins that are active -/

theorem PluginCatalog.find_eq_some {catalog : PluginCatalog} {slug : String}
    {plugin : PluginDefinition} :
    catalog.find slug = some plugin ↔ plugin ∈ catalog.definitions ∧ plugin.slug = slug :=
  Rows.find?_iff catalog.slugs fun _ => beq_iff_eq

theorem PluginCatalog.slug_eq {catalog : PluginCatalog} {slug slug' : String}
    {plugin plugin' : PluginDefinition} (found : catalog.find slug = some plugin)
    (found' : catalog.find slug' = some plugin') (same : plugin.id = plugin'.id) :
    slug = slug' := by
  obtain ⟨mem, rfl⟩ := find_eq_some.mp found
  obtain ⟨mem', rfl⟩ := find_eq_some.mp found'
  rw [Rows.eq_of_key catalog.ids mem mem' same]

namespace PluginDb

def requirements (row : InstalledPlugin) : Option (List String) :=
  if row.status = .active then some (requiredPlugins row.manifestSnapshot) else none

def active (db : PluginDb) (catalog : PluginCatalog) (tenantId : Id) (slug : String) :
    Option (List String) :=
  (catalog.find slug).bind fun plugin => (db.row tenantId plugin.id).bind requirements

structure Keyed (db : PluginDb) : Prop where
  ids : (db.installed.map (·.id)).Nodup
  pairs : (db.installed.map fun row => (row.tenantId, row.pluginId)).Nodup

variable {catalog : PluginCatalog} {db : PluginDb} {tenantId pluginId : Id} {slug : String}

theorem isRowOf_iff (row : InstalledPlugin) :
    (row.tenantId == tenantId && row.pluginId == pluginId) ↔
      (row.tenantId, row.pluginId) = (tenantId, pluginId) := by
  simp

theorem row_eq_some (keyed : db.Keyed) {row : InstalledPlugin} :
    db.row tenantId pluginId = some row ↔
      row ∈ db.installed ∧ row.tenantId = tenantId ∧ row.pluginId = pluginId := by
  unfold PluginDb.row
  rw [Rows.find?_iff keyed.pairs isRowOf_iff, Prod.mk.injEq]

/-! ## Steps -/

variable {manifest : Fields} {plugin : PluginDefinition} {chance : PluginChance}

theorem Keyed.installs (keyed : db.Keyed) {id : Id} (fresh : id ∉ db.installed.map (·.id))
    (unlisted : db.row tenantId pluginId = none) :
    PluginDb.Keyed { db with
      installed := db.installed ++ [newPluginRow tenantId pluginId id manifest] } where
  ids := Rows.nodup_append keyed.ids fresh
  pairs := Rows.nodup_append keyed.pairs ((Rows.find?_none_iff isRowOf_iff).mp unlisted)

theorem Keyed.disables (keyed : db.Keyed) (id : Id) : (db.disable id).Keyed where
  ids := by
    unfold disable
    rw [Rows.keys_updated fun row => by split <;> rfl]
    exact keyed.ids
  pairs := by
    unfold disable
    rw [Rows.keys_updated fun row => by split <;> rfl]
    exact keyed.pairs

theorem active_of_found (found : catalog.find slug = some plugin) :
    db.active catalog tenantId slug = (db.row tenantId plugin.id).bind requirements := by
  unfold active
  rw [found, bind_some]

theorem active_of_missing (missing : catalog.find slug = none) :
    db.active catalog tenantId slug = none := by
  unfold active
  rw [missing, bind_none]

theorem active_congr {other : PluginDb} (same : other.installed = db.installed) :
    other.active catalog tenantId = db.active catalog tenantId := by
  funext slug
  simp only [active, PluginDb.row, same]

theorem active_installs {env : PluginEnv} {opts : InstallPluginOptions}
    (installs : Installs env catalog tenantId slug opts chance db plugin manifest) (tenant : Id) :
    PluginDb.active { db with
        installed := db.installed ++ [newPluginRow tenantId plugin.id chance.id manifest] }
        catalog tenant =
      if tenant = tenantId then
        Function.update (db.active catalog tenant) slug (some (requiredPlugins manifest))
      else db.active catalog tenant := by
  have rowOf : ∀ pid, PluginDb.row { db with
      installed := db.installed ++ [newPluginRow tenantId plugin.id chance.id manifest] } tenant pid =
        (db.row tenant pid).or (if tenantId = tenant ∧ plugin.id = pid then
          some (newPluginRow tenantId plugin.id chance.id manifest) else none) := by
    intro pid
    simp only [PluginDb.row, List.find?_append, List.find?_singleton, newPluginRow,
      Bool.and_eq_true, beq_iff_eq]
  funext other
  cases found : catalog.find other with
  | none =>
    have different : other ≠ slug := by
      rintro rfl
      rw [installs.found] at found
      cases found
    rw [active_of_missing found]
    split
    · rw [update_of_ne different, active_of_missing found]
    · rw [active_of_missing found]
  | some plugin' =>
    rw [active_of_found found, rowOf]
    by_cases own : tenant = tenantId
    · subst own
      rw [if_pos rfl]
      by_cases same : other = slug
      · subst same
        rw [installs.found] at found
        cases found
        simp [installs.unlisted, newPluginRow, requirements]
      · have apart : plugin.id ≠ plugin'.id := fun eq =>
          same (PluginCatalog.slug_eq found installs.found eq.symm)
        rw [if_neg fun both => apart both.2, or_none, update_of_ne same, active_of_found found]
    · rw [if_neg own, if_neg fun both => own both.1.symm, or_none, active_of_found found]

theorem active_uninstalls (keyed : db.Keyed) {retainData : Bool} {row : InstalledPlugin}
    (uninstalls : Uninstalls catalog tenantId slug retainData chance db plugin row) (tenant : Id) :
    (db.disable row.id).active catalog tenant =
      if tenant = tenantId then Function.update (db.active catalog tenant) slug none
      else db.active catalog tenant := by
  obtain ⟨mem, own, joined⟩ := (row_eq_some keyed).mp uninstalls.listed
  have rowOf : ∀ pid, (db.disable row.id).row tenant pid = (db.row tenant pid).map fun other =>
      if other.id = row.id then { other with status := .disabled } else other := by
    intro pid
    apply Rows.find?_updated
    intro other
    split <;> rfl
  have apart : ∀ pid other, ¬(tenant = tenantId ∧ pid = plugin.id) →
      db.row tenant pid = some other → other.id ≠ row.id := by
    intro pid other different found same
    obtain ⟨mem', rfl, rfl⟩ := (row_eq_some keyed).mp found
    have eq := Rows.eq_of_key keyed.ids mem' mem same
    exact different ⟨eq ▸ own, eq ▸ joined⟩
  have kept : ∀ pid, ¬(tenant = tenantId ∧ pid = plugin.id) →
      (db.disable row.id).row tenant pid = db.row tenant pid := by
    intro pid different
    rw [rowOf]
    cases found : db.row tenant pid with
    | none => rfl
    | some other => rw [map_some, if_neg (apart pid other different found)]
  funext other
  cases found : catalog.find other with
  | none =>
    have different : other ≠ slug := by
      rintro rfl
      rw [uninstalls.found] at found
      cases found
    rw [active_of_missing found]
    split
    · rw [update_of_ne different, active_of_missing found]
    · rw [active_of_missing found]
  | some plugin' =>
    rw [active_of_found found]
    by_cases same : tenant = tenantId ∧ other = slug
    · obtain ⟨rfl, rfl⟩ := same
      rw [uninstalls.found] at found
      cases found
      simp [rowOf, uninstalls.listed, requirements]
    · have different : ¬(tenant = tenantId ∧ plugin'.id = plugin.id) := fun both =>
        same ⟨both.1, PluginCatalog.slug_eq found uninstalls.found both.2⟩
      rw [kept _ different, ← active_of_found found]
      by_cases own' : tenant = tenantId
      · rw [if_pos own', update_of_ne fun eq => same ⟨own', eq⟩]
      · rw [if_neg own']

end PluginDb

end OpenWind
