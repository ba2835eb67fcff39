import OpenWind.Entity.Listings
import OpenWind.Entity.Validation
import OpenWind.Lib.Joined
import OpenWind.Lib.Texts

/-!
# Exports

The export of a type's records lists one row more than an export may hold, refuses when it gets
it, and leaves what is too long for the request to the export worker, which lists the records
again.  `listEntities` gives no more than a page to either.
-/

open List

namespace OpenWind

def SYNC_ROW_LIMIT : Nat := 5000

def EXPORT_ROW_LIMIT : Nat := 10000

/-- The record with its lookups and formulas. -/
def ListEnv.shown (env : ListEnv) (row : EntityInstance) : EntityInstance :=
  { row with fields := env.resolved row }

def listUpTo (env : ListEnv) (db : Db) (tenantId : Id) (input : ListEntitiesInput) (limit : Nat) :
    List EntityInstance :=
  (Keyset.page EntityInstance.listKey EntityInstance.listKey (min limit maxPageSize) input.cursor
    (db.entityInstances.filter (input.selects env db tenantId))).1.map env.shown

/-! ## Files -/

inductive ExportFormat
  | csv | xlsx | pdf
  deriving DecidableEq

structure ExportEnv extends ListEnv where
  now : Time
  tenants : List SweepTenant
  entityTypes : List EntityType
  /-- `String` of a number. -/
  numberText : Rat → String
  /-- `JSON.stringify` of an object or an array. -/
  stringify : Json → String

structure ExportFile where
  format : ExportFormat
  headers : List String
  dataRows : List (List String)

structure ExportFilters where
  state : Option String := none
  assignedTo : Option String := none

structure ExportJob where
  tenantId : Id
  entityTypeId : Id
  format : ExportFormat
  filters : ExportFilters
  requestedByRoles : List String

/-- What a job comes to. -/
inductive ExportJobResult
  | error (code : String)
  | file (file : ExportFile)

inductive ExportAnswer
  | notFound
  | tooLarge
  | file (file : ExportFile)
  | queued (job : ExportJob)

def canSeePii (roles : List String) : Bool :=
  roles.any ["pii_export", "admin", "superadmin"].contains

def exportFields (includePii : Bool) (allFields : List EntityField) : List EntityField :=
  if includePii then allFields
  else allFields.filter fun f => f.sensitivity != .pii && f.sensitivity != .financial

def exportHeaders (fields : List EntityField) : List String :=
  ["ID", "State", "Created At", "Updated At"] ++ fields.map (·.label)

def toISOString (time : Time) : String := .ofList (Texts.isoText time)

namespace ExportEnv

variable (env : ExportEnv)

/-- None when it throws. -/
def getEntityType (tenantId entityTypeId : Id) : Option EntityType :=
  env.entityTypes.find? (EntityType.isOf tenantId entityTypeId)

def cell : Option Json → String
  | none | some .null => ""
  | some (.str s) => s
  | some (.bool b) => if b then "true" else "false"
  | some (.num n) => env.numberText n
  | some value => env.stringify value

def buildExportRow (fields : List EntityField) (row : EntityInstance) : List String :=
  [row.id.text, row.currentState, toISOString row.createdAt, toISOString row.updatedAt] ++
    fields.map fun f => env.cell (row.fields.get f.name)

end ExportEnv

def sanitizeSpreadsheetCell (value : String) : String :=
  if ["=", "+", "-", "@", "\t", "\r"].any (startsWith value) then "'" ++ value else value

def ExportFile.sanitized (file : ExportFile) : ExportFile :=
  match file.format with
  | .pdf => file
  | _ => { file with
      headers := file.headers.map sanitizeSpreadsheetCell
      dataRows := file.dataRows.map (·.map sanitizeSpreadsheetCell) }

/-! ## The route and the worker -/

section Exporting

variable (env : ExportEnv) (db : Db)

def ExportFilters.input (filters : ExportFilters) (entityTypeId : Id) : ListEntitiesInput :=
  { entityTypeId, state := filters.state, assignedTo := filters.assignedTo }

def ExportJob.file (job : ExportJob) (rows : List EntityInstance) : ExportFile :=
  let fields := exportFields (canSeePii job.requestedByRoles)
    (sortFields (db.fieldsOf job.tenantId job.entityTypeId))
  ⟨job.format, exportHeaders fields, rows.map (env.buildExportRow fields)⟩

def exportEntities (job : ExportJob) : ExportAnswer :=
  match env.getEntityType job.tenantId job.entityTypeId with
  | none => .notFound
  | some _ =>
    let rows := listUpTo env.toListEnv db job.tenantId (job.filters.input job.entityTypeId)
      (EXPORT_ROW_LIMIT + 1)
    if EXPORT_ROW_LIMIT < rows.length then .tooLarge
    else if SYNC_ROW_LIMIT < rows.length then .queued job
    else .file (job.file env db rows)

/-- None when it throws. -/
def runExportJob (job : ExportJob) : Option ExportJobResult :=
  if isTenantActive env.tenants env.now job.tenantId then
    (env.getEntityType job.tenantId job.entityTypeId).map fun _ =>
      .file (job.file env db (listUpTo env.toListEnv db job.tenantId
        (job.filters.input job.entityTypeId) EXPORT_ROW_LIMIT)).sanitized
  else some (.error "TENANT_DEACTIVATED")

def exportedFile (job : ExportJob) : Option ExportFile :=
  match exportEntities env db job with
  | .file file => some file
  | .queued job =>
    match runExportJob env db job with
    | some (.file file) => some file
    | _ => none
  | _ => none

/-- The live records that match. -/
def ExportJob.matching (job : ExportJob) : List EntityInstance :=
  db.entityInstances.filter
    ((job.filters.input job.entityTypeId).selects env.toListEnv db job.tenantId)

def Exported (job : ExportJob) : Prop :=
  if (job.matching env db).length ≤ EXPORT_ROW_LIMIT then
    ∃ (file : ExportFile) (ordered : List EntityInstance), exportedFile env db job = some file ∧
      ordered.Perm (job.matching env db) ∧
      (file = job.file env db (ordered.map env.shown) ∨
        file = (job.file env db (ordered.map env.shown)).sanitized)
  else exportEntities env db job = .tooLarge

end Exporting

section Pages

variable {env : ExportEnv} {db : Db} {job : ExportJob}

theorem listUpTo_eq (env : ListEnv) (db : Db) (tenantId : Id) {input : ListEntitiesInput}
    {limit : Nat} (large : maxPageSize ≤ limit) :
    listUpTo env db tenantId input limit =
      ((Keyset.after EntityInstance.listKey input.cursor
        (db.entityInstances.filter (input.selects env db tenantId))).take maxPageSize).map
          env.shown := by
  unfold listUpTo
  rw [Nat.min_eq_right large, Keyset.page_rows]

theorem ExportJob.length_rows (job : ExportJob) (rows : List EntityInstance) :
    (job.file env db rows).dataRows.length = rows.length ∧
      (job.file env db rows).sanitized.dataRows.length = rows.length := by
  unfold ExportFile.sanitized
  refine ⟨length_map _, ?_⟩
  split
  · exact length_map _
  · rw [length_map]
    exact length_map _

theorem exportEntities_eq {entityType : EntityType}
    (found : env.getEntityType job.tenantId job.entityTypeId = some entityType) :
    exportEntities env db job =
      .file (job.file env db (((Keyset.after EntityInstance.listKey none
        (job.matching env db)).take maxPageSize).map env.shown)) := by
  have short (rows : List EntityInstance) :
      ((rows.take maxPageSize).map env.shown).length ≤ maxPageSize := by
    rw [length_map]
    exact length_take_le _ _
  unfold exportEntities
  rw [found, listUpTo_eq _ _ _ (by decide : maxPageSize ≤ EXPORT_ROW_LIMIT + 1)]
  dsimp only
  rw [if_neg (Nat.not_lt.mpr (Nat.le_trans (short _) (by decide))),
    if_neg (Nat.not_lt.mpr (Nat.le_trans (short _) (by decide)))]
  rfl

theorem exportedFile_eq {entityType : EntityType}
    (found : env.getEntityType job.tenantId job.entityTypeId = some entityType) :
    exportedFile env db job = some (job.file env db (((Keyset.after EntityInstance.listKey none
      (job.matching env db)).take maxPageSize).map env.shown)) := by
  unfold exportedFile
  rw [exportEntities_eq found]

theorem Exported.fits {entityType : EntityType}
    (found : env.getEntityType job.tenantId job.entityTypeId = some entityType)
    (exported : Exported env db job) : (job.matching env db).length ≤ maxPageSize := by
  unfold Exported at exported
  split at exported
  · obtain ⟨file, ordered, is, all, rows⟩ := exported
    rw [exportedFile_eq found] at is
    have length : file.dataRows.length = (job.matching env db).length := by
      have mapped : (ordered.map env.shown).length = ordered.length := length_map _
      rw [← all.length_eq, ← mapped]
      rcases rows with rfl | rfl
      · exact (job.length_rows _).1
      · exact (job.length_rows _).2
    rw [← length, ← Option.some.inj is, (job.length_rows _).1, length_map]
    exact length_take_le _ _
  · rw [exportEntities_eq found] at exported
    cases exported

/-- An export of a type that exists does what it should exactly when the records that match fit
a page of a listing. -/
theorem exported_iff {entityType : EntityType}
    (found : env.getEntityType job.tenantId job.entityTypeId = some entityType) :
    Exported env db job ↔ (job.matching env db).length ≤ maxPageSize := by
  refine ⟨Exported.fits found, fun fits => ?_⟩
  have perm : (Keyset.after EntityInstance.listKey none (job.matching env db)).Perm
    (job.matching env db) := Keyset.after_none_perm
  unfold Exported
  rw [if_pos (Nat.le_trans fits (by decide))]
  refine ⟨_, _, ?_, perm, Or.inl rfl⟩
  rw [exportedFile_eq found, take_of_length_le (Nat.le_trans (Nat.le_of_eq perm.length_eq) fits)]

end Pages

namespace ExportSample

def env : ExportEnv where
  toListEnv :=
    { plainListEnv with finds _ _ := false, rank _ _ := 0, hasFields _ _ := true }
  now := 0
  tenants := [⟨1, "active", none⟩]
  entityTypes := [{ id := 1, tenantId := some 1, name := "tickets" }]
  numberText n := toString n
  stringify _ := "{}"

/-- The given number of tickets. -/
def tickets (n : Nat) : Db where
  entityInstances := (range n).map fun i =>
    { id := i, entityTypeId := 1, tenantId := 1, createdAt := i, updatedAt := i }

def job : ExportJob := ⟨1, 1, .csv, {}, ["admin"]⟩

end ExportSample

open ExportSample in
theorem exported_two : Exported env (tickets 2) job :=
  (exported_iff rfl).mpr (by decide +kernel)

open ExportSample in
/-- A hundred and one tickets: the file has a hundred rows. -/
theorem export_drops_ticket :
    ¬ ∀ (env : ExportEnv) (db : Db) (job : ExportJob) (entityType : EntityType),
      env.getEntityType job.tenantId job.entityTypeId = some entityType → Exported env db job := by
  intro always
  have fits := (always env (tickets 101) job _ rfl).fits rfl
  have many : ¬ (job.matching env (tickets 101)).length ≤ maxPageSize := by decide +kernel
  exact many fits

/-! ## Formulas -/

/-- A spreadsheet reads the text as a formula. -/
def IsFormula (value : String) : Prop :=
  ["=", "+", "-", "@", "\t", "\r"].any (startsWith value) = true

structure ExportFile.Inert (file : ExportFile) : Prop where
  headers : ∀ header ∈ file.headers, ¬ IsFormula header
  cells : ∀ row ∈ file.dataRows, ∀ cell ∈ row, ¬ IsFormula cell

def InertTables (env : ExportEnv) (db : Db) (job : ExportJob) (rows : List EntityInstance) : Prop :=
  let direct := job.file env db rows
  (direct.headers = direct.sanitized.headers ∧ direct.dataRows = direct.sanitized.dataRows) ∧
    direct.Inert ∧ direct.sanitized.Inert

structure PlainTexts (env : ExportEnv) (db : Db) (job : ExportJob) (rows : List EntityInstance) :
    Prop where
  labels : ∀ field ∈ exportFields (canSeePii job.requestedByRoles)
    (sortFields (db.fieldsOf job.tenantId job.entityTypeId)), ¬ IsFormula field.label
  states : ∀ row ∈ rows, ¬ IsFormula row.currentState
  dates : ∀ row ∈ rows, ¬ IsFormula (toISOString row.createdAt) ∧
    ¬ IsFormula (toISOString row.updatedAt)
  values : ∀ row ∈ rows, ∀ field ∈ exportFields (canSeePii job.requestedByRoles)
    (sortFields (db.fieldsOf job.tenantId job.entityTypeId)),
    ¬ IsFormula (env.cell (row.fields.get field.name))

section Formulas

variable {env : ExportEnv} {db : Db} {job : ExportJob} {rows : List EntityInstance}

theorem isFormula_iff {value : String} :
    IsFormula value ↔ ∃ c ∈ ['=', '+', '-', '@', '\t', '\r'], some c = value.toList.head? := by
  unfold IsFormula startsWith
  cases value.toList with
  | nil => simp
  | cons c rest => simp [List.isPrefixOf, @eq_comm Char _ c]

theorem text_not_formula (id : Id) : ¬ IsFormula id.text := by
  rw [isFormula_iff, Id.text_toList]
  intro ⟨c, mem, head⟩
  have plain : ∀ c ∈ ['=', '+', '-', '@', '\t', '\r'], c.isDigit = false := by simp
  exact Joined.not_mem_toDigits (plain c mem) id (mem_of_mem_head? head.symm)

theorem sanitizeSpreadsheetCell_eq {value : String} (plain : ¬ IsFormula value) :
    sanitizeSpreadsheetCell value = value :=
  if_neg plain

theorem map_sanitized {cells : List String} (plain : ∀ cell ∈ cells, ¬ IsFormula cell) :
    cells.map sanitizeSpreadsheetCell = cells :=
  (map_congr_left fun cell mem => sanitizeSpreadsheetCell_eq (plain cell mem)).trans (map_id _)

theorem ExportFile.Inert.sanitized_eq {file : ExportFile} (inert : file.Inert) :
    file.sanitized = file := by
  unfold sanitized
  split
  · rfl
  · rw [map_sanitized inert.headers]
    have rows : file.dataRows.map (·.map sanitizeSpreadsheetCell) = file.dataRows :=
      (map_congr_left fun row mem => map_sanitized (inert.cells row mem)).trans (map_id _)
    rw [rows]

theorem inert_iff : (job.file env db rows).Inert ↔ PlainTexts env db job rows := by
  constructor
  · intro inert
    have cells {row} (mem : row ∈ rows) := forall_mem_append.mp (inert.cells _ (mem_map_of_mem mem))
    have first {row} (mem : row ∈ rows) := forall_mem_cons.mp (cells mem).1
    have second {row} (mem : row ∈ rows) := forall_mem_cons.mp (first mem).2
    have dates {row} (mem : row ∈ rows) := forall_mem_cons.mp (second mem).2
    exact ⟨fun field mem => (forall_mem_append.mp inert.headers).2 _ (mem_map_of_mem mem),
      fun row mem => (second mem).1,
      fun row mem => ⟨(dates mem).1, (dates mem).2 _ mem_cons_self⟩,
      fun row mem field inside => (cells mem).2 _ (mem_map_of_mem inside)⟩
  · intro plain
    refine ⟨forall_mem_append.mpr ⟨?_, forall_mem_map.mpr plain.labels⟩, ?_⟩
    · unfold IsFormula
      decide
    · refine forall_mem_map.mpr fun row mem => ?_
      refine forall_mem_append.mpr ⟨?_, forall_mem_map.mpr (plain.values row mem)⟩
      rw [forall_mem_cons, forall_mem_cons, forall_mem_cons, forall_mem_singleton]
      exact ⟨text_not_formula _, plain.states row mem, plain.dates row mem⟩

/-- For the same records and roles, the route and the worker give one spreadsheet without formulas,
if and only if no label of a field that is exported and no state, date or value of a record begins
like a formula. -/
theorem inert_tables_iff (env : ExportEnv) (db : Db) (job : ExportJob)
    (rows : List EntityInstance) : InertTables env db job rows ↔ PlainTexts env db job rows := by
  refine ⟨fun same => inert_iff.mp same.2.1, fun plain => ?_⟩
  have inert := inert_iff.mpr plain
  dsimp only [InertTables]
  rw [inert.sanitized_eq]
  exact ⟨⟨rfl, rfl⟩, inert, inert⟩

end Formulas

open ExportSample in
/-- The state of a ticket begins like a formula, and the route leaves it. -/
theorem export_holds_formula :
    ¬ ∀ (env : ExportEnv) (db : Db) (job : ExportJob) (rows : List EntityInstance),
      job.format ≠ .pdf → InertTables env db job rows := by
  intro always
  have same := (always env {} job
    [{ id := 1, entityTypeId := 1, tenantId := 1, createdAt := 0, updatedAt := 0
       currentState := "=1+1" }] (by decide)).1.2
  have texts : "=1+1" = "'=1+1" := (cons.inj (cons.inj (cons.inj same).1).2).1
  revert texts
  decide

end OpenWind
