import OpenWind.Entity.BulkUpdate
import OpenWind.Lib.Shape
import Mathlib.Data.List.Sort

/-!
# The checks of a record's fields

The schema that is generated from the fields of an entity type, the reserved field
names, the references to other records and to users, and the formulas; `FieldEnv`
puts them together into the rules that the engine's operations are given.
-/

namespace OpenWind

/-! ## Issues -/

inductive ZodCode
  | invalidType (missing : Bool)
  | tooSmall (text : Bool)
  | tooBig (text : Bool)
  | invalidValue
  | invalidFormat
  | custom (message : String)
  deriving DecidableEq

structure ZodIssue where
  path : List String
  code : ZodCode

structure Zod where
  /-- `new RegExp(pattern)`, which fails on a malformed pattern. -/
  regExp : String → Option (String → Bool)
  date : String → Bool
  datetime : String → Bool
  guid : String → Bool
  /-- `(v.toString().split(".")[1] ?? "").length`. -/
  decimalPlaces : Rat → Nat
  message : ZodIssue → String

def ZodIssue.under (key : String) (issue : ZodIssue) : ZodIssue :=
  { issue with path := key :: issue.path }

def mapZodCode : ZodCode → String
  | .invalidType true => "REQUIRED"
  | .invalidType false => "INVALID_TYPE"
  | .tooSmall true => "TOO_SHORT"
  | .tooSmall false => "TOO_SMALL"
  | .tooBig true => "TOO_LONG"
  | .tooBig false => "TOO_LARGE"
  | .invalidValue => "INVALID_ENUM"
  | .invalidFormat => "INVALID_FORMAT"
  | .custom _ => "VALIDATION_FAILED"

def Zod.text (zod : Zod) (issue : ZodIssue) : String :=
  match issue.code with
  | .custom message => message
  | _ => zod.message issue

def transformZodErrors (zod : Zod) (issues : List ZodIssue) : List FieldError :=
  issues.map fun issue =>
    ⟨if issue.path.isEmpty then "_root" else String.intercalate "." issue.path,
      mapZodCode issue.code, zod.text issue⟩

/-! ## Schemas of a value -/

abbrev ValueSchema := Shape.Entry Json ZodIssue

def issueUnless (ok : Bool) (code : ZodCode) : List ZodIssue :=
  if ok then [] else [⟨[], code⟩]

def passed (issues : List ZodIssue) (value : Json) : Except (List ZodIssue) Json :=
  if issues.isEmpty then .ok value else .error issues

def wrongType : Except (List ZodIssue) Json := .error [⟨[], .invalidType false⟩]

def stringSchema (checks : String → List ZodIssue) : ValueSchema where
  optional := false
  missing := ⟨[], .invalidType true⟩
  parse
    | .str s => passed (checks s) (.str s)
    | _ => wrongType

def numberSchema (checks : Rat → List ZodIssue) : ValueSchema where
  optional := false
  missing := ⟨[], .invalidType true⟩
  parse
    | .num n => passed (checks n) (.num n)
    | _ => wrongType

def booleanSchema : ValueSchema where
  optional := false
  missing := ⟨[], .invalidType true⟩
  parse
    | .bool b => .ok (.bool b)
    | _ => wrongType

def enumIssues (values : List String) (s : String) : List ZodIssue :=
  issueUnless (values.contains s) .invalidValue

def enumSchema (values : List String) : ValueSchema where
  optional := false
  missing := ⟨[], .invalidValue⟩
  parse
    | .str s => passed (enumIssues values s) (.str s)
    | _ => .error [⟨[], .invalidValue⟩]

def itemIssues (item : ValueSchema) (value : Json) (index : Nat) : List ZodIssue :=
  match item.parse value with
  | .ok _ => []
  | .error issues => issues.map (ZodIssue.under (toString index))

def arraySchema (item : ValueSchema) (checks : List Json → List ZodIssue) : ValueSchema where
  optional := false
  missing := ⟨[], .invalidType true⟩
  parse
    | .arr items =>
      passed ((items.zipIdx.flatMap fun (value, index) => itemIssues item value index) ++
        checks items) (.arr items)
    | _ => wrongType

def currencySchema (amount currency : ValueSchema) : ValueSchema where
  optional := false
  missing := ⟨[], .invalidType true⟩
  parse
    | .obj entries =>
      match Shape.parse ZodIssue.under entries
        [("amount", amount), ("currency", currency)] with
      | .ok parsed => .ok (.obj parsed)
      | .error issues => .error issues
    | _ => wrongType

def unknownSchema : ValueSchema where
  optional := true
  missing := ⟨[], .invalidType true⟩
  parse := .ok

/-- `z.never().optional()`. -/
def neverSchema : ValueSchema where
  optional := true
  missing := ⟨[], .invalidType true⟩
  parse _ := wrongType

/-! ## The schema of a type -/

def Fields.number (config : Fields) (key : String) : Option Rat :=
  match config.get key with
  | some (.num n) => some n
  | _ => none

def Fields.text (config : Fields) (key : String) : Option String :=
  match config.get key with
  | some (.str s) => some s
  | _ => none

def atLeast (bound : Option Rat) (value : Rat) (code : ZodCode) : List ZodIssue :=
  match bound with
  | some b => issueUnless (decide (b ≤ value)) code
  | none => []

def atMost (bound : Option Rat) (value : Rat) (code : ZodCode) : List ZodIssue :=
  match bound with
  | some b => issueUnless (decide (value ≤ b)) code
  | none => []

def extractOptionValues : Option Json → List String
  | some (.arr options) => options.filterMap fun
    | .str s => some s
    | .obj option => Fields.text option "value"
    | _ => none
  | _ => []

/-- A malformed pattern is skipped. -/
def patternIssues (zod : Zod) (config : Fields) (s : String) : List ZodIssue :=
  match (config.text "pattern").bind zod.regExp with
  | some test => issueUnless (test s) .invalidFormat
  | none => []

def textSchema (zod : Zod) (field : EntityField) : ValueSchema :=
  stringSchema fun s =>
    atLeast (field.config.number "minLength") (textLength s) (.tooSmall true) ++
    atMost (field.config.number "maxLength") (textLength s) (.tooBig true) ++
    patternIssues zod field.config s ++
    if field.isSystem && field.isRequired then
      issueUnless (trim s != "") (.custom "Title can't be blank")
    else []

def decimalIssues (zod : Zod) (places : Option Rat) (v : Rat) : List ZodIssue :=
  match places with
  | some dp =>
    issueUnless (decide ((zod.decimalPlaces v : Rat) ≤ dp))
      (.custom ("Maximum " ++ toString dp ++ " decimal places"))
  | none => []

def currencyCode (allowed : Option Json) : ValueSchema :=
  match allowed with
  | some (.arr (first :: rest)) =>
    enumSchema ((first :: rest).filterMap fun
      | .str s => some s
      | _ => none)
  | _ => stringSchema fun s =>
    if textLength s < 3 then [⟨[], .tooSmall true⟩]
    else issueUnless (textLength s == 3) (.tooBig true)

def optionSchema (options : Option Json) : ValueSchema :=
  match extractOptionValues options with
  | [] => stringSchema fun _ => []
  | values => enumSchema values

def nonEmptyText : ValueSchema :=
  stringSchema fun s => issueUnless (s != "") (.tooSmall true)

def buildFieldSchema (zod : Zod) (field : EntityField) : ValueSchema :=
  match field.fieldType with
  | .text => textSchema zod field
  | .longtext => stringSchema fun _ => []
  | .number => numberSchema fun v =>
    atLeast (field.config.number "min") v (.tooSmall false) ++
    atMost (field.config.number "max") v (.tooBig false) ++
    decimalIssues zod (field.config.number "decimalPlaces") v
  | .currency =>
    currencySchema (numberSchema fun v => atLeast (some 0) v (.tooSmall false))
      (currencyCode (field.config.get "allowedCurrencies"))
  | .date => stringSchema fun s => issueUnless (zod.date s) .invalidFormat
  | .datetime => stringSchema fun s => issueUnless (zod.datetime s) .invalidFormat
  | .boolean => booleanSchema
  | .enum => optionSchema (field.config.get "options")
  | .select => optionSchema (field.config.get "options")
  | .multiEnum => arraySchema (optionSchema (field.config.get "options")) fun _ => []
  | .userRef => nonEmptyText
  | .entityRef => stringSchema fun s => issueUnless (zod.guid s) .invalidFormat
  | .file => nonEmptyText
  | .files => arraySchema nonEmptyText fun items =>
    atMost (some ((field.config.number "maxCount").getD 20)) items.length (.tooBig false)
  | .formula => unknownSchema
  | .lookup => unknownSchema
  | .other _ => unknownSchema

def EntityField.computed (field : EntityField) : Bool :=
  field.fieldType == .formula || field.fieldType == .lookup

def EntityField.entry (zod : Zod) (mode : SchemaMode) (field : EntityField) : ValueSchema :=
  if field.computed then neverSchema
  else
    let schema := buildFieldSchema zod field
    if mode == .update || !field.isRequired then { schema with optional := true } else schema

def buildZodSchema (zod : Zod) (fields : List EntityField) (mode : SchemaMode) :
    List (String × ValueSchema) :=
  fields.map fun field => (field.name, field.entry zod mode)

/-- The keys that the type does not define are dropped. -/
def parseFields (zod : Zod) (schema : List (String × ValueSchema)) : FieldSchema := fun fields =>
  match Shape.parse ZodIssue.under fields schema with
  | .ok parsed => .ok parsed
  | .error issues => .error (transformZodErrors zod issues)

/-! ## Reserved names -/

def isReservedFieldName (name : String) : Bool :=
  startsWith name "__" || name == "prototype" || name == "constructor"

def validateReservedFieldNames (fields : Fields) : Except (List FieldError) Unit :=
  noFieldErrors (((fields.map (·.1)).filter isReservedFieldName).map fun key =>
    ⟨key, "RESERVED_FIELD",
      "Field '" ++ key ++ "' is reserved for internal engine use and cannot be set directly"⟩)

/-! ## References -/

/-- The reference that a field holds, when it holds one. -/
def Fields.ref (fields : Fields) (name : String) : Option String :=
  (fields.text name).filter (· != "")

def refEntries (refType : FieldType) (fields : Fields) (entityFields : List EntityField) :
    List (String × String) :=
  (entityFields.filter (·.fieldType == refType)).filterMap fun field =>
    (fields.ref field.name).map fun ref => (field.name, ref)

def refErrors (refs : List (String × String)) (known : List String) (message : String) :
    List FieldError :=
  (refs.filter fun ref => !known.contains ref.2).map fun ref =>
    ⟨ref.1, "INVALID_REFERENCE", message⟩

def validateEntityRefs (db : Db) (tenantId : Id) (fields : Fields)
    (entityFields : List EntityField) : List FieldError :=
  refErrors (refEntries .entityRef fields entityFields)
    ((db.entityInstances.filter (·.tenantId == tenantId)).map (·.id.text))
    "Referenced entity does not exist or is not accessible"

def validateUserRefs (db : Db) (tenantId : Id) (fields : Fields)
    (entityFields : List EntityField) : List FieldError :=
  refErrors (refEntries .userRef fields entityFields)
    ((db.tenantUsers.filter (·.tenantId == tenantId)).map (·.userId))
    "Referenced user does not exist or is not accessible"

def validateRefs (db : Db) (tenantId : Id) (fields : Fields) (entityFields : List EntityField) :
    List FieldError :=
  validateEntityRefs db tenantId fields entityFields ++
    validateUserRefs db tenantId fields entityFields

/-! ## Formulas -/

def Fields.put (fields : Fields) (name : String) (value : Option Json) : Fields :=
  match value with
  | some v => fields.set name v
  | none => fields.erase name

def applyFormula (evaluateFormula : String → Fields → Option Json) (values : Fields)
    (field : EntityField) : Fields :=
  if field.fieldType == .formula then
    match field.config.text "expression" with
    | some expression => values.put field.name (evaluateFormula expression values)
    | none => values
  else values

def applyFormulaFields (evaluateFormula : String → Fields → Option Json)
    (fields : List EntityField) (values : Fields) : Fields :=
  fields.foldl (applyFormula evaluateFormula) values

/-! ## The rules of the engine -/

structure FieldEnv where
  zod : Zod
  loadEntityType : Db → Id → Id → Except TxError String
  crossFieldValidators : String → Fields → SchemaMode → List FieldError
  evaluateFormula : String → Fields → Option Json
  assertTeamInTenant : Db → Id → Id → Except TxError Unit
  enforceMandatory : Bool

/-- The fields in the order of the type's form. -/
def sortFields (fields : List EntityField) : List EntityField :=
  fields.insertionSort fun a b => a.sortOrder ≤ b.sortOrder

namespace FieldEnv

variable (env : FieldEnv)

def getValidationSchema (db : Db) (tenantId entityTypeId : Id) (mode : SchemaMode) :
    Except TxError FieldSchema :=
  .ok (parseFields env.zod
    (buildZodSchema env.zod (sortFields (db.fieldsOf tenantId entityTypeId)) mode))

def editRules : EditRules where
  validateReservedFieldNames := validateReservedFieldNames
  getValidationSchema := env.getValidationSchema
  loadEntityType := env.loadEntityType
  runCrossFieldValidators name fields := env.crossFieldValidators name fields .update
  validateRefs db tenantId allFields provided := validateRefs db tenantId provided
    (allFields.filter fun f => (provided.get f.name).isSome)
  applyFormulaFields allFields values :=
    .ok (applyFormulaFields env.evaluateFormula (sortFields allFields) values)

def createFields (db : Db) (tenantId : Id) (input : CreateEntityInput) : Except TxError Fields := do
  let entityType ← env.loadEntityType db tenantId input.entityTypeId
  throwFieldErrors (validateReservedFieldNames input.fields)
  let schema ← env.getValidationSchema db tenantId input.entityTypeId .create
  let data ← throwFieldErrors (schema input.fields)
  throwFieldErrors (noFieldErrors (env.crossFieldValidators entityType data .create))
  throwFieldErrors (noFieldErrors
    (validateRefs db tenantId data (db.fieldsOf tenantId input.entityTypeId)))
  return data

def checkTeam (db : Db) (tenantId : Id) (teamId : Option Id) : Except TxError Unit :=
  match teamId with
  | some team => env.assertTeamInTenant db tenantId team
  | none => .ok ()

def withTeam (fields : Fields) (teamId : Option Id) : Fields :=
  match teamId with
  | some team => fields.set "team_id" (.str team.text)
  | none => fields

def completeFields (db : Db) (tenantId : Id) (input : CreateEntityInput) (data : Fields) :
    Except TxError Fields := do
  env.checkTeam db tenantId input.teamId
  return withTeam (applyFormulaFields env.evaluateFormula
    (sortFields (db.fieldsOf tenantId input.entityTypeId)) data) input.teamId

def rules : FieldRules where
  create := env.createFields
  complete := env.completeFields
  update := env.editRules.updateFields
  team := env.checkTeam
  reserved fields := throwFieldErrors (validateReservedFieldNames fields)
  enforceMandatory := env.enforceMandatory

end FieldEnv

end OpenWind
