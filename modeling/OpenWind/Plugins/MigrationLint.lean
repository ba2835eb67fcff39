import OpenWind.Automation.Actions
import OpenWind.Lib.Regex

/-!
# The lint of a plugin's migration

A migration of a plugin is text, and `lintPluginMigration` looks at it with regular expressions
before it is run.  Each table that it creates has to have a tenant, row level security and a policy
on the tenant, unless a comment before it opts out.
-/

namespace OpenWind

open Regex

/-! ## Patterns -/

def spaced : List String → Regex Char
  | [] => eps
  | w :: rest => seq (word w.toList) (seq (plus isSpace) (spaced rest))

/-- `"?` -/
def quoteMark : Regex Char := opt (char (· == '"'))

/-- `[\s\S]*?` -/
def anything : Regex Char := few fun _ => true

/-- `CREATE\s+TABLE\s+(?:IF\s+NOT\s+EXISTS\s+)?` -/
def createTableWords : Regex Char :=
  seq (spaced ["CREATE", "TABLE"]) (opt (spaced ["IF", "NOT", "EXISTS"]))

def createTableHead : Regex Char :=
  seq createTableWords (seq quoteMark (seq (group (plus isWordChar)) (seq quoteMark
    (seq (star isSpace) (char (· == '('))))))

def createTableEnd : Regex Char :=
  seq (char (· == ')')) (seq (star isSpace) (char (· == ';')))

def createTableRe : Regex Char :=
  seq createTableHead (seq (group anything) createTableEnd)

def notTenantScopedMarker : Regex Char :=
  seq (word "--".toList) (seq (star isSpace) (seq (word "plugin-lint:".toList)
    (seq (star isSpace) (word "not-tenant-scoped".toList))))

/-- `"?tenant_id"?\s+uuid\s+NOT\s+NULL` -/
def tenantColumnRe : Regex Char :=
  seq quoteMark (seq (word "tenant_id".toList) (seq quoteMark (seq (plus isSpace)
    (seq (spaced ["uuid", "NOT"]) (word "NULL".toList)))))

def enableRlsRe (tableName : List Char) : Regex Char :=
  seq (spaced ["ALTER", "TABLE"]) (seq quoteMark (seq (word tableName) (seq quoteMark
    (seq (plus isSpace) (seq (spaced ["ENABLE", "ROW", "LEVEL"]) (word "SECURITY".toList))))))

/-- `CREATE\s+POLICY\s+\S+\s+ON\s+` -/
def policyHead : Regex Char :=
  seq (spaced ["CREATE", "POLICY"]) (seq (plus fun c => !isSpace c) (seq (plus isSpace)
    (spaced ["ON"])))

def policyStatementRe (tableName : List Char) : Regex Char :=
  seq policyHead (seq quoteMark (seq (word tableName) (seq quoteMark (seq anything
    (char (· == ';'))))))

def tenantIdRe : Regex Char := word "tenant_id".toList

/-! ## The lint -/

structure MigrationLintResult where
  ok : Bool
  violations : List String
  deriving DecidableEq

/-- The text behind the last semicolon. -/
def sinceSemicolon (sql : List Char) : List Char :=
  (sql.reverse.takeWhile (· != ';')).reverse

def precedingComment (sql : List Char) (matchStart : Nat) : List Char :=
  sinceSemicolon (sql.take matchStart)

def tableViolation (tableName : List Char) (text : String) : String :=
  "table \"" ++ String.ofList tableName ++ "\": " ++ text

/-- What a turn of the loop finds. -/
def tableViolations (sql : List Char) (found : Found Char) : List String :=
  match found.captures.head? with
  | none | some [] => []
  | some tableName =>
    let columnsBlock := (found.captures[1]?).getD []
    if notTenantScopedMarker.test (precedingComment sql found.start) then []
    else if !tenantColumnRe.test columnsBlock then
      [tableViolation tableName ("no \"tenant_id uuid NOT NULL\" column, and no " ++
        "\"-- plugin-lint: not-tenant-scoped\" opt-out comment above it")]
    else
      (if !(enableRlsRe tableName).test sql then
        [tableViolation tableName "has tenant_id but no ENABLE ROW LEVEL SECURITY statement"]
      else []) ++
      match (policyStatementRe tableName).exec sql 0 with
      | none => [tableViolation tableName "has tenant_id but no CREATE POLICY statement"]
      | some policyStatement =>
        if !tenantIdRe.test policyStatement.text then
          [tableViolation tableName ("CREATE POLICY exists but its body never references " ++
            "tenant_id (e.g. \"USING (true)\" grants every row to every caller)")]
        else []

def lintPluginMigration (sql : String) : MigrationLintResult :=
  let text := sql.toList
  let violations := (createTableRe.execAll text (text.length + 1) 0).flatMap (tableViolations text)
  ⟨violations.isEmpty, violations⟩

end OpenWind
