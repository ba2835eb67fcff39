import OpenWind.Schema

/-!
# Errors and transactions

The errors of the workflow and the entity engine, each with its code and the
metadata it carries, and `Tx`, the transactions over the store that fail with
them.
-/

namespace OpenWind

inductive WorkflowErrorCode
  | instanceNotFound
  | transitionNotAvailable
  | transitionForbidden
  | transitionLocked
  | conditionNotMet
  | requiredFieldsMissing
  | workflowNotFound
  | workflowStateNotFound
  | workflowTransitionNotFound
  | workflowHasActiveInstances
  | workflowStateInUse
  | workflowStateNameTaken
  | workflowInitialStateInvalid
  | workflowConditionStateUnknown
  | overrideNotEnabled
  | overrideForbidden
  | overrideReasonRequired
  | overrideNoChange
  deriving DecidableEq

inductive EntityErrorCode
  | entityTypeNotFound
  | entityNotFound
  | childAlreadyHasParent
  | childDepthExceeded
  | childrenCapExceeded
  | childCycleDetected
  | childrenDisabled
  | severityRequired
  | stateChangeNotAllowed
  | relationTargetNotFound
  | relationSelfLink
  | relationAlreadyExists
  | relationNotFound
  | customFieldsNotAllowed
  | fieldNotFound
  | systemFieldImmutable
  deriving DecidableEq

/-- An entry of a `ValidationError`. -/
structure FieldError where
  field : String
  code : String
  message : String

inductive TxError
  | workflow (code : WorkflowErrorCode) (details : Fields)
  | entity (code : EntityErrorCode) (details : Fields)
  | validation (fields : List FieldError)
  | unique (index : String)
  /-- A row that refers to none. -/
  | foreignKey (constraint : String)
  /-- A refusal of a route. -/
  | route (code message : String)
  /-- A value that a library under the code does not take. -/
  | library (message : String)
  /-- A loop that has not ended within the bound a call was given. -/
  | unfinished

def customIdAllowed (jobId : String) : Bool := !jobId.toList.contains ':'

/-- What `queue.add` throws for such a job. -/
def TxError.customId : TxError := .library "Custom Id cannot contain :"

/-- An identifier in the metadata of an error or an event. -/
def Json.id (i : Id) : Json := .num i

def Json.strs (texts : List String) : Json := .arr (texts.map .str)

def Json.optStr : Option String → Json
  | none => .null
  | some s => .str s

theorem Except.bind_ok {ε α β : Type} {first : Except ε α} {next : α → Except ε β} {b : β} :
    (first >>= next) = .ok b ↔ ∃ a, first = .ok a ∧ next a = .ok b := by
  cases first with
  | ok a =>
    constructor
    · exact fun rest => ⟨a, rfl, rest⟩
    · rintro ⟨_, same, rest⟩
      cases same
      exact rest
  | error e =>
    constructor
    · intro failed
      cases failed
    · rintro ⟨_, failed, -⟩
      cases failed

/-- A transaction over the store. -/
abbrev Tx (α : Type) := Txn.Prog Db LockKey TxError α

namespace Tx

open Txn

/-- Throw a workflow error unless `b`. -/
def requireW (b : Bool) (code : WorkflowErrorCode) (details : Fields) : Tx Unit :=
  Prog.require b (.workflow code details)

def requireE (b : Bool) (code : EntityErrorCode) (details : Fields) : Tx Unit :=
  Prog.require b (.entity code details)

/-- The error of an insert whose identifier is taken. -/
def pkey (table : String) : TxError := .unique (table ++ "_pkey")

def commit {α : Type} (p : Tx α) (db : Db) : Db :=
  match p.exec db with
  | .ok (_, db') => db'
  | .error _ => db

variable {α : Type} {db : Db} {P : Db → Prop}

theorem commit_cases (p : Tx α) (db : Db) :
    (∃ e, p.exec db = .error e ∧ p.commit db = db) ∨ ∃ a, p.exec db = .ok (a, p.commit db) := by
  unfold commit
  cases p.exec db with
  | error e => exact .inl ⟨e, rfl, rfl⟩
  | ok r => exact .inr ⟨r.1, rfl⟩

theorem commit_of {p : Tx α} (failed : P db)
    (returned : ∀ {a db'}, p.exec db = .ok (a, db') → P db') : P (p.commit db) := by
  rcases p.commit_cases db with ⟨_, -, same⟩ | ⟨_, ran⟩
  · rw [same]
    exact failed
  · exact returned ran

/-- The transaction returns. -/
def Commits {α : Type} (p : Tx α) (db : Db) : Prop := ∃ result, p.exec db = .ok result

theorem commit_iff {p : Tx α} {G : Prop} (before : P db)
    (after : ∀ {a db'}, p.exec db = .ok (a, db') → (P db' ↔ G)) :
    P (p.commit db) ↔ (p.Commits db → G) := by
  rcases p.commit_cases db with ⟨e, failed, same⟩ | ⟨a, ran⟩
  · rw [same]
    refine iff_of_true before fun ⟨result, ran⟩ => ?_
    rw [failed] at ran
    cases ran
  · rw [after ran]
    exact ⟨fun holds _ => holds, fun holds => holds ⟨_, ran⟩⟩

def insertOutbox (rows : List OutboxEvent) : Tx Unit :=
  Tables.outboxEvents.insert (pkey "outbox_events") rows

end Tx

end OpenWind
