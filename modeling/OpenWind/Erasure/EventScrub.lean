import OpenWind.Errors
import OpenWind.Lib.Replacing
import Mathlib.Algebra.Group.Int.Defs

/-!
# The scrubbing of the event log

`eraseUserFromTenant` takes a user out of the events of a tenant, one statement after the
other: the texts and the mentions of the comments, the acting person, the old and new values
of the field changes, the actor with the actor's name, and the performer.

A statement on the `metadata` of the events looks at the keys that it knows.  `->>` reads a
value as text, whatever it is; `jsonb_set` puts a text in its place.
-/

namespace OpenWind

open Replacing

structure TextRules where
  alnum : Char → Bool
  /-- What the flag `i` compares. -/
  lower : Char → Char
  toLowerCase : String → String
  render : Json → String
  outside : alnum '[' = false ∧ alnum ']' = false
  letters : ∀ c ∈ "REDACTED".toList, alnum c = true

def redacted : String := "[REDACTED]"

namespace TextRules

variable (rules : TextRules)

def text : Json → Option String
  | .null => none
  | .str s => some s
  | value => some (rules.render value)

def reads (metadata : Fields) (key text : String) : Bool :=
  (metadata.get key).bind rules.text == some text

/-! ## Patterns -/

def idLetter (c : Char) : Bool := rules.alnum c || c == '_' || c == '-'

/-- `@name`, not followed by another letter. -/
def namePattern (name : String) : Pattern Char where
  literal := '@' :: name.toList
  same c a := c == a
  before _ := true
  after text := text.head?.all fun c => !(rules.alnum c || c == '_')
  replacement := '@' :: redacted.toList

def addressPattern (address : String) : Pattern Char where
  literal := address.toList
  same c a := rules.lower c == rules.lower a
  before c := !(rules.alnum c || "._%+-".toList.contains c)
  after text := match text with
    | [] => true
    | c :: tail => !rules.idLetter c && !(c == '.' && tail.head?.any rules.alnum)
  replacement := redacted.toList

def idPattern (userId : String) : Pattern Char :=
  whole rules.idLetter userId.toList redacted.toList

end TextRules

/-- `regexp_replace`, for each of the patterns in turn. -/
def rewriteWith (patterns : List (Pattern Char)) (text : String) : String :=
  patterns.foldl (fun text p => String.ofList (p.replace text.toList)) text

/-! ## The person -/

/-- The membership row, as far as the texts are searched for it. -/
structure Identity where
  displayName : Option String := none
  email : Option String := none

def isAddress (s : String) : Bool :=
  let cs := s.toList
  cs.count '@' == 1 && cs.head? != some '@' && cs.getLast? != some '@' && !cs.any isSpace

namespace Identity

variable (identity : Identity) (rules : TextRules)

def trimmedEmail : String := trim (identity.email.getD "")

def nameRewrites : List (Pattern Char) :=
  let name := trim (identity.displayName.getD "")
  if 3 ≤ textLength name then [rules.namePattern name] else []

def emailRewrites : List (Pattern Char) :=
  if isAddress identity.trimmedEmail then [rules.addressPattern identity.trimmedEmail] else []

def rewrites (userId : String) : List (Pattern Char) :=
  identity.nameRewrites rules ++ identity.emailRewrites rules ++
    if 3 ≤ textLength userId then [rules.idPattern userId] else []

def minTextScanIdLength : Nat := 8

/-- The patterns for every comment. -/
def identifierRewrites (userId : String) : List (Pattern Char) :=
  identity.emailRewrites rules ++
    if minTextScanIdLength ≤ textLength userId then [rules.idPattern userId] else []

end Identity

/-! ## Comments -/

section Comments

variable (rules : TextRules) (tenantId : Id) (userId : String) (identity : Identity)

def isComment (metadata : Fields) : Bool := rules.reads metadata "type" "comment"

def eventText (metadata : Fields) : Option String :=
  match metadata.get "text" with
  | some (.str text) => some text
  | _ => none

def updateMetadata (p : WorkflowEvent → Bool) (f : Fields → Fields)
    (events : List WorkflowEvent) : List WorkflowEvent :=
  events.map fun e =>
    if e.tenantId == tenantId && p e then { e with metadata := f e.metadata } else e

def rewriteText (patterns : List (Pattern Char)) (text : Option String) (base : Fields) : Fields :=
  match text with
  | none => base
  | some text => base.set "text" (.str (rewriteWith patterns text))

def recordedAs (metadata : Fields) : List Json :=
  match metadata.get "mentionIdentifiers" with
  | some (.obj entries) =>
    match Fields.get entries userId with
    | some (.arr items) => items
    | _ => []
  | _ => []

def recordedAliases (events : List WorkflowEvent) : List (Option String) :=
  ((events.filter fun e => e.tenantId == tenantId && isComment rules e.metadata).flatMap
    fun e => (recordedAs userId e.metadata).map rules.text).dedup

def aliasValues : (known : List String) → List String → List String
  | _, [] => []
  | known, typed :: rest =>
    let value := trim typed
    if textLength value < 3 || known.contains (rules.toLowerCase value) then aliasValues known rest
    else value :: aliasValues (rules.toLowerCase value :: known) rest

def recordsAlias (value : String) (metadata : Fields) : Bool :=
  isComment rules metadata && (eventText metadata).isSome &&
    (recordedAs userId metadata).any (·.strictEq (.str value))

def scrubAlias (events : List WorkflowEvent) (value : String) : List WorkflowEvent :=
  updateMetadata tenantId (fun e => recordsAlias rules userId value e.metadata)
    (fun metadata => rewriteText [rules.addressPattern value] (eventText metadata) metadata) events

def mentionsUser (metadata : Fields) : Bool :=
  match metadata.get "mentions" with
  | some (.arr items) => items.any (·.strictEq (.str userId))
  | _ => false

def pathInt (element : String) : Option Int :=
  let digits (cs : List Char) : Option Int :=
    if !cs.isEmpty && cs.all Char.isDigit then
      some (cs.foldl (fun (n : Int) c => 10 * n + (c.toNat - '0'.toNat : Nat)) 0)
    else none
  let value : Option Int := match element.toList with
    | '-' :: cs => (digits cs).map fun n => -n
    | '+' :: cs => digits cs
    | cs => digits cs
  value.filter fun i => decide (-2 ^ 31 ≤ i ∧ i < 2 ^ 31)

def Json.dropPath (element : String) : Json → Option Json
  | .obj entries => some (.obj (Fields.erase entries element))
  | .arr items => (pathInt element).map fun (i : Int) =>
    if i < 0 then .arr (if -i ≤ items.length then items.eraseIdx (items.length + i).toNat else items)
    else .arr (items.eraseIdx i.toNat)
  | value => some value

def otherMentions : Option Json → List Json
  | some (.arr items) => items.filter fun item => !item.strictEq (.str userId)
  | _ => []

def withoutMention (metadata : Fields) : Option Fields :=
  let unmentioned := metadata.set "mentions" (.arr (otherMentions userId (metadata.get "mentions")))
  match unmentioned.get "mentionIdentifiers" with
  | none => some unmentioned
  | some identifiers =>
    (identifiers.dropPath userId).map fun rest => unmentioned.set "mentionIdentifiers" rest

def unmention (metadata : Fields) : Fields :=
  let base := (withoutMention userId metadata).getD metadata
  match identity.rewrites rules userId with
  | [] => base
  | rewrites => rewriteText rewrites (eventText metadata) base

/-- The comments that recorded a mention of the user. -/
def scrubMentions (events : List WorkflowEvent) : Option (List WorkflowEvent) :=
  if events.all fun e => !(e.tenantId == tenantId && mentionsUser userId e.metadata) ||
      (withoutMention userId e.metadata).isSome then
    some (updateMetadata tenantId (fun e => mentionsUser userId e.metadata)
      (unmention rules userId identity) events)
  else none

def textIdentifies (metadata : Fields) : Bool :=
  isComment rules metadata && (eventText metadata).any fun text =>
    (identity.identifierRewrites rules userId).any fun p => p.occurs text.toList

def scrubTexts (events : List WorkflowEvent) : List WorkflowEvent :=
  updateMetadata tenantId (fun e => textIdentifies rules userId identity e.metadata)
    (fun metadata => rewriteText (identity.identifierRewrites rules userId) (eventText metadata)
      metadata) events

def scrubComments (events : List WorkflowEvent) : Option (List WorkflowEvent) := do
  let recorded ← (recordedAliases rules tenantId userId events).mapM id
  let values := aliasValues rules [rules.toLowerCase identity.trimmedEmail, userId] recorded
  let scrubbed ← scrubMentions rules tenantId userId identity
    (values.foldl (scrubAlias rules tenantId userId) events)
  return scrubTexts rules tenantId userId identity scrubbed

end Comments

/-! ## The other events -/

section Events

variable (rules : TextRules) (tenantId : Id) (userId : String)

def scrubActingPerson (events : List WorkflowEvent) : List WorkflowEvent :=
  updateMetadata tenantId (fun e => rules.reads e.metadata "actingPersonId" userId)
    (fun metadata => metadata.set "actingPersonId" (.str redacted)) events

def redactValue (key : String) (change : Fields) : Fields :=
  if rules.reads change key userId then change.set key (.str redacted) else change

/-- `{old, new}` of a field. -/
def redactChange : Json → Json
  | .obj change => .obj (redactValue rules userId "new" (redactValue rules userId "old" change))
  | value => value

def changesUser : Json → Bool
  | .obj change => rules.reads change "old" userId || rules.reads change "new" userId
  | _ => false

def changesNamed (metadata : Fields) : Bool :=
  match metadata.get "changed" with
  | some (.obj changed) => changed.any fun entry => changesUser rules userId entry.2
  | _ => false

def redactChanges (metadata : Fields) : Fields :=
  match metadata.get "changed" with
  | some (.obj changed) => metadata.set "changed"
      (.obj (changed.map fun entry => (entry.1, redactChange rules userId entry.2)))
  | _ => metadata

def scrubChanges (events : List WorkflowEvent) : List WorkflowEvent :=
  updateMetadata tenantId (fun e => changesNamed rules userId e.metadata)
    (redactChanges rules userId) events

def scrubActor (events : List WorkflowEvent) : List WorkflowEvent :=
  events.map fun e =>
    if e.tenantId == tenantId && e.actorId == some userId then
      { e with
        actorId := some redacted
        metadata := if (e.metadata.get "actorName").isSome then
            e.metadata.set "actorName" (.str redacted)
          else e.metadata }
    else e

def scrubPerformer (events : List WorkflowEvent) : List WorkflowEvent :=
  events.map fun e =>
    if e.tenantId == tenantId && e.originPerformerUserId == some userId then
      { e with originPerformerUserId := some redacted }
    else e

def scrubEvents (identity : Identity) (events : List WorkflowEvent) : Option (List WorkflowEvent) :=
  (scrubComments rules tenantId userId identity events).map fun scrubbed =>
    scrubPerformer tenantId userId (scrubActor tenantId userId
      (scrubChanges rules tenantId userId (scrubActingPerson rules tenantId userId scrubbed)))

def isMember (user : TenantUser) : Bool :=
  user.tenantId == tenantId && user.userId == userId

/-- What the membership row says of the user. -/
def Db.identityOf (db : Db) : Identity :=
  match db.tenantUsers.find? (isMember tenantId userId) with
  | none => {}
  | some member => ⟨member.displayName, member.email⟩

/-- The membership is read first, and goes last. -/
def eraseUserFromTenant (db : Db) : Option Db :=
  (scrubEvents rules tenantId userId (db.identityOf tenantId userId) db.workflowEvents).map
    fun events =>
      { db with
        workflowEvents := events
        tenantUsers := db.tenantUsers.filter fun user => !isMember tenantId userId user }

end Events

end OpenWind
