import OpenWind.Entity.StateLock
import OpenWind.Lib.QuotedText

/-!
# The text of the conditions

`isLockedWorkflow` does not walk the conditions of a workflow: it searches the text of the
`jsonb` column for `"actor_`, taking it that only an operator can be written so.  A field name,
a text to compare with or a key of such a value can be as well.
-/

open List Option

namespace OpenWind

open QuotedText

/-! ## The text of a document -/

def controlText (code : Nat) : List Char :=
  match code with
  | 8 => ['b']
  | 9 => ['t']
  | 10 => ['n']
  | 12 => ['f']
  | 13 => ['r']
  | code => ['u', '0', '0', Nat.digitChar (code / 16), Nat.digitChar (code % 16)]

def escapeJson (c : Char) : List Char :=
  if c = '"' then ['\\', '"']
  else if c = '\\' then ['\\', '\\']
  else if c.toNat < 0x20 then '\\' :: controlText c.toNat
  else [c]

theorem controlText_unquoted : ∀ code < 0x20, '"' ∉ controlText code := by decide

def jsonQuotes : Escaping '"' where
  escape := escapeJson
  isPlain c := c ≠ '"' ∧ c ≠ '\\' ∧ 0x20 ≤ c.toNat
  plain c := fun ⟨noQuote, noSlash, printed⟩ => by
    unfold escapeJson
    rw [if_neg noQuote, if_neg noSlash, if_neg (Nat.not_lt.mpr printed)]
  other c unplain := by
    unfold escapeJson
    by_cases isQuote : c = '"'
    · rw [if_pos isQuote]
      exact ⟨'\\', _, rfl, by decide⟩
    · by_cases isSlash : c = '\\'
      · rw [if_neg isQuote, if_pos isSlash]
        exact ⟨'\\', _, rfl, by decide⟩
      · have control : c.toNat < 0x20 := by
          by_contra printed
          exact unplain ⟨isQuote, isSlash, Nat.le_of_not_lt printed⟩
        rw [if_neg isQuote, if_neg isSlash, if_pos control]
        exact ⟨'\\', _, rfl, by decide⟩
  quoted := ⟨'\\', rfl, by decide⟩
  quote_other plain := plain.1 rfl
  unquoted c other := by
    unfold escapeJson
    rw [if_neg other]
    split
    · decide
    · split
      next control =>
        rw [mem_cons, not_or]
        exact ⟨by decide, controlText_unquoted _ control⟩
      next => exact fun mem => other (mem_singleton.mp mem).symm

/-- How the database writes the numbers of a document. -/
structure NumericText where
  chars : Rat → List Char
  unquoted : ∀ n, '"' ∉ chars n

section Texts

variable (numeric : NumericText)

mutual

/-- The text of a document. -/
def Json.chars : Json → List Char
  | .null => "null".toList
  | .bool true => "true".toList
  | .bool false => "false".toList
  | .num n => numeric.chars n
  | .str s => jsonQuotes.quotes s.toList
  | .arr items => '[' :: ([',', ' '].intercalate (Json.itemTexts items) ++ [']'])
  | .obj entries => '\x7b' :: ([',', ' '].intercalate (Json.entryTexts entries) ++ ['\x7d'])

def Json.itemTexts : List Json → List (List Char)
  | [] => []
  | item :: rest => item.chars :: Json.itemTexts rest

def Json.entryTexts : List (String × Json) → List (List Char)
  | [] => []
  | (key, value) :: rest =>
    (jsonQuotes.quotes key.toList ++ [':', ' '] ++ value.chars) :: Json.entryTexts rest

end

end Texts

def FieldOp.text : FieldOp → String
  | .eq => "eq"
  | .neq => "neq"
  | .gt => "gt"
  | .gte => "gte"
  | .lt => "lt"
  | .lte => "lte"
  | .contains => "contains"
  | .in => "in"
  | .empty => "empty"
  | .notEmpty => "not_empty"

mutual

def TransitionConditionTree.toJson : TransitionConditionTree → Json
  | .and children =>
    .obj [("op", .str "and"), ("children", .arr (TransitionConditionTree.toJsons children))]
  | .or children =>
    .obj [("op", .str "or"), ("children", .arr (TransitionConditionTree.toJsons children))]
  | .not child => .obj [("op", .str "not"), ("child", child.toJson)]
  | .field cond =>
    .obj (("op", .str cond.op.text) :: ("field", .str cond.field) ::
      (cond.value.map fun value => ("value", value)).toList)
  | .actorNotCreator => .obj [("op", .str "actor_not_creator")]
  | .actorIsCreator => .obj [("op", .str "actor_is_creator")]
  | .actorNotPriorActor states =>
    .obj (("op", .str "actor_not_prior_actor") ::
      (states.map fun states => ("states", Json.arr (states.map .str))).toList)

def TransitionConditionTree.toJsons : List TransitionConditionTree → List Json
  | [] => []
  | child :: rest => child.toJson :: TransitionConditionTree.toJsons rest

end

/-! ## The search -/

def ACTOR_RULE_PATTERN : String := "%\"actor\\_%"

def matchesActorRule (text : List Char) : Bool :=
  likeMatches (likeTokens '\\' ACTOR_RULE_PATTERN.toList) text

theorem matchesActorRule_iff {text : List Char} :
    matchesActorRule text ↔ Mentions '"' "actor_".toList text := by
  have tokens : likeTokens '\\' ACTOR_RULE_PATTERN.toList =
      .any :: ('"' :: "actor_".toList).map .char ++ [.any] := by decide
  unfold matchesActorRule
  rw [tokens]
  exact likeMatches_contains

theorem textMentionsActor_iff {s : String} :
    textMentionsActor s ↔ "actor_".toList <+: s.toList ∨ Mentions '"' "actor_".toList s.toList := by
  have word : "\"actor_".toList = '"' :: "actor_".toList := by decide
  unfold textMentionsActor startsWith includesText Mentions
  rw [Bool.or_eq_true, isPrefixOf_iff_prefix, List.any_eq_true, word, infix_iff_prefix_suffix]
  simp only [mem_tails, isPrefixOf_iff_prefix]
  exact or_congr_right (exists_congr fun _ => and_comm)

section Search

variable (numeric : NumericText)

abbrev TellsActor (text : List Char) (m : Prop) : Prop :=
  jsonQuotes.Tells 'a' "ctor_".toList text m

theorem tellsActor_quotes (s : String) :
    TellsActor (jsonQuotes.quotes s.toList) (textMentionsActor s) :=
  (Escaping.tells_quotes s.toList).congr textMentionsActor_iff.symm

theorem tellsActor_free {text : List Char} (free : '"' ∉ text) : TellsActor text (false) :=
  (Escaping.tells_free free).congr (iff_of_false id Bool.false_ne_true)

theorem tellsActor_row {texts : List (List Char)} {m : Prop} {opened closed : Char}
    (tells : TellsActor ([',', ' '].intercalate texts) m) (open_ : opened ≠ '"')
    (close : closed ≠ '"' ∧ closed ≠ 'a') :
    TellsActor (opened :: ([',', ' '].intercalate texts ++ [closed])) m := by
  have inside : TellsActor ([',', ' '].intercalate texts ++ [closed]) m := by
    refine tells.append_free (fun mem => close.1 (mem_singleton.mp mem).symm) fun _ same => ?_
    exact close.2 (Option.some.inj same)
  have clear : '"' ∉ [opened] := fun mem => open_ (mem_singleton.mp mem).symm
  exact inside.free_append clear

theorem tellsActor_cons {text : List Char} {texts : List (List Char)} {m k : Prop}
    (tells : TellsActor text m) (tells' : TellsActor ([',', ' '].intercalate texts) k)
    (none_ : texts = [] → ¬ k) : TellsActor ([',', ' '].intercalate (text :: texts)) (m ∨ k) := by
  cases texts with
  | nil =>
    rw [intercalate_singleton]
    exact tells.congr (or_iff_left (none_ rfl)).symm
  | cons next texts =>
    rw [intercalate_cons_cons]
    exact tells.append (by decide) (fun _ same => by cases same) tells'

mutual

theorem tellsActor_chars : ∀ json : Json,
    TellsActor (json.chars numeric) (json.mentionsActor = true)
  | .null => tellsActor_free (show '"' ∉ "null".toList by decide)
  | .bool true => tellsActor_free (show '"' ∉ "true".toList by decide)
  | .bool false => tellsActor_free (show '"' ∉ "false".toList by decide)
  | .num n => tellsActor_free (numeric.unquoted n)
  | .str s => tellsActor_quotes s
  | .arr items => tellsActor_row (tellsActor_items items) (by decide) (by decide)
  | .obj entries => tellsActor_row (tellsActor_entries entries) (by decide) (by decide)

theorem tellsActor_items : ∀ items : List Json,
    TellsActor ([',', ' '].intercalate (Json.itemTexts numeric items))
      (Json.someMentionsActor items = true)
  | [] => tellsActor_free not_mem_nil
  | item :: rest => by
    rw [Json.itemTexts, Json.someMentionsActor, Bool.or_eq_true]
    refine tellsActor_cons (tellsActor_chars item) (tellsActor_items rest) fun none_ => ?_
    cases rest with
    | nil => exact Bool.false_ne_true
    | cons _ _ => cases none_

theorem tellsActor_entries : ∀ entries : List (String × Json),
    TellsActor ([',', ' '].intercalate (Json.entryTexts numeric entries))
      (Json.entriesMentionActor entries)
  | [] => tellsActor_free not_mem_nil
  | (key, value) :: rest => by
    rw [Json.entryTexts, Json.entriesMentionActor, Bool.or_eq_true, Bool.or_eq_true]
    have entry : TellsActor (jsonQuotes.quotes key.toList ++ [':', ' '] ++ value.chars numeric)
        (textMentionsActor key ∨ value.mentionsActor) :=
      (tellsActor_quotes key).append (by decide) (fun _ same => by cases same)
        (tellsActor_chars value)
    refine tellsActor_cons entry (tellsActor_entries rest) fun none_ => ?_
    cases rest with
    | nil => exact Bool.false_ne_true
    | cons _ _ => cases none_

end

end Search

/-! ## Names of the actor in a tree -/

theorem textMentionsActor_plain : ∀ text ∈ ["op", "field", "value", "child", "children", "states",
    "and", "or", "not", "eq", "neq", "gt", "gte", "lt", "lte", "contains", "in", "empty",
    "not_empty"], textMentionsActor text = false := by
  decide

theorem FieldOp.text_plain (op : FieldOp) : textMentionsActor op.text = false := by
  refine textMentionsActor_plain _ ?_
  cases op <;> decide

theorem entriesMentionActor_cons {key : String} (plain : textMentionsActor key = false)
    (value : Json) (rest : List (String × Json)) :
    Json.entriesMentionActor ((key, value) :: rest) =
      (value.mentionsActor || Json.entriesMentionActor rest) := by
  rw [Json.entriesMentionActor, plain, Bool.false_or]

theorem op_mentionsActor {op : String} (plain : textMentionsActor op = false)
    (rest : List (String × Json)) :
    Json.mentionsActor (.obj (("op", .str op) :: rest)) = Json.entriesMentionActor rest := by
  rw [Json.mentionsActor, entriesMentionActor_cons (textMentionsActor_plain _ (by decide)),
    Json.mentionsActor, plain, Bool.false_or]

theorem children_mentionsActor {op : String} (plain : textMentionsActor op = false)
    (items : List Json) :
    Json.mentionsActor (.obj [("op", .str op), ("children", .arr items)]) =
      Json.someMentionsActor items := by
  rw [op_mentionsActor plain, entriesMentionActor_cons (textMentionsActor_plain _ (by decide)),
    Json.mentionsActor, Json.entriesMentionActor, Bool.or_false]

mutual

theorem toJson_mentionsActor : ∀ tree : TransitionConditionTree,
    tree.toJson.mentionsActor = tree.mentionsActor
  | .and children => by
    rw [TransitionConditionTree.toJson, children_mentionsActor (textMentionsActor_plain _ (by decide)),
      toJsons_mentionActor children, TransitionConditionTree.mentionsActor]
  | .or children => by
    rw [TransitionConditionTree.toJson, children_mentionsActor (textMentionsActor_plain _ (by decide)),
      toJsons_mentionActor children, TransitionConditionTree.mentionsActor]
  | .not child => by
    rw [TransitionConditionTree.toJson, op_mentionsActor (textMentionsActor_plain _ (by decide)),
      entriesMentionActor_cons (textMentionsActor_plain _ (by decide)), toJson_mentionsActor child,
      Json.entriesMentionActor, Bool.or_false, TransitionConditionTree.mentionsActor]
  | .field cond => by
    rw [TransitionConditionTree.toJson, op_mentionsActor cond.op.text_plain,
      entriesMentionActor_cons (textMentionsActor_plain _ (by decide)), Json.mentionsActor,
      TransitionConditionTree.mentionsActor, FieldCondition.mentionsActor]
    cases cond.value with
    | none => rfl
    | some value =>
      rw [map_some, toList_some, entriesMentionActor_cons
        (textMentionsActor_plain _ (by decide)), Json.entriesMentionActor, Bool.or_false]
  | .actorNotCreator => by decide
  | .actorIsCreator => by decide
  | .actorNotPriorActor states => by
    have rule : textMentionsActor "actor_not_prior_actor" := by decide
    rw [TransitionConditionTree.toJson, Json.mentionsActor, entriesMentionActor_cons
      (textMentionsActor_plain _ (by decide)), Json.mentionsActor, rule, Bool.true_or,
      TransitionConditionTree.mentionsActor]

theorem toJsons_mentionActor : ∀ children : List TransitionConditionTree,
    Json.someMentionsActor (TransitionConditionTree.toJsons children) =
      TransitionConditionTree.someMentionsActor children
  | [] => rfl
  | child :: rest => by
    rw [TransitionConditionTree.toJsons, Json.someMentionsActor, toJson_mentionsActor child,
      toJsons_mentionActor rest, TransitionConditionTree.someMentionsActor]

end

theorem matchesActorRule_toJson (numeric : NumericText) (tree : TransitionConditionTree) :
    matchesActorRule (tree.toJson.chars numeric) = tree.mentionsActor := by
  have word : "actor_".toList = 'a' :: "ctor_".toList := by decide
  have rest : "ctor_".toList = ['c', 't', 'o', 'r', '_'] := by decide
  have plain : ∀ c ∈ 'a' :: "ctor_".toList, c ≠ '"' ∧ c ≠ '\\' ∧ 0x20 ≤ c.toNat := by
    rw [rest]
    simp
  rw [Bool.eq_iff_iff, matchesActorRule_iff, ← toJson_mentionsActor, word]
  exact (tellsActor_chars numeric tree.toJson).mentions plain

mutual

def TransitionConditionTree.namesActor : TransitionConditionTree → Bool
  | .and children => TransitionConditionTree.someNamesActor children
  | .or children => TransitionConditionTree.someNamesActor children
  | .not child => child.namesActor
  | .field cond => cond.mentionsActor
  | _ => false

def TransitionConditionTree.someNamesActor : List TransitionConditionTree → Bool
  | [] => false
  | child :: rest => child.namesActor || TransitionConditionTree.someNamesActor rest

end

mutual

theorem mentionsActor_eq : ∀ tree : TransitionConditionTree,
    tree.mentionsActor = (treeUsesActorRule tree || tree.namesActor)
  | .and children => someMentionsActor_eq children
  | .or children => someMentionsActor_eq children
  | .not child => mentionsActor_eq child
  | .field _ => (Bool.false_or _).symm
  | .actorNotCreator => rfl
  | .actorIsCreator => rfl
  | .actorNotPriorActor _ => rfl

theorem someMentionsActor_eq : ∀ children : List TransitionConditionTree,
    TransitionConditionTree.someMentionsActor children =
      (someUsesActorRule children || TransitionConditionTree.someNamesActor children)
  | [] => rfl
  | child :: rest => by
    rw [TransitionConditionTree.someMentionsActor, mentionsActor_eq child,
      someMentionsActor_eq rest, someUsesActorRule, TransitionConditionTree.someNamesActor]
    ac_rfl

end

/-! ## The lock -/

def WorkflowTransition.matchesPattern (numeric : NumericText) (tenantId workflowId : Id)
    (transition : WorkflowTransition) : Bool :=
  transition.workflowId == workflowId && transition.tenantId == tenantId &&
    match transition.conditions with
    | none => false
    | some tree => matchesActorRule (tree.toJson.chars numeric)

/-- `isStateWriteLocked`, with the search of the text. -/
def isStateWriteLocked (numeric : NumericText) (db : Db) (tenantId workflowId : Id) : Bool :=
  ((db.workflows.filter fun workflow =>
    workflow.tenantId == some tenantId && [workflowId].contains workflow.id &&
      (workflow.allowStateOverride ||
        db.workflowTransitions.any (WorkflowTransition.matchesPattern numeric tenantId workflow.id))
    ).map (·.id)).contains workflowId

theorem isStateWriteLocked_eq (numeric : NumericText) (db : Db) (tenantId workflowId : Id) :
    isStateWriteLocked numeric db tenantId workflowId =
      db.isStateWriteLocked tenantId workflowId := by
  have same : ∀ id, WorkflowTransition.matchesPattern numeric tenantId id =
      WorkflowTransition.locks tenantId id := by
    intro id
    funext transition
    unfold WorkflowTransition.matchesPattern WorkflowTransition.locks
    cases transition.conditions with
    | none => rfl
    | some tree =>
      dsimp only
      rw [matchesActorRule_toJson]
  unfold isStateWriteLocked Db.isStateWriteLocked Db.lockedWorkflowIds Db.isLockedWorkflow
  simp only [same]

def Db.someTree (db : Db) (tenantId workflowId : Id) (p : TransitionConditionTree → Bool) : Bool :=
  db.workflowTransitions.any fun transition =>
    transition.workflowId == workflowId && transition.tenantId == tenantId &&
      transition.conditions.any p

theorem Db.someTree_or (db : Db) (tenantId workflowId : Id) (p q : TransitionConditionTree → Bool) :
    (db.someTree tenantId workflowId fun tree => p tree || q tree) =
      (db.someTree tenantId workflowId p || db.someTree tenantId workflowId q) := by
  unfold someTree
  induction db.workflowTransitions with
  | nil => rfl
  | cons transition rest ih =>
    rw [any_cons, any_cons, any_cons, ih]
    cases transition.conditions with
    | none => simp
    | some tree =>
      rw [any_some, any_some, any_some, Bool.and_or_distrib_left]
      ac_rfl

theorem isStateWriteLocked_iff (numeric : NumericText) {db : Db} {tenantId : Id}
    {workflow : Workflow} (keyed : Tables.workflows.Keyed db) (mem : workflow ∈ db.workflows) :
    isStateWriteLocked numeric db tenantId workflow.id ↔
      workflow.tenantId = some tenantId ∧ (workflow.allowStateOverride ∨
        db.someTree tenantId workflow.id treeUsesActorRule ∨
        db.someTree tenantId workflow.id TransitionConditionTree.namesActor) := by
  have searched : db.workflowTransitions.any (WorkflowTransition.locks tenantId workflow.id) =
      (db.someTree tenantId workflow.id treeUsesActorRule ||
        db.someTree tenantId workflow.id TransitionConditionTree.namesActor) := by
    rw [← Db.someTree_or]
    unfold Db.someTree
    congr 1
    funext transition
    unfold WorkflowTransition.locks
    cases transition.conditions with
    | none => rfl
    | some tree => rw [any_some, ← mentionsActor_eq]
  rw [isStateWriteLocked_eq, ← Bool.not_eq_false, Db.isStateWriteLocked_eq_false]
  push Not
  constructor
  · rintro ⟨other, mem', own, same, locked⟩
    obtain rfl := keyed.eq mem' mem (congrArg (LockKey.row .workflows) same)
    refine ⟨own, ?_⟩
    unfold Db.isLockedWorkflow at locked
    rw [Bool.ne_false_iff, searched, Bool.or_eq_true, Bool.or_eq_true] at locked
    exact locked
  · rintro ⟨own, locked⟩
    refine ⟨workflow, mem, own, rfl, ?_⟩
    unfold Db.isLockedWorkflow
    rw [Bool.ne_false_iff, searched, Bool.or_eq_true, Bool.or_eq_true]
    exact locked

def LockAgrees (numeric : NumericText) (db : Db) (tenantId : Id) (workflow : Workflow) : Prop :=
  isStateWriteLocked numeric db tenantId workflow.id = true ↔
    workflow.allowStateOverride = true ∨ db.someTree tenantId workflow.id treeUsesActorRule = true

/-- The lock agrees with the rules of a workflow exactly when these lock it, or none of its field
conditions has a name or a text that mentions the actor; a workflow that is not the tenant's own
is never locked. -/
theorem isStateWriteLocked_agrees_iff (numeric : NumericText) {db : Db} {tenantId : Id}
    {workflow : Workflow} (keyed : Tables.workflows.Keyed db) (mem : workflow ∈ db.workflows) :
    LockAgrees numeric db tenantId workflow ↔
      if workflow.tenantId = some tenantId then
        workflow.allowStateOverride = true ∨
          db.someTree tenantId workflow.id treeUsesActorRule = true ∨
          db.someTree tenantId workflow.id TransitionConditionTree.namesActor = false
      else
        workflow.allowStateOverride = false ∧
          db.someTree tenantId workflow.id treeUsesActorRule = false := by
  unfold LockAgrees
  rw [isStateWriteLocked_iff numeric keyed mem]
  generalize db.someTree tenantId workflow.id treeUsesActorRule = uses
  generalize db.someTree tenantId workflow.id TransitionConditionTree.namesActor = names
  generalize workflow.allowStateOverride = override
  by_cases own : workflow.tenantId = some tenantId
  · simp only [own, true_and, if_true]
    cases override <;> cases uses <;> cases names <;> decide
  · simp only [own, false_and, if_false]
    cases override <;> cases uses <;> decide

/-! ## A field called `actor_id` -/

def ConditionSchema.MAX_DEPTH : Nat := 8
def ConditionSchema.MAX_CHILDREN : Nat := 20

def treeSchema : Nat → TransitionConditionTree → Bool
  | _, .field cond => decide (1 ≤ textLength cond.field) && decide (textLength cond.field ≤ 200)
  | _, .actorNotCreator => true
  | _, .actorIsCreator => true
  | _, .actorNotPriorActor states => states.all fun states =>
    decide (1 ≤ states.length) && decide (states.length ≤ 50) &&
      states.all fun name => decide (1 ≤ textLength name) && decide (textLength name ≤ 100)
  | levels + 2, .and children =>
    decide (1 ≤ children.length) && decide (children.length ≤ ConditionSchema.MAX_CHILDREN) &&
      children.all (treeSchema (levels + 1))
  | levels + 2, .or children =>
    decide (1 ≤ children.length) && decide (children.length ≤ ConditionSchema.MAX_CHILDREN) &&
      children.all (treeSchema (levels + 1))
  | levels + 2, .not child => treeSchema (levels + 1) child
  | _, _ => false

mutual

def notOverActorRule : TransitionConditionTree → Bool
  | .and children => someNotOverActorRule children
  | .or children => someNotOverActorRule children
  | .not child => treeUsesActorRule child || notOverActorRule child
  | _ => false

def someNotOverActorRule : List TransitionConditionTree → Bool
  | [] => false
  | child :: rest => notOverActorRule child || someNotOverActorRule rest

end

def TransitionConditionsSchema (tree : TransitionConditionTree) : Bool :=
  treeSchema ConditionSchema.MAX_DEPTH tree && !notOverActorRule tree

def ticketWorkflow : Workflow :=
  { id := 1, tenantId := some 1, entityTypeId := 2, initialState := "open" }

def oneTransitionDb (conditions : TransitionConditionTree) : Db where
  workflows := [ticketWorkflow]
  workflowTransitions := [{ id := 5, tenantId := 1, workflowId := 1, fromState := "open",
                            toState := "done", conditions := some conditions }]

def wholeNumbers : NumericText where
  chars n := Nat.toDigits 10 n.num.natAbs
  unquoted n mem := by
    have digit := Nat.isDigit_of_mem_toDigits (by decide) (by decide) mem
    revert digit
    decide

/-- The schema admits the condition, no rule is on the actor, and the workflow is locked. -/
theorem actor_field_locks :
    TransitionConditionsSchema (.field ⟨.eq, "actor_id", some (.str "u1")⟩) = true ∧
      ¬ LockAgrees wholeNumbers
        (oneTransitionDb (.field ⟨.eq, "actor_id", some (.str "u1")⟩)) 1 ticketWorkflow := by
  refine ⟨by decide, fun agrees => ?_⟩
  unfold LockAgrees at agrees
  rw [isStateWriteLocked_eq] at agrees
  revert agrees
  decide

/-- A rule on the actor beside a field with another name. -/
theorem isStateWriteLocked_agrees_ruled :
    LockAgrees wholeNumbers
      (oneTransitionDb (.and [.field ⟨.empty, "owner", none⟩, .actorNotCreator])) 1
      ticketWorkflow := by
  have keyed : Tables.workflows.Keyed
      (oneTransitionDb (.and [.field ⟨.empty, "owner", none⟩, .actorNotCreator])) :=
    nodup_singleton _
  have own : ticketWorkflow.tenantId = some 1 := rfl
  refine (isStateWriteLocked_agrees_iff wholeNumbers keyed (mem_singleton_self _)).mpr ?_
  rw [if_pos own]
  exact .inr (.inl (by decide))

end OpenWind
