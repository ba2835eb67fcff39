import OpenWind.Erasure.Forgotten
import OpenWind.Workflow.Notes

/-!
# The writers that the scrubbing does not know

No erasure takes a user out of these events.
-/

namespace OpenWind

open Txn

variable {rules : TextRules} {userId : String} {e : WorkflowEvent}

theorem unreached_of_key {value : Json} (key : String) (unknown : key ∉ scrubbedKeys)
    (found : e.metadata.get key = some value) (names : value.Names userId) :
    ¬ e.Reached rules userId :=
  fun reached => reached.other key unknown value found names

/-! ## Access -/

inductive AccessEventType
  | access_grant | access_update | access_revoke | access_reject
  deriving DecidableEq

def AccessEventType.text : AccessEventType → String
  | .access_grant => "access_grant"
  | .access_update => "access_update"
  | .access_revoke => "access_revoke"
  | .access_reject => "access_reject"

structure AccessEventPayload where
  type : AccessEventType
  targetUserId : String
  targetDisplayName : Option (Option String) := none
  level : Option String := none
  oldLevel : Option String := none
  tag : Option String := none

/-- The metadata of the event; a missing value is left out. -/
def AccessEventPayload.metadata (payload : AccessEventPayload) : Fields :=
  [("type", .str payload.type.text), ("targetUserId", .str payload.targetUserId)] ++
    (payload.targetDisplayName.map fun name => ("targetDisplayName", .optStr name)).toList ++
    (payload.level.map fun level => ("level", .str level)).toList ++
    (payload.oldLevel.map fun level => ("oldLevel", .str level)).toList ++
    (payload.tag.map fun tag => ("tag", .str tag)).toList

theorem accessEvent_kept {payload : AccessEventPayload} (written : e.metadata = payload.metadata) :
    ¬ e.Reached rules payload.targetUserId := by
  refine unreached_of_key "targetUserId" (by decide) ?_ .text
  rw [written]
  rfl

/-! ## Tags -/

/-- The event of the removal of a tag. -/
def tagRemovedMetadata (tagText createdBy userId : String) : Fields :=
  [("type", .str "tag_removed"), ("tagText", .str tagText)] ++
    if createdBy = userId then [] else [("originalCreatedBy", .str createdBy)]

theorem tagRemoved_kept {tagText createdBy userId : String}
    (written : e.metadata = tagRemovedMetadata tagText createdBy userId)
    (other : createdBy ≠ userId) : ¬ e.Reached rules createdBy := by
  refine unreached_of_key "originalCreatedBy" (by decide) ?_ .text
  rw [written, tagRemovedMetadata, if_neg other]
  rfl

/-! ## Records -/

theorem create_kept {userId field : String} {input : CreateEntityInput} {row : EntityInstance}
    {workflowId : Id} {redacted : Fields} {supply : EntitySupply}
    (refers : redacted.get field = some (.str userId)) :
    ¬ (input.event row workflowId redacted supply).Reached rules userId :=
  unreached_of_key "fields" (by decide) rfl (.entry refers .text)

/-! ## A grant of access, and a comment -/

/-- The letters of ASCII; lists and objects have no text here. -/
def asciiRules : TextRules where
  alnum := Char.isAlphanum
  lower := Char.toLower
  toLowerCase := String.toLower
  render
    | .bool b => toString b
    | .num n => toString n
    | _ => ""
  outside := by decide
  letters := List.all_eq_true.mp (by decide)

def erasedUser : String := "308012345678901234"

def ticketDb : Db where
  entityInstances :=
    [{ id := 2, entityTypeId := 5, tenantId := 1, workflowId := some 3, createdAt := 0,
       updatedAt := 0 }]

def accessGrant : AccessEventPayload where
  type := .access_grant
  targetUserId := erasedUser
  level := some "read_only"
  tag := some "mention"

/-- A grant of access is recorded for good. -/
theorem access_grant_survives_erasure :
    ∃ db db', (emitAccessEvent 1 2 "admin" accessGrant.metadata 1 4).exec ticketDb = .ok ((), db) ∧
      8 ≤ textLength erasedUser ∧
      eraseUserFromTenant asciiRules 1 erasedUser db = some db' ∧
      ∃ e ∈ db'.workflowEvents, e.tenantId = 1 ∧ e.Names erasedUser := by
  have ran : (((emitAccessEvent 1 2 "admin" accessGrant.metadata 1 4).exec ticketDb).toOption.any
      fun done => (eraseUserFromTenant asciiRules 1 erasedUser done.2).any fun db' =>
        db'.workflowEvents.any fun e => e.tenantId == 1 &&
          e.metadata.get "targetUserId" == some (.str erasedUser)) = true := by
    decide +kernel
  cases granted : (emitAccessEvent 1 2 "admin" accessGrant.metadata 1 4).exec ticketDb with
  | error _ =>
    rw [granted] at ran
    cases ran
  | ok done =>
    rw [granted, Except.toOption, Option.any_some] at ran
    obtain ⟨db', erased, kept⟩ := (Option.any_eq_true _ _).mp ran
    obtain ⟨e, mem, kept⟩ := List.any_eq_true.mp kept
    rw [Bool.and_eq_true, beq_iff_eq, beq_iff_eq] at kept
    exact ⟨done.2, db', rfl, by decide, erased, e, mem, kept.1, .inr (.inr (.entry kept.2 .text))⟩

/-- A comment that mentions the user and has the identifier in its text. -/
def mentioningComment : WorkflowEvent where
  id := 4
  tenantId := 1
  instanceId := 2
  workflowId := 3
  fromState := some "initial"
  toState := "initial"
  triggeredBy := .user
  actorId := some "admin"
  metadata := [("type", .str "comment"), ("text", .str "ask 308012345678901234."),
    ("mentions", .arr [.str erasedUser]), ("replyTo", .null), ("actorName", .str "Admin")]
  createdAt := 1

theorem mentioningComment_reached : mentioningComment.Reached asciiRules erasedUser := by
  have text : mentioningComment.metadata.get "text" = some (.str "ask 308012345678901234.") := rfl
  have mentions : mentioningComment.metadata.get "mentions" = some (.arr [.str erasedUser]) := rfl
  have name : mentioningComment.metadata.get "actorName" = some (.str "Admin") := rfl
  have absent : ∀ key ∈ ["mentionIdentifiers", "actingPersonId", "changed", erasedUser],
      mentioningComment.metadata.get key = none := by decide
  have other : ∀ entry ∈ mentioningComment.metadata, entry.1 ∈ scrubbedKeys ∨
      entry.2 = .str "comment" ∨ entry.2 = .null := by decide
  refine ⟨absent _ (by decide), ?_, ?_, ?_, ?_, ?_, ?_, ?_⟩
  · intro key unknown value found names
    rcases other _ (Fields.mem_of_get found) with known | rfl | rfl
    · exact unknown known
    · exact absurd (Json.names_str.mp names) (by decide)
    · cases names
  · intro value found names
    rw [text, Option.some.injEq] at found
    rw [← found] at names
    exact absurd (Json.names_str.mp names) (by decide)
  · intro value found _
    rw [mentions, Option.some.injEq] at found
    exact ⟨_, found.symm, fun item mem _ => List.mem_singleton.mp mem⟩
  · intro value found
    rw [absent _ (by decide)] at found
    cases found
  · intro value found
    rw [absent _ (by decide)] at found
    cases found
  · intro value found
    rw [absent _ (by decide)] at found
    cases found
  · intro value found names
    rw [name, Option.some.injEq] at found
    rw [← found] at names
    exact absurd (Json.names_str.mp names) (by decide)

theorem mention_forgotten : ∃ db',
    eraseUserFromTenant asciiRules 1 erasedUser
        { ticketDb with workflowEvents := [mentioningComment] } = some db' ∧
      Forgotten asciiRules 1 erasedUser
        { ticketDb with workflowEvents := [mentioningComment] } db' := by
  have token : asciiRules.IsToken erasedUser :=
    ⟨⟨_, _, rfl, by decide⟩, ⟨erasedUser.toList.dropLast, '4', by decide, by decide⟩, by decide,
      by decide, by decide⟩
  obtain ⟨db', erased⟩ : ∃ db', eraseUserFromTenant asciiRules 1 erasedUser
      { ticketDb with workflowEvents := [mentioningComment] } = some db' :=
    Option.isSome_iff_exists.mp (by decide +kernel)
  refine ⟨db', erased, (forgotten_iff token erased).mpr fun e mem _ => ?_⟩
  obtain rfl := List.mem_singleton.mp mem
  exact ⟨mentioningComment_reached, fun _ => ⟨by decide +kernel, by decide +kernel⟩⟩

end OpenWind
