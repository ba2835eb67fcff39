import OpenWind.Erasure.ScrubbedEvents

/-!
# What the event log keeps of an erased user

The scrubbing knows some keys of the metadata of an event.  A user whom an event names
under another key, or deeper than the scrubbing looks, stays in the log.
-/

open List Option

namespace OpenWind

open Replacing

/-! ## Documents that name a user -/

/-- The identifier is a value or a key of the document. -/
inductive Json.Names (userId : String) : Json → Prop
  | text : Names userId (.str userId)
  | item {items : List Json} {item : Json} : item ∈ items → Names userId item →
    Names userId (.arr items)
  | entry {entries : Fields} {key : String} {value : Json} : entries.get key = some value →
    Names userId value → Names userId (.obj entries)
  | key {entries : Fields} {value : Json} : entries.get userId = some value →
    Names userId (.obj entries)

namespace Json

variable {userId : String}

theorem names_str {s : String} : (str s).Names userId ↔ s = userId := by
  constructor
  · intro names
    cases names
    rfl
  · rintro rfl
    exact .text

theorem names_obj {entries : Fields} : (obj entries).Names userId ↔
    (∃ value, entries.get userId = some value) ∨
      ∃ key value, entries.get key = some value ∧ value.Names userId := by
  constructor
  · intro names
    cases names with
    | entry found names => exact .inr ⟨_, _, found, names⟩
    | key found => exact .inl ⟨_, found⟩
  · rintro (⟨value, found⟩ | ⟨key, value, found, names⟩)
    · exact .key found
    · exact .entry found names

theorem names_arr {items : List Json} :
    (arr items).Names userId ↔ ∃ item ∈ items, item.Names userId := by
  constructor
  · intro names
    cases names with
    | item mem names => exact ⟨_, mem, names⟩
  · rintro ⟨item, mem, names⟩
    exact .item mem names

end Json

namespace Json

theorem not_names_obj {userId : String} {entries : Fields} : ¬ (obj entries).Names userId ↔
    entries.get userId = none ∧ ∀ key value, entries.get key = some value →
      ¬ value.Names userId := by
  rw [names_obj, not_or]
  constructor
  · rintro ⟨noKey, clear⟩
    refine ⟨eq_none_iff_forall_not_mem.mpr fun value found => noKey ⟨value, found⟩, ?_⟩
    exact fun key value found names => clear ⟨key, value, found, names⟩
  · rintro ⟨noKey, clear⟩
    refine ⟨?_, fun ⟨key, value, found, names⟩ => clear key value found names⟩
    rintro ⟨value, found⟩
    rw [noKey] at found
    cases found

end Json

/-! ## The places that the scrubbing reaches -/

section Places

variable (rules : TextRules) (userId : String)

def ChangeReached : Json → Prop
  | .obj change => Fields.get change userId = none ∧
      ∀ key value, Fields.get change key = some value → value.Names userId →
        (key = "old" ∨ key = "new") ∧ rules.text value = some userId
  | value => ¬ value.Names userId

def ChangedReached : Json → Prop
  | .obj changed => Fields.get changed userId = none ∧
      ∀ key change, Fields.get changed key = some change → ChangeReached rules userId change
  | value => ¬ value.Names userId

structure WorkflowEvent.Reached (e : WorkflowEvent) : Prop where
  key : e.metadata.get userId = none
  other : ∀ key, key ∉ scrubbedKeys → ∀ value, e.metadata.get key = some value →
    ¬ value.Names userId
  text : ∀ value, e.metadata.get "text" = some value → value.Names userId →
    value = .str userId ∧ searched rules userId e.metadata = true
  mentions : ∀ value, e.metadata.get "mentions" = some value → value.Names userId →
    ∃ items, value = .arr items ∧ ∀ item ∈ items, item.Names userId → item = .str userId
  identifiers : ∀ value, e.metadata.get "mentionIdentifiers" = some value → ∀ rest,
    (if mentionsUser userId e.metadata then value.dropPath userId else some value) = some rest →
      ¬ rest.Names userId
  acting : ∀ value, e.metadata.get "actingPersonId" = some value → value.Names userId →
    rules.text value = some userId
  changed : ∀ value, e.metadata.get "changed" = some value → ChangedReached rules userId value
  name : ∀ value, e.metadata.get "actorName" = some value → value.Names userId →
    e.actorId = some userId

variable {rules userId}

theorem TextRules.IsToken.redacted_clear (token : rules.IsToken userId) :
    ¬ (Json.str redacted).Names userId := fun names =>
  token.redacted_ne (Json.names_str.mp names)

theorem redactValue_get (key : String) (change : Fields) (other : String) :
    (redactValue rules userId key change).get other =
      if other = key ∧ rules.reads change key userId = true then some (.str redacted)
      else change.get other := by
  unfold redactValue
  by_cases reads : rules.reads change key userId = true
  · rw [if_pos reads]
    by_cases same : other = key
    · rw [if_pos ⟨same, reads⟩, same, Fields.get_set_self]
    · rw [if_neg fun both => same both.1, Fields.get_set_ne _ _ same]
  · rw [if_neg reads, if_neg fun both => reads both.2]

theorem redactChange_get (change : Fields) (key : String) :
    (redactValue rules userId "new" (redactValue rules userId "old" change)).get key =
      if (key = "old" ∨ key = "new") ∧ rules.reads change key userId = true then
        some (.str redacted)
      else change.get key := by
  have reads : rules.reads (redactValue rules userId "old" change) "new" userId =
      rules.reads change "new" userId := by
    unfold TextRules.reads
    rw [redactValue_get, if_neg fun both => absurd both.1 (by decide)]
  rw [redactValue_get, redactValue_get, reads]
  by_cases new : key = "new"
  · subst new
    simp
  · by_cases old : key = "old"
    · subst old
      simp
    · simp [new, old]

theorem reads_iff {m : Fields} {key : String} : rules.reads m key userId ↔
    ∃ value, m.get key = some value ∧ rules.text value = some userId := by
  unfold TextRules.reads
  rw [beq_iff_eq, bind_eq_some_iff]

theorem redactChange_clear (token : rules.IsToken userId) (change : Json) :
    ¬ (redactChange rules userId change).Names userId ↔ ChangeReached rules userId change := by
  cases change with
  | obj change =>
    rw [redactChange, Json.not_names_obj, ChangeReached]
    refine and_congr ?_ (forall_congr' fun key => ?_)
    · rw [redactChange_get]
      split
      · rename_i both
        obtain ⟨value, found, -⟩ := reads_iff.mp both.2
        rw [found]
        exact ⟨(fun absent => by cases absent), (fun absent => by cases absent)⟩
      · exact Iff.rfl
    · rw [redactChange_get]
      constructor
      · intro clear value found names
        by_cases both : (key = "old" ∨ key = "new") ∧ rules.reads change key userId = true
        · obtain ⟨value', found', text⟩ := reads_iff.mp both.2
          rw [found] at found'
          cases found'
          exact ⟨both.1, text⟩
        · rw [if_neg both] at clear
          exact absurd names (clear value found)
      · intro reached value found names
        split at found
        · cases found
          exact token.redacted_clear names
        · rename_i neither
          obtain ⟨place, text⟩ := reached value found names
          exact neither ⟨place, reads_iff.mpr ⟨value, found, text⟩⟩
  | _ => exact Iff.rfl

theorem redactChanged_clear (token : rules.IsToken userId) (value : Json) :
    ¬ (redactChanged rules userId value).Names userId ↔ ChangedReached rules userId value := by
  cases value with
  | obj changed =>
    rw [redactChanged, Json.not_names_obj, ChangedReached, Fields.get_map_values, map_eq_none_iff]
    refine and_congr Iff.rfl (forall_congr' fun key => ?_)
    rw [Fields.get_map_values]
    constructor
    · intro clear change found
      rw [found] at clear
      exact (redactChange_clear token change).mp (clear _ rfl)
    · intro reached value found
      obtain ⟨change, found', rfl⟩ := map_eq_some_iff.mp found
      exact (redactChange_clear token change).mpr (reached change found')
  | _ => exact Iff.rfl

end Places

/-! ## An event after the scrubbing -/

namespace Scrubbed

variable {rules : TextRules} {userId : String} {actorId : Option String} {m m' : Fields}

theorem get_none (scrubbed : Scrubbed rules userId actorId m m') (key : String) :
    m'.get key = none ↔ m.get key = none := by
  by_cases known : key ∈ scrubbedKeys
  · simp only [scrubbedKeys, mem_cons, not_mem_nil, or_false] at known
    rcases known with rfl | rfl | rfl | rfl | rfl | rfl
    · rw [scrubbed.mentions]
      split
      · rename_i mentions
        constructor
        · exact nofun
        · intro missing
          unfold mentionsUser at mentions
          rw [missing] at mentions
          cases mentions
      · exact Iff.rfl
    · rw [scrubbed.identifiers]
      split
      · rename_i mentions
        cases found : m.get "mentionIdentifiers" with
        | none => exact Iff.rfl
        | some value =>
          obtain ⟨rest, path⟩ :=
            isSome_iff_exists.mp (scrubbed.dropped mentions value found)
          rw [bind_some, path]
          exact ⟨nofun, nofun⟩
      · exact Iff.rfl
    · cases found : eventText m with
      | none => rw [scrubbed.untold found]
      | some text =>
        obtain ⟨text', found', -⟩ := scrubbed.told text found
        rw [eventText_eq_some.mp found, eventText_eq_some.mp found']
        exact ⟨nofun, nofun⟩
    · rw [scrubbed.acting]
      split
      · rename_i reads
        obtain ⟨value, found, -⟩ := reads_iff.mp reads
        rw [found]
        exact ⟨nofun, nofun⟩
      · exact Iff.rfl
    · rw [scrubbed.changed, map_eq_none_iff]
    · rw [scrubbed.name]
      split
      · rw [map_eq_none_iff]
      · exact Iff.rfl
  · rw [scrubbed.same key known]

def Clear (userId : String) (m : Fields) (key : String) : Prop :=
  ∀ value, m.get key = some value → ¬ value.Names userId

theorem mentions_clear (scrubbed : Scrubbed rules userId actorId m m') :
    Clear userId m' "mentions" ↔
      ∀ value, m.get "mentions" = some value → value.Names userId →
        ∃ items, value = .arr items ∧ ∀ item ∈ items, item.Names userId → item = .str userId := by
  unfold Clear
  rw [scrubbed.mentions]
  cases mentions : mentionsUser userId m with
  | true =>
    unfold mentionsUser at mentions
    split at mentions
    · rename_i items found
      rw [if_pos rfl, found]
      constructor
      · rintro clear _ ⟨⟩ -
        refine ⟨items, rfl, fun item mem names => ?_⟩
        by_contra other
        refine clear _ rfl (.item (mem_filter.mpr ⟨mem, ?_⟩) names)
        rw [Bool.not_eq_true', ← Bool.not_eq_true, Json.strictEq_str]
        exact other
      · rintro reached _ ⟨⟩ names
        obtain ⟨item, mem, named⟩ := Json.names_arr.mp names
        obtain ⟨mem, other⟩ := mem_filter.mp mem
        obtain ⟨_, ⟨⟩, only⟩ := reached _ rfl (.item mem named)
        rw [Bool.not_eq_true', ← Bool.not_eq_true, Json.strictEq_str] at other
        exact other (only item mem named)
    · cases mentions
  | false =>
    rw [if_neg Bool.false_ne_true]
    constructor
    · intro clear value found names
      exact absurd names (clear value found)
    · intro reached value found names
      obtain ⟨items, rfl, only⟩ := reached value found names
      obtain ⟨item, mem, named⟩ := Json.names_arr.mp names
      unfold mentionsUser at mentions
      rw [found] at mentions
      refine absurd mentions (Bool.not_eq_false _ ▸ List.any_eq_true.mpr ⟨item, mem, ?_⟩)
      exact Json.strictEq_str.mpr (only item mem named)

theorem identifiers_clear (scrubbed : Scrubbed rules userId actorId m m') :
    Clear userId m' "mentionIdentifiers" ↔
      ∀ value, m.get "mentionIdentifiers" = some value → ∀ rest,
        (if mentionsUser userId m then value.dropPath userId else some value) = some rest →
          ¬ rest.Names userId := by
  unfold Clear
  rw [scrubbed.identifiers]
  cases mentionsUser userId m with
  | true =>
    rw [if_pos rfl]
    constructor
    · intro clear value found rest path
      exact clear rest (bind_eq_some_iff.mpr ⟨value, found, path⟩)
    · intro reached rest left
      obtain ⟨value, found, path⟩ := bind_eq_some_iff.mp left
      exact reached value found rest path
  | false =>
    rw [if_neg Bool.false_ne_true]
    constructor
    · rintro clear value found _ ⟨⟩
      exact clear value found
    · intro reached value found
      exact reached value found value rfl

section

variable (token : rules.IsToken userId) (scrubbed : Scrubbed rules userId actorId m m')

include token scrubbed

theorem text_clear :
    Clear userId m' "text" ↔
      ∀ value, m.get "text" = some value → value.Names userId →
        value = .str userId ∧ searched rules userId m := by
  unfold Clear
  cases found : eventText m with
  | none =>
    rw [scrubbed.untold found]
    constructor
    · intro clear value found names
      exact absurd names (clear value found)
    · intro reached value stored names
      obtain ⟨rfl, -⟩ := reached value stored names
      rw [eventText_eq_some.mpr stored] at found
      cases found
  | some text =>
    obtain ⟨text', found', unmarked, same⟩ := scrubbed.told text found
    rw [eventText_eq_some.mp found, eventText_eq_some.mp found']
    constructor
    · rintro clear _ ⟨⟩ names
      rw [Json.names_str] at names
      refine ⟨by rw [names], ?_⟩
      cases looked : searched rules userId m with
      | true => rfl
      | false => exact absurd (Json.names_str.mpr (same looked ▸ names)) (clear _ rfl)
    · rintro reached _ ⟨⟩ names
      rw [Json.names_str] at names
      cases looked : searched rules userId m with
      | true => exact (unmarked looked).ne token names
      | false =>
        rw [same looked] at names
        exact absurd ((reached _ rfl (Json.names_str.mpr names)).2.symm.trans looked) (by decide)

theorem acting_clear :
    Clear userId m' "actingPersonId" ↔
      ∀ value, m.get "actingPersonId" = some value → value.Names userId →
        rules.text value = some userId := by
  unfold Clear
  rw [scrubbed.acting]
  constructor
  · intro clear value found names
    by_cases reads : rules.reads m "actingPersonId" userId = true
    · obtain ⟨value', found', text⟩ := reads_iff.mp reads
      rw [found] at found'
      cases found'
      exact text
    · rw [if_neg reads] at clear
      exact absurd names (clear value found)
  · intro reached value found names
    split at found
    · cases found
      exact token.redacted_clear names
    · rename_i other
      exact other (reads_iff.mpr ⟨value, found, reached value found names⟩)

theorem changed_clear :
    Clear userId m' "changed" ↔
      ∀ value, m.get "changed" = some value → ChangedReached rules userId value := by
  unfold Clear
  rw [scrubbed.changed]
  constructor
  · intro clear value found
    rw [found] at clear
    exact (redactChanged_clear token value).mp (clear _ rfl)
  · intro reached left leaves
    obtain ⟨value, found, rfl⟩ := map_eq_some_iff.mp leaves
    exact (redactChanged_clear token value).mpr (reached value found)

theorem name_clear :
    Clear userId m' "actorName" ↔
      ∀ value, m.get "actorName" = some value → value.Names userId → actorId = some userId := by
  unfold Clear
  rw [scrubbed.name]
  by_cases actor : actorId = some userId
  · rw [if_pos (beq_iff_eq.mpr actor)]
    refine ⟨fun _ _ _ _ => actor, fun _ value found => ?_⟩
    obtain ⟨_, -, rfl⟩ := map_eq_some_iff.mp found
    exact token.redacted_clear
  · rw [if_neg (mt beq_iff_eq.mp actor)]
    constructor
    · intro clear value found names
      exact absurd names (clear value found)
    · intro reached value found names
      exact actor (reached value found names)

end

end Scrubbed

section Events

variable {rules : TextRules} {tenantId : Id} {userId : String} {identity : Identity}

variable {e : WorkflowEvent} {values : List String} {m : Fields}

theorem reached_iff (token : rules.IsToken userId) {m' : Fields}
    (scrubbed : Scrubbed rules userId e.actorId e.metadata m') :
    ¬ (Json.obj m').Names userId ↔ e.Reached rules userId := by
  rw [Json.not_names_obj, scrubbed.get_none]
  constructor
  · rintro ⟨key, clear⟩
    exact
      { key
        other := fun key unknown value found =>
          clear key value ((scrubbed.same key unknown).trans found)
        text := (scrubbed.text_clear token).mp (clear "text")
        mentions := scrubbed.mentions_clear.mp (clear "mentions")
        identifiers := scrubbed.identifiers_clear.mp (clear "mentionIdentifiers")
        acting := (scrubbed.acting_clear token).mp (clear "actingPersonId")
        changed := (scrubbed.changed_clear token).mp (clear "changed")
        name := (scrubbed.name_clear token).mp (clear "actorName") }
  · intro reached
    refine ⟨reached.key, fun key => ?_⟩
    by_cases known : key ∈ scrubbedKeys
    · simp only [scrubbedKeys, mem_cons, not_mem_nil, or_false] at known
      rcases known with rfl | rfl | rfl | rfl | rfl | rfl
      · exact scrubbed.mentions_clear.mpr reached.mentions
      · exact scrubbed.identifiers_clear.mpr reached.identifiers
      · exact (scrubbed.text_clear token).mpr reached.text
      · exact (scrubbed.acting_clear token).mpr reached.acting
      · exact (scrubbed.changed_clear token).mpr reached.changed
      · exact (scrubbed.name_clear token).mpr reached.name
    · rw [scrubbed.same key known]
      exact reached.other key known

def WorkflowEvent.Names (userId : String) (e : WorkflowEvent) : Prop :=
  e.actorId = some userId ∨ e.originPerformerUserId = some userId ∨
    (Json.obj e.metadata).Names userId

def WorkflowEvent.Mentions (rules : TextRules) (userId : String) (identity : Identity)
    (e : WorkflowEvent) : Prop :=
  e.Names userId ∨ textIdentifies rules userId identity e.metadata = true

/-- No value that is no text reads like the identifier where the scrubbing looks. -/
def WorkflowEvent.Undisturbed (rules : TextRules) (userId : String) (e : WorkflowEvent) : Prop :=
  rules.reads e.metadata "actingPersonId" userId = false ∧
    changesNamed rules userId e.metadata = false

theorem redactId_ne (token : rules.IsToken userId) (id : Option String) :
    redactId userId id ≠ some userId := by
  unfold redactId
  split
  · exact fun same => token.redacted_ne (Option.some.inj same)
  · rename_i other
    exact fun same => other (beq_iff_eq.mpr same)

theorem scrubRow_own (own : e.tenantId = tenantId) :
    scrubRow rules tenantId userId identity values e =
      { e with
        metadata := nameRow userId e.actorId (scrubMetadata rules userId identity values e.metadata)
        actorId := redactId userId e.actorId
        originPerformerUserId := redactId userId e.originPerformerUserId } := by
  unfold scrubRow
  rw [if_pos (beq_iff_eq.mpr own)]

theorem scrubRow_other (other : e.tenantId ≠ tenantId) :
    scrubRow rules tenantId userId identity values e = e := by
  unfold scrubRow
  rw [if_neg (mt beq_iff_eq.mp other)]

theorem scrubRow_tenantId :
    (scrubRow rules tenantId userId identity values e).tenantId = e.tenantId := by
  unfold scrubRow
  split <;> rfl

theorem scrubRow_names (token : rules.IsToken userId) (own : e.tenantId = tenantId)
    (scrubbed : Scrubbed rules userId e.actorId e.metadata
      (nameRow userId e.actorId (scrubMetadata rules userId identity values e.metadata))) :
    ¬ (scrubRow rules tenantId userId identity values e).Names userId ↔
      e.Reached rules userId := by
  rw [scrubRow_own own, ← reached_iff token scrubbed]
  unfold WorkflowEvent.Names
  constructor
  · exact fun clear names => clear (.inr (.inr names))
  · rintro clear (actor | performer | names)
    · exact redactId_ne token _ actor
    · exact redactId_ne token _ performer
    · exact clear names

/-! ## Events that do not mention the user -/

theorem mentionsUser_names (mentions : mentionsUser userId m) : (Json.obj m).Names userId := by
  unfold mentionsUser at mentions
  split at mentions
  · rename_i items found
    obtain ⟨item, mem, same⟩ := List.any_eq_true.mp mentions
    rw [Json.strictEq_str] at same
    exact .entry found (.item mem (same ▸ .text))
  · cases mentions

theorem recordedAs_names {item : Json} (recorded : item ∈ recordedAs userId m) :
    (Json.obj m).Names userId := by
  unfold recordedAs at recorded
  split at recorded
  · rename_i entries found
    split at recorded
    · rename_i items entry
      exact .entry found (.key entry)
    · cases recorded
  · cases recorded

theorem aliasRows_unnamed (unnamed : ¬ (Json.obj m).Names userId) (values : List String) :
    aliasRows rules userId values m = m := by
  induction values with
  | nil => rfl
  | cons value rest ih =>
    have first : aliasRow rules userId value m = m := by
      unfold aliasRow
      split
      · rename_i records
        unfold recordsAlias at records
        obtain ⟨item, mem, -⟩ := List.any_eq_true.mp (Bool.and_eq_true_iff.mp records).2
        exact absurd (recordedAs_names mem) unnamed
      · rfl
    unfold aliasRows at ih ⊢
    rw [foldl_cons, first, ih]

theorem scrubRow_idle (unmentioned : ¬ e.Mentions rules userId identity)
    (idle : e.Undisturbed rules userId) : scrubRow rules tenantId userId identity values e = e := by
  unfold WorkflowEvent.Mentions WorkflowEvent.Names at unmentioned
  simp only [not_or] at unmentioned
  obtain ⟨⟨actor, performer, unnamed⟩, text⟩ := unmentioned
  have mentions : mentionsUser userId e.metadata = false :=
    Bool.eq_false_iff.mpr fun mentions => unnamed (mentionsUser_names mentions)
  unfold scrubRow scrubMetadata
  rw [aliasRows_unnamed unnamed]
  unfold mentionRow textRow actingRow changeRow nameRow redactId
  simp [mentions, text, actor, performer, idle.1, idle.2]

end Events

/-! ## The run -/

section Runs

variable {rules : TextRules} {tenantId : Id} {userId : String} {identity : Identity}

theorem changesUser_redactChange (token : rules.IsToken userId) (change : Json) :
    changesUser rules userId (redactChange rules userId change) = false := by
  cases change with
  | obj change =>
    rw [redactChange, changesUser, Bool.or_eq_false_iff]
    have clear : ∀ key, key = "old" ∨ key = "new" →
        rules.reads (redactValue rules userId "new" (redactValue rules userId "old" change)) key
          userId = false := by
      intro key place
      rw [← Bool.not_eq_true, reads_iff]
      rintro ⟨value, found, text⟩
      rw [redactChange_get] at found
      split at found
      · cases found
        exact token.redacted_ne (Option.some.inj text)
      · rename_i other
        exact other ⟨place, reads_iff.mpr ⟨value, found, text⟩⟩
    exact ⟨clear "old" (.inl rfl), clear "new" (.inr rfl)⟩
  | _ => rfl

theorem Scrubbed.undisturbed (token : rules.IsToken userId) {actorId : Option String}
    {m m' : Fields} (scrubbed : Scrubbed rules userId actorId m m') :
    rules.reads m' "actingPersonId" userId = false ∧ changesNamed rules userId m' = false := by
  constructor
  · rw [← Bool.not_eq_true, reads_iff]
    rintro ⟨value, found, text⟩
    rw [scrubbed.acting] at found
    split at found
    · cases found
      exact token.redacted_ne (Option.some.inj text)
    · rename_i other
      exact other (reads_iff.mpr ⟨value, found, text⟩)
  · unfold changesNamed
    rw [scrubbed.changed]
    rcases m.get "changed" with _ | _ | _ | _ | _ | _ | changed
    case some.obj =>
      rw [map_some, redactChanged]
      dsimp only
      rw [List.any_map, List.any_eq_false]
      intro entry _
      rw [Function.comp, changesUser_redactChange token]
      exact Bool.false_ne_true
    all_goals rfl

/-- Nothing is left in the events of the tenant that the scrubbing would write again. -/
def Settled (rules : TextRules) (tenantId : Id) (userId : String) (events : List WorkflowEvent) :
    Prop :=
  ∀ e ∈ events, e.tenantId = tenantId → ¬ e.Names userId ∧ e.Undisturbed rules userId ∧
    ∀ text, isComment rules e.metadata = true → eventText e.metadata = some text →
      Unmarked rules userId text

theorem updateMetadata_idle {p : WorkflowEvent → Bool} {f : Fields → Fields}
    {events : List WorkflowEvent} (idle : ∀ e ∈ events, e.tenantId = tenantId → p e = false) :
    updateMetadata tenantId p f events = events := by
  unfold updateMetadata
  refine (map_congr_left fun e mem => ?_).trans (List.map_id events)
  by_cases own : e.tenantId = tenantId
  · rw [idle e mem own, Bool.and_false]
    rfl
  · rw [beq_eq_false_iff_ne.mpr own]
    rfl

namespace Settled

variable {events : List WorkflowEvent}

section

variable (settled : Settled rules tenantId userId events)

include settled

theorem recordedAliases_nil : recordedAliases rules tenantId userId events = [] := by
  have none : ∀ e ∈ events.filter fun e => e.tenantId == tenantId && isComment rules e.metadata,
      (recordedAs userId e.metadata).map rules.text = [] := by
    intro e mem
    obtain ⟨mem, selected⟩ := mem_filter.mp mem
    have own := eq_of_beq (Bool.and_eq_true_iff.mp selected).1
    rw [map_eq_nil_iff, eq_nil_iff_forall_not_mem]
    exact fun item recorded => (settled e mem own).1 (.inr (.inr (recordedAs_names recorded)))
  unfold recordedAliases
  rw [flatMap_eq_nil_iff.mpr none]
  rfl

theorem mentionsUser_false {e : WorkflowEvent} (mem : e ∈ events) (own : e.tenantId = tenantId) :
    mentionsUser userId e.metadata = false :=
  Bool.eq_false_iff.mpr fun mentions =>
    (settled e mem own).1 (.inr (.inr (mentionsUser_names mentions)))

theorem scrubMentions_eq : scrubMentions rules tenantId userId identity events = some events := by
  unfold scrubMentions
  rw [if_pos, updateMetadata_idle fun e mem own => settled.mentionsUser_false mem own]
  refine List.all_eq_true.mpr fun e mem => ?_
  by_cases own : e.tenantId = tenantId
  · rw [settled.mentionsUser_false mem own, Bool.and_false]
    rfl
  · rw [beq_eq_false_iff_ne.mpr own]
    rfl

end

theorem scrubTexts_eq (token : rules.IsToken userId)
    (settled : Settled rules tenantId userId events) :
    scrubTexts rules tenantId userId {} events = events := by
  refine updateMetadata_idle fun e mem own => Bool.eq_false_iff.mpr fun selected => ?_
  unfold textIdentifies at selected
  rw [Bool.and_eq_true] at selected
  cases found : eventText e.metadata with
  | none =>
    rw [found] at selected
    cases selected.2
  | some text =>
    have noAddress : Identity.emailRewrites {} rules = [] := by
      unfold Identity.emailRewrites
      rw [if_neg (by decide)]
    rw [found, any_some, Identity.identifierRewrites_eq token, noAddress, nil_append,
      any_cons, any_nil, Bool.or_false] at selected
    exact absurd selected.2 (Bool.eq_false_iff.mp ((settled e mem own).2.2 text selected.1 found))

theorem scrubEvents_eq (token : rules.IsToken userId)
    (settled : Settled rules tenantId userId events) :
    scrubEvents rules tenantId userId {} events = some events := by
  have comments : scrubComments rules tenantId userId {} events = some events := by
    unfold scrubComments
    rw [settled.recordedAliases_nil]
    change (scrubMentions rules tenantId userId {} events).bind
      (fun scrubbed => some (scrubTexts rules tenantId userId {} scrubbed)) = some events
    rw [settled.scrubMentions_eq, bind_some, settled.scrubTexts_eq token]
  have acting : scrubActingPerson rules tenantId userId events = events :=
    updateMetadata_idle fun e mem own => (settled e mem own).2.1.1
  have changes : scrubChanges rules tenantId userId events = events :=
    updateMetadata_idle fun e mem own => (settled e mem own).2.1.2
  unfold scrubEvents
  rw [comments, map_some, acting, changes]
  have kept : ∀ e ∈ events, ∀ id : Option String, (e.tenantId = tenantId → id ≠ some userId) →
      (e.tenantId == tenantId && id == some userId) = false := by
    intro e mem id other
    by_cases own : e.tenantId = tenantId
    · rw [beq_eq_false_iff_ne.mpr (other own), Bool.and_false]
    · rw [beq_eq_false_iff_ne.mpr own]
      rfl
  have actor : scrubActor tenantId userId events = events := by
    unfold scrubActor
    refine (map_congr_left fun e mem => ?_).trans (List.map_id events)
    rw [kept e mem e.actorId fun own actor => (settled e mem own).1 (.inl actor)]
    rfl
  have performer : scrubPerformer tenantId userId events = events := by
    unfold scrubPerformer
    refine (map_congr_left fun e mem => ?_).trans (List.map_id events)
    rw [kept e mem e.originPerformerUserId fun own performer =>
      (settled e mem own).1 (.inr (.inl performer))]
    rfl
  rw [actor, performer]

end Settled

theorem settled_of (token : rules.IsToken userId) {e : WorkflowEvent} {m' : Fields}
    (scrubbed : Scrubbed rules userId e.actorId e.metadata m') :
    (rules.reads m' "actingPersonId" userId = false ∧ changesNamed rules userId m' = false) ∧
      ∀ text, isComment rules m' → eventText m' = some text →
        Unmarked rules userId text := by
  refine ⟨scrubbed.undisturbed token, fun text' comment found => ?_⟩
  rw [isComment_congr (scrubbed.same "type" (by decide))] at comment
  cases before : eventText e.metadata with
  | none =>
    rw [eventText_congr (scrubbed.untold before), before] at found
    cases found
  | some text =>
    obtain ⟨left, found', unmarked, -⟩ := scrubbed.told text before
    rw [found] at found'
    cases found'
    refine unmarked ?_
    unfold searched
    rw [comment, Bool.true_or]

structure Forgotten (rules : TextRules) (tenantId : Id) (userId : String) (db db' : Db) : Prop where
  gone : ∀ e ∈ db'.workflowEvents, e.tenantId = tenantId → ¬ e.Names userId
  others : Forall₂ (fun e e' =>
      e.tenantId ≠ tenantId ∨ ¬ e.Mentions rules userId (db.identityOf tenantId userId) → e' = e)
    db.workflowEvents db'.workflowEvents
  again : eraseUserFromTenant rules tenantId userId db' = some db'

/-- What an erasure that went through has done. -/
theorem eraseUserFromTenant_rows (token : rules.IsToken userId) {db db' : Db}
    (ran : eraseUserFromTenant rules tenantId userId db = some db') :
    ∃ values,
      db'.workflowEvents = db.workflowEvents.map
        (scrubRow rules tenantId userId (db.identityOf tenantId userId) values) ∧
      db'.tenantUsers = db.tenantUsers.filter (fun user => !isMember tenantId userId user) ∧
      ∀ e ∈ db.workflowEvents, e.tenantId = tenantId →
        Scrubbed rules userId e.actorId e.metadata
          (nameRow userId e.actorId
            (scrubMetadata rules userId (db.identityOf tenantId userId) values e.metadata)) := by
  unfold eraseUserFromTenant at ran
  obtain ⟨events, scrubbed, rfl⟩ := map_eq_some_iff.mp ran
  obtain ⟨values, rows, found⟩ := scrubEvents_rows scrubbed
  exact ⟨values, rows, rfl, fun e mem own => scrubbed_of token (found e mem own) e.actorId⟩

theorem Settled.again (token : rules.IsToken userId) {db : Db}
    (settled : Settled rules tenantId userId db.workflowEvents)
    (absent : ∀ user ∈ db.tenantUsers, isMember tenantId userId user = false) :
    eraseUserFromTenant rules tenantId userId db = some db := by
  have noRow : db.tenantUsers.find? (isMember tenantId userId) = none :=
    find?_eq_none.mpr fun user mem => Bool.eq_false_iff.mp (absent user mem)
  have kept : (db.tenantUsers.filter fun user => !isMember tenantId userId user) =
      db.tenantUsers :=
    filter_eq_self.mpr fun user mem => by rw [absent user mem, Bool.not_false]
  unfold eraseUserFromTenant Db.identityOf
  rw [noRow, settled.scrubEvents_eq token, map_some, kept]

/-- Exactly the places that the scrubbing knows decide whether a user is forgotten. -/
theorem forgotten_iff (token : rules.IsToken userId) {db db' : Db}
    (ran : eraseUserFromTenant rules tenantId userId db = some db') :
    Forgotten rules tenantId userId db db' ↔
      ∀ e ∈ db.workflowEvents, e.tenantId = tenantId → e.Reached rules userId ∧
        (¬ e.Mentions rules userId (db.identityOf tenantId userId) →
          e.Undisturbed rules userId) := by
  obtain ⟨values, rows, members, scrubbed⟩ := eraseUserFromTenant_rows token ran
  constructor
  · intro forgotten e mem own
    have clear := forgotten.gone _ (rows ▸ List.mem_map_of_mem mem) (scrubRow_tenantId.trans own)
    refine ⟨(scrubRow_names token own (scrubbed e mem own)).mp clear, fun unmentioned => ?_⟩
    have same := forgotten.others
    rw [rows, forall₂_map_right_iff, forall₂_same] at same
    have fixed := same e mem (.inr unmentioned)
    rw [scrubRow_own own] at fixed
    have unchanged : nameRow userId e.actorId (scrubMetadata rules userId
        (db.identityOf tenantId userId) values e.metadata) = e.metadata :=
      congrArg WorkflowEvent.metadata fixed
    have left := scrubbed e mem own
    rw [unchanged] at left
    exact left.undisturbed token
  · intro reached
    have settled : Settled rules tenantId userId db'.workflowEvents := by
      intro e' mem' own
      rw [rows] at mem'
      obtain ⟨e, mem, rfl⟩ := List.mem_map.mp mem'
      rw [scrubRow_tenantId] at own
      refine ⟨(scrubRow_names token own (scrubbed e mem own)).mpr (reached e mem own).1, ?_⟩
      rw [scrubRow_own own]
      exact settled_of token (scrubbed e mem own)
    refine ⟨fun e mem own => (settled e mem own).1, ?_, settled.again token ?_⟩
    · rw [rows, forall₂_map_right_iff, forall₂_same]
      intro e mem apart
      by_cases own : e.tenantId = tenantId
      · have unmentioned := apart.resolve_left (not_not_intro own)
        exact scrubRow_idle unmentioned ((reached e mem own).2 unmentioned)
      · exact scrubRow_other own
    · intro user mem
      rw [members] at mem
      exact Bool.not_eq_true' _ ▸ (mem_filter.mp mem).2

end Runs

end OpenWind
