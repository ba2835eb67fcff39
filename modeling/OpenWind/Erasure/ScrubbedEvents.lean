import OpenWind.Erasure.EventScrub

/-!
# What the scrubbing leaves of an event

Each statement of the scrubbing looks at one event and writes that event, so that a scrubbing
is a function of the events (`scrubEvents_rows`).  `Scrubbed` says what the metadata of an
event is afterwards, key by key.
-/

open List Option Function

namespace OpenWind

open Replacing Fields

/-! ## Objects, key by key -/

theorem Fields.mem_of_get {fields : Fields} {key : String} {value : Json}
    (found : fields.get key = some value) : (key, value) ∈ fields := by
  induction fields with
  | nil => cases found
  | cons entry rest ih =>
    rw [get_cons] at found
    split at found
    · rename_i same
      cases found
      rw [eq_of_beq same]
      exact mem_cons_self
    · exact mem_cons_of_mem _ (ih found)

theorem Fields.get_map_values (f : Json → Json) (fields : Fields) (key : String) :
    Fields.get (fields.map fun entry => (entry.1, f entry.2)) key = (fields.get key).map f := by
  induction fields with
  | nil => rfl
  | cons entry rest ih =>
    rw [map_cons, get_cons, get_cons]
    split
    · rfl
    · exact ih

/-- Two objects with the same values under every key but some. -/
def SameBut (keys : List String) (m m' : Fields) : Prop :=
  ∀ key, key ∉ keys → m'.get key = m.get key

theorem SameBut.refl (keys : List String) (m : Fields) : SameBut keys m m := fun _ _ => rfl

theorem SameBut.trans {keys keys' : List String} {m m' m'' : Fields} (first : SameBut keys m m')
    (second : SameBut keys' m' m'') : SameBut (keys ++ keys') m m'' := by
  intro key absent
  rw [mem_append, not_or] at absent
  exact (second key absent.2).trans (first key absent.1)

theorem SameBut.set (m : Fields) (key : String) (value : Json) :
    SameBut [key] m (m.set key value) :=
  fun _ absent => get_set_ne m value fun same => absent (same ▸ mem_singleton_self _)

/-! ## One event at a time

Each statement looks at one event and writes that event; what it does to the metadata of an
event of the tenant is a function of the metadata. -/

section Rows

variable (rules : TextRules) (tenantId : Id) (userId : String) (identity : Identity)

def onTenant (f : Fields → Fields) (e : WorkflowEvent) : WorkflowEvent :=
  if e.tenantId == tenantId then { e with metadata := f e.metadata } else e

def aliasRow (value : String) (m : Fields) : Fields :=
  if recordsAlias rules userId value m then
    rewriteText [rules.addressPattern value] (eventText m) m
  else m

def aliasRows (values : List String) (m : Fields) : Fields :=
  values.foldl (fun m value => aliasRow rules userId value m) m

def mentionRow (m : Fields) : Fields :=
  if mentionsUser userId m then unmention rules userId identity m else m

def textRow (m : Fields) : Fields :=
  if textIdentifies rules userId identity m then
    rewriteText (identity.identifierRewrites rules userId) (eventText m) m
  else m

def actingRow (m : Fields) : Fields :=
  if rules.reads m "actingPersonId" userId then m.set "actingPersonId" (.str redacted) else m

def changeRow (m : Fields) : Fields :=
  if changesNamed rules userId m then redactChanges rules userId m else m

def nameRow (actorId : Option String) (m : Fields) : Fields :=
  if actorId == some userId && (m.get "actorName").isSome then
    m.set "actorName" (.str redacted)
  else m

def redactId (id : Option String) : Option String :=
  if id == some userId then some redacted else id

def scrubMetadata (values : List String) (m : Fields) : Fields :=
  changeRow rules userId (actingRow rules userId (textRow rules userId identity
    (mentionRow rules userId identity (aliasRows rules userId values m))))

def scrubRow (values : List String) (e : WorkflowEvent) : WorkflowEvent :=
  if e.tenantId == tenantId then
    { e with
      metadata := nameRow userId e.actorId (scrubMetadata rules userId identity values e.metadata)
      actorId := redactId userId e.actorId
      originPerformerUserId := redactId userId e.originPerformerUserId }
  else e

variable {rules tenantId userId identity}

theorem updateMetadata_rows (c : Fields → Bool) (f : Fields → Fields)
    (events : List WorkflowEvent) :
    updateMetadata tenantId (fun e => c e.metadata) f events =
      events.map (onTenant tenantId fun m => if c m then f m else m) := by
  refine map_congr_left fun e _ => ?_
  unfold onTenant
  cases e.tenantId == tenantId
  · rfl
  · cases selected : c e.metadata <;> simp [selected]

theorem onTenant_own {f : Fields → Fields} {e : WorkflowEvent} (own : e.tenantId = tenantId) :
    onTenant tenantId f e = { e with metadata := f e.metadata } := by
  unfold onTenant
  rw [if_pos (beq_iff_eq.mpr own)]

theorem map_onTenant (f g : Fields → Fields) (events : List WorkflowEvent) :
    (events.map (onTenant tenantId f)).map (onTenant tenantId g) =
      events.map (onTenant tenantId fun m => g (f m)) := by
  rw [List.map_map]
  refine map_congr_left fun e _ => ?_
  unfold onTenant
  rw [comp]
  cases own : e.tenantId == tenantId with
  | false => simp only [own, Bool.false_eq_true, if_false]
  | true => simp only [own, if_true]

theorem scrubAliases_rows (values : List String) (events : List WorkflowEvent) :
    values.foldl (scrubAlias rules tenantId userId) events =
      events.map (onTenant tenantId (aliasRows rules userId values)) := by
  induction values generalizing events with
  | nil =>
    have same : onTenant tenantId (aliasRows rules userId []) = id := by
      funext e
      unfold onTenant aliasRows
      rw [foldl_nil]
      split <;> rfl
    rw [foldl_nil, same, List.map_id]
  | cons value rest ih =>
    have first : scrubAlias rules tenantId userId events value =
        events.map (onTenant tenantId (aliasRow rules userId value)) :=
      updateMetadata_rows (recordsAlias rules userId value) _ events
    rw [foldl_cons, ih, first, map_onTenant]
    rfl

variable {events events' : List WorkflowEvent}

theorem scrubMentions_rows
    (ran : scrubMentions rules tenantId userId identity events = some events') :
    events' = events.map (onTenant tenantId (mentionRow rules userId identity)) ∧
      ∀ e ∈ events, e.tenantId = tenantId → mentionsUser userId e.metadata →
        (withoutMention userId e.metadata).isSome := by
  unfold scrubMentions at ran
  by_cases passed : (events.all fun e => !(e.tenantId == tenantId && mentionsUser userId e.metadata) ||
      (withoutMention userId e.metadata).isSome) = true
  · rw [if_pos passed] at ran
    cases ran
    refine ⟨updateMetadata_rows (mentionsUser userId) _ events, fun e mem own mentions => ?_⟩
    have ok := List.all_eq_true.mp passed e mem
    rw [own, mentions, beq_self_eq_true] at ok
    exact ok
  · rw [if_neg passed] at ran
    cases ran

theorem scrubTexts_rows (events : List WorkflowEvent) :
    scrubTexts rules tenantId userId identity events =
      events.map (onTenant tenantId (textRow rules userId identity)) :=
  updateMetadata_rows (textIdentifies rules userId identity) _ events

theorem scrubActingPerson_rows (events : List WorkflowEvent) :
    scrubActingPerson rules tenantId userId events =
      events.map (onTenant tenantId (actingRow rules userId)) :=
  updateMetadata_rows (fun m => rules.reads m "actingPersonId" userId) _ events

theorem scrubChanges_rows (events : List WorkflowEvent) :
    scrubChanges rules tenantId userId events =
      events.map (onTenant tenantId (changeRow rules userId)) :=
  updateMetadata_rows (changesNamed rules userId) _ events

theorem scrubRow_eq {values : List String} (e : WorkflowEvent) :
    ((fun e : WorkflowEvent =>
        if e.tenantId == tenantId && e.originPerformerUserId == some userId then
          { e with originPerformerUserId := some redacted }
        else e) ∘
      (fun e : WorkflowEvent => if e.tenantId == tenantId && e.actorId == some userId then
        { e with
          actorId := some redacted
          metadata := if (e.metadata.get "actorName").isSome then
              e.metadata.set "actorName" (.str redacted)
            else e.metadata }
        else e) ∘ onTenant tenantId (scrubMetadata rules userId identity values)) e =
      scrubRow rules tenantId userId identity values e := by
  unfold scrubRow onTenant redactId nameRow
  by_cases own : e.tenantId = tenantId
  · by_cases actor : e.actorId = some userId <;>
      by_cases performer : e.originPerformerUserId = some userId <;>
      simp [comp, own, actor, performer]
  · simp [comp, own]

theorem scrubEvents_rows (ran : scrubEvents rules tenantId userId identity events = some events') :
    ∃ values, events' = events.map (scrubRow rules tenantId userId identity values) ∧
      ∀ e ∈ events, e.tenantId = tenantId →
        mentionsUser userId (aliasRows rules userId values e.metadata) →
          (withoutMention userId (aliasRows rules userId values e.metadata)).isSome := by
  unfold scrubEvents scrubComments at ran
  simp only [map_eq_some_iff, bind_eq_bind, bind_eq_some_iff] at ran
  obtain ⟨scrubbed, ⟨recorded, -, mentioned, passed, rest⟩, rfl⟩ := ran
  cases rest
  obtain ⟨rows, found⟩ := scrubMentions_rows passed
  refine ⟨aliasValues rules [rules.toLowerCase identity.trimmedEmail, userId] recorded, ?_, ?_⟩ <;>
    generalize aliasValues rules [rules.toLowerCase identity.trimmedEmail, userId] recorded =
      values at *
  · rw [rows, scrubAliases_rows, map_onTenant, scrubTexts_rows, map_onTenant,
      scrubActingPerson_rows, map_onTenant, scrubChanges_rows, map_onTenant]
    unfold scrubActor scrubPerformer
    rw [List.map_map, List.map_map]
    exact map_congr_left fun e _ => scrubRow_eq e
  · intro e mem own mentions
    have passed := found (onTenant tenantId (aliasRows rules userId values) e)
      (scrubAliases_rows values events ▸ List.mem_map_of_mem mem)
    rw [onTenant_own own] at passed
    exact passed own mentions

end Rows

/-! ## Identifiers in texts -/

structure TextRules.IsToken (rules : TextRules) (userId : String) : Prop where
  begins : ∃ c front, userId.toList = c :: front ∧ rules.idLetter c = true
  ends : ∃ front c, userId.toList = front ++ [c] ∧ rules.idLetter c = true
  plain : '[' ∉ userId.toList ∧ ']' ∉ userId.toList
  other : userId ≠ "REDACTED"
  long : Identity.minTextScanIdLength ≤ textLength userId

section Texts

variable {rules : TextRules} {userId : String} {identity : Identity}

theorem TextRules.IsToken.nonempty (token : rules.IsToken userId) : userId.toList ≠ [] := by
  obtain ⟨c, front, text, -⟩ := token.begins
  rw [text]
  exact cons_ne_nil c front

theorem TextRules.idLetter_of_mem {c : Char} (mem : c ∈ "REDACTED".toList) :
    rules.idLetter c = true := by
  unfold TextRules.idLetter
  rw [rules.letters c mem]
  rfl

theorem TextRules.IsToken.sealed (token : rules.IsToken userId) :
    Sealed rules.idLetter userId.toList redacted.toList :=
  ⟨token.begins, token.ends, '[', "REDACTED".toList, ']', by decide, token.plain.1, token.plain.2,
    fun _ => TextRules.idLetter_of_mem, fun same => token.other (String.toList_inj.mp same)⟩

theorem TextRules.IsToken.redacted_ne (token : rules.IsToken userId) : redacted ≠ userId := by
  rintro rfl
  exact token.plain.1 (by decide)

/-- The text does not have the identifier. -/
def Unmarked (rules : TextRules) (userId text : String) : Prop :=
  (rules.idPattern userId).occurs text.toList = false

variable {text : String} {base m : Fields}

section

variable (token : rules.IsToken userId)

include token

theorem Unmarked.ne (unmarked : Unmarked rules userId text) : text ≠ userId := by
  rintro rfl
  have marked : (whole rules.idLetter text.toList redacted.toList).occurs text.toList :=
    occurs_self redacted.toList token.nonempty
  rw [show (whole rules.idLetter text.toList redacted.toList).occurs text.toList = false from
    unmarked] at marked
  cases marked

theorem unmarked_rewriteWith (patterns : List (Pattern Char)) (text : String) :
    Unmarked rules userId (rewriteWith (patterns ++ [rules.idPattern userId]) text) := by
  unfold Unmarked rewriteWith
  rw [foldl_append, foldl_cons, foldl_nil, String.toList_ofList]
  exact token.sealed.replace_clear _

theorem Identity.identifierRewrites_eq :
    identity.identifierRewrites rules userId =
      identity.emailRewrites rules ++ [rules.idPattern userId] := by
  unfold Identity.identifierRewrites
  rw [if_pos token.long]

theorem Identity.rewrites_eq :
    identity.rewrites rules userId =
      (identity.nameRewrites rules ++ identity.emailRewrites rules) ++
        [rules.idPattern userId] := by
  unfold Identity.rewrites
  rw [if_pos (Nat.le_trans (by decide) token.long)]

end

theorem eventText_eq_some : eventText m = some text ↔ m.get "text" = some (.str text) := by
  unfold eventText
  split
  · rename_i found
    rw [found, Option.some.injEq, Option.some.injEq, Json.str.injEq]
  · rename_i other
    exact ⟨nofun, fun found => absurd found (other text)⟩

theorem eventText_congr {m m' : Fields} (same : m'.get "text" = m.get "text") :
    eventText m' = eventText m := by
  unfold eventText
  rw [same]

structure TextEdit (m m' : Fields) : Prop where
  same : SameBut ["text"] m m'
  untold : eventText m = none → m' = m
  told : ∀ text, eventText m = some text → ∃ text', eventText m' = some text'

theorem TextEdit.refl (m : Fields) : TextEdit m m :=
  ⟨.refl _ m, fun _ => rfl, fun text found => ⟨text, found⟩⟩

theorem TextEdit.trans {m m' m'' : Fields} (first : TextEdit m m') (second : TextEdit m' m'') :
    TextEdit m m'' := by
  refine ⟨fun key absent => (second.same key absent).trans (first.same key absent), ?_, ?_⟩
  · intro none
    have same := first.untold none
    rw [second.untold (same ▸ none), same]
  · intro text found
    obtain ⟨text', found'⟩ := first.told text found
    exact second.told text' found'

theorem rewriteText_edit (patterns : List (Pattern Char)) (m : Fields) :
    TextEdit m (rewriteText patterns (eventText m) m) ∧
      ∀ text, eventText m = some text →
        eventText (rewriteText patterns (eventText m) m) = some (rewriteWith patterns text) := by
  cases found : eventText m with
  | none => exact ⟨.refl m, nofun⟩
  | some text =>
    have stored : ∀ value, eventText (m.set "text" (.str value)) = some value :=
      fun value => eventText_eq_some.mpr (get_set_self ..)
    refine ⟨⟨.set m "text" _, fun none => ?_, fun _ _ => ⟨_, stored _⟩⟩, fun other same => ?_⟩
    · rw [found] at none
      cases none
    · cases same
      exact stored _

theorem aliasRow_edit (value : String) (m : Fields) :
    TextEdit m (aliasRow rules userId value m) := by
  unfold aliasRow
  split
  · exact (rewriteText_edit _ m).1
  · exact .refl m

theorem aliasRows_edit (values : List String) (m : Fields) :
    TextEdit m (aliasRows rules userId values m) := by
  induction values generalizing m with
  | nil => exact .refl m
  | cons value rest ih => exact (aliasRow_edit value m).trans (ih _)

theorem withoutMention_get (dropped : withoutMention userId m = some base) :
    SameBut ["mentions", "mentionIdentifiers"] m base ∧
      base.get "mentions" = some (.arr (otherMentions userId (m.get "mentions"))) ∧
      base.get "mentionIdentifiers" = (m.get "mentionIdentifiers").bind (Json.dropPath userId) := by
  unfold withoutMention at dropped
  extract_lets unmentioned at dropped
  have kept : unmentioned.get "mentionIdentifiers" = m.get "mentionIdentifiers" :=
    get_set_ne m _ (by decide)
  rw [kept] at dropped
  have first := SameBut.set m "mentions" (.arr (otherMentions userId (m.get "mentions")))
  cases found : m.get "mentionIdentifiers" with
  | none =>
    rw [found] at dropped kept
    rw [← Option.some.inj dropped]
    refine ⟨fun key absent => first key fun mem => absent ?_, get_set_self .., kept⟩
    exact mem_cons.mpr (.inl (mem_singleton.mp mem))
  | some identifiers =>
    rw [found] at dropped
    obtain ⟨rest, path, rfl⟩ := map_eq_some_iff.mp dropped
    refine ⟨first.trans (.set _ "mentionIdentifiers" rest), ?_, ?_⟩
    · rw [get_set_ne _ _ (by decide), get_set_self]
    · rw [get_set_self, bind_some, path]

theorem unmention_eq (token : rules.IsToken userId) (dropped : withoutMention userId m = some base) :
    unmention rules userId identity m =
      rewriteText (identity.rewrites rules userId) (eventText m) base := by
  unfold unmention
  rw [dropped, getD_some, Identity.rewrites_eq token]
  split
  · rename_i empty
    exact absurd empty (append_ne_nil_of_right_ne_nil _ (cons_ne_nil _ _))
  · rfl

end Texts

/-! ## The values that are left -/

section Values

variable {rules : TextRules} {userId : String} {identity : Identity}

def searched (rules : TextRules) (userId : String) (m : Fields) : Bool :=
  isComment rules m || mentionsUser userId m

variable {m m' : Fields} {values : List String}

theorem mentionsUser_congr (same : m'.get "mentions" = m.get "mentions") :
    mentionsUser userId m' = mentionsUser userId m := by
  unfold mentionsUser
  rw [same]

theorem isComment_congr (same : m'.get "type" = m.get "type") :
    isComment rules m' = isComment rules m := by
  unfold isComment TextRules.reads
  rw [same]

structure Unmentioned (rules : TextRules) (userId : String) (m m' : Fields) : Prop where
  same : SameBut ["mentions", "mentionIdentifiers", "text"] m m'
  mentions : m'.get "mentions" = some (.arr (otherMentions userId (m.get "mentions")))
  identifiers : m'.get "mentionIdentifiers" =
    (m.get "mentionIdentifiers").bind (Json.dropPath userId)
  untold : eventText m = none → m'.get "text" = m.get "text"
  told : ∀ text, eventText m = some text → ∃ text',
    eventText m' = some text' ∧ Unmarked rules userId text'

theorem unmention_spec (token : rules.IsToken userId) {m base : Fields}
    (dropped : withoutMention userId m = some base) :
    Unmentioned rules userId m (unmention rules userId identity m) := by
  obtain ⟨same, mentions, identifiers⟩ := withoutMention_get dropped
  rw [unmention_eq token dropped]
  unfold rewriteText
  cases found : eventText m with
  | none =>
    refine ⟨fun key absent => same key fun mem => absent ?_, mentions, identifiers, ?_, ?_⟩
    · exact mem_append_left ["text"] mem
    · exact fun _ => same "text" (by decide)
    · intro text eq
      rw [found] at eq
      cases eq
  | some text =>
    refine ⟨same.trans (.set base "text" _), ?_, ?_, ?_, ?_⟩
    · rw [get_set_ne _ _ (by decide), mentions]
    · rw [get_set_ne _ _ (by decide), identifiers]
    · intro none
      rw [found] at none
      cases none
    · intro other eq
      rw [found] at eq
      cases eq
      refine ⟨_, eventText_eq_some.mpr (get_set_self ..), ?_⟩
      rw [Identity.rewrites_eq token]
      exact unmarked_rewriteWith token _ text

theorem textRow_spec (identity : Identity) (token : rules.IsToken userId) (m : Fields) :
    TextEdit m (textRow rules userId identity m) ∧
      (isComment rules m = false → textRow rules userId identity m = m) ∧
      ∀ text, isComment rules m →
        eventText (textRow rules userId identity m) = some text → Unmarked rules userId text := by
  unfold textRow
  by_cases selected : textIdentifies rules userId identity m = true
  · rw [if_pos selected]
    unfold textIdentifies at selected
    rw [Bool.and_eq_true] at selected
    obtain ⟨edit, rewritten⟩ := rewriteText_edit (identity.identifierRewrites rules userId) m
    refine ⟨edit, fun other => ?_, fun text' _ eq => ?_⟩
    · rw [selected.1] at other
      cases other
    · cases found : eventText m with
      | none =>
        rw [found] at selected
        cases selected.2
      | some text =>
        rw [rewritten text found, Option.some.injEq, Identity.identifierRewrites_eq token] at eq
        rw [← eq]
        exact unmarked_rewriteWith token _ text
  · rw [if_neg selected]
    refine ⟨.refl m, fun _ => rfl, fun text comment eq => ?_⟩
    unfold textIdentifies at selected
    rw [comment, eq, Bool.true_and, any_some, Identity.identifierRewrites_eq token,
      any_append, Bool.or_eq_true, not_or] at selected
    exact Bool.eq_false_iff.mpr fun marked => selected.2 (by simp [marked])

theorem aliasRows_idle (other : isComment rules m = false) (values : List String) :
    aliasRows rules userId values m = m := by
  induction values with
  | nil => rfl
  | cons value rest ih =>
    have first : aliasRow rules userId value m = m := by
      unfold aliasRow recordsAlias
      rw [other]
      rfl
    unfold aliasRows at ih ⊢
    rw [foldl_cons, first, ih]

/-- What the comment statements leave. -/
structure CommentScrubbed (rules : TextRules) (userId : String) (m m' : Fields) : Prop where
  same : SameBut ["mentions", "mentionIdentifiers", "text"] m m'
  mentions : m'.get "mentions" =
    if mentionsUser userId m then some (.arr (otherMentions userId (m.get "mentions")))
    else m.get "mentions"
  identifiers : m'.get "mentionIdentifiers" =
    if mentionsUser userId m then (m.get "mentionIdentifiers").bind (Json.dropPath userId)
    else m.get "mentionIdentifiers"
  untold : eventText m = none → m'.get "text" = m.get "text"
  told : ∀ text, eventText m = some text → ∃ text', eventText m' = some text' ∧
    (searched rules userId m = true → Unmarked rules userId text') ∧
    (searched rules userId m = false → text' = text)

theorem mentionRow_spec (identity : Identity) (token : rules.IsToken userId)
    (found : mentionsUser userId m → (withoutMention userId m).isSome) :
    (mentionsUser userId m → Unmentioned rules userId m (mentionRow rules userId identity m)) ∧
      (mentionsUser userId m = false → mentionRow rules userId identity m = m) := by
  unfold mentionRow
  refine ⟨fun mentions => ?_, fun other => ?_⟩
  · obtain ⟨base, dropped⟩ := isSome_iff_exists.mp (found mentions)
    rw [if_pos mentions]
    exact unmention_spec token dropped
  · rw [other]
    rfl

theorem commentScrubbed (identity : Identity) (token : rules.IsToken userId)
    (found : mentionsUser userId (aliasRows rules userId values m) →
      (withoutMention userId (aliasRows rules userId values m)).isSome) :
    CommentScrubbed rules userId m (textRow rules userId identity
      (mentionRow rules userId identity (aliasRows rules userId values m))) := by
  have edit : TextEdit m (aliasRows rules userId values m) := aliasRows_edit values m
  have idle : isComment rules m = false → aliasRows rules userId values m = m :=
    fun other => aliasRows_idle other values
  revert found edit idle
  generalize aliasRows rules userId values m = m₁
  intro found edit idle
  have mentions : mentionsUser userId m₁ = mentionsUser userId m :=
    mentionsUser_congr (edit.same "mentions" (by decide))
  have comment : ∀ {m₂}, SameBut ["mentions", "mentionIdentifiers", "text"] m₁ m₂ →
      isComment rules m₂ = isComment rules m := fun same =>
    isComment_congr ((same "type" (by decide)).trans (edit.same "type" (by decide)))
  obtain ⟨mentioned, unmentioned⟩ := mentionRow_spec identity token found
  cases named : mentionsUser userId m with
  | true =>
    specialize mentioned (mentions.trans named)
    generalize mentionRow rules userId identity m₁ = m₂ at mentioned
    obtain ⟨last, untold, told⟩ := textRow_spec identity token m₂
    refine ⟨fun key absent => ?_, ?_, ?_, fun none => ?_, fun text eq => ?_⟩
    · have other : key ∉ ["text"] := fun mem => absent (by simp_all)
      rw [last.same key other, mentioned.same key absent, edit.same key other]
    · rw [if_pos named, last.same "mentions" (by decide), mentioned.mentions,
        edit.same "mentions" (by decide)]
    · rw [if_pos named, last.same "mentionIdentifiers" (by decide), mentioned.identifiers,
        edit.same "mentionIdentifiers" (by decide)]
    · have same := edit.untold none
      rw [same] at mentioned
      rw [last.untold ((eventText_congr (mentioned.untold none)).trans none), mentioned.untold none]
    · obtain ⟨text₁, eq₁⟩ := edit.told text eq
      obtain ⟨text₂, eq₂, unmarked⟩ := mentioned.told text₁ eq₁
      obtain ⟨text₃, eq₃⟩ := last.told text₂ eq₂
      refine ⟨text₃, eq₃, fun _ => ?_, fun other => ?_⟩
      · cases isNote : isComment rules m₂ with
        | true => exact told text₃ isNote eq₃
        | false =>
          rw [untold isNote, eq₂] at eq₃
          cases eq₃
          exact unmarked
      · unfold searched at other
        rw [named, Bool.or_true] at other
        cases other
  | false =>
    rw [unmentioned (mentions.trans named)]
    obtain ⟨last, untold, told⟩ := textRow_spec identity token m₁
    have isNote : isComment rules m₁ = isComment rules m := comment (.refl _ m₁)
    refine ⟨fun key absent => ?_, ?_, ?_, fun none => ?_, fun text eq => ?_⟩
    · have other : key ∉ ["text"] := fun mem => absent (by simp_all)
      rw [last.same key other, edit.same key other]
    · rw [named, last.same "mentions" (by decide), edit.same "mentions" (by decide)]
      rfl
    · rw [named, last.same "mentionIdentifiers" (by decide),
        edit.same "mentionIdentifiers" (by decide)]
      rfl
    · have same := edit.untold none
      rw [same] at last ⊢
      rw [last.untold none]
    · obtain ⟨text₁, eq₁⟩ := edit.told text eq
      obtain ⟨text₂, eq₂⟩ := last.told text₁ eq₁
      refine ⟨text₂, eq₂, fun isSearched => ?_, fun other => ?_⟩ <;> unfold searched at *
      · rw [named, Bool.or_false] at isSearched
        exact told text₂ (isNote.trans isSearched) eq₂
      · rw [named, Bool.or_false] at other
        rw [untold (isNote.trans other), idle other, eq] at eq₂
        exact (Option.some.inj eq₂).symm

theorem actingRow_spec (rules : TextRules) (userId : String) (m : Fields) :
    SameBut ["actingPersonId"] m (actingRow rules userId m) ∧
      (actingRow rules userId m).get "actingPersonId" =
        if rules.reads m "actingPersonId" userId then some (.str redacted)
        else m.get "actingPersonId" := by
  unfold actingRow
  split
  · exact ⟨.set m _ _, get_set_self ..⟩
  · exact ⟨.refl _ m, rfl⟩

theorem nameRow_spec (userId : String) (actorId : Option String) (m : Fields) :
    SameBut ["actorName"] m (nameRow userId actorId m) ∧
      (nameRow userId actorId m).get "actorName" =
        if actorId == some userId then (m.get "actorName").map fun _ => .str redacted
        else m.get "actorName" := by
  unfold nameRow
  cases actorId == some userId with
  | false => exact ⟨.refl _ m, rfl⟩
  | true =>
    cases found : m.get "actorName" with
    | none => exact ⟨.refl _ m, found⟩
    | some name => exact ⟨.set m _ _, get_set_self ..⟩

theorem redactValue_idle {key : String} {change : Fields}
    (other : rules.reads change key userId = false) :
    redactValue rules userId key change = change := by
  unfold redactValue
  rw [other]
  rfl

theorem redactChange_idle {change : Json} (other : changesUser rules userId change = false) :
    redactChange rules userId change = change := by
  cases change with
  | obj change =>
    unfold changesUser at other
    rw [Bool.or_eq_false_iff] at other
    rw [redactChange, redactValue_idle other.1, redactValue_idle other.2]
  | _ => rfl

/-- What is left of the field changes. -/
def redactChanged (rules : TextRules) (userId : String) : Json → Json
  | .obj changed => .obj (changed.map fun entry => (entry.1, redactChange rules userId entry.2))
  | value => value

theorem changeRow_spec (rules : TextRules) (userId : String) (m : Fields) :
    SameBut ["changed"] m (changeRow rules userId m) ∧
      (changeRow rules userId m).get "changed" =
        (m.get "changed").map (redactChanged rules userId) := by
  unfold changeRow changesNamed redactChanges
  cases found : m.get "changed" with
  | none => exact ⟨.refl _ m, found⟩
  | some value =>
    cases value with
    | obj changed =>
      dsimp only
      split
      · exact ⟨.set m _ _, get_set_self ..⟩
      · rename_i other
        rw [Bool.not_eq_true, List.any_eq_false] at other
        refine ⟨.refl _ m, ?_⟩
        have idle : ∀ entry ∈ changed, (entry.1, redactChange rules userId entry.2) = entry := by
          intro entry mem
          rw [redactChange_idle (Bool.eq_false_iff.mpr (other entry mem))]
        rw [map_some, redactChanged, map_congr_left idle, List.map_id', found]
    | _ => exact ⟨.refl _ m, found⟩

/-- The keys that the scrubbing knows. -/
def scrubbedKeys : List String :=
  ["mentions", "mentionIdentifiers", "text", "actingPersonId", "changed", "actorName"]

structure Scrubbed (rules : TextRules) (userId : String) (actorId : Option String)
    (m m' : Fields) : Prop where
  same : SameBut scrubbedKeys m m'
  mentions : m'.get "mentions" =
    if mentionsUser userId m then some (.arr (otherMentions userId (m.get "mentions")))
    else m.get "mentions"
  identifiers : m'.get "mentionIdentifiers" =
    if mentionsUser userId m then (m.get "mentionIdentifiers").bind (Json.dropPath userId)
    else m.get "mentionIdentifiers"
  dropped : mentionsUser userId m = true → ∀ value, m.get "mentionIdentifiers" = some value →
    (value.dropPath userId).isSome = true
  untold : eventText m = none → m'.get "text" = m.get "text"
  told : ∀ text, eventText m = some text → ∃ text', eventText m' = some text' ∧
    (searched rules userId m = true → Unmarked rules userId text') ∧
    (searched rules userId m = false → text' = text)
  acting : m'.get "actingPersonId" =
    if rules.reads m "actingPersonId" userId then some (.str redacted)
    else m.get "actingPersonId"
  changed : m'.get "changed" = (m.get "changed").map (redactChanged rules userId)
  name : m'.get "actorName" =
    if actorId == some userId then (m.get "actorName").map fun _ => .str redacted
    else m.get "actorName"

theorem withoutMention_isSome (found : (withoutMention userId m).isSome) {value : Json}
    (recorded : m.get "mentionIdentifiers" = some value) : (value.dropPath userId).isSome := by
  obtain ⟨base, dropped⟩ := isSome_iff_exists.mp found
  unfold withoutMention at dropped
  extract_lets unmentioned at dropped
  have kept : unmentioned.get "mentionIdentifiers" = some value :=
    (get_set_ne m _ (by decide)).trans recorded
  rw [kept] at dropped
  obtain ⟨rest, path, -⟩ := map_eq_some_iff.mp dropped
  rw [path]
  rfl

theorem scrubbed_of (token : rules.IsToken userId)
    (found : mentionsUser userId (aliasRows rules userId values m) →
      (withoutMention userId (aliasRows rules userId values m)).isSome)
    (actorId : Option String) :
    Scrubbed rules userId actorId m
      (nameRow userId actorId (scrubMetadata rules userId identity values m)) := by
  have comment := commentScrubbed identity token found
  unfold scrubMetadata
  have edit : TextEdit m (aliasRows rules userId values m) := aliasRows_edit values m
  have dropped : mentionsUser userId m →
      ∀ value, m.get "mentionIdentifiers" = some value → (value.dropPath userId).isSome := by
    intro mentions value recorded
    refine withoutMention_isSome (found ?_) ?_
    · rw [mentionsUser_congr (edit.same "mentions" (by decide)), mentions]
    · rw [edit.same "mentionIdentifiers" (by decide), recorded]
  generalize textRow rules userId identity (mentionRow rules userId identity
    (aliasRows rules userId values m)) = m₁ at comment ⊢
  obtain ⟨acting, actingLeft⟩ := actingRow_spec rules userId m₁
  generalize actingRow rules userId m₁ = m₂ at acting actingLeft ⊢
  obtain ⟨changes, changesLeft⟩ := changeRow_spec rules userId m₂
  generalize changeRow rules userId m₂ = m₃ at changes changesLeft ⊢
  obtain ⟨named, nameLeft⟩ := nameRow_spec userId actorId m₃
  have later : ∀ key, key ∉ ["actingPersonId", "changed", "actorName"] →
      (nameRow userId actorId m₃).get key = m₁.get key :=
    fun key absent => ((acting.trans changes).trans named) key absent
  have earlier : ∀ key, key ∉ ["mentions", "mentionIdentifiers", "text"] →
      m₁.get key = m.get key := comment.same
  have reads : rules.reads m₁ "actingPersonId" userId = rules.reads m "actingPersonId" userId := by
    unfold TextRules.reads
    rw [earlier "actingPersonId" (by decide)]
  refine ⟨fun key absent => ?_, ?_, ?_, dropped, fun none => ?_, fun text eq => ?_, ?_, ?_, ?_⟩
  · unfold scrubbedKeys at absent
    rw [later key fun mem => absent (mem_append_right ["mentions", "mentionIdentifiers", "text"] mem),
      earlier key fun mem => absent
        (mem_append_left ["actingPersonId", "changed", "actorName"] mem)]
  · rw [later "mentions" (by decide), comment.mentions]
  · rw [later "mentionIdentifiers" (by decide), comment.identifiers]
  · rw [later "text" (by decide), comment.untold none]
  · rw [eventText_congr (later "text" (by decide))]
    exact comment.told text eq
  · rw [named "actingPersonId" (by decide), changes "actingPersonId" (by decide), actingLeft,
      reads, earlier "actingPersonId" (by decide)]
  · rw [named "changed" (by decide), changesLeft, acting "changed" (by decide),
      earlier "changed" (by decide)]
  · rw [nameLeft, changes "actorName" (by decide), acting "actorName" (by decide),
      earlier "actorName" (by decide)]

end Values

end OpenWind
