import OpenWind.Entity.Listings
import OpenWind.Lib.Texts

/-!
# Pages of records

`listEntities` lists the records that a filter selects in the order of their creation, ties by
id.  The database keeps the time of creation in microseconds and the cursor carries it in
milliseconds, so the query cuts it to milliseconds as well, where it orders and where it
compares.
-/

open Option

namespace OpenWind

open PageSize

structure StoredInstance where
  read : EntityInstance
  createdMicros : Nat
  inMilliseconds : read.createdAt = createdMicros / 1000

/-- The records, and the tables that `db` has of the filters. -/
structure InstanceStore where
  db : Db
  instances : List StoredInstance
  /-- The id is the primary key. -/
  keyed : (instances.map (·.read.id)).Nodup

/-! ## Cursors as texts -/

structure CursorText where
  toISOString : Time → String
  /-- `new Date(text)`; none for an invalid date. -/
  parseDate : String → Option Time
  parseDate_toISOString : ∀ time, parseDate (toISOString time) = some time
  /-- The JSON text of a value in base64url. -/
  stringify : Json → String
  /-- None when `JSON.parse` throws. -/
  parse : String → Option Json
  parse_stringify : ∀ createdAt id : String,
    parse (stringify (.obj [("createdAt", .str createdAt), ("id", .str id)])) =
      some (.obj [("createdAt", .str createdAt), ("id", .str id)])
  uuidText : Id → String
  uuid : String → Option Id
  uuid_uuidText : ∀ id, uuid (uuidText id) = some id

namespace CursorText

variable (text : CursorText)

def encodeCursor (createdAt : Time) (id : Id) : String :=
  text.stringify (.obj [("createdAt", .str (text.toISOString createdAt)),
    ("id", .str (text.uuidText id))])

def decodeCursor (cursor : String) : Option (Time × String) :=
  match text.parse cursor with
  | none => none
  | some payload =>
    match payload.property "createdAt", payload.property "id" with
    | some (.str createdAt), some (.str id) => (text.parseDate createdAt).map fun date => (date, id)
    | _, _ => none

def decoded (cursor : Option String) : Option (Option Cursor) :=
  match cursor.bind text.decodeCursor with
  | none => some none
  | some (createdAt, id) => (text.uuid id).map fun id => some ⟨createdAt, id⟩

theorem decoded_encodeCursor (createdAt : Time) (id : Id) :
    text.decoded (some (text.encodeCursor createdAt id)) = some (some ⟨createdAt, id⟩) := by
  have payload : text.decodeCursor (text.encodeCursor createdAt id) =
      some (createdAt, text.uuidText id) := by
    have first : (Json.obj [("createdAt", .str (text.toISOString createdAt)),
        ("id", .str (text.uuidText id))]).property "createdAt" =
          some (.str (text.toISOString createdAt)) := rfl
    have second : (Json.obj [("createdAt", .str (text.toISOString createdAt)),
        ("id", .str (text.uuidText id))]).property "id" = some (.str (text.uuidText id)) := rfl
    unfold decodeCursor encodeCursor
    rw [text.parse_stringify]
    simp only [first, second, text.parseDate_toISOString, map_some]
  unfold decoded
  rw [bind_some, payload]
  simp only [text.uuid_uuidText, map_some]

end CursorText

/-! ## A page -/

def StoredInstance.truncatedCreatedAt (r : StoredInstance) : Nat := r.createdMicros / 1000 * 1000

def StoredInstance.listKey (r : StoredInstance) : ℕ ×ₗ ℕ :=
  toLex (r.truncatedCreatedAt, r.read.id)

/-- The row comes after the cursor. -/
def StoredInstance.follows (r : StoredInstance) (decoded : Cursor) : Bool :=
  decide (decoded.createdAt * 1000 < r.truncatedCreatedAt) ||
    (r.truncatedCreatedAt == decoded.createdAt * 1000 && decide (decoded.id < r.read.id))

def orderByTruncated (rows : List StoredInstance) : List StoredInstance :=
  rows.insertionSort fun r s => r.listKey ≤ s.listKey

structure InstancePage where
  data : List EntityInstance
  nextCursor : Option String

def StoredInstance.shown (env : ListEnv) (r : StoredInstance) : EntityInstance :=
  { r.read with fields := env.resolved r.read }

def listEntitiesFrom (text : CursorText) (env : ListEnv) (store : InstanceStore) (tenantId : Id)
    (input : ListEntitiesInput) (cursor : Option String) : Option InstancePage :=
  (text.decoded cursor).map fun decoded =>
    let limit := PageSize.applied input.limit
    let conditions (r : StoredInstance) :=
      input.selects env store.db tenantId r.read && decoded.all r.follows
    let rows := (orderByTruncated (store.instances.filter conditions)).take (limit + 1)
    let hasMore := decide (limit < rows.length)
    let data := if hasMore then rows.take limit else rows
    let nextCursor :=
      if hasMore then data.getLast?.map fun last => text.encodeCursor last.read.createdAt last.read.id
      else none
    ⟨data.map (·.shown env), nextCursor⟩

def InstanceStore.selected (store : InstanceStore) (env : ListEnv) (tenantId : Id)
    (input : ListEntitiesInput) : List StoredInstance :=
  store.instances.filter fun r => input.selects env store.db tenantId r.read

/-- The cursor of the row, as it decodes. -/
def StoredInstance.cursor (r : StoredInstance) : Cursor := ⟨r.read.createdAt, r.read.id⟩

theorem StoredInstance.cursor_key (r : StoredInstance) : r.cursor.key = r.listKey := by
  unfold cursor Cursor.key listKey truncatedCreatedAt
  rw [r.inMilliseconds]

theorem StoredInstance.follows_eq (r : StoredInstance) (decoded : Option Cursor) :
    decoded.all r.follows = Keyset.above listKey (decoded.map Cursor.key) r := by
  cases decoded with
  | none => rfl
  | some decoded =>
    refine Bool.eq_iff_iff.mpr ?_
    simp only [all_some, map_some, Keyset.above, decide_eq_true_eq, follows,
      Bool.or_eq_true, Bool.and_eq_true, beq_iff_eq]
    refine Iff.trans ?_ Prod.Lex.toLex_lt_toLex.symm
    exact or_congr_right (and_congr_left' eq_comm)

section Pages

variable (text : CursorText) (env : ListEnv) (store : InstanceStore) (tenantId : Id)
  (input : ListEntitiesInput)

theorem orderByTruncated_filter (decoded : Option Cursor) :
    orderByTruncated (store.instances.filter fun r =>
        input.selects env store.db tenantId r.read && decoded.all r.follows) =
      Keyset.after StoredInstance.listKey (decoded.map Cursor.key)
        (store.selected env tenantId input) := by
  rw [Keyset.after, InstanceStore.selected, List.filter_filter]
  refine congrArg orderByTruncated (List.filter_congr fun r _ => ?_)
  rw [r.follows_eq, Bool.and_comm]

theorem listEntitiesFrom_page {cursor : Option String} {decoded : Option Cursor}
    (is : text.decoded cursor = some decoded) :
    ∃ last : Option StoredInstance,
      listEntitiesFrom text env store tenantId input cursor =
        some ⟨(Keyset.page StoredInstance.listKey StoredInstance.listKey
            (applied input.limit) (decoded.map Cursor.key)
            (store.selected env tenantId input)).1.map (·.shown env),
          last.map fun r => text.encodeCursor r.read.createdAt r.read.id⟩ ∧
      (Keyset.page StoredInstance.listKey StoredInstance.listKey (applied input.limit)
          (decoded.map Cursor.key) (store.selected env tenantId input)).2 =
        last.map StoredInstance.listKey := by
  unfold listEntitiesFrom Keyset.page
  rw [is, map_some]
  dsimp only
  rw [orderByTruncated_filter]
  generalize (Keyset.after StoredInstance.listKey (decoded.map Cursor.key)
    (store.selected env tenantId input)).take (applied input.limit + 1) = found
  by_cases more : applied input.limit < found.length
  · simp only [more, decide_true, if_true]
    exact ⟨_, rfl, rfl⟩
  · simp only [more, decide_false, if_false, Bool.false_eq_true]
    exact ⟨none, rfl, rfl⟩

end Pages

/-! ## Following the cursors -/

def followCursors (list : Option String → Option InstancePage) :
    Nat → Option String → Option (List EntityInstance)
  | 0, _ => none
  | pages + 1, cursor =>
    (list cursor).bind fun page =>
      match page.nextCursor with
      | none => some page.data
      | some next => (followCursors list pages (some next)).map (page.data ++ ·)

theorem followCursors_eq (text : CursorText) (env : ListEnv) (store : InstanceStore)
    (tenantId : Id) (input : ListEntitiesInput) (pages : Nat) {cursor : Option String}
    {decoded : Option Cursor} (is : text.decoded cursor = some decoded) :
    followCursors (listEntitiesFrom text env store tenantId input) pages cursor =
      (Keyset.walk StoredInstance.listKey StoredInstance.listKey (applied input.limit)
        (store.selected env tenantId input) pages (decoded.map Cursor.key)).map
          (·.map (·.shown env)) := by
  induction pages generalizing cursor decoded with
  | zero => rfl
  | succ pages ih =>
    obtain ⟨last, page, next⟩ := listEntitiesFrom_page text env store tenantId input is
    rw [followCursors, Keyset.walk, page]
    generalize Keyset.page StoredInstance.listKey StoredInstance.listKey
      (applied input.limit) (decoded.map Cursor.key)
      (store.selected env tenantId input) = keyed at next ⊢
    obtain ⟨data, key⟩ := keyed
    obtain rfl : key = _ := next
    cases last with
    | none => rfl
    | some last =>
      have onward := ih (text.decoded_encodeCursor last.read.createdAt last.read.id)
      have key : (some (⟨last.read.createdAt, last.read.id⟩ : Cursor)).map Cursor.key =
          some last.listKey := congrArg some last.cursor_key
      rw [key] at onward
      simp only [bind_some, map_some, onward, Option.map_map]
      congr 1
      funext rest
      exact List.map_append.symm

/-- For every filter and every page size, following the cursors from the first page ends, and
lists each record that the filter selects once, in the order of its time of creation, cut to
milliseconds, and its id. -/
theorem listEntities_complete (text : CursorText) (env : ListEnv) (store : InstanceStore)
    (tenantId : Id) (input : ListEntitiesInput) :
    ∃ (pages : Nat) (listed : List StoredInstance),
      followCursors (listEntitiesFrom text env store tenantId input) pages none =
        some (listed.map (·.shown env)) ∧
      listed.Perm (store.selected env tenantId input) ∧
      listed.Pairwise fun r s => r.listKey < s.listKey := by
  have distinct : ((store.selected env tenantId input).map StoredInstance.listKey).Nodup := by
    have ids : ((store.selected env tenantId input).map (·.read.id)).Nodup :=
      store.keyed.sublist (List.filter_sublist.map _)
    refine List.Nodup.of_map (fun key => (ofLex key).2) ?_
    rw [List.map_map]
    exact ids
  have start : Keyset.after StoredInstance.listKey none (store.selected env tenantId input) =
      (Keyset.after StoredInstance.listKey none (store.selected env tenantId input)).drop
        (0 * applied input.limit) := by
    rw [Nat.zero_mul, List.drop_zero]
  have marked : Keyset.Pivots (applied input.limit) (Keyset.after StoredInstance.listKey
      none (store.selected env tenantId input)) (Keyset.Keeps StoredInstance.listKey
      StoredInstance.listKey (store.selected env tenantId input)) :=
    fun _ _ _ _ _ _ => Iff.rfl
  obtain ⟨pages, walked⟩ := Keyset.walk_rest (applied_pos input.limit) distinct marked start
  rw [← start] at walked
  refine ⟨pages, _, ?_, Keyset.after_none_perm, Keyset.after_sorted distinct none⟩
  exact (followCursors_eq text env store tenantId input pages rfl).trans
    (congrArg (Option.map _) walked)

/-! ## Records of one millisecond -/

namespace Runtime

def jsonText (key text key' text' : String) : List Char :=
  ['{', '"'] ++ (Texts.escaped key.toList ++ '"' ::
    ([':', '"'] ++ (Texts.escaped text.toList ++ '"' ::
      ([',', '"'] ++ (Texts.escaped key'.toList ++ '"' ::
        ([':', '"'] ++ (Texts.escaped text'.toList ++ '"' :: ['}'])))))))

def stringify : Json → String
  | .obj [(key, .str text), (key', .str text')] =>
    .ofList (Texts.base64Url (String.ofList (jsonText key text key' text')).toUTF8.data.toList)
  | _ => ""

def readPart (signs text : List Char) : Option (String × List Char) :=
  if signs.isPrefixOf text then
    (Texts.readQuoted (text.drop signs.length)).map fun (part, rest) => (.ofList part, rest)
  else none

def readPair (text : List Char) : Option Json :=
  (readPart ['{', '"'] text).bind fun (key, text) =>
    (readPart [':', '"'] text).bind fun (value, text) =>
      (readPart [',', '"'] text).bind fun (key', text) =>
        (readPart [':', '"'] text).bind fun (value', text) =>
          if text = ['}'] then some (.obj [(key, .str value), (key', .str value')]) else none

def parse (cursor : String) : Option Json :=
  (String.fromUTF8? ⟨(Texts.readBase64Url cursor.toList).toArray⟩).bind fun text =>
    readPair text.toList

theorem readPart_escaped (signs rest : List Char) (text : String) :
    readPart signs (signs ++ (Texts.escaped text.toList ++ '"' :: rest)) = some (text, rest) := by
  have starts : signs.isPrefixOf (signs ++ (Texts.escaped text.toList ++ '"' :: rest)) = true :=
    List.isPrefixOf_iff_prefix.mpr (List.prefix_append _ _)
  unfold readPart
  simp only [starts, if_true, List.drop_left, Texts.readQuoted_escaped, map_some, String.ofList_toList]

theorem readPair_jsonText (key text key' text' : String) :
    readPair (jsonText key text key' text') = some (.obj [(key, .str text), (key', .str text')]) := by
  unfold readPair jsonText
  simp only [readPart_escaped, bind_some, if_true]

theorem fromUTF8_toUTF8 (text : String) : String.fromUTF8? ⟨text.toUTF8.data⟩ = some text :=
  dif_pos text.isValidUTF8

theorem parse_stringify (key text key' text' : String) :
    parse (stringify (.obj [(key, .str text), (key', .str text')])) =
      some (.obj [(key, .str text), (key', .str text')]) := by
  simp only [parse, stringify, String.toList_ofList, Texts.readBase64Url_base64Url,
    Array.toArray_toList, fromUTF8_toUTF8, bind_some, readPair_jsonText]

/-- A number as a uuid. -/
def uuidText (id : Id) : String :=
  .ofList (Texts.grouped [8, 4, 4, 4] (Texts.numeral 16 32 id))

def isHexDigit (c : Char) : Bool := c.isDigit || 'a' ≤ c && c ≤ 'f'

def uuid (text : String) : Option Id :=
  let digits := text.toList.filter (· ≠ '-')
  if digits.all isHexDigit then some (Texts.value 16 digits) else none

theorem isHexDigit_digitChar : ∀ d < 16, isHexDigit (Nat.digitChar d) = true := by decide

theorem uuid_uuidText (id : Id) : uuid (uuidText id) = some id := by
  have hex : ∀ c ∈ Texts.numeral 16 32 id, isHexDigit c = true := by
    intro c mem
    obtain ⟨d, small, rfl⟩ := Texts.mem_numeral (by decide) mem
    exact isHexDigit_digitChar d small
  have plain : '-' ∉ Texts.numeral 16 32 id := fun mem => absurd (hex _ mem) (by decide)
  unfold uuid uuidText
  rw [String.toList_ofList, Texts.filter_grouped _ plain]
  dsimp only
  rw [if_pos (List.all_eq_true.mpr hex), Texts.value_numeral (by decide) (by decide)]

def text : CursorText where
  toISOString time := .ofList (Texts.isoText time)
  parseDate text := Texts.readIso text.toList
  parseDate_toISOString time := by rw [String.toList_ofList, Texts.readIso_isoText]
  stringify := stringify
  parse := parse
  parse_stringify createdAt id := parse_stringify "createdAt" createdAt "id" id
  uuidText := uuidText
  uuid := uuid
  uuid_uuidText := uuid_uuidText

example : text.encodeCursor 1000 2 =
    "eyJjcmVhdGVkQXQiOiIxOTcwLTAxLTAxVDAwOjAwOjAxLjAwMFoiLCJpZCI6" ++
      "IjAwMDAwMDAwLTAwMDAtMDAwMC0wMDAwLTAwMDAwMDAwMDAwMiJ9" := by
  decide +kernel

end Runtime

def storedAt (id : Id) (createdMicros : Nat) : StoredInstance where
  read := { id, entityTypeId := 5, tenantId := 1, createdAt := createdMicros / 1000, updatedAt := 0 }
  createdMicros
  inMilliseconds := rfl

def tiedStore : InstanceStore where
  db := {}
  instances := [storedAt 4 1000400, storedAt 3 1000400, storedAt 2 1000900, storedAt 9 999900]
  keyed := by decide

/-- Pages of two records each. -/
theorem listEntities_complete_ties :
    ∃ (pages : Nat) (listed : List StoredInstance),
      followCursors (listEntitiesFrom Runtime.text plainListEnv tiedStore 1
        { entityTypeId := 5, limit := some ⟨2, by decide⟩ }) pages none =
          some (listed.map (·.shown plainListEnv)) ∧
      listed.map (·.read.id) = [9, 2, 3, 4] := by
  obtain ⟨pages, listed, followed, perm, sorted⟩ := listEntities_complete Runtime.text plainListEnv
    tiedStore 1 { entityTypeId := 5, limit := some ⟨2, by decide⟩ }
  refine ⟨pages, listed, followed, ?_⟩
  have order : listed = tiedStore.instances.reverse := by
    refine (perm.trans (List.reverse_perm _).symm).eq_of_pairwise
      (fun _ _ _ _ before after => absurd after (lt_asymm before)) sorted ?_
    change List.Pairwise _ [storedAt 9 999900, storedAt 2 1000900, storedAt 3 1000400,
      storedAt 4 1000400]
    decide
  rw [order]
  rfl

end OpenWind
