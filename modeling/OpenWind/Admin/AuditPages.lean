import OpenWind.Admin.Lists
import OpenWind.Retention.AccessLog

/-!
# Pages of the audit log

`queryAuditLog` returns the latest entries first.  Between two pages new entries are written, and
the retention sweep deletes old ones.  The time of the cursor row goes through the query as text,
in full; a cursor whose row is deleted is ignored, and the first page comes again.
-/

open List Option

namespace OpenWind

open Runs ListQuery Keyset

structure AuditRow extends ListRow where
  actorId : String := ""
  actorType : String := "user"
  actingPersonId : Option String := none
  resourceType : String := "ticket"
  resourceId : String := ""
  action : String
  deriving DecidableEq

structure AuditFilter where
  resourceType : Option String := none
  resourceId : Option String := none
  actorIds : Option (List String) := none
  actorType : Option String := none
  actingPersonId : Option String := none
  outcomeActions : Option (List String) := none
  requestKindActions : Option (List String) := none
  actions : Option (List String) := none
  fromTime : Option Time := none
  toTime : Option Time := none

/-- The bounds are given in milliseconds. -/
def AuditFilter.accepts (input : AuditFilter) (r : AuditRow) : Bool :=
  input.actorIds.all (·.contains r.actorId) && input.actorType.all (r.actorType == ·) &&
    input.resourceType.all (r.resourceType == ·) && input.resourceId.all (r.resourceId == ·) &&
    input.actingPersonId.all (r.actingPersonId == some ·) &&
    input.outcomeActions.all (·.contains r.action) &&
    input.requestKindActions.all (·.contains r.action) && input.actions.all (·.contains r.action) &&
    input.fromTime.all (fun start => decide (start * 1000 ≤ r.time)) &&
    input.toTime.all fun close => decide (r.time ≤ close * 1000)

def auditQuery (tenantId : Id) (input : AuditFilter) : ListQuery AuditRow :=
  ⟨AuditRow.toListRow, .descending, fun time => time, tenantId, input.accepts⟩

def queryAuditLog (tenantId : Id) (input : AuditFilter) (limit : Nat) (rows : List AuditRow)
    (cursor : Option Id) : IdPage AuditRow :=
  if input.actions = some [] then ⟨[], none⟩
  else (auditQuery tenantId input).page limit rows cursor

/-! ## Reading page by page -/

/-- Who reads, and how. -/
structure AuditReader where
  tenantId : Id
  input : AuditFilter
  limit : Nat
  positive : 0 < limit

def AuditReader.query (reader : AuditReader) : ListQuery AuditRow :=
  auditQuery reader.tenantId reader.input

inductive ReadPosition
  | first
  | after (last : AuditRow)
  | ended

structure AuditReading where
  rows : List AuditRow
  /-- Every row that ever was in the log. -/
  logged : List AuditRow
  position : ReadPosition := .first
  returned : List AuditRow := []
  pages : Nat := 0
  /-- What matched when the first page was read. -/
  initial : List AuditRow := []
  pivot : Option AuditRow := none
  /-- The rows that were deleted before their page was read. -/
  lost : List AuditRow := []

inductive AuditReadingLabel
  | write (row : AuditRow)
  | sweep (now : Time) (ordered : List AuditRow)
  | read

namespace AuditReading

def expired (rows : List AuditRow) (now : Time) : List AuditRow :=
  rows.filter fun r => decide (r.time + RETENTION_DAYS * dayMs * 1000 < now * 1000)

def unread (reader : AuditReader) (w : AuditReading) (r : AuditRow) : Bool :=
  match w.position with
  | .first => true
  | .after last => reader.query.order.follows (reader.query.place last) (reader.query.place r)
  | .ended => false

def sweep (reader : AuditReader) (w : AuditReading) (batch : List AuditRow) : AuditReading :=
  { w with
    rows := w.rows.filter fun r => decide (r ∉ batch)
    lost := w.lost ++ batch.filter (w.unread reader) }

def fetch (reader : AuditReader) (w : AuditReading) (cursor : Option Id) : AuditReading :=
  let page := queryAuditLog reader.tenantId reader.input reader.limit w.rows cursor
  let last := if page.nextCursor.isSome then page.entries.getLast? else none
  { w with
    position := last.elim .ended .after
    returned := w.returned ++ page.entries
    pages := w.pages + 1
    pivot := w.pivot.or last }

def step (reader : AuditReader) (w : AuditReading) : AuditReadingLabel → Option AuditReading
  | .write row =>
    if row.id ∈ w.logged.map (·.id) then none
    else some { w with rows := w.rows ++ [row], logged := w.logged ++ [row] }
  | .sweep now ordered =>
    if ordered.Perm (expired w.rows now) ∧ ordered.Pairwise (fun a b => a.time ≤ b.time) then
      some (w.sweep reader (ordered.take BATCH_LIMIT))
    else none
  | .read =>
    match w.position with
    | .first => some (fetch reader { w with initial := reader.query.matching w.rows } none)
    | .after last => some (fetch reader w (some last.id))
    | .ended => none

/-- Nothing was read yet. -/
def start (table : KeyedTable AuditRow.toListRow) : AuditReading :=
  { rows := table.rows, logged := table.rows }

def findsCursor (w : AuditReading) : AuditReadingLabel → Bool
  | .read =>
    match w.position with
    | .after last => decide (last ∈ w.rows)
    | _ => true
  | _ => true

def older (reader : AuditReader) (pivot : Option AuditRow) (r : AuditRow) : Bool :=
  pivot.any fun p => reader.query.order.follows (reader.query.place p) (reader.query.place r)

structure Right (reader : AuditReader) (w : AuditReading) : Prop where
  once : w.returned.Nodup
  complete : w.position = .ended → ∀ r ∈ w.initial, r ∈ w.returned ∨ r ∈ w.lost
  bounded : w.pages ≤ 2 + (w.logged.filter (older reader w.pivot)).length

variable {reader : AuditReader} {w : AuditReading}

/-- What a page by page reading keeps. -/
structure Sound (reader : AuditReader) (w : AuditReading) : Prop where
  keyed : (w.logged.map (·.id)).Nodup
  stored : w.rows.Sublist w.logged
  once : w.returned.Nodup
  known : ∀ r ∈ w.returned, r ∈ w.logged
  selected : ∀ r ∈ w.initial, reader.query.selects r = true
  begun : w.position = .first → w.returned = [] ∧ w.pages = 0 ∧ w.pivot = none
  behind : ∀ last, w.position = .after last → reader.query.selects last = true ∧
    ∀ r ∈ w.returned, reader.query.key r ≤ reader.query.key last
  ahead : ∀ last, w.position = .after last → ∀ r ∈ w.initial, r ∈ w.returned ∨ r ∈ w.lost ∨
    r ∈ w.rows ∧ reader.query.key last < reader.query.key r
  done : w.position = .ended → ∀ r ∈ w.initial, r ∈ w.returned ∨ r ∈ w.lost
  paid : ∀ last, w.position = .after last → ∃ p, w.pivot = some p ∧
    reader.query.key p ≤ reader.query.key last ∧
      w.pages ≤ 1 + (w.returned.filter (older reader w.pivot)).length
  bounded : w.pages ≤ 2 + (w.returned.filter (older reader w.pivot)).length

theorem Sound.right (sound : w.Sound reader) : w.Right reader where
  once := sound.once
  complete := sound.done
  bounded := by
    have inside : (w.returned.filter (older reader w.pivot)).Subperm
        (w.logged.filter (older reader w.pivot)) := by
      refine subperm_of_subset (sound.once.filter _) fun r mem => ?_
      obtain ⟨returned, older⟩ := mem_filter.mp mem
      exact mem_filter.mpr ⟨sound.known r returned, older⟩
    have bound := sound.bounded
    have fewer := inside.length_le
    omega

theorem queryAuditLog_eq (reader : AuditReader) (rows : List AuditRow) (cursor : Option Id) :
    queryAuditLog reader.tenantId reader.input reader.limit rows cursor =
      reader.query.page reader.limit rows cursor := by
  unfold queryAuditLog
  split
  · next empty =>
    have nothing : ∀ r, reader.query.selects r = false := by
      intro r
      simp [selects, AuditReader.query, auditQuery, AuditFilter.accepts, empty]
    simp [ListQuery.page, nothing, sort]
  · rfl

/-! ## A page -/

structure Ready (reader : AuditReader) (w : AuditReading) (cursor : Option Id)
    (c : Option (ℤ ×ₗ ℤ)) : Prop where
  keyed : (w.logged.map (·.id)).Nodup
  stored : w.rows.Sublist w.logged
  once : w.returned.Nodup
  known : ∀ r ∈ w.returned, r ∈ w.logged
  selected : ∀ r ∈ w.initial, reader.query.selects r = true
  leads : ListQuery.Leads reader.query w.rows cursor c
  behind : ∀ r ∈ w.returned, Keyset.above reader.query.key c r = false
  ahead : ∀ r ∈ w.initial, r ∈ w.returned ∨ r ∈ w.lost ∨
    r ∈ w.rows ∧ Keyset.above reader.query.key c r = true
  paid : w.pivot = none ∧ w.pages = 0 ∨ ∃ p, w.pivot = some p ∧
    (∀ r, Keyset.above reader.query.key c r = true → reader.query.key p < reader.query.key r) ∧
      w.pages ≤ 1 + (w.returned.filter (older reader w.pivot)).length

theorem older_iff {p r : AuditRow} :
    older reader (some p) r ↔ reader.query.key p < reader.query.key r := by
  rw [older, any_some, ListOrder.follows_iff]
  rfl

section Page

variable {cursor : Option Id} {c : Option (ℤ ×ₗ ℤ)}

theorem Ready.fresh (ready : w.Ready reader cursor c) {entries : List AuditRow}
    (some' : entries.Sublist (Keyset.after reader.query.key c (reader.query.matching w.rows))) :
    (w.returned ++ entries).Nodup ∧ ∀ r ∈ w.returned ++ entries, r ∈ w.logged := by
  have keyed : (w.rows.map reader.query.id).Nodup := ready.keyed.sublist (ready.stored.map _)
  have sorted : (Keyset.after reader.query.key c (reader.query.matching w.rows)).Nodup :=
    (after_sorted (key_nodup keyed) c).imp fun less same => by
      rw [same] at less
      exact lt_irrefl _ less
  constructor
  · refine List.nodup_append.mpr ⟨ready.once, sorted.sublist some', ?_⟩
    rintro r returned _ entry rfl
    have above := (mem_after.mp (some'.subset entry)).2
    rw [ready.behind r returned] at above
    cases above
  · intro r mem
    rcases mem_append.mp mem with returned | entry
    · exact ready.known r returned
    · have found := (mem_after.mp (some'.subset entry)).1
      exact ready.stored.subset (mem_matching.mp found).1

theorem Ready.pays (ready : w.Ready reader cursor c) {entries : List AuditRow} {p : AuditRow}
    (pivot : w.pivot = some p)
    (some' : entries.Sublist (Keyset.after reader.query.key c (reader.query.matching w.rows))) :
    ((w.returned ++ entries).filter (older reader w.pivot)).length =
      (w.returned.filter (older reader w.pivot)).length + entries.length := by
  have all : entries.filter (older reader w.pivot) = entries := by
    refine filter_eq_self.mpr fun r mem => ?_
    rw [pivot, older_iff]
    rcases ready.paid with ⟨none', -⟩ | ⟨p', pivot', beyond, -⟩
    · cases none'.symm.trans pivot
    · obtain rfl := Option.some.inj (pivot'.symm.trans pivot)
      exact beyond r (mem_after.mp (some'.subset mem)).2
  rw [filter_append, length_append, all]

theorem Ready.fetch (ready : w.Ready reader cursor c) : (fetch reader w cursor).Sound reader := by
  have keyed : (w.rows.map reader.query.id).Nodup := ready.keyed.sublist (ready.stored.map _)
  have distinct := key_nodup keyed
  have sought : ∀ r ∈ w.initial, r ∈ w.rows → Keyset.above reader.query.key c r →
      r ∈ Keyset.after reader.query.key c (reader.query.matching w.rows) := fun r mem stored above =>
    mem_after.mpr ⟨mem_matching.mpr ⟨stored, ready.selected r mem⟩, above⟩
  unfold AuditReading.fetch
  rw [queryAuditLog_eq]
  rcases page_cases reader.positive keyed ready.leads with
    ⟨pivot, long, found, last, shape⟩ | ⟨short, shape⟩
  · rw [shape]
    dsimp only
    rw [isSome_some, if_pos rfl, last, elim_some]
    obtain ⟨once, known⟩ := ready.fresh (take_sublist reader.limit _)
    have filled : ((Keyset.after reader.query.key c (reader.query.matching w.rows)).take
        reader.limit).length = reader.limit := by
      rw [length_take]
      omega
    have inMatching := (mem_after.mp (mem_of_getElem? found)).1
    have abovePivot := (mem_after.mp (mem_of_getElem? found)).2
    have positive := reader.positive
    refine ⟨ready.keyed, ready.stored, once, known, ready.selected, (by rintro ⟨⟩), ?_, ?_,
      (by rintro ⟨⟩), ?_, ?_⟩
    · rintro _ ⟨⟩
      refine ⟨(mem_matching.mp inMatching).2, fun r mem => ?_⟩
      rcases mem_append.mp mem with returned | entry
      · have reached := ready.behind r returned
        cases c with
        | none => cases reached
        | some c =>
          simp only [Keyset.above, all_some, decide_eq_false_iff_not, decide_eq_true_eq,
            not_lt] at reached abovePivot
          exact reached.trans abovePivot.le
      · exact below_pivot distinct found entry
    · rintro _ ⟨⟩ r mem
      rcases ready.ahead r mem with returned | lost | ⟨stored, above⟩
      · exact Or.inl (mem_append_left _ returned)
      · exact Or.inr (Or.inl lost)
      · by_cases here : r ∈ (Keyset.after reader.query.key c
            (reader.query.matching w.rows)).take reader.limit
        · exact Or.inl (mem_append_right _ here)
        · exact Or.inr (Or.inr ⟨stored,
            above_pivot distinct found positive (sought r mem stored above) here⟩)
    · rintro _ ⟨⟩
      rcases ready.paid with ⟨none', pages⟩ | ⟨p, pivot', beyond, pages⟩
      · refine ⟨pivot, by rw [none']; rfl, le_refl _, ?_⟩
        dsimp only
        omega
      · refine ⟨p, by rw [pivot']; rfl, (beyond pivot abovePivot).le, ?_⟩
        have pays := ready.pays pivot' (take_sublist reader.limit _)
        rw [pivot'] at pays pages ⊢
        rw [some_or, pays, filled]
        dsimp only
        omega
    · rcases ready.paid with ⟨none', pages⟩ | ⟨p, pivot', beyond, pages⟩
      · dsimp only
        omega
      · have pays := ready.pays pivot' (take_sublist reader.limit _)
        rw [pivot'] at pays pages ⊢
        rw [some_or, pays]
        dsimp only
        omega
  · rw [shape]
    dsimp only
    rw [isSome_none, if_neg Bool.false_ne_true, elim_none, or_none]
    obtain ⟨once, known⟩ := ready.fresh (Sublist.refl _)
    refine ⟨ready.keyed, ready.stored, once, known, ready.selected, (by rintro ⟨⟩), (by rintro _ ⟨⟩),
      (by rintro _ ⟨⟩), fun _ r mem => ?_, (by rintro _ ⟨⟩), ?_⟩
    · rcases ready.ahead r mem with returned | lost | ⟨stored, above⟩
      · exact Or.inl (mem_append_left _ returned)
      · exact Or.inr lost
      · exact Or.inl (mem_append_right _ (sought r mem stored above))
    · rcases ready.paid with ⟨none', pages⟩ | ⟨p, pivot', beyond, pages⟩
      · dsimp only
        omega
      · have pays := ready.pays pivot' (Sublist.refl _)
        rw [pays]
        dsimp only
        omega

end Page

/-! ## Steps -/

section

variable (sound : w.Sound reader)

include sound

theorem Sound.ready_first (first : w.position = .first) :
    Ready reader { w with initial := reader.query.matching w.rows } none none := by
  obtain ⟨returned, pages, pivot⟩ := sound.begun first
  refine ⟨sound.keyed, sound.stored, sound.once, sound.known,
    fun r mem => (mem_matching.mp mem).2, .start, ?_, ?_, Or.inl ⟨pivot, pages⟩⟩
  · dsimp only
    rw [returned]
    exact fun r mem => absurd mem not_mem_nil
  · exact fun r mem => Or.inr (Or.inr ⟨(mem_matching.mp mem).1, rfl⟩)

theorem Sound.ready_after {last : AuditRow} (position : w.position = .after last)
    (found : last ∈ w.rows) : w.Ready reader (some last.id) (some (reader.query.key last)) := by
  obtain ⟨selected, behind⟩ := sound.behind last position
  refine ⟨sound.keyed, sound.stored, sound.once, sound.known, sound.selected,
    .row last found (own_of_selects selected), fun r mem => ?_, fun r mem => ?_, Or.inr ?_⟩
  · exact decide_eq_false (not_lt.mpr (behind r mem))
  · exact (sound.ahead last position r mem).imp_right
      (Or.imp_right (And.imp_right (decide_eq_true ·)))
  · obtain ⟨p, pivot, before, pages⟩ := sound.paid last position
    exact ⟨p, pivot, fun r beyond => before.trans_lt (decide_eq_true_eq.mp beyond), pages⟩

theorem Sound.sweep (batch : List AuditRow) : (w.sweep reader batch).Sound reader := by
  refine ⟨sound.keyed, filter_sublist.trans sound.stored, sound.once, sound.known,
    sound.selected, sound.begun, sound.behind, fun last position r mem => ?_,
    fun ended r mem => (sound.done ended r mem).imp_right (mem_append_left _), sound.paid,
    sound.bounded⟩
  rcases sound.ahead last position r mem with returned | lost | ⟨stored, beyond⟩
  · exact Or.inl returned
  · exact Or.inr (Or.inl (mem_append_left _ lost))
  · by_cases swept : r ∈ batch
    · refine Or.inr (Or.inl (mem_append_right _ (mem_filter.mpr ⟨swept, ?_⟩)))
      have follows : reader.query.order.follows (reader.query.place last) (reader.query.place r) =
          true := ListOrder.follows_iff.mpr beyond
      have at' : w.position = .after last := position
      rw [unread, at']
      exact follows
    · exact Or.inr (Or.inr ⟨mem_filter.mpr ⟨stored, decide_eq_true swept⟩, beyond⟩)

theorem Sound.write {row : AuditRow} (fresh : row.id ∉ w.logged.map (·.id)) :
    Sound reader { w with rows := w.rows ++ [row], logged := w.logged ++ [row] } := by
  refine ⟨Rows.nodup_append sound.keyed fresh, sound.stored.append (Sublist.refl _), sound.once,
    fun r mem => mem_append_left _ (sound.known r mem), sound.selected, sound.begun,
    sound.behind, fun last position r mem => ?_, sound.done, sound.paid, sound.bounded⟩
  exact (sound.ahead last position r mem).imp_right
    (Or.imp_right (And.imp_left (mem_append_left _)))

theorem Sound.step {label : AuditReadingLabel} {t : AuditReading}
    (found : w.findsCursor label) (stepped : w.step reader label = some t) : t.Sound reader := by
  cases label with
  | write row =>
    obtain ⟨fresh, stepped⟩ := ite_none_left_eq_some.mp stepped
    obtain rfl := Option.some.inj stepped
    exact sound.write fresh
  | sweep now ordered =>
    obtain ⟨-, stepped⟩ := ite_none_right_eq_some.mp stepped
    obtain rfl := Option.some.inj stepped
    exact sound.sweep _
  | read =>
    simp only [AuditReading.step] at stepped
    simp only [findsCursor] at found
    cases position : w.position with
    | first =>
      rw [position] at stepped
      obtain rfl := Option.some.inj stepped
      exact (sound.ready_first position).fetch
    | after last =>
      rw [position] at stepped found
      obtain rfl := Option.some.inj stepped
      exact (sound.ready_after position (decide_eq_true_iff.mp found)).fetch
    | ended =>
      rw [position] at stepped
      cases stepped

end

theorem start_sound (reader : AuditReader) (table : KeyedTable AuditRow.toListRow) :
    (start table).Sound reader where
  keyed := table.keyed
  stored := Sublist.refl _
  once := nodup_nil
  known _ mem := absurd mem not_mem_nil
  selected _ mem := absurd mem not_mem_nil
  begun _ := ⟨rfl, rfl, rfl⟩
  behind _ := by rintro ⟨⟩
  ahead _ := by rintro ⟨⟩
  done := by rintro ⟨⟩
  paid _ := by rintro ⟨⟩
  bounded := Nat.zero_le _

end AuditReading

/-- Whatever is written and swept between the pages, the reading is right as long as the row of
each cursor is there when the next page is read. -/
theorem audit_pages_right (reader : AuditReader) (table : KeyedTable AuditRow.toListRow)
    (labels : List AuditReadingLabel)
    (found : Guarded (AuditReading.step reader) (fun w label => w.findsCursor label = true)
      (.start table) labels) :
    Always (AuditReading.step reader) (AuditReading.Right reader) (.start table) labels :=
  found.always (fun sound found stepped => sound.step found stepped)
    (fun sound => sound.right) (AuditReading.start_sound reader table)

/-! ## A cursor whose row is swept -/

namespace AuditSample

def reader : AuditReader := ⟨7, {}, 2, by decide⟩

/-- A day, in microseconds. -/
def day : Nat := dayMs * 1000

def row (id time : Nat) : AuditRow := { id, tenantId := 7, time, action := "updated" }

/-- One entry of today, and two that are past the window. -/
def table : KeyedTable AuditRow.toListRow where
  rows := [row 1 (2 * day), row 2 day, row 3 (100 * day)]
  keyed := by decide

def labels : List AuditReadingLabel :=
  [.read, .sweep (100 * dayMs) [row 2 day, row 1 (2 * day)], .read]

end AuditSample

open AuditSample in
theorem audit_pages_right_unswept : Always (AuditReading.step reader) (AuditReading.Right reader)
    (.start table) [.read, .write (row 4 (101 * day)), .read] :=
  audit_pages_right reader table _ (Guarded.of_check (fun found => found) (by decide +kernel))

open AuditSample in
/-- The entry of today is returned again. -/
theorem audit_page_repeated : ∃ w, run (AuditReading.step reader) (.start table) labels = some w ∧
    w.returned = [row 3 (100 * day), row 1 (2 * day), row 3 (100 * day)] ∧ ¬ w.Right reader := by
  have ran : (run (AuditReading.step reader) (.start table) labels).map (·.returned) =
      some [row 3 (100 * day), row 1 (2 * day), row 3 (100 * day)] := by
    decide +kernel
  obtain ⟨w, ran, returned⟩ := map_eq_some_iff.mp ran
  refine ⟨w, ran, returned, fun right => ?_⟩
  have once := right.once
  rw [returned] at once
  exact absurd once (by decide)

end OpenWind
