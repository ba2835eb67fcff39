import OpenWind.Entity.RelationPages
import OpenWind.Schedule.Tick

/-!
# Lists with the id of a row as cursor

The admin lists give the id of a page's last row as the cursor of the next page, and look that
row up again for its time.  The database keeps the time in microseconds; it comes back as a
`Date`, in milliseconds.
-/

open List Prod

namespace OpenWind

open Keyset

/-! ## Pages -/

structure ListRow where
  id : Id
  tenantId : Id
  time : Nat
  deletedAt : Option Time := none
  deriving DecidableEq

inductive ListOrder
  | ascending | descending

def ListOrder.follows (order : ListOrder) (cursor place : Nat × Id) : Bool :=
  match order with
  | .ascending => decide (cursor.1 < place.1) || (place.1 == cursor.1 && decide (cursor.2 < place.2))
  | .descending => decide (place.1 < cursor.1) || (place.1 == cursor.1 && decide (place.2 < cursor.2))

/-- What a list asks for. -/
structure ListQuery (ρ : Type) where
  row : ρ → ListRow
  order : ListOrder
  /-- The time of the cursor row as the next query has it. -/
  carried : Nat → Nat
  tenantId : Id
  conditions : ρ → Bool

structure IdPage (ρ : Type) where
  entries : List ρ
  nextCursor : Option Id

namespace ListQuery

variable {ρ : Type} (q : ListQuery ρ)

def id (r : ρ) : Id := (q.row r).id

def place (r : ρ) : Nat × Id := ((q.row r).time, q.id r)

/-- Where the cursor of a row leads to. -/
def carriedPlace (r : ρ) : Nat × Id := (q.carried (q.row r).time, q.id r)

def sort (rows : List ρ) : List ρ :=
  rows.insertionSort fun a b => q.order.follows (q.place b) (q.place a) = false

/-- The conditions but the cursor's. -/
def selects (r : ρ) : Bool := (q.row r).tenantId == q.tenantId && q.conditions r

def matching (rows : List ρ) : List ρ := rows.filter q.selects

def cursorRow (rows : List ρ) (cursor : Id) : Option ρ :=
  rows.find? fun r => q.id r == cursor && (q.row r).tenantId == q.tenantId

def page (limit : Nat) (rows : List ρ) (cursor : Option Id) : IdPage ρ :=
  let beyond (r : ρ) : Bool := (cursor.bind (q.cursorRow rows)).all fun c =>
    q.order.follows (q.carriedPlace c) (q.place r)
  let found := (q.sort (rows.filter fun r => q.selects r && beyond r)).take (limit + 1)
  let hasMore := decide (limit < found.length)
  let entries := if hasMore then found.take limit else found
  ⟨entries, if hasMore then entries.getLast?.map q.id else none⟩

def follow (limit : Nat) (rows : List ρ) : Nat → Option Id → Option (List ρ)
  | 0, _ => none
  | pages + 1, cursor =>
    match q.page limit rows cursor with
    | ⟨entries, none⟩ => some entries
    | ⟨entries, some next⟩ => (follow limit rows pages (some next)).map (entries ++ ·)

def PagesCompletely (limit : Nat) (rows : List ρ) : Prop :=
  ∃ pages listed, q.follow limit rows pages none = some listed ∧ listed.Perm (q.matching rows)

def KeepsPlace (rows : List ρ) (r : ρ) : Prop :=
  match q.order with
  | .ascending => q.carried (q.row r).time = (q.row r).time
  | .descending => ∀ x ∈ q.matching rows, q.order.follows (q.place r) (q.place x) = true →
      q.order.follows (q.carriedPlace r) (q.place x) = true

def PivotsKeepPlace (limit : Nat) (rows : List ρ) : Prop :=
  Keyset.Pivots limit (q.sort (q.matching rows)) (q.KeepsPlace rows)

end ListQuery

/-! ## A page is a page by key -/

def ListOrder.key (order : ListOrder) (place : Nat × Id) : ℤ ×ₗ ℤ :=
  match order with
  | .ascending => toLex (place.1, place.2)
  | .descending => toLex (-place.1, -place.2)

theorem ListOrder.follows_iff {order : ListOrder} {cursor place : Nat × Id} :
    order.follows cursor place ↔ order.key cursor < order.key place := by
  obtain ⟨a, i⟩ := cursor
  obtain ⟨b, j⟩ := place
  unfold follows key
  cases order with
  | ascending =>
    simp only [Bool.or_eq_true, Bool.and_eq_true, decide_eq_true_eq, beq_iff_eq]
    refine Iff.trans ?_ Lex.toLex_lt_toLex.symm
    exact or_congr Int.ofNat_lt.symm (and_congr (eq_comm.trans Int.ofNat_inj.symm) Int.ofNat_lt.symm)
  | descending =>
    simp only [Bool.or_eq_true, Bool.and_eq_true, decide_eq_true_eq, beq_iff_eq]
    refine Iff.trans ?_ Lex.toLex_lt_toLex.symm
    simp only [Int.neg_lt_neg_iff, Int.neg_inj]
    exact or_congr Int.ofNat_lt.symm (and_congr (eq_comm.trans Int.ofNat_inj.symm) Int.ofNat_lt.symm)

theorem ListOrder.key_injective (order : ListOrder) : order.key.Injective := by
  intro p q same
  cases order with
  | ascending =>
    obtain ⟨times, ids⟩ := Prod.ext_iff.mp (toLex.injective same)
    exact Prod.ext (Int.ofNat_inj.mp times) (Int.ofNat_inj.mp ids)
  | descending =>
    obtain ⟨times, ids⟩ := Prod.ext_iff.mp (toLex.injective same)
    exact Prod.ext (Int.ofNat_inj.mp (Int.neg_inj.mp times)) (Int.ofNat_inj.mp (Int.neg_inj.mp ids))

namespace ListQuery

variable {ρ : Type} {q : ListQuery ρ} {limit : Nat} {rows : List ρ}

variable (q) in
def key (r : ρ) : ℤ ×ₗ ℤ := q.order.key (q.place r)

variable (q) in
def mark (r : ρ) : ℤ ×ₗ ℤ := q.order.key (q.carriedPlace r)

theorem sort_eq : q.sort rows = Keyset.after q.key none rows := by
  have all : rows.filter (above q.key none) = rows :=
    filter_eq_self.mpr fun _ _ => rfl
  rw [Keyset.after, all, sort]
  congr 1
  funext a b
  rw [eq_iff_iff, ← Bool.not_eq_true, ListOrder.follows_iff, not_lt]
  rfl

/-- A cursor, and the key that it stands for. -/
inductive Leads (q : ListQuery ρ) (rows : List ρ) : Option Id → Option (ℤ ×ₗ ℤ) → Prop
  | start : Leads q rows none none
  | row (r : ρ) (mem : r ∈ rows) (own : (q.row r).tenantId = q.tenantId) :
    Leads q rows (some (q.id r)) (some (q.mark r))

theorem cursorRow_eq (keyed : (rows.map q.id).Nodup) {r : ρ} (mem : r ∈ rows)
    (own : (q.row r).tenantId = q.tenantId) : q.cursorRow rows (q.id r) = some r := by
  unfold cursorRow
  cases found : rows.find? fun x => q.id x == q.id r && (q.row x).tenantId == q.tenantId with
  | none =>
    have refused := find?_eq_none.mp found r mem
    simp [own] at refused
  | some x =>
    have same : q.id x = q.id r := by
      have holds := find?_some found
      simp only [Bool.and_eq_true, beq_iff_eq] at holds
      exact holds.1
    exact congrArg some (inj_on_of_nodup_map keyed (mem_of_find?_eq_some found) mem same)

theorem found_eq (keyed : (rows.map q.id).Nodup) {cursor : Option Id} {c : Option (ℤ ×ₗ ℤ)}
    (leads : Leads q rows cursor c) :
    q.sort (rows.filter fun r => q.selects r && (cursor.bind (q.cursorRow rows)).all fun x =>
        q.order.follows (q.carriedPlace x) (q.place r)) =
      Keyset.after q.key c (q.matching rows) := by
  have cuts : ∀ r, ((cursor.bind (q.cursorRow rows)).all fun x =>
      q.order.follows (q.carriedPlace x) (q.place r)) = above q.key c r := by
    intro r
    cases leads with
    | start => rfl
    | row x mem own =>
      rw [Option.bind_some, cursorRow_eq keyed mem own]
      exact Bool.eq_iff_iff.mpr (ListOrder.follows_iff.trans decide_eq_true_iff.symm)
  have all : ∀ rows : List ρ, rows.filter (above q.key none) = rows :=
    fun rows => filter_eq_self.mpr fun _ _ => rfl
  simp only [cuts]
  rw [sort_eq, Keyset.after, all, Keyset.after, matching, filter_filter]
  congr 2
  funext r
  exact Bool.and_comm _ _

theorem page_cases (positive : 0 < limit) (keyed : (rows.map q.id).Nodup) {cursor : Option Id}
    {c : Option (ℤ ×ₗ ℤ)} (leads : Leads q rows cursor c) :
    (∃ pivot, limit < (Keyset.after q.key c (q.matching rows)).length ∧
      (Keyset.after q.key c (q.matching rows))[limit - 1]? = some pivot ∧
      ((Keyset.after q.key c (q.matching rows)).take limit).getLast? = some pivot ∧
      q.page limit rows cursor =
        ⟨(Keyset.after q.key c (q.matching rows)).take limit, some (q.id pivot)⟩) ∨
    ((Keyset.after q.key c (q.matching rows)).length ≤ limit ∧
      q.page limit rows cursor = ⟨Keyset.after q.key c (q.matching rows), none⟩) := by
  unfold page
  simp only [found_eq keyed leads]
  rcases Nat.lt_or_ge limit (Keyset.after q.key c (q.matching rows)).length with long | short
  · obtain ⟨pivot, found, last, longer, taken⟩ := take_more long positive
    refine Or.inl ⟨pivot, long, found, last, ?_⟩
    simp only [longer, decide_true, if_true, taken, last, Option.map_some]
  · refine Or.inr ⟨short, ?_⟩
    rw [take_of_length_le (Nat.le_succ_of_le short)]
    simp only [Nat.not_lt.mpr short, decide_false, Bool.false_eq_true, if_false]

theorem mem_matching {r : ρ} : r ∈ q.matching rows ↔ r ∈ rows ∧ q.selects r :=
  mem_filter

theorem own_of_selects {r : ρ} (selected : q.selects r) : (q.row r).tenantId = q.tenantId :=
  beq_iff_eq.mp (Bool.and_eq_true_iff.mp selected).1

theorem page_eq (positive : 0 < limit) (keyed : (rows.map q.id).Nodup) {cursor : Option Id}
    {c : Option (ℤ ×ₗ ℤ)} (leads : Leads q rows cursor c) :
    (q.page limit rows cursor).entries = (Keyset.page q.key q.mark limit c (q.matching rows)).1 ∧
      Leads q rows (q.page limit rows cursor).nextCursor
        (Keyset.page q.key q.mark limit c (q.matching rows)).2 := by
  rcases page_cases positive keyed leads with ⟨pivot, long, found, -, shape⟩ | ⟨short, shape⟩
  · obtain ⟨pivot', found', shape'⟩ := page_more q.mark long positive
    obtain rfl := Option.some.inj (found.symm.trans found')
    obtain ⟨mem, selected⟩ :=
      mem_matching.mp (mem_after.mp (mem_of_getElem? found)).1
    rw [shape, shape']
    exact ⟨rfl, .row pivot mem (own_of_selects selected)⟩
  · rw [shape, page_last short]
    exact ⟨rfl, .start⟩

theorem follow_eq (positive : 0 < limit) (keyed : (rows.map q.id).Nodup) (pages : Nat)
    {cursor : Option Id} {c : Option (ℤ ×ₗ ℤ)} (leads : Leads q rows cursor c) :
    q.follow limit rows pages cursor = walk q.key q.mark limit (q.matching rows) pages c := by
  induction pages generalizing cursor c with
  | zero => rfl
  | succ pages ih =>
    obtain ⟨entries, next⟩ := page_eq positive keyed leads
    rw [follow, walk]
    generalize q.page limit rows cursor = shown at entries next ⊢
    generalize Keyset.page q.key q.mark limit c (q.matching rows) = keyed' at entries next ⊢
    obtain ⟨data, nextCursor⟩ := shown
    obtain ⟨found, pivot⟩ := keyed'
    dsimp only at entries next
    subst entries
    cases next with
    | start => rfl
    | row r mem own => simp only [ih (.row r mem own)]

theorem key_nodup (keyed : (rows.map q.id).Nodup) : ((q.matching rows).map q.key).Nodup := by
  have ids : ((q.matching rows).map q.id).Nodup := keyed.sublist (filter_sublist.map _)
  refine Nodup.map_on (fun a memA b memB same => ?_) (Nodup.of_map _ ids)
  have places : q.place a = q.place b := q.order.key_injective same
  exact inj_on_of_nodup_map ids memA memB (congrArg snd places)

theorem mark_le (floor : ∀ t, q.carried t ≤ t) (ascends : q.order = .ascending) (r : ρ) :
    q.mark r ≤ q.key r := by
  have bound := floor (q.row r).time
  unfold mark key
  rw [ascends]
  refine Lex.toLex_le_toLex.mpr ?_
  dsimp only [carriedPlace, place]
  omega

theorem key_le (floor : ∀ t, q.carried t ≤ t) (descends : q.order = .descending) (r : ρ) :
    q.key r ≤ q.mark r := by
  have bound := floor (q.row r).time
  unfold mark key
  rw [descends]
  refine Lex.toLex_le_toLex.mpr ?_
  dsimp only [carriedPlace, place]
  omega

theorem pagesCompletely_iff (floor : ∀ t, q.carried t ≤ t) (positive : 0 < limit)
    (keyed : (rows.map q.id).Nodup) : q.PagesCompletely limit rows ↔ q.PivotsKeepPlace limit rows := by
  have walks : q.PagesCompletely limit rows ↔
      Keyset.Complete q.key q.mark limit (q.matching rows) :=
    exists_congr fun pages => exists_congr fun listed => by
      rw [follow_eq positive keyed pages .start]
  rw [walks, PivotsKeepPlace, sort_eq]
  cases order : q.order with
  | ascending =>
    rw [complete_iff positive (mark_le floor order) (key_nodup keyed)]
    refine forall₂_congr fun k r => imp_congr_right fun _ => imp_congr_right fun _ => ?_
    unfold KeepsPlace
    rw [order]
    refine q.order.key_injective.eq_iff.trans ?_
    exact ⟨fun same => congrArg fst same, fun same => congrArg (·, q.id r) same⟩
  | descending =>
    rw [complete_iff_keeps positive (Or.inr (key_le floor order)) (key_nodup keyed)]
    refine forall₂_congr fun k r => imp_congr_right fun _ => imp_congr_right fun _ => ?_
    rw [KeepsPlace, order]
    simp only [← order, ListOrder.follows_iff]
    exact ⟨fun keeps x mem => (keeps x mem).mpr,
      fun keeps x mem => ⟨(key_le floor order r).trans_lt, keeps x mem⟩⟩

end ListQuery

/-! ## The lists -/

/-- A `Date` drops what is below the millisecond. -/
def dateOf (time : Nat) : Nat := time / 1000 * 1000

structure PolicyRow extends ListRow where
  severity : String
  teamId : Option Id
  workflowTypeId : Option Id

structure ListedRule extends ListRow where
  status : ScheduleStatus

/-- Its time is `startsAt`. -/
structure WindowRow extends ListRow where
  teamId : Id
  endsAt : Nat

/-- Its time is `scheduledAt`. -/
structure ExecutionRow extends ListRow where
  ruleId : Id
  status : ExecutionStatus
  deriving DecidableEq

section Lists

variable (tenantId : Id)

def listTeams : ListQuery ListRow :=
  ⟨fun r => r, .ascending, dateOf, tenantId, fun r => r.deletedAt.isNone⟩

def listLabels : ListQuery ListRow :=
  ⟨fun r => r, .ascending, dateOf, tenantId, fun r => r.deletedAt.isNone⟩

def listNotificationPolicies (teamId workflowTypeId : Option Id) (severity : Option String) :
    ListQuery PolicyRow :=
  ⟨PolicyRow.toListRow, .ascending, dateOf, tenantId, fun r => r.deletedAt.isNone &&
    teamId.all (r.teamId == some ·) && workflowTypeId.all (r.workflowTypeId == some ·) &&
    severity.all (r.severity == ·)⟩

def listScheduleRules (status : Option ScheduleStatus) (includeDeleted : Bool) :
    ListQuery ListedRule :=
  ⟨ListedRule.toListRow, .ascending, dateOf, tenantId, fun r =>
    (includeDeleted || r.deletedAt.isNone) && status.all (r.status == ·)⟩

/-- The bounds are given in milliseconds. -/
def listOnCallSchedules (teamId : Option Id) (fromTime toTime : Option Time) : ListQuery WindowRow :=
  ⟨WindowRow.toListRow, .ascending, dateOf, tenantId, fun r => r.deletedAt.isNone &&
    teamId.all (r.teamId == ·) && toTime.all (fun close => decide (r.time ≤ close * 1000)) &&
    fromTime.all fun start => decide (start * 1000 ≤ r.endsAt)⟩

def listScheduleExecutions (ruleId : Id) (status : Option ExecutionStatus) :
    ListQuery ExecutionRow :=
  ⟨ExecutionRow.toListRow, .descending, dateOf, tenantId, fun r =>
    r.ruleId == ruleId && status.all (r.status == ·)⟩

end Lists

structure KeyedTable {ρ : Type} (row : ρ → ListRow) where
  rows : List ρ
  keyed : (rows.map fun r => (row r).id).Nodup

def ListQuery.CompleteWhenKept {ρ : Type} (q : ListQuery ρ) : Prop :=
  ∀ (table : KeyedTable q.row) (limit : PageSize),
    q.PagesCompletely limit.val table.rows ↔ q.PivotsKeepPlace limit.val table.rows

theorem ListQuery.completeWhenKept {ρ : Type} {q : ListQuery ρ} (dates : q.carried = dateOf) :
    q.CompleteWhenKept := by
  intro table limit
  refine pagesCompletely_iff (fun t => ?_) limit.property.1 table.keyed
  rw [dates]
  exact Nat.div_mul_le_self _ _

/-- Each list returns every matching row exactly once, if and only if the last row of each page
but the last is at a whole millisecond; for the executions, if and only if no later row of the list
is within its millisecond. -/
theorem admin_lists_complete_iff (tenantId : Id) :
    (listTeams tenantId).CompleteWhenKept ∧ (listLabels tenantId).CompleteWhenKept ∧
    (∀ teamId workflowTypeId severity,
      (listNotificationPolicies tenantId teamId workflowTypeId severity).CompleteWhenKept) ∧
    (∀ status includeDeleted, (listScheduleRules tenantId status includeDeleted).CompleteWhenKept) ∧
    (∀ teamId fromTime toTime,
      (listOnCallSchedules tenantId teamId fromTime toTime).CompleteWhenKept) ∧
    ∀ ruleId status, (listScheduleExecutions tenantId ruleId status).CompleteWhenKept :=
  ⟨ListQuery.completeWhenKept rfl, ListQuery.completeWhenKept rfl,
    fun _ _ _ => ListQuery.completeWhenKept rfl, fun _ _ => ListQuery.completeWhenKept rfl,
    fun _ _ _ => ListQuery.completeWhenKept rfl, fun _ _ => ListQuery.completeWhenKept rfl⟩

def twoTeams : List ListRow := [⟨1, 7, 1000500, none⟩, ⟨2, 7, 2000000, none⟩]

def twoExecutions : List ExecutionRow :=
  [⟨⟨1, 7, 1000500, none⟩, 3, .success⟩, ⟨⟨2, 7, 1000200, none⟩, 3, .success⟩]

/-- With pages of one row the first team is listed over and over, and the second execution never. -/
theorem admin_lists_incomplete :
    ¬ (listTeams 7).PagesCompletely 1 twoTeams ∧
      ¬ (listScheduleExecutions 7 3 none).PagesCompletely 1 twoExecutions := by
  constructor
  · rw [ListQuery.completeWhenKept rfl ⟨twoTeams, by decide⟩ ⟨1, by decide⟩]
    intro kept
    have whole : dateOf 1000500 = 1000500 := kept 0 ⟨1, 7, 1000500, none⟩ (by decide) (by decide)
    exact absurd whole (by decide)
  · rw [ListQuery.completeWhenKept rfl ⟨twoExecutions, by decide⟩ ⟨1, by decide⟩]
    intro kept
    have clear := kept 0 ⟨⟨1, 7, 1000500, none⟩, 3, .success⟩ (by decide) (by decide)
      ⟨⟨2, 7, 1000200, none⟩, 3, .success⟩ (by decide) (by decide)
    exact absurd clear (by decide)

end OpenWind
