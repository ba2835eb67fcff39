import Mathlib.Data.List.Sort

/-!
# Pages by key

Rows are listed in the order of a key, a page at a time: a page is the first rows whose key
is above the cursor, and its next cursor is the mark of its last row.  The mark of a row is
its key as the cursor carries it, which may be another.

* `walk` follows the cursors from the first page on.
-/

open List Option

namespace Keyset

variable {ρ K : Type} [LinearOrder K] (key mark : ρ → K) (limit : Nat)

/-- The row is above the cursor. -/
def above (cursor : Option K) (r : ρ) : Bool := cursor.all fun c => decide (c < key r)

def after (cursor : Option K) (rows : List ρ) : List ρ :=
  (rows.filter (above key cursor)).insertionSort fun a b => key a ≤ key b

def page (cursor : Option K) (rows : List ρ) : List ρ × Option K :=
  let found := (after key cursor rows).take (limit + 1)
  if limit < found.length then (found.take limit, (found.take limit).getLast?.map mark)
  else (found, none)

/-- Follow the cursors for at most the given number of pages. -/
def walk (rows : List ρ) : Nat → Option K → Option (List ρ)
  | 0, _ => none
  | pages + 1, cursor =>
    match page key mark limit cursor rows with
    | (data, none) => some data
    | (data, some next) => (walk rows pages (some next)).map (data ++ ·)

/-- Following the cursors ends, and lists every row exactly once. -/
def Complete (rows : List ρ) : Prop :=
  ∃ pages listed, walk key mark limit rows pages none = some listed ∧ listed.Perm rows

/-- The last row of each page that is not the last has the property. -/
def Pivots (rows : List ρ) (P : ρ → Prop) : Prop :=
  ∀ k r, (k + 1) * limit < rows.length → rows[(k + 1) * limit - 1]? = some r → P r

variable {key mark limit} {rows : List ρ}

variable {cursor : Option K} {r : ρ} {pages : Nat} {listed : List ρ}

theorem mem_after : r ∈ after key cursor rows ↔ r ∈ rows ∧ above key cursor r := by
  rw [after, mem_insertionSort, mem_filter]

theorem after_none_perm : (after key none rows).Perm rows := by
  have all : rows.filter (above key none) = rows := filter_eq_self.mpr fun _ _ => rfl
  rw [after, all]
  exact perm_insertionSort _ _

theorem after_sorted (distinct : (rows.map key).Nodup) (cursor : Option K) :
    (after key cursor rows).Pairwise fun a b => key a < key b := by
  have sorted : (after key cursor rows).Pairwise fun a b => key a ≤ key b := by
    have total : Std.Total fun a b : ρ => key a ≤ key b := ⟨fun a b => le_total _ _⟩
    have trans : IsTrans ρ fun a b => key a ≤ key b := ⟨fun _ _ _ => le_trans⟩
    exact pairwise_insertionSort _ _
  have kept : ((after key cursor rows).map key).Nodup := by
    have perm := (perm_insertionSort (fun a b => key a ≤ key b)
      (rows.filter (above key cursor))).map key
    exact perm.nodup_iff.mpr (distinct.sublist (filter_sublist.map key))
  have apart : (after key cursor rows).Pairwise fun a b => key a ≠ key b :=
    pairwise_map.mp kept
  exact (sorted.and apart).imp fun ⟨below, differ⟩ => lt_of_le_of_ne below differ

theorem after_eq (distinct : (rows.map key).Nodup) (cursor : Option K) :
    after key cursor rows = (after key none rows).filter (above key cursor) := by
  have perm : (after key cursor rows).Perm ((after key none rows).filter (above key cursor)) :=
    (perm_insertionSort _ _).trans (after_none_perm.filter _).symm
  refine perm.eq_of_pairwise ?_ (after_sorted distinct cursor)
    ((after_sorted distinct none).filter _)
  intro a b _ _ first second
  exact absurd second (lt_asymm first)

theorem filter_above {sorted : List ρ} (order : sorted.Pairwise fun a b => key a < key b)
    {position : Nat} (found : sorted[position]? = some r) :
    sorted.filter (above key (some (key r))) = sorted.drop (position + 1) := by
  obtain ⟨inside, rfl⟩ := List.getElem?_eq_some_iff.mp found
  have split : sorted = sorted.take (position + 1) ++ sorted.drop (position + 1) :=
    (take_append_drop _ _).symm
  have before : (sorted.take (position + 1)).filter (above key (some (key sorted[position]))) =
      [] := by
    refine filter_eq_nil_iff.mpr fun a member => ?_
    obtain ⟨i, bound, rfl⟩ := mem_iff_getElem.mp member
    rw [getElem_take]
    rw [length_take] at bound
    have notAbove : ¬key sorted[position] < key sorted[i] := by
      rcases Nat.lt_or_ge i position with earlier | same
      · exact lt_asymm (pairwise_iff_getElem.mp order i position (by omega) inside earlier)
      · have : i = position := by omega
        subst this
        exact lt_irrefl _
    simpa [above] using notAbove
  have later : (sorted.drop (position + 1)).filter (above key (some (key sorted[position]))) =
      sorted.drop (position + 1) := by
    refine filter_eq_self.mpr fun a member => ?_
    obtain ⟨i, bound, rfl⟩ := mem_iff_getElem.mp member
    rw [getElem_drop]
    rw [length_drop] at bound
    have less := pairwise_iff_getElem.mp order position (position + 1 + i) inside
      (by omega) (by omega)
    simpa [above] using less
  calc sorted.filter (above key (some (key sorted[position])))
      = (sorted.take (position + 1) ++ sorted.drop (position + 1)).filter
          (above key (some (key sorted[position]))) := by rw [← split]
    _ = sorted.drop (position + 1) := by rw [filter_append, before, later, nil_append]

/-! ## One page -/

theorem page_last (short : (after key cursor rows).length ≤ limit) :
    page key mark limit cursor rows = (after key cursor rows, none) := by
  have whole : (after key cursor rows).take (limit + 1) = after key cursor rows :=
    take_of_length_le (by omega)
  simp only [page, whole]
  rw [if_neg (by omega)]

/-- Of one row more than a page holds, the page's own. -/
theorem take_more {found : List ρ} (long : limit < found.length) (positive : 0 < limit) :
    ∃ pivot, found[limit - 1]? = some pivot ∧ (found.take limit).getLast? = some pivot ∧
      limit < (found.take (limit + 1)).length ∧
      (found.take (limit + 1)).take limit = found.take limit := by
  have inside : limit - 1 < found.length := by omega
  refine ⟨found[limit - 1], getElem?_eq_getElem inside, ?_, ?_, ?_⟩
  · rw [getLast?_eq_getElem?, length_take, Nat.min_eq_left (by omega),
      getElem?_take_of_lt (by omega), getElem?_eq_getElem inside]
  · rw [length_take]
    omega
  · rw [take_take, Nat.min_eq_left (by omega)]

variable (mark) in
theorem page_more (long : limit < (after key cursor rows).length) (positive : 0 < limit) :
    ∃ pivot, (after key cursor rows)[limit - 1]? = some pivot ∧
      page key mark limit cursor rows =
        ((after key cursor rows).take limit, some (mark pivot)) := by
  obtain ⟨pivot, found, last, longer, taken⟩ := take_more long positive
  refine ⟨pivot, found, ?_⟩
  simp only [page]
  rw [if_pos longer, taken, last]
  rfl

theorem page_rows (cursor : Option K) :
    (page key mark limit cursor rows).1 = (after key cursor rows).take limit := by
  have whole : ((after key cursor rows).take (limit + 1)).take limit =
      (after key cursor rows).take limit := by
    rw [take_take, Nat.min_eq_left (Nat.le_succ limit)]
  by_cases long : limit < ((after key cursor rows).take (limit + 1)).length
  · simp only [page, if_pos long, whole]
  · simp only [page, if_neg long]
    rw [← whole, take_of_length_le (Nat.le_of_not_lt long)]

theorem mem_of_page (listed : r ∈ (page key mark limit cursor rows).1) : r ∈ rows := by
  rw [page_rows] at listed
  exact (mem_after.mp (mem_of_mem_take listed)).1

theorem exists_page (positive : 0 < limit) (distinct : (rows.map key).Nodup) (mem : r ∈ rows) :
    ∃ cursor, r ∈ (page key mark limit cursor rows).1 := by
  obtain ⟨position, found⟩ := getElem?_of_mem (mem_after.mpr ⟨mem, rfl⟩ :
    r ∈ after key none rows)
  cases position with
  | zero =>
    refine ⟨none, ?_⟩
    rw [page_rows]
    refine mem_of_getElem? (i := 0) ?_
    rw [getElem?_take_of_lt positive, found]
  | succ position =>
    obtain ⟨inside, -⟩ := List.getElem?_eq_some_iff.mp found
    have before : (after key none rows)[position]? = some (after key none rows)[position] :=
      getElem?_eq_getElem (Nat.lt_of_succ_lt inside)
    refine ⟨some (key (after key none rows)[position]), ?_⟩
    rw [page_rows, after_eq distinct, filter_above (after_sorted distinct none) before]
    refine mem_of_getElem? (i := 0) ?_
    rw [getElem?_take_of_lt positive, getElem?_drop, Nat.add_zero, found]

theorem above_pivot (distinct : (rows.map key).Nodup) {pivot r : ρ}
    (last : (after key cursor rows)[limit - 1]? = some pivot) (positive : 0 < limit)
    (member : r ∈ after key cursor rows) (beyond : r ∉ (after key cursor rows).take limit) :
    key pivot < key r := by
  obtain ⟨inside, rfl⟩ := List.getElem?_eq_some_iff.mp last
  obtain ⟨i, bound, rfl⟩ := mem_iff_getElem.mp member
  have far : limit ≤ i := by
    by_contra near
    exact beyond (mem_take_iff_getElem.mpr ⟨i, by omega, rfl⟩)
  exact pairwise_iff_getElem.mp (after_sorted distinct cursor) _ i inside bound (by omega)

theorem below_pivot (distinct : (rows.map key).Nodup) {pivot r : ρ}
    (last : (after key cursor rows)[limit - 1]? = some pivot)
    (among : r ∈ (after key cursor rows).take limit) : key r ≤ key pivot := by
  obtain ⟨inside, rfl⟩ := List.getElem?_eq_some_iff.mp last
  obtain ⟨i, bound, rfl⟩ := mem_take_iff_getElem.mp among
  rcases Nat.lt_or_ge i (limit - 1) with earlier | same
  · exact (pairwise_iff_getElem.mp (after_sorted distinct cursor) i _ _ inside earlier).le
  · have : i = limit - 1 := by omega
    subst this
    exact le_refl _

/-! ## The walk -/

theorem walk_covers (positive : 0 < limit) (below : ∀ r, mark r ≤ key r)
    (distinct : (rows.map key).Nodup) (ended : walk key mark limit rows pages cursor = some listed)
    (member : r ∈ rows) (beyond : above key cursor r) : r ∈ listed := by
  induction pages generalizing cursor listed with
  | zero => cases ended
  | succ pages ih =>
    have among : r ∈ after key cursor rows := mem_after.mpr ⟨member, beyond⟩
    rw [walk] at ended
    rcases Nat.lt_or_ge limit (after key cursor rows).length with long | short
    · obtain ⟨pivot, last, shape⟩ := page_more mark long positive
      rw [shape] at ended
      obtain ⟨rest, walked, rfl⟩ := map_eq_some_iff.mp ended
      by_cases here : r ∈ (after key cursor rows).take limit
      · exact mem_append_left _ here
      · have later : key pivot < key r := above_pivot distinct last positive among here
        have kept : above key (some (mark pivot)) r := by
          simpa [above] using (below pivot).trans_lt later
        exact mem_append_right _ (ih walked kept)
    · rw [page_last short] at ended
      obtain rfl := Option.some.inj ended
      exact among

theorem mem_of_walk (ended : walk key mark limit rows pages cursor = some listed)
    (member : r ∈ listed) : r ∈ rows := by
  induction pages generalizing cursor listed with
  | zero => cases ended
  | succ pages ih =>
    rw [walk] at ended
    have among : ∀ r ∈ (page key mark limit cursor rows).1, r ∈ rows := by
      intro r found
      simp only [page] at found
      split at found
      · exact (mem_after.mp (mem_of_mem_take (mem_of_mem_take found))).1
      · exact (mem_after.mp (mem_of_mem_take found)).1
    generalize page key mark limit cursor rows = shown at ended among
    obtain ⟨data, next⟩ := shown
    cases next with
    | none =>
      obtain rfl := Option.some.inj ended
      exact among r member
    | some next =>
      obtain ⟨rest, walked, rfl⟩ := map_eq_some_iff.mp ended
      rcases mem_append.mp member with here | later
      · exact among r here
      · exact ih walked later

theorem walk_above (past : ∀ r, key r ≤ mark r)
    (ended : walk key mark limit rows pages cursor = some listed) (member : r ∈ listed) :
    above key cursor r := by
  induction pages generalizing cursor listed with
  | zero => cases ended
  | succ pages ih =>
    rw [walk] at ended
    have among : ∀ x ∈ (page key mark limit cursor rows).1, above key cursor x := by
      intro x found
      rw [page_rows] at found
      exact (mem_after.mp (mem_of_mem_take found)).2
    have marked : ∀ c, (page key mark limit cursor rows).2 = some c →
        ∃ x ∈ (page key mark limit cursor rows).1, mark x = c := by
      intro c is
      simp only [page] at is ⊢
      split at is
      · obtain ⟨x, last, same⟩ := map_eq_some_iff.mp is
        exact ⟨x, by rw [if_pos ‹_›]; exact mem_of_getLast? last, same⟩
      · cases is
    generalize page key mark limit cursor rows = shown at ended among marked
    obtain ⟨data, next⟩ := shown
    cases next with
    | none =>
      obtain rfl := Option.some.inj ended
      exact among r member
    | some next =>
      obtain ⟨rest, walked, rfl⟩ := map_eq_some_iff.mp ended
      rcases mem_append.mp member with here | later
      · exact among r here
      · obtain ⟨x, inside, rfl⟩ := marked next rfl
        have beyond : mark x < key r := by simpa [above] using ih walked later
        have reached := among x inside
        cases cursor with
        | none => rfl
        | some c =>
          have before : c < key x := by simpa [above] using reached
          simpa [above] using before.trans ((past x).trans_lt beyond)

def Keeps (key mark : ρ → K) (rows : List ρ) (r : ρ) : Prop :=
  ∀ x ∈ rows, mark r < key x ↔ key r < key x

theorem Keeps.after_eq (keeps : Keeps key mark rows r) :
    after key (some (mark r)) rows = after key (some (key r)) rows := by
  refine congrArg (insertionSort _) (List.filter_congr fun x member => ?_)
  exact decide_eq_decide.mpr (keeps x member)

theorem Keeps.next (keeps : Keeps key mark rows r) (distinct : (rows.map key).Nodup) {position : Nat}
    (spot : (after key none rows)[position]? = some r) :
    after key (some (mark r)) rows = (after key none rows).drop (position + 1) := by
  rw [keeps.after_eq, Keyset.after_eq distinct, filter_above (after_sorted distinct none) spot]

theorem walk_rest (positive : 0 < limit) (distinct : (rows.map key).Nodup)
    (exact' : Pivots limit (after key none rows) (Keeps key mark rows)) {k : Nat}
    {cursor : Option K} (here : after key cursor rows = (after key none rows).drop (k * limit)) :
    ∃ pages, walk key mark limit rows pages cursor =
      some ((after key none rows).drop (k * limit)) := by
  rcases Nat.lt_or_ge limit (after key cursor rows).length with long | short
  · obtain ⟨pivot, last, shape⟩ := page_more mark long positive
    have step : (k + 1) * limit = k * limit + limit := Nat.succ_mul k limit
    have bound : k * limit + limit < (after key none rows).length := by
      rw [here, length_drop] at long
      omega
    have spot : (after key none rows)[(k + 1) * limit - 1]? = some pivot := by
      rw [here, getElem?_drop] at last
      rw [← last]
      congr 1
      omega
    have next : after key (some (mark pivot)) rows =
        (after key none rows).drop ((k + 1) * limit) := by
      rw [(exact' k pivot (by omega) spot).next distinct spot]
      congr 1
      omega
    obtain ⟨pages, walked⟩ := walk_rest positive distinct exact' next
    refine ⟨pages + 1, ?_⟩
    rw [walk, shape]
    simp only [walked, map_some, here, step]
    rw [← drop_drop, take_append_drop]
  · refine ⟨1, ?_⟩
    rw [walk, page_last short, here]
termination_by (after key none rows).length - k * limit
decreasing_by
  rw [step]
  omega

section

variable (positive : 0 < limit) (oneWay : (∀ r, mark r ≤ key r) ∨ ∀ r, key r ≤ mark r)
  (distinct : (rows.map key).Nodup)

include positive oneWay distinct

theorem pivots_of_walk
    {pages k : Nat} (here : after key cursor rows = (after key none rows).drop (k * limit))
    (ended : walk key mark limit rows pages cursor = some listed)
    (once : listed.Perm (after key cursor rows)) :
    ∀ j r, k ≤ j → (j + 1) * limit < (after key none rows).length →
      (after key none rows)[(j + 1) * limit - 1]? = some r → Keeps key mark rows r := by
  induction pages generalizing cursor listed k with
  | zero => cases ended
  | succ pages ih =>
    intro j r later bound found
    have step : (k + 1) * limit = k * limit + limit := Nat.succ_mul k limit
    have reach : (k + 1) * limit ≤ (j + 1) * limit := Nat.mul_le_mul_right _ (by omega)
    have long : limit < (after key cursor rows).length := by
      rw [here, length_drop]
      omega
    rw [walk] at ended
    obtain ⟨pivot, last, shape⟩ := page_more mark long positive
    rw [shape] at ended
    obtain ⟨rest, walked, rfl⟩ := map_eq_some_iff.mp ended
    have spot : (after key none rows)[(k + 1) * limit - 1]? = some pivot := by
      rw [here, getElem?_drop] at last
      rw [← last]
      congr 1
      omega
    have remains : after key (some (key pivot)) rows = (after key cursor rows).drop limit := by
      rw [after_eq distinct, filter_above (after_sorted distinct none) spot, here, drop_drop]
      congr 1
      omega
    have same : rest.Perm (after key (some (key pivot)) rows) := by
      rw [remains]
      refine (perm_append_left_iff ((after key cursor rows).take limit)).mp ?_
      rwa [take_append_drop]
    have keeps : Keeps key mark rows pivot := by
      intro x member
      have inRest : x ∈ rest ↔ key pivot < key x := by
        rw [same.mem_iff, mem_after, and_iff_right member]
        exact decide_eq_true_iff
      rcases oneWay with below | past
      · refine ⟨fun marked => inRest.mp ?_, (below pivot).trans_lt⟩
        exact walk_covers positive below distinct walked member (by simpa [above] using marked)
      · refine ⟨(past pivot).trans_lt, fun beyond => ?_⟩
        simpa [above] using walk_above past walked (inRest.mpr beyond)
    have next : after key (some (mark pivot)) rows =
        (after key none rows).drop ((k + 1) * limit) := by
      rw [keeps.next distinct spot]
      congr 1
      omega
    rcases Nat.lt_or_ge k j with further | same'
    · exact ih next walked (keeps.after_eq ▸ same) j r further bound found
    · have : j = k := by omega
      subst this
      rw [spot] at found
      obtain rfl := Option.some.inj found
      exact keeps

theorem complete_iff_keeps :
    Complete key mark limit rows ↔ Pivots limit (after key none rows) (Keeps key mark rows) := by
  have start : after key none rows = (after key none rows).drop (0 * limit) := by
    rw [Nat.zero_mul, drop_zero]
  constructor
  · rintro ⟨pages, listed, ended, same⟩
    intro k r
    exact pivots_of_walk positive oneWay distinct start ended (same.trans after_none_perm.symm) k r
      (Nat.zero_le k)
  · intro marked
    obtain ⟨pages, walked⟩ := walk_rest positive distinct marked start
    exact ⟨pages, _, walked, by rw [← start]; exact after_none_perm⟩

end

theorem complete_iff (positive : 0 < limit) (below : ∀ r, mark r ≤ key r)
    (distinct : (rows.map key).Nodup) :
    Complete key mark limit rows ↔ Pivots limit (after key none rows) fun r => mark r = key r := by
  rw [complete_iff_keeps positive (Or.inl below) distinct]
  refine forall₂_congr fun k r => imp_congr_right fun _ => imp_congr_right fun found => ?_
  have member : r ∈ rows := (mem_after.mp (mem_of_getElem? found)).1
  refine ⟨fun keeps => le_antisymm (below r) (not_lt.mp fun less => ?_), fun same x _ => by rw [same]⟩
  exact lt_irrefl _ ((keeps r member).mp less)

end Keyset
