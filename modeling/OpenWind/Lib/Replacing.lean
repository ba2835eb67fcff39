import Mathlib.Data.List.Basic
import Mathlib.Data.List.TakeWhile

/-!
# Replacing a literal in a text

A `Pattern` is a literal with a condition on the letter before it and on the text after it.
`Pattern.replace` puts the replacement in the place of each match, from the left, as a
regular expression does with a lookbehind and a lookahead: the letter before a match is the
text's own, also where that letter was part of the match before it.

* `Sealed.replace_clear`: when the literal begins and ends with letters of words, and the
  replacement is a word between two letters that the literal does not have, no match is left.
-/

open List Option Bool

namespace Replacing

variable {α : Type}

structure Pattern (α : Type) where
  literal : List α
  same : α → α → Bool
  before : α → Bool
  after : List α → Bool
  replacement : List α

def rest (same : α → α → Bool) : List α → List α → Option (List α)
  | [], text => some text
  | _ :: _, [] => none
  | a :: literal, c :: text => if same c a then rest same literal text else none

namespace Pattern

variable (p : Pattern α)

def startsAt (text : List α) : Bool := (rest p.same p.literal text).any p.after

/-- A match somewhere in the text, whose letter before it is given. -/
def occursFrom (prev : Option α) : List α → Bool
  | [] => false
  | c :: text => prev.all p.before && p.startsAt (c :: text) || occursFrom (some c) text

def occurs (text : List α) : Bool := p.occursFrom none text

/-- The first letters, as many as the number says, belong to a match and are left out. -/
def replaceFrom : Nat → Option α → List α → List α
  | _, _, [] => []
  | skip + 1, _, c :: text => replaceFrom skip (some c) text
  | 0, prev, c :: text =>
    if prev.all p.before && p.startsAt (c :: text) then
      p.replacement ++ replaceFrom (p.literal.length - 1) (some c) text
    else c :: replaceFrom 0 (some c) text

def replace (text : List α) : List α := p.replaceFrom 0 none text

end Pattern

/-! ## Words -/

section Words

variable [DecidableEq α] (word : α → Bool)

def whole (literal replacement : List α) : Pattern α where
  literal := literal
  same c a := c == a
  before c := !word c
  after text := text.head?.all fun c => !word c
  replacement := replacement

theorem rest_eq_some {literal text tail : List α} :
    rest (fun c a => c == a) literal text = some tail ↔ text = literal ++ tail := by
  induction literal generalizing text with
  | nil => rw [rest, Option.some.injEq, nil_append]
  | cons a literal ih =>
    cases text with
    | nil => exact ⟨nofun, nofun⟩
    | cons c text =>
      rw [rest, cons_append, List.cons.injEq]
      by_cases same : c = a
      · rw [if_pos (beq_iff_eq.mpr same), ih]
        exact ⟨fun eq => ⟨same, eq⟩, And.right⟩
      · rw [if_neg (mt beq_iff_eq.mp same)]
        exact ⟨nofun, fun eq => absurd eq.1 same⟩

variable {word} {literal replacement : List α}

variable {text : List α} {c : α}

theorem startsAt_iff : (whole word literal replacement).startsAt text ↔
    ∃ tail, text = literal ++ tail ∧ tail.head?.all (fun c => !word c) := by
  unfold Pattern.startsAt whole
  rw [Option.any_eq_true]
  exact exists_congr fun tail => and_congr_left' rest_eq_some

structure Sealed (word : α → Bool) (literal replacement : List α) : Prop where
  begins : ∃ a front, literal = a :: front ∧ word a = true
  ends : ∃ front a, literal = front ++ [a] ∧ word a = true
  fenced : ∃ left tag right, replacement = left :: (tag ++ [right]) ∧ left ∉ literal ∧
    right ∉ literal ∧ (∀ a ∈ tag, word a = true) ∧ literal ≠ tag

namespace Sealed

variable (s : Sealed word literal replacement)

include s

/-- Behind a match nothing matches at once. -/
theorem not_startsAt (outside : word c = false) :
    (whole word literal replacement).startsAt (c :: text) = false := by
  obtain ⟨a, front, rfl, inside⟩ := s.begins
  refine eq_false_iff.mpr fun starts => ?_
  obtain ⟨tail, same, -⟩ := startsAt_iff.mp starts
  rw [(cons.inj same).1, inside] at outside
  cases outside

theorem replaceFrom_eq_append {front tail : List α} {prev : Option α} (within : front ⊆ literal)
    (same : (whole word literal replacement).replaceFrom 0 prev text = front ++ tail) :
    ∃ text', text = front ++ text' ∧
      tail = (whole word literal replacement).replaceFrom 0 (front.getLast?.or prev) text' := by
  induction front generalizing text prev with
  | nil => exact ⟨text, rfl, same.symm⟩
  | cons d front ih =>
    cases text with
    | nil => cases same
    | cons c text =>
      rw [Pattern.replaceFrom] at same
      split at same
      · obtain ⟨left, tag, right, marker, fence, -⟩ := s.fenced
        rw [show (whole word literal replacement).replacement = left :: (tag ++ [right]) from
          marker] at same
        exact absurd ((cons.inj same).1 ▸ within mem_cons_self) fence
      · obtain ⟨rfl, later⟩ := cons.inj same
        obtain ⟨text', rfl, rfl⟩ := ih (fun _ mem => within (mem_cons_of_mem _ mem)) later
        refine ⟨text', rfl, ?_⟩
        congr 1
        cases front <;> simp [getLast?_cons]

theorem startsAt_of_replaceFrom (prev : Option α) (starts : (whole word literal replacement).startsAt
      ((whole word literal replacement).replaceFrom 0 prev text)) :
    (whole word literal replacement).startsAt text := by
  obtain ⟨tail, same, after⟩ := startsAt_iff.mp starts
  obtain ⟨text', rfl, rfl⟩ := s.replaceFrom_eq_append (Subset.refl _) same
  refine startsAt_iff.mpr ⟨text', rfl, ?_⟩
  cases text' with
  | nil => rfl
  | cons d text' =>
    obtain ⟨front, last, ending, inside⟩ := s.ends
    have within : (literal.getLast?.or prev).all (whole word literal replacement).before = false := by
      rw [ending, getLast?_concat, Option.some_or, all_some]
      change (!word last) = false
      rw [inside]
      rfl
    rw [Pattern.replaceFrom, within, Bool.false_and, if_neg Bool.false_ne_true] at after
    exact after

theorem occursFrom_word {tag later : List α} {right : α} (prev : Option α) (fence : right ∉ literal)
    (inside : ∀ a ∈ tag, word a = true)
    (other : literal = tag → prev.all (fun c => !word c) = false)
    (clear : (whole word literal replacement).occursFrom (some right) later = false) :
    (whole word literal replacement).occursFrom prev (tag ++ right :: later) = false := by
  induction tag generalizing prev with
  | nil =>
    have absent : (whole word literal replacement).startsAt (right :: later) = false := by
      refine eq_false_iff.mpr fun starts => ?_
      obtain ⟨tail, same, -⟩ := startsAt_iff.mp starts
      obtain ⟨a, front, rfl, -⟩ := s.begins
      exact fence ((cons.inj same).1 ▸ mem_cons_self)
    rw [nil_append, Pattern.occursFrom, absent, Bool.and_false, clear]
    rfl
  | cons d tag ih =>
    have later' := @ih (some d) (fun a mem => inside a (mem_cons_of_mem d mem)) fun _ => by
      rw [all_some, inside d mem_cons_self]
      rfl
    rw [cons_append, Pattern.occursFrom, later', Bool.or_false]
    refine eq_false_iff.mpr fun hit => ?_
    obtain ⟨free, starts⟩ := and_eq_true_iff.mp hit
    obtain ⟨tail, same, after⟩ := startsAt_iff.mp starts
    have whole_tag : literal = d :: tag := by
      rcases append_eq_append_iff.mp (show (d :: tag) ++ right :: later = literal ++ tail from same)
        with ⟨more, rfl, rest⟩ | ⟨more, split, rfl⟩
      · cases more with
        | nil => exact append_nil _
        | cons b more =>
          refine absurd (mem_append_right _ ?_) fence
          rw [(cons.inj rest).1]
          exact mem_cons_self
      · cases more with
        | nil => exact (append_nil _).symm.trans split.symm
        | cons b more =>
          have letter := inside b (by rw [split]; exact mem_append_right _ mem_cons_self)
          rw [cons_append, head?_cons, all_some, letter] at after
          cases after
    rw [show prev.all (whole word literal replacement).before = false from other whole_tag] at free
    cases free

theorem occursFrom_replacement {later : List α} (prev : Option α)
    (clear : ∀ right, (whole word literal replacement).occursFrom (some right) later = false) :
    (whole word literal replacement).occursFrom prev (replacement ++ later) = false := by
  obtain ⟨left, tag, right, marker, leftFence, rightFence, inside, other⟩ := s.fenced
  have absent : (whole word literal replacement).startsAt (left :: (tag ++ right :: later)) = false := by
    refine eq_false_iff.mpr fun starts => ?_
    obtain ⟨tail, same, -⟩ := startsAt_iff.mp starts
    obtain ⟨a, front, rfl, -⟩ := s.begins
    exact leftFence ((cons.inj same).1 ▸ mem_cons_self)
  have word_clear := s.occursFrom_word (some left) rightFence inside
    (fun same => absurd same other) (clear right)
  have text : replacement ++ later = left :: (tag ++ right :: later) := by
    rw [marker, cons_append, append_assoc, singleton_append]
  rw [text, Pattern.occursFrom, absent, Bool.and_false, word_clear]
  rfl

theorem occursFrom_replaceFrom {text : List α} {skip : Nat} {prev prev' : Option α}
    (coupled : (text.drop skip).head?.all (fun c => !word c) ∨
      skip = 0 ∧ (prev'.all (fun c => !word c) → prev.all (fun c => !word c))) :
    (whole word literal replacement).occursFrom prev'
      ((whole word literal replacement).replaceFrom skip prev text) = false := by
  induction text generalizing skip prev prev' with
  | nil => cases skip <;> rfl
  | cons c text ih =>
    cases skip with
    | succ skip =>
      rw [Pattern.replaceFrom]
      rcases coupled with outside | ⟨zero, -⟩
      · exact ih (.inl outside)
      · cases zero
    | zero =>
      by_cases hit : (prev.all (whole word literal replacement).before &&
          (whole word literal replacement).startsAt (c :: text)) = true
      · rw [Pattern.replaceFrom, if_pos hit]
        obtain ⟨tail, same, outside⟩ := startsAt_iff.mp (and_eq_true_iff.mp hit).2
        have behind : (text.drop (literal.length - 1)).head?.all (fun c => !word c) = true := by
          obtain ⟨a, front, rfl, -⟩ := s.begins
          have rest : text = front ++ tail := (cons.inj same).2
          rw [rest, length_cons, Nat.add_sub_cancel, drop_left]
          exact outside
        exact s.occursFrom_replacement prev' fun right => ih (.inl behind)
      · have kept : (whole word literal replacement).replaceFrom 0 prev (c :: text) =
            c :: (whole word literal replacement).replaceFrom 0 (some c) text := by
          rw [Pattern.replaceFrom, if_neg hit]
        have later := @ih 0 (some c) (some c) (.inr ⟨rfl, id⟩)
        rw [kept, Pattern.occursFrom, later, Bool.or_false]
        refine eq_false_iff.mpr fun begins => ?_
        obtain ⟨free, starts⟩ := and_eq_true_iff.mp begins
        have found := s.startsAt_of_replaceFrom prev (kept ▸ starts)
        rcases coupled with outside | ⟨-, same⟩
        · rw [s.not_startsAt (by simpa using outside)] at found
          cases found
        · exact hit (and_eq_true_iff.mpr ⟨same free, found⟩)

/-- No match is left. -/
theorem replace_clear (text : List α) : (whole word literal replacement).occurs
    ((whole word literal replacement).replace text) = false :=
  s.occursFrom_replaceFrom (.inr ⟨rfl, id⟩)

end Sealed

/-- A text that is the literal matches. -/
theorem occurs_self (replacement : List α) (nonempty : literal ≠ []) :
    (whole word literal replacement).occurs literal := by
  have starts : (whole word literal replacement).startsAt literal :=
    startsAt_iff.mpr ⟨[], (append_nil _).symm, rfl⟩
  cases literal with
  | nil => exact absurd rfl nonempty
  | cons c rest =>
    unfold Pattern.occurs
    rw [Pattern.occursFrom, starts]
    rfl

end Words

end Replacing
