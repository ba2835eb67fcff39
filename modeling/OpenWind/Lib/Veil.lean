import OpenWind.Lib.Shape
import Mathlib.Data.List.Forall2

/-!
# Objects that differ under hidden keys

Two objects, as lists of keys with values, that have the same keys in the same places.  Under a
key that is not hidden they have the same value too.

* `Alike`: the relation of the two.
-/

open List

namespace Veil

variable {K V W : Type} {hidden : K → Prop} {l l' : List (K × V)}

/-- The entries have one key and, unless it is hidden, one value. -/
def Same (hidden : K → Prop) (e e' : K × V) : Prop :=
  e.1 = e'.1 ∧ (¬ hidden e.1 → e.2 = e'.2)

def Alike (hidden : K → Prop) (l l' : List (K × V)) : Prop :=
  Forall₂ (Same hidden) l l'

namespace Alike

theorem refl (hidden : K → Prop) (l : List (K × V)) : Alike hidden l l :=
  forall₂_same.mpr fun _ _ => ⟨rfl, fun _ => rfl⟩

/-- Only the hidden keys that occur count. -/
theorem of_mem {hidden' : K → Prop} (alike : Alike hidden l l')
    (wider : ∀ e ∈ l, hidden e.1 → hidden' e.1) : Alike hidden' l l' := by
  induction alike with
  | nil => exact .nil
  | cons same _ ih =>
    rw [forall_mem_cons] at wider
    exact .cons ⟨same.1, fun shown => same.2 fun veiled => shown (wider.1 veiled)⟩ (ih wider.2)

theorem mono {hidden' : K → Prop} (alike : Alike hidden l l')
    (wider : ∀ k, hidden k → hidden' k) : Alike hidden' l l' :=
  alike.of_mem fun e _ => wider e.1

theorem append {m m' : List (K × V)} (first : Alike hidden l l') (second : Alike hidden m m') :
    Alike hidden (l ++ m) (l' ++ m') :=
  rel_append first second

theorem map {f : K × V → W} (alike : Alike hidden l l')
    (masks : ∀ k v v', hidden k → f (k, v) = f (k, v')) : l.map f = l'.map f := by
  induction alike with
  | nil => rfl
  | @cons e e' _ _ same _ ih =>
    obtain ⟨key, value⟩ := e
    obtain ⟨key', value'⟩ := e'
    obtain ⟨rfl, shown⟩ := same
    rw [map_cons, map_cons, ih]
    by_cases veiled : hidden key
    · rw [masks key value value' veiled]
    · have value_eq : value = value' := shown veiled
      rw [value_eq]

theorem of_map {f : K × V → K × V} (keys : ∀ e, (f e).1 = e.1)
    (shows : ∀ e, ¬ hidden e.1 → f e = e) (same : l.map f = l'.map f) : Alike hidden l l' := by
  induction l generalizing l' with
  | nil => rw [map_eq_nil_iff.mp same.symm]; exact .nil
  | cons e l ih =>
    cases l' with
    | nil => cases same
    | cons e' l' =>
      rw [map_cons, map_cons] at same
      obtain ⟨first, rest⟩ := cons.inj same
      have key : e.1 = e'.1 := by rw [← keys e, first, keys e']
      refine .cons ⟨key, fun shown => ?_⟩ (ih rest)
      have value : e = e' := by rw [← shows e shown, first, shows e' (key ▸ shown)]
      rw [value]

theorem mapValues {g h : K → V → V} (alike : Alike hidden l l')
    (agree : ∀ k v, ¬ hidden k → g k v = h k v) :
    Alike hidden (l.map fun e => (e.1, g e.1 e.2)) (l'.map fun e => (e.1, h e.1 e.2)) := by
  induction alike with
  | nil => exact .nil
  | @cons e e' _ _ same _ ih =>
    refine .cons ⟨same.1, fun shown => ?_⟩ ih
    dsimp only at shown ⊢
    rw [← same.1, ← same.2 shown]
    exact agree _ _ shown

/-- Entries are dropped by their keys. -/
theorem filter {p q : K → Bool} (alike : Alike hidden l l') (agree : ∀ e ∈ l, p e.1 = q e.1) :
    Alike hidden (l.filter fun e => p e.1) (l'.filter fun e => q e.1) := by
  induction alike with
  | nil => exact .nil
  | cons same _ ih =>
    rw [forall_mem_cons] at agree
    rw [filter_cons, filter_cons, ← same.1, ← agree.1]
    split
    · exact .cons same (ih agree.2)
    · exact ih agree.2

section Lookup

variable [BEq K] [LawfulBEq K]

theorem lookup (alike : Alike hidden l l') {k : K} (shown : ¬ hidden k) :
    l.lookup k = l'.lookup k := by
  induction alike with
  | nil => rfl
  | @cons e e' _ _ same _ ih =>
    rw [lookup_cons, lookup_cons, ← same.1, ih]
    by_cases here : k = e.1
    · rw [same.2 (here ▸ shown)]
    · rw [beq_false_of_ne here]

omit [LawfulBEq K] in
theorem isSome (alike : Alike hidden l l') (k : K) :
    (l.lookup k).isSome = (l'.lookup k).isSome := by
  induction alike with
  | nil => rfl
  | cons same _ ih =>
    rw [lookup_cons, lookup_cons, ← same.1]
    split
    · rfl
    · exact ih

/-- The values of a key, where the object has it. -/
theorem cases (alike : Alike hidden l l') (k : K) :
    (l.lookup k = none ∧ l'.lookup k = none) ∨
      ∃ v v', l.lookup k = some v ∧ l'.lookup k = some v' ∧ (¬ hidden k → v = v') := by
  have both := alike.isSome k
  rcases found : l.lookup k with _ | v
  · rw [found] at both
    exact .inl ⟨rfl, Option.not_isSome_iff_eq_none.mp fun some => by rw [some] at both; cases both⟩
  · rw [found] at both
    obtain ⟨v', found'⟩ := Option.isSome_iff_exists.mp both.symm
    refine .inr ⟨v, v', rfl, found', fun shown => ?_⟩
    have same := alike.lookup shown
    rw [found, found'] at same
    exact Option.some.inj same

variable {E : Type} {under : K → E → E} {shape : List (K × Shape.Entry V E)}
  {out out' : List (K × V)}

theorem parseKey {key : K} {entry : Shape.Entry V E} (alike : Alike hidden l l')
    (parsed : Shape.parseKey under l key entry = .ok out)
    (parsed' : Shape.parseKey under l' key entry = .ok out') : Alike hidden out out' := by
  unfold Shape.parseKey at parsed parsed'
  rcases alike.cases key with ⟨none, none'⟩ | ⟨v, v', found, found', shown⟩
  · rw [none] at parsed
    rw [none'] at parsed'
    dsimp only at parsed parsed'
    split at parsed
    next optional =>
      rw [if_pos optional] at parsed'
      cases parsed
      cases parsed'
      exact .nil
    next => cases parsed
  · rw [found] at parsed
    rw [found'] at parsed'
    dsimp only at parsed parsed'
    split at parsed
    next w value =>
      split at parsed'
      next w' value' =>
        cases parsed
        cases parsed'
        refine .cons ⟨rfl, fun veiled => ?_⟩ .nil
        rw [shown veiled, value'] at value
        exact (Except.ok.inj value).symm
      next => cases parsed'
    next => cases parsed

/-- A schema that accepts both makes objects of them that are alike. -/
theorem parse (alike : Alike hidden l l') (parsed : Shape.parse under l shape = .ok out)
    (parsed' : Shape.parse under l' shape = .ok out') : Alike hidden out out' := by
  induction shape generalizing out out' with
  | nil =>
    cases parsed
    cases parsed'
    exact .nil
  | cons head rest ih =>
    obtain ⟨first, others, here, later, rfl⟩ := Shape.parse_cons_ok.mp parsed
    obtain ⟨first', others', here', later', rfl⟩ := Shape.parse_cons_ok.mp parsed'
    exact (alike.parseKey here here').append (ih later later')

end Lookup

end Alike

end Veil
