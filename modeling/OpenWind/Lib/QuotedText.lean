import Mathlib.Data.List.Infix

/-!
# Searching quoted text

A document is written as text with its strings in quotes, and the text is searched for a quote
followed by a word.  The search finds the strings that begin with the word, and those in which
the word stands after a quote of their own.

* `likeMatches`: the patterns of `LIKE`, with an escape character.
-/

open List

namespace QuotedText

variable {α : Type}

/-! ## Patterns -/

inductive LikeToken (α : Type)
  | any
  | one
  | char (c : α)
  deriving DecidableEq

/-- The pattern of a text, with its escape character. -/
def likeTokens (escape : Char) : List Char → List (LikeToken Char)
  | [] => []
  | [c] => [if c = '%' then .any else if c = '_' then .one else .char c]
  | c :: d :: rest =>
    if c = escape then .char d :: likeTokens escape rest
    else (if c = '%' then .any else if c = '_' then .one else .char c) ::
      likeTokens escape (d :: rest)

def likeMatches [DecidableEq α] : List (LikeToken α) → List α → Bool
  | [], text => text.isEmpty
  | .any :: tokens, text => text.tails.any (likeMatches tokens)
  | .one :: _, [] => false
  | .one :: tokens, _ :: text => likeMatches tokens text
  | .char _ :: _, [] => false
  | .char c :: tokens, d :: text => decide (c = d) && likeMatches tokens text

theorem likeMatches_lead [DecidableEq α] {word text : List α} :
    likeMatches (word.map .char ++ [.any]) text ↔ word <+: text := by
  induction word generalizing text with
  | nil =>
    refine iff_of_true ?_ nil_prefix
    have ends : ([] : List α) ∈ text.tails := (mem_tails _ _).mpr nil_suffix
    exact any_eq_true.mpr ⟨[], ends, rfl⟩
  | cons c word ih =>
    cases text with
    | nil => exact iff_of_false Bool.false_ne_true (by simp)
    | cons d text =>
      rw [map_cons, cons_append, likeMatches, Bool.and_eq_true, decide_eq_true_iff, ih,
        cons_prefix_cons]

theorem likeMatches_contains [DecidableEq α] {word text : List α} :
    likeMatches (.any :: word.map .char ++ [.any]) text ↔ word <:+: text := by
  rw [cons_append, likeMatches, any_eq_true, infix_iff_prefix_suffix]
  simp only [likeMatches_lead, mem_tails]
  exact exists_congr fun _ => and_comm

/-! ## Quotes -/

structure Escaping (quote : α) where
  escape : α → List α
  isPlain : α → Prop
  plain : ∀ c, isPlain c → escape c = [c]
  other : ∀ c, ¬ isPlain c → ∃ lead rest, escape c = lead :: rest ∧ ¬ isPlain lead
  quoted : ∃ lead, escape quote = [lead, quote] ∧ lead ≠ quote
  quote_other : ¬ isPlain quote
  unquoted : ∀ c, c ≠ quote → quote ∉ escape c

/-- The word stands in the text, right after a quote. -/
def Mentions (quote : α) (word text : List α) : Prop := (quote :: word) <:+: text

section Search

variable {quote : α} {word text rest : List α}

theorem mentions_quote_cons :
    Mentions quote word (quote :: text) ↔ word <+: text ∨ Mentions quote word text := by
  unfold Mentions
  rw [infix_cons_iff, cons_prefix_cons]
  exact or_congr_left (and_iff_right rfl)

theorem mentions_cons {c : α} (other : c ≠ quote) :
    Mentions quote word (c :: text) ↔ Mentions quote word text := by
  unfold Mentions
  rw [infix_cons_iff, cons_prefix_cons]
  exact or_iff_right fun ⟨same, _⟩ => other same.symm

theorem mentions_append (free : quote ∉ text) :
    Mentions quote word (text ++ rest) ↔ Mentions quote word rest := by
  induction text with
  | nil => exact Iff.rfl
  | cons c text ih =>
    rw [mem_cons, not_or] at free
    rw [cons_append, mentions_cons (Ne.symm free.1), ih free.2]

theorem not_mentions_nil : ¬ Mentions quote word [] := by
  unfold Mentions
  simp

end Search

namespace Escaping

variable {quote : α} (E : Escaping quote)

/-- The string in quotes. -/
def quotes (s : List α) : List α := quote :: (s.flatMap E.escape ++ [quote])

section Words

variable {E} {word s rest : List α}

theorem prefix_escaped (plain : ∀ c ∈ word, E.isPlain c) :
    word <+: s.flatMap E.escape ++ quote :: rest ↔ word <+: s := by
  induction word generalizing s with
  | nil => exact iff_of_true nil_prefix nil_prefix
  | cons w word ih =>
    obtain ⟨first, later⟩ := forall_mem_cons.mp plain
    cases s with
    | nil =>
      refine iff_of_false (fun front => ?_) (by simp)
      have same : w = quote := (cons_prefix_cons.mp front).1
      exact E.quote_other (same ▸ first)
    | cons c s =>
      rw [flatMap_cons, append_assoc]
      by_cases plainC : E.isPlain c
      · rw [E.plain c plainC, singleton_append, cons_prefix_cons, cons_prefix_cons,
          ih later]
      · obtain ⟨lead, tail, written, unplain⟩ := E.other c plainC
        rw [written, cons_append, cons_prefix_cons, cons_prefix_cons]
        refine iff_of_false (fun ⟨same, _⟩ => unplain (same ▸ first)) fun ⟨same, _⟩ => ?_
        exact plainC (same ▸ first)

theorem mentions_escaped (plain : ∀ c ∈ word, E.isPlain c) :
    Mentions quote word (s.flatMap E.escape ++ quote :: rest) ↔
      Mentions quote word s ∨ Mentions quote word (quote :: rest) := by
  induction s with
  | nil => exact (or_iff_right not_mentions_nil).symm
  | cons c s ih =>
    rw [flatMap_cons, append_assoc]
    by_cases isQuote : c = quote
    · obtain ⟨lead, written, other⟩ := E.quoted
      rw [isQuote, written, cons_append, singleton_append, mentions_cons other,
        mentions_quote_cons, mentions_quote_cons, ih, prefix_escaped plain, or_assoc]
    · rw [mentions_append (E.unquoted c isQuote), mentions_cons isQuote, ih]

/-- The text mentions the word just if `m` holds, whatever comes after it that does not begin
as the word does. -/
def Tells (E : Escaping quote) (first : α) (word text : List α) (m : Prop) : Prop :=
  (∀ c ∈ first :: word, E.isPlain c) →
    ∀ rest, head? rest ≠ some first →
      (Mentions quote (first :: word) (text ++ rest) ↔ m ∨ Mentions quote (first :: word) rest)

variable {first : α} {m k : Prop} {text after : List α}

theorem not_prefix_of_head (other : rest.head? ≠ some first) : ¬ (first :: word) <+: rest := by
  rintro ⟨tail, rfl⟩
  exact other rfl

theorem tells_free (free : quote ∉ text) : E.Tells first word text False := fun _ _ _ =>
  (mentions_append free).trans (or_iff_right not_false).symm

theorem Tells.free_append (free : quote ∉ text) (tells : E.Tells first word after m) :
    E.Tells first word (text ++ after) m := fun plain rest other => by
  rw [append_assoc, mentions_append free]
  exact tells plain rest other

theorem Tells.append {separator : List α} (tells : E.Tells first word text m)
    (free : quote ∉ separator) (apart : ∀ tail : List α, (separator ++ tail).head? ≠ some first)
    (tells' : E.Tells first word after k) :
    E.Tells first word (text ++ separator ++ after) (m ∨ k) := fun plain rest other => by
  rw [append_assoc, append_assoc, tells plain _ (apart _), mentions_append free,
    tells' plain rest other, or_assoc]

theorem Tells.append_free (tells : E.Tells first word text m) (free : quote ∉ after)
    (apart : ∀ tail : List α, (after ++ tail).head? ≠ some first) :
    E.Tells first word (text ++ after) m := fun plain rest _ => by
  rw [append_assoc, tells plain _ (apart rest), mentions_append free]

/-- A string in quotes. -/
theorem tells_quotes (s : List α) :
    E.Tells first word (E.quotes s) ((first :: word) <+: s ∨ Mentions quote (first :: word) s) :=
  fun plain rest other => by
  have shape : E.quotes s ++ rest = quote :: (s.flatMap E.escape ++ quote :: rest) := by
    unfold quotes
    rw [cons_append, append_assoc, singleton_append]
  rw [shape, mentions_quote_cons, prefix_escaped plain, mentions_escaped plain,
    mentions_quote_cons, or_iff_right (not_prefix_of_head other), or_assoc]

theorem Tells.congr (tells : E.Tells first word text m) (same : m ↔ k) :
    E.Tells first word text k := by
  rw [← propext same]
  exact tells

theorem Tells.mentions (tells : E.Tells first word text m) (plain : ∀ c ∈ first :: word, E.isPlain c) :
    Mentions quote (first :: word) text ↔ m := by
  have alone := tells plain [] nofun
  rw [append_nil] at alone
  exact alone.trans (or_iff_left not_mentions_nil)

end Words

end Escaping

end QuotedText
