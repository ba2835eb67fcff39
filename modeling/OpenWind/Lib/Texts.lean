import Mathlib.Data.Nat.Digits.Defs
import OpenWind.Lib.Gregorian

/-!
# Texts of values

Lists of characters that are written from values, and how they are read back.

* `numeral`: a number in a base up to sixteen, with zeros in front.

Each has the reader that `value_numeral`, `readIso_isoText`, `readQuoted_escaped` and
`readBase64Url_base64Url` are about.
-/

open List

namespace Texts

/-! ## Numerals -/

def numeral (base width n : Nat) : List Char :=
  ((Nat.digits base n).reverse.map Nat.digitChar).leftpad width '0'

def digitValue (c : Char) : Nat := if c.isDigit then c.toNat - '0'.toNat else c.toNat - 'a'.toNat + 10

def value (base : Nat) (text : List Char) : Nat := Nat.ofDigits base (text.map digitValue).reverse

theorem digitValue_digitChar : ∀ d < 16, digitValue (Nat.digitChar d) = d := by decide

section Numerals

variable {base width n : Nat} {c : Char}

theorem value_numeral (two : 1 < base) (sixteen : base ≤ 16) : value base (numeral base width n) = n := by
  have digits : (Nat.digits base n).map (digitValue ∘ Nat.digitChar) = Nat.digits base n := by
    refine (map_congr_left fun d mem => ?_).trans (map_id _)
    exact digitValue_digitChar d (Nat.lt_of_lt_of_le (Nat.digits_lt_base two mem) sixteen)
  unfold value numeral leftpad
  rw [map_append, map_replicate, reverse_append, map_map, map_reverse, reverse_reverse, digits,
    reverse_replicate, show digitValue '0' = 0 from rfl, Nat.ofDigits_append_replicate_zero,
    Nat.ofDigits_digits]

theorem mem_numeral (two : 1 < base) (mem : c ∈ numeral base width n) :
    ∃ d < base, c = Nat.digitChar d := by
  unfold numeral leftpad at mem
  rcases mem_append.mp mem with zero | digit
  · exact ⟨0, by omega, eq_of_mem_replicate zero⟩
  · obtain ⟨d, there, rfl⟩ := List.mem_map.mp digit
    exact ⟨d, Nat.digits_lt_base two (mem_reverse.mp there), rfl⟩

/-- Groups of so many characters each, and the rest. -/
def grouped : List Nat → List Char → List Char
  | [], text => text
  | size :: sizes, text => text.take size ++ '-' :: grouped sizes (text.drop size)

theorem filter_grouped (sizes : List Nat) {text : List Char} (plain : '-' ∉ text) :
    (grouped sizes text).filter (· ≠ '-') = text := by
  have kept {part : List Char} (sub : part ⊆ text) : part.filter (· ≠ '-') = part := by
    refine filter_eq_self.mpr fun c mem => decide_eq_true ?_
    rintro rfl
    exact plain (sub mem)
  induction sizes generalizing text with
  | nil => exact kept (Subset.refl _)
  | cons size sizes ih =>
    have later := @ih (text.drop size) (fun mem => plain (drop_subset _ _ mem))
      fun sub => kept fun _ mem => drop_subset _ _ (sub mem)
    rw [grouped, filter_append, filter_cons_of_neg (by decide), later, kept (take_subset _ _),
      take_append_drop]

end Numerals

/-! ## Dates -/

def yearOf (day : Nat) : Nat :=
  1970 + Nat.findGreatest (fun years => Gregorian.startOfYear (1970 + years : Nat) ≤ day) day

def dayOfYear (day : Nat) : Nat := (day - Gregorian.startOfYear (yearOf day)).toNat

def monthOf (day : Nat) : Nat :=
  1 + Nat.findGreatest (fun months =>
    Gregorian.daysBeforeMonth (yearOf day) (1 + months) ≤ dayOfYear day) 11

def dayOfMonth (day : Nat) : Nat :=
  dayOfYear day - Gregorian.daysBeforeMonth (yearOf day) (monthOf day) + 1

/-- Numbers, each with its places and the sign after it. -/
def fields (parts : List (Nat × Nat × Char)) : List Char :=
  parts.flatMap fun (width, n, sign) => numeral 10 width n ++ [sign]

def readFields (text : List Char) : List Nat :=
  (text.splitOnP fun c => !c.isDigit).dropLast.map (value 10)

/-- A date and a time of day, with so many places for the year. -/
def isoParts (width millis : Nat) : List (Nat × Nat × Char) :=
  let day := millis / 86400000
  [(width, yearOf day, '-'), (2, monthOf day, '-'), (2, dayOfMonth day, 'T'),
    (2, millis / 3600000 % 24, ':'), (2, millis / 60000 % 60, ':'), (2, millis / 1000 % 60, '.'),
    (3, millis % 1000, 'Z')]

def isoText (millis : Nat) : List Char :=
  if yearOf (millis / 86400000) ≤ 9999 then fields (isoParts 4 millis)
  else '+' :: fields (isoParts 6 millis)

def readIso (text : List Char) : Option Nat :=
  match readFields (text.filter (· ≠ '+')) with
  | [year, month, day, hours, minutes, seconds, millis] =>
    let number := (Gregorian.startOfYear year + Gregorian.daysBeforeMonth year month + day - 1).toNat
    some ((((number * 24 + hours) * 60 + minutes) * 60 + seconds) * 1000 + millis)
  | _ => none

theorem isDigit_digitChar : ∀ d < 10, (Nat.digitChar d).isDigit = true := by decide

theorem readFields_fields (parts : List (Nat × Nat × Char))
    (signs : ∀ part ∈ parts, part.2.2.isDigit = false) :
    readFields (fields parts) = parts.map (·.2.1) := by
  have split : ((fields parts).splitOnP fun c => !c.isDigit) =
      parts.map (fun part => numeral 10 part.1 part.2.1) ++ [[]] := by
    induction parts with
    | nil => rfl
    | cons part parts ih =>
      rw [forall_mem_cons] at signs
      have digits : ∀ c ∈ numeral 10 part.1 part.2.1, (!c.isDigit) = false := by
        intro c mem
        obtain ⟨d, small, rfl⟩ := mem_numeral (by decide) mem
        rw [isDigit_digitChar d small]
        rfl
      have first := splitOnP_append_cons_of_forall_mem digits part.2.2 (by rw [signs.1]; rfl) (fields parts)
      rw [ih signs.2] at first
      rw [map_cons, cons_append, ← first]
      exact congrArg _ (append_assoc _ [part.2.2] (fields parts))
  unfold readFields
  rw [split, dropLast_concat, map_map]
  exact map_congr_left fun part _ => value_numeral (by decide) (by decide)

theorem startOfYear_yearOf (day : Nat) : Gregorian.startOfYear (yearOf day) ≤ day := by
  have first : Gregorian.startOfYear (1970 + 0 : Nat) ≤ day := by
    rw [show Gregorian.startOfYear (1970 + 0 : Nat) = 0 by decide]
    exact Int.natCast_nonneg day
  exact Nat.findGreatest_spec (P := fun years => Gregorian.startOfYear (1970 + years : Nat) ≤ day)
    (Nat.zero_le day) first

theorem daysBeforeMonth_monthOf (day : Nat) :
    Gregorian.daysBeforeMonth (yearOf day) (monthOf day) ≤ dayOfYear day :=
  Nat.findGreatest_spec (P := fun months =>
    Gregorian.daysBeforeMonth (yearOf day) (1 + months) ≤ dayOfYear day) (Nat.zero_le 11)
    (Nat.zero_le _)

/-- The calendar finds the day again. -/
theorem number_of_day (day : Nat) :
    (Gregorian.startOfYear (yearOf day) + Gregorian.daysBeforeMonth (yearOf day) (monthOf day) +
      dayOfMonth day - 1).toNat = day := by
  have year := startOfYear_yearOf day
  have month := daysBeforeMonth_monthOf day
  unfold dayOfMonth
  unfold dayOfYear at month ⊢
  omega

theorem plus_not_mem {parts : List (Nat × Nat × Char)} (signs : ∀ part ∈ parts, part.2.2 ≠ '+') :
    '+' ∉ fields parts := by
  intro mem
  obtain ⟨part, inside, mem⟩ := mem_flatMap.mp mem
  rcases mem_append.mp mem with digit | sign
  · obtain ⟨d, small, same⟩ := mem_numeral (by decide) digit
    have digits := isDigit_digitChar d small
    rw [← same] at digits
    exact absurd digits (by decide)
  · exact signs part inside (mem_singleton.mp sign).symm

theorem readFields_isoParts (width millis : Nat) :
    readFields ((fields (isoParts width millis)).filter (· ≠ '+')) =
      (isoParts width millis).map (·.2.1) := by
  have plain : '+' ∉ fields (isoParts width millis) :=
    plus_not_mem (by unfold isoParts; simp only [forall_mem_cons]; decide)
  have kept : (fields (isoParts width millis)).filter (· ≠ '+') = fields (isoParts width millis) :=
    filter_eq_self.mpr fun c mem => decide_eq_true fun plus => plain (plus ▸ mem)
  rw [kept]
  exact readFields_fields _ (by unfold isoParts; simp only [forall_mem_cons]; decide)

theorem readIso_isoText (millis : Nat) : readIso (isoText millis) = some millis := by
  have read (width : Nat) : readIso (fields (isoParts width millis)) = some millis := by
    unfold readIso
    rw [readFields_isoParts]
    dsimp only [isoParts, List.map]
    rw [number_of_day]
    congr 1
    omega
  unfold isoText
  split
  · exact read 4
  · have signed : readIso ('+' :: fields (isoParts 6 millis)) = readIso (fields (isoParts 6 millis)) := by
      unfold readIso
      rw [filter_cons_of_neg (by decide)]
    exact signed.trans (read 6)

/-! ## Quoted texts -/

def escape (c : Char) : List Char := if c = '"' ∨ c = '\\' then ['\\', c] else [c]

def escaped (text : List Char) : List Char := text.flatMap escape

/-- What stands before the quotation mark, and after it. -/
def readQuoted : List Char → Option (List Char × List Char)
  | [] => none
  | '"' :: rest => some ([], rest)
  | '\\' :: c :: rest => (readQuoted rest).map fun (text, rest) => (c :: text, rest)
  | c :: rest => (readQuoted rest).map fun (text, rest) => (c :: text, rest)

theorem readQuoted_escaped (text rest : List Char) :
    readQuoted (escaped text ++ '"' :: rest) = some (text, rest) := by
  induction text with
  | nil => rfl
  | cons c text ih =>
    have split : escaped (c :: text) ++ '"' :: rest = escape c ++ (escaped text ++ '"' :: rest) :=
      append_assoc (escape c) _ _
    rw [split]
    unfold escape
    by_cases special : c = '"' ∨ c = '\\'
    · rw [if_pos special]
      simp only [cons_append, nil_append, readQuoted, ih, Option.map_some]
    · rw [if_neg special]
      obtain ⟨quote, slash⟩ := not_or.mp special
      rw [cons_append, nil_append, readQuoted, ih, Option.map_some]
      · exact quote
      · exact fun _ _ same _ => slash same

/-! ## Bytes -/

def alphabet : List Char :=
  "ABCDEFGHIJKLMNOPQRSTUVWXYZabcdefghijklmnopqrstuvwxyz0123456789-_".toList

def sextetChar (n : Nat) : Char := alphabet.getD n 'A'

def sextet (c : Char) : Nat := alphabet.idxOf c

def base64Url : List UInt8 → List Char
  | [] => []
  | [a] => [sextetChar (a.toNat / 4), sextetChar (a.toNat % 4 * 16)]
  | [a, b] => [sextetChar (a.toNat / 4), sextetChar (a.toNat % 4 * 16 + b.toNat / 16),
      sextetChar (b.toNat % 16 * 4)]
  | a :: b :: c :: rest => sextetChar (a.toNat / 4) :: sextetChar (a.toNat % 4 * 16 + b.toNat / 16) ::
      sextetChar (b.toNat % 16 * 4 + c.toNat / 64) :: sextetChar (c.toNat % 64) :: base64Url rest

def readBase64Url : List Char → List UInt8
  | [] => []
  | [_] => []
  | [p, q] => [.ofNat (sextet p * 4 + sextet q / 16)]
  | [p, q, r] => [.ofNat (sextet p * 4 + sextet q / 16), .ofNat (sextet q % 16 * 16 + sextet r / 4)]
  | p :: q :: r :: s :: rest => .ofNat (sextet p * 4 + sextet q / 16) ::
      .ofNat (sextet q % 16 * 16 + sextet r / 4) :: .ofNat (sextet r % 4 * 64 + sextet s) ::
      readBase64Url rest

theorem sextet_sextetChar : ∀ n < 64, sextet (sextetChar n) = n := by decide

theorem ofNat_of_eq {n : Nat} {a : UInt8} (same : n = a.toNat) : UInt8.ofNat n = a := by
  rw [same, UInt8.ofNat_toNat]

theorem readBase64Url_base64Url (bytes : List UInt8) : readBase64Url (base64Url bytes) = bytes := by
  have bound (a : UInt8) : a.toNat < 256 := a.toNat_lt
  fun_induction base64Url bytes with
  | case1 => rfl
  | case2 a =>
    have := bound a
    simp (disch := omega) only [readBase64Url, sextet_sextetChar]
    rw [ofNat_of_eq (a := a) (by omega)]
  | case3 a b =>
    have := bound a
    have := bound b
    simp (disch := omega) only [readBase64Url, sextet_sextetChar]
    rw [ofNat_of_eq (a := a) (by omega), ofNat_of_eq (a := b) (by omega)]
  | case4 a b c rest ih =>
    have := bound a
    have := bound b
    have := bound c
    simp (disch := omega) only [readBase64Url, sextet_sextetChar, ih]
    rw [ofNat_of_eq (a := a) (by omega), ofNat_of_eq (a := b) (by omega),
      ofNat_of_eq (a := c) (by omega)]

end Texts
