import Mathlib.Tactic.IntervalCases

/-!
# The Gregorian calendar and its weeks

Days are numbered from 1 January 1970, a Thursday.

* `Date`: a date of the calendar, and its `dayNumber`.
-/

namespace Gregorian

def isLeap (year : Int) : Bool := year % 4 = 0 && (year % 100 ≠ 0 || year % 400 = 0)

def daysInMonth (year : Int) : Nat → Nat
  | 2 => if isLeap year then 29 else 28
  | 4 | 6 | 9 | 11 => 30
  | _ => 31

/-- The number of days from 1 January on to the beginning of a month. -/
def daysBeforeMonth (year : Int) : Nat → Nat
  | 0 | 1 => 0
  | month + 2 => daysBeforeMonth year (month + 1) + daysInMonth year (month + 1)

structure Date where
  year : Int
  month : Nat
  day : Nat
  month_mem : 1 ≤ month ∧ month ≤ 12
  day_mem : 1 ≤ day ∧ day ≤ daysInMonth year month

/-- The number of the first day of a year. -/
def startOfYear (year : Int) : Int :=
  365 * (year - 1) + (year - 1) / 4 - (year - 1) / 100 + (year - 1) / 400 - 719162

def Date.dayNumber (date : Date) : Int :=
  startOfYear date.year + daysBeforeMonth date.year date.month + date.day - 1

/-! ## Weeks -/

/-- The day of the week, from Monday on. -/
def weekday (n : Int) : Int := (n + 3) % 7

/-- The Monday of a week. -/
def weekStart (n : Int) : Int := n - weekday n

def InYear (year n : Int) : Prop := startOfYear year ≤ n ∧ n < startOfYear (year + 1)

def FirstThursday (year first : Int) : Prop :=
  weekday first = 3 ∧ startOfYear year ≤ first ∧ first < startOfYear year + 7

/-- The week of the day is the one of this number in the year that its Thursday is in, counted
from the week of that year's first Thursday. -/
def IsIsoWeek (n week : Int) : Prop :=
  ∃ year first, InYear year (weekStart n + 3) ∧ FirstThursday year first ∧
    weekStart n = weekStart first + 7 * (week - 1)

theorem startOfYear_mono {year later : Int} (le : year ≤ later) :
    startOfYear year ≤ startOfYear later := by
  unfold startOfYear
  omega

theorem inYear_unique {year other n : Int} (one : InYear year n) (two : InYear other n) :
    year = other := by
  have apart : ∀ {a b : Int}, InYear a n → InYear b n → ¬ a < b := by
    intro a b first second less
    have le := startOfYear_mono (show a + 1 ≤ b from less)
    have before := first.2
    have after := second.1
    omega
  have forward := apart one two
  have backward := apart two one
  omega

theorem firstThursday_unique {year first other : Int} (one : FirstThursday year first)
    (two : FirstThursday year other) : first = other := by
  unfold FirstThursday weekday at one two
  omega

theorem isIsoWeek_unique {n week other : Int} (one : IsIsoWeek n week) (two : IsIsoWeek n other) :
    week = other := by
  obtain ⟨year, first, inside, isFirst, starts⟩ := one
  obtain ⟨year', first', inside', isFirst', starts'⟩ := two
  cases inYear_unique inside inside'
  cases firstThursday_unique isFirst isFirst'
  omega

end Gregorian
