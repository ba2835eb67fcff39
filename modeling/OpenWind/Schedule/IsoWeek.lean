import OpenWind.Lib.Gregorian

/-!
# The week of a fired ticket

A template may name the week of the date on which its rule fires.  `isoWeekNumber` goes to the
Thursday of the date's week and counts the weeks since the first Thursday of that Thursday's year,
with the dates of the language, which end 100 million days after 1970.
-/

open Option

namespace OpenWind

open Gregorian

/-! ## Dates of the language -/

def msPerDay : Int := 86400000

def maxTimeValue : Int := 8640000000000000

def timeClip (time : Int) : Option Int :=
  if -maxTimeValue ≤ time ∧ time ≤ maxTimeValue then some time else none

def dayFromYear (year : Int) : Int :=
  365 * (year - 1970) + (year - 1969) / 4 - (year - 1901) / 100 + (year - 1601) / 400

/-- The days before each month of a year. -/
def monthStarts (year : Int) : List Int :=
  if isLeap year then [0, 31, 60, 91, 121, 152, 182, 213, 244, 274, 305, 335]
  else [0, 31, 59, 90, 120, 151, 181, 212, 243, 273, 304, 334]

def makeDay (year month date : Int) : Int :=
  let ym := year + month / 12
  let mn := month % 12
  dayFromYear ym + ((monthStarts ym)[mn.toNat]?).getD 0 + date - 1

def yearFromDay (day : Int) : Int :=
  let near := 1970 + day * 400 / 146097
  if day < dayFromYear near then near - 1
  else if dayFromYear (near + 1) ≤ day then near + 1 else near

def dayWithinYear (day : Int) : Int := day - dayFromYear (yearFromDay day)

def monthFromDay (day : Int) : Nat :=
  ((monthStarts (yearFromDay day)).filter (· ≤ dayWithinYear day)).length - 1

def dateFromDay (day : Int) : Int :=
  dayWithinYear day - ((monthStarts (yearFromDay day))[monthFromDay day]?).getD 0 + 1

def dateUTC (year month date : Int) : Option Int :=
  let fullYear := if 0 ≤ year ∧ year ≤ 99 then 1900 + year else year
  timeClip (makeDay fullYear month date * msPerDay)

def getUTCDay (time : Int) : Int := (time / msPerDay + 4) % 7

def getUTCDate (time : Int) : Int := dateFromDay (time / msPerDay)

def getUTCFullYear (time : Int) : Int := yearFromDay (time / msPerDay)

def setUTCDate (time date : Int) : Option Int :=
  let day := time / msPerDay
  timeClip (makeDay (yearFromDay day) (monthFromDay day) date * msPerDay + time % msPerDay)

/-- `Math.round(a / b)`. -/
def roundDiv (a b : Int) : Int := (2 * a + b) / (2 * b)

def isoWeekNumber (year month1to12 day : Int) : Option Int := do
  let date ← dateUTC year (month1to12 - 1) day
  let dayNum := (getUTCDay date + 6) % 7
  let date ← setUTCDate date (getUTCDate date - dayNum + 3)
  let firstThursday ← dateUTC (getUTCFullYear date) 0 4
  let firstDayNum := (getUTCDay firstThursday + 6) % 7
  let firstThursday ← setUTCDate firstThursday (getUTCDate firstThursday - firstDayNum + 3)
  return 1 + roundDiv (date - firstThursday) (7 * 86400000)

/-! ## Days -/

theorem dayFromYear_eq (year : Int) : dayFromYear year = startOfYear year := by
  unfold dayFromYear startOfYear
  omega

theorem yearFromDay_inYear (day : Int) : InYear (yearFromDay day) day := by
  unfold InYear
  rw [← dayFromYear_eq, ← dayFromYear_eq]
  unfold yearFromDay
  dsimp only
  split
  · next before =>
    rw [Int.sub_add_cancel]
    refine ⟨?_, before⟩
    unfold dayFromYear
    omega
  · split
    · next after =>
      refine ⟨after, ?_⟩
      unfold dayFromYear
      omega
    · next from_ within =>
      exact ⟨Int.not_lt.1 from_, Int.not_le.1 within⟩

theorem monthStarts_eq {year : Int} {month : Nat} (range : 1 ≤ month ∧ month ≤ 12) :
    ((monthStarts year)[month - 1]?).getD 0 = daysBeforeMonth year month := by
  obtain ⟨low, high⟩ := range
  unfold monthStarts
  interval_cases month <;> simp only [daysBeforeMonth, daysInMonth] <;> split <;> rfl

theorem makeDay_date (date : Date) :
    makeDay date.year (date.month - 1 : Int) date.day = date.dayNumber := by
  have range := date.month_mem
  have ym : date.year + ((date.month : Int) - 1) / 12 = date.year := by omega
  have mn : (((date.month : Int) - 1) % 12).toNat = date.month - 1 := by omega
  unfold makeDay Date.dayNumber
  dsimp only
  rw [ym, mn, monthStarts_eq range, dayFromYear_eq]

theorem monthStarts_length (year : Int) : (monthStarts year).length = 12 := by
  unfold monthStarts
  split <;> rfl

theorem monthFromDay_lt (day : Int) : monthFromDay day < 12 := by
  have most := List.length_filter_le (· ≤ dayWithinYear day) (monthStarts (yearFromDay day))
  rw [monthStarts_length] at most
  unfold monthFromDay
  omega

theorem makeDay_dateFromDay (day days : Int) :
    makeDay (yearFromDay day) (monthFromDay day) (dateFromDay day + days) = day + days := by
  have small := monthFromDay_lt day
  have ym : yearFromDay day + (monthFromDay day : Int) / 12 = yearFromDay day := by omega
  have mn : ((monthFromDay day : Int) % 12).toNat = monthFromDay day := by omega
  unfold makeDay dateFromDay dayWithinYear
  dsimp only
  rw [ym, mn]
  omega

theorem timeClip_day {day : Int} (range : -100000000 ≤ day ∧ day ≤ 100000000) :
    timeClip (day * msPerDay) = some (day * msPerDay) := by
  unfold timeClip maxTimeValue msPerDay
  rw [if_pos (by omega)]

theorem day_of_time (day : Int) : day * msPerDay / msPerDay = day :=
  Int.mul_ediv_cancel day (by decide)

theorem setUTCDate_day {day days : Int} (range : -100000000 ≤ day + days ∧ day + days ≤ 100000000) :
    setUTCDate (day * msPerDay) (getUTCDate (day * msPerDay) + days) =
      some ((day + days) * msPerDay) := by
  unfold setUTCDate getUTCDate
  dsimp only
  rw [day_of_time, makeDay_dateFromDay, Int.mul_emod_left, Int.add_zero, timeClip_day range]

/-! ## The week -/

theorem thursday_found (day : Int) (range : -99999990 ≤ day ∧ weekStart day + 3 ≤ 100000000) :
    setUTCDate (day * msPerDay) (getUTCDate (day * msPerDay) -
      (getUTCDay (day * msPerDay) + 6) % 7 + 3) = some ((weekStart day + 3) * msPerDay) := by
  have place : (getUTCDay (day * msPerDay) + 6) % 7 = weekday day := by
    unfold getUTCDay weekday
    rw [day_of_time]
    omega
  have shift : getUTCDate (day * msPerDay) - weekday day + 3 =
      getUTCDate (day * msPerDay) + (3 - weekday day) := by omega
  unfold weekStart weekday at *
  rw [place, shift, setUTCDate_day (by omega)]
  congr 2
  omega

theorem firstThursday_of_year (year : Int) :
    FirstThursday year (weekStart (startOfYear year + 3) + 3) := by
  unfold FirstThursday weekStart weekday
  omega

theorem weekStart_thursday (n : Int) : weekStart (weekStart n + 3) = weekStart n := by
  unfold weekStart weekday
  omega

theorem roundDiv_weeks (n m : Int) :
    weekStart n = weekStart m +
      7 * roundDiv ((weekStart n + 3) * msPerDay - (weekStart m + 3) * msPerDay) (7 * 86400000) := by
  unfold roundDiv weekStart weekday msPerDay
  omega

theorem dateUTC_date {date : Date} (modern : 1583 ≤ date.year)
    (held : -100000000 ≤ date.dayNumber ∧ date.dayNumber ≤ 100000000) :
    dateUTC date.year (date.month - 1) date.day = some (date.dayNumber * msPerDay) := by
  unfold dateUTC
  dsimp only
  rw [if_neg (by omega), makeDay_date, timeClip_day held]

theorem dateUTC_january {year : Int} (modern : 1000 ≤ year)
    (held : -100000000 ≤ startOfYear year + 3 ∧ startOfYear year + 3 ≤ 100000000) :
    dateUTC year 0 4 = some ((startOfYear year + 3) * msPerDay) := by
  have day : makeDay year 0 4 = startOfYear year + 3 := by
    unfold makeDay
    rw [← dayFromYear_eq]
    have first : ((monthStarts year)[0]?).getD 0 = 0 := @monthStarts_eq year 1 (by decide)
    simp only [Int.zero_ediv, Int.add_zero, Int.zero_emod, Int.toNat_zero, first]
    omega
  unfold dateUTC
  dsimp only
  rw [if_neg (by omega), day, timeClip_day held]

theorem startOfYear_le_dayNumber (date : Date) : startOfYear date.year ≤ date.dayNumber := by
  have day := date.day_mem.1
  unfold Date.dayNumber
  omega

/-- From the year 1583 on, every date that the language's dates hold has its ISO week number. -/
theorem isoWeekNumber_spec (date : Date) (modern : 1583 ≤ date.year)
    (held : date.dayNumber ≤ 100000000) :
    ∃ week, isoWeekNumber date.year date.month date.day = some week ∧
      ∀ other, IsIsoWeek date.dayNumber other ↔ other = week := by
  have since : -141349 ≤ date.dayNumber :=
    Int.le_trans (startOfYear_mono modern) (startOfYear_le_dayNumber date)
  -- The last day is a Saturday, so that the Thursday of its week is held as well.
  have near : date.dayNumber - 6 ≤ weekStart date.dayNumber ∧
      weekStart date.dayNumber + 3 ≤ 100000000 := by
    unfold weekStart weekday
    omega
  have inside := yearFromDay_inYear (weekStart date.dayNumber + 3)
  generalize named : yearFromDay (weekStart date.dayNumber + 3) = year at inside
  have years : 1000 ≤ year ∧ -800000 ≤ startOfYear year ∧ startOfYear year + 10 ≤ 100000000 := by
    unfold InYear startOfYear at inside
    unfold startOfYear
    omega
  have january : weekStart (startOfYear year + 3) ≤ startOfYear year + 3 := by
    unfold weekStart weekday
    omega
  have computed : isoWeekNumber date.year date.month date.day =
      some (1 + roundDiv ((weekStart date.dayNumber + 3) * msPerDay -
        (weekStart (startOfYear year + 3) + 3) * msPerDay) (7 * 86400000)) := by
    have full : getUTCFullYear ((weekStart date.dayNumber + 3) * msPerDay) = year := by
      unfold getUTCFullYear
      rw [day_of_time, named]
    unfold isoWeekNumber
    rw [dateUTC_date modern (by omega), bind_eq_bind, bind_some]
    dsimp only
    rw [thursday_found _ (by omega), bind_some, full, dateUTC_january years.1 (by omega), bind_some]
    rw [thursday_found _ (by omega), bind_some]
    rfl
  have apart := roundDiv_weeks date.dayNumber (startOfYear year + 3)
  generalize weeks : roundDiv _ _ = number at apart computed
  have isWeek : IsIsoWeek date.dayNumber (1 + number) := by
    refine ⟨year, _, inside, firstThursday_of_year year, ?_⟩
    rw [weekStart_thursday, apart]
    omega
  refine ⟨1 + number, computed, ?_⟩
  intro other
  constructor
  · intro isOther
    exact isIsoWeek_unique isOther isWeek
  · rintro rfl
    exact isWeek

/-- The first of January 2027 is a Friday, and in the last week of the year before. -/
theorem isoWeekNumber_spec_at_new_year : isoWeekNumber 2027 1 1 = some 53 ∧ IsIsoWeek 20819 53 := by
  obtain ⟨week, found, unique⟩ :=
    isoWeekNumber_spec ⟨2027, 1, 1, by decide, by decide⟩ (by decide) (by decide)
  have number : isoWeekNumber 2027 1 1 = some 53 := by decide +kernel
  cases Option.some.inj (number.symm.trans found)
  exact ⟨number, (unique 53).2 rfl⟩

/-- 14 September 275760 is in a week, and no time of the language is on it. -/
theorem no_week_past_the_last_date :
    ¬ ∀ date : Date, 1583 ≤ date.year → ∃ week,
      isoWeekNumber date.year date.month date.day = some week ∧ IsIsoWeek date.dayNumber week := by
  intro all
  obtain ⟨week, found, -⟩ := all ⟨275760, 9, 14, by decide, by decide⟩ (by decide)
  have missing : isoWeekNumber 275760 9 14 = none := by decide +kernel
  cases missing.symm.trans found

end OpenWind
