import Mathlib.Data.Int.Init
import ResumeTerminal.Calendar

/-! The calendar as a count of days. Months and years follow each other with their lengths,
and every day of the count has one date. -/
namespace ResumeTerminal.Calendar

theorem isLeapYear_iff (year : Int) :
    isLeapYear year = true ↔ year % 4 = 0 ∧ (year % 100 ≠ 0 ∨ year % 400 = 0) := by
  simp only [isLeapYear, Bool.and_eq_true, Bool.or_eq_true, beq_iff_eq, bne_iff_ne]

/-! Years. -/

def daysInYear (year : Int) : Nat := if isLeapYear year then 366 else 365

/-- Days from 1 January of the year 1 to the same day of another year. -/
def daysBeforeYear (year : Int) : Int :=
  365 * (year - 1) + (year - 1) / 4 - (year - 1) / 100 + (year - 1) / 400

theorem daysBeforeYear_succ (year : Int) :
    daysBeforeYear (year + 1) = daysBeforeYear year + daysInYear year := by
  unfold daysBeforeYear daysInYear
  split
  · next h =>
    rw [isLeapYear_iff] at h
    omega
  · next h =>
    rw [isLeapYear_iff] at h
    omega

theorem daysBeforeYear_add_le {year later : Int} (h : year < later) :
    daysBeforeYear year + daysInYear year ≤ daysBeforeYear later := by
  rw [← daysBeforeYear_succ]
  unfold daysBeforeYear
  omega

/-! Months. -/

/-- Days from 1 January to the first day of a month. -/
def daysBeforeMonth (year : Int) : Nat → Nat
  | 0 | 1 => 0
  | month + 2 => daysBeforeMonth year (month + 1) + daysInMonth year (month + 1)

theorem daysInMonth_pos (year : Int) (month : Nat) : 0 < daysInMonth year month := by
  unfold daysInMonth
  split
  · split <;> decide
  · split <;> decide

theorem daysBeforeMonth_succ (year : Int) {month : Nat} (h : 1 ≤ month) :
    daysBeforeMonth year (month + 1) = daysBeforeMonth year month + daysInMonth year month := by
  obtain ⟨earlier, rfl⟩ := Nat.exists_eq_add_of_le' h
  rfl

theorem daysBeforeMonth_add_le (year : Int) {month later : Nat} (hmonth : 1 ≤ month)
    (h : month < later) :
    daysBeforeMonth year month + daysInMonth year month ≤ daysBeforeMonth year later := by
  induction h with
  | refl => exact Nat.le_of_eq (daysBeforeMonth_succ year hmonth).symm
  | @step later hlater ih =>
    have hlast : 1 ≤ later := Nat.le_trans hmonth (Nat.le_of_succ_le hlater)
    rw [daysBeforeMonth_succ year hlast]
    exact Nat.le_add_right_of_le ih

theorem daysBeforeMonth_december (year : Int) :
    daysBeforeMonth year 12 + daysInMonth year 12 = daysInYear year := by
  simp only [daysBeforeMonth, daysInMonth, daysInYear]
  cases isLeapYear year <;> rfl

/-! Dates. -/

structure Date.Valid (date : Date) : Prop where
  month_pos : 1 ≤ date.month
  month_le : date.month ≤ 12
  day_pos : 1 ≤ date.day
  day_le : date.day ≤ daysInMonth date.year date.month

namespace Date

/-- Days from 1 January 1970. -/
def epochDay (date : Date) : Int :=
  daysBeforeYear date.year - daysBeforeYear 1970 +
    (daysBeforeMonth date.year date.month + (date.day - 1) : Int)

/-- The day after: a month follows the last day of another, and a year the last of December. -/
def next (date : Date) : Date :=
  if date.day < daysInMonth date.year date.month then { date with day := date.day + 1 }
  else if date.month < 12 then ⟨date.year, date.month + 1, 1⟩
  else ⟨date.year + 1, 1, 1⟩

theorem Valid.next {date : Date} (h : date.Valid) : date.next.Valid := by
  unfold Date.next
  split
  · next hday => exact ⟨h.month_pos, h.month_le, by dsimp; omega, hday⟩
  · split
    · next hmonth =>
      exact ⟨by dsimp; omega, hmonth, Nat.le_refl 1, daysInMonth_pos _ _⟩
    · exact ⟨Nat.le_refl 1, Nat.le_of_ble_eq_true rfl, Nat.le_refl 1, daysInMonth_pos _ _⟩

theorem Valid.epochDay_next {date : Date} (h : date.Valid) :
    date.next.epochDay = date.epochDay + 1 := by
  have hday := h.day_le
  unfold Date.next epochDay
  split
  · dsimp only
    omega
  · split
    · have hmonth := daysBeforeMonth_succ date.year h.month_pos
      dsimp only
      omega
    · next hlast hmonth =>
      have hdecember := daysBeforeMonth_december date.year
      have hmonth : date.month = 12 := Nat.le_antisymm h.month_le (by omega)
      rw [hmonth] at hday hlast ⊢
      rw [daysBeforeYear_succ]
      simp only [daysBeforeMonth] at *
      omega

/-! Every day has one date. -/

theorem Valid.daysBeforeMonth_add_day_le {date : Date} (h : date.Valid) :
    daysBeforeMonth date.year date.month + date.day ≤ daysInYear date.year := by
  have hday := h.day_le
  have hdecember := daysBeforeMonth_december date.year
  rcases Nat.lt_or_eq_of_le h.month_le with hmonth | hmonth
  · have hlater := daysBeforeMonth_add_le date.year h.month_pos hmonth
    omega
  · rw [hmonth] at hday ⊢
    omega

theorem Valid.epochDay_lt_of_year_lt {date later : Date} (h : date.Valid) (hlater : later.Valid)
    (hyear : date.year < later.year) : date.epochDay < later.epochDay := by
  have hend := h.daysBeforeMonth_add_day_le
  have hstart := daysBeforeYear_add_le hyear
  have hday := hlater.day_pos
  unfold epochDay
  omega

theorem Valid.epochDay_lt_of_month_lt {date later : Date} (h : date.Valid) (hlater : later.Valid)
    (hyear : date.year = later.year) (hmonth : date.month < later.month) :
    date.epochDay < later.epochDay := by
  have hend := h.day_le
  have hstart := daysBeforeMonth_add_le date.year h.month_pos hmonth
  have hday := hlater.day_pos
  unfold epochDay
  rw [← hyear]
  omega

theorem Valid.eq_of_epochDay_eq {date other : Date} (h : date.Valid) (hother : other.Valid)
    (hday : date.epochDay = other.epochDay) : date = other := by
  have hyear : date.year = other.year := by
    rcases Int.lt_trichotomy date.year other.year with hlt | heq | hgt
    · exact absurd hday (Int.ne_of_lt (h.epochDay_lt_of_year_lt hother hlt))
    · exact heq
    · exact absurd hday.symm (Int.ne_of_lt (hother.epochDay_lt_of_year_lt h hgt))
  have hmonth : date.month = other.month := by
    rcases Nat.lt_trichotomy date.month other.month with hlt | heq | hgt
    · exact absurd hday (Int.ne_of_lt (h.epochDay_lt_of_month_lt hother hyear hlt))
    · exact heq
    · exact absurd hday.symm (Int.ne_of_lt (hother.epochDay_lt_of_month_lt h hyear.symm hgt))
  obtain ⟨year, month, day⟩ := date
  obtain ⟨otherYear, otherMonth, otherDay⟩ := other
  obtain rfl : year = otherYear := hyear
  obtain rfl : month = otherMonth := hmonth
  have hsame : day = otherDay := by
    unfold epochDay at hday
    dsimp only at hday
    omega
  rw [hsame]

end Date

/-! From a day of the count to its date. -/

/-- A day of a cycle of 400 years that begin in March, told by its year and its place in it. The
leap day is the last of its year, and belongs to the year after by name. -/
structure IsDayOfCycle (day : Nat) (place : Nat × Nat) : Prop where
  day_eq : 365 * place.1 + place.1 / 4 - place.1 / 100 + place.2 = day
  year_lt : place.1 < 400
  dayOfYear_le : place.2 ≤ 365
  leap : place.2 = 365 → (place.1 + 1) % 4 = 0 ∧ ((place.1 + 1) % 100 ≠ 0 ∨ place.1 + 1 = 400)

theorem isDayOfCycle_splitCycle {day : Nat} (h : day < 146097) :
    IsDayOfCycle day (splitCycle day) := by
  -- The last century, and the last of four years, may be one day longer than the others.
  obtain ⟨century, hcentury⟩ : ∃ century, century = min (day / 36524) 3 := ⟨_, rfl⟩
  obtain ⟨inCentury, hinCentury⟩ : ∃ rest, rest = day - 36524 * century := ⟨_, rfl⟩
  have hcenturyDay : day = 36524 * century + inCentury := by omega
  have hcenturyEnd : century ≤ 3 ∧ inCentury ≤ 36524 ∧ (inCentury = 36524 → century = 3) := by
    omega
  obtain ⟨four, hfour⟩ : ∃ four, four = inCentury / 1461 := ⟨_, rfl⟩
  obtain ⟨inFour, hinFour⟩ : ∃ rest, rest = inCentury % 1461 := ⟨_, rfl⟩
  have hfourDay : inCentury = 1461 * four + inFour := by omega
  have hfourEnd : four ≤ 24 ∧ inFour ≤ 1460 := by omega
  obtain ⟨year, hyear⟩ : ∃ year, year = min (inFour / 365) 3 := ⟨_, rfl⟩
  obtain ⟨inYear, hinYear⟩ : ∃ rest, rest = inFour - 365 * year := ⟨_, rfl⟩
  have hyearDay : inFour = 365 * year + inYear := by omega
  have hyearEnd : year ≤ 3 ∧ inYear ≤ 365 ∧ (inYear = 365 → year = 3) := by omega
  have hsplit : splitCycle day = (100 * century + 4 * four + year, inYear) := by
    rw [splitCycle, ← hcentury, ← hinCentury, ← hfour, ← hinFour, ← hyear, ← hinYear]
  have hbyFour : (100 * century + 4 * four + year) / 4 = 25 * century + four := by omega
  have hbyHundred : (100 * century + 4 * four + year) / 100 = century := by omega
  rw [hsplit]
  clear hcentury hinCentury hfour hinFour hyear hinYear
  constructor <;> dsimp only <;> omega

/-- Days from 1 March to the first day of another month, by the months between them. -/
def daysSinceMarch (months : Nat) : Nat := (153 * months + 2) / 5

theorem daysSinceMarch_succ (year : Int) {months : Nat} (h : months < 10) :
    daysSinceMarch (months + 1) = daysSinceMarch months + daysInMonth year (months + 3) := by
  have hlengths : ∀ later < 10, daysSinceMarch (later + 1) = daysSinceMarch later +
      if later + 3 = 4 ∨ later + 3 = 6 ∨ later + 3 = 9 ∨ later + 3 = 11 then 30 else 31 := by
    decide
  rw [daysInMonth, if_neg (by omega)]
  exact hlengths months h

theorem daysBeforeMonth_add_three (year : Int) {months : Nat} (h : months < 10) :
    daysBeforeMonth year (months + 3) + 306 = daysInYear year + daysSinceMarch months := by
  induction months with
  | zero =>
    simp only [daysBeforeMonth, daysInMonth, daysInYear, daysSinceMarch]
    cases isLeapYear year <;> rfl
  | succ months ih =>
    have hstart := ih (by omega)
    have hmonth := daysSinceMarch_succ year (by omega : months < 10)
    have hlast : 1 ≤ months + 3 := by omega
    have hlater := daysBeforeMonth_succ year hlast
    rw [Nat.add_right_comm months 3 1] at hlater
    omega

/-- A date by a year that begins in March, the months since then, and the day. -/
structure MarchDate where
  year : Int
  months : Nat
  day : Nat

namespace MarchDate

def toDate (date : MarchDate) : Date :=
  if date.months < 10 then ⟨date.year, date.months + 3, date.day⟩
  else ⟨date.year + 1, date.months - 9, date.day⟩

/-- Days from 1 March of the year 0. -/
def dayNumber (date : MarchDate) : Int :=
  365 * date.year + date.year / 4 - date.year / 100 + date.year / 400 +
    (daysSinceMarch date.months + (date.day - 1) : Int)

/-- The last month has its last day only where a leap year follows. -/
structure Valid (date : MarchDate) : Prop where
  months_lt : date.months < 12
  day_pos : 1 ≤ date.day
  day_le : date.months < 11 →
    daysSinceMarch date.months + date.day ≤ daysSinceMarch (date.months + 1)
  february : date.months = 11 →
    date.day ≤ 28 ∨ date.day = 29 ∧ isLeapYear (date.year + 1) = true

theorem Valid.toDate {date : MarchDate} (h : date.Valid) : date.toDate.Valid := by
  have hmonths := h.months_lt
  unfold MarchDate.toDate
  split
  · next hearly =>
    have hlength := daysSinceMarch_succ date.year hearly
    have hday := h.day_le (by omega)
    constructor
    · dsimp only
      omega
    · dsimp only
      omega
    · exact h.day_pos
    · dsimp only
      omega
  · next hlate =>
    constructor
    · dsimp only
      omega
    · dsimp only
      omega
    · exact h.day_pos
    · rcases Nat.lt_or_eq_of_le (Nat.le_of_lt_succ hmonths) with hjanuary | hfebruary
      · have hmonth : date.months = 10 := by omega
        have hday := h.day_le hjanuary
        rw [hmonth] at hday ⊢
        exact Nat.add_le_add_iff_left.mp hday
      · have hday := h.february hfebruary
        rw [hfebruary]
        change date.day ≤ if isLeapYear (date.year + 1) then 29 else 28
        split
        · omega
        · next hcommon => exact hday.resolve_right fun hleap => hcommon hleap.2

theorem Valid.epochDay_toDate {date : MarchDate} (h : date.Valid) :
    date.toDate.epochDay = date.dayNumber - epochOffset := by
  have hmonths := h.months_lt
  have hstart := daysBeforeYear_succ date.year
  unfold daysBeforeYear at hstart
  unfold MarchDate.toDate Date.epochDay dayNumber epochOffset
  split
  · next hearly =>
    have hmonth := daysBeforeMonth_add_three date.year hearly
    dsimp only
    unfold daysBeforeYear
    omega
  · next hlate =>
    have hmonth : daysBeforeMonth (date.year + 1) (date.months - 9) + 306 =
        daysSinceMarch date.months := by
      rcases Nat.lt_or_eq_of_le (Nat.le_of_lt_succ hmonths) with hjanuary | hfebruary
      · have hmonths : date.months = 10 := by omega
        rw [hmonths]
        rfl
      · rw [hfebruary]
        rfl
    dsimp only
    unfold daysBeforeYear
    omega

end MarchDate

/-- Months since March and day, for a day of a year that begins in March. -/
def monthOfDay (dayOfYear : Nat) : Nat := (5 * dayOfYear + 2) / 153

theorem daysSinceMarch_monthOfDay (dayOfYear : Nat) :
    daysSinceMarch (monthOfDay dayOfYear) ≤ dayOfYear ∧
      dayOfYear < daysSinceMarch (monthOfDay dayOfYear + 1) := by
  unfold daysSinceMarch monthOfDay
  omega

def marchDate (day : Int) : MarchDate :=
  let place := splitCycle ((day + epochOffset) % 146097).toNat
  { year := 400 * ((day + epochOffset) / 146097) + place.1
    months := monthOfDay place.2
    day := place.2 - daysSinceMarch (monthOfDay place.2) + 1 }

theorem isDayOfCycle_marchDate (day : Int) :
    IsDayOfCycle ((day + epochOffset) % 146097).toNat
      (splitCycle ((day + epochOffset) % 146097).toNat) := by
  apply isDayOfCycle_splitCycle
  omega

theorem valid_marchDate (day : Int) : (marchDate day).Valid := by
  obtain ⟨-, hyear, hlast, hleap⟩ := isDayOfCycle_marchDate day
  have hmonth := daysSinceMarch_monthOfDay
    (splitCycle ((day + epochOffset) % 146097).toNat).2
  unfold marchDate
  constructor
  · dsimp only [monthOfDay]
    omega
  · exact Nat.le_add_left 1 _
  · intro hmonths
    dsimp only
    omega
  · intro hfebruary
    dsimp only at hfebruary ⊢
    rw [hfebruary] at hmonth ⊢
    rw [isLeapYear_iff]
    simp only [daysSinceMarch] at hmonth ⊢
    omega

theorem dayNumber_marchDate (day : Int) : (marchDate day).dayNumber = day + epochOffset := by
  obtain ⟨hday, hyear, -, -⟩ := isDayOfCycle_marchDate day
  have hmonth := daysSinceMarch_monthOfDay
    (splitCycle ((day + epochOffset) % 146097).toNat).2
  unfold marchDate MarchDate.dayNumber
  dsimp only
  generalize splitCycle ((day + epochOffset) % 146097).toNat = place at *
  have hbyFour : (400 * ((day + epochOffset) / 146097) + (place.1 : Int)) / 4 =
      100 * ((day + epochOffset) / 146097) + (place.1 / 4 : Nat) := by
    omega
  have hbyHundred : (400 * ((day + epochOffset) / 146097) + (place.1 : Int)) / 100 =
      4 * ((day + epochOffset) / 146097) + (place.1 / 100 : Nat) := by
    omega
  have hbyCycle : (400 * ((day + epochOffset) / 146097) + (place.1 : Int)) / 400 =
      (day + epochOffset) / 146097 := by
    omega
  omega

theorem ofEpochDay_eq_toDate (day : Int) : Date.ofEpochDay day = (marchDate day).toDate := by
  have hmonths : monthOfDay (splitCycle ((day + epochOffset) % 146097).toNat).2 < 12 :=
    (valid_marchDate day).months_lt
  unfold Date.ofEpochDay monthAndDay MarchDate.toDate marchDate
  dsimp only
  unfold monthOfDay at hmonths ⊢
  split
  · rw [if_neg (by omega)]
    rfl
  · rw [if_pos (by omega)]
    rfl

theorem valid_ofEpochDay (day : Int) : (Date.ofEpochDay day).Valid := by
  rw [ofEpochDay_eq_toDate]
  exact (valid_marchDate day).toDate

/-- The date of a day lies as many days after 1 January 1970. -/
@[simp] theorem epochDay_ofEpochDay (day : Int) : (Date.ofEpochDay day).epochDay = day := by
  rw [ofEpochDay_eq_toDate, (valid_marchDate day).epochDay_toDate, dayNumber_marchDate]
  exact Int.add_sub_cancel day epochOffset

theorem Date.Valid.ofEpochDay_epochDay {date : Date} (h : date.Valid) :
    Date.ofEpochDay date.epochDay = date := by
  apply (valid_ofEpochDay date.epochDay).eq_of_epochDay_eq h
  rw [epochDay_ofEpochDay]

/-- Day after day, the dates go through the calendar. -/
theorem ofEpochDay_succ (day : Int) :
    Date.ofEpochDay (day + 1) = (Date.ofEpochDay day).next := by
  have hvalid := valid_ofEpochDay day
  rw [← hvalid.next.ofEpochDay_epochDay, hvalid.epochDay_next, epochDay_ofEpochDay]

/-! The calendar, day by day. -/

/-- Dates and days of the week, one day after another in both directions from 1 January 1970, a
Thursday. -/
inductive IsDay : Int → Date → Nat → Prop where
  | epoch : IsDay 0 ⟨1970, 1, 1⟩ 4
  | after {day : Int} {date : Date} {weekday : Nat} :
    IsDay day date weekday → IsDay (day + 1) date.next ((weekday + 1) % 7)
  | before {day : Int} {date : Date} {weekday : Nat} (hdate : date.Valid) (hweekday : weekday < 7) :
    IsDay (day + 1) date.next ((weekday + 1) % 7) → IsDay day date weekday

theorem weekday_succ (day : Int) : weekday (day + 1) = (weekday day + 1) % 7 := by
  unfold weekday
  omega

theorem weekday_lt (day : Int) : weekday day < 7 := by
  unfold weekday
  omega

theorem isDay_ofEpochDay (day : Int) : IsDay day (Date.ofEpochDay day) (weekday day) := by
  induction day using Int.induction_on with
  | zero => exact .epoch
  | succ day ih =>
    have hnext := ih.after
    rwa [← ofEpochDay_succ, ← weekday_succ] at hnext
  | pred day ih =>
    have hday : -(day : Int) = -(day : Int) - 1 + 1 := (Int.sub_add_cancel _ 1).symm
    rw [hday, ofEpochDay_succ, weekday_succ] at ih
    exact .before (valid_ofEpochDay _) (weekday_lt _) ih

theorem isDay_iff {day : Int} {date : Date} {weekday : Nat} :
    IsDay day date weekday ↔ date = Date.ofEpochDay day ∧ weekday = Calendar.weekday day := by
  constructor
  · intro h
    induction h with
    | epoch => decide
    | after _ ih =>
      rw [ih.1, ih.2, ofEpochDay_succ, weekday_succ]
      exact ⟨rfl, rfl⟩
    | @before day date weekday hdate hweekday _ ih =>
      have hcount := hdate.epochDay_next
      rw [ih.1, epochDay_ofEpochDay] at hcount
      have hday : day = date.epochDay := by omega
      refine ⟨?_, ?_⟩
      · rw [hday, hdate.ofEpochDay_epochDay]
      · have hnext := ih.2
        rw [weekday_succ] at hnext
        have hlt := weekday_lt day
        omega
  · rintro ⟨rfl, rfl⟩
    exact isDay_ofEpochDay day

end ResumeTerminal.Calendar
