import Fingerprint.Calendar
import Mathlib.Order.Monotone.Basic
import Mathlib.Tactic.IntervalCases

/-!
# The Gregorian calendar

Which year has a leap day, how long the months are, and on which day a year
begins: from that the days are numbered, the first of January 1970 being day
zero. In the order of years, months and days of the month, later dates have
larger numbers, so a number belongs to one date at most.

Timestamps find the date of a day by dividing. They count years from the first
of March, so that a leap day is the last of its year, in eras of 400 years.
An era falls into centuries of 36524 days, a century into cycles of 1461 days,
and a cycle into years of 365 days, where only the last one of each may be
longer. What is found that way is the date that has the number of the day.

* `Calendar.isLeap`, `Calendar.daysInMonth`, `Calendar.yearStart`: the rules of the calendar;
* `Calendar.Date.toDays`, `Calendar.Date.toDays_lt_toDays`: the numbers of dates;
* `Calendar.Date.valid_ofDays`, `Calendar.Date.toDays_ofDays`: the date of a day is the right one;
* `Calendar.Date.before_of_lt`: later days have later dates.
-/

namespace Fingerprint

namespace Calendar

/-! ## Years and months -/

/-- Whether a year has a leap day: every fourth one, but of the full centuries only every fourth. -/
def isLeap (year : Int) : Bool := year % 4 = 0 && (year % 100 ≠ 0 || year % 400 = 0)

/-- How many days a month has. -/
def daysInMonth (year : Int) : (month : Nat) → Nat
  | 2 => if isLeap year then 29 else 28
  | 4 | 6 | 9 | 11 => 30
  | _ => 31

/-- How many days of a year go before a month. -/
def daysBefore (year : Int) : (month : Nat) → Nat
  | 0 | 1 => 0
  | month + 2 => daysBefore year (month + 1) + daysInMonth year (month + 1)

/-- The day on which a year begins. Before 1970 there were 477 leap days since the year one. -/
def yearStart (year : Int) : Int :=
  365 * (year - 1970) + ((year - 1) / 4 - (year - 1) / 100 + (year - 1) / 400 - 477)

variable {year : Int} {month : Nat}

theorem isLeap_iff : isLeap year = true ↔ year % 4 = 0 ∧ (year % 100 ≠ 0 ∨ year % 400 = 0) := by
  simp [isLeap]

theorem yearStart_add_one (year : Int) :
    yearStart (year + 1) = yearStart year + if isLeap year then 366 else 365 := by
  simp only [yearStart, isLeap_iff]
  split <;> omega

theorem yearStart_le_yearStart {next : Int} (h : year ≤ next) : yearStart year ≤ yearStart next := by
  have hmono : Monotone yearStart := monotone_int_of_le_succ fun year => by
    rw [yearStart_add_one]
    split <;> omega
  exact hmono h

theorem daysBefore_add_one (h : 1 ≤ month) :
    daysBefore year (month + 1) = daysBefore year month + daysInMonth year month := by
  obtain ⟨month, rfl⟩ := Nat.exists_eq_add_of_le' h
  rfl

theorem daysBefore_mono (year : Int) : Monotone (daysBefore year) := monotone_nat_of_le_succ fun month => by
  rcases month with _ | month
  · exact Nat.le_refl 0
  · exact Nat.le_add_right ..

/-- With its twelve months a year is over. -/
theorem yearStart_add_daysBefore (year : Int) : yearStart year + daysBefore year 13 = yearStart (year + 1) := by
  rw [yearStart_add_one]
  simp only [daysBefore, daysInMonth]
  split <;> omega

/-! ## Months from March

The lengths of the months from March on repeat after five months, which have
153 days together. -/

theorem daysInMonth_add_three (year : Int) (h : month < 10) :
    (153 * month + 2) / 5 + daysInMonth year (month + 3) = (153 * (month + 1) + 2) / 5 := by
  interval_cases month <;> rfl

theorem daysBefore_add_three (year : Int) (h : month < 10) :
    daysBefore year (month + 3) = (if isLeap year then 60 else 59) + (153 * month + 2) / 5 := by
  induction month with
  | zero =>
    simp only [daysBefore, daysInMonth]
    split <;> rfl
  | succ month ih =>
    have hlength := daysInMonth_add_three year (Nat.lt_of_succ_lt h)
    have hstep : daysBefore year (month + 1 + 3) = daysBefore year (month + 3) + daysInMonth year (month + 3) := rfl
    rw [hstep, ih (Nat.lt_of_succ_lt h)]
    omega

/-! ## Dates -/

namespace Date

/-- There is such a date. -/
structure Valid (date : Date) : Prop where
  month_pos : 1 ≤ date.month
  month_le : date.month ≤ 12
  day_pos : 1 ≤ date.day
  day_le : date.day ≤ daysInMonth date.year date.month

/-- The number of the day that has a date. -/
def toDays (date : Date) : Int := yearStart date.year + daysBefore date.year date.month + date.day - 1

/-- Whether a date is earlier than another. -/
def Before (date other : Date) : Prop :=
  date.year < other.year ∨ date.year = other.year ∧
    (date.month < other.month ∨ date.month = other.month ∧ date.day < other.day)

variable {date other : Date}

theorem Valid.yearStart_le_toDays (h : date.Valid) : yearStart date.year ≤ date.toDays := by
  have hday := h.day_pos
  unfold toDays
  omega

/-- A date comes before the next month begins. -/
theorem Valid.toDays_lt_of_month_lt (h : date.Valid) (hmonth : date.month < month) :
    date.toDays < yearStart date.year + daysBefore date.year month := by
  have hday := h.day_le
  have hnext := daysBefore_mono date.year (Nat.succ_le_of_lt hmonth)
  rw [Nat.succ_eq_add_one, daysBefore_add_one h.month_pos] at hnext
  unfold toDays
  omega

theorem toDays_lt_toDays (h : date.Valid) (hother : other.Valid) (hbefore : date.Before other) :
    date.toDays < other.toDays := by
  rcases hbefore with hyear | ⟨hyear, hmonth | ⟨hmonth, hday⟩⟩
  · calc date.toDays < yearStart date.year + daysBefore date.year 13 :=
          h.toDays_lt_of_month_lt (Nat.lt_succ_of_le h.month_le)
      _ = yearStart (date.year + 1) := yearStart_add_daysBefore _
      _ ≤ yearStart other.year := yearStart_le_yearStart hyear
      _ ≤ other.toDays := hother.yearStart_le_toDays
  · have hlt := h.toDays_lt_of_month_lt hmonth
    have hpos := hother.day_pos
    rw [hyear] at hlt
    unfold toDays at hlt ⊢
    omega
  · unfold toDays
    rw [hyear, hmonth]
    omega

/-! ### The date of a day -/

/-- The date that is `day` days after the first of March of a year. -/
def ofMarch (year : Int) (day : Nat) : Date :=
  let month := (5 * day + 2) / 153
  if month < 10 then ⟨year, month + 3, day - (153 * month + 2) / 5 + 1⟩
  else ⟨year + 1, month - 9, day - (153 * month + 2) / 5 + 1⟩

theorem ofMarch_spec {day : Nat} (hday : day ≤ 365) (hleap : day = 365 → isLeap (year + 1) = true) :
    (ofMarch year day).Valid ∧ (ofMarch year day).toDays + 306 = yearStart (year + 1) + day := by
  unfold ofMarch
  have hmonth : (5 * day + 2) / 153 ≤ 11 := by omega
  generalize hm : (5 * day + 2) / 153 = month at hmonth ⊢
  by_cases hten : month < 10
  · have hlength := daysInMonth_add_three year hten
    have hbefore := daysBefore_add_three year hten
    have hvalid : day - (153 * month + 2) / 5 + 1 ≤ daysInMonth year (month + 3) := by omega
    simp only [if_pos hten, toDays, hbefore, yearStart_add_one]
    refine ⟨⟨Nat.le_add_left .., Nat.add_le_add_right (Nat.le_of_lt_succ hten) 3, Nat.le_add_left .., hvalid⟩, ?_⟩
    split <;> omega
  · -- January and February belong to the year that is counted from the March before.
    rw [if_neg hten]
    have hcases : month = 10 ∨ month = 11 := by omega
    rcases hcases with rfl | rfl
    · have hvalid : day - 306 + 1 ≤ 31 := by omega
      refine ⟨⟨Nat.le_refl 1, Nat.le_add_left .., Nat.le_add_left .., hvalid⟩, ?_⟩
      simp only [toDays, Nat.reduceSub, daysBefore]
      omega
    · have hvalid : day - 337 + 1 ≤ if isLeap (year + 1) then 29 else 28 := by
        split
        case isTrue => omega
        case isFalse hshort =>
          have hne : day ≠ 365 := fun hlong => hshort (hleap hlong)
          omega
      refine ⟨⟨Nat.le_add_left .., Nat.le_add_left .., Nat.le_add_left .., hvalid⟩, ?_⟩
      simp only [toDays, Nat.reduceSub, daysBefore, daysInMonth]
      omega

end Date

/-- A day of an era is one of a year, in a cycle, in a century. Only the last year of a cycle has a day
    more, unless it ends a century other than the last. -/
theorem exists_cycles {dayOfEra : Nat} (h : dayOfEra < 146097) :
    ∃ century cycle year day, century ≤ 3 ∧ cycle ≤ 24 ∧ year ≤ 3 ∧ day ≤ 365 ∧
      (day = 365 → year = 3 ∧ (cycle = 24 → century = 3)) ∧
      dayOfEra = 36524 * century + 1461 * cycle + 365 * year + day := by
  -- The quotient is four on the last day of the era, which belongs to the fourth century still.
  have hcentury : min (dayOfEra / 36524) 3 ≤ 3 := Nat.min_le_right ..
  generalize hc : min (dayOfEra / 36524) 3 = century at hcentury
  have hrest : (dayOfEra - 36524 * century) % 1461 ≤ 1460 := by omega
  generalize hr : (dayOfEra - 36524 * century) % 1461 = rest at hrest
  have hyear : min (rest / 365) 3 ≤ 3 := Nat.min_le_right ..
  generalize hy : min (rest / 365) 3 = year at hyear
  refine ⟨century, (dayOfEra - 36524 * century) / 1461, year, rest - 365 * year, ?_⟩
  omega

section Cycles

variable {century cycle yearOfCycle day : Nat} (hcentury : century ≤ 3) (hcycle : cycle ≤ 24) (hyear : yearOfCycle ≤ 3)

include hcentury hcycle hyear

/-- The division by which the year of an era is found leaves out the days that are too many. -/
theorem yearOfEra_eq (hday : day ≤ 365) (hlast : day = 365 → yearOfCycle = 3 ∧ (cycle = 24 → century = 3)) :
    let dayOfEra := 36524 * century + 1461 * cycle + 365 * yearOfCycle + day
    (dayOfEra - dayOfEra / 1460 + dayOfEra / 36524 - dayOfEra / 146096) / 365 =
      100 * century + 4 * cycle + yearOfCycle := by
  intro dayOfEra
  have hcenturies : dayOfEra / 36524 - dayOfEra / 146096 = century ∧ dayOfEra / 146096 ≤ dayOfEra / 36524 := by
    omega
  have hleaps : dayOfEra / 1460 =
      25 * century + cycle + (cycle + 365 * yearOfCycle + day + 24 * century) / 1460 := by
    omega
  have hextra : (cycle + 365 * yearOfCycle + day + 24 * century) / 1460 ≤ 1 := by omega
  omega

/-- What is left of the days of an era when those of the years before are taken off. -/
theorem dayOfYear_eq (day : Nat) :
    let yearOfEra := 100 * century + 4 * cycle + yearOfCycle
    36524 * century + 1461 * cycle + 365 * yearOfCycle + day -
      (365 * yearOfEra + yearOfEra / 4 - yearOfEra / 100) = day := by
  intro yearOfEra
  have hfourths : yearOfEra / 4 = 25 * century + cycle := by omega
  have hhundredths : yearOfEra / 100 = century := by omega
  omega

/-- The first of March is 306 days before the next year begins. -/
theorem yearStart_cycles (era : Int) :
    yearStart ((100 * century + 4 * cycle + yearOfCycle : Nat) + era * 400 + 1) =
      146097 * era + 36524 * century + 1461 * cycle + 365 * yearOfCycle - 719162 := by
  generalize hyears : 100 * century + 4 * cycle + yearOfCycle = years
  have hfourths : (years + era * 400 + 1 - 1 : Int) / 4 = 25 * century + cycle + 100 * era := by omega
  have hhundredths : (years + era * 400 + 1 - 1 : Int) / 100 = century + 4 * era := by omega
  have heras : (years + era * 400 + 1 - 1 : Int) / 400 = era := by omega
  rw [yearStart, hfourths, hhundredths, heras]
  omega

omit hcentury hcycle hyear in
theorem isLeap_cycles (hlast : yearOfCycle = 3 ∧ (cycle = 24 → century = 3)) (hcycle : cycle ≤ 24) (era : Int) :
    isLeap ((100 * century + 4 * cycle + yearOfCycle : Nat) + era * 400 + 1) = true := by
  rw [isLeap_iff]
  omega

end Cycles

namespace Date

theorem exists_ofDays_eq_ofMarch (days : Int) :
    ∃ (year : Int) (day : Nat), day ≤ 365 ∧ (day = 365 → isLeap (year + 1) = true) ∧
      days + 306 = yearStart (year + 1) + day ∧ ofDays days = ofMarch year day := by
  have hrange : ((days + 719468) % 146097).toNat < 146097 := by omega
  have hdays : days = (days + 719468) / 146097 * 146097 + ((days + 719468) % 146097).toNat - 719468 := by omega
  generalize hera : (days + 719468) / 146097 = era at hdays
  generalize hdayOfEra : ((days + 719468) % 146097).toNat = dayOfEra at hrange hdays
  obtain ⟨century, cycle, yearOfCycle, day, hcentury, hcycle, hyear, hday, hlast, rfl⟩ := exists_cycles hrange
  refine ⟨(100 * century + 4 * cycle + yearOfCycle : Nat) + era * 400, day, hday, fun hlong => ?_, ?_, ?_⟩
  · exact isLeap_cycles (hlast hlong) hcycle era
  · have hstart := yearStart_cycles hcentury hcycle hyear era
    clear hera hdayOfEra hlast
    omega
  · have hyearOfEra := yearOfEra_eq hcentury hcycle hyear hday hlast
    have hdayOfYear := dayOfYear_eq hcentury hcycle hyear day
    simp only at hyearOfEra hdayOfYear
    simp only [ofDays, hera, hdayOfEra, hyearOfEra, hdayOfYear, ofMarch]
    have hmonth : (5 * day + 2) / 153 ≤ 11 := by omega
    generalize (5 * day + 2) / 153 = month at hmonth ⊢
    by_cases hten : month < 10
    · rw [if_pos hten, if_pos hten, if_neg (by omega), Int.add_zero]
    · rw [if_neg hten, if_neg hten, if_pos (by omega)]

/-- The date of a day is one that there is. -/
theorem valid_ofDays (days : Int) : (ofDays days).Valid := by
  obtain ⟨year, day, hday, hleap, -, heq⟩ := exists_ofDays_eq_ofMarch days
  rw [heq]
  exact (ofMarch_spec hday hleap).1

/-- The date of a day has its number. -/
theorem toDays_ofDays (days : Int) : (ofDays days).toDays = days := by
  obtain ⟨year, day, hday, hleap, hdays, heq⟩ := exists_ofDays_eq_ofMarch days
  have hnumber := (ofMarch_spec hday hleap).2
  rw [heq]
  omega

theorem before_of_lt {days later : Int} (h : days < later) : (ofDays days).Before (ofDays later) := by
  -- Dates are in a linear order, and the two other cases would turn the days around.
  have hnot : ¬(ofDays later).Before (ofDays days) := fun hbefore => by
    have hlt := toDays_lt_toDays (valid_ofDays later) (valid_ofDays days) hbefore
    rw [toDays_ofDays, toDays_ofDays] at hlt
    exact absurd hlt (by omega)
  have hne : ofDays days ≠ ofDays later := fun heq => by
    have hsame := congrArg toDays heq
    rw [toDays_ofDays, toDays_ofDays] at hsame
    exact absurd hsame (by omega)
  generalize ofDays days = date at hnot hne ⊢
  generalize ofDays later = other at hnot hne ⊢
  obtain ⟨year, month, day⟩ := date
  obtain ⟨year', month', day'⟩ := other
  simp only [Before, ne_eq, mk.injEq] at hnot hne ⊢
  omega

end Date

end Calendar

end Fingerprint
