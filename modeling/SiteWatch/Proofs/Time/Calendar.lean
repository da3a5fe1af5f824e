/-
# The calendar

Year, month and day of the month name a day: those of a day in the representable range lie in the
bounds of the calendar and lead back to the day. An era of four hundred years is cut into centuries,
spells of four years and years, each of which has one length but for the last of its kind.
-/

import SiteWatch.Time.Date

namespace SiteWatch.Date

/-- Where a day stands in its era. Only the last year of a spell has a leap day, and of the last
spells of the centuries only that of the last one. -/
structure PlaceInEra where
  century : Int
  spell : Int
  year : Int
  /-- The day of the year, which begins in March. -/
  day : Int
  century_bounds : 0 ≤ century ∧ century ≤ 3
  spell_bounds : 0 ≤ spell ∧ spell ≤ 24
  year_bounds : 0 ≤ year ∧ year ≤ 3
  day_bounds : 0 ≤ day ∧ day ≤ 365
  leap : day = 365 → year = 3 ∧ (spell = 24 → century = 3)

namespace PlaceInEra

/-- The day, counted from the first of the era. -/
def dayOfEra (p : PlaceInEra) : Int := 36524 * p.century + 1461 * p.spell + 365 * p.year + p.day

/-- The year, counted from the first of the era. -/
def yearOfEra (p : PlaceInEra) : Int := 100 * p.century + 4 * p.spell + p.year

/-- The month, counted from March. -/
def month (p : PlaceInEra) : Int := (5 * p.day + 2) / 153

/-- The year of the calendar, which begins in January. -/
def civilYear (p : PlaceInEra) (era : Int) : Int :=
  400 * era + p.yearOfEra + (if p.month < 10 then 0 else 1)

/-- The month of the calendar. -/
def civilMonth (p : PlaceInEra) : Nat :=
  (if p.month < 10 then p.month + 3 else p.month - 9).toNat

/-- The day of the month. -/
def civilDay (p : PlaceInEra) : Nat := (p.day - (153 * p.month + 2) / 5 + 1).toNat

theorem civilMonth_bounds (p : PlaceInEra) : 1 ≤ p.civilMonth ∧ p.civilMonth ≤ 12 := by
  have hday := p.day_bounds
  have hmonth : p.month = (5 * p.day + 2) / 153 := rfl
  simp only [civilMonth]
  split <;> omega

theorem one_le_civilDay (p : PlaceInEra) : 1 ≤ p.civilDay := by
  have hday := p.day_bounds
  have hmonth : p.month = (5 * p.day + 2) / 153 := rfl
  simp only [civilDay]
  omega

/-- The last day of a year that begins in March is a leap day only before the end of a leap year. -/
theorem isLeapYear_of_day (era : Int) {p : PlaceInEra} (hday : p.day = 365) :
    isLeapYear (400 * era + p.yearOfEra + 1) = true := by
  obtain ⟨hyear, hspell⟩ := p.leap hday
  have hcenturies := p.century_bounds
  have hspells := p.spell_bounds
  simp only [isLeapYear, yearOfEra, hyear, ← Int.mod_def', Bool.and_eq_true, Bool.or_eq_true,
    beq_iff_eq, bne_iff_ne]
  omega

/-- No month has more days than it may have. -/
theorem civilDay_le_daysInMonth (p : PlaceInEra) (era : Int) :
    p.civilDay ≤ daysInMonth (p.civilYear era) p.civilMonth := by
  have hbounds := p.day_bounds
  have hmonth : p.month = (5 * p.day + 2) / 153 := rfl
  have hmonths : p.month = 0 ∨ p.month = 1 ∨ p.month = 2 ∨ p.month = 3 ∨ p.month = 4 ∨
      p.month = 5 ∨ p.month = 6 ∨ p.month = 7 ∨ p.month = 8 ∨ p.month = 9 ∨ p.month = 10 ∨
      p.month = 11 := by omega
  simp only [civilDay, civilYear, civilMonth]
  rcases hmonths with h | h | h | h | h | h | h | h | h | h | h | h
  case inr.inr.inr.inr.inr.inr.inr.inr.inr.inr.inr =>
    -- February, the last month of its year here.
    by_cases hday : p.day = 365
    · simp [h, daysInMonth, isLeapYear_of_day era hday]
      omega
    · simp only [h, daysInMonth, Int.reduceLT, if_false, Int.reduceSub, Int.reduceToNat]
      split <;> omega
  all_goals
    simp [h, daysInMonth]
    omega

/-- The first representable day is the first of January of its year, and what comes before it is
found part by part. -/
theorem minYear_le_civilYear {p : PlaceInEra} {era : Int}
    (hfirst : first.day + 719468 ≤ 146097 * era + p.dayOfEra) : minYear ≤ p.civilYear era := by
  have hbounds := p.day_bounds
  have hcenturies := p.century_bounds
  have hspells := p.spell_bounds
  have hyears := p.year_bounds
  have hmonth : p.month = (5 * p.day + 2) / 153 := rfl
  have hday : first.day = -96465292 := by decide
  simp only [dayOfEra, hday] at hfirst
  simp only [minYear, civilYear, yearOfEra]
  rcases Int.lt_or_eq_of_le (show -656 ≤ era by omega) with hera | hera
  · split <;> omega
  rcases Int.lt_or_eq_of_le (show 2 ≤ p.century by omega) with hcentury | hcentury
  · split <;> omega
  rcases Int.lt_or_eq_of_le (show 14 ≤ p.spell by omega) with hspell | hspell
  · split <;> omega
  · split <;> omega

/-- The last representable day is the last of December of its year, and what comes after it is found
part by part. -/
theorem civilYear_le_maxYear {p : PlaceInEra} {era : Int}
    (hlast : 146097 * era + p.dayOfEra ≤ last.day + 719468) : p.civilYear era ≤ maxYear := by
  have hbounds := p.day_bounds
  have hcenturies := p.century_bounds
  have hspells := p.spell_bounds
  have hyears := p.year_bounds
  have hmonth : p.month = (5 * p.day + 2) / 153 := rfl
  have hday : last.day = 95026236 := by decide
  simp only [dayOfEra, hday] at hlast
  simp only [maxYear, civilYear, yearOfEra]
  rcases Int.lt_or_eq_of_le (show era ≤ 655 by omega) with hera | hera
  · split <;> omega
  rcases Int.lt_or_eq_of_le (show p.century ≤ 1 by omega) with hcentury | hcentury
  · split <;> omega
  rcases Int.lt_or_eq_of_le (show p.spell ≤ 10 by omega) with hspell | hspell
  · split <;> omega
  · split <;> omega

/-- The parts of a day lead back to it. -/
theorem ofCivil_civil {p : PlaceInEra} {era : Int} {date : Date}
    (hday : date.day + 719468 = 146097 * era + p.dayOfEra) :
    ofCivil (p.civilYear era) p.civilMonth p.civilDay = date := by
  have hbounds := p.day_bounds
  have hcenturies := p.century_bounds
  have hspells := p.spell_bounds
  have hyears := p.year_bounds
  have hmonth : p.month = (5 * p.day + 2) / 153 := rfl
  have hshifted : (if p.civilMonth ≤ 2 then p.civilYear era - 1 else p.civilYear era) =
      400 * era + p.yearOfEra := by
    simp only [civilMonth, civilYear]
    split <;> split at * <;> omega
  have hera : (400 * era + p.yearOfEra) / 400 = era := by
    simp only [yearOfEra]
    omega
  have hback : ((p.civilMonth : Int) + 9) % 12 = p.month := by
    simp only [civilMonth]
    split <;> omega
  simp only [ofCivil, ← Int.div_def, ← Int.mod_def']
  rw [hshifted, hera, hback]
  cases date
  simp only [dayOfEra, yearOfEra, civilDay, Date.mk.injEq] at hday ⊢
  omega

end PlaceInEra

/-- Every day of an era has its place, and its year is what the calendar computes. -/
theorem exists_placeInEra {z : Int} (hlow : 0 ≤ z) (hhigh : z ≤ 146096) :
    ∃ p : PlaceInEra, p.dayOfEra = z ∧
      (z - z / 1460 + z / 36524 - z / 146096) / 365 = p.yearOfEra := by
  obtain ⟨c, hc⟩ : ∃ c, c = if z = 146096 then 3 else z / 36524 := ⟨_, rfl⟩
  obtain ⟨q, hq⟩ : ∃ q, q = (z - 36524 * c) / 1461 := ⟨_, rfl⟩
  obtain ⟨s, hs⟩ : ∃ s, s = z - 36524 * c - 1461 * q := ⟨_, rfl⟩
  obtain ⟨n, hn⟩ : ∃ n, n = if s = 1460 then 3 else s / 365 := ⟨_, rfl⟩
  have hcenturies : 0 ≤ c ∧ c ≤ 3 := by split at hc <;> omega
  have hcentury : 36524 * c ≤ z ∧ z ≤ 36524 * c + 36524 := by split at hc <;> omega
  have hspells : 0 ≤ q ∧ q ≤ 24 := by omega
  have hspell : 0 ≤ s ∧ s ≤ 1460 := by omega
  have hyears : 0 ≤ n ∧ n ≤ 3 := by split at hn <;> omega
  have hyear : 365 * n ≤ s ∧ s ≤ 365 * n + 365 := by split at hn <;> omega
  have hleap : s - 365 * n = 365 → n = 3 ∧ (q = 24 → c = 3) := by
    split at hc <;> split at hn <;> omega
  refine ⟨⟨c, q, n, s - 365 * n, hcenturies, hspells, hyears, by omega, hleap⟩, ?_, ?_⟩
  · simp only [PlaceInEra.dayOfEra]
    omega
  · -- The quotient by 1460 counts the spells, and one more near the end of a spell.
    have h1460 : z / 1460 = 25 * c + q + if 24 * c + q + s ≥ 1460 then 1 else 0 := by
      split <;> omega
    have hrest : z / 36524 - z / 146096 = c := by split at hc <;> omega
    simp only [PlaceInEra.yearOfEra, h1460]
    split <;> split at hn <;> omega

/-- Every day has its era and its place there, which give year, month and day of the month. -/
theorem exists_civil_eq (date : Date) :
    ∃ (era : Int) (p : PlaceInEra), date.day + 719468 = 146097 * era + p.dayOfEra ∧
      date.civil = (p.civilYear era, p.civilMonth, p.civilDay) := by
  obtain ⟨p, hday, hyear⟩ := exists_placeInEra (z := date.day + 719468
    - (date.day + 719468) / 146097 * 146097) (by omega) (by omega)
  refine ⟨(date.day + 719468) / 146097, p, by omega, ?_⟩
  have hbounds := p.day_bounds
  have hcenturies := p.century_bounds
  have hspells := p.spell_bounds
  have hyears := p.year_bounds
  have hdayOfYear : p.dayOfEra - (365 * p.yearOfEra + p.yearOfEra / 4 - p.yearOfEra / 100) =
      p.day := by
    simp only [PlaceInEra.dayOfEra, PlaceInEra.yearOfEra]
    omega
  simp only [civil, ← Int.div_def]
  rw [hyear, ← hday, hdayOfYear]
  simp only [PlaceInEra.civilYear, PlaceInEra.civilMonth, PlaceInEra.civilDay, PlaceInEra.month,
    Prod.mk.injEq]
  refine ⟨?_, rfl, trivial⟩
  split <;> split <;> omega

/-- Year, month and day of the month of a representable day lie in the bounds of the calendar and
lead back to the day. -/
theorem ofCivil?_civil {date : Date} (hrange : date.inRange = true) :
    ofCivil? date.civil.1 date.civil.2.1 date.civil.2.2 = some date := by
  obtain ⟨era, p, hday, hcivil⟩ := exists_civil_eq date
  simp only [inRange, Bool.and_eq_true, decide_eq_true_eq] at hrange
  have hleast : minYear ≤ p.civilYear era := PlaceInEra.minYear_le_civilYear (by omega)
  have hmost : p.civilYear era ≤ maxYear := PlaceInEra.civilYear_le_maxYear (by omega)
  rw [hcivil, ofCivil?, if_pos ⟨hleast, hmost, p.civilMonth_bounds.1, p.civilMonth_bounds.2,
    p.one_le_civilDay, p.civilDay_le_daysInMonth era⟩, PlaceInEra.ofCivil_civil hday]

end SiteWatch.Date
