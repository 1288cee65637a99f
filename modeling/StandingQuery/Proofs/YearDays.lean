import Mathlib.Tactic.Ring
import StandingQuery.Time.Calendar

/-!
# Days of the year

Month and day of the month are decided by the day of the year, when years are taken to begin in March. `Date.Placed` says
where a day stands: its era of 400 years, the century in the era, the group of four years in the century, the year in the
group and the day of the year. Every day has a place, and every place is that of a day, so that a day of the year recurs at
least every eight years (`Date.recurs`).
-/

namespace StandingQuery

namespace Date

/-- Where a day stands. The last day of the year is there only in leap years: the last year of a group of four, except that of
the last group of a century, unless the century is the last of its era. -/
structure Placed (days era century four year dayOfYear : Int) : Prop where
  sum : days + 719468 = 146097 * era + 36524 * century + 1461 * four + 365 * year + dayOfYear
  century_nonneg : 0 ≤ century
  century_le : century ≤ 3
  four_nonneg : 0 ≤ four
  four_le : four ≤ 24
  year_nonneg : 0 ≤ year
  year_le : year ≤ 3
  day_nonneg : 0 ≤ dayOfYear
  day_le : dayOfYear ≤ 364 ∨ dayOfYear = 365 ∧ year = 3 ∧ (four ≤ 23 ∨ century = 3)

/-- The day of the month on a day of the year. -/
def dayOfMonth (dayOfYear : Int) : Int := dayOfYear - (153 * ((5 * dayOfYear + 2) / 153) + 2) / 5 + 1

/-- The month on a day of the year. -/
def monthOf (dayOfYear : Int) : Int :=
  if (5 * dayOfYear + 2) / 153 < 10 then (5 * dayOfYear + 2) / 153 + 3 else (5 * dayOfYear + 2) / 153 - 9

/-- Every day of an era has its place there. -/
theorem exists_place_in_era {dayOfEra : Int} (h : 0 ≤ dayOfEra) (h' : dayOfEra < 146097) :
    ∃ century four year dayOfYear : Int, dayOfEra = 36524 * century + 1461 * four + 365 * year + dayOfYear ∧
      0 ≤ century ∧ century ≤ 3 ∧ 0 ≤ four ∧ four ≤ 24 ∧ 0 ≤ year ∧ year ≤ 3 ∧ 0 ≤ dayOfYear ∧
        (dayOfYear ≤ 364 ∨ dayOfYear = 365 ∧ year = 3 ∧ (four ≤ 23 ∨ century = 3)) := by
  obtain ⟨century, hcentury⟩ : ∃ century, century = dayOfEra / 36524 - dayOfEra / 146096 := ⟨_, rfl⟩
  obtain ⟨four, hfour⟩ : ∃ four, four = (dayOfEra - 36524 * century) / 1461 := ⟨_, rfl⟩
  obtain ⟨year, hyear⟩ : ∃ year, year = (dayOfEra - 36524 * century - 1461 * four) / 365 -
    (dayOfEra - 36524 * century - 1461 * four) / 1460 := ⟨_, rfl⟩
  refine ⟨century, four, year, dayOfEra - 36524 * century - 1461 * four - 365 * year, ?_⟩
  have hbounds : 0 ≤ century ∧ century ≤ 3 := by omega
  have hrest : 0 ≤ dayOfEra - 36524 * century ∧
      (dayOfEra - 36524 * century ≤ 36523 ∨ (dayOfEra - 36524 * century = 36524 ∧ century = 3)) := by omega
  clear hcentury h h'
  omega

/-- Every day has a place. -/
theorem exists_placed (days : Int) : ∃ era century four year dayOfYear, Placed days era century four year dayOfYear := by
  have h : 0 ≤ (days + 719468) % 146097 := by omega
  have h' : (days + 719468) % 146097 < 146097 := by omega
  obtain ⟨century, four, year, dayOfYear, hday, hc, hc', hf, hf', hy, hy', hd, hd'⟩ := exists_place_in_era h h'
  refine ⟨(days + 719468) / 146097, century, four, year, dayOfYear, ?_, hc, hc', hf, hf', hy, hy', hd, hd'⟩
  have hsplit := Int.mul_ediv_add_emod (days + 719468) 146097
  omega

/-- The century is recovered from the day of the era. -/
theorem century_eq {century inCentury : Int} (hcentury : 0 ≤ century) (hcentury' : century ≤ 3) (hin : 0 ≤ inCentury)
    (hin' : inCentury ≤ 36523 ∨ inCentury = 36524 ∧ century = 3) :
    (36524 * century + inCentury) / 36524 - (36524 * century + inCentury) / 146096 = century := by
  rcases hin' with hin' | ⟨rfl, rfl⟩
  · have hfirst : (36524 * century + inCentury) / 36524 = century := by omega
    have hsecond : (36524 * century + inCentury) / 146096 = 0 := by omega
    rw [hfirst, hsecond, Int.sub_zero]
  · rfl

/-- The year of the era is recovered from the day of the era. -/
theorem yearOfEra_eq {century four year dayOfYear dayOfEra : Int} (hc : 0 ≤ century) (hc' : century ≤ 3) (hf : 0 ≤ four)
    (hf' : four ≤ 24) (hy : 0 ≤ year) (hy' : year ≤ 3) (hd : 0 ≤ dayOfYear)
    (hd' : dayOfYear ≤ 364 ∨ dayOfYear = 365 ∧ year = 3 ∧ (four ≤ 23 ∨ century = 3))
    (hday : dayOfEra = 36524 * century + 1461 * four + 365 * year + dayOfYear) :
    (dayOfEra - dayOfEra / 1460 + dayOfEra / 36524 - dayOfEra / 146096) / 365 = 100 * century + 4 * four + year := by
  have hcentury : dayOfEra / 36524 - dayOfEra / 146096 = century := by
    have hrest : (36524 * century + (1461 * four + 365 * year + dayOfYear)) / 36524 -
        (36524 * century + (1461 * four + 365 * year + dayOfYear)) / 146096 = century :=
      century_eq hc hc' (by omega) (by omega)
    have hsum : 36524 * century + (1461 * four + 365 * year + dayOfYear) = dayOfEra := by
      rw [hday]
      ring
    rwa [hsum] at hrest
  have hgroups : dayOfEra / 1460 = 25 * century + four + (24 * century + four + 365 * year + dayOfYear) / 1460 := by omega
  have hyears : dayOfEra - dayOfEra / 1460 + dayOfEra / 36524 - dayOfEra / 146096 =
      365 * (100 * century + 4 * four + year) +
        (dayOfYear - (24 * century + four + 365 * year + dayOfYear) / 1460) := by omega
  rw [hyears]
  omega

namespace Placed

variable {days era century four year dayOfYear : Int}

/-- The days of an era that lie before a day. -/
theorem dayOfEra_eq (h : Placed days era century four year dayOfYear) :
    (days + 719468) / 146097 = era ∧
      (days + 719468) % 146097 = 36524 * century + 1461 * four + 365 * year + dayOfYear := by
  obtain ⟨hsum, hc, hc', hf, hf', hy, hy', hd, hd'⟩ := h
  have hlow : 0 ≤ 36524 * century + 1461 * four + 365 * year + dayOfYear := by omega
  have hhigh : 36524 * century + 1461 * four + 365 * year + dayOfYear < 146097 := by omega
  clear hc hc' hf hf' hy hy' hd hd'
  omega

/-- The date of a day: January and February are those of the year after the one that began in March, month and day of the
month are those of the day of the year. -/
theorem ofDays_eq (h : Placed days era century four year dayOfYear) :
    ofDays days = ⟨400 * era + 100 * century + 4 * four + year + if monthOf dayOfYear ≤ 2 then 1 else 0,
      (monthOf dayOfYear).toNat, (dayOfMonth dayOfYear).toNat⟩ := by
  obtain ⟨hera, hday⟩ := h.dayOfEra_eq
  obtain ⟨_, hc, hc', hf, hf', hy, hy', hd, hd'⟩ := h
  have hyear := yearOfEra_eq hc hc' hf hf' hy hy' hd hd' hday
  have hdayOfYear : (days + 719468) % 146097 -
      (365 * (100 * century + 4 * four + year) + (100 * century + 4 * four + year) / 4 -
        (100 * century + 4 * four + year) / 100) = dayOfYear := by
    rw [hday]
    clear hera hday hyear hd hd'
    omega
  have hsum : 100 * century + 4 * four + year + era * 400 = 400 * era + 100 * century + 4 * four + year := by omega
  unfold ofDays
  simp only [hera, hyear, hdayOfYear, hsum]
  rw [Date.mk.injEq]
  refine ⟨?_, rfl, rfl⟩
  change (if monthOf dayOfYear ≤ 2 then _ else _) = _
  split
  · rfl
  · exact (add_zero _).symm

/-- The same day of the year in another year, if it is there in every year. -/
theorem move (h : Placed days era century four year dayOfYear) {other : Int} (hother : 0 ≤ other) (hother' : other ≤ 364) :
    Placed (days - dayOfYear + other) era century four year other where
  __ := h
  sum := by
    have := h.sum
    omega
  day_nonneg := hother
  day_le := Or.inl hother'

end Placed

/-- A day of the year comes again at least every eight years. -/
theorem recurs {days era century four year dayOfYear : Int} (h : Placed days era century four year dayOfYear) (day : Int) :
    ∃ later : Nat, 1 ≤ later ∧ later ≤ 2921 ∧
      ∃ era century four year, Placed (day + later) era century four year dayOfYear := by
  have hother := h.day_nonneg
  rcases h.day_le with hle | ⟨rfl, _, _⟩
  · obtain ⟨era', century', four', year', dayOfYear', h'⟩ := exists_placed (day + 366)
    have hbounds : 0 ≤ dayOfYear' ∧ dayOfYear' ≤ 365 := ⟨h'.day_nonneg, by have := h'.day_le; omega⟩
    refine ⟨(366 - dayOfYear' + dayOfYear).toNat, by omega, by omega, era', century', four', year', ?_⟩
    have hplace : day + ((366 - dayOfYear' + dayOfYear).toNat : Int) = day + 366 - dayOfYear' + dayOfYear := by omega
    rw [hplace]
    exact h'.move hother hle
  · obtain ⟨era', century', four', year', dayOfYear', h'⟩ := exists_placed (day + 1461)
    obtain ⟨hsum, hc, hc', hf, hf', hy, hy', hd, hd'⟩ := h'
    have hbounds : 0 ≤ 365 * year' + dayOfYear' ∧ 365 * year' + dayOfYear' ≤ 1460 := by omega
    by_cases hleap : four' ≤ 23 ∨ century' = 3
    · refine ⟨(2921 - (365 * year' + dayOfYear')).toNat, by omega, by omega, era', century', four', 3, ?_⟩
      refine ⟨?_, hc, hc', hf, hf', by decide, by decide, by decide, Or.inr ⟨rfl, rfl, hleap⟩⟩
      omega
    · refine ⟨(1460 - (365 * year' + dayOfYear')).toNat, by omega, by omega, era', century', four' - 1, 3, ?_⟩
      refine ⟨?_, hc, hc', by omega, by omega, by decide, by decide, by decide, Or.inr ⟨rfl, rfl, by omega⟩⟩
      omega

/-- A day of the month is one of at most thirty-one. -/
theorem dayOfMonth_bounds (dayOfYear : Int) : 1 ≤ dayOfMonth dayOfYear ∧ dayOfMonth dayOfYear ≤ 31 := by
  unfold dayOfMonth
  omega

/-- The day of the year of a day in January, which is there in every year. -/
theorem dayOfMonth_january {day : Int} (h : 1 ≤ day) (h' : day ≤ 31) : dayOfMonth (305 + day) = day := by
  unfold dayOfMonth
  omega

/-- A day of the month comes again at least every eight years. -/
theorem day_recurs (start day : Int) :
    ∃ later : Nat, 1 ≤ later ∧ later ≤ 2921 ∧ (ofDays (day + later)).day = (ofDays start).day := by
  obtain ⟨era, century, four, year, dayOfYear, h⟩ := exists_placed start
  obtain ⟨hone, hlast⟩ := dayOfMonth_bounds dayOfYear
  have hjanuary := h.move (by omega : 0 ≤ 305 + dayOfMonth dayOfYear) (by omega)
  obtain ⟨later, hlater, hlater', _, _, _, _, hplaced⟩ := recurs hjanuary day
  refine ⟨later, hlater, hlater', ?_⟩
  rw [hplaced.ofDays_eq, h.ofDays_eq]
  simp only [dayOfMonth_january hone hlast]

/-- A day of a month comes again at least every eight years. -/
theorem monthDay_recurs (start day : Int) :
    ∃ later : Nat, 1 ≤ later ∧ later ≤ 2921 ∧ (ofDays (day + later)).day = (ofDays start).day ∧
      (ofDays (day + later)).month = (ofDays start).month := by
  obtain ⟨era, century, four, year, dayOfYear, h⟩ := exists_placed start
  obtain ⟨later, hlater, hlater', _, _, _, _, hplaced⟩ := recurs h day
  refine ⟨later, hlater, hlater', ?_, ?_⟩
  · rw [hplaced.ofDays_eq, h.ofDays_eq]
  · rw [hplaced.ofDays_eq, h.ofDays_eq]

/-- A weekday comes again every week. -/
theorem weekday_recurs (start day : Int) :
    ∃ later : Nat, 1 ≤ later ∧ later ≤ 7 ∧ weekday (day + later) = isoWeekday start % 7 := by
  refine ⟨(1 + (start - day - 1) % 7).toNat, by omega, by omega, ?_⟩
  unfold weekday isoWeekday
  omega

end Date

end StandingQuery
