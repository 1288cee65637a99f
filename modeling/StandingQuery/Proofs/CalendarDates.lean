import StandingQuery.Proofs.YearDays

/-!
# Dates of the calendar

Days and dates correspond: the date of a day is that of no other day (`Date.toDays_ofDays`), and exists in the calendar if its
year does (`Date.exists?_ofDays`); a date that exists is that of its day (`Date.ofDays_toDays`). Later days lie in the same month
or in later ones (`Date.monthCount_mono`).
-/

namespace StandingQuery

namespace Date

/-- The months of a year that begins in March, counted from zero, by the day of the year. -/
def monthFromMarch (dayOfYear : Int) : Int := (5 * dayOfYear + 2) / 153

theorem monthOf_eq (dayOfYear : Int) :
    monthOf dayOfYear = if monthFromMarch dayOfYear < 10 then monthFromMarch dayOfYear + 3 else monthFromMarch dayOfYear - 9 := rfl

/-- A day of the year is recovered from its month and its day of the month. -/
theorem dayOfMonth_eq (dayOfYear : Int) :
    (153 * monthFromMarch dayOfYear + 2) / 5 + dayOfMonth dayOfYear - 1 = dayOfYear := by
  unfold dayOfMonth monthFromMarch
  omega

namespace Placed

variable {days era century four year dayOfYear : Int}

theorem dayOfYear_le (h : Placed days era century four year dayOfYear) : dayOfYear ≤ 365 := by
  have hle := h.day_le
  omega

theorem monthFromMarch_nonneg (h : Placed days era century four year dayOfYear) : 0 ≤ monthFromMarch dayOfYear := by
  have hlow := h.day_nonneg
  unfold monthFromMarch
  omega

theorem monthFromMarch_le (h : Placed days era century four year dayOfYear) : monthFromMarch dayOfYear ≤ 11 := by
  have hhigh := h.dayOfYear_le
  unfold monthFromMarch
  omega

end Placed

/-- A day is the only one with its date. -/
theorem toDays_ofDays (days : Int) : toDays (ofDays days) = days := by
  obtain ⟨era, century, four, year, dayOfYear, h⟩ := exists_placed days
  have hlow := h.monthFromMarch_nonneg
  have hhigh := h.monthFromMarch_le
  have hday := dayOfMonth_eq dayOfYear
  obtain ⟨hd, -⟩ := dayOfMonth_bounds dayOfYear
  rw [h.ofDays_eq]
  obtain ⟨hsum, hc, hc', hf, hf', hy, hy', -, -⟩ := h
  have hyears : (400 * era + 100 * century + 4 * four + year) / 400 = era ∧
      (400 * era + 100 * century + 4 * four + year) % 400 = 100 * century + 4 * four + year ∧
      (100 * century + 4 * four + year) / 4 = 25 * century + four ∧
      (100 * century + 4 * four + year) / 100 = century := by omega
  obtain ⟨hera, hyear, hgroups, hcenturies⟩ := hyears
  rw [monthOf_eq]
  unfold toDays
  by_cases hmonth : monthFromMarch dayOfYear < 10
  · have hlate : ¬monthFromMarch dayOfYear + 3 ≤ 2 := by omega
    have hlate' : ¬(monthFromMarch dayOfYear + 3).toNat ≤ 2 := by omega
    simp only [hmonth, hlate, hlate', if_true, if_false, add_zero, hera, hyear, hgroups, hcenturies]
    rw [Int.toNat_of_nonneg (by omega), Int.toNat_of_nonneg (by omega), add_sub_cancel_right, hday]
    omega
  · have hearly : monthFromMarch dayOfYear - 9 ≤ 2 := by omega
    have hearly' : (monthFromMarch dayOfYear - 9).toNat ≤ 2 := by omega
    simp only [hmonth, hearly, hearly', if_true, if_false, add_sub_cancel_right, hera, hyear, hgroups, hcenturies]
    rw [Int.toNat_of_nonneg (by omega), Int.toNat_of_nonneg (by omega), sub_add_cancel, hday]
    omega

/-- A month is no longer than it takes until the next one begins. -/
theorem dayOfMonth_le (dayOfYear : Int) :
    dayOfMonth dayOfYear ≤ (153 * (monthFromMarch dayOfYear + 1) + 2) / 5 - (153 * monthFromMarch dayOfYear + 2) / 5 := by
  unfold dayOfMonth monthFromMarch
  omega

/-- The last day of a year that begins in March is 29 February. -/
theorem Placed.isLeap {days era century four year : Int} (h : Placed days era century four year 365) :
    isLeap (400 * era + 100 * century + 4 * four + year + 1) = true := by
  obtain ⟨-, hc, hc', hf, hf', -, -, -, hlast⟩ := h
  have hyear : year = 3 := by omega
  unfold Date.isLeap
  simp only [Bool.and_eq_true, Bool.or_eq_true, beq_iff_eq, bne_iff_ne, ne_eq]
  omega

/-- Every month but February has its length from where it begins in the year. -/
theorem monthLength_fromMarch (year : Int) {month : Int} (h : 0 ≤ month) (h' : month ≤ 10) :
    (monthLength year (if month < 10 then month + 3 else month - 9).toNat : Int) =
      (153 * (month + 1) + 2) / 5 - (153 * month + 2) / 5 := by
  have hmonths : month = 0 ∨ month = 1 ∨ month = 2 ∨ month = 3 ∨ month = 4 ∨ month = 5 ∨ month = 6 ∨ month = 7 ∨ month = 8 ∨
      month = 9 ∨ month = 10 := by omega
  rcases hmonths with rfl | rfl | rfl | rfl | rfl | rfl | rfl | rfl | rfl | rfl | rfl <;> rfl

/-- The day of the month of a day is one of its month. -/
theorem Placed.day_le_monthLength {days era century four year dayOfYear : Int} (h : Placed days era century four year dayOfYear) :
    (ofDays days).day ≤ monthLength (ofDays days).year (ofDays days).month := by
  have hlow := h.monthFromMarch_nonneg
  have hhigh := h.monthFromMarch_le
  rw [h.ofDays_eq, monthOf_eq]
  simp only
  by_cases hmonth : monthFromMarch dayOfYear ≤ 10
  · have hlength := monthLength_fromMarch (400 * era + 100 * century + 4 * four + year + if
      (if monthFromMarch dayOfYear < 10 then monthFromMarch dayOfYear + 3 else monthFromMarch dayOfYear - 9) ≤ 2
        then 1 else 0) hlow hmonth
    have hle := dayOfMonth_le dayOfYear
    omega
  · have hfebruary : monthFromMarch dayOfYear = 11 := by omega
    have hday := dayOfMonth_eq dayOfYear
    have hlast := h.dayOfYear_le
    rw [hfebruary] at hday ⊢
    change (dayOfMonth dayOfYear).toNat ≤ if Date.isLeap (400 * era + 100 * century + 4 * four + year + 1) = true then 29 else 28
    by_cases hleapDay : dayOfYear = 365
    · subst hleapDay
      rw [if_pos h.isLeap]
      omega
    · split <;> omega

/-- The date of a day exists in the calendar if its year does. -/
theorem exists?_ofDays {days : Int} (h : firstYear ≤ (ofDays days).year) (h' : (ofDays days).year ≤ lastYear) :
    (ofDays days).exists? = true := by
  obtain ⟨era, century, four, year, dayOfYear, hplaced⟩ := exists_placed days
  have hday := hplaced.day_le_monthLength
  have hone : 1 ≤ (ofDays days).day := by
    obtain ⟨hd, -⟩ := dayOfMonth_bounds dayOfYear
    rw [hplaced.ofDays_eq]
    simp only
    omega
  simp [exists?, h, h', hone, hday]

/-! ### Days of dates -/

/-- The months since March in which a date lies, when its year is taken to begin there. -/
def monthsSinceMarch (d : Date) : Int := if d.month ≤ 2 then (d.month : Int) + 9 else (d.month : Int) - 3

/-- The year in which a date lies, when years are taken to begin in March. -/
def yearFromMarch (d : Date) : Int := if d.month ≤ 2 then d.year - 1 else d.year

/-- The day of the year of a date, when its year is taken to begin in March. -/
def dayFromMarch (d : Date) : Int := (153 * d.monthsSinceMarch + 2) / 5 + d.day - 1

/-- A date that exists lies in one of twelve months, on one of at most thirty-one days. -/
theorem ranges_of_exists {d : Date} (h : d.exists? = true) : (1 ≤ d.month ∧ d.month ≤ 12) ∧ 1 ≤ d.day ∧ d.day ≤ 31 := by
  simp only [exists?, Bool.and_eq_true, decide_eq_true_eq] at h
  obtain ⟨⟨-, hone⟩, hday⟩ := h
  unfold monthLength at hday
  split at hday
  all_goals try split at hday
  all_goals omega

/-- A date that exists has its month and its day of the month from its day of the year, which is the last one on leap days only. -/
theorem dayFromMarch_of_exists {d : Date} (h : d.exists? = true) :
    monthOf d.dayFromMarch = d.month ∧ dayOfMonth d.dayFromMarch = d.day ∧ 0 ≤ d.dayFromMarch ∧
      (d.dayFromMarch ≤ 364 ∨ d.dayFromMarch = 365 ∧ d.month = 2 ∧ isLeap d.year = true) := by
  obtain ⟨year, month, day⟩ := d
  simp only [exists?, Bool.and_eq_true, decide_eq_true_eq] at h
  obtain ⟨⟨-, hone⟩, hday⟩ := h
  unfold dayFromMarch monthsSinceMarch monthOf dayOfMonth
  unfold monthLength at hday
  split at hday
  all_goals simp only [Nat.reduceLeDiff, if_true, if_false]
  all_goals try omega
  by_cases hleap : isLeap year = true
  · rw [if_pos hleap] at hday
    simp only [hleap, and_true]
    omega
  · rw [if_neg hleap] at hday
    omega

/-- A date that exists is that of its day. -/
theorem ofDays_toDays {d : Date} (h : d.exists? = true) : ofDays d.toDays = d := by
  obtain ⟨hmonth, hday, hlow, hhigh⟩ := dayFromMarch_of_exists h
  have hplaced : Placed d.toDays (d.yearFromMarch / 400) (d.yearFromMarch % 400 / 100) (d.yearFromMarch % 100 / 4)
      (d.yearFromMarch % 4) d.dayFromMarch := by
    have hleapYear : d.month = 2 → isLeap d.year = true → d.yearFromMarch % 4 = 3 ∧
        (d.yearFromMarch % 100 / 4 ≤ 23 ∨ d.yearFromMarch % 400 / 100 = 3) := by
      intro hfebruary hleap
      unfold isLeap at hleap
      simp only [Bool.and_eq_true, Bool.or_eq_true, beq_iff_eq, bne_iff_ne, ne_eq] at hleap
      unfold yearFromMarch
      rw [hfebruary, if_pos (Nat.le_refl 2)]
      omega
    refine ⟨?_, by omega, by omega, by omega, by omega, by omega, by omega, hlow, ?_⟩
    · change d.yearFromMarch / 400 * 146097 + (d.yearFromMarch % 400 * 365 + d.yearFromMarch % 400 / 4 -
        d.yearFromMarch % 400 / 100 + d.dayFromMarch) - 719468 + 719468 = _
      omega
    · rcases hhigh with hhigh | ⟨hlast, hfebruary, hleap⟩
      · exact Or.inl hhigh
      · exact Or.inr ⟨hlast, hleapYear hfebruary hleap⟩
  have hyears : 400 * (d.yearFromMarch / 400) + 100 * (d.yearFromMarch % 400 / 100) + 4 * (d.yearFromMarch % 100 / 4) +
      d.yearFromMarch % 4 = d.yearFromMarch := by omega
  rw [hplaced.ofDays_eq, hmonth, hday, hyears]
  obtain ⟨year, month, day⟩ := d
  simp only [Int.toNat_natCast, mk.injEq, and_self, and_true, yearFromMarch]
  split <;> split <;> omega

/-! ### The order of days -/

/-- Of two days the earlier one lies in an earlier year, or at an earlier day of the same one; years begin in March here. -/
theorem Placed.order {days era century four year dayOfYear days' era' century' four' year' dayOfYear' : Int}
    (h : Placed days era century four year dayOfYear) (h' : Placed days' era' century' four' year' dayOfYear')
    (hle : days ≤ days') :
    400 * era + 100 * century + 4 * four + year < 400 * era' + 100 * century' + 4 * four' + year' ∨
      400 * era + 100 * century + 4 * four + year = 400 * era' + 100 * century' + 4 * four' + year' ∧
        dayOfYear ≤ dayOfYear' := by
  obtain ⟨hsum, hc, hc', hf, hf', hy, hy', hd, hd'⟩ := h
  obtain ⟨gsum, gc, gc', gf, gf', gy, gy', gd, gd'⟩ := h'
  have hera : era ≤ era' := by omega
  rcases hera.lt_or_eq with hlt | rfl
  · omega
  have hcentury : century ≤ century' := by omega
  rcases hcentury.lt_or_eq with hlt | rfl
  · omega
  have hfour : four ≤ four' := by omega
  rcases hfour.lt_or_eq with hlt | rfl
  · omega
  have hyear : year ≤ year' := by omega
  rcases hyear.lt_or_eq with hlt | rfl
  · omega
  · omega

/-- The months of the calendar up to a date. -/
def monthCount (d : Date) : Int := d.year * 12 + (d.month - 1)

/-- Two months lie between the beginning of a year and March. -/
theorem Placed.monthCount_eq {days era century four year dayOfYear : Int} (h : Placed days era century four year dayOfYear) :
    (ofDays days).monthCount = 12 * (400 * era + 100 * century + 4 * four + year) + monthFromMarch dayOfYear + 2 := by
  have hlow := h.monthFromMarch_nonneg
  have hhigh := h.monthFromMarch_le
  rw [h.ofDays_eq, monthOf_eq]
  unfold monthCount
  simp only
  split <;> split <;> omega

/-- Later days lie in the same month or in later ones. -/
theorem monthCount_mono {days days' : Int} (h : days ≤ days') : (ofDays days).monthCount ≤ (ofDays days').monthCount := by
  obtain ⟨era, century, four, year, dayOfYear, hplaced⟩ := exists_placed days
  obtain ⟨era', century', four', year', dayOfYear', hplaced'⟩ := exists_placed days'
  have hhigh := hplaced.monthFromMarch_le
  have hlow := hplaced'.monthFromMarch_nonneg
  rw [hplaced.monthCount_eq, hplaced'.monthCount_eq]
  rcases hplaced.order hplaced' h with hyears | ⟨hyears, hday⟩
  · omega
  · have hmonths : monthFromMarch dayOfYear ≤ monthFromMarch dayOfYear' := by
      unfold monthFromMarch
      omega
    omega

/-- The month of a day is one of twelve. -/
theorem month_bounds (days : Int) : 1 ≤ (ofDays days).month ∧ (ofDays days).month ≤ 12 := by
  obtain ⟨era, century, four, year, dayOfYear, h⟩ := exists_placed days
  have hlow := h.monthFromMarch_nonneg
  have hhigh := h.monthFromMarch_le
  rw [h.ofDays_eq, monthOf_eq]
  simp only
  omega

/-- The day of the month of a day is one of at most thirty-one. -/
theorem day_le (days : Int) : (ofDays days).day ≤ 31 := by
  obtain ⟨era, century, four, year, dayOfYear, h⟩ := exists_placed days
  obtain ⟨-, hle⟩ := dayOfMonth_bounds dayOfYear
  rw [h.ofDays_eq]
  simp only
  omega

/-- The year of a day is that of its months. -/
theorem year_eq (days : Int) : (ofDays days).year = (ofDays days).monthCount / 12 := by
  obtain ⟨hone, hlast⟩ := month_bounds days
  unfold monthCount
  omega

/-- Later days lie in the same year or in later ones. -/
theorem year_mono {days days' : Int} (h : days ≤ days') : (ofDays days).year ≤ (ofDays days').year := by
  rw [year_eq, year_eq]
  exact Int.ediv_le_ediv (by decide) (monthCount_mono h)

/-- There is only one day of a year with a month and a day of the month. -/
theorem eq_of_ofDays_eq {days days' : Int} (h : ofDays days = ofDays days') : days = days' := by
  rw [← toDays_ofDays days, h, toDays_ofDays]

end Date

end StandingQuery
