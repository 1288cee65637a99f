import StandingQuery.Proofs.CalendarDates
import StandingQuery.Proofs.LeastInstant

/-!
# When a unit has elapsed

From one instant of a recurrence to the next there is a whole unit (`Recurrence.IsNext.one_le_elapsed`): of a unit with a period
because the instants are a period apart, and of months and years because two instants at the same time of the same day of a
month lie in different months, and at the same time of the same day of a year in different years. A unit that has elapsed between
two instants has elapsed between an earlier and a later one (`TimeUnit.one_le_elapsed_mono`).
-/

namespace StandingQuery

/-- A quotient that is rounded towards zero reaches a positive number where the dividend reaches so many divisors. -/
theorem le_tdiv_iff {n a b : Int} (hn : 0 < n) (hb : 0 < b) : n ≤ a.tdiv b ↔ n * b ≤ a := by
  rcases le_or_gt 0 a with ha | ha
  · rw [Int.tdiv_eq_ediv_of_nonneg ha, Int.le_ediv_iff_mul_le hb]
  · have hpos : 0 < n * b := Int.mul_pos hn hb
    have hneg : 0 ≤ (-a).tdiv b := Int.tdiv_nonneg (by omega) hb.le
    rw [Int.neg_tdiv] at hneg
    omega

/-- Days in the same month with the same day of the month are the same. -/
theorem Date.eq_of_monthCount_eq {days days' : Int} (hmonth : (ofDays days).monthCount = (ofDays days').monthCount)
    (hday : (ofDays days).day = (ofDays days').day) : days = days' := by
  obtain ⟨hlow, hhigh⟩ := month_bounds days
  obtain ⟨hlow', hhigh'⟩ := month_bounds days'
  refine eq_of_ofDays_eq ?_
  generalize ofDays days = date at *
  generalize ofDays days' = date' at *
  obtain ⟨year, month, day⟩ := date
  obtain ⟨year', month', day'⟩ := date'
  simp only [monthCount] at *
  simp only [Date.mk.injEq]
  omega

namespace Instant

/-- A whole minute that does not lie after an instant does not lie after its minute. -/
theorem IsMinute.le_toMinute {t u : Instant} (ht : t.IsMinute) (h : t ≤ u) : t ≤ u.toMinute := by
  rw [← not_lt] at *
  intro hlt
  exact h ((lt_of_toMinute_lt ht).1 hlt)

theorem monthNumber_mono {t u : Instant} (h : t ≤ u) : t.monthNumber ≤ u.monthNumber := Date.monthCount_mono (day_mono h)

theorem year_mono {t u : Instant} (h : t ≤ u) : t.date.year ≤ u.date.year := Date.year_mono (day_mono h)

@[simp] theorem monthNumber_toMinute (t : Instant) : t.toMinute.monthNumber = t.monthNumber := by
  unfold monthNumber date
  rw [day_toMinute]

@[simp] theorem year_toMinute (t : Instant) : t.toMinute.date.year = t.date.year := by
  unfold date
  rw [day_toMinute]

/-- Whole minutes of the same day, hour and minute are the same. -/
theorem eq_of_isMinute {t u : Instant} (ht : t.IsMinute) (hu : u.IsMinute) (hday : t.day = u.day) (hhour : t.hour = u.hour)
    (hminute : t.minute = u.minute) : t = u := by
  obtain ⟨hnanos, hsecond⟩ := Recurrence.isMinute_iff_second.1 ht
  obtain ⟨hnanos', hsecond'⟩ := Recurrence.isMinute_iff_second.1 hu
  rw [eq_atMinute hnanos hsecond, eq_atMinute hnanos' hsecond', hday, hhour, hminute]

end Instant

namespace TimeUnit

variable {unit : TimeUnit} {since since' upTo upTo' : Instant}

/-- Of a unit with a period one has elapsed between whole minutes if they are a period apart. -/
theorem one_le_elapsed_iff_of_period {period : Int} (hperiod : unit.period? = some period) (hs : since.IsMinute)
    (hu : upTo.IsMinute) : 1 ≤ unit.elapsed since upTo ↔ since.seconds + period ≤ upTo.seconds := by
  have hseconds : (upTo.elapsedNanos since).tdiv Instant.billion = upTo.seconds - since.seconds := by
    rw [Instant.elapsedNanos_of_isMinute hu hs]
    exact Int.mul_tdiv_cancel _ (by decide)
  unfold elapsed
  rw [hseconds]
  cases unit <;> simp only [period?, Option.some.injEq, reduceCtorEq] at hperiod
  all_goals
    subst hperiod
    simp only
  · rw [le_tdiv_iff (by decide) (by decide)]
    omega
  · rw [le_tdiv_iff (by decide) (by decide)]
    omega
  · rw [le_tdiv_iff (by decide) (by decide)]
    omega
  · rw [le_tdiv_iff (by decide) (by decide), le_tdiv_iff (by decide) (by decide)]
    omega

/-- A unit that has elapsed between whole minutes has elapsed between an earlier and a later one. -/
theorem one_le_elapsed_mono (hs : since.IsMinute) (hu : upTo.IsMinute) (hs' : since'.IsMinute) (hu' : upTo'.IsMinute)
    (hearlier : since' ≤ since) (hlater : upTo ≤ upTo') (h : 1 ≤ unit.elapsed since upTo) : 1 ≤ unit.elapsed since' upTo' := by
  have hwider {period : Int} (hperiod : unit.period? = some period) : 1 ≤ unit.elapsed since' upTo' := by
    rw [one_le_elapsed_iff_of_period hperiod hs hu] at h
    rw [one_le_elapsed_iff_of_period hperiod hs' hu']
    rw [Instant.le_def] at hearlier hlater
    omega
  cases unit with
  | months =>
    have hsince := Instant.monthNumber_mono hearlier
    have hupTo := Instant.monthNumber_mono hlater
    simp only [elapsed] at *
    omega
  | years =>
    have hsince := Instant.year_mono hearlier
    have hupTo := Instant.year_mono hlater
    simp only [elapsed] at *
    omega
  | _ => exact hwider rfl

end TimeUnit

/-- From one instant of a recurrence to the next a unit elapses. -/
theorem Recurrence.IsNext.one_le_elapsed {unit : TimeUnit} {start t u : Instant} (ht : (ofStart unit start).includes t = true)
    (h : (ofStart unit start).IsNext t u) : 1 ≤ unit.elapsed t u := by
  obtain ⟨htm, hta⟩ := includes_ofStart_iff.1 ht
  obtain ⟨hum, hua⟩ := includes_ofStart_iff.1 h.included
  have happart {period : Int} (hperiod : unit.period? = some period) : 1 ≤ unit.elapsed t u := by
    rw [TimeUnit.one_le_elapsed_iff_of_period hperiod htm hum, h.period hperiod ht]
  have hmonths (hday : t.date.day = u.date.day) (hhour : t.hour = u.hour) (hminute : t.minute = u.minute) :
      t.monthNumber ≠ u.monthNumber := by
    intro hsame
    exact h.later.ne (Instant.eq_of_isMinute htm hum (Date.eq_of_monthCount_eq hsame hday) hhour hminute)
  cases unit with
  | months =>
    obtain ⟨hday, hhour, hminute⟩ := hta
    obtain ⟨hday', hhour', hminute'⟩ := hua
    have hle := Instant.monthNumber_mono h.later.le
    have hne := hmonths (hday.trans hday'.symm) (hhour.trans hhour'.symm) (hminute.trans hminute'.symm)
    simp only [TimeUnit.elapsed]
    omega
  | years =>
    obtain ⟨hmonth, hday, hhour, hminute⟩ := hta
    obtain ⟨hmonth', hday', hhour', hminute'⟩ := hua
    have hle := Instant.year_mono h.later.le
    have hne := hmonths (hday.trans hday'.symm) (hhour.trans hhour'.symm) (hminute.trans hminute'.symm)
    simp only [Instant.monthNumber] at hne
    simp only [TimeUnit.elapsed]
    omega
  | _ => exact happart rfl

end StandingQuery
