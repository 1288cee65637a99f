import StandingQuery.Engine.Job
import StandingQuery.Proofs.NextInstant

/-!
# Periods

Minutes, hours, days and weeks are of equal length: the instants of a recurrence of such a unit are a period apart
(`Recurrence.IsNext.period`), and as many periods as lie between two whole minutes, so many units have elapsed
(`TimeUnit.elapsed_of_period`).
-/

namespace StandingQuery

namespace TimeUnit

/-- The seconds of a unit, if it always has the same. -/
def period? : TimeUnit → Option Int
  | .minutes => some 60
  | .hours => some 3600
  | .days => some 86400
  | .weeks => some 604800
  | .months => none
  | .years => none

theorem period_pos {unit : TimeUnit} {period : Int} (h : unit.period? = some period) : 60 ≤ period := by
  cases unit <;> simp only [period?, Option.some.injEq, reduceCtorEq] at h <;> omega

end TimeUnit

namespace Recurrence

/-- The instants of a recurrence of a unit with a period are whole minutes, whole periods away from the minute of the start. -/
theorem includes_iff_of_period {unit : TimeUnit} {period : Int} (h : unit.period? = some period) {start t : Instant} :
    (ofStart unit start).includes t = true ↔ t.nanos = 0 ∧ (t.seconds - start.toMinute.seconds) % period = 0 := by
  cases unit <;> simp only [TimeUnit.period?, Option.some.injEq, reduceCtorEq] at h
  all_goals
    subst h
    simp only [includes, ofStart, pinned, CronField.pin, CronField.agrees, onDay, Instant.toMinute, Bool.and_eq_true, beq_iff_eq,
      if_true, Bool.false_eq_true, if_false, and_true, true_and, and_assoc]
    refine and_congr_right fun _ => ?_
    simp only [Instant.hour, Instant.minute, Instant.second, Instant.secondOfDay, Instant.day, Date.weekday, Date.isoWeekday,
      weekdayFromMonday]
    omega

/-- The instants of a recurrence of a unit with a period are a period apart. -/
theorem IsNext.period {unit : TimeUnit} {period : Int} (hperiod : unit.period? = some period) {start t u : Instant}
    (ht : (ofStart unit start).includes t = true) (h : (ofStart unit start).IsNext t u) : u.seconds = t.seconds + period := by
  have hpos := TimeUnit.period_pos hperiod
  obtain ⟨htn, hts⟩ := (includes_iff_of_period hperiod).1 ht
  obtain ⟨hun, hus⟩ := (includes_iff_of_period hperiod).1 h.included
  have hlater := h.later
  rw [Instant.lt_def, htn, hun] at hlater
  have hle : u ≤ ⟨t.seconds + period, 0⟩ := by
    refine h.first _ ((includes_iff_of_period hperiod).2 ⟨rfl, ?_⟩) (Or.inl (by simp only; omega))
    have hshift : t.seconds + period - start.toMinute.seconds = t.seconds - start.toMinute.seconds + period := by ring
    rw [hshift, Int.add_emod_right, hts]
  rw [Instant.le_def, hun] at hle
  have hdvd : period ∣ u.seconds - t.seconds := by
    have := Int.dvd_sub (Int.dvd_of_emod_eq_zero hus) (Int.dvd_of_emod_eq_zero hts)
    rwa [sub_sub_sub_cancel_right] at this
  have := Int.le_of_dvd (by omega) hdvd
  simp only at hle
  omega

/-- The instants of a recurrence are whole minutes. -/
theorem isMinute_of_includes {r : Recurrence} {t : Instant} (h : r.includes t = true) : t.IsMinute := by
  obtain ⟨hnanos, hsecond, _⟩ := includes_iff.1 h
  refine ⟨hnanos, ?_⟩
  unfold Instant.second Instant.secondOfDay at hsecond
  omega

end Recurrence

namespace Instant

/-- The leap second that is counted from one instant to another: one that the first lies in counts if its second is over on the
clock of the day, and one that the other lies in does not if the clock of the day has not come so far. -/
def leaps (t since : Instant) : Int :=
  if since.secondOfDay < t.secondOfDay then (if billion ≤ since.nanos then 1 else 0)
  else if t.secondOfDay < since.secondOfDay then (if billion ≤ t.nanos then -1 else 0)
  else 0

/-- As many nanoseconds elapse as lie between the seconds, with the leap second, and those of the instants themselves. -/
theorem elapsedNanos_eq (t since : Instant) :
    t.elapsedNanos since = (t.seconds - since.seconds + t.leaps since) * billion + ((t.nanos : Int) - since.nanos) := by
  have hsplit : (t.day - since.day) * 86400 + ((t.secondOfDay : Int) - since.secondOfDay) = t.seconds - since.seconds := by
    unfold day secondOfDay
    omega
  rw [← hsplit]
  rfl

/-- Between instants outside of leap seconds none is counted. -/
theorem leaps_eq_zero {t since : Instant} (ht : t.nanos < billion) (hs : since.nanos < billion) : t.leaps since = 0 := by
  unfold leaps
  rw [if_neg (Nat.not_le.2 ht), if_neg (Nat.not_le.2 hs)]
  split
  · rfl
  · split <;> rfl

/-- From one whole minute to another as many nanoseconds elapse as lie between their seconds. -/
theorem elapsedNanos_of_isMinute {t since : Instant} (ht : t.IsMinute) (hs : since.IsMinute) :
    t.elapsedNanos since = (t.seconds - since.seconds) * billion := by
  rw [elapsedNanos_eq, leaps_eq_zero (by rw [ht.1]; decide) (by rw [hs.1]; decide), ht.1, hs.1]
  simp

end Instant

namespace TimeUnit

/-- As many periods as lie between two whole minutes, so many units have elapsed. -/
theorem elapsed_of_period {unit : TimeUnit} {period : Int} (hperiod : unit.period? = some period) {since upTo : Instant}
    (hs : since.IsMinute) (hu : upTo.IsMinute) {count : Nat} (h : upTo.seconds = since.seconds + count * period) :
    unit.elapsed since upTo = count := by
  have hpos := period_pos hperiod
  have hseconds : (upTo.elapsedNanos since).tdiv Instant.billion = count * period := by
    rw [Instant.elapsedNanos_of_isMinute hu hs, Int.mul_tdiv_cancel _ (by decide)]
    omega
  unfold elapsed
  rw [hseconds]
  cases unit <;> simp only [period?, Option.some.injEq, reduceCtorEq] at hperiod
  all_goals
    subst hperiod
    simp only
  · exact Int.mul_tdiv_cancel _ (by decide)
  · exact Int.mul_tdiv_cancel _ (by decide)
  · exact Int.mul_tdiv_cancel _ (by decide)
  · rw [show (count : Int) * 604800 = count * 7 * 86400 by ring, Int.mul_tdiv_cancel _ (by decide)]
    exact Int.mul_tdiv_cancel _ (by decide)

end TimeUnit

end StandingQuery
