import Mathlib.Logic.Relation
import Mathlib.Order.Bounds.Basic
import StandingQuery.Proofs.Periods

/-!
# The least instant that agrees with a start

What a unit means for the clock, said without its recurrence: an instant agrees with a start if the two show the same minute of
the hour, hour, weekday, day of the month and month, as far as the unit pins them (`Instant.Agrees`). What is found next for a
recurrence of a unit and a start is the least whole minute after an instant that agrees with the start, so that looking for the
next again and again passes through the minute of the start (`Recurrence.isLeast_nextAfter`).
-/

namespace StandingQuery

/-- Whether an instant shows what a start shows, as far as a unit pins it. -/
def Instant.Agrees (start t : Instant) : TimeUnit → Prop
  | .minutes => True
  | .hours => t.minute = start.minute
  | .days => t.hour = start.hour ∧ t.minute = start.minute
  | .weeks => Date.weekday t.day = Date.weekday start.day ∧ t.hour = start.hour ∧ t.minute = start.minute
  | .months => t.date.day = start.date.day ∧ t.hour = start.hour ∧ t.minute = start.minute
  | .years => t.date.month = start.date.month ∧ t.date.day = start.date.day ∧ t.hour = start.hour ∧ t.minute = start.minute

/-- The two ways to number weekdays name the same days. -/
theorem Date.isoWeekday_mod (day : Int) : isoWeekday day % 7 = weekday day := by
  unfold isoWeekday weekday
  omega

/-- The minute of a start agrees with it. -/
theorem Instant.agrees_toMinute (start : Instant) (unit : TimeUnit) : start.Agrees start.toMinute unit := by
  have hday := start.day_toMinute
  have hsecond : start.toMinute.secondOfDay / 60 = start.secondOfDay / 60 := by
    unfold toMinute secondOfDay
    simp only
    omega
  have hhour : start.toMinute.hour = start.hour := by
    unfold hour
    omega
  have hminute : start.toMinute.minute = start.minute := by
    unfold minute
    rw [hsecond]
  cases unit with
  | minutes => exact trivial
  | hours => exact hminute
  | days => exact ⟨hhour, hminute⟩
  | weeks => exact ⟨by rw [hday], hhour, hminute⟩
  | months => exact ⟨by rw [date, date, hday], hhour, hminute⟩
  | years => exact ⟨by rw [date, date, hday], by rw [date, date, hday], hhour, hminute⟩

namespace Recurrence

/-- The seconds of a whole minute are zero. -/
theorem isMinute_iff_second {t : Instant} : t.IsMinute ↔ t.nanos = 0 ∧ t.second = 0 := by
  unfold Instant.IsMinute Instant.second Instant.secondOfDay
  refine and_congr_right fun _ => ?_
  omega

/-- The instants of a recurrence of a unit and a start are the whole minutes that agree with the start. -/
theorem includes_ofStart_iff {unit : TimeUnit} {start t : Instant} :
    (ofStart unit start).includes t = true ↔ t.IsMinute ∧ start.Agrees t unit := by
  rw [isMinute_iff_second]
  have hweekday : weekdayFromMonday (Date.isoWeekday start.day) = Date.weekday t.day ↔
      Date.weekday t.day = Date.weekday start.day := by
    rw [weekdayFromMonday, Date.isoWeekday_mod]
    exact eq_comm
  cases unit <;>
    simp only [includes, ofStart, pinned, CronField.pin, CronField.agrees, onDay, Instant.Agrees, Bool.and_eq_true, beq_iff_eq,
      if_true, Bool.false_eq_true, if_false, and_true, true_and, and_assoc, hweekday, Instant.date] <;>
    refine and_congr_right fun _ => and_congr_right fun _ => ?_ <;> omega

/-- From one instant to another by looking for the next instant of a recurrence, once or more. -/
def Reaches (r : Recurrence) : Instant → Instant → Prop :=
  Relation.TransGen fun after t => r.nextAfter after = .ok (some t)

/-- What is next is the least of the whole minutes after an instant that agree with the start. -/
theorem IsNext.isLeast {unit : TimeUnit} {start after t : Instant} (h : (ofStart unit start).IsNext after t) :
    IsLeast {u | after < u ∧ u.IsMinute ∧ start.Agrees u unit} t := by
  refine ⟨⟨h.later, includes_ofStart_iff.1 h.included⟩, ?_⟩
  rintro u ⟨hlater, hu⟩
  exact h.first u (includes_ofStart_iff.2 hu) hlater

/-- Looking for the next instant from before the minute of a start comes to it, unless the calendar ends before. -/
theorem reaches_start {unit : TimeUnit} {start after : Instant} (hafter : after < start.toMinute)
    (h : after.day + horizon ≤ Date.lastDay) :
    (ofStart unit start).Reaches after start.toMinute ∨
      ∃ u, (ofStart unit start).Reaches after u ∧ u < start.toMinute ∧ Date.lastDay < u.day + horizon := by
  induction hleft : (start.toMinute.seconds - after.seconds).toNat using Nat.strong_induction_on generalizing after with
  | _ left ih =>
    obtain ⟨t, ht⟩ := exists_nextAfter unit start after h
    have hnext := isNext_of_nextAfter ht
    have hincluded : (ofStart unit start).includes start.toMinute = true :=
      includes_ofStart_iff.2 ⟨start.isMinute_toMinute, start.agrees_toMinute unit⟩
    rcases (hnext.first _ hincluded hafter).eq_or_lt with rfl | hlt
    · exact Or.inl (.single ht)
    · by_cases hgoes : t.day + horizon ≤ Date.lastDay
      · have hlater := hnext.later
        have hminute := isMinute_of_includes hnext.included
        have hless : (start.toMinute.seconds - t.seconds).toNat < left := by
          rw [Instant.lt_iff_of_isMinute hminute start.isMinute_toMinute] at hlt
          rw [Instant.lt_def, hminute.1] at hlater
          omega
        rcases ih _ hless hlt hgoes rfl with hreaches | ⟨u, hreaches, hu, hend⟩
        · exact Or.inl (.head ht hreaches)
        · exact Or.inr ⟨u, .head ht hreaches, hu, hend⟩
      · exact Or.inr ⟨t, .single ht, hlt, by omega⟩

/-- If the calendar goes on for the horizon, the next instant of a recurrence of a unit and a start is found, whatever lies
between, and is the least whole minute after the one there is that agrees with the start. Looking for the next from before the
minute of the start comes to it, unless the calendar ends within the horizon of an instant on the way. -/
theorem isLeast_nextAfter (unit : TimeUnit) (start after : Instant) (h : after.day + horizon ≤ Date.lastDay) :
    (∃ t, (ofStart unit start).nextAfter after = .ok (some t) ∧
      IsLeast {u | after < u ∧ u.IsMinute ∧ start.Agrees u unit} t) ∧
    (after < start.toMinute →
      (ofStart unit start).Reaches after start.toMinute ∨
        ∃ u, (ofStart unit start).Reaches after u ∧ u < start.toMinute ∧ Date.lastDay < u.day + horizon) := by
  constructor
  · obtain ⟨t, ht⟩ := exists_nextAfter unit start after h
    exact ⟨t, ht, (isNext_of_nextAfter ht).isLeast⟩
  · intro hafter
    exact reaches_start hafter h

/-- Half past noon on 29 February of a year. -/
def leapDay (year : Int) : Instant := .atMinute (Date.toDays ⟨year, 2, 29⟩) 12 30

/-- From one 29 February to the next where that is eight years later, there being none in 2100. -/
theorem isLeast_nextAfter_leapDay :
    (leapDay 2096).day + horizon ≤ Date.lastDay ∧ leapDay 2096 < (leapDay 2104).toMinute ∧
      (∃ t, (ofStart .years (leapDay 2104)).nextAfter (leapDay 2096) = .ok (some t) ∧
        IsLeast {u | leapDay 2096 < u ∧ u.IsMinute ∧ (leapDay 2104).Agrees u .years} t) ∧
      ((ofStart .years (leapDay 2104)).Reaches (leapDay 2096) (leapDay 2104).toMinute ∨
        ∃ u, (ofStart .years (leapDay 2104)).Reaches (leapDay 2096) u ∧ u < (leapDay 2104).toMinute ∧
          Date.lastDay < u.day + horizon) := by
  have hday : (leapDay 2096).day + horizon ≤ Date.lastDay := by decide
  have hbefore : leapDay 2096 < (leapDay 2104).toMinute := by decide
  obtain ⟨hleast, hreaches⟩ := isLeast_nextAfter .years (leapDay 2104) (leapDay 2096) hday
  exact ⟨hday, hbefore, hleast, hreaches hbefore⟩

example : (ofStart .years (leapDay 2096)).nextAfter (leapDay 2096) = .ok (some (leapDay 2104)) := by decide +kernel

end Recurrence

end StandingQuery
