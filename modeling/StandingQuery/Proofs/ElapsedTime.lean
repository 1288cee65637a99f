import StandingQuery.Proofs.ElapsedUnits

/-!
# How elapsed time grows

Between instants further apart no fewer units have elapsed, with one exception: a leap second counts for more while the clock still
shows it than once it is over, or once the clock of the day begins again, so that of a unit that the clock counts there may be
fewer between instants that lie further apart by less than the leap seconds that are counted no longer
(`TimeUnit.elapsed_le_or_leapLost`). Whole minutes lie further apart by more than that (`TimeUnit.elapsed_le_of_later_minute`). No
number on the way leaves its bits (`TimeUnit.elapsed?_eq`).
-/

namespace StandingQuery

namespace Instant

variable {t t' since since' : Instant}

theorem toMinute_mono (h : t ≤ t') : t.toMinute ≤ t'.toMinute := by
  rw [le_def] at *
  simp only [toMinute]
  omega

/-- What a leap second adds lies between the second that is counted and the one that is not. -/
theorem leaps_bounds (t since : Instant) : -1 ≤ t.leaps since ∧ t.leaps since ≤ 1 := by
  unfold leaps
  split
  · split <;> decide
  · split
    · split <;> decide
    · decide

/-- The nanoseconds from one instant to another, with no leap second but those that the instants lie in. -/
def span (t since : Instant) : Int := (t.seconds - since.seconds) * billion + ((t.nanos : Int) - since.nanos)

/-- As many nanoseconds elapse as an instant is away, with the leap second that is counted. -/
theorem elapsedNanos_eq_span (t since : Instant) : t.elapsedNanos since = t.span since + t.leaps since * billion := by
  rw [elapsedNanos_eq, span]
  ring

/-- Fewer nanoseconds elapse between two instants than between two others exactly when they lie further apart by less than the leap
seconds that are counted no longer. -/
theorem elapsedNanos_lt_iff :
    t'.elapsedNanos since' < t.elapsedNanos since ↔
      t'.span t + since.span since' < (t.leaps since - t'.leaps since') * billion := by
  rw [elapsedNanos_eq_span, elapsedNanos_eq_span]
  unfold span billion
  omega

/-- Outside of leap seconds more time elapses to a later instant, and from an earlier one. -/
theorem elapsedNanos_le (ht : t.nanos < billion) (ht' : t'.nanos < billion) (hs : since.nanos < billion)
    (hs' : since'.nanos < billion) (hearlier : since' ≤ since) (hlater : t ≤ t') :
    t.elapsedNanos since ≤ t'.elapsedNanos since' := by
  rw [elapsedNanos_eq, elapsedNanos_eq, leaps_eq_zero ht hs, leaps_eq_zero ht' hs']
  rw [le_def] at hearlier hlater
  unfold billion at *
  omega

/-- Whole minutes that are not the same are a minute apart. -/
theorem IsMinute.eq_or_minute_later (ht : t.IsMinute) (ht' : t'.IsMinute) (h : t ≤ t') : t = t' ∨ t.seconds + 60 ≤ t'.seconds := by
  rcases h.eq_or_lt with rfl | hlt
  · exact Or.inl rfl
  · rw [lt_iff_of_isMinute ht ht'] at hlt
    have hseconds := ht.2
    have hseconds' := ht'.2
    omega

/-- No time elapses from an instant to itself. -/
theorem elapsedNanos_self (t : Instant) : t.elapsedNanos t = 0 := by
  rw [elapsedNanos_eq, leaps, if_neg (Nat.lt_irrefl _), if_neg (Nat.lt_irrefl _)]
  simp

end Instant

namespace TimeUnit

variable {unit : TimeUnit} {since since' upTo upTo' : Instant}

/-- No unit elapses from an instant to itself. -/
theorem elapsed_self (unit : TimeUnit) (t : Instant) : unit.elapsed t t = 0 := by
  unfold elapsed
  rw [Instant.elapsedNanos_self]
  cases unit <;> simp

/-- Of the units of the calendar more elapse to a later instant, and from an earlier one. -/
theorem elapsed_le_of_calendar (hunit : unit.period? = none) (hearlier : since' ≤ since) (hlater : upTo ≤ upTo') :
    unit.elapsed since upTo ≤ unit.elapsed since' upTo' := by
  cases unit <;> simp only [period?, reduceCtorEq] at hunit
  · have hsince := Instant.monthNumber_mono hearlier
    have hupTo := Instant.monthNumber_mono hlater
    simp only [elapsed]
    omega
  · have hsince := Instant.year_mono hearlier
    have hupTo := Instant.year_mono hlater
    simp only [elapsed]
    omega

/-- More units elapse to a later instant, and from an earlier one, if more time does. -/
theorem elapsed_le_elapsed (hnanos : upTo.elapsedNanos since ≤ upTo'.elapsedNanos since') (hearlier : since' ≤ since)
    (hlater : upTo ≤ upTo') : unit.elapsed since upTo ≤ unit.elapsed since' upTo' := by
  have hseconds : (upTo.elapsedNanos since).tdiv Instant.billion ≤ (upTo'.elapsedNanos since').tdiv Instant.billion :=
    Int.tdiv_le_tdiv (by decide) hnanos
  cases unit with
  | months | years => exact elapsed_le_of_calendar rfl hearlier hlater
  | minutes | hours | days => exact Int.tdiv_le_tdiv (by decide) hseconds
  | weeks => exact Int.tdiv_le_tdiv (by decide) (Int.tdiv_le_tdiv (by decide) hseconds)

/-- The one way in which fewer units elapse between instants that lie further apart: a leap second that was counted is not counted
any more. -/
structure LeapLost (unit : TimeUnit) (since since' upTo upTo' : Instant) : Prop where
  /-- The unit is counted by the clock and not by the calendar. -/
  clock : unit.period?.isSome = true
  /-- One of the instants lies in a leap second. -/
  leap : Instant.billion ≤ since.nanos ∨ Instant.billion ≤ since'.nanos ∨ Instant.billion ≤ upTo.nanos ∨
    Instant.billion ≤ upTo'.nanos
  /-- They lie further apart by less than the leap seconds that are counted no longer. -/
  lost : upTo'.span upTo + since.span since' < (upTo.leaps since - upTo'.leaps since') * Instant.billion

/-- No fewer units elapse to a later instant and from an earlier one, unless a leap second is lost. -/
theorem elapsed_le_or_leapLost (unit : TimeUnit) (hearlier : since' ≤ since) (hlater : upTo ≤ upTo') :
    unit.elapsed since upTo ≤ unit.elapsed since' upTo' ∨ unit.LeapLost since since' upTo upTo' := by
  rcases le_or_gt (upTo.elapsedNanos since) (upTo'.elapsedNanos since') with hnanos | hnanos
  · exact Or.inl (elapsed_le_elapsed hnanos hearlier hlater)
  · cases hunit : unit.period? with
    | none => exact Or.inl (elapsed_le_of_calendar hunit hearlier hlater)
    | some period =>
      refine Or.inr ⟨by rw [hunit]; rfl, ?_, Instant.elapsedNanos_lt_iff.1 hnanos⟩
      by_contra hnone
      simp only [not_or, not_le] at hnone
      obtain ⟨hs, hs', hu, hu'⟩ := hnone
      exact absurd (Instant.elapsedNanos_le hu hu' hs hs' hearlier hlater) (not_le.2 hnanos)

/-- To a later whole minute no fewer units elapse, from a leap second too. -/
theorem elapsed_le_of_later_minute (unit : TimeUnit) (since : Instant) (hu : upTo.IsMinute) (hu' : upTo'.IsMinute)
    (h : upTo ≤ upTo') : unit.elapsed since upTo ≤ unit.elapsed since upTo' := by
  refine (unit.elapsed_le_or_leapLost le_rfl h).resolve_right fun hlost => ?_
  have hapart := hlost.lost
  rcases hu.eq_or_minute_later hu' h with rfl | hlater
  · simp [Instant.span] at hapart
  · have hleaps := Instant.leaps_bounds upTo since
    have hleaps' := Instant.leaps_bounds upTo' since
    unfold Instant.span Instant.billion at hapart
    rw [hu.1, hu'.1] at hapart
    omega

end TimeUnit

/-! ### Numbers of so many bits -/

/-- A number, if so many bits with a sign hold it. -/
def fitting (bits : Nat) (n : Int) : Option Int := if -2 ^ (bits - 1) ≤ n ∧ n < 2 ^ (bits - 1) then some n else none

theorem fitting_64 {n : Int} (h : -9000000000000000000 ≤ n) (h' : n ≤ 9000000000000000000) : fitting 64 n = some n := by
  refine if_pos ⟨?_, ?_⟩ <;> norm_num <;> omega

theorem fitting_32 {n : Int} (h : -2000000000 ≤ n) (h' : n ≤ 2000000000) : fitting 32 n = some n := by
  refine if_pos ⟨?_, ?_⟩ <;> norm_num <;> omega

namespace Instant

/-- The seconds from one instant to another, rounded towards zero, where the seconds and the nanoseconds are counted apart in 64
bits, and so are the milliseconds that the time lasts. -/
def elapsedSeconds? (t since : Instant) : Option Int := do
  let days ← fitting 64 (t.day - since.day)
  let daySeconds ← fitting 64 (days * 86400)
  let clock ← fitting 64 ((t.secondOfDay : Int) - since.secondOfDay)
  let counted ← fitting 64 (clock + t.leaps since)
  let nanos ← fitting 64 ((t.nanos : Int) - since.nanos)
  let carried ← fitting 64 (counted + nanos / billion)
  let seconds ← fitting 64 (daySeconds + carried)
  let _ ← fitting 64 (seconds * 1000 + nanos % billion / 1000000)
  if seconds < 0 ∧ 0 < nanos % billion then fitting 64 (seconds + 1) else some seconds

/-- The number of the month of an instant, with the year in 32 bits and the months in 64. -/
def monthNumber? (t : Instant) : Option Int := do
  let year ← fitting 32 t.date.year
  let months ← fitting 64 (year * 12)
  fitting 64 (months + (t.date.month - 1))

end Instant

namespace TimeUnit

/-- The whole units from one instant to another, if every number on the way fits: the years are counted in 32 bits, all else in
64. -/
def elapsed? (unit : TimeUnit) (since upTo : Instant) : Option Int := do
  let seconds ← upTo.elapsedSeconds? since
  match unit with
  | .minutes => some (seconds.tdiv 60)
  | .hours => some (seconds.tdiv 3600)
  | .days => some (seconds.tdiv 86400)
  | .weeks => some ((seconds.tdiv 86400).tdiv 7)
  | .months => do
    let last ← upTo.monthNumber?
    let first ← since.monthNumber?
    fitting 64 (last - first)
  | .years => do
    let last ← fitting 32 upTo.date.year
    let first ← fitting 32 since.date.year
    fitting 32 (last - first)

end TimeUnit

namespace Instant

/-- Whether an instant is one that there can be: in the calendar, with a leap second at most. -/
structure Representable (t : Instant) : Prop where
  inside : t.inCalendar = true
  nanos_lt : t.nanos < 2 * billion

variable {t since : Instant}

/-- The days of the calendar, in numbers. -/
theorem Representable.day_bounds (h : t.Representable) : -96465292 ≤ t.day ∧ t.day ≤ 95026236 := by
  have hfirst : Date.firstDay = -96465292 := by decide
  have hlast : Date.lastDay = 95026236 := by decide
  have hinside := h.inside
  unfold inCalendar at hinside
  rw [hfirst, hlast, Bool.and_eq_true, decide_eq_true_eq, decide_eq_true_eq] at hinside
  exact hinside

/-- The years of the calendar, in numbers. -/
theorem Representable.year_bounds (h : t.Representable) : -262143 ≤ t.date.year ∧ t.date.year ≤ 262142 := by
  obtain ⟨hlow, hhigh⟩ := h.day_bounds
  have hfirst : (Date.ofDays (-96465292)).year = -262143 := by decide
  have hlast : (Date.ofDays 95026236).year = 262142 := by decide
  exact ⟨hfirst ▸ Date.year_mono hlow, hlast ▸ Date.year_mono hhigh⟩

/-- A count of seconds with nanoseconds beyond it, rounded towards zero. -/
theorem tdiv_billion (seconds nanos : Int) :
    (seconds * billion + nanos).tdiv billion =
      if seconds + nanos / billion < 0 ∧ 0 < nanos % billion then seconds + nanos / billion + 1 else seconds + nanos / billion := by
  have hbillion : (billion : Int) = 1000000000 := rfl
  rw [hbillion]
  rcases le_or_gt 0 (seconds * 1000000000 + nanos) with hpos | hneg
  · rw [Int.tdiv_eq_ediv_of_nonneg hpos]
    split <;> omega
  · have hopposite : (seconds * 1000000000 + nanos).tdiv 1000000000 = -((-(seconds * 1000000000 + nanos)) / 1000000000) := by
      rw [← Int.tdiv_eq_ediv_of_nonneg (by omega), Int.neg_tdiv, Int.neg_neg]
    rw [hopposite]
    split <;> omega

/-- Between representable instants the seconds are counted without leaving their bits. -/
theorem elapsedSeconds?_eq (ht : t.Representable) (hs : since.Representable) :
    t.elapsedSeconds? since = some ((t.elapsedNanos since).tdiv billion) := by
  obtain ⟨hlow, hhigh⟩ := ht.day_bounds
  obtain ⟨hlow', hhigh'⟩ := hs.day_bounds
  have hnanos := ht.nanos_lt
  have hnanos' := hs.nanos_lt
  obtain ⟨hleap, hleap'⟩ := leaps_bounds t since
  have hclock : t.secondOfDay < 86400 := by
    unfold secondOfDay
    omega
  have hclock' : since.secondOfDay < 86400 := by
    unfold secondOfDay
    omega
  have hsplit : (t.day - since.day) * 86400 + ((t.secondOfDay : Int) - since.secondOfDay + t.leaps since) =
      t.seconds - since.seconds + t.leaps since := by
    unfold day secondOfDay
    omega
  rw [elapsedNanos_eq, tdiv_billion, ← hsplit]
  have hbillion : (billion : Int) = 1000000000 := rfl
  unfold billion at hnanos hnanos'
  unfold elapsedSeconds?
  simp only [hbillion]
  simp (disch := omega) only [fitting_64, Option.bind_eq_bind, Option.bind_some]
  rw [← Int.add_assoc ((t.day - since.day) * 86400), apply_ite some]

/-- The months of the calendar, in numbers. -/
theorem Representable.monthNumber_bounds (h : t.Representable) : -3145716 ≤ t.monthNumber ∧ t.monthNumber ≤ 3145715 := by
  obtain ⟨hlow, hhigh⟩ := h.year_bounds
  obtain ⟨hone, htwelve⟩ : 1 ≤ t.date.month ∧ t.date.month ≤ 12 := Date.month_bounds t.day
  unfold monthNumber
  omega

/-- The months of a representable instant are counted without leaving their bits. -/
theorem monthNumber?_eq (ht : t.Representable) : t.monthNumber? = some t.monthNumber := by
  obtain ⟨hlow, hhigh⟩ := ht.year_bounds
  obtain ⟨hone, htwelve⟩ : 1 ≤ t.date.month ∧ t.date.month ≤ 12 := Date.month_bounds t.day
  unfold monthNumber?
  simp (disch := omega) only [fitting_64, fitting_32, Option.bind_eq_bind, Option.bind_some]
  rfl

end Instant

/-- Between representable instants no number on the way to the units that have elapsed leaves its bits. -/
theorem TimeUnit.elapsed?_eq (unit : TimeUnit) {since upTo : Instant} (hs : since.Representable) (hu : upTo.Representable) :
    unit.elapsed? since upTo = some (unit.elapsed since upTo) := by
  obtain ⟨hlow, hhigh⟩ := hu.year_bounds
  obtain ⟨hlow', hhigh'⟩ := hs.year_bounds
  unfold elapsed?
  rw [Instant.elapsedSeconds?_eq hu hs, Option.bind_eq_bind, Option.bind_some]
  cases unit with
  | minutes | hours | days | weeks => rfl
  | months =>
    obtain ⟨hleast, hmost⟩ := hu.monthNumber_bounds
    obtain ⟨hleast', hmost'⟩ := hs.monthNumber_bounds
    simp (disch := omega) only [Instant.monthNumber?_eq hu, Instant.monthNumber?_eq hs, Option.bind_some, fitting_64]
    rfl
  | years =>
    simp (disch := omega) only [fitting_32, Option.bind_some]
    rfl

end StandingQuery
