import StandingQuery.Proofs.NextInstant

/-!
# The search at the end of the calendar

What a search for the next instant of any recurrence should come to, whether its fields can agree with an instant or not: what
follows the instant within the horizon, and nothing outside of the calendar (`Recurrence.Settled`). It comes to that from every
instant that has the whole horizon before the end of the calendar, and from no other (`Recurrence.nextAfter_settled_iff`): in the
last eight years the search is not made at all, even where the very next minute is one of the recurrence.
-/

namespace StandingQuery

namespace Recurrence

variable {r : Recurrence} {after : Instant}

/-- A search after an instant is settled when it comes to what follows the instant, and to nothing outside of the calendar. -/
def Settled (r : Recurrence) (after : Instant) (found : Option Instant) : Prop :=
  r.Follows after found ∧ ∀ t ∈ found, t.inCalendar = true

/-- The search of the horizon settles, if the calendar does not end before it. -/
theorem settled_search (hafter : after.inCalendar = true) (h : after.day + horizon ≤ Date.lastDay) :
    r.Settled after (r.search after (horizon + 1) after.day) := by
  refine ⟨follows_search r after, fun t ht => ?_⟩
  obtain ⟨hlow, hhigh⟩ := day_of_search ht
  unfold Instant.inCalendar at *
  simp only [Bool.and_eq_true, decide_eq_true_eq] at *
  omega

/-- Whatever its fields hold, the next instant of a recurrence is looked for and settled exactly when the horizon of the search
ends in the calendar. -/
theorem nextAfter_settled_iff (hafter : after.inCalendar = true) :
    (∃ found, r.nextAfter after = .ok found ∧ r.Settled after found) ↔ after.day + horizon ≤ Date.lastDay := by
  constructor
  · rintro ⟨found, hfound, -⟩
    unfold nextAfter at hfound
    split at hfound
    · cases hfound
    · omega
  · intro h
    refine ⟨_, ?_, settled_search hafter h⟩
    unfold nextAfter
    exact if_neg (Int.not_lt.2 h)

/-- The last second from which the search is made. -/
def lastSettled : Instant := ⟨8210013897599, 999999999⟩

/-- Every minute. -/
def everyMinute : Recurrence := ⟨.any, .any, .any, .any, .any⟩

/-- The 30th of February, at an hour that no day has. -/
def never : Recurrence := ⟨.only 0, .only 24, .only 30, .only 2, .any⟩

/-- From the last second with the whole horizon before it, a recurrence that recurs at once and one that never does. -/
theorem nextAfter_settled_lastSecond :
    lastSettled.inCalendar = true ∧ lastSettled.day + horizon = Date.lastDay ∧
      (∃ found, everyMinute.nextAfter lastSettled = .ok found ∧ everyMinute.Settled lastSettled found) ∧
      (∃ found, never.nextAfter lastSettled = .ok found ∧ never.Settled lastSettled found) := by
  have hinside : lastSettled.inCalendar = true := by decide
  have hend : lastSettled.day + horizon = Date.lastDay := by decide
  exact ⟨hinside, hend, (nextAfter_settled_iff hinside).2 hend.le, (nextAfter_settled_iff hinside).2 hend.le⟩

/-- A moment later, a minute before the next minute of a recurrence and eight years before the end of the calendar, the search is
not made. -/
theorem nextAfter_unsettled_inCalendar :
    let after : Instant := ⟨8210013897600, 0⟩
    let next : Instant := ⟨8210013897660, 0⟩
    after.inCalendar = true ∧ next.inCalendar = true ∧ everyMinute.includes next = true ∧ after < next ∧
      ¬∃ found, everyMinute.nextAfter after = .ok found := by
  refine ⟨by decide, by decide, by decide, by decide, ?_⟩
  rintro ⟨found, hfound⟩
  have hlost : everyMinute.nextAfter ⟨8210013897600, 0⟩ = .error .beyondCalendar := by decide
  rw [hlost] at hfound
  cases hfound

end Recurrence

end StandingQuery
