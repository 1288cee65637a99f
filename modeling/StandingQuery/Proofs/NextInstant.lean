import StandingQuery.Proofs.Instants
import StandingQuery.Proofs.YearDays
import StandingQuery.Scheduler.Recurrence

/-!
# The next instant of a recurrence

The search for the next instant of a recurrence finds what follows another instant: the first one after it, if there is one within
its horizon (`Recurrence.Follows`, `Recurrence.follows_of_nextAfter`). A recurrence that was made from a unit and a start never runs
out: its days recur at least every eight years, which the horizon covers (`Recurrence.exists_nextAfter`).
-/

namespace StandingQuery

namespace CronField

/-- The values that are tried for a field are those below the bound with which it agrees. -/
theorem mem_valuesBelow {f : CronField} {bound value : Nat} :
    value ∈ f.valuesBelow bound ↔ value < bound ∧ f.agrees value = true := by
  cases f with
  | any => simp [valuesBelow, agrees]
  | only v =>
    simp only [valuesBelow, agrees, beq_iff_eq]
    split
    · rw [List.mem_singleton]
      omega
    · simp only [List.not_mem_nil, false_iff]
      omega

/-- The values that are tried for a field ascend. -/
theorem pairwise_valuesBelow (f : CronField) (bound : Nat) : (f.valuesBelow bound).Pairwise (· < ·) := by
  cases f with
  | any => exact List.pairwise_lt_range
  | only v =>
    simp only [valuesBelow]
    split
    · exact List.pairwise_singleton _ _
    · exact List.Pairwise.nil

end CronField

/-- The first value of an ascending list for which there is something: there is nothing for the values before it. -/
theorem findSome?_ascending {β : Type} {l : List Nat} {f : Nat → Option β} {b : β} (hl : l.Pairwise (· < ·))
    (h : l.findSome? f = some b) : ∃ a ∈ l, f a = some b ∧ ∀ x ∈ l, x < a → f x = none := by
  obtain ⟨before, a, after, rfl, ha, hnone⟩ := List.findSome?_eq_some_iff.1 h
  refine ⟨a, by simp, ha, fun x hx hlt => ?_⟩
  rcases List.mem_append.1 hx with hx | hx
  · exact hnone x hx
  · obtain ⟨_, hrest, _⟩ := List.pairwise_append.1 hl
    rcases List.mem_cons.1 hx with rfl | hx
    · omega
    · have := List.rel_of_pairwise_cons hrest hx
      omega

namespace Instant

/-- The instant at an hour and a minute of a day is on that day, at that hour and that minute. -/
theorem atMinute_fields (day : Int) {hour minute : Nat} (hhour : hour < 24) (hminute : minute < 60) :
    (atMinute day hour minute).day = day ∧ (atMinute day hour minute).hour = hour ∧
      (atMinute day hour minute).minute = minute ∧ (atMinute day hour minute).second = 0 := by
  have hday : (atMinute day hour minute).day = day := by
    unfold atMinute Instant.day
    simp only
    omega
  have hsecond : (atMinute day hour minute).secondOfDay = hour * 3600 + minute * 60 := by
    unfold atMinute secondOfDay
    simp only
    omega
  refine ⟨hday, ?_, ?_, ?_⟩
  · rw [Instant.hour, hsecond]
    omega
  · rw [Instant.minute, hsecond]
    omega
  · rw [Instant.second, hsecond]
    omega

/-- A whole minute is the instant at its hour and its minute on its day. -/
theorem eq_atMinute {t : Instant} (hnanos : t.nanos = 0) (hsecond : t.second = 0) : t = atMinute t.day t.hour t.minute := by
  obtain ⟨seconds, nanos⟩ := t
  unfold second secondOfDay at hsecond
  unfold atMinute day hour minute secondOfDay
  simp only at *
  simp only [mk.injEq]
  omega

/-- Instants of a day are ordered by their hours and minutes. -/
theorem atMinute_le {day : Int} {hour minute hour' minute' : Nat} (hminute : minute < 60)
    (h : hour < hour' ∨ hour = hour' ∧ minute ≤ minute') : atMinute day hour minute ≤ atMinute day hour' minute' := by
  rw [le_def]
  unfold atMinute
  simp only
  omega

/-- Instants on later days are later. -/
theorem lt_of_day_lt {t u : Instant} (h : t.day < u.day) : t < u := by
  rw [lt_def]
  unfold day at h
  omega

end Instant

namespace Recurrence

/-- Whether an instant is the first of a recurrence after another. -/
structure IsNext (r : Recurrence) (after t : Instant) : Prop where
  included : r.includes t = true
  later : after < t
  first : ∀ u, r.includes u = true → after < u → t ≤ u

/-- The instants of a recurrence are whole minutes at hours and minutes of its fields, on days of its fields. -/
theorem includes_iff {r : Recurrence} {t : Instant} : r.includes t = true ↔
    t.nanos = 0 ∧ t.second = 0 ∧ r.onDay t.day = true ∧ t.hour ∈ r.hour.valuesBelow 24 ∧ t.minute ∈ r.minute.valuesBelow 60 := by
  unfold includes
  rw [CronField.mem_valuesBelow, CronField.mem_valuesBelow]
  simp only [Bool.and_eq_true, beq_iff_eq, t.hour_lt, t.minute_lt, true_and]
  simp only [and_assoc]

/-- What the search of a day finds is the first instant of the day after another. -/
theorem nextOnDay_eq_some {r : Recurrence} {after t : Instant} {day : Int} (h : r.nextOnDay after day = some t) :
    r.includes t = true ∧ t.day = day ∧ after < t ∧ ∀ u, r.includes u = true → u.day = day → after < u → t ≤ u := by
  unfold nextOnDay at h
  split at h
  · cases h
  · rename_i hday
    rw [Bool.not_eq_true, Bool.not_eq_false'] at hday
    obtain ⟨hour, hhour, hfound, hhours⟩ := findSome?_ascending (CronField.pairwise_valuesBelow _ _) h
    obtain ⟨minute, hminute, hfound, hminutes⟩ := findSome?_ascending (CronField.pairwise_valuesBelow _ _) hfound
    obtain ⟨hd, hh, hm, hs⟩ := Instant.atMinute_fields day (CronField.mem_valuesBelow.1 hhour).1
      (CronField.mem_valuesBelow.1 hminute).1
    simp only at hfound
    split at hfound
    · rename_i hlater
      cases hfound
      refine ⟨includes_iff.2 ⟨rfl, hs, hd.symm ▸ hday, hh.symm ▸ hhour, hm.symm ▸ hminute⟩, hd, hlater, ?_⟩
      intro u hu hud hafter
      obtain ⟨hunanos, husecond, _, huhour, huminute⟩ := includes_iff.1 hu
      have heq := Instant.eq_atMinute hunanos husecond
      rw [hud] at heq
      have hnot : ¬u.hour < hour := by
        intro hlt
        have hnone := List.findSome?_eq_none_iff.1 (hhours u.hour huhour hlt) u.minute huminute
        simp only [← heq, hafter, if_true] at hnone
        cases hnone
      have hnot' : u.hour = hour → ¬u.minute < minute := by
        intro hsame hlt
        have hnone := hminutes u.minute huminute hlt
        simp only [← hsame, ← heq, hafter, if_true] at hnone
        cases hnone
      rw [heq]
      exact Instant.atMinute_le (CronField.mem_valuesBelow.1 hminute).1 (by omega)
    · cases hfound

/-- When the search of a day finds nothing, no instant of the day is after the other. -/
theorem nextOnDay_eq_none {r : Recurrence} {after : Instant} {day : Int} (h : r.nextOnDay after day = none) {u : Instant}
    (hu : r.includes u = true) (hud : u.day = day) : ¬after < u := by
  intro hafter
  obtain ⟨hunanos, husecond, huday, huhour, huminute⟩ := includes_iff.1 hu
  have heq := Instant.eq_atMinute hunanos husecond
  unfold nextOnDay at h
  rw [hud] at heq huday
  simp only [huday, Bool.not_true, Bool.false_eq_true, if_false] at h
  have hnone := List.findSome?_eq_none_iff.1 (List.findSome?_eq_none_iff.1 h u.hour huhour) u.minute huminute
  simp only [← heq, hafter, if_true] at hnone
  cases hnone

/-- What the search of some days finds is the first instant of these days, and of all later ones, after another. -/
theorem search_eq_some {r : Recurrence} {after t : Instant} {days : Nat} {day : Int} (h : r.search after days day = some t) :
    r.includes t = true ∧ after < t ∧ ∀ u, r.includes u = true → day ≤ u.day → after < u → t ≤ u := by
  induction days generalizing day with
  | zero => cases h
  | succ days ih =>
    unfold search at h
    split at h
    · rename_i found hfound
      cases h
      obtain ⟨hincluded, hday, hlater, hfirst⟩ := nextOnDay_eq_some hfound
      refine ⟨hincluded, hlater, fun u hu hud hafter => ?_⟩
      rcases Int.lt_or_eq_of_le hud with hlt | heq
      · exact (Instant.lt_of_day_lt (hday ▸ hlt)).le
      · exact hfirst u hu heq.symm hafter
    · rename_i hnone
      obtain ⟨hincluded, hlater, hfirst⟩ := ih h
      refine ⟨hincluded, hlater, fun u hu hud hafter => ?_⟩
      rcases Int.lt_or_eq_of_le hud with hlt | heq
      · exact hfirst u hu (by omega) hafter
      · exact absurd hafter (nextOnDay_eq_none hnone hu heq.symm)

/-- When the search of some days finds nothing, no instant of these days is after the other. -/
theorem search_eq_none {r : Recurrence} {after : Instant} {days : Nat} {day : Int} (h : r.search after days day = none)
    {u : Instant} (hu : r.includes u = true) (hafter : after < u) : u.day < day ∨ day + days ≤ u.day := by
  induction days generalizing day with
  | zero => omega
  | succ days ih =>
    unfold search at h
    split at h
    · cases h
    · rename_i hnone
      have hrest := ih h
      have hne : u.day ≠ day := fun heq => nextOnDay_eq_none hnone hu heq hafter
      omega

/-- What the search of some days finds lies on one of them. -/
theorem day_of_search {r : Recurrence} {after t : Instant} {days : Nat} {day : Int} (h : r.search after days day = some t) :
    day ≤ t.day ∧ t.day < day + days := by
  induction days generalizing day with
  | zero => cases h
  | succ days ih =>
    unfold search at h
    split at h
    · rename_i found hfound
      cases h
      obtain ⟨-, hday, -⟩ := nextOnDay_eq_some hfound
      omega
    · obtain ⟨hlow, hhigh⟩ := ih h
      omega

/-- What follows an instant within the horizon: the first instant of the recurrence after it, if there is one. -/
def Follows (r : Recurrence) (after : Instant) : Option Instant → Prop
  | some t => r.IsNext after t ∧ t.day ≤ after.day + horizon
  | none => ∀ t, r.includes t = true → after < t → after.day + horizon < t.day

/-- The search of the horizon finds what follows. -/
theorem follows_search (r : Recurrence) (after : Instant) : r.Follows after (r.search after (horizon + 1) after.day) := by
  cases hsearch : r.search after (horizon + 1) after.day with
  | some t =>
    obtain ⟨-, hhigh⟩ := day_of_search hsearch
    obtain ⟨hincluded, hlater, hfirst⟩ := search_eq_some hsearch
    exact ⟨⟨hincluded, hlater, fun u hu hu' => hfirst u hu (Instant.day_mono hu'.le) hu'⟩, by omega⟩
  | none =>
    intro t ht hlater
    have hoff := search_eq_none hsearch ht hlater
    have hday := Instant.day_mono hlater.le
    omega

/-- The search for the next instant finds what follows. -/
theorem follows_of_nextAfter {r : Recurrence} {after : Instant} {next : Option Instant} (h : r.nextAfter after = .ok next) :
    r.Follows after next := by
  unfold nextAfter at h
  split at h
  · cases h
  · rw [← Except.ok.inj h]
    exact follows_search r after

/-- Something follows an instant or nothing does. -/
theorem not_follows_none {r : Recurrence} {after t : Instant} (h : r.Follows after (some t)) : ¬r.Follows after none := by
  intro hnone
  have hbeyond := hnone t h.1.included h.1.later
  have hwithin := h.2
  omega

/-- What is found for an instant is the first instant of the recurrence after it. -/
theorem isNext_of_nextAfter {r : Recurrence} {after t : Instant} (h : r.nextAfter after = .ok (some t)) : r.IsNext after t :=
  (follows_of_nextAfter h).1

/-- There is only one first instant after another. -/
theorem IsNext.unique {r : Recurrence} {after t u : Instant} (ht : r.IsNext after t) (hu : r.IsNext after u) : t = u :=
  le_antisymm (ht.first u hu.included hu.later) (hu.first t ht.included ht.later)

/-! ### Recurrences of a unit and a start -/

/-- A pinned field has a value to try. -/
theorem exists_mem_valuesBelow_pin (pinned : Bool) {value bound : Nat} (h : value < bound) :
    ∃ v, v ∈ (CronField.pin pinned value).valuesBelow bound := by
  refine ⟨value, CronField.mem_valuesBelow.2 ⟨h, ?_⟩⟩
  cases pinned <;> simp [CronField.pin, CronField.agrees]

/-- A recurrence of a unit and a start recurs at least every eight years. -/
theorem exists_onDay (unit : TimeUnit) (start : Instant) (day : Int) :
    ∃ later : Nat, 1 ≤ later ∧ later ≤ 2921 ∧ (ofStart unit start).onDay (day + later) = true := by
  cases unit with
  | minutes => exact ⟨1, Nat.le_refl _, by decide, rfl⟩
  | hours => exact ⟨1, Nat.le_refl _, by decide, rfl⟩
  | days => exact ⟨1, Nat.le_refl _, by decide, rfl⟩
  | weeks =>
    obtain ⟨later, hone, hle, hweekday⟩ := Date.weekday_recurs start.day day
    refine ⟨later, hone, by omega, ?_⟩
    simp [onDay, ofStart, pinned, CronField.pin, CronField.agrees, weekdayFromMonday, hweekday]
  | months =>
    obtain ⟨later, hone, hle, hday⟩ := Date.day_recurs start.day day
    refine ⟨later, hone, hle, ?_⟩
    simp [onDay, ofStart, pinned, CronField.pin, CronField.agrees, Instant.date, hday]
  | years =>
    obtain ⟨later, hone, hle, hday, hmonth⟩ := Date.monthDay_recurs start.day day
    refine ⟨later, hone, hle, ?_⟩
    simp [onDay, ofStart, pinned, CronField.pin, CronField.agrees, Instant.date, hday, hmonth]

/-- A recurrence of a unit and a start has a first instant after every other, and finds it if the calendar goes on for the
horizon. -/
theorem exists_nextAfter (unit : TimeUnit) (start after : Instant) (h : after.day + horizon ≤ Date.lastDay) :
    ∃ t, (ofStart unit start).nextAfter after = .ok (some t) := by
  obtain ⟨later, hone, hle, hday⟩ := exists_onDay unit start after.day
  obtain ⟨hour, hhour⟩ := exists_mem_valuesBelow_pin (pinned unit).2.1 start.hour_lt
  obtain ⟨minute, hminute⟩ := exists_mem_valuesBelow_pin (pinned unit).1 start.minute_lt
  obtain ⟨hd, hh, hm, hs⟩ := Instant.atMinute_fields (after.day + later) (CronField.mem_valuesBelow.1 hhour).1
    (CronField.mem_valuesBelow.1 hminute).1
  have hincluded : (ofStart unit start).includes (.atMinute (after.day + later) hour minute) = true := by
    refine includes_iff.2 ⟨rfl, hs, hd.symm ▸ hday, ?_, ?_⟩
    · rw [hh]
      exact hhour
    · rw [hm]
      exact hminute
  have hlater : after < .atMinute (after.day + later) hour minute := by
    refine Instant.lt_of_day_lt ?_
    rw [hd]
    omega
  unfold nextAfter
  rw [if_neg (by omega)]
  cases hsearch : (ofStart unit start).search after (horizon + 1) after.day with
  | some t => exact ⟨t, rfl⟩
  | none =>
    have hoff := search_eq_none hsearch hincluded hlater
    rw [hd] at hoff
    unfold horizon at hoff
    omega

end Recurrence

end StandingQuery
