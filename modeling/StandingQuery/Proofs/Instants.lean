import Mathlib.Order.Lattice
import StandingQuery.Time.Instant

/-!
# Instants and their minutes

Instants are linearly ordered. An instant lies in the minute with which it agrees up to its seconds (`Instant.toMinute`), and
whole minutes are those instants that are their own minute.
-/

namespace StandingQuery

namespace Instant

/-- Instants are linearly ordered, by their seconds and then by their nanoseconds. -/
instance : LinearOrder Instant where
  le a b := a ≤ b
  lt a b := a < b
  le_refl a := Or.inr ⟨rfl, Nat.le_refl _⟩
  le_trans a b c := by
    simp only [le_def]
    omega
  lt_iff_le_not_ge a b := by
    simp only [le_def, lt_def]
    omega
  le_antisymm a b hab hba := by
    obtain ⟨s, n⟩ := a
    obtain ⟨s', n'⟩ := b
    simp only [le_def] at hab hba
    simp only [mk.injEq]
    omega
  le_total a b := by
    simp only [le_def]
    omega
  toDecidableLE := inferInstance
  max a b := max a b
  max_def a b := by
    change (if a < b then b else a) = _
    obtain ⟨s, n⟩ := a
    obtain ⟨s', n'⟩ := b
    simp only [lt_def, le_def]
    split <;> split <;> simp only [mk.injEq] <;> omega

theorem hour_lt (t : Instant) : t.hour < 24 := by
  unfold hour secondOfDay
  omega

theorem minute_lt (t : Instant) : t.minute < 60 := by
  unfold minute
  omega

theorem second_lt (t : Instant) : t.second < 60 := by
  unfold second
  omega

/-- The minute of an instant begins at it or before. -/
theorem toMinute_le (t : Instant) : t.toMinute ≤ t := by
  by_cases h : t.seconds % 60 = 0
  · exact Or.inr ⟨by simp only [toMinute]; omega, Nat.zero_le _⟩
  · exact Or.inl (by simp only [toMinute]; omega)

/-- Whole minutes. -/
def IsMinute (t : Instant) : Prop := t.nanos = 0 ∧ t.seconds % 60 = 0

theorem isMinute_toMinute (t : Instant) : t.toMinute.IsMinute := by
  refine ⟨rfl, ?_⟩
  simp only [toMinute]
  omega

/-- A whole minute that lies after an instant lies after the whole minute of the instant. -/
theorem lt_of_toMinute_lt {t u : Instant} (hu : u.IsMinute) : t.toMinute < u ↔ t < u := by
  obtain ⟨hnanos, hseconds⟩ := hu
  rw [lt_def, lt_def]
  unfold toMinute
  simp only
  omega

/-- An instant is on the day of its minute. -/
theorem day_toMinute (t : Instant) : t.toMinute.day = t.day := by
  unfold day toMinute
  simp only
  omega

/-- Instants on earlier days are earlier. -/
theorem day_mono {t u : Instant} (h : t ≤ u) : t.day ≤ u.day := by
  rw [le_def] at h
  unfold day
  omega

/-- A whole minute, moved by whole seconds, is later by them. -/
theorem lt_iff_of_isMinute {t u : Instant} (ht : t.IsMinute) (hu : u.IsMinute) : t < u ↔ t.seconds < u.seconds := by
  obtain ⟨htn, _⟩ := ht
  obtain ⟨hun, _⟩ := hu
  rw [lt_def, htn, hun]
  omega

end Instant

end StandingQuery
