import StandingQuery.Proofs.CalendarDates
import StandingQuery.Proofs.Instants
import StandingQuery.Proofs.WrittenDigits
import StandingQuery.Time.Timestamp
import StandingQuery.Time.Written

/-!
# Written instants

An instant whose year has four digits, written with an offset of zero, is read again by RFC 3339 as the same instant, to the
nanosecond and with its leap second (`Timestamp.strict_write`).
-/

namespace StandingQuery

namespace Instant

/-- Whether an instant is one that a clock shows: it has less than a second of nanoseconds, or is in a leap second, which is
the 60th of its minute. -/
def OnClock (t : Instant) : Prop := t.nanos < billion ∨ t.nanos < 2 * billion ∧ t.second = 59

/-- Whether the year of an instant is written with four digits. -/
def FourDigitYear (t : Instant) : Prop := 0 ≤ t.date.year ∧ t.date.year ≤ 9999

instance (t : Instant) : Decidable t.OnClock := inferInstanceAs (Decidable (_ ∨ _))

instance (t : Instant) : Decidable t.FourDigitYear := inferInstanceAs (Decidable (_ ∧ _))

/-- The seconds of an instant are those of its day, its hour, its minute and its second. -/
theorem seconds_eq (t : Instant) :
    t.seconds = t.date.toDays * 86400 + (t.hour * 3600 + t.minute * 60 + t.second : Nat) := by
  rw [date, Date.toDays_ofDays]
  unfold day hour minute second secondOfDay
  omega

/-- An instant whose year has four digits lies in the calendar. -/
theorem FourDigitYear.inCalendar {t : Instant} (h : t.FourDigitYear) : t.inCalendar = true := by
  obtain ⟨hlow, hhigh⟩ := h
  unfold date at hlow hhigh
  have hfirst : Date.firstDay ≤ t.day := by
    by_contra hbefore
    have hyear := Date.year_mono (Int.le_of_lt (not_le.1 hbefore))
    have hfirstYear : (Date.ofDays Date.firstDay).year = -262143 := by decide
    omega
  have hlast : t.day ≤ Date.lastDay := by
    by_contra hafter
    have hyear := Date.year_mono (Int.le_of_lt (not_le.1 hafter))
    have hlastYear : (Date.ofDays Date.lastDay).year = 262142 := by decide
    omega
  simp [Instant.inCalendar, hfirst, hlast]

/-- The year of an instant in the calendar is one of the calendar. -/
theorem year_bounds {t : Instant} (h : t.inCalendar = true) : Date.firstYear ≤ t.date.year ∧ t.date.year ≤ Date.lastYear := by
  simp only [Instant.inCalendar, Bool.and_eq_true, decide_eq_true_eq] at h
  have hfirst := Date.year_mono h.1
  have hlast := Date.year_mono h.2
  have hfirstYear : (Date.ofDays Date.firstDay).year = Date.firstYear := by decide
  have hlastYear : (Date.ofDays Date.lastDay).year = Date.lastYear := by decide
  rw [hfirstYear] at hfirst
  rw [hlastYear] at hlast
  exact ⟨hfirst, hlast⟩

/-- The date of an instant in the calendar exists. -/
theorem exists?_date {t : Instant} (h : t.inCalendar = true) : t.date.exists? = true :=
  Date.exists?_ofDays (year_bounds h).1 (year_bounds h).2

/-- The second that is written of an instant: a leap second is the 60th. -/
def writtenSecond (t : Instant) : Nat := if billion ≤ t.nanos then t.second + 1 else t.second

/-- The nanoseconds that are written of an instant: those of the leap second, if it is in one. -/
def writtenNanos (t : Instant) : Nat := if billion ≤ t.nanos then t.nanos - billion else t.nanos

theorem OnClock.writtenNanos_lt {t : Instant} (h : t.OnClock) : t.writtenNanos < billion := by
  unfold OnClock at h
  unfold writtenNanos
  split <;> omega

theorem writtenSecond_le (t : Instant) : t.writtenSecond ≤ 60 := by
  have hsecond := t.second_lt
  unfold writtenSecond
  split <;> omega

/-- A clock shows the time of day as it is written. -/
theorem isClockTime_written (t : Instant) : Timestamp.isClockTime t.hour t.minute t.writtenSecond = true := by
  have hminute := t.minute_lt
  have hhour := t.hour_lt
  have hsecond := t.writtenSecond_le
  simp only [Timestamp.isClockTime, Bool.and_eq_true, decide_eq_true_eq]
  omega

/-- The time of day as it is written, part by part. -/
theorem writeTime_eq (t : Instant) : t.writeTime =
    Text.fixedDigits 2 t.hour ++ ':' :: Text.fixedDigits 2 t.minute ++ ':' :: Text.fixedDigits 2 t.writtenSecond ++
      writeFraction t.writtenNanos := by
  rfl

end Instant

namespace Text

theorem length_le_byteCount (s : List Char) : s.length ≤ byteCount s := by
  induction s with
  | nil => exact Nat.le_refl _
  | cons c s ih =>
    have hpos := c.utf8Size_pos
    rw [List.length_cons, byteCount]
    omega

end Text

namespace Timestamp

open Text

/-- A written fraction is read up to what is neither a digit nor a point. -/
theorem fraction_writeFraction {nanos : Nat} (h : nanos < Instant.billion) {rest : List Char}
    (hrest : ∀ c ∈ rest.head?, c.isDigit = false ∧ c ≠ '.') :
    fraction (Instant.writeFraction nanos ++ rest) = .ok (nanos, rest) := by
  have hdigits : ∀ c ∈ rest.head?, c.isDigit = false := fun c hc => (hrest c hc).1
  unfold Instant.billion at h
  unfold Instant.writeFraction
  split
  · rename_i hzero
    subst hzero
    cases rest with
    | nil => rfl
    | cons c rest =>
      have hpoint := (hrest c rfl).2
      unfold fraction
      split
      · rename_i heq
        exact absurd (List.cons.inj heq).1 hpoint
      · rfl
  · split
    · rename_i hgroups
      change nanoseconds (fixedDigits 3 (nanos / 1000000) ++ rest) = _
      rw [nanoseconds_fixedDigits (by decide) (by decide) (by omega) hdigits]
      norm_num
      omega
    · split
      · rename_i hgroups
        change nanoseconds (fixedDigits 6 (nanos / 1000) ++ rest) = _
        rw [nanoseconds_fixedDigits (by decide) (by decide) (by omega) hdigits]
        norm_num
        omega
      · change nanoseconds (fixedDigits 9 nanos ++ rest) = _
        rw [nanoseconds_fixedDigits (by decide) (by decide) (by omega) hdigits]
        norm_num

/-- The parts of an instant as they are written, with the offset that is written behind them. -/
def Fields.ofInstant (t : Instant) (offset : Int) : Fields :=
  ⟨t.date.year, t.date.month, t.date.day, t.hour, t.minute, t.writtenSecond, t.writtenNanos, offset⟩

/-- The parts of a written instant name it. -/
theorem instant_ofInstant {t : Instant} (hclock : t.OnClock) (hcalendar : t.inCalendar = true) :
    (Fields.ofInstant t 0).instant = .ok t := by
  have hexists : Date.exists? ⟨t.date.year, t.date.month, t.date.day⟩ = true := Instant.exists?_date hcalendar
  have hshown := t.isClockTime_written
  have hcounted : (if t.writtenSecond = 60 then 59 else t.writtenSecond) = t.second ∧
      (if t.writtenSecond = 60 then t.writtenNanos + Instant.billion else t.writtenNanos) = t.nanos := by
    have hbelow := t.second_lt
    unfold Instant.OnClock at hclock
    unfold Instant.writtenSecond Instant.writtenNanos
    by_cases hleap : Instant.billion ≤ t.nanos
    · simp only [hleap, if_true]
      have hlast : t.second = 59 := by omega
      rw [hlast]
      exact ⟨rfl, Nat.sub_add_cancel hleap⟩
    · simp only [hleap, if_false]
      have hnot : t.second ≠ 60 := by omega
      simp only [hnot, if_false, and_self]
  have hsame : (⟨Date.toDays ⟨t.date.year, t.date.month, t.date.day⟩ * 86400 +
      (t.hour * 3600 + t.minute * 60 + t.second : Nat) - 0, t.nanos⟩ : Instant) = t := by
    have hseconds := t.seconds_eq
    rw [sub_zero, ← hseconds]
  unfold Fields.instant Fields.ofInstant
  simp only [hexists, hshown, hcounted.1, hcounted.2, hsame]
  simp [hcalendar]

/-- Parts of fixed widths and a fraction are taken as what they name by RFC 3339, if the date exists and a clock shows the time; the
offset is looked at last. -/
theorem strictFields_fixedDigits {year month day hour minute second nanos : Nat} {fractional zone : List Char}
    (hyear : year < 10 ^ 4) (hmonth : month < 10 ^ 2) (hday : day < 10 ^ 2) (hhour : hour < 10 ^ 2) (hminute : minute < 10 ^ 2)
    (hsecond : second < 10 ^ 2) (hshown : isClockTime hour minute second = true)
    (hfraction : fraction (fractional ++ zone) = .ok (nanos, zone)) :
    strictFields (fixedDigits 4 year ++ '-' :: (fixedDigits 2 month ++ '-' :: (fixedDigits 2 day ++ 'T' :: (fixedDigits 2 hour ++
      ':' :: (fixedDigits 2 minute ++ ':' :: (fixedDigits 2 second ++ (fractional ++ zone))))))) =
        if Date.exists? ⟨year, month, day⟩ then do
          let (offset, left) ← strictOffset zone
          finish ⟨year, month, day, hour, minute, second, nanos, offset⟩ left
        else .error .outOfRange := by
  generalize htext : fixedDigits 4 year ++ _ = text
  have hlong : ¬byteCount text < 19 := by
    have hlength := congrArg List.length htext
    have hbytes := length_le_byteCount text
    simp only [List.length_append, List.length_cons, length_fixedDigits] at hlength
    omega
  unfold strictFields
  simp only [hlong, if_false]
  rw [← htext]
  simp only [fixed_fixedDigits, Nat.mod_eq_of_lt hyear, Nat.mod_eq_of_lt hmonth, Nat.mod_eq_of_lt hday, Nat.mod_eq_of_lt hhour,
    Nat.mod_eq_of_lt hminute, Nat.mod_eq_of_lt hsecond, literal, separator, if_true, if_false, hshown, hfraction,
    bind, Except.bind, Bool.not_true, Bool.false_eq_true, true_or]
  cases hdate : Date.exists? ⟨year, month, day⟩ <;> rfl

/-- What is written of an instant is read as its parts by RFC 3339. -/
theorem strictFields_write {t : Instant} (hclock : t.OnClock) (hyear : t.FourDigitYear) {zone : List Char} {offset : Int}
    (hzone : strictOffset zone = .ok (offset, [])) (hhead : ∀ c ∈ zone.head?, c.isDigit = false ∧ c ≠ '.') :
    strictFields (t.write zone) = .ok (.ofInstant t offset) := by
  have hexists : Date.exists? ⟨t.date.year, t.date.month, t.date.day⟩ = true := Instant.exists?_date hyear.inCalendar
  obtain ⟨hlow, hhigh⟩ := hyear
  have hcast : ((t.date.year.toNat : Nat) : Int) = t.date.year := Int.toNat_of_nonneg hlow
  have hyear : t.date.year.toNat < 10 ^ 4 := by omega
  have hmonth : t.date.month < 10 ^ 2 := lt_of_le_of_lt (Date.month_bounds t.day).2 (by decide)
  have hday : t.date.day < 10 ^ 2 := lt_of_le_of_lt (Date.day_le t.day) (by decide)
  have hhour := t.hour_lt
  have hminute := t.minute_lt
  have hsecond := t.writtenSecond_le
  have hfraction := fraction_writeFraction hclock.writtenNanos_lt hhead
  have hread := strictFields_fixedDigits hyear hmonth hday (by omega) (by omega) (by omega) t.isClockTime_written hfraction
  rw [hcast, if_pos hexists, hzone] at hread
  unfold Instant.write Instant.writeDate Instant.writeYear
  rw [if_pos ⟨hlow, hhigh⟩, Instant.writeTime_eq]
  simpa only [List.append_assoc, List.cons_append, Fields.ofInstant, bind, Except.bind, finish] using hread

/-- An instant that is written with an offset of zero is read again by RFC 3339. -/
theorem strict_write {t : Instant} (hclock : t.OnClock) (hyear : t.FourDigitYear) {zone : List Char}
    (hzone : strictOffset zone = .ok (0, [])) (hhead : ∀ c ∈ zone.head?, c.isDigit = false ∧ c ≠ '.') :
    strict (t.write zone) = .ok t := by
  unfold strict
  rw [strictFields_write hclock hyear hzone hhead]
  exact instant_ofInstant hclock hyear.inCalendar

/-- The instant of a row is read again from it. -/
theorem parseRow_toRow {t : Instant} (hclock : t.OnClock) (hyear : t.FourDigitYear) : parseRow t.toRow = .ok t := by
  unfold parseRow Instant.toRow
  rw [String.toList_ofList]
  refine strict_write hclock hyear rfl ?_
  rintro _ ⟨⟩
  decide

end Timestamp

end StandingQuery
