import Mathlib.Data.List.TakeWhile
import StandingQuery.Proofs.Reports
import StandingQuery.Proofs.ScannedParts
import StandingQuery.Proofs.WrittenInstants
import StandingQuery.Time.Record

/-!
# Recorded instants

An instant of the calendar that a clock shows is read again from its text in a record, whatever its year (`Instant.decode_encode`).
Every instant that any of the grammars reads is one of these, and no others are (`Instant.parsed_iff`): none of the grammars reads as
much as a second of nanoseconds or an offset of anything but whole minutes.
-/

namespace StandingQuery

open Text

/-- Whether an instant is one that records hold: one of the calendar that a clock shows. -/
structure Instant.Recordable (t : Instant) : Prop where
  onClock : t.OnClock
  inCalendar : t.inCalendar = true

instance (t : Instant) : Decidable t.Recordable :=
  decidable_of_iff (t.OnClock ∧ t.inCalendar = true) ⟨fun h => ⟨h.1, h.2⟩, fun h => ⟨h.1, h.2⟩⟩

namespace Timestamp

/-! ## Reading what was written -/

/-- A written fraction begins with a point, if there is one. -/
theorem head_writeFraction (nanos : Nat) {zone : List Char} (hzone : ∀ d ∈ zone.head?, d.isDigit = false) :
    ∀ d ∈ (Instant.writeFraction nanos ++ zone).head?, d.isDigit = false := by
  intro d hd
  unfold Instant.writeFraction at hd
  split at hd
  · exact hzone d hd
  · split at hd
    · cases hd
      rfl
    · split at hd
      · cases hd
        rfl
      · cases hd
        rfl

/-- An instant as it stands in a record is read part by part. -/
theorem relaxed_write {t : Instant} (h : t.Recordable) : relaxed (t.write ['Z']) = .ok t := by
  obtain ⟨hlow, hhigh⟩ := Instant.year_bounds h.inCalendar
  obtain ⟨hmonth, hday⟩ := Date.ranges_of_exists (Instant.exists?_date h.inCalendar)
  have hfrom : (-0x80000000 : Int) ≤ t.date.year := le_trans (by decide) hlow
  have hupTo : t.date.year < 0x80000000 := lt_of_le_of_lt hhigh (by decide)
  have hhour : t.hour ≤ 23 := Nat.le_of_lt_succ t.hour_lt
  have hminute : t.minute ≤ 59 := Nat.le_of_lt_succ t.minute_lt
  have hsecond := t.writtenSecond_le
  have hnext {d : Char} {left : List Char} (hd : d.isDigit = false) : ∀ e ∈ (d :: left).head?, e.isDigit = false := by
    rintro e ⟨⟩
    exact hd
  have hzone : ∀ d ∈ ['Z'].head?, d.isDigit = false ∧ d ≠ '.' := by
    rintro d ⟨⟩
    decide
  have hfraction := fraction_writeFraction h.onClock.writtenNanos_lt hzone
  have hbehind := head_writeFraction t.writtenNanos fun d hd => (hzone d hd).1
  have hhyphen (left : List Char) : trimStart ('-' :: left) = '-' :: left := rfl
  have hcolon (left : List Char) : trimStart (':' :: left) = ':' :: left := rfl
  have hoffset : relaxedOffset (trimStart ['Z']) = .ok (0, []) := rfl
  have htext : t.write ['Z'] = Instant.writeYear t.date.year ++ '-' :: (fixedDigits 2 t.date.month ++
      '-' :: (fixedDigits 2 t.date.day ++ 'T' :: (fixedDigits 2 t.hour ++ ':' :: (fixedDigits 2 t.minute ++
        ':' :: (fixedDigits 2 t.writtenSecond ++ (Instant.writeFraction t.writtenNanos ++ ['Z'])))))) := by
    simp only [Instant.write, Instant.writeDate, Instant.writeTime_eq, List.append_assoc, List.cons_append]
  unfold relaxed
  rw [htext, yearPart_writeYear hfrom hupTo (hnext rfl)]
  simp only [bind, Except.bind, hhyphen, literal, if_true]
  rw [part_fixedDigits 1 12 (by omega) (hnext rfl), if_pos hmonth]
  simp only [hhyphen, if_true]
  rw [part_fixedDigits 1 31 (by omega) (hnext rfl), if_pos hday]
  simp only [separator, true_or, if_true]
  rw [part_fixedDigits 0 23 (by omega) (hnext rfl), if_pos ⟨Nat.zero_le _, hhour⟩]
  simp only [hcolon, if_true]
  rw [part_fixedDigits 0 59 (by omega) (hnext rfl), if_pos ⟨Nat.zero_le _, hminute⟩]
  simp only [hcolon, if_true]
  rw [part_fixedDigits 0 60 (by omega) hbehind, if_pos ⟨Nat.zero_le _, hsecond⟩]
  simp only [hfraction, hoffset]
  exact instant_ofInstant h.onClock h.inCalendar

end Timestamp

/-- An instant that is written in a record is read again from it. -/
theorem Instant.decode_encode {t : Instant} (h : t.Recordable) : Instant.decode t.encode = .ok t := by
  have hread : Timestamp.parseRecord t.toRecord = .ok t := by
    unfold Timestamp.parseRecord Instant.toRecord
    rw [String.toList_ofList]
    exact Timestamp.relaxed_write h
  unfold Instant.encode Instant.decode
  simp only [hread]

namespace Timestamp

/-! ## What is read -/

/-- Digits name a number below the power of ten of their count. -/
theorem decimalValue_lt {ds : List Char} (h : ∀ c ∈ ds, c.isDigit = true) : decimalValue ds < 10 ^ ds.length := by
  induction ds with
  | nil => decide
  | cons c ds ih =>
    have hrest := ih fun d hd => h d (List.mem_cons_of_mem _ hd)
    have hfirst : digitVal c ≤ 9 := by
      have hdigit := h c List.mem_cons_self
      simp only [Char.isDigit, Bool.and_eq_true, decide_eq_true_eq, UInt32.le_iff_toNat_le] at hdigit
      have hbelow : c.toNat ≤ 57 := hdigit.2
      unfold digitVal
      omega
    have hproduct := Nat.mul_le_mul_right (10 ^ ds.length) hfirst
    rw [decimalValue_cons, List.length_cons, pow_succ]
    omega

/-- A fraction is less than a second: no more than nine of its digits count. -/
theorem nanoseconds_lt {s rest : List Char} {n : Nat} (h : nanoseconds s = .ok (n, rest)) : n < Instant.billion := by
  have hdigits : ∀ c ∈ (s.takeWhile Char.isDigit).take 9, c.isDigit = true :=
    fun c hc => List.mem_takeWhile_imp (List.mem_of_mem_take hc)
  have hcount : ((s.takeWhile Char.isDigit).take 9).length ≤ 9 := List.length_take_le 9 _
  have hvalue := decimalValue_lt hdigits
  unfold nanoseconds at h
  split at h
  · cases h
  · cases h
    calc decimalValue ((s.takeWhile Char.isDigit).take 9) * Nat.pow 10 (9 - ((s.takeWhile Char.isDigit).take 9).length)
        < 10 ^ ((s.takeWhile Char.isDigit).take 9).length * 10 ^ (9 - ((s.takeWhile Char.isDigit).take 9).length) :=
          Nat.mul_lt_mul_of_pos_right hvalue (Nat.pow_pos (by decide))
      _ = Instant.billion := by
          rw [← pow_add, Nat.add_sub_cancel' hcount]
          rfl

theorem fraction_lt {s rest : List Char} {n : Nat} (h : fraction s = .ok (n, rest)) : n < Instant.billion := by
  unfold fraction at h
  split at h
  · exact nanoseconds_lt h
  · cases h
    decide

/-- An offset is of whole minutes. -/
theorem offset_wholeMinutes {between : List Char → Scan Unit} {s rest : List Char} {ahead : Int}
    (h : offset between s = .ok (ahead, rest)) : ahead % 60 = 0 := by
  unfold offset at h
  simp only [bind_eq_ok] at h
  obtain ⟨⟨negative, _⟩, -, ⟨hours, _⟩, -, -, -, ⟨minutes, _⟩, -, hlast⟩ := h
  cases hlast
  cases negative <;> simp <;> omega

theorem strictOffset_wholeMinutes {s rest : List Char} {ahead : Int} (h : strictOffset s = .ok (ahead, rest)) :
    ahead % 60 = 0 := by
  unfold strictOffset at h
  split at h
  · cases h
  · split at h
    · cases h
      rfl
    · exact offset_wholeMinutes h

theorem relaxedOffset_wholeMinutes {s rest : List Char} {ahead : Int} (h : relaxedOffset s = .ok (ahead, rest)) :
    ahead % 60 = 0 := by
  unfold relaxedOffset at h
  split at h
  · cases h
  · split at h
    · cases h
      rfl
    · split at h
      · cases h
        rfl
      · exact offset_wholeMinutes h

/-- Parts with less than a second of nanoseconds and an offset of whole minutes name an instant that records hold. -/
theorem recordable_of_instant {f : Fields} {t : Instant} (h : f.instant = .ok t) (hnanos : f.nanos < Instant.billion)
    (hoffset : f.offset % 60 = 0) : t.Recordable := by
  unfold Fields.instant at h
  dsimp only at h
  split at h
  · cases h
  rename_i hclock
  have hsecond : f.second ≤ 60 := by
    simp only [isClockTime, Bool.or_eq_true, Bool.not_eq_true', Bool.and_eq_false_iff, decide_eq_false_iff_not] at hclock
    omega
  split at h
  · cases h
  by_cases hleap : f.second = 60
  · simp only [hleap, if_true] at h
    split at h
    · rename_i hcalendar
      cases h
      refine ⟨Or.inr ?_, hcalendar⟩
      unfold Instant.second Instant.secondOfDay
      dsimp only
      omega
    · cases h
  · simp only [hleap, if_false] at h
    split at h
    · rename_i hcalendar
      cases h
      exact ⟨Or.inl hnanos, hcalendar⟩
    · cases h

theorem finish_eq_ok {f g : Fields} {s : List Char} (h : finish f s = .ok g) : g = f := by
  unfold finish at h
  split at h <;> cases h
  rfl

/-- RFC 3339 reads only instants that records hold. -/
theorem recordable_of_strict {s : List Char} {t : Instant} (h : strict s = .ok t) : t.Recordable := by
  unfold strict strictFields at h
  simp only [bind_eq_ok, throw_if_eq_ok] at h
  obtain ⟨f, ⟨-, _, -, _, -, _, -, _, -, _, -, -, _, -, _, -, _, -, _, -, _, -, _, -, ⟨nanos, _⟩, hnanos, -, ⟨ahead, _⟩, hahead,
    hfinish⟩, hinstant⟩ := h
  cases finish_eq_ok hfinish
  exact recordable_of_instant hinstant (fraction_lt hnanos) (strictOffset_wholeMinutes hahead)

/-- So do parts of any width with a numeric offset. -/
theorem recordable_of_numeric {s : List Char} {t : Instant} (h : numeric s = .ok t) : t.Recordable := by
  unfold numeric at h
  simp only [bind_eq_ok] at h
  obtain ⟨_, -, _, -, _, -, _, -, _, -, _, -, _, -, _, -, _, -, _, -, _, -, ⟨nanos, _⟩, hnanos, ⟨ahead, _⟩, hahead, f, hfinish,
    hinstant⟩ := h
  cases finish_eq_ok hfinish
  exact recordable_of_instant hinstant (fraction_lt hnanos) (offset_wholeMinutes hahead)

/-- So does the form in records. -/
theorem recordable_of_relaxed {s : List Char} {t : Instant} (h : relaxed s = .ok t) : t.Recordable := by
  unfold relaxed at h
  simp only [bind_eq_ok] at h
  obtain ⟨_, -, _, -, _, -, _, -, _, -, _, -, _, -, _, -, _, -, _, -, _, -, ⟨nanos, _⟩, hnanos, ⟨ahead, _⟩, hahead, f, hfinish,
    hinstant⟩ := h
  cases finish_eq_ok hfinish
  exact recordable_of_instant hinstant (fraction_lt hnanos) (relaxedOffset_wholeMinutes hahead)

/-- A schedule's timestamp names an instant that records hold. -/
theorem recordable_of_parse {text : String} {t : Instant} (h : parse text = .ok t) : t.Recordable := by
  unfold parse at h
  split at h
  · rename_i hstrict
    cases h
    exact recordable_of_strict hstrict
  · exact recordable_of_numeric h

end Timestamp

/-- Whether an instant is read from some text: the timestamp of a schedule, or that of a record or of a registry's row. -/
def Instant.Parsed (t : Instant) : Prop :=
  ∃ text : String, Timestamp.parse text = .ok t ∨ Timestamp.parseRecord text = .ok t ∨ Timestamp.parseRow text = .ok t

/-- The instants that are read are those that records hold. -/
theorem Instant.parsed_iff {t : Instant} : t.Parsed ↔ t.Recordable := by
  constructor
  · rintro ⟨text, h | h | h⟩
    · exact Timestamp.recordable_of_parse h
    · exact Timestamp.recordable_of_relaxed h
    · exact Timestamp.recordable_of_strict h
  · intro h
    refine ⟨t.toRecord, Or.inr (Or.inl ?_)⟩
    unfold Timestamp.parseRecord Instant.toRecord
    rw [String.toList_ofList]
    exact Timestamp.relaxed_write h

end StandingQuery
