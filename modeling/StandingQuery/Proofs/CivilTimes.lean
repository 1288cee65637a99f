import StandingQuery.Proofs.ScannedParts
import StandingQuery.Proofs.WrittenInstants

/-!
# Civil times

A date and a time of day, written in digits with an offset behind them, name the instant at which a clock that is ahead by the
offset shows them, however the offset is spelled; they name nothing if the date does not exist (`Timestamp.parse_civil`). The two
grammars of a schedule's timestamp share the spellings: RFC 3339 takes a `Z` and an offset with a colon, the other one takes an offset
without a colon.
-/

namespace StandingQuery

open Text

/-- A date and a time of day as they are written: the year in four digits, the rest in two each, and any number of decimal places of
the second. A second of 60 is a leap second. -/
structure CivilTime where
  year : Nat
  month : Nat
  day : Nat
  hour : Nat
  minute : Nat
  second : Nat
  places : List Char
  year_le : year ≤ 9999
  month_le : month ≤ 99
  day_le : day ≤ 99
  hour_le : hour ≤ 23
  minute_le : minute ≤ 59
  second_le : second ≤ 60
  isDigit_places : ∀ c ∈ places, c.isDigit = true

/-- The spellings of an offset of whole minutes that is less than a day. -/
inductive OffsetSpelling where
  | zulu
  | signed (negative : Bool) (hours : Fin 24) (minutes : Fin 60) (colon : Bool)
  deriving DecidableEq, Repr

namespace OffsetSpelling

/-- The seconds by which a clock with an offset is ahead. -/
def seconds : OffsetSpelling → Int
  | zulu => 0
  | signed negative hours minutes _ =>
    let ahead : Int := (hours.1 * 3600 + minutes.1 * 60 : Nat)
    if negative then -ahead else ahead

/-- An offset as it is spelled. -/
def write : OffsetSpelling → List Char
  | zulu => ['Z']
  | signed negative hours minutes colon =>
    (if negative then '-' else '+') :: (fixedDigits 2 hours.1 ++ ((if colon then [':'] else []) ++ fixedDigits 2 minutes.1))

theorem seconds_bounds (z : OffsetSpelling) : -86400 < z.seconds ∧ z.seconds < 86400 := by
  cases z with
  | zulu => decide
  | signed negative hours minutes colon =>
    have hhours := hours.2
    have hminutes := minutes.2
    unfold seconds
    cases negative <;> simp <;> omega

/-- An offset is spelled with neither a digit nor a point in front. -/
theorem head_write (z : OffsetSpelling) : ∀ c ∈ z.write.head?, c.isDigit = false ∧ c ≠ '.' := by
  rintro c hc
  cases z with
  | zulu =>
    cases hc
    decide
  | signed negative hours minutes colon =>
    cases negative <;> cases hc <;> decide

end OffsetSpelling

namespace CivilTime

/-- The date of a civil time, which may not exist. -/
def date (c : CivilTime) : Date := ⟨c.year, c.month, c.day⟩

/-- The decimal places of the second, behind a point if there are any. -/
def writePlaces (c : CivilTime) : List Char := if c.places = [] then [] else '.' :: c.places

/-- A civil time as it is written, with what stands behind it. -/
def writeBefore (c : CivilTime) (zone : List Char) : List Char :=
  fixedDigits 4 c.year ++ '-' :: (fixedDigits 2 c.month ++ '-' :: (fixedDigits 2 c.day ++ 'T' :: (fixedDigits 2 c.hour ++
    ':' :: (fixedDigits 2 c.minute ++ ':' :: (fixedDigits 2 c.second ++ (c.writePlaces ++ zone))))))

/-- A civil time as it is written with an offset. -/
def text (c : CivilTime) (z : OffsetSpelling) : String := String.ofList (c.writeBefore z.write)

/-- The instant at which a clock that is ahead by some seconds shows a civil time: a leap second is counted at the second before. -/
def instant (c : CivilTime) (ahead : Int) : Instant where
  seconds := c.date.toDays * 86400 + (c.hour * 3600 + c.minute * 60 + min c.second 59 : Nat) - ahead
  nanos := Timestamp.billionths c.places + if c.second = 60 then Instant.billion else 0

end CivilTime

/-- Whether the clock of Coordinated Universal Time shows a civil time at an instant. -/
structure Instant.Shows (t : Instant) (c : CivilTime) : Prop where
  date : t.date = c.date
  hour : t.hour = c.hour
  minute : t.minute = c.minute
  second : t.second = min c.second 59
  nanos : t.nanos = Timestamp.billionths c.places + if c.second = 60 then Instant.billion else 0

namespace CivilTime

variable (c : CivilTime)

/-- A clock that is ahead shows the civil time at its instant. -/
theorem instant_shows (h : c.date.exists? = true) (ahead : Int) : ((c.instant ahead).shift ahead).Shows c := by
  have hhour := c.hour_le
  have hminute := c.minute_le
  have hclock : c.hour * 3600 + c.minute * 60 + min c.second 59 < 86400 := by omega
  have hseconds : ((c.instant ahead).shift ahead).seconds =
      c.date.toDays * 86400 + (c.hour * 3600 + c.minute * 60 + min c.second 59 : Nat) := Int.sub_add_cancel _ _
  have hday : ((c.instant ahead).shift ahead).day = c.date.toDays := by
    unfold Instant.day
    rw [hseconds]
    omega
  have hofDay : ((c.instant ahead).shift ahead).secondOfDay = c.hour * 3600 + c.minute * 60 + min c.second 59 := by
    unfold Instant.secondOfDay
    rw [hseconds]
    omega
  refine ⟨?_, ?_, ?_, ?_, rfl⟩
  · rw [Instant.date, hday]
    exact Date.ofDays_toDays h
  · rw [Instant.hour, hofDay]
    omega
  · rw [Instant.minute, hofDay]
    omega
  · rw [Instant.second, hofDay]
    omega

/-- The day of a civil time lies well within the calendar. -/
theorem toDays_bounds (h : c.date.exists? = true) : -800000 ≤ c.date.toDays ∧ c.date.toDays ≤ 3000000 := by
  obtain ⟨-, -, hlow, hhigh⟩ := Date.dayFromMarch_of_exists h
  have hyear := c.year_le
  have hfromMarch : -1 ≤ c.date.yearFromMarch ∧ c.date.yearFromMarch ≤ 9999 := by
    unfold Date.yearFromMarch date
    simp only
    split <;> omega
  have hdays : c.date.toDays = c.date.yearFromMarch / 400 * 146097 + (c.date.yearFromMarch % 400 * 365 +
      c.date.yearFromMarch % 400 / 4 - c.date.yearFromMarch % 400 / 100 + c.date.dayFromMarch) - 719468 := rfl
  omega

/-- The instant of a civil time with a written offset lies in the calendar. -/
theorem instant_inCalendar (h : c.date.exists? = true) (z : OffsetSpelling) : (c.instant z.seconds).inCalendar = true := by
  obtain ⟨hlow, hhigh⟩ := c.toDays_bounds h
  obtain ⟨hbehind, hahead⟩ := z.seconds_bounds
  have hhour := c.hour_le
  have hminute := c.minute_le
  have hfirst : Date.firstDay ≤ -800002 := by decide
  have hlast : 3000002 ≤ Date.lastDay := by decide
  have hday : -800002 ≤ (c.instant z.seconds).day ∧ (c.instant z.seconds).day ≤ 3000002 := by
    unfold Instant.day instant
    simp only
    omega
  simp only [Instant.inCalendar, Bool.and_eq_true, decide_eq_true_eq]
  omega

end CivilTime

namespace Timestamp

/-- The parts of a civil time with an offset. -/
def Fields.ofCivil (c : CivilTime) (offset : Int) : Fields :=
  ⟨c.year, c.month, c.day, c.hour, c.minute, c.second, billionths c.places, offset⟩

variable (c : CivilTime)

theorem isClockTime_civil : isClockTime c.hour c.minute c.second = true := by
  simp [isClockTime, c.hour_le, c.minute_le, c.second_le]

/-- The parts of a civil time with a written offset name its instant, if its date exists. -/
theorem instant_ofCivil (z : OffsetSpelling) :
    (Fields.ofCivil c z.seconds).instant =
      if c.date.exists? then .ok (c.instant z.seconds) else .error .outOfRange := by
  obtain ⟨hbehind, hahead⟩ := z.seconds_bounds
  have hclock := isClockTime_civil c
  have hoffset : ¬(z.seconds ≤ -86400 ∨ 86400 ≤ z.seconds) := by omega
  have hexists : Date.exists? ⟨c.year, c.month, c.day⟩ = c.date.exists? := rfl
  unfold Fields.instant Fields.ofCivil
  simp only [hclock, hexists, hoffset, if_false]
  by_cases hdate : c.date.exists? = true
  · have hcalendar := c.instant_inCalendar hdate z
    have hsame : (⟨c.date.toDays * 86400 + (c.hour * 3600 + c.minute * 60 + if c.second = 60 then 59 else c.second : Nat) -
        z.seconds, if c.second = 60 then billionths c.places + Instant.billion else billionths c.places⟩ : Instant) =
          c.instant z.seconds := by
      have hsecond := c.second_le
      unfold CivilTime.instant
      by_cases hleap : c.second = 60
      · simp [hleap]
      · have hbefore : min c.second 59 = c.second := by omega
        simp [hleap, hbefore]
    have hdays : Date.toDays ⟨c.year, c.month, c.day⟩ = c.date.toDays := rfl
    simp only [hdate, hdays, hsame, hcalendar, Bool.not_true, Bool.or_self, Bool.false_eq_true, if_true, if_false]
  · rw [Bool.not_eq_true] at hdate
    simp [hdate]

/-- The decimal places of the second are taken up to what is neither a digit nor a point. -/
theorem fraction_writePlaces {zone : List Char} (hzone : ∀ d ∈ zone.head?, d.isDigit = false ∧ d ≠ '.') :
    fraction (c.writePlaces ++ zone) = .ok (billionths c.places, zone) := by
  unfold CivilTime.writePlaces
  by_cases hnone : c.places = []
  · rw [if_pos hnone, hnone]
    cases zone with
    | nil => rfl
    | cons d zone =>
      have hpoint := (hzone d rfl).2
      unfold fraction
      split
      · rename_i heq
        exact absurd (List.cons.inj heq).1 hpoint
      · rfl
  · rw [if_neg hnone]
    exact nanoseconds_digits c.isDigit_places hnone fun d hd => (hzone d hd).1

/-- RFC 3339 takes the parts of a civil time unless the date does not exist, and looks at the offset last. -/
theorem strict_writeBefore {zone : List Char} (hhead : ∀ d ∈ zone.head?, d.isDigit = false ∧ d ≠ '.') :
    strict (c.writeBefore zone) =
      if c.date.exists? then do
        let (ahead, left) ← strictOffset zone
        (← finish (.ofCivil c ahead) left).instant
      else .error .outOfRange := by
  have hyear : c.year < 10 ^ 4 := Nat.lt_succ_of_le c.year_le
  have hmonth : c.month < 10 ^ 2 := Nat.lt_succ_of_le c.month_le
  have hday : c.day < 10 ^ 2 := Nat.lt_succ_of_le c.day_le
  have hhour := c.hour_le
  have hminute := c.minute_le
  have hsecond := c.second_le
  have hread := strictFields_fixedDigits hyear hmonth hday (by omega) (by omega) (by omega) (isClockTime_civil c)
    (fraction_writePlaces c hhead)
  have hexists : Date.exists? ⟨c.year, c.month, c.day⟩ = c.date.exists? := rfl
  unfold strict CivilTime.writeBefore
  rw [hread, hexists]
  cases c.date.exists? with
  | false => rfl
  | true =>
    simp only [if_true, Fields.ofCivil]
    cases strictOffset zone <;> rfl

/-- The other grammar takes the parts of a civil time one by one: a month or a day that never exists is out of range at once. -/
theorem numeric_writeBefore {zone : List Char} (hhead : ∀ d ∈ zone.head?, d.isDigit = false ∧ d ≠ '.') :
    numeric (c.writeBefore zone) =
      if (1 ≤ c.month ∧ c.month ≤ 12) ∧ 1 ≤ c.day ∧ c.day ≤ 31 then do
        let (ahead, left) ← offset colonsOrBlanks (trimStart zone)
        (← finish (.ofCivil c ahead) left).instant
      else .error .outOfRange := by
  have hyear := c.year_le
  have hmonth := c.month_le
  have hday := c.day_le
  have hhour := c.hour_le
  have hminute := c.minute_le
  have hsecond := c.second_le
  have hnext {d : Char} {left : List Char} (hd : d.isDigit = false) : ∀ e ∈ (d :: left).head?, e.isDigit = false := by
    rintro e ⟨⟩
    exact hd
  have hplaces : ∀ e ∈ (c.writePlaces ++ zone).head?, e.isDigit = false := by
    intro d hd
    unfold CivilTime.writePlaces at hd
    split at hd
    · exact (hhead d hd).1
    · cases hd
      rfl
  unfold numeric CivilTime.writeBefore
  rw [← writeYear_natCast hyear, yearPart_writeYear (by omega) (by omega) (hnext rfl)]
  simp only [bind, Except.bind, literal, if_true]
  rw [part_fixedDigits 1 12 (by omega) (hnext rfl)]
  by_cases hmonths : 1 ≤ c.month ∧ c.month ≤ 12
  · simp only [hmonths, and_self, if_true, true_and]
    rw [part_fixedDigits 1 31 (by omega) (hnext rfl)]
    by_cases hdays : 1 ≤ c.day ∧ c.day ≤ 31
    · simp only [hdays, and_self, if_true]
      rw [part_fixedDigits 0 23 (by omega) (hnext rfl)]
      simp only [Nat.zero_le, hhour, and_self, if_true]
      rw [part_fixedDigits 0 59 (by omega) (hnext rfl)]
      simp only [Nat.zero_le, hminute, and_self, if_true]
      rw [part_fixedDigits 0 60 (by omega) hplaces]
      simp only [Nat.zero_le, hsecond, and_self, if_true, fraction_writePlaces c hhead]
      rfl
    · simp only [hdays, if_false]
  · simp only [hmonths, false_and, if_false]

/-- An offset with a sign is taken whatever it takes for the colon. -/
theorem offset_signed {between : List Char → Scan Unit} (negative : Bool) (hours : Fin 24) (minutes : Fin 60) (colon : Bool)
    (hbetween : between ((if colon then [':'] else []) ++ fixedDigits 2 minutes.1) = .ok ((), fixedDigits 2 minutes.1)) :
    offset between (OffsetSpelling.signed negative hours minutes colon).write =
      .ok ((OffsetSpelling.signed negative hours minutes colon).seconds, []) := by
  have hhours := hours.2
  exact offset_fixedDigits negative (by omega) minutes.2 hbetween

/-- A sign is neither a blank nor the name of an offset. -/
theorem strictOffset_signed (negative : Bool) (hours : Fin 24) (minutes : Fin 60) (colon : Bool) :
    strictOffset (OffsetSpelling.signed negative hours minutes colon).write =
      offset (literal ':') (OffsetSpelling.signed negative hours minutes colon).write := by
  cases negative <;> rfl

/-- RFC 3339 does not take an offset without a colon. -/
theorem strictOffset_plain (negative : Bool) (hours : Fin 24) (minutes : Fin 60) :
    strictOffset (OffsetSpelling.signed negative hours minutes false).write = .error .invalid := by
  have hhours := hours.2
  have hsign : sign (OffsetSpelling.signed negative hours minutes false).write =
      .ok (negative, fixedDigits 2 hours.1 ++ fixedDigits 2 minutes.1) := by
    cases negative <;> rfl
  have hdigit : (digitChar (minutes.1 / 10 % 10)).isDigit = true := isDigit_digitChar _ (Nat.mod_lt _ (by decide))
  have hcolon : literal ':' (fixedDigits 2 minutes.1) = .error .invalid := by
    refine if_neg ?_
    rintro hcolon
    rw [hcolon] at hdigit
    exact absurd hdigit (by decide)
  rw [strictOffset_signed]
  unfold offset
  simp only [hsign, offsetHours_fixedDigits (show hours.1 < 100 by omega), hcolon, bind, Except.bind]

/-- The other grammar takes every offset with a sign, with a colon or without one. -/
theorem numericOffset_signed (negative : Bool) (hours : Fin 24) (minutes : Fin 60) (colon : Bool) :
    offset colonsOrBlanks (trimStart (OffsetSpelling.signed negative hours minutes colon).write) =
      .ok ((OffsetSpelling.signed negative hours minutes colon).seconds, []) := by
  have htrim : trimStart (OffsetSpelling.signed negative hours minutes colon).write =
      (OffsetSpelling.signed negative hours minutes colon).write := by
    cases negative <;> rfl
  have hdigit : (digitChar (minutes.1 / 10 % 10)).isDigit = true := isDigit_digitChar _ (Nat.mod_lt _ (by decide))
  have hstop : (digitChar (minutes.1 / 10 % 10) == ':' || isBlank (digitChar (minutes.1 / 10 % 10))) = false := by
    rw [isBlank_of_isDigit hdigit, Bool.or_false, beq_eq_false_iff_ne]
    rintro hcolon
    rw [hcolon] at hdigit
    exact absurd hdigit (by decide)
  have hminutes : (fixedDigits 2 minutes.1).dropWhile (fun d => d == ':' || isBlank d) = fixedDigits 2 minutes.1 :=
    List.dropWhile_cons_of_neg (by rw [hstop]; decide)
  rw [htrim]
  refine offset_signed negative hours minutes colon ?_
  unfold colonsOrBlanks
  cases colon with
  | false => exact congrArg (fun left => Except.ok ((), left)) hminutes
  | true => exact congrArg (fun left => Except.ok ((), left)) hminutes

/-- A schedule's timestamp that is a civil time with an offset names the instant at which the clock ahead by the offset shows it. -/
theorem parse_of_exists (z : OffsetSpelling) (h : c.date.exists? = true) : parse (c.text z) = .ok (c.instant z.seconds) := by
  have hinstant := instant_ofCivil c z
  have hstrict := strict_writeBefore c z.head_write
  have hnumeric := numeric_writeBefore c z.head_write
  rw [if_pos h] at hinstant hstrict
  unfold parse CivilTime.text
  rw [String.toList_ofList, hstrict]
  cases z with
  | zulu =>
    have hoffset : strictOffset OffsetSpelling.zulu.write = .ok (OffsetSpelling.zulu.seconds, []) := rfl
    simp only [hoffset, bind, Except.bind, finish, hinstant]
  | signed negative hours minutes colon =>
    cases colon with
    | true =>
      have hoffset : strictOffset (OffsetSpelling.signed negative hours minutes true).write =
          .ok ((OffsetSpelling.signed negative hours minutes true).seconds, []) := by
        rw [strictOffset_signed]
        exact offset_signed negative hours minutes true rfl
      simp only [hoffset, bind, Except.bind, finish, hinstant]
    | false =>
      have hranges : (1 ≤ c.month ∧ c.month ≤ 12) ∧ 1 ≤ c.day ∧ c.day ≤ 31 := Date.ranges_of_exists h
      rw [if_pos hranges, numericOffset_signed] at hnumeric
      simp only [strictOffset_plain, bind, Except.bind, hnumeric, finish, hinstant]

/-- A civil time whose date does not exist is no timestamp. -/
theorem parse_of_not_exists (z : OffsetSpelling) (h : c.date.exists? = false) : ∃ e, parse (c.text z) = .error e := by
  have hinstant := instant_ofCivil c z
  have hstrict := strict_writeBefore c z.head_write
  have hnumeric := numeric_writeBefore c z.head_write
  simp only [h, Bool.false_eq_true, if_false] at hinstant hstrict
  unfold parse CivilTime.text
  rw [String.toList_ofList, hstrict]
  by_cases hranges : (1 ≤ c.month ∧ c.month ≤ 12) ∧ 1 ≤ c.day ∧ c.day ≤ 31
  · rw [if_pos hranges] at hnumeric
    cases z with
    | zulu => exact ⟨.invalid, hnumeric⟩
    | signed negative hours minutes colon =>
      rw [numericOffset_signed] at hnumeric
      simp only [bind, Except.bind, finish, hinstant] at hnumeric
      exact ⟨.outOfRange, hnumeric⟩
  · rw [if_neg hranges] at hnumeric
    exact ⟨.outOfRange, hnumeric⟩

/-- A civil time that is written with an offset, in whichever spelling, is a timestamp if and only if its date exists; it names the
instant at which a clock that is ahead by the offset shows it. So an instant that is written with a four-digit year is read again. -/
theorem parse_civil :
    (∀ (c : CivilTime) (z : OffsetSpelling),
      if c.date.exists? then
        parse (c.text z) = .ok (c.instant z.seconds) ∧ ((c.instant z.seconds).shift z.seconds).Shows c
      else ∃ e, parse (c.text z) = .error e) ∧
    ∀ t : Instant, t.FourDigitYear → t.OnClock → parse t.toRow = .ok t := by
  refine ⟨fun c z => ?_, fun t hyear hclock => ?_⟩
  · cases hdate : c.date.exists? with
    | true => exact ⟨parse_of_exists c z hdate, c.instant_shows hdate z.seconds⟩
    | false => exact parse_of_not_exists c z hdate
  · have hread : strict t.toRow.toList = .ok t := parseRow_toRow hclock hyear
    unfold parse
    rw [hread]

/-- A leap second with ten decimal places, on the clock of a zone where the new year has begun, and the same instant as it is
written. -/
theorem parse_civil_leapSecond :
    let c : CivilTime := ⟨2017, 1, 1, 5, 29, 60, ['1', '2', '3', '4', '5', '6', '7', '8', '9', '9'], by decide, by decide, by decide,
      by decide, by decide, by decide, List.all_eq_true.1 rfl⟩
    let t : Instant := ⟨1483228799, 1123456789⟩
    parse (c.text (.signed false 5 30 false)) = .ok t ∧ t.FourDigitYear ∧ t.OnClock ∧ parse t.toRow = .ok t := by
  intro c t
  have hyear : t.FourDigitYear := by decide +kernel
  have hclock : t.OnClock := by decide +kernel
  have hinstant : c.instant (OffsetSpelling.signed false 5 30 false).seconds = t := by decide +kernel
  have hread := parse_civil.1 c (.signed false 5 30 false)
  rw [if_pos (by decide), hinstant] at hread
  exact ⟨hread.1, hyear, hclock, parse_civil.2 t hyear hclock⟩

end Timestamp

end StandingQuery
