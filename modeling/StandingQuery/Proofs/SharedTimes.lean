import StandingQuery.Proofs.CivilTimes
import StandingQuery.Proofs.RecordedInstants

/-!
# Times that both grammars read

A text that RFC 3339 takes is a civil time with an offset behind it (`Timestamp.exists_civil_of_strict`). The other grammar of a
schedule's timestamp takes it too if a `T` parts the date from the time and the offset is a numeric one, and then reads the same
instant; otherwise it takes nothing. So the two never disagree, and it does not matter which one is tried first
(`Timestamp.grammars_agree`).
-/

namespace StandingQuery

open Text

namespace Text

/-- The digit with the value of a digit is that digit. -/
theorem digitChar_digitVal {c : Char} (h : c.isDigit = true) : digitChar (digitVal c) = c ∧ digitVal c < 10 := by
  simp only [Char.isDigit, Bool.and_eq_true, decide_eq_true_eq, ge_iff_le, UInt32.le_iff_toNat_le] at h
  obtain ⟨hlow, hhigh⟩ : 48 ≤ c.toNat ∧ c.toNat ≤ 57 := h
  have hvalue : digitVal c < 10 := by
    unfold digitVal
    omega
  refine ⟨?_, hvalue⟩
  unfold digitChar
  rw [if_pos hvalue, digitVal, Nat.add_sub_cancel' hlow]
  exact Char.ofNat_toNat c

/-- Digits are those of the number that they name, in their width. -/
theorem fixedDigits_decimalValue {ds : List Char} (h : ∀ c ∈ ds, c.isDigit = true) :
    fixedDigits ds.length (decimalValue ds) = ds := by
  induction ds using List.reverseRecOn with
  | nil => rfl
  | append_singleton ds c ih =>
    obtain ⟨hchar, hvalue⟩ := digitChar_digitVal (h c (by simp))
    have hrest := ih fun d hd => h d (List.mem_append_left _ hd)
    have hquotient : (decimalValue ds * 10 + digitVal c) / 10 = decimalValue ds := by omega
    have hremainder : (decimalValue ds * 10 + digitVal c) % 10 = digitVal c := by omega
    rw [List.length_append, List.length_singleton, decimalValue_concat, fixedDigits, hquotient, hremainder, hrest, hchar]

end Text

/-- A civil time as it is written, with what parts the date from the time and what stands behind it. -/
def CivilTime.writeParted (c : CivilTime) (separator : Char) (zone : List Char) : List Char :=
  fixedDigits 4 c.year ++ '-' :: (fixedDigits 2 c.month ++ '-' :: (fixedDigits 2 c.day ++ separator :: (fixedDigits 2 c.hour ++
    ':' :: (fixedDigits 2 c.minute ++ ':' :: (fixedDigits 2 c.second ++ (c.writePlaces ++ zone))))))

namespace Timestamp

variable {s rest zone : List Char}

/-! ## What the parts of RFC 3339 take -/

theorem literal_eq_ok {c : Char} : literal c s = .ok ((), rest) ↔ s = c :: rest := by
  cases s with
  | nil => simp [literal]
  | cons d s =>
    unfold literal
    by_cases h : d = c
    · simp [h]
    · simp [h]

theorem separator_eq_ok (h : separator s = .ok ((), rest)) : ∃ c, (c = 'T' ∨ c = 't' ∨ c = ' ') ∧ s = c :: rest := by
  cases s with
  | nil => cases h
  | cons c s =>
    dsimp only [separator] at h
    split at h
    · rename_i hc
      cases h
      exact ⟨c, hc, rfl⟩
    · cases h

/-- A number of a fixed width is taken from the digits that it is written in. -/
theorem fixed_eq_ok {n v : Nat} (h : fixed n s = .ok (v, rest)) : v < 10 ^ n ∧ s = fixedDigits n v ++ rest := by
  have hdigits : ∃ ds : List Char, ds.length = n ∧ (∀ c ∈ ds, c.isDigit = true) ∧ v = decimalValue ds ∧ s = ds ++ rest := by
    induction n generalizing s v with
    | zero =>
      cases h
      exact ⟨[], rfl, by simp, rfl, rfl⟩
    | succ n ih =>
      cases s with
      | nil => cases h
      | cons c s =>
        unfold fixed at h
        split at h
        · rename_i hdigit
          split at h
          · rename_i hrest
            cases h
            obtain ⟨ds, hlength, hall, rfl, rfl⟩ := ih hrest
            refine ⟨c :: ds, by simp [hlength], ?_, ?_, rfl⟩
            · rintro d hd
              rcases List.mem_cons.1 hd with rfl | hd
              · exact hdigit
              · exact hall d hd
            · rw [decimalValue_cons, hlength]
              rfl
          · cases h
        · cases h
  obtain ⟨ds, rfl, hall, rfl, rfl⟩ := hdigits
  exact ⟨decimalValue_lt hall, by rw [fixedDigits_decimalValue hall]⟩

/-- A fraction is a point with decimal places behind it, or nothing. -/
theorem fraction_eq_ok {n : Nat} (h : fraction s = .ok (n, rest)) :
    ∃ places : List Char, (∀ c ∈ places, c.isDigit = true) ∧ n = billionths places ∧
      s = (if places = [] then [] else '.' :: places) ++ rest := by
  unfold fraction at h
  split at h
  · rename_i s
    refine ⟨s.takeWhile Char.isDigit, fun c hc => List.mem_takeWhile_imp hc, ?_⟩
    unfold nanoseconds at h
    split at h
    · cases h
    · rename_i hne
      cases h
      rw [if_neg hne, billionths_eq, List.cons_append, List.takeWhile_append_dropWhile]
      exact ⟨rfl, rfl⟩
  · cases h
    exact ⟨[], by simp, by decide, rfl⟩

theorem sign_eq_ok {negative : Bool} (h : sign s = .ok (negative, rest)) :
    ∃ c, (c = '+' ∨ c = '-' ∨ c = '−') ∧ s = c :: rest := by
  cases s with
  | nil => cases h
  | cons c s =>
    dsimp only [sign] at h
    split at h
    · rename_i hplus
      cases h
      exact ⟨c, Or.inl hplus, rfl⟩
    · split at h
      · rename_i hminus
        cases h
        exact ⟨c, Or.inr hminus, rfl⟩
      · cases h

theorem offsetHours_eq_ok {n : Nat} (h : offsetHours s = .ok (n, rest)) : ∃ c d, s = c :: d :: rest := by
  unfold offsetHours at h
  split at h
  · cases h
  · split at h
    · split at h <;> cases h
      exact ⟨_, _, rfl⟩
    · cases h

theorem offsetMinutes_eq_ok {n : Nat} (h : offsetMinutes s = .ok (n, rest)) :
    ∃ c d, c.isDigit = true ∧ d.isDigit = true ∧ s = c :: d :: rest := by
  unfold offsetMinutes at h
  split at h
  · cases h
  · split at h
    · split at h
      · rename_i hdigits
        split at h <;> cases h
        obtain ⟨hc, hd⟩ := Bool.and_eq_true_iff.1 hdigits
        exact ⟨_, _, hc, hd, rfl⟩
      · cases h
    · cases h

/-- An offset of RFC 3339 begins with a sign and ends with a digit, and the other grammar takes it too. -/
theorem offset_of_literal {ahead : Int} (h : offset (literal ':') s = .ok (ahead, rest)) :
    ∃ sgn middle last, (sgn = '+' ∨ sgn = '-' ∨ sgn = '−') ∧ last.isDigit = true ∧
      s = sgn :: (middle ++ last :: rest) ∧ offset colonsOrBlanks s = .ok (ahead, rest) := by
  unfold offset at h
  simp only [bind_eq_ok] at h
  obtain ⟨⟨negative, s₁⟩, hsign, ⟨hours, s₂⟩, hhours, ⟨⟨⟩, s₃⟩, hcolon, ⟨minutes, s₄⟩, hminutes, hlast⟩ := h
  cases hlast
  obtain ⟨sgn, hsgn, rfl⟩ := sign_eq_ok hsign
  obtain ⟨d₁, d₂, rfl⟩ := offsetHours_eq_ok hhours
  obtain rfl := literal_eq_ok.1 hcolon
  obtain ⟨d₃, d₄, hd₃, hd₄, rfl⟩ := offsetMinutes_eq_ok hminutes
  refine ⟨sgn, [d₁, d₂, ':', d₃], d₄, hsgn, hd₄, rfl, ?_⟩
  have hstop : (d₃ == ':' || isBlank d₃) = false := by
    rw [isBlank_of_isDigit hd₃, Bool.or_false, beq_eq_false_iff_ne]
    rintro rfl
    exact absurd hd₃ (by decide)
  have hbetween : colonsOrBlanks (':' :: d₃ :: d₄ :: s₄) = .ok ((), d₃ :: d₄ :: s₄) := by
    unfold colonsOrBlanks
    rw [List.dropWhile_cons_of_pos (by decide), List.dropWhile_cons_of_neg (by rw [hstop]; decide)]
  unfold offset
  simp only [hsign, hhours, hbetween, hminutes, bind, Except.bind]

/-- An offset that RFC 3339 takes to the end begins with neither a digit nor a point. The other grammar takes it too if it ends in a
digit; otherwise it is a name, which the other grammar refuses. -/
theorem numericOffset_of_strict {ahead : Int} (h : strictOffset zone = .ok (ahead, [])) :
    (∀ c ∈ zone.head?, c.isDigit = false ∧ c ≠ '.') ∧ ∃ front last, zone = front ++ [last] ∧
      offset colonsOrBlanks (trimStart zone) = if last.isDigit then .ok (ahead, []) else .error .invalid := by
  cases zone with
  | nil => cases h
  | cons c s =>
    dsimp only [strictOffset] at h
    split at h
    · rename_i hname
      cases h
      rcases hname with rfl | rfl
      · exact ⟨by simp, [], 'Z', rfl, rfl⟩
      · exact ⟨by simp, [], 'z', rfl, rfl⟩
    · obtain ⟨sgn, middle, last, hsgn, hlast, heq, hread⟩ := offset_of_literal h
      have hsign : c.isDigit = false ∧ c ≠ '.' ∧ isBlank c = false := by
        rw [(List.cons.inj heq).1]
        rcases hsgn with rfl | rfl | rfl <;> decide
      have htrim : trimStart (c :: s) = c :: s := trimStart_of_head fun e he => by
        cases he
        exact hsign.2.2
      refine ⟨fun e he => ?_, sgn :: middle, last, heq, ?_⟩
      · cases he
        exact ⟨hsign.1, hsign.2.1⟩
      · rw [htrim, hread, if_pos hlast]

/-- What RFC 3339 takes is a civil time whose date exists, with an offset behind it; it names the instant of these. -/
theorem exists_civil_of_strict {t : Instant} (h : strict s = .ok t) :
    ∃ (c : CivilTime) (d : Char) (zone : List Char) (ahead : Int), (d = 'T' ∨ d = 't' ∨ d = ' ') ∧ s = c.writeParted d zone ∧
      c.date.exists? = true ∧ strictOffset zone = .ok (ahead, []) ∧ (Fields.ofCivil c ahead).instant = .ok t := by
  unfold strict strictFields at h
  simp only [bind_eq_ok, throw_if_eq_ok] at h
  obtain ⟨f, ⟨-, ⟨year, s₁⟩, hyear, ⟨⟨⟩, s₂⟩, hhyphen, ⟨month, s₃⟩, hmonth, ⟨⟨⟩, s₄⟩, hhyphen', ⟨day, s₅⟩, hday, hexists,
    ⟨⟨⟩, s₆⟩, hseparator, ⟨hour, s₇⟩, hhour, ⟨⟨⟩, s₈⟩, hcolon, ⟨minute, s₉⟩, hminute, ⟨⟨⟩, s₁₀⟩, hcolon', ⟨second, s₁₁⟩, hsecond,
    ⟨nanos, s₁₂⟩, hnanos, hclock, ⟨ahead, s₁₃⟩, hahead, hfinish⟩, hinstant⟩ := h
  obtain ⟨hyear, rfl⟩ := fixed_eq_ok hyear
  obtain rfl := literal_eq_ok.1 hhyphen
  obtain ⟨hmonth, rfl⟩ := fixed_eq_ok hmonth
  obtain rfl := literal_eq_ok.1 hhyphen'
  obtain ⟨hday, rfl⟩ := fixed_eq_ok hday
  obtain ⟨d, hd, rfl⟩ := separator_eq_ok hseparator
  obtain ⟨-, rfl⟩ := fixed_eq_ok hhour
  obtain rfl := literal_eq_ok.1 hcolon
  obtain ⟨-, rfl⟩ := fixed_eq_ok hminute
  obtain rfl := literal_eq_ok.1 hcolon'
  obtain ⟨-, rfl⟩ := fixed_eq_ok hsecond
  obtain ⟨places, hplaces, rfl, rfl⟩ := fraction_eq_ok hnanos
  cases s₁₃ with
  | cons _ _ => cases hfinish
  | nil =>
    cases finish_eq_ok hfinish
    simp only [isClockTime, Bool.not_eq_true', Bool.not_eq_false, Bool.and_eq_true, decide_eq_true_eq] at hclock hexists
    obtain ⟨⟨hhour, hminute⟩, hsecond⟩ := hclock
    exact ⟨⟨year, month, day, hour, minute, second, places, by omega, by omega, by omega, hhour, hminute, hsecond, hplaces⟩,
      d, s₁₂, ahead, hd, rfl, hexists, hahead, hinstant⟩

/-! ## What the other grammar makes of it -/

variable (c : CivilTime) {d : Char}

theorem getElem?_writeParted : (c.writeParted d zone)[10]? = some d := rfl

theorem getLast?_writeParted {last : Char} : (c.writeParted d (zone ++ [last])).getLast? = some last := by
  have hfront : c.writeParted d (zone ++ [last]) = c.writeParted d zone ++ [last] := by
    simp only [CivilTime.writeParted, List.append_assoc, List.cons_append]
  rw [hfront, List.getLast?_concat]

/-- The other grammar takes nothing but a `T` between a date and a time. -/
theorem numeric_writeParted (hexists : c.date.exists? = true) (hdigit : d.isDigit = false) (hd : d ≠ 'T') :
    numeric (c.writeParted d zone) = .error .invalid := by
  obtain ⟨hmonth, hday⟩ : (1 ≤ c.month ∧ c.month ≤ 12) ∧ 1 ≤ c.day ∧ c.day ≤ 31 := Date.ranges_of_exists hexists
  have hyear := c.year_le
  have hmonths := c.month_le
  have hdays := c.day_le
  have hnext {e : Char} {left : List Char} (he : e.isDigit = false) : ∀ f ∈ (e :: left).head?, f.isDigit = false := by
    rintro f ⟨⟩
    exact he
  unfold numeric CivilTime.writeParted
  rw [← writeYear_natCast hyear, yearPart_writeYear (by omega) (by omega) (hnext rfl)]
  simp only [bind, Except.bind, literal, if_true]
  rw [part_fixedDigits 1 12 (by omega) (hnext rfl), if_pos hmonth]
  simp only [if_true]
  rw [part_fixedDigits 1 31 (by omega) (hnext hdigit), if_pos hday]
  simp only [hd, if_false]

/-- A text that RFC 3339 takes is read as the same instant by the other grammar if a `T` parts the date from the time and the offset
is a numeric one, which ends in a digit; otherwise the other grammar refuses it. -/
theorem numeric_of_strict {t : Instant} (h : strict s = .ok t) :
    numeric s = if s[10]? = some 'T' ∧ s.getLast?.any Char.isDigit then .ok t else .error .invalid := by
  obtain ⟨c, d, zone, ahead, hd, rfl, hexists, hoffset, hinstant⟩ := exists_civil_of_strict h
  have hranges : (1 ≤ c.month ∧ c.month ≤ 12) ∧ 1 ≤ c.day ∧ c.day ≤ 31 := Date.ranges_of_exists hexists
  obtain ⟨hhead, front, last, rfl, hnumeric⟩ := numericOffset_of_strict hoffset
  simp only [getElem?_writeParted, getLast?_writeParted, Option.some_inj, Option.any_some]
  by_cases hT : d = 'T'
  · subst hT
    refine (numeric_writeBefore c hhead).trans ?_
    rw [if_pos hranges, hnumeric]
    cases last.isDigit with
    | true => exact hinstant
    | false => rfl
  · have hdigit : d.isDigit = false := by rcases hd with rfl | rfl | rfl <;> rfl
    rw [numeric_writeParted c hexists hdigit hT, if_neg fun h => hT h.1]

/-- What the first of two grammars reads, or else the second. -/
def firstOf (first second : List Char → Except TimestampError Instant) (s : List Char) : Except TimestampError Instant :=
  match first s with
  | .ok t => .ok t
  | .error _ => second s

/-- Where both grammars take a text they read the same instant, so that it does not matter which one is tried first. RFC 3339 takes
more separators and a name for an offset, nothing else: what it takes with a `T` and a numeric offset the other grammar takes too. -/
theorem grammars_agree (text : String) :
    (∀ t u, strict text.toList = .ok t → numeric text.toList = .ok u → t = u) ∧
    (∀ t, parse text = .ok t ↔ firstOf numeric strict text.toList = .ok t) ∧
    ∀ t, strict text.toList = .ok t →
      numeric text.toList =
        if text.toList[10]? = some 'T' ∧ text.toList.getLast?.any Char.isDigit then .ok t else .error .invalid := by
  have hagree {t u : Instant} (ht : strict text.toList = .ok t) (hu : numeric text.toList = .ok u) : t = u := by
    have hread := numeric_of_strict ht
    rw [hu] at hread
    split at hread <;> cases hread
    rfl
  refine ⟨fun t u => hagree, fun t => ?_, fun t => numeric_of_strict⟩
  unfold parse firstOf
  cases hstrict : strict text.toList with
  | ok v =>
    cases hnumeric : numeric text.toList with
    | ok u => rw [hagree hstrict hnumeric]
    | error _ => rfl
  | error e =>
    cases hnumeric : numeric text.toList with
    | ok u => rfl
    | error e' => simp

/-- A leap second that both grammars read, with more decimal places than count; with a space or a `Z` only RFC 3339 reads it. -/
theorem grammars_agree_leapSecond :
    let t : Instant := ⟨1483228799, 1123456789⟩
    (numeric "2017-01-01T05:29:60.1234567899+05:30".toList = .ok t ∧
      firstOf numeric strict "2017-01-01T05:29:60.1234567899+05:30".toList = .ok t) ∧
    numeric "2017-01-01 05:29:60.1234567899+05:30".toList = .error .invalid ∧
    numeric "2016-12-31T23:59:60.1234567899Z".toList = .error .invalid := by
  intro t
  have hboth : strict "2017-01-01T05:29:60.1234567899+05:30".toList = .ok t := by decide +kernel
  have hblank : strict "2017-01-01 05:29:60.1234567899+05:30".toList = .ok t := by decide +kernel
  have hzulu : strict "2016-12-31T23:59:60.1234567899Z".toList = .ok t := by decide +kernel
  have hparse : parse "2017-01-01T05:29:60.1234567899+05:30" = .ok t := by decide +kernel
  refine ⟨⟨?_, (grammars_agree _).2.1 t |>.1 hparse⟩, ?_, ?_⟩
  · rw [(grammars_agree _).2.2 t hboth]
    decide +kernel
  · rw [(grammars_agree _).2.2 t hblank]
    decide +kernel
  · rw [(grammars_agree _).2.2 t hzulu]
    decide +kernel

end Timestamp

end StandingQuery
