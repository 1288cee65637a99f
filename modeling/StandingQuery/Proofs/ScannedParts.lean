import StandingQuery.Proofs.WrittenDigits
import StandingQuery.Time.Written

/-!
# Scanned parts

Digits that were written are taken off the front of a text by the scanners of parts of any width, up to what is no digit: numbers of
two digits (`Timestamp.part_fixedDigits`), years in four digits or with a sign (`Timestamp.yearPart_writeYear`), fractions of any
length (`Timestamp.nanoseconds_digits`) and offsets with or without what stands between their hours and minutes
(`Timestamp.offset_fixedDigits`).
-/

namespace StandingQuery

namespace Text

/-- No digit is a blank. -/
theorem isBlank_of_isDigit {c : Char} (h : c.isDigit = true) : isBlank c = false := by
  have hbounds : 48 ≤ c.toNat ∧ c.toNat ≤ 57 := by
    simp only [Char.isDigit, Bool.and_eq_true, decide_eq_true_eq, ge_iff_le, UInt32.le_iff_toNat_le] at h
    exact h
  simp only [isBlank, Bool.or_eq_false_iff, Bool.and_eq_false_iff, decide_eq_false_iff_not, beq_eq_false_iff_ne]
  omega

/-- A text that does not begin with a blank is not trimmed at its front. -/
theorem trimStart_of_head {s : List Char} (h : ∀ c ∈ s.head?, isBlank c = false) : trimStart s = s := by
  cases s with
  | nil => rfl
  | cons c s => simp [trimStart, h c rfl]

/-- Zeros behind a number make it ten times as large each. -/
theorem decimalValue_append_zeros (ds : List Char) (k : Nat) :
    decimalValue (ds ++ List.replicate k '0') = decimalValue ds * 10 ^ k := by
  induction k with
  | zero => simp
  | succ k ih =>
    rw [List.replicate_succ', ← List.append_assoc, decimalValue_concat, ih, pow_succ, Nat.mul_assoc]
    rfl

/-- Zeros in front of a number count nothing. -/
theorem decimalValue_zeros_append (k : Nat) (ds : List Char) : decimalValue (List.replicate k '0' ++ ds) = decimalValue ds := by
  induction k with
  | zero => rfl
  | succ k ih =>
    rw [List.replicate_succ, List.cons_append, decimalValue_cons, ih, show digitVal '0' = 0 from rfl, Nat.zero_mul, Nat.zero_add]

/-- Every character of a number is a digit. -/
theorem isDigit_of_mem_digits {n : Nat} {c : Char} (h : c ∈ digits n) : c.isDigit = true := by
  fun_induction digits n with
  | case1 n hn =>
    rw [List.mem_singleton.1 h]
    exact isDigit_digitChar n hn
  | case2 n hn ih =>
    rcases List.mem_append.1 h with h | h
    · exact ih h
    · rw [List.mem_singleton.1 h]
      exact isDigit_digitChar _ (Nat.mod_lt _ (by decide))

/-- The digits of a number name it. -/
theorem decimalValue_digits (n : Nat) : decimalValue (digits n) = n := by
  fun_induction digits n with
  | case1 n hn => simp [decimalValue, digitVal_digitChar n hn]
  | case2 n hn ih =>
    rw [decimalValue_concat, ih, digitVal_digitChar _ (Nat.mod_lt _ (by decide))]
    omega

theorem isDigit_of_mem_paddedDigits {width n : Nat} {c : Char} (h : c ∈ paddedDigits width n) : c.isDigit = true := by
  rcases List.mem_append.1 h with h | h
  · rw [List.eq_of_mem_replicate h]
    rfl
  · exact isDigit_of_mem_digits h

theorem decimalValue_paddedDigits (width n : Nat) : decimalValue (paddedDigits width n) = n :=
  (decimalValue_zeros_append _ _).trans (decimalValue_digits n)

theorem paddedDigits_ne_nil {width : Nat} (hpos : 0 < width) (n : Nat) : paddedDigits width n ≠ [] := by
  intro hnil
  obtain ⟨hzeros, hdigits⟩ := List.append_eq_nil_iff.1 hnil
  rw [hdigits, List.length_nil, List.replicate_eq_nil_iff] at hzeros
  omega

end Text

namespace Timestamp

open Text

variable {ds rest : List Char}

/-- Digits are taken as the number that they name, if they are not too many and the number is not too large. -/
theorem digits_of_digits (limit : Option Nat) (h : ∀ c ∈ ds, c.isDigit = true) (hne : ds ≠ [])
    (hlimit : ∀ n ∈ limit, ds.length ≤ n) (hvalue : decimalValue ds < scanLimit)
    (hrest : ∀ c ∈ rest.head?, c.isDigit = false) : digits limit (ds ++ rest) = .ok (decimalValue ds, rest) := by
  obtain ⟨htake, -⟩ := span_of_head h hrest
  have hfits : ¬scanLimit ≤ decimalValue ds := Nat.not_le.2 hvalue
  cases ds with
  | nil => exact absurd rfl hne
  | cons c ds =>
    unfold digits
    cases limit with
    | none => simp only [htake, hfits, if_false, List.drop_left]
    | some n => simp only [htake, List.take_of_length_le (hlimit n rfl), hfits, if_false, List.drop_left]

/-- A number of two digits is taken if it lies in the range asked for. -/
theorem part_fixedDigits (low high : Nat) {n : Nat} (hn : n < 100) (hrest : ∀ c ∈ rest.head?, c.isDigit = false) :
    part low high (fixedDigits 2 n ++ rest) = if low ≤ n ∧ n ≤ high then .ok (n, rest) else .error .outOfRange := by
  have hdigits : ∀ c ∈ fixedDigits 2 n, c.isDigit = true := fun c hc => isDigit_of_mem_fixedDigits hc
  have hvalue : decimalValue (fixedDigits 2 n) = n := by
    rw [decimalValue_fixedDigits]
    exact Nat.mod_eq_of_lt hn
  have htrim : trimStart (fixedDigits 2 n ++ rest) = fixedDigits 2 n ++ rest :=
    trimStart_of_head fun c hc => isBlank_of_isDigit (hdigits c (by simp_all [fixedDigits]))
  have hread : digits (some 2) (fixedDigits 2 n ++ rest) = .ok (n, rest) := by
    rw [digits_of_digits (some 2) hdigits (List.ne_nil_of_length_eq_add_one (length_fixedDigits 2 n)) (by simp) _ hrest, hvalue]
    rw [hvalue]
    exact hn.trans (by decide)
  unfold part
  rw [htrim, hread]
  rfl

/-- A year of four digits is written in these alone. -/
theorem writeYear_natCast {year : Nat} (h : year ≤ 9999) : Instant.writeYear year = fixedDigits 4 year := by
  unfold Instant.writeYear
  rw [if_pos ⟨Int.natCast_nonneg year, by omega⟩, Int.toNat_natCast]

/-- A year as it is written is taken whole. -/
theorem yearPart_writeYear {year : Int} (hlow : -0x80000000 ≤ year) (hhigh : year < 0x80000000)
    (hrest : ∀ c ∈ rest.head?, c.isDigit = false) : yearPart (Instant.writeYear year ++ rest) = .ok (year, rest) := by
  have hread : signedYear (trimStart (Instant.writeYear year ++ rest)) = .ok (year, rest) := by
    unfold Instant.writeYear
    by_cases hplain : 0 ≤ year ∧ year ≤ 9999
    · have hdigits : ∀ c ∈ fixedDigits 4 year.toNat, c.isDigit = true := fun c hc => isDigit_of_mem_fixedDigits hc
      have hvalue : decimalValue (fixedDigits 4 year.toNat) = year.toNat := by
        rw [decimalValue_fixedDigits]
        omega
      have hread := digits_of_digits (some 4) hdigits
        (List.ne_nil_of_length_eq_add_one (length_fixedDigits 4 year.toNat)) (by simp) (by rw [hvalue, scanLimit]; omega) hrest
      rw [if_pos hplain, trimStart_of_head fun c hc => isBlank_of_isDigit (hdigits c (by simp_all [fixedDigits]))]
      have hunsigned : signedYear (fixedDigits 4 year.toNat ++ rest) =
          (digits (some 4) (fixedDigits 4 year.toNat ++ rest)).map fun r => ((r.1 : Int), r.2) := by
        unfold signedYear
        split
        · rename_i heq
          have hsign := hdigits '-' (by simp_all [fixedDigits])
          exact absurd hsign (by decide)
        · rename_i heq
          have hsign := hdigits '+' (by simp_all [fixedDigits])
          exact absurd hsign (by decide)
        · rfl
      rw [hunsigned, hread, hvalue]
      exact congrArg (fun y : Int => Except.ok (y, rest)) (Int.toNat_of_nonneg hplain.1)
    · have hdigits : ∀ c ∈ paddedDigits 4 year.natAbs, c.isDigit = true := fun c hc => isDigit_of_mem_paddedDigits hc
      have hvalue := decimalValue_paddedDigits 4 year.natAbs
      have hread := digits_of_digits none hdigits (paddedDigits_ne_nil (by decide) year.natAbs) (by simp)
        (by rw [hvalue, scanLimit]; omega) hrest
      rw [hvalue] at hread
      rw [if_neg hplain]
      by_cases hnegative : year < 0
      · rw [if_pos hnegative]
        change (digits none (paddedDigits 4 year.natAbs ++ rest)).map _ = _
        rw [hread]
        exact congrArg (fun y : Int => Except.ok (y, rest)) (by omega)
      · rw [if_neg hnegative]
        change (digits none (paddedDigits 4 year.natAbs ++ rest)).map _ = _
        rw [hread]
        exact congrArg (fun y : Int => Except.ok (y, rest)) (by omega)
  unfold yearPart
  rw [hread]
  exact if_pos ⟨hlow, hhigh⟩

/-- The billionths that the digits of a fraction name: those behind the ninth count nothing, and those missing are zeros. -/
def billionths (ds : List Char) : Nat := decimalValue ((ds ++ List.replicate 9 '0').take 9)

theorem billionths_eq (ds : List Char) : billionths ds = decimalValue (ds.take 9) * 10 ^ (9 - (ds.take 9).length) := by
  have hzeros : (ds ++ List.replicate 9 '0').take 9 = ds.take 9 ++ List.replicate (9 - (ds.take 9).length) '0' := by
    rw [List.take_append, List.take_replicate, List.length_take]
    congr 2
    omega
  rw [billionths, hzeros, decimalValue_append_zeros]

/-- The digits of a fraction are taken as the billionths that they name. -/
theorem nanoseconds_digits (h : ∀ c ∈ ds, c.isDigit = true) (hne : ds ≠ []) (hrest : ∀ c ∈ rest.head?, c.isDigit = false) :
    nanoseconds (ds ++ rest) = .ok (billionths ds, rest) := by
  obtain ⟨htake, hdrop⟩ := span_of_head h hrest
  unfold nanoseconds
  rw [htake, hdrop]
  split
  · exact absurd rfl hne
  · rw [billionths_eq]
    rfl

/-- The hours of an offset are taken in two digits. -/
theorem offsetHours_fixedDigits {n : Nat} (hn : n < 100) : offsetHours (fixedDigits 2 n ++ rest) = .ok (n, rest) := by
  have hvalue : decimalValue (fixedDigits 2 n) = n := by
    rw [decimalValue_fixedDigits]
    exact Nat.mod_eq_of_lt hn
  have htens := isDigit_digitChar (n / 10 % 10) (Nat.mod_lt _ (by decide))
  have hones := isDigit_digitChar (n % 10) (Nat.mod_lt _ (by decide))
  have htext : fixedDigits 2 n = [digitChar (n / 10 % 10), digitChar (n % 10)] := rfl
  rw [htext] at hvalue ⊢
  simp [offsetHours, shorterThanTwoBytes, htens, hones, hvalue]

/-- The minutes of an offset are taken in two digits, if they are those of an hour. -/
theorem offsetMinutes_fixedDigits {n : Nat} (hn : n < 60) : offsetMinutes (fixedDigits 2 n ++ rest) = .ok (n, rest) := by
  have hvalue : decimalValue (fixedDigits 2 n) = n := by
    rw [decimalValue_fixedDigits]
    exact Nat.mod_eq_of_lt (by omega)
  have htens := isDigit_digitChar (n / 10 % 10) (Nat.mod_lt _ (by decide))
  have hones := isDigit_digitChar (n % 10) (Nat.mod_lt _ (by decide))
  have hfirst : digitVal (digitChar (n / 10 % 10)) ≤ 5 := by
    rw [digitVal_digitChar _ (Nat.mod_lt _ (by decide))]
    omega
  have htext : fixedDigits 2 n = [digitChar (n / 10 % 10), digitChar (n % 10)] := rfl
  rw [htext] at hvalue ⊢
  simp [offsetMinutes, shorterThanTwoBytes, htens, hones, hvalue, hfirst]

/-- An offset in hours and minutes is taken as so many seconds, whatever may stand between the two. -/
theorem offset_fixedDigits {between : List Char → Scan Unit} {middle : List Char} (negative : Bool) {hours minutes : Nat}
    (hhours : hours < 100) (hminutes : minutes < 60)
    (hmiddle : between (middle ++ fixedDigits 2 minutes) = .ok ((), fixedDigits 2 minutes)) :
    offset between ((if negative then '-' else '+') :: (fixedDigits 2 hours ++ (middle ++ fixedDigits 2 minutes))) =
      .ok (if negative then -((hours * 3600 + minutes * 60 : Nat) : Int) else ((hours * 3600 + minutes * 60 : Nat) : Int), []) := by
  have hsign : sign ((if negative then '-' else '+') :: (fixedDigits 2 hours ++ (middle ++ fixedDigits 2 minutes))) =
      .ok (negative, fixedDigits 2 hours ++ (middle ++ fixedDigits 2 minutes)) := by
    cases negative <;> rfl
  have hread : offsetMinutes (fixedDigits 2 minutes) = .ok (minutes, []) := by
    rw [← List.append_nil (fixedDigits 2 minutes)]
    exact offsetMinutes_fixedDigits hminutes
  unfold offset
  simp only [hsign, offsetHours_fixedDigits hhours, hmiddle, hread, bind, Except.bind]

end Timestamp

end StandingQuery
