import Mathlib.Data.List.Induction
import Mathlib.Data.List.TakeWhile
import Mathlib.Tactic.Ring
import StandingQuery.Time.Timestamp
import StandingQuery.Uuid

/-!
# Written digits

Digits that were written are read as the number that they were written for. A number of a fixed width comes back without what
the width left out, whether it is read from decimal digits (`Text.decimalValue_fixedDigits`, `Timestamp.fixed_fixedDigits`), from
the digits of a fraction (`Timestamp.nanoseconds_fixedDigits`) or from hexadecimal ones (`Uuid.hexValue?_fixedHexDigits`).
-/

namespace StandingQuery

namespace Text

theorem digitVal_digitChar : ∀ d < 10, digitVal (digitChar d) = d := by
  decide

theorem isDigit_digitChar : ∀ d < 10, (digitChar d).isDigit = true := by
  decide

theorem hexVal?_digitChar : ∀ d < 16, hexVal? (digitChar d) = some d := by
  decide

theorem digitChar_ne_hyphen : ∀ d < 16, digitChar d ≠ '-' := by
  decide

theorem utf8Size_digitChar : ∀ d < 16, (digitChar d).utf8Size = 1 := by
  decide

/-- Every character of a number of a fixed width is a digit. -/
theorem isDigit_of_mem_fixedDigits {width n : Nat} {c : Char} (h : c ∈ fixedDigits width n) : c.isDigit = true := by
  induction width generalizing n with
  | zero => cases h
  | succ width ih =>
    rcases List.mem_append.1 h with h | h
    · exact ih h
    · rw [List.mem_singleton.1 h]
      exact isDigit_digitChar _ (Nat.mod_lt _ (by decide))

/-- Every character of a hexadecimal number of a fixed width is a digit below sixteen. -/
theorem exists_of_mem_fixedHexDigits {width n : Nat} {c : Char} (h : c ∈ fixedHexDigits width n) :
    ∃ d < 16, c = digitChar d := by
  induction width generalizing n with
  | zero => cases h
  | succ width ih =>
    rcases List.mem_append.1 h with h | h
    · exact ih h
    · exact ⟨_, Nat.mod_lt _ (by decide), List.mem_singleton.1 h⟩

/-- One digit more makes ten times as much and the digit. -/
theorem decimalValue_concat (ds : List Char) (c : Char) : decimalValue (ds ++ [c]) = decimalValue ds * 10 + digitVal c := by
  simp [decimalValue]

/-- A digit in front counts as many times as there are numbers of the digits behind it. -/
theorem decimalValue_cons (c : Char) (ds : List Char) :
    decimalValue (c :: ds) = digitVal c * 10 ^ ds.length + decimalValue ds := by
  induction ds using List.reverseRecOn with
  | nil => simp [decimalValue]
  | append_singleton ds d ih =>
    rw [← List.cons_append, decimalValue_concat, ih, decimalValue_concat, List.length_append, List.length_singleton, pow_succ]
    ring

/-- The last digits of a number name what is left of it by the power of ten. -/
theorem decimalValue_fixedDigits (width n : Nat) : decimalValue (fixedDigits width n) = n % 10 ^ width := by
  induction width generalizing n with
  | zero => simp [fixedDigits, decimalValue, Nat.mod_one]
  | succ width ih =>
    rw [fixedDigits, decimalValue_concat, ih, digitVal_digitChar _ (Nat.mod_lt _ (by decide)), pow_succ, mul_comm (10 ^ width),
      Nat.mod_mul]
    omega

/-- A run of characters of one kind ends where the first character stands that is of another. -/
theorem span_of_head {p : Char → Bool} {front rest : List Char} (h : ∀ c ∈ front, p c = true)
    (hrest : ∀ c ∈ rest.head?, p c = false) :
    (front ++ rest).takeWhile p = front ∧ (front ++ rest).dropWhile p = rest := by
  have hnone : rest.takeWhile p = [] ∧ rest.dropWhile p = rest := by
    cases rest with
    | nil => exact ⟨rfl, rfl⟩
    | cons c rest => simp [hrest c rfl]
  rw [List.takeWhile_append_of_pos h, List.dropWhile_append_of_pos h, hnone.1, hnone.2, List.append_nil]
  exact ⟨rfl, rfl⟩

/-- What stands in front of the first occurrence of a character and behind it. -/
theorem split_at_first {s rest : List Char} {c : Char} {d : Char} (h : s.dropWhile (· != c) = d :: rest) :
    s = s.takeWhile (· != c) ++ c :: rest := by
  have hd : d = c := by
    have hhead := List.head?_dropWhile_not (· != c) s
    rw [h] at hhead
    simpa using hhead
  calc s = s.takeWhile (· != c) ++ s.dropWhile (· != c) := List.takeWhile_append_dropWhile.symm
    _ = s.takeWhile (· != c) ++ c :: rest := by rw [h, hd]

/-- The first occurrence of a character is the one that none stands in front of. -/
theorem span_ne {front : List Char} {c : Char} (h : c ∉ front) (rest : List Char) :
    (front ++ c :: rest).takeWhile (· != c) = front ∧ (front ++ c :: rest).dropWhile (· != c) = c :: rest := by
  refine span_of_head (fun d hd => bne_iff_ne.2 fun heq => h (heq ▸ hd)) ?_
  rintro d ⟨⟩
  simp

end Text

namespace Timestamp

open Text

/-- As many digits as are asked for are read as the number that they name. -/
theorem fixed_of_digits {ds : List Char} (h : ∀ c ∈ ds, c.isDigit = true) (rest : List Char) :
    fixed ds.length (ds ++ rest) = .ok (decimalValue ds, rest) := by
  induction ds with
  | nil => rfl
  | cons c ds ih =>
    have hdigit := h c (List.mem_cons_self ..)
    have hrest := ih fun d hd => h d (List.mem_cons_of_mem _ hd)
    simp only [List.length_cons, List.cons_append, fixed, hdigit, if_true, hrest]
    rw [decimalValue_cons]
    rfl

/-- A number of a fixed width is read as what is left of it by the power of ten. -/
theorem fixed_fixedDigits (width n : Nat) (rest : List Char) :
    fixed width (fixedDigits width n ++ rest) = .ok (n % 10 ^ width, rest) := by
  have hdigits : ∀ c ∈ fixedDigits width n, c.isDigit = true := fun c hc => isDigit_of_mem_fixedDigits hc
  have hfixed := fixed_of_digits hdigits rest
  rwa [length_fixedDigits, decimalValue_fixedDigits] at hfixed

/-- The digits of a fraction are read up to what is no digit, and count as so many billionths. -/
theorem nanoseconds_fixedDigits {width n : Nat} (hpos : 0 < width) (hle : width ≤ 9) (hn : n < 10 ^ width) {rest : List Char}
    (hrest : ∀ c ∈ rest.head?, c.isDigit = false) :
    nanoseconds (fixedDigits width n ++ rest) = .ok (n * 10 ^ (9 - width), rest) := by
  have hdigits : ∀ c ∈ fixedDigits width n, c.isDigit = true := fun c hc => isDigit_of_mem_fixedDigits hc
  obtain ⟨htake, hdrop⟩ := span_of_head hdigits hrest
  unfold nanoseconds
  rw [htake, hdrop]
  split
  · rename_i hnil
    have hlength := congrArg List.length hnil
    rw [length_fixedDigits, List.length_nil] at hlength
    omega
  · simp only
    rw [List.take_of_length_le (by rw [length_fixedDigits]; exact hle), decimalValue_fixedDigits, length_fixedDigits,
      Nat.mod_eq_of_lt hn]
    rfl

end Timestamp

namespace Uuid

open Text

/-- One hexadecimal digit more makes sixteen times as much and the digit. -/
theorem hexValue?_concat {ds : List Char} {n d : Nat} (h : hexValue? ds = some n) (hd : d < 16) :
    hexValue? (ds ++ [digitChar d]) = some (n * 16 + d) := by
  unfold hexValue? at h ⊢
  rw [List.foldlM_append, h]
  simp [hexVal?_digitChar d hd]

/-- The last hexadecimal digits of a number name what is left of it by the power of sixteen. -/
theorem hexValue?_fixedHexDigits (width n : Nat) : hexValue? (fixedHexDigits width n) = some (n % 16 ^ width) := by
  induction width generalizing n with
  | zero => simp [fixedHexDigits, hexValue?, Nat.mod_one]
  | succ width ih =>
    rw [fixedHexDigits, hexValue?_concat (ih (n / 16)) (Nat.mod_lt _ (by decide)), pow_succ, mul_comm (16 ^ width), Nat.mod_mul]
    congr 1
    omega

end Uuid

end StandingQuery
