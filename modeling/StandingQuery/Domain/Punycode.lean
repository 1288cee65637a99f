import StandingQuery.Text.Rest

/-!
# Labels in ASCII

A text of any characters written with those of ASCII: first its own ASCII characters, then a hyphen if there are any, then a run
of numbers. Each number says where the next character goes, counted in places and code points from where the one before it went,
and characters go in by code point. A number is written in digits of base 36, the lowest first, whose last one is told by its size: a
digit below the threshold of its place ends the number. The thresholds adapt to the size of the numbers so far. Main statement: a
number that was written reads back, whatever stands behind it (`readNumber_writeNumber`).
-/

namespace StandingQuery.Domain.Punycode

/-- The character of a digit below 36: the letters first. -/
def digitChar (d : Nat) : Char := if d < 26 then .ofNat (0x61 + d) else .ofNat (0x30 + (d - 26))

/-- The value of a digit, in either case. -/
def digitVal? (c : Char) : Option Nat :=
  let n := c.toNat
  if 0x61 ≤ n && n ≤ 0x7A then some (n - 0x61)
  else if 0x41 ≤ n && n ≤ 0x5A then some (n - 0x41)
  else if 0x30 ≤ n && n ≤ 0x39 then some (n - 0x30 + 26)
  else none

theorem digitVal?_digitChar {d : Nat} (h : d < 36) : digitVal? (digitChar d) = some d := by
  have all : ∀ e ∈ List.range 36, digitVal? (digitChar e) = some e := by decide
  exact all d (List.mem_range.2 h)

/-- The threshold of a place of a number, places being counted in steps of 36 from 36 on. -/
def threshold (place bias : Nat) : Nat := min 26 (max 1 (place - bias))

theorem threshold_pos (place bias : Nat) : 0 < threshold place bias := by
  unfold threshold
  omega

theorem threshold_le (place bias : Nat) : threshold place bias ≤ 26 := Nat.min_le_left _ _

theorem higher_lt {place bias n : Nat} (h : threshold place bias ≤ n) :
    (n - threshold place bias) / (36 - threshold place bias) < n :=
  Nat.lt_of_le_of_lt (Nat.div_le_self _ _) (Nat.sub_lt (Nat.lt_of_lt_of_le (threshold_pos place bias) h) (threshold_pos place bias))

/-- The digits of a number from a place on. -/
def writeNumber (bias place n : Nat) : List Char :=
  if n < threshold place bias then [digitChar n]
  else
    digitChar (threshold place bias + (n - threshold place bias) % (36 - threshold place bias)) ::
      writeNumber bias (place + 36) ((n - threshold place bias) / (36 - threshold place bias))
termination_by n
decreasing_by exact higher_lt (by omega)

/-- Reads a number from a place on, whose digits count so much there, onto a number. -/
def readNumber (bias place weight n : Nat) : (s : List Char) → Option (Nat × Text.Rest s)
  | [] => none
  | c :: s =>
    match digitVal? c with
    | none => none
    | some d =>
      if d < threshold place bias then some (n + d * weight, .tail s)
      else
        (readNumber bias (place + 36) (weight * (36 - threshold place bias)) (n + d * weight) s).map fun r => (r.1, r.2.push)

/-- A number that was written reads back, whatever stands behind it. -/
theorem readNumber_writeNumber (bias place weight m n : Nat) (s : List Char) :
    (readNumber bias place weight m (writeNumber bias place n ++ s)).map (fun r => (r.1, r.2.1)) =
      some (m + n * weight, s) := by
  fun_induction writeNumber bias place n generalizing weight m with
  | case1 place n h =>
    have := threshold_le place bias
    simp [readNumber, digitVal?_digitChar (show n < 36 by omega), h]
  | case2 place n h ih =>
    have high := threshold_le place bias
    generalize ht : threshold place bias = t at h ih high ⊢
    have below : (n - t) % (36 - t) < 36 - t := Nat.mod_lt _ (by omega)
    have whole : t + (n - t) % (36 - t) + (n - t) / (36 - t) * (36 - t) = n := by
      rw [Nat.add_assoc, Nat.mod_add_div']
      omega
    have digit := digitVal?_digitChar (show t + (n - t) % (36 - t) < 36 by omega)
    simp only [List.cons_append, readNumber, digit, ht, if_neg (Nat.not_lt.2 (Nat.le_add_right t _)), Option.map_map]
    refine (ih (weight * (36 - t)) (m + (t + (n - t) % (36 - t)) * weight)).trans ?_
    rw [Nat.add_assoc, Nat.mul_comm weight, ← Nat.mul_assoc, ← Nat.add_mul, whole]

/-- The bias for the next number, after a number was written or read as the so many-th one. -/
def narrowed (places n : Nat) : Nat :=
  if 455 < n then narrowed (places + 36) (n / 35) else places + 36 * n / (n + 38)
termination_by n
decreasing_by exact Nat.div_lt_self (by omega) (by decide)

/-- The bias for the next number, once there are so many characters; the first number counts for less. -/
def adapted (n count : Nat) (first : Bool) : Nat :=
  let scaled := if first then n / 700 else n / 2
  narrowed 0 (scaled + scaled / count)

/-- The bias for the first number. -/
def firstBias : Nat := 72

/-- How far a text has been written: the digits so far, what is to be added to the next number, the bias for it, and how many
characters have gone in. -/
structure Progress where
  digits : List Char
  ahead : Nat
  bias : Nat
  count : Nat

/-- Passes one character of the text while those with a code point are written, of a text with so many ASCII characters. -/
def Progress.pass (basic code : Nat) (p : Progress) (c : Char) : Progress :=
  if c.toNat < code then { p with ahead := p.ahead + 1 }
  else if c.toNat = code then
    ⟨p.digits ++ writeNumber p.bias 36 p.ahead, 0, adapted p.ahead (p.count + 1) (p.count == basic), p.count + 1⟩
  else p

/-- Writes the characters with the given code points in order, from one that may come next on. -/
def writeCodes (s : List Char) (basic : Nat) : (codes : List Nat) → (next : Nat) → Progress → Progress
  | [], _, p => p
  | code :: codes, next, p =>
    let passed := s.foldl (Progress.pass basic code) { p with ahead := p.ahead + (code - next) * (p.count + 1) }
    writeCodes s basic codes (code + 1) { passed with ahead := passed.ahead + 1 }

/-- Whether a character is one of ASCII. -/
def isBasic (c : Char) : Bool := c.toNat < 0x80

/-- A text in ASCII. -/
def encode (s : List Char) : List Char :=
  let basic := s.filter isBasic
  let codes := ((s.filter fun c => !isBasic c).map Char.toNat).mergeSort.eraseDups
  let written := writeCodes s basic.length codes 0x80 ⟨[], 0, firstBias, basic.length⟩
  basic ++ (if basic.isEmpty then [] else ['-']) ++ written.digits

/-- Puts in characters by the numbers that say where, from a code point, a place and a bias on. -/
def decodeNumbers (code place bias : Nat) (found : List Char) (s : List Char) : Option (List Char) :=
  match s with
  | [] => some found
  | c :: s =>
    match readNumber bias 36 1 place (c :: s) with
    | none => none
    | some (n, rest) =>
      let count := found.length + 1
      let code' := code + n / count
      if code'.isValidChar then
        decodeNumbers code' (n % count + 1) (adapted (n - place) count (place == 0))
          (found.insertIdx (n % count) (.ofNat code')) rest.1
      else none
termination_by s.length
decreasing_by exact rest.2

/-- The text that an ASCII text stands for, if it stands for one. A hyphen with nothing in front of it divides nothing. -/
def decode? (s : List Char) : Option (List Char) :=
  let numbers := (s.reverse.takeWhile (· != '-')).reverse
  let basic := s.take (s.length - numbers.length - 1)
  decodeNumbers 0x80 0 firstBias basic (if basic.isEmpty then s else numbers)

end StandingQuery.Domain.Punycode
