import StandingQuery.Proofs.ScannedParts
import StandingQuery.Settings.Environment

/-!
# Numbers among the values of the environment

A text without quotes is taken for a number if it is written as one: digits with a plus or none in front, as far as 64 bits go,
digits with a minus, or digits with a point among them and perhaps a power of ten behind them (`Environment.guess_of_isNumber`).
Any other text stands for itself (`Environment.guess_of_not_isNumber`).
-/

namespace StandingQuery

/-- Whether a scalar is a number. -/
def Scalar.isNumber : Scalar → Bool
  | .signed _ | .unsigned _ | .double _ => true
  | .boolean _ | .character _ | .text _ => false

namespace Environment

open Text

/-- Whether a text is digits, at least one. -/
def IsDigits (ds : List Char) : Prop := ds ≠ [] ∧ ∀ c ∈ ds, c.isDigit = true

/-- Whether a text is a sign, or nothing in place of one. -/
def IsSign (sgn : List Char) : Prop := sgn = [] ∨ sgn = ['+'] ∨ sgn = ['-']

/-- A power of ten as it is written behind a number, or nothing in place of one. -/
inductive IsPower : List Char → Prop
  | none : IsPower []
  | some {e : Char} {sgn ds : List Char} (he : e = 'e' ∨ e = 'E') (hsgn : IsSign sgn) (hds : IsDigits ds) :
    IsPower (e :: (sgn ++ ds))

/-- The texts that are taken for numbers. -/
inductive IsNumber : List Char → Prop
  | natural {plus ds : List Char} (hplus : plus = [] ∨ plus = ['+']) (hds : IsDigits ds) (hfits : decimalValue ds < 2 ^ 64) :
    IsNumber (plus ++ ds)
  | negative {ds : List Char} (hds : IsDigits ds) (hfits : decimalValue ds ≤ 2 ^ 63) : IsNumber ('-' :: ds)
  | decimal {sgn whole fraction power : List Char} (hsgn : IsSign sgn) (hdigits : IsDigits (whole ++ fraction))
    (hpower : IsPower power) : IsNumber (sgn ++ (whole ++ '.' :: (fraction ++ power)))

theorem isDigits_iff {ds : List Char} : IsDigits ds ↔ (ds.isEmpty || !ds.all Char.isDigit) = false := by
  simp [IsDigits]

/-- No digit is a sign. -/
theorem ne_sign_of_isDigit {c : Char} (h : c.isDigit = true) : c ≠ '-' ∧ c ≠ '+' := by
  constructor
  · rintro rfl
    cases h
  · rintro rfl
    cases h

/-- A text in two parts: a sign, if it begins with one, and the rest. -/
def signed (s : List Char) : Bool × List Char :=
  match s with
  | '-' :: r => (true, r)
  | '+' :: r => (false, r)
  | r => (false, r)

theorem exists_sign (s : List Char) : ∃ sgn, IsSign sgn ∧ s = sgn ++ (signed s).2 := by
  unfold signed
  split
  · exact ⟨['-'], Or.inr (Or.inr rfl), rfl⟩
  · exact ⟨['+'], Or.inr (Or.inl rfl), rfl⟩
  · exact ⟨[], Or.inl rfl, rfl⟩

theorem signed_append {sgn r : List Char} (hsgn : IsSign sgn) (hr : ∀ c ∈ r.head?, c ≠ '-' ∧ c ≠ '+') :
    (signed (sgn ++ r)).2 = r := by
  rcases hsgn with rfl | rfl | rfl
  · unfold signed
    split
    · exact absurd rfl (hr '-' (by simp_all)).1
    · exact absurd rfl (hr '+' (by simp_all)).2
    · rfl
  · rfl
  · rfl

theorem powerOf_eq (s : List Char) :
    powerOf s =
      if (signed s).2.isEmpty || !(signed s).2.all Char.isDigit then none
      else some (if (signed s).1 then -(decimalValue (signed s).2 : Int) else (decimalValue (signed s).2 : Int)) := rfl

/-- What stands behind an `e` is a power of ten if it is digits with a sign or none in front. -/
theorem isSome_powerOf {s : List Char} : (powerOf s).isSome ↔ ∃ sgn ds, IsSign sgn ∧ IsDigits ds ∧ s = sgn ++ ds := by
  have hdigits : (powerOf s).isSome ↔ IsDigits (signed s).2 := by
    rw [powerOf_eq, isDigits_iff]
    cases (signed s).2.isEmpty || !(signed s).2.all Char.isDigit <;> simp
  rw [hdigits]
  constructor
  · intro h
    obtain ⟨sgn, hsgn, hs⟩ := exists_sign s
    exact ⟨sgn, _, hsgn, h, hs⟩
  · rintro ⟨sgn, ds, hsgn, hds, rfl⟩
    rw [signed_append hsgn fun c hc => ne_sign_of_isDigit (hds.2 c (List.mem_of_mem_head? hc))]
    exact hds

/-- Whether a character may stand in front of a power of ten. -/
def isMantissaChar (c : Char) : Bool := !(c == 'e' || c == 'E')

theorem isMantissaChar_of_isDigit {c : Char} (h : c.isDigit = true) : isMantissaChar c = true := by
  have hlower : c ≠ 'e' := by
    rintro rfl
    cases h
  have hupper : c ≠ 'E' := by
    rintro rfl
    cases h
  simp [isMantissaChar, hlower, hupper]

/-- The power of ten behind a mantissa, if what stands there is one. -/
def scaleOf : List Char → Option Int
  | [] => some 0
  | _ :: p => powerOf p

/-- What stands behind the point of a mantissa, if it has one. -/
def fractionOf (mantissa : List Char) : Option (List Char) :=
  match mantissa.dropWhile (· != '.') with
  | [] => none
  | _ :: ds => some ds

/-- A text names a double if what stands behind its mantissa is a power of ten, and in the mantissa a point among digits. -/
theorem isSome_doubleOf {s mantissa behind : List Char} (hmantissa : (signed s).2.takeWhile isMantissaChar = mantissa)
    (hbehind : (signed s).2.dropWhile isMantissaChar = behind) :
    (doubleOf s).isSome ↔ (scaleOf behind).isSome ∧
      ∃ fraction, fractionOf mantissa = some fraction ∧ IsDigits (mantissa.takeWhile (· != '.') ++ fraction) := by
  have hparts : doubleOf s = (do
      let power ← match (signed s).2.drop ((signed s).2.takeWhile isMantissaChar).length with
        | [] => some 0
        | _ :: p => powerOf p
      let fraction ← match ((signed s).2.takeWhile isMantissaChar).dropWhile (· != '.') with
        | [] => none
        | _ :: ds => some ds
      let ds := ((signed s).2.takeWhile isMantissaChar).takeWhile (· != '.') ++ fraction
      if ds.isEmpty || !ds.all Char.isDigit then none
      else some (Decimal.nearest (signed s).1 (decimalValue ds) (power - fraction.length))) := rfl
  have hdrop : (signed s).2.drop ((signed s).2.takeWhile isMantissaChar).length = behind := by
    calc (signed s).2.drop ((signed s).2.takeWhile isMantissaChar).length
        = ((signed s).2.takeWhile isMantissaChar ++ (signed s).2.dropWhile isMantissaChar).drop
            ((signed s).2.takeWhile isMantissaChar).length := by rw [List.takeWhile_append_dropWhile]
      _ = behind := List.drop_left.trans hbehind
  rw [hparts, hdrop, hmantissa]
  unfold scaleOf fractionOf
  cases behind with
  | nil => cases mantissa.dropWhile (· != '.') <;> simp [IsDigits, or_imp, forall_and]
  | cons _ p =>
    dsimp only
    cases powerOf p <;> cases mantissa.dropWhile (· != '.') <;> simp [IsDigits, or_imp, forall_and]

theorem isSome_scaleOf {s : List Char} (h : ∀ c ∈ s.head?, isMantissaChar c = false) : (scaleOf s).isSome ↔ IsPower s := by
  cases s with
  | nil => simp [scaleOf, IsPower.none]
  | cons e p =>
    have he : e = 'e' ∨ e = 'E' := by
      have hchar := h e rfl
      simpa only [isMantissaChar, Bool.not_eq_false', Bool.or_eq_true, beq_iff_eq] using hchar
    rw [scaleOf, isSome_powerOf]
    constructor
    · rintro ⟨sgn, ds, hsgn, hds, rfl⟩
      exact .some he hsgn hds
    · rintro (_ | ⟨-, hsgn, hds⟩)
      exact ⟨_, _, hsgn, hds, rfl⟩

/-- A text that names a double is digits with a point among them, a sign or none in front and perhaps a power of ten behind. -/
theorem decimal_of_doubleOf {s : List Char} (h : (doubleOf s).isSome) :
    ∃ sgn whole fraction power, IsSign sgn ∧ IsDigits (whole ++ fraction) ∧ IsPower power ∧
      s = sgn ++ (whole ++ '.' :: (fraction ++ power)) := by
  obtain ⟨sgn, hsgn, hs⟩ := exists_sign s
  obtain ⟨hscale, fraction, hfraction, hdigits⟩ := (isSome_doubleOf rfl rfl).1 h
  have hpower : IsPower ((signed s).2.dropWhile isMantissaChar) := by
    refine (isSome_scaleOf fun c hc => ?_).1 hscale
    have hhead := List.head?_dropWhile_not isMantissaChar (signed s).2
    rw [hc] at hhead
    simpa using hhead
  have hmantissa : (signed s).2.takeWhile isMantissaChar =
      ((signed s).2.takeWhile isMantissaChar).takeWhile (· != '.') ++ '.' :: fraction := by
    unfold fractionOf at hfraction
    split at hfraction
    · cases hfraction
    · rename_i heq
      cases hfraction
      exact split_at_first heq
  have hrest := congrArg (· ++ (signed s).2.dropWhile isMantissaChar) hmantissa
  simp only [List.takeWhile_append_dropWhile, List.append_assoc, List.cons_append] at hrest
  exact ⟨sgn, _, fraction, _, hsgn, hdigits, hpower, hs.trans (congrArg (sgn ++ ·) hrest)⟩

/-- Such a text names a double. -/
theorem isSome_doubleOf_decimal {sgn whole fraction power : List Char} (hsgn : IsSign sgn) (hdigits : IsDigits (whole ++ fraction))
    (hpower : IsPower power) : (doubleOf (sgn ++ (whole ++ '.' :: (fraction ++ power)))).isSome := by
  have hdigit : ∀ c ∈ whole ++ fraction, c.isDigit = true := hdigits.2
  have hsigned : (signed (sgn ++ (whole ++ '.' :: (fraction ++ power)))).2 = whole ++ '.' :: (fraction ++ power) := by
    refine signed_append hsgn fun c hc => ?_
    cases whole with
    | nil =>
      cases hc
      decide
    | cons c whole =>
      cases hc
      exact ne_sign_of_isDigit (hdigit c (by simp))
  have hmantissa : ∀ c ∈ whole ++ '.' :: fraction, isMantissaChar c = true := by
    intro c hc
    rcases List.mem_append.1 hc with hc | hc
    · exact isMantissaChar_of_isDigit (hdigit c (List.mem_append_left _ hc))
    · rcases List.mem_cons.1 hc with rfl | hc
      · rfl
      · exact isMantissaChar_of_isDigit (hdigit c (List.mem_append_right _ hc))
  have hhead : ∀ c ∈ power.head?, isMantissaChar c = false := by
    rintro c hc
    cases hpower with
    | none => cases hc
    | some he =>
      cases hc
      rcases he with rfl | rfl <;> rfl
  have hspan := span_of_head hmantissa hhead
  rw [List.append_assoc, List.cons_append] at hspan
  have hdot : '.' ∉ whole := fun h => absurd (hdigit '.' (List.mem_append_left _ h)) (by decide)
  obtain ⟨hwhole, hfraction⟩ := span_ne hdot fraction
  refine (isSome_doubleOf ((congrArg _ hsigned).trans hspan.1) ((congrArg _ hsigned).trans hspan.2)).2 ⟨?_, fraction, ?_, ?_⟩
  · exact (isSome_scaleOf hhead).2 hpower
  · rw [fractionOf, hfraction]
  · rw [hwhole]
    exact hdigits

/-! ## Integers -/

/-- A text names an unsigned number if it is digits with a plus or none in front that fit in 64 bits. -/
theorem isSome_naturalOf {s : List Char} :
    (naturalOf s).isSome ↔ ∃ plus ds, (plus = [] ∨ plus = ['+']) ∧ IsDigits ds ∧ decimalValue ds < 2 ^ 64 ∧ s = plus ++ ds := by
  have hdigits (ds : List Char) :
      (if ds.isEmpty || !ds.all Char.isDigit then none
        else if decimalValue ds < 0x10000000000000000 then some (decimalValue ds) else none).isSome ↔
      IsDigits ds ∧ decimalValue ds < 2 ^ 64 := by
    rw [isDigits_iff]
    cases ds.isEmpty || !ds.all Char.isDigit <;> simp
  constructor
  · intro h
    unfold naturalOf at h
    split at h
    · rename_i r
      obtain ⟨hds, hfits⟩ := (hdigits r).1 h
      exact ⟨['+'], r, Or.inr rfl, hds, hfits, rfl⟩
    · obtain ⟨hds, hfits⟩ := (hdigits s).1 h
      exact ⟨[], s, Or.inl rfl, hds, hfits, rfl⟩
  · rintro ⟨plus, ds, rfl | rfl, hds, hfits, rfl⟩
    · unfold naturalOf
      split
      · rename_i r
        exact absurd rfl (ne_sign_of_isDigit (hds.2 '+' (by simp))).2
      · exact (hdigits _).2 ⟨hds, hfits⟩
    · exact (hdigits ds).2 ⟨hds, hfits⟩

/-- A text names a negative number if it is digits with a minus in front that fit in 64 bits. -/
theorem isSome_negativeOf {s : List Char} :
    (negativeOf s).isSome ↔ ∃ ds, IsDigits ds ∧ decimalValue ds ≤ 2 ^ 63 ∧ s = '-' :: ds := by
  have hdigits (ds : List Char) : (negativeOf ('-' :: ds)).isSome ↔ IsDigits ds ∧ decimalValue ds ≤ 2 ^ 63 := by
    rw [isDigits_iff, negativeOf]
    cases ds.isEmpty || !ds.all Char.isDigit <;> simp
  constructor
  · intro h
    unfold negativeOf at h
    split at h
    · rename_i ds
      obtain ⟨hds, hfits⟩ := (hdigits ds).1 h
      exact ⟨ds, hds, hfits, rfl⟩
    · cases h
  · rintro ⟨ds, hds, hfits, rfl⟩
    exact (hdigits ds).2 ⟨hds, hfits⟩

/-! ## What is guessed -/

/-- A text is a number if it names one of the three kinds. -/
theorem isNumber_iff {s : List Char} :
    IsNumber s ↔ (doubleOf s).isSome ∨ (naturalOf s).isSome ∨ (negativeOf s).isSome := by
  rw [isSome_naturalOf, isSome_negativeOf]
  constructor
  · rintro (⟨hplus, hds, hfits⟩ | ⟨hds, hfits⟩ | ⟨hsgn, hdigits, hpower⟩)
    · exact Or.inr (Or.inl ⟨_, _, hplus, hds, hfits, rfl⟩)
    · exact Or.inr (Or.inr ⟨_, hds, hfits, rfl⟩)
    · exact Or.inl (isSome_doubleOf_decimal hsgn hdigits hpower)
  · rintro (hdouble | ⟨_, _, hplus, hds, hfits, rfl⟩ | ⟨_, hds, hfits, rfl⟩)
    · obtain ⟨_, _, _, _, hsgn, hdigits, hpower, rfl⟩ := decimal_of_doubleOf hdouble
      exact .decimal hsgn hdigits hpower
    · exact .natural hplus hds hfits
    · exact .negative hds hfits

/-- Only a text with a point names a double. -/
theorem contains_of_doubleOf {s : List Char} (h : (doubleOf s).isSome) : s.contains '.' = true := by
  obtain ⟨_, _, _, _, -, -, -, rfl⟩ := decimal_of_doubleOf h
  simp

/-- A number is taken for one, and is no text any more. -/
theorem guess_of_isNumber {s : List Char} (h : IsNumber s) : (guess s).isNumber = true := by
  have hdouble : (if s.contains '.' then doubleOf s else none) = doubleOf s := by
    split
    · rfl
    · rename_i hpoint
      exact (Option.not_isSome_iff_eq_none.1 fun hsome => hpoint (contains_of_doubleOf hsome)).symm
  unfold guess
  rw [hdouble]
  rcases isNumber_iff.1 h with hsome | hsome | hsome
  · obtain ⟨bits, hbits⟩ := Option.isSome_iff_exists.1 hsome
    rw [hbits]
    rfl
  · obtain ⟨n, hn⟩ := Option.isSome_iff_exists.1 hsome
    rw [hn]
    cases doubleOf s <;> rfl
  · obtain ⟨i, hi⟩ := Option.isSome_iff_exists.1 hsome
    rw [hi]
    cases doubleOf s <;> cases naturalOf s <;> rfl

/-- Any other text stands for itself. -/
theorem guess_of_not_isNumber {s : List Char} (h : ¬IsNumber s) : guess s = .text (String.ofList s) := by
  rw [isNumber_iff] at h
  simp only [not_or, Option.not_isSome_iff_eq_none] at h
  obtain ⟨hdouble, hnatural, hnegative⟩ := h
  unfold guess
  simp only [hdouble, hnatural, hnegative, ite_self]

end Environment

end StandingQuery
