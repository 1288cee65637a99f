/-!
# What scanners leave

A scanner takes a value off the front of a text. That it leaves less text than it was given is part of its type, so that what is
built from scanners ends. The operations here join such proofs; the text that is left is never touched by them.
-/

namespace StandingQuery.Text

/-- A text that is shorter than another: what is left of that after its front was taken. -/
abbrev Rest (s : List Char) := { r : List Char // r.length < s.length }

/-- A text that is no longer than another: what is left of that after a front that may be empty was taken. -/
abbrev AtMost (s : List Char) := { r : List Char // r.length ≤ s.length }

/-- Takes a value off the front of a text, if it can. -/
abbrev Scanner (α : Type) := (s : List Char) → Option (α × Rest s)

namespace AtMost

/-- All of a text. -/
abbrev all (s : List Char) : AtMost s := ⟨s, Nat.le_refl _⟩

/-- A text without so many characters at its front. -/
abbrev drop (n : Nat) (s : List Char) : AtMost s := ⟨s.drop n, List.length_drop ▸ Nat.sub_le s.length n⟩

/-- A text without the characters at its front that satisfy a predicate. -/
abbrev dropWhile (p : Char → Bool) (s : List Char) : AtMost s := ⟨s.dropWhile p, (List.dropWhile_sublist p).length_le⟩

/-- What is left of a text is less than the text with one more character in front. -/
abbrev push {c : Char} {s : List Char} (r : AtMost s) : Rest (c :: s) := ⟨r.1, Nat.lt_succ_of_le r.2⟩

/-- What is left of what was left. -/
abbrev leaving {s : List Char} (a : AtMost s) (r : AtMost a.1) : AtMost s := ⟨r.1, Nat.le_trans r.2 a.2⟩

/-- What is left behind the first character of what was left. -/
abbrev tail {s : List Char} (a : AtMost s) {c : Char} {r : List Char} (h : a.1 = c :: r) : Rest s :=
  ⟨r, Nat.lt_of_lt_of_le (Nat.lt_of_lt_of_eq (Nat.lt_succ_self _) (congrArg List.length h).symm) a.2⟩

end AtMost

namespace Rest

/-- A text without its first character. -/
abbrev tail {c : Char} (s : List Char) : Rest (c :: s) := ⟨s, Nat.lt_succ_self _⟩

/-- What is left of a text is less than the text with one more character in front. -/
abbrev push {c : Char} {s : List Char} (r : Rest s) : Rest (c :: s) := ⟨r.1, Nat.lt_succ_of_lt r.2⟩

/-- A shorter text is no longer. -/
abbrev atMost {s : List Char} (r : Rest s) : AtMost s := ⟨r.1, Nat.le_of_lt r.2⟩

end Rest

/-- What is left of what was left, when the front taken second was not empty. -/
abbrev AtMost.leavingRest {s : List Char} (a : AtMost s) (r : Rest a.1) : Rest s := ⟨r.1, Nat.lt_of_lt_of_le r.2 a.2⟩

/-- What is left of what was left, when the front taken first was not empty. -/
abbrev Rest.leaving {s : List Char} (a : Rest s) (r : AtMost a.1) : Rest s := ⟨r.1, Nat.lt_of_le_of_lt r.2 a.2⟩

/-- What is left of what was left, when neither front was empty. -/
abbrev Rest.leavingRest {s : List Char} (a : Rest s) (r : Rest a.1) : Rest s := ⟨r.1, Nat.lt_trans r.2 a.2⟩

end StandingQuery.Text
