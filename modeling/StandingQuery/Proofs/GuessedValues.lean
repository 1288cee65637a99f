import StandingQuery.Proofs.GuessedNumbers
import StandingQuery.Proofs.ReadSettings
import StandingQuery.Proofs.TakenValues

/-!
# Guessed values

A text without blanks or quotes around it stands for itself, unless it is a truth value, a number, a list or a table as a whole
(`Environment.readsText_valueOf_iff`).
-/

namespace StandingQuery

open Text

namespace Environment

/-! ## The texts that stand for themselves -/

/-- Whether a text has neither blanks nor quotes around it. -/
structure IsBare (s : List Char) : Prop where
  head : ∀ c ∈ s.head?, Text.isBlank c = false
  last : ∀ c ∈ s.getLast?, Text.isBlank c = false
  unquoted : ∀ q inside, q = '"' ∨ q = '\'' → s ≠ q :: (inside ++ [q])

/-- The texts that as a whole are truth values, numbers, lists or tables. -/
def StandsForOther (s : List Char) : Prop :=
  s = ['t', 'r', 'u', 'e'] ∨ s = ['f', 'a', 'l', 's', 'e'] ∨ IsNumber s ∨
    ∃ inTable t, s = opening inTable :: t ∧ Written (.entries inTable) t

/-- The blanks of values are blanks. -/
theorem isBlank_of_blank {c : Char} (h : Text.isBlank c = false) : isBlank c = false := by
  refine Bool.eq_false_iff.2 fun hblank => ?_
  simp only [isBlank, Bool.or_eq_true, beq_iff_eq] at hblank
  rcases hblank with (((rfl | rfl) | rfl) | rfl) | rfl <;> cases h

/-- What stands in a number. -/
theorem mem_isNumber {s : List Char} (h : IsNumber s) {c : Char} (hc : c ∈ s) :
    c.isDigit = true ∨ c ∈ ['+', '-', '.', 'e', 'E'] := by
  have hsign {sgn : List Char} (hsgn : IsSign sgn) (hc : c ∈ sgn) : c ∈ ['+', '-', '.', 'e', 'E'] := by
    rcases hsgn with rfl | rfl | rfl
    · cases hc
    · simp_all
    · simp_all
  cases h with
  | natural hplus hds _ =>
    rcases List.mem_append.1 hc with hc | hc
    · exact Or.inr (hsign (hplus.imp_right Or.inl) hc)
    · exact Or.inl (hds.2 c hc)
  | negative hds _ =>
    rcases List.mem_cons.1 hc with rfl | hc
    · exact Or.inr (by simp)
    · exact Or.inl (hds.2 c hc)
  | decimal hsgn hdigits hpower =>
    simp only [List.mem_append, List.mem_cons] at hc
    rcases hc with hc | hc | rfl | hc | hc
    · exact Or.inr (hsign hsgn hc)
    · exact Or.inl (hdigits.2 c (List.mem_append_left _ hc))
    · exact Or.inr (by simp)
    · exact Or.inl (hdigits.2 c (List.mem_append_right _ hc))
    · cases hpower with
      | none => cases hc
      | some he hpsgn hpds =>
        simp only [List.mem_append, List.mem_cons] at hc
        rcases hc with rfl | hc | hc
        · exact Or.inr (by rcases he with rfl | rfl <;> simp)
        · exact Or.inr (hsign hpsgn hc)
        · exact Or.inl (hpds.2 c hc)

/-- No number opens or closes anything, or begins with a blank, a quote or a letter of a truth value. -/
theorem marks_of_isNumber {s : List Char} (h : IsNumber s) {c : Char} (hc : c ∈ s) :
    isLoose c = true ∧ isBlank c = false ∧ c ≠ '"' ∧ c ≠ '\'' ∧ c ≠ 't' ∧ c ≠ 'f' := by
  rcases mem_isNumber h hc with hdigit | hmark
  · have hne {d : Char} (hd : d.isDigit = false) : c ≠ d := by
      rintro rfl
      rw [hdigit] at hd
      cases hd
    have hbracket : c ≠ '[' ∧ c ≠ ']' ∧ c ≠ '{' ∧ c ≠ '}' ∧ c ≠ ',' := ⟨hne rfl, hne rfl, hne rfl, hne rfl, hne rfl⟩
    exact ⟨by simp [isLoose, hbracket], isBlank_of_blank (Text.isBlank_of_isDigit hdigit), hne rfl, hne rfl, hne rfl, hne rfl⟩
  · simp only [List.mem_cons, List.not_mem_nil, or_false] at hmark
    rcases hmark with rfl | rfl | rfl | rfl | rfl <;> decide

theorem isWord_of_isNumber {s : List Char} (h : IsNumber s) : IsWord s := by
  refine ⟨fun c hc => (marks_of_isNumber h hc).1, fun c hc => ?_, ?_, ?_⟩
  · obtain ⟨-, hblank, hdouble, hsingle, -⟩ := marks_of_isNumber h (List.mem_of_mem_head? hc)
    exact ⟨hblank, hdouble, hsingle⟩
  · intro hbegins
    obtain ⟨-, -, -, -, ht, -⟩ := marks_of_isNumber h (hbegins.subset (List.mem_cons_self (a := 't')))
    exact ht rfl
  · intro hbegins
    obtain ⟨-, -, -, -, -, hf⟩ := marks_of_isNumber h (hbegins.subset (List.mem_cons_self (a := 'f')))
    exact hf rfl

variable {text : String}

/-- Of a text without blanks at its end, no blanks can be left behind a value. -/
theorem IsBare.nothing_left {s v left : List Char} (h : IsBare s) (hs : s = v ++ left) (hleft : IsBlanks left) : left = [] := by
  rcases List.eq_nil_or_concat left with rfl | ⟨front, c, rfl⟩
  · rfl
  · have hblank := hleft c (by simp)
    rw [isBlank_of_blank (h.last c (by simp [hs]))] at hblank
    cases hblank

/-- Without blanks around it, a text is not trimmed. -/
theorem IsBare.trim {s : List Char} (h : IsBare s) : Text.trim s = s := by
  have hlast : ∀ c ∈ s.reverse.head?, Text.isBlank c = false := by simpa using h.last
  unfold Text.trim Text.trimEnd
  rw [trimStart_of_head h.head]
  exact (congrArg List.reverse (trimStart_of_head hlast)).trans s.reverse_reverse

/-- The value of a text without a blank in front is what is taken off its front, if nothing but blanks is left. -/
theorem valueOf_eq (h : ∀ c ∈ text.toList.head?, isBlank c = false) :
    valueOf text =
      match bareValue text.toList.length text.toList with
      | some (v, rest) => if (skipBlanks rest.1).1.isEmpty then v else setting (.text text)
      | none => setting (.text text) := by
  unfold valueOf
  rw [skipBlanks_of_head h]
  dsimp only
  rcases bareValue text.toList.length text.toList with _ | ⟨v, rest⟩ <;> rfl

/-- What is taken for a value comes from the environment. -/
theorem source_of_bareValue {depth : Nat} {s : List Char} {x : Setting} {q : AtMost s} (h : bareValue depth s = some (x, q)) :
    x.source = .environment := by
  unfold bareValue at h
  split at h
  · cases h
    rfl
  · cases h
    rfl
  · obtain ⟨t, -, heq⟩ := Option.map_eq_some_iff.1 h
    cases heq
    rfl
  · cases h
    rfl
  · cases h
  · split at h
    · cases h
    · obtain ⟨t, -, heq⟩ := Option.map_eq_some_iff.1 h
      cases heq
      rfl
  · split at h
    · cases h
    · obtain ⟨t, -, heq⟩ := Option.map_eq_some_iff.1 h
      cases heq
      rfl
  · cases h
    rfl

theorem source_valueOf (text : String) : (valueOf text).source = .environment := by
  unfold valueOf
  dsimp only
  split
  · rename_i hread
    split
    · exact source_of_bareValue hread
    · rfl
  · rfl

/-- A text that is a value as a whole is taken for it. -/
theorem bareValue_of_written (hhead : ∀ c ∈ text.toList.head?, isBlank c = false) (h : Written .value text.toList) :
    ∃ q, bareValue text.toList.length text.toList = some (valueOf text, q) := by
  have htaken : TakesWhole (bareValue text.toList.length) text.toList := taken_of_written h _ (Nat.le_refl _)
  obtain ⟨⟨x, q⟩, hread, hq⟩ :=
    Option.map_eq_some_iff.1 (@htaken text.toList [] [] (List.append_nil _).symm isBlanks_nil ends_nil)
  refine ⟨q, ?_⟩
  rw [valueOf_eq hhead, hread]
  simp only [show (skipBlanks q.1).1 = [] from hq, List.isEmpty_nil, if_true]

theorem StandsForOther.written {s : List Char} (h : StandsForOther s) : Written .value s := by
  rcases h with rfl | rfl | h | ⟨inTable, t, rfl, ht⟩
  · exact .yes
  · exact .no
  · exact .word (isWord_of_isNumber h)
  · exact .nested ht

/-- What is taken for a truth value, a number, a list or a table is no text. -/
theorem StandsForOther.not_readsText {s : List Char} (hbare : IsBare s) (h : StandsForOther s) {depth : Nat} {x : Setting}
    {q : AtMost s} (hread : bareValue depth s = some (x, q)) (t : String) : ¬Setting.ReadsText x t := by
  intro hreads
  rcases h with rfl | rfl | h | ⟨inTable, t, rfl, ht⟩
  · rw [bareValue] at hread
    cases hread
    cases hreads
  · rw [bareValue] at hread
    cases hread
    cases hreads
  · obtain ⟨hless, hword⟩ := bareValue_word (isWord_of_isNumber h) isBlanks_nil ends_nil (List.append_nil s).symm depth
    cases hword.symm.trans hread
    rw [List.append_nil, hbare.trim] at hreads
    have hnumber := guess_of_isNumber h
    cases hvalue : guess s with
    | text _ | character _ | boolean _ =>
      rw [hvalue] at hnumber
      cases hnumber
    | signed _ | unsigned _ | double _ =>
      rw [hvalue] at hreads
      cases hreads
  · cases depth with
    | zero => cases inTable <;> simp [opening, bareValue] at hread
    | succ below =>
      cases inTable with
      | false =>
        obtain ⟨_, -, heq⟩ := Option.map_eq_some_iff.1 hread
        cases heq
        cases hreads
      | true =>
        obtain ⟨_, -, heq⟩ := Option.map_eq_some_iff.1 hread
        cases heq
        cases hreads

/-- A value is a truth value, a list or a table, or has quotes around it, or is a word. -/
theorem cases_of_value {v : List Char} (hv : Written .value v) :
    StandsForOther v ∨ (∃ q inside, (q = '"' ∨ q = '\'') ∧ v = q :: (inside ++ [q])) ∨ IsWord v := by
  cases hv with
  | yes => exact Or.inl (Or.inl rfl)
  | no => exact Or.inl (Or.inr (Or.inl rfl))
  | quoted h =>
    obtain ⟨inside, rfl⟩ := List.getLast?_eq_some_iff.1 h.1
    exact Or.inr (Or.inl ⟨'"', inside, Or.inl rfl, rfl⟩)
  | character c => exact Or.inr (Or.inl ⟨'\'', [c], Or.inr rfl, rfl⟩)
  | word h => exact Or.inr (Or.inr h)
  | nested h => exact Or.inl (Or.inr (Or.inr (Or.inr ⟨_, _, rfl, h⟩)))

/-- A text without blanks or quotes around it stands for itself unless it is a truth value, a number, a list or a table. -/
theorem valueOf_of_not_other (hbare : IsBare text.toList) (h : ¬StandsForOther text.toList) :
    valueOf text = setting (.text text) := by
  have hhead : ∀ c ∈ text.toList.head?, isBlank c = false := fun c hc => isBlank_of_blank (hbare.head c hc)
  rw [valueOf_eq hhead]
  split
  · rename_i x q hread
    split
    · rename_i hempty
      obtain ⟨v, hs, hv⟩ := takesValues_bareValue _ hhead hread
      obtain ⟨front, hfront, hq, -⟩ := exists_blanks q.1
      rw [List.isEmpty_iff.1 hempty, List.append_nil] at hq
      have hnothing : q.1 = [] := hbare.nothing_left hs (hq ▸ hfront)
      rw [hnothing, List.append_nil] at hs
      subst hs
      rcases cases_of_value hv with hother | ⟨mark, inside, hmark, hquoted⟩ | hword
      · exact absurd hother h
      · exact absurd hquoted (hbare.unquoted mark inside hmark)
      · obtain ⟨hless, htaken⟩ := bareValue_word hword isBlanks_nil ends_nil (List.append_nil _).symm text.toList.length
        cases htaken.symm.trans hread
        rw [List.append_nil, hbare.trim, guess_of_not_isNumber fun hnumber => h (Or.inr (Or.inr (Or.inl hnumber))),
          String.ofList_toList]
    · rfl
  · rfl

/-- A text without blanks or quotes around it reads as itself and as nothing else, unless it is a truth value, a number, a list or
a table. -/
theorem readsText_valueOf_iff (hbare : IsBare text.toList) {t : String} :
    Setting.ReadsText (valueOf text) t ↔ ¬StandsForOther text.toList ∧ t = text := by
  constructor
  · intro hreads
    have hother : ¬StandsForOther text.toList := by
      intro hother
      obtain ⟨q, hread⟩ := bareValue_of_written (fun c hc => isBlank_of_blank (hbare.head c hc)) hother.written
      exact hother.not_readsText hbare hread t hreads
    rw [valueOf_of_not_other hbare hother] at hreads
    cases hreads
    exact ⟨hother, rfl⟩
  · rintro ⟨hother, rfl⟩
    rw [valueOf_of_not_other hbare hother]
    exact .text _ _

end Environment

end StandingQuery
