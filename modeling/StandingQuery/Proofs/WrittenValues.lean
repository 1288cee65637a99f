import Mathlib.Data.List.TakeWhile
import StandingQuery.Proofs.WrittenDigits
import StandingQuery.Settings.Environment

/-!
# Written values

The texts that are values of the environment (`Environment.Written`): truth values, quoted strings and characters, words, lists
and tables. What is taken off the front of a text as a value is one of these (`Environment.takesValues_bareValue`).
-/

namespace StandingQuery

open Text

/-- Whether a scanner takes a value off the front of any text that begins as it is written, and leaves what stands behind it. -/
def Text.ScannerTakes {α : Type} (scan : Scanner α) (written : List Char) (a : α) : Prop :=
  ∀ ⦃s r : List Char⦄, s = written ++ r → ∃ h, scan s = some (a, ⟨r, h⟩)

namespace Toml

/-! ## Quoted strings -/

/-- The digits of a code point are taken whatever stands behind them. -/
theorem codePoint_eq_some {width : Nat} {s : List Char} {c : Char} {q : AtMost s} (h : codePoint width s = some (c, q)) :
    ∃ ds, s = ds ++ q.1 ∧ ∀ ⦃t r : List Char⦄, t = ds ++ r → ∃ h, codePoint width t = some (c, ⟨r, h⟩) := by
  unfold codePoint at h
  dsimp only at h
  split at h
  · cases h
  · rename_i hlong
    simp only [Option.bind_eq_bind, Option.bind_eq_some_iff] at h
    obtain ⟨n, hn, d, hd, heq⟩ := h
    cases heq
    have hlength : (s.take width).length = width := Nat.le_antisymm (List.length_take_le width s) (Nat.le_of_not_lt hlong)
    refine ⟨s.take width, (List.take_append_drop width s).symm, ?_⟩
    rintro t r rfl
    refine ⟨by simp, ?_⟩
    unfold codePoint
    simp only [List.take_left' hlength, hlong, if_false, hn, hd, Option.bind_eq_bind, Option.bind_some]
    exact congrArg (fun q => some (c, q)) (Subtype.ext (List.drop_left' hlength))

/-- An escape is taken whatever stands behind it. -/
theorem escape_eq_some {s : List Char} {c : Char} {q : Rest s} (h : escape s = some (c, q)) :
    ∃ code, s = code ++ q.1 ∧ ScannerTakes escape code c := by
  cases s with
  | nil => cases h
  | cons d r =>
    have hcoded {width : Nat} (hd : ∀ t, escape (d :: t) = (codePoint width t).map fun q => (q.1, q.2.push)) :
        ∃ code, d :: r = code ++ q.1 ∧ ScannerTakes escape code c := by
      rw [hd, Option.map_eq_some_iff] at h
      obtain ⟨⟨_, behind⟩, hread, heq⟩ := h
      cases heq
      obtain ⟨ds, hr, htakes⟩ := codePoint_eq_some hread
      refine ⟨d :: ds, congrArg (d :: ·) hr, ?_⟩
      intro t rest ht
      obtain ⟨hless, hread⟩ := htakes (t := ds ++ rest) rfl
      obtain rfl : t = d :: (ds ++ rest) := ht
      refine ⟨Nat.lt_succ_of_le hless, ?_⟩
      rw [hd, hread]
      rfl
    by_cases hlower : d = 'u'
    · subst hlower
      exact hcoded fun t => rfl
    · by_cases hupper : d = 'U'
      · subst hupper
        exact hcoded fun t => rfl
      · have hshort (t : List Char) : escape (d :: t) = (shortEscape d).map fun e => (e, .tail t) := by
          simp only [escape, hlower, hupper, if_false]
        rw [hshort, Option.map_eq_some_iff] at h
        obtain ⟨e, he, heq⟩ := h
        cases heq
        refine ⟨[d], rfl, ?_⟩
        intro t rest ht
        obtain rfl : t = d :: rest := ht
        refine ⟨Nat.lt_succ_self _, ?_⟩
        rw [hshort, he]
        rfl

/-- A string ends with its closing quote, and is taken whatever stands behind that. -/
theorem basicTail_eq_some {s content : List Char} {q : Rest s} (h : basicTail s = some (content, q)) :
    ∃ inside, s = (inside ++ ['"']) ++ q.1 ∧ ScannerTakes basicTail (inside ++ ['"']) content := by
  fun_induction basicTail s generalizing content with
  | case1 => cases h
  | case2 r =>
    cases h
    refine ⟨[], rfl, ?_⟩
    intro t rest ht
    obtain rfl : t = '"' :: rest := ht
    refine ⟨Nat.lt_succ_self _, ?_⟩
    rw [basicTail]
  | case3 r hescape => cases h
  | case4 r c behind hescape ih =>
    rw [Option.map_eq_some_iff] at h
    obtain ⟨⟨inner, left⟩, hread, heq⟩ := h
    cases heq
    obtain ⟨code, hr, hcode⟩ := escape_eq_some hescape
    obtain ⟨inside, hbehind, htakes⟩ := ih hread
    refine ⟨'\\' :: (code ++ inside), ?_, ?_⟩
    · calc '\\' :: r = '\\' :: (code ++ behind.1) := congrArg ('\\' :: ·) hr
        _ = '\\' :: (code ++ (inside ++ ['"'] ++ left.1)) := congrArg (fun t => '\\' :: (code ++ t)) hbehind
        _ = '\\' :: (code ++ inside) ++ ['"'] ++ left.1 := by simp
    · intro t rest ht
      obtain ⟨hless, hread⟩ := htakes (s := inside ++ ['"'] ++ rest) rfl
      obtain ⟨hbehind, hescape⟩ := hcode (s := code ++ (inside ++ ['"'] ++ rest)) rfl
      obtain rfl : t = '\\' :: (code ++ (inside ++ ['"'] ++ rest)) := by simp [ht]
      refine ⟨Nat.lt_succ_of_lt (Nat.lt_trans hless hbehind), ?_⟩
      rw [basicTail]
      simp only [hescape, hread, Option.map_some]
  | case5 c r hquote hbackslash hplain ih =>
    rw [Option.map_eq_some_iff] at h
    obtain ⟨⟨inner, left⟩, hread, heq⟩ := h
    cases heq
    obtain ⟨inside, hr, htakes⟩ := ih hread
    refine ⟨c :: inside, congrArg (c :: ·) hr, ?_⟩
    intro t rest ht
    obtain ⟨hless, hread⟩ := htakes (s := inside ++ ['"'] ++ rest) rfl
    obtain rfl : t = c :: (inside ++ ['"'] ++ rest) := ht
    refine ⟨Nat.lt_succ_of_lt hless, ?_⟩
    rw [basicTail]
    · simp only [hplain, if_true, hread, Option.map_some]
    · exact hquote
    · exact hbackslash
  | case6 => cases h

end Toml

namespace Environment

/-! ## The texts that are values -/

/-- Whether a text is what stands behind the opening quote of a string, up to its closing quote. -/
def IsStringTail (body : List Char) : Prop := body.getLast? = some '"' ∧ ∃ content, ScannerTakes Toml.basicTail body content

/-- Whether a text is blanks, or nothing. -/
def IsBlanks (s : List Char) : Prop := ∀ c ∈ s, isBlank c = true

/-- The texts that are keys of members. -/
inductive IsKey : List Char → Prop
  | bare {k : List Char} (hne : k ≠ []) (h : ∀ c ∈ k, isKeyChar c = true) : IsKey k
  | quoted {body : List Char} (h : IsStringTail body) : IsKey ('"' :: body)

/-- Whether a text is a word: it has no marks of lists and tables in it, and does not begin like a blank, a quoted text or a truth
value. -/
structure IsWord (s : List Char) : Prop where
  loose : ∀ c ∈ s, isLoose c = true
  head : ∀ c ∈ s.head?, isBlank c = false ∧ c ≠ '"' ∧ c ≠ '\''
  not_true : ¬['t', 'r', 'u', 'e'] <+: s
  not_false : ¬['f', 'a', 'l', 's', 'e'] <+: s

/-- What opens a list or a table. -/
def opening : Bool → Char
  | false => '['
  | true => '{'

/-- What closes a list or a table. -/
def closing : Bool → Char
  | false => ']'
  | true => '}'

/-- What stands in front of the value of an item or of a member. -/
inductive IsLead : Bool → List Char → Prop
  | item {front : List Char} (hfront : IsBlanks front) : IsLead false front
  | member {front k back gap : List Char} (hfront : IsBlanks front) (hk : IsKey k) (hback : IsBlanks back) (hgap : IsBlanks gap) :
    IsLead true (front ++ (k ++ (back ++ '=' :: gap)))

/-- The parts that values consist of. -/
inductive Part where
  | value
  /-- An item of a list, or a member of a table. -/
  | entry (inTable : Bool)
  /-- What stands behind the opening of a list or a table, up to its closing. -/
  | entries (inTable : Bool)

/-- The texts that are values or parts of them. -/
inductive Written : Part → List Char → Prop
  | yes : Written .value ['t', 'r', 'u', 'e']
  | no : Written .value ['f', 'a', 'l', 's', 'e']
  | quoted {body : List Char} (h : IsStringTail body) : Written .value ('"' :: body)
  | character (c : Char) : Written .value ['\'', c, '\'']
  | word {s : List Char} (h : IsWord s) : Written .value s
  | nested {inTable : Bool} {s : List Char} (h : Written (.entries inTable) s) : Written .value (opening inTable :: s)
  | entry {inTable : Bool} {lead v back : List Char} (hlead : IsLead inTable lead) (hv : Written .value v)
    (hback : IsBlanks back) : Written (.entry inTable) (lead ++ (v ++ back))
  | done (inTable : Bool) : Written (.entries inTable) [closing inTable]
  | last {inTable : Bool} {e : List Char} (he : Written (.entry inTable) e) : Written (.entries inTable) (e ++ [closing inTable])
  | more {inTable : Bool} {e s : List Char} (he : Written (.entry inTable) e) (hs : Written (.entries inTable) s) :
    Written (.entries inTable) (e ++ ',' :: s)

/-! ## What is taken is written so -/

theorem isBlanks_nil : IsBlanks [] := List.forall_mem_nil _

theorem skipBlanks_append {front rest : List Char} (hfront : IsBlanks front) (hrest : ∀ c ∈ rest.head?, isBlank c = false) :
    (skipBlanks (front ++ rest)).1 = rest :=
  (span_of_head hfront hrest).2

theorem skipBlanks_of_head {s : List Char} (h : ∀ c ∈ s.head?, isBlank c = false) : (skipBlanks s).1 = s :=
  skipBlanks_append isBlanks_nil h

/-- What is skipped is blanks. -/
theorem exists_blanks (s : List Char) :
    ∃ front, IsBlanks front ∧ s = front ++ (skipBlanks s).1 ∧ ∀ c ∈ (skipBlanks s).1.head?, isBlank c = false := by
  refine ⟨s.takeWhile isBlank, fun c hc => List.mem_takeWhile_imp hc, List.takeWhile_append_dropWhile.symm, fun c hc => ?_⟩
  have hhead := List.head?_dropWhile_not isBlank s
  rw [show s.dropWhile isBlank = (skipBlanks s).1 from rfl, hc] at hhead
  simpa using hhead

theorem isKey_of_key {s : List Char} {k : String} {q : Rest s} (h : key s = some (k, q)) : ∃ t, s = t ++ q.1 ∧ IsKey t := by
  unfold key at h
  split at h
  · cases h
  · rename_i r
    rw [Option.map_eq_some_iff] at h
    obtain ⟨⟨content, left⟩, hread, heq⟩ := h
    cases heq
    obtain ⟨inside, hr, htakes⟩ := Toml.basicTail_eq_some hread
    exact ⟨'"' :: (inside ++ ['"']), congrArg ('"' :: ·) hr, .quoted ⟨by simp, content, htakes⟩⟩
  · rename_i c r _
    split at h
    · rename_i hc
      cases h
      refine ⟨c :: r.takeWhile isKeyChar, congrArg (c :: ·) List.takeWhile_append_dropWhile.symm,
        .bare (List.cons_ne_nil _ _) fun d hd => ?_⟩
      rcases List.mem_cons.1 hd with rfl | hd
      · exact hc
      · exact List.mem_takeWhile_imp hd
    · cases h

/-- Whether what a scanner takes is a value, if no blank stands in front. -/
def TakesValues (scan : Scan Setting) : Prop :=
  ∀ ⦃s : List Char⦄ ⦃x : Setting⦄ ⦃q : AtMost s⦄, (∀ c ∈ s.head?, isBlank c = false) → scan s = some (x, q) →
    ∃ v, s = v ++ q.1 ∧ Written .value v

/-- An item with the blanks around it. -/
def itemOf (scan : Scan Setting) : Scan Setting := fun u =>
  (scan (skipBlanks u).1).map fun q => (q.1, ((skipBlanks u).leaving q.2).leaving (skipBlanks q.2.1))

variable {scan : Scan Setting}

theorem entry_of_itemOf (hscan : TakesValues scan) {s : List Char} {x : Setting} {q : AtMost s}
    (h : itemOf scan s = some (x, q)) : ∃ e, s = e ++ q.1 ∧ Written (.entry false) e := by
  unfold itemOf at h
  rw [Option.map_eq_some_iff] at h
  obtain ⟨⟨y, left⟩, hread, heq⟩ := h
  cases heq
  obtain ⟨front, hfront, hs, hhead⟩ := exists_blanks s
  obtain ⟨v, hleft, hv⟩ := hscan hhead hread
  obtain ⟨back, hback, hrest, -⟩ := exists_blanks left.1
  refine ⟨front ++ (v ++ back), ?_, .entry (.item hfront) hv hback⟩
  calc s = front ++ (skipBlanks s).1 := hs
    _ = front ++ (v ++ left.1) := congrArg (front ++ ·) hleft
    _ = front ++ (v ++ (back ++ (skipBlanks left.1).1)) := congrArg (fun t => front ++ (v ++ t)) hrest
    _ = (front ++ (v ++ back)) ++ (skipBlanks left.1).1 := by simp only [List.append_assoc]

theorem entry_of_member (hscan : TakesValues scan) {s : List Char} {e : String × Setting} {q : Rest s}
    (h : member scan s = some (e, q)) : ∃ t, s = t ++ q.1 ∧ Written (.entry true) t := by
  unfold member at h
  split at h
  · cases h
  · rename_i k q' hkey
    dsimp only at h
    split at h
    · rename_i r hequals
      split at h
      · cases h
      · rename_i x left hread
        cases h
        obtain ⟨front, hfront, hs, -⟩ := exists_blanks s
        obtain ⟨t, ht, hk⟩ := isKey_of_key hkey
        obtain ⟨back, hback, hq, -⟩ := exists_blanks q'.1
        obtain ⟨gap, hgap, hr, hhead⟩ := exists_blanks r
        obtain ⟨v, hv, hwritten⟩ := hscan hhead hread
        obtain ⟨last, hlast, hleft, -⟩ := exists_blanks left.1
        have hbehind : r = gap ++ (v ++ (last ++ (skipBlanks left.1).1)) :=
          calc r = gap ++ (skipBlanks r).1 := hr
            _ = gap ++ (v ++ left.1) := congrArg (gap ++ ·) hv
            _ = gap ++ (v ++ (last ++ (skipBlanks left.1).1)) := congrArg (fun u => gap ++ (v ++ u)) hleft
        refine ⟨(front ++ (t ++ (back ++ '=' :: gap))) ++ (v ++ last), ?_, .entry (.member hfront hk hback hgap) hwritten hlast⟩
        calc s = front ++ (skipBlanks s).1 := hs
          _ = front ++ (t ++ q'.1) := congrArg (front ++ ·) ht
          _ = front ++ (t ++ (back ++ (skipBlanks q'.1).1)) := congrArg (fun u => front ++ (t ++ u)) hq
          _ = front ++ (t ++ (back ++ '=' :: r)) := congrArg (fun u => front ++ (t ++ (back ++ u))) hequals
          _ = front ++ (t ++ (back ++ '=' :: (gap ++ (v ++ (last ++ (skipBlanks left.1).1))))) :=
            congrArg (fun u => front ++ (t ++ (back ++ '=' :: u))) hbehind
          _ = _ := by simp only [List.append_assoc, List.cons_append]
    · cases h

/-- A text that is taken in two steps, with one character between them. -/
theorem eq_append_cons {s e left r t rest : List Char} {c : Char} (hs : s = e ++ left) (hleft : left = c :: r)
    (hr : r = t ++ rest) : s = (e ++ c :: t) ++ rest :=
  calc s = e ++ left := hs
    _ = e ++ c :: r := congrArg (e ++ ·) hleft
    _ = e ++ c :: (t ++ rest) := congrArg (fun u => e ++ c :: u) hr
    _ = (e ++ c :: t) ++ rest := by simp only [List.append_assoc, List.cons_append]

/-- What is taken as the items of a list is entries up to the closing bracket. -/
theorem entries_of_itemsTail {item : Scan Setting}
    (hitem : ∀ ⦃s x⦄ ⦃q : AtMost s⦄, item s = some (x, q) → ∃ e, s = e ++ q.1 ∧ Written (.entry false) e)
    {s : List Char} {xs : List Setting} {q : AtMost s} (h : itemsTail item s = some (xs, q)) :
    ∃ t, s = t ++ q.1 ∧ Written (.entries false) t := by
  fun_induction itemsTail item s generalizing xs with
  | case1 r =>
    cases h
    exact ⟨[']'], rfl, .done false⟩
  | case2 => cases h
  | case3 s hclosed x left hread r hcomma next =>
    rename_i ih
    rw [Option.map_eq_some_iff] at h
    obtain ⟨⟨ys, last⟩, hrest, heq⟩ := h
    cases heq
    obtain ⟨e, hs, he⟩ := hitem hread
    obtain ⟨t, hnext, ht⟩ := ih hrest
    exact ⟨e ++ ',' :: t, eq_append_cons hs hcomma hnext, .more he ht⟩
  | case4 s hclosed x left hread r hbracket =>
    cases h
    obtain ⟨e, hs, he⟩ := hitem hread
    exact ⟨e ++ [']'], eq_append_cons hs hbracket rfl, .last he⟩
  | case5 => cases h

/-- What is taken as the members of a table is entries up to the closing brace. -/
theorem entries_of_membersTail (hscan : TakesValues scan) {gathered : Setting.Members} {s : List Char} {ms : Setting.Members}
    {q : AtMost s} (h : membersTail scan gathered s = some (ms, q)) : ∃ t, s = t ++ q.1 ∧ Written (.entries true) t := by
  fun_induction membersTail scan gathered s generalizing ms with
  | case1 gathered r =>
    cases h
    exact ⟨['}'], rfl, .done true⟩
  | case2 => cases h
  | case3 gathered s hclosed k x left hread r hcomma next =>
    rename_i ih
    rw [Option.map_eq_some_iff] at h
    obtain ⟨⟨ys, last⟩, hrest, heq⟩ := h
    cases heq
    obtain ⟨e, hs, he⟩ := entry_of_member hscan hread
    obtain ⟨t, hnext, ht⟩ := ih hrest
    exact ⟨e ++ ',' :: t, eq_append_cons hs hcomma hnext, .more he ht⟩
  | case4 gathered s hclosed k x left hread r hbrace =>
    cases h
    obtain ⟨e, hs, he⟩ := entry_of_member hscan hread
    exact ⟨e ++ ['}'], eq_append_cons hs hbrace rfl, .last he⟩
  | case5 => cases h

/-- A list or a table is taken if it may nest one level deeper. -/
theorem nested_of_bareValue {depth : Nat} (ih : ∀ below < depth, TakesValues (bareValue below)) (inTable : Bool) {r : List Char}
    {x : Setting} {q : AtMost (opening inTable :: r)} (h : bareValue depth (opening inTable :: r) = some (x, q)) :
    ∃ t, r = t ++ q.1 ∧ Written (.entries inTable) t := by
  cases depth with
  | zero => cases inTable <;> simp [opening, bareValue] at h
  | succ below =>
    have hscan := ih below (Nat.lt_succ_self below)
    cases inTable with
    | false =>
      change ((itemsTail (itemOf (bareValue below)) r).map fun t => (_, t.2.push.atMost)) = _ at h
      obtain ⟨⟨xs, left⟩, hread, heq⟩ := Option.map_eq_some_iff.1 h
      cases heq
      exact entries_of_itemsTail (fun s x q => entry_of_itemOf hscan) hread
    | true =>
      change ((membersTail (bareValue below) [] r).map fun t => (_, t.2.push.atMost)) = _ at h
      obtain ⟨⟨ms, left⟩, hread, heq⟩ := Option.map_eq_some_iff.1 h
      cases heq
      exact entries_of_membersTail hscan hread

/-- What is taken as a value, without blanks in front, is written as one. -/
theorem takesValues_bareValue (depth : Nat) : TakesValues (bareValue depth) := by
  induction depth using Nat.strongRecOn with
  | ind depth ih =>
    intro s x q hhead h
    by_cases hopen : ∃ inTable r, s = opening inTable :: r
    · obtain ⟨inTable, r, rfl⟩ := hopen
      obtain ⟨t, hr, ht⟩ := nested_of_bareValue ih inTable h
      exact ⟨opening inTable :: t, congrArg (opening inTable :: ·) hr, .nested ht⟩
    unfold bareValue at h
    split at h
    · cases h
      exact ⟨_, rfl, .yes⟩
    · cases h
      exact ⟨_, rfl, .no⟩
    · rename_i r
      obtain ⟨⟨content, left⟩, hread, heq⟩ := Option.map_eq_some_iff.1 h
      cases heq
      obtain ⟨inside, hr, htakes⟩ := Toml.basicTail_eq_some hread
      exact ⟨'"' :: (inside ++ ['"']), congrArg ('"' :: ·) hr, .quoted ⟨by simp, content, htakes⟩⟩
    · rename_i c _
      cases h
      exact ⟨_, rfl, .character c⟩
    · cases h
    · exact absurd ⟨false, _, rfl⟩ hopen
    · exact absurd ⟨true, _, rfl⟩ hopen
    · rename_i hyes hno hquote hcharacter hapostrophe hbracket hbrace
      cases h
      have hfront : s.takeWhile isLoose <+: s := List.takeWhile_prefix isLoose
      refine ⟨s.takeWhile isLoose, List.takeWhile_append_dropWhile.symm,
        .word ⟨fun c hc => List.mem_takeWhile_imp hc, ?_, ?_, ?_⟩⟩
      · intro c hc
        obtain ⟨r, rfl⟩ : ∃ r, s = c :: r := by
          obtain ⟨t, ht⟩ := List.head?_eq_some_iff.1 hc
          rw [ht] at hfront
          exact ⟨_, hfront.choose_spec.symm⟩
        refine ⟨hhead c rfl, ?_, ?_⟩
        · rintro rfl
          exact hquote r rfl
        · rintro rfl
          exact hapostrophe r rfl
      · intro hbegins
        obtain ⟨t, ht⟩ := hbegins.trans hfront
        exact hyes t ht.symm
      · intro hbegins
        obtain ⟨t, ht⟩ := hbegins.trans hfront
        exact hno t ht.symm

end Environment

end StandingQuery
