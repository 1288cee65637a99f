import StandingQuery.Json.RecordText
import StandingQuery.Proofs.WrittenDigits

/-!
# Text that readers take

What the printer writes is taken off the front of a text by the reader of the same shape, whatever stands behind it (`Takes`): strings
with any characters in them (`Json.stringTail_takes`), lists (`Json.listReader_takes`) and records, whose members are gathered one
after the other (`Json.Gathers`, `Json.recordReader_takes`).
-/

namespace StandingQuery

open Text

namespace Json

variable {α β σ : Type}

/-- Whether a reader takes a value off the front of a text that begins with what was written, and leaves what stands behind it. -/
def Takes (read : Reader α) (written : List Char) (a : α) : Prop :=
  ∀ ⦃s r : List Char⦄, s = written ++ r → ∃ h, read s = .ok (a, ⟨r, h⟩)

/-- A reader whose value is changed takes the same text. -/
theorem Takes.map {read : Reader α} {written : List Char} {a : α} (h : Takes read written a) (f : α → β) :
    Takes (fun s => (read s).map fun q => (f q.1, q.2)) written (f a) := by
  intro s rest hs
  obtain ⟨hless, hread⟩ := h hs
  refine ⟨hless, ?_⟩
  simp only [hread, Except.map]

/-- Nothing is skipped of a text that does not begin with a blank. -/
theorem skipBlanks_of_head {s : List Char} (h : ∀ c ∈ s.head?, isBlank c = false) : (skipBlanks s).1 = s := by
  cases s with
  | nil => rfl
  | cons c s => simp [skipBlanks, h c rfl]

theorem skipBlanks_cons {c : Char} {r s : List Char} (h : s = c :: r) (hc : isBlank c = false) : (skipBlanks s).1 = c :: r := by
  subst h
  exact skipBlanks_of_head fun d hd => by cases hd; exact hc

/-! ## Strings -/

/-- The four digits of an escape name the code point that was written. -/
theorem hexEscape_takes {n : Nat} (h : n < 0x10000) : Takes hexEscape (fixedHexDigits 4 n) n := by
  rintro s rest rfl
  have hdigit (k : Nat) : hexEscape.hexVal (digitChar (k % 16)) = some (k % 16) := hexVal?_digitChar _ (Nat.mod_lt _ (by decide))
  have hvalue : ((n / 16 / 16 / 16 % 16 * 16 + n / 16 / 16 % 16) * 16 + n / 16 % 16) * 16 + n % 16 = n := by omega
  refine ⟨by simp, ?_⟩
  simp only [fixedHexDigits, List.nil_append, List.cons_append, hexEscape, hdigit, hvalue]

/-- The escape of a control is read as the control. -/
theorem unicodeEscape_takes {c : Char} (h : c.toNat < 0x20) : Takes unicodeEscape (fixedHexDigits 4 c.toNat) c := by
  intro s rest hs
  obtain ⟨hless, hread⟩ := hexEscape_takes (by omega) hs
  have hlow : ¬(0xDC00 ≤ c.toNat ∧ c.toNat ≤ 0xDFFF) := by omega
  have hplain : c.toNat < 0xD800 ∨ 0xDBFF < c.toNat := by omega
  refine ⟨hless, ?_⟩
  unfold unicodeEscape
  simp only [hread, bind, Except.bind, hlow, hplain, if_true, if_false, Char.ofNat_toNat]

/-- A character stands in a string as itself or as an escape that is read as it. -/
theorem escapedChar_cases (c : Char) :
    (escapedChar c = [c] ∧ c ≠ '"' ∧ c ≠ '\\' ∧ ¬c.toNat < 0x20) ∨
      ∃ code, escapedChar c = '\\' :: code ∧ Takes escape code c := by
  have hshort {d e : Char} (hd : d ≠ 'u') (h : escape.shortEscape d = some e) : Takes escape [d] e := by
    rintro s rest rfl
    refine ⟨by simp, ?_⟩
    simp only [List.cons_append, List.nil_append]
    rw [escape]
    · simp only [h]
    · exact hd
  unfold escapedChar
  split
  · exact Or.inr ⟨['"'], rfl, hshort (by decide) rfl⟩
  · exact Or.inr ⟨['\\'], rfl, hshort (by decide) rfl⟩
  · exact Or.inr ⟨['b'], rfl, hshort (by decide) rfl⟩
  · exact Or.inr ⟨['f'], rfl, hshort (by decide) rfl⟩
  · exact Or.inr ⟨['n'], rfl, hshort (by decide) rfl⟩
  · exact Or.inr ⟨['r'], rfl, hshort (by decide) rfl⟩
  · exact Or.inr ⟨['t'], rfl, hshort (by decide) rfl⟩
  · rename_i hquote hbackslash _ _ _ _ _
    split
    · rename_i hcontrol
      refine Or.inr ⟨'u' :: fixedHexDigits 4 c.toNat, rfl, ?_⟩
      rintro s rest rfl
      obtain ⟨hless, hread⟩ := unicodeEscape_takes hcontrol (s := fixedHexDigits 4 c.toNat ++ rest) rfl
      refine ⟨Nat.lt_succ_of_lt hless, ?_⟩
      simp only [List.cons_append, escape, hread]
    · rename_i hcontrol
      exact Or.inl ⟨rfl, hquote, hbackslash, hcontrol⟩

/-- A string is read up to its closing quote, whatever characters are in it. -/
theorem stringTail_takes (cs : List Char) : Takes stringTail (cs.flatMap escapedChar ++ ['"']) cs := by
  induction cs with
  | nil =>
    rintro s rest rfl
    refine ⟨by simp, ?_⟩
    unfold stringTail
    rfl
  | cons c cs ih =>
    intro s rest hs
    obtain ⟨hless, hread⟩ := ih (s := cs.flatMap escapedChar ++ ['"'] ++ rest) rfl
    rw [List.flatMap_cons, List.append_assoc, List.append_assoc, ← List.append_assoc _ ['"']] at hs
    generalize cs.flatMap escapedChar ++ ['"'] ++ rest = behind at hs hless hread
    rcases escapedChar_cases c with ⟨hself, hquote, hbackslash, hcontrol⟩ | ⟨code, hcode, hescape⟩
    · have hplain : s = c :: behind := by rw [hs, hself, List.singleton_append]
      subst hplain
      refine ⟨Nat.lt_succ_of_lt hless, ?_⟩
      rw [stringTail]
      · simp only [hcontrol, if_false, hread]
      · exact hquote
      · exact hbackslash
    · have hescaped : s = '\\' :: (code ++ behind) := by rw [hs, hcode, List.cons_append]
      subst hescaped
      obtain ⟨hbehind, htaken⟩ := hescape (s := code ++ behind) rfl
      refine ⟨Nat.lt_succ_of_lt (Nat.lt_trans hless hbehind), ?_⟩
      rw [stringTail]
      simp only [htaken, hread]

/-- A written string is read as the string. -/
theorem textReader_takes (t : String) : Takes textReader (writeString t) t := by
  intro s rest hs
  have hopen := skipBlanks_cons hs rfl
  unfold textReader
  split
  · rename_i r h
    have hr : r = t.toList.flatMap escapedChar ++ ['"'] ++ rest := (List.cons.inj (h.symm.trans hopen)).2
    obtain ⟨hless, hread⟩ := stringTail_takes t.toList hr
    refine ⟨(((skipBlanks s).tail h).leavingRest ⟨rest, hless⟩).2, ?_⟩
    simp only [hread, Except.map, String.ofList_toList]
  · rename_i hother
    exact absurd hopen (hother _)

/-! ## Values, lists and records -/

/-- What a written value begins with, when it is a string, a list or an object. -/
def Opens (written : List Char) : Prop := ∃ c ∈ ['"', '[', '{'], ∃ more, written = c :: more

theorem opens_str (t : String) : Opens (write (.str t)) := ⟨'"', by decide, _, by rw [write]; rfl⟩

theorem opens_obj (members : List (String × Json)) : Opens (write (.obj members)) := by
  cases members with
  | nil => exact ⟨'{', by decide, _, by rw [write]⟩
  | cons m members => exact ⟨'{', by decide, _, by rw [write]; rfl⟩

/-- A text that begins with such a value begins with no blank, no closing bracket and no `null`. -/
theorem Opens.head {written s rest : List Char} (h : Opens written) (hs : s = written ++ rest) :
    ∃ c r, (skipBlanks s).1 = c :: r ∧ s = c :: r ∧ c ≠ ']' ∧ c ≠ 'n' := by
  obtain ⟨c, hc, more, rfl⟩ := h
  have hblank : isBlank c = false ∧ c ≠ ']' ∧ c ≠ 'n' := by
    simp only [List.mem_cons, List.not_mem_nil, or_false] at hc
    rcases hc with rfl | rfl | rfl
    · decide
    · decide
    · decide
  exact ⟨c, more ++ rest, skipBlanks_cons hs hblank.1, hs, hblank.2⟩

/-- Whether a reader reads a value from what it is written as, which is no `null`. -/
structure Reads (read : Reader α) (encode : α → Json) (a : α) : Prop where
  opens : Opens (write (encode a))
  takes : Takes read (write (encode a)) a

/-- A value or `null` is read as there being a value or none. -/
theorem optionalReader_takes {read : Reader α} {encode : α → Json} {o : Option α} (hread : ∀ a ∈ o, Reads read encode a) :
    Takes (optionalReader read) (write (.ofOption encode o)) o := by
  intro s rest hs
  cases o with
  | none =>
    have hopen : (skipBlanks s).1 = 'n' :: 'u' :: 'l' :: 'l' :: rest := skipBlanks_cons hs rfl
    unfold optionalReader
    split
    · rename_i r h
      cases h.symm.trans hopen
      exact ⟨(((skipBlanks s).tail h).leaving ⟨rest, by simp; omega⟩).2, rfl⟩
    · rename_i hother
      exact absurd hopen (hother _)
  | some a =>
    obtain ⟨c, r, hopen, -, -, hc⟩ := (hread a rfl).opens.head hs
    obtain ⟨hless, htaken⟩ := (hread a rfl).takes hs
    unfold optionalReader
    split
    · rename_i h
      cases h.symm.trans hopen
      exact absurd rfl hc
    · refine ⟨hless, ?_⟩
      simp only [htaken, Except.map]

/-- A list without more items ends with its closing bracket. -/
theorem itemsTail_nil (item : Reader α) (first : Bool) : Takes (itemsTail item first) [']'] [] := by
  intro s rest hs
  have hopen : (skipBlanks s).1 = ']' :: rest := skipBlanks_cons hs rfl
  unfold itemsTail
  split
  · rename_i h
    cases h.symm.trans hopen
  · rename_i r h
    cases h.symm.trans hopen
    exact ⟨((skipBlanks s).tail h).2, rfl⟩
  · rename_i hother h
    cases h.symm.trans hopen
    exact (hother rfl).elim

/-- The later items of a list are read up to its closing bracket, each with a comma in front. -/
theorem itemsTail_later {item : Reader α} {encode : α → Json} {as : List α} (hitem : ∀ a ∈ as, Reads item encode a) :
    Takes (itemsTail item false) (writeItems (as.map encode)) as := by
  induction as with
  | nil => exact itemsTail_nil item false
  | cons a as ih =>
    intro s rest hs
    have hcomma : s = ',' :: (write (encode a) ++ (writeItems (as.map encode) ++ rest)) := by
      rw [hs, List.map_cons, writeItems, List.cons_append, List.cons_append, List.append_assoc]
    have hopen := skipBlanks_cons hcomma rfl
    obtain ⟨c, r, hbehind, hr, hc, -⟩ := (hitem a List.mem_cons_self).opens.head rfl
    obtain ⟨hread_less, hread⟩ := (hitem a List.mem_cons_self).takes (hbehind.trans hr.symm)
    obtain ⟨hless, hmore⟩ := ih (fun b hb => hitem b (List.mem_cons_of_mem a hb)) (r := rest) rfl
    unfold itemsTail
    split
    · rename_i h
      cases h.symm.trans hopen
    · rename_i h
      cases h.symm.trans hopen
    · rename_i h
      cases h.symm.trans hopen
      simp only [if_false, if_true, Bool.false_eq_true]
      split
      · rename_i hempty
        cases hempty.symm.trans hbehind
      · rename_i hbracket
        cases hbracket.symm.trans hbehind
        exact absurd rfl hc
      · refine ⟨hless.trans (((skipBlanks s).tail h).leavingRest ((skipBlanks _).leavingRest ⟨_, hread_less⟩)).2, ?_⟩
        simp only [hread, hmore]

/-- The items of a list are read up to its closing bracket. -/
theorem itemsTail_first {item : Reader α} {encode : α → Json} {a : α} {as : List α} (hitem : ∀ b ∈ a :: as, Reads item encode b) :
    Takes (itemsTail item true) (write (encode a) ++ writeItems (as.map encode)) (a :: as) := by
  intro s rest hs
  rw [List.append_assoc] at hs
  obtain ⟨c, r, hopen, hr, hc, -⟩ := (hitem a List.mem_cons_self).opens.head hs
  obtain ⟨hread_less, hread⟩ := (hitem a List.mem_cons_self).takes ((hopen.trans hr.symm).trans hs)
  obtain ⟨hless, hmore⟩ := itemsTail_later (fun b hb => hitem b (List.mem_cons_of_mem a hb)) (r := rest) rfl
  unfold itemsTail
  split
  · rename_i h
    cases h.symm.trans hopen
  · rename_i h
    cases h.symm.trans hopen
    exact absurd rfl hc
  · refine ⟨hless.trans ((skipBlanks s).leavingRest ⟨_, hread_less⟩).2, ?_⟩
    simp only [if_true, hread, hmore]

/-- A written list is read item by item. -/
theorem listReader_takes {item : Reader α} {encode : α → Json} {as : List α} (hitem : ∀ a ∈ as, Reads item encode a) :
    Takes (listReader item) (write (.arr (as.map encode))) as := by
  intro s rest hs
  have hfirst : ∃ body, write (.arr (as.map encode)) = '[' :: body ∧ Takes (itemsTail item true) body as := by
    cases as with
    | nil => exact ⟨[']'], by rw [List.map_nil, write], itemsTail_nil item true⟩
    | cons a as => exact ⟨_, by rw [List.map_cons, write]; rfl, itemsTail_first hitem⟩
  obtain ⟨body, hbody, htakes⟩ := hfirst
  have hopen : (skipBlanks s).1 = '[' :: (body ++ rest) := skipBlanks_cons (by rw [hs, hbody, List.cons_append]) rfl
  unfold listReader
  split
  · rename_i r h
    cases h.symm.trans hopen
    obtain ⟨hless, htaken⟩ := htakes (s := body ++ rest) rfl
    refine ⟨(((skipBlanks s).tail h).leavingRest ⟨rest, hless⟩).2, ?_⟩
    simp only [htaken, Except.map]
  · rename_i hother
    exact absurd hopen (hother _)

/-- The value behind a key and a colon is read. -/
theorem keyed_takes {read : Reader α} {written : List Char} {a : α} (h : Takes read written a) :
    Takes (keyed read) (':' :: written) a := by
  intro s rest hs
  have hopen : (skipBlanks s).1 = ':' :: (written ++ rest) := skipBlanks_cons hs rfl
  obtain ⟨hless, htaken⟩ := h (s := written ++ rest) rfl
  unfold keyed
  split
  · rename_i hempty
    cases hempty.symm.trans hopen
  · rename_i r hcolon
    cases hcolon.symm.trans hopen
    refine ⟨(((skipBlanks s).tail hcolon).leavingRest ⟨rest, hless⟩).2, ?_⟩
    simp only [htaken, Except.map]
  · rename_i hother hc
    cases hc.symm.trans hopen
    exact (hother rfl).elim

/-- A field that holds nothing yet is read. -/
theorem fieldReader_takes {read : Reader α} {written : List Char} {a : α} (key : String) (h : Takes read written a) :
    Takes (fieldReader key none read) (':' :: written) (some a) := by
  intro s rest hs
  obtain ⟨hless, htaken⟩ := keyed_takes h hs
  refine ⟨hless, ?_⟩
  unfold fieldReader
  simp only [Option.isSome_none, Bool.false_eq_true, if_false, htaken, Except.map]

/-- Whether written members are gathered one after the other, with this in the end. -/
inductive Gathers (member : σ → String → Reader σ) : σ → List (String × Json) → σ → Prop
  | done (g : σ) : Gathers member g [] g
  | next {g later out : σ} {key : String} {value : Json} {members : List (String × Json)}
      (read : Takes (member g key) (':' :: write value) later) (more : Gathers member later members out) :
      Gathers member g ((key, value) :: members) out

/-- An object without more members ends with its closing brace. -/
theorem membersTail_nil (member : σ → String → Reader σ) (first : Bool) (g : σ) : Takes (membersTail member first g) ['}'] g := by
  intro s rest hs
  have hopen : (skipBlanks s).1 = '}' :: rest := skipBlanks_cons hs rfl
  unfold membersTail
  split
  · rename_i r h
    cases h.symm.trans hopen
    exact ⟨((skipBlanks s).tail h).2, rfl⟩
  · rename_i hother
    exact absurd hopen (hother _)

/-- Where the first key of an object begins. -/
theorem nextKey_first {s body : List Char} (hs : s = '"' :: body) : ∃ start, nextKey true s = .ok start ∧ start.1 = '"' :: body := by
  have hopen := skipBlanks_cons hs rfl
  refine ⟨skipBlanks s, ?_, hopen⟩
  unfold nextKey
  split
  · rename_i h
    cases h.symm.trans hopen
  · rfl

/-- A later key of an object begins behind a comma. -/
theorem nextKey_later {s body : List Char} (hs : s = ',' :: '"' :: body) :
    ∃ start, nextKey false s = .ok start ∧ start.1 = '"' :: body := by
  have hopen := skipBlanks_cons hs rfl
  unfold nextKey
  split
  · rename_i h
    cases h.symm.trans hopen
  · rename_i h
    cases h.symm.trans hopen
    exact ⟨_, rfl, skipBlanks_cons rfl rfl⟩

/-- A member is gathered, and those behind it after it. -/
theorem membersTail_step {member : σ → String → Reader σ} {first : Bool} {g later out : σ} {key : String} {value : Json}
    {s behind rest : List Char} (hbegins : ∃ c r, (skipBlanks s).1 = c :: r ∧ c ≠ '}')
    (hkey : ∃ start, nextKey first s = .ok start ∧ start.1 = writeString key ++ (':' :: write value ++ behind))
    (hread : Takes (member g key) (':' :: write value) later)
    (hmore : ∃ h, membersTail member false later behind = .ok (out, ⟨rest, h⟩)) :
    ∃ h, membersTail member first g s = .ok (out, ⟨rest, h⟩) := by
  obtain ⟨c, r, hopen, hc⟩ := hbegins
  obtain ⟨start, hnext, hstart⟩ := hkey
  obtain ⟨hless, hmore⟩ := hmore
  have hquote : start.1 = '"' :: (key.toList.flatMap escapedChar ++ ['"'] ++ (':' :: write value ++ behind)) := hstart
  obtain ⟨hkey_less, hname⟩ := stringTail_takes key.toList (r := ':' :: write value ++ behind) rfl
  obtain ⟨hread_less, htaken⟩ := hread (s := ':' :: write value ++ behind) rfl
  unfold membersTail
  split
  · rename_i h
    cases h.symm.trans hopen
    exact absurd rfl hc
  · simp only [hnext]
    split
    · rename_i h
      cases h.symm.trans hquote
      refine ⟨hless.trans ((start.tail h).leavingRest (Text.Rest.leavingRest ⟨_, hkey_less⟩ ⟨_, hread_less⟩)).2, ?_⟩
      simp only [hname, String.ofList_toList, htaken, hmore]
    · rename_i h
      cases h.symm.trans hquote
    · rename_i h
      cases h.symm.trans hquote
    · rename_i hother _ h
      cases h.symm.trans hquote
      exact (hother rfl).elim

/-- The later members of an object are gathered up to its closing brace, each with a comma in front. -/
theorem membersTail_later {member : σ → String → Reader σ} {g out : σ} {members : List (String × Json)}
    (h : Gathers member g members out) : Takes (membersTail member false g) (writeMembers members) out := by
  induction h with
  | done g => exact membersTail_nil member false g
  | next read more ih =>
    rename_i g later out key value members
    intro s rest hs
    have hcomma : s = ',' :: (writeString key ++ (':' :: write value ++ (writeMembers members ++ rest))) := by
      rw [hs, writeMembers]
      simp only [List.cons_append, List.append_assoc]
    exact membersTail_step ⟨',', _, skipBlanks_cons hcomma rfl, by decide⟩ (nextKey_later hcomma) read (ih rfl)

/-- A written record is read by gathering its members. -/
theorem recordReader_takes {member : σ → String → Reader σ} {start out : σ} {members : List (String × Json)} {build : σ → α}
    {row : (s : List Char) → Except Fault (α × AtMost s)} (name : String) (h : Gathers member start members out) :
    Takes (recordReader name start member build row) (write (.obj members)) (build out) := by
  intro s rest hs
  have hmembers : ∃ body, write (.obj members) = '{' :: body ∧ Takes (membersTail member true start) body out := by
    cases h with
    | done => exact ⟨['}'], by rw [write], membersTail_nil member true start⟩
    | next read more =>
      rename_i later key value members
      refine ⟨writeString key ++ ':' :: write value ++ writeMembers members, by rw [write]; rfl, ?_⟩
      intro s rest hs
      have hquote : s = writeString key ++ (':' :: write value ++ (writeMembers members ++ rest)) := by
        rw [hs]
        simp only [List.cons_append, List.append_assoc]
      exact membersTail_step ⟨'"', _, skipBlanks_cons hquote rfl, by decide⟩ (nextKey_first hquote) read (membersTail_later more rfl)
  obtain ⟨body, hbody, htakes⟩ := hmembers
  have hopen : (skipBlanks s).1 = '{' :: (body ++ rest) := skipBlanks_cons (by rw [hs, hbody, List.cons_append]) rfl
  unfold recordReader
  split
  · rename_i r h
    cases h.symm.trans hopen
    obtain ⟨hless, htaken⟩ := htakes (s := body ++ rest) rfl
    refine ⟨(((skipBlanks s).tail h).leavingRest ⟨rest, hless⟩).2, ?_⟩
    simp only [htaken, Except.map]
  · rename_i h
    cases h.symm.trans hopen
  · rename_i hother _
    exact absurd hopen (hother _)

/-- A text that is what was written and nothing more is read as the value. -/
theorem readAll_compact {read : Reader α} {j : Json} {a : α} (h : Takes read (write j) a) : readAll read j.compact = .ok a := by
  have hwhole : j.compact.toList = write j ++ [] := by rw [compact, String.toList_ofList, List.append_nil]
  obtain ⟨_, htaken⟩ := h hwhole
  unfold readAll
  simp only [htaken]
  rfl

end Json

end StandingQuery
