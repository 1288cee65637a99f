import StandingQuery.Proofs.WrittenValues

/-!
# Taken values

Where a value may end, a text that is written as one is taken whole, blanks behind it aside: at the end of the text, and in front
of what parts or closes the entries of lists and tables (`Environment.taken_of_written`). A word is guessed from all of it
(`Environment.bareValue_word`).
-/

namespace StandingQuery

open Text

namespace Environment

/-! ## What is written so is taken -/

/-- Whether a value may end in front of a text: nothing stands there, or what parts or closes entries. -/
def Ends (rest : List Char) : Prop := ∀ c ∈ rest.head?, c = ',' ∨ c = ']' ∨ c = '}'

theorem isLoose_of_isBlank {c : Char} (h : isBlank c = true) : isLoose c = true := by
  simp only [isBlank, Bool.or_eq_true, beq_iff_eq] at h
  rcases h with (((rfl | rfl) | rfl) | rfl) | rfl <;> rfl

variable {back rest : List Char}

theorem Ends.not_loose (h : Ends rest) : ∀ c ∈ rest.head?, isLoose c = false := by
  intro c hc
  rcases h c hc with rfl | rfl | rfl <;> rfl

theorem Ends.not_blank (h : Ends rest) : ∀ c ∈ rest.head?, isBlank c = false := by
  intro c hc
  exact Bool.eq_false_iff.2 fun hblank => Bool.eq_false_iff.1 (h.not_loose c hc) (isLoose_of_isBlank hblank)

/-- Behind a value stands a blank or what may stand behind the blanks. -/
theorem head_behind (hback : IsBlanks back) {c : Char} (h : (back ++ rest).head? = some c) :
    isBlank c = true ∨ rest.head? = some c := by
  cases back with
  | nil => exact Or.inr h
  | cons b back =>
    cases h
    exact Or.inl (hback c List.mem_cons_self)

/-- What a text with a word in front begins with, no blank being in it, the word begins with. -/
theorem prefix_word {p v : List Char} (hp : ∀ c ∈ p, isLoose c = true ∧ isBlank c = false) (hback : IsBlanks back)
    (hrest : Ends rest) (h : p <+: v ++ (back ++ rest)) : p <+: v := by
  rcases List.prefix_or_prefix_of_prefix h (List.prefix_append v _) with hbegins | ⟨t, rfl⟩
  · exact hbegins
  · cases t with
    | nil => simp
    | cons c t =>
      obtain ⟨u, hu⟩ := (List.prefix_append_right_inj v).1 h
      have hc := hp c (by simp)
      have hhead : (back ++ rest).head? = some c := by
        rw [← hu]
        rfl
      rcases head_behind hback hhead with hblank | hhead
      · rw [hc.2] at hblank
        cases hblank
      · have hloose := hrest.not_loose c hhead
        rw [hc.1] at hloose
        cases hloose

/-- A word is taken up to what parts or closes entries, and guessed. -/
theorem bareValue_word {v s : List Char} (hv : IsWord v) (hback : IsBlanks back) (hrest : Ends rest)
    (hs : s = v ++ (back ++ rest)) (depth : Nat) :
    ∃ h, bareValue depth s = some (setting (guess (Text.trim (v ++ back))), ⟨rest, h⟩) := by
  refine ⟨by simp [hs]; omega, ?_⟩
  have hfront {p r : List Char} (hp : ∀ c ∈ p, isLoose c = true ∧ isBlank c = false) (h : s = p ++ r) : p <+: v :=
    prefix_word hp hback hrest ⟨r, h.symm.trans hs⟩
  have hquote {c : Char} {r : List Char} (hc : isLoose c = true ∧ isBlank c = false) (h : s = c :: r) : c ≠ '"' ∧ c ≠ '\'' := by
    obtain ⟨t, rfl⟩ := hfront (p := [c]) (r := r) (by simpa using hc) h
    exact (hv.head c rfl).2
  have hmark {c : Char} {r : List Char} (hc : isLoose c = false) (h : s = c :: r) : Ends [c] := by
    cases v with
    | cons d v =>
      cases hs.symm.trans h
      exact absurd (hv.loose c List.mem_cons_self) (Bool.eq_false_iff.1 hc)
    | nil =>
      rcases head_behind hback (congrArg List.head? (hs.symm.trans h)) with hblank | hstop
      · exact absurd (isLoose_of_isBlank hblank) (Bool.eq_false_iff.1 hc)
      · exact fun d hd => hrest d (hstop.trans hd)
  unfold bareValue
  split
  · rename_i r
    exact absurd (hfront (p := ['t', 'r', 'u', 'e']) (r := r) (by simp [isLoose, isBlank]) rfl) hv.not_true
  · rename_i r
    exact absurd (hfront (p := ['f', 'a', 'l', 's', 'e']) (r := r) (by simp [isLoose, isBlank]) rfl) hv.not_false
  · exact absurd rfl (hquote ⟨rfl, rfl⟩ rfl).1
  · exact absurd rfl (hquote ⟨rfl, rfl⟩ rfl).2
  · exact absurd rfl (hquote ⟨rfl, rfl⟩ rfl).2
  · exact absurd (hmark rfl rfl '[' rfl) (by decide)
  · exact absurd (hmark rfl rfl '{' rfl) (by decide)
  · have hloose : ∀ c ∈ v ++ back, isLoose c = true := by
      intro c hc
      rcases List.mem_append.1 hc with hc | hc
      · exact hv.loose c hc
      · exact isLoose_of_isBlank (hback c hc)
    obtain ⟨htake, hdrop⟩ := span_of_head hloose hrest.not_loose
    rw [List.append_assoc, ← hs] at htake hdrop
    rw [htake]
    exact congrArg (fun q => some (_, q)) (Subtype.ext hdrop)

theorem isKeyChar_of_isBlank {c : Char} (h : isBlank c = true) : isKeyChar c = false := by
  simp only [isBlank, Bool.or_eq_true, beq_iff_eq] at h
  rcases h with (((rfl | rfl) | rfl) | rfl) | rfl <;> rfl

/-- A key is taken up to the blanks or the sign behind it. -/
theorem key_of_isKey {k : List Char} (hk : IsKey k) (hback : IsBlanks back) (gap : List Char) :
    (key (k ++ (back ++ '=' :: gap))).map (fun q => q.2.1) = some (back ++ '=' :: gap) := by
  cases hk with
  | quoted h =>
    rename_i body
    obtain ⟨-, content, htakes⟩ := h
    obtain ⟨hless, hread⟩ := htakes (s := body ++ (back ++ '=' :: gap)) rfl
    change ((Toml.basicTail (body ++ (back ++ '=' :: gap))).map fun t => _).map _ = _
    rw [hread]
    rfl
  | bare hne h =>
    cases k with
    | nil => exact absurd rfl hne
    | cons c k =>
      have hhead : ∀ d ∈ (back ++ '=' :: gap).head?, isKeyChar d = false := by
        intro d hd
        rcases head_behind hback hd with hblank | heq
        · exact isKeyChar_of_isBlank hblank
        · cases heq
          rfl
      obtain ⟨-, hdrop⟩ := span_of_head (fun d hd => h d (List.mem_cons_of_mem c hd)) hhead
      have hc : isKeyChar c = true := h c List.mem_cons_self
      have hquote : c ≠ '"' := by
        rintro rfl
        cases hc
      rw [List.cons_append, key]
      · rw [if_pos hc]
        exact congrArg some hdrop
      · exact hquote

/-- Whether a character neither is a blank nor ends a list or a table. -/
def Begins (c : Char) : Prop := isBlank c = false ∧ c ≠ ']' ∧ c ≠ '}'

/-- A value begins with neither a blank nor the end of a list or a table. -/
theorem begins_of_value {v : List Char} (hv : Written .value v) : ∀ c ∈ v.head?, Begins c := by
  intro c hc
  cases hv with
  | yes | no | quoted _ | character _ =>
    cases hc
    simp [Begins, isBlank]
  | @nested inTable =>
    cases hc
    cases inTable <;> simp [Begins, isBlank, opening]
  | word hv =>
    refine ⟨(hv.head c hc).1, ?_, ?_⟩
    · rintro rfl
      exact absurd (hv.loose _ (List.mem_of_mem_head? hc)) (by decide)
    · rintro rfl
      exact absurd (hv.loose _ (List.mem_of_mem_head? hc)) (by decide)

/-- So does a key. -/
theorem begins_of_key {k : List Char} (hk : IsKey k) : ∀ c ∈ k.head?, Begins c := by
  intro c hc
  cases hk with
  | quoted _ =>
    cases hc
    simp [Begins, isBlank]
  | bare _ h =>
    have hchar := h c (List.mem_of_mem_head? hc)
    refine ⟨Bool.eq_false_iff.2 fun hblank => ?_, ?_, ?_⟩
    · rw [isKeyChar_of_isBlank hblank] at hchar
      cases hchar
    · rintro rfl
      cases hchar
    · rintro rfl
      cases hchar

/-- Nor does an item or a member begin like the end of a list or a table. -/
theorem head_of_entry {inTable : Bool} {e : List Char} (he : Written (.entry inTable) e) :
    ∀ c ∈ e.head?, c ≠ closing inTable := by
  have hblank {front : List Char} (hfront : IsBlanks front) {t : List Char} (ht : ∀ c ∈ t.head?, c ≠ closing inTable) :
      ∀ c ∈ (front ++ t).head?, c ≠ closing inTable := by
    intro c hc
    rcases head_behind hfront hc with hc | hc
    · rintro rfl
      cases inTable <;> cases hc
    · exact ht c hc
  have hbegins {front : List Char} (h : ∀ c ∈ front.head?, Begins c) {t : List Char} (ht : ∀ c ∈ t.head?, c ≠ closing inTable) :
      ∀ c ∈ (front ++ t).head?, c ≠ closing inTable := by
    cases front with
    | nil => exact ht
    | cons d front =>
      rintro c hc
      cases hc
      obtain ⟨-, hbracket, hbrace⟩ := h d rfl
      cases inTable
      · exact hbracket
      · exact hbrace
  cases he with
  | @entry _ lead v back hlead hv hback =>
    have hrest : ∀ c ∈ (v ++ back).head?, c ≠ closing inTable := by
      refine hbegins (begins_of_value hv) ?_
      simpa using hblank hback (t := []) (by simp)
    cases hlead with
    | item hfront => exact hblank hfront hrest
    | member hfront hk hback hgap =>
      simp only [List.append_assoc, List.cons_append]
      refine hblank hfront (hbegins (begins_of_key hk) (hblank hback ?_))
      rintro c hc
      cases hc
      decide

/-- Whether a scanner takes a value, blanks behind it aside, up to where it may end. -/
def TakesWhole (scan : Scan Setting) (v : List Char) : Prop :=
  ∀ ⦃s back rest : List Char⦄, s = v ++ (back ++ rest) → IsBlanks back → Ends rest →
    (scan s).map (fun q => (skipBlanks q.2.1).1) = some rest

/-- Blanks in front of a value are skipped, and those behind it as well if it is empty. -/
theorem exists_skipped {front v : List Char} (hfront : IsBlanks front) (hv : Written .value v) (hback : IsBlanks back)
    (hrest : Ends rest) :
    ∃ back', IsBlanks back' ∧ (skipBlanks (front ++ (v ++ (back ++ rest)))).1 = v ++ (back' ++ rest) := by
  cases v with
  | cons c v => exact ⟨back, hback, skipBlanks_append hfront fun d hd => (begins_of_value hv d hd).1⟩
  | nil =>
    refine ⟨[], isBlanks_nil, ?_⟩
    have hblanks : IsBlanks (front ++ back) := by
      intro c hc
      exact (List.mem_append.1 hc).elim (hfront c) (hback c)
    have hskip := skipBlanks_append hblanks hrest.not_blank
    rw [List.append_assoc] at hskip
    exact hskip

/-- An item is taken with the blanks around it. -/
theorem itemOf_left {scan : Scan Setting} {front v s : List Char} (hscan : TakesWhole scan v) (hfront : IsBlanks front)
    (hv : Written .value v) (hback : IsBlanks back) (hrest : Ends rest) (hs : s = front ++ (v ++ (back ++ rest))) :
    (itemOf scan s).map (fun q => q.2.1) = some rest := by
  obtain ⟨back', hback', hskip⟩ := exists_skipped hfront hv hback hrest
  rw [← hs] at hskip
  unfold itemOf
  rw [Option.map_map]
  exact hscan hskip hback' hrest

/-- What a member leaves is what its value leaves. -/
theorem member_left {scan : Scan Setting} {s behind r : List Char}
    (hkey : (key (skipBlanks s).1).map (fun q => q.2.1) = some behind) (hequals : (skipBlanks behind).1 = '=' :: r) :
    (member scan s).map (fun q => q.2.1) = (scan (skipBlanks r).1).map (fun q => (skipBlanks q.2.1).1) := by
  obtain ⟨⟨k, q⟩, hk, rfl⟩ := Option.map_eq_some_iff.1 hkey
  unfold member
  rw [hk]
  dsimp only
  split
  · rename_i r' heq
    cases hequals.symm.trans heq
    cases hread : scan (skipBlanks r).1 <;> rfl
  · rename_i hne
    exact absurd hequals (hne r)

section Tails

variable {item scan : Scan Setting} {gathered : Setting.Members} {s r : List Char}

theorem itemsTail_closed (rest : List Char) : (itemsTail item (']' :: rest)).map (fun q => q.2.1) = some rest := by
  rw [itemsTail]
  rfl

theorem itemsTail_comma (hclosed : ∀ c ∈ s.head?, c ≠ ']') (hitem : (item s).map (fun q => q.2.1) = some (',' :: r))
    (htail : (itemsTail item r).map (fun q => q.2.1) = some rest) : (itemsTail item s).map (fun q => q.2.1) = some rest := by
  obtain ⟨⟨x, q⟩, hread, hq⟩ := Option.map_eq_some_iff.1 hitem
  unfold itemsTail
  split
  · exact absurd rfl (hclosed ']' rfl)
  · rw [hread]
    dsimp only
    split
    · rename_i r' heq
      cases hq.symm.trans heq
      rw [Option.map_map]
      exact htail
    · rename_i r' heq
      cases hq.symm.trans heq
    · rename_i hcomma _
      exact absurd hq (hcomma r)

theorem itemsTail_last (hclosed : ∀ c ∈ s.head?, c ≠ ']') (hitem : (item s).map (fun q => q.2.1) = some (']' :: rest)) :
    (itemsTail item s).map (fun q => q.2.1) = some rest := by
  obtain ⟨⟨x, q⟩, hread, hq⟩ := Option.map_eq_some_iff.1 hitem
  unfold itemsTail
  split
  · exact absurd rfl (hclosed ']' rfl)
  · rw [hread]
    dsimp only
    split
    · rename_i r' heq
      cases hq.symm.trans heq
    · rename_i r' heq
      cases hq.symm.trans heq
      rfl
    · rename_i hbracket
      exact absurd hq (hbracket rest)

theorem membersTail_closed (gathered : Setting.Members) (rest : List Char) :
    (membersTail scan gathered ('}' :: rest)).map (fun q => q.2.1) = some rest := by
  rw [membersTail]
  rfl

theorem membersTail_comma (hclosed : ∀ c ∈ s.head?, c ≠ '}') (hmember : (member scan s).map (fun q => q.2.1) = some (',' :: r))
    (htail : ∀ gathered, (membersTail scan gathered r).map (fun q => q.2.1) = some rest) :
    (membersTail scan gathered s).map (fun q => q.2.1) = some rest := by
  obtain ⟨⟨⟨k, x⟩, q⟩, hread, hq⟩ := Option.map_eq_some_iff.1 hmember
  unfold membersTail
  split
  · exact absurd rfl (hclosed '}' rfl)
  · rw [hread]
    dsimp only
    split
    · rename_i r' heq
      cases hq.symm.trans heq
      rw [Option.map_map]
      exact htail _
    · rename_i r' heq
      cases hq.symm.trans heq
    · rename_i hcomma _
      exact absurd hq (hcomma r)

theorem membersTail_last (hclosed : ∀ c ∈ s.head?, c ≠ '}')
    (hmember : (member scan s).map (fun q => q.2.1) = some ('}' :: rest)) :
    (membersTail scan gathered s).map (fun q => q.2.1) = some rest := by
  obtain ⟨⟨⟨k, x⟩, q⟩, hread, hq⟩ := Option.map_eq_some_iff.1 hmember
  unfold membersTail
  split
  · exact absurd rfl (hclosed '}' rfl)
  · rw [hread]
    dsimp only
    split
    · rename_i r' heq
      cases hq.symm.trans heq
    · rename_i r' heq
      cases hq.symm.trans heq
      rfl
    · rename_i hbrace
      exact absurd hq (hbrace rest)

end Tails

/-- What the scanners for values nested at most so deep do with a part of a value. -/
def Taken (depth : Nat) : Part → List Char → Prop
  | .value, v => TakesWhole (bareValue depth) v
  | .entry false, e => ∀ ⦃s rest : List Char⦄, s = e ++ rest → Ends rest →
    (itemOf (bareValue depth) s).map (fun q => q.2.1) = some rest
  | .entry true, e => ∀ ⦃s rest : List Char⦄, s = e ++ rest → Ends rest →
    (member (bareValue depth) s).map (fun q => q.2.1) = some rest
  | .entries false, t => ∀ ⦃s rest : List Char⦄, s = t ++ rest →
    (itemsTail (itemOf (bareValue depth)) s).map (fun q => q.2.1) = some rest
  | .entries true, t => ∀ ⦃s rest : List Char⦄, s = t ++ rest → ∀ gathered,
    (membersTail (bareValue depth) gathered s).map (fun q => q.2.1) = some rest

theorem ends_nil : Ends [] := nofun

theorem ends_comma (t : List Char) : Ends (',' :: t) := by
  rintro c hc
  cases hc
  exact Or.inl rfl

theorem ends_closing (inTable : Bool) (t : List Char) : Ends (closing inTable :: t) := by
  rintro c hc
  cases hc
  cases inTable
  · exact Or.inr (Or.inl rfl)
  · exact Or.inr (Or.inr rfl)

theorem taken_entry {inTable : Bool} {lead v : List Char} {depth : Nat} (hlead : IsLead inTable lead) (hv : Written .value v)
    (hback : IsBlanks back) (htaken : TakesWhole (bareValue depth) v) : Taken depth (.entry inTable) (lead ++ (v ++ back)) := by
  cases hlead with
  | item hfront =>
    intro s rest hs hrest
    exact itemOf_left htaken hfront hv hback hrest (by simpa using hs)
  | @member front k gap' gap hfront hk hgap' hgap =>
    intro s rest hs hrest
    have hhead : ∀ c ∈ (k ++ (gap' ++ '=' :: (gap ++ (v ++ (back ++ rest))))).head?, isBlank c = false := by
      cases hk with
      | quoted _ =>
        rintro c hc
        cases hc
        rfl
      | bare hne h =>
        obtain ⟨c, k, rfl⟩ := List.exists_cons_of_ne_nil hne
        rintro d hd
        cases hd
        exact (begins_of_key (.bare hne h) c rfl).1
    have hskip : (skipBlanks s).1 = k ++ (gap' ++ '=' :: (gap ++ (v ++ (back ++ rest)))) := by
      have hparts : s = front ++ (k ++ (gap' ++ '=' :: (gap ++ (v ++ (back ++ rest))))) := by
        simpa only [List.append_assoc, List.cons_append] using hs
      exact hparts ▸ skipBlanks_append hfront hhead
    have hkey := key_of_isKey hk hgap' (gap ++ (v ++ (back ++ rest)))
    rw [← hskip] at hkey
    have hequals : (skipBlanks (gap' ++ '=' :: (gap ++ (v ++ (back ++ rest))))).1 = '=' :: (gap ++ (v ++ (back ++ rest))) :=
      skipBlanks_append hgap' fun c hc => by
        cases hc
        rfl
    obtain ⟨back', hback', hbehind⟩ := exists_skipped hgap hv hback hrest
    rw [member_left hkey hequals]
    exact htaken hbehind hback' hrest

theorem taken_nested {below : Nat} {inTable : Bool} {t : List Char} (h : Taken below (.entries inTable) t) :
    Taken (below + 1) .value (opening inTable :: t) := by
  rintro s back rest rfl hback hrest
  cases inTable with
  | false =>
    obtain ⟨⟨xs, q⟩, hread, hq⟩ := Option.map_eq_some_iff.1 (h (s := t ++ (back ++ rest)) rfl)
    change ((itemsTail (itemOf (bareValue below)) (t ++ (back ++ rest))).map fun t => (_, t.2.push.atMost)).map _ = _
    rw [hread]
    exact congrArg some ((congrArg (fun u => (skipBlanks u).1) hq).trans (skipBlanks_append hback hrest.not_blank))
  | true =>
    obtain ⟨⟨ms, q⟩, hread, hq⟩ := Option.map_eq_some_iff.1 (h (s := t ++ (back ++ rest)) rfl [])
    change ((membersTail (bareValue below) [] (t ++ (back ++ rest))).map fun t => (_, t.2.push.atMost)).map _ = _
    rw [hread]
    exact congrArg some ((congrArg (fun u => (skipBlanks u).1) hq).trans (skipBlanks_append hback hrest.not_blank))

theorem taken_done (depth : Nat) (inTable : Bool) : Taken depth (.entries inTable) [closing inTable] := by
  cases inTable with
  | false =>
    rintro s rest rfl
    exact itemsTail_closed rest
  | true =>
    rintro s rest rfl gathered
    exact membersTail_closed gathered rest

variable {depth : Nat} {inTable : Bool} {e t : List Char}

theorem taken_last (he : Written (.entry inTable) e) (hentry : Taken depth (.entry inTable) e) :
    Taken depth (.entries inTable) (e ++ [closing inTable]) := by
  cases e with
  | nil => exact taken_done depth inTable
  | cons c e =>
    have hopen : c ≠ closing inTable := head_of_entry he c rfl
    have hhead {t : List Char} : ∀ d ∈ (c :: e ++ t).head?, d ≠ closing inTable := by
      rintro d hd
      cases hd
      exact hopen
    cases inTable with
    | false =>
      rintro s rest rfl
      rw [List.append_assoc]
      exact itemsTail_last hhead (hentry rfl (ends_closing false rest))
    | true =>
      rintro s rest rfl gathered
      rw [List.append_assoc]
      exact membersTail_last hhead (hentry rfl (ends_closing true rest))

theorem taken_more (he : Written (.entry inTable) e) (hentry : Taken depth (.entry inTable) e)
    (hentries : Taken depth (.entries inTable) t) : Taken depth (.entries inTable) (e ++ ',' :: t) := by
  have hhead {t : List Char} : ∀ d ∈ (e ++ ',' :: t).head?, d ≠ closing inTable := by
    intro d hd
    cases e with
    | nil =>
      cases hd
      cases inTable <;> decide
    | cons c e => exact head_of_entry he d hd
  cases inTable with
  | false =>
    rintro s rest rfl
    rw [List.append_assoc]
    exact itemsTail_comma hhead (hentry rfl (ends_comma _)) (hentries rfl)
  | true =>
    rintro s rest rfl gathered
    rw [List.append_assoc]
    exact membersTail_comma hhead (hentry rfl (ends_comma _)) (hentries rfl)

/-- Each part of a value is taken whole if lists and tables may nest as deep as it is long. -/
theorem taken_of_written {part : Part} {t : List Char} (h : Written part t) : ∀ depth, t.length ≤ depth → Taken depth part t := by
  induction h with
  | yes =>
    rintro depth - s back rest rfl hback hrest
    cases depth <;> exact congrArg some (skipBlanks_append hback hrest.not_blank)
  | no =>
    rintro depth - s back rest rfl hback hrest
    cases depth <;> exact congrArg some (skipBlanks_append hback hrest.not_blank)
  | @quoted body h =>
    rintro depth - s back rest rfl hback hrest
    obtain ⟨-, content, htakes⟩ := h
    obtain ⟨hless, hread⟩ := htakes (s := body ++ (back ++ rest)) rfl
    rw [List.cons_append, bareValue, hread]
    exact congrArg some (skipBlanks_append hback hrest.not_blank)
  | character c =>
    rintro depth - s back rest rfl hback hrest
    cases depth <;> exact congrArg some (skipBlanks_append hback hrest.not_blank)
  | word h =>
    intro depth _ s back rest hs hback hrest
    obtain ⟨hless, hread⟩ := bareValue_word h hback hrest hs depth
    rw [hread]
    exact congrArg some (skipBlanks_of_head hrest.not_blank)
  | nested h ih =>
    intro depth hdepth
    cases depth with
    | zero => cases hdepth
    | succ below => exact taken_nested (ih below (Nat.le_of_succ_le_succ hdepth))
  | entry hlead hv hback ih =>
    intro depth hdepth
    simp only [List.length_append] at hdepth
    exact taken_entry hlead hv hback (ih depth (by omega))
  | done inTable => exact fun depth _ => taken_done depth inTable
  | last he ih =>
    intro depth hdepth
    simp only [List.length_append] at hdepth
    exact taken_last he (ih depth (by omega))
  | more he ht ihe iht =>
    intro depth hdepth
    simp only [List.length_append, List.length_cons] at hdepth
    exact taken_more he (ihe depth (by omega)) (iht depth (by omega))

end Environment

end StandingQuery
