import StandingQuery.Proofs.WrittenDigits

/-!
# Written identifiers

The canonical text of an identifier is read as the identifier again (`Uuid.parse_text`), so that identifiers are the same exactly
when their texts are (`Uuid.text_injective`).
-/

namespace StandingQuery

namespace Text

/-- A text without cuts is one piece. -/
theorem pieces_of_no_cut {cut : Char → Bool} {s : List Char} (h : ∀ c ∈ s, cut c = false) : pieces cut s = [s] := by
  induction s with
  | nil => rfl
  | cons c s ih =>
    rw [pieces, h c (List.mem_cons_self ..), ih fun d hd => h d (List.mem_cons_of_mem _ hd)]
    rfl

/-- What stands before the first cut is the first piece. -/
theorem pieces_append_cut {cut : Char → Bool} {front : List Char} (h : ∀ c ∈ front, cut c = false) {c : Char}
    (hc : cut c = true) (s : List Char) : pieces cut (front ++ c :: s) = front :: pieces cut s := by
  induction front with
  | nil => rw [List.nil_append, pieces, if_pos hc]
  | cons d front ih =>
    rw [List.cons_append, pieces, h d (List.mem_cons_self ..), ih fun e he => h e (List.mem_cons_of_mem _ he)]
    rfl

/-- A text of characters of one byte has as many bytes as characters. -/
theorem byteCount_of_single {s : List Char} (h : ∀ c ∈ s, c.utf8Size = 1) : byteCount s = s.length := by
  induction s with
  | nil => rfl
  | cons c s ih =>
    rw [byteCount, h c (List.mem_cons_self ..), ih fun d hd => h d (List.mem_cons_of_mem _ hd), List.length_cons, Nat.add_comm]

end Text

namespace Uuid

open Text

/-- The hyphens of a written identifier are between its digits. -/
theorem mem_hyphenate {lengths : List Nat} {ds : List Char} {c : Char} (h : c ∈ hyphenate lengths ds) : c = '-' ∨ c ∈ ds := by
  fun_induction hyphenate lengths ds with
  | case1 ds => exact Or.inr h
  | case2 n ds => exact Or.inr h
  | case3 ds n ns hns ih =>
    rcases List.mem_append.1 h with h | h
    · exact Or.inr (List.mem_of_mem_take h)
    · rcases List.mem_cons.1 h with rfl | h
      · exact Or.inl rfl
      · exact (ih h).imp_right List.mem_of_mem_drop

/-- There is one hyphen less than there are groups. -/
theorem length_hyphenate {lengths : List Nat} {ds : List Char} (hne : lengths ≠ []) :
    (hyphenate lengths ds).length = ds.length + (lengths.length - 1) := by
  fun_induction hyphenate lengths ds with
  | case1 ds => exact absurd rfl hne
  | case2 n ds => rfl
  | case3 ds n ns hns ih =>
    have hpos := List.length_pos_iff.2 hns
    rw [List.length_append, List.length_cons, ih hns, List.length_take, List.length_drop, List.length_cons]
    omega

/-- The digits of a text that was written in groups are in its groups again. -/
theorem groups_hyphenate {lengths : List Nat} {ds : List Char} (hdigits : ∀ c ∈ ds, c ≠ '-') (hne : lengths ≠ [])
    (hsum : lengths.sum = ds.length) :
    (groups (hyphenate lengths ds)).map List.length = lengths ∧ (groups (hyphenate lengths ds)).flatten = ds := by
  have huncut : ∀ s : List Char, s ⊆ ds → ∀ c ∈ s, (c == '-') = false := by
    intro s hs c hc
    simpa using hdigits c (hs hc)
  unfold groups
  fun_induction hyphenate lengths ds with
  | case1 ds => exact absurd rfl hne
  | case2 n ds =>
    rw [pieces_of_no_cut (huncut ds fun _ h => h)]
    simpa using hsum.symm
  | case3 ds n ns hns ih =>
    rw [List.sum_cons] at hsum
    have hrest := ih (fun c hc => hdigits c (List.mem_of_mem_drop hc)) hns (by rw [List.length_drop]; omega)
      fun s hs => huncut s fun _ h => List.mem_of_mem_drop (hs h)
    rw [pieces_append_cut (huncut _ fun _ h => List.mem_of_mem_take h) rfl]
    refine ⟨?_, ?_⟩
    · rw [List.map_cons, hrest.1, List.length_take, Nat.min_eq_left (by omega)]
    · rw [List.flatten_cons, hrest.2, List.take_append_drop]

/-- The canonical text of an identifier is read as the identifier. -/
theorem parse_text (u : Uuid) : parse u.text = .ok u := by
  have hdigits : ∀ c ∈ fixedHexDigits 32 u.toNat, c ≠ '-' := by
    intro c hc
    obtain ⟨d, hd, rfl⟩ := exists_of_mem_fixedHexDigits hc
    exact digitChar_ne_hyphen d hd
  have hsingle : ∀ c ∈ u.write, c.utf8Size = 1 := by
    intro c hc
    rcases mem_hyphenate hc with rfl | hc
    · rfl
    · obtain ⟨d, hd, rfl⟩ := exists_of_mem_fixedHexDigits hc
      exact utf8Size_digitChar d hd
  have hlength : byteCount u.write = canonicalLength := by
    rw [byteCount_of_single hsingle, write, length_hyphenate (by decide), length_fixedHexDigits]
    rfl
  have hgroups := groups_hyphenate hdigits (by decide : groupLengths ≠ []) (by rw [length_fixedHexDigits]; rfl)
  have hnumber : ofNat (u.toNat % 16 ^ 32) = u := by
    have hlt : u.toNat < 16 ^ 32 := u.value.isLt
    rw [Nat.mod_eq_of_lt hlt]
    unfold ofNat toNat
    rw [BitVec.ofNat_toNat, BitVec.setWidth_eq]
  have hread : ofHyphenated? u.write = some u := by
    unfold ofHyphenated? write
    simp only [hgroups.1, hgroups.2, if_true, hexValue?_fixedHexDigits, Option.map_some, hnumber]
  unfold parse text
  rw [String.toList_ofList]
  simp only [hyphenated, hlength, if_true, Option.bind_some, hread, Option.some_or]

/-- Identifiers with the same text are the same. -/
theorem text_injective : Function.Injective text := by
  intro u v h
  have hparsed := congrArg parse h
  rw [parse_text, parse_text] at hparsed
  exact Except.ok.inj hparsed

end Uuid

end StandingQuery
