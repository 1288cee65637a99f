import StandingQuery.Proofs.RegistryKinds
import StandingQuery.Proofs.WrittenIdentifiers
import StandingQuery.Proofs.WrittenInstants

/-!
# A table answers as a registry in memory does

The rows of a table are texts, and yet no sequence of calls can tell a table from a registry in memory, as long as every marker
that is entered has an instant whose year is written with four digits (`RowRegistry.answers_as_in_memory`). The table mirrors the
other registry row by row (`RowRegistry.Mirrors`); an edit keeps the mirror because the text of a token stands for the token
alone, and reading gives back the marker because its two texts are read as what they were written from.
-/

namespace StandingQuery

namespace Marker

/-- Whether a marker can be written in a row so that it is read again: its instant is one that a clock shows, in a year of four
digits. -/
def Writable (m : Marker) : Prop := m.activatedAt.OnClock ∧ m.activatedAt.FourDigitYear

instance (m : Marker) : Decidable m.Writable := inferInstanceAs (Decidable (_ ∧ _))

end Marker

namespace JobRegistry

/-- A call of a registry: something is asked about a query, or done to its entry. -/
inductive Access where
  | get (id : String)
  | contains (id : String)
  | edit (id : String) (e : Edit)

namespace Access

/-- Whether a call may change the entry of a query. -/
def Edits (id : String) : Access → Prop
  | .edit changed _ => changed = id
  | _ => False

/-- Whether the marker that a call enters, if it enters one, can be written in a row. -/
def Writable : Access → Prop
  | .edit _ (.claim m) => m.Writable
  | _ => True

end Access

/-- What a call is answered. -/
inductive Answer where
  | found (marker : Except SchedulerError (Option Marker))
  | said (answer : Except SchedulerError Bool)
  deriving DecidableEq

variable {ρ : Type} [JobRegistry ρ]

/-- What a call is answered, and the registry that follows. -/
def access (r : ρ) : Access → Answer × ρ
  | .get id => (.found (get r id), r)
  | .contains id => (.said (contains r id), r)
  | .edit id e => (.said (edit r id e).1, (edit r id e).2)

/-- The answers to some calls, one after the other. -/
def answers (r : ρ) : List Access → List Answer
  | [] => []
  | a :: rest => (access r a).1 :: answers (access r a).2 rest

/-- The registry that some calls lead to. -/
def reached (r : ρ) (accesses : List Access) : ρ := accesses.foldl (fun r a => (access r a).2) r

theorem reached_cons (r : ρ) (a : Access) (rest : List Access) : reached r (a :: rest) = reached (access r a).2 rest := rfl

/-- On a registry that keeps queries apart an entry stays as it is until a call edits it. -/
theorem get_reached_of_not_edited {r : ρ} (hr : Separate r) {id : String} {accesses : List Access}
    (h : ∀ a ∈ accesses, ¬a.Edits id) : get (reached r accesses) id = get r id := by
  induction accesses generalizing r with
  | nil => rfl
  | cons a rest ih =>
    have hrest : ∀ a ∈ rest, ¬a.Edits id := fun a ha => h a (List.mem_cons_of_mem _ ha)
    rw [reached_cons]
    cases a with
    | get asked => exact ih hr hrest
    | contains asked => exact ih hr hrest
    | edit changed e =>
      have hne : id ≠ changed := fun heq => h _ List.mem_cons_self heq.symm
      have hsame := (hr [] changed e id hne).get_eq
      exact (ih ((EditedFor.edit r changed e).separate hr) hrest).trans hsame.symm

end JobRegistry

open JobRegistry

namespace RegistryRow

/-- The row of a marker that can be written is read as the marker. -/
theorem marker_ofMarker {m : Marker} (h : m.Writable) : (ofMarker m).marker = .ok m := by
  unfold marker ofMarker
  rw [Uuid.parse_text, Timestamp.parseRow_toRow h.1 h.2]

end RegistryRow

namespace RowRegistry

/-- An edit does to the row of a marker what it does to the marker: the texts of tokens are the same exactly when the tokens are. -/
theorem editRow_ofMarker (e : Edit) (found : Option Marker) :
    editRow e (found.map .ofMarker) = ((editEntry e found).1, (editEntry e found).2.map .ofMarker) := by
  have htoken (m : Marker) (token : Uuid) : ((RegistryRow.ofMarker m).token == token.text) = (m.token == token) := by
    rw [Bool.eq_iff_iff, beq_iff_eq, beq_iff_eq]
    exact Uuid.text_injective.eq_iff
  cases e with
  | claim m => cases found <;> rfl
  | remove => cases found <;> rfl
  | giveUp token =>
    cases found with
    | none => rfl
    | some m =>
      simp only [editRow, editEntry, Option.map_some, Option.any_some, htoken]
      split <;> rfl

/-- A table mirrors a registry in memory: its rows are those of the markers there, each of which can be written. -/
structure Mirrors (rows : Keyed RegistryRow) (r : MemoryRegistry) : Prop where
  row : ∀ id, Keyed.get? rows id = (r.get? id).map .ofMarker
  writable : ∀ id m, r.get? id = some m → m.Writable

namespace Mirrors

variable {rows : Keyed RegistryRow} {r : MemoryRegistry}

theorem empty : Mirrors [] MemoryRegistry.empty := ⟨fun _ => rfl, fun _ _ h => nomatch h⟩

/-- What is read from the table is what the registry in memory holds. -/
theorem get_eq (h : Mirrors rows r) (id : String) : RowRegistry.get ⟨some rows⟩ id = .ok (r.get? id) := by
  unfold RowRegistry.get
  simp only [h.row id]
  cases hfound : r.get? id with
  | none => rfl
  | some m =>
    have hread := RegistryRow.marker_ofMarker (h.writable id m hfound)
    simp only [Option.map_some, hread]

/-- The entries of the table are those of the registry in memory. -/
theorem entry_eq (h : Mirrors rows r) (id : String) : entry (⟨some rows⟩ : RowRegistry) id = r.get? id :=
  congrArg (fun read => read.toOption.join) (h.get_eq id)

/-- An edit of the table is answered by its entries, whatever is entered. -/
theorem edit_answer (h : Mirrors rows r) (id : String) (e : Edit) :
    (JobRegistry.edit (⟨some rows⟩ : RowRegistry) id e).1 = .ok (editEntry e (r.get? id)).1 := by
  obtain ⟨rows', hedit, _⟩ := edit_of_table rows id e
  rw [hedit, h.row, editRow_ofMarker]

/-- An edit of both is answered alike and keeps the mirror, if a marker that it enters can be written. -/
theorem edit (h : Mirrors rows r) (id : String) {e : Edit} (he : ∀ m, e = .claim m → m.Writable) :
    ∃ rows', JobRegistry.edit (⟨some rows⟩ : RowRegistry) id e = ((JobRegistry.edit r id e).1, ⟨some rows'⟩) ∧
      Mirrors rows' (JobRegistry.edit r id e).2 := by
  obtain ⟨rows', hedit, hrow, hothers⟩ := edit_of_table rows id e
  rw [h.row, editRow_ofMarker] at hedit hrow
  obtain ⟨hanswer, hentry⟩ := edit_of_entry r id e
  simp only [MemoryRegistry.entry_eq] at hanswer hentry
  have hafter (other : String) (hother : other ≠ id) : (JobRegistry.edit r id e).2.get? other = r.get? other :=
    entry_edit_of_ne hother r e
  refine ⟨rows', by rw [hedit, hanswer], ?_, ?_⟩
  · intro other
    by_cases hother : other = id
    · subst hother
      rw [hrow, hentry]
    · rw [hothers other hother, hafter other hother, h.row]
  · intro other m hm
    by_cases hother : other = id
    · subst hother
      rw [hentry] at hm
      rcases editEntry_eq_some hm with hfound | rfl
      · exact h.writable other m hfound
      · exact he m rfl
    · rw [hafter other hother] at hm
      exact h.writable other m hm

/-- A call of both is answered alike and keeps the mirror. -/
theorem access (h : Mirrors rows r) {a : Access} (ha : a.Writable) :
    ∃ rows', JobRegistry.access (⟨some rows⟩ : RowRegistry) a = ((JobRegistry.access r a).1, ⟨some rows'⟩) ∧
      Mirrors rows' (JobRegistry.access r a).2 := by
  have hget (id : String) : JobRegistry.get (⟨some rows⟩ : RowRegistry) id = JobRegistry.get r id := h.get_eq id
  cases a with
  | get id => exact ⟨rows, by simp only [JobRegistry.access, hget], h⟩
  | contains id => exact ⟨rows, by simp only [JobRegistry.access, contains, hget], h⟩
  | edit id e =>
    obtain ⟨rows', hedit, hafter⟩ := h.edit id (e := e) (by rintro m rfl; exact ha)
    exact ⟨rows', by simp only [JobRegistry.access, hedit], hafter⟩

/-- Calls of both are answered alike, and lead to a table that mirrors the other registry. -/
theorem answers (h : Mirrors rows r) {accesses : List Access} (ha : ∀ a ∈ accesses, a.Writable) :
    JobRegistry.answers (⟨some rows⟩ : RowRegistry) accesses = JobRegistry.answers r accesses ∧
      ∃ rows', reached (⟨some rows⟩ : RowRegistry) accesses = ⟨some rows'⟩ ∧ Mirrors rows' (reached r accesses) := by
  induction accesses generalizing rows r with
  | nil => exact ⟨rfl, rows, rfl, h⟩
  | cons a rest ih =>
    obtain ⟨rows', haccess, hafter⟩ := h.access (ha a List.mem_cons_self)
    have hrest := ih hafter fun a h => ha a (List.mem_cons_of_mem _ h)
    simp only [JobRegistry.answers, reached_cons, haccess, hrest.1, true_and]
    exact hrest.2

end Mirrors

/-- Tables store the markers that can be written, and are whole when they mirror a registry in memory. -/
instance durable : Durable RowRegistry where
  Whole table := ∃ rows r, table = ⟨some rows⟩ ∧ Mirrors rows r
  Storable := Marker.Writable
  whole_of_vacant {table} h := by
    obtain ⟨_ | rows⟩ := table
    · cases h ""
    · refine ⟨rows, .empty, rfl, fun id => ?_, fun _ _ hm => nomatch hm⟩
      have hnone : RowRegistry.get ⟨some rows⟩ id = .ok none := h id
      unfold RowRegistry.get at hnone
      simp only at hnone
      split at hnone
      · assumption
      · split at hnone <;> cases hnone
  get_eq := by
    rintro _ ⟨rows, r, rfl, h⟩ id
    rw [h.entry_eq]
    exact h.get_eq id
  edit_answer := by
    rintro _ ⟨rows, r, rfl, h⟩ id e
    rw [h.edit_answer, h.entry_eq]
  edit_entry := by
    rintro _ ⟨rows, r, rfl, h⟩ id e he other
    obtain ⟨rows', hedit, hafter⟩ := h.edit id he
    rw [hedit, hafter.entry_eq, h.entry_eq, h.entry_eq, ← MemoryRegistry.entry_eq]
    split
    · rename_i hother
      rw [hother]
      exact (edit_of_entry r id e).2
    · rename_i hother
      exact entry_edit_of_ne hother r e
  edit_whole := by
    rintro _ ⟨rows, r, rfl, h⟩ id e he
    obtain ⟨rows', hedit, hafter⟩ := h.edit id he
    exact ⟨rows', _, by rw [hedit], hafter⟩

/-- A table keeps markers as they were entered. -/
structure KeepsMarkers (r : RowRegistry) : Prop where
  readable : ∀ id, ∃ found, r.get id = .ok found
  /-- It tells that there is a marker exactly where one is read. -/
  told : ∀ id found, r.get id = .ok found → contains r id = .ok found.isSome
  /-- A marker is entered where there is none, and from then on read as it is until its entry is edited. -/
  entered : ∀ id m, m.Writable → r.get id = .ok none →
    (r.putIfAbsent id m).1 = .ok true ∧
      ∀ later : List Access, (∀ a ∈ later, ¬a.Edits id) → (reached (r.putIfAbsent id m).2 later).get id = .ok (some m)
  /-- No marker takes the place of another. -/
  neverReplaced : ∀ id m found, r.get id = .ok (some found) → r.putIfAbsent id m = (.ok false, r)
  removed : ∀ id, ∃ found, r.get id = .ok found ∧ (r.remove id).1 = .ok found.isSome ∧ (r.remove id).2.get id = .ok none
  /-- An entry is given up exactly by its own token. -/
  givenUp : ∀ id token, (∃ m, r.get id = .ok (some m) ∧ m.token = token) →
    (r.removeIfOwned id token).1 = .ok true ∧ (r.removeIfOwned id token).2.get id = .ok none
  notGivenUp : ∀ id token, (¬∃ m, r.get id = .ok (some m) ∧ m.token = token) → r.removeIfOwned id token = (.ok false, r)
  /-- What is done to one entry leaves all others. -/
  apart : ∀ id e other, other ≠ id → (edit r id e).2.get other = r.get other

/-- A table that mirrors a registry in memory keeps markers. -/
theorem Mirrors.keepsMarkers {rows : Keyed RegistryRow} {r : MemoryRegistry} (h : Mirrors rows r) :
    KeepsMarkers ⟨some rows⟩ where
  readable id := ⟨r.get? id, h.get_eq id⟩
  told id found hfound := congrArg (Except.map Option.isSome) hfound
  entered id m hm hnone := by
    rw [h.get_eq, Except.ok.injEq] at hnone
    have hrow : Keyed.get? rows id = none := by rw [h.row, hnone, Option.map_none]
    have hput : RowRegistry.putIfAbsent ⟨some rows⟩ id m = (.ok true, ⟨some (Keyed.set id (.ofMarker m) rows)⟩) := by
      simp only [RowRegistry.putIfAbsent, hrow]
    refine ⟨by rw [hput], fun later hlater => ?_⟩
    have hkept := get_reached_of_not_edited (RowRegistry.separate (RowRegistry.putIfAbsent ⟨some rows⟩ id m).2) hlater
    refine Eq.trans hkept ?_
    rw [hput]
    change RowRegistry.get _ id = _
    simp only [RowRegistry.get, Keyed.get?_set_self, RegistryRow.marker_ofMarker hm]
  neverReplaced id m found hfound := by
    rw [h.get_eq, Except.ok.injEq] at hfound
    have hrow : Keyed.get? rows id = some (.ofMarker found) := by rw [h.row, hfound, Option.map_some]
    simp only [RowRegistry.putIfAbsent, hrow]
  removed id := by
    refine ⟨r.get? id, h.get_eq id, ?_⟩
    have hcleared := (RowRegistry.clears rows [] id).2
    have hclaims : ∀ m, Edit.remove = .claim m → m.Writable := by
      intro m hm
      cases hm
    obtain ⟨rows', hedit, -⟩ := h.edit id hclaims
    have hanswer := (edit_of_entry r id .remove).1
    have hremove : (RowRegistry.remove ⟨some rows⟩ id).1 = .ok (r.get? id).isSome := by
      have hboth := congrArg Prod.fst hedit
      exact hboth.trans hanswer
    exact ⟨hremove, hcleared⟩
  givenUp id token howned := by
    obtain ⟨m, hm, htoken⟩ := howned
    rw [h.get_eq, Except.ok.injEq] at hm
    have hrow : Keyed.get? rows id = some (.ofMarker m) := by rw [h.row, hm, Option.map_some]
    have htext : (RegistryRow.ofMarker m).token = token.text := congrArg Uuid.text htoken
    simp only [RowRegistry.removeIfOwned, hrow, htext, if_true, RowRegistry.get, Keyed.get?_erase_self, and_self]
  notGivenUp id token hnot := by
    have hrow := h.row id
    cases hfound : r.get? id with
    | none =>
      rw [hfound, Option.map_none] at hrow
      simp only [RowRegistry.removeIfOwned, hrow]
    | some m =>
      rw [hfound, Option.map_some] at hrow
      have htext : (RegistryRow.ofMarker m).token ≠ token.text := by
        intro heq
        exact hnot ⟨m, by rw [h.get_eq, hfound], Uuid.text_injective heq⟩
      simp only [RowRegistry.removeIfOwned, hrow, htext, if_false]
  apart id e other hother := ((RowRegistry.separate ⟨some rows⟩ [] id e other hother).get_eq).symm

/-- From nothing, a table and a registry in memory answer every sequence of calls alike, if each marker that is entered can be
written; and the table that is reached keeps markers. -/
theorem answers_as_in_memory (accesses : List Access) (h : ∀ a ∈ accesses, a.Writable) :
    answers RowRegistry.empty accesses = answers MemoryRegistry.empty accesses ∧
      (reached RowRegistry.empty accesses).KeepsMarkers := by
  obtain ⟨hanswers, rows, hreached, hmirrors⟩ := Mirrors.empty.answers h
  refine ⟨hanswers, ?_⟩
  change (reached (⟨some []⟩ : RowRegistry) accesses).KeepsMarkers
  rw [hreached]
  exact hmirrors.keepsMarkers

/-- A marker of the leap second at the end of 2016. -/
def leapMarker : Marker := ⟨.ofNat 1, ⟨1483228799, 1123456789⟩⟩

/-- The marker is entered, not replaced, not given up by another token, and given up by its own. -/
def leapAccesses : List Access :=
  [.edit "q" (.claim leapMarker), .get "q", .contains "other", .edit "q" (.claim ⟨.ofNat 2, ⟨0, 1⟩⟩), .edit "other" .remove,
    .edit "q" (.giveUp (.ofNat 2)), .get "q", .edit "q" (.giveUp (.ofNat 1)), .get "q"]

/-- The instant of a leap second is kept to the nanosecond. -/
theorem answers_as_in_memory_leap :
    (∀ a ∈ leapAccesses, a.Writable) ∧ answers RowRegistry.empty leapAccesses = answers MemoryRegistry.empty leapAccesses ∧
      (reached RowRegistry.empty leapAccesses).KeepsMarkers := by
  have h : ∀ a ∈ leapAccesses, a.Writable := by
    simp only [leapAccesses, List.forall_mem_cons, List.not_mem_nil, false_implies, implies_true, Access.Writable, and_true,
      true_and]
    decide
  exact ⟨h, answers_as_in_memory leapAccesses h⟩

end RowRegistry

end StandingQuery
