import StandingQuery.Registry.Memory

/-!
# Registries without faults

A registry on which no call fails is known by its entries: `JobRegistry.FaultFree` says what every operation answers and what
becomes of the entry of every query. The registry in memory is one (`MemoryRegistry.faultFree`). Some kinds of registries are
without faults only as long as they are whole and can store what is entered: `JobRegistry.Durable` says the same of these, and that
they stay whole. A kind without faults is one of them.
-/

namespace StandingQuery

namespace JobRegistry

variable {ρ : Type} [JobRegistry ρ]

/-- The entry of a query, none if it cannot be read. -/
def entry (r : ρ) (id : String) : Option Marker := (get r id).toOption.join

/-- Whether the entry of a query carries a token. -/
def carries (r : ρ) (id : String) (token : Uuid) : Bool := (entry r id).any fun m => m.token == token

/-- A registry on which no call fails: what each operation answers, and the entries that follow. -/
class FaultFree (ρ : Type) [JobRegistry ρ] : Prop where
  get_eq (r : ρ) (id : String) : get r id = .ok (entry r id)
  claim_answer (r : ρ) (id : String) (m : Marker) : (putIfAbsent r id m).1 = .ok (entry r id).isNone
  claim_entry (r : ρ) (id : String) (m : Marker) (other : String) :
    entry (putIfAbsent r id m).2 other = if other = id ∧ entry r id = none then some m else entry r other
  remove_answer (r : ρ) (id : String) : (remove r id).1 = .ok (entry r id).isSome
  remove_entry (r : ρ) (id other : String) : entry (remove r id).2 other = if other = id then none else entry r other
  removeIfOwned_answer (r : ρ) (id : String) (token : Uuid) : (removeIfOwned r id token).1 = .ok (carries r id token)
  removeIfOwned_entry (r : ρ) (id : String) (token : Uuid) (other : String) :
    entry (removeIfOwned r id token).2 other = if other = id ∧ carries r id token = true then none else entry r other

/-- A fault-free registry confirms exactly the tokens that its entries carry. -/
theorem confirms_eq_carries [FaultFree ρ] (r : ρ) (id : String) (token : Uuid) :
    Marker.confirms (get r id) token = carries r id token := by
  rw [FaultFree.get_eq]
  unfold carries
  cases entry r id <;> rfl

/-- What can be done to the entry of a query. -/
inductive Edit where
  | claim (m : Marker)
  | remove
  | giveUp (token : Uuid)

/-- Does something to the entry of a query. -/
def edit (r : ρ) (id : String) : Edit → Except SchedulerError Bool × ρ
  | .claim m => putIfAbsent r id m
  | .remove => remove r id
  | .giveUp token => removeIfOwned r id token

/-- What an edit is answered by the entry of its query, and the entry that follows. -/
def editEntry (e : Edit) (found : Option Marker) : Bool × Option Marker :=
  match e, found with
  | .claim m, none => (true, some m)
  | .claim _, some m => (false, some m)
  | .remove, found => (found.isSome, none)
  | .giveUp token, found => if found.any fun m => m.token == token then (true, none) else (false, found)

/-- An edit enters no marker but its own. -/
theorem editEntry_eq_some {e : Edit} {found : Option Marker} {m : Marker} (h : (editEntry e found).2 = some m) :
    found = some m ∨ e = .claim m := by
  cases e with
  | claim entered =>
    cases found with
    | none => exact Or.inr (congrArg Edit.claim (Option.some.inj h))
    | some _ => exact Or.inl h
  | remove => cases h
  | giveUp token =>
    simp only [editEntry] at h
    split at h
    · cases h
    · exact Or.inl h

/-- Without faults an edit is known by the entry of its query. -/
theorem edit_of_entry [FaultFree ρ] (r : ρ) (id : String) (e : Edit) :
    (edit r id e).1 = .ok (editEntry e (entry r id)).1 ∧ entry (edit r id e).2 id = (editEntry e (entry r id)).2 := by
  cases e with
  | claim m =>
    simp only [edit]
    rw [FaultFree.claim_answer, FaultFree.claim_entry]
    cases entry r id <;> simp [editEntry]
  | remove =>
    simp only [edit]
    rw [FaultFree.remove_answer, FaultFree.remove_entry]
    simp [editEntry]
  | giveUp token =>
    simp only [edit]
    rw [FaultFree.removeIfOwned_answer, FaultFree.removeIfOwned_entry]
    unfold carries
    simp only [editEntry, true_and]
    split
    · rename_i howned
      exact ⟨congrArg Except.ok howned, rfl⟩
    · rename_i hnot
      exact ⟨congrArg Except.ok (Bool.eq_false_iff.2 hnot), rfl⟩

/-- Without faults an edit leaves the entries of all other queries as they are. -/
theorem entry_edit_of_ne [FaultFree ρ] {id other : String} (h : other ≠ id) (r : ρ) (e : Edit) :
    entry (edit r id e).2 other = entry r other := by
  have hnot {p : Prop} : ¬(other = id ∧ p) := fun hboth => h hboth.1
  cases e with
  | claim m => exact (FaultFree.claim_entry r id m other).trans (if_neg hnot)
  | remove => exact (FaultFree.remove_entry r id other).trans (if_neg h)
  | giveUp token => exact (FaultFree.removeIfOwned_entry r id token other).trans (if_neg hnot)

/-- Whether a registry holds no entry. -/
def Vacant (r : ρ) : Prop := ∀ id, get r id = .ok none

theorem Vacant.entry_eq {r : ρ} (h : Vacant r) (id : String) : entry r id = none := by
  unfold entry
  rw [h id]
  rfl

/-- A kind of registry on which no call fails as long as it is whole, and that stays whole as long as only markers are entered that
it can store. -/
class Durable (ρ : Type) [JobRegistry ρ] where
  Whole : ρ → Prop
  Storable : Marker → Prop
  whole_of_vacant {r : ρ} (h : Vacant r) : Whole r
  get_eq {r : ρ} (h : Whole r) (id : String) : get r id = .ok (entry r id)
  edit_answer {r : ρ} (h : Whole r) (id : String) (e : Edit) : (edit r id e).1 = .ok (editEntry e (entry r id)).1
  edit_entry {r : ρ} (h : Whole r) (id : String) {e : Edit} (he : ∀ m, e = .claim m → Storable m) (other : String) :
    entry (edit r id e).2 other = if other = id then (editEntry e (entry r id)).2 else entry r other
  edit_whole {r : ρ} (h : Whole r) (id : String) {e : Edit} (he : ∀ m, e = .claim m → Storable m) : Whole (edit r id e).2

/-- A kind of registry without faults is whole whatever is entered. -/
instance FaultFree.durable [FaultFree ρ] : Durable ρ where
  Whole _ := True
  Storable _ := True
  whole_of_vacant _ := trivial
  get_eq _ id := FaultFree.get_eq _ id
  edit_answer _ id e := (edit_of_entry _ id e).1
  edit_entry _ id e _ other := by
    split
    · rename_i hother
      rw [hother]
      exact (edit_of_entry _ id e).2
    · rename_i hother
      exact entry_edit_of_ne hother _ e
  edit_whole _ _ _ _ := trivial

end JobRegistry

namespace MemoryRegistry

theorem entry_eq (r : MemoryRegistry) (id : String) : JobRegistry.entry r id = r.get? id := rfl

instance faultFree : JobRegistry.FaultFree MemoryRegistry where
  get_eq r id := rfl
  claim_answer r id m := by
    rw [entry_eq]
    change Except.ok (r.putIfAbsent id m).1 = _
    unfold putIfAbsent
    cases r.get? id <;> rfl
  claim_entry r id m other := by
    rw [entry_eq, entry_eq, entry_eq]
    change (r.putIfAbsent id m).2.get? other = _
    unfold putIfAbsent
    cases h : r.get? id with
    | some found => simp
    | none =>
      by_cases ho : other = id
      · subst ho
        simp [get?]
      · simp [get?, Keyed.get?_set_ne ho, ho]
  remove_answer r id := by
    rw [entry_eq]
    change Except.ok (r.remove id).1 = _
    unfold remove
    cases r.get? id <;> rfl
  remove_entry r id other := by
    rw [entry_eq, entry_eq]
    change (r.remove id).2.get? other = _
    unfold remove
    by_cases ho : other = id
    · subst ho
      cases h : r.get? other with
      | none => simp [h]
      | some found => simp [get?]
    · cases r.get? id <;> simp [get?, Keyed.get?_erase_ne ho, ho]
  removeIfOwned_answer r id token := by
    unfold JobRegistry.carries
    rw [entry_eq]
    change Except.ok (r.removeIfOwned id token).1 = _
    unfold removeIfOwned
    cases r.get? id with
    | none => rfl
    | some m =>
      by_cases hm : m.token = token <;> simp [hm]
  removeIfOwned_entry r id token other := by
    unfold JobRegistry.carries
    rw [entry_eq, entry_eq, entry_eq]
    change (r.removeIfOwned id token).2.get? other = _
    unfold removeIfOwned
    cases h : r.get? id with
    | none => simp
    | some m =>
      by_cases hm : m.token = token
      · by_cases ho : other = id
        · subst ho
          simp [hm, get?]
        · simp [hm, get?, Keyed.get?_erase_ne ho, ho]
      · simp [hm]

end MemoryRegistry

end StandingQuery
