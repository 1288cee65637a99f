/-!
# Keyed values

Finite maps from texts, as lists of pairs in the order of their keys. The view of a map is `Keyed.get?`; each operation has one
equation through it.
-/

namespace StandingQuery

/-- Values by their keys, the keys in order. -/
abbrev Keyed (α : Type) := List (String × α)

namespace Keyed

variable {α : Type}

/-- The value at a key. -/
def get? (m : Keyed α) (key : String) : Option α := List.lookup key m

/-- Whether there is a value at a key. -/
def has (m : Keyed α) (key : String) : Bool := (get? m key).isSome

/-- The map with one value set, in place of any value at its key. -/
def set (key : String) (value : α) : Keyed α → Keyed α
  | [] => [(key, value)]
  | (k, v) :: rest =>
    if key < k then (key, value) :: (k, v) :: rest
    else if key = k then (key, value) :: rest
    else (k, v) :: set key value rest

/-- The map without the value at a key. -/
def erase (key : String) (m : Keyed α) : Keyed α := m.filter fun e => e.1 != key

/-- The map of pairs in any order; of two values at one key the later one stays. -/
def ofList (pairs : List (String × α)) : Keyed α := pairs.foldl (fun m e => set e.1 e.2 m) []

@[simp] theorem get?_nil (key : String) : get? ([] : Keyed α) key = none := rfl

theorem get?_cons (k : String) (v : α) (m : Keyed α) (key : String) :
    get? ((k, v) :: m) key = if key = k then some v else get? m key := by
  unfold get?
  rw [List.lookup_cons]
  by_cases h : key = k
  · simp [h]
  · simp [h, beq_false_of_ne h]

@[simp] theorem get?_set_self (key : String) (value : α) (m : Keyed α) : get? (set key value m) key = some value := by
  induction m with
  | nil => simp [set, get?_cons]
  | cons e rest ih =>
    obtain ⟨k, v⟩ := e
    simp only [set]
    split
    · simp [get?_cons]
    · split
      · simp [get?_cons]
      · rename_i hne
        rw [get?_cons, if_neg hne, ih]

theorem get?_set_ne {key other : String} (h : other ≠ key) (value : α) (m : Keyed α) :
    get? (set key value m) other = get? m other := by
  induction m with
  | nil => simp [set, get?_cons, h]
  | cons e rest ih =>
    obtain ⟨k, v⟩ := e
    simp only [set]
    split
    · rw [get?_cons, if_neg h]
    · split
      · rename_i heq
        rw [get?_cons, get?_cons, if_neg h, if_neg (heq ▸ h)]
      · rw [get?_cons, get?_cons, ih]

@[simp] theorem get?_erase_self (key : String) (m : Keyed α) : get? (erase key m) key = none := by
  induction m with
  | nil => rfl
  | cons e rest ih =>
    obtain ⟨k, v⟩ := e
    by_cases h : k = key
    · simp only [erase, List.filter_cons, h, bne_self_eq_false, Bool.false_eq_true, if_false]
      exact ih
    · simp only [erase, List.filter_cons, bne_iff_ne.mpr h, if_true]
      rw [get?_cons, if_neg (Ne.symm h)]
      exact ih

theorem get?_erase_ne {key other : String} (h : other ≠ key) (m : Keyed α) : get? (erase key m) other = get? m other := by
  induction m with
  | nil => rfl
  | cons e rest ih =>
    obtain ⟨k, v⟩ := e
    by_cases hk : k = key
    · simp only [erase, List.filter_cons, hk, bne_self_eq_false, Bool.false_eq_true, if_false]
      rw [get?_cons, if_neg h]
      exact ih
    · simp only [erase, List.filter_cons, bne_iff_ne.mpr hk, if_true]
      rw [get?_cons, get?_cons]
      split
      · rfl
      · exact ih

end Keyed

end StandingQuery
