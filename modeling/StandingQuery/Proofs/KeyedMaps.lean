import Mathlib.Tactic.ByContra
import StandingQuery.Keyed

/-!
# Maps of pairs

The view of a map that is made of pairs in any order: of two values at one key the later one stays (`Keyed.get?_ofList`). A map
that is made by setting values keeps its keys in order, so that each stands in it once (`Keyed.Ordered.set`).
-/

namespace StandingQuery

namespace Keyed

variable {α : Type}

theorem get?_set (key other : String) (value : α) (m : Keyed α) :
    get? (set key value m) other = if other = key then some value else get? m other := by
  by_cases h : other = key
  · rw [h, get?_set_self, if_pos rfl]
  · rw [get?_set_ne h, if_neg h]

/-- Pairs that are set one after the other: the last one at a key stays, and without one the value that was there. -/
theorem get?_foldl_set (pairs : List (String × α)) (m : Keyed α) (key : String) :
    get? (pairs.foldl (fun m e => set e.1 e.2 m) m) key =
      ((pairs.reverse.find? fun e => e.1 == key).map (·.2)).or (get? m key) := by
  induction pairs generalizing m with
  | nil => rfl
  | cons e rest ih =>
    rw [List.foldl_cons, ih, get?_set, List.reverse_cons, List.find?_append]
    cases rest.reverse.find? fun e => e.1 == key with
    | some later => rfl
    | none =>
      simp only [Option.map_none, Option.none_or, List.find?_singleton, beq_iff_eq]
      by_cases h : e.1 = key
      · simp only [h, if_true, Option.map_some, Option.some_or]
      · simp only [h, Ne.symm h, if_false, Option.map_none, Option.none_or]

/-- The value at a key of a map of pairs is that of the last pair with the key. -/
theorem get?_ofList (pairs : List (String × α)) (key : String) :
    get? (ofList pairs) key = (pairs.reverse.find? fun e => e.1 == key).map (·.2) := by
  unfold ofList
  rw [get?_foldl_set, get?_nil, Option.or_none]

/-- Whether the keys of a map are in order, so that each stands in it once. -/
def Ordered (m : Keyed α) : Prop := m.Pairwise fun e later => e.1 < later.1

theorem Ordered.nil : Ordered ([] : Keyed α) := List.Pairwise.nil

/-- What stands in a map with a value set is the value or stood there before. -/
theorem mem_set {key : String} {value : α} {m : Keyed α} {e : String × α} (h : e ∈ set key value m) :
    e = (key, value) ∨ e ∈ m := by
  induction m with
  | nil => exact Or.inl (List.mem_singleton.1 h)
  | cons first rest ih =>
    simp only [set] at h
    split at h
    · exact List.mem_cons.1 h
    · split at h
      · exact (List.mem_cons.1 h).imp_right (List.mem_cons_of_mem _)
      · rcases List.mem_cons.1 h with rfl | h
        · exact Or.inr List.mem_cons_self
        · exact (ih h).imp_right (List.mem_cons_of_mem _)

/-- Setting a value keeps the keys in order. -/
theorem Ordered.set {m : Keyed α} (h : Ordered m) (key : String) (value : α) : Ordered (set key value m) := by
  induction m with
  | nil => exact List.pairwise_singleton _ _
  | cons e rest ih =>
    obtain ⟨k, v⟩ := e
    obtain ⟨hfirst, hrest⟩ := List.pairwise_cons.1 h
    simp only [Keyed.set]
    split
    · rename_i hbefore
      refine List.pairwise_cons.2 ⟨?_, h⟩
      intro later hlater
      rcases List.mem_cons.1 hlater with rfl | hlater
      · exact hbefore
      · exact String.lt_trans hbefore (hfirst later hlater)
    · split
      · rename_i heq
        exact List.pairwise_cons.2 ⟨fun later hlater => heq ▸ hfirst later hlater, hrest⟩
      · rename_i hnot hne
        have hbehind : k < key := by
          by_contra hle
          exact hne (String.le_antisymm (String.not_lt.1 hle) (String.not_lt.1 hnot))
        refine List.pairwise_cons.2 ⟨?_, ih hrest⟩
        intro later hlater
        rcases mem_set hlater with rfl | hlater
        · exact hbehind
        · exact hfirst later hlater

/-- Behind the first key of an ordered map it does not stand again. -/
theorem Ordered.get?_rest {key : String} {value : α} {rest : Keyed α} (h : Ordered ((key, value) :: rest)) :
    get? rest key = none := by
  obtain ⟨hfirst, hrest⟩ := List.pairwise_cons.1 h
  clear h hrest
  induction rest with
  | nil => rfl
  | cons e rest ih =>
    obtain ⟨k, v⟩ := e
    have hne : key ≠ k := fun heq => String.lt_irrefl k (heq ▸ hfirst (k, v) List.mem_cons_self)
    rw [get?_cons, if_neg hne]
    exact ih fun later hlater => hfirst later (List.mem_cons_of_mem _ hlater)

end Keyed

end StandingQuery
