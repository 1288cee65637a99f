import StandingQuery.Proofs.FaultFree

/-!
# Registries that keep queries apart

What is done to the entry of one query has to leave the entries of all others alone, and not only as they can be read now: two
registries are the same for a query when nothing that is done to its entry afterwards can tell them apart
(`JobRegistry.SameFor`). A registry keeps queries apart if it always stays the same for every query but the one whose entry
changes (`JobRegistry.Separate`), and can be cleared if an entry can always be removed (`JobRegistry.Clears`). Registries without
faults do both (`JobRegistry.separate_of_faultFree`, `JobRegistry.clears_of_faultFree`).
-/

namespace StandingQuery

namespace JobRegistry

variable {ρ : Type} [JobRegistry ρ]

/-- The registry once these edits were made, one after the other. -/
def edited (r : ρ) (past : List (String × Edit)) : ρ := past.foldl (fun r e => (edit r e.1 e.2).2) r

theorem edited_append (r : ρ) (past new : List (String × Edit)) :
    edited r (past ++ new) = edited (edited r past) new := List.foldl_append ..

/-- Two registries are the same for a query: they hold the same for it and answer alike whatever is done to its entry, now and
after anything was done to it. -/
def SameFor (id : String) (r r' : ρ) : Prop :=
  ∀ edits : List Edit,
    get (edited r (edits.map (id, ·))) id = get (edited r' (edits.map (id, ·))) id ∧
      ∀ e, (edit (edited r (edits.map (id, ·))) id e).1 = (edit (edited r' (edits.map (id, ·))) id e).1

namespace SameFor

variable {id : String} {r r' r'' : ρ}

theorem refl (id : String) (r : ρ) : SameFor id r r := fun _ => ⟨rfl, fun _ => rfl⟩

theorem symm (h : SameFor id r r') : SameFor id r' r := fun edits => ⟨(h edits).1.symm, fun e => ((h edits).2 e).symm⟩

theorem trans (h : SameFor id r r') (h' : SameFor id r' r'') : SameFor id r r'' :=
  fun edits => ⟨(h edits).1.trans (h' edits).1, fun e => ((h edits).2 e).trans ((h' edits).2 e)⟩

theorem get_eq (h : SameFor id r r') : get r id = get r' id := (h []).1

theorem answer_eq (h : SameFor id r r') (e : Edit) : (edit r id e).1 = (edit r' id e).1 := (h []).2 e

/-- The same edit of both keeps them the same. -/
theorem edit (h : SameFor id r r') (e : Edit) : SameFor id (edit r id e).2 (JobRegistry.edit r' id e).2 :=
  fun edits => h (e :: edits)

/-- Two registries are the same for a query if they are related in a way that shows in its entry and in every answer, and that
every edit keeps. -/
theorem of_related (related : ρ → ρ → Prop) (hget : ∀ {r r'}, related r r' → get r id = get r' id)
    (hedit : ∀ {r r'}, related r r' → ∀ e,
      (JobRegistry.edit r id e).1 = (JobRegistry.edit r' id e).1 ∧
        related (JobRegistry.edit r id e).2 (JobRegistry.edit r' id e).2)
    (h : related r r') : SameFor id r r' := by
  intro edits
  induction edits generalizing r r' with
  | nil => exact ⟨hget h, fun e => (hedit h e).1⟩
  | cons e rest ih => exact ih (hedit h e).2

end SameFor

/-- A registry keeps queries apart: whatever was done before, what is done to the entry of one query leaves the registry the
same for every other. -/
def Separate (r : ρ) : Prop :=
  ∀ past id e other, other ≠ id → SameFor other (edited r past) (edit (edited r past) id e).2

/-- A registry can be cleared: whatever was done before, the entry of a query can be removed, and then there is none. -/
def Clears (r : ρ) : Prop :=
  ∀ past id, (∃ removed, (remove (edited r past) id).1 = .ok removed) ∧ get (remove (edited r past) id).2 id = .ok none

/-- One registry has become another by edits of the entries of these queries. -/
def EditedFor (ids : List String) (r r' : ρ) : Prop := ∃ past, (∀ e ∈ past, e.1 ∈ ids) ∧ r' = edited r past

namespace EditedFor

variable {ids ids' : List String} {id : String} {r r' r'' : ρ}

theorem refl (ids : List String) (r : ρ) : EditedFor ids r r := ⟨[], by simp, rfl⟩

theorem trans (h : EditedFor ids r r') (h' : EditedFor ids r' r'') : EditedFor ids r r'' := by
  obtain ⟨past, hpast, rfl⟩ := h
  obtain ⟨new, hnew, rfl⟩ := h'
  exact ⟨past ++ new, fun e he => (List.mem_append.1 he).elim (hpast e) (hnew e), (edited_append r past new).symm⟩

theorem mono (h : EditedFor ids r r') (hids : ids ⊆ ids') : EditedFor ids' r r' := by
  obtain ⟨past, hpast, hr'⟩ := h
  exact ⟨past, fun e he => hids (hpast e he), hr'⟩

/-- Any edits, of the entries that they name. -/
theorem edited (r : ρ) (past : List (String × Edit)) : EditedFor (past.map (·.1)) r (edited r past) :=
  ⟨past, fun _ he => List.mem_map_of_mem he, rfl⟩

/-- One edit. -/
theorem edit (r : ρ) (id : String) (e : Edit) : EditedFor [id] r (edit r id e).2 :=
  ⟨[(id, e)], by simp, rfl⟩

/-- What every edit of these entries keeps is kept. -/
theorem keeps (h : EditedFor ids r r') (holds : ρ → Prop)
    (hedit : ∀ id ∈ ids, ∀ e r, holds r → holds (JobRegistry.edit r id e).2) (hr : holds r) : holds r' := by
  obtain ⟨past, hpast, rfl⟩ := h
  induction past generalizing r with
  | nil => exact hr
  | cons first rest ih =>
    exact ih (hedit _ (hpast first List.mem_cons_self) _ _ hr) fun e he => hpast e (List.mem_cons_of_mem _ he)

/-- Edits leave a registry one that keeps queries apart. -/
theorem separate (h : EditedFor ids r r') (hr : Separate r) : Separate r' := by
  obtain ⟨past, -, rfl⟩ := h
  intro new id e other hother
  rw [← edited_append]
  exact hr _ id e other hother

/-- Edits leave a registry one that can be cleared. -/
theorem clears (h : EditedFor ids r r') (hr : Clears r) : Clears r' := by
  obtain ⟨past, -, rfl⟩ := h
  intro new id
  rw [← edited_append]
  exact hr _ id

/-- A registry that keeps queries apart stays the same for every query whose entry is not edited. -/
theorem sameFor (h : EditedFor ids r r') (hr : Separate r) (hid : id ∉ ids) : SameFor id r r' := by
  obtain ⟨past, hpast, rfl⟩ := h
  induction past generalizing r with
  | nil => exact .refl id r
  | cons first rest ih =>
    have hne : id ≠ first.1 := fun he => hid (he ▸ hpast first List.mem_cons_self)
    have hfirst : SameFor id r (JobRegistry.edit r first.1 first.2).2 := hr [] first.1 first.2 id hne
    have hafter := ((EditedFor.edit r first.1 first.2).separate hr)
    exact hfirst.trans (ih hafter fun e he => hpast e (List.mem_cons_of_mem _ he))

end EditedFor

/-- A kind of registry on which no edit of one entry can be told from another's keeps queries apart. -/
theorem separate_of_edit (h : ∀ (r : ρ) id e other, other ≠ id → SameFor other r (edit r id e).2) (r : ρ) : Separate r :=
  fun past id e other hother => h (edited r past) id e other hother

section FaultFree

variable [FaultFree ρ]

/-- Without faults registries are the same for a query if they hold the same entry for it. -/
theorem sameFor_of_entry {id : String} {r r' : ρ} (h : entry r id = entry r' id) : SameFor id r r' := by
  refine SameFor.of_related (fun r r' => entry r id = entry r' id) (fun h => ?_) (fun {r r'} h e => ?_) h
  · rw [FaultFree.get_eq, FaultFree.get_eq, h]
  · have hcarries (token : Uuid) : carries r id token = carries r' id token := by rw [carries, carries, h]
    cases e with
    | claim m =>
      refine ⟨?_, ?_⟩
      · exact (FaultFree.claim_answer r id m).trans (h ▸ (FaultFree.claim_answer r' id m).symm)
      · exact (FaultFree.claim_entry r id m id).trans (h ▸ (FaultFree.claim_entry r' id m id).symm)
    | remove =>
      refine ⟨?_, ?_⟩
      · exact (FaultFree.remove_answer r id).trans (h ▸ (FaultFree.remove_answer r' id).symm)
      · exact (FaultFree.remove_entry r id id).trans (h ▸ (FaultFree.remove_entry r' id id).symm)
    | giveUp token =>
      refine ⟨?_, ?_⟩
      · exact (FaultFree.removeIfOwned_answer r id token).trans
          (hcarries token ▸ (FaultFree.removeIfOwned_answer r' id token).symm)
      · exact (FaultFree.removeIfOwned_entry r id token id).trans
          (h ▸ hcarries token ▸ (FaultFree.removeIfOwned_entry r' id token id).symm)

/-- A registry without faults keeps queries apart. -/
theorem separate_of_faultFree (r : ρ) : Separate r :=
  separate_of_edit (fun r _ e _ hother => sameFor_of_entry (entry_edit_of_ne hother r e).symm) r

/-- A registry without faults can be cleared. -/
theorem clears_of_faultFree (r : ρ) : Clears r := by
  intro past id
  refine ⟨⟨_, FaultFree.remove_answer _ id⟩, ?_⟩
  rw [FaultFree.get_eq, FaultFree.remove_entry, if_pos rfl]

end FaultFree

end JobRegistry

end StandingQuery
