import Mathlib.Order.Nat
import StandingQuery.Proofs.Handles

/-!
# How the timers of some queries change

An activation starts timers and tracks them for its query (`LocalTimers.taking`); a cancellation cancels and forgets those of its
query. Either way the timers of all other queries stay as they are (`LocalTimers.ChangedFor`), as long as every timer has one
owner (`LocalTimers.Sound`), which both keep.
-/

namespace StandingQuery

/-- To delete what is not there changes nothing. -/
theorem Keyed.erase_of_absent {α : Type} {key : String} {m : Keyed α} (h : get? m key = none) : erase key m = m := by
  refine List.filter_eq_self.2 fun e he => ?_
  have hne := List.lookup_eq_none_iff.1 h e he
  rw [bne_iff_ne] at hne ⊢
  exact Ne.symm hne

namespace LocalTimers

variable {τ : Type}

/-- Every tracked timer was started, and is tracked for one query only. -/
structure Sound (t : LocalTimers τ) : Prop where
  started : ∀ {id token handle}, (token, handle) ∈ t.trackedFor id → handle < t.handles.length
  single : ∀ {id other token owner handle}, (token, handle) ∈ t.trackedFor id → (owner, handle) ∈ t.trackedFor other → other = id

theorem sound_empty : (empty : LocalTimers τ).Sound := ⟨nofun, nofun⟩

/-- A timer was cancelled. -/
def Cancelled (t : LocalTimers τ) (handle : Nat) : Prop := ∃ h, t.handles[handle]? = some h ∧ h.cancelled = true

/-- Nothing is kept for a query, not even that there is nothing. -/
def Forgotten (t : LocalTimers τ) (id : String) : Prop := Keyed.get? t.tracked id = none

theorem Forgotten.trackedFor_eq {t : LocalTimers τ} {id : String} (h : t.Forgotten id) : t.trackedFor id = [] := by
  unfold trackedFor
  rw [h]
  rfl

/-- What becomes of timers while those of these queries are seen to. -/
structure ChangedFor (ids : List String) (t t' : LocalTimers τ) : Prop where
  grown : t.handles.length ≤ t'.handles.length
  /-- A timer that is tracked afterwards was tracked for the query before, or was started meanwhile. -/
  old : ∀ {id e}, e ∈ t'.trackedFor id → e ∈ t.trackedFor id ∨ t.handles.length ≤ e.2
  others : ∀ {id}, id ∉ ids → Keyed.get? t'.tracked id = Keyed.get? t.tracked id
  /-- A timer that is tracked for none of these queries stays as it is. -/
  spared : ∀ {handle}, handle < t.handles.length → (∀ id ∈ ids, ∀ token, (token, handle) ∉ t.trackedFor id) →
    t'.handles[handle]? = t.handles[handle]?
  cancelled : ∀ {handle}, t.Cancelled handle → t'.Cancelled handle
  sound : t.Sound → t'.Sound

namespace ChangedFor

variable {ids ids' : List String} {t t' t'' : LocalTimers τ} {id : String}

theorem refl (ids : List String) (t : LocalTimers τ) : ChangedFor ids t t where
  grown := le_rfl
  old := Or.inl
  others _ := rfl
  spared _ _ := rfl
  cancelled := id
  sound := id

theorem trans (h : ChangedFor ids t t') (h' : ChangedFor ids t' t'') : ChangedFor ids t t'' where
  grown := h.grown.trans h'.grown
  old hm := by
    rcases h'.old hm with hold | hnew
    · exact h.old hold
    · exact Or.inr (h.grown.trans hnew)
  others hid := (h'.others hid).trans (h.others hid)
  spared hlt hnot := by
    refine (h'.spared (hlt.trans_le h.grown) fun id hid token hm => ?_).trans (h.spared hlt hnot)
    rcases h.old hm with hold | hnew
    · exact hnot id hid token hold
    · exact absurd hlt (Nat.not_lt.2 hnew)
  cancelled hc := h'.cancelled (h.cancelled hc)
  sound hs := h'.sound (h.sound hs)

theorem mono (h : ChangedFor ids t t') (hids : ids ⊆ ids') : ChangedFor ids' t t' :=
  { h with
    others := fun hid => h.others fun hm => hid (hids hm)
    spared := fun hlt hnot => h.spared hlt fun id hid => hnot id (hids hid) }

theorem trackedFor_eq (h : ChangedFor ids t t') (hid : id ∉ ids) : t'.trackedFor id = t.trackedFor id := by
  unfold trackedFor
  rw [h.others hid]

/-- The timers of all other queries stay as they are. -/
theorem handle_eq (h : ChangedFor ids t t') (ht : t.Sound) (hid : id ∉ ids) {e : τ × Nat} (he : e ∈ t.trackedFor id) :
    t'.handles[e.2]? = t.handles[e.2]? :=
  h.spared (ht.started he) fun _ hother _ hm => hid (ht.single he hm ▸ hother)

end ChangedFor

/-- The timers once so many were started and are tracked for an activation. -/
def taking (t : LocalTimers τ) (id : String) (token : τ) (n : Nat) : LocalTimers τ :=
  ({ t with handles := t.handles ++ List.replicate n .running } : LocalTimers τ).track id token
    (List.range' t.handles.length n)

section Taking

variable (t : LocalTimers τ) (id : String) (token : τ) (n : Nat)

theorem handles_taking : (t.taking id token n).handles = t.handles ++ List.replicate n .running := rfl

/-- A timer that was started before is over just as before. -/
theorem isOver_taking {handle : Nat} (h : handle < t.handles.length) :
    (t.taking id token n).isOver handle = t.isOver handle := by
  unfold isOver
  rw [handles_taking, List.getElem?_append_left h]

theorem mem_trackedFor_taking {other : String} {e : τ × Nat} :
    e ∈ (t.taking id token n).trackedFor other ↔
      if other = id then
        (e ∈ t.trackedFor id ∧ (t.taking id token n).isOver e.2 = false) ∨
          (e.1 = token ∧ t.handles.length ≤ e.2 ∧ e.2 < t.handles.length + n)
      else e ∈ t.trackedFor other := by
  unfold taking
  rw [mem_trackedFor_track]
  simp only [List.mem_range'_1]
  rfl

/-- An activation sees to the timers of its query only, and cancels none. -/
theorem changedFor_taking : ChangedFor [id] t (t.taking id token n) where
  grown := by
    rw [handles_taking, List.length_append]
    exact Nat.le_add_right ..
  old hm := by
    rw [mem_trackedFor_taking] at hm
    split at hm
    · rename_i hid
      rcases hm with ⟨hold, -⟩ | ⟨-, hnew, -⟩
      · exact Or.inl (hid ▸ hold)
      · exact Or.inr hnew
    · exact Or.inl hm
  others hid := Keyed.get?_set_ne (by simpa using hid) ..
  spared hlt _ := by rw [handles_taking, List.getElem?_append_left hlt]
  cancelled := by
    rintro handle ⟨h, hh, hcancelled⟩
    have hlt := (List.getElem?_eq_some_iff.1 hh).1
    exact ⟨h, by rw [handles_taking, List.getElem?_append_left hlt, hh], hcancelled⟩
  sound hs := by
    have hmem {other : String} {e : τ × Nat} (hm : e ∈ (t.taking id token n).trackedFor other) :
        e ∈ t.trackedFor other ∨ other = id ∧ t.handles.length ≤ e.2 ∧ e.2 < t.handles.length + n := by
      rw [mem_trackedFor_taking] at hm
      split at hm
      · rename_i hid
        exact hm.imp (fun hold => hid ▸ hold.1) fun hnew => ⟨hid, hnew.2⟩
      · exact Or.inl hm
    constructor
    · intro other owner handle hm
      rw [handles_taking, List.length_append, List.length_replicate]
      rcases hmem hm with hold | ⟨-, -, hlt⟩
      · exact (hs.started hold).trans_le (Nat.le_add_right ..)
      · exact hlt
    · intro first second owner owner' handle hm hm'
      rcases hmem hm with hold | ⟨rfl, hge, -⟩ <;> rcases hmem hm' with hold' | ⟨rfl, hge', -⟩
      · exact hs.single hold hold'
      · exact absurd (hs.started hold) (Nat.not_lt.2 hge')
      · exact absurd (hs.started hold') (Nat.not_lt.2 hge)
      · rfl

end Taking

section CancelAll

variable (t : LocalTimers τ) (id : String)

theorem get?_cancelAll (other : String) :
    Keyed.get? (t.cancelAll id).2.tracked other = Keyed.get? (Keyed.erase id t.tracked) other := by
  unfold cancelAll
  generalize (t.trackedFor id).map (·.2) = handles
  simp only
  generalize hforgetting : ({ t with tracked := Keyed.erase id t.tracked } : LocalTimers τ) = forgetting
  have hkept : (handles.foldl cancel forgetting).tracked = forgetting.tracked := by
    clear hforgetting
    induction handles generalizing forgetting with
    | nil => rfl
    | cons handle rest ih => exact ih (forgetting.cancel handle)
  rw [hkept, ← hforgetting]

theorem forgotten_cancelAll : (t.cancelAll id).2.Forgotten id := by
  unfold Forgotten
  rw [get?_cancelAll, Keyed.get?_erase_self]

/-- To cancel the timers of a query for which nothing is kept changes nothing. -/
theorem cancelAll_of_forgotten {t : LocalTimers τ} {id : String} (h : t.Forgotten id) : (t.cancelAll id).2 = t := by
  unfold LocalTimers.cancelAll
  rw [h.trackedFor_eq]
  simp only [List.map_nil, List.foldl_nil]
  rw [Keyed.erase_of_absent h]

/-- What becomes of a timer when some are cancelled: those that are named are cancelled. -/
theorem getElem?_foldl_cancel (handles : List Nat) (t : LocalTimers τ) (handle : Nat) :
    (handles.foldl cancel t).handles[handle]? =
      if handle ∈ handles then t.handles[handle]?.map fun h => { h with cancelled := true } else t.handles[handle]? := by
  induction handles generalizing t with
  | nil => rfl
  | cons first rest ih =>
    rw [List.foldl_cons, ih]
    unfold cancel
    rw [List.getElem?_modify]
    by_cases hfirst : first = handle
    · subst hfirst
      cases t.handles[first]? <;> simp
    · have hne : handle ≠ first := fun he => hfirst he.symm
      simp [hfirst, hne]

/-- What becomes of a timer when those of a query are cancelled. -/
theorem getElem?_cancelAll (handle : Nat) :
    (t.cancelAll id).2.handles[handle]? =
      if handle ∈ (t.trackedFor id).map (·.2) then t.handles[handle]?.map fun h => { h with cancelled := true }
      else t.handles[handle]? := getElem?_foldl_cancel ..

/-- A timer that was cancelled stays so when those of a query are cancelled. -/
theorem Cancelled.cancelAll {t : LocalTimers τ} {handle : Nat} (h : t.Cancelled handle) (id : String) :
    (t.cancelAll id).2.Cancelled handle := by
  obtain ⟨found, hfound, hcancelled⟩ := h
  unfold Cancelled
  rw [getElem?_cancelAll, hfound]
  split
  · exact ⟨{ found with cancelled := true }, rfl, rfl⟩
  · exact ⟨found, rfl, hcancelled⟩

/-- Every timer that was tracked for a query is cancelled with it. -/
theorem cancelled_cancelAll {t : LocalTimers τ} {id : String} {e : τ × Nat} (he : e ∈ t.trackedFor id)
    (hlt : e.2 < t.handles.length) : (t.cancelAll id).2.Cancelled e.2 := by
  unfold Cancelled
  rw [getElem?_cancelAll, if_pos (List.mem_map_of_mem he), List.getElem?_eq_getElem hlt]
  exact ⟨{ t.handles[e.2] with cancelled := true }, rfl, rfl⟩

theorem length_cancelAll : (t.cancelAll id).2.handles.length = t.handles.length := length_foldl_cancel ..

/-- A cancellation sees to the timers of its query only. -/
theorem changedFor_cancelAll : ChangedFor [id] t (t.cancelAll id).2 where
  grown := (length_cancelAll t id).ge
  old hm := Or.inl (mem_trackedFor_cancelAll.1 hm).1
  others hid := (get?_cancelAll ..).trans (Keyed.get?_erase_ne (by simpa using hid) _)
  spared _ hnot := handles_cancelAll fun token => hnot id (List.mem_singleton_self id) token
  cancelled hc := hc.cancelAll id
  sound hs := by
    constructor
    · intro other token handle hm
      rw [length_cancelAll]
      exact hs.started (mem_trackedFor_cancelAll.1 hm).1
    · intro first second owner owner' handle hm hm'
      exact hs.single (mem_trackedFor_cancelAll.1 hm).1 (mem_trackedFor_cancelAll.1 hm').1

end CancelAll

end LocalTimers

end StandingQuery
