import StandingQuery.Proofs.Interaction
import StandingQuery.Engine.State

/-!
# What steps do to timers

The timers of an engine change by its own steps only. `Happening.tends` is what a step does to them, `Happening.begun` the job
for which it started one. Of a tracked timer three things are said: where it can come from (`Happening.mem_tends`), what
leaves it tracked and running (`Happening.tends_keeps`), and what can have become of any timer (`Happening.handles_tends`).
-/

namespace StandingQuery

namespace LocalTimers

variable {τ : Type}

/-- What is tracked once timers of an activation are. -/
theorem trackedFor_track (t : LocalTimers τ) (id : String) (token : τ) (started : List Nat) (other : String) :
    (t.track id token started).trackedFor other =
      if other = id then ((t.trackedFor id).filter fun e => !t.isOver e.2) ++ started.map fun handle => (token, handle)
      else t.trackedFor other := by
  unfold track trackedFor
  split
  · rename_i hid
    rw [hid, Keyed.get?_set_self, Option.getD_some]
  · rename_i hid
    rw [Keyed.get?_set_ne hid]

theorem mem_trackedFor_track {t : LocalTimers τ} {id other : String} {token : τ} {started : List Nat} {e : τ × Nat} :
    e ∈ (t.track id token started).trackedFor other ↔
      if other = id then (e ∈ t.trackedFor id ∧ t.isOver e.2 = false) ∨ (e.1 = token ∧ e.2 ∈ started)
      else e ∈ t.trackedFor other := by
  obtain ⟨owner, handle⟩ := e
  rw [trackedFor_track]
  split
  · rw [List.mem_append, List.mem_filter, List.mem_map]
    refine or_congr (by simp) ?_
    constructor
    · rintro ⟨started, hstarted, he⟩
      cases he
      exact ⟨rfl, hstarted⟩
    · rintro ⟨rfl, hstarted⟩
      exact ⟨handle, hstarted, rfl⟩
  · rfl

/-- What is tracked once the timers of an activation are released. -/
theorem trackedFor_release [DecidableEq τ] (t : LocalTimers τ) (id : String) (token : τ) (other : String) :
    (t.release id token).trackedFor other =
      if other = id then (t.trackedFor id).filter fun e => e.1 != token else t.trackedFor other := by
  unfold release
  split
  · rename_i hnone
    split
    · rename_i hid
      rw [hid, trackedFor, hnone]
      rfl
    · rfl
  · rename_i entries hsome
    have hentries : t.trackedFor id = entries := by rw [trackedFor, hsome, Option.getD_some]
    rw [hentries]
    split
    · rename_i hempty
      simp only [trackedFor]
      split
      · rename_i hid
        rw [hid, Keyed.get?_erase_self, hempty, Option.getD_none]
      · rename_i hid
        rw [Keyed.get?_erase_ne hid]
    · simp only [trackedFor]
      split
      · rename_i hid
        rw [hid, Keyed.get?_set_self, Option.getD_some]
      · rename_i hid
        rw [Keyed.get?_set_ne hid]

/-- A release does nothing to any timer. -/
theorem handles_release [DecidableEq τ] (t : LocalTimers τ) (id : String) (token : τ) : (t.release id token).handles = t.handles := by
  unfold release
  split
  · rfl
  · split <;> rfl

theorem mem_trackedFor_release [DecidableEq τ] {t : LocalTimers τ} {id other : String} {token : τ} {e : τ × Nat} :
    e ∈ (t.release id token).trackedFor other ↔ e ∈ t.trackedFor other ∧ (other = id → e.1 ≠ token) := by
  rw [trackedFor_release]
  split
  · rename_i hid
    simp [hid]
  · rename_i hid
    simp [hid]

/-- Cancelling timers changes nothing of what is tracked. -/
theorem trackedFor_foldl_cancel (handles : List Nat) (t : LocalTimers τ) (id : String) :
    (handles.foldl cancel t).trackedFor id = t.trackedFor id := by
  induction handles generalizing t with
  | nil => rfl
  | cons handle rest ih => exact ih (t.cancel handle)

/-- What is tracked once the timers of a query are cancelled. -/
theorem trackedFor_cancelAll (t : LocalTimers τ) (id other : String) :
    (t.cancelAll id).2.trackedFor other = if other = id then [] else t.trackedFor other := by
  unfold cancelAll
  dsimp only
  rw [trackedFor_foldl_cancel]
  unfold trackedFor
  split
  · rename_i hid
    rw [hid, Keyed.get?_erase_self, Option.getD_none]
  · rename_i hid
    rw [Keyed.get?_erase_ne hid]

theorem mem_trackedFor_cancelAll {t : LocalTimers τ} {id other : String} {e : τ × Nat} :
    e ∈ (t.cancelAll id).2.trackedFor other ↔ e ∈ t.trackedFor other ∧ other ≠ id := by
  rw [trackedFor_cancelAll]
  split
  · rename_i hid
    simp [hid]
  · rename_i hid
    simp [hid]

/-- The end of one timer leaves the others as they are. -/
theorem handles_finish {t : LocalTimers τ} {ended handle : Nat} (h : ended ≠ handle) :
    (t.finish ended).handles[handle]? = t.handles[handle]? := by
  unfold finish
  rw [List.getElem?_modify]
  simp [h]

/-- A timer that is not cancelled stays as it is. -/
theorem handles_foldl_cancel {handles : List Nat} {handle : Nat} (h : handle ∉ handles) (t : LocalTimers τ) :
    (handles.foldl cancel t).handles[handle]? = t.handles[handle]? := by
  induction handles generalizing t with
  | nil => rfl
  | cons first rest ih =>
    rw [List.foldl_cons, ih (fun hr => h (List.mem_cons_of_mem _ hr))]
    unfold cancel
    rw [List.getElem?_modify]
    have hne : first ≠ handle := fun he => h (he ▸ List.mem_cons_self)
    simp [hne]

/-- Cancelling the timers of a query leaves every timer as it is that is not tracked for it. -/
theorem handles_cancelAll {t : LocalTimers τ} {id : String} {handle : Nat} (h : ∀ token, (token, handle) ∉ t.trackedFor id) :
    (t.cancelAll id).2.handles[handle]? = t.handles[handle]? := by
  unfold cancelAll
  simp only
  rw [handles_foldl_cancel]
  intro hmem
  obtain ⟨⟨token, _⟩, he, rfl⟩ := List.mem_map.1 hmem
  exact h token he

/-- No operation ever loses a handle. -/
theorem length_foldl_cancel (handles : List Nat) (t : LocalTimers τ) :
    (handles.foldl cancel t).handles.length = t.handles.length := by
  induction handles generalizing t with
  | nil => rfl
  | cons first rest ih =>
    rw [List.foldl_cons, ih]
    unfold cancel
    rw [List.length_modify]

end LocalTimers

namespace Happening

/-- What a step of an engine does to its timers. -/
def tends (t : LocalTimers Uuid) : Happening → LocalTimers Uuid
  | ⟨.schedule _, .ok _⟩ => t.start.2
  | ⟨.track id token handles, _⟩ => t.track id token handles
  | ⟨.release id token, _⟩ => t.release id token
  | ⟨.cancelTimers id, _⟩ => (t.cancelAll id).2
  | _ => t

/-- The job for which a step started a timer, with its handle. -/
def begun : Happening → Option StartedJob
  | ⟨.schedule job, .ok handle⟩ => some ⟨job.recurrence, handle, job⟩
  | _ => none

/-- A step that started a timer is one of the timers, and says its handle and its job. -/
theorem begun_eq_some {h : Happening} {started : StartedJob} (hb : h.begun = some started) :
    h = ⟨.schedule started.job, .ok started.handle⟩ := by
  unfold begun at hb
  split at hb
  · cases hb
    rfl
  · cases hb

end Happening

/-- A step of an engine does to its timers what it is said to do, adds the job for which it started a timer, and gives that
timer the next handle. -/
theorem EngineState.perform_timers {ρ : Type} [JobRegistry ρ] (services : Services) (s : EngineState ρ) (action : Action) :
    (s.perform services action).2.timers = Happening.tends s.timers ⟨action, (s.perform services action).1⟩ ∧
      (s.perform services action).2.jobs = s.jobs ++ (Happening.begun ⟨action, (s.perform services action).1⟩).toList ∧
      ∀ started, Happening.begun ⟨action, (s.perform services action).1⟩ = some started →
        started.handle = s.timers.handles.length := by
  cases action with
  | schedule job =>
    simp only [perform, schedule]
    cases services.admits s.scheduleCalls with
    | error e => exact ⟨rfl, (List.append_nil _).symm, fun _ h => by cases h⟩
    | ok _ => exact ⟨rfl, rfl, fun _ h => by cases h; rfl⟩
  | _ => exact ⟨rfl, (List.append_nil _).symm, fun _ h => by cases h⟩

namespace Happening

variable {t : LocalTimers Uuid} {h : Happening} {id : String} {token : Uuid} {handle : Nat}

/-- A timer that is tracked after a step was tracked before, and not for a query whose timers the step cancelled, or the step
tracked it. -/
theorem mem_tends (hm : (token, handle) ∈ (h.tends t).trackedFor id) :
    ((token, handle) ∈ t.trackedFor id ∧ h.action ≠ .cancelTimers id) ∨
      ∃ handles, h = ⟨.track id token handles, ()⟩ ∧ handle ∈ handles := by
  unfold tends at hm
  split at hm
  · exact Or.inl ⟨hm, by simp⟩
  · rename_i other owner handles answer
    rw [LocalTimers.mem_trackedFor_track] at hm
    split at hm
    · rename_i hid
      subst hid
      rcases hm with ⟨hold, _⟩ | ⟨rfl, hnew⟩
      · exact Or.inl ⟨hold, by simp⟩
      · exact Or.inr ⟨handles, rfl, hnew⟩
    · exact Or.inl ⟨hm, by simp⟩
  · exact Or.inl ⟨(LocalTimers.mem_trackedFor_release.1 hm).1, by simp⟩
  · rename_i other answer
    obtain ⟨hold, hid⟩ := LocalTimers.mem_trackedFor_cancelAll.1 hm
    exact Or.inl ⟨hold, fun he => hid (by cases he; rfl)⟩
  · rename_i hnone
    refine Or.inl ⟨hm, fun he => ?_⟩
    obtain ⟨action, answer⟩ := h
    cases he
    exact hnone _ _ rfl

/-- A running timer that is tracked stays so, unless the step releases the timers of its activation or cancels it. -/
theorem tends_keeps (hm : (token, handle) ∈ t.trackedFor id) (hrunning : t.handles[handle]? = some .running)
    (hrelease : h.action ≠ .release id token)
    (hcancel : ∀ other owner, h.action = .cancelTimers other → (owner, handle) ∉ t.trackedFor other) :
    (token, handle) ∈ (h.tends t).trackedFor id ∧ (h.tends t).handles[handle]? = some .running := by
  unfold tends
  split
  · refine ⟨hm, ?_⟩
    have hlt := (List.getElem?_eq_some_iff.1 hrunning).1
    simp only [LocalTimers.start]
    rw [List.getElem?_append_left hlt, hrunning]
  · rename_i other owner handles answer
    refine ⟨?_, hrunning⟩
    rw [LocalTimers.mem_trackedFor_track]
    split
    · rename_i hid
      subst hid
      refine Or.inl ⟨hm, ?_⟩
      unfold LocalTimers.isOver
      rw [hrunning]
      rfl
    · exact hm
  · rename_i other owner answer
    refine ⟨LocalTimers.mem_trackedFor_release.2 ⟨hm, ?_⟩, ?_⟩
    · rintro rfl rfl
      exact hrelease rfl
    · rw [LocalTimers.handles_release, hrunning]
  · rename_i other answer
    have hnot : ∀ owner, (owner, handle) ∉ t.trackedFor other := fun owner => hcancel other owner rfl
    refine ⟨LocalTimers.mem_trackedFor_cancelAll.2 ⟨hm, ?_⟩, ?_⟩
    · rintro rfl
      exact hnot token hm
    · rw [LocalTimers.handles_cancelAll hnot, hrunning]
  · exact ⟨hm, hrunning⟩

/-- After a step a timer is as it was before, or has just been started, or was cancelled with all that were tracked for a
query. -/
theorem handles_tends {handle : Nat} {after : TimerHandle} (hh : (h.tends t).handles[handle]? = some after) :
    t.handles[handle]? = some after ∨ after = .running ∨
      ∃ id token, h.action = .cancelTimers id ∧ (token, handle) ∈ t.trackedFor id := by
  unfold tends at hh
  split at hh
  · simp only [LocalTimers.start, List.getElem?_append] at hh
    split at hh
    · exact Or.inl hh
    · rw [List.getElem?_singleton] at hh
      split at hh
      · cases hh
        exact Or.inr (Or.inl rfl)
      · cases hh
  · exact Or.inl hh
  · rw [LocalTimers.handles_release] at hh
    exact Or.inl hh
  · rename_i other answer
    by_cases hmem : ∃ owner, (owner, handle) ∈ t.trackedFor other
    · obtain ⟨owner, hmem⟩ := hmem
      exact Or.inr (Or.inr ⟨other, owner, rfl, hmem⟩)
    · rw [LocalTimers.handles_cancelAll fun owner hm => hmem ⟨owner, hm⟩] at hh
      exact Or.inl hh
  · exact Or.inl hh

/-- A step adds a handle exactly when it starts a timer. -/
theorem length_tends (t : LocalTimers Uuid) (h : Happening) :
    (h.tends t).handles.length = t.handles.length + h.begun.toList.length := by
  obtain ⟨action, answer⟩ := h
  cases action with
  | schedule job =>
    cases answer with
    | error e => rfl
    | ok handle => simp [tends, begun, LocalTimers.start]
  | release id token =>
    simp only [tends, LocalTimers.handles_release]
    rfl
  | cancelTimers id =>
    simp only [tends, LocalTimers.cancelAll, LocalTimers.length_foldl_cancel]
    rfl
  | _ => rfl

end Happening

end StandingQuery
