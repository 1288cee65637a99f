import StandingQuery.Proofs.EmbeddedQueries

/-!
# Stopping the embedded queries

Over a registry that keeps queries apart and can be cleared, to stop embedded values leaves every query gone whose identifier one
of them carries (`Lifecycle.cancelAll_run`): it has no entry, its timers are cancelled, and nothing is kept of them. What is
reported depends on the values alone. To stop what is gone already changes nothing (`Lifecycle.cancelAll_run_of_gone`).
-/

namespace StandingQuery

open EngineState JobRegistry

namespace EngineState

variable {ρ : Type} [JobRegistry ρ]

/-- A query has no entry, and nothing is kept of its timers. -/
structure Gone (s : EngineState ρ) (id : String) : Prop where
  entry : JobRegistry.get s.registry id = .ok none
  timers : s.timers.Forgotten id

/-- A query that is gone stays so while others are seen to. -/
theorem Gone.confined {ids : List String} {s s' : EngineState ρ} {id : String} (h : s.Gone id) (hr : Separate s.registry)
    (hc : Confined ids s s') (hid : id ∉ ids) : s'.Gone id where
  entry := ((hc.registry.sameFor hr hid).get_eq).symm.trans h.entry
  timers := (hc.timers.others hid).trans h.timers

end EngineState

namespace Lifecycle

variable {ρ : Type} [JobRegistry ρ] (services : Services)

/-- What is reported of stopping an embedded value while the registry can be cleared. -/
def stopped (value : Json) : Outcome Unit :=
  match StoredQuery.idOf value with
  | .error e => .error e.failure
  | .ok _ => .ok ()

/-- To stop an embedded value removes the entry of its identifier and cancels the timers. -/
theorem cancelQuery_run {s : EngineState ρ} (h : Clears s.registry) (value : Json) :
    ((cancelQuery value).run services s).1 = stopped value ∧
      (∀ id, StoredQuery.idOf value = .ok id → ((cancelQuery value).run services s).2 =
        { s with registry := (JobRegistry.remove s.registry id).2, timers := (s.timers.cancelAll id).2 } ∧
          ((cancelQuery value).run services s).2.Gone id) ∧
      (StoredQuery.idsOf value = [] → ((cancelQuery value).run services s).2 = s) := by
  unfold cancelQuery stopped StoredQuery.idsOf
  cases hid : StoredQuery.idOf value with
  | error e => exact ⟨rfl, nofun, fun _ => rfl⟩
  | ok id =>
    obtain ⟨⟨removed, hanswer⟩, hnone⟩ := h [] id
    have hremoved : (JobRegistry.remove s.registry id).1 = .ok removed := hanswer
    simp only [Activation.cancel_run_eq, hremoved]
    refine ⟨trivial, ?_, nofun⟩
    rintro _ ⟨⟩
    exact ⟨rfl, hnone, LocalTimers.forgotten_cancelAll ..⟩

/-- A query that is gone stays so while embedded values are stopped. -/
theorem gone_cancelQuery {s : EngineState ρ} (hr : Separate s.registry) (hc : Clears s.registry) {id : String} (h : s.Gone id)
    (value : Json) : ((cancelQuery value).run services s).2.Gone id := by
  by_cases hid : id ∈ StoredQuery.idsOf value
  · exact ((cancelQuery_run services hc value).2.1 id (StoredQuery.mem_idsOf.1 hid)).2
  · exact h.confined hr (cancelQuery_confined services value s) hid

/-- To stop all the embedded values is reported value by value, and leaves them all gone: every timer that was tracked for one of
them is cancelled, and those that were gone before stay so. -/
theorem cancelAll_run {s : EngineState ρ} (hr : Separate s.registry) (hc : Clears s.registry) (values : List Json) :
    ((values.mapM cancelQuery).run services s).1 = values.map stopped ∧
      (∀ id, s.Gone id ∨ id ∈ values.flatMap StoredQuery.idsOf → ((values.mapM cancelQuery).run services s).2.Gone id) ∧
      ∀ id ∈ values.flatMap StoredQuery.idsOf, ∀ e ∈ s.timers.trackedFor id, e.2 < s.timers.handles.length →
        ((values.mapM cancelQuery).run services s).2.timers.Cancelled e.2 := by
  induction values generalizing s with
  | nil => exact ⟨rfl, fun id h => h.resolve_right (List.not_mem_nil), nofun⟩
  | cons value rest ih =>
    have hfirst := cancelQuery_confined services value s
    obtain ⟨hanswer, hgone, hcancelled⟩ := ih (hfirst.registry.separate hr) (hfirst.registry.clears hc)
    obtain ⟨hvalue, hran, -⟩ := cancelQuery_run services hc value
    rw [Program.run_mapM_cons]
    refine ⟨?_, fun id hid => ?_, fun id hid e he hlt => ?_⟩
    · simp only [hvalue, hanswer, List.map_cons]
    · rcases hid with hbefore | hid
      · exact hgone id (Or.inl (gone_cancelQuery services hr hc hbefore value))
      · rcases List.mem_append.1 (List.flatMap_cons ▸ hid) with hhere | hlater
        · exact hgone id (Or.inl (hran id (StoredQuery.mem_idsOf.1 hhere)).2)
        · exact hgone id (Or.inr hlater)
    · by_cases hhere : id ∈ StoredQuery.idsOf value
      · refine (cancelAll_confined rest _).timers.cancelled ?_
        rw [(hran id (StoredQuery.mem_idsOf.1 hhere)).1]
        exact LocalTimers.cancelled_cancelAll he hlt
      · have hlater := (List.mem_append.1 (List.flatMap_cons ▸ hid)).resolve_left hhere
        refine hcancelled id hlater e ?_ (hlt.trans_le hfirst.timers.grown)
        rw [hfirst.timers.trackedFor_eq hhere]
        exact he

/-- To stop values that are all gone changes nothing, as far as entries and timers go. -/
theorem cancelAll_run_of_gone {s : EngineState ρ} (hr : Separate s.registry) (hc : Clears s.registry) (values : List Json)
    (h : ∀ id ∈ values.flatMap StoredQuery.idsOf, s.Gone id) :
    ∃ r, ((values.mapM cancelQuery).run services s).2 = { s with registry := r } := by
  induction values generalizing s with
  | nil => exact ⟨s.registry, rfl⟩
  | cons value rest ih =>
    have hfirst := cancelQuery_confined services value s
    obtain ⟨-, hran, hnone⟩ := cancelQuery_run services hc value
    obtain ⟨r, hrest⟩ := ih (hfirst.registry.separate hr) (hfirst.registry.clears hc) fun id hid =>
      gone_cancelQuery services hr hc (h id (List.flatMap_cons ▸ List.mem_append_right _ hid)) value
    have hsame : ∃ r, ((cancelQuery value).run services s).2 = { s with registry := r } := by
      cases hids : StoredQuery.idOf value with
      | error e => exact ⟨s.registry, hnone (by simp [StoredQuery.idsOf, hids, Except.toOption])⟩
      | ok id =>
        have hgone := h id (List.flatMap_cons ▸ List.mem_append_left _ (StoredQuery.mem_idsOf.2 hids))
        refine ⟨(JobRegistry.remove s.registry id).2, ?_⟩
        rw [(hran id hids).1, LocalTimers.cancelAll_of_forgotten hgone.timers]
    obtain ⟨r', hsame⟩ := hsame
    refine ⟨r, ?_⟩
    rw [Program.run_mapM_cons]
    exact hrest.trans (by rw [hsame])

end Lifecycle

end StandingQuery
