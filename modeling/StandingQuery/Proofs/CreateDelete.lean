import StandingQuery.Proofs.Stopping

/-!
# Deletion undoes creation

A record that is created and then deleted leaves nothing behind: no timer that was started runs, and no query that could have been
started has an entry or timers, whatever stood in the registry before and whatever was reported. Queries of other records are left
alone, and to delete the record once more does nothing (`Lifecycle.onDelete_undoes`). To start a query all of it has to be read,
to stop it its identifier is enough: a value that is no query, but carries the identifier of one that another record started,
stops that one (`Lifecycle.stopped_by_identifier`).
-/

namespace StandingQuery

open EngineState JobRegistry

namespace Program

variable {α : Type} {allowed : Action → Prop}

/-- A bound that does not look at what was done before holds from any point on. -/
theorem Keeps.anywhere {p : Program α} {past : List Happening}
    (h : Keeps (fun _ action => allowed action) (fun _ _ => True) p past) (past' : List Happening) :
    Keeps (fun _ action => allowed action) (fun _ _ => True) p past' := by
  induction p generalizing past past' with
  | done a => trivial
  | step action next ih => exact ⟨h.1, fun answer => ih answer (h.2 answer) _⟩

end Program

namespace Lifecycle

/-- To create a record may claim the entry of a query: some answers to its steps bring it to do so. -/
def MayClaim (services : Services) (r : CatalogRecord) (id : String) : Prop :=
  ∃ past m next, Program.Leads (onCreate services [r]) past (.step (.claim id m) next)

/-- To start an embedded value claims an entry only if it is a query, and only that of its identifier. -/
theorem activateQuery_claims (services : Services) (mode : ClaimMode) (value : Json) (past : List Happening) :
    Program.Keeps
      (fun _ action => ∀ id m, action = .claim id m → ∃ query, StoredQuery.ofJson value = .ok query ∧ query.id = id)
      (fun _ _ => True) (activateQuery services mode value) past := by
  unfold activateQuery
  cases hread : StoredQuery.ofJson value with
  | error e => trivial
  | ok query =>
    have hclaims : Program.Keeps
        (fun _ action => ∀ id m, action = .claim id m →
          ∃ found, (.ok query : Except StoredQueryError StoredQuery) = .ok found ∧ found.id = id)
        (fun _ _ => True) (Activation.activate services mode query) [] := by
      refine (Activation.keeps_activate services mode query).imp (fun past action hasks => ?_) fun _ _ _ => trivial
      rintro id m rfl
      cases hasks
      exact ⟨query, rfl, rfl⟩
    exact Program.keeps_bind (fun _ _ => True) (hclaims.anywhere past) fun _ _ _ => trivial

/-- To create a record claims the entries of its queries only. -/
theorem MayClaim.exists_query {services : Services} {r : CatalogRecord} {id : String} (h : MayClaim services r id) :
    ∃ value ∈ r.embedded, ∃ query, StoredQuery.ofJson value = .ok query ∧ query.id = id := by
  obtain ⟨past, m, next, hleads⟩ := h
  let allowed (action : Action) : Prop :=
    ∀ id m, action = .claim id m → ∃ value ∈ r.embedded, ∃ query, StoredQuery.ofJson value = .ok query ∧ query.id = id
  have hrecord (past : List Happening) :
      Program.Keeps (fun _ action => allowed action) (fun _ _ => True) (activateRecord services .once r) past := by
    refine Program.keeps_bind (fun _ _ => True) ?_ fun _ _ _ => trivial
    rw [forQueries_eq]
    split
    · trivial
    · refine Program.keeps_bind (fun _ _ => True) ?_ fun _ _ _ => trivial
      refine Program.keeps_mapM (fun _ _ => True) _ (fun value hvalue past _ _ => ?_) [] trivial
      exact (activateQuery_claims services .once value past).imp
        (fun _ _ hclaims id m haction => ⟨value, hvalue, hclaims id m haction⟩) fun _ _ _ => trivial
  have hcreate : Program.Keeps (fun _ action => allowed action) (fun _ _ => True) (onCreate services [r]) [] := by
    refine Program.keeps_bind (fun _ _ => True) ?_ fun _ _ _ => trivial
    refine Program.keeps_mapM (fun _ _ => True) _ (fun record hmem past _ _ => ?_) [] trivial
    rw [List.mem_singleton.1 hmem]
    exact hrecord past
  exact (hleads.keeps hcreate).1 id m rfl

/-- What can be claimed can be found again by its identifier. -/
theorem MayClaim.mem_queryIds {services : Services} {r : CatalogRecord} {id : String} (h : MayClaim services r id) :
    id ∈ r.queryIds := by
  obtain ⟨value, hvalue, query, hread, rfl⟩ := h.exists_query
  exact idsOf_subset_queryIds hvalue (StoredQuery.mem_idsOf.2 (StoredQuery.idOf_of_ofJson hread))

variable {ρ : Type} [JobRegistry ρ] (services : Services)

/-- To delete a record stops its embedded values. -/
theorem onDelete_run {s : EngineState ρ} (hr : Separate s.registry) (hc : Clears s.registry) (r : CatalogRecord) :
    (onDelete [r]).run services s =
      (Outcome.all [reportOf r (r.embedded.map stopped)], ((r.embedded.mapM cancelQuery).run services s).2) := by
  unfold onDelete
  rw [Program.run_forEach, Program.run_mapM_cons, cancelRecord_run, (cancelAll_run services hr hc r.embedded).1]
  rfl

/-- To delete a record whose queries are all gone changes no entry and no timer. -/
theorem onDelete_of_gone {s : EngineState ρ} (hr : Separate s.registry) (hc : Clears s.registry) {r : CatalogRecord}
    (h : ∀ id ∈ r.queryIds, s.Gone id) :
    let deleted := (onDelete [r]).run services s
    deleted.2 = { s with registry := deleted.2.registry } ∧
      ∀ id, JobRegistry.get deleted.2.registry id = JobRegistry.get s.registry id := by
  intro deleted
  have hstate : deleted.2 = ((r.embedded.mapM cancelQuery).run services s).2 := by
    unfold deleted
    rw [onDelete_run services hr hc]
  rw [hstate]
  refine ⟨?_, fun id => ?_⟩
  · obtain ⟨r', hsame⟩ := cancelAll_run_of_gone services hr hc r.embedded h
    rw [hsame]
  · by_cases hid : id ∈ r.queryIds
    · obtain ⟨-, hstill, -⟩ := cancelAll_run services hr hc r.embedded
      exact (hstill id (Or.inr hid)).entry.trans (h id hid).entry.symm
    · exact (((cancelAll_confined r.embedded s).registry.sameFor hr hid).get_eq).symm

/-- What it leaves to create a record, to delete it, and to delete it again. -/
structure Undone (services : Services) (r : CatalogRecord) (s : EngineState ρ)
    (created deleted again : Outcome Unit × EngineState ρ) : Prop where
  /-- Every timer that was started is cancelled. -/
  cancelled : ∀ j ∈ s.startedSince created.2, deleted.2.timers.Cancelled j.handle
  /-- No query that could have been started has an entry or timers. -/
  gone : ∀ id, MayClaim services r id → JobRegistry.get deleted.2.registry id = .ok none ∧ deleted.2.timers.trackedFor id = []
  /-- Nor has any other whose identifier is embedded in the record. -/
  stopped : ∀ id ∈ r.queryIds, JobRegistry.get deleted.2.registry id = .ok none ∧ deleted.2.timers.trackedFor id = []
  /-- All other queries keep their entries and timers. -/
  kept : ∀ id, id ∉ r.queryIds → JobRegistry.get deleted.2.registry id = JobRegistry.get s.registry id ∧
    deleted.2.timers.trackedFor id = s.timers.trackedFor id ∧
    ∀ e ∈ s.timers.trackedFor id, deleted.2.timers.handles[e.2]? = s.timers.handles[e.2]?
  /-- To delete the record again is reported alike and changes nothing. -/
  repeated : again.1 = deleted.1 ∧ again.2 = { deleted.2 with registry := again.2.registry } ∧
    ∀ id, JobRegistry.get again.2.registry id = JobRegistry.get deleted.2.registry id
  /-- If none of its queries was there before, the registry and the timers end as they began. -/
  restored : (∀ id ∈ r.queryIds, JobRegistry.get s.registry id = .ok none ∧ s.timers.trackedFor id = []) →
    (∀ id, JobRegistry.get deleted.2.registry id = JobRegistry.get s.registry id ∧
      deleted.2.timers.trackedFor id = s.timers.trackedFor id) ∧
    ∀ handle, handle < s.timers.handles.length → deleted.2.timers.handles[handle]? = s.timers.handles[handle]?

/-- Whatever a record embeds and whatever was there before, to delete it undoes its creation, over a registry that keeps queries
apart and can be cleared. -/
theorem onDelete_undoes (r : CatalogRecord) (s : EngineState ρ) (hr : Separate s.registry)
    (hc : Clears s.registry) (hs : s.timers.Sound) :
    let created := (onCreate services [r]).run services s
    let deleted := (onDelete [r]).run services created.2
    Undone services r s created deleted ((onDelete [r]).run services deleted.2) := by
  intro created deleted
  have hcreated : Adds r.queryIds s created.2 := by
    unfold created
    rw [onCreate_run]
    exact activateAll_adds .once r.embedded s
  have hr' : Separate created.2.registry := hcreated.registry.separate hr
  have hc' : Clears created.2.registry := hcreated.registry.clears hc
  have hdelete : deleted = _ := onDelete_run services hr' hc' r
  have hstate : deleted.2 = ((r.embedded.mapM cancelQuery).run services created.2).2 := by rw [hdelete]
  have hdeleted : Confined r.queryIds created.2 deleted.2 := hstate ▸ cancelAll_confined r.embedded created.2
  obtain ⟨-, hgone, hcancelled⟩ := cancelAll_run services hr' hc' r.embedded
  rw [← hstate] at hgone hcancelled
  have hr'' : Separate deleted.2.registry := hdeleted.registry.separate hr'
  have hc'' : Clears deleted.2.registry := hdeleted.registry.clears hc'
  obtain ⟨hsame, hentries⟩ := onDelete_of_gone services hr'' hc'' fun id hid => hgone id (Or.inr hid)
  have hboth : Confined r.queryIds s deleted.2 := hcreated.toConfined.trans hdeleted
  have hstopped (id : String) (hid : id ∈ r.queryIds) :
      JobRegistry.get deleted.2.registry id = .ok none ∧ deleted.2.timers.trackedFor id = [] :=
    ⟨(hgone id (Or.inr hid)).entry, (hgone id (Or.inr hid)).timers.trackedFor_eq⟩
  have hkept (id : String) (hid : id ∉ r.queryIds) : JobRegistry.get deleted.2.registry id = JobRegistry.get s.registry id ∧
      deleted.2.timers.trackedFor id = s.timers.trackedFor id :=
    ⟨((hboth.registry.sameFor hr hid).get_eq).symm, hboth.timers.trackedFor_eq hid⟩
  refine ⟨fun j hj => ?_, fun id hid => hstopped id hid.mem_queryIds, hstopped, fun id hid => ?_, ⟨?_, hsame, hentries⟩,
    fun hnone => ⟨fun id => ?_, fun handle hlt => ?_⟩⟩
  · have hid : j.job.query.id ∈ r.queryIds := hcreated.toConfined.queryId_of_started hj
    have hruns := hcreated.runs j hj
    exact hcancelled _ hid _ hruns.tracked (List.getElem?_eq_some_iff.1 hruns.running).1
  · obtain ⟨hentry, htracked⟩ := hkept id hid
    exact ⟨hentry, htracked, fun e he => hboth.timers.handle_eq hs hid he⟩
  · rw [onDelete_run services hr'' hc'' r, hdelete]
  · by_cases hid : id ∈ r.queryIds
    · obtain ⟨hentry, htracked⟩ := hnone id hid
      obtain ⟨hentry', htracked'⟩ := hstopped id hid
      exact ⟨hentry'.trans hentry.symm, htracked'.trans htracked.symm⟩
    · exact hkept id hid
  · refine hboth.timers.spared hlt fun id hid token hm => ?_
    rw [(hnone id hid).2] at hm
    cases hm

open Sample in
/-- A second workspace is created and deleted again: it embeds a query of its own, twice, and between
them a value that is none. -/
theorem onDelete_undoes_second :
    let before := running ["q"]
    let second := workspace "second" [daily "p", .obj [("schedules", .null)], daily "p"]
    let created := (onCreate (Cluster.Sample.services false) [second]).run (Cluster.Sample.services false) before
    let deleted := (onDelete [second]).run (Cluster.Sample.services false) created.2
    (Separate before.registry ∧ Clears before.registry ∧ before.timers.Sound) ∧
      Undone (Cluster.Sample.services false) second before created deleted
        ((onDelete [second]).run (Cluster.Sample.services false) deleted.2) ∧
      (before.startedSince created.2).length = 1 ∧
      deleted.2.timers.handles.map TimerHandle.cancelled = [false, true] := by
  intro before second created deleted
  have hr := separate_of_faultFree before.registry
  have hc := clears_of_faultFree before.registry
  have hs : before.timers.Sound := sound_running ["q"]
  exact ⟨⟨hr, hc, hs⟩, onDelete_undoes _ second before hr hc hs, by decide +kernel, by decide +kernel⟩

open Sample in
/-- A second workspace embeds a value that is no query, but carries the identifier of the one that runs. To create the workspace
cannot claim that entry; to delete it removes the entry and cancels the timer. -/
theorem stopped_by_identifier :
    let before := running ["q"]
    let second := workspace "second" [stray "q"]
    let created := (onCreate (Cluster.Sample.services false) [second]).run (Cluster.Sample.services false) before
    let deleted := (onDelete [second]).run (Cluster.Sample.services false) created.2
    ¬MayClaim (Cluster.Sample.services false) second "q" ∧
      (JobRegistry.entry before.registry "q").isSome = true ∧ JobRegistry.entry deleted.2.registry "q" = none ∧
      before.timers.count "q" = 1 ∧ deleted.2.timers.count "q" = 0 ∧
      before.timers.handles = [⟨false, false⟩] ∧ deleted.2.timers.handles = [⟨false, true⟩] := by
  intro before second created deleted
  refine ⟨fun h => ?_, by decide +kernel, by decide +kernel, by decide +kernel, by decide +kernel, by decide +kernel,
    by decide +kernel⟩
  obtain ⟨value, hvalue, query, hread, -⟩ := h.exists_query
  have hembedded : second.embedded = [stray "q"] := rfl
  rw [hembedded, List.mem_singleton] at hvalue
  subst hvalue
  have hnone : (StoredQuery.ofJson (stray "q")).toOption.isSome = false := by decide +kernel
  rw [hread] at hnone
  cases hnone

end Lifecycle

end StandingQuery
