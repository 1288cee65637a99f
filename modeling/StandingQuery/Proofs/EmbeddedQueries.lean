import StandingQuery.Proofs.Cluster
import StandingQuery.Proofs.Confinement
import StandingQuery.Registry.Unreliable

/-!
# The queries embedded in a record

Starting and stopping read the same embedded values, but not alike: to start one needs the whole query, to stop it needs its
identifier only. Every value that is a query has its identifier (`StoredQuery.idOf_of_ofJson`), so that whatever is seen to with a
record has to do with the identifiers that its values carry (`CatalogRecord.queryIds`).
-/

namespace StandingQuery

namespace StoredQuery

/-- A value that is a query has the identifier of the query. -/
theorem idOf_of_ofJson {j : Json} {query : StoredQuery} (h : ofJson j = .ok query) : idOf j = .ok query.id := by
  unfold ofJson at h
  unfold idOf
  cases hattributes : attributesOf j with
  | error e => simp [hattributes, Bind.bind, Except.bind] at h
  | ok o =>
    cases hid : stringAttribute o "id" with
    | error e => simp [hattributes, hid, Bind.bind, Except.bind] at h
    | ok id =>
      cases hexpression : stringAttribute o "cql" with
      | error e => simp [hattributes, hid, hexpression, Bind.bind, Except.bind] at h
      | ok expression =>
        cases hschedules : schedulesOf id o with
        | error e => simp [hattributes, hid, hexpression, hschedules, Bind.bind, Except.bind] at h
        | ok schedules =>
          simp only [hattributes, hid, hexpression, hschedules, Bind.bind, Except.bind, pure, Except.pure, Except.ok.injEq] at h
          simp [Bind.bind, Except.bind, hid, ← h]

/-- The identifier that a value carries, if it carries one. -/
def idsOf (j : Json) : List String := (idOf j).toOption.toList

theorem mem_idsOf {j : Json} {id : String} : id ∈ idsOf j ↔ idOf j = .ok id := by
  unfold idsOf
  cases idOf j <;> simp [Except.toOption, eq_comm]

end StoredQuery

namespace CatalogRecord

/-- The embedded values that are seen to with a record: none if the record is no workspace or has no list of queries. -/
def embedded (r : CatalogRecord) : List Json := if r.isWorkspace then r.scheduledQueries.toOption.getD [] else []

/-- Why the embedded values of a workspace cannot be seen to. -/
def unreadable? (r : CatalogRecord) : Option Failure :=
  if r.isWorkspace then
    match r.scheduledQueries with
    | .ok _ => none
    | .error f => some f
  else none

/-- The identifiers of the queries embedded in a record. -/
def queryIds (r : CatalogRecord) : List String := r.embedded.flatMap StoredQuery.idsOf

theorem embedded_of_unreadable {r : CatalogRecord} {f : Failure} (h : r.unreadable? = some f) : r.embedded = [] := by
  unfold unreadable? at h
  unfold embedded
  split at h
  · rename_i hworkspace
    rw [if_pos hworkspace]
    cases hqueries : r.scheduledQueries with
    | ok _ => simp [hqueries] at h
    | error _ => rfl
  · cases h

/-- The identifiers embedded in a record are those of the objects that speak of schedules, in the list of queries of a workspace. -/
theorem mem_queryIds {r : CatalogRecord} {id : String} :
    id ∈ r.queryIds ↔ r.isWorkspace = true ∧ ∃ items, Keyed.get? r.attributes queriesAttribute = some (.arr items) ∧
      ∃ value ∈ items, StoredQuery.hasSchedules value = true ∧ StoredQuery.idOf value = .ok id := by
  unfold queryIds embedded
  rw [List.mem_flatMap]
  simp only [StoredQuery.mem_idsOf]
  by_cases hworkspace : r.isWorkspace = true
  · rw [if_pos hworkspace]
    unfold scheduledQueries
    split
    · rename_i hnone
      simp [hnone, Except.toOption]
    · rename_i hnull
      simp [hnull, Except.toOption]
    · rename_i items hitems
      simp [hworkspace, hitems, Except.toOption, and_assoc]
    · rename_i other _ hlist hother
      simp only [Outcome.fail, Except.toOption, Option.getD_none, List.not_mem_nil, false_and, exists_false, false_iff]
      rintro ⟨-, items, hitems, -⟩
      exact hlist items (Option.some.inj (hother.symm.trans hitems))
  · rw [if_neg hworkspace]
    simp [hworkspace]

end CatalogRecord

namespace Program

variable {ρ α β : Type} [JobRegistry ρ] (services : Services)

theorem run_mapM_cons (f : α → Program β) (input : α) (rest : List α) (s : EngineState ρ) :
    ((input :: rest).mapM f).run services s =
      (((f input).run services s).1 :: ((rest.mapM f).run services ((f input).run services s).2).1,
        ((rest.mapM f).run services ((f input).run services s).2).2) := by
  rw [List.mapM_cons, run_bind, run_bind]
  rfl

theorem run_mapM_append (f : α → Program β) (inputs rest : List α) (s : EngineState ρ) :
    ((inputs ++ rest).mapM f).run services s =
      (((inputs.mapM f).run services s).1 ++ ((rest.mapM f).run services ((inputs.mapM f).run services s).2).1,
        ((rest.mapM f).run services ((inputs.mapM f).run services s).2).2) := by
  rw [List.mapM_append, run_bind, run_bind]
  rfl

/-- To do something with every input and report it all: the steps are those for each input in turn. -/
theorem run_forEach (f : α → Program (Outcome β)) (inputs : List α) (s : EngineState ρ) :
    (Outcome.forEach f inputs).run services s =
      (Outcome.all ((inputs.mapM f).run services s).1, ((inputs.mapM f).run services s).2) := by
  unfold Outcome.forEach
  rw [run_bind]
  rfl

/-- What holds between the states before and after every input, and can be put together, holds before and after them all. -/
theorem run_mapM_related (related : EngineState ρ → EngineState ρ → Prop) (hrefl : ∀ s, related s s)
    (htrans : ∀ {s s' s''}, related s s' → related s' s'' → related s s'') {f : α → Program β} {inputs : List α}
    (hf : ∀ input ∈ inputs, ∀ s, related s ((f input).run services s).2) (s : EngineState ρ) :
    related s ((inputs.mapM f).run services s).2 := by
  induction inputs generalizing s with
  | nil => exact hrefl s
  | cons input rest ih =>
    rw [run_mapM_cons]
    exact htrans (hf input List.mem_cons_self s) (ih (fun input hi => hf input (List.mem_cons_of_mem _ hi)) _)

end Program

open EngineState

namespace Lifecycle

variable {ρ : Type} [JobRegistry ρ] (services : Services)

/-- Starting an embedded value sees to its query only, and adds to the jobs. -/
theorem activateQuery_adds (mode : ClaimMode) (value : Json) (s : EngineState ρ) :
    Adds (StoredQuery.idsOf value) s ((activateQuery services mode value).run services s).2 := by
  unfold activateQuery
  cases hquery : StoredQuery.ofJson value with
  | error e => exact .refl _ s
  | ok query =>
    simp only
    rw [Program.run_bind]
    have hid := StoredQuery.mem_idsOf.2 (StoredQuery.idOf_of_ofJson hquery)
    exact (Activation.activate_adds services mode query s).mono fun _ hm => List.mem_singleton.1 hm ▸ hid

/-- Stopping an embedded value sees to its query only. -/
theorem cancelQuery_confined (value : Json) (s : EngineState ρ) :
    Confined (StoredQuery.idsOf value) s ((cancelQuery value).run services s).2 := by
  unfold cancelQuery
  cases hid : StoredQuery.idOf value with
  | error e => exact .refl _ s
  | ok id =>
    exact (Activation.cancel_confined services id s).1.mono fun _ hm => List.mem_singleton.1 hm ▸ StoredQuery.mem_idsOf.2 hid

/-- What is done with the embedded values of a record: each in turn, unless they cannot be read. -/
theorem forQueries_eq (act : Json → Program (Outcome Unit)) (record : CatalogRecord) :
    forQueries act record =
      match record.unreadable? with
      | some f => pure (.error f)
      | none => Outcome.forEach act record.embedded := by
  unfold forQueries CatalogRecord.unreadable? CatalogRecord.embedded
  split
  · cases record.scheduledQueries <;> rfl
  · rfl

theorem forQueries_run (act : Json → Program (Outcome Unit)) (record : CatalogRecord) (s : EngineState ρ) :
    (forQueries act record).run services s =
      (match record.unreadable? with
        | some f => .error f
        | none => Outcome.all ((record.embedded.mapM act).run services s).1,
        ((record.embedded.mapM act).run services s).2) := by
  rw [forQueries_eq]
  cases hunreadable : record.unreadable? with
  | some f =>
    rw [CatalogRecord.embedded_of_unreadable hunreadable]
    rfl
  | none => exact Program.run_forEach ..

/-- What is reported of a record, by what came of its embedded values. -/
def reportOf (record : CatalogRecord) (outcomes : List (Outcome Unit)) : Outcome Unit :=
  Outcome.prepend (modifying record.id)
    (match record.unreadable? with
      | some f => .error f
      | none => Outcome.all outcomes)

theorem activateRecord_run (mode : ClaimMode) (record : CatalogRecord) (s : EngineState ρ) :
    (activateRecord services mode record).run services s =
      (reportOf record ((record.embedded.mapM (activateQuery services mode)).run services s).1,
        ((record.embedded.mapM (activateQuery services mode)).run services s).2) := by
  unfold activateRecord
  rw [Program.run_bind, forQueries_run]
  rfl

theorem cancelRecord_run (record : CatalogRecord) (s : EngineState ρ) :
    (cancelRecord record).run services s =
      (reportOf record ((record.embedded.mapM cancelQuery).run services s).1,
        ((record.embedded.mapM cancelQuery).run services s).2) := by
  unfold cancelRecord
  rw [Program.run_bind, forQueries_run]
  rfl

/-- An update stage by stage: the old record is stopped and the new one started. -/
theorem updateRecord_run (update : RecordUpdate) (s : EngineState ρ) :
    (updateRecord services update).run services s =
      let stopping := (update.old.embedded.mapM cancelQuery).run services s
      let starting := (update.new.embedded.mapM (activateQuery services .retrying)).run services stopping.2
      (Outcome.all [reportOf update.old stopping.1, reportOf update.new starting.1], starting.2) := by
  unfold updateRecord
  rw [Program.run_bind, cancelRecord_run, Program.run_bind, activateRecord_run]
  rfl

/-- To create a record starts its embedded values. -/
theorem onCreate_run (s : EngineState ρ) (r : CatalogRecord) :
    ((onCreate services [r]).run services s).2 = ((r.embedded.mapM (activateQuery services .once)).run services s).2 := by
  unfold onCreate
  rw [Program.run_forEach, Program.run_mapM_cons, activateRecord_run]
  rfl

variable {services}

/-- An embedded value carries an identifier of the record. -/
theorem idsOf_subset_queryIds {record : CatalogRecord} {value : Json} (h : value ∈ record.embedded) :
    StoredQuery.idsOf value ⊆ record.queryIds := fun _ hid => List.mem_flatMap.2 ⟨value, h, hid⟩

/-- Starting the queries of a record sees to them only, and adds to the jobs. -/
theorem activateAll_adds (mode : ClaimMode) (values : List Json) (s : EngineState ρ) :
    Adds (values.flatMap StoredQuery.idsOf) s ((values.mapM (activateQuery services mode)).run services s).2 :=
  Program.run_mapM_related services (Adds _) (Adds.refl _) Adds.trans
    (fun value hvalue s => (activateQuery_adds services mode value s).mono
      fun _ hid => List.mem_flatMap.2 ⟨value, hvalue, hid⟩) s

/-- Stopping the queries of a record sees to them only. -/
theorem cancelAll_confined (values : List Json) (s : EngineState ρ) :
    Confined (values.flatMap StoredQuery.idsOf) s ((values.mapM cancelQuery).run services s).2 :=
  Program.run_mapM_related services (Confined _) (Confined.refl _) Confined.trans
    (fun value hvalue s => (cancelQuery_confined services value s).mono
      fun _ hid => List.mem_flatMap.2 ⟨value, hvalue, hid⟩) s

/-- To stop embedded values starts nothing. -/
theorem cancelAll_jobs (values : List Json) (s : EngineState ρ) :
    ((values.mapM cancelQuery).run services s).2.jobs = s.jobs := by
  refine Program.run_mapM_related services (fun s s' => s'.jobs = s.jobs) (fun _ => rfl) (fun h h' => h'.trans h)
    (fun value _ s => ?_) s
  unfold cancelQuery
  cases StoredQuery.idOf value with
  | error e => rfl
  | ok id => exact (Activation.cancel_confined services id s).2

namespace Sample

/-- A query that is due every day for a month, as a value. -/
def daily (id : String) : Json :=
  .obj [("cql", .str "x"), ("id", .str id),
    ("schedules", .arr [.obj [("deliveryIds", .arr []), ("isScheduled", .bool true), ("scheduleAmount", .num (.int 1)),
      ("scheduleEnd", .str "2026-04-04T13:05:00Z"), ("scheduleStart", .str "2026-03-04T13:05:00Z"),
      ("scheduleUnit", .str "DAYS"), ("userId", .str "alice")]])]

/-- A value that carries an identifier, but is no query. -/
def stray (id : String) : Json := .obj [("id", .str id), ("schedules", .arr [])]

/-- A workspace that embeds these values. -/
def workspace (id : String) (values : List Json) : CatalogRecord :=
  ⟨id, [CatalogRecord.workspaceTag], [(CatalogRecord.queriesAttribute, .arr values)]⟩

/-- An engine on which the queries of one workspace run. -/
def running (ids : List String) : EngineState MemoryRegistry :=
  ((onCreate (Cluster.Sample.services false) [workspace "first" (ids.map daily)]).run (Cluster.Sample.services false)
    (.fresh MemoryRegistry.empty)).2

theorem sound_running (ids : List String) : (running ids).timers.Sound := by
  unfold running
  rw [onCreate_run]
  exact (activateAll_adds .once _ _).timers.sound LocalTimers.sound_empty

/-- The engine with a link before its registry. -/
def behind (s : EngineState MemoryRegistry) (refuses : RegistryCall → Bool) (stale : List ClaimMade → String → Bool) :
    EngineState (Unreliable MemoryRegistry) :=
  ⟨⟨s.registry, refuses, stale, []⟩, s.timers, s.jobs, s.scheduleCalls, s.drawn, s.requests, s.handed, s.waitedMs⟩

end Sample

end Lifecycle

end StandingQuery
