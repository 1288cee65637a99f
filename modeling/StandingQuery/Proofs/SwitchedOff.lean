import StandingQuery.Engine.Lifecycle
import StandingQuery.Proofs.ActivationRuns
import StandingQuery.Proofs.CheckedSchedules
import StandingQuery.Proofs.Cluster

/-!
# Schedules that are switched off

An object that is switched off comes to nothing, unless one of its members is of a wrong type: then it is refused for the first such
member, although nothing of it is ever used. So objects that are switched off, put among the schedules of a query, change neither the
registry nor the timers that are started with the query, but they change what is reported if one of them is refused. Main statement:
`Lifecycle.activateQuery_switchedOff`.
-/

namespace StandingQuery

/-- An object that is switched off comes to no schedule. -/
theorem Schedule.ofJson_ne_some {o : Json.Members} (h : o.get? "isScheduled" = some (.bool false)) (s : Schedule) :
    ofJson (.obj o) ≠ .ok (some s) := by
  intro hs
  obtain ⟨r, hr, hcomes⟩ := ofJson_eq_ok.1 hs
  rw [ofRecord_eq_none.2 (hr.isScheduled_eq h)] at hcomes
  cases hcomes

/-- An object that is switched off comes to nothing when all of its members are of their types, and is refused for the first one that
is not. -/
theorem Schedule.ofJson_switchedOff {o : Json.Members} (h : o.get? "isScheduled" = some (.bool false)) :
    (ofJson (.obj o) = .ok none ↔ ScheduleRecord.illegible o = []) ∧
      ∀ e, ofJson (.obj o) = .error e ↔ ((ScheduleRecord.illegible o).map ScheduleError.unreadable).head? = some e := by
  have hstops : StopsAtFirst (ofJson (.obj o)) ((ScheduleRecord.illegible o).map .unreadable) := by
    rw [← List.append_nil (List.map _ _)]
    unfold ofJson
    refine (ScheduleRecord.ofJson_stopsAtFirst h).bind fun r hr => ?_
    rw [ofRecord_eq_none.2 ((ScheduleRecord.ofJson_obj_iff.1 hr).isScheduled_eq h)]
    rfl
  refine ⟨?_, fun e => hstops.error_iff⟩
  have hsuccess := hstops.ok_iff
  rw [List.map_eq_nil_iff] at hsuccess
  rw [← hsuccess]
  constructor
  · intro hnone
    exact ⟨none, hnone⟩
  · rintro ⟨v, hv⟩
    cases v with
    | none => exact hv
    | some s => exact absurd hv (ofJson_ne_some h s)

namespace Activation

/-- Whether a list of stored schedules is another one with objects put in, at any places. -/
inductive Padded : List Json → List Json.Members → List Json → Prop
  | nil : Padded [] [] []
  | keep (raw : Json) {items more : List Json} {extra : List Json.Members} (h : Padded items extra more) :
      Padded (raw :: items) extra (raw :: more)
  | put (o : Json.Members) {items more : List Json} {extra : List Json.Members} (h : Padded items extra more) :
      Padded items (o :: extra) (.obj o :: more)

namespace Padded

variable {items more : List Json} {extra : List Json.Members}

/-- What is collected of the schedules does not change if nothing is collected of the objects put in. -/
theorem filterMap {β : Type} {f : Json → Option β} (h : Padded items extra more) (hnone : ∀ o ∈ extra, f (.obj o) = none) :
    more.filterMap f = items.filterMap f := by
  induction h with
  | nil => rfl
  | keep raw h ih => rw [List.filterMap_cons, List.filterMap_cons, ih hnone]
  | put o h ih =>
    rw [List.filterMap_cons_none (hnone o List.mem_cons_self)]
    exact ih fun p hp => hnone p (List.mem_cons_of_mem o hp)

/-- The objects put in are there. -/
theorem mem {o : Json.Members} (h : Padded items extra more) (ho : o ∈ extra) : .obj o ∈ more := by
  induction h with
  | nil => cases ho
  | keep raw h ih => exact List.mem_cons_of_mem _ (ih ho)
  | put p h ih =>
    rcases List.mem_cons.1 ho with rfl | ho
    · exact List.mem_cons_self
    · exact List.mem_cons_of_mem _ (ih ho)

end Padded

/-- What comes of one stored schedule. -/
def checkedOne (raw : Json) : Outcome (Option Schedule) := (Schedule.ofJson raw).mapError ScheduleError.failure

variable {q p : StoredQuery} {extra : List Json.Members}

/-- Objects that are switched off add no schedule to those that are enabled. -/
theorem enabled_padded (h : Padded q.schedules extra p.schedules) (hoff : ∀ o ∈ extra, o.get? "isScheduled" = some (.bool false)) :
    enabled (checked p) = enabled (checked q) := by
  change (p.schedules.map checkedOne).filterMap _ = (q.schedules.map checkedOne).filterMap _
  rw [List.filterMap_map, List.filterMap_map]
  refine h.filterMap fun o ho => ?_
  simp only [Function.comp, checkedOne]
  cases hcomes : Schedule.ofJson (.obj o) with
  | error e => rfl
  | ok v =>
    cases v with
    | none => rfl
    | some s => exact absurd hcomes (Schedule.ofJson_ne_some (hoff o ho) s)

/-- An object that is refused is a problem. -/
theorem problem_of_refused {o : Json.Members} {e : ScheduleError} (h : Padded q.schedules extra p.schedules) (ho : o ∈ extra)
    (hrefused : Schedule.ofJson (.obj o) = .error e) (later : List (Outcome Unit)) :
    Outcome.all ((checked p).map Outcome.discard ++ later) ≠ .ok () := by
  intro hall
  have hproblem : Outcome.discard (checkedOne (.obj o)) ∈ (checked p).map Outcome.discard :=
    List.mem_map_of_mem (List.mem_map_of_mem (h.mem ho))
  obtain ⟨a, ha⟩ := Outcome.all_eq_ok_iff.1 hall _ (List.mem_append_left later hproblem)
  unfold checkedOne at ha
  rw [hrefused] at ha
  cases ha

/-- Objects that come to nothing add no problem. -/
theorem problems_padded (h : Padded q.schedules extra p.schedules) (hnothing : ∀ o ∈ extra, Schedule.ofJson (.obj o) = .ok none) :
    Outcome.messages ((checked p).map Outcome.discard) = Outcome.messages ((checked q).map Outcome.discard) := by
  change ((p.schedules.map checkedOne).map Outcome.discard).filterMap _ = ((q.schedules.map checkedOne).map Outcome.discard).filterMap _
  rw [List.map_map, List.map_map, List.filterMap_map, List.filterMap_map]
  refine h.filterMap fun o ho => ?_
  simp only [Function.comp, checkedOne, hnothing o ho]
  rfl

end Activation

/-- What a started job is, without what its stored query holds besides the identifier. -/
def StartedJob.plan (j : StartedJob) : Recurrence × Nat × String × Schedule × Uuid × Option Instant :=
  (j.recurrence, j.handle, j.job.query.id, j.job.schedule, j.job.token, j.job.lastFired)

/-- Whether two engines differ in nothing but what the stored queries of their jobs hold besides the identifier. -/
structure EngineState.SamePlans {ρ : Type} (s t : EngineState ρ) : Prop where
  same : t = { s with jobs := t.jobs }
  jobs : t.jobs.map StartedJob.plan = s.jobs.map StartedJob.plan

theorem EngineState.SamePlans.refl {ρ : Type} (s : EngineState ρ) : s.SamePlans s := ⟨rfl, rfl⟩

namespace Activation

variable {ρ : Type} [JobRegistry ρ]

/-- Timers that are asked for with two queries of one identifier are the same. -/
theorem startTimers_samePlans (services : Services) {q p : StoredQuery} (hid : p.id = q.id) (token : Uuid) (schedules : List Schedule)
    (s : EngineState ρ) :
    ((startTimers p token schedules).run services s).1 = ((startTimers q token schedules).run services s).1 ∧
      ((startTimers q token schedules).run services s).2.SamePlans ((startTimers p token schedules).run services s).2 := by
  have hplans : (EngineState.jobsFor p token s.timers.handles.length (services.admitted s.scheduleCalls schedules)).map StartedJob.plan =
      (EngineState.jobsFor q token s.timers.handles.length (services.admitted s.scheduleCalls schedules)).map StartedJob.plan := by
    unfold EngineState.jobsFor
    rw [List.map_map, List.map_map]
    refine congrArg (List.map · _) (funext fun e => ?_)
    simp only [Function.comp, StartedJob.plan, Job.start, Job.recurrence, hid]
  rw [startTimers_run, startTimers_run, hid]
  refine ⟨rfl, ?_⟩
  simp only
  split
  · refine ⟨rfl, ?_⟩
    simp only [EngineState.starting, List.map_append, hplans]
  · refine ⟨rfl, ?_⟩
    simp only [EngineState.starting, List.map_append, hplans]

/-- Two queries that differ in what is said of their schedules and not in those that are enabled are activated alike: after the
problems with their schedules the same is reported. -/
theorem activate_samePlans (services : Services) (mode : ClaimMode) {q p : StoredQuery} (hid : p.id = q.id)
    (hexpression : p.expression = q.expression) (henabled : enabled (checked p) = enabled (checked q)) (s : EngineState ρ) :
    (∃ later, ((activate services mode q).run services s).1 = Outcome.all ((checked q).map Outcome.discard ++ later) ∧
      ((activate services mode p).run services s).1 = Outcome.all ((checked p).map Outcome.discard ++ later)) ∧
    ((activate services mode q).run services s).2.SamePlans ((activate services mode p).run services s).2 := by
  unfold activate
  simp only [hid, hexpression, henabled]
  by_cases hempty : (enabled (checked q)).isEmpty = true
  · rw [if_pos hempty, if_pos hempty]
    exact ⟨⟨[], by rw [List.append_nil]; rfl, by rw [List.append_nil]; rfl⟩, EngineState.SamePlans.refl s⟩
  · rw [if_neg hempty, if_neg hempty]
    cases services.runner.validate q.expression with
    | error e => exact ⟨⟨[.error e.failure], rfl, rfl⟩, EngineState.SamePlans.refl s⟩
    | ok _ =>
      simp only [Program.run_bind]
      generalize Program.run services (Program.ask .draw : Program Marker) s = drawn
      generalize (claim services mode q.id drawn.1).run services drawn.2 = claimed
      cases hclaimed : claimed.1 with
      | error f => exact ⟨⟨[.error f], rfl, rfl⟩, EngineState.SamePlans.refl _⟩
      | ok _ =>
        simp only [Program.run_bind]
        obtain ⟨hanswers, hplans⟩ := startTimers_samePlans services hid drawn.1.token (enabled (checked q)) claimed.2
        refine ⟨⟨_, rfl, ?_⟩, hplans⟩
        rw [hanswers]
        rfl

/-- A query with objects put among its schedules that are switched off is activated alike. The same is reported if they all come to
nothing, and there is no success if one of them is refused. -/
theorem activate_padded (services : Services) (mode : ClaimMode) {q p : StoredQuery} {extra : List Json.Members} (hid : p.id = q.id)
    (hexpression : p.expression = q.expression) (h : Padded q.schedules extra p.schedules)
    (hoff : ∀ o ∈ extra, o.get? "isScheduled" = some (.bool false)) (s : EngineState ρ) :
    ((activate services mode q).run services s).2.SamePlans ((activate services mode p).run services s).2 ∧
    ((∀ o ∈ extra, ScheduleRecord.illegible o = []) →
      ((activate services mode p).run services s).1 = ((activate services mode q).run services s).1) ∧
    ((∃ o ∈ extra, ScheduleRecord.illegible o ≠ []) → ((activate services mode p).run services s).1 ≠ .ok ()) := by
  obtain ⟨⟨later, hplain, hpadded⟩, hplans⟩ := activate_samePlans services mode hid hexpression (enabled_padded h hoff) s
  rw [hplain, hpadded]
  refine ⟨hplans, ?_, ?_⟩
  · intro hlegible
    have hnothing : ∀ o ∈ extra, Schedule.ofJson (.obj o) = .ok none :=
      fun o ho => (Schedule.ofJson_switchedOff (hoff o ho)).1.2 (hlegible o ho)
    apply Outcome.all_congr
    rw [Outcome.messages_append, Outcome.messages_append, problems_padded h hnothing]
  · rintro ⟨o, ho, hillegible⟩
    obtain ⟨m, hm⟩ := Option.ne_none_iff_exists'.1 (mt List.head?_eq_none_iff.1 hillegible)
    have hrefused : Schedule.ofJson (.obj o) = .error (.unreadable m) := by
      rw [(Schedule.ofJson_switchedOff (hoff o ho)).2, List.head?_map, hm]
      rfl
    exact problem_of_refused h ho hrefused later

end Activation

namespace Lifecycle

open Activation

/-- A query object with these schedules. -/
def withSchedules (o : Json.Members) (schedules : List Json) : Json := .obj (Keyed.set "schedules" (.arr schedules) o)

/-- The stored query that such an object holds: only its schedules and its attributes depend on the schedules. -/
theorem ofJson_withSchedules (o : Json.Members) (schedules : List Json) :
    StoredQuery.ofJson (withSchedules o schedules) = do
      let id ← StoredQuery.stringAttribute o "id"
      let expression ← StoredQuery.stringAttribute o "cql"
      return ⟨id, expression, StoredQuery.titleOf o, schedules, Keyed.set "schedules" (.arr schedules) o⟩ := by
  have hid : Keyed.get? (Keyed.set "schedules" (.arr schedules) o) "id" = Keyed.get? o "id" := Keyed.get?_set_ne (by decide) _ _
  have hcql : Keyed.get? (Keyed.set "schedules" (.arr schedules) o) "cql" = Keyed.get? o "cql" := Keyed.get?_set_ne (by decide) _ _
  have htitle : Keyed.get? (Keyed.set "schedules" (.arr schedules) o) "title" = Keyed.get? o "title" :=
    Keyed.get?_set_ne (by decide) _ _
  unfold withSchedules StoredQuery.ofJson StoredQuery.attributesOf StoredQuery.schedulesOf StoredQuery.stringAttribute
    StoredQuery.titleOf
  simp only [Json.ok_bind, hid, hcql, htitle, Keyed.get?_set_self]

/-- Objects that are switched off come to nothing, or are refused for the first of their members that is of a wrong type. Put among
the schedules of a query, at any places, they change neither the registry nor the timers that are started; what is reported changes only
if one of them is refused, and then there is no success. -/
theorem activateQuery_switchedOff {ρ : Type} [JobRegistry ρ] (services : Services) (mode : ClaimMode) (o : Json.Members)
    {items more : List Json} {extra : List Json.Members} (h : Padded items extra more)
    (hoff : ∀ p ∈ extra, p.get? "isScheduled" = some (.bool false)) (s : EngineState ρ) :
    let plain := (activateQuery services mode (withSchedules o items)).run services s
    let padded := (activateQuery services mode (withSchedules o more)).run services s
    (∀ p ∈ extra, (Schedule.ofJson (.obj p) = .ok none ↔ ScheduleRecord.illegible p = []) ∧
      ∀ e, Schedule.ofJson (.obj p) = .error e ↔ ((ScheduleRecord.illegible p).map ScheduleError.unreadable).head? = some e) ∧
    plain.2.SamePlans padded.2 ∧
    ((∀ p ∈ extra, ScheduleRecord.illegible p = []) → padded.1 = plain.1) ∧
    ((∃ p ∈ extra, ScheduleRecord.illegible p ≠ []) → padded.1 ≠ .ok ()) := by
  intro plain padded
  refine ⟨fun p hp => Schedule.ofJson_switchedOff (hoff p hp), ?_⟩
  have hitems := ofJson_withSchedules o items
  have hmore := ofJson_withSchedules o more
  have hnoQuery {e : StoredQueryError} {schedules : List Json} (he : StoredQuery.ofJson (withSchedules o schedules) = .error e) :
      (activateQuery services mode (withSchedules o schedules)).run services s = (.error e.failure, s) := by
    unfold activateQuery
    rw [he]
    rfl
  have hquery {q : StoredQuery} {schedules : List Json} (hq : StoredQuery.ofJson (withSchedules o schedules) = .ok q) :
      (activateQuery services mode (withSchedules o schedules)).run services s =
        (((activate services mode q).run services s).1.prepend (scheduling q.id), ((activate services mode q).run services s).2) := by
    unfold activateQuery
    rw [hq]
    simp only
    rw [Program.run_bind]
    rfl
  unfold plain padded
  cases hid : StoredQuery.stringAttribute o "id" with
  | error e =>
    rw [hid] at hitems hmore
    rw [hnoQuery hitems, hnoQuery hmore]
    exact ⟨.refl s, fun _ => rfl, fun _ => nofun⟩
  | ok id =>
    cases hcql : StoredQuery.stringAttribute o "cql" with
    | error e =>
      rw [hid, hcql] at hitems hmore
      rw [hnoQuery hitems, hnoQuery hmore]
      exact ⟨.refl s, fun _ => rfl, fun _ => nofun⟩
    | ok expression =>
      rw [hid, hcql] at hitems hmore
      rw [hquery hitems, hquery hmore]
      obtain ⟨hplans, hsame, hfails⟩ := activate_padded services mode
        (q := ⟨id, expression, StoredQuery.titleOf o, items, Keyed.set "schedules" (.arr items) o⟩)
        (p := ⟨id, expression, StoredQuery.titleOf o, more, Keyed.set "schedules" (.arr more) o⟩) rfl rfl h hoff s
      refine ⟨hplans, ?_, ?_⟩
      · intro hlegible
        rw [hsame hlegible]
      · intro hillegible
        have hnot := hfails hillegible
        generalize ((activate services mode _).run services s).1 = outcome at hnot
        cases outcome with
        | ok a => exact absurd rfl hnot
        | error f => exact nofun

namespace Sample

/-- A query without its schedules. -/
def bare : Json.Members := [("cql", .str "x"), ("id", .str "q")]

/-- An object that is switched off, with an amount and a unit that no schedule has. -/
def halfFilled : Json.Members := [("isScheduled", .bool false), ("scheduleAmount", .ofInt (-3)), ("scheduleUnit", .str "FORTNIGHTS")]

/-- An object that is switched off, with an amount that is no number. -/
def often : Json.Members := [("isScheduled", .bool false), ("scheduleAmount", .str "often")]

/-- The activation of a query with these schedules, by an engine that has done nothing yet. -/
def activated (schedules : List Json) : Outcome Unit × EngineState MemoryRegistry :=
  (activateQuery (Cluster.Sample.services false) .once (withSchedules bare schedules)).run (Cluster.Sample.services false)
    (.fresh MemoryRegistry.empty)

end Sample

open Sample in
/-- Before and after the one schedule of a query objects are put that are switched off. -/
theorem activateQuery_switchedOff_around :
    let daily := Cluster.Sample.query.schedules
    let around := [.obj halfFilled] ++ daily ++ [.obj halfFilled]
    (activated daily).2.SamePlans (activated around).2 ∧ (activated around).1 = (activated daily).1 ∧
      (activated daily).1 = .ok () ∧ (activated daily).2.jobs.length = 1 := by
  intro daily around
  have hoff : ∀ p ∈ [halfFilled, halfFilled], p.get? "isScheduled" = some (.bool false) := by
    intro p hp
    rcases List.mem_pair.1 hp with rfl | rfl <;> rfl
  obtain ⟨-, hplans, hsame, -⟩ := activateQuery_switchedOff (Cluster.Sample.services false) .once bare
    (.put halfFilled (.keep _ (.put halfFilled .nil)) : Padded daily [halfFilled, halfFilled] around) hoff (.fresh MemoryRegistry.empty)
  refine ⟨hplans, hsame fun p hp => ?_, by decide +kernel, by decide +kernel⟩
  rcases List.mem_pair.1 hp with rfl | rfl <;> rfl

open Sample in
/-- An object that is switched off is refused for its amount, and with it the activation of a query that goes well without it. -/
theorem activateQuery_refused_switchedOff :
    often.get? "isScheduled" = some (.bool false) ∧
      Schedule.ofJson (.obj often) = .error (.unreadable (.wrongType (.text "often") "i64")) ∧
      (activated Cluster.Sample.query.schedules).1 = .ok () ∧
      (activated (Cluster.Sample.query.schedules ++ [.obj often])).1 =
        .error ⟨scheduling "q" ++ "The schedule data could not be read: invalid type: string \"often\", expected i64"⟩ := by
  refine ⟨rfl, by decide +kernel, by decide +kernel, by decide +kernel⟩

end Lifecycle

end StandingQuery
