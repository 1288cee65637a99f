import StandingQuery.Engine.Lifecycle
import StandingQuery.Proofs.ActivationRuns
import StandingQuery.Proofs.Cluster

/-!
# Activation is all or nothing

When nobody else uses the engine and the registry has no faults, an activation for which at least one timer was started holds
the entry of its query and tracks exactly these timers; one for which none was started leaves entries and timers as they were,
whatever kept it (`Lifecycle.activateQuery_allOrNothing`). Either way all that went wrong is reported: first the schedules that
are not valid, in order, and then what went wrong later (`Activation.laterFailures`).
-/

namespace StandingQuery

namespace Activation

/-- Why schedules of a query are not valid, in order. -/
def invalid (query : StoredQuery) : List Failure :=
  query.schedules.filterMap fun raw =>
    match Schedule.ofJson raw with
    | .ok _ => none
    | .error e => some e.failure

variable {ρ : Type} [JobRegistry ρ]

/-- What keeps an activation from asking for timers at all, if anything does. -/
def barrier? (services : Services) (mode : ClaimMode) (query : StoredQuery) (s : EngineState ρ) : Option Failure :=
  match services.runner.validate query.expression with
  | .error e => some e.failure
  | .ok () => claimFailure? services mode (JobRegistry.entry s.registry query.id).isSome

/-- The schedules for which an activation starts timers. -/
def accepted (services : Services) (mode : ClaimMode) (query : StoredQuery) (s : EngineState ρ) : List Schedule :=
  match barrier? services mode query s with
  | some _ => []
  | none => services.admitted s.scheduleCalls (enabled (checked query))

/-- What goes wrong in an activation once the schedules were checked. -/
def laterFailures (services : Services) (mode : ClaimMode) (query : StoredQuery) (s : EngineState ρ) : List Failure :=
  if (enabled (checked query)).isEmpty then []
  else
    match barrier? services mode query s with
    | some f => [f]
    | none => services.refusals s.scheduleCalls (enabled (checked query))

/-- What an activation leaves that started timers for these schedules: its entry, and one timer for each of them, tracked under
its token. -/
structure Started (query : StoredQuery) (m : Marker) (schedules : List Schedule) (s s' : EngineState ρ) : Prop where
  entry : JobRegistry.entry s'.registry query.id = some m
  entries : ∀ id, id ≠ query.id → JobRegistry.entry s'.registry id = JobRegistry.entry s.registry id
  /-- The timers of the query that are not over stay tracked, and the new ones come after them. -/
  tracked : s'.timers.trackedFor query.id =
    (s.timers.trackedFor query.id).filter (fun e => !s'.timers.isOver e.2) ++
      (List.range' s.timers.handles.length schedules.length).map fun handle => (m.token, handle)
  trackedOthers : ∀ id, id ≠ query.id → s'.timers.trackedFor id = s.timers.trackedFor id
  handles : s'.timers.handles = s.timers.handles ++ List.replicate schedules.length .running
  jobs : s'.jobs = s.jobs ++ EngineState.jobsFor query m.token s.timers.handles.length schedules

/-- What an activation that ran alone comes to. -/
structure AllOrNothing (services : Services) (mode : ClaimMode) (query : StoredQuery) (s : EngineState ρ)
    (result : Outcome Unit × EngineState ρ) : Prop where
  started : accepted services mode query s ≠ [] →
    Started query (services.draw s.drawn) (accepted services mode query s) s result.2
  untouched : accepted services mode query s = [] → s.Untouched result.2
  success : result.1 = .ok () ↔ invalid query = [] ∧ laterFailures services mode query s = []
  reports : result.1 ≠ .ok () →
    result.1 = .error ⟨"There was a problem attempting to schedule a job for a query metacard \"" ++ query.id ++ "\": " ++
      "\n".intercalate ((invalid query ++ laterFailures services mode query s).map Failure.message)⟩

/-- The problems with the schedules of a query are those of the ones that are not valid. -/
theorem messages_checked (query : StoredQuery) :
    Outcome.messages ((checked query).map Outcome.discard) = (invalid query).map Failure.message := by
  unfold Outcome.messages checked invalid
  rw [List.map_map, List.filterMap_map, List.map_filterMap]
  refine congrArg (query.schedules.filterMap ·) (funext fun raw => ?_)
  simp only [Function.comp]
  cases Schedule.ofJson raw <;> rfl

variable [JobRegistry.FaultFree ρ]

/-- The entries once a marker was entered where there was none. -/
theorem entry_claimed {r : ρ} {id : String} (h : JobRegistry.entry r id = none) (m : Marker) :
    JobRegistry.entry (JobRegistry.putIfAbsent r id m).2 id = some m ∧
      ∀ other, other ≠ id → JobRegistry.entry (JobRegistry.putIfAbsent r id m).2 other = JobRegistry.entry r other := by
  constructor
  · rw [JobRegistry.FaultFree.claim_entry, if_pos ⟨rfl, h⟩]
  · intro other hother
    rw [JobRegistry.FaultFree.claim_entry, if_neg (fun hboth => hother hboth.1)]

/-- An entry that was claimed and is given up again leaves the entries as they were. -/
theorem entry_givenUp {r : ρ} {id : String} (h : JobRegistry.entry r id = none) (m : Marker) :
    JobRegistry.entry (JobRegistry.removeIfOwned (JobRegistry.putIfAbsent r id m).2 id m.token).2 = JobRegistry.entry r := by
  obtain ⟨hself, hothers⟩ := entry_claimed h m
  have hcarries : JobRegistry.carries (JobRegistry.putIfAbsent r id m).2 id m.token = true := by
    unfold JobRegistry.carries
    rw [hself]
    simp
  funext other
  rw [JobRegistry.FaultFree.removeIfOwned_entry]
  by_cases hother : other = id
  · rw [if_pos ⟨hother, hcarries⟩, hother, h]
  · rw [if_neg (fun hboth => hother hboth.1), hothers other hother]

/-- An activation whose claim entered the marker has started timers, or has left everything as it was. -/
theorem startTimers_run_of_claimed (services : Services) (query : StoredQuery) (schedules : List Schedule) {s : EngineState ρ}
    (h : JobRegistry.entry s.registry query.id = none) (m : Marker) (drawn : Nat) :
    let claimed := { s with drawn := drawn, registry := (JobRegistry.putIfAbsent s.registry query.id m).2 }
    let after := ((startTimers query m.token schedules).run services claimed).2
    (services.admitted s.scheduleCalls schedules ≠ [] →
      Started query m (services.admitted s.scheduleCalls schedules) s after) ∧
    (services.admitted s.scheduleCalls schedules = [] → s.Untouched after) := by
  intro claimed after
  obtain ⟨hself, hothers⟩ := entry_claimed h m
  constructor
  · intro hsome
    have hafter : after = { claimed.starting services query m.token schedules with
        timers := (claimed.starting services query m.token schedules).timers.track query.id m.token
          (List.range' s.timers.handles.length (services.admitted s.scheduleCalls schedules).length) } := by
      unfold after
      rw [startTimers_run]
      exact if_neg hsome
    rw [hafter]
    refine ⟨hself, hothers, ?_, ?_, rfl, rfl⟩
    · unfold LocalTimers.track LocalTimers.trackedFor
      simp only [Keyed.get?_set_self, Option.getD_some]
      rfl
    · intro other hother
      unfold LocalTimers.track LocalTimers.trackedFor
      simp only [Keyed.get?_set_ne hother]
      rfl
  · intro hnone
    have hafter : after = { claimed.starting services query m.token schedules with
        registry := (JobRegistry.removeIfOwned claimed.registry query.id m.token).2 } := by
      unfold after
      rw [startTimers_run]
      exact if_pos hnone
    rw [hafter]
    refine ⟨entry_givenUp h m, ?_, ?_⟩
    · change (⟨s.timers.handles ++ List.replicate (services.admitted s.scheduleCalls schedules).length .running,
        s.timers.tracked⟩ : LocalTimers Uuid) = s.timers
      rw [hnone, List.length_nil, List.replicate_zero, List.append_nil]
    · change s.jobs ++ EngineState.jobsFor query m.token s.timers.handles.length (services.admitted s.scheduleCalls schedules) =
        s.jobs
      rw [hnone]
      exact List.append_nil _

/-- An activation that runs alone starts timers or leaves everything as it was, and reports what went wrong. -/
theorem activate_run (services : Services) (mode : ClaimMode) (query : StoredQuery) (s : EngineState ρ) :
    let ran := (activate services mode query).run services s
    (accepted services mode query s ≠ [] →
      Started query (services.draw s.drawn) (accepted services mode query s) s ran.2) ∧
    (accepted services mode query s = [] → s.Untouched ran.2) ∧
    ∃ outcomes : List (Outcome Unit), ran.1 = Outcome.all outcomes ∧
      Outcome.messages outcomes = (invalid query ++ laterFailures services mode query s).map Failure.message := by
  unfold activate
  simp only
  by_cases henabled : (enabled (checked query)).isEmpty = true
  · have hlater : laterFailures services mode query s = [] := by
      unfold laterFailures
      rw [if_pos henabled]
    have haccepted : accepted services mode query s = [] := by
      unfold accepted
      rw [List.isEmpty_iff.1 henabled]
      split <;> rfl
    rw [if_pos henabled]
    refine ⟨fun h => absurd haccepted h, fun _ => .refl s, _, rfl, ?_⟩
    rw [hlater, List.append_nil, messages_checked]
  · rw [if_neg henabled]
    cases hvalidate : services.runner.validate query.expression with
    | error e =>
      have hbarrier : barrier? services mode query s = some e.failure := by
        unfold barrier?
        rw [hvalidate]
      have haccepted : accepted services mode query s = [] := by
        unfold accepted
        rw [hbarrier]
      refine ⟨fun h => absurd haccepted h, fun _ => .refl s, _, rfl, ?_⟩
      rw [Outcome.messages_append, messages_checked, laterFailures, if_neg henabled, hbarrier, List.map_append]
      rfl
    | ok _ =>
      have hbarrier : barrier? services mode query s =
          claimFailure? services mode (JobRegistry.entry s.registry query.id).isSome := by
        unfold barrier?
        rw [hvalidate]
      have hclaim := claim_run services mode query.id (services.draw s.drawn) { s with drawn := s.drawn + 1 }
      simp only [← hbarrier] at hclaim
      simp only
      rw [Program.run_bind, Program.run_ask, Program.run_bind]
      simp only [EngineState.perform]
      cases hfailure : barrier? services mode query s with
      | some f =>
        rw [hfailure] at hclaim
        obtain ⟨hanswer, hsame⟩ := hclaim
        have haccepted : accepted services mode query s = [] := by
          unfold accepted
          rw [hfailure]
        have hdrawn : s.Untouched { s with drawn := s.drawn + 1 } := ⟨rfl, rfl, rfl⟩
        rw [hanswer]
        refine ⟨fun h => absurd haccepted h, fun _ => hdrawn.trans hsame, _, rfl, ?_⟩
        rw [Outcome.messages_append, messages_checked, laterFailures, if_neg henabled, hfailure, List.map_append]
        rfl
      | none =>
        rw [hfailure] at hclaim
        obtain ⟨hclaimed, hentry⟩ := hclaim
        have haccepted : accepted services mode query s = services.admitted s.scheduleCalls (enabled (checked query)) := by
          unfold accepted
          rw [hfailure]
        obtain ⟨hstarted, huntouched⟩ :=
          startTimers_run_of_claimed services query (enabled (checked query)) hentry (services.draw s.drawn) (s.drawn + 1)
        rw [hclaimed, haccepted]
        simp only
        rw [Program.run_bind]
        refine ⟨hstarted, huntouched, _, rfl, ?_⟩
        rw [Outcome.messages_append, messages_checked, laterFailures, if_neg henabled, hfailure, List.map_append, startTimers_run,
          services.answers_messages]

end Activation

namespace Lifecycle

variable {ρ : Type} [JobRegistry ρ]

/-- An activation asks for timers only once its claim was won, whatever it is answered. -/
theorem keeps_activateQuery (services : Services) (mode : ClaimMode) (value : Json) :
    Program.Keeps
      (fun past action => ∀ job, action = .schedule job →
        ∃ m : Marker, (⟨.claim job.query.id m, .ok true⟩ : Happening) ∈ past ∧ m.token = job.token)
      (fun _ _ => True) (activateQuery services mode value) [] := by
  unfold activateQuery
  split
  · trivial
  · rename_i query _
    refine Program.keeps_bind (fun _ _ => True) ?_ fun _ _ _ => trivial
    refine (Activation.keeps_activate services mode query).imp (fun past action hasks job haction => ?_) fun _ _ _ => trivial
    subst haction
    cases hasks with
    | @schedule m schedule _ won _ => exact ⟨m, won, rfl⟩

/-- When nobody else uses the engine and the registry has no faults, a query object that is no query changes nothing at all, and
the activation of any other has started the timers that were accepted or has left entries and timers as they were, and reports
everything that went wrong. Timers are asked for only once the claim was won, whatever others do. -/
theorem activateQuery_allOrNothing [JobRegistry.FaultFree ρ] (services : Services) (mode : ClaimMode) (value : Json)
    (s : EngineState ρ) :
    (match StoredQuery.ofJson value with
      | .error e => (activateQuery services mode value).run services s = (.error e.failure, s)
      | .ok query => Activation.AllOrNothing services mode query s ((activateQuery services mode value).run services s)) ∧
    Program.Keeps
      (fun past action => ∀ job, action = .schedule job →
        ∃ m : Marker, (⟨.claim job.query.id m, .ok true⟩ : Happening) ∈ past ∧ m.token = job.token)
      (fun _ _ => True) (activateQuery services mode value) [] := by
  refine ⟨?_, keeps_activateQuery services mode value⟩
  cases hquery : StoredQuery.ofJson value with
  | error e =>
    unfold activateQuery
    rw [hquery]
    rfl
  | ok query =>
    obtain ⟨hstarted, huntouched, outcomes, houtcome, hmessages⟩ := Activation.activate_run services mode query s
    have hran : (activateQuery services mode value).run services s =
        (Outcome.prepend (scheduling query.id) (Outcome.all outcomes),
          ((Activation.activate services mode query).run services s).2) := by
      unfold activateQuery
      rw [hquery]
      simp only
      rw [Program.run_bind, houtcome]
      rfl
    have hsuccess : Outcome.all outcomes = .ok () ↔
        Activation.invalid query = [] ∧ Activation.laterFailures services mode query s = [] := by
      rw [Outcome.all_eq_ok_iff, ← Outcome.messages_eq_nil_iff, hmessages, List.map_eq_nil_iff, List.append_eq_nil_iff]
    have hprepend : Outcome.prepend (scheduling query.id) (Outcome.all outcomes) = .ok () ↔ Outcome.all outcomes = .ok () := by
      cases Outcome.all outcomes <;> simp [Outcome.prepend]
    simp only
    rw [hran]
    refine ⟨hstarted, huntouched, hprepend.trans hsuccess, fun hnot => ?_⟩
    rw [ne_eq, hprepend] at hnot
    rw [Outcome.all_eq_fail hnot, hmessages]
    rfl

namespace Sample

/-- The schedules of a query: two that can be started, and between them one that has no user and one that is switched off. -/
def mixed : List Json :=
  let daily : Json := .obj [("deliveryIds", .arr []), ("isScheduled", .bool true), ("scheduleAmount", .num (.int 1)),
    ("scheduleEnd", .str "2026-04-04T13:05:00Z"), ("scheduleStart", .str "2026-03-04T13:05:00Z"),
    ("scheduleUnit", .str "DAYS"), ("userId", .str "alice")]
  [daily, .obj [("isScheduled", .bool true)], .obj [("isScheduled", .bool false)], daily]

/-- The attributes of a query with these schedules. -/
def attributes : Json.Members := [("cql", .str "x"), ("id", .str "q"), ("schedules", .arr mixed)]

/-- An engine that starts one timer only. -/
def sparing : Services :=
  { Cluster.Sample.services false with admits := fun calls => if calls = 0 then .ok () else .error (.noTimers "enough") }

end Sample

open Sample in
/-- A query is activated with one timer of two, and the schedule that is not valid and the timer refused are reported; activated
again, it is left as it is. -/
theorem activateQuery_allOrNothing_mixed :
    let first := (activateQuery sparing .once (.obj attributes)).run sparing (.fresh MemoryRegistry.empty)
    let again := (activateQuery sparing .retrying (.obj attributes)).run sparing first.2
    (Activation.AllOrNothing sparing .once ⟨"q", "x", none, mixed, attributes⟩ (.fresh MemoryRegistry.empty) first ∧
      (Activation.accepted sparing .once ⟨"q", "x", none, mixed, attributes⟩ (.fresh MemoryRegistry.empty)).length = 1 ∧
      (Activation.invalid ⟨"q", "x", none, mixed, attributes⟩).length = 1 ∧
      (Activation.laterFailures sparing .once ⟨"q", "x", none, mixed, attributes⟩ (.fresh MemoryRegistry.empty)).length = 1) ∧
    Activation.AllOrNothing sparing .retrying ⟨"q", "x", none, mixed, attributes⟩ first.2 again ∧
      Activation.accepted sparing .retrying ⟨"q", "x", none, mixed, attributes⟩ first.2 = [] := by
  intro first again
  obtain ⟨hfirst, _⟩ := activateQuery_allOrNothing sparing .once (.obj attributes) (.fresh MemoryRegistry.empty)
  obtain ⟨hagain, _⟩ := activateQuery_allOrNothing sparing .retrying (.obj attributes) first.2
  exact ⟨⟨hfirst, by decide +kernel, by decide +kernel, by decide +kernel⟩, hagain, by decide +kernel⟩

end Lifecycle

end StandingQuery
