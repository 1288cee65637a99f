import StandingQuery.Engine.Lifecycle
import StandingQuery.Proofs.ActivationRuns
import StandingQuery.Proofs.Separation
import StandingQuery.Proofs.TimerChanges

/-!
# What an activation and a cancellation can change

An engine that sees to one query, over a registry of any kind, edits the entry of that query only, changes the timers of that
query only, and starts jobs for that query only (`EngineState.Confined`). Of an activation more is known: every job that it
starts runs, and every job that runs goes on running (`EngineState.Runs`). A cancellation that the registry lets through leaves
no timer of its query.
-/

namespace StandingQuery

namespace EngineState

variable {ρ : Type} [JobRegistry ρ]

/-- All that has changed from one state of an engine to another has to do with these queries. -/
structure Confined (ids : List String) (s s' : EngineState ρ) : Prop where
  registry : JobRegistry.EditedFor ids s.registry s'.registry
  timers : LocalTimers.ChangedFor ids s.timers s'.timers
  jobs : ∃ new, s'.jobs = s.jobs ++ new ∧ ∀ j ∈ new, j.job.query.id ∈ ids
  drawn : s.drawn ≤ s'.drawn
  calls : s.scheduleCalls ≤ s'.scheduleCalls

namespace Confined

variable {ids ids' : List String} {s s' s'' : EngineState ρ}

theorem refl (ids : List String) (s : EngineState ρ) : Confined ids s s :=
  ⟨.refl ids _, .refl ids _, ⟨[], (List.append_nil _).symm, by simp⟩, le_rfl, le_rfl⟩

theorem trans (h : Confined ids s s') (h' : Confined ids s' s'') : Confined ids s s'' where
  registry := h.registry.trans h'.registry
  timers := h.timers.trans h'.timers
  jobs := by
    obtain ⟨new, hjobs, hnew⟩ := h.jobs
    obtain ⟨new', hjobs', hnew'⟩ := h'.jobs
    exact ⟨new ++ new', by rw [hjobs', hjobs, List.append_assoc], fun j hj => (List.mem_append.1 hj).elim (hnew j) (hnew' j)⟩
  drawn := h.drawn.trans h'.drawn
  calls := h.calls.trans h'.calls

theorem mono (h : Confined ids s s') (hids : ids ⊆ ids') : Confined ids' s s' :=
  { h with
    registry := h.registry.mono hids
    timers := h.timers.mono hids
    jobs := by
      obtain ⟨new, hjobs, hnew⟩ := h.jobs
      exact ⟨new, hjobs, fun j hj => hids (hnew j hj)⟩ }

end Confined

/-- The jobs that were started from one state of an engine to another. -/
def startedSince (s s' : EngineState ρ) : List StartedJob := s'.jobs.drop s.jobs.length

/-- The timer of a job runs, and is tracked for its activation. -/
structure Runs (s : EngineState ρ) (j : StartedJob) : Prop where
  tracked : (j.job.token, j.handle) ∈ s.timers.trackedFor j.job.query.id
  running : s.timers.handles[j.handle]? = some .running

/-- A job goes on running while other queries are seen to. -/
theorem Runs.confined {ids : List String} {s s' : EngineState ρ} {j : StartedJob} (h : s.Runs j) (hs : s.timers.Sound)
    (hc : Confined ids s s') (hid : j.job.query.id ∉ ids) : s'.Runs j where
  tracked := by
    rw [hc.timers.trackedFor_eq hid]
    exact h.tracked
  running := (hc.timers.handle_eq hs hid h.tracked).trans h.running

section Started

variable {ids ids' : List String} {s s' s'' : EngineState ρ}

omit [JobRegistry ρ] in
theorem startedSince_self (s : EngineState ρ) : s.startedSince s = [] := List.drop_length

theorem Confined.jobs_eq (h : Confined ids s s') : s'.jobs = s.jobs ++ s.startedSince s' := by
  obtain ⟨new, hjobs, -⟩ := h.jobs
  rw [startedSince, hjobs, List.drop_left]

theorem Confined.startedSince_trans (h : Confined ids s s') (h' : Confined ids' s' s'') :
    s.startedSince s'' = s.startedSince s' ++ s'.startedSince s'' := by
  rw [startedSince, h'.jobs_eq, h.jobs_eq, List.append_assoc, List.drop_left]

theorem Confined.queryId_of_started (h : Confined ids s s') {j : StartedJob} (hj : j ∈ s.startedSince s') :
    j.job.query.id ∈ ids := by
  obtain ⟨new, hjobs, hnew⟩ := h.jobs
  refine hnew j ?_
  rwa [startedSince, hjobs, List.drop_left] at hj

/-- The jobs that were started for a query. -/
def startedFor (id : String) (s s' : EngineState ρ) : List StartedJob :=
  (s.startedSince s').filter fun j => j.job.query.id == id

omit [JobRegistry ρ] in
theorem startedFor_of_jobs_eq (h : s'.jobs = s.jobs) (id : String) : startedFor id s s' = [] := by
  unfold startedFor startedSince
  rw [h, List.drop_length]
  rfl

/-- While other queries were seen to no job was started for a query. -/
theorem Confined.startedFor_eq_nil (h : Confined ids s s') {id : String} (hid : id ∉ ids) : startedFor id s s' = [] := by
  refine List.filter_eq_nil_iff.2 fun j hj he => hid ?_
  rw [← beq_iff_eq.1 he]
  exact h.queryId_of_started hj

theorem Confined.startedFor_trans (h : Confined ids s s') (h' : Confined ids' s' s'')
    (id : String) : startedFor id s s'' = startedFor id s s' ++ startedFor id s' s'' := by
  unfold startedFor
  rw [h.startedSince_trans h', List.filter_append]

/-- Of what is done between, only what is done for a query starts jobs for it. -/
theorem startedFor_between {others : List String} {before done : EngineState ρ} (hbefore : Confined others s before)
    (hdone : Confined ids before done) (hafter : Confined others done s'') {id : String} (hid : id ∉ others) :
    startedFor id s s'' = startedFor id before done := by
  have hrest : Confined (ids ++ others) before s'' :=
    (hdone.mono (List.subset_append_left ..)).trans (hafter.mono (List.subset_append_right ..))
  rw [hbefore.startedFor_trans hrest, hdone.startedFor_trans hafter, hbefore.startedFor_eq_nil hid,
    hafter.startedFor_eq_nil hid, List.nil_append, List.append_nil]

end Started

/-- While these queries were seen to jobs were added and no other was stopped: every new job runs, and every job that ran goes on
running. -/
structure Adds (ids : List String) (s s' : EngineState ρ) : Prop extends Confined ids s s' where
  runs : ∀ j ∈ s.startedSince s', s'.Runs j
  goOn : ∀ j, s.Runs j → s'.Runs j

namespace Adds

variable {ids ids' : List String} {s s' s'' : EngineState ρ}

theorem refl (ids : List String) (s : EngineState ρ) : Adds ids s s :=
  ⟨.refl ids s, by simp [startedSince_self], fun _ h => h⟩

theorem trans (h : Adds ids s s') (h' : Adds ids s' s'') : Adds ids s s'' := by
  refine ⟨h.toConfined.trans h'.toConfined, fun j hj => ?_, fun j hj => h'.goOn j (h.goOn j hj)⟩
  rw [h.startedSince_trans h'.toConfined] at hj
  rcases List.mem_append.1 hj with hold | hnew
  · exact h'.goOn j (h.runs j hold)
  · exact h'.runs j hnew

theorem mono (h : Adds ids s s') (hids : ids ⊆ ids') : Adds ids' s s' := ⟨h.toConfined.mono hids, h.runs, h.goOn⟩

/-- Nothing is added when timers and jobs stay as they are. -/
theorem of_same (h : Confined ids s s') (htimers : s'.timers = s.timers) (hjobs : s'.jobs = s.jobs) : Adds ids s s' := by
  refine ⟨h, ?_, fun j hj => ⟨htimers ▸ hj.tracked, htimers ▸ hj.running⟩⟩
  unfold startedSince
  simp [hjobs]

end Adds

theorem mem_jobsFor {query : StoredQuery} {token : Uuid} {handle : Nat} {schedules : List Schedule} {j : StartedJob}
    (h : j ∈ jobsFor query token handle schedules) :
    j.job.query = query ∧ j.job.token = token ∧ handle ≤ j.handle ∧ j.handle < handle + schedules.length := by
  obtain ⟨⟨schedule, n⟩, hmem, rfl⟩ := List.mem_map.1 h
  obtain ⟨hge, hlt, -⟩ := List.mem_zipIdx hmem
  exact ⟨rfl, rfl, hge, hlt⟩

end EngineState

open EngineState

namespace Activation

variable {ρ : Type} [JobRegistry ρ] (services : Services)

/-- To claim an entry asks for claims and pauses only. -/
theorem claim_asks (mode : ClaimMode) (id : String) (m : Marker) :
    Program.Keeps (fun _ action => action = .claim id m ∨ ∃ ms, action = .sleep ms) (fun _ _ => True)
      (claim services mode id m) [] := by
  have honce : ∀ past, Program.Keeps (fun _ action => action = .claim id m ∨ ∃ ms, action = .sleep ms) (fun _ _ => True)
      (claimOnce id m) past := by
    intro past
    refine ⟨Or.inl rfl, fun answer => ?_⟩
    match answer with
    | .ok true => trivial
    | .ok false => trivial
    | .error e => trivial
  cases mode with
  | once => exact honce []
  | retrying =>
    refine Program.keeps_bind (fun _ _ => True) ?_ fun past outcome _ => ?_
    · generalize services.retry.maxAttempts = n
      generalize ([] : List Happening) = past
      induction n generalizing past with
      | zero => trivial
      | succ n ih =>
        cases n with
        | zero => exact honce past
        | succ n =>
          refine Program.keeps_bind (fun _ _ => True) (honce past) fun past outcome _ => ?_
          cases outcome with
          | ok _ => trivial
          | error f => exact ⟨Or.inr ⟨_, rfl⟩, fun _ => ih _⟩
    · cases outcome <;> trivial

/-- To claim an entry edits that entry and takes time; nothing else changes. -/
theorem claim_run_eq (mode : ClaimMode) (id : String) (m : Marker) (s : EngineState ρ) :
    ∃ r w, ((claim services mode id m).run services s).2 = { s with registry := r, waitedMs := w } ∧
      JobRegistry.EditedFor [id] s.registry r := by
  have hasks := claim_asks services mode id m
  generalize claim services mode id m = p at hasks
  generalize ([] : List Happening) = past at hasks
  induction p generalizing past s with
  | done outcome => exact ⟨s.registry, s.waitedMs, rfl, .refl [id] _⟩
  | step action next ih =>
    rw [Program.run_step]
    rcases hasks.1 with rfl | ⟨ms, rfl⟩
    · obtain ⟨r, w, hrun, hedited⟩ := ih _ (s.perform services (.claim id m)).2 _ (hasks.2 _)
      exact ⟨r, w, hrun, (JobRegistry.EditedFor.edit s.registry id (.claim m)).trans hedited⟩
    · obtain ⟨r, w, hrun, hedited⟩ := ih _ (s.perform services (.sleep ms)).2 _ (hasks.2 _)
      exact ⟨r, w, hrun, hedited⟩

/-- On registries that are the same for a query a claim of its entry comes out alike, and leaves them the same. -/
theorem claim_run_alike (mode : ClaimMode) (id : String) (m : Marker) {s u : EngineState ρ}
    (h : JobRegistry.SameFor id s.registry u.registry) :
    ((claim services mode id m).run services s).1 = ((claim services mode id m).run services u).1 ∧
      JobRegistry.SameFor id ((claim services mode id m).run services s).2.registry
        ((claim services mode id m).run services u).2.registry := by
  have hasks := claim_asks services mode id m
  generalize claim services mode id m = p at hasks
  generalize ([] : List Happening) = past at hasks
  induction p generalizing past s u with
  | done outcome => exact ⟨rfl, h⟩
  | step action next ih =>
    rw [Program.run_step, Program.run_step]
    rcases hasks.1 with rfl | ⟨ms, rfl⟩
    · have hanswer : (s.perform services (.claim id m)).1 = (u.perform services (.claim id m)).1 := h.answer_eq (.claim m)
      rw [hanswer]
      exact ih _ (h.edit (.claim m)) _ (hasks.2 _)
    · exact ih _ h _ (hasks.2 _)

/-- What it leaves to start the timers of an activation for these schedules: the timers are tracked, or there are none and the entry
is given up. -/
structure TimersStarted (query : StoredQuery) (token : Uuid) (schedules : List Schedule) (asked : Nat) (s s' : EngineState ρ) :
    Prop where
  registry : s'.registry =
    if schedules = [] then (JobRegistry.edit s.registry query.id (.giveUp token)).2 else s.registry
  timers : s'.timers = if schedules = [] then s.timers else s.timers.taking query.id token schedules.length
  jobs : s'.jobs = s.jobs ++ jobsFor query token s.timers.handles.length schedules
  drawn : s'.drawn = s.drawn
  calls : s'.scheduleCalls = s.scheduleCalls + asked

theorem startTimers_started (query : StoredQuery) (token : Uuid) (schedules : List Schedule) (s : EngineState ρ) :
    TimersStarted query token (services.admitted s.scheduleCalls schedules) schedules.length s
      ((startTimers query token schedules).run services s).2 := by
  rw [startTimers_run]
  by_cases hnone : services.admitted s.scheduleCalls schedules = []
  · rw [if_pos hnone]
    exact ⟨(if_pos hnone).symm, by simp [starting, hnone], rfl, rfl, rfl⟩
  · rw [if_neg hnone]
    exact ⟨(if_neg hnone).symm, (if_neg hnone).symm, rfl, rfl, rfl⟩

namespace TimersStarted

variable {query : StoredQuery} {token : Uuid} {schedules : List Schedule} {asked : Nat} {s s' : EngineState ρ}

theorem startedSince_eq (h : TimersStarted query token schedules asked s s') :
    s.startedSince s' = jobsFor query token s.timers.handles.length schedules := by
  rw [startedSince, h.jobs, List.drop_left]

theorem confined (h : TimersStarted query token schedules asked s s') : Confined [query.id] s s' where
  registry := by
    rw [h.registry]
    split
    · exact .edit s.registry query.id (.giveUp token)
    · exact .refl _ _
  timers := by
    rw [h.timers]
    split
    · exact .refl _ _
    · exact LocalTimers.changedFor_taking ..
  jobs := ⟨_, h.jobs, fun j hj => by rw [(mem_jobsFor hj).1]; exact List.mem_singleton_self _⟩
  drawn := h.drawn.ge
  calls := h.calls ▸ Nat.le_add_right ..

/-- The timers that were started run, and so do those that ran before. -/
theorem adds (h : TimersStarted query token schedules asked s s') : Adds [query.id] s s' := by
  have htimers := h.timers
  by_cases hnone : schedules = []
  · subst hnone
    exact .of_same h.confined (htimers.trans (if_pos rfl)) (h.jobs.trans (List.append_nil _))
  · rw [if_neg hnone] at htimers
    refine ⟨h.confined, fun j hj => ?_, fun j hj => ?_⟩
    · obtain ⟨hquery, htoken, hge, hlt⟩ := mem_jobsFor (h.startedSince_eq ▸ hj)
      constructor
      · rw [htimers, hquery, htoken, LocalTimers.mem_trackedFor_taking, if_pos rfl]
        exact Or.inr ⟨rfl, hge, hlt⟩
      · rw [htimers, LocalTimers.handles_taking, List.getElem?_append_right hge, List.getElem?_replicate_of_lt (by omega)]
    · have hlt := (List.getElem?_eq_some_iff.1 hj.running).1
      have hrunning : (s.timers.taking query.id token schedules.length).handles[j.handle]? = some .running := by
        rw [LocalTimers.handles_taking, List.getElem?_append_left hlt, hj.running]
      have hover : (s.timers.taking query.id token schedules.length).isOver j.handle = false := by
        unfold LocalTimers.isOver
        rw [hrunning]
        rfl
      refine ⟨?_, htimers ▸ hrunning⟩
      rw [htimers, LocalTimers.mem_trackedFor_taking]
      split
      · rename_i hid
        exact Or.inl ⟨hid ▸ hj.tracked, hover⟩
      · exact hj.tracked

/-- A timer that was started before stays as it is. -/
theorem handle_eq (h : TimersStarted query token schedules asked s s') {handle : Nat} (hlt : handle < s.timers.handles.length) :
    s'.timers.handles[handle]? = s.timers.handles[handle]? := by
  rw [h.timers]
  split
  · rfl
  · rw [LocalTimers.handles_taking, List.getElem?_append_left hlt]

/-- A timer that was started before stays tracked for the query, unless it is over when others are. -/
theorem mem_trackedFor_iff (h : TimersStarted query token schedules asked s s') {e : Uuid × Nat}
    (hlt : e.2 < s.timers.handles.length) :
    e ∈ s'.timers.trackedFor query.id ↔
      e ∈ s.timers.trackedFor query.id ∧ (schedules = [] ∨ s.timers.isOver e.2 = false) := by
  rw [h.timers]
  split
  · rename_i hnone
    simp [hnone]
  · rename_i hsome
    rw [LocalTimers.mem_trackedFor_taking, if_pos rfl, LocalTimers.isOver_taking _ _ _ _ hlt]
    have hnot : ¬(e.1 = token ∧ s.timers.handles.length ≤ e.2 ∧ e.2 < s.timers.handles.length + schedules.length) := by omega
    simp [hsome, hnot]

end TimersStarted

/-- An activation stage by stage: it checks the schedules and the expression, claims the entry, and starts the timers. -/
theorem activate_run_eq (mode : ClaimMode) (query : StoredQuery) (s : EngineState ρ) :
    (activate services mode query).run services s =
      if (enabled (checked query)).isEmpty then (Outcome.all ((checked query).map Outcome.discard), s)
      else
        match services.runner.validate query.expression with
        | .error e => (Outcome.all ((checked query).map Outcome.discard ++ [.error e.failure]), s)
        | .ok () =>
          let claimed := (claim services mode query.id (services.draw s.drawn)).run services { s with drawn := s.drawn + 1 }
          match claimed.1 with
          | .error f => (Outcome.all ((checked query).map Outcome.discard ++ [.error f]), claimed.2)
          | .ok () =>
            let started := (startTimers query (services.draw s.drawn).token (enabled (checked query))).run services claimed.2
            (Outcome.all ((checked query).map Outcome.discard ++ started.1.map Outcome.discard), started.2) := by
  unfold activate
  simp only
  split
  · rfl
  · cases services.runner.validate query.expression with
    | error e => rfl
    | ok _ =>
      simp only
      rw [Program.run_bind, Program.run_ask, Program.run_bind]
      simp only [EngineState.perform]
      generalize (claim services mode query.id (services.draw s.drawn)).run services { s with drawn := s.drawn + 1 } = claimed
      obtain ⟨outcome, after⟩ := claimed
      cases outcome with
      | error f => rfl
      | ok _ =>
        simp only
        rw [Program.run_bind]
        rfl

/-- An activation sees to its query only, and adds to its jobs. -/
theorem activate_adds (mode : ClaimMode) (query : StoredQuery) (s : EngineState ρ) :
    Adds [query.id] s ((activate services mode query).run services s).2 := by
  rw [activate_run_eq]
  split
  · exact .refl _ s
  · split
    · exact .refl _ s
    · obtain ⟨r, w, hclaimed, hedited⟩ :=
        claim_run_eq services mode query.id (services.draw s.drawn) { s with drawn := s.drawn + 1 }
      have hconfined : Confined [query.id] s { s with drawn := s.drawn + 1, registry := r, waitedMs := w } :=
        ⟨hedited, .refl _ _, ⟨[], (List.append_nil _).symm, by simp⟩, Nat.le_succ _, le_rfl⟩
      simp only [hclaimed]
      split
      · exact .of_same hconfined rfl rfl
      · exact (Adds.of_same hconfined rfl rfl).trans (startTimers_started services ..).adds

/-- A cancellation stage by stage: it removes the entry and, if the registry lets it, cancels the timers. -/
theorem cancel_run_eq (id : String) (s : EngineState ρ) :
    (cancel id).run services s =
      match (JobRegistry.remove s.registry id).1 with
      | .error e => (.error (e.failure.prepend (cancelling id)), { s with registry := (JobRegistry.remove s.registry id).2 })
      | .ok _ => (.ok (), { s with
          registry := (JobRegistry.remove s.registry id).2
          timers := (s.timers.cancelAll id).2 }) := by
  unfold cancel
  rw [Program.run_bind, Program.run_ask]
  simp only [EngineState.perform]
  cases (JobRegistry.remove s.registry id).1 <;> rfl

/-- A cancellation sees to its query only, and starts nothing. -/
theorem cancel_confined (id : String) (s : EngineState ρ) :
    s.Confined [id] ((cancel id).run services s).2 ∧ ((cancel id).run services s).2.jobs = s.jobs := by
  rw [cancel_run_eq]
  split
  · exact ⟨⟨.edit s.registry id .remove, .refl _ _, ⟨[], (List.append_nil _).symm, by simp⟩, le_rfl, le_rfl⟩, rfl⟩
  · exact ⟨⟨.edit s.registry id .remove, LocalTimers.changedFor_cancelAll .., ⟨[], (List.append_nil _).symm, by simp⟩, le_rfl,
      le_rfl⟩, rfl⟩

end Activation

end StandingQuery
