import StandingQuery.Proofs.LaggingLink
import StandingQuery.Proofs.Stopping

/-!
# Updates of records

An update stops the queries of the old record and then starts those of the new one, over a link that lags. Of the queries that can
be started exactly those are active afterwards, each under a marker drawn for it, that were free once the old record was stopped,
provided that the link catches up within the attempts; one that another record holds keeps its entry and timers, and is reported
once every attempt was made (`Lifecycle.onUpdate_updates`). What is seen to with one embedded value leaves the others alone, so
that each of them can be followed through the update on its own (`Lifecycle.activateAll_at`).
-/

namespace StandingQuery

open JobRegistry EngineState

namespace EngineState

section Started

variable {ρ : Type} [JobRegistry ρ]

omit [JobRegistry ρ] in
theorem map_job_jobsFor (query : StoredQuery) (token : Uuid) (handle : Nat) (schedules : List Schedule) :
    (jobsFor query token handle schedules).map StartedJob.job = schedules.map (Job.start query token) := by
  have hjob : (jobsFor query token handle schedules).map StartedJob.job =
      ((schedules.zipIdx handle).map Prod.fst).map (Job.start query token) := by
    unfold jobsFor
    rw [List.map_map, List.map_map]
    rfl
  rw [hjob, List.zipIdx_map_fst]

/-- A query became active: a fresh marker is entered for it, and for each of its schedules a job of that activation runs. -/
structure Activated (services : Services) (query : StoredQuery) (s s' : EngineState ρ) : Prop where
  fresh : ∃ n, s.drawn ≤ n ∧ n < s'.drawn ∧ JobRegistry.entry s'.registry query.id = some (services.draw n) ∧
    (startedFor query.id s s').map StartedJob.job =
      (Activation.enabled (Activation.checked query)).map (Job.start query (services.draw n).token)
  runs : ∀ j ∈ startedFor query.id s s', s'.Runs j

end Started

/-- While other queries are seen to the entry of a query stays, on a registry that keeps queries apart. -/
theorem Confined.entry_eq {ρ : Type} [JobRegistry ρ] {ids : List String} {s s' : EngineState ρ} (h : Confined ids s s')
    (hr : Separate s.registry) {id : String} (hid : id ∉ ids) :
    JobRegistry.entry s'.registry id = JobRegistry.entry s.registry id := by
  unfold JobRegistry.entry
  rw [(h.registry.sameFor hr hid).get_eq]

section Lagging

variable {ρ : Type} [JobRegistry ρ] {ids : List String} {s s' : EngineState (Unreliable ρ)} {id : String} {k : Nat}

/-- While other queries are seen to no claim of a query is made. -/
theorem Confined.tried_eq (h : Confined ids s s') (hid : id ∉ ids) : s'.registry.tried id = s.registry.tried id := by
  refine h.registry.keeps (fun u : Unreliable ρ => u.tried id = s.registry.tried id) ?_ rfl
  intro other hother e u htried
  have hne : id ≠ other := fun he => hid (he ▸ hother)
  exact (Unreliable.tried_edit_of_ne hne u e).trans htried

/-- While other queries are seen to a link goes on lagging for a query. -/
theorem Confined.lagsFor (h : Confined ids s s') (hid : id ∉ ids) (hlags : s.registry.LagsFor id k) :
    s'.registry.LagsFor id k := by
  refine h.registry.keeps (fun u : Unreliable ρ => u.LagsFor id k) ?_ hlags
  intro other hother e u hlags
  have hne : id ≠ other := fun he => hid (he ▸ hother)
  exact hlags.edit_of_ne hne e

/-- A query was not started: every attempt was made, and its entry and its timers are as they were. -/
structure Refused (services : Services) (query : StoredQuery) (s s' : EngineState (Unreliable ρ)) : Prop where
  started : startedFor query.id s s' = []
  entry : JobRegistry.entry s'.registry query.id = JobRegistry.entry s.registry query.id
  tracked : s'.timers.trackedFor query.id = s.timers.trackedFor query.id
  handles : ∀ e ∈ s.timers.trackedFor query.id, s'.timers.handles[e.2]? = s.timers.handles[e.2]?
  tried : s'.registry.tried query.id = s.registry.tried query.id + services.retry.maxAttempts

end Lagging

end EngineState

namespace Lifecycle

section Position

variable {ρ : Type} [JobRegistry ρ] {services : Services}

/-- An embedded value whose identifier no other carries is started at some point of the run, and before and after it only others
are seen to. -/
theorem activateAll_at (mode : ClaimMode) {values : List Json} (hnodup : (values.flatMap StoredQuery.idsOf).Nodup) {value : Json}
    (hvalue : value ∈ values) {id : String} (hid : StoredQuery.idOf value = .ok id) (s : EngineState ρ) :
    ∃ (others : List String) (before : EngineState ρ), id ∉ others ∧ Adds others s before ∧
      Adds others ((activateQuery services mode value).run services before).2
        ((values.mapM (activateQuery services mode)).run services s).2 := by
  obtain ⟨earlier, later, rfl⟩ := List.append_of_mem hvalue
  rw [List.flatMap_append, List.flatMap_cons] at hnodup
  have hids : StoredQuery.idsOf value = [id] := by
    unfold StoredQuery.idsOf
    rw [hid]
    rfl
  rw [hids] at hnodup
  have hnot : id ∉ earlier.flatMap StoredQuery.idsOf ++ later.flatMap StoredQuery.idsOf := by
    obtain ⟨-, hlater, happart⟩ := List.nodup_append.1 hnodup
    intro hmem
    rcases List.mem_append.1 hmem with hbefore | hafter
    · exact happart id hbefore id List.mem_cons_self rfl
    · exact (List.nodup_cons.1 hlater).1 hafter
  refine ⟨_, ((earlier.mapM (activateQuery services mode)).run services s).2, hnot,
    (activateAll_adds mode earlier s).mono (List.subset_append_left ..), ?_⟩
  rw [Program.run_mapM_append, Program.run_mapM_cons]
  exact (activateAll_adds mode later _).mono (List.subset_append_right ..)

/-- To stop embedded values makes no claim, and leaves a link that lags as it is. -/
theorem cancelAll_lags {s : EngineState (Unreliable ρ)} {id : String} {k : Nat} (h : s.registry.LagsFor id k)
    (values : List Json) :
    ((values.mapM cancelQuery).run services s).2.registry.LagsFor id k ∧
      ((values.mapM cancelQuery).run services s).2.registry.tried id = s.registry.tried id := by
  refine Program.run_mapM_related services
    (fun s s' : EngineState (Unreliable ρ) => s.registry.LagsFor id k →
      s'.registry.LagsFor id k ∧ s'.registry.tried id = s.registry.tried id)
    (fun _ h => ⟨h, rfl⟩) (fun h h' hlags => ⟨(h' (h hlags).1).1, (h' (h hlags).1).2.trans (h hlags).2⟩)
    (fun value _ s hlags => ?_) s h
  unfold cancelQuery
  cases StoredQuery.idOf value with
  | error e => exact ⟨hlags, rfl⟩
  | ok other =>
    simp only [Activation.cancel_run_eq]
    split
    · exact hlags.remove other
    · exact hlags.remove other

end Position

section Reports

/-- What keeps a query from being started again, if anything does, over a link that lags, by whether the query is free. -/
def hindrance (services : Services) (k : Nat) (free : Bool) (query : StoredQuery) : List (Outcome Unit) :=
  if (Activation.enabled (Activation.checked query)).isEmpty then []
  else
    match services.runner.validate query.expression with
    | .error e => [.error e.failure]
    | .ok () =>
      if free && decide (k < services.retry.maxAttempts) then []
      else [.error ⟨RetryPolicy.exhausted services.retry.maxAttempts Activation.alreadyScheduled⟩]

/-- What is reported of starting an embedded value again: why it is no query, or which of its schedules are not valid and what kept
the query from being started. -/
def restarted (services : Services) (k : Nat) (free : String → Bool) (value : Json) : Outcome Unit :=
  match StoredQuery.ofJson value with
  | .error e => .error e.failure
  | .ok query =>
    Outcome.prepend (scheduling query.id)
      (Outcome.all ((Activation.checked query).map Outcome.discard ++ hindrance services k (free query.id) query))

/-- Only whether its own query is free matters to what is reported of a value. -/
theorem restarted_congr (services : Services) (k : Nat) {free free' : String → Bool} {value : Json}
    (h : ∀ id ∈ StoredQuery.idsOf value, free id = free' id) :
    restarted services k free value = restarted services k free' value := by
  unfold restarted
  cases hread : StoredQuery.ofJson value with
  | error e => rfl
  | ok query =>
    have hid := StoredQuery.mem_idsOf.2 (StoredQuery.idOf_of_ofJson hread)
    simp only [h query.id hid]

/-- A query that could be started but is not free is reported as scheduled already, after every attempt. -/
theorem restarted_of_held {services : Services} {k : Nat} {free : String → Bool} {value : Json} {query : StoredQuery}
    (hread : StoredQuery.ofJson value = .ok query) (hstartable : Activation.Startable services query)
    (hheld : free query.id = false) :
    restarted services k free value = .error ⟨
      "There was a problem attempting to schedule a job for a query metacard \"" ++ query.id ++ "\": " ++
        "\n".intercalate (Outcome.messages (Activation.checked query) ++
          ["The operation did not succeed after " ++ Text.decimal services.retry.maxAttempts ++ " attempts: " ++
            "This query cannot be scheduled because a job is already scheduled for it!"])⟩ := by
  have hmessages : Outcome.messages ((Activation.checked query).map Outcome.discard ++
      [.error ⟨RetryPolicy.exhausted services.retry.maxAttempts Activation.alreadyScheduled⟩]) =
        Outcome.messages (Activation.checked query) ++
          [RetryPolicy.exhausted services.retry.maxAttempts Activation.alreadyScheduled] := by
    rw [Outcome.messages_append, Outcome.messages_map_discard]
    rfl
  have hnot : Outcome.all ((Activation.checked query).map Outcome.discard ++
      [.error ⟨RetryPolicy.exhausted services.retry.maxAttempts Activation.alreadyScheduled⟩]) ≠ .ok () := by
    rw [ne_eq, Outcome.all_eq_ok_iff_messages, hmessages]
    exact List.append_ne_nil_of_right_ne_nil _ (List.cons_ne_nil _ _)
  unfold restarted
  rw [hread]
  simp only [hindrance, hheld, hstartable.valid, List.isEmpty_eq_false_iff.2 hstartable.enabled, Bool.false_and,
    Bool.false_eq_true, if_false]
  rw [Outcome.all_eq_fail hnot, hmessages]
  rfl

variable {ρ : Type} [JobRegistry ρ] [FaultFree ρ] {services : Services} {s : EngineState (Unreliable ρ)} {k : Nat}

/-- Whether there is no entry for a query. -/
def isFree (s : EngineState (Unreliable ρ)) (id : String) : Bool := (entry s.registry id).isNone

/-- To start an embedded value again is reported as expected. -/
theorem activateQuery_report (hattempts : 1 ≤ services.retry.maxAttempts)
    (haccepts : ∀ n, s.scheduleCalls ≤ n → services.admits n = .ok ()) {value : Json}
    (hlags : ∀ id ∈ StoredQuery.idsOf value, s.registry.LagsFor id k) :
    ((activateQuery services .retrying value).run services s).1 = restarted services k (isFree s) value := by
  unfold activateQuery restarted
  cases hread : StoredQuery.ofJson value with
  | error e => rfl
  | ok query =>
    have hlag := hlags query.id (StoredQuery.mem_idsOf.2 (StoredQuery.idOf_of_ofJson hread))
    simp only
    rw [Program.run_bind]
    refine congrArg (Outcome.prepend (scheduling query.id)) ?_
    unfold hindrance
    by_cases hnone : Activation.enabled (Activation.checked query) = []
    · rw [Activation.activate_run_eq, hnone]
      simp
    · rw [if_neg (by simpa using hnone)]
      cases hvalid : services.runner.validate query.expression with
      | error e =>
        rw [Activation.activate_run_eq, if_neg (by simpa using hnone), hvalid]
      | ok _ =>
        have hstartable : Activation.Startable services query := ⟨hnone, hvalid⟩
        by_cases hfree : entry s.registry query.id = none ∧ k < services.retry.maxAttempts
        · rw [(Activation.activate_run_of_free hstartable haccepts hlag hfree.1 hfree.2).1]
          simp [isFree, hfree]
        · rw [(Activation.activate_run_of_conflict hstartable hattempts hlag hfree).1]
          have hnot : (isFree s query.id && decide (k < services.retry.maxAttempts)) = false := by
            rw [Bool.eq_false_iff]
            simpa [isFree] using hfree
          simp [hnot]

/-- To start embedded values again is reported value by value, if no two carry one identifier. -/
theorem activateAll_reports (hattempts : 1 ≤ services.retry.maxAttempts)
    (haccepts : ∀ n, s.scheduleCalls ≤ n → services.admits n = .ok ()) {values : List Json}
    (hnodup : (values.flatMap StoredQuery.idsOf).Nodup) (hr : Separate s.registry)
    (hlags : ∀ id ∈ values.flatMap StoredQuery.idsOf, s.registry.LagsFor id k) :
    ((values.mapM (activateQuery services .retrying)).run services s).1 = values.map (restarted services k (isFree s)) := by
  induction values generalizing s with
  | nil => rfl
  | cons value rest ih =>
    rw [List.flatMap_cons] at hnodup hlags
    obtain ⟨-, hrest, hapart⟩ := List.nodup_append.1 hnodup
    have hfirst := activateQuery_adds services .retrying value s
    have hother (id : String) (hid : id ∈ rest.flatMap StoredQuery.idsOf) : id ∉ StoredQuery.idsOf value :=
      fun hvalue => hapart id hvalue id hid rfl
    have hlater (id : String) (hid : id ∈ rest.flatMap StoredQuery.idsOf) :=
      hfirst.toConfined.lagsFor (hother id hid) (hlags id (List.mem_append_right _ hid))
    rw [Program.run_mapM_cons, List.map_cons]
    refine List.cons_eq_cons.2 ⟨activateQuery_report hattempts haccepts fun id hid => hlags id (List.mem_append_left _ hid), ?_⟩
    rw [ih (fun n hn => haccepts n (hfirst.calls.trans hn)) hrest (hfirst.registry.separate hr) hlater]
    refine List.map_congr_left fun other hmem => restarted_congr services k fun id hid => ?_
    unfold isFree
    rw [hfirst.toConfined.entry_eq hr (hother id (List.mem_flatMap.2 ⟨other, hmem, hid⟩))]

end Reports

/-- To start a value that is a query is to activate the query. -/
theorem activateQuery_run_of_query {ρ : Type} [JobRegistry ρ] {services : Services} {value : Json} {query : StoredQuery}
    (hread : StoredQuery.ofJson value = .ok query) (mode : ClaimMode) (s : EngineState ρ) :
    ((activateQuery services mode value).run services s).2 = ((Activation.activate services mode query).run services s).2 := by
  unfold activateQuery
  rw [hread]
  simp only
  rw [Program.run_bind]
  rfl

/-- A value that holds no query that can be started changes nothing. -/
theorem activateQuery_idle {ρ : Type} [JobRegistry ρ] {services : Services} {value : Json}
    (h : ∀ query, StoredQuery.ofJson value = .ok query → ¬Activation.Startable services query) (mode : ClaimMode)
    (s : EngineState ρ) : ((activateQuery services mode value).run services s).2 = s := by
  cases hread : StoredQuery.ofJson value with
  | error e =>
    unfold activateQuery
    rw [hread]
    rfl
  | ok query =>
    rw [activateQuery_run_of_query hread, Activation.activate_run_eq]
    by_cases hnone : Activation.enabled (Activation.checked query) = []
    · rw [if_pos (by simp [hnone])]
    · rw [if_neg (by simpa using hnone)]
      cases hvalid : services.runner.validate query.expression with
      | error e => rfl
      | ok _ => exact absurd ⟨hnone, hvalid⟩ (h query hread)

section Update

variable {ρ : Type} [JobRegistry ρ]

/-- An update stage by stage: the old record is stopped and the new one started. -/
theorem onUpdate_run (services : Services) (update : RecordUpdate) (s : EngineState ρ) :
    (onUpdate services [update]).run services s =
      let stopping := (update.old.embedded.mapM cancelQuery).run services s
      let starting := (update.new.embedded.mapM (activateQuery services .retrying)).run services stopping.2
      (Outcome.all [Outcome.all [reportOf update.old stopping.1, reportOf update.new starting.1]], starting.2) := by
  unfold onUpdate
  rw [Program.run_forEach, Program.run_mapM_cons, updateRecord_run]
  rfl

variable [FaultFree ρ]

/-- Whether a query is free once the old record of an update was stopped. -/
def isFreed (update : RecordUpdate) (s : EngineState (Unreliable ρ)) (id : String) : Bool :=
  isFree s id || update.old.queryIds.contains id

/-- What an update comes to, over a link that lags by so many claims. -/
structure Updated (services : Services) (k : Nat) (update : RecordUpdate) (s : EngineState (Unreliable ρ))
    (result : Outcome Unit × EngineState (Unreliable ρ)) : Prop where
  /-- Every timer that was tracked for a query of the old record is cancelled and forgotten. -/
  cancelled : ∀ id ∈ update.old.queryIds, ∀ e ∈ s.timers.trackedFor id,
    result.2.timers.Cancelled e.2 ∧ ∀ other token, (token, e.2) ∉ result.2.timers.trackedFor other
  /-- The entry that such a query had is gone: there is none, or one with a marker drawn since. -/
  gone : ∀ id ∈ update.old.queryIds, entry result.2.registry id = none ∨
    ∃ n, s.drawn ≤ n ∧ n < result.2.drawn ∧ entry result.2.registry id = some (services.draw n)
  /-- Of the queries of the new record that can be started those become active that are free, if the link catches up in time. -/
  active : ∀ value ∈ update.new.embedded, ∀ query, StoredQuery.ofJson value = .ok query → Activation.Startable services query →
    (Activated services query s result.2 ↔ isFreed update s query.id = true ∧ k < services.retry.maxAttempts)
  /-- One that another record holds keeps its entry and its timers, after every attempt was made. -/
  kept : ∀ value ∈ update.new.embedded, ∀ query, StoredQuery.ofJson value = .ok query → Activation.Startable services query →
    isFreed update s query.id = false → Refused services query s result.2
  /-- And it is reported as scheduled already, after that many attempts, below its schedules that are not valid. -/
  reported : ∀ value ∈ update.new.embedded, ∀ query, StoredQuery.ofJson value = .ok query → Activation.Startable services query →
    isFreed update s query.id = false →
      restarted services k (isFreed update s) value = .error ⟨
        "There was a problem attempting to schedule a job for a query metacard \"" ++ query.id ++ "\": " ++
          "\n".intercalate (Outcome.messages (Activation.checked query) ++
            ["The operation did not succeed after " ++ Text.decimal services.retry.maxAttempts ++ " attempts: " ++
              "This query cannot be scheduled because a job is already scheduled for it!"])⟩
  /-- Everything that went wrong is reported, and nothing else: of the old record, and then of the new one. -/
  reports : result.1 = Outcome.all [Outcome.all [reportOf update.old (update.old.embedded.map stopped),
    reportOf update.new (update.new.embedded.map (restarted services k (isFreed update s)))]]

/-- What it leaves to stop the old record of an update. -/
structure Freed (update : RecordUpdate) (k : Nat) (s s' : EngineState (Unreliable ρ)) : Prop
    extends Confined update.old.queryIds s s' where
  lags : ∀ id, s'.registry.LagsFor id k
  tried : ∀ id, s'.registry.tried id = s.registry.tried id
  entry : ∀ id, entry s'.registry id = if id ∈ update.old.queryIds then none else entry s.registry id
  gone : ∀ id ∈ update.old.queryIds, s'.Gone id
  cancelled : ∀ id ∈ update.old.queryIds, ∀ e ∈ s.timers.trackedFor id, e.2 < s.timers.handles.length → s'.timers.Cancelled e.2
  same : s'.jobs = s.jobs

/-- Over a link that lags the queries of the old record are all gone once it was stopped. -/
theorem freed_of_stopping (services : Services) (update : RecordUpdate) {s : EngineState (Unreliable ρ)} {k : Nat}
    (hlags : ∀ id, s.registry.LagsFor id k) :
    ((update.old.embedded.mapM cancelQuery).run services s).1 = update.old.embedded.map stopped ∧
      Freed update k s ((update.old.embedded.mapM cancelQuery).run services s).2 := by
  have hr : Separate s.registry :=
    Unreliable.separate (Unreliable.localFrom_of_lags hlags) (separate_of_faultFree s.registry.registry)
  have hc : Clears s.registry := Unreliable.clears (hlags "").refuses (clears_of_faultFree s.registry.registry)
  obtain ⟨hreport, hgone, hcancelled⟩ := cancelAll_run services hr hc update.old.embedded
  have hconfined : Confined update.old.queryIds s ((update.old.embedded.mapM cancelQuery).run services s).2 :=
    cancelAll_confined ..
  refine ⟨hreport, hconfined, fun id => (cancelAll_lags (hlags id) _).1, fun id => (cancelAll_lags (hlags id) _).2,
    fun id => ?_, fun id hid => hgone id (Or.inr hid), hcancelled, cancelAll_jobs ..⟩
  unfold JobRegistry.entry
  by_cases hid : id ∈ update.old.queryIds
  · rw [if_pos hid, (hgone id (Or.inr hid)).entry]
    rfl
  · rw [if_neg hid, ← (hconfined.registry.sameFor hr hid).get_eq]

end Update

section Restart

variable {ρ : Type} [JobRegistry ρ] [FaultFree ρ] {services : Services} {values : List Json} {s : EngineState (Unreliable ρ)}
  {k : Nat} {value : Json} {query : StoredQuery}

/-- A query that is free becomes active among others, if the link catches up within the attempts. -/
theorem activateAll_of_free (hnodup : (values.flatMap StoredQuery.idsOf).Nodup) (hvalue : value ∈ values)
    (hread : StoredQuery.ofJson value = .ok query) (hstartable : Activation.Startable services query)
    (haccepts : ∀ n, s.scheduleCalls ≤ n → services.admits n = .ok ()) (hr : Separate s.registry)
    (hlags : s.registry.LagsFor query.id k) (hfree : entry s.registry query.id = none) (hk : k < services.retry.maxAttempts) :
    Activated services query s ((values.mapM (activateQuery services .retrying)).run services s).2 := by
  obtain ⟨others, before, hid, hbefore, hafter⟩ :=
    activateAll_at .retrying hnodup hvalue (StoredQuery.idOf_of_ofJson hread) s
  generalize ((values.mapM (activateQuery services .retrying)).run services s).2 = after at hafter
  have hadds := activateQuery_adds services .retrying value before
  have hbeforeFree : entry before.registry query.id = none := (hbefore.toConfined.entry_eq hr hid).trans hfree
  obtain ⟨-, hentry, hdrawn, hjobs⟩ := Activation.activate_run_of_free hstartable
    (fun n hn => haccepts n (hbefore.calls.trans hn)) (hbefore.toConfined.lagsFor hid hlags) hbeforeFree hk
  rw [activateQuery_run_of_query hread] at hafter hadds
  generalize ((Activation.activate services .retrying query).run services before).2 = done at *
  have hstarted : startedFor query.id s after = jobsFor query (services.draw before.drawn).token before.timers.handles.length
      (Activation.enabled (Activation.checked query)) := by
    rw [startedFor_between hbefore.toConfined hadds.toConfined hafter.toConfined hid, startedFor, hjobs]
    refine List.filter_eq_self.2 fun j hj => ?_
    rw [(mem_jobsFor hj).1]
    exact beq_self_eq_true _
  refine ⟨⟨before.drawn, hbefore.drawn, hdrawn.trans_le hafter.drawn, ?_, ?_⟩, fun j hj => ?_⟩
  · rw [hafter.toConfined.entry_eq (hadds.registry.separate (hbefore.registry.separate hr)) hid, hentry]
  · rw [hstarted, map_job_jobsFor]
  · rw [hstarted, ← hjobs] at hj
    exact hafter.goOn j (hadds.runs j hj)

/-- A query that is not free, or that the link does not catch up with, is left as it is among others, once every attempt was
made. -/
theorem activateAll_of_conflict (hnodup : (values.flatMap StoredQuery.idsOf).Nodup) (hvalue : value ∈ values)
    (hread : StoredQuery.ofJson value = .ok query) (hstartable : Activation.Startable services query)
    (hattempts : 1 ≤ services.retry.maxAttempts) (hr : Separate s.registry) (hs : s.timers.Sound)
    (hlags : s.registry.LagsFor query.id k)
    (hconflict : ¬(entry s.registry query.id = none ∧ k < services.retry.maxAttempts)) :
    Refused services query s ((values.mapM (activateQuery services .retrying)).run services s).2 := by
  obtain ⟨others, before, hid, hbefore, hafter⟩ :=
    activateAll_at .retrying hnodup hvalue (StoredQuery.idOf_of_ofJson hread) s
  generalize ((values.mapM (activateQuery services .retrying)).run services s).2 = after at hafter
  have hadds := activateQuery_adds services .retrying value before
  have hentry := hbefore.toConfined.entry_eq hr hid
  obtain ⟨-, hentry', htried, htimers, hjobs⟩ := Activation.activate_run_of_conflict hstartable hattempts
    (hbefore.toConfined.lagsFor hid hlags) fun hboth => hconflict ⟨hentry.symm.trans hboth.1, hboth.2⟩
  rw [activateQuery_run_of_query hread] at hafter hadds
  generalize ((Activation.activate services .retrying query).run services before).2 = done at *
  have htracked : before.timers.trackedFor query.id = s.timers.trackedFor query.id := hbefore.timers.trackedFor_eq hid
  refine ⟨?_, ?_, ?_, fun e he => ?_, ?_⟩
  · rw [startedFor_between hbefore.toConfined hadds.toConfined hafter.toConfined hid, startedFor_of_jobs_eq hjobs]
  · rw [hafter.toConfined.entry_eq (hadds.registry.separate (hbefore.registry.separate hr)) hid, hentry', hentry]
  · rw [hafter.timers.trackedFor_eq hid, htimers, htracked]
  · have hbeforeSound := hbefore.timers.sound hs
    have hlast : after.timers.handles[e.2]? = done.timers.handles[e.2]? :=
      hafter.timers.handle_eq (htimers ▸ hbeforeSound) hid (by rw [htimers, htracked]; exact he)
    rw [hlast, htimers]
    exact hbefore.timers.handle_eq hs hid he
  · rw [hafter.toConfined.tried_eq hid, htried, hbefore.toConfined.tried_eq hid]

omit [FaultFree ρ] in
/-- The entry of a value that holds no query that can be started stays as it is among others. -/
theorem activateAll_of_idle (hnodup : (values.flatMap StoredQuery.idsOf).Nodup) (hvalue : value ∈ values) {id : String}
    (hid : StoredQuery.idOf value = .ok id)
    (hidle : ∀ query, StoredQuery.ofJson value = .ok query → ¬Activation.Startable services query) (hr : Separate s.registry) :
    entry ((values.mapM (activateQuery services .retrying)).run services s).2.registry id = entry s.registry id := by
  obtain ⟨others, before, hnot, hbefore, hafter⟩ := activateAll_at .retrying hnodup hvalue hid s
  rw [activateQuery_idle hidle] at hafter
  rw [hafter.toConfined.entry_eq (hbefore.registry.separate hr) hnot, hbefore.toConfined.entry_eq hr hnot]

/-- What it comes to to start embedded values again, over a link that lags by so many claims. -/
structure Restarted (services : Services) (k : Nat) (values : List Json) (s : EngineState (Unreliable ρ))
    (result : List (Outcome Unit) × EngineState (Unreliable ρ)) : Prop
    extends Confined (values.flatMap StoredQuery.idsOf) s result.2 where
  reports : result.1 = values.map (restarted services k (isFree s))
  activated : ∀ value ∈ values, ∀ query, StoredQuery.ofJson value = .ok query → Activation.Startable services query →
    isFree s query.id = true ∧ k < services.retry.maxAttempts → Activated services query s result.2
  refused : ∀ value ∈ values, ∀ query, StoredQuery.ofJson value = .ok query → Activation.Startable services query →
    ¬(isFree s query.id = true ∧ k < services.retry.maxAttempts) → Refused services query s result.2
  idle : ∀ value ∈ values, ∀ id, StoredQuery.idOf value = .ok id →
    (∀ query, StoredQuery.ofJson value = .ok query → ¬Activation.Startable services query) →
    entry result.2.registry id = entry s.registry id

theorem restarted_of_starting (hattempts : 1 ≤ services.retry.maxAttempts)
    (haccepts : ∀ n, s.scheduleCalls ≤ n → services.admits n = .ok ()) (hnodup : (values.flatMap StoredQuery.idsOf).Nodup)
    (hr : Separate s.registry) (hs : s.timers.Sound) (hlags : ∀ id, s.registry.LagsFor id k) :
    Restarted services k values s ((values.mapM (activateQuery services .retrying)).run services s) where
  toConfined := (activateAll_adds .retrying values s).toConfined
  reports := activateAll_reports hattempts haccepts hnodup hr fun id _ => hlags id
  activated _ hvalue query hread hstartable hfree :=
    activateAll_of_free hnodup hvalue hread hstartable haccepts hr (hlags query.id) (Option.isNone_iff_eq_none.1 hfree.1) hfree.2
  refused _ hvalue query hread hstartable hnot :=
    activateAll_of_conflict hnodup hvalue hread hstartable hattempts hr hs (hlags query.id)
      fun hboth => hnot ⟨Option.isNone_iff_eq_none.2 hboth.1, hboth.2⟩
  idle _ hvalue _ hid hidle := activateAll_of_idle hnodup hvalue hid hidle hr

omit [FaultFree ρ] in
/-- A query that had no entry has none afterwards, or one with a marker drawn since. -/
theorem Restarted.entry_of_free {result : List (Outcome Unit) × EngineState (Unreliable ρ)}
    (h : Restarted services k values s result) (hr : Separate s.registry) {id : String} (hfree : entry s.registry id = none) :
    entry result.2.registry id = none ∨
      ∃ n, s.drawn ≤ n ∧ n < result.2.drawn ∧ entry result.2.registry id = some (services.draw n) := by
  by_cases hmem : id ∈ values.flatMap StoredQuery.idsOf
  · obtain ⟨value, hvalue, hid⟩ := List.mem_flatMap.1 hmem
    rw [StoredQuery.mem_idsOf] at hid
    by_cases hstartable : ∃ query, StoredQuery.ofJson value = .ok query ∧ Activation.Startable services query
    · obtain ⟨query, hread, hstartable⟩ := hstartable
      obtain rfl : id = query.id := Except.ok.inj (hid.symm.trans (StoredQuery.idOf_of_ofJson hread))
      by_cases hcaught : isFree s query.id = true ∧ k < services.retry.maxAttempts
      · obtain ⟨n, hge, hlt, hentry, -⟩ := (h.activated value hvalue query hread hstartable hcaught).fresh
        exact Or.inr ⟨n, hge, hlt, hentry⟩
      · exact Or.inl ((h.refused value hvalue query hread hstartable hcaught).entry.trans hfree)
    · exact Or.inl ((h.idle value hvalue id hid fun query hread hs => hstartable ⟨query, hread, hs⟩).trans hfree)
  · exact Or.inl ((h.toConfined.entry_eq hr hmem).trans hfree)

end Restart

namespace Freed

variable {ρ : Type} [JobRegistry ρ] {services : Services} {update : RecordUpdate} {k : Nat}
  {s freed after : EngineState (Unreliable ρ)} {ids : List String}

theorem separate [FaultFree ρ] (h : Freed update k s freed) : Separate freed.registry :=
  Unreliable.separate (Unreliable.localFrom_of_lags h.lags) (separate_of_faultFree freed.registry.registry)

theorem isFree_eq (h : Freed update k s freed) : isFree freed = isFreed update s := by
  funext id
  unfold isFreed isFree
  rw [h.entry]
  by_cases hid : id ∈ update.old.queryIds <;> simp [hid]

/-- All jobs for a query were started after the old record was stopped. -/
theorem startedFor_eq (h : Freed update k s freed) (hlater : Confined ids freed after) (id : String) :
    startedFor id s after = startedFor id freed after := by
  rw [h.toConfined.startedFor_trans hlater, startedFor_of_jobs_eq h.same, List.nil_append]

/-- What became active after the old record was stopped became active in the update. -/
theorem activated (h : Freed update k s freed) (hlater : Confined ids freed after) {query : StoredQuery}
    (hactive : Activated services query freed after) : Activated services query s after := by
  have hstarted := h.startedFor_eq hlater query.id
  obtain ⟨n, hge, hlt, hentry, hjobs⟩ := hactive.fresh
  exact ⟨⟨n, h.drawn.trans hge, hlt, hentry, by rw [hstarted, hjobs]⟩, fun j hj => hactive.runs j (hstarted ▸ hj)⟩

/-- The timers of the old record stay cancelled and forgotten, whatever is started afterwards. -/
theorem cancelled_after (h : Freed update k s freed) (hs : s.timers.Sound) (hlater : Confined ids freed after) {id : String}
    (hid : id ∈ update.old.queryIds) {e : Uuid × Nat} (he : e ∈ s.timers.trackedFor id) :
    after.timers.Cancelled e.2 ∧ ∀ other token, (token, e.2) ∉ after.timers.trackedFor other := by
  have hlt := hs.started he
  refine ⟨hlater.timers.cancelled (h.cancelled id hid e he hlt), fun other token hm => ?_⟩
  rcases hlater.timers.old hm with hfreed | hnew
  · rcases h.timers.old hfreed with hold | hnew
    · have hother : other = id := hs.single he hold
      rw [hother, (h.gone id hid).timers.trackedFor_eq] at hfreed
      cases hfreed
    · exact absurd hlt (Nat.not_lt.2 hnew)
  · exact absurd hlt (Nat.not_lt.2 (h.timers.grown.trans hnew))

/-- A query of another record that was not started after the old record was stopped was not started in the update. -/
theorem refused (h : Freed update k s freed) (hs : s.timers.Sound) (hlater : Confined ids freed after) {query : StoredQuery}
    (hid : query.id ∉ update.old.queryIds) (hrefused : Refused services query freed after) : Refused services query s after where
  started := (h.startedFor_eq hlater query.id).trans hrefused.started
  entry := by rw [hrefused.entry, h.entry, if_neg hid]
  tracked := hrefused.tracked.trans (h.timers.trackedFor_eq hid)
  handles e he := (hrefused.handles e (by rw [h.timers.trackedFor_eq hid]; exact he)).trans (h.timers.handle_eq hs hid he)
  tried := by rw [hrefused.tried, h.tried]

end Freed

/-- Whatever the records embed and whatever was there before, as long as the new record embeds no identifier twice, the scheduler
accepts every timer and the registry has no faults: an update over a link that lags comes to what it is meant to. -/
theorem onUpdate_updates {ρ : Type} [JobRegistry ρ] [FaultFree ρ] (services : Services) (update : RecordUpdate)
    (s : EngineState (Unreliable ρ)) (k : Nat) (hattempts : 1 ≤ services.retry.maxAttempts)
    (haccepts : ∀ n, s.scheduleCalls ≤ n → services.admits n = .ok ()) (hnodup : update.new.queryIds.Nodup)
    (hlags : ∀ id, s.registry.LagsFor id k) (hs : s.timers.Sound) :
    Updated services k update s ((onUpdate services [update]).run services s) := by
  obtain ⟨hstopped, hfreed⟩ := freed_of_stopping services update hlags
  rw [onUpdate_run]
  simp only [hstopped]
  generalize ((update.old.embedded.mapM cancelQuery).run services s).2 = freed at hfreed
  have hsound : freed.timers.Sound := hfreed.timers.sound hs
  have hrestarted := restarted_of_starting hattempts (fun n hn => haccepts n (hfreed.calls.trans hn)) hnodup hfreed.separate hsound
    hfreed.lags
  generalize (update.new.embedded.mapM (activateQuery services .retrying)).run services freed = starting at hrestarted
  have hlater := hrestarted.toConfined
  refine ⟨fun id hid e he => hfreed.cancelled_after hs hlater hid he, fun id hid => ?_, fun value hvalue query hread hstartable => ?_,
    fun value hvalue query hread hstartable hnot => ?_, fun value _ query hread hstartable hnot => ?_, ?_⟩
  · have hnone : entry freed.registry id = none := by rw [hfreed.entry, if_pos hid]
    rcases hrestarted.entry_of_free hfreed.separate hnone with hgone | ⟨n, hge, hlt, hentry⟩
    · exact Or.inl hgone
    · exact Or.inr ⟨n, hfreed.drawn.trans hge, hlt, hentry⟩
  · rw [← hfreed.isFree_eq]
    constructor
    · intro hactive
      by_contra hnot
      have hnone := hfreed.startedFor_eq hlater query.id
      rw [(hrestarted.refused value hvalue query hread hstartable hnot).started] at hnone
      obtain ⟨n, -, -, -, hjobs⟩ := hactive.fresh
      rw [hnone, List.map_nil] at hjobs
      exact hstartable.enabled (List.map_eq_nil_iff.1 hjobs.symm)
    · intro hfree
      exact hfreed.activated hlater (hrestarted.activated value hvalue query hread hstartable hfree)
  · have hheld : ¬(isFree freed query.id = true ∧ k < services.retry.maxAttempts) := by
      rw [hfreed.isFree_eq, hnot]
      simp
    have hid : query.id ∉ update.old.queryIds := by
      intro hmem
      simp [isFreed, hmem] at hnot
    exact hfreed.refused hs hlater hid (hrestarted.refused value hvalue query hread hstartable hheld)
  · exact restarted_of_held hread hstartable hnot
  · rw [hrestarted.reports, hfreed.isFree_eq]

namespace Sample

/-- An engine on which the two queries of a workspace run, over a link that lags by two claims of each. -/
def lagging : EngineState (Unreliable MemoryRegistry) :=
  behind (running ["q", "o"]) (fun _ => false) fun claims id => decide (claims.countP (fun c => c.queryId == id) < 2)

/-- An update of a record that embedded one of the two queries, and embeds both now. -/
def both : RecordUpdate := ⟨workspace "second" [daily "q"], workspace "second" [daily "q", daily "o"]⟩

end Sample

open Sample in
/-- The query of the old record is started again at its third claim; the other one is claimed four times and keeps its timer. -/
theorem onUpdate_updates_both :
    let result := (onUpdate (Cluster.Sample.services false) [both]).run (Cluster.Sample.services false) lagging
    (1 ≤ (Cluster.Sample.services false).retry.maxAttempts ∧
        (∀ n, lagging.scheduleCalls ≤ n → (Cluster.Sample.services false).admits n = .ok ()) ∧ both.new.queryIds.Nodup ∧
        (∀ id, lagging.registry.LagsFor id 2) ∧ lagging.timers.Sound) ∧
      Updated (Cluster.Sample.services false) 2 both lagging result ∧
      result.2.timers.handles = [⟨false, true⟩, ⟨false, false⟩, ⟨false, false⟩] ∧
      result.2.registry.tried "q" = 3 ∧ result.2.registry.tried "o" = 4 := by
  intro result
  have hattempts : 1 ≤ (Cluster.Sample.services false).retry.maxAttempts := by decide
  have haccepts (n : Nat) (_ : lagging.scheduleCalls ≤ n) : (Cluster.Sample.services false).admits n = .ok () := rfl
  have hnodup : both.new.queryIds.Nodup := by decide +kernel
  have hlags (id : String) : lagging.registry.LagsFor id 2 := ⟨fun _ => rfl, fun _ => rfl⟩
  exact ⟨⟨hattempts, haccepts, hnodup, hlags, sound_running ["q", "o"]⟩,
    onUpdate_updates _ both lagging 2 hattempts haccepts hnodup hlags (sound_running ["q", "o"]), by decide +kernel, by decide +kernel,
    by decide +kernel⟩

end Lifecycle

end StandingQuery
