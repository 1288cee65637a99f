import StandingQuery.Proofs.FaultFree
import StandingQuery.Proofs.Handles
import StandingQuery.Proofs.Operations
import StandingQuery.Proofs.Reports

/-!
# Activations that run alone

What each stage of an activation leaves when nobody else uses the engine meanwhile: a claim that fails leaves everything that
others can see (`Activation.claim_run`), and of the timers asked for those are started that the services admit
(`Activation.startTimers_run`). Which ones that are is said by `Services.admitted`, and what is reported of the others by
`Services.refusals`.
-/

namespace StandingQuery

namespace Services

variable (services : Services)

/-- The schedules whose timers are started, when so many were asked for before. -/
def admitted (calls : Nat) (schedules : List Schedule) : List Schedule :=
  (schedules.zipIdx calls).filterMap fun (schedule, n) =>
    match services.admits n with
    | .ok () => some schedule
    | .error _ => none

/-- Why timers are not started, when so many were asked for before. -/
def refusals (calls : Nat) (schedules : List Schedule) : List Failure :=
  (schedules.zipIdx calls).filterMap fun (_, n) =>
    match services.admits n with
    | .ok () => none
    | .error e => some e.failure

/-- What is answered to each schedule, when so many timers were asked for before and the next handle is this one. -/
def answers : Nat → Nat → List Schedule → List (Outcome Nat)
  | _, _, [] => []
  | calls, handle, _ :: rest =>
    match services.admits calls with
    | .ok () => .ok handle :: answers (calls + 1) (handle + 1) rest
    | .error e => .error e.failure :: answers (calls + 1) handle rest

/-- A schedule for which a timer is started, and then the others. -/
theorem admitted_cons_ok {calls : Nat} (h : services.admits calls = .ok ()) (schedule : Schedule) (rest : List Schedule) :
    services.admitted calls (schedule :: rest) = schedule :: services.admitted (calls + 1) rest ∧
      services.refusals calls (schedule :: rest) = services.refusals (calls + 1) rest := by
  unfold admitted refusals
  rw [List.zipIdx_cons]
  constructor
  · rw [List.filterMap_cons]
    simp only [h]
  · rw [List.filterMap_cons]
    simp only [h]

/-- A schedule for which no timer is started, and then the others. -/
theorem admitted_cons_error {calls : Nat} {e : SchedulerError} (h : services.admits calls = .error e) (schedule : Schedule)
    (rest : List Schedule) :
    services.admitted calls (schedule :: rest) = services.admitted (calls + 1) rest ∧
      services.refusals calls (schedule :: rest) = e.failure :: services.refusals (calls + 1) rest := by
  unfold admitted refusals
  rw [List.zipIdx_cons]
  constructor
  · rw [List.filterMap_cons]
    simp only [h]
  · rw [List.filterMap_cons]
    simp only [h]

/-- The handles answered are those of the timers started, one after the other. -/
theorem answers_handles (calls handle : Nat) (schedules : List Schedule) :
    (services.answers calls handle schedules).filterMap Except.toOption =
      List.range' handle (services.admitted calls schedules).length := by
  induction schedules generalizing calls handle with
  | nil => rfl
  | cons schedule rest ih =>
    unfold answers
    cases hadmits : services.admits calls with
    | ok _ =>
      rw [(services.admitted_cons_ok hadmits schedule rest).1, List.length_cons, List.range'_succ]
      exact congrArg (handle :: ·) (ih (calls + 1) (handle + 1))
    | error e =>
      rw [(services.admitted_cons_error hadmits schedule rest).1]
      exact ih (calls + 1) handle

/-- The failures answered are the refusals, in order. -/
theorem answers_messages (calls handle : Nat) (schedules : List Schedule) :
    Outcome.messages ((services.answers calls handle schedules).map Outcome.discard) =
      (services.refusals calls schedules).map Failure.message := by
  induction schedules generalizing calls handle with
  | nil => rfl
  | cons schedule rest ih =>
    unfold answers
    cases hadmits : services.admits calls with
    | ok _ =>
      rw [(services.admitted_cons_ok hadmits schedule rest).2]
      exact ih (calls + 1) (handle + 1)
    | error e =>
      rw [(services.admitted_cons_error hadmits schedule rest).2]
      exact congrArg (e.failure.message :: ·) (ih (calls + 1) handle)

end Services

namespace EngineState

variable {ρ : Type}

/-- The jobs of the timers started for some schedules, where the next handle is this one. -/
def jobsFor (query : StoredQuery) (token : Uuid) (handle : Nat) (schedules : List Schedule) : List StartedJob :=
  (schedules.zipIdx handle).map fun (schedule, n) =>
    ⟨(Job.start query token schedule).recurrence, n, .start query token schedule⟩

/-- The engine once timers were asked for all the schedules of an activation, as far as they are admitted. -/
def starting (services : Services) (query : StoredQuery) (token : Uuid) (schedules : List Schedule) (s : EngineState ρ) :
    EngineState ρ :=
  { s with
    scheduleCalls := s.scheduleCalls + schedules.length
    timers := { s.timers with
      handles := s.timers.handles ++ List.replicate (services.admitted s.scheduleCalls schedules).length .running }
    jobs := s.jobs ++ jobsFor query token s.timers.handles.length (services.admitted s.scheduleCalls schedules) }

end EngineState

namespace Activation

variable {ρ : Type} [JobRegistry ρ]

theorem mapError_ok {ε ε' α : Type} (f : ε → ε') (a : α) : (Except.ok a : Except ε α).mapError f = .ok a := rfl

theorem mapError_error {ε ε' α : Type} (f : ε → ε') (e : ε) : (Except.error e : Except ε α).mapError f = .error (f e) := rfl

/-- Asking for timers starts those that are admitted. -/
theorem mapM_startTimer_run (services : Services) (query : StoredQuery) (token : Uuid) (schedules : List Schedule)
    (s : EngineState ρ) :
    (schedules.mapM (startTimer query token)).run services s =
      (services.answers s.scheduleCalls s.timers.handles.length schedules, s.starting services query token schedules) := by
  induction schedules generalizing s with
  | nil =>
    unfold EngineState.starting EngineState.jobsFor
    simp [Services.admitted, Services.answers]
  | cons schedule rest ih =>
    have hfirst : (startTimer query token schedule).run services s =
        (((s.schedule services (.start query token schedule)).1).mapError SchedulerError.failure,
          (s.schedule services (.start query token schedule)).2) := rfl
    rw [List.mapM_cons, Program.run_bind, Program.run_bind, hfirst, ih]
    unfold EngineState.schedule
    cases hadmits : services.admits s.scheduleCalls with
    | ok _ =>
      obtain ⟨hadmitted, _⟩ := services.admitted_cons_ok hadmits schedule rest
      simp only [Services.answers, hadmits, EngineState.starting, hadmitted, LocalTimers.start, EngineState.jobsFor]
      simp [List.replicate_succ, List.zipIdx_cons, mapError_ok, Nat.add_assoc, Nat.add_comm 1]
    | error e =>
      obtain ⟨hadmitted, _⟩ := services.admitted_cons_error hadmits schedule rest
      simp only [Services.answers, hadmits, EngineState.starting, hadmitted]
      simp [mapError_error, Nat.add_assoc, Nat.add_comm 1]

/-- The timers of an activation are started as far as they are admitted; then they are tracked, or, if there are none, the entry
is given up. -/
theorem startTimers_run (services : Services) (query : StoredQuery) (token : Uuid) (schedules : List Schedule)
    (s : EngineState ρ) :
    (startTimers query token schedules).run services s =
      (services.answers s.scheduleCalls s.timers.handles.length schedules,
        if services.admitted s.scheduleCalls schedules = [] then
          { s.starting services query token schedules with
            registry := (JobRegistry.removeIfOwned s.registry query.id token).2 }
        else
          { s.starting services query token schedules with
            timers := (s.starting services query token schedules).timers.track query.id token
              (List.range' s.timers.handles.length (services.admitted s.scheduleCalls schedules).length) }) := by
  unfold startTimers
  rw [Program.run_bind, mapM_startTimer_run]
  simp only [services.answers_handles]
  cases hadmitted : services.admitted s.scheduleCalls schedules with
  | nil => rfl
  | cons first rest =>
    rw [if_neg (List.cons_ne_nil first rest), List.length_cons, List.range'_succ]
    rfl

end Activation

/-- Nothing that others can see has changed from one state of an engine to another: the entries of the registry, the timers and
the jobs are the same. -/
structure EngineState.Untouched {ρ : Type} [JobRegistry ρ] (s s' : EngineState ρ) : Prop where
  entries : JobRegistry.entry s'.registry = JobRegistry.entry s.registry
  timers : s'.timers = s.timers
  jobs : s'.jobs = s.jobs

namespace EngineState.Untouched

variable {ρ : Type} [JobRegistry ρ] {s s' s'' : EngineState ρ}

theorem refl (s : EngineState ρ) : s.Untouched s := ⟨rfl, rfl, rfl⟩

theorem trans (h : s.Untouched s') (h' : s'.Untouched s'') : s.Untouched s'' where
  entries := h'.entries.trans h.entries
  timers := h'.timers.trans h.timers
  jobs := h'.jobs.trans h.jobs

end EngineState.Untouched

namespace Activation

/-- What is reported of a claim that fails, if it does, by whether there is an entry already. -/
def claimFailure? (services : Services) (mode : ClaimMode) (held : Bool) : Option Failure :=
  match mode with
  | .once =>
    if held then some ⟨"This query cannot be scheduled because a job is already scheduled for it!"⟩ else none
  | .retrying =>
    if services.retry.maxAttempts = 0 then some ⟨RetryPolicy.exhausted 0 "no attempt was made"⟩
    else if held then
      some ⟨RetryPolicy.exhausted services.retry.maxAttempts
        "This query cannot be scheduled because a job is already scheduled for it!"⟩
    else none

variable {ρ : Type} [JobRegistry ρ] [JobRegistry.FaultFree ρ]

/-- A claim where there is no entry enters the marker. -/
theorem claimOnce_run_of_absent (services : Services) {id : String} (m : Marker) {s : EngineState ρ}
    (h : JobRegistry.entry s.registry id = none) :
    (claimOnce id m).run services s = (.ok (), { s with registry := (JobRegistry.putIfAbsent s.registry id m).2 }) := by
  have hanswer := JobRegistry.FaultFree.claim_answer s.registry id m
  rw [h] at hanswer
  unfold claimOnce
  rw [Program.run_bind, Program.run_ask]
  simp only [EngineState.perform, hanswer]
  rfl

/-- A claim where there is an entry changes nothing. -/
theorem claimOnce_run_of_held (services : Services) {id : String} (m : Marker) {s : EngineState ρ} {held : Marker}
    (h : JobRegistry.entry s.registry id = some held) :
    ((claimOnce id m).run services s).1 = .error ⟨alreadyScheduled⟩ ∧ s.Untouched ((claimOnce id m).run services s).2 := by
  have hanswer := JobRegistry.FaultFree.claim_answer s.registry id m
  rw [h] at hanswer
  unfold claimOnce
  rw [Program.run_bind, Program.run_ask]
  simp only [EngineState.perform, hanswer]
  refine ⟨rfl, funext fun other => ?_, rfl, rfl⟩
  change JobRegistry.entry (JobRegistry.putIfAbsent s.registry id m).2 other = _
  rw [JobRegistry.FaultFree.claim_entry, h]
  simp

/-- Attempts to claim where there is no entry enter the marker at the first of them. -/
theorem attempts_run_of_absent (services : Services) {id : String} (m : Marker) {s : EngineState ρ}
    (h : JobRegistry.entry s.registry id = none) (ms n : Nat) :
    (RetryPolicy.attempts (Program.ask (.sleep ms)) (claimOnce id m) (n + 1)).run services s =
      (.ok (), { s with registry := (JobRegistry.putIfAbsent s.registry id m).2 }) := by
  cases n with
  | zero => exact claimOnce_run_of_absent services m h
  | succ n =>
    unfold RetryPolicy.attempts
    rw [Program.run_bind, claimOnce_run_of_absent services m h]
    rfl

/-- Attempts to claim where there is an entry change nothing, as many as there are. -/
theorem attempts_run_of_held (services : Services) {id : String} (m : Marker) {s : EngineState ρ} {held : Marker}
    (h : JobRegistry.entry s.registry id = some held) (ms n : Nat) :
    ((RetryPolicy.attempts (Program.ask (.sleep ms)) (claimOnce id m) (n + 1)).run services s).1 = .error ⟨alreadyScheduled⟩ ∧
      s.Untouched ((RetryPolicy.attempts (Program.ask (.sleep ms)) (claimOnce id m) (n + 1)).run services s).2 := by
  induction n generalizing s with
  | zero => exact claimOnce_run_of_held services m h
  | succ n ih =>
    obtain ⟨hanswer, hsame⟩ := claimOnce_run_of_held services m h
    unfold RetryPolicy.attempts
    rw [Program.run_bind, hanswer]
    simp only
    rw [Program.run_bind, Program.run_ask]
    generalize ((claimOnce id m).run services s).2 = tried at hsame
    have hslept : tried.Untouched (tried.perform services (.sleep ms)).2 := ⟨rfl, rfl, rfl⟩
    obtain ⟨hlater, hafter⟩ := ih (s := (tried.perform services (.sleep ms)).2) ((congrFun hsame.entries id).trans h)
    exact ⟨hlater, hsame.trans (hslept.trans hafter)⟩

/-- A claim enters the marker, or reports its failure and changes nothing. -/
theorem claim_run (services : Services) (mode : ClaimMode) (id : String) (m : Marker) (s : EngineState ρ) :
    match claimFailure? services mode (JobRegistry.entry s.registry id).isSome with
    | none => (claim services mode id m).run services s =
        (.ok (), { s with registry := (JobRegistry.putIfAbsent s.registry id m).2 }) ∧ JobRegistry.entry s.registry id = none
    | some f => ((claim services mode id m).run services s).1 = .error f ∧
        s.Untouched ((claim services mode id m).run services s).2 := by
  unfold claimFailure? claim
  cases mode with
  | once =>
    cases hentry : JobRegistry.entry s.registry id with
    | none => exact ⟨claimOnce_run_of_absent services m hentry, rfl⟩
    | some held => exact claimOnce_run_of_held services m hentry
  | retrying =>
    unfold RetryPolicy.run
    rw [Program.run_bind]
    cases hattempts : services.retry.maxAttempts with
    | zero => exact ⟨rfl, .refl s⟩
    | succ n =>
      cases hentry : JobRegistry.entry s.registry id with
      | none =>
        refine ⟨?_, rfl⟩
        rw [attempts_run_of_absent services m hentry]
        rfl
      | some held =>
        obtain ⟨hanswer, hsame⟩ := attempts_run_of_held services m hentry services.retry.delayMs n
        simp only [Option.isSome_some, if_true, Nat.succ_ne_zero, if_false, hanswer]
        exact ⟨rfl, hsame⟩

end Activation

end StandingQuery
