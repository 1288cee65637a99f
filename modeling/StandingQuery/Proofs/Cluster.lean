import Mathlib.Logic.Function.Basic
import StandingQuery.Proofs.FaultFree
import StandingQuery.Proofs.Operations

/-!
# Engines side by side

Any number of engines that share one registry, each with timers and jobs of its own, and any number of operations in progress:
activations, cancellations, ticks and what jobs do when they are told their next instants. `Cluster.next` is one move: an
operation begins, a thread takes one atomic step, or the timer of a job that stopped ends. Nothing is said of the order of
moves, so that `Cluster.Steps` covers every interleaving. The log of all steps so far is kept for the sake of what is said
about runs; no step reads it.

`Cluster.Sound` ties every thread to what it has done: what is left of it is what its operation leaves after its part of the
log.
-/

namespace StandingQuery

/-- What an operation ends with. -/
inductive Result where
  | reported (outcome : Outcome Unit)
  | ticked (outcome : TickOutcome) (job : Job)
  | told (answer : Continuation)

/-- What an engine can be doing. A tick is one of a started job, named by its number. -/
inductive Operation where
  | activate (mode : ClaimMode) (query : StoredQuery)
  | cancel (id : String)
  | tick (number : Nat) (job : Job) (now : Instant)
  | afterTick (number : Nat) (job : Job) (next : Option Instant)

namespace Operation

/-- The program of an operation. -/
def program (services : Services) : Operation → Program Result
  | .activate mode query => Result.reported <$> Activation.activate services mode query
  | .cancel id => Result.reported <$> Activation.cancel id
  | .tick _ job now => (fun result => Result.ticked result.1 result.2) <$> job.tick services now
  | .afterTick _ job next => Result.told <$> job.afterTick next

/-- What an operation asks for after some steps. -/
def Asks : Operation → List Happening → Action → Prop
  | .activate _ query => Activation.Asks query
  | .cancel id => Activation.CancelAsks id
  | .tick _ job _ => job.TickAsks
  | .afterTick _ job _ => job.AfterTickAsks

/-- What an operation may end with after some steps. -/
def Ends : Operation → List Happening → Result → Prop
  | .activate _ query, past, _ => ∀ m, Activation.Won past query.id m → ∃ h ∈ past, h.settles = true
  | .cancel _, _, _ => True
  | .tick _ job _, past, result => ∃ outcome job', result = .ticked outcome job' ∧ job.TickEnds past (outcome, job')
  | .afterTick _ job _, past, result => ∃ answer, result = .told answer ∧ job.AfterTickEnds past answer

/-- Every operation is bounded. -/
theorem keeps_program (services : Services) (operation : Operation) :
    Program.Keeps operation.Asks operation.Ends (operation.program services) [] := by
  cases operation with
  | activate mode query => exact Program.keeps_map (Activation.keeps_activate services mode query) fun _ _ h => h
  | cancel id => exact Program.keeps_map (Activation.keeps_cancel id) fun _ _ h => h
  | tick number job now => exact Program.keeps_map (Job.keeps_tick services job now) fun _ result h => ⟨_, _, rfl, h⟩
  | afterTick number job next => exact Program.keeps_map (Job.keeps_afterTick job next) fun _ answer h => ⟨_, rfl, h⟩

/-- The started job that an operation is of, with its number. -/
def job? : Operation → Option (Nat × Job)
  | .tick number job _ => some (number, job)
  | .afterTick number job _ => some (number, job)
  | _ => none

/-- Only an activation claims an entry: that of its query, with the marker that it drew first, and before it has won it. -/
theorem asks_claim {operation : Operation} {past : List Happening} {id : String} {m : Marker}
    (h : operation.Asks past (.claim id m)) :
    ∃ mode query, operation = .activate mode query ∧ query.id = id ∧ Activation.Drew past m ∧
      ∀ id m, ¬Activation.Won past id m := by
  cases operation with
  | activate mode query =>
    cases h with
    | claim drew notYet => exact ⟨mode, query, rfl, rfl, drew, notYet⟩
  | cancel id => cases h
  | tick number job now => cases h
  | afterTick number job instant => cases h

/-- Only a cancellation removes an entry whatever it holds. -/
theorem asks_remove {operation : Operation} {past : List Happening} {id : String} (h : operation.Asks past (.remove id)) :
    operation = .cancel id ∧ past = [] := by
  cases operation with
  | activate mode query => cases h
  | cancel id =>
    cases h with
    | remove first => exact ⟨rfl, first⟩
  | tick number job now => cases h
  | afterTick number job instant => cases h

/-- An entry is given up by the activation that won it, or by a job that stops. -/
theorem asks_removeIfOwned {operation : Operation} {past : List Happening} {id : String} {token : Uuid}
    (h : operation.Asks past (.removeIfOwned id token)) :
    (∃ m, Activation.Drew past m ∧ Activation.Won past id m ∧ m.token = token) ∨
      ∃ number job, operation.job? = some (number, job) ∧ job.query.id = id ∧ job.token = token := by
  cases operation with
  | activate mode query =>
    cases h with
    | giveUp drew won _ _ => exact Or.inl ⟨_, drew, won, rfl⟩
  | cancel id => cases h
  | tick number job now => cases h
  | afterTick number job instant =>
    cases h with
    | giveUp => exact Or.inr ⟨number, job, rfl, rfl, rfl⟩

/-- Only an activation starts timers: for its query, with the token of the marker with which it won the entry. -/
theorem asks_schedule {operation : Operation} {past : List Happening} {job : Job} (h : operation.Asks past (.schedule job)) :
    ∃ mode m, operation = .activate mode job.query ∧ job.token = m.token ∧ Activation.Drew past m ∧
      Activation.Won past job.query.id m := by
  cases operation with
  | activate mode query =>
    cases h with
    | schedule _ drew won _ => exact ⟨mode, _, rfl, rfl, drew, won⟩
  | cancel id => cases h
  | tick number job now => cases h
  | afterTick number job instant => cases h

/-- Only an activation tracks timers: all that it started, there being some, when it has not settled yet. -/
theorem asks_track {operation : Operation} {past : List Happening} {id : String} {token : Uuid} {handles : List Nat}
    (h : operation.Asks past (.track id token handles)) :
    ∃ mode query m, operation = .activate mode query ∧ query.id = id ∧ m.token = token ∧ Activation.Drew past m ∧
      Activation.Won past id m ∧ Activation.Unsettled past ∧ handles = Activation.started past ∧ handles ≠ [] := by
  cases operation with
  | activate mode query =>
    cases h with
    | track drew won unsettled something => exact ⟨mode, query, _, rfl, rfl, rfl, drew, won, unsettled, rfl, something⟩
  | cancel id => cases h
  | tick number job now => cases h
  | afterTick number job instant => cases h

/-- Timers are released only by a job that has given its entry up. -/
theorem asks_release {operation : Operation} {past : List Happening} {id : String} {token : Uuid}
    (h : operation.Asks past (.release id token)) : ∃ answer, ⟨.removeIfOwned id token, answer⟩ ∈ past := by
  cases operation with
  | activate mode query => cases h
  | cancel id => cases h
  | tick number job now => cases h
  | afterTick number job instant =>
    cases h with
    | release gaveUp => exact ⟨_, gaveUp⟩

/-- Timers are cancelled only by a cancellation that has removed the entry, and has done nothing else. -/
theorem asks_cancelTimers {operation : Operation} {past : List Happening} {id : String}
    (h : operation.Asks past (.cancelTimers id)) : operation = .cancel id ∧ ∃ answer, past = [⟨.remove id, answer⟩] := by
  cases operation with
  | activate mode query => cases h
  | cancel id =>
    cases h with
    | cancelTimers removed => exact ⟨rfl, _, removed⟩
  | tick number job now => cases h
  | afterTick number job instant => cases h

/-- What an engine remembers of an operation that has come to its end: a tick's job goes on as the tick gave it back. -/
def conclude {ρ : Type} [JobRegistry ρ] (operation : Operation) (rest : Program Result) (s : EngineState ρ) :
    EngineState ρ :=
  match operation, rest with
  | .tick number _ _, .done (.ticked _ job) => s.withJob number job
  | _, _ => s

end Operation

/-- An operation in progress, and what is left of it. -/
structure Thread (ι : Type) where
  engine : ι
  operation : Operation
  rest : Program Result

namespace EngineState

/-- An engine over another registry. -/
def withRegistry {ρ σ : Type} (s : EngineState ρ) (registry : σ) : EngineState σ :=
  ⟨registry, s.timers, s.jobs, s.scheduleCalls, s.drawn, s.requests, s.handed, s.waitedMs⟩

end EngineState

/-- Engines that share a registry: what each has beside it, the operations begun so far, and every atomic step so far with the
number of its thread. -/
structure Cluster (ι ρ : Type) where
  registry : ρ
  engines : ι → EngineState Unit
  threads : List (Thread ι)
  log : List (Nat × Happening)

/-- What can happen next. -/
inductive Move (ι : Type) where
  | activate (engine : ι) (mode : ClaimMode) (query : StoredQuery)
  | cancel (engine : ι) (id : String)
  | tick (engine : ι) (number : Nat) (now : Instant)
  | afterTick (engine : ι) (number : Nat) (next : Option Instant)
  /-- A thread takes its next step. -/
  | advance (thread : Nat)
  /-- The timer of a job that answered that it stops ends. -/
  | expire (thread : Nat)

namespace Cluster

variable {ι ρ : Type}

/-- Engines that have done nothing yet. -/
def fresh (registry : ρ) : Cluster ι ρ := ⟨registry, fun _ => .fresh (), [], []⟩

/-- What a thread has done, by the log. -/
def past (log : List (Nat × Happening)) (thread : Nat) : List Happening :=
  log.filterMap fun e => if e.1 = thread then some e.2 else none

/-- An operation begins. -/
def start (services : ι → Services) (c : Cluster ι ρ) (engine : ι) (operation : Operation) : Cluster ι ρ :=
  { c with threads := c.threads ++ [⟨engine, operation, operation.program (services engine)⟩] }

@[simp] theorem past_nil (k : Nat) : past [] k = [] := rfl

@[simp] theorem past_append (l l' : List (Nat × Happening)) (k : Nat) : past (l ++ l') k = past l k ++ past l' k := by
  unfold past
  rw [List.filterMap_append]

@[simp] theorem past_cons (e : Nat × Happening) (l : List (Nat × Happening)) (k : Nat) :
    past (e :: l) k = if e.1 = k then e.2 :: past l k else past l k := by
  unfold past
  rw [List.filterMap_cons]
  by_cases h : e.1 = k <;> simp [h]

/-- A thread has done what the log says of it. -/
theorem mem_past {l : List (Nat × Happening)} {k : Nat} {h : Happening} : h ∈ past l k ↔ (k, h) ∈ l := by
  unfold past
  rw [List.mem_filterMap]
  constructor
  · rintro ⟨⟨k', h'⟩, hmem, he⟩
    by_cases hk : k' = k
    · simp only [hk, if_true, Option.some.injEq] at he
      rw [← hk, ← he]
      exact hk ▸ hmem
    · simp [hk] at he
  · intro hmem
    exact ⟨_, hmem, by simp⟩

/-- A place in a list that has grown by an element is its end, or was there before. -/
theorem split_snoc {α : Type} {log before after : List α} {last e : α} (h : log ++ [last] = before ++ e :: after) :
    (before = log ∧ e = last ∧ after = []) ∨ ∃ after', log = before ++ e :: after' ∧ after = after' ++ [last] := by
  rcases List.eq_nil_or_concat after with rfl | ⟨after', last', rfl⟩
  · obtain ⟨rfl, he⟩ := List.append_inj' h rfl
    cases he
    exact Or.inl ⟨rfl, rfl, rfl⟩
  · rw [List.concat_eq_append, ← List.cons_append, ← List.append_assoc] at h
    obtain ⟨rfl, he⟩ := List.append_inj' h rfl
    cases he
    exact Or.inr ⟨after', rfl, List.concat_eq_append⟩

/-- Every thread stands where its program leads through its part of the log, and the log is of threads only. -/
structure Sound (services : ι → Services) (c : Cluster ι ρ) : Prop where
  leads : ∀ k thread, c.threads[k]? = some thread →
    Program.Leads (thread.operation.program (services thread.engine)) (past c.log k) thread.rest
  logged : ∀ e ∈ c.log, e.1 < c.threads.length

namespace Sound

variable {services : ι → Services} {c : Cluster ι ρ}

/-- A thread that has not begun has done nothing. -/
theorem past_eq_nil (h : Sound services c) {k : Nat} (hk : c.threads.length ≤ k) : past c.log k = [] := by
  refine List.eq_nil_iff_forall_not_mem.2 fun happening hmem => ?_
  have := h.logged _ (mem_past.1 hmem)
  omega

/-- Every step in the log was asked for by the operation of its thread, after the steps that the thread had taken. -/
theorem asked (h : Sound services c) {before after : List (Nat × Happening)} {k : Nat} {happening : Happening}
    (hlog : c.log = before ++ (k, happening) :: after) :
    ∃ thread, c.threads[k]? = some thread ∧ thread.operation.Asks (past before k) happening.action := by
  have hk : k < c.threads.length := by
    refine h.logged (k, happening) ?_
    rw [hlog]
    exact List.mem_append_right _ List.mem_cons_self
  refine ⟨c.threads[k], List.getElem?_eq_getElem hk, ?_⟩
  have hleads := h.leads k c.threads[k] (List.getElem?_eq_getElem hk)
  rw [hlog, past_append, past_cons, if_pos rfl] at hleads
  simpa using hleads.asked (Operation.keeps_program (services c.threads[k].engine) c.threads[k].operation)

/-- What is left of a thread is bounded by its operation. -/
theorem keeps (h : Sound services c) {k : Nat} {thread : Thread ι} (hk : c.threads[k]? = some thread) :
    Program.Keeps thread.operation.Asks thread.operation.Ends thread.rest (past c.log k) := by
  simpa using (h.leads k thread hk).keeps (Operation.keeps_program (services thread.engine) thread.operation)

end Sound

variable [DecidableEq ι] [JobRegistry ρ]

/-- What an atomic step of an engine answers, and the engine that follows, over the shared registry. -/
def perform (services : ι → Services) (c : Cluster ι ρ) (engine : ι) (action : Action) : action.Answer × EngineState ρ :=
  ((c.engines engine).withRegistry c.registry).perform (services engine) action

/-- A thread takes a step. -/
def advance (services : ι → Services) (c : Cluster ι ρ) (k : Nat) (thread : Thread ι) (action : Action)
    (next : action.Answer → Program Result) : Cluster ι ρ :=
  let performed := c.perform services thread.engine action
  let rest := next performed.1
  let engine := thread.operation.conclude rest performed.2
  { registry := engine.registry
    engines := Function.update c.engines thread.engine (engine.withRegistry ())
    threads := c.threads.set k { thread with rest := rest }
    log := c.log ++ [(k, ⟨action, performed.1⟩)] }

/-- The timer of a started job ends. -/
def expire (c : Cluster ι ρ) (engine : ι) (started : StartedJob) : Cluster ι ρ :=
  { c with
    engines := Function.update c.engines engine
      { c.engines engine with timers := (c.engines engine).timers.finish started.handle } }

/-- One move, if it can be made. -/
def next (services : ι → Services) (c : Cluster ι ρ) : Move ι → Option (Cluster ι ρ)
  | .activate engine mode query => some (c.start services engine (.activate mode query))
  | .cancel engine id => some (c.start services engine (.cancel id))
  | .tick engine number now =>
    (c.engines engine).jobs[number]?.map fun started => c.start services engine (.tick number started.job now)
  | .afterTick engine number next =>
    (c.engines engine).jobs[number]?.map fun started => c.start services engine (.afterTick number started.job next)
  | .advance k =>
    match c.threads[k]? with
    | some thread =>
      match thread.rest with
      | .step action next => some (c.advance services k thread action next)
      | .done _ => none
    | none => none
  | .expire k =>
    match c.threads[k]? with
    | some ⟨engine, .afterTick number _ _, .done (.told .stop)⟩ => (c.engines engine).jobs[number]?.map (c.expire engine)
    | _ => none

/-- What a move does, by its kind: an operation begins, one of a job with a job that was started; a thread takes a step; or the
timer of a job that answered that it stops ends. -/
inductive Change (services : ι → Services) (c : Cluster ι ρ) : Cluster ι ρ → Prop where
  | start (engine : ι) (operation : Operation)
      (started : ∀ number job, operation.job? = some (number, job) →
        ∃ s, (c.engines engine).jobs[number]? = some s ∧ s.job = job) : Change services c (c.start services engine operation)
  | advance {k : Nat} {thread : Thread ι} {action : Action} {next : action.Answer → Program Result}
      (present : c.threads[k]? = some thread) (stands : thread.rest = .step action next) :
      Change services c (c.advance services k thread action next)
  | expire {k : Nat} {thread : Thread ι} {number : Nat} {job : Job} {instant : Option Instant} {s : StartedJob}
      (present : c.threads[k]? = some thread) (told : thread.operation = .afterTick number job instant)
      (stopped : thread.rest = .done (.told .stop)) (found : (c.engines thread.engine).jobs[number]? = some s) :
      Change services c (c.expire thread.engine s)

/-- Every move is a change of one of the kinds. -/
theorem change_of_next {services : ι → Services} {c c' : Cluster ι ρ} {move : Move ι}
    (h : c.next services move = some c') : Change services c c' := by
  cases move with
  | activate engine mode query =>
    cases h
    exact .start engine (.activate mode query) fun _ _ hjob => by cases hjob
  | cancel engine id =>
    cases h
    exact .start engine (.cancel id) fun _ _ hjob => by cases hjob
  | tick engine number now =>
    obtain ⟨s, hs, rfl⟩ := Option.map_eq_some_iff.1 h
    exact .start engine (.tick number s.job now) fun _ _ hjob => by cases hjob; exact ⟨s, hs, rfl⟩
  | afterTick engine number next =>
    obtain ⟨s, hs, rfl⟩ := Option.map_eq_some_iff.1 h
    exact .start engine (.afterTick number s.job next) fun _ _ hjob => by cases hjob; exact ⟨s, hs, rfl⟩
  | advance k =>
    simp only [Cluster.next] at h
    split at h
    · rename_i thread hthread
      split at h
      · rename_i action next hrest
        cases h
        exact .advance hthread hrest
      · cases h
    · cases h
  | expire k =>
    simp only [Cluster.next] at h
    split at h
    · rename_i engine number job instant hthread
      obtain ⟨s, hs, rfl⟩ := Option.map_eq_some_iff.1 h
      exact .expire hthread rfl rfl hs
    · cases h

/-- What can come of a cluster by any moves. -/
inductive Steps (services : ι → Services) (c : Cluster ι ρ) : Cluster ι ρ → Prop where
  | refl : Steps services c c
  | next {c₁ c₂ : Cluster ι ρ} (earlier : Steps services c c₁) (move : Move ι) (h : c₁.next services move = some c₂) :
      Steps services c c₂

/-- What can come of engines that had done nothing, over a registry without entries. -/
def Reachable (services : ι → Services) (c : Cluster ι ρ) : Prop :=
  ∃ registry, JobRegistry.Vacant registry ∧ Steps services (fresh registry) c

/-- Whether a kind of registry can store every marker that the activations of some engines draw. -/
def Storing (ρ : Type) [JobRegistry ρ] [JobRegistry.Durable ρ] (services : ι → Services) : Prop :=
  ∀ engine n, JobRegistry.Durable.Storable ρ ((services engine).draw n)

omit [DecidableEq ι] in
/-- A kind of registry without faults can store whatever is drawn. -/
theorem storing_of_faultFree [JobRegistry.FaultFree ρ] (services : ι → Services) : Storing ρ services :=
  fun _ _ => trivial

/-- Several moves, if they can be made. -/
def play (services : ι → Services) : List (Move ι) → Cluster ι ρ → Option (Cluster ι ρ)
  | [], c => some c
  | move :: moves, c => (c.next services move).bind (play services moves)

/-- Steps after steps. -/
theorem Steps.trans {services : ι → Services} {c₀ c₁ c₂ : Cluster ι ρ} (h : Steps services c₀ c₁)
    (h' : Steps services c₁ c₂) : Steps services c₀ c₂ := by
  induction h' with
  | refl => exact h
  | next _ move hnext ih => exact .next ih move hnext

/-- Moves that can be made are steps. -/
theorem steps_of_play {services : ι → Services} {moves : List (Move ι)} {c c' : Cluster ι ρ}
    (h : play services moves c = some c') : Steps services c c' := by
  induction moves generalizing c with
  | nil =>
    cases h
    exact .refl
  | cons move moves ih =>
    obtain ⟨c₁, hnext, hrest⟩ := Option.bind_eq_some_iff.1 h
    exact Steps.trans (.next .refl move hnext) (ih hrest)

/-- What holds of a cluster and is kept by every change holds of all that can come of it. -/
theorem Steps.invariant {services : ι → Services} {c c' : Cluster ι ρ} (h : Steps services c c')
    (holds : Cluster ι ρ → Prop) (first : holds c) (step : ∀ c₁ c₂, holds c₁ → Change services c₁ c₂ → holds c₂) : holds c' := by
  induction h with
  | refl => exact first
  | next _ _ hnext ih => exact step _ _ ih (change_of_next hnext)

/-- What can come of a reachable cluster is reachable. -/
theorem Reachable.steps {services : ι → Services} {c c' : Cluster ι ρ} (h : Reachable services c)
    (hs : Steps services c c') : Reachable services c' := by
  obtain ⟨registry, hempty, hsteps⟩ := h
  exact ⟨registry, hempty, hsteps.trans hs⟩

namespace Sound

variable {services : ι → Services} {c c' : Cluster ι ρ}

/-- Every change keeps the threads where their programs lead. -/
theorem change (h : Sound services c) (hc : Change services c c') : Sound services c' := by
  cases hc with
  | start engine operation _ =>
    refine ⟨fun k thread hk => ?_, fun e he => ?_⟩
    · simp only [Cluster.start, List.getElem?_append] at hk ⊢
      split at hk
      · exact h.leads k thread hk
      · rename_i hge
        rw [List.getElem?_singleton] at hk
        split at hk
        · cases hk
          rw [h.past_eq_nil (Nat.le_of_not_lt hge)]
          exact .refl _
        · cases hk
    · simp only [Cluster.start, List.length_append, List.length_singleton]
      exact Nat.lt_succ_of_lt (h.logged e he)
  | @advance j thread action next present stands =>
    have hj : j < c.threads.length := (List.getElem?_eq_some_iff.1 present).1
    refine ⟨fun k thread' hk => ?_, fun e he => ?_⟩
    · simp only [Cluster.advance, List.getElem?_set, past_append, past_cons, past_nil] at hk ⊢
      by_cases hjk : j = k
      · subst hjk
        simp only [if_true, hj] at hk ⊢
        cases hk
        have hleads := h.leads j thread present
        rw [stands] at hleads
        exact hleads.snoc _
      · simp only [hjk, if_false, List.append_nil] at hk ⊢
        exact h.leads k thread' hk
    · simp only [Cluster.advance, List.mem_append, List.mem_singleton, List.length_set] at he ⊢
      rcases he with he | rfl
      · exact h.logged e he
      · exact hj
  | expire _ _ _ _ => exact ⟨h.leads, h.logged⟩

/-- Every reachable cluster is sound. -/
theorem of_reachable (h : Reachable services c) : Sound services c := by
  obtain ⟨registry, _, hsteps⟩ := h
  refine hsteps.invariant (Sound services) ⟨fun k thread hk => ?_, fun e he => ?_⟩ fun _ _ => change
  · simp [fresh] at hk
  · simp [fresh] at he

end Sound

/-! ### A query to run -/

namespace Sample

/-- A query of one schedule, every day for a month. -/
def query : StoredQuery :=
  ⟨"q", "x", none,
    [.obj [("deliveryIds", .arr []), ("isScheduled", .bool true), ("scheduleAmount", .num (.int 1)),
      ("scheduleEnd", .str "2026-04-04T13:05:00Z"), ("scheduleStart", .str "2026-03-04T13:05:00Z"),
      ("scheduleUnit", .str "DAYS"), ("userId", .str "alice")]], []⟩

/-- Two engines whose tokens are the even and the odd numbers. -/
def services (second : Bool) : Services where
  runner := ⟨⟨fun _ => .ok (), fun _ _ => ⟨.ok .empty, 0⟩⟩, 1, 0⟩
  preferences := fun _ => .ok []
  channels := .empty
  retry := .standard
  admits := fun _ => .ok ()
  draw := fun n => ⟨.ofNat (2 * n + second.toNat), ⟨0, 0⟩⟩

end Sample

end Cluster

end StandingQuery
