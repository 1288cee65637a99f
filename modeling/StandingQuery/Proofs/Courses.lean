import StandingQuery.Proofs.Amid
import StandingQuery.Proofs.FaultFree
import StandingQuery.Proofs.Operations
import StandingQuery.Proofs.TimerRuns

/-!
# Courses of jobs

A job that a timer drives while others use the same engine, with a note of each of its ticks and of each of its answers
(`Job.driven`). A tick executes the job's query when the requests that it adds to those of the engine are the one for the query
(`Job.Executes`). While the registry holds the job's token, its ticks execute the query where its gate says so, and make no request
anywhere else (`Course.Held.tick`), and it goes on until it is over; then it stops and its entry is gone (`Course.Held.gone`).
-/

namespace StandingQuery

/-- What is noted of a tick: when it began, what came of it, and the steps that it took. -/
structure NotedTick (ρ : Type) where
  now : Instant
  outcome : TickOutcome
  taken : List (Taken ρ)

/-- The requests that a tick made of the catalog. -/
def NotedTick.requests {ρ : Type} (tick : NotedTick ρ) : List CatalogRequest := tick.taken.flatMap Taken.requested

/-- A job on its way: the job as it goes on, its engine, what others have still to do to the engine, and what was noted. -/
structure Course (ρ : Type) where
  job : Job
  engine : EngineState ρ
  others : List (EngineState ρ → EngineState ρ)
  ticked : List (NotedTick ρ)
  answers : List Continuation

namespace Job

variable {ρ : Type} [JobRegistry ρ]

/-- A job as a task that a timer drives while others use the same engine. -/
def driven (services : Services) : TimedTask (Course ρ) where
  tick now c :=
    let ran := (c.job.tick services now).amid services c.others c.engine
    { c with
      job := ran.value.2
      engine := ran.engine
      others := ran.others
      ticked := c.ticked ++ [⟨now, ran.value.1, ran.taken⟩] }
  afterTick next c :=
    let ran := (c.job.afterTick next).amid services c.others c.engine
    (ran.value, { c with engine := ran.engine, others := ran.others, answers := c.answers ++ [ran.value] })

/-- The request that an execution of a job's query makes of the catalog: for the first page, with the rights of the system. -/
def request (services : Services) (job : Job) : CatalogRequest :=
  ⟨job.query.expression, 1, services.runner.pageSize, services.runner.timeoutMs, true⟩

/-- Whether requests are those of one execution of a job's query. -/
def Executes (services : Services) (job : Job) (requests : List CatalogRequest) : Prop := requests = [job.request services]

/-- The requests of a tick: one for the job's query if the job fires, and otherwise none. -/
def requestsIf (services : Services) (job : Job) (fires : Bool) : List CatalogRequest :=
  if fires then [job.request services] else []

/-- The requests of a job are those of its query. -/
theorem requestsIf_congr {job job' : Job} (services : Services) (h : job.query = job'.query) :
    job.requestsIf services = job'.requestsIf services := by
  unfold requestsIf request
  rw [h]

/-- No execution is without a request. -/
@[simp] theorem not_executes_nil (services : Services) (job : Job) : ¬job.Executes services [] := nofun

/-- A tick executes the query if the job fires. -/
theorem executes_requestsIf {services : Services} {job : Job} {fires : Bool} :
    job.Executes services (job.requestsIf services fires) ↔ fires = true := by
  unfold Executes requestsIf
  cases fires <;> simp

/-- Whether a tick whose token is confirmed fires. -/
def fires (job : Job) (now : Instant) : Bool :=
  match job.gate true now with
  | .fire _ => true
  | .shut _ => false

/-- The job as it goes on after a tick whose token is confirmed. -/
def beyond (job : Job) (now : Instant) : Job := if job.fires now then { job with lastFired := some now.toMinute } else job

/-- A gate that opens, opens for the minute of the tick. -/
theorem gate_eq (job : Job) (now : Instant) :
    if job.fires now then job.gate true now = .fire now.toMinute else ∃ outcome, job.gate true now = .shut outcome := by
  unfold fires gate
  simp only [Bool.not_true, Bool.false_eq_true, if_false]
  by_cases hstart : now < job.schedule.start
  · simp [hstart]
  · cases job.isDue now.toMinute <;> simp [hstart]

/-- A step of a tick leaves the registry as it is. -/
theorem TickAsks.registry {job : Job} {past : List Happening} {action : Action} (h : job.TickAsks past action)
    (services : Services) (s : EngineState ρ) : (s.perform services action).2.registry = s.registry := by
  cases h <;> rfl

/-- A firing executes the query once, whatever comes of it, and is not inactive. -/
theorem keeps_fire (services : Services) (job : Job) (past : List Happening) :
    Program.Keeps (fun _ _ => True)
      (fun later outcome => Happening.requests services.runner later =
        Happening.requests services.runner past ++ [job.request services] ∧ outcome ≠ .inactive)
      (job.fire services) past := by
  unfold fire
  rw [Program.ask_bind]
  refine ⟨trivial, fun answer => ?_⟩
  have hone : Happening.requests services.runner (past ++ [(⟨.execute job.query.expression, answer⟩ : Happening)]) =
      Happening.requests services.runner past ++ [job.request services] := Happening.requests_append ..
  match answer with
  | .error e => exact ⟨hone, nofun⟩
  | .ok results =>
    have hdeliver := Aux.keeps_deliverAll
      (fun later => Happening.requests services.runner later =
        Happening.requests services.runner past ++ [job.request services]) services job results
      (fun later _ _ h => by rw [Happening.requests_append, h]; exact List.append_nil _) hone
    refine Program.keeps_bind _ (hdeliver.imp (fun _ _ _ => trivial) fun _ _ h => h) fun past outcome h => ?_
    cases outcome <;> exact ⟨h, nofun⟩

/-- A gate that is shut although the token is confirmed does not call the job inactive. -/
theorem gate_ne_inactive (job : Job) (now : Instant) : job.gate true now ≠ .shut .inactive := by
  unfold gate
  simp only [Bool.not_true, Bool.false_eq_true, if_false]
  by_cases hstart : now < job.schedule.start
  · simp [hstart]
  · cases job.isDue now.toMinute <;> simp [hstart]

/-- A tick that finds its token confirmed does what its gate says: it executes the query once if the gate opens and otherwise makes
no request. -/
theorem keeps_tick_of_confirmed (services : Services) (job : Job) (now : Instant) :
    Program.Keeps (fun _ _ => True)
      (fun past result => job.Confirmed past → result.1 ≠ .inactive ∧ result.2 = job.beyond now ∧
        Happening.requests services.runner past = job.requestsIf services (job.fires now)) (job.tick services now) [] := by
  rw [tick_eq]
  refine ⟨trivial, fun read => ?_⟩
  simp only [List.nil_append]
  cases hread : Marker.confirms read job.token with
  | false =>
    rintro ⟨read', hhead, hconfirms⟩
    cases hhead
    rw [hread] at hconfirms
    cases hconfirms
  | true =>
    have hgate := job.gate_eq now
    cases hfires : job.fires now with
    | false =>
      obtain ⟨outcome, hshut⟩ : ∃ outcome, job.gate true now = .shut outcome := by simpa [hfires] using hgate
      have hactive : outcome ≠ .inactive := by
        rintro rfl
        exact gate_ne_inactive job now hshut
      rw [hshut]
      exact fun _ => ⟨hactive, by simp [beyond, hfires], rfl⟩
    | true =>
      have hfire : job.gate true now = .fire now.toMinute := by simpa [hfires] using hgate
      rw [hfire]
      refine Program.keeps_bind _ (keeps_fire services { job with lastFired := some now.toMinute } _)
        fun past outcome hfired _ => ⟨hfired.2, by simp [beyond, hfires], hfired.1⟩

/-- A tick looks first at the registry, as others have left it. -/
theorem looked_amid (services : Services) (job : Job) (now : Instant) (others : List (EngineState ρ → EngineState ρ))
    (s : EngineState ρ) :
    ((job.tick services now).amid services others s).steps.head? =
      some ⟨.look job.query.id, JobRegistry.get (others.headD id s).registry job.query.id⟩ := by
  rw [tick_eq, Program.amid_step]
  rfl

/-- A tick whose token is held goes on as its gate says, and executes the query once if the gate opens and otherwise makes no
request. -/
theorem tick_amid (services : Services) (job : Job) (now : Instant) (others : List (EngineState ρ → EngineState ρ))
    (s : EngineState ρ) (h : JobRegistry.holds (others.headD id s).registry job.query.id job.token = true) :
    ((job.tick services now).amid services others s).value.2 = job.beyond now ∧
      ((job.tick services now).amid services others s).requested = job.requestsIf services (job.fires now) := by
  have hconfirmed : job.Confirmed ((job.tick services now).amid services others s).steps :=
    ⟨_, job.looked_amid services now others s, h⟩
  obtain ⟨-, hbeyond, hrequests⟩ := (keeps_tick_of_confirmed services job now).amid services others s hconfirmed
  exact ⟨hbeyond, (Program.requested_amid ..).trans hrequests⟩

/-- A job that is told its next instant makes no request. -/
theorem keeps_afterTick_unrequested (services : Services) (job : Job) (next : Option Instant) :
    Program.Keeps (fun _ _ => True) (fun past _ => Happening.requests services.runner past = []) (job.afterTick next) [] := by
  rw [afterTick_eq]
  split
  · exact ⟨trivial, fun _ => ⟨trivial, fun _ => rfl⟩⟩
  · refine ⟨trivial, fun read => ?_⟩
    simp only
    split
    · rfl
    · exact ⟨trivial, fun _ => ⟨trivial, fun _ => rfl⟩⟩

end Job

namespace Course

variable {ρ : Type} [JobRegistry ρ] {services : Services} {c : Course ρ}

/-- The course of a job that begins in an engine. -/
def begin (job : Job) (engine : EngineState ρ) (others : List (EngineState ρ → EngineState ρ)) : Course ρ :=
  ⟨job, engine, others, [], []⟩

/-- The token of a job is held, and others leave the entry of its query as it is. -/
structure Held (c : Course ρ) : Prop where
  live : JobRegistry.holds c.engine.registry c.job.query.id c.job.token = true
  undisturbed : ∀ other ∈ c.others, ∀ s : EngineState ρ,
    JobRegistry.get (other s).registry c.job.query.id = JobRegistry.get s.registry c.job.query.id

/-- Of the job a tick changes at most its last firing. -/
theorem tick_job (services : Services) (c : Course ρ) (now : Instant) :
    ∃ last, ((Job.driven services).tick now c).job = { c.job with lastFired := last } := by
  obtain ⟨hjob, _⟩ := (Job.keeps_tick services c.job now).amid services c.others c.engine
  exact hjob

/-- A job that is told its next instant when it is over stops. -/
theorem afterTick_of_over {next : Option Instant} (h : c.job.isOver next = true) :
    ((Job.driven services).afterTick next c).1 = .stop := by
  change ((c.job.afterTick next).amid services c.others c.engine).value = _
  rw [Job.afterTick_eq, if_pos h]
  rfl

/-- A token that is held is still held once others have done what they do before the next step. -/
theorem Held.before (h : c.Held) : JobRegistry.holds (c.others.headD id c.engine).registry c.job.query.id c.job.token = true := by
  have hlive := h.live
  unfold JobRegistry.holds at *
  cases hothers : c.others with
  | nil => exact hlive
  | cons other rest =>
    rw [List.headD_cons, h.undisturbed other (hothers ▸ List.mem_cons_self ..)]
    exact hlive

/-- A tick whose token is held: it executes the query once if its gate opens and otherwise makes no request, the job goes on as the
gate says, and the token is still held. -/
theorem Held.tick (h : c.Held) (services : Services) (now : Instant) :
    ((Job.driven services).tick now c).Held ∧ ((Job.driven services).tick now c).job = c.job.beyond now ∧
      ∃ noted : NotedTick ρ, ((Job.driven services).tick now c).ticked = c.ticked ++ [noted] ∧ noted.now = now ∧
        noted.requests = c.job.requestsIf services (c.job.fires now) := by
  obtain ⟨hjob, hrequested⟩ := c.job.tick_amid services now c.others c.engine h.before
  refine ⟨?_, hjob, _, rfl, rfl, hrequested⟩
  have hlive := (Job.keeps_tick services c.job now).amid_frame services
    (fun s => JobRegistry.holds s.registry c.job.query.id c.job.token = true)
    (fun other ho s hs => by
      unfold JobRegistry.holds at *
      rw [h.undisturbed other ho]
      exact hs)
    (fun past action s hasks hs => by
      rw [hasks.registry]
      exact hs) h.live
  obtain ⟨last, hlast⟩ := tick_job services c now
  constructor
  · rw [hlast]
    exact hlive
  · intro other ho s
    rw [hlast]
    exact h.undisturbed other (Program.others_amid services c.others c.engine _ ho) s

/-- A job that is told its next instant when it is not over, and its token is held, goes on and still holds it. -/
theorem Held.goOn (h : c.Held) (services : Services) {next : Option Instant} (hover : c.job.isOver next = false) :
    ((Job.driven services).afterTick next c).1 = .goOn ∧ ((Job.driven services).afterTick next c).2.Held := by
  have hlive := h.before
  have hran : (c.job.afterTick next).amid services c.others c.engine =
      ⟨.goOn, [⟨c.others.headD id c.engine, ⟨.look c.job.query.id,
          JobRegistry.get (c.others.headD id c.engine).registry c.job.query.id⟩, c.others.headD id c.engine⟩], c.others.tail,
        c.others.headD id c.engine⟩ := by
    unfold JobRegistry.holds at hlive
    rw [Job.afterTick_eq, if_neg (by simp [hover]), Program.amid_step]
    simp only [EngineState.perform, hlive, if_true, Program.amid_done]
  refine ⟨congrArg Ran.value hran, ?_, ?_⟩
  · change JobRegistry.holds ((c.job.afterTick next).amid services c.others c.engine).engine.registry _ _ = true
    rw [hran]
    exact hlive
  · intro other ho s
    change other ∈ ((c.job.afterTick next).amid services c.others c.engine).others at ho
    rw [hran] at ho
    exact h.undisturbed other (List.mem_of_mem_tail ho) s

/-- A job that is told its next instant when it is over gives up its entry: nothing is left of it in a fault-free registry. -/
theorem Held.gone [JobRegistry.FaultFree ρ] (h : c.Held) (services : Services) {next : Option Instant}
    (hover : c.job.isOver next = true) :
    JobRegistry.get ((Job.driven services).afterTick next c).2.engine.registry c.job.query.id = .ok none := by
  have hlive := h.before
  unfold JobRegistry.holds at hlive
  rw [JobRegistry.confirms_eq_carries] at hlive
  change JobRegistry.get ((c.job.afterTick next).amid services c.others c.engine).engine.registry c.job.query.id = .ok none
  rw [Job.afterTick_eq, if_pos hover]
  unfold Job.stopping
  rw [Program.amid_step, Program.amid_step]
  simp only [Program.amid_done, EngineState.perform]
  have hremoved : JobRegistry.get (JobRegistry.removeIfOwned (c.others.headD id c.engine).registry c.job.query.id c.job.token).2
      c.job.query.id = .ok none := by
    rw [JobRegistry.FaultFree.get_eq, JobRegistry.FaultFree.removeIfOwned_entry, if_pos ⟨rfl, hlive⟩]
  cases hothers : c.others.tail with
  | nil => simpa [hothers] using hremoved
  | cons other rest =>
    have hmem : other ∈ c.others := List.mem_of_mem_tail (hothers ▸ List.mem_cons_self ..)
    rw [List.headD_cons, h.undisturbed other hmem]
    exact hremoved

/-- With nobody else around a job is driven as it is alone. -/
theorem driven_alone (services : Services) (job : Job) (activated : Instant) (rounds : List Round) (engine : EngineState ρ) :
    let run := (Job.driven services).run job.recurrence activated rounds (.begin job engine [])
    let alone := (Job.task services).run job.recurrence activated rounds (job, engine)
    run.events = alone.events ∧ run.status = alone.status ∧ (run.state.job, run.state.engine) = alone.state := by
  have hsimulate := TimedTask.run_simulate (Job.driven services) (Job.task services)
    (fun (c : Course ρ) t => c.others = [] ∧ (c.job, c.engine) = t)
    (fun now c t ht => by
      obtain ⟨halone, rfl⟩ := ht
      obtain ⟨hvalue, hengine, hothers⟩ := Program.amid_alone services (c.job.tick services now) c.engine
      unfold Job.driven Job.task
      simp only [halone, hvalue, hengine, hothers, and_self])
    (fun following c t ht => by
      obtain ⟨halone, rfl⟩ := ht
      obtain ⟨hvalue, hengine, hothers⟩ := Program.amid_alone services (c.job.afterTick following) c.engine
      unfold Job.driven Job.task
      simp only [halone, hvalue, hengine, hothers, and_self])
    job.recurrence activated rounds (s := .begin job engine []) ⟨rfl, rfl⟩
  exact ⟨hsimulate.1, hsimulate.2.1, hsimulate.2.2.2⟩

/-- What holds of the course of a job at its beginning and is kept by its ticks and its answers holds of it at the end of a run. -/
theorem run_invariant (services : Services) (r : Recurrence) (activated : Instant) (rounds : List Round) {c : Course ρ}
    (holds : Course ρ → Prop) (htick : ∀ now c, holds c → holds ((Job.driven services).tick now c))
    (hafter : ∀ following c, holds c → holds ((Job.driven services).afterTick following c).2) (hc : holds c) :
    holds ((Job.driven services).run r activated rounds c).state := by
  unfold TimedTask.run
  cases r.nextAfter activated with
  | error e => exact hc
  | ok next? =>
    cases next? with
    | none => exact hafter none c hc
    | some next =>
      exact TimedTask.rounds_relate (Job.driven services) (fun c _ c' => holds c → holds c') (fun _ h => h)
        (fun c _ now h => htick now c h) (fun c _ c' following h hc => hafter following c' (h hc))
        (fun _ _ _ _ _ h h' hc => h' (h hc)) r rounds next c hc

/-- The engine's requests are those that it began with and those of the ticks, if others make none. -/
theorem requested_run (services : Services) (job : Job) (activated : Instant) (rounds : List Round) (engine : EngineState ρ)
    (others : List (EngineState ρ → EngineState ρ)) (hothers : ∀ other ∈ others, ∀ s, (other s).requests = s.requests) :
    let run := (Job.driven services).run job.recurrence activated rounds (.begin job engine others)
    run.state.engine.requests = engine.requests ++ run.state.ticked.flatMap NotedTick.requests := by
  have hboth := run_invariant services job.recurrence activated rounds (c := .begin job engine others)
    (fun c => (∀ other ∈ c.others, ∀ s, (other s).requests = s.requests) ∧
      c.engine.requests = engine.requests ++ c.ticked.flatMap NotedTick.requests)
    (fun now c ⟨hleft, hc⟩ => by
      refine ⟨fun other ho => hleft other (Program.others_amid services c.others c.engine _ ho), ?_⟩
      change ((c.job.tick services now).amid services c.others c.engine).engine.requests = _
      rw [Program.requests_amid services c.engine hleft, hc]
      simp [Job.driven, NotedTick.requests, Ran.requested])
    (fun following c ⟨hleft, hc⟩ => by
      refine ⟨fun other ho => hleft other (Program.others_amid services c.others c.engine _ ho), ?_⟩
      have hnone := (Job.keeps_afterTick_unrequested services c.job following).amid services c.others c.engine
      change ((c.job.afterTick following).amid services c.others c.engine).engine.requests = _
      rw [Program.requests_amid services c.engine hleft, hc, Program.requested_amid, hnone, List.append_nil]
      rfl)
    ⟨hothers, (List.append_nil _).symm⟩
  exact hboth.2

/-- Every execution of a run is answered as the catalog answers after the requests made before. -/
theorem answered_run (services : Services) (job : Job) (activated : Instant) (rounds : List Round) (engine : EngineState ρ)
    (others : List (EngineState ρ → EngineState ρ)) :
    ∀ noted ∈ ((Job.driven services).run job.recurrence activated rounds (.begin job engine others)).state.ticked,
      ∀ t ∈ noted.taken, ∀ expression answer, t.happening = ⟨.execute expression, answer⟩ →
        answer = (services.runner.run t.before.requests expression).1 := by
  refine run_invariant services job.recurrence activated rounds (fun c : Course ρ => ∀ noted ∈ c.ticked, ∀ t ∈ noted.taken,
    ∀ expression answer, t.happening = ⟨.execute expression, answer⟩ →
      answer = (services.runner.run t.before.requests expression).1) (fun now c hc noted hnoted => ?_) (fun _ _ hc => hc) nofun
  rcases List.mem_append.1 hnoted with hbefore | hlast
  · exact hc noted hbefore
  · rw [List.mem_singleton.1 hlast]
    exact fun t ht expression answer hexecute => Program.answered_of_taken services c.others c.engine _ ht hexecute

/-- The notes of a run are of its ticks. -/
theorem noted_run (services : Services) (r : Recurrence) (activated : Instant) (rounds : List Round) (job : Job)
    (engine : EngineState ρ) (others : List (EngineState ρ → EngineState ρ)) :
    ((Job.driven services).run r activated rounds (.begin job engine others)).state.ticked.map NotedTick.now =
      ((Job.driven services).run r activated rounds (.begin job engine others)).ticks.map Prod.snd := by
  unfold TimedTask.run
  cases r.nextAfter activated with
  | error e => rfl
  | ok next? =>
    cases next? with
    | none => rfl
    | some next =>
      have hnoted := TimedTask.rounds_relate (Job.driven services)
        (fun (c : Course ρ) ticks c' => c'.ticked.map NotedTick.now = c.ticked.map NotedTick.now ++ ticks.map Prod.snd)
        (fun c => by simp) (fun c instant now => by simp [Job.driven]) (fun c ticks c' following h => h)
        (fun c ticks c' ticks' c'' h h' => by simp [h, h']) r rounds next (.begin job engine others)
      simpa [begin] using hnoted

/-- An engine whose registry holds a token for a query. -/
def Sample.holding : EngineState MemoryRegistry :=
  .fresh (MemoryRegistry.empty.putIfAbsent "q" ⟨.ofNat 1, ⟨1772629620, 0⟩⟩).2

end Course

/-- The ticks of a run at which a query was executed, whichever it was. -/
def TimerRun.executed {ρ : Type} (run : TimerRun (Course ρ)) : List (Instant × Instant) :=
  ((run.ticks.zip run.state.ticked).filter fun (_, noted) => !noted.requests.isEmpty).map Prod.fst

end StandingQuery
