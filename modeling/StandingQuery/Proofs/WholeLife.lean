import StandingQuery.Proofs.Cluster
import StandingQuery.Proofs.Rhythm

/-!
# The whole life of a job

A job that nobody disturbs, whose ticks begin within the minutes of their instants, ticks at every instant of its recurrence
up to the end of its schedule, executes its query in the rhythm of the schedule, and then stops and gives up its entry
(`Course.wholeLife_of_undisturbed`).
-/

namespace StandingQuery

namespace Course

variable {ρ : Type} [JobRegistry ρ] {services : Services}

/-- A job on its way through the ticks so far, some of which it has answered to. -/
structure Going (services : Services) (job : Job) (past : List (Instant × Instant)) (answered : Nat) (c : Course ρ) : Prop where
  held : c.Held
  /-- The job has gone on as its gate says. -/
  along : c.job = (past.map Prod.snd).foldl Job.beyond job
  begun : c.ticked.map NotedTick.now = past.map Prod.snd
  requests : c.ticked.map NotedTick.requests = (job.firings (past.map Prod.snd)).map (job.requestsIf services)
  answers : c.answers = List.replicate answered .goOn

/-- The whole life of a job from its activation, in an engine that others use too. -/
structure WholeLife (services : Services) (job : Job) (activated : Instant) (rounds : List Round) (engine : EngineState ρ)
    (others : List (EngineState ρ → EngineState ρ)) (run : TimerRun (Course ρ)) : Prop where
  /-- The timer has come to its end by itself. -/
  finished : run.status = .finished
  /-- It has ticked for no instant twice, -/
  ascending : (run.ticks.map Prod.fst).Pairwise (· < ·)
  /-- and for exactly the instants after the activation and up to the end. -/
  complete : ∀ t, t ∈ run.ticks.map Prod.fst ↔
    job.recurrence.includes t = true ∧ activated < t ∧ t ≤ job.schedule.finish
  /-- The job went on after every tick but the last, and stopped after that. -/
  stopped : run.state.answers = List.replicate (run.ticks.length - 1) .goOn ++ [.stop]
  /-- Its entry is gone. -/
  gone : JobRegistry.get run.state.engine.registry job.query.id = .ok none
  /-- The notes are of the ticks. -/
  noted : run.state.ticked.map NotedTick.now = run.ticks.map Prod.snd
  /-- No tick made a request of the catalog but the one for the query of the job, -/
  once : ∀ noted ∈ run.state.ticked, noted.requests = [] ∨ job.Executes services noted.requests
  /-- and which of them made it, follows the rhythm of the schedule. -/
  rhythm : job.schedule.Rhythm run.ticks fun i =>
    ∃ noted : NotedTick ρ, run.state.ticked[i]? = some noted ∧ job.Executes services noted.requests
  /-- Every execution was answered as the catalog answers after the requests made before. -/
  answered : ∀ noted ∈ run.state.ticked, ∀ t ∈ noted.taken, ∀ expression answer, t.happening = ⟨.execute expression, answer⟩ →
    answer = (services.runner.run t.before.requests expression).1
  /-- If others make no requests, the engine's are those that it began with and those of the ticks. -/
  requested : (∀ other ∈ others, ∀ s, (other s).requests = s.requests) →
    run.state.engine.requests = engine.requests ++ run.state.ticked.flatMap NotedTick.requests
  /-- With nobody else around it is the run of the job on its own. -/
  alone : others = [] →
    run.events = ((Job.task services).run job.recurrence activated rounds (job, engine)).events ∧
      run.status = ((Job.task services).run job.recurrence activated rounds (job, engine)).status ∧
        (run.state.job, run.state.engine) = ((Job.task services).run job.recurrence activated rounds (job, engine)).state

variable {job : Job} {past : List (Instant × Instant)} {answered : Nat} {c : Course ρ}

/-- Going on changes nothing of a job but its last firing. -/
theorem foldl_beyond (job : Job) (nows : List Instant) : ∃ last, nows.foldl Job.beyond job = { job with lastFired := last } := by
  induction nows generalizing job with
  | nil => exact ⟨job.lastFired, rfl⟩
  | cons now later ih =>
    obtain ⟨last, hlast⟩ := ih (job.beyond now)
    refine ⟨last, ?_⟩
    rw [List.foldl_cons, hlast]
    unfold Job.beyond
    split <;> rfl

/-- A job that goes on makes the requests of the job that it was. -/
theorem foldl_beyond_requestsIf (services : Services) (job : Job) (nows : List Instant) :
    (nows.foldl Job.beyond job).requestsIf services = job.requestsIf services := by
  obtain ⟨last, hlast⟩ := foldl_beyond job nows
  refine Job.requestsIf_congr services ?_
  rw [hlast]

/-- A job on its way carries the query and the schedule that it began with. -/
theorem Going.same (h : c.Going services job past answered) : c.job.query = job.query ∧ c.job.schedule = job.schedule := by
  obtain ⟨last, hlast⟩ := foldl_beyond job (past.map Prod.snd)
  rw [h.along, hlast]
  exact ⟨rfl, rfl⟩

/-- A tick takes a job on its way one tick further. -/
theorem Going.tick (h : c.Going services job past answered) (instant now : Instant) :
    ((Job.driven services).tick now c).Going services job (past ++ [(instant, now)]) answered := by
  obtain ⟨hheld, hbeyond, noted, hticked, hnow, hrequests⟩ := h.held.tick services now
  refine ⟨hheld, ?_, ?_, ?_, h.answers⟩
  · rw [hbeyond, h.along, List.map_append, List.foldl_append]
    rfl
  · rw [hticked, List.map_append, List.map_append, h.begun, List.map_singleton, hnow]
    rfl
  · rw [hticked, List.map_append, List.map_append, h.requests, List.map_singleton, hrequests, h.along, List.map_singleton,
      Job.firings_snoc, List.map_append, List.map_singleton, foldl_beyond_requestsIf]

/-- A job on its way goes on while its next instant is not past the end. -/
theorem Going.goOn (h : c.Going services job past answered) {following : Instant} (hwithin : following ≤ job.schedule.finish) :
    ((Job.driven services).afterTick (some following) c).1 = .goOn ∧
      ((Job.driven services).afterTick (some following) c).2.Going services job past (answered + 1) := by
  have hover : c.job.isOver (some following) = false := by
    unfold Job.isOver
    simpa [h.same.2] using hwithin
  obtain ⟨hanswer, hheld⟩ := h.held.goOn services hover
  refine ⟨hanswer, hheld, h.along, h.begun, h.requests, ?_⟩
  change c.answers ++ [((Job.driven services).afterTick (some following) c).1] = _
  rw [hanswer, h.answers, List.replicate_succ']

/-- A job on its way is over when its next instant is past the end. -/
theorem Going.isOver (h : c.Going services job past answered) {following : Instant} (hpast : job.schedule.finish < following) :
    c.job.isOver (some following) = true := by
  unfold Job.isOver
  simpa [h.same.2] using hpast

/-- What a job that has not fired has come to when it stops after its last tick. -/
theorem Going.wholeLife [JobRegistry.FaultFree ρ] {activated : Instant} {rounds : List Round} {engine : EngineState ρ}
    {others : List (EngineState ρ → EngineState ρ)} {run : TimerRun (Course ρ)}
    (hrun : run = (Job.driven services).run job.recurrence activated rounds (.begin job engine others))
    (hunfired : job.lastFired = none) (hamount : 1 ≤ job.schedule.amount)
    (hpunctual : ∀ tick ∈ run.ticks, tick.2.toMinute = tick.1) (hfinished : run.status = .finished)
    (hthrough : job.recurrence.Through job.schedule.finish activated (run.ticks.map Prod.fst))
    (h : c.Going services job run.ticks (run.ticks.length - 1)) {following : Instant} (hpast : job.schedule.finish < following)
    (hstate : run.state = ((Job.driven services).afterTick (some following) c).2) :
    WholeLife services job activated rounds engine others run := by
  have hover := h.isOver hpast
  have hticked : run.state.ticked = c.ticked := by
    rw [hstate]
    rfl
  have hexecutes : ∀ i : Nat, (∃ noted : NotedTick ρ, run.state.ticked[i]? = some noted ∧ job.Executes services noted.requests) ↔
      (job.firings (run.ticks.map Prod.snd))[i]? = some true := by
    intro i
    unfold Job.Executes
    rw [hticked, ← Option.map_eq_some_iff, ← List.getElem?_map, h.requests, List.getElem?_map, Option.map_eq_some_iff]
    constructor
    · rintro ⟨fired, hfired, hone⟩
      rwa [Job.executes_requestsIf.1 hone] at hfired
    · exact fun hfired => ⟨true, hfired, Job.executes_requestsIf.2 rfl⟩
  refine ⟨hfinished, hthrough.ascending, fun t => hthrough.mem_iff, ?_, ?_, ?_, ?_, ?_, ?_, ?_, ?_⟩
  · rw [hstate]
    change c.answers ++ [((Job.driven services).afterTick (some following) c).1] = _
    rw [afterTick_of_over hover, h.answers]
  · rw [hstate, ← h.same.1]
    exact h.held.gone services hover
  · rw [hticked]
    exact h.begun
  · rw [hticked]
    intro noted hnoted
    have hmem : noted.requests ∈ c.ticked.map NotedTick.requests := List.mem_map_of_mem hnoted
    rw [h.requests] at hmem
    obtain ⟨fired, _, heq⟩ := List.mem_map.1 hmem
    rw [← heq]
    cases fired with
    | true => exact Or.inr (Job.executes_requestsIf.2 rfl)
    | false => exact Or.inl rfl
  · simp only [hexecutes]
    exact Job.rhythm_of_through hunfired hamount hthrough hpunctual
  · rw [hrun]
    exact answered_run services job activated rounds engine others
  · rw [hrun]
    exact requested_run services job activated rounds engine others
  · rw [hrun]
    rintro rfl
    exact driven_alone services job activated rounds engine

/-- The whole life of a job: whatever the unit, the start, the end and the amount of its schedule and the moment of its
activation, if there is an instant of its recurrence between the activation and the end, the job's token is held by a
fault-free registry and left there by others, its timer is never found cancelled, and its ticks begin within the minutes of
their instants. No more rounds are needed than there are minutes. -/
theorem wholeLife_of_undisturbed [JobRegistry.FaultFree ρ] (services : Services) (query : StoredQuery) (token : Uuid)
    (schedule : Schedule) (activated : Instant) (rounds : List Round) (engine : EngineState ρ)
    (others : List (EngineState ρ → EngineState ρ)) (hamount : 1 ≤ schedule.amount)
    (hcalendar : schedule.finish.day + Recurrence.horizon ≤ Date.lastDay)
    (hsome : ∃ t, (Job.start query token schedule).recurrence.includes t = true ∧ activated < t ∧ t ≤ schedule.finish)
    (hheld : JobRegistry.holds engine.registry query.id token = true)
    (hothers : ∀ other ∈ others, ∀ s : EngineState ρ,
      JobRegistry.get (other s).registry query.id = JobRegistry.get s.registry query.id)
    (huncancelled : ∀ round ∈ rounds, round.cancelledWaiting = false ∧ round.cancelledAfter = false)
    (henough : schedule.finish.seconds - activated.seconds ≤ 60 * rounds.length)
    (hpunctual : ∀ tick ∈ ((Job.driven services).run (Job.start query token schedule).recurrence activated rounds
      (.begin (.start query token schedule) engine others)).ticks, tick.2.toMinute = tick.1) :
    WholeLife services (.start query token schedule) activated rounds engine others
      ((Job.driven services).run (Job.start query token schedule).recurrence activated rounds
        (.begin (.start query token schedule) engine others)) := by
  obtain ⟨t, hincluded, hafter, hwithin⟩ := hsome
  have hfinds : ∀ now : Instant, now.day ≤ schedule.finish.day →
      ∃ following, (Job.start query token schedule).recurrence.nextAfter now = .ok (some following) :=
    fun now hday => Recurrence.exists_nextAfter schedule.unit schedule.start now (by omega)
  obtain ⟨next, hnext⟩ := hfinds activated (Instant.day_mono (hafter.trans_le hwithin).le)
  have hisNext := Recurrence.isNext_of_nextAfter hnext
  have hlater : activated.seconds < next.seconds := by
    have hlt := hisNext.later
    rw [Instant.lt_def, (Recurrence.isMinute_of_includes hisNext.included).1] at hlt
    omega
  have hrounds : (Job.driven services).run (Job.start query token schedule).recurrence activated rounds
      (.begin (.start query token schedule) engine others) =
        (Job.driven services).rounds (Job.start query token schedule).recurrence rounds next
          (.begin (.start query token schedule) engine others) := by
    unfold TimedTask.run
    rw [hnext]
  have hbegin : (begin (.start query token schedule) engine others).Going services (.start query token schedule) [] 0 :=
    ⟨⟨hheld, hothers⟩, rfl, rfl, rfl, rfl⟩
  obtain ⟨hfinished, hthrough, c, following, ⟨answered, hanswered, hgoing⟩, hpast, hstate⟩ :=
    TimedTask.through_of_punctual schedule.finish
      (fun past (c : Course ρ) => c.Going services (.start query token schedule) past past.length)
      (fun past (c : Course ρ) => ∃ answered, past.length = answered + 1 ∧
        c.Going services (.start query token schedule) past answered)
      (fun past instant now c hc => ⟨past.length, List.length_append, hc.tick instant now⟩)
      (fun past following c hc hgoes => by
        obtain ⟨answered, hanswered, hc⟩ := hc
        rw [hanswered]
        exact hc.goOn hgoes)
      (fun past following c hc hpast => by
        obtain ⟨_, _, hc⟩ := hc
        exact afterTick_of_over (hc.isOver hpast))
      hfinds huncancelled hisNext ((hisNext.first t hincluded hafter).trans hwithin) (by omega) hbegin (hrounds ▸ hpunctual)
  rw [List.nil_append, ← hrounds] at hanswered hgoing
  rw [← hrounds] at hfinished hthrough hstate
  have hlast : answered = _ := Nat.eq_sub_of_add_eq hanswered.symm
  exact Going.wholeLife rfl rfl hamount hpunctual hfinished hthrough (hlast ▸ hgoing) hpast hstate

namespace Sample

/-- A schedule of every other minute, for two minutes from the second minute after the token was drawn. -/
def everyOther : Schedule := ⟨"alice", 2, .minutes, ⟨1772629740, 0⟩, ⟨1772629860, 0⟩, []⟩

/-- Four rounds whose ticks begin five seconds late. -/
def late : List Round := [1772629685, 1772629745, 1772629805, 1772629865].map fun second => ⟨false, ⟨second, 0⟩, false⟩

end Sample

open Cluster.Sample Sample in
/-- A job lives through its schedule: of its four ticks it fires at the second and at the fourth. -/
theorem wholeLife_everyOther :
    let run := (Job.driven (Cluster.Sample.services true)).run (Job.start query (.ofNat 1) everyOther).recurrence
      ⟨1772629620, 0⟩ late (.begin (.start query (.ofNat 1) everyOther) holding [])
    WholeLife (Cluster.Sample.services true) (.start query (.ofNat 1) everyOther) ⟨1772629620, 0⟩ late holding [] run ∧
      run.executed.map Prod.fst = [⟨1772629740, 0⟩, ⟨1772629860, 0⟩] := by
  intro run
  refine ⟨wholeLife_of_undisturbed (Cluster.Sample.services true) query (.ofNat 1) everyOther ⟨1772629620, 0⟩ late holding []
    (by decide) (by decide +kernel) ⟨⟨1772629680, 0⟩, by decide +kernel⟩ (by decide +kernel)
    (fun _ h => absurd h List.not_mem_nil) (by decide) (by decide) (by decide +kernel), ?_⟩
  decide +kernel

end Course

end StandingQuery
