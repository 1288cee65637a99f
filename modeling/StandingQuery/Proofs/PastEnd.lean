import StandingQuery.Proofs.Cluster
import StandingQuery.Proofs.Courses

/-!
# Ticks past the end

The end of a schedule is looked at only when its job is told its next instant, after a tick. So a job whose schedule is over
before the first instant after its activation still has that one tick, and no other (`Course.executed_by_finish`); at it the
query may be executed (`Course.executed_past_finish`).
-/

namespace StandingQuery

namespace Course

variable {ρ : Type} [JobRegistry ρ]

/-- Whatever others do and however the clock is read, the query is executed for no instant past the end of the schedule, but
for one: when the job was activated after the last instant before the end, the first tick after the activation is for an
instant past the end, and it is the only tick of the run. -/
theorem executed_by_finish (services : Services) (job : Job) (activated : Instant) (rounds : List Round) (engine : EngineState ρ)
    (others : List (EngineState ρ → EngineState ρ)) :
    let run := (Job.driven services).run job.recurrence activated rounds (.begin job engine others)
    run.state.ticked.map NotedTick.now = run.ticks.map Prod.snd ∧
      ∀ tick ∈ run.executed, tick.1 ≤ job.schedule.finish ∨
        run.ticks = [tick] ∧ job.recurrence.IsNext activated tick.1 ∧
          ∀ u, job.recurrence.includes u = true → u ≤ job.schedule.finish → u ≤ activated := by
  intro run
  refine ⟨noted_run services _ _ _ _ _ _, fun tick hexecuted => ?_⟩
  obtain ⟨⟨tick', noted⟩, hfiltered, rfl⟩ := List.mem_map.1 hexecuted
  have htick : tick' ∈ run.ticks := (List.of_mem_zip (List.mem_filter.1 hfiltered).1).1
  refine (le_or_gt tick'.1 job.schedule.finish).imp_right fun hpast => ?_
  unfold run TimedTask.run at htick ⊢
  cases hnext : job.recurrence.nextAfter activated with
  | error e =>
    rw [hnext] at htick
    cases htick
  | ok next? =>
    cases next? with
    | none =>
      rw [hnext] at htick
      cases htick
    | some next =>
      rw [hnext] at htick
      obtain ⟨honly, hfirst⟩ := TimedTask.only_tick_past (fun c : Course ρ => c.job.schedule = job.schedule) job.schedule.finish
        (fun now c hc => by
          obtain ⟨last, hlast⟩ := tick_job services c now
          rw [hlast]
          exact hc)
        (fun following c hc => hc)
        (fun following c hc hlt => afterTick_of_over (by simpa [Job.isOver, hc] using hlt)) rounds rfl htick hpast
      have hisNext := Recurrence.isNext_of_nextAfter hnext
      refine ⟨honly, hfirst ▸ hisNext, fun u hu hwithin => ?_⟩
      by_contra hlater
      have hle := hisNext.first u hu (not_le.1 hlater)
      exact absurd (lt_of_le_of_lt (hle.trans hwithin) hpast) (by rw [hfirst]; exact lt_irrefl _)

namespace Sample

/-- A schedule that was over long before the token was drawn. -/
def hourly : Schedule := ⟨"alice", 1, .hours, ⟨1577836800, 0⟩, ⟨1577836800, 0⟩, []⟩

end Sample

open Cluster.Sample Sample in
/-- The query may be executed for an instant past the end: a job whose schedule is long over when it is activated fires at its
first tick. -/
theorem executed_past_finish :
    ¬∀ (services : Services) (query : StoredQuery) (token : Uuid) (schedule : Schedule) (activated : Instant)
      (rounds : List Round) (engine : EngineState MemoryRegistry)
      (others : List (EngineState MemoryRegistry → EngineState MemoryRegistry)),
      schedule.start ≤ schedule.finish →
        ∀ tick ∈ ((Job.driven services).run (Job.start query token schedule).recurrence activated rounds
          (.begin (.start query token schedule) engine others)).executed, tick.1 ≤ schedule.finish := by
  intro h
  have hrun : ((Job.driven (services true)).run (Job.start query (.ofNat 1) hourly).recurrence ⟨1772629620, 0⟩
      [⟨false, ⟨0, 0⟩, false⟩] (.begin (.start query (.ofNat 1) hourly) holding [])).executed =
        [(⟨1772632800, 0⟩, ⟨1772632800, 0⟩)] := by
    decide +kernel
  have hlate := h (services true) query (.ofNat 1) hourly ⟨1772629620, 0⟩ [⟨false, ⟨0, 0⟩, false⟩] holding [] (by decide)
  rw [hrun] at hlate
  exact absurd (hlate _ (List.mem_singleton_self _)) (by decide)

end Course

end StandingQuery
