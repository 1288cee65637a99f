import StandingQuery.Proofs.NextInstant
import StandingQuery.Scheduler.Timer

/-!
# Runs of timers

What one round of a timer does, by what the clock and the task say (`TimedTask.turn`), and the ticks of a run.
A task that stops when its next instant is past an end ticks past that end only in a run of a single tick
(`TimedTask.only_tick_past`).
-/

namespace StandingQuery

/-- The instant and the beginning of a tick. -/
def TimerEvent.tick? : TimerEvent → Option (Instant × Instant)
  | .tick instant now => some (instant, now)
  | .afterTick _ => none

/-- The ticks of a run, each with its instant and its beginning. -/
def TimerRun.ticks {σ : Type} (run : TimerRun σ) : List (Instant × Instant) := run.events.filterMap TimerEvent.tick?

namespace TimedTask

variable {σ : Type} {task : TimedTask σ} {r : Recurrence} {round : Round} {later : List Round} {next : Instant} {s : σ}

/-- The moment at which a tick begins. -/
def beginning (round : Round) (next : Instant) : Instant := max round.reading next

theorem le_beginning (round : Round) (next : Instant) : next ≤ beginning round next := le_max_right _ _

/-- A timer that is found cancelled while it waits does nothing. -/
theorem rounds_cancelled (hc : round.cancelledWaiting = true) :
    task.rounds r (round :: later) next s = ⟨s, [], .finished⟩ := by
  simp [rounds, hc]

/-- A round in which the next instant cannot be looked for. -/
theorem rounds_lost (hc : round.cancelledWaiting = false) {e : HorizonError}
    (hnext : r.nextAfter (beginning round next) = .error e) :
    task.rounds r (round :: later) next s =
      ⟨task.tick (beginning round next) s, [.tick next (beginning round next)], .lost e⟩ := by
  unfold beginning at *
  simp only [rounds, hc, hnext, Bool.false_eq_true, if_false]

/-- A round after which the timer is over: the recurrence has ended, the task stops, or the timer is found cancelled. -/
theorem rounds_over (hc : round.cancelledWaiting = false) {following : Option Instant}
    (hnext : r.nextAfter (beginning round next) = .ok following)
    (hover : following = none ∨ (task.afterTick following (task.tick (beginning round next) s)).1 = .stop ∨
      round.cancelledAfter = true) :
    task.rounds r (round :: later) next s =
      ⟨(task.afterTick following (task.tick (beginning round next) s)).2,
        [.tick next (beginning round next), .afterTick following], .finished⟩ := by
  unfold beginning at *
  cases following with
  | none => simp only [rounds, hc, hnext, Bool.false_eq_true, if_false]
  | some instant =>
    have hstop := hover.resolve_left (Option.some_ne_none instant)
    simp only [rounds, hc, hnext, hstop, Bool.false_eq_true, if_false, if_true]

/-- A round after which the timer goes on. -/
theorem rounds_goOn (hc : round.cancelledWaiting = false) {following : Instant}
    (hnext : r.nextAfter (beginning round next) = .ok (some following))
    (hgoOn : ¬((task.afterTick (some following) (task.tick (beginning round next) s)).1 = .stop ∨
      round.cancelledAfter = true)) :
    task.rounds r (round :: later) next s =
      { task.rounds r later following (task.afterTick (some following) (task.tick (beginning round next) s)).2 with
        events := [.tick next (beginning round next), .afterTick (some following)] ++
          (task.rounds r later following (task.afterTick (some following) (task.tick (beginning round next) s)).2).events } := by
  unfold beginning at *
  simp only [rounds, hc, hnext, hgoOn, Bool.false_eq_true, if_false]

/-- What can come of one round: nothing, a tick after which the timer is lost, a tick and an answer after which it is over, or
a tick and an answer after which it goes on. -/
inductive Turn (task : TimedTask σ) (r : Recurrence) (round : Round) (later : List Round) (next : Instant) (s : σ) :
    TimerRun σ → Prop where
  | cancelled (hc : round.cancelledWaiting = true) : Turn task r round later next s ⟨s, [], .finished⟩
  | lost {e : HorizonError} (hc : round.cancelledWaiting = false) :
      Turn task r round later next s ⟨task.tick (beginning round next) s, [.tick next (beginning round next)], .lost e⟩
  | ended {following : Option Instant} (hc : round.cancelledWaiting = false) :
      Turn task r round later next s
        ⟨(task.afterTick following (task.tick (beginning round next) s)).2,
          [.tick next (beginning round next), .afterTick following], .finished⟩
  | goOn {following : Instant} (hnext : r.nextAfter (beginning round next) = .ok (some following))
      (hanswer : (task.afterTick (some following) (task.tick (beginning round next) s)).1 ≠ .stop) :
      Turn task r round later next s
        { task.rounds r later following (task.afterTick (some following) (task.tick (beginning round next) s)).2 with
          events := [.tick next (beginning round next), .afterTick (some following)] ++
            (task.rounds r later following (task.afterTick (some following) (task.tick (beginning round next) s)).2).events }

/-- Nothing else can come of a round. -/
theorem turn (task : TimedTask σ) (r : Recurrence) (round : Round) (later : List Round) (next : Instant) (s : σ) :
    Turn task r round later next s (task.rounds r (round :: later) next s) := by
  cases hc : round.cancelledWaiting with
  | true =>
    rw [rounds_cancelled hc]
    exact .cancelled hc
  | false =>
    cases hnext : r.nextAfter (beginning round next) with
    | error e =>
      rw [rounds_lost hc hnext]
      exact .lost hc
    | ok following? =>
      cases following? with
      | none =>
        rw [rounds_over hc hnext (Or.inl rfl)]
        exact .ended hc
      | some following =>
        by_cases hstop : (task.afterTick (some following) (task.tick (beginning round next) s)).1 = .stop ∨
            round.cancelledAfter = true
        · rw [rounds_over hc hnext (Or.inr hstop)]
          exact .ended hc
        · rw [rounds_goOn hc hnext hstop]
          exact .goOn hnext fun hanswer => hstop (Or.inl hanswer)

/-- A timer that is not found cancelled while it waits ticks for the instant that it waited for. -/
theorem mem_ticks_first (hc : round.cancelledWaiting = false) :
    (next, beginning round next) ∈ (task.rounds r (round :: later) next s).ticks := by
  have hturn := task.turn r round later next s
  generalize task.rounds r (round :: later) next s = run at hturn ⊢
  cases hturn with
  | cancelled hc' =>
    rw [hc] at hc'
    cases hc'
  | lost _ => exact List.mem_cons_self ..
  | ended _ => exact List.mem_cons_self ..
  | goOn _ _ => exact List.mem_cons_self ..

/-- What relates the ticks of a run to what becomes of its state: a relation that is kept when the task is told its next
instant, and that may be pursued from tick to tick. -/
theorem rounds_relate (task : TimedTask σ) (relates : σ → List (Instant × Instant) → σ → Prop) (hnil : ∀ s, relates s [] s)
    (htick : ∀ s instant now, relates s [(instant, now)] (task.tick now s))
    (hafter : ∀ s ticks s' following, relates s ticks s' → relates s ticks (task.afterTick following s').2)
    (htrans : ∀ s ticks s' ticks' s'', relates s ticks s' → relates s' ticks' s'' → relates s (ticks ++ ticks') s'')
    (r : Recurrence) (rounds : List Round) (next : Instant) (s : σ) :
    relates s (task.rounds r rounds next s).ticks (task.rounds r rounds next s).state := by
  induction rounds generalizing next s with
  | nil => exact hnil s
  | cons round later ih =>
    have hticked := htick s next (beginning round next)
    have hturn := task.turn r round later next s
    generalize task.rounds r (round :: later) next s = run at hturn ⊢
    cases hturn with
    | cancelled _ => exact hnil s
    | lost _ => exact hticked
    | ended _ => exact hafter _ _ _ _ hticked
    | goOn _ _ => exact htrans _ _ _ _ _ (hafter _ _ _ _ hticked) (ih _ _)

/-- A task that does the same as another, and answers the same, is driven the same way. -/
theorem rounds_simulate {τ : Type} (task : TimedTask σ) (other : TimedTask τ) (same : σ → τ → Prop)
    (htick : ∀ now s t, same s t → same (task.tick now s) (other.tick now t))
    (hafter : ∀ following s t, same s t →
      (task.afterTick following s).1 = (other.afterTick following t).1 ∧
        same (task.afterTick following s).2 (other.afterTick following t).2)
    (r : Recurrence) (rounds : List Round) (next : Instant) {s : σ} {t : τ} (hs : same s t) :
    (task.rounds r rounds next s).events = (other.rounds r rounds next t).events ∧
      (task.rounds r rounds next s).status = (other.rounds r rounds next t).status ∧
        same (task.rounds r rounds next s).state (other.rounds r rounds next t).state := by
  induction rounds generalizing next s t with
  | nil => exact ⟨rfl, rfl, hs⟩
  | cons round later ih =>
    have hticked := htick (beginning round next) s t hs
    cases hc : round.cancelledWaiting with
    | true =>
      rw [rounds_cancelled hc, rounds_cancelled hc]
      exact ⟨rfl, rfl, hs⟩
    | false =>
      cases hnext : r.nextAfter (beginning round next) with
      | error e =>
        rw [rounds_lost hc hnext, rounds_lost hc hnext]
        exact ⟨rfl, rfl, hticked⟩
      | ok following? =>
        obtain ⟨hanswer, htold⟩ := hafter following? _ _ hticked
        cases following? with
        | none =>
          rw [rounds_over hc hnext (Or.inl rfl), rounds_over hc hnext (Or.inl rfl)]
          exact ⟨rfl, rfl, htold⟩
        | some following =>
          by_cases hstop : (task.afterTick (some following) (task.tick (beginning round next) s)).1 = .stop ∨
              round.cancelledAfter = true
          · rw [rounds_over hc hnext (Or.inr hstop), rounds_over hc hnext (Or.inr (hanswer ▸ hstop))]
            exact ⟨rfl, rfl, htold⟩
          · obtain ⟨hevents, hstatus, hstate⟩ := ih following htold
            rw [rounds_goOn hc hnext hstop, rounds_goOn hc hnext (hanswer ▸ hstop)]
            exact ⟨congrArg (fun events => [TimerEvent.tick next (beginning round next), .afterTick (some following)] ++ events)
              hevents, hstatus, hstate⟩

/-- A task that does the same as another, and answers the same, is driven the same way from the start. -/
theorem run_simulate {τ : Type} (task : TimedTask σ) (other : TimedTask τ) (same : σ → τ → Prop)
    (htick : ∀ now s t, same s t → same (task.tick now s) (other.tick now t))
    (hafter : ∀ following s t, same s t →
      (task.afterTick following s).1 = (other.afterTick following t).1 ∧
        same (task.afterTick following s).2 (other.afterTick following t).2)
    (r : Recurrence) (start : Instant) (rounds : List Round) {s : σ} {t : τ} (hs : same s t) :
    (task.run r start rounds s).events = (other.run r start rounds t).events ∧
      (task.run r start rounds s).status = (other.run r start rounds t).status ∧
        same (task.run r start rounds s).state (other.run r start rounds t).state := by
  unfold TimedTask.run
  cases r.nextAfter start with
  | error e => exact ⟨rfl, rfl, hs⟩
  | ok next? =>
    cases next? with
    | none => exact ⟨rfl, rfl, (hafter none s t hs).2⟩
    | some next => exact rounds_simulate task other same htick hafter r rounds next hs

/-- Of a task that stops when its next instant is past an end, a tick for an instant past that end is the only one of its run,
and is for the instant that the timer waited for first. -/
theorem only_tick_past (inv : σ → Prop) (finish : Instant) (htick : ∀ now s, inv s → inv (task.tick now s))
    (hafter : ∀ following s, inv s → inv (task.afterTick following s).2)
    (hstop : ∀ following s, inv s → finish < following → (task.afterTick (some following) s).1 = .stop) (rounds : List Round)
    (hs : inv s) {tick : Instant × Instant} (hmem : tick ∈ (task.rounds r rounds next s).ticks) (hpast : finish < tick.1) :
    (task.rounds r rounds next s).ticks = [tick] ∧ tick.1 = next := by
  induction rounds generalizing next s with
  | nil => cases hmem
  | cons round later ih =>
    have hturn := task.turn r round later next s
    generalize task.rounds r (round :: later) next s = run at hturn hmem ⊢
    cases hturn with
    | cancelled _ => cases hmem
    | lost _ =>
      cases List.mem_singleton.1 hmem
      exact ⟨rfl, rfl⟩
    | ended _ =>
      cases List.mem_singleton.1 hmem
      exact ⟨rfl, rfl⟩
    | @goOn following hnext hanswer =>
      have hticked := htick (beginning round next) s hs
      have hwithin : ¬finish < following := fun hlt => hanswer (hstop following _ hticked hlt)
      have hlater : next < following := lt_of_le_of_lt (le_beginning round next) (Recurrence.isNext_of_nextAfter hnext).later
      rcases List.mem_cons.1 hmem with rfl | hmem
      · exact absurd (lt_trans hpast hlater) hwithin
      · obtain ⟨_, hinstant⟩ := ih (hafter _ _ hticked) hmem
        exact absurd (hinstant ▸ hpast) hwithin

end TimedTask

end StandingQuery
