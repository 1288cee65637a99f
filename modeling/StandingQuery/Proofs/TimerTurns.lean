import Mathlib.Data.List.Chain
import StandingQuery.Proofs.TimerRuns

/-!
# The turns of a timer

A timer does to its task what it does in turns: a tick for an instant, begun at a moment, and then the task is told what follows
the moment. Whatever the clock shows and whatever the task does, the turns of a run go forward in time, each for the instant
that was told in the turn before, and the run ends with the first turn after which it has to (`TimedTask.run_inTurns`).
-/

namespace StandingQuery

/-- One turn of a timer: a tick for an instant, begun at a moment, and what the task was told after it. -/
structure TimerTurn where
  instant : Instant
  now : Instant
  told : Option Instant
  deriving DecidableEq, Repr

/-- What happens in a turn. -/
def TimerTurn.events (turn : TimerTurn) : List TimerEvent := [.tick turn.instant turn.now, .afterTick turn.told]

namespace TimedTask

variable {σ : Type} {task : TimedTask σ} {r : Recurrence} {rounds : List Round} {after next : Instant} {s : σ}
  {run : TimerRun σ} {turns : List TimerTurn}

/-- What a task answers at the end of a turn, and what the turn makes of its state. -/
def take (task : TimedTask σ) (turn : TimerTurn) (s : σ) : Continuation × σ :=
  task.afterTick turn.told (task.tick turn.now s)

/-- What some turns make of the state of a task. -/
def takeAll (task : TimedTask σ) (turns : List TimerTurn) (s : σ) : σ := turns.foldl (fun s turn => (task.take turn s).2) s

/-- Whether a timer has to end with a turn that it takes in a round: nothing follows, the task stops, or the timer is found
cancelled. -/
def EndsWith (task : TimedTask σ) (round : Round) (turn : TimerTurn) (s : σ) : Prop :=
  turn.told = none ∨ (task.take turn s).1 = .stop ∨ round.cancelledAfter = true

/-- How the run of a timer goes from an instant on, turn by turn: each turn in a round of its own. -/
structure InTurns (task : TimedTask σ) (r : Recurrence) (rounds : List Round) (after : Instant) (s : σ) (run : TimerRun σ)
    (turns : List TimerTurn) : Prop where
  /-- Every tick is followed by the one instant that its task is told, and nothing else happens. -/
  events : run.events = turns.flatMap TimerTurn.events
  state : run.state = task.takeAll turns s
  /-- A tick is for an instant of the recurrence and begins at it or later, and the task is told what follows its beginning. -/
  recurs : ∀ turn ∈ turns, r.includes turn.instant = true ∧ turn.instant ≤ turn.now ∧ r.Follows turn.now turn.told
  ascends : turns.Pairwise fun turn later => turn.instant < later.instant ∧ turn.now < later.now
  /-- The next tick is for the instant that was told. -/
  chained : turns.IsChain fun turn later => turn.told = some later.instant
  first : ∀ turn ∈ turns.head?, r.IsNext after turn.instant
  paced : turns.length ≤ rounds.length
  /-- After a turn with which it has to end nothing happens any more. -/
  ends : ∀ before turn later round, turns = before ++ turn :: later → rounds[before.length]? = some round →
    task.EndsWith round turn (task.takeAll before s) → later = [] ∧ run.status = .finished
  /-- Once it is found cancelled while it waits nothing happens any more. -/
  cancelled : ∀ i round, rounds[i]? = some round → round.cancelledWaiting = true → turns.length ≤ i
  /-- It waits only when it has taken a turn in every round, and for what followed the last one. -/
  waits : ∀ next, run.status = .waiting next →
    turns.length = rounds.length ∧ r.IsNext ((turns.getLast?.map TimerTurn.now).getD after) next
  /-- It is finished only when it had to end, or was found cancelled while it waited. -/
  finished : run.status = .finished →
    (∃ round, rounds[turns.length]? = some round ∧ round.cancelledWaiting = true) ∨
      ∃ before turn round, turns = before ++ [turn] ∧ rounds[before.length]? = some round ∧
        task.EndsWith round turn (task.takeAll before s)

/-- Every turn is for an instant after the one from which the timer runs. -/
theorem InTurns.after_lt (h : InTurns task r rounds after s run turns) {turn : TimerTurn} (hturn : turn ∈ turns) :
    after < turn.instant := by
  cases turns with
  | nil => cases hturn
  | cons first rest =>
    have hfirst := (h.first first rfl).later
    rcases List.mem_cons.1 hturn with rfl | hrest
    · exact hfirst
    · exact hfirst.trans (List.rel_of_pairwise_cons h.ascends hrest).1

/-- A timer that is found cancelled in its first round takes no turn. -/
theorem inTurns_of_cancelled {round : Round} (hc : round.cancelledWaiting = true) (later : List Round) (after : Instant) :
    InTurns task r (round :: later) after s ⟨s, [], .finished⟩ [] where
  events := rfl
  state := rfl
  recurs _ hturn := by cases hturn
  ascends := List.Pairwise.nil
  chained := List.isChain_nil
  first _ hturn := by cases hturn
  paced := Nat.zero_le _
  ends before turn later round hsplit := by simp at hsplit
  cancelled _ _ _ _ := Nat.zero_le _
  waits _ hwaiting := by cases hwaiting
  finished _ := Or.inl ⟨round, rfl, hc⟩

/-- A timer whose first turn is its last. -/
theorem inTurns_of_ends {round : Round} (hc : round.cancelledWaiting = false) (later : List Round) {told : Option Instant}
    (hnext : r.IsNext after next) (hfollows : r.Follows (beginning round next) told)
    (hends : task.EndsWith round ⟨next, beginning round next, told⟩ s) :
    InTurns task r (round :: later) after s
      ⟨(task.take ⟨next, beginning round next, told⟩ s).2, TimerTurn.events ⟨next, beginning round next, told⟩, .finished⟩
      [⟨next, beginning round next, told⟩] where
  events := rfl
  state := rfl
  recurs turn hturn := by
    cases List.mem_singleton.1 hturn
    exact ⟨hnext.included, le_beginning round next, hfollows⟩
  ascends := List.pairwise_singleton _ _
  chained := List.isChain_singleton _
  first turn hturn := by
    cases hturn
    exact hnext
  paced := by simp
  ends before turn rest found hsplit _ _ := by
    have hlength := congrArg List.length hsplit
    simp only [List.length_append, List.length_cons, List.length_nil] at hlength
    exact ⟨List.eq_nil_of_length_eq_zero (by omega), rfl⟩
  cancelled i found hfound hwaiting := by
    cases i with
    | zero =>
      cases hfound
      rw [hc] at hwaiting
      cases hwaiting
    | succ i => simp
  waits _ hwaiting := by cases hwaiting
  finished _ := Or.inr ⟨[], _, round, rfl, rfl, hends⟩

/-- A first turn with which the timer does not have to end, and then the turns of the run after it. -/
theorem InTurns.cons {round : Round} {later : List Round} {following : Instant} (hc : round.cancelledWaiting = false)
    (hnext : r.IsNext after next) (hfollows : r.Follows (beginning round next) (some following))
    (hends : ¬task.EndsWith round ⟨next, beginning round next, some following⟩ s)
    (h : InTurns task r later (beginning round next) (task.take ⟨next, beginning round next, some following⟩ s).2 run turns) :
    InTurns task r (round :: later) after s
      { run with events := TimerTurn.events ⟨next, beginning round next, some following⟩ ++ run.events }
      (⟨next, beginning round next, some following⟩ :: turns) where
  events := by rw [h.events, List.flatMap_cons]
  state := h.state
  recurs turn hturn := by
    rcases List.mem_cons.1 hturn with rfl | hrest
    · exact ⟨hnext.included, le_beginning round next, hfollows⟩
    · exact h.recurs turn hrest
  ascends := by
    refine List.pairwise_cons.2 ⟨fun turn hturn => ?_, h.ascends⟩
    have hlater := h.after_lt hturn
    exact ⟨lt_of_le_of_lt (le_beginning round next) hlater, hlater.trans_le (h.recurs turn hturn).2.1⟩
  chained := by
    refine List.isChain_cons.2 ⟨fun turn hturn => ?_, h.chained⟩
    exact congrArg some (hfollows.1.unique (h.first turn hturn))
  first turn hturn := by
    cases hturn
    exact hnext
  paced := Nat.succ_le_succ h.paced
  ends before turn rest found hsplit hfound hends' := by
    cases before with
    | nil =>
      cases hfound
      obtain ⟨rfl, -⟩ := List.cons_eq_cons.1 hsplit
      exact absurd hends' hends
    | cons first before =>
      obtain ⟨hfirst, hrest⟩ := List.cons_eq_cons.1 hsplit
      subst hfirst
      exact h.ends before turn rest found hrest hfound hends'
  cancelled i found hfound hwaiting := by
    cases i with
    | zero =>
      cases hfound
      rw [hc] at hwaiting
      cases hwaiting
    | succ i => exact Nat.succ_le_succ (h.cancelled i found hfound hwaiting)
  waits instant hwaiting := by
    obtain ⟨hlength, hlast⟩ := h.waits instant hwaiting
    refine ⟨congrArg Nat.succ hlength, ?_⟩
    cases hturns : turns.getLast? with
    | none => simpa [List.getLast?_cons, hturns] using hlast
    | some last => simpa [List.getLast?_cons, hturns] using hlast
  finished hfinished := by
    rcases h.finished hfinished with hcancelled | ⟨before, turn, found, rfl, hfound, hlast⟩
    · exact Or.inl hcancelled
    · exact Or.inr ⟨_ :: before, turn, found, rfl, hfound, hlast⟩

/-- The run of a timer that waits for an instant goes on in turns, as long as the search for the next instant stays in the
calendar. -/
theorem rounds_inTurns (task : TimedTask σ) (r : Recurrence) (rounds : List Round) {after next : Instant} (s : σ)
    (hnext : r.IsNext after next) (hfound : ∀ e, (task.rounds r rounds next s).status ≠ .lost e) :
    ∃ turns, InTurns task r rounds after s (task.rounds r rounds next s) turns := by
  induction rounds generalizing after next s with
  | nil =>
    refine ⟨[], rfl, rfl, by simp, by simp, by simp, by simp, by simp, by simp, by simp, ?_, nofun⟩
    rintro _ ⟨⟩
    exact ⟨rfl, hnext⟩
  | cons round later ih =>
    cases hc : round.cancelledWaiting with
    | true =>
      rw [rounds_cancelled hc]
      exact ⟨[], inTurns_of_cancelled hc later after⟩
    | false =>
      cases hsearch : r.nextAfter (beginning round next) with
      | error e =>
        rw [rounds_lost hc hsearch] at hfound
        exact absurd rfl (hfound e)
      | ok told =>
        have hfollows := Recurrence.follows_of_nextAfter hsearch
        by_cases hends : task.EndsWith round ⟨next, beginning round next, told⟩ s
        · rw [rounds_over hc hsearch hends]
          exact ⟨_, inTurns_of_ends hc later hnext hfollows hends⟩
        · cases told with
          | none => exact absurd (Or.inl rfl) hends
          | some following =>
            have hgoOn := fun hstop => hends (Or.inr hstop)
            rw [rounds_goOn hc hsearch hgoOn] at hfound ⊢
            obtain ⟨turns, hturns⟩ := ih _ hfollows.1 hfound
            exact ⟨_, hturns.cons hc hnext hfollows hends⟩

/-- Whatever a task does, whenever its timer is found cancelled and whatever the clock shows, as long as the search for the next
instant stays in the calendar: a timer whose recurrence has no instant within the horizon tells its task so, once, and does
nothing else, and any other runs in turns. -/
theorem run_inTurns (task : TimedTask σ) (r : Recurrence) (start : Instant) (rounds : List Round) (s : σ)
    (hfound : ∀ e, (task.run r start rounds s).status ≠ .lost e) :
    (r.Follows start none → task.run r start rounds s = ⟨(task.afterTick none s).2, [.afterTick none], .finished⟩) ∧
      (¬r.Follows start none → ∃ turns, InTurns task r rounds start s (task.run r start rounds s) turns) := by
  unfold run at hfound ⊢
  cases hsearch : r.nextAfter start with
  | error e =>
    rw [hsearch] at hfound
    exact absurd rfl (hfound e)
  | ok next =>
    have hfollows := Recurrence.follows_of_nextAfter hsearch
    cases next with
    | none => exact ⟨fun _ => rfl, fun hnot => absurd hfollows hnot⟩
    | some next =>
      rw [hsearch] at hfound
      exact ⟨fun hnone => absurd hnone (Recurrence.not_follows_none hfollows),
        fun _ => rounds_inTurns task r rounds s hfollows.1 hfound⟩

namespace Sample

/-- A task that counts its ticks and stops at the third. -/
def counting : TimedTask Nat where
  tick _ n := n + 1
  afterTick _ n := (if n < 3 then .goOn else .stop, n)

/-- At every full hour. -/
def hourly : Recurrence := .ofStart .hours ⟨0, 0⟩

/-- A clock that goes back, then leaps ahead over two instants, and then stands still. -/
def leaping : List Round :=
  [⟨false, ⟨-5000, 0⟩, false⟩, ⟨false, ⟨15000, 0⟩, false⟩, ⟨false, ⟨15000, 0⟩, false⟩, ⟨false, ⟨15000, 0⟩, false⟩]

end Sample

open Sample in
/-- A timer goes on in turns on a clock that leaps: it skips the instants that it missed, and stops with its task. -/
theorem inTurns_leaping :
    (∀ e, (counting.run hourly ⟨0, 0⟩ leaping 0).status ≠ .lost e) ∧ ¬hourly.Follows ⟨0, 0⟩ none ∧
      (∃ turns, InTurns counting hourly leaping ⟨0, 0⟩ 0 (counting.run hourly ⟨0, 0⟩ leaping 0) turns) ∧
      (counting.run hourly ⟨0, 0⟩ leaping 0).events =
        [.tick ⟨3600, 0⟩ ⟨3600, 0⟩, .afterTick (some ⟨7200, 0⟩), .tick ⟨7200, 0⟩ ⟨15000, 0⟩, .afterTick (some ⟨18000, 0⟩),
          .tick ⟨18000, 0⟩ ⟨18000, 0⟩, .afterTick (some ⟨21600, 0⟩)] := by
  have hfinished : (counting.run hourly ⟨0, 0⟩ leaping 0).status = .finished := by decide +kernel
  have hfound : ∀ e, (counting.run hourly ⟨0, 0⟩ leaping 0).status ≠ .lost e := by simp [hfinished]
  have hnext : hourly.nextAfter ⟨0, 0⟩ = .ok (some ⟨3600, 0⟩) := by decide +kernel
  have hfollows := Recurrence.not_follows_none (Recurrence.follows_of_nextAfter hnext)
  exact ⟨hfound, hfollows, (run_inTurns counting hourly ⟨0, 0⟩ leaping 0 hfound).2 hfollows, by decide +kernel⟩

end TimedTask

end StandingQuery
