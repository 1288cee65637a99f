import Mathlib.Data.List.Chain
import StandingQuery.Proofs.Deliveries
import StandingQuery.Proofs.ElapsedUnits
import StandingQuery.Proofs.Rhythm

/-!
# What a delay costs

A job that is to run in every unit counts the units from when it last fired, not from the instant for which it fired. A tick that
begins late can therefore make the next one wait: where the unit has a period, if the next begins sooner after its own instant, and
otherwise if both begin in the same month or year (`TimeUnit.TooSoon`). It costs no more than that: of two ticks in a row one
fires, as long as each begins before the instant of the next (`Course.catchesUp_of_timely`).
-/

namespace StandingQuery

/-- Ticks that keep step with a recurrence: each begins at its instant or later, and before the next instant, which is the one that
the next tick is for. -/
structure Recurrence.KeepsStep (r : Recurrence) (ticks : List (Instant × Instant)) : Prop where
  recurs : ∀ tick ∈ ticks, r.includes tick.1 = true ∧ tick.1 ≤ tick.2
  next : ∀ i tick later, ticks[i]? = some tick → ticks[i + 1]? = some later → r.IsNext tick.1 later.1 ∧ tick.2 < later.1

/-- Whether a tick begins at its instant or later, and before the next instant of its recurrence. -/
def Recurrence.Timely (r : Recurrence) (tick : Instant × Instant) : Prop :=
  tick.1 ≤ tick.2 ∧ ∀ following ∈ (r.nextAfter tick.1).toOption.join, tick.2 < following

instance (r : Recurrence) (tick : Instant × Instant) : Decidable (r.Timely tick) := inferInstanceAs (Decidable (_ ∧ _))

/-- The whole minutes by which a tick begins after its instant. -/
def minutesLate (tick : Instant × Instant) : Int := (tick.2.toMinute.seconds - tick.1.seconds) / 60

/-- Whether a tick begins too soon after a firing at the tick before it. -/
def TimeUnit.TooSoon (unit : TimeUnit) (tick later : Instant × Instant) : Prop :=
  match unit with
  | .minutes => False
  | .hours | .days | .weeks => minutesLate later < minutesLate tick
  | .months => later.2.monthNumber = tick.2.monthNumber
  | .years => later.2.date.year = tick.2.date.year

namespace TimedTask

variable {σ : Type} {r : Recurrence} {next : Instant}

/-- The ticks of a run are for instants of the recurrence and begin at them or later, the first for the instant that was waited
for, and each other for the instant that was found after the beginning of the one before. -/
theorem ticks_follow (task : TimedTask σ) (hnext : r.includes next = true) (rounds : List Round) (s : σ) :
    (∀ tick ∈ (task.rounds r rounds next s).ticks, r.includes tick.1 = true ∧ tick.1 ≤ tick.2) ∧
      (∀ tick ∈ (task.rounds r rounds next s).ticks.head?, tick.1 = next) ∧
      (task.rounds r rounds next s).ticks.IsChain fun tick later => r.nextAfter tick.2 = .ok (some later.1) := by
  induction rounds generalizing next s with
  | nil => simp [rounds, TimerRun.ticks]
  | cons round later ih =>
    have hfirst := le_beginning round next
    have hturn := task.turn r round later next s
    generalize task.rounds r (round :: later) next s = run at hturn ⊢
    cases hturn with
    | cancelled _ => simp [TimerRun.ticks]
    | lost _ => simp [TimerRun.ticks, TimerEvent.tick?, hnext, hfirst]
    | ended _ =>
      simp only [TimerRun.ticks, List.filterMap_cons, TimerEvent.tick?, List.filterMap_nil]
      exact ⟨by simp [hnext, hfirst], by simp, List.isChain_singleton _⟩
    | @goOn following hfollowing _ =>
      obtain ⟨hrecurs, hhead, hchain⟩ := ih (Recurrence.isNext_of_nextAfter hfollowing).included
        (task.afterTick (some following) (task.tick (beginning round next) s)).2
      refine ⟨?_, ?_, ?_⟩
      · intro tick htick
        rcases List.mem_cons.1 htick with rfl | htick
        · exact ⟨hnext, hfirst⟩
        · exact hrecurs tick htick
      · intro tick htick
        cases htick
        rfl
      · refine List.isChain_cons.2 ⟨fun tick htick => ?_, hchain⟩
        rw [hfollowing, hhead tick htick]

end TimedTask

namespace Recurrence

variable {unit : TimeUnit} {start : Instant}

/-- What is found after a moment that lies before the next instant is the next instant. -/
theorem Timely.isNext {tick : Instant × Instant} {following : Instant} (h : (ofStart unit start).Timely tick)
    (hnext : (ofStart unit start).nextAfter tick.2 = .ok (some following)) :
    (ofStart unit start).IsNext tick.1 following := by
  obtain ⟨hle, htimely⟩ := h
  have hday := Instant.day_mono hle
  have hhorizon : tick.2.day + horizon ≤ Date.lastDay := by
    unfold nextAfter at hnext
    split at hnext
    · cases hnext
    · omega
  obtain ⟨u, hu⟩ := exists_nextAfter unit start tick.1 (by omega)
  have hnextU := isNext_of_nextAfter hu
  have hnextFollowing := isNext_of_nextAfter hnext
  have hsame : following = u := by
    refine le_antisymm ?_ ?_
    · exact hnextFollowing.first u hnextU.included (htimely u (by simp [hu, Except.toOption]))
    · exact hnextU.first following hnextFollowing.included (hle.trans_lt hnextFollowing.later)
  exact hsame ▸ hnextU

/-- The ticks of a run keep step if each begins before the next instant. -/
theorem keepsStep_of_timely {σ : Type} {task : TimedTask σ} {next : Instant} {s : σ}
    (hnext : (ofStart unit start).includes next = true) (rounds : List Round)
    (htimely : ∀ tick ∈ (task.rounds (ofStart unit start) rounds next s).ticks, (ofStart unit start).Timely tick) :
    (ofStart unit start).KeepsStep (task.rounds (ofStart unit start) rounds next s).ticks := by
  obtain ⟨hrecurs, -, hchain⟩ := task.ticks_follow hnext rounds s
  refine ⟨hrecurs, ?_⟩
  intro i tick later htick hlater
  obtain ⟨hi, rfl⟩ := List.getElem?_eq_some_iff.1 htick
  obtain ⟨hi', rfl⟩ := List.getElem?_eq_some_iff.1 hlater
  have hfound := List.isChain_iff_getElem.1 hchain i hi'
  have hmem := List.getElem_mem hi
  exact ⟨(htimely _ hmem).isNext hfound, (isNext_of_nextAfter hfound).later⟩

namespace KeepsStep

theorem nil (r : Recurrence) : r.KeepsStep [] := ⟨by simp, by simp⟩

variable {r : Recurrence} {ticks : List (Instant × Instant)} {i j : Nat} {tick later : Instant × Instant}

/-- A tick begins before the instants of all later ones. -/
theorem begins_before (h : r.KeepsStep ticks) (hij : i < j) (htick : ticks[i]? = some tick) (hlater : ticks[j]? = some later) :
    tick.2 < later.1 := by
  induction j generalizing later with
  | zero => cases hij
  | succ j ih =>
    obtain ⟨before, hbefore⟩ : ∃ before, ticks[j]? = some before := by
      obtain ⟨hj, -⟩ := List.getElem?_eq_some_iff.1 hlater
      exact ⟨_, List.getElem?_eq_getElem (by omega)⟩
    have hlast := (h.next j before later hbefore hlater).2
    rcases Nat.lt_succ_iff_lt_or_eq.1 hij with hlt | rfl
    · have hstep := (h.recurs before (List.mem_of_getElem? hbefore)).2
      exact ((ih hlt hbefore).trans_le hstep).trans hlast
    · cases htick.symm.trans hbefore
      exact hlast

end KeepsStep

end Recurrence

/-- Whether less than a unit lies between the minutes of two ticks in a row. -/
theorem TimeUnit.elapsed_lt_one_iff {unit : TimeUnit} {start : Instant} {tick later : Instant × Instant}
    (hrecurs : (Recurrence.ofStart unit start).includes tick.1 = true)
    (hnext : (Recurrence.ofStart unit start).IsNext tick.1 later.1) (hbefore : tick.2 < later.1) (hle' : later.1 ≤ later.2) :
    unit.elapsed tick.2.toMinute later.2.toMinute < 1 ↔ unit.TooSoon tick later := by
  have hminute := tick.2.isMinute_toMinute
  have hminute' := later.2.isMinute_toMinute
  obtain ⟨-, hwhole⟩ := Recurrence.isMinute_of_includes hrecurs
  have hwhole' := Recurrence.isMinute_of_includes hnext.included
  have hwithin := hwhole'.le_toMinute hle'
  rw [Instant.le_def] at hwithin
  rw [← not_le]
  cases unit with
  | minutes =>
    have hperiod := hnext.period rfl hrecurs
    have hbegin : tick.2.toMinute < later.1 := tick.2.toMinute_le.trans_lt hbefore
    rw [Instant.lt_iff_of_isMinute hminute hwhole'] at hbegin
    rw [one_le_elapsed_iff_of_period rfl hminute hminute']
    obtain ⟨-, hsecond⟩ := hminute
    simp only [TooSoon, iff_false, not_not]
    omega
  | months =>
    have hmono := Instant.monthNumber_mono (hbefore.le.trans hle')
    simp only [elapsed, TooSoon, Instant.monthNumber_toMinute]
    omega
  | years =>
    have hmono := Instant.year_mono (hbefore.le.trans hle')
    simp only [elapsed, TooSoon, Instant.year_toMinute]
    omega
  | _ =>
    have hperiod := hnext.period rfl hrecurs
    rw [one_le_elapsed_iff_of_period rfl hminute hminute']
    obtain ⟨-, hsecond⟩ := hminute
    obtain ⟨-, hsecond'⟩ := hminute'
    simp only [TooSoon, minutesLate, hperiod]
    omega

/-- Of the numbers below a bound that have a property there is a last one, if there is one at all. -/
theorem exists_last {p : Nat → Prop} {j : Nat} (h : ∃ i, i < j ∧ p i) : ∃ i, i < j ∧ p i ∧ ∀ k, i < k → k < j → ¬p k := by
  induction j with
  | zero =>
    obtain ⟨i, hi, -⟩ := h
    omega
  | succ j ih =>
    by_cases hj : p j
    · exact ⟨j, Nat.lt_succ_self j, hj, fun k hjk hkj => by omega⟩
    · obtain ⟨i, hij, hi⟩ := h
      have hne : i ≠ j := fun heq => hj (heq ▸ hi)
      obtain ⟨last, hlast, hp, hnone⟩ := ih ⟨i, by omega, hi⟩
      refine ⟨last, by omega, hp, ?_⟩
      intro k hlk hkj
      rcases Nat.lt_succ_iff_lt_or_eq.1 hkj with hlt | rfl
      · exact hnone k hlk hlt
      · exact hj

namespace Job

variable {job : Job} {ticks : List (Instant × Instant)} {i j : Nat} {tick : Instant × Instant}

theorem begins_of_tick (h : ticks[i]? = some tick) : (ticks.map Prod.snd)[i]? = some tick.2 := by
  rw [List.getElem?_map, h]
  rfl

/-- A job that has not fired before a tick that begins at its start or later fires at it. -/
theorem firings_of_none_before (hunfired : job.lastFired = none) (htick : ticks[j]? = some tick)
    (hstart : job.schedule.start ≤ tick.2) (hnone : ∀ i, i < j → (job.firings (ticks.map Prod.snd))[i]? ≠ some true) :
    (job.firings (ticks.map Prod.snd))[j]? = some true := by
  have hearly : ∀ i u, i < j → (ticks.map Prod.snd)[i]? = some u → u < job.schedule.start := by
    intro i
    induction i using Nat.strong_induction_on with
    | _ i ih =>
      intro u hij hu
      by_contra hnot
      refine hnone i hij (firings_first hunfired hu (not_lt.1 hnot) ?_)
      intro k v hki hv
      exact ih k hki v (by omega) hv
  exact firings_first hunfired (begins_of_tick htick) hstart hearly

/-- Between ticks that are not in a row a unit elapses. -/
theorem one_le_elapsed_of_gap (hstep : job.recurrence.KeepsStep ticks) {earlier : Instant × Instant} (hij : i + 1 < j)
    (hearlier : ticks[i]? = some earlier) (htick : ticks[j]? = some tick) :
    1 ≤ job.schedule.unit.elapsed earlier.2.toMinute tick.2.toMinute := by
  obtain ⟨j, rfl⟩ := Nat.exists_eq_succ_of_ne_zero (Nat.ne_zero_of_lt hij)
  obtain ⟨before, hbefore⟩ : ∃ before, ticks[j]? = some before := by
    obtain ⟨hj, -⟩ := List.getElem?_eq_some_iff.1 htick
    exact ⟨_, List.getElem?_eq_getElem (by omega)⟩
  obtain ⟨hincluded, -⟩ := hstep.recurs before (List.mem_of_getElem? hbefore)
  obtain ⟨hincluded', hle⟩ := hstep.recurs tick (List.mem_of_getElem? htick)
  have hlater := hstep.begins_before (Nat.succ_lt_succ_iff.1 hij) hearlier hbefore
  have hunit : 1 ≤ job.schedule.unit.elapsed before.1 tick.1 :=
    Recurrence.IsNext.one_le_elapsed hincluded (hstep.next j before tick hbefore htick).1
  have hminute := Recurrence.isMinute_of_includes hincluded
  have hminute' := Recurrence.isMinute_of_includes hincluded'
  exact TimeUnit.one_le_elapsed_mono hminute hminute' earlier.2.isMinute_toMinute tick.2.isMinute_toMinute
    (earlier.2.toMinute_le.trans hlater.le) (hminute'.le_toMinute hle) hunit

/-- Of a job whose ticks keep step, whose schedule is for every unit, and that has not fired: it does not fire at a tick that begins
at its start or later exactly if it fired at the tick before and less than a unit has elapsed since. -/
theorem not_firings_iff (hunfired : job.lastFired = none) (hamount : job.schedule.amount = 1)
    (hstep : job.recurrence.KeepsStep ticks) (htick : ticks[j]? = some tick) (hstart : job.schedule.start ≤ tick.2) :
    (job.firings (ticks.map Prod.snd))[j]? ≠ some true ↔
      ∃ i earlier, j = i + 1 ∧ ticks[i]? = some earlier ∧ (job.firings (ticks.map Prod.snd))[i]? = some true ∧
        job.schedule.unit.elapsed earlier.2.toMinute tick.2.toMinute < 1 := by
  have hagain {i : Nat} {earlier : Instant × Instant} (hij : i < j) (hearlier : ticks[i]? = some earlier)
      (hfired : (job.firings (ticks.map Prod.snd))[i]? = some true)
      (hbetween : ∀ k, i < k → k < j → (job.firings (ticks.map Prod.snd))[k]? ≠ some true) :
      (job.firings (ticks.map Prod.snd))[j]? = some true ↔
        1 ≤ job.schedule.unit.elapsed earlier.2.toMinute tick.2.toMinute := by
    have hnext := firings_next (begins_of_tick hearlier) (begins_of_tick htick) hij hfired hstart hbetween
    rwa [hamount, Nat.cast_one] at hnext
  constructor
  · intro hwaits
    have hbefore : ∃ i, i < j ∧ (job.firings (ticks.map Prod.snd))[i]? = some true := by
      by_contra hnot
      push Not at hnot
      exact hwaits (firings_of_none_before hunfired htick hstart hnot)
    obtain ⟨i, hij, hfired, hlast⟩ := exists_last hbefore
    obtain ⟨earlier, hearlier⟩ : ∃ earlier, ticks[i]? = some earlier := by
      obtain ⟨hj, -⟩ := List.getElem?_eq_some_iff.1 htick
      exact ⟨_, List.getElem?_eq_getElem (by omega)⟩
    have hfew := mt (hagain hij hearlier hfired hlast).2 hwaits
    have hrow : j = i + 1 := by
      by_contra hgap
      exact hfew (one_le_elapsed_of_gap hstep (by omega) hearlier htick)
    exact ⟨i, earlier, hrow, hearlier, hfired, not_le.1 hfew⟩
  · rintro ⟨i, earlier, rfl, hearlier, hfired, hfew⟩ hfires
    have hmany := (hagain (Nat.lt_succ_self i) hearlier hfired fun k hik hkj => by omega).1 hfires
    omega

/-- A firing does not wait. -/
theorem Fired.ne_waiting {ρ : Type} {services : Services} {query : StoredQuery} {schedule : Schedule}
    {executed : Except RunError QueryResults} {taken : List (Taken ρ)} {outcome : TickOutcome}
    (h : Fired services query schedule executed taken outcome) : outcome ≠ .waiting := by
  cases h with
  | failed e => nofun
  | @ran results attempts each =>
    cases Outcome.all (attempts.map Prod.snd) <;> nofun

/-- A tick whose token is confirmed answers that it waits exactly if it begins at the start or later and makes no request. -/
theorem waiting_amid {ρ : Type} [JobRegistry ρ] (services : Services) (job : Job) (now : Instant)
    (others : List (EngineState ρ → EngineState ρ)) (s : EngineState ρ)
    (h : JobRegistry.holds (others.headD id s).registry job.query.id job.token = true) :
    ((job.tick services now).amid services others s).value.1 = .waiting ↔
      job.schedule.start ≤ now ∧ ((job.tick services now).amid services others s).requested = [] := by
  obtain ⟨-, hrequested⟩ := job.tick_amid services now others s h
  have hgate := job.gate_eq now
  rw [hrequested]
  cases hfires : job.fires now with
  | false =>
    have hshut : job.gate true now = .shut (if now < job.schedule.start then .beforeStart else .waiting) := by
      have hnot := mt fires_iff.2 (Bool.not_eq_true _ ▸ hfires)
      rw [not_and, Bool.not_eq_true] at hnot
      unfold gate
      by_cases hearly : now < job.schedule.start
      · simp [hearly]
      · simp [hearly, hnot (not_lt.1 hearly)]
    unfold JobRegistry.holds at h
    rw [tick_eq, Program.amid_step]
    simp only [EngineState.perform, h, hshut]
    by_cases hearly : now < job.schedule.start
    · simp [hearly, not_le.2 hearly]
    · simp [hearly, not_lt.1 hearly, requestsIf]
  | true =>
    have hfire : job.gate true now = .fire now.toMinute := by simpa [hfires] using hgate
    obtain ⟨_, _, _, _, _, _, _, hfired⟩ := fired_amid_of_gate services job now others s (h ▸ hfire)
    simp only [requestsIf, if_true, List.cons_ne_self, and_false, iff_false]
    exact hfired.ne_waiting

end Job

/-- What a job does that is to run in every unit and may begin its ticks late. -/
structure Job.CatchesUp {ρ : Type} (services : Services) (job : Job) (ticks : List (Instant × Instant))
    (notes : List (NotedTick ρ)) : Prop where
  /-- The notes are of the ticks. -/
  noted : notes.map NotedTick.now = ticks.map Prod.snd
  /-- No instant is left out. -/
  consecutive : ∀ i tick later, ticks[i]? = some tick → ticks[i + 1]? = some later → job.recurrence.IsNext tick.1 later.1
  /-- A tick that begins at the start or later executes the query, or makes no request and answers that it waits. -/
  executes : ∀ note ∈ notes, job.schedule.start ≤ note.now →
    job.Executes services note.requests ∧ note.outcome ≠ .waiting ∨ note.requests = [] ∧ note.outcome = .waiting
  /-- It waits exactly if the tick before executed the query and it begins too soon after that. -/
  waits : ∀ i tick note, ticks[i]? = some tick → notes[i]? = some note → job.schedule.start ≤ tick.2 →
    (note.outcome = .waiting ↔ ∃ j earlier before, i = j + 1 ∧ ticks[j]? = some earlier ∧ notes[j]? = some before ∧
      job.Executes services before.requests ∧ job.schedule.unit.TooSoon earlier tick)
  /-- After a tick that waits the next one executes the query. -/
  recovers : ∀ i note later, notes[i]? = some note → notes[i + 1]? = some later → note.outcome = .waiting →
    job.Executes services later.requests

namespace Course

variable {ρ : Type} {services : Services} {c : Course ρ}

/-- What is noted of some ticks of a job whose token stays held. -/
structure Noted (services : Services) (job : Job) (nows : List Instant) (notes : List (NotedTick ρ)) : Prop where
  begun : notes.map NotedTick.now = nows
  requests : notes.map NotedTick.requests = (job.firings nows).map (job.requestsIf services)
  waiting : ∀ note ∈ notes, note.outcome = .waiting ↔ job.schedule.start ≤ note.now ∧ note.requests = []

theorem Noted.nil (services : Services) (job : Job) : Noted (ρ := ρ) services job [] [] := ⟨rfl, rfl, nofun⟩

/-- The note of a first tick, and the notes of the job as it goes on from there. -/
theorem Noted.cons {job : Job} {nows : List Instant} {note : NotedTick ρ} {notes : List (NotedTick ρ)}
    (hrequests : note.requests = job.requestsIf services (job.fires note.now))
    (hwaiting : note.outcome = .waiting ↔ job.schedule.start ≤ note.now ∧ note.requests = [])
    (h : Noted services (job.beyond note.now) nows notes) : Noted services job (note.now :: nows) (note :: notes) := by
  refine ⟨by rw [List.map_cons, h.begun], ?_, ?_⟩
  · rw [List.map_cons, h.requests, hrequests, Job.firings, List.map_cons, Job.beyond_requestsIf]
  · intro other hother
    rcases List.mem_cons.1 hother with rfl | hother
    · exact hwaiting
    · rw [h.waiting other hother, Job.beyond_schedule]

variable [JobRegistry ρ]

/-- What is noted of a run from a state in which the token of the job is held. -/
theorem Held.noted (h : c.Held) (services : Services) (r : Recurrence) (rounds : List Round) (next : Instant) :
    ∃ notes, ((Job.driven services).rounds r rounds next c).state.ticked = c.ticked ++ notes ∧
      Noted services c.job (((Job.driven services).rounds r rounds next c).ticks.map Prod.snd) notes := by
  induction rounds generalizing next c with
  | nil => exact ⟨[], (List.append_nil _).symm, .nil services c.job⟩
  | cons round later ih =>
    let now := TimedTask.beginning round next
    obtain ⟨hheld, hbeyond, -⟩ := h.tick services now
    let note : NotedTick ρ := ⟨now, ((c.job.tick services now).amid services c.others c.engine).value.1,
      ((c.job.tick services now).amid services c.others c.engine).taken⟩
    have hrequests : note.requests = c.job.requestsIf services (c.job.fires note.now) :=
      (c.job.tick_amid services now c.others c.engine h.before).2
    have hwaiting := c.job.waiting_amid services now c.others c.engine h.before
    have hone : Noted services c.job [now] [note] := .cons hrequests hwaiting (.nil services _)
    have hturn := (Job.driven services).turn r round later next c
    generalize (Job.driven services).rounds r (round :: later) next c = run at hturn ⊢
    cases hturn with
    | cancelled _ => exact ⟨[], (List.append_nil _).symm, .nil services c.job⟩
    | lost _ => exact ⟨[note], rfl, hone⟩
    | ended _ => exact ⟨[note], rfl, hone⟩
    | @goOn following _ hanswer =>
      have hover : ((Job.driven services).tick now c).job.isOver (some following) = false := by
        rw [← Bool.not_eq_true]
        exact fun hover => hanswer (afterTick_of_over hover)
      obtain ⟨notes, hticked, hnoted⟩ := ih (hheld.goOn services hover).2 following
      refine ⟨note :: notes, ?_, ?_⟩
      · rw [hticked]
        exact List.append_assoc c.ticked [note] notes
      · refine .cons hrequests hwaiting ?_
        rw [← hbeyond]
        exact hnoted

section KeepsStep

omit [JobRegistry ρ]

variable {job : Job} {ticks : List (Instant × Instant)} {notes : List (NotedTick ρ)} {i : Nat} {tick : Instant × Instant}
  {note : NotedTick ρ}

/-- A note says that the query was executed once if the job fires at its tick, and otherwise that no request was made. -/
theorem Noted.requests_eq (h : Noted services job (ticks.map Prod.snd) notes) (hnote : notes[i]? = some note) :
    job.Executes services note.requests ∧ (job.firings (ticks.map Prod.snd))[i]? = some true ∨
      note.requests = [] ∧ (job.firings (ticks.map Prod.snd))[i]? ≠ some true := by
  have hrequests : (notes.map NotedTick.requests)[i]? = some note.requests := by
    rw [List.getElem?_map, hnote]
    rfl
  rw [h.requests, List.getElem?_map, Option.map_eq_some_iff] at hrequests
  obtain ⟨fired, hfired, hmade⟩ := hrequests
  rw [hfired, ← hmade]
  cases fired with
  | true => exact Or.inl ⟨Job.executes_requestsIf.2 rfl, rfl⟩
  | false => exact Or.inr ⟨rfl, by simp⟩

/-- Every tick has a note. -/
theorem Noted.exists_note (h : Noted services job (ticks.map Prod.snd) notes) (htick : ticks[i]? = some tick) :
    ∃ note, notes[i]? = some note ∧ note.now = tick.2 := by
  rw [← Option.map_eq_some_iff, ← List.getElem?_map, h.begun]
  exact Job.begins_of_tick htick

/-- A note is of a tick. -/
theorem Noted.now_eq (h : Noted services job (ticks.map Prod.snd) notes) (hnote : notes[i]? = some note) :
    ∃ tick, ticks[i]? = some tick ∧ tick.2 = note.now := by
  rw [← Option.map_eq_some_iff, ← List.getElem?_map, ← h.begun, List.getElem?_map, hnote]
  rfl

/-- A tick waits exactly if the one before executed the query and it begins too soon after that. -/
theorem Noted.waits_iff (h : Noted services job (ticks.map Prod.snd) notes) (hunfired : job.lastFired = none)
    (hamount : job.schedule.amount = 1) (hstep : job.recurrence.KeepsStep ticks) (htick : ticks[i]? = some tick)
    (hnote : notes[i]? = some note) (hstart : job.schedule.start ≤ tick.2) :
    note.outcome = .waiting ↔ ∃ j earlier before, i = j + 1 ∧ ticks[j]? = some earlier ∧ notes[j]? = some before ∧
      job.Executes services before.requests ∧ job.schedule.unit.TooSoon earlier tick := by
  have hsoon {j : Nat} {earlier : Instant × Instant} (hrow : i = j + 1) (hearlier : ticks[j]? = some earlier) :
      job.schedule.unit.elapsed earlier.2.toMinute tick.2.toMinute < 1 ↔ job.schedule.unit.TooSoon earlier tick := by
    subst hrow
    obtain ⟨hnext, hbefore⟩ := hstep.next j earlier tick hearlier htick
    exact TimeUnit.elapsed_lt_one_iff (hstep.recurs earlier (List.mem_of_getElem? hearlier)).1 hnext hbefore
      (hstep.recurs tick (List.mem_of_getElem? htick)).2
  have hnow : note.now = tick.2 := by
    obtain ⟨other, hother, hnow⟩ := h.exists_note htick
    cases hnote.symm.trans hother
    exact hnow
  have hshut : note.outcome = .waiting ↔ (job.firings (ticks.map Prod.snd))[i]? ≠ some true := by
    rw [h.waiting note (List.mem_of_getElem? hnote), hnow]
    rcases h.requests_eq hnote with ⟨hexecuted, hfired⟩ | ⟨hexecuted, hfired⟩
    · rw [hexecuted]
      simp [hfired]
    · simp [hexecuted, hfired, hstart]
  rw [hshut, Job.not_firings_iff hunfired hamount hstep htick hstart]
  constructor
  · rintro ⟨j, earlier, hrow, hearlier, hfired, hfew⟩
    obtain ⟨before, hbefore, -⟩ := h.exists_note hearlier
    rcases h.requests_eq hbefore with ⟨hexecuted, -⟩ | ⟨-, hnot⟩
    · exact ⟨j, earlier, before, hrow, hearlier, hbefore, hexecuted, (hsoon hrow hearlier).1 hfew⟩
    · exact absurd hfired hnot
  · rintro ⟨j, earlier, before, hrow, hearlier, hbefore, hexecuted, htoo⟩
    rcases h.requests_eq hbefore with ⟨-, hfired⟩ | ⟨hnone, -⟩
    · exact ⟨j, earlier, hrow, hearlier, hfired, (hsoon hrow hearlier).2 htoo⟩
    · exact absurd (hnone ▸ hexecuted) (Job.not_executes_nil services job)

/-- What is noted of a job that is to run in every unit and whose ticks keep step. -/
theorem Noted.catchesUp (h : Noted services job (ticks.map Prod.snd) notes) (hunfired : job.lastFired = none)
    (hamount : job.schedule.amount = 1) (hstep : job.recurrence.KeepsStep ticks) :
    job.CatchesUp services ticks notes where
  noted := h.begun
  consecutive i tick later htick hlater := (hstep.next i tick later htick hlater).1
  executes note hnote hstart := by
    have hwaiting := h.waiting note hnote
    obtain ⟨i, hi⟩ := List.getElem?_of_mem hnote
    rcases h.requests_eq hi with ⟨hexecuted, -⟩ | ⟨hexecuted, -⟩
    · exact Or.inl ⟨hexecuted, fun hwaits => Job.not_executes_nil services job ((hwaiting.1 hwaits).2 ▸ hexecuted)⟩
    · exact Or.inr ⟨hexecuted, hwaiting.2 ⟨hstart, hexecuted⟩⟩
  waits i tick note htick hnote hstart := h.waits_iff hunfired hamount hstep htick hnote hstart
  recovers i note later hnote hlater hwaits := by
    obtain ⟨hstart, hexecuted⟩ := (h.waiting note (List.mem_of_getElem? hnote)).1 hwaits
    obtain ⟨tick, htick, hnow⟩ := h.now_eq hnote
    obtain ⟨next, hnext, hnow'⟩ := h.now_eq hlater
    obtain ⟨-, hbefore⟩ := hstep.next i tick next htick hnext
    have hbegins := (hstep.recurs next (List.mem_of_getElem? hnext)).2
    have hstart' : job.schedule.start ≤ next.2 := (hnow ▸ hstart).trans (hbefore.le.trans hbegins)
    rcases h.requests_eq hlater with ⟨hone, -⟩ | ⟨hnone, hnot⟩
    · exact hone
    · have hwaits' := (h.waiting later (List.mem_of_getElem? hlater)).2 ⟨hnow' ▸ hstart', hnone⟩
      obtain ⟨j, earlier, before, hrow, -, hbefore', hone, -⟩ :=
        (h.waits_iff hunfired hamount hstep hnext hlater hstart').1 hwaits'
      obtain rfl : i = j := Nat.succ_injective hrow
      cases hnote.symm.trans hbefore'
      exact absurd (hexecuted ▸ hone) (Job.not_executes_nil services job)

end KeepsStep

/-- A delay costs at most the next instant: whatever the unit, the start and the end of a schedule for every unit, whatever the
moment of its activation, and however late its ticks begin, as long as each begins before the next instant of the recurrence, the
job's token is held and others leave it so. -/
theorem catchesUp_of_timely (services : Services) (query : StoredQuery) (token : Uuid) (schedule : Schedule) (activated : Instant)
    (rounds : List Round) (engine : EngineState ρ) (others : List (EngineState ρ → EngineState ρ)) (hamount : schedule.amount = 1)
    (hheld : JobRegistry.holds engine.registry query.id token = true)
    (hothers : ∀ other ∈ others, ∀ s : EngineState ρ,
      JobRegistry.get (other s).registry query.id = JobRegistry.get s.registry query.id)
    (htimely : ∀ tick ∈ ((Job.driven services).run (Job.start query token schedule).recurrence activated rounds
      (.begin (.start query token schedule) engine others)).ticks, (Job.start query token schedule).recurrence.Timely tick) :
    (Job.start query token schedule).CatchesUp services
      ((Job.driven services).run (Job.start query token schedule).recurrence activated rounds
        (.begin (.start query token schedule) engine others)).ticks
      ((Job.driven services).run (Job.start query token schedule).recurrence activated rounds
        (.begin (.start query token schedule) engine others)).state.ticked := by
  have hbegin : (begin (.start query token schedule) engine others).Held := ⟨hheld, hothers⟩
  have hempty (told : Option Instant) : (Job.start query token schedule).CatchesUp services []
      ((Job.driven services).afterTick told (begin (.start query token schedule) engine others)).2.ticked :=
    Noted.catchesUp (.nil services (.start query token schedule)) rfl hamount (.nil _)
  unfold TimedTask.run at htimely ⊢
  cases hnext : (Job.start query token schedule).recurrence.nextAfter activated with
  | error e => exact hempty none
  | ok next? =>
    cases next? with
    | none => exact hempty none
    | some next =>
      simp only [hnext] at htimely ⊢
      have hincluded := (Recurrence.isNext_of_nextAfter hnext).included
      obtain ⟨notes, hticked, hnoted⟩ := hbegin.noted services (Job.start query token schedule).recurrence rounds next
      rw [hticked]
      exact hnoted.catchesUp rfl hamount (Recurrence.keepsStep_of_timely hincluded rounds htimely)

namespace Sample

/-- A schedule of every hour, at eight minutes past. -/
def everyHour : Schedule := ⟨"alice", 1, .hours, ⟨1772629680, 0⟩, ⟨1772651280, 0⟩, []⟩

/-- Rounds whose ticks begin five minutes late, on time, ten minutes late and twenty minutes late. -/
def delayed : List Round := [1772629980, 1772633280, 1772637480, 1772641680].map fun second => ⟨false, ⟨second, 0⟩, false⟩

end Sample

open Cluster.Sample Sample in
/-- A tick that begins five minutes late makes the next one wait, which begins on time an hour after the instant of the first. -/
theorem waits_after_late :
    let run := (Job.driven (Cluster.Sample.services true)).run (Job.start query (.ofNat 1) everyHour).recurrence
      ⟨1772629620, 0⟩ delayed (.begin (.start query (.ofNat 1) everyHour) holding [])
    everyHour.amount = 1 ∧ JobRegistry.holds holding.registry query.id (.ofNat 1) = true ∧
      (∀ tick ∈ run.ticks, (Job.start query (.ofNat 1) everyHour).recurrence.Timely tick) ∧
      run.ticks[1]? = some (⟨1772633280, 0⟩, ⟨1772633280, 0⟩) ∧ everyHour.start ≤ ⟨1772633280, 0⟩ ∧
      (run.state.ticked.map fun note => (note.outcome, note.requests))[1]? = some (.waiting, []) := by
  decide +kernel

open Cluster.Sample Sample in
/-- Of four ticks that begin late the second waits, and no other. -/
theorem catchesUp_delayed :
    let run := (Job.driven (Cluster.Sample.services true)).run (Job.start query (.ofNat 1) everyHour).recurrence
      ⟨1772629620, 0⟩ delayed (.begin (.start query (.ofNat 1) everyHour) holding [])
    (Job.start query (.ofNat 1) everyHour).CatchesUp (Cluster.Sample.services true) run.ticks run.state.ticked ∧
      run.state.ticked.map (fun note => note.requests.length) = [1, 0, 1, 1] := by
  intro run
  refine ⟨catchesUp_of_timely (Cluster.Sample.services true) query (.ofNat 1) everyHour ⟨1772629620, 0⟩ delayed holding []
    rfl (by decide +kernel) (fun _ h => absurd h List.not_mem_nil) (by decide +kernel), ?_⟩
  decide +kernel

end Course

end StandingQuery
