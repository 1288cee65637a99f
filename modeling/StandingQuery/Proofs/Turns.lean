import Mathlib.Data.List.Basic
import Mathlib.Data.List.Induction
import StandingQuery.Proofs.Rhythm
import StandingQuery.Proofs.Staff

/-!
# Ticks in turn

A timer begins a tick only when the one before has ended (`Cluster.InTurn`). The ticks of its job then follow each other: each
works on the job as the one before gave it back, from the job with which the timer was started, and what the engine remembers
of the job is what the last one gave back (`Cluster.InARow`).
-/

namespace StandingQuery

/-- A tick that has begun: its thread, the job that it works on, and when it began. -/
structure BegunTick where
  thread : Nat
  job : Job
  now : Instant

/-- A job fires at a tick as it has gone on from the ticks before. -/
theorem Job.getElem?_firings (job : Job) (nows : List Instant) (i : Nat) :
    (job.firings nows)[i]? = nows[i]?.map fun now => ((nows.take i).foldl Job.beyond job).fires now := by
  induction nows generalizing job i with
  | nil => rfl
  | cons first later ih =>
    cases i with
    | zero => rfl
    | succ i => exact ih (job.beyond first) i

namespace Cluster

variable {ι ρ : Type}

/-- Whether an operation has come to its end. -/
def Ended (c : Cluster ι ρ) (k : Nat) : Prop := ∃ thread result, c.threads[k]? = some thread ∧ thread.rest = .done result

/-- The job as a tick has given it back, or as it was if the tick has not ended. -/
def givenBack (c : Cluster ι ρ) (job : Job) (tick : BegunTick) : Job :=
  match c.threads[tick.thread]? with
  | some ⟨_, _, .done (.ticked _ job')⟩ => job'
  | _ => job

/-- A thread that stands before a step has not ended. -/
theorem not_ended_of_step {c : Cluster ι ρ} {k : Nat} {thread : Thread ι} {action : Action}
    {next : action.Answer → Program Result} (present : c.threads[k]? = some thread) (stands : thread.rest = .step action next) :
    ¬c.Ended k := by
  rintro ⟨thread', result, hk, hdone⟩
  cases present.symm.trans hk
  rw [stands] at hdone
  cases hdone

/-- A tick that has not ended has given nothing back. -/
theorem givenBack_of_not_ended {c : Cluster ι ρ} (job : Job) {tick : BegunTick} (h : ¬c.Ended tick.thread) :
    c.givenBack job tick = job := by
  unfold givenBack
  split
  · rename_i engine operation outcome job' hk
    exact absurd ⟨_, _, hk, rfl⟩ h
  · rfl

/-- What a tick has given back is seen from its thread. -/
theorem givenBack_congr {c c' : Cluster ι ρ} (job : Job) {tick : BegunTick}
    (h : c'.threads[tick.thread]? = c.threads[tick.thread]?) : c'.givenBack job tick = c.givenBack job tick := by
  unfold givenBack
  rw [h]

variable [DecidableEq ι]

/-- The tick that an operation is, if it is one of a certain job. -/
def tick? (engine : ι) (number : Nat) : (ι × Operation) × Nat → Option BegunTick
  | ((other, .tick n job now), k) => if other = engine ∧ n = number then some ⟨k, job, now⟩ else none
  | _ => none

/-- The ticks of a job that have begun, in order. -/
def ticks (c : Cluster ι ρ) (engine : ι) (number : Nat) : List BegunTick :=
  (c.threads.map fun thread => (thread.engine, thread.operation)).zipIdx.filterMap (tick? engine number)

/-- An operation that is a tick of a job says which. -/
theorem tick?_eq_some {engine other : ι} {number k : Nat} {operation : Operation} {tick : BegunTick} :
    tick? engine number ((other, operation), k) = some tick ↔
      other = engine ∧ operation = .tick number tick.job tick.now ∧ tick.thread = k := by
  obtain ⟨thread, job, now⟩ := tick
  cases operation with
  | tick n job' now' =>
    simp only [tick?, Option.ite_none_right_eq_some, Option.some.injEq, BegunTick.mk.injEq, Operation.tick.injEq]
    constructor
    · rintro ⟨⟨rfl, rfl⟩, rfl, rfl, rfl⟩
      exact ⟨rfl, ⟨rfl, rfl, rfl⟩, rfl⟩
    · rintro ⟨rfl, ⟨rfl, rfl, rfl⟩, rfl⟩
      exact ⟨⟨rfl, rfl⟩, rfl, rfl, rfl⟩
  | activate mode query => simp [tick?]
  | cancel id => simp [tick?]
  | afterTick n job' next => simp [tick?]

/-- The ticks of a job are the threads of its engine that are ticks of its number. -/
theorem mem_ticks {c : Cluster ι ρ} {engine : ι} {number : Nat} {tick : BegunTick} :
    tick ∈ c.ticks engine number ↔ ∃ thread, c.threads[tick.thread]? = some thread ∧ thread.engine = engine ∧
      thread.operation = .tick number tick.job tick.now := by
  unfold ticks
  rw [List.mem_filterMap]
  constructor
  · rintro ⟨⟨⟨other, operation⟩, k⟩, hmem, htick⟩
    obtain ⟨rfl, rfl, rfl⟩ := tick?_eq_some.1 htick
    rw [List.mem_zipIdx_iff_getElem?, List.getElem?_map, Option.map_eq_some_iff] at hmem
    obtain ⟨thread, hk, heq⟩ := hmem
    obtain ⟨hengine, hop⟩ := Prod.mk.inj heq
    exact ⟨thread, hk, hengine, hop⟩
  · rintro ⟨thread, hk, rfl, hop⟩
    refine ⟨((thread.engine, thread.operation), tick.thread), ?_, tick?_eq_some.2 ⟨rfl, hop, rfl⟩⟩
    rw [List.mem_zipIdx_iff_getElem?, List.getElem?_map, hk]
    rfl

variable {services : ι → Services}

/-- The ticks of a job after the beginning of an operation: one more if it is one. -/
theorem ticks_start (c : Cluster ι ρ) (other : ι) (operation : Operation) (engine : ι) (number : Nat) :
    (c.start services other operation).ticks engine number =
      c.ticks engine number ++ (tick? engine number ((other, operation), c.threads.length)).toList := by
  unfold ticks Cluster.start
  rw [List.map_append, List.zipIdx_append, List.filterMap_append, List.length_map]
  congr 1
  simp [List.filterMap_cons]
  cases tick? engine number ((other, operation), c.threads.length) <;> rfl

variable [JobRegistry ρ]

/-- No step is the beginning of a tick. -/
theorem ticks_advance (c : Cluster ι ρ) {k : Nat} {thread : Thread ι} {action : Action} {next : action.Answer → Program Result}
    (present : c.threads[k]? = some thread) (engine : ι) (number : Nat) :
    (c.advance services k thread action next).ticks engine number = c.ticks engine number := by
  unfold ticks Cluster.advance
  rw [List.map_set]
  congr 2
  refine List.ext_getElem? fun n => ?_
  rw [List.getElem?_set]
  split
  · rename_i hn
    subst hn
    rw [List.length_map, if_pos (List.getElem?_eq_some_iff.1 present).1, List.getElem?_map, present]
    rfl
  · rfl

/-- What can come of a cluster by moves of which none begins a tick of a job while one is in progress. -/
inductive InTurn (services : ι → Services) (engine : ι) (number : Nat) (c : Cluster ι ρ) : Cluster ι ρ → Prop where
  | refl : InTurn services engine number c c
  | next {c₁ c₂ : Cluster ι ρ} (earlier : InTurn services engine number c c₁) (move : Move ι)
      (h : c₁.next services move = some c₂)
      (turn : c₂.ticks engine number ≠ c₁.ticks engine number → ∀ tick ∈ c₁.ticks engine number, c₁.Ended tick.thread) :
      InTurn services engine number c c₂

/-- Moves in turn are moves. -/
theorem InTurn.steps {engine : ι} {number : Nat} {c c' : Cluster ι ρ} (h : InTurn services engine number c c') :
    Steps services c c' := by
  induction h with
  | refl => exact .refl
  | next _ move hnext _ ih => exact .next ih move hnext

/-- A change leaves the ticks of a job as they are, or one more has begun. -/
theorem ticks_change {c c' : Cluster ι ρ} (hc : Change services c c') (engine : ι) (number : Nat) :
    ∃ begun, c'.ticks engine number = c.ticks engine number ++ begun := by
  cases hc with
  | start other operation _ => exact ⟨_, ticks_start c other operation engine number⟩
  | advance present _ => exact ⟨[], by rw [ticks_advance c present, List.append_nil]⟩
  | expire _ _ _ _ => exact ⟨[], (List.append_nil _).symm⟩

/-- A job that has had no more than one tick has had them in turn. -/
theorem inTurn_of_length_le {c c' : Cluster ι ρ} (h : Steps services c c') {engine : ι} {number : Nat}
    (hle : (c'.ticks engine number).length ≤ 1) : InTurn services engine number c c' := by
  induction h with
  | refl => exact .refl
  | @next c₁ c₂ earlier move hnext ih =>
    obtain ⟨begun, hbegun⟩ := ticks_change (change_of_next hnext) engine number
    rw [hbegun, List.length_append] at hle
    refine .next (ih (by omega)) move hnext fun hne tick htick => ?_
    have hsome : begun.length ≠ 0 := by
      intro hnil
      rw [hbegun, List.length_eq_zero_iff.1 hnil, List.append_nil] at hne
      exact hne rfl
    have hpos := List.length_pos_of_mem htick
    omega

/-- The ticks of a job one after another, from the job with which its timer was started. -/
structure Row (c : Cluster ι ρ) (engine : ι) (number : Nat) (first : Job) : Prop where
  /-- Each tick works on the job as those before gave it back, and those before have ended. -/
  along : ∀ before tick after, c.ticks engine number = before ++ tick :: after →
    tick.job = before.foldl c.givenBack first ∧ ∀ earlier ∈ before, c.Ended earlier.thread
  /-- The engine remembers the job as the ticks gave it back. -/
  remembered : ∀ started, (c.engines engine).jobs[number]? = some started →
    started.job = (c.ticks engine number).foldl c.givenBack first

omit [DecidableEq ι] [JobRegistry ρ] in
/-- What ticks have given back is seen from their threads. -/
theorem foldl_givenBack_congr {c c' : Cluster ι ρ} (first : Job) {ticks : List BegunTick}
    (h : ∀ tick ∈ ticks, c'.threads[tick.thread]? = c.threads[tick.thread]?) :
    ticks.foldl c'.givenBack first = ticks.foldl c.givenBack first :=
  List.foldl_ext _ _ _ fun job tick htick => givenBack_congr job (h tick htick)

/-- A step of another operation than a tick of a job changes nothing of what the engine remembers of the job. -/
theorem job_advance_of_ne {c : Cluster ι ρ} {k : Nat} {thread : Thread ι} {action : Action}
    {next : action.Answer → Program Result} {engine : ι} {number : Nat}
    (hne : ∀ job now, thread.engine = engine → thread.operation ≠ .tick number job now) {s s' : StartedJob}
    (hs : (c.engines engine).jobs[number]? = some s)
    (hs' : ((c.advance services k thread action next).engines engine).jobs[number]? = some s') : s' = s := by
  obtain ⟨_, hjobs, _⟩ := c.perform_timers services thread.engine action
  by_cases hengine : thread.engine = engine
  · subst hengine
    have hstays : (c.perform services thread.engine action).2.jobs[number]? = some s := by
      rw [hjobs, List.getElem?_append_left (List.getElem?_eq_some_iff.1 hs).1, hs]
    simp only [Cluster.advance, Function.update_self, EngineState.withRegistry] at hs'
    unfold Operation.conclude at hs'
    split at hs'
    · rename_i n job now outcome job' hop _
      have hn : n ≠ number := fun hn => hne job now rfl (hn ▸ hop)
      simp only [EngineState.withJob, List.getElem?_modify, hn, if_false, hstays] at hs'
      exact (Option.some.inj hs').symm
    · rw [hstays] at hs'
      exact (Option.some.inj hs').symm
  · simp only [Cluster.advance, Function.update_of_ne (Ne.symm hengine), hs] at hs'
    exact (Option.some.inj hs').symm

/-- What an engine remembers of a job after a step of one of its ticks is what the tick has given back. -/
theorem job_advance_of_tick {c : Cluster ι ρ} {k : Nat} {thread : Thread ι} {action : Action}
    {next : action.Answer → Program Result} (present : c.threads[k]? = some thread) {number : Nat} {job : Job} {now : Instant}
    (hop : thread.operation = .tick number job now) {s s' : StartedJob}
    (hs : (c.engines thread.engine).jobs[number]? = some s)
    (hs' : ((c.advance services k thread action next).engines thread.engine).jobs[number]? = some s') :
    s'.job = (c.advance services k thread action next).givenBack s.job ⟨k, job, now⟩ := by
  obtain ⟨_, hjobs, _⟩ := c.perform_timers services thread.engine action
  have hstays : (c.perform services thread.engine action).2.jobs[number]? = some s := by
    rw [hjobs, List.getElem?_append_left (List.getElem?_eq_some_iff.1 hs).1, hs]
  unfold givenBack
  simp only [Cluster.advance, Function.update_self, EngineState.withRegistry, hop] at hs' ⊢
  rw [List.getElem?_set_self (List.getElem?_eq_some_iff.1 present).1]
  generalize next (c.perform services thread.engine action).1 = rest at hs'
  unfold Operation.conclude at hs'
  split at hs'
  · rename_i outcome job' hop'
    cases hop'
    simp only [EngineState.withJob, List.getElem?_modify, if_true, hstays] at hs'
    cases hs'
    rfl
  · rename_i hnot
    rw [hstays] at hs'
    cases hs'
    split
    · rename_i heq
      cases heq
      exact absurd rfl (hnot _ _ _ _ _ rfl)
    · rfl

namespace Row

variable {c : Cluster ι ρ} {engine : ι} {number : Nat} {first : Job}

omit [JobRegistry ρ] in
/-- The beginning of an operation keeps the row, if it is not that of a tick of the job while one is in progress. -/
theorem start (h : Row c engine number first) {other : ι} {operation : Operation}
    (started : ∀ n job, operation.job? = some (n, job) → ∃ s, (c.engines other).jobs[n]? = some s ∧ s.job = job)
    (turn : (c.start services other operation).ticks engine number ≠ c.ticks engine number →
      ∀ tick ∈ c.ticks engine number, c.Ended tick.thread) :
    Row (c.start services other operation) engine number first := by
  have hthread : ∀ tick ∈ c.ticks engine number,
      (c.start services other operation).threads[tick.thread]? = c.threads[tick.thread]? := by
    intro tick htick
    obtain ⟨thread, hk, _⟩ := mem_ticks.1 htick
    exact List.getElem?_append_left (List.getElem?_eq_some_iff.1 hk).1
  have hended : ∀ tick ∈ c.ticks engine number, c.Ended tick.thread →
      (c.start services other operation).Ended tick.thread := by
    rintro tick htick ⟨thread, result, hk, hdone⟩
    exact ⟨thread, result, (hthread tick htick).trans hk, hdone⟩
  have hold : ∀ before tick after, c.ticks engine number = before ++ tick :: after →
      tick.job = before.foldl (c.start services other operation).givenBack first ∧
        ∀ earlier ∈ before, (c.start services other operation).Ended earlier.thread := by
    intro before tick after hsplit
    obtain ⟨hjob, hearlier⟩ := h.along before tick after hsplit
    have hmem : ∀ earlier ∈ before, earlier ∈ c.ticks engine number := by
      intro earlier he
      rw [hsplit]
      exact List.mem_append_left _ he
    refine ⟨?_, fun earlier he => hended earlier (hmem earlier he) (hearlier earlier he)⟩
    rw [hjob, foldl_givenBack_congr first fun earlier he => hthread earlier (hmem earlier he)]
  have hfold := foldl_givenBack_congr first hthread
  cases htick : tick? engine number ((other, operation), c.threads.length) with
  | none =>
    have hticks : (c.start services other operation).ticks engine number = c.ticks engine number := by
      rw [ticks_start, htick, Option.toList_none, List.append_nil]
    constructor
    · rw [hticks]
      exact hold
    · rw [hticks, hfold]
      exact h.remembered
  | some tick =>
    have hticks : (c.start services other operation).ticks engine number = c.ticks engine number ++ [tick] := by
      rw [ticks_start, htick, Option.toList_some]
    obtain ⟨rfl, hop, hk⟩ := tick?_eq_some.1 htick
    obtain ⟨s, hs, hjob⟩ := started number tick.job (by rw [hop]; rfl)
    constructor
    · intro before t after hsplit
      rw [hticks] at hsplit
      rcases split_snoc hsplit with ⟨rfl, rfl, rfl⟩ | ⟨after', hbefore, rfl⟩
      · refine ⟨?_, fun earlier he => hended earlier he (turn (by simp [hticks]) earlier he)⟩
        rw [hfold, ← hjob]
        exact h.remembered s hs
      · exact hold before t after' hbefore
    · have hbegun : ¬(c.start services other operation).Ended tick.thread := by
        have hpresent : (c.start services other operation).threads[tick.thread]? =
            some ⟨other, operation, operation.program (services other)⟩ := by
          rw [hk]
          exact List.getElem?_concat_length
        subst hop
        exact not_ended_of_step hpresent rfl
      intro started hstarted
      rw [hticks, List.foldl_append, hfold, List.foldl_cons, List.foldl_nil, givenBack_of_not_ended _ hbegun]
      exact h.remembered started hstarted

/-- A step keeps the row of a job that the engine remembers. -/
theorem advance (h : Row c engine number first) {s : StartedJob} (hs : (c.engines engine).jobs[number]? = some s) {k : Nat}
    {thread : Thread ι} {action : Action} {next : action.Answer → Program Result} (present : c.threads[k]? = some thread)
    (stands : thread.rest = .step action next) : Row (c.advance services k thread action next) engine number first := by
  have hthread : ∀ j, j ≠ k → (c.advance services k thread action next).threads[j]? = c.threads[j]? :=
    fun j hj => List.getElem?_set_ne hj.symm
  have hnot := not_ended_of_step present stands
  have hended : ∀ j, c.Ended j → (c.advance services k thread action next).Ended j := by
    rintro j hj
    obtain ⟨thread', result, hk, hdone⟩ := hj
    have hne : j ≠ k := by
      rintro rfl
      exact hnot ⟨thread', result, hk, hdone⟩
    exact ⟨thread', result, (hthread j hne).trans hk, hdone⟩
  have hfold : ∀ before : List BegunTick, (∀ tick ∈ before, tick.thread ≠ k) →
      before.foldl (c.advance services k thread action next).givenBack first = before.foldl c.givenBack first :=
    fun before hbefore => foldl_givenBack_congr first fun tick htick => hthread tick.thread (hbefore tick htick)
  have hticks : (c.advance services k thread action next).ticks engine number = c.ticks engine number :=
    c.ticks_advance present engine number
  constructor
  · rw [hticks]
    intro before tick after hsplit
    obtain ⟨hjob, hearlier⟩ := h.along before tick after hsplit
    refine ⟨?_, fun earlier he => hended earlier.thread (hearlier earlier he)⟩
    rw [hjob, hfold before fun earlier he heq => hnot (heq ▸ hearlier earlier he)]
  · intro s' hs'
    rw [hticks]
    by_cases hmem : ∃ tick ∈ c.ticks engine number, tick.thread = k
    · obtain ⟨tick, htick, rfl⟩ := hmem
      obtain ⟨before, after, hsplit⟩ := List.append_of_mem htick
      obtain ⟨thread', hpresent, rfl, hop⟩ := mem_ticks.1 htick
      cases present.symm.trans hpresent
      have hlast : after = [] := by
        cases after with
        | nil => rfl
        | cons later rest =>
          have hsplit' : c.ticks thread.engine number = (before ++ [tick]) ++ later :: rest := by simpa using hsplit
          exact absurd ((h.along _ later rest hsplit').2 tick (by simp)) hnot
      subst hlast
      have hbefore := (h.along before tick [] hsplit).2
      have hremembered := h.remembered s hs
      rw [hsplit, List.foldl_append, List.foldl_cons, List.foldl_nil, givenBack_of_not_ended _ hnot] at hremembered
      rw [job_advance_of_tick present hop hs hs', hsplit, List.foldl_append, List.foldl_cons, List.foldl_nil,
        hfold before fun earlier he heq => hnot (heq ▸ hbefore earlier he), hremembered]
    · have hne : ∀ job now, thread.engine = engine → thread.operation ≠ .tick number job now :=
        fun job now hengine hop => hmem ⟨⟨k, job, now⟩, mem_ticks.2 ⟨thread, present, hengine, hop⟩, rfl⟩
      rw [job_advance_of_ne hne hs hs', hfold _ fun tick htick heq => hmem ⟨tick, htick, heq⟩]
      exact h.remembered s hs

/-- A job whose timer has just been started has had no tick. -/
theorem of_started {services : ι → Services} (hsound : Sound services c) (hstaffed : Staffed c) {k : Nat} {thread : Thread ι}
    {action : Action} {next : action.Answer → Program Result} (present : c.threads[k]? = some thread)
    (stands : thread.rest = .step action next)
    (hnew : (⟨action, (c.perform services thread.engine action).1⟩ : Happening) = ⟨.schedule first, .ok number⟩) :
    Row (c.advance services k thread action next) thread.engine number first := by
  obtain ⟨_, hjobs, hhandle⟩ := c.perform_timers services thread.engine action
  rw [hnew] at hjobs hhandle
  have hnumber : number = (c.cards thread.engine).length := by
    rw [hstaffed.handles]
    exact hhandle _ rfl
  have hnone : c.ticks thread.engine number = [] := by
    refine List.eq_nil_iff_forall_not_mem.2 fun tick htick => ?_
    obtain ⟨thread', hk, hengine, hop⟩ := mem_ticks.1 htick
    have hcard := hstaffed.threads tick.thread thread' number tick.job hk (by rw [hop]; rfl)
    have hlt := (List.getElem?_eq_some_iff.1 hcard).1
    rw [hengine] at hlt
    omega
  have hticks : (c.advance services k thread action next).ticks thread.engine number = c.ticks thread.engine number :=
    c.ticks_advance present thread.engine number
  rw [hnone] at hticks
  constructor
  · intro before tick after hsplit
    rw [hticks] at hsplit
    cases before <;> cases hsplit
  · intro started hstarted
    rw [hticks]
    have hkeeps := hsound.keeps present
    rw [stands] at hkeeps
    obtain rfl : action = .schedule first := congrArg Happening.action hnew
    obtain ⟨mode, _, hop, _⟩ := Operation.asks_schedule hkeeps.1
    simp only [Cluster.advance, Function.update_self, EngineState.withRegistry, hop, Operation.conclude] at hstarted
    rw [hjobs, hnumber, cards, List.length_map, List.getElem?_append_right (Nat.le_refl _), Nat.sub_self] at hstarted
    cases hstarted
    rfl

/-- With its ticks in turn, every job has them in a row from the job with which its timer was started. -/
theorem of_inTurn {services : ι → Services} {registry : ρ} (hempty : JobRegistry.Vacant registry)
    (h : InTurn services engine number (fresh registry) c) {a : Nat} (ha : c.On a engine)
    (hstarted : (a, ⟨.schedule first, .ok number⟩) ∈ c.log) : Row c engine number first := by
  induction h generalizing first with
  | refl => cases hstarted
  | @next c₁ c₂ earlier move hnext turn ih =>
    have hreach : Reachable services c₁ := ⟨registry, hempty, earlier.steps⟩
    have hsound := Sound.of_reachable hreach
    have hstaffed := Staffed.of_reachable hreach
    have hc := change_of_next hnext
    have hon : ∀ {happening : Happening}, (a, happening) ∈ c₁.log → c₁.On a engine :=
      fun hmem => hc.on_of_logged hsound hmem ha
    cases hc with
    | start other operation started => exact (ih (hon hstarted) hstarted).start started turn
    | @expire k thread n job instant s present told stopped found =>
      obtain ⟨halong, hremembered⟩ := ih (hon hstarted) hstarted
      refine ⟨halong, fun started hfound => hremembered started ?_⟩
      simp only [Cluster.expire] at hfound
      by_cases hengine : engine = thread.engine
      · subst hengine
        rwa [Function.update_self] at hfound
      · rwa [Function.update_of_ne hengine] at hfound
    | @advance k thread action next present stands =>
      rcases List.mem_append.1 hstarted with hbefore | hlast
      · have hcard := hstaffed.scheduled a engine first number (hon hbefore) hbefore
        rw [cards, List.getElem?_map] at hcard
        obtain ⟨s, hs, _⟩ := Option.map_eq_some_iff.1 hcard
        exact (ih (hon hbefore) hbefore).advance hs present stands
      · obtain ⟨rfl, hnew⟩ := Prod.mk.inj (List.mem_singleton.1 hlast)
        obtain rfl : engine = thread.engine := ha.unique (Change.on (.advance present stands) ⟨thread, present, rfl⟩)
        exact of_started hsound hstaffed present stands hnew.symm

omit [JobRegistry ρ] in
/-- When every ended tick of a job gave it back as its gate says, the ticks in a row took it on as their gates say. -/
theorem foldl_beyond_of_ended (h : Row c engine number first)
    (hbeyond : ∀ tick ∈ c.ticks engine number, c.Ended tick.thread → ∀ job, c.givenBack job tick = tick.job.beyond tick.now)
    {before after : List BegunTick} (hsplit : c.ticks engine number = before ++ after)
    (hended : ∀ tick ∈ before, c.Ended tick.thread) :
    before.foldl c.givenBack first = (before.map BegunTick.now).foldl Job.beyond first := by
  induction before using List.reverseRecOn generalizing after with
  | nil => rfl
  | append_singleton before tick ih =>
    have hsplit' : c.ticks engine number = before ++ tick :: after := by simpa using hsplit
    have hmem : tick ∈ c.ticks engine number := by
      rw [hsplit']
      exact List.mem_append_right _ List.mem_cons_self
    rw [List.foldl_append, List.map_append, List.foldl_append, List.foldl_cons, List.foldl_nil, List.map_singleton,
      List.foldl_cons, List.foldl_nil, hbeyond tick hmem (hended tick (by simp)), (h.along before tick after hsplit').1,
      ih hsplit' fun earlier he => hended earlier (List.mem_append_left _ he)]

omit [JobRegistry ρ] in
/-- A tick in a row in which every ended one gave the job back as its gate says finds it as the job would be alone. -/
theorem fires_eq_firings (h : Row c engine number first)
    (hbeyond : ∀ tick ∈ c.ticks engine number, c.Ended tick.thread → ∀ job, c.givenBack job tick = tick.job.beyond tick.now)
    {i : Nat} {tick : BegunTick} (htick : (c.ticks engine number)[i]? = some tick) :
    (first.firings ((c.ticks engine number).map BegunTick.now))[i]? = some (tick.job.fires tick.now) := by
  obtain ⟨hi, rfl⟩ := List.getElem?_eq_some_iff.1 htick
  have hsplit : c.ticks engine number = (c.ticks engine number).take i ++ (c.ticks engine number)[i] ::
      (c.ticks engine number).drop (i + 1) := by
    rw [← List.drop_eq_getElem_cons hi, List.take_append_drop]
  obtain ⟨hjob, hended⟩ := h.along _ _ _ hsplit
  rw [Job.getElem?_firings, List.getElem?_map, htick, ← List.map_take, hjob, h.foldl_beyond_of_ended hbeyond hsplit hended]
  rfl

end Row

end Cluster

end StandingQuery
