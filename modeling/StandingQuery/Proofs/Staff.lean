import StandingQuery.Proofs.Cluster
import StandingQuery.Proofs.Handles

/-!
# Jobs and the activations they come from

Every timer of an engine belongs to a job, its handle is the job's number, and query and token of the job are those with which
an activation of the same engine asked for the timer (`Cluster.Staffed`). A tick works on its job's query and token whatever
the job has become meanwhile, so that the invariant is stated of cards, which say only the handle, the query and the token.
-/

namespace StandingQuery

/-- Of a started job, what never changes: its handle, its query and its token. -/
def StartedJob.card (s : StartedJob) : Nat × StoredQuery × Uuid := (s.handle, s.job.query, s.job.token)

namespace Operation

variable {ρ : Type} [JobRegistry ρ]

/-- What an engine remembers of an operation is nothing of its timers. -/
@[simp] theorem conclude_timers (operation : Operation) (rest : Program Result) (s : EngineState ρ) :
    (operation.conclude rest s).timers = s.timers := by
  unfold conclude
  split <;> rfl

/-- Cards stay what they are when a job goes on with the same query and token. -/
theorem conclude_cards {operation : Operation} {rest : Program Result} {s : EngineState ρ}
    (h : ∀ number job now outcome job', operation = .tick number job now → rest = .done (.ticked outcome job') →
      ∀ started, s.jobs[number]? = some started → job'.query = started.job.query ∧ job'.token = started.job.token) :
    (operation.conclude rest s).jobs.map StartedJob.card = s.jobs.map StartedJob.card := by
  unfold conclude
  split
  · rename_i number job now outcome job'
    unfold EngineState.withJob
    simp only
    refine List.ext_getElem? fun n => ?_
    simp only [List.getElem?_map, List.getElem?_modify]
    by_cases hn : number = n
    · subst hn
      cases hstarted : s.jobs[number]? with
      | none => rfl
      | some started =>
        obtain ⟨hquery, htoken⟩ := h number job now outcome job' rfl rfl started hstarted
        simp [StartedJob.card, hquery, htoken]
    · cases s.jobs[n]? <;> simp [hn]
  · rfl

end Operation

namespace Cluster

variable {ι ρ : Type}

/-- Whether a thread is of an engine. -/
def On (c : Cluster ι ρ) (k : Nat) (engine : ι) : Prop := ∃ thread, c.threads[k]? = some thread ∧ thread.engine = engine

instance [DecidableEq ι] (c : Cluster ι ρ) (k : Nat) (engine : ι) : Decidable (c.On k engine) :=
  decidable_of_iff (c.threads[k]?.map Thread.engine = some engine) Option.map_eq_some_iff

/-- The cards of an engine's jobs. -/
def cards (c : Cluster ι ρ) (engine : ι) : List (Nat × StoredQuery × Uuid) := (c.engines engine).jobs.map StartedJob.card

/-- The thread of an engine is of that engine only. -/
theorem On.unique {c : Cluster ι ρ} {k : Nat} {engine engine' : ι} (h : c.On k engine) (h' : c.On k engine') :
    engine = engine' := by
  obtain ⟨thread, hk, rfl⟩ := h
  obtain ⟨thread', hk', rfl⟩ := h'
  cases hk.symm.trans hk'
  rfl

variable [DecidableEq ι] [JobRegistry ρ] {services : ι → Services} {c c' : Cluster ι ρ}

/-- Threads stay of the engines that they are of. -/
theorem Change.on (hc : Change services c c') {k : Nat} {engine : ι} (h : c.On k engine) : c'.On k engine := by
  obtain ⟨thread, hk, rfl⟩ := h
  cases hc with
  | start other operation _ => exact ⟨thread, List.getElem?_append_left (List.getElem?_eq_some_iff.1 hk).1 ▸ hk, rfl⟩
  | @advance j thread' action next present _ =>
    by_cases hj : j = k
    · subst hj
      cases hk.symm.trans present
      have hlt := (List.getElem?_eq_some_iff.1 hk).1
      exact ⟨_, List.getElem?_set_self hlt, rfl⟩
    · exact ⟨thread, (List.getElem?_set_ne hj).trans hk, rfl⟩
  | expire _ _ _ _ => exact ⟨thread, hk, rfl⟩

/-- Threads that there were are of the engines that they were of. -/
theorem Change.on_of_lt (hc : Change services c c') {k : Nat} (hk : k < c.threads.length) {engine : ι} (h : c'.On k engine) :
    c.On k engine := by
  have hthere : c.On k c.threads[k].engine := ⟨_, List.getElem?_eq_getElem hk, rfl⟩
  rw [(hc.on hthere).unique h] at hthere
  exact hthere

/-- Threads of the log are of the engines that they were of. -/
theorem Change.on_of_logged (hc : Change services c c') (hsound : Sound services c) {k : Nat} {happening : Happening}
    (hmem : (k, happening) ∈ c.log) {engine : ι} (h : c'.On k engine) : c.On k engine :=
  hc.on_of_lt (hsound.logged _ hmem) h

omit [DecidableEq ι] in
/-- What an atomic step does to the timers and the jobs of the engine that takes it. -/
theorem perform_timers (services : ι → Services) (c : Cluster ι ρ) (engine : ι) (action : Action) :
    (c.perform services engine action).2.timers =
        Happening.tends (c.engines engine).timers ⟨action, (c.perform services engine action).1⟩ ∧
      (c.perform services engine action).2.jobs =
        (c.engines engine).jobs ++ (Happening.begun ⟨action, (c.perform services engine action).1⟩).toList ∧
      ∀ started, Happening.begun ⟨action, (c.perform services engine action).1⟩ = some started →
        started.handle = (c.engines engine).timers.handles.length :=
  EngineState.perform_timers (services engine) ((c.engines engine).withRegistry c.registry) action

/-- What an advance does to the timers: those of the thread's engine are tended, all others stay. -/
theorem timers_advance (k : Nat) (thread : Thread ι) (action : Action) (next : action.Answer → Program Result) (engine : ι) :
    ((c.advance services k thread action next).engines engine).timers =
      if engine = thread.engine then
        Happening.tends (c.engines engine).timers ⟨action, (c.perform services thread.engine action).1⟩
      else (c.engines engine).timers := by
  have hperform := (c.perform_timers services thread.engine action).1
  by_cases he : engine = thread.engine
  · subst he
    simp only [advance, Function.update_self, if_pos]
    rw [EngineState.withRegistry, Operation.conclude_timers]
    exact hperform
  · simp only [advance, Function.update_of_ne he, if_neg he]

omit [JobRegistry ρ] in
/-- What the end of a timer does to the timers: the timer has finished, all others stay. -/
theorem timers_expire (c : Cluster ι ρ) (engine : ι) (s : StartedJob) (other : ι) :
    ((c.expire engine s).engines other).timers =
      if other = engine then (c.engines other).timers.finish s.handle else (c.engines other).timers := by
  unfold Cluster.expire
  by_cases he : other = engine
  · subst he
    simp only [Function.update_self, if_pos]
  · simp only [Function.update_of_ne he, if_neg he]

omit [JobRegistry ρ] in
/-- The end of a timer changes no card. -/
theorem cards_expire (c : Cluster ι ρ) (engine : ι) (s : StartedJob) (other : ι) :
    (c.expire engine s).cards other = c.cards other := by
  unfold cards Cluster.expire
  by_cases he : other = engine
  · subst he
    simp only [Function.update_self]
  · simp only [Function.update_of_ne he]

/-- Jobs are the cards of their timers, the handle being the number, and every card is one with which an activation of the same
engine asked for the timer. -/
structure Staffed (c : Cluster ι ρ) : Prop where
  handles : ∀ engine, (c.cards engine).length = (c.engines engine).timers.handles.length
  numbered : ∀ (engine : ι) (n : Nat) (card : Nat × StoredQuery × Uuid), (c.cards engine)[n]? = some card → card.1 = n
  threads : ∀ (k : Nat) (thread : Thread ι) (number : Nat) (job : Job), c.threads[k]? = some thread →
    thread.operation.job? = some (number, job) → (c.cards thread.engine)[number]? = some (number, job.query, job.token)
  scheduled : ∀ (k : Nat) (engine : ι) (job : Job) (n : Nat), c.On k engine → (k, ⟨.schedule job, .ok n⟩) ∈ c.log →
    (c.cards engine)[n]? = some (n, job.query, job.token)
  origin : ∀ engine n query token, (c.cards engine)[n]? = some (n, query, token) →
    ∃ k job, c.On k engine ∧ (k, ⟨.schedule job, .ok n⟩) ∈ c.log ∧ job.query = query ∧ job.token = token
  /-- No two threads of an engine were given the same handle. -/
  once : ∀ engine k k' job job' n, c.On k engine → c.On k' engine → (k, ⟨.schedule job, .ok n⟩) ∈ c.log →
    (k', ⟨.schedule job', .ok n⟩) ∈ c.log → k = k'
  /-- A thread of a job takes steps only after the job's timer was asked for. -/
  ordered : ∀ (before : List (Nat × Happening)) (k : Nat) (happening : Happening) (after : List (Nat × Happening))
    (thread : Thread ι) (number : Nat) (job : Job), c.log = before ++ (k, happening) :: after →
    c.threads[k]? = some thread → thread.operation.job? = some (number, job) →
      ∃ k' job', (k', ⟨.schedule job', .ok number⟩) ∈ before ∧ job'.query = job.query ∧ job'.token = job.token

namespace Staffed

/-- What an advance does to the cards: the thread's engine has one more if the thread started a timer. -/
theorem cards_advance (h : Staffed c) (hsound : Sound services c) {k : Nat} {thread : Thread ι} {action : Action}
    {next : action.Answer → Program Result} (present : c.threads[k]? = some thread) (stands : thread.rest = .step action next)
    (engine : ι) :
    (c.advance services k thread action next).cards engine =
      if engine = thread.engine then
        c.cards engine ++
          ((Happening.begun ⟨action, (c.perform services thread.engine action).1⟩).map StartedJob.card).toList
      else c.cards engine := by
  obtain ⟨_, hjobs, _⟩ := c.perform_timers services thread.engine action
  by_cases he : engine = thread.engine
  · subst he
    simp only [advance, cards, Function.update_self, if_pos]
    rw [EngineState.withRegistry, Operation.conclude_cards]
    · rw [hjobs, List.map_append, Option.toList_map]
    · intro number job now outcome job' hop hrest started hstarted
      have hkeeps := hsound.keeps present
      rw [stands, hop] at hkeeps
      have hends := hkeeps.2 (c.perform services thread.engine action).1
      rw [hrest] at hends
      obtain ⟨_, _, hresult, ⟨last, hlast⟩, _⟩ := hends
      cases hresult
      have hcard := h.threads k thread number job present (by rw [hop]; rfl)
      simp only at hlast
      subst hlast
      have hlt : number < (c.engines thread.engine).jobs.length := by
        have := (List.getElem?_eq_some_iff.1 hcard).1
        rwa [cards, List.length_map] at this
      rw [hjobs, List.getElem?_append_left hlt] at hstarted
      rw [cards, List.getElem?_map, hstarted] at hcard
      simp only [Option.map_some, StartedJob.card, Option.some.injEq, Prod.mk.injEq] at hcard
      exact ⟨hcard.2.1.symm, hcard.2.2.symm⟩
  · simp only [advance, cards, Function.update_of_ne he, if_neg he]

/-- The beginning of an operation keeps jobs what they are. -/
theorem start (h : Staffed c) (hsound : Sound services c) {engine : ι} {operation : Operation}
    (started : ∀ number job, operation.job? = some (number, job) →
      ∃ s, (c.engines engine).jobs[number]? = some s ∧ s.job = job) : Staffed (c.start services engine operation) := by
  have hc : Change services c (c.start services engine operation) := .start engine operation started
  refine ⟨h.handles, h.numbered, fun k thread number job hk hjob => ?_, fun k e job n hk hlog => ?_,
    fun e n query token hcard => ?_, fun e k k' job job' n hk hk' hlog hlog' => ?_,
    fun before k happening after thread number job hlog hk hjob => ?_⟩
  · simp only [Cluster.start, List.getElem?_append] at hk
    split at hk
    · exact h.threads k thread number job hk hjob
    · rw [List.getElem?_singleton] at hk
      split at hk
      · cases hk
        obtain ⟨s, hs, rfl⟩ := started number job hjob
        have hcard : (c.cards engine)[number]? = some s.card := by
          rw [cards, List.getElem?_map, hs]
          rfl
        have hnumber : s.handle = number := h.numbered engine number _ hcard
        rw [StartedJob.card, hnumber] at hcard
        exact hcard
      · cases hk
  · exact h.scheduled k e job n (hc.on_of_logged hsound hlog hk) hlog
  · obtain ⟨k, job, hk, hlog, hcard⟩ := h.origin e n query token hcard
    exact ⟨k, job, hc.on hk, hlog, hcard⟩
  · exact h.once e k k' job job' n (hc.on_of_logged hsound hlog hk) (hc.on_of_logged hsound hlog' hk') hlog hlog'
  · have hmem : (k, happening) ∈ c.log := hlog ▸ List.mem_append_right _ List.mem_cons_self
    rw [Cluster.start, List.getElem?_append_left (hsound.logged _ hmem)] at hk
    exact h.ordered before k happening after thread number job hlog hk hjob

omit [JobRegistry ρ] in
/-- The end of a timer keeps jobs what they are. -/
theorem expire (h : Staffed c) (engine : ι) (s : StartedJob) : Staffed (c.expire engine s) := by
  refine ⟨fun e => ?_, ?_, ?_, ?_, ?_, h.once, h.ordered⟩
  · rw [cards_expire, h.handles, timers_expire]
    split
    · rw [LocalTimers.finish, List.length_modify]
    · rfl
  · simp only [cards_expire]
    exact h.numbered
  · simp only [cards_expire]
    exact h.threads
  · simp only [cards_expire]
    exact h.scheduled
  · simp only [cards_expire]
    exact h.origin

/-- Cards are never lost. -/
theorem card_advance (h : Staffed c) (hsound : Sound services c) {j : Nat} {thread : Thread ι} {action : Action}
    {next : action.Answer → Program Result} (present : c.threads[j]? = some thread) (stands : thread.rest = .step action next)
    {engine : ι} {n : Nat} {card : Nat × StoredQuery × Uuid} (hcard : (c.cards engine)[n]? = some card) :
    ((c.advance services j thread action next).cards engine)[n]? = some card := by
  rw [h.cards_advance hsound present stands]
  split
  · rw [List.getElem?_append_left (List.getElem?_eq_some_iff.1 hcard).1, hcard]
  · exact hcard

/-- A card that was not there before is that of the timer that the step started. -/
theorem card_of_advance (h : Staffed c) (hsound : Sound services c) {j : Nat} {thread : Thread ι} {action : Action}
    {next : action.Answer → Program Result} (present : c.threads[j]? = some thread) (stands : thread.rest = .step action next)
    {engine : ι} {n : Nat} {card : Nat × StoredQuery × Uuid}
    (hcard : ((c.advance services j thread action next).cards engine)[n]? = some card) :
    (c.cards engine)[n]? = some card ∨
      engine = thread.engine ∧ ∃ started : StartedJob, started.card = card ∧ started.handle = n ∧
        (⟨action, (c.perform services thread.engine action).1⟩ : Happening) = ⟨.schedule started.job, .ok n⟩ := by
  obtain ⟨_, _, hhandle⟩ := c.perform_timers services thread.engine action
  rw [h.cards_advance hsound present stands] at hcard
  split at hcard
  · rename_i he
    subst he
    rw [List.getElem?_append] at hcard
    split at hcard
    · exact Or.inl hcard
    · rename_i hge
      cases hbegun : Happening.begun ⟨action, (c.perform services thread.engine action).1⟩ with
      | none => simp [hbegun] at hcard
      | some started =>
        simp only [hbegun, Option.map_some, Option.toList_some, List.getElem?_singleton] at hcard
        split at hcard
        · rename_i hzero
          cases hcard
          have hn : started.handle = n := by
            rw [hhandle started hbegun, ← h.handles]
            omega
          exact Or.inr ⟨rfl, started, rfl, hn, hn ▸ Happening.begun_eq_some hbegun⟩
        · cases hcard
  · exact Or.inl hcard

/-- A step of a thread keeps jobs what they are. -/
theorem advance (h : Staffed c) (hsound : Sound services c) {j : Nat} {thread : Thread ι} {action : Action}
    {next : action.Answer → Program Result} (present : c.threads[j]? = some thread) (stands : thread.rest = .step action next) :
    Staffed (c.advance services j thread action next) := by
  have hc : Change services c (c.advance services j thread action next) := .advance present stands
  have hj : c.On j thread.engine := ⟨thread, present, rfl⟩
  have hthread : ∀ {k : Nat} {t : Thread ι}, (c.advance services j thread action next).threads[k]? = some t →
      ∃ t₀, c.threads[k]? = some t₀ ∧ t₀.engine = t.engine ∧ t₀.operation = t.operation := by
    intro k t hk
    rw [Cluster.advance, List.getElem?_set] at hk
    split at hk
    · rename_i hjk
      subst hjk
      split at hk
      · cases hk
        exact ⟨thread, present, rfl, rfl⟩
      · cases hk
    · exact ⟨t, hk, rfl, rfl⟩
  have hlast : ∀ {k : Nat} {job : Job} {n : Nat} {engine : ι},
      (k, (⟨.schedule job, .ok n⟩ : Happening)) = (j, ⟨action, (c.perform services thread.engine action).1⟩) →
      (c.advance services j thread action next).On k engine →
      k = j ∧ engine = thread.engine ∧ n = (c.cards engine).length ∧
        ((c.advance services j thread action next).cards engine)[n]? = some (n, job.query, job.token) := by
    intro k job n engine he hk
    obtain ⟨rfl, hnew⟩ := Prod.mk.injEq .. ▸ he
    obtain ⟨_, _, hhandle⟩ := c.perform_timers services thread.engine action
    rw [← hnew] at hhandle
    have hengine := hk.unique (hc.on hj)
    subst hengine
    have hn : n = (c.cards thread.engine).length := by
      rw [h.handles]
      exact hhandle _ rfl
    refine ⟨rfl, rfl, hn, ?_⟩
    rw [h.cards_advance hsound present stands, if_pos rfl, ← hnew, hn, List.getElem?_append_right (Nat.le_refl _), Nat.sub_self]
    rfl
  refine ⟨fun e => ?_, fun e n card hcard => ?_, fun k t number job hk hjob => ?_, fun k e job n hk hmem => ?_,
    fun e n query token hcard => ?_, fun e k k' job job' n hk hk' hmem hmem' => ?_,
    fun before k happening after t number job hsplit hk hjob => ?_⟩
  · rw [h.cards_advance hsound present stands, timers_advance]
    split
    · rw [List.length_append, Happening.length_tends, h.handles, Option.toList_map, List.length_map]
    · exact h.handles e
  · rcases h.card_of_advance hsound present stands hcard with hold | ⟨_, started, rfl, hn, _⟩
    · exact h.numbered e n card hold
    · exact hn
  · obtain ⟨t₀, hk₀, hengine, hop⟩ := hthread hk
    rw [← hengine]
    exact h.card_advance hsound present stands (h.threads k t₀ number job hk₀ (hop ▸ hjob))
  · rcases List.mem_append.1 hmem with hmem | hmem
    · exact h.card_advance hsound present stands (h.scheduled k e job n (hc.on_of_logged hsound hmem hk) hmem)
    · exact (hlast (List.mem_singleton.1 hmem) hk).2.2.2
  · rcases h.card_of_advance hsound present stands hcard with hold | ⟨rfl, started, hstarted, rfl, hnew⟩
    · obtain ⟨k, job, hk, hmem, hjob⟩ := h.origin e n query token hold
      exact ⟨k, job, hc.on hk, List.mem_append_left _ hmem, hjob⟩
    · cases hstarted
      refine ⟨j, started.job, hc.on hj, List.mem_append_right _ ?_, rfl, rfl⟩
      rw [hnew]
      exact List.mem_singleton_self _
  · rcases List.mem_append.1 hmem with hold | hnew <;> rcases List.mem_append.1 hmem' with hold' | hnew'
    · exact h.once e k k' job job' n (hc.on_of_logged hsound hold hk) (hc.on_of_logged hsound hold' hk') hold hold'
    · obtain ⟨_, _, hn, _⟩ := hlast (List.mem_singleton.1 hnew') hk'
      have hlt := (List.getElem?_eq_some_iff.1 (h.scheduled k e job n (hc.on_of_logged hsound hold hk) hold)).1
      omega
    · obtain ⟨_, _, hn, _⟩ := hlast (List.mem_singleton.1 hnew) hk
      have hlt := (List.getElem?_eq_some_iff.1 (h.scheduled k' e job' n (hc.on_of_logged hsound hold' hk') hold')).1
      omega
    · exact (hlast (List.mem_singleton.1 hnew) hk).1.trans (hlast (List.mem_singleton.1 hnew') hk').1.symm
  · obtain ⟨t₀, hk₀, _, hop⟩ := hthread hk
    rcases split_snoc hsplit with ⟨rfl, he, _⟩ | ⟨after', hbefore, _⟩
    · obtain ⟨k', job', _, hmem, hjob'⟩ := h.origin t₀.engine number job.query job.token
        (h.threads k t₀ number job hk₀ (hop ▸ hjob))
      exact ⟨k', job', hmem, hjob'⟩
    · exact h.ordered before k happening after' t₀ number job hbefore hk₀ (hop ▸ hjob)

/-- Every change keeps jobs what they are. -/
theorem change (h : Staffed c) (hsound : Sound services c) (hc : Change services c c') : Staffed c' := by
  cases hc with
  | start _ _ started => exact h.start hsound started
  | advance present stands => exact h.advance hsound present stands
  | expire _ _ _ _ => exact h.expire _ _

/-- In every reachable cluster jobs are what they are said to be. -/
theorem of_reachable (h : Reachable services c) : Staffed c := by
  obtain ⟨registry, hempty, hsteps⟩ := h
  have hboth : Sound services c ∧ Staffed c := by
    refine hsteps.invariant (fun c => Sound services c ∧ Staffed c) ⟨?_, ?_⟩
      fun c₁ c₂ h hc => ⟨h.1.change hc, h.2.change h.1 hc⟩
    · exact Sound.of_reachable ⟨registry, hempty, .refl⟩
    · refine ⟨fun _ => rfl, ?_, ?_, ?_, ?_, ?_, ?_⟩ <;> simp [fresh, cards, EngineState.fresh]
  exact hboth.2

end Staffed

end Cluster

end StandingQuery
