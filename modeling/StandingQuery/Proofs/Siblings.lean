import StandingQuery.Proofs.Backing
import StandingQuery.Proofs.Courses
import StandingQuery.Proofs.Exclusion

/-!
# Jobs of one activation

The jobs that one activation started share its entry and its token. Over a registry that stays whole, while no cancellation of the
query has begun and nobody has given the entry up, each of them finds its token confirmed whenever it looks
(`Sound.confirmed_of_kept`), so that its ticks do what its own gate says and it goes on until it is over. Who first gives the
entry up is a job that is over, or the activation itself when it started no timer (`Sound.over_of_first`).
-/

namespace StandingQuery

namespace Job

variable {job : Job}

/-- A job that is told its next instant when it is not over gives its entry up only when its look did not confirm the token, and
otherwise goes on. -/
theorem keeps_afterTick_of_not_over {next : Option Instant} (hover : job.isOver next = false) :
    Program.Keeps
      (fun past action => (past = [] → action = .look job.query.id) ∧
        ∀ id token, action = .removeIfOwned id token → ¬job.Confirmed past)
      (fun past answer => past ≠ [] ∧ (job.Confirmed past → answer = .goOn)) (job.afterTick next) [] := by
  rw [afterTick_eq, hover]
  refine ⟨⟨fun _ => rfl, nofun⟩, fun read => ?_⟩
  simp only [List.nil_append]
  cases hread : Marker.confirms read job.token with
  | true => exact ⟨List.cons_ne_nil _ _, fun _ => rfl⟩
  | false =>
    have hnot : ∀ later, ¬job.Confirmed (⟨.look job.query.id, read⟩ :: later) := by
      rintro later ⟨read', hhead, hconfirms⟩
      cases hhead
      rw [hread] at hconfirms
      cases hconfirms
    refine ⟨⟨fun hnil => absurd hnil (List.cons_ne_nil _ _), fun _ _ _ => hnot []⟩, fun answer => ?_⟩
    refine ⟨⟨fun hnil => absurd hnil (List.cons_ne_nil _ _), nofun⟩, fun _ => ?_⟩
    exact ⟨List.cons_ne_nil _ _, fun hconfirmed => absurd hconfirmed (hnot _)⟩

end Job

namespace Cluster

variable {ι ρ : Type}

/-- Whether a cancellation of a query has begun. -/
def Cancelling (c : Cluster ι ρ) (id : String) : Prop :=
  ∃ (k : Nat) (thread : Thread ι), c.threads[k]? = some thread ∧ thread.operation = .cancel id

/-- A thread that has taken steps has taken a first one. -/
theorem exists_first {log : List (Nat × Happening)} {k : Nat} {happening : Happening}
    (h : (past log k).head? = some happening) :
    ∃ before after, log = before ++ (k, happening) :: after ∧ past before k = [] := by
  obtain ⟨rest, hrest⟩ := List.head?_eq_some_iff.1 h
  obtain ⟨before, e, after, rfl, hnone, he, _⟩ := List.filterMap_eq_cons_iff.1 hrest
  have hk : e = (k, happening) := by
    split at he
    · rename_i hk
      rw [← hk, ← Option.some.inj he]
    · cases he
  exact ⟨before, after, by rw [hk], List.filterMap_eq_nil_iff.2 hnone⟩

section Requests

variable [DecidableEq ι]

/-- The requests that an engine made of the catalog by a part of the log. -/
def requestsOf (services : ι → Services) (c : Cluster ι ρ) (part : List (Nat × Happening)) (engine : ι) : List CatalogRequest :=
  part.flatMap fun e => if c.On e.1 engine then (e.2.action.request (services engine).runner).toList else []

/-- The catalog's part in a cluster: what every engine asked of it by the log, and what it answered. -/
structure Requested (services : ι → Services) (c : Cluster ι ρ) : Prop where
  /-- The requests of an engine are those of the steps of its threads, in order. -/
  requests : ∀ engine, (c.engines engine).requests = c.requestsOf services c.log engine
  /-- Every execution was answered as the catalog answers after the requests made before. -/
  answered : ∀ before k expression answer after engine, c.log = before ++ (k, ⟨.execute expression, answer⟩) :: after →
    c.On k engine → answer = ((services engine).runner.run (c.requestsOf services before engine) expression).1

namespace Requested

variable [JobRegistry ρ] {services : ι → Services} {c c' : Cluster ι ρ}

/-- What engines requested by a part of the log does not change. -/
theorem requestsOf_change (hsound : Sound services c) (hc : Change services c c') {part : List (Nat × Happening)}
    (hpart : ∀ e ∈ part, e ∈ c.log) (engine : ι) : c'.requestsOf services part engine = c.requestsOf services part engine := by
  refine List.flatMap_congr fun e he => ?_
  have hon : c'.On e.1 engine ↔ c.On e.1 engine := ⟨hc.on_of_logged hsound (hpart e he), hc.on⟩
  simp only [hon]

/-- An answer that was in the log stays what the catalog answers. -/
theorem answered_change (h : Requested services c) (hsound : Sound services c) (hc : Change services c c') :
    ∀ before k expression answer after engine, c.log = before ++ (k, ⟨.execute expression, answer⟩) :: after →
      c'.On k engine → answer = ((services engine).runner.run (c'.requestsOf services before engine) expression).1 := by
  intro before k expression answer after engine hlog hon
  have hbefore : ∀ e ∈ before, e ∈ c.log := fun e he => hlog ▸ List.mem_append_left _ he
  have hmem : (k, ⟨.execute expression, answer⟩) ∈ c.log := hlog ▸ List.mem_append_right _ List.mem_cons_self
  rw [requestsOf_change hsound hc hbefore]
  exact h.answered before k expression answer after engine hlog (hc.on_of_logged hsound hmem hon)

/-- Every change keeps the catalog's part. -/
theorem change (h : Requested services c) (hsound : Sound services c) (hc : Change services c c') : Requested services c' := by
  have hsame : ∀ engine, c'.requestsOf services c.log engine = c.requestsOf services c.log engine :=
    requestsOf_change hsound hc fun _ he => he
  have hanswered := h.answered_change hsound hc
  cases hc with
  | start other operation started =>
    exact ⟨fun engine => (h.requests engine).trans (hsame engine).symm, hanswered⟩
  | @expire k thread number job instant s present told stopped found =>
    refine ⟨fun engine => ?_, hanswered⟩
    refine Eq.trans ?_ ((h.requests engine).trans (hsame engine).symm)
    simp only [Cluster.expire]
    by_cases hengine : engine = thread.engine
    · rw [hengine, Function.update_self]
    · rw [Function.update_of_ne hengine]
  | @advance k thread action next present stands =>
    have hon : (c.advance services k thread action next).On k thread.engine :=
      Change.on (.advance present stands) ⟨thread, present, rfl⟩
    have hperformed := EngineState.perform_requests (services thread.engine)
      ((c.engines thread.engine).withRegistry c.registry) action
    refine ⟨fun engine => ?_, fun before j expression answer after engine hlog hj => ?_⟩
    · have hlog : (c.advance services k thread action next).log =
          c.log ++ [(k, ⟨action, (c.perform services thread.engine action).1⟩)] := rfl
      unfold requestsOf
      rw [hlog, List.flatMap_append, List.flatMap_singleton]
      change _ = (c.advance services k thread action next).requestsOf services c.log engine ++ _
      rw [hsame, ← h.requests]
      by_cases hengine : engine = thread.engine
      · subst hengine
        rw [if_pos hon]
        simp only [Cluster.advance, Function.update_self, EngineState.withRegistry, Operation.conclude_requests]
        exact hperformed
      · have hnot : ¬(c.advance services k thread action next).On k engine := fun hother => hengine (hother.unique hon)
        rw [if_neg hnot, List.append_nil]
        simp only [Cluster.advance, Function.update_of_ne hengine]
    · rcases split_snoc hlog with ⟨rfl, he, rfl⟩ | ⟨after', hbefore, rfl⟩
      · obtain ⟨rfl, hhappening⟩ := Prod.mk.inj he
        obtain rfl := hj.unique hon
        obtain rfl : Action.execute expression = action := congrArg Happening.action hhappening
        cases hhappening
        rw [hsame, ← h.requests]
        rfl
      · exact hanswered _ _ _ _ _ _ hbefore hj

/-- Every reachable cluster has made the requests of its log. -/
theorem of_reachable (h : Reachable services c) : Requested services c := by
  obtain ⟨registry, hempty, hsteps⟩ := h
  have hboth := hsteps.invariant (fun c => Sound services c ∧ Requested services c)
    ⟨.of_reachable ⟨registry, hempty, .refl⟩, fun _ => rfl,
      fun before k expression answer after engine hlog => by simp [fresh] at hlog⟩
    fun _ _ ⟨hsound, hrequested⟩ hc => ⟨hsound.change hc, hrequested.change hsound hc⟩
  exact hboth.2

end Requested

end Requests

namespace Sound

variable {services : ι → Services} {c : Cluster ι ρ} {asks : List Happening → Action → Prop}
  {ends : List Happening → Result → Prop}

/-- Every step in the log was allowed by any bound of its thread's program. -/
theorem asked_by (h : Sound services c) {k : Nat} {thread : Thread ι} (hk : c.threads[k]? = some thread)
    (hkeeps : Program.Keeps asks ends (thread.operation.program (services thread.engine)) [])
    {before after : List (Nat × Happening)} {happening : Happening} (hlog : c.log = before ++ (k, happening) :: after) :
    asks (past before k) happening.action := by
  have hleads := h.leads k thread hk
  rw [hlog, past_append, past_cons, if_pos rfl] at hleads
  simpa using hleads.asked hkeeps

/-- What is left of a thread is allowed by any bound of its program. -/
theorem keeps_by (h : Sound services c) {k : Nat} {thread : Thread ι} (hk : c.threads[k]? = some thread)
    (hkeeps : Program.Keeps asks ends (thread.operation.program (services thread.engine)) []) :
    Program.Keeps asks ends thread.rest (past c.log k) := by
  simpa using (h.leads k thread hk).keeps hkeeps

/-- A thread whose program begins with a look has looked first. -/
theorem looked_first (h : Sound services c) {k : Nat} {thread : Thread ι} (hk : c.threads[k]? = some thread) {id : String}
    (hkeeps : Program.Keeps asks ends (thread.operation.program (services thread.engine)) [])
    (hlook : ∀ action, asks [] action → action = .look id) {before after : List (Nat × Happening)}
    (hlog : c.log = before ++ after) (hne : past before k ≠ []) :
    ∃ read, (past before k).head? = some ⟨.look id, read⟩ := by
  obtain ⟨happening, rest, hpast⟩ := List.exists_cons_of_ne_nil hne
  have hhead : (past before k).head? = some happening := by rw [hpast]; rfl
  obtain ⟨first, second, rfl, hfirst⟩ := exists_first hhead
  have hasked := h.asked_by hk hkeeps (hlog.trans (List.append_assoc ..))
  rw [hfirst] at hasked
  obtain ⟨action, answer⟩ := happening
  obtain rfl : action = .look id := hlook action hasked
  exact ⟨answer, hhead⟩

end Sound

variable {services : ι → Services} {c : Cluster ι ρ} {a : Nat} {id : String} {m : Marker}

/-- With distinct tokens, a job that carries the token of an activation takes steps only after the activation has won the entry
of the job's query. -/
theorem claimed_before (hsound : Sound services c) (hstaffed : Staffed c) (hdistinct : (drawnTokens c.log).Nodup)
    (hwon : (a, ⟨.claim id m, .ok true⟩) ∈ c.log) {k : Nat} {thread : Thread ι} (hk : c.threads[k]? = some thread) {number : Nat}
    {job : Job} (hjob : thread.operation.job? = some (number, job)) (htoken : job.token = m.token)
    {before after : List (Nat × Happening)} {happening : Happening} (hlog : c.log = before ++ (k, happening) :: after) :
    (a, ⟨.claim id m, .ok true⟩) ∈ before ∧ job.query.id = id := by
  obtain ⟨a', job', hstarted, hquery, htoken'⟩ := hstaffed.ordered before k happening after thread number job hlog hk hjob
  obtain ⟨first, second, rfl⟩ := List.append_of_mem hstarted
  obtain ⟨_, _, hasks⟩ := hsound.asked (hlog.trans (List.append_assoc ..))
  obtain ⟨_, m', _, hm', _, hwon'⟩ := Operation.asks_schedule hasks
  have hclaim : (a', ⟨.claim job'.query.id m', .ok true⟩) ∈ first ++ (a', ⟨.schedule job', .ok number⟩) :: second :=
    List.mem_append_left _ (mem_past.1 hwon')
  have hsame : ((a', ⟨.claim job'.query.id m', .ok true⟩) : Nat × Happening) = (a, ⟨.claim id m, .ok true⟩) := by
    refine eq_of_filterMap_nodup (hsound.wonTokens_nodup hdistinct) ?_ hwon (x := m.token) ?_ rfl
    · rw [hlog]
      exact List.mem_append_left _ hclaim
    · simp only [Happening.won?, ← hm', htoken', htoken]
  cases hsame
  exact ⟨hclaim, by rw [← hquery]⟩

/-- With distinct tokens, the jobs that carry the token of an activation run on the engine of the activation. -/
theorem on_of_token (hsound : Sound services c) (hstaffed : Staffed c) (hdistinct : (drawnTokens c.log).Nodup)
    (hwon : (a, ⟨.claim id m, .ok true⟩) ∈ c.log) {k : Nat} {thread : Thread ι} (hk : c.threads[k]? = some thread) {number : Nat}
    {job : Job} (hjob : thread.operation.job? = some (number, job)) (htoken : job.token = m.token) : c.On a thread.engine := by
  obtain ⟨a', job', ha', hstarted, _, htoken'⟩ := hstaffed.origin thread.engine number job.query job.token
    (hstaffed.threads k thread number job hk hjob)
  obtain ⟨m', hdrew, hm'⟩ := hsound.drew_of_started hstarted
  obtain rfl := Sound.eq_of_drew hdistinct hdrew (hsound.drew_of_won hwon) (by rw [← hm', htoken', htoken])
  exact ha'

variable [JobRegistry ρ]

/-- While no cancellation of the query has begun and nobody has given the entry up, the marker that won it is held. -/
theorem held_of_kept (hsound : Sound services c) (hrecorded : Recorded c) (hcancel : ¬c.Cancelling id)
    {part : List (Nat × Happening)} (hpart : part <+: c.log) (hwon : (a, ⟨.claim id m, .ok true⟩) ∈ part)
    (hkept : ¬GivenUp part id m.token) : held part id = some m := by
  induction part using List.reverseRecOn with
  | nil => cases hwon
  | append_singleton part e ih =>
    obtain ⟨rest, hlog⟩ := hpart
    have hlog' : c.log = part ++ (e.1, e.2) :: rest := by rw [← hlog, List.append_assoc]; rfl
    rw [held_snoc]
    rcases List.mem_append.1 hwon with hwon | hwon
    · have hbefore := ih ⟨e :: rest, hlog'.symm⟩ hwon fun hgiven => hkept (hgiven.snoc e)
      rw [hbefore]
      refine Happening.leaves_of_some (hrecorded.truthful part e rest hlog') hbefore ?_ ?_
      · intro haction
        obtain ⟨thread, hk, hasks⟩ := hsound.asked hlog'
        rw [haction] at hasks
        exact hcancel ⟨e.1, thread, hk, (Operation.asks_remove hasks).1⟩
      · intro haction
        obtain ⟨k, action, answer⟩ := e
        subst haction
        exact hkept ⟨k, answer, List.mem_append_right _ (List.mem_singleton_self _)⟩
    · rw [← List.mem_singleton.1 hwon]
      simp [Happening.leaves]

/-- With distinct tokens, while no cancellation of the query has begun and nobody has given the entry up, a job of the
activation that won the entry finds its token confirmed when it looks. -/
theorem confirmed_of_kept (hsound : Sound services c) (hrecorded : Recorded c) (hstaffed : Staffed c)
    (hdistinct : (drawnTokens c.log).Nodup) (hcancel : ¬c.Cancelling id) (hwon : (a, ⟨.claim id m, .ok true⟩) ∈ c.log) {k : Nat}
    {thread : Thread ι} (hk : c.threads[k]? = some thread) {number : Nat} {job : Job}
    (hjob : thread.operation.job? = some (number, job)) (htoken : job.token = m.token)
    {before after : List (Nat × Happening)} (hlog : c.log = before ++ after) (hkept : ¬GivenUp before id m.token)
    {read : (Action.look job.query.id).Answer} (hlook : (past before k).head? = some ⟨.look job.query.id, read⟩) :
    job.Confirmed (past before k) := by
  refine ⟨read, hlook, ?_⟩
  obtain ⟨first, second, rfl, _⟩ := exists_first hlook
  have hlog' : c.log = first ++ (k, ⟨.look job.query.id, read⟩) :: (second ++ after) := hlog.trans (List.append_assoc ..)
  obtain ⟨hclaimed, hid⟩ := claimed_before hsound hstaffed hdistinct hwon hk hjob htoken hlog'
  have hheld : held first id = some m := by
    refine held_of_kept hsound hrecorded hcancel ⟨_, hlog'.symm⟩ hclaimed fun hgiven => hkept ?_
    obtain ⟨k', answer, hmem⟩ := hgiven
    exact ⟨k', answer, List.mem_append_left _ hmem⟩
  have hread : read = .ok (held first job.query.id) := hrecorded.truthful first _ _ hlog'
  rw [hread, hid, hheld, htoken]
  exact beq_self_eq_true m.token

/-- With distinct tokens, while no cancellation of the query has begun, the entry that an activation won is first given up by one
of its jobs that is over, or by the activation itself when it has started no timer. -/
theorem over_of_first (hsound : Sound services c) (hrecorded : Recorded c) (hstaffed : Staffed c)
    (hdistinct : (drawnTokens c.log).Nodup) (hcancel : ¬c.Cancelling id) (hwon : (a, ⟨.claim id m, .ok true⟩) ∈ c.log)
    {before after : List (Nat × Happening)} {k : Nat} {answer : Except SchedulerError Bool}
    (hlog : c.log = before ++ (k, ⟨.removeIfOwned id m.token, answer⟩) :: after) (hkept : ¬GivenUp before id m.token) :
    (∃ thread number job next, c.threads[k]? = some thread ∧ thread.operation = .afterTick number job next ∧
      job.query.id = id ∧ job.token = m.token ∧ job.isOver next = true) ∨
    k = a ∧ Activation.started (past before a) = [] := by
  obtain ⟨thread, hk, hasks⟩ := hsound.asked hlog
  cases hop : thread.operation with
  | activate mode query =>
    rw [hop] at hasks
    generalize htoken : m.token = token at hasks
    cases hasks with
    | @giveUp m' drew won _ nothing =>
      have hdrew' : Activation.Drew (past c.log k) m' := by
        rw [hlog, past_append]
        exact Activation.Aux.drew_append drew _
      obtain rfl := Sound.eq_of_drew hdistinct hdrew' (hsound.drew_of_won hwon) htoken.symm
      exact Or.inr ⟨rfl, nothing⟩
  | cancel other =>
    rw [hop] at hasks
    cases hasks
  | tick number job now =>
    rw [hop] at hasks
    cases hasks
  | afterTick number job next =>
    rw [hop] at hasks
    have hsame : job.query.id = id ∧ job.token = m.token := by
      generalize htoken : m.token = token at hasks
      cases hasks with
      | giveUp => exact ⟨rfl, rfl⟩
    obtain ⟨rfl, htoken⟩ := hsame
    refine Or.inl ⟨thread, number, job, next, hk, hop, rfl, htoken, ?_⟩
    cases hover : job.isOver next with
    | true => rfl
    | false =>
      have hkeeps : Program.Keeps
          (fun past action => (past = [] → action = .look job.query.id) ∧
            ∀ id token, action = .removeIfOwned id token → ¬job.Confirmed past)
          (fun _ _ => True) (thread.operation.program (services thread.engine)) [] := by
        rw [hop]
        exact Program.keeps_map (Job.keeps_afterTick_of_not_over hover) fun _ _ _ => trivial
      obtain ⟨hfirst, hgaveUp⟩ := hsound.asked_by hk hkeeps hlog
      have hne : past before k ≠ [] := by
        intro hnil
        cases hfirst hnil
      obtain ⟨read, hlook⟩ := hsound.looked_first hk hkeeps (fun _ hasked => hasked.1 rfl) hlog hne
      have hconfirmed := confirmed_of_kept hsound hrecorded hstaffed hdistinct hcancel hwon hk (by rw [hop]; rfl) htoken hlog hkept
        hlook
      exact absurd hconfirmed (hgaveUp _ _ rfl)

end Cluster

end StandingQuery
