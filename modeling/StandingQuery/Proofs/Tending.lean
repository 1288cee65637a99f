import StandingQuery.Proofs.Staff

/-!
# Timers by the log

Which timers of an engine are tracked and run is decided by the log as well (`Cluster.Tended`): a tracked timer was tracked by
an activation, and the timers of its query were not cancelled since; and the timers that an activation tracked stay tracked
and run until the timers of the query are cancelled or the activation's entry is given up. A job that releases the timers of
its token where it runs leaves them untracked until they are tracked again (`Cluster.Released`).
-/

namespace StandingQuery

namespace Cluster

variable {ι ρ : Type}

/-- Whether some part of the log cancels the timers of a query nowhere on an engine. -/
def Spared (c : Cluster ι ρ) (engine : ι) (id : String) (part : List (Nat × Happening)) : Prop :=
  ∀ k count, (k, ⟨.cancelTimers id, count⟩) ∈ part → ¬c.On k engine

/-- Whether an entry was given up for the sake of a token, by the log. -/
def GivenUp (log : List (Nat × Happening)) (id : String) (token : Uuid) : Prop :=
  ∃ k answer, (k, ⟨.removeIfOwned id token, answer⟩) ∈ log

/-- An entry that was given up was given up for good as far as the log goes. -/
theorem GivenUp.snoc {log : List (Nat × Happening)} {id : String} {token : Uuid} (h : GivenUp log id token)
    (e : Nat × Happening) : GivenUp (log ++ [e]) id token := by
  obtain ⟨k, answer, hmem⟩ := h
  exact ⟨k, answer, List.mem_append_left _ hmem⟩

/-- Whether a timer was tracked by an activation of an engine, and the timers of the query were not cancelled since. -/
def TrackedSince (c : Cluster ι ρ) (engine : ι) (id : String) (token : Uuid) (handle : Nat) : Prop :=
  ∃ before a handles after, c.log = before ++ (a, ⟨.track id token handles, ()⟩) :: after ∧ c.On a engine ∧
    handle ∈ handles ∧ c.Spared engine id after

/-- Whether a timer runs, or the entry of its activation was given up, or it had been tracked. -/
def Accounted (c : Cluster ι ρ) (engine : ι) (handle : Nat) (state : TimerHandle) : Prop :=
  state = .running ∨
    (∃ query token, (c.cards engine)[handle]? = some (handle, query, token) ∧ GivenUp c.log query.id token) ∨
    ∃ a id token handles, c.On a engine ∧ (a, ⟨.track id token handles, ()⟩) ∈ c.log ∧ handle ∈ handles

/-- Whether a timer is tracked and runs, or the entry of its activation was given up. -/
def Running (c : Cluster ι ρ) (engine : ι) (id : String) (token : Uuid) (handle : Nat) : Prop :=
  ((token, handle) ∈ (c.engines engine).timers.trackedFor id ∧
    (c.engines engine).timers.handles[handle]? = some .running) ∨ GivenUp c.log id token

/-- The timers of every engine are what the log says. -/
structure Tended (c : Cluster ι ρ) : Prop where
  since : ∀ (engine : ι) (id : String) (token : Uuid) (handle : Nat),
    (token, handle) ∈ (c.engines engine).timers.trackedFor id → c.TrackedSince engine id token handle
  idle : ∀ (engine : ι) (handle : Nat) (state : TimerHandle), (c.engines engine).timers.handles[handle]? = some state →
    c.Accounted engine handle state
  /-- The timers that an activation tracked run, as long as those of the query are spared. -/
  still : ∀ (before : List (Nat × Happening)) (a : Nat) (engine : ι) (id : String) (token : Uuid) (handles : List Nat)
    (after : List (Nat × Happening)), c.log = before ++ (a, ⟨.track id token handles, ()⟩) :: after → c.On a engine →
      c.Spared engine id after → ∀ handle ∈ handles, c.Running engine id token handle

/-- Timers that an activation tracked are timers that it had started for its query, with its token. -/
theorem Sound.started_of_tracked {services : ι → Services} {c : Cluster ι ρ} (h : Sound services c)
    {before after : List (Nat × Happening)} {a : Nat} {id : String} {token : Uuid} {handles : List Nat}
    (hlog : c.log = before ++ (a, ⟨.track id token handles, ()⟩) :: after) {handle : Nat} (hmem : handle ∈ handles) :
    ∃ job, (a, ⟨.schedule job, .ok handle⟩) ∈ before ∧ job.query.id = id ∧ job.token = token := by
  obtain ⟨thread, hk, hasks⟩ := h.asked hlog
  obtain ⟨mode, query, m, hop, rfl, rfl, hdrew, _, _, hhandles, _⟩ := Operation.asks_track hasks
  rw [hhandles] at hmem
  obtain ⟨happening, hpast, hhandle⟩ := List.mem_filterMap.1 hmem
  unfold Happening.handle? at hhandle
  split at hhandle
  · rename_i job found
    cases hhandle
    have hbefore := mem_past.1 hpast
    obtain ⟨first, second, rfl⟩ := List.append_of_mem hbefore
    have hsplit : c.log = first ++ (a, ⟨.schedule job, .ok handle⟩) ::
        (second ++ (a, ⟨.track query.id m.token handles, ()⟩) :: after) := by
      rw [hlog, List.append_assoc]
      rfl
    obtain ⟨thread', hk', hasks'⟩ := h.asked hsplit
    cases hk.symm.trans hk'
    obtain ⟨mode', m', hop', htoken, hdrew', _⟩ := Operation.asks_schedule hasks'
    rw [hop] at hop'
    cases hop'
    rw [past_append] at hdrew
    have hsame : some (⟨.draw, m'⟩ : Happening) = some ⟨.draw, m⟩ :=
      (Activation.Aux.drew_append hdrew' _).symm.trans hdrew
    cases hsame
    exact ⟨job, hbefore, rfl, htoken⟩
  · cases hhandle

/-- A tracked timer is one of the engine's jobs, with the query and the token for which it is tracked. -/
theorem Staffed.card_of_tracked {services : ι → Services} {c : Cluster ι ρ} (h : Staffed c) (hsound : Sound services c)
    {before after : List (Nat × Happening)} {a : Nat} {id : String} {token : Uuid} {handles : List Nat}
    (hlog : c.log = before ++ (a, ⟨.track id token handles, ()⟩) :: after) {engine : ι} (ha : c.On a engine) {handle : Nat}
    (hmem : handle ∈ handles) : ∃ query, (c.cards engine)[handle]? = some (handle, query, token) ∧ query.id = id := by
  obtain ⟨job, hstarted, hid, rfl⟩ := hsound.started_of_tracked hlog hmem
  refine ⟨job.query, h.scheduled a engine job handle ha ?_, hid⟩
  rw [hlog]
  exact List.mem_append_left _ hstarted

section Spared

variable [DecidableEq ι] [JobRegistry ρ] {services : ι → Services} {c c' : Cluster ι ρ}

/-- What is spared after a change was spared before it. -/
theorem Spared.of_change {engine : ι} {id : String} {part : List (Nat × Happening)} (h : c'.Spared engine id part)
    (hc : Change services c c') : c.Spared engine id part :=
  fun k count hk hon => h k count hk (hc.on hon)

/-- What the log has spared stays spared. -/
theorem Spared.change {engine : ι} {id : String} {before after : List (Nat × Happening)} {e : Nat × Happening}
    (h : c.Spared engine id after) (hc : Change services c c') (hsound : Sound services c)
    (hlog : c.log = before ++ e :: after) : c'.Spared engine id after := by
  intro k count hk hon
  have hmem : (k, ⟨.cancelTimers id, count⟩) ∈ c.log := by
    rw [hlog]
    exact List.mem_append_right _ (List.mem_cons_of_mem _ hk)
  exact h k count hk (hc.on_of_logged hsound hmem hon)

omit [DecidableEq ι] [JobRegistry ρ] in
/-- What is spared up to a step is spared with it, unless the step cancels. -/
theorem Spared.snoc {engine : ι} {id : String} {part : List (Nat × Happening)} (h : c.Spared engine id part) {k : Nat}
    {happening : Happening} (hlast : happening.action = .cancelTimers id → ¬c.On k engine) :
    c.Spared engine id (part ++ [(k, happening)]) := by
  intro k' count hk'
  rcases List.mem_append.1 hk' with hk' | hk'
  · exact h k' count hk'
  · cases List.mem_singleton.1 hk'
    exact hlast rfl

end Spared

namespace Tended

variable [DecidableEq ι] [JobRegistry ρ] {services : ι → Services} {c c' : Cluster ι ρ}

/-- The beginning of an operation changes nothing of the timers. -/
theorem start (h : Tended c) (hsound : Sound services c) {engine : ι} {operation : Operation}
    (hc : Change services c (c.start services engine operation)) : Tended (c.start services engine operation) := by
  refine ⟨fun e id token handle hm => ?_, fun e handle state hs => ?_,
    fun before a e id token handles after hlog ha hspared => ?_⟩
  · obtain ⟨before, a, handles, after, hlog, ha, hmem, hspared⟩ := h.since e id token handle hm
    exact ⟨before, a, handles, after, hlog, hc.on ha, hmem, hspared.change hc hsound hlog⟩
  · rcases h.idle e handle state hs with hrunning | hgiven | ⟨a, id, token, handles, ha, htracked, hmem⟩
    · exact Or.inl hrunning
    · exact Or.inr (Or.inl hgiven)
    · exact Or.inr (Or.inr ⟨a, id, token, handles, hc.on ha, htracked, hmem⟩)
  · have hmem : (a, ⟨.track id token handles, ()⟩) ∈ c.log := by
      have hlog' : c.log = before ++ (a, ⟨.track id token handles, ()⟩) :: after := hlog
      rw [hlog']
      exact List.mem_append_right _ List.mem_cons_self
    exact h.still before a e id token handles after hlog (hc.on_of_logged hsound hmem ha) (hspared.of_change hc)

omit [JobRegistry ρ] in
/-- The end of a timer whose job stopped: the job has given its entry up. -/
theorem expire (h : Tended c) (hsound : Sound services c) (hstaffed : Staffed c) {k : Nat} {thread : Thread ι} {number : Nat}
    {job : Job} {instant : Option Instant} {s : StartedJob} (present : c.threads[k]? = some thread)
    (told : thread.operation = .afterTick number job instant) (stopped : thread.rest = .done (.told .stop))
    (found : (c.engines thread.engine).jobs[number]? = some s) : Tended (c.expire thread.engine s) := by
  have hgiven : GivenUp c.log job.query.id job.token := by
    have hkeeps := hsound.keeps present
    rw [told, stopped] at hkeeps
    obtain ⟨_, hresult, hends⟩ := hkeeps
    cases hresult
    obtain ⟨answer, hmem⟩ := hends
    exact ⟨k, answer, mem_past.1 hmem⟩
  have hcard := hstaffed.threads k thread number job present (by rw [told]; rfl)
  have hnumber : s.handle = number := by
    refine hstaffed.numbered thread.engine number s.card ?_
    rw [cards, List.getElem?_map, found]
    rfl
  have htracked : ∀ e id, ((c.expire thread.engine s).engines e).timers.trackedFor id = (c.engines e).timers.trackedFor id := by
    intro e id
    rw [timers_expire]
    split <;> rfl
  have hhandles : ∀ e handle, e = thread.engine ∧ handle = number ∨
      ((c.expire thread.engine s).engines e).timers.handles[handle]? = (c.engines e).timers.handles[handle]? := by
    intro e handle
    rw [timers_expire]
    by_cases he : e = thread.engine
    · by_cases hn : handle = number
      · exact Or.inl ⟨he, hn⟩
      · rw [if_pos he]
        exact Or.inr (LocalTimers.handles_finish fun heq => hn (heq.symm.trans hnumber))
    · rw [if_neg he]
      exact Or.inr rfl
  refine ⟨fun e id token handle hm => ?_, fun e handle state hs => ?_,
    fun before a e id token handles after hlog ha hspared handle hmem => ?_⟩
  · rw [htracked] at hm
    exact h.since e id token handle hm
  · unfold Accounted
    rw [cards_expire]
    rcases hhandles e handle with ⟨rfl, rfl⟩ | hsame
    · exact Or.inr (Or.inl ⟨job.query, job.token, hcard, hgiven⟩)
    · rw [hsame] at hs
      exact h.idle e handle state hs
  · unfold Running
    rw [htracked]
    rcases hhandles e handle with ⟨rfl, rfl⟩ | hsame
    · obtain ⟨query, hcard', rfl⟩ := hstaffed.card_of_tracked hsound hlog ha hmem
      cases hcard.symm.trans hcard'
      exact Or.inr hgiven
    · rw [hsame]
      exact h.still before a e id token handles after hlog ha hspared handle hmem

/-- After a step of a thread, what is tracked was tracked by an activation and spared since. -/
theorem since_advance (h : Tended c) (hsound : Sound services c) {j : Nat} {thread : Thread ι} {action : Action}
    {next : action.Answer → Program Result} (present : c.threads[j]? = some thread) (stands : thread.rest = .step action next)
    {engine : ι} {id : String} {token : Uuid} {handle : Nat}
    (hm : (token, handle) ∈ ((c.advance services j thread action next).engines engine).timers.trackedFor id) :
    (c.advance services j thread action next).TrackedSince engine id token handle := by
  have hc : Change services c (c.advance services j thread action next) := .advance present stands
  have hj : c.On j thread.engine := ⟨thread, present, rfl⟩
  have hold : (token, handle) ∈ (c.engines engine).timers.trackedFor id →
      (engine = thread.engine → action ≠ .cancelTimers id) →
        (c.advance services j thread action next).TrackedSince engine id token handle := by
    intro hm hspares
    obtain ⟨before, a, handles, after, hlog, ha, hmem, hspared⟩ := h.since engine id token handle hm
    refine ⟨before, a, handles, after ++ [(j, ⟨action, (c.perform services thread.engine action).1⟩)], ?_, hc.on ha, hmem,
      (hspared.change hc hsound hlog).snoc fun hcancel hon => ?_⟩
    · rw [Cluster.advance, hlog, List.append_assoc, List.cons_append]
    · exact hspares (hon.unique (hc.on hj)) hcancel
  rw [timers_advance] at hm
  split at hm
  · rename_i he
    subst he
    rcases Happening.mem_tends hm with ⟨hm, hspares⟩ | ⟨handles, hnew, hmem⟩
    · exact hold hm fun _ => hspares
    · refine ⟨c.log, j, handles, [], ?_, hc.on hj, hmem, fun k count hk => absurd hk List.not_mem_nil⟩
      rw [Cluster.advance, hnew]
  · rename_i he
    exact hold hm fun heq => absurd heq he

/-- After a step of a thread, a timer runs unless the entry of its activation was given up or it had been tracked. -/
theorem idle_advance (h : Tended c) (hsound : Sound services c) (hstaffed : Staffed c) {j : Nat} {thread : Thread ι}
    {action : Action} {next : action.Answer → Program Result} (present : c.threads[j]? = some thread)
    (stands : thread.rest = .step action next) {engine : ι} {handle : Nat} {state : TimerHandle}
    (hs : ((c.advance services j thread action next).engines engine).timers.handles[handle]? = some state) :
    (c.advance services j thread action next).Accounted engine handle state := by
  have hc : Change services c (c.advance services j thread action next) := .advance present stands
  have hold : (c.engines engine).timers.handles[handle]? = some state →
      (c.advance services j thread action next).Accounted engine handle state := by
    intro hs
    rcases h.idle engine handle state hs with hrunning | ⟨query, token, hcard, hgiven⟩ | ⟨a, id, token, handles, ha, hmem, hh⟩
    · exact Or.inl hrunning
    · exact Or.inr (Or.inl ⟨query, token, hstaffed.card_advance hsound present stands hcard, hgiven.snoc _⟩)
    · exact Or.inr (Or.inr ⟨a, id, token, handles, hc.on ha, List.mem_append_left _ hmem, hh⟩)
  rw [timers_advance] at hs
  split at hs
  · rename_i he
    subst he
    rcases Happening.handles_tends hs with hs | hrunning | ⟨id, token, _, hm⟩
    · exact hold hs
    · exact Or.inl hrunning
    · obtain ⟨before, a, handles, after, hlog, ha, hh, _⟩ := h.since thread.engine id token handle hm
      refine Or.inr (Or.inr ⟨a, id, token, handles, hc.on ha, List.mem_append_left _ ?_, hh⟩)
      rw [hlog]
      exact List.mem_append_right _ List.mem_cons_self
  · exact hold hs

/-- A step that tracks timers tracks them running, unless the entry of their activation was given up. -/
theorem tracked_running (h : Tended c) (hsound : Sound services c) (hstaffed : Staffed c) {j : Nat} {thread : Thread ι}
    {action : Action} {next : action.Answer → Program Result} (present : c.threads[j]? = some thread)
    (stands : thread.rest = .step action next) {id : String} {token : Uuid} {handles : List Nat}
    (hnew : action = .track id token handles) {handle : Nat} (hmem : handle ∈ handles) :
    (c.engines thread.engine).timers.handles[handle]? = some .running ∨ GivenUp c.log id token := by
  have hc : Change services c (c.advance services j thread action next) := .advance present stands
  have hj : c.On j thread.engine := ⟨thread, present, rfl⟩
  have hkeeps := hsound.keeps present
  rw [stands] at hkeeps
  subst hnew
  obtain ⟨_, _, _, _, _, _, _, _, hunsettled, _⟩ := Operation.asks_track hkeeps.1
  have hlog : (c.advance services j thread _ next).log = c.log ++ (j, ⟨.track id token handles, ()⟩) :: [] := rfl
  obtain ⟨job, hstarted, rfl, rfl⟩ := (hsound.change hc).started_of_tracked hlog hmem
  have hcard := hstaffed.scheduled j thread.engine job handle hj hstarted
  have hlt : handle < (c.engines thread.engine).timers.handles.length := by
    rw [← hstaffed.handles]
    exact (List.getElem?_eq_some_iff.1 hcard).1
  rcases h.idle thread.engine handle _ (List.getElem?_eq_getElem hlt) with
    hrunning | ⟨query, token, hcard', hgiven⟩ | ⟨a, id, token, handles', ha, htracked, hmem'⟩
  · rw [List.getElem?_eq_getElem hlt, hrunning]
    exact Or.inl rfl
  · cases hcard.symm.trans hcard'
    exact Or.inr hgiven
  · obtain ⟨before, after, hlog⟩ := List.append_of_mem htracked
    obtain ⟨job', hstarted', _⟩ := hsound.started_of_tracked hlog hmem'
    have hsame : a = j := by
      refine hstaffed.once thread.engine a j job' job handle ha hj ?_ hstarted
      rw [hlog]
      exact List.mem_append_left _ hstarted'
    subst hsame
    have := hunsettled _ (mem_past.2 htracked)
    cases this

/-- After a step of a thread, the timers that an activation tracked are still tracked and run. -/
theorem still_advance (h : Tended c) (hsound : Sound services c) (hstaffed : Staffed c) {j : Nat} {thread : Thread ι}
    {action : Action} {next : action.Answer → Program Result} (present : c.threads[j]? = some thread)
    (stands : thread.rest = .step action next) {before after : List (Nat × Happening)} {a : Nat} {engine : ι} {id : String}
    {token : Uuid} {handles : List Nat}
    (hlog : (c.advance services j thread action next).log = before ++ (a, ⟨.track id token handles, ()⟩) :: after)
    (ha : (c.advance services j thread action next).On a engine)
    (hspared : (c.advance services j thread action next).Spared engine id after) {handle : Nat} (hmem : handle ∈ handles) :
    (c.advance services j thread action next).Running engine id token handle := by
  have hc : Change services c (c.advance services j thread action next) := .advance present stands
  have hj : c.On j thread.engine := ⟨thread, present, rfl⟩
  have hkeeps := hsound.keeps present
  rw [stands] at hkeeps
  unfold Running
  rw [timers_advance]
  rcases split_snoc hlog with ⟨rfl, he, rfl⟩ | ⟨after', hbefore, rfl⟩
  · obtain ⟨rfl, hnew⟩ := Prod.mk.injEq .. ▸ he
    have hengine := ha.unique (hc.on hj)
    subst hengine
    rw [if_pos rfl, ← hnew]
    rcases h.tracked_running hsound hstaffed present stands (congrArg Happening.action hnew).symm hmem with hrunning | hgiven
    · refine Or.inl ⟨LocalTimers.mem_trackedFor_track.2 ?_, hrunning⟩
      rw [if_pos rfl]
      exact Or.inr ⟨rfl, hmem⟩
    · exact Or.inr (hgiven.snoc _)
  · have hlogged : (a, ⟨.track id token handles, ()⟩) ∈ c.log := by
      rw [hbefore]
      exact List.mem_append_right _ List.mem_cons_self
    have ha' : c.On a engine := hc.on_of_logged hsound hlogged ha
    have hspared' : c.Spared engine id after' := fun k count hk hon => hspared k count (List.mem_append_left _ hk) (hc.on hon)
    rcases h.still before a engine id token handles after' hbefore ha' hspared' handle hmem with ⟨htracked, hrunning⟩ | hgiven
    · split
      · rename_i hengine
        subst hengine
        by_cases hrelease : action = .release id token
        · subst hrelease
          obtain ⟨answer, hpast⟩ := Operation.asks_release hkeeps.1
          exact Or.inr (GivenUp.snoc ⟨j, answer, mem_past.1 hpast⟩ _)
        · refine Or.inl (Happening.tends_keeps htracked hrunning hrelease fun other owner hcancel htracked' => ?_)
          obtain ⟨_, _, _, _, hlog', hb, hmem', _⟩ := h.since thread.engine other owner handle htracked'
          obtain ⟨query, hcard, rfl⟩ := hstaffed.card_of_tracked hsound hbefore ha' hmem
          obtain ⟨query', hcard', rfl⟩ := hstaffed.card_of_tracked hsound hlog' hb hmem'
          cases hcard.symm.trans hcard'
          simp only at hcancel
          subst hcancel
          exact hspared j _ (List.mem_append_right _ (List.mem_singleton_self _)) (hc.on hj)
      · exact Or.inl ⟨htracked, hrunning⟩
    · exact Or.inr (hgiven.snoc _)

/-- Every change keeps the timers what the log says. -/
theorem change (h : Tended c) (hsound : Sound services c) (hstaffed : Staffed c) (hc : Change services c c') : Tended c' := by
  cases hc with
  | start engine operation started => exact h.start hsound (.start engine operation started)
  | expire present told stopped found => exact h.expire hsound hstaffed present told stopped found
  | advance present stands =>
    exact ⟨fun _ _ _ _ hm => h.since_advance hsound present stands hm,
      fun _ _ _ hs => h.idle_advance hsound hstaffed present stands hs,
      fun _ _ _ _ _ _ _ hlog ha hspared _ hmem => h.still_advance hsound hstaffed present stands hlog ha hspared hmem⟩

/-- In every reachable cluster the timers are what the log says. -/
theorem of_reachable (h : Reachable services c) : Tended c := by
  obtain ⟨registry, hempty, hsteps⟩ := h
  have hfresh : Reachable services (fresh registry) := ⟨registry, hempty, .refl⟩
  have hall : Sound services c ∧ Staffed c ∧ Tended c := by
    refine hsteps.invariant (fun c => Sound services c ∧ Staffed c ∧ Tended c) ⟨?_, ?_, ?_⟩
      fun c₁ c₂ h hc => ⟨h.1.change hc, h.2.1.change h.1 hc, h.2.2.change h.1 h.2.1 hc⟩
    · exact Sound.of_reachable hfresh
    · exact Staffed.of_reachable hfresh
    · refine ⟨?_, ?_, ?_⟩ <;> simp [fresh, EngineState.fresh, LocalTimers.empty, LocalTimers.trackedFor]
  exact hall.2.2

end Tended

/-- Whether every tracked timer whose activation's timers were released on its engine was tracked again since. -/
def Released (c : Cluster ι ρ) : Prop :=
  ∀ (engine : ι) (id : String) (token : Uuid) (handle : Nat) (before : List (Nat × Happening)) (k : Nat)
    (after : List (Nat × Happening)), (token, handle) ∈ (c.engines engine).timers.trackedFor id →
      c.log = before ++ (k, ⟨.release id token, ()⟩) :: after → c.On k engine →
        ∃ a handles, (a, ⟨.track id token handles, ()⟩) ∈ after

namespace Released

variable [DecidableEq ι] [JobRegistry ρ] {services : ι → Services} {c c' : Cluster ι ρ}

/-- Every change keeps released timers untracked, unless it tracks them again. -/
theorem change (h : Released c) (hsound : Sound services c) (hc : Change services c c') : Released c' := by
  intro engine id token handle before k after hm hlog hk
  have hon : ∀ {before after : List (Nat × Happening)}, c.log = before ++ (k, ⟨.release id token, ()⟩) :: after → c.On k engine :=
    fun hlog => hc.on_of_logged hsound (hlog ▸ List.mem_append_right _ List.mem_cons_self) hk
  cases hc with
  | start other operation started => exact h engine id token handle before k after hm hlog (hon hlog)
  | @expire k' thread number job instant s present told stopped found =>
    refine h engine id token handle before k after ?_ hlog (hon hlog)
    rw [timers_expire] at hm
    split at hm <;> exact hm
  | @advance j thread action next present stands =>
    rw [timers_advance] at hm
    rcases split_snoc hlog with ⟨rfl, he, rfl⟩ | ⟨after', hbefore, rfl⟩
    · obtain ⟨rfl, hnew⟩ := Prod.mk.inj he
      obtain rfl := hk.unique (Change.on (.advance present stands) ⟨thread, present, rfl⟩)
      rw [if_pos rfl, ← hnew] at hm
      exact absurd rfl ((LocalTimers.mem_trackedFor_release.1 hm).2 rfl)
    · have hold : (token, handle) ∈ (c.engines engine).timers.trackedFor id →
          ∃ a handles, (a, ⟨.track id token handles, ()⟩) ∈
            after' ++ [(j, ⟨action, (c.perform services thread.engine action).1⟩)] := by
        intro hm
        obtain ⟨a, handles, hagain⟩ := h engine id token handle before k after' hm hbefore (hon hbefore)
        exact ⟨a, handles, List.mem_append_left _ hagain⟩
      split at hm
      · rename_i hengine
        subst hengine
        rcases Happening.mem_tends hm with ⟨hm, _⟩ | ⟨handles, hnew, _⟩
        · exact hold hm
        · exact ⟨j, handles, List.mem_append_right _ (List.mem_singleton.2 (by rw [hnew]))⟩
      · exact hold hm

/-- In every reachable cluster released timers are tracked only if they were tracked again. -/
theorem of_reachable (h : Reachable services c) : Released c := by
  obtain ⟨registry, hempty, hsteps⟩ := h
  have hboth : Sound services c ∧ Released c := by
    refine hsteps.invariant (fun c => Sound services c ∧ Released c) ⟨?_, ?_⟩
      fun c₁ c₂ h hc => ⟨h.1.change hc, h.2.change h.1 hc⟩
    · exact Sound.of_reachable ⟨registry, hempty, .refl⟩
    · intro engine id token handle before k after hm
      simp [fresh, EngineState.fresh, LocalTimers.empty, LocalTimers.trackedFor] at hm
  exact hboth.2

end Released

end Cluster

end StandingQuery
