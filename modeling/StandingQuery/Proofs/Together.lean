import StandingQuery.Proofs.Siblings
import StandingQuery.Proofs.Turns

/-!
# Jobs that live and end together

An activation has one entry and one token for all its jobs. While no cancellation of the query has begun and nobody has given
the entry up, every one of the jobs lives: it is confirmed whenever it looks, its timer stays tracked and runs, and it fires in
its own rhythm (`Cluster.Standing`). The first of them that is over gives the entry up, and with it all the others end
(`Cluster.Fallen`): what they begin later finds them inactive, and their timers are forgotten
(`Cluster.together_of_reachable`).
-/

namespace StandingQuery

namespace Job

variable {job : Job}

/-- A job that stops releases its timers. -/
theorem keeps_stopping_released (past : List Happening) :
    Program.Keeps (fun _ _ => True) (fun past answer => answer = .stop → ⟨.release job.query.id job.token, ()⟩ ∈ past) job.stopping
      past :=
  ⟨trivial, fun _ => ⟨trivial, fun _ _ => List.mem_append_right _ (List.mem_singleton_self _)⟩⟩

/-- A job that answers that it stops has released its timers. -/
theorem keeps_afterTick_released (next : Option Instant) :
    Program.Keeps (fun _ _ => True) (fun past answer => answer = .stop → ⟨.release job.query.id job.token, ()⟩ ∈ past)
      (job.afterTick next) [] := by
  rw [afterTick_eq]
  split
  · exact keeps_stopping_released []
  · refine ⟨trivial, fun read => ?_⟩
    cases hread : Marker.confirms read job.token with
    | true => simp [hread]
    | false => simpa [hread] using keeps_stopping_released _

end Job

namespace Operation

variable {past : List Happening}

/-- An activation starts jobs that have not fired, and before it has settled. -/
theorem start_of_asks {operation : Operation} {job : Job} (h : operation.Asks past (.schedule job)) :
    job.lastFired = none ∧ Activation.Unsettled past := by
  cases operation with
  | activate mode query =>
    cases h with
    | schedule schedule _ _ unsettled => exact ⟨rfl, unsettled⟩
  | cancel id => cases h
  | tick number job now => cases h
  | afterTick number job instant => cases h

/-- A tick looks first. -/
theorem look_of_tick {number : Nat} {job : Job} {now : Instant} {action : Action}
    (h : (Operation.tick number job now).Asks [] action) : action = .look job.query.id := by
  have hnot : ¬job.Confirmed [] := by
    rintro ⟨_, hhead, _⟩
    cases hhead
  cases h with
  | look _ => rfl
  | execute confirmed => exact absurd confirmed hnot
  | deliver confirmed _ _ => exact absurd confirmed hnot

end Operation

namespace Cluster

variable {ι ρ : Type}

/-- Whether a thread is a tick of a job with a certain token, and what is left of it. -/
def Ticking (c : Cluster ι ρ) (token : Uuid) (k : Nat) (job : Job) (now : Instant) (rest : Program Result) : Prop :=
  ∃ engine number, c.threads[k]? = some ⟨engine, .tick number job now, rest⟩ ∧ job.token = token

/-- Whether a thread is of a job with a certain token that is told its next instant, and what is left of it. -/
def Telling (c : Cluster ι ρ) (token : Uuid) (k : Nat) (job : Job) (next : Option Instant) (rest : Program Result) : Prop :=
  ∃ engine number, c.threads[k]? = some ⟨engine, .afterTick number job next, rest⟩ ∧ job.token = token

/-- Whether a thread had taken no step when the entry of a query had been given up for the sake of a token. -/
def Belated (c : Cluster ι ρ) (id : String) (token : Uuid) (k : Nat) : Prop :=
  ∃ before after, c.log = before ++ after ∧ GivenUp before id token ∧ past before k = []

variable [DecidableEq ι] [JobRegistry ρ] {services : ι → Services} {c : Cluster ι ρ} {a : Nat} {id : String} {m : Marker}

/-- What holds of the jobs of an activation while its entry stands. -/
structure Standing (services : ι → Services) (c : Cluster ι ρ) (a : Nat) (id : String) (m : Marker) : Prop where
  /-- The entry is kept. -/
  entry : JobRegistry.entry c.registry id = some m
  /-- Once the activation has tracked its timers, each of them is tracked and runs. -/
  tracked : ∀ (engine : ι) (job : Job) (handle : Nat) (handles : List Nat), c.On a engine →
    (a, ⟨.schedule job, .ok handle⟩) ∈ c.log → (a, ⟨.track id m.token handles, ()⟩) ∈ c.log →
      (m.token, handle) ∈ (c.engines engine).timers.trackedFor id ∧
        (c.engines engine).timers.handles[handle]? = some .running
  /-- Every tick finds its job live, -/
  live : ∀ k job now rest, c.Ticking m.token k job now rest → past c.log k ≠ [] → job.Confirmed (past c.log k)
  /-- and has done what the job's own gate says when it has ended: it has executed the query once if the gate opened, and otherwise
  made no request. -/
  fires : ∀ k job now result engine, c.Ticking m.token k job now (.done result) → c.On k engine →
    (∃ outcome, result = .ticked outcome (job.beyond now) ∧ outcome ≠ .inactive) ∧
      Happening.requests (services engine).runner (past c.log k) = job.requestsIf (services engine) (job.fires now)
  /-- Every job that has been told its next instant goes on. -/
  goesOn : ∀ k job next result, c.Telling m.token k job next (.done result) → result = .told .goOn
  /-- Of the ticks of a job that come in turn those fire that would if the job were alone. -/
  cadence : ∀ (engine : ι) (number : Nat) (first : Job) (registry : ρ), c.On a engine →
    (a, ⟨.schedule first, .ok number⟩) ∈ c.log → JobRegistry.Vacant registry →
      InTurn services engine number (fresh registry) c → first.lastFired = none ∧
        ∀ (i : Nat) (tick : BegunTick), (c.ticks engine number)[i]? = some tick → c.Ended tick.thread →
          ∃ fires, (first.firings ((c.ticks engine number).map BegunTick.now))[i]? = some fires ∧
            Happening.requests (services engine).runner (past c.log tick.thread) = first.requestsIf (services engine) fires
  /-- The requests that the engines have made of the catalog are those of the log. -/
  requested : Requested services c

/-- What holds of the jobs of an activation once its entry was given up. -/
structure Fallen (services : ι → Services) (c : Cluster ι ρ) (a : Nat) (id : String) (m : Marker) : Prop where
  /-- The first to give it up was one of the jobs, which was over, or the activation itself, which had started no timer. -/
  first : ∃ before k answer after, c.log = before ++ (k, ⟨.removeIfOwned id m.token, answer⟩) :: after ∧
    ¬GivenUp before id m.token ∧
      ((∃ job next rest, c.Telling m.token k job next rest ∧ job.query.id = id ∧ job.isOver next = true) ∨
        k = a ∧ Activation.started (past before a) = [])
  /-- No entry carries the token. -/
  dead : ∀ other, ¬c.Live other m.token
  /-- Every tick of a job that looks from then on is inactive, and does nothing else. -/
  inactive : ∀ k job now rest, c.Ticking m.token k job now rest → c.Belated id m.token k →
    (∀ h ∈ past c.log k, h.action = .look job.query.id) ∧
      (rest = .done (.ticked .inactive job) ∨ past c.log k = [] ∧ (c.next services (.advance k)).isSome)
  /-- Every job that is told its next instant from then on stops, whatever the instant. -/
  stops : ∀ k job next rest, c.Telling m.token k job next rest → c.Belated id m.token k →
    rest = .done (.told .stop) ∨ (c.next services (.advance k)).isSome
  /-- Once a job that was told its next instant when the activation had tracked its timers has stopped, none of them is tracked. -/
  released : ∀ k job next before after handles, c.Telling m.token k job next (.done (.told .stop)) →
    c.log = before ++ after → (a, ⟨.track id m.token handles, ()⟩) ∈ before → past before k = [] →
      ∀ engine handle, (m.token, handle) ∉ (c.engines engine).timers.trackedFor id

omit [DecidableEq ι] [JobRegistry ρ] in
/-- While no cancellation of a query has begun its timers are spared everywhere. -/
theorem spared_of_not_cancelling (hsound : Sound services c) (hcancel : ¬c.Cancelling id) {part : List (Nat × Happening)}
    (hpart : ∀ e ∈ part, e ∈ c.log) (engine : ι) : c.Spared engine id part := by
  intro k count hmem _
  obtain ⟨before, after, hlog⟩ := List.append_of_mem (hpart _ hmem)
  obtain ⟨thread, hk, hasks⟩ := hsound.asked hlog
  exact hcancel ⟨k, thread, hk, (Operation.asks_cancelTimers hasks).1⟩

omit [DecidableEq ι] [JobRegistry ρ] in
/-- An activation that tracks timers tracks all those that it ever starts. -/
theorem mem_of_started (hsound : Sound services c) {token : Uuid} {handles : List Nat} {before after : List (Nat × Happening)}
    (hlog : c.log = before ++ (a, ⟨.track id token handles, ()⟩) :: after) {job : Job} {handle : Nat}
    (hstarted : (a, ⟨.schedule job, .ok handle⟩) ∈ c.log) : handle ∈ handles := by
  obtain ⟨_, _, hasks⟩ := hsound.asked hlog
  obtain ⟨_, _, _, _, _, _, _, _, _, hhandles, _⟩ := Operation.asks_track hasks
  rw [hlog] at hstarted
  rcases List.mem_append.1 hstarted with hbefore | hafter
  · rw [hhandles]
    exact List.mem_filterMap.2 ⟨_, mem_past.2 hbefore, rfl⟩
  · rcases List.mem_cons.1 hafter with heq | hafter
    · cases heq
    obtain ⟨first, second, rfl⟩ := List.append_of_mem hafter
    have hlog' : c.log = (before ++ (a, ⟨.track id token handles, ()⟩) :: first) ++ (a, ⟨.schedule job, .ok handle⟩) :: second := by
      rw [hlog, List.append_assoc, List.cons_append]
    obtain ⟨_, _, hasks'⟩ := hsound.asked hlog'
    have hsettled := (Operation.start_of_asks hasks').2 _ (mem_past.2 (List.mem_append_right _ List.mem_cons_self))
    cases hsettled

omit [DecidableEq ι] [JobRegistry ρ] in
/-- An activation starts its jobs with the token with which it won the entry. -/
theorem token_of_started (hsound : Sound services c) (hwon : (a, ⟨.claim id m, .ok true⟩) ∈ c.log) {job : Job} {handle : Nat}
    (hstarted : (a, ⟨.schedule job, .ok handle⟩) ∈ c.log) : job.token = m.token := by
  obtain ⟨m', hdrew, htoken⟩ := hsound.drew_of_started hstarted
  cases hdrew.symm.trans (hsound.drew_of_won hwon)
  exact htoken

omit [JobRegistry ρ] in
/-- The ticks of a job whose timer an activation started carry the token with which it won the entry, and are of the job's query. -/
theorem ticking_of_mem_ticks (hsound : Sound services c) (hstaffed : Staffed c)
    (hwon : (a, ⟨.claim id m, .ok true⟩) ∈ c.log) {engine : ι} (ha : c.On a engine) {number : Nat} {first : Job}
    (hstarted : (a, ⟨.schedule first, .ok number⟩) ∈ c.log) {tick : BegunTick} (htick : tick ∈ c.ticks engine number) :
    ∃ rest, c.threads[tick.thread]? = some ⟨engine, .tick number tick.job tick.now, rest⟩ ∧
      c.Ticking m.token tick.thread tick.job tick.now rest ∧ tick.job.query = first.query := by
  obtain ⟨⟨_, _, rest⟩, hk, rfl, rfl⟩ := mem_ticks.1 htick
  have hcard := hstaffed.scheduled a _ first number ha hstarted
  have hcard' := hstaffed.threads tick.thread _ number tick.job hk rfl
  have hsame := Option.some.inj (hcard'.symm.trans hcard)
  have htoken : tick.job.token = first.token := congrArg (·.2.2) hsame
  exact ⟨rest, hk, ⟨_, number, hk, htoken.trans (token_of_started hsound hwon hstarted)⟩, congrArg (·.2.1) hsame⟩

/-- In a reachable cluster whose registry agrees with the log, with distinct tokens, an activation has won the entry of a query, no
cancellation of the query has begun, and nobody has given the entry up. -/
structure Kept (services : ι → Services) (c : Cluster ι ρ) (a : Nat) (id : String) (m : Marker) : Prop where
  reachable : Reachable services c
  recorded : Recorded c
  distinct : (drawnTokens c.log).Nodup
  uncancelled : ¬c.Cancelling id
  won : (a, ⟨.claim id m, .ok true⟩) ∈ c.log
  kept : ¬GivenUp c.log id m.token

namespace Kept

/-- The timers that an activation started and tracked are tracked and run. -/
theorem tracked (h : Kept services c a id m) {engine : ι} (ha : c.On a engine) {job : Job} {handle : Nat} {handles : List Nat}
    (hstarted : (a, ⟨.schedule job, .ok handle⟩) ∈ c.log) (htracked : (a, ⟨.track id m.token handles, ()⟩) ∈ c.log) :
    (m.token, handle) ∈ (c.engines engine).timers.trackedFor id ∧
      (c.engines engine).timers.handles[handle]? = some .running := by
  have hsound := Sound.of_reachable h.reachable
  have htended := Tended.of_reachable h.reachable
  obtain ⟨before, after, hlog⟩ := List.append_of_mem htracked
  have hspared : c.Spared engine id after := spared_of_not_cancelling hsound h.uncancelled (fun e he => by
    rw [hlog]
    exact List.mem_append_right _ (List.mem_cons_of_mem _ he)) engine
  have hrunning := htended.still before a engine id m.token handles after hlog ha hspared handle
    (mem_of_started hsound hlog hstarted)
  exact hrunning.resolve_right h.kept

/-- A job that has been told its next instant goes on. -/
theorem goesOn (h : Kept services c a id m) {k : Nat} {job : Job} {next : Option Instant} {result : Result}
    (htell : c.Telling m.token k job next (.done result)) : result = .told .goOn := by
  have hsound := Sound.of_reachable h.reachable
  obtain ⟨engine, number, hk, htoken⟩ := htell
  obtain ⟨answer, rfl, hends⟩ := hsound.keeps hk
  cases answer with
  | goOn => rfl
  | stop =>
    obtain ⟨answer, hgaveUp⟩ := hends
    have hmem := mem_past.1 hgaveUp
    obtain ⟨before, after, hlog⟩ := List.append_of_mem hmem
    have hid := (claimed_before hsound (Staffed.of_reachable h.reachable) h.distinct h.won hk rfl htoken hlog).2
    rw [hid, htoken] at hmem
    exact absurd ⟨k, answer, hmem⟩ h.kept

/-- A tick that has looked has found its job live. -/
theorem live (h : Kept services c a id m) {k : Nat} {job : Job} {now : Instant} {rest : Program Result}
    (htick : c.Ticking m.token k job now rest) (hpast : past c.log k ≠ []) : job.Confirmed (past c.log k) := by
  obtain ⟨engine, number, hk, htoken⟩ := htick
  have hsound := Sound.of_reachable h.reachable
  have hwhole : c.log = c.log ++ [] := (List.append_nil _).symm
  obtain ⟨read, hlook⟩ := hsound.looked_first hk (Operation.keeps_program _ _) (fun _ => Operation.look_of_tick) hwhole hpast
  exact confirmed_of_kept hsound h.recorded (Staffed.of_reachable h.reachable) h.distinct h.uncancelled h.won hk rfl htoken hwhole
    h.kept hlook

/-- A tick that has ended has done what its job's gate says. -/
theorem fires (h : Kept services c a id m) {k : Nat} {job : Job} {now : Instant} {result : Result} {engine : ι}
    (htick : c.Ticking m.token k job now (.done result)) (hon : c.On k engine) :
    (∃ outcome, result = .ticked outcome (job.beyond now) ∧ outcome ≠ .inactive) ∧
      Happening.requests (services engine).runner (past c.log k) = job.requestsIf (services engine) (job.fires now) := by
  have hsound := Sound.of_reachable h.reachable
  obtain ⟨other, number, hk, htoken⟩ := htick
  obtain rfl : other = engine := On.unique ⟨_, hk, rfl⟩ hon
  have hlooked : past c.log k ≠ [] := by
    obtain ⟨_, _, _, _, ⟨_, hhead, _⟩ | ⟨_, _, hpast⟩⟩ := hsound.keeps hk
    · exact List.ne_nil_of_mem (List.mem_of_head? hhead)
    · rw [hpast]
      exact List.cons_ne_nil _ _
  have hconfirmed := h.live ⟨other, number, hk, htoken⟩ hlooked
  have hkeeps : Program.Keeps (fun _ _ => True)
      (fun past result => job.Confirmed past → (∃ outcome, result = .ticked outcome (job.beyond now) ∧ outcome ≠ .inactive) ∧
        Happening.requests (services other).runner past = job.requestsIf (services other) (job.fires now))
      ((Operation.tick number job now).program (services other)) [] := by
    refine Program.keeps_map (Job.keeps_tick_of_confirmed (services other) job now) fun past result hended hconfirmed => ?_
    obtain ⟨hactive, hbeyond, hrequested⟩ := hended hconfirmed
    exact ⟨⟨result.1, by rw [hbeyond], hactive⟩, hrequested⟩
  exact hsound.keeps_by hk hkeeps hconfirmed

/-- Ticks of a job that come in a row fire as they would if the job were alone. -/
theorem cadence (h : Kept services c a id m) {engine : ι} (ha : c.On a engine) {number : Nat} {first : Job}
    (hstarted : (a, ⟨.schedule first, .ok number⟩) ∈ c.log) (hrow : Row c engine number first) {i : Nat} {tick : BegunTick}
    (htick : (c.ticks engine number)[i]? = some tick) (hended : c.Ended tick.thread) :
    ∃ fires, (first.firings ((c.ticks engine number).map BegunTick.now))[i]? = some fires ∧
      Happening.requests (services engine).runner (past c.log tick.thread) = first.requestsIf (services engine) fires := by
  have hsound := Sound.of_reachable h.reachable
  have hstaffed := Staffed.of_reachable h.reachable
  have hran : ∀ tick ∈ c.ticks engine number, c.Ended tick.thread →
      (∀ job, c.givenBack job tick = tick.job.beyond tick.now) ∧
        Happening.requests (services engine).runner (past c.log tick.thread) =
          first.requestsIf (services engine) (tick.job.fires tick.now) := by
    rintro tick htick ⟨thread, result, hk', hdone⟩
    obtain ⟨rest, hk, hticking, hquery⟩ := ticking_of_mem_ticks hsound hstaffed h.won ha hstarted htick
    cases hk.symm.trans hk'
    obtain rfl : rest = .done result := hdone
    obtain ⟨⟨outcome, rfl, _⟩, hrequested⟩ := h.fires hticking ⟨_, hk, rfl⟩
    rw [← Job.requestsIf_congr (services engine) hquery]
    refine ⟨fun job => ?_, hrequested⟩
    unfold givenBack
    rw [hk]
  refine ⟨tick.job.fires tick.now, ?_, (hran tick (List.mem_of_getElem? htick) hended).2⟩
  exact hrow.fires_eq_firings (fun tick htick hended => (hran tick htick hended).1) htick

/-- An entry that is kept stands. -/
theorem standing (h : Kept services c a id m) : Standing services c a id m where
  entry := by
    rw [h.recorded.entries]
    exact held_of_kept (Sound.of_reachable h.reachable) h.recorded h.uncancelled List.prefix_rfl h.won h.kept
  tracked _ _ _ _ ha hstarted htracked := h.tracked ha hstarted htracked
  live _ _ _ _ htick hpast := h.live htick hpast
  fires _ _ _ _ _ htick hon := h.fires htick hon
  goesOn _ _ _ _ htell := h.goesOn htell
  cadence engine number first registry ha hstarted hempty hturn := by
    obtain ⟨before, after, hlog⟩ := List.append_of_mem hstarted
    obtain ⟨_, _, hasks⟩ := (Sound.of_reachable h.reachable).asked hlog
    exact ⟨(Operation.start_of_asks hasks).1, fun i tick htick hended =>
      h.cadence ha hstarted (.of_inTurn hempty hturn ha hstarted) htick hended⟩
  requested := .of_reachable h.reachable

end Kept

omit [DecidableEq ι] [JobRegistry ρ] in
/-- Whatever was given up was given up a first time. -/
theorem exists_first_givenUp {log : List (Nat × Happening)} {token : Uuid} (h : GivenUp log id token) :
    ∃ before k answer after, log = before ++ (k, ⟨.removeIfOwned id token, answer⟩) :: after ∧ ¬GivenUp before id token := by
  induction log using List.reverseRecOn with
  | nil =>
    obtain ⟨_, _, hmem⟩ := h
    cases hmem
  | append_singleton log e ih =>
    by_cases hbefore : GivenUp log id token
    · obtain ⟨before, k, answer, after, rfl, hkept⟩ := ih hbefore
      exact ⟨before, k, answer, after ++ [e], by rw [List.append_assoc, List.cons_append], hkept⟩
    · obtain ⟨k, answer, hmem⟩ := h
      rcases List.mem_append.1 hmem with hmem | hlast
      · exact absurd ⟨k, answer, hmem⟩ hbefore
      · rw [← List.mem_singleton.1 hlast]
        exact ⟨log, k, answer, [], rfl, hbefore⟩

/-- With distinct tokens, a job that takes its first step when its entry has been given up does not find itself live. -/
theorem not_confirmed_of_belated (h : Reachable services c) (hrecorded : Recorded c) (hdistinct : (drawnTokens c.log).Nodup)
    {token : Uuid} {k : Nat} (hbelated : c.Belated id token k) {job : Job} (htoken : job.token = token) :
    ¬job.Confirmed (past c.log k) := by
  obtain ⟨before, after, hlog, hgiven, hpast⟩ := hbelated
  have hsound := Sound.of_reachable h
  have hstaffed := Staffed.of_reachable h
  have hlost := not_carried_of_givenUp hsound hrecorded hstaffed hdistinct ⟨after, hlog.symm⟩ hgiven
  obtain ⟨k', answer, hmem⟩ := hgiven
  obtain ⟨first, second, rfl⟩ := List.append_of_mem hmem
  obtain ⟨a, m, hwon, rfl⟩ := won_of_givenUp hsound hstaffed (hlog.trans (List.append_assoc ..))
  exact not_confirmed hsound hrecorded hdistinct hlog (List.mem_append_left _ hwon) hlost hpast htoken

omit [DecidableEq ι] [JobRegistry ρ] in
/-- With distinct tokens, an activation that has tracked its timers is the only one to track with its token, and does so once. -/
theorem not_tracked_again (hsound : Sound services c) (hdistinct : (drawnTokens c.log).Nodup)
    {before after : List (Nat × Happening)} (hlog : c.log = before ++ after) {token : Uuid} {handles : List Nat}
    (htracked : (a, ⟨.track id token handles, ()⟩) ∈ before) {a' : Nat} {id' : String} {handles' : List Nat} :
    (a', ⟨.track id' token handles', ()⟩) ∉ after := by
  intro hagain
  have hmem : (a, ⟨.track id token handles, ()⟩) ∈ c.log := hlog ▸ List.mem_append_left _ htracked
  have hmem' : (a', ⟨.track id' token handles', ()⟩) ∈ c.log := hlog ▸ List.mem_append_right _ hagain
  obtain rfl := eq_of_tracked hsound hdistinct hmem hmem'
  obtain ⟨first, second, rfl⟩ := List.append_of_mem hagain
  obtain ⟨_, _, hasks⟩ := hsound.asked (hlog.trans (List.append_assoc ..).symm)
  obtain ⟨_, _, _, _, _, _, _, _, hunsettled, _⟩ := Operation.asks_track hasks
  cases hunsettled _ (mem_past.2 (List.mem_append_left _ htracked))

/-- With distinct tokens, once a job that was told its next instant when its activation had tracked its timers has stopped, none
of them is tracked. -/
theorem released_of_stopped (h : Reachable services c) (hdistinct : (drawnTokens c.log).Nodup)
    (hwon : (a, ⟨.claim id m, .ok true⟩) ∈ c.log) {k : Nat} {job : Job} {next : Option Instant}
    (htell : c.Telling m.token k job next (.done (.told .stop))) {before after : List (Nat × Happening)} {handles : List Nat}
    (hlog : c.log = before ++ after) (htracked : (a, ⟨.track id m.token handles, ()⟩) ∈ before) (hpast : past before k = [])
    (engine : ι) (handle : Nat) : (m.token, handle) ∉ (c.engines engine).timers.trackedFor id := by
  intro hm
  have hsound := Sound.of_reachable h
  have hstaffed := Staffed.of_reachable h
  obtain ⟨other, number, hk, htoken⟩ := htell
  have hkeeps : Program.Keeps (fun _ _ => True)
      (fun past result => result = .told .stop → ⟨.release job.query.id job.token, ()⟩ ∈ past)
      ((Operation.afterTick number job next).program (services other)) [] :=
    Program.keeps_map (Job.keeps_afterTick_released next) fun past answer hended hstop => hended (Result.told.inj hstop)
  have hreleased := hsound.keeps_by hk hkeeps rfl
  obtain ⟨first, second, rfl⟩ : ∃ first second, after = first ++ (k, ⟨.release job.query.id job.token, ()⟩) :: second := by
    have hmem := mem_past.1 hreleased
    rw [hlog] at hmem
    rcases List.mem_append.1 hmem with hmem | hmem
    · have hnil := mem_past.2 hmem
      rw [hpast] at hnil
      cases hnil
    · exact List.append_of_mem hmem
  have hlog' : c.log = (before ++ first) ++ (k, ⟨.release job.query.id job.token, ()⟩) :: second := by
    rw [hlog, List.append_assoc]
  obtain ⟨_, rfl⟩ := claimed_before hsound hstaffed hdistinct hwon hk rfl htoken hlog'
  obtain ⟨first', a', handles', second', hlog'', ha', _⟩ := (Tended.of_reachable h).since engine job.query.id m.token handle hm
  have hmem : (a, ⟨.track job.query.id m.token handles, ()⟩) ∈ c.log := hlog ▸ List.mem_append_left _ htracked
  have hmem' : (a', ⟨.track job.query.id m.token handles', ()⟩) ∈ c.log := hlog'' ▸ List.mem_append_right _ List.mem_cons_self
  obtain rfl := eq_of_tracked hsound hdistinct hmem hmem'
  obtain rfl := ha'.unique (on_of_token hsound hstaffed hdistinct hwon hk rfl htoken)
  rw [htoken] at hlog'
  obtain ⟨_, _, hagain⟩ := Released.of_reachable h engine job.query.id m.token handle _ k second hm hlog' ⟨_, hk, rfl⟩
  exact not_tracked_again hsound hdistinct hlog htracked (List.mem_append_right _ (List.mem_cons_of_mem _ hagain))

/-- With distinct tokens, while no cancellation of the query has begun, an entry that was given up has fallen. -/
theorem fallen_of_givenUp (h : Reachable services c) (hrecorded : Recorded c) (hdistinct : (drawnTokens c.log).Nodup)
    (hcancel : ¬c.Cancelling id) (hwon : (a, ⟨.claim id m, .ok true⟩) ∈ c.log) (hgiven : GivenUp c.log id m.token) :
    Fallen services c a id m where
  first := by
    obtain ⟨before, k, answer, after, hlog, hkept⟩ := exists_first_givenUp hgiven
    refine ⟨before, k, answer, after, hlog, hkept, ?_⟩
    have hover := over_of_first (Sound.of_reachable h) hrecorded (Staffed.of_reachable h) hdistinct hcancel hwon hlog hkept
    rcases hover with ⟨⟨engine, _, rest⟩, number, job, next, hk, rfl, hid, htoken, hover⟩ | hnothing
    · exact Or.inl ⟨job, next, rest, ⟨engine, number, hk, htoken⟩, hid, hover⟩
    · exact Or.inr hnothing
  dead other hlive := by
    have hsound := Sound.of_reachable h
    have hlost := not_carried_of_givenUp hsound hrecorded (Staffed.of_reachable h) hdistinct List.prefix_rfl hgiven
    have hwhole : c.log ++ [] <+: c.log := ⟨[], by simp⟩
    have hcarried := (hrecorded.live_iff other m.token).1 hlive
    rw [← List.append_nil c.log, hsound.not_carried_again hdistinct hwhole hwon hlost] at hcarried
    cases hcarried
  inactive k job now rest htick hbelated := by
    obtain ⟨engine, number, hk, htoken⟩ := htick
    exact (Sound.of_reachable h).tick_of_not_confirmed hk rfl (not_confirmed_of_belated h hrecorded hdistinct hbelated htoken)
  stops k job next rest htell hbelated := by
    obtain ⟨engine, number, hk, htoken⟩ := htell
    exact (Sound.of_reachable h).afterTick_of_not_confirmed hk rfl (not_confirmed_of_belated h hrecorded hdistinct hbelated htoken)
  released _ _ _ _ _ _ htell hlog htracked hpast engine handle :=
    released_of_stopped h hdistinct hwon htell hlog htracked hpast engine handle

/-- The jobs of an activation live and end together: in every reachable cluster over a registry that stays whole, with distinct
tokens and no cancellation of the query begun, the entry that an activation won stands until one of its jobs gives it up that is
over, and then all of them end. -/
theorem together_of_reachable [JobRegistry.Durable ρ] (hstoring : Storing ρ services) (h : Reachable services c)
    (hdistinct : (drawnTokens c.log).Nodup) (hcancel : ¬c.Cancelling id) (hwon : (a, ⟨.claim id m, .ok true⟩) ∈ c.log) :
    (¬GivenUp c.log id m.token → Standing services c a id m) ∧ (GivenUp c.log id m.token → Fallen services c a id m) := by
  have hrecorded := Recorded.of_reachable hstoring h
  exact ⟨fun hkept => Kept.standing ⟨h, hrecorded, hdistinct, hcancel, hwon, hkept⟩,
    fallen_of_givenUp h hrecorded hdistinct hcancel hwon⟩

namespace Sample

/-- A query of two schedules, each of every minute, of which one ends after a minute and the other after a day. -/
def pair : StoredQuery :=
  let every (finish : String) : Json :=
    .obj [("deliveryIds", .arr []), ("isScheduled", .bool true), ("scheduleAmount", .num (.int 1)), ("scheduleEnd", .str finish),
      ("scheduleStart", .str "2026-03-04T13:05:00Z"), ("scheduleUnit", .str "MINUTES"), ("userId", .str "alice")]
  ⟨"q", "x", none, [every "2026-03-04T13:06:00Z", every "2026-03-05T13:06:00Z"], []⟩

/-- The query is activated, and each of its two jobs has its first tick. -/
def paired : List (Move Unit) :=
  [.activate () .once pair, .advance 0, .advance 0, .advance 0, .advance 0, .advance 0, .tick () 0 ⟨1772629560, 0⟩, .advance 1,
    .advance 1, .tick () 1 ⟨1772629560, 0⟩, .advance 2, .advance 2]

/-- Each of the two jobs is told the next minute, the second first, and the second has its tick of that minute. -/
def parted : List (Move Unit) :=
  [.afterTick () 1 (some ⟨1772629620, 0⟩), .advance 3, .afterTick () 0 (some ⟨1772629620, 0⟩), .advance 4, .advance 4,
    .tick () 1 ⟨1772629620, 0⟩, .advance 5]

/-- Whether no operation begun so far is a cancellation. -/
def uncancelled (c : Cluster Unit MemoryRegistry) : Bool := c.threads.all fun thread => !(thread.operation matches .cancel _)

/-- When no operation is a cancellation, no cancellation of any query has begun. -/
theorem not_cancelling_of_uncancelled {c : Cluster Unit MemoryRegistry} (h : uncancelled c = true) (id : String) :
    ¬c.Cancelling id := by
  rintro ⟨k, thread, hk, hop⟩
  have hthread := List.all_eq_true.1 h thread (List.mem_of_getElem? hk)
  simp [hop] at hthread

end Sample

open Sample in
/-- The two jobs of one activation live until the first is over, and then end together. -/
theorem together_paired :
    ∃ (c₁ c₂ : Cluster Unit MemoryRegistry) (a : Nat) (m : Marker), Reachable (fun _ => Sample.services false) c₁ ∧
      Steps (fun _ => Sample.services false) c₁ c₂ ∧ (drawnTokens c₂.log).Nodup ∧ ¬c₂.Cancelling "q" ∧
        (c₁.engines ()).timers.trackedFor "q" = [(m.token, 0), (m.token, 1)] ∧
          (∀ number < 2, InTurn (fun _ => Sample.services false) () number (fresh .empty) c₁) ∧
            Standing (fun _ => Sample.services false) c₁ a "q" m ∧ Fallen (fun _ => Sample.services false) c₂ a "q" m := by
  have hplay : ((play (fun _ => Sample.services false) paired (fresh MemoryRegistry.empty)).any fun c₁ =>
      drawnTokens c₁.log = [.ofNat 0] && uncancelled c₁ && JobRegistry.entry c₁.registry "q" = some ⟨.ofNat 0, ⟨0, 0⟩⟩ &&
        (c₁.engines ()).timers.trackedFor "q" = [(.ofNat 0, 0), (.ofNat 0, 1)] &&
          (c₁.ticks () 0).length ≤ 1 && (c₁.ticks () 1).length ≤ 1 &&
            !(c₁.log.any fun e => e.2.action matches .removeIfOwned _ _) &&
        (play (fun _ => Sample.services false) parted c₁).any fun c₂ =>
          drawnTokens c₂.log = [.ofNat 0] && uncancelled c₂ &&
            c₂.log.any fun e => match e.2.action with
              | .removeIfOwned id token => id = "q" && token = .ofNat 0
              | _ => false) = true := by decide +kernel
  obtain ⟨c₁, hc₁, hfacts⟩ := (Option.any_eq_true _ _).1 hplay
  simp only [Bool.and_eq_true, decide_eq_true_eq, Bool.not_eq_true'] at hfacts
  obtain ⟨⟨⟨⟨⟨⟨⟨hdrawn₁, huncancelled₁⟩, hentry⟩, htracked⟩, hfirst⟩, hsecond⟩, hnone⟩, hlater⟩ := hfacts
  obtain ⟨c₂, hc₂, hfacts⟩ := (Option.any_eq_true _ _).1 hlater
  simp only [Bool.and_eq_true, decide_eq_true_eq] at hfacts
  obtain ⟨⟨hdrawn₂, huncancelled₂⟩, hgave⟩ := hfacts
  have hsteps₁ := steps_of_play hc₁
  have hsteps₂ := steps_of_play hc₂
  have hreach₁ : Reachable (fun _ => Sample.services false) c₁ := ⟨.empty, fun _ => rfl, hsteps₁⟩
  have hreach₂ := hreach₁.steps hsteps₂
  have hdistinct₁ : (drawnTokens c₁.log).Nodup := by
    rw [hdrawn₁]
    decide
  have hdistinct₂ : (drawnTokens c₂.log).Nodup := by
    rw [hdrawn₂]
    decide
  obtain ⟨a, hwon₁⟩ := won_of_held (((Recorded.of_reachable (storing_of_faultFree _) hreach₁).entries "q").symm.trans hentry)
  have hwon₂ := hsteps₂.log_prefix.subset hwon₁
  have hkept : ¬GivenUp c₁.log "q" (.ofNat 0) := by
    rintro ⟨k, answer, hmem⟩
    have hfalse := List.any_eq_false.1 hnone _ hmem
    simp at hfalse
  have hgiven : GivenUp c₂.log "q" (.ofNat 0) := by
    obtain ⟨⟨k, action, answer⟩, hmem, haction⟩ := List.any_eq_true.1 hgave
    simp only at haction
    split at haction
    · simp only [Bool.and_eq_true, decide_eq_true_eq] at haction
      obtain ⟨rfl, rfl⟩ := haction
      exact ⟨k, answer, hmem⟩
    · cases haction
  have hcancel₁ := not_cancelling_of_uncancelled huncancelled₁ "q"
  have hcancel₂ := not_cancelling_of_uncancelled huncancelled₂ "q"
  refine ⟨c₁, c₂, a, ⟨.ofNat 0, ⟨0, 0⟩⟩, hreach₁, hsteps₂, hdistinct₂, hcancel₂, htracked,
    fun number hnumber => inTurn_of_length_le hsteps₁ ?_, ?_, ?_⟩
  · obtain rfl | rfl : number = 0 ∨ number = 1 := by omega
    · exact hfirst
    · exact hsecond
  · exact (together_of_reachable (storing_of_faultFree _) hreach₁ hdistinct₁ hcancel₁ hwon₁).1 hkept
  · exact (together_of_reachable (storing_of_faultFree _) hreach₂ hdistinct₂ hcancel₂ hwon₂).2 hgiven

/-- Whether the first job of the pair was told to stop past its own end, and the second found itself inactive within its own. -/
def Sample.endsEarly (c : Cluster Unit MemoryRegistry) : Bool :=
  match (c.threads[4]? : Option (Thread Unit)), (c.threads[5]? : Option (Thread Unit)) with
  | some ⟨_, .afterTick _ first (some next), .done (.told .stop)⟩, some ⟨_, .tick _ second now, .done (.ticked .inactive _)⟩ =>
    drawnTokens c.log = [.ofNat 0] && Sample.uncancelled c && first.recurrence.nextAfter ⟨1772629560, 0⟩ = .ok (some next) &&
      second.recurrence.nextAfter ⟨1772629560, 0⟩ = .ok (some next) && first.token = .ofNat 0 && first.schedule.finish < next &&
      second.token = .ofNat 0 && now = next && next < second.schedule.finish &&
        (JobRegistry.entry c.registry "q").isNone && ((c.engines ()).timers.trackedFor "q").isEmpty
  | _, _ => false

open Sample in
/-- A job that goes on within its own end is inactive at its next instant, its entry is gone and its timer is not tracked, since
another job of its activation was past its own end. -/
theorem inactive_within_finish :
    ∃ (c : Cluster Unit MemoryRegistry) (first second : Job) (now next : Instant) (rest : Job),
      Reachable (fun _ => Sample.services false) c ∧ (drawnTokens c.log).Nodup ∧ ¬c.Cancelling "q" ∧
        first.recurrence.nextAfter now = .ok (some next) ∧ second.recurrence.nextAfter now = .ok (some next) ∧
          c.Telling (.ofNat 0) 4 first (some next) (.done (.told .stop)) ∧ first.schedule.finish < next ∧
            c.Ticking (.ofNat 0) 5 second next (.done (.ticked .inactive rest)) ∧ next < second.schedule.finish ∧
              JobRegistry.entry c.registry "q" = none ∧ (c.engines ()).timers.trackedFor "q" = [] := by
  have hplay : ((play (fun _ => Sample.services false) (paired ++ parted) (fresh MemoryRegistry.empty)).any endsEarly) = true := by
    decide +kernel
  obtain ⟨c, hc, hfacts⟩ := (Option.any_eq_true _ _).1 hplay
  unfold endsEarly at hfacts
  split at hfacts
  · rename_i hstopped hinactive
    simp only [Bool.and_eq_true, decide_eq_true_eq, Option.isNone_iff_eq_none, List.isEmpty_iff] at hfacts
    obtain ⟨⟨⟨⟨⟨⟨⟨⟨⟨⟨hdrawn, huncancelled⟩, hnext⟩, hnext'⟩, hfirst⟩, hpast⟩, hsecond⟩, rfl⟩, hwithin⟩, hentry⟩, hnone⟩ := hfacts
    refine ⟨c, _, _, _, _, _, ⟨.empty, fun _ => rfl, steps_of_play hc⟩, ?_, not_cancelling_of_uncancelled huncancelled "q", hnext,
      hnext', ⟨_, _, hstopped, hfirst⟩, hpast, ⟨_, _, hinactive, hsecond⟩, hwithin, hentry, hnone⟩
    rw [hdrawn]
    decide
  · cases hfacts

end Cluster

end StandingQuery
