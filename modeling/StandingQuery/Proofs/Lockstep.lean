import StandingQuery.Proofs.EmbeddedQueries

/-!
# Two runs in lockstep

Two engines that went on from one state are alike for some queries if nothing that concerns these queries tells them apart but the
numbers of the handles (`EngineState.Alike`). A program that sees to these queries only ends with the same value on both and leaves
them alike (`Program.SeesTo`), whatever else has become of either engine. The programs of the engine are put together from
activations and cancellations, each of which sees to one query.
-/

namespace StandingQuery

open JobRegistry

/-- What a timer was started for, whatever the number of its handle. -/
def StartedJob.purpose (j : StartedJob) : Recurrence × Job := (j.recurrence, j.job)

/-- The scheduler answers alike from here and from there on. -/
def Services.AnswersAlike (services : Services) (calls calls' : Nat) : Prop :=
  ∀ n, services.admits (calls + n) = services.admits (calls' + n)

namespace Services

variable {services : Services} {calls calls' : Nat}

theorem AnswersAlike.add (h : services.AnswersAlike calls calls') (more : Nat) :
    services.AnswersAlike (calls + more) (calls' + more) := by
  intro n
  rw [Nat.add_assoc, Nat.add_assoc]
  exact h (more + n)

/-- Where the scheduler answers alike, timers are started for the same schedules and the same refusals are reported. -/
theorem AnswersAlike.answers (h : services.AnswersAlike calls calls') (schedules : List Schedule) (handle handle' : Nat) :
    services.admitted calls schedules = services.admitted calls' schedules ∧
      (services.answers calls handle schedules).map Outcome.discard =
        (services.answers calls' handle' schedules).map Outcome.discard := by
  induction schedules generalizing calls calls' handle handle' with
  | nil => exact ⟨rfl, rfl⟩
  | cons schedule rest ih =>
    have hfirst : services.admits calls = services.admits calls' := h 0
    cases hadmits : services.admits calls with
    | ok _ =>
      obtain ⟨hadmitted, hanswers⟩ := ih (h.add 1) (handle + 1) (handle' + 1)
      rw [hadmits] at hfirst
      rw [(services.admitted_cons_ok hadmits schedule rest).1, (services.admitted_cons_ok hfirst.symm schedule rest).1, hadmitted]
      refine ⟨rfl, ?_⟩
      unfold Services.answers
      rw [hadmits, ← hfirst]
      exact congrArg (_ :: ·) hanswers
    | error e =>
      obtain ⟨hadmitted, hanswers⟩ := ih (h.add 1) handle handle'
      rw [hadmits] at hfirst
      rw [(services.admitted_cons_error hadmits schedule rest).1, (services.admitted_cons_error hfirst.symm schedule rest).1,
        hadmitted]
      refine ⟨rfl, ?_⟩
      unfold Services.answers
      rw [hadmits, ← hfirst]
      exact congrArg (_ :: ·) hanswers

end Services

namespace EngineState

variable {ρ : Type} [JobRegistry ρ]

/-- The same has become of some queries on two engines that both went on from one state. -/
structure SameWork (ids : List String) (s a b : EngineState ρ) : Prop where
  registry : ∀ id ∈ ids, SameFor id a.registry b.registry
  started : ∀ id ∈ ids, (startedFor id s a).map StartedJob.purpose = (startedFor id s b).map StartedJob.purpose
  /-- Of the timers that were tracked before, the same are tracked still. -/
  tracked : ∀ id ∈ ids, ∀ e ∈ s.timers.trackedFor id, (e ∈ a.timers.trackedFor id ↔ e ∈ b.timers.trackedFor id)
  /-- And the same has become of each. -/
  handles : ∀ id ∈ ids, ∀ e ∈ s.timers.trackedFor id, a.timers.handles[e.2]? = b.timers.handles[e.2]?

/-- Two engines that both went on from one state are alike for some queries: the same has become of these, and the next activation
comes out alike. -/
structure Alike (services : Services) (ids : List String) (s a b : EngineState ρ) : Prop extends SameWork ids s a b where
  first : ∃ others, Confined others s a
  second : ∃ others, Confined others s b
  drawn : a.drawn = b.drawn
  answers : services.AnswersAlike a.scheduleCalls b.scheduleCalls

/-- A timer that was tracked for a query before stays as it is while others are seen to. -/
theorem handle_of_confined {s a a' : EngineState ρ} (hs : s.timers.Sound) {earlier others : List String}
    (h : Confined earlier s a) (hconfined : Confined others a a') {id : String} (hid : id ∉ others) {e : Uuid × Nat}
    (he : e ∈ s.timers.trackedFor id) : a'.timers.handles[e.2]? = a.timers.handles[e.2]? := by
  have hlt := hs.started he
  refine hconfined.timers.spared (hlt.trans_le h.timers.grown) fun other hother token hm => hid ?_
  rcases h.timers.old hm with hold | hnew
  · exact hs.single he hold ▸ hother
  · exact absurd hlt (Nat.not_lt.2 hnew)

/-- What has become of some queries stays the same while the second engine sees to others. -/
theorem SameWork.later {ids : List String} {s a b b' : EngineState ρ} (h : SameWork ids s a b) (hr : Separate s.registry)
    (hs : s.timers.Sound) {earlier others : List String} (hsecond : Confined earlier s b) (hlater : Confined others b b')
    (hids : ∀ id ∈ ids, id ∉ others) : SameWork ids s a b' where
  registry id hid := (h.registry id hid).trans (hlater.registry.sameFor (hsecond.registry.separate hr) (hids id hid))
  started id hid := by
    rw [hsecond.startedFor_trans hlater, hlater.startedFor_eq_nil (hids id hid), List.append_nil]
    exact h.started id hid
  tracked id hid e he := by
    rw [hlater.timers.trackedFor_eq (hids id hid)]
    exact h.tracked id hid e he
  handles id hid e he := (h.handles id hid e he).trans (handle_of_confined hs hsecond hlater (hids id hid) he).symm

namespace Alike

variable {services : Services} {ids : List String} {s a b a' b' : EngineState ρ} {id : String}

/-- Two engines stay alike when both see to one of the queries, if it comes out alike for that query. -/
theorem step (h : Alike services ids s a b) (hr : Separate s.registry) (hs : s.timers.Sound) (hid : id ∈ ids)
    (ha : Confined [id] a a') (hb : Confined [id] b b') (hdrawn : a'.drawn = b'.drawn)
    (hanswers : services.AnswersAlike a'.scheduleCalls b'.scheduleCalls) (hregistry : SameFor id a'.registry b'.registry)
    (hstarted : (startedFor id a a').map StartedJob.purpose = (startedFor id b b').map StartedJob.purpose)
    (htracked : ∀ e ∈ s.timers.trackedFor id, (e ∈ a'.timers.trackedFor id ↔ e ∈ b'.timers.trackedFor id))
    (hhandles : ∀ e ∈ s.timers.trackedFor id, a'.timers.handles[e.2]? = b'.timers.handles[e.2]?) :
    Alike services ids s a' b' := by
  obtain ⟨earlier, hfirst⟩ := h.first
  obtain ⟨earlier', hsecond⟩ := h.second
  have hfirst' : Confined (earlier ++ [id]) s a' :=
    (hfirst.mono (List.subset_append_left ..)).trans (ha.mono (List.subset_append_right ..))
  have hsecond' : Confined (earlier' ++ [id]) s b' :=
    (hsecond.mono (List.subset_append_left ..)).trans (hb.mono (List.subset_append_right ..))
  have hother {other : String} (hne : other ≠ id) : other ∉ [id] := by simpa using hne
  refine ⟨⟨fun other hmem => ?_, fun other hmem => ?_, fun other hmem e he => ?_, fun other hmem e he => ?_⟩, ⟨_, hfirst'⟩,
    ⟨_, hsecond'⟩, hdrawn, hanswers⟩
  · by_cases hne : other = id
    · exact hne ▸ hregistry
    · exact ((ha.registry.sameFor (hfirst.registry.separate hr) (hother hne)).symm.trans (h.registry other hmem)).trans
        (hb.registry.sameFor (hsecond.registry.separate hr) (hother hne))
  · rw [hfirst.startedFor_trans ha, hsecond.startedFor_trans hb, List.map_append, List.map_append, h.started other hmem]
    by_cases hne : other = id
    · rw [hne, hstarted]
    · rw [ha.startedFor_eq_nil (hother hne), hb.startedFor_eq_nil (hother hne)]
  · by_cases hne : other = id
    · subst hne
      exact htracked e he
    · rw [ha.timers.trackedFor_eq (hother hne), hb.timers.trackedFor_eq (hother hne)]
      exact h.tracked other hmem e he
  · by_cases hne : other = id
    · subst hne
      exact hhandles e he
    · rw [handle_of_confined hs hfirst ha (hother hne) he, handle_of_confined hs hsecond hb (hother hne) he]
      exact h.handles other hmem e he

end Alike

end EngineState

open EngineState

namespace Program

variable {ρ α β γ : Type} [JobRegistry ρ] {services : Services}

/-- A program sees to some queries only: all that it changes has to do with them, and on engines that are alike for them it comes
out alike. -/
structure SeesTo (ρ : Type) [JobRegistry ρ] (services : Services) (ids : List String) (p : Program α) : Prop where
  confined : ∀ s : EngineState ρ, Confined ids s (p.run services s).2
  alike : ∀ {all : List String} {s a b : EngineState ρ}, ids ⊆ all → Separate s.registry → s.timers.Sound →
    Alike services all s a b →
      (p.run services a).1 = (p.run services b).1 ∧ Alike services all s (p.run services a).2 (p.run services b).2

namespace SeesTo

variable {ids ids' : List String}

theorem done (ids : List String) (a : α) : SeesTo ρ services ids (.done a) := ⟨.refl ids, fun _ _ _ h => ⟨rfl, h⟩⟩

theorem mono {p : Program α} (h : SeesTo ρ services ids p) (hids : ids ⊆ ids') : SeesTo ρ services ids' p :=
  ⟨fun s => (h.confined s).mono hids, fun hall => h.alike (List.Subset.trans hids hall)⟩

theorem bind {p : Program α} {f : α → Program β} (h : SeesTo ρ services ids p) (hf : ∀ a, SeesTo ρ services ids (f a)) :
    SeesTo ρ services ids (p >>= f) := by
  constructor
  · intro s
    rw [run_bind]
    exact (h.confined s).trans ((hf _).confined _)
  · intro all s a b hall hr hs halike
    obtain ⟨hvalue, hafter⟩ := h.alike hall hr hs halike
    rw [run_bind, run_bind, hvalue]
    exact (hf _).alike hall hr hs hafter

theorem mapM {f : γ → Program β} {inputs : List γ} (h : ∀ c ∈ inputs, SeesTo ρ services ids (f c)) :
    SeesTo ρ services ids (inputs.mapM f) := by
  induction inputs with
  | nil => exact .done ids []
  | cons c rest ih =>
    rw [List.mapM_cons]
    refine (h c List.mem_cons_self).bind fun value => ?_
    exact (ih fun c hc => h c (List.mem_cons_of_mem _ hc)).bind fun values => .done ids _

end SeesTo

end Program

open Program

namespace EngineState.Alike

variable {ρ : Type} [JobRegistry ρ] {services : Services} {all : List String} {s a b : EngineState ρ} {id : String}

/-- On engines that are alike a timer that was tracked before is among those of its query on both or on neither. -/
theorem mem_handles_iff (h : Alike services all s a b) (hs : s.timers.Sound) (hid : id ∈ all) {e : Uuid × Nat}
    (he : e ∈ s.timers.trackedFor id) :
    e.2 ∈ (a.timers.trackedFor id).map (·.2) ↔ e.2 ∈ (b.timers.trackedFor id).map (·.2) := by
  have hold {t : EngineState ρ} {others : List String} (ht : Confined others s t) {owner : Uuid}
      (hm : (owner, e.2) ∈ t.timers.trackedFor id) : (owner, e.2) ∈ s.timers.trackedFor id :=
    (ht.timers.old hm).resolve_right (Nat.not_le.2 (hs.started he))
  obtain ⟨others, hfirst⟩ := h.first
  obtain ⟨others', hsecond⟩ := h.second
  rw [List.mem_map, List.mem_map]
  constructor
  · rintro ⟨⟨owner, handle⟩, hm, rfl⟩
    exact ⟨(owner, e.2), (h.tracked id hid _ (hold hfirst hm)).1 hm, rfl⟩
  · rintro ⟨⟨owner, handle⟩, hm, rfl⟩
    exact ⟨(owner, e.2), (h.tracked id hid _ (hold hsecond hm)).2 hm, rfl⟩

end EngineState.Alike

namespace Activation

variable {ρ : Type} [JobRegistry ρ] (services : Services)

/-- A cancellation sees to its query. -/
theorem cancel_seesTo (id : String) : SeesTo ρ services [id] (cancel id) := by
  refine ⟨fun s => (cancel_confined services id s).1, fun {all s a b} hall hr hs h => ?_⟩
  have hid : id ∈ all := hall List.mem_cons_self
  have hanswer : (JobRegistry.remove a.registry id).1 = (JobRegistry.remove b.registry id).1 :=
    (h.registry id hid).answer_eq .remove
  have hregistry := (h.registry id hid).edit .remove
  obtain ⟨ha, hjobsA⟩ := cancel_confined services id a
  obtain ⟨hb, hjobsB⟩ := cancel_confined services id b
  have hstarted := (startedFor_of_jobs_eq hjobsA id).trans (startedFor_of_jobs_eq hjobsB id).symm
  rw [cancel_run_eq] at ha hb hstarted
  rw [cancel_run_eq, cancel_run_eq]
  rw [cancel_run_eq] at hstarted
  rw [hanswer] at ha hstarted ⊢
  cases hremoved : (JobRegistry.remove b.registry id).1 with
  | error e =>
    rw [hremoved] at ha hb hstarted
    exact ⟨rfl, h.step hr hs hid ha hb h.drawn h.answers hregistry (congrArg _ hstarted) (h.tracked id hid) (h.handles id hid)⟩
  | ok _ =>
    rw [hremoved] at ha hb hstarted
    refine ⟨rfl, h.step hr hs hid ha hb h.drawn h.answers hregistry (congrArg _ hstarted) (fun e he => ?_) fun e he => ?_⟩
    · rw [LocalTimers.mem_trackedFor_cancelAll, LocalTimers.mem_trackedFor_cancelAll]
      simp
    · rw [LocalTimers.getElem?_cancelAll, LocalTimers.getElem?_cancelAll, h.handles id hid e he]
      simp only [h.mem_handles_iff hs hid he]

/-- The timers of an activation that were started on engines that are alike leave them alike. -/
theorem TimersStarted.alike {services : Services} {all : List String} {s a b a' b' : EngineState ρ} {query : StoredQuery}
    {token : Uuid} {schedules : List Schedule} {asked : Nat} (hid : query.id ∈ all) (hr : Separate s.registry)
    (hs : s.timers.Sound) (h : Alike services all s a b) (ha : TimersStarted query token schedules asked a a')
    (hb : TimersStarted query token schedules asked b b') : Alike services all s a' b' := by
  obtain ⟨others, hfirst⟩ := h.first
  obtain ⟨others', hsecond⟩ := h.second
  have hpurposes {t t' : EngineState ρ} (ht : TimersStarted query token schedules asked t t') :
      (startedFor query.id t t').map StartedJob.purpose =
        schedules.map fun schedule => ((Job.start query token schedule).recurrence, Job.start query token schedule) := by
    have hall : startedFor query.id t t' = jobsFor query token t.timers.handles.length schedules := by
      rw [startedFor, ht.startedSince_eq]
      refine List.filter_eq_self.2 fun j hj => ?_
      rw [(mem_jobsFor hj).1]
      exact beq_self_eq_true _
    rw [hall, jobsFor, List.map_map]
    conv_rhs => rw [← List.zipIdx_map_fst t.timers.handles.length schedules, List.map_map]
    rfl
  have hregistry : SameFor query.id a'.registry b'.registry := by
    rw [ha.registry, hb.registry]
    split
    · exact (h.registry _ hid).edit (.giveUp token)
    · exact h.registry _ hid
  refine h.step hr hs hid ha.confined hb.confined (by rw [ha.drawn, hb.drawn, h.drawn]) ?_ hregistry
    ((hpurposes ha).trans (hpurposes hb).symm) (fun e he => ?_) fun e he => ?_
  · rw [ha.calls, hb.calls]
    exact h.answers.add asked
  · have hlt := hs.started he
    have hover : a.timers.isOver e.2 = b.timers.isOver e.2 := by
      unfold LocalTimers.isOver
      rw [h.handles _ hid e he]
    rw [ha.mem_trackedFor_iff (hlt.trans_le hfirst.timers.grown), hb.mem_trackedFor_iff (hlt.trans_le hsecond.timers.grown),
      h.tracked _ hid e he, hover]
  · have hlt := hs.started he
    rw [ha.handle_eq (hlt.trans_le hfirst.timers.grown), hb.handle_eq (hlt.trans_le hsecond.timers.grown)]
    exact h.handles _ hid e he

/-- An activation sees to its query. -/
theorem activate_seesTo (mode : ClaimMode) (query : StoredQuery) : SeesTo ρ services [query.id] (activate services mode query) := by
  refine ⟨fun s => (activate_adds services mode query s).toConfined, fun {all s a b} hall hr hs h => ?_⟩
  have hid : query.id ∈ all := hall List.mem_cons_self
  rw [activate_run_eq, activate_run_eq]
  split
  · exact ⟨rfl, h⟩
  · cases services.runner.validate query.expression with
    | error e => exact ⟨rfl, h⟩
    | ok _ =>
      rw [h.drawn]
      obtain ⟨r, w, hclaimedA, heditedA⟩ :=
        claim_run_eq services mode query.id (services.draw b.drawn) { a with drawn := b.drawn + 1 }
      obtain ⟨r', w', hclaimedB, heditedB⟩ :=
        claim_run_eq services mode query.id (services.draw b.drawn) { b with drawn := b.drawn + 1 }
      obtain ⟨hanswer, hregistry⟩ := claim_run_alike services mode query.id (services.draw b.drawn)
        (s := { a with drawn := b.drawn + 1 }) (u := { b with drawn := b.drawn + 1 }) (h.registry _ hid)
      rw [hclaimedA, hclaimedB] at hregistry
      have hclaimed : Alike services all s { a with drawn := b.drawn + 1, registry := r, waitedMs := w }
          { b with drawn := b.drawn + 1, registry := r', waitedMs := w' } := by
        have ha : Confined [query.id] a { a with drawn := b.drawn + 1, registry := r, waitedMs := w } :=
          ⟨heditedA, .refl _ _, ⟨[], (List.append_nil _).symm, by simp⟩, h.drawn.le.trans (Nat.le_succ _), le_rfl⟩
        have hb : Confined [query.id] b { b with drawn := b.drawn + 1, registry := r', waitedMs := w' } :=
          ⟨heditedB, .refl _ _, ⟨[], (List.append_nil _).symm, by simp⟩, Nat.le_succ _, le_rfl⟩
        have hnone : startedFor query.id a { a with drawn := b.drawn + 1, registry := r, waitedMs := w } =
            startedFor query.id b { b with drawn := b.drawn + 1, registry := r', waitedMs := w' } :=
          (startedFor_of_jobs_eq rfl _).trans (startedFor_of_jobs_eq rfl _).symm
        exact h.step hr hs hid ha hb rfl h.answers hregistry (congrArg _ hnone) (h.tracked _ hid) (h.handles _ hid)
      simp only [hanswer, hclaimedA, hclaimedB]
      split
      · exact ⟨rfl, hclaimed⟩
      · obtain ⟨hadmitted, hanswers⟩ :=
          h.answers.answers (enabled (checked query)) a.timers.handles.length b.timers.handles.length
        have hstartedA := startTimers_started services query (services.draw b.drawn).token (enabled (checked query))
          { a with drawn := b.drawn + 1, registry := r, waitedMs := w }
        have hstartedB := startTimers_started services query (services.draw b.drawn).token (enabled (checked query))
          { b with drawn := b.drawn + 1, registry := r', waitedMs := w' }
        simp only [hadmitted] at hstartedA
        refine ⟨?_, TimersStarted.alike hid hr hs hclaimed hstartedA hstartedB⟩
        rw [startTimers_run, startTimers_run]
        simp only [hanswers]

end Activation

namespace Lifecycle

variable {ρ : Type} [JobRegistry ρ] (services : Services)

/-- To start an embedded value sees to its query. -/
theorem activateQuery_seesTo (mode : ClaimMode) (value : Json) :
    SeesTo ρ services (StoredQuery.idsOf value) (activateQuery services mode value) := by
  unfold activateQuery
  cases hread : StoredQuery.ofJson value with
  | error e => exact .done _ _
  | ok query =>
    refine SeesTo.bind ((Activation.activate_seesTo services mode query).mono ?_) fun outcome => .done _ _
    intro id hid
    rw [List.mem_singleton.1 hid]
    exact StoredQuery.mem_idsOf.2 (StoredQuery.idOf_of_ofJson hread)

/-- To stop an embedded value sees to its query. -/
theorem cancelQuery_seesTo (value : Json) : SeesTo ρ services (StoredQuery.idsOf value) (cancelQuery value) := by
  unfold cancelQuery
  cases hread : StoredQuery.idOf value with
  | error e => exact .done _ _
  | ok id =>
    refine (Activation.cancel_seesTo services id).mono ?_
    intro other hother
    rw [List.mem_singleton.1 hother]
    exact StoredQuery.mem_idsOf.2 hread

/-- What sees to each embedded value sees to the queries of a record. -/
theorem forQueries_seesTo {act : Json → Program (Outcome Unit)}
    (hact : ∀ value, SeesTo ρ services (StoredQuery.idsOf value) (act value)) (record : CatalogRecord) :
    SeesTo ρ services record.queryIds (forQueries act record) := by
  rw [forQueries_eq]
  split
  · exact .done _ _
  · unfold Outcome.forEach
    refine SeesTo.bind (SeesTo.mapM fun value hvalue => ?_) fun outcomes => .done _ _
    exact (hact value).mono (idsOf_subset_queryIds hvalue)

theorem activateRecord_seesTo (mode : ClaimMode) (record : CatalogRecord) :
    SeesTo ρ services record.queryIds (activateRecord services mode record) :=
  (forQueries_seesTo services (activateQuery_seesTo services mode) record).bind fun _ => .done _ _

theorem cancelRecord_seesTo (record : CatalogRecord) : SeesTo ρ services record.queryIds (cancelRecord record) :=
  (forQueries_seesTo services (cancelQuery_seesTo services) record).bind fun _ => .done _ _

/-- To update a record sees to the queries of the old record and of the new one. -/
theorem updateRecord_seesTo (update : RecordUpdate) :
    SeesTo ρ services (update.old.queryIds ++ update.new.queryIds) (updateRecord services update) := by
  refine SeesTo.bind ((cancelRecord_seesTo services update.old).mono (List.subset_append_left ..)) fun cancelled => ?_
  exact SeesTo.bind ((activateRecord_seesTo services .retrying update.new).mono (List.subset_append_right ..))
    fun activated => .done _ _

end Lifecycle

end StandingQuery
