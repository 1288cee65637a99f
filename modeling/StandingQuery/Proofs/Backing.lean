import StandingQuery.Proofs.Holding
import StandingQuery.Proofs.RowsAsMemory
import StandingQuery.Proofs.Tending

/-!
# Entries and the timers behind them

When nothing but ticks is in progress for a query, an entry has a running, tracked timer behind it in all cases but one: a
cancellation that removed an earlier entry cancelled the query's timers only after the activation had claimed the entry and
tracked its own (`Cluster.backed_iff_not_straddled`). That case does occur (`Cluster.unbacked_after_straddling`), since timers
are cancelled by query and not by token.
-/

namespace StandingQuery

/-- Whether an operation changes the entry or the timers of a query. -/
def Operation.Concerns (id : String) : Operation → Prop
  | .activate _ query => query.id = id
  | .cancel other => other = id
  | .tick _ _ _ => False
  | .afterTick _ job _ => job.query.id = id

namespace Cluster

variable {ι ρ : Type}

/-- Whether nothing that changes the entry or the timers of a query is in progress. -/
def Quiet (c : Cluster ι ρ) (id : String) : Prop :=
  ∀ (k : Nat) (thread : Thread ι), c.threads[k]? = some thread → thread.operation.Concerns id →
    ∃ result, thread.rest = .done result

/-- Whether a timer that was started for a token is not over and is tracked for a query. -/
def Backed (c : Cluster ι ρ) (id : String) (token : Uuid) : Prop :=
  ∃ engine handle, (token, handle) ∈ (c.engines engine).timers.trackedFor id ∧
    (c.engines engine).timers.isOver handle = false ∧
      ∃ s, (c.engines engine).jobs[handle]? = some s ∧ s.job.token = token

/-- Whether an activation claimed an entry and tracked its timers between the two steps of a cancellation on the same engine:
the cancellation had removed the entry before it was claimed, and cancelled the timers after they were tracked. -/
def Straddled (c : Cluster ι ρ) (id : String) (m : Marker) : Prop :=
  ∃ (k a : Nat) (engine : ι) (removed : Except SchedulerError Bool) (handles : List Nat) (count : Nat),
    c.On k engine ∧ c.On a engine ∧
      [(k, ⟨.remove id, removed⟩), (a, ⟨.claim id m, .ok true⟩), (a, ⟨.track id m.token handles, ()⟩),
        (k, ⟨.cancelTimers id, count⟩)].Sublist c.log

/-- Of two elements that follow each other somewhere in a list, the first stands in the part before a place, or the second in
the part after it. -/
theorem mem_or_mem_of_pair_sublist {α : Type} {x y e : α} {before after : List α} (h : [x, y].Sublist (before ++ e :: after)) :
    x ∈ before ∨ y ∈ after := by
  obtain ⟨first, second, hsplit, hfirst, hsecond⟩ := List.sublist_append_iff.1 h
  cases first with
  | nil =>
    rw [List.nil_append] at hsplit
    subst hsplit
    refine Or.inr ?_
    cases hsecond with
    | cons _ hrest => exact hrest.subset (by simp)
    | cons_cons _ hrest => exact hrest.subset (by simp)
  | cons z rest =>
    obtain ⟨rfl, _⟩ := List.cons_eq_cons.1 hsplit
    exact Or.inl (hfirst.subset List.mem_cons_self)

variable {services : ι → Services} {c : Cluster ι ρ}

/-- A token that had won the entry of a query and does not carry it after a step does not carry it later on. -/
theorem not_carried_after (hsound : Sound services c) (hdistinct : (drawnTokens c.log).Nodup)
    {before after : List (Nat × Happening)} {e : Nat × Happening} (hpart : before ++ e :: after <+: c.log) {a : Nat} {id : String}
    {m : Marker} (hwon : (a, ⟨.claim id m, .ok true⟩) ∈ before) (hlost : carried (before ++ [e]) id m.token = false) :
    carried (before ++ e :: after) id m.token = false := by
  rw [List.append_cons] at hpart ⊢
  exact hsound.not_carried_again hdistinct hpart (List.mem_append_left _ hwon) hlost id

/-- A token that had won the entry of a query does not carry it any more if the entry was removed since. -/
theorem not_carried_of_removed (hsound : Sound services c) (hdistinct : (drawnTokens c.log).Nodup)
    {before after : List (Nat × Happening)} {k a : Nat} {id : String} {m : Marker} {removed : Except SchedulerError Bool}
    (hlog : c.log = before ++ (k, ⟨.remove id, removed⟩) :: after) (hwon : (a, ⟨.claim id m, .ok true⟩) ∈ before) :
    carried c.log id m.token = false := by
  have hpart : before ++ (k, ⟨.remove id, removed⟩) :: after <+: c.log := ⟨[], by rw [hlog, List.append_nil]⟩
  rw [hlog]
  refine not_carried_after hsound hdistinct hpart hwon ?_
  unfold carried
  rw [held_snoc]
  simp [Happening.leaves]

/-- Whoever gives an entry up does so after the claim that won it. -/
theorem won_of_givenUp (hsound : Sound services c) (hstaffed : Staffed c) {before after : List (Nat × Happening)} {k : Nat}
    {id : String} {token : Uuid} {answer : Except SchedulerError Bool}
    (hlog : c.log = before ++ (k, ⟨.removeIfOwned id token, answer⟩) :: after) :
    ∃ a m, (a, ⟨.claim id m, .ok true⟩) ∈ before ∧ m.token = token := by
  obtain ⟨thread, hk, hasks⟩ := hsound.asked hlog
  rcases Operation.asks_removeIfOwned hasks with ⟨m, _, hwon, htoken⟩ | ⟨number, job, hjob, rfl, rfl⟩
  · exact ⟨k, m, mem_past.1 hwon, htoken⟩
  · obtain ⟨a, job', hstarted, hquery, htoken⟩ := hstaffed.ordered before k _ after thread number job hlog hk hjob
    obtain ⟨first, second, rfl⟩ := List.append_of_mem hstarted
    rw [List.append_assoc] at hlog
    obtain ⟨_, _, hasks'⟩ := hsound.asked hlog
    obtain ⟨_, m, _, hm, _, hwon⟩ := Operation.asks_schedule hasks'
    rw [hquery] at hwon
    exact ⟨a, m, List.mem_append_left _ (mem_past.1 hwon), hm.symm.trans htoken⟩

/-- A token does not carry the entry of a query any more once the entry was given up for its sake. -/
theorem not_carried_of_givenUp [JobRegistry ρ] (hsound : Sound services c) (hrecorded : Recorded c) (hstaffed : Staffed c)
    (hdistinct : (drawnTokens c.log).Nodup) {part : List (Nat × Happening)} (hpart : part <+: c.log) {id : String} {token : Uuid}
    (h : GivenUp part id token) : carried part id token = false := by
  obtain ⟨k, answer, hmem⟩ := h
  obtain ⟨before, after, rfl⟩ := List.append_of_mem hmem
  obtain ⟨rest, hlog⟩ := hpart
  rw [List.append_assoc, List.cons_append] at hlog
  obtain ⟨a, m, hwon, rfl⟩ := won_of_givenUp hsound hstaffed hlog.symm
  refine not_carried_after hsound hdistinct ⟨rest, by rw [← hlog, List.append_assoc, List.cons_append]⟩ hwon ?_
  have htruthful : answer = .ok (carried before id m.token) := hrecorded.truthful before _ (after ++ rest) hlog.symm
  subst htruthful
  cases hc : carried before id m.token with
  | true =>
    unfold carried
    rw [held_snoc]
    simp [Happening.leaves]
  | false =>
    unfold carried at hc ⊢
    rw [held_snoc]
    exact hc

/-- An activation that won the entry of a query and has ended has tracked its timers, unless it gave the entry up. -/
theorem tracked_of_won (hsound : Sound services c) {id : String} (hquiet : c.Quiet id) {a : Nat} {m : Marker}
    (hwon : (a, ⟨.claim id m, .ok true⟩) ∈ c.log) :
    GivenUp c.log id m.token ∨ ∃ before handles after, c.log = before ++ (a, ⟨.track id m.token handles, ()⟩) :: after ∧
      handles ≠ [] ∧ (a, ⟨.claim id m, .ok true⟩) ∈ before := by
  obtain ⟨first, second, hclaim⟩ := List.append_of_mem hwon
  obtain ⟨thread, hk, hasks⟩ := hsound.asked hclaim
  obtain ⟨mode, query, hop, rfl, _, _⟩ := Operation.asks_claim hasks
  obtain ⟨hdrew, _⟩ := hsound.drew_of_claimed hclaim
  obtain ⟨result, hdone⟩ := hquiet a thread hk (by rw [hop]; rfl)
  have hends := hsound.keeps hk
  rw [hdone, hop] at hends
  obtain ⟨happening, hpast, hsettles⟩ := hends m (mem_past.2 hwon)
  obtain ⟨before, after, hlog⟩ := List.append_of_mem (mem_past.1 hpast)
  obtain ⟨thread', hk', hasks'⟩ := hsound.asked hlog
  cases hk.symm.trans hk'
  have hsame : ∀ m', Activation.Drew (past before a) m' → m' = m := by
    intro m' hdrew'
    rw [hlog, past_append] at hdrew
    cases (Activation.Aux.drew_append hdrew' _).symm.trans hdrew
    rfl
  rcases Happening.settles_iff.1 hsettles with ⟨id', token, handles, rfl⟩ | ⟨id', token, answer, rfl⟩
  · obtain ⟨_, _, m', hop', rfl, rfl, hdrew', hwon', _, _, hsome⟩ := Operation.asks_track hasks'
    cases hop.symm.trans hop'
    cases hsame m' hdrew'
    exact Or.inr ⟨before, handles, after, hlog, hsome, mem_past.1 hwon'⟩
  · rw [hop] at hasks'
    cases hasks' with
    | giveUp hdrew' _ _ _ =>
      cases hsame _ hdrew'
      exact Or.inl ⟨a, answer, mem_past.1 hpast⟩

/-- With distinct tokens, timers are tracked with one token by one activation only. -/
theorem eq_of_tracked (hsound : Sound services c) (hdistinct : (drawnTokens c.log).Nodup) {a a' : Nat} {id id' : String}
    {token : Uuid} {handles handles' : List Nat} (h : (a, ⟨.track id token handles, ()⟩) ∈ c.log)
    (h' : (a', ⟨.track id' token handles', ()⟩) ∈ c.log) : a = a' := by
  have hdrew : ∀ {a : Nat} {id : String} {handles : List Nat}, (a, ⟨.track id token handles, ()⟩) ∈ c.log →
      ∃ m, Activation.Drew (past c.log a) m ∧ m.token = token := by
    intro a id handles hmem
    obtain ⟨before, after, hlog⟩ := List.append_of_mem hmem
    obtain ⟨_, _, hasks⟩ := hsound.asked hlog
    obtain ⟨_, _, m, _, _, htoken, hdrew, _⟩ := Operation.asks_track hasks
    refine ⟨m, ?_, htoken⟩
    rw [hlog, past_append]
    exact Activation.Aux.drew_append hdrew _
  obtain ⟨m, hm, htoken⟩ := hdrew h
  obtain ⟨m', hm', htoken'⟩ := hdrew h'
  exact Sound.eq_of_drew hdistinct hm hm' (htoken.trans htoken'.symm)

/-- With distinct tokens, what was tracked with a token for a query on an engine and spared since was not straddled. -/
theorem not_straddled_of_trackedSince (hsound : Sound services c) (hdistinct : (drawnTokens c.log).Nodup) {engine : ι}
    {id : String} {m : Marker} {handle : Nat} (h : c.TrackedSince engine id m.token handle) : ¬c.Straddled id m := by
  rintro ⟨k, a, engine', removed, handles', count, hk, ha, hsub⟩
  obtain ⟨before, a', handles, after, hlog, ha', _, hspared⟩ := h
  have hpair : [(a, ⟨.track id m.token handles', ()⟩), (k, ⟨.cancelTimers id, count⟩)].Sublist c.log :=
    (List.sublist_cons_self _ _).trans ((List.sublist_cons_self _ _).trans hsub)
  have hmem : (a', ⟨.track id m.token handles, ()⟩) ∈ c.log := by
    rw [hlog]
    exact List.mem_append_right _ List.mem_cons_self
  have hsame : a = a' := eq_of_tracked hsound hdistinct (hpair.subset List.mem_cons_self) hmem
  subst hsame
  rw [hlog] at hpair
  rcases mem_or_mem_of_pair_sublist hpair with htwice | hcancelled
  · obtain ⟨_, _, hasks⟩ := hsound.asked hlog
    obtain ⟨_, _, _, _, _, _, _, _, hunsettled, _⟩ := Operation.asks_track hasks
    cases hunsettled _ (mem_past.2 htwice)
  · rw [ha.unique ha'] at hk
    exact hspared k count hcancelled hk

/-- With distinct tokens, an activation that still holds the entry and whose timers were tracked but not spared was straddled.
-/
theorem straddled_of_not_spared (hsound : Sound services c) (hdistinct : (drawnTokens c.log).Nodup) {engine : ι} {id : String}
    {m : Marker} (hcarried : carried c.log id m.token = true) {before after : List (Nat × Happening)} {a : Nat}
    {handles : List Nat} (hlog : c.log = before ++ (a, ⟨.track id m.token handles, ()⟩) :: after) (ha : c.On a engine)
    (hwon : (a, ⟨.claim id m, .ok true⟩) ∈ before) (hnot : ¬c.Spared engine id after) : c.Straddled id m := by
  simp only [Spared, Classical.not_forall, Classical.not_not] at hnot
  obtain ⟨k, count, hcancelled, hk⟩ := hnot
  obtain ⟨after₁, after₂, rfl⟩ := List.append_of_mem hcancelled
  obtain ⟨before₁, before₂, rfl⟩ := List.append_of_mem hwon
  have hcancel : c.log = (before₁ ++ (a, ⟨.claim id m, .ok true⟩) :: (before₂ ++ (a, ⟨.track id m.token handles, ()⟩) ::
      after₁)) ++ (k, ⟨.cancelTimers id, count⟩) :: after₂ := by
    rw [hlog]
    simp
  obtain ⟨_, _, hasks⟩ := hsound.asked hcancel
  obtain ⟨_, removed, hpast⟩ := Operation.asks_cancelTimers hasks
  have hremoved := mem_past.1 (hpast ▸ List.mem_singleton_self _)
  rcases List.mem_append.1 hremoved with hfirst | hlater
  · refine ⟨k, a, engine, removed, handles, count, hk, ha, ?_⟩
    rw [hlog, List.append_assoc]
    refine List.Sublist.append (List.singleton_sublist.2 hfirst) ?_
    refine List.Sublist.append (List.singleton_sublist.2 List.mem_cons_self) ?_
    exact (List.singleton_sublist.2 hcancelled).cons_cons _
  · rcases List.mem_cons.1 hlater with hsame | hlater
    · cases hsame
    obtain ⟨first, second, hsplit⟩ := List.append_of_mem hlater
    have hremove : c.log = (before₁ ++ (a, ⟨.claim id m, .ok true⟩) :: first) ++ (k, ⟨.remove id, removed⟩) ::
        (second ++ (k, ⟨.cancelTimers id, count⟩) :: after₂) := by
      rw [hcancel, hsplit]
      simp
    have hlost := not_carried_of_removed hsound hdistinct hremove (List.mem_append_right _ List.mem_cons_self)
    rw [hcarried] at hlost
    cases hlost

/-- With distinct tokens, when nothing but ticks is in progress for a query, there is a running, tracked timer behind its entry
exactly when its activation was not straddled by a cancellation. -/
theorem backed_iff_not_straddled [DecidableEq ι] [JobRegistry ρ] [JobRegistry.Durable ρ] (hstoring : Storing ρ services)
    (h : Reachable services c) (hdistinct : (drawnTokens c.log).Nodup) {id : String} (hquiet : c.Quiet id) {m : Marker}
    (hentry : JobRegistry.entry c.registry id = some m) :
    c.Backed id m.token ↔ ¬c.Straddled id m := by
  have hsound := Sound.of_reachable h
  have hrecorded := Recorded.of_reachable hstoring h
  have hstaffed := Staffed.of_reachable h
  have htended := Tended.of_reachable h
  constructor
  · rintro ⟨engine, handle, htracked, _, _⟩
    exact not_straddled_of_trackedSince hsound hdistinct (htended.since engine id m.token handle htracked)
  · intro hnot
    have hheld : held c.log id = some m := (hrecorded.entries id).symm.trans hentry
    have hcarried : carried c.log id m.token = true := carried_iff.2 ⟨m, hheld, rfl⟩
    have hkept : ¬GivenUp c.log id m.token := fun hgiven =>
      Bool.eq_false_iff.1 (not_carried_of_givenUp hsound hrecorded hstaffed hdistinct List.prefix_rfl hgiven) hcarried
    obtain ⟨a, hwon⟩ := won_of_held hheld
    rcases tracked_of_won hsound hquiet hwon with hgiven | ⟨before, handles, after, hlog, hsome, hbefore⟩
    · exact absurd hgiven hkept
    obtain ⟨handle, rest, rfl⟩ := List.exists_cons_of_ne_nil hsome
    obtain ⟨thread, hthread, _⟩ := hsound.asked hlog
    have ha : c.On a thread.engine := ⟨thread, hthread, rfl⟩
    by_cases hspared : c.Spared thread.engine id after
    · rcases htended.still before a thread.engine id m.token _ after hlog ha hspared handle List.mem_cons_self with
        ⟨htracked, hrunning⟩ | hgiven
      · obtain ⟨query, hcard, _⟩ := hstaffed.card_of_tracked hsound hlog ha List.mem_cons_self
        rw [cards, List.getElem?_map] at hcard
        obtain ⟨s, hs, hcard⟩ := Option.map_eq_some_iff.1 hcard
        refine ⟨thread.engine, handle, htracked, ?_, s, hs, ?_⟩
        · unfold LocalTimers.isOver
          rw [hrunning]
          rfl
        · exact congrArg (·.2.2) hcard
      · exact absurd hgiven hkept
    · exact absurd (straddled_of_not_spared hsound hdistinct hcarried hlog ha hbefore hspared) hnot

/-- Whether every operation so far has ended. -/
def allEnded (c : Cluster ι ρ) : Bool :=
  c.threads.all fun thread =>
    match thread.rest with
    | .done _ => true
    | .step _ _ => false

/-- When every operation has ended, nothing is in progress. -/
theorem quiet_of_allEnded (h : c.allEnded = true) (id : String) : c.Quiet id := by
  intro k thread hk _
  have hended := List.all_eq_true.1 h thread (List.mem_of_getElem? hk)
  split at hended
  · exact ⟨_, by assumption⟩
  · cases hended

namespace Sample

/-- The markers that the sample engines draw can be written in rows. -/
theorem storing_rows : Storing RowRegistry fun _ : Unit => Sample.services false := fun _ _ =>
  (by decide : Marker.Writable ⟨.ofNat 0, ⟨0, 0⟩⟩)

/-- A query is cancelled and activated again: the second activation wins the entry before the cancellation has cancelled the
timer of the first, but tracks its own only then. -/
def overtaken : List (Move Unit) :=
  [.activate () .once query, .advance 0, .advance 0, .advance 0, .advance 0, .cancel () "q", .advance 1,
    .activate () .retrying query, .advance 2, .advance 2, .advance 1, .advance 2, .advance 2]

/-- Whether timers were tracked with a token by the last step only. -/
def tracksLast (log : List (Nat × Happening)) (token : Uuid) : Bool :=
  log.dropLast.all fun e =>
    match e.2.action with
    | .track _ other _ => other ≠ token
    | _ => true

end Sample

/-- An activation that tracked its timers last was not straddled. -/
theorem not_straddled_of_tracksLast {id : String} {m : Marker} (h : Sample.tracksLast c.log m.token = true) :
    ¬c.Straddled id m := by
  rintro ⟨k, a, engine, removed, handles, count, _, _, hsub⟩
  have hpair := (List.sublist_cons_self _ _).trans ((List.sublist_cons_self _ _).trans hsub)
  have hne : c.log ≠ [] := List.ne_nil_of_mem (hpair.subset List.mem_cons_self)
  rw [← List.dropLast_concat_getLast hne] at hpair
  rcases mem_or_mem_of_pair_sublist hpair with htracked | hnone
  · have hother := List.all_eq_true.1 h _ htracked
    simp at hother
  · cases hnone

/-- Over a table, the second activation has its timer behind the entry, while that of the first is cancelled. -/
theorem backed_after_cancellation :
    ∃ c : Cluster Unit RowRegistry, Storing RowRegistry (fun _ : Unit => Sample.services false) ∧
      Reachable (fun _ => Sample.services false) c ∧ (drawnTokens c.log).Nodup ∧ c.Quiet "q" ∧
        JobRegistry.entry c.registry "q" = some ⟨.ofNat 2, ⟨0, 0⟩⟩ ∧
          (c.engines ()).timers.handles = [⟨false, true⟩, .running] ∧ c.Backed "q" (.ofNat 2) := by
  have hplay : ((play (fun _ => Sample.services false) Sample.overtaken (fresh RowRegistry.empty)).any fun c =>
      drawnTokens c.log = [.ofNat 0, .ofNat 2] && c.allEnded && held c.log "q" = some ⟨.ofNat 2, ⟨0, 0⟩⟩ &&
        (c.engines ()).timers.handles = [⟨false, true⟩, .running] && Sample.tracksLast c.log (.ofNat 2)) = true := by
    decide +kernel
  obtain ⟨c, hc, hfacts⟩ := (Option.any_eq_true _ _).1 hplay
  simp only [Bool.and_eq_true, decide_eq_true_eq] at hfacts
  obtain ⟨⟨⟨⟨hdrawn, hended⟩, hheld⟩, hhandles⟩, hlast⟩ := hfacts
  have hreach : Reachable (fun _ => Sample.services false) c := ⟨.empty, fun _ => rfl, steps_of_play hc⟩
  have hdistinct : (drawnTokens c.log).Nodup := by
    rw [hdrawn]
    decide
  have hquiet := quiet_of_allEnded hended "q"
  have hentry := ((Recorded.of_reachable Sample.storing_rows hreach).entries "q").trans hheld
  refine ⟨c, Sample.storing_rows, hreach, hdistinct, hquiet, hentry, hhandles, ?_⟩
  exact (backed_iff_not_straddled Sample.storing_rows hreach hdistinct hquiet hentry).2 (not_straddled_of_tracksLast hlast)

/-- A cancellation that removed nothing, an activation that runs through between its two steps, and the cancellation's second
step leave an entry with no timer behind it. -/
theorem unbacked_after_straddling :
    ∃ c : Cluster Unit MemoryRegistry, Reachable (fun _ => Sample.services false) c ∧ (drawnTokens c.log).Nodup ∧ c.Quiet "q" ∧
      ∃ m, JobRegistry.entry c.registry "q" = some m ∧ ¬c.Backed "q" m.token := by
  have hplay : ((play (fun _ => Sample.services false)
      [.cancel () "q", .advance 0, .activate () .once Sample.query, .advance 1, .advance 1, .advance 1, .advance 1, .advance 0]
      (fresh MemoryRegistry.empty)).any fun c =>
      drawnTokens c.log = [.ofNat 0] && c.allEnded &&
        JobRegistry.entry c.registry "q" = some ⟨.ofNat 0, ⟨0, 0⟩⟩ &&
          ((c.engines ()).timers.trackedFor "q").isEmpty) = true := by decide +kernel
  obtain ⟨c, hc, hfacts⟩ := (Option.any_eq_true _ _).1 hplay
  simp only [Bool.and_eq_true, decide_eq_true_eq, List.isEmpty_iff] at hfacts
  obtain ⟨⟨⟨hdrawn, hended⟩, hentry⟩, hnone⟩ := hfacts
  refine ⟨c, ⟨.empty, fun _ => rfl, steps_of_play hc⟩, by rw [hdrawn]; decide, quiet_of_allEnded hended "q", _, hentry, ?_⟩
  rintro ⟨engine, handle, htracked, _⟩
  rw [hnone] at htracked
  cases htracked

end Cluster

end StandingQuery
