import StandingQuery.Proofs.EmbeddedQueries
import StandingQuery.Proofs.RegistryKinds
import StandingQuery.Proofs.Reports

/-!
# Claims over a link that lags

A link lags for a query if the next so many claims of it meet a conflict that is none (`Unreliable.LagsFor`). Over such a link an
activation that tries again wins its entry if there is none and the link has caught up within the attempts; otherwise it makes
every attempt and changes nothing (`Activation.activate_run_of_free`, `Activation.activate_run_of_conflict`).
-/

namespace StandingQuery

open JobRegistry EngineState

namespace Unreliable

variable {ρ : Type}

/-- The number of claims of a query that were made through the link. -/
def tried (u : Unreliable ρ) (id : String) : Nat := u.claims.countP fun c => c.queryId == id

/-- The link lets every call through, and the next so many claims of a query meet a conflict that is none. -/
structure LagsFor (u : Unreliable ρ) (id : String) (k : Nat) : Prop where
  refuses : ∀ call, u.refuses call = false
  stale : ∀ later, u.stale (u.passed ++ later) id = decide (later.countP (fun c => c.queryId == id) < k)

variable {u : Unreliable ρ} {id other : String} {k : Nat}

theorem passed_of_claims {u' : Unreliable ρ} {new : List ClaimMade} (h : u'.claims = u.claims ++ new) :
    u'.passed = u.passed ++ new.filter fun c => c.result != .refused := by
  unfold passed
  rw [h, List.filter_append]

theorem countP_of_ne (h : other ≠ id) {new : List ClaimMade} (hnew : ∀ c ∈ new, c.queryId = id) :
    new.countP (fun c => c.queryId == other) = 0 := by
  rw [List.countP_eq_length_filter, filter_of_ne h hnew, List.length_nil]

/-- What is stale for a query depends on its own claims, on a link that lags for every query. -/
theorem localFrom_of_lags (h : ∀ id, u.LagsFor id k) : LocalFrom u.passed u.stale := by
  intro later later' id hsame
  rw [(h id).stale, (h id).stale, List.countP_eq_length_filter, List.countP_eq_length_filter, hsame]

variable [JobRegistry ρ]

theorem LagsFor.get_eq (h : u.LagsFor id k) (other : String) : JobRegistry.get u other = JobRegistry.get u.registry other := by
  simp [JobRegistry.get, h.refuses]

theorem LagsFor.entry_eq (h : u.LagsFor id k) (other : String) : entry u other = entry u.registry other := by
  unfold entry
  rw [h.get_eq]

/-- An edit of one entry makes no claim of another. -/
theorem tried_edit_of_ne (hother : other ≠ id) (u : Unreliable ρ) (e : Edit) : (edit u id e).2.tried other = u.tried other := by
  obtain ⟨-, -, -, new, hclaims, hnew⟩ := edit_frame u id e
  unfold tried
  rw [hclaims, List.countP_append, countP_of_ne hother hnew]
  rfl

/-- A link goes on lagging for a query while others are seen to. -/
theorem LagsFor.edit_of_ne (h : u.LagsFor other k) (hother : other ≠ id) (e : Edit) : (edit u id e).2.LagsFor other k := by
  obtain ⟨-, hrefuses, hstale, new, hclaims, hnew⟩ := edit_frame u id e
  refine ⟨hrefuses ▸ h.refuses, fun later => ?_⟩
  rw [passed_of_claims hclaims, hstale, List.append_assoc, h.stale, List.countP_append,
    countP_of_ne hother fun c hc => hnew c (List.mem_filter.1 hc).1, Nat.zero_add]

/-- To remove an entry makes no claim. -/
theorem LagsFor.remove (h : u.LagsFor other k) (id : String) :
    (JobRegistry.remove u id).2.LagsFor other k ∧ (JobRegistry.remove u id).2.tried other = u.tried other := by
  simp only [JobRegistry.remove, h.refuses, Bool.false_eq_true, if_false]
  exact ⟨⟨h.refuses, h.stale⟩, rfl⟩

/-- A registry behind a link that lets every call through can be cleared if the one behind it can. -/
theorem clears (hrefuses : ∀ call, u.refuses call = false) (h : Clears u.registry) : Clears u := by
  intro past id
  have hkept : (∀ call, (edited u past).refuses call = false) ∧ Clears (edited u past).registry := by
    refine (EditedFor.edited u past).keeps
      (fun v : Unreliable ρ => (∀ call, v.refuses call = false) ∧ Clears v.registry) ?_ ⟨hrefuses, h⟩
    rintro id - e v ⟨hv, hclears⟩
    obtain ⟨hregistry, hsame, -⟩ := edit_frame v id e
    exact ⟨hsame ▸ hv, hregistry.clears hclears⟩
  generalize edited u past = v at hkept
  obtain ⟨hv, hclears⟩ := hkept
  simpa [JobRegistry.remove, JobRegistry.get, hv, edited] using hclears [] id

omit [JobRegistry ρ] in
/-- A claim that was let through is one of those that meet a conflict, as long as there are any. -/
theorem LagsFor.noted (h : u.LagsFor id k) (m : Marker) (entered : Bool) :
    (u.noted id (.claim m) (.ok entered)).LagsFor id (k - 1) ∧
      (u.noted id (.claim m) (.ok entered)).tried id = u.tried id + 1 := by
  obtain ⟨c, hc, hid, hresult⟩ : ∃ c, claimMade id (.claim m) (.ok entered) = [c] ∧ c.queryId = id ∧ c.result ≠ .refused := by
    cases entered
    · exact ⟨⟨id, m.token, .conflict⟩, rfl, rfl, nofun⟩
    · exact ⟨⟨id, m.token, .entered⟩, rfl, rfl, nofun⟩
  refine ⟨⟨h.refuses, fun later => ?_⟩, ?_⟩
  · have hstale := h.stale (c :: later)
    rw [passed_noted, hc, List.append_assoc]
    simp only [List.countP_cons, hid, beq_self_eq_true, if_true] at hstale
    simp only [List.filter_cons, bne_iff_ne.2 hresult, if_true, List.filter_nil, List.singleton_append]
    exact hstale.trans (decide_eq_decide.2 (by omega))
  · unfold tried Unreliable.noted
    rw [List.countP_append, hc]
    simp [hid]

variable [FaultFree ρ]

/-- A claim over a link that lags meets a conflict, unless the link has caught up and there is no entry. -/
theorem LagsFor.claim (h : u.LagsFor id k) (m : Marker) :
    (putIfAbsent u id m).1 = .ok (decide (k = 0) && (entry u id).isNone) ∧
      (putIfAbsent u id m).2.LagsFor id (k - 1) ∧ (putIfAbsent u id m).2.tried id = u.tried id + 1 ∧
      entry (putIfAbsent u id m).2 id = if k = 0 ∧ entry u id = none then some m else entry u id := by
  have hstale := h.stale []
  rw [List.append_nil, List.countP_nil] at hstale
  have hedit := edit_eq u id (.claim m)
  simp only [edit, linkAnswer?, h.refuses, hstale, Bool.false_eq_true, if_false, decide_eq_true_eq] at hedit
  rw [hedit]
  by_cases hk : k = 0
  · subst hk
    rw [if_neg (Nat.lt_irrefl 0)]
    simp only [FaultFree.claim_answer]
    obtain ⟨hlags, htried⟩ :=
      LagsFor.noted (u := { u with registry := (putIfAbsent u.registry id m).2 }) ⟨h.refuses, h.stale⟩ m
        (entry u.registry id).isNone
    refine ⟨by simp [h.entry_eq], hlags, htried, ?_⟩
    rw [hlags.entry_eq, h.entry_eq]
    exact (FaultFree.claim_entry u.registry id m id).trans (by simp)
  · rw [if_pos (Nat.pos_of_ne_zero hk)]
    obtain ⟨hlags, htried⟩ := h.noted m false
    refine ⟨by simp [hk], hlags, htried, ?_⟩
    rw [hlags.entry_eq, h.entry_eq, if_neg (fun hboth => hk hboth.1)]
    rfl

end Unreliable

namespace Services

variable {services : Services} {calls : Nat}

/-- A scheduler that accepts every timer starts one for each schedule and refuses none. -/
theorem admitted_of_accepts (h : ∀ n, calls ≤ n → services.admits n = .ok ()) (schedules : List Schedule) :
    services.admitted calls schedules = schedules ∧ services.refusals calls schedules = [] := by
  induction schedules generalizing calls with
  | nil => exact ⟨rfl, rfl⟩
  | cons schedule rest ih =>
    obtain ⟨hadmitted, hrefused⟩ := ih fun n hn => h n (Nat.le_of_succ_le hn)
    obtain ⟨hfirst, hfirst'⟩ := services.admitted_cons_ok (h calls le_rfl) schedule rest
    exact ⟨by rw [hfirst, hadmitted], by rw [hfirst', hrefused]⟩

end Services

namespace Activation

variable {ρ : Type} [JobRegistry ρ] [FaultFree ρ] (services : Services) {s : EngineState (Unreliable ρ)} {id : String} {k : Nat}

/-- A claim where there is no entry enters the marker, once the link has caught up. -/
theorem claimOnce_run_of_caughtUp (h : s.registry.LagsFor id 0) (hfree : entry s.registry id = none) (m : Marker) :
    ((claimOnce id m).run services s).1 = .ok () ∧ entry ((claimOnce id m).run services s).2.registry id = some m := by
  obtain ⟨hanswer, -, -, hentry⟩ := h.claim m
  rw [hfree] at hanswer hentry
  unfold claimOnce
  rw [Program.run_bind, Program.run_ask]
  simp only [EngineState.perform, hanswer]
  exact ⟨rfl, hentry.trans (if_pos ⟨rfl, rfl⟩)⟩

/-- A claim where there is an entry, or before the link has caught up, changes no entry; the link comes one claim closer. -/
theorem claimOnce_run_of_conflict (h : s.registry.LagsFor id k) (hconflict : ¬(k = 0 ∧ entry s.registry id = none)) (m : Marker) :
    let ran := (claimOnce id m).run services s
    ran.1 = .error ⟨alreadyScheduled⟩ ∧ ran.2.registry.LagsFor id (k - 1) ∧
      ran.2.registry.tried id = s.registry.tried id + 1 ∧ entry ran.2.registry id = entry s.registry id := by
  obtain ⟨hanswer, hlags, htried, hentry⟩ := h.claim m
  have hfalse : (decide (k = 0) && (entry s.registry id).isNone) = false := by
    rw [Bool.eq_false_iff]
    simpa using hconflict
  rw [hfalse] at hanswer
  unfold claimOnce
  rw [Program.run_bind, Program.run_ask]
  simp only [EngineState.perform, hanswer]
  exact ⟨rfl, hlags, htried, hentry.trans (if_neg hconflict)⟩

/-- Attempts to claim where there is no entry enter the marker once the link has caught up. -/
theorem attempts_run_of_free (h : s.registry.LagsFor id k) (hfree : entry s.registry id = none) (m : Marker) (ms : Nat)
    {n : Nat} (hk : k ≤ n) :
    let ran := (RetryPolicy.attempts (Program.ask (.sleep ms)) (claimOnce id m) (n + 1)).run services s
    ran.1 = .ok () ∧ entry ran.2.registry id = some m := by
  induction n generalizing s k with
  | zero =>
    obtain rfl := Nat.le_zero.1 hk
    exact claimOnce_run_of_caughtUp services h hfree m
  | succ n ih =>
    unfold RetryPolicy.attempts
    rw [Program.run_bind]
    by_cases hcaught : k = 0
    · subst hcaught
      obtain ⟨hanswer, hentry⟩ := claimOnce_run_of_caughtUp services h hfree m
      rw [hanswer]
      exact ⟨rfl, hentry⟩
    · obtain ⟨hanswer, hlags, -, hentry⟩ := claimOnce_run_of_conflict services h (fun hboth => hcaught hboth.1) m
      rw [hanswer]
      simp only
      rw [Program.run_bind, Program.run_ask]
      exact ih hlags (hentry.trans hfree) (by omega)

/-- Attempts to claim where there is an entry, or of which the link needs all to catch up, are all made and change no entry. -/
theorem attempts_run_of_conflict (m : Marker) (ms n : Nat) (h : s.registry.LagsFor id k)
    (hconflict : ¬(entry s.registry id = none ∧ k ≤ n)) :
    let ran := (RetryPolicy.attempts (Program.ask (.sleep ms)) (claimOnce id m) (n + 1)).run services s
    ran.1 = .error ⟨alreadyScheduled⟩ ∧ ran.2.registry.tried id = s.registry.tried id + (n + 1) ∧
      entry ran.2.registry id = entry s.registry id := by
  induction n generalizing s k with
  | zero =>
    obtain ⟨hanswer, -, htried, hentry⟩ :=
      claimOnce_run_of_conflict services h (fun hboth => hconflict ⟨hboth.2, hboth.1.le⟩) m
    exact ⟨hanswer, htried, hentry⟩
  | succ n ih =>
    obtain ⟨hanswer, hlags, htried, hentry⟩ :=
      claimOnce_run_of_conflict services h (fun hboth => hconflict ⟨hboth.2, hboth.1.trans_le (Nat.zero_le _)⟩) m
    unfold RetryPolicy.attempts
    rw [Program.run_bind, hanswer]
    simp only
    rw [Program.run_bind, Program.run_ask]
    have hslept : (((claimOnce id m).run services s).2.perform services (.sleep ms)).2.registry =
        ((claimOnce id m).run services s).2.registry := rfl
    rw [← hslept] at hlags htried hentry
    obtain ⟨hlater, htried', hentry'⟩ := ih hlags fun hboth => hconflict ⟨hentry.symm.trans hboth.1, by omega⟩
    exact ⟨hlater, by rw [htried', htried]; omega, hentry'.trans hentry⟩

/-- A claim that is tried again enters the marker if there is no entry and the link catches up within the attempts. -/
theorem claim_run_of_free (h : s.registry.LagsFor id k) (hfree : entry s.registry id = none)
    (hk : k < services.retry.maxAttempts) (m : Marker) :
    ((claim services .retrying id m).run services s).1 = .ok () ∧
      entry ((claim services .retrying id m).run services s).2.registry id = some m := by
  obtain ⟨n, hn⟩ : ∃ n, services.retry.maxAttempts = n + 1 := ⟨_, (Nat.succ_pred_eq_of_pos (Nat.zero_lt_of_lt hk)).symm⟩
  obtain ⟨hanswer, hentry⟩ := attempts_run_of_free services h hfree m services.retry.delayMs (n := n) (by omega)
  unfold claim RetryPolicy.run
  rw [hn, Program.run_bind, hanswer]
  exact ⟨rfl, hentry⟩

/-- A claim that is tried again is tried as often as it may be and changes no entry, if there is one or the link does not catch up
within the attempts. -/
theorem claim_run_of_conflict (hattempts : 1 ≤ services.retry.maxAttempts) (h : s.registry.LagsFor id k)
    (hconflict : ¬(entry s.registry id = none ∧ k < services.retry.maxAttempts)) (m : Marker) :
    let ran := (claim services .retrying id m).run services s
    ran.1 = .error ⟨RetryPolicy.exhausted services.retry.maxAttempts alreadyScheduled⟩ ∧
      ran.2.registry.tried id = s.registry.tried id + services.retry.maxAttempts ∧
      entry ran.2.registry id = entry s.registry id := by
  obtain ⟨n, hn⟩ : ∃ n, services.retry.maxAttempts = n + 1 := ⟨_, (Nat.succ_pred_eq_of_pos hattempts).symm⟩
  obtain ⟨hanswer, htried, hentry⟩ :=
    attempts_run_of_conflict services m services.retry.delayMs n h fun hboth => hconflict ⟨hboth.1, by omega⟩
  unfold claim RetryPolicy.run
  simp only
  rw [hn, Program.run_bind, hanswer]
  exact ⟨rfl, htried, hentry⟩

/-- A query that can be started: it has a schedule that is valid and switched on, and its expression is accepted. -/
structure Startable (query : StoredQuery) : Prop where
  enabled : enabled (checked query) ≠ []
  valid : services.runner.validate query.expression = .ok ()

variable {services} {query : StoredQuery}

/-- A query that can be started is started where there is no entry and the link catches up within the attempts: it gets the marker
drawn for it and a timer for every schedule, and only the schedules that are not valid are reported. -/
theorem activate_run_of_free (hstartable : Startable services query)
    (haccepts : ∀ n, s.scheduleCalls ≤ n → services.admits n = .ok ()) (h : s.registry.LagsFor query.id k)
    (hfree : entry s.registry query.id = none) (hk : k < services.retry.maxAttempts) :
    let ran := (activate services .retrying query).run services s
    ran.1 = Outcome.all ((checked query).map Outcome.discard) ∧
      entry ran.2.registry query.id = some (services.draw s.drawn) ∧ s.drawn < ran.2.drawn ∧
      s.startedSince ran.2 =
        jobsFor query (services.draw s.drawn).token s.timers.handles.length (enabled (checked query)) := by
  obtain ⟨r, w, hclaimed, -⟩ :=
    claim_run_eq services .retrying query.id (services.draw s.drawn) { s with drawn := s.drawn + 1 }
  obtain ⟨hanswer, hentry⟩ := claim_run_of_free services (s := { s with drawn := s.drawn + 1 }) h hfree hk (services.draw s.drawn)
  obtain ⟨hadmitted, hrefused⟩ := Services.admitted_of_accepts haccepts (enabled (checked query))
  rw [hclaimed] at hentry
  intro ran
  have hran : ran = _ := activate_run_eq services .retrying query s
  rw [if_neg (by simpa using hstartable.enabled), hstartable.valid] at hran
  simp only [hclaimed, hanswer, startTimers_run, hadmitted] at hran
  rw [if_neg hstartable.enabled] at hran
  rw [hran]
  refine ⟨?_, hentry, Nat.lt_succ_self _, ?_⟩
  · refine Outcome.all_congr ?_
    rw [Outcome.messages_append, services.answers_messages, hrefused, List.map_nil, List.append_nil]
  · unfold startedSince starting
    simp only [hadmitted]
    rw [List.drop_left]

/-- A query that can be started is left as it is where there is an entry, or where the link does not catch up within the attempts:
every attempt is made, and the last is reported. -/
theorem activate_run_of_conflict (hstartable : Startable services query) (hattempts : 1 ≤ services.retry.maxAttempts)
    (h : s.registry.LagsFor query.id k)
    (hconflict : ¬(entry s.registry query.id = none ∧ k < services.retry.maxAttempts)) :
    let ran := (activate services .retrying query).run services s
    ran.1 = Outcome.all ((checked query).map Outcome.discard ++
        [.error ⟨RetryPolicy.exhausted services.retry.maxAttempts alreadyScheduled⟩]) ∧
      entry ran.2.registry query.id = entry s.registry query.id ∧
      ran.2.registry.tried query.id = s.registry.tried query.id + services.retry.maxAttempts ∧
      ran.2.timers = s.timers ∧ ran.2.jobs = s.jobs := by
  obtain ⟨r, w, hclaimed, -⟩ :=
    claim_run_eq services .retrying query.id (services.draw s.drawn) { s with drawn := s.drawn + 1 }
  obtain ⟨hanswer, htried, hentry⟩ := claim_run_of_conflict services (s := { s with drawn := s.drawn + 1 }) hattempts h hconflict
    (services.draw s.drawn)
  rw [hclaimed] at htried hentry
  intro ran
  have hran : ran = _ := activate_run_eq services .retrying query s
  rw [if_neg (by simpa using hstartable.enabled), hstartable.valid] at hran
  simp only [hclaimed, hanswer] at hran
  rw [hran]
  exact ⟨rfl, hentry, htried, rfl, rfl⟩

end Activation

end StandingQuery
