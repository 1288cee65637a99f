import StandingQuery.Proofs.Holding

/-!
# Activations exclude each other

Whatever engines do side by side over one registry that stays whole, with distinct tokens: at most one activation's token is live
for a query; a token that was lost stays lost, so that what begins later with one of its jobs finds it inactive and stops; and
no operation but a cancellation takes an entry that carries a token other than its own (`Cluster.exclusive_of_reachable`).
-/

namespace StandingQuery

namespace Cluster

variable {ι ρ : Type}

/-- Whether the activation that is a thread drew a token. -/
def DrewToken (c : Cluster ι ρ) (k : Nat) (token : Uuid) : Prop :=
  ∃ m, Activation.Drew (past c.log k) m ∧ m.token = token

/-- Whether a token is a thread's own: an activation drew it, or the thread is of a job that carries it. -/
def Owns (c : Cluster ι ρ) (k : Nat) (thread : Thread ι) (token : Uuid) : Prop :=
  c.DrewToken k token ∨ ∃ number job, thread.operation.job? = some (number, job) ∧ job.token = token

variable [JobRegistry ρ]

/-- Whether a token is live for a query: a job that looks finds it confirmed. -/
def Live (c : Cluster ι ρ) (id : String) (token : Uuid) : Prop := JobRegistry.holds c.registry id token = true

variable [DecidableEq ι]

/-- A token that was lost while there were so many threads: it is live for no query, every later tick of a job that carries it
only looks and is inactive, and every later such job that is told its next instant stops. -/
structure Lost (services : ι → Services) (c : Cluster ι ρ) (begun : Nat) (token : Uuid) : Prop where
  dead : ∀ id, ¬c.Live id token
  tick : ∀ k thread number job now, begun ≤ k → c.threads[k]? = some thread → thread.operation = .tick number job now →
    job.token = token → (∀ h ∈ past c.log k, h.action = .look job.query.id) ∧
      (thread.rest = .done (.ticked .inactive job) ∨ past c.log k = [] ∧ (c.next services (.advance k)).isSome)
  afterTick : ∀ k thread number job instant, begun ≤ k → c.threads[k]? = some thread →
    thread.operation = .afterTick number job instant → job.token = token →
      thread.rest = .done (.told .stop) ∨ (c.next services (.advance k)).isSome

/-- How activations exclude each other. -/
structure Exclusive (services : ι → Services) (c : Cluster ι ρ) : Prop where
  /-- At most one activation's token is live for a query. -/
  one : ∀ id k k' token token', c.DrewToken k token → c.DrewToken k' token' → c.Live id token → c.Live id token' → k = k'
  /-- A token that was live and then was not stays lost. -/
  lost : ∀ c₀ c₁ id token, Reachable services c₀ → Steps services c₀ c₁ → Steps services c₁ c → c₀.Live id token →
    ¬c₁.Live id token → c.Lost services c₁.threads.length token
  /-- Only a cancellation, or an operation whose own token it carries, takes an entry. -/
  kept : ∀ k thread c' id m, c.threads[k]? = some thread → (∀ id, thread.operation ≠ .cancel id) →
    c.next services (.advance k) = some c' → JobRegistry.entry c.registry id = some m → ¬c.Owns k thread m.token →
      JobRegistry.entry c'.registry id = some m

omit [DecidableEq ι] [JobRegistry ρ] in
/-- What was read of the entry by the log confirms the token that it carries. -/
theorem confirms_held (log : List (Nat × Happening)) (id : String) (token : Uuid) :
    Marker.confirms (.ok (held log id)) token = carried log id token := by
  unfold carried
  cases held log id <;> rfl

omit [DecidableEq ι] in
/-- A token is live exactly when the entry by the log carries it. -/
theorem Recorded.live_iff {c : Cluster ι ρ} (h : Recorded c) (id : String) (token : Uuid) :
    c.Live id token ↔ carried c.log id token = true := by
  unfold Live JobRegistry.holds
  rw [h.readable, h.entries, confirms_held]

/-- The log only grows. -/
theorem Steps.log_prefix {services : ι → Services} {c c' : Cluster ι ρ} (h : Steps services c c') : c.log <+: c'.log := by
  refine h.invariant (fun c' => c.log <+: c'.log) List.prefix_rfl fun c₁ c₂ hc₁ hc => ?_
  cases hc with
  | start _ _ _ => exact hc₁
  | expire _ _ _ _ => exact hc₁
  | advance _ _ => exact hc₁.trans (List.prefix_append _ _)

omit [DecidableEq ι] in
/-- A thread that begins after a token was lost finds it confirmed by no look. -/
theorem not_confirmed {services : ι → Services} {c : Cluster ι ρ} (hsound : Sound services c) (hrecorded : Recorded c)
    (hdistinct : (drawnTokens c.log).Nodup) {before after : List (Nat × Happening)} (hlog : c.log = before ++ after) {k : Nat}
    {id : String} {m : Marker} (hwon : (k, ⟨.claim id m, .ok true⟩) ∈ before) (hlost : carried before id m.token = false)
    {later : Nat} (hlater : past before later = []) {job : Job} (hjob : job.token = m.token) :
    ¬job.Confirmed (past c.log later) := by
  rintro ⟨read, hhead, hconfirms⟩
  have hmem : (later, ⟨.look job.query.id, read⟩) ∈ before ++ after := by
    rw [← hlog]
    exact mem_past.1 (List.mem_of_head? hhead)
  have hafter : (later, ⟨.look job.query.id, read⟩) ∈ after := by
    rcases List.mem_append.1 hmem with hmem | hmem
    · have := mem_past.2 hmem
      rw [hlater] at this
      cases this
    · exact hmem
  obtain ⟨first, second, rfl⟩ := List.append_of_mem hafter
  have htruthful := hrecorded.truthful (before ++ first) _ second (by rw [hlog, List.append_assoc])
  have hread : read = .ok (held (before ++ first) job.query.id) := htruthful
  rw [hread, confirms_held, hjob] at hconfirms
  have hprefix : before ++ first <+: c.log := ⟨_, by rw [hlog, List.append_assoc]⟩
  rw [hsound.not_carried_again hdistinct hprefix hwon hlost] at hconfirms
  cases hconfirms

namespace Sound

variable {services : ι → Services} {c : Cluster ι ρ}

/-- A tick whose token is not confirmed only looks, and is inactive. -/
theorem tick_of_not_confirmed (h : Sound services c) {k : Nat} {thread : Thread ι} (hk : c.threads[k]? = some thread)
    {number : Nat} {job : Job} {now : Instant} (hop : thread.operation = .tick number job now)
    (hnot : ¬job.Confirmed (past c.log k)) :
    (∀ h ∈ past c.log k, h.action = .look job.query.id) ∧
      (thread.rest = .done (.ticked .inactive job) ∨ past c.log k = [] ∧ (c.next services (.advance k)).isSome) := by
  constructor
  · intro happening hmem
    obtain ⟨before, after, hlog⟩ := List.append_of_mem (mem_past.1 hmem)
    obtain ⟨thread', hk', hasks⟩ := h.asked hlog
    cases hk.symm.trans hk'
    rw [hop] at hasks
    have hnot' : ¬job.Confirmed (past before k) := by
      intro hc
      rw [hlog, past_append] at hnot
      exact hnot (Job.Aux.confirmed_append hc _)
    generalize happening.action = action at hasks ⊢
    cases hasks with
    | look _ => rfl
    | execute confirmed => exact absurd confirmed hnot'
    | deliver confirmed _ _ => exact absurd confirmed hnot'
  · have hkeeps := h.keeps hk
    rw [hop] at hkeeps
    cases hrest : thread.rest with
    | done result =>
      rw [hrest] at hkeeps
      obtain ⟨outcome, job', rfl, _, hconfirmed | ⟨hinactive, _⟩⟩ := hkeeps
      · exact absurd hconfirmed hnot
      · cases hinactive
        exact Or.inl rfl
    | step action next =>
      rw [hrest] at hkeeps
      refine Or.inr ⟨?_, by simp [Cluster.next, hk, hrest]⟩
      cases hkeeps.1 with
      | look first => exact first
      | execute confirmed => exact absurd confirmed hnot
      | deliver confirmed _ _ => exact absurd confirmed hnot

/-- A job whose token is not confirmed when it is told its next instant stops. -/
theorem afterTick_of_not_confirmed (h : Sound services c) {k : Nat} {thread : Thread ι} (hk : c.threads[k]? = some thread)
    {number : Nat} {job : Job} {instant : Option Instant} (hop : thread.operation = .afterTick number job instant)
    (hnot : ¬job.Confirmed (past c.log k)) :
    thread.rest = .done (.told .stop) ∨ (c.next services (.advance k)).isSome := by
  have hkeeps := h.keeps hk
  rw [hop] at hkeeps
  cases hrest : thread.rest with
  | done result =>
    rw [hrest] at hkeeps
    obtain ⟨answer, rfl, hends⟩ := hkeeps
    cases answer with
    | goOn => exact absurd hends hnot
    | stop => exact Or.inl rfl
  | step action next => exact Or.inr (by simp [Cluster.next, hk, hrest])

/-- Entries that carry a token of others stay, unless a cancellation takes them. -/
theorem entry_kept (h : Sound services c) (hrecorded : Recorded c) {k : Nat} {thread : Thread ι}
    (hk : c.threads[k]? = some thread) (hop : ∀ id, thread.operation ≠ .cancel id) {c' : Cluster ι ρ}
    (hrecorded' : Recorded c') (hnext : c.next services (.advance k) = some c') {id : String} {m : Marker}
    (hm : JobRegistry.entry c.registry id = some m) (howns : ¬c.Owns k thread m.token) :
    JobRegistry.entry c'.registry id = some m := by
  have hkeeps := h.keeps hk
  rw [hrecorded.entries] at hm
  rw [hrecorded'.entries]
  simp only [Cluster.next, hk] at hnext
  split at hnext
  · rename_i action next hrest
    cases hnext
    rw [hrest] at hkeeps
    have htruthful := hrecorded'.truthful c.log _ [] rfl
    simp only [advance, held_snoc, hm]
    refine Happening.leaves_of_some htruthful hm ?_ ?_
    · rintro rfl
      exact hop id (Operation.asks_remove hkeeps.1).1
    · rintro rfl
      rcases Operation.asks_removeIfOwned hkeeps.1 with ⟨m', hdrew, _, htoken⟩ | ⟨number, job, hjob, _, htoken⟩
      · exact howns (Or.inl ⟨m', hdrew, htoken⟩)
      · exact howns (Or.inr ⟨number, job, hjob, htoken⟩)
  · cases hnext

end Sound

/-- In every reachable cluster whose activations drew distinct tokens, activations exclude each other. -/
theorem exclusive_of_reachable [JobRegistry.Durable ρ] {services : ι → Services} (hstoring : Storing ρ services)
    {c : Cluster ι ρ} (h : Reachable services c) (hdistinct : (drawnTokens c.log).Nodup) : Exclusive services c := by
  have hsound := Sound.of_reachable h
  have hrecorded := Recorded.of_reachable hstoring h
  refine ⟨?_, ?_, ?_⟩
  · rintro id k k' token token' ⟨m, hdrew, rfl⟩ ⟨m', hdrew', rfl⟩ hlive hlive'
    obtain ⟨found, hfound, htoken⟩ := carried_iff.1 ((hrecorded.live_iff id m.token).1 hlive)
    obtain ⟨found', hfound', htoken'⟩ := carried_iff.1 ((hrecorded.live_iff id m'.token).1 hlive')
    cases hfound.symm.trans hfound'
    exact Sound.eq_of_drew hdistinct hdrew hdrew' (htoken.symm.trans htoken')
  · intro c₀ c₁ id token hreach₀ hsteps₀ hsteps₁ hlive₀ hlive₁
    have hrecorded₀ := Recorded.of_reachable hstoring hreach₀
    have hsound₁ := Sound.of_reachable (hreach₀.steps hsteps₀)
    have hrecorded₁ := Recorded.of_reachable hstoring (hreach₀.steps hsteps₀)
    obtain ⟨m, hheld, rfl⟩ := carried_iff.1 ((hrecorded₀.live_iff id token).1 hlive₀)
    obtain ⟨k, hwon⟩ := won_of_held hheld
    have hwon₁ : (k, ⟨.claim id m, .ok true⟩) ∈ c₁.log := hsteps₀.log_prefix.subset hwon
    have hlost : carried c₁.log id m.token = false := by
      rw [← Bool.not_eq_true]
      exact fun hcarried => hlive₁ ((hrecorded₁.live_iff id m.token).2 hcarried)
    obtain ⟨after, hlog⟩ := hsteps₁.log_prefix
    have hnot : ∀ (later : Nat) (job : Job), c₁.threads.length ≤ later → job.token = m.token →
        ¬job.Confirmed (past c.log later) :=
      fun later job hlater hjob =>
        not_confirmed hsound hrecorded hdistinct hlog.symm hwon₁ hlost (hsound₁.past_eq_nil hlater) hjob
    refine ⟨fun other hlive => ?_, ?_, ?_⟩
    · have hcarried := (hrecorded.live_iff other m.token).1 hlive
      rw [← hlog, hsound.not_carried_again hdistinct (hlog ▸ List.prefix_rfl) hwon₁ hlost] at hcarried
      cases hcarried
    · intro later thread number job now hlater hthread hop hjob
      exact hsound.tick_of_not_confirmed hthread hop (hnot later job hlater hjob)
    · intro later thread number job instant hlater hthread hop hjob
      exact hsound.afterTick_of_not_confirmed hthread hop (hnot later job hlater hjob)
  · intro k thread c' id m hthread hop hnext hm howns
    have hrecorded' := Recorded.of_reachable hstoring (h.steps (.next .refl _ hnext))
    exact hsound.entry_kept hrecorded hthread hop hrecorded' hnext hm howns

/-- One engine activates a query, another cancels it and activates it again, and the job of the first begins a tick: the token
of the first is lost, and that of the second is live. -/
theorem exclusive_after_takeover :
    ∃ c : Cluster Bool MemoryRegistry, Reachable Sample.services c ∧ drawnTokens c.log = [.ofNat 0, .ofNat 1] ∧
      ¬c.Live "q" (.ofNat 0) ∧ c.Live "q" (.ofNat 1) ∧ Exclusive Sample.services c := by
  have hplay : ((play Sample.services
      [.activate false .once Sample.query, .advance 0, .advance 0, .advance 0, .advance 0, .cancel true "q", .advance 1,
        .advance 1, .activate true .retrying Sample.query, .advance 2, .advance 2, .advance 2, .advance 2,
        .tick false 0 ⟨1772629500, 0⟩, .advance 3] (fresh MemoryRegistry.empty)).any fun c =>
      drawnTokens c.log = [.ofNat 0, .ofNat 1] && !JobRegistry.holds c.registry "q" (.ofNat 0) &&
        JobRegistry.holds c.registry "q" (.ofNat 1)) = true := by decide +kernel
  obtain ⟨c, hc, hfacts⟩ := (Option.any_eq_true _ _).1 hplay
  simp only [Bool.and_eq_true, decide_eq_true_eq, Bool.not_eq_true'] at hfacts
  obtain ⟨⟨hdrawn, hdead⟩, hlive⟩ := hfacts
  have hreach : Reachable Sample.services c := ⟨.empty, fun _ => rfl, steps_of_play hc⟩
  refine ⟨c, hreach, hdrawn, Bool.eq_false_iff.1 hdead, hlive, exclusive_of_reachable (storing_of_faultFree _) hreach ?_⟩
  rw [hdrawn]
  decide

end Cluster

end StandingQuery
