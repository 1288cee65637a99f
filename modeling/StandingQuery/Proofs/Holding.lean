import Mathlib.Data.List.Induction
import Mathlib.Data.List.Pairwise
import StandingQuery.Proofs.Cluster

/-!
# What the registry holds, by the log

Over a registry that stays whole, the entry of every query is decided by the log: `Cluster.held` replays it, and
`Cluster.Recorded` says that the registry agrees with the replay and that every answer in the log does. A token is drawn once
when the tokens drawn are distinct, so that its activation is known by it, wins an entry with it once (`Sound.wins_nodup`),
and once the entry is lost the token is held nowhere again (`Sound.not_carried_again`).
-/

namespace StandingQuery

namespace Happening

/-- What a step leaves of the entry of a query. -/
def leaves (id : String) (entry : Option Marker) : Happening → Option Marker
  | ⟨.claim other m, .ok true⟩ => if id = other then some m else entry
  | ⟨.remove other, _⟩ => if id = other then none else entry
  | ⟨.removeIfOwned other _, .ok true⟩ => if id = other then none else entry
  | _ => entry

/-- Whether a step of the registry was answered by the entries that it held. -/
def Truthful (held : String → Option Marker) : Happening → Prop
  | ⟨.look id, read⟩ => read = .ok (held id)
  | ⟨.claim id _, answer⟩ => answer = .ok (held id).isNone
  | ⟨.removeIfOwned id token, answer⟩ => answer = .ok ((held id).any fun m => m.token == token)
  | _ => True

/-- The token that a step drew, if it drew one. -/
def drawn? : Happening → Option Uuid
  | ⟨.draw, m⟩ => some m.token
  | _ => none

/-- The token with which a step won an entry, if it won one. -/
def won? : Happening → Option Uuid
  | ⟨.claim _ m, .ok true⟩ => some m.token
  | _ => none

/-- An entry after a step was won by the step, or was there before. -/
theorem leaves_eq_some {id : String} {entry : Option Marker} {m : Marker} {h : Happening} (hl : h.leaves id entry = some m) :
    h = ⟨.claim id m, .ok true⟩ ∨ entry = some m := by
  unfold leaves at hl
  split at hl
  · split at hl
    · cases hl
      subst id
      exact Or.inl rfl
    · exact Or.inr hl
  · split at hl
    · cases hl
    · exact Or.inr hl
  · split at hl
    · cases hl
    · exact Or.inr hl
  · exact Or.inr hl

/-- An entry stays unless a step removes it, or removes it for the sake of its own token. -/
theorem leaves_of_some {held : String → Option Marker} {id : String} {m : Marker} {h : Happening} (ht : h.Truthful held)
    (hm : held id = some m) (hremove : h.action ≠ .remove id) (howned : h.action ≠ .removeIfOwned id m.token) :
    h.leaves id (some m) = some m := by
  unfold leaves
  split
  · rename_i other m'
    by_cases hid : id = other
    · subst hid
      have hfree : true = (held id).isNone := Except.ok.inj ht
      rw [hm] at hfree
      cases hfree
    · rw [if_neg hid]
  · rename_i other answer
    exact if_neg fun hid => hremove (by rw [hid])
  · rename_i other token
    by_cases hid : id = other
    · subst hid
      have hcarries : true = (held id).any fun m => m.token == token := Except.ok.inj ht
      rw [hm, Option.any_some, eq_comm, beq_iff_eq] at hcarries
      exact absurd (by rw [hcarries]) howned
    · rw [if_neg hid]
  · rfl

/-- A step won an entry with a token exactly when it is a claim that was granted. -/
theorem won?_eq_some {h : Happening} {token : Uuid} :
    h.won? = some token ↔ ∃ id m, h = ⟨.claim id m, .ok true⟩ ∧ m.token = token := by
  constructor
  · intro hw
    unfold won? at hw
    split at hw
    · cases hw
      exact ⟨_, _, rfl, rfl⟩
    · cases hw
  · rintro ⟨id, m, rfl, rfl⟩
    rfl

end Happening

namespace JobRegistry

/-- An edit as a step of an engine. -/
def Edit.happening (id : String) (e : Edit) (answer : Except SchedulerError Bool) : Happening :=
  match e with
  | .claim m => ⟨.claim id m, answer⟩
  | .remove => ⟨.remove id, answer⟩
  | .giveUp token => ⟨.removeIfOwned id token, answer⟩

/-- An edit that is answered by the entry of its query leaves the entry that follows. -/
theorem Edit.leaves_happening (id : String) (e : Edit) (found : Option Marker) :
    Happening.leaves id found (e.happening id (.ok (editEntry e found).1)) = (editEntry e found).2 := by
  cases e with
  | claim m => cases found <;> simp [happening, Happening.leaves, editEntry]
  | remove => simp [happening, Happening.leaves, editEntry]
  | giveUp token =>
    simp only [happening, editEntry]
    split <;> simp [Happening.leaves]

/-- An edit leaves the entries of all other queries. -/
theorem Edit.leaves_happening_of_ne {id other : String} (h : other ≠ id) (e : Edit) (found : Option Marker)
    (answer : Except SchedulerError Bool) : Happening.leaves other found (e.happening id answer) = found := by
  cases e with
  | claim m =>
    obtain _ | _ | _ := answer
    · rfl
    · rfl
    · exact if_neg h
  | remove => exact if_neg h
  | giveUp token =>
    obtain _ | _ | _ := answer
    · rfl
    · rfl
    · exact if_neg h

/-- An edit that is answered by the entry of its query is answered by the entries. -/
theorem Edit.truthful_happening (held : String → Option Marker) (id : String) (e : Edit) :
    Happening.Truthful held (e.happening id (.ok (editEntry e (held id)).1)) := by
  cases e with
  | claim m => cases hfound : held id <;> simp [happening, Happening.Truthful, editEntry, hfound]
  | remove => trivial
  | giveUp token =>
    simp only [happening, editEntry, Happening.Truthful]
    split <;> simp_all

variable {ρ : Type} [JobRegistry ρ] [Durable ρ]

/-- An edit of a registry that is whole is answered by the entries and leaves what it is said to leave, and the registry stays
whole if a marker that is claimed can be stored. -/
theorem edit_happening {r : ρ} (hwhole : Durable.Whole r) (id : String) {e : Edit}
    (hstorable : ∀ m, e = .claim m → Durable.Storable ρ m) :
    Happening.Truthful (entry r) (e.happening id (edit r id e).1) ∧ Durable.Whole (edit r id e).2 ∧
      ∀ other, entry (edit r id e).2 other = Happening.leaves other (entry r other) (e.happening id (edit r id e).1) := by
  rw [Durable.edit_answer hwhole]
  refine ⟨e.truthful_happening (entry r) id, Durable.edit_whole hwhole id hstorable, fun other => ?_⟩
  rw [Durable.edit_entry hwhole id hstorable]
  split
  · rename_i hother
    rw [hother, e.leaves_happening]
  · rename_i hother
    rw [e.leaves_happening_of_ne hother]

end JobRegistry

namespace EngineState

variable {ρ : Type} [JobRegistry ρ] [JobRegistry.Durable ρ]

open JobRegistry

/-- An atomic step of an engine over a registry that is whole: it is answered by the entries, it leaves what it is said to leave,
and the registry stays whole if a marker that is claimed can be stored. -/
theorem perform_registry (services : Services) (s : EngineState ρ) (hwhole : Durable.Whole s.registry) {action : Action}
    (hstorable : ∀ id m, action = .claim id m → Durable.Storable ρ m) :
    Happening.Truthful (entry s.registry) ⟨action, (s.perform services action).1⟩ ∧
      Durable.Whole (s.perform services action).2.registry ∧
      ∀ id, entry (s.perform services action).2.registry id =
        Happening.leaves id (entry s.registry id) ⟨action, (s.perform services action).1⟩ := by
  cases action with
  | look id => exact ⟨Durable.get_eq hwhole id, hwhole, fun _ => rfl⟩
  | claim id m =>
    refine edit_happening hwhole id (e := .claim m) fun entered hentered => hstorable id entered ?_
    rw [Edit.claim.inj hentered]
  | remove id => exact edit_happening hwhole id (e := .remove) nofun
  | removeIfOwned id token => exact edit_happening hwhole id (e := .giveUp token) nofun
  | schedule job =>
    have hregistry : (s.schedule services job).2.registry = s.registry := by
      unfold schedule
      split <;> rfl
    refine ⟨trivial, ?_, fun id => ?_⟩
    · simpa only [perform, hregistry] using hwhole
    · simp only [perform, hregistry]
      rfl
  | _ => exact ⟨trivial, hwhole, fun _ => rfl⟩

end EngineState

namespace Operation

/-- What an engine remembers of an operation is nothing of the registry. -/
@[simp] theorem conclude_registry {ρ : Type} [JobRegistry ρ] (operation : Operation) (rest : Program Result)
    (s : EngineState ρ) : (operation.conclude rest s).registry = s.registry := by
  unfold conclude
  split <;> rfl

/-- What an engine remembers of an operation is nothing of the catalog. -/
@[simp] theorem conclude_requests {ρ : Type} [JobRegistry ρ] (operation : Operation) (rest : Program Result)
    (s : EngineState ρ) : (operation.conclude rest s).requests = s.requests := by
  unfold conclude
  split <;> rfl

end Operation

namespace Cluster

/-- The entry of a query by the log of all steps. -/
def held (log : List (Nat × Happening)) (id : String) : Option Marker :=
  log.foldl (fun entry e => e.2.leaves id entry) none

/-- Whether the entry of a query by the log carries a token. -/
def carried (log : List (Nat × Happening)) (id : String) (token : Uuid) : Bool := (held log id).any fun m => m.token == token

/-- The tokens drawn by the log, in order. -/
def drawnTokens (log : List (Nat × Happening)) : List Uuid := log.filterMap fun e => e.2.drawn?

/-- The tokens with which entries were won by the log, in order. -/
def wonTokens (log : List (Nat × Happening)) : List Uuid := log.filterMap fun e => e.2.won?

theorem held_snoc (log : List (Nat × Happening)) (e : Nat × Happening) (id : String) :
    held (log ++ [e]) id = e.2.leaves id (held log id) := by
  unfold held
  rw [List.foldl_append]
  rfl

theorem carried_iff {log : List (Nat × Happening)} {id : String} {token : Uuid} :
    carried log id token = true ↔ ∃ m, held log id = some m ∧ m.token = token := by
  unfold carried
  rw [Option.any_eq_true]
  simp only [beq_iff_eq]

/-- An entry by the log was won. -/
theorem won_of_held {log : List (Nat × Happening)} {id : String} {m : Marker} (h : held log id = some m) :
    ∃ k, (k, ⟨.claim id m, .ok true⟩) ∈ log := by
  induction log using List.reverseRecOn with
  | nil => cases h
  | append_singleton log e ih =>
    rw [held_snoc] at h
    rcases Happening.leaves_eq_some h with he | hbefore
    · exact ⟨e.1, List.mem_append_right _ (List.mem_singleton.2 (by rw [← he]))⟩
    · obtain ⟨k, hk⟩ := ih hbefore
      exact ⟨k, List.mem_append_left _ hk⟩

/-- Of values that come one from each element of a list, and are distinct, each comes from one element only. -/
theorem eq_of_filterMap_nodup {α β : Type} {f : α → Option β} {l : List α} (h : (l.filterMap f).Nodup) {a b : α} {x : β}
    (ha : a ∈ l) (hb : b ∈ l) (hfa : f a = some x) (hfb : f b = some x) : a = b := by
  by_contra hne
  have hpairs : l.Pairwise fun a b => ∀ x, f a = some x → ∀ y, f b = some y → x ≠ y := List.pairwise_filterMap.1 h
  have : Std.Symm fun a b => ∀ x, f a = some x → ∀ y, f b = some y → x ≠ y :=
    ⟨fun a b hab x hx y hy hxy => hab y hy x hx hxy.symm⟩
  exact hpairs.forall ha hb hne x hfa x hfb rfl

variable {ι ρ : Type} [JobRegistry ρ]

/-- The registry agrees with the log, and so does every answer in the log. -/
structure Recorded (c : Cluster ι ρ) : Prop where
  readable : ∀ id, JobRegistry.get c.registry id = .ok (JobRegistry.entry c.registry id)
  entries : ∀ id, JobRegistry.entry c.registry id = held c.log id
  truthful : ∀ before e after, c.log = before ++ e :: after → e.2.Truthful (held before)

/-- The registry is whole, and every marker drawn can be stored. -/
structure Stored [JobRegistry.Durable ρ] (c : Cluster ι ρ) : Prop where
  whole : JobRegistry.Durable.Whole c.registry
  drawn : ∀ k m, (k, ⟨.draw, m⟩) ∈ c.log → JobRegistry.Durable.Storable ρ m

namespace Recorded

variable [DecidableEq ι] [JobRegistry.Durable ρ] {services : ι → Services} {c c' : Cluster ι ρ}

omit [DecidableEq ι] in
/-- A marker that a thread is about to claim can be stored, since the thread drew it. -/
theorem storable_of_claim (hsound : Sound services c) (hstored : Stored c) {k : Nat} {thread : Thread ι} {action : Action}
    {next : action.Answer → Program Result} (present : c.threads[k]? = some thread) (stands : thread.rest = .step action next)
    (id : String) (m : Marker) (hclaim : action = .claim id m) : JobRegistry.Durable.Storable ρ m := by
  have hkeeps := hsound.keeps present
  rw [stands] at hkeeps
  obtain ⟨_, _, _, _, hdrew, _⟩ := Operation.asks_claim (hclaim ▸ hkeeps.1)
  exact hstored.drawn k m (mem_past.1 (List.mem_of_head? hdrew))

/-- Every change keeps the registry whole and as the log says, if what is drawn can be stored. -/
theorem change (hstoring : Storing ρ services) (hsound : Sound services c) (h : Recorded c) (hstored : Stored c)
    (hc : Change services c c') : Recorded c' ∧ Stored c' := by
  cases hc with
  | start engine operation _ => exact ⟨⟨h.readable, h.entries, h.truthful⟩, ⟨hstored.whole, hstored.drawn⟩⟩
  | expire _ _ _ _ => exact ⟨⟨h.readable, h.entries, h.truthful⟩, ⟨hstored.whole, hstored.drawn⟩⟩
  | @advance k thread action next present stands =>
    have hperform := EngineState.perform_registry (services thread.engine)
      ((c.engines thread.engine).withRegistry c.registry) hstored.whole (storable_of_claim hsound hstored present stands)
    have hentries : JobRegistry.entry c.registry = held c.log := funext h.entries
    simp only [EngineState.withRegistry, hentries] at hperform
    obtain ⟨htruthful, hwhole, hleaves⟩ := hperform
    have hwhole' : JobRegistry.Durable.Whole (c.advance services k thread action next).registry := by
      simp only [advance, Operation.conclude_registry]
      exact hwhole
    refine ⟨⟨fun id => JobRegistry.Durable.get_eq hwhole' id, fun id => ?_, fun before e after hlog => ?_⟩, hwhole',
      fun j m hdrawn => ?_⟩
    · simp only [advance, Operation.conclude_registry, held_snoc]
      exact hleaves id
    · simp only [advance] at hlog
      rcases split_snoc hlog with ⟨rfl, rfl, rfl⟩ | ⟨after', hbefore, rfl⟩
      · exact htruthful
      · exact h.truthful before e after' hbefore
    · rcases List.mem_append.1 hdrawn with hbefore | hlast
      · exact hstored.drawn j m hbefore
      · cases List.mem_singleton.1 hlast
        exact hstoring thread.engine _

/-- Every reachable cluster is recorded, if what its activations draw can be stored. -/
theorem of_reachable (hstoring : Storing ρ services) (h : Reachable services c) : Recorded c := by
  obtain ⟨registry, hempty, hsteps⟩ := h
  have hfirst : Recorded (fresh (ι := ι) registry) :=
    ⟨fun id => (hempty id).trans (congrArg Except.ok (hempty.entry_eq id).symm), hempty.entry_eq,
      fun before e after hlog => by simp [fresh] at hlog⟩
  have hstored : Stored (fresh (ι := ι) registry) :=
    ⟨JobRegistry.Durable.whole_of_vacant hempty, fun _ _ hdrawn => absurd hdrawn List.not_mem_nil⟩
  have hboth := hsteps.invariant (fun c => Sound services c ∧ Recorded c ∧ Stored c)
    ⟨.of_reachable ⟨registry, hempty, .refl⟩, hfirst, hstored⟩
    fun _ _ h hc => ⟨h.1.change hc, change hstoring h.1 h.2.1 h.2.2 hc⟩
  exact hboth.2.1

end Recorded

namespace Sound

variable {services : ι → Services} {c : Cluster ι ρ}

omit [JobRegistry ρ] in
/-- With distinct tokens, the token that an activation drew tells which activation it is. -/
theorem eq_of_drew (hdistinct : (drawnTokens c.log).Nodup) {k k' : Nat} {m m' : Marker} (hm : Activation.Drew (past c.log k) m)
    (hm' : Activation.Drew (past c.log k') m') (htoken : m.token = m'.token) : k = k' := by
  have hmem : (k, ⟨.draw, m⟩) ∈ c.log := mem_past.1 (List.mem_of_head? hm)
  have hmem' : (k', ⟨.draw, m'⟩) ∈ c.log := mem_past.1 (List.mem_of_head? hm')
  have heq := eq_of_filterMap_nodup hdistinct hmem hmem' (x := m.token) rfl (by simp [Happening.drawn?, htoken])
  exact congrArg Prod.fst heq

omit [JobRegistry ρ] in
/-- A claim in the log is of a thread that drew its marker, and had won no entry before. -/
theorem drew_of_claimed (h : Sound services c) {before after : List (Nat × Happening)} {k : Nat} {id : String} {m : Marker}
    {answer : (Action.claim id m).Answer} (hlog : c.log = before ++ (k, ⟨.claim id m, answer⟩) :: after) :
    Activation.Drew (past c.log k) m ∧ ∀ id m, ¬Activation.Won (past before k) id m := by
  obtain ⟨thread, _, hasks⟩ := h.asked hlog
  obtain ⟨_, _, _, _, hdrew, hnot⟩ := Operation.asks_claim hasks
  refine ⟨?_, hnot⟩
  rw [hlog, past_append]
  exact Activation.Aux.drew_append hdrew _

omit [JobRegistry ρ] in
/-- An activation that won an entry drew the marker with which it won it. -/
theorem drew_of_won (h : Sound services c) {k : Nat} {id : String} {m : Marker} (hwon : (k, ⟨.claim id m, .ok true⟩) ∈ c.log) :
    Activation.Drew (past c.log k) m := by
  obtain ⟨before, after, hlog⟩ := List.append_of_mem hwon
  exact (h.drew_of_claimed hlog).1

omit [JobRegistry ρ] in
/-- An activation starts its jobs with the token that it drew. -/
theorem drew_of_started (h : Sound services c) {k : Nat} {job : Job} {handle : Nat}
    (hstarted : (k, ⟨.schedule job, .ok handle⟩) ∈ c.log) : ∃ m, Activation.Drew (past c.log k) m ∧ job.token = m.token := by
  obtain ⟨before, after, hlog⟩ := List.append_of_mem hstarted
  obtain ⟨_, _, hasks⟩ := h.asked hlog
  obtain ⟨_, m, _, htoken, hdrew, _⟩ := Operation.asks_schedule hasks
  refine ⟨m, ?_, htoken⟩
  rw [hlog, past_append]
  exact Activation.Aux.drew_append hdrew _

omit [JobRegistry ρ] in
/-- With distinct tokens no token wins an entry twice, whatever entry it is. -/
theorem wonTokens_nodup (h : Sound services c) (hdistinct : (drawnTokens c.log).Nodup) : (wonTokens c.log).Nodup := by
  have hprefix : ∀ l, l <+: c.log → (wonTokens l).Nodup := by
    intro l
    induction l using List.reverseRecOn with
    | nil => exact fun _ => List.nodup_nil
    | append_singleton l e ih =>
      rintro ⟨after, hlog⟩
      have hl : (wonTokens l).Nodup := ih ⟨e :: after, by rw [← hlog, List.append_cons]⟩
      unfold wonTokens at hl ⊢
      rw [List.filterMap_append]
      cases hwon : e.2.won? with
      | none => simpa [hwon] using hl
      | some token =>
        obtain ⟨id, m, he, rfl⟩ := Happening.won?_eq_some.1 hwon
        have hnot : m.token ∉ l.filterMap fun e => e.2.won? := by
          intro hmem
          obtain ⟨e', he', hwon'⟩ := List.mem_filterMap.1 hmem
          obtain ⟨id', m', hclaim', htoken⟩ := Happening.won?_eq_some.1 hwon'
          obtain ⟨first, second, rfl⟩ := List.append_of_mem he'
          have hlog₁ : c.log = first ++ (e'.1, ⟨.claim id' m', .ok true⟩) :: (second ++ [e] ++ after) := by
            rw [← hlog, ← hclaim']
            simp
          have hlog₂ : c.log = (first ++ e' :: second) ++ (e.1, ⟨.claim id m, .ok true⟩) :: after := by
            rw [← hlog, ← he]
            simp
          obtain ⟨hdrew₁, _⟩ := h.drew_of_claimed hlog₁
          obtain ⟨hdrew₂, hunwon⟩ := h.drew_of_claimed hlog₂
          have hk := eq_of_drew hdistinct hdrew₁ hdrew₂ htoken
          refine hunwon id' m' (mem_past.2 ?_)
          rw [← hk, ← hclaim']
          exact he'
        rw [List.nodup_append]
        refine ⟨hl, by simp [hwon], fun a ha b hb => ?_⟩
        rintro rfl
        simp only [List.filterMap_cons, hwon, List.filterMap_nil, List.mem_singleton] at hb
        exact hnot (hb ▸ ha)
  exact hprefix c.log List.prefix_rfl

omit [JobRegistry ρ] in
/-- With distinct tokens, a token that had won an entry and had lost it is carried by no entry ever after. -/
theorem not_carried_again (h : Sound services c) (hdistinct : (drawnTokens c.log).Nodup) {before after : List (Nat × Happening)}
    (hlog : before ++ after <+: c.log) {k : Nat} {id : String} {m : Marker} (hwon : (k, ⟨.claim id m, .ok true⟩) ∈ before)
    (hlost : carried before id m.token = false) (other : String) : carried (before ++ after) other m.token = false := by
  have hnodup := h.wonTokens_nodup hdistinct
  induction after using List.reverseRecOn with
  | nil =>
    rw [List.append_nil] at hlog ⊢
    rw [← Bool.not_eq_true]
    intro hcarried
    obtain ⟨m', hheld, htoken⟩ := carried_iff.1 hcarried
    obtain ⟨k', hwon'⟩ := won_of_held hheld
    have heq := eq_of_filterMap_nodup hnodup (hlog.subset hwon') (hlog.subset hwon) (x := m.token)
      (by simp [Happening.won?, htoken]) rfl
    cases heq
    exact Bool.eq_false_iff.1 hlost hcarried
  | append_singleton after e ih =>
    rw [← List.append_assoc] at hlog ⊢
    have hbefore := ih ((List.prefix_append _ _).trans hlog)
    rw [← Bool.not_eq_true]
    intro hcarried
    obtain ⟨m', hheld, htoken⟩ := carried_iff.1 hcarried
    rw [held_snoc] at hheld
    rcases Happening.leaves_eq_some hheld with he | hheld
    · have hsub := (List.Sublist.filterMap (fun e : Nat × Happening => e.2.won?) hlog.sublist).nodup hnodup
      rw [List.filterMap_append, List.nodup_append] at hsub
      refine hsub.2.2 m.token ?_ m'.token ?_ htoken.symm
      · exact List.mem_filterMap.2 ⟨_, List.mem_append_left _ hwon, rfl⟩
      · simp [he, Happening.won?]
    · exact Bool.eq_false_iff.1 hbefore (carried_iff.2 ⟨m', hheld, htoken⟩)

end Sound

end Cluster

end StandingQuery
