import Mathlib.Data.List.Forall2
import StandingQuery.Proofs.Lockstep
import StandingQuery.Proofs.RegistryKinds
import StandingQuery.Proofs.Reports

/-!
# Batches

The items of a batch whose queries are apart do not touch each other: what becomes of the queries of each item is what becomes of
them when it is the only one, under the markers drawn in its turn, whatever the other items are and wherever it stands among them
(`Batch.run_isolated`). A batch reports what each of its items alone would report, in order.
-/

namespace StandingQuery

open EngineState JobRegistry Program

namespace Outcome

/-- A report of one outcome is that outcome. -/
theorem all_singleton (outcome : Outcome Unit) : all [outcome] = outcome := by
  rw [all_singleton_eq_discard]
  cases outcome <;> rfl

/-- To do something with a single input is to do it. -/
theorem forEach_singleton {m : Type → Type} [Monad m] [LawfulMonad m] {β : Type} (f : β → m (Outcome Unit)) (input : β) :
    forEach f [input] = f input := by
  unfold forEach
  simp [List.mapM_cons, all_singleton]

end Outcome

/-- The turn of an item: how many markers were drawn and how many timers asked for before it, and what came of it. -/
structure ItemTurn where
  drawn : Nat
  calls : Nat
  outcome : Outcome Unit

namespace EngineState

variable {ρ : Type} [JobRegistry ρ] {services : Services}

/-- The state in which an item would be seen to alone, with the next marker and the next answer of the scheduler chosen. -/
def atTurn (s : EngineState ρ) (drawn calls : Nat) : EngineState ρ := { s with drawn := drawn, scheduleCalls := calls }

/-- An item that was seen to in its turn, as it would have been alone. -/
structure AsAlone (services : Services) (s final : EngineState ρ) (ids : List String) (item : Program (Outcome Unit))
    (turn : ItemTurn) : Prop where
  drawn : s.drawn ≤ turn.drawn
  calls : s.scheduleCalls ≤ turn.calls
  /-- Alone, with the markers of its turn and as long as the scheduler answers as it does in its turn, it comes to the same. -/
  alone : ∀ calls, s.scheduleCalls ≤ calls → services.AnswersAlike calls turn.calls →
    (item.run services (s.atTurn turn.drawn calls)).1 = turn.outcome ∧
      SameWork ids s (item.run services (s.atTurn turn.drawn calls)).2 final
  /-- The timers that were started for it run. -/
  runs : ∀ id ∈ ids, ∀ j ∈ startedFor id s final, final.Runs j

/-- An engine that has not yet seen to some queries is alike for them to the engine that is about to see to them alone. -/
theorem alike_atTurn {ids others : List String} {s t : EngineState ρ} (hr : Separate s.registry) (hs : s.timers.Sound)
    (h : Confined others s t) (hids : ∀ id ∈ ids, id ∉ others) {calls : Nat} (hcalls : s.scheduleCalls ≤ calls)
    (hanswers : services.AnswersAlike calls t.scheduleCalls) : Alike services ids s (s.atTurn t.drawn calls) t := by
  have hfirst : Confined [] s (s.atTurn t.drawn calls) :=
    ⟨.refl _ _, .refl _ _, ⟨[], (List.append_nil _).symm, by simp⟩, h.drawn, hcalls⟩
  refine ⟨⟨fun id hid => h.registry.sameFor hr (hids id hid), fun id hid => ?_, fun id hid e he => ?_, fun id hid e he => ?_⟩,
    ⟨_, hfirst⟩, ⟨_, h⟩, rfl, hanswers⟩
  · have hnone : startedFor id s (s.atTurn t.drawn calls) = [] := startedFor_of_jobs_eq rfl id
    rw [h.startedFor_eq_nil (hids id hid), hnone]
  · rw [h.timers.trackedFor_eq (hids id hid)]
    rfl
  · exact (h.timers.handle_eq hs (hids id hid) he).symm

variable {γ : Type} {f : γ → Program (Outcome Unit)} {ids : γ → List String}

/-- Items whose queries are apart are each seen to as they would be alone. -/
theorem mapM_asAlone (services : Services) {s : EngineState ρ} (hr : Separate s.registry) (hs : s.timers.Sound) (inputs : List γ)
    (hf : ∀ c ∈ inputs, SeesTo ρ services (ids c) (f c))
    (hruns : ∀ c ∈ inputs, ∀ t : EngineState ρ, ∀ j ∈ t.startedSince ((f c).run services t).2,
      ((f c).run services t).2.Runs j)
    (hapart : inputs.Pairwise fun c c' => (ids c).Disjoint (ids c')) {others : List String} {t : EngineState ρ}
    (ht : Confined others s t) (hothers : ∀ c ∈ inputs, (ids c).Disjoint others) :
    ∃ turns : List ItemTurn,
      List.Forall₂ (fun c turn => AsAlone services s ((inputs.mapM f).run services t).2 (ids c) (f c) turn) inputs turns ∧
        ((inputs.mapM f).run services t).1 = turns.map ItemTurn.outcome := by
  induction inputs generalizing others t with
  | nil => exact ⟨[], .nil, rfl⟩
  | cons c rest ih =>
    obtain ⟨hfirst, hrest⟩ := List.pairwise_cons.1 hapart
    have hsees := hf c List.mem_cons_self
    have hc := hsees.confined t
    have hruns' := hruns c List.mem_cons_self t
    generalize hdone : (f c).run services t = done at hc hruns'
    have hdone' : Confined (others ++ ids c) s done.2 :=
      (ht.mono (List.subset_append_left ..)).trans (hc.mono (List.subset_append_right ..))
    have hlater : Confined (rest.flatMap ids) done.2 ((rest.mapM f).run services done.2).2 :=
      Program.run_mapM_related services (Confined _) (Confined.refl _) Confined.trans
        (fun c' hc' s => ((hf c' (List.mem_cons_of_mem _ hc')).confined s).mono
          fun id hid => List.mem_flatMap.2 ⟨c', hc', hid⟩) done.2
    have hids (id : String) (hid : id ∈ ids c) : id ∉ rest.flatMap ids := by
      rw [List.mem_flatMap]
      rintro ⟨c', hc', hid'⟩
      exact hfirst c' hc' hid hid'
    obtain ⟨turns, hturns, houtcomes⟩ := ih (fun c' hc' => hf c' (List.mem_cons_of_mem _ hc'))
      (fun c' hc' => hruns c' (List.mem_cons_of_mem _ hc')) hrest hdone' fun c' hc' => by
        rw [List.disjoint_append_right]
        exact ⟨hothers c' (List.mem_cons_of_mem _ hc'), fun _ hid' hid => hfirst c' hc' hid hid'⟩
    rw [Program.run_mapM_cons, hdone]
    refine ⟨⟨t.drawn, t.scheduleCalls, done.1⟩ :: turns, .cons ⟨ht.drawn, ht.calls, fun calls hcalls hanswers => ?_,
      fun id hid j hj => ?_⟩ hturns, congrArg (done.1 :: ·) houtcomes⟩
    · have hnot (id : String) (hid : id ∈ ids c) : id ∉ others := fun hid' => hothers c List.mem_cons_self hid hid'
      have halike := alike_atTurn hr hs ht hnot hcalls hanswers
      obtain ⟨hvalue, hafter⟩ := hsees.alike (List.Subset.refl _) hr hs halike
      rw [hdone] at hvalue hafter
      exact ⟨hvalue, hafter.toSameWork.later hr hs hdone' hlater hids⟩
    · have hnot : id ∉ others ++ rest.flatMap ids := by
        rw [List.mem_append, not_or]
        exact ⟨fun hid' => hothers c List.mem_cons_self hid hid', hids id hid⟩
      have hstarted : startedFor id s ((rest.mapM f).run services done.2).2 = startedFor id t done.2 :=
        startedFor_between (ht.mono (List.subset_append_left ..)) hc (hlater.mono (List.subset_append_right ..)) hnot
      rw [hstarted] at hj
      obtain ⟨hj, hquery⟩ := List.mem_filter.1 hj
      have hid' : j.job.query.id ∉ rest.flatMap ids := by
        rw [beq_iff_eq.1 hquery]
        exact hids id hid
      exact (hruns' j hj).confined (hdone'.timers.sound hs) hlater hid'

end EngineState

/-- What is seen to together: records that were created, updated or deleted. -/
inductive Batch where
  | created (records : List CatalogRecord)
  | updated (updates : List RecordUpdate)
  | deleted (records : List CatalogRecord)

/-- What is done with the queries of one record. -/
structure RecordStep where
  record : CatalogRecord
  act : Json → Program (Outcome Unit)

/-- What is reported of a record once all of its queries were seen to: their failures, with the record named in front. -/
def RecordStep.report (step : RecordStep) : Outcome Unit → Outcome Unit
  | .ok () => .ok ()
  | .error f => .error ⟨"There was an error attempting to modify schedule execution of workspace metacard \"" ++ step.record.id ++
      "\": " ++ f.message⟩

theorem RecordStep.prepend_eq_report (step : RecordStep) (raw : Outcome Unit) :
    Outcome.prepend (Lifecycle.modifying step.record.id) raw = step.report raw := by
  cases raw <;> rfl

namespace Batch

/-- What the engine does about a batch. -/
def program (services : Services) : Batch → Program (Outcome Unit)
  | created records => Lifecycle.onCreate services records
  | updated updates => Lifecycle.onUpdate services updates
  | deleted records => Lifecycle.onDelete records

/-- The items of a batch, each as a batch of its own. -/
def items : Batch → List Batch
  | created records => records.map fun r => created [r]
  | updated updates => updates.map fun u => updated [u]
  | deleted records => records.map fun r => deleted [r]

/-- What is done with each record of a batch: the old record of an update is stopped before the new one is started. -/
def steps (services : Services) : Batch → List RecordStep
  | created records => records.map fun r => ⟨r, Lifecycle.activateQuery services .once⟩
  | updated updates =>
    updates.flatMap fun u => [⟨u.old, Lifecycle.cancelQuery⟩, ⟨u.new, Lifecycle.activateQuery services .retrying⟩]
  | deleted records => records.map fun r => ⟨r, Lifecycle.cancelQuery⟩

/-- The records of a batch. -/
def records : Batch → List CatalogRecord
  | created records | deleted records => records
  | updated updates => updates.flatMap fun u => [u.old, u.new]

/-- The identifiers of the queries embedded in the records of a batch. -/
def queryIds (batch : Batch) : List String := batch.records.flatMap CatalogRecord.queryIds

/-- An item is one record that was created, one update, or one record that was deleted. -/
theorem mem_items {batch item : Batch} (h : item ∈ batch.items) :
    (∃ r, item = created [r]) ∨ (∃ u, item = updated [u]) ∨ ∃ r, item = deleted [r] := by
  cases batch with
  | created records =>
    obtain ⟨r, -, rfl⟩ := List.mem_map.1 h
    exact Or.inl ⟨r, rfl⟩
  | updated updates =>
    obtain ⟨u, -, rfl⟩ := List.mem_map.1 h
    exact Or.inr (Or.inl ⟨u, rfl⟩)
  | deleted records =>
    obtain ⟨r, -, rfl⟩ := List.mem_map.1 h
    exact Or.inr (Or.inr ⟨r, rfl⟩)

section Item

variable (services : Services)

theorem program_created (r : CatalogRecord) :
    (created [r]).program services = Lifecycle.activateRecord services .once r := Outcome.forEach_singleton ..

theorem program_updated (u : RecordUpdate) : (updated [u]).program services = Lifecycle.updateRecord services u :=
  Outcome.forEach_singleton ..

theorem program_deleted (r : CatalogRecord) : (deleted [r]).program services = Lifecycle.cancelRecord r :=
  Outcome.forEach_singleton ..

/-- To see to a batch is to see to each of its items, whatever came of those before it, and to report it all. -/
theorem program_eq_forEach (batch : Batch) :
    batch.program services = Outcome.forEach (fun item : Batch => item.program services) batch.items := by
  cases batch with
  | created records =>
    unfold items Outcome.forEach
    simp only [List.mapM_map, Function.comp_def, program_created]
    rfl
  | updated updates =>
    unfold items Outcome.forEach
    simp only [List.mapM_map, Function.comp_def, program_updated]
    rfl
  | deleted records =>
    unfold items Outcome.forEach
    simp only [List.mapM_map, Function.comp_def, program_deleted]
    rfl

/-- An item sees to the queries of its records. -/
theorem item_seesTo (ρ : Type) [JobRegistry ρ] {batch item : Batch} (h : item ∈ batch.items) :
    SeesTo ρ services item.queryIds (item.program services) := by
  rcases mem_items h with ⟨r, rfl⟩ | ⟨u, rfl⟩ | ⟨r, rfl⟩
  · rw [program_created]
    exact (Lifecycle.activateRecord_seesTo services .once r).mono (by simp [queryIds, records])
  · rw [program_updated]
    exact (Lifecycle.updateRecord_seesTo services u).mono (by simp [queryIds, records])
  · rw [program_deleted]
    exact (Lifecycle.cancelRecord_seesTo services r).mono (by simp [queryIds, records])

variable {ρ : Type} [JobRegistry ρ]

/-- The timers that an item starts run: nothing that it starts is stopped again by it. -/
theorem item_runs {batch item : Batch} (h : item ∈ batch.items) (t : EngineState ρ) :
    ∀ j ∈ t.startedSince ((item.program services).run services t).2, ((item.program services).run services t).2.Runs j := by
  rcases mem_items h with ⟨r, rfl⟩ | ⟨u, rfl⟩ | ⟨r, rfl⟩
  · rw [program_created, Lifecycle.activateRecord_run]
    exact (Lifecycle.activateAll_adds .once r.embedded t).runs
  · rw [program_updated, Lifecycle.updateRecord_run]
    intro j hj
    refine (Lifecycle.activateAll_adds .retrying u.new.embedded _).runs j ?_
    have hjobs : ((u.old.embedded.mapM Lifecycle.cancelQuery).run services t).2.jobs = t.jobs := Lifecycle.cancelAll_jobs ..
    unfold startedSince at hj ⊢
    rwa [hjobs]
  · rw [program_deleted, Lifecycle.cancelRecord_run]
    intro j hj
    unfold startedSince at hj
    rw [Lifecycle.cancelAll_jobs, List.drop_length] at hj
    exact absurd hj List.not_mem_nil

/-- What an item reports is what came of each of its records, in order, with the record named in front. -/
theorem item_report {batch item : Batch} (h : item ∈ batch.items) (t : EngineState ρ) :
    ((item.program services).run services t).1 =
      Outcome.all (List.zipWith RecordStep.report (item.steps services)
        (((item.steps services).mapM fun step => Lifecycle.forQueries step.act step.record).run services t).1) := by
  rcases mem_items h with ⟨r, rfl⟩ | ⟨u, rfl⟩ | ⟨r, rfl⟩
  · have hsteps : (created [r]).steps services = [⟨r, Lifecycle.activateQuery services .once⟩] := rfl
    rw [program_created, hsteps, run_mapM_cons]
    unfold Lifecycle.activateRecord
    rw [run_bind]
    refine Eq.trans ?_ (Outcome.all_singleton _).symm
    exact RecordStep.prepend_eq_report ⟨r, Lifecycle.activateQuery services .once⟩ _
  · have hsteps : (updated [u]).steps services =
        [⟨u.old, Lifecycle.cancelQuery⟩, ⟨u.new, Lifecycle.activateQuery services .retrying⟩] := rfl
    rw [program_updated, hsteps, run_mapM_cons, run_mapM_cons]
    unfold Lifecycle.updateRecord Lifecycle.cancelRecord Lifecycle.activateRecord
    simp only [run_bind, ← RecordStep.prepend_eq_report ⟨u.old, Lifecycle.cancelQuery⟩,
      ← RecordStep.prepend_eq_report ⟨u.new, Lifecycle.activateQuery services .retrying⟩, List.zipWith_cons_cons]
    rfl
  · have hsteps : (deleted [r]).steps services = [⟨r, Lifecycle.cancelQuery⟩] := rfl
    rw [program_deleted, hsteps, run_mapM_cons]
    unfold Lifecycle.cancelRecord
    rw [run_bind]
    refine Eq.trans ?_ (Outcome.all_singleton _).symm
    exact RecordStep.prepend_eq_report ⟨r, Lifecycle.cancelQuery⟩ _

end Item

section Isolation

variable {ρ : Type} [JobRegistry ρ]

/-- What comes of a batch whose items are seen to in these turns. -/
structure Isolated (services : Services) (batch : Batch) (s : EngineState ρ) (result : Outcome Unit × EngineState ρ)
    (turns : List ItemTurn) : Prop where
  /-- Each item is seen to as it would have been alone. -/
  each : List.Forall₂ (fun item turn => AsAlone services s result.2 item.queryIds (item.program services) turn) batch.items turns
  /-- An item reports what came of each of its records, in order, with the record named in front. -/
  named : ∀ item ∈ batch.items, ∀ t : EngineState ρ, ((item.program services).run services t).1 =
    Outcome.all (List.zipWith RecordStep.report (item.steps services)
      (((item.steps services).mapM fun step => Lifecycle.forQueries step.act step.record).run services t).1)
  /-- All goes well exactly if it does with every item. -/
  success : result.1 = .ok () ↔ ∀ turn ∈ turns, turn.outcome = .ok ()
  /-- Otherwise the report holds the failures of the items, in order. -/
  failures : result.1 ≠ .ok () → result.1 = Outcome.fail ("\n".intercalate (Outcome.messages (turns.map ItemTurn.outcome)))

/-- The items of a batch that have no query in common are each seen to as they would be alone. -/
theorem run_isolated (services : Services) (batch : Batch) (s : EngineState ρ) (hr : Separate s.registry) (hs : s.timers.Sound)
    (hapart : batch.items.Pairwise fun item other => item.queryIds.Disjoint other.queryIds) :
    ∃ turns, Isolated services batch s ((batch.program services).run services s) turns := by
  obtain ⟨turns, heach, houtcomes⟩ := mapM_asAlone services hr hs batch.items
    (fun item hitem => item_seesTo services ρ hitem) (fun item hitem => item_runs services hitem) hapart (.refl [] s)
    fun item _ => List.disjoint_nil_right _
  have hrun := Program.run_forEach services (fun item : Batch => item.program services) batch.items s
  rw [← program_eq_forEach, houtcomes] at hrun
  rw [hrun]
  have hunit (outcome : Outcome Unit) : (∃ u, outcome = .ok u) ↔ outcome = .ok () :=
    ⟨fun ⟨_, h⟩ => h, fun h => ⟨(), h⟩⟩
  refine ⟨turns, heach, fun item hitem t => item_report services hitem t, ?_, Outcome.all_eq_fail⟩
  simp only [Outcome.all_eq_ok_iff, List.forall_mem_map, hunit]

end Isolation

namespace Sample

open Lifecycle.Sample

/-- Two updates of workspaces with one query each, of which one runs already. -/
def apart : Batch :=
  updated [⟨workspace "first" [daily "q"], workspace "first" [daily "q"]⟩,
    ⟨workspace "second" [], workspace "second" [daily "p"]⟩]

/-- An engine on which one query runs, whose link lets no entry be removed. -/
def keeping : EngineState (Unreliable MemoryRegistry) :=
  behind (running ["q"]) (fun call => decide (call = .remove)) fun _ _ => false

end Sample

open Sample in
/-- The first update can neither remove the entry nor claim it; the second one is seen to all the same. -/
theorem run_isolated_apart :
    let result := (apart.program (Cluster.Sample.services false)).run (Cluster.Sample.services false) keeping
    (Separate keeping.registry ∧ keeping.timers.Sound ∧
        apart.items.Pairwise fun item other => item.queryIds.Disjoint other.queryIds) ∧
      (∃ turns, Isolated (Cluster.Sample.services false) apart keeping result turns) ∧
      (result.1.isOk = false ∧ result.2.registry.claims.length = 5 ∧
        result.2.timers.handles = [⟨false, false⟩, ⟨false, false⟩] ∧ (result.2.timers.trackedFor "p").length = 1) := by
  intro result
  have hr : Separate keeping.registry := Unreliable.separate (fun _ _ _ _ => rfl) (separate_of_faultFree _)
  have hs : keeping.timers.Sound := Lifecycle.Sample.sound_running ["q"]
  have hnone : apart.items.Pairwise fun item other => ∀ id ∈ item.queryIds, id ∉ other.queryIds := by decide +kernel
  have hapart : apart.items.Pairwise fun item other => item.queryIds.Disjoint other.queryIds :=
    hnone.imp fun h id hid hid' => h id hid hid'
  exact ⟨⟨hr, hs, hapart⟩, run_isolated _ apart keeping hr hs hapart, by decide +kernel⟩

end Batch

end StandingQuery
