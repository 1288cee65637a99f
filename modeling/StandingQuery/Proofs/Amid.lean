import Mathlib.Data.List.Forall2
import StandingQuery.Engine.State
import StandingQuery.Proofs.Interaction

/-!
# Programs among others

A program run to its end while others do what they like to the same engine before each of its steps (`Program.amid`). Every step
that it takes is kept with the engine that the step found and the one that it left (`Taken`), so that what a run added to a record
of the engine is read off the engine itself (`Taken.added`). What a bound says of a program holds of its value there
(`Program.Keeps.amid`), and what others and every allowed step leave as it is stays as it is (`Program.Keeps.amid_frame`). A record
that others leave alone grows by what the steps added to it (`Program.grows_amid`). With nobody else around it is the plain run
(`Program.amid_alone`).
-/

namespace StandingQuery

/-- A step that was taken: the engine that it found, what was asked and answered, and the engine that it left. -/
structure Taken (ρ : Type) where
  before : EngineState ρ
  happening : Happening
  after : EngineState ρ

namespace Taken

variable {ρ : Type}

/-- What a step added to a record of the engine that only grows. -/
def added {γ : Type} (record : EngineState ρ → List γ) (t : Taken ρ) : List γ :=
  (record t.after).drop (record t.before).length

/-- The requests that a step made of the catalog. -/
abbrev requested (t : Taken ρ) : List CatalogRequest := t.added EngineState.requests

/-- What a step handed to channels. -/
abbrev handed (t : Taken ρ) : List Handed := t.added EngineState.handed

end Taken

/-- What a program that ran to its end leaves: its value, the steps that it took, what others have still to do, and the engine. -/
structure Ran (ρ α : Type) where
  value : α
  taken : List (Taken ρ)
  others : List (EngineState ρ → EngineState ρ)
  engine : EngineState ρ

namespace Ran

variable {ρ α : Type}

/-- What was asked and answered. -/
def steps (ran : Ran ρ α) : List Happening := ran.taken.map Taken.happening

/-- The requests that were made of the catalog. -/
def requested (ran : Ran ρ α) : List CatalogRequest := ran.taken.flatMap Taken.requested

/-- What was handed to channels. -/
def handed (ran : Ran ρ α) : List Handed := ran.taken.flatMap Taken.handed

end Ran

namespace Program

variable {α β ρ : Type} [JobRegistry ρ] {asks : List Happening → Action → Prop} {ends : List Happening → α → Prop}

/-- A program run to its end, where others do something to the engine before each of its steps, as long as they have something
to do. -/
def amid (services : Services) : Program α → List (EngineState ρ → EngineState ρ) → EngineState ρ → Ran ρ α
  | .done a, others, s => ⟨a, [], others, s⟩
  | .step action next, others, s =>
    let found := others.headD id s
    let performed := found.perform services action
    let ran := (next performed.1).amid services others.tail performed.2
    { ran with taken := ⟨found, ⟨action, performed.1⟩, performed.2⟩ :: ran.taken }

variable (services : Services) (others : List (EngineState ρ → EngineState ρ)) (s : EngineState ρ)

@[simp] theorem amid_done (a : α) : (Program.done a).amid services others s = ⟨a, [], others, s⟩ := rfl

theorem amid_step (action : Action) (next : action.Answer → Program α) :
    (Program.step action next).amid services others s =
      { (next ((others.headD id s).perform services action).1).amid services others.tail
          ((others.headD id s).perform services action).2 with
        taken := ⟨others.headD id s, ⟨action, ((others.headD id s).perform services action).1⟩,
            ((others.headD id s).perform services action).2⟩ ::
          ((next ((others.headD id s).perform services action).1).amid services others.tail
            ((others.headD id s).perform services action).2).taken } := rfl

/-- A step that was taken was answered and left the engine as the engine that it found performs it. -/
theorem performed_of_taken (p : Program α) {t : Taken ρ} (h : t ∈ (p.amid services others s).taken) :
    t.before.perform services t.happening.action = (t.happening.answer, t.after) := by
  induction p generalizing others s with
  | done a => cases h
  | step action next ih =>
    rcases List.mem_cons.1 h with rfl | hlater
    · rfl
    · exact ih _ _ _ hlater

/-- A program leads to its value by its steps. -/
theorem leads_amid (p : Program α) :
    Leads p (p.amid services others s).steps (.done (p.amid services others s).value) := by
  induction p generalizing others s with
  | done a => exact .refl _
  | step action next ih => exact .step _ (ih _ _ _)

/-- A program that ran to its end ends with a value that its bound allows. -/
theorem Keeps.amid {p : Program α} (h : Keeps asks ends p []) :
    ends (p.amid services others s).steps (p.amid services others s).value := by
  simpa using (leads_amid services others s p).keeps h

/-- What others still have to do is what they had to do, but for a beginning. -/
theorem others_amid (p : Program α) : (p.amid services others s).others ⊆ others := by
  induction p generalizing others s with
  | done a => exact List.Subset.refl _
  | step action next ih => exact fun _ hm => List.mem_of_mem_tail (ih _ _ _ hm)

/-- One program after another among others: the second goes on with what the first leaves. -/
theorem amid_bind (p : Program α) (f : α → Program β) :
    (p >>= f).amid services others s =
      { (f (p.amid services others s).value).amid services (p.amid services others s).others
          (p.amid services others s).engine with
        taken := (p.amid services others s).taken ++
          ((f (p.amid services others s).value).amid services (p.amid services others s).others
            (p.amid services others s).engine).taken } := by
  induction p generalizing others s with
  | done a => rfl
  | step action next ih =>
    rw [step_bind, amid_step, amid_step, ih]
    rfl

/-- A program for each of some inputs in turn: the steps taken are those for each input, one after the other. -/
theorem amid_mapM {γ : Type} {f : γ → Program β} (each : γ → List (Taken ρ) → β → Prop)
    (hf : ∀ c (others : List (EngineState ρ → EngineState ρ)) s,
      each c ((f c).amid services others s).taken ((f c).amid services others s).value) (inputs : List γ) :
    ∃ parts : List (List (Taken ρ) × β), List.Forall₂ (fun c part => each c part.1 part.2) inputs parts ∧
      ((inputs.mapM f).amid services others s).taken = parts.flatMap Prod.fst ∧
      ((inputs.mapM f).amid services others s).value = parts.map Prod.snd := by
  induction inputs generalizing others s with
  | nil => exact ⟨[], .nil, rfl, rfl⟩
  | cons c rest ih =>
    have hfirst := hf c others s
    obtain ⟨parts, hparts, htaken, hvalue⟩ :=
      ih ((f c).amid services others s).others ((f c).amid services others s).engine
    refine ⟨(((f c).amid services others s).taken, ((f c).amid services others s).value) :: parts, .cons hfirst hparts, ?_, ?_⟩
    · simp only [List.mapM_cons, amid_bind, htaken, pure_eq, amid_done, List.append_nil, List.flatMap_cons]
    · simp only [List.mapM_cons, amid_bind, hvalue, pure_eq, amid_done, List.map_cons]

variable {others s}

/-- What others leave as it is, and every step that is allowed too, stays as it is. -/
theorem Keeps.amid_frame {p : Program α} {past : List Happening} (h : Keeps asks ends p past) (same : EngineState ρ → Prop)
    (hothers : ∀ other ∈ others, ∀ s, same s → same (other s))
    (hsame : ∀ past action s, asks past action → same s → same (s.perform services action).2) (hs : same s) :
    same (p.amid services others s).engine := by
  induction p generalizing past others s with
  | done a => exact hs
  | step action next ih =>
    have hbefore : same (others.headD id s) := by
      cases others with
      | nil => exact hs
      | cons other rest => exact hothers other (List.mem_cons_self ..) s hs
    exact ih _ (h.2 _) (fun other ho => hothers other (List.mem_of_mem_tail ho)) (hsame past action _ h.1 hbefore)

section Record

variable {γ : Type} {record : EngineState ρ → List γ}

/-- A record that others leave alone and every step only adds to grows by what the steps added to it, and each step finds in it what
was there at first and what the steps before have added. -/
theorem grows_amid (hothers : ∀ other ∈ others, ∀ s, record (other s) = record s)
    (hgrows : ∀ s action, record s <+: record (s.perform services action).2) (p : Program α) :
    record (p.amid services others s).engine = record s ++ (p.amid services others s).taken.flatMap (Taken.added record) ∧
      ∀ before t after, (p.amid services others s).taken = before ++ t :: after →
        record t.before = record s ++ before.flatMap (Taken.added record) := by
  induction p generalizing others s with
  | done a => exact ⟨(List.append_nil _).symm, fun before t after h => by simp at h⟩
  | step action next ih =>
    have hfound : record (others.headD id s) = record s := by
      cases others with
      | nil => rfl
      | cons other rest => exact hothers other List.mem_cons_self s
    obtain ⟨added, hadded⟩ := hgrows (others.headD id s) action
    have hafter : record ((others.headD id s).perform services action).2 =
        record s ++ Taken.added record ⟨others.headD id s, ⟨action, ((others.headD id s).perform services action).1⟩,
          ((others.headD id s).perform services action).2⟩ := by
      simp only [Taken.added]
      rw [← hadded, List.drop_left, hfound]
    have htail : ∀ other ∈ others.tail, ∀ s, record (other s) = record s := fun other ho => hothers other (List.mem_of_mem_tail ho)
    obtain ⟨hengine, heach⟩ := ih ((others.headD id s).perform services action).1 htail
      (s := ((others.headD id s).perform services action).2)
    rw [amid_step]
    refine ⟨?_, fun before t after h => ?_⟩
    · simp only [List.flatMap_cons]
      rw [hengine, hafter, List.append_assoc]
    · rcases List.cons_eq_append_iff.1 h with ⟨rfl, hfirst⟩ | ⟨rest, rfl, hlater⟩
      · rw [(List.cons.inj hfirst).1, List.flatMap_nil, List.append_nil]
        exact hfound
      · rw [heach rest t after hlater, hafter, List.append_assoc, List.flatMap_cons]

end Record

/-- With nobody else around a program runs as it does alone. -/
theorem amid_alone (p : Program α) (s : EngineState ρ) :
    (p.amid services [] s).value = (p.run services s).1 ∧ (p.amid services [] s).engine = (p.run services s).2 ∧
      (p.amid services [] s).others = [] := by
  induction p generalizing s with
  | done a => exact ⟨rfl, rfl, rfl⟩
  | step action next ih => exact ih _ _

end Program

namespace Action

/-- The request that a step makes of the catalog, if it makes one. -/
def request (runner : QueryRunner) : Action → Option CatalogRequest
  | .execute expression => some (runner.request expression)
  | _ => none

/-- Only an execution makes a request. -/
theorem request_eq_none {runner : QueryRunner} {action : Action} (h : ∀ expression, action ≠ .execute expression) :
    action.request runner = none := by
  cases action with
  | execute expression => exact absurd rfl (h expression)
  | _ => rfl

end Action

namespace Happening

/-- The requests that steps make of the catalog. -/
def requests (runner : QueryRunner) (steps : List Happening) : List CatalogRequest :=
  steps.filterMap fun h => h.action.request runner

@[simp] theorem requests_append (runner : QueryRunner) (steps later : List Happening) :
    requests runner (steps ++ later) = requests runner steps ++ requests runner later := List.filterMap_append

end Happening

namespace EngineState

variable {ρ : Type} [JobRegistry ρ]

/-- A step adds its request to those made of the catalog. -/
theorem perform_requests (services : Services) (s : EngineState ρ) (action : Action) :
    (s.perform services action).2.requests = s.requests ++ (action.request services.runner).toList := by
  cases action with
  | execute expression => rfl
  | schedule job =>
    simp only [perform, schedule]
    split <;> exact (List.append_nil _).symm
  | _ => exact (List.append_nil _).symm

end EngineState

namespace Program

variable {α ρ : Type} [JobRegistry ρ] (services : Services) (others : List (EngineState ρ → EngineState ρ)) (s : EngineState ρ)

/-- The requests that a step of a program made are those that it asked for. -/
theorem requested_of_taken (p : Program α) {t : Taken ρ} (h : t ∈ (p.amid services others s).taken) :
    t.requested = (t.happening.action.request services.runner).toList := by
  have hperformed := congrArg (fun performed => performed.2.requests) (performed_of_taken services others s p h)
  simp only [EngineState.perform_requests] at hperformed
  unfold Taken.requested Taken.added
  rw [← hperformed, List.drop_left]

/-- The requests that a run made are those that its steps asked for. -/
theorem requested_amid (p : Program α) :
    (p.amid services others s).requested = Happening.requests services.runner (p.amid services others s).steps := by
  unfold Ran.requested Ran.steps Happening.requests
  rw [List.filterMap_map, List.filterMap_eq_flatMap_toList]
  exact List.flatMap_congr fun t ht => requested_of_taken services others s p ht

variable {others} in
/-- The engine's requests are those that it began with and those of the run, if others make none. -/
theorem requests_amid (hothers : ∀ other ∈ others, ∀ s, (other s).requests = s.requests) (p : Program α) :
    (p.amid services others s).engine.requests = s.requests ++ (p.amid services others s).requested := by
  refine (grows_amid services hothers (fun s action => ?_) p).1
  rw [EngineState.perform_requests]
  exact List.prefix_append _ _

/-- An execution is answered as the catalog answers after the requests that were made before. -/
theorem answered_of_taken (p : Program α) {t : Taken ρ} (h : t ∈ (p.amid services others s).taken) {expression : String}
    {answer : Except RunError QueryResults} (hexecute : t.happening = ⟨.execute expression, answer⟩) :
    answer = (services.runner.run t.before.requests expression).1 := by
  have hperformed := performed_of_taken services others s p h
  rw [hexecute] at hperformed
  exact (congrArg Prod.fst hperformed).symm

end Program

end StandingQuery
