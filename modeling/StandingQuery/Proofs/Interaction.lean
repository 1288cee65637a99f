import StandingQuery.Engine.Program

/-!
# What programs ask for

A program shows itself only in the steps that it asks for and in the value that it ends with. `Happening` is a step with its
answer, `Program.Leads` says what is left of a program once some steps were answered, and `Program.Keeps` bounds a program
whatever it is answered: every step that it asks for is allowed by the steps before it, and so is every value that it ends
with. A program is bounded part by part (`keeps_bind`, `keeps_mapM`), and the bound reaches every step that the program has
asked for on any run (`Leads.asked`).
-/

namespace StandingQuery

/-- A step with its answer. -/
structure Happening where
  action : Action
  answer : action.Answer

namespace Program

variable {α β : Type}

/-- What is left of a program once some steps were answered. -/
inductive Leads : Program α → List Happening → Program α → Prop where
  | refl (p : Program α) : Leads p [] p
  | step {action : Action} {next : action.Answer → Program α} (answer : action.Answer) {past : List Happening}
      {rest : Program α} (later : Leads (next answer) past rest) :
      Leads (.step action next) (⟨action, answer⟩ :: past) rest

/-- One more step is answered. -/
theorem Leads.snoc {p : Program α} {past : List Happening} {action : Action} {next : action.Answer → Program α}
    (h : Leads p past (.step action next)) (answer : action.Answer) :
    Leads p (past ++ [⟨action, answer⟩]) (next answer) := by
  generalize hrest : Program.step action next = rest at h
  induction h with
  | refl =>
    subst hrest
    exact .step answer (.refl _)
  | step a _ ih => exact .step a (ih hrest)

/-- A program that is bounded whatever it is answered: every step is allowed by the steps before it, and so is every value
that it ends with. -/
def Keeps (asks : List Happening → Action → Prop) (ends : List Happening → α → Prop) :
    Program α → List Happening → Prop
  | .done a, past => ends past a
  | .step action next, past =>
    asks past action ∧ ∀ answer, Keeps asks ends (next answer) (past ++ [⟨action, answer⟩])

variable {asks : List Happening → Action → Prop} {ends : List Happening → α → Prop} {past : List Happening}

@[simp] theorem keeps_done (a : α) : Keeps asks ends (.done a) past ↔ ends past a := Iff.rfl

@[simp] theorem ask_bind (action : Action) (f : action.Answer → Program α) : (ask action >>= f) = .step action f := rfl

/-- A bound may be loosened. -/
theorem Keeps.imp {asks' : List Happening → Action → Prop} {ends' : List Happening → α → Prop} {p : Program α}
    (h : Keeps asks ends p past) (ha : ∀ past a, asks past a → asks' past a) (he : ∀ past a, ends past a → ends' past a) :
    Keeps asks' ends' p past := by
  induction p generalizing past with
  | done a => exact he _ _ h
  | step action next ih => exact ⟨ha _ _ h.1, fun answer => ih answer (h.2 answer)⟩

/-- One program after another is bounded by the bounds of both, the second from where the first ends. -/
theorem keeps_bind (middle : List Happening → β → Prop) {p : Program β} {f : β → Program α}
    (hp : Keeps asks middle p past) (hf : ∀ past b, middle past b → Keeps asks ends (f b) past) :
    Keeps asks ends (p >>= f) past := by
  induction p generalizing past with
  | done b => exact hf _ _ hp
  | step action next ih => exact ⟨hp.1, fun answer => ih answer (hp.2 answer)⟩

/-- The value of a program changed. -/
theorem keeps_map {middle : List Happening → β → Prop} {p : Program β} {f : β → α} (hp : Keeps asks middle p past)
    (hf : ∀ past b, middle past b → ends past (f b)) : Keeps asks ends (f <$> p) past := by
  rw [← bind_pure_comp]
  exact keeps_bind middle hp fun past b h => hf past b h

/-- A program for each of some inputs in turn: what holds before the inputs that are left and the values so far is carried
from one to the next. -/
theorem keeps_mapM (carried : List Happening → List β → Prop) {γ : Type} {f : γ → Program β} (inputs : List γ)
    (hf : ∀ c ∈ inputs, ∀ past values, carried past values →
      Keeps asks (fun past b => carried past (values ++ [b])) (f c) past)
    (values : List β) (h : carried past values) :
    Keeps asks (fun past bs => carried past (values ++ bs)) (inputs.mapM f) past := by
  induction inputs generalizing past values with
  | nil => simpa using h
  | cons c rest ih =>
    rw [List.mapM_cons]
    refine keeps_bind _ (hf c (by simp) _ _ h) fun past b hb => ?_
    refine keeps_bind _ (ih (fun c hc => hf c (by simp [hc])) _ hb) fun past bs hbs => ?_
    simpa using hbs

/-- The bound holds from every point of a run on. -/
theorem Leads.keeps {p rest : Program α} {new : List Happening} (h : Leads p new rest) (hp : Keeps asks ends p past) :
    Keeps asks ends rest (past ++ new) := by
  induction h generalizing past with
  | refl => simpa using hp
  | step answer _ ih => simpa using ih (hp.2 answer)

/-- Every step of a run was allowed by the steps before it. -/
theorem Leads.asked {p rest : Program α} {before after : List Happening} {happening : Happening}
    (h : Leads p (before ++ happening :: after) rest) (hp : Keeps asks ends p past) :
    asks (past ++ before) happening.action := by
  generalize hnew : before ++ happening :: after = new at h
  induction h generalizing past before with
  | refl => simp at hnew
  | step answer _ ih =>
    cases before with
    | nil =>
      obtain ⟨rfl, -⟩ := List.cons_eq_cons.1 hnew
      simpa using hp.1
    | cons first before =>
      obtain ⟨rfl, rest⟩ := List.cons_eq_cons.1 hnew
      simpa using ih (hp.2 answer) rest

end Program

end StandingQuery
