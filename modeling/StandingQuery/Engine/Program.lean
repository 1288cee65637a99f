import StandingQuery.Delivery.Channel
import StandingQuery.Engine.Job
import StandingQuery.Query.Catalog
import StandingQuery.Registry.Basic

/-!
# Programs of atomic steps

What the engine does is written as a program: a tree whose nodes ask for one atomic step each and go on with its answer. One
call of the registry is a step, and so is one call of the timers, one execution of a query and one delivery. A program says
nothing of what happens between its steps, so that programs can be run one after the other or in any interleaving.
-/

namespace StandingQuery

/-- An atomic step that a program asks for. -/
inductive Action where
  /-- Reads the registry's entry for a query. -/
  | look (id : String)
  /-- Enters a marker for a query that has none. -/
  | claim (id : String) (marker : Marker)
  /-- Deletes the entry of a query. -/
  | remove (id : String)
  /-- Deletes the entry of a query if it carries a token. -/
  | removeIfOwned (id : String) (token : Uuid)
  /-- Draws the marker of a new activation. -/
  | draw
  /-- Starts a timer for a job. -/
  | schedule (job : Job)
  /-- Tracks the timers of an activation. -/
  | track (id : String) (token : Uuid) (handles : List Nat)
  /-- Forgets the timers of an activation. -/
  | release (id : String) (token : Uuid)
  /-- Cancels and forgets all timers of a query. -/
  | cancelTimers (id : String)
  /-- Pauses for some milliseconds. -/
  | sleep (ms : Nat)
  /-- Executes an expression. -/
  | execute (expression : String)
  /-- Hands the results of a query to a channel. -/
  | deliver (destination : Destination) (query : StoredQuery) (results : QueryResults) (username : String)
  deriving Repr

/-- What a step is answered with. -/
abbrev Action.Answer : Action → Type
  | .look _ => Except SchedulerError (Option Marker)
  | .claim _ _ => Except SchedulerError Bool
  | .remove _ => Except SchedulerError Bool
  | .removeIfOwned _ _ => Except SchedulerError Bool
  | .draw => Marker
  | .schedule _ => Except SchedulerError Nat
  | .track _ _ _ => Unit
  | .release _ _ => Unit
  | .cancelTimers _ => Nat
  | .sleep _ => Unit
  | .execute _ => Except RunError QueryResults
  | .deliver _ _ _ _ => Outcome Unit

/-- A program: done with a value, or a step and what follows each answer. -/
inductive Program (α : Type) where
  | done (value : α)
  | step (action : Action) (next : action.Answer → Program α)

namespace Program

variable {α β γ : Type}

/-- One program after another. -/
def andThen : Program α → (α → Program β) → Program β
  | .done a, f => f a
  | .step action next, f => .step action fun answer => (next answer).andThen f

instance : Monad Program where
  pure := .done
  bind := andThen

/-- The program of a single step. -/
def ask (action : Action) : Program action.Answer := .step action .done

@[simp] theorem pure_eq (a : α) : (pure a : Program α) = .done a := rfl

@[simp] theorem done_bind (a : α) (f : α → Program β) : (Program.done a >>= f) = f a := rfl

@[simp] theorem step_bind (action : Action) (next : action.Answer → Program α) (f : α → Program β) :
    (Program.step action next >>= f) = .step action fun answer => next answer >>= f := rfl

@[simp] theorem bind_done (p : Program α) : (p >>= Program.done) = p := by
  induction p with
  | done a => rfl
  | step action next ih => simp [ih]

theorem bind_bind (p : Program α) (f : α → Program β) (g : β → Program γ) :
    (p >>= f >>= g) = p >>= fun a => f a >>= g := by
  induction p with
  | done a => rfl
  | step action next ih => simp [ih]

instance : LawfulMonad Program :=
  LawfulMonad.mk' Program bind_done (fun _ _ => rfl) bind_bind

end Program

end StandingQuery
