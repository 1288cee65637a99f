/-!
# Outcomes

Every operation of the engine reports a problem as a message for people, so that the problems of many independent parts
(destinations, schedules, queries, records) can be put together into one report without losing any of them.
-/

namespace StandingQuery

/-- Why something did not work, in words. -/
structure Failure where
  message : String
  deriving DecidableEq, Repr, Inhabited

/-- A value, or the failure that came instead. -/
abbrev Outcome (α : Type) := Except Failure α

namespace Failure

/-- The failure with more words in front. -/
def prepend (front : String) (f : Failure) : Failure := ⟨front ++ f.message⟩

end Failure

namespace Outcome

variable {α β : Type}

/-- A failure with these words. -/
def fail (message : String) : Outcome α := .error ⟨message⟩

/-- The value of an option, or a failure with these words. -/
def ofOption (message : String) : Option α → Outcome α
  | some a => .ok a
  | none => fail message

/-- The outcome with more words in front of its failure; a value passes through. -/
def prepend (front : String) : Outcome α → Outcome α
  | .ok a => .ok a
  | .error f => .error (f.prepend front)

/-- Whether there was a value, without the value. -/
def discard : Outcome α → Outcome Unit
  | .ok _ => .ok ()
  | .error f => .error f

/-- The outcome with its value changed. -/
def mapValue (f : α → β) : Outcome α → Outcome β
  | .ok a => .ok (f a)
  | .error e => .error e

/-- The message of a failure, if the outcome is one. -/
def message? : Outcome α → Option String
  | .ok _ => none
  | .error f => some f.message

/-- The messages of the failures among some outcomes, in order. -/
def messages (outcomes : List (Outcome α)) : List String := outcomes.filterMap message?

/-- Success if every outcome is one; otherwise all the messages in order, one below the other. -/
def all (outcomes : List (Outcome α)) : Outcome Unit :=
  match messages outcomes with
  | [] => .ok ()
  | first :: rest => fail ("\n".intercalate (first :: rest))

/-- Does something with every input, whatever came of the inputs before it, and reports all the failures. -/
def forEach {m : Type → Type} [Monad m] (f : β → m (Outcome α)) (inputs : List β) : m (Outcome Unit) := do
  let outcomes ← inputs.mapM f
  return all outcomes

@[simp] theorem message?_ok (a : α) : message? (.ok a : Outcome α) = none := rfl

@[simp] theorem message?_error (f : Failure) : message? (.error f : Outcome α) = some f.message := rfl

@[simp] theorem messages_nil : messages ([] : List (Outcome α)) = [] := rfl

theorem messages_append (xs ys : List (Outcome α)) : messages (xs ++ ys) = messages xs ++ messages ys := by
  simp [messages]

end Outcome

end StandingQuery
