import StandingQuery.Outcome
import StandingQuery.Text.Digits

/-!
# Retrying

A bounded number of attempts with a fixed pause between two of them, for writes to a store whose reads lag behind. The pause
never grows, and none follows the last attempt.
-/

namespace StandingQuery

/-- How often to try, and how long to pause between two attempts. -/
structure RetryPolicy where
  maxAttempts : Nat
  delayMs : Nat
  deriving DecidableEq, Repr

namespace RetryPolicy

/-- Four attempts, 350 milliseconds apart: long enough for a catalog index to take in a write. -/
def standard : RetryPolicy := ⟨4, 350⟩

/-- What is reported once `attempts` attempts have failed, with the message of the last one. -/
def exhausted (attempts : Nat) (reason : String) : String :=
  "The operation did not succeed after " ++ Text.decimal attempts ++ " attempts: " ++ reason

variable {m : Type → Type} [Monad m] {α : Type}

/-- At most so many attempts, with a pause between two of them; the outcome of the last one made. -/
def attempts (pause : m Unit) (operation : m (Outcome α)) : Nat → m (Outcome α)
  | 0 => pure (Outcome.fail "no attempt was made")
  | 1 => operation
  | n + 2 => do
    match ← operation with
    | .ok a => pure (.ok a)
    | .error _ =>
      pause
      attempts pause operation (n + 1)

/-- Tries until an attempt succeeds or all have failed. -/
def run (policy : RetryPolicy) (sleep : Nat → m Unit) (operation : m (Outcome α)) : m (Outcome α) := do
  match ← attempts (sleep policy.delayMs) operation policy.maxAttempts with
  | .ok a => pure (.ok a)
  | .error last => pure (Outcome.fail (exhausted policy.maxAttempts last.message))

end RetryPolicy

end StandingQuery
