import StandingQuery.Keyed

/-!
# Local timers

The timers that one process has started, by query and by activation. A timer has a handle; a handle may be cancelled, and may
have finished on its own. What is tracked for a query can be released activation by activation, or cancelled as a whole.
-/

namespace StandingQuery

/-- What has become of a timer. -/
structure TimerHandle where
  finished : Bool
  cancelled : Bool
  deriving DecidableEq, Repr

namespace TimerHandle

/-- A timer that runs. -/
def running : TimerHandle := ⟨false, false⟩

/-- Whether a timer is over: a cancelled one is. -/
def isOver (h : TimerHandle) : Bool := h.finished || h.cancelled

end TimerHandle

/-- The handles of the timers started so far, by number, and those tracked for each query with their tokens. -/
structure LocalTimers (τ : Type) where
  handles : List TimerHandle
  tracked : Keyed (List (τ × Nat))
  deriving Repr

namespace LocalTimers

variable {τ : Type}

/-- No timers. -/
def empty : LocalTimers τ := ⟨[], []⟩

/-- Whether the timer with a number is over; one that was never started is. -/
def isOver (t : LocalTimers τ) (handle : Nat) : Bool := (t.handles[handle]?.map TimerHandle.isOver).getD true

/-- Starts a timer, and gives the number of its handle. -/
def start (t : LocalTimers τ) : Nat × LocalTimers τ :=
  (t.handles.length, { t with handles := t.handles ++ [.running] })

/-- Starts so many timers. -/
def startMany : Nat → LocalTimers τ → List Nat × LocalTimers τ
  | 0, t => ([], t)
  | n + 1, t =>
    let (h, t) := t.start
    let (hs, t) := startMany n t
    (h :: hs, t)

/-- Marks a timer as finished on its own. -/
def finish (t : LocalTimers τ) (handle : Nat) : LocalTimers τ :=
  { t with handles := t.handles.modify handle fun h => { h with finished := true } }

/-- Cancels a timer. -/
def cancel (t : LocalTimers τ) (handle : Nat) : LocalTimers τ :=
  { t with handles := t.handles.modify handle fun h => { h with cancelled := true } }

/-- The timers tracked for a query, with their tokens. -/
def trackedFor (t : LocalTimers τ) (id : String) : List (τ × Nat) := (Keyed.get? t.tracked id).getD []

/-- Tracks the timers of an activation, dropping those of the query that are over. -/
def track (t : LocalTimers τ) (id : String) (token : τ) (started : List Nat) : LocalTimers τ :=
  let kept := (t.trackedFor id).filter fun e => !t.isOver e.2
  { t with tracked := Keyed.set id (kept ++ started.map fun h => (token, h)) t.tracked }

/-- Forgets the timers of the activation with a token, without cancelling them. -/
def release [DecidableEq τ] (t : LocalTimers τ) (id : String) (token : τ) : LocalTimers τ :=
  match Keyed.get? t.tracked id with
  | none => t
  | some entries =>
    match entries.filter fun e => e.1 != token with
    | [] => { t with tracked := Keyed.erase id t.tracked }
    | kept => { t with tracked := Keyed.set id kept t.tracked }

/-- Cancels and forgets all timers of a query, and gives them. -/
def cancelAll (t : LocalTimers τ) (id : String) : List Nat × LocalTimers τ :=
  let handles := (t.trackedFor id).map (·.2)
  (handles, handles.foldl cancel { t with tracked := Keyed.erase id t.tracked })

/-- The number of timers tracked for a query that are not over. -/
def count (t : LocalTimers τ) (id : String) : Nat := ((t.trackedFor id).filter fun e => !t.isOver e.2).length

end LocalTimers

end StandingQuery
