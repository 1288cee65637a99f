import StandingQuery.Outcome
import StandingQuery.TimeUnit
import StandingQuery.Time.Record

/-!
# Schedules

A schedule as it is stored with a query, where anything but the switch may be missing, and a schedule that has been checked and
is switched on. A stored schedule that is switched off is never looked into further.
-/

namespace StandingQuery

/-- A schedule as stored. -/
structure ScheduleRecord where
  isScheduled : Bool
  userId : Option String
  amount : Option Int
  unit : Option String
  start : Option String
  finish : Option String
  deliveryIds : Option (List String)
  deriving DecidableEq, Repr

/-- A schedule that is switched on and has been checked. -/
structure Schedule where
  /-- The user for whom results are delivered. -/
  username : String
  amount : Nat
  unit : TimeUnit
  start : Instant
  finish : Instant
  deliveryIds : List String
  deriving DecidableEq, Repr

/-- Why a stored schedule cannot be used. -/
inductive ScheduleError where
  | unreadable (m : Mismatch)
  | missing (key : String)
  | notPositive (amount : Int) (unit : String)
  | tooLarge (amount : Int) (unit : String)
  | badStart (text : String) (e : TimestampError)
  | badFinish (text : String) (e : TimestampError)
  | unknownUnit (name : String)
  deriving DecidableEq, Repr

namespace ScheduleError

/-- The message of an error. -/
def message : ScheduleError → String
  | .unreadable m => "The schedule data could not be read: " ++ m.inJson
  | .missing key => "The schedule has no value for \"" ++ key ++ "\"!"
  | .notPositive amount unit => "A task cannot be executed every " ++ Text.signedDecimal amount ++ " " ++ unit ++ "!"
  | .tooLarge amount unit => "The interval " ++ Text.signedDecimal amount ++ " " ++ unit ++ " is too large!"
  | .badStart text e =>
    "The start date attribute of this metacard, \"" ++ text ++ "\", could not be parsed: " ++ e.message
  | .badFinish text e =>
    "The end date attribute of this metacard, \"" ++ text ++ "\", could not be parsed: " ++ e.message
  | .unknownUnit name => TimeUnit.unknown name

/-- The failure that an error is reported as. -/
def failure (e : ScheduleError) : Failure := ⟨e.message⟩

end ScheduleError

namespace TimeUnit

/-- Decodes a unit by its stored name. -/
def decode : Json.Decoder TimeUnit := Json.variant (all.map fun u => (u.name, u))

/-- A unit as a value. -/
def encode (u : TimeUnit) : Json := .str u.name

end TimeUnit

namespace ScheduleRecord

open Json in
/-- Decodes a stored schedule. -/
def decode : Decoder ScheduleRecord :=
  record "ScheduleRecord" 7
    (fun o => do
      let deliveryIds ← member o "deliveryIds" (optional (list text))
      let isScheduled ← member o "isScheduled" boolean
      let amount ← member o "scheduleAmount" (optional signed64)
      let finish ← member o "scheduleEnd" (optional text)
      let start ← member o "scheduleStart" (optional text)
      let unit ← member o "scheduleUnit" (optional text)
      let userId ← member o "userId" (optional text)
      let isScheduled ← required "isScheduled" isScheduled
      return ⟨isScheduled, userId.join, amount.join, unit.join, start.join, finish.join, deliveryIds.join⟩)
    (fun row => do
      let isScheduled ← row.get 0 boolean none
      let userId ← row.get 1 (optional text) (some none)
      let amount ← row.get 2 (optional signed64) (some none)
      let unit ← row.get 3 (optional text) (some none)
      let start ← row.get 4 (optional text) (some none)
      let finish ← row.get 5 (optional text) (some none)
      let deliveryIds ← row.get 6 (optional (list text)) (some none)
      return ⟨isScheduled, userId, amount, unit, start, finish, deliveryIds⟩)

/-- A stored schedule as a value. -/
def encode (r : ScheduleRecord) : Json :=
  .obj [("deliveryIds", .ofOption .ofStrings r.deliveryIds), ("isScheduled", .bool r.isScheduled),
    ("scheduleAmount", .ofOption .ofInt r.amount), ("scheduleEnd", .ofOption .str r.finish),
    ("scheduleStart", .ofOption .str r.start), ("scheduleUnit", .ofOption .str r.unit), ("userId", .ofOption .str r.userId)]

/-- The stored schedule that a value holds. -/
def ofJson (j : Json) : Except ScheduleError ScheduleRecord :=
  match decode j with
  | .ok r => .ok r
  | .error m => .error (.unreadable m)

end ScheduleRecord

namespace Schedule

/-- The value of a field that a schedule needs. -/
def need {α : Type} (key : String) : Option α → Except ScheduleError α
  | some a => .ok a
  | none => .error (.missing key)

/-- The largest number of units between two runs. -/
def maxAmount : Int := 0xFFFFFFFF

/-- The number of units between two runs, which is at least one. -/
def checkAmount (amount : Int) (unit : String) : Except ScheduleError Nat :=
  if amount ≤ 0 then .error (.notPositive amount unit)
  else if maxAmount < amount then .error (.tooLarge amount unit)
  else .ok amount.toNat

/-- The instant at which a schedule begins. -/
def checkStart (text : String) : Except ScheduleError Instant :=
  match Timestamp.parse text with
  | .ok t => .ok t
  | .error e => .error (.badStart text e)

/-- The instant at which a schedule ends. -/
def checkFinish (text : String) : Except ScheduleError Instant :=
  match Timestamp.parse text with
  | .ok t => .ok t
  | .error e => .error (.badFinish text e)

/-- The unit of a schedule. -/
def checkUnit (name : String) : Except ScheduleError TimeUnit :=
  match TimeUnit.ofName? name with
  | some u => .ok u
  | none => .error (.unknownUnit name)

/-- Checks a stored schedule; nothing comes of one that is switched off. -/
def ofRecord (r : ScheduleRecord) : Except ScheduleError (Option Schedule) :=
  if !r.isScheduled then .ok none
  else do
    let username ← need "userId" r.userId
    let amount ← need "scheduleAmount" r.amount
    let unitName ← need "scheduleUnit" r.unit
    let startText ← need "scheduleStart" r.start
    let finishText ← need "scheduleEnd" r.finish
    let deliveryIds ← need "deliveryIds" r.deliveryIds
    let count ← checkAmount amount unitName
    let start ← checkStart startText
    let finish ← checkFinish finishText
    let unit ← checkUnit unitName
    return some ⟨username, count, unit, start, finish, deliveryIds⟩

/-- The schedule that a value holds, if it is switched on. -/
def ofJson (j : Json) : Except ScheduleError (Option Schedule) := do
  ofRecord (← ScheduleRecord.ofJson j)

open Json in
/-- Decodes a checked schedule. -/
def decode : Decoder Schedule :=
  record "ScheduleSpec" 6
    (fun o => do
      let deliveryIds ← member o "delivery_ids" (list text)
      let finish ← member o "end" Instant.decode
      let amount ← member o "interval_amount" (unsigned 32)
      let unit ← member o "interval_unit" TimeUnit.decode
      let start ← member o "start" Instant.decode
      let username ← member o "username" text
      return ⟨← required "username" username, ← required "interval_amount" amount, ← required "interval_unit" unit,
        ← required "start" start, ← required "end" finish, ← required "delivery_ids" deliveryIds⟩)
    (fun row => do
      return ⟨← row.get 0 text none, ← row.get 1 (unsigned 32) none, ← row.get 2 TimeUnit.decode none,
        ← row.get 3 Instant.decode none, ← row.get 4 Instant.decode none, ← row.get 5 (list text) none⟩)

/-- A checked schedule as a value. -/
def encode (s : Schedule) : Json :=
  .obj [("delivery_ids", .ofStrings s.deliveryIds), ("end", s.finish.encode), ("interval_amount", .ofNat s.amount),
    ("interval_unit", s.unit.encode), ("start", s.start.encode), ("username", .str s.username)]

end Schedule

end StandingQuery
