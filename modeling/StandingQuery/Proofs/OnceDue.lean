import StandingQuery.Proofs.Deliveries
import StandingQuery.Proofs.ElapsedTime
import StandingQuery.Proofs.Rhythm

/-!
# A job that is due stays due

A tick that fires at an instant would have fired at any later instant from the same state, however its registry and its last firing
stand (`Job.stays_due`): its start stays reached, and the units that have elapsed since the last firing do not become fewer, since
a job counts them up to whole minutes. Up to any instants they may, but for no other reason than that a leap second is lost
(`TimeUnit.CountsUp`, `TimeUnit.elapsed_falls`).
-/

namespace StandingQuery

/-- Whether a tick fired: the query was executed, whatever came of it. -/
def TickOutcome.fired : TickOutcome → Bool
  | .delivered | .failed _ => true
  | .inactive | .beforeStart | .waiting => false

namespace Job

variable {ρ : Type} [JobRegistry ρ]

/-- Whether a job fires at an instant, as its engine stands. -/
def FiresFrom (services : Services) (s : EngineState ρ) (job : Job) (now : Instant) : Prop :=
  ((job.tick services now).run services s).1.1.fired = true

/-- A gate that is shut lets nothing fire. -/
theorem fired_of_gate {job : Job} {confirmed : Bool} {now : Instant} {outcome : TickOutcome}
    (h : job.gate confirmed now = .shut outcome) : outcome.fired = false := by
  unfold gate at h
  split at h
  · cases h
    rfl
  · split at h
    · cases h
      rfl
    · split at h
      · cases h
        rfl
      · cases h

/-- A firing has fired, whatever comes of it. -/
theorem fired_fire (services : Services) (job : Job) (s : EngineState ρ) : ((job.fire services).run services s).1.fired = true := by
  rw [fire_eq, Program.run_step]
  cases (s.perform services (.execute job.query.expression)).1 with
  | error e => rfl
  | ok results =>
    simp only [Program.run_bind, Program.pure_eq, Program.run_done]
    cases ((job.deliverAll services results).run services (s.perform services (.execute job.query.expression)).2).1 <;> rfl

/-- A job fires exactly when the registry holds its token, its start is reached and it is due. -/
theorem firesFrom_iff {services : Services} {s : EngineState ρ} {job : Job} {now : Instant} :
    job.FiresFrom services s now ↔ JobRegistry.holds s.registry job.query.id job.token = true ∧ job.fires now = true := by
  unfold FiresFrom JobRegistry.holds
  have hgate := job.gate_eq now
  rw [tick_eq, Program.run_step]
  simp only [EngineState.perform]
  cases Marker.confirms (JobRegistry.get s.registry job.query.id) job.token with
  | false =>
    have hshut : job.gate false now = .shut .inactive := rfl
    simp [hshut, TickOutcome.fired]
  | true =>
    cases hfires : job.fires now with
    | false =>
      obtain ⟨outcome, hshut⟩ : ∃ outcome, job.gate true now = .shut outcome := by simpa [hfires] using hgate
      simp [hshut, fired_of_gate hshut]
    | true =>
      have hfire : job.gate true now = .fire now.toMinute := by simpa [hfires] using hgate
      simp [hfire, Program.run_bind, fired_fire]

/-- A job that would fire fires at any later instant as well. -/
theorem fires_later {job : Job} {now later : Instant} (h : now ≤ later) (hfires : job.fires now = true) :
    job.fires later = true := by
  rw [fires_iff] at *
  obtain ⟨hstart, hdue⟩ := hfires
  refine ⟨hstart.trans h, ?_⟩
  unfold isDue at *
  cases hlast : job.lastFired with
  | none => rfl
  | some last =>
    simp only [hlast, decide_eq_true_eq] at hdue ⊢
    exact hdue.trans (TimeUnit.elapsed_le_of_later_minute _ last now.isMinute_toMinute later.isMinute_toMinute
      (Instant.toMinute_mono h))

end Job

/-- How the units that have elapsed change with the instants that they are counted between. -/
structure TimeUnit.CountsUp (unit : TimeUnit) : Prop where
  self : ∀ t, unit.elapsed t t = 0
  /-- They are no fewer for a later end and an earlier beginning, unless a leap second is lost. -/
  grows : ∀ since since' upTo upTo' : Instant, since' ≤ since → upTo ≤ upTo' →
    unit.elapsed since upTo ≤ unit.elapsed since' upTo' ∨ unit.LeapLost since since' upTo upTo'
  /-- They are counted without any number on the way leaving its bits. -/
  fits : ∀ since upTo : Instant, since.Representable → upTo.Representable →
    unit.elapsed? since upTo = some (unit.elapsed since upTo)

/-- Every unit counts up. -/
theorem TimeUnit.countsUp (unit : TimeUnit) : unit.CountsUp where
  self := unit.elapsed_self
  grows _ _ _ _ hearlier hlater := unit.elapsed_le_or_leapLost hearlier hlater
  fits _ _ hs hu := unit.elapsed?_eq hs hu

/-- A job that would fire at an instant would fire at every later one, as everything stands; and the units that it counts are
counted up by time, but for a leap second that is lost. -/
theorem Job.stays_due {ρ : Type} [JobRegistry ρ] (services : Services) (job : Job) (s : EngineState ρ) :
    (∀ now later, now ≤ later → job.FiresFrom services s now → job.FiresFrom services s later) ∧
      ∀ unit : TimeUnit, unit.CountsUp := by
  refine ⟨fun now later h hfires => ?_, TimeUnit.countsUp⟩
  rw [firesFrom_iff] at *
  exact ⟨hfires.1, fires_later h hfires.2⟩

namespace Job.Sample

/-- A yearly job that fired at the end of 2015. -/
def yearly : Job :=
  { Job.start Cluster.Sample.query (.ofNat 1) ⟨"alice", 1, .years, ⟨1451606340, 0⟩, ⟨1609459140, 0⟩, []⟩ with
    lastFired := some ⟨1451606340, 0⟩ }

/-- In the leap second at the end of 2016. -/
def leapSecond : Instant := ⟨1483228799, 1500000000⟩

/-- Half a second later. -/
def newYear : Instant := ⟨1483228800, 0⟩

/-- The first and the last moment of the calendar, the last one in a leap second. -/
def calendarStart : Instant := ⟨-8334601228800, 0⟩

@[inherit_doc calendarStart] def calendarEnd : Instant := ⟨8210266876799, 1999999999⟩

end Job.Sample

open Course.Sample Job.Sample in
/-- A job that is due in a leap second, a moment later, and the weeks of the whole calendar. -/
theorem Job.stays_due_leapSecond :
    (leapSecond ≤ newYear ∧ yearly.FiresFrom (posting (.ok .empty)) holding leapSecond ∧
      yearly.FiresFrom (posting (.ok .empty)) holding newYear) ∧
    calendarStart.Representable ∧ calendarEnd.Representable ∧
      TimeUnit.weeks.elapsed? calendarStart calendarEnd = some (TimeUnit.weeks.elapsed calendarStart calendarEnd) ∧
      (TimeUnit.weeks.elapsed calendarStart leapSecond ≤ TimeUnit.weeks.elapsed calendarStart newYear ∨
        TimeUnit.weeks.LeapLost calendarStart calendarStart leapSecond newYear) := by
  have hle : leapSecond ≤ newYear := by decide
  have hfires : yearly.FiresFrom (posting (.ok .empty)) holding leapSecond := by
    unfold FiresFrom
    decide +kernel
  have hstart : calendarStart.Representable := ⟨by decide, by decide⟩
  have hend : calendarEnd.Representable := ⟨by decide, by decide⟩
  obtain ⟨hstays, hcounts⟩ := stays_due (posting (.ok .empty)) yearly holding
  exact ⟨⟨hle, hfires, hstays _ _ hle hfires⟩, hstart, hend, (hcounts .weeks).fits _ _ hstart hend,
    (hcounts .weeks).grows _ _ _ _ le_rfl hle⟩

open Job.Sample in
/-- Leap seconds are lost: up to one a minute has passed that has not passed when it is over, and from one a minute has passed that
has not passed from a moment before it. -/
theorem TimeUnit.elapsed_falls :
    (¬∀ (unit : TimeUnit) (since upTo upTo' : Instant), since.Representable → upTo.Representable → upTo'.Representable →
      upTo ≤ upTo' → unit.elapsed since upTo ≤ unit.elapsed since upTo') ∧
    ¬∀ (unit : TimeUnit) (since since' upTo : Instant), since.Representable → since'.Representable → upTo.Representable →
      since' ≤ since → unit.elapsed since upTo ≤ unit.elapsed since' upTo := by
  constructor
  · intro h
    have hfalls := h .minutes ⟨1483228740, 200000000⟩ leapSecond newYear ⟨by decide, by decide⟩ ⟨by decide, by decide⟩
      ⟨by decide, by decide⟩ (by decide)
    exact absurd hfalls (by decide)
  · intro h
    have hfalls := h .minutes ⟨1483185659, 1500000000⟩ ⟨1483185659, 900000000⟩ ⟨1483185719, 500000000⟩ ⟨by decide, by decide⟩
      ⟨by decide, by decide⟩ ⟨by decide, by decide⟩ (by decide)
    exact absurd hfalls (by decide)

end StandingQuery
