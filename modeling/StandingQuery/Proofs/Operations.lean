import StandingQuery.Engine.Tick
import StandingQuery.Engine.Activation
import StandingQuery.Proofs.Interaction

/-!
# What the operations of the engine ask for

One bound for each operation: an activation draws its marker first, claims its entry with that marker until it has won it,
starts timers only then, and ends by tracking them or by giving the entry up (`Activation.keeps_activate`). A cancellation
removes the entry before it cancels timers (`Activation.keeps_cancel`). A tick goes beyond its look at the registry only when
its token is confirmed (`Job.keeps_tick`), and a job that stops gives its entry up before it releases its timers
(`Job.keeps_afterTick`).
-/

namespace StandingQuery

namespace Happening

/-- The handle of the timer that a step started, if it started one. -/
def handle? : Happening → Option Nat
  | ⟨.schedule _, .ok handle⟩ => some handle
  | _ => none

/-- Whether a step is the last one of an activation: it tracks the timers, or gives the entry up. -/
def settles : Happening → Bool
  | ⟨.track _ _ _, _⟩ => true
  | ⟨.removeIfOwned _ _, _⟩ => true
  | _ => false

/-- A step that settles an activation tracks timers, or gives an entry up. -/
theorem settles_iff {h : Happening} :
    h.settles = true ↔ (∃ id token handles, h = ⟨.track id token handles, ()⟩) ∨
      ∃ id token answer, h = ⟨.removeIfOwned id token, answer⟩ := by
  constructor
  · intro hs
    unfold settles at hs
    split at hs
    · exact Or.inl ⟨_, _, _, rfl⟩
    · exact Or.inr ⟨_, _, _, rfl⟩
    · cases hs
  · rintro (⟨_, _, _, rfl⟩ | ⟨_, _, _, rfl⟩) <;> rfl

end Happening

open Program

namespace Activation

/-- The marker with which an activation began. -/
def Drew (past : List Happening) (m : Marker) : Prop := past.head? = some ⟨.draw, m⟩

/-- The entry of a query was claimed with a marker. -/
def Won (past : List Happening) (id : String) (m : Marker) : Prop := (⟨.claim id m, .ok true⟩ : Happening) ∈ past

/-- The handles of the timers started, in order. -/
def started (past : List Happening) : List Nat := past.filterMap Happening.handle?

/-- Nothing was tracked or given up. -/
def Unsettled (past : List Happening) : Prop := ∀ h ∈ past, h.settles = false

/-- What an activation asks for. -/
inductive Asks (query : StoredQuery) (past : List Happening) : Action → Prop where
  | draw (first : past = []) : Asks query past .draw
  | claim {m : Marker} (drew : Drew past m) (notYet : ∀ id m, ¬Won past id m) : Asks query past (.claim query.id m)
  | sleep (ms : Nat) : Asks query past (.sleep ms)
  | schedule {m : Marker} (schedule : Schedule) (drew : Drew past m) (won : Won past query.id m)
      (unsettled : Unsettled past) : Asks query past (.schedule (.start query m.token schedule))
  | giveUp {m : Marker} (drew : Drew past m) (won : Won past query.id m) (unsettled : Unsettled past)
      (nothing : started past = []) : Asks query past (.removeIfOwned query.id m.token)
  | track {m : Marker} (drew : Drew past m) (won : Won past query.id m) (unsettled : Unsettled past)
      (something : started past ≠ []) : Asks query past (.track query.id m.token (started past))

/-- How an activation ends: one that claimed the entry has tracked its timers or given the entry up. -/
def Ends (query : StoredQuery) (past : List Happening) (_ : Outcome Unit) : Prop :=
  ∀ m, Won past query.id m → ∃ h ∈ past, h.settles = true

/-- Before the claim: the marker is drawn and nothing else is done. -/
structure Trying (past : List Happening) (m : Marker) : Prop where
  drew : Drew past m
  notYet : ∀ id m, ¬Won past id m
  nothing : started past = []
  unsettled : Unsettled past

/-- After the claim: timers are started. -/
structure Starting (query : StoredQuery) (past : List Happening) (m : Marker) : Prop where
  drew : Drew past m
  won : Won past query.id m
  unsettled : Unsettled past

/-- What is known once a claim has come out. -/
def AfterClaim (query : StoredQuery) (m : Marker) (past : List Happening) : Outcome Unit → Prop
  | .ok () => Starting query past m ∧ started past = []
  | .error _ => Trying past m

namespace Aux

theorem drew_append {past : List Happening} {m : Marker} (h : Drew past m) (new : List Happening) :
    Drew (past ++ new) m := by
  unfold Drew at *
  rw [List.head?_append, h]
  rfl

/-- A step that neither wins the entry nor starts or settles anything changes nothing of what is known before the claim. -/
theorem Trying.append {past : List Happening} {m : Marker} (h : Trying past m) (new : Happening)
    (hw : ∀ id m, new ≠ ⟨.claim id m, .ok true⟩) (hs : new.handle? = none) (hu : new.settles = false) :
    Trying (past ++ [new]) m where
  drew := drew_append h.drew _
  notYet id m' hm := by
    rcases List.mem_append.1 hm with hm | hm
    · exact h.notYet id m' hm
    · exact hw id m' (List.mem_singleton.1 hm).symm
  nothing := by
    simp [started, hs]
    simpa [started] using h.nothing
  unsettled happening hm := by
    rcases List.mem_append.1 hm with hm | hm
    · exact h.unsettled happening hm
    · rw [List.mem_singleton.1 hm, hu]

/-- A won claim ends what is known before it. -/
theorem Starting.of_won {query : StoredQuery} {past : List Happening} {m : Marker} (h : Trying past m) :
    Starting query (past ++ [⟨.claim query.id m, .ok true⟩]) m ∧
      started (past ++ [⟨.claim query.id m, .ok true⟩]) = [] := by
  refine ⟨⟨drew_append h.drew _, List.mem_append_right _ (List.mem_singleton_self _), fun happening hm => ?_⟩, ?_⟩
  · rcases List.mem_append.1 hm with hm | hm
    · exact h.unsettled happening hm
    · rw [List.mem_singleton.1 hm]
      rfl
  · have hn := h.nothing
    unfold started at hn ⊢
    rw [List.filterMap_append, hn]
    rfl

/-- One attempt to claim wins the entry or leaves everything as before the claim. -/
theorem keeps_claimOnce (query : StoredQuery) {past : List Happening} {m : Marker} (h : Trying past m) :
    Keeps (Asks query) (AfterClaim query m) (claimOnce query.id m) past := by
  unfold claimOnce
  rw [ask_bind]
  refine ⟨.claim h.drew h.notYet, fun answer => ?_⟩
  match answer with
  | .ok true => exact Starting.of_won h
  | .ok false => exact Trying.append h ⟨.claim query.id m, .ok false⟩ (by simp) rfl rfl
  | .error e => exact Trying.append h ⟨.claim query.id m, .error e⟩ (by simp) rfl rfl

/-- Attempts to claim with pauses between them, as many as there may be. -/
theorem keeps_attempts (query : StoredQuery) (ms : Nat) {m : Marker} (n : Nat) {past : List Happening} (h : Trying past m) :
    Keeps (Asks query) (AfterClaim query m)
      (RetryPolicy.attempts (Program.ask (.sleep ms)) (claimOnce query.id m) n) past := by
  induction n generalizing past with
  | zero => exact h
  | succ n ih =>
    cases n with
    | zero => exact keeps_claimOnce query h
    | succ n =>
      refine keeps_bind _ (keeps_claimOnce query h) fun past outcome ho => ?_
      cases outcome with
      | ok _ => exact ho
      | error f =>
        refine ⟨.sleep ms, fun answer => ?_⟩
        exact ih (Trying.append ho ⟨.sleep ms, answer⟩ (by simp) rfl rfl)

/-- A claim in either mode wins the entry or leaves everything as before the claim. -/
theorem keeps_claim (services : Services) (mode : ClaimMode) (query : StoredQuery) {past : List Happening} {m : Marker}
    (h : Trying past m) : Keeps (Asks query) (AfterClaim query m) (claim services mode query.id m) past := by
  cases mode with
  | once => exact keeps_claimOnce query h
  | retrying =>
    refine keeps_bind _ (keeps_attempts query _ _ h) fun past outcome ho => ?_
    cases outcome with
    | ok _ => exact ho
    | error f => exact ho

/-- Starting a timer adds its handle, if there is one, to those started. -/
theorem started_schedule (past : List Happening) (job : Job) (answer : Except SchedulerError Nat) :
    started (past ++ [⟨.schedule job, answer⟩]) = started past ++ answer.toOption.toList := by
  unfold started
  rw [List.filterMap_append]
  cases answer <;> rfl

/-- The timers of an activation that won the entry: one is asked for per schedule, then they are tracked or the entry is given
up. -/
theorem keeps_startTimers (query : StoredQuery) (schedules : List Schedule) {past : List Happening} {m : Marker}
    (h : Starting query past m) (hs : started past = []) :
    Keeps (Asks query) (fun past _ => ∃ h ∈ past, h.settles = true) (startTimers query m.token schedules) past := by
  have hstart : Keeps (Asks query)
      (fun past (values : List (Outcome Nat)) => Starting query past m ∧ started past = values.filterMap Except.toOption)
      (schedules.mapM (startTimer query m.token)) past := by
    refine keeps_mapM (fun past values => Starting query past m ∧ started past = values.filterMap Except.toOption) schedules
      (fun schedule _ past values hc => ?_) [] ⟨h, hs⟩
    refine ⟨.schedule schedule hc.1.drew hc.1.won hc.1.unsettled, fun answer => ⟨⟨drew_append hc.1.drew _, ?_, ?_⟩, ?_⟩⟩
    · exact List.mem_append_left _ hc.1.won
    · intro happening hm
      rcases List.mem_append.1 hm with hm | hm
      · exact hc.1.unsettled happening hm
      · rw [List.mem_singleton.1 hm]
        rfl
    · rw [started_schedule, hc.2, List.filterMap_append]
      cases answer <;> rfl
  refine keeps_bind _ hstart fun past values hv => ?_
  obtain ⟨hstarting, hvalues⟩ := hv
  rw [← hvalues]
  split
  · rename_i hnone
    refine ⟨.giveUp hstarting.drew hstarting.won hstarting.unsettled hnone, fun answer => ?_⟩
    exact ⟨_, List.mem_append_right _ (List.mem_singleton_self _), rfl⟩
  · rename_i hsome
    refine ⟨.track hstarting.drew hstarting.won hstarting.unsettled hsome, fun answer => ?_⟩
    exact ⟨_, List.mem_append_right _ (List.mem_singleton_self _), rfl⟩

end Aux

open Aux in
/-- An activation asks for nothing else, and ends settled. -/
theorem keeps_activate (services : Services) (mode : ClaimMode) (query : StoredQuery) :
    Keeps (Asks query) (Ends query) (activate services mode query) [] := by
  have hnone : ∀ (o : Outcome Unit), Ends query [] o := by
    intro o m hm
    exact absurd hm (List.not_mem_nil)
  unfold activate
  simp only
  split
  · exact hnone _
  split
  · exact hnone _
  · rw [ask_bind]
    refine ⟨.draw rfl, fun m => ?_⟩
    have htrying : Trying ([] ++ [⟨.draw, m⟩]) m := by
      refine ⟨rfl, fun id m' hm => ?_, rfl, fun happening hm => ?_⟩
      · cases List.mem_singleton.1 hm
      · rw [List.mem_singleton.1 hm]
        rfl
    refine keeps_bind _ (keeps_claim services mode query htrying) fun past outcome ho => ?_
    cases outcome with
    | error f => exact fun m' hm' => absurd hm' (ho.notYet _ _)
    | ok _ =>
      obtain ⟨hstarting, hs⟩ := ho
      exact keeps_bind _ (keeps_startTimers query _ hstarting hs) fun past values hsettled m' _ => hsettled

/-- What a cancellation asks for: the entry is removed before the timers are cancelled. -/
inductive CancelAsks (id : String) (past : List Happening) : Action → Prop where
  | remove (first : past = []) : CancelAsks id past (.remove id)
  | cancelTimers {answer : (Action.remove id).Answer} (removed : past = [⟨.remove id, answer⟩]) :
      CancelAsks id past (.cancelTimers id)

/-- A cancellation asks for nothing else. -/
theorem keeps_cancel (id : String) : Keeps (CancelAsks id) (fun _ _ => True) (cancel id) [] := by
  unfold cancel
  rw [ask_bind]
  refine ⟨.remove rfl, fun answer => ?_⟩
  match answer with
  | .error e => trivial
  | .ok removed => exact ⟨.cancelTimers rfl, fun _ => trivial⟩

end Activation

namespace Job

/-- The registry was looked at first, and confirmed the job's token. -/
def Confirmed (job : Job) (past : List Happening) : Prop :=
  ∃ read, past.head? = some ⟨.look job.query.id, read⟩ ∧ Marker.confirms read job.token = true

/-- What a tick asks for: it looks first, and goes on only when its token is confirmed. -/
inductive TickAsks (job : Job) (past : List Happening) : Action → Prop where
  | look (first : past = []) : TickAsks job past (.look job.query.id)
  | execute (confirmed : job.Confirmed past) : TickAsks job past (.execute job.query.expression)
  | deliver (confirmed : job.Confirmed past) (destination : Destination) (results : QueryResults) :
      TickAsks job past (.deliver destination job.query results job.schedule.username)

/-- How a tick ends: of its job only the last firing may be another, and one whose token was not confirmed is inactive and has
only looked. -/
def TickEnds (job : Job) (past : List Happening) (result : TickOutcome × Job) : Prop :=
  (∃ last, result.2 = { job with lastFired := last }) ∧
    (job.Confirmed past ∨ result = (.inactive, job) ∧ ∃ read, past = [⟨.look job.query.id, read⟩])

/-- What a job asks for when it is told its next instant: the entry is given up before the timers are released. -/
inductive AfterTickAsks (job : Job) (past : List Happening) : Action → Prop where
  | look (first : past = []) : AfterTickAsks job past (.look job.query.id)
  | giveUp : AfterTickAsks job past (.removeIfOwned job.query.id job.token)
  | release {answer : (Action.removeIfOwned job.query.id job.token).Answer}
      (gaveUp : ⟨.removeIfOwned job.query.id job.token, answer⟩ ∈ past) :
      AfterTickAsks job past (.release job.query.id job.token)

/-- What a job answers when it was told its next instant: it goes on only when its token was confirmed, and when it stops it has
given up its entry. -/
def AfterTickEnds (job : Job) (past : List Happening) : Continuation → Prop
  | .goOn => job.Confirmed past
  | .stop => ∃ answer, ⟨.removeIfOwned job.query.id job.token, answer⟩ ∈ past

namespace Aux

theorem confirmed_append {job : Job} {past : List Happening} (h : job.Confirmed past) (new : List Happening) :
    job.Confirmed (past ++ new) := by
  obtain ⟨read, hread, hconfirms⟩ := h
  refine ⟨read, ?_, hconfirms⟩
  rw [List.head?_append, hread]
  rfl

/-- Deliveries ask for nothing but deliveries, whatever held before them and a delivery leaves so. -/
theorem keeps_deliverAll (holds : List Happening → Prop) (services : Services) (job : Job) (results : QueryResults)
    (hstays : ∀ past destination answer, holds past →
      holds (past ++ [⟨.deliver destination job.query results job.schedule.username, answer⟩]))
    {past : List Happening} (h : holds past) :
    Keeps (fun past action => holds past ∧ ∃ destination, action = .deliver destination job.query results job.schedule.username)
      (fun past _ => holds past) (deliverAll services job results) past := by
  unfold deliverAll Outcome.forEach
  refine keeps_bind (fun past _ => holds past) ?_ fun past _ h => h
  refine keeps_mapM (fun past _ => holds past) _ (fun deliveryId _ past _ h => ?_) [] h
  unfold deliverTo
  simp only
  split
  · exact h
  · exact ⟨⟨h, _, rfl⟩, fun _ => hstays _ _ _ h⟩

/-- Deliveries of a tick whose token was confirmed. -/
theorem keeps_deliverAll_of_confirmed (services : Services) (job : Job) (results : QueryResults) {past : List Happening}
    (h : job.Confirmed past) :
    Keeps job.TickAsks (fun past _ => job.Confirmed past) (deliverAll services job results) past := by
  refine (keeps_deliverAll job.Confirmed services job results (fun _ _ _ hc => confirmed_append hc _) h).imp ?_ fun _ _ hc => hc
  rintro past action ⟨hc, destination, rfl⟩
  exact .deliver hc destination results

end Aux

/-- A tick is a look at the registry and what the gate then says. -/
theorem tick_eq (services : Services) (job : Job) (now : Instant) :
    job.tick services now = .step (.look job.query.id) fun read =>
      match job.gate (Marker.confirms read job.token) now with
      | .shut outcome => .done (outcome, job)
      | .fire minute => do
        let outcome ← { job with lastFired := some minute }.fire services
        return (outcome, { job with lastFired := some minute }) := rfl

/-- What a job does that stops. -/
def stopping (job : Job) : Program Continuation :=
  .step (.removeIfOwned job.query.id job.token) fun _ => .step (.release job.query.id job.token) fun _ => .done .stop

/-- A job that is told its next instant stops if it is over; otherwise it looks at the registry, and stops unless its token is
confirmed. -/
theorem afterTick_eq (job : Job) (next : Option Instant) :
    job.afterTick next =
      if job.isOver next then job.stopping
      else .step (.look job.query.id) fun read =>
        if Marker.confirms read job.token then .done .goOn else job.stopping := by
  unfold afterTick stops
  split
  · rfl
  · refine congrArg (Program.step (.look job.query.id)) (funext fun read => ?_)
    cases h : Marker.confirms read job.token with
    | true => simp [Program.andThen, h]
    | false =>
      simp [Program.andThen, h]
      rfl

open Aux in
/-- A tick asks for nothing else, and ends so. -/
theorem keeps_tick (services : Services) (job : Job) (now : Instant) :
    Keeps job.TickAsks job.TickEnds (job.tick services now) [] := by
  rw [tick_eq]
  refine ⟨.look rfl, fun read => ?_⟩
  simp only [List.nil_append]
  by_cases hc : Marker.confirms read job.token = true
  · have hconfirmed : job.Confirmed [⟨.look job.query.id, read⟩] := ⟨read, rfl, hc⟩
    split
    · exact ⟨⟨job.lastFired, rfl⟩, Or.inl hconfirmed⟩
    · refine keeps_bind (fun past _ => job.Confirmed past) ?_ fun past _ h => ⟨⟨_, rfl⟩, Or.inl h⟩
      unfold fire
      rw [ask_bind]
      refine ⟨.execute hconfirmed, fun answer => ?_⟩
      have hafter := confirmed_append hconfirmed [⟨.execute job.query.expression, answer⟩]
      match answer with
      | .error e => exact hafter
      | .ok results =>
        refine keeps_bind _ (keeps_deliverAll_of_confirmed services _ results hafter) fun past outcome h => ?_
        cases outcome <;> exact h
  · rw [Bool.not_eq_true] at hc
    rw [hc]
    exact ⟨⟨job.lastFired, rfl⟩, Or.inr ⟨rfl, read, rfl⟩⟩

namespace Aux

/-- A job that stops gives up its entry before it releases its timers. -/
theorem keeps_stopping (job : Job) (past : List Happening) :
    Keeps job.AfterTickAsks job.AfterTickEnds job.stopping past := by
  refine ⟨.giveUp, fun answer => ⟨.release (List.mem_append_right _ (List.mem_singleton_self _)), fun _ => ?_⟩⟩
  exact ⟨answer, List.mem_append_left _ (List.mem_append_right _ (List.mem_singleton_self _))⟩

end Aux

open Aux in
/-- A job that is told its next instant asks for nothing else, and answers so. -/
theorem keeps_afterTick (job : Job) (next : Option Instant) :
    Keeps job.AfterTickAsks job.AfterTickEnds (job.afterTick next) [] := by
  rw [afterTick_eq]
  split
  · exact keeps_stopping job _
  · refine ⟨.look rfl, fun read => ?_⟩
    simp only [List.nil_append]
    split
    · rename_i hc
      exact ⟨read, rfl, hc⟩
    · exact keeps_stopping job _

end Job

end StandingQuery
