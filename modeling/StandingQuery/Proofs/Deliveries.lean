import StandingQuery.Proofs.Cluster
import StandingQuery.Proofs.Courses
import StandingQuery.Proofs.Reports

/-!
# What a firing delivers

A firing whose query ran tries every delivery of its schedule, one after the other and once for every time that it is listed.
Where a delivery goes is decided by the user, its identifier, the preferences and the channels alone (`Services.call`); what comes
of it is its own (`Services.Attempt`); and the outcome of the tick reports every failure (`Job.Delivers`). All that is said here
holds whatever others do to the engine between the steps of the tick (`Job.delivers_of_executed`). What the channels are handed is
what the steps of the tick add to the engine's record of it (`Ran.handed`).
-/

namespace StandingQuery

namespace Channels

/-- What a channel is handed for a destination, if there is just one that serves it. -/
def handing (cs : Channels) (destination : Destination) (query : StoredQuery) (results : QueryResults) (username : String) :
    Option Handed :=
  (cs.select destination.kind).toOption.map fun c =>
    ⟨c.implementation, ⟨query, results, username, destination.deliveryId, destination.parameters⟩⟩

/-- What is handed over does not hang on what was handed over before. -/
theorem deliver_handed (cs : Channels) (handed : List Handed) (destination : Destination) (query : StoredQuery)
    (results : QueryResults) (username : String) :
    (cs.deliver handed destination query results username).2 =
      handed ++ (cs.handing destination query results username).toList := by
  unfold deliver handing
  cases cs.select destination.kind with
  | error e => exact (List.append_nil _).symm
  | ok c => rfl

end Channels

namespace Action

/-- What a step hands to a channel. -/
def call (channels : Channels) : Action → Option Handed
  | .deliver destination query results username => channels.handing destination query results username
  | _ => none

end Action

/-- The first of a list puts in front what it is mapped to, if anything. -/
theorem filterMap_cons_toList {α β : Type} (f : α → Option β) (a : α) (l : List α) :
    (a :: l).filterMap f = (f a).toList ++ l.filterMap f := by
  rw [List.filterMap_cons]
  cases f a <;> rfl

namespace EngineState

variable {ρ : Type} [JobRegistry ρ]

/-- A step adds what it hands to a channel to what was handed over before. -/
theorem perform_handed (services : Services) (s : EngineState ρ) (action : Action) :
    (s.perform services action).2.handed = s.handed ++ (action.call services.channels).toList := by
  cases action with
  | deliver destination query results username => exact Channels.deliver_handed ..
  | schedule job =>
    simp only [perform, schedule]
    split <;> exact (List.append_nil _).symm
  | _ => exact (List.append_nil _).symm

end EngineState

namespace Program

variable {α ρ : Type} [JobRegistry ρ] (services : Services) {others : List (EngineState ρ → EngineState ρ)} (s : EngineState ρ)

/-- What a step of a program handed over is what it asked for. -/
theorem handed_of_taken (p : Program α) {t : Taken ρ} (h : t ∈ (p.amid services others s).taken) :
    t.handed = (t.happening.action.call services.channels).toList := by
  have hperformed := congrArg (fun performed => performed.2.handed) (performed_of_taken services others s p h)
  simp only [EngineState.perform_handed] at hperformed
  unfold Taken.handed Taken.added
  rw [← hperformed, List.drop_left]

/-- What others leave of the record of what was handed over, a program adds to it, and each of its steps finds it so. -/
theorem handed_amid (hothers : ∀ other ∈ others, ∀ s, (other s).handed = s.handed) (p : Program α) :
    (p.amid services others s).engine.handed = s.handed ++ (p.amid services others s).handed ∧
      ∀ before t after, (p.amid services others s).taken = before ++ t :: after →
        t.before.handed = s.handed ++ before.flatMap Taken.handed := by
  refine grows_amid services hothers (fun s action => ?_) p
  rw [EngineState.perform_handed]
  exact List.prefix_append _ _

end Program

/-- The destination that is found for a delivery carries its identifier. -/
theorem deliveryId_of_resolveDestination {store : PreferencesStore} {username deliveryId : String} {destination : Destination}
    (h : resolveDestination store username deliveryId = .ok destination) : destination.deliveryId = deliveryId := by
  unfold resolveDestination at h
  split at h
  · cases h
  · split at h
    · split at h
      · cases h
        rfl
      · cases h
    · cases h
  · cases h

namespace Services

/-- What a channel is handed for a delivery to a user, if the delivery comes so far. -/
def call (services : Services) (query : StoredQuery) (results : QueryResults) (username deliveryId : String) : Option Handed := do
  let destination ← (resolveDestination services.preferences username deliveryId).toOption
  let channel ← (services.channels.select destination.kind).toOption
  return ⟨channel.implementation, ⟨query, results, username, deliveryId, destination.parameters⟩⟩

variable {ρ : Type}

/-- One attempt at a delivery to a user, with the steps that it took and with what comes of it. -/
inductive Attempt (services : Services) (query : StoredQuery) (results : QueryResults) (username deliveryId : String) :
    List (Taken ρ) → Outcome Unit → Prop where
  /-- There is no destination: no step is taken. -/
  | lost {e : DestinationError} (resolved : resolveDestination services.preferences username deliveryId = .error e) :
      Attempt services query results username deliveryId []
        (.error ⟨"There was a problem retrieving the delivery information with ID \"" ++ deliveryId ++ "\" for user '" ++
          username ++ "': " ++ e.message⟩)
  /-- There is not just one channel for the destination: none is called. -/
  | unserved {destination : Destination} {e : ChannelChoiceError} {found : EngineState ρ}
      (resolved : resolveDestination services.preferences username deliveryId = .ok destination)
      (choice : services.channels.select destination.kind = .error e) :
      Attempt services query results username deliveryId
        [⟨found, ⟨.deliver destination query results username, .error e.failure⟩, found⟩]
        (.error ⟨"There was a problem delivering query results to delivery info with ID \"" ++ deliveryId ++ "\" for user '" ++
          username ++ "': " ++ e.message⟩)
  /-- The channel is handed the delivery and refuses it. -/
  | refused {destination : Destination} {channel : Channel} {found : EngineState ρ} {f : Failure}
      (resolved : resolveDestination services.preferences username deliveryId = .ok destination)
      (choice : services.channels.select destination.kind = .ok channel)
      (answer : channel.respond found.handed ⟨query, results, username, deliveryId, destination.parameters⟩ = .error f) :
      Attempt services query results username deliveryId
        [⟨found, ⟨.deliver destination query results username, .error f⟩, { found with handed := found.handed ++
          [⟨channel.implementation, ⟨query, results, username, deliveryId, destination.parameters⟩⟩] }⟩]
        (.error ⟨"There was a problem delivering query results to delivery info with ID \"" ++ deliveryId ++ "\" for user '" ++
          username ++ "': " ++ f.message⟩)
  /-- The channel is handed the delivery and takes it. -/
  | taken {destination : Destination} {channel : Channel} {found : EngineState ρ}
      (resolved : resolveDestination services.preferences username deliveryId = .ok destination)
      (choice : services.channels.select destination.kind = .ok channel)
      (answer : channel.respond found.handed ⟨query, results, username, deliveryId, destination.parameters⟩ = .ok ()) :
      Attempt services query results username deliveryId
        [⟨found, ⟨.deliver destination query results username, .ok ()⟩, { found with handed := found.handed ++
          [⟨channel.implementation, ⟨query, results, username, deliveryId, destination.parameters⟩⟩] }⟩] (.ok ())

variable {services : Services} {query : StoredQuery} {results : QueryResults} {username deliveryId : String}
  {taken : List (Taken ρ)} {outcome : Outcome Unit}

/-- What an attempt hands over is what its delivery says. -/
theorem Attempt.handed (h : services.Attempt query results username deliveryId taken outcome) :
    taken.flatMap Taken.handed = (services.call query results username deliveryId).toList := by
  cases h with
  | lost resolved => simp [call, resolved, Except.toOption]
  | unserved resolved choice => simp [call, resolved, choice, Taken.added, Except.toOption]
  | refused resolved choice _ => simp [call, resolved, choice, Taken.added, Except.toOption]
  | taken resolved choice _ => simp [call, resolved, choice, Taken.added, Except.toOption]

/-- No attempt executes a query. -/
theorem Attempt.not_executes (h : services.Attempt query results username deliveryId taken outcome) (expression : String) :
    ∀ t ∈ taken, t.happening.action ≠ .execute expression := by
  cases h <;> simp

/-- Attempts at several deliveries, one for every time that a delivery is listed. -/
def Attempts (services : Services) (query : StoredQuery) (results : QueryResults) (username : String) :
    List String → List (List (Taken ρ) × Outcome Unit) → Prop :=
  List.Forall₂ fun deliveryId attempt => services.Attempt query results username deliveryId attempt.1 attempt.2

variable {deliveryIds : List String} {attempts : List (List (Taken ρ) × Outcome Unit)}

/-- What attempts hand over is what their deliveries say, in order. -/
theorem Attempts.handed (h : services.Attempts query results username deliveryIds attempts) :
    (attempts.flatMap Prod.fst).flatMap Taken.handed = deliveryIds.filterMap (services.call query results username) := by
  unfold Attempts at h
  induction h with
  | nil => rfl
  | cons hfirst _ ih => rw [List.flatMap_cons, List.flatMap_append, hfirst.handed, ih, filterMap_cons_toList]

/-- No attempts execute a query. -/
theorem Attempts.not_executes (h : services.Attempts query results username deliveryIds attempts) (expression : String) :
    ∀ t ∈ attempts.flatMap Prod.fst, t.happening.action ≠ .execute expression := by
  unfold Attempts at h
  induction h with
  | nil => exact fun t ht => absurd ht List.not_mem_nil
  | cons hfirst _ ih =>
    intro t ht
    rw [List.flatMap_cons] at ht
    rcases List.mem_append.1 ht with ht | ht
    · exact hfirst.not_executes expression t ht
    · exact ih t ht

end Services

namespace TickOutcome

/-- What is said of a firing whose query ran, by what came of its deliveries. -/
def ofDeliveries : Outcome Unit → TickOutcome
  | .ok () => .delivered
  | .error f => .failed f

/-- A firing whose deliveries are reported together has delivered exactly when each of them did, and otherwise failed with the
messages of all that did not. -/
theorem ofDeliveries_all (outcomes : List (Outcome Unit)) :
    (ofDeliveries (Outcome.all outcomes) = .delivered ↔ ∀ o ∈ outcomes, o = .ok ()) ∧
      (ofDeliveries (Outcome.all outcomes) ≠ .delivered →
        ofDeliveries (Outcome.all outcomes) = .failed ⟨"\n".intercalate (Outcome.messages outcomes)⟩) := by
  have hdelivered : ofDeliveries (Outcome.all outcomes) = .delivered ↔ Outcome.all outcomes = .ok () := by
    cases Outcome.all outcomes <;> simp [ofDeliveries]
  refine ⟨?_, fun hnot => ?_⟩
  · rw [hdelivered, Outcome.all_eq_ok_iff]
    exact forall₂_congr fun o _ => ⟨fun ⟨_, ho⟩ => ho, fun ho => ⟨(), ho⟩⟩
  · rw [ne_eq, hdelivered] at hnot
    rw [Outcome.all_eq_fail hnot]
    rfl

end TickOutcome

namespace Job

variable {ρ : Type}

/-- What a firing does whose query ran, in an engine that others use too: its attempts with the steps that they took, and what the
tick leaves. -/
structure Delivers (services : Services) (job : Job) (results : QueryResults) (others : List (EngineState ρ → EngineState ρ))
    (s : EngineState ρ) (attempts : List (List (Taken ρ) × Outcome Unit)) (ran : Ran ρ (TickOutcome × Job)) : Prop where
  each : services.Attempts job.query results job.schedule.username job.schedule.deliveryIds attempts
  /-- The tick looks at the registry and executes the query, which the catalog answers after the requests made before; then come the
  attempts, in order. -/
  inOrder : ∃ look execute : Taken ρ, ran.taken = look :: execute :: attempts.flatMap Prod.fst ∧
    look.happening.action = .look job.query.id ∧ execute.happening = ⟨.execute job.query.expression, .ok results⟩ ∧
      (services.runner.run execute.before.requests job.query.expression).1 = .ok results
  /-- The request for the query is the only one that is made. -/
  requested : job.Executes services ran.requested
  /-- The channels are handed what the deliveries say, whatever comes of any of them. -/
  handed : ran.handed = job.schedule.deliveryIds.filterMap (services.call job.query results job.schedule.username)
  /-- If others hand nothing over, that is all that the engine's record of it grows by, and every step finds in the record what was
  there at first and what the steps before it handed over. -/
  recorded : (∀ other ∈ others, ∀ s, (other s).handed = s.handed) →
    ran.engine.handed = s.handed ++
        job.schedule.deliveryIds.filterMap (services.call job.query results job.schedule.username) ∧
      ∀ before t after, ran.taken = before ++ t :: after → t.before.handed = s.handed ++ before.flatMap Taken.handed
  delivered : ran.value.1 = .delivered ↔ ∀ attempt ∈ attempts, attempt.2 = .ok ()
  failed : ran.value.1 ≠ .delivered →
    ran.value.1 = .failed ⟨"\n".intercalate (attempts.filterMap fun attempt => Outcome.message? attempt.2)⟩

variable [JobRegistry ρ]

/-- A delivery for which a destination is found is a single step. -/
theorem deliverTo_eq (services : Services) (job : Job) (results : QueryResults) (deliveryId : String) :
    job.deliverTo services results deliveryId =
      match resolveDestination services.preferences job.schedule.username deliveryId with
      | .error e => .done (.error ⟨resolving deliveryId job.schedule.username ++ e.message⟩)
      | .ok destination => .step (.deliver destination job.query results job.schedule.username) fun answer =>
          .done (Outcome.prepend (delivering deliveryId job.schedule.username) answer) := rfl

/-- A firing executes the query, and what the execution answers decides the rest. -/
theorem fire_eq (services : Services) (job : Job) :
    job.fire services = .step (.execute job.query.expression) fun answer =>
      match answer with
      | .error e => .done (.failed e.failure)
      | .ok results => do
        let outcome ← job.deliverAll services results
        return TickOutcome.ofDeliveries outcome := by
  unfold fire
  rw [Program.ask_bind]
  refine congrArg (Program.step _) (funext fun answer => ?_)
  match answer with
  | .error e => rfl
  | .ok results =>
    refine congrArg (job.deliverAll services results >>= ·) (funext fun outcome => ?_)
    cases outcome <;> rfl

/-- A delivery is an attempt, whatever others do. -/
theorem attempt_deliverTo (services : Services) (job : Job) (results : QueryResults) (deliveryId : String)
    (others : List (EngineState ρ → EngineState ρ)) (s : EngineState ρ) :
    services.Attempt job.query results job.schedule.username deliveryId
      ((job.deliverTo services results deliveryId).amid services others s).taken
      ((job.deliverTo services results deliveryId).amid services others s).value := by
  rw [deliverTo_eq]
  cases hresolved : resolveDestination services.preferences job.schedule.username deliveryId with
  | error e => exact .lost hresolved
  | ok destination =>
    have hid := deliveryId_of_resolveDestination hresolved
    simp only [Program.amid_step, Program.amid_done, EngineState.perform, Channels.deliver, hid]
    cases hchoice : services.channels.select destination.kind with
    | error e => exact .unserved hresolved hchoice
    | ok channel =>
      simp only
      generalize hanswer : channel.respond _ _ = answer
      cases answer with
      | ok _ => exact .taken hresolved hchoice hanswer
      | error f => exact .refused hresolved hchoice hanswer

/-- The deliveries of a schedule are attempts, one after the other, and all their failures are reported. -/
theorem attempts_deliverAll (services : Services) (job : Job) (results : QueryResults)
    (others : List (EngineState ρ → EngineState ρ)) (s : EngineState ρ) :
    ∃ attempts, services.Attempts job.query results job.schedule.username job.schedule.deliveryIds attempts ∧
      ((job.deliverAll services results).amid services others s).taken = attempts.flatMap Prod.fst ∧
      ((job.deliverAll services results).amid services others s).value = Outcome.all (attempts.map Prod.snd) := by
  obtain ⟨attempts, hattempts, htaken, hvalue⟩ := Program.amid_mapM services others s
    (services.Attempt job.query results job.schedule.username)
    (fun deliveryId others s => attempt_deliverTo services job results deliveryId others s) job.schedule.deliveryIds
  refine ⟨attempts, hattempts, ?_, ?_⟩
  · unfold deliverAll Outcome.forEach
    rw [Program.amid_bind, htaken]
    exact List.append_nil _
  · unfold deliverAll Outcome.forEach
    rw [Program.amid_bind, hvalue]
    rfl

/-- What a firing does once the query was executed, and its outcome, by what the execution answered. -/
inductive Fired (services : Services) (query : StoredQuery) (schedule : Schedule) :
    Except RunError QueryResults → List (Taken ρ) → TickOutcome → Prop where
  | failed (e : RunError) : Fired services query schedule (.error e) [] (.failed e.failure)
  | ran {results : QueryResults} {attempts : List (List (Taken ρ) × Outcome Unit)}
      (each : services.Attempts query results schedule.username schedule.deliveryIds attempts) :
      Fired services query schedule (.ok results) (attempts.flatMap Prod.fst)
        (.ofDeliveries (Outcome.all (attempts.map Prod.snd)))

omit [JobRegistry ρ] in
/-- The query is executed only once. -/
theorem Fired.not_executes {services : Services} {query : StoredQuery} {schedule : Schedule}
    {executed : Except RunError QueryResults} {taken : List (Taken ρ)} {outcome : TickOutcome}
    (h : Fired services query schedule executed taken outcome) (expression : String) :
    ∀ t ∈ taken, t.happening.action ≠ .execute expression := by
  cases h with
  | failed e => exact fun t ht => absurd ht List.not_mem_nil
  | ran each => exact each.not_executes expression

/-- A firing executes the query, and goes on by what the execution answers. -/
theorem fire_amid (services : Services) (job : Job) (others : List (EngineState ρ → EngineState ρ)) (s : EngineState ρ) :
    ∃ (execute : Taken ρ) (executed : Except RunError QueryResults) (later : List (Taken ρ)),
      ((job.fire services).amid services others s).taken = execute :: later ∧
        execute.happening = ⟨.execute job.query.expression, executed⟩ ∧
          Fired services job.query job.schedule executed later ((job.fire services).amid services others s).value := by
  rw [fire_eq, Program.amid_step]
  refine ⟨_, ((others.headD id s).perform services (.execute job.query.expression)).1, _, rfl, rfl, ?_⟩
  match ((others.headD id s).perform services (.execute job.query.expression)).1 with
  | .error e => exact .failed e
  | .ok results =>
    obtain ⟨attempts, hattempts, htaken, hvalue⟩ := attempts_deliverAll services job results others.tail
      ((others.headD id s).perform services (.execute job.query.expression)).2
    simp only [Program.amid_bind, Program.pure_eq, Program.amid_done, htaken, hvalue, List.append_nil]
    exact .ran hattempts

/-- A tick whose gate opens looks at the registry and does what a firing does. -/
theorem fired_amid_of_gate (services : Services) (job : Job) (now : Instant) (others : List (EngineState ρ → EngineState ρ))
    (s : EngineState ρ) {minute : Instant}
    (h : job.gate (JobRegistry.holds (others.headD id s).registry job.query.id job.token) now = .fire minute) :
    ∃ (look execute : Taken ρ) (executed : Except RunError QueryResults) (later : List (Taken ρ)),
      ((job.tick services now).amid services others s).taken = look :: execute :: later ∧
        look.happening.action = .look job.query.id ∧ execute.happening = ⟨.execute job.query.expression, executed⟩ ∧
          Fired services job.query job.schedule executed later ((job.tick services now).amid services others s).value.1 := by
  unfold JobRegistry.holds at h
  rw [tick_eq, Program.amid_step]
  simp only [EngineState.perform, h]
  obtain ⟨execute, executed, later, htaken, hexecute, hfired⟩ :=
    fire_amid services { job with lastFired := some minute } others.tail (others.headD id s)
  refine ⟨⟨others.headD id s, ⟨.look job.query.id, JobRegistry.get (others.headD id s).registry job.query.id⟩, others.headD id s⟩,
    execute, executed, later, ?_, rfl, hexecute, ?_⟩
  · simp only [Program.amid_bind, Program.pure_eq, Program.amid_done, List.append_nil, htaken]
  · simpa only [Program.amid_bind, Program.pure_eq, Program.amid_done] using hfired

/-- A tick that executes the query looks at the registry before, and does what a firing does after it. -/
theorem fired_of_executed (services : Services) (job : Job) (now : Instant) (others : List (EngineState ρ → EngineState ρ))
    (s : EngineState ρ) {answer : Except RunError QueryResults}
    (h : (⟨.execute job.query.expression, answer⟩ : Happening) ∈ ((job.tick services now).amid services others s).steps) :
    ∃ (look execute : Taken ρ) (later : List (Taken ρ)),
      ((job.tick services now).amid services others s).taken = look :: execute :: later ∧
        look.happening.action = .look job.query.id ∧ execute.happening = ⟨.execute job.query.expression, answer⟩ ∧
          Fired services job.query job.schedule answer later ((job.tick services now).amid services others s).value.1 := by
  cases hgate : job.gate (JobRegistry.holds (others.headD id s).registry job.query.id job.token) now with
  | shut outcome =>
    unfold JobRegistry.holds at hgate
    rw [tick_eq, Program.amid_step] at h
    simp only [EngineState.perform, hgate, Program.amid_done, Ran.steps, List.map_cons, List.map_nil, List.mem_singleton] at h
    cases h
  | fire minute =>
    obtain ⟨look, execute, executed, later, htaken, hlook, hexecute, hfired⟩ := fired_amid_of_gate services job now others s hgate
    obtain ⟨t, ht, hhappening⟩ := List.mem_map.1 h
    rw [htaken] at ht
    obtain rfl : answer = executed := by
      rcases List.mem_cons.1 ht with rfl | ht
      · rw [hhappening] at hlook
        cases hlook
      · rcases List.mem_cons.1 ht with rfl | ht
        · cases hhappening.symm.trans hexecute
          rfl
        · exact absurd (congrArg Happening.action hhappening) (hfired.not_executes job.query.expression t ht)
    exact ⟨look, execute, later, htaken, hlook, hexecute, hfired⟩

/-- What a tick hands over that executed the query is what it hands over after that, and the request for the query is the only one
that it makes. -/
theorem recorded_of_fired (services : Services) (job : Job) (now : Instant) (others : List (EngineState ρ → EngineState ρ))
    (s : EngineState ρ) {look execute : Taken ρ} {answer : Except RunError QueryResults} {later : List (Taken ρ)}
    {outcome : TickOutcome} (htaken : ((job.tick services now).amid services others s).taken = look :: execute :: later)
    (hlook : look.happening.action = .look job.query.id) (hexecute : execute.happening = ⟨.execute job.query.expression, answer⟩)
    (hfired : Fired services job.query job.schedule answer later outcome) :
    ((job.tick services now).amid services others s).handed = later.flatMap Taken.handed ∧
      job.Executes services ((job.tick services now).amid services others s).requested := by
  have hmem : ∀ t ∈ look :: execute :: later, t ∈ ((job.tick services now).amid services others s).taken := by
    rw [htaken]
    exact fun t ht => ht
  have hhanded (t : Taken ρ) (ht : t ∈ look :: execute :: later) :=
    Program.handed_of_taken services s (job.tick services now) (hmem t ht)
  have hrequested (t : Taken ρ) (ht : t ∈ look :: execute :: later) :=
    Program.requested_of_taken services others s (job.tick services now) (hmem t ht)
  have hsecond : execute ∈ look :: execute :: later := List.mem_cons_of_mem _ List.mem_cons_self
  constructor
  · unfold Ran.handed
    rw [htaken, List.flatMap_cons, List.flatMap_cons, hhanded look List.mem_cons_self, hhanded execute hsecond, hlook, hexecute]
    rfl
  · have hnone : later.flatMap Taken.requested = [] := by
      refine List.flatMap_eq_nil_iff.2 fun t ht => ?_
      rw [hrequested t (List.mem_cons_of_mem _ (List.mem_cons_of_mem _ ht)),
        Action.request_eq_none fun expression => hfired.not_executes expression t ht]
      rfl
    unfold Executes Ran.requested
    rw [htaken, List.flatMap_cons, List.flatMap_cons, hrequested look List.mem_cons_self, hrequested execute hsecond, hlook,
      hexecute, hnone]
    rfl

/-- A firing tick executes the query. A tick that executed it with success attempts every delivery that its schedule lists, in
order and once for every time that it is listed; what the channels are handed does not hang on what comes of any delivery; it has
delivered exactly when every attempt succeeded, and otherwise reports every failure. A tick whose execution failed hands nothing to
any channel. With nobody else around this is the plain run of the tick. -/
theorem delivers_of_executed (services : Services) (job : Job) (now : Instant) (others : List (EngineState ρ → EngineState ρ))
    (s : EngineState ρ) :
    let ran := (job.tick services now).amid services others s
    (∀ minute, job.gate (JobRegistry.holds (others.headD id s).registry job.query.id job.token) now = .fire minute →
      ∃ answer, (⟨.execute job.query.expression, answer⟩ : Happening) ∈ ran.steps) ∧
    (∀ results, (⟨.execute job.query.expression, .ok results⟩ : Happening) ∈ ran.steps →
      ∃ attempts, job.Delivers services results others s attempts ran) ∧
    (∀ e, (⟨.execute job.query.expression, .error e⟩ : Happening) ∈ ran.steps →
      ran.value.1 = .failed e.failure ∧ ran.handed = [] ∧
        ((∀ other ∈ others, ∀ s, (other s).handed = s.handed) → ran.engine.handed = s.handed)) ∧
    (others = [] → (job.tick services now).run services s = (ran.value, ran.engine)) := by
  intro ran
  refine ⟨fun minute hgate => ?_, fun results h => ?_, fun e h => ?_, ?_⟩
  · obtain ⟨look, execute, executed, later, htaken, -, hexecute, -⟩ := fired_amid_of_gate services job now others s hgate
    have hmem : execute ∈ ran.taken := htaken ▸ List.mem_cons_of_mem _ List.mem_cons_self
    exact ⟨executed, List.mem_map.2 ⟨execute, hmem, hexecute⟩⟩
  · obtain ⟨look, execute, later, htaken, hlook, hexecute, hfired⟩ := fired_of_executed services job now others s h
    obtain ⟨hhanded, hrequested⟩ := recorded_of_fired services job now others s htaken hlook hexecute hfired
    have hanswered := Program.answered_of_taken services others s (job.tick services now)
      (htaken ▸ List.mem_cons_of_mem _ List.mem_cons_self) hexecute
    change ran.taken = _ at htaken
    change ran.handed = _ at hhanded
    generalize houtcome : ran.value.1 = outcome at hfired
    cases hfired with
    | @ran _ attempts each =>
      obtain ⟨hdelivered, hfailed⟩ := TickOutcome.ofDeliveries_all (attempts.map Prod.snd)
      rw [each.handed] at hhanded
      refine ⟨attempts, each, ⟨look, execute, htaken, hlook, hexecute, hanswered.symm⟩, hrequested, hhanded, fun hothers => ?_,
        ?_, ?_⟩
      · rw [← hhanded]
        exact Program.handed_amid services s hothers (job.tick services now)
      · rw [houtcome, hdelivered, List.forall_mem_map]
      · rw [houtcome]
        intro hnot
        rw [hfailed hnot, Outcome.messages, List.filterMap_map]
        rfl
  · obtain ⟨look, execute, later, htaken, hlook, hexecute, hfired⟩ := fired_of_executed services job now others s h
    obtain ⟨hhanded, -⟩ := recorded_of_fired services job now others s htaken hlook hexecute hfired
    change ran.handed = _ at hhanded
    generalize ran.value.1 = outcome at hfired ⊢
    cases hfired with
    | failed =>
      refine ⟨rfl, hhanded, fun hothers => ?_⟩
      have hgrown := (Program.handed_amid services s hothers (job.tick services now)).1
      change ran.engine.handed = s.handed ++ ran.handed at hgrown
      rw [hgrown, hhanded]
      exact List.append_nil _
  · rintro rfl
    obtain ⟨hvalue, hengine, _⟩ := Program.amid_alone services (job.tick services now) s
    exact Prod.ext hvalue.symm hengine.symm

namespace Sample

/-- A job with four deliveries, the last to where the first goes. -/
def listing : Job :=
  .start Cluster.Sample.query (.ofNat 1)
    ⟨"alice", 1, .hours, ⟨1772629620, 0⟩, ⟨1772629860, 0⟩, ["home", "nowhere", "attic", "home"]⟩

/-- An engine whose catalog answers so, whose users are reached at home and in the attic, and whose only channel serves no
attics and takes only one delivery. -/
def posting (answer : Except CatalogError QueryResults) : Services :=
  { Cluster.Sample.services true with
    runner := ⟨⟨fun _ => .ok (), fun _ _ => ⟨answer, 0⟩⟩, 1, 0⟩
    preferences := fun _ => .ok [⟨[⟨some "home", some "post", []⟩, ⟨some "attic", some "pigeon", []⟩]⟩]
    channels := Channels.empty.register
      ⟨"post", "Post", [], "PostChannel", fun handed _ => if handed.isEmpty then .ok () else .error ⟨"The box is full."⟩⟩ }

end Sample

open Course.Sample Sample in
/-- A tick whose deliveries succeed, find no destination, find no channel and are refused, and a tick whose query is refused. -/
theorem delivers_listing :
    let answered := (listing.tick (posting (.ok .empty)) ⟨1772629680, 0⟩).amid
      (posting (.ok .empty)) [] holding
    let refused := (listing.tick (posting (.error (.unavailable "down"))) ⟨1772629680, 0⟩).amid
      (posting (.error (.unavailable "down"))) [] holding
    (∃ attempts, listing.Delivers (posting (.ok .empty)) .empty [] holding attempts answered) ∧
      answered.engine.handed.map (fun handed => handed.delivery.deliveryId) = ["home", "home"] ∧
        refused.value.1 = .failed (RunError.refused "x" (.unavailable "down")).failure ∧ refused.engine.handed = [] := by
  intro answered refused
  have hanswered : (⟨.execute listing.query.expression, .ok .empty⟩ : Happening) ∈ answered.steps :=
    List.mem_cons_of_mem _ (List.mem_cons_self ..)
  have hrefused : (⟨.execute listing.query.expression, .error (.refused "x" (.unavailable "down"))⟩ : Happening) ∈ refused.steps :=
    List.mem_cons_of_mem _ (List.mem_cons_self ..)
  obtain ⟨-, hdelivers, -⟩ := delivers_of_executed (posting (.ok .empty)) listing ⟨1772629680, 0⟩ [] holding
  obtain ⟨-, -, hfailed, -⟩ := delivers_of_executed (posting (.error (.unavailable "down"))) listing ⟨1772629680, 0⟩ [] holding
  obtain ⟨houtcome, -, hnone⟩ := hfailed _ hrefused
  exact ⟨hdelivers .empty hanswered, by decide +kernel, houtcome, hnone fun _ ho => absurd ho List.not_mem_nil⟩

open Course.Sample Sample in
example : ((listing.tick (posting (.ok .empty)) ⟨1772629680, 0⟩).run (posting (.ok .empty))
    holding).1.1 = .failed ⟨"\n".intercalate [
      resolving "nowhere" "alice" ++
        "There were 0 destinations matching the ID \"nowhere\" for user 'alice'; only one is expected!",
      delivering "attic" "alice" ++ "The delivery method \"pigeon\" was not recognized; this query scheduling system found " ++
        "the following delivery methods: [post].",
      delivering "home" "alice" ++ "The box is full."]⟩ := by
  decide +kernel

end Job

end StandingQuery
