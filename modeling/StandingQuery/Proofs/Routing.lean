import StandingQuery.Proofs.Deliveries
import StandingQuery.Proofs.KeyedMaps

/-!
# The way of a delivery

A delivery comes to a channel exactly if three things are there just once: the record of the user, the method with its
identifier, and the channel of the method's kind (`Services.Routed`). Each is found by counting, so that neither the order of the
lists nor anything that is added to them for other identifiers, other kinds or other users makes a difference
(`Services.Widened.routed_iff`).
-/

namespace StandingQuery

/-- What a filter leaves is one value exactly if the value passes and nothing else does. -/
theorem filter_eq_singleton_iff {α : Type} {p : α → Bool} {l : List α} {a : α} :
    l.filter p = [a] ↔ a ∈ l ∧ p a = true ∧ l.countP p = 1 := by
  rw [List.countP_eq_length_filter]
  constructor
  · intro h
    have hmem : a ∈ l.filter p := h ▸ List.mem_singleton_self a
    obtain ⟨hl, hp⟩ := List.mem_filter.1 hmem
    exact ⟨hl, hp, by rw [h, List.length_singleton]⟩
  · rintro ⟨hl, hp, hone⟩
    obtain ⟨b, hb⟩ := List.length_eq_one_iff.1 hone
    have hmem : a ∈ l.filter p := List.mem_filter.2 ⟨hl, hp⟩
    rw [hb, List.mem_singleton] at hmem
    rw [hb, hmem]

/-- A list in another order and with more of what does not pass leaves as much of what passes. -/
theorem countP_eq_of_perm_append {α : Type} {p : α → Bool} {l l' extra : List α} (h : l'.Perm (l ++ extra))
    (hextra : ∀ a ∈ extra, p a = false) : l'.countP p = l.countP p := by
  have hnone : extra.countP p = 0 := List.countP_eq_zero.2 fun a ha => by simp [hextra a ha]
  rw [h.countP_eq, List.countP_append, hnone, Nat.add_zero]

namespace DeliveryMethod

/-- The value of the last field of a method that has a name. -/
def lastValue (m : DeliveryMethod) (name : String) : Option String :=
  (m.fields.reverse.find? fun f => f.name == name).map (·.value)

/-- The parameters of a method are the last values of its fields. -/
theorem get?_parameters (m : DeliveryMethod) (name : String) : Keyed.get? m.parameters name = m.lastValue name := by
  unfold parameters lastValue
  rw [Keyed.get?_ofList, ← List.map_reverse, List.find?_map, Option.map_map]
  rfl

end DeliveryMethod

namespace Services

/-- A delivery to a user is meant for a method: the store has exactly one record for the user, and of its methods exactly this one
has the identifier. -/
def Means (services : Services) (username deliveryId : String) (m : DeliveryMethod) : Prop :=
  ∃ p, services.preferences username = .ok [p] ∧ m ∈ p.methods ∧ m.id = some deliveryId ∧
    p.methods.countP (fun m => m.id == some deliveryId) = 1

/-- A channel is the only one that serves its kind. -/
def ServedBy (services : Services) (c : Channel) : Prop :=
  c ∈ services.channels.list ∧ services.channels.list.countP (fun other => other.kind == c.kind) = 1

/-- The way of a delivery to a user: the method that is meant names a kind, and the channel is the only one that serves it. -/
structure Routed (services : Services) (username deliveryId : String) (m : DeliveryMethod) (c : Channel) : Prop where
  means : services.Means username deliveryId m
  kind : m.kind = some c.kind
  served : services.ServedBy c

variable {services services' : Services} {username deliveryId : String} {m m' : DeliveryMethod} {c c' : Channel}

/-- The methods of a record that have an identifier are one method exactly if just this one has it. -/
theorem methodsWithId_eq_singleton_iff {p : UserPreferences} :
    p.methodsWithId deliveryId = [m] ↔
      m ∈ p.methods ∧ m.id = some deliveryId ∧ p.methods.countP (fun m => m.id == some deliveryId) = 1 := by
  unfold UserPreferences.methodsWithId
  rw [filter_eq_singleton_iff, beq_iff_eq]

theorem means_iff :
    services.Means username deliveryId m ↔
      ∃ p, services.preferences username = .ok [p] ∧ p.methodsWithId deliveryId = [m] :=
  exists_congr fun _ => and_congr_right fun _ => methodsWithId_eq_singleton_iff.symm

/-- A destination is found exactly for a method that is meant and names a kind; it carries the parameters of the method. -/
theorem resolveDestination_eq_ok_iff {destination : Destination} :
    resolveDestination services.preferences username deliveryId = .ok destination ↔
      ∃ m, services.Means username deliveryId m ∧ m.kind = some destination.kind ∧
        destination = ⟨destination.kind, deliveryId, m.parameters⟩ := by
  simp only [means_iff]
  unfold resolveDestination
  constructor
  · intro h
    split at h
    · cases h
    · rename_i p hrecord
      split at h
      · rename_i m hmethod
        split at h
        · rename_i kind hkind
          cases h
          exact ⟨m, ⟨p, hrecord, hmethod⟩, hkind, rfl⟩
        · cases h
      · cases h
    · cases h
  · rintro ⟨m, ⟨p, hrecord, hmethod⟩, hkind, hdestination⟩
    simp only [hrecord, hmethod, hkind]
    exact congrArg Except.ok hdestination.symm

/-- A channel is chosen exactly if it is the only one of its kind. -/
theorem select_eq_ok_iff {kind : String} :
    services.channels.select kind = .ok c ↔ c.kind = kind ∧ services.ServedBy c := by
  have hserving : services.channels.serving kind = [c] ↔ c.kind = kind ∧ services.ServedBy c := by
    unfold Channels.serving ServedBy
    rw [filter_eq_singleton_iff, beq_iff_eq]
    constructor
    · rintro ⟨hmem, rfl, hone⟩
      exact ⟨rfl, hmem, hone⟩
    · rintro ⟨rfl, hmem, hone⟩
      exact ⟨hmem, rfl, hone⟩
  rw [← hserving]
  unfold Channels.select
  constructor
  · intro h
    split at h
    · cases h
    · rename_i found hfound
      cases h
      exact hfound
    · cases h
  · intro h
    rw [h]

/-- The destination of a delivery that has a way. -/
theorem Routed.resolves (h : services.Routed username deliveryId m c) :
    resolveDestination services.preferences username deliveryId = .ok ⟨c.kind, deliveryId, m.parameters⟩ :=
  resolveDestination_eq_ok_iff.2 ⟨m, h.means, h.kind, rfl⟩

/-- A delivery has at most one way. -/
theorem Routed.unique (h : services.Routed username deliveryId m c) (h' : services.Routed username deliveryId m' c') :
    m = m' ∧ c = c' := by
  obtain ⟨p, hrecord, hmethod⟩ := means_iff.1 h.means
  obtain ⟨p', hrecord', hmethod'⟩ := means_iff.1 h'.means
  rw [hrecord, Except.ok.injEq, List.cons.injEq] at hrecord'
  obtain ⟨rfl, -⟩ := hrecord'
  rw [hmethod, List.cons.injEq] at hmethod'
  obtain ⟨rfl, -⟩ := hmethod'
  have hkind : c'.kind = c.kind := Option.some.inj (h'.kind.symm.trans h.kind)
  have hselect := select_eq_ok_iff.2 ⟨rfl, h.served⟩
  rw [select_eq_ok_iff.2 ⟨hkind, h'.served⟩, Except.ok.injEq] at hselect
  exact ⟨rfl, hselect.symm⟩

/-- What is added to the services does not concern a delivery to a user: the record of the user stays, or has its methods in another
order and more of them that have another identifier or none; and the channels may stand in another order, with more of them whose
kind is not that of the method that is meant. What is stored for other users may be anything. -/
structure Widened (services : Services) (username deliveryId : String) (services' : Services) : Prop where
  preferences :
    services'.preferences username = services.preferences username ∨
      ∃ p p' extra, services.preferences username = .ok [p] ∧ services'.preferences username = .ok [p'] ∧
        p'.methods.Perm (p.methods ++ extra) ∧ ∀ m ∈ extra, m.id ≠ some deliveryId
  channels :
    ∃ extra, services'.channels.list.Perm (services.channels.list ++ extra) ∧
      ∀ c ∈ extra, ∀ m, services.Means username deliveryId m → m.kind ≠ some c.kind

namespace Widened

/-- The same method is meant. -/
theorem means_iff (h : services.Widened username deliveryId services') :
    services'.Means username deliveryId m ↔ services.Means username deliveryId m := by
  rcases h.preferences with hsame | ⟨p, p', extra, hp, hp', hperm, hextra⟩
  · unfold Means
    rw [hsame]
  · have hcount := countP_eq_of_perm_append (p := fun m : DeliveryMethod => m.id == some deliveryId) hperm fun m hm =>
      beq_eq_false_iff_ne.2 (hextra m hm)
    have hmem (hid : m.id = some deliveryId) : m ∈ p'.methods ↔ m ∈ p.methods := by
      rw [hperm.mem_iff, List.mem_append]
      exact or_iff_left fun hm => hextra m hm hid
    unfold Means
    constructor
    · rintro ⟨q, hq, hm, hid, hone⟩
      obtain rfl : p' = q := by simpa using hp'.symm.trans hq
      exact ⟨p, hp, (hmem hid).1 hm, hid, hcount ▸ hone⟩
    · rintro ⟨q, hq, hm, hid, hone⟩
      obtain rfl : p = q := by simpa using hp.symm.trans hq
      exact ⟨p', hp', (hmem hid).2 hm, hid, hcount ▸ hone⟩

/-- The delivery has the same way. -/
theorem routed_iff (h : services.Widened username deliveryId services') :
    services'.Routed username deliveryId m c ↔ services.Routed username deliveryId m c := by
  obtain ⟨extra, hperm, hextra⟩ := h.channels
  have hserved (hmeans : services.Means username deliveryId m) (hkind : m.kind = some c.kind) :
      services'.ServedBy c ↔ services.ServedBy c := by
    have hother : ∀ added ∈ extra, (added.kind == c.kind) = false := fun added hadded =>
      beq_eq_false_iff_ne.2 fun heq => hextra added hadded m hmeans (heq ▸ hkind)
    have hcount := countP_eq_of_perm_append (p := fun other : Channel => other.kind == c.kind) hperm hother
    have hmem : c ∈ services'.channels.list ↔ c ∈ services.channels.list := by
      rw [hperm.mem_iff, List.mem_append]
      exact or_iff_left fun hc => hextra c hc m hmeans hkind
    unfold ServedBy
    rw [hcount, hmem]
  constructor
  · rintro ⟨hmeans, hkind, hc⟩
    have hbefore := h.means_iff.1 hmeans
    exact ⟨hbefore, hkind, (hserved hbefore hkind).1 hc⟩
  · rintro ⟨hmeans, hkind, hc⟩
    exact ⟨h.means_iff.2 hmeans, hkind, (hserved hmeans hkind).2 hc⟩

end Widened

end Services

namespace Job

variable {ρ : Type} [JobRegistry ρ]

/-- A delivery that has a way is handed to its channel once, with the identifier asked for, and what the channel answers is
returned. -/
theorem deliverTo_of_routed {services : Services} {job : Job} {deliveryId : String} {m : DeliveryMethod} {c : Channel}
    (h : services.Routed job.schedule.username deliveryId m c) (results : QueryResults) (s : EngineState ρ) :
    (job.deliverTo services results deliveryId).run services s =
      (Outcome.prepend (delivering deliveryId job.schedule.username)
          (c.respond s.handed ⟨job.query, results, job.schedule.username, deliveryId, m.parameters⟩),
        { s with handed := s.handed ++
          [⟨c.implementation, ⟨job.query, results, job.schedule.username, deliveryId, m.parameters⟩⟩] }) := by
  have hchoice := Services.select_eq_ok_iff.2 ⟨rfl, h.served⟩
  rw [deliverTo_eq, h.resolves]
  simp only [Program.run_step, Program.run_done, EngineState.perform, Channels.deliver, hchoice]

/-- A delivery without a way is an error, and nothing is done. -/
theorem deliverTo_of_not_routed {services : Services} {job : Job} {deliveryId : String}
    (h : ∀ m c, ¬services.Routed job.schedule.username deliveryId m c) (results : QueryResults) (s : EngineState ρ) :
    ∃ f, (job.deliverTo services results deliveryId).run services s = (.error f, s) := by
  rw [deliverTo_eq]
  cases hresolved : resolveDestination services.preferences job.schedule.username deliveryId with
  | error e => exact ⟨_, rfl⟩
  | ok destination =>
    simp only [Program.run_step, Program.run_done, EngineState.perform, Channels.deliver]
    cases hchoice : services.channels.select destination.kind with
    | error e => exact ⟨_, rfl⟩
    | ok c =>
      obtain ⟨m, hmeans, hkind, -⟩ := Services.resolveDestination_eq_ok_iff.1 hresolved
      obtain ⟨hc, hserved⟩ := Services.select_eq_ok_iff.1 hchoice
      exact absurd ⟨hmeans, hc ▸ hkind, hserved⟩ (h m c)

/-- What is true of a delivery with some services, and with others that were widened by what does not concern it. -/
structure Routing (services services' : Services) (job : Job) (results : QueryResults) (deliveryId : String) (s : EngineState ρ) :
    Prop where
  /-- A delivery that has a way goes to its channel and to no other: it is handed over once, with the identifier asked for and the
  last values of the fields of the method, and what the channel answers is returned. -/
  invoked : ∀ m c, services.Routed job.schedule.username deliveryId m c →
    (∀ m' c', services.Routed job.schedule.username deliveryId m' c' → m' = m ∧ c' = c) ∧
      (∀ name, Keyed.get? m.parameters name = m.lastValue name) ∧
      (job.deliverTo services results deliveryId).run services s =
        (Outcome.prepend (delivering deliveryId job.schedule.username)
            (c.respond s.handed ⟨job.query, results, job.schedule.username, deliveryId, m.parameters⟩),
          { s with handed := s.handed ++
            [⟨c.implementation, ⟨job.query, results, job.schedule.username, deliveryId, m.parameters⟩⟩] })
  /-- A delivery without a way is an error, and nothing is done. -/
  notInvoked : (∀ m c, ¬services.Routed job.schedule.username deliveryId m c) →
    ∃ f, (job.deliverTo services results deliveryId).run services s = (.error f, s)
  /-- The other services give the delivery the same way. -/
  sameWay : ∀ m c,
    services'.Routed job.schedule.username deliveryId m c ↔ services.Routed job.schedule.username deliveryId m c
  /-- The other services do the same. -/
  sameState : ((job.deliverTo services' results deliveryId).run services' s).2 =
    ((job.deliverTo services results deliveryId).run services s).2
  /-- Where there is a way, the answer is the same too. -/
  sameAnswer : ∀ m c, services.Routed job.schedule.username deliveryId m c →
    ((job.deliverTo services' results deliveryId).run services' s).1 =
      ((job.deliverTo services results deliveryId).run services s).1

/-- The way of a delivery is unique, and nothing that does not concern the delivery changes it. -/
theorem routing {services services' : Services} {job : Job} {deliveryId : String}
    (h : services.Widened job.schedule.username deliveryId services') (results : QueryResults) (s : EngineState ρ) :
    Routing services services' job results deliveryId s where
  invoked m c hway := ⟨fun _ _ hway' => hway'.unique hway, m.get?_parameters, deliverTo_of_routed hway results s⟩
  notInvoked hnot := deliverTo_of_not_routed hnot results s
  sameWay _ _ := h.routed_iff
  sameState := by
    by_cases hway : ∃ m c, services.Routed job.schedule.username deliveryId m c
    · obtain ⟨m, c, hway⟩ := hway
      rw [deliverTo_of_routed hway, deliverTo_of_routed (h.routed_iff.2 hway)]
    · have hnot : ∀ m c, ¬services.Routed job.schedule.username deliveryId m c := fun m c hmc => hway ⟨m, c, hmc⟩
      obtain ⟨f, hf⟩ := deliverTo_of_not_routed hnot results s
      obtain ⟨f', hf'⟩ := deliverTo_of_not_routed (fun m c hmc => hnot m c (h.routed_iff.1 hmc)) results s
      rw [hf, hf']
  sameAnswer m c hway := by rw [deliverTo_of_routed hway, deliverTo_of_routed (h.routed_iff.2 hway)]

namespace Sample

/-- A method with one of its fields given twice. -/
def homeMethod : DeliveryMethod := ⟨some "home", some "post", [⟨"street", "1"⟩, ⟨"street", "2"⟩]⟩

/-- Services that reach a user at home. -/
def reaching : Services :=
  { posting (.ok .empty) with
    preferences := fun user =>
      .ok (if user = "alice" then [⟨[homeMethod, ⟨none, some "post", []⟩]⟩] else []) }

/-- A channel for pigeons. -/
def pigeons : Channel := ⟨"pigeon", "Pigeon", [], "PigeonChannel", fun _ _ => .error ⟨"It is raining."⟩⟩

/-- These services with methods, channels and users that do not concern a delivery to the home. -/
def crowded : Services :=
  { reaching with
    preferences := fun _ =>
      .ok [⟨[⟨none, none, []⟩, ⟨some "attic", some "post", []⟩, ⟨none, some "post", []⟩, homeMethod]⟩]
    channels := ⟨pigeons :: reaching.channels.list⟩ }

end Sample

open Course.Sample Sample in
/-- A delivery to a home goes the same way when there are more methods, in another order, and more channels and users. -/
theorem routing_home :
    reaching.Widened "alice" "home" crowded ∧ (∃ m c, reaching.Routed "alice" "home" m c) ∧
      Routing reaching crowded listing .empty "home" holding := by
  have hwidened : reaching.Widened "alice" "home" crowded := by
    let added : List DeliveryMethod := [⟨none, none, []⟩, ⟨some "attic", some "post", []⟩]
    refine ⟨Or.inr ⟨_, _, added, rfl, rfl, by decide, by decide⟩, [pigeons], ?_, ?_⟩
    · exact (List.perm_append_comm : ([pigeons] ++ reaching.channels.list).Perm _)
    · intro c hc m hmeans
      obtain ⟨p, hp, hm, hid, -⟩ := hmeans
      obtain rfl : _ = p := by simpa using Except.ok.inj hp
      rw [List.mem_singleton.1 hc]
      revert hid
      revert m
      decide
  have hmeans : reaching.Means "alice" "home" homeMethod := ⟨_, rfl, by decide⟩
  exact ⟨hwidened, ⟨_, _, hmeans, rfl, List.mem_singleton_self _, rfl⟩, routing hwidened .empty holding⟩

end Job

end StandingQuery
