import StandingQuery.Proofs.PersistedValues

/-!
# Checked schedules

What comes of a schedule that is stored as an object. Which members are decoded, and into what, is said by `ScheduleRecord.StoredIn`;
which schedule they declare, when it is switched on, by `Schedule.Declared`. Everything that is wrong with the members is listed in
`Schedule.faults`, in the order in which it is looked for. Main statement: a schedule that is switched on is accepted exactly as it is
declared, and otherwise refused for the first of its faults (`Schedule.ofJson_exact`).
-/

namespace StandingQuery

open Json

namespace ScheduleRecord

/-! ## What is decoded -/

/-- Whether the members of an object hold this schedule: the switch, and of the other members each its value, or none where it is
absent. -/
structure StoredIn (o : Members) (r : ScheduleRecord) : Prop where
  isScheduled : o.get? "isScheduled" = some (.bool r.isScheduled)
  userId : Stored o "userId" .str r.userId
  amount : Stored o "scheduleAmount" .ofInt r.amount
  amountFits : r.AmountFits
  unit : Stored o "scheduleUnit" .str r.unit
  start : Stored o "scheduleStart" .str r.start
  finish : Stored o "scheduleEnd" .str r.finish
  deliveryIds : Stored o "deliveryIds" .ofStrings r.deliveryIds

/-- An object is decoded as the schedule that its members hold. -/
theorem decode_obj_iff {o : Members} {r : ScheduleRecord} : decode (.obj o) = .ok r ↔ r.StoredIn o := by
  constructor
  · intro h
    unfold decode at h
    simp only [record_obj, bind_eq_ok] at h
    obtain ⟨ids, hids, switch, hswitch, amount, hamount, finish, hfinish, start, hstart, unit, hunit, user, huser, b, hb, hr⟩ := h
    cases pure_eq_ok.1 hr
    have htext {key : String} {d : Option (Option String)} (hd : member o key (optional text) = .ok d) : Stored o key .str d.join :=
      stored_of_member text_eq_ok.1 hd
    have hfits : ∀ i ∈ amount.join, (-0x8000000000000000 : Int) ≤ i ∧ i ≤ 0x7FFFFFFFFFFFFFFF := by
      intro i hi
      rcases decoded_of_member hamount with ⟨hnone, -⟩ | ⟨j, n, hsome, -, hj⟩
      · rw [hnone] at hi
        cases hi
      · cases hi.symm.trans hsome
        exact (integer_eq_ok.1 hj).2
    have hisScheduled : o.get? "isScheduled" = some (.bool b) := by
      obtain ⟨j, hget, hj⟩ := get?_of_required hswitch hb
      rw [hget, boolean_eq_ok.1 hj]
    exact ⟨hisScheduled, htext huser, stored_of_member (fun hj => (integer_eq_ok.1 hj).1) hamount, hfits, htext hunit, htext hstart,
      htext hfinish, stored_of_member list_text_eq_ok.1 hids⟩
  · intro h
    have htext {key : String} {v : Option String} (hv : Stored o key .str v) :
        ∃ d, member o key (optional text) = .ok d ∧ d.join = v :=
      member_of_stored hv (fun _ => nofun) fun _ _ => rfl
    obtain ⟨user, huser, hu⟩ := htext h.userId
    obtain ⟨unit, hunit, hn⟩ := htext h.unit
    obtain ⟨start, hstart, hs⟩ := htext h.start
    obtain ⟨finish, hfinish, hf⟩ := htext h.finish
    have hinteger : ∀ i ∈ r.amount, signed64 (.ofInt i) = .ok i := fun i hi => integer_ofInt "i64" (h.amountFits i hi)
    obtain ⟨amount, hamount, ha⟩ := member_of_stored h.amount (fun _ => nofun) hinteger
    obtain ⟨ids, hids, hi⟩ := member_of_stored h.deliveryIds (fun _ => nofun) fun ts _ => list_ofStrings ts
    have hswitch : member o "isScheduled" boolean = .ok (some r.isScheduled) := member_of_get? h.isScheduled rfl
    unfold decode
    simp only [record_obj, huser, hunit, hstart, hfinish, hamount, hids, hswitch, ok_bind, required_some, hu, hn, hs, hf, ha, hi]
    rfl

/-- What is wrong with the members that are decoded, in the order of their keys. -/
def illegible (o : Members) : List Mismatch :=
  [faultAt o "deliveryIds" notTexts?, faultAt o "scheduleAmount" (notInteger? "i64" (-0x8000000000000000) 0x7FFFFFFFFFFFFFFF),
    faultAt o "scheduleEnd" notText?, faultAt o "scheduleStart" notText?, faultAt o "scheduleUnit" notText?,
    faultAt o "userId" notText?].flatten

/-- An object with a switch is decoded unless something is wrong with one of its members; the first such is reported. -/
theorem decode_stopsAtFirst {o : Members} {b : Bool} (h : o.get? "isScheduled" = some (.bool b)) :
    StopsAtFirst (decode (.obj o)) (illegible o) := by
  have hswitch : member o "isScheduled" boolean = .ok (some b) := member_of_get? h rfl
  have htext := member_stopsAtFirst text_stopsAtFirst o
  unfold decode illegible
  simp only [record_obj, List.flatten_cons, List.flatten_nil]
  refine (member_stopsAtFirst list_text_stopsAtFirst o "deliveryIds").bind fun _ _ => .bind_ok hswitch ?_
  refine (member_stopsAtFirst (integer_stopsAtFirst _ _ _) o "scheduleAmount").bind fun _ _ => ?_
  refine (htext "scheduleEnd").bind fun _ _ => (htext "scheduleStart").bind fun _ _ => ?_
  refine (htext "scheduleUnit").bind fun _ _ => (htext "userId").bind fun _ _ => ?_
  exact .bind_ok (required_some "isScheduled" b) rfl

theorem ofJson_obj_iff {o : Members} {r : ScheduleRecord} : ofJson (.obj o) = .ok r ↔ r.StoredIn o := by
  rw [← decode_obj_iff]
  unfold ofJson
  cases decode (.obj o) <;> simp

theorem ofJson_stopsAtFirst {o : Members} {b : Bool} (h : o.get? "isScheduled" = some (.bool b)) :
    StopsAtFirst (ofJson (.obj o)) ((illegible o).map ScheduleError.unreadable) := by
  have hdecode : ofJson (.obj o) = (decode (.obj o)).mapError ScheduleError.unreadable := by
    unfold ofJson
    cases decode (.obj o) <;> rfl
  rw [hdecode]
  exact (decode_stopsAtFirst h).mapError _

/-- The switch is the one that is stored. -/
theorem StoredIn.isScheduled_eq {o : Members} {r : ScheduleRecord} (hr : r.StoredIn o) {b : Bool}
    (h : o.get? "isScheduled" = some (.bool b)) : r.isScheduled = b :=
  Json.bool.inj (Option.some.inj (hr.isScheduled.symm.trans h))

end ScheduleRecord

namespace Schedule

/-! ## What is checked -/

/-- Whether the members of an object declare this schedule: each is there and of its type, the amount is at least one and has at most
32 bits, both times can be read, and the unit is named in letters of either case. -/
structure Declared (o : Members) (s : Schedule) : Prop where
  username : o.get? "userId" = some (.str s.username)
  amount : o.get? "scheduleAmount" = some (.ofNat s.amount)
  amount_pos : 1 ≤ s.amount
  amount_le : s.amount ≤ 0xFFFFFFFF
  unit : ∃ name, o.get? "scheduleUnit" = some (.str name) ∧ name.map Char.toUpper = s.unit.name
  start : ∃ text, o.get? "scheduleStart" = some (.str text) ∧ Timestamp.parse text = .ok s.start
  finish : ∃ text, o.get? "scheduleEnd" = some (.str text) ∧ Timestamp.parse text = .ok s.finish
  deliveryIds : o.get? "deliveryIds" = some (.ofStrings s.deliveryIds)

/-- What is missing of a member that is needed. -/
def missingAt (o : Members) (key : String) : List ScheduleError := if isAbsent o key then [.missing key] else []

/-- What is wrong with the time that a member names. -/
def timeFaults (o : Members) (key : String) (bad : String → TimestampError → ScheduleError) : List ScheduleError :=
  match o.get? key with
  | some (.str text) =>
    match Timestamp.parse text with
    | .ok _ => []
    | .error e => [bad text e]
  | _ => []

/-- What is wrong with the name of the unit: it is none of the six, whatever the case of its letters. -/
def unitFaults (o : Members) : List ScheduleError :=
  match o.get? "scheduleUnit" with
  | some (.str name) => if TimeUnit.all.any fun u => u.name == name.map Char.toUpper then [] else [.unknownUnit name]
  | _ => []

/-- What is wrong with the amount that the members name, with the unit. -/
def rangeFaults (o : Members) : List ScheduleError :=
  match o.get? "scheduleAmount", o.get? "scheduleUnit" with
  | some (.num (.int i)), some (.str unit) =>
    if i ≤ 0 then [.notPositive i unit] else if 0xFFFFFFFF < i then [.tooLarge i unit] else []
  | _, _ => []

/-- All that is wrong with the members of a schedule that is switched on, in the order in which it is looked for: members of a wrong
type, by their keys; missing members; an amount that is not positive, one that is too large, a start and an end that are no
times, and a unit that there is not. -/
def faults (o : Members) : List ScheduleError :=
  (ScheduleRecord.illegible o).map .unreadable ++
    [missingAt o "userId", missingAt o "scheduleAmount", missingAt o "scheduleUnit", missingAt o "scheduleStart",
      missingAt o "scheduleEnd", missingAt o "deliveryIds", rangeFaults o, timeFaults o "scheduleStart" .badStart,
      timeFaults o "scheduleEnd" .badFinish, unitFaults o].flatten

/-- A member that is needed is reported where it is absent. -/
theorem need_stopsAtFirst {α : Type} {o : Members} {key : String} {encode : α → Json} {v : Option α} (h : Stored o key encode v)
    (hnull : ∀ a, encode a ≠ .null) : StopsAtFirst (need key v) (missingAt o key) := by
  cases v with
  | none =>
    have habsent : isAbsent o key = true := h
    unfold missingAt
    rw [habsent]
    rfl
  | some a =>
    unfold missingAt
    rw [isAbsent_of_get? h (hnull a)]
    rfl

theorem need_eq_ok {α : Type} {key : String} {v : Option α} {a : α} : need key v = .ok a ↔ v = some a := by
  cases v <;> simp [need]

theorem checkAmount_eq_ok {i : Int} {unit : String} {n : Nat} : checkAmount i unit = .ok n ↔ i = n ∧ 1 ≤ n ∧ n ≤ 0xFFFFFFFF := by
  unfold checkAmount maxAmount
  constructor
  · intro h
    split at h
    · cases h
    · split at h
      · cases h
      · cases h
        omega
  · rintro ⟨rfl, hpos, hle⟩
    rw [if_neg (by omega), if_neg (by omega), Int.toNat_natCast]

theorem checkAmount_stopsAtFirst {o : Members} {i : Int} {unit : String} (hamount : o.get? "scheduleAmount" = some (.ofInt i))
    (hunit : o.get? "scheduleUnit" = some (.str unit)) : StopsAtFirst (checkAmount i unit) (rangeFaults o) := by
  unfold checkAmount rangeFaults
  rw [hamount, hunit]
  simp only [ofInt, maxAmount]
  by_cases hpos : i ≤ 0
  · simp only [hpos, if_true]
    rfl
  · by_cases hle : 0xFFFFFFFF < i
    · simp only [hpos, hle, if_true, if_false]
      rfl
    · simp only [hpos, hle, if_false]
      rfl

theorem checkStart_eq (text : String) : checkStart text = (Timestamp.parse text).mapError (.badStart text) := by
  unfold checkStart
  cases Timestamp.parse text <;> rfl

theorem checkFinish_eq (text : String) : checkFinish text = (Timestamp.parse text).mapError (.badFinish text) := by
  unfold checkFinish
  cases Timestamp.parse text <;> rfl

section Times

variable {x : Except ScheduleError Instant} {text : String} {bad : String → TimestampError → ScheduleError}

/-- A time is accepted as the instant that it names. -/
theorem time_eq_ok (hx : x = (Timestamp.parse text).mapError (bad text)) {t : Instant} : x = .ok t ↔ Timestamp.parse text = .ok t := by
  rw [hx]
  cases Timestamp.parse text <;> simp [Except.mapError]

theorem time_stopsAtFirst (hx : x = (Timestamp.parse text).mapError (bad text)) {o : Members} {key : String}
    (h : o.get? key = some (.str text)) : StopsAtFirst x (timeFaults o key bad) := by
  unfold timeFaults
  rw [hx, h]
  simp only
  cases Timestamp.parse text <;> rfl

end Times

/-- A unit is found by its name, in letters of either case. -/
theorem checkUnit_eq_ok {name : String} {u : TimeUnit} : checkUnit name = .ok u ↔ name.map Char.toUpper = u.name := by
  unfold checkUnit TimeUnit.ofName?
  constructor
  · intro h
    cases hfound : TimeUnit.all.find? fun u => u.name == name.map Char.toUpper with
    | none =>
      rw [hfound] at h
      cases h
    | some found =>
      rw [hfound] at h
      cases h
      have hname := List.find?_some hfound
      exact (beq_iff_eq.1 hname).symm
  · intro h
    rw [h]
    cases u <;> rfl

theorem checkUnit_stopsAtFirst {o : Members} {name : String} (h : o.get? "scheduleUnit" = some (.str name)) :
    StopsAtFirst (checkUnit name) (unitFaults o) := by
  unfold unitFaults
  rw [h]
  simp only
  cases hknown : TimeUnit.all.any fun u => u.name == name.map Char.toUpper with
  | true =>
    obtain ⟨u, -, hname⟩ := List.any_eq_true.1 hknown
    rw [checkUnit_eq_ok.2 (beq_iff_eq.1 hname).symm]
    rfl
  | false =>
    have hnone : TimeUnit.ofName? name = none := List.find?_eq_none.2 fun u hu => by simpa using List.any_eq_false.1 hknown u hu
    unfold checkUnit
    rw [hnone]
    rfl

/-- A record comes to nothing exactly when it is switched off. -/
theorem ofRecord_eq_none {r : ScheduleRecord} : ofRecord r = .ok none ↔ r.isScheduled = false := by
  unfold ofRecord
  cases r.isScheduled with
  | false => simp
  | true =>
    simp only [Bool.not_true, Bool.false_eq_true, if_false, bind_eq_ok, pure_eq_ok, reduceCtorEq, and_false, exists_false]

/-- A record comes to a schedule when each of its values is there and passes its check. -/
theorem ofRecord_eq_some {r : ScheduleRecord} {s : Schedule} :
    ofRecord r = .ok (some s) ↔ r.isScheduled = true ∧ r.userId = some s.username ∧
      (∃ i name, r.amount = some i ∧ r.unit = some name ∧ checkAmount i name = .ok s.amount ∧ checkUnit name = .ok s.unit) ∧
      (∃ text, r.start = some text ∧ checkStart text = .ok s.start) ∧
      (∃ text, r.finish = some text ∧ checkFinish text = .ok s.finish) ∧ r.deliveryIds = some s.deliveryIds := by
  unfold ofRecord
  cases hswitch : r.isScheduled with
  | false => simp
  | true =>
    simp only [Bool.not_true, Bool.false_eq_true, if_false, bind_eq_ok, need_eq_ok, pure_eq_ok]
    constructor
    · rintro ⟨user, huser, i, hi, name, hname, startText, hstartText, finishText, hfinishText, ids, hids, n, hn, start, hstart, finish,
        hfinish, unit, hunit, hs⟩
      cases hs
      exact ⟨trivial, huser, ⟨i, name, hi, hname, hn, hunit⟩, ⟨startText, hstartText, hstart⟩,
        ⟨finishText, hfinishText, hfinish⟩, hids⟩
    · rintro ⟨-, huser, ⟨i, name, hi, hname, hn, hunit⟩, ⟨startText, hstartText, hstart⟩,
        ⟨finishText, hfinishText, hfinish⟩, hids⟩
      exact ⟨_, huser, i, hi, name, hname, startText, hstartText, finishText, hfinishText, _, hids, _, hn, _, hstart, _, hfinish, _,
        hunit, rfl⟩

/-- A record that is switched on is refused for the first member that is missing or does not pass its check. -/
theorem ofRecord_stopsAtFirst {o : Members} {r : ScheduleRecord} (hr : r.StoredIn o) (h : r.isScheduled = true) :
    StopsAtFirst (ofRecord r) [missingAt o "userId", missingAt o "scheduleAmount", missingAt o "scheduleUnit",
      missingAt o "scheduleStart", missingAt o "scheduleEnd", missingAt o "deliveryIds", rangeFaults o,
      timeFaults o "scheduleStart" .badStart, timeFaults o "scheduleEnd" .badFinish, unitFaults o].flatten := by
  unfold ofRecord
  rw [h]
  simp only [Bool.not_true, Bool.false_eq_true, if_false, List.flatten_cons, List.flatten_nil]
  refine (need_stopsAtFirst hr.userId fun _ => nofun).bind fun username _ => ?_
  refine (need_stopsAtFirst hr.amount fun _ => nofun).bind fun i hi => ?_
  refine (need_stopsAtFirst hr.unit fun _ => nofun).bind fun name hname => ?_
  refine (need_stopsAtFirst hr.start fun _ => nofun).bind fun startText hstartText => ?_
  refine (need_stopsAtFirst hr.finish fun _ => nofun).bind fun finishText hfinishText => ?_
  refine (need_stopsAtFirst hr.deliveryIds fun _ => nofun).bind fun ids _ => ?_
  refine (checkAmount_stopsAtFirst (hr.amount.get? (need_eq_ok.1 hi)) (hr.unit.get? (need_eq_ok.1 hname))).bind fun n _ => ?_
  refine (time_stopsAtFirst (checkStart_eq startText) (hr.start.get? (need_eq_ok.1 hstartText))).bind fun start _ => ?_
  refine (time_stopsAtFirst (checkFinish_eq finishText) (hr.finish.get? (need_eq_ok.1 hfinishText))).bind fun finish _ => ?_
  exact (checkUnit_stopsAtFirst (hr.unit.get? (need_eq_ok.1 hname))).bind fun unit _ => rfl

/-! ## Objects -/

/-- An object comes to what its record comes to. -/
theorem ofJson_eq_ok {o : Members} {v : Option Schedule} :
    ofJson (.obj o) = .ok v ↔ ∃ r : ScheduleRecord, r.StoredIn o ∧ ofRecord r = .ok v := by
  unfold ofJson
  simp only [bind_eq_ok, ScheduleRecord.ofJson_obj_iff]

/-- An object that is switched on is refused for the first of its faults. -/
theorem ofJson_stopsAtFirst {o : Members} (h : o.get? "isScheduled" = some (.bool true)) :
    StopsAtFirst (ofJson (.obj o)) (faults o) := by
  unfold ofJson faults
  refine (ScheduleRecord.ofJson_stopsAtFirst h).bind fun r hr => ?_
  have hstored := ScheduleRecord.ofJson_obj_iff.1 hr
  exact ofRecord_stopsAtFirst hstored (hstored.isScheduled_eq h)

/-- An object that is switched on comes to the schedule that its members declare. -/
theorem ofJson_eq_some {o : Members} (h : o.get? "isScheduled" = some (.bool true)) {s : Schedule} :
    ofJson (.obj o) = .ok (some s) ↔ s.Declared o := by
  rw [ofJson_eq_ok]
  constructor
  · rintro ⟨r, hr, hs⟩
    obtain ⟨-, huser, ⟨i, name, hi, hname, hamount, hunit⟩, ⟨startText, hstartText, hstart⟩,
      ⟨finishText, hfinishText, hfinish⟩, hids⟩ :=
      ofRecord_eq_some.1 hs
    obtain ⟨rfl, hpos, hle⟩ := checkAmount_eq_ok.1 hamount
    have hthere : o.get? "scheduleAmount" = some (.ofInt s.amount) := hr.amount.get? hi
    exact {
      username := hr.userId.get? huser
      amount := hthere
      amount_pos := hpos
      amount_le := hle
      unit := ⟨name, hr.unit.get? hname, checkUnit_eq_ok.1 hunit⟩
      start := ⟨startText, hr.start.get? hstartText, (time_eq_ok (checkStart_eq _)).1 hstart⟩
      finish := ⟨finishText, hr.finish.get? hfinishText, (time_eq_ok (checkFinish_eq _)).1 hfinish⟩
      deliveryIds := hr.deliveryIds.get? hids }
  · intro hd
    obtain ⟨name, hname, hunit⟩ := hd.unit
    obtain ⟨startText, hstartText, hstart⟩ := hd.start
    obtain ⟨finishText, hfinishText, hfinish⟩ := hd.finish
    have hpos := hd.amount_pos
    have hle := hd.amount_le
    refine ⟨⟨true, some s.username, some s.amount, some name, some startText, some finishText, some s.deliveryIds⟩, ?_, ?_⟩
    · refine ⟨h, hd.username, hd.amount, ?_, hname, hstartText, hfinishText, hd.deliveryIds⟩
      rintro i ⟨⟩
      omega
    · have hamount : checkAmount s.amount name = .ok s.amount := checkAmount_eq_ok.2 ⟨rfl, hpos, hle⟩
      have hstartsAt := (time_eq_ok (checkStart_eq _)).2 hstart
      have hendsAt := (time_eq_ok (checkFinish_eq _)).2 hfinish
      exact ofRecord_eq_some.2 ⟨rfl, rfl, ⟨s.amount, name, rfl, rfl, hamount, checkUnit_eq_ok.2 hunit⟩, ⟨startText, rfl, hstartsAt⟩,
        ⟨finishText, rfl, hendsAt⟩, rfl⟩

/-- An object that is switched on is accepted exactly when its members declare a schedule, as that schedule; otherwise it is refused,
for the first of its faults. It is never ignored. -/
theorem ofJson_exact {o : Members} (h : o.get? "isScheduled" = some (.bool true)) :
    (∀ s, ofJson (.obj o) = .ok (some s) ↔ s.Declared o) ∧ ofJson (.obj o) ≠ .ok none ∧
      ∀ e, ofJson (.obj o) = .error e ↔ (faults o).head? = some e := by
  refine ⟨fun s => ofJson_eq_some h, ?_, fun e => (ofJson_stopsAtFirst h).error_iff⟩
  intro hnone
  obtain ⟨r, hr, hignored⟩ := ofJson_eq_ok.1 hnone
  have hoff := ofRecord_eq_none.1 hignored
  rw [hr.isScheduled_eq h] at hoff
  cases hoff

/-- A schedule with the largest amount, a unit in letters of both cases, a leap second, an offset without a colon and a destination
twice; and one that lacks a start, next to an amount, an end and a unit that would not do either. -/
theorem ofJson_exact_mixed :
    let o : Members := [("deliveryIds", .ofStrings ["d2", "d1", "d2"]), ("isScheduled", .bool true),
      ("scheduleAmount", .ofNat 0xFFFFFFFF), ("scheduleEnd", .str "2026-03-01T13:05:00.000+0000"),
      ("scheduleStart", .str "2016-12-31T23:59:60Z"), ("scheduleUnit", .str "wEEks"), ("userId", .str "u")]
    let faulty : Members := [("deliveryIds", .ofStrings []), ("isScheduled", .bool true), ("scheduleAmount", .ofInt (-3)),
      ("scheduleEnd", .str "tomorrow"), ("scheduleStart", .null), ("scheduleUnit", .str "FORTNIGHTS"), ("userId", .str "u")]
    o.get? "isScheduled" = some (.bool true) ∧
      ofJson (.obj o) = .ok (some ⟨"u", 0xFFFFFFFF, .weeks, ⟨1483228799, 1000000000⟩, ⟨1772370300, 0⟩, ["d2", "d1", "d2"]⟩) ∧
      faulty.get? "isScheduled" = some (.bool true) ∧ ofJson (.obj faulty) = .error (.missing "scheduleStart") := by
  intro o faulty
  have hon : o.get? "isScheduled" = some (.bool true) := rfl
  have hon' : faulty.get? "isScheduled" = some (.bool true) := rfl
  refine ⟨hon, ((ofJson_exact hon).1 _).2 ?_, hon', ((ofJson_exact hon').2.2 _).2 (by decide +kernel)⟩
  exact {
    username := rfl
    amount := rfl
    amount_pos := by decide
    amount_le := by decide
    unit := ⟨"wEEks", rfl, by decide +kernel⟩
    start := ⟨"2016-12-31T23:59:60Z", rfl, by decide +kernel⟩
    finish := ⟨"2026-03-01T13:05:00.000+0000", rfl, by decide +kernel⟩
    deliveryIds := rfl }

end Schedule

end StandingQuery
