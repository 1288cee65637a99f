import StandingQuery.Proofs.Courses
import StandingQuery.Proofs.Enumeration

/-!
# The rhythm of a job

At which of its ticks a job fires whose token is always confirmed: first at the first tick that does not begin before its
start, then every so many ticks if its unit has a period, and otherwise whenever as many months or years have come on the
calendar since the last firing (`Job.rhythm_of_through`).
-/

namespace StandingQuery

/-- Whether a tick is the first that does not begin before the start of a schedule. -/
structure Schedule.Opens (schedule : Schedule) (ticks : List (Instant × Instant)) (first : Nat) : Prop where
  begun : ∃ tick, ticks[first]? = some tick ∧ schedule.start ≤ tick.2
  notBefore : ∀ i tick, i < first → ticks[i]? = some tick → tick.2 < schedule.start

/-- At which ticks a schedule lets its query run. Each tick has an instant and a beginning. -/
structure Schedule.Rhythm (schedule : Schedule) (ticks : List (Instant × Instant)) (runs : Nat → Prop) : Prop where
  /-- At no tick that begins before the start. -/
  early : ∀ i tick, ticks[i]? = some tick → tick.2 < schedule.start → ¬runs i
  /-- At the first tick that does not begin before the start. -/
  opening : ∀ first, schedule.Opens ticks first → runs first
  /-- From then on at every so many ticks. -/
  periodic : schedule.unit ≠ .months → schedule.unit ≠ .years → ∀ first i, schedule.Opens ticks first → first ≤ i →
    i < ticks.length → (runs i ↔ schedule.amount ∣ i - first)
  /-- From then on at each first tick that is so many months of the calendar after the last one. -/
  months : schedule.unit = .months → ∀ i j t u, ticks[i]? = some t → ticks[j]? = some u → i < j → runs i →
    (∀ k, i < k → k < j → ¬runs k) → (runs j ↔ (schedule.amount : Int) ≤ u.1.monthNumber - t.1.monthNumber)
  /-- From then on at each first tick that is so many years of the calendar after the last one. -/
  years : schedule.unit = .years → ∀ i j t u, ticks[i]? = some t → ticks[j]? = some u → i < j → runs i →
    (∀ k, i < k → k < j → ¬runs k) → (runs j ↔ (schedule.amount : Int) ≤ u.1.date.year - t.1.date.year)

namespace Job

variable {job : Job} {now last : Instant}

/-- At which ticks a job fires, by their beginnings. -/
def firings : Job → List Instant → List Bool
  | _, [] => []
  | job, now :: later => job.fires now :: (job.beyond now).firings later

/-- A job fires when its start is reached and it is due. -/
theorem fires_iff : job.fires now = true ↔ job.schedule.start ≤ now ∧ job.isDue now.toMinute = true := by
  unfold fires gate
  rw [← not_lt]
  simp only [Bool.not_true, Bool.false_eq_true, if_false]
  by_cases hstart : now < job.schedule.start
  · simp [hstart]
  · cases job.isDue now.toMinute <;> simp [hstart]

/-- A job that has not fired is due. -/
theorem fires_of_unfired (h : job.lastFired = none) : job.fires now = true ↔ job.schedule.start ≤ now := by
  rw [fires_iff]
  unfold isDue
  simp [h]

/-- A job that has fired is due again once there are enough units since. -/
theorem fires_of_fired (h : job.lastFired = some last) (hstart : job.schedule.start ≤ now) :
    job.fires now = true ↔ (job.schedule.amount : Int) ≤ job.schedule.unit.elapsed last now.toMinute := by
  rw [fires_iff]
  unfold isDue
  simp [h, hstart]

@[simp] theorem beyond_schedule (job : Job) (now : Instant) : (job.beyond now).schedule = job.schedule := by
  unfold beyond
  split <;> rfl

@[simp] theorem beyond_recurrence (job : Job) (now : Instant) : (job.beyond now).recurrence = job.recurrence := by
  unfold recurrence
  rw [beyond_schedule]

@[simp] theorem beyond_requestsIf (services : Services) (job : Job) (now : Instant) :
    (job.beyond now).requestsIf services = job.requestsIf services := by
  refine requestsIf_congr services ?_
  unfold beyond
  split <;> rfl

theorem beyond_of_fires (h : job.fires now = true) : (job.beyond now).lastFired = some now.toMinute := by
  unfold beyond
  rw [if_pos h]

theorem beyond_of_not_fires (h : job.fires now = false) : job.beyond now = job := by
  unfold beyond
  rw [if_neg (by simp [h])]

/-- At the ticks of some beginnings and one more a job fires as at the ticks before, and then as it has gone on from them. -/
theorem firings_snoc (job : Job) (nows : List Instant) (now : Instant) :
    job.firings (nows ++ [now]) = job.firings nows ++ [(nows.foldl beyond job).fires now] := by
  induction nows generalizing job with
  | nil => rfl
  | cons first later ih => exact congrArg (job.fires first :: ·) (ih (job.beyond first))

/-- A tick at which a job fires does not begin before its start. -/
theorem start_le_of_firings {nows : List Instant} {i : Nat} (h : (job.firings nows)[i]? = some true) :
    ∃ now, nows[i]? = some now ∧ job.schedule.start ≤ now := by
  induction nows generalizing job i with
  | nil => cases h
  | cons now later ih =>
    cases i with
    | zero => exact ⟨now, rfl, (fires_iff.1 (Option.some.inj h)).1⟩
    | succ i =>
      have hlater : ∃ u, later[i]? = some u ∧ (job.beyond now).schedule.start ≤ u := ih h
      rwa [beyond_schedule] at hlater

/-- A job that has not fired does so at the first tick that does not begin before its start. -/
theorem firings_first (h : job.lastFired = none) {nows : List Instant} {first : Nat} (hnow : nows[first]? = some now)
    (hstart : job.schedule.start ≤ now) (hbefore : ∀ i u, i < first → nows[i]? = some u → u < job.schedule.start) :
    (job.firings nows)[first]? = some true := by
  induction nows generalizing first with
  | nil => cases hnow
  | cons u later ih =>
    cases first with
    | zero =>
      cases Option.some.inj hnow
      exact congrArg some ((fires_of_unfired h).2 hstart)
    | succ first =>
      have hshut : job.fires u = false := by
        rw [← Bool.not_eq_true, fires_of_unfired h]
        exact not_le.2 (hbefore 0 u (Nat.succ_pos _) rfl)
      rw [firings, List.getElem?_cons_succ, beyond_of_not_fires hshut]
      exact ih hnow fun i u hi hu => hbefore (i + 1) u (Nat.succ_lt_succ hi) hu

/-- A job that has fired does so again at a tick before which it does not, if there are enough units since. -/
theorem firings_again (h : job.lastFired = some last) {nows : List Instant} {j : Nat} (hnow : nows[j]? = some now)
    (hstart : job.schedule.start ≤ now) (hbetween : ∀ k, k < j → (job.firings nows)[k]? ≠ some true) :
    (job.firings nows)[j]? = some true ↔ (job.schedule.amount : Int) ≤ job.schedule.unit.elapsed last now.toMinute := by
  induction nows generalizing j with
  | nil => cases hnow
  | cons u later ih =>
    cases j with
    | zero =>
      cases Option.some.inj hnow
      rw [← fires_of_fired h hstart]
      exact Option.some_inj
    | succ j =>
      have hshut : job.fires u = false := by
        rw [← Bool.not_eq_true]
        exact fun hfires => hbetween 0 (Nat.succ_pos _) (congrArg some hfires)
      rw [firings, List.getElem?_cons_succ, beyond_of_not_fires hshut]
      refine ih hnow fun k hk hfired => hbetween (k + 1) (Nat.succ_lt_succ hk) ?_
      rw [firings, List.getElem?_cons_succ, beyond_of_not_fires hshut]
      exact hfired

/-- From one firing to the next there are enough units. -/
theorem firings_next {nows : List Instant} {i j : Nat} {t u : Instant} (ht : nows[i]? = some t) (hu : nows[j]? = some u)
    (hij : i < j) (hfired : (job.firings nows)[i]? = some true) (hstart : job.schedule.start ≤ u)
    (hbetween : ∀ k, i < k → k < j → (job.firings nows)[k]? ≠ some true) :
    (job.firings nows)[j]? = some true ↔
      (job.schedule.amount : Int) ≤ job.schedule.unit.elapsed t.toMinute u.toMinute := by
  induction nows generalizing job i j with
  | nil => cases ht
  | cons now later ih =>
    obtain ⟨j, rfl⟩ := Nat.exists_eq_succ_of_ne_zero (Nat.ne_zero_of_lt hij)
    rw [firings, List.getElem?_cons_succ]
    have hschedule := job.beyond_schedule now
    cases i with
    | zero =>
      cases Option.some.inj ht
      have hlast := beyond_of_fires (Option.some.inj hfired)
      rw [← hschedule]
      exact firings_again hlast hu (by rwa [hschedule]) fun k hk => hbetween (k + 1) (Nat.succ_pos _) (Nat.succ_lt_succ hk)
    | succ i =>
      rw [← hschedule]
      exact ih ht hu (Nat.lt_of_succ_lt_succ hij) hfired (by rwa [hschedule]) fun k hik hkj =>
        hbetween (k + 1) (Nat.succ_lt_succ hik) (Nat.succ_lt_succ hkj)

/-- A job whose unit has a period, and whose last firing was so many ticks ago, fires again at every so many ticks. -/
theorem firings_periodic {period : Int} (hperiod : job.schedule.unit.period? = some period) {finish t : Instant} {since : Nat}
    {ticks : List (Instant × Instant)} (ht : job.recurrence.includes t = true)
    (hthrough : job.recurrence.Through finish t (ticks.map Prod.fst)) (hpunctual : ∀ tick ∈ ticks, tick.2.toMinute = tick.1)
    (hstart : ∀ tick ∈ ticks, job.schedule.start ≤ tick.2) (hlast : job.lastFired = some last) (hminute : last.IsMinute)
    (hsince : t.seconds = last.seconds + since * period) (hfew : since < job.schedule.amount) {i : Nat} (hi : i < ticks.length) :
    (job.firings (ticks.map Prod.snd))[i]? = some true ↔ job.schedule.amount ∣ since + 1 + i := by
  induction ticks generalizing job t since last i with
  | nil => cases hi
  | cons tick later ih =>
    obtain ⟨u, now⟩ := tick
    obtain _ | ⟨hnext, hwithin, hrest⟩ := hthrough
    have hnow : now.toMinute = u := hpunctual _ (List.mem_cons_self ..)
    have hpunctual' := fun tick ht => hpunctual tick (List.mem_cons_of_mem _ ht)
    have hstart' := fun tick ht => hstart tick (List.mem_cons_of_mem _ ht)
    have hu : u.seconds = last.seconds + (since + 1 : Nat) * period := by
      rw [hnext.period hperiod ht, hsince]
      push_cast
      ring
    have huminute := Recurrence.isMinute_of_includes hnext.included
    have hfires : job.fires now = true ↔ job.schedule.amount ≤ since + 1 := by
      rw [fires_of_fired hlast (hstart _ (List.mem_cons_self ..)), hnow,
        TimeUnit.elapsed_of_period hperiod hminute huminute hu, Nat.cast_le]
    have hschedule := job.beyond_schedule now
    have hrecurrence := job.beyond_recurrence now
    rcases Nat.lt_or_ge (since + 1) job.schedule.amount with hfewer | henough
    · have hshut : job.fires now = false := by
        rw [← Bool.not_eq_true, hfires]
        omega
      cases i with
      | zero =>
        refine iff_of_false (by simp [firings, hshut]) fun hdvd => ?_
        have := Nat.le_of_dvd (by omega) hdvd
        omega
      | succ i =>
        rw [List.map_cons, firings, List.getElem?_cons_succ, beyond_of_not_fires hshut,
          ih hperiod hnext.included hrest hpunctual' hstart' hlast hminute hu hfewer (Nat.lt_of_succ_lt_succ hi)]
        rw [show since + 1 + 1 + i = since + 1 + (i + 1) by omega]
    · have hamount : job.schedule.amount = since + 1 := by omega
      cases i with
      | zero => exact iff_of_true (congrArg some (hfires.2 henough)) (by rw [hamount, Nat.add_zero])
      | succ i =>
        have hagain : ((job.beyond now).firings (later.map Prod.snd))[i]? = some true ↔
            (job.beyond now).schedule.amount ∣ 0 + 1 + i :=
          ih (by rwa [hschedule]) (by rw [hrecurrence]; exact hnext.included) (by rwa [hrecurrence]) hpunctual'
            (by rwa [hschedule]) (beyond_of_fires (hfires.2 henough)) (Instant.isMinute_toMinute now) (by rw [hnow]; simp)
            (by rw [hschedule]; omega) (Nat.lt_of_succ_lt_succ hi)
        rw [List.map_cons, firings, List.getElem?_cons_succ, hagain, hschedule, hamount,
          show since + 1 + (i + 1) = (since + 1) + (0 + 1 + i) by omega, Nat.dvd_add_right (dvd_refl _)]

/-- The ticks after one that begins within the minute of its instant begin after it, if they do so too. -/
theorem begins_later {r : Recurrence} {finish u now : Instant} {later : List (Instant × Instant)}
    (hthrough : r.Through finish u (later.map Prod.fst)) (hnow : now.toMinute = u)
    (hpunctual : ∀ tick ∈ later, tick.2.toMinute = tick.1) : ∀ tick ∈ later, now < tick.2 := by
  intro tick htick
  obtain ⟨hincluded, hlater, _⟩ := hthrough.mem_iff.1 (List.mem_map_of_mem htick)
  have hbefore : now < tick.1 := (Instant.lt_of_toMinute_lt (Recurrence.isMinute_of_includes hincluded)).1 (hnow ▸ hlater)
  exact hbefore.trans_le (hpunctual tick htick ▸ Instant.toMinute_le tick.2)

/-- Ticks that begin within the minutes of their instants begin later and later. -/
theorem begins_ascend {r : Recurrence} {finish after : Instant} {ticks : List (Instant × Instant)}
    (hthrough : r.Through finish after (ticks.map Prod.fst)) (hpunctual : ∀ tick ∈ ticks, tick.2.toMinute = tick.1) :
    ticks.Pairwise fun t u => t.2 < u.2 := by
  induction ticks generalizing after with
  | nil => exact List.Pairwise.nil
  | cons tick later ih =>
    obtain _ | ⟨_, _, hrest⟩ := hthrough
    have hpunctual' := fun tick ht => hpunctual tick (List.mem_cons_of_mem _ ht)
    exact List.pairwise_cons.2 ⟨begins_later hrest (hpunctual _ (List.mem_cons_self ..)) hpunctual', ih hrest hpunctual'⟩

/-- A job whose unit has a period, and that has not fired, fires at every so many ticks from the first that does not begin
before its start. -/
theorem firings_periodic_of_unfired (h : job.lastFired = none) {period : Int} (hperiod : job.schedule.unit.period? = some period)
    (hamount : 1 ≤ job.schedule.amount) {finish after : Instant} {ticks : List (Instant × Instant)}
    (hthrough : job.recurrence.Through finish after (ticks.map Prod.fst)) (hpunctual : ∀ tick ∈ ticks, tick.2.toMinute = tick.1)
    {first i : Nat} (hopens : job.schedule.Opens ticks first) (hfirst : first ≤ i) (hi : i < ticks.length) :
    (job.firings (ticks.map Prod.snd))[i]? = some true ↔ job.schedule.amount ∣ i - first := by
  induction ticks generalizing after first i with
  | nil => cases hi
  | cons tick later ih =>
    obtain ⟨u, now⟩ := tick
    obtain _ | ⟨hnext, hwithin, hrest⟩ := hthrough
    have hnow : now.toMinute = u := hpunctual _ (List.mem_cons_self ..)
    have hpunctual' := fun tick ht => hpunctual tick (List.mem_cons_of_mem _ ht)
    cases first with
    | zero =>
      obtain ⟨_, htick, hstart⟩ := hopens.begun
      cases Option.some.inj htick
      have hfires := (fires_of_unfired h).2 hstart
      cases i with
      | zero => exact iff_of_true (congrArg some hfires) (dvd_zero _)
      | succ i =>
        have hagain : ((job.beyond now).firings (later.map Prod.snd))[i]? = some true ↔
            (job.beyond now).schedule.amount ∣ 0 + 1 + i :=
          firings_periodic (by rwa [beyond_schedule]) (by rw [beyond_recurrence]; exact hnext.included)
            (by rwa [beyond_recurrence]) hpunctual'
            (fun tick ht => by rw [beyond_schedule]; exact hstart.trans (begins_later hrest hnow hpunctual' tick ht).le)
            (beyond_of_fires hfires) (Instant.isMinute_toMinute now) (by rw [hnow]; simp)
            (by rw [beyond_schedule]; omega) (Nat.lt_of_succ_lt_succ hi)
        rw [List.map_cons, firings, List.getElem?_cons_succ, hagain, beyond_schedule,
          show i + 1 - 0 = 0 + 1 + i by omega]
    | succ first =>
      obtain ⟨i, rfl⟩ := Nat.exists_eq_succ_of_ne_zero (show i ≠ 0 by omega)
      have hshut : job.fires now = false := by
        rw [← Bool.not_eq_true, fires_of_unfired h]
        exact not_le.2 (hopens.notBefore 0 (u, now) (Nat.succ_pos _) rfl)
      have hopens' : job.schedule.Opens later first :=
        ⟨hopens.begun, fun k tick hk htick => hopens.notBefore (k + 1) tick (Nat.succ_lt_succ hk) htick⟩
      rw [List.map_cons, firings, List.getElem?_cons_succ, beyond_of_not_fires hshut,
        ih hrest hpunctual' hopens' (Nat.le_of_succ_le_succ hfirst) (Nat.lt_of_succ_lt_succ hi),
        show i.succ - (first + 1) = i - first by omega]

/-- A job that has not fired, whose ticks go through the instants of its recurrence and begin within their minutes, fires in
the rhythm of its schedule. -/
theorem rhythm_of_through (h : job.lastFired = none) (hamount : 1 ≤ job.schedule.amount) {finish after : Instant}
    {ticks : List (Instant × Instant)} (hthrough : job.recurrence.Through finish after (ticks.map Prod.fst))
    (hpunctual : ∀ tick ∈ ticks, tick.2.toMinute = tick.1) :
    job.schedule.Rhythm ticks fun i => (job.firings (ticks.map Prod.snd))[i]? = some true := by
  have hbegins : ∀ {i : Nat} {tick : Instant × Instant}, ticks[i]? = some tick → (ticks.map Prod.snd)[i]? = some tick.2 := by
    intro i tick hi
    rw [List.getElem?_map, hi]
    rfl
  have hnext : ∀ (i j : Nat) (t u : Instant × Instant), ticks[i]? = some t → ticks[j]? = some u → i < j →
      (job.firings (ticks.map Prod.snd))[i]? = some true →
      (∀ k, i < k → k < j → (job.firings (ticks.map Prod.snd))[k]? ≠ some true) →
      ((job.firings (ticks.map Prod.snd))[j]? = some true ↔
        (job.schedule.amount : Int) ≤ job.schedule.unit.elapsed t.1 u.1) := by
    intro i j t u ht hu hij hfired hbetween
    obtain ⟨now, hnow, hstart⟩ := start_le_of_firings hfired
    cases Option.some.inj ((hbegins ht).symm.trans hnow)
    have hlater : t.2 < u.2 := by
      obtain ⟨hi, rfl⟩ := List.getElem?_eq_some_iff.1 ht
      obtain ⟨hj, rfl⟩ := List.getElem?_eq_some_iff.1 hu
      exact List.pairwise_iff_getElem.1 (begins_ascend hthrough hpunctual) i j hi hj hij
    rw [← hpunctual t (List.mem_of_getElem? ht), ← hpunctual u (List.mem_of_getElem? hu)]
    exact firings_next (hbegins ht) (hbegins hu) hij hfired (hstart.trans hlater.le) hbetween
  refine ⟨fun i tick htick hearly hfired => ?_, fun first hopens => ?_, fun hmonths hyears first i hopens hfirst hi => ?_,
    fun hunit i j t u ht hu hij hfired hbetween => ?_, fun hunit i j t u ht hu hij hfired hbetween => ?_⟩
  · obtain ⟨now, hnow, hstart⟩ := start_le_of_firings hfired
    cases Option.some.inj ((hbegins htick).symm.trans hnow)
    exact absurd hstart (not_le.2 hearly)
  · obtain ⟨tick, htick, hstart⟩ := hopens.begun
    refine firings_first h (hbegins htick) hstart fun i u hi hu => ?_
    rw [List.getElem?_map, Option.map_eq_some_iff] at hu
    obtain ⟨tick', htick', rfl⟩ := hu
    exact hopens.notBefore i tick' hi htick'
  · obtain ⟨period, hperiod⟩ : ∃ period, job.schedule.unit.period? = some period := by
      cases hunit : job.schedule.unit with
      | months => exact absurd hunit hmonths
      | years => exact absurd hunit hyears
      | _ => exact ⟨_, rfl⟩
    exact firings_periodic_of_unfired h hperiod hamount hthrough hpunctual hopens hfirst hi
  · rw [hnext i j t u ht hu hij hfired hbetween, hunit]
    rfl
  · rw [hnext i j t u ht hu hij hfired hbetween, hunit]
    rfl

end Job

end StandingQuery
