import StandingQuery.Proofs.Periods
import StandingQuery.Proofs.TimerRuns

/-!
# Every instant up to an end

A timer that is never found cancelled, whose ticks begin within the minutes of their instants, and whose task goes on exactly
while its next instant is not past an end, ticks once for every instant of its recurrence up to that end
(`TimedTask.through_of_punctual`, `Recurrence.Through.mem_iff`).
-/

namespace StandingQuery

/-- The instants of a recurrence after one and up to an end, in order: each is the next after the one before, and the next
after the last is past the end. -/
inductive Recurrence.Through (r : Recurrence) (finish : Instant) : Instant → List Instant → Prop where
  | nil {after following : Instant} (next : r.IsNext after following) (past : finish < following) : Through r finish after []
  | cons {after t : Instant} {later : List Instant} (next : r.IsNext after t) (within : t ≤ finish)
      (rest : Through r finish t later) : Through r finish after (t :: later)

namespace Recurrence

variable {r : Recurrence} {finish after : Instant} {instants : List Instant}

/-- They are all the instants after one and up to the end. -/
theorem Through.mem_iff (h : r.Through finish after instants) {t : Instant} :
    t ∈ instants ↔ r.includes t = true ∧ after < t ∧ t ≤ finish := by
  induction h with
  | nil next past =>
    refine ⟨fun hm => absurd hm List.not_mem_nil, ?_⟩
    rintro ⟨hincluded, hlater, hwithin⟩
    exact absurd (past.trans_le (next.first t hincluded hlater)) (not_lt.2 hwithin)
  | @cons after u later next within _ ih =>
    rw [List.mem_cons, ih]
    constructor
    · rintro (rfl | ⟨hincluded, hlater, hwithin⟩)
      · exact ⟨next.included, next.later, within⟩
      · exact ⟨hincluded, next.later.trans hlater, hwithin⟩
    · rintro ⟨hincluded, hlater, hwithin⟩
      rcases (next.first t hincluded hlater).eq_or_lt with heq | hlt
      · exact Or.inl heq.symm
      · exact Or.inr ⟨hincluded, hlt, hwithin⟩

/-- They ascend. -/
theorem Through.ascending (h : r.Through finish after instants) : instants.Pairwise (· < ·) := by
  induction h with
  | nil => exact List.Pairwise.nil
  | cons _ _ rest ih => exact List.pairwise_cons.2 ⟨fun u hu => (rest.mem_iff.1 hu).2.1, ih⟩

end Recurrence

/-- What is next after a moment of a minute is next after the minute. -/
theorem Recurrence.IsNext.of_toMinute {r : Recurrence} {t now following : Instant} (hnow : now.toMinute = t)
    (h : r.IsNext now following) : r.IsNext t following where
  included := h.included
  later := hnow ▸ (Instant.toMinute_le now).trans_lt h.later
  first u hu hlater := h.first u hu ((Instant.lt_of_toMinute_lt (isMinute_of_includes hu)).1 (hnow ▸ hlater))

namespace TimedTask

variable {σ : Type} {task : TimedTask σ} {r : Recurrence} {finish : Instant}

/-- How a timer's run has gone to its end: it has ticked for every instant after one and up to the end, and what its task did
when it was told the first instant past the end was the last thing that happened. -/
structure WentThrough (task : TimedTask σ) (r : Recurrence) (finish after : Instant)
    (ticked : List (Instant × Instant) → σ → Prop) (past : List (Instant × Instant)) (run : TimerRun σ) : Prop where
  finished : run.status = .finished
  through : r.Through finish after (run.ticks.map Prod.fst)
  ended : ∃ s following, ticked (past ++ run.ticks) s ∧ finish < following ∧ run.state = (task.afterTick (some following) s).2

/-- A timer that is never found cancelled, ticks within the minutes of its instants, and whose task goes on exactly while its
next instant is not past an end, goes through every instant up to the end. One thing is known of the task while it waits, and
another once it has ticked, by the ticks so far. -/
theorem through_of_punctual (finish : Instant) (waits ticked : List (Instant × Instant) → σ → Prop)
    (htick : ∀ past instant now s, waits past s → ticked (past ++ [(instant, now)]) (task.tick now s))
    (hgoOn : ∀ past following s, ticked past s → following ≤ finish →
      (task.afterTick (some following) s).1 = .goOn ∧ waits past (task.afterTick (some following) s).2)
    (hstop : ∀ past following s, ticked past s → finish < following → (task.afterTick (some following) s).1 = .stop)
    (hfinds : ∀ now : Instant, now.day ≤ finish.day → ∃ following, r.nextAfter now = .ok (some following))
    {rounds : List Round} (huncancelled : ∀ round ∈ rounds, round.cancelledWaiting = false ∧ round.cancelledAfter = false)
    {after next : Instant} (hnext : r.IsNext after next) (hwithin : next ≤ finish)
    (henough : finish.seconds - next.seconds < 60 * rounds.length) {past : List (Instant × Instant)} {s : σ} (hs : waits past s)
    (hpunctual : ∀ tick ∈ (task.rounds r rounds next s).ticks, tick.2.toMinute = tick.1) :
    WentThrough task r finish after ticked past (task.rounds r rounds next s) := by
  induction rounds generalizing after next past s with
  | nil =>
    rw [Instant.le_def] at hwithin
    simp only [List.length_nil] at henough
    omega
  | cons round later ih =>
    obtain ⟨hwaiting, hafter⟩ := huncancelled round (List.mem_cons_self ..)
    have hminute := hpunctual _ (mem_ticks_first hwaiting)
    simp only at hminute
    obtain ⟨following, hfollowing⟩ := hfinds (beginning round next) (by
      rw [← Instant.day_toMinute, hminute]
      exact Instant.day_mono hwithin)
    have hfollows := (Recurrence.isNext_of_nextAfter hfollowing).of_toMinute hminute
    have hticked := htick past next (beginning round next) s hs
    rcases lt_or_ge finish following with hpast | hgoes
    · rw [rounds_over hwaiting hfollowing (Or.inr (Or.inl (hstop _ following _ hticked hpast)))]
      exact ⟨rfl, .cons hnext hwithin (.nil hfollows hpast), _, following, hticked, hpast, rfl⟩
    · obtain ⟨hanswer, htold⟩ := hgoOn _ following _ hticked hgoes
      have hnot : ¬((task.afterTick (some following) (task.tick (beginning round next) s)).1 = .stop ∨
          round.cancelledAfter = true) := by
        simp [hanswer, hafter]
      rw [rounds_goOn hwaiting hfollowing hnot] at hpunctual ⊢
      have hearlier : next.seconds + 60 ≤ following.seconds := by
        have hminute := (Recurrence.isMinute_of_includes hnext.included).2
        have hminute' := (Recurrence.isMinute_of_includes hfollows.included).2
        have hlt := (Instant.lt_iff_of_isMinute (Recurrence.isMinute_of_includes hnext.included)
          (Recurrence.isMinute_of_includes hfollows.included)).1 hfollows.later
        omega
      obtain ⟨hfinished, hthrough, s', following', hinv, hpast, hstate⟩ :=
        ih (fun round hr => huncancelled round (List.mem_cons_of_mem _ hr)) hfollows hgoes
          (by simp only [List.length_cons, Nat.cast_add, Nat.cast_one] at henough; omega) htold
          (fun tick ht => hpunctual tick (List.mem_cons_of_mem _ ht))
      refine ⟨hfinished, .cons hnext hwithin hthrough, s', following', ?_, hpast, hstate⟩
      rw [List.append_assoc] at hinv
      exact hinv

end TimedTask

end StandingQuery
