import StandingQuery.Outcome

/-!
# Reports of many outcomes

A report is a success exactly when every outcome is one (`Outcome.all_eq_ok_iff`), and otherwise holds the message of every
failure, in order and nothing else (`Outcome.all_eq_fail`). Steps taken one after the other succeed exactly when each does
(`bind_eq_ok`), and fail with the first of the faults that any of them would fail with (`StopsAtFirst.bind`).
-/

namespace StandingQuery

section Steps

variable {ε α β : Type}

/-- A step and what follows succeed exactly when the step does and what follows does so too. -/
theorem bind_eq_ok {x : Except ε α} {f : α → Except ε β} {b : β} : (x >>= f) = .ok b ↔ ∃ a, x = .ok a ∧ f a = .ok b := by
  cases x <;> simp [bind, Except.bind]

theorem pure_eq_ok {a b : α} : (pure a : Except ε α) = .ok b ↔ a = b := by
  simp [pure, Except.pure]

/-- Steps behind a check succeed exactly when the check is passed and they do. -/
theorem throw_if_eq_ok {c : Prop} [Decidable c] {e : ε} {f : α → Except ε β} {x : Except ε β} {b : β} :
    (if c then throw e >>= f else x) = .ok b ↔ ¬c ∧ x = .ok b := by
  by_cases h : c
  · simp [h, throw, throwThe, MonadExceptOf.throw, bind, Except.bind]
  · simp [h]

/-- Whether steps fail with the first of these faults, and succeed if there is none. -/
def StopsAtFirst (x : Except ε α) (faults : List ε) : Prop :=
  match x with
  | .ok _ => faults = []
  | .error e => faults.head? = some e

namespace StopsAtFirst

variable {x : Except ε α} {f : α → Except ε β} {faults later : List ε}

/-- The faults of what follows come after those of a step. -/
theorem bind (h : StopsAtFirst x faults) (hlater : ∀ a, x = .ok a → StopsAtFirst (f a) later) :
    StopsAtFirst (x >>= f) (faults ++ later) := by
  cases x with
  | ok a =>
    have hnone : faults = [] := h
    rw [hnone, List.nil_append]
    exact hlater a rfl
  | error e =>
    have hfirst : faults.head? = some e := h
    change (faults ++ later).head? = some e
    rw [List.head?_append, hfirst, Option.some_or]

/-- A step that cannot fail adds no fault. -/
theorem bind_ok {a : α} (h : x = .ok a) (hlater : StopsAtFirst (f a) faults) : StopsAtFirst (x >>= f) faults := by
  rw [h]
  exact hlater

/-- A value that is changed changes no fault. -/
theorem map (h : StopsAtFirst x faults) (g : α → β) : StopsAtFirst (x.map g) faults := by
  cases x <;> exact h

/-- The faults of steps whose failures are put into other words. -/
theorem mapError {δ : Type} (h : StopsAtFirst x faults) (g : ε → δ) : StopsAtFirst (x.mapError g) (faults.map g) := by
  cases x with
  | ok a =>
    have hnone : faults = [] := h
    rw [hnone]
    rfl
  | error e =>
    have hfirst : faults.head? = some e := h
    change (faults.map g).head? = some (g e)
    rw [List.head?_map, hfirst]
    rfl

/-- The failure is the first fault. -/
theorem error_iff (h : StopsAtFirst x faults) {e : ε} : x = .error e ↔ faults.head? = some e := by
  cases x with
  | ok a =>
    have hnone : faults = [] := h
    simp [hnone]
  | error d =>
    have hfirst : faults.head? = some d := h
    simp [hfirst]

/-- There is success where there is no fault. -/
theorem ok_iff (h : StopsAtFirst x faults) : (∃ a, x = .ok a) ↔ faults = [] := by
  cases x with
  | ok a =>
    have hnone : faults = [] := h
    simp [hnone]
  | error e =>
    have hfirst : faults.head? = some e := h
    simp only [reduceCtorEq, exists_false, false_iff]
    rintro rfl
    cases hfirst

end StopsAtFirst

/-- Steps over a list stop at the first item with a fault. -/
theorem mapM_stopsAtFirst {f : β → Except ε α} {fault? : β → Option ε} (h : ∀ b, StopsAtFirst (f b) (fault? b).toList)
    (items : List β) : StopsAtFirst (items.mapM f) (items.findSome? fault?).toList := by
  induction items with
  | nil => rfl
  | cons item items ih =>
    have hitem := h item
    rw [List.mapM_cons, List.findSome?_cons]
    cases hfault : fault? item with
    | none =>
      rw [hfault] at hitem
      obtain ⟨a, ha⟩ := hitem.ok_iff.2 rfl
      exact .bind_ok ha (ih.map (a :: ·))
    | some e =>
      rw [hfault] at hitem
      rw [hitem.error_iff.2 rfl]
      rfl

end Steps

namespace Outcome

variable {α β : Type}

/-- A report says what its messages say. -/
theorem all_congr {outcomes : List (Outcome α)} {others : List (Outcome β)} (h : messages outcomes = messages others) :
    all outcomes = all others := by
  unfold all
  rw [h]

/-- The messages of outcomes are those of the outcomes without their values. -/
theorem messages_map_discard (outcomes : List (Outcome α)) : messages (outcomes.map discard) = messages outcomes := by
  unfold messages
  rw [List.filterMap_map]
  refine congrArg (outcomes.filterMap ·) (funext fun outcome => ?_)
  cases outcome <;> rfl

/-- There is no message exactly when every outcome is a success. -/
theorem messages_eq_nil_iff {outcomes : List (Outcome α)} : messages outcomes = [] ↔ ∀ o ∈ outcomes, ∃ a, o = .ok a := by
  unfold messages
  rw [List.filterMap_eq_nil_iff]
  refine forall₂_congr fun o _ => ?_
  cases o with
  | ok a => simp
  | error f => simp

/-- A report is a success exactly when every outcome is one. -/
theorem all_eq_ok_iff {outcomes : List (Outcome α)} : all outcomes = .ok () ↔ ∀ o ∈ outcomes, ∃ a, o = .ok a := by
  rw [← messages_eq_nil_iff]
  unfold all
  split
  · rename_i hnone
    simp [hnone]
  · rename_i hsome
    simp [hsome, fail]

/-- A report is a success exactly when there is no message. -/
theorem all_eq_ok_iff_messages {outcomes : List (Outcome α)} : all outcomes = .ok () ↔ messages outcomes = [] := by
  rw [all_eq_ok_iff, messages_eq_nil_iff]

/-- A report of one outcome is that outcome, without its value. -/
theorem all_singleton_eq_discard (outcome : Outcome α) : all [outcome] = outcome.discard := by
  cases outcome with
  | ok _ => rfl
  | error f => simp [all, messages, fail, discard]

/-- A report that is not a success holds every message, in order. -/
theorem all_eq_fail {outcomes : List (Outcome α)} (h : all outcomes ≠ .ok ()) :
    all outcomes = fail ("\n".intercalate (messages outcomes)) := by
  unfold all at h ⊢
  split
  · rename_i hnone
    simp [hnone] at h
  · rename_i hsome
    rw [hsome]

end Outcome

end StandingQuery
