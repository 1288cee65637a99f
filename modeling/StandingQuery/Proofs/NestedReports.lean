import StandingQuery.Proofs.Reports

/-!
# Reports of reports

Reports are put together level by level: destinations, schedules, queries, records. No level loses, reorders or merges a message,
not even an empty one: a report of reports says what one report of all the outcomes says, to any depth
(`Outcome.Grouped.report_eq`). It comes down to two reports put together (`Outcome.both`), since a report of one list after another
is the two reports put together (`Outcome.all_append`). Doing something with every input is one call for each, and its report is that
of the calls (`Outcome.forEach_calls`).
-/

namespace StandingQuery

namespace Outcome

variable {α β σ : Type}

/-- Two reports put together. -/
def both : Outcome Unit → Outcome Unit → Outcome Unit
  | .ok (), later => later
  | .error f, .ok () => .error f
  | .error f, .error g => .error ⟨f.message ++ "\n" ++ g.message⟩

@[simp] theorem ok_both (later : Outcome Unit) : both (.ok ()) later = later := rfl

@[simp] theorem both_ok (first : Outcome Unit) : both first (.ok ()) = first := by cases first <;> rfl

/-- A report has no value to leave out. -/
theorem discard_all (outcomes : List (Outcome α)) : (all outcomes).discard = all outcomes := by
  cases all outcomes <;> rfl

/-- A report of one list after another is the two reports put together. -/
theorem all_append (first later : List (Outcome α)) : all (first ++ later) = both (all first) (all later) := by
  have hmessages := messages_append first later
  by_cases hfirst : messages first = []
  · rw [hfirst, List.nil_append] at hmessages
    rw [all_congr hmessages, all_eq_ok_iff_messages.2 hfirst, ok_both]
  by_cases hlater : messages later = []
  · rw [hlater, List.append_nil] at hmessages
    rw [all_congr hmessages, all_eq_ok_iff_messages.2 hlater, both_ok]
  have hnot : messages (first ++ later) ≠ [] := by
    rw [hmessages]
    exact List.append_ne_nil_of_left_ne_nil hfirst _
  rw [all_eq_fail (mt all_eq_ok_iff_messages.1 hnot), all_eq_fail (mt all_eq_ok_iff_messages.1 hfirst),
    all_eq_fail (mt all_eq_ok_iff_messages.1 hlater), hmessages, String.intercalate_append_of_ne_nil hfirst hlater]
  rfl

/-- A report of an outcome and others is what comes of it, put together with the report of the others. -/
theorem all_cons (outcome : Outcome α) (later : List (Outcome α)) : all (outcome :: later) = both outcome.discard (all later) := by
  rw [← List.singleton_append, all_append, all_singleton_eq_discard]

/-- A report of reports is a report of all that they report. -/
theorem all_map_all (parts : List (List (Outcome α))) : all (parts.map all) = all parts.flatten := by
  induction parts with
  | nil => rfl
  | cons part rest ih => rw [List.map_cons, all_cons, discard_all, ih, List.flatten_cons, all_append]

/-- Outcomes in groups, to any depth. -/
inductive Grouped (α : Type) where
  | one (outcome : Outcome α)
  | group (parts : List (Grouped α))

namespace Grouped

mutual

/-- The outcomes of a group, in order. -/
def outcomes : Grouped α → List (Outcome α)
  | one outcome => [outcome]
  | group parts => outcomesOf parts

@[inherit_doc outcomes]
def outcomesOf : List (Grouped α) → List (Outcome α)
  | [] => []
  | part :: rest => part.outcomes ++ outcomesOf rest

end

mutual

/-- The report of a group: that of the reports of its parts. -/
def report : Grouped α → Outcome Unit
  | one outcome => outcome.discard
  | group parts => all (reports parts)

@[inherit_doc report]
def reports : List (Grouped α) → List (Outcome Unit)
  | [] => []
  | part :: rest => part.report :: reports rest

end

mutual

/-- Whatever the groups, their report is that of all their outcomes. -/
theorem report_eq : ∀ g : Grouped α, g.report = all g.outcomes
  | one outcome => (all_singleton_eq_discard outcome).symm
  | group parts => all_reports parts

theorem all_reports : ∀ parts : List (Grouped α), all (reports parts) = all (outcomesOf parts)
  | [] => rfl
  | part :: rest => by
    rw [reports, outcomesOf, all_cons, all_append, all_reports rest, report_eq part, discard_all]

end

end Grouped

/-- Calls of a function that has a state, with their inputs and outcomes, one after the other: each begins in the state that the
one before it left. -/
inductive Calls (f : β → StateM σ (Outcome α)) : σ → List (β × Outcome α) → σ → Prop where
  | done (s : σ) : Calls f s [] s
  | call {s s' s'' : σ} {input : β} {outcome : Outcome α} {later : List (β × Outcome α)} (h : (f input).run s = (outcome, s'))
      (hlater : Calls f s' later s'') : Calls f s ((input, outcome) :: later) s''

/-- What comes of doing something with every input, in these calls. -/
structure CalledOnEach (f : β → StateM σ (Outcome α)) (inputs : List β) (s : σ) (calls : List (β × Outcome α))
    (result : Outcome Unit × σ) : Prop where
  made : Calls f s calls result.2
  /-- One call for every input, in order. -/
  inputs_eq : calls.map Prod.fst = inputs
  success : result.1 = .ok () ↔ ∀ call ∈ calls, ∃ a, call.2 = .ok a
  failure : result.1 ≠ .ok () → result.1 = .error ⟨"\n".intercalate (calls.filterMap fun call => message? call.2)⟩

/-- To do something with every input is to call it once for each, and to report what came of the calls. -/
theorem forEach_calls (f : β → StateM σ (Outcome α)) (inputs : List β) (s : σ) :
    ∃ calls, Calls f s calls ((forEach f inputs).run s).2 ∧ calls.map Prod.fst = inputs ∧
      ((forEach f inputs).run s).1 = all (calls.map Prod.snd) := by
  suffices hcalls : ∃ calls, Calls f s calls ((inputs.mapM f).run s).2 ∧ calls.map Prod.fst = inputs ∧
      ((inputs.mapM f).run s).1 = calls.map Prod.snd by
    obtain ⟨calls, hmade, hinputs, houtcomes⟩ := hcalls
    exact ⟨calls, hmade, hinputs, congrArg all houtcomes⟩
  induction inputs generalizing s with
  | nil => exact ⟨[], .done s, rfl, rfl⟩
  | cons input rest ih =>
    obtain ⟨calls, hmade, hinputs, houtcomes⟩ := ih ((f input).run s).2
    rw [List.mapM_cons]
    exact ⟨(input, ((f input).run s).1) :: calls, .call rfl hmade, congrArg (input :: ·) hinputs,
      congrArg (((f input).run s).1 :: ·) houtcomes⟩

/-- A report of reports is the report of all outcomes, for lists of lists and for groups of any depth. To do something with every
input is to call it once for each, in order and whatever came of the calls before; it succeeds exactly if every call does, and
otherwise its message is those of the calls that failed, line by line. -/
theorem nested_eq_flat :
    (∀ parts : List (List (Outcome α)), all (parts.map all) = all parts.flatten) ∧
    (∀ g : Grouped α, g.report = all g.outcomes) ∧
    ∀ (f : β → StateM σ (Outcome α)) (inputs : List β) (s : σ),
      ∃ calls, CalledOnEach f inputs s calls ((forEach f inputs).run s) := by
  refine ⟨all_map_all, Grouped.report_eq, fun f inputs s => ?_⟩
  obtain ⟨calls, hmade, hinputs, hreport⟩ := forEach_calls f inputs s
  refine ⟨calls, hmade, hinputs, ?_, fun hfailed => ?_⟩
  · rw [hreport, all_eq_ok_iff, List.forall_mem_map]
  · rw [hreport] at hfailed ⊢
    rw [all_eq_fail hfailed, messages, List.filterMap_map]
    rfl

/-- Empty messages and messages of several lines, next to a group without any. -/
example : (Grouped.group [.group [.one (fail ""), .one (.ok 1)], .group [.one (.ok 2)], .one (fail "a\n"),
    .group [.group [.one (fail ""), .one (fail "b")]]]).report = fail "\na\n\n\nb" := by cbv

end Outcome

end StandingQuery
