import StandingQuery.Proofs.Separation
import StandingQuery.Registry.Rows
import StandingQuery.Registry.Unreliable

/-!
# Which registries keep queries apart

A table does, whatever stands in its rows, and so does one that is missing (`RowRegistry.separate`); a table can be cleared even of
rows that cannot be read. Behind a link a registry goes on keeping queries apart if what is stale for a query depends on the claims
of that query alone (`Unreliable.separate`); calls may be refused, as long as they are refused for every query.
-/

namespace StandingQuery

open JobRegistry

namespace RowRegistry

/-- What an edit is answered by the row of its query, and the row that follows. -/
def editRow (e : Edit) (row : Option RegistryRow) : Bool × Option RegistryRow :=
  match e, row with
  | .claim m, none => (true, some (.ofMarker m))
  | .claim _, some row => (false, some row)
  | .remove, row => (row.isSome, none)
  | .giveUp token, row => if row.any fun row => row.token == token.text then (true, none) else (false, row)

/-- An edit changes the row of its query and no other. -/
theorem edit_of_table (rows : Keyed RegistryRow) (id : String) (e : Edit) : ∃ rows' : Keyed RegistryRow,
    edit (ρ := RowRegistry) ⟨some rows⟩ id e = (.ok (editRow e (Keyed.get? rows id)).1, ⟨some rows'⟩) ∧
      Keyed.get? rows' id = (editRow e (Keyed.get? rows id)).2 ∧
      ∀ other, other ≠ id → Keyed.get? rows' other = Keyed.get? rows other := by
  cases hrow : Keyed.get? rows id with
  | none =>
    cases e with
    | claim m =>
      refine ⟨Keyed.set id (.ofMarker m) rows, ?_, Keyed.get?_set_self .., fun _ hother => Keyed.get?_set_ne hother ..⟩
      simp [edit, JobRegistry.putIfAbsent, putIfAbsent, hrow, editRow]
    | remove => exact ⟨rows, by simp [edit, JobRegistry.remove, remove, hrow, editRow], hrow, fun _ _ => rfl⟩
    | giveUp token =>
      exact ⟨rows, by simp [edit, JobRegistry.removeIfOwned, removeIfOwned, hrow, editRow], hrow, fun _ _ => rfl⟩
  | some row =>
    have herased := And.intro (Keyed.get?_erase_self id rows) fun other (h : other ≠ id) => Keyed.get?_erase_ne h rows
    cases e with
    | claim m => exact ⟨rows, by simp [edit, JobRegistry.putIfAbsent, putIfAbsent, hrow, editRow], hrow, fun _ _ => rfl⟩
    | remove => exact ⟨Keyed.erase id rows, by simp [edit, JobRegistry.remove, remove, hrow, editRow], herased⟩
    | giveUp token =>
      by_cases htoken : row.token = token.text
      · refine ⟨Keyed.erase id rows, ?_, ?_, herased.2⟩
        · simp [edit, JobRegistry.removeIfOwned, removeIfOwned, hrow, editRow, htoken]
        · simp [herased.1, editRow, htoken]
      · refine ⟨rows, ?_, ?_, fun _ _ => rfl⟩
        · simp [edit, JobRegistry.removeIfOwned, removeIfOwned, hrow, editRow, htoken]
        · simp [hrow, editRow, htoken]

/-- Without a table nothing is done. -/
theorem edit_of_noTable (id : String) (e : Edit) :
    edit (ρ := RowRegistry) ⟨none⟩ id e = (.error noTable, ⟨none⟩) := by
  cases e <;> rfl

/-- Tables are the same for a query if they hold the same row for it. -/
theorem sameFor_of_row {id : String} {rows rows' : Keyed RegistryRow} (h : Keyed.get? rows id = Keyed.get? rows' id) :
    SameFor (ρ := RowRegistry) id ⟨some rows⟩ ⟨some rows'⟩ := by
  refine SameFor.of_related (fun r r' : RowRegistry => ∃ rows rows', r = ⟨some rows⟩ ∧ r' = ⟨some rows'⟩ ∧
    Keyed.get? rows id = Keyed.get? rows' id) ?_ ?_ ⟨rows, rows', rfl, rfl, h⟩
  · rintro _ _ ⟨rows, rows', rfl, rfl, h⟩
    change get _ id = get _ id
    simp only [get, h]
  · rintro _ _ ⟨rows, rows', rfl, rfl, h⟩ e
    obtain ⟨after, hedit, hrow, -⟩ := edit_of_table rows id e
    obtain ⟨after', hedit', hrow', -⟩ := edit_of_table rows' id e
    rw [hedit, hedit', h]
    exact ⟨rfl, after, after', rfl, rfl, by rw [hrow, hrow', h]⟩

/-- A table keeps queries apart, and so does one that is missing. -/
theorem separate (r : RowRegistry) : Separate r := by
  refine separate_of_edit (fun r id e other hother => ?_) r
  obtain ⟨table⟩ := r
  cases table with
  | none =>
    rw [edit_of_noTable]
    exact .refl other _
  | some rows =>
    obtain ⟨after, hedit, -, hothers⟩ := edit_of_table rows id e
    rw [hedit]
    exact sameFor_of_row (hothers other hother).symm

/-- A table can be cleared, even of rows that cannot be read. -/
theorem clears (rows : Keyed RegistryRow) : Clears (ρ := RowRegistry) ⟨some rows⟩ := by
  intro past id
  have htable : ∃ after, edited (ρ := RowRegistry) ⟨some rows⟩ past = ⟨some after⟩ := by
    refine (EditedFor.edited _ past).keeps (fun r : RowRegistry => ∃ after, r = ⟨some after⟩) ?_ ⟨rows, rfl⟩
    rintro id - e _ ⟨before, rfl⟩
    obtain ⟨after, hedit, -⟩ := edit_of_table before id e
    exact ⟨after, by rw [hedit]⟩
  obtain ⟨before, hbefore⟩ := htable
  obtain ⟨after, hedit, hrow, -⟩ := edit_of_table before id .remove
  have hremove : JobRegistry.remove (⟨some before⟩ : RowRegistry) id =
    (.ok (editRow .remove (Keyed.get? before id)).1, ⟨some after⟩) := hedit
  rw [hbefore, hremove]
  refine ⟨⟨_, rfl⟩, ?_⟩
  change get _ id = _
  simp only [get, hrow, editRow]

end RowRegistry

namespace Unreliable

variable {ρ : Type}

/-- From these claims on, what is stale for a query depends on the claims of that query alone. -/
def LocalFrom (past : List ClaimMade) (stale : List ClaimMade → String → Bool) : Prop :=
  ∀ later later' id, later.filter (fun c => c.queryId == id) = later'.filter (fun c => c.queryId == id) →
    stale (past ++ later) id = stale (past ++ later') id

/-- What the link answers to an edit that it does not let through. -/
def linkAnswer? (u : Unreliable ρ) (id : String) : Edit → Option (Except SchedulerError Bool)
  | .claim _ =>
    if u.refuses .put then some (.error (RegistryCall.refused .put))
    else if u.stale u.passed id then some (.ok false)
    else none
  | .remove => if u.refuses .remove then some (.error (RegistryCall.refused .remove)) else none
  | .giveUp _ => if u.refuses .removeIfOwned then some (.error (RegistryCall.refused .removeIfOwned)) else none

/-- The claim that an edit was, with what came of it by its answer. -/
def claimMade (id : String) (e : Edit) (answer : Except SchedulerError Bool) : List ClaimMade :=
  match e, answer with
  | .claim m, .ok true => [⟨id, m.token, .entered⟩]
  | .claim m, .ok false => [⟨id, m.token, .conflict⟩]
  | .claim m, .error _ => [⟨id, m.token, .refused⟩]
  | _, _ => []

theorem queryId_of_claimMade {id : String} {e : Edit} {answer : Except SchedulerError Bool} {c : ClaimMade}
    (h : c ∈ claimMade id e answer) : c.queryId = id := by
  unfold claimMade at h
  split at h
  · rw [List.mem_singleton.1 h]
  · rw [List.mem_singleton.1 h]
  · rw [List.mem_singleton.1 h]
  · cases h

/-- The registry with an edit on record. -/
def noted (u : Unreliable ρ) (id : String) (e : Edit) (answer : Except SchedulerError Bool) : Unreliable ρ :=
  { u with claims := u.claims ++ claimMade id e answer }

theorem passed_noted (u : Unreliable ρ) (id : String) (e : Edit) (answer : Except SchedulerError Bool) :
    (u.noted id e answer).passed = u.passed ++ (claimMade id e answer).filter fun c => c.result != .refused :=
  List.filter_append ..

variable [JobRegistry ρ]

/-- An edit is answered by the link, or by what is behind it; either way it is noted. -/
theorem edit_eq (u : Unreliable ρ) (id : String) (e : Edit) :
    edit u id e =
      match u.linkAnswer? id e with
      | some answer => (answer, u.noted id e answer)
      | none => ((edit u.registry id e).1,
          { u with registry := (edit u.registry id e).2 }.noted id e (edit u.registry id e).1) := by
  have hnoted (u : Unreliable ρ) (e : Edit) (he : ∀ answer, claimMade id e answer = []) (answer : Except SchedulerError Bool) :
      u.noted id e answer = u := by
    unfold noted
    rw [he, List.append_nil]
  cases e with
  | claim m =>
    simp only [edit, linkAnswer?, JobRegistry.putIfAbsent]
    split
    · rfl
    · split
      · rfl
      · simp only
        generalize JobRegistry.putIfAbsent u.registry id m = answered
        obtain ⟨answer, r⟩ := answered
        rcases answer with _ | _ | _ <;> rfl
  | remove =>
    simp only [edit, linkAnswer?, JobRegistry.remove, hnoted _ .remove fun _ => rfl]
    split <;> rfl
  | giveUp token =>
    simp only [edit, linkAnswer?, JobRegistry.removeIfOwned, hnoted _ (.giveUp token) fun _ => rfl]
    split <;> rfl

/-- Two registries behind the same link are alike for a query: since some claims, the claims of it were the same, and what is
behind the link is the same for it. -/
structure AlikeFor (id : String) (past : List ClaimMade) (u u' : Unreliable ρ) : Prop where
  refuses : u.refuses = u'.refuses
  stale : u.stale = u'.stale
  localStale : LocalFrom past u.stale
  passed : ∃ later later', u.passed = past ++ later ∧ u'.passed = past ++ later' ∧
    later.filter (fun c => c.queryId == id) = later'.filter fun c => c.queryId == id
  registry : SameFor id u.registry u'.registry

namespace AlikeFor

variable {id : String} {past : List ClaimMade} {u u' : Unreliable ρ}

theorem linkAnswer? (h : AlikeFor id past u u') (e : Edit) : u.linkAnswer? id e = u'.linkAnswer? id e := by
  obtain ⟨later, later', hpassed, hpassed', hsame⟩ := h.passed
  have hstale : u.stale u.passed id = u'.stale u'.passed id := by
    rw [hpassed, hpassed', ← h.stale, h.localStale later later' id hsame]
  cases e <;> simp only [Unreliable.linkAnswer?, h.refuses, hstale]

/-- Noting the same keeps two registries alike. -/
theorem noted (h : AlikeFor id past u u') (e : Edit) (answer : Except SchedulerError Bool) :
    AlikeFor id past (u.noted id e answer) (u'.noted id e answer) := by
  obtain ⟨later, later', hpassed, hpassed', hsame⟩ := h.passed
  refine ⟨h.refuses, h.stale, h.localStale, ?_, h.registry⟩
  refine ⟨_, _, by rw [passed_noted, hpassed, List.append_assoc], by rw [passed_noted, hpassed', List.append_assoc], ?_⟩
  rw [List.filter_append, List.filter_append, hsame]

/-- Registries that are alike for a query are the same for it. -/
theorem sameFor (h : AlikeFor id past u u') : SameFor id u u' := by
  refine SameFor.of_related (AlikeFor id past) (fun {u u'} h => ?_) (fun {u u'} h e => ?_) h
  · simp only [JobRegistry.get, h.refuses, h.registry.get_eq]
  · rw [edit_eq, edit_eq, h.linkAnswer?]
    cases u'.linkAnswer? id e with
    | some answer => exact ⟨rfl, h.noted e answer⟩
    | none =>
      have hanswer := h.registry.answer_eq e
      rw [hanswer]
      have hafter : AlikeFor id past { u with registry := (edit u.registry id e).2 }
          { u' with registry := (edit u'.registry id e).2 } :=
        ⟨h.refuses, h.stale, h.localStale, h.passed, h.registry.edit e⟩
      exact ⟨rfl, hafter.noted e _⟩

end AlikeFor

/-- An edit of one entry leaves the link as it is, and the claims of all other queries. -/
theorem edit_frame (u : Unreliable ρ) (id : String) (e : Edit) :
    EditedFor [id] u.registry (edit u id e).2.registry ∧ (edit u id e).2.refuses = u.refuses ∧
      (edit u id e).2.stale = u.stale ∧
      ∃ new, (edit u id e).2.claims = u.claims ++ new ∧ ∀ c ∈ new, c.queryId = id := by
  rw [edit_eq]
  split
  · exact ⟨.refl [id] _, rfl, rfl, _, rfl, fun _ => queryId_of_claimMade⟩
  · exact ⟨.edit u.registry id e, rfl, rfl, _, rfl, fun _ => queryId_of_claimMade⟩

theorem filter_of_ne {id other : String} (h : other ≠ id) {new : List ClaimMade} (hnew : ∀ c ∈ new, c.queryId = id) :
    new.filter (fun c => c.queryId == other) = [] := by
  refine List.filter_eq_nil_iff.2 fun c hc => ?_
  rw [hnew c hc]
  simpa using Ne.symm h

/-- A registry behind a link keeps queries apart if the one behind it does. -/
theorem separate {u : Unreliable ρ} (hstale : LocalFrom u.passed u.stale) (h : Separate u.registry) : Separate u := by
  intro past
  have hkept : Separate (edited u past).registry ∧ (edited u past).stale = u.stale ∧
      ∃ later, (edited u past).passed = u.passed ++ later := by
    refine (EditedFor.edited u past).keeps
      (fun v : Unreliable ρ => Separate v.registry ∧ v.stale = u.stale ∧ ∃ later, v.passed = u.passed ++ later) ?_
      ⟨h, rfl, [], (List.append_nil _).symm⟩
    rintro id - e v ⟨hv, hsame, later, hlater⟩
    obtain ⟨hregistry, -, hstale, new, hclaims, -⟩ := edit_frame v id e
    refine ⟨hregistry.separate hv, hstale.trans hsame, later ++ new.filter fun c => c.result != .refused, ?_⟩
    rw [← List.append_assoc, ← hlater]
    unfold passed
    rw [hclaims, List.filter_append]
  generalize edited u past = v at hkept
  obtain ⟨hv, hsame, later, hlater⟩ := hkept
  intro id e other hother
  obtain ⟨hregistry, hrefuses, hstale', new, hclaims, hnew⟩ := edit_frame v id e
  refine AlikeFor.sameFor ⟨hrefuses.symm, hstale'.symm, hsame ▸ hstale, ?_, hregistry.sameFor hv (by simpa using hother)⟩
  refine ⟨later, later ++ new.filter fun c => c.result != .refused, hlater, ?_, ?_⟩
  · rw [← List.append_assoc, ← hlater]
    unfold passed
    rw [hclaims, List.filter_append]
  · rw [List.filter_append, filter_of_ne hother fun c hc => hnew c (List.mem_filter.1 hc).1, List.append_nil]

end Unreliable

end StandingQuery
