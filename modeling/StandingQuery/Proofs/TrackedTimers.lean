import StandingQuery.Proofs.TimerChanges

/-!
# What is kept of timers

Timers over any course of calls, with timers that finish on their own at any point between them. What is tracked for a query is what
was left to it: what was tracked for it and since then neither released with its activation nor cancelled with the query
(`LocalTimers.LeftTo`), but for timers that finished. So nothing that runs is lost, nothing is cancelled for another query, and
nothing is cancelled twice (`LocalTimers.loses_none`). A handle is handed over when it is tracked, so that a timer is tracked once
(`LocalTimers.Owned`).
-/

namespace StandingQuery

namespace LocalTimers

variable {τ : Type} [DecidableEq τ]

/-- What happens to the timers of a process. -/
inductive Call (τ : Type) where
  /-- A timer is started. -/
  | start
  /-- A timer finishes on its own. -/
  | finish (handle : Nat)
  | track (id : String) (token : τ) (started : List Nat)
  | release (id : String) (token : τ)
  | cancelAll (id : String)
  deriving DecidableEq, Repr

/-- The handles that a call hands over to be tracked. -/
def Call.handed : Call τ → List Nat
  | .track _ _ started => started
  | _ => []

/-- What a call does. -/
def Call.act (t : LocalTimers τ) : Call τ → LocalTimers τ
  | .start => t.start.2
  | .finish handle => t.finish handle
  | .track id token started => t.track id token started
  | .release id token => t.release id token
  | .cancelAll id => (t.cancelAll id).2

/-- The timers after some calls, the latest first. -/
def after : List (Call τ) → LocalTimers τ
  | [] => .empty
  | call :: earlier => call.act (after earlier)

/-- The timers that a call cancels, each as often as it does. -/
def Call.cancelled (t : LocalTimers τ) : Call τ → List Nat
  | .cancelAll id => (t.cancelAll id).1
  | _ => []

/-- The timers that were cancelled in the course of some calls, the latest first. -/
def cancellations : List (Call τ) → List Nat
  | [] => []
  | call :: earlier => call.cancelled (after earlier) ++ cancellations earlier

/-- Whether every timer was started before it was tracked, and was tracked only once. -/
def Owned : List (Call τ) → Prop
  | [] => True
  | call :: earlier => Owned earlier ∧ call.handed.Nodup ∧
      ∀ handle ∈ call.handed, handle < (after earlier).handles.length ∧ handle ∉ earlier.flatMap Call.handed

instance decidableOwned : ∀ calls : List (Call τ), Decidable (Owned calls)
  | [] => inferInstanceAs (Decidable True)
  | call :: earlier =>
    have := decidableOwned earlier
    inferInstanceAs (Decidable (_ ∧ _ ∧ ∀ handle ∈ call.handed, _ ∧ _))

/-- Whether a timer is left to a query: it was tracked for it, and since then neither the timers of its activation were released nor
those of the query cancelled. -/
def LeftTo (calls : List (Call τ)) (id : String) (token : τ) (handle : Nat) : Prop :=
  ∃ later started earlier, calls = later ++ .track id token started :: earlier ∧ handle ∈ started ∧
    .release id token ∉ later ∧ .cancelAll id ∉ later

/-- Whether a timer has finished on its own. -/
def hasFinished (t : LocalTimers τ) (handle : Nat) : Bool := (t.handles[handle]?.map TimerHandle.finished).getD false

section Calls

variable (t : LocalTimers τ)

omit [DecidableEq τ] in
/-- What has become of a timer when one finishes. -/
theorem getElem?_finish (ended handle : Nat) :
    (t.finish ended).handles[handle]? =
      t.handles[handle]?.map fun h => if ended = handle then { h with finished := true } else h := by
  unfold finish
  rw [List.getElem?_modify]
  split <;> simp [*]

/-- No call loses a handle. -/
theorem length_le_act (call : Call τ) : t.handles.length ≤ (call.act t).handles.length := by
  cases call with
  | start =>
    simp only [Call.act, start, List.length_append]
    exact Nat.le_add_right ..
  | finish ended =>
    simp only [Call.act, finish, List.length_modify]
    exact le_rfl
  | track id token started => exact le_rfl
  | release id token => exact (congrArg List.length (handles_release t id token)).ge
  | cancelAll id => exact (length_cancelAll t id).ge

/-- A timer that has finished stays so. -/
theorem hasFinished_act (call : Call τ) {handle : Nat} (h : t.hasFinished handle = true) :
    (call.act t).hasFinished handle = true := by
  obtain ⟨found, hfound, hfinished⟩ : ∃ found, t.handles[handle]? = some found ∧ found.finished = true := by
    unfold hasFinished at h
    cases hhandle : t.handles[handle]? with
    | none => simp [hhandle] at h
    | some found => exact ⟨found, rfl, by simpa [hhandle] using h⟩
  unfold hasFinished
  cases call with
  | start => simp [Call.act, start, List.getElem?_append_left (List.getElem?_eq_some_iff.1 hfound).1, hfound, hfinished]
  | finish ended =>
    simp only [Call.act, getElem?_finish, hfound, Option.map_some, Option.getD_some]
    split
    · rfl
    · exact hfinished
  | track id token started => exact h
  | release id token =>
    simp only [Call.act, handles_release]
    exact h
  | cancelAll id =>
    simp only [Call.act, getElem?_cancelAll, hfound]
    split <;> exact hfinished

omit [DecidableEq τ] in
/-- A timer that is started is not cancelled. -/
theorem cancelled_start {handle : Nat} : t.start.2.Cancelled handle ↔ t.Cancelled handle := by
  unfold Cancelled start
  rw [List.getElem?_append, List.getElem?_singleton]
  split
  · rfl
  · rename_i hnew
    rw [List.getElem?_eq_none (Nat.le_of_not_lt hnew)]
    constructor
    · rintro ⟨found, hfound, hcancelled⟩
      split at hfound
      · cases hfound
        cases hcancelled
      · cases hfound
    · rintro ⟨found, hfound, -⟩
      cases hfound

omit [DecidableEq τ] in
theorem cancelled_finish (ended : Nat) {handle : Nat} : (t.finish ended).Cancelled handle ↔ t.Cancelled handle := by
  unfold Cancelled
  simp only [getElem?_finish, Option.map_eq_some_iff]
  constructor
  · rintro ⟨_, ⟨found, hfound, rfl⟩, hcancelled⟩
    exact ⟨found, hfound, by split at hcancelled <;> exact hcancelled⟩
  · rintro ⟨found, hfound, hcancelled⟩
    exact ⟨_, ⟨found, hfound, rfl⟩, by split <;> exact hcancelled⟩

omit [DecidableEq τ] in
theorem cancelled_track (id : String) (token : τ) (started : List Nat) {handle : Nat} :
    (t.track id token started).Cancelled handle ↔ t.Cancelled handle := Iff.rfl

theorem cancelled_release (id : String) (token : τ) {handle : Nat} : (t.release id token).Cancelled handle ↔ t.Cancelled handle := by
  unfold Cancelled
  rw [handles_release]

omit [DecidableEq τ] in
/-- The timers that are cancelled once those of a query are. -/
theorem cancelled_cancelAll_iff {id : String} (hstarted : ∀ handle ∈ (t.cancelAll id).1, handle < t.handles.length) {handle : Nat} :
    (t.cancelAll id).2.Cancelled handle ↔ handle ∈ (t.cancelAll id).1 ∨ t.Cancelled handle := by
  constructor
  · rintro ⟨found, hfound, hcancelled⟩
    rw [getElem?_cancelAll] at hfound
    split at hfound
    · rename_i hmem
      exact Or.inl hmem
    · exact Or.inr ⟨found, hfound, hcancelled⟩
  · rintro (hmem | hcancelled)
    · have hlt := hstarted handle hmem
      obtain ⟨e, he, rfl⟩ := List.mem_map.1 hmem
      exact cancelled_cancelAll he hlt
    · exact hcancelled.cancelAll id

/-- The timers that were cancelled are those that were before and those that the call cancels. -/
theorem cancelled_act {call : Call τ} (hstarted : ∀ handle ∈ call.cancelled t, handle < t.handles.length) {handle : Nat} :
    (call.act t).Cancelled handle ↔ handle ∈ call.cancelled t ∨ t.Cancelled handle := by
  cases call with
  | cancelAll id => exact cancelled_cancelAll_iff t hstarted
  | _ => simp only [Call.cancelled, List.not_mem_nil, false_or, Call.act, cancelled_start, cancelled_finish, cancelled_track,
      cancelled_release]

end Calls

section History

variable {calls earlier : List (Call τ)} {call : Call τ} {id : String} {token : τ} {handle : Nat}

omit [DecidableEq τ] in
/-- A timer is left to a query by the call that tracks it, and stays so through any call that neither releases it nor cancels it. -/
theorem leftTo_cons : LeftTo (call :: earlier) id token handle ↔
    (∃ started, call = .track id token started ∧ handle ∈ started) ∨
      (LeftTo earlier id token handle ∧ call ≠ .release id token ∧ call ≠ .cancelAll id) := by
  constructor
  · rintro ⟨later, started, before, hcalls, hmem, hrelease, hcancel⟩
    cases later with
    | nil =>
      cases hcalls
      exact Or.inl ⟨started, rfl, hmem⟩
    | cons last later =>
      cases hcalls
      rw [List.mem_cons, not_or] at hrelease hcancel
      exact Or.inr ⟨⟨later, started, before, rfl, hmem, hrelease.2, hcancel.2⟩, Ne.symm hrelease.1, Ne.symm hcancel.1⟩
  · rintro (⟨started, rfl, hmem⟩ | ⟨⟨later, started, before, rfl, hmem, hrelease, hcancel⟩, hcall, hcall'⟩)
    · exact ⟨[], started, earlier, rfl, hmem, nofun, nofun⟩
    · refine ⟨call :: later, started, before, rfl, hmem, ?_, ?_⟩
      · exact List.not_mem_cons_of_ne_of_not_mem (Ne.symm hcall) hrelease
      · exact List.not_mem_cons_of_ne_of_not_mem (Ne.symm hcall') hcancel

omit [DecidableEq τ] in
/-- What is left to a query was tracked for it. -/
theorem LeftTo.tracked (h : LeftTo calls id token handle) : ∃ started, .track id token started ∈ calls ∧ handle ∈ started := by
  obtain ⟨later, started, earlier, rfl, hmem, -, -⟩ := h
  exact ⟨started, List.mem_append_right _ List.mem_cons_self, hmem⟩

omit [DecidableEq τ] in
theorem LeftTo.handed (h : LeftTo calls id token handle) : handle ∈ calls.flatMap Call.handed := by
  obtain ⟨started, hstarted, hmem⟩ := h.tracked
  exact List.mem_flatMap.2 ⟨_, hstarted, hmem⟩

/-- What is tracked for a query is left to it. -/
theorem leftTo_of_tracked {e : τ × Nat} (h : e ∈ (after calls).trackedFor id) : LeftTo calls id e.1 e.2 := by
  induction calls with
  | nil => cases h
  | cons call earlier ih =>
    rw [leftTo_cons]
    cases call with
    | start => exact Or.inr ⟨ih h, nofun, nofun⟩
    | finish ended => exact Or.inr ⟨ih h, nofun, nofun⟩
    | track other owner started =>
      replace h := mem_trackedFor_track.1 h
      split at h
      · rename_i hid
        subst hid
        rcases h with ⟨hold, -⟩ | ⟨rfl, hmem⟩
        · exact Or.inr ⟨ih hold, nofun, nofun⟩
        · exact Or.inl ⟨started, rfl, hmem⟩
      · exact Or.inr ⟨ih h, nofun, nofun⟩
    | release other owner =>
      obtain ⟨hold, howner⟩ := mem_trackedFor_release.1 h
      refine Or.inr ⟨ih hold, fun hcall => ?_, nofun⟩
      cases hcall
      exact howner rfl rfl
    | cancelAll other =>
      obtain ⟨hold, hid⟩ := mem_trackedFor_cancelAll.1 h
      refine Or.inr ⟨ih hold, nofun, fun hcall => ?_⟩
      cases hcall
      exact hid rfl

/-- What was cancelled had been tracked. -/
theorem tracked_of_mem_cancellations (h : handle ∈ cancellations calls) : handle ∈ calls.flatMap Call.handed := by
  induction calls with
  | nil => cases h
  | cons call earlier ih =>
    rw [List.flatMap_cons, List.mem_append]
    rcases List.mem_append.1 h with hnew | hold
    · cases call with
      | cancelAll id =>
        obtain ⟨e, he, rfl⟩ := List.mem_map.1 hnew
        exact Or.inr (leftTo_of_tracked he).handed
      | _ => cases hnew
    · exact Or.inr (ih hold)

namespace Owned

/-- What was tracked had been started. -/
theorem lt_length (h : Owned calls) (hmem : handle ∈ calls.flatMap Call.handed) : handle < (after calls).handles.length := by
  induction calls with
  | nil => cases hmem
  | cons call earlier ih =>
    obtain ⟨hearlier, -, hstarted⟩ := h
    refine Nat.lt_of_lt_of_le ?_ (length_le_act _ call)
    rcases List.mem_append.1 hmem with hnew | hold
    · exact (hstarted handle hnew).1
    · exact ih hearlier hold

/-- A timer is tracked for one query and one activation only. -/
theorem single (h : Owned calls) {other : String} {owner : τ} {started started' : List Nat}
    (hmem : .track id token started ∈ calls) (hhandle : handle ∈ started) (hmem' : .track other owner started' ∈ calls)
    (hhandle' : handle ∈ started') : other = id ∧ owner = token := by
  induction calls with
  | nil => cases hmem
  | cons call earlier ih =>
    obtain ⟨hearlier, -, hnew⟩ := h
    rcases List.mem_cons.1 hmem with rfl | hold <;> rcases List.mem_cons.1 hmem' with hcall | hold'
    · cases hcall
      exact ⟨rfl, rfl⟩
    · exact absurd (List.mem_flatMap.2 ⟨_, hold', hhandle'⟩) (hnew handle hhandle).2
    · subst hcall
      exact absurd (List.mem_flatMap.2 ⟨_, hold, hhandle⟩) (hnew handle hhandle').2
    · exact ih hearlier hold hold'

/-- A call cancels only what was started. -/
theorem started_of_cancelled (h : Owned calls) (call : Call τ) (hmem : handle ∈ call.cancelled (after calls)) :
    handle < (after calls).handles.length := by
  refine h.lt_length ?_
  have hnow : handle ∈ cancellations (call :: calls) := List.mem_append_left _ hmem
  cases call with
  | cancelAll id => simpa only [List.flatMap_cons, Call.handed, List.nil_append] using tracked_of_mem_cancellations hnow
  | _ => cases hmem

/-- The timers that are cancelled are those that the calls cancelled. -/
theorem cancelled_iff (h : Owned calls) : (after calls).Cancelled handle ↔ handle ∈ cancellations calls := by
  induction calls with
  | nil => simp [Cancelled, after, empty, cancellations]
  | cons call earlier ih =>
    rw [after, cancelled_act _ fun _ => h.1.started_of_cancelled call, ih h.1, cancellations, List.mem_append]

/-- What is left to a query has not been cancelled. -/
theorem not_mem_cancellations (h : Owned calls) (hleft : LeftTo calls id token handle) : handle ∉ cancellations calls := by
  induction calls with
  | nil => exact nofun
  | cons call earlier ih =>
    rw [cancellations, List.mem_append, not_or]
    rcases leftTo_cons.1 hleft with ⟨started, rfl, hnew⟩ | ⟨hold, -, hcall⟩
    · exact ⟨nofun, mt tracked_of_mem_cancellations (h.2.2 handle hnew).2⟩
    · refine ⟨fun hnow => ?_, ih h.1 hold⟩
      cases call with
      | cancelAll other =>
        obtain ⟨e, he, rfl⟩ := List.mem_map.1 hnow
        obtain ⟨started, hstarted, hmem⟩ := hold.tracked
        obtain ⟨started', hstarted', hmem'⟩ := (leftTo_of_tracked he).tracked
        exact hcall (congrArg Call.cancelAll (h.1.single hstarted hmem hstarted' hmem').1)
      | _ => cases hnow

/-- A timer that is left to a query is over when it has finished. -/
theorem isOver_eq (h : Owned calls) (hleft : LeftTo calls id token handle) :
    (after calls).isOver handle = (after calls).hasFinished handle := by
  have hlt := h.lt_length hleft.handed
  have hrunning := mt h.cancelled_iff.1 (h.not_mem_cancellations hleft)
  unfold isOver hasFinished
  cases hcancelled : (after calls).handles[handle].cancelled with
  | true => exact absurd ⟨_, List.getElem?_eq_getElem hlt, hcancelled⟩ hrunning
  | false => simp [List.getElem?_eq_getElem hlt, TimerHandle.isOver, hcancelled]

/-- No timer is tracked twice for a query. -/
theorem distinct (h : Owned calls) (id : String) : (((after calls).trackedFor id).map Prod.snd).Nodup := by
  induction calls with
  | nil => exact List.nodup_nil
  | cons call earlier ih =>
    obtain ⟨hearlier, hnodup, hnew⟩ := h
    have hold := ih hearlier
    cases call with
    | start => exact hold
    | finish ended => exact hold
    | track other owner started =>
      rw [after, Call.act, trackedFor_track]
      split
      · rename_i hid
        subst hid
        rw [List.map_append, List.map_map, List.nodup_append]
        refine ⟨hold.sublist (List.filter_sublist.map _), by simpa [Function.comp_def, Call.handed] using hnodup, ?_⟩
        rintro first hfirst second hsecond rfl
        obtain ⟨e, he, rfl⟩ := List.mem_map.1 hfirst
        exact (hnew e.2 (by simpa [Call.handed] using hsecond)).2 (leftTo_of_tracked (List.mem_filter.1 he).1).handed
      · exact hold
    | release other owner =>
      rw [after, Call.act, trackedFor_release]
      split
      · rename_i hid
        exact hid ▸ hold.sublist (List.filter_sublist.map _)
      · exact hold
    | cancelAll other =>
      rw [after, Call.act, trackedFor_cancelAll]
      split
      · exact List.nodup_nil
      · exact hold

/-- No timer is cancelled twice. -/
theorem once (h : Owned calls) : (cancellations calls).Nodup := by
  induction calls with
  | nil => exact List.nodup_nil
  | cons call earlier ih =>
    rw [cancellations]
    cases call with
    | cancelAll id =>
      refine List.nodup_append.2 ⟨h.1.distinct id, ih h.1, ?_⟩
      rintro handle hnow _ hbefore rfl
      obtain ⟨e, he, rfl⟩ := List.mem_map.1 hnow
      exact h.1.not_mem_cancellations (leftTo_of_tracked he) hbefore
    | _ => exact ih h.1

/-- What is left to a query and has not finished is tracked for it. -/
theorem mem_trackedFor (h : Owned calls) (hleft : LeftTo calls id token handle)
    (hunfinished : (after calls).hasFinished handle = false) : (token, handle) ∈ (after calls).trackedFor id := by
  induction calls with
  | nil => cases hleft.tracked.choose_spec.1
  | cons call earlier ih =>
    rcases leftTo_cons.1 hleft with ⟨started, rfl, hnew⟩ | ⟨hold, hrelease, hcancel⟩
    · exact mem_trackedFor_track.2 (by simp [hnew])
    have hbefore : (after earlier).hasFinished handle = false :=
      Bool.eq_false_iff.2 fun hfinished => Bool.eq_false_iff.1 hunfinished (hasFinished_act _ call hfinished)
    have hmem := ih h.1 hold hbefore
    cases call with
    | start => exact hmem
    | finish ended => exact hmem
    | track other owner started =>
      refine mem_trackedFor_track.2 ?_
      split
      · rename_i hid
        exact Or.inl ⟨hid ▸ hmem, h.1.isOver_eq hold ▸ hbefore⟩
      · exact hmem
    | release other owner =>
      refine mem_trackedFor_release.2 ⟨hmem, ?_⟩
      rintro rfl rfl
      exact hrelease rfl
    | cancelAll other =>
      refine mem_trackedFor_cancelAll.2 ⟨hmem, ?_⟩
      rintro rfl
      exact hcancel rfl

end Owned

end History

/-- What becomes of the timers of a query after some calls, when they are cancelled, when those of an activation are released, and when
they are counted. -/
structure LosesNone (calls : List (Call τ)) (id : String) : Prop where
  /-- Every timer that is left to the query and has not finished is cancelled with it. -/
  cancels : ∀ {token handle}, LeftTo calls id token handle → (after calls).hasFinished handle = false →
    handle ∈ ((after calls).cancelAll id).1
  /-- Only what is left to the query is cancelled with it. -/
  left : ∀ handle ∈ ((after calls).cancelAll id).1, ∃ token, LeftTo calls id token handle
  /-- No timer that was ever tracked for another query is cancelled with it. -/
  apart : ∀ {other token started}, .track other token started ∈ calls → other ≠ id →
    ∀ handle ∈ started, handle ∉ ((after calls).cancelAll id).1
  cancelled : ∀ handle ∈ ((after calls).cancelAll id).1, ((after calls).cancelAll id).2.Cancelled handle
  spared : ∀ handle ∉ ((after calls).cancelAll id).1, ((after calls).cancelAll id).2.handles[handle]? = (after calls).handles[handle]?
  /-- Over all the calls and this one, no timer is cancelled twice. -/
  once : (cancellations (.cancelAll id :: calls)).Nodup
  released : ∀ token, ((after calls).release id token).trackedFor id = ((after calls).trackedFor id).filter fun e => e.1 != token
  /-- A release drops nothing of another query, and does nothing to any timer. -/
  kept : ∀ token, ((after calls).release id token).handles = (after calls).handles ∧
    ∀ other, other ≠ id → ((after calls).release id token).trackedFor other = (after calls).trackedFor other
  counted : (after calls).count id =
    (((after calls).cancelAll id).1.filter fun handle => !(after calls).hasFinished handle).length

/-- Timers that run are not lost, whatever is tracked, released and cancelled, and whenever timers finish: those of a query are
cancelled with it, each once and none of another query; a release drops those of its activation, and the timers of a query are counted
as they would be cancelled. -/
theorem loses_none {calls : List (Call τ)} (h : Owned calls) (id : String) : LosesNone calls id where
  cancels hleft hunfinished := List.mem_map_of_mem (h.mem_trackedFor hleft hunfinished)
  left handle hmem := by
    obtain ⟨e, he, rfl⟩ := List.mem_map.1 hmem
    exact ⟨e.1, leftTo_of_tracked he⟩
  apart htracked hother handle hhandle hmem := by
    obtain ⟨e, he, rfl⟩ := List.mem_map.1 hmem
    obtain ⟨started, hstarted, hmem'⟩ := (leftTo_of_tracked he).tracked
    exact hother (h.single hstarted hmem' htracked hhandle).1
  cancelled handle hmem := by
    have hlt := h.started_of_cancelled (.cancelAll id) hmem
    obtain ⟨e, he, rfl⟩ := List.mem_map.1 hmem
    exact cancelled_cancelAll he hlt
  spared handle hnot := (getElem?_cancelAll ..).trans (if_neg hnot)
  once :=
    have howned : Owned (.cancelAll id :: calls) := ⟨h, List.nodup_nil, nofun⟩
    howned.once
  released token := (trackedFor_release ..).trans (if_pos rfl)
  kept token := ⟨handles_release .., fun _ hother => (trackedFor_release ..).trans (if_neg hother)⟩
  counted := by
    unfold count cancelAll
    rw [List.filter_map, List.length_map]
    refine congrArg List.length (List.filter_congr fun e he => ?_)
    rw [h.isOver_eq (leftTo_of_tracked he)]
    rfl

namespace Sample

/-- Calls for two queries, the latest first. Of the timers of query `a` one finished before it was tracked, one was released, one was
cancelled, and two are of a new activation, one of which has finished since. -/
def history : List (Call Nat) :=
  [.start, .start, .finish 0, .track "a" 1 [0, 1], .start, .track "b" 2 [2], .start, .track "a" 3 [3], .release "a" 1, .cancelAll "a",
    .start, .start, .track "a" 4 [4, 5], .finish 4].reverse

end Sample

open Sample in
/-- What becomes of the timers of a query that was cancelled and activated again. -/
theorem loses_none_reactivated :
    Owned history ∧ 5 ∈ ((after history).cancelAll "a").1 ∧ 2 ∉ ((after history).cancelAll "a").1 ∧
      cancellations (.cancelAll "a" :: history) = [4, 5, 3] ∧ (cancellations (.cancelAll "a" :: history)).Nodup ∧
      (after history).count "a" = 1 := by
  have howned : Owned history := by decide +kernel
  have hleft : LeftTo history "a" 4 5 := ⟨[.finish 4], [4, 5], _, rfl, by decide, by decide, by decide⟩
  have htracked : .track "b" 2 [2] ∈ history := by decide +kernel
  have hnone := loses_none howned "a"
  exact ⟨howned, hnone.cancels hleft (by decide +kernel), hnone.apart htracked (by decide) 2 (by decide), by decide +kernel,
    hnone.once, by decide +kernel⟩

end LocalTimers

end StandingQuery
