import StandingQuery.Retry

/-!
# Attempts

What happens while an operation is tried again, call by call and pause by pause. Whatever the outcomes of the calls are, they are
made up to the first success, or as often as the policy allows, with one pause between two of them and none before the first or
after the last; what is given back is the outcome of the last call alone (`RetryPolicy.run_recorded`).
-/

namespace StandingQuery

namespace RetryPolicy

/-- What happens while an operation is tried again. -/
inductive Event (α : Type) where
  | called (outcome : Outcome α)
  | paused (ms : Nat)

namespace Event

variable {α : Type}

/-- Whether an event is a call of the operation. -/
def isCall : Event α → Bool
  | called _ => true
  | paused _ => false

end Event

variable {α : Type}

/-- Computations that note what happens, in the order in which it happens. -/
abbrev Recorded (α β : Type) := StateM (List (Event α)) β

/-- An operation whose calls come to these outcomes, one after the other. -/
def scripted (outcomes : Nat → Outcome α) : Recorded α (Outcome α) := fun noted =>
  let outcome := outcomes (noted.countP Event.isCall)
  (outcome, noted ++ [.called outcome])

/-- A pause that is noted. -/
def noting (ms : Nat) : Recorded α Unit := modify (· ++ [.paused ms])

/-- So many calls, the first of which comes to the outcome at a position, with a pause between two of them. -/
def course (ms : Nat) (outcomes : Nat → Outcome α) (first calls : Nat) : List (Event α) :=
  ((List.range' first calls).map fun k => Event.called (outcomes k)).intersperse (.paused ms)

variable (ms : Nat) (outcomes : Nat → Outcome α)

theorem course_one (first : Nat) : course ms outcomes first 1 = [.called (outcomes first)] := rfl

theorem course_succ (first calls : Nat) :
    course ms outcomes first (calls + 2) =
      [.called (outcomes first), .paused ms] ++ course ms outcomes (first + 1) (calls + 1) := rfl

/-- There are as many calls in a course as it has, and a pause less. -/
theorem countP_course (first calls : Nat) :
    (course ms outcomes first calls).countP Event.isCall = calls ∧
      (course ms outcomes first calls).countP (fun e => !e.isCall) = calls - 1 := by
  induction calls generalizing first with
  | zero => exact ⟨rfl, rfl⟩
  | succ calls ih =>
    cases calls with
    | zero => exact ⟨rfl, rfl⟩
    | succ calls =>
      obtain ⟨hcalls, hpauses⟩ := ih (first + 1)
      rw [course_succ, List.countP_append, List.countP_append, hcalls, hpauses]
      exact ⟨Nat.add_comm 1 (calls + 1), Nat.add_comm 1 calls⟩

variable {noted : List (Event α)} {first : Nat}

/-- A call comes to the outcome behind those of the calls before it, and is noted. -/
theorem scripted_eq (h : noted.countP Event.isCall = first) :
    scripted outcomes noted = (outcomes first, noted ++ [.called (outcomes first)]) := by
  subst h
  rfl

/-- What comes of the first of several attempts decides how it goes on. -/
theorem attempts_step (h : noted.countP Event.isCall = first) (n : Nat) :
    attempts (noting ms) (scripted outcomes) (n + 2) noted =
      match outcomes first with
      | .ok v => (.ok v, noted ++ [.called (.ok v)])
      | .error f => attempts (noting ms) (scripted outcomes) (n + 1) (noted ++ [.called (.error f)] ++ [.paused ms]) := by
  have hcall := scripted_eq outcomes h
  have hbind : attempts (noting ms) (scripted outcomes) (n + 2) noted =
      (match (scripted outcomes noted).1 with
        | .ok v => pure (.ok v)
        | .error _ => noting ms >>= fun _ => attempts (noting ms) (scripted outcomes) (n + 1) : Recorded α (Outcome α))
          (scripted outcomes noted).2 := rfl
  rw [hbind, hcall]
  cases outcomes first <;> rfl

/-- Attempts are made up to the first success, or until none is left: they come to the outcome of the last call. -/
theorem attempts_recorded {n i : Nat} (h : noted.countP Event.isCall = first)
    (hfailed : ∀ k < i, ∃ f, outcomes (first + k) = .error f) (hi : i ≤ n)
    (hlast : i = n ∨ ∃ v, outcomes (first + i) = .ok v) :
    attempts (noting ms) (scripted outcomes) (n + 1) noted =
      (outcomes (first + i), noted ++ course ms outcomes first (i + 1)) := by
  induction n generalizing i noted first with
  | zero =>
    obtain rfl := Nat.le_zero.1 hi
    exact scripted_eq outcomes h
  | succ n ih =>
    have hstep := attempts_step ms outcomes h n
    cases i with
    | zero =>
      obtain ⟨v, hv⟩ : ∃ v, outcomes first = .ok v := hlast.resolve_left (Nat.succ_ne_zero n).symm
      rw [hv] at hstep
      change _ = (outcomes first, noted ++ course ms outcomes first 1)
      rw [course_one, hv]
      exact hstep
    | succ i =>
      obtain ⟨f, hf⟩ : ∃ f, outcomes first = .error f := hfailed 0 (Nat.succ_pos i)
      have hnext : (noted ++ [Event.called (.error f)] ++ [Event.paused ms]).countP Event.isCall = first + 1 := by
        rw [List.countP_append, List.countP_append, h]
        rfl
      have hshift (k : Nat) : first + 1 + k = first + (k + 1) := by omega
      have hrest := ih hnext (i := i)
        (fun k hk => hshift k ▸ hfailed (k + 1) (Nat.succ_lt_succ hk)) (Nat.le_of_succ_le_succ hi)
        (hshift i ▸ hlast.imp_left Nat.succ.inj)
      rw [hf] at hstep
      rw [hstep]
      dsimp only
      rw [hrest, hshift, course_succ, hf]
      simp only [List.append_assoc, List.cons_append, List.nil_append]

/-- An operation is tried up to its first success, or as often as the policy allows; only the outcome of the last call is seen. -/
theorem run_of_last {policy : RetryPolicy} {i : Nat} (hi : i < policy.maxAttempts) (hfailed : ∀ k < i, ∃ f, outcomes k = .error f)
    (hlast : i + 1 = policy.maxAttempts ∨ ∃ v, outcomes i = .ok v) :
    policy.run noting (scripted outcomes) [] =
      (match outcomes i with
        | .ok v => .ok v
        | .error f => .error ⟨exhausted policy.maxAttempts f.message⟩,
      course policy.delayMs outcomes 0 (i + 1)) := by
  obtain ⟨n, hn⟩ : ∃ n, policy.maxAttempts = n + 1 := ⟨_, (Nat.succ_pred_eq_of_pos (Nat.zero_lt_of_lt hi)).symm⟩
  have hmade : attempts (noting policy.delayMs) (scripted outcomes) (n + 1) [] =
      (outcomes (0 + i), [] ++ course policy.delayMs outcomes 0 (i + 1)) :=
    attempts_recorded policy.delayMs outcomes rfl (by simpa using hfailed) (by omega) (by simpa [hn] using hlast)
  have hbind : policy.run noting (scripted outcomes) [] =
      (match (attempts (noting policy.delayMs) (scripted outcomes) policy.maxAttempts []).1 with
        | .ok v => pure (.ok v)
        | .error last => pure (Outcome.fail (exhausted policy.maxAttempts last.message)) : Recorded α (Outcome α))
          (attempts (noting policy.delayMs) (scripted outcomes) policy.maxAttempts []).2 := rfl
  rw [hbind, hn, hmade, Nat.zero_add, List.nil_append]
  cases outcomes i <;> rfl

/-- What the report of a failure ends with: the message of the last failure, if there was an attempt at all. -/
def lastReason (failures : Nat → Failure) : Nat → String
  | 0 => "no attempt was made"
  | n + 1 => (failures n).message

/-- An operation that succeeds within the attempts is called up to its first success, and comes to its value; one that does not is
called in every attempt, and the report of its failure names their number and the last reason. There is one pause between two
calls and no other, and nothing that failed before the last call shows in what is given back. -/
theorem run_recorded (policy : RetryPolicy) (outcomes : Nat → Outcome α) :
    let ran := policy.run noting (scripted outcomes) []
    (∀ i v, i < policy.maxAttempts → (∀ k < i, ∃ f, outcomes k = .error f) → outcomes i = .ok v →
      ran = (.ok v, course policy.delayMs outcomes 0 (i + 1)) ∧
        ran.2.countP Event.isCall = i + 1 ∧ ran.2.countP (fun e => !e.isCall) = i) ∧
    (∀ failures, (∀ k < policy.maxAttempts, outcomes k = .error (failures k)) →
      ran = (.error ⟨"The operation did not succeed after " ++ Text.decimal policy.maxAttempts ++ " attempts: " ++
          lastReason failures policy.maxAttempts⟩, course policy.delayMs outcomes 0 policy.maxAttempts) ∧
        ran.2.countP Event.isCall = policy.maxAttempts ∧
        ran.2.countP (fun e => !e.isCall) = policy.maxAttempts - 1) ∧
    ∀ (others : Nat → Outcome α) i, i < policy.maxAttempts → (∀ k < i, ∃ f, outcomes k = .error f) →
      (∀ k < i, ∃ f, others k = .error f) → others i = outcomes i →
      (i + 1 = policy.maxAttempts ∨ ∃ v, outcomes i = .ok v) → (policy.run noting (scripted others) []).1 = ran.1 := by
  intro ran
  refine ⟨fun i v hi hfailed hv => ?_, fun failures hfailures => ?_, fun others i hi hfailed hothers hsame hlast => ?_⟩
  · have hran : ran = _ := run_of_last outcomes hi hfailed (Or.inr ⟨v, hv⟩)
    obtain ⟨hcalls, hpauses⟩ := countP_course policy.delayMs outcomes 0 (i + 1)
    rw [hran, hv]
    exact ⟨rfl, hcalls, hpauses⟩
  · obtain ⟨hcalls, hpauses⟩ := countP_course policy.delayMs outcomes 0 policy.maxAttempts
    have hran : ran = (.error ⟨exhausted policy.maxAttempts (lastReason failures policy.maxAttempts)⟩,
        course policy.delayMs outcomes 0 policy.maxAttempts) := by
      cases hm : policy.maxAttempts with
      | zero =>
        obtain ⟨_, ms⟩ := policy
        cases hm
        rfl
      | succ n =>
        have hlast := hfailures n (by omega)
        have hran : ran = _ := run_of_last outcomes (i := n) (by omega) (fun k hk => ⟨_, hfailures k (by omega)⟩) (Or.inl hm.symm)
        rw [hran, hlast, hm]
        rfl
    rw [hran]
    exact ⟨rfl, hcalls, hpauses⟩
  · have hran : ran = _ := run_of_last outcomes hi hfailed hlast
    rw [hran, run_of_last others hi hothers (hsame ▸ hlast), hsame]

/-- Two failures and a success, failures throughout, and a policy without an attempt. -/
theorem run_recorded_standard :
    let late : Nat → Outcome Nat := fun k => if k < 2 then .error ⟨"not visible yet"⟩ else .ok k
    let never : Nat → Outcome Nat := fun k => .error ⟨Text.decimal k⟩
    standard.run noting (scripted late) [] =
        (.ok 2, [.called (late 0), .paused 350, .called (late 1), .paused 350, .called (late 2)]) ∧
      (standard.run noting (scripted never) []).1 = .error ⟨"The operation did not succeed after 4 attempts: 3"⟩ ∧
      RetryPolicy.run ⟨0, 350⟩ noting (scripted late) [] =
        (.error ⟨"The operation did not succeed after 0 attempts: no attempt was made"⟩, []) ∧
      (RetryPolicy.run ⟨3, 350⟩ noting (scripted fun k => if k = 2 then late k else never k) []).1 =
        (RetryPolicy.run ⟨3, 350⟩ noting (scripted late) []).1 := by
  intro late never
  have hfailed : ∀ k < 2, ∃ f, late k = .error f := fun k hk => ⟨_, if_pos hk⟩
  have hmixed : ∀ k < 2, ∃ f, (if k = 2 then late k else never k) = .error f := fun k hk => ⟨_, if_neg (by omega)⟩
  obtain ⟨hsuccess, -⟩ := (run_recorded standard late).1 2 2 (by decide) hfailed rfl
  obtain ⟨hfailure, -⟩ := (run_recorded standard never).2.1 (fun k => ⟨Text.decimal k⟩) fun _ _ => rfl
  obtain ⟨hnone, -⟩ := (run_recorded ⟨0, 350⟩ late).2.1 (fun _ => ⟨""⟩) fun k hk => absurd hk (Nat.not_lt_zero k)
  refine ⟨hsuccess, ?_, ?_, ?_⟩
  · rw [hfailure]
    have hmessage : "The operation did not succeed after " ++ Text.decimal 4 ++ " attempts: " ++ Text.decimal 3 =
        "The operation did not succeed after 4 attempts: 3" := by decide +kernel
    exact congrArg (fun message => (.error ⟨message⟩ : Outcome Nat)) hmessage
  · rw [hnone]
    have hmessage : "The operation did not succeed after " ++ Text.decimal 0 ++ " attempts: " ++ "no attempt was made" =
        "The operation did not succeed after 0 attempts: no attempt was made" := by decide +kernel
    exact congrArg (fun message => ((.error ⟨message⟩ : Outcome Nat), ([] : List (Event Nat)))) hmessage
  · exact (run_recorded ⟨3, 350⟩ late).2.2 _ 2 (by decide) hfailed hmixed rfl (Or.inl rfl)

end RetryPolicy

end StandingQuery
