import RiskGate.Proofs.Breaker.Session

/-!
# The trials of a half-open breaker

A half-open breaker admits a limited number of trials and leaves its position with
the first one that ends.  As long as it stays, therefore, no trial has ended, and
its count of trials is the number of calls of its generation that are in flight.
The count is never zero, so that there is always a trial whose end moves the
breaker on: it cannot be stuck in a position in which it rejects every call.

Calls of earlier generations may end in the meantime.  They neither use up trials
nor give any back.
-/

namespace RiskGate.Breaker.Session

/-- Calls in flight that were admitted in the present generation. -/
def trialsInFlight (session : Session) : Nat :=
  session.inFlight.countP (·.generation == session.breaker.generation)

/-- Calls that were ever admitted in a generation. -/
def admittedIn (generation : Nat) (session : Session) : Nat :=
  session.admissions.countP (·.generation == generation)

/-- The trials of a half-open breaker are counted, and keep to the limit. -/
structure Counted (limit : Nat) (session : Session) : Prop where
  inFlight : session.breaker.trials = session.trialsInFlight
  admitted : session.breaker.trials = session.admittedIn session.breaker.generation
  positive : 1 ≤ session.breaker.trials
  bounded : session.breaker.trials ≤ max limit 1

/-- The trials are counted after one more is admitted. -/
theorem Counted.letIn {limit : Nat} {session : Session} {breaker : Breaker}
    (inFlight : breaker.trials =
      session.inFlight.countP (·.generation == breaker.generation) + 1)
    (admitted : breaker.trials = session.admittedIn breaker.generation + 1)
    (bounded : breaker.trials ≤ max limit 1) :
    Counted limit (session.letIn breaker breaker.generation) where
  inFlight := inFlight.trans (List.countP_cons_of_pos (by simp)).symm
  admitted := admitted.trans (List.countP_cons_of_pos (by simp)).symm
  positive := by
    change 1 ≤ breaker.trials
    omega
  bounded := bounded

/-- A half-open breaker counts its trials, and any other counts none. -/
structure Budgeted (limit : Nat) (session : Session) : Prop where
  recorded : Recorded session
  trialLimit : session.breaker.trialLimit = max limit 1
  counted : session.breaker.circuit = .halfOpen → Counted limit session
  none : session.breaker.circuit ≠ .halfOpen → session.breaker.trials = 0

namespace Budgeted

variable {limit : Nat} {session next : Session}

theorem start (threshold : Nat) (recovery : Span) (limit : Nat) :
    Budgeted limit (start threshold recovery limit) where
  recorded := .start threshold recovery limit
  trialLimit := rfl
  counted := nofun
  none := fun _ => rfl

/-- Outside the half-open position there is nothing to count. -/
theorem of_none (recorded : Recorded next) (trialLimit : next.breaker.trialLimit = max limit 1)
    (circuit : next.breaker.circuit ≠ .halfOpen) (trials : next.breaker.trials = 0) :
    Budgeted limit next where
  recorded := recorded
  trialLimit := trialLimit
  counted := fun halfOpen => absurd halfOpen circuit
  none := fun _ => trials

theorem of_counted (recorded : Recorded next)
    (trialLimit : next.breaker.trialLimit = max limit 1)
    (circuit : next.breaker.circuit = .halfOpen) (counted : Counted limit next) :
    Budgeted limit next where
  recorded := recorded
  trialLimit := trialLimit
  counted := fun _ => counted
  none := fun other => absurd circuit other

/-- A change that concerns neither the position nor any call of the present
generation. -/
theorem of_same (budgeted : Budgeted limit session) (recorded : Recorded next)
    (trialLimit : next.breaker.trialLimit = session.breaker.trialLimit)
    (circuit : next.breaker.circuit = session.breaker.circuit)
    (trials : next.breaker.trials = session.breaker.trials)
    (inFlight : session.breaker.circuit = .halfOpen →
      next.trialsInFlight = session.trialsInFlight)
    (admitted : next.admittedIn next.breaker.generation =
      session.admittedIn session.breaker.generation) : Budgeted limit next where
  recorded := recorded
  trialLimit := trialLimit.trans budgeted.trialLimit
  counted := by
    rw [circuit]
    intro halfOpen
    have counted := budgeted.counted halfOpen
    constructor
    · rw [trials, inFlight halfOpen]
      exact counted.inFlight
    · rw [trials, admitted]
      exact counted.admitted
    · rw [trials]
      exact counted.positive
    · rw [trials]
      exact counted.bounded
  none := by
    rw [circuit, trials]
    exact budgeted.none

/-- No call of a generation to come was admitted. -/
theorem countP_eq_zero (budgeted : Budgeted limit session) {calls : List Call}
    (admitted : ∀ call ∈ calls, call ∈ session.admissions) {generation : Nat}
    (ahead : session.breaker.generation < generation) :
    calls.countP (·.generation == generation) = 0 := by
  rw [List.countP_eq_zero]
  intro call member
  have past := budgeted.recorded.generations call (admitted call member)
  simp only [beq_iff_eq]
  omega

theorem attempt (budgeted : Budgeted limit session) : Budgeted limit (session.step .attempt) := by
  have recorded := budgeted.recorded.step .attempt
  rcases session.step_attempt_cases with
    ⟨closed, stepEq⟩ | ⟨_, _, stepEq⟩ | ⟨halfOpen, room, stepEq⟩ | ⟨_, stepEq⟩
  · rw [stepEq] at recorded ⊢
    have circuit : session.breaker.circuit ≠ .halfOpen := by simp [closed]
    exact of_none recorded budgeted.trialLimit circuit (budgeted.none circuit)
  · rw [stepEq] at recorded ⊢
    -- The first trial: no call of the new generation was there before it.
    have ahead := Nat.lt_succ_self session.breaker.generation
    refine of_counted recorded budgeted.trialLimit rfl (.letIn ?_ ?_ (Nat.le_max_right _ _))
    · rw [budgeted.countP_eq_zero budgeted.recorded.admitted ahead]
    · rw [admittedIn, budgeted.countP_eq_zero (fun _ => id) ahead]
  · rw [stepEq] at recorded ⊢
    have counted := budgeted.counted halfOpen
    rw [budgeted.trialLimit] at room
    refine of_counted recorded budgeted.trialLimit halfOpen (.letIn ?_ ?_ room)
    · exact congrArg (· + 1) counted.inFlight
    · exact congrArg (· + 1) counted.admitted
  · rw [stepEq] at recorded ⊢
    exact budgeted.of_same recorded rfl rfl rfl (fun _ => rfl) rfl

/-- The end of a call of the present generation leaves no trials behind, and ends the
half-open period if there is one. -/
theorem settle_present (budgeted : Budgeted limit session) {call : Call}
    (present : call.generation = session.breaker.generation) (verdict : Verdict) :
    (session.settle call verdict).breaker.circuit ≠ .halfOpen ∧
      (session.settle call verdict).breaker.trials = 0 := by
  cases circuit : session.breaker.circuit with
  | closed =>
      have none := budgeted.none (by simp [circuit])
      have outcome := session.breaker.report_closed circuit verdict session.now
      rw [← present] at outcome
      rcases outcome with ⟨closed, trials, _⟩ | ⟨opened, trials, _⟩
      · constructor
        · intro halfOpen
          exact absurd (closed.symm.trans halfOpen) (by decide)
        · exact trials.trans none
      · constructor
        · intro halfOpen
          exact absurd (opened.symm.trans halfOpen) (by decide)
        · exact trials
  | opened =>
      have none := budgeted.none (by simp [circuit])
      obtain ⟨opened, trials, _⟩ :=
        session.breaker.report_opened circuit call.generation verdict session.now
      constructor
      · intro halfOpen
        exact absurd (opened.symm.trans halfOpen) (by decide)
      · exact trials.trans none
  | halfOpen =>
      have outcome := session.breaker.report_trial circuit verdict session.now
      rw [← present] at outcome
      constructor
      · intro halfOpen
        have same := outcome.1.symm.trans halfOpen
        split at same <;> cases same
      · exact outcome.2.1

/-- The end of a call of an earlier generation is none of the trials' concern. -/
theorem settle_stale (budgeted : Budgeted limit session) {call : Call} {verdict : Verdict}
    (member : call ∈ session.inFlight) (recorded : Recorded (session.settle call verdict))
    (stale : call.generation ≠ session.breaker.generation) :
    Budgeted limit (session.settle call verdict) := by
  have trialLimit :=
    session.breaker.report_trialLimit call.generation verdict session.now
  have reported := session.breaker.report_of_ne stale verdict session.now
  have generation : (session.settle call verdict).breaker.generation =
      session.breaker.generation := by
    rw [Session.settle, reported]
  apply budgeted.of_same recorded trialLimit
  · rw [Session.settle, reported]
  · rw [Session.settle, reported]
  · intro _
    have others := (List.perm_cons_erase member).countP_eq
      (·.generation == session.breaker.generation)
    rw [List.countP_cons_of_neg (by simpa using stale)] at others
    rw [trialsInFlight, generation]
    exact others.symm
  · rw [generation]
    rfl

theorem settle (budgeted : Budgeted limit session) {call : Call} {verdict : Verdict}
    (member : call ∈ session.inFlight) (recorded : Recorded (session.settle call verdict)) :
    Budgeted limit (session.settle call verdict) := by
  by_cases present : call.generation = session.breaker.generation
  · obtain ⟨circuit, trials⟩ := budgeted.settle_present present verdict
    have trialLimit :=
      session.breaker.report_trialLimit call.generation verdict session.now
    exact of_none recorded (trialLimit.trans budgeted.trialLimit) circuit trials
  · exact budgeted.settle_stale member recorded present

/-- Every event keeps the count. -/
theorem step (budgeted : Budgeted limit session) (event : Event) :
    Budgeted limit (session.step event) := by
  have recorded := budgeted.recorded.step event
  cases event with
  | attempt => exact budgeted.attempt
  | settle number verdict =>
      rcases session.step_settle_cases number verdict with ⟨call, member, _, stepEq⟩ | stepEq
      · rw [stepEq] at recorded ⊢
        exact budgeted.settle member recorded
      · rw [stepEq]
        exact budgeted
  | reset =>
      obtain ⟨closed, trials, trialLimit, _⟩ := session.breaker.reset_spec
      refine of_none recorded (trialLimit.trans budgeted.trialLimit) ?_ trials
      exact fun halfOpen => absurd (closed.symm.trans halfOpen) (by decide)
  | pass nanos => exact budgeted.of_same recorded rfl rfl rfl (fun _ => rfl) rfl

theorem run (budgeted : Budgeted limit session) (events : List Event) :
    Budgeted limit (session.run events) :=
  run_preserves budgeted (fun _ event budgeted => budgeted.step event) events

end Budgeted

/-! ## Half-open periods -/

/-- The half-open period of a generation lasts, or is over and has admitted no more
calls than the limit. -/
structure Period (limit generation : Nat) (session : Session) : Prop where
  budgeted : Budgeted limit session
  begun : generation ≤ session.breaker.generation
  lasting : session.breaker.generation = generation → session.breaker.circuit = .halfOpen
  past : generation < session.breaker.generation → session.admittedIn generation ≤ max limit 1

namespace Period

variable {limit generation : Nat} {session : Session}

/-- Whether the period lasts or is over, it has admitted no more calls than the
limit. -/
theorem admittedIn_le (period : Period limit generation session) :
    session.admittedIn generation ≤ max limit 1 := by
  rcases Nat.lt_or_eq_of_le period.begun with past | same
  · exact period.past past
  · have counted := period.budgeted.counted (period.lasting same.symm)
    rw [same, ← counted.admitted]
    exact counted.bounded

/-- A call that is admitted after the period does not count in it. -/
theorem admittedIn_step (event : Event)
    (after : generation ≠ (session.step event).breaker.generation) :
    (session.step event).admittedIn generation = session.admittedIn generation := by
  unfold admittedIn
  rcases session.step_admissions event with same | ⟨call, admissions, inPresent⟩
  · rw [same]
  · rw [admissions]
    apply List.countP_cons_of_neg
    rw [inPresent]
    simpa using after.symm

theorem step (period : Period limit generation session) (event : Event) :
    Period limit generation (session.step event) := by
  have budgeted := period.budgeted.step event
  rcases session.step_period event with ⟨same, circuit⟩ | later
  · constructor
    · exact budgeted
    · rw [same]
      exact period.begun
    · rw [same, circuit]
      exact period.lasting
    · intro past
      rw [admittedIn_step event (Nat.ne_of_lt past)]
      rw [same] at past
      exact period.past past
  · have past := Nat.lt_of_le_of_lt period.begun later
    constructor
    · exact budgeted
    · exact Nat.le_of_lt past
    · intro same
      exact absurd same.symm (Nat.ne_of_lt past)
    · intro _
      rw [admittedIn_step event (Nat.ne_of_lt past)]
      exact period.admittedIn_le

theorem run (period : Period limit generation session) (events : List Event) :
    Period limit generation (session.run events) :=
  run_preserves period (fun _ event period => period.step event) events

end Period

/-- A trial that ends moves the breaker on. -/
theorem settle_trial {session : Session} (recorded : Recorded session)
    (halfOpen : session.breaker.circuit = .halfOpen) {call : Call}
    (member : call ∈ session.inFlight) (trial : call.generation = session.breaker.generation)
    (verdict : Verdict) :
    (session.step (.settle call.number verdict)).breaker.circuit =
      if verdict = .succeeded then .closed else .opened := by
  have outcome := session.breaker.report_trial halfOpen verdict session.now
  rw [recorded.step_settle member, Session.settle, trial]
  exact outcome.1

/-- What holds of the trials of a breaker. -/
structure HalfOpenLaw (limit : Nat) (session : Session) : Prop where
  /-- The count of trials is the number of trials in flight, and keeps to the limit. -/
  counted : session.breaker.circuit = .halfOpen →
    session.breaker.trials = session.trialsInFlight ∧
      1 ≤ session.breaker.trials ∧ session.breaker.trials ≤ max limit 1
  none : session.breaker.circuit ≠ .halfOpen → session.breaker.trials = 0
  /-- However the session goes on, the half-open period admits no more calls than the
  limit. -/
  admits : session.breaker.circuit = .halfOpen → ∀ events,
    (session.run events).admittedIn session.breaker.generation ≤ max limit 1
  /-- Some trial is in flight, and the end of any trial moves the breaker on. -/
  moves : session.breaker.circuit = .halfOpen →
    (∃ call ∈ session.inFlight, call.generation = session.breaker.generation) ∧
      ∀ call ∈ session.inFlight, call.generation = session.breaker.generation →
        ∀ verdict, (session.step (.settle call.number verdict)).breaker.circuit =
          if verdict = .succeeded then .closed else .opened

/-- In every state that a breaker can reach, its trials are counted, keep to the
limit, and do not leave it stuck. -/
theorem halfOpen_law (threshold : Nat) (recovery : Span) (limit : Nat) (events : List Event) :
    HalfOpenLaw limit ((start threshold recovery limit).run events) := by
  have budgeted : Budgeted limit ((start threshold recovery limit).run events) :=
    (Budgeted.start threshold recovery limit).run events
  constructor
  · intro halfOpen
    have counted := budgeted.counted halfOpen
    exact ⟨counted.inFlight, counted.positive, counted.bounded⟩
  · exact budgeted.none
  · intro halfOpen later
    have period : Period limit _ ((start threshold recovery limit).run events) :=
      ⟨budgeted, Nat.le_refl _, fun _ => halfOpen, fun past => absurd past (Nat.lt_irrefl _)⟩
    exact (period.run later).admittedIn_le
  · intro halfOpen
    constructor
    · have counted := budgeted.counted halfOpen
      have positive := counted.positive
      rw [counted.inFlight] at positive
      obtain ⟨call, member, trial⟩ := List.countP_pos_iff.mp positive
      exact ⟨call, member, by simpa using trial⟩
    · intro call member trial verdict
      exact settle_trial budgeted.recorded halfOpen member trial verdict

end RiskGate.Breaker.Session
