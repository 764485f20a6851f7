import RiskGate.Proofs.Breaker.Session

/-!
# Outcomes that count

The outcome of a call of the present generation counts: a success forgets the
failures before it and closes the breaker, and a failure adds to them and may open
it.  The whole breaker after such an outcome is stated here, so that every field of
it can be read off.

No outcome counts while a breaker is open.  An open breaker admits nobody into its
own generation, and everybody who was admitted before belongs to an earlier one.
-/

namespace RiskGate.Breaker

section Fields

variable (target : Circuit) (breaker : Breaker)

@[simp] theorem moveTo_circuit : (breaker.moveTo target).circuit = target := by
  by_cases same : breaker.circuit = target <;> simp [moveTo, same]

@[simp] theorem moveTo_threshold : (breaker.moveTo target).threshold = breaker.threshold := by
  by_cases same : breaker.circuit = target <;> simp [moveTo, same]

@[simp] theorem moveTo_recovery : (breaker.moveTo target).recovery = breaker.recovery := by
  by_cases same : breaker.circuit = target <;> simp [moveTo, same]

@[simp] theorem moveTo_failureRun : (breaker.moveTo target).failureRun = breaker.failureRun := by
  by_cases same : breaker.circuit = target <;> simp [moveTo, same]

@[simp] theorem moveTo_lastFailure :
    (breaker.moveTo target).lastFailure = breaker.lastFailure := by
  by_cases same : breaker.circuit = target <;> simp [moveTo, same]

/-- The recovery time is a setting. -/
theorem report_recovery (generation : Nat) (verdict : Verdict) (now : Nat) :
    (breaker.report generation verdict now).recovery = breaker.recovery := by
  cases verdict with
  | succeeded =>
      simp only [report, succeed]
      split
      · rfl
      · split <;> simp
  | failed | dropped =>
      simp only [report, fail]
      split
      · rfl
      · split
        · split <;> simp
        · simp
        · rfl

theorem moveTo_of_eq {target : Circuit} (same : breaker.circuit = target) :
    breaker.moveTo target = breaker :=
  if_pos same

end Fields

/-- A breaker that was told of a success that counts. -/
def noteSuccess (breaker : Breaker) : Breaker :=
  { breaker with successes := breaker.successes + 1, failureRun := 0 }

/-- A breaker that was told of a failure that counts. -/
def noteFailure (now : Nat) (breaker : Breaker) : Breaker :=
  { breaker with
    failures := breaker.failures + 1
    failureRun := min (breaker.failureRun + 1) longestRun
    lastFailure := some now }

/-- Everything that can come of an outcome of the present generation, unless the
breaker is open. -/
theorem report_present_cases (breaker : Breaker) (awake : breaker.circuit ≠ .opened)
    (verdict : Verdict) (now : Nat) :
    (verdict = .succeeded ∧
      breaker.report breaker.generation verdict now = breaker.noteSuccess.moveTo .closed) ∨
    (verdict ≠ .succeeded ∧ breaker.circuit = .closed ∧
      (breaker.noteFailure now).failureRun < breaker.threshold ∧
      breaker.report breaker.generation verdict now = breaker.noteFailure now) ∨
    (verdict ≠ .succeeded ∧
      (breaker.circuit = .closed →
        breaker.threshold ≤ (breaker.noteFailure now).failureRun) ∧
      breaker.report breaker.generation verdict now =
        (breaker.noteFailure now).moveTo .opened) := by
  cases circuit : breaker.circuit with
  | opened => exact absurd circuit awake
  | closed =>
      cases verdict with
      | succeeded =>
          left
          have closed : breaker.noteSuccess.circuit = .closed := circuit
          rw [moveTo_of_eq _ closed]
          simp [report, succeed, noteSuccess, circuit]
      | failed | dropped =>
          right
          by_cases trips : breaker.threshold ≤ (breaker.noteFailure now).failureRun
          · right
            have reached : breaker.threshold ≤ min (breaker.failureRun + 1) longestRun := trips
            simp [report, fail, noteFailure, circuit, reached]
          · left
            have short : min (breaker.failureRun + 1) longestRun < breaker.threshold :=
              Nat.lt_of_not_le trips
            simp [report, fail, noteFailure, circuit, short, Nat.not_le_of_lt short]
  | halfOpen =>
      cases verdict with
      | succeeded => simp [report, succeed, noteSuccess, circuit]
      | failed | dropped => simp [report, fail, noteFailure, circuit]

namespace Session

/-! ## Open periods -/

/-- Whoever is let in leaves the breaker closed or half open. -/
theorem awake_of_admitted {session : Session} {event : Event} {call : Call}
    (admitted : (session.step event).admissions = call :: session.admissions) :
    (session.step event).breaker.circuit ≠ .opened := by
  cases event with
  | attempt =>
      rcases session.step_attempt_cases with
        ⟨closed, stepEq⟩ | ⟨_, _, stepEq⟩ | ⟨halfOpen, _, stepEq⟩ | ⟨_, stepEq⟩
      · simp [stepEq, letIn, closed]
      · simp [stepEq, letIn]
      · simp [stepEq, letIn, halfOpen]
      · simp [stepEq] at admitted
  | settle number verdict =>
      rcases session.step_settle_cases number verdict with ⟨_, _, _, stepEq⟩ | stepEq
      · simp [stepEq, Session.settle] at admitted
      · simp [stepEq] at admitted
  | reset | pass => simp [Session.step] at admitted

/-- An open breaker has admitted nobody in its generation. -/
structure Sealed (session : Session) : Prop where
  recorded : Recorded session
  unattended : session.breaker.circuit = .opened →
    ∀ call ∈ session.admissions, call.generation < session.breaker.generation

namespace Sealed

variable {session : Session}

theorem start (threshold : Nat) (recovery : Span) (trialLimit : Nat) :
    Sealed (start threshold recovery trialLimit) where
  recorded := .start threshold recovery trialLimit
  unattended := nofun

/-- No call in flight is of the generation of an open breaker. -/
theorem stale (closed : Sealed session) (opened : session.breaker.circuit = .opened) {call : Call}
    (member : call ∈ session.inFlight) : call.generation ≠ session.breaker.generation :=
  Nat.ne_of_lt (closed.unattended opened call (closed.recorded.admitted call member))

/-- A breaker that opens begins a generation, and one that stays open lets nobody
in. -/
theorem step (closed : Sealed session) (event : Event) : Sealed (session.step event) := by
  constructor
  · exact closed.recorded.step event
  · intro opened call member
    rcases session.step_admissions event with same | ⟨entered, admitted, _⟩
    · rw [same] at member
      rcases session.step_period event with ⟨generation, circuit⟩ | later
      · rw [generation]
        rw [circuit] at opened
        exact closed.unattended opened call member
      · exact Nat.lt_of_le_of_lt (closed.recorded.generations call member) later
    · exact absurd opened (awake_of_admitted admitted)

theorem run (closed : Sealed session) (events : List Event) : Sealed (session.run events) :=
  run_preserves closed (fun _ event closed => closed.step event) events

end Sealed

/-- The end of a call of an earlier generation changes the totals only. -/
theorem settle_stale {session : Session} {call : Call}
    (stale : call.generation ≠ session.breaker.generation) (verdict : Verdict) :
    (session.settle call verdict).breaker =
      { session.breaker with
        successes := session.breaker.successes + if verdict = .succeeded then 1 else 0
        failures := session.breaker.failures + if verdict = .succeeded then 0 else 1 } :=
  session.breaker.report_of_ne stale verdict session.now

/-- Everything that can come of the end of a call of the present generation. -/
theorem Sealed.settle_present_cases {session : Session} (closed : Sealed session) {call : Call}
    (member : call ∈ session.inFlight) (present : call.generation = session.breaker.generation)
    (verdict : Verdict) :
    (verdict = .succeeded ∧
      (session.settle call verdict).breaker = session.breaker.noteSuccess.moveTo .closed) ∨
    (verdict ≠ .succeeded ∧ session.breaker.circuit = .closed ∧
      (session.breaker.noteFailure session.now).failureRun < session.breaker.threshold ∧
      (session.settle call verdict).breaker = session.breaker.noteFailure session.now) ∨
    (verdict ≠ .succeeded ∧
      (session.breaker.circuit = .closed →
        session.breaker.threshold ≤ (session.breaker.noteFailure session.now).failureRun) ∧
      (session.settle call verdict).breaker =
        (session.breaker.noteFailure session.now).moveTo .opened) := by
  have awake : session.breaker.circuit ≠ .opened := by
    intro opened
    exact closed.stale opened member present
  have outcome := session.breaker.report_present_cases awake verdict session.now
  rw [← present] at outcome
  exact outcome

end Session

end RiskGate.Breaker
