import RiskGate.Breaker

/-!
# A breaker in use

A session is a breaker together with the time, the calls in flight, and a record
of what happened: which calls were admitted, and which outcomes were reported.
The record has no influence on the breaker.

Calls may be attempted, may end, and may be given up in any order, at any time, and
with any number of them in flight; the breaker may be reset between them.  A session
that has seen a list of events is a reachable state of the breaker, whatever the
list.
-/

namespace RiskGate.Breaker

/-! ## What the breaker's answers can be -/

/-- How a call ends. -/
inductive Verdict where
  | succeeded
  | failed
  /-- The call was given up before it ended. -/
  | dropped
deriving DecidableEq, Repr

/-- Report the end of a call. -/
def report (generation : Nat) (verdict : Verdict) (now : Nat) (breaker : Breaker) : Breaker :=
  match verdict with
  | .succeeded => breaker.succeed generation
  | .failed | .dropped => breaker.fail generation now

section Answers

variable (breaker : Breaker)

/-- Moving to another position. -/
theorem moveTo_of_ne {target : Circuit} (distinct : breaker.circuit ≠ target) :
    breaker.moveTo target =
      { breaker with
        circuit := target
        trials := 0
        generation := breaker.generation + 1
        announced := some target } :=
  if_neg distinct

/-- The settings never change. -/
theorem moveTo_trialLimit (target : Circuit) :
    (breaker.moveTo target).trialLimit = breaker.trialLimit := by
  unfold moveTo
  split <;> rfl

/-- Everything that can come of asking for admission. -/
theorem acquire_cases (now : Nat) :
    (breaker.circuit = .closed ∧ breaker.acquire now = breaker.admitted) ∨
    (breaker.circuit = .opened ∧ breaker.recovered now = true ∧
      breaker.acquire now = { breaker.moveTo .halfOpen with trials := 1 }.admitted) ∨
    (breaker.circuit = .halfOpen ∧ breaker.trials < breaker.trialLimit ∧
      breaker.acquire now = { breaker with trials := breaker.trials + 1 }.admitted) ∨
    ((breaker.circuit = .opened ∧ breaker.recovered now = false ∨
      breaker.circuit = .halfOpen ∧ breaker.trialLimit ≤ breaker.trials) ∧
      breaker.acquire now = breaker.rejected) := by
  unfold acquire
  cases circuit : breaker.circuit with
  | closed => exact Or.inl ⟨rfl, rfl⟩
  | opened =>
      cases recovered : breaker.recovered now with
      | true => exact Or.inr (Or.inl ⟨rfl, rfl, rfl⟩)
      | false => exact Or.inr (Or.inr (Or.inr ⟨Or.inl ⟨rfl, rfl⟩, rfl⟩))
  | halfOpen =>
      by_cases room : breaker.trials < breaker.trialLimit
      · exact Or.inr (Or.inr (Or.inl ⟨rfl, room, if_pos room⟩))
      · exact Or.inr (Or.inr (Or.inr ⟨Or.inr ⟨rfl, by omega⟩, if_neg room⟩))

/-- An outcome with an earlier generation changes the totals only. -/
theorem report_of_ne {generation : Nat} (stale : generation ≠ breaker.generation)
    (verdict : Verdict) (now : Nat) :
    breaker.report generation verdict now =
      { breaker with
        successes := breaker.successes + if verdict = .succeeded then 1 else 0
        failures := breaker.failures + if verdict = .succeeded then 0 else 1 } := by
  cases verdict with
  | succeeded => exact if_pos stale
  | failed | dropped => exact if_pos stale

/-- The outcome of a trial decides the position. -/
theorem report_trial (trial : breaker.circuit = .halfOpen) (verdict : Verdict) (now : Nat) :
    (breaker.report breaker.generation verdict now).circuit =
      (if verdict = .succeeded then .closed else .opened) ∧
    (breaker.report breaker.generation verdict now).trials = 0 ∧
    (breaker.report breaker.generation verdict now).generation = breaker.generation + 1 := by
  cases verdict with
  | succeeded => simp [report, succeed, moveTo, trial]
  | failed | dropped => simp [report, fail, moveTo, trial]

/-- An outcome of the present generation leaves a closed breaker closed, in the same
generation, or opens it. -/
theorem report_closed (closed : breaker.circuit = .closed) (verdict : Verdict) (now : Nat) :
    ((breaker.report breaker.generation verdict now).circuit = .closed ∧
      (breaker.report breaker.generation verdict now).trials = breaker.trials ∧
      (breaker.report breaker.generation verdict now).generation = breaker.generation) ∨
    ((breaker.report breaker.generation verdict now).circuit = .opened ∧
      (breaker.report breaker.generation verdict now).trials = 0 ∧
      (breaker.report breaker.generation verdict now).generation = breaker.generation + 1) := by
  cases verdict with
  | succeeded => simp [report, succeed, closed]
  | failed | dropped =>
      by_cases trips : breaker.threshold ≤ min (breaker.failureRun + 1) longestRun
      · simp [report, fail, moveTo, closed, trips]
      · simp [report, fail, closed, trips]

/-- An open breaker does not move by outcomes. -/
theorem report_opened (opened : breaker.circuit = .opened) (generation : Nat) (verdict : Verdict)
    (now : Nat) :
    (breaker.report generation verdict now).circuit = .opened ∧
      (breaker.report generation verdict now).trials = breaker.trials ∧
      (breaker.report generation verdict now).generation = breaker.generation := by
  by_cases present : generation = breaker.generation
  · subst present
    cases verdict with
    | succeeded => simp [report, succeed, opened]
    | failed | dropped => simp [report, fail, opened]
  · rw [breaker.report_of_ne present]
    exact ⟨opened, rfl, rfl⟩

theorem report_trialLimit (generation : Nat) (verdict : Verdict) (now : Nat) :
    (breaker.report generation verdict now).trialLimit = breaker.trialLimit := by
  by_cases present : generation = breaker.generation
  · subst present
    cases verdict with
    | succeeded =>
        simp only [report, succeed, ne_eq, not_true_eq_false, if_false]
        split
        · rfl
        · exact moveTo_trialLimit _ _
        · rfl
    | failed | dropped =>
        simp only [report, fail, ne_eq, not_true_eq_false, if_false]
        split
        · split
          · exact moveTo_trialLimit _ _
          · rfl
        · exact moveTo_trialLimit _ _
        · rfl
  · rw [breaker.report_of_ne present]

/-- An outcome moves the breaker into the next generation, or leaves it in its
position and its generation. -/
theorem report_period (generation : Nat) (verdict : Verdict) (now : Nat) :
    ((breaker.report generation verdict now).generation = breaker.generation ∧
      (breaker.report generation verdict now).circuit = breaker.circuit) ∨
    (breaker.report generation verdict now).generation = breaker.generation + 1 := by
  by_cases present : generation = breaker.generation
  · subst present
    cases circuit : breaker.circuit with
    | closed =>
        rcases breaker.report_closed circuit verdict now with
          ⟨closed, _, same⟩ | ⟨_, _, next⟩
        · exact Or.inl ⟨same, closed⟩
        · exact Or.inr next
    | halfOpen => exact Or.inr (breaker.report_trial circuit verdict now).2.2
    | opened =>
        obtain ⟨opened, _, same⟩ := breaker.report_opened circuit breaker.generation verdict now
        exact Or.inl ⟨same, opened⟩
  · rw [breaker.report_of_ne present]
    exact Or.inl ⟨rfl, rfl⟩

/-- A reset starts a new generation, with the breaker closed. -/
theorem reset_spec :
    breaker.reset.circuit = .closed ∧ breaker.reset.trials = 0 ∧
      breaker.reset.trialLimit = breaker.trialLimit ∧
      breaker.generation < breaker.reset.generation := by
  by_cases closed : breaker.circuit = .closed
  · simp [reset, moveTo, closed]
  · rw [reset, breaker.moveTo_of_ne closed]
    exact ⟨rfl, rfl, rfl, by simp only; omega⟩

end Answers

/-! ## Sessions -/

/-- A call that was admitted. -/
structure Call where
  /-- How many calls were admitted before it. -/
  number : Nat
  /-- The generation of its admission. -/
  generation : Nat
  admittedAt : Nat
deriving DecidableEq, Repr

/-- A breaker in use. -/
structure Session where
  breaker : Breaker
  now : Nat := 0
  inFlight : List Call := []
  /-- All calls that were admitted, the latest first. -/
  admissions : List Call := []
  /-- All outcomes that were reported, the latest first. -/
  reports : List (Call × Verdict) := []

/-- What can happen to a breaker in use. -/
inductive Session.Event where
  /-- A call is attempted. -/
  | attempt
  /-- A call in flight ends. -/
  | settle (number : Nat) (verdict : Verdict)
  | reset
  /-- Time passes. -/
  | pass (nanos : Nat)
deriving DecidableEq, Repr

namespace Session

/-- A new breaker. -/
def start (threshold : Nat) (recovery : Span) (trialLimit : Nat) : Session where
  breaker := Breaker.make threshold recovery trialLimit

/-- A call is admitted. -/
def letIn (breaker : Breaker) (generation : Nat) (session : Session) : Session :=
  let call : Call := ⟨session.admissions.length, generation, session.now⟩
  { session with
    breaker := breaker
    inFlight := call :: session.inFlight
    admissions := call :: session.admissions }

/-- A call in flight ends. -/
def settle (call : Call) (verdict : Verdict) (session : Session) : Session :=
  { session with
    breaker := session.breaker.report call.generation verdict session.now
    inFlight := session.inFlight.erase call
    reports := (call, verdict) :: session.reports }

/-- The call in flight with a number. -/
def call? (number : Nat) (session : Session) : Option Call :=
  session.inFlight.find? (·.number == number)

/-- The session after an event.  There is nothing to do for a call that is not in
flight. -/
def step (session : Session) : Event → Session
  | .attempt =>
      match session.breaker.acquire session.now with
      | (breaker, some generation) => session.letIn breaker generation
      | (breaker, none) => { session with breaker := breaker }
  | .settle number verdict =>
      match session.call? number with
      | some call => session.settle call verdict
      | none => session
  | .reset => { session with breaker := session.breaker.reset }
  | .pass nanos => { session with now := session.now + nanos }

/-- The session after events, one after another. -/
def run (session : Session) (events : List Event) : Session :=
  events.foldl step session

/-- Everything that can come of an attempt. -/
theorem step_attempt_cases (session : Session) :
    (session.breaker.circuit = .closed ∧
      session.step .attempt =
        session.letIn { session.breaker with calls := session.breaker.calls + 1 }
          session.breaker.generation) ∨
    (session.breaker.circuit = .opened ∧ session.breaker.recovered session.now = true ∧
      session.step .attempt =
        session.letIn
          { session.breaker with
            circuit := .halfOpen
            trials := 1
            generation := session.breaker.generation + 1
            announced := some .halfOpen
            calls := session.breaker.calls + 1 }
          (session.breaker.generation + 1)) ∨
    (session.breaker.circuit = .halfOpen ∧
      session.breaker.trials < session.breaker.trialLimit ∧
      session.step .attempt =
        session.letIn
          { session.breaker with
            trials := session.breaker.trials + 1
            calls := session.breaker.calls + 1 }
          session.breaker.generation) ∨
    ((session.breaker.circuit = .opened ∧ session.breaker.recovered session.now = false ∨
      session.breaker.circuit = .halfOpen ∧
        session.breaker.trialLimit ≤ session.breaker.trials) ∧
      session.step .attempt =
        { session with
          breaker := { session.breaker with rejections := session.breaker.rejections + 1 } }) := by
  rcases session.breaker.acquire_cases session.now with
    ⟨closed, acquireEq⟩ | ⟨opened, recovered, acquireEq⟩ | ⟨halfOpen, room, acquireEq⟩ |
      ⟨rejects, acquireEq⟩
  · refine Or.inl ⟨closed, ?_⟩
    rw [step, acquireEq]
    rfl
  · refine Or.inr (Or.inl ⟨opened, recovered, ?_⟩)
    have distinct : session.breaker.circuit ≠ .halfOpen := by simp [opened]
    rw [step, acquireEq, session.breaker.moveTo_of_ne distinct]
    rfl
  · refine Or.inr (Or.inr (Or.inl ⟨halfOpen, room, ?_⟩))
    rw [step, acquireEq]
    rfl
  · refine Or.inr (Or.inr (Or.inr ⟨rejects, ?_⟩))
    rw [step, acquireEq]
    rfl

/-- Everything that can come of the end of a call. -/
theorem step_settle_cases (session : Session) (number : Nat) (verdict : Verdict) :
    (∃ call ∈ session.inFlight, call.number = number ∧
      session.step (.settle number verdict) = session.settle call verdict) ∨
    session.step (.settle number verdict) = session := by
  cases found : session.call? number with
  | none =>
      right
      rw [step, found]
  | some call =>
      refine Or.inl ⟨call, List.mem_of_find?_eq_some found, ?_, ?_⟩
      · simpa using List.find?_some found
      · rw [step, found]

/-- The position changes only together with the generation, which never goes
back. -/
theorem step_period (session : Session) (event : Event) :
    ((session.step event).breaker.generation = session.breaker.generation ∧
      (session.step event).breaker.circuit = session.breaker.circuit) ∨
    session.breaker.generation < (session.step event).breaker.generation := by
  cases event with
  | attempt =>
      rcases session.step_attempt_cases with
        ⟨_, stepEq⟩ | ⟨_, _, stepEq⟩ | ⟨_, _, stepEq⟩ | ⟨_, stepEq⟩
      · rw [stepEq]
        exact Or.inl ⟨rfl, rfl⟩
      · rw [stepEq]
        exact Or.inr (Nat.lt_succ_self _)
      · rw [stepEq]
        exact Or.inl ⟨rfl, rfl⟩
      · rw [stepEq]
        exact Or.inl ⟨rfl, rfl⟩
  | settle number verdict =>
      rcases session.step_settle_cases number verdict with ⟨call, _, _, stepEq⟩ | stepEq
      · rw [stepEq]
        rcases session.breaker.report_period call.generation verdict session.now with
          same | next
        · exact Or.inl same
        · exact Or.inr (Nat.lt_of_lt_of_eq (Nat.lt_succ_self _) next.symm)
      · rw [stepEq]
        exact Or.inl ⟨rfl, rfl⟩
  | reset => exact Or.inr (reset_spec _).2.2.2
  | pass nanos => exact Or.inl ⟨rfl, rfl⟩

/-- At most one call is admitted by an event, in the generation that follows it. -/
theorem step_admissions (session : Session) (event : Event) :
    (session.step event).admissions = session.admissions ∨
      ∃ call : Call, (session.step event).admissions = call :: session.admissions ∧
        call.generation = (session.step event).breaker.generation := by
  cases event with
  | attempt =>
      rcases session.step_attempt_cases with
        ⟨_, stepEq⟩ | ⟨_, _, stepEq⟩ | ⟨_, _, stepEq⟩ | ⟨_, stepEq⟩
      · rw [stepEq]
        exact Or.inr ⟨_, rfl, rfl⟩
      · rw [stepEq]
        exact Or.inr ⟨_, rfl, rfl⟩
      · rw [stepEq]
        exact Or.inr ⟨_, rfl, rfl⟩
      · rw [stepEq]
        exact Or.inl rfl
  | settle number verdict =>
      rcases session.step_settle_cases number verdict with ⟨call, _, _, stepEq⟩ | stepEq
      · rw [stepEq]
        exact Or.inl rfl
      · rw [stepEq]
        exact Or.inl rfl
  | reset | pass => exact Or.inl rfl

/-- A property that every event preserves holds at the end of a run from a session
where it holds. -/
theorem run_preserves {property : Session → Prop} {session : Session} (initial : property session)
    (preserves : ∀ session event, property session → property (session.step event))
    (events : List Event) : property (session.run events) := by
  induction events generalizing session with
  | nil => exact initial
  | cons event rest ih => exact ih (preserves session event initial)

/-! ## The record -/

/-- Calls in flight were admitted, calls are told apart by their numbers, and no call
is of a generation to come. -/
structure Recorded (session : Session) : Prop where
  admitted : ∀ call ∈ session.inFlight, call ∈ session.admissions
  numbers : ∀ call ∈ session.admissions, call.number < session.admissions.length
  unique : ∀ first ∈ session.admissions, ∀ second ∈ session.admissions,
    first.number = second.number → first = second
  generations : ∀ call ∈ session.admissions, call.generation ≤ session.breaker.generation

namespace Recorded

variable {session : Session}

theorem letIn (recorded : Recorded session) {breaker : Breaker}
    (onward : session.breaker.generation ≤ breaker.generation) :
    Recorded (session.letIn breaker breaker.generation) where
  admitted := by
    intro call member
    rcases List.mem_cons.mp member with rfl | old
    · exact List.mem_cons_self
    · exact List.mem_cons_of_mem _ (recorded.admitted call old)
  numbers := by
    intro call member
    change call.number < session.admissions.length + 1
    rcases List.mem_cons.mp member with rfl | old
    · exact Nat.lt_succ_self _
    · exact Nat.lt_succ_of_lt (recorded.numbers call old)
  unique := by
    intro first first_mem second second_mem same
    rcases List.mem_cons.mp first_mem with rfl | first_old
    · rcases List.mem_cons.mp second_mem with rfl | second_old
      · rfl
      · exact absurd same.symm (Nat.ne_of_lt (recorded.numbers second second_old))
    · rcases List.mem_cons.mp second_mem with rfl | second_old
      · exact absurd same (Nat.ne_of_lt (recorded.numbers first first_old))
      · exact recorded.unique first first_old second second_old same
  generations := by
    intro call member
    rcases List.mem_cons.mp member with rfl | old
    · exact Nat.le_refl _
    · exact Nat.le_trans (recorded.generations call old) onward

/-- A change of the breaker that does not go back, and calls that ended. -/
theorem onward (recorded : Recorded session) {next : Session}
    (inFlight : ∀ call ∈ next.inFlight, call ∈ session.inFlight)
    (admissions : next.admissions = session.admissions)
    (generation : session.breaker.generation ≤ next.breaker.generation) : Recorded next := by
  constructor
  · intro call member
    rw [admissions]
    exact recorded.admitted call (inFlight call member)
  · rw [admissions]
    exact recorded.numbers
  · rw [admissions]
    exact recorded.unique
  · intro call member
    rw [admissions] at member
    exact Nat.le_trans (recorded.generations call member) generation

theorem step (recorded : Recorded session) (event : Event) : Recorded (session.step event) := by
  have generation_le : session.breaker.generation ≤ (session.step event).breaker.generation := by
    rcases session.step_period event with ⟨same, _⟩ | later
    · exact Nat.le_of_eq same.symm
    · exact Nat.le_of_lt later
  cases event with
  | attempt =>
      rcases session.step_attempt_cases with
        ⟨_, stepEq⟩ | ⟨_, _, stepEq⟩ | ⟨_, _, stepEq⟩ | ⟨_, stepEq⟩
      · rw [stepEq]
        exact recorded.letIn (Nat.le_refl _)
      · rw [stepEq]
        exact recorded.letIn (Nat.le_succ _)
      · rw [stepEq]
        exact recorded.letIn (Nat.le_refl _)
      · rw [stepEq]
        exact recorded.onward (fun _ => id) rfl (Nat.le_refl _)
  | settle number verdict =>
      rcases session.step_settle_cases number verdict with ⟨call, _, _, stepEq⟩ | stepEq
      · rw [stepEq] at generation_le ⊢
        exact recorded.onward (fun _ member => List.mem_of_mem_erase member) rfl generation_le
      · rw [stepEq]
        exact recorded
  | reset | pass => exact recorded.onward (fun _ => id) rfl generation_le

theorem start (threshold : Nat) (recovery : Span) (trialLimit : Nat) :
    Recorded (start threshold recovery trialLimit) := by
  constructor <;> exact fun _ member => absurd member List.not_mem_nil

theorem run (recorded : Recorded session) (events : List Event) : Recorded (session.run events) :=
  run_preserves recorded (fun _ event recorded => recorded.step event) events

/-- A call in flight is found by its number. -/
theorem step_settle (recorded : Recorded session) {call : Call} (member : call ∈ session.inFlight)
    (verdict : Verdict) :
    session.step (.settle call.number verdict) = session.settle call verdict := by
  have known : (session.call? call.number).isSome = true :=
    List.find?_isSome.mpr ⟨call, member, by simp⟩
  obtain ⟨found, foundEq⟩ := Option.isSome_iff_exists.mp known
  have foundMember : found ∈ session.inFlight := List.mem_of_find?_eq_some foundEq
  have sameNumber : found.number = call.number := by simpa using List.find?_some foundEq
  have same : found = call :=
    recorded.unique found (recorded.admitted found foundMember) call
      (recorded.admitted call member) sameNumber
  rw [Session.step, foundEq, same]

end Recorded

end Session

end RiskGate.Breaker
