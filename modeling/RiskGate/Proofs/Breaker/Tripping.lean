import RiskGate.Proofs.Breaker.Outcomes

/-!
# When a breaker trips

A closed breaker counts failures in a row.  The count is compared here with the
record of outcomes: of all that was reported, by calls of the present generation
only, and in the order of the reports, it is the length of the run of failures at
the end.  The breaker trips by the failure that makes this run as long as the
threshold, and by nothing else.

The count stops at the longest number that a word of 32 bits holds.  A threshold is
such a word, so a closed breaker trips before its count could stop.
-/

namespace RiskGate.Breaker.Session

/-- The outcomes that calls of a generation reported, the latest first. -/
def outcomesOf (generation : Nat) (session : Session) : List Verdict :=
  (session.reports.filter (·.1.generation == generation)).map Prod.snd

/-- The failures at the end of what calls of a generation reported.  A call that was
given up counts as one. -/
def failureStreak (generation : Nat) (session : Session) : Nat :=
  ((session.outcomesOf generation).takeWhile (· != .succeeded)).length

section Streaks

variable (session : Session) {generation : Nat} {call : Call}

theorem failureStreak_congr {next : Session} (reports : next.reports = session.reports) :
    next.failureStreak generation = session.failureStreak generation := by
  rw [failureStreak, outcomesOf, reports]
  rfl

theorem failureStreak_settle_of_ne (other : call.generation ≠ generation) (verdict : Verdict) :
    (session.settle call verdict).failureStreak generation =
      session.failureStreak generation := by
  simp [failureStreak, outcomesOf, Session.settle, other]

theorem failureStreak_settle_succeeded (same : call.generation = generation) :
    (session.settle call .succeeded).failureStreak generation = 0 := by
  simp [failureStreak, outcomesOf, Session.settle, same]

theorem failureStreak_settle_failure (same : call.generation = generation) {verdict : Verdict}
    (failure : verdict ≠ .succeeded) :
    (session.settle call verdict).failureStreak generation =
      session.failureStreak generation + 1 := by
  simp [failureStreak, outcomesOf, Session.settle, same, failure]

/-- Nobody of a generation to come has reported anything. -/
theorem failureStreak_eq_zero (past : ∀ report ∈ session.reports, report.1.generation < generation) :
    session.failureStreak generation = 0 := by
  have none : session.reports.filter (·.1.generation == generation) = [] := by
    rw [List.filter_eq_nil_iff]
    intro report member
    simpa using Nat.ne_of_lt (past report member)
  simp [failureStreak, outcomesOf, none]

end Streaks

/-- While closed, the count of failures is the run of failures of the present
generation and has not reached the limit.  Otherwise it has. -/
structure Metered (limit : Nat) (session : Session) : Prop where
  closed : Sealed session
  threshold : session.breaker.threshold = limit
  reported : ∀ report ∈ session.reports, report.1.generation ≤ session.breaker.generation
  counted : session.breaker.circuit = .closed →
    session.breaker.failureRun = session.failureStreak session.breaker.generation ∧
      session.breaker.failureRun < limit
  reached : session.breaker.circuit ≠ .closed → limit ≤ session.breaker.failureRun
  bounded : session.breaker.failureRun ≤ longestRun

namespace Metered

variable {limit : Nat} {session next : Session}

theorem start (threshold : Nat) (recovery : Span) (trialLimit : Nat) :
    Metered (max threshold 1) (start threshold recovery trialLimit) where
  closed := .start threshold recovery trialLimit
  threshold := rfl
  reported := by simp [Session.start]
  counted := by
    intro _
    constructor
    · rfl
    · exact Nat.lt_of_lt_of_le Nat.one_pos (Nat.le_max_right _ _)
  reached := fun away => absurd rfl away
  bounded := Nat.zero_le _

/-- A change that concerns neither the position nor the failures of the present
generation. -/
theorem of_same (metered : Metered limit session) (closed : Sealed next)
    (reported : ∀ report ∈ next.reports, report.1.generation ≤ next.breaker.generation)
    (threshold : next.breaker.threshold = session.breaker.threshold)
    (circuit : next.breaker.circuit = session.breaker.circuit)
    (failureRun : next.breaker.failureRun = session.breaker.failureRun)
    (streak : next.failureStreak next.breaker.generation =
      session.failureStreak session.breaker.generation) : Metered limit next where
  closed := closed
  threshold := threshold.trans metered.threshold
  reported := reported
  counted := by
    rw [circuit, failureRun, streak]
    exact metered.counted
  reached := by
    rw [circuit, failureRun]
    exact metered.reached
  bounded := by
    rw [failureRun]
    exact metered.bounded

/-- A closed breaker without failures, in a generation that has reported nothing but
a success. -/
theorem of_clear (closed : Sealed next) (threshold : next.breaker.threshold = limit)
    (reported : ∀ report ∈ next.reports, report.1.generation ≤ next.breaker.generation)
    (circuit : next.breaker.circuit = .closed) (failureRun : next.breaker.failureRun = 0)
    (streak : next.failureStreak next.breaker.generation = 0) (positive : 0 < limit) :
    Metered limit next where
  closed := closed
  threshold := threshold
  reported := reported
  counted := by
    intro _
    rw [failureRun, streak]
    exact ⟨rfl, positive⟩
  reached := fun away => absurd circuit away
  bounded := by
    rw [failureRun]
    exact Nat.zero_le _

/-- A breaker that is not closed, after failures as many as the limit. -/
theorem of_away (closed : Sealed next) (threshold : next.breaker.threshold = limit)
    (reported : ∀ report ∈ next.reports, report.1.generation ≤ next.breaker.generation)
    (circuit : next.breaker.circuit ≠ .closed) (reached : limit ≤ next.breaker.failureRun)
    (bounded : next.breaker.failureRun ≤ longestRun) : Metered limit next where
  closed := closed
  threshold := threshold
  reported := reported
  counted := fun back => absurd back circuit
  reached := fun _ => reached
  bounded := bounded

/-- Reports are made by calls that were admitted before. -/
theorem reported_settle (metered : Metered limit session) {call : Call}
    (member : call ∈ session.inFlight) (verdict : Verdict) :
    ∀ report ∈ (session.settle call verdict).reports,
      report.1.generation ≤ session.breaker.generation := by
  have recorded := metered.closed.recorded
  intro report known
  rcases List.mem_cons.mp known with rfl | old
  · exact recorded.generations call (recorded.admitted call member)
  · exact metered.reported report old

/-- No report is of a generation to come. -/
theorem reported_step (metered : Metered limit session) (event : Event) :
    ∀ report ∈ (session.step event).reports,
      report.1.generation ≤ (session.step event).breaker.generation := by
  have onward : session.breaker.generation ≤ (session.step event).breaker.generation := by
    rcases session.step_period event with ⟨same, _⟩ | later
    · exact Nat.le_of_eq same.symm
    · exact Nat.le_of_lt later
  intro report member
  apply Nat.le_trans _ onward
  cases event with
  | attempt =>
      rcases session.step_attempt_cases with
        ⟨_, stepEq⟩ | ⟨_, _, stepEq⟩ | ⟨_, _, stepEq⟩ | ⟨_, stepEq⟩ <;>
      · rw [stepEq] at member
        exact metered.reported report member
  | settle number verdict =>
      rcases session.step_settle_cases number verdict with ⟨call, inFlight, _, stepEq⟩ | stepEq
      · rw [stepEq] at member
        exact metered.reported_settle inFlight verdict report member
      · rw [stepEq] at member
        exact metered.reported report member
  | reset | pass => exact metered.reported report member

theorem attempt (metered : Metered limit session) : Metered limit (session.step .attempt) := by
  have closed := metered.closed.step .attempt
  have reported := metered.reported_step .attempt
  rcases session.step_attempt_cases with
    ⟨_, stepEq⟩ | ⟨opened, _, stepEq⟩ | ⟨_, _, stepEq⟩ | ⟨_, stepEq⟩
  · rw [stepEq] at closed reported ⊢
    exact metered.of_same closed reported rfl rfl rfl (session.failureStreak_congr rfl)
  · rw [stepEq] at closed reported ⊢
    apply of_away closed metered.threshold reported
    · simp [letIn]
    · exact metered.reached (by simp [opened])
    · exact metered.bounded
  · rw [stepEq] at closed reported ⊢
    exact metered.of_same closed reported rfl rfl rfl (session.failureStreak_congr rfl)
  · rw [stepEq] at closed reported ⊢
    exact metered.of_same closed reported rfl rfl rfl (session.failureStreak_congr rfl)

/-- A failure that counts is counted, short of the longest run. -/
theorem noteFailure_failureRun (metered : Metered limit session) (small : limit ≤ longestRun)
    (circuit : session.breaker.circuit = .closed) :
    (session.breaker.noteFailure session.now).failureRun =
      session.failureStreak session.breaker.generation + 1 := by
  obtain ⟨counted, short⟩ := metered.counted circuit
  simp only [noteFailure]
  omega

/-- A failure that counts brings a breaker that is not closed no nearer to the limit,
and none below it. -/
theorem le_noteFailure_failureRun (metered : Metered limit session) (small : limit ≤ longestRun)
    (trips : session.breaker.circuit = .closed →
      session.breaker.threshold ≤ (session.breaker.noteFailure session.now).failureRun) :
    limit ≤ (session.breaker.noteFailure session.now).failureRun := by
  by_cases circuit : session.breaker.circuit = .closed
  · rw [← metered.threshold]
    exact trips circuit
  · have reached := metered.reached circuit
    simp only [noteFailure]
    omega

theorem settle_present (metered : Metered limit session) (positive : 0 < limit)
    (small : limit ≤ longestRun) {call : Call} {verdict : Verdict}
    (member : call ∈ session.inFlight) (present : call.generation = session.breaker.generation)
    (closed : Sealed (session.settle call verdict))
    (reported : ∀ report ∈ (session.settle call verdict).reports,
      report.1.generation ≤ (session.settle call verdict).breaker.generation) :
    Metered limit (session.settle call verdict) := by
  rcases metered.closed.settle_present_cases member present verdict with
    ⟨rfl, breakerEq⟩ | ⟨failure, circuit, short, breakerEq⟩ | ⟨_, trips, breakerEq⟩
  · apply of_clear closed _ reported _ _ _ positive
    · rw [breakerEq, moveTo_threshold]
      exact metered.threshold
    · rw [breakerEq, moveTo_circuit]
    · rw [breakerEq, moveTo_failureRun]
      rfl
    · -- A breaker that was closed goes on with its generation; a trial ends it.
      by_cases circuit : session.breaker.noteSuccess.circuit = .closed
      · rw [breakerEq, moveTo_of_eq _ circuit]
        exact session.failureStreak_settle_succeeded present
      · apply failureStreak_eq_zero
        rw [breakerEq, moveTo_of_ne _ circuit]
        intro report known
        exact Nat.lt_succ_of_le (metered.reported_settle member .succeeded report known)
  · constructor
    · exact closed
    · rw [breakerEq]
      exact metered.threshold
    · exact reported
    · intro _
      rw [breakerEq]
      constructor
      · rw [metered.noteFailure_failureRun small circuit]
        exact (session.failureStreak_settle_failure present failure).symm
      · rw [← metered.threshold]
        exact short
    · rw [breakerEq]
      exact fun away => absurd circuit away
    · rw [breakerEq]
      exact Nat.min_le_right _ _
  · apply of_away closed _ reported
    · simp [breakerEq]
    · rw [breakerEq, moveTo_failureRun]
      exact metered.le_noteFailure_failureRun small trips
    · rw [breakerEq, moveTo_failureRun]
      exact Nat.min_le_right _ _
    · rw [breakerEq, moveTo_threshold]
      exact metered.threshold

theorem settle (metered : Metered limit session) (positive : 0 < limit)
    (small : limit ≤ longestRun) {call : Call} {verdict : Verdict}
    (member : call ∈ session.inFlight) (closed : Sealed (session.settle call verdict))
    (reported : ∀ report ∈ (session.settle call verdict).reports,
      report.1.generation ≤ (session.settle call verdict).breaker.generation) :
    Metered limit (session.settle call verdict) := by
  by_cases present : call.generation = session.breaker.generation
  · exact metered.settle_present positive small member present closed reported
  · have breakerEq := settle_stale present verdict
    have generation : (session.settle call verdict).breaker.generation =
        session.breaker.generation := by rw [breakerEq]
    apply metered.of_same closed reported
    · rw [breakerEq]
    · rw [breakerEq]
    · rw [breakerEq]
    · rw [generation]
      exact session.failureStreak_settle_of_ne present verdict

/-- Every event keeps the count. -/
theorem step (metered : Metered limit session) (positive : 0 < limit)
    (small : limit ≤ longestRun) (event : Event) : Metered limit (session.step event) := by
  have closed := metered.closed.step event
  have reported := metered.reported_step event
  cases event with
  | attempt => exact metered.attempt
  | settle number verdict =>
      rcases session.step_settle_cases number verdict with ⟨call, member, _, stepEq⟩ | stepEq
      · rw [stepEq] at closed reported ⊢
        exact metered.settle positive small member closed reported
      · rw [stepEq]
        exact metered
  | reset =>
      obtain ⟨circuit, _, _, later⟩ := session.breaker.reset_spec
      apply of_clear closed _ reported circuit rfl _ positive
      · exact (moveTo_threshold _ _).trans metered.threshold
      · apply failureStreak_eq_zero
        intro report known
        exact Nat.lt_of_le_of_lt (metered.reported report known) later
  | pass nanos =>
      exact metered.of_same closed reported rfl rfl rfl (session.failureStreak_congr rfl)

theorem run (metered : Metered limit session) (positive : 0 < limit)
    (small : limit ≤ longestRun) (events : List Event) : Metered limit (session.run events) :=
  run_preserves metered (fun _ event metered => metered.step positive small event) events

end Metered

/-! ## The law -/

/-- What holds of the failures of a breaker whose threshold is a limit. -/
structure TripLaw (limit : Nat) (session : Session) : Prop where
  /-- While closed, the count is the run of failures at the end of what calls of the
  present generation reported, and is below the limit. -/
  counted : session.breaker.circuit = .closed →
    session.breaker.failureRun = session.failureStreak session.breaker.generation ∧
      session.breaker.failureRun < limit
  /-- A closed breaker stops being closed exactly by the failure of a call of the
  present generation that makes the run as long as the limit. -/
  trips : session.breaker.circuit = .closed → ∀ event,
    (session.step event).breaker.circuit ≠ .closed ↔
      ∃ call ∈ session.inFlight, ∃ verdict, verdict ≠ .succeeded ∧
        event = .settle call.number verdict ∧
        call.generation = session.breaker.generation ∧
        (session.step event).failureStreak session.breaker.generation = limit
  /-- Otherwise the count has reached the limit, and goes no further than a word of
  32 bits can. -/
  reached : session.breaker.circuit ≠ .closed →
    limit ≤ session.breaker.failureRun ∧ session.breaker.failureRun ≤ longestRun

/-- A closed breaker is left closed by everything but the end of a call. -/
theorem settles_of_trips {session : Session} (circuit : session.breaker.circuit = .closed)
    {event : Event} (trips : (session.step event).breaker.circuit ≠ .closed) :
    ∃ call ∈ session.inFlight, ∃ verdict, event = .settle call.number verdict ∧
      session.step event = session.settle call verdict := by
  cases event with
  | attempt =>
      exfalso
      rcases session.step_attempt_cases with
        ⟨_, stepEq⟩ | ⟨opened, _, _⟩ | ⟨halfOpen, _, _⟩ | ⟨_, stepEq⟩
      · rw [stepEq] at trips
        exact trips circuit
      · exact absurd (circuit.symm.trans opened) (by decide)
      · exact absurd (circuit.symm.trans halfOpen) (by decide)
      · rw [stepEq] at trips
        exact trips circuit
  | settle number verdict =>
      rcases session.step_settle_cases number verdict with ⟨call, member, rfl, stepEq⟩ | stepEq
      · exact ⟨call, member, verdict, rfl, stepEq⟩
      · rw [stepEq] at trips
        exact absurd circuit trips
  | reset => exact absurd session.breaker.reset_spec.1 trips
  | pass nanos => exact absurd circuit trips

/-- The end of a call of a closed breaker moves it exactly when it is the failure that
makes the run of the present generation as long as the limit. -/
theorem Metered.settle_trips_iff {limit : Nat} {session : Session}
    (metered : Metered limit session) (small : limit ≤ longestRun)
    (circuit : session.breaker.circuit = .closed) {call : Call}
    (member : call ∈ session.inFlight) (verdict : Verdict) :
    (session.settle call verdict).breaker.circuit ≠ .closed ↔
      verdict ≠ .succeeded ∧ call.generation = session.breaker.generation ∧
        (session.settle call verdict).failureStreak session.breaker.generation = limit := by
  by_cases present : call.generation = session.breaker.generation
  · obtain ⟨counted, short⟩ := metered.counted circuit
    have runEq := metered.noteFailure_failureRun small circuit
    rcases metered.closed.settle_present_cases member present verdict with
      ⟨rfl, breakerEq⟩ | ⟨failure, _, below, breakerEq⟩ | ⟨failure, trips, breakerEq⟩
    · simp [breakerEq]
    · have stays : (session.settle call verdict).breaker.circuit = .closed := by
        rw [breakerEq]
        exact circuit
      have streak := session.failureStreak_settle_failure present failure
      rw [metered.threshold, runEq] at below
      rw [streak]
      constructor
      · intro moves
        exact absurd stays moves
      · rintro ⟨_, _, full⟩
        omega
    · have streak := session.failureStreak_settle_failure present failure
      have full := trips circuit
      rw [metered.threshold, runEq] at full
      constructor
      · intro _
        refine ⟨failure, present, ?_⟩
        omega
      · intro _
        simp [breakerEq]
  · have breakerEq := settle_stale present verdict
    constructor
    · intro moves
      rw [breakerEq] at moves
      exact absurd circuit moves
    · rintro ⟨_, same, _⟩
      exact absurd same present

/-- In every state that a breaker can reach, its count of failures is the run of
failures that its record shows, and it trips when this run is as long as the
threshold. -/
theorem trip_law (threshold : UInt32) (recovery : Span) (trialLimit : Nat) (events : List Event) :
    TripLaw (max threshold.toNat 1)
      ((start threshold.toNat recovery trialLimit).run events) := by
  have positive : 0 < max threshold.toNat 1 := Nat.lt_of_lt_of_le Nat.one_pos (Nat.le_max_right _ _)
  have small : max threshold.toNat 1 ≤ longestRun := by
    apply Nat.max_le.mpr
    constructor
    · exact Nat.le_sub_one_of_lt threshold.toNat_lt_size
    · decide
  have metered : Metered (max threshold.toNat 1)
      ((start threshold.toNat recovery trialLimit).run events) :=
    (Metered.start threshold.toNat recovery trialLimit).run positive small events
  constructor
  · exact metered.counted
  · intro circuit event
    constructor
    · intro trips
      obtain ⟨call, member, verdict, eventEq, stepEq⟩ := settles_of_trips circuit trips
      rw [stepEq] at trips ⊢
      obtain ⟨failure, present, full⟩ :=
        (metered.settle_trips_iff small circuit member verdict).mp trips
      exact ⟨call, member, verdict, failure, eventEq, present, full⟩
    · rintro ⟨call, member, verdict, failure, rfl, present, full⟩
      rw [metered.closed.recorded.step_settle member] at full ⊢
      exact (metered.settle_trips_iff small circuit member verdict).mpr ⟨failure, present, full⟩
  · intro away
    exact ⟨metered.reached away, metered.bounded⟩

end RiskGate.Breaker.Session
