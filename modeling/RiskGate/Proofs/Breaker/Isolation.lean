import RiskGate.Proofs.Breaker.Outcomes
import Mathlib.Data.List.Induction

/-!
# The time for which an open breaker isolates

From the instant at which it opens, a breaker rejects every call until the recovery
time has passed, and lets in the first call that is attempted after that.  Calls
that were admitted before it opened may still fail in the meantime; they belong to
earlier generations, so they neither lengthen nor shorten the wait.

The statements follow an open breaker along a list of events, from the state in
which it has just opened.  Only a reset, or an attempt after the wait, ends the
period.
-/

namespace RiskGate.Breaker.Session

/-! ## Runs -/

/-- The last of several events. -/
theorem run_concat (session : Session) (events : List Event) (event : Event) :
    session.run (events ++ [event]) = (session.run events).step event := by
  simp [run]

theorem run_append (session : Session) (first second : List Event) :
    session.run (first ++ second) = (session.run first).run second := by
  simp [run]

/-- The clock does not go back. -/
theorem now_le_step (session : Session) (event : Event) :
    session.now ≤ (session.step event).now := by
  cases event with
  | attempt =>
      rcases session.step_attempt_cases with
        ⟨_, stepEq⟩ | ⟨_, _, stepEq⟩ | ⟨_, _, stepEq⟩ | ⟨_, stepEq⟩ <;> simp [stepEq, letIn]
  | settle number verdict =>
      rcases session.step_settle_cases number verdict with ⟨_, _, _, stepEq⟩ | stepEq <;>
        simp [stepEq, Session.settle]
  | reset => exact Nat.le_refl _
  | pass nanos => exact Nat.le_add_right _ _

theorem now_le_run (session : Session) (events : List Event) :
    session.now ≤ (session.run events).now := by
  induction events generalizing session with
  | nil => exact Nat.le_refl _
  | cons event rest ih => exact Nat.le_trans (session.now_le_step event) (ih _)

theorem step_recovery (session : Session) (event : Event) :
    (session.step event).breaker.recovery = session.breaker.recovery := by
  cases event with
  | attempt =>
      rcases session.step_attempt_cases with
        ⟨_, stepEq⟩ | ⟨_, _, stepEq⟩ | ⟨_, _, stepEq⟩ | ⟨_, stepEq⟩ <;> simp [stepEq, letIn]
  | settle number verdict =>
      rcases session.step_settle_cases number verdict with ⟨call, _, _, stepEq⟩ | stepEq
      · rw [stepEq]
        exact session.breaker.report_recovery call.generation verdict session.now
      · rw [stepEq]
  | reset => exact moveTo_recovery _ _
  | pass nanos => rfl

theorem run_recovery (session : Session) (events : List Event) :
    (session.run events).breaker.recovery = session.breaker.recovery := by
  induction events generalizing session with
  | nil => rfl
  | cons event rest ih => exact (ih _).trans (session.step_recovery event)

/-! ## An open period -/

/-- The event opens the breaker. -/
def Opens (session : Session) (event : Event) : Prop :=
  session.breaker.circuit ≠ .opened ∧ (session.step event).breaker.circuit = .opened

instance (session : Session) (event : Event) : Decidable (session.Opens event) :=
  inferInstanceAs (Decidable (_ ∧ _))

/-- The breaker is still in the period that began with an opening. -/
structure Isolated (opening session : Session) : Prop where
  closed : Sealed session
  circuit : session.breaker.circuit = .opened
  lastFailure : session.breaker.lastFailure = some opening.now
  recovery : session.breaker.recovery = opening.breaker.recovery
  admissions : session.admissions = opening.admissions
  onward : opening.now ≤ session.now

namespace Isolated

variable {opening session : Session}

/-- A breaker opens by a failure, which is its last one. -/
theorem of_opens (closed : Sealed session) {event : Event} (opens : session.Opens event) :
    Isolated (session.step event) (session.step event) := by
  obtain ⟨away, opened⟩ := opens
  refine ⟨closed.step event, opened, ?_, rfl, rfl, Nat.le_refl _⟩
  cases event with
  | attempt =>
      exfalso
      rcases session.step_attempt_cases with
        ⟨_, stepEq⟩ | ⟨_, _, stepEq⟩ | ⟨_, _, stepEq⟩ | ⟨_, stepEq⟩
      · rw [stepEq] at opened
        exact away opened
      · simp [stepEq, letIn] at opened
      · rw [stepEq] at opened
        exact away opened
      · rw [stepEq] at opened
        exact away opened
  | settle number verdict =>
      rcases session.step_settle_cases number verdict with ⟨call, member, _, stepEq⟩ | stepEq
      · rw [stepEq] at opened ⊢
        by_cases present : call.generation = session.breaker.generation
        · rcases closed.settle_present_cases member present verdict with
            ⟨_, breakerEq⟩ | ⟨_, _, _, breakerEq⟩ | ⟨_, _, breakerEq⟩
          · simp [breakerEq] at opened
          · rw [breakerEq] at opened
            exact absurd opened away
          · rw [breakerEq, moveTo_lastFailure]
            rfl
        · rw [settle_stale present verdict] at opened
          exact absurd opened away
      · rw [stepEq] at opened
        exact absurd opened away
  | reset => exact absurd (session.breaker.reset_spec.1.symm.trans opened) (by decide)
  | pass nanos => exact absurd opened away

/-- As long as the breaker stays open, the period goes on: late failures leave the
instant of the last one that counted as it is. -/
theorem step_of_opened (isolated : Isolated opening session) {event : Event}
    (opened : (session.step event).breaker.circuit = .opened) :
    Isolated opening (session.step event) := by
  have closed := isolated.closed.step event
  have onward := Nat.le_trans isolated.onward (session.now_le_step event)
  have recovery := (session.step_recovery event).trans isolated.recovery
  cases event with
  | attempt =>
      rcases session.step_attempt_cases with
        ⟨circuit, _⟩ | ⟨_, _, stepEq⟩ | ⟨circuit, _⟩ | ⟨_, stepEq⟩
      · exact absurd (circuit.symm.trans isolated.circuit) (by decide)
      · simp [stepEq, letIn] at opened
      · exact absurd (circuit.symm.trans isolated.circuit) (by decide)
      · rw [stepEq] at closed onward recovery ⊢
        exact ⟨closed, isolated.circuit, isolated.lastFailure, recovery, isolated.admissions,
          onward⟩
  | settle number verdict =>
      rcases session.step_settle_cases number verdict with ⟨call, member, _, stepEq⟩ | stepEq
      · have breakerEq := settle_stale (isolated.closed.stale isolated.circuit member) verdict
        rw [stepEq] at closed onward recovery opened ⊢
        refine ⟨closed, opened, ?_, recovery, isolated.admissions, onward⟩
        rw [breakerEq]
        exact isolated.lastFailure
      · rw [stepEq]
        exact isolated
  | reset => exact absurd (session.breaker.reset_spec.1.symm.trans opened) (by decide)
  | pass nanos =>
      exact ⟨closed, opened, isolated.lastFailure, recovery, isolated.admissions, onward⟩

/-- The wait is over when the recovery time has passed since the opening. -/
theorem recovered_iff (isolated : Isolated opening session) :
    session.breaker.recovered session.now = true ↔
      opening.now + opening.breaker.recovery.nanos ≤ session.now := by
  have onward := isolated.onward
  simp only [recovered, isolated.lastFailure, isolated.recovery, decide_eq_true_eq]
  omega

/-- Before that an attempt is rejected, and changes nothing but the number of
rejections. -/
theorem rejects (isolated : Isolated opening session)
    (early : session.now < opening.now + opening.breaker.recovery.nanos) :
    (session.breaker.acquire session.now).2 = none ∧
      session.step .attempt =
        { session with
          breaker :=
            { session.breaker with rejections := session.breaker.rejections + 1 } } := by
  have waits : session.breaker.recovered session.now = false := by
    rw [← Bool.not_eq_true, isolated.recovered_iff]
    omega
  have acquireEq : session.breaker.acquire session.now = session.breaker.rejected := by
    simp [acquire, isolated.circuit, waits]
  rw [step, acquireEq]
  exact ⟨rfl, rfl⟩

/-- Nothing but a reset or an attempt after the wait ends the period. -/
theorem step (isolated : Isolated opening session) {event : Event} (notReset : event ≠ .reset)
    (early : event = .attempt →
      session.now < opening.now + opening.breaker.recovery.nanos) :
    Isolated opening (session.step event) := by
  apply isolated.step_of_opened
  cases event with
  | attempt =>
      rw [(isolated.rejects (early rfl)).2]
      exact isolated.circuit
  | settle number verdict =>
      rcases session.step_settle_cases number verdict with ⟨call, member, _, stepEq⟩ | stepEq
      · rw [stepEq, settle_stale (isolated.closed.stale isolated.circuit member) verdict]
        exact isolated.circuit
      · rw [stepEq]
        exact isolated.circuit
  | reset => exact absurd rfl notReset
  | pass nanos => exact isolated.circuit

/-- A run in which the breaker is open all along stays in the period. -/
theorem run_of_opened (isolated : Isolated opening session) (later : List Event)
    (opened : ∀ before, before <+: later → (session.run before).breaker.circuit = .opened) :
    Isolated opening (session.run later) := by
  induction later using List.reverseRecOn with
  | nil => exact isolated
  | append_singleton rest event ih =>
      have before : Isolated opening (session.run rest) := by
        apply ih
        intro front within
        exact opened front (within.trans (List.prefix_append _ _))
      have last := opened (rest ++ [event]) (List.prefix_refl _)
      rw [run_concat] at last ⊢
      exact before.step_of_opened last

/-- A run without a reset, in which nobody attempts a call after the wait, stays in
the period. -/
theorem run (isolated : Isolated opening session) (later : List Event)
    (noReset : .reset ∉ later)
    (early : ∀ before, before ++ [.attempt] <+: later →
      (session.run before).now < opening.now + opening.breaker.recovery.nanos) :
    Isolated opening (session.run later) := by
  induction later using List.reverseRecOn with
  | nil => exact isolated
  | append_singleton rest event ih =>
      have before : Isolated opening (session.run rest) := by
        apply ih
        · exact fun member => noReset (List.mem_append_left _ member)
        · intro front within
          exact early front (within.trans (List.prefix_append _ _))
      rw [run_concat]
      apply before.step
      · rintro rfl
        exact noReset (by simp)
      · rintro rfl
        exact early rest (List.prefix_refl _)

end Isolated

/-! ## The law -/

/-- What holds of a breaker with a recovery time that has just opened, at the instant
of the state. -/
structure IsolationLaw (recovery : Span) (opening : Session) : Prop where
  /-- As long as it stays open, its last failure is the one that opened it. -/
  dated : ∀ later,
    (∀ before, before <+: later → (opening.run before).breaker.circuit = .opened) →
      (opening.run later).breaker.lastFailure = some opening.now
  /-- Until the recovery time has passed, and without a reset, it is open, has let
  nobody in, and rejects every attempt, which changes the number of rejections
  only. -/
  rejects : ∀ later, .reset ∉ later →
    (opening.run later).now < opening.now + recovery.nanos →
      (opening.run later).breaker.circuit = .opened ∧
      (opening.run later).admissions = opening.admissions ∧
      ((opening.run later).breaker.acquire (opening.run later).now).2 = none ∧
      (opening.run later).step .attempt =
        { opening.run later with
          breaker :=
            { (opening.run later).breaker with
              rejections := (opening.run later).breaker.rejections + 1 } }
  /-- The first attempt after that, if there was no reset, is let in as a trial. -/
  recovers : ∀ later, .reset ∉ later →
    (∀ before, before ++ [.attempt] <+: later →
      (opening.run before).now < opening.now + recovery.nanos) →
    opening.now + recovery.nanos ≤ (opening.run later).now →
      ((opening.run later).breaker.acquire (opening.run later).now).2 ≠ none ∧
      ((opening.run later).step .attempt).breaker.circuit = .halfOpen ∧
      ∃ call, ((opening.run later).step .attempt).admissions = call :: opening.admissions ∧
        call ∈ ((opening.run later).step .attempt).inFlight

/-- An attempt after the wait is let in. -/
theorem Isolated.recovers {opening session : Session} (isolated : Isolated opening session)
    (late : opening.now + opening.breaker.recovery.nanos ≤ session.now) :
    (session.breaker.acquire session.now).2 ≠ none ∧
      (session.step .attempt).breaker.circuit = .halfOpen ∧
      ∃ call, (session.step .attempt).admissions = call :: opening.admissions ∧
        call ∈ (session.step .attempt).inFlight := by
  have recovered := isolated.recovered_iff.mpr late
  have opened := isolated.circuit
  rcases session.step_attempt_cases with
    ⟨closed, _⟩ | ⟨_, _, stepEq⟩ | ⟨halfOpen, _⟩ | ⟨⟨_, waits⟩ | ⟨halfOpen, _⟩, _⟩
  · exact absurd (closed.symm.trans opened) (by decide)
  · rw [stepEq]
    refine ⟨?_, rfl, _, congrArg (_ :: ·) isolated.admissions, List.mem_cons_self⟩
    simp [acquire, opened, recovered, Breaker.admitted]
  · exact absurd (halfOpen.symm.trans opened) (by decide)
  · exact absurd (recovered.symm.trans waits) (by decide)
  · exact absurd (halfOpen.symm.trans opened) (by decide)

/-- Whenever a breaker opens, it isolates for the recovery time from that instant,
and no longer. -/
theorem isolation_law (threshold : Nat) (recovery : Span) (trialLimit : Nat)
    (earlier : List Event) (trip : Event)
    (opens : ((start threshold recovery trialLimit).run earlier).Opens trip) :
    IsolationLaw recovery (((start threshold recovery trialLimit).run earlier).step trip) := by
  have closed : Sealed ((start threshold recovery trialLimit).run earlier) :=
    (Sealed.start threshold recovery trialLimit).run earlier
  have isolated := Isolated.of_opens closed opens
  have setting := (step_recovery _ trip).trans
    (run_recovery (start threshold recovery trialLimit) earlier)
  generalize ((start threshold recovery trialLimit).run earlier).step trip = opening
    at isolated setting
  have recoveryEq : opening.breaker.recovery = recovery := setting
  subst recoveryEq
  constructor
  · intro later opened
    exact (isolated.run_of_opened later opened).lastFailure
  · intro later noReset early
    have still : Isolated opening (opening.run later) := by
      apply isolated.run later noReset
      rintro before ⟨rest, rfl⟩
      rw [List.append_assoc, run_append] at early
      exact Nat.lt_of_le_of_lt (now_le_run _ _) early
    obtain ⟨answer, stepEq⟩ := still.rejects early
    exact ⟨still.circuit, still.admissions, answer, stepEq⟩
  · intro later noReset early late
    exact (isolated.run later noReset early).recovers late

/-- Three calls, of which one has failed. -/
def twoLeft : List Event := [.attempt, .attempt, .attempt, .settle 0 .failed, .pass 5]

/-- The second failure opens the breaker at the instant 5.  The third call fails four
nanoseconds later, which does not put the end of the wait off: an attempt is still
rejected at 14 and let in at 15. -/
theorem isolation_law_twoLeft :
    ((start 2 ⟨10⟩ 1).run twoLeft).Opens (.settle 1 .dropped) ∧
    IsolationLaw ⟨10⟩ (((start 2 ⟨10⟩ 1).run twoLeft).step (.settle 1 .dropped)) ∧
    ((start 2 ⟨10⟩ 1).run (twoLeft ++ [.settle 1 .dropped, .pass 4, .settle 2 .failed, .pass 5,
      .attempt])).breaker.circuit = .opened ∧
    ((start 2 ⟨10⟩ 1).run (twoLeft ++ [.settle 1 .dropped, .pass 4, .settle 2 .failed, .pass 5,
      .attempt, .pass 1, .attempt])).breaker.circuit = .halfOpen :=
  ⟨by decide, isolation_law 2 ⟨10⟩ 1 twoLeft (.settle 1 .dropped) (by decide), by decide,
    by decide⟩

end RiskGate.Breaker.Session
