import RiskGate.Proofs.Breaker.Outcomes

/-!
# Stale outcomes

A call goes out of date when the breaker changes its position, or is reset, after
the call was admitted.  What becomes of such a call has no influence: a run takes the
same course whether its outcome is reported as a success or a failure, at once, late
or never.  Only the totals of successes and failures tell the difference.

A run is compared with its timely part, from which all outcomes of calls that are out
of date are left out.  Both take the same course, so two runs with the same timely
part do.  Whether a call is out of date is read off the history: it was admitted
before the latest change of position or reset.
-/

namespace RiskGate.Breaker

/-! ## The conduct of a breaker -/

/-- A breaker without its totals of outcomes. -/
def conduct (breaker : Breaker) : Breaker :=
  { breaker with successes := 0, failures := 0 }

section Conduct

variable (breaker : Breaker)

theorem moveTo_conduct (target : Circuit) :
    (breaker.moveTo target).conduct = breaker.conduct.moveTo target := by
  by_cases same : breaker.circuit = target <;> simp [moveTo, conduct, same]

/-- Admission does not look at the totals of outcomes. -/
theorem acquire_conduct (now : Nat) :
    breaker.conduct.acquire now =
      ((breaker.acquire now).1.conduct, (breaker.acquire now).2) := by
  have circuitEq : breaker.conduct.circuit = breaker.circuit := rfl
  rcases breaker.acquire_cases now with
    ⟨circuit, acquireEq⟩ | ⟨circuit, recovered, acquireEq⟩ | ⟨circuit, room, acquireEq⟩ |
      ⟨⟨circuit, waits⟩ | ⟨circuit, full⟩, acquireEq⟩ <;> rw [acquireEq]
  · simp only [acquire, circuitEq, circuit]
    rfl
  · have recovered : breaker.conduct.recovered now = true := recovered
    simp only [acquire, circuitEq, circuit, recovered, if_true, ← moveTo_conduct]
    rfl
  · have room : breaker.conduct.trials < breaker.conduct.trialLimit := room
    simp only [acquire, circuitEq, circuit, if_pos room]
    rfl
  · have waits : breaker.conduct.recovered now = false := waits
    simp only [acquire, circuitEq, circuit, waits]
    rfl
  · have full : ¬ breaker.conduct.trials < breaker.conduct.trialLimit := Nat.not_lt_of_le full
    simp only [acquire, circuitEq, circuit, if_neg full]
    rfl

/-- The effect of an outcome does not depend on the totals of outcomes. -/
theorem report_conduct (generation : Nat) (verdict : Verdict) (now : Nat) :
    (breaker.conduct.report generation verdict now).conduct =
      (breaker.report generation verdict now).conduct := by
  by_cases present : generation = breaker.generation
  · subst present
    cases circuit : breaker.circuit <;> cases verdict <;>
      simp [report, succeed, fail, conduct, moveTo, circuit]
    all_goals split <;> simp
  · have stale : generation ≠ breaker.conduct.generation := present
    rw [breaker.report_of_ne present, breaker.conduct.report_of_ne stale]
    rfl

theorem reset_conduct : breaker.conduct.reset = breaker.reset.conduct := by
  by_cases closed : breaker.circuit = .closed <;> simp [reset, moveTo, conduct, closed]

end Conduct

namespace Session

/-! ## Outcomes that are out of date -/

/-- The number of calls admitted before the latest change of position or reset, after
an event.  The calls with smaller numbers are out of date. -/
def markAfter (session : Session) (mark : Nat) (event : Event) : Nat :=
  if event = .reset ∨ (session.step event).breaker.circuit ≠ session.breaker.circuit then
    session.admissions.length
  else mark

/-- The event is the end of a call that is out of date. -/
def Event.outOfDate (mark : Nat) : Event → Bool
  | .settle number _ => number < mark
  | _ => false

/-- The events that are left when the ends of calls that are out of date are left
out. -/
def timely (session : Session) (mark : Nat) : List Event → List Event
  | [] => []
  | event :: rest =>
      let following := timely (session.step event) (session.markAfter mark event) rest
      if event.outOfDate mark then following else event :: following

/-- What an attempt is answered: the generation of the admission, or nothing. -/
def answer (session : Session) : Event → Option Nat
  | .attempt => (session.breaker.acquire session.now).2
  | _ => none

/-- The course of a run: the answer to every event that is not the end of a call out
of date, and the conduct of the breaker after it. -/
def course (session : Session) (mark : Nat) : List Event → List (Option Nat × Breaker)
  | [] => []
  | event :: rest =>
      let following := course (session.step event) (session.markAfter mark event) rest
      if event.outOfDate mark then following
      else (session.answer event, (session.step event).breaker.conduct) :: following

/-- The number of a call that is let in. -/
theorem number_of_admitted {session : Session} {event : Event} {call : Call}
    (admitted : (session.step event).admissions = call :: session.admissions) :
    call.number = session.admissions.length := by
  cases event with
  | attempt =>
      rcases session.step_attempt_cases with
        ⟨_, stepEq⟩ | ⟨_, _, stepEq⟩ | ⟨_, _, stepEq⟩ | ⟨_, stepEq⟩
      · rw [stepEq] at admitted
        rw [← (List.cons.inj admitted).1]
      · rw [stepEq] at admitted
        rw [← (List.cons.inj admitted).1]
      · rw [stepEq] at admitted
        rw [← (List.cons.inj admitted).1]
      · simp [stepEq] at admitted
  | settle number verdict =>
      rcases session.step_settle_cases number verdict with ⟨_, _, _, stepEq⟩ | stepEq
      · simp [stepEq, Session.settle] at admitted
      · simp [stepEq] at admitted
  | reset | pass => simp [Session.step] at admitted

/-- Whoever is out of date belongs to an earlier generation. -/
structure Dated (mark : Nat) (session : Session) : Prop where
  recorded : Recorded session
  mark_le : mark ≤ session.admissions.length
  outdated : ∀ call ∈ session.admissions, call.number < mark →
    call.generation < session.breaker.generation

namespace Dated

variable {mark : Nat} {session : Session}

theorem start (threshold : Nat) (recovery : Span) (trialLimit : Nat) :
    Dated 0 (start threshold recovery trialLimit) where
  recorded := .start threshold recovery trialLimit
  mark_le := Nat.le_refl _
  outdated := nofun

theorem mark_le_markAfter (dated : Dated mark session) (event : Event) :
    mark ≤ session.markAfter mark event := by
  unfold markAfter
  split
  · exact dated.mark_le
  · exact Nat.le_refl _

/-- A change of position begins a generation, and so does a reset; both leave all the
calls that were admitted before in an earlier one. -/
theorem step (dated : Dated mark session) (event : Event) :
    Dated (session.markAfter mark event) (session.step event) := by
  have grows : session.admissions.length ≤ (session.step event).admissions.length := by
    rcases session.step_admissions event with same | ⟨_, admitted, _⟩
    · exact Nat.le_of_eq (congrArg _ same.symm)
    · simp [admitted]
  have before : ∀ call ∈ (session.step event).admissions,
      call.number < session.admissions.length → call ∈ session.admissions := by
    intro call member early
    rcases session.step_admissions event with same | ⟨entered, admitted, _⟩
    · exact same ▸ member
    · rw [admitted] at member
      rcases List.mem_cons.mp member with rfl | old
      · exact absurd (number_of_admitted admitted) (Nat.ne_of_lt early)
      · exact old
  constructor
  · exact dated.recorded.step event
  · unfold markAfter
    split
    · exact grows
    · exact Nat.le_trans dated.mark_le grows
  · intro call member early
    unfold markAfter at early
    split at early
    case isTrue moves =>
      have later : session.breaker.generation < (session.step event).breaker.generation := by
        rcases moves with rfl | moves
        · exact (reset_spec _).2.2.2
        · rcases session.step_period event with ⟨_, circuit⟩ | later
          · exact absurd circuit moves
          · exact later
      exact Nat.lt_of_le_of_lt (dated.recorded.generations call (before call member early)) later
    case isFalse =>
      have old := before call member (Nat.lt_of_lt_of_le early dated.mark_le)
      have earlier := dated.outdated call old early
      rcases session.step_period event with ⟨generation, _⟩ | later
      · exact Nat.lt_of_lt_of_eq earlier generation.symm
      · exact Nat.lt_trans earlier later

/-- The end of a call that is out of date. -/
theorem step_outOfDate (dated : Dated mark session) {event : Event}
    (outOfDate : event.outOfDate mark = true) :
    (session.step event).breaker.conduct = session.breaker.conduct ∧
      (session.step event).now = session.now ∧
      (session.step event).admissions = session.admissions ∧
      (session.step event).inFlight.filter (mark ≤ ·.number) =
        session.inFlight.filter (mark ≤ ·.number) ∧
      session.markAfter mark event = mark := by
  cases event with
  | attempt | reset | pass => simp [Event.outOfDate] at outOfDate
  | settle number verdict =>
      have early : number < mark := by simpa [Event.outOfDate] using outOfDate
      rcases session.step_settle_cases number verdict with
        ⟨call, member, numbered, stepEq⟩ | stepEq
      · have stale : call.generation ≠ session.breaker.generation := by
          apply Nat.ne_of_lt
          apply dated.outdated call (dated.recorded.admitted call member)
          rwa [numbered]
        have breakerEq := settle_stale stale verdict
        have absent : call ∉ session.inFlight.filter (mark ≤ ·.number) := by
          simp [numbered, early]
        rw [markAfter, stepEq]
        refine ⟨?_, rfl, rfl, ?_, ?_⟩
        · rw [breakerEq]
          rfl
        · exact List.erase_filter.symm.trans (List.erase_of_not_mem absent)
        · simp [breakerEq]
      · rw [markAfter, stepEq]
        simp

end Dated

/-! ## Two sessions -/

/-- Two sessions that differ at most in the calls that are out of date and in the
totals of outcomes. -/
structure Alike (mark : Nat) (first second : Session) : Prop where
  conduct : first.breaker.conduct = second.breaker.conduct
  now : first.now = second.now
  admissions : first.admissions = second.admissions
  timely : first.inFlight.filter (mark ≤ ·.number) = second.inFlight.filter (mark ≤ ·.number)

namespace Alike

variable {mark : Nat} {first second : Session}

theorem circuit (alike : Alike mark first second) :
    first.breaker.circuit = second.breaker.circuit := by
  change first.breaker.conduct.circuit = second.breaker.conduct.circuit
  rw [alike.conduct]

/-- More calls may go out of date. -/
theorem mono (alike : Alike mark first second) {later : Nat} (onward : mark ≤ later) :
    Alike later first second := by
  have narrower : ∀ calls : List Call, calls.filter (later ≤ ·.number) =
      (calls.filter (mark ≤ ·.number)).filter (later ≤ ·.number) := by
    intro calls
    rw [List.filter_filter]
    apply List.filter_congr
    intro call _
    by_cases late : later ≤ call.number
    · simp [late, Nat.le_trans onward late]
    · simp [late]
  constructor
  · exact alike.conduct
  · exact alike.now
  · exact alike.admissions
  · rw [narrower, alike.timely, ← narrower]

/-- A call that is not out of date is in flight in both sessions or in neither. -/
theorem call? (alike : Alike mark first second) {number : Nat} (onward : mark ≤ number) :
    first.call? number = second.call? number := by
  have among : ∀ calls : List Call, calls.find? (·.number == number) =
      (calls.filter (mark ≤ ·.number)).find? (·.number == number) := by
    intro calls
    rw [List.find?_filter]
    congr 1
    funext call
    by_cases numbered : call.number = number
    · simp [numbered, onward]
    · simp [numbered]
  rw [Session.call?, Session.call?, among, alike.timely, ← among]

/-- An attempt is answered alike, and leaves the breakers alike. -/
theorem acquire (alike : Alike mark first second) :
    (first.breaker.acquire first.now).1.conduct =
        (second.breaker.acquire second.now).1.conduct ∧
      (first.breaker.acquire first.now).2 = (second.breaker.acquire second.now).2 := by
  have firstEq := first.breaker.acquire_conduct first.now
  have secondEq := second.breaker.acquire_conduct second.now
  rw [alike.conduct, alike.now, secondEq] at firstEq
  rw [alike.now]
  obtain ⟨conduct, decision⟩ := Prod.mk.inj firstEq
  exact ⟨conduct.symm, decision.symm⟩

theorem answer (alike : Alike mark first second) (event : Event) :
    first.answer event = second.answer event := by
  cases event with
  | attempt => exact alike.acquire.2
  | settle | reset | pass => rfl

theorem letIn (alike : Alike mark first second) {breaker breaker' : Breaker}
    (conduct : breaker.conduct = breaker'.conduct) (generation : Nat) :
    Alike mark (first.letIn breaker generation) (second.letIn breaker' generation) := by
  constructor
  · exact conduct
  · exact alike.now
  · simp [Session.letIn, alike.admissions, alike.now]
  · simp only [Session.letIn, alike.admissions, alike.now, List.filter_cons, alike.timely]

/-- An event that is not the end of a call out of date does the same to both. -/
theorem step (alike : Alike mark first second) {event : Event}
    (current : event.outOfDate mark = false) :
    Alike mark (first.step event) (second.step event) := by
  cases event with
  | attempt =>
      obtain ⟨conduct, decision⟩ := alike.acquire
      rcases acquired : first.breaker.acquire first.now with ⟨breaker, answer⟩
      rcases acquired' : second.breaker.acquire second.now with ⟨breaker', answer'⟩
      rw [acquired, acquired'] at conduct decision
      have sameAnswer : answer = answer' := decision
      subst sameAnswer
      rw [Session.step, Session.step, acquired, acquired']
      cases answer with
      | none => exact ⟨conduct, alike.now, alike.admissions, alike.timely⟩
      | some generation => exact alike.letIn conduct generation
  | settle number verdict =>
      have onward : mark ≤ number := by simpa [Event.outOfDate] using current
      rw [Session.step, Session.step, alike.call? onward]
      cases second.call? number with
      | none => exact alike
      | some call =>
          constructor
          · have firstEq := first.breaker.report_conduct call.generation verdict first.now
            have secondEq := second.breaker.report_conduct call.generation verdict second.now
            rw [alike.conduct, alike.now] at firstEq
            simp only [Session.settle, alike.now]
            exact firstEq.symm.trans secondEq
          · exact alike.now
          · exact alike.admissions
          · simp only [Session.settle]
            rw [← List.erase_filter, ← List.erase_filter, alike.timely]
  | reset =>
      refine ⟨?_, alike.now, alike.admissions, alike.timely⟩
      have firstEq := first.breaker.reset_conduct
      rw [alike.conduct, second.breaker.reset_conduct] at firstEq
      exact firstEq.symm
  | pass nanos =>
      exact ⟨alike.conduct, congrArg (· + nanos) alike.now, alike.admissions, alike.timely⟩

/-- The same calls go out of date. -/
theorem markAfter (alike : Alike mark first second) {event : Event}
    (current : event.outOfDate mark = false) :
    first.markAfter mark event = second.markAfter mark event := by
  unfold Session.markAfter
  rw [(alike.step current).circuit, alike.circuit, alike.admissions]

end Alike

/-! ## The course of a run -/

/-- A run and its timely part take the same course, from sessions that are alike. -/
theorem course_timely {mark : Nat} {first second : Session} (alike : Alike mark first second)
    (datedFirst : Dated mark first) (datedSecond : Dated mark second) (events : List Event) :
    first.course mark events = second.course mark (first.timely mark events) ∧
      (first.run events).breaker.conduct =
        (second.run (first.timely mark events)).breaker.conduct := by
  induction events generalizing mark first second with
  | nil => exact ⟨rfl, alike.conduct⟩
  | cons event rest ih =>
      cases current : event.outOfDate mark with
      | true =>
          obtain ⟨conduct, now, admissions, timely, markEq⟩ :=
            datedFirst.step_outOfDate current
          have still : Alike mark (first.step event) second :=
            ⟨conduct.trans alike.conduct, now.trans alike.now,
              admissions.trans alike.admissions, timely.trans alike.timely⟩
          have dated := datedFirst.step event
          rw [markEq] at dated
          have following := ih still dated datedSecond
          simpa [course, Session.timely, current, markEq, run] using following
      | false =>
          have next := (alike.step current).mono
            (datedFirst.mark_le_markAfter event)
          have markEq := alike.markAfter current
          have dated := datedSecond.step event
          rw [← markEq] at dated
          obtain ⟨sameCourse, sameConduct⟩ := ih next (datedFirst.step event) dated
          constructor
          · simp [course, Session.timely, current, ← markEq, sameCourse, alike.answer event,
              next.conduct]
          · simpa [Session.timely, current, run] using sameConduct

/-- Two runs that differ only in what becomes of calls that are out of date take the
same course, and leave the breaker in the same state but for the totals of successes
and failures. -/
theorem stale_outcomes_without_influence (threshold : Nat) (recovery : Span) (trialLimit : Nat)
    (first second : List Event)
    (same : (start threshold recovery trialLimit).timely 0 first =
      (start threshold recovery trialLimit).timely 0 second) :
    (start threshold recovery trialLimit).course 0 first =
        (start threshold recovery trialLimit).course 0 second ∧
      ((start threshold recovery trialLimit).run first).breaker.conduct =
        ((start threshold recovery trialLimit).run second).breaker.conduct := by
  have alike : Alike 0 (start threshold recovery trialLimit)
      (start threshold recovery trialLimit) := ⟨rfl, rfl, rfl, rfl⟩
  have dated := Dated.start threshold recovery trialLimit
  obtain ⟨courseFirst, conductFirst⟩ := course_timely alike dated dated first
  obtain ⟨courseSecond, conductSecond⟩ := course_timely alike dated dated second
  rw [same] at courseFirst conductFirst
  exact ⟨courseFirst.trans courseSecond.symm, conductFirst.trans conductSecond.symm⟩

/-- The failure of the first of two calls opens the breaker, and then the second one
succeeds, before a trial is let in. -/
def heardAtOnce : List Event :=
  [.attempt, .attempt, .settle 0 .failed, .settle 1 .succeeded, .pass 10, .attempt,
    .settle 2 .succeeded]

/-- The second call fails instead, while the trial is in flight. -/
def heardLate : List Event :=
  [.attempt, .attempt, .settle 0 .failed, .pass 10, .attempt, .settle 1 .failed,
    .settle 2 .succeeded]

/-- Both runs close the breaker again, and only their totals of failures tell them
apart. -/
theorem stale_outcomes_without_influence_secondCall :
    (start 1 ⟨10⟩ 1).timely 0 heardAtOnce = (start 1 ⟨10⟩ 1).timely 0 heardLate ∧
    ((start 1 ⟨10⟩ 1).course 0 heardAtOnce = (start 1 ⟨10⟩ 1).course 0 heardLate ∧
      ((start 1 ⟨10⟩ 1).run heardAtOnce).breaker.conduct =
        ((start 1 ⟨10⟩ 1).run heardLate).breaker.conduct) ∧
    ((start 1 ⟨10⟩ 1).run heardAtOnce).breaker.failures = 1 ∧
    ((start 1 ⟨10⟩ 1).run heardLate).breaker.failures = 2 :=
  ⟨by decide, stale_outcomes_without_influence 1 ⟨10⟩ 1 heardAtOnce heardLate (by decide),
    by decide, by decide⟩

end Session

end RiskGate.Breaker
