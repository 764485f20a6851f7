import Mathlib.Data.List.Induction
import RiskGate.Proofs.Engine.Course
import RiskGate.Proofs.Engine.Seclusion

/-!
# Deadlines and cancellations of batches

The scope of a batch serves two ends: it is cancelled with the scope of the caller, and by
the deadline of the batch.  The pool does not know the difference, and reports what is lost
as cancelled either way.  The engine tells the two apart when the batch returns: what is
lost without the caller's doing has missed the deadline.

This is right whatever the order in which jobs end, submissions wait for room and the
deadline fires.  No item of a batch is cancelled by its own errand, so a cancellation always
comes from the scope of the batch, and nobody but the caller and the timer cancels that.
-/

namespace RiskGate.Engine

open Schedule (Actor Agenda Clockwork)
open Pool (Floor Batch Job Order)

variable {engine asked : Engine} {log : Log}
variable {history : Pool.History (Errand .assess) Assessment}

/-! ## Errands -/

/-- An errand that is not cancelled does not end with a cancellation. -/
theorem Errand.finished_ne_cancelled {operation : Operation} {errand : Errand operation}
    {now : Nat} {core : Core} {outcome : RiskGate.Outcome operation.Result}
    (finished : (errand.resume false now core).2 = .finished outcome) :
    outcome ≠ .error .cancelled := by
  rintro rfl
  rcases errand.course_resume false now core with ⟨value, _, resumeEq⟩ | ⟨_, course⟩
  · rw [resumeEq] at finished
    cases finished
  · rw [finished] at course
    cases course with
    | ends _ ownFailure _ => cases ownFailure .cancelled rfl rfl

/-- No item of a batch is known to have ended with a cancellation of its own. -/
theorem yielded_ne_cancelled {ticket : Nat} {outcome : RiskGate.Outcome Assessment}
    {events : List Event} (member : (ticket, .yielded outcome) ∈ engine.told events) :
    outcome ≠ .error .cancelled := by
  induction events generalizing engine with
  | nil => cases member
  | cons event rest ih =>
      rcases List.mem_append.mp member with here | there
      · obtain ⟨floor, poolEvent, noted⟩ := Floor.mem_notesAll here
        obtain ⟨index, errand, finished⟩ := Floor.yielded_mem_notes noted
        have resumed : (errand.resume false floor.now floor.shared).2 = .finished outcome :=
          finished
        exact Errand.finished_ne_cancelled resumed
      · exact ih there

/-- An outcome is reported as cancelled if it is, and nobody has missed the deadline. -/
theorem relabel_eq_cancelled {missed : Bool} {limit : Span}
    {outcome : RiskGate.Outcome Assessment}
    (same : relabel missed limit outcome = .error .cancelled) :
    missed = false ∧ outcome = .error .cancelled := by
  cases missed with
  | false => exact ⟨rfl, (relabel_false _ _).symm.trans same⟩
  | true =>
      unfold relabel at same
      split at same
      · cases same
      next notCancelled => exact absurd same notCancelled

/-! ## Scopes in the course of a batch -/

/-- Nobody but the engine knows the scope of a batch: neither in its course nor before is it
cancelled by its name, or planned to be. -/
structure Discreet (outer : Nat) (requests : List Request) (events : List Event)
    (asked : Engine) : Prop where
  unplanned : ∀ entry ∈ asked.floor.agenda.planned, entry.2 ≠ (asked.begun outer requests).scope
  unnamed : ∀ event ∈ events, event.names (asked.begun outer requests).scope = false

/-- The deadline of a batch does not fire in its course. -/
def Timely (outer : Nat) (requests : List Request) (events : List Event) (asked : Engine) : Prop :=
  ∀ early event late, events = early ++ event :: late →
    ¬Fires asked.rounds.length (asked.begun outer requests).due
      (asked.during outer requests early) event

section Scopes

variable {outer : Nat} {requests : List Request} {events : List Event}

/-- A batch stays sheltered in its course, if its deadline does not fire. -/
theorem Watchful.sheltered_during (watchful : Watchful history asked) (kept : Kept log asked)
    (accepted : asked.refusal? requests = none) (opened : asked.floor.agenda.Opened)
    (discreet : asked.Discreet outer requests events)
    (timely : asked.Timely outer requests events) :
    Sheltered asked.rounds.length (asked.begun outer requests)
      (asked.during outer requests events) := by
  induction events using List.reverseRecOn with
  | nil => exact watchful.sheltered accepted opened discreet.unplanned
  | append_singleton early event ih =>
      have before := ih
        ⟨discreet.unplanned, fun other member =>
          discreet.unnamed other (List.mem_append_left _ member)⟩
        fun earlier other late split => timely earlier other (late ++ [event]) (by simp [split])
      have lastUnnamed := discreet.unnamed event (List.mem_append_right _ List.mem_cons_self)
      have lastTimely := timely early event [] rfl
      have early_watchful := watchful.run kept (.askBatch outer requests :: early)
      rw [during_concat]
      apply before.after early_watchful lastUnnamed
      intro another found
      cases follows_during watchful.toPooled accepted early with
      | running own =>
          cases own.symm.trans found
          exact lastTimely
      | answered own => cases own.symm.trans found

/-- If the deadline of a batch does not fire, its scope is cancelled only if that of its
caller is. -/
theorem Watchful.live_during (watchful : Watchful history asked) (kept : Kept log asked)
    (accepted : asked.refusal? requests = none) (opened : asked.floor.agenda.Opened)
    (discreet : asked.Discreet outer requests events)
    (timely : asked.Timely outer requests events)
    (live : (asked.during outer requests events).isCancelled outer = false) :
    (asked.during outer requests events).isCancelled (asked.begun outer requests).scope =
      false := by
  have sheltered := watchful.sheltered_during kept accepted opened discreet timely
  apply decide_eq_false
  intro cancelled
  exact of_decide_eq_false live (sheltered.secluded.together cancelled)

end Scopes

/-! ## Deadlines that fire -/

section Firing

variable {round : Round} {number : Nat} {event : Event} {caller since : Nat}
variable {batch : Batch (Errand .assess) Assessment}

/-- A batch of the pool whose scope is cancelled goes on or has ended since, whatever happens
to the engine. -/
theorem lapsing_run (lapsing : Floor.Lapsing caller batch since engine.floor)
    (pooled : Pooled history engine) (events : List Event) :
    Floor.Lapsing caller batch since (engine.run events).floor :=
  pooled.preserves_run (fun _ floor => Floor.Lapsing caller batch since floor) lapsing events
    fun _ _ _ proper _ lapsing => lapsing.after proper

/-- The pool goes on with every batch that is under way. -/
theorem Kept.batching (kept : Kept log engine)
    (found : engine.rounds[number]? = some (.running round)) :
    ∃ batch, engine.floor.callers[round.caller]? = some (.batching batch) ∧
      batch.scope = round.scope := by
  obtain ⟨_, orderly⟩ := kept.orderly
  obtain ⟨batch, batching⟩ := orderly.underway number round found (Option.some_ne_none _).symm
  obtain ⟨_, other, known, scope⟩ := orderly.given number round found
  have same : engine.floor.batches round.caller = some batch := by
    rw [Floor.batches, batching]
    rfl
  rw [same] at known
  cases known
  exact ⟨batch, batching, scope⟩

/-- When the deadline of a batch fires, the scope of the batch is cancelled. -/
theorem Watchful.lapsing (watchful : Watchful history engine)
    (found : engine.rounds[number]? = some (.running round))
    (batching : engine.floor.callers[round.caller]? = some (.batching batch))
    (scope : batch.scope = round.scope) (fires : Fires number round.due engine event) :
    Floor.Lapsing round.caller batch 0 (engine.after event).floor := by
  obtain ⟨rfl, due⟩ := fires
  have fired : engine.poolEvents (.turn (.timer number)) =
      [.rearrange (engine.unready (.timer number)).floor.agenda, .cancel round.scope] := by
    simp only [poolEvents, found, if_pos due]
  rw [(watchful.routes (.turn (.timer number))).floor, fired]
  refine ⟨?_, Nat.zero_le _, batch, .refl batch, .inl batching⟩
  rw [scope]
  exact Agenda.isCancelled_cancel (watchful.opened number round found)

end Firing

/-! ## The law -/

/-- The item of a batch has no outcome: its job is not made yet, or nothing is known of how
the job ends. -/
def Unfinished (caller index : Nat) (engine : Engine) : Prop :=
  ∀ batch ticket, engine.floor.callers[caller]? = some (.batching batch) →
    batch.tickets[index]? = some ticket → engine.floor.outcome? ticket = none

/-- A batch tells its deadline from a cancellation by its caller. -/
structure TellsApart (settings : Config.Settings) (outer : Nat) (requests : List Request)
    (events : List Event) (history : Pool.History (Errand .assess) Assessment)
    (items : List (Outcome Assessment)) (asked : Engine) : Prop where
  /-- An item is reported as cancelled only if the scope of the caller is. -/
  cancelled : .error .cancelled ∈ items →
    (asked.during outer requests events).isCancelled outer = true
  /-- If the deadline fires and the caller does not cancel, every item that was not finished
  then has missed it. -/
  late : ∀ early event late, events = early ++ event :: late →
    Fires asked.rounds.length (asked.begun outer requests).due
        (asked.during outer requests early) event →
      (asked.during outer requests events).isCancelled outer = false →
        ∀ index < requests.length,
          (asked.during outer requests early).Unfinished asked.floor.callers.length index →
            items[index]? = some (.error (.deadlineExceeded settings.batchTimeout))
  /-- If neither happens, every item reports what became of its own job. -/
  plain : asked.Discreet outer requests events → asked.Timely outer requests events →
    (asked.during outer requests events).isCancelled outer = false →
      (asked.orderOf outer requests).Aligned history items

section Law

variable {outer : Nat} {requests : List Request} {events : List Event}
variable {order : Order (Errand .assess)} {round : Round}
variable {batch : Batch (Errand .assess) Assessment}

/-- A batch whose jobs do not end with cancellations of their own reports none. -/
theorem notMem_of_aligned {order : Order (Errand .assess)} {outcomes : List (Outcome Assessment)}
    (aligned : order.Aligned history outcomes)
    (candid : ∀ ticket outcome, (ticket, .yielded outcome) ∈ history →
      outcome ≠ .error .cancelled) : .error .cancelled ∉ outcomes := by
  intro member
  obtain ⟨index, reported⟩ := List.mem_iff_getElem?.mp member
  obtain ⟨tickets, _, length, explained⟩ := aligned.explained
  have inside : index < order.tasks.length :=
    aligned.length ▸ (List.getElem?_eq_some_iff.mp reported).1
  have stands := List.getElem?_eq_getElem (length ▸ inside : index < tickets.length)
  have explains := explained index _ _ _ stands (List.getElem?_eq_getElem inside) reported
  generalize storyEq : history.story tickets[index] = story at explains
  cases explains with
  | finished =>
      have told : .yielded (.error .cancelled) ∈ history.story tickets[index] := by simp [storyEq]
      obtain ⟨⟨ticket, note⟩, entry, rfl⟩ := List.mem_map.mp told
      exact candid ticket _ (List.mem_filter.mp entry).1 rfl

section Reporting

variable (serves : Floor.Serves order history round.caller engine.floor)
  (sound : engine.floor.Sound history) (scope : order.scope = round.scope) {instant : Nat}
  (ended : engine.floor.callers[round.caller]? = some (.batched batch instant))

include serves sound scope ended

/-- As long as its scope is not cancelled, a batch reports what its pool does. -/
theorem reported_aligned (live : engine.isCancelled round.scope = false) :
    order.Aligned history (engine.reported round batch.outcomes) := by
  rw [reported_of_live live]
  exact serves.aligned sound (scope ▸ live) ended

/-- A batch reports a cancellation only if the scope of its caller is cancelled. -/
theorem cancelled_of_reported
    (candid : ∀ ticket outcome, (ticket, .yielded outcome) ∈ history →
      outcome ≠ .error .cancelled)
    (member : .error .cancelled ∈ engine.reported round batch.outcomes) :
    engine.isCancelled round.outer = true := by
  by_contra live
  obtain ⟨outcome, there, same⟩ := List.mem_map.mp member
  obtain ⟨notMissed, rfl⟩ := relabel_eq_cancelled same
  have innerLive : engine.isCancelled round.scope = false := by simpa [live] using notMissed
  exact notMem_of_aligned (serves.aligned sound (scope ▸ innerLive) ended) candid there

end Reporting

/-- If the deadline fires and the caller does not cancel, every item that was not finished
then has missed it. -/
theorem Returns.late {outcome : BatchOutcome} {early late : List Event} {event : Event}
    (returns : asked.Returns outer requests (early ++ event :: late) outcome)
    (watchful : Watchful history asked) (kept : Kept log asked)
    (accepted : asked.refusal? requests = none)
    (fires : Fires asked.rounds.length (asked.begun outer requests).due
      (asked.during outer requests early) event)
    (live : (asked.during outer requests (early ++ event :: late)).isCancelled outer = false)
    {index : Nat} (inside : index < requests.length)
    (unfinished : (asked.during outer requests early).Unfinished asked.floor.callers.length index) :
    outcome.items[index]? = some (.error (.deadlineExceeded
      (asked.during outer requests (early ++ event :: late)).settings.batchTimeout)) := by
  have pooled := watchful.toPooled
  have running := running_during pooled accepted (returns.unanswered early event late rfl)
  obtain ⟨between, batching, scope⟩ :=
    (kept.run (.askBatch outer requests :: early)).batching running
  have earlyWatchful := watchful.run kept (.askBatch outer requests :: early)
  have fired := earlyWatchful.lapsing running batching scope fires
  have lapsing : Floor.Lapsing (asked.begun outer requests).caller between 0
      (asked.during outer requests (early ++ event :: late)).floor := by
    rw [during_append]
    exact lapsing_run fired (earlyWatchful.toPooled.after event) late
  obtain ⟨batch, rounds, closes, items⟩ := returns.closes pooled accepted
  obtain ⟨instant, ended⟩ := closes.ended
  have serves : Floor.Serves (asked.orderOf outer requests) _ _
      (asked.during outer requests (early ++ event :: late)).floor :=
    serves_during pooled accepted (early ++ event :: late)
  have size : batch.tickets.length = requests.length :=
    (serves.tickets_length ended).trans (errands_length _ _)
  have stands := List.getElem?_eq_getElem (size ▸ inside : index < batch.tickets.length)
  have lost := (serves_during pooled accepted early).reported_lost batching
    (lapsing.of_ended ended) stands fun ticket => unfinished between ticket batching
  have missed : (asked.during outer requests (early ++ event :: late)).isCancelled
      (asked.begun outer requests).scope = true := scope ▸ lapsing.cancelled
  rw [items, reported, List.getElem?_map, batch.outcomes_getElem?, stands, Option.map_some, lost,
    Option.map_some, missed, show (asked.begun outer requests).outer = outer from rfl, live]
  rfl

/-- A batch without items has nothing to tell. -/
theorem Returns.tellsApart_nil {settings : Config.Settings} {outcome : BatchOutcome}
    (returns : asked.Returns outer [] events outcome) :
    asked.TellsApart settings outer [] events history outcome.items := by
  obtain ⟨rfl, items⟩ := returns.empty
  rw [items]
  constructor
  · exact fun member => absurd member List.not_mem_nil
  · intro early event late split
    exact absurd split.symm (List.append_ne_nil_of_right_ne_nil early (List.cons_ne_nil _ _))
  · exact fun _ _ _ => .nil rfl

/-- A batch that is run tells its deadline from a cancellation. -/
theorem Returns.tellsApart {outcome : BatchOutcome}
    (returns : asked.Returns outer requests events outcome)
    (watchful : Watchful history asked) (kept : Kept log asked)
    (accepted : asked.refusal? requests = none) (opened : asked.floor.agenda.Opened)
    (candid : ∀ ticket outcome,
      (ticket, .yielded outcome) ∈ history ++ asked.told (.askBatch outer requests :: events) →
        outcome ≠ .error .cancelled) :
    asked.TellsApart (asked.during outer requests events).settings outer requests events
      (history ++ asked.told (.askBatch outer requests :: events)) outcome.items := by
  obtain ⟨batch, rounds, closes, items⟩ := returns.closes watchful.toPooled accepted
  obtain ⟨instant, ended⟩ := closes.ended
  have serves : Floor.Serves (asked.orderOf outer requests) _ _
      (asked.during outer requests events).floor :=
    serves_during watchful.toPooled accepted events
  have sound := (watchful.toPooled.run (.askBatch outer requests :: events)).sound
  constructor
  · intro member
    exact cancelled_of_reported serves sound rfl ended candid (items ▸ member)
  · rintro early event late rfl fires live index inside unfinished
    exact returns.late watchful kept accepted fires live inside unfinished
  · intro discreet timely live
    rw [items]
    exact reported_aligned serves sound rfl ended
      (watchful.live_during kept accepted opened discreet timely live)

end Law

/-- In every run of an engine, an accepted batch that returns tells its deadline from a
cancellation by its caller. -/
theorem batch_tells_deadline_from_cancellation (settings : Config.Settings) (service : Service)
    {first second : List Event} {outer : Nat} {requests : List Request} {outcome : BatchOutcome}
    (fits : requests.length ≤ ((make settings service).run first).floor.workers)
    (returns : ((make settings service).run first).Returns outer requests second outcome) :
    ((make settings service).run first).TellsApart settings outer requests second
      ((make settings service).told (first ++ .askBatch outer requests :: second))
      outcome.items := by
  have candid : ∀ (ticket : Nat) (outcome : RiskGate.Outcome Assessment),
      (ticket, .yielded outcome) ∈
        (make settings service).told (first ++ .askBatch outer requests :: second) →
          outcome ≠ .error .cancelled :=
    fun _ _ => yielded_ne_cancelled
  have kept := (Kept.make settings service).run first
  have watchful := (Watchful.make settings service).run (Kept.make settings service) first
  have unopened : (make settings service).floor.agenda.Opened := by
    intro scope cancelled
    cases cancelled
  have opened := (Pooled.make settings service).opened_run unopened first
  have same : (((make settings service).run first).during outer requests second).settings =
      settings := by
    rw [during, ← run_append]
    exact ((Sound.make settings service).run _).coherent.settings_eq
  rw [told_append] at candid ⊢
  rw [List.nil_append] at watchful
  generalize (make settings service).told first = history at *
  generalize (make settings service).run first = asked at *
  cases accepted : asked.refusal? requests with
  | some refusal =>
      obtain rfl : requests = [] := by
        rw [refusal?, if_neg (Nat.not_lt_of_le fits)] at accepted
        split at accepted
        next none => exact List.isEmpty_iff.mp none
        · cases accepted
      exact returns.tellsApart_nil
  | none => exact same ▸ returns.tellsApart watchful kept accepted opened candid

/-- One worker, and batches that may take as long as one request. -/
def hurried : Config.Settings where
  execution := { maxConcurrentRequests := 1, batchTimeoutMultiplier := 1 }

/-- A service that needs more than half the time that a batch has. -/
def thoroughService : Service := Script.service { otherwise := { latency := 300 } }

/-- The worker is busy with the item of a batch. -/
def engaged : List Event :=
  [.openScope, .askBatch 0 [writings.1], .turn .dispatcher, .turn (.worker 0), .turn (.timer 0)]

/-- The item of another batch is begun late, and is not finished when the deadline of its
batch fires. -/
def tooLate : List Event :=
  [.turn .dispatcher, .turn (.timer 1), .pass 300, .turn (.worker 0), .turn (.caller 0),
    .turn .dispatcher, .turn (.worker 0), .pass 500, .turn (.timer 1), .turn (.caller 1)]

/-- A request of another business. -/
def elsewhere : List Request := [{ writings.1 with businessName := "Other" }]

theorem batch_tells_deadline_from_cancellation_too_late :
    let asked := (make hurried thoroughService).run engaged
    ∃ outcome, asked.Returns 0 elsewhere tooLate outcome ∧
      asked.TellsApart hurried 0 elsewhere tooLate
        ((make hurried thoroughService).told (engaged ++ .askBatch 0 elsewhere :: tooLate))
        outcome.items ∧
      outcome.items[0]? = some (.error (.deadlineExceeded (Span.ofMillis 500))) := by
  intro asked
  have came : ((asked.during 0 elsewhere tooLate).batchAnswer? 1).any (·.1.toBool) = true := by
    decide +kernel
  have early : ∀ length < tooLate.length,
      ((asked.during 0 elsewhere (tooLate.take length)).batchAnswer? 1).isNone = true := by
    decide +kernel
  have fits : elsewhere.length ≤ asked.floor.workers := by decide
  have due : (asked.begun 0 elsewhere).due ≤ (asked.during 0 elsewhere (tooLate.take 8)).now := by
    decide +kernel
  have live : (asked.during 0 elsewhere tooLate).isCancelled 0 = false := by decide +kernel
  have unknown : ((asked.during 0 elsewhere (tooLate.take 8)).floor.outcome? 1).isNone = true := by
    decide +kernel
  have own : ((asked.during 0 elsewhere (tooLate.take 8)).floor.batches 1).all
      (·.tickets == [1]) = true := by
    decide +kernel
  obtain ⟨⟨answer, instant⟩, answered, isOk⟩ := (Option.any_eq_true _ _).mp came
  cases answer with
  | error => cases isOk
  | ok outcome =>
      have returns : asked.Returns 0 elsewhere tooLate outcome := .of_take answered early
      have law := batch_tells_deadline_from_cancellation hurried thoroughService fits returns
      refine ⟨outcome, returns, law, law.late _ _ _ rfl ⟨rfl, due⟩ live 0 (by decide) ?_⟩
      intro batch ticket batching stands
      have known : (asked.during 0 elsewhere (tooLate.take 8)).floor.batches 1 = some batch := by
        rw [Floor.batches, show (asked.during 0 elsewhere (tooLate.take 8)).floor.callers[1]? =
          some (.batching batch) from batching]
        rfl
      rw [known, Option.all_some, beq_iff_eq] at own
      rw [own] at stands
      obtain rfl : 1 = ticket := Option.some.inj stands
      exact Option.isNone_iff_eq_none.mp unknown

end RiskGate.Engine
