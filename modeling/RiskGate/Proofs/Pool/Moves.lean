import RiskGate.Proofs.Pool.Accounts
import RiskGate.Proofs.Schedule.Agenda

/-!
# What the moves of a pool do

Submissions move jobs into the queue or refuse them, and touch neither desks nor
callers.  The statements of this module list, for each of them, everything that
can come of it, together with the conditions under which it does.
-/

namespace RiskGate.Pool.Floor

open Schedule (Actor Agenda)

variable {ε τ ρ : Type}

/-! ## Moves of the queue and the books -/

/-- Nobody joined or left, no desk changed, and no scope was cancelled. -/
structure SameStaff (before after : Floor ε τ ρ) : Prop where
  callers : after.callers = before.callers
  desks : after.desks = before.desks
  idle : after.idle = before.idle
  nextTicket : after.nextTicket = before.nextTicket
  shut : after.shut = before.shut
  dispatching : after.dispatching = before.dispatching
  cancelled : after.agenda.cancelled = before.agenda.cancelled

namespace SameStaff

variable {before middle after : Floor ε τ ρ}

theorem trans (first : SameStaff before middle) (second : SameStaff middle after) :
    SameStaff before after where
  callers := second.callers.trans first.callers
  desks := second.desks.trans first.desks
  idle := second.idle.trans first.idle
  nextTicket := second.nextTicket.trans first.nextTicket
  shut := second.shut.trans first.shut
  dispatching := second.dispatching.trans first.dispatching
  cancelled := second.cancelled.trans first.cancelled

theorem later (same : SameStaff before after) : Later before after :=
  .of_eq same.cancelled same.shut

end SameStaff

section Moves

variable (floor : Floor ε τ ρ)

theorem sameStaff_onAgenda {change : Agenda → Agenda}
    (cancelled : (change floor.agenda).cancelled = floor.agenda.cancelled) :
    SameStaff floor (floor.onAgenda change) :=
  ⟨rfl, rfl, rfl, rfl, rfl, rfl, cancelled⟩

theorem sameStaff_wake (actor : Actor) : SameStaff floor (floor.wake actor) :=
  floor.sameStaff_onAgenda (Agenda.wake_cancelled actor floor.agenda)

theorem sameStaff_wakeClosers : SameStaff floor floor.wakeClosers :=
  floor.sameStaff_onAgenda (Agenda.wakeAll_cancelled _ floor.agenda)

theorem sameStaff_deliver (job : Job τ) (outcome : Outcome ρ) :
    SameStaff floor (floor.deliver job outcome) :=
  ⟨rfl, rfl, rfl, rfl, rfl, rfl, Agenda.wakeAll_cancelled _ floor.agenda⟩

theorem sameStaff_reject (job : Job τ) (failure : Failure) :
    SameStaff floor (floor.reject job failure) :=
  ⟨rfl, rfl, rfl, rfl, rfl, rfl, Agenda.wakeAll_cancelled _ floor.agenda⟩

theorem sameStaff_enqueue (job : Job τ) : SameStaff floor (floor.enqueue job) := by
  unfold enqueue
  dsimp only
  split
  · exact ⟨rfl, rfl, rfl, rfl, rfl, rfl, rfl⟩
  · exact ⟨rfl, rfl, rfl, rfl, rfl, rfl, Agenda.wake_cancelled _ floor.agenda⟩

theorem sameStaff_takePlace (job : Job τ) : SameStaff floor (floor.takePlace job) := by
  have taken : SameStaff floor { floor with free := floor.free - 1 } :=
    ⟨rfl, rfl, rfl, rfl, rfl, rfl, rfl⟩
  exact taken.trans (sameStaff_enqueue _ job)

theorem sameStaff_vacate : SameStaff floor floor.vacate := by
  unfold vacate
  split
  · exact ⟨rfl, rfl, rfl, rfl, rfl, rfl, rfl⟩
  · exact ⟨rfl, rfl, rfl, rfl, rfl, rfl, Agenda.wake_cancelled _ floor.agenda⟩

theorem sameStaff_withdraw (caller : Nat) : SameStaff floor (floor.withdraw caller) :=
  ⟨rfl, rfl, rfl, rfl, rfl, rfl, rfl⟩

end Moves

/-! ## Submissions -/

/-- A job is answered for: it was refused with a failure, which is its outcome,
or it was accepted and is queued. -/
structure Settles (job : Job τ) (answer : Outcome Unit) (before after : Floor ε τ ρ) : Prop where
  staff : SameStaff before after
  placed : ∃ place, after.whereabouts = before.whereabouts + {(job.ticket, place)} ∧
    ∀ floor : Floor ε τ ρ, floor.Fits place [.issued job, .answered answer]

section Submissions

variable (floor : Floor ε τ ρ) (job : Job τ)

theorem settles_reject (failure : Failure) :
    Settles job (.error failure) floor (floor.reject job failure) where
  staff := floor.sameStaff_reject job failure
  placed := ⟨_, floor.whereabouts_reject job failure, fun _ => ⟨job, .refused failure⟩⟩

theorem settles_enqueue : Settles job (.ok ()) floor (floor.enqueue job) where
  staff := floor.sameStaff_enqueue job
  placed := ⟨_, floor.whereabouts_enqueue job, fun _ => rfl⟩

theorem settles_takePlace : Settles job (.ok ()) floor (floor.takePlace job) where
  staff := floor.sameStaff_takePlace job
  placed := ⟨_, floor.whereabouts_takePlace job, fun _ => rfl⟩

variable {floor job}

/-- What happens before a job is settled does not matter as long as no job moves. -/
theorem Settles.after_frame {middle after : Floor ε τ ρ} {answer : Outcome Unit}
    (settles : Settles job answer middle after) (staff : SameStaff floor middle)
    (whereabouts : middle.whereabouts = floor.whereabouts) : Settles job answer floor after where
  staff := staff.trans settles.staff
  placed := by
    rw [← whereabouts]
    exact settles.placed

variable (floor job)

/-- A submission without patience is answered at once. -/
theorem offerNow_settles :
    Settles job (floor.offerNow job).2 floor (floor.offerNow job).1 := by
  unfold offerNow
  split
  · exact floor.settles_reject job .poolShutdown
  · split
    · exact floor.settles_takePlace job
    · exact floor.settles_reject job .queueFull

@[simp] theorem queue_enqueue : (floor.enqueue job).queue = floor.queue ++ [job] := by
  unfold enqueue
  split <;> rfl

@[simp] theorem waiting_enqueue : (floor.enqueue job).waiting = floor.waiting := by
  unfold enqueue
  split <;> rfl

@[simp] theorem granted_enqueue : (floor.enqueue job).granted = floor.granted := by
  unfold enqueue
  split <;> rfl

@[simp] theorem callers_enqueue : (floor.enqueue job).callers = floor.callers := by
  unfold enqueue
  split <;> rfl

/-- Everything that can come of a submission with patience. -/
theorem offer_cases (caller : Nat) (wait : Span) :
    (floor.shut = true ∧
      floor.offer caller job wait =
        (floor.reject job .poolShutdown, some (.error .poolShutdown))) ∨
    (floor.shut = false ∧ 0 < floor.free ∧
      floor.offer caller job wait = (floor.takePlace job, some (.ok ()))) ∨
    (floor.shut = false ∧ floor.free = 0 ∧ floor.agenda.dueAfter wait ≤ floor.now ∧
      floor.offer caller job wait =
        (floor.reject job (.submissionTimeout wait), some (.error (.submissionTimeout wait)))) ∨
    (floor.shut = false ∧ floor.free = 0 ∧ floor.now < floor.agenda.dueAfter wait ∧
      floor.offer caller job wait =
        ({ floor with waiting := floor.waiting ++ [caller] }.onAgenda
          (·.setAlarm (floor.agenda.dueAfter wait) (.caller caller)), none)) := by
  unfold offer
  cases shut : floor.shut with
  | true => exact Or.inl ⟨rfl, rfl⟩
  | false =>
      right
      by_cases room : 0 < floor.free
      · exact Or.inl ⟨rfl, room, by simp [room]⟩
      · right
        by_cases due : floor.agenda.dueAfter wait ≤ floor.now
        · exact Or.inl ⟨rfl, by omega, due, by simp [room, due]⟩
        · exact Or.inr ⟨rfl, by omega, by omega, by simp [room, due]⟩

/-- An answer to a submission with patience settles the job. -/
theorem offer_settles {caller : Nat} {wait : Span} {next : Floor ε τ ρ} {answer : Outcome Unit}
    (offered : floor.offer caller job wait = (next, some answer)) :
    Settles job answer floor next := by
  rcases floor.offer_cases job caller wait with
    ⟨_, offerEq⟩ | ⟨_, _, offerEq⟩ | ⟨_, _, _, offerEq⟩ | ⟨_, _, _, offerEq⟩
  · cases offerEq.symm.trans offered
    exact floor.settles_reject job .poolShutdown
  · cases offerEq.symm.trans offered
    exact floor.settles_takePlace job
  · cases offerEq.symm.trans offered
    exact floor.settles_reject job (.submissionTimeout wait)
  · cases offerEq.symm.trans offered

/-- A submission that is not answered yet moves nothing. -/
theorem offer_waits {caller : Nat} {wait : Span} {next : Floor ε τ ρ}
    (offered : floor.offer caller job wait = (next, none)) :
    SameStaff floor next ∧ next.whereabouts = floor.whereabouts := by
  rcases floor.offer_cases job caller wait with
    ⟨_, offerEq⟩ | ⟨_, _, offerEq⟩ | ⟨_, _, _, offerEq⟩ | ⟨_, _, _, offerEq⟩
  · cases offerEq.symm.trans offered
  · cases offerEq.symm.trans offered
  · cases offerEq.symm.trans offered
  · cases offerEq.symm.trans offered
    exact ⟨⟨rfl, rfl, rfl, rfl, rfl, rfl, rfl⟩, rfl⟩

/-- Everything that can come of going on with a submission. -/
theorem offerAgain_cases (caller : Nat) (wait : Span) (due : Nat) :
    (floor.dispatching = false ∧
      floor.offerAgain caller job wait due =
        ({ floor.withdraw caller with
            free := floor.free + (decide (caller ∈ floor.granted)).toNat }.reject job
              .poolShutdown, some (.error .poolShutdown))) ∨
    (floor.dispatching = true ∧ caller ∈ floor.granted ∧
      floor.offerAgain caller job wait due =
        ((floor.withdraw caller).enqueue job, some (.ok ()))) ∨
    (floor.dispatching = true ∧ caller ∉ floor.granted ∧ due ≤ floor.now ∧
      floor.offerAgain caller job wait due =
        ((floor.withdraw caller).reject job (.submissionTimeout wait),
          some (.error (.submissionTimeout wait)))) ∨
    (floor.dispatching = true ∧ caller ∉ floor.granted ∧ floor.now < due ∧
      floor.offerAgain caller job wait due = (floor, none)) := by
  unfold offerAgain
  cases dispatching : floor.dispatching with
  | false => exact Or.inl ⟨rfl, rfl⟩
  | true =>
      right
      by_cases promised : caller ∈ floor.granted
      · exact Or.inl ⟨rfl, promised, by simp [promised]⟩
      · right
        by_cases late : due ≤ floor.now
        · exact Or.inl ⟨rfl, promised, late, by simp [promised, late]⟩
        · exact Or.inr ⟨rfl, promised, by omega, by simp [promised, late]⟩

/-- An answer to a submission that waited settles the job. -/
theorem offerAgain_settles {caller : Nat} {wait : Span} {due : Nat} {next : Floor ε τ ρ}
    {answer : Outcome Unit}
    (offered : floor.offerAgain caller job wait due = (next, some answer)) :
    Settles job answer floor next := by
  have withdrawn := floor.sameStaff_withdraw caller
  rcases floor.offerAgain_cases job caller wait due with
    ⟨_, offerEq⟩ | ⟨_, _, offerEq⟩ | ⟨_, _, _, offerEq⟩ | ⟨_, _, _, offerEq⟩
  · cases offerEq.symm.trans offered
    exact (settles_reject _ job _).after_frame ⟨rfl, rfl, rfl, rfl, rfl, rfl, rfl⟩ rfl
  · cases offerEq.symm.trans offered
    exact (settles_enqueue _ job).after_frame withdrawn rfl
  · cases offerEq.symm.trans offered
    exact (settles_reject _ job _).after_frame withdrawn rfl
  · cases offerEq.symm.trans offered

/-- A submission that goes on waiting changes nothing. -/
theorem offerAgain_waits {caller : Nat} {wait : Span} {due : Nat} {next : Floor ε τ ρ}
    (offered : floor.offerAgain caller job wait due = (next, none)) : next = floor := by
  rcases floor.offerAgain_cases job caller wait due with
    ⟨_, offerEq⟩ | ⟨_, _, offerEq⟩ | ⟨_, _, _, offerEq⟩ | ⟨_, _, _, offerEq⟩
  · cases offerEq.symm.trans offered
  · cases offerEq.symm.trans offered
  · cases offerEq.symm.trans offered
  · cases offerEq.symm.trans offered
    rfl

/-- The pool once a caller with a new job has entered. -/
def entered (wait : Span) (scope : Nat) (task : τ) : Floor ε τ ρ :=
  ((floor.issue scope task).1.enter
    (.offering (floor.issue scope task).2 wait (floor.agenda.dueAfter wait))).1

/-- Submitting a task with patience is to enter and to offer its job. -/
theorem submitWithin_eq (wait : Span) (scope : Nat) (task : τ) :
    floor.submitWithin wait scope task =
      match (floor.entered wait scope task).offer floor.callers.length
          (floor.issue scope task).2 wait with
      | (next, some answer) =>
          (next.setCaller floor.callers.length (.offered answer next.now), floor.nextTicket,
            floor.callers.length)
      | (next, none) => (next, floor.nextTicket, floor.callers.length) := rfl

end Submissions

/-! ## Batches -/

section Batches

variable (floor : Floor ε τ ρ)

/-- The outcomes that have come for some tickets, each with its ticket. -/
def gathered (tickets : List Nat) : List (Nat × Outcome ρ) :=
  tickets.filterMap fun ticket =>
    (floor.outcome? ticket).map fun delivery => (ticket, delivery.outcome)

/-- The batch once the outcomes that have come are picked up. -/
def pickUp (batch : Batch τ ρ) : Batch τ ρ :=
  { batch with collected := floor.gathered batch.tickets, stage := .joining }

variable (caller : Nat) (batch : Batch τ ρ)

/-- Everything that can come of joining a batch. -/
theorem join_cases :
    (floor.isCancelled batch.scope = true ∧
      floor.join caller batch =
        (floor.onAgenda (·.release (.caller caller))).setCaller caller
          (.batched batch floor.now)) ∨
    (floor.isCancelled batch.scope = false ∧
      (floor.gathered batch.tickets).length = batch.tickets.length ∧
      floor.join caller batch =
        (floor.onAgenda (·.release (.caller caller))).setCaller caller
          (.batched (floor.pickUp batch) floor.now)) ∨
    (floor.isCancelled batch.scope = false ∧
      (floor.gathered batch.tickets).length ≠ batch.tickets.length ∧
      floor.join caller batch =
        ((floor.onAgenda (·.release (.caller caller))).setCaller caller
          (.batching (floor.pickUp batch))).onAgenda (·.watch batch.scope (.caller caller))) := by
  by_cases cancelled : floor.isCancelled batch.scope = true
  · exact Or.inl ⟨cancelled, if_pos cancelled⟩
  · have live : floor.isCancelled batch.scope = false := by simpa using cancelled
    right
    by_cases complete : (floor.gathered batch.tickets).length = batch.tickets.length
    · exact Or.inl ⟨live, complete, (if_neg cancelled).trans (if_pos complete)⟩
    · exact Or.inr ⟨live, complete, (if_neg cancelled).trans (if_neg complete)⟩

end Batches

/-! ## The dispatcher -/

section Dispatcher

variable (floor : Floor ε τ ρ)

theorem shut_handOver : floor.handOver.shut = floor.shut := by
  unfold handOver
  split
  next job queue worker idle _ _ =>
    exact (sameStaff_vacate { floor with queue := queue, idle := idle }).shut
  next => rfl

theorem dispatching_handOver : floor.handOver.dispatching = floor.dispatching := by
  unfold handOver
  split
  next job queue worker idle _ _ =>
    exact (sameStaff_vacate { floor with queue := queue, idle := idle }).dispatching
  next => rfl

/-- The queue is closed and those who wait for room are woken, but the jobs that were queued
have not failed yet. -/
def emptied : Floor ε τ ρ :=
  { floor.onAgenda (·.wakeAll (floor.waiting.map Actor.caller)) with
    queue := []
    free := floor.free + floor.queue.length
    dispatching := false }

theorem closeQueue_eq : floor.closeQueue = floor.emptied.failAll floor.queue := rfl

variable {floor}

/-- What every delivery keeps, failing the jobs of a closed queue keeps. -/
theorem failAll_preserves {motive : Floor ε τ ρ → Prop}
    (delivers : ∀ (between : Floor ε τ ρ) (job : Job τ), motive between →
      motive (between.deliver job (.error .poolShutdown)))
    (jobs : List (Job τ)) {floor : Floor ε τ ρ} (initial : motive floor) :
    motive (floor.failAll jobs) := by
  induction jobs generalizing floor with
  | nil => exact initial
  | cons job rest ih => exact ih (delivers floor job initial)

/-- What holds before the dispatcher's turn holds after it, if it is kept whenever a job is
handed over, and when the queue is closed. -/
theorem dispatch_preserves {motive : Floor ε τ ρ → Prop} (initial : motive floor)
    (handsOver : ∀ between : Floor ε τ ρ, between.shut = false → between.dispatching = true →
      motive between → motive between.handOver)
    (closes : floor.shut = true → floor.dispatching = true →
      motive floor.closeQueue.wakeClosers) : motive floor.dispatch := by
  unfold dispatch
  split
  · exact initial
  next running =>
    have dispatching : floor.dispatching = true := by simpa using running
    split
    next shut => exact closes shut dispatching
    next opened =>
      have open_ : floor.shut = false := by simpa using opened
      have repeated : ∀ count, (Nat.repeat handOver count floor).shut = false ∧
          (Nat.repeat handOver count floor).dispatching = true ∧
          motive (Nat.repeat handOver count floor) := by
        intro count
        induction count with
        | zero => exact ⟨open_, dispatching, initial⟩
        | succ count ih =>
            obtain ⟨still, dispatches, kept⟩ := ih
            exact ⟨(shut_handOver _).trans still, (dispatching_handOver _).trans dispatches,
              handsOver _ still dispatches kept⟩
      exact (repeated _).2.2

end Dispatcher

/-! ## Shutdowns -/

section Shutdowns

variable (floor : Floor ε τ ρ) (limit : Span)

/-- A pool whose shutdown has just begun. -/
def shutting : Floor ε τ ρ :=
  { floor with shut := true }.onAgenda fun agenda =>
    (agenda.wakeAll (floor.idle.map Actor.worker)).wake .dispatcher

/-- Everything that can come of a shutdown. -/
theorem shutdown_cases :
    (floor.shut = true ∧
      floor.shutdown limit = floor.enter (.closed (.ok ()) floor.now)) ∨
    (floor.shut = false ∧ floor.agenda.dueAfter limit ≤ floor.now ∧
      floor.shutdown limit =
        floor.shutting.enter (.closed (.error (.deadlineExceeded limit)) floor.now)) ∨
    (floor.shut = false ∧ floor.now < floor.agenda.dueAfter limit ∧
      floor.shutdown limit =
        ((floor.shutting.enter (.closing limit (floor.agenda.dueAfter limit))).1.onAgenda
          (·.setAlarm (floor.agenda.dueAfter limit) (.caller floor.callers.length)),
          floor.callers.length)) := by
  by_cases shut : floor.shut = true
  · exact Or.inl ⟨shut, by rw [Floor.shutdown, if_pos shut]⟩
  · have open_ : floor.shut = false := by simpa using shut
    by_cases due : floor.agenda.dueAfter limit ≤ floor.now
    · exact Or.inr (Or.inl ⟨open_, due, by rw [Floor.shutdown, if_neg shut, if_pos due]; rfl⟩)
    · refine Or.inr (Or.inr ⟨open_, by omega, ?_⟩)
      rw [Floor.shutdown, if_neg shut, if_neg due]
      rfl

end Shutdowns

end RiskGate.Pool.Floor
