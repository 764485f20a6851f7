import RiskGate.Proofs.Tally
import RiskGate.Proofs.Pool.Notes

/-!
# The books of a pool

A pool counts the submissions that it accepted and those that it refused, the latter by
reason too, and the jobs that its workers were done with.  The counters of submissions are
written when a submission is answered, and nowhere else: between two states they grow by what
the notes tell of the answers in between.

Outcomes are not counted as such.  An outcome that is delivered while callers act is that of a
submission which was refused; one that is delivered by the dispatcher, or by a worker who
stops, is that of a job which stood in line when the pool was shut down; and any other is that
of a job which a worker was done with, which is counted as completed.
-/

namespace RiskGate.Pool

open Schedule (Actor Agenda)

variable {ε τ ρ : Type}

/-- The note says that a submission was refused. -/
def Note.isRefusal : Note τ ρ → Bool
  | .answered (.error _) => true
  | .answered (.ok ()) | .issued _ | .invoked _ | .yielded _ => false

namespace History

/-- The jobs that were refused, the first one first. -/
def refused (history : History τ ρ) : List Nat := history.tickets Note.isRefusal

theorem accepted_append (first second : History τ ρ) :
    (first ++ second).accepted = first.accepted ++ second.accepted :=
  tickets_append _ first second

theorem refused_append (first second : History τ ρ) :
    (first ++ second).refused = first.refused ++ second.refused :=
  tickets_append _ first second

/-- The refused jobs are those of which a refusal is noted. -/
theorem mem_refused {history : History τ ρ} {ticket : Nat} :
    ticket ∈ history.refused ↔ ∃ failure, (ticket, .answered (.error failure)) ∈ history := by
  rw [refused, tickets, List.mem_map]
  constructor
  · rintro ⟨⟨_, note⟩, member, rfl⟩
    obtain ⟨there, refusal⟩ := List.mem_filter.mp member
    cases note with
    | answered answer =>
        cases answer with
        | ok => cases refusal
        | error failure => exact ⟨failure, there⟩
    | issued | invoked | yielded => cases refusal
  · rintro ⟨failure, there⟩
    exact ⟨_, List.mem_filter.mpr ⟨there, rfl⟩, rfl⟩

/-- A submission that was answered was accepted or refused. -/
theorem length_answered (history : History τ ρ) :
    (history.tickets Note.isAnswer).length = history.accepted.length + history.refused.length := by
  induction history with
  | nil => rfl
  | cons entry rest ih =>
      have one : (tickets Note.isAnswer [entry]).length =
          (accepted [entry]).length + (refused [entry]).length := by
        obtain ⟨ticket, note⟩ := entry
        cases note with
        | answered answer => cases answer <;> rfl
        | issued | invoked | yielded => rfl
      rw [← List.singleton_append, tickets_append, accepted_append, refused_append,
        List.length_append, List.length_append, List.length_append, ih, one]
      omega

end History

namespace Floor

/-! ## Answers -/

/-- Between two states of a pool the answers that are noted were counted, and only refused
submissions had an outcome.  The pool is as open as it was. -/
structure Enters (notes : History τ ρ) (before after : Floor ε τ ρ) : Prop where
  shut : after.shut = before.shut
  submitted : after.submitted = before.submitted + notes.accepted.length
  rejected : after.rejected = before.rejected + notes.refused.length
  reasons : after.reasons.total = before.reasons.total + notes.refused.length
  ordered : before.reasons.Ordered → after.reasons.Ordered
  completed : after.completed = before.completed
  refused : ∃ new, after.deliveries = new ++ before.deliveries ∧
    ∀ delivery ∈ new, delivery.ticket ∈ notes.refused

namespace Enters

variable {before middle after : Floor ε τ ρ} {first second : History τ ρ}

/-- The books are left alone. -/
theorem nothing (shut : after.shut = before.shut) (submitted : after.submitted = before.submitted)
    (rejected : after.rejected = before.rejected) (reasons : after.reasons = before.reasons)
    (completed : after.completed = before.completed)
    (deliveries : after.deliveries = before.deliveries) : Enters [] before after where
  shut := shut
  submitted := submitted
  rejected := rejected
  reasons := congrArg Tally.total reasons
  ordered := by
    rw [reasons]
    exact id
  completed := completed
  refused := ⟨[], deliveries, nofun⟩

theorem refl (floor : Floor ε τ ρ) : Enters [] floor floor := .nothing rfl rfl rfl rfl rfl rfl

theorem trans (earlier : Enters first before middle) (later : Enters second middle after) :
    Enters (first ++ second) before after where
  shut := later.shut.trans earlier.shut
  submitted := by
    rw [later.submitted, earlier.submitted, History.accepted_append, List.length_append,
      Nat.add_assoc]
  rejected := by
    rw [later.rejected, earlier.rejected, History.refused_append, List.length_append,
      Nat.add_assoc]
  reasons := by
    rw [later.reasons, earlier.reasons, History.refused_append, List.length_append, Nat.add_assoc]
  ordered := fun ordered => later.ordered (earlier.ordered ordered)
  completed := later.completed.trans earlier.completed
  refused := by
    obtain ⟨early, earlyEq, early_refused⟩ := earlier.refused
    obtain ⟨late, lateEq, late_refused⟩ := later.refused
    refine ⟨late ++ early, by rw [lateEq, earlyEq, List.append_assoc], ?_⟩
    intro delivery member
    rw [History.refused_append]
    rcases List.mem_append.mp member with isLate | isEarly
    · exact List.mem_append_right _ (late_refused delivery isLate)
    · exact List.mem_append_left _ (early_refused delivery isEarly)

/-- What happens before does not matter as long as the books are left alone. -/
theorem after_still (still : Enters [] before middle) (enters : Enters first middle after) :
    Enters first before after :=
  still.trans enters

/-- What happens after does not matter as long as the books are left alone. -/
theorem before_still (enters : Enters first before middle) (still : Enters [] middle after) :
    Enters first before after := by
  have both := enters.trans still
  rwa [List.append_nil] at both

/-- That a job is passed to a submission is not entered. -/
theorem issued (enters : Enters first before after) (ticket : Nat) (job : Job τ) :
    Enters ((ticket, .issued job) :: first) before after :=
  ⟨enters.shut, enters.submitted, enters.rejected, enters.reasons, enters.ordered,
    enters.completed, enters.refused⟩

end Enters

section Moves

variable (floor : Floor ε τ ρ)

theorem enters_setCaller (number : Nat) (state : Caller τ ρ) :
    Enters [] floor (floor.setCaller number state) :=
  .nothing rfl rfl rfl rfl rfl rfl

theorem enters_enter (state : Caller τ ρ) : Enters [] floor (floor.enter state).1 :=
  .nothing rfl rfl rfl rfl rfl rfl

theorem enters_withdraw (caller : Nat) : Enters [] floor (floor.withdraw caller) :=
  .nothing rfl rfl rfl rfl rfl rfl

variable (job : Job τ)

/-- A refusal is counted, and so is its reason. -/
theorem enters_reject (failure : Failure) :
    Enters [(job.ticket, .answered (.error failure))] floor (floor.reject job failure) where
  shut := rfl
  submitted := rfl
  rejected := rfl
  reasons := Tally.total_bump _ _
  ordered := fun ordered => Tally.ordered_bump ordered _
  completed := rfl
  refused := by
    refine ⟨[⟨job.ticket, .error failure, floor.now⟩], rfl, ?_⟩
    intro delivery member
    rw [List.mem_singleton.mp member]
    exact List.mem_singleton_self _

/-- A job that comes into the queue is counted. -/
theorem enters_enqueue : Enters [(job.ticket, .answered (.ok ()))] floor (floor.enqueue job) := by
  unfold enqueue
  dsimp only
  split
  · exact ⟨rfl, rfl, rfl, rfl, id, rfl, [], rfl, nofun⟩
  · exact ⟨rfl, rfl, rfl, rfl, id, rfl, [], rfl, nofun⟩

theorem enters_takePlace :
    Enters [(job.ticket, .answered (.ok ()))] floor (floor.takePlace job) := by
  have taken : Enters [] floor { floor with free := floor.free - 1 } :=
    .nothing rfl rfl rfl rfl rfl rfl
  exact taken.after_still (enters_enqueue _ job)

/-! ## Submissions -/

theorem enters_offerNow :
    Enters (answerNotes job.ticket (some (floor.offerNow job).2)) floor
      (floor.offerNow job).1 := by
  unfold offerNow
  split
  · exact floor.enters_reject job .poolShutdown
  · split
    · exact floor.enters_takePlace job
    · exact floor.enters_reject job .queueFull

theorem enters_offer (caller : Nat) (wait : Span) :
    Enters (answerNotes job.ticket (floor.offer caller job wait).2) floor
      (floor.offer caller job wait).1 := by
  rcases floor.offer_cases job caller wait with
    ⟨_, offerEq⟩ | ⟨_, _, offerEq⟩ | ⟨_, _, _, offerEq⟩ | ⟨_, _, _, offerEq⟩
  · rw [offerEq]
    exact floor.enters_reject job .poolShutdown
  · rw [offerEq]
    exact floor.enters_takePlace job
  · rw [offerEq]
    exact floor.enters_reject job (.submissionTimeout wait)
  · rw [offerEq]
    exact .nothing rfl rfl rfl rfl rfl rfl

theorem enters_offerAgain (caller : Nat) (wait : Span) (due : Nat) :
    Enters (answerNotes job.ticket (floor.offerAgain caller job wait due).2) floor
      (floor.offerAgain caller job wait due).1 := by
  have withdrawn : Enters [] floor (floor.withdraw caller) := floor.enters_withdraw caller
  rcases floor.offerAgain_cases job caller wait due with
    ⟨_, offerEq⟩ | ⟨_, _, offerEq⟩ | ⟨_, _, _, offerEq⟩ | ⟨_, _, _, offerEq⟩
  · rw [offerEq]
    have returned : Enters [] floor
        { floor.withdraw caller with
          free := floor.free + (decide (caller ∈ floor.granted)).toNat } :=
      .nothing rfl rfl rfl rfl rfl rfl
    exact returned.after_still (enters_reject _ job .poolShutdown)
  · rw [offerEq]
    exact withdrawn.after_still (enters_enqueue _ job)
  · rw [offerEq]
    exact withdrawn.after_still (enters_reject _ job (.submissionTimeout wait))
  · rw [offerEq]
    exact .refl floor

theorem enters_submit (scope : Nat) (task : τ) :
    Enters ((floor.nextTicket, .issued (floor.issue scope task).2) ::
      answerNotes floor.nextTicket (some (floor.submit scope task).2.2)) floor
      (floor.submit scope task).1 := by
  have made : Enters [] floor (floor.issue scope task).1 := .nothing rfl rfl rfl rfl rfl rfl
  have answered : Enters _ (floor.issue scope task).1 (floor.submit scope task).1 :=
    enters_offerNow _ (floor.issue scope task).2
  exact (made.after_still answered).issued _ _

end Moves

section Callers

variable {floor next : Floor ε τ ρ} {caller : Nat}

/-- A caller who is told the answer of its submission. -/
theorem enters_told {job : Job τ} {answer : Outcome Unit} {before : Floor ε τ ρ}
    (enters : Enters (answerNotes job.ticket (some answer)) before next)
    (inRange : caller < next.callers.length) :
    Enters (answerNotes job.ticket
        (((next.setCaller caller (.offered answer next.now)).answer? caller).map Prod.fst))
      before (next.setCaller caller (.offered answer next.now)) := by
  rw [answer?_setCaller inRange]
  exact enters.before_still (enters_setCaller _ _ _)

theorem enters_submitWithin (wait : Span) (scope : Nat) (task : τ) :
    Enters ((floor.nextTicket, .issued (floor.issue scope task).2) ::
      answerNotes floor.nextTicket
        (((floor.submitWithin wait scope task).1.answer?
          (floor.submitWithin wait scope task).2.2).map Prod.fst)) floor
      (floor.submitWithin wait scope task).1 := by
  have came : Enters [] floor (floor.entered wait scope task) := .nothing rfl rfl rfl rfl rfl rfl
  have caller : (floor.entered wait scope task).callers[floor.callers.length]? =
      some (.offering (floor.issue scope task).2 wait (floor.agenda.dueAfter wait)) :=
    List.getElem?_concat_length
  have answered := came.after_still
    (enters_offer _ (floor.issue scope task).2 floor.callers.length wait)
  rw [submitWithin_eq]
  rcases offered : (floor.entered wait scope task).offer floor.callers.length
    (floor.issue scope task).2 wait with ⟨next, _ | answer⟩
  · rw [offered] at answered
    have silent : next.answer? floor.callers.length = none := by
      rw [answer?, (offer_waits _ _ offered).1.callers, caller]
    dsimp only
    rw [silent]
    exact answered.issued _ _
  · rw [offered] at answered
    have inRange : floor.callers.length < next.callers.length := by
      rw [(offer_settles _ _ offered).staff.callers]
      exact (List.getElem?_eq_some_iff.mp caller).1
    exact (enters_told answered inRange).issued _ _

theorem enters_offeringTurn {job : Job τ} {wait : Span} {due : Nat}
    (found : floor.callers[caller]? = some (.offering job wait due)) :
    Enters (answerNotes job.ticket
        (((floor.offeringTurn caller job wait due).answer? caller).map Prod.fst)) floor
      (floor.offeringTurn caller job wait due) := by
  have answered := floor.enters_offerAgain job caller wait due
  unfold offeringTurn
  rcases offered : floor.offerAgain caller job wait due with ⟨next, _ | answer⟩
  · obtain rfl := offerAgain_waits _ _ offered
    have silent : next.answer? caller = none := by rw [answer?, found]
    dsimp only
    rw [silent]
    exact .refl next
  · rw [offered] at answered
    have inRange : caller < next.callers.length := by
      rw [(offerAgain_settles _ _ offered).staff.callers]
      exact (List.getElem?_eq_some_iff.mp found).1
    exact enters_told answered inRange

/-! ## Batches -/

theorem enters_join (caller : Nat) (batch : Batch τ ρ) (floor : Floor ε τ ρ) :
    Enters [] floor (floor.join caller batch) := by
  rcases floor.join_cases caller batch with ⟨_, joinEq⟩ | ⟨_, _, joinEq⟩ | ⟨_, _, joinEq⟩
  · rw [joinEq]
    exact .nothing rfl rfl rfl rfl rfl rfl
  · rw [joinEq]
    exact .nothing rfl rfl rfl rfl rfl rfl
  · rw [joinEq]
    exact .nothing rfl rfl rfl rfl rfl rfl

/-- Handing in tasks, one after another. -/
theorem enters_handIn (caller : Nat) (tasks : List τ) (batch : Batch τ ρ) (floor : Floor ε τ ρ) :
    Enters (floor.handInNotes caller batch tasks) floor (floor.handIn caller batch tasks) := by
  induction tasks generalizing batch floor with
  | nil => exact enters_join caller batch floor
  | cons task rest ih =>
      have made : Enters [] floor (floor.issue batch.scope task).1 := .nothing rfl rfl rfl rfl rfl rfl
      have answered := made.after_still
        (enters_offer _ (floor.issue batch.scope task).2 caller batch.wait)
      rw [handIn, handInNotes]
      dsimp only
      rcases offered : (floor.issue batch.scope task).1.offer caller
        (floor.issue batch.scope task).2 batch.wait with ⟨next, _ | answer⟩
      · rw [offered] at answered
        exact (answered.before_still (enters_setCaller _ _ _)).issued _ _
      · rw [offered] at answered
        exact (answered.trans (ih _ next)).issued _ _

theorem enters_executeBatch (wait : Span) (scope : Nat) (tasks : List τ) :
    Enters ((floor.enter (.batching { scope := scope, wait := wait })).1.handInNotes
        floor.callers.length { scope := scope, wait := wait } tasks) floor
      (floor.executeBatch wait scope tasks).1 :=
  (floor.enters_enter _).after_still (enters_handIn _ tasks _ _)

theorem enters_batchTurn (batch : Batch τ ρ) :
    Enters (floor.batchNotes caller batch) floor (floor.batchTurn caller batch) := by
  unfold batchNotes batchTurn
  cases batch.stage with
  | joining => exact enters_join caller batch floor
  | offering job due rest =>
      have answered := floor.enters_offerAgain job caller batch.wait due
      dsimp only
      rcases offered : floor.offerAgain caller job batch.wait due with ⟨next, _ | answer⟩
      · rw [offered] at answered
        exact answered
      · rw [offered] at answered
        exact answered.trans
          ((next.enters_setCaller _ _).after_still (enters_handIn caller rest _ _))

/-- A caller's turn. -/
theorem enters_attend (caller : Nat) (floor : Floor ε τ ρ) :
    Enters (floor.attendNotes caller) floor (floor.attend caller) := by
  unfold attendNotes attend
  cases found : floor.callers[caller]? with
  | none => exact .refl floor
  | some state =>
      cases state with
      | offering job wait due => exact enters_offeringTurn found
      | batching batch => exact enters_batchTurn batch
      | closing limit due =>
          dsimp only
          unfold closingTurn
          dsimp only
          split
          · exact .nothing rfl rfl rfl rfl rfl rfl
          · split
            · exact .nothing rfl rfl rfl rfl rfl rfl
            · exact .refl floor
      | offered | batched | closed => exact .refl floor

end Callers

/-! ## The staff -/

/-- Between two states of a pool some outcomes were delivered, as many jobs as the number says
were counted as completed, and no submission was answered.  The pool is as open as it was. -/
structure Delivers (number : Nat) (new : List (Delivery ρ)) (before after : Floor ε τ ρ) :
    Prop where
  shut : after.shut = before.shut
  submitted : after.submitted = before.submitted
  rejected : after.rejected = before.rejected
  reasons : after.reasons = before.reasons
  completed : after.completed = before.completed + number
  deliveries : after.deliveries = new ++ before.deliveries

namespace Delivers

variable {before middle after : Floor ε τ ρ} {number : Nat} {new : List (Delivery ρ)}

theorem refl (floor : Floor ε τ ρ) : Delivers 0 [] floor floor := ⟨rfl, rfl, rfl, rfl, rfl, rfl⟩

/-- What happens before does not matter as long as the books are left alone. -/
theorem after_still (still : Delivers 0 [] before middle)
    (delivers : Delivers number new middle after) : Delivers number new before after where
  shut := delivers.shut.trans still.shut
  submitted := delivers.submitted.trans still.submitted
  rejected := delivers.rejected.trans still.rejected
  reasons := delivers.reasons.trans still.reasons
  completed := by rw [delivers.completed, still.completed, Nat.add_zero]
  deliveries := by rw [delivers.deliveries, still.deliveries, List.nil_append]

/-- What happens after does not matter as long as the books are left alone. -/
theorem before_still (delivers : Delivers number new before middle)
    (still : Delivers 0 [] middle after) : Delivers number new before after where
  shut := still.shut.trans delivers.shut
  submitted := still.submitted.trans delivers.submitted
  rejected := still.rejected.trans delivers.rejected
  reasons := still.reasons.trans delivers.reasons
  completed := still.completed.trans delivers.completed
  deliveries := by rw [still.deliveries, List.nil_append, delivers.deliveries]

end Delivers

section Staff

variable (floor : Floor ε τ ρ)

theorem delivers_handOver : Delivers 0 [] floor floor.handOver := by
  unfold handOver
  split
  · unfold vacate
    split
    · exact ⟨rfl, rfl, rfl, rfl, rfl, rfl⟩
    · exact ⟨rfl, rfl, rfl, rfl, rfl, rfl⟩
  · exact .refl floor

/-- Each of the jobs is delivered as stranded, and none is counted. -/
theorem delivers_failAll (jobs : List (Job τ)) (floor : Floor ε τ ρ) :
    ∃ new, Delivers 0 new floor (floor.failAll jobs) ∧ ∀ delivery ∈ new,
      delivery.outcome = .error .poolShutdown ∧ ∃ job ∈ jobs, job.ticket = delivery.ticket := by
  induction jobs generalizing floor with
  | nil => exact ⟨[], .refl floor, nofun⟩
  | cons job rest ih =>
      obtain ⟨new, later, stranded⟩ := ih (floor.deliver job (.error .poolShutdown))
      refine ⟨new ++ [⟨job.ticket, .error .poolShutdown, floor.now⟩], ?_, ?_⟩
      · refine ⟨later.shut, later.submitted, later.rejected, later.reasons, later.completed, ?_⟩
        rw [List.append_assoc]
        exact later.deliveries
      · intro delivery member
        rcases List.mem_append.mp member with old | first
        · obtain ⟨outcome, other, present, same⟩ := stranded delivery old
          exact ⟨outcome, other, List.mem_cons_of_mem _ present, same⟩
        · rw [List.mem_singleton.mp first]
          exact ⟨rfl, job, List.mem_cons_self, rfl⟩

/-- The dispatcher delivers nothing, but what strands when the pool is shut down. -/
theorem delivers_dispatch :
    ∃ new, Delivers 0 new floor floor.dispatch ∧ ∀ delivery ∈ new,
      floor.shut = true ∧ delivery.outcome = .error .poolShutdown ∧
        ∃ job ∈ floor.queue, job.ticket = delivery.ticket := by
  refine dispatch_preserves
    (motive := fun next => ∃ new, Delivers 0 new floor next ∧ ∀ delivery ∈ new,
      floor.shut = true ∧ delivery.outcome = .error .poolShutdown ∧
        ∃ job ∈ floor.queue, job.ticket = delivery.ticket)
    ⟨[], .refl floor, nofun⟩ ?_ ?_
  · rintro between _ _ ⟨new, delivers, stranded⟩
    exact ⟨new, delivers.before_still (delivers_handOver between), stranded⟩
  · intro shut _
    obtain ⟨new, failed, stranded⟩ := delivers_failAll floor.queue floor.emptied
    exact ⟨new, ⟨failed.shut, failed.submitted, failed.rejected, failed.reasons,
      failed.completed, failed.deliveries⟩, fun delivery member =>
        ⟨shut, stranded delivery member⟩⟩

variable (index : Nat)

theorem delivers_stop : Delivers 0 [] floor (floor.stop index) := ⟨rfl, rfl, rfl, rfl, rfl, rfl⟩

theorem delivers_register : Delivers 0 [] floor (floor.register index) := by
  unfold register
  dsimp only
  split
  · exact ⟨rfl, rfl, rfl, rfl, rfl, rfl⟩
  · exact ⟨rfl, rfl, rfl, rfl, rfl, rfl⟩

/-- A job that a worker is done with is counted. -/
theorem delivers_complete (job : Job τ) (outcome : Outcome ρ) :
    Delivers 1 [⟨job.ticket, outcome, floor.now⟩] floor (floor.complete index job outcome) := by
  let counted : Floor ε τ ρ :=
    { (floor.onAgenda (·.release (.worker index))).deliver job outcome with
      completed := floor.completed + 1 }
  have delivered : Delivers 1 [⟨job.ticket, outcome, floor.now⟩] floor counted :=
    ⟨rfl, rfl, rfl, rfl, rfl, rfl⟩
  have completeEq : floor.complete index job outcome =
      if counted.shut then counted.stop index else counted.register index := rfl
  rw [completeEq]
  split
  · exact delivered.before_still (counted.delivers_stop index)
  · exact delivered.before_still (counted.delivers_register index)

/-- What a worker enters when it takes its turn. -/
inductive WorkEntry (after : Floor ε τ ρ) : Prop where
  | nothing (delivers : Delivers 0 [] floor after)
  /-- The job that was handed to it is stranded. -/
  | strands (job : Job τ) (found : floor.desks[index]? = some (.handed job))
      (shut : floor.shut = true)
      (delivers : Delivers 0 [⟨job.ticket, .error .poolShutdown, floor.now⟩] floor after)
  /-- It is done with a job that was begun, or that could have been begun. -/
  | completes (job : Job τ) (outcome : Outcome ρ) (instant : Nat)
      (found : floor.desks[index]? = some (.busy job) ∨
        floor.desks[index]? = some (.handed job) ∧ floor.shut = false)
      (delivers : Delivers 1 [⟨job.ticket, outcome, instant⟩] floor after)

variable {floor index}

theorem WorkEntry.of_run [Trade ε τ ρ] {before : Floor ε τ ρ} (still : Delivers 0 [] before floor)
    {job : Job τ} (found : before.desks[index]? = some (.busy job) ∨
      before.desks[index]? = some (.handed job) ∧ before.shut = false) :
    before.WorkEntry index (floor.run index job) := by
  unfold run
  dsimp only
  rcases Trade.resume (ρ := ρ) (Actor.worker index) floor.now job.task floor.shared with
    ⟨shared, outcome | ⟨task, alarms⟩⟩
  · have changed : Delivers 0 [] before { floor with shared := shared } :=
      still.before_still ⟨rfl, rfl, rfl, rfl, rfl, rfl⟩
    exact .completes job outcome _ found
      (changed.after_still (delivers_complete _ index job outcome))
  · exact .nothing (still.before_still ⟨rfl, rfl, rfl, rfl, rfl, rfl⟩)

/-- A worker's turn. -/
theorem workEntry_work [Trade ε τ ρ] (index : Nat) (floor : Floor ε τ ρ) :
    floor.WorkEntry index (floor.work index) := by
  unfold work
  cases found : floor.desks[index]? with
  | none => exact .nothing (.refl floor)
  | some desk =>
      cases desk with
      | gone => exact .nothing (.refl floor)
      | idle =>
          dsimp only
          split
          · exact .nothing (floor.delivers_stop index)
          · exact .nothing (.refl floor)
      | handed job =>
          dsimp only
          split
          next shut => exact .strands job found shut ⟨rfl, rfl, rfl, rfl, rfl, rfl⟩
          next open_ =>
            have begins : floor.desks[index]? = some (.busy job) ∨
                floor.desks[index]? = some (.handed job) ∧ floor.shut = false :=
              .inr ⟨found, by simpa using open_⟩
            split
            · exact .completes job _ _ begins (floor.delivers_complete index job _)
            · have watching : Delivers 0 [] floor
                  (floor.onAgenda (·.watch job.scope (.worker index))) :=
                ⟨rfl, rfl, rfl, rfl, rfl, rfl⟩
              exact .of_run watching begins
      | busy job =>
          dsimp only
          split
          · unfold giveUp
            dsimp only
            rcases Trade.abandon ρ (Actor.worker index) floor.now job.task floor.shared with
              ⟨shared, woken⟩
            have left : Delivers 0 [] floor
                (onAgenda (·.wakeAll woken) { floor with shared := shared }) :=
              ⟨rfl, rfl, rfl, rfl, rfl, rfl⟩
            exact .completes job _ _ (.inl found)
              (left.after_still (delivers_complete _ index job _))
          · exact .of_run (.refl floor) (.inl found)

end Staff

/-! ## Events -/

/-- A pool stays open until it is shut down. -/
theorem shut_after_of_ne [Trade ε τ ρ] {floor : Floor ε τ ρ} {event : Event ε τ}
    (other : ∀ limit, event ≠ .shutdown limit) : (floor.after event).shut = floor.shut := by
  cases event with
  | submit scope task => exact (floor.enters_submit scope task).shut
  | submitWithin wait scope task => exact (enters_submitWithin wait scope task).shut
  | executeBatch wait scope tasks => exact (enters_executeBatch wait scope tasks).shut
  | shutdown limit => exact absurd rfl (other limit)
  | turn actor =>
      cases actor with
      | dispatcher =>
          obtain ⟨_, delivers, _⟩ := (floor.unready .dispatcher).delivers_dispatch
          exact delivers.shut
      | worker index =>
          cases (floor.unready (.worker index)).workEntry_work index with
          | nothing delivers | strands _ _ _ delivers | completes _ _ _ _ delivers =>
              exact delivers.shut
      | caller number => exact (enters_attend number _).shut
      | guest | timer => rfl
  | openScope | openChild | cancel | plan | disturb | rearrange | pass => rfl

end Floor

end RiskGate.Pool
