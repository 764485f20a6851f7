import RiskGate.Proofs.Pool.Cancellation
import RiskGate.Proofs.Pool.Orders
import RiskGate.Proofs.Pool.Quiet

/-!
# The outcomes of a batch stand in the order of its tasks

Along every run the tickets of a batch are those of its tasks, in their order, whatever
else goes on in the pool.  As long as its scope is not cancelled, a batch that has ended
reports for each task what became of the job of this very task: the refusal of the
submission, the shutdown that stranded the job, or the outcome with which the task ended.

A batch ends as soon as it can: when nobody is ready, one that has not ended is held up by
tasks that are being run, and by nothing else.
-/

namespace RiskGate.Pool.Floor

open Schedule (Actor Agenda Clockwork)

variable {ε τ ρ : Type} {order : Order τ} {history notes : History τ ρ}
variable {number : Nat} {start floor : Floor ε τ ρ}

/-! ## Orders along a run -/

section Running

variable [Trade ε τ ρ]

/-- Every event lets an order go on. -/
theorem Serves.after (serves : Serves order history number floor) (sound : Sound history floor)
    {event : Event ε τ} (proper : floor.Proper event) :
    Serves order (history ++ floor.notes event) number (floor.after event) := by
  by_cases own : event = .turn (.caller number)
  · subst own
    have resting : Serves order history number (floor.unready (.caller number)) :=
      serves.onAgenda fun _ => id
    exact resting.attend (sound.unready _)
  have told : ∀ entry ∈ history, entry ∈ history ++ floor.notes event :=
    fun _ => List.mem_append_left _
  by_cases passes : ∃ instant, event = .pass instant
  · obtain ⟨instant, rfl⟩ := passes
    have moved : Serves order history number (floor.clockMoved instant) :=
      serves.mono rfl (fun _ => id) (fun _ => id) fun _ => id
    exact moved.of_spares (spares_pass instant) told
  · apply serves.of_spares _ told
    apply spares_after proper own
    · exact fun instant same => passes ⟨instant, same⟩
    · exact fun _ => Nat.ne_of_lt serves.inRange

/-- A run lets an order go on. -/
theorem Serves.run (serves : Serves order history number start) (arises : Arises history start)
    (run : Run start notes floor) : Serves order (history ++ notes) number floor := by
  induction run with
  | refl =>
      rw [List.append_nil]
      exact serves
  | tail event earlier allowed ih =>
      rw [← List.append_assoc]
      exact ih.after (arises.trans earlier).sound allowed.proper

end Running

/-! ## Orders that are given up -/

/-- Whatever was not known when the scope of a batch was cancelled is reported as
cancelled. -/
theorem Serves.reported_lost (serves : Serves order history number floor)
    (found : floor.callers[number]? = some (.batching batch)) (continues : batch.Continues final)
    {index ticket : Nat} (stands : final.tickets[index]? = some ticket)
    (unknown : ∀ ticket, batch.tickets[index]? = some ticket → floor.outcome? ticket = none) :
    final.reported ticket = .error .cancelled := by
  cases serves with
  | offering other _ _ _ _ otherFound _ _ _ _ _ _ _ fresh =>
      cases found.symm.trans otherFound
      exact reported_of_collected_nil (continues.collected.trans fresh) ticket
  | joining other otherFound stage made =>
      cases found.symm.trans otherFound
      obtain rfl : final = batch := continues.joining stage
      have missing : final.collected.find? (·.1 == ticket) = none := by
        rw [List.find?_eq_none]
        rintro ⟨collected, outcome⟩ member same
        obtain rfl : collected = ticket := by simpa using same
        obtain ⟨delivery, delivered, isOwn, _⟩ := made.collects _ member
        have known : (floor.outcome? collected).isSome = true :=
          List.find?_isSome.mpr ⟨delivery, delivered, by simp [isOwn]⟩
        rw [unknown collected stands] at known
        cases known
      rw [Batch.reported, missing]
      rfl
  | ended _ _ otherFound => cases found.symm.trans otherFound

/-! ## Orders that are held up -/

/-- At rest, every ticket that was given out has its outcome. -/
theorem AtRest.delivered (rest : floor.AtRest) (accounted : Accounted history floor) {ticket : Nat}
    (issued : ticket < floor.nextTicket) : ∃ delivery, floor.outcome? ticket = some delivery := by
  have counted := accounted.once ticket
  rw [rest.whereabouts, if_pos issued, countP_deliveryPlaces] at counted
  obtain ⟨delivery, only⟩ := List.length_eq_one_iff.mp counted
  have member : delivery ∈ floor.deliveries.filter (·.ticket == ticket) := by
    rw [only]
    exact List.mem_singleton_self _
  obtain ⟨delivered, same⟩ := List.mem_filter.mp member
  exact ⟨delivery, by rw [← accounted.outcome?_eq delivered, beq_iff_eq.mp same]⟩

/-- Some task is being run, and a batch waits for room or for the outcome of a job. -/
structure HeldUp (number : Nat) (floor : Floor ε τ ρ) : Prop where
  busy : ∃ job, .busy job ∈ floor.desks
  waits : floor.waitsForRoom number = true ∨
    ∃ batch, floor.callers[number]? = some (.batching batch) ∧
      ∃ ticket ∈ batch.tickets, floor.outcome? ticket = none

/-- When nobody is ready, an order was carried out or is held up. -/
theorem Serves.ended_or_heldUp [Trade ε τ ρ] (serves : Serves order history number floor)
    (arises : Arises history floor) (quiet : floor.agenda.ready = []) :
    (∃ outcomes instant, floor.outcomes? number = some (outcomes, instant)) ∨
      HeldUp number floor := by
  obtain ⟨workers, capacity, some, room, fit⟩ := arises.fit
  have resting : (¬∃ job, .busy job ∈ floor.desks) → floor.AtRest := by
    intro unbusy
    exact arises.alert.atRest fit some room quiet fun job member => unbusy ⟨job, member⟩
  cases serves with
  | offering batch job due rest earlier found stage =>
      have wants : (Caller.batching batch).wantsRoom = true := by rw [Caller.wantsRoom, stage]
      refine .inr ⟨?_, .inl ?_⟩
      · by_contra unbusy
        have served := (resting unbusy).callers _ (List.mem_of_getElem? found)
        cases wants.symm.trans served
      · rw [waitsForRoom, found]
        exact wants
  | joining batch found stage _ covers lacks =>
      obtain ⟨ticket, member, missing⟩ := lacks
      have unknown : floor.outcome? ticket = none := by
        cases known : floor.outcome? ticket with
        | none => rfl
        | some delivery =>
            obtain ⟨_, _, attentive⟩ := arises.minded number _ found
            rw [stage] at attentive
            rcases attentive.picked ticket member delivery known with collected | ⟨ready, _⟩
            · exact absurd collected (missing _)
            · rw [quiet] at ready
              cases ready
      refine .inr ⟨?_, .inr ⟨batch, found, ticket, member, unknown⟩⟩
      by_contra unbusy
      have accounted := arises.sound.accounted
      obtain ⟨job, _, issued⟩ := covers.issued member
      obtain ⟨delivery, known⟩ := (resting unbusy).delivered accounted (accounted.told_lt issued)
      cases unknown.symm.trans known
  | ended batch instant found =>
      exact .inl ⟨batch.outcomes, instant, outcomes?_eq_some_iff.mpr ⟨batch, found, rfl⟩⟩

/-! ## The law -/

/-- The pool is given an order. -/
def giving (order : Order τ) : Event ε τ := .executeBatch order.wait order.scope order.tasks

/-- Whatever a pool is used for, a batch whose scope is not cancelled ends as soon as no
task holds it up, with an outcome for each of its tasks, in their order, that is explained
by the story of the task's own job. -/
theorem outcomes_aligned [Trade ε τ ρ] {later : Floor ε τ ρ} (arises : Arises history floor)
    (opened : order.scope < floor.agenda.parents.length)
    (run : Run (floor.after (giving order)) notes later)
    (live : later.isCancelled order.scope = false) :
    (later.agenda.ready = [] →
      (∃ outcomes instant, later.outcomes? floor.callers.length = some (outcomes, instant)) ∨
        HeldUp floor.callers.length later) ∧
      ∀ outcomes instant, later.outcomes? floor.callers.length = some (outcomes, instant) →
        order.Aligned (history ++ floor.notes (giving order) ++ notes) outcomes := by
  have given : Arises (history ++ floor.notes (giving order)) (floor.after (giving order)) :=
    arises.trans (.single (giving order) opened)
  have serves := (serves_executeBatch arises.sound order).run given run
  have reached := given.trans run
  refine ⟨serves.ended_or_heldUp reached, ?_⟩
  intro outcomes instant ended
  obtain ⟨batch, found, rfl⟩ := outcomes?_eq_some_iff.mp ended
  exact serves.aligned reached.sound live found

/-- Four tasks for two workers and a queue with one place, each with a patience of 5 ms.
The first one takes longest, and the last one is refused. -/
def mixedOrder : Order Drill where
  wait := Span.ofMillis 5
  scope := 0
  tasks := [slowDrill 30 0, slowDrill 10 1, slowDrill 15 2, slowDrill 5 3]

def pairPool : Floor DrillGround Drill Int := make 2 1 {}

/-- What happens until the batch has ended. -/
def mixedEvents : List (Event DrillGround Drill) :=
  [.turn .dispatcher, .turn (.worker 0), .turn (.caller 0), .turn .dispatcher,
    .turn (.worker 1), .turn (.caller 0), .pass 5, .turn (.caller 0),
    .pass 10, .turn (.worker 1), .turn .dispatcher, .turn (.caller 0), .turn (.worker 1),
    .pass 25, .turn (.worker 1), .turn .dispatcher, .turn (.caller 0),
    .pass 30, .turn (.worker 0), .turn (.caller 0)]

/-- The pool when it is given the order. -/
def mixedStart : Floor DrillGround Drill Int := pairPool.after .openScope

/-- The pool when the batch has ended. -/
def mixedEnd : Floor DrillGround Drill Int :=
  (mixedStart.after (giving mixedOrder)).afterAll mixedEvents

theorem outcomes_aligned_mixed :
    mixedEnd.outcomes? 0 =
      some ([.ok 0, .ok 1, .ok 2, .error (.submissionTimeout (Span.ofMillis 5))], 30) ∧
    mixedOrder.Aligned
      ([] ++ mixedStart.notes (giving mixedOrder) ++
        (mixedStart.after (giving mixedOrder)).notesAll mixedEvents)
      [.ok 0, .ok 1, .ok 2, .error (.submissionTimeout (Span.ofMillis 5))] := by
  have arises : Arises [] mixedStart := ⟨2, 1, {}, .single .openScope trivial⟩
  have allowed : (mixedStart.after (giving mixedOrder)).AllowedAll mixedEvents := by decide
  have ended : mixedEnd.outcomes? 0 =
      some ([.ok 0, .ok 1, .ok 2, .error (.submissionTimeout (Span.ofMillis 5))], 30) := rfl
  have law := outcomes_aligned arises (by decide) allowed.run rfl
  exact ⟨ended, law.2 _ _ ended⟩

end RiskGate.Pool.Floor
