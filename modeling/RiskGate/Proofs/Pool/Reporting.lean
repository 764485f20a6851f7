import RiskGate.Proofs.Pool.Cancellation

/-!
# What a batch reports

The outcomes of a batch stand in the order of its tasks.  A batch that ends before
its scope is cancelled reports what was delivered for each of its jobs.  A batch
that is cut short by the cancellation reports what it had picked up, and reports
the rest as cancelled.

Whether this is all that had been delivered before the cancellation depends on
what the batch was waiting for.  A batch that waits for outcomes has picked up
everything.  A batch that waits for room has picked up nothing, so that it drops
each result that is not itself a cancellation.
-/

namespace RiskGate.Pool

variable {ε τ ρ : Type}

/-- What a batch reports for the job with a ticket. -/
def Batch.reported (batch : Batch τ ρ) (ticket : Nat) : Outcome ρ :=
  ((batch.collected.find? (·.1 == ticket)).map Prod.snd).getD (.error .cancelled)

theorem Batch.outcomes_getElem? (batch : Batch τ ρ) (index : Nat) :
    batch.outcomes[index]? = (batch.tickets[index]?).map batch.reported :=
  List.getElem?_map

namespace Floor

/-! ## Deliveries -/

/-- A job has one outcome at most. -/
theorem Accounted.delivery_unique {history : History τ ρ} {floor : Floor ε τ ρ}
    (accounted : Accounted history floor) {first second : Delivery ρ}
    (delivered_first : first ∈ floor.deliveries) (delivered_second : second ∈ floor.deliveries)
    (same : first.ticket = second.ticket) : first = second := by
  have counted : floor.whereabouts.countP (·.1 = first.ticket) ≤ 1 := by
    rw [accounted.once]
    split <;> omega
  have part : (deliveryPlaces (τ := τ) floor.deliveries).countP (·.1 = first.ticket) ≤ 1 :=
    Nat.le_trans (Multiset.countP_le_of_le _ (Multiset.le_add_left _ _)) counted
  rw [countP_deliveryPlaces] at part
  have first_mem : first ∈ floor.deliveries.filter (·.ticket == first.ticket) :=
    List.mem_filter.mpr ⟨delivered_first, by simp⟩
  have second_mem : second ∈ floor.deliveries.filter (·.ticket == first.ticket) :=
    List.mem_filter.mpr ⟨delivered_second, by simp [same]⟩
  rcases filterEq : floor.deliveries.filter (·.ticket == first.ticket) with
    _ | ⟨only, _ | ⟨other, rest⟩⟩
  · rw [filterEq] at first_mem
    cases first_mem
  · rw [filterEq] at first_mem second_mem
    exact (List.mem_singleton.mp first_mem).trans (List.mem_singleton.mp second_mem).symm
  · rw [filterEq] at part
    simp at part

/-- What was delivered under a ticket is found under it. -/
theorem Accounted.outcome?_eq {history : History τ ρ} {floor : Floor ε τ ρ}
    (accounted : Accounted history floor) {delivery : Delivery ρ}
    (delivered : delivery ∈ floor.deliveries) :
    floor.outcome? delivery.ticket = some delivery := by
  have known : (floor.outcome? delivery.ticket).isSome = true :=
    List.find?_isSome.mpr ⟨delivery, delivered, by simp⟩
  obtain ⟨found, foundEq⟩ := Option.isSome_iff_exists.mp known
  obtain ⟨isDelivered, ticketEq⟩ := exists_delivery_of_outcome? foundEq
  rw [foundEq, accounted.delivery_unique isDelivered delivered ticketEq]

/-- What is delivered by an event bears its instant, and time does not go back. -/
theorem deliveries_after [Trade ε τ ρ] {floor : Floor ε τ ρ} {event : Event ε τ}
    (allowed : floor.Allowed event) :
    floor.now ≤ (floor.after event).now ∧
      ∃ new, (floor.after event).deliveries = new ++ floor.deliveries ∧
        ∀ delivery ∈ new, floor.now ≤ delivery.deliveredAt := by
  by_cases passes : ∃ instant, event = .pass instant
  · obtain ⟨instant, rfl⟩ := passes
    have spares : Spares 0 (floor.clockMoved instant) (floor.after (.pass instant)) :=
      spares_pass instant
    have now_eq : (floor.after (.pass instant)).now = max floor.now instant :=
      spares.agenda.now_eq
    exact ⟨by omega, [], rfl, fun _ member => absurd member List.not_mem_nil⟩
  · -- Some caller neither acts nor enters, and sees what is delivered.
    obtain ⟨number, notOwn, other⟩ : ∃ number, event ≠ .turn (.caller number) ∧
        number ≠ floor.callers.length := by
      by_cases own : event = .turn (.caller (floor.callers.length + 1))
      · exact ⟨floor.callers.length + 2, by simp [own], by omega⟩
      · exact ⟨floor.callers.length + 1, own, by omega⟩
    have spares : Spares number floor (floor.after event) :=
      spares_after allowed.proper notOwn (fun instant same => passes ⟨instant, same⟩) fun _ => other
    obtain ⟨new, deliveries, awaited⟩ := spares.deliveries
    exact ⟨Nat.le_of_eq spares.agenda.now_eq.symm, new, deliveries,
      fun delivery member => Nat.le_of_eq (awaited delivery member).1.symm⟩

/-- What is delivered along a run is not earlier than its start. -/
theorem Run.deliveries [Trade ε τ ρ] {history : History τ ρ} {start floor : Floor ε τ ρ}
    (run : Run start history floor) :
    start.now ≤ floor.now ∧ ∃ new, floor.deliveries = new ++ start.deliveries ∧
      ∀ delivery ∈ new, start.now ≤ delivery.deliveredAt := by
  induction run with
  | refl => exact ⟨Nat.le_refl _, [], rfl, fun _ member => absurd member List.not_mem_nil⟩
  | tail event _ allowed ih =>
      obtain ⟨forward, early, early_eq, early_late⟩ := ih
      obtain ⟨onward, late, late_eq, late_late⟩ := deliveries_after allowed
      refine ⟨Nat.le_trans forward onward, late ++ early, ?_, ?_⟩
      · rw [late_eq, early_eq, List.append_assoc]
      · intro delivery member
        rcases List.mem_append.mp member with isLate | isEarly
        · exact Nat.le_trans forward (late_late delivery isLate)
        · exact early_late delivery isEarly

/-! ## Batches cut short -/

/-- The job with a ticket had its outcome before an instant. -/
def FinishedBefore (instant ticket : Nat) (outcome : Outcome ρ) (floor : Floor ε τ ρ) : Prop :=
  ∃ delivery ∈ floor.deliveries,
    delivery.ticket = ticket ∧ delivery.outcome = outcome ∧ delivery.deliveredAt < instant

/-- A batch that has ended reports the outcome of each item that was finished
before an instant, and reports as cancelled only items that were not, or whose own
outcome is a cancellation. -/
structure KeepsFinished (instant : Nat) (batch : Batch τ ρ) (floor : Floor ε τ ρ) : Prop where
  reported : ∀ (index ticket : Nat) (outcome : Outcome ρ), batch.tickets[index]? = some ticket →
    floor.FinishedBefore instant ticket outcome → batch.outcomes[index]? = some outcome
  outstanding : ∀ (index ticket : Nat) (outcome : Outcome ρ),
    batch.tickets[index]? = some ticket →
    batch.outcomes[index]? = some (.error .cancelled) →
    floor.FinishedBefore instant ticket outcome → outcome = .error .cancelled

theorem KeepsFinished.of_reported {instant : Nat} {batch : Batch τ ρ} {floor : Floor ε τ ρ}
    (reported : ∀ ticket ∈ batch.tickets, ∀ outcome,
      floor.FinishedBefore instant ticket outcome → batch.reported ticket = outcome) :
    KeepsFinished instant batch floor := by
  have outcomeAt : ∀ (index ticket : Nat) (outcome : Outcome ρ), batch.tickets[index]? = some ticket →
      floor.FinishedBefore instant ticket outcome → batch.outcomes[index]? = some outcome := by
    intro index ticket outcome found finished
    rw [batch.outcomes_getElem?, found, Option.map_some,
      reported ticket (List.mem_of_getElem? found) outcome finished]
  constructor
  · exact outcomeAt
  intro index ticket outcome found cancelled finished
  have own := outcomeAt index ticket outcome found finished
  rw [cancelled] at own
  exact (Option.some.inj own).symm

/-- What was picked up for a job is its outcome. -/
theorem reported_of_collected {history : History τ ρ} {floor : Floor ε τ ρ} {batch : Batch τ ρ}
    (accounted : Accounted history floor) (collects : Collects batch floor)
    {delivery : Delivery ρ} (delivered : delivery ∈ floor.deliveries)
    (collected : ∃ outcome, (delivery.ticket, outcome) ∈ batch.collected) :
    batch.reported delivery.ticket = delivery.outcome := by
  obtain ⟨outcome, member⟩ := collected
  have known : (batch.collected.find? (·.1 == delivery.ticket)).isSome = true :=
    List.find?_isSome.mpr ⟨_, member, by simp⟩
  obtain ⟨entry, found⟩ := Option.isSome_iff_exists.mp known
  have ticketEq : entry.1 = delivery.ticket := by simpa using List.find?_some found
  obtain ⟨source, isDelivered, source_ticket, source_outcome⟩ :=
    collects entry (List.mem_of_find?_eq_some found)
  have same : source = delivery :=
    accounted.delivery_unique isDelivered delivered (source_ticket.trans ticketEq)
  rw [Batch.reported, found, Option.map_some, Option.getD_some, ← source_outcome, same]

/-- A batch that has picked up nothing reports every item as cancelled. -/
theorem reported_of_collected_nil {batch : Batch τ ρ} (nothing : batch.collected = [])
    (ticket : Nat) : batch.reported ticket = .error .cancelled := by
  rw [Batch.reported, nothing]
  rfl

section Ended

variable [Trade ε τ ρ] {number returned : Nat} {batch final : Batch τ ρ}
  {history notes : History τ ρ} {floor later : Floor ε τ ρ}

/-- A batch whose scope is cancelled while it waits for outcomes has picked up
everything that was finished before. -/
theorem keepsFinished_of_joining (arises : Arises history floor)
    (calling : floor.callers[number]? = some (.batching batch)) (joining : batch.stage = .joining)
    (run : Run floor notes later) : KeepsFinished floor.now batch later := by
  obtain ⟨_, collects, attentive⟩ := arises.minded number _ calling
  rw [joining] at attentive
  obtain ⟨_, new, deliveries, new_late⟩ := run.deliveries
  have accounted := arises.sound.accounted
  apply KeepsFinished.of_reported
  intro ticket member outcome finished
  obtain ⟨delivery, delivered, rfl, rfl, early⟩ := finished
  have old : delivery ∈ floor.deliveries := by
    rw [deliveries] at delivered
    rcases List.mem_append.mp delivered with isNew | isOld
    · exact absurd (new_late delivery isNew) (Nat.not_le_of_lt early)
    · exact isOld
  rcases attentive.picked _ member delivery (accounted.outcome?_eq old) with
    collected | ⟨_, deliveredAt⟩
  · exact reported_of_collected accounted collects old ⟨_, collected⟩
  · exact absurd deliveredAt (Nat.ne_of_lt early)

/-- A batch that is in progress when its scope is cancelled keeps the results that
were there before if and only if it waits for outcomes, and not for room, or if
there was no result but cancellations. -/
theorem keepsFinished_iff (arises : Arises history floor)
    (calling : floor.callers[number]? = some (.batching batch))
    (cancelled : floor.isCancelled batch.scope = true) (run : Run floor notes later)
    (ended : later.callers[number]? = some (.batched final returned)) :
    KeepsFinished floor.now final later ↔
      batch.stage = .joining ∨
        ∀ ticket ∈ final.tickets, ∀ outcome,
          later.FinishedBefore floor.now ticket outcome → outcome = .error .cancelled := by
  have start : Lapsing number batch floor.now floor :=
    ⟨cancelled, Nat.le_refl _, batch, .refl batch, Or.inl calling⟩
  obtain ⟨last, continues, found | ⟨_, _, _, found⟩⟩ := (start.run run).continues
  · cases ended.symm.trans found
  cases ended.symm.trans found
  cases stage : batch.stage with
  | joining =>
      obtain rfl : final = batch := continues.joining stage
      exact iff_of_true (keepsFinished_of_joining arises calling stage run) (Or.inl rfl)
  | offering job due rest =>
      have nothing : final.collected = [] := by
        obtain ⟨_, _, fresh⟩ := arises.minded number _ calling
        rw [stage] at fresh
        exact continues.collected.trans fresh
      constructor
      · intro keeps
        right
        intro ticket member outcome finished
        obtain ⟨index, index_found⟩ := List.mem_iff_getElem?.mp member
        have own := keeps.reported index ticket outcome index_found finished
        rw [final.outcomes_getElem?, index_found, Option.map_some,
          reported_of_collected_nil nothing] at own
        exact (Option.some.inj own).symm
      · rintro (joining | trivial_outcomes)
        · cases joining
        · apply KeepsFinished.of_reported
          intro ticket member outcome finished
          rw [reported_of_collected_nil nothing, trivial_outcomes ticket member outcome finished]

end Ended

/-- A task that takes a while. -/
def slowDrill (latency : Nat) (value : Int) : Drill :=
  { label := "slow", latency := latency, outcome := .ok value }

/-- A batch of four tasks is handed in to a pool with one worker and one place in
its queue, and its scope is cancelled after 50 ms.  The first task has ended after
10 ms, and the fourth still waits for room. -/
def cutShortEvents : List (Event DrillGround Drill) :=
  [.openScope,
    .executeBatch (Span.ofMillis 2000) 0
      [slowDrill 10 7, slowDrill 1000 8, slowDrill 1000 9, slowDrill 1000 10],
    .plan 50 0, .turn .dispatcher, .turn (.caller 0), .turn (.worker 0), .pass 10,
    .turn (.worker 0), .turn .dispatcher, .turn (.caller 0), .turn (.worker 0), .pass 50]

/-- The pool at the instant of the cancellation. -/
def cutShort : Floor DrillGround Drill Int := soloPool.afterAll cutShortEvents

/-- The turns that lead to the end of the batch. -/
def endingEvents : List (Event DrillGround Drill) :=
  [.turn (.worker 0), .turn .dispatcher, .turn (.worker 0), .turn (.caller 0)]

theorem cutShort_arises : Arises (soloPool.notesAll cutShortEvents) cutShort := by
  have allowed : soloPool.AllowedAll cutShortEvents := by decide
  exact ⟨1, 1, {}, allowed.run⟩

theorem cutShort_ends :
    Run cutShort (cutShort.notesAll endingEvents) (cutShort.afterAll endingEvents) := by
  have allowed : cutShort.AllowedAll endingEvents := by decide
  exact allowed.run

theorem keepsFinished_iff_cutShort :
    ∃ batch final, cutShort.callers[0]? = some (.batching batch) ∧
      (cutShort.afterAll endingEvents).callers[0]? = some (.batched final 50) ∧
      (KeepsFinished 50 final (cutShort.afterAll endingEvents) ↔
        batch.stage = .joining ∨
          ∀ ticket ∈ final.tickets, ∀ outcome,
            (cutShort.afterAll endingEvents).FinishedBefore 50 ticket outcome →
              outcome = .error .cancelled) := by
  have calling : cutShort.callers[0]? = some (.batching _) := rfl
  have ended : (cutShort.afterAll endingEvents).callers[0]? = some (.batched _ 50) := rfl
  exact ⟨_, _, calling, ended, keepsFinished_iff cutShort_arises calling rfl cutShort_ends ended⟩

/-- A result that was there 40 ms before the cancellation is reported as cancelled. -/
theorem finished_result_dropped :
    (∃ batch, cutShort.callers[0]? = some (.batching batch) ∧
      cutShort.isCancelled batch.scope = true ∧ cutShort.now = 50) ∧
    ∃ notes final, Run cutShort notes final ∧
      final.outcome? 0 = some ⟨0, .ok 7, 10⟩ ∧
      final.outcomes? 0 = some (List.replicate 4 (.error .cancelled), 50) :=
  ⟨⟨_, rfl, rfl, rfl⟩, _, _, cutShort_ends, rfl, rfl⟩

end Floor

end RiskGate.Pool
