import RiskGate.Proofs.Pool.Attention
import RiskGate.Proofs.Pool.Delivery

/-!
# Batches whose scope is cancelled

A batch picks up nothing once its scope is cancelled.  If it waits for outcomes at
that instant, its caller is woken, and it ends at this instant with what it has
picked up before, which is everything that was delivered earlier.  If it waits for
room in the queue, nobody wakes it: it ends when its last job is handed in, and it
has picked up nothing by then.

So a cancellation ends a batch at once exactly if the batch is not left waiting
for room, and a batch reports the results that were there before the cancellation
exactly if it was not waiting for room, or had no result to lose.
-/

namespace RiskGate.Pool

open Schedule (Actor Agenda)

variable {ε τ ρ : Type}

/-- What a batch with a cancelled scope can become: one that waits for outcomes
stays as it is, and one that waits for room picks nothing up. -/
structure Batch.Continues (before after : Batch τ ρ) : Prop where
  scope : after.scope = before.scope
  collected : after.collected = before.collected
  joining : before.stage = .joining → after = before

theorem Batch.Continues.refl (batch : Batch τ ρ) : batch.Continues batch :=
  ⟨rfl, rfl, fun _ => rfl⟩

namespace Floor

/-! ## From the cancellation to the end -/

/-- The scope of a batch is cancelled, and the batch goes on or ended at some
instant since. -/
structure Lapsing (number : Nat) (batch : Batch τ ρ) (since : Nat) (floor : Floor ε τ ρ) :
    Prop where
  cancelled : floor.isCancelled batch.scope = true
  since_le : since ≤ floor.now
  continues : ∃ after, batch.Continues after ∧
    (floor.callers[number]? = some (.batching after) ∨
      ∃ instant, since ≤ instant ∧ instant ≤ floor.now ∧
        floor.callers[number]? = some (.batched after instant))

namespace Lapsing

variable {number since : Nat} {batch : Batch τ ρ} {floor next : Floor ε τ ρ}

theorem inRange (lapsing : Lapsing number batch since floor) : number < floor.callers.length := by
  obtain ⟨_, _, found | ⟨_, _, _, found⟩⟩ := lapsing.continues
  · exact (List.getElem?_eq_some_iff.mp found).1
  · exact (List.getElem?_eq_some_iff.mp found).1

theorem of_spares (lapsing : Lapsing number batch since floor)
    (spares : Spares number floor next) : Lapsing number batch since next := by
  have now_eq : next.now = floor.now := spares.agenda.now_eq
  constructor
  · exact spares.isCancelled lapsing.cancelled
  · rw [now_eq]
    exact lapsing.since_le
  · rw [spares.caller, now_eq]
    exact lapsing.continues

theorem clockMoved [Trade ε τ ρ] (lapsing : Lapsing number batch since floor) (instant : Nat) :
    Lapsing number batch since (floor.clockMoved instant) := by
  have forward : floor.now ≤ (floor.clockMoved instant).now := Nat.le_max_left _ _
  refine ⟨lapsing.cancelled, Nat.le_trans lapsing.since_le forward, ?_⟩
  obtain ⟨after, continues, found | ⟨ended, from_since, past, found⟩⟩ := lapsing.continues
  · exact ⟨after, continues, Or.inl found⟩
  · exact ⟨after, continues, Or.inr ⟨ended, from_since, Nat.le_trans past forward, found⟩⟩

/-- A turn of a batch whose scope is cancelled. -/
theorem batchTurn {after : Batch τ ρ} (cancelled : floor.isCancelled batch.scope = true)
    (since_le : since ≤ floor.now) (continues : batch.Continues after)
    (found : floor.callers[number]? = some (.batching after)) :
    Lapsing number batch since (floor.batchTurn number after) := by
  have inRange : number < floor.callers.length := (List.getElem?_eq_some_iff.mp found).1
  have others := spares_batchTurn (Nat.succ_ne_self number) after floor
  have now_eq : (floor.batchTurn number after).now = floor.now := others.agenda.now_eq
  refine ⟨others.isCancelled cancelled, by rwa [now_eq], ?_⟩
  have still := others.isCancelled cancelled
  rw [now_eq]
  rcases batchTurn_cases found with ⟨_, turnEq⟩ | ⟨notJoining, moves⟩
  · rw [turnEq]
    refine ⟨after, continues, Or.inr ⟨floor.now, since_le, Nat.le_refl _, ?_⟩⟩
    rcases floor.join_cases number after with ⟨_, joinEq⟩ | ⟨live, _⟩ | ⟨live, _⟩
    · rw [joinEq]
      exact List.getElem?_set_self inRange
    · rw [continues.scope, cancelled] at live
      cases live
    · rw [continues.scope, cancelled] at live
      cases live
  · have goesOn : ∀ last : Batch τ ρ, last.scope = after.scope →
        last.collected = after.collected → batch.Continues last := by
      intro last scope_eq kept
      constructor
      · exact scope_eq.trans continues.scope
      · exact kept.trans continues.collected
      · intro joining
        rw [continues.joining joining] at notJoining
        exact absurd joining notJoining
    rcases moves with ⟨last, _, _, _, lastFound, _, scope_eq, kept⟩ | joined
    · exact ⟨last, goesOn last scope_eq kept, Or.inl lastFound⟩
    · cases joined with
      | cancelled last lastFound scope_eq kept _ =>
          refine ⟨last, goesOn last scope_eq kept, Or.inr ⟨floor.now, since_le, Nat.le_refl _, ?_⟩⟩
          rw [← now_eq]
          exact lastFound
      | complete _ _ _ live | waiting _ _ _ _ live =>
          rw [continues.scope, still] at live
          cases live

theorem ownTurn (lapsing : Lapsing number batch since floor) :
    Lapsing number batch since ((floor.unready (.caller number)).attend number) := by
  have resting : Lapsing number batch since (floor.unready (.caller number)) :=
    ⟨lapsing.cancelled, lapsing.since_le, lapsing.continues⟩
  obtain ⟨after, continues, found | ⟨instant, _, _, found⟩⟩ := resting.continues
  · have turns : (floor.unready (.caller number)).attend number =
        (floor.unready (.caller number)).batchTurn number after := by rw [attend, found]
    rw [turns]
    exact batchTurn resting.cancelled resting.since_le continues found
  · have idle : (floor.unready (.caller number)).attend number =
        floor.unready (.caller number) := by rw [attend, found]
    rw [idle]
    exact resting

/-- Whatever happens next, the batch goes on or has ended since. -/
theorem after [Trade ε τ ρ] (lapsing : Lapsing number batch since floor) {event : Event ε τ}
    (proper : floor.Proper event) : Lapsing number batch since (floor.after event) := by
  by_cases own : event = .turn (.caller number)
  · subst own
    exact lapsing.ownTurn
  by_cases passes : ∃ instant, event = .pass instant
  · obtain ⟨instant, rfl⟩ := passes
    exact (lapsing.clockMoved instant).of_spares (spares_pass instant)
  · apply lapsing.of_spares
    apply spares_after proper own
    · intro instant same
      exact passes ⟨instant, same⟩
    · intro _
      exact Nat.ne_of_lt lapsing.inRange

/-- What the batch has become when it has ended. -/
theorem of_ended (lapsing : Lapsing number batch since floor) {final : Batch τ ρ} {instant : Nat}
    (ended : floor.callers[number]? = some (.batched final instant)) : batch.Continues final := by
  obtain ⟨other, continues, found | ⟨_, _, _, found⟩⟩ := lapsing.continues
  · cases ended.symm.trans found
  · cases ended.symm.trans found
    exact continues

theorem run [Trade ε τ ρ] (lapsing : Lapsing number batch since floor) {history : History τ ρ}
    (run : Run floor history next) : Lapsing number batch since next :=
  run.preserves lapsing fun _ _ allowed lapsing => lapsing.after allowed.proper

end Lapsing

/-! ## When a cancelled batch returns -/

/-- The caller waits for room in the queue. -/
def waitsForRoom (number : Nat) (floor : Floor ε τ ρ) : Bool :=
  (floor.callers[number]?).any Caller.wantsRoom

theorem outcomes?_eq_some_iff {floor : Floor ε τ ρ} {number instant : Nat}
    {outcomes : List (Outcome ρ)} :
    floor.outcomes? number = some (outcomes, instant) ↔
      ∃ batch, floor.callers[number]? = some (.batched batch instant) ∧
        batch.outcomes = outcomes := by
  unfold outcomes?
  constructor
  · intro ended
    split at ended
    next batch other found =>
      cases ended
      exact ⟨batch, found, rfl⟩
    · cases ended
  · rintro ⟨batch, found, rfl⟩
    rw [found]

section Returning

variable {number : Nat} {batch : Batch τ ρ} {history notes : History τ ρ}
  {floor later : Floor ε τ ρ}

/-- When nobody is ready, a batch whose scope is cancelled has ended or waits for
room. -/
theorem Lapsing.ended_or_waits {since : Nat} (lapsing : Lapsing number batch since floor)
    (minded : Minded number floor) (quiet : floor.agenda.ready = []) :
    (∃ after instant, since ≤ instant ∧ instant ≤ floor.now ∧ batch.Continues after ∧
      floor.callers[number]? = some (.batched after instant)) ∨
    ∃ after, batch.Continues after ∧ after.stage ≠ .joining ∧
      floor.callers[number]? = some (.batching after) := by
  obtain ⟨after, continues, found | ⟨instant, from_since, past, found⟩⟩ := lapsing.continues
  · refine Or.inr ⟨after, continues, ?_, found⟩
    intro joining
    obtain ⟨_, _, attentive⟩ := minded _ found
    rw [joining] at attentive
    have ready := attentive.cancelled (by rw [continues.scope]; exact lapsing.cancelled)
    rw [quiet] at ready
    cases ready
  · exact Or.inl ⟨after, instant, from_since, past, continues, found⟩

/-- A batch whose scope is cancelled and that has not ended when the clock reaches an
instant does not return before that instant. -/
theorem le_returned [Trade ε τ ρ] {instant returned : Nat} {after : Batch τ ρ}
    (cancelled : floor.isCancelled batch.scope = true) (reached : instant ≤ floor.now)
    (continues : batch.Continues after)
    (found : floor.callers[number]? = some (.batching after)) (run : Run floor notes later)
    {outcomes : List (Outcome ρ)} (ended : later.outcomes? number = some (outcomes, returned)) :
    instant ≤ returned := by
  have start : Lapsing number batch instant floor :=
    ⟨cancelled, reached, after, continues, Or.inl found⟩
  obtain ⟨last, lastFound, _⟩ := outcomes?_eq_some_iff.mp ended
  obtain ⟨_, _, stillFound | ⟨_, from_instant, _, endedFound⟩⟩ := (start.run run).continues
  · cases lastFound.symm.trans stillFound
  · cases lastFound.symm.trans endedFound
    exact from_instant

theorem waitsForRoom_of_batching {after : Batch τ ρ}
    (found : floor.callers[number]? = some (.batching after)) (waits : after.stage ≠ .joining) :
    floor.waitsForRoom number = true := by
  rw [waitsForRoom, found, Option.any_some, Caller.wantsRoom]
  split
  · rfl
  · exact absurd ‹_› waits

/-- A batch that is in progress when its scope is cancelled returns at that instant
if and only if it is not left waiting for room when the clock moves on.  Otherwise
it returns later, if at all. -/
theorem returns_at_cancellation_iff [Trade ε τ ρ] (arises : Arises history floor)
    (calling : floor.callers[number]? = some (.batching batch))
    (cancelled : floor.isCancelled batch.scope = true) (run : Run floor notes later)
    (sameInstant : later.now = floor.now) {next : Nat}
    (moves : later.Allowed (.pass next : Event ε τ)) (forward : later.now < next) :
    ((∃ outcomes, later.outcomes? number = some (outcomes, floor.now)) ↔
      later.waitsForRoom number = false) ∧
    (later.waitsForRoom number = true →
      ∀ rest final outcomes returned, Run (later.after (.pass next)) rest final →
        final.outcomes? number = some (outcomes, returned) → floor.now < returned) := by
  have start : Lapsing number batch floor.now floor :=
    ⟨cancelled, Nat.le_refl _, batch, .refl batch, Or.inl calling⟩
  have lapsing : Lapsing number batch floor.now later := start.run run
  have minded : Minded number later := (arises.trans run).minded number
  have quiet : later.agenda.ready = [] := moves.1
  rcases lapsing.ended_or_waits minded quiet with
    ⟨after, instant, from_since, past, _, found⟩ | ⟨after, continues, waits, found⟩
  · have instantEq : instant = floor.now := Nat.le_antisymm (sameInstant ▸ past) from_since
    have returned : later.outcomes? number = some (after.outcomes, floor.now) :=
      outcomes?_eq_some_iff.mpr ⟨after, instantEq ▸ found, rfl⟩
    have served : later.waitsForRoom number = false := by
      rw [waitsForRoom, found]
      rfl
    constructor
    · exact iff_of_true ⟨_, returned⟩ served
    · intro waiting
      rw [served] at waiting
      cases waiting
  · have waiting : later.waitsForRoom number = true := waitsForRoom_of_batching found waits
    constructor
    · constructor
      · rintro ⟨outcomes, returned⟩
        obtain ⟨last, lastFound, _⟩ := outcomes?_eq_some_iff.mp returned
        cases found.symm.trans lastFound
      · intro served
        rw [waiting] at served
        cases served
    · intro _ rest final outcomes returned run ended
      -- Seen from the next instant, the batch has not ended yet.
      have spares : Spares number (later.clockMoved next) (later.after (.pass next)) :=
        spares_pass next
      have now_eq : (later.after (.pass next)).now = next := by
        have moved : (later.after (.pass next)).now = max later.now next :=
          spares.agenda.now_eq
        omega
      have from_next : next ≤ returned :=
        le_returned (spares.isCancelled lapsing.cancelled) (Nat.le_of_eq now_eq.symm)
          continues (spares.caller.trans found) run ended
      omega

/-- A task behind a gate that nobody opens. -/
def gatedDrill : Drill := { label := "gated", gate := some "gate", outcome := .ok 1 }

/-- A pool is filled by gated tasks; a batch waits for room with a patience of 100 ms,
and its scope is cancelled after 10 ms. -/
def heldUpEvents : List (Event DrillGround Drill) :=
  [.openScope, .openScope, .submit 0 gatedDrill, .turn .dispatcher, .turn (.worker 0),
    .submit 0 gatedDrill, .executeBatch (Span.ofMillis 100) 1 [soloDrill], .plan 10 1, .pass 10]

/-- The pool at the instant of the cancellation. -/
def heldUp : Floor DrillGround Drill Int := soloPool.afterAll heldUpEvents

theorem heldUp_arises : Arises (soloPool.notesAll heldUpEvents) heldUp := by
  have allowed : soloPool.AllowedAll heldUpEvents := by decide
  exact ⟨1, 1, {}, allowed.run⟩

theorem returns_at_cancellation_iff_heldUp :
    ((∃ outcomes, heldUp.outcomes? 0 = some (outcomes, 10)) ↔
      heldUp.waitsForRoom 0 = false) ∧
    (heldUp.waitsForRoom 0 = true →
      ∀ rest final outcomes returned, Run (heldUp.after (.pass 100)) rest final →
        final.outcomes? 0 = some (outcomes, returned) → 10 < returned) :=
  returns_at_cancellation_iff heldUp_arises rfl rfl .refl rfl (by decide) (by decide)

/-- A batch whose scope is cancelled after 10 ms returns after 100 ms. -/
theorem cancelled_batch_held_up :
    (∃ batch, heldUp.callers[0]? = some (.batching batch) ∧
      heldUp.isCancelled batch.scope = true ∧ heldUp.now = 10) ∧
    ∃ notes final outcomes, Run heldUp notes final ∧
      final.outcomes? 0 = some (outcomes, 100) := by
  have allowed : heldUp.AllowedAll [.pass 100, .turn (.caller 0)] := by decide
  exact ⟨⟨_, rfl, rfl, rfl⟩, _, _, _, allowed.run, rfl⟩

end Returning

end Floor

end RiskGate.Pool
