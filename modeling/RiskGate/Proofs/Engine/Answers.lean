import RiskGate.Proofs.Engine.Agreement
import RiskGate.Proofs.Engine.PoolEvents

/-!
# How batches come and go

A batch is added to the engine when it is asked for, and is under way until the engine
finds that the pool has ended it.  It is answered then, once and for all, with what the
pool reports for its items.  Nothing else happens to batches.
-/

namespace RiskGate.Engine

open Schedule (Actor Agenda Clockwork)
open Pool (Floor Batch Job)

/-! ## Events -/

/-- The batches that come in by an event, as they begin. -/
def newcomers (event : Event) (engine : Engine) : List Rounds :=
  match event with
  | .askBatch outer requests =>
      match engine.refusal? requests with
      | some outcome => [.answered outcome engine.now]
      | none => [.running (engine.begun outer requests)]
  | _ => []

/-- A batch of the engine that was under way is answered, for the pool has ended it. -/
structure Closes (number : Nat) (round : Round) (batch : Batch (Errand .assess) Assessment)
    (rounds : List Rounds) (after : Engine) : Prop where
  found : rounds[number]? = some (.running round)
  ended : ∃ instant, after.floor.callers[round.caller]? = some (.batched batch instant)
  answered : after.rounds =
    rounds.set number (.answered (.ok ⟨after.reported round batch.outcomes⟩) after.now)

/-- Batches are as they were, but for one that may be answered. -/
def Rounded (rounds : List Rounds) (after : Engine) : Prop :=
  after.rounds = rounds ∨ ∃ number round batch, Closes number round batch rounds after

section Events

variable {engine : Engine}

theorem settings_concludeRound (number : Nat) (round : Round)
    (outcomes : List (Outcome Assessment)) (engine : Engine) :
    (engine.concludeRound number round outcomes).settings = engine.settings :=
  (Sound.sheds_recount round.firstSlot (engine.reported round outcomes) engine.core).settings

theorem rounded_conclude (caller : Nat) (engine : Engine) :
    Rounded engine.rounds (engine.conclude caller) := by
  rcases engine.conclude_cases caller with
    ⟨batch, instant, number, round, ended, found, own, concludeEq, _⟩ | ⟨_, _, same | emptied⟩
  · rw [concludeEq]
    have reportedEq : (engine.concludeRound number round batch.outcomes).reported round
        batch.outcomes = engine.reported round batch.outcomes := by
      rw [reported, settings_concludeRound]
      rfl
    refine .inr ⟨number, round, batch, found, ⟨instant, own ▸ ended⟩, ?_⟩
    rw [reportedEq]
    rfl
  · rw [same]
    exact .inl rfl
  · rw [emptied]
    exact .inl rfl

/-- By an event batches come in, and one may be answered. -/
theorem rounded_after (event : Event) (engine : Engine) :
    Rounded (engine.rounds ++ engine.newcomers event) (engine.after event) := by
  have still : ∀ after : Engine, after.rounds = engine.rounds →
      Rounded (engine.rounds ++ []) after := by
    intro after same
    rw [List.append_nil]
    exact .inl same
  have concluded : ∀ (caller : Nat) (between : Engine), between.rounds = engine.rounds →
      Rounded (engine.rounds ++ []) (between.conclude caller) := by
    intro caller between same
    rw [List.append_nil, ← same]
    exact rounded_conclude caller between
  cases event with
  | askBatch outer requests =>
      have afterEq : engine.after (.askBatch outer requests) = (engine.askBatch outer requests).1 :=
        rfl
      rw [afterEq, askBatch_eq, newcomers]
      cases engine.refusal? requests with
      | some outcome => exact .inl rfl
      | none => exact rounded_conclude engine.floor.callers.length (engine.handed outer requests)
  | shutdown limit =>
      have afterEq : engine.after (.shutdown limit) = (engine.shutdown limit).1 := rfl
      rw [afterEq, shutdown]
      split
      · exact still _ rfl
      · exact concluded (engine.floor.shutdown limit).2 (engine.closing limit) rfl
  | ask operation scope request => exact still _ (runGuest_rounds _ _ _ _)
  | resetBreaker | resetMetrics | openScope | openChild | cancel | plan | pass =>
      exact still _ rfl
  | turn actor =>
      cases actor with
      | caller caller =>
          exact concluded caller ((engine.unready (.caller caller)).onFloor (·.attend caller)) rfl
      | guest number =>
          apply still
          have afterEq : engine.after (.turn (.guest number)) =
              (engine.unready (.guest number)).guestTurn number := rfl
          rw [afterEq, guestTurn]
          split
          · exact runGuest_rounds _ _ _ _
          · rfl
      | timer number =>
          obtain ⟨change, afterEq⟩ := engine.after_timer number
          rw [afterEq]
          exact still _ rfl
      | worker | dispatcher => exact still _ rfl

end Events

/-! ## Batches before and after -/

section Rounded

variable {rounds : List Rounds} {after : Engine} {number : Nat} {round : Round}

/-- A batch that is answered stays so. -/
theorem Rounded.answered (rounded : Rounded rounds after) {outcome : Outcome BatchOutcome}
    {instant : Nat} (found : rounds[number]? = some (.answered outcome instant)) :
    after.rounds[number]? = some (.answered outcome instant) := by
  rcases rounded with same | ⟨other, _, _, closes⟩
  · rw [same]
    exact found
  · have distinct : other ≠ number := by
      rintro rfl
      cases closes.found.symm.trans found
    rw [closes.answered, List.getElem?_set_ne distinct]
    exact found

/-- A batch that is under way was so before. -/
theorem Rounded.running_before (rounded : Rounded rounds after)
    (found : after.rounds[number]? = some (.running round)) :
    rounds[number]? = some (.running round) := by
  rcases rounded with same | ⟨other, _, _, closes⟩
  · rw [← same]
    exact found
  · rw [closes.answered] at found
    by_cases same : other = number
    · subst same
      rw [List.getElem?_set_self (List.getElem?_eq_some_iff.mp closes.found).1] at found
      cases found
    · rw [List.getElem?_set_ne same] at found
      exact found

/-- A batch that was under way still is, or is answered. -/
theorem Rounded.running_after (rounded : Rounded rounds after)
    (found : rounds[number]? = some (.running round)) :
    after.rounds[number]? = some (.running round) ∨
      ∃ batch, Closes number round batch rounds after := by
  rcases rounded with same | ⟨other, another, batch, closes⟩
  · rw [same]
    exact .inl found
  · by_cases same : other = number
    · subst same
      cases found.symm.trans closes.found
      exact .inr ⟨batch, closes⟩
    · rw [closes.answered, List.getElem?_set_ne same]
      exact .inl found

theorem Closes.answered_self {batch : Batch (Errand .assess) Assessment}
    (closes : Closes number round batch rounds after) :
    after.rounds[number]? =
      some (.answered (.ok ⟨after.reported round batch.outcomes⟩) after.now) := by
  rw [closes.answered, List.getElem?_set_self (List.getElem?_eq_some_iff.mp closes.found).1]

end Rounded

section Steps

variable {engine : Engine} {event : Event} {number : Nat} {round : Round}

theorem answered_after {outcome : Outcome BatchOutcome} {instant : Nat}
    (found : engine.rounds[number]? = some (.answered outcome instant)) :
    (engine.after event).rounds[number]? = some (.answered outcome instant) :=
  (rounded_after event engine).answered
    ((List.getElem?_append_left (List.getElem?_eq_some_iff.mp found).1).trans found)

/-- A batch is under way since before, or was asked for just now. -/
theorem running_before (found : (engine.after event).rounds[number]? = some (.running round)) :
    engine.rounds[number]? = some (.running round) ∨
      number = engine.rounds.length ∧ ∃ outer requests, event = .askBatch outer requests ∧
        engine.refusal? requests = none ∧ round = engine.begun outer requests := by
  have before := (rounded_after event engine).running_before found
  rw [List.getElem?_append] at before
  split at before
  · exact .inl before
  next beyond =>
    have new := List.mem_of_getElem? before
    obtain ⟨inRange, _⟩ := List.getElem?_eq_some_iff.mp before
    cases event with
    | askBatch outer requests =>
        rw [newcomers] at new inRange
        cases refused : engine.refusal? requests with
        | some outcome =>
            rw [refused] at new
            cases List.mem_singleton.mp new
        | none =>
            rw [refused] at new inRange
            cases List.mem_singleton.mp new
            simp only [List.length_singleton] at inRange
            exact .inr ⟨by omega, outer, requests, rfl, refused, rfl⟩
    | ask | shutdown | resetBreaker | resetMetrics | openScope | openChild | cancel | plan | turn
    | pass => cases new

/-- A batch that is under way goes on, or is answered. -/
theorem running_after (found : engine.rounds[number]? = some (.running round)) :
    (engine.after event).rounds[number]? = some (.running round) ∨
      ∃ batch, Closes number round batch (engine.rounds ++ engine.newcomers event)
        (engine.after event) :=
  (rounded_after event engine).running_after
    ((List.getElem?_append_left (List.getElem?_eq_some_iff.mp found).1).trans found)

/-- A batch that is asked for and not refused is under way, or is answered at once. -/
theorem running_askBatch {outer : Nat} {requests : List Request}
    (accepted : engine.refusal? requests = none) :
    (engine.after (.askBatch outer requests)).rounds[engine.rounds.length]? =
        some (.running (engine.begun outer requests)) ∨
      ∃ batch, Closes engine.rounds.length (engine.begun outer requests) batch
        (engine.rounds ++ engine.newcomers (.askBatch outer requests))
        (engine.after (.askBatch outer requests)) := by
  apply (rounded_after (.askBatch outer requests) engine).running_after
  rw [newcomers, accepted]
  exact List.getElem?_concat_length

end Steps

/-! ## Batches that are followed -/

/-- A batch is under way, or was answered after the pool had ended it. -/
inductive Follows (number : Nat) (round : Round) (engine : Engine) : Prop where
  | running (found : engine.rounds[number]? = some (.running round))
  | answered {batch : Batch (Errand .assess) Assessment} {ended : Nat} {outcome : BatchOutcome}
      {instant : Nat} (found : engine.rounds[number]? = some (.answered (.ok outcome) instant))
      (batched : engine.floor.callers[round.caller]? = some (.batched batch ended))

section Following

variable {engine : Engine} {number : Nat} {round : Round}
variable {history : Pool.History (Errand .assess) Assessment}

theorem Closes.follows {batch : Batch (Errand .assess) Assessment} {rounds : List Rounds}
    (closes : Closes number round batch rounds engine) : Follows number round engine := by
  obtain ⟨ended, batched⟩ := closes.ended
  exact .answered closes.answered_self batched

theorem follows_askBatch {outer : Nat} {requests : List Request}
    (accepted : engine.refusal? requests = none) :
    Follows engine.rounds.length (engine.begun outer requests)
      (engine.after (.askBatch outer requests)) := by
  rcases running_askBatch accepted with running | ⟨_, closes⟩
  · exact .running running
  · exact closes.follows

/-- A batch of the pool that has ended stays as it is, whatever happens to the engine. -/
theorem Pooled.batched (pooled : Pooled history engine) {caller ended : Nat}
    {batch : Batch (Errand .assess) Assessment}
    (found : engine.floor.callers[caller]? = some (.batched batch ended)) (event : Event) :
    (engine.after event).floor.callers[caller]? = some (.batched batch ended) :=
  pooled.preserves (fun _ floor => floor.callers[caller]? = some (.batched batch ended)) found event
    fun _ _ _ _ proper _ found => Floor.batched_after proper found

theorem Follows.after (follows : Follows number round engine) (pooled : Pooled history engine)
    (event : Event) : Follows number round (engine.after event) := by
  cases follows with
  | running found =>
      rcases running_after found with running | ⟨_, closes⟩
      · exact .running running
      · exact closes.follows
  | answered found batched => exact .answered (answered_after found) (pooled.batched batched event)

theorem Follows.run (follows : Follows number round engine) (pooled : Pooled history engine)
    (events : List Event) : Follows number round (engine.run events) := by
  induction events generalizing history engine with
  | nil => exact follows
  | cons event rest ih => exact ih (follows.after pooled event) (pooled.after event)

end Following

end RiskGate.Engine
