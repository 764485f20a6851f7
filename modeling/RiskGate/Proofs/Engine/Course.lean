import RiskGate.Proofs.Engine.Answers
import RiskGate.Proofs.Pool.Alignment

/-!
# The course of a batch

From the moment at which an engine is asked for a batch, its pool carries out an order for
the items, along with whatever else happens, until the batch returns.  It returns by the
event in which the engine finds that the pool has ended it, and what it reports then is what
the pool reports, but for the names of its failures.
-/

namespace RiskGate.Engine

open Pool (Floor Batch Order)

variable {engine asked : Engine} {history : Pool.History (Errand .assess) Assessment}

/-! ## Orders of an engine -/

/-- What the engine orders from its pool for a batch. -/
def orderOf (outer : Nat) (requests : List Request) (engine : Engine) : Order (Errand .assess) where
  wait := engine.settings.submitTimeout
  scope := (engine.begun outer requests).scope
  tasks := errands engine.nextSlot requests

section Serving

variable {outer : Nat} {requests : List Request} {order : Order (Errand .assess)} {caller : Nat}

/-- The pool goes on with its orders, whatever happens to the engine. -/
theorem serves_run (serves : Floor.Serves order history caller engine.floor)
    (pooled : Pooled history engine) (events : List Event) :
    Floor.Serves order (history ++ engine.told events) caller (engine.run events).floor :=
  pooled.preserves_run (fun history floor => Floor.Serves order history caller floor) serves events
    fun _ _ _ proper sound serves => serves.after sound proper

/-- The pool carries out the order for a batch that is asked for. -/
theorem serves_askBatch (pooled : Pooled history asked)
    (accepted : asked.refusal? requests = none) :
    Floor.Serves (asked.orderOf outer requests)
      (history ++ asked.notes (.askBatch outer requests)) asked.floor.callers.length
      (asked.after (.askBatch outer requests)).floor := by
  let order := asked.orderOf outer requests
  let opened := (asked.opened outer).floor
  let ordered : Pool.Event Core (Errand .assess) :=
    .executeBatch order.wait order.scope order.tasks
  obtain ⟨floorEq, proper, _⟩ := pooled.routes (.askBatch outer requests)
  rw [notes, floorEq]
  rw [poolEvents, accepted] at proper ⊢
  have openedSound : opened.Sound history := by
    have child := pooled.sound.after (.openChild outer) proper.1
    have woken := child.after (.rearrange opened.agenda) proper.2.1
    change opened.Sound ((history ++ []) ++ []) at woken
    rw [List.append_nil, List.append_nil] at woken
    exact woken
  have given := Floor.serves_executeBatch openedSound order
  have orderedSound := openedSound.after ordered proper.2.2.1
  have kept := proper.2.2.2.preserves
    (fun history floor => floor.Sound history ∧
      Floor.Serves order history asked.floor.callers.length floor)
    _ ⟨orderedSound, given⟩ fun _ _ event _ proper kept =>
      ⟨kept.1.after event proper, kept.2.after kept.1 proper⟩
  have served := kept.2
  rw [List.append_assoc] at served
  exact served

end Serving

/-! ## The course of a batch -/

/-- The engine in the course of a batch that it is asked for. -/
def during (outer : Nat) (requests : List Request) (events : List Event) (asked : Engine) :
    Engine :=
  asked.run (.askBatch outer requests :: events)

/-- The batch returns by the last of some events, or at once if there are none. -/
structure Returns (outer : Nat) (requests : List Request) (events : List Event)
    (outcome : BatchOutcome) (asked : Engine) : Prop where
  answered : ∃ instant, (asked.during outer requests events).batchAnswer? asked.rounds.length =
    some (.ok outcome, instant)
  unanswered : ∀ early event late, events = early ++ event :: late →
    (asked.during outer requests early).batchAnswer? asked.rounds.length = none

section During

variable {outer : Nat} {requests : List Request} {events early : List Event} {event : Event}

theorem during_append (first second : List Event) (asked : Engine) :
    asked.during outer requests (first ++ second) =
      (asked.during outer requests first).run second := by
  rw [during, during, ← List.cons_append, run_append]

theorem during_concat (asked : Engine) : asked.during outer requests (events ++ [event]) =
    (asked.during outer requests events).after event :=
  during_append events [event] asked

/-- A batch returns by some events if the engine gives no answer along them before. -/
theorem Returns.of_take {outcome : BatchOutcome} {instant : Nat}
    (answered : (asked.during outer requests events).batchAnswer? asked.rounds.length =
      some (.ok outcome, instant))
    (unanswered : ∀ length < events.length,
      ((asked.during outer requests (events.take length)).batchAnswer?
        asked.rounds.length).isNone = true) : asked.Returns outer requests events outcome where
  answered := ⟨instant, answered⟩
  unanswered := by
    rintro early event late rfl
    have none := unanswered early.length (by simp)
    rw [List.take_left] at none
    exact Option.isNone_iff_eq_none.mp none

theorem follows_during (pooled : Pooled history asked) (accepted : asked.refusal? requests = none)
    (events : List Event) :
    Follows asked.rounds.length (asked.begun outer requests)
      (asked.during outer requests events) :=
  (follows_askBatch accepted).run (pooled.after (.askBatch outer requests)) events

theorem running_during (pooled : Pooled history asked) (accepted : asked.refusal? requests = none)
    (unanswered : (asked.during outer requests events).batchAnswer? asked.rounds.length = none) :
    (asked.during outer requests events).rounds[asked.rounds.length]? =
      some (.running (asked.begun outer requests)) := by
  cases follows_during pooled accepted events with
  | running found => exact found
  | answered found =>
      cases (batchAnswer?_of_answered found).symm.trans unanswered

/-- The pool carries out the order for a batch in its course. -/
theorem serves_during (pooled : Pooled history asked) (accepted : asked.refusal? requests = none)
    (events : List Event) :
    Floor.Serves (asked.orderOf outer requests)
      (history ++ asked.told (.askBatch outer requests :: events))
      (asked.begun outer requests).caller (asked.during outer requests events).floor := by
  rw [told, ← List.append_assoc]
  exact serves_run (serves_askBatch pooled accepted) (pooled.after (.askBatch outer requests))
    events

/-- The batch returns when the engine closes it. -/
theorem Returns.closes {outcome : BatchOutcome}
    (returns : asked.Returns outer requests events outcome) (pooled : Pooled history asked)
    (accepted : asked.refusal? requests = none) :
    ∃ batch rounds, Closes asked.rounds.length (asked.begun outer requests) batch rounds
        (asked.during outer requests events) ∧
      outcome.items =
        (asked.during outer requests events).reported (asked.begun outer requests)
          batch.outcomes := by
  obtain ⟨instant, answered⟩ := returns.answered
  have reported : ∀ batch rounds, Closes asked.rounds.length (asked.begun outer requests) batch
      rounds (asked.during outer requests events) →
        outcome.items = (asked.during outer requests events).reported
          (asked.begun outer requests) batch.outcomes := by
    intro batch rounds closes
    cases (batchAnswer?_of_answered closes.answered_self).symm.trans answered
    rfl
  have notRunning : (asked.during outer requests events).rounds[asked.rounds.length]? ≠
      some (.running (asked.begun outer requests)) := by
    intro running
    cases (batchAnswer?_of_running running).symm.trans answered
  rcases List.eq_nil_or_concat' events with rfl | ⟨early, event, rfl⟩
  · rcases running_askBatch accepted with running | ⟨batch, closes⟩
    · exact absurd running notRunning
    · exact ⟨batch, _, closes, reported batch _ closes⟩
  · have before := running_during pooled accepted (returns.unanswered early event [] rfl)
    rw [during_concat] at notRunning reported ⊢
    rcases running_after before with running | ⟨batch, closes⟩
    · exact absurd running notRunning
    · exact ⟨batch, _, closes, reported batch _ closes⟩

/-- A batch without items is answered at once. -/
theorem Returns.empty {outcome : BatchOutcome} (returns : asked.Returns outer [] events outcome) :
    events = [] ∧ outcome.items = [] := by
  have atOnce : (asked.during outer [] []).batchAnswer? asked.rounds.length =
      some (.ok ⟨[]⟩, asked.now) := by
    have found : (asked.during outer [] []).rounds[asked.rounds.length]? =
        some (.answered (.ok ⟨[]⟩) asked.now) := List.getElem?_concat_length
    exact batchAnswer?_of_answered found
  cases events with
  | nil =>
      obtain ⟨instant, answered⟩ := returns.answered
      cases atOnce.symm.trans answered
      exact ⟨rfl, rfl⟩
  | cons event late => cases atOnce.symm.trans (returns.unanswered [] event late rfl)

end During

end RiskGate.Engine
