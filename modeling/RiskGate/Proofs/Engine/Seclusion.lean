import RiskGate.Proofs.Engine.Aftermath
import RiskGate.Proofs.Schedule.Scopes

/-!
# The scope of a batch

A batch runs under a scope that nobody knows but the engine.  Nobody can cancel it by its
name, so there are two ways in which it is cancelled: together with the scope of the
caller, or by the timer of the batch, once the batch has taken too long.  As long as the
timer has not fired, the scope is cancelled only if that of the caller is.
-/

namespace RiskGate.Pool

open Schedule (Actor Agenda)

variable {ε τ ρ : Type}

/-- The event cancels a scope by its name, or plans to. -/
def Event.names (scope : Nat) : Event ε τ → Bool
  | .cancel other | .plan _ other => other == scope
  | _ => false

namespace Floor

variable [Trade ε τ ρ] {floor : Floor ε τ ρ} {event : Event ε τ}

/-- An event that is not about scopes leaves them alone. -/
theorem scopes_after (proper : floor.Proper event) (noScope : event.isOfScopes = false) :
    (floor.after event).agenda.parents = floor.agenda.parents ∧
      (floor.after event).agenda.planned = floor.agenda.planned ∧
      (floor.after event).agenda.cancelled = floor.agenda.cancelled := by
  obtain ⟨index, other⟩ := exists_other_worker event
  have leaves := (leaves_after proper other noScope).1
  exact ⟨leaves.parents, leaves.planned, leaves.cancelled⟩

/-- Only scopes that were opened are cancelled. -/
theorem opened_after (proper : floor.Proper event) (opened : floor.agenda.Opened) :
    (floor.after event).agenda.Opened := by
  cases noScope : event.isOfScopes with
  | true =>
      cases event with
      | openScope => exact opened.openScope
      | openChild parent => exact opened.openChild parent
      | cancel scope => exact opened.cancel scope
      | plan => exact opened
      | pass instant => exact opened.moveTo instant
      | submit | submitWithin | executeBatch | shutdown | disturb | rearrange | turn =>
          cases noScope
  | false =>
      obtain ⟨parents, _, cancelled⟩ := scopes_after proper noScope
      rw [Agenda.Opened, parents, cancelled]
      exact opened

/-- A scope that the event does not name stays secluded. -/
theorem secluded_after {child parent : Nat} (proper : floor.Proper event)
    (unnamed : event.names child = false) (secluded : floor.agenda.Secluded child parent) :
    (floor.after event).agenda.Secluded child parent := by
  cases noScope : event.isOfScopes with
  | true =>
      cases event with
      | openScope => exact secluded.openScope
      | openChild other => exact secluded.openChild other
      | cancel scope => exact secluded.cancel (by simpa [Event.names] using unnamed)
      | plan due scope => exact secluded.plan due (by simpa [Event.names] using unnamed)
      | pass instant => exact secluded.moveTo instant
      | submit | submitWithin | executeBatch | shutdown | disturb | rearrange | turn =>
          cases noScope
  | false =>
      obtain ⟨parents, planned, cancelled⟩ := scopes_after proper noScope
      exact secluded.of_eq parents planned cancelled

end Floor

end RiskGate.Pool

namespace RiskGate.Engine

open Schedule (Actor Agenda Clockwork)
open Pool (Floor)

variable {engine : Engine} {event : Event}
variable {history : Pool.History (Errand .assess) Assessment}

/-- The event cancels a scope by its name, or plans to. -/
def Event.names (scope : Nat) : Event → Bool
  | .cancel other | .plan _ other => other == scope
  | _ => false

/-- The deadline of a batch fires by an event: it is the turn of its timer, and the batch has
taken too long. -/
def Fires (number due : Nat) (engine : Engine) (event : Event) : Prop :=
  event = .turn (.timer number) ∧ due ≤ engine.now

/-- Only scopes that were opened are cancelled in an engine. -/
theorem Pooled.opened_run (pooled : Pooled history engine) (opened : engine.floor.agenda.Opened)
    (events : List Event) : (engine.run events).floor.agenda.Opened :=
  pooled.preserves_run (fun _ floor => floor.agenda.Opened) opened events
    fun _ _ _ proper _ opened => Floor.opened_after proper opened

/-- The engine lets its pool name a scope when it is asked to itself, and when the deadline
of a batch under this scope fires. -/
theorem names_poolEvents {poolEvent : Pool.Event Core (Errand .assess)} {scope : Nat}
    (member : poolEvent ∈ engine.poolEvents event) (names : poolEvent.names scope = true) :
    event.names scope = true ∨ ∃ number round, engine.rounds[number]? = some (.running round) ∧
      Fires number round.due engine event ∧ round.scope = scope := by
  have notAffairs : ∀ after : Engine, poolEvent ∉ affairs after := by
    intro after there
    simp only [affairs, List.mem_cons, List.not_mem_nil, or_false] at there
    rcases there with rfl | rfl
    · cases names
    · cases names
  have notOne : ∀ other : Pool.Event Core (Errand .assess), other.names scope = false →
      poolEvent ≠ other := by
    rintro other unnamed rfl
    cases unnamed.symm.trans names
  cases event with
  | askBatch outer requests =>
      rw [poolEvents] at member
      cases refused : engine.refusal? requests with
      | some outcome =>
          rw [refused] at member
          cases member
      | none =>
          rw [refused] at member
          simp only [List.mem_cons] at member
          rcases member with same | same | same | there
          · exact absurd same (notOne _ rfl)
          · exact absurd same (notOne _ rfl)
          · exact absurd same (notOne _ rfl)
          · exact absurd there (notAffairs _)
  | shutdown limit =>
      rcases List.mem_cons.mp member with same | there
      · exact absurd same (notOne _ rfl)
      · exact absurd there (notAffairs _)
  | ask | resetBreaker | resetMetrics => exact absurd member (notAffairs _)
  | cancel other | plan due other =>
      obtain rfl := List.mem_singleton.mp member
      exact .inl names
  | openScope | openChild | pass => exact absurd (List.mem_singleton.mp member) (notOne _ rfl)
  | turn actor =>
      cases actor with
      | worker | dispatcher => exact absurd (List.mem_singleton.mp member) (notOne _ rfl)
      | caller caller =>
          rcases List.mem_cons.mp member with same | there
          · exact absurd same (notOne _ rfl)
          · exact absurd there (notAffairs _)
      | guest number => exact absurd member (notAffairs _)
      | timer number =>
          rw [poolEvents] at member
          split at member
          next round found =>
            split at member
            next due =>
              simp only [List.mem_cons, List.not_mem_nil, or_false] at member
              rcases member with same | rfl
              · exact absurd same (notOne _ rfl)
              · have same : round.scope = scope := by simpa [Pool.Event.names] using names
                exact .inr ⟨number, round, found, ⟨rfl, due⟩, same⟩
            · exact absurd member (notAffairs _)
          · exact absurd member (notAffairs _)

/-- The scope of a batch is secluded under that of its caller, and no other batch that is
under way has it. -/
structure Sheltered (number : Nat) (round : Round) (engine : Engine) : Prop where
  secluded : engine.floor.agenda.Secluded round.scope round.outer
  sole : ∀ (other : Nat) (another : Round), engine.rounds[other]? = some (.running another) →
    another.scope = round.scope → other = number

section Sheltering

variable {outer : Nat} {requests : List Request} {number : Nat} {round : Round} {asked : Engine}

/-- A batch that is asked for is sheltered, if nobody has planned to cancel its scope before
it was opened. -/
theorem Watchful.sheltered (watchful : Watchful history asked)
    (accepted : asked.refusal? requests = none) (opened : asked.floor.agenda.Opened)
    (unplanned : ∀ entry ∈ asked.floor.agenda.planned,
      entry.2 ≠ (asked.begun outer requests).scope) :
    Sheltered asked.rounds.length (asked.begun outer requests)
      (asked.after (.askBatch outer requests)) := by
  constructor
  · have routes := watchful.routes (.askBatch outer requests)
    have events := routes.floor
    have proper := routes.proper
    rw [events]
    rw [poolEvents, accepted] at proper ⊢
    have start : (asked.floor.after (.openChild outer)).agenda.Secluded
        (asked.begun outer requests).scope outer := .opened opened outer unplanned
    refine proper.2.preserves (fun _ floor => floor.agenda.Secluded _ _) history start ?_
    intro _ floor poolEvent member proper secluded
    apply Floor.secluded_after proper _ secluded
    have there : poolEvent ∈ asked.poolEvents (.askBatch outer requests) := by
      rw [poolEvents, accepted]
      exact List.mem_cons_of_mem _ member
    cases named : poolEvent.names (asked.begun outer requests).scope with
    | false => rfl
    | true =>
        rcases names_poolEvents there named with asks | ⟨_, _, _, ⟨asks, _⟩, _⟩
        · cases asks
        · cases asks
  · intro other another found same
    rcases running_before found with old | ⟨isLast, _⟩
    · have inside := watchful.opened other another old
      rw [same] at inside
      exact absurd inside (Nat.lt_irrefl _)
    · exact isLast

/-- A batch stays sheltered as long as nobody names its scope and its deadline does not
fire. -/
theorem Sheltered.after (sheltered : Sheltered number round engine)
    (watchful : Watchful history engine) (unnamed : event.names round.scope = false)
    (calm : ∀ another, engine.rounds[number]? = some (.running another) →
      ¬Fires number another.due engine event) : Sheltered number round (engine.after event) := by
  constructor
  · apply watchful.preserves (fun _ floor => floor.agenda.Secluded round.scope round.outer)
      sheltered.secluded event
    intro _ floor poolEvent member proper _ secluded
    apply Floor.secluded_after proper _ secluded
    cases named : poolEvent.names round.scope with
    | false => rfl
    | true =>
        rcases names_poolEvents member named with asks | ⟨other, another, found, fires, same⟩
        · cases unnamed.symm.trans asks
        · obtain rfl := sheltered.sole other another found same
          exact absurd fires (calm another found)
  · intro other another found same
    rcases running_before found with old | ⟨_, _, _, _, _, rfl⟩
    · exact sheltered.sole other another old same
    · have inside := sheltered.secluded.inRange
      rw [← same] at inside
      exact absurd inside (Nat.lt_irrefl _)

end Sheltering

end RiskGate.Engine
