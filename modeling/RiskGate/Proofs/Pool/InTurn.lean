import RiskGate.Proofs.Pool.Notes

/-!
# Runs in turn

Without a host, the clockwork lets the ready actors act in the order in which they were woken,
and nothing but the pool wakes an actor that waits for the pool.  A run in turn is a run like
that: other executors, and a host, may take the turns in another order.  It comes with its
chronicle, in which the notes of each event are kept apart, so that one can tell which
submissions were answered at once and which had to wait.
-/

namespace RiskGate.Pool

open Schedule (Actor Agenda Clockwork)

variable {ε τ ρ : Type}

/-- The actor whose turn it is. -/
def Event.actor? : Event ε τ → Option Actor
  | .turn actor => some actor
  | .submit .. | .submitWithin .. | .executeBatch .. | .shutdown _ | .openScope | .openChild _
  | .cancel _ | .plan .. | .disturb .. | .rearrange _ | .pass _ => none

namespace Floor

/-- The actor is busy with a task, or does not belong to the pool. -/
def isAtTask (floor : Floor ε τ ρ) : Actor → Bool
  | .worker index => (floor.desks[index]?.bind Desk.begun?).isSome
  | .guest _ | .timer _ => true
  | .dispatcher | .caller _ => false

/-- Who is woken by an event, but not by the pool. -/
def stirred [Trade ε τ ρ] (event : Event ε τ) (floor : Floor ε τ ρ) : List Actor :=
  match event with
  | .disturb _ woken => woken
  | .turn (.worker index) =>
      match floor.desks[index]? with
      | some (.busy job) =>
          if floor.isCancelled job.scope then
            (Trade.abandon ρ (.worker index) floor.now job.task floor.shared).2
          else []
      | _ => []
  | _ => []

/-- The event happens in turn: the actor who has been ready longest acts, and what goes on
outside the pool wakes only others who are busy with a task. -/
structure InTurn [Trade ε τ ρ] (event : Event ε τ) (floor : Floor ε τ ρ) : Prop where
  allowed : floor.Allowed event
  first : ∀ actor ∈ event.actor?, floor.agenda.ready.head? = some actor
  undisturbed : ∀ actor ∈ floor.stirred event,
    floor.isAtTask actor = true ∧ actor ∉ event.actor?

instance [Trade ε τ ρ] (event : Event ε τ) (floor : Floor ε τ ρ) :
    Decidable (floor.InTurn event) :=
  decidable_of_iff
    (floor.Allowed event ∧ (∀ actor ∈ event.actor?, floor.agenda.ready.head? = some actor) ∧
      ∀ actor ∈ floor.stirred event, floor.isAtTask actor = true ∧ actor ∉ event.actor?)
    ⟨fun all => ⟨all.1, all.2.1, all.2.2⟩,
      fun inTurn => ⟨inTurn.allowed, inTurn.first, inTurn.undisturbed⟩⟩

/-- A run in turn, with the notes of each of its events. -/
inductive RunInTurn [Trade ε τ ρ] (start : Floor ε τ ρ) :
    List (History τ ρ) → Floor ε τ ρ → Prop where
  | refl : RunInTurn start [] start
  | tail {chronicle : List (History τ ρ)} {floor : Floor ε τ ρ} (event : Event ε τ) :
      RunInTurn start chronicle floor → floor.InTurn event →
      RunInTurn start (chronicle ++ [floor.notes event]) (floor.after event)

namespace RunInTurn

variable [Trade ε τ ρ] {start floor : Floor ε τ ρ} {chronicle : List (History τ ρ)}

theorem run (inTurn : RunInTurn start chronicle floor) : Run start chronicle.flatten floor := by
  induction inTurn with
  | refl => exact .refl
  | tail event _ next ih =>
      rw [List.flatten_concat]
      exact ih.tail event next.allowed

/-- A turn of the clockwork is taken in turn, if it wakes nobody outside the pool's own
business. -/
theorem step {next : Floor ε τ ρ} (inTurn : RunInTurn start chronicle floor)
    (stepped : Clockwork.step floor = some next)
    (undisturbed : ∀ actor, ∀ other ∈ floor.stirred (.turn actor),
      floor.isAtTask other = true ∧ other ≠ actor) :
    ∃ notes, RunInTurn start (chronicle ++ [notes]) next := by
  obtain ⟨actor, others, found, rfl⟩ := Clockwork.exists_callUp_of_step stepped
  have ready : floor.agenda.ready = actor :: others := found
  refine ⟨_, inTurn.tail (.turn actor) ⟨?_, ?_, ?_⟩⟩
  · change actor ∈ floor.agenda.ready
    rw [ready]
    exact List.mem_cons_self
  · intro other same
    cases same
    rw [ready, List.head?_cons]
  · intro other woken
    refine ⟨(undisturbed actor other woken).1, ?_⟩
    intro same
    exact (undisturbed actor other woken).2 (Option.some.inj same).symm

end RunInTurn

/-- What becomes known by events that happen one after another, each by itself. -/
def chronicle [Trade ε τ ρ] : List (Event ε τ) → Floor ε τ ρ → List (History τ ρ)
  | [], _ => []
  | event :: rest, floor => floor.notes event :: chronicle rest (floor.after event)

/-- The events happen in turn, one after another. -/
def InTurnAll [Trade ε τ ρ] : List (Event ε τ) → Floor ε τ ρ → Prop
  | [], _ => True
  | event :: rest, floor => floor.InTurn event ∧ InTurnAll rest (floor.after event)

instance decidableInTurnAll [Trade ε τ ρ] : (events : List (Event ε τ)) → (floor : Floor ε τ ρ) →
    Decidable (floor.InTurnAll events)
  | [], _ => inferInstanceAs (Decidable True)
  | event :: rest, floor =>
      have := decidableInTurnAll rest (floor.after event)
      inferInstanceAs (Decidable (floor.InTurn event ∧ InTurnAll rest (floor.after event)))

theorem RunInTurn.append [Trade ε τ ρ] {start floor : Floor ε τ ρ} {known : List (History τ ρ)}
    {events : List (Event ε τ)} (inTurn : RunInTurn start known floor)
    (all : floor.InTurnAll events) :
    RunInTurn start (known ++ floor.chronicle events) (floor.afterAll events) := by
  induction events generalizing known floor with
  | nil =>
      rw [chronicle, List.append_nil]
      exact inTurn
  | cons event rest ih =>
      have longer := ih (inTurn.tail event all.1) all.2
      rw [List.append_assoc] at longer
      exact longer

end Floor

end RiskGate.Pool
