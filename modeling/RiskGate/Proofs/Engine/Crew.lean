import RiskGate.Proofs.Engine.OnceCounted
import RiskGate.Proofs.Pool.Staffing

/-!
# Places and workers of an engine's pool

Whatever happens to an engine, its pool keeps its workers and the places of its queue, and
is manned as long as it is not shut down.
-/

namespace RiskGate.Engine

open Schedule (Actor Agenda Clockwork)
open Pool (Floor)
open Pool.Floor (Fit)

variable {workers capacity : Nat} {engine : Engine}

/-- The pool of an engine has its workers and places. -/
def Crewed (workers capacity : Nat) (engine : Engine) : Prop :=
  Fit workers capacity none engine.floor

namespace Crewed

theorem make (settings : Config.Settings) (service : Service) :
    Crewed (max settings.execution.maxConcurrentRequests 1) (max settings.execution.queueCapacity 1)
      (Engine.make settings service) :=
  Fit.make _ _ _

/-- Tasks share something else. -/
theorem onCore (crewed : Crewed workers capacity engine) (change : Core → Core) :
    Crewed workers capacity (engine.onCore change) :=
  Fit.books crewed (change engine.core) _ _ _ _ _ _

/-- Actors are woken. -/
theorem wakes (crewed : Crewed workers capacity engine) {change : Agenda → Agenda}
    (wakes : Agenda.Wakes engine.floor.agenda (change engine.floor.agenda)) :
    Crewed workers capacity (engine.onAgenda change) :=
  Fit.wakes crewed wakes

/-- The agenda goes on, and no caller who is ready is forgotten. -/
theorem onAgenda (crewed : Crewed workers capacity engine) (change : Agenda → Agenda)
    (opened : (change engine.floor.agenda).Opened)
    (ready : ∀ caller, .caller caller ∈ engine.floor.agenda.ready →
      .caller caller ∈ (change engine.floor.agenda).ready) :
    Crewed workers capacity (engine.onAgenda change) :=
  Fit.onAgenda crewed opened ready

/-- The turn of somebody else than a caller begins. -/
theorem unready (crewed : Crewed workers capacity engine) {actor : Actor}
    (other : ∀ caller, actor ≠ .caller caller) : Crewed workers capacity (engine.unready actor) :=
  crewed.onAgenda (fun agenda => { agenda with ready := agenda.ready.erase actor })
    (Fit.opened crewed) fun caller ready => (List.mem_erase_of_ne (Ne.symm (other caller))).mpr ready

theorem runGuest (crewed : Crewed workers capacity engine) (number scope : Nat)
    {operation : Operation} (errand : Errand operation) :
    Crewed workers capacity (engine.runGuest number scope errand) := by
  obtain ⟨change, floorEq, wakes⟩ := engine.runGuest_floor number scope errand
  rw [Crewed, floorEq]
  exact (crewed.onCore fun _ =>
    (errand.resume (engine.isCancelled scope) engine.now engine.core).1).wakes wakes

/-- Somebody looks at a caller. -/
theorem conclude (crewed : Crewed workers capacity engine) (caller : Nat) :
    Crewed workers capacity (engine.conclude caller) := by
  rcases engine.conclude_cases caller with
    ⟨batch, _, number, round, _, _, _, concludeEq, _⟩ | ⟨_, _, concludeEq | concludeEq⟩
  · rw [concludeEq]
    have recorded := crewed.onCore fun core =>
      (recount round.firstSlot (engine.reported round batch.outcomes) core).record
        (·.recordBatch (Span.ofMillis (engine.now - round.begunAt)) round.size)
    exact recorded.onAgenda (·.dismiss (.timer number)) (Fit.opened recorded)
      fun caller ready => List.mem_filter.mpr ⟨ready, by simp⟩
  · rw [concludeEq]
    exact crewed
  · rw [concludeEq]
    exact crewed.onCore fun core => { core with cache := core.cache.clear.close }

theorem askBatch (crewed : Crewed workers capacity engine) (outer : Nat) (requests : List Request) :
    Crewed workers capacity (engine.askBatch outer requests).1 := by
  rw [askBatch_eq]
  split
  · exact crewed
  · have opened : Crewed workers capacity (engine.opened outer) := by
      have child := (Fit.opened crewed).openChild outer
      have woken := Agenda.wakes_wake (engine.floor.agenda.openChild outer).1
        (.timer engine.rounds.length)
      apply crewed.onAgenda
      · rw [Agenda.Opened, woken.cancelled, woken.parents]
        exact child
      · exact fun caller ready => woken.ready _ ready
    have handed : Crewed workers capacity (engine.handed outer requests) :=
      Fit.executeBatch opened _ _ _
    exact handed.conclude _

theorem shutdown (crewed : Crewed workers capacity engine) (limit : Span) :
    Crewed workers capacity (engine.shutdown limit).1 := by
  unfold Engine.shutdown
  split
  · exact Fit.enter crewed _
  · have closing : Crewed workers capacity (engine.closing limit) := Fit.shutdown crewed limit
    exact closing.conclude _

theorem turn (crewed : Crewed workers capacity engine) (actor : Actor) :
    Crewed workers capacity (engine.after (.turn actor)) := by
  cases actor with
  | dispatcher => exact Fit.dispatch (crewed.unready nofun)
  | worker index => exact Fit.work (crewed.unready nofun)
  | caller caller =>
      have attended : Crewed workers capacity
          ((engine.unready (.caller caller)).onFloor (·.attend caller)) :=
        Fit.attend (Fit.unready crewed caller)
      exact attended.conclude caller
  | guest number =>
      have rested : Crewed workers capacity (engine.unready (.guest number)) :=
        crewed.unready nofun
      change Crewed workers capacity ((engine.unready (.guest number)).guestTurn number)
      unfold guestTurn
      split
      · exact rested.runGuest _ _ _
      · exact rested
  | timer number =>
      have rested : Crewed workers capacity (engine.unready (.timer number)) :=
        crewed.unready nofun
      change Crewed workers capacity ((engine.unready (.timer number)).timerTurn number)
      unfold timerTurn
      split
      · apply rested.onAgenda
        · split
          · exact (Fit.opened rested).cancel _
          · exact Fit.opened rested
        · intro caller ready
          split
          · exact (Agenda.spares_cancel _ _ _).ready ready
          · exact ready
      · exact rested

/-- Every event leaves the pool its workers and places. -/
theorem after (crewed : Crewed workers capacity engine) (event : Event) :
    Crewed workers capacity (engine.after event) := by
  cases event with
  | ask operation scope request =>
      have watched := crewed.wakes (Agenda.wakes_watch _ scope (.guest engine.guests.length))
      have enteredCrewed : Crewed workers capacity (engine.entered operation scope request) :=
        watched
      exact enteredCrewed.runGuest _ _ _
  | askBatch outer requests => exact crewed.askBatch outer requests
  | shutdown limit => exact crewed.shutdown limit
  | resetBreaker => exact crewed.onCore _
  | resetMetrics => exact crewed.onCore _
  | openScope => exact crewed.onAgenda _ (Fit.opened crewed).openScope fun _ => id
  | openChild parent => exact crewed.onAgenda _ ((Fit.opened crewed).openChild parent) fun _ => id
  | cancel scope =>
      exact crewed.onAgenda _ ((Fit.opened crewed).cancel scope)
        fun caller => (Agenda.spares_cancel (.caller caller) _ scope).ready
  | plan due scope => exact crewed.onAgenda _ (Fit.opened crewed) fun _ => id
  | turn actor => exact crewed.turn actor
  | pass instant =>
      have elapsed : Crewed workers capacity
          (Clockwork.elapse engine.now (max engine.now instant) engine) := crewed.onCore _
      exact elapsed.onAgenda _ ((Fit.opened elapsed).moveTo instant)
        fun caller => (Agenda.spares_moveTo (.caller caller) _ instant).ready

theorem run (crewed : Crewed workers capacity engine) (events : List Event) :
    Crewed workers capacity (engine.run events) := by
  induction events generalizing engine with
  | nil => exact crewed
  | cons event rest ih => exact ih (crewed.after event)

end Crewed

end RiskGate.Engine
