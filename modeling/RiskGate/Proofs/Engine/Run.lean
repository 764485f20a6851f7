import RiskGate.Engine
import RiskGate.Proofs.Pool.Custody

/-!
# Runs of an engine

A run is any sequence of events: requests, batches, shutdowns, resets, changes of
scopes, turns of actors, and the passing of time.  Nothing is asked of their order, so
a statement about runs covers every interleaving, the one that the clockwork follows
among them.

A run comes with its history: every result with which a request was answered, whether
it came from the cache or from the service.  The history is read off what errands end
with when they are resumed, by a guest or by a worker; it has no influence on the run.
-/

namespace RiskGate

open Schedule (Actor Agenda Clockwork)

namespace Engine

/-! ## Results -/

/-- Where a result came from. -/
inductive Origin where
  | cache
  | service
deriving DecidableEq, Repr

/-- A result with which a request was answered. -/
structure Yield where
  instant : Nat
  operation : Operation
  request : Request
  answer : Answer
  origin : Origin

namespace Errand

variable {operation : Operation}

/-- What the cache holds for an errand that has not begun. -/
def remembered? (now : Nat) (errand : Errand operation) (core : Core) :
    Option operation.Result :=
  match errand.flight with
  | none => (core.lookup now errand.key).2.bind operation.ofAnswer
  | some _ => none

/-- The result of an errand, if it ends with one when it is resumed. -/
def yields (cancelled : Bool) (now : Nat) (errand : Errand operation) (core : Core) :
    List Yield :=
  match (errand.resume cancelled now core).2 with
  | .finished (.ok value) =>
      [{ instant := now
         operation := operation
         request := errand.request
         answer := operation.toAnswer value
         origin := if (errand.remembered? now core).isSome then .cache else .service }]
  | _ => []

end Errand

/-! ## Events -/

/-- What can happen to an engine. -/
inductive Event where
  | ask (operation : Operation) (scope : Nat) (request : Request)
  | askBatch (outer : Nat) (requests : List Request)
  | shutdown (limit : Span)
  | resetBreaker
  | resetMetrics
  | openScope
  | openChild (parent : Nat)
  | cancel (scope : Nat)
  /-- A scope is to be cancelled at an instant to come. -/
  | plan (due scope : Nat)
  | turn (actor : Actor)
  | pass (instant : Nat)

/-- An actor is no longer ready. -/
def unready (actor : Actor) (engine : Engine) : Engine :=
  engine.onFloor (·.unready actor)

/-- The engine after an event. -/
def after (event : Event) (engine : Engine) : Engine :=
  match event with
  | .ask operation scope request => (engine.ask operation scope request).1
  | .askBatch outer requests => (engine.askBatch outer requests).1
  | .shutdown limit => (engine.shutdown limit).1
  | .resetBreaker => engine.resetBreaker
  | .resetMetrics => engine.resetMetrics
  | .openScope => engine.onAgenda (·.openScope.1)
  | .openChild parent => engine.onAgenda fun agenda => (agenda.openChild parent).1
  | .cancel scope => engine.onAgenda (·.cancel scope)
  | .plan due scope => engine.onAgenda (·.plan due scope)
  | .turn actor => turn actor (engine.unready actor)
  | .pass instant =>
      (Clockwork.elapse engine.now (max engine.now instant) engine).onAgenda (·.moveTo instant)

/-- The results with which requests are answered by an event. -/
def yields (event : Event) (engine : Engine) : List Yield :=
  match event with
  | .ask operation scope request =>
      ({ request := request } : Errand operation).yields (engine.isCancelled scope) engine.now
        engine.core
  | .turn (.guest number) =>
      match engine.guests[number]? with
      | some ⟨scope, _, .running errand⟩ =>
          errand.yields (engine.isCancelled scope) engine.now engine.core
      | _ => []
  | .turn (.worker index) =>
      match engine.floor.resumed? index with
      | some errand => errand.yields false engine.now engine.core
      | none => []
  | _ => []

/-- The engine after events, one after another. -/
def run (events : List Event) (engine : Engine) : Engine :=
  events.foldl (fun engine event => engine.after event) engine

/-- The results with which requests are answered in a run, the first one first. -/
def history : List Event → Engine → List Yield
  | [], _ => []
  | event :: rest, engine => engine.yields event ++ history rest (engine.after event)

/-- The engine when a guest has entered whose errand has not begun. -/
def entered (operation : Operation) (scope : Nat) (request : Request) (engine : Engine) : Engine :=
  { engine.onAgenda (·.watch scope (.guest engine.guests.length)) with
    guests := engine.guests ++ [⟨scope, operation, .running { request := request }⟩] }

/-- A timer changes nothing but the agenda. -/
theorem after_timer (number : Nat) (engine : Engine) :
    ∃ change, engine.after (.turn (.timer number)) = engine.onAgenda change := by
  let unreadied (agenda : Agenda) : Agenda :=
    { agenda with ready := agenda.ready.erase (.timer number) }
  have afterEq : engine.after (.turn (.timer number)) =
      (engine.onAgenda unreadied).timerTurn number := rfl
  rw [afterEq, timerTurn]
  split
  next round _ =>
    let expire (agenda : Agenda) : Agenda :=
      if round.due ≤ agenda.now then agenda.cancel round.scope
      else agenda.setAlarm round.due (.timer number)
    exact ⟨fun agenda => expire (unreadied agenda), rfl⟩
  next => exact ⟨unreadied, rfl⟩

/-! ## Runs of the clockwork -/

theorem run_append (first second : List Event) (engine : Engine) :
    engine.run (first ++ second) = (engine.run first).run second := by
  simp [run]

/-- A turn of the clockwork is the turn of the actor who comes next. -/
theorem step_of_ready {engine : Engine} {actor : Actor} {others : List Actor}
    (head : engine.floor.agenda.ready = actor :: others) :
    Clockwork.step engine = some (engine.after (.turn actor)) :=
  Clockwork.step_of_ready head

/-- Any number of turns is a run, whatever their order. -/
theorem steps_eq_run {next : Engine → Option Engine} (turns : Clockwork.TakesTurns next)
    (count : Nat) (engine : Engine) :
    ∃ events, Clockwork.steps next count engine = engine.run events := by
  have keeps : ∀ between : Engine, ∀ actor ∈ between.floor.agenda.ready,
      (∃ events, between = engine.run events) →
        ∃ events, Clockwork.callUp actor between = engine.run events := by
    rintro _ actor _ ⟨events, rfl⟩
    refine ⟨events ++ [.turn actor], ?_⟩
    rw [run_append]
    rfl
  exact turns.steps_keep keeps count ⟨[], rfl⟩

theorem moveClock_eq (instant : Nat) (engine : Engine) :
    Clockwork.moveClock instant engine = engine.after (.pass instant) := rfl

/-- A jump of the clockwork is a run. -/
theorem jump_eq_run (instant : Nat) (engine : Engine) :
    ∃ events, Clockwork.jump instant engine = engine.run events := by
  rw [Clockwork.jump, moveClock_eq, Clockwork.settle]
  obtain ⟨events, settled⟩ := steps_eq_run Clockwork.takesTurns_step
    (Clockwork.effort (engine.after (.pass instant))) (engine.after (.pass instant))
  rw [settled]
  exact ⟨.pass instant :: events, rfl⟩

/-- A jump with a host is a run. -/
theorem hostedJump_eq_run (host : Actor) (instant : Nat) (engine : Engine) :
    ∃ events, Clockwork.hostedJump host instant engine = engine.run events := by
  have settles (between : Engine) : ∃ events,
      Clockwork.hostedSettle host between = between.run events :=
    steps_eq_run (Clockwork.takesTurns_hostedStep host) _ between
  rw [Clockwork.hostedJump, moveClock_eq]
  split
  · obtain ⟨events, settled⟩ := settles (Clockwork.callUp host (engine.after (.pass instant)))
    rw [settled]
    exact ⟨.pass instant :: .turn host :: events, rfl⟩
  · obtain ⟨events, settled⟩ := settles (engine.after (.pass instant))
    rw [settled]
    exact ⟨.pass instant :: events, rfl⟩

/-- Going from one due instant to the next is a run if each jump is one. -/
theorem jumps_eq_run {jump : Nat → Engine → Engine}
    (jumpEq : ∀ instant engine, ∃ events, jump instant engine = engine.run events)
    (stop : Engine → Bool) (last count : Nat) (engine : Engine) :
    ∃ events, Clockwork.jumps jump stop last count engine = engine.run events := by
  induction count generalizing engine with
  | zero => exact ⟨[], rfl⟩
  | succ count ih =>
      rw [Clockwork.jumps]
      split
      · exact ⟨[], rfl⟩
      · split
        · exact ⟨[], rfl⟩
        next due _ =>
          split
          · obtain ⟨first, jumped⟩ := jumpEq due engine
            obtain ⟨second, restEq⟩ := ih (jump due engine)
            refine ⟨first ++ second, ?_⟩
            rw [restEq, jumped, run_append]
          · exact ⟨[], rfl⟩

/-- Letting time pass is a run. -/
theorem advance_eq_run (millis : Nat) (engine : Engine) :
    ∃ events, Clockwork.advance millis engine = engine.run events := by
  let last := engine.now + millis
  obtain ⟨first, jumpsEq⟩ :=
    jumps_eq_run jump_eq_run (fun _ => false) last (millis + 1) engine
  obtain ⟨second, jumpEq⟩ := jump_eq_run last (engine.run first)
  refine ⟨first ++ second, ?_⟩
  rw [run_append, ← jumpEq, ← jumpsEq]
  rfl

/-- Waiting with a host is a run. -/
theorem hostedAwait_eq_run (host : Actor) (stop : Engine → Bool) (engine : Engine) :
    ∃ events, Clockwork.hostedAwait host stop engine = engine.run events := by
  obtain ⟨first, settled⟩ := steps_eq_run (Clockwork.takesTurns_hostedStep host)
    (Clockwork.effort engine) engine
  obtain ⟨second, jumped⟩ := jumps_eq_run (hostedJump_eq_run host) stop Clockwork.endOfTime
    Clockwork.endOfTime (engine.run first)
  refine ⟨first ++ second, ?_⟩
  rw [run_append, ← jumped, ← settled]
  rfl

end Engine

end RiskGate
