import RiskGate.Proofs.Engine.OnceCounted
import RiskGate.Proofs.Pool.Heeding

/-!
# The pool of an engine runs as a pool

Whatever happens to an engine, its pool goes through proper events of its own: calls, turns,
changes of scopes, and affairs of actors outside the pool.  What every proper event of a
pool preserves is therefore preserved by every event of the engine, and what becomes known
of the jobs of a pool becomes known of the items of the batches of an engine.
-/

namespace RiskGate.Schedule.Agenda

/-! ## Actors outside the pool -/

section Outsiders

variable {actor : Actor} (outside : actor.isInsider = false) (agenda : Agenda)

include outside

theorem insiders_wake : (agenda.wake actor).insiders = agenda.insiders := by
  unfold wake
  split
  · rfl
  · simp [insiders, outside]

theorem insiders_unready :
    insiders { agenda with ready := agenda.ready.erase actor } = agenda.insiders := by
  have kept : ∀ ready : List Actor,
      (ready.erase actor).filter (·.isInsider) = ready.filter (·.isInsider) := by
    intro ready
    induction ready with
    | nil => rfl
    | cons first rest ih =>
        by_cases same : first = actor
        · rw [same, List.erase_cons_head, List.filter_cons_of_neg (by simpa using outside)]
        · rw [List.erase_cons_tail (by simpa using same), List.filter_cons, List.filter_cons, ih]
  rw [insiders, kept, insiders]

/-- Whoever belongs to the pool is somebody else. -/
theorem isInsider_and_ne (other : Actor) :
    (other.isInsider && other != actor) = other.isInsider := by
  cases inside : other.isInsider with
  | false => rfl
  | true =>
      have distinct : other ≠ actor := by
        rintro rfl
        cases outside.symm.trans inside
      simpa using distinct

theorem insiders_release : (agenda.release actor).insiders = agenda.insiders := by
  simp only [insiders, release, List.filter_filter, isInsider_and_ne outside]

theorem insiders_dismiss : (agenda.dismiss actor).insiders = agenda.insiders := by
  simp only [insiders, dismiss, release, List.filter_filter, isInsider_and_ne outside]

theorem insiders_watch (scope : Nat) : (agenda.watch scope actor).insiders = agenda.insiders := by
  simp [insiders, watch, outside]

theorem insiders_setAlarms (alarms : List Nat) :
    (alarms.foldl (fun agenda due => agenda.setAlarm due actor) agenda).insiders =
      agenda.insiders := by
  induction alarms generalizing agenda with
  | nil => rfl
  | cons due rest ih =>
      have set : (agenda.setAlarm due actor).insiders = agenda.insiders := by
        simp [insiders, setAlarm, outside]
      exact (ih _).trans set

end Outsiders

end RiskGate.Schedule.Agenda

namespace RiskGate.Engine

open Schedule (Actor Agenda Clockwork)
open Pool (Floor)

/-! ## Affairs outside the pool -/

/-- What happened did not concern the pool: what its tasks share may have changed, and the
affairs of actors outside. -/
structure Aloof (before after : Engine) : Prop where
  floor : after.floor =
    { before.floor with shared := after.core }.onAgenda fun _ => after.floor.agenda
  insiders : after.floor.agenda.insiders = before.floor.agenda.insiders
  down : after.down = before.down

/-- Events of a pool in which it has no part. -/
def affairs (after : Engine) : List (Pool.Event Core (Errand .assess)) :=
  [.disturb after.core [], .rearrange after.floor.agenda]

namespace Aloof

variable {before middle after : Engine}

theorem trans (first : Aloof before middle) (second : Aloof middle after) :
    Aloof before after where
  floor := by
    rw [second.floor, first.floor]
    rfl
  insiders := second.insiders.trans first.insiders
  down := second.down.trans first.down

theorem onCore (engine : Engine) (change : Core → Core) : Aloof engine (engine.onCore change) :=
  ⟨rfl, rfl, rfl⟩

theorem onAgenda (engine : Engine) {change : Agenda → Agenda}
    (insiders : (change engine.floor.agenda).insiders = engine.floor.agenda.insiders) :
    Aloof engine (engine.onAgenda change) :=
  ⟨rfl, insiders, rfl⟩

/-- The pool goes through its affairs. -/
theorem onPool (aloof : Aloof before after) :
    after.floor = before.floor.afterAll (affairs after) ∧ before.floor.ProperAll (affairs after) :=
  ⟨aloof.floor, trivial, aloof.insiders, trivial⟩

/-- A guest's errand is resumed. -/
theorem runGuest (number scope : Nat) {operation : Operation} (errand : Errand operation)
    (engine : Engine) : Aloof engine (engine.runGuest number scope errand) := by
  unfold Engine.runGuest
  generalize errand.resume (engine.isCancelled scope) engine.now engine.core = result
  obtain ⟨core, outcome | ⟨next, alarms⟩⟩ := result
  · exact ⟨rfl, Agenda.insiders_release rfl _, rfl⟩
  · exact ⟨rfl, Agenda.insiders_setAlarms rfl _ alarms, rfl⟩

/-- Somebody looks at a caller. -/
theorem conclude (caller : Nat) (engine : Engine) : Aloof engine (engine.conclude caller) := by
  rcases engine.conclude_cases caller with
    ⟨batch, _, number, round, _, _, _, concludeEq, _⟩ | ⟨_, _, same | emptied⟩
  · rw [concludeEq]
    exact ⟨rfl, Agenda.insiders_dismiss rfl _, rfl⟩
  · rw [same]
    exact ⟨rfl, rfl, rfl⟩
  · rw [emptied]
    exact ⟨rfl, rfl, rfl⟩

end Aloof

/-! ## Events -/

/-- The events that the pool goes through in an event of the engine. -/
def poolEvents (event : Event) (engine : Engine) : List (Pool.Event Core (Errand .assess)) :=
  match event with
  | .askBatch outer requests =>
      match engine.refusal? requests with
      | some _ => []
      | none =>
          .openChild outer :: .rearrange (engine.opened outer).floor.agenda ::
            .executeBatch engine.settings.submitTimeout (engine.begun outer requests).scope
              (errands engine.nextSlot requests) ::
            affairs (engine.after event)
  | .shutdown limit => .shutdown limit :: affairs (engine.after event)
  | .openScope => [.openScope]
  | .openChild parent => [.openChild parent]
  | .cancel scope => [.cancel scope]
  | .plan due scope => [.plan due scope]
  | .pass instant => [.pass instant]
  | .turn .dispatcher => [.turn .dispatcher]
  | .turn (.worker index) => [.turn (.worker index)]
  | .turn (.caller caller) => .turn (.caller caller) :: affairs (engine.after event)
  | .turn (.timer number) =>
      match engine.rounds[number]? with
      | some (.running round) =>
          if round.due ≤ engine.now then
            [.rearrange (engine.unready (.timer number)).floor.agenda, .cancel round.scope]
          else affairs (engine.after event)
      | _ => affairs (engine.after event)
  | .turn (.guest _) | .ask .. | .resetBreaker | .resetMetrics => affairs (engine.after event)

/-- What becomes known of the jobs of the pool by an event. -/
def notes (event : Event) (engine : Engine) : Pool.History (Errand .assess) Assessment :=
  engine.floor.notesAll (engine.poolEvents event)

/-- What becomes known of the jobs of the pool in a run, the oldest first. -/
def told : List Event → Engine → Pool.History (Errand .assess) Assessment
  | [], _ => []
  | event :: rest, engine => engine.notes event ++ told rest (engine.after event)

/-- An event of the engine makes its pool go through proper events, and only a shutdown
shuts the engine down. -/
structure Routes (event : Event) (engine : Engine) : Prop where
  floor : (engine.after event).floor = engine.floor.afterAll (engine.poolEvents event)
  proper : engine.floor.ProperAll (engine.poolEvents event)
  down : (engine.after event).down = engine.down ∨ ∃ limit, event = .shutdown limit

/-- The pool of an engine that is shut down is shut down, and the account of its jobs is
kept. -/
structure Pooled (history : Pool.History (Errand .assess) Assessment) (engine : Engine) :
    Prop where
  sound : engine.floor.Sound history
  shut : engine.down = true → engine.floor.shut = true

section Routing

variable {engine : Engine}

theorem Aloof.routes {event : Event} (aloof : Aloof engine (engine.after event))
    (events : engine.poolEvents event = affairs (engine.after event)) : Routes event engine where
  floor := by
    rw [events]
    exact aloof.onPool.1
  proper := by
    rw [events]
    exact aloof.onPool.2
  down := .inl aloof.down

theorem routes_askBatch (outer : Nat) (requests : List Request) :
    Routes (.askBatch outer requests) engine := by
  have afterEq : engine.after (.askBatch outer requests) = (engine.askBatch outer requests).1 :=
    rfl
  cases refused : engine.refusal? requests with
  | some outcome =>
      have events : engine.poolEvents (.askBatch outer requests) = [] := by rw [poolEvents, refused]
      have answered : engine.after (.askBatch outer requests) = (engine.answerRound outcome).1 := by
        rw [afterEq, askBatch_eq, refused]
      refine ⟨?_, ?_, ?_⟩
      · rw [events, answered]
        rfl
      · rw [events]
        trivial
      · rw [answered]
        exact .inl rfl
  | none =>
      have events : engine.poolEvents (.askBatch outer requests) =
          .openChild outer :: .rearrange (engine.opened outer).floor.agenda ::
            .executeBatch engine.settings.submitTimeout (engine.begun outer requests).scope
              (errands engine.nextSlot requests) ::
            affairs (engine.after (.askBatch outer requests)) := by
        rw [poolEvents, refused]
      have concluded : engine.after (.askBatch outer requests) =
          (engine.handed outer requests).conclude engine.floor.callers.length := by
        rw [afterEq, askBatch_eq, refused]
      have aloof := Aloof.conclude engine.floor.callers.length (engine.handed outer requests)
      have opened : engine.floor.agenda.parents.length <
          (engine.opened outer).floor.agenda.parents.length := by
        simp [Engine.opened, Engine.onAgenda, Engine.onFloor, Floor.onAgenda, Agenda.openChild]
      refine ⟨?_, ?_, ?_⟩
      · rw [events, concluded]
        exact aloof.onPool.1
      · rw [events, concluded]
        exact ⟨trivial, Agenda.insiders_wake rfl _, opened, aloof.onPool.2⟩
      · rw [concluded]
        exact .inl aloof.down

theorem routes_shutdown {history : Pool.History (Errand .assess) Assessment}
    (pooled : Pooled history engine) (limit : Span) : Routes (.shutdown limit) engine := by
  have afterEq : engine.after (.shutdown limit) = (engine.shutdown limit).1 := rfl
  have aloof : Aloof { engine with floor := (engine.floor.shutdown limit).1, down := true }
      (engine.after (.shutdown limit)) := by
    rw [afterEq, shutdown]
    split
    next down =>
      have entered : (engine.floor.shutdown limit).1 =
          (engine.floor.enter (.closed (.ok ()) engine.now)).1 := by
        rw [Floor.shutdown, if_pos (pooled.shut down)]
        rfl
      rw [entered]
      exact ⟨rfl, rfl, down⟩
    · have concluded := Aloof.conclude (engine.floor.shutdown limit).2 (engine.closing limit)
      exact ⟨concluded.floor, concluded.insiders, concluded.down⟩
  exact ⟨aloof.onPool.1, ⟨trivial, aloof.onPool.2⟩, .inr ⟨limit, rfl⟩⟩

theorem routes_turn (actor : Actor) : Routes (.turn actor) engine := by
  cases actor with
  | dispatcher | worker => exact ⟨rfl, ⟨trivial, trivial⟩, .inl rfl⟩
  | caller caller =>
      let attended : Engine := (engine.unready (.caller caller)).onFloor (·.attend caller)
      have concluded := Aloof.conclude caller attended
      exact ⟨concluded.onPool.1, ⟨trivial, concluded.onPool.2⟩, .inl concluded.down⟩
  | guest number =>
      have rested : Aloof engine (engine.unready (.guest number)) :=
        ⟨rfl, Agenda.insiders_unready rfl _, rfl⟩
      refine Aloof.routes ?_ rfl
      change Aloof engine ((engine.unready (.guest number)).guestTurn number)
      unfold guestTurn
      split
      · exact rested.trans (.runGuest _ _ _ _)
      · exact rested
  | timer number =>
      have insiders := Agenda.insiders_unready
        (show (Actor.timer number).isInsider = false from rfl) engine.floor.agenda
      have rested : Aloof engine (engine.unready (.timer number)) := ⟨rfl, insiders, rfl⟩
      have afterEq : engine.after (.turn (.timer number)) =
          (engine.unready (.timer number)).timerTurn number := rfl
      have same : (engine.unready (.timer number)).rounds = engine.rounds := rfl
      by_cases fires : ∃ round, engine.rounds[number]? = some (.running round) ∧
        round.due ≤ engine.now
      · obtain ⟨round, found, due⟩ := fires
        have fires : round.due ≤ (engine.unready (.timer number)).floor.agenda.now := due
        have events : engine.poolEvents (.turn (.timer number)) =
            [.rearrange (engine.unready (.timer number)).floor.agenda, .cancel round.scope] := by
          simp only [poolEvents, found, if_pos due]
        have cancelled : engine.after (.turn (.timer number)) =
            (engine.unready (.timer number)).onAgenda (·.cancel round.scope) := by
          rw [afterEq, timerTurn, same, found]
          simp only [Engine.onAgenda, Engine.onFloor, Floor.onAgenda, if_pos fires]
        refine ⟨?_, ?_, ?_⟩
        · rw [events, cancelled]
          rfl
        · rw [events]
          exact ⟨insiders, trivial, trivial⟩
        · rw [cancelled]
          exact .inl rfl
      · have events : engine.poolEvents (.turn (.timer number)) =
            affairs (engine.after (.turn (.timer number))) := by
          rw [poolEvents]
          split
          next round found => rw [if_neg fun due => fires ⟨round, found, due⟩]
          · rfl
        refine Aloof.routes ?_ events
        rw [afterEq, timerTurn, same]
        split
        next round found =>
          have waits : ¬round.due ≤ (engine.unready (.timer number)).floor.agenda.now :=
            fun due => fires ⟨round, found, due⟩
          refine rested.trans (.onAgenda _ ?_)
          rw [if_neg waits]
          exact Agenda.insiders_setAlarms rfl _ [round.due]
        · exact rested

/-- In every event of an engine its pool goes through proper events of its own. -/
theorem Pooled.routes {history : Pool.History (Errand .assess) Assessment}
    (pooled : Pooled history engine) (event : Event) : Routes event engine := by
  cases event with
  | ask operation scope request =>
      let errand : Errand operation := { request := request }
      let entered := engine.entered operation scope request
      have entering : Aloof engine entered := ⟨rfl, Agenda.insiders_watch rfl _ scope, rfl⟩
      have asked : Aloof engine (engine.ask operation scope request).1 :=
        entering.trans (.runGuest engine.guests.length scope errand entered)
      exact Aloof.routes asked rfl
  | askBatch outer requests => exact routes_askBatch outer requests
  | shutdown limit => exact routes_shutdown pooled limit
  | resetBreaker =>
      have reset : Aloof engine engine.resetBreaker := .onCore engine _
      exact Aloof.routes reset rfl
  | resetMetrics =>
      have reset : Aloof engine engine.resetMetrics := .onCore engine _
      exact Aloof.routes reset rfl
  | openScope | openChild | cancel | plan | pass => exact ⟨rfl, ⟨trivial, trivial⟩, .inl rfl⟩
  | turn actor => exact routes_turn actor

/-! ## Runs -/

theorem Pooled.make (settings : Config.Settings) (service : Service) :
    Pooled [] (make settings service) where
  sound := .make _ _ _
  shut := nofun

theorem shut_shutdown (floor : Floor Core (Errand .assess) Assessment) (limit : Span) :
    (floor.shutdown limit).1.shut = true := by
  rcases floor.shutdown_cases limit with ⟨shut, shutEq⟩ | ⟨_, _, shutEq⟩ | ⟨_, _, shutEq⟩
  · rw [shutEq]
    exact shut
  · rw [shutEq]
    rfl
  · rw [shutEq]
    rfl

theorem shut_afterAll {floor : Floor Core (Errand .assess) Assessment}
    {events : List (Pool.Event Core (Errand .assess))} (proper : floor.ProperAll events)
    (shut : floor.shut = true) : (floor.afterAll events).shut = true :=
  proper.preserves (fun _ floor => floor.shut = true) [] shut fun _ _ _ _ => Floor.shut_after

/-- Every event keeps the account of the jobs of the pool. -/
theorem Pooled.after {history : Pool.History (Errand .assess) Assessment}
    (pooled : Pooled history engine) (event : Event) :
    Pooled (history ++ engine.notes event) (engine.after event) := by
  have routes := pooled.routes event
  constructor
  · rw [routes.floor]
    apply routes.proper.preserves (fun history floor => floor.Sound history) history pooled.sound
    exact fun _ _ event _ proper sound => sound.after event proper
  · intro down
    rw [routes.floor]
    rcases routes.down with same | ⟨limit, rfl⟩
    · exact shut_afterAll routes.proper (pooled.shut (same ▸ down))
    · have stays := shut_afterAll routes.proper.2 (shut_shutdown engine.floor limit)
      exact stays

/-- The account of the jobs of the pool is kept in every run. -/
theorem Pooled.run {history : Pool.History (Errand .assess) Assessment}
    (pooled : Pooled history engine) (events : List Event) :
    Pooled (history ++ engine.told events) (engine.run events) := by
  induction events generalizing history engine with
  | nil =>
      rw [told, List.append_nil]
      exact pooled
  | cons event rest ih =>
      rw [told, ← List.append_assoc]
      exact ih (pooled.after event)

theorem told_append (first second : List Event) (engine : Engine) :
    engine.told (first ++ second) = engine.told first ++ (engine.run first).told second := by
  induction first generalizing engine with
  | nil => rfl
  | cons event rest ih =>
      rw [List.cons_append, told, told, ih, List.append_assoc]
      rfl

/-! ## What events preserve -/

section Preserving

variable {history : Pool.History (Errand .assess) Assessment}

/-- What the events of the pool preserve is preserved by the event of the engine that they
belong to. -/
theorem Pooled.preserves (pooled : Pooled history engine)
    (property : Pool.History (Errand .assess) Assessment →
      Floor Core (Errand .assess) Assessment → Prop)
    (initial : property history engine.floor) (event : Event)
    (step : ∀ (history : Pool.History (Errand .assess) Assessment)
      (floor : Floor Core (Errand .assess) Assessment)
      (poolEvent : Pool.Event Core (Errand .assess)),
      poolEvent ∈ engine.poolEvents event → floor.Proper poolEvent → floor.Sound history →
        property history floor → property (history ++ floor.notes poolEvent)
          (floor.after poolEvent)) :
    property (history ++ engine.notes event) (engine.after event).floor := by
  have routes := pooled.routes event
  have kept := routes.proper.preserves
    (fun history floor => floor.Sound history ∧ property history floor) history
    ⟨pooled.sound, initial⟩ ?_
  · rw [routes.floor]
    exact kept.2
  · rintro history floor poolEvent member proper ⟨sound, holds⟩
    exact ⟨sound.after poolEvent proper, step history floor poolEvent member proper sound holds⟩

/-- What every event of the pool preserves is preserved by every run of the engine. -/
theorem Pooled.preserves_run (pooled : Pooled history engine)
    (property : Pool.History (Errand .assess) Assessment →
      Floor Core (Errand .assess) Assessment → Prop)
    (initial : property history engine.floor) (events : List Event)
    (step : ∀ (history : Pool.History (Errand .assess) Assessment)
      (floor : Floor Core (Errand .assess) Assessment)
      (poolEvent : Pool.Event Core (Errand .assess)),
      floor.Proper poolEvent → floor.Sound history → property history floor →
        property (history ++ floor.notes poolEvent) (floor.after poolEvent)) :
    property (history ++ engine.told events) (engine.run events).floor := by
  induction events generalizing history engine with
  | nil =>
      rw [told, List.append_nil]
      exact initial
  | cons event rest ih =>
      rw [told, ← List.append_assoc]
      apply ih (pooled.after event)
      apply pooled.preserves property initial event
      exact fun history floor poolEvent _ => step history floor poolEvent

end Preserving

end Routing

end RiskGate.Engine
