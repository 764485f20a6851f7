import RiskGate.Engine.Scripted
import RiskGate.Proofs.Engine.Coherence

/-!
# Cache hits of an engine

A result that an engine takes from its cache was given by the service less than the time
to live before, for the same operation and the same business.  This holds in every run,
whatever single requests, batches, sweeps, resets and shutdowns come between the two.

All errands of an engine share one cache, and each of them goes through it in the same
way, whether a guest or a worker resumes it.  What is proved here is that no errand
loses its place: an errand that waits for a reply is the one that asked for it.
-/

namespace RiskGate.Engine

open Schedule (Actor Agenda Clockwork)
open Pool (Floor)

variable {settings : Config.Settings} {service : Service} {history : List Yield}

/-- The result is one of the history. -/
def Known (history : List Yield) (operation : Operation) (value : operation.Result)
    (instant : Nat) : Prop :=
  ∃ yield ∈ history, yield.instant = instant ∧ yield.operation = operation ∧
    yield.answer = operation.toAnswer value

theorem Known.append {operation : Operation} {value : operation.Result} {instant : Nat}
    (known : Known history operation value instant) (new : List Yield) :
    Known (history ++ new) operation value instant := by
  obtain ⟨yield, member, rest⟩ := known
  exact ⟨yield, List.mem_append_left _ member, rest⟩

/-- A guest waits for a reply of the service, or has been given a result of the
history. -/
def Guest.Sound (history : List Yield) (core : Core) (guest : Guest) : Prop :=
  match guest.state with
  | .running errand => errand.Genuine core
  | .answered outcome instant => ∀ value, outcome = .ok value →
      Known history guest.operation value instant

theorem Guest.Sound.onward {before after : Core} {guest : Guest}
    (sound : guest.Sound history before) (onward : Core.Onward before after) (new : List Yield) :
    guest.Sound (history ++ new) after := by
  unfold Guest.Sound at sound ⊢
  split at sound
  · exact Errand.Genuine.onward onward sound
  · exact fun value ok => (sound value ok).append new

/-- The engine agrees with the history of its results. -/
structure Sound (settings : Config.Settings) (service : Service) (history : List Yield)
    (engine : Engine) : Prop where
  coherent : Coherent settings service history engine.now engine.core
  tasks : engine.floor.Only (Errand.Genuine engine.core)
  guests : ∀ guest ∈ engine.guests, guest.Sound history engine.core
  deliveries : ∀ delivery ∈ engine.floor.deliveries, ∀ value, delivery.outcome = .ok value →
    Known history .assess value delivery.deliveredAt

namespace Sound

variable {engine : Engine}

theorem make (settings : Config.Settings) (service : Service) :
    Sound settings service [] (make settings service) where
  coherent := .make settings service 0
  tasks := .make _ _ _ _
  guests := fun _ member => absurd member List.not_mem_nil
  deliveries := fun _ member => absurd member List.not_mem_nil

/-! ## Events without results -/

/-- The pool goes about its affairs. -/
theorem calm (sound : Sound settings service history engine) {next : Engine}
    (calm : Floor.Calm (Errand.Genuine engine.core) engine.floor next.floor)
    (guests : next.guests = engine.guests) : Sound settings service history next := by
  have core : next.core = engine.core := calm.shared
  have now : next.now = engine.now := calm.now
  constructor
  · rw [core, now]
    exact sound.coherent
  · rw [core]
    exact calm.only sound.tasks
  · rw [core, guests]
    exact sound.guests
  · intro delivery member value ok
    exact sound.deliveries delivery (calm.deliveries delivery member value ok) value ok

theorem onAgenda (sound : Sound settings service history engine) (change : Agenda → Agenda)
    (now : (change engine.floor.agenda).now = engine.floor.agenda.now) :
    Sound settings service history (engine.onAgenda change) :=
  sound.calm (Floor.calm_onAgenda _ now) rfl

theorem setAlarms (sound : Sound settings service history engine) (alarms : List Nat)
    (actor : Actor) :
    Sound settings service history (engine.onAgenda fun agenda =>
      alarms.foldl (fun agenda due => agenda.setAlarm due actor) agenda) :=
  sound.calm (Floor.calm_setAlarms _ alarms actor) rfl

theorem tasks_onward (sound : Sound settings service history engine) {core : Core}
    (onward : Core.Onward engine.core core) : engine.floor.Only (Errand.Genuine core) :=
  sound.tasks.mono fun _ genuine => genuine.onward onward

theorem guests_onward (sound : Sound settings service history engine) {core : Core}
    (onward : Core.Onward engine.core core) (new : List Yield) :
    ∀ guest ∈ engine.guests, guest.Sound (history ++ new) core :=
  fun guest member => (sound.guests guest member).onward onward new

/-- What errands share changes, and results may be added to the history. -/
theorem onCore (sound : Sound settings service history engine) (change : Core → Core)
    {new : List Yield}
    (coherent : Coherent settings service (history ++ new) engine.now (change engine.core))
    (onward : Core.Onward engine.core (change engine.core)) :
    Sound settings service (history ++ new) (engine.onCore change) := by
  have tasks := sound.tasks_onward onward
  constructor
  · exact coherent
  · exact ⟨tasks.queue, tasks.desks, tasks.callers⟩
  · exact sound.guests_onward onward new
  · exact fun delivery member value ok => (sound.deliveries delivery member value ok).append new

/-- Nothing comes into the cache. -/
theorem sheds (sound : Sound settings service history engine) (change : Core → Core)
    (sheds : Core.Sheds engine.core (change engine.core)) :
    Sound settings service history (engine.onCore change) := by
  have coherent := sound.coherent.sheds sheds
  rw [← List.append_nil history] at coherent ⊢
  exact sound.onCore change coherent sheds.toOnward

theorem unready (sound : Sound settings service history engine) (actor : Actor) :
    Sound settings service history (engine.unready actor) :=
  sound.onAgenda _ rfl

/-- The time passes, and the cache may be swept. -/
theorem pass (sound : Sound settings service history engine) (instant : Nat) :
    Sound settings service history (engine.after (.pass instant)) := by
  let swept : Engine := engine.onCore fun core =>
    { core with cache := core.cache.elapse engine.now (max engine.now instant) }
  have sound_swept : Sound settings service history swept := by
    apply sound.sheds
    exact ⟨⟨rfl, rfl, List.suffix_refl _⟩, engine.core.cache.sheds_elapse _ _⟩
  have afterEq : engine.after (.pass instant) = swept.onAgenda (·.moveTo instant) := rfl
  have moved : (swept.floor.agenda.moveTo instant).now = max engine.now instant :=
    (Agenda.spares_moveTo .dispatcher swept.floor.agenda instant).now_eq
  rw [afterEq]
  constructor
  · apply sound_swept.coherent.later
    change engine.now ≤ (swept.floor.agenda.moveTo instant).now
    rw [moved]
    exact Nat.le_max_left _ _
  · have tasks := sound_swept.tasks
    exact ⟨tasks.queue, tasks.desks, tasks.callers⟩
  · exact sound_swept.guests
  · exact sound_swept.deliveries

/-! ## Guests -/

/-- A result with which an errand ends is one of the history. -/
theorem known_of_finished {operation : Operation} {errand : Errand operation} {cancelled : Bool}
    {now : Nat} {core : Core} {value : operation.Result}
    (finished : (errand.resume cancelled now core).2 = .finished (.ok value)) :
    Known (history ++ errand.yields cancelled now core) operation value now := by
  unfold Errand.yields
  rw [finished]
  exact ⟨_, List.mem_append_right _ (List.mem_singleton_self _), rfl, rfl, rfl⟩

theorem setGuest (sound : Sound settings service history engine) (number : Nat) {guest : Guest}
    (sound_guest : guest.Sound history engine.core) :
    Sound settings service history (engine.setGuest number guest) where
  coherent := sound.coherent
  tasks := sound.tasks
  guests := by
    intro other member
    rcases List.mem_or_eq_of_mem_set member with old | rfl
    · exact sound.guests other old
    · exact sound_guest
  deliveries := sound.deliveries

/-- A guest's errand is resumed. -/
theorem runGuest (sound : Sound settings service history engine) (number scope : Nat)
    {operation : Operation} {errand : Errand operation} (genuine : errand.Genuine engine.core) :
    Sound settings service
      (history ++ errand.yields (engine.isCancelled scope) engine.now engine.core)
      (engine.runGuest number scope errand) := by
  obtain ⟨coherent, onward, waiting⟩ :=
    sound.coherent.resume genuine (engine.isCancelled scope)
  have known : ∀ value, (errand.resume (engine.isCancelled scope) engine.now engine.core).2 =
      .finished (.ok value) → Known (history ++
        errand.yields (engine.isCancelled scope) engine.now engine.core) operation value
        engine.now := fun value => known_of_finished
  generalize errand.yields (engine.isCancelled scope) engine.now engine.core = new
    at coherent known ⊢
  unfold Engine.runGuest
  dsimp only
  generalize errand.resume (engine.isCancelled scope) engine.now engine.core = result
    at coherent onward waiting known ⊢
  obtain ⟨core, progress⟩ := result
  have resumed : Sound settings service (history ++ new) (engine.onCore fun _ => core) :=
    sound.onCore _ coherent onward
  cases progress with
  | finished outcome =>
      apply (resumed.onAgenda _ rfl).setGuest
      intro value ok
      exact known value (congrArg _ ok)
  | suspended next alarms =>
      apply (resumed.setAlarms alarms (.guest number)).setGuest
      exact waiting next alarms rfl

theorem ask (sound : Sound settings service history engine) (operation : Operation)
    (scope : Nat) (request : Request) :
    Sound settings service (history ++ engine.yields (.ask operation scope request))
      (engine.after (.ask operation scope request)) := by
  let errand : Errand operation := { request := request }
  let entered := engine.entered operation scope request
  have fresh : errand.Genuine engine.core := .fresh _ _ _
  have watching := sound.onAgenda (·.watch scope (.guest engine.guests.length)) rfl
  have sound_entered : Sound settings service history entered := by
    refine ⟨watching.coherent, watching.tasks, ?_, watching.deliveries⟩
    intro guest member
    rcases List.mem_append.mp member with old | new
    · exact watching.guests guest old
    · rw [List.mem_singleton.mp new]
      exact fresh
  exact sound_entered.runGuest engine.guests.length scope fresh

theorem guestTurn (sound : Sound settings service history engine) (number : Nat) :
    Sound settings service (history ++ engine.yields (.turn (.guest number)))
      (engine.after (.turn (.guest number))) := by
  have resting := sound.unready (.guest number)
  have afterEq : engine.after (.turn (.guest number)) =
      (engine.unready (.guest number)).guestTurn number := rfl
  have same : (engine.unready (.guest number)).guests = engine.guests := rfl
  rw [afterEq, Engine.guestTurn, Engine.yields, same]
  rcases found : engine.guests[number]? with _ | ⟨scope, operation, errand | ⟨outcome, instant⟩⟩
  · rw [List.append_nil]
    exact resting
  · exact resting.runGuest number scope (sound.guests _ (List.mem_of_getElem? found))
  · rw [List.append_nil]
    exact resting

/-! ## Workers -/

/-- A worker resumes an errand. -/
theorem resumes (sound : Sound settings service history engine) {index : Nat}
    {job : Pool.Job (Errand .assess)} (genuine : job.task.Genuine engine.core)
    {floor : Floor Core (Errand .assess) Assessment}
    (resumes : Floor.Resumes index job engine.floor floor) :
    Sound settings service (history ++ job.task.yields false engine.now engine.core)
      { engine with floor := floor } := by
  obtain ⟨coherent, onward, waiting⟩ := sound.coherent.resume genuine false
  have core : floor.shared = (job.task.resume false engine.now engine.core).1 := resumes.shared
  have now : floor.now = engine.now := resumes.now
  rw [← core] at coherent onward waiting
  constructor
  · change Coherent settings service _ floor.now floor.shared
    rw [now]
    exact coherent
  · exact resumes.only _ (sound.tasks_onward onward) waiting
  · exact sound.guests_onward onward _
  · intro delivery member value ok
    rcases resumes.deliveries member with old | ⟨finished, _, instant⟩
    · exact (sound.deliveries delivery old value ok).append _
    · rw [ok] at finished
      rw [instant]
      exact known_of_finished finished

/-- A worker gives an errand up. -/
theorem abandons (sound : Sound settings service history engine) {index : Nat}
    {job : Pool.Job (Errand .assess)} {floor : Floor Core (Errand .assess) Assessment}
    (abandons : Floor.Abandons index job engine.floor floor) :
    Sound settings service history { engine with floor := floor } := by
  have sheds : Core.Sheds engine.core floor.shared := by
    rw [abandons.shared]
    exact job.task.sheds_abandon engine.now engine.core
  have now : floor.now = engine.now := abandons.now
  constructor
  · change Coherent settings service _ floor.now floor.shared
    rw [now]
    exact sound.coherent.sheds sheds
  · exact abandons.only _ (sound.tasks_onward sheds.toOnward)
  · have guests := sound.guests_onward sheds.toOnward []
    rwa [List.append_nil] at guests
  · intro delivery member value ok
    rw [abandons.added] at member
    rcases List.mem_cons.mp member with rfl | old
    · cases ok
    · exact sound.deliveries delivery old value ok

theorem workerTurn (sound : Sound settings service history engine) (index : Nat) :
    Sound settings service (history ++ engine.yields (.turn (.worker index)))
      (engine.after (.turn (.worker index))) := by
  have resting := sound.unready (.worker index)
  have afterEq : engine.after (.turn (.worker index)) =
      { engine.unready (.worker index) with
        floor := (engine.unready (.worker index)).floor.work index } := rfl
  have same : engine.floor.resumed? index =
      (engine.unready (.worker index)).floor.resumed? index := rfl
  rw [afterEq, Engine.yields, same]
  rcases (engine.unready (.worker index)).floor.work_cases index with
    ⟨idle, calm, _⟩ | ⟨idle, _, _, abandoned⟩ | ⟨desk, job, found, seated, _, busy, resumed⟩
  · rw [idle, List.append_nil]
    exact resting.calm (calm _) rfl
  · rw [idle, List.append_nil]
    exact resting.abandons abandoned
  · rw [busy]
    have member : desk ∈ engine.floor.desks := List.mem_of_getElem? found
    exact resting.resumes (resting.tasks.desks desk member _ (Pool.Desk.task?_of_job? seated))
      resumed

/-! ## Batches and shutdowns -/

/-- Recording the failures of a batch touches the metrics and the claims. -/
theorem sheds_recount (slot : Nat) (outcomes : List (Outcome Assessment)) (core : Core) :
    Core.Sheds core (recount slot outcomes core) := by
  induction outcomes generalizing slot core with
  | nil => exact .refl core
  | cons outcome rest ih =>
      cases outcome with
      | ok value => exact ih (slot + 1) core
      | error failure => exact (core.sheds_recordFailure _ failure).trans (ih (slot + 1) _)

theorem concludeRound (sound : Sound settings service history engine) (number : Nat)
    (round : Round) (outcomes : List (Outcome Assessment)) :
    Sound settings service history (engine.concludeRound number round outcomes) := by
  let missed := engine.isCancelled round.scope && !engine.isCancelled round.outer
  let items := outcomes.map (relabel missed engine.settings.batchTimeout)
  have counted : Core.Sheds engine.core (recount round.firstSlot items engine.core) :=
    sheds_recount _ _ _
  have recorded := sound.sheds
    (fun core => (recount round.firstSlot items core).record
      (·.recordBatch (Span.ofMillis (engine.now - round.begunAt)) round.size))
    (counted.trans (Core.sheds_record _ _))
  have dismissed := recorded.onAgenda (·.dismiss (.timer number)) rfl
  exact ⟨dismissed.coherent, dismissed.tasks, dismissed.guests, dismissed.deliveries⟩

/-- The end of a shutdown clears the cache. -/
theorem conclude (sound : Sound settings service history engine) (caller : Nat) :
    Sound settings service history (engine.conclude caller) := by
  unfold Engine.conclude
  split
  · split
    · exact sound.concludeRound _ _ _
    · exact sound
  · split
    · have cleared : Core.Sheds engine.core
          { engine.core with cache := engine.core.cache.clear.close } :=
        ⟨⟨rfl, rfl, List.suffix_refl _⟩,
          engine.core.cache.sheds_clear.trans (Cache.Store.sheds_close _)⟩
      have closed :=
        sound.sheds (fun core => { core with cache := core.cache.clear.close }) cleared
      exact ⟨closed.coherent, closed.tasks, closed.guests, closed.deliveries⟩
    · exact sound
  · exact sound

theorem callerTurn (sound : Sound settings service history engine) (caller : Nat) :
    Sound settings service history (engine.after (.turn (.caller caller))) := by
  have resting := sound.unready (.caller caller)
  have attended : Sound settings service history
      ((engine.unready (.caller caller)).onFloor (·.attend caller)) :=
    resting.calm (Floor.calm_attend _ resting.tasks caller) rfl
  exact attended.conclude caller

theorem timerTurn (sound : Sound settings service history engine) (number : Nat) :
    Sound settings service history (engine.after (.turn (.timer number))) := by
  have resting := sound.unready (.timer number)
  have afterEq : engine.after (.turn (.timer number)) =
      (engine.unready (.timer number)).timerTurn number := rfl
  rw [afterEq, Engine.timerTurn]
  split
  · apply resting.onAgenda
    split
    · exact (Agenda.spares_cancel .dispatcher _ _).now_eq
    · rfl
  · exact resting

theorem askBatch (sound : Sound settings service history engine) (outer : Nat)
    (requests : List Request) :
    Sound settings service history (engine.after (.askBatch outer requests)) := by
  have afterEq : engine.after (.askBatch outer requests) = (engine.askBatch outer requests).1 :=
    rfl
  rw [afterEq, Engine.askBatch]
  dsimp only
  split
  · exact ⟨sound.coherent, sound.tasks, sound.guests, sound.deliveries⟩
  · split
    · exact ⟨sound.coherent, sound.tasks, sound.guests, sound.deliveries⟩
    · apply conclude
      have opened := sound.onAgenda
        (fun _ => (engine.floor.agenda.openChild outer).1.wake (.timer engine.rounds.length))
        (Agenda.wake_now _ _)
      refine opened.calm ?_ rfl
      apply Floor.calm_executeBatch
      intro errand member
      obtain ⟨⟨request, index⟩, _, rfl⟩ := List.mem_map.mp member
      exact .fresh _ _ _

theorem shutdown (sound : Sound settings service history engine) (limit : Span) :
    Sound settings service history (engine.after (.shutdown limit)) := by
  have afterEq : engine.after (.shutdown limit) = (engine.shutdown limit).1 := rfl
  rw [afterEq, Engine.shutdown]
  split
  · exact sound.calm (Floor.calm_enter_closed _ _ _) rfl
  · apply conclude
    exact sound.calm (Floor.calm_shutdown _ limit) rfl

/-! ## Runs -/

/-- An event that answers no request. -/
theorem quiet {event : Event} (silent : engine.yields event = [])
    (sound : Sound settings service history (engine.after event)) :
    Sound settings service (history ++ engine.yields event) (engine.after event) := by
  rw [silent, List.append_nil]
  exact sound

theorem after (sound : Sound settings service history engine) (event : Event) :
    Sound settings service (history ++ engine.yields event) (engine.after event) := by
  cases event with
  | ask operation scope request => exact sound.ask operation scope request
  | askBatch outer requests => exact quiet rfl (sound.askBatch outer requests)
  | shutdown limit => exact quiet rfl (sound.shutdown limit)
  | resetBreaker =>
      have reset := sound.sheds (fun core => { core with breaker := core.breaker.reset })
        (.of_eq rfl rfl rfl rfl)
      exact quiet rfl reset
  | resetMetrics => exact quiet rfl (sound.sheds _ (Core.sheds_record _ _))
  | openScope | openChild | plan => exact quiet rfl (sound.onAgenda _ rfl)
  | cancel scope =>
      exact quiet rfl (sound.onAgenda _ (Agenda.spares_cancel .dispatcher _ scope).now_eq)
  | pass instant => exact quiet rfl (sound.pass instant)
  | turn actor =>
      cases actor with
      | guest number => exact sound.guestTurn number
      | worker index => exact sound.workerTurn index
      | dispatcher =>
          exact quiet rfl ((sound.unready .dispatcher).calm (Floor.calm_dispatch _) rfl)
      | caller caller => exact quiet rfl (sound.callerTurn caller)
      | timer number => exact quiet rfl (sound.timerTurn number)

theorem run (sound : Sound settings service history engine) (events : List Event) :
    Sound settings service (history ++ engine.history events) (engine.run events) := by
  induction events generalizing history engine with
  | nil =>
      rw [Engine.history, List.append_nil]
      exact sound
  | cons event rest ih =>
      rw [Engine.history, ← List.append_assoc]
      exact ih (sound.after event)

end Sound

/-! ## The law -/

/-- What the cache of an engine promises, in a state that was reached with a history of
results. -/
structure CoherenceLaw (settings : Config.Settings) (service : Service) (history : List Yield)
    (engine : Engine) : Prop where
  /-- Every result from the cache was given by the service before, less than the time to
  live ago, for the same operation and the same business. -/
  warranted : ∀ before hit after, history = before ++ hit :: after → hit.origin = .cache →
    ∃ source ∈ before, Warrants settings.cacheTtl source hit
  /-- Every result from the service is its reply to one of the calls that reached it. -/
  backed : ∀ yield ∈ history, yield.origin = .service →
    yield.Backed service settings.execution.modelSelector engine.core.calls
  /-- Whatever is found under the key of an operation, at any time, is a result of the
  operation. -/
  kinds : ∀ (operation : Operation) (request : Request) (instant : Nat) (answer : Answer),
    (engine.core.lookup instant (operation.key request)).2 = some answer →
      ∃ value, operation.ofAnswer answer = some value
  /-- Every result that a guest was given is one of the history. -/
  guests : ∀ (scope : Nat) (operation : Operation) (value : operation.Result) (instant : Nat),
    ⟨scope, operation, .answered (.ok value) instant⟩ ∈ engine.guests →
      Known history operation value instant
  /-- Every result that the pool delivered is one of the history. -/
  deliveries : ∀ delivery ∈ engine.floor.deliveries, ∀ value, delivery.outcome = .ok value →
    Known history .assess value delivery.deliveredAt

/-- The cache of an engine is coherent in every run. -/
theorem cache_coherent (settings : Config.Settings) (service : Service) (events : List Event) :
    CoherenceLaw settings service ((make settings service).history events)
      ((make settings service).run events) := by
  have sound := (Sound.make settings service).run events
  rw [List.nil_append] at sound
  constructor
  · exact sound.coherent.warranted
  · exact sound.coherent.backed
  · exact fun operation request instant answer => sound.coherent.kind
  · intro scope operation value instant member
    exact sound.guests _ member value rfl
  · exact sound.deliveries

/-- A business as two callers may write it. -/
def writings : Request × Request :=
  ({ businessName := "Acme  Corp", address := "1 Main St", industry := "Retail", country := "DE" },
    { businessName := "acme corp ", address := "1 main st", industry := "retail", country := "de" })

/-- Its second assessment comes from the cache, and its prediction does not. -/
example :
    ((make {} (Script.service {})).history
        [.ask .assess 0 writings.1, .pass 5, .ask .assess 0 writings.2,
          .ask (.predict 3) 0 writings.2]).map (fun yield => (yield.instant, yield.origin)) =
      [(0, .service), (5, .cache), (5, .service)] := by
  decide +kernel

end RiskGate.Engine
