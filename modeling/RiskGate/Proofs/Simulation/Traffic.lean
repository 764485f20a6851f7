import RiskGate.Proofs.Engine.BatchAlone
import RiskGate.Proofs.Engine.Reckoning
import RiskGate.Proofs.Engine.Unoccupied
import RiskGate.Simulation.Run

/-!
# The traffic of a simulation

A simulation whose service answers at once sends single requests and then a batch.  As each
request takes its first turn before the next one is sent, it is answered before that, so that
the engine is at rest in between, and the batch leaves in the books what its requests would
leave one after another.  In the end the books tell of all requests that were sent, unless the
batch was refused: then they tell of the single requests alone.

As long as the service does not fail, nothing does.
-/

namespace RiskGate.Schedule.Clockwork

variable {W : Type} [Clockwork W] {world : W}

/-- While nobody is ready, nothing happens. -/
theorem steps_of_nobody (nobody : (agenda world).ready = []) (count : Nat) :
    steps step count world = world := by
  have stays : step world = none := by rw [step, nobody]
  cases count with
  | zero => rfl
  | succ count => rw [steps, stays]

theorem settle_of_nobody (nobody : (agenda world).ready = []) : settle world = world :=
  steps_of_nobody nobody _

/-- What holds already is not waited for. -/
theorem await_of_stop {stop : W → Bool} (stops : stop world = true) : await stop world = world := by
  rw [await]
  cases endOfTime with
  | zero => rfl
  | succ count => rw [jumps, if_pos stops]

end RiskGate.Schedule.Clockwork

namespace RiskGate.Engine

open Schedule (Actor Clockwork)

variable {engine : Engine}

/-! ## Guests who have their answers -/

theorem conclude_guests (caller : Nat) (engine : Engine) :
    (engine.conclude caller).guests = engine.guests := by
  rcases engine.conclude_cases caller with
    ⟨_, _, number, round, _, _, _, concludeEq, _⟩ | ⟨_, _, same | emptied⟩
  · rw [concludeEq]
    rfl
  · rw [same]
  · rw [emptied]
    rfl

theorem askBatch_guests (outer : Nat) (requests : List Request) (engine : Engine) :
    (engine.askBatch outer requests).1.guests = engine.guests := by
  rw [askBatch_eq]
  cases engine.refusal? requests with
  | some outcome => rfl
  | none => exact conclude_guests _ (engine.handed outer requests)

/-- Nothing changes for guests who have their answers. -/
theorem turn_guests (ended : ∀ guest ∈ engine.guests, guest.HasEnded) (actor : Actor) :
    (engine.after (.turn actor)).guests = engine.guests := by
  cases actor with
  | dispatcher | worker => rfl
  | caller number => exact conclude_guests _ _
  | timer number =>
      obtain ⟨change, afterEq⟩ := engine.after_timer number
      rw [afterEq]
      rfl
  | guest number =>
      change ((engine.unready (.guest number)).guestTurn number).guests = _
      rw [guestTurn]
      split
      next found => exact (ended _ (List.mem_of_getElem? found)).elim
      · rfl

theorem steps_guests (ended : ∀ guest ∈ engine.guests, guest.HasEnded) (count : Nat) :
    (Clockwork.steps Clockwork.step count engine).guests = engine.guests := by
  have keeps : ∀ between : Engine, ∀ actor ∈ between.floor.agenda.ready,
      between.guests = engine.guests → (between.after (.turn actor)).guests = engine.guests :=
    fun _ actor _ same => (turn_guests (same ▸ ended) actor).trans same
  exact Clockwork.takesTurns_step.steps_keep keeps count rfl

/-! ## What is recorded for a batch as such -/

/-- It touches none of the counters of requests. -/
theorem Core.Reckoned.tallied {asked failed : Nat} {core : Core}
    (reckoned : core.Reckoned asked failed) (claimed : List Nat) (requests : List Request) :
    ((core.claiming claimed).tallied requests).Reckoned asked failed := by
  have claiming : (core.claiming claimed).Reckoned asked failed :=
    ⟨reckoned.agreed.of_same rfl rfl ⟨rfl, rfl, rfl, rfl⟩ rfl, reckoned.counts⟩
  unfold Core.tallied
  split
  · exact claiming
  · refine ⟨claiming.agreed.recordBatch _ _, fun collector member => ?_⟩
    obtain ⟨before, found, rfl⟩ := Option.map_eq_some_iff.mp member
    have counts := claiming.counts before found
    exact ⟨counts.asked, counts.total, counts.missed, counts.failed⟩

end RiskGate.Engine

namespace RiskGate.Simulation

open Schedule (Clockwork)
open Engine (Event Operation Service Crewed Sound)

/-! ## Requests one after another -/

section Requests

variable {settings : Config.Settings} {service : Service} {scope asked : Nat} {engine : Engine}

/-- Requests are asked for, one after another. -/
def asking (scope : Nat) (requests : List (Operation × Request)) : List Event :=
  requests.map fun asked => .ask asked.1 scope asked.2

/-- So many requests were asked for, one after another, and nothing is left to do.  As many
have failed as guests have no result. -/
structure Served (settings : Config.Settings) (service : Service) (scope asked : Nat)
    (engine : Engine) : Prop where
  reached : ∃ events, engine = (Engine.make settings service).run events
  resting : engine.Resting
  nobody : engine.floor.agenda.ready = []
  live : engine.isCancelled scope = false
  ended : ∀ guest ∈ engine.guests, guest.HasEnded
  reckoned : engine.core.Reckoned asked (engine.guests.countP (!succeeded ·))

/-- Nothing has failed. -/
structure Flawless (engine : Engine) : Prop where
  closed : engine.core.breaker.circuit = .closed
  succeeded : ∀ guest ∈ engine.guests, succeeded guest = true

theorem succeeded_answered (scope : Nat) (operation : Operation)
    (outcome : Outcome operation.Result) (instant : Nat) :
    succeeded ⟨scope, operation, .answered outcome instant⟩ = outcome.isOk := by
  cases outcome <;> rfl

theorem answered_eq_isOk (outcome : Outcome Assessment) :
    BatchOutcome.answered outcome = outcome.isOk := by
  cases outcome <;> rfl

/-- A new engine has a scope, and was asked for nothing. -/
theorem served_make (service : Service) (enabled : settings.observability.metricsEnabled = true) :
    Served settings service 0 0 ((Engine.make settings service).run [.openScope]) where
  reached := ⟨_, rfl⟩
  resting := ⟨rfl, fun _ member => List.eq_of_mem_replicate member, rfl, nofun⟩
  nobody := rfl
  live := rfl
  ended := fun _ member => absurd member List.not_mem_nil
  reckoned := .make service enabled

theorem flawless_make (settings : Config.Settings) (service : Service) :
    Flawless ((Engine.make settings service).run [.openScope]) :=
  ⟨rfl, fun _ member => absurd member List.not_mem_nil⟩

namespace Served

theorem service_eq (served : Served settings service scope asked engine) :
    engine.core.service = service := by
  obtain ⟨events, rfl⟩ := served.reached
  exact ((Sound.make settings service).run events).coherent.service_eq

theorem workers_eq (served : Served settings service scope asked engine)
    (valid : Config.validate settings = .ok ()) :
    engine.floor.workers = settings.execution.maxConcurrentRequests := by
  obtain ⟨events, rfl⟩ := served.reached
  rw [Pool.Floor.Fit.workers_eq ((Crewed.make settings service).run events)]
  exact Nat.max_eq_left (Config.sane_of_validate valid).workers

/-- One more request is asked for. -/
theorem ask (served : Served settings service scope asked engine) (instant : service.Instant)
    (operation : Operation) (request : Request) :
    Served settings service scope (asked + 1) (engine.after (.ask operation scope request)) ∧
      (Flawless engine → service.Obliges operation request →
        Flawless (engine.after (.ask operation scope request))) := by
  obtain ⟨events, reached⟩ := served.reached
  have sound := (Sound.make settings service).run events
  rw [← reached] at sound
  obtain ⟨next, outcome, finished, reckoned, flawless⟩ :=
    served.reckoned.ask (served.service_eq ▸ instant) sound.coherent operation request
  rw [← served.live] at finished
  rw [Engine.ask_finished finished]
  refine ⟨⟨?_, ?_, served.nobody, served.live, ?_, ?_⟩, ?_⟩
  · refine ⟨events ++ [.ask operation scope request], ?_⟩
    rw [Engine.run_append, ← reached, ← Engine.ask_finished finished]
    rfl
  · exact ⟨served.resting.open_, served.resting.idle, served.resting.queue, served.resting.quiet⟩
  · intro guest member
    rcases List.mem_append.mp member with old | new
    · exact served.ended guest old
    · rw [List.mem_singleton.mp new]
      trivial
  · rw [List.countP_append, List.countP_singleton, succeeded_answered]
    exact reckoned
  · intro before obliges
    obtain ⟨isOk, closed⟩ := flawless before.closed (served.service_eq ▸ obliges)
    refine ⟨closed, fun guest member => ?_⟩
    rcases List.mem_append.mp member with old | new
    · exact before.succeeded guest old
    · rw [List.mem_singleton.mp new, succeeded_answered]
      exact isOk

/-- Requests are asked for one after another. -/
theorem asks (served : Served settings service scope asked engine) (instant : service.Instant)
    (requests : List (Operation × Request)) :
    Served settings service scope (asked + requests.length)
        (engine.run (asking scope requests)) ∧
      (Flawless engine → (∀ asked ∈ requests, service.Obliges asked.1 asked.2) →
        Flawless (engine.run (asking scope requests))) := by
  induction requests generalizing asked engine with
  | nil => exact ⟨served, fun flawless _ => flawless⟩
  | cons first rest ih =>
      obtain ⟨next, nextFlawless⟩ := served.ask instant first.1 first.2
      obtain ⟨last, lastFlawless⟩ := ih next
      rw [Nat.add_right_comm] at last
      refine ⟨last, fun flawless obliges => ?_⟩
      apply lastFlawless (nextFlawless flawless (obliges _ List.mem_cons_self))
      exact fun _ member => obliges _ (List.mem_cons_of_mem _ member)

/-- A batch that is not refused adds to the books what its requests would add, and touches no
guest. -/
theorem batched (served : Served settings service scope asked engine) (instant : service.Instant)
    (valid : Config.validate settings = .ok ()) (patient : 1 ≤ settings.execution.submitTimeoutMs)
    {requests : List Request}
    (fits : requests.length ≤ settings.execution.maxConcurrentRequests) :
    ∃ outcomes : List (Outcome Assessment),
      (engine.batched Clockwork.step scope requests).batchAnswer?
            (engine.askBatch scope requests).2 =
          some (.ok ⟨outcomes⟩, engine.now) ∧
        (engine.batched Clockwork.step scope requests).core.Reckoned (asked + requests.length)
          (engine.guests.countP (!succeeded ·) + outcomes.countP (!BatchOutcome.answered ·)) ∧
        (Flawless engine → (∀ request ∈ requests, service.Obliges .assess request) →
          ∀ outcome ∈ outcomes, BatchOutcome.answered outcome = true) := by
  obtain ⟨events, reached⟩ := served.reached
  rw [← served.workers_eq valid] at fits
  have prompt : engine.core.Prompt := by
    intro number _ request
    rw [served.service_eq]
    exact instant _ _ _ _
  obtain ⟨outcomes, final, answers, batched⟩ :=
    served.resting.batched_accepted valid reached prompt served.live fits (.inr patient)
  obtain ⟨answer, claimed, core⟩ := batched Clockwork.keepsLine_step
  obtain ⟨left, guests⟩ := answers.run served.live
  obtain ⟨last, flawless⟩ := served.asks instant (requests.map (Prod.mk .assess))
  have assessing : asking scope (requests.map (Prod.mk .assess)) =
      requests.map (.ask .assess scope) := by
    rw [asking, List.map_map]
    rfl
  have reckoned := last.reckoned
  rw [assessing, left, guests, List.countP_append, List.countP_map, List.length_map] at reckoned
  rw [assessing] at flawless
  refine ⟨outcomes, answer, ?_, ?_⟩
  · rw [core]
    have failed : ((!succeeded ·) ∘ fun outcome => ⟨scope, .assess, .answered outcome engine.now⟩) =
        fun outcome => !BatchOutcome.answered outcome := by
      funext outcome
      rw [Function.comp_apply, succeeded_answered, answered_eq_isOk]
    rw [failed] at reckoned
    exact reckoned.tallied claimed requests
  · intro before obliges outcome member
    have after := flawless before fun asked isAsked => by
      obtain ⟨request, isSent, rfl⟩ := List.mem_map.mp isAsked
      exact obliges request isSent
    rw [answered_eq_isOk, ← succeeded_answered scope .assess outcome engine.now]
    apply after.succeeded
    rw [guests]
    exact List.mem_append_right _ (List.mem_map_of_mem member)

/-- A batch that is refused leaves everything as it was. -/
theorem refused (served : Served settings service scope asked engine)
    (valid : Config.validate settings = .ok ()) {requests : List Request}
    (tooMany : settings.execution.maxConcurrentRequests < requests.length) :
    (engine.batched Clockwork.step scope requests).batchAnswer?
          (engine.askBatch scope requests).2 =
        some (.error (.batchTooLarge requests.length settings.execution.maxConcurrentRequests),
          engine.now) ∧
      (engine.batched Clockwork.step scope requests).core = engine.core := by
  have askEq : engine.askBatch scope requests = engine.answerRound
      (.error (.batchTooLarge requests.length settings.execution.maxConcurrentRequests)) := by
    rw [Engine.askBatch_eq, Engine.refusal?, served.workers_eq valid, if_pos tooMany]
  rw [Engine.batched, askEq, Clockwork.steps_of_nobody served.nobody]
  exact ⟨Engine.batchAnswer?_of_answered List.getElem?_concat_length, rfl⟩

theorem batched_guests (served : Served settings service scope asked engine)
    (requests : List Request) :
    (engine.batched Clockwork.step scope requests).guests = engine.guests := by
  have same := Engine.askBatch_guests scope requests engine
  rw [Engine.batched, Engine.steps_guests (same ▸ served.ended), same]

end Served

end Requests

/-! ## The whole traffic -/

/-- The single requests of a simulation. -/
def singles (options : Options) : List (Operation × Request) :=
  (List.range options.requests).map fun index =>
    (operation index, business (index % max options.businesses 1))

/-- The engine when all single requests were answered. -/
def sent (settings : Config.Settings) (options : Options) : Engine :=
  ((Engine.make settings (service options)).run [.openScope]).run
    (asking 0 (singles options))

theorem run_eq {settings : Config.Settings} {options : Options} {asked : Nat}
    (served : Served settings (service options) 0 asked (sent settings options))
    {answer : Outcome BatchOutcome × Nat}
    (answered : ((sent settings options).batched Clockwork.step 0
      (batchRequests options)).batchAnswer?
        ((sent settings options).askBatch 0 (batchRequests options)).2 = some answer) :
    run settings options =
      ((sent settings options).batched Clockwork.step 0 (batchRequests options),
        some answer.1) := by
  have singly : sendSingles options 0 ((Engine.make settings (service options)).run [.openScope]) =
      sent settings options := by
    rw [sendSingles, sent, asking, singles, Engine.run, Engine.run, List.foldl_map,
      List.foldl_map]
    rfl
  have settled : Clockwork.settle (sent settings options) = sent settings options :=
    Clockwork.settle_of_nobody served.nobody
  have waited : Clockwork.await (·.guests.all isAnswered) (sent settings options) =
      sent settings options := by
    apply Clockwork.await_of_stop
    rw [List.all_eq_true]
    intro guest member
    have ended := served.ended guest member
    obtain ⟨scope, operation, errand | ⟨outcome, instant⟩⟩ := guest
    · exact ended.elim
    · rfl
  let opened := (Engine.make settings (service options)).run [.openScope]
  have unfolded : run settings options =
      let answered := Clockwork.await (·.guests.all isAnswered)
        (Clockwork.settle (sendSingles options 0 opened))
      let asked := answered.askBatch 0 (batchRequests options)
      let done := Clockwork.await (fun engine => (engine.batchAnswer? asked.2).isSome)
        (Clockwork.settle asked.1)
      (done, (done.batchAnswer? asked.2).map Prod.fst) := rfl
  rw [unfolded, singly, settled, waited]
  dsimp only
  rw [Clockwork.await_of_stop]
  · exact Prod.ext rfl (congrArg (Option.map Prod.fst) answered)
  · exact congrArg Option.isSome answered

end RiskGate.Simulation
