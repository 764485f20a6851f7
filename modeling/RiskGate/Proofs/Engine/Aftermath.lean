import RiskGate.Proofs.Engine.Accord
import RiskGate.Proofs.Engine.Answers

/-!
# After a batch has returned

A batch does not wait for its jobs when it is cancelled.  It returns while some of them lie
in the queue or on the desks of workers, where they are found to be cancelled one after
another.  Once nobody is ready, no worker has begun one of them, and none ever will: a
worker gives up a job that it has begun when the scope of the job is cancelled, and a job
whose scope is not cancelled belongs to a batch that is under way.

So whatever anybody does on behalf of the batch from then on, it leaves alone what all
errands share: the calls to the service, the breaker, the cache and the collector.
-/

namespace RiskGate.Engine

open Schedule (Actor Agenda Clockwork)
open Pool (Floor Batch Job)

variable {engine asked : Engine} {log : Log}
variable {history : Pool.History (Errand .assess) Assessment}

/-! ## Workers of an engine -/

/-- A worker takes its turn when the engine lets it, and at no other time. -/
theorem worker_mem_poolEvents {event : Event} {index : Nat}
    (member : .turn (.worker index) ∈ engine.poolEvents event) : event = .turn (.worker index) := by
  have notAffairs : ∀ after : Engine, .turn (.worker index) ∉ affairs after := by
    intro after there
    simp [affairs] at there
  cases event with
  | askBatch outer requests =>
      rw [poolEvents] at member
      cases refused : engine.refusal? requests with
      | some outcome =>
          rw [refused] at member
          cases member
      | none =>
          rw [refused] at member
          simp only [List.mem_cons, reduceCtorEq, false_or] at member
          exact absurd member (notAffairs _)
  | shutdown limit =>
      simp only [poolEvents, List.mem_cons, reduceCtorEq, false_or] at member
      exact absurd member (notAffairs _)
  | ask | resetBreaker | resetMetrics => exact absurd member (notAffairs _)
  | openScope | openChild | cancel | plan | pass => simp [poolEvents] at member
  | turn actor =>
      cases actor with
      | worker other =>
          simp only [poolEvents, List.mem_singleton, Pool.Event.turn.injEq, Actor.worker.injEq]
            at member
          rw [member]
      | dispatcher => simp [poolEvents] at member
      | caller caller =>
          simp only [poolEvents, List.mem_cons, Pool.Event.turn.injEq, reduceCtorEq, false_or]
            at member
          exact absurd member (notAffairs _)
      | guest number => exact absurd member (notAffairs _)
      | timer number =>
          rw [poolEvents] at member
          split at member
          · split at member
            · simp at member
            · exact absurd member (notAffairs _)
          · exact absurd member (notAffairs _)

/-- A job is begun, or is done with, by the turn of its worker and by nothing else. -/
theorem Pooled.begun (pooled : Pooled history engine) {event : Event} {index : Nat}
    (other : event ≠ .turn (.worker index)) :
    (engine.after event).floor.begun[index]? = engine.floor.begun[index]? := by
  apply pooled.preserves (fun _ floor => floor.begun[index]? = engine.floor.begun[index]?) rfl event
  intro history floor poolEvent member proper sound same
  rw [Floor.begun_after sound fun own => other (worker_mem_poolEvents (own ▸ member))]
  exact same

/-- The workers heed the scopes of their jobs, and the scope of every batch was opened. -/
structure Watchful (history : Pool.History (Errand .assess) Assessment) (engine : Engine) :
    Prop extends Pooled history engine where
  heedful : engine.floor.Heedful
  opened : ∀ (number : Nat) (round : Round), engine.rounds[number]? = some (.running round) →
    round.scope < engine.floor.agenda.parents.length

namespace Watchful

theorem make (settings : Config.Settings) (service : Service) :
    Watchful [] (make settings service) where
  toPooled := .make settings service
  heedful := .make _ _ _
  opened := nofun

theorem parents_afterAll {floor : Floor Core (Errand .assess) Assessment}
    {events : List (Pool.Event Core (Errand .assess))} (proper : floor.ProperAll events) :
    floor.agenda.parents.length ≤ (floor.afterAll events).agenda.parents.length :=
  proper.preserves (fun _ later => floor.agenda.parents.length ≤ later.agenda.parents.length) []
    (Nat.le_refl _) fun _ _ _ _ proper bound => bound.trans (Floor.parents_after proper)

/-- A batch is asked for under a scope of its own. -/
theorem opened_begun (pooled : Pooled history engine) {outer : Nat} {requests : List Request}
    (accepted : engine.refusal? requests = none) :
    (engine.begun outer requests).scope <
      (engine.after (.askBatch outer requests)).floor.agenda.parents.length := by
  obtain ⟨floorEq, proper, _⟩ := pooled.routes (.askBatch outer requests)
  rw [poolEvents, accepted] at floorEq proper
  have grown := parents_afterAll proper.2
  rw [floorEq]
  refine Nat.lt_of_lt_of_le ?_ grown
  change engine.floor.agenda.parents.length < (engine.floor.agenda.parents ++ [some outer]).length
  rw [List.length_append]
  exact Nat.lt_succ_self _

theorem heedful_after (watchful : Watchful history engine) (kept : Kept log engine)
    (event : Event) : (engine.after event).floor.Heedful := by
  by_cases works : ∃ index, event = .turn (.worker index)
  · obtain ⟨index, rfl⟩ := works
    have proper : engine.floor.Proper (.turn (.worker index)) := trivial
    change (engine.floor.after (.turn (.worker index))).Heedful
    apply Floor.heedful_after watchful.heedful watchful.sound proper
    intro place job _ handed live
    obtain ⟨plan, orderly⟩ := kept.orderly
    obtain ⟨⟨number, _, round, _, forItem⟩, _⟩ := orderly.resumed handed rfl live
    rw [← forItem.scope]
    exact watchful.opened number round forItem.found
  · apply watchful.preserves (fun _ floor => floor.Heedful) watchful.heedful event
    intro history floor poolEvent member proper sound heedful
    apply Floor.heedful_after heedful sound proper
    rintro index job rfl
    exact absurd ⟨index, worker_mem_poolEvents member⟩ works

/-- Every event leaves the engine watchful. -/
theorem after (watchful : Watchful history engine) (kept : Kept log engine) (event : Event) :
    Watchful (history ++ engine.notes event) (engine.after event) where
  toPooled := watchful.toPooled.after event
  heedful := watchful.heedful_after kept event
  opened := by
    intro number round found
    rcases running_before found with old | ⟨_, outer, requests, rfl, accepted, rfl⟩
    · have routes := watchful.routes event
      rw [routes.floor]
      exact Nat.lt_of_lt_of_le (watchful.opened number round old) (parents_afterAll routes.proper)
    · exact opened_begun watchful.toPooled accepted

theorem run (watchful : Watchful history engine) (kept : Kept log engine) (events : List Event) :
    Watchful (history ++ engine.told events) (engine.run events) := by
  induction events generalizing history log engine with
  | nil =>
      rw [told, List.append_nil]
      exact watchful
  | cons event rest ih =>
      rw [told, ← List.append_assoc]
      exact ih (watchful.after kept event) (kept.after event)

end Watchful

/-- A timer leaves alone what the errands share. -/
theorem core_timer (number : Nat) (engine : Engine) :
    (engine.after (.turn (.timer number))).core = engine.core := by
  obtain ⟨change, afterEq⟩ := engine.after_timer number
  rw [afterEq]
  rfl

/-! ## Items -/

/-- The job is for an item of a batch that the engine is asked for. -/
structure IsItem (asked : Engine) (requests : List Request) (job : Job (Errand .assess)) :
    Prop where
  accepted : asked.refusal? requests = none
  slot : ∃ index < requests.length, job.task.slot = some (asked.nextSlot + index)

/-- What is done on behalf of a batch that the engine was asked for. -/
inductive ActsFor (asked : Engine) (requests : List Request) (engine : Engine) : Event → Prop where
  /-- The worker has the job of an item on its desk. -/
  | worker {index : Nat} {desk : Pool.Desk (Errand .assess)} {job : Job (Errand .assess)}
      (found : engine.floor.desks[index]? = some desk) (seated : desk.job? = some job)
      (item : asked.IsItem requests job) : ActsFor asked requests engine (.turn (.worker index))
  /-- The job of an item is in the queue. -/
  | dispatcher {job : Job (Errand .assess)} (queued : job ∈ engine.floor.queue)
      (item : asked.IsItem requests job) : ActsFor asked requests engine (.turn .dispatcher)
  /-- The pool knows the batch as one of its callers. -/
  | caller (accepted : asked.refusal? requests = none) :
      ActsFor asked requests engine (.turn (.caller asked.floor.callers.length))
  | timer : ActsFor asked requests engine (.turn (.timer asked.rounds.length))

/-- A batch has its slots in an engine. -/
structure Slotted (number firstSlot size : Nat) (engine : Engine) : Prop where
  firstSlot : slotsBefore number engine.rounds = firstSlot
  size : ∀ state, engine.rounds[number]? = some state → state.size = size

/-- A batch that is asked for and not refused has the next slots. -/
theorem Kept.slotted (kept : Kept log asked) {outer : Nat} {requests : List Request}
    (accepted : asked.refusal? requests = none) :
    Slotted asked.rounds.length asked.nextSlot requests.length
      (asked.after (.askBatch outer requests)) := by
  obtain ⟨plan, orderly⟩ := kept.orderly
  have afterEq : asked.after (.askBatch outer requests) =
      (asked.handed outer requests).conclude asked.floor.callers.length := by
    change (asked.askBatch outer requests).1 = _
    rw [askBatch_eq, accepted]
  have lasts : Lasts (asked.handed outer requests) (asked.after (.askBatch outer requests)) := by
    obtain ⟨_, handed, _⟩ := orderly.handed outer requests
    rw [afterEq]
    exact lasts_conclude handed
  constructor
  · rw [(lasts_after kept (.askBatch outer requests)).slotsBefore_length, orderly.nextSlot_eq]
  · intro state found
    have begun : (asked.handed outer requests).rounds[asked.rounds.length]? =
        some (.running (asked.begun outer requests)) := List.getElem?_concat_length
    exact lasts.size_eq begun found

theorem Slotted.lasts {number firstSlot size : Nat} {before after : Engine}
    (slotted : Slotted number firstSlot size before) (lasts : Lasts before after)
    (there : number < before.rounds.length) : Slotted number firstSlot size after := by
  constructor
  · obtain ⟨later, sizes⟩ := lasts
    have inRange : number ≤ (before.rounds.map Rounds.size).length := by
      rw [List.length_map]
      exact Nat.le_of_lt there
    rw [← slotted.firstSlot, slotsBefore, slots, List.map_take, ← sizes,
      List.take_append_of_le_length inRange, ← List.map_take, ← slots, slotsBefore]
  · intro state found
    rw [lasts.size_eq (List.getElem?_eq_getElem there) found]
    exact slotted.size _ (List.getElem?_eq_getElem there)

/-! ## Batches at rest -/

/-- A batch that the engine was asked for has returned, and no worker has begun the job of
one of its items. -/
structure Rests (asked : Engine) (requests : List Request) (engine : Engine) : Prop where
  kept : ∃ log, Kept log engine
  pooled : ∃ history, Pooled history engine
  slotted : Slotted asked.rounds.length asked.nextSlot requests.length engine
  answered : ∃ outcome instant,
    engine.rounds[asked.rounds.length]? = some (.answered outcome instant)
  batched : ∃ batch ended,
    engine.floor.callers[asked.floor.callers.length]? = some (.batched batch ended)
  unbegun : ∀ (index : Nat) (job : Job (Errand .assess)),
    engine.floor.begun[index]? = some (some job) → ¬asked.IsItem requests job

section Resting

variable {requests : List Request} {job : Job (Errand .assess)}

/-- The job of an item that still lies on a desk after its batch has returned is
cancelled. -/
theorem IsItem.cancelled {plan : Nat → List (Errand .assess)}
    (item : asked.IsItem requests job)
    (orderly : Orderly plan none engine.floor engine.rounds engine.nextSlot)
    (slotted : Slotted asked.rounds.length asked.nextSlot requests.length engine)
    {outcome : Outcome BatchOutcome} {instant : Nat}
    (answered : engine.rounds[asked.rounds.length]? = some (.answered outcome instant))
    {index : Nat} {desk : Pool.Desk (Errand .assess)}
    (found : engine.floor.desks[index]? = some desk)
    (seated : desk.job? = some job) : engine.floor.isCancelled job.scope = true := by
  by_contra notCancelled
  obtain ⟨⟨number, place, round, _, forItem⟩, _⟩ :=
    orderly.resumed found seated (by simpa using notCancelled)
  obtain ⟨item, inside, slot⟩ := item.slot
  have same : slotsBefore asked.rounds.length engine.rounds + item =
      slotsBefore number engine.rounds + place := by
    rw [slotted.firstSlot, ← orderly.firstSlot number round forItem.found]
    exact Option.some.inj (slot.symm.trans forItem.slot)
  have within : item < (Rounds.answered outcome instant).size := by
    rw [slotted.size _ answered]
    exact inside
  obtain ⟨rfl, _⟩ := slot_unique answered within forItem.found forItem.inside same
  cases answered.symm.trans forItem.found

namespace Rests

theorem cancelled (rests : Rests asked requests engine) (item : asked.IsItem requests job)
    {index : Nat} {desk : Pool.Desk (Errand .assess)}
    (found : engine.floor.desks[index]? = some desk)
    (seated : desk.job? = some job) : engine.floor.isCancelled job.scope = true := by
  obtain ⟨_, kept⟩ := rests.kept
  obtain ⟨_, orderly⟩ := kept.orderly
  obtain ⟨_, _, answered⟩ := rests.answered
  exact item.cancelled orderly rests.slotted answered found seated

/-- A worker's turn does not begin the job of an item. -/
theorem unbegun_worker (rests : Rests asked requests engine) {index : Nat}
    (found : (engine.after (.turn (.worker index))).floor.begun[index]? = some (some job)) :
    ¬asked.IsItem requests job := by
  let resting := (engine.unready (.worker index)).floor
  change (resting.work index).begun[index]? = some (some job) at found
  rcases resting.work_cases index with
    ⟨_, _, begun⟩ | ⟨_, _, _, abandons⟩ | ⟨desk, old, seat, seated, live, _, resumes⟩
  · rw [begun] at found
    exact rests.unbegun index job found
  · rw [abandons.begun] at found
    cases Floor.eq_of_set found
  · intro item
    rw [resumes.begun] at found
    have left := Floor.eq_of_set found
    rcases resumed : Pool.Trade.resume (ρ := Assessment) (Actor.worker index) resting.now old.task
      resting.shared with ⟨shared, outcome | ⟨task, alarms⟩⟩
    · rw [resumed] at left
      cases left
    · rw [resumed] at left
      have slot : task.slot = old.task.slot :=
        Errand.resume_slot (congrArg Prod.snd resumed)
      obtain rfl : job = { old with task := task } := Option.some.inj left
      obtain ⟨place, inside, slotEq⟩ := item.slot
      have oldItem : asked.IsItem requests old :=
        ⟨item.accepted, place, inside, slot.symm.trans slotEq⟩
      have cancelled : resting.isCancelled old.scope = true := rests.cancelled oldItem seat seated
      rw [live] at cancelled
      cases cancelled

/-- Whatever happens, a batch stays at rest. -/
theorem after (rests : Rests asked requests engine) (event : Event) :
    Rests asked requests (engine.after event) := by
  obtain ⟨log, kept⟩ := rests.kept
  obtain ⟨history, pooled⟩ := rests.pooled
  obtain ⟨outcome, instant, answered⟩ := rests.answered
  obtain ⟨batch, ended, batched⟩ := rests.batched
  have there := (List.getElem?_eq_some_iff.mp answered).1
  refine ⟨⟨_, kept.after event⟩, ⟨_, pooled.after event⟩,
    rests.slotted.lasts (lasts_after kept event) there, ⟨_, _, answered_after answered⟩,
    ⟨_, _, pooled.batched batched event⟩, ?_⟩
  intro index job found
  by_cases own : event = .turn (.worker index)
  · subst own
    exact rests.unbegun_worker found
  · rw [pooled.begun own] at found
    exact rests.unbegun index job found

theorem run (rests : Rests asked requests engine) (events : List Event) :
    Rests asked requests (engine.run events) := by
  induction events generalizing engine with
  | nil => exact rests
  | cons event rest ih => exact ih (rests.after event)

/-- Who acts for a batch at rest leaves alone what the errands share. -/
theorem core_after (rests : Rests asked requests engine) {event : Event}
    (acts : ActsFor asked requests engine event) : (engine.after event).core = engine.core := by
  cases acts with
  | @worker index desk job found seated item =>
      let resting := (engine.unready (.worker index)).floor
      change (resting.work index).shared = resting.shared
      rcases resting.work_cases index with
        ⟨_, calm, _⟩ | ⟨_, other, busy, _⟩ | ⟨other, another, seat, otherSeated, live, _⟩
      · exact (calm fun _ => True).shared
      · have busy : engine.floor.desks[index]? = some (.busy other) := busy
        cases found.symm.trans busy
        cases seated
        have there : engine.floor.begun[index]? = some (some job) := by
          rw [Floor.begun, List.getElem?_map, busy]
          rfl
        exact absurd item (rests.unbegun index job there)
      · have seat : engine.floor.desks[index]? = some other := seat
        cases found.symm.trans seat
        cases seated.symm.trans otherSeated
        have cancelled : resting.isCancelled job.scope = true := rests.cancelled item found seated
        rw [live] at cancelled
        cases cancelled
  | dispatcher =>
      let resting := (engine.unready .dispatcher).floor
      have calm : Floor.Calm (fun _ => True) resting resting.dispatch := Floor.calm_dispatch resting
      exact calm.shared
  | caller =>
      obtain ⟨log, kept⟩ := rests.kept
      obtain ⟨plan, orderly⟩ := kept.orderly
      obtain ⟨batch, ended, batched⟩ := rests.batched
      let caller := asked.floor.callers.length
      let resting := engine.unready (.caller caller)
      have batched : resting.floor.callers[caller]? = some (.batched batch ended) := batched
      have idle : resting.onFloor (·.attend caller) = resting := by
        rw [onFloor, Floor.attend, batched]
      have unknown : resting.roundOf? caller = none := by
        cases known : resting.roundOf? caller with
        | none => rfl
        | some entry =>
            obtain ⟨running, own⟩ := roundOf?_some known
            obtain ⟨_, batching⟩ := orderly.underway entry.1 entry.2 running
              (Option.some_ne_none _).symm
            rw [own] at batching
            cases batched.symm.trans batching
      have concluded : resting.conclude caller = resting := by
        rw [conclude, batched]
        dsimp only
        rw [unknown]
      change ((resting.onFloor (·.attend caller)).conclude caller).core = resting.core
      rw [idle, concluded]
  | timer => exact core_timer asked.rounds.length engine

end Rests

/-- A batch that has returned is at rest once nobody is ready. -/
theorem Watchful.rests (watchful : Watchful history engine) (kept : Kept log engine)
    (slotted : Slotted asked.rounds.length asked.nextSlot requests.length engine)
    {outcome : Outcome BatchOutcome} {instant : Nat}
    (answered : engine.rounds[asked.rounds.length]? = some (.answered outcome instant))
    (batched : ∃ batch ended,
      engine.floor.callers[asked.floor.callers.length]? = some (.batched batch ended))
    (quiet : engine.floor.agenda.ready = []) : Rests asked requests engine := by
  refine ⟨⟨_, kept⟩, ⟨_, watchful.toPooled⟩, slotted, ⟨_, _, answered⟩, batched, ?_⟩
  intro index job found item
  have live := watchful.heedful.live_of_quiet quiet found
  obtain ⟨_, orderly⟩ := kept.orderly
  rw [Floor.begun, List.getElem?_map] at found
  obtain ⟨desk, seat, begun⟩ := Option.map_eq_some_iff.mp found
  cases desk with
  | busy other =>
      have cancelled := item.cancelled orderly slotted answered seat begun
      rw [live] at cancelled
      cases cancelled
  | idle | handed | gone => cases begun

/-- A batch that is asked for comes to rest once it has returned and nobody is ready. -/
theorem Watchful.rests_run (watchful : Watchful history asked) (kept : Kept log asked)
    (accepted : asked.refusal? requests = none) {outer : Nat} {events : List Event}
    (returned : ((asked.run (.askBatch outer requests :: events)).batchAnswer?
      asked.rounds.length).isSome = true)
    (quiet : (asked.run (.askBatch outer requests :: events)).floor.agenda.ready = []) :
    Rests asked requests (asked.run (.askBatch outer requests :: events)) := by
  let begun := asked.after (.askBatch outer requests)
  change Rests asked requests (begun.run events)
  change ((begun.run events).batchAnswer? asked.rounds.length).isSome = true at returned
  have begunKept := kept.after (.askBatch outer requests)
  have begunWatchful := watchful.after kept (.askBatch outer requests)
  have follows : Follows asked.rounds.length (asked.begun outer requests) begun :=
    follows_askBatch accepted
  have there : asked.rounds.length < begun.rounds.length := by
    cases follows with
    | running found | answered found => exact (List.getElem?_eq_some_iff.mp found).1
  have slotted := (kept.slotted accepted).lasts (lasts_run begunKept events) there
  cases follows.run begunWatchful.toPooled events with
  | running found =>
      rw [batchAnswer?_of_running found] at returned
      cases returned
  | answered found batched =>
      exact (begunWatchful.run begunKept events).rests (begunKept.run events) slotted found
        ⟨_, _, batched⟩ quiet

end Resting

/-! ## The law -/

/-- In every run of an engine, once a batch that it was asked for has returned and nobody is
ready, no worker has begun the job of one of its items, now or later, and whatever is done on
its behalf later leaves alone what all errands share. -/
theorem returned_batch_rests (settings : Config.Settings) (service : Service)
    {first second : List Event} {outer : Nat} {requests : List Request}
    (returned : (((make settings service).run
      (first ++ .askBatch outer requests :: second)).batchAnswer?
        ((make settings service).run first).rounds.length).isSome = true)
    (quiet : ((make settings service).run
      (first ++ .askBatch outer requests :: second)).floor.agenda.ready = [])
    (third : List Event) :
    let asked := (make settings service).run first
    let later := (make settings service).run
      (first ++ .askBatch outer requests :: (second ++ third))
    (∀ job, .busy job ∈ later.floor.desks → ¬asked.IsItem requests job) ∧
      ∀ event, asked.ActsFor requests later event → (later.after event).core = later.core := by
  dsimp only
  have splitEq : first ++ Event.askBatch outer requests :: (second ++ third) =
      (first ++ .askBatch outer requests :: second) ++ third := by simp
  rw [splitEq, run_append]
  rw [run_append] at returned quiet ⊢
  have askedKept := (Kept.make settings service).run first
  have askedWatchful := (Watchful.make settings service).run (Kept.make settings service) first
  generalize (make settings service).run first = asked at *
  cases accepted : asked.refusal? requests with
  | some outcome =>
      have noItem : ∀ job, ¬asked.IsItem requests job := by
        rintro job ⟨none, _⟩
        cases accepted.symm.trans none
      refine ⟨fun job _ => noItem job, ?_⟩
      intro event acts
      cases acts with
      | worker _ _ item | dispatcher _ item => exact absurd item (noItem _)
      | caller none => cases accepted.symm.trans none
      | timer => exact core_timer _ _
  | none =>
      have rests := (askedWatchful.rests_run askedKept accepted returned quiet).run third
      refine ⟨?_, fun event acts => rests.core_after acts⟩
      intro job seated
      obtain ⟨index, found⟩ := List.mem_iff_getElem?.mp seated
      apply rests.unbegun index job
      rw [Floor.begun, List.getElem?_map, found]
      rfl

/-- An engine whose pool has one worker. -/
def oneWorker : Config.Settings := { execution := { maxConcurrentRequests := 1 } }

/-- The only worker has begun the item of a batch. -/
def occupied : List Event :=
  [.openScope, .openScope, .askBatch 0 [writings.1], .turn .dispatcher, .turn (.worker 0),
    .turn (.timer 0)]

/-- The caller of another batch cancels it, and it returns while its job is in the queue. -/
def givenUp : List Event :=
  [.turn .dispatcher, .turn (.timer 1), .cancel 1, .turn (.caller 1), .turn .dispatcher]

/-- The worker is done with its job and is handed the other one. -/
def handedOver : List Event := [.pass 50, .turn (.worker 0), .turn (.caller 0), .turn .dispatcher]

theorem returned_batch_rests_given_up :
    let asked := (make oneWorker slowService).run occupied
    let returned := (make oneWorker slowService).run
      (occupied ++ .askBatch 1 [writings.2] :: givenUp)
    let later := (make oneWorker slowService).run
      (occupied ++ .askBatch 1 [writings.2] :: (givenUp ++ handedOver))
    (∃ job ∈ returned.floor.queue, asked.IsItem [writings.2] job) ∧
      asked.ActsFor [writings.2] later (.turn (.worker 0)) ∧
        (later.after (.turn (.worker 0))).core = later.core := by
  intro asked returned later
  have answered : (returned.batchAnswer? asked.rounds.length).isSome = true := by decide +kernel
  have quiet : returned.floor.agenda.ready = [] := by decide +kernel
  have accepted : asked.refusal? [writings.2] = none := rfl
  have firstSlot : asked.nextSlot = 1 := rfl
  have isItem : ∀ job : Job (Errand .assess), job.task.slot = some 1 →
      asked.IsItem [writings.2] job :=
    fun job slot => ⟨accepted, 0, by decide, by rw [firstSlot, slot]⟩
  obtain ⟨waiting, queued, waitingSlot⟩ :
      ∃ job, returned.floor.queue[0]? = some job ∧ job.task.slot = some 1 :=
    ⟨_, rfl, by decide +kernel⟩
  obtain ⟨given, seat, givenSlot⟩ :
      ∃ job, later.floor.desks[0]? = some (.handed job) ∧ job.task.slot = some 1 :=
    ⟨_, rfl, by decide +kernel⟩
  have acts : asked.ActsFor [writings.2] later (.turn (.worker 0)) :=
    .worker seat rfl (isItem given givenSlot)
  have law := returned_batch_rests oneWorker slowService answered quiet handedOver
  exact ⟨⟨waiting, List.mem_of_getElem? queued, isItem waiting waitingSlot⟩, acts, law.2 _ acts⟩

end RiskGate.Engine
