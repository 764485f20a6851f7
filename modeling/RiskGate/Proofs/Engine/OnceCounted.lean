import RiskGate.Proofs.Engine.CacheHits
import RiskGate.Proofs.Engine.Stories
import RiskGate.Engine.Scripted

/-!
# Every request is counted once

Every event keeps the stories as they should be, and so does every run.  Since the
counters of the collector grow by the verdicts in the log and by nothing else, each
request that was answered is counted once, whatever becomes of it on the way: a result
that the cache gave is not counted, and an item that its batch does not wait for is
counted by its own errand or by the batch, but not by both.
-/

namespace RiskGate.Engine

open Schedule (Actor Agenda Clockwork)
open Pool (Floor Batch Job)

/-- The batches of an engine and of its pool belong together, and the log tells the story
of everybody. -/
structure Kept (log : Log) (engine : Engine) : Prop where
  orderly : ∃ plan, Orderly plan none engine.floor engine.rounds engine.nextSlot
  recorded : Recorded log engine

/-- The same, but nobody has looked yet whether a caller was answered. -/
structure Unseen (log : Log) (caller : Nat) (engine : Engine) : Prop where
  orderly : ∃ plan, Orderly plan (some caller) engine.floor engine.rounds engine.nextSlot
  recorded : Recorded log engine

/-- Every delivery is under a ticket that was given out. -/
theorem Orderly.issued {plan : Nat → List (Errand .assess)} {aside : Option Nat}
    {floor : Floor Core (Errand .assess) Assessment} {rounds : List Rounds} {nextSlot : Nat}
    (orderly : Orderly plan aside floor rounds nextSlot) :
    ∀ delivery ∈ floor.deliveries, delivery.ticket < floor.nextTicket := by
  obtain ⟨history, sound⟩ := orderly.sound
  exact fun _ delivered => sound.accounted.delivered_lt delivered

/-- A batch is handed to the pool. -/
theorem Orderly.handed {plan : Nat → List (Errand .assess)} {engine : Engine}
    (orderly : Orderly plan none engine.floor engine.rounds engine.nextSlot) (outer : Nat)
    (requests : List Request) :
    ∃ later, Orderly later (some engine.floor.callers.length) (engine.handed outer requests).floor
        (engine.handed outer requests).rounds (engine.handed outer requests).nextSlot ∧
      Floor.Grows engine.floor.nextTicket engine.floor.batches
        (engine.handed outer requests).floor.batches ∧
      ∃ batch, (engine.handed outer requests).floor.batches engine.floor.callers.length =
          some batch ∧ ∀ ticket ∈ batch.tickets, engine.floor.nextTicket ≤ ticket := by
  have opened : Orderly plan none (engine.floor.onAgenda fun agenda =>
      (agenda.openChild outer).1.wake (.timer engine.rounds.length)) engine.rounds
      engine.nextSlot := by
    apply orderly.onAgenda
    intro scope old
    rw [Agenda.wake_cancelled]
    exact (Agenda.spares_openChild .dispatcher _ outer).cancelled scope old
  have caller : (engine.begun outer requests).caller = (engine.opened outer).floor.callers.length :=
    rfl
  have size : (engine.begun outer requests).size = requests.length := rfl
  exact ⟨_, opened.executeBatch engine.settings.submitTimeout caller rfl size⟩

namespace Kept

variable {log : Log} {engine : Engine} {plan : Nat → List (Errand .assess)}

theorem make (settings : Config.Settings) (service : Service) :
    Kept [] (Engine.make settings service) :=
  ⟨⟨_, .make settings service⟩, .make settings service⟩

/-- Nothing was recorded. -/
theorem silent {entries : Log} {next : Engine} (nothing : entries = []) (kept : Kept log next) :
    Kept (log ++ entries) next := by
  rw [nothing, List.append_nil]
  exact kept

/-- A change of the agenda. -/
theorem onAgenda (kept : Kept log engine) {change : Agenda → Agenda}
    (cancelled : ∀ scope ∈ engine.floor.agenda.cancelled,
      scope ∈ (change engine.floor.agenda).cancelled) : Kept log (engine.onAgenda change) := by
  obtain ⟨⟨plan, orderly⟩, recorded⟩ := kept
  exact ⟨⟨plan, orderly.onAgenda cancelled⟩, recorded.still rfl rfl rfl rfl rfl⟩

/-- A change of what the errands share that claims no slot. -/
theorem onCore (kept : Kept log engine) {change : Core → Core}
    (claimed : (change engine.core).claimed = engine.core.claimed) :
    Kept log (engine.onCore change) := by
  obtain ⟨⟨plan, orderly⟩, recorded⟩ := kept
  exact ⟨⟨plan, orderly.disturb _⟩, recorded.still rfl rfl claimed rfl rfl⟩

theorem unready (kept : Kept log engine) (actor : Actor) : Kept log (engine.unready actor) :=
  kept.onAgenda fun _ => id

/-- A turn of the pool that takes no caller anywhere. -/
theorem calm (kept : Kept log engine) {floor : Floor Core (Errand .assess) Assessment}
    {property : Errand .assess → Prop} (calm : Floor.Calm property engine.floor floor)
    (orderly : Orderly plan none floor engine.rounds engine.nextSlot)
    (callers : floor.callers = engine.floor.callers) :
    Kept log { engine with floor := floor } := by
  obtain ⟨⟨_, before⟩, recorded⟩ := kept
  have batches : floor.batches = engine.floor.batches := by
    funext caller
    rw [Floor.batches, callers, Floor.batches]
  have claimed : floor.shared.claimed = engine.core.claimed := congrArg Core.claimed calm.shared
  exact ⟨⟨plan, orderly⟩,
    recorded.calm rfl rfl claimed (Floor.grows_of_eq _ batches) before.issued calm.added⟩

/-! ## Looking at a caller -/

/-- Somebody looks whether a caller of the pool was answered. -/
theorem conclude {caller : Nat} (unseen : Unseen log caller engine) :
    Kept (log ++ engine.concludeEntries caller) (engine.conclude caller) := by
  obtain ⟨⟨plan, orderly⟩, recorded⟩ := unseen
  rcases engine.conclude_cases caller with
    ⟨batch, instant, number, round, ended, found, own, concludeEq, entriesEq⟩ |
    ⟨unended, entriesEq, concludeEq⟩
  · rw [concludeEq, entriesEq]
    rw [← own] at ended
    refine ⟨⟨plan, ?_⟩, recorded.concludeRound orderly found ended⟩
    have notBatching : ∀ other, engine.floor.callers[caller]? ≠ some (.batching other) := by
      intro other batching
      rw [own] at ended
      cases ended.symm.trans batching
    have length : (engine.reported round batch.outcomes).length = round.size := by
      rw [reported, List.length_map]
      exact orderly.outcomes_length found ended
    exact ((orderly.answer found own notBatching length engine.now).disturb _).onAgenda fun _ => id
  · have settled : Orderly plan none engine.floor engine.rounds engine.nextSlot := by
      apply orderly.settle
      intro number round found own
      obtain ⟨_, batch, batchFound, _⟩ := orderly.given number round found
      obtain ⟨state, stateFound, isBatch⟩ := Option.bind_eq_some_iff.mp batchFound
      rw [own] at stateFound
      cases state with
      | batching held => exact ⟨held, stateFound⟩
      | batched held instant => exact absurd stateFound (unended number round found own held instant)
      | offering | offered | closing | closed => cases isBatch
    apply silent entriesEq
    rcases concludeEq with same | emptied
    · rw [same]
      exact ⟨⟨plan, settled⟩, recorded⟩
    · rw [emptied]
      exact ⟨⟨plan, settled.disturb _⟩, recorded.still rfl rfl rfl rfl rfl⟩

/-- A caller has had a turn. -/
theorem attended (kept : Kept log engine) (caller : Nat) :
    Unseen log caller ((engine.unready (.caller caller)).onFloor (·.attend caller)) := by
  obtain ⟨⟨plan, orderly⟩, recorded⟩ := kept.unready (.caller caller)
  obtain ⟨attended, grows⟩ := orderly.attend caller
  have calm := Floor.calm_attend _ (only_true (engine.unready (.caller caller)).floor) caller
  have claimed : ((engine.unready (.caller caller)).floor.attend caller).shared.claimed =
      (engine.unready (.caller caller)).core.claimed := congrArg Core.claimed calm.shared
  exact ⟨⟨plan, attended⟩, recorded.calm rfl rfl claimed grows orderly.issued calm.added⟩

/-- A batch was handed to the pool. -/
theorem handed (kept : Kept log engine) (outer : Nat) (requests : List Request) :
    Unseen log engine.floor.callers.length (engine.handed outer requests) := by
  obtain ⟨⟨plan, orderly⟩, recorded⟩ := kept
  obtain ⟨later, ran, grows, own⟩ := orderly.handed outer requests
  have calm := engine.calm_handed outer requests
  have claimed : (engine.handed outer requests).core.claimed = engine.core.claimed :=
    congrArg Core.claimed calm.shared
  exact ⟨⟨later, ran⟩, recorded.begin rfl rfl claimed grows orderly.issued calm.added own⟩

/-- The pool has begun to shut down. -/
theorem closing (kept : Kept log engine) (limit : Span) :
    Unseen log (engine.floor.shutdown limit).2 (engine.closing limit) := by
  obtain ⟨⟨plan, orderly⟩, recorded⟩ := kept
  have calm : Floor.Calm (fun _ => True) engine.floor (engine.closing limit).floor :=
    engine.floor.calm_shutdown limit
  exact ⟨⟨plan, orderly.shutdown limit⟩,
    recorded.calm rfl rfl (congrArg Core.claimed calm.shared)
      (Floor.grows_of_eq _ (orderly.traced.shutdown limit).2) orderly.issued calm.added⟩

theorem callerTurn (kept : Kept log engine) (caller : Nat) :
    Kept (log ++ engine.entries (.turn (.caller caller)))
      (engine.after (.turn (.caller caller))) :=
  conclude (kept.attended caller)

/-! ## Single requests -/

/-- A guest's errand is resumed. -/
theorem runGuest (recorded : Recorded log engine) {start : Engine}
    (orderly : Orderly plan none start.floor start.rounds start.nextSlot) {number scope : Nat}
    {operation : Operation} {errand : Errand operation} (alone : errand.slot = none)
    (unheard : log.story (.guest number) = []) (inRange : number < start.guests.length)
    (others : ∀ other, other ≠ number → start.guests[other]? = engine.guests[other]?)
    (grown : engine.guests.length ≤ start.guests.length) (rounds : start.rounds = engine.rounds)
    (core : start.core = engine.core) (callers : start.floor.callers = engine.floor.callers)
    (deliveries : start.floor.deliveries = engine.floor.deliveries) :
    Kept (log ++ Log.ofVerdicts (.guest number)
        (errand.verdicts (start.isCancelled scope) start.now start.core))
      (start.runGuest number scope errand) := by
  have guestsEq := start.runGuest_guests number scope errand
  have roundsEq := start.runGuest_rounds number scope errand
  obtain ⟨change, floorEq, wakes⟩ := start.runGuest_floor number scope errand
  obtain ⟨told, counted⟩ :=
    Errand.told_resume alone (start.isCancelled scope) start.now scope start.core
  constructor
  · have disturbed := orderly.disturb
      (errand.resume (start.isCancelled scope) start.now start.core).1
    rw [floorEq, roundsEq, start.runGuest_nextSlot number scope errand]
    exact ⟨plan, disturbed.onAgenda fun scope old => wakes.cancelled.symm ▸ old⟩
  · apply recorded.guest unheard told counted
    · rw [guestsEq]
      exact List.getElem?_set_self inRange
    · intro other distinct
      rw [guestsEq, List.getElem?_set_ne (Ne.symm distinct)]
      exact others other distinct
    · rw [guestsEq, List.length_set]
      exact grown
    · exact roundsEq.trans rounds
    · rw [runGuest_core, (errand.records_resume _ _ _).claimed, alone, core]
      split <;> rfl
    · rw [floorEq]
      exact callers
    · rw [floorEq]
      exact deliveries

theorem ask (kept : Kept log engine) (operation : Operation) (scope : Nat) (request : Request) :
    Kept (log ++ engine.entries (.ask operation scope request))
      (engine.after (.ask operation scope request)) := by
  obtain ⟨⟨plan, orderly⟩, recorded⟩ := kept
  let errand : Errand operation := { request := request }
  let entered := engine.entered operation scope request
  have watched : Orderly plan none entered.floor entered.rounds entered.nextSlot :=
    orderly.onAgenda fun _ => id
  have inRange : engine.guests.length < entered.guests.length := by
    simp [entered, Engine.entered]
  have others : ∀ other, other ≠ engine.guests.length →
      entered.guests[other]? = engine.guests[other]? := by
    intro other distinct
    change (engine.guests ++ [_])[other]? = _
    rw [List.getElem?_append]
    split
    · rfl
    · rw [List.getElem?_eq_none (by simp; omega), List.getElem?_eq_none (by omega)]
  exact runGuest recorded watched (show errand.slot = none from rfl)
    (recorded.noGuest _ (Nat.le_refl _)) inRange others (Nat.le_of_lt inRange) rfl rfl rfl rfl

theorem guestTurn (kept : Kept log engine) (number : Nat) :
    Kept (log ++ engine.entries (.turn (.guest number)))
      (engine.after (.turn (.guest number))) := by
  have rested := kept.unready (.guest number)
  obtain ⟨⟨plan, orderly⟩, recorded⟩ := rested
  have afterEq : engine.after (.turn (.guest number)) =
      (engine.unready (.guest number)).guestTurn number := rfl
  have guests : (engine.unready (.guest number)).guests = engine.guests := rfl
  rw [afterEq, Engine.guestTurn, entries, ← guests]
  rcases found : (engine.unready (.guest number)).guests[number]? with
    _ | ⟨scope, operation, errand | ⟨outcome, instant⟩⟩
  · exact silent rfl ⟨⟨plan, orderly⟩, recorded⟩
  · obtain ⟨unheard, slot⟩ := recorded.guests number _ found
    exact runGuest recorded orderly slot unheard (List.getElem?_eq_some_iff.mp found).1
      (fun _ _ => rfl) (Nat.le_refl _) rfl rfl rfl rfl
  · exact silent rfl ⟨⟨plan, orderly⟩, recorded⟩

/-! ## Jobs -/

theorem workerTurn (kept : Kept log engine) (index : Nat) :
    Kept (log ++ engine.entries (.turn (.worker index)))
      (engine.after (.turn (.worker index))) := by
  have rested := kept.unready (.worker index)
  obtain ⟨⟨plan, orderly⟩, recorded⟩ := rested
  let resting : Engine := engine.unready (.worker index)
  have worked : Orderly plan none (resting.floor.work index) resting.rounds resting.nextSlot :=
    orderly.work index
  have callers : (resting.floor.work index).callers = resting.floor.callers :=
    Floor.callers_of_spares fun number => Floor.spares_work number index resting.floor
  have afterEq : engine.after (.turn (.worker index)) =
      { resting with floor := resting.floor.work index } := rfl
  have same : engine.floor.resumed? index = resting.floor.resumed? index := rfl
  rw [afterEq, entries, same]
  rcases resting.floor.work_cases index with
    ⟨idle, calm, _⟩ | ⟨idle, job, _, abandoned⟩ | ⟨desk, job, found, seated, live, busy, resumed⟩
  · rw [idle]
    exact silent rfl ((kept.unready _).calm (calm fun _ => True) worked callers)
  · rw [idle]
    apply silent rfl
    have claimed : (resting.floor.work index).shared.claimed = resting.core.claimed := by
      rw [abandoned.shared]
      change (job.task.abandon resting.now resting.core).claimed = _
      unfold Errand.abandon
      split <;> rfl
    have batches : (resting.floor.work index).batches = resting.floor.batches := by
      funext caller
      rw [Floor.batches, callers, Floor.batches]
    refine ⟨⟨plan, worked⟩, recorded.calm rfl rfl claimed (Floor.grows_of_eq _ batches)
      orderly.issued ⟨[_], abandoned.added, ?_⟩⟩
    intro delivery member
    rw [List.mem_singleton.mp member]
    exact ⟨.cancelled, rfl, rfl⟩
  · obtain ⟨⟨number, place, round, batch, forItem⟩, undelivered⟩ :=
      orderly.resumed found seated live
    rw [busy]
    dsimp only
    rw [forItem.slot, Option.toList_some, List.flatMap_singleton]
    exact ⟨⟨plan, worked⟩,
      recorded.resumed orderly forItem undelivered rfl rfl callers resumed.shared resumed.added⟩

theorem dispatcherTurn (kept : Kept log engine) :
    Kept log (engine.after (.turn .dispatcher)) := by
  have rested := kept.unready .dispatcher
  obtain ⟨⟨plan, orderly⟩, _⟩ := rested
  have calm : Floor.Calm (fun _ => True) (engine.unready .dispatcher).floor
      (engine.unready .dispatcher).floor.dispatch := Floor.calm_dispatch _
  exact (kept.unready .dispatcher).calm calm orderly.dispatch
    (Floor.callers_of_spares fun number => Floor.spares_dispatch number _)

theorem timerTurn (kept : Kept log engine) (number : Nat) :
    Kept log (engine.after (.turn (.timer number))) := by
  have rested := kept.unready (.timer number)
  have afterEq : engine.after (.turn (.timer number)) =
      (engine.unready (.timer number)).timerTurn number := rfl
  rw [afterEq, Engine.timerTurn]
  split
  · apply rested.onAgenda
    split
    · exact (Agenda.spares_cancel .dispatcher _ _).cancelled
    · exact fun _ => id
  · exact rested

/-! ## Batches -/

theorem askBatch (kept : Kept log engine) (outer : Nat) (requests : List Request) :
    Kept (log ++ engine.entries (.askBatch outer requests))
      (engine.after (.askBatch outer requests)) := by
  obtain ⟨⟨plan, orderly⟩, recorded⟩ := kept
  have afterEq : engine.after (.askBatch outer requests) = (engine.askBatch outer requests).1 :=
    rfl
  rw [afterEq, askBatch_eq, entries]
  cases refused : engine.refusal? requests with
  | some outcome =>
      have empty : ∀ held, outcome = .ok held → held.items = [] := by
        rintro held rfl
        unfold refusal? at refused
        split at refused
        · cases refused
        · split at refused
          · cases refused
            rfl
          · cases refused
      have size : (Rounds.answered outcome engine.now).size = 0 := by
        cases outcome with
        | error failure => rfl
        | ok held => exact congrArg List.length (empty held rfl)
      apply silent rfl
      refine ⟨⟨plan, orderly.refuse size ?_⟩, recorded.refuse empty⟩
      rintro _ ⟨⟩
  | none => exact conclude (handed ⟨⟨plan, orderly⟩, recorded⟩ outer requests)

theorem shutdown (kept : Kept log engine) (limit : Span) :
    Kept (log ++ engine.entries (.shutdown limit)) (engine.after (.shutdown limit)) := by
  obtain ⟨⟨plan, orderly⟩, recorded⟩ := kept
  have afterEq : engine.after (.shutdown limit) = (engine.shutdown limit).1 := rfl
  rw [afterEq, Engine.shutdown, entries]
  split
  · apply silent rfl
    have same := (orderly.traced.enter (show (Pool.Caller.closed (.ok ()) engine.now :
      Pool.Caller (Errand .assess) Assessment).batch? = none from rfl) fun _ => trivial).2
    refine ⟨⟨plan, orderly.enterClosed _ _⟩, ?_⟩
    exact recorded.calm rfl rfl rfl (Floor.grows_of_eq _ same) orderly.issued
      ⟨[], rfl, fun _ member => absurd member List.not_mem_nil⟩
  · exact conclude (closing ⟨⟨plan, orderly⟩, recorded⟩ limit)

/-! ## Runs -/

/-- Every event keeps the stories as they should be. -/
theorem after (kept : Kept log engine) (event : Event) :
    Kept (log ++ engine.entries event) (engine.after event) := by
  cases event with
  | ask operation scope request => exact kept.ask operation scope request
  | askBatch outer requests => exact kept.askBatch outer requests
  | shutdown limit => exact kept.shutdown limit
  | resetBreaker =>
      have reset : Kept log engine.resetBreaker := kept.onCore rfl
      exact silent rfl reset
  | resetMetrics =>
      have reset : Kept log engine.resetMetrics := kept.onCore rfl
      exact silent rfl reset
  | openScope => exact silent rfl (kept.onAgenda fun _ => id)
  | openChild parent =>
      exact silent rfl (kept.onAgenda (Agenda.spares_openChild .dispatcher _ parent).cancelled)
  | cancel scope =>
      exact silent rfl (kept.onAgenda (Agenda.spares_cancel .dispatcher _ scope).cancelled)
  | plan due scope => exact silent rfl (kept.onAgenda fun _ => id)
  | pass instant =>
      apply silent rfl
      apply Kept.onAgenda
      · exact kept.onCore rfl
      · exact (Agenda.spares_moveTo .dispatcher _ instant).cancelled
  | turn actor =>
      cases actor with
      | guest number => exact kept.guestTurn number
      | worker index => exact kept.workerTurn index
      | caller caller => exact kept.callerTurn caller
      | dispatcher => exact silent rfl kept.dispatcherTurn
      | timer number => exact silent rfl (kept.timerTurn number)

theorem run (kept : Kept log engine) (events : List Event) :
    Kept (log ++ engine.log events) (engine.run events) := by
  induction events generalizing log engine with
  | nil => exact silent rfl kept
  | cons event rest ih =>
      rw [Engine.log, ← List.append_assoc]
      exact ih (kept.after event)

/-- Without a reset the counters grow by the log. -/
theorem tallied_run (kept : Kept log engine) {events : List Event}
    (goesOn : ∀ event ∈ events, event.resets = false) :
    Tallied (engine.log events).verdicts engine.core.collector
      (engine.run events).core.collector := by
  induction events generalizing log engine with
  | nil => exact .refl _
  | cons event rest ih =>
      obtain ⟨plan, orderly⟩ := kept.orderly
      have first := tallied_after orderly (goesOn event List.mem_cons_self)
      have later := ih (kept.after event) fun other member =>
        goesOn other (List.mem_cons_of_mem _ member)
      rw [Engine.log, Log.verdicts_append]
      exact first.trans later

end Kept

/-! ## The collector -/

/-- Metrics are collected, and the labels of the failures are in order. -/
def Metered (engine : Engine) : Prop :=
  ∃ collector, engine.core.collector = some collector ∧ collector.errors.Ordered

theorem Metered.make {settings : Config.Settings} (service : Service)
    (enabled : settings.observability.metricsEnabled = true) :
    Metered (make settings service) := by
  refine ⟨{}, ?_, List.Pairwise.nil⟩
  change (if settings.observability.metricsEnabled = true then _ else _) = _
  rw [if_pos enabled]

theorem Metered.of_tallied {before after : Engine} {verdicts : List Verdict}
    (metered : Metered before)
    (tallied : Tallied verdicts before.core.collector after.core.collector) : Metered after := by
  obtain ⟨collector, found, ordered⟩ := metered
  rw [found] at tallied
  cases later : after.core.collector with
  | none =>
      rw [later] at tallied
      exact tallied.elim
  | some next =>
      rw [later] at tallied
      exact ⟨next, later, (Gains.errors tallied ordered).1⟩

theorem Metered.after {log : Log} {engine : Engine} (metered : Metered engine)
    (kept : Kept log engine) (event : Event) : Metered (engine.after event) := by
  cases resets : event.resets with
  | false =>
      obtain ⟨plan, orderly⟩ := kept.orderly
      exact metered.of_tallied (tallied_after orderly resets)
  | true =>
      cases event with
      | resetMetrics =>
          obtain ⟨collector, found, _⟩ := metered
          refine ⟨collector.reset (nanosAt engine.now), ?_, List.Pairwise.nil⟩
          change engine.core.collector.map _ = _
          rw [found]
          rfl
      | ask | askBatch | shutdown | resetBreaker | openScope | openChild | cancel | plan | turn
      | pass => cases resets

theorem Metered.run {log : Log} {engine : Engine} (metered : Metered engine)
    (kept : Kept log engine) (events : List Event) : Metered (engine.run events) := by
  induction events generalizing log engine with
  | nil => exact metered
  | cons event rest ih => exact ih (metered.after kept event) (kept.after event)

/-- The counters of a collector grew by some verdicts and by nothing else. -/
structure Books (verdicts : List Verdict) (before after : Metrics.Collector) : Prop where
  total : after.total = before.total + verdicts.countP Verdict.isCounted
  successful : after.successful = before.successful + verdicts.count .succeeded
  failed : after.failed = before.failed + verdicts.countP Verdict.isFailed
  errors : ∀ kind : FailureKind,
    after.errors.count kind.name = before.errors.count kind.name + verdicts.count (.failed kind)

/-- Between two moments of a run with no reset between them, the counters grow by the
log. -/
theorem Metered.books {log : Log} {engine : Engine} (metered : Metered engine)
    (kept : Kept log engine) {events : List Event}
    (goesOn : ∀ event ∈ events, event.resets = false) :
    ∃ before after, engine.core.collector = some before ∧
      (engine.run events).core.collector = some after ∧
      Books (engine.log events).verdicts before after := by
  have tallied := kept.tallied_run goesOn
  obtain ⟨before, found, ordered⟩ := metered
  obtain ⟨after, laterFound, _⟩ := Metered.of_tallied ⟨before, found, ordered⟩ tallied
  rw [found, laterFound] at tallied
  have gains : Gains (engine.log events).verdicts before after := tallied
  exact ⟨before, after, found, laterFound,
    ⟨gains.total, gains.successful, gains.failed, (gains.errors ordered).2⟩⟩

/-! ## The law -/

/-- Somebody for whom there may be something in the log: a single request that was
answered, or an item of a batch.  A batch that was refused and an empty one have no
items. -/
def Owns (engine : Engine) : Subject → Prop
  | .guest number => ∃ scope operation outcome instant,
      engine.guests[number]? = some ⟨scope, operation, .answered outcome instant⟩
  | .item slot => ∃ number round index, engine.rounds[number]? = some round ∧
      index < round.size ∧ slot = slotsBefore number engine.rounds + index

/-- Every request has been counted once in a log, if it was answered. -/
structure CountedOnce (log : Log) (engine : Engine) : Prop where
  /-- A single request that was answered has one verdict, the one on its answer. -/
  single : ∀ (number scope : Nat) (operation : Operation) (outcome : Outcome operation.Result)
    (instant : Nat), engine.guests[number]? = some ⟨scope, operation, .answered outcome instant⟩ →
      Told (log.story (.guest number)) outcome
  /-- An item that its batch has reported has one verdict that counts, unless the cache
  gave its result, which is its verdict then. -/
  items : ∀ (number : Nat) (outcome : BatchOutcome) (instant : Nat),
    engine.rounds[number]? = some (.answered (.ok outcome) instant) →
    ∀ (index : Nat) (item : Outcome Assessment), outcome.items[index]? = some item →
      Reported (log.story (.item (slotsBefore number engine.rounds + index))) item
  /-- Nobody is counted twice. -/
  once : ∀ subject, (log.story subject).countP Verdict.isCounted ≤ 1
  /-- Nothing else is counted. -/
  owned : ∀ entry ∈ log, Owns engine entry.1

theorem Kept.countedOnce {log : Log} {engine : Engine} (kept : Kept log engine) :
    CountedOnce log engine where
  single := fun _ _ _ _ _ found => kept.recorded.guests _ _ found
  items := by
    intro number outcome instant found index item itemFound
    obtain ⟨_, answered⟩ := kept.recorded.answered number outcome instant found
    exact (answered index item itemFound).1
  once := kept.recorded.once
  owned := by
    rintro ⟨subject, verdict⟩ member
    have heard : log.story subject ≠ [] := by
      apply List.ne_nil_of_mem (a := verdict)
      exact List.mem_map.mpr ⟨(subject, verdict), List.mem_filter.mpr ⟨member, by simp⟩, rfl⟩
    cases subject with
    | guest number =>
        have inRange : number < engine.guests.length := by
          by_contra beyond
          exact heard (kept.recorded.noGuest number (Nat.le_of_not_lt beyond))
        have found := List.getElem?_eq_getElem inRange
        have told := kept.recorded.guests number _ found
        rcases guestEq : engine.guests[number] with
          ⟨scope, operation, errand | ⟨outcome, instant⟩⟩
        · rw [guestEq] at told
          exact absurd told.1 heard
        · exact ⟨scope, operation, outcome, instant, found.trans (congrArg some guestEq)⟩
    | item slot =>
        apply exists_item_of_lt_slots
        by_contra beyond
        exact heard (kept.recorded.noItem slot (Nat.le_of_not_lt beyond))

/-- In every run of an engine with metrics, every request that was answered has been
counted once, and from any moment on the counters grow by what is counted and by nothing
else, until they are started over. -/
theorem requests_counted_once {settings : Config.Settings}
    (enabled : settings.observability.metricsEnabled = true) (service : Service)
    (events : List Event) :
    CountedOnce ((make settings service).log events) ((make settings service).run events) ∧
      ∀ first second, events = first ++ second →
        (∀ event ∈ second, event.resets = false) →
          ∃ before after, ((make settings service).run first).core.collector = some before ∧
            ((make settings service).run events).core.collector = some after ∧
            Books (((make settings service).run first).log second).verdicts before after := by
  have start := Kept.make settings service
  have metered := Metered.make service enabled
  constructor
  · have kept := start.run events
    rw [List.nil_append] at kept
    exact kept.countedOnce
  · rintro first second rfl goesOn
    rw [run_append]
    exact (metered.run start first).books (start.run first) goesOn

/-- Two guests and a batch of two, with a first request that is repeated twice. -/
def repeatedRequest : List Event :=
  [.openScope, .ask .assess 0 writings.1, .ask .assess 0 writings.2,
    .askBatch 0 [writings.1, { writings.1 with businessName := "Other" }], .turn .dispatcher,
    .turn (.worker 0), .turn (.worker 1), .turn (.caller 0)]

theorem requests_counted_once_repeated :
    (make {} (Script.service {})).log repeatedRequest =
        [(.guest 0, .succeeded), (.guest 1, .remembered), (.item 0, .remembered),
          (.item 1, .succeeded)] ∧
      CountedOnce ((make {} (Script.service {})).log repeatedRequest)
        ((make {} (Script.service {})).run repeatedRequest) :=
  ⟨by decide +kernel, (requests_counted_once rfl (Script.service {}) repeatedRequest).1⟩

end RiskGate.Engine
