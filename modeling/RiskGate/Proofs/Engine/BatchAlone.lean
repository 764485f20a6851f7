import RiskGate.Proofs.Config.FaceValue
import RiskGate.Proofs.Engine.Crew
import RiskGate.Proofs.Engine.OneByOne

/-!
# A batch and its requests one after another

While nothing else goes on in an engine and the service answers at once, a batch is
answered as its requests would be, if they were asked for one after another, and leaves
the same behind, but for what is recorded for the batch itself.
-/

namespace RiskGate.Engine

open Schedule (Actor Agenda Clockwork)
open Pool (Floor Batch Solo Performs)

variable {engine : Engine} {round : Round} {solo : Solo Core Assessment} {bound : Nat}

/-! ## While the batch is under way -/

/-- What a batch of the engine has to do with the batch of its pool, whose failed items
have claimed their slots in the end. -/
structure Round.Matches (round : Round) (solo : Solo Core Assessment) : Prop where
  caller : round.caller = solo.caller
  scope : round.scope = solo.scope
  begunAt : round.begunAt = solo.now
  early : solo.now < round.due
  claimed : ∀ slot, FailedAt round.firstSlot solo.outcomes slot → slot ∈ solo.final.claimed

/-- The batch with what the engine records for it at its end. -/
def Round.recorded (round : Round) (solo : Solo Core Assessment) : Solo Core Assessment :=
  { solo with final := solo.final.record (·.recordBatch (Span.ofMillis 0) round.size) }

/-- The batch is under way, and no other batch has its caller. -/
structure Conducts (round : Round) (solo : Solo Core Assessment) (bound : Nat) (engine : Engine) :
    Prop where
  underway : solo.Underway bound engine.floor
  found : engine.rounds[solo.timer]? = some (.running round)
  only : ∀ (number : Nat) (other : Round), engine.rounds[number]? = some (.running other) →
    other.caller = solo.caller → number = solo.timer

/-- The batch was answered with its outcomes. -/
structure Concluded (solo : Solo Core Assessment) (engine : Engine) : Prop where
  ended : solo.Ended engine.floor
  answered : engine.rounds[solo.timer]? = some (.answered (.ok ⟨solo.outcomes⟩) solo.now)
  apart : ∀ (number : Nat) (other : Round), engine.rounds[number]? = some (.running other) →
    other.caller ≠ solo.caller

/-- A batch that has ended is answered. -/
theorem concluded (matching : round.Matches solo) (ended : solo.Ended engine.floor)
    (found : engine.rounds[solo.timer]? = some (.running round))
    (only : ∀ (number : Nat) (other : Round), engine.rounds[number]? = some (.running other) →
      other.caller = solo.caller → number = solo.timer) :
    Concluded (round.recorded solo) (engine.conclude solo.caller) := by
  obtain ⟨batch, batchFound, outcomes⟩ := ended.batch
  rcases engine.conclude_cases solo.caller with
    ⟨other, _, number, another, otherFound, foundOther, own, concludeEq, _⟩ | ⟨unended, _⟩
  · obtain rfl := only number another foundOther own
    obtain rfl := Rounds.running.inj (Option.some.inj (foundOther.symm.trans found))
    cases otherFound.symm.trans batchFound
    have live : engine.isCancelled another.scope = false := by
      rw [matching.scope]
      exact ended.ground.live
    have nowEq : engine.now = solo.now := ended.ground.now_eq
    have shared : engine.core = solo.final := ended.shared
    have final : (recount another.firstSlot (engine.reported another batch.outcomes) engine.core).record
        (·.recordBatch (Span.ofMillis (engine.now - another.begunAt)) another.size) =
          (another.recorded solo).final := by
      rw [reported_of_live live, outcomes, shared, recount_of_claimed matching.claimed, nowEq,
        matching.begunAt, Nat.sub_self]
      rfl
    have answer : (engine.concludeRound solo.timer another batch.outcomes).rounds =
        engine.rounds.set solo.timer (.answered (.ok ⟨solo.outcomes⟩) solo.now) := by
      change engine.rounds.set solo.timer
        (.answered (.ok ⟨engine.reported another batch.outcomes⟩) engine.now) = _
      rw [reported_of_live live, outcomes, nowEq]
    have inRange := (List.getElem?_eq_some_iff.mp found).1
    rw [concludeEq]
    refine ⟨?_, ?_, ?_⟩
    · have floorEq : (engine.concludeRound solo.timer another batch.outcomes).floor =
          { engine.floor with shared := (another.recorded solo).final }.onAgenda
            (·.dismiss (.timer solo.timer)) := by
        rw [← final]
        rfl
      rw [floorEq]
      exact ended.dismiss _ _
    · rw [answer]
      exact List.getElem?_set_self inRange
    · intro number other otherFound own
      rw [answer] at otherFound
      by_cases same : solo.timer = number
      · rw [← same, List.getElem?_set_self inRange] at otherFound
        cases otherFound
      · rw [List.getElem?_set_ne same] at otherFound
        exact same (only number other otherFound own).symm
  · exact absurd batchFound (unended _ round found matching.caller _ _)

/-! ## Turns -/

/-- Somebody takes a turn while the batch is under way. -/
theorem Conducts.turn (matching : round.Matches solo)
    (conducts : Conducts round solo (bound + 1) engine) {actor : Actor}
    (ready : actor ∈ engine.floor.agenda.ready)
    (first : ∀ index, actor = .worker index →
      engine.floor.agenda.workers.head? = some index) :
    Conducts round solo bound (engine.after (.turn actor)) ∨
      Concluded (round.recorded solo) (engine.after (.turn actor)) := by
  obtain ⟨underway, found, only⟩ := conducts
  obtain ⟨concerned, turned⟩ := underway.turn ready first
  cases actor with
  | guest number => exact concerned.elim
  | dispatcher =>
      rcases turned with still | ⟨own, _⟩
      · exact .inl ⟨still, found, only⟩
      · cases own
  | worker index =>
      rcases turned with still | ⟨own, _⟩
      · exact .inl ⟨still, found, only⟩
      · cases own
  | caller number =>
      obtain rfl := concerned
      let attended : Engine :=
        (engine.unready (.caller solo.caller)).onFloor (·.turn (.caller solo.caller))
      rcases turned with still | ⟨_, ended⟩
      · left
        obtain ⟨batch, batching⟩ := still.batching
        have same : attended.conclude solo.caller = attended := by
          have batchingHere : attended.floor.callers[solo.caller]? = some (.batching batch) :=
            batching
          rw [conclude, batchingHere]
        change Conducts round solo bound (attended.conclude solo.caller)
        rw [same]
        exact ⟨still, found, only⟩
      · right
        have endedHere : solo.Ended attended.floor := ended
        exact concluded matching endedHere found only
  | timer number =>
      obtain rfl := concerned
      rcases turned with still | ⟨own, _⟩
      · left
        have now_eq : (engine.unready (.timer solo.timer)).floor.agenda.now = solo.now :=
          still.ground.now_eq
        have early : ¬ round.due ≤ (engine.unready (.timer solo.timer)).floor.agenda.now := by
          rw [now_eq]
          exact Nat.not_le.mpr matching.early
        have timerEq : engine.after (.turn (.timer solo.timer)) =
            (engine.unready (.timer solo.timer)).onAgenda
              (·.setAlarm round.due (.timer solo.timer)) := by
          change (engine.unready (.timer solo.timer)).timerTurn solo.timer = _
          have foundHere : (engine.unready (.timer solo.timer)).rounds[solo.timer]? =
              some (.running round) := found
          rw [timerTurn, foundHere]
          dsimp only [onAgenda, onFloor, Floor.onAgenda]
          rw [if_neg early]
        rw [timerEq]
        exact ⟨still.setAlarm _ _, found, only⟩
      · cases own

/-- Whoever is ready once the batch was answered has nothing to do. -/
theorem Concluded.turn (concluded : Concluded solo engine) {actor : Actor}
    (ready : actor ∈ engine.floor.agenda.ready) : Concluded solo (engine.after (.turn actor)) := by
  obtain ⟨ended, answered, apart⟩ := concluded
  obtain ⟨concerned, still, same⟩ := ended.turn ready
  have rested : Concluded solo (engine.unready actor) := ⟨still, answered, apart⟩
  have floorSame : (engine.unready actor).onFloor (·.turn actor) = engine.unready actor := by
    rw [onFloor]
    exact congrArg (fun floor => { engine.unready actor with floor := floor }) same
  cases actor with
  | guest number => exact concerned.elim
  | dispatcher =>
      change Concluded solo ((engine.unready .dispatcher).onFloor (·.turn .dispatcher))
      rw [floorSame]
      exact rested
  | worker index =>
      change Concluded solo ((engine.unready (.worker index)).onFloor (·.turn (.worker index)))
      rw [floorSame]
      exact rested
  | caller number =>
      obtain rfl := concerned
      change Concluded solo (conclude solo.caller
        ((engine.unready (.caller solo.caller)).onFloor (·.turn (.caller solo.caller))))
      rw [floorSame]
      obtain ⟨batch, found, _⟩ := rested.ended.batch
      rw [conclude, found]
      dsimp only
      split
      next number other isRunning =>
        obtain ⟨foundOther, own⟩ := roundOf?_some isRunning
        exact absurd own (apart number other foundOther)
      · exact rested
  | timer number =>
      obtain rfl := concerned
      change Concluded solo ((engine.unready (.timer solo.timer)).timerTurn solo.timer)
      have answeredHere : (engine.unready (.timer solo.timer)).rounds[solo.timer]? =
          some (.answered (.ok ⟨solo.outcomes⟩) solo.now) := answered
      rw [timerTurn, answeredHere]
      exact rested

/-- With turns enough the batch is answered, as long as the workers keep their order. -/
theorem Conducts.steps {next : Engine → Option Engine} (line : Clockwork.KeepsLine next)
    (matching : round.Matches solo) (conducts : Conducts round solo bound engine)
    {count : Nat} (enough : bound ≤ count) :
    Concluded (round.recorded solo) (Clockwork.steps next count engine) := by
  induction count generalizing bound engine with
  | zero =>
      obtain rfl := Nat.le_zero.mp enough
      exact absurd conducts.underway.pos (Nat.lt_irrefl 0)
  | succ count ih =>
      have bounded : Conducts round solo (count + 1) engine :=
        ⟨conducts.underway.mono enough, conducts.found, conducts.only⟩
      rw [Clockwork.steps]
      cases stepped : next engine with
      | none => exact absurd (line.quiet stepped) bounded.underway.ready_ne_nil
      | some later =>
          obtain ⟨actor, ready, first, rfl⟩ := line.turn stepped
          rcases bounded.turn matching ready first with still | concluded
          · exact ih still (Nat.le_refl _)
          · exact line.takesTurns.steps_keep (fun _ _ ready ended => ended.turn ready) count
              concluded

/-! ## Engines at rest -/

/-- The pool of an engine is not shut down, its workers are idle, its queue is empty, and
nobody but the dispatcher is about to act. -/
structure Resting (engine : Engine) : Prop where
  open_ : engine.floor.shut = false
  idle : ∀ desk ∈ engine.floor.desks, desk = .idle
  queue : engine.floor.queue = []
  quiet : ∀ actor ∈ engine.floor.agenda.ready, actor = .dispatcher

/-- At rest, a turn changes nothing. -/
theorem Resting.turn (resting : engine.Resting) {actor : Actor}
    (ready : actor ∈ engine.floor.agenda.ready) :
    (engine.after (.turn actor)).Resting ∧ (engine.after (.turn actor)).core = engine.core ∧
      (engine.after (.turn actor)).rounds = engine.rounds := by
  obtain rfl := resting.quiet actor ready
  have unready : (engine.unready .dispatcher).Resting := by
    refine ⟨resting.open_, resting.idle, resting.queue, fun actor member => ?_⟩
    exact resting.quiet actor (List.mem_of_mem_erase member)
  have floorSame : (engine.unready .dispatcher).floor.dispatch =
      (engine.unready .dispatcher).floor := by
    rw [Floor.dispatch, unready.open_, unready.queue, List.length_nil, Nat.zero_min]
    split <;> rfl
  have afterEq : engine.after (.turn .dispatcher) = engine.unready .dispatcher := by
    change (engine.unready .dispatcher).onFloor (·.dispatch) = _
    rw [onFloor, floorSame]
  rw [afterEq]
  exact ⟨unready, rfl, rfl⟩

/-- At rest, turns change nothing, whatever their order. -/
theorem Resting.steps {next : Engine → Option Engine} (turns : Clockwork.TakesTurns next)
    (resting : engine.Resting) (count : Nat) :
    (Clockwork.steps next count engine).core = engine.core ∧
      (Clockwork.steps next count engine).rounds = engine.rounds := by
  have keeps : ∀ between : Engine, ∀ actor ∈ between.floor.agenda.ready,
      (between.Resting ∧ between.core = engine.core ∧ between.rounds = engine.rounds) →
        (between.after (.turn actor)).Resting ∧
          (between.after (.turn actor)).core = engine.core ∧
          (between.after (.turn actor)).rounds = engine.rounds := by
    rintro between actor ready ⟨rests, core, rounds⟩
    obtain ⟨still, coreStill, roundsStill⟩ := rests.turn ready
    exact ⟨still, coreStill.trans core, roundsStill.trans rounds⟩
  exact (turns.steps_keep keeps count ⟨resting, rfl, rfl⟩).2

variable {workers capacity : Nat} {plan : Nat → List (Errand .assess)}

/-- At rest, nothing goes on in the pool, all its places are free, and all its workers are
registered. -/
theorem Resting.vacant (resting : engine.Resting) (crewed : Crewed workers capacity engine)
    (room : 0 < capacity)
    (orderly : Orderly plan none engine.floor engine.rounds engine.nextSlot) :
    Solo.Vacant engine.floor ∧ engine.floor.free = capacity ∧
      workers ≤ engine.floor.idle.length := by
  have quiet : ∀ caller, .caller caller ∉ engine.floor.agenda.ready := by
    intro caller ready
    cases resting.quiet _ ready
  obtain ⟨granted, waiting, free, registered⟩ :=
    Floor.Fit.at_rest crewed resting.open_ room quiet resting.queue resting.idle
  obtain ⟨history, sound⟩ := orderly.sound
  obtain ⟨distinct, seated⟩ := sound.registered resting.open_
  have manned := Floor.Fit.manned crewed resting.open_
  refine ⟨⟨resting.open_, manned.dispatching, resting.queue, waiting, granted, distinct, ?_,
    orderly.issued, ?_⟩, free, registered⟩
  · exact fun index member => (List.getElem?_eq_some_iff.mp (seated index member)).1
  · intro caller state found ticket recent
    cases state with
    | batching batch =>
        rw [Pool.Caller.awaits]
        split
        · rw [decide_eq_false_iff_not]
          intro member
          obtain ⟨index, inside, ticketEq⟩ := List.mem_iff_getElem.mp member
          have stands : Floor.Stands engine.floor.batches caller index ticket := by
            refine ⟨batch, ?_, List.getElem?_eq_some_iff.mpr ⟨inside, ticketEq⟩⟩
            rw [Floor.batches, found]
            rfl
          exact absurd (orderly.traced.issued caller index ticket stands) (Nat.not_lt.mpr recent)
        · rfl
    | offering | offered | batched | closing | closed => rfl

/-! ## How a batch begins -/

/-- The batch that the pool runs for the last batch of an engine. -/
def soloOf (outer capacity : Nat) (outcomes : List (Outcome Assessment)) (final : Core)
    (engine : Engine) : Solo Core Assessment where
  caller := engine.floor.callers.length
  timer := engine.rounds.length
  scope := (engine.floor.agenda.openChild outer).2
  wait := engine.settings.submitTimeout
  first := engine.floor.nextTicket
  capacity := capacity
  now := engine.now
  outcomes := outcomes
  final := final

/-- At rest, a batch that is handed to the pool runs alone. -/
theorem Resting.handed (resting : engine.Resting) (crewed : Crewed workers capacity engine)
    (room : 0 < capacity) (orderly : Orderly plan none engine.floor engine.rounds engine.nextSlot)
    {outer : Nat} (live : engine.isCancelled outer = false) {requests : List Request}
    (fits : requests.length ≤ workers)
    (patience : engine.now < Schedule.waitOver engine.now engine.settings.submitTimeout ∨
      requests.length ≤ capacity)
    {outcomes : List (Outcome Assessment)} {final : Core}
    (performs : Performs engine.now (errands engine.nextSlot requests) engine.core outcomes final) :
    (engine.soloOf outer capacity outcomes final).Ended (engine.handed outer requests).floor ∨
      (engine.soloOf outer capacity outcomes final).Underway
        (engine.handed outer requests).floor.effort (engine.handed outer requests).floor := by
  obtain ⟨vacant, free, registered⟩ := resting.vacant crewed room orderly
  have woken := Agenda.wakes_wake (engine.floor.agenda.openChild outer).1
    (.timer engine.rounds.length)
  have openedVacant : Solo.Vacant (engine.opened outer).floor :=
    ⟨vacant.open_, vacant.dispatching, vacant.queue, vacant.waiting, vacant.granted,
      vacant.distinct, vacant.there, vacant.tickets, vacant.awaited⟩
  have ready : ∀ actor ∈ (engine.opened outer).floor.agenda.ready,
      actor = .timer engine.rounds.length ∨ actor = .dispatcher := by
    intro actor member
    exact ((Agenda.mem_ready_wake _ _).mp member).imp_right (resting.quiet actor)
  have readied : (engine.soloOf outer capacity outcomes final).Readied []
      (engine.opened outer).floor.agenda := by
    constructor
    · rw [Agenda.workers, List.filterMap_eq_nil_iff]
      intro actor member
      rcases ready actor member with rfl | rfl <;> rfl
    · intro actor member
      rcases ready actor member with rfl | rfl
      · rfl
      · trivial
  have fresh := Agenda.Opened.fresh (Floor.Fit.opened crewed)
  have liveChild : (engine.opened outer).floor.isCancelled
      (engine.floor.agenda.openChild outer).2 = false := by
    have outerLive : outer ∉ engine.floor.agenda.cancelled := of_decide_eq_false live
    have cancelled : (engine.opened outer).floor.agenda.cancelled =
        engine.floor.agenda.cancelled := by
      change ((engine.floor.agenda.openChild outer).1.wake (.timer engine.rounds.length)).cancelled = _
      rw [woken.cancelled, Agenda.openChild]
      exact if_neg outerLive
    rw [Floor.isCancelled, Agenda.isCancelled, cancelled]
    exact decide_eq_false fresh
  have length := errands_length engine.nextSlot requests
  have openedFree : (engine.opened outer).floor.free = capacity := free
  have openedRegistered : workers ≤ (engine.opened outer).floor.idle.length := registered
  exact openedVacant.executeBatch rfl rfl openedFree.symm woken.now_eq.symm liveChild
    (openedFree ▸ room) (by rw [length, openedFree]; exact patience)
    (by rw [length]; exact Nat.le_trans fits openedRegistered) performs readied

/-- The slots that a batch is given are not claimed yet. -/
theorem Kept.unclaimed {log : Log} (kept : Kept log engine) (index : Nat) :
    engine.nextSlot + index ∉ engine.core.claimed := by
  obtain ⟨_, orderly⟩ := kept.orderly
  rw [kept.recorded.claimed, orderly.nextSlot_eq,
    kept.recorded.noItem _ (Nat.le_add_right _ index)]
  exact Bool.false_ne_true

/-- No batch that is under way has the caller that comes next. -/
theorem caller_lt_of_running
    (orderly : Orderly plan none engine.floor engine.rounds engine.nextSlot)
    {number : Nat} {other : Round} (found : engine.rounds[number]? = some (.running other)) :
    other.caller < engine.floor.callers.length := by
  obtain ⟨_, batching⟩ := orderly.underway number other found nofun
  exact (List.getElem?_eq_some_iff.mp batching).1

/-- A batch that is handed to the pool is the only one with its caller. -/
theorem eq_length_of_handed (orderly : Orderly plan none engine.floor engine.rounds engine.nextSlot)
    (outer : Nat) (requests : List Request) {number : Nat} {other : Round}
    (found : (engine.handed outer requests).rounds[number]? = some (.running other))
    (own : other.caller = engine.floor.callers.length) : number = engine.rounds.length := by
  have inside := (List.getElem?_eq_some_iff.mp found).1
  change number < (engine.rounds ++ [_]).length at inside
  rw [List.length_append, List.length_singleton] at inside
  by_contra earlier
  have older : number < engine.rounds.length :=
    Nat.lt_of_le_of_ne (Nat.le_of_lt_succ inside) earlier
  have old : engine.rounds[number]? = some (.running other) :=
    (List.getElem?_append_left older).symm.trans found
  exact Nat.ne_of_lt (caller_lt_of_running orderly old) own

/-- What the engine records for a batch that took no time. -/
def Core.tallied (requests : List Request) (core : Core) : Core :=
  if requests.isEmpty then core else core.record (·.recordBatch (Span.ofMillis 0) requests.length)

/-- The engine once nobody has anything to do for a batch any more, when the turns are taken as
`next` takes them. -/
def batched (next : Engine → Option Engine) (outer : Nat) (requests : List Request)
    (engine : Engine) : Engine :=
  let asked := (engine.askBatch outer requests).1
  Clockwork.steps next (Clockwork.effort asked) asked

/-- At rest, a batch without items is answered and changes nothing. -/
theorem Resting.batched_nil {next : Engine → Option Engine} (turns : Clockwork.TakesTurns next)
    (resting : engine.Resting) (outer : Nat) :
    (engine.batched next outer []).batchAnswer? (engine.askBatch outer []).2 =
        some (.ok ⟨[]⟩, engine.now) ∧
      (engine.batched next outer []).core = engine.core := by
  have askEq : engine.askBatch outer [] = engine.answerRound (.ok ⟨[]⟩) := by
    rw [askBatch_eq]
    rfl
  have still : (engine.answerRound (.ok ⟨[]⟩)).1.Resting :=
    ⟨resting.open_, resting.idle, resting.queue, resting.quiet⟩
  obtain ⟨coreEq, rounds⟩ :=
    still.steps turns (Clockwork.effort (engine.answerRound (.ok ⟨[]⟩)).1)
  rw [batched, askEq]
  refine ⟨?_, coreEq⟩
  have found := congrArg (·[engine.rounds.length]?) rounds
  have last : (engine.answerRound (.ok ⟨[]⟩)).1.rounds[engine.rounds.length]? =
      some (.answered (.ok ⟨[]⟩) engine.now) := List.getElem?_concat_length
  exact batchAnswer?_of_answered (found.trans last)

/-- At rest, a batch comes to the ends of its requests one after another, and leaves the
same behind. -/
theorem Resting.batched {next : Engine → Option Engine} (line : Clockwork.KeepsLine next)
    (resting : engine.Resting) (crewed : Crewed workers capacity engine)
    (room : 0 < capacity) {log : Log} (kept : Kept log engine) {outer : Nat}
    (live : engine.isCancelled outer = false) {requests : List Request}
    (fits : requests.length ≤ workers) (timely : 0 < engine.settings.batchTimeout.nanos)
    (patience : engine.now < Schedule.waitOver engine.now engine.settings.submitTimeout ∨
      requests.length ≤ capacity)
    {outcomes : List (Outcome Assessment)} {final : Core}
    (answers : Answers engine.now requests engine.core outcomes final) :
    (engine.batched next outer requests).batchAnswer? (engine.askBatch outer requests).2 =
        some (.ok ⟨outcomes⟩, engine.now) ∧
      ∃ claimed, (engine.batched next outer requests).core =
        (final.claiming claimed).tallied requests := by
  obtain ⟨_, orderly⟩ := kept.orderly
  by_cases empty : requests = []
  · subst empty
    cases answers
    obtain ⟨answer, core⟩ := resting.batched_nil line.takesTurns outer
    exact ⟨answer, engine.core.claimed, core⟩
  have free : ∀ index < requests.length, engine.nextSlot + index ∉ engine.core.claimed :=
    fun index _ => kept.unclaimed index
  obtain ⟨claimed, performs, _, failed⟩ := answers.performs free
  let solo := engine.soloOf outer capacity outcomes (final.claiming claimed)
  let round := engine.begun outer requests
  let handed := engine.handed outer requests
  have begunAt : round.begunAt = solo.now :=
    (Agenda.wakes_wake (engine.floor.agenda.openChild outer).1
      (.timer engine.rounds.length)).now_eq
  have matching : round.Matches solo :=
    ⟨rfl, rfl, begunAt, Schedule.lt_waitOver timely, failed⟩
  have found : handed.rounds[solo.timer]? = some (.running round) := List.getElem?_concat_length
  have only : ∀ (number : Nat) (other : Round), handed.rounds[number]? = some (.running other) →
      other.caller = solo.caller → number = solo.timer :=
    fun _ _ => eq_length_of_handed orderly outer requests
  let asked := handed.conclude solo.caller
  have concluded : Concluded (round.recorded solo)
      (Clockwork.steps next (Clockwork.effort asked) asked) := by
    rcases resting.handed crewed room orderly live fits patience performs with ended | underway
    · exact line.takesTurns.steps_keep (fun _ _ ready ended => ended.turn ready) _
        (concluded matching ended found only)
    · have still : asked = handed := by
        obtain ⟨batch, batching⟩ := underway.batching
        have batchingHere : handed.floor.callers[solo.caller]? = some (.batching batch) := batching
        change handed.conclude solo.caller = handed
        rw [conclude, batchingHere]
      rw [still]
      have conducts : Conducts round solo handed.floor.effort handed := ⟨underway, found, only⟩
      refine conducts.steps line matching ?_
      change _ ≤ handed.floor.effort + _ + _
      omega
  have whole : engine.refusal? requests = none := by
    rw [refusal?, if_neg, if_neg]
    · simpa using empty
    · rw [Floor.Fit.workers_eq crewed]
      exact Nat.not_lt.mpr fits
  rw [RiskGate.Engine.batched, askBatch_eq, whole]
  refine ⟨?_, claimed, ?_⟩
  · change batchAnswer? solo.timer (Clockwork.steps next (Clockwork.effort asked) asked) = _
    exact batchAnswer?_of_answered concluded.answered
  · change (Clockwork.steps next (Clockwork.effort asked) asked).floor.shared = _
    rw [concluded.ended.shared, Core.tallied, if_neg (by simpa using empty)]
    rfl

/-! ## Batches and sequences -/

/-- An engine of accepted settings gives a batch the time, the workers and the places that it
needs. -/
theorem Resting.batched_accepted {settings : Config.Settings}
    (valid : Config.validate settings = .ok ()) {service : Service} {events : List Event}
    {engine : Engine} (reached : engine = (make settings service).run events)
    (resting : engine.Resting) (prompt : engine.core.Prompt) {scope : Nat}
    (live : engine.isCancelled scope = false) {requests : List Request}
    (fits : requests.length ≤ engine.floor.workers)
    (patience : requests.length ≤ settings.execution.queueCapacity ∨
      0 < settings.execution.submitTimeoutMs) :
    ∃ outcomes final, Answers engine.now requests engine.core outcomes final ∧
      ∀ {next : Engine → Option Engine}, Clockwork.KeepsLine next →
        (engine.batched next scope requests).batchAnswer? (engine.askBatch scope requests).2 =
          some (.ok ⟨outcomes⟩, engine.now) ∧
        ∃ claimed, (engine.batched next scope requests).core =
          (final.claiming claimed).tallied requests := by
  have kept := (Kept.make settings service).run events
  have crewed := (Crewed.make settings service).run events
  have same := ((Sound.make settings service).run events).coherent.settings_eq
  rw [← reached] at kept crewed same
  rw [Floor.Fit.workers_eq crewed] at fits
  have settingsEq : engine.settings = settings := same
  have timely : 0 < engine.settings.batchTimeout.nanos := by
    rw [settingsEq]
    exact (Config.sane_of_validate valid).batchTimeout_pos
  have canWait : engine.now < Schedule.waitOver engine.now engine.settings.submitTimeout ∨
      requests.length ≤ max settings.execution.queueCapacity 1 := by
    rcases patience with room | waits
    · exact .inr (Nat.le_trans room (Nat.le_max_left _ _))
    · left
      apply Schedule.lt_waitOver
      rw [settingsEq]
      exact Nat.mul_pos waits (by decide)
  obtain ⟨outcomes, final, answers⟩ := prompt.answers requests engine.now
  exact ⟨outcomes, final, answers, fun line =>
    resting.batched line crewed (Nat.le_max_right _ _) kept live fits timely canWait answers⟩

/-- While an engine is at rest and its service answers at once, a batch of no more requests
than there are workers is answered, item by item, as its requests are when they are asked
for one after another, and leaves the same settings, service, cache, breaker, calls and
metrics behind, but for what is recorded of the batch itself.  The answer is that of the
clockwork's order of turns, without a host or with the caller of the batch as the host: in other
orders one worker may overtake another, and call the service before it. -/
theorem batch_eq_one_by_one {settings : Config.Settings}
    (valid : Config.validate settings = .ok ()) (service : Service) (events : List Event)
    {engine : Engine} (reached : engine = (make settings service).run events)
    (resting : engine.Resting) (prompt : engine.core.Prompt) {scope : Nat}
    (live : engine.isCancelled scope = false) {requests : List Request}
    (fits : requests.length ≤ engine.floor.workers)
    (patience : requests.length ≤ settings.execution.queueCapacity ∨
      0 < settings.execution.submitTimeoutMs) :
    ∃ outcomes,
      (engine.run (requests.map (.ask .assess scope))).guests =
          engine.guests ++
            outcomes.map (fun outcome => ⟨scope, .assess, .answered outcome engine.now⟩) ∧
        ∀ next ∈ [Clockwork.step, Clockwork.hostedStep (.caller engine.floor.callers.length)],
          (engine.batched next scope requests).batchAnswer? (engine.askBatch scope requests).2 =
            some (.ok ⟨outcomes⟩, engine.now) ∧
          ∃ claimed, (engine.batched next scope requests).core =
            ((engine.run (requests.map (.ask .assess scope))).core.claiming claimed).tallied
              requests := by
  obtain ⟨outcomes, final, answers, batched⟩ :=
    resting.batched_accepted valid reached prompt live fits patience
  obtain ⟨left, guests⟩ := answers.run live
  have keepsLine : ∀ next ∈
      [Clockwork.step, Clockwork.hostedStep (.caller engine.floor.callers.length)],
      Clockwork.KeepsLine (next : Engine → Option Engine) := by
    simp only [List.forall_mem_cons, List.not_mem_nil, false_implies, implies_true, and_true]
    exact ⟨Clockwork.keepsLine_step, Clockwork.keepsLine_hostedStep rfl⟩
  refine ⟨outcomes, guests, fun next own => ?_⟩
  rw [left]
  exact batched (keepsLine next own)

/-- As many workers as a batch needs, but only one place in the queue, and a breaker that
opens with the first failure. -/
def narrow : Config.Settings where
  execution := { maxConcurrentRequests := 4, queueCapacity := 1 }
  circuitBreaker := { failureThreshold := 1 }

/-- A service that fails the second call. -/
def faltering : Service :=
  Script.service { turns := [none, some { failure := some (.inference "no") }] }

/-- A request, the same again, one that fails, and one that the breaker rejects. -/
def mixed : List Request :=
  [writings.1, writings.2, { writings.1 with businessName := "Other" },
    { writings.1 with businessName := "Third" }]

/-- An engine at rest. -/
def narrowEngine : Engine := (make narrow faltering).run [.openScope]

theorem batch_eq_one_by_one_mixed :
    narrowEngine.Resting ∧ narrowEngine.core.Prompt ∧
      ∃ outcomes,
        (narrowEngine.run (mixed.map (.ask .assess 0))).guests =
          outcomes.map (fun outcome => ⟨0, .assess, .answered outcome 0⟩) ∧
        ∀ next ∈ [Clockwork.step, Clockwork.hostedStep (.caller 0)],
          (narrowEngine.batched next 0 mixed).batchAnswer? 0 = some (.ok ⟨outcomes⟩, 0) ∧
          ∃ claimed, (narrowEngine.batched next 0 mixed).core =
            ((narrowEngine.run (mixed.map (.ask .assess 0))).core.claiming claimed).tallied
              mixed := by
  have resting : narrowEngine.Resting :=
    ⟨rfl, fun _ member => List.eq_of_mem_replicate member, rfl, by decide⟩
  have prompt : narrowEngine.core.Prompt := by
    intro number _ request
    rcases number with _ | _ | number <;> rfl
  exact ⟨resting, prompt,
    batch_eq_one_by_one rfl faltering [.openScope] rfl resting prompt rfl (by decide)
      (.inr (by decide))⟩

/-- Only the first and the third item reach the service. -/
example : (narrowEngine.batched Clockwork.step 0 mixed).core.calls.map (·.businessName) =
    ["Other", "Acme  Corp"] := by
  decide +kernel

end RiskGate.Engine
