import RiskGate.Proofs.Engine.Rounds

/-!
# The log of a run

Every event of a run has its entries in the log: what is recorded by it, and for whom.
An errand that is resumed is recorded for the guest who runs it or for the item whose
slot it has, and a batch that ends is recorded for those of its failed items whose slots
nobody has claimed.

The main statement says that the log is complete: but for a reset, every event changes
the counters of the collector by its entries.
-/

namespace RiskGate.Engine

open Schedule (Actor Agenda Clockwork)
open Pool (Floor Batch Job)

/-! ## Batches that begin and end -/

/-- The scope of a batch is opened and its timer woken. -/
def opened (outer : Nat) (engine : Engine) : Engine :=
  engine.onAgenda fun agenda => (agenda.openChild outer).1.wake (.timer engine.rounds.length)

/-- A batch that begins. -/
def begun (outer : Nat) (requests : List Request) (engine : Engine) : Round where
  caller := engine.floor.callers.length
  outer := outer
  scope := (engine.floor.agenda.openChild outer).2
  firstSlot := engine.nextSlot
  size := requests.length
  begunAt := (engine.opened outer).now
  due := (engine.floor.agenda.openChild outer).1.dueAfter engine.settings.batchTimeout

/-- The engine once the pool runs a batch, before anybody has looked whether it ended at
once. -/
def handed (outer : Nat) (requests : List Request) (engine : Engine) : Engine :=
  { engine.opened outer with
    floor :=
      ((engine.opened outer).floor.executeBatch engine.settings.submitTimeout
        (engine.begun outer requests).scope (errands engine.nextSlot requests)).1
    rounds := engine.rounds ++ [.running (engine.begun outer requests)]
    nextSlot := engine.nextSlot + requests.length }

/-- A batch is refused whole. -/
def refusal? (requests : List Request) (engine : Engine) : Option (Outcome BatchOutcome) :=
  if engine.floor.workers < requests.length then
    some (.error (.batchTooLarge requests.length engine.floor.workers))
  else if requests.isEmpty then some (.ok ⟨[]⟩)
  else none

/-- A batch is answered without being run, or handed to the pool. -/
theorem askBatch_eq (outer : Nat) (requests : List Request) (engine : Engine) :
    engine.askBatch outer requests =
      match engine.refusal? requests with
      | some outcome => engine.answerRound outcome
      | none =>
          ((engine.handed outer requests).conclude engine.floor.callers.length,
            engine.rounds.length) := by
  unfold askBatch refusal?
  dsimp only
  split
  · rfl
  · split
    · rfl
    · rfl

/-- The engine once its pool shuts down, before anybody has looked whether it has stopped
at once. -/
def closing (limit : Span) (engine : Engine) : Engine :=
  { engine with
    floor := (engine.floor.shutdown limit).1
    down := true
    closer := some (engine.floor.shutdown limit).2 }

/-- The engine once its pool has stopped. -/
def emptied (engine : Engine) : Engine :=
  { engine.onCore fun core => { core with cache := core.cache.clear.close } with closer := none }

/-- What a batch reports when it ends now. -/
def reported (round : Round) (outcomes : List (Outcome Assessment)) (engine : Engine) :
    List (Outcome Assessment) :=
  outcomes.map (relabel (engine.isCancelled round.scope && !engine.isCancelled round.outer)
    engine.settings.batchTimeout)

theorem relabel_false (limit : Span) (outcome : Outcome Assessment) :
    relabel false limit outcome = outcome := by
  unfold relabel
  split
  · rfl
  · rfl

/-- The outcomes of a batch that ends before its scope is cancelled are reported as they
are. -/
theorem reported_of_live {round : Round} {engine : Engine}
    (live : engine.isCancelled round.scope = false) (outcomes : List (Outcome Assessment)) :
    engine.reported round outcomes = outcomes := by
  rw [reported, live, Bool.false_and, List.map_congr_left fun outcome _ =>
    relabel_false _ outcome]
  exact List.map_id _

/-! ## Answers to batches -/

section Answers

variable {engine : Engine} {number : Nat}

theorem batchAnswer?_of_answered {outcome : Outcome BatchOutcome} {instant : Nat}
    (found : engine.rounds[number]? = some (.answered outcome instant)) :
    engine.batchAnswer? number = some (outcome, instant) := by
  rw [batchAnswer?, found]

theorem batchAnswer?_of_running {round : Round}
    (found : engine.rounds[number]? = some (.running round)) :
    engine.batchAnswer? number = none := by
  rw [batchAnswer?, found]

end Answers

/-! ## Entries -/

/-- What is recorded for an item of a batch that ends. -/
def missing (slot : Nat) (core : Core) : Outcome Assessment → List Verdict
  | .ok _ => []
  | .error failure => if core.isFree (some slot) then [.failed failure.kind] else []

/-- What is recorded for the failed items of a batch. -/
def recountEntries (slot : Nat) : List (Outcome Assessment) → Core → Log
  | [], _ => []
  | .ok _ :: rest, core => recountEntries (slot + 1) rest core
  | .error failure :: rest, core =>
      Log.ofVerdicts (.item slot) (missing slot core (.error failure)) ++
        recountEntries (slot + 1) rest (core.recordFailure (some slot) failure)

/-- What is recorded when somebody looks at one of the pool's callers. -/
def concludeEntries (caller : Nat) (engine : Engine) : Log :=
  match engine.floor.callers[caller]? with
  | some (.batched batch _) =>
      match engine.roundOf? caller with
      | some (_, round) =>
          recountEntries round.firstSlot (engine.reported round batch.outcomes) engine.core
      | none => []
  | _ => []

/-- Everything that can come of looking at a caller: a batch has ended, or nothing is
recorded. -/
theorem conclude_cases (caller : Nat) (engine : Engine) :
    (∃ batch instant number round, engine.floor.callers[caller]? = some (.batched batch instant) ∧
      engine.rounds[number]? = some (.running round) ∧ round.caller = caller ∧
      engine.conclude caller = engine.concludeRound number round batch.outcomes ∧
      engine.concludeEntries caller =
        recountEntries round.firstSlot (engine.reported round batch.outcomes) engine.core) ∨
    ((∀ (number : Nat) (round : Round), engine.rounds[number]? = some (.running round) →
        round.caller = caller →
          ∀ batch instant, engine.floor.callers[caller]? ≠ some (.batched batch instant)) ∧
      engine.concludeEntries caller = [] ∧
      (engine.conclude caller = engine ∨ engine.conclude caller = engine.emptied)) := by
  unfold conclude concludeEntries
  by_cases ended : ∃ batch instant, engine.floor.callers[caller]? = some (.batched batch instant)
  · obtain ⟨batch, instant, callerEq⟩ := ended
    simp only [callerEq]
    rcases roundEq : engine.roundOf? caller with _ | ⟨number, round⟩
    · exact .inr ⟨fun number round found own => absurd own (roundOf?_none roundEq found), rfl,
        .inl rfl⟩
    · obtain ⟨found, own⟩ := roundOf?_some roundEq
      exact .inl ⟨batch, instant, number, round, rfl, found, own, rfl, rfl⟩
  · refine .inr ⟨fun _ _ _ _ batch instant found => ended ⟨batch, instant, found⟩, ?_⟩
    rcases callerEq : engine.floor.callers[caller]? with _ | state
    · exact ⟨rfl, .inl rfl⟩
    · cases state with
      | batched batch instant => exact absurd ⟨batch, instant, callerEq⟩ ended
      | closed answer instant =>
          refine ⟨rfl, ?_⟩
          dsimp only
          split
          · exact .inr rfl
          · exact .inl rfl
      | offering | offered | batching | closing => exact ⟨rfl, .inl rfl⟩

/-- What is recorded by an event. -/
def entries (event : Event) (engine : Engine) : Log :=
  match event with
  | .ask operation scope request =>
      Log.ofVerdicts (.guest engine.guests.length)
        (({ request := request } : Errand operation).verdicts (engine.isCancelled scope)
          engine.now engine.core)
  | .askBatch outer requests =>
      match engine.refusal? requests with
      | some _ => []
      | none => (engine.handed outer requests).concludeEntries engine.floor.callers.length
  | .shutdown limit =>
      if engine.down then []
      else (engine.closing limit).concludeEntries (engine.floor.shutdown limit).2
  | .turn (.guest number) =>
      match engine.guests[number]? with
      | some ⟨scope, _, .running errand⟩ =>
          Log.ofVerdicts (.guest number)
            (errand.verdicts (engine.isCancelled scope) engine.now engine.core)
      | _ => []
  | .turn (.worker index) =>
      match engine.floor.resumed? index with
      | some errand =>
          errand.slot.toList.flatMap fun slot =>
            Log.ofVerdicts (.item slot) (errand.verdicts false engine.now engine.core)
      | none => []
  | .turn (.caller caller) =>
      ((engine.unready (.caller caller)).onFloor (·.attend caller)).concludeEntries caller
  | _ => []

/-- What is recorded in a run, the oldest first. -/
def log : List Event → Engine → Log
  | [], _ => []
  | event :: rest, engine => engine.entries event ++ log rest (engine.after event)

/-! ## Recording for a batch -/

section Recount

/-- Recording for a batch changes the counters as its entries say. -/
theorem tallied_recount (slot : Nat) (items : List (Outcome Assessment)) (core : Core) :
    Tallied (recountEntries slot items core).verdicts core.collector
      (recount slot items core).collector := by
  induction items generalizing slot core with
  | nil => exact .refl _
  | cons item rest ih =>
      cases item with
      | ok value => exact ih (slot + 1) core
      | error failure =>
          have recorded := (core.records_recordFailure (some slot) failure).tallied
          have later := ih (slot + 1) (core.recordFailure (some slot) failure)
          rw [recountEntries, Log.verdicts_append, Log.verdicts_ofVerdicts]
          exact recorded.trans later

/-- A slot belongs to a failed item of a batch. -/
def FailedAt (slot : Nat) (items : List (Outcome Assessment)) (other : Nat) : Prop :=
  ∃ index failure, items[index]? = some (.error failure) ∧ slot + index = other

theorem failedAt_cons {slot : Nat} {item : Outcome Assessment} {rest : List (Outcome Assessment)}
    {other : Nat} : FailedAt slot (item :: rest) other ↔
      (∃ failure, item = .error failure ∧ slot = other) ∨ FailedAt (slot + 1) rest other := by
  constructor
  · rintro ⟨index, failure, found, same⟩
    cases index with
    | zero => exact .inl ⟨failure, Option.some.inj found, same⟩
    | succ index => exact .inr ⟨index, failure, found, by omega⟩
  · rintro (⟨failure, rfl, same⟩ | ⟨index, failure, found, same⟩)
    · exact ⟨0, failure, rfl, same⟩
    · exact ⟨index + 1, failure, found, by omega⟩

theorem failedAt_add {slot index : Nat} {items : List (Outcome Assessment)}
    {item : Outcome Assessment} (found : items[index]? = some item) :
    FailedAt slot items (slot + index) ↔ ∃ failure, item = .error failure := by
  constructor
  · rintro ⟨place, failure, failed, same⟩
    obtain rfl : place = index := Nat.add_left_cancel same
    exact ⟨failure, Option.some.inj (found.symm.trans failed)⟩
  · rintro ⟨failure, rfl⟩
    exact ⟨index, failure, found, rfl⟩

theorem mem_claimed_recordFailure (core : Core) (slot : Nat) (failure : Failure) (other : Nat) :
    other ∈ (core.recordFailure (some slot) failure).claimed ↔
      other ∈ core.claimed ∨ slot = other := by
  rw [(core.records_recordFailure (some slot) failure).claimed]
  by_cases claimed : slot ∈ core.claimed
  · have taken : core.isFree (some slot) = false := by simpa [Core.isFree] using claimed
    simp only [taken, Bool.false_eq_true, if_false, List.any_nil, List.nil_append]
    constructor
    · exact .inl
    · rintro (old | rfl)
      · exact old
      · exact claimed
  · have free : core.isFree (some slot) = true := by simpa [Core.isFree] using claimed
    simp [free, Verdict.isCounted, or_comm, eq_comm]

/-- Recording for one slot leaves another one as free as it was. -/
theorem isFree_recordFailure (core : Core) {slot other : Nat} (distinct : slot ≠ other)
    (failure : Failure) :
    (core.recordFailure (some slot) failure).isFree (some other) = core.isFree (some other) := by
  have same := mem_claimed_recordFailure core slot failure other
  simp [Core.isFree, same, distinct]

/-- A slot is claimed afterwards if it was before, or belongs to a failed item. -/
theorem mem_claimed_recount (slot : Nat) (items : List (Outcome Assessment)) (core : Core)
    (other : Nat) :
    other ∈ (recount slot items core).claimed ↔ other ∈ core.claimed ∨ FailedAt slot items other := by
  induction items generalizing slot core with
  | nil => simp [recount, FailedAt]
  | cons item rest ih =>
      rw [failedAt_cons]
      cases item with
      | ok value =>
          rw [recount, ih]
          simp
      | error failure =>
          rw [recount, ih, mem_claimed_recordFailure, or_assoc]
          simp

/-- Nothing is recorded for anybody who has no slot of the batch. -/
theorem story_recount_other (slot : Nat) (items : List (Outcome Assessment)) (core : Core)
    {subject : Subject} (other : ∀ index < items.length, subject ≠ .item (slot + index)) :
    (recountEntries slot items core).story subject = [] := by
  induction items generalizing slot core with
  | nil => rfl
  | cons item rest ih =>
      have otherRest : ∀ index < rest.length, subject ≠ .item (slot + 1 + index) := by
        intro index inside
        rw [Nat.add_right_comm, Nat.add_assoc]
        exact other (index + 1) (Nat.succ_lt_succ inside)
      cases item with
      | ok value => exact ih (slot + 1) core otherRest
      | error failure =>
          rw [recountEntries, Log.story_append, ih _ _ otherRest, List.append_nil]
          exact Log.story_ofVerdicts_of_ne (other 0 (Nat.succ_pos _)) _

/-- What is recorded for the item at a place. -/
theorem story_recount (slot : Nat) (items : List (Outcome Assessment)) (core : Core)
    {index : Nat} {item : Outcome Assessment} (found : items[index]? = some item) :
    (recountEntries slot items core).story (.item (slot + index)) =
      missing (slot + index) core item := by
  induction items generalizing slot core index with
  | nil => cases found
  | cons first rest ih =>
      have apart : ∀ place < rest.length, Subject.item slot ≠ .item (slot + 1 + place) := by
        intro place _ same
        have := Subject.item.inj same
        omega
      cases index with
      | zero =>
          obtain rfl : first = item := Option.some.inj found
          cases first with
          | ok value => exact story_recount_other (slot + 1) rest core apart
          | error failure =>
              rw [recountEntries, Log.story_append, Nat.add_zero, Log.story_ofVerdicts,
                story_recount_other (slot + 1) rest _ apart, List.append_nil]
      | succ index =>
          have shifted : slot + (index + 1) = slot + 1 + index := by omega
          rw [shifted]
          cases first with
          | ok value => exact ih (slot + 1) core found
          | error failure =>
              have distinct : Subject.item (slot + 1 + index) ≠ .item slot := by
                intro same
                have := Subject.item.inj same
                omega
              have free := isFree_recordFailure core (show slot ≠ slot + 1 + index by omega) failure
              rw [recountEntries, Log.story_append, Log.story_ofVerdicts_of_ne distinct,
                List.nil_append, ih (slot + 1) _ found]
              cases item with
              | ok value => rfl
              | error other => rw [missing, missing, free]

end Recount

/-! ## The log is complete -/

section Complete

variable {engine : Engine}

/-- The pool goes about its affairs, and nothing is recorded. -/
theorem tallied_of_calm {property : Errand .assess → Prop} {next : Engine}
    (calm : Floor.Calm property engine.floor next.floor) :
    Tallied [] engine.core.collector next.core.collector := by
  have core : next.core = engine.core := calm.shared
  rw [core]
  exact .refl _

/-- All tasks have a property that everything has. -/
theorem only_true (floor : Floor Core (Errand .assess) Assessment) :
    floor.Only fun _ => True :=
  ⟨fun _ _ => trivial, fun _ _ _ _ => trivial, fun _ _ _ _ => trivial⟩

theorem calm_unready (actor : Actor) (engine : Engine) :
    Floor.Calm (fun _ => True) engine.floor (engine.unready actor).floor :=
  .of_eq rfl rfl rfl rfl rfl rfl

section Guests

variable (number scope : Nat) {operation : Operation} (errand : Errand operation) (engine : Engine)

/-- How far a guest is when its errand was resumed. -/
def Errands.of (now : Nat) : Pool.Progress (Errand operation) operation.Result → Errands operation
  | .finished outcome => .answered outcome now
  | .suspended errand _ => .running errand

/-- What a guest's errand leaves behind. -/
theorem runGuest_guests :
    (engine.runGuest number scope errand).guests = engine.guests.set number
      ⟨scope, operation,
        .of engine.now (errand.resume (engine.isCancelled scope) engine.now engine.core).2⟩ := by
  unfold runGuest
  generalize errand.resume (engine.isCancelled scope) engine.now engine.core = result
  obtain ⟨core, outcome | ⟨next, alarms⟩⟩ := result
  · rfl
  · rfl

/-- A guest's errand touches what the errands share, and what wakes the guest. -/
theorem runGuest_floor : ∃ change : Agenda → Agenda,
    (engine.runGuest number scope errand).floor =
      { engine.floor with
        shared := (errand.resume (engine.isCancelled scope) engine.now engine.core).1 }.onAgenda
          change ∧
      Agenda.Wakes engine.floor.agenda (change engine.floor.agenda) := by
  unfold runGuest
  generalize errand.resume (engine.isCancelled scope) engine.now engine.core = result
  obtain ⟨core, outcome | ⟨next, alarms⟩⟩ := result
  · exact ⟨fun agenda => agenda.release (.guest number), rfl, Agenda.wakes_release _ _⟩
  · exact ⟨fun agenda =>
      alarms.foldl (fun agenda due => agenda.setAlarm due (.guest number)) agenda, rfl,
      Agenda.wakes_setAlarms _ alarms _⟩

theorem runGuest_rounds : (engine.runGuest number scope errand).rounds = engine.rounds := by
  unfold runGuest
  dsimp only
  split
  · rfl
  · rfl

theorem runGuest_nextSlot : (engine.runGuest number scope errand).nextSlot = engine.nextSlot := by
  unfold runGuest
  dsimp only
  split
  · rfl
  · rfl

theorem runGuest_core :
    (engine.runGuest number scope errand).core =
      (errand.resume (engine.isCancelled scope) engine.now engine.core).1 := by
  obtain ⟨_, floorEq, _⟩ := engine.runGuest_floor number scope errand
  rw [core, floorEq]
  rfl

variable {number scope errand engine} {core : Core} {outcome : Outcome operation.Result}

/-- A guest's errand ends. -/
theorem runGuest_finished
    (finished : errand.resume (engine.isCancelled scope) engine.now engine.core =
      (core, .finished outcome)) :
    engine.runGuest number scope errand =
      ((engine.onCore fun _ => core).onAgenda (·.release (.guest number))).setGuest number
        ⟨scope, operation, .answered outcome engine.now⟩ := by
  rw [runGuest, finished]
  rfl

/-- A request whose errand ends in the turn in which it begins. -/
theorem ask_finished {request : Request}
    (finished : ({ request := request } : Errand operation).resume (engine.isCancelled scope)
      engine.now engine.core = (core, .finished outcome)) :
    engine.after (.ask operation scope request) =
      { (engine.onCore fun _ => core).onAgenda fun agenda =>
          (agenda.watch scope (.guest engine.guests.length)).release
            (.guest engine.guests.length) with
        guests := engine.guests ++ [⟨scope, operation, .answered outcome engine.now⟩] } := by
  let entered := engine.entered operation scope request
  have ends : ({ request := request } : Errand operation).resume (entered.isCancelled scope)
      entered.now entered.core = (core, .finished outcome) := finished
  have ran : entered.runGuest engine.guests.length scope { request := request } = _ :=
    runGuest_finished ends
  have guests : entered.guests.set engine.guests.length
      ⟨scope, operation, .answered outcome engine.now⟩ =
        engine.guests ++ [⟨scope, operation, .answered outcome engine.now⟩] := by
    change (engine.guests ++ [_]).set engine.guests.length _ = _
    rw [List.set_append_right _ _ (Nat.le_refl _), Nat.sub_self]
    rfl
  rw [← guests]
  exact ran

end Guests

/-- What is recorded when a batch ends is what its entries say. -/
theorem tallied_concludeRound (number : Nat) (round : Round) (outcomes : List (Outcome Assessment))
    (engine : Engine) :
    Tallied (recountEntries round.firstSlot (engine.reported round outcomes) engine.core).verdicts
      engine.core.collector (engine.concludeRound number round outcomes).core.collector := by
  have batch : ∀ collector : Metrics.Collector, Gains [] collector
      (collector.recordBatch (Span.ofMillis (engine.now - round.begunAt)) round.size) :=
    fun _ => .of_eq rfl rfl rfl rfl
  exact (tallied_recount round.firstSlot (engine.reported round outcomes) engine.core).of_silent
    (.map batch _)

theorem tallied_conclude (caller : Nat) (engine : Engine) :
    Tallied (engine.concludeEntries caller).verdicts engine.core.collector
      (engine.conclude caller).core.collector := by
  rcases engine.conclude_cases caller with
    ⟨batch, _, number, round, _, _, _, concludeEq, entriesEq⟩ | ⟨_, entriesEq, same | emptied⟩
  · rw [concludeEq, entriesEq]
    exact tallied_concludeRound number round batch.outcomes engine
  · rw [same, entriesEq]
    exact .refl _
  · rw [emptied, entriesEq]
    exact .refl _

theorem tallied_guestTurn (number : Nat) (engine : Engine) :
    Tallied (engine.entries (.turn (.guest number))).verdicts engine.core.collector
      (engine.after (.turn (.guest number))).core.collector := by
  have afterEq : engine.after (.turn (.guest number)) =
      (engine.unready (.guest number)).guestTurn number := rfl
  have same : (engine.unready (.guest number)).guests = engine.guests := rfl
  rw [afterEq, guestTurn, entries, same]
  rcases engine.guests[number]? with _ | ⟨scope, operation, errand | ⟨outcome, instant⟩⟩
  · exact .refl _
  · dsimp only
    rw [runGuest_core, Log.verdicts_ofVerdicts]
    exact (errand.records_resume _ _ _).tallied
  · exact .refl _

theorem tallied_workerTurn {plan : Nat → List (Errand .assess)}
    (orderly : Orderly plan none engine.floor engine.rounds engine.nextSlot) (index : Nat) :
    Tallied (engine.entries (.turn (.worker index))).verdicts engine.core.collector
      (engine.after (.turn (.worker index))).core.collector := by
  have same : engine.floor.resumed? index =
      (engine.unready (.worker index)).floor.resumed? index := rfl
  have afterEq : engine.after (.turn (.worker index)) =
      { engine.unready (.worker index) with
        floor := (engine.unready (.worker index)).floor.work index } := rfl
  rw [afterEq, entries, same]
  rcases (engine.unready (.worker index)).floor.work_cases index with
    ⟨idle, calm, _⟩ | ⟨idle, job, _, abandoned⟩ | ⟨desk, job, found, seated, live, busy, resumed⟩
  · rw [idle]
    exact tallied_of_calm ((engine.calm_unready (.worker index)).trans (calm fun _ => True))
  · rw [idle]
    have core : ((engine.unready (.worker index)).floor.work index).shared =
        job.task.abandon engine.now engine.core := abandoned.shared
    have collector : (job.task.abandon engine.now engine.core).collector =
        engine.core.collector := by
      unfold Errand.abandon
      split <;> rfl
    change Tallied [] _ ((engine.unready (.worker index)).floor.work index).shared.collector
    rw [core, collector]
    exact .refl _
  · obtain ⟨⟨_, place, round, _, forItem⟩, _⟩ := orderly.resumed found seated live
    have core : ((engine.unready (.worker index)).floor.work index).shared =
        (job.task.resume false engine.now engine.core).1 := resumed.shared
    rw [busy]
    dsimp only
    rw [forItem.slot, Option.toList_some, List.flatMap_singleton, Log.verdicts_ofVerdicts]
    change Tallied _ _ ((engine.unready (.worker index)).floor.work index).shared.collector
    rw [core]
    exact (job.task.records_resume _ _ _).tallied

theorem calm_handed (outer : Nat) (requests : List Request) (engine : Engine) :
    Floor.Calm (fun _ => True) engine.floor (engine.handed outer requests).floor := by
  have now : (engine.opened outer).floor.now = engine.floor.now := Agenda.wake_now _ _
  have opened : Floor.Calm (fun _ => True) engine.floor (engine.opened outer).floor :=
    .of_eq rfl now rfl rfl rfl rfl
  exact opened.trans (Floor.calm_executeBatch _ _ _ fun _ _ => trivial)

theorem tallied_askBatch (outer : Nat) (requests : List Request) (engine : Engine) :
    Tallied (engine.entries (.askBatch outer requests)).verdicts engine.core.collector
      (engine.after (.askBatch outer requests)).core.collector := by
  have afterEq : engine.after (.askBatch outer requests) = (engine.askBatch outer requests).1 :=
    rfl
  rw [afterEq, askBatch_eq, entries]
  split
  · exact .refl _
  · have concluded := tallied_conclude engine.floor.callers.length (engine.handed outer requests)
    have silent := tallied_of_calm (engine.calm_handed outer requests)
    exact silent.trans concluded

theorem tallied_callerTurn (caller : Nat) (engine : Engine) :
    Tallied (engine.entries (.turn (.caller caller))).verdicts engine.core.collector
      (engine.after (.turn (.caller caller))).core.collector := by
  let attended : Engine := (engine.unready (.caller caller)).onFloor (·.attend caller)
  have calm : Floor.Calm (fun _ => True) engine.floor attended.floor :=
    (engine.calm_unready (.caller caller)).trans (Floor.calm_attend _ (only_true _) caller)
  exact (tallied_of_calm calm).trans (tallied_conclude caller attended)

theorem tallied_shutdown (limit : Span) (engine : Engine) :
    Tallied (engine.entries (.shutdown limit)).verdicts engine.core.collector
      (engine.after (.shutdown limit)).core.collector := by
  have afterEq : engine.after (.shutdown limit) = (engine.shutdown limit).1 := rfl
  rw [afterEq, shutdown, entries]
  split
  · exact .refl _
  · have calm : Floor.Calm (fun _ => True) engine.floor (engine.closing limit).floor :=
      engine.floor.calm_shutdown limit
    exact (tallied_of_calm calm).trans (tallied_conclude _ (engine.closing limit))

theorem tallied_timerTurn (number : Nat) (engine : Engine) :
    Tallied [] engine.core.collector
      (engine.after (.turn (.timer number))).core.collector := by
  obtain ⟨change, afterEq⟩ := engine.after_timer number
  rw [afterEq]
  exact .refl _

/-- The event starts the metrics over. -/
def Event.resets : Event → Bool
  | .resetMetrics => true
  | _ => false

/-- Every event changes the counters by its entries, unless it starts them over. -/
theorem tallied_after {plan : Nat → List (Errand .assess)}
    (orderly : Orderly plan none engine.floor engine.rounds engine.nextSlot) {event : Event}
    (goesOn : event.resets = false) :
    Tallied (engine.entries event).verdicts engine.core.collector
      (engine.after event).core.collector := by
  cases event with
  | ask operation scope request =>
      have core : (engine.after (.ask operation scope request)).core =
          (({ request := request } : Errand operation).resume (engine.isCancelled scope)
            engine.now engine.core).1 := runGuest_core _ _ _ _
      rw [entries, Log.verdicts_ofVerdicts, core]
      exact (Errand.records_resume _ _ _ _).tallied
  | askBatch outer requests => exact tallied_askBatch outer requests engine
  | shutdown limit => exact tallied_shutdown limit engine
  | resetMetrics => cases goesOn
  | resetBreaker | openScope | openChild | cancel | plan | pass => exact .refl _
  | turn actor =>
      cases actor with
      | guest number => exact tallied_guestTurn number engine
      | worker index => exact tallied_workerTurn orderly index
      | caller caller => exact tallied_callerTurn caller engine
      | dispatcher =>
          exact tallied_of_calm ((engine.calm_unready .dispatcher).trans (Floor.calm_dispatch _))
      | timer number => exact tallied_timerTurn number engine

end Complete

end RiskGate.Engine
