import RiskGate.Proofs.Pool.Settling
import RiskGate.Proofs.Schedule.Plans

/-!
# The clockwork of a pool makes a run

A turn takes no time, and nobody sets an alarm for an instant that has come already.  So
whatever is due when the pool is at rest lies ahead: every jump to the next such instant moves
the clock, and no jump skips anything.

What the clockwork does, with a host or without, is therefore a run.  Letting time pass takes
exactly that time, and waiting ends only when the condition holds or when nothing more is due
before the end of time.  A pool in use, to which calls come in between, is thus reached by a run,
so that whatever holds of all runs holds of it, and it is at rest whenever the clockwork has
settled it.
-/

namespace RiskGate.Schedule.Agenda

variable {agenda before middle after : Agenda}

/-- No time has passed, and alarms were set for later only. -/
structure Bides (before after : Agenda) : Prop where
  now_eq : after.now = before.now
  planned : after.planned = before.planned
  alarms : ∀ alarm ∈ after.alarms, alarm ∈ before.alarms ∨ before.now < alarm.due

/-- Whatever is due is due later. -/
def Ahead (agenda : Agenda) : Prop := ∀ due ∈ agenda.next?, agenda.now < due

theorem ahead_iff :
    agenda.Ahead ↔ (∀ alarm ∈ agenda.alarms, agenda.now < alarm.due) ∧
      ∀ entry ∈ agenda.planned, agenda.now < entry.1 := by
  constructor
  · intro ahead
    constructor
    · intro alarm set
      obtain ⟨first, isFirst, early⟩ := exists_next_of_alarm set
      exact Nat.lt_of_lt_of_le (ahead first isFirst) early
    · intro entry there
      obtain ⟨first, isFirst, early⟩ : ∃ first ∈ agenda.next?, first ≤ entry.1 :=
        exists_earliest (.inr (List.mem_append_right _ (List.mem_map_of_mem there)))
      exact Nat.lt_of_lt_of_le (ahead first isFirst) early
  · rintro ⟨alarmed, planned⟩ due next
    rcases mem_of_earliest next with none | member
    · cases none
    · rcases List.mem_append.mp member with set | plan
      · obtain ⟨alarm, there, rfl⟩ := List.mem_map.mp set
        exact alarmed alarm there
      · obtain ⟨entry, there, rfl⟩ := List.mem_map.mp plan
        exact planned entry there

namespace Bides

theorem refl (agenda : Agenda) : Bides agenda agenda := ⟨rfl, rfl, fun _ => .inl⟩

theorem trans (first : Bides before middle) (second : Bides middle after) :
    Bides before after where
  now_eq := second.now_eq.trans first.now_eq
  planned := second.planned.trans first.planned
  alarms := by
    intro alarm set
    rcases second.alarms alarm set with old | later
    · exact first.alarms alarm old
    · exact .inr (first.now_eq ▸ later)

theorem ahead (bides : Bides before after) (ahead : before.Ahead) : after.Ahead := by
  obtain ⟨alarmed, planned⟩ := ahead_iff.mp ahead
  refine ahead_iff.mpr ⟨?_, ?_⟩
  · intro alarm set
    rw [bides.now_eq]
    exact (bides.alarms alarm set).elim (alarmed alarm) id
  · rw [bides.now_eq, bides.planned]
    exact planned

end Bides

section Changes

variable (agenda : Agenda) (actor : Actor)

theorem bides_wakeAll (actors : List Actor) : Bides agenda (agenda.wakeAll actors) := by
  obtain ⟨ready, wokenEq, _⟩ := wakeAll_eq actors agenda
  rw [wokenEq]
  exact ⟨rfl, rfl, fun _ => .inl⟩

theorem bides_wake : Bides agenda (agenda.wake actor) := agenda.bides_wakeAll [actor]

theorem bides_release : Bides agenda (agenda.release actor) :=
  ⟨rfl, rfl, fun _ set => .inl (List.mem_of_mem_filter set)⟩

theorem bides_setAlarm {due : Nat} (later : agenda.now < due) :
    Bides agenda (agenda.setAlarm due actor) := by
  refine ⟨rfl, rfl, fun alarm set => ?_⟩
  rcases List.mem_append.mp set with old | new
  · exact .inl old
  · rw [List.mem_singleton.mp new]
    exact .inr later

theorem bides_setAlarms {alarms : List Nat} (later : ∀ due ∈ alarms, agenda.now < due) :
    Bides agenda (alarms.foldl (fun agenda due => agenda.setAlarm due actor) agenda) := by
  induction alarms generalizing agenda with
  | nil => exact .refl agenda
  | cons due rest ih =>
      have first := agenda.bides_setAlarm actor (later due List.mem_cons_self)
      exact first.trans (ih _ fun other member => later other (List.mem_cons_of_mem _ member))

theorem bides_cancelOne (scope : Nat) : Bides agenda (agenda.cancelOne scope) := by
  unfold cancelOne
  split
  · exact .refl agenda
  · have noted : Bides agenda { agenda with cancelled := scope :: agenda.cancelled } :=
      ⟨rfl, rfl, fun _ => .inl⟩
    exact noted.trans (bides_wakeAll _ _)

theorem bides_cancel (scope : Nat) : Bides agenda (agenda.cancel scope) := by
  have folded : ∀ (scopes : List Nat) (agenda : Agenda),
      Bides agenda (scopes.foldl cancelOne agenda) := by
    intro scopes
    induction scopes with
    | nil => exact .refl
    | cons first rest ih => exact fun agenda => (agenda.bides_cancelOne first).trans (ih _)
  exact folded _ agenda

end Changes

end RiskGate.Schedule.Agenda

namespace RiskGate.Pool.Floor

open Schedule (Actor Agenda Clockwork)
open Schedule.Agenda (Ahead Bides)
open Schedule.Clockwork (endOfTime)

variable {ε τ ρ : Type}

/-! ## Turns take no time -/

section Moves

variable (floor : Floor ε τ ρ)

theorem bides_enqueue (job : Job τ) : Bides floor.agenda (floor.enqueue job).agenda := by
  unfold enqueue
  dsimp only
  split
  · exact .refl _
  · exact Agenda.bides_wake _ .dispatcher

theorem bides_vacate : Bides floor.agenda floor.vacate.agenda := by
  unfold vacate
  split
  · exact .refl _
  · exact Agenda.bides_wake _ _

theorem bides_handOver : Bides floor.agenda floor.handOver.agenda := by
  unfold handOver
  split
  next job queue worker idle _ _ =>
    let taken : Floor ε τ ρ := { floor with queue := queue, idle := idle }
    exact taken.bides_vacate.trans (Agenda.bides_wake _ (.worker worker))
  · exact .refl _

theorem bides_dispatch : Bides floor.agenda floor.dispatch.agenda := by
  refine dispatch_preserves (motive := fun next => Bides floor.agenda next.agenda) (.refl _) ?_ ?_
  · exact fun between _ _ bides => bides.trans between.bides_handOver
  · intro _ _
    have woken : Bides floor.agenda floor.emptied.agenda := Agenda.bides_wakeAll _ _
    have failed : Bides floor.agenda floor.closeQueue.agenda :=
      failAll_preserves (motive := fun next => Bides floor.agenda next.agenda)
        (fun between job bides => bides.trans (between.agenda.bides_wakeAll _)) floor.queue woken
    exact failed.trans (Agenda.bides_wakeAll floor.closeQueue.agenda _)

theorem bides_register (index : Nat) : Bides floor.agenda (floor.register index).agenda := by
  unfold register
  dsimp only
  split
  · exact Agenda.bides_wake _ .dispatcher
  · exact .refl _

theorem bides_complete (index : Nat) (job : Job τ) (outcome : Outcome ρ) :
    Bides floor.agenda (floor.complete index job outcome).agenda := by
  let counted : Floor ε τ ρ :=
    { (floor.onAgenda (·.release (.worker index))).deliver job outcome with
      completed := floor.completed + 1 }
  have told : Bides floor.agenda counted.agenda :=
    (floor.agenda.bides_release (.worker index)).trans (Agenda.bides_wakeAll _ _)
  unfold complete
  dsimp only
  split
  · exact told.trans (Agenda.bides_wakeAll _ _)
  · exact told.trans (counted.bides_register index)

theorem bides_offer (caller : Nat) (job : Job τ) (wait : Span) :
    Bides floor.agenda (floor.offer caller job wait).1.agenda := by
  rcases floor.offer_cases job caller wait with
    ⟨_, offerEq⟩ | ⟨_, _, offerEq⟩ | ⟨_, _, _, offerEq⟩ | ⟨_, _, later, offerEq⟩
  · rw [offerEq]
    exact Agenda.bides_wakeAll _ _
  · rw [offerEq]
    exact bides_enqueue { floor with free := floor.free - 1 } job
  · rw [offerEq]
    exact Agenda.bides_wakeAll _ _
  · rw [offerEq]
    exact Agenda.bides_setAlarm _ _ later

theorem bides_offerAgain (caller : Nat) (job : Job τ) (wait : Span) (due : Nat) :
    Bides floor.agenda (floor.offerAgain caller job wait due).1.agenda := by
  have withdrawn : Bides floor.agenda (floor.withdraw caller).agenda :=
    Agenda.bides_release _ (.caller caller)
  rcases floor.offerAgain_cases job caller wait due with
    ⟨_, offerEq⟩ | ⟨_, _, offerEq⟩ | ⟨_, _, _, offerEq⟩ | ⟨_, _, _, offerEq⟩
  · rw [offerEq]
    exact withdrawn.trans (Agenda.bides_wakeAll _ _)
  · rw [offerEq]
    exact withdrawn.trans (bides_enqueue _ job)
  · rw [offerEq]
    exact withdrawn.trans (Agenda.bides_wakeAll _ _)
  · rw [offerEq]
    exact .refl _

theorem bides_offerNow (job : Job τ) : Bides floor.agenda (floor.offerNow job).1.agenda := by
  unfold offerNow
  split
  · exact Agenda.bides_wakeAll _ _
  · split
    · exact bides_enqueue { floor with free := floor.free - 1 } job
    · exact Agenda.bides_wakeAll _ _

theorem bides_submitWithin (wait : Span) (scope : Nat) (task : τ) :
    Bides floor.agenda (floor.submitWithin wait scope task).1.agenda := by
  have offering := (floor.entered wait scope task).bides_offer floor.callers.length
    (floor.issue scope task).2 wait
  rw [submitWithin_eq]
  rcases offered : (floor.entered wait scope task).offer floor.callers.length
    (floor.issue scope task).2 wait with ⟨next, _ | answer⟩
  · rw [offered] at offering
    exact offering
  · rw [offered] at offering
    exact offering

theorem bides_shutdown (limit : Span) : Bides floor.agenda (floor.shutdown limit).1.agenda := by
  let roused := (floor.agenda.wakeAll (floor.idle.map Actor.worker)).wake .dispatcher
  have woken : Bides floor.agenda roused :=
    (floor.agenda.bides_wakeAll _).trans (Agenda.bides_wake _ _)
  unfold shutdown
  dsimp only
  split
  · exact .refl _
  · split
    · exact woken
    next later =>
      refine woken.trans (Agenda.bides_setAlarm roused _ ?_)
      rw [woken.now_eq]
      exact Nat.lt_of_not_le later

theorem bides_join (caller : Nat) (batch : Batch τ ρ) :
    Bides floor.agenda (floor.join caller batch).agenda := by
  have released : Bides floor.agenda (floor.agenda.release (.caller caller)) :=
    floor.agenda.bides_release (.caller caller)
  rcases floor.join_cases caller batch with ⟨_, joinEq⟩ | ⟨_, _, joinEq⟩ | ⟨_, _, joinEq⟩
  · rw [joinEq]
    exact released
  · rw [joinEq]
    exact released
  · rw [joinEq]
    exact ⟨released.now_eq, released.planned, released.alarms⟩

theorem bides_handIn (caller : Nat) (tasks : List τ) (batch : Batch τ ρ) :
    Bides floor.agenda (floor.handIn caller batch tasks).agenda := by
  induction tasks generalizing batch floor with
  | nil => exact floor.bides_join caller batch
  | cons task rest ih =>
      have offering := (floor.issue batch.scope task).1.bides_offer caller
        (floor.issue batch.scope task).2 batch.wait
      rw [handIn]
      dsimp only
      rcases offered : (floor.issue batch.scope task).1.offer caller
        (floor.issue batch.scope task).2 batch.wait with ⟨next, _ | answer⟩
      · rw [offered] at offering
        exact offering
      · rw [offered] at offering
        exact offering.trans (ih next _)

theorem bides_attend (number : Nat) : Bides floor.agenda (floor.attend number).agenda := by
  unfold attend
  split
  next job wait due _ =>
    have again := floor.bides_offerAgain number job wait due
    unfold offeringTurn
    rcases offered : floor.offerAgain number job wait due with ⟨next, _ | answer⟩
    · rw [offered] at again
      exact again
    · rw [offered] at again
      exact again
  next batch _ =>
    unfold batchTurn
    split
    · exact floor.bides_join number batch
    next job due rest _ =>
      have again := floor.bides_offerAgain number job batch.wait due
      rcases offered : floor.offerAgain number job batch.wait due with ⟨next, _ | answer⟩
      · rw [offered] at again
        exact again
      · rw [offered] at again
        let joining : Batch τ ρ := { batch with stage := .joining }
        let joined : Floor ε τ ρ := next.setCaller number (.batching joining)
        exact again.trans (joined.bides_handIn number rest joining)
  next limit due _ =>
    have released : Bides floor.agenda (floor.agenda.release (.caller number)) :=
      floor.agenda.bides_release (.caller number)
    unfold closingTurn
    dsimp only
    split
    · exact released
    · split
      · exact released
      · exact .refl _
  · exact .refl _

end Moves

section Turns

variable [Trade ε τ ρ] (tame : Tame ε τ ρ) (floor : Floor ε τ ρ)

include tame

theorem bides_run (index : Nat) (job : Job τ) :
    Bides floor.agenda (floor.run index job).agenda := by
  have later := tame.later (.worker index) floor.now job.task
  unfold run
  dsimp only
  rcases resumed : Trade.resume (ρ := ρ) (Actor.worker index) floor.now job.task floor.shared with
    ⟨shared, outcome | ⟨task, alarms⟩⟩
  · exact bides_complete { floor with shared := shared } index job outcome
  · refine Agenda.bides_setAlarms _ _ (later task floor.shared alarms ?_)
    rw [resumed]

theorem bides_work (index : Nat) : Bides floor.agenda (floor.work index).agenda := by
  unfold work
  split
  next job _ =>
    split
    · have delivered : Bides floor.agenda (floor.deliver job (.error .poolShutdown)).agenda :=
        Agenda.bides_wakeAll _ _
      exact delivered.trans (Agenda.bides_wakeAll _ _)
    · split
      · exact floor.bides_complete index job _
      · let watching : Floor ε τ ρ := floor.onAgenda (·.watch job.scope (.worker index))
        have bides : Bides floor.agenda watching.agenda := ⟨rfl, rfl, fun _ => .inl⟩
        exact bides.trans (bides_run tame watching index job)
  next job _ =>
    split
    · unfold giveUp
      dsimp only
      rcases Trade.abandon ρ (Actor.worker index) floor.now job.task floor.shared with
        ⟨shared, woken⟩
      let left : Floor ε τ ρ := { floor with shared := shared }.onAgenda (·.wakeAll woken)
      exact (floor.agenda.bides_wakeAll woken).trans (left.bides_complete index job _)
    · exact bides_run tame floor index job
  · split
    · exact Agenda.bides_wakeAll _ _
    · exact .refl _
  · exact .refl _
  · exact .refl _

/-- In a turn no time passes, and alarms are set for later only. -/
theorem bides_turn (actor : Actor) : Bides floor.agenda (floor.turn actor).agenda := by
  cases actor with
  | dispatcher => exact floor.bides_dispatch
  | worker index => exact bides_work tame floor index
  | caller number => exact floor.bides_attend number
  | guest | timer => exact .refl _

end Turns

/-! ## Within one instant -/

/-- Some turns lead from one state to another in the same instant. -/
structure Dwells [Trade ε τ ρ] (before after : Floor ε τ ρ) : Prop where
  run : ∃ history, Run before history after
  addressed : Addressed before → Addressed after
  bides : Bides before.agenda after.agenda

section Dwelling

variable [Trade ε τ ρ] {before middle after floor : Floor ε τ ρ}

theorem Dwells.refl (floor : Floor ε τ ρ) : Dwells floor floor := ⟨⟨[], .refl⟩, id, .refl _⟩

theorem Dwells.trans (first : Dwells before middle) (second : Dwells middle after) :
    Dwells before after where
  run := by
    obtain ⟨earlier, run⟩ := first.run
    obtain ⟨later, further⟩ := second.run
    exact ⟨earlier ++ later, run.trans further⟩
  addressed := second.addressed ∘ first.addressed
  bides := first.bides.trans second.bides

/-- A turn of an actor who is ready. -/
theorem dwells_turn (tame : Tame ε τ ρ) {actor : Actor} (ready : actor ∈ floor.agenda.ready) :
    Dwells floor (floor.after (.turn actor)) where
  run := ⟨_, .single (.turn actor) ready⟩
  addressed addressed := addressed.after (.turn actor)
  bides := by
    have unready : Bides floor.agenda (floor.unready actor).agenda := ⟨rfl, rfl, fun _ => .inl⟩
    exact unready.trans (bides_turn tame _ actor)

/-- Any number of turns, whatever their order. -/
theorem dwells_steps (tame : Tame ε τ ρ) {next : Floor ε τ ρ → Option (Floor ε τ ρ)}
    (turns : Clockwork.TakesTurns next) (count : Nat) :
    Dwells floor (Clockwork.steps next count floor) :=
  turns.steps_keep (fun _ _ ready dwells => dwells.trans (dwells_turn tame ready)) count (.refl _)

end Dwelling

/-! ## What is due lies ahead -/

/-- Cancellations are planned for later only, and so are the alarms of actors outside the
pool. -/
def Foreseen (event : Event ε τ) (floor : Floor ε τ ρ) : Prop :=
  match event with
  | .plan due _ => floor.now < due
  | .rearrange agenda => agenda.Ahead
  | .submit .. | .submitWithin .. | .executeBatch .. | .shutdown _ | .openScope | .openChild _
  | .cancel _ | .disturb .. | .turn _ | .pass _ => True

/-- Whatever happens, what is due lies ahead. -/
theorem ahead_after [Trade ε τ ρ] (tame : Tame ε τ ρ) {floor : Floor ε τ ρ} {event : Event ε τ}
    (foreseen : floor.Foreseen event) (ahead : floor.agenda.Ahead) :
    (floor.after event).agenda.Ahead := by
  cases event with
  | submit scope task => exact ((floor.issue scope task).1.bides_offerNow _).ahead ahead
  | submitWithin wait scope task => exact (floor.bides_submitWithin wait scope task).ahead ahead
  | executeBatch wait scope tasks =>
      let batch : Batch τ ρ := { scope := scope, wait := wait }
      exact ((floor.enter (.batching batch)).1.bides_handIn _ tasks batch).ahead ahead
  | shutdown limit => exact (floor.bides_shutdown limit).ahead ahead
  | openScope =>
      have opened : Bides floor.agenda floor.agenda.openScope.1 := ⟨rfl, rfl, fun _ => .inl⟩
      exact opened.ahead ahead
  | openChild parent =>
      have opened : Bides floor.agenda (floor.agenda.openChild parent).1 :=
        ⟨rfl, rfl, fun _ => .inl⟩
      exact opened.ahead ahead
  | cancel scope => exact (floor.agenda.bides_cancel scope).ahead ahead
  | plan due scope =>
      obtain ⟨alarmed, planned⟩ := Agenda.ahead_iff.mp ahead
      refine Agenda.ahead_iff.mpr ⟨alarmed, fun entry there => ?_⟩
      rcases List.mem_append.mp there with old | new
      · exact planned entry old
      · rw [List.mem_singleton.mp new]
        exact foreseen
  | disturb shared woken => exact (floor.agenda.bides_wakeAll woken).ahead ahead
  | rearrange agenda => exact foreseen
  | turn actor =>
      have unready : Bides floor.agenda (floor.unready actor).agenda := ⟨rfl, rfl, fun _ => .inl⟩
      exact (unready.trans (bides_turn tame _ actor)).ahead ahead
  | pass instant => exact fun _ next => Agenda.now_lt_next_moveTo next

/-! ## At rest -/

/-- Nobody is ready, and whatever is due is due later. -/
structure Resting (floor : Floor ε τ ρ) : Prop where
  addressed : Addressed floor
  quiet : floor.agenda.ready = []
  ahead : floor.agenda.Ahead

/-- A new pool is at rest. -/
theorem Resting.make (workers capacity : Nat) (shared : ε) :
    Resting (Floor.make workers capacity shared : Floor ε τ ρ) :=
  ⟨.make workers capacity shared, rfl, nofun⟩

section Passing

variable [Trade ε τ ρ] {floor : Floor ε τ ρ}

/-- The pool settles where it is, whatever the order of turns. -/
theorem Addressed.resting_settle (tame : Tame ε τ ρ) {next : Floor ε τ ρ → Option (Floor ε τ ρ)}
    (turns : Clockwork.TakesTurns next) (addressed : Addressed floor)
    (ahead : floor.agenda.Ahead) : Resting (Clockwork.steps next floor.effort floor) := by
  obtain ⟨settled, quiet⟩ := addressed.settled tame turns
  exact ⟨settled, quiet, (dwells_steps tame turns floor.effort).bides.ahead ahead⟩

/-- A way to move the clock of a pool at rest, so that the pool is at rest again.  It makes a run
unless it skips something. -/
structure Jumps (jump : Nat → Floor ε τ ρ → Floor ε τ ρ) : Prop where
  resting : ∀ {floor instant}, Resting floor → Resting (jump instant floor)
  now_eq : ∀ {floor instant}, Resting floor → (jump instant floor).now = max floor.now instant
  run : ∀ {floor instant}, Resting floor → floor.now ≤ instant →
    (∀ due ∈ floor.agenda.next?, instant ≤ max floor.now due) →
      ∃ history, Run floor history (jump instant floor)

/-- The clock is moved, some turns are taken, and then the pool settles in any order. -/
theorem Jumps.of_dwells (tame : Tame ε τ ρ) {next : Floor ε τ ρ → Option (Floor ε τ ρ)}
    (turns : Clockwork.TakesTurns next) {jump : Nat → Floor ε τ ρ → Floor ε τ ρ}
    (jumps : ∀ (instant : Nat) (floor : Floor ε τ ρ), ∃ begun,
      Dwells (floor.after (.pass instant)) begun ∧
        jump instant floor = Clockwork.steps next begun.effort begun) : Jumps jump where
  resting := by
    intro floor instant resting
    obtain ⟨begun, dwells, jumpEq⟩ := jumps instant floor
    have moved : (floor.after (.pass instant)).agenda.Ahead :=
      fun _ next => Agenda.now_lt_next_moveTo next
    have addressed := dwells.addressed (resting.addressed.after (.pass instant))
    rw [jumpEq]
    exact addressed.resting_settle tame turns (dwells.bides.ahead moved)
  now_eq := by
    intro floor instant _
    obtain ⟨begun, dwells, jumpEq⟩ := jumps instant floor
    have settled := dwells.trans (dwells_steps tame turns begun.effort)
    rw [jumpEq]
    exact settled.bides.now_eq.trans (Agenda.moveTo_eq instant floor.agenda).1
  run := by
    intro floor instant resting forward skipsNothing
    obtain ⟨begun, dwells, jumpEq⟩ := jumps instant floor
    have passed : Run floor [] (floor.after (.pass instant)) :=
      .single (.pass instant) ⟨resting.quiet, forward, skipsNothing⟩
    obtain ⟨history, settled⟩ := (dwells.trans (dwells_steps tame turns begun.effort)).run
    rw [jumpEq]
    exact ⟨history, passed.trans settled⟩

theorem moveClock_eq (instant : Nat) (floor : Floor ε τ ρ) :
    Clockwork.moveClock instant floor = floor.after (.pass instant) := rfl

theorem jumps_jump (tame : Tame ε τ ρ) : Jumps (Clockwork.jump : Nat → Floor ε τ ρ → _) := by
  refine .of_dwells tame Clockwork.takesTurns_step fun instant floor => ?_
  refine ⟨floor.after (.pass instant), .refl _, ?_⟩
  rw [Clockwork.jump, Clockwork.settle, moveClock_eq]
  rfl

theorem jumps_hostedJump (tame : Tame ε τ ρ) (host : Actor) :
    Jumps (Clockwork.hostedJump host : Nat → Floor ε τ ρ → _) := by
  refine .of_dwells tame (Clockwork.takesTurns_hostedStep host) fun instant floor => ?_
  rw [Clockwork.hostedJump, moveClock_eq]
  split
  next ready => exact ⟨_, dwells_turn tame ready, rfl⟩
  next => exact ⟨_, .refl _, rfl⟩

namespace Resting

/-- Going from one due instant to the next is a run.  As each jump moves the clock, they go on
until the condition holds or until nothing is due up to the last instant. -/
theorem jumps {jump : Nat → Floor ε τ ρ → Floor ε τ ρ} (moves : Jumps jump)
    (stop : Floor ε τ ρ → Bool) {last count : Nat} (resting : Resting floor)
    (enough : last ≤ floor.now + count) :
    (∃ history, Run floor history (Clockwork.jumps jump stop last count floor)) ∧
      Resting (Clockwork.jumps jump stop last count floor) ∧
      (Clockwork.jumps jump stop last count floor).now ≤ max floor.now last ∧
      (stop (Clockwork.jumps jump stop last count floor) = true ∨
        ∀ due ∈ (Clockwork.jumps jump stop last count floor).agenda.next?, last < due) := by
  induction count generalizing floor with
  | zero =>
      refine ⟨⟨[], .refl⟩, resting, Nat.le_max_left _ _, .inr fun due next => ?_⟩
      exact Nat.lt_of_le_of_lt enough (resting.ahead due next)
  | succ count ih =>
      rw [Clockwork.jumps]
      split
      next stops => exact ⟨⟨[], .refl⟩, resting, Nat.le_max_left _ _, .inl stops⟩
      · split
        next idle =>
          have nothing : floor.agenda.next? = none := idle
          refine ⟨⟨[], .refl⟩, resting, Nat.le_max_left _ _, .inr ?_⟩
          rw [nothing]
          exact nofun
        next due found =>
          have next : floor.agenda.next? = some due := found
          split
          next soon =>
            have forward : floor.now < due := resting.ahead due next
            have skipsNothing : ∀ other ∈ floor.agenda.next?, due ≤ max floor.now other := by
              intro other isNext
              cases next.symm.trans isNext
              exact Nat.le_max_right _ _
            obtain ⟨first, jumped⟩ := moves.run resting (Nat.le_of_lt forward) skipsNothing
            have now_eq : (jump due floor).now = max floor.now due := moves.now_eq resting
            have rests : Resting (jump due floor) := moves.resting resting
            obtain ⟨⟨second, jumpedOn⟩, restsOn, early, ended⟩ := ih rests (by omega)
            exact ⟨⟨first ++ second, jumped.trans jumpedOn⟩, restsOn, by omega, ended⟩
          next late =>
            refine ⟨⟨[], .refl⟩, resting, Nat.le_max_left _ _, .inr fun other isNext => ?_⟩
            cases next.symm.trans isNext
            exact Nat.lt_of_not_le late

/-- Letting time pass is a run that takes exactly that time, and the pool is at rest again
afterwards. -/
theorem advance (tame : Tame ε τ ρ) (resting : Resting floor) (millis : Nat) :
    (∃ history, Run floor history (Clockwork.advance millis floor)) ∧
      Resting (Clockwork.advance millis floor) ∧
      (Clockwork.advance millis floor).now = floor.now + millis := by
  let last := floor.now + millis
  let jumped := Clockwork.jumps Clockwork.jump (fun _ => false) last (millis + 1) floor
  have moves : Jumps (Clockwork.jump : Nat → Floor ε τ ρ → _) := jumps_jump tame
  obtain ⟨⟨first, earlier⟩, rests, before, stopped | later⟩ :=
    resting.jumps moves (fun _ => false) (Nat.add_le_add_left (Nat.le_succ millis) floor.now)
  · cases stopped
  · have early : jumped.now ≤ last :=
      Nat.le_trans before (Nat.max_le.mpr ⟨Nat.le_add_right _ _, Nat.le_refl _⟩)
    have skipsNothing : ∀ due ∈ jumped.agenda.next?, last ≤ max jumped.now due :=
      fun due next => Nat.le_trans (Nat.le_of_lt (later due next)) (Nat.le_max_right _ _)
    obtain ⟨second, ending⟩ := moves.run rests early skipsNothing
    have now_eq : (Clockwork.advance millis floor).now = max jumped.now last := moves.now_eq rests
    exact ⟨⟨first ++ second, earlier.trans ending⟩, moves.resting rests,
      now_eq.trans (Nat.max_eq_right early)⟩

/-- Waiting is a run, with a host or without.  It ends when the condition holds, or when nothing
more is due before the end of time. -/
theorem await {jump : Nat → Floor ε τ ρ → Floor ε τ ρ} (moves : Jumps jump)
    (stop : Floor ε τ ρ → Bool) (resting : Resting floor) :
    (∃ history, Run floor history (Clockwork.jumps jump stop endOfTime endOfTime floor)) ∧
      Resting (Clockwork.jumps jump stop endOfTime endOfTime floor) ∧
      (stop (Clockwork.jumps jump stop endOfTime endOfTime floor) = true ∨
        ∀ due ∈ (Clockwork.jumps jump stop endOfTime endOfTime floor).agenda.next?,
          endOfTime < due) := by
  obtain ⟨run, rests, _, ended⟩ :=
    resting.jumps moves stop (Nat.le_add_left endOfTime floor.now)
  exact ⟨run, rests, ended⟩

end Resting

/-! ## Pools in use -/

/-- A pool as it is used: calls and other events happen to a new one, the clockwork settles it,
and time passes while nobody is ready. -/
inductive InUse : Floor ε τ ρ → Prop where
  | make (workers capacity : Nat) (shared : ε) : InUse (Floor.make workers capacity shared)
  | happen {floor : Floor ε τ ρ} (event : Event ε τ) :
      InUse floor → floor.Allowed event → floor.Foreseen event → InUse (floor.after event)
  | settle {floor : Floor ε τ ρ} : InUse floor → InUse (Clockwork.settle floor)
  | advance {floor : Floor ε τ ρ} (millis : Nat) :
      InUse floor → floor.agenda.ready = [] → InUse (Clockwork.advance millis floor)
  | await {floor : Floor ε τ ρ} (stop : Floor ε τ ρ → Bool) :
      InUse floor → floor.agenda.ready = [] → InUse (Clockwork.await stop floor)
  | hostedAwait {floor : Floor ε τ ρ} (host : Actor) (stop : Floor ε τ ρ → Bool) :
      InUse floor → InUse (Clockwork.hostedAwait host stop floor)

namespace InUse

/-- A pool in use is reached by a run, so that what holds of all runs holds of it. -/
theorem arises_and_ahead (tame : Tame ε τ ρ) (inUse : InUse floor) :
    (∃ history, Arises history floor) ∧ floor.agenda.Ahead := by
  induction inUse with
  | make workers capacity shared => exact ⟨⟨[], workers, capacity, shared, .refl⟩, nofun⟩
  | happen event _ allowed foreseen ih =>
      obtain ⟨⟨history, arises⟩, ahead⟩ := ih
      exact ⟨⟨_, arises.trans (.single event allowed)⟩, ahead_after tame foreseen ahead⟩
  | @settle floor _ ih =>
      obtain ⟨⟨history, arises⟩, ahead⟩ := ih
      have dwells : Dwells floor (Clockwork.settle floor) :=
        dwells_steps tame Clockwork.takesTurns_step _
      obtain ⟨later, settled⟩ := dwells.run
      exact ⟨⟨_, arises.trans settled⟩, dwells.bides.ahead ahead⟩
  | advance millis _ quiet ih =>
      obtain ⟨⟨history, arises⟩, ahead⟩ := ih
      obtain ⟨⟨later, advanced⟩, rests, _⟩ :=
        Resting.advance tame ⟨arises.addressed, quiet, ahead⟩ millis
      exact ⟨⟨_, arises.trans advanced⟩, rests.ahead⟩
  | await stop _ quiet ih =>
      obtain ⟨⟨history, arises⟩, ahead⟩ := ih
      obtain ⟨⟨later, awaited⟩, rests, _⟩ :=
        Resting.await (jumps_jump tame) stop ⟨arises.addressed, quiet, ahead⟩
      exact ⟨⟨_, arises.trans awaited⟩, rests.ahead⟩
  | @hostedAwait floor host stop _ ih =>
      obtain ⟨⟨history, arises⟩, ahead⟩ := ih
      have turns : Clockwork.TakesTurns (Clockwork.hostedStep host : Floor ε τ ρ → _) :=
        Clockwork.takesTurns_hostedStep host
      obtain ⟨first, settled⟩ := Run.steps turns floor.effort floor
      obtain ⟨⟨second, awaited⟩, rests, _⟩ :=
        Resting.await (jumps_hostedJump tame host) stop
          (arises.addressed.resting_settle tame turns ahead)
      exact ⟨⟨_, (arises.trans settled).trans awaited⟩, rests.ahead⟩

/-- Whenever the clockwork has settled a pool in use, the pool is at rest. -/
theorem resting_settle (tame : Tame ε τ ρ) (inUse : InUse floor) :
    Resting (Clockwork.settle floor) := by
  obtain ⟨⟨history, arises⟩, ahead⟩ := inUse.arises_and_ahead tame
  exact arises.addressed.resting_settle tame Clockwork.takesTurns_step ahead

end InUse

end Passing

end RiskGate.Pool.Floor
