import RiskGate.Pool.Calls

/-!
# Pools seen through a view

The tasks of a pool share things that the pool itself never looks at: it hands them to a task
that is resumed or given up, and keeps what the task leaves behind.  So if tasks do not notice
when the things they share are seen through a view, the pool does not notice either.  Every
move of the pool commutes with the view.
-/

namespace RiskGate.Pool

open Schedule (Actor Agenda Clockwork)

variable {ε ε' τ ρ : Type}

/-- Tasks do the same when the things they share are seen through a view. -/
structure Respects (τ ρ : Type) [Trade ε τ ρ] [Trade ε' τ ρ] (view : ε → ε') : Prop where
  resume : ∀ (runner : Actor) (now : Nat) (task : τ) (shared : ε),
    Trade.resume (ρ := ρ) runner now task (view shared) =
      (Trade.resume (ρ := ρ) runner now task shared).map view id
  abandon : ∀ (runner : Actor) (now : Nat) (task : τ) (shared : ε),
    Trade.abandon ρ runner now task (view shared) =
      (Trade.abandon ρ runner now task shared).map view id

namespace Floor

/-- The pool, with the things its tasks share seen through a view. -/
def through (view : ε → ε') (floor : Floor ε τ ρ) : Floor ε' τ ρ :=
  { floor with shared := view floor.shared }

section Views

variable (view : ε → ε') (floor : Floor ε τ ρ)

@[simp] theorem through_shared : (floor.through view).shared = view floor.shared := rfl
@[simp] theorem through_queue : (floor.through view).queue = floor.queue := rfl
@[simp] theorem through_waiting : (floor.through view).waiting = floor.waiting := rfl
@[simp] theorem through_idle : (floor.through view).idle = floor.idle := rfl
@[simp] theorem through_desks : (floor.through view).desks = floor.desks := rfl
@[simp] theorem through_callers : (floor.through view).callers = floor.callers := rfl
@[simp] theorem through_now : (floor.through view).now = floor.now := rfl

/-! ## The queue -/

theorem through_onAgenda (change : Agenda → Agenda) :
    (floor.through view).onAgenda change = (floor.onAgenda change).through view := rfl

theorem through_enqueue (job : Job τ) :
    (floor.through view).enqueue job = (floor.enqueue job).through view := by
  simp only [enqueue, apply_ite (through view)]
  rfl

theorem through_takePlace (job : Job τ) :
    (floor.through view).takePlace job = (floor.takePlace job).through view :=
  through_enqueue view { floor with free := floor.free - 1 } job

theorem through_vacate : (floor.through view).vacate = floor.vacate.through view := by
  unfold vacate
  rw [through_waiting]
  cases floor.waiting <;> rfl

theorem through_offer (caller : Nat) (job : Job τ) (wait : Span) :
    (floor.through view).offer caller job wait =
      (floor.offer caller job wait).map (through view) id := by
  simp only [offer, through_takePlace, apply_ite (Prod.map (through view) id)]
  rfl

theorem through_offerAgain (caller : Nat) (job : Job τ) (wait : Span) (due : Nat) :
    (floor.through view).offerAgain caller job wait due =
      (floor.offerAgain caller job wait due).map (through view) id := by
  have withdrawn : (floor.through view).withdraw caller =
      (floor.withdraw caller).through view := rfl
  simp only [offerAgain, withdrawn, through_enqueue, apply_ite (Prod.map (through view) id)]
  rfl

/-! ## Callers -/

theorem through_offeringTurn (caller : Nat) (job : Job τ) (wait : Span) (due : Nat) :
    (floor.through view).offeringTurn caller job wait due =
      (floor.offeringTurn caller job wait due).through view := by
  unfold offeringTurn
  rw [through_offerAgain]
  rcases floor.offerAgain caller job wait due with ⟨next, _ | answer⟩ <;> rfl

theorem through_join (caller : Nat) (batch : Batch τ ρ) :
    (floor.through view).join caller batch = (floor.join caller batch).through view := by
  simp only [join, apply_ite (through view)]
  rfl

theorem through_handIn (caller : Nat) (batch : Batch τ ρ) (tasks : List τ) :
    (floor.through view).handIn caller batch tasks =
      (floor.handIn caller batch tasks).through view := by
  induction tasks generalizing floor batch with
  | nil => exact floor.through_join view caller batch
  | cons task rest ih =>
      have issued : (floor.through view).issue batch.scope task =
          (floor.issue batch.scope task).map (through view) id := rfl
      simp only [handIn, issued, Prod.map_fst, Prod.map_snd, id_eq, through_offer]
      rcases (floor.issue batch.scope task).1.offer caller (floor.issue batch.scope task).2
        batch.wait with ⟨next, _ | answer⟩
      · rfl
      · exact ih next _

theorem through_executeBatch (wait : Span) (scope : Nat) (tasks : List τ) :
    (floor.through view).executeBatch wait scope tasks =
      (floor.executeBatch wait scope tasks).map (through view) id := by
  let batch : Batch τ ρ := { scope := scope, wait := wait }
  exact Prod.ext (through_handIn view (floor.enter (.batching batch)).1 _ batch tasks) rfl

theorem through_batchTurn (caller : Nat) (batch : Batch τ ρ) :
    (floor.through view).batchTurn caller batch =
      (floor.batchTurn caller batch).through view := by
  unfold batchTurn
  split
  · exact floor.through_join view caller batch
  next job due rest _ =>
    rw [through_offerAgain]
    rcases floor.offerAgain caller job batch.wait due with ⟨next, _ | answer⟩
    · rfl
    · exact through_handIn view (next.setCaller caller _) caller _ rest

theorem through_shutdown (limit : Span) :
    (floor.through view).shutdown limit =
      (floor.shutdown limit).map (through view) id := by
  simp only [shutdown, apply_ite (Prod.map (through view) id)]
  rfl

theorem through_closingTurn (caller : Nat) (limit : Span) (due : Nat) :
    (floor.through view).closingTurn caller limit due =
      (floor.closingTurn caller limit due).through view := by
  simp only [closingTurn, apply_ite (through view)]
  rfl

theorem through_attend (caller : Nat) :
    (floor.through view).attend caller = (floor.attend caller).through view := by
  unfold attend
  rw [through_callers]
  split
  · exact floor.through_offeringTurn view _ _ _ _
  · exact floor.through_batchTurn view _ _
  · exact floor.through_closingTurn view _ _ _
  · rfl

/-! ## The dispatcher -/

theorem through_handOver : (floor.through view).handOver = floor.handOver.through view := by
  simp only [handOver, through_queue, through_idle]
  split
  next job queue worker idle _ _ =>
    let taken : Floor ε τ ρ := { floor with queue := queue, idle := idle }
    have vacated : (taken.through view).vacate = taken.vacate.through view :=
      taken.through_vacate view
    exact congrArg (fun floor => (floor.setDesk worker (.handed job)).wake (.worker worker)) vacated
  · rfl

theorem through_repeat_handOver (count : Nat) :
    Nat.repeat handOver count (floor.through view) =
      (Nat.repeat handOver count floor).through view := by
  induction count with
  | zero => rfl
  | succ count ih => rw [Nat.repeat, ih, through_handOver, Nat.repeat]

theorem through_failAll (jobs : List (Job τ)) :
    failAll jobs (floor.through view) = (failAll jobs floor).through view := by
  induction jobs generalizing floor with
  | nil => rfl
  | cons job rest ih => exact ih (floor.deliver job _)

theorem through_dispatch : (floor.through view).dispatch = floor.dispatch.through view := by
  let woken := floor.onAgenda (·.wakeAll (floor.waiting.map Actor.caller))
  let emptied : Floor ε τ ρ :=
    { woken with queue := [], free := floor.free + floor.queue.length, dispatching := false }
  have closed : (floor.through view).closeQueue = floor.closeQueue.through view :=
    emptied.through_failAll view floor.queue
  simp only [dispatch, closed, through_repeat_handOver, apply_ite (through view)]
  rfl

/-! ## Workers -/

theorem through_register (index : Nat) :
    (floor.through view).register index = (floor.register index).through view := by
  simp only [register, apply_ite (through view)]
  rfl

theorem through_complete (index : Nat) (job : Job τ) (outcome : Outcome ρ) :
    (floor.through view).complete index job outcome =
      (floor.complete index job outcome).through view := by
  let delivered := (floor.onAgenda (·.release (.worker index))).deliver job outcome
  let counted : Floor ε τ ρ := { delivered with completed := delivered.completed + 1 }
  change (if counted.shut then (counted.through view).stop index
    else (counted.through view).register index) =
      (if counted.shut then counted.stop index else counted.register index).through view
  rw [through_register, apply_ite (through view)]
  rfl

end Views

section Trades

variable [Trade ε τ ρ] [Trade ε' τ ρ] {view : ε → ε'} (respects : Respects τ ρ view)
  (floor : Floor ε τ ρ)

include respects

theorem through_run (index : Nat) (job : Job τ) :
    (floor.through view).run index job = (floor.run index job).through view := by
  simp only [run, through_now, through_shared, respects.resume]
  rcases Trade.resume (ρ := ρ) (Actor.worker index) floor.now job.task floor.shared with
    ⟨shared, outcome | ⟨task, alarms⟩⟩
  · exact through_complete view { floor with shared := shared } index job outcome
  · rfl

theorem through_giveUp (index : Nat) (job : Job τ) :
    (floor.through view).giveUp index job = (floor.giveUp index job).through view := by
  simp only [giveUp, through_now, through_shared, respects.abandon]
  rcases Trade.abandon ρ (Actor.worker index) floor.now job.task floor.shared with ⟨shared, woken⟩
  let left : Floor ε τ ρ := { floor with shared := shared }.onAgenda (·.wakeAll woken)
  exact left.through_complete view index job _

theorem through_work (index : Nat) :
    (floor.through view).work index = (floor.work index).through view := by
  unfold work
  rw [through_desks]
  rcases floor.desks[index]? with _ | desk
  · rfl
  · cases desk with
    | handed job =>
        simp only [through_complete, through_onAgenda, through_run respects,
          apply_ite (through view)]
        rfl
    | busy job =>
        simp only [through_giveUp respects, through_run respects, apply_ite (through view)]
        rfl
    | idle =>
        simp only [apply_ite (through view)]
        rfl
    | gone => rfl

theorem through_turn (actor : Actor) :
    (floor.through view).turn actor = (floor.turn actor).through view := by
  cases actor with
  | dispatcher => exact floor.through_dispatch view
  | worker index => exact floor.through_work respects index
  | caller caller => exact floor.through_attend view caller
  | guest | timer => rfl

end Trades

end Floor

end RiskGate.Pool
