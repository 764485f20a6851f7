import RiskGate.Proofs.Pool.Desks
import RiskGate.Proofs.Pool.Delivery

/-!
# Workers heed the scopes of their jobs

A worker who has begun a job watches the scope of the job, and is ready to take its turn
once the scope is cancelled.  The turns of others keep it so: nobody but the worker itself
makes it forget what it watches, and no turn opens or cancels a scope.

Who is ready has not begun to rest, so when nobody is ready no job is run whose scope is
cancelled.
-/

namespace RiskGate.Pool

open Schedule (Actor Agenda Clockwork)

variable {ε τ ρ : Type}

/-- The event is about scopes, or lets time pass. -/
def Event.isOfScopes : Event ε τ → Bool
  | .openScope | .openChild _ | .cancel _ | .plan .. | .pass _ => true
  | _ => false

namespace Floor

/-! ## What a worker can rely on while others act -/

/-- No scope changes, a worker loses nothing, and a pool that is shut down stays so. -/
abbrev Leaves (index : Nat) (before after : Floor ε τ ρ) : Prop :=
  Agenda.Leaves (.worker index) before.agenda after.agenda ∧
    (before.shut = true → after.shut = true)

section Moves

variable {index : Nat} (floor : Floor ε τ ρ)

theorem Leaves.refl : Leaves index floor floor := ⟨.refl _ _, id⟩

variable {floor} in
theorem Leaves.trans {middle after : Floor ε τ ρ} (first : Leaves index floor middle)
    (second : Leaves index middle after) : Leaves index floor after :=
  ⟨first.1.trans second.1, fun shut => second.2 (first.2 shut)⟩

theorem leaves_onAgenda {change : Agenda → Agenda}
    (leaves : Agenda.Leaves (.worker index) floor.agenda (change floor.agenda)) :
    Leaves index floor (floor.onAgenda change) :=
  ⟨leaves, id⟩

theorem leaves_wakeClosers : Leaves index floor floor.wakeClosers :=
  ⟨Agenda.leaves_wakeAll _ _ _, id⟩

theorem leaves_deliver (job : Job τ) (outcome : Outcome ρ) :
    Leaves index floor (floor.deliver job outcome) :=
  ⟨Agenda.leaves_wakeAll _ _ _, id⟩

theorem leaves_reject (job : Job τ) (failure : Failure) :
    Leaves index floor (floor.reject job failure) :=
  ⟨Agenda.leaves_wakeAll _ _ _, id⟩

theorem leaves_enqueue (job : Job τ) : Leaves index floor (floor.enqueue job) := by
  unfold enqueue
  dsimp only
  split
  · exact ⟨.refl _ _, id⟩
  · exact ⟨Agenda.leaves_wake _ _ .dispatcher, id⟩

theorem leaves_vacate : Leaves index floor floor.vacate := by
  unfold vacate
  split
  · exact ⟨.refl _ _, id⟩
  · exact ⟨Agenda.leaves_wake _ _ _, id⟩

theorem leaves_release (caller : Nat) :
    Leaves index floor (floor.onAgenda (·.release (.caller caller))) :=
  floor.leaves_onAgenda (Agenda.leaves_release _ _ nofun)

/-! ## Callers -/

theorem leaves_offerNow (job : Job τ) : Leaves index floor (floor.offerNow job).1 := by
  unfold offerNow
  split
  · exact floor.leaves_reject job _
  · split
    · exact leaves_enqueue { floor with free := floor.free - 1 } job
    · exact floor.leaves_reject job _

theorem leaves_offer (job : Job τ) (caller : Nat) (wait : Span) :
    Leaves index floor (floor.offer caller job wait).1 := by
  rcases floor.offer_cases job caller wait with
    ⟨_, offerEq⟩ | ⟨_, _, offerEq⟩ | ⟨_, _, _, offerEq⟩ | ⟨_, _, _, offerEq⟩
  · rw [offerEq]
    exact floor.leaves_reject job _
  · rw [offerEq]
    exact leaves_enqueue { floor with free := floor.free - 1 } job
  · rw [offerEq]
    exact floor.leaves_reject job _
  · rw [offerEq]
    exact ⟨Agenda.leaves_setAlarms _ _ [floor.agenda.dueAfter wait] _, id⟩

theorem leaves_offerAgain (job : Job τ) (caller : Nat) (wait : Span) (due : Nat) :
    Leaves index floor (floor.offerAgain caller job wait due).1 := by
  have withdrawn : Leaves index floor (floor.withdraw caller) :=
    floor.leaves_release caller
  rcases floor.offerAgain_cases job caller wait due with
    ⟨_, offerEq⟩ | ⟨_, _, offerEq⟩ | ⟨_, _, _, offerEq⟩ | ⟨_, _, _, offerEq⟩
  · rw [offerEq]
    exact withdrawn.trans (leaves_reject (floor.withdraw caller) job .poolShutdown)
  · rw [offerEq]
    exact withdrawn.trans (leaves_enqueue _ job)
  · rw [offerEq]
    exact withdrawn.trans (leaves_reject _ job _)
  · rw [offerEq]
    exact .refl floor

theorem leaves_join (caller : Nat) (batch : Batch τ ρ) :
    Leaves index floor (floor.join caller batch) := by
  have released : Leaves index floor (floor.onAgenda (·.release (.caller caller))) :=
    floor.leaves_release caller
  rcases floor.join_cases caller batch with ⟨_, joinEq⟩ | ⟨_, _, joinEq⟩ | ⟨_, _, joinEq⟩
  · rw [joinEq]
    exact released
  · rw [joinEq]
    exact released
  · rw [joinEq]
    exact ⟨released.1.trans (Agenda.leaves_watch _ _ _ _), released.2⟩

theorem leaves_handIn (caller : Nat) (tasks : List τ) (batch : Batch τ ρ) (floor : Floor ε τ ρ) :
    Leaves index floor (floor.handIn caller batch tasks) := by
  induction tasks generalizing batch floor with
  | nil => exact floor.leaves_join caller batch
  | cons task rest ih =>
      have offered : Leaves index floor ((floor.issue batch.scope task).1.offer caller
          (floor.issue batch.scope task).2 batch.wait).1 :=
        leaves_offer (floor.issue batch.scope task).1 _ caller batch.wait
      rw [handIn]
      dsimp only
      split
      next next answer offerEq =>
        rw [offerEq] at offered
        exact offered.trans (ih _ next)
      next next offerEq =>
        rw [offerEq] at offered
        exact offered

theorem leaves_batchTurn (caller : Nat) (batch : Batch τ ρ) :
    Leaves index floor (floor.batchTurn caller batch) := by
  unfold batchTurn
  split
  · exact floor.leaves_join caller batch
  next job due rest _ =>
    have offered : Leaves index floor (floor.offerAgain caller job batch.wait due).1 :=
      floor.leaves_offerAgain job caller batch.wait due
    split
    next next answer offerEq =>
      rw [offerEq] at offered
      let going : Batch τ ρ := { batch with stage := .joining }
      have handed : Leaves index next
          ((next.setCaller caller (.batching going)).handIn caller going rest) :=
        leaves_handIn caller rest going (next.setCaller caller (.batching going))
      exact offered.trans handed
    next next offerEq =>
      rw [offerEq] at offered
      exact offered

theorem leaves_attend (caller : Nat) : Leaves index floor (floor.attend caller) := by
  unfold attend
  split
  next job wait due _ =>
    have offered : Leaves index floor (floor.offerAgain caller job wait due).1 :=
      floor.leaves_offerAgain job caller wait due
    unfold offeringTurn
    split
    next next answer offerEq =>
      rw [offerEq] at offered
      exact offered
    next next offerEq =>
      rw [offerEq] at offered
      exact offered
  · exact floor.leaves_batchTurn caller _
  · have released : Leaves index floor (floor.onAgenda (·.release (.caller caller))) :=
      floor.leaves_release caller
    unfold closingTurn
    dsimp only
    split
    · exact released
    · split
      · exact released
      · exact .refl floor
  · exact .refl floor

theorem leaves_submitWithin (wait : Span) (scope : Nat) (task : τ) :
    Leaves index floor (floor.submitWithin wait scope task).1 := by
  have offered : Leaves index floor ((floor.entered wait scope task).offer floor.callers.length
      (floor.issue scope task).2 wait).1 := leaves_offer (floor.entered wait scope task) _ _ wait
  rw [submitWithin_eq]
  split
  next next answer offerEq =>
    rw [offerEq] at offered
    exact offered
  next next offerEq =>
    rw [offerEq] at offered
    exact offered

theorem leaves_shutdown (limit : Span) : Leaves index floor (floor.shutdown limit).1 := by
  have shutting : Leaves index floor floor.shutting :=
    ⟨(Agenda.leaves_wakeAll _ _ _).trans (Agenda.leaves_wake _ _ _), fun _ => rfl⟩
  rcases floor.shutdown_cases limit with ⟨_, shutEq⟩ | ⟨_, _, shutEq⟩ | ⟨_, _, shutEq⟩
  · rw [shutEq]
    exact .refl floor
  · rw [shutEq]
    exact shutting
  · rw [shutEq]
    exact ⟨shutting.1.trans (Agenda.leaves_setAlarms _ _ [floor.agenda.dueAfter limit] _),
      shutting.2⟩

/-! ## The dispatcher -/

theorem leaves_handOver : Leaves index floor floor.handOver := by
  unfold handOver
  split
  next job queue worker idle _ _ =>
    let taken : Floor ε τ ρ := { floor with queue := queue, idle := idle }
    have vacated : Leaves index taken taken.vacate := taken.leaves_vacate
    exact ⟨vacated.1.trans (Agenda.leaves_wake _ _ _), vacated.2⟩
  next => exact .refl floor

theorem leaves_dispatch : Leaves index floor floor.dispatch := by
  refine dispatch_preserves (.refl floor) ?_ ?_
  · exact fun between _ _ leaves => leaves.trans (leaves_handOver between)
  · intro _ _
    have woken : Leaves index floor floor.emptied := ⟨Agenda.leaves_wakeAll _ _ _, id⟩
    have failed : Leaves index floor floor.closeQueue :=
      failAll_preserves (motive := Leaves index floor)
        (fun between job leaves => leaves.trans (between.leaves_deliver job _)) floor.queue woken
    exact failed.trans floor.closeQueue.leaves_wakeClosers

/-! ## Other workers -/

theorem leaves_register (other : Nat) : Leaves index floor (floor.register other) := by
  unfold register
  dsimp only
  split
  · exact ⟨Agenda.leaves_wake _ _ _, id⟩
  · exact .refl floor

variable {other : Nat} (distinct : index ≠ other)

include distinct

theorem leaves_complete (job : Job τ) (outcome : Outcome ρ) :
    Leaves index floor (floor.complete other job outcome) := by
  have released : Leaves index floor (floor.onAgenda (·.release (.worker other))) :=
    floor.leaves_onAgenda (Agenda.leaves_release _ _ (by simpa using distinct))
  let counted : Floor ε τ ρ :=
    { (floor.onAgenda (·.release (.worker other))).deliver job outcome with
      completed := floor.completed + 1 }
  have delivered : Leaves index floor counted := released.trans (leaves_deliver _ job outcome)
  unfold complete
  dsimp only
  split
  · exact ⟨delivered.1.trans (Agenda.leaves_wakeAll _ _ _), delivered.2⟩
  · exact delivered.trans (counted.leaves_register other)

variable [Trade ε τ ρ]

theorem leaves_run (job : Job τ) : Leaves index floor (floor.run other job) := by
  unfold run
  dsimp only
  rcases Trade.resume (ρ := ρ) (Actor.worker other) floor.now job.task floor.shared with
    ⟨shared, outcome | ⟨task, alarms⟩⟩
  · exact leaves_complete { floor with shared := shared } distinct job outcome
  · exact ⟨Agenda.leaves_setAlarms _ _ alarms _, id⟩

theorem leaves_work : Leaves index floor (floor.work other) := by
  unfold work
  split
  next job _ =>
    split
    · exact (floor.leaves_deliver job _).trans (leaves_wakeClosers _)
    · split
      · exact floor.leaves_complete distinct job _
      · have watched : Leaves index floor (floor.onAgenda (·.watch job.scope (.worker other))) :=
          floor.leaves_onAgenda (Agenda.leaves_watch _ _ _ _)
        exact watched.trans (leaves_run _ distinct job)
  next job _ =>
    split
    · unfold giveUp
      dsimp only
      rcases Trade.abandon ρ (Actor.worker other) floor.now job.task floor.shared with
        ⟨shared, woken⟩
      have changed : Leaves index floor
          ({ floor with shared := shared }.onAgenda (·.wakeAll woken)) :=
        ⟨Agenda.leaves_wakeAll _ _ _, id⟩
      exact changed.trans (leaves_complete _ distinct job _)
    · exact floor.leaves_run distinct job
  · split
    · exact ⟨Agenda.leaves_wakeAll _ _ _, id⟩
    · exact .refl floor
  · exact .refl floor
  · exact .refl floor

end Moves

/-! ## Events -/

section Events

variable {index : Nat} {floor : Floor ε τ ρ} {event : Event ε τ}

/-- Affairs of actors outside the pool. -/
theorem leaves_rearrange {agenda : Agenda} (insiders : agenda.insiders = floor.agenda.insiders) :
    Leaves index floor (floor.onAgenda fun _ => agenda) :=
  floor.leaves_onAgenda (Agenda.leaves_of_insiders rfl insiders)

variable [Trade ε τ ρ]

theorem leaves_turn {actor : Actor} (other : actor ≠ .worker index) :
    Leaves index floor ((floor.unready actor).turn actor) := by
  have rested : Leaves index floor (floor.unready actor) :=
    floor.leaves_onAgenda (Agenda.leaves_erase _ _ other.symm)
  cases actor with
  | dispatcher => exact rested.trans (leaves_dispatch _)
  | worker another =>
      have distinct : index ≠ another := by
        rintro rfl
        exact other rfl
      exact rested.trans (leaves_work _ distinct)
  | caller caller => exact rested.trans (leaves_attend _ caller)
  | guest | timer => exact rested

/-- A scope changes only by an event that is about scopes, and a worker loses something
only by its own turn. -/
theorem leaves_after (proper : floor.Proper event) (notOwn : event ≠ .turn (.worker index))
    (noScope : event.isOfScopes = false) : Leaves index floor (floor.after event) := by
  cases event with
  | submit scope task => exact leaves_offerNow (floor.issue scope task).1 _
  | submitWithin wait scope task => exact floor.leaves_submitWithin wait scope task
  | executeBatch wait scope tasks =>
      let batch : Batch τ ρ := { scope := scope, wait := wait }
      exact leaves_handIn floor.callers.length tasks batch (floor.enter (.batching batch)).1
  | shutdown limit => exact floor.leaves_shutdown limit
  | disturb shared woken => exact ⟨Agenda.leaves_wakeAll _ _ woken, id⟩
  | rearrange agenda => exact leaves_rearrange proper
  | turn actor =>
      apply leaves_turn
      rintro rfl
      exact notOwn rfl
  | openScope | openChild | cancel | plan | pass => cases noScope

/-- A worker is not neglected while others act. -/
theorem spares_worker_after (proper : floor.Proper event)
    (notOwn : event ≠ .turn (.worker index)) (still : ∀ instant, event ≠ .pass instant) :
    Agenda.Spares (.worker index) floor.agenda (floor.after event).agenda := by
  cases noScope : event.isOfScopes with
  | false => exact (leaves_after proper notOwn noScope).1.spares
  | true =>
      cases event with
      | openScope => exact Agenda.spares_openScope _ _
      | openChild parent => exact Agenda.spares_openChild _ _ parent
      | cancel scope => exact Agenda.spares_cancel _ _ scope
      | plan due scope => exact Agenda.spares_plan _ _ due scope
      | pass instant => exact absurd rfl (still instant)
      | submit | submitWithin | executeBatch | shutdown | disturb | rearrange | turn =>
          cases noScope

omit [Trade ε τ ρ] in
/-- Whatever happens, some worker does not act. -/
theorem exists_other_worker (event : Event ε τ) : ∃ index, event ≠ .turn (.worker index) := by
  by_cases first : event = .turn (.worker 0)
  · exact ⟨1, by simp [first]⟩
  · exact ⟨0, first⟩

/-- A pool that is shut down stays so. -/
theorem shut_after (proper : floor.Proper event) (shut : floor.shut = true) :
    (floor.after event).shut = true := by
  cases noScope : event.isOfScopes with
  | true =>
      cases event with
      | openScope | openChild | cancel | plan | pass => exact shut
      | submit | submitWithin | executeBatch | shutdown | disturb | rearrange | turn =>
          cases noScope
  | false =>
      obtain ⟨index, other⟩ := exists_other_worker event
      exact (leaves_after proper other noScope).2 shut

/-- A scope that was opened stays so. -/
theorem parents_after (proper : floor.Proper event) :
    floor.agenda.parents.length ≤ (floor.after event).agenda.parents.length := by
  by_cases passes : ∃ instant, event = .pass instant
  · obtain ⟨instant, rfl⟩ := passes
    exact (Agenda.spares_moveTo .dispatcher floor.agenda instant).parents
  · obtain ⟨index, other⟩ := exists_other_worker event
    exact (spares_worker_after proper other fun instant same => passes ⟨instant, same⟩).parents

/-- A job is begun, or is done with, by the turn of its worker and by nothing else. -/
theorem begun_after {history : History τ ρ} (sound : floor.Sound history)
    (notOwn : event ≠ .turn (.worker index)) :
    (floor.after event).begun[index]? = floor.begun[index]? := by
  cases event with
  | submit scope task =>
      have offered := (offerNow_settles (floor.issue scope task).1 (floor.issue scope task).2).staff
      exact congrArg (fun desks => (desks.map Desk.begun?)[index]?) offered.desks
  | submitWithin wait scope task =>
      rw [begun, after, submitWithin_eq]
      rcases offered : (floor.entered wait scope task).offer floor.callers.length
        (floor.issue scope task).2 wait with ⟨next, _ | answer⟩
      · exact congrArg (fun desks => (desks.map Desk.begun?)[index]?)
          (offer_waits _ _ offered).1.desks
      · exact congrArg (fun desks => (desks.map Desk.begun?)[index]?)
          (offer_settles _ _ offered).staff.desks
  | executeBatch wait scope tasks =>
      rw [begun, after, desks_executeBatch, begun]
  | shutdown limit =>
      rw [begun, after, desks_shutdown, begun]
  | turn actor =>
      cases actor with
      | dispatcher => exact congrArg (·[index]?) (begun_dispatch (sound.unready .dispatcher))
      | worker other =>
          have distinct : other ≠ index := by
            rintro rfl
            exact notOwn rfl
          change ((floor.unready (.worker other)).work other).begun[index]? = _
          rcases (floor.unready (.worker other)).work_cases other with
            ⟨_, _, begun⟩ | ⟨_, _, _, abandons⟩ | ⟨_, _, _, _, _, _, resumes⟩
          · exact congrArg (·[index]?) begun
          · rw [abandons.begun, List.getElem?_set_ne distinct]
            rfl
          · rw [resumes.begun, List.getElem?_set_ne distinct]
            rfl
      | caller caller =>
          exact congrArg (fun desks => (desks.map Desk.begun?)[index]?)
            (desks_attend caller (floor.unready (.caller caller)))
      | guest | timer => rfl
  | openScope | openChild | cancel | plan | disturb | rearrange | pass => rfl

end Events

/-! ## Workers who have begun a job -/

/-- A worker is ready when the scope of its job is cancelled, and watches the scope
before. -/
structure Heeds (index : Nat) (job : Job τ) (floor : Floor ε τ ρ) : Prop where
  opened : job.scope < floor.agenda.parents.length
  cancelled : floor.isCancelled job.scope = true → .worker index ∈ floor.agenda.ready
  watching : floor.isCancelled job.scope = false →
    (job.scope, .worker index) ∈ floor.agenda.watchers

/-- Every worker heeds the scope of the job that it has begun. -/
def Heedful (floor : Floor ε τ ρ) : Prop :=
  ∀ (index : Nat) (job : Job τ), floor.begun[index]? = some (some job) → Heeds index job floor

section Heeding

variable {index : Nat} {job : Job τ} {before after floor : Floor ε τ ρ}

theorem Heeds.of_spares (heeds : Heeds index job before)
    (spares : Agenda.Spares (.worker index) before.agenda after.agenda) :
    Heeds index job after where
  opened := Nat.lt_of_lt_of_le heeds.opened spares.parents
  cancelled := by
    intro cancelled
    cases early : before.isCancelled job.scope with
    | true => exact spares.ready (heeds.cancelled early)
    | false =>
        exact spares.woken job.scope heeds.opened (heeds.watching early) (of_decide_eq_false early)
          (of_decide_eq_true cancelled)
  watching := by
    intro live
    apply spares.watchers
    apply heeds.watching
    exact decide_eq_false fun early => of_decide_eq_false live (spares.cancelled _ early)

theorem Heedful.make (workers capacity : Nat) (shared : ε) :
    (Floor.make workers capacity shared : Floor ε τ ρ).Heedful := by
  intro index job found
  rw [begun, List.getElem?_map] at found
  obtain ⟨desk, seated, begunEq⟩ := Option.map_eq_some_iff.mp found
  cases List.eq_of_mem_replicate (List.mem_of_getElem? seated)
  cases begunEq

/-- When nobody is ready, no job is run whose scope is cancelled. -/
theorem Heedful.live_of_quiet (heedful : floor.Heedful) (quiet : floor.agenda.ready = [])
    (found : floor.begun[index]? = some (some job)) : floor.isCancelled job.scope = false := by
  by_contra notLive
  exact Agenda.notMem_of_quiet quiet _
    ((heedful index job found).cancelled (by simpa using notLive))

/-- What was put on a desk is what lies there. -/
theorem eq_of_set {jobs : List (Option (Job τ))} {new held : Option (Job τ)}
    (found : (jobs.set index new)[index]? = some held) : held = new := by
  have there := List.getElem?_set.symm.trans found
  rw [if_pos rfl] at there
  split at there
  · exact (Option.some.inj there).symm
  · cases there

variable [Trade ε τ ρ]

/-- A worker runs its job, whose scope it watches. -/
theorem heeds_run {running : Job τ} (opened : running.scope < floor.agenda.parents.length)
    (live : floor.isCancelled running.scope = false)
    (watching : (running.scope, .worker index) ∈ floor.agenda.watchers)
    (found : (floor.run index running).begun[index]? = some (some job)) :
    Heeds index job (floor.run index running) := by
  revert found
  unfold run
  dsimp only
  rcases Trade.resume (ρ := ρ) (Actor.worker index) floor.now running.task floor.shared with
    ⟨shared, outcome | ⟨task, alarms⟩⟩
  · intro found
    rw [begun_complete] at found
    cases eq_of_set found
  · intro found
    have leaves := floor.agenda.leaves_setAlarms (.worker index) alarms (.worker index)
    let left : Job τ := { running with task := task }
    let seated : Floor ε τ ρ := Floor.setDesk index (.busy left) { floor with shared := shared }
    change seated.begun[index]? = _ at found
    rw [begun_setDesk] at found
    obtain rfl : job = left := Option.some.inj (eq_of_set found)
    refine ⟨?_, ?_, ?_⟩
    · exact Nat.lt_of_lt_of_eq opened (congrArg List.length leaves.parents).symm
    · intro cancelled
      have early : running.scope ∈ floor.agenda.cancelled :=
        leaves.cancelled ▸ of_decide_eq_true cancelled
      exact absurd early (of_decide_eq_false live)
    · exact fun _ => leaves.watchers _ watching

/-- A worker's own turn. -/
theorem heeds_work
    (heeds : ∀ job, floor.begun[index]? = some (some job) → floor.isCancelled job.scope = false →
      job.scope < floor.agenda.parents.length ∧
        (job.scope, .worker index) ∈ floor.agenda.watchers)
    (opened : ∀ job, floor.desks[index]? = some (.handed job) →
      floor.isCancelled job.scope = false → job.scope < floor.agenda.parents.length)
    (found : (floor.work index).begun[index]? = some (some job)) :
    Heeds index job (floor.work index) := by
  have stopped : ∀ floor : Floor ε τ ρ, (floor.stop index).begun[index]? ≠ some (some job) := by
    intro floor found
    rw [begun_stop] at found
    cases eq_of_set found
  have completed : ∀ (floor : Floor ε τ ρ) (done : Job τ) (outcome : Outcome ρ),
      (floor.complete index done outcome).begun[index]? ≠ some (some job) := by
    intro floor done outcome found
    rw [begun_complete] at found
    cases eq_of_set found
  have idle : ∀ desk, floor.desks[index]? = some desk → desk.begun? = none →
      floor.begun[index]? ≠ some (some job) := by
    intro desk seated notBegun found
    rw [begun, List.getElem?_map, seated, Option.map_some, notBegun] at found
    cases found
  revert found
  unfold work
  cases seated : floor.desks[index]? with
  | none =>
      intro found
      rw [begun, List.getElem?_map, seated] at found
      cases found
  | some desk =>
      cases desk with
      | handed running =>
          dsimp only
          split
          · exact fun found => absurd found (stopped _)
          · split
            · exact fun found => absurd found (completed _ _ _)
            next live =>
              have live : floor.isCancelled running.scope = false := by simpa using live
              exact heeds_run (opened running seated live) live
                (List.mem_append_right _ (List.mem_singleton_self _))
      | busy running =>
          dsimp only
          split
          · exact fun found => absurd found (completed _ _ _)
          next live =>
            have live : floor.isCancelled running.scope = false := by simpa using live
            have there : floor.begun[index]? = some (some running) := by
              rw [begun, List.getElem?_map, seated]
              rfl
            obtain ⟨inside, watching⟩ := heeds running there live
            exact heeds_run inside live watching
      | idle =>
          dsimp only
          split
          · exact fun found => absurd found (stopped _)
          · exact fun found => absurd found (idle _ seated rfl)
      | gone => exact fun found => absurd found (idle _ seated rfl)

/-- Every event leaves the workers heedful, if the scope of a job is opened before the job
is begun. -/
theorem heedful_after {history : History τ ρ} {event : Event ε τ} (heedful : floor.Heedful)
    (sound : floor.Sound history) (proper : floor.Proper event)
    (opened : ∀ index job, event = .turn (.worker index) →
      floor.desks[index]? = some (.handed job) → floor.isCancelled job.scope = false →
        job.scope < floor.agenda.parents.length) : (floor.after event).Heedful := by
  intro index job found
  by_cases own : event = .turn (.worker index)
  · subst own
    have resting : ∀ job, (floor.unready (.worker index)).begun[index]? = some (some job) →
        (floor.unready (.worker index)).isCancelled job.scope = false →
          job.scope < floor.agenda.parents.length ∧
            (job.scope, .worker index) ∈ floor.agenda.watchers :=
      fun job there live =>
        ⟨(heedful index job there).opened, (heedful index job there).watching live⟩
    exact heeds_work resting (fun job => opened index job rfl) found
  · rw [begun_after sound own] at found
    have heeds := heedful index job found
    by_cases passes : ∃ instant, event = .pass instant
    · obtain ⟨instant, rfl⟩ := passes
      have moved : Heeds index job (floor.clockMoved instant) :=
        ⟨heeds.opened, heeds.cancelled, heeds.watching⟩
      exact moved.of_spares (Agenda.spares_moveTo _ floor.agenda instant)
    · exact heeds.of_spares
        (spares_worker_after proper own fun instant same => passes ⟨instant, same⟩)

end Heeding

end Floor

end RiskGate.Pool
