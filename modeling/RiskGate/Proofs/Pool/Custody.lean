import RiskGate.Proofs.Pool.Moves
import RiskGate.Proofs.Pool.Run

/-!
# In whose hands the tasks are

A task is handed in by a caller, waits in the queue, and lies on a desk until it
ends.  Nothing on this way makes up a task or changes one, except that a worker which
resumes a task may leave another one in its place; and nothing touches the things that
tasks share, except that a worker resumes a task or gives one up.  A property that all
tasks have is therefore kept by every turn, as long as it is kept by resuming.

The same holds of outcomes: whatever else is delivered is one of the failures that the
pool itself reports, so that an outcome which is none of them comes from a worker who
resumes a task that ends with it.
-/

namespace RiskGate

/-- The failure is one that the pool reports without asking the task. -/
def Failure.isOfPool : Failure → Bool
  | .queueFull | .submissionTimeout _ | .cancelled | .poolShutdown => true
  | .circuitOpen | .backend .. | .deadlineExceeded _ | .batchTooLarge .. | .batch .. => false

end RiskGate

namespace RiskGate.Pool

open Schedule (Actor Agenda)

variable {ε τ ρ : Type}

/-- The task on a desk. -/
def Desk.task? : Desk τ → Option τ
  | .handed job | .busy job => some job.task
  | .idle | .gone => none

/-- The job on a desk. -/
def Desk.job? : Desk τ → Option (Job τ)
  | .handed job | .busy job => some job
  | .idle | .gone => none

/-- The job on a desk, if it was begun. -/
def Desk.begun? : Desk τ → Option (Job τ)
  | .busy job => some job
  | .handed _ | .idle | .gone => none

theorem Desk.task?_of_job? {desk : Desk τ} {job : Job τ} (seated : desk.job? = some job) :
    desk.task? = some job.task := by
  cases desk with
  | handed | busy =>
      obtain rfl := Option.some.inj seated
      rfl
  | idle | gone => cases seated

/-- The tasks of a batch that are not handed in. -/
def Stage.tasks : Stage τ → List τ
  | .offering job _ rest => job.task :: rest
  | .joining => []

/-- The tasks that a caller has not handed in. -/
def Caller.tasks : Caller τ ρ → List τ
  | .offering job _ _ => [job.task]
  | .batching batch => batch.stage.tasks
  | _ => []

/-- The outcome is a failure that the pool reports without asking the task. -/
def Delivery.IsOfPool (delivery : Delivery ρ) : Prop :=
  ∃ failure, delivery.outcome = .error failure ∧ failure.isOfPool = true

namespace Floor

/-- The jobs that were begun, desk by desk. -/
def begun (floor : Floor ε τ ρ) : List (Option (Job τ)) := floor.desks.map Desk.begun?

/-- All tasks on the floor have a property. -/
structure Only (property : τ → Prop) (floor : Floor ε τ ρ) : Prop where
  queue : ∀ job ∈ floor.queue, property job.task
  desks : ∀ desk ∈ floor.desks, ∀ task ∈ desk.task?, property task
  callers : ∀ caller ∈ floor.callers, ∀ task ∈ caller.tasks, property task

theorem Only.mono {property other : τ → Prop} {floor : Floor ε τ ρ} (only : Only property floor)
    (weaker : ∀ task, property task → other task) : Only other floor where
  queue := fun job member => weaker _ (only.queue job member)
  desks := fun desk member task found => weaker _ (only.desks desk member task found)
  callers := fun caller member task found => weaker _ (only.callers caller member task found)

/-- A new pool has no tasks. -/
theorem Only.make (property : τ → Prop) (workers capacity : Nat) (shared : ε) :
    Only property (make workers capacity shared : Floor ε τ ρ) where
  queue := nofun
  desks := by
    intro desk member task found
    obtain rfl := List.eq_of_mem_replicate member
    cases found
  callers := nofun

/-- Between two states of the floor at one instant, the things that tasks share were
left alone, a property of all tasks was kept, and only failures of the pool itself were
delivered. -/
structure Calm (property : τ → Prop) (before after : Floor ε τ ρ) : Prop where
  shared : after.shared = before.shared
  now : after.now = before.now
  only : before.Only property → after.Only property
  added : ∃ new, after.deliveries = new ++ before.deliveries ∧
    ∀ delivery ∈ new, delivery.IsOfPool

namespace Calm

variable {property : τ → Prop} {before middle after : Floor ε τ ρ}

theorem refl (floor : Floor ε τ ρ) : Calm property floor floor :=
  ⟨rfl, rfl, id, [], rfl, nofun⟩

theorem trans (first : Calm property before middle) (second : Calm property middle after) :
    Calm property before after where
  shared := second.shared.trans first.shared
  now := second.now.trans first.now
  only := fun only => second.only (first.only only)
  added := by
    obtain ⟨early, earlyEq, earlyOfPool⟩ := first.added
    obtain ⟨late, lateEq, lateOfPool⟩ := second.added
    refine ⟨late ++ early, by rw [lateEq, earlyEq, List.append_assoc], ?_⟩
    intro delivery member
    rcases List.mem_append.mp member with isLate | isEarly
    · exact lateOfPool delivery isLate
    · exact earlyOfPool delivery isEarly

/-- An outcome that is no failure was delivered before. -/
theorem deliveries (calm : Calm property before after) :
    ∀ delivery ∈ after.deliveries, ∀ value, delivery.outcome = .ok value →
      delivery ∈ before.deliveries := by
  intro delivery member value ok
  obtain ⟨new, addedEq, ofPool⟩ := calm.added
  rw [addedEq] at member
  rcases List.mem_append.mp member with isNew | old
  · obtain ⟨failure, failed, _⟩ := ofPool delivery isNew
    cases failed.symm.trans ok
  · exact old

/-- A change of the agenda and of the books. -/
theorem of_eq (shared : after.shared = before.shared) (now : after.now = before.now)
    (queue : after.queue = before.queue) (desks : after.desks = before.desks)
    (callers : after.callers = before.callers) (deliveries : after.deliveries = before.deliveries) :
    Calm property before after where
  shared := shared
  now := now
  only := by
    intro only
    constructor
    · rw [queue]
      exact only.queue
    · rw [desks]
      exact only.desks
    · rw [callers]
      exact only.callers
  added := ⟨[], deliveries, nofun⟩

end Calm

variable {property : τ → Prop}

/-! ## Moves -/

section Moves

variable (floor : Floor ε τ ρ)

theorem calm_onAgenda {change : Agenda → Agenda}
    (now : (change floor.agenda).now = floor.agenda.now) :
    Calm property floor (floor.onAgenda change) :=
  .of_eq rfl now rfl rfl rfl rfl

theorem calm_wake (actor : Actor) : Calm property floor (floor.wake actor) :=
  floor.calm_onAgenda (Agenda.wake_now actor floor.agenda)

theorem calm_wakeAll (actors : List Actor) :
    Calm property floor (floor.onAgenda (·.wakeAll actors)) :=
  floor.calm_onAgenda (Agenda.wakeAll_now actors floor.agenda)

theorem calm_release (actor : Actor) : Calm property floor (floor.onAgenda (·.release actor)) :=
  floor.calm_onAgenda rfl

theorem calm_setAlarms (alarms : List Nat) (actor : Actor) :
    Calm property floor (floor.onAgenda fun agenda =>
      alarms.foldl (fun agenda due => agenda.setAlarm due actor) agenda) := by
  have spared := Agenda.spares_foldl .dispatcher floor.agenda
    (fun agenda due => Agenda.spares_setAlarm .dispatcher agenda due actor) alarms
  exact floor.calm_onAgenda spared.now_eq

/-- A delivery of a failure of the pool. -/
theorem calm_deliver (job : Job τ) {failure : Failure} (ofPool : failure.isOfPool = true) :
    Calm property floor (floor.deliver job (.error failure)) where
  shared := rfl
  now := Agenda.wakeAll_now _ floor.agenda
  only := fun only => ⟨only.queue, only.desks, only.callers⟩
  added := by
    refine ⟨[⟨job.ticket, .error failure, floor.now⟩], rfl, ?_⟩
    intro delivery member
    rw [List.mem_singleton.mp member]
    exact ⟨failure, rfl, ofPool⟩

theorem calm_reject (job : Job τ) {failure : Failure} (ofPool : failure.isOfPool = true) :
    Calm property floor (floor.reject job failure) := by
  have counted : Calm property floor
      { floor with
        rejected := floor.rejected + 1
        reasons := floor.reasons.bump failure.kind.name } := .of_eq rfl rfl rfl rfl rfl rfl
  exact counted.trans (calm_deliver _ job ofPool)

theorem calm_enqueue {job : Job τ} (held : property job.task) :
    Calm property floor (floor.enqueue job) := by
  have queued : Calm property floor
      { floor with queue := floor.queue ++ [job], submitted := floor.submitted + 1 } := by
    constructor
    · rfl
    · rfl
    · intro only
      refine ⟨?_, only.desks, only.callers⟩
      intro other member
      rcases List.mem_append.mp member with old | new
      · exact only.queue other old
      · rwa [List.mem_singleton.mp new]
    · exact ⟨[], rfl, nofun⟩
  unfold enqueue
  dsimp only
  split
  · exact queued
  · exact queued.trans (calm_wake _ .dispatcher)

theorem calm_takePlace {job : Job τ} (held : property job.task) :
    Calm property floor (floor.takePlace job) := by
  have taken : Calm property floor { floor with free := floor.free - 1 } :=
    .of_eq rfl rfl rfl rfl rfl rfl
  exact taken.trans (calm_enqueue _ held)

theorem calm_vacate : Calm property floor floor.vacate := by
  unfold vacate
  split
  · exact .of_eq rfl rfl rfl rfl rfl rfl
  next caller rest _ =>
    have promised : Calm property floor
        { floor with waiting := rest, granted := floor.granted ++ [caller] } :=
      .of_eq rfl rfl rfl rfl rfl rfl
    exact promised.trans (calm_wake _ _)

theorem calm_withdraw (caller : Nat) : Calm property floor (floor.withdraw caller) :=
  .of_eq rfl rfl rfl rfl rfl rfl

theorem calm_setDesk (index : Nat) {desk : Desk τ} (held : ∀ task ∈ desk.task?, property task) :
    Calm property floor (floor.setDesk index desk) := by
  constructor
  · rfl
  · rfl
  · intro only
    refine ⟨only.queue, ?_, only.callers⟩
    intro other member
    rcases List.mem_or_eq_of_mem_set member with old | rfl
    · exact only.desks other old
    · exact held
  · exact ⟨[], rfl, nofun⟩

theorem calm_setCaller (number : Nat) {caller : Caller τ ρ}
    (held : ∀ task ∈ caller.tasks, property task) :
    Calm property floor (floor.setCaller number caller) := by
  constructor
  · rfl
  · rfl
  · intro only
    refine ⟨only.queue, only.desks, ?_⟩
    intro other member
    rcases List.mem_or_eq_of_mem_set member with old | rfl
    · exact only.callers other old
    · exact held
  · exact ⟨[], rfl, nofun⟩

theorem calm_enter {caller : Caller τ ρ} (held : ∀ task ∈ caller.tasks, property task) :
    Calm property floor (floor.enter caller).1 := by
  constructor
  · rfl
  · rfl
  · intro only
    refine ⟨only.queue, only.desks, ?_⟩
    intro other member
    rcases List.mem_append.mp member with old | new
    · exact only.callers other old
    · rwa [List.mem_singleton.mp new]
  · exact ⟨[], rfl, nofun⟩

/-- A caller that is answered at once brings no task. -/
theorem calm_enter_closed (answer : Outcome Unit) (instant : Nat) :
    Calm property floor (floor.enter (.closed answer instant)).1 :=
  floor.calm_enter nofun

theorem calm_issue (scope : Nat) (task : τ) : Calm property floor (floor.issue scope task).1 :=
  .of_eq rfl rfl rfl rfl rfl rfl

end Moves

/-! ## Calls -/

section Calls

variable (floor : Floor ε τ ρ)

theorem calm_offer {job : Job τ} (held : property job.task) (caller : Nat) (wait : Span) :
    Calm property floor (floor.offer caller job wait).1 := by
  rcases floor.offer_cases job caller wait with
    ⟨_, offerEq⟩ | ⟨_, _, offerEq⟩ | ⟨_, _, _, offerEq⟩ | ⟨_, _, _, offerEq⟩
  · rw [offerEq]
    exact floor.calm_reject job rfl
  · rw [offerEq]
    exact floor.calm_takePlace held
  · rw [offerEq]
    exact floor.calm_reject job rfl
  · rw [offerEq]
    exact .of_eq rfl rfl rfl rfl rfl rfl

theorem calm_offerAgain {job : Job τ} (held : property job.task) (caller : Nat) (wait : Span)
    (due : Nat) : Calm property floor (floor.offerAgain caller job wait due).1 := by
  have withdrawn : Calm property floor (floor.withdraw caller) := floor.calm_withdraw caller
  rcases floor.offerAgain_cases job caller wait due with
    ⟨_, offerEq⟩ | ⟨_, _, offerEq⟩ | ⟨_, _, _, offerEq⟩ | ⟨_, _, _, offerEq⟩
  · rw [offerEq]
    have returned : Calm property floor
        { floor.withdraw caller with
          free := floor.free + (decide (caller ∈ floor.granted)).toNat } :=
      .of_eq rfl rfl rfl rfl rfl rfl
    exact returned.trans (calm_reject _ job rfl)
  · rw [offerEq]
    exact withdrawn.trans (calm_enqueue _ held)
  · rw [offerEq]
    exact withdrawn.trans (calm_reject _ job rfl)
  · rw [offerEq]
    exact .refl floor

theorem calm_join (caller : Nat) (batch : Batch τ ρ) :
    Calm property floor (floor.join caller batch) := by
  have released : Calm property floor (floor.onAgenda (·.release (.caller caller))) :=
    floor.calm_release _
  rcases floor.join_cases caller batch with ⟨_, joinEq⟩ | ⟨_, _, joinEq⟩ | ⟨_, _, joinEq⟩
  · rw [joinEq]
    exact released.trans (calm_setCaller _ caller nofun)
  · rw [joinEq]
    exact released.trans (calm_setCaller _ caller nofun)
  · rw [joinEq]
    have waiting : Calm property floor
        ((floor.onAgenda (·.release (.caller caller))).setCaller caller
          (.batching (floor.pickUp batch))) := released.trans (calm_setCaller _ caller nofun)
    exact waiting.trans (calm_onAgenda _ rfl)

/-- Handing in tasks, one after another. -/
theorem calm_handIn (caller : Nat) (tasks : List τ) (held : ∀ task ∈ tasks, property task)
    (batch : Batch τ ρ) (floor : Floor ε τ ρ) :
    Calm property floor (floor.handIn caller batch tasks) := by
  induction tasks generalizing batch floor with
  | nil => exact floor.calm_join caller batch
  | cons task rest ih =>
      have heldRest : ∀ task ∈ rest, property task :=
        fun task member => held task (List.mem_cons_of_mem _ member)
      have heldJob : property (floor.issue batch.scope task).2.task := held task List.mem_cons_self
      have issued : Calm property floor (floor.issue batch.scope task).1 :=
        floor.calm_issue batch.scope task
      have offered := issued.trans (calm_offer _ heldJob caller batch.wait)
      rw [handIn]
      dsimp only
      split
      next next answer offerEq =>
        rw [offerEq] at offered
        exact offered.trans (ih heldRest _ next)
      next next offerEq =>
        rw [offerEq] at offered
        exact offered.trans (calm_setCaller _ caller held)

theorem calm_executeBatch (wait : Span) (scope : Nat) {tasks : List τ}
    (held : ∀ task ∈ tasks, property task) :
    Calm property floor (floor.executeBatch wait scope tasks).1 := by
  have entered : Calm property floor
      (floor.enter (.batching { scope := scope, wait := wait })).1 := by
    apply floor.calm_enter
    rintro task ⟨⟩
  exact entered.trans (calm_handIn _ tasks held _ _)

theorem calm_batchTurn (caller : Nat) {batch : Batch τ ρ}
    (held : ∀ task ∈ batch.stage.tasks, property task) :
    Calm property floor (floor.batchTurn caller batch) := by
  unfold batchTurn
  split
  · exact floor.calm_join caller batch
  next job due rest stage =>
    rw [stage] at held
    have offered : Calm property floor (floor.offerAgain caller job batch.wait due).1 :=
      floor.calm_offerAgain (held _ List.mem_cons_self) caller batch.wait due
    split
    next next answer offerEq =>
      rw [offerEq] at offered
      have heldRest : ∀ task ∈ rest, property task :=
        fun task member => held task (List.mem_cons_of_mem _ member)
      have joining : Calm property next
          (next.setCaller caller (.batching { batch with stage := .joining })) := by
        apply next.calm_setCaller
        rintro task ⟨⟩
      exact (offered.trans joining).trans (calm_handIn caller rest heldRest _ _)
    next next offerEq =>
      rw [offerEq] at offered
      exact offered

theorem calm_offeringTurn (caller : Nat) {job : Job τ} (held : property job.task) (wait : Span)
    (due : Nat) : Calm property floor (floor.offeringTurn caller job wait due) := by
  have offered : Calm property floor (floor.offerAgain caller job wait due).1 :=
    floor.calm_offerAgain held caller wait due
  unfold offeringTurn
  split
  next next answer offerEq =>
    rw [offerEq] at offered
    exact offered.trans (calm_setCaller _ caller nofun)
  next next offerEq =>
    rw [offerEq] at offered
    exact offered

theorem calm_closingTurn (caller : Nat) (limit : Span) (due : Nat) :
    Calm property floor (floor.closingTurn caller limit due) := by
  have released : Calm property floor (floor.onAgenda (·.release (.caller caller))) :=
    floor.calm_release _
  unfold closingTurn
  dsimp only
  split
  · exact released.trans (calm_setCaller _ caller nofun)
  · split
    · exact released.trans (calm_setCaller _ caller nofun)
    · exact .refl floor

theorem calm_attend (only : floor.Only property) (caller : Nat) :
    Calm property floor (floor.attend caller) := by
  unfold attend
  split
  next job wait due found =>
    have held := only.callers _ (List.mem_of_getElem? found)
    exact floor.calm_offeringTurn caller (held _ List.mem_cons_self) wait due
  next batch found =>
    exact floor.calm_batchTurn caller (only.callers _ (List.mem_of_getElem? found))
  next limit due _ => exact floor.calm_closingTurn caller limit due
  next => exact .refl floor

theorem calm_shutting : Calm property floor floor.shutting := by
  have shut : Calm property floor { floor with shut := true } := .of_eq rfl rfl rfl rfl rfl rfl
  exact (shut.trans (calm_wakeAll _ _)).trans (calm_wake _ .dispatcher)

theorem calm_shutdown (limit : Span) : Calm property floor (floor.shutdown limit).1 := by
  have shutting : Calm property floor floor.shutting := floor.calm_shutting
  rcases floor.shutdown_cases limit with ⟨_, shutEq⟩ | ⟨_, _, shutEq⟩ | ⟨_, _, shutEq⟩
  · rw [shutEq]
    exact floor.calm_enter_closed _ _
  · rw [shutEq]
    exact shutting.trans (calm_enter_closed _ _ _)
  · rw [shutEq]
    have entered : Calm property floor.shutting
        (floor.shutting.enter (.closing limit (floor.agenda.dueAfter limit))).1 :=
      calm_enter _ nofun
    exact (shutting.trans entered).trans (calm_onAgenda _ rfl)

end Calls

/-! ## The dispatcher -/

section Dispatcher

variable (floor : Floor ε τ ρ)

theorem calm_handOver : Calm property floor floor.handOver := by
  unfold handOver
  split
  next job queue worker idle queueEq _ =>
    let taken : Floor ε τ ρ := { floor with queue := queue, idle := idle }
    have dequeued : Calm property floor taken := by
      constructor
      · rfl
      · rfl
      · intro only
        refine ⟨?_, only.desks, only.callers⟩
        intro other member
        exact only.queue other (queueEq ▸ List.mem_cons_of_mem _ member)
      · exact ⟨[], rfl, nofun⟩
    have vacated := dequeued.trans taken.calm_vacate
    have handed : Calm property floor (taken.vacate.setDesk worker (.handed job)) := by
      constructor
      · exact vacated.shared
      · exact vacated.now
      · intro only
        have held : property job.task := only.queue job (queueEq ▸ List.mem_cons_self)
        have seated : Calm property taken.vacate (taken.vacate.setDesk worker (.handed job)) := by
          apply calm_setDesk
          rintro task ⟨⟩
          exact held
        exact seated.only (vacated.only only)
      · exact vacated.added
    exact handed.trans (calm_wake _ _)
  next => exact .refl floor

theorem calm_closeQueue : Calm property floor floor.closeQueue := by
  let woken : Floor ε τ ρ := floor.onAgenda (·.wakeAll (floor.waiting.map Actor.caller))
  have calm_woken : Calm property floor woken := floor.calm_wakeAll _
  have closed : Calm property woken floor.emptied :=
    ⟨rfl, rfl, fun only => ⟨nofun, only.desks, only.callers⟩, [], rfl, nofun⟩
  exact failAll_preserves (motive := Calm property floor)
    (fun between job calm => calm.trans (between.calm_deliver job rfl)) floor.queue
    (calm_woken.trans closed)

theorem calm_dispatch : Calm property floor floor.dispatch := by
  refine dispatch_preserves (.refl floor) ?_ ?_
  · exact fun between _ _ calm => calm.trans (calm_handOver between)
  · exact fun _ _ => floor.calm_closeQueue.trans (calm_wakeAll _ _)

end Dispatcher

/-! ## Workers -/

section Workers

variable (floor : Floor ε τ ρ) (index : Nat)

theorem calm_stop : Calm property floor (floor.stop index) :=
  (floor.calm_setDesk index nofun).trans (calm_wakeAll _ _)

theorem calm_register : Calm property floor (floor.register index) := by
  have seated : Calm property floor (floor.setDesk index .idle) := floor.calm_setDesk index nofun
  have entered : Calm property floor
      { floor.setDesk index .idle with idle := floor.idle ++ [index] } :=
    seated.trans (.of_eq rfl rfl rfl rfl rfl rfl)
  unfold register
  dsimp only
  split
  · exact entered.trans (calm_wake _ _)
  · exact entered

/-- The outcome of the job with a ticket is delivered, and nothing else is. -/
structure Concludes (property : τ → Prop) (ticket : Nat) (outcome : Outcome ρ)
    (before after : Floor ε τ ρ) : Prop where
  shared : after.shared = before.shared
  now : after.now = before.now
  only : before.Only property → after.Only property
  added : after.deliveries = ⟨ticket, outcome, before.now⟩ :: before.deliveries

/-- A job that ends in a failure of the pool. -/
theorem Concludes.calm {before after : Floor ε τ ρ} {ticket : Nat} {failure : Failure}
    (concludes : Concludes property ticket (.error failure) before after)
    (ofPool : failure.isOfPool = true) : Calm property before after where
  shared := concludes.shared
  now := concludes.now
  only := concludes.only
  added := by
    refine ⟨[⟨ticket, .error failure, before.now⟩], concludes.added, ?_⟩
    intro delivery member
    rw [List.mem_singleton.mp member]
    exact ⟨failure, rfl, ofPool⟩

theorem register_deliveries : (floor.register index).deliveries = floor.deliveries := by
  unfold register
  dsimp only
  split <;> rfl

theorem begun_setDesk (desk : Desk τ) :
    (floor.setDesk index desk).begun = floor.begun.set index desk.begun? :=
  List.map_set

/-- Clearing a desk on which nothing was begun changes nothing about what was begun. -/
theorem begun_clear {desk : Desk τ} (found : floor.desks[index]? = some desk)
    (notBegun : desk.begun? = none) : floor.begun.set index none = floor.begun := by
  have there : floor.begun[index]? = some none := by
    rw [begun, List.getElem?_map, found, Option.map_some, notBegun]
  obtain ⟨_, same⟩ := List.getElem?_eq_some_iff.mp there
  rw [← same, List.set_getElem_self]

theorem begun_stop : (floor.stop index).begun = floor.begun.set index none :=
  floor.begun_setDesk index .gone

theorem begun_register : (floor.register index).begun = floor.begun.set index none := by
  unfold register
  dsimp only
  split
  · exact floor.begun_setDesk index .idle
  · exact floor.begun_setDesk index .idle

/-- A job that ends is no longer on its desk. -/
theorem begun_complete (job : Job τ) (outcome : Outcome ρ) :
    (floor.complete index job outcome).begun = floor.begun.set index none := by
  unfold complete
  dsimp only
  split
  · exact begun_stop _ index
  · exact begun_register _ index

theorem concludes_complete (job : Job τ) (outcome : Outcome ρ) :
    Concludes property job.ticket outcome floor (floor.complete index job outcome) := by
  let recorded : Floor ε τ ρ :=
    { (floor.onAgenda (·.release (.worker index))).deliver job outcome with
      completed := floor.completed + 1 }
  have now : recorded.now = floor.now := Agenda.wakeAll_now _ _
  have only : floor.Only property → recorded.Only property :=
    fun only => ⟨only.queue, only.desks, only.callers⟩
  have added : recorded.deliveries = ⟨job.ticket, outcome, floor.now⟩ :: floor.deliveries := rfl
  have completeEq : floor.complete index job outcome =
      if recorded.shut then recorded.stop index else recorded.register index := rfl
  rw [completeEq]
  split
  · have stopped : Calm property recorded (recorded.stop index) := recorded.calm_stop index
    exact ⟨stopped.shared, stopped.now.trans now, fun old => stopped.only (only old), added⟩
  · have registered : Calm property recorded (recorded.register index) :=
      recorded.calm_register index
    refine ⟨registered.shared, registered.now.trans now, fun old => registered.only (only old), ?_⟩
    rw [register_deliveries]
    exact added

/-- The job that is left on a desk when its task was resumed. -/
def jobLeft (job : Job τ) : Progress τ ρ → Option (Job τ)
  | .finished _ => none
  | .suspended task _ => some { job with task := task }

/-- What is delivered for a job when its task is resumed. -/
def outcomeDelivered (job : Job τ) (now : Nat) : Progress τ ρ → List (Delivery ρ)
  | .finished outcome => [⟨job.ticket, outcome, now⟩]
  | .suspended .. => []

variable [Trade ε τ ρ]

/-- The worker resumed the task of a job: what tasks share is as the task left it, the
task may have left another one in its place, and its outcome is delivered if it ended. -/
structure Resumes (index : Nat) (job : Job τ) (before after : Floor ε τ ρ) : Prop where
  shared : after.shared =
    (Trade.resume (ρ := ρ) (.worker index) before.now job.task before.shared).1
  now : after.now = before.now
  only : ∀ property : τ → Prop, before.Only property →
    (∀ next alarms,
      (Trade.resume (ρ := ρ) (.worker index) before.now job.task before.shared).2 =
        .suspended next alarms → property next) →
    after.Only property
  added : after.deliveries = outcomeDelivered job before.now
    (Trade.resume (ρ := ρ) (.worker index) before.now job.task before.shared).2 ++
      before.deliveries
  begun : after.begun = before.begun.set index
    (jobLeft job (Trade.resume (ρ := ρ) (.worker index) before.now job.task before.shared).2)

/-- An outcome that is new is the one with which the task ended. -/
theorem Resumes.deliveries {index : Nat} {job : Job τ} {before after : Floor ε τ ρ}
    (resumes : Resumes index job before after) {delivery : Delivery ρ}
    (delivered : delivery ∈ after.deliveries) :
    delivery ∈ before.deliveries ∨
      (Trade.resume (ρ := ρ) (.worker index) before.now job.task before.shared).2 =
        .finished delivery.outcome ∧ delivery.ticket = job.ticket ∧
          delivery.deliveredAt = before.now := by
  rw [resumes.added] at delivered
  rcases List.mem_append.mp delivered with new | old
  · right
    generalize (Trade.resume (ρ := ρ) (.worker index) before.now job.task before.shared).2 =
      progress at new
    cases progress with
    | finished outcome =>
        rw [List.mem_singleton.mp new]
        exact ⟨rfl, rfl, rfl⟩
    | suspended => cases new
  · exact Or.inl old

/-- The worker gave a job up: what tasks share is as it was left by that. -/
structure Abandons (index : Nat) (job : Job τ) (before after : Floor ε τ ρ) : Prop where
  shared : after.shared = (Trade.abandon ρ (.worker index) before.now job.task before.shared).1
  now : after.now = before.now
  only : ∀ property : τ → Prop, before.Only property → after.Only property
  added : after.deliveries = ⟨job.ticket, .error .cancelled, before.now⟩ :: before.deliveries
  begun : after.begun = before.begun.set index none

/-- A worker runs the job on its desk. -/
theorem resumes_run (job : Job τ) : Resumes index job floor (floor.run index job) := by
  unfold run
  dsimp only
  rcases resumed : Trade.resume (ρ := ρ) (Actor.worker index) floor.now job.task floor.shared
    with ⟨shared, outcome | ⟨task, alarms⟩⟩
  · have concluded : ∀ property, Concludes property job.ticket outcome
        { floor with shared := shared }
        (complete index job outcome { floor with shared := shared }) :=
      fun property => concludes_complete _ index job outcome
    constructor
    · rw [resumed]
      exact (concluded fun _ => True).shared
    · exact (concluded fun _ => True).now
    · intro property only _
      exact (concluded property).only ⟨only.queue, only.desks, only.callers⟩
    · rw [resumed]
      exact (concluded fun _ => True).added
    · rw [resumed]
      exact begun_complete { floor with shared := shared } index job outcome
  · let seated : Floor ε τ ρ :=
      { floor with shared := shared }.setDesk index (.busy { job with task := task })
    have waiting : ∀ property, Calm property seated (seated.onAgenda fun agenda =>
        alarms.foldl (fun agenda due => agenda.setAlarm due (.worker index)) agenda) :=
      fun property => seated.calm_setAlarms alarms (.worker index)
    constructor
    · rw [resumed]
      exact (waiting fun _ => True).shared
    · exact (waiting fun _ => True).now
    · intro property only next
      rw [resumed] at next
      have held : property task := next task alarms rfl
      have only_shared : Only property { floor with shared := shared } :=
        ⟨only.queue, only.desks, only.callers⟩
      have calm_seated : Calm property { floor with shared := shared } seated := by
        apply calm_setDesk
        rintro other ⟨⟩
        exact held
      exact (waiting property).only (calm_seated.only only_shared)
    · rw [resumed]
      rfl
    · rw [resumed]
      exact begun_setDesk { floor with shared := shared } index _

/-- A worker gives up the job on its desk. -/
theorem abandons_giveUp (job : Job τ) : Abandons index job floor (floor.giveUp index job) := by
  unfold giveUp
  dsimp only
  rcases abandoned : Trade.abandon ρ (Actor.worker index) floor.now job.task floor.shared
    with ⟨shared, woken⟩
  let left : Floor ε τ ρ := { floor with shared := shared }.onAgenda (·.wakeAll woken)
  have woke : ∀ property, Calm property { floor with shared := shared } left :=
    fun property => calm_wakeAll _ woken
  have concluded : ∀ property, Concludes property job.ticket (.error .cancelled) left
      (left.complete index job (.error .cancelled)) :=
    fun property => concludes_complete left index job _
  have now : left.now = floor.now := (woke fun _ => True).now
  constructor
  · rw [abandoned]
    exact (concluded fun _ => True).shared
  · exact (concluded fun _ => True).now.trans now
  · intro property only
    exact (concluded property).only ((woke property).only ⟨only.queue, only.desks, only.callers⟩)
  · have added := (concluded fun _ => True).added
    rw [now] at added
    exact added
  · exact begun_complete left index job _

/-- The task that a worker resumes when it takes its turn. -/
def resumed? (index : Nat) (floor : Floor ε τ ρ) : Option τ :=
  match floor.desks[index]? with
  | some (.handed job) =>
      if floor.shut || floor.isCancelled job.scope then none else some job.task
  | some (.busy job) => if floor.isCancelled job.scope then none else some job.task
  | _ => none

/-- Everything that can come of a worker's turn. -/
theorem work_cases :
    (floor.resumed? index = none ∧ (∀ property, Calm property floor (floor.work index)) ∧
      (floor.work index).begun = floor.begun) ∨
    (floor.resumed? index = none ∧ ∃ job, floor.desks[index]? = some (.busy job) ∧
      Abandons index job floor (floor.work index)) ∨
    (∃ desk job, floor.desks[index]? = some desk ∧ desk.job? = some job ∧
      floor.isCancelled job.scope = false ∧ floor.resumed? index = some job.task ∧
      Resumes index job floor (floor.work index)) := by
  unfold work resumed?
  cases found : floor.desks[index]? with
  | none => exact Or.inl ⟨rfl, fun _ => .refl floor, rfl⟩
  | some desk =>
      cases desk with
      | gone => exact Or.inl ⟨rfl, fun _ => .refl floor, rfl⟩
      | idle =>
          refine Or.inl ⟨rfl, ?_⟩
          dsimp only
          split
          · exact ⟨fun _ => floor.calm_stop index,
              (floor.begun_stop index).trans (floor.begun_clear index found rfl)⟩
          · exact ⟨fun _ => .refl floor, rfl⟩
      | busy job =>
          by_cases cancelled : floor.isCancelled job.scope = true
          · right
            left
            simp only [cancelled, if_true, true_and]
            exact ⟨job, rfl, floor.abandons_giveUp index job⟩
          · right
            right
            simp only [cancelled, Bool.false_eq_true, if_false]
            exact ⟨_, job, rfl, rfl, by simpa using cancelled, rfl, floor.resumes_run index job⟩
      | handed job =>
          by_cases shut : floor.shut = true
          · left
            simp only [shut, Bool.true_or, if_true, true_and]
            constructor
            · intro property
              exact (floor.calm_deliver job rfl).trans (calm_stop _ index)
            · exact (begun_stop _ index).trans (floor.begun_clear index found rfl)
          · by_cases cancelled : floor.isCancelled job.scope = true
            · left
              simp only [shut, cancelled, Bool.or_true, Bool.false_eq_true, if_true, if_false,
                true_and]
              constructor
              · intro property
                exact (floor.concludes_complete index job _).calm rfl
              · exact (floor.begun_complete index job _).trans (floor.begun_clear index found rfl)
            · right
              right
              simp only [shut, cancelled, Bool.or_self, Bool.false_eq_true, if_false]
              have resumes :=
                (floor.onAgenda (·.watch job.scope (.worker index))).resumes_run index job
              refine ⟨_, job, rfl, rfl, by simpa using cancelled, rfl, resumes.shared, resumes.now,
                ?_, resumes.added, resumes.begun⟩
              intro property only next
              exact resumes.only property ⟨only.queue, only.desks, only.callers⟩ next

end Workers

end Floor

end RiskGate.Pool
