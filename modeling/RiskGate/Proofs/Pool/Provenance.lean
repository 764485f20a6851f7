import RiskGate.Proofs.Pool.Attention
import RiskGate.Proofs.Pool.Custody

/-!
# Which task a job is for

A batch hands its tasks in one after another, and each of them becomes the job with the
ticket that stands at the place of the task.  Every job in the queue and on a desk is for
such a task, so that the outcome which is reported at some place is the one of the task
that was given at this place.

A worker that resumes a task may leave another one behind.  What a task is about does not
change by that; it is the `mark` of the task.

The plan says which tasks were given to each caller.  Callers who submit single jobs are
left out: there are none in a pool that is used for batches only.
-/

namespace RiskGate.Pool

open Schedule (Actor Agenda)

variable {ε τ ρ μ : Type}

/-- The batch of a caller, under way or ended. -/
def Caller.batch? : Caller τ ρ → Option (Batch τ ρ)
  | .batching batch | .batched batch _ => some batch
  | .offering .. | .offered .. | .closing .. | .closed .. => none

namespace Floor

/-- The batches of the callers, under way or ended. -/
def batches (floor : Floor ε τ ρ) (caller : Nat) : Option (Batch τ ρ) :=
  floor.callers[caller]?.bind Caller.batch?

/-! ## Places of tickets -/

/-- A ticket stands in the batch of a caller at an index. -/
def Stands (batches : Nat → Option (Batch τ ρ)) (caller index ticket : Nat) : Prop :=
  ∃ batch, batches caller = some batch ∧ batch.tickets[index]? = some ticket

/-- A job is for a task: its ticket stands in a batch at the place of the task. -/
def Stems (plan : Nat → List τ) (batches : Nat → Option (Batch τ ρ)) (job : Job τ) (task : τ) :
    Prop :=
  ∃ (caller : Nat) (batch : Batch τ ρ) (index : Nat), batches caller = some batch ∧
    batch.scope = job.scope ∧ batch.tickets[index]? = some job.ticket ∧
    (plan caller)[index]? = some task

/-- Tickets were added, and none of those was given out before the bound. -/
def Extends (bound : Nat) (old new : List Nat) : Prop :=
  ∃ added, new = old ++ added ∧ ∀ ticket ∈ added, bound ≤ ticket

namespace Extends

theorem refl (bound : Nat) (tickets : List Nat) : Extends bound tickets tickets :=
  ⟨[], (List.append_nil _).symm, nofun⟩

theorem concat (tickets : List Nat) (ticket : Nat) :
    Extends ticket tickets (tickets ++ [ticket]) :=
  ⟨[ticket], rfl, fun _ member => Nat.le_of_eq (List.mem_singleton.mp member).symm⟩

theorem trans {bound later : Nat} {old middle new : List Nat} (first : Extends bound old middle)
    (onward : bound ≤ later) (second : Extends later middle new) : Extends bound old new := by
  obtain ⟨early, rfl, fresh⟩ := first
  obtain ⟨late, rfl, fresher⟩ := second
  refine ⟨early ++ late, List.append_assoc .., ?_⟩
  intro ticket member
  rcases List.mem_append.mp member with isEarly | isLate
  · exact fresh ticket isEarly
  · exact Nat.le_trans onward (fresher ticket isLate)

/-- A ticket that was there stays at its place. -/
theorem getElem? {bound index ticket : Nat} {old new : List Nat} (extends_ : Extends bound old new)
    (found : old[index]? = some ticket) : new[index]? = some ticket := by
  obtain ⟨added, rfl, _⟩ := extends_
  rw [List.getElem?_append_left (List.getElem?_eq_some_iff.mp found).1]
  exact found

/-- A ticket that is there was there before, or is new. -/
theorem old_or_new {bound index ticket : Nat} {old new : List Nat}
    (extends_ : Extends bound old new) (found : new[index]? = some ticket) :
    old[index]? = some ticket ∨ bound ≤ ticket := by
  obtain ⟨added, rfl, fresh⟩ := extends_
  rw [List.getElem?_append] at found
  split at found
  · exact .inl found
  · exact .inr (fresh ticket (List.mem_of_getElem? found))

end Extends

/-- Batches go on; none loses a ticket, and tickets that come in are new. -/
def Grows (bound : Nat) (before after : Nat → Option (Batch τ ρ)) : Prop :=
  ∀ caller batch, before caller = some batch →
    ∃ later, after caller = some later ∧ later.scope = batch.scope ∧
      Extends bound batch.tickets later.tickets

/-- Every job is for a task that was given, every ticket stands at one place, and batches
have picked up what was delivered. -/
structure Housed (mark : τ → μ) (plan : Nat → List τ) (batches : Nat → Option (Batch τ ρ))
    (floor : Floor ε τ ρ) : Prop where
  queue : ∀ job ∈ floor.queue, Stems plan batches job job.task
  handed : ∀ job, .handed job ∈ floor.desks → Stems plan batches job job.task
  busy : ∀ job, .busy job ∈ floor.desks →
    ∃ task, Stems plan batches job task ∧ mark job.task = mark task
  issued : ∀ caller index ticket, Stands batches caller index ticket → ticket < floor.nextTicket
  distinct : ∀ caller index other place ticket, Stands batches caller index ticket →
    Stands batches other place ticket → caller = other ∧ index = place
  collects : ∀ caller batch, batches caller = some batch → Collects batch floor

variable {mark : τ → μ} {plan : Nat → List τ} {batches : Nat → Option (Batch τ ρ)}
variable {before middle after floor : Floor ε τ ρ}

theorem Stems.grows {later : Nat → Option (Batch τ ρ)} {job : Job τ} {task : τ}
    {bound : Nat} (stems : Stems plan batches job task) (grows : Grows bound batches later) :
    Stems plan later job task := by
  obtain ⟨caller, batch, index, found, scope, ticket, given⟩ := stems
  obtain ⟨next, nextFound, nextScope, tickets⟩ := grows caller batch found
  exact ⟨caller, next, index, nextFound, nextScope.trans scope, tickets.getElem? ticket, given⟩

theorem grows_update {bound caller : Nat} {batch later : Batch τ ρ}
    (found : batches caller = some batch) (scope : later.scope = batch.scope)
    (tickets : Extends bound batch.tickets later.tickets) :
    Grows bound batches (Function.update batches caller (some later)) := by
  intro other old oldFound
  by_cases same : other = caller
  · subst same
    cases found.symm.trans oldFound
    exact ⟨later, Function.update_self .., scope, tickets⟩
  · exact ⟨old, (Function.update_of_ne same ..).trans oldFound, rfl, .refl _ _⟩

/-- The jobs stay with their tasks as long as batches only grow. -/
theorem Housed.grows {later : Nat → Option (Batch τ ρ)} (housed : Housed mark plan batches floor)
    {bound : Nat} (grows : Grows bound batches later)
    (issued : ∀ caller index ticket, Stands later caller index ticket → ticket < floor.nextTicket)
    (distinct : ∀ caller index other place ticket, Stands later caller index ticket →
      Stands later other place ticket → caller = other ∧ index = place)
    (collects : ∀ caller batch, later caller = some batch → Collects batch floor) :
    Housed mark plan later floor where
  queue := fun job member => (housed.queue job member).grows grows
  handed := fun job member => (housed.handed job member).grows grows
  busy := by
    intro job member
    obtain ⟨task, stems, same⟩ := housed.busy job member
    exact ⟨task, stems.grows grows, same⟩
  issued := issued
  distinct := distinct
  collects := collects

/-- A batch is replaced by one with the same tickets. -/
theorem Housed.replace (housed : Housed mark plan batches floor) {caller : Nat}
    {batch : Batch τ ρ} (later : Batch τ ρ) (found : batches caller = some batch)
    (scope : later.scope = batch.scope) (tickets : later.tickets = batch.tickets)
    (collects : Collects later floor) :
    Housed mark plan (Function.update batches caller (some later)) floor := by
  have stands : ∀ other index ticket,
      Stands (Function.update batches caller (some later)) other index ticket →
        Stands batches other index ticket := by
    rintro other index ticket ⟨held, heldFound, ticketEq⟩
    by_cases same : other = caller
    · subst same
      rw [Function.update_self] at heldFound
      cases heldFound
      exact ⟨batch, found, tickets ▸ ticketEq⟩
    · rw [Function.update_of_ne same] at heldFound
      exact ⟨held, heldFound, ticketEq⟩
  have extends_ : Extends 0 batch.tickets later.tickets := by
    rw [tickets]
    exact .refl _ _
  apply housed.grows (grows_update found scope extends_)
  · exact fun other index ticket here => housed.issued other index ticket (stands _ _ _ here)
  · exact fun other index another place ticket here there =>
      housed.distinct other index another place ticket (stands _ _ _ here) (stands _ _ _ there)
  · intro other held heldFound
    by_cases same : other = caller
    · subst same
      rw [Function.update_self] at heldFound
      cases heldFound
      exact collects
    · rw [Function.update_of_ne same] at heldFound
      exact housed.collects other held heldFound

/-- Callers without a batch do not count. -/
theorem Housed.replan {other : Nat → List τ} (housed : Housed mark plan batches floor)
    (agree : ∀ caller batch, batches caller = some batch → other caller = plan caller) :
    Housed mark other batches floor := by
  have moved : ∀ job task, Stems plan batches job task → Stems other batches job task := by
    rintro job task ⟨caller, batch, index, found, scope, ticket, given⟩
    exact ⟨caller, batch, index, found, scope, ticket, (agree caller batch found).symm ▸ given⟩
  constructor
  · exact fun job member => moved job _ (housed.queue job member)
  · exact fun job member => moved job _ (housed.handed job member)
  · intro job member
    obtain ⟨task, stems, same⟩ := housed.busy job member
    exact ⟨task, moved job task stems, same⟩
  · exact housed.issued
  · exact housed.distinct
  · exact housed.collects

/-! ## Jobs that move -/

/-- A job is in the queue or on a desk. -/
def Holds (job : Job τ) (floor : Floor ε τ ρ) : Prop :=
  job ∈ floor.queue ∨ .handed job ∈ floor.desks ∨ .busy job ∈ floor.desks

/-- Jobs go from the queue to a desk and are done there, and no job comes in. -/
structure Shuffles (mark : τ → μ) (before after : Floor ε τ ρ) : Prop where
  nextTicket : after.nextTicket = before.nextTicket
  queue : ∀ job ∈ after.queue, job ∈ before.queue
  handed : ∀ job, .handed job ∈ after.desks → .handed job ∈ before.desks ∨ job ∈ before.queue
  busy : ∀ job, .busy job ∈ after.desks → ∃ old, before.Holds old ∧ old.ticket = job.ticket ∧
    old.scope = job.scope ∧ mark old.task = mark job.task
  deliveries : ∀ delivery ∈ before.deliveries, delivery ∈ after.deliveries

namespace Shuffles

/-- Nothing happens to the jobs. -/
theorem of_eq (nextTicket : after.nextTicket = before.nextTicket)
    (queue : after.queue = before.queue) (desks : after.desks = before.desks)
    (deliveries : ∀ delivery ∈ before.deliveries, delivery ∈ after.deliveries) :
    Shuffles mark before after where
  nextTicket := nextTicket
  queue := fun _ member => queue ▸ member
  handed := fun _ member => .inl (desks ▸ member)
  busy := fun job member => ⟨job, .inr (.inr (desks ▸ member)), rfl, rfl, rfl⟩
  deliveries := deliveries

theorem refl (floor : Floor ε τ ρ) : Shuffles mark floor floor :=
  .of_eq rfl rfl rfl fun _ => id

theorem holds (shuffles : Shuffles mark before after) {job : Job τ} (held : after.Holds job) :
    ∃ old, before.Holds old ∧ old.ticket = job.ticket ∧ old.scope = job.scope ∧
      mark old.task = mark job.task := by
  rcases held with queued | handed | busy
  · exact ⟨job, .inl (shuffles.queue job queued), rfl, rfl, rfl⟩
  · rcases shuffles.handed job handed with old | queued
    · exact ⟨job, .inr (.inl old), rfl, rfl, rfl⟩
    · exact ⟨job, .inl queued, rfl, rfl, rfl⟩
  · exact shuffles.busy job busy

theorem trans (first : Shuffles mark before middle) (second : Shuffles mark middle after) :
    Shuffles mark before after where
  nextTicket := second.nextTicket.trans first.nextTicket
  queue := fun job member => first.queue job (second.queue job member)
  handed := by
    intro job member
    rcases second.handed job member with old | queued
    · exact first.handed job old
    · exact .inr (first.queue job queued)
  busy := by
    intro job member
    obtain ⟨held, heldThere, ticket, scope, same⟩ := second.busy job member
    obtain ⟨old, oldThere, oldTicket, oldScope, oldSame⟩ := first.holds heldThere
    exact ⟨old, oldThere, oldTicket.trans ticket, oldScope.trans scope, oldSame.trans same⟩
  deliveries := fun delivery member => second.deliveries delivery (first.deliveries delivery member)

end Shuffles

/-- A held job is for a task with its mark. -/
theorem Housed.holds (housed : Housed mark plan batches floor) {job : Job τ}
    (held : floor.Holds job) : ∃ task, Stems plan batches job task ∧ mark job.task = mark task := by
  rcases held with queued | handed | busy
  · exact ⟨job.task, housed.queue job queued, rfl⟩
  · exact ⟨job.task, housed.handed job handed, rfl⟩
  · exact housed.busy job busy

theorem Housed.shuffle (housed : Housed mark plan batches before)
    (shuffles : Shuffles mark before after) : Housed mark plan batches after where
  queue := fun job member => housed.queue job (shuffles.queue job member)
  handed := by
    intro job member
    rcases shuffles.handed job member with old | queued
    · exact housed.handed job old
    · exact housed.queue job queued
  busy := by
    intro job member
    obtain ⟨old, oldThere, ticket, scope, same⟩ := shuffles.busy job member
    obtain ⟨task, ⟨caller, batch, index, found, batchScope, stands, given⟩, taskSame⟩ :=
      housed.holds oldThere
    exact ⟨task, ⟨caller, batch, index, found, batchScope.trans scope, ticket ▸ stands, given⟩,
      same.symm.trans taskSame⟩
  issued := by
    rw [shuffles.nextTicket]
    exact housed.issued
  distinct := housed.distinct
  collects := by
    intro caller batch found entry member
    obtain ⟨delivery, delivered, rest⟩ := housed.collects caller batch found entry member
    exact ⟨delivery, shuffles.deliveries delivery delivered, rest⟩

section Moves

variable (floor : Floor ε τ ρ)

theorem shuffles_onAgenda (change : Agenda → Agenda) : Shuffles mark floor (floor.onAgenda change) :=
  .of_eq rfl rfl rfl fun _ => id

theorem shuffles_deliver (job : Job τ) (outcome : Outcome ρ) :
    Shuffles mark floor (floor.deliver job outcome) :=
  .of_eq rfl rfl rfl fun _ member => List.mem_cons_of_mem _ member

theorem shuffles_vacate : Shuffles mark floor floor.vacate := by
  unfold vacate
  split
  · exact .of_eq rfl rfl rfl fun _ => id
  · exact .of_eq rfl rfl rfl fun _ => id

/-- A desk is cleared. -/
theorem shuffles_clear (index : Nat) {desk : Desk τ} (clear : desk.job? = none) :
    Shuffles mark floor (floor.setDesk index desk) where
  nextTicket := rfl
  queue := fun _ => id
  handed := by
    intro job member
    rcases List.mem_or_eq_of_mem_set member with old | rfl
    · exact .inl old
    · cases clear
  busy := by
    intro job member
    rcases List.mem_or_eq_of_mem_set member with old | rfl
    · exact ⟨job, .inr (.inr old), rfl, rfl, rfl⟩
    · cases clear
  deliveries := fun _ => id

theorem shuffles_handOver : Shuffles mark floor floor.handOver := by
  unfold handOver
  split
  next job queue worker idle queueEq _ =>
    let taken : Floor ε τ ρ := { floor with queue := queue, idle := idle }
    have vacated : Shuffles mark taken taken.vacate := taken.shuffles_vacate
    have desks : taken.vacate.desks = floor.desks := taken.sameStaff_vacate.desks
    have inQueue : ∀ other ∈ taken.vacate.queue, other ∈ floor.queue := by
      intro other member
      rw [queueEq]
      exact List.mem_cons_of_mem _ (vacated.queue other member)
    constructor
    · exact vacated.nextTicket
    · exact inQueue
    · intro other member
      rcases List.mem_or_eq_of_mem_set member with old | new
      · exact .inl (desks ▸ old)
      · cases new
        exact .inr (queueEq ▸ List.mem_cons_self)
    · intro other member
      rcases List.mem_or_eq_of_mem_set member with old | new
      · exact ⟨other, .inr (.inr (desks ▸ old)), rfl, rfl, rfl⟩
      · cases new
    · exact vacated.deliveries
  next => exact .refl floor

theorem shuffles_dispatch : Shuffles mark floor floor.dispatch := by
  refine dispatch_preserves (.refl floor) ?_ ?_
  · exact fun between _ _ shuffles => shuffles.trans (shuffles_handOver between)
  · intro _ _
    have emptied : Shuffles mark floor floor.emptied :=
      ⟨rfl, nofun, fun _ => .inl, fun job member => ⟨job, .inr (.inr member), rfl, rfl, rfl⟩,
        fun _ => id⟩
    have failed : Shuffles mark floor floor.closeQueue :=
      failAll_preserves (motive := Shuffles mark floor)
        (fun between job shuffles => shuffles.trans (between.shuffles_deliver job _)) floor.queue
        emptied
    exact failed.trans (shuffles_onAgenda _ _)

theorem shuffles_stop (index : Nat) : Shuffles mark floor (floor.stop index) :=
  (floor.shuffles_clear index rfl).trans (shuffles_onAgenda _ _)

theorem shuffles_complete (index : Nat) (job : Job τ) (outcome : Outcome ρ) :
    Shuffles mark floor (floor.complete index job outcome) := by
  let recorded : Floor ε τ ρ :=
    { (floor.onAgenda (·.release (.worker index))).deliver job outcome with
      completed := floor.completed + 1 }
  have delivered : Shuffles mark floor recorded :=
    .of_eq rfl rfl rfl fun _ member => List.mem_cons_of_mem _ member
  have completeEq : floor.complete index job outcome =
      if recorded.shut then recorded.stop index else recorded.register index := rfl
  rw [completeEq]
  split
  · exact delivered.trans (recorded.shuffles_stop index)
  · have cleared : Shuffles mark recorded (recorded.setDesk index .idle) :=
      recorded.shuffles_clear index rfl
    refine (delivered.trans cleared).trans ?_
    unfold register
    dsimp only
    split
    · exact .of_eq rfl rfl rfl fun _ => id
    · exact .of_eq rfl rfl rfl fun _ => id

variable [Trade ε τ ρ]

/-- Resuming a task leaves one with the same mark. -/
def KeepsMark (ε ρ : Type) [Trade ε τ ρ] (mark : τ → μ) : Prop :=
  ∀ runner now (task next : τ) (shared : ε) alarms,
    (Trade.resume (ρ := ρ) runner now task shared).2 = .suspended next alarms →
      mark next = mark task

theorem shuffles_run (keepsMark : KeepsMark ε ρ mark) {index : Nat} {job : Job τ}
    (held : floor.Holds job) : Shuffles mark floor (floor.run index job) := by
  have same := keepsMark (.worker index) floor.now job.task
  unfold run
  dsimp only
  rcases resumed : Trade.resume (ρ := ρ) (Actor.worker index) floor.now job.task floor.shared
    with ⟨shared, outcome | ⟨task, alarms⟩⟩
  · have changed : Shuffles mark floor { floor with shared := shared } :=
      .of_eq rfl rfl rfl fun _ => id
    exact changed.trans (shuffles_complete _ index job outcome)
  · refine ⟨rfl, fun _ => id, ?_, ?_, fun _ => id⟩
    · intro other member
      rcases List.mem_or_eq_of_mem_set member with old | new
      · exact .inl old
      · cases new
    · intro other member
      rcases List.mem_or_eq_of_mem_set member with old | new
      · exact ⟨other, .inr (.inr old), rfl, rfl, rfl⟩
      · cases new
        refine ⟨job, held, rfl, rfl, (same task floor.shared alarms ?_).symm⟩
        rw [resumed]

theorem shuffles_giveUp (index : Nat) (job : Job τ) :
    Shuffles mark floor (floor.giveUp index job) := by
  have changed : Shuffles mark floor
      { floor with
        shared := (Trade.abandon ρ (Actor.worker index) floor.now job.task floor.shared).1 } :=
    .of_eq rfl rfl rfl fun _ => id
  exact (changed.trans (shuffles_onAgenda _ _)).trans (shuffles_complete _ index job _)

theorem shuffles_work (keepsMark : KeepsMark ε ρ mark) (index : Nat) :
    Shuffles mark floor (floor.work index) := by
  unfold work
  split
  next job found =>
    have held : floor.Holds job := .inr (.inl (List.mem_of_getElem? found))
    split
    · exact (floor.shuffles_deliver job _).trans (shuffles_stop _ index)
    · split
      · exact floor.shuffles_complete index job _
      · exact (floor.shuffles_onAgenda _).trans (shuffles_run _ keepsMark held)
  next job found =>
    split
    · exact floor.shuffles_giveUp index job
    · exact floor.shuffles_run keepsMark (.inr (.inr (List.mem_of_getElem? found)))
  next =>
    split
    · exact floor.shuffles_stop index
    · exact .refl floor
  next => exact .refl floor
  next => exact .refl floor

end Moves

/-! ## Jobs that come in -/

/-- A job may come into the queue, and nothing else happens to the jobs. -/
structure Admits (job : Job τ) (before after : Floor ε τ ρ) : Prop where
  staff : SameStaff before after
  queue : ∀ other ∈ after.queue, other ∈ before.queue ∨ other = job
  deliveries : ∀ delivery ∈ before.deliveries, delivery ∈ after.deliveries

theorem Housed.admit (housed : Housed mark plan batches before) {job : Job τ}
    (admits : Admits job before after) (stems : Stems plan batches job job.task) :
    Housed mark plan batches after where
  queue := by
    intro other member
    rcases admits.queue other member with old | rfl
    · exact housed.queue other old
    · exact stems
  handed := by
    rw [admits.staff.desks]
    exact housed.handed
  busy := by
    rw [admits.staff.desks]
    exact housed.busy
  issued := by
    rw [admits.staff.nextTicket]
    exact housed.issued
  distinct := housed.distinct
  collects := by
    intro caller batch found entry member
    obtain ⟨delivery, delivered, rest⟩ := housed.collects caller batch found entry member
    exact ⟨delivery, admits.deliveries delivery delivered, rest⟩

section Submissions

variable (floor : Floor ε τ ρ) (job : Job τ)

theorem admits_reject (failure : Failure) : Admits job floor (floor.reject job failure) where
  staff := floor.sameStaff_reject job failure
  queue := fun _ => .inl
  deliveries := fun _ member => List.mem_cons_of_mem _ member

theorem admits_enqueue : Admits job floor (floor.enqueue job) := by
  have inQueue : ∀ other ∈ floor.queue ++ [job], other ∈ floor.queue ∨ other = job := by
    simp
  refine ⟨floor.sameStaff_enqueue job, ?_, ?_⟩
  · unfold enqueue
    dsimp only
    split
    · exact inQueue
    · exact inQueue
  · unfold enqueue
    dsimp only
    split
    · exact fun _ => id
    · exact fun _ => id

theorem Admits.after_sameStaff {middle : Floor ε τ ρ} (admits : Admits job middle after)
    (staff : SameStaff floor middle) (queue : middle.queue = floor.queue)
    (deliveries : middle.deliveries = floor.deliveries) : Admits job floor after where
  staff := staff.trans admits.staff
  queue := by
    rw [← queue]
    exact admits.queue
  deliveries := by
    rw [← deliveries]
    exact admits.deliveries

theorem admits_offer (caller : Nat) (wait : Span) :
    Admits job floor (floor.offer caller job wait).1 := by
  rcases floor.offer_cases job caller wait with
    ⟨_, offerEq⟩ | ⟨_, _, offerEq⟩ | ⟨_, _, _, offerEq⟩ | ⟨_, _, _, offerEq⟩
  · rw [offerEq]
    exact floor.admits_reject job _
  · rw [offerEq]
    exact (admits_enqueue _ job).after_sameStaff floor job ⟨rfl, rfl, rfl, rfl, rfl, rfl, rfl⟩ rfl
      rfl
  · rw [offerEq]
    exact floor.admits_reject job _
  · rw [offerEq]
    exact ⟨⟨rfl, rfl, rfl, rfl, rfl, rfl, rfl⟩, fun _ => .inl, fun _ => id⟩

theorem admits_offerAgain (caller : Nat) (wait : Span) (due : Nat) :
    Admits job floor (floor.offerAgain caller job wait due).1 := by
  have withdrawn := floor.sameStaff_withdraw caller
  rcases floor.offerAgain_cases job caller wait due with
    ⟨_, offerEq⟩ | ⟨_, _, offerEq⟩ | ⟨_, _, _, offerEq⟩ | ⟨_, _, _, offerEq⟩
  · rw [offerEq]
    exact (admits_reject _ job _).after_sameStaff floor job ⟨rfl, rfl, rfl, rfl, rfl, rfl, rfl⟩ rfl
      rfl
  · rw [offerEq]
    exact (admits_enqueue _ job).after_sameStaff floor job withdrawn rfl rfl
  · rw [offerEq]
    exact (admits_reject _ job _).after_sameStaff floor job withdrawn rfl rfl
  · rw [offerEq]
    exact ⟨⟨rfl, rfl, rfl, rfl, rfl, rfl, rfl⟩, fun _ => .inl, fun _ => id⟩

end Submissions

end Floor

end RiskGate.Pool
