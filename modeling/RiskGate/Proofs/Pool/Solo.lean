import RiskGate.Proofs.Pool.Reporting
import RiskGate.Proofs.Pool.Staffing

/-!
# A batch that runs alone

A task may end in the very turn in which it is begun.  While nothing else goes on in a pool,
a batch of such tasks, of no more than there are workers, is run in the order in which the
tasks stand in it, even where the queue is shorter than the batch.

The jobs of the batch stand in a line: first those that lie on desks, in the order in which
their workers take their turns, then those in the queue, then the one that waits for room;
the tasks that are not handed in yet come after them.  Every turn keeps the line in order,
and takes its first job away or moves jobs forward.
-/

namespace RiskGate.Pool

open Schedule (Actor Agenda)

variable {ε τ ρ : Type}

/-- Tasks that end in the turns in which they are begun, one after another: their outcomes,
and what they share in the end. -/
inductive Performs [Trade ε τ ρ] (now : Nat) : List τ → ε → List (Outcome ρ) → ε → Prop
  | nil (shared : ε) : Performs now [] shared [] shared
  | cons {task : τ} {rest : List τ} {shared next final : ε} {outcome : Outcome ρ}
      {outcomes : List (Outcome ρ)}
      (ends : ∀ index, Trade.resume (Actor.worker index) now task shared =
        (next, .finished outcome))
      (later : Performs now rest next outcomes final) :
      Performs now (task :: rest) shared (outcome :: outcomes) final

theorem Performs.length [Trade ε τ ρ] {now : Nat} {tasks : List τ} {shared final : ε}
    {outcomes : List (Outcome ρ)} (performs : Performs now tasks shared outcomes final) :
    outcomes.length = tasks.length := by
  induction performs with
  | nil => rfl
  | cons _ _ ih => rw [List.length_cons, List.length_cons, ih]

theorem Performs.of_nil [Trade ε τ ρ] {now : Nat} {shared final : ε}
    {outcomes : List (Outcome ρ)} (performs : Performs now ([] : List τ) shared outcomes final) :
    outcomes = [] ∧ shared = final := by
  cases performs
  exact ⟨rfl, rfl⟩

theorem Performs.uncons [Trade ε τ ρ] {now : Nat} {task : τ} {rest : List τ} {shared final : ε}
    {outcomes : List (Outcome ρ)} (performs : Performs now (task :: rest) shared outcomes final) :
    ∃ outcome later next, outcomes = outcome :: later ∧
      (∀ index, Trade.resume (Actor.worker index) now task shared = (next, .finished outcome)) ∧
      Performs now rest next later final := by
  cases performs with
  | cons ends later => exact ⟨_, _, _, rfl, ends, later⟩

/-- A batch that runs alone, with what comes of it. -/
structure Solo (ε ρ : Type) where
  caller : Nat
  /-- Who watches over its deadline. -/
  timer : Nat
  scope : Nat
  wait : Span
  /-- The ticket of its first task. -/
  first : Nat
  capacity : Nat
  now : Nat
  outcomes : List (Outcome ρ)
  final : ε

namespace Solo

/-- The actor has to do with the batch. -/
def Concerns (solo : Solo ε ρ) : Actor → Prop
  | .dispatcher | .worker _ => True
  | .caller number => number = solo.caller
  | .timer number => number = solo.timer
  | .guest _ => False

/-- What does not change while the batch runs. -/
structure Ground (solo : Solo ε ρ) (floor : Floor ε τ ρ) : Prop where
  open_ : floor.shut = false
  dispatching : floor.dispatching = true
  now_eq : floor.now = solo.now
  live : floor.isCancelled solo.scope = false
  /-- Nobody else waits for one of its jobs. -/
  alone : ∀ (other : Nat) (state : Caller τ ρ), other ≠ solo.caller →
    floor.callers[other]? = some state → ∀ ticket, solo.first ≤ ticket → state.awaits ticket = false
  room : 0 < solo.capacity
  /-- Its jobs can wait for room, or do not have to. -/
  patience : solo.now < Schedule.waitOver solo.now solo.wait ∨
    solo.outcomes.length ≤ solo.capacity

/-- The jobs that are not done stand in line, and the tasks that are left come after them. -/
structure Line [Trade ε τ ρ] (solo : Solo ε ρ) (done : Nat) (jobs : List (Job τ)) (rest : List τ)
    (floor : Floor ε τ ρ) : Prop where
  reached : done ≤ solo.outcomes.length
  tickets : jobs.map Job.ticket = List.range' (solo.first + done) jobs.length
  nextTicket : floor.nextTicket = solo.first + done + jobs.length
  scopes : ∀ job ∈ jobs, job.scope = solo.scope
  performs : Performs solo.now (jobs.map Job.task ++ rest) floor.shared (solo.outcomes.drop done)
    solo.final
  known : ∀ index, (floor.outcome? (solo.first + index)).map Delivery.outcome =
    (solo.outcomes.take done)[index]?

/-- Jobs lie on desks, and there are idle workers for all that follow. -/
structure Seats (handed : List (Nat × Job τ)) (pending : Nat) (floor : Floor ε τ ρ) : Prop where
  seated : ∀ entry ∈ handed, floor.desks[entry.1]? = some (.handed entry.2)
  distinct : (floor.idle ++ handed.map Prod.fst).Nodup
  there : ∀ index ∈ floor.idle, index < floor.desks.length
  enough : pending ≤ floor.idle.length

/-- Some workers are ready, and nobody else who has nothing to do with the batch. -/
structure Readied (solo : Solo ε ρ) (workers : List Nat) (agenda : Agenda) : Prop where
  workers_eq : agenda.workers = workers
  concerned : ∀ actor ∈ agenda.ready, solo.Concerns actor

/-- How the caller of the batch waits, with the job that waits for room and the tasks that
are left. -/
inductive Waits (solo : Solo ε ρ) (floor : Floor ε τ ρ) : Stage τ → List (Job τ) → List τ → Prop
  | joining (waiting : floor.waiting = []) (granted : floor.granted = []) :
      Waits solo floor .joining [] []
  | waiting (job : Job τ) (due : Nat) (rest : List τ) (late : solo.now < due)
      (waiting : floor.waiting = [solo.caller]) (granted : floor.granted = [])
      (full : floor.free = 0) : Waits solo floor (.offering job due rest) [job] rest
  | promised (job : Job τ) (due : Nat) (rest : List τ) (waiting : floor.waiting = [])
      (granted : floor.granted = [solo.caller])
      (ready : .caller solo.caller ∈ floor.agenda.ready) :
      Waits solo floor (.offering job due rest) [job] rest

/-- The jobs of the batch that are not done, in line. -/
def jobs (handed : List (Nat × Job τ)) (offered : List (Job τ)) (floor : Floor ε τ ρ) :
    List (Job τ) :=
  handed.map Prod.snd ++ floor.queue ++ offered

/-- How far the batch is: so many of its tasks are done, these jobs lie on desks, this one
waits for room, and these tasks are left. -/
structure Course [Trade ε τ ρ] (solo : Solo ε ρ) (done : Nat) (handed : List (Nat × Job τ))
    (workers : List Nat) (offered : List (Job τ)) (rest : List τ) (floor : Floor ε τ ρ) : Prop where
  ground : solo.Ground floor
  line : solo.Line done (jobs handed offered floor) rest floor
  seats : Seats handed (floor.queue.length + offered.length + rest.length) floor
  readied : solo.Readied workers floor.agenda
  places : floor.free + floor.queue.length + floor.granted.length = solo.capacity

/-- The caller's record of the batch, of which so many jobs were made. -/
structure Keeps (solo : Solo ε ρ) (count : Nat) (batch : Batch τ ρ) : Prop where
  scope : batch.scope = solo.scope
  wait : batch.wait = solo.wait
  tickets : batch.tickets = List.range' solo.first count

/-- The batch is under way, and its caller has the record of it. -/
structure Going [Trade ε τ ρ] (solo : Solo ε ρ) (done : Nat) (handed : List (Nat × Job τ))
    (workers : List Nat) (offered : List (Job τ)) (rest : List τ) (floor : Floor ε τ ρ) : Prop
    extends Course solo done handed workers offered rest floor where
  batch : ∃ batch, floor.callers[solo.caller]? = some (.batching batch) ∧
    solo.Keeps (done + (jobs handed offered floor).length) batch ∧
    solo.Waits floor batch.stage offered rest
  last : jobs handed offered floor = [] → .caller solo.caller ∈ floor.agenda.ready

/-- The dispatcher knows that there is something in the queue. -/
def Alert (floor : Floor ε τ ρ) : Prop := floor.queue ≠ [] → .dispatcher ∈ floor.agenda.ready

/-- A bound on the turns that are left. -/
def toil (handed : List (Nat × Job τ)) (offered : List (Job τ)) (rest : List τ)
    (floor : Floor ε τ ρ) : Nat :=
  floor.agenda.ready.length + floor.waiting.length + 2 * handed.length + 4 * floor.queue.length +
    6 * (offered.length + rest.length)

/-! ## What the moves leave alone -/

section Frames

variable {solo : Solo ε ρ} {before after : Floor ε τ ρ}

theorem Ground.frame (ground : solo.Ground before) (shut : after.shut = before.shut)
    (dispatching : after.dispatching = before.dispatching) (now_eq : after.now = before.now)
    (cancelled : after.agenda.cancelled = before.agenda.cancelled)
    (others : ∀ number, number ≠ solo.caller → after.callers[number]? = before.callers[number]?) :
    solo.Ground after where
  open_ := shut.trans ground.open_
  dispatching := dispatching.trans ground.dispatching
  now_eq := now_eq.trans ground.now_eq
  live := by
    rw [Floor.isCancelled, Agenda.isCancelled, cancelled]
    exact ground.live
  alone := by
    intro other state distinct found
    rw [others other distinct] at found
    exact ground.alone other state distinct found
  room := ground.room
  patience := ground.patience

theorem Line.frame [Trade ε τ ρ] {done : Nat} {line next : List (Job τ)} {rest : List τ}
    (stands : solo.Line done line rest before) (same : next = line)
    (nextTicket : after.nextTicket = before.nextTicket) (shared : after.shared = before.shared)
    (deliveries : after.deliveries = before.deliveries) : solo.Line done next rest after where
  reached := stands.reached
  tickets := same ▸ stands.tickets
  nextTicket := by
    rw [nextTicket, same]
    exact stands.nextTicket
  scopes := same ▸ stands.scopes
  performs := by
    rw [shared, same]
    exact stands.performs
  known := by
    intro index
    rw [Floor.outcome?, deliveries]
    exact stands.known index

theorem Waits.frame {stage : Stage τ} {offered : List (Job τ)} {rest : List τ}
    (waits : solo.Waits before stage offered rest) (waiting : after.waiting = before.waiting)
    (granted : after.granted = before.granted) (free : after.free = before.free)
    (ready : .caller solo.caller ∈ before.agenda.ready → .caller solo.caller ∈ after.agenda.ready) :
    solo.Waits after stage offered rest := by
  cases waits with
  | joining noneWaits noneGranted =>
      exact .joining (waiting.trans noneWaits) (granted.trans noneGranted)
  | waiting job due rest late isWaiting noneGranted full =>
      exact .waiting job due rest late (waiting.trans isWaiting) (granted.trans noneGranted)
        (free.trans full)
  | promised job due rest noneWaits isGranted isReady =>
      exact .promised job due rest (waiting.trans noneWaits) (granted.trans isGranted)
        (ready isReady)

/-- A place becomes free for nobody. -/
theorem Waits.vacate {stage : Stage τ} {offered : List (Job τ)} {rest : List τ}
    (waits : solo.Waits before stage offered rest) (nobody : before.waiting = []) (free : Nat) :
    solo.Waits { before with free := free } stage offered rest := by
  cases waits with
  | joining noneWaits noneGranted => exact .joining noneWaits noneGranted
  | waiting job due rest late isWaiting => cases isWaiting.symm.trans nobody
  | promised job due rest noneWaits isGranted ready =>
      exact .promised job due rest noneWaits isGranted ready

/-- A place is promised to the batch. -/
theorem Waits.grant {stage : Stage τ} {offered : List (Job τ)} {rest : List τ}
    (waits : solo.Waits before stage offered rest) {caller : Nat} {others : List Nat}
    (somebody : before.waiting = caller :: others) :
    caller = solo.caller ∧ solo.Waits
      { before with
        agenda := before.agenda.wake (.caller caller)
        waiting := others
        granted := before.granted ++ [caller] } stage offered rest := by
  cases waits with
  | joining noneWaits => cases noneWaits.symm.trans somebody
  | waiting job due rest late isWaiting noneGranted =>
      cases isWaiting.symm.trans somebody
      refine ⟨rfl, .promised job due rest rfl ?_ ((Agenda.mem_ready_wake _ _).mpr (.inl rfl))⟩
      change before.granted ++ [solo.caller] = _
      rw [noneGranted, List.nil_append]
  | promised job due rest noneWaits => cases noneWaits.symm.trans somebody

end Frames

/-! ## The dispatcher -/

section Dispatcher

variable {handed : List (Nat × Job τ)} {floor : Floor ε τ ρ}

/-- A free place goes to whoever has waited longest. -/
theorem vacate_cases (floor : Floor ε τ ρ) :
    (floor.waiting = [] ∧ floor.vacate = { floor with free := floor.free + 1 }) ∨
    ∃ caller others, floor.waiting = caller :: others ∧
      floor.vacate = Floor.wake (.caller caller)
        { floor with waiting := others, granted := floor.granted ++ [caller] } := by
  unfold Floor.vacate
  split
  next none => exact .inl ⟨none, rfl⟩
  next caller others some => exact .inr ⟨caller, others, some, rfl⟩

/-- A job goes from the queue to the desk of an idle worker, who is woken. -/
def seat (job : Job τ) (queue : List (Job τ)) (worker : Nat) (idle : List Nat)
    (floor : Floor ε τ ρ) : Floor ε τ ρ :=
  Floor.wake (.worker worker)
    { floor with
      queue := queue
      idle := idle
      desks := floor.desks.set worker (.handed job) }

theorem Seats.seat {job : Job τ} {queue : List (Job τ)} {worker : Nat} {idle : List Nat}
    {pending : Nat} (seats : Seats handed (pending + 1) floor) (idleEq : floor.idle = worker :: idle) :
    Seats (handed ++ [(worker, job)]) pending (Solo.seat job queue worker idle floor) := by
  obtain ⟨seated, distinct, there, enough⟩ := seats
  rw [idleEq] at distinct there enough
  have rearranged : (idle ++ (handed ++ [(worker, job)]).map Prod.fst).Perm
      (worker :: idle ++ handed.map Prod.fst) := by
    rw [List.map_append, List.map_singleton, ← List.append_assoc]
    exact List.perm_append_singleton _ _
  refine ⟨?_, rearranged.nodup_iff.mpr distinct, ?_, Nat.le_of_succ_le_succ enough⟩
  · intro entry member
    change (floor.desks.set worker (.handed job))[entry.1]? = _
    rcases List.mem_append.mp member with old | new
    · have apart : worker ≠ entry.1 := by
        rintro rfl
        refine (List.nodup_cons.mp distinct).1 (List.mem_append_right _ ?_)
        exact List.mem_map_of_mem old
      rw [List.getElem?_set_ne apart]
      exact seated entry old
    · rw [List.mem_singleton.mp new]
      exact List.getElem?_set_self (there worker List.mem_cons_self)
  · intro index member
    change index < (floor.desks.set worker (.handed job)).length
    rw [List.length_set]
    exact there index (List.mem_cons_of_mem _ member)

variable [Trade ε τ ρ] {solo : Solo ε ρ} {done : Nat} {offered : List (Job τ)} {rest : List τ}

/-- A job is seated once its place in the queue is free or promised. -/
theorem Going.seat (going : solo.Going done handed (handed.map Prod.fst) offered rest floor)
    {job : Job τ} {queue : List (Job τ)} (queueEq : floor.queue = job :: queue) {worker : Nat}
    {idle : List Nat} (idleEq : floor.idle = worker :: idle) (agenda : Agenda) (free : Nat)
    (waiting granted : List Nat) (wakes : Agenda.Wakes floor.agenda agenda)
    (workers : agenda.workers = floor.agenda.workers)
    (concerned : ∀ actor ∈ agenda.ready, solo.Concerns actor)
    (places : free + queue.length + granted.length = solo.capacity)
    (waits : ∀ stage, solo.Waits floor stage offered rest → solo.Waits
      { floor with agenda := agenda, free := free, waiting := waiting, granted := granted } stage
        offered rest) :
    solo.Going done (handed ++ [(worker, job)]) ((handed ++ [(worker, job)]).map Prod.fst) offered
      rest (Solo.seat job queue worker idle
        { floor with agenda := agenda, free := free, waiting := waiting, granted := granted }) := by
  let freed : Floor ε τ ρ :=
    { floor with agenda := agenda, free := free, waiting := waiting, granted := granted }
  have seats := going.seats
  have pending : floor.queue.length + offered.length + rest.length =
      queue.length + offered.length + rest.length + 1 := by
    rw [queueEq, List.length_cons]
    omega
  have jobsEq : jobs (handed ++ [(worker, job)]) offered (Solo.seat job queue worker idle freed) =
      jobs handed offered floor := by
    simp [jobs, Solo.seat, Floor.wake, Floor.onAgenda, queueEq]
  have woken := Agenda.wakes_wake agenda (.worker worker)
  have absent : worker ∉ agenda.workers := by
    rw [workers, going.readied.workers_eq]
    intro member
    have distinct := seats.distinct
    rw [idleEq] at distinct
    exact (List.nodup_cons.mp distinct).1 (List.mem_append_right _ member)
  obtain ⟨batch, found, keeps, waitsNow⟩ := going.batch
  refine ⟨⟨going.ground.frame rfl rfl (woken.now_eq.trans wakes.now_eq)
    (woken.cancelled.trans wakes.cancelled) fun _ _ => rfl, going.line.frame jobsEq rfl rfl rfl,
    ?_, ?_, places⟩, ⟨batch, found, ?_, ?_⟩, ?_⟩
  · rw [pending] at seats
    have seatsFreed : Seats handed (queue.length + offered.length + rest.length + 1) freed :=
      ⟨seats.seated, seats.distinct, seats.there, seats.enough⟩
    exact seatsFreed.seat idleEq
  · constructor
    · rw [List.map_append, ← going.readied.workers_eq, ← workers]
      exact agenda.workers_wake_worker absent
    · intro actor ready
      rcases (Agenda.mem_ready_wake _ _).mp ready with rfl | old
      · trivial
      · exact concerned actor old
  · rw [jobsEq]
    exact keeps
  · exact (waits _ waitsNow).frame rfl rfl rfl (woken.ready _)
  · rw [jobsEq]
    exact fun none => woken.ready _ (wakes.ready _ (going.last none))

/-- The first job of the queue is handed to an idle worker. -/
theorem Going.handOver (going : solo.Going done handed (handed.map Prod.fst) offered rest floor)
    {job : Job τ} {queue : List (Job τ)} (queueEq : floor.queue = job :: queue) :
    ∃ worker, solo.Going done (handed ++ [(worker, job)])
        ((handed ++ [(worker, job)]).map Prod.fst) offered rest floor.handOver ∧
      floor.handOver.queue = queue ∧
      toil (handed ++ [(worker, job)]) offered rest floor.handOver ≤
        toil handed offered rest floor := by
  have enough := going.seats.enough
  have places := going.places
  rw [queueEq, List.length_cons] at enough places
  cases idleEq : floor.idle with
  | nil =>
      rw [idleEq, List.length_nil] at enough
      omega
  | cons worker idle =>
      refine ⟨worker, ?_⟩
      let taken : Floor ε τ ρ := { floor with queue := queue, idle := idle }
      have handOverEq : floor.handOver =
          (taken.vacate.setDesk worker (.handed job)).wake (.worker worker) := by
        unfold Floor.handOver
        rw [queueEq, idleEq]
      have cheaper : ∀ after : Floor ε τ ρ, after.queue = queue →
          after.agenda.ready.length + after.waiting.length ≤
            floor.agenda.ready.length + floor.waiting.length + 1 →
          toil (handed ++ [(worker, job)]) offered rest after ≤ toil handed offered rest floor := by
        intro after shorter quicker
        simp only [toil, shorter, queueEq, List.length_append, List.length_cons, List.length_nil]
        omega
      rcases vacate_cases taken with ⟨nobody, vacateEq⟩ | ⟨caller, others, somebody, vacateEq⟩
      · have next := going.seat queueEq idleEq floor.agenda (floor.free + 1) floor.waiting
          floor.granted ⟨rfl, rfl, rfl, fun _ => id⟩ rfl going.readied.concerned (by omega)
          fun _ waits => waits.vacate nobody _
        rw [handOverEq, vacateEq]
        refine ⟨next, rfl, cheaper _ rfl ?_⟩
        have := floor.agenda.length_ready_wake (.worker worker)
        change (floor.agenda.wake (.worker worker)).ready.length + floor.waiting.length ≤ _
        omega
      · have concerned : ∀ actor ∈ (floor.agenda.wake (.caller caller)).ready,
            solo.Concerns actor := by
          intro actor ready
          rcases (Agenda.mem_ready_wake _ _).mp ready with rfl | old
          · obtain ⟨_, _, _, waits⟩ := going.batch
            exact (waits.grant somebody).1
          · exact going.readied.concerned actor old
        have next := going.seat queueEq idleEq (floor.agenda.wake (.caller caller)) floor.free
          others (floor.granted ++ [caller]) (floor.agenda.wakes_wake _)
          (floor.agenda.workers_wake_other rfl) concerned
          (by rw [List.length_append, List.length_singleton]; omega)
          fun _ waits => (waits.grant somebody).2
        rw [handOverEq, vacateEq]
        refine ⟨next, rfl, cheaper _ rfl ?_⟩
        have somebodyWaits : floor.waiting = caller :: others := somebody
        have first := floor.agenda.length_ready_wake (.caller caller)
        have second := (floor.agenda.wake (.caller caller)).length_ready_wake (.worker worker)
        rw [somebodyWaits, List.length_cons]
        change ((floor.agenda.wake (.caller caller)).wake (.worker worker)).ready.length +
          others.length ≤ _
        omega

/-- The dispatcher's turn: all that is in the queue is handed over. -/
theorem Going.dispatch (going : solo.Going done handed (handed.map Prod.fst) offered rest floor) :
    ∃ more, solo.Going done more (more.map Prod.fst) offered rest floor.dispatch ∧
      floor.dispatch.queue = [] ∧
      toil more offered rest floor.dispatch ≤ toil handed offered rest floor := by
  have dispatchEq : floor.dispatch = Nat.repeat Floor.handOver floor.queue.length floor := by
    have count : min floor.queue.length floor.idle.length = floor.queue.length := by
      have := going.seats.enough
      omega
    unfold Floor.dispatch
    rw [going.ground.dispatching, going.ground.open_, count]
    rfl
  -- After so many jobs the rest of the queue is left.
  have along : ∀ count, count ≤ floor.queue.length →
      ∃ more, solo.Going done more (more.map Prod.fst) offered rest
          (Nat.repeat Floor.handOver count floor) ∧
        (Nat.repeat Floor.handOver count floor).queue = floor.queue.drop count ∧
        toil more offered rest (Nat.repeat Floor.handOver count floor) ≤
          toil handed offered rest floor := by
    intro count
    induction count with
    | zero => exact fun _ => ⟨handed, going, rfl, Nat.le_refl _⟩
    | succ count ih =>
        intro bound
        obtain ⟨more, still, queueEq, cheap⟩ := ih (Nat.le_of_succ_le bound)
        rw [List.drop_eq_getElem_cons bound] at queueEq
        obtain ⟨worker, next, nextQueue, cheaper⟩ := still.handOver queueEq
        exact ⟨_, next, nextQueue, Nat.le_trans cheaper cheap⟩
  obtain ⟨more, next, queueEq, cheap⟩ := along floor.queue.length (Nat.le_refl _)
  rw [dispatchEq]
  exact ⟨more, next, queueEq.trans List.drop_length, cheap⟩

end Dispatcher

/-! ## Turns that begin -/

section Beginning

variable {floor : Floor ε τ ρ} {actor : Actor}

theorem toil_unready (handed : List (Nat × Job τ)) (offered : List (Job τ)) (rest : List τ)
    (ready : actor ∈ floor.agenda.ready) :
    toil handed offered rest (floor.unready actor) + 1 = toil handed offered rest floor := by
  have fewer := List.length_erase_of_mem ready
  have some := List.length_pos_of_mem ready
  rw [toil, toil]
  change (floor.agenda.ready.erase actor).length + floor.waiting.length + 2 * handed.length +
    4 * floor.queue.length + 6 * (offered.length + rest.length) + 1 = _
  omega

variable [Trade ε τ ρ] {solo : Solo ε ρ} {done : Nat} {handed : List (Nat × Job τ)}
variable {workers : List Nat} {offered : List (Job τ)} {rest : List τ}

/-- Whoever begins a turn is no longer ready, which is all that changes. -/
theorem Course.unready (course : solo.Course done handed workers offered rest floor)
    {later : List Nat} (split : actor.worker?.toList ++ later = workers) :
    solo.Course done handed later offered rest (floor.unready actor) := by
  refine ⟨course.ground.frame rfl rfl rfl rfl fun _ _ => rfl, course.line.frame rfl rfl rfl rfl,
    ⟨course.seats.seated, course.seats.distinct, course.seats.there, course.seats.enough⟩, ?_,
    course.places⟩
  constructor
  · exact Agenda.workers_erase _ (course.readied.workers_eq.trans split.symm)
  · exact fun other member => course.readied.concerned other (List.mem_of_mem_erase member)

/-- The turn of somebody else than the caller of the batch begins. -/
theorem Going.unready (going : solo.Going done handed workers offered rest floor)
    (other : actor ≠ .caller solo.caller) {later : List Nat}
    (split : actor.worker?.toList ++ later = workers) :
    solo.Going done handed later offered rest (floor.unready actor) := by
  have still : .caller solo.caller ∈ floor.agenda.ready →
      .caller solo.caller ∈ (floor.unready actor).agenda.ready :=
    fun ready => (List.mem_erase_of_ne (Ne.symm other)).mpr ready
  obtain ⟨batch, found, keeps, waits⟩ := going.batch
  exact ⟨going.toCourse.unready split, ⟨batch, found, keeps, waits.frame rfl rfl rfl still⟩,
    fun none => still (going.last none)⟩

end Beginning

/-! ## Workers -/

section Workers

variable {solo : Solo ε ρ} {handed : List (Nat × Job τ)} {floor after : Floor ε τ ρ}

/-- A worker registers; the dispatcher may be woken. -/
theorem register_cases (index : Nat) (floor : Floor ε τ ρ) :
    ∃ agenda, (agenda = floor.agenda ∨ agenda = floor.agenda.wake .dispatcher) ∧
      floor.register index =
        { floor with
          agenda := agenda
          idle := floor.idle ++ [index]
          desks := floor.desks.set index .idle } := by
  unfold Floor.register
  dsimp only
  split
  · exact ⟨_, .inr rfl, rfl⟩
  · exact ⟨_, .inl rfl, rfl⟩

/-- A worker whose job is done is free for another one. -/
theorem Seats.vacate {worker : Nat} {job : Job τ} {pending : Nat}
    (seats : Seats ((worker, job) :: handed) pending floor)
    (desks : after.desks = floor.desks.set worker .idle)
    (idle : after.idle = floor.idle ++ [worker]) : Seats handed pending after := by
  obtain ⟨seated, distinct, there, enough⟩ := seats
  rw [List.map_cons] at distinct
  have rearranged : (floor.idle ++ [worker] ++ handed.map Prod.fst).Perm
      (floor.idle ++ worker :: handed.map Prod.fst) := by
    rw [List.append_assoc]
    rfl
  refine ⟨?_, ?_, ?_, ?_⟩
  · intro entry member
    have apart : worker ≠ entry.1 := by
      rintro rfl
      have own := (List.nodup_append.mp distinct).2.1
      exact (List.nodup_cons.mp own).1 (List.mem_map.mpr ⟨entry, member, rfl⟩)
    rw [desks, List.getElem?_set_ne apart]
    exact seated entry (List.mem_cons_of_mem _ member)
  · rw [idle]
    exact rearranged.nodup_iff.mpr distinct
  · intro index member
    rw [desks, List.length_set]
    rw [idle] at member
    rcases List.mem_append.mp member with old | new
    · exact there index old
    · rw [List.mem_singleton.mp new]
      exact (List.getElem?_eq_some_iff.mp (seated _ List.mem_cons_self)).1
  · rw [idle, List.length_append]
    omega

/-- Only the caller of the batch waits for its jobs. -/
theorem Ground.awaits (ground : solo.Ground floor) {ticket number : Nat}
    (member : number ∈ floor.callersWith (Caller.awaits ticket)) (recent : solo.first ≤ ticket) :
    number = solo.caller := by
  obtain ⟨state, found, awaits⟩ := Floor.mem_callersWith_iff.mp member
  by_contra other
  exact Bool.false_ne_true
    ((ground.alone number state other found ticket recent).symm.trans awaits)

/-- The caller of the batch waits for all its jobs once they are handed in. -/
theorem Waits.awaits {batch : Batch τ ρ} {count : Nat} (keeps : solo.Keeps count batch)
    (waits : solo.Waits floor batch.stage [] rest) {index : Nat} (made : index < count) :
    (Caller.batching batch : Caller τ ρ).awaits (solo.first + index) = true := by
  have joining : batch.stage = .joining := by
    generalize batch.stage = stage at waits
    cases waits
    rfl
  rw [Caller.awaits, joining, keeps.tickets]
  simpa using made

/-- Nobody is woken but the batch, if somebody waits for one of its jobs, and the
dispatcher. -/
structure Informs (solo : Solo ε ρ) (told : List Actor) (before after : Agenda) : Prop where
  wakes : Agenda.Wakes before after
  workers : after.workers = before.workers
  woken : ∀ actor ∈ after.ready,
    actor ∈ before.ready ∨ actor = .caller solo.caller ∨ actor = .dispatcher
  told : ∀ actor ∈ told, actor ∈ after.ready
  bound : after.ready.length ≤ before.ready.length + 2

theorem informs_wakeAll {told : List Actor} {agenda : Agenda}
    (own : ∀ actor ∈ told, actor = .caller solo.caller) :
    ∀ after, (after = agenda.wakeAll told ∨ after = (agenda.wakeAll told).wake .dispatcher) →
      Informs solo told agenda after := by
  have first : Informs solo told agenda (agenda.wakeAll told) := by
    refine ⟨Agenda.wakes_wakeAll _ _, ?_, ?_, ?_, ?_⟩
    · apply agenda.workers_wakeAll
      intro actor member
      rw [own actor member]
      rfl
    · intro actor ready
      rcases (Agenda.mem_ready_wakeAll _ _).mp ready with isTold | old
      · exact .inr (.inl (own actor isTold))
      · exact .inl old
    · exact fun actor member => (Agenda.mem_ready_wakeAll _ _).mpr (.inl member)
    · exact Nat.le_succ_of_le (agenda.length_ready_wakeAll own)
  rintro after (rfl | rfl)
  · exact first
  · refine ⟨first.wakes.trans (Agenda.wakes_wake _ _),
      (Agenda.workers_wake_other _ rfl).trans first.workers, ?_,
      fun actor member => (Agenda.mem_ready_wake _ _).mpr (.inr (first.told actor member)), ?_⟩
    · intro actor ready
      rcases (Agenda.mem_ready_wake _ _).mp ready with rfl | old
      · exact .inr (.inr rfl)
      · exact first.woken actor old
    · have once := agenda.length_ready_wakeAll own
      exact Nat.le_trans (Agenda.length_ready_wake _ _) (Nat.succ_le_succ once)

variable [Trade ε τ ρ] {done : Nat} {offered : List (Job τ)} {rest : List τ}

/-- The first job in line is done. -/
theorem Line.advance {job : Job τ} {line : List (Job τ)}
    (stands : solo.Line done (job :: line) rest floor) :
    ∃ outcome next, (∀ index, Trade.resume (Actor.worker index) solo.now job.task floor.shared =
        (next, .finished outcome)) ∧
      ∀ after : Floor ε τ ρ, after.nextTicket = floor.nextTicket → after.shared = next →
        after.deliveries = ⟨job.ticket, outcome, floor.now⟩ :: floor.deliveries →
        solo.Line (done + 1) line rest after := by
  obtain ⟨_, tickets, nextTicket, scopes, performs, known⟩ := stands
  rw [List.map_cons, List.length_cons, List.range'_succ] at tickets
  obtain ⟨ticket, tickets⟩ := List.cons.inj tickets
  obtain ⟨outcome, later, next, outcomes, ends, performs⟩ := performs.uncons
  refine ⟨outcome, next, ends, fun after nextTicketEq shared deliveries => ?_⟩
  have laterEq : solo.outcomes.drop (done + 1) = later := by
    rw [← List.tail_drop, outcomes, List.tail_cons]
  have outcomeEq : solo.outcomes[done]? = some outcome := by
    have first := congrArg (·[0]?) outcomes
    simpa using first
  have reached := (List.getElem?_eq_some_iff.mp outcomeEq).1
  refine ⟨reached, tickets, ?_, ?_, ?_, ?_⟩
  · rw [nextTicketEq, nextTicket, List.length_cons]
    omega
  · exact fun other member => scopes other (List.mem_cons_of_mem _ member)
  · rw [shared, laterEq]
    exact performs
  · intro index
    rw [Floor.outcome?, deliveries, ticket]
    by_cases same : index = done
    · rw [same, List.find?_cons_of_pos (by simp), List.getElem?_take_of_lt (Nat.lt_succ_self _),
        outcomeEq]
      rfl
    · have distinct : ((⟨solo.first + done, outcome, floor.now⟩ : Delivery ρ).ticket ==
          solo.first + index) = false := by
        rw [beq_eq_false_iff_ne]
        change solo.first + done ≠ _
        omega
      rw [List.find?_cons_of_neg (by rw [distinct]; exact Bool.false_ne_true)]
      refine (known index).trans ?_
      rw [List.getElem?_take, List.getElem?_take]
      split
      · rw [if_pos (by omega)]
      · rw [if_neg (by omega)]

/-- A worker whose job is done in one turn. -/
theorem work_ends {index : Nat} {job : Job τ} (seated : floor.desks[index]? = some (.handed job))
    (open_ : floor.shut = false) (live : floor.isCancelled job.scope = false) {next : ε}
    {outcome : Outcome ρ}
    (ends : Trade.resume (Actor.worker index) floor.now job.task floor.shared =
      (next, .finished outcome)) :
    floor.work index =
      { floor with
        agenda := ((floor.agenda.watch job.scope (.worker index)).release (.worker index)).wakeAll
          ((floor.callersWith (Caller.awaits job.ticket)).map Actor.caller)
        shared := next
        deliveries := ⟨job.ticket, outcome, floor.now⟩ :: floor.deliveries
        completed := floor.completed + 1 }.register index := by
  have workEq : floor.work index =
      (floor.onAgenda (·.watch job.scope (.worker index))).run index job := by
    unfold Floor.work
    rw [seated]
    dsimp only
    rw [if_neg (by simp [open_]), if_neg (by simp [live])]
  have runEq : (floor.onAgenda (·.watch job.scope (.worker index))).run index job =
      { floor.onAgenda (·.watch job.scope (.worker index)) with shared := next }.complete index job
        outcome := by
    have endsNow : Trade.resume (Actor.worker index)
        (floor.onAgenda (·.watch job.scope (.worker index))).now job.task
        (floor.onAgenda (·.watch job.scope (.worker index))).shared = (next, .finished outcome) :=
      ends
    unfold Floor.run
    dsimp only
    rw [endsNow]
  rw [workEq, runEq, Floor.complete]
  dsimp only
  exact if_neg fun shut => Bool.false_ne_true (open_.symm.trans shut)

/-- A worker's turn: the first job in line is done. -/
theorem Going.work {worker : Nat} {job : Job τ}
    (going : solo.Going done ((worker, job) :: handed) (handed.map Prod.fst) offered rest floor) :
    solo.Going (done + 1) handed (handed.map Prod.fst) offered rest (floor.work worker) ∧
      (Alert floor → Alert (floor.work worker)) ∧
      toil handed offered rest (floor.work worker) ≤
        toil ((worker, job) :: handed) offered rest floor := by
  obtain ⟨⟨ground, line, seats, readied, places⟩, ⟨batch, found, keeps, waits⟩, last⟩ := going
  have jobsEq : jobs ((worker, job) :: handed) offered floor = job :: jobs handed offered floor :=
    rfl
  rw [jobsEq] at line keeps
  obtain ⟨outcome, next, ends, advance⟩ := line.advance
  have ticket : job.ticket = solo.first + done := by
    have tickets := line.tickets
    rw [List.map_cons, List.length_cons, List.range'_succ] at tickets
    exact (List.cons.inj tickets).1
  have live : floor.isCancelled job.scope = false := by
    rw [line.scopes job List.mem_cons_self]
    exact ground.live
  have seated := seats.seated _ List.mem_cons_self
  have endsNow := ends worker
  rw [← ground.now_eq] at endsNow
  let told := (floor.callersWith (Caller.awaits job.ticket)).map Actor.caller
  let watched := (floor.agenda.watch job.scope (.worker worker)).release (.worker worker)
  have own : ∀ actor ∈ told, actor = .caller solo.caller := by
    intro actor member
    obtain ⟨number, isTold, rfl⟩ := List.mem_map.mp member
    rw [ground.awaits isTold (by omega)]
  obtain ⟨agenda, agendaEq, registerEq⟩ := register_cases worker
      { floor with
        agenda := watched.wakeAll told
        shared := next
        deliveries := ⟨job.ticket, outcome, floor.now⟩ :: floor.deliveries
        completed := floor.completed + 1 }
  obtain ⟨wakes, workers, woken, isTold, bound⟩ := informs_wakeAll own agenda agendaEq
  rw [work_ends seated ground.open_ live endsNow, registerEq]
  refine ⟨⟨⟨ground.frame rfl rfl wakes.now_eq wakes.cancelled fun _ _ => rfl,
    advance _ rfl rfl rfl, seats.vacate rfl rfl, ⟨workers.trans readied.workers_eq, ?_⟩,
    places⟩, ⟨batch, found, ?_, waits.frame rfl rfl rfl (wakes.ready _)⟩, ?_⟩, ?_, ?_⟩
  · intro actor ready
    rcases woken actor ready with old | rfl | rfl
    · exact readied.concerned actor old
    · rfl
    · trivial
  · refine ⟨keeps.scope, keeps.wait, keeps.tickets.trans ?_⟩
    rw [List.length_cons, Nat.add_assoc, Nat.add_comm 1]
    rfl
  · intro none
    have offeredEq : offered = [] := (List.append_eq_nil_iff.mp none).2
    rw [offeredEq] at waits
    have awaits := waits.awaits keeps (show done < _ by rw [List.length_cons]; omega)
    rw [← ticket] at awaits
    exact isTold _ (List.mem_map_of_mem (floor.mem_callersWith _ found awaits))
  · exact fun alert queue => wakes.ready _ (alert queue)
  · simp only [toil, List.length_cons]
    change agenda.ready.length ≤ floor.agenda.ready.length + 2 at bound
    omega

end Workers

end Solo

end RiskGate.Pool
