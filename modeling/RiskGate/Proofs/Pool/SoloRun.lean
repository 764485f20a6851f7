import RiskGate.Proofs.Pool.Solo

/-!
# How a batch that runs alone ends

The caller of a batch hands its tasks in, one after another, until one has to wait for room,
and goes on when it was promised some.  Once all tasks are handed in it waits for the
outcomes, and ends the batch with the last one.

Whatever the turns, some actor is ready as long as the batch is under way, and every turn
leaves fewer turns to be taken.
-/

namespace RiskGate.Pool

open Schedule (Actor Agenda)

variable {ε τ ρ : Type}

/-- A batch reports what was delivered for a job by the time it picked up the outcomes. -/
theorem Floor.reported_pickUp {batch : Batch τ ρ} {floor : Floor ε τ ρ} {ticket : Nat}
    (member : ticket ∈ batch.tickets) :
    (floor.pickUp batch).reported ticket =
      ((floor.outcome? ticket).map Delivery.outcome).getD (.error .cancelled) := by
  change (((floor.gathered batch.tickets).find? (·.1 == ticket)).map Prod.snd).getD _ = _
  congr 1
  cases found : (floor.gathered batch.tickets).find? (·.1 == ticket) with
  | some entry =>
      have same : entry.1 = ticket := by simpa using List.find?_some found
      obtain ⟨_, delivery, known, outcome⟩ :=
        Floor.mem_gathered.mp (List.mem_of_find?_eq_some found)
      rw [← same, known, Option.map_some, Option.map_some, outcome]
  | none =>
      cases known : floor.outcome? ticket with
      | none => rfl
      | some delivery =>
          have entry : (ticket, delivery.outcome) ∈ floor.gathered batch.tickets :=
            Floor.mem_gathered.mpr ⟨member, delivery, known, rfl⟩
          exact absurd (List.find?_eq_none.mp found _ entry) (by simp)

namespace Solo

/-- The batch has ended, and nothing else has been begun. -/
structure Ended (solo : Solo ε ρ) (floor : Floor ε τ ρ) : Prop where
  ground : solo.Ground floor
  batch : ∃ batch, floor.callers[solo.caller]? = some (.batched batch solo.now) ∧
    batch.outcomes = solo.outcomes
  shared : floor.shared = solo.final
  queue : floor.queue = []
  readied : solo.Readied [] floor.agenda

variable [Trade ε τ ρ] {solo : Solo ε ρ} {done : Nat} {handed : List (Nat × Job τ)}
variable {workers : List Nat} {offered : List (Job τ)} {rest : List τ} {floor : Floor ε τ ρ}

/-- The batch goes on with these jobs on desks, and so many turns are left at most. -/
def Proceeds (solo : Solo ε ρ) (done : Nat) (handed : List (Nat × Job τ)) (bound : Nat)
    (floor : Floor ε τ ρ) : Prop :=
  ∃ (offered : List (Job τ)) (rest : List τ),
    solo.Going done handed (handed.map Prod.fst) offered rest floor ∧ Alert floor ∧
      toil handed offered rest floor ≤ bound

/-- The batch is under way, and so many turns are left at most. -/
def Underway (solo : Solo ε ρ) (bound : Nat) (floor : Floor ε τ ρ) : Prop :=
  ∃ (done : Nat) (handed : List (Nat × Job τ)), solo.Proceeds done handed bound floor

theorem Proceeds.mono {bound limit : Nat} (proceeds : solo.Proceeds done handed bound floor)
    (le : bound ≤ limit) : solo.Proceeds done handed limit floor := by
  obtain ⟨offered, rest, going, alert, cheap⟩ := proceeds
  exact ⟨offered, rest, going, alert, Nat.le_trans cheap le⟩

/-! ## Joining -/

section Joining

/-- The outcomes of the jobs that are done are known, and no others. -/
theorem Line.isSome_outcome? {line : List (Job τ)} (stands : solo.Line done line rest floor)
    (index : Nat) : (floor.outcome? (solo.first + index)).isSome = true ↔ index < done := by
  have reached := stands.reached
  rw [← Option.isSome_map, stands.known index, isSome_getElem?, List.length_take]
  omega

/-- A batch whose jobs are all done has the outcomes that its tasks have one after another. -/
theorem Line.finished (stands : solo.Line done [] [] floor) {batch : Batch τ ρ}
    (keeps : solo.Keeps done batch) :
    floor.shared = solo.final ∧ (floor.pickUp batch).outcomes = solo.outcomes := by
  obtain ⟨reached, _, _, _, performs, known⟩ := stands
  rw [List.map_nil, List.append_nil] at performs
  obtain ⟨left, shared⟩ := performs.of_nil
  have length : solo.outcomes.length = done :=
    Nat.le_antisymm (List.drop_eq_nil_iff.mp left) reached
  refine ⟨shared, List.ext_getElem? fun index => ?_⟩
  have tickets : (floor.pickUp batch).tickets = List.range' solo.first done := keeps.tickets
  rw [Batch.outcomes_getElem?, tickets]
  by_cases inside : index < done
  · have outcome := List.getElem?_eq_getElem (length.symm ▸ inside : index < solo.outcomes.length)
    have member : solo.first + index ∈ batch.tickets := by
      rw [keeps.tickets]
      simpa using inside
    rw [List.getElem?_range' inside, Option.map_some, Nat.one_mul, Floor.reported_pickUp member,
      known index, List.getElem?_take_of_lt inside, outcome]
    rfl
  · rw [List.getElem?_eq_none (by rw [List.length_range']; omega),
      List.getElem?_eq_none (by omega)]
    rfl

/-- The caller picks up what has come.  If that is everything, the batch has ended. -/
theorem Course.join (course : solo.Course done handed (handed.map Prod.fst) [] [] floor)
    (alert : Alert floor) (waiting : floor.waiting = []) (granted : floor.granted = [])
    {batch : Batch τ ρ} (keeps : solo.Keeps (done + (jobs handed [] floor).length) batch)
    (there : solo.caller < floor.callers.length) :
    solo.Ended (floor.join solo.caller batch) ∨
      solo.Proceeds done handed (toil handed [] [] floor) (floor.join solo.caller batch) := by
  obtain ⟨ground, line, seats, readied, places⟩ := course
  have all : (floor.gathered batch.tickets).length = batch.tickets.length ↔
      jobs handed [] floor = [] := by
    rw [Floor.gathered, List.filterMap_length_eq_length, keeps.tickets]
    constructor
    · intro known
      by_contra outstanding
      have := List.length_pos_iff.mpr outstanding
      have next : solo.first + done ∈
          List.range' solo.first (done + (jobs handed [] floor).length) := by
        simp
        omega
      have isKnown := known _ next
      rw [Option.isSome_map, line.isSome_outcome?] at isKnown
      omega
    · intro none ticket member
      rw [none, List.length_nil, Nat.add_zero, List.mem_range'_1] at member
      rw [Option.isSome_map, show ticket = solo.first + (ticket - solo.first) by omega,
        line.isSome_outcome?]
      omega
  have others : ∀ (state : Caller τ ρ) (number : Nat), number ≠ solo.caller →
      (floor.setCaller solo.caller state).callers[number]? = floor.callers[number]? :=
    fun _ _ other => List.getElem?_set_ne (Ne.symm other)
  rcases floor.join_cases solo.caller batch with
    ⟨cancelled, _⟩ | ⟨_, complete, joinEq⟩ | ⟨_, incomplete, joinEq⟩
  · rw [keeps.scope] at cancelled
    cases cancelled.symm.trans ground.live
  · left
    have none := all.mp complete
    have parts := none
    rw [jobs, List.append_nil, List.append_eq_nil_iff, List.map_eq_nil_iff] at parts
    rw [none] at line keeps
    obtain ⟨shared, outcomes⟩ := line.finished keeps
    rw [joinEq]
    refine ⟨ground.frame rfl rfl rfl rfl (others _), ⟨_, ?_, outcomes⟩, shared, parts.2, ?_⟩
    · rw [← ground.now_eq]
      exact List.getElem?_set_self there
    · have workers := readied.workers_eq
      rw [parts.1] at workers
      exact ⟨workers, readied.concerned⟩
  · right
    rw [joinEq]
    refine ⟨[], [], ⟨⟨ground.frame rfl rfl rfl rfl (others _),
      line.frame rfl rfl rfl rfl, ⟨seats.seated, seats.distinct, seats.there, seats.enough⟩,
      ⟨readied.workers_eq, readied.concerned⟩, places⟩, ⟨floor.pickUp batch,
      List.getElem?_set_self there, ⟨keeps.scope, keeps.wait, keeps.tickets⟩,
      .joining waiting granted⟩, fun none => absurd (all.mpr none) incomplete⟩, alert,
      Nat.le_refl _⟩

end Joining

/-! ## Handing in -/

section HandingIn

omit [Trade ε τ ρ] in
/-- A job is put into the queue; the dispatcher is woken by it if a worker is idle. -/
theorem enqueue_of_idle (floor : Floor ε τ ρ) (job : Job τ) (someone : floor.idle ≠ []) :
    floor.enqueue job =
      { floor with
        agenda := floor.agenda.wake .dispatcher
        queue := floor.queue ++ [job]
        submitted := floor.submitted + 1 } := by
  unfold Floor.enqueue
  cases idle : floor.idle with
  | nil => exact absurd idle someone
  | cons worker others => rfl

/-- The next task is made a job. -/
theorem Course.issue {task : τ} (course : solo.Course done handed workers [] (task :: rest) floor) :
    solo.Course done handed workers [⟨floor.nextTicket, solo.scope, task⟩] rest
      (floor.issue solo.scope task).1 := by
  obtain ⟨ground, line, seats, readied, places⟩ := course
  have jobsEq : jobs handed [⟨floor.nextTicket, solo.scope, task⟩] (floor.issue solo.scope task).1 =
      jobs handed [] floor ++ [⟨floor.nextTicket, solo.scope, task⟩] := by
    simp [jobs, Floor.issue]
  refine ⟨ground.frame rfl rfl rfl rfl fun _ _ => rfl, ?_, ?_,
    ⟨readied.workers_eq, readied.concerned⟩, places⟩
  · rw [jobsEq]
    obtain ⟨reached, tickets, nextTicket, scopes, performs, known⟩ := line
    refine ⟨reached, ?_, ?_, ?_, ?_, known⟩
    · rw [List.map_append, tickets, List.length_append, List.length_singleton, List.map_singleton,
        List.range'_concat, nextTicket, Nat.one_mul]
    · rw [List.length_append, List.length_singleton, ← Nat.add_assoc, ← nextTicket]
      rfl
    · intro job member
      rcases List.mem_append.mp member with old | new
      · exact scopes job old
      · rw [List.mem_singleton.mp new]
    · rw [List.map_append, List.map_singleton, List.append_assoc]
      exact performs
  · have enough := seats.enough
    refine ⟨seats.seated, seats.distinct, seats.there, ?_⟩
    rw [List.length_cons] at enough
    change floor.queue.length + 1 + rest.length ≤ floor.idle.length
    rw [List.length_nil] at enough
    omega

/-- The job that was offered takes a place of the queue. -/
theorem Course.enqueue {job : Job τ} (course : solo.Course done handed workers [job] rest floor)
    (agenda : Agenda) (free : Nat) (granted : List Nat)
    (wakes : Agenda.Wakes floor.agenda agenda) (ready : agenda.ready = floor.agenda.ready)
    (place : free + 1 + granted.length = floor.free + floor.granted.length) {after : Floor ε τ ρ}
    (taken : after =
      Floor.enqueue job { floor with agenda := agenda, free := free, granted := granted }) :
    solo.Course done handed workers [] rest after ∧ Alert after ∧
      toil handed [] rest after < toil handed [job] rest floor := by
  obtain ⟨ground, line, seats, readied, places⟩ := course
  have enough := seats.enough
  rw [List.length_singleton] at enough
  have someone : floor.idle ≠ [] := by
    apply List.length_pos_iff.mp
    omega
  have woken := agenda.wakes_wake .dispatcher
  obtain rfl := taken.trans (enqueue_of_idle _ job someone)
  refine ⟨⟨ground.frame rfl rfl (woken.now_eq.trans wakes.now_eq)
    (woken.cancelled.trans wakes.cancelled) fun _ _ => rfl, line.frame ?_ rfl rfl rfl,
    ⟨seats.seated, seats.distinct, seats.there, ?_⟩, ⟨?_, ?_⟩, ?_⟩, ?_, ?_⟩
  · simp [jobs]
  · change (floor.queue ++ [job]).length + 0 + rest.length ≤ floor.idle.length
    rw [List.length_append, List.length_singleton]
    omega
  · have same : agenda.workers = floor.agenda.workers := by rw [Agenda.workers, ready]; rfl
    exact (agenda.workers_wake_other rfl).trans (same.trans readied.workers_eq)
  · intro actor member
    rcases (Agenda.mem_ready_wake _ _).mp member with rfl | old
    · trivial
    · exact readied.concerned actor (ready ▸ old)
  · change free + (floor.queue ++ [job]).length + granted.length = _
    rw [List.length_append, List.length_singleton]
    omega
  · exact fun _ => (Agenda.mem_ready_wake _ _).mpr (.inl rfl)
  · have bound := agenda.length_ready_wake .dispatcher
    rw [ready] at bound
    simp only [toil, List.length_append, List.length_singleton, List.length_nil]
    omega

/-- A job has to wait for room only if waiting is possible. -/
theorem Course.patience {job : Job τ} (course : solo.Course done handed workers [job] rest floor)
    (full : floor.free = 0) (granted : floor.granted = []) :
    floor.now < floor.agenda.dueAfter solo.wait := by
  have now_eq : floor.agenda.now = solo.now := course.ground.now_eq
  rw [Agenda.dueAfter, Floor.now, now_eq]
  refine course.ground.patience.resolve_right fun fits => ?_
  have outcomes := course.line.performs.length
  have places := course.places
  rw [full, granted, List.length_nil] at places
  simp only [jobs, List.length_drop, List.length_append, List.length_map,
    List.length_singleton] at outcomes
  omega

/-- A job that is offered takes a place, or waits for one. -/
theorem Course.offer {job : Job τ} (course : solo.Course done handed workers [job] rest floor)
    (granted : floor.granted = []) :
    (∃ next, floor.offer solo.caller job solo.wait = (next, some (.ok ())) ∧
      solo.Course done handed workers [] rest next ∧ Alert next ∧ next.queue = floor.queue ++ [job] ∧
      next.waiting = floor.waiting ∧ next.granted = [] ∧ next.callers = floor.callers ∧
      toil handed [] rest next ≤ toil handed [job] rest floor) ∨
    (floor.free = 0 ∧ floor.offer solo.caller job solo.wait =
      ({ floor with waiting := floor.waiting ++ [solo.caller] }.onAgenda
        (·.setAlarm (floor.agenda.dueAfter solo.wait) (.caller solo.caller)), none)) := by
  rcases floor.offer_cases job solo.caller solo.wait with
    ⟨shut, _⟩ | ⟨_, room, offerEq⟩ | ⟨_, full, late, _⟩ | ⟨_, full, early, offerEq⟩
  · cases shut.symm.trans course.ground.open_
  · left
    obtain ⟨next, alert, cheap⟩ := course.enqueue floor.agenda (floor.free - 1) floor.granted
      ⟨rfl, rfl, rfl, fun _ => id⟩ rfl (by omega) rfl
    exact ⟨_, offerEq, next, alert, Floor.queue_enqueue _ job, Floor.waiting_enqueue _ job,
      (Floor.granted_enqueue _ job).trans granted, Floor.callers_enqueue _ job, cheap.le⟩
  · exact absurd (course.patience full granted) (Nat.not_lt.mpr late)
  · exact .inr ⟨full, offerEq⟩

/-- The caller begins to wait for room. -/
theorem Course.await {job : Job τ}
    (course : solo.Course done handed (handed.map Prod.fst) [job] rest floor) (alert : Alert floor)
    (waiting : floor.waiting = []) (granted : floor.granted = []) (full : floor.free = 0)
    {batch : Batch τ ρ} (keeps : solo.Keeps (done + (jobs handed [job] floor).length) batch)
    (there : solo.caller < floor.callers.length) {due : Nat} (late : solo.now < due) :
    solo.Proceeds done handed (toil handed [job] rest floor + 1)
      (({ floor with waiting := floor.waiting ++ [solo.caller] }.onAgenda
          (·.setAlarm due (.caller solo.caller))).setCaller solo.caller
        (.batching { batch with stage := .offering job due rest })) := by
  obtain ⟨ground, line, seats, readied, places⟩ := course
  refine ⟨[job], rest, ⟨⟨ground.frame rfl rfl rfl rfl ?_, line.frame rfl rfl rfl rfl,
    ⟨seats.seated, seats.distinct, seats.there, seats.enough⟩,
    ⟨readied.workers_eq, readied.concerned⟩, places⟩, ⟨_, List.getElem?_set_self there,
    ⟨keeps.scope, keeps.wait, keeps.tickets⟩, .waiting job due rest late ?_ granted full⟩, ?_⟩,
    alert, ?_⟩
  · exact fun number other => List.getElem?_set_ne (Ne.symm other)
  · change floor.waiting ++ [solo.caller] = _
    rw [waiting, List.nil_append]
  · intro none
    simp [jobs] at none
  · simp only [toil, Floor.setCaller, Floor.onAgenda, Agenda.setAlarm, List.length_append,
      List.length_singleton]
    omega

/-- The caller hands tasks in, until one has to wait for room or all are handed in. -/
theorem Course.handIn (course : solo.Course done handed (handed.map Prod.fst) [] rest floor)
    (alert : Alert floor) (waiting : floor.waiting = []) (granted : floor.granted = [])
    {batch : Batch τ ρ} (keeps : solo.Keeps (done + (jobs handed [] floor).length) batch)
    (there : solo.caller < floor.callers.length) :
    solo.Ended (floor.handIn solo.caller batch rest) ∨
      solo.Proceeds done handed (toil handed [] rest floor + 1)
        (floor.handIn solo.caller batch rest) := by
  induction rest generalizing floor batch with
  | nil =>
      exact (course.join alert waiting granted keeps there).imp_right
        fun proceeds => proceeds.mono (Nat.le_succ _)
  | cons task rest ih =>
      have issued := course.issue
      rw [← keeps.scope] at issued
      have offered := issued.offer granted
      rw [← keeps.wait] at offered
      have keepsNext : solo.Keeps (done + (jobs handed [] floor).length + 1)
          { batch with tickets := batch.tickets ++ [floor.nextTicket] } := by
        refine ⟨keeps.scope, keeps.wait, ?_⟩
        change batch.tickets ++ [floor.nextTicket] = _
        rw [keeps.tickets, List.range'_concat, course.line.nextTicket, Nat.one_mul, Nat.add_assoc]
      have price : toil handed [⟨floor.nextTicket, batch.scope, task⟩] rest
          (floor.issue batch.scope task).1 = toil handed [] (task :: rest) floor := by
        simp only [toil, Floor.issue, List.length_cons, List.length_nil]
        omega
      rw [Floor.handIn]
      dsimp only
      rcases offered with
        ⟨next, offerEq, later, alertNext, queue, waitingEq, grantedEq, callers, cheap⟩ |
        ⟨full, offerEq⟩
      · rw [show (floor.issue batch.scope task).2 = ⟨floor.nextTicket, batch.scope, task⟩ from rfl,
          offerEq]
        have keepsLater : solo.Keeps (done + (jobs handed [] next).length)
            { batch with tickets := batch.tickets ++ [floor.nextTicket] } := by
          have longer : (jobs handed [] next).length = (jobs handed [] floor).length + 1 := by
            simp [jobs, queue, Floor.issue, Nat.add_assoc]
          rw [longer]
          exact keepsNext
        have thereStill : solo.caller < next.callers.length := by
          rw [callers]
          exact there
        exact (ih later alertNext (waitingEq.trans waiting) grantedEq keepsLater thereStill).imp_right
          fun proceeds => proceeds.mono (Nat.succ_le_succ (price ▸ cheap))
      · rw [show (floor.issue batch.scope task).2 = ⟨floor.nextTicket, batch.scope, task⟩ from rfl,
          offerEq]
        right
        have keepsLater : solo.Keeps (done + (jobs handed
            [⟨floor.nextTicket, batch.scope, task⟩] (floor.issue batch.scope task).1).length)
            { batch with tickets := batch.tickets ++ [floor.nextTicket] } := by
          have longer : (jobs handed [⟨floor.nextTicket, batch.scope, task⟩]
              (floor.issue batch.scope task).1).length = (jobs handed [] floor).length + 1 := by
            simp [jobs, Floor.issue, Nat.add_assoc]
          rw [longer]
          exact keepsNext
        have late : solo.now < floor.agenda.dueAfter batch.wait := by
          have patience := issued.patience full granted
          rw [issued.ground.now_eq] at patience
          rw [keeps.wait]
          exact patience
        rw [← price]
        exact issued.await alert waiting granted full keepsLater there late

end HandingIn

/-! ## Turns -/

section Turns

theorem Course.setCaller (course : solo.Course done handed workers offered rest floor)
    (state : Caller τ ρ) :
    solo.Course done handed workers offered rest (floor.setCaller solo.caller state) := by
  obtain ⟨ground, line, seats, readied, places⟩ := course
  exact ⟨ground.frame rfl rfl rfl rfl fun _ other => List.getElem?_set_ne (Ne.symm other),
    line.frame rfl rfl rfl rfl, ⟨seats.seated, seats.distinct, seats.there, seats.enough⟩,
    ⟨readied.workers_eq, readied.concerned⟩, places⟩

/-- The turn of the caller of the batch. -/
theorem Course.attend (course : solo.Course done handed (handed.map Prod.fst) offered rest floor)
    (alert : Alert floor) {batch : Batch τ ρ}
    (found : floor.callers[solo.caller]? = some (.batching batch))
    (keeps : solo.Keeps (done + (jobs handed offered floor).length) batch)
    {before : Floor ε τ ρ} (waits : solo.Waits before batch.stage offered rest)
    (waiting : floor.waiting = before.waiting) (granted : floor.granted = before.granted)
    (free : floor.free = before.free) :
    solo.Ended (floor.attend solo.caller) ∨
      solo.Proceeds done handed (toil handed offered rest floor) (floor.attend solo.caller) := by
  have there := (List.getElem?_eq_some_iff.mp found).1
  have attendEq : floor.attend solo.caller = floor.batchTurn solo.caller batch := by
    rw [Floor.attend, found]
  rw [attendEq, Floor.batchTurn]
  generalize stageEq : batch.stage = stage at waits
  cases waits with
  | joining noneWaits noneGranted =>
      exact course.join alert (waiting.trans noneWaits) (granted.trans noneGranted) keeps there
  | waiting job due rest late isWaiting noneGranted full =>
      right
      have offeredEq : floor.offerAgain solo.caller job batch.wait due = (floor, none) := by
        rcases floor.offerAgain_cases job solo.caller batch.wait due with
          ⟨stopped, _⟩ | ⟨_, isGranted, _⟩ | ⟨_, _, tooLate, _⟩ | ⟨_, _, _, offerEq⟩
        · cases stopped.symm.trans course.ground.dispatching
        · rw [granted, noneGranted] at isGranted
          cases isGranted
        · rw [course.ground.now_eq] at tooLate
          exact absurd late (Nat.not_lt.mpr tooLate)
        · exact offerEq
      have stays : solo.Waits floor batch.stage [job] rest := by
        rw [stageEq]
        exact .waiting job due rest late (waiting.trans isWaiting) (granted.trans noneGranted)
          (free.trans full)
      have more : jobs handed [job] floor ≠ [] := by simp [jobs]
      dsimp only
      rw [offeredEq]
      exact ⟨[job], rest, ⟨course, ⟨batch, found, keeps, stays⟩,
        fun none => absurd none more⟩, alert, Nat.le_refl _⟩
  | promised job due rest noneWaits isGranted ready =>
      have offeredEq : floor.offerAgain solo.caller job batch.wait due =
          ((floor.withdraw solo.caller).enqueue job, some (.ok ())) := by
        rcases floor.offerAgain_cases job solo.caller batch.wait due with
          ⟨stopped, _⟩ | ⟨_, _, offerEq⟩ | ⟨_, absent, _⟩ | ⟨_, absent, _⟩
        · cases stopped.symm.trans course.ground.dispatching
        · exact offerEq
        · rw [granted, isGranted] at absent
          exact absurd (List.mem_singleton_self _) absent
        · rw [granted, isGranted] at absent
          exact absurd (List.mem_singleton_self _) absent
      have withdrawn : floor.withdraw solo.caller =
          { floor with agenda := floor.agenda.release (.caller solo.caller), granted := [] } := by
        simp [Floor.withdraw, Floor.onAgenda, waiting, noneWaits, granted, isGranted]
      obtain ⟨next, alertNext, cheap⟩ := course.enqueue
        (floor.agenda.release (.caller solo.caller)) floor.free [] ⟨rfl, rfl, rfl, fun _ => id⟩ rfl
        (by rw [granted, isGranted]; rfl) (congrArg (Floor.enqueue job) withdrawn)
      have longer : (jobs handed [] ((floor.withdraw solo.caller).enqueue job)).length =
          (jobs handed [job] floor).length := by
        simp [jobs, Floor.withdraw, Floor.onAgenda]
      dsimp only
      rw [offeredEq]
      refine ((next.setCaller (.batching { batch with stage := .joining })).handIn alertNext ?_ ?_ ?_
        ?_).imp_right fun proceeds => proceeds.mono cheap
      · change ((floor.withdraw solo.caller).enqueue job).waiting = []
        rw [withdrawn, Floor.waiting_enqueue]
        exact waiting.trans noneWaits
      · change ((floor.withdraw solo.caller).enqueue job).granted = []
        rw [withdrawn, Floor.granted_enqueue]
      · rw [← longer] at keeps
        exact ⟨keeps.scope, keeps.wait, keeps.tickets⟩
      · rw [Floor.setCaller, List.length_set, Floor.callers_enqueue]
        exact there

/-- Some actor is ready as long as the batch is under way. -/
theorem Going.ready_ne_nil (going : solo.Going done handed (handed.map Prod.fst) offered rest floor)
    (alert : Alert floor) : floor.agenda.ready ≠ [] := by
  intro quiet
  have nobody := Agenda.notMem_of_quiet quiet
  have queue : floor.queue = [] := by
    by_contra some
    exact nobody _ (alert some)
  have handedEq : handed = [] := by
    have workers := going.readied.workers_eq
    rw [Agenda.workers, quiet] at workers
    exact List.map_eq_nil_iff.mp workers.symm
  have offeredEq : offered = [] := by
    obtain ⟨batch, _, _, waits⟩ := going.batch
    have places := going.places
    have room := going.ground.room
    generalize batch.stage = stage at waits
    cases waits with
    | joining => rfl
    | waiting job due rest late isWaiting noneGranted full =>
        rw [queue, noneGranted, full] at places
        exact absurd places (Nat.ne_of_lt room)
    | promised job due rest noneWaits isGranted ready => exact absurd ready (nobody _)
  refine nobody _ (going.last ?_)
  rw [jobs, queue, handedEq, offeredEq]
  rfl

/-- Whoever is ready takes a turn: the batch ends, or fewer turns are left.  Of the workers it is
the first one who does, as they perform the tasks in the order in which they were woken. -/
theorem Underway.turn {bound : Nat} (underway : solo.Underway (bound + 1) floor) {actor : Actor}
    (ready : actor ∈ floor.agenda.ready)
    (first : ∀ index, actor = .worker index → floor.agenda.workers.head? = some index) :
    solo.Concerns actor ∧
      (solo.Underway bound (Floor.turn actor (floor.unready actor)) ∨
        actor = .caller solo.caller ∧ solo.Ended (Floor.turn actor (floor.unready actor))) := by
  obtain ⟨done, handed, offered, rest, going, alert, cheap⟩ := underway
  have concerned := going.readied.concerned actor ready
  refine ⟨concerned, ?_⟩
  have spent := toil_unready handed offered rest ready
  have within : toil handed offered rest (floor.unready actor) ≤ bound := by omega
  have alertStill : actor ≠ .dispatcher → Alert (floor.unready actor) :=
    fun other queue => (List.mem_erase_of_ne (Ne.symm other)).mpr (alert queue)
  cases actor with
  | dispatcher =>
      have notCaller : Actor.dispatcher ≠ .caller solo.caller := by rintro ⟨⟩
      have next := going.unready notCaller (List.nil_append _)
      obtain ⟨more, dispatched, empty, cheaper⟩ := next.dispatch
      exact .inl ⟨done, more, offered, rest, dispatched, fun some => absurd empty some,
        Nat.le_trans cheaper within⟩
  | worker index =>
      have workers := first index rfl
      rw [going.readied.workers_eq] at workers
      cases handed with
      | nil => cases workers
      | cons entry handed =>
          obtain ⟨worker, job⟩ := entry
          obtain rfl : worker = index := Option.some.inj workers
          have notCaller : Actor.worker worker ≠ .caller solo.caller := by rintro ⟨⟩
          have next := going.unready notCaller rfl
          obtain ⟨worked, alertNext, cheaper⟩ := next.work
          have alertWorked := alertNext (alertStill (by rintro ⟨⟩))
          exact .inl ⟨done + 1, handed, offered, rest, worked, alertWorked,
            Nat.le_trans cheaper within⟩
  | caller number =>
      obtain rfl := concerned
      obtain ⟨batch, found, keeps, waits⟩ := going.batch
      have course : solo.Course done handed (handed.map Prod.fst) offered rest
          (floor.unready (.caller solo.caller)) :=
        going.toCourse.unready (List.nil_append _)
      rcases course.attend (alertStill (by rintro ⟨⟩)) found keeps waits rfl rfl rfl with
        ended | proceeds
      · exact .inr ⟨rfl, ended⟩
      · exact .inl ⟨done, handed, proceeds.mono within⟩
  | guest number => exact concerned.elim
  | timer number =>
      have notCaller : Actor.timer number ≠ .caller solo.caller := by rintro ⟨⟩
      have next := going.unready notCaller (List.nil_append _)
      exact .inl ⟨done, handed, offered, rest, next, alertStill (by rintro ⟨⟩), within⟩

theorem Underway.ready_ne_nil {bound : Nat} (underway : solo.Underway bound floor) :
    floor.agenda.ready ≠ [] := by
  obtain ⟨_, _, _, _, going, alert, _⟩ := underway
  exact going.ready_ne_nil alert

theorem Underway.mono {bound limit : Nat} (underway : solo.Underway bound floor)
    (le : bound ≤ limit) : solo.Underway limit floor := by
  obtain ⟨done, handed, proceeds⟩ := underway
  exact ⟨done, handed, proceeds.mono le⟩

theorem Underway.pos {bound : Nat} (underway : solo.Underway bound floor) : 0 < bound := by
  obtain ⟨_, handed, offered, rest, going, alert, cheap⟩ := underway
  have someone := List.length_pos_iff.mpr (going.ready_ne_nil alert)
  rw [toil] at cheap
  omega

theorem Underway.batching {bound : Nat} (underway : solo.Underway bound floor) :
    ∃ batch, floor.callers[solo.caller]? = some (.batching batch) := by
  obtain ⟨_, _, _, _, going, _⟩ := underway
  obtain ⟨batch, found, _⟩ := going.batch
  exact ⟨batch, found⟩

theorem Underway.ground {bound : Nat} (underway : solo.Underway bound floor) :
    solo.Ground floor := by
  obtain ⟨_, _, _, _, going, _⟩ := underway
  exact going.toCourse.ground

/-- An alarm is set. -/
theorem Underway.setAlarm {bound : Nat} (underway : solo.Underway bound floor) (due : Nat)
    (actor : Actor) : solo.Underway bound (floor.onAgenda (·.setAlarm due actor)) := by
  obtain ⟨done, handed, offered, rest, ⟨⟨ground, line, seats, readied, places⟩, ⟨batch, found, keeps,
    waits⟩, last⟩, alert, cheap⟩ := underway
  exact ⟨done, handed, offered, rest, ⟨⟨ground.frame rfl rfl rfl rfl fun _ _ => rfl,
    line.frame rfl rfl rfl rfl, ⟨seats.seated, seats.distinct, seats.there, seats.enough⟩,
    ⟨readied.workers_eq, readied.concerned⟩, places⟩, ⟨batch, found, keeps,
    waits.frame rfl rfl rfl id⟩, last⟩, alert, cheap⟩

omit [Trade ε τ ρ] in
/-- Once the batch has ended, its timer is dismissed, and more may be recorded. -/
theorem Ended.dismiss (ended : solo.Ended floor) (final : ε) (actor : Actor) :
    { solo with final := final }.Ended
      ({ floor with shared := final }.onAgenda (·.dismiss actor)) := by
  obtain ⟨ground, ⟨batch, found, outcomes⟩, _, queue, readied⟩ := ended
  have same : { solo with final := final }.Ground
      ({ floor with shared := final }.onAgenda (·.dismiss actor)) :=
    ⟨ground.open_, ground.dispatching, ground.now_eq, ground.live, ground.alone, ground.room,
      ground.patience⟩
  refine ⟨same, ⟨batch, found, outcomes⟩, rfl, queue, ?_, ?_⟩
  · have noWorkers := readied.workers_eq
    rw [Agenda.workers, List.filterMap_eq_nil_iff] at noWorkers ⊢
    exact fun other member => noWorkers other (List.mem_filter.mp member).1
  · exact fun other member => readied.concerned other (List.mem_filter.mp member).1

omit [Trade ε τ ρ] in
/-- Once the batch has ended, whoever is ready has nothing to do. -/
theorem Ended.turn [Trade ε τ ρ] (ended : solo.Ended floor) {actor : Actor}
    (ready : actor ∈ floor.agenda.ready) :
    solo.Concerns actor ∧ solo.Ended (floor.unready actor) ∧
      Floor.turn actor (floor.unready actor) = floor.unready actor := by
  obtain ⟨ground, ⟨batch, found, outcomes⟩, shared, queue, readied⟩ := ended
  have concerned := readied.concerned actor ready
  have noWorkers := readied.workers_eq
  rw [Agenda.workers, List.filterMap_eq_nil_iff] at noWorkers
  refine ⟨concerned, ⟨ground.frame rfl rfl rfl rfl fun _ _ => rfl, ⟨batch, found, outcomes⟩, shared,
    queue, ?_, ?_⟩, ?_⟩
  · rw [Agenda.workers, List.filterMap_eq_nil_iff]
    exact fun other member => noWorkers other (List.mem_of_mem_erase member)
  · exact fun other member => readied.concerned other (List.mem_of_mem_erase member)
  · cases actor with
    | dispatcher =>
        change (floor.unready .dispatcher).dispatch = _
        unfold Floor.dispatch
        have open_ : (floor.unready .dispatcher).shut = false := ground.open_
        have empty : (floor.unready .dispatcher).queue = [] := queue
        rw [open_, empty, List.length_nil, Nat.zero_min]
        split <;> rfl
    | worker index => cases noWorkers _ ready
    | caller number =>
        obtain rfl := concerned
        have foundStill : (floor.unready (.caller solo.caller)).callers[solo.caller]? =
            some (.batched batch solo.now) := found
        change (floor.unready (.caller solo.caller)).attend solo.caller = _
        rw [Floor.attend, foundStill]
    | guest | timer => rfl

end Turns

/-! ## How it begins -/

section Start

/-- Nothing goes on in an open pool. -/
structure Vacant (floor : Floor ε τ ρ) : Prop where
  open_ : floor.shut = false
  dispatching : floor.dispatching = true
  queue : floor.queue = []
  waiting : floor.waiting = []
  granted : floor.granted = []
  distinct : floor.idle.Nodup
  there : ∀ index ∈ floor.idle, index < floor.desks.length
  tickets : ∀ delivery ∈ floor.deliveries, delivery.ticket < floor.nextTicket
  awaited : ∀ (caller : Nat) (state : Caller τ ρ), floor.callers[caller]? = some state →
    ∀ ticket, floor.nextTicket ≤ ticket → state.awaits ticket = false

theorem le_together {α : Type} (effort : α → Nat) {member : α} {list : List α}
    (inside : member ∈ list) : effort member ≤ Schedule.Clockwork.together effort list := by
  induction list with
  | nil => cases inside
  | cons first rest ih =>
      rw [Schedule.Clockwork.together]
      rcases List.mem_cons.mp inside with rfl | later
      · exact Nat.le_add_right _ _
      · exact Nat.le_trans (ih later) (Nat.le_add_left _ _)

/-- The effort of the pool covers a batch none of whose jobs lies on a desk yet. -/
theorem Proceeds.underway {bound : Nat} (proceeds : solo.Proceeds done [] bound floor) :
    solo.Underway floor.effort floor := by
  obtain ⟨offered, rest, going, alert, _⟩ := proceeds
  refine ⟨done, [], offered, rest, going, alert, ?_⟩
  obtain ⟨batch, found, _, waits⟩ := going.batch
  have own := le_together Caller.effort (List.mem_of_getElem? found)
  have price : floor.waiting.length + 6 * (offered.length + rest.length) ≤
      Caller.effort (.batching batch : Caller τ ρ) := by
    rw [Caller.effort]
    generalize batch.stage = stage at waits
    cases waits with
    | joining noneWaits =>
        rw [noneWaits]
        exact Nat.zero_le _
    | waiting job due rest late isWaiting =>
        rw [isWaiting, List.length_singleton, List.length_singleton]
        dsimp only
        omega
    | promised job due rest noneWaits =>
        rw [noneWaits, List.length_nil, List.length_singleton]
        dsimp only
        omega
  rw [toil, Floor.effort, List.length_nil]
  omega

omit [Trade ε τ ρ] in
/-- A batch that has no jobs yet waits for nothing. -/
theorem Vacant.enter (vacant : Vacant floor) (scope : Nat) (wait : Span) :
    Vacant (floor.enter (.batching { scope := scope, wait := wait })).1 := by
  obtain ⟨open_, dispatching, queue, waiting, granted, distinct, there, tickets, awaited⟩ := vacant
  refine ⟨open_, dispatching, queue, waiting, granted, distinct, there, tickets, ?_⟩
  intro caller state found ticket recent
  rcases Floor.getElem?_enter found with old | ⟨_, rfl⟩
  · exact awaited caller state old ticket recent
  · rfl

/-- When nothing goes on, tasks that end in one turn each can be handed in. -/
theorem Vacant.course {tasks : List τ} (vacant : Vacant floor)
    (first : solo.first = floor.nextTicket) (capacity : solo.capacity = floor.free)
    (now_eq : solo.now = floor.now) (live : floor.isCancelled solo.scope = false)
    (room : 0 < floor.free)
    (patience : solo.now < Schedule.waitOver solo.now solo.wait ∨ tasks.length ≤ floor.free)
    (enough : tasks.length ≤ floor.idle.length)
    (performs : Performs solo.now tasks floor.shared solo.outcomes solo.final)
    (readied : solo.Readied [] floor.agenda) : solo.Course 0 [] [] [] tasks floor := by
  have ground : solo.Ground floor := by
    refine ⟨vacant.open_, vacant.dispatching, now_eq.symm, live, ?_, capacity ▸ room, ?_⟩
    · intro other state _ found ticket recent
      exact vacant.awaited other state found ticket (first ▸ recent)
    · rw [performs.length, capacity]
      exact patience
  have jobsEq : jobs [] [] floor = ([] : List (Job τ)) := by
    rw [jobs, vacant.queue]
    rfl
  refine ⟨ground, ?_, ⟨fun _ member => absurd member List.not_mem_nil, ?_, vacant.there, ?_⟩,
    readied, ?_⟩
  · rw [jobsEq]
    refine ⟨Nat.zero_le _, rfl, first.symm, fun _ member => absurd member List.not_mem_nil,
      performs, fun index => ?_⟩
    have unknown : floor.outcome? (solo.first + index) = none := by
      apply List.find?_eq_none.mpr
      intro delivery member
      have old := vacant.tickets delivery member
      rw [beq_iff_eq]
      omega
    rw [unknown]
    rfl
  · rw [List.map_nil, List.append_nil]
    exact vacant.distinct
  · rw [vacant.queue]
    simpa using enough
  · rw [vacant.queue, vacant.granted]
    exact capacity.symm

/-- Tasks that end in one turn each are run as a batch that runs alone. -/
theorem Vacant.executeBatch {tasks : List τ} (vacant : Vacant floor)
    (caller : solo.caller = floor.callers.length) (first : solo.first = floor.nextTicket)
    (capacity : solo.capacity = floor.free) (now_eq : solo.now = floor.now)
    (live : floor.isCancelled solo.scope = false) (room : 0 < floor.free)
    (patience : solo.now < Schedule.waitOver solo.now solo.wait ∨ tasks.length ≤ floor.free)
    (enough : tasks.length ≤ floor.idle.length)
    (performs : Performs solo.now tasks floor.shared solo.outcomes solo.final)
    (readied : solo.Readied [] floor.agenda) :
    solo.Ended (floor.executeBatch solo.wait solo.scope tasks).1 ∨
      solo.Underway (floor.executeBatch solo.wait solo.scope tasks).1.effort
        (floor.executeBatch solo.wait solo.scope tasks).1 := by
  let batch : Batch τ ρ := { scope := solo.scope, wait := solo.wait }
  have entered := vacant.enter solo.scope solo.wait
  have course := entered.course first capacity now_eq live room patience enough performs readied
  have jobsEq : jobs [] [] (floor.enter (.batching batch)).1 = ([] : List (Job τ)) := by
    rw [jobs, entered.queue]
    rfl
  have keeps : solo.Keeps (0 + (jobs [] [] (floor.enter (.batching batch)).1).length) batch := by
    rw [jobsEq]
    exact ⟨rfl, rfl, rfl⟩
  have there : solo.caller < (floor.enter (.batching batch)).1.callers.length := by
    rw [caller]
    change _ < (floor.callers ++ [_]).length
    rw [List.length_append]
    exact Nat.lt_succ_self _
  have handedIn := course.handIn (fun some => absurd entered.queue some) entered.waiting
    entered.granted keeps there
  rw [caller] at handedIn
  exact handedIn.imp_right fun proceeds => proceeds.underway

end Start

end Solo

end RiskGate.Pool
