import RiskGate.Proofs.Pool.Reporting
import RiskGate.Proofs.Pool.Quiet

/-!
# Jobs that are run and jobs that stand in line

Whether a job is being run can be read off what is known of it: it was begun, and its
outcome has not come.  It stands in line if it was accepted and has neither begun nor
ended.  As each job has one place, these are the jobs on the desks of busy workers, and
those that are queued or were handed over.

When nobody is ready to act, an open pool keeps to its bounds and leaves nothing undone: no
job stands in line while a worker is free, and no caller waits while there is a place in the
queue.
-/

namespace RiskGate.Pool

open Schedule (Agenda)

variable {ε τ ρ : Type}

/-- The note says that a task was begun. -/
def Note.isBeginning : Note τ ρ → Bool
  | .invoked _ => true
  | .issued _ | .answered _ | .yielded _ => false

/-- The note says that a submission was accepted. -/
def Note.isAcceptance : Note τ ρ → Bool
  | .answered (.ok ()) => true
  | .answered (.error _) | .issued _ | .invoked _ | .yielded _ => false

namespace History

/-- The task of a job was begun. -/
def hasBegun (ticket : Nat) (history : History τ ρ) : Bool :=
  (history.story ticket).any Note.isBeginning

/-- The submission of a job was accepted. -/
def wasAccepted (ticket : Nat) (history : History τ ρ) : Bool :=
  (history.story ticket).any Note.isAcceptance

end History

namespace Floor

/-- No outcome was delivered under a ticket. -/
def isPending (ticket : Nat) (floor : Floor ε τ ρ) : Bool :=
  (floor.outcome? ticket).isNone

theorem isPending_iff {ticket : Nat} {floor : Floor ε τ ρ} :
    floor.isPending ticket = true ↔ ∀ delivery ∈ floor.deliveries, delivery.ticket ≠ ticket := by
  rw [isPending, Option.isNone_iff_eq_none, outcome?, List.find?_eq_none]
  simp

/-- The tickets of the jobs that were begun and have not ended. -/
def running (history : History τ ρ) (floor : Floor ε τ ρ) : List Nat :=
  (List.range floor.nextTicket).filter fun ticket =>
    floor.isPending ticket && history.hasBegun ticket

/-- The tickets of the jobs that were accepted and have neither begun nor ended. -/
def inLine (history : History τ ρ) (floor : Floor ε τ ρ) : List Nat :=
  (List.range floor.nextTicket).filter fun ticket =>
    floor.isPending ticket && history.wasAccepted ticket && !history.hasBegun ticket

/-! ## Where a job is found -/

theorem mem_sum_map {α β : Type} {places : α → Multiset β} {items : List α} {entry : β} :
    entry ∈ (items.map places).sum ↔ ∃ item ∈ items, entry ∈ places item := by
  induction items with
  | nil => simp
  | cons first rest ih => simp [ih]

theorem mem_whereabouts {floor : Floor ε τ ρ} {entry : Nat × Place τ ρ} :
    entry ∈ floor.whereabouts ↔
      (∃ caller ∈ floor.callers, entry ∈ caller.places) ∨
        (∃ job ∈ floor.queue, entry = (job.ticket, .queued job)) ∨
        (∃ desk ∈ floor.desks, entry ∈ desk.places) ∨
        ∃ delivery ∈ floor.deliveries, entry = (delivery.ticket, .delivered delivery.outcome) := by
  rw [whereabouts, Multiset.mem_add, Multiset.mem_add, Multiset.mem_add, mem_sum_map, mem_sum_map,
    queuePlaces, deliveryPlaces, Multiset.mem_coe, Multiset.mem_coe, List.mem_map, List.mem_map,
    or_assoc, or_assoc]
  simp only [eq_comm]

/-- A job that a worker is busy with is among the places. -/
theorem mem_whereabouts_of_busy {floor : Floor ε τ ρ} {job : Job τ}
    (seated : .busy job ∈ floor.desks) :
    (job.ticket, .running job.scope) ∈ floor.whereabouts :=
  mem_whereabouts.mpr (.inr (.inr (.inl ⟨_, seated, Multiset.mem_singleton_self _⟩)))

/-- A job that has an outcome is among the places. -/
theorem mem_whereabouts_of_delivered {floor : Floor ε τ ρ} {delivery : Delivery ρ}
    (delivered : delivery ∈ floor.deliveries) :
    (delivery.ticket, .delivered delivery.outcome) ∈ floor.whereabouts :=
  mem_whereabouts.mpr (.inr (.inr (.inr ⟨delivery, delivered, rfl⟩)))

/-- Where a job is that has no outcome yet, and what is known of it there. -/
inductive Standing (floor : Floor ε τ ρ) (ticket : Nat) : List (Note τ ρ) → Prop where
  | offered {caller : Caller τ ρ} {job : Job τ} (present : caller ∈ floor.callers)
      (wants : (ticket, .offered job) ∈ caller.places) : Standing floor ticket [.issued job]
  | queued {job : Job τ} (listed : job ∈ floor.queue) (ticket_eq : job.ticket = ticket) :
      Standing floor ticket [.issued job, .answered (.ok ())]
  | handed {job : Job τ} (seated : .handed job ∈ floor.desks) (ticket_eq : job.ticket = ticket) :
      Standing floor ticket [.issued job, .answered (.ok ())]
  | running {job original : Job τ} (seated : .busy job ∈ floor.desks)
      (ticket_eq : job.ticket = ticket) (scope_eq : original.scope = job.scope) :
      Standing floor ticket [.issued original, .answered (.ok ()), .invoked original.task]

/-- What a caller waits for is to be offered. -/
theorem offered_of_mem_places {caller : Caller τ ρ} {entry : Nat × Place τ ρ}
    (member : entry ∈ caller.places) : ∃ job : Job τ, entry = (job.ticket, .offered job) := by
  cases caller with
  | offering job => exact ⟨job, Multiset.mem_singleton.mp member⟩
  | batching batch =>
      rw [Caller.places] at member
      cases stage : batch.stage with
      | offering job =>
          rw [stage] at member
          exact ⟨job, Multiset.mem_singleton.mp member⟩
      | joining =>
          rw [stage] at member
          exact absurd member (Multiset.notMem_zero _)
  | offered | batched | closing | closed => exact absurd member (Multiset.notMem_zero _)

/-- A job whose place is its outcome has that outcome. -/
theorem exists_delivery_of_place {floor : Floor ε τ ρ} {ticket : Nat} {outcome : Outcome ρ}
    (here : (ticket, .delivered outcome) ∈ floor.whereabouts) :
    ∃ delivery ∈ floor.deliveries, delivery.ticket = ticket ∧ delivery.outcome = outcome := by
  rcases mem_whereabouts.mp here with
    ⟨_, _, offered⟩ | ⟨_, _, same⟩ | ⟨desk, _, onDesk⟩ | ⟨delivery, delivered, same⟩
  · obtain ⟨_, same⟩ := offered_of_mem_places offered
    cases same
  · cases same
  · cases desk with
    | handed | busy => cases Multiset.mem_singleton.mp onDesk
    | idle | gone => exact absurd onDesk (Multiset.notMem_zero _)
  · cases same
    exact ⟨delivery, delivered, rfl, rfl⟩

section Accounted

variable {history : History τ ρ} {floor : Floor ε τ ρ} {ticket : Nat}

/-- A ticket that was given out has a place. -/
theorem Accounted.exists_place (accounted : Accounted history floor)
    (issued : ticket < floor.nextTicket) : ∃ place, (ticket, place) ∈ floor.whereabouts := by
  have positive : 0 < floor.whereabouts.countP (·.1 = ticket) := by
    rw [accounted.once, if_pos issued]
    exact Nat.one_pos
  obtain ⟨⟨_, place⟩, member, same⟩ := Multiset.countP_pos.mp positive
  cases same
  exact ⟨place, member⟩

/-- A ticket has one place only. -/
theorem Accounted.place_unique (accounted : Accounted history floor) {place other : Place τ ρ}
    (here : (ticket, place) ∈ floor.whereabouts) (there : (ticket, other) ∈ floor.whereabouts) :
    place = other := by
  obtain ⟨rest, whereaboutsEq⟩ := Multiset.exists_cons_of_mem here
  rw [whereaboutsEq, Multiset.mem_cons] at there
  rcases there with same | elsewhere
  · exact (Prod.mk.inj same).2.symm
  · have counted := accounted.once ticket
    rw [whereaboutsEq, Multiset.countP_cons, if_pos rfl] at counted
    have positive : 0 < rest.countP (·.1 = ticket) :=
      Multiset.countP_pos.mpr ⟨(ticket, other), elsewhere, rfl⟩
    split at counted <;> omega

/-- A job that has another place has no outcome. -/
theorem Accounted.isPending (accounted : Accounted history floor) {place : Place τ ρ}
    (here : (ticket, place) ∈ floor.whereabouts)
    (undelivered : ∀ outcome, place ≠ .delivered outcome) : floor.isPending ticket = true := by
  cases known : floor.outcome? ticket with
  | none => rw [Floor.isPending, known, Option.isNone_none]
  | some delivery =>
      obtain ⟨delivered, rfl⟩ := exists_delivery_of_outcome? known
      have there := mem_whereabouts_of_delivered delivered
      exact absurd (accounted.place_unique here there) (undelivered _)

/-- A job without an outcome is where what is known of it says. -/
theorem Accounted.standing (accounted : Accounted history floor)
    (issued : ticket < floor.nextTicket) (pending : floor.isPending ticket = true) :
    Standing floor ticket (history.story ticket) := by
  obtain ⟨place, there⟩ := accounted.exists_place issued
  have fits := accounted.fits _ there
  rcases mem_whereabouts.mp there with
    ⟨caller, present, offered⟩ | ⟨job, listed, same⟩ | ⟨desk, seated, onDesk⟩ |
      ⟨delivery, delivered, same⟩
  · obtain ⟨job, same⟩ := offered_of_mem_places offered
    cases same
    rw [show history.story job.ticket = [.issued job] from fits]
    exact .offered present offered
  · cases same
    rw [show history.story job.ticket = [.issued job, .answered (.ok ())] from fits]
    exact .queued listed rfl
  · cases desk with
    | handed job =>
        cases Multiset.mem_singleton.mp onDesk
        rw [show history.story job.ticket = [.issued job, .answered (.ok ())] from fits]
        exact .handed seated rfl
    | busy job =>
        cases Multiset.mem_singleton.mp onDesk
        obtain ⟨original, scope_eq, storyEq⟩ := fits
        rw [show history.story job.ticket = _ from storyEq]
        exact .running seated rfl scope_eq
    | idle | gone => exact absurd onDesk (Multiset.notMem_zero _)
  · cases same
    exact absurd rfl (isPending_iff.mp pending delivery delivered)

/-- No two queued jobs have the same ticket. -/
theorem Accounted.nodup_queue (accounted : Accounted history floor) :
    (floor.queue.map Job.ticket).Nodup := by
  apply List.nodup_iff_count_le_one.mpr
  intro ticket
  have part : queuePlaces (ρ := ρ) floor.queue ≤ floor.whereabouts := by
    rw [whereabouts, add_assoc, add_comm _ (queuePlaces floor.queue), add_assoc]
    exact Multiset.le_add_right _ _
  have counted : floor.whereabouts.countP (·.1 = ticket) ≤ 1 := by
    rw [accounted.once]
    split <;> omega
  calc (floor.queue.map Job.ticket).count ticket
      = (queuePlaces (ρ := ρ) floor.queue).countP (·.1 = ticket) := by
        rw [queuePlaces, Multiset.coe_countP, List.countP_map, List.count, List.countP_map]
        rfl
    _ ≤ floor.whereabouts.countP (·.1 = ticket) := Multiset.countP_le_of_le _ part
    _ ≤ 1 := counted

/-- A job is being run exactly if a worker is busy with it. -/
theorem Accounted.mem_running_iff (accounted : Accounted history floor) :
    ticket ∈ floor.running history ↔
      ∃ job : Job τ, .busy job ∈ floor.desks ∧ job.ticket = ticket := by
  constructor
  · intro member
    obtain ⟨issued, known⟩ := List.mem_filter.mp member
    obtain ⟨pending, begun⟩ := Bool.and_eq_true_iff.mp known
    have standing := accounted.standing (List.mem_range.mp issued) pending
    unfold History.hasBegun at begun
    cases story : history.story ticket with
    | nil =>
        rw [story] at begun
        cases begun
    | cons =>
        rw [story] at standing begun
        cases standing with
        | offered | queued | handed => cases begun
        | running seated ticket_eq => exact ⟨_, seated, ticket_eq⟩
  · rintro ⟨job, seated, rfl⟩
    have here := mem_whereabouts_of_busy seated
    obtain ⟨original, _, story⟩ := accounted.fits _ here
    have begun : history.hasBegun job.ticket = true := by
      rw [History.hasBegun, show history.story job.ticket = _ from story]
      rfl
    refine List.mem_filter.mpr ⟨List.mem_range.mpr (accounted.lt_nextTicket here), ?_⟩
    rw [begun, accounted.isPending here nofun]
    rfl

/-- A job stands in line exactly if it is queued or was handed over. -/
theorem Accounted.mem_inLine_iff (accounted : Accounted history floor) :
    ticket ∈ floor.inLine history ↔
      ∃ job : Job τ, (job ∈ floor.queue ∨ .handed job ∈ floor.desks) ∧ job.ticket = ticket := by
  constructor
  · intro member
    obtain ⟨issued, known⟩ := List.mem_filter.mp member
    obtain ⟨known, unbegun⟩ := Bool.and_eq_true_iff.mp known
    obtain ⟨pending, accepted⟩ := Bool.and_eq_true_iff.mp known
    have standing := accounted.standing (List.mem_range.mp issued) pending
    unfold History.wasAccepted at accepted
    unfold History.hasBegun at unbegun
    cases story : history.story ticket with
    | nil =>
        rw [story] at accepted
        cases accepted
    | cons =>
        rw [story] at standing accepted unbegun
        cases standing with
        | offered => cases accepted
        | queued listed ticket_eq => exact ⟨_, .inl listed, ticket_eq⟩
        | handed seated ticket_eq => exact ⟨_, .inr seated, ticket_eq⟩
        | running => cases unbegun
  · have inLine : ∀ {job : Job τ} {place : Place τ ρ}, (job.ticket, place) ∈ floor.whereabouts →
        (∀ outcome, place ≠ .delivered outcome) →
        history.story job.ticket = [.issued job, .answered (.ok ())] →
        job.ticket ∈ floor.inLine history := by
      intro job place here undelivered story
      refine List.mem_filter.mpr ⟨List.mem_range.mpr (accounted.lt_nextTicket here), ?_⟩
      rw [accounted.isPending here undelivered, History.wasAccepted, History.hasBegun, story]
      rfl
    rintro ⟨job, listed | seated, rfl⟩
    · have here : (job.ticket, .queued job) ∈ floor.whereabouts :=
        mem_whereabouts.mpr (.inr (.inl ⟨job, listed, rfl⟩))
      exact inLine here nofun (accounted.fits _ here)
    · have here : (job.ticket, .handed job) ∈ floor.whereabouts :=
        mem_whereabouts.mpr (.inr (.inr (.inl ⟨_, seated, Multiset.mem_singleton_self _⟩)))
      exact inLine here nofun (accounted.fits _ here)

end Accounted

/-! ## Bounds, and nothing left undone -/

/-- The pool keeps to its bounds.  A job stands in line only if every worker runs one, and a
caller waits for room only if there is none. -/
structure WorkConserving (workers capacity : Nat) (history : History τ ρ)
    (floor : Floor ε τ ρ) : Prop where
  running_le : (floor.running history).length ≤ workers
  inLine_le : (floor.inLine history).length ≤ capacity
  all_busy : floor.inLine history ≠ [] → ∀ index < workers,
    ∃ job, floor.desks[index]? = some (.busy job) ∧ job.ticket ∈ floor.running history
  full : ∀ caller ∈ floor.callers, caller.wantsRoom = true →
    (floor.inLine history).length = capacity

section Quiet

variable {history : History τ ρ} {floor : Floor ε τ ρ} {workers capacity : Nat}

/-- When nobody is ready, no job is between the queue and a worker. -/
theorem Alert.not_handed (alert : Alert none floor) (quiet : floor.agenda.ready = [])
    (job : Job τ) : .handed job ∉ floor.desks := by
  intro seated
  obtain ⟨index, found⟩ := List.mem_iff_getElem?.mp seated
  exact Agenda.notMem_of_quiet quiet _ (alert.attended (.worker index) nofun job found)

/-- When nobody is ready in an open pool with queued jobs, every worker is busy. -/
theorem Alert.busy_of_queued (alert : Alert none floor) (fit : Fit workers capacity none floor)
    (open_ : floor.shut = false) (quiet : floor.agenda.ready = []) (queued : floor.queue ≠ [])
    {desk : Desk τ} (present : desk ∈ floor.desks) : ∃ job, desk = .busy job := by
  cases desk with
  | busy job => exact ⟨job, rfl⟩
  | handed job => exact absurd present (alert.not_handed quiet job)
  | gone => exact absurd (alert.present open_ _ present) nofun
  | idle =>
      obtain ⟨index, found⟩ := List.mem_iff_getElem?.mp present
      have registered := List.ne_nil_of_mem ((fit.manned open_).registered index found)
      have ready := alert.attended .dispatcher nofun (alert.dispatching open_)
        (.inr ⟨queued, registered⟩)
      exact absurd ready (Agenda.notMem_of_quiet quiet _)

/-- When nobody is ready in an open pool, a caller waits for room only if the queue is full. -/
theorem Alert.full_of_wantsRoom (alert : Alert none floor) (fit : Fit workers capacity none floor)
    (open_ : floor.shut = false) (quiet : floor.agenda.ready = []) {caller : Caller τ ρ}
    (present : caller ∈ floor.callers) (wants : caller.wantsRoom = true) :
    floor.queue.length = capacity := by
  have manned := fit.manned open_
  have granted : floor.granted = [] := by
    apply List.eq_nil_iff_forall_not_mem.mpr
    intro other member
    exact Agenda.notMem_of_quiet quiet _ (manned.woken other member nofun)
  have waiting : floor.waiting ≠ [] := by
    obtain ⟨number, found⟩ := List.mem_iff_getElem?.mp present
    rcases alert.attended (.caller number) nofun caller found wants with ⟨_, waits⟩ | ⟨_, ready⟩
    · exact List.ne_nil_of_mem waits
    · exact absurd ready (Agenda.notMem_of_quiet quiet _)
  have places := manned.places
  rw [manned.full waiting, granted, fit.capacity_eq] at places
  simpa using places

/-- In an open pool in which nobody is ready, there are at most as many running jobs as
workers and at most as many jobs in line as places in the queue.  A job stands in line only
if every worker is running one, and a submission waits only if the queue is full. -/
theorem bounded_and_work_conserving [Trade ε τ ρ] {shared : ε}
    (run : Run (make workers capacity shared) history floor) (open_ : floor.shut = false)
    (quiet : floor.agenda.ready = []) :
    WorkConserving (max workers 1) (max capacity 1) history floor := by
  have arises : Arises history floor := ⟨workers, capacity, shared, run⟩
  have accounted := arises.sound.accounted
  have alert := arises.alert
  have fit : Fit (max workers 1) (max capacity 1) none floor :=
    run.preserves (.make workers capacity shared) fun _ _ allowed fit => fit.after allowed
  have inLine_iff : ∀ ticket,
      ticket ∈ floor.inLine history ↔ ticket ∈ floor.queue.map Job.ticket := by
    intro ticket
    rw [accounted.mem_inLine_iff, List.mem_map]
    constructor
    · rintro ⟨job, listed | seated, same⟩
      · exact ⟨job, listed, same⟩
      · exact absurd seated (alert.not_handed quiet job)
    · rintro ⟨job, listed, same⟩
      exact ⟨job, .inl listed, same⟩
  have inLine_length : (floor.inLine history).length = floor.queue.length := by
    have distinct : (floor.inLine history).Nodup := List.nodup_range.filter _
    rw [((List.perm_ext_iff_of_nodup distinct accounted.nodup_queue).mpr inLine_iff).length_eq,
      List.length_map]
  refine ⟨?_, ?_, ?_, ?_⟩
  · -- each running job is on a desk of its own
    have distinct : (floor.running history).Nodup := List.nodup_range.filter _
    have seated : floor.running history ⊆
        (floor.desks.filterMap Desk.begun?).map Job.ticket := by
      intro ticket member
      obtain ⟨job, busy, same⟩ := accounted.mem_running_iff.mp member
      exact List.mem_map.mpr ⟨job, List.mem_filterMap.mpr ⟨_, busy, rfl⟩, same⟩
    calc (floor.running history).length
        ≤ ((floor.desks.filterMap Desk.begun?).map Job.ticket).length :=
          (distinct.subperm seated).length_le
      _ ≤ floor.workers := by
          rw [List.length_map]
          exact List.length_filterMap_le _ _
      _ = max workers 1 := fit.workers_eq
  · have places := (fit.manned open_).places
    have capacity_eq := fit.capacity_eq
    omega
  · intro some index inRange
    have there : index < floor.desks.length := by
      rw [← fit.workers_eq] at inRange
      exact inRange
    have queued : floor.queue ≠ [] := by
      rw [← List.length_pos_iff, ← inLine_length, List.length_pos_iff]
      exact some
    obtain ⟨job, busy⟩ := alert.busy_of_queued fit open_ quiet queued (List.getElem_mem there)
    refine ⟨job, by rw [List.getElem?_eq_getElem there, busy], ?_⟩
    exact accounted.mem_running_iff.mpr ⟨job, busy ▸ List.getElem_mem there, rfl⟩
  · intro caller present wants
    rw [inLine_length]
    exact alert.full_of_wantsRoom fit open_ quiet present wants

end Quiet

/-- A pool with one worker and one place in its queue runs one job, has another one in line,
and lets a third one wait for room. -/
def crowdedEvents : List (Event DrillGround Drill) :=
  [.openScope, .submit 0 (slowDrill 10 7), .turn .dispatcher, .turn (.worker 0),
    .submit 0 (slowDrill 10 8), .submitWithin (Span.ofMillis 5) 0 (slowDrill 10 9)]

theorem bounded_and_work_conserving_crowded :
    WorkConserving 1 1 (soloPool.notesAll crowdedEvents) (soloPool.afterAll crowdedEvents) ∧
      (soloPool.afterAll crowdedEvents).inLine (soloPool.notesAll crowdedEvents) = [1] ∧
      ((soloPool.afterAll crowdedEvents).callers.map Caller.wantsRoom) = [true] := by
  have allowed : soloPool.AllowedAll crowdedEvents := by decide
  exact ⟨bounded_and_work_conserving allowed.run rfl rfl, rfl, rfl⟩

end Floor

end RiskGate.Pool
