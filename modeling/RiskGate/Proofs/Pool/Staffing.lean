import RiskGate.Proofs.Pool.Desks
import RiskGate.Proofs.Pool.Delivery

/-!
# Places and workers of a pool

As long as a pool is not shut down, every place of its queue is free, or taken by a job,
or promised to a caller who is ready to take it.  Nobody waits while a place is free, and
every idle worker is registered with the dispatcher.  The workers and the places are always
as many as they were in the beginning.
-/

namespace RiskGate.Pool.Floor

open Schedule (Actor Agenda)

variable {ε τ ρ : Type}

/-- What holds of a pool that is not shut down.  Whoever is aside may take a promised place
without being ready. -/
structure Manned (aside : Option Nat) (floor : Floor ε τ ρ) : Prop where
  dispatching : floor.dispatching = true
  places : floor.free + floor.queue.length + floor.granted.length = floor.capacity
  full : floor.waiting ≠ [] → floor.free = 0
  distinct : (floor.waiting ++ floor.granted).Nodup
  wants : ∀ caller ∈ floor.waiting ++ floor.granted,
    ∃ state, floor.callers[caller]? = some state ∧ state.wantsRoom = true
  woken : ∀ caller ∈ floor.granted, aside ≠ some caller → .caller caller ∈ floor.agenda.ready
  registered : ∀ index, floor.desks[index]? = some .idle → index ∈ floor.idle

/-- A pool has its workers and places, and is manned until it is shut down. -/
structure Fit (workers capacity : Nat) (aside : Option Nat) (floor : Floor ε τ ρ) : Prop where
  workers_eq : floor.workers = workers
  capacity_eq : floor.capacity = capacity
  opened : floor.agenda.Opened
  manned : floor.shut = false → Manned aside floor

namespace Fit

variable {workers capacity : Nat} {aside : Option Nat} {floor : Floor ε τ ρ}

theorem make (workers capacity : Nat) (shared : ε) :
    Fit (max workers 1) (max capacity 1) none (Floor.make workers capacity shared : Floor ε τ ρ)
    where
  workers_eq := List.length_replicate
  capacity_eq := rfl
  opened := by
    intro _ cancelled
    cases cancelled
  manned := by
    intro _
    refine ⟨rfl, rfl, fun waits => absurd rfl waits, List.nodup_nil, ?_, ?_, ?_⟩
    · intro _ member
      cases member
    · intro _ member
      cases member
    · intro index found
      have inRange := (List.getElem?_eq_some_iff.mp found).1
      rw [Floor.make, List.length_replicate] at inRange
      exact List.mem_range.mpr inRange

/-! ## What does not concern places or workers -/

theorem onAgenda (fit : Fit workers capacity aside floor) {change : Agenda → Agenda}
    (opened : (change floor.agenda).Opened)
    (ready : ∀ caller, .caller caller ∈ floor.agenda.ready →
      .caller caller ∈ (change floor.agenda).ready) :
    Fit workers capacity aside (floor.onAgenda change) where
  workers_eq := fit.workers_eq
  capacity_eq := fit.capacity_eq
  opened := opened
  manned := by
    intro open_
    have manned := fit.manned open_
    exact ⟨manned.dispatching, manned.places, manned.full, manned.distinct, manned.wants,
      fun caller granted others => ready caller (manned.woken caller granted others),
      manned.registered⟩

theorem wakes (fit : Fit workers capacity aside floor) {change : Agenda → Agenda}
    (wakes : Agenda.Wakes floor.agenda (change floor.agenda)) :
    Fit workers capacity aside (floor.onAgenda change) := by
  apply fit.onAgenda
  · rw [Agenda.Opened, wakes.cancelled, wakes.parents]
    exact fit.opened
  · exact fun _ => wakes.ready _

/-- Tasks share something else, and the books are changed. -/
theorem books (fit : Fit workers capacity aside floor) (shared : ε)
    (nextTicket submitted completed rejected : Nat) (deliveries : List (Delivery ρ))
    (reasons : Tally) :
    Fit workers capacity aside
      { floor with
        shared := shared
        nextTicket := nextTicket
        submitted := submitted
        completed := completed
        rejected := rejected
        deliveries := deliveries
        reasons := reasons } where
  workers_eq := fit.workers_eq
  capacity_eq := fit.capacity_eq
  opened := fit.opened
  manned := by
    intro open_
    have manned := fit.manned open_
    exact ⟨manned.dispatching, manned.places, manned.full, manned.distinct, manned.wants,
      manned.woken, manned.registered⟩

theorem deliver (fit : Fit workers capacity aside floor) (job : Job τ) (outcome : Outcome ρ) :
    Fit workers capacity aside (floor.deliver job outcome) := by
  have noted : Fit workers capacity aside
      { floor with deliveries := ⟨job.ticket, outcome, floor.now⟩ :: floor.deliveries } :=
    fit.books floor.shared _ _ _ _ _ _
  exact noted.wakes (Agenda.wakes_wakeAll _ _)

theorem reject (fit : Fit workers capacity aside floor) (job : Job τ) (failure : Failure) :
    Fit workers capacity aside (floor.reject job failure) := by
  have counted : Fit workers capacity aside
      { floor with
        rejected := floor.rejected + 1
        reasons := floor.reasons.bump failure.kind.name } :=
    fit.books floor.shared _ _ _ _ _ _
  exact counted.deliver job _

/-- After a shutdown nothing is asked of places and workers. -/
theorem of_shut (fit : Fit workers capacity aside floor) (after : Floor ε τ ρ)
    (workers_eq : after.workers = floor.workers) (capacity_eq : after.capacity = floor.capacity)
    (wakes : Agenda.Wakes floor.agenda after.agenda) (shut : after.shut = true)
    (other : Option Nat) : Fit workers capacity other after where
  workers_eq := workers_eq.trans fit.workers_eq
  capacity_eq := capacity_eq.trans fit.capacity_eq
  opened := by
    rw [Agenda.Opened, wakes.cancelled, wakes.parents]
    exact fit.opened
  manned := by
    intro open_
    rw [shut] at open_
    cases open_

/-! ## Callers -/

/-- Somebody is about to take a turn. -/
theorem unready (fit : Fit workers capacity none floor) (caller : Nat) :
    Fit workers capacity (some caller) (floor.unready (.caller caller)) where
  workers_eq := fit.workers_eq
  capacity_eq := fit.capacity_eq
  opened := fit.opened
  manned := by
    intro open_
    have manned := fit.manned open_
    refine ⟨manned.dispatching, manned.places, manned.full, manned.distinct, manned.wants, ?_,
      manned.registered⟩
    intro other granted distinct
    refine (List.mem_erase_of_ne ?_).mpr (manned.woken other granted nofun)
    rintro ⟨⟩
    exact distinct rfl

/-- Whoever was promised nothing needs not to be ready. -/
theorem rejoin {caller : Nat} (fit : Fit workers capacity (some caller) floor)
    (absent : floor.shut = false → caller ∉ floor.granted) : Fit workers capacity none floor where
  workers_eq := fit.workers_eq
  capacity_eq := fit.capacity_eq
  opened := fit.opened
  manned := by
    intro open_
    have manned := fit.manned open_
    refine ⟨manned.dispatching, manned.places, manned.full, manned.distinct, manned.wants, ?_,
      manned.registered⟩
    intro other granted _
    refine manned.woken other granted ?_
    rintro ⟨⟩
    exact absent open_ granted

/-- Whoever does not want room neither waits for it nor was promised it. -/
theorem absent (fit : Fit workers capacity aside floor) {caller : Nat}
    (served : ∀ state, floor.callers[caller]? = some state → state.wantsRoom = false) :
    floor.shut = false → caller ∉ floor.waiting ++ floor.granted := by
  intro open_ member
  obtain ⟨state, found, wants⟩ := (fit.manned open_).wants caller member
  rw [served state found] at wants
  cases wants

/-- A caller who waits for nothing goes on. -/
theorem setCaller (fit : Fit workers capacity aside floor) {caller : Nat}
    (absent : floor.shut = false → caller ∉ floor.waiting ++ floor.granted) (state : Caller τ ρ) :
    Fit workers capacity aside (floor.setCaller caller state) where
  workers_eq := fit.workers_eq
  capacity_eq := fit.capacity_eq
  opened := fit.opened
  manned := by
    intro open_
    have manned := fit.manned open_
    refine ⟨manned.dispatching, manned.places, manned.full, manned.distinct, ?_, manned.woken,
      manned.registered⟩
    intro other member
    have distinct : caller ≠ other := by
      rintro rfl
      exact absent open_ member
    obtain ⟨old, found, wants⟩ := manned.wants other member
    exact ⟨old, (List.getElem?_set_ne distinct).trans found, wants⟩

theorem enter (fit : Fit workers capacity aside floor) (state : Caller τ ρ) :
    Fit workers capacity aside (floor.enter state).1 where
  workers_eq := fit.workers_eq
  capacity_eq := fit.capacity_eq
  opened := fit.opened
  manned := by
    intro open_
    have manned := fit.manned open_
    refine ⟨manned.dispatching, manned.places, manned.full, manned.distinct, ?_, manned.woken,
      manned.registered⟩
    intro other member
    obtain ⟨old, found, wants⟩ := manned.wants other member
    have inRange := (List.getElem?_eq_some_iff.mp found).1
    exact ⟨old, (List.getElem?_append_left inRange).trans found, wants⟩

/-! ## Submissions -/

theorem takePlace (fit : Fit workers capacity aside floor) (room : 0 < floor.free) (job : Job τ) :
    Fit workers capacity aside (floor.takePlace job) := by
  have queued : Fit workers capacity aside
      { floor with
        free := floor.free - 1
        queue := floor.queue ++ [job]
        submitted := floor.submitted + 1 } := by
    refine ⟨fit.workers_eq, fit.capacity_eq, fit.opened, fun open_ => ?_⟩
    have manned := fit.manned open_
    refine ⟨manned.dispatching, ?_, ?_, manned.distinct, manned.wants, manned.woken,
      manned.registered⟩
    · have places := manned.places
      change floor.free - 1 + (floor.queue ++ [job]).length + floor.granted.length = floor.capacity
      rw [List.length_append, List.length_singleton]
      omega
    · intro waits
      have := manned.full waits
      omega
  unfold Floor.takePlace enqueue
  dsimp only
  split
  · exact queued
  · exact queued.wakes (Agenda.wakes_wake _ _)

/-- A caller who was promised nothing gives up waiting. -/
theorem withdraw {caller : Nat} (fit : Fit workers capacity (some caller) floor)
    (absent : caller ∉ floor.granted) : Fit workers capacity none (floor.withdraw caller) := by
  refine ⟨fit.workers_eq, fit.capacity_eq, fit.opened, fun open_ => ?_⟩
  have manned := (fit.rejoin fun _ => absent).manned open_
  have granted : (floor.withdraw caller).granted = floor.granted := by
    apply List.filter_eq_self.mpr
    intro other member
    rw [bne_iff_ne]
    rintro rfl
    exact absent member
  have waiting : (floor.withdraw caller).waiting = floor.waiting.filter (· != caller) := rfl
  refine ⟨manned.dispatching, ?_, ?_, ?_, ?_, ?_, manned.registered⟩
  · rw [granted]
    exact manned.places
  · rw [waiting]
    intro waits
    apply manned.full
    rintro none
    rw [none] at waits
    exact waits rfl
  · rw [granted, waiting]
    exact manned.distinct.sublist (List.filter_sublist.append_right _)
  · rw [granted, waiting]
    intro other member
    exact manned.wants other ((List.filter_sublist.append_right _).subset member)
  · rw [granted]
    exact manned.woken

/-- A caller takes the place that was promised to it. -/
theorem promised {caller : Nat} (fit : Fit workers capacity (some caller) floor)
    (granted : caller ∈ floor.granted) (job : Job τ) :
    Fit workers capacity none ((floor.withdraw caller).enqueue job) := by
  have queued : Fit workers capacity none
      { floor.withdraw caller with
        queue := floor.queue ++ [job]
        submitted := floor.submitted + 1 } := by
    refine ⟨fit.workers_eq, fit.capacity_eq, fit.opened, fun open_ => ?_⟩
    have manned := fit.manned open_
    have once : (floor.granted.filter (· != caller)).length + 1 = floor.granted.length := by
      rw [← (List.nodup_append.mp manned.distinct).2.1.erase_eq_filter, List.length_erase_of_mem granted]
      have := List.length_pos_of_mem granted
      omega
    have kept : (floor.waiting.filter (· != caller) ++ floor.granted.filter (· != caller)).Sublist
        (floor.waiting ++ floor.granted) := List.filter_sublist.append List.filter_sublist
    refine ⟨manned.dispatching, ?_, ?_, manned.distinct.sublist kept, ?_, ?_, manned.registered⟩
    · have places := manned.places
      change floor.free + (floor.queue ++ [job]).length +
        (floor.granted.filter (· != caller)).length = floor.capacity
      rw [List.length_append, List.length_singleton]
      omega
    · intro waits
      apply manned.full
      rintro none
      apply waits
      change floor.waiting.filter (· != caller) = []
      rw [none]
      rfl
    · exact fun other member => manned.wants other (kept.subset member)
    · intro other member _
      obtain ⟨old, distinct⟩ := List.mem_filter.mp member
      refine manned.woken other old ?_
      rintro ⟨⟩
      simp at distinct
  unfold enqueue
  dsimp only
  split
  · exact queued
  · exact queued.wakes (Agenda.wakes_wake _ _)

section Offers

variable {job : Job τ} {caller : Nat} {wait : Span} {due : Nat} {next : Floor ε τ ρ}
variable {answer : Outcome Unit}

theorem offer_settles (fit : Fit workers capacity aside floor)
    (offered : floor.offer caller job wait = (next, some answer)) :
    Fit workers capacity aside next ∧ next.waiting = floor.waiting ∧
      next.granted = floor.granted ∧ next.shut = floor.shut := by
  rcases floor.offer_cases job caller wait with
    ⟨_, offerEq⟩ | ⟨_, room, offerEq⟩ | ⟨_, _, _, offerEq⟩ | ⟨_, _, _, offerEq⟩
  · cases offerEq.symm.trans offered
    exact ⟨fit.reject job _, rfl, rfl, rfl⟩
  · cases offerEq.symm.trans offered
    refine ⟨fit.takePlace room job, waiting_enqueue _ job, granted_enqueue _ job, ?_⟩
    unfold Floor.takePlace enqueue
    dsimp only
    split <;> rfl
  · cases offerEq.symm.trans offered
    exact ⟨fit.reject job _, rfl, rfl, rfl⟩
  · cases offerEq.symm.trans offered

/-- A caller begins to wait for room. -/
theorem offer_waits (fit : Fit workers capacity aside floor)
    (absent : floor.shut = false → caller ∉ floor.waiting ++ floor.granted)
    (there : caller < floor.callers.length)
    (offered : floor.offer caller job wait = (next, none)) {state : Caller τ ρ}
    (wants : state.wantsRoom = true) : Fit workers capacity aside (next.setCaller caller state) := by
  rcases floor.offer_cases job caller wait with
    ⟨_, offerEq⟩ | ⟨_, _, offerEq⟩ | ⟨_, _, _, offerEq⟩ | ⟨open_, full, _, offerEq⟩
  · cases offerEq.symm.trans offered
  · cases offerEq.symm.trans offered
  · cases offerEq.symm.trans offered
  · cases offerEq.symm.trans offered
    have fresh := absent open_
    have manned := fit.manned open_
    refine ⟨fit.workers_eq, fit.capacity_eq, fit.opened, fun _ => ?_⟩
    have rearranged : (floor.waiting ++ [caller] ++ floor.granted).Perm
        (caller :: (floor.waiting ++ floor.granted)) := by
      rw [List.append_assoc]
      exact List.perm_middle
    refine ⟨manned.dispatching, manned.places, fun _ => full, ?_, ?_, manned.woken,
      manned.registered⟩
    · exact rearranged.nodup_iff.mpr (List.nodup_cons.mpr ⟨fresh, manned.distinct⟩)
    · intro other member
      rcases List.mem_cons.mp (rearranged.mem_iff.mp member) with rfl | old
      · exact ⟨state, List.getElem?_set_self there, wants⟩
      · have distinct : caller ≠ other := by
          rintro rfl
          exact fresh old
        obtain ⟨before, found, wanted⟩ := manned.wants other old
        exact ⟨before, (List.getElem?_set_ne distinct).trans found, wanted⟩

/-- A caller who waited is answered, and waits no longer. -/
theorem offerAgain_settles (fit : Fit workers capacity (some caller) floor)
    (offered : floor.offerAgain caller job wait due = (next, some answer)) :
    Fit workers capacity none next ∧
      (next.shut = false → caller ∉ next.waiting ++ next.granted) := by
  have gone : caller ∉ floor.waiting.filter (· != caller) ++ floor.granted.filter (· != caller) := by
    simp
  rcases floor.offerAgain_cases job caller wait due with
    ⟨stopped, offerEq⟩ | ⟨_, granted, offerEq⟩ | ⟨_, absent, _, offerEq⟩ | ⟨_, _, _, offerEq⟩
  · cases offerEq.symm.trans offered
    refine ⟨?_, fun _ => gone⟩
    have shut : floor.shut = true := by
      by_contra open_
      rw [(fit.manned (by simpa using open_)).dispatching] at stopped
      cases stopped
    have withdrawn := fit.of_shut
      { floor.withdraw caller with free := floor.free + (decide (caller ∈ floor.granted)).toNat }
      rfl rfl ⟨rfl, rfl, rfl, fun _ => id⟩ shut none
    exact withdrawn.reject job _
  · cases offerEq.symm.trans offered
    refine ⟨fit.promised granted job, fun _ => ?_⟩
    rw [waiting_enqueue, granted_enqueue]
    exact gone
  · cases offerEq.symm.trans offered
    exact ⟨(fit.withdraw absent).reject job _, fun _ => gone⟩
  · cases offerEq.symm.trans offered

theorem offerAgain_waits (fit : Fit workers capacity (some caller) floor)
    (offered : floor.offerAgain caller job wait due = (next, none)) :
    Fit workers capacity none next := by
  rcases floor.offerAgain_cases job caller wait due with
    ⟨_, offerEq⟩ | ⟨_, _, offerEq⟩ | ⟨_, _, _, offerEq⟩ | ⟨_, absent, _, offerEq⟩
  · cases offerEq.symm.trans offered
  · cases offerEq.symm.trans offered
  · cases offerEq.symm.trans offered
  · cases offerEq.symm.trans offered
    exact fit.rejoin fun _ => absent

end Offers

/-! ## Turns of callers -/

section Callers

variable {caller : Nat}

theorem join (fit : Fit workers capacity none floor)
    (absent : floor.shut = false → caller ∉ floor.waiting ++ floor.granted) (batch : Batch τ ρ) :
    Fit workers capacity none (floor.join caller batch) := by
  have released : Fit workers capacity none (floor.onAgenda (·.release (.caller caller))) :=
    fit.wakes (Agenda.wakes_release _ _)
  rcases floor.join_cases caller batch with ⟨_, joinEq⟩ | ⟨_, _, joinEq⟩ | ⟨_, _, joinEq⟩
  · rw [joinEq]
    exact released.setCaller absent _
  · rw [joinEq]
    exact released.setCaller absent _
  · rw [joinEq]
    exact (released.setCaller absent _).wakes (Agenda.wakes_watch _ _ _)

theorem handIn (tasks : List τ) (batch : Batch τ ρ) {floor : Floor ε τ ρ}
    (fit : Fit workers capacity none floor)
    (absent : floor.shut = false → caller ∉ floor.waiting ++ floor.granted)
    (there : caller < floor.callers.length) :
    Fit workers capacity none (floor.handIn caller batch tasks) := by
  induction tasks generalizing batch floor with
  | nil => exact fit.join absent batch
  | cons task rest ih =>
      have issued : Fit workers capacity none (floor.issue batch.scope task).1 :=
        fit.books floor.shared _ _ _ _ _ _
      rw [Floor.handIn]
      dsimp only
      rcases offered : (floor.issue batch.scope task).1.offer caller
        (floor.issue batch.scope task).2 batch.wait with ⟨next, _ | answer⟩
      · exact issued.offer_waits absent there offered rfl
      · obtain ⟨settled, waiting, granted, shut⟩ := issued.offer_settles offered
        apply ih _ settled
        · rw [waiting, granted, shut]
          exact absent
        · rw [(Floor.offer_settles _ _ offered).staff.callers]
          exact there

theorem executeBatch (fit : Fit workers capacity none floor) (wait : Span) (scope : Nat)
    (tasks : List τ) : Fit workers capacity none (floor.executeBatch wait scope tasks).1 := by
  refine handIn tasks _ (fit.enter _) ?_ (by simp)
  apply fit.absent
  intro state found
  exact absurd (List.getElem?_eq_some_iff.mp found).1 (Nat.lt_irrefl _)

theorem batchTurn {batch : Batch τ ρ} (fit : Fit workers capacity (some caller) floor)
    (found : floor.callers[caller]? = some (.batching batch)) :
    Fit workers capacity none (floor.batchTurn caller batch) := by
  have there := (List.getElem?_eq_some_iff.mp found).1
  unfold Floor.batchTurn
  cases stage : batch.stage with
  | joining =>
      have absent : floor.shut = false → caller ∉ floor.waiting ++ floor.granted := by
        apply fit.absent
        intro state same
        cases found.symm.trans same
        rw [Caller.wantsRoom, stage]
      exact (fit.rejoin fun open_ granted =>
        absent open_ (List.mem_append_right _ granted)).join absent batch
  | offering job due rest =>
      dsimp only
      rcases offered : floor.offerAgain caller job batch.wait due with ⟨next, _ | answer⟩
      · exact fit.offerAgain_waits offered
      · obtain ⟨settled, absent⟩ := fit.offerAgain_settles offered
        refine handIn rest _ (settled.setCaller absent _) absent ?_
        rw [Floor.setCaller, List.length_set, (Floor.offerAgain_settles _ _ offered).staff.callers]
        exact there

theorem offeringTurn {job : Job τ} {wait : Span} {due : Nat}
    (fit : Fit workers capacity (some caller) floor) :
    Fit workers capacity none (floor.offeringTurn caller job wait due) := by
  unfold Floor.offeringTurn
  rcases offered : floor.offerAgain caller job wait due with ⟨next, _ | answer⟩
  · exact fit.offerAgain_waits offered
  · obtain ⟨settled, absent⟩ := fit.offerAgain_settles offered
    exact settled.setCaller absent _

/-- A caller's turn. -/
theorem attend (fit : Fit workers capacity (some caller) floor) :
    Fit workers capacity none (floor.attend caller) := by
  have served : (∀ state, floor.callers[caller]? = some state → state.wantsRoom = false) →
      Fit workers capacity none floor ∧
        (floor.shut = false → caller ∉ floor.waiting ++ floor.granted) := by
    intro served
    have absent := fit.absent served
    exact ⟨fit.rejoin fun open_ granted => absent open_ (List.mem_append_right _ granted), absent⟩
  unfold Floor.attend
  cases found : floor.callers[caller]? with
  | none => exact (served fun _ same => absurd (found.symm.trans same) nofun).1
  | some state =>
      cases state with
      | offering job wait due => exact fit.offeringTurn
      | batching batch => exact fit.batchTurn found
      | closing limit due =>
          obtain ⟨recalled, absent⟩ := served fun _ same => by
            cases found.symm.trans same
            rfl
          have released := recalled.wakes (Agenda.wakes_release floor.agenda (.caller caller))
          dsimp only
          unfold closingTurn
          dsimp only
          split
          · exact released.setCaller absent _
          · split
            · exact released.setCaller absent _
            · exact recalled
      | offered | batched | closed =>
          exact (served fun _ same => by cases found.symm.trans same; rfl).1

theorem shutdown (fit : Fit workers capacity none floor) (limit : Span) :
    Fit workers capacity none (floor.shutdown limit).1 := by
  have shutting : Fit workers capacity none floor.shutting := by
    have shut : Fit workers capacity none { floor with shut := true } :=
      ⟨fit.workers_eq, fit.capacity_eq, fit.opened, nofun⟩
    have woken := shut.wakes (Agenda.wakes_wakeAll _ (floor.idle.map Actor.worker))
    exact woken.wakes (Agenda.wakes_wake _ .dispatcher)
  rcases floor.shutdown_cases limit with ⟨_, shutEq⟩ | ⟨_, _, shutEq⟩ | ⟨_, _, shutEq⟩
  · rw [shutEq]
    exact fit.enter _
  · rw [shutEq]
    exact shutting.enter _
  · rw [shutEq]
    exact (shutting.enter _).wakes (Agenda.wakes_setAlarms _ [_] _)

end Callers

/-! ## The dispatcher -/

theorem handOver (fit : Fit workers capacity none floor) :
    Fit workers capacity none floor.handOver := by
  unfold Floor.handOver
  split
  next job queue worker idle queueEq idleEq =>
    let taken : Floor ε τ ρ := { floor with queue := queue, idle := idle }
    have length : floor.queue.length = queue.length + 1 := by
      rw [queueEq, List.length_cons]
    have registered : (∀ index, floor.desks[index]? = some .idle → index ∈ floor.idle) →
        ∀ index, (floor.desks.set worker (.handed job))[index]? = some .idle → index ∈ idle := by
      intro registered index found
      have distinct : worker ≠ index := by
        rintro rfl
        rw [List.getElem?_set_self' ] at found
        cases old : floor.desks[worker]? with
        | none => simp [old] at found
        | some desk => simp [old] at found
      rw [List.getElem?_set_ne distinct] at found
      have member := registered index found
      rw [idleEq] at member
      exact (List.mem_cons.mp member).resolve_left (Ne.symm distinct)
    have vacated : Fit workers capacity none (taken.vacate.setDesk worker (.handed job)) := by
      cases waitingEq : floor.waiting with
      | nil =>
          have vacateEq : taken.vacate = { taken with free := floor.free + 1 } := by
            rw [vacate, show taken.waiting = [] from waitingEq]
          rw [vacateEq]
          refine ⟨List.length_set.trans fit.workers_eq, fit.capacity_eq, fit.opened, fun open_ => ?_⟩
          have manned := fit.manned open_
          refine ⟨manned.dispatching, ?_, fun waits => absurd waitingEq waits, manned.distinct,
            manned.wants, manned.woken, registered manned.registered⟩
          have places := manned.places
          change floor.free + 1 + queue.length + floor.granted.length = floor.capacity
          omega
      | cons caller rest =>
          let promising : Floor ε τ ρ :=
            { taken with waiting := rest, granted := floor.granted ++ [caller] }
          have vacateEq : taken.vacate = promising.wake (.caller caller) := by
            rw [vacate, show taken.waiting = caller :: rest from waitingEq]
          rw [vacateEq]
          have wakes := Agenda.wakes_wake floor.agenda (.caller caller)
          have rearranged : (rest ++ (floor.granted ++ [caller])).Perm
              (floor.waiting ++ floor.granted) := by
            rw [waitingEq, ← List.append_assoc]
            exact List.perm_append_singleton _ _
          refine ⟨List.length_set.trans fit.workers_eq, fit.capacity_eq, ?_, fun open_ => ?_⟩
          · change Agenda.Opened (floor.agenda.wake _)
            rw [Agenda.Opened, wakes.cancelled, wakes.parents]
            exact fit.opened
          · have manned := fit.manned open_
            refine ⟨manned.dispatching, ?_, ?_, rearranged.nodup_iff.mpr manned.distinct, ?_, ?_,
              registered manned.registered⟩
            · have places := manned.places
              change floor.free + queue.length + (floor.granted ++ [caller]).length = floor.capacity
              rw [List.length_append, List.length_singleton]
              omega
            · intro _
              apply manned.full
              rw [waitingEq]
              exact List.cons_ne_nil _ _
            · exact fun other member => manned.wants other (rearranged.mem_iff.mp member)
            · intro other member _
              rcases List.mem_append.mp member with old | new
              · exact wakes.ready _ (manned.woken other old nofun)
              · rw [List.mem_singleton.mp new]
                exact (Agenda.mem_ready_wake _ _).mpr (.inl rfl)
    exact vacated.wakes (Agenda.wakes_wake _ _)
  next => exact fit

/-- The dispatcher's turn. -/
theorem dispatch (fit : Fit workers capacity none floor) :
    Fit workers capacity none floor.dispatch := by
  refine dispatch_preserves fit ?_ ?_
  · exact fun between _ _ kept => kept.handOver
  · intro shut _
    have woken := fit.wakes (Agenda.wakes_wakeAll _ (floor.waiting.map Actor.caller))
    have emptied := woken.of_shut floor.emptied rfl rfl ⟨rfl, rfl, rfl, fun _ => id⟩ shut none
    have failed : Fit workers capacity none floor.closeQueue :=
      failAll_preserves (fun _ job kept => kept.deliver job _) floor.queue emptied
    exact failed.wakes (Agenda.wakes_wakeAll _ _)

/-! ## Workers -/

section Workers

variable {index : Nat}

/-- A worker who does not sit idle needs not to be registered. -/
theorem setDesk (fit : Fit workers capacity none floor) {desk : Desk τ} (occupied : desk ≠ .idle) :
    Fit workers capacity none (floor.setDesk index desk) where
  workers_eq := List.length_set.trans fit.workers_eq
  capacity_eq := fit.capacity_eq
  opened := fit.opened
  manned := by
    intro open_
    have manned := fit.manned open_
    refine ⟨manned.dispatching, manned.places, manned.full, manned.distinct, manned.wants,
      manned.woken, ?_⟩
    intro other found
    have distinct : index ≠ other := by
      rintro rfl
      have there : index < floor.desks.length := by
        have bound := (List.getElem?_eq_some_iff.mp found).1
        rwa [Floor.setDesk, List.length_set] at bound
      exact occupied (Option.some.inj ((List.getElem?_set_self there).symm.trans found))
    exact manned.registered other ((List.getElem?_set_ne distinct).symm.trans found)

theorem stop (fit : Fit workers capacity none floor) :
    Fit workers capacity none (floor.stop index) := by
  have gone : Fit workers capacity none (floor.setDesk index .gone) := fit.setDesk nofun
  exact gone.wakes (Agenda.wakes_wakeAll _ _)

theorem register (fit : Fit workers capacity none floor) :
    Fit workers capacity none (floor.register index) := by
  have registered : Fit workers capacity none
      { floor.setDesk index .idle with idle := floor.idle ++ [index] } := by
    refine ⟨List.length_set.trans fit.workers_eq, fit.capacity_eq, fit.opened, fun open_ => ?_⟩
    have manned := fit.manned open_
    refine ⟨manned.dispatching, manned.places, manned.full, manned.distinct, manned.wants,
      manned.woken, ?_⟩
    intro other found
    by_cases same : index = other
    · rw [same]
      exact List.mem_append_right _ (List.mem_singleton_self _)
    · have old := (List.getElem?_set_ne same).symm.trans found
      exact List.mem_append_left _ (manned.registered other old)
  unfold Floor.register
  dsimp only
  split
  · exact registered.wakes (Agenda.wakes_wake _ _)
  · exact registered

theorem complete (fit : Fit workers capacity none floor) (job : Job τ) (outcome : Outcome ρ) :
    Fit workers capacity none (floor.complete index job outcome) := by
  have delivered := (fit.wakes (Agenda.wakes_release _ (.worker index))).deliver job outcome
  have counted := delivered.books floor.shared floor.nextTicket floor.submitted
    (floor.completed + 1) floor.rejected (⟨job.ticket, outcome, floor.now⟩ :: floor.deliveries)
    floor.reasons
  unfold Floor.complete
  dsimp only
  split
  · exact counted.stop
  · exact counted.register

variable [Trade ε τ ρ]

theorem run (fit : Fit workers capacity none floor) (job : Job τ) :
    Fit workers capacity none (floor.run index job) := by
  unfold Floor.run
  dsimp only
  rcases Trade.resume (ρ := ρ) (Actor.worker index) floor.now job.task floor.shared
    with ⟨shared, outcome | ⟨task, alarms⟩⟩
  · have changed : Fit workers capacity none { floor with shared := shared } :=
      fit.books shared _ _ _ _ _ _
    exact changed.complete job outcome
  · have changed : Fit workers capacity none { floor with shared := shared } :=
      fit.books shared _ _ _ _ _ _
    have seated : Fit workers capacity none
        (Floor.setDesk index (.busy { job with task := task }) { floor with shared := shared }) :=
      changed.setDesk nofun
    exact seated.wakes (Agenda.wakes_setAlarms _ _ _)

theorem giveUp (fit : Fit workers capacity none floor) (job : Job τ) :
    Fit workers capacity none (floor.giveUp index job) := by
  unfold Floor.giveUp
  dsimp only
  rcases Trade.abandon ρ (Actor.worker index) floor.now job.task floor.shared with ⟨shared, woken⟩
  have changed : Fit workers capacity none { floor with shared := shared } :=
    fit.books shared _ _ _ _ _ _
  exact (changed.wakes (Agenda.wakes_wakeAll _ woken)).complete job _

/-- A worker's turn. -/
theorem work (fit : Fit workers capacity none floor) :
    Fit workers capacity none (floor.work index) := by
  unfold Floor.work
  split
  · split
    · exact (fit.deliver _ _).stop
    · split
      · exact fit.complete _ _
      · exact (fit.wakes (Agenda.wakes_watch _ _ _)).run _
  · split
    · exact fit.giveUp _
    · exact fit.run _
  · split
    · exact fit.stop
    · exact fit
  · exact fit
  · exact fit

end Workers

/-! ## Pools at rest -/

/-- When nothing goes on in an open pool, and no caller is about to act, all its places are
free and all its workers are registered. -/
theorem at_rest (fit : Fit workers capacity none floor) (open_ : floor.shut = false)
    (room : 0 < capacity) (quiet : ∀ caller, .caller caller ∉ floor.agenda.ready)
    (queue : floor.queue = [])
    (desks : ∀ desk ∈ floor.desks, desk = .idle) :
    floor.granted = [] ∧ floor.waiting = [] ∧ floor.free = capacity ∧
      workers ≤ floor.idle.length := by
  have manned := fit.manned open_
  have granted : floor.granted = [] := by
    apply List.eq_nil_iff_forall_not_mem.mpr
    intro caller member
    exact quiet caller (manned.woken caller member nofun)
  have places := manned.places
  rw [queue, granted, List.length_nil, fit.capacity_eq] at places
  have free : floor.free = capacity := by omega
  refine ⟨granted, ?_, free, ?_⟩
  · by_contra waits
    have full := manned.full waits
    omega
  · have all : List.range workers ⊆ floor.idle := by
      intro index member
      have inRange : index < floor.desks.length := by
        rw [← fit.workers_eq] at member
        exact List.mem_range.mp member
      apply manned.registered
      rw [List.getElem?_eq_getElem inRange, desks _ (List.getElem_mem inRange)]
    have bound := (List.nodup_range.subperm all).length_le
    rwa [List.length_range] at bound

end Fit

end RiskGate.Pool.Floor
