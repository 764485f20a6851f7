import RiskGate.Proofs.Pool.Ebb
import RiskGate.Proofs.Pool.Heeding

/-!
# How long a shutdown waits

A shutdown waits for the workers to stop.  A worker who is idle, or whose job is not begun,
is ready as long as it has not stopped, so only workers who are busy keep the caller waiting.
The caller is woken when the last of them stops, and by its alarm when its patience is over.
It therefore returns at the instant at which the last job ends, or else when its patience is
over, and then one of the jobs had not ended before.
-/

namespace RiskGate.Pool.Floor

open Schedule (Actor Agenda)

variable {ε τ ρ : Type}

/-! ## Workers without a job -/

/-- Every idle worker is ready, so that it will stop. -/
def Roused (floor : Floor ε τ ρ) : Prop :=
  ∀ index : Nat, floor.desks[index]? = some .idle → .worker index ∈ floor.agenda.ready

section Rousing

variable {floor : Floor ε τ ρ}

/-- A worker who stays idle stays ready, since its own turn is its last. -/
theorem Roused.after [Trade ε τ ρ] (roused : floor.Roused) (shut : floor.shut = true)
    (alert : Alert none floor) {event : Event ε τ} (allowed : floor.Allowed event) :
    (floor.after event).Roused := by
  intro index idle
  have idle_before := (ebbs_after shut alert allowed).idle index idle
  have ready := roused index idle_before
  by_cases own : event = .turn (.worker index)
  · subst own
    have inRange := (List.getElem?_eq_some_iff.mp idle_before).1
    have resting_shut : (floor.unready (.worker index)).shut = true := shut
    change ((floor.unready (.worker index)).work index).desks[index]? = some .idle at idle
    rcases work_of_shut resting_shut index with
      ⟨ended, visits, workEq⟩ | ⟨job, _, _, _, _, busy⟩ | ⟨_, notIdle⟩
    · have still : index < ended.desks.length := by
        rw [visits.desks]
        exact inRange
      rw [workEq, stop, wakeClosers, onAgenda, setDesk] at idle
      dsimp only at idle
      rw [List.getElem?_set_self still] at idle
      cases idle
    · cases idle.symm.trans busy
    · exact absurd idle_before notIdle
  · have still : ∀ instant, event ≠ .pass instant := by
      rintro instant rfl
      rw [allowed.1] at ready
      cases ready
    exact (spares_worker_after allowed.proper own still).ready ready

end Rousing

/-! ## The end of the staff -/

section Stopping

variable {floor : Floor ε τ ρ} {number due : Nat} {limit : Span}

theorem Visits.isStopped {before after : Floor ε τ ρ} (visits : Visits before after) :
    after.isStopped = before.isStopped := by
  rw [Floor.isStopped, visits.dispatching, visits.desks, ← Floor.isStopped]

/-- Who waits for the pool to stop is woken. -/
theorem ready_wakeClosers (closing : floor.callers[number]? = some (.closing limit due)) :
    .caller number ∈ floor.wakeClosers.agenda.ready := by
  refine (Agenda.mem_ready_wakeAll _ _).mpr (.inl ?_)
  exact List.mem_map_of_mem (floor.mem_callersWith number closing rfl)

/-- When the last of the staff stops, it wakes whoever waits for that. -/
theorem stopped_after [Trade ε τ ρ] {event : Event ε τ} (shut : floor.shut = true)
    (proper : floor.Proper event) (closing : floor.callers[number]? = some (.closing limit due))
    (stopped : (floor.after event).isStopped = true) :
    floor.isStopped = true ∨ .caller number ∈ (floor.after event).agenda.ready := by
  cases staff : event.isOfStaff with
  | false =>
      rw [(visits_after shut proper staff).isStopped] at stopped
      exact .inl stopped
  | true =>
      cases event with
      | pass instant => exact .inl stopped
      | turn actor =>
          cases actor with
          | dispatcher =>
              change ((floor.unready .dispatcher).dispatch).isStopped = true at stopped
              change _ ∨ _ ∈ ((floor.unready .dispatcher).dispatch).agenda.ready
              unfold dispatch at stopped ⊢
              split at stopped
              · exact .inl stopped
              next dispatches =>
                have resting_shut : (floor.unready .dispatcher).shut = true := shut
                have spares := spares_closeQueue number (floor.unready .dispatcher)
                rw [if_neg dispatches, if_pos resting_shut]
                exact .inr (ready_wakeClosers (spares.caller.trans closing))
          | worker index =>
              have resting_shut : (floor.unready (.worker index)).shut = true := shut
              have spares := spares_work number index (floor.unready (.worker index))
              change ((floor.unready (.worker index)).work index).isStopped = true at stopped
              change _ ∨ _ ∈ ((floor.unready (.worker index)).work index).agenda.ready
              rcases work_of_shut resting_shut index with
                ⟨ended, _, workEq⟩ | ⟨job, _, _, _, _, busy⟩ | ⟨workEq, _⟩
              · have found := spares.caller.trans closing
                rw [workEq] at found ⊢
                exact .inr (ready_wakeClosers found)
              · have gone := List.all_eq_true.mp (Bool.and_eq_true_iff.mp stopped).2 _
                  (List.mem_of_getElem? busy)
                cases gone
              · rw [workEq] at stopped
                exact .inl stopped
          | caller | guest | timer => cases staff
      | submit | submitWithin | executeBatch | shutdown | openScope | openChild | cancel | plan
      | disturb | rearrange => cases staff

end Stopping

/-! ## Jobs that are left -/

/-- A pool that is shut down has some of the jobs left, and the others have ended. -/
structure Drains (jobs : List Nat) (floor : Floor ε τ ρ) : Prop where
  shut : floor.shut = true
  alert : Alert none floor
  roused : floor.Roused
  left : ∀ ticket, floor.Occupies ticket →
    ticket ∈ jobs ∧ ∀ delivery ∈ floor.deliveries, delivery.ticket ≠ ticket
  ended : ∀ ticket ∈ jobs, floor.Occupies ticket ∨
    ∃ delivery ∈ floor.deliveries, delivery.ticket = ticket ∧ delivery.deliveredAt ≤ floor.now

/-- Each of some jobs has its outcome by an instant. -/
def DoneBy (jobs : List Nat) (instant : Nat) (floor : Floor ε τ ρ) : Prop :=
  ∀ ticket ∈ jobs, ∃ delivery ∈ floor.deliveries,
    delivery.ticket = ticket ∧ delivery.deliveredAt ≤ instant

/-- An instant has come before which one of some jobs had no outcome. -/
def Overdue (jobs : List Nat) (due : Nat) (floor : Floor ε τ ρ) : Prop :=
  due ≤ floor.now ∧ ∃ ticket ∈ jobs, ∀ delivery ∈ floor.deliveries,
    delivery.ticket = ticket → due ≤ delivery.deliveredAt

section Draining

variable {jobs : List Nat} {instant : Nat} {floor before after : Floor ε τ ρ}

theorem DoneBy.later (done : before.DoneBy jobs instant) (pays : Pays before after) :
    after.DoneBy jobs instant := by
  obtain ⟨new, deliveries, _⟩ := pays.deliveries
  intro ticket member
  obtain ⟨delivery, delivered, known⟩ := done ticket member
  refine ⟨delivery, ?_, known⟩
  rw [deliveries]
  exact List.mem_append_right _ delivered

theorem Overdue.later {due : Nat} (overdue : before.Overdue jobs due) (pays : Pays before after) :
    after.Overdue jobs due := by
  obtain ⟨reached, ticket, member, late⟩ := overdue
  obtain ⟨new, deliveries, since⟩ := pays.deliveries
  refine ⟨Nat.le_trans reached pays.forward, ticket, member, fun delivery delivered same => ?_⟩
  rw [deliveries] at delivered
  rcases List.mem_append.mp delivered with isNew | isOld
  · exact Nat.le_trans reached (since delivery isNew).2.1
  · exact late delivery isOld same

namespace Drains

/-- When nobody is ready and the staff has not stopped, a job is left. -/
theorem exists_left (drains : floor.Drains jobs) (quiet : floor.agenda.ready = [])
    (going : floor.isStopped = false) : ∃ ticket, floor.Occupies ticket := by
  have dispatched := drains.alert.dispatching_eq_false drains.shut quiet
  rw [isStopped, dispatched, Bool.not_false, Bool.true_and, List.all_eq_false] at going
  obtain ⟨desk, member, present⟩ := going
  cases desk with
  | gone => exact absurd rfl present
  | busy job => exact ⟨job.ticket, job, member, rfl⟩
  | handed job => exact absurd member (drains.alert.not_handed quiet job)
  | idle =>
      obtain ⟨index, found⟩ := List.mem_iff_getElem?.mp member
      exact absurd (drains.roused index found) (Agenda.notMem_of_quiet quiet _)

/-- When the staff has stopped, every job has ended. -/
theorem doneBy (drains : floor.Drains jobs) (stopped : floor.isStopped = true) :
    floor.DoneBy jobs floor.now := by
  intro ticket member
  rcases drains.ended ticket member with ⟨job, busy, _⟩ | ended
  · have gone := List.all_eq_true.mp (Bool.and_eq_true_iff.mp stopped).2 _ busy
    cases gone
  · exact ended

end Drains

end Draining

/-! ## The wait -/

/-- A shutdown has returned that waited for some jobs until an instant: they ended in time, or
one of them did not. -/
inductive Returned (number : Nat) (limit : Span) (due : Nat) (jobs : List Nat)
    (floor : Floor ε τ ρ) : Prop where
  | met (instant : Nat) (closed : floor.callers[number]? = some (.closed (.ok ()) instant))
      (done : floor.DoneBy jobs instant)
      (soon : instant < due)
  | missed (closed : floor.callers[number]? = some (.closed (.error (.deadlineExceeded limit)) due))
      (overdue : floor.Overdue jobs due)

/-- A shutdown waits for some jobs until an instant, or has returned. -/
inductive Awaits (number : Nat) (limit : Span) (due : Nat) (jobs : List Nat)
    (floor : Floor ε τ ρ) : Prop where
  | waits (closing : floor.callers[number]? = some (.closing limit due)) (early : floor.now ≤ due)
      (alarm : floor.now < due → ⟨due, .caller number⟩ ∈ floor.agenda.alarms)
      (woken : floor.isStopped = true ∨ floor.now = due → .caller number ∈ floor.agenda.ready)
      (overdue : floor.now = due → floor.Overdue jobs due)
  | returned (returned : Returned number limit due jobs floor)

section Waiting

variable {number due : Nat} {limit : Span} {jobs : List Nat} {floor next : Floor ε τ ρ}

theorem Returned.later (returned : Returned number limit due jobs floor)
    (caller : next.callers[number]? = floor.callers[number]?) (pays : Pays floor next) :
    Returned number limit due jobs next := by
  cases returned with
  | met instant closed done soon =>
      exact .met instant (caller.trans closed) (done.later pays) soon
  | missed closed overdue => exact .missed (caller.trans closed) (overdue.later pays)

theorem Returned.closed (returned : Returned number limit due jobs floor) :
    ∃ answer instant, floor.callers[number]? = some (.closed answer instant) := by
  cases returned with
  | met _ closed | missed closed => exact ⟨_, _, closed⟩

namespace Awaits

theorem inRange (awaits : Awaits number limit due jobs floor) : number < floor.callers.length := by
  cases awaits with
  | waits found => exact (List.getElem?_eq_some_iff.mp found).1
  | returned returned =>
      obtain ⟨_, _, found⟩ := returned.closed
      exact (List.getElem?_eq_some_iff.mp found).1

/-- The caller's own turn. -/
theorem ownTurn (awaits : Awaits number limit due jobs floor) (drains : floor.Drains jobs) :
    Awaits number limit due jobs ((floor.unready (.caller number)).attend number) := by
  have inRange := awaits.inRange
  let resting : Floor ε τ ρ := floor.unready (.caller number)
  change Awaits number limit due jobs (resting.attend number)
  cases awaits with
  | returned returned =>
      have rested : Returned number limit due jobs resting :=
        returned.later rfl (floor.visits_onAgenda rfl).pays
      obtain ⟨_, _, found⟩ := rested.closed
      rw [attend, found]
      exact .returned rested
  | waits closing early alarm woken overdue =>
      have found : resting.callers[number]? = some (.closing limit due) := closing
      rw [attend, found]
      dsimp only
      unfold closingTurn
      dsimp only
      split
      next reached =>
        have now_eq : floor.now = due := Nat.le_antisymm early reached
        refine .returned (.missed ?_ (overdue now_eq))
        rw [← now_eq]
        exact List.getElem?_set_self inRange
      next soon =>
        have soon : floor.now < due := Nat.lt_of_not_le soon
        split
        next stopped =>
          exact .returned (.met _ (List.getElem?_set_self inRange) (drains.doneBy stopped) soon)
        next going =>
          refine .waits closing early alarm ?_ overdue
          rintro (stopped | reached)
          · exact absurd stopped going
          · exact absurd reached (Nat.ne_of_lt soon)

variable [Trade ε τ ρ]

/-- Others act at the same instant. -/
theorem others {event : Event ε τ} (awaits : Awaits number limit due jobs floor)
    (drains : floor.Drains jobs) (allowed : floor.Allowed event)
    (spares : Spares number floor (floor.after event)) :
    Awaits number limit due jobs (floor.after event) := by
  have pays : Pays floor (floor.after event) := (ebbs_after drains.shut drains.alert allowed).pays
  cases awaits with
  | returned returned => exact .returned (returned.later spares.caller pays)
  | waits closing early alarm woken overdue =>
      have now_eq : (floor.after event).now = floor.now := spares.agenda.now_eq
      refine .waits (spares.caller.trans closing) (now_eq.trans_le early) ?_ ?_ ?_
      · intro soon
        rcases spares.agenda.alarms due (alarm (now_eq.symm.trans_lt soon)) with
          kept | ⟨past, _⟩
        · exact kept
        · exact absurd soon (Nat.not_lt_of_le past)
      · rintro (stopped | reached)
        · rcases stopped_after drains.shut allowed.proper closing stopped with before | ready
          · exact spares.agenda.ready (woken (.inl before))
          · exact ready
        · exact spares.agenda.ready (woken (.inr (now_eq.symm.trans reached)))
      · exact fun reached => (overdue (now_eq.symm.trans reached)).later pays

/-- Time passes, up to the alarm at most. -/
theorem pass (awaits : Awaits number limit due jobs floor) (drains : floor.Drains jobs)
    {instant : Nat} (allowed : floor.Allowed (.pass instant : Event ε τ)) :
    Awaits number limit due jobs (floor.after (.pass instant : Event ε τ)) := by
  let moved : Floor ε τ ρ := floor.after (.pass instant : Event ε τ)
  change Awaits number limit due jobs moved
  have spares : Spares number (floor.clockMoved instant) moved := spares_pass instant
  have now_eq : moved.now = max floor.now instant := spares.agenda.now_eq
  have pays : Pays floor moved := (ebbs_after drains.shut drains.alert allowed).pays
  obtain ⟨quiet, _, skipsNothing⟩ := allowed
  have unready := Agenda.notMem_of_quiet quiet (.caller number)
  cases awaits with
  | returned returned => exact .returned (returned.later spares.caller pays)
  | waits closing early alarm woken overdue =>
      have going : floor.isStopped = false := by
        by_contra stopped
        exact unready (woken (.inl (by simpa using stopped)))
      have soon : floor.now < due :=
        Nat.lt_of_le_of_ne early fun reached => unready (woken (.inr reached))
      obtain ⟨first, isNext, first_le⟩ := Agenda.exists_next_of_alarm (alarm soon)
      have bound : instant ≤ due :=
        Nat.le_trans (skipsNothing first isNext) (Nat.max_le.mpr ⟨early, first_le⟩)
      have rung : moved.now < due ∧ ⟨due, .caller number⟩ ∈ moved.agenda.alarms ∨
          due ≤ moved.now ∧ .caller number ∈ moved.agenda.ready :=
        Agenda.alarm_moveTo _ (alarm soon)
      obtain ⟨ticket, occupied⟩ := drains.exists_left quiet going
      refine .waits (spares.caller.trans closing) (by omega) ?_ ?_ ?_
      · intro soon
        rcases rung with ⟨_, kept⟩ | ⟨past, _⟩
        · exact kept
        · exact absurd soon (Nat.not_lt_of_le past)
      · rintro (stopped | reached)
        · cases going.symm.trans stopped
        · rcases rung with ⟨before, _⟩ | ⟨_, ready⟩
          · exact absurd reached (Nat.ne_of_lt before)
          · exact ready
      · -- The job that kept the caller waiting has not ended when the patience is over.
        intro reached
        obtain ⟨member, pending⟩ := drains.left ticket occupied
        exact ⟨Nat.le_of_eq reached.symm, ticket, member, fun delivery delivered same =>
          absurd same (pending delivery delivered)⟩

/-- Whatever happens, the shutdown goes on to wait or has returned. -/
theorem after {event : Event ε τ} (awaits : Awaits number limit due jobs floor)
    (drains : floor.Drains jobs) (allowed : floor.Allowed event) :
    Awaits number limit due jobs (floor.after event) := by
  by_cases own : event = .turn (.caller number)
  · subst own
    exact awaits.ownTurn drains
  by_cases passes : ∃ instant, event = .pass instant
  · obtain ⟨instant, rfl⟩ := passes
    exact awaits.pass drains allowed
  refine awaits.others drains allowed ?_
  exact spares_after allowed.proper own (fun instant same => passes ⟨instant, same⟩)
    fun _ => Nat.ne_of_lt awaits.inRange

end Awaits

/-! ## The answer -/

end Waiting

end RiskGate.Pool.Floor
