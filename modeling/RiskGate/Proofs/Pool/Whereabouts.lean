import RiskGate.Proofs.Pool.Run
import Mathlib.Algebra.BigOperators.Group.List.Basic
import Mathlib.Algebra.Order.Group.Multiset
import Mathlib.Tactic.Abel

/-!
# Where the jobs of a pool are

Every job that was made is at some place: it waits for room, is queued, was
handed to a worker, is being run, or its outcome was delivered.  The places of
all jobs form a multiset, and each small move of the pool is an equation between
the multisets before and after it.  The moves never look at this multiset; it is
only a view of the floor.
-/

namespace RiskGate.Pool

open Schedule (Actor Agenda)

/-- Where a job is. -/
inductive Place (τ ρ : Type) where
  /-- It waits for room in the queue. -/
  | offered (job : Job τ)
  | queued (job : Job τ)
  /-- It was handed to a worker, who has not begun it. -/
  | handed (job : Job τ)
  /-- A worker has begun it on behalf of a scope. -/
  | running (scope : Nat)
  | delivered (outcome : Outcome ρ)

variable {ε τ ρ : Type}

/-- The jobs on a desk, by ticket. -/
def Desk.places : Desk τ → Multiset (Nat × Place τ ρ)
  | .handed job => {(job.ticket, .handed job)}
  | .busy job => {(job.ticket, .running job.scope)}
  | .idle | .gone => 0

theorem Desk.places_idle : (Desk.idle : Desk τ).places (ρ := ρ) = 0 := rfl

/-- The job of a batch that waits for room. -/
def Stage.places : Stage τ → Multiset (Nat × Place τ ρ)
  | .offering job _ _ => {(job.ticket, .offered job)}
  | .joining => 0

/-- The job for which a caller waits for room. -/
def Caller.places : Caller τ ρ → Multiset (Nat × Place τ ρ)
  | .offering job _ _ => {(job.ticket, .offered job)}
  | .batching batch => batch.stage.places
  | .offered .. | .batched .. | .closing .. | .closed .. => 0

/-- Replacing one summand of a sum over a list. -/
theorem sum_map_set {α M : Type} [AddCommMonoid M] (f : α → M) {items : List α} {index : Nat}
    {old : α} (found : items[index]? = some old) (new : α) :
    ((items.set index new).map f).sum + f old = (items.map f).sum + f new := by
  induction items generalizing index with
  | nil => simp at found
  | cons first rest ih =>
      cases index with
      | zero =>
          have firstEq : first = old := by simpa using found
          subst first
          simp only [List.set_cons_zero, List.map_cons, List.sum_cons]
          abel
      | succ index =>
          have later : rest[index]? = some old := by simpa using found
          have step := ih later
          simp only [List.set_cons_succ, List.map_cons, List.sum_cons, add_assoc, step]

namespace Floor

/-- The places of queued jobs. -/
def queuePlaces (queue : List (Job τ)) : Multiset (Nat × Place τ ρ) :=
  Multiset.ofList (queue.map fun job => (job.ticket, .queued job))

/-- The places of jobs whose outcomes were delivered. -/
def deliveryPlaces (deliveries : List (Delivery ρ)) : Multiset (Nat × Place τ ρ) :=
  Multiset.ofList (deliveries.map fun delivery => (delivery.ticket, .delivered delivery.outcome))

/-- The places of all jobs, by ticket. -/
def whereabouts (floor : Floor ε τ ρ) : Multiset (Nat × Place τ ρ) :=
  (floor.callers.map Caller.places).sum + queuePlaces floor.queue +
    (floor.desks.map Desk.places).sum + deliveryPlaces floor.deliveries

/-- The deliveries under a ticket, counted as places. -/
theorem countP_deliveryPlaces (ticket : Nat) (deliveries : List (Delivery ρ)) :
    (deliveryPlaces (τ := τ) deliveries).countP (·.1 = ticket) =
      (deliveries.filter (·.ticket == ticket)).length := by
  rw [deliveryPlaces, Multiset.coe_countP, List.countP_map, List.countP_eq_length_filter]
  rfl

/-! ## Moves that leave every job where it is -/

section Frames

variable (floor : Floor ε τ ρ)

@[simp] theorem whereabouts_onAgenda (change : Agenda → Agenda) :
    (floor.onAgenda change).whereabouts = floor.whereabouts := rfl

@[simp] theorem whereabouts_vacate : floor.vacate.whereabouts = floor.whereabouts := by
  unfold vacate
  split <;> rfl

end Frames

/-! ## Moves of one job -/

section Moves

variable (floor : Floor ε τ ρ)

theorem whereabouts_deliver (job : Job τ) (outcome : Outcome ρ) :
    (floor.deliver job outcome).whereabouts =
      floor.whereabouts + {(job.ticket, .delivered outcome)} := by
  have placesEq : deliveryPlaces (τ := τ) (floor.deliver job outcome).deliveries =
      {(job.ticket, .delivered outcome)} + deliveryPlaces floor.deliveries := by
    rw [Multiset.singleton_add]
    rfl
  rw [whereabouts, placesEq, whereabouts, add_comm {_}, ← add_assoc]
  rfl

theorem whereabouts_reject (job : Job τ) (failure : Failure) :
    (floor.reject job failure).whereabouts =
      floor.whereabouts + {(job.ticket, .delivered (.error failure))} :=
  whereabouts_deliver _ job _

theorem whereabouts_enqueue (job : Job τ) :
    (floor.enqueue job).whereabouts = floor.whereabouts + {(job.ticket, .queued job)} := by
  have queueEq : (floor.enqueue job).whereabouts =
      { floor with queue := floor.queue ++ [job] }.whereabouts := by
    unfold enqueue
    split <;> rfl
  rw [queueEq, whereabouts, whereabouts, queuePlaces, queuePlaces, List.map_append,
    ← Multiset.coe_add, List.map_singleton, Multiset.coe_singleton]
  abel

theorem whereabouts_takePlace (job : Job τ) :
    (floor.takePlace job).whereabouts = floor.whereabouts + {(job.ticket, .queued job)} :=
  whereabouts_enqueue _ job

/-- Taking the first job out of the queue. -/
theorem whereabouts_dequeue {job : Job τ} {rest : List (Job τ)}
    (queue : floor.queue = job :: rest) :
    { floor with queue := rest }.whereabouts + {(job.ticket, .queued job)} =
      floor.whereabouts := by
  have placesEq : queuePlaces (ρ := ρ) floor.queue =
      {(job.ticket, .queued job)} + queuePlaces rest := by
    rw [queue, Multiset.singleton_add]
    rfl
  rw [whereabouts, whereabouts, placesEq]
  abel

theorem whereabouts_enter (caller : Caller τ ρ) :
    (floor.enter caller).1.whereabouts = floor.whereabouts + caller.places := by
  change ((floor.callers ++ [caller]).map Caller.places).sum + _ + _ + _ = _
  rw [whereabouts, List.map_append, List.sum_append, List.map_singleton, List.sum_singleton]
  abel

theorem whereabouts_setCaller {number : Nat} {old : Caller τ ρ}
    (found : floor.callers[number]? = some old) (new : Caller τ ρ) :
    (floor.setCaller number new).whereabouts + old.places = floor.whereabouts + new.places := by
  have sumEq := sum_map_set (Caller.places (τ := τ) (ρ := ρ)) found new
  calc (floor.setCaller number new).whereabouts + old.places
      = ((floor.callers.set number new).map Caller.places).sum + old.places +
          (queuePlaces floor.queue + (floor.desks.map Desk.places).sum +
            deliveryPlaces floor.deliveries) := by
        change ((floor.callers.set number new).map Caller.places).sum +
          queuePlaces floor.queue + (floor.desks.map Desk.places).sum +
          deliveryPlaces floor.deliveries + old.places = _
        abel
    _ = floor.whereabouts + new.places := by
        rw [sumEq, whereabouts]
        abel

theorem whereabouts_setDesk {index : Nat} {old : Desk τ}
    (found : floor.desks[index]? = some old) (new : Desk τ) :
    (floor.setDesk index new).whereabouts + old.places = floor.whereabouts + new.places := by
  have sumEq := sum_map_set (Desk.places (τ := τ) (ρ := ρ)) found new
  calc (floor.setDesk index new).whereabouts + old.places
      = ((floor.desks.set index new).map Desk.places).sum + old.places +
          ((floor.callers.map Caller.places).sum + queuePlaces floor.queue +
            deliveryPlaces floor.deliveries) := by
        change (floor.callers.map Caller.places).sum + queuePlaces floor.queue +
          ((floor.desks.set index new).map Desk.places).sum +
          deliveryPlaces floor.deliveries + old.places = _
        abel
    _ = floor.whereabouts + new.places := by
        rw [sumEq, whereabouts]
        abel

/-- A worker that stops has nothing on its desk. -/
theorem whereabouts_stop {index : Nat} {old : Desk τ} (found : floor.desks[index]? = some old) :
    (floor.stop index).whereabouts + old.places = floor.whereabouts := by
  have moved := floor.whereabouts_setDesk found .gone
  rwa [Desk.places, add_zero] at moved

/-- A worker that registers has nothing on its desk. -/
theorem whereabouts_register {index : Nat} {old : Desk τ}
    (found : floor.desks[index]? = some old) :
    (floor.register index).whereabouts + old.places = floor.whereabouts := by
  have moved := floor.whereabouts_setDesk found .idle
  have placesEq : (floor.register index).whereabouts = (floor.setDesk index .idle).whereabouts := by
    unfold register
    split <;> rfl
  rwa [placesEq, ← add_zero floor.whereabouts]

/-- Completing a job takes it off the desk and delivers its outcome. -/
theorem whereabouts_complete {index : Nat} {old : Desk τ}
    (found : floor.desks[index]? = some old) (job : Job τ) (outcome : Outcome ρ) :
    (floor.complete index job outcome).whereabouts + old.places =
      floor.whereabouts + {(job.ticket, .delivered outcome)} := by
  have delivered :=
    whereabouts_deliver (floor.onAgenda (·.release (.worker index))) job outcome
  rw [whereabouts_onAgenda] at delivered
  rw [← delivered]
  unfold complete
  dsimp only
  split
  · exact whereabouts_stop _ found
  · exact whereabouts_register _ found

/-- What a caller waits for is among the places. -/
theorem mem_whereabouts_of_caller {number : Nat} {caller : Caller τ ρ}
    (found : floor.callers[number]? = some caller) {entry : Nat × Place τ ρ}
    (member : entry ∈ caller.places) : entry ∈ floor.whereabouts := by
  have moved := floor.whereabouts_setCaller found (.offered (.ok ()) 0)
  rw [show (Caller.offered (.ok ()) 0 : Caller τ ρ).places = 0 from rfl, add_zero] at moved
  rw [← moved]
  exact Multiset.mem_add.mpr (Or.inr member)

/-- What lies on a desk is among the places. -/
theorem mem_whereabouts_of_desk {index : Nat} {desk : Desk τ}
    (found : floor.desks[index]? = some desk) {entry : Nat × Place τ ρ}
    (member : entry ∈ desk.places) : entry ∈ floor.whereabouts := by
  rw [← floor.whereabouts_stop found]
  exact Multiset.mem_add.mpr (Or.inr member)

end Moves

end Floor

end RiskGate.Pool
