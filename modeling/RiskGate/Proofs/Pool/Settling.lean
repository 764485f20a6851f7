import RiskGate.Pool.Drill
import RiskGate.Proofs.Pool.Addressees

/-!
# The pool comes to rest

Turns take no time, so the clock would stand still for ever if actors went on waking each
other.  They do not: every turn uses up more of what is left to do than it adds.  There is a
count of the turns that are still to come that every turn lowers, and the effort of the
clockwork is not less than this count.  So nobody is ready any more when the clockwork has
settled.

The count differs from the effort in one point.  When the queue is closed, everybody who waits
for room is woken at once.  Therefore one turn of each of those callers is not counted with the
caller but with the dispatcher, as long as the dispatcher has not stopped.
-/

namespace RiskGate.Schedule

namespace Clockwork

section Together

variable {α : Type} (effort : α → Nat)

theorem together_eq_sum (members : List α) : together effort members = (members.map effort).sum := by
  induction members with
  | nil => rfl
  | cons member rest ih => rw [together, ih, List.map_cons, List.sum_cons]

theorem together_set {members : List α} {index : Nat} {old : α} (found : members[index]? = some old)
    (new : α) :
    together effort (members.set index new) + effort old = together effort members + effort new := by
  rw [together_eq_sum, together_eq_sum]
  exact Pool.sum_map_set effort found new

/-- A member that may not be there is replaced. -/
theorem together_set_le (members : List α) (index : Nat) (new : α) :
    together effort (members.set index new) ≤ together effort members + effort new := by
  cases found : members[index]? with
  | none =>
      rw [List.set_eq_of_length_le (List.getElem?_eq_none_iff.mp found)]
      exact Nat.le_add_right _ _
  | some old =>
      have := together_set effort found new
      omega

end Together

end Clockwork

namespace Agenda

/-- Every actor is woken once at most. -/
theorem length_ready_wakeAll_le (agenda : Agenda) (actors : List Actor) :
    (agenda.wakeAll actors).ready.length ≤ agenda.ready.length + actors.length := by
  induction actors generalizing agenda with
  | nil => exact Nat.le_refl _
  | cons first rest ih =>
      have later := ih (agenda.wake first)
      have woken := agenda.length_ready_wake first
      change ((agenda.wake first).wakeAll rest).ready.length ≤ _
      rw [List.length_cons]
      omega

/-- Waking one actor at most. -/
theorem length_ready_wakeAll_sole (agenda : Agenda) {actors : List Actor}
    (sole : ∀ actor ∈ actors, ∀ other ∈ actors, actor = other) :
    (agenda.wakeAll actors).ready.length ≤ agenda.ready.length + 1 := by
  cases actors with
  | nil => exact Nat.le_succ _
  | cons first rest =>
      exact agenda.length_ready_wakeAll fun other member =>
        sole other member first List.mem_cons_self

/-- Nobody is woken when alarms are set. -/
theorem ready_setAlarms (alarms : List Nat) (actor : Actor) (agenda : Agenda) :
    (alarms.foldl (fun agenda due => agenda.setAlarm due actor) agenda).ready = agenda.ready := by
  induction alarms generalizing agenda with
  | nil => rfl
  | cons due rest ih => exact ih (agenda.setAlarm due actor)

end Agenda

end RiskGate.Schedule

namespace RiskGate.Pool

open Schedule (Actor Agenda Clockwork)
open Schedule.Clockwork (together together_set together_set_le)

variable {ε τ ρ : Type}

/-- Tasks let the pool come to rest: whoever gives a task up wakes one actor at most, and a
task that goes on later sets its alarms for later. -/
structure Tame (ε τ ρ : Type) [Trade ε τ ρ] : Prop where
  single : ∀ (runner : Actor) (now : Nat) (task : τ) (shared : ε),
    (Trade.abandon ρ runner now task shared).2.length ≤ 1
  later : ∀ (runner : Actor) (now : Nat) (task next : τ) (shared : ε) (alarms : List Nat),
    (Trade.resume (ρ := ρ) runner now task shared).2 = .suspended next alarms →
      ∀ due ∈ alarms, now < due

/-! ## The count -/

/-- The turns that are still to come for a caller, but for the one that the dispatcher has to
answer for. -/
def Caller.turns : Caller τ ρ → Nat
  | .offering .. => 15
  | .batching batch =>
      match batch.stage with
      | .joining => 3
      | .offering _ _ rest => 16 * rest.length + 18
  | .closing .. => 3
  | .offered .. | .batched .. | .closed .. => 0

theorem Caller.effort_eq (caller : Caller τ ρ) :
    caller.effort = caller.turns + caller.wantsRoom.toNat := by
  cases caller with
  | batching batch =>
      rw [Caller.effort, Caller.turns, Caller.wantsRoom]
      cases batch.stage with
      | joining => rfl
      | offering job due rest =>
          dsimp only
          rw [Bool.toNat_true]
          omega
  | offering | offered | batched | closing | closed => rfl

namespace Floor

/-- The turns that are still to come, if nothing happens but turns. -/
def toCome (floor : Floor ε τ ρ) : Nat :=
  floor.agenda.ready.length + 12 * floor.queue.length + together Desk.effort floor.desks +
    together Caller.turns floor.callers +
    bif floor.dispatching then floor.waiting.length + 1 else 0

theorem length_callersWith (property : Caller τ ρ → Bool) (floor : Floor ε τ ρ) :
    (floor.callersWith property).length = floor.callers.countP property := by
  have listed : floor.callers.map some =
      (List.range floor.callers.length).map (floor.callers[·]?) :=
    List.ext_getElem (by simp) (by simp)
  have counted := congrArg (List.countP (Option.any property)) listed
  rw [List.countP_map, List.countP_map] at counted
  rw [callersWith, ← List.countP_eq_length_filter]
  exact counted.symm

theorem together_effort (callers : List (Caller τ ρ)) :
    together Caller.effort callers =
      together Caller.turns callers + callers.countP Caller.wantsRoom := by
  induction callers with
  | nil => rfl
  | cons caller rest ih =>
      rw [together, together, ih, caller.effort_eq, List.countP_cons]
      cases caller.wantsRoom with
      | true => simp; omega
      | false => simp; omega

/-- The effort is enough for the turns that are to come. -/
theorem Addressed.toCome_le_effort {floor : Floor ε τ ρ} (addressed : Addressed floor) :
    floor.toCome ≤ floor.effort := by
  have listed : floor.waiting ⊆ floor.callersWith Caller.wantsRoom :=
    fun number member => mem_callersWith_iff.mpr (addressed.wants number member)
  have waiting := (List.subperm_of_subset addressed.listed listed).length_le
  rw [length_callersWith] at waiting
  rw [toCome, effort, together_effort]
  cases floor.dispatching with
  | true =>
      rw [cond_true, if_pos rfl]
      omega
  | false =>
      rw [cond_false, if_neg Bool.false_ne_true]
      omega

section Wakes

variable (floor : Floor ε τ ρ)

theorem toCome_onAgenda (change : Agenda → Agenda) :
    (floor.onAgenda change).toCome + floor.agenda.ready.length =
      floor.toCome + (change floor.agenda).ready.length := by
  simp only [toCome, onAgenda]
  omega

theorem toCome_wake (actor : Actor) : (floor.wake actor).toCome ≤ floor.toCome + 1 := by
  have counted := floor.toCome_onAgenda (·.wake actor)
  have woken := floor.agenda.length_ready_wake actor
  change (floor.onAgenda (·.wake actor)).toCome ≤ _
  omega

theorem toCome_wakeAll (actors : List Actor) :
    (floor.onAgenda (·.wakeAll actors)).toCome ≤ floor.toCome + actors.length := by
  have counted := floor.toCome_onAgenda (·.wakeAll actors)
  have woken := floor.agenda.length_ready_wakeAll_le actors
  omega

theorem toCome_wakeAll_sole {actors : List Actor}
    (sole : ∀ actor ∈ actors, ∀ other ∈ actors, actor = other) :
    (floor.onAgenda (·.wakeAll actors)).toCome ≤ floor.toCome + 1 := by
  have counted := floor.toCome_onAgenda (·.wakeAll actors)
  have woken := floor.agenda.length_ready_wakeAll_sole sole
  omega

end Wakes

section Moves

variable {floor : Floor ε τ ρ}

/-- An outcome wakes one batch at most. -/
theorem Addressed.toCome_deliver (addressed : Addressed floor) (job : Job τ) (outcome : Outcome ρ) :
    (floor.deliver job outcome).toCome ≤ floor.toCome + 1 := by
  let noted : Floor ε τ ρ :=
    { floor with deliveries := ⟨job.ticket, outcome, floor.now⟩ :: floor.deliveries }
  refine noted.toCome_wakeAll_sole ?_
  have waits : ∀ number ∈ floor.callersWith (Caller.awaits job.ticket),
      HasTicket floor.callers number job.ticket := by
    intro number member
    obtain ⟨state, found, awaits⟩ := mem_callersWith_iff.mp member
    exact ⟨state, found, state.mem_tickets_of_awaits awaits⟩
  intro actor member other among
  obtain ⟨number, first, rfl⟩ := List.mem_map.mp member
  obtain ⟨another, second, rfl⟩ := List.mem_map.mp among
  exact congrArg Actor.caller (addressed.apart _ _ _ (waits _ first) (waits _ second))

theorem Addressed.toCome_reject (addressed : Addressed floor) (job : Job τ) (failure : Failure) :
    (floor.reject job failure).toCome ≤ floor.toCome + 1 := by
  have counted : Addressed
      { floor with
        rejected := floor.rejected + 1
        reasons := floor.reasons.bump failure.kind.name } := addressed.still rfl rfl rfl rfl
  exact counted.toCome_deliver job _

/-- One caller at most waits for the pool to stop. -/
theorem Addressed.toCome_wakeClosers (addressed : Addressed floor) :
    floor.wakeClosers.toCome ≤ floor.toCome + 1 := by
  refine floor.toCome_wakeAll_sole ?_
  intro actor member other among
  obtain ⟨number, first, rfl⟩ := List.mem_map.mp member
  obtain ⟨another, second, rfl⟩ := List.mem_map.mp among
  exact congrArg Actor.caller
    (addressed.closer _ _ (mem_callersWith_iff.mp first) (mem_callersWith_iff.mp second))

variable (floor) in
theorem toCome_enqueue (job : Job τ) : (floor.enqueue job).toCome ≤ floor.toCome + 13 := by
  have queued : ({ floor with
      queue := floor.queue ++ [job], submitted := floor.submitted + 1 } : Floor ε τ ρ).toCome =
        floor.toCome + 12 := by
    simp only [toCome, List.length_append, List.length_singleton]
    omega
  unfold enqueue
  dsimp only
  split
  · omega
  · exact Nat.le_trans (toCome_wake _ _) (by omega)

theorem toCome_takePlace (job : Job τ) : (floor.takePlace job).toCome ≤ floor.toCome + 13 :=
  toCome_enqueue { floor with free := floor.free - 1 } job

/-- Room that is promised wakes a caller, for whom the dispatcher has to answer no more. -/
theorem toCome_vacate : floor.vacate.toCome ≤ floor.toCome + 1 := by
  unfold vacate
  split
  · exact Nat.le_succ _
  next caller rest waiting =>
    refine Nat.le_trans (toCome_wake _ _) (Nat.succ_le_succ ?_)
    simp only [toCome, waiting]
    cases floor.dispatching with
    | true => simp
    | false => simp

theorem toCome_setDesk (index : Nat) (desk : Desk τ) :
    (floor.setDesk index desk).toCome ≤ floor.toCome + desk.effort := by
  have set := together_set_le Desk.effort floor.desks index desk
  simp only [toCome, setDesk]
  omega

theorem toCome_setDesk_of_found {index : Nat} {old : Desk τ}
    (found : floor.desks[index]? = some old) (desk : Desk τ) :
    (floor.setDesk index desk).toCome + old.effort = floor.toCome + desk.effort := by
  have set := together_set Desk.effort found desk
  simp only [toCome, setDesk]
  omega

theorem toCome_setCaller {number : Nat} {old : Caller τ ρ}
    (found : floor.callers[number]? = some old) (state : Caller τ ρ) :
    (floor.setCaller number state).toCome + old.turns = floor.toCome + state.turns := by
  have set := together_set Caller.turns found state
  simp only [toCome, setCaller]
  omega

end Moves

/-! ## The staff -/

section Staff

variable {floor : Floor ε τ ρ}

theorem toCome_handOver (floor : Floor ε τ ρ) : floor.handOver.toCome ≤ floor.toCome := by
  unfold handOver
  split
  next job queue worker idle queued _ =>
    let taken : Floor ε τ ρ := { floor with queue := queue, idle := idle }
    have left : taken.toCome + 12 = floor.toCome := by
      simp only [taken, toCome, queued, List.length_cons]
      omega
    have vacated : taken.vacate.toCome ≤ taken.toCome + 1 := toCome_vacate
    have seated : (taken.vacate.setDesk worker (.handed job)).toCome ≤ taken.vacate.toCome + 8 :=
      toCome_setDesk worker (.handed job)
    have woken := (taken.vacate.setDesk worker (.handed job)).toCome_wake (.worker worker)
    change ((taken.vacate.setDesk worker (.handed job)).wake (.worker worker)).toCome ≤ _
    omega
  · exact Nat.le_refl _

theorem Addressed.toCome_failAll (jobs : List (Job τ)) {floor : Floor ε τ ρ}
    (addressed : Addressed floor) : (floor.failAll jobs).toCome ≤ floor.toCome + jobs.length := by
  induction jobs generalizing floor with
  | nil => exact Nat.le_refl _
  | cons job rest ih =>
      have delivered := addressed.toCome_deliver job (.error .poolShutdown)
      have failed : Addressed (floor.deliver job (.error .poolShutdown)) :=
        addressed.still rfl rfl rfl rfl
      have later := ih failed
      change ((floor.deliver job (.error .poolShutdown)).failAll rest).toCome ≤ _
      rw [List.length_cons]
      omega

theorem Addressed.toCome_dispatch (addressed : Addressed floor) :
    floor.dispatch.toCome ≤ floor.toCome := by
  refine dispatch_preserves (motive := fun next => next.toCome ≤ floor.toCome)
    (Nat.le_refl _) ?_ ?_
  · exact fun between _ _ fewer => Nat.le_trans (toCome_handOver between) fewer
  · intro _ dispatching
    have emptied : Addressed floor.emptied := addressed.still rfl rfl rfl rfl
    have failed := emptied.toCome_failAll floor.queue
    have closers := (emptied.failAll floor.queue).toCome_wakeClosers
    -- The dispatcher answers for those who waited, and now they answer for themselves.
    have roused : floor.emptied.toCome + 12 * floor.queue.length + 1 ≤ floor.toCome := by
      have length := floor.agenda.length_ready_wakeAll_le (floor.waiting.map Actor.caller)
      rw [List.length_map] at length
      simp only [Floor.emptied, toCome, onAgenda, dispatching, cond_true, cond_false,
        List.length_nil]
      omega
    rw [closeQueue_eq]
    omega

section Work

variable {index : Nat} {desk : Desk τ} {job : Job τ}

theorem Addressed.toCome_stop (addressed : Addressed floor)
    (found : floor.desks[index]? = some desk) :
    (floor.stop index).toCome + desk.effort ≤ floor.toCome + 1 := by
  have set := toCome_setDesk_of_found found .gone
  have still : Addressed (floor.setDesk index .gone) := addressed.still rfl rfl rfl rfl
  have closers := still.toCome_wakeClosers
  change (floor.setDesk index .gone).wakeClosers.toCome + _ ≤ _
  rw [Desk.effort] at set
  omega

theorem toCome_register (found : floor.desks[index]? = some desk) :
    (floor.register index).toCome + desk.effort ≤ floor.toCome + 2 := by
  let registered : Floor ε τ ρ :=
    { floor.setDesk index .idle with idle := floor.idle ++ [index] }
  have set : registered.toCome + desk.effort = floor.toCome + 1 :=
    toCome_setDesk_of_found found .idle
  have woken := registered.toCome_wake .dispatcher
  unfold register
  dsimp only
  split
  · change (registered.wake .dispatcher).toCome + _ ≤ _
    omega
  · change registered.toCome + _ ≤ _
    omega

theorem Addressed.toCome_complete (addressed : Addressed floor)
    (found : floor.desks[index]? = some desk) (job : Job τ) (outcome : Outcome ρ) :
    (floor.complete index job outcome).toCome + desk.effort ≤ floor.toCome + 3 := by
  let released : Floor ε τ ρ := floor.onAgenda (·.release (.worker index))
  let counted : Floor ε τ ρ :=
    { released.deliver job outcome with completed := floor.completed + 1 }
  have still : Addressed released := addressed.still rfl rfl rfl rfl
  have delivered : counted.toCome ≤ floor.toCome + 1 := still.toCome_deliver job outcome
  have stillCounted : Addressed counted := still.still rfl rfl rfl rfl
  have foundStill : counted.desks[index]? = some desk := found
  unfold Floor.complete
  dsimp only
  split
  · have stopped := stillCounted.toCome_stop foundStill
    change (counted.stop index).toCome + _ ≤ _
    omega
  · have registered := toCome_register foundStill
    change (counted.register index).toCome + _ ≤ _
    omega

variable [Trade ε τ ρ]

theorem Addressed.toCome_run (addressed : Addressed floor)
    (found : floor.desks[index]? = some desk) (seated : 6 ≤ desk.effort) (job : Job τ) :
    (floor.run index job).toCome ≤ floor.toCome := by
  unfold Floor.run
  dsimp only
  rcases Trade.resume (ρ := ρ) (Actor.worker index) floor.now job.task floor.shared with
    ⟨shared, outcome | ⟨task, alarms⟩⟩
  · have still : Addressed { floor with shared := shared } := addressed.still rfl rfl rfl rfl
    have completed := still.toCome_complete found job outcome
    change _ ≤ ({ floor with shared := shared } : Floor ε τ ρ).toCome
    dsimp only
    omega
  · let seatedFloor : Floor ε τ ρ :=
      { floor with shared := shared }.setDesk index (.busy { job with task := task })
    have set : seatedFloor.toCome + desk.effort = floor.toCome + 6 :=
      toCome_setDesk_of_found found (.busy { job with task := task })
    have alarmed := seatedFloor.toCome_onAgenda
      fun agenda => alarms.foldl (fun agenda due => agenda.setAlarm due (.worker index)) agenda
    rw [Agenda.ready_setAlarms] at alarmed
    change (seatedFloor.onAgenda _).toCome ≤ _
    omega

theorem Addressed.toCome_giveUp (tame : Tame ε τ ρ) (addressed : Addressed floor)
    (found : floor.desks[index]? = some desk) (seated : 6 ≤ desk.effort) (job : Job τ) :
    (floor.giveUp index job).toCome ≤ floor.toCome := by
  have single := tame.single (.worker index) floor.now job.task floor.shared
  unfold giveUp
  dsimp only
  generalize Trade.abandon ρ (Actor.worker index) floor.now job.task floor.shared = left
    at single ⊢
  obtain ⟨shared, woken⟩ := left
  let resting : Floor ε τ ρ := { floor with shared := shared }
  have roused : (resting.onAgenda (·.wakeAll woken)).toCome ≤ floor.toCome + woken.length :=
    resting.toCome_wakeAll woken
  have still : Addressed (resting.onAgenda (·.wakeAll woken)) := addressed.still rfl rfl rfl rfl
  have completed := still.toCome_complete found job (.error .cancelled)
  change ((resting.onAgenda (·.wakeAll woken)).complete index job (.error .cancelled)).toCome ≤ _
  dsimp only at single
  omega

theorem Addressed.toCome_work (tame : Tame ε τ ρ) (addressed : Addressed floor) (index : Nat) :
    (floor.work index).toCome ≤ floor.toCome := by
  unfold Floor.work
  split
  next job found =>
    split
    · have delivered := addressed.toCome_deliver job (.error .poolShutdown)
      have still : Addressed (floor.deliver job (.error .poolShutdown)) :=
        addressed.still rfl rfl rfl rfl
      have foundStill : (floor.deliver job (.error .poolShutdown)).desks[index]? =
          some (.handed job) := found
      have stopped := still.toCome_stop foundStill
      rw [Desk.effort] at stopped
      omega
    · split
      · have completed := addressed.toCome_complete found job (.error .cancelled)
        rw [Desk.effort] at completed
        omega
      · have watching : Addressed (floor.onAgenda (·.watch job.scope (.worker index))) :=
          addressed.still rfl rfl rfl rfl
        have foundStill : (floor.onAgenda (·.watch job.scope (.worker index))).desks[index]? =
            some (.handed job) := found
        exact watching.toCome_run foundStill (show 6 ≤ 8 by decide) job
  next job found =>
    split
    · exact addressed.toCome_giveUp tame found (Nat.le_refl _) job
    · exact addressed.toCome_run found (Nat.le_refl _) job
  next found =>
    split
    · have stopped := addressed.toCome_stop found
      rw [Desk.effort] at stopped
      omega
    · exact Nat.le_refl _
  · exact Nat.le_refl _
  · exact Nat.le_refl _

end Work

end Staff

/-! ## Callers -/

section Callers

variable {floor next : Floor ε τ ρ} {own : Nat} {job : Job τ} {wait : Span} {due : Nat}

/-- What an offer that is answered adds: a queued job is worth twelve turns, and the dispatcher
may be woken. -/
theorem Addressed.toCome_offer_answered (addressed : Addressed floor) {answer : Outcome Unit}
    (offered : floor.offer own job wait = (next, some answer)) :
    next.toCome ≤ floor.toCome + 13 := by
  rcases floor.offer_cases job own wait with
    ⟨_, offerEq⟩ | ⟨_, _, offerEq⟩ | ⟨_, _, _, offerEq⟩ | ⟨_, _, _, offerEq⟩
  · cases offerEq.symm.trans offered
    exact Nat.le_trans (addressed.toCome_reject job _) (Nat.add_le_add_left (by decide) _)
  · cases offerEq.symm.trans offered
    exact toCome_takePlace job
  · cases offerEq.symm.trans offered
    exact Nat.le_trans (addressed.toCome_reject job _) (Nat.add_le_add_left (by decide) _)
  · cases offerEq.symm.trans offered

/-- The dispatcher answers for one who begins to wait. -/
theorem toCome_offer_waits (offered : floor.offer own job wait = (next, none)) :
    next.toCome ≤ floor.toCome + 1 := by
  obtain ⟨change, rfl, ready⟩ := Addressed.offer_eq_none offered
  simp only [toCome, onAgenda, ready, List.length_append, List.length_singleton]
  cases floor.dispatching with
  | true =>
      rw [cond_true, cond_true]
      omega
  | false =>
      rw [cond_false, cond_false]
      omega

theorem toCome_withdraw : (floor.withdraw own).toCome ≤ floor.toCome := by
  have fewer : (floor.waiting.filter (· != own)).length ≤ floor.waiting.length :=
    List.length_filter_le ..
  simp only [toCome, withdraw, onAgenda, Agenda.release]
  cases floor.dispatching with
  | true =>
      rw [cond_true, cond_true]
      omega
  | false => exact Nat.le_refl _

theorem Addressed.toCome_offerAgain_answered (addressed : Addressed floor) {answer : Outcome Unit}
    (offered : floor.offerAgain own job wait due = (next, some answer)) :
    next.toCome ≤ floor.toCome + 13 := by
  have withdrawn : (floor.withdraw own).toCome ≤ floor.toCome := toCome_withdraw
  have left : Addressed (floor.withdraw own) :=
    addressed.frame rfl List.filter_sublist (Nat.le_refl _) id
  rcases floor.offerAgain_cases job own wait due with
    ⟨_, offerEq⟩ | ⟨_, _, offerEq⟩ | ⟨_, _, _, offerEq⟩ | ⟨_, _, _, offerEq⟩
  · cases offerEq.symm.trans offered
    let returned : Floor ε τ ρ :=
      { floor.withdraw own with free := floor.free + (decide (own ∈ floor.granted)).toNat }
    have still : Addressed returned := left.still rfl rfl rfl rfl
    have rejected : (returned.reject job .poolShutdown).toCome ≤ (floor.withdraw own).toCome + 1 :=
      still.toCome_reject job .poolShutdown
    change (returned.reject job .poolShutdown).toCome ≤ _
    omega
  · cases offerEq.symm.trans offered
    have queued := toCome_enqueue (floor.withdraw own) job
    omega
  · cases offerEq.symm.trans offered
    have rejected := left.toCome_reject job (.submissionTimeout wait)
    omega
  · cases offerEq.symm.trans offered

/-- A batch that has handed in its jobs may take three more turns. -/
theorem toCome_join {state : Caller τ ρ} (found : floor.callers[own]? = some state)
    (batch : Batch τ ρ) : (floor.join own batch).toCome + state.turns ≤ floor.toCome + 3 := by
  let released : Floor ε τ ρ := floor.onAgenda (·.release (.caller own))
  have foundStill : released.callers[own]? = some state := found
  have ends : ∀ last : Caller τ ρ,
      (released.setCaller own last).toCome + state.turns = floor.toCome + last.turns :=
    fun last => toCome_setCaller foundStill last
  rcases floor.join_cases own batch with ⟨_, joinEq⟩ | ⟨_, _, joinEq⟩ | ⟨_, _, joinEq⟩
  · rw [joinEq]
    exact Nat.le_trans (Nat.le_of_eq (ends _)) (Nat.le_add_right _ 3)
  · rw [joinEq]
    exact Nat.le_trans (Nat.le_of_eq (ends _)) (Nat.le_add_right _ 3)
  · rw [joinEq]
    exact Nat.le_of_eq (ends (.batching (floor.pickUp batch)))

/-- Every task that is handed in is worth sixteen turns. -/
theorem Addressed.toCome_handIn (tasks : List τ) (batch : Batch τ ρ) {floor : Floor ε τ ρ}
    (addressed : Addressed floor) {state : Caller τ ρ}
    (found : floor.callers[own]? = some state) :
    (floor.handIn own batch tasks).toCome + state.turns ≤
      floor.toCome + 16 * tasks.length + 3 := by
  induction tasks generalizing batch floor with
  | nil => exact toCome_join found batch
  | cons task rest ih =>
      have issued : Addressed (floor.issue batch.scope task).1 :=
        addressed.frame rfl (List.Sublist.refl _) (Nat.le_succ _) id
      have same : (floor.issue batch.scope task).1.toCome = floor.toCome := rfl
      rw [Floor.handIn, List.length_cons]
      dsimp only
      rcases offered : (floor.issue batch.scope task).1.offer own
        (floor.issue batch.scope task).2 batch.wait with ⟨next, _ | answer⟩
      · have waits := toCome_offer_waits offered
        have callers : next.callers = floor.callers := (Floor.offer_waits _ _ offered).1.callers
        let waiting : Caller τ ρ :=
          .batching { batch with
            tickets := batch.tickets ++ [floor.nextTicket]
            stage := .offering (floor.issue batch.scope task).2
              (next.agenda.dueAfter batch.wait) rest }
        have set : (next.setCaller own waiting).toCome + state.turns =
            next.toCome + (16 * rest.length + 18) :=
          toCome_setCaller (callers ▸ found) waiting
        change (next.setCaller own waiting).toCome + _ ≤ _
        omega
      · have answered := issued.toCome_offer_answered offered
        have settled := (issued.offer_answered offered).1
        have callers : next.callers = floor.callers :=
          (Floor.offer_settles _ _ offered).staff.callers
        have later := ih { batch with tickets := batch.tickets ++ [floor.nextTicket] } settled
          (callers ▸ found)
        dsimp only
        change (next.handIn own { batch with
          tickets := batch.tickets ++ [floor.nextTicket] } rest).toCome + _ ≤ _
        omega

theorem Addressed.toCome_batchTurn (addressed : Addressed floor) {batch : Batch τ ρ}
    (found : floor.callers[own]? = some (.batching batch)) :
    (floor.batchTurn own batch).toCome ≤ floor.toCome := by
  unfold Floor.batchTurn
  cases stage : batch.stage with
  | joining =>
      have joined := toCome_join found batch
      rw [Caller.turns, stage] at joined
      dsimp only at joined ⊢
      omega
  | offering job due rest =>
      dsimp only
      rcases offered : floor.offerAgain own job batch.wait due with ⟨next, _ | answer⟩
      · rw [offerAgain_waits _ _ offered]
      · have answered := addressed.toCome_offerAgain_answered offered
        obtain ⟨joining, _, there⟩ := addressed.batch_answered found offered
        have inRange := (List.getElem?_eq_some_iff.mp there).1
        have set := toCome_setCaller there (.batching { batch with stage := .joining })
        have handed := joining.toCome_handIn rest { batch with stage := .joining }
          (List.getElem?_set_self inRange)
        simp only [Caller.turns, stage] at set handed
        dsimp only
        omega

theorem Addressed.toCome_attend (addressed : Addressed floor) (number : Nat) :
    (floor.attend number).toCome ≤ floor.toCome := by
  unfold Floor.attend
  cases found : floor.callers[number]? with
  | none => exact Nat.le_refl _
  | some state =>
      cases state with
      | offering job wait due =>
          dsimp only
          unfold Floor.offeringTurn
          rcases offered : floor.offerAgain number job wait due with ⟨next, _ | answer⟩
          · rw [offerAgain_waits _ _ offered]
          · have answered := addressed.toCome_offerAgain_answered offered
            have callers : next.callers = floor.callers :=
              (Floor.offerAgain_settles _ _ offered).staff.callers
            have set := toCome_setCaller (callers ▸ found) (.offered answer next.now)
            simp only [Caller.turns] at set
            dsimp only
            omega
      | batching batch => exact addressed.toCome_batchTurn found
      | closing limit due =>
          let released : Floor ε τ ρ := floor.onAgenda (·.release (.caller number))
          have foundStill : released.callers[number]? = some (.closing limit due) := found
          have ends : ∀ answer, (released.setCaller number (.closed answer floor.now)).toCome ≤
              floor.toCome :=
            fun answer => Nat.le_of_add_right_le
              (Nat.le_of_eq (toCome_setCaller foundStill (.closed answer floor.now)))
          dsimp only
          unfold Floor.closingTurn
          dsimp only
          split
          · exact ends _
          · split
            · exact ends _
            · exact Nat.le_refl _
      | offered | batched | closed => exact Nat.le_refl _

end Callers

/-! ## Rest -/

section Rest

variable [Trade ε τ ρ] {floor : Floor ε τ ρ}

/-- No turn adds more to what is left to do than it uses up. -/
theorem Addressed.toCome_turn (tame : Tame ε τ ρ) (addressed : Addressed floor) (actor : Actor) :
    (floor.turn actor).toCome ≤ floor.toCome := by
  cases actor with
  | dispatcher => exact addressed.toCome_dispatch
  | worker index => exact addressed.toCome_work tame index
  | caller number => exact addressed.toCome_attend number
  | guest | timer => exact Nat.le_refl _

/-- Every turn of an actor who is ready lowers the count of the turns that are to come. -/
theorem Addressed.toCome_after_turn (tame : Tame ε τ ρ) (addressed : Addressed floor)
    {actor : Actor} (ready : actor ∈ floor.agenda.ready) :
    (floor.after (.turn actor)).toCome < floor.toCome := by
  have resting : Addressed (floor.unready actor) := addressed.still rfl rfl rfl rfl
  have turned : (floor.after (.turn actor)).toCome ≤ (floor.unready actor).toCome :=
    resting.toCome_turn tame actor
  have counted : (floor.unready actor).toCome + floor.agenda.ready.length =
      floor.toCome + (floor.agenda.ready.erase actor).length :=
    floor.toCome_onAgenda fun agenda => { agenda with ready := agenda.ready.erase actor }
  have fewer := List.length_erase_of_mem ready
  have some := List.length_pos_of_mem ready
  omega

/-- When the clockwork has settled, nobody is ready any more, whatever the order of turns. -/
theorem Addressed.settled (tame : Tame ε τ ρ) {next : Floor ε τ ρ → Option (Floor ε τ ρ)}
    (turns : Clockwork.TakesTurns next) (addressed : Addressed floor) :
    Addressed (Clockwork.steps next floor.effort floor) ∧
      (Clockwork.steps next floor.effort floor).agenda.ready = [] :=
  turns.steps_quiet
    (fun _ actor ready addressed =>
      ⟨addressed.after (.turn actor), addressed.toCome_after_turn tame ready⟩)
    floor.effort addressed addressed.toCome_le_effort

end Rest

end Floor

/-! ## Drills -/

/-- A permit wakes one drill at most. -/
theorem DrillGround.length_permit_le (name : String) (ground : DrillGround) :
    (ground.permit name).2.length ≤ 1 := by
  unfold permit
  dsimp only
  split
  · exact Nat.zero_le _
  · exact Nat.le_refl _

/-- A drill that works goes on when its latency is over. -/
theorem Drill.lt_of_toWork {now : Nat} {drill next : Drill} {ground : DrillGround}
    {alarms : List Nat} (suspended : (drill.toWork now ground).2 = .suspended next alarms) :
    ∀ due ∈ alarms, now < due := by
  unfold toWork at suspended
  split at suspended
  · cases suspended
  next works =>
    cases suspended
    intro due member
    rw [List.mem_singleton.mp member]
    exact Nat.lt_add_of_pos_right (Nat.pos_of_ne_zero works)

theorem Drill.tame : Tame DrillGround Drill Int where
  single := by
    intro runner now drill ground
    change (drill.abandon runner ground).2.length ≤ 1
    unfold abandon
    dsimp only
    split
    · split
      · exact DrillGround.length_permit_le _ _
      · exact Nat.zero_le _
    · exact Nat.zero_le _
  later := by
    intro runner now drill next ground alarms suspended
    change (drill.resume runner now ground).2 = .suspended next alarms at suspended
    unfold resume at suspended
    dsimp only at suspended
    split at suspended
    · split at suspended
      · exact lt_of_toWork suspended
      · split at suspended
        · exact lt_of_toWork suspended
        · cases suspended
          exact fun _ none => absurd none List.not_mem_nil
    · split at suspended
      · exact lt_of_toWork suspended
      · cases suspended
        exact fun _ none => absurd none List.not_mem_nil
    · split at suspended
      · cases suspended
      · cases suspended
        exact fun _ none => absurd none List.not_mem_nil

end RiskGate.Pool
