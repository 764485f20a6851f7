import RiskGate.Proofs.Pool.Labour

/-!
# What a caller can rely on while others act

The turns of the dispatcher, of the workers and of other callers leave a caller
as it is.  They may deliver outcomes, but only at the present instant, and they
wake the caller by each outcome that it awaits.  Together with what the agenda
guarantees (an actor that is ready stays ready, and is woken when a scope that it
watches is cancelled) this is all that the events of others can mean to a caller.

The relation composes, so that each turn is covered by the small moves from which
it is made.
-/

namespace RiskGate.Schedule.Agenda

/-- Affairs of actors outside the pool do not concern those who belong to it. -/
theorem leaves_of_insiders {actor : Actor} {agenda after : Agenda} (inside : actor.isInsider = true)
    (insiders : after.insiders = agenda.insiders) : Leaves actor agenda after where
  now_eq := show after.insiders.now = agenda.insiders.now by rw [insiders]
  parents := show after.insiders.parents = agenda.insiders.parents by rw [insiders]
  cancelled := show after.insiders.cancelled = agenda.insiders.cancelled by rw [insiders]
  planned := show after.insiders.planned = agenda.insiders.planned by rw [insiders]
  ready := by
    intro ready
    have there : actor ∈ agenda.insiders.ready := List.mem_filter.mpr ⟨ready, inside⟩
    rw [← insiders] at there
    exact (List.mem_filter.mp there).1
  watchers := by
    intro scope watched
    have there : (scope, actor) ∈ agenda.insiders.watchers := List.mem_filter.mpr ⟨watched, inside⟩
    rw [← insiders] at there
    exact (List.mem_filter.mp there).1
  alarms := by
    intro due set
    have there : ⟨due, actor⟩ ∈ agenda.insiders.alarms := List.mem_filter.mpr ⟨set, inside⟩
    rw [← insiders] at there
    exact (List.mem_filter.mp there).1

end RiskGate.Schedule.Agenda

namespace RiskGate.Pool

open Schedule (Actor Agenda)

variable {ε τ ρ : Type}

namespace Floor

/-- Between two states of the floor at one instant a caller was not neglected. -/
structure Spares (number : Nat) (before after : Floor ε τ ρ) : Prop where
  agenda : Agenda.Spares (.caller number) before.agenda after.agenda
  caller : after.callers[number]? = before.callers[number]?
  deliveries : ∃ new, after.deliveries = new ++ before.deliveries ∧
    ∀ delivery ∈ new, delivery.deliveredAt = before.now ∧
      ∀ state, before.callers[number]? = some state → state.awaits delivery.ticket = true →
        .caller number ∈ after.agenda.ready

namespace Spares

variable {number : Nat} {before middle after : Floor ε τ ρ}

theorem refl (number : Nat) (floor : Floor ε τ ρ) : Spares number floor floor where
  agenda := .refl _ _
  caller := rfl
  deliveries := ⟨[], rfl, fun _ member => absurd member List.not_mem_nil⟩

theorem trans (first : Spares number before middle) (second : Spares number middle after) :
    Spares number before after where
  agenda := first.agenda.trans second.agenda
  caller := second.caller.trans first.caller
  deliveries := by
    obtain ⟨early, early_eq, early_awaited⟩ := first.deliveries
    obtain ⟨late, late_eq, late_awaited⟩ := second.deliveries
    refine ⟨late ++ early, by rw [late_eq, early_eq, List.append_assoc], ?_⟩
    intro delivery member
    rcases List.mem_append.mp member with isLate | isEarly
    · obtain ⟨deliveredAt, woken⟩ := late_awaited delivery isLate
      exact ⟨deliveredAt.trans first.agenda.now_eq,
        fun state found => woken state (first.caller.trans found)⟩
    · obtain ⟨deliveredAt, woken⟩ := early_awaited delivery isEarly
      exact ⟨deliveredAt,
        fun state found awaits => second.agenda.ready (woken state found awaits)⟩

/-- A change that delivers nothing spares a caller whose state it keeps. -/
theorem of_agenda (agenda : Agenda.Spares (.caller number) before.agenda after.agenda)
    (caller : after.callers[number]? = before.callers[number]?)
    (deliveries : after.deliveries = before.deliveries) : Spares number before after where
  agenda := agenda
  caller := caller
  deliveries := ⟨[], deliveries, fun _ member => absurd member List.not_mem_nil⟩

/-- A change of the books. -/
theorem of_eq (agenda : after.agenda = before.agenda) (callers : after.callers = before.callers)
    (deliveries : after.deliveries = before.deliveries) : Spares number before after := by
  refine of_agenda ?_ (by rw [callers]) deliveries
  rw [agenda]
  exact .refl _ _

end Spares

section Moves

variable (number : Nat) (floor : Floor ε τ ρ)

theorem spares_onAgenda {change : Agenda → Agenda}
    (spares : Agenda.Spares (.caller number) floor.agenda (change floor.agenda)) :
    Spares number floor (floor.onAgenda change) :=
  .of_agenda spares rfl rfl

theorem spares_wake (actor : Actor) : Spares number floor (floor.wake actor) :=
  floor.spares_onAgenda number (Agenda.spares_wake _ _ actor)

theorem spares_wakeClosers : Spares number floor floor.wakeClosers :=
  floor.spares_onAgenda number (Agenda.spares_wakeAll _ _ _)

theorem mem_callersWith {property : Caller τ ρ → Bool} {state : Caller τ ρ}
    (found : floor.callers[number]? = some state) (holds : property state = true) :
    number ∈ floor.callersWith property := by
  apply List.mem_filter.mpr
  constructor
  · exact List.mem_range.mpr (List.getElem?_eq_some_iff.mp found).1
  · rw [found]
    exact holds

variable {floor} {number} in
theorem mem_callersWith_iff {property : Caller τ ρ → Bool} :
    number ∈ floor.callersWith property ↔
      ∃ state, floor.callers[number]? = some state ∧ property state = true := by
  constructor
  · intro member
    obtain ⟨_, holds⟩ := List.mem_filter.mp member
    cases found : floor.callers[number]? with
    | none =>
        rw [found] at holds
        cases holds
    | some state =>
        rw [found] at holds
        exact ⟨state, rfl, holds⟩
  · rintro ⟨state, found, holds⟩
    exact floor.mem_callersWith number found holds

/-- A delivery wakes every batch that awaits it. -/
theorem spares_deliver (job : Job τ) (outcome : Outcome ρ) :
    Spares number floor (floor.deliver job outcome) where
  agenda := Agenda.spares_wakeAll _ _ _
  caller := rfl
  deliveries := by
    refine ⟨[⟨job.ticket, outcome, floor.now⟩], rfl, ?_⟩
    intro delivery member
    obtain rfl := List.mem_singleton.mp member
    refine ⟨rfl, ?_⟩
    intro state found awaits
    refine (Agenda.mem_ready_wakeAll _ _).mpr (Or.inl ?_)
    exact List.mem_map_of_mem (floor.mem_callersWith number found awaits)

theorem spares_reject (job : Job τ) (failure : Failure) :
    Spares number floor (floor.reject job failure) := by
  have counted : Spares number floor
      { floor with
        rejected := floor.rejected + 1
        reasons := floor.reasons.bump failure.kind.name } := .of_eq rfl rfl rfl
  exact counted.trans (spares_deliver number _ job _)

theorem spares_enqueue (job : Job τ) : Spares number floor (floor.enqueue job) := by
  have queued : Spares number floor
      { floor with queue := floor.queue ++ [job], submitted := floor.submitted + 1 } :=
    .of_eq rfl rfl rfl
  unfold enqueue
  dsimp only
  split
  · exact queued
  · exact queued.trans (spares_wake number _ .dispatcher)

theorem spares_takePlace (job : Job τ) : Spares number floor (floor.takePlace job) := by
  have taken : Spares number floor { floor with free := floor.free - 1 } := .of_eq rfl rfl rfl
  exact taken.trans (spares_enqueue number _ job)

theorem spares_vacate : Spares number floor floor.vacate := by
  unfold vacate
  split
  · exact .of_eq rfl rfl rfl
  next caller rest _ =>
    have promised : Spares number floor
        { floor with waiting := rest, granted := floor.granted ++ [caller] } := .of_eq rfl rfl rfl
    exact promised.trans (spares_wake number _ _)

theorem spares_setDesk (index : Nat) (desk : Desk τ) :
    Spares number floor (floor.setDesk index desk) :=
  .of_eq rfl rfl rfl

/-- An entry of a list to which one was added. -/
theorem getElem?_concat_cases {α : Type} {items : List α} {index : Nat} {last entry : α}
    (found : (items ++ [last])[index]? = some entry) :
    items[index]? = some entry ∨ index = items.length ∧ entry = last := by
  rw [List.getElem?_append] at found
  split at found
  · exact .inl found
  next beyond =>
    obtain ⟨inRange, same⟩ := List.getElem?_eq_some_iff.mp found
    rw [List.getElem_singleton] at same
    rw [List.length_singleton] at inRange
    exact .inr ⟨by omega, same.symm⟩

/-- An entry of a list one of whose entries was replaced. -/
theorem getElem?_set_cases {α : Type} {items : List α} {index other : Nat} {new entry : α}
    (found : (items.set index new)[other]? = some entry) :
    other = index ∧ entry = new ∨ other ≠ index ∧ items[other]? = some entry := by
  by_cases same : index = other
  · subst same
    have inRange : index < items.length := by
      have bound := (List.getElem?_eq_some_iff.mp found).1
      rwa [List.length_set] at bound
    rw [List.getElem?_set_self inRange] at found
    exact .inl ⟨rfl, (Option.some.inj found).symm⟩
  · rw [List.getElem?_set_ne same] at found
    exact .inr ⟨Ne.symm same, found⟩

/-- A caller was there before, or is the newcomer. -/
theorem getElem?_enter {floor : Floor ε τ ρ} {number : Nat} {caller state : Caller τ ρ}
    (found : (floor.enter caller).1.callers[number]? = some state) :
    floor.callers[number]? = some state ∨ number = floor.callers.length ∧ state = caller :=
  getElem?_concat_cases found

/-- A newcomer is another caller. -/
theorem spares_enter (other : number ≠ floor.callers.length) (caller : Caller τ ρ) :
    Spares number floor (floor.enter caller).1 := by
  refine .of_agenda (.refl _ _) ?_ rfl
  change (floor.callers ++ [caller])[number]? = floor.callers[number]?
  rcases Nat.lt_or_gt_of_ne other with before | behind
  · exact List.getElem?_append_left before
  · rw [List.getElem?_eq_none (by simp; omega), List.getElem?_eq_none (by omega)]

/-- What another caller turns into. -/
theorem spares_setCaller {other : Nat} (distinct : number ≠ other) (caller : Caller τ ρ) :
    Spares number floor (floor.setCaller other caller) :=
  .of_agenda (.refl _ _) (List.getElem?_set_ne distinct.symm) rfl

/-- Another caller no longer waits for room. -/
theorem spares_withdraw {other : Nat} (distinct : number ≠ other) :
    Spares number floor (floor.withdraw other) := by
  refine .of_agenda (Agenda.spares_release _ _ ?_) rfl rfl
  simpa using distinct

theorem spares_release {other : Nat} (distinct : number ≠ other) :
    Spares number floor (floor.onAgenda (·.release (.caller other))) := by
  refine floor.spares_onAgenda number (Agenda.spares_release _ _ ?_)
  simpa using distinct

end Moves

/-! ## Submissions of others -/

section Submissions

variable (number : Nat) (floor : Floor ε τ ρ) (job : Job τ)

theorem spares_issue (scope : Nat) (task : τ) :
    Spares number floor (floor.issue scope task).1 :=
  .of_eq rfl rfl rfl

theorem spares_offerNow : Spares number floor (floor.offerNow job).1 := by
  unfold offerNow
  split
  · exact spares_reject number floor job _
  · split
    · exact spares_takePlace number floor job
    · exact spares_reject number floor job _

/-- Submitting with patience neglects nobody, not even the caller itself. -/
theorem spares_offer (caller : Nat) (wait : Span) :
    Spares number floor (floor.offer caller job wait).1 := by
  rcases floor.offer_cases job caller wait with
    ⟨_, offerEq⟩ | ⟨_, _, offerEq⟩ | ⟨_, _, _, offerEq⟩ | ⟨_, _, _, offerEq⟩
  · rw [offerEq]
    exact spares_reject number floor job _
  · rw [offerEq]
    exact spares_takePlace number floor job
  · rw [offerEq]
    exact spares_reject number floor job _
  · rw [offerEq]
    have listed : Spares number floor { floor with waiting := floor.waiting ++ [caller] } :=
      .of_eq rfl rfl rfl
    exact listed.trans (spares_onAgenda number _ (Agenda.spares_setAlarm _ _ _ _))

theorem spares_offerAgain {caller : Nat} (distinct : number ≠ caller) (wait : Span) (due : Nat) :
    Spares number floor (floor.offerAgain caller job wait due).1 := by
  have withdrawn := floor.spares_withdraw number distinct
  rcases floor.offerAgain_cases job caller wait due with
    ⟨_, offerEq⟩ | ⟨_, _, offerEq⟩ | ⟨_, _, _, offerEq⟩ | ⟨_, _, _, offerEq⟩
  · rw [offerEq]
    have returned : Spares number (floor.withdraw caller)
        { floor.withdraw caller with
          free := floor.free + (decide (caller ∈ floor.granted)).toNat } := .of_eq rfl rfl rfl
    exact (withdrawn.trans returned).trans (spares_reject number _ job _)
  · rw [offerEq]
    exact withdrawn.trans (spares_enqueue number _ job)
  · rw [offerEq]
    exact withdrawn.trans (spares_reject number _ job _)
  · rw [offerEq]
    exact .refl number floor

theorem spares_submit (scope : Nat) (task : τ) :
    Spares number floor (floor.submit scope task).1 :=
  (floor.spares_issue number scope task).trans (spares_offerNow number _ _)

end Submissions

/-! ## Turns of others -/

section Turns

variable {number : Nat} {caller : Nat} (distinct : number ≠ caller)

include distinct

theorem spares_join (batch : Batch τ ρ) (floor : Floor ε τ ρ) :
    Spares number floor (floor.join caller batch) := by
  have released := floor.spares_release number distinct
  rcases floor.join_cases caller batch with ⟨_, joinEq⟩ | ⟨_, _, joinEq⟩ | ⟨_, _, joinEq⟩
  · rw [joinEq]
    exact released.trans (spares_setCaller number _ distinct _)
  · rw [joinEq]
    exact released.trans (spares_setCaller number _ distinct _)
  · rw [joinEq]
    have waiting := released.trans
      (spares_setCaller number _ distinct (.batching (floor.pickUp batch)))
    exact waiting.trans (spares_onAgenda number _ (Agenda.spares_watch _ _ _ _))

/-- Handing in spares everybody else, task by task. -/
theorem spares_handIn (tasks : List τ) (batch : Batch τ ρ) (floor : Floor ε τ ρ) :
    Spares number floor (floor.handIn caller batch tasks) := by
  induction tasks generalizing batch floor with
  | nil => exact spares_join distinct batch floor
  | cons task rest ih =>
      have issued := floor.spares_issue number batch.scope task
      have offered := issued.trans
        (spares_offer number _ (floor.issue batch.scope task).2 caller batch.wait)
      rw [handIn]
      dsimp only
      split
      next next answer offerEq =>
        rw [offerEq] at offered
        exact offered.trans (ih _ next)
      next next offerEq =>
        rw [offerEq] at offered
        exact offered.trans (spares_setCaller number _ distinct _)

theorem spares_batchTurn (batch : Batch τ ρ) (floor : Floor ε τ ρ) :
    Spares number floor (floor.batchTurn caller batch) := by
  unfold batchTurn
  split
  · exact spares_join distinct batch floor
  next job due rest _ =>
    have offered := spares_offerAgain number floor job distinct batch.wait due
    split
    next next answer offerEq =>
      rw [offerEq] at offered
      exact (offered.trans (spares_setCaller number _ distinct _)).trans
        (spares_handIn distinct _ _ _)
    next next offerEq =>
      rw [offerEq] at offered
      exact offered

theorem spares_offeringTurn (job : Job τ) (wait : Span) (due : Nat) (floor : Floor ε τ ρ) :
    Spares number floor (floor.offeringTurn caller job wait due) := by
  have offered := spares_offerAgain number floor job distinct wait due
  unfold offeringTurn
  split
  next next answer offerEq =>
    rw [offerEq] at offered
    exact offered.trans (spares_setCaller number _ distinct _)
  next next offerEq =>
    rw [offerEq] at offered
    exact offered

theorem spares_closingTurn (limit : Span) (due : Nat) (floor : Floor ε τ ρ) :
    Spares number floor (floor.closingTurn caller limit due) := by
  have released := floor.spares_release number distinct
  unfold closingTurn
  dsimp only
  split
  · exact released.trans (spares_setCaller number _ distinct _)
  · split
    · exact released.trans (spares_setCaller number _ distinct _)
    · exact .refl number floor

theorem spares_attend (floor : Floor ε τ ρ) : Spares number floor (floor.attend caller) := by
  unfold attend
  split
  · exact spares_offeringTurn distinct _ _ _ floor
  · exact spares_batchTurn distinct _ floor
  · exact spares_closingTurn distinct _ _ floor
  · exact .refl number floor

end Turns

/-! ## Calls of others -/

section Calls

variable {number : Nat} (floor : Floor ε τ ρ) (other : number ≠ floor.callers.length)

include other

theorem spares_submitWithin (wait : Span) (scope : Nat) (task : τ) :
    Spares number floor (floor.submitWithin wait scope task).1 := by
  have entered : Spares number floor (floor.entered wait scope task) :=
    (floor.spares_issue number scope task).trans
      (spares_enter number (floor.issue scope task).1 other _)
  have offered := entered.trans
    (spares_offer number _ (floor.issue scope task).2 floor.callers.length wait)
  rw [submitWithin_eq]
  split
  next next answer offerEq =>
    rw [offerEq] at offered
    exact offered.trans (spares_setCaller number _ other _)
  next next offerEq =>
    rw [offerEq] at offered
    exact offered

theorem spares_executeBatch (wait : Span) (scope : Nat) (tasks : List τ) :
    Spares number floor (floor.executeBatch wait scope tasks).1 :=
  (spares_enter number floor other _).trans (spares_handIn other tasks _ _)

theorem spares_shutdown (limit : Span) : Spares number floor (floor.shutdown limit).1 := by
  have shutting : Spares number floor floor.shutting := by
    have shut : Spares number floor { floor with shut := true } := .of_eq rfl rfl rfl
    refine shut.trans (spares_onAgenda number _ ?_)
    exact (Agenda.spares_wakeAll _ _ _).trans (Agenda.spares_wake _ _ _)
  rcases floor.shutdown_cases limit with ⟨_, shutEq⟩ | ⟨_, _, shutEq⟩ | ⟨_, _, shutEq⟩
  · rw [shutEq]
    exact spares_enter number floor other _
  · rw [shutEq]
    exact shutting.trans (spares_enter number floor.shutting other _)
  · rw [shutEq]
    exact (shutting.trans (spares_enter number floor.shutting other _)).trans
      (spares_onAgenda number _ (Agenda.spares_setAlarm _ _ _ _))

end Calls

/-! ## The dispatcher and the workers -/

section Staff

variable (number : Nat)

theorem spares_handOver (floor : Floor ε τ ρ) : Spares number floor floor.handOver := by
  unfold handOver
  split
  next job queue worker idle _ _ =>
    have taken : Spares number floor { floor with queue := queue, idle := idle } :=
      .of_eq rfl rfl rfl
    exact ((taken.trans (spares_vacate number _)).trans (spares_setDesk number _ _ _)).trans
      (spares_wake number _ _)
  next => exact .refl number floor

theorem spares_closeQueue (floor : Floor ε τ ρ) : Spares number floor floor.closeQueue := by
  have woken := floor.spares_onAgenda number
    (Agenda.spares_wakeAll _ _ (floor.waiting.map Actor.caller))
  have closed : Spares number (floor.onAgenda (·.wakeAll (floor.waiting.map Actor.caller)))
      floor.emptied := .of_eq rfl rfl rfl
  exact failAll_preserves (motive := Spares number floor)
    (fun between job spares => spares.trans (spares_deliver number between job _)) floor.queue
    (woken.trans closed)

theorem spares_dispatch (floor : Floor ε τ ρ) : Spares number floor floor.dispatch := by
  refine dispatch_preserves (.refl number floor) ?_ ?_
  · exact fun between _ _ spares => spares.trans (spares_handOver number between)
  · exact fun _ _ => (spares_closeQueue number floor).trans (spares_wakeClosers number _)

theorem spares_stop (index : Nat) (floor : Floor ε τ ρ) :
    Spares number floor (floor.stop index) :=
  (spares_setDesk number floor index _).trans (spares_wakeClosers number _)

theorem spares_register (index : Nat) (floor : Floor ε τ ρ) :
    Spares number floor (floor.register index) := by
  have entered : Spares number floor
      { floor.setDesk index .idle with idle := floor.idle ++ [index] } := .of_eq rfl rfl rfl
  unfold register
  dsimp only
  split
  · exact entered.trans (spares_wake number _ _)
  · exact entered

theorem spares_complete (index : Nat) (job : Job τ) (outcome : Outcome ρ)
    (floor : Floor ε τ ρ) : Spares number floor (floor.complete index job outcome) := by
  let delivered : Floor ε τ ρ :=
    (floor.onAgenda (·.release (.worker index))).deliver job outcome
  have released := floor.spares_onAgenda number
    (Agenda.spares_release _ _ (show Actor.caller number ≠ .worker index by simp))
  have counted : Spares number delivered
      { delivered with completed := delivered.completed + 1 } := .of_eq rfl rfl rfl
  have recorded := (released.trans (spares_deliver number _ job outcome)).trans counted
  unfold complete
  dsimp only
  split
  · exact recorded.trans (spares_stop number index _)
  · exact recorded.trans (spares_register number index _)

theorem spares_run [Trade ε τ ρ] (index : Nat) (job : Job τ) (floor : Floor ε τ ρ) :
    Spares number floor (floor.run index job) := by
  unfold run
  dsimp only
  rcases Trade.resume (ρ := ρ) (Actor.worker index) floor.now job.task floor.shared with
    ⟨shared, outcome | ⟨task, alarms⟩⟩
  · have changed : Spares number floor { floor with shared := shared } := .of_eq rfl rfl rfl
    exact changed.trans (spares_complete number index job outcome _)
  · have seated : Spares number floor
        ({ floor with shared := shared }.setDesk index (.busy { job with task := task })) :=
      .of_eq rfl rfl rfl
    refine seated.trans (spares_onAgenda number _ ?_)
    exact Agenda.spares_foldl _ _ (fun agenda due => Agenda.spares_setAlarm _ agenda due _) alarms

theorem spares_giveUp [Trade ε τ ρ] (index : Nat) (job : Job τ) (floor : Floor ε τ ρ) :
    Spares number floor (floor.giveUp index job) := by
  unfold giveUp
  dsimp only
  rcases Trade.abandon ρ (Actor.worker index) floor.now job.task floor.shared with ⟨shared, woken⟩
  have changed : Spares number floor { floor with shared := shared } := .of_eq rfl rfl rfl
  exact (changed.trans (spares_onAgenda number _ (Agenda.spares_wakeAll _ _ woken))).trans
    (spares_complete number index job _ _)

theorem spares_work [Trade ε τ ρ] (index : Nat) (floor : Floor ε τ ρ) :
    Spares number floor (floor.work index) := by
  unfold work
  split
  next job _ =>
    split
    · exact (spares_deliver number floor job _).trans (spares_stop number index _)
    · split
      · exact spares_complete number index job _ floor
      · exact (spares_onAgenda number floor (Agenda.spares_watch _ _ _ _)).trans
          (spares_run number index job _)
  next job _ =>
    split
    · exact spares_giveUp number index job floor
    · exact spares_run number index job floor
  · split
    · exact spares_stop number index floor
    · exact .refl number floor
  · exact .refl number floor
  · exact .refl number floor

end Staff

end Floor

/-! ## Events -/

/-- The event lets a caller in. -/
def Event.admits : Event ε τ → Bool
  | .submitWithin .. | .executeBatch .. | .shutdown _ => true
  | _ => false

namespace Floor

section Events

variable {number : Nat} {floor : Floor ε τ ρ}

/-- Affairs of actors outside the pool. -/
theorem spares_rearrange {agenda : Agenda} (insiders : agenda.insiders = floor.agenda.insiders) :
    Spares number floor (floor.onAgenda fun _ => agenda) := by
  have leaves : Agenda.Leaves (.caller number) floor.agenda agenda :=
    Agenda.leaves_of_insiders rfl insiders
  exact floor.spares_onAgenda number leaves.spares

theorem spares_unready {actor : Actor} (distinct : Actor.caller number ≠ actor) :
    Spares number floor (floor.unready actor) :=
  floor.spares_onAgenda number (Agenda.spares_erase _ _ distinct)

variable [Trade ε τ ρ]

theorem spares_turn {actor : Actor} (distinct : Actor.caller number ≠ actor) :
    Spares number floor ((floor.unready actor).turn actor) := by
  have resting : Spares number floor (floor.unready actor) := spares_unready distinct
  cases actor with
  | dispatcher => exact resting.trans (spares_dispatch number _)
  | worker index => exact resting.trans (spares_work number index _)
  | caller caller =>
      have other : number ≠ caller := by simpa using distinct
      exact resting.trans (spares_attend other _)
  | guest | timer => exact resting

/-- No event neglects a caller, except that it may be the caller's own turn, and
that time may pass. -/
theorem spares_after {event : Event ε τ} (proper : floor.Proper event)
    (notOwn : event ≠ .turn (.caller number)) (still : ∀ instant, event ≠ .pass instant)
    (other : event.admits = true → number ≠ floor.callers.length) :
    Spares number floor (floor.after event) := by
  cases event with
  | submit scope task => exact spares_submit number floor scope task
  | submitWithin wait scope task => exact spares_submitWithin floor (other rfl) wait scope task
  | executeBatch wait scope tasks => exact spares_executeBatch floor (other rfl) wait scope tasks
  | shutdown limit => exact spares_shutdown floor (other rfl) limit
  | openScope => exact .of_agenda (Agenda.spares_openScope _ _) rfl rfl
  | openChild parent => exact .of_agenda (Agenda.spares_openChild _ _ parent) rfl rfl
  | cancel scope => exact spares_onAgenda number floor (Agenda.spares_cancel _ _ scope)
  | plan due scope => exact spares_onAgenda number floor (Agenda.spares_plan _ _ due scope)
  | disturb shared woken =>
      have changed : Spares number floor { floor with shared := shared } := .of_eq rfl rfl rfl
      exact changed.trans (spares_onAgenda number _ (Agenda.spares_wakeAll _ _ woken))
  | rearrange agenda => exact spares_rearrange proper
  | turn actor =>
      apply spares_turn
      intro same
      apply notOwn
      rw [same]
  | pass instant => exact absurd rfl (still instant)

/-- The floor when the clock has moved and nothing of what is due is done. -/
def clockMoved (instant : Nat) (floor : Floor ε τ ρ) : Floor ε τ ρ :=
  (Schedule.Clockwork.elapse floor.now (max floor.now instant) floor).onAgenda
    fun agenda => { agenda with now := max agenda.now instant }

/-- Doing what is due spares every caller. -/
theorem spares_pass (instant : Nat) :
    Spares number (floor.clockMoved instant) (floor.after (.pass instant)) :=
  .of_agenda (Agenda.spares_moveTo _ floor.agenda instant) rfl rfl

/-- A batch that has ended stays as it is. -/
theorem batched_after {event : Event ε τ} (proper : floor.Proper event) {batch : Batch τ ρ}
    {ended : Nat} (found : floor.callers[number]? = some (.batched batch ended)) :
    (floor.after event).callers[number]? = some (.batched batch ended) := by
  by_cases own : event = .turn (.caller number)
  · subst own
    have resting : (floor.unready (.caller number)).callers[number]? = some (.batched batch ended) :=
      found
    have idle : (floor.unready (.caller number)).attend number = floor.unready (.caller number) := by
      rw [attend, resting]
    change ((floor.unready (.caller number)).attend number).callers[number]? = _
    rw [idle]
    exact resting
  by_cases passes : ∃ instant, event = .pass instant
  · obtain ⟨instant, rfl⟩ := passes
    exact (spares_pass instant).caller.trans found
  · have inRange : number < floor.callers.length := (List.getElem?_eq_some_iff.mp found).1
    have spares : Spares number floor (floor.after event) :=
      spares_after proper own (fun instant same => passes ⟨instant, same⟩)
        fun _ => Nat.ne_of_lt inRange
    exact spares.caller.trans found

end Events

end Floor

end RiskGate.Pool
