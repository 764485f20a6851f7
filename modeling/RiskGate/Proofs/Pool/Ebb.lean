import RiskGate.Proofs.Pool.Desks
import RiskGate.Proofs.Pool.Notes

/-!
# A pool that has been shut down

After a shutdown nothing comes into a pool any more.  New jobs are refused at once, callers
stop waiting one by one, and a worker is busy only with a job that was begun before.  An
outcome that is delivered is the shutdown, or that of a job which a worker was busy with, or
that of a submission whose patience was over while the queue was still open; and until the
dispatcher has closed the queue no time passes.

These facts make up a relation between states, which is proved of each turn by the small
moves from which it is made, and holds along every run.
-/

namespace RiskGate.Pool

open Schedule (Actor Agenda)

variable {ε τ ρ : Type}

/-- The ticket of the job for which a caller waits for room, and until when. -/
def Caller.claim? : Caller τ ρ → Option (Nat × Nat)
  | .offering job _ due => some (job.ticket, due)
  | .batching batch =>
      match batch.stage with
      | .offering job due _ => some (job.ticket, due)
      | .joining => none
  | .offered .. | .batched .. | .closing .. | .closed .. => none

namespace Floor

/-- A caller waits for room with the job with a ticket, until an instant. -/
def Claims (floor : Floor ε τ ρ) (number ticket due : Nat) : Prop :=
  ∃ caller, floor.callers[number]? = some caller ∧ caller.claim? = some (ticket, due)

/-- The job with a ticket waits for room that was promised to it. -/
def Promised (floor : Floor ε τ ρ) (ticket : Nat) : Prop :=
  ∃ number ∈ floor.granted, ∃ due, floor.Claims number ticket due

/-- A worker is busy with the job with a ticket. -/
def Occupies (floor : Floor ε τ ρ) (ticket : Nat) : Prop :=
  ∃ job : Job τ, .busy job ∈ floor.desks ∧ job.ticket = ticket

/-- What a pool that has been shut down can deliver. -/
def Owes (floor : Floor ε τ ρ) (delivery : Delivery ρ) : Prop :=
  delivery.outcome = .error .poolShutdown ∨ floor.Occupies delivery.ticket ∨
    floor.dispatching = true ∧ ∃ number, ∃ due ≤ floor.now, floor.Claims number delivery.ticket due

/-- Outcomes were delivered that the pool owed, and a job was delivered as stranded if it was
made since. -/
structure Pays (before after : Floor ε τ ρ) : Prop where
  forward : before.now ≤ after.now
  nextTicket : before.nextTicket ≤ after.nextTicket
  deliveries : ∃ new, after.deliveries = new ++ before.deliveries ∧ ∀ delivery ∈ new,
    before.Owes delivery ∧ before.now ≤ delivery.deliveredAt ∧ delivery.deliveredAt ≤ after.now
  refused : ∀ ticket, before.nextTicket ≤ ticket → ticket < after.nextTicket →
    ∃ delivery ∈ after.deliveries, delivery.ticket = ticket ∧
      delivery.outcome = .error .poolShutdown

/-- Nothing was made or delivered. -/
theorem Pays.nothing {before after : Floor ε τ ρ} (now : after.now = before.now)
    (nextTicket : after.nextTicket = before.nextTicket)
    (deliveries : after.deliveries = before.deliveries) : Pays before after := by
  refine ⟨Nat.le_of_eq now.symm, Nat.le_of_eq nextTicket.symm,
    ⟨[], deliveries, fun _ none => absurd none List.not_mem_nil⟩, ?_⟩
  rw [nextTicket]
  exact fun ticket late early => absurd early (Nat.not_lt_of_le late)

/-- Nothing came into a pool that has been shut down. -/
structure Ebbs (before after : Floor ε τ ρ) : Prop where
  shut : after.shut = before.shut
  dispatching : after.dispatching = true → before.dispatching = true ∧ after.now = before.now
  claims : ∀ number ticket due, after.Claims number ticket due → before.Claims number ticket due
  granted : ∀ number ∈ after.granted, number ∈ before.granted
  occupies : ∀ ticket, after.Occupies ticket → before.Occupies ticket
  idle : ∀ index : Nat, after.desks[index]? = some .idle → before.desks[index]? = some .idle
  pays : Pays before after

namespace Ebbs

variable {before middle after : Floor ε τ ρ}

theorem owes (ebbs : Ebbs before middle) {delivery : Delivery ρ} (owes : middle.Owes delivery) :
    before.Owes delivery := by
  rcases owes with stranded | occupied | ⟨dispatches, number, due, past, claims⟩
  · exact .inl stranded
  · exact .inr (.inl (ebbs.occupies _ occupied))
  · obtain ⟨dispatched, now⟩ := ebbs.dispatching dispatches
    exact .inr (.inr ⟨dispatched, number, due, now ▸ past, ebbs.claims _ _ _ claims⟩)

theorem promised (ebbs : Ebbs before after) {ticket : Nat} (promised : after.Promised ticket) :
    before.Promised ticket := by
  obtain ⟨number, granted, due, claims⟩ := promised
  exact ⟨number, ebbs.granted number granted, due, ebbs.claims _ _ _ claims⟩

theorem refl (floor : Floor ε τ ρ) : Ebbs floor floor where
  shut := rfl
  dispatching := fun dispatches => ⟨dispatches, rfl⟩
  claims := fun _ _ _ => id
  granted := fun _ => id
  occupies := fun _ => id
  idle := fun _ => id
  pays := .nothing rfl rfl rfl

theorem trans (first : Ebbs before middle) (second : Ebbs middle after) : Ebbs before after where
  shut := second.shut.trans first.shut
  dispatching := by
    intro dispatches
    obtain ⟨dispatched, late⟩ := second.dispatching dispatches
    obtain ⟨first, early⟩ := first.dispatching dispatched
    exact ⟨first, late.trans early⟩
  claims := fun _ _ _ claims => first.claims _ _ _ (second.claims _ _ _ claims)
  granted := fun number granted => first.granted number (second.granted number granted)
  occupies := fun ticket occupied => first.occupies ticket (second.occupies ticket occupied)
  idle := fun index idle => first.idle index (second.idle index idle)
  pays := by
    obtain ⟨early, earlyEq, earlyOwed⟩ := first.pays.deliveries
    obtain ⟨late, lateEq, lateOwed⟩ := second.pays.deliveries
    refine ⟨Nat.le_trans first.pays.forward second.pays.forward,
      Nat.le_trans first.pays.nextTicket second.pays.nextTicket, ⟨late ++ early, ?_, ?_⟩, ?_⟩
    · rw [lateEq, earlyEq, List.append_assoc]
    · intro delivery member
      rcases List.mem_append.mp member with isLate | isEarly
      · obtain ⟨owed, after_middle, before_after⟩ := lateOwed delivery isLate
        exact ⟨first.owes owed, Nat.le_trans first.pays.forward after_middle, before_after⟩
      · obtain ⟨owed, after_before, before_middle⟩ := earlyOwed delivery isEarly
        exact ⟨owed, after_before, Nat.le_trans before_middle second.pays.forward⟩
    · intro ticket old new
      by_cases isEarly : ticket < middle.nextTicket
      · obtain ⟨delivery, delivered, same⟩ := first.pays.refused ticket old isEarly
        refine ⟨delivery, ?_, same⟩
        rw [lateEq]
        exact List.mem_append_right _ delivered
      · exact second.pays.refused ticket (Nat.le_of_not_lt isEarly) new

end Ebbs

/-- Nothing came into a pool that has been shut down, and only callers acted: no time passed,
and neither desks nor the dispatcher did anything. -/
structure Visits (before after : Floor ε τ ρ) : Prop where
  shut : after.shut = before.shut
  dispatching : after.dispatching = before.dispatching
  desks : after.desks = before.desks
  now : after.now = before.now
  claims : ∀ number ticket due, after.Claims number ticket due → before.Claims number ticket due
  granted : ∀ number ∈ after.granted, number ∈ before.granted
  pays : Pays before after

namespace Visits

variable {before middle after : Floor ε τ ρ}

theorem ebbs (visits : Visits before after) : Ebbs before after where
  shut := visits.shut
  dispatching := by
    rw [visits.dispatching]
    exact fun dispatches => ⟨dispatches, visits.now⟩
  claims := visits.claims
  granted := visits.granted
  occupies := by
    rintro ticket ⟨job, member, same⟩
    exact ⟨job, visits.desks ▸ member, same⟩
  idle := by
    rw [visits.desks]
    exact fun _ => id
  pays := visits.pays

theorem trans (first : Visits before middle) (second : Visits middle after) :
    Visits before after where
  shut := second.shut.trans first.shut
  dispatching := second.dispatching.trans first.dispatching
  desks := second.desks.trans first.desks
  now := second.now.trans first.now
  claims := fun _ _ _ claims => first.claims _ _ _ (second.claims _ _ _ claims)
  granted := fun number granted => first.granted number (second.granted number granted)
  pays := (first.ebbs.trans second.ebbs).pays

/-- A change that makes and ends no job. -/
theorem of_still (shut : after.shut = before.shut)
    (dispatching : after.dispatching = before.dispatching) (desks : after.desks = before.desks)
    (now : after.now = before.now) (nextTicket : after.nextTicket = before.nextTicket)
    (deliveries : after.deliveries = before.deliveries)
    (granted : ∀ number ∈ after.granted, number ∈ before.granted)
    (claims : ∀ number ticket due, after.Claims number ticket due →
      before.Claims number ticket due) : Visits before after where
  shut := shut
  dispatching := dispatching
  desks := desks
  now := now
  claims := claims
  granted := granted
  pays := .nothing now nextTicket deliveries

/-- Nothing changes but the agenda's actors, the places and the books. -/
theorem frame (callers : after.callers = before.callers) (desks : after.desks = before.desks)
    (shut : after.shut = before.shut) (dispatching : after.dispatching = before.dispatching)
    (now : after.now = before.now) (nextTicket : after.nextTicket = before.nextTicket)
    (deliveries : after.deliveries = before.deliveries)
    (granted : ∀ number ∈ after.granted, number ∈ before.granted) : Visits before after := by
  refine .of_still shut dispatching desks now nextTicket deliveries granted ?_
  rintro number ticket due ⟨caller, found, claims⟩
  exact ⟨caller, callers ▸ found, claims⟩

theorem refl (floor : Floor ε τ ρ) : Visits floor floor :=
  .frame rfl rfl rfl rfl rfl rfl rfl fun _ => id

end Visits

section Moves

variable (floor : Floor ε τ ρ)

/-- The agenda changes, and it is as late as before. -/
theorem visits_agenda {agenda : Agenda} (now : agenda.now = floor.agenda.now) :
    Visits floor { floor with agenda := agenda } :=
  .frame rfl rfl rfl rfl now rfl rfl fun _ => id

theorem visits_onAgenda {change : Agenda → Agenda}
    (now : (change floor.agenda).now = floor.agenda.now) : Visits floor (floor.onAgenda change) :=
  floor.visits_agenda now

theorem visits_wakeAll (actors : List Actor) : Visits floor (floor.onAgenda (·.wakeAll actors)) :=
  floor.visits_onAgenda (Agenda.wakeAll_now _ _)

/-- An outcome is delivered that the pool owes. -/
theorem visits_deliver {job : Job τ} {outcome : Outcome ρ}
    (owes : floor.Owes ⟨job.ticket, outcome, floor.now⟩) :
    Visits floor (floor.deliver job outcome) := by
  have noted : Visits floor
      { floor with deliveries := ⟨job.ticket, outcome, floor.now⟩ :: floor.deliveries } := by
    refine ⟨rfl, rfl, rfl, rfl, fun _ _ _ => id, fun _ => id, Nat.le_refl _, Nat.le_refl _,
      ⟨[_], rfl, ?_⟩, ?_⟩
    · intro delivery member
      rw [List.mem_singleton.mp member]
      exact ⟨owes, Nat.le_refl _, Nat.le_refl _⟩
    · exact fun ticket late early => absurd early (Nat.not_lt_of_le late)
  exact noted.trans (visits_wakeAll _ _)

theorem visits_reject {job : Job τ} {failure : Failure}
    (owes : floor.Owes ⟨job.ticket, .error failure, floor.now⟩) :
    Visits floor (floor.reject job failure) := by
  have counted : Visits floor
      { floor with
        rejected := floor.rejected + 1
        reasons := floor.reasons.bump failure.kind.name } :=
    .frame rfl rfl rfl rfl rfl rfl rfl fun _ => id
  exact counted.trans (visits_deliver _ owes)

theorem visits_enqueue (job : Job τ) : Visits floor (floor.enqueue job) := by
  unfold enqueue
  dsimp only
  split
  · exact .frame rfl rfl rfl rfl rfl rfl rfl fun _ => id
  · exact .frame rfl rfl rfl rfl (Agenda.wake_now _ _) rfl rfl fun _ => id

/-- A caller gets a state in which it claims nothing. -/
theorem visits_setCaller (number : Nat) {state : Caller τ ρ} (unclaiming : state.claim? = none) :
    Visits floor (floor.setCaller number state) := by
  refine .of_still rfl rfl rfl rfl rfl rfl (fun _ => id) ?_
  rintro other ticket due ⟨caller, found, claims⟩
  by_cases same : number = other
  · subst same
    have inRange := (List.getElem?_eq_some_iff.mp found).1
    rw [setCaller, List.length_set] at inRange
    rw [setCaller, List.getElem?_set_self inRange] at found
    cases found
    cases unclaiming.symm.trans claims
  · exact ⟨caller, (List.getElem?_set_ne same).symm.trans found, claims⟩

/-- A caller who comes in without a claim adds none. -/
theorem claims_of_concat {state : Caller τ ρ} (unclaiming : state.claim? = none)
    {floor after : Floor ε τ ρ} {number ticket due : Nat}
    (callers : after.callers = floor.callers ++ [state]) (claims : after.Claims number ticket due) :
    floor.Claims number ticket due := by
  obtain ⟨caller, found, claims⟩ := claims
  rw [callers] at found
  rcases getElem?_concat_cases found with old | ⟨_, rfl⟩
  · exact ⟨caller, old, claims⟩
  · cases unclaiming.symm.trans claims

theorem visits_enter {state : Caller τ ρ} (unclaiming : state.claim? = none) :
    Visits floor (floor.enter state).1 := by
  refine .of_still rfl rfl rfl rfl rfl rfl (fun _ => id) ?_
  exact fun _ _ _ => claims_of_concat unclaiming rfl

/-- A new job is refused. -/
theorem visits_refuse {after : Floor ε τ ρ} (shut : after.shut = floor.shut)
    (dispatching : after.dispatching = floor.dispatching) (desks : after.desks = floor.desks)
    (now : after.now = floor.now) (nextTicket : after.nextTicket = floor.nextTicket + 1)
    (deliveries : after.deliveries =
      ⟨floor.nextTicket, .error .poolShutdown, floor.now⟩ :: floor.deliveries)
    (granted : after.granted = floor.granted)
    (claims : ∀ number ticket due, after.Claims number ticket due →
      floor.Claims number ticket due) : Visits floor after where
  shut := shut
  dispatching := dispatching
  desks := desks
  now := now
  claims := claims
  granted := by
    rw [granted]
    exact fun _ => id
  pays := by
    refine ⟨Nat.le_of_eq now.symm, by omega, ⟨[_], deliveries, ?_⟩, ?_⟩
    · intro delivery member
      rw [List.mem_singleton.mp member]
      exact ⟨.inl rfl, Nat.le_refl _, Nat.le_of_eq now.symm⟩
    · intro ticket old new
      have same : ticket = floor.nextTicket := by omega
      refine ⟨⟨floor.nextTicket, .error .poolShutdown, floor.now⟩, ?_, same.symm, rfl⟩
      rw [deliveries]
      exact List.mem_cons_self

end Moves

/-! ## Callers -/

section Callers

variable {floor : Floor ε τ ρ}

/-- A submission to a pool that is shut down is refused. -/
theorem offer_eq_of_shut (shut : floor.shut = true) (own : Nat) (job : Job τ) (wait : Span) :
    floor.offer own job wait = (floor.reject job .poolShutdown, some (.error .poolShutdown)) :=
  if_pos shut

theorem visits_submit (shut : floor.shut = true) (scope : Nat) (task : τ) :
    Visits floor (floor.submit scope task).1 := by
  have refused : (floor.issue scope task).1.offerNow (floor.issue scope task).2 =
      ((floor.issue scope task).1.reject (floor.issue scope task).2 .poolShutdown,
        .error .poolShutdown) := if_pos shut
  change Visits floor ((floor.issue scope task).1.offerNow (floor.issue scope task).2).1
  rw [refused]
  exact floor.visits_refuse rfl rfl rfl (Agenda.wakeAll_now _ _) rfl rfl rfl fun _ _ _ => id

theorem visits_submitWithin (shut : floor.shut = true) (wait : Span) (scope : Nat) (task : τ) :
    Visits floor (floor.submitWithin wait scope task).1 := by
  have entered_shut : (floor.entered wait scope task).shut = true := shut
  rw [submitWithin_eq, offer_eq_of_shut entered_shut]
  dsimp only
  refine floor.visits_refuse rfl rfl rfl (Agenda.wakeAll_now _ _) rfl rfl rfl fun _ _ _ => ?_
  have replaced : ∀ old new : Caller τ ρ,
      (floor.callers ++ [old]).set floor.callers.length new = floor.callers ++ [new] := by simp
  exact claims_of_concat rfl (replaced _ _)

theorem visits_join (own : Nat) (batch : Batch τ ρ) (floor : Floor ε τ ρ) :
    Visits floor (floor.join own batch) := by
  have released : Visits floor (floor.onAgenda (·.release (.caller own))) :=
    floor.visits_onAgenda rfl
  rcases floor.join_cases own batch with ⟨_, joinEq⟩ | ⟨_, _, joinEq⟩ | ⟨_, _, joinEq⟩
  · rw [joinEq]
    exact released.trans (visits_setCaller _ own rfl)
  · rw [joinEq]
    exact released.trans (visits_setCaller _ own rfl)
  · rw [joinEq]
    have joining : Visits floor ((floor.onAgenda (·.release (.caller own))).setCaller own
        (.batching (floor.pickUp batch))) := released.trans (visits_setCaller _ own rfl)
    exact joining.trans (visits_onAgenda _ rfl)

theorem visits_handIn (own : Nat) (tasks : List τ) (batch : Batch τ ρ) {floor : Floor ε τ ρ}
    (shut : floor.shut = true) : Visits floor (floor.handIn own batch tasks) := by
  induction tasks generalizing batch floor with
  | nil => exact visits_join own batch floor
  | cons task rest ih =>
      have refused : Visits floor ((floor.issue batch.scope task).1.reject
          (floor.issue batch.scope task).2 .poolShutdown) :=
        floor.visits_refuse rfl rfl rfl (Agenda.wakeAll_now _ _) rfl rfl rfl fun _ _ _ => id
      have issued_shut : (floor.issue batch.scope task).1.shut = true := shut
      rw [handIn]
      dsimp only
      rw [offer_eq_of_shut issued_shut]
      exact refused.trans (ih _ shut)

theorem visits_offerAgain {own : Nat} {job : Job τ} {wait : Span} {due : Nat}
    {next : Floor ε τ ρ} {answer : Outcome Unit} (claims : floor.Claims own job.ticket due)
    (offered : floor.offerAgain own job wait due = (next, some answer)) : Visits floor next := by
  have withdrawn : Visits floor (floor.withdraw own) :=
    .frame rfl rfl rfl rfl rfl rfl rfl fun _ kept => (List.mem_filter.mp kept).1
  rcases floor.offerAgain_cases job own wait due with
    ⟨_, offerEq⟩ | ⟨_, _, offerEq⟩ | ⟨dispatches, _, past, offerEq⟩ | ⟨_, _, _, offerEq⟩
  · cases offerEq.symm.trans offered
    have freed : Visits floor { floor.withdraw own with
        free := floor.free + (decide (own ∈ floor.granted)).toNat } :=
      .frame rfl rfl rfl rfl rfl rfl rfl fun _ kept => (List.mem_filter.mp kept).1
    exact freed.trans (visits_reject _ (.inl rfl))
  · cases offerEq.symm.trans offered
    exact withdrawn.trans (visits_enqueue _ job)
  · cases offerEq.symm.trans offered
    exact withdrawn.trans (visits_reject _ (.inr (.inr ⟨dispatches, own, due, past, claims⟩)))
  · cases offerEq.symm.trans offered

theorem visits_batchTurn (shut : floor.shut = true) {own : Nat} {batch : Batch τ ρ}
    (found : floor.callers[own]? = some (.batching batch)) :
    Visits floor (floor.batchTurn own batch) := by
  unfold batchTurn
  cases stage : batch.stage with
  | joining => exact visits_join own batch floor
  | offering job due rest =>
      have claims : floor.Claims own job.ticket due := by
        refine ⟨_, found, ?_⟩
        rw [Caller.claim?, stage]
      dsimp only
      rcases offered : floor.offerAgain own job batch.wait due with ⟨next, _ | answer⟩
      · rw [offerAgain_waits _ _ offered]
        exact .refl floor
      · have settled := visits_offerAgain claims offered
        exact (settled.trans (visits_setCaller _ own rfl)).trans
          (visits_handIn own rest _ (settled.shut.trans shut))

/-- A caller's turn. -/
theorem visits_attend (shut : floor.shut = true) (own : Nat) : Visits floor (floor.attend own) := by
  unfold attend
  cases found : floor.callers[own]? with
  | none => exact .refl floor
  | some state =>
      cases state with
      | offering job wait due =>
          have claims : floor.Claims own job.ticket due := ⟨_, found, rfl⟩
          dsimp only
          rw [offeringTurn]
          rcases offered : floor.offerAgain own job wait due with ⟨next, _ | answer⟩
          · rw [offerAgain_waits _ _ offered]
            exact .refl floor
          · exact (visits_offerAgain claims offered).trans (visits_setCaller _ own rfl)
      | batching batch => exact visits_batchTurn shut found
      | closing limit due =>
          have released : Visits floor (floor.onAgenda (·.release (.caller own))) :=
            floor.visits_onAgenda rfl
          dsimp only
          unfold closingTurn
          dsimp only
          split
          · exact released.trans (visits_setCaller _ own rfl)
          · split
            · exact released.trans (visits_setCaller _ own rfl)
            · exact .refl floor
      | offered | batched | closed => exact .refl floor

/-- A further shutdown is answered at once. -/
theorem shutdown_eq_of_shut (shut : floor.shut = true) (limit : Span) :
    floor.shutdown limit = floor.enter (.closed (.ok ()) floor.now) :=
  if_pos shut

end Callers

/-! ## The staff -/

/-- A worker stops, or goes on with the job on the desk. -/
theorem ebbs_setDesk (floor : Floor ε τ ρ) (index : Nat) {desk : Desk τ} (working : desk ≠ .idle)
    (own : ∀ job, desk = .busy job → floor.Occupies job.ticket) :
    Ebbs floor (floor.setDesk index desk) where
  shut := rfl
  dispatching := fun dispatches => ⟨dispatches, rfl⟩
  claims := fun _ _ _ => id
  granted := fun _ => id
  occupies := by
    rintro ticket ⟨job, member, rfl⟩
    rcases List.mem_or_eq_of_mem_set member with old | same
    · exact ⟨job, old, rfl⟩
    · exact own job same.symm
  idle := by
    intro other idle
    by_cases same : index = other
    · subst same
      have inRange : index < floor.desks.length := by
        have bound := (List.getElem?_eq_some_iff.mp idle).1
        rwa [setDesk, List.length_set] at bound
      rw [setDesk, List.getElem?_set_self inRange] at idle
      exact absurd (Option.some.inj idle) working
    · exact (List.getElem?_set_ne same).symm.trans idle
  pays := .nothing rfl rfl rfl

theorem ebbs_stop (floor : Floor ε τ ρ) (index : Nat) : Ebbs floor (floor.stop index) := by
  have stopped : Ebbs floor (floor.setDesk index .gone) := floor.ebbs_setDesk index nofun nofun
  exact stopped.trans (visits_wakeAll _ _).ebbs

section Staff

variable {floor : Floor ε τ ρ}

/-- A worker ends the job on its desk, and stops. -/
theorem complete_of_shut (shut : floor.shut = true) (index : Nat) {job : Job τ}
    (occupied : floor.Occupies job.ticket) (outcome : Outcome ρ) :
    ∃ ended, Visits floor ended ∧ floor.complete index job outcome = ended.stop index := by
  let released : Floor ε τ ρ := floor.onAgenda (·.release (.worker index))
  let delivered : Floor ε τ ρ := released.deliver job outcome
  have ended : Visits floor { delivered with completed := delivered.completed + 1 } := by
    have released_visits : Visits floor released := floor.visits_onAgenda rfl
    have delivered_visits : Visits released delivered :=
      released.visits_deliver (.inr (.inl occupied))
    have counted : Visits delivered { delivered with completed := delivered.completed + 1 } :=
      .frame rfl rfl rfl rfl rfl rfl rfl fun _ => id
    exact (released_visits.trans delivered_visits).trans counted
  exact ⟨_, ended, if_pos (ended.shut.trans shut)⟩

/-- Everything that can come of a worker's turn in a pool that is shut down: it goes on with
its job, or it has stopped, or it had stopped before. -/
theorem work_of_shut [Trade ε τ ρ] (shut : floor.shut = true) (index : Nat) :
    (∃ ended, Visits floor ended ∧ floor.work index = ended.stop index) ∨
    (∃ job, floor.Occupies job.ticket ∧ ∃ still, Visits floor still ∧
      Visits (still.setDesk index (.busy job)) (floor.work index) ∧
        (floor.work index).desks[index]? = some (.busy job)) ∨
    floor.work index = floor ∧ floor.desks[index]? ≠ some .idle := by
  unfold work
  cases found : floor.desks[index]? with
  | none => exact .inr (.inr ⟨rfl, nofun⟩)
  | some desk =>
      have inRange := (List.getElem?_eq_some_iff.mp found).1
      cases desk with
      | gone => exact .inr (.inr ⟨rfl, nofun⟩)
      | idle => exact .inl ⟨floor, .refl floor, if_pos shut⟩
      | handed job =>
          exact .inl ⟨_, floor.visits_deliver (.inl rfl), if_pos shut⟩
      | busy job =>
          have occupied : floor.Occupies job.ticket := ⟨job, List.mem_of_getElem? found, rfl⟩
          dsimp only
          split
          · unfold giveUp
            dsimp only
            rcases Trade.abandon ρ (Actor.worker index) floor.now job.task floor.shared with
              ⟨shared, woken⟩
            have left : Visits floor
                (onAgenda (·.wakeAll woken) { floor with shared := shared }) :=
              .frame rfl rfl rfl rfl (Agenda.wakeAll_now _ _) rfl rfl fun _ => id
            have left_shut := left.shut.trans shut
            have left_occupied : (onAgenda (·.wakeAll woken)
                { floor with shared := shared }).Occupies job.ticket := occupied
            obtain ⟨ended, visits, endedEq⟩ := complete_of_shut left_shut index left_occupied
              (.error .cancelled)
            exact .inl ⟨ended, left.trans visits, endedEq⟩
          · unfold run
            dsimp only
            rcases Trade.resume (ρ := ρ) (Actor.worker index) floor.now job.task floor.shared with
              ⟨shared, outcome | ⟨task, alarms⟩⟩
            · have left : Visits floor { floor with shared := shared } :=
                .frame rfl rfl rfl rfl rfl rfl rfl fun _ => id
              have left_occupied : Occupies { floor with shared := shared } job.ticket := occupied
              obtain ⟨ended, visits, endedEq⟩ := complete_of_shut (left.shut.trans shut) index
                left_occupied outcome
              exact .inl ⟨ended, left.trans visits, endedEq⟩
            · have left : Visits floor { floor with shared := shared } :=
                .frame rfl rfl rfl rfl rfl rfl rfl fun _ => id
              have alarmed := (floor.agenda.wakes_setAlarms alarms (.worker index)).now_eq
              exact .inr (.inl ⟨{ job with task := task }, occupied, _, left,
                visits_onAgenda _ alarmed, List.getElem?_set_self inRange⟩)

theorem ebbs_work [Trade ε τ ρ] (shut : floor.shut = true) (index : Nat) :
    Ebbs floor (floor.work index) := by
  rcases work_of_shut shut index with
    ⟨ended, visits, workEq⟩ | ⟨job, occupied, still, visits, goes, _⟩ | ⟨workEq, _⟩
  · rw [workEq]
    exact visits.ebbs.trans (ended.ebbs_stop index)
  · have busy : Ebbs still (still.setDesk index (.busy job)) := by
      refine still.ebbs_setDesk index nofun ?_
      rintro other same
      cases same
      obtain ⟨seated, member, ticket⟩ := occupied
      exact ⟨seated, visits.desks ▸ member, ticket⟩
    exact (visits.ebbs.trans busy).trans goes.ebbs
  · rw [workEq]
    exact .refl floor

/-- The jobs of a closed queue are stranded. -/
theorem ebbs_closeQueue (floor : Floor ε τ ρ) : Ebbs floor floor.closeQueue := by
  have woken : Visits floor (floor.onAgenda (·.wakeAll (floor.waiting.map Actor.caller))) :=
    floor.visits_wakeAll _
  have emptied : Ebbs (floor.onAgenda (·.wakeAll (floor.waiting.map Actor.caller))) floor.emptied :=
    ⟨rfl, nofun, fun _ _ _ => id, fun _ => id, fun _ => id, fun _ => id, .nothing rfl rfl rfl⟩
  exact failAll_preserves (motive := Ebbs floor)
    (fun between _ ebbs => ebbs.trans (between.visits_deliver (.inl rfl)).ebbs) floor.queue
    (woken.ebbs.trans emptied)

theorem ebbs_dispatch (shut : floor.shut = true) : Ebbs floor floor.dispatch := by
  unfold dispatch
  split
  · exact .refl floor
  · exact floor.ebbs_closeQueue.trans (visits_wakeAll _ _).ebbs

end Staff

/-! ## Events -/

end Floor

/-- The event is a turn of the staff, or lets time pass. -/
def Event.isOfStaff : Event ε τ → Bool
  | .turn .dispatcher | .turn (.worker _) | .pass _ => true
  | .turn (.caller _) | .turn (.guest _) | .turn (.timer _) | .submit .. | .submitWithin ..
  | .executeBatch .. | .shutdown _ | .openScope | .openChild _ | .cancel _ | .plan ..
  | .disturb .. | .rearrange _ => false

namespace Floor

section Events

variable [Trade ε τ ρ] {floor : Floor ε τ ρ} {event : Event ε τ}

/-- Callers come and go in a pool that is shut down, and scopes are cancelled. -/
theorem visits_after (shut : floor.shut = true) (proper : floor.Proper event)
    (others : event.isOfStaff = false) : Visits floor (floor.after event) := by
  have unready : ∀ actor, Visits floor (floor.unready actor) :=
    fun actor => floor.visits_onAgenda rfl
  cases event with
  | submit scope task => exact visits_submit shut scope task
  | submitWithin wait scope task => exact visits_submitWithin shut wait scope task
  | executeBatch wait scope tasks =>
      have entered : Visits floor (floor.enter (.batching { scope := scope, wait := wait })).1 :=
        floor.visits_enter rfl
      exact entered.trans (visits_handIn floor.callers.length tasks _ (entered.shut.trans shut))
  | shutdown limit =>
      change Visits floor (floor.shutdown limit).1
      rw [shutdown_eq_of_shut shut]
      exact floor.visits_enter rfl
  | openScope => exact floor.visits_agenda rfl
  | openChild parent => exact floor.visits_agenda rfl
  | cancel scope =>
      exact floor.visits_onAgenda (Agenda.spares_cancel .dispatcher floor.agenda scope).now_eq
  | plan due scope => exact floor.visits_agenda rfl
  | disturb shared woken =>
      exact .frame rfl rfl rfl rfl (Agenda.wakeAll_now _ _) rfl rfl fun _ => id
  | rearrange agenda =>
      have leaves : Agenda.Leaves .dispatcher floor.agenda agenda :=
        Agenda.leaves_of_insiders rfl proper
      exact .frame rfl rfl rfl rfl leaves.now_eq rfl rfl fun _ => id
  | turn actor =>
      cases actor with
      | caller number =>
          have resting_shut : (floor.unready (.caller number)).shut = true := shut
          exact (unready _).trans (visits_attend resting_shut number)
      | guest | timer => exact unready _
      | dispatcher | worker => cases others
  | pass => cases others

/-- Nothing comes into a pool that is shut down, whatever happens. -/
theorem ebbs_after (shut : floor.shut = true) (alert : Alert none floor)
    (allowed : floor.Allowed event) : Ebbs floor (floor.after event) := by
  cases staff : event.isOfStaff with
  | false => exact (visits_after shut allowed.proper staff).ebbs
  | true =>
      cases event with
      | turn actor =>
          have unready : Visits floor (floor.unready actor) := floor.visits_onAgenda rfl
          have resting_shut : (floor.unready actor).shut = true := shut
          cases actor with
          | dispatcher => exact unready.ebbs.trans (ebbs_dispatch resting_shut)
          | worker index => exact unready.ebbs.trans (ebbs_work resting_shut index)
          | caller | guest | timer => cases staff
      | pass instant =>
          -- the dispatcher closes the queue before time passes
          have stopped := alert.dispatching_eq_false shut allowed.1
          have forward := (deliveries_after allowed).1
          refine ⟨rfl, ?_, fun _ _ _ => id, fun _ => id, fun _ => id, fun _ => id, forward,
            Nat.le_refl _, ⟨[], rfl, fun _ none => absurd none List.not_mem_nil⟩,
            fun ticket late early => absurd early (Nat.not_lt_of_le late)⟩
          intro dispatches
          cases stopped.symm.trans dispatches
      | submit | submitWithin | executeBatch | shutdown | openScope | openChild | cancel | plan
      | disturb | rearrange => cases staff

/-- Nothing comes into a pool after it was shut down. -/
theorem Run.ebbs {history later : History τ ρ} {start next : Floor ε τ ρ}
    (run : Run start later next) (arises : Arises history start) (shut : start.shut = true) :
    Ebbs start next := by
  induction run with
  | refl => exact .refl start
  | tail event earlier allowed ih =>
      exact ih.trans (ebbs_after (ih.shut.trans shut) (arises.trans earlier).alert allowed)

end Events

end Floor

end RiskGate.Pool
