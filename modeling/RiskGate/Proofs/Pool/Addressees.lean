import RiskGate.Proofs.Pool.Delivery
import RiskGate.Proofs.Pool.Sparing

/-!
# Whom the pool wakes

A ticket stands in one batch under way at most, so that the delivery of an outcome wakes one
caller at most.  One shutdown at most waits for the pool to stop, and so a worker that stops
wakes one caller at most.  Whoever is on the list of those who wait for room does wait for it,
and is there once.

All of this is a matter of the callers and of that list.  The dispatcher and the workers leave
both alone, but for a caller who is promised room and taken off the list.
-/

namespace RiskGate.Pool

open Schedule (Actor Agenda)

variable {ε τ ρ : Type}

/-- The tickets of a batch under way. -/
def Caller.tickets : Caller τ ρ → List Nat
  | .batching batch => batch.tickets
  | .offering .. | .offered .. | .batched .. | .closing .. | .closed .. => []

/-- A batch awaits only jobs that it has handed in. -/
theorem Caller.mem_tickets_of_awaits {ticket : Nat} (caller : Caller τ ρ)
    (awaits : caller.awaits ticket = true) : ticket ∈ caller.tickets := by
  cases caller with
  | batching batch =>
      cases stage : batch.stage with
      | joining => simpa [Caller.awaits, Caller.tickets, stage] using awaits
      | offering => simp [Caller.awaits, stage] at awaits
  | offering | offered | batched | closing | closed => cases awaits

namespace Floor

/-- The caller is a batch under way that has handed in the job with a ticket. -/
def HasTicket (callers : List (Caller τ ρ)) (number ticket : Nat) : Prop :=
  ∃ state, callers[number]? = some state ∧ ticket ∈ state.tickets

/-- The caller waits for a shutdown to end. -/
def Closes (callers : List (Caller τ ρ)) (number : Nat) : Prop :=
  ∃ state, callers[number]? = some state ∧ state.isClosing = true

/-- The caller waits for room. -/
def Wants (callers : List (Caller τ ρ)) (number : Nat) : Prop :=
  ∃ state, callers[number]? = some state ∧ state.wantsRoom = true

/-- Tickets that were issued, and that no other caller has. -/
def Owns (own : Nat) (tickets : List Nat) (floor : Floor ε τ ρ) : Prop :=
  ∀ ticket ∈ tickets, ticket < floor.nextTicket ∧
    ∀ other, HasTicket floor.callers other ticket → other = own

/-- Whatever wakes callers wakes one of them at most. -/
structure Addressed (floor : Floor ε τ ρ) : Prop where
  issued : ∀ number ticket, HasTicket floor.callers number ticket → ticket < floor.nextTicket
  apart : ∀ number other ticket, HasTicket floor.callers number ticket →
    HasTicket floor.callers other ticket → number = other
  shut : ∀ number, Closes floor.callers number → floor.shut = true
  closer : ∀ number other, Closes floor.callers number → Closes floor.callers other →
    number = other
  listed : floor.waiting.Nodup
  wants : ∀ number ∈ floor.waiting, Wants floor.callers number

namespace Addressed

variable {floor : Floor ε τ ρ} {own : Nat}

theorem make (workers capacity : Nat) (shared : ε) :
    Addressed (Floor.make workers capacity shared : Floor ε τ ρ) where
  issued := nofun
  apart := nofun
  shut := nofun
  closer := nofun
  listed := List.nodup_nil
  wants := nofun

/-- Callers stay as they are, and nobody begins to wait. -/
theorem frame {before after : Floor ε τ ρ} (addressed : Addressed before)
    (callers : after.callers = before.callers) (waiting : after.waiting.Sublist before.waiting)
    (nextTicket : before.nextTicket ≤ after.nextTicket)
    (shut : before.shut = true → after.shut = true) : Addressed after where
  issued := by
    rw [callers]
    exact fun number ticket handed =>
      Nat.lt_of_lt_of_le (addressed.issued number ticket handed) nextTicket
  apart := by
    rw [callers]
    exact addressed.apart
  shut := by
    rw [callers]
    exact fun number closes => shut (addressed.shut number closes)
  closer := by
    rw [callers]
    exact addressed.closer
  listed := addressed.listed.sublist waiting
  wants := by
    rw [callers]
    exact fun number member => addressed.wants number (waiting.subset member)

/-- Nothing is changed that wakes anybody. -/
theorem still {before after : Floor ε τ ρ} (addressed : Addressed before)
    (callers : after.callers = before.callers) (waiting : after.waiting = before.waiting)
    (nextTicket : after.nextTicket = before.nextTicket) (shut : after.shut = before.shut) :
    Addressed after :=
  addressed.frame callers (waiting ▸ List.Sublist.refl _) (Nat.le_of_eq nextTicket.symm)
    (shut ▸ id)

/-! ## One caller changes -/

/-- A caller goes on, and perhaps no longer waits for room. -/
theorem setCaller (addressed : Addressed floor) {state : Caller τ ρ}
    (owns : floor.Owns own state.tickets) (open_ : state.isClosing = false)
    (wants : own ∈ floor.waiting → state.wantsRoom = true) :
    Addressed (floor.setCaller own state) := by
  have handed : ∀ number ticket, HasTicket (floor.callers.set own state) number ticket →
      number = own ∧ ticket ∈ state.tickets ∨ HasTicket floor.callers number ticket := by
    rintro number ticket ⟨other, found, member⟩
    rcases getElem?_set_cases found with ⟨same, rfl⟩ | ⟨_, old⟩
    · exact .inl ⟨same, member⟩
    · exact .inr ⟨other, old, member⟩
  have closes : ∀ number, Closes (floor.callers.set own state) number →
      Closes floor.callers number := by
    rintro number ⟨other, found, closing⟩
    rcases getElem?_set_cases found with ⟨_, rfl⟩ | ⟨_, old⟩
    · cases open_.symm.trans closing
    · exact ⟨other, old, closing⟩
  refine ⟨?_, ?_, fun number closing => addressed.shut number (closes number closing),
    fun number other closing closed =>
      addressed.closer number other (closes number closing) (closes other closed),
    addressed.listed, ?_⟩
  · intro number ticket has
    rcases handed number ticket has with ⟨_, member⟩ | old
    · exact (owns ticket member).1
    · exact addressed.issued number ticket old
  · intro number other ticket has had
    rcases handed number ticket has with ⟨rfl, member⟩ | old
    · rcases handed other ticket had with ⟨same, _⟩ | others
      · exact same.symm
      · exact ((owns ticket member).2 other others).symm
    · rcases handed other ticket had with ⟨rfl, member⟩ | others
      · exact (owns ticket member).2 number old
      · exact addressed.apart number other ticket old others
  · intro number member
    obtain ⟨old, found, wanted⟩ := addressed.wants number member
    have inRange := (List.getElem?_eq_some_iff.mp found).1
    by_cases same : own = number
    · subst same
      exact ⟨state, List.getElem?_set_self inRange, wants member⟩
    · exact ⟨old, (List.getElem?_set_ne same).trans found, wanted⟩

/-- A caller without tickets goes on, and waits no longer. -/
theorem settle (addressed : Addressed floor) {state : Caller τ ρ} (ended : state.tickets = [])
    (open_ : state.isClosing = false) (absent : own ∉ floor.waiting) :
    Addressed (floor.setCaller own state) := by
  refine addressed.setCaller ?_ open_ fun member => absurd member absent
  intro ticket member
  rw [ended] at member
  cases member

/-- A caller without tickets comes in. -/
theorem enter (addressed : Addressed floor) {state : Caller τ ρ} (untold : state.tickets = [])
    (closing : state.isClosing = true → floor.shut = true ∧ ∀ number, ¬ Closes floor.callers number) :
    Addressed (floor.enter state).1 := by
  have handed : ∀ number ticket, HasTicket (floor.enter state).1.callers number ticket →
      HasTicket floor.callers number ticket := by
    rintro number ticket ⟨other, found, member⟩
    rcases getElem?_enter found with old | ⟨_, rfl⟩
    · exact ⟨other, old, member⟩
    · rw [untold] at member
      cases member
  have closes : ∀ number, Closes (floor.enter state).1.callers number →
      Closes floor.callers number ∨
        number = floor.callers.length ∧ state.isClosing = true := by
    rintro number ⟨other, found, closed⟩
    rcases getElem?_enter found with old | ⟨last, rfl⟩
    · exact .inl ⟨other, old, closed⟩
    · exact .inr ⟨last, closed⟩
  refine ⟨fun number ticket has => addressed.issued number ticket (handed number ticket has),
    fun number other ticket has had =>
      addressed.apart number other ticket (handed _ _ has) (handed _ _ had),
    ?_, ?_, addressed.listed, ?_⟩
  · intro number closed
    rcases closes number closed with old | ⟨_, isCloser⟩
    · exact addressed.shut number old
    · exact (closing isCloser).1
  · intro number other closed alsoClosed
    rcases closes number closed with old | ⟨last, isCloser⟩
    · rcases closes other alsoClosed with others | ⟨_, isCloser⟩
      · exact addressed.closer number other old others
      · exact absurd old ((closing isCloser).2 number)
    · rcases closes other alsoClosed with others | ⟨alsoLast, _⟩
      · exact absurd others ((closing isCloser).2 other)
      · exact last.trans alsoLast.symm
  · intro number member
    obtain ⟨old, found, wanted⟩ := addressed.wants number member
    have inRange := (List.getElem?_eq_some_iff.mp found).1
    exact ⟨old, (List.getElem?_append_left inRange).trans found, wanted⟩

/-- Whoever does not want room is not on the list. -/
theorem absent (addressed : Addressed floor)
    (served : ∀ state, floor.callers[own]? = some state → state.wantsRoom = false) :
    own ∉ floor.waiting := by
  intro member
  obtain ⟨state, found, wants⟩ := addressed.wants own member
  rw [served state found] at wants
  cases wants

/-- A newcomer is not on the list. -/
theorem absent_newcomer (addressed : Addressed floor) : floor.callers.length ∉ floor.waiting :=
  addressed.absent fun _ found =>
    absurd (List.getElem?_eq_some_iff.mp found).1 (Nat.lt_irrefl _)

/-- The tickets of a caller are its own. -/
theorem owns (addressed : Addressed floor) {state : Caller τ ρ}
    (found : floor.callers[own]? = some state) : floor.Owns own state.tickets :=
  fun ticket member =>
    ⟨addressed.issued own ticket ⟨state, found, member⟩, fun other has =>
      addressed.apart other own ticket has ⟨state, found, member⟩⟩

/-- Who wants room comes on the list. -/
theorem lineUp (addressed : Addressed floor) (absent : own ∉ floor.waiting)
    (wants : Wants floor.callers own) :
    Addressed { floor with waiting := floor.waiting ++ [own] } := by
  refine ⟨addressed.issued, addressed.apart, addressed.shut, addressed.closer, ?_, ?_⟩
  · exact List.nodup_append_comm.mp (List.nodup_cons.mpr ⟨absent, addressed.listed⟩)
  · intro number member
    rcases List.mem_append.mp member with old | new
    · exact addressed.wants number old
    · rw [List.mem_singleton.mp new]
      exact wants

/-! ## Submissions -/

section Offers

variable {job : Job τ} {wait : Span} {due : Nat} {next : Floor ε τ ρ} {answer : Outcome Unit}

theorem reject (addressed : Addressed floor) (job : Job τ) (failure : Failure) :
    Addressed (floor.reject job failure) :=
  addressed.still rfl rfl rfl rfl

theorem enqueue (addressed : Addressed floor) (job : Job τ) : Addressed (floor.enqueue job) := by
  have staff := floor.sameStaff_enqueue job
  exact addressed.still staff.callers (waiting_enqueue _ _) staff.nextTicket staff.shut

theorem takePlace (addressed : Addressed floor) (job : Job τ) :
    Addressed (floor.takePlace job) := by
  have taken : Addressed { floor with free := floor.free - 1 } := addressed.still rfl rfl rfl rfl
  exact taken.enqueue job

theorem offerNow (addressed : Addressed floor) (job : Job τ) :
    Addressed (floor.offerNow job).1 := by
  unfold Floor.offerNow
  split
  · exact addressed.reject job _
  · split
    · exact addressed.takePlace job
    · exact addressed.reject job _

/-- An offer that is answered leaves the list alone. -/
theorem offer_answered (addressed : Addressed floor)
    (offered : floor.offer own job wait = (next, some answer)) :
    Addressed next ∧ next.waiting = floor.waiting := by
  rcases floor.offer_cases job own wait with
    ⟨_, offerEq⟩ | ⟨_, _, offerEq⟩ | ⟨_, _, _, offerEq⟩ | ⟨_, _, _, offerEq⟩
  · cases offerEq.symm.trans offered
    exact ⟨addressed.reject job _, rfl⟩
  · cases offerEq.symm.trans offered
    exact ⟨addressed.takePlace job, waiting_enqueue _ _⟩
  · cases offerEq.symm.trans offered
    exact ⟨addressed.reject job _, rfl⟩
  · cases offerEq.symm.trans offered

/-- An offer that is not answered puts the caller on the list. -/
theorem offer_eq_none (offered : floor.offer own job wait = (next, none)) :
    ∃ change, next = { floor with waiting := floor.waiting ++ [own] }.onAgenda change ∧
      (change floor.agenda).ready = floor.agenda.ready := by
  rcases floor.offer_cases job own wait with
    ⟨_, offerEq⟩ | ⟨_, _, offerEq⟩ | ⟨_, _, _, offerEq⟩ | ⟨_, _, _, offerEq⟩
  · cases offerEq.symm.trans offered
  · cases offerEq.symm.trans offered
  · cases offerEq.symm.trans offered
  · cases offerEq.symm.trans offered
    exact ⟨_, rfl, rfl⟩

/-- A caller begins to wait. -/
theorem offer_waits (addressed : Addressed floor) {state : Caller τ ρ}
    (offered : floor.offer own job wait = (next, none)) (absent : own ∉ floor.waiting)
    (inRange : own < floor.callers.length) (owns : floor.Owns own state.tickets)
    (wants : state.wantsRoom = true) (open_ : state.isClosing = false) :
    Addressed (next.setCaller own state) := by
  obtain ⟨change, rfl, _⟩ := offer_eq_none offered
  have offering := addressed.setCaller owns open_ fun _ => wants
  have waiting := offering.lineUp absent ⟨state, List.getElem?_set_self inRange, wants⟩
  exact waiting.still rfl rfl rfl rfl

/-- A caller who is answered waits no longer. -/
theorem offerAgain_answered (addressed : Addressed floor)
    (offered : floor.offerAgain own job wait due = (next, some answer)) :
    Addressed next ∧ own ∉ next.waiting := by
  have withdrawn : Addressed (floor.withdraw own) :=
    addressed.frame rfl List.filter_sublist (Nat.le_refl _) id
  have left : own ∉ (floor.withdraw own).waiting := by
    intro member
    simpa using (List.mem_filter.mp member).2
  rcases floor.offerAgain_cases job own wait due with
    ⟨_, offerEq⟩ | ⟨_, _, offerEq⟩ | ⟨_, _, _, offerEq⟩ | ⟨_, _, _, offerEq⟩
  · cases offerEq.symm.trans offered
    exact ⟨withdrawn.still rfl rfl rfl rfl, left⟩
  · cases offerEq.symm.trans offered
    rw [waiting_enqueue]
    exact ⟨withdrawn.enqueue job, left⟩
  · cases offerEq.symm.trans offered
    exact ⟨withdrawn.reject job _, left⟩
  · cases offerEq.symm.trans offered

end Offers

/-! ## Batches -/

theorem join (addressed : Addressed floor) {batch : Batch τ ρ}
    (owns : floor.Owns own batch.tickets) (absent : own ∉ floor.waiting) :
    Addressed (floor.join own batch) := by
  have released : Addressed (floor.onAgenda (·.release (.caller own))) :=
    addressed.still rfl rfl rfl rfl
  rcases floor.join_cases own batch with ⟨_, joinEq⟩ | ⟨_, _, joinEq⟩ | ⟨_, _, joinEq⟩
  · rw [joinEq]
    exact released.settle rfl rfl absent
  · rw [joinEq]
    exact released.settle rfl rfl absent
  · rw [joinEq]
    let state : Caller τ ρ := .batching (floor.pickUp batch)
    have joined : Addressed (floor.setCaller own state) :=
      addressed.setCaller owns rfl fun member => absurd member absent
    exact joined.still rfl rfl rfl rfl

/-- The job that is made next is nobody else's. -/
theorem owns_issue (addressed : Addressed floor) {tickets : List Nat}
    (owns : floor.Owns own tickets) (scope : Nat) (task : τ) :
    (floor.issue scope task).1.Owns own (tickets ++ [floor.nextTicket]) := by
  intro ticket member
  rcases List.mem_append.mp member with old | new
  · exact ⟨Nat.lt_succ_of_lt (owns ticket old).1, (owns ticket old).2⟩
  · rw [List.mem_singleton.mp new]
    exact ⟨Nat.lt_succ_self _, fun other has =>
      absurd (addressed.issued other _ has) (Nat.lt_irrefl _)⟩

theorem handIn (tasks : List τ) (batch : Batch τ ρ) {floor : Floor ε τ ρ}
    (addressed : Addressed floor) (inRange : own < floor.callers.length)
    (owns : floor.Owns own batch.tickets) (absent : own ∉ floor.waiting) :
    Addressed (floor.handIn own batch tasks) := by
  induction tasks generalizing batch floor with
  | nil => exact addressed.join owns absent
  | cons task rest ih =>
      have issued : Addressed (floor.issue batch.scope task).1 :=
        addressed.frame rfl (List.Sublist.refl _) (Nat.le_succ _) id
      have given := addressed.owns_issue owns batch.scope task
      rw [Floor.handIn]
      dsimp only
      rcases offered : (floor.issue batch.scope task).1.offer own
        (floor.issue batch.scope task).2 batch.wait with ⟨next, _ | answer⟩
      · exact issued.offer_waits offered absent inRange given rfl rfl
      · obtain ⟨settled, waiting⟩ := issued.offer_answered offered
        have staff := (Floor.offer_settles _ _ offered).staff
        apply ih { batch with tickets := batch.tickets ++ [floor.nextTicket] } settled
        · rw [staff.callers]
          exact inRange
        · intro ticket member
          rw [staff.nextTicket, staff.callers]
          exact given ticket member
        · rw [waiting]
          exact absent

/-! ## Turns of callers -/

theorem offeringTurn (addressed : Addressed floor) (job : Job τ) (wait : Span) (due : Nat) :
    Addressed (floor.offeringTurn own job wait due) := by
  unfold Floor.offeringTurn
  rcases offered : floor.offerAgain own job wait due with ⟨next, _ | answer⟩
  · rw [offerAgain_waits _ _ offered]
    exact addressed
  · obtain ⟨settled, left⟩ := addressed.offerAgain_answered offered
    exact settled.settle rfl rfl left

/-- A batch one of whose jobs was answered for goes on to hand in the others. -/
theorem batch_answered (addressed : Addressed floor) {batch : Batch τ ρ}
    (found : floor.callers[own]? = some (.batching batch)) {job : Job τ} {due : Nat}
    {next : Floor ε τ ρ} {answer : Outcome Unit}
    (offered : floor.offerAgain own job batch.wait due = (next, some answer)) :
    Addressed (next.setCaller own (.batching { batch with stage := .joining })) ∧
      own ∉ next.waiting ∧ next.callers[own]? = some (.batching batch) := by
  obtain ⟨settled, left⟩ := addressed.offerAgain_answered offered
  have staff := (Floor.offerAgain_settles _ _ offered).staff
  have owns : floor.Owns own batch.tickets := addressed.owns found
  have still : next.Owns own batch.tickets := by
    rw [Owns, staff.nextTicket, staff.callers]
    exact owns
  exact ⟨settled.setCaller still rfl fun member => absurd member left, left, staff.callers ▸ found⟩

theorem batchTurn (addressed : Addressed floor) {batch : Batch τ ρ}
    (found : floor.callers[own]? = some (.batching batch)) :
    Addressed (floor.batchTurn own batch) := by
  unfold Floor.batchTurn
  cases stage : batch.stage with
  | joining =>
      apply addressed.join (addressed.owns found)
      apply addressed.absent
      intro state same
      cases found.symm.trans same
      rw [Caller.wantsRoom, stage]
  | offering job due rest =>
      dsimp only
      rcases offered : floor.offerAgain own job batch.wait due with ⟨next, _ | answer⟩
      · rw [offerAgain_waits _ _ offered]
        exact addressed
      · obtain ⟨joining, left, there⟩ := addressed.batch_answered found offered
        have inRange := (List.getElem?_eq_some_iff.mp there).1
        apply joining.handIn rest { batch with stage := .joining } _ _ left
        · change own < (next.callers.set own _).length
          rwa [List.length_set]
        · exact joining.owns (List.getElem?_set_self inRange)

theorem closingTurn (addressed : Addressed floor) (limit : Span) (due : Nat)
    (absent : own ∉ floor.waiting) : Addressed (floor.closingTurn own limit due) := by
  have released : Addressed (floor.onAgenda (·.release (.caller own))) :=
    addressed.still rfl rfl rfl rfl
  unfold Floor.closingTurn
  dsimp only
  split
  · exact released.settle rfl rfl absent
  · split
    · exact released.settle rfl rfl absent
    · exact addressed

theorem attend (addressed : Addressed floor) (number : Nat) :
    Addressed (floor.attend number) := by
  unfold Floor.attend
  cases found : floor.callers[number]? with
  | none => exact addressed
  | some state =>
      cases state with
      | offering job wait due => exact addressed.offeringTurn job wait due
      | batching batch => exact addressed.batchTurn found
      | closing limit due =>
          apply addressed.closingTurn limit due
          apply addressed.absent
          intro state same
          cases found.symm.trans same
          rfl
      | offered | batched | closed => exact addressed

/-! ## Calls -/

theorem submitWithin (addressed : Addressed floor) (wait : Span) (scope : Nat) (task : τ) :
    Addressed (floor.submitWithin wait scope task).1 := by
  have absent := addressed.absent_newcomer
  have issued : Addressed (floor.issue scope task).1 :=
    addressed.frame rfl (List.Sublist.refl _) (Nat.le_succ _) id
  have entered : Addressed (floor.entered wait scope task) := issued.enter rfl nofun
  rw [submitWithin_eq]
  rcases offered : (floor.entered wait scope task).offer floor.callers.length
    (floor.issue scope task).2 wait with ⟨next, _ | answer⟩
  · have waits := entered.lineUp absent ⟨_, List.getElem?_concat_length, rfl⟩
    obtain ⟨change, rfl, _⟩ := offer_eq_none offered
    exact waits.still rfl rfl rfl rfl
  · obtain ⟨settled, waiting⟩ := entered.offer_answered offered
    exact settled.settle rfl rfl (waiting ▸ absent)

theorem executeBatch (addressed : Addressed floor) (wait : Span) (scope : Nat) (tasks : List τ) :
    Addressed (floor.executeBatch wait scope tasks).1 := by
  let batch : Batch τ ρ := { scope := scope, wait := wait }
  have entered : Addressed (floor.enter (.batching batch)).1 := addressed.enter rfl nofun
  have inRange : floor.callers.length < (floor.callers ++ [Caller.batching batch]).length := by
    simp
  exact entered.handIn tasks batch inRange nofun addressed.absent_newcomer

theorem shutdown (addressed : Addressed floor) (limit : Span) :
    Addressed (floor.shutdown limit).1 := by
  have shutting : Addressed floor.shutting :=
    addressed.frame rfl (List.Sublist.refl _) (Nat.le_refl _) fun _ => rfl
  rcases floor.shutdown_cases limit with ⟨_, shutEq⟩ | ⟨_, _, shutEq⟩ | ⟨open_, _, shutEq⟩
  · rw [shutEq]
    exact addressed.enter rfl nofun
  · rw [shutEq]
    exact shutting.enter rfl nofun
  · rw [shutEq]
    have nobody : ∀ number, ¬ Closes floor.callers number := by
      intro number closes
      cases open_.symm.trans (addressed.shut number closes)
    have entered : Addressed
        (floor.shutting.enter (.closing limit (floor.agenda.dueAfter limit))).1 :=
      shutting.enter rfl fun _ => ⟨rfl, nobody⟩
    exact entered.still rfl rfl rfl rfl

/-! ## The staff -/

theorem vacate (addressed : Addressed floor) : Addressed floor.vacate := by
  unfold Floor.vacate
  split
  · exact addressed.still rfl rfl rfl rfl
  next caller rest waiting =>
    have sublist : rest.Sublist floor.waiting := waiting ▸ List.sublist_cons_self ..
    exact addressed.frame rfl sublist (Nat.le_refl _) id

theorem handOver (addressed : Addressed floor) : Addressed floor.handOver := by
  unfold Floor.handOver
  split
  next job queue worker idle _ _ =>
    have taken : Addressed { floor with queue := queue, idle := idle } :=
      addressed.still rfl rfl rfl rfl
    exact taken.vacate.still rfl rfl rfl rfl
  · exact addressed

theorem failAll (addressed : Addressed floor) (jobs : List (Job τ)) :
    Addressed (floor.failAll jobs) :=
  failAll_preserves (fun _ _ kept => kept.still rfl rfl rfl rfl) jobs addressed

theorem dispatch (addressed : Addressed floor) : Addressed floor.dispatch := by
  refine dispatch_preserves addressed ?_ ?_
  · exact fun between _ _ kept => kept.handOver
  · intro _ _
    have emptied : Addressed floor.emptied := addressed.still rfl rfl rfl rfl
    exact (emptied.failAll floor.queue).still rfl rfl rfl rfl

theorem complete (addressed : Addressed floor) (index : Nat) (job : Job τ) (outcome : Outcome ρ) :
    Addressed (floor.complete index job outcome) := by
  unfold Floor.complete
  dsimp only
  split
  · exact addressed.still rfl rfl rfl rfl
  · unfold register
    dsimp only
    split
    · exact addressed.still rfl rfl rfl rfl
    · exact addressed.still rfl rfl rfl rfl

section Work

variable [Trade ε τ ρ]

theorem run (addressed : Addressed floor) (index : Nat) (job : Job τ) :
    Addressed (floor.run index job) := by
  unfold Floor.run
  dsimp only
  rcases Trade.resume (ρ := ρ) (Actor.worker index) floor.now job.task floor.shared with
    ⟨shared, outcome | ⟨task, alarms⟩⟩
  · have changed : Addressed { floor with shared := shared } := addressed.still rfl rfl rfl rfl
    exact changed.complete index job outcome
  · exact addressed.still rfl rfl rfl rfl

theorem work (addressed : Addressed floor) (index : Nat) : Addressed (floor.work index) := by
  unfold Floor.work
  split
  next job _ =>
    have watching : Addressed (floor.onAgenda (·.watch job.scope (.worker index))) :=
      addressed.still rfl rfl rfl rfl
    split
    · exact addressed.still rfl rfl rfl rfl
    · split
      · exact addressed.complete index job _
      · exact watching.run index job
  next job _ =>
    split
    · unfold giveUp
      dsimp only
      rcases Trade.abandon ρ (Actor.worker index) floor.now job.task floor.shared with
        ⟨shared, woken⟩
      have left : Addressed (onAgenda (·.wakeAll woken) { floor with shared := shared }) :=
        addressed.still rfl rfl rfl rfl
      exact left.complete index job _
    · exact addressed.run index job
  · split
    · exact addressed.still rfl rfl rfl rfl
    · exact addressed
  · exact addressed
  · exact addressed

end Work

/-! ## Events -/

/-- Whatever happens, what wakes callers wakes one of them at most. -/
theorem after [Trade ε τ ρ] (addressed : Addressed floor) (event : Event ε τ) :
    Addressed (floor.after event) := by
  have unready : ∀ actor, Addressed (floor.unready actor) :=
    fun actor => addressed.still rfl rfl rfl rfl
  cases event with
  | submit scope task =>
      have issued : Addressed (floor.issue scope task).1 :=
        addressed.frame rfl (List.Sublist.refl _) (Nat.le_succ _) id
      exact issued.offerNow _
  | submitWithin wait scope task => exact addressed.submitWithin wait scope task
  | executeBatch wait scope tasks => exact addressed.executeBatch wait scope tasks
  | shutdown limit => exact addressed.shutdown limit
  | turn actor =>
      cases actor with
      | dispatcher => exact (unready .dispatcher).dispatch
      | worker index => exact (unready (.worker index)).work index
      | caller number => exact (unready (.caller number)).attend number
      | guest number => exact unready (.guest number)
      | timer number => exact unready (.timer number)
  | openScope | openChild | cancel | plan | disturb | rearrange | pass =>
      exact addressed.still rfl rfl rfl rfl

end Addressed

theorem Arises.addressed [Trade ε τ ρ] {history : History τ ρ} {floor : Floor ε τ ρ}
    (arises : Arises history floor) : Addressed floor := by
  obtain ⟨workers, capacity, shared, run⟩ := arises
  exact run.preserves (.make workers capacity shared) fun event _ _ addressed =>
    addressed.after event

end Floor

end RiskGate.Pool
