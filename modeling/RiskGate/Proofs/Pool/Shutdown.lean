import RiskGate.Proofs.Pool.Closing

/-!
# Shutting a pool down

What a shutdown does to a pool, along any run that follows it.  No task is begun any more.
Jobs that were not begun, and submissions that wait for room, end with the shutdown, but for a
submission whose own patience is over at this very instant.  Jobs that were begun end with
their own outcome or because their scope is cancelled.  Later submissions are refused, and
later shutdowns are answered at once and change nothing.

The shutdown itself returns without an error when all jobs that were begun end before its
patience is over, and reports that it was over when one of them goes on beyond.  A patience that
no calendar could hold is over after thirty years.
-/

namespace RiskGate.Pool.Floor

open Schedule (Actor Agenda cutWait)

variable {ε τ ρ : Type}

/-! ## What is told of a pool that is shut down -/

section Notes

variable [Trade ε τ ρ] {floor : Floor ε τ ρ} {event : Event ε τ}

/-- No task is begun. -/
theorem begun_notes_of_shut (shut : floor.shut = true) (event : Event ε τ) :
    History.begun (floor.notes event) = [] := by
  cases event with
  | submit scope task => exact begun_answerNotes _ _
  | submitWithin wait scope task => exact begun_answerNotes _ _
  | executeBatch wait scope tasks => exact begun_handInNotes _ tasks _ _
  | turn actor =>
      cases actor with
      | worker index =>
          have resting_shut : (floor.unready (.worker index)).shut = true := shut
          change History.begun ((floor.unready (.worker index)).workNotes index) = []
          unfold workNotes
          rw [resting_shut]
          split
          · rfl
          · split
            · rfl
            · exact tickets_resumeNotes (fun _ => rfl) index _
          · rfl
      | caller number => exact begun_attendNotes _ _
      | dispatcher | guest | timer => rfl
  | shutdown | openScope | openChild | cancel | plan | disturb | rearrange | pass => rfl

omit [Trade ε τ ρ] in
/-- Nothing that is handed in is accepted. -/
theorem not_accepted_handInNotes (own : Nat) (tasks : List τ) (batch : Batch τ ρ)
    {floor : Floor ε τ ρ} (shut : floor.shut = true) {ticket : Nat} :
    (ticket, .answered (.ok ())) ∉ floor.handInNotes own batch tasks := by
  induction tasks generalizing batch floor with
  | nil => exact List.not_mem_nil
  | cons task rest ih =>
      have issued_shut : (floor.issue batch.scope task).1.shut = true := shut
      have refused_shut : ((floor.issue batch.scope task).1.reject
          (floor.issue batch.scope task).2 .poolShutdown).shut = true := shut
      rw [handInNotes]
      dsimp only
      rw [offer_eq_of_shut issued_shut]
      rintro (_ | ⟨_, _ | ⟨_, member⟩⟩)
      exact ih _ refused_shut member

omit [Trade ε τ ρ] in
/-- A submission that still waits is accepted only if room was promised to it. -/
theorem mem_granted_of_accepted {own : Nat} {job : Job τ} {wait : Span} {due : Nat}
    {next : Floor ε τ ρ} (offered : floor.offerAgain own job wait due = (next, some (.ok ()))) :
    own ∈ floor.granted := by
  rcases floor.offerAgain_cases job own wait due with
    ⟨_, offerEq⟩ | ⟨_, granted, _⟩ | ⟨_, _, _, offerEq⟩ | ⟨_, _, _, offerEq⟩
  · cases offerEq.symm.trans offered
  · exact granted
  · cases offerEq.symm.trans offered
  · cases offerEq.symm.trans offered

omit [Trade ε τ ρ] in
theorem promised_of_attendNotes (shut : floor.shut = true) {own ticket : Nat}
    (accepted : (ticket, .answered (.ok ())) ∈ floor.attendNotes own) : floor.Promised ticket := by
  unfold attendNotes at accepted
  cases found : floor.callers[own]? with
  | none =>
      rw [found] at accepted
      cases accepted
  | some state =>
      rw [found] at accepted
      cases state with
      | offering job wait due =>
          have inRange := (List.getElem?_eq_some_iff.mp found).1
          dsimp only at accepted
          unfold offeringTurn at accepted
          rcases offered : floor.offerAgain own job wait due with ⟨next, _ | answer⟩
          · rw [offered, offerAgain_waits _ _ offered] at accepted
            dsimp only at accepted
            rw [answer?, found] at accepted
            cases accepted
          · have still : own < next.callers.length := by
              rwa [(offerAgain_settles _ _ offered).staff.callers]
            rw [offered] at accepted
            dsimp only at accepted
            rw [answer?_setCaller still] at accepted
            cases List.mem_singleton.mp accepted
            exact ⟨own, mem_granted_of_accepted offered, due, _, found, rfl⟩
      | batching batch =>
          dsimp only at accepted
          unfold batchNotes at accepted
          cases stage : batch.stage with
          | joining =>
              rw [stage] at accepted
              cases accepted
          | offering job due rest =>
              rw [stage] at accepted
              dsimp only at accepted
              have claims : floor.Claims own job.ticket due := by
                refine ⟨_, found, ?_⟩
                rw [Caller.claim?, stage]
              rcases offered : floor.offerAgain own job batch.wait due with ⟨next, _ | answer⟩
              · rw [offered] at accepted
                cases accepted
              · have still_shut : (next.setCaller own
                    (.batching { batch with stage := .joining })).shut = true :=
                  (visits_offerAgain claims offered).shut.trans shut
                rw [offered] at accepted
                rcases List.mem_cons.mp accepted with same | later
                · cases same
                  exact ⟨own, mem_granted_of_accepted offered, due, claims⟩
                · exact absurd later (not_accepted_handInNotes own rest _ still_shut)
      | offered | batched | closing | closed => cases accepted

/-- Only jobs to which room was promised are accepted. -/
theorem promised_of_accepted (shut : floor.shut = true) {ticket : Nat}
    (accepted : (ticket, .answered (.ok ())) ∈ floor.notes event) : floor.Promised ticket := by
  cases event with
  | submit scope task =>
      have refused : (floor.issue scope task).1.offerNow (floor.issue scope task).2 =
          ((floor.issue scope task).1.reject (floor.issue scope task).2 .poolShutdown,
            .error .poolShutdown) := if_pos shut
      change _ ∈ [_, (floor.nextTicket, Note.answered
        ((floor.issue scope task).1.offerNow (floor.issue scope task).2).2)] at accepted
      rw [refused] at accepted
      rcases accepted with _ | ⟨_, _ | ⟨_, none⟩⟩
      cases none
  | submitWithin wait scope task =>
      have entered_shut : (floor.entered wait scope task).shut = true := shut
      have inRange : floor.callers.length < (floor.callers ++
          [Caller.offering (ρ := ρ) (floor.issue scope task).2 wait
            (floor.agenda.dueAfter wait)]).length := by simp
      change _ ∈ _ :: answerNotes _ (((floor.submitWithin wait scope task).1.answer?
        (floor.submitWithin wait scope task).2.2).map Prod.fst) at accepted
      rw [submitWithin_eq, offer_eq_of_shut entered_shut] at accepted
      dsimp only at accepted
      rw [answer?_setCaller inRange] at accepted
      rcases accepted with _ | ⟨_, _ | ⟨_, none⟩⟩
      cases none
  | executeBatch wait scope tasks =>
      have entered_shut :
          (floor.enter (.batching { scope := scope, wait := wait })).1.shut = true := shut
      exact absurd accepted (not_accepted_handInNotes floor.callers.length tasks _ entered_shut)
  | turn actor =>
      cases actor with
      | worker index =>
          have told := History.mem_accepted.mpr accepted
          change ticket ∈ History.accepted ((floor.unready (.worker index)).workNotes index) at told
          rw [accepted_workNotes] at told
          cases told
      | caller number =>
          have resting_shut : (floor.unready (.caller number)).shut = true := shut
          exact promised_of_attendNotes resting_shut accepted
      | dispatcher | guest | timer => cases accepted
  | shutdown | openScope | openChild | cancel | plan | disturb | rearrange | pass => cases accepted

end Notes

/-! ## Runs of a pool that is shut down -/

section Runs

variable [Trade ε τ ρ] {history later : History τ ρ} {start next : Floor ε τ ρ}
  (run : Run start later next) (arises : Arises history start) (shut : start.shut = true)

include run arises shut

/-- What is accepted later was promised room before. -/
theorem Run.promised {ticket : Nat} (accepted : (ticket, .answered (.ok ())) ∈ later) :
    start.Promised ticket := by
  induction run with
  | refl => cases accepted
  | tail event earlier allowed ih =>
      rcases List.mem_append.mp accepted with before | now
      · exact ih before
      · have ebbs := earlier.ebbs arises shut
        exact ebbs.promised (promised_of_accepted (ebbs.shut.trans shut) now)

theorem Run.roused (roused : start.Roused) : next.Roused := by
  induction run with
  | refl => exact roused
  | tail event earlier allowed ih =>
      exact ih.after ((earlier.ebbs arises shut).shut.trans shut) (arises.trans earlier).alert
        allowed

/-- The jobs that are left are among those that were run at the start. -/
theorem Run.drains (roused : start.Roused) : next.Drains (start.running history) where
  shut := (run.ebbs arises shut).shut.trans shut
  alert := (arises.trans run).alert
  roused := run.roused arises shut roused
  left := by
    intro ticket occupied
    have before : start.Occupies ticket := (run.ebbs arises shut).occupies ticket occupied
    obtain ⟨job, seated, rfl⟩ := occupied
    refine ⟨arises.sound.accounted.mem_running_iff.mpr before, ?_⟩
    have here := mem_whereabouts_of_busy seated
    exact isPending_iff.mp ((arises.trans run).sound.accounted.isPending here nofun)
  ended := by
    intro ticket member
    obtain ⟨issued, known⟩ := List.mem_filter.mp member
    obtain ⟨pending, begun⟩ := Bool.and_eq_true_iff.mp known
    have accounted := (arises.trans run).sound.accounted
    have pays := (run.ebbs arises shut).pays
    have born : ticket < next.nextTicket :=
      Nat.lt_of_lt_of_le (List.mem_range.mp issued) pays.nextTicket
    have begun_still : (history ++ later).hasBegun ticket = true := by
      rw [History.hasBegun, History.story_append, List.any_append]
      exact Bool.or_eq_true_iff.mpr (.inl begun)
    cases undelivered : next.isPending ticket with
    | true =>
        have running : ticket ∈ next.running (history ++ later) := by
          refine List.mem_filter.mpr ⟨List.mem_range.mpr born, ?_⟩
          rw [undelivered, begun_still]
          rfl
        exact .inl (accounted.mem_running_iff.mp running)
    | false =>
        rw [isPending, Option.isNone_eq_false_iff, Option.isSome_iff_exists] at undelivered
        obtain ⟨delivery, delivered⟩ := undelivered
        obtain ⟨delivered, same⟩ := exists_delivery_of_outcome? delivered
        refine .inr ⟨delivery, delivered, same, ?_⟩
        obtain ⟨new, deliveries, since⟩ := pays.deliveries
        rw [deliveries] at delivered
        rcases List.mem_append.mp delivered with isNew | isOld
        · exact (since delivery isNew).2.2
        · exact absurd same (isPending_iff.mp pending delivery isOld)

theorem Run.awaits {number due : Nat} {limit : Span} (roused : start.Roused)
    (awaits : Awaits number limit due (start.running history) start) :
    Awaits number limit due (start.running history) next := by
  induction run with
  | refl => exact awaits
  | tail event earlier allowed ih => exact ih.after (earlier.drains arises shut roused) allowed

end Runs

/-! ## What becomes of a job -/

/-- The tickets of the jobs that have neither begun nor ended. -/
def unbegun (history : History τ ρ) (floor : Floor ε τ ρ) : List Nat :=
  (List.range floor.nextTicket).filter fun ticket =>
    floor.isPending ticket && !history.hasBegun ticket

/-- Whoever waits for room with the job with a ticket has not lost patience. -/
def HasPatience (floor : Floor ε τ ρ) (ticket : Nat) : Prop :=
  ∀ number due, floor.Claims number ticket due → floor.now < due

/-- A job that was not begun ends with the shutdown, and so does its submission if no room
was promised to it. -/
structure Strands (later : History τ ρ) (ticket : Nat) (floor next : Floor ε τ ρ) : Prop where
  outcome : ∀ delivery ∈ next.deliveries, delivery.ticket = ticket →
    delivery.outcome = .error .poolShutdown
  delivered : next.agenda.ready = [] → ∃ delivery ∈ next.deliveries, delivery.ticket = ticket
  answer : ¬ floor.Promised ticket → ∀ answer, (ticket, .answered answer) ∈ later →
    answer = .error .poolShutdown

/-- A submission that was refused has the refusal for its outcome. -/
theorem Accounted.delivered_of_refused {history : History τ ρ} {floor : Floor ε τ ρ}
    (accounted : Accounted history floor) {ticket : Nat} {failure : Failure}
    (refused : (ticket, .answered (.error failure)) ∈ history) :
    ∃ delivery ∈ floor.deliveries,
      delivery.ticket = ticket ∧ delivery.outcome = .error failure := by
  have told := History.mem_story.mpr refused
  obtain ⟨place, here⟩ := accounted.exists_place (accounted.told_lt refused)
  have fits := accounted.fits _ here
  generalize history.story ticket = story at told fits
  cases place with
  | offered job | queued job | handed job =>
      cases fits
      simp at told
  | running scope =>
      obtain ⟨job, _, rfl⟩ := fits
      simp at told
  | delivered outcome =>
      obtain ⟨job, ending⟩ := fits
      cases ending with
      | refused other =>
          obtain rfl : failure = other := by simpa using told
          exact exists_delivery_of_place here
      | skipped | stranded | abandoned | finished => simp at told

section Fates

variable [Trade ε τ ρ] {history later : History τ ρ} {start next : Floor ε τ ρ}
  (run : Run start later next) (arises : Arises history start) (shut : start.shut = true)
  {ticket : Nat}

include run arises shut

theorem Run.strands (roused : start.Roused) (unbegun : ticket ∈ start.unbegun history)
    (patience : start.HasPatience ticket) : Strands later ticket start next := by
  obtain ⟨issued, known⟩ := List.mem_filter.mp unbegun
  obtain ⟨pending, notBegun⟩ := Bool.and_eq_true_iff.mp known
  have born : ticket < start.nextTicket := List.mem_range.mp issued
  have ebbs := run.ebbs arises shut
  have accounted := (arises.trans run).sound.accounted
  have drains := run.drains arises shut roused
  have unoccupied : ¬ start.Occupies ticket := by
    intro occupied
    have running := arises.sound.accounted.mem_running_iff.mpr occupied
    have begun := (Bool.and_eq_true_iff.mp (List.mem_filter.mp running).2).2
    rw [begun] at notBegun
    cases notBegun
  have outcome : ∀ delivery ∈ next.deliveries, delivery.ticket = ticket →
      delivery.outcome = .error .poolShutdown := by
    intro delivery delivered same
    obtain ⟨new, deliveries, since⟩ := ebbs.pays.deliveries
    rw [deliveries] at delivered
    rcases List.mem_append.mp delivered with isNew | isOld
    · obtain ⟨stranded | occupied | ⟨_, number, due, past, claims⟩, _⟩ := since delivery isNew
      · exact stranded
      · exact absurd (same ▸ occupied) unoccupied
      · exact absurd (patience number due (same ▸ claims)) (Nat.not_lt_of_le past)
    · exact absurd same (isPending_iff.mp pending delivery isOld)
  refine ⟨outcome, ?_, ?_⟩
  · intro quiet
    by_contra undelivered
    push Not at undelivered
    have dispatched := drains.alert.dispatching_eq_false drains.shut quiet
    have standing := accounted.standing (Nat.lt_of_lt_of_le born ebbs.pays.nextTicket)
      (isPending_iff.mpr undelivered)
    generalize (history ++ later).story ticket = story at standing
    cases standing with
    | offered present wants =>
        obtain ⟨number, found⟩ := List.mem_iff_getElem?.mp present
        rcases drains.alert.attended (.caller number) nofun _ found
            (Caller.wantsRoom_of_mem_places wants) with
          ⟨dispatches, _⟩ | ⟨_, ready⟩
        · cases dispatches.symm.trans dispatched
        · exact absurd ready (Agenda.notMem_of_quiet quiet _)
    | queued listed =>
        rw [(drains.alert.stopped dispatched).2] at listed
        cases listed
    | handed seated => exact drains.alert.not_handed quiet _ seated
    | running seated same => exact unoccupied (ebbs.occupies ticket ⟨_, seated, same⟩)
  · intro unpromised answer answered
    cases answer with
    | ok => exact absurd (run.promised arises shut answered) unpromised
    | error failure =>
        obtain ⟨delivery, delivered, same, failureEq⟩ :=
          accounted.delivered_of_refused (List.mem_append_right _ answered)
        exact congrArg _ (Except.error.inj (failureEq.symm.trans (outcome delivery delivered same)))

end Fates

/-! ## The shutdown -/

/-- The pool when a shutdown with some patience has begun. -/
def closing (limit : Span) (floor : Floor ε τ ρ) : Floor ε τ ρ :=
  (floor.shutting.enter (.closing limit (floor.agenda.dueAfter limit))).1.onAgenda
    (·.setAlarm (floor.agenda.dueAfter limit) (.caller floor.callers.length))

section Closing

variable {floor : Floor ε τ ρ} {limit : Span}

end Closing

/-! ## The law -/

/-- How much later than now an instant is. -/
def elapsed (instant : Nat) (floor : Floor ε τ ρ) : Span := Span.ofMillis (instant - floor.now)

/-- A task that takes 50 ms is run, a second one is queued, and a third one waits for room. -/
def occupiedEvents : List (Event DrillGround Drill) :=
  [.openScope, .submit 0 (slowDrill 50 7), .turn .dispatcher, .turn (.worker 0),
    .submit 0 soloDrill, .submitWithin (Span.ofMillis 100) 0 soloDrill]

/-- A job that goes on for 2 ms is too late for a patience of 1.5 ms, though both are over at the
same instant of the clock and the worker acts first. -/
example :
    (soloPool.afterAll [.openScope, .submit 0 (slowDrill 2 1), .turn .dispatcher,
      .turn (.worker 0), .shutdown ⟨1500000⟩, .turn .dispatcher, .turn (.caller 0), .pass 2,
      .turn (.worker 0), .turn (.caller 0)]).answer? 0 =
        some (.error (.deadlineExceeded ⟨1500000⟩), 2) :=
  rfl

/-! ## Where a shutdown is less exact than its patience -/

end RiskGate.Pool.Floor
