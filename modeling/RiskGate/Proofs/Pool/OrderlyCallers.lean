import RiskGate.Proofs.Pool.FirstCome

/-!
# Callers keep the order of jobs

A submission is accepted at once only if nobody waits for room, and otherwise when it is its
turn.  A batch hands its jobs in one after another, so that the ones that are accepted are
accepted in their order, and at most one of them waits.
-/

namespace RiskGate.Pool

open Schedule (Actor Agenda)

variable {ε τ ρ : Type}

namespace Floor

/-- Notes of a submission with patience. -/
def submitWithinNotes (wait : Span) (scope : Nat) (task : τ) (floor : Floor ε τ ρ) :
    History τ ρ :=
  (floor.nextTicket, .issued (floor.issue scope task).2) ::
    answerNotes floor.nextTicket (((floor.submitWithin wait scope task).1.answer?
      (floor.submitWithin wait scope task).2.2).map Prod.fst)

theorem nextTicket_offer {own : Nat} {job : Job τ} {wait : Span} {floor next : Floor ε τ ρ}
    {answer : Option (Outcome Unit)} (offered : floor.offer own job wait = (next, answer)) :
    next.nextTicket = floor.nextTicket := by
  cases answer with
  | none => exact (offer_waits _ _ offered).1.nextTicket
  | some answer => exact (offer_settles _ _ offered).staff.nextTicket

/-- The jobs of a batch are new ones. -/
theorem handIn_issued_ge (own : Nat) (tasks : List τ) (batch : Batch τ ρ) (floor : Floor ε τ ρ) :
    ∀ ticket ∈ (floor.handInNotes own batch tasks).tickets Note.isIssue,
      floor.nextTicket ≤ ticket := by
  induction tasks generalizing batch floor with
  | nil => exact fun _ member => absurd member List.not_mem_nil
  | cons task rest ih =>
      rw [handInNotes]
      dsimp only
      rcases offered : (floor.issue batch.scope task).1.offer own
        (floor.issue batch.scope task).2 batch.wait with ⟨next, _ | answer⟩
      · intro ticket member
        exact Nat.le_of_eq (List.mem_singleton.mp member).symm
      · intro ticket member
        rcases List.mem_cons.mp member with same | later
        · exact Nat.le_of_eq same.symm
        · have onward : floor.nextTicket + 1 = next.nextTicket := (nextTicket_offer offered).symm
          have := ih _ next ticket later
          omega

namespace Ordered

variable {accepted begun waited : List Nat} {floor : Floor ε τ ρ} {own : Nat}

/-! ## Submissions -/

/-- Nobody awaits a job that was not made yet. -/
theorem unaware {aside : Option Actor} (ordered : Ordered aside accepted begun waited floor)
    {ticket : Nat} (fresh : floor.nextTicket ≤ ticket) :
    ∀ state, floor.callers[own]? = some state → state.awaits ticket = false := by
  intro state found
  cases state with
  | batching batch =>
      cases stage : batch.stage with
      | offering => simp [Caller.awaits, stage]
      | joining =>
          have absent : ticket ∉ batch.tickets := fun member =>
            Nat.not_le_of_lt (ordered.lined.told own batch found ticket member) fresh
          simp [Caller.awaits, stage, absent]
  | offering | offered | batched | closing | closed => rfl

theorem submit (ordered : Ordered none accepted begun waited floor)
    (dispatching : floor.shut = false → floor.dispatching = true) (scope : Nat) (task : τ) :
    Ordered none
      (accepted ++ History.accepted [((floor.issue scope task).2.ticket,
        (.answered (floor.submit scope task).2.2 : Note τ ρ))]) begun waited
      (floor.submit scope task).1 := by
  have issued := ordered.issue scope task
  have refused : ∀ failure,
      Ordered none (accepted ++ []) begun waited
        ((floor.issue scope task).1.reject (floor.issue scope task).2 failure) := by
    intro failure
    rw [List.append_nil]
    exact issued.reject (fun _ _ same => nomatch same) failure
  unfold Floor.submit
  dsimp only
  rw [offerNow]
  split
  · exact refused _
  next opened =>
    have open_ : floor.shut = false := (Bool.not_eq_true _).mp opened
    split
    · exact issued.takePlace nofun (dispatching open_) (Nat.lt_succ_self _) ordered.fresh.2
    · exact refused _

theorem submitWithin (ordered : Ordered none accepted begun waited floor)
    (dispatching : floor.shut = false → floor.dispatching = true) (wait : Span) (scope : Nat)
    (task : τ) :
    Ordered none (accepted ++ History.accepted (floor.submitWithinNotes wait scope task)) begun
      (waited ++ History.unanswered (floor.submitWithinNotes wait scope task))
      (floor.submitWithin wait scope task).1 := by
  let newcomer : Caller τ ρ :=
    .offering (floor.issue scope task).2 wait (floor.agenda.dueAfter wait)
  have issued := ordered.issue scope task
  have entered : Ordered (some (.caller floor.callers.length)) accepted begun waited
      (floor.entered wait scope task) := issued.enter newcomer nofun
  have detached : Detached floor.callers.length (floor.entered wait scope task) :=
    issued.newcomer newcomer
  have found : (floor.entered wait scope task).callers[floor.callers.length]? = some newcomer :=
    List.getElem?_concat_length
  have inRange := (List.getElem?_eq_some_iff.mp found).1
  have given : (floor.issue scope task).2.ticket < (floor.entered wait scope task).nextTicket :=
    Nat.lt_succ_self _
  rw [submitWithinNotes, submitWithin_eq]
  rcases offered : (floor.entered wait scope task).offer floor.callers.length
    (floor.issue scope task).2 wait with ⟨next, _ | answer⟩
  · have still : next.callers[floor.callers.length]? = some newcomer := by
      rw [(Floor.offer_waits _ _ offered).1.callers]
      exact found
    have unanswered : next.answer? floor.callers.length = none := by
      rw [answer?, still]
    have waiting := entered.offer_waits dispatching given ordered.fresh.1 detached inRange
      (show newcomer.wantsRoom = true from rfl) rfl nofun offered
    have same : next.setCaller floor.callers.length newcomer = next := by
      rw [Floor.setCaller, ← (List.getElem?_eq_some_iff.mp still).2, List.set_getElem_self]
    rw [same] at waiting
    dsimp only
    rw [unanswered]
    change Ordered none (accepted ++ []) begun (waited ++ [_]) next
    rw [List.append_nil]
    exact waiting
  · have unaware : ∀ state, (floor.entered wait scope task).callers[floor.callers.length]? =
        some state → state.awaits (floor.issue scope task).2.ticket = false := by
      intro state stateFound
      cases found.symm.trans stateFound
      rfl
    obtain ⟨settled, alone⟩ :=
      entered.offer_settles dispatching given ordered.fresh.2 unaware detached offered
    have still : floor.callers.length < next.callers.length := by
      rw [(Floor.offer_settles _ _ offered).staff.callers]
      exact inRange
    have unanswered := History.unanswered_cons_answered (ρ := ρ) floor.nextTicket
      (floor.issue scope task).2 answer []
    dsimp only
    rw [answer?_setCaller still, Option.map_some, answerNotes, unanswered, History.unanswered_nil,
      List.append_nil, History.accepted_cons]
    exact settled.conclude alone.aloof (.offered answer next.now) rfl (by rintro _ ⟨⟩)

/-- Going on with a submission of a single task. -/
theorem offeringTurn (ordered : Ordered (some (.caller own)) accepted begun waited floor)
    {job : Job τ} {wait : Span} {due : Nat}
    (found : floor.callers[own]? = some (.offering job wait due))
    (issued : job.ticket < floor.nextTicket) :
    Ordered none
      (accepted ++ History.accepted (answerNotes job.ticket
        (((floor.offeringTurn own job wait due).answer? own).map Prod.fst) : History τ ρ)) begun
      (waited ++ History.unanswered (answerNotes job.ticket
        (((floor.offeringTurn own job wait due).answer? own).map Prod.fst) : History τ ρ))
      (floor.offeringTurn own job wait due) := by
  unfold Floor.offeringTurn
  rcases offered : floor.offerAgain own job wait due with ⟨next, _ | answer⟩
  · have unanswered : next.answer? own = none := by
      rw [Floor.offerAgain_waits _ _ offered, answer?, found]
    dsimp only
    rw [unanswered, Option.map_none, answerNotes, History.accepted_nil, History.unanswered_nil,
      List.append_nil, List.append_nil]
    exact ordered.offerAgain_waits offered
  · obtain ⟨settled, alone⟩ := ordered.offerAgain_settles found rfl rfl issued offered
    have inRange : own < next.callers.length := by
      rw [(Floor.offerAgain_settles _ _ offered).staff.callers]
      exact (List.getElem?_eq_some_iff.mp found).1
    dsimp only
    rw [answer?_setCaller inRange, Option.map_some, answerNotes,
      History.unanswered_answered answer List.not_mem_nil, History.unanswered_nil, List.append_nil]
    exact settled.conclude alone.aloof (.offered answer next.now) rfl (by rintro _ ⟨⟩)

/-! ## Batches -/

/-- A batch looks at its outcomes. -/
theorem join (ordered : Ordered (some (.caller own)) accepted begun waited floor)
    (aloof : Aloof own floor) (inRange : own < floor.callers.length) {batch : Batch τ ρ}
    (told : ∀ ticket ∈ batch.tickets, ticket < floor.nextTicket) :
    Ordered none accepted begun waited (floor.join own batch) := by
  have released := ordered.release (.caller own)
  have ended : ∀ (last : Batch τ ρ) instant, Ordered none accepted begun waited
      ((floor.onAgenda (·.release (.caller own))).setCaller own (.batched last instant)) :=
    fun last instant => released.conclude aloof (.batched last instant) rfl nofun
  rcases floor.join_cases own batch with ⟨_, joinEq⟩ | ⟨_, _, joinEq⟩ | ⟨_, _, joinEq⟩
  · rw [joinEq]
    exact ended _ _
  · rw [joinEq]
    exact ended _ _
  · rw [joinEq]
    have joining : Ordered none accepted begun waited
        ((floor.onAgenda (·.release (.caller own))).setCaller own
          (.batching (floor.pickUp batch))) := by
      refine (released.setCaller aloof ?_ ?_).leaveCaller aloof
      · intro wants
        cases wants
      · rintro last same
        cases same
        exact told
    exact joining.watch batch.scope nofun ⟨_, List.getElem?_set_self inRange, rfl⟩

/-- A batch hands in tasks until one of its jobs has to wait, or all are handed in. -/
theorem handIn (tasks : List τ) {accepted begun waited : List Nat} {batch : Batch τ ρ}
    {floor : Floor ε τ ρ} (ordered : Ordered (some (.caller own)) accepted begun waited floor)
    (dispatching : floor.shut = false → floor.dispatching = true) (detached : Detached own floor)
    (inRange : own < floor.callers.length)
    (told : ∀ ticket ∈ batch.tickets, ticket < floor.nextTicket) :
    Ordered none (accepted ++ History.accepted (floor.handInNotes own batch tasks)) begun
      (waited ++ History.unanswered (floor.handInNotes own batch tasks))
      (floor.handIn own batch tasks) := by
  induction tasks generalizing accepted waited batch floor with
  | nil =>
      rw [handInNotes, History.accepted_nil, History.unanswered_nil, List.append_nil,
        List.append_nil]
      exact ordered.join detached.aloof inRange told
  | cons task rest ih =>
      have issued := ordered.issue batch.scope task
      have given : (floor.issue batch.scope task).2.ticket <
          (floor.issue batch.scope task).1.nextTicket := Nat.lt_succ_self _
      have alone : Detached own (floor.issue batch.scope task).1 := detached.frame rfl rfl rfl rfl
      have told : ∀ ticket ∈ batch.tickets ++ [floor.nextTicket],
          ticket < floor.nextTicket + 1 := by
        intro ticket member
        rcases List.mem_append.mp member with old | new
        · exact Nat.lt_succ_of_lt (told ticket old)
        · rw [List.mem_singleton.mp new]
          exact Nat.lt_succ_self _
      rw [handInNotes, Floor.handIn]
      dsimp only
      rcases offered : (floor.issue batch.scope task).1.offer own
        (floor.issue batch.scope task).2 batch.wait with ⟨next, _ | answer⟩
      · change Ordered none (accepted ++ []) begun (waited ++ [_]) _
        rw [List.append_nil]
        refine issued.offer_waits dispatching given ordered.fresh.1 alone inRange
          (by rfl) (by rfl) ?_ offered
        intro last same
        cases same
        exact told
      · obtain ⟨settled, next_alone⟩ := issued.offer_settles dispatching given ordered.fresh.2
          (ordered.unaware (Nat.le_refl _)) alone offered
        have staff := (Floor.offer_settles _ _ offered).staff
        dsimp only
        rw [History.unanswered_cons_answered, History.accepted_cons_issued, History.accepted_cons,
          ← List.append_assoc]
        refine ih settled ?_ next_alone ?_ ?_
        · rw [staff.shut, staff.dispatching]
          exact dispatching
        · rw [staff.callers]
          exact inRange
        · rw [staff.nextTicket]
          exact told

/-- Going on with a batch. -/
theorem batchTurn (ordered : Ordered (some (.caller own)) accepted begun waited floor)
    (dispatching : floor.shut = false → floor.dispatching = true) {batch : Batch τ ρ}
    (found : floor.callers[own]? = some (.batching batch))
    (issued : ∀ job due rest,
      batch.stage = .offering job due rest → job.ticket < floor.nextTicket) :
    Ordered none (accepted ++ History.accepted (floor.batchNotes own batch)) begun
      (waited ++ History.unanswered (floor.batchNotes own batch)) (floor.batchTurn own batch) := by
  have inRange := (List.getElem?_eq_some_iff.mp found).1
  have told := ordered.lined.told own batch found
  unfold batchNotes Floor.batchTurn
  cases stage : batch.stage with
  | joining =>
      dsimp only
      rw [History.accepted_nil, History.unanswered_nil, List.append_nil, List.append_nil]
      refine ordered.join (ordered.aloof_of_served ?_) inRange told
      intro state stateFound
      cases found.symm.trans stateFound
      rw [Caller.wantsRoom, stage]
  | offering job due rest =>
      dsimp only
      rcases offered : floor.offerAgain own job batch.wait due with ⟨next, _ | answer⟩
      · dsimp only
        rw [History.accepted_nil, History.unanswered_nil, List.append_nil, List.append_nil]
        exact ordered.offerAgain_waits offered
      · have wants : (Caller.batching batch : Caller τ ρ).wantsRoom = true := by
          rw [Caller.wantsRoom, stage]
        have offers : (Caller.batching batch : Caller τ ρ).offered? = some job.ticket := by
          rw [Caller.offered?, stage]
        have given := issued job due rest stage
        obtain ⟨settled, alone⟩ := ordered.offerAgain_settles found wants offers given offered
        have staff := (Floor.offerAgain_settles _ _ offered).staff
        have told : ∀ ticket ∈ batch.tickets, ticket < next.nextTicket := by
          rw [staff.nextTicket]
          exact told
        let joining : Batch τ ρ := { batch with stage := .joining }
        have resumed : Ordered (some (.caller own))
            (accepted ++ History.accepted [(job.ticket, (.answered answer : Note τ ρ))]) begun
            waited (next.setCaller own (.batching joining)) := by
          refine settled.setCaller alone.aloof (fun wants => absurd wants Bool.false_ne_true) ?_
          rintro last same
          cases same
          exact told
        have fresh : job.ticket ∉ ((next.setCaller own (.batching joining)).handInNotes own joining
            rest).tickets Note.isIssue := by
          intro member
          have late : next.nextTicket ≤ job.ticket :=
            handIn_issued_ge own rest joining (next.setCaller own (.batching joining)) _ member
          rw [staff.nextTicket] at late
          exact Nat.not_le_of_lt given late
        dsimp only
        rw [History.unanswered_answered answer fresh, History.accepted_cons, ← List.append_assoc]
        refine resumed.handIn rest ?_ (alone.frame rfl rfl rfl rfl) ?_ told
        · change next.shut = false → next.dispatching = true
          rw [staff.shut, staff.dispatching]
          exact dispatching
        · change own < (next.callers.set own _).length
          rw [List.length_set, staff.callers]
          exact inRange

theorem executeBatch (ordered : Ordered none accepted begun waited floor)
    (dispatching : floor.shut = false → floor.dispatching = true) (wait : Span) (scope : Nat)
    (tasks : List τ) :
    let batch : Batch τ ρ := { scope := scope, wait := wait }
    let notes := (floor.enter (.batching batch)).1.handInNotes floor.callers.length batch tasks
    Ordered none (accepted ++ History.accepted notes) begun (waited ++ History.unanswered notes)
      (floor.executeBatch wait scope tasks).1 := by
  intro batch notes
  have entered : Ordered (some (.caller floor.callers.length)) accepted begun waited
      (floor.enter (.batching batch)).1 := by
    refine ordered.enter (.batching batch) ?_
    rintro last same
    cases same
    exact fun _ none => absurd none List.not_mem_nil
  have inRange : floor.callers.length < (floor.enter (.batching batch)).1.callers.length :=
    (List.getElem?_eq_some_iff.mp (List.getElem?_concat_length (l := floor.callers))).1
  exact entered.handIn tasks dispatching (ordered.newcomer _) inRange
    fun _ none => absurd none List.not_mem_nil

/-! ## Shutdowns -/

theorem closingTurn (ordered : Ordered (some (.caller own)) accepted begun waited floor)
    {limit : Span} {due : Nat} (found : floor.callers[own]? = some (.closing limit due)) :
    Ordered none accepted begun waited (floor.closingTurn own limit due) := by
  have aloof : Aloof own floor := by
    apply ordered.aloof_of_served
    intro state stateFound
    cases found.symm.trans stateFound
    rfl
  have answered : ∀ answer, Ordered none accepted begun waited
      ((floor.onAgenda (·.release (.caller own))).setCaller own (.closed answer floor.now)) :=
    fun answer =>
      (ordered.release (.caller own)).conclude aloof (.closed answer floor.now) rfl nofun
  unfold Floor.closingTurn
  dsimp only
  split
  · exact answered _
  · split
    · exact answered _
    · exact ordered.leaveCaller aloof

/-- Those who rest in a pool that is shut down are woken. -/
theorem shutting (ordered : Ordered none accepted begun waited floor) :
    Ordered none accepted begun waited floor.shutting := by
  have shut : Ordered none accepted begun waited { floor with shut := true } :=
    ⟨ordered.lined.shutDown, ordered.given, ordered.begun_accepted, ordered.waited_accepted, nofun,
      fun dispatches => (ordered.room dispatches).frame rfl rfl rfl rfl nofun⟩
  refine (shut.wakeAll ?_).wakeDispatcher nofun
  intro actor member
  obtain ⟨index, _, rfl⟩ := List.mem_map.mp member
  exact ⟨nofun, nofun⟩

theorem shutdown (ordered : Ordered none accepted begun waited floor) (limit : Span) :
    Ordered none accepted begun waited (floor.shutdown limit).1 := by
  have closed : ∀ {floor : Floor ε τ ρ} answer instant,
      Ordered none accepted begun waited floor →
        Ordered none accepted begun waited (floor.enter (.closed answer instant)).1 :=
    fun answer instant ordered =>
      (ordered.enter (.closed answer instant) nofun).leaveCaller (ordered.newcomer _).aloof
  rcases floor.shutdown_cases limit with ⟨_, shutEq⟩ | ⟨_, _, shutEq⟩ | ⟨_, _, shutEq⟩
  · rw [shutEq]
    exact closed _ _ ordered
  · rw [shutEq]
    exact closed _ _ ordered.shutting
  · rw [shutEq]
    have entered := ordered.shutting.enter (.closing limit (floor.agenda.dueAfter limit)) nofun
    have waiting := entered.leaveCaller (ordered.shutting.newcomer _).aloof
    exact waiting.setAlarm _ nofun (List.getElem?_eq_some_iff.mp List.getElem?_concat_length).1

end Ordered

end Floor

end RiskGate.Pool
