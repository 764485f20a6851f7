import RiskGate.Proofs.Pool.Provenance
import RiskGate.Proofs.Pool.Reporting

/-!
# Orders

An order is what a batch was asked to do: its tasks, its scope, and how long each of its
jobs may wait for room.  Each task becomes a job under a ticket of its own, and the
tickets of a batch stand in the order of its tasks.  What the batch reports at some place
is therefore explained by the story of the job that was made for the task at this place,
however the jobs of the pool are interleaved.

Other calls may go on at the same time, single submissions among them; nothing is asked of
their jobs.
-/

namespace RiskGate.Pool

open Schedule (Actor Agenda)

variable {ε τ ρ : Type}

/-! ## Answers and stories -/

/-- The answers that a submission with patience can have. -/
inductive Patient (wait : Span) : Outcome Unit → Prop where
  | accepted : Patient wait (.ok ())
  | late : Patient wait (.error (.submissionTimeout wait))
  | shut : Patient wait (.error .poolShutdown)

/-- The job was passed to a submission with patience, which was answered. -/
structure HandedIn (wait : Span) (history : History τ ρ) (job : Job τ) : Prop where
  issued : (job.ticket, .issued job) ∈ history
  answered : ∃ answer, (job.ticket, .answered answer) ∈ history ∧ Patient wait answer

theorem HandedIn.mono {wait : Span} {history later : History τ ρ} {job : Job τ}
    (handed : HandedIn wait history job) (told : ∀ entry ∈ history, entry ∈ later) :
    HandedIn wait later job := by
  obtain ⟨answer, answered, patient⟩ := handed.answered
  exact ⟨told _ handed.issued, answer, told _ answered, patient⟩

/-- How what a batch reports for a job is explained by the story of the job, as long as
the scope of the batch is not cancelled. -/
inductive Explains (wait : Span) (job : Job τ) : List (Note τ ρ) → Outcome ρ → Prop where
  /-- There was no room in time. -/
  | late : Explains wait job [.issued job, .answered (.error (.submissionTimeout wait))]
      (.error (.submissionTimeout wait))
  /-- The pool was shut down before the job was accepted. -/
  | refused : Explains wait job [.issued job, .answered (.error .poolShutdown)]
      (.error .poolShutdown)
  /-- The pool was shut down before the task was begun. -/
  | stranded : Explains wait job [.issued job, .answered (.ok ())] (.error .poolShutdown)
  /-- The task ended; the outcome is its own. -/
  | finished (outcome : Outcome ρ) :
      Explains wait job
        [.issued job, .answered (.ok ()), .invoked job.task, .yielded outcome] outcome

/-- What a batch is asked to do. -/
structure Order (τ : Type) where
  /-- How long each job may wait for room. -/
  wait : Span
  scope : Nat
  tasks : List τ

namespace Order

variable (order : Order τ)

/-- The job for a task of an order. -/
def job (ticket : Nat) (task : τ) : Job τ := ⟨ticket, order.scope, task⟩

/-- Jobs were handed in for the tasks of an order, one after another, up to those that are
left. -/
structure Covers (history : History τ ρ) (tickets : List Nat) (left : List τ) : Prop where
  ordered : tickets.Pairwise (· < ·)
  tasks : ∃ tasks, order.tasks = tasks ++ left ∧
    List.Forall₂ (fun ticket task => HandedIn order.wait history (order.job ticket task)) tickets
      tasks

/-- The outcomes of an order stand in the order of its tasks: each of them is explained by
the story of the job that was made for the task at its place. -/
structure Aligned (history : History τ ρ) (outcomes : List (Outcome ρ)) : Prop where
  length : outcomes.length = order.tasks.length
  explained : ∃ tickets : List Nat, tickets.Pairwise (· < ·) ∧
    tickets.length = order.tasks.length ∧
    ∀ (index ticket : Nat) (task : τ) (outcome : Outcome ρ),
      tickets[index]? = some ticket → order.tasks[index]? = some task →
        outcomes[index]? = some outcome →
          Explains order.wait (order.job ticket task) (history.story ticket) outcome

variable {order} {history later : History τ ρ} {tickets : List Nat} {left : List τ}

theorem Covers.nil : order.Covers history [] order.tasks :=
  ⟨.nil, [], rfl, .nil⟩

/-- An order without tasks has no outcomes. -/
theorem Aligned.nil (none : order.tasks = []) : order.Aligned history [] := by
  constructor
  · rw [none]
    rfl
  · refine ⟨[], .nil, ?_, ?_⟩
    · rw [none]
      rfl
    · intro index ticket task outcome stands
      cases stands

theorem Covers.mono (covers : order.Covers history tickets left)
    (told : ∀ entry ∈ history, entry ∈ later) : order.Covers later tickets left := by
  obtain ⟨tasks, tasksEq, handed⟩ := covers.tasks
  exact ⟨covers.ordered, tasks, tasksEq, handed.imp fun _ _ handed => handed.mono told⟩

/-- One more job was handed in. -/
theorem Covers.concat {task : τ} (covers : order.Covers history tickets (task :: left))
    {ticket : Nat} (behind : ∀ earlier ∈ tickets, earlier < ticket)
    (handed : HandedIn order.wait history (order.job ticket task)) :
    order.Covers history (tickets ++ [ticket]) left := by
  obtain ⟨tasks, tasksEq, earlier⟩ := covers.tasks
  refine ⟨?_, tasks ++ [task], by simp [tasksEq], List.rel_append earlier (.cons handed .nil)⟩
  rw [List.pairwise_append]
  refine ⟨covers.ordered, List.pairwise_singleton _ _, ?_⟩
  intro early member other isLast
  rw [List.mem_singleton.mp isLast]
  exact behind early member

theorem Covers.handed (covers : order.Covers history tickets []) {index ticket : Nat} {task : τ}
    (stands : tickets[index]? = some ticket) (given : order.tasks[index]? = some task) :
    HandedIn order.wait history (order.job ticket task) := by
  obtain ⟨tasks, tasksEq, handed⟩ := covers.tasks
  rw [List.append_nil] at tasksEq
  subst tasksEq
  obtain ⟨inside, rfl⟩ := List.getElem?_eq_some_iff.mp stands
  obtain ⟨within, rfl⟩ := List.getElem?_eq_some_iff.mp given
  exact handed.get inside within

theorem Covers.length (covers : order.Covers history tickets []) :
    tickets.length = order.tasks.length := by
  obtain ⟨tasks, tasksEq, handed⟩ := covers.tasks
  rw [tasksEq, List.append_nil]
  exact handed.length_eq

theorem Covers.issued (covers : order.Covers history tickets left) {ticket : Nat}
    (member : ticket ∈ tickets) : ∃ job : Job τ, job.ticket = ticket ∧
      (ticket, .issued job) ∈ history := by
  obtain ⟨tasks, _, handed⟩ := covers.tasks
  obtain ⟨index, inside, rfl⟩ := List.getElem_of_mem member
  have within : index < tasks.length := handed.length_eq ▸ inside
  exact ⟨_, rfl, (handed.get inside within).issued⟩

end Order

namespace Floor

/-- The story of a job that was handed in with patience explains its outcome. -/
theorem Ending.explains {floor : Floor ε τ ρ} {wait : Span} {history : History τ ρ}
    {job other : Job τ} {outcome : Outcome ρ} (handed : HandedIn wait history job)
    (ending : floor.Ending other (history.story job.ticket) outcome)
    (live : floor.isCancelled job.scope = false) :
    Explains wait job (history.story job.ticket) outcome := by
  have told : ∀ note, (job.ticket, note) ∈ history → note ∈ history.story job.ticket :=
    fun note member => List.mem_map.mpr ⟨_, List.mem_filter.mpr ⟨member, by simp⟩, rfl⟩
  obtain rfl := ending.issued_eq (told _ handed.issued)
  obtain ⟨answer, answered, patient⟩ := handed.answered
  have answerTold := told _ answered
  revert ending answerTold
  generalize history.story job.ticket = story
  intro ending answerTold
  cases ending with
  | refused failure =>
      obtain rfl : answer = .error failure := by simpa using answerTold
      cases patient with
      | late => exact .late
      | shut => exact .refused
  | skipped cancelled | abandoned cancelled =>
      rw [live] at cancelled
      cases cancelled
  | stranded => exact .stranded
  | finished => exact .finished _

/-! ## Answers to submissions -/

section Answers

variable {floor next : Floor ε τ ρ} {job : Job τ} {caller : Nat} {wait : Span} {due : Nat}
variable {answer : Outcome Unit}

theorem offer_patient (offered : floor.offer caller job wait = (next, some answer)) :
    Patient wait answer := by
  rcases floor.offer_cases job caller wait with
    ⟨_, offerEq⟩ | ⟨_, _, offerEq⟩ | ⟨_, _, _, offerEq⟩ | ⟨_, _, _, offerEq⟩
  · cases offerEq.symm.trans offered
    exact .shut
  · cases offerEq.symm.trans offered
    exact .accepted
  · cases offerEq.symm.trans offered
    exact .late
  · cases offerEq.symm.trans offered

theorem offerAgain_patient (offered : floor.offerAgain caller job wait due = (next, some answer)) :
    Patient wait answer := by
  rcases floor.offerAgain_cases job caller wait due with
    ⟨_, offerEq⟩ | ⟨_, _, offerEq⟩ | ⟨_, _, _, offerEq⟩ | ⟨_, _, _, offerEq⟩
  · cases offerEq.symm.trans offered
    exact .shut
  · cases offerEq.symm.trans offered
    exact .accepted
  · cases offerEq.symm.trans offered
    exact .late
  · cases offerEq.symm.trans offered

end Answers

/-! ## Orders that are carried out -/

/-- A batch was made for an order, and what it has picked up was delivered. -/
structure MadeFor (order : Order τ) (floor : Floor ε τ ρ) (batch : Batch τ ρ) : Prop where
  scope_eq : batch.scope = order.scope
  wait_eq : batch.wait = order.wait
  collects : Collects batch floor

/-- How far a caller is with an order. -/
inductive Serves (order : Order τ) (history : History τ ρ) (number : Nat) (floor : Floor ε τ ρ) :
    Prop where
  /-- The last job that was made waits for room, and nothing is picked up. -/
  | offering (batch : Batch τ ρ) (job : Job τ) (due : Nat) (rest : List τ) (earlier : List Nat)
      (found : floor.callers[number]? = some (.batching batch))
      (stage : batch.stage = .offering job due rest) (made : MadeFor order floor batch)
      (tickets : batch.tickets = earlier ++ [job.ticket])
      (covers : order.Covers history earlier (job.task :: rest))
      (scope_eq : job.scope = order.scope)
      (issued : (job.ticket, .issued job) ∈ history)
      (behind : ∀ ticket ∈ earlier, ticket < job.ticket) (fresh : batch.collected = [])
  /-- All jobs are handed in, and some outcome is not picked up. -/
  | joining (batch : Batch τ ρ) (found : floor.callers[number]? = some (.batching batch))
      (stage : batch.stage = .joining) (made : MadeFor order floor batch)
      (covers : order.Covers history batch.tickets [])
      (lacks : ∃ ticket ∈ batch.tickets, ∀ outcome, (ticket, outcome) ∉ batch.collected)
  /-- All jobs are handed in, and all outcomes are picked up or given up. -/
  | ended (batch : Batch τ ρ) (instant : Nat)
      (found : floor.callers[number]? = some (.batched batch instant))
      (made : MadeFor order floor batch) (covers : order.Covers history batch.tickets [])
      (complete : floor.isCancelled order.scope = true ∨
        ∀ ticket ∈ batch.tickets, ∃ outcome, (ticket, outcome) ∈ batch.collected)

section Serving

variable {order : Order τ} {history later : History τ ρ} {number : Nat}
variable {before after floor : Floor ε τ ρ}

theorem MadeFor.mono {batch : Batch τ ρ} (made : MadeFor order before batch)
    (delivered : ∀ delivery ∈ before.deliveries, delivery ∈ after.deliveries) :
    MadeFor order after batch where
  scope_eq := made.scope_eq
  wait_eq := made.wait_eq
  collects := by
    intro entry member
    obtain ⟨delivery, old, same⟩ := made.collects entry member
    exact ⟨delivery, delivered delivery old, same⟩

/-- An order goes on to be carried out while others act. -/
theorem Serves.mono (serves : Serves order history number before)
    (caller : after.callers[number]? = before.callers[number]?)
    (delivered : ∀ delivery ∈ before.deliveries, delivery ∈ after.deliveries)
    (cancelled : ∀ scope, before.isCancelled scope = true → after.isCancelled scope = true)
    (told : ∀ entry ∈ history, entry ∈ later) : Serves order later number after := by
  cases serves with
  | offering batch job due rest earlier found stage made tickets covers scope_eq issued behind
      fresh =>
      exact .offering batch job due rest earlier (caller.trans found) stage (made.mono delivered)
        tickets (covers.mono told) scope_eq (told _ issued) behind fresh
  | joining batch found stage made covers lacks =>
      exact .joining batch (caller.trans found) stage (made.mono delivered) (covers.mono told) lacks
  | ended batch instant found made covers complete =>
      exact .ended batch instant (caller.trans found) (made.mono delivered) (covers.mono told)
        (complete.imp_left (cancelled _))

theorem Serves.of_spares (serves : Serves order history number before)
    (spares : Spares number before after) (told : ∀ entry ∈ history, entry ∈ later) :
    Serves order later number after := by
  refine serves.mono spares.caller ?_ (fun _ => spares.isCancelled) told
  obtain ⟨new, deliveries, _⟩ := spares.deliveries
  intro delivery member
  rw [deliveries]
  exact List.mem_append_right _ member

theorem Serves.onAgenda (serves : Serves order history number floor) {change : Agenda → Agenda}
    (cancelled : ∀ scope ∈ floor.agenda.cancelled, scope ∈ (change floor.agenda).cancelled) :
    Serves order history number (floor.onAgenda change) :=
  serves.mono rfl (fun _ => id)
    (fun scope old => decide_eq_true (cancelled scope (of_decide_eq_true old))) fun _ => id

theorem Serves.inRange (serves : Serves order history number floor) :
    number < floor.callers.length := by
  cases serves with
  | offering _ _ _ _ _ found | joining _ found | ended _ _ found =>
      exact (List.getElem?_eq_some_iff.mp found).1

/-- A batch that has ended has a ticket for each task. -/
theorem Serves.tickets_length (serves : Serves order history number floor) {batch : Batch τ ρ}
    {instant : Nat} (ended : floor.callers[number]? = some (.batched batch instant)) :
    batch.tickets.length = order.tasks.length := by
  cases serves with
  | offering _ _ _ _ _ found | joining _ found => cases ended.symm.trans found
  | ended _ _ found _ covers =>
      cases ended.symm.trans found
      exact covers.length

/-- What is picked up was delivered. -/
theorem collects_pickUp (batch : Batch τ ρ) (floor : Floor ε τ ρ) :
    Collects (floor.pickUp batch) floor := by
  intro entry member
  obtain ⟨_, delivery, known, same⟩ := mem_gathered.mp member
  obtain ⟨delivered, ticketEq⟩ := exists_delivery_of_outcome? known
  exact ⟨delivery, delivered, ticketEq, same⟩

/-- Fewer outcomes than tickets leave a ticket without an outcome. -/
theorem exists_lacking {tickets : List Nat}
    (incomplete : (floor.gathered tickets).length ≠ tickets.length) :
    ∃ ticket ∈ tickets, ∀ outcome, (ticket, outcome) ∉ floor.gathered tickets := by
  by_contra all
  push Not at all
  apply incomplete
  apply List.filterMap_length_eq_length.mpr
  intro ticket member
  obtain ⟨outcome, gathered⟩ := all ticket member
  obtain ⟨_, delivery, known, _⟩ := mem_gathered.mp gathered
  have known : floor.outcome? ticket = some delivery := known
  rw [known]
  rfl

/-- All jobs are handed in. -/
theorem serves_join {old : Caller τ ρ} (found : floor.callers[number]? = some old)
    {batch : Batch τ ρ} (made : MadeFor order floor batch)
    (covers : order.Covers history batch.tickets []) :
    Serves order history number (floor.join number batch) := by
  have inRange : number < floor.callers.length := (List.getElem?_eq_some_iff.mp found).1
  have picked : MadeFor order floor (floor.pickUp batch) :=
    ⟨made.scope_eq, made.wait_eq, collects_pickUp batch floor⟩
  rcases floor.join_cases number batch with
    ⟨cancelled, joinEq⟩ | ⟨_, complete, joinEq⟩ | ⟨_, incomplete, joinEq⟩
  · rw [joinEq]
    exact .ended batch floor.now (List.getElem?_set_self inRange) (made.mono fun _ => id) covers
      (.inl (made.scope_eq ▸ cancelled))
  · rw [joinEq]
    exact .ended (floor.pickUp batch) floor.now (List.getElem?_set_self inRange)
      (picked.mono fun _ => id) covers (.inr fun _ member => exists_mem_gathered complete member)
  · rw [joinEq]
    exact .joining (floor.pickUp batch) (List.getElem?_set_self inRange) rfl
      (picked.mono fun _ => id) covers (exists_lacking incomplete)

/-- Jobs are handed in for the tasks that are left, one after another. -/
theorem serves_handIn (left : List τ) (batch : Batch τ ρ) {history : History τ ρ}
    {floor : Floor ε τ ρ} (sound : Sound history floor) {old : Caller τ ρ}
    (found : floor.callers[number]? = some old) (made : MadeFor order floor batch)
    (covers : order.Covers history batch.tickets left) (fresh : batch.collected = []) :
    Serves order (history ++ floor.handInNotes number batch left) number
      (floor.handIn number batch left) := by
  induction left generalizing batch history floor with
  | nil =>
      rw [handInNotes, List.append_nil]
      exact serves_join found made covers
  | cons task rest ih =>
      have behind : ∀ ticket ∈ batch.tickets, ticket < floor.nextTicket := by
        intro ticket member
        obtain ⟨job, _, issued⟩ := covers.issued member
        exact sound.accounted.told_lt issued
      have jobEq : (floor.issue batch.scope task).2 = order.job floor.nextTicket task :=
        congrArg (fun scope => Job.mk floor.nextTicket scope task) made.scope_eq
      have admits := admits_offer (floor.issue batch.scope task).1
        (floor.issue batch.scope task).2 number batch.wait
      rw [handIn, handInNotes]
      dsimp only
      rcases offered : (floor.issue batch.scope task).1.offer number
        (floor.issue batch.scope task).2 batch.wait with ⟨next, _ | answer⟩
      · rw [offered] at admits
        have inRange : number < next.callers.length := by
          rw [admits.staff.callers]
          exact (List.getElem?_eq_some_iff.mp found).1
        have kept : MadeFor order next batch := made.mono admits.deliveries
        exact .offering _ (floor.issue batch.scope task).2 _ rest batch.tickets
          (List.getElem?_set_self inRange) rfl ⟨kept.scope_eq, kept.wait_eq, kept.collects⟩ rfl
          (covers.mono fun _ => List.mem_append_left _) made.scope_eq
          (List.mem_append_right _ (List.mem_singleton_self _)) behind fresh
      · rw [offered] at admits
        have settled := sound.issue_settles (offer_settles _ _ offered)
        have stillFound : next.callers[number]? = some old := by
          rw [admits.staff.callers]
          exact found
        have kept : MadeFor order next batch := made.mono admits.deliveries
        let notes : History τ ρ := [(floor.nextTicket, .issued (floor.issue batch.scope task).2),
          (floor.nextTicket, .answered answer)]
        have handed : HandedIn order.wait (history ++ notes) (order.job floor.nextTicket task) := by
          constructor
          · rw [← jobEq]
            exact List.mem_append_right _ List.mem_cons_self
          · refine ⟨answer, List.mem_append_right _ (List.mem_cons_of_mem _ List.mem_cons_self), ?_⟩
            rw [← made.wait_eq]
            exact offer_patient offered
        have served := ih { batch with tickets := batch.tickets ++ [floor.nextTicket] } settled
          stillFound ⟨kept.scope_eq, kept.wait_eq, kept.collects⟩
          ((covers.mono fun _ => List.mem_append_left _).concat behind handed) fresh
        rw [List.append_assoc] at served
        exact served

/-- A turn of the caller who carries the order out. -/
theorem Serves.attend (serves : Serves order history number floor) (sound : Sound history floor) :
    Serves order (history ++ floor.attendNotes number) number (floor.attend number) := by
  cases serves with
  | offering batch job due rest earlier found stage made tickets covers scope_eq issued behind
      fresh =>
      have turns : floor.attend number = floor.batchTurn number batch := by
        rw [Floor.attend, found]
      have notes : floor.attendNotes number = floor.batchNotes number batch := by
        rw [attendNotes, found]
      have admits := floor.admits_offerAgain job number batch.wait due
      rw [turns, notes, batchTurn, batchNotes, stage]
      dsimp only
      rcases offered : floor.offerAgain number job batch.wait due with ⟨next, _ | answer⟩
      · obtain rfl := offerAgain_waits _ _ offered
        rw [List.append_nil]
        exact .offering batch job due rest earlier found stage made tickets covers scope_eq issued
          behind fresh
      · rw [offered] at admits
        let joining : Batch τ ρ := { batch with stage := .joining }
        have settled := sound.settles_waiting
          (show Settles job answer floor next from offerAgain_settles _ _ offered) found
          (by rw [Caller.places, stage]; rfl)
          (show (Caller.batching joining).places = 0 from rfl)
        have inRange : number < next.callers.length := by
          rw [admits.staff.callers]
          exact (List.getElem?_eq_some_iff.mp found).1
        have kept : MadeFor order next batch := made.mono admits.deliveries
        have handed : HandedIn order.wait (history ++ [(job.ticket, .answered answer)])
            (order.job job.ticket job.task) := by
          constructor
          · rw [Order.job, ← scope_eq]
            exact List.mem_append_left _ issued
          · refine ⟨answer, List.mem_append_right _ List.mem_cons_self, ?_⟩
            rw [← made.wait_eq]
            exact offerAgain_patient offered
        have covered := (covers.mono fun _ => List.mem_append_left _).concat behind handed
        rw [← tickets] at covered
        have served := serves_handIn rest joining settled (List.getElem?_set_self inRange)
          ⟨kept.scope_eq, kept.wait_eq, kept.collects⟩ covered fresh
        rw [List.append_assoc] at served
        exact served
  | joining batch found stage made covers lacks =>
      have turns : floor.attend number = floor.join number batch := by
        rw [Floor.attend, found]
        dsimp only
        rw [batchTurn, stage]
      have notes : floor.attendNotes number = [] := by
        rw [attendNotes, found]
        dsimp only
        rw [batchNotes, stage]
      rw [turns, notes, List.append_nil]
      exact serves_join found made covers
  | ended batch instant found made covers complete =>
      have turns : floor.attend number = floor := by rw [Floor.attend, found]
      have notes : floor.attendNotes number = [] := by rw [attendNotes, found]
      rw [turns, notes, List.append_nil]
      exact .ended batch instant found made covers complete

/-- An order is given to the pool. -/
theorem serves_executeBatch (sound : Sound history floor) (order : Order τ) :
    Serves order
      (history ++ (floor.enter (.batching { scope := order.scope, wait := order.wait })).1.handInNotes
        floor.callers.length { scope := order.scope, wait := order.wait } order.tasks)
      floor.callers.length (floor.executeBatch order.wait order.scope order.tasks).1 := by
  let batch : Batch τ ρ := { scope := order.scope, wait := order.wait }
  have entered : Sound history (floor.enter (.batching batch)).1 := sound.enter rfl
  exact serves_handIn order.tasks batch entered List.getElem?_concat_length
    ⟨rfl, rfl, fun _ member => absurd member List.not_mem_nil⟩ .nil rfl

/-- The outcomes of an order that was carried out are aligned with its tasks, if its scope
is not cancelled. -/
theorem Serves.aligned (serves : Serves order history number floor) (sound : Sound history floor)
    (live : floor.isCancelled order.scope = false) {batch : Batch τ ρ} {instant : Nat}
    (ended : floor.callers[number]? = some (.batched batch instant)) :
    order.Aligned history batch.outcomes := by
  cases serves with
  | offering _ _ _ _ _ found | joining _ found => cases found.symm.trans ended
  | ended other instant found made covers complete =>
      cases found.symm.trans ended
      rw [live] at complete
      have collected := complete.resolve_left (by simp)
      have length : batch.outcomes.length = batch.tickets.length := List.length_map _
      refine ⟨length.trans covers.length, batch.tickets, covers.ordered, covers.length, ?_⟩
      intro index ticket task outcome stands given reported
      have handed := covers.handed stands given
      obtain ⟨own, member⟩ := collected ticket (List.mem_of_getElem? stands)
      obtain ⟨delivery, delivered, rfl, _⟩ := made.collects _ member
      rw [batch.outcomes_getElem?, stands, Option.map_some, Option.some.injEq,
        reported_of_collected sound.accounted made.collects delivered ⟨own, member⟩] at reported
      have place : (delivery.ticket, .delivered delivery.outcome) ∈
          deliveryPlaces (τ := τ) floor.deliveries :=
        Multiset.mem_coe.mpr (List.mem_map_of_mem delivered)
      obtain ⟨maker, ending⟩ :=
        sound.accounted.fits _ (Multiset.mem_add.mpr (.inr place))
      rw [← reported]
      exact Ending.explains handed ending live

end Serving

end Floor

end RiskGate.Pool
