import RiskGate.Pool.Calls
import RiskGate.Proofs.Schedule.Turns

/-!
# Runs of a pool

A run is any sequence of events: calls, changes of scopes, changes from outside
to what the tasks share, turns of ready actors, and the passing of time.  Which
of the ready actors takes its turn next is left open, so a statement about runs
covers every order of turns, the one that the clockwork follows among them.
Time passes only when no actor is ready, and never past an instant at which
something is due.

A run comes with its history: what became known of each job on the way.  The
history is read off the answers of submissions and off what tasks yield; it has
no influence on the run.
-/

namespace RiskGate.Schedule

/-- The actor belongs to a pool. -/
def Actor.isInsider : Actor → Bool
  | .dispatcher | .worker _ | .caller _ => true
  | .guest _ | .timer _ => false

deriving instance DecidableEq for Agenda

/-- An agenda without the affairs of actors outside the pool. -/
def Agenda.insiders (agenda : Agenda) : Agenda :=
  { agenda with
    ready := agenda.ready.filter (·.isInsider)
    alarms := agenda.alarms.filter (·.actor.isInsider)
    watchers := agenda.watchers.filter (·.2.isInsider) }

end RiskGate.Schedule

namespace RiskGate.Pool

open Schedule (Actor Agenda Clockwork)

/-- What can happen to a pool. -/
inductive Event (ε τ : Type) where
  | submit (scope : Nat) (task : τ)
  | submitWithin (wait : Span) (scope : Nat) (task : τ)
  | executeBatch (wait : Span) (scope : Nat) (tasks : List τ)
  | shutdown (limit : Span)
  | openScope
  | openChild (parent : Nat)
  | cancel (scope : Nat)
  /-- A scope is to be cancelled at an instant to come. -/
  | plan (due scope : Nat)
  /-- What the tasks share changes, and actors are woken by it. -/
  | disturb (shared : ε) (woken : List Actor)
  /-- Actors outside the pool go about their affairs. -/
  | rearrange (agenda : Agenda)
  | turn (actor : Actor)
  | pass (instant : Nat)

/-- What becomes known of a job. -/
inductive Note (τ ρ : Type) where
  /-- The job was made and passed to a submission. -/
  | issued (job : Job τ)
  /-- The submission was answered. -/
  | answered (answer : Outcome Unit)
  /-- The task was begun. -/
  | invoked (task : τ)
  /-- The task ended. -/
  | yielded (outcome : Outcome ρ)

/-- Notes by ticket, the oldest first. -/
abbrev History (τ ρ : Type) := List (Nat × Note τ ρ)

/-- What is known of one job. -/
def History.story {τ ρ : Type} (ticket : Nat) (history : History τ ρ) : List (Note τ ρ) :=
  (history.filter (·.1 == ticket)).map Prod.snd

namespace Floor

variable {ε τ ρ : Type}

/-! ## Notes -/

/-- The note of an answer, if there is one. -/
def answerNotes (ticket : Nat) : Option (Outcome Unit) → History τ ρ
  | some answer => [(ticket, .answered answer)]
  | none => []

/-- Notes of the jobs that a batch hands in. -/
def handInNotes (caller : Nat) (batch : Batch τ ρ) : List τ → Floor ε τ ρ → History τ ρ
  | [], _ => []
  | task :: rest, floor =>
      let (floor, job) := floor.issue batch.scope task
      let batch := { batch with tickets := batch.tickets ++ [job.ticket] }
      (job.ticket, .issued job) ::
        match floor.offer caller job batch.wait with
        | (floor, some answer) =>
            (job.ticket, .answered answer) :: handInNotes caller batch rest floor
        | (_, none) => []

/-- Notes of going on with a batch. -/
def batchNotes (caller : Nat) (batch : Batch τ ρ) (floor : Floor ε τ ρ) : History τ ρ :=
  match batch.stage with
  | .joining => []
  | .offering job due rest =>
      match floor.offerAgain caller job batch.wait due with
      | (floor, some answer) =>
          let batch := { batch with stage := .joining }
          (job.ticket, .answered answer) ::
            (floor.setCaller caller (.batching batch)).handInNotes caller batch rest
      | (_, none) => []

/-- Notes of a caller's turn. -/
def attendNotes (caller : Nat) (floor : Floor ε τ ρ) : History τ ρ :=
  match floor.callers[caller]? with
  | some (.offering job wait due) =>
      answerNotes job.ticket
        (((floor.offeringTurn caller job wait due).answer? caller).map Prod.fst)
  | some (.batching batch) => floor.batchNotes caller batch
  | _ => []

/-- The note of a task's end, if it ends when it is resumed. -/
def resumeNotes [Trade ε τ ρ] (index : Nat) (job : Job τ) (floor : Floor ε τ ρ) :
    History τ ρ :=
  match (Trade.resume (ρ := ρ) (Actor.worker index) floor.now job.task floor.shared).2 with
  | .finished outcome => [(job.ticket, .yielded outcome)]
  | .suspended .. => []

/-- Notes of a worker's turn. -/
def workNotes [Trade ε τ ρ] (index : Nat) (floor : Floor ε τ ρ) : History τ ρ :=
  match floor.desks[index]? with
  | some (.handed job) =>
      if floor.shut || floor.isCancelled job.scope then []
      else (job.ticket, .invoked job.task) :: floor.resumeNotes index job
  | some (.busy job) =>
      if floor.isCancelled job.scope then [] else floor.resumeNotes index job
  | _ => []

/-- An actor is no longer ready. -/
def unready (actor : Actor) (floor : Floor ε τ ρ) : Floor ε τ ρ :=
  floor.onAgenda fun agenda => { agenda with ready := agenda.ready.erase actor }

/-- What becomes known by an event. -/
def notes [Trade ε τ ρ] (event : Event ε τ) (floor : Floor ε τ ρ) : History τ ρ :=
  match event with
  | .submit scope task =>
      let (_, job) := floor.issue scope task
      (job.ticket, .issued job) :: answerNotes job.ticket (some (floor.submit scope task).2.2)
  | .submitWithin wait scope task =>
      let (_, job) := floor.issue scope task
      let (floor, _, caller) := floor.submitWithin wait scope task
      (job.ticket, .issued job) :: answerNotes job.ticket ((floor.answer? caller).map Prod.fst)
  | .executeBatch wait scope tasks =>
      let batch : Batch τ ρ := { scope := scope, wait := wait }
      let (floor, caller) := floor.enter (.batching batch)
      floor.handInNotes caller batch tasks
  | .turn (.worker index) => (floor.unready (.worker index)).workNotes index
  | .turn (.caller caller) => (floor.unready (.caller caller)).attendNotes caller
  | _ => []

/-! ## Events -/

/-- The pool after an event. -/
def after [Trade ε τ ρ] (event : Event ε τ) (floor : Floor ε τ ρ) : Floor ε τ ρ :=
  match event with
  | .submit scope task => (floor.submit scope task).1
  | .submitWithin wait scope task => (floor.submitWithin wait scope task).1
  | .executeBatch wait scope tasks => (floor.executeBatch wait scope tasks).1
  | .shutdown limit => (floor.shutdown limit).1
  | .openScope => floor.onAgenda (·.openScope.1)
  | .openChild parent => floor.onAgenda fun agenda => (agenda.openChild parent).1
  | .cancel scope => floor.onAgenda (·.cancel scope)
  | .plan due scope => floor.onAgenda (·.plan due scope)
  | .disturb shared woken => { floor with shared := shared }.onAgenda (·.wakeAll woken)
  | .rearrange agenda => floor.onAgenda fun _ => agenda
  | .turn actor => (floor.unready actor).turn actor
  | .pass instant =>
      (Clockwork.elapse floor.now (max floor.now instant) floor).onAgenda (·.moveTo instant)

/-- The event can happen now: scopes are opened before they are used, only a
ready actor takes its turn, and time passes only when nobody is ready and not
past what is due. -/
def Allowed (event : Event ε τ) (floor : Floor ε τ ρ) : Prop :=
  match event with
  | .submit scope _ | .submitWithin _ scope _ | .executeBatch _ scope _ | .openChild scope =>
      scope < floor.agenda.parents.length
  | .rearrange agenda => agenda.insiders = floor.agenda.insiders
  | .turn actor => actor ∈ floor.agenda.ready
  | .pass instant =>
      floor.agenda.ready = [] ∧ floor.now ≤ instant ∧
        ∀ due ∈ floor.agenda.next?, instant ≤ max floor.now due
  | .shutdown _ | .cancel _ | .plan _ _ | .openScope | .disturb _ _ => True

instance (event : Event ε τ) (floor : Floor ε τ ρ) : Decidable (floor.Allowed event) :=
  match event with
  | .submit _ _ | .submitWithin _ _ _ | .executeBatch _ _ _ | .openChild _ =>
      inferInstanceAs (Decidable (_ < _))
  | .rearrange agenda => inferInstanceAs (Decidable (agenda.insiders = floor.agenda.insiders))
  | .turn actor => inferInstanceAs (Decidable (actor ∈ floor.agenda.ready))
  | .pass instant =>
      inferInstanceAs (Decidable (floor.agenda.ready = [] ∧ floor.now ≤ instant ∧
        ∀ due ∈ floor.agenda.next?, instant ≤ max floor.now due))
  | .shutdown _ | .cancel _ | .plan _ _ | .openScope | .disturb _ _ =>
      inferInstanceAs (Decidable True)

/-- Whatever its time, the event is a proper one: a scope is opened before it is used, and
actors outside the pool leave its own actors and the scopes alone. -/
def Proper (event : Event ε τ) (floor : Floor ε τ ρ) : Prop :=
  match event with
  | .submit scope _ | .submitWithin _ scope _ | .executeBatch _ scope _ =>
      scope < floor.agenda.parents.length
  | .rearrange agenda => agenda.insiders = floor.agenda.insiders
  | .shutdown _ | .cancel _ | .plan _ _ | .openScope | .openChild _ | .disturb _ _ | .turn _
  | .pass _ => True

theorem Allowed.proper {event : Event ε τ} {floor : Floor ε τ ρ} (allowed : floor.Allowed event) :
    floor.Proper event := by
  cases event with
  | submit | submitWithin | executeBatch | rearrange => exact allowed
  | shutdown | cancel | plan | openScope | openChild | disturb | turn | pass => trivial

/-! ## Runs -/

/-- A run from one state to another, with its history. -/
inductive Run [Trade ε τ ρ] (start : Floor ε τ ρ) : History τ ρ → Floor ε τ ρ → Prop where
  | refl : Run start [] start
  | tail {history : History τ ρ} {floor : Floor ε τ ρ} (event : Event ε τ) :
      Run start history floor → floor.Allowed event →
      Run start (history ++ floor.notes event) (floor.after event)

/-- The state is reached from a new pool, with the given history. -/
def Arises [Trade ε τ ρ] (history : History τ ρ) (floor : Floor ε τ ρ) : Prop :=
  ∃ workers capacity shared, Run (make workers capacity shared) history floor

namespace Run

variable [Trade ε τ ρ] {start middle floor : Floor ε τ ρ} {first second : History τ ρ}

/-- Runs compose, and so do their histories. -/
theorem trans (earlier : Run start first middle) (later : Run middle second floor) :
    Run start (first ++ second) floor := by
  induction later with
  | refl => simpa using earlier
  | tail event _ allowed ih =>
      rw [← List.append_assoc]
      exact .tail event ih allowed

/-- A property that every allowed event preserves holds at the end of a run from
a state where it holds. -/
theorem preserves {property : Floor ε τ ρ → Prop} (run : Run start first floor)
    (initial : property start)
    (step : ∀ (event : Event ε τ) (floor : Floor ε τ ρ),
      floor.Allowed event → property floor → property (floor.after event)) :
    property floor := by
  induction run with
  | refl => exact initial
  | tail event _ allowed ih => exact step event _ allowed ih

/-- One event is a run. -/
theorem single (event : Event ε τ) (allowed : start.Allowed event) :
    Run start (start.notes event) (start.after event) :=
  .tail event .refl allowed

/-- Any number of turns is a run, whatever their order. -/
theorem steps {next : Floor ε τ ρ → Option (Floor ε τ ρ)} (turns : Clockwork.TakesTurns next)
    (count : Nat) (start : Floor ε τ ρ) :
    ∃ history, Run start history (Clockwork.steps next count start) := by
  have keeps : ∀ floor : Floor ε τ ρ, ∀ actor ∈ floor.agenda.ready,
      (∃ history, Run start history floor) →
        ∃ history, Run start history (Clockwork.callUp actor floor) := by
    rintro floor actor ready ⟨history, run⟩
    exact ⟨_, run.tail (.turn actor) ready⟩
  exact turns.steps_keep keeps count ⟨[], .refl⟩

end Run

theorem Arises.trans [Trade ε τ ρ] {first second : History τ ρ} {middle floor : Floor ε τ ρ}
    (arises : Arises first middle) (run : Run middle second floor) :
    Arises (first ++ second) floor := by
  obtain ⟨workers, capacity, shared, earlier⟩ := arises
  exact ⟨workers, capacity, shared, earlier.trans run⟩

/-! ## Lists of events -/

section Lists

variable [Trade ε τ ρ]

/-- The pool after events that happen one after another. -/
def afterAll (events : List (Event ε τ)) (floor : Floor ε τ ρ) : Floor ε τ ρ :=
  events.foldl (fun floor event => floor.after event) floor

/-- What becomes known by events that happen one after another. -/
def notesAll : List (Event ε τ) → Floor ε τ ρ → History τ ρ
  | [], _ => []
  | event :: rest, floor => floor.notes event ++ notesAll rest (floor.after event)

/-- The events can happen one after another. -/
def AllowedAll : List (Event ε τ) → Floor ε τ ρ → Prop
  | [], _ => True
  | event :: rest, floor => floor.Allowed event ∧ AllowedAll rest (floor.after event)

instance decidableAllowedAll : (events : List (Event ε τ)) → (floor : Floor ε τ ρ) →
    Decidable (floor.AllowedAll events)
  | [], _ => inferInstanceAs (Decidable True)
  | event :: rest, floor =>
      have := decidableAllowedAll rest (floor.after event)
      inferInstanceAs (Decidable (floor.Allowed event ∧ AllowedAll rest (floor.after event)))

theorem AllowedAll.run {events : List (Event ε τ)} {floor : Floor ε τ ρ}
    (allowed : floor.AllowedAll events) :
    Run floor (floor.notesAll events) (floor.afterAll events) := by
  induction events generalizing floor with
  | nil => exact .refl
  | cons event rest ih => exact (Run.single event allowed.1).trans (ih allowed.2)

/-- The events are proper ones, one after another. -/
def ProperAll : List (Event ε τ) → Floor ε τ ρ → Prop
  | [], _ => True
  | event :: rest, floor => floor.Proper event ∧ ProperAll rest (floor.after event)

/-- A property that every proper event preserves is preserved by any number of them. -/
theorem ProperAll.preserves (property : History τ ρ → Floor ε τ ρ → Prop)
    {events : List (Event ε τ)} {floor : Floor ε τ ρ} (proper : floor.ProperAll events)
    (history : History τ ρ) (initial : property history floor)
    (step : ∀ (history : History τ ρ) (floor : Floor ε τ ρ) (event : Event ε τ), event ∈ events →
      floor.Proper event → property history floor →
        property (history ++ floor.notes event) (floor.after event)) :
    property (history ++ floor.notesAll events) (floor.afterAll events) := by
  induction events generalizing history floor with
  | nil =>
      rw [notesAll, List.append_nil]
      exact initial
  | cons event rest ih =>
      rw [notesAll, ← List.append_assoc]
      apply ih proper.2 _ (step _ _ event List.mem_cons_self proper.1 initial)
      exact fun history floor other member => step history floor other (List.mem_cons_of_mem _ member)

end Lists

/-! ## What tasks yield -/

section Yields

variable {ticket : Nat} {outcome : Outcome ρ}

theorem yielded_notMem_handInNotes (caller : Nat) (tasks : List τ)
    (batch : Batch τ ρ) (floor : Floor ε τ ρ) :
    (ticket, .yielded outcome) ∉ floor.handInNotes caller batch tasks := by
  induction tasks generalizing batch floor with
  | nil => exact List.not_mem_nil
  | cons task rest ih =>
      intro member
      rw [handInNotes] at member
      dsimp only at member
      rcases List.mem_cons.mp member with same | member
      · cases same
      · split at member
        · rcases List.mem_cons.mp member with same | member
          · cases same
          · exact ih _ _ member
        · cases member

theorem yielded_notMem_attendNotes (caller : Nat) (floor : Floor ε τ ρ) :
    (ticket, .yielded outcome) ∉ floor.attendNotes caller := by
  intro member
  unfold attendNotes at member
  split at member
  · unfold answerNotes at member
    split at member
    · cases List.mem_singleton.mp member
    · cases member
  · unfold batchNotes at member
    split at member
    · cases member
    · split at member
      · rcases List.mem_cons.mp member with same | member
        · cases same
        · exact yielded_notMem_handInNotes _ _ _ _ member
      · cases member
  · cases member

variable [Trade ε τ ρ] {floor : Floor ε τ ρ}

/-- What a task yields is what it ends with when a worker resumes it. -/
theorem yielded_mem_notes {event : Event ε τ}
    (member : (ticket, .yielded outcome) ∈ floor.notes event) :
    ∃ (index : Nat) (task : τ),
      (Trade.resume (ρ := ρ) (Actor.worker index) floor.now task floor.shared).2 =
        .finished outcome := by
  have resumed : ∀ index (job : Job τ),
      (ticket, .yielded outcome) ∈ (floor.unready (.worker index)).resumeNotes index job →
        (Trade.resume (ρ := ρ) (Actor.worker index) floor.now job.task floor.shared).2 =
          .finished outcome := by
    intro index job member
    unfold resumeNotes at member
    split at member
    next other finished =>
      cases List.mem_singleton.mp member
      exact finished
    · cases member
  cases event with
  | submit scope task =>
      rcases List.mem_cons.mp member with same | member
      · cases same
      · cases List.mem_singleton.mp member
  | submitWithin wait scope task =>
      rcases List.mem_cons.mp member with same | member
      · cases same
      · unfold answerNotes at member
        split at member
        · cases List.mem_singleton.mp member
        · cases member
  | executeBatch wait scope tasks => exact absurd member (yielded_notMem_handInNotes _ _ _ _)
  | turn actor =>
      cases actor with
      | worker index =>
          change _ ∈ (floor.unready (.worker index)).workNotes index at member
          unfold workNotes at member
          split at member
          next job _ =>
            split at member
            · cases member
            · rcases List.mem_cons.mp member with same | member
              · cases same
              · exact ⟨index, job.task, resumed index job member⟩
          next job _ =>
            split at member
            · cases member
            · exact ⟨index, job.task, resumed index job member⟩
          · cases member
      | caller caller => exact absurd member (yielded_notMem_attendNotes _ _)
      | dispatcher | guest | timer => cases member
  | shutdown | openScope | openChild | cancel | plan | disturb | rearrange | pass => cases member

theorem mem_notesAll {events : List (Event ε τ)} {entry : Nat × Note τ ρ}
    (member : entry ∈ floor.notesAll events) :
    ∃ (between : Floor ε τ ρ) (event : Event ε τ), entry ∈ between.notes event := by
  induction events generalizing floor with
  | nil => cases member
  | cons event rest ih =>
      rcases List.mem_append.mp member with here | there
      · exact ⟨floor, event, here⟩
      · exact ih there

end Yields

end Floor

end RiskGate.Pool
