import RiskGate.Proofs.Pool.Moves

/-!
# No job is lost and none is doubled

Every event keeps the account of jobs: each ticket has one place, and the place
fits what is known of the job.  Handing a job to a worker needs one more fact, that
a registered worker sits idle at its desk; otherwise the job on the desk would be
overwritten.  It holds as long as the pool is not shut down, and nobody hands jobs
over afterwards.

The account is kept by one small move after another, as the turns are made of
them: submissions and hand-overs here, batches by induction on the tasks that are
left to hand in, the closing of the queue by induction on the jobs in it.
-/

namespace RiskGate.Pool.Floor

open Schedule (Actor Agenda Clockwork)

variable {ε τ ρ : Type} {history : History τ ρ} {floor : Floor ε τ ρ}

/-- Until the pool is shut down, whoever is registered sits idle at a desk, and
is registered once. -/
def Registered (floor : Floor ε τ ρ) : Prop :=
  floor.shut = false →
    floor.idle.Nodup ∧ ∀ index ∈ floor.idle, floor.desks[index]? = some .idle

/-- The jobs are accounted for and the workers registered. -/
structure Sound (history : History τ ρ) (floor : Floor ε τ ρ) : Prop where
  accounted : Accounted history floor
  registered : floor.Registered

theorem Sound.make (workers capacity : Nat) (shared : ε) :
    Sound [] (make workers capacity shared : Floor ε τ ρ) where
  accounted := .make workers capacity shared
  registered := by
    intro _
    constructor
    · exact List.nodup_range
    · intro index member
      have inRange : index < max workers 1 := List.mem_range.mp member
      exact List.getElem?_replicate_of_lt inRange

theorem Registered.congr {before after : Floor ε τ ρ} (registered : before.Registered)
    (idle : after.idle = before.idle) (desks : after.desks = before.desks)
    (shut : after.shut = before.shut) : after.Registered := by
  intro open_
  rw [idle, desks]
  rw [shut] at open_
  exact registered open_

/-- After the shutdown nothing is asked of the register. -/
theorem Registered.of_shut {floor : Floor ε τ ρ} (shut : floor.shut = true) :
    floor.Registered := by
  intro open_
  rw [shut] at open_
  cases open_

/-- A worker that is not registered may have anything at its desk. -/
theorem Registered.set {before after : Floor ε τ ρ} (registered : before.Registered)
    {worker : Nat} {desk : Desk τ} (absent : before.shut = false → worker ∉ before.idle)
    (idle : after.idle = before.idle) (desks : after.desks = before.desks.set worker desk)
    (shut : after.shut = before.shut) : after.Registered := by
  intro open_
  rw [shut] at open_
  obtain ⟨nodup, seated⟩ := registered open_
  rw [idle, desks]
  constructor
  · exact nodup
  · intro index member
    have distinct : worker ≠ index := by
      rintro rfl
      exact absent open_ member
    rw [List.getElem?_set_ne distinct]
    exact seated index member

theorem SameStaff.registered {before after : Floor ε τ ρ} (same : SameStaff before after)
    (registered : before.Registered) : after.Registered :=
  registered.congr same.idle same.desks same.shut

/-- A change that moves no job and no worker. -/
theorem Sound.frame {before after : Floor ε τ ρ} (sound : Sound history before)
    (same : SameStaff before after) (whereabouts : after.whereabouts = before.whereabouts) :
    Sound history after where
  accounted := sound.accounted.unmoved same.later whereabouts same.nextTicket
  registered := same.registered sound.registered

/-- Cancelling scopes, waking actors and keeping time moves no job. -/
theorem Sound.onAgenda (sound : Sound history floor) {change : Agenda → Agenda}
    (cancelled : ∀ scope ∈ floor.agenda.cancelled, scope ∈ (change floor.agenda).cancelled) :
    Sound history (floor.onAgenda change) where
  accounted := by
    have later : Later floor (floor.onAgenda change) :=
      ⟨fun scope old => decide_eq_true (cancelled scope (of_decide_eq_true old)), id⟩
    exact sound.accounted.unmoved later rfl rfl
  registered := sound.registered.congr rfl rfl rfl

/-- Callers that wait for no room come and go without moving a job. -/
theorem Sound.setCaller (sound : Sound history floor) {caller : Nat} {old new : Caller τ ρ}
    (found : floor.callers[caller]? = some old) (before : old.places = 0)
    (after : new.places = 0) : Sound history (floor.setCaller caller new) where
  accounted := by
    have moved := floor.whereabouts_setCaller found new
    rw [before, after] at moved
    exact sound.accounted.unmoved (.of_eq rfl rfl) (add_right_cancel moved) rfl
  registered := sound.registered.congr rfl rfl rfl

theorem Sound.enter (sound : Sound history floor) {caller : Caller τ ρ}
    (places : caller.places = 0) : Sound history (floor.enter caller).1 where
  accounted := by
    have entered := floor.whereabouts_enter caller
    rw [places, add_zero] at entered
    exact sound.accounted.unmoved (.of_eq rfl rfl) entered rfl
  registered := sound.registered.congr rfl rfl rfl

/-! ## Submissions -/

private theorem later_issue (scope : Nat) (task : τ) (floor : Floor ε τ ρ) :
    Later floor (floor.issue scope task).1 :=
  .of_eq rfl rfl

/-- A job that is made and settled before anything else happens. -/
theorem Sound.born (sound : Sound history floor) {scope : Nat} {task : τ}
    {next : Floor ε τ ρ} {place : Place τ ρ} (notes : List (Note τ ρ)) (later : Later floor next)
    (registered : next.Registered)
    (placed : next.whereabouts = floor.whereabouts + {(floor.nextTicket, place)})
    (nextTicket : next.nextTicket = floor.nextTicket + 1)
    (fits : next.Fits place (.issued (floor.issue scope task).2 :: notes)) :
    Sound (history ++ (floor.nextTicket, .issued (floor.issue scope task).2) ::
      notes.map fun note => (floor.nextTicket, note)) next where
  accounted := sound.accounted.born later (.issued (floor.issue scope task).2 :: notes) placed
    nextTicket fits
  registered := registered

/-- A job that is made and settled at once. -/
theorem Sound.issue_settles (sound : Sound history floor) {scope : Nat} {task : τ}
    {answer : Outcome Unit} {next : Floor ε τ ρ}
    (settles : Settles (floor.issue scope task).2 answer (floor.issue scope task).1 next) :
    Sound (history ++ [(floor.nextTicket, .issued (floor.issue scope task).2),
      (floor.nextTicket, .answered answer)]) next := by
  obtain ⟨place, placed, fits⟩ := settles.placed
  have later : Later floor next := (later_issue scope task floor).trans settles.staff.later
  have registered : next.Registered :=
    settles.staff.registered (sound.registered.congr rfl rfl rfl)
  exact sound.born [.answered answer] later registered placed
    settles.staff.nextTicket (fits next)

theorem Sound.submit (sound : Sound history floor) (scope : Nat) (task : τ) :
    Sound (history ++ [(floor.nextTicket, .issued (floor.issue scope task).2),
      (floor.nextTicket, .answered (floor.submit scope task).2.2)])
      (floor.submit scope task).1 :=
  sound.issue_settles (offerNow_settles _ _)

/-- The job for which a caller waited is settled, and the caller stops waiting. -/
theorem Settles.moved {job : Job τ} {answer : Outcome Unit} {before next : Floor ε τ ρ}
    (settles : Settles job answer before next) {caller : Nat} {old : Caller τ ρ}
    (found : before.callers[caller]? = some old)
    (waited : old.places = {(job.ticket, .offered job)}) {new : Caller τ ρ}
    (stopped : new.places = 0) :
    ∃ place, (next.setCaller caller new).whereabouts + {(job.ticket, .offered job)} =
        before.whereabouts + {(job.ticket, place)} ∧
      ∀ floor : Floor ε τ ρ, floor.Fits place [.issued job, .answered answer] := by
  obtain ⟨place, placed, fits⟩ := settles.placed
  have moved := next.whereabouts_setCaller (by rwa [settles.staff.callers]) new
  rw [waited, stopped, add_zero, placed] at moved
  exact ⟨place, moved, fits⟩

/-- A caller that waited for room with a job is answered. -/
theorem Sound.settles_waiting (sound : Sound history floor) {job : Job τ} {answer : Outcome Unit}
    {next : Floor ε τ ρ} (settles : Settles job answer floor next) {caller : Nat}
    {old new : Caller τ ρ} (found : floor.callers[caller]? = some old)
    (waited : old.places = {(job.ticket, .offered job)}) (stopped : new.places = 0) :
    Sound (history ++ [(job.ticket, .answered answer)]) (next.setCaller caller new) := by
  obtain ⟨place, moved, fits⟩ := settles.moved found waited stopped
  have present : (job.ticket, .offered job) ∈ floor.whereabouts :=
    floor.mem_whereabouts_of_caller found (by rw [waited]; exact Multiset.mem_singleton_self _)
  have later : Later floor (next.setCaller caller new) :=
    settles.staff.later.trans (.of_eq rfl rfl)
  constructor
  · refine sound.accounted.move later [.answered answer] present moved
      settles.staff.nextTicket fun story offered => ?_
    rw [show story = [.issued job] from offered]
    exact fits _
  · exact (settles.staff.registered sound.registered).congr rfl rfl rfl

private theorem later_entered (wait : Span) (scope : Nat) (task : τ) (floor : Floor ε τ ρ) :
    Later floor (floor.entered wait scope task) :=
  .of_eq rfl rfl

/-- A caller that was answered knows its answer. -/
theorem answer?_setCaller {caller : Nat} (inRange : caller < floor.callers.length)
    (answer : Outcome Unit) (instant : Nat) :
    (floor.setCaller caller (.offered answer instant)).answer? caller = some (answer, instant) := by
  rw [answer?, Floor.setCaller, List.getElem?_set_self inRange]

theorem Sound.submitWithin (sound : Sound history floor) (wait : Span) (scope : Nat) (task : τ) :
    Sound (history ++ (floor.nextTicket, .issued (floor.issue scope task).2) ::
      answerNotes floor.nextTicket
        (((floor.submitWithin wait scope task).1.answer?
          (floor.submitWithin wait scope task).2.2).map Prod.fst))
      (floor.submitWithin wait scope task).1 := by
  have enteredEq : (floor.entered wait scope task).whereabouts = floor.whereabouts +
      {(floor.nextTicket, .offered (floor.issue scope task).2)} :=
    whereabouts_enter (floor.issue scope task).1 _
  have caller : (floor.entered wait scope task).callers[floor.callers.length]? =
      some (.offering (floor.issue scope task).2 wait (floor.agenda.dueAfter wait)) :=
    List.getElem?_concat_length
  rw [submitWithin_eq]
  rcases offered : (floor.entered wait scope task).offer floor.callers.length
    (floor.issue scope task).2 wait with ⟨next, _ | answer⟩
  · obtain ⟨staff, whereabouts⟩ := offer_waits _ _ offered
    have notAnswered : next.answer? floor.callers.length = none := by
      rw [answer?, staff.callers, caller]
    dsimp only
    rw [notAnswered]
    exact sound.born [] ((later_entered wait scope task floor).trans staff.later)
      (staff.registered (sound.registered.congr rfl rfl rfl)) (whereabouts.trans enteredEq)
      staff.nextTicket rfl
  · have settles := offer_settles _ _ offered
    have inRange : floor.callers.length < next.callers.length := by
      rw [settles.staff.callers]
      exact (List.getElem?_eq_some_iff.mp caller).1
    have later : Later floor (next.setCaller floor.callers.length (.offered answer next.now)) :=
      ((later_entered wait scope task floor).trans settles.staff.later).trans (.of_eq rfl rfl)
    have registered : next.Registered :=
      settles.staff.registered (sound.registered.congr rfl rfl rfl)
    obtain ⟨place, moved, fits⟩ :=
      settles.moved caller rfl (show (Caller.offered answer next.now).places = 0 from rfl)
    rw [enteredEq, add_right_comm] at moved
    dsimp only
    rw [answer?_setCaller inRange]
    exact sound.born [.answered answer] later (registered.congr rfl rfl rfl)
      (add_right_cancel moved) settles.staff.nextTicket (fits _)

/-- Going on with a submission of a single task. -/
theorem Sound.offeringTurn (sound : Sound history floor) {caller : Nat} {job : Job τ} {wait : Span}
    {due : Nat} (found : floor.callers[caller]? = some (.offering job wait due)) :
    Sound (history ++ answerNotes job.ticket
        (((floor.offeringTurn caller job wait due).answer? caller).map Prod.fst))
      (floor.offeringTurn caller job wait due) := by
  unfold Floor.offeringTurn
  rcases offered : floor.offerAgain caller job wait due with ⟨next, _ | answer⟩
  · obtain rfl := offerAgain_waits _ _ offered
    have notAnswered : next.answer? caller = none := by rw [answer?, found]
    dsimp only
    rw [notAnswered, Option.map_none, answerNotes, List.append_nil]
    exact sound
  · have settles := offerAgain_settles _ _ offered
    have inRange : caller < next.callers.length := by
      rw [settles.staff.callers]
      exact (List.getElem?_eq_some_iff.mp found).1
    dsimp only
    rw [answer?_setCaller inRange]
    exact sound.settles_waiting settles found rfl rfl

/-! ## Batches -/

/-- Looking at the outcomes of a batch moves no job. -/
theorem Sound.join (sound : Sound history floor) {caller : Nat} {old : Caller τ ρ}
    (found : floor.callers[caller]? = some old) (places : old.places = 0) (batch : Batch τ ρ) :
    Sound history (floor.join caller batch) := by
  have released : Sound history (floor.onAgenda (·.release (.caller caller))) :=
    sound.onAgenda fun _ => id
  rcases floor.join_cases caller batch with ⟨_, joinEq⟩ | ⟨_, _, joinEq⟩ | ⟨_, _, joinEq⟩
  · rw [joinEq]
    exact released.setCaller found places rfl
  · rw [joinEq]
    exact released.setCaller found places rfl
  · rw [joinEq]
    refine Sound.onAgenda ?_ fun _ => id
    exact released.setCaller found places rfl

/-- Handing in one task after another keeps the account, whoever the caller. -/
theorem Sound.handIn {caller : Nat} {old : Caller τ ρ} (places : old.places = 0)
    (tasks : List τ) (batch : Batch τ ρ) {history : History τ ρ} {floor : Floor ε τ ρ}
    (sound : Sound history floor) (found : floor.callers[caller]? = some old) :
    Sound (history ++ floor.handInNotes caller batch tasks) (floor.handIn caller batch tasks) := by
  induction tasks generalizing batch history floor with
  | nil =>
      rw [handInNotes, List.append_nil]
      exact sound.join found places batch
  | cons task rest ih =>
      rw [Floor.handIn, handInNotes]
      dsimp only
      rcases offered : (floor.issue batch.scope task).1.offer caller
        (floor.issue batch.scope task).2 batch.wait with ⟨next, _ | answer⟩
      · obtain ⟨staff, whereabouts⟩ := offer_waits _ _ offered
        have next_found : next.callers[caller]? = some old := by
          rw [staff.callers]
          exact found
        have moved := next.whereabouts_setCaller next_found
          (.batching { batch with
            tickets := batch.tickets ++ [floor.nextTicket]
            stage := .offering (floor.issue batch.scope task).2
              (next.agenda.dueAfter batch.wait) rest })
        rw [places, add_zero, whereabouts] at moved
        have later : Later floor next := (later_issue _ _ floor).trans staff.later
        exact sound.born [] (later.trans (.of_eq rfl rfl))
          ((staff.registered (sound.registered.congr rfl rfl rfl)).congr rfl rfl rfl) moved
          staff.nextTicket rfl
      · have settles := offer_settles _ _ offered
        have settled := sound.issue_settles settles
        have next_found : next.callers[caller]? = some old := by
          rw [settles.staff.callers]
          exact found
        have handed := ih { batch with tickets := batch.tickets ++ [floor.nextTicket] } settled
          next_found
        rw [List.append_assoc] at handed
        exact handed

theorem Sound.executeBatch (sound : Sound history floor) (wait : Span) (scope : Nat)
    (tasks : List τ) :
    Sound (history ++ (floor.enter (.batching { scope := scope, wait := wait })).1.handInNotes
        floor.callers.length { scope := scope, wait := wait } tasks)
      (floor.executeBatch wait scope tasks).1 := by
  have entered : Sound history (floor.enter (.batching { scope := scope, wait := wait })).1 :=
    sound.enter rfl
  have found : (floor.enter (.batching { scope := scope, wait := wait })).1.callers[
      floor.callers.length]? = some (.batching { scope := scope, wait := wait }) :=
    List.getElem?_concat_length
  exact Sound.handIn rfl tasks _ entered found

/-- Going on with a batch. -/
theorem Sound.batchTurn (sound : Sound history floor) {caller : Nat} {batch : Batch τ ρ}
    (found : floor.callers[caller]? = some (.batching batch)) :
    Sound (history ++ floor.batchNotes caller batch) (floor.batchTurn caller batch) := by
  unfold batchNotes Floor.batchTurn
  cases stage : batch.stage with
  | joining =>
      rw [List.append_nil]
      exact sound.join found (by rw [Caller.places, stage]; rfl) batch
  | offering job due rest =>
      dsimp only
      rcases offered : floor.offerAgain caller job batch.wait due with ⟨next, _ | answer⟩
      · obtain rfl := offerAgain_waits _ _ offered
        rw [List.append_nil]
        exact sound
      · have settles := offerAgain_settles _ _ offered
        have settled := sound.settles_waiting
          (show Settles job answer floor next from settles) found
          (by rw [Caller.places, stage]; rfl)
          (show (Caller.batching { batch with stage := .joining }).places = 0 from rfl)
        have inRange : caller < next.callers.length := by
          rw [settles.staff.callers]
          exact (List.getElem?_eq_some_iff.mp found).1
        have handed := Sound.handIn
          (show (Caller.batching { batch with stage := .joining }).places = 0 from rfl) rest
          { batch with stage := .joining } settled (List.getElem?_set_self inRange)
        rw [List.append_assoc] at handed
        exact handed

/-- Going on with a shutdown moves no job. -/
theorem Sound.closingTurn (sound : Sound history floor) {caller : Nat} {limit : Span} {due : Nat}
    (found : floor.callers[caller]? = some (.closing limit due)) :
    Sound history (floor.closingTurn caller limit due) := by
  have released : Sound history (floor.onAgenda (·.release (.caller caller))) :=
    sound.onAgenda fun _ => id
  unfold Floor.closingTurn
  dsimp only
  split
  · exact released.setCaller found rfl rfl
  · split
    · exact released.setCaller found rfl rfl
    · exact sound

/-- A caller's turn. -/
theorem Sound.attend (sound : Sound history floor) (caller : Nat) :
    Sound (history ++ floor.attendNotes caller) (floor.attend caller) := by
  unfold attendNotes Floor.attend
  cases found : floor.callers[caller]? with
  | none =>
      rw [List.append_nil]
      exact sound
  | some state =>
      cases state with
      | offering job wait due => exact sound.offeringTurn found
      | batching batch => exact sound.batchTurn found
      | closing limit due =>
          rw [List.append_nil]
          exact sound.closingTurn found
      | offered | batched | closed =>
          rw [List.append_nil]
          exact sound

end RiskGate.Pool.Floor
