import RiskGate.Proofs.Pool.Labour
import RiskGate.Pool.Drill

/-!
# Exactly one result

Whatever the order of events, the account of jobs is kept along every run of a
pool.  Once no job is left in the queue, on a desk or with a submission that waits
for room, the only place for a job is among the deliveries: each job that was made
has exactly one result under its own ticket, and its story explains the result.
-/

namespace RiskGate.Pool

variable {ε τ ρ : Type}

/-! ## Tickets in the history -/

/-- A note that a job was made is kept under the ticket of the job. -/
def Note.Names (ticket : Nat) : Note τ ρ → Prop
  | .issued job => job.ticket = ticket
  | .answered _ | .invoked _ | .yielded _ => True

/-- Every note is kept under the ticket of its job. -/
def History.Labelled (history : History τ ρ) : Prop :=
  ∀ entry ∈ history, entry.2.Names entry.1

namespace History

theorem labelled_nil : Labelled ([] : History τ ρ) :=
  fun _ member => absurd member List.not_mem_nil

theorem labelled_cons {entry : Nat × Note τ ρ} {history : History τ ρ}
    (names : entry.2.Names entry.1) (labelled : Labelled history) :
    Labelled (entry :: history) := by
  intro other member
  rcases List.mem_cons.mp member with rfl | old
  · exact names
  · exact labelled other old

theorem labelled_append {first second : History τ ρ} (labelled_first : Labelled first)
    (labelled_second : Labelled second) : Labelled (first ++ second) := by
  intro entry member
  rcases List.mem_append.mp member with old | new
  · exact labelled_first entry old
  · exact labelled_second entry new

end History

namespace Floor

open Schedule (Actor Agenda Clockwork)
open History

theorem labelled_answerNotes (ticket : Nat) (answer : Option (Outcome Unit)) :
    Labelled (answerNotes ticket answer : History τ ρ) := by
  cases answer with
  | none => exact labelled_nil
  | some answer => exact labelled_cons trivial labelled_nil

theorem labelled_handInNotes (caller : Nat) (batch : Batch τ ρ) (tasks : List τ)
    (floor : Floor ε τ ρ) : Labelled (floor.handInNotes caller batch tasks) := by
  induction tasks generalizing batch floor with
  | nil => exact labelled_nil
  | cons task rest ih =>
      rw [handInNotes]
      refine labelled_cons rfl ?_
      split
      · exact labelled_cons trivial (ih _ _)
      · exact labelled_nil

theorem labelled_batchNotes (caller : Nat) (batch : Batch τ ρ) (floor : Floor ε τ ρ) :
    Labelled (floor.batchNotes caller batch) := by
  unfold batchNotes
  split
  · exact labelled_nil
  · split
    · exact labelled_cons trivial (labelled_handInNotes _ _ _ _)
    · exact labelled_nil

theorem labelled_attendNotes (caller : Nat) (floor : Floor ε τ ρ) :
    Labelled (floor.attendNotes caller) := by
  unfold attendNotes
  split
  · exact labelled_answerNotes _ _
  · exact labelled_batchNotes _ _ _
  · exact labelled_nil

theorem labelled_resumeNotes [Trade ε τ ρ] (index : Nat) (job : Job τ) (floor : Floor ε τ ρ) :
    Labelled (floor.resumeNotes index job) := by
  unfold resumeNotes
  split
  · exact labelled_cons trivial labelled_nil
  · exact labelled_nil

theorem labelled_workNotes [Trade ε τ ρ] (index : Nat) (floor : Floor ε τ ρ) :
    Labelled (floor.workNotes index) := by
  unfold workNotes
  split
  · split
    · exact labelled_nil
    · exact labelled_cons trivial (labelled_resumeNotes _ _ _)
  · split
    · exact labelled_nil
    · exact labelled_resumeNotes _ _ _
  · exact labelled_nil

theorem labelled_notes [Trade ε τ ρ] (event : Event ε τ) (floor : Floor ε τ ρ) :
    Labelled (floor.notes event) := by
  cases event with
  | submit scope task => exact labelled_cons rfl (labelled_answerNotes _ _)
  | submitWithin wait scope task => exact labelled_cons rfl (labelled_answerNotes _ _)
  | executeBatch wait scope tasks => exact labelled_handInNotes _ _ _ _
  | turn actor =>
      cases actor with
      | worker index => exact labelled_workNotes _ _
      | caller caller => exact labelled_attendNotes _ _
      | dispatcher | guest | timer => exact labelled_nil
  | shutdown | openScope | openChild | cancel | plan | disturb | rearrange | pass =>
      exact labelled_nil

theorem Arises.labelled [Trade ε τ ρ] {history : History τ ρ} {floor : Floor ε τ ρ}
    (arises : Arises history floor) : Labelled history := by
  obtain ⟨workers, capacity, shared, run⟩ := arises
  induction run with
  | refl => exact labelled_nil
  | tail event _ _ ih => exact labelled_append ih (labelled_notes event _)

/-! ## The account along a run -/

section Events

variable {history : History τ ρ} {floor : Floor ε τ ρ}

/-- A shutdown moves no job by itself. -/
theorem Sound.shutdown (sound : Sound history floor) (limit : Span) :
    Sound history (floor.shutdown limit).1 := by
  have shut : Sound history { floor with shut := true } :=
    ⟨sound.accounted.unmoved ⟨fun _ => id, fun _ => rfl⟩ rfl rfl, .of_shut rfl⟩
  have shutting : Sound history floor.shutting := by
    apply shut.onAgenda
    intro scope old
    rwa [Agenda.wake_cancelled, Agenda.wakeAll_cancelled]
  rcases floor.shutdown_cases limit with ⟨_, shutEq⟩ | ⟨_, _, shutEq⟩ | ⟨_, _, shutEq⟩
  · rw [shutEq]
    exact sound.enter rfl
  · rw [shutEq]
    exact shutting.enter rfl
  · rw [shutEq]
    refine Sound.onAgenda ?_ fun _ => id
    exact shutting.enter rfl

theorem Sound.unready (sound : Sound history floor) (actor : Actor) :
    Sound history (floor.unready actor) :=
  sound.onAgenda fun _ => id

/-- Nothing becomes known. -/
theorem Sound.silent (sound : Sound history floor) : Sound (history ++ []) floor := by
  rwa [List.append_nil]

theorem Sound.turn [Trade ε τ ρ] (sound : Sound history floor) (actor : Actor) :
    Sound (history ++ floor.notes (.turn actor)) (floor.after (.turn actor)) := by
  have resting := sound.unready actor
  cases actor with
  | worker index => exact resting.work index
  | caller caller => exact resting.attend caller
  | dispatcher => exact resting.dispatch.silent
  | guest | timer => exact resting.silent

/-- Every event keeps the account of jobs. -/
theorem Sound.after [Trade ε τ ρ] (sound : Sound history floor) (event : Event ε τ)
    (proper : floor.Proper event) :
    Sound (history ++ floor.notes event) (floor.after event) := by
  cases event with
  | submit scope task => exact sound.submit scope task
  | submitWithin wait scope task => exact sound.submitWithin wait scope task
  | executeBatch wait scope tasks => exact sound.executeBatch wait scope tasks
  | shutdown limit => exact (sound.shutdown limit).silent
  | turn actor => exact sound.turn actor
  | openScope =>
      have opened : Sound history (floor.onAgenda (·.openScope.1)) :=
        sound.onAgenda (Agenda.spares_openScope .dispatcher _).cancelled
      exact opened.silent
  | openChild parent =>
      have opened : Sound history (floor.onAgenda fun agenda => (agenda.openChild parent).1) :=
        sound.onAgenda (Agenda.spares_openChild .dispatcher _ parent).cancelled
      exact opened.silent
  | cancel scope =>
      have cancelled : Sound history (floor.onAgenda (·.cancel scope)) :=
        sound.onAgenda (Agenda.spares_cancel .dispatcher _ scope).cancelled
      exact cancelled.silent
  | plan due scope =>
      have planned : Sound history (floor.onAgenda (·.plan due scope)) :=
        sound.onAgenda fun _ => id
      exact planned.silent
  | disturb shared woken =>
      have changed : Sound history { floor with shared := shared } :=
        sound.frame ⟨rfl, rfl, rfl, rfl, rfl, rfl, rfl⟩ rfl
      exact (changed.onAgenda (Agenda.spares_wakeAll .dispatcher _ woken).cancelled).silent
  | rearrange agenda =>
      have insiders : agenda.insiders = floor.agenda.insiders := proper
      have same : agenda.insiders.cancelled = floor.agenda.insiders.cancelled :=
        congrArg Agenda.cancelled insiders
      have rearranged : Sound history (floor.onAgenda fun _ => agenda) := by
        apply sound.onAgenda
        intro scope old
        change scope ∈ agenda.insiders.cancelled
        rwa [same]
      exact rearranged.silent
  | pass instant =>
      have elapsed : Sound history (Clockwork.elapse floor.now (max floor.now instant) floor) :=
        sound.frame ⟨rfl, rfl, rfl, rfl, rfl, rfl, rfl⟩ rfl
      exact (elapsed.onAgenda (Agenda.spares_moveTo .dispatcher _ instant).cancelled).silent

/-- The account is kept along every run of a pool. -/
theorem Arises.sound [Trade ε τ ρ] (arises : Arises history floor) : Sound history floor := by
  obtain ⟨workers, capacity, shared, run⟩ := arises
  induction run with
  | refl => exact .make workers capacity shared
  | tail event _ allowed ih => exact ih.after event allowed.proper

end Events

/-! ## Pools at rest -/

end Floor

/-- The desk has a job on it. -/
def Desk.isTaken : Desk τ → Bool
  | .handed _ | .busy _ => true
  | .idle | .gone => false

/-- The caller waits for room in the queue. -/
def Caller.wantsRoom : Caller τ ρ → Bool
  | .offering .. => true
  | .batching batch =>
      match batch.stage with
      | .offering .. => true
      | .joining => false
  | .offered .. | .batched .. | .closing .. | .closed .. => false

theorem Desk.places_of_not_isTaken {desk : Desk τ} (free : desk.isTaken = false) :
    desk.places (ρ := ρ) = 0 := by
  cases desk with
  | handed | busy => cases free
  | idle | gone => rfl

theorem Caller.places_of_not_wantsRoom {caller : Caller τ ρ} (served : caller.wantsRoom = false) :
    caller.places = 0 := by
  cases caller with
  | offering => cases served
  | batching batch =>
      cases stage : batch.stage with
      | offering => simp [Caller.wantsRoom, stage] at served
      | joining => rw [Caller.places, stage, Stage.places]
  | offered | batched | closing | closed => rfl

theorem Caller.wantsRoom_of_mem_places {caller : Caller τ ρ} {entry : Nat × Place τ ρ}
    (member : entry ∈ caller.places) : caller.wantsRoom = true := by
  by_contra served
  rw [Caller.places_of_not_wantsRoom (by simpa using served)] at member
  exact Multiset.notMem_zero _ member

namespace Floor

/-- No job is left to be run or waits for a submission to end. -/
structure AtRest (floor : Floor ε τ ρ) : Prop where
  queue : floor.queue = []
  desks : ∀ desk ∈ floor.desks, desk.isTaken = false
  callers : ∀ caller ∈ floor.callers, caller.wantsRoom = false

/-- At rest, every job is among the deliveries. -/
theorem AtRest.whereabouts {floor : Floor ε τ ρ} (rest : floor.AtRest) :
    floor.whereabouts = deliveryPlaces floor.deliveries := by
  have callers : (floor.callers.map Caller.places).sum = 0 := by
    apply List.sum_eq_zero
    intro places member
    obtain ⟨caller, inList, rfl⟩ := List.mem_map.mp member
    exact Caller.places_of_not_wantsRoom (rest.callers caller inList)
  have desks : (floor.desks.map (Desk.places (ρ := ρ))).sum = 0 := by
    apply List.sum_eq_zero
    intro places member
    obtain ⟨desk, inList, rfl⟩ := List.mem_map.mp member
    exact Desk.places_of_not_isTaken (rest.desks desk inList)
  have queue : queuePlaces (ρ := ρ) floor.queue = 0 := by
    rw [rest.queue]
    rfl
  rw [Floor.whereabouts, callers, queue, desks, zero_add, zero_add, zero_add]

/-- The job of a story that has ended is the one that the story begins with. -/
theorem Ending.issued_eq {floor : Floor ε τ ρ} {job other : Job τ} {story : List (Note τ ρ)}
    {outcome : Outcome ρ} (ending : floor.Ending job story outcome)
    (issued : .issued other ∈ story) : other = job := by
  cases ending <;> simpa using issued

/-- Once nothing is left running or waiting, every job that was passed to a
submission has exactly one result, under its own ticket, and its story explains
the result. -/
theorem exactly_one_result [Trade ε τ ρ] {history : History τ ρ} {floor : Floor ε τ ρ}
    (arises : Arises history floor) (rest : floor.AtRest) {ticket : Nat} {job : Job τ}
    (issued : (ticket, .issued job) ∈ history) :
    ∃ delivery, floor.deliveries.filter (·.ticket == job.ticket) = [delivery] ∧
      floor.Ending job (history.story job.ticket) delivery.outcome := by
  have accounted := arises.sound.accounted
  obtain rfl : job.ticket = ticket := arises.labelled _ issued
  have told : .issued job ∈ history.story job.ticket :=
    List.mem_map.mpr ⟨_, List.mem_filter.mpr ⟨issued, by simp⟩, rfl⟩
  have born : job.ticket < floor.nextTicket := by
    by_contra notBorn
    rw [accounted.unborn job.ticket (by omega)] at told
    exact absurd told List.not_mem_nil
  have counted := accounted.once job.ticket
  rw [rest.whereabouts, if_pos born, countP_deliveryPlaces] at counted
  obtain ⟨delivery, filterEq⟩ := List.length_eq_one_iff.mp counted
  have delivered : delivery ∈ floor.deliveries ∧ delivery.ticket = job.ticket := by
    have member : delivery ∈ [delivery] := List.mem_singleton_self delivery
    rw [← filterEq, List.mem_filter] at member
    exact ⟨member.1, by simpa using member.2⟩
  refine ⟨delivery, filterEq, ?_⟩
  · have place : (delivery.ticket, .delivered delivery.outcome) ∈ floor.whereabouts := by
      rw [rest.whereabouts]
      exact List.mem_map.mpr ⟨delivery, delivered.1, rfl⟩
    obtain ⟨first, ending⟩ := accounted.fits _ place
    rw [delivered.2] at ending
    obtain rfl := ending.issued_eq told
    exact ending

/-- A drill of no length. -/
def soloDrill : Drill := { label := "solo", outcome := .ok 7 }

/-- Two submissions to a pool with one place in the queue, of which the second is
refused, and the turns that lead to the end of the first. -/
def soloEvents : List (Event DrillGround Drill) :=
  [.openScope, .submit 0 soloDrill, .submit 0 soloDrill, .turn .dispatcher, .turn (.worker 0)]

/-- A pool with one worker and one place in its queue. -/
def soloPool : Floor DrillGround Drill Int := make 1 1 {}

theorem exactly_one_result_solo :
    ∃ delivery,
      (soloPool.afterAll soloEvents).deliveries.filter (·.ticket == 0) = [delivery] ∧
      (soloPool.afterAll soloEvents).Ending ⟨0, 0, soloDrill⟩
        ((soloPool.notesAll soloEvents).story 0) delivery.outcome := by
  have allowed : soloPool.AllowedAll soloEvents := by decide
  have rest : (soloPool.afterAll soloEvents).AtRest := ⟨rfl, by decide, by decide⟩
  have arises : Arises (soloPool.notesAll soloEvents) (soloPool.afterAll soloEvents) :=
    ⟨1, 1, {}, allowed.run⟩
  exact exactly_one_result arises rest List.mem_cons_self

end Floor

end RiskGate.Pool
