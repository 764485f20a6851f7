import RiskGate.Proofs.Metrics.Series
import RiskGate.Proofs.Pool.Places
import RiskGate.Proofs.Pool.Shutdown

/-!
# The books of a pool balance

Every submission that was answered is counted once, as accepted or as refused.  A job that was
accepted is queued, or is being run, or was completed, or was stranded when the pool was shut
down; only the last are not counted.  So the number of accepted jobs is what the pool has
completed and what it still holds, and the stranded jobs are what is missing.

The number of completed jobs is compared with the outcomes that were delivered.  What the
history tells of a job with an outcome decides whether it was refused, stranded or completed,
and goes on to decide so, as nothing more that matters becomes known of it.
-/

namespace RiskGate.Pool

variable {ε τ ρ : Type}

/-- The outcome is the failure of a pool that was shut down. -/
def Delivery.isShutdown (delivery : Delivery ρ) : Bool :=
  match delivery.outcome with
  | .error .poolShutdown => true
  | _ => false

namespace History

/-- A job with an outcome was stranded: it was accepted and never begun, and failed since the
pool was shut down. -/
def strands (history : History τ ρ) (delivery : Delivery ρ) : Bool :=
  history.wasAccepted delivery.ticket && !history.hasBegun delivery.ticket && delivery.isShutdown

/-- A job with an outcome was accepted, and it was not stranded. -/
def settles (history : History τ ρ) (delivery : Delivery ρ) : Bool :=
  history.wasAccepted delivery.ticket && !history.strands delivery

theorem any_story {kind : Note τ ρ → Bool} {history : History τ ρ} {ticket : Nat} :
    (history.story ticket).any kind = true ↔ ticket ∈ history.tickets kind := by
  rw [List.any_eq_true, tickets, List.mem_map]
  constructor
  · rintro ⟨note, told, is⟩
    exact ⟨(ticket, note), List.mem_filter.mpr ⟨mem_story.mp told, is⟩, rfl⟩
  · rintro ⟨⟨_, note⟩, member, rfl⟩
    obtain ⟨told, is⟩ := List.mem_filter.mp member
    exact ⟨note, mem_story.mpr told, is⟩

theorem wasAccepted_iff {history : History τ ρ} {ticket : Nat} :
    history.wasAccepted ticket = true ↔ ticket ∈ history.accepted := any_story

end History

namespace Floor

/-- The outcomes of the jobs that were stranded. -/
def stranded (history : History τ ρ) (floor : Floor ε τ ρ) : List (Delivery ρ) :=
  floor.deliveries.filter history.strands

/-! ## What becomes of a job -/

section Fates

variable {history later : History τ ρ} {before floor : Floor ε τ ρ} {delivery : Delivery ρ}

/-- The story of a job with an outcome explains the outcome. -/
theorem Accounted.explained (accounted : Accounted history floor)
    (delivered : delivery ∈ floor.deliveries) :
    ∃ job, floor.Ending job (history.story delivery.ticket) delivery.outcome :=
  accounted.fits _ (mem_whereabouts_of_delivered delivered)

/-- A job that is queued was accepted. -/
theorem Accounted.story_of_queued (accounted : Accounted history floor) {job : Job τ}
    (queued : job ∈ floor.queue) :
    history.story job.ticket = [.issued job, .answered (.ok ())] :=
  accounted.fits (job.ticket, .queued job) (mem_whereabouts.mpr (.inr (.inl ⟨job, queued, rfl⟩)))

/-- A job that was handed over was accepted. -/
theorem Accounted.story_of_handed (accounted : Accounted history floor) {index : Nat} {job : Job τ}
    (handed : floor.desks[index]? = some (.handed job)) :
    history.story job.ticket = [.issued job, .answered (.ok ())] :=
  accounted.fits _ (floor.mem_whereabouts_of_desk handed (Multiset.mem_singleton_self _))

/-- A job that a worker is busy with was accepted and begun. -/
theorem Accounted.story_of_busy (accounted : Accounted history floor) {index : Nat} {job : Job τ}
    (busy : floor.desks[index]? = some (.busy job)) :
    ∃ original : Job τ, history.story job.ticket =
      [.issued original, .answered (.ok ()), .invoked original.task] := by
  obtain ⟨original, _, story⟩ := accounted.fits _
    (floor.mem_whereabouts_of_desk busy (Multiset.mem_singleton_self _))
  exact ⟨original, story⟩

/-- A job that was refused was not accepted. -/
theorem Accounted.not_accepted (accounted : Accounted history floor)
    (delivered : delivery ∈ floor.deliveries) (refused : delivery.ticket ∈ history.refused) :
    history.wasAccepted delivery.ticket = false := by
  obtain ⟨failure, told⟩ := History.mem_refused.mp refused
  have told : .answered (.error failure) ∈ history.story delivery.ticket :=
    History.mem_story.mpr told
  obtain ⟨job, ending⟩ := accounted.explained delivered
  rw [History.wasAccepted]
  generalize history.story delivery.ticket = story at told ending
  generalize delivery.outcome = outcome at ending
  cases ending with
  | refused => rfl
  | skipped | stranded | abandoned | finished => simp at told

/-- What becomes of a job is decided when it has its outcome. -/
theorem Accounted.settles_stable (accounted : Accounted history before)
    (accounted_later : Accounted (history ++ later) floor)
    (delivered : delivery ∈ before.deliveries) (kept : delivery ∈ floor.deliveries)
    (shut : before.shut = true → later.begun = []) :
    (history ++ later).settles delivery = history.settles delivery := by
  obtain ⟨job, early⟩ := accounted.explained delivered
  obtain ⟨other, late⟩ := accounted_later.explained kept
  rw [History.story_append] at late
  have unbegun : before.shut = true →
      (later.story delivery.ticket).any Note.isBeginning = false := by
    intro down
    rw [Bool.eq_false_iff]
    intro begins
    have member := History.any_story.mp begins
    rw [show later.tickets Note.isBeginning = [] from shut down] at member
    cases member
  unfold History.settles History.strands History.wasAccepted History.hasBegun Delivery.isShutdown
  rw [History.story_append]
  generalize history.story delivery.ticket = story at early late
  generalize later.story delivery.ticket = more at late unbegun
  generalize delivery.outcome = outcome at early late
  cases early with
  | refused failure =>
      obtain rfl : more = [] := by
        cases late
        rfl
      rfl
  | skipped | abandoned => simp [Note.isAcceptance]
  | stranded down => simp [Note.isAcceptance, Note.isBeginning, unbegun down]
  | finished => simp [Note.isAcceptance, Note.isBeginning]

/-- A job that stood in line and has the outcome of a pool that was shut down is stranded. -/
theorem strands_of_story {job : Job τ} (outcome : delivery.outcome = .error .poolShutdown)
    (story : history.story delivery.ticket = [.issued job, .answered (.ok ())]) :
    history.strands delivery = true := by
  rw [History.strands, History.wasAccepted, History.hasBegun, story, Delivery.isShutdown, outcome]
  rfl

/-- A job that was accepted and is not stranded is settled. -/
theorem settles_of_not_strands (accepted : history.wasAccepted delivery.ticket = true)
    (unstranded : history.strands delivery = false) : history.settles delivery = true := by
  rw [History.settles, accepted, unstranded]
  rfl

/-- In an open pool no job is stranded. -/
theorem Accounted.not_strands (accounted : Accounted history floor)
    (delivered : delivery ∈ floor.deliveries) (open_ : floor.shut = false) :
    history.strands delivery = false := by
  obtain ⟨job, ending⟩ := accounted.explained delivered
  unfold History.strands History.wasAccepted History.hasBegun Delivery.isShutdown
  generalize history.story delivery.ticket = story at ending
  generalize delivery.outcome = outcome at ending
  cases ending with
  | refused | skipped | abandoned | finished => simp [Note.isAcceptance, Note.isBeginning]
  | stranded shut => cases open_.symm.trans shut

end Fates

/-! ## The balance along a run -/

/-- The counters agree with what the history tells and with what was delivered. -/
structure Balanced (history : History τ ρ) (floor : Floor ε τ ρ) : Prop where
  submitted : floor.submitted = history.accepted.length
  rejected : floor.rejected = history.refused.length
  reasons : floor.reasons.total = history.refused.length
  ordered : floor.reasons.Ordered
  completed : floor.completed = floor.deliveries.countP history.settles

namespace Balanced

variable {history later : History τ ρ} {before next : Floor ε τ ρ}

theorem make (workers capacity : Nat) (shared : ε) :
    Balanced [] (make workers capacity shared : Floor ε τ ρ) :=
  ⟨rfl, rfl, rfl, .nil, rfl⟩

/-- Outcomes of jobs that are decided go on to be decided. -/
theorem countP_stable (accounted : Accounted history before)
    (accounted_later : Accounted (history ++ later) next) {new : List (Delivery ρ)}
    (deliveries : next.deliveries = new ++ before.deliveries)
    (shut : before.shut = true → later.begun = []) :
    next.deliveries.countP (history ++ later).settles =
      new.countP (history ++ later).settles + before.deliveries.countP history.settles := by
  rw [deliveries, List.countP_append]
  congr 1
  refine List.countP_congr fun delivery delivered => ?_
  have kept : delivery ∈ next.deliveries := by
    rw [deliveries]
    exact List.mem_append_right _ delivered
  rw [accounted.settles_stable accounted_later delivered kept shut]

/-- Answers are entered. -/
theorem enters (balanced : Balanced history before) (accounted : Accounted history before)
    (enters : Enters later before next) (accounted_later : Accounted (history ++ later) next)
    (shut : before.shut = true → later.begun = []) : Balanced (history ++ later) next where
  submitted := by
    rw [enters.submitted, balanced.submitted, History.accepted_append, List.length_append]
  rejected := by
    rw [enters.rejected, balanced.rejected, History.refused_append, List.length_append]
  reasons := by
    rw [enters.reasons, balanced.reasons, History.refused_append, List.length_append]
  ordered := enters.ordered balanced.ordered
  completed := by
    obtain ⟨new, deliveries, refused⟩ := enters.refused
    have none : new.countP (history ++ later).settles = 0 := by
      apply List.countP_eq_zero.mpr
      intro delivery member settled
      have delivered : delivery ∈ next.deliveries := by
        rw [deliveries]
        exact List.mem_append_left _ member
      have unaccepted := accounted_later.not_accepted delivered (by
        rw [History.refused_append]
        exact List.mem_append_right _ (refused delivery member))
      rw [History.settles, unaccepted] at settled
      cases settled
    rw [countP_stable accounted accounted_later deliveries shut, none, Nat.zero_add,
      enters.completed, balanced.completed]

/-- Outcomes are delivered, as many of them of settled jobs as are counted. -/
theorem delivers (balanced : Balanced history before) (accounted : Accounted history before)
    {number : Nat} {new : List (Delivery ρ)} (delivers : Delivers number new before next)
    (accounted_later : Accounted (history ++ later) next)
    (shut : before.shut = true → later.begun = []) (unanswered : later.tickets Note.isAnswer = [])
    (counted : new.countP (history ++ later).settles = number) :
    Balanced (history ++ later) next := by
  have lengths := History.length_answered later
  rw [unanswered, List.length_nil] at lengths
  constructor
  · rw [delivers.submitted, balanced.submitted, History.accepted_append, List.length_append]
    omega
  · rw [delivers.rejected, balanced.rejected, History.refused_append, List.length_append]
    omega
  · rw [delivers.reasons, balanced.reasons, History.refused_append, List.length_append]
    omega
  · rw [delivers.reasons]
    exact balanced.ordered
  · rw [countP_stable accounted accounted_later delivers.deliveries shut, counted,
      delivers.completed, balanced.completed, Nat.add_comm]

/-- Nothing is entered and nothing becomes known. -/
theorem still (balanced : Balanced history before) (submitted : next.submitted = before.submitted)
    (rejected : next.rejected = before.rejected) (reasons : next.reasons = before.reasons)
    (completed : next.completed = before.completed)
    (deliveries : next.deliveries = before.deliveries) : Balanced (history ++ []) next := by
  rw [List.append_nil]
  constructor
  · rw [submitted, balanced.submitted]
  · rw [rejected, balanced.rejected]
  · rw [reasons, balanced.reasons]
  · rw [reasons]
    exact balanced.ordered
  · rw [completed, deliveries, balanced.completed]

variable [Trade ε τ ρ] {floor : Floor ε τ ρ}

/-- A worker's turn. -/
theorem work (balanced : Balanced history floor) (sound : Sound history floor) (index : Nat)
    (sound_later : Sound (history ++ floor.workNotes index) (floor.work index))
    (shut : floor.shut = true → (floor.workNotes index).begun = []) :
    Balanced (history ++ floor.workNotes index) (floor.work index) := by
  have unanswered : (floor.workNotes index).tickets Note.isAnswer = [] :=
    tickets_workNotes (fun _ => rfl) (fun _ => rfl) index
  cases floor.workEntry_work index with
  | nothing delivers =>
      exact balanced.delivers sound.accounted delivers sound_later.accounted shut unanswered rfl
  | strands job found down delivers =>
      refine balanced.delivers sound.accounted delivers sound_later.accounted shut unanswered ?_
      have silent : floor.workNotes index = [] := by
        rw [workNotes, found, down]
        rfl
      have stranded : (history ++ floor.workNotes index).strands
          (⟨job.ticket, .error .poolShutdown, floor.now⟩ : Delivery ρ) = true := by
        rw [silent, List.append_nil]
        exact strands_of_story rfl (sound.accounted.story_of_handed found)
      rw [List.countP_singleton, History.settles, stranded, Bool.not_true, Bool.and_false]
      rfl
  | completes job outcome instant found delivers =>
      refine balanced.delivers sound.accounted delivers sound_later.accounted shut unanswered ?_
      have delivered : ⟨job.ticket, outcome, instant⟩ ∈ (floor.work index).deliveries := by
        rw [delivers.deliveries]
        exact List.mem_cons_self
      rw [List.countP_singleton, if_pos]
      rcases found with busy | ⟨handed, open_⟩
      · obtain ⟨original, story⟩ := sound.accounted.story_of_busy busy
        apply settles_of_not_strands
        · rw [History.wasAccepted, History.story_append, story]
          rfl
        · rw [History.strands, History.hasBegun, History.story_append, story]
          simp [Note.isBeginning]
      · apply settles_of_not_strands
        · rw [History.wasAccepted, History.story_append, sound.accounted.story_of_handed handed]
          rfl
        · exact sound_later.accounted.not_strands delivered (delivers.shut.trans open_)

omit [Trade ε τ ρ] in
/-- The dispatcher's turn. -/
theorem dispatch (balanced : Balanced history floor) (sound : Sound history floor)
    (sound_later : Sound history floor.dispatch) : Balanced (history ++ []) floor.dispatch := by
  obtain ⟨new, delivers, stranded⟩ := floor.delivers_dispatch
  have later : Accounted (history ++ []) floor.dispatch := by
    rw [List.append_nil]
    exact sound_later.accounted
  refine balanced.delivers sound.accounted delivers later (fun _ => rfl) rfl ?_
  rw [List.append_nil]
  apply List.countP_eq_zero.mpr
  intro delivery member
  obtain ⟨_, outcome, job, queued, same⟩ := stranded delivery member
  have story := sound.accounted.story_of_queued queued
  rw [same] at story
  rw [History.settles, strands_of_story outcome story, Bool.not_true, Bool.and_false]
  exact Bool.false_ne_true

/-- Every event keeps the balance. -/
theorem after (balanced : Balanced history floor) (sound : Sound history floor)
    {event : Event ε τ} (proper : floor.Proper event) :
    Balanced (history ++ floor.notes event) (floor.after event) := by
  have sound_later := sound.after event proper
  have shut : floor.shut = true → (floor.notes event).begun = [] :=
    fun down => begun_notes_of_shut down event
  have unready : ∀ actor, Balanced history (floor.unready actor) := fun actor =>
    ⟨balanced.submitted, balanced.rejected, balanced.reasons, balanced.ordered, balanced.completed⟩
  cases event with
  | submit scope task =>
      exact balanced.enters sound.accounted (floor.enters_submit scope task) sound_later.accounted
        shut
  | submitWithin wait scope task =>
      exact balanced.enters sound.accounted (enters_submitWithin wait scope task)
        sound_later.accounted shut
  | executeBatch wait scope tasks =>
      exact balanced.enters sound.accounted (enters_executeBatch wait scope tasks)
        sound_later.accounted shut
  | shutdown limit =>
      change Balanced (history ++ []) (floor.shutdown limit).1
      rcases floor.shutdown_cases limit with ⟨_, shutEq⟩ | ⟨_, _, shutEq⟩ | ⟨_, _, shutEq⟩
      · rw [shutEq]
        exact balanced.still rfl rfl rfl rfl rfl
      · rw [shutEq]
        exact balanced.still rfl rfl rfl rfl rfl
      · rw [shutEq]
        exact balanced.still rfl rfl rfl rfl rfl
  | turn actor =>
      have resting := sound.unready actor
      cases actor with
      | dispatcher => exact (unready _).dispatch resting resting.dispatch
      | worker index => exact (unready _).work resting index sound_later shut
      | caller number =>
          exact (unready _).enters resting.accounted (enters_attend number _)
            sound_later.accounted shut
      | guest number => exact (unready (.guest number)).still rfl rfl rfl rfl rfl
      | timer number => exact (unready (.timer number)).still rfl rfl rfl rfl rfl
  | openScope | openChild | cancel | plan | disturb | rearrange | pass =>
      exact balanced.still rfl rfl rfl rfl rfl

end Balanced

/-- The balance is kept along every run of a pool. -/
theorem Arises.balanced [Trade ε τ ρ] {history : History τ ρ} {floor : Floor ε τ ρ}
    (arises : Arises history floor) : Balanced history floor := by
  obtain ⟨workers, capacity, shared, run⟩ := arises
  induction run with
  | refl => exact .make workers capacity shared
  | tail event run allowed ih =>
      exact ih.after (Arises.sound ⟨workers, capacity, shared, run⟩) allowed.proper

/-! ## What the counters say -/

section Quiet

variable {history : History τ ρ} {floor : Floor ε τ ρ}

/-- No two outcomes have the same ticket. -/
theorem Accounted.nodup_deliveries (accounted : Accounted history floor) :
    (floor.deliveries.map Delivery.ticket).Nodup := by
  apply List.nodup_iff_count_le_one.mpr
  intro ticket
  have counted : floor.whereabouts.countP (·.1 = ticket) ≤ 1 := by
    rw [accounted.once]
    split <;> omega
  calc (floor.deliveries.map Delivery.ticket).count ticket
      = (deliveryPlaces (τ := τ) floor.deliveries).countP (·.1 = ticket) := by
        rw [countP_deliveryPlaces, List.count, List.countP_map, ← List.countP_eq_length_filter]
        rfl
    _ ≤ floor.whereabouts.countP (·.1 = ticket) :=
        Multiset.countP_le_of_le _ (Multiset.le_add_left _ _)
    _ ≤ 1 := counted

/-- A job that is not pending has an outcome. -/
theorem exists_delivery_of_not_isPending {ticket : Nat} (ended : floor.isPending ticket = false) :
    ∃ delivery ∈ floor.deliveries, delivery.ticket = ticket := by
  rw [isPending] at ended
  cases known : floor.outcome? ticket with
  | none =>
      rw [known] at ended
      cases ended
  | some delivery =>
      obtain ⟨delivered, same⟩ := exists_delivery_of_outcome? known
      exact ⟨delivery, delivered, same⟩

/-- The tickets of the accepted jobs that have an outcome. -/
def ended (history : History τ ρ) (floor : Floor ε τ ρ) : List Nat :=
  (floor.deliveries.filter fun delivery => history.wasAccepted delivery.ticket).map Delivery.ticket

/-- A job is run, or is queued, or has an outcome, and never two of these. -/
theorem Accounted.nodup_fates (accounted : Accounted history floor) :
    (floor.running history ++ (floor.queue.map Job.ticket ++ floor.ended history)).Nodup := by
  have queued_place : ∀ ticket ∈ floor.queue.map Job.ticket,
      ∃ job, (ticket, .queued job) ∈ floor.whereabouts := by
    intro ticket member
    obtain ⟨job, listed, rfl⟩ := List.mem_map.mp member
    exact ⟨job, mem_whereabouts.mpr (.inr (.inl ⟨job, listed, rfl⟩))⟩
  have ended_place : ∀ ticket ∈ floor.ended history,
      ∃ outcome, (ticket, .delivered outcome) ∈ floor.whereabouts := by
    intro ticket member
    obtain ⟨delivery, filtered, rfl⟩ := List.mem_map.mp member
    exact ⟨_, mem_whereabouts_of_delivered (List.mem_filter.mp filtered).1⟩
  have ended_nodup : (floor.ended history).Nodup :=
    accounted.nodup_deliveries.sublist (List.filter_sublist.map _)
  refine List.nodup_append.mpr ⟨List.nodup_range.filter _,
    List.nodup_append.mpr ⟨accounted.nodup_queue, ended_nodup, ?_⟩, ?_⟩
  · rintro ticket queued _ ended rfl
    obtain ⟨_, here⟩ := queued_place ticket queued
    obtain ⟨_, there⟩ := ended_place ticket ended
    cases accounted.place_unique here there
  · rintro ticket running _ elsewhere rfl
    obtain ⟨job, seated, rfl⟩ := accounted.mem_running_iff.mp running
    have here := mem_whereabouts_of_busy seated
    rcases List.mem_append.mp elsewhere with queued | ended
    · obtain ⟨_, there⟩ := queued_place _ queued
      cases accounted.place_unique here there
    · obtain ⟨_, there⟩ := ended_place _ ended
      cases accounted.place_unique here there

/-- When no job is between the queue and a worker, a job was accepted exactly if it is run, or is
queued, or was accepted and has an outcome. -/
theorem Accounted.mem_accepted_iff (accounted : Accounted history floor)
    (unhanded : ∀ job, .handed job ∉ floor.desks) {ticket : Nat} :
    ticket ∈ history.accepted ↔ ticket ∈ floor.running history ∨
      ticket ∈ floor.queue.map Job.ticket ∨ ticket ∈ floor.ended history := by
  constructor
  · intro accepted
    have told := History.mem_accepted.mp accepted
    cases pending : floor.isPending ticket with
    | true =>
        have standing := accounted.standing (accounted.told_lt told) pending
        have answered : .answered (.ok ()) ∈ history.story ticket := History.mem_story.mpr told
        generalize history.story ticket = story at standing answered
        cases standing with
        | offered => simp at answered
        | queued listed same => exact .inr (.inl (List.mem_map.mpr ⟨_, listed, same⟩))
        | handed seated => exact absurd seated (unhanded _)
        | running seated same => exact .inl (accounted.mem_running_iff.mpr ⟨_, seated, same⟩)
    | false =>
        obtain ⟨delivery, delivered, rfl⟩ := exists_delivery_of_not_isPending pending
        exact .inr (.inr (List.mem_map.mpr ⟨delivery, List.mem_filter.mpr
          ⟨delivered, History.wasAccepted_iff.mpr accepted⟩, rfl⟩))
  · rintro (running | queued | ended)
    · obtain ⟨job, seated, rfl⟩ := accounted.mem_running_iff.mp running
      obtain ⟨index, found⟩ := List.mem_iff_getElem?.mp seated
      obtain ⟨original, story⟩ := accounted.story_of_busy found
      rw [← History.wasAccepted_iff, History.wasAccepted, story]
      rfl
    · obtain ⟨job, listed, rfl⟩ := List.mem_map.mp queued
      rw [← History.wasAccepted_iff, History.wasAccepted, accounted.story_of_queued listed]
      rfl
    · obtain ⟨delivery, filtered, rfl⟩ := List.mem_map.mp ended
      exact History.wasAccepted_iff.mp (List.mem_filter.mp filtered).2

/-- The jobs that were accepted are those that are run, those that are queued, and those that
have an outcome. -/
theorem Accounted.length_accepted (accounted : Accounted history floor)
    (unhanded : ∀ job, .handed job ∉ floor.desks) :
    history.accepted.length = (floor.running history).length + floor.queue.length +
      (floor.ended history).length := by
  have parted : history.accepted.Perm
      (floor.running history ++ (floor.queue.map Job.ticket ++ floor.ended history)) := by
    refine (List.perm_ext_iff_of_nodup accounted.nodup_accepted accounted.nodup_fates).mpr ?_
    intro ticket
    rw [List.mem_append, List.mem_append]
    exact accounted.mem_accepted_iff unhanded
  rw [parted.length_eq, List.length_append, List.length_append, List.length_map, Nat.add_assoc]

/-- The outcomes of accepted jobs are those of settled jobs and those of stranded ones. -/
theorem countP_accepted (history : History τ ρ) (deliveries : List (Delivery ρ)) :
    deliveries.countP (fun delivery => history.wasAccepted delivery.ticket) =
      deliveries.countP history.settles + deliveries.countP history.strands := by
  induction deliveries with
  | nil => rfl
  | cons delivery rest ih =>
      rw [List.countP_cons, List.countP_cons, List.countP_cons, ih]
      have one : (if history.wasAccepted delivery.ticket = true then 1 else 0) =
          (if history.settles delivery = true then 1 else 0) +
            if history.strands delivery = true then 1 else 0 := by
        unfold History.settles History.strands
        cases history.wasAccepted delivery.ticket with
        | false => rfl
        | true => cases history.hasBegun delivery.ticket <;> cases delivery.isShutdown <;> rfl
      omega

/-- When nobody is ready, the counters of a pool tell what became of the submissions. -/
structure CountersTell (history : History τ ρ) (floor : Floor ε τ ρ) : Prop where
  /-- Each submission that has returned is counted. -/
  calls : floor.submitted + floor.rejected = (history.tickets Note.isAnswer).length
  /-- Each job that was accepted is completed, queued, running or stranded. -/
  jobs : floor.submitted = floor.completed + floor.queued + (floor.running history).length +
    (floor.stranded history).length
  /-- Each submission that failed is counted as rejected. -/
  refusals : floor.rejected = history.refused.length
  /-- There is one exported series for each reason. -/
  reasons : ((Metrics.Exposition.ofRejections floor.reasons).counters.map Prod.fst).Nodup
  /-- The exported series count the rejections. -/
  exported : ((Metrics.Exposition.ofRejections floor.reasons).counters.map Prod.snd).sum =
    floor.rejected

/-- Whatever has happened to a pool, before, during and after its shutdown: when nobody is ready,
its counters account for all submissions and for all jobs that were accepted. -/
theorem counters_conserve_jobs [Trade ε τ ρ] (arises : Arises history floor)
    (quiet : floor.agenda.ready = []) : CountersTell history floor := by
  have accounted := arises.sound.accounted
  have balanced := arises.balanced
  constructor
  · rw [balanced.submitted, balanced.rejected, History.length_answered]
  · have accepted := accounted.length_accepted (arises.alert.not_handed quiet)
    rw [ended, List.length_map, ← List.countP_eq_length_filter, countP_accepted] at accepted
    rw [balanced.submitted, balanced.completed, arises.queued_eq quiet, stranded,
      ← List.countP_eq_length_filter, accepted]
    omega
  · exact balanced.rejected
  · exact Metrics.Exposition.nodup_names balanced.ordered _ _
  · rw [balanced.rejected, ← balanced.reasons]
    exact Metrics.Exposition.sum_counters floor.reasons _ _

end Quiet

/-- One job is run and one is queued, and a submission waits for room, when the pool is shut down.
The queued job is stranded and the submission refused, and so is one that comes later. -/
def drainingEvents : List (Event DrillGround Drill) :=
  occupiedEvents ++ [.shutdown (Span.ofMillis 200), .turn .dispatcher, .turn (.caller 0),
    .turn (.caller 1), .submit 0 soloDrill]

theorem counters_conserve_jobs_draining :
    (soloPool.afterAll drainingEvents).agenda.ready = [] ∧
      CountersTell (soloPool.notesAll drainingEvents) (soloPool.afterAll drainingEvents) ∧
      (soloPool.afterAll drainingEvents).submitted = 2 ∧
      (soloPool.afterAll drainingEvents).rejected = 2 ∧
      (soloPool.afterAll drainingEvents).running (soloPool.notesAll drainingEvents) = [0] ∧
      ((soloPool.afterAll drainingEvents).stranded (soloPool.notesAll drainingEvents)).map
        Delivery.ticket = [1] := by
  have arises :
      Arises (soloPool.notesAll drainingEvents) (soloPool.afterAll drainingEvents) := by
    have allowed : soloPool.AllowedAll drainingEvents := by decide
    exact ⟨1, 1, {}, allowed.run⟩
  exact ⟨rfl, counters_conserve_jobs arises rfl, rfl, rfl, rfl, rfl⟩

end Floor

end RiskGate.Pool
