import RiskGate.Proofs.Engine.Log
import RiskGate.Proofs.Pool.Reporting

/-!
# The stories of requests

The story of a request is what the log has for it.  A single request has no story until
it is answered, and then one verdict, the one on its answer.

The story of an item of a batch begins when its job is done.  What the pool itself
delivers is not recorded, so an item that never ran has no story until its batch ends;
then the batch records what is missing.  An item may have run although its batch does not
report so, and its story is then another one than the report, but no verdict is added to
it: the slot of the item is claimed if and only if its story is counted.
-/

namespace RiskGate.Engine

open Schedule (Agenda)
open Pool (Floor Batch Job Delivery)

/-! ## Stories -/

/-- The story of a request that was answered by its own errand. -/
def Told {α : Type} (story : List Verdict) : Outcome α → Prop
  | .ok _ => story = [.succeeded] ∨ story = [.remembered]
  | .error failure => story = [.failed failure.kind]

/-- The story of an item whose job is done.  The pool does not record its own failures. -/
def Settled (story : List Verdict) : Outcome Assessment → Prop
  | .ok value => Told story (.ok value)
  | .error failure => if failure.isOfPool = true then story = [] else story = [.failed failure.kind]

/-- The story of an item that its batch has reported. -/
def Reported (story : List Verdict) : Outcome Assessment → Prop
  | .ok value => Told story (.ok value)
  | .error _ => story.countP Verdict.isCounted = 1

/-- An item is counted under the kind under which its batch has reported it, unless this is
the kind that stands for outcomes that were lost. -/
def Faithful (lost : FailureKind) (story : List Verdict) : Outcome Assessment → Prop
  | .ok _ => True
  | .error failure => failure.kind = lost ∨ .failed failure.kind ∈ story

/-- The story of an item of a batch under way: its job has no outcome and no story, or
has an outcome and the story of it. -/
def Pending (story : List Verdict) (ticket? : Option Nat)
    (deliveries : List (Delivery Assessment)) :
    Prop :=
  (story = [] ∧ ∀ delivery ∈ deliveries, ticket? ≠ some delivery.ticket) ∨
    ∃ delivery ∈ deliveries, ticket? = some delivery.ticket ∧ Settled story delivery.outcome

/-- The story of a guest, who shares its slot with nobody. -/
def Guest.Told (story : List Verdict) (guest : Guest) : Prop :=
  match guest.state with
  | .running errand => story = [] ∧ errand.slot = none
  | .answered outcome _ => Engine.Told story outcome

/-- The story of a guest whose errand is resumed. -/
theorem Errand.told_resume {operation : Operation} {errand : Errand operation}
    (alone : errand.slot = none) (cancelled : Bool) (now scope : Nat) (core : Core) :
    (Guest.mk scope operation (.of now (errand.resume cancelled now core).2)).Told
        (errand.verdicts cancelled now core) ∧
      (errand.verdicts cancelled now core).countP Verdict.isCounted ≤ 1 := by
  have free : core.isFree errand.slot = true := by
    rw [alone]
    rfl
  unfold Errand.verdicts
  rcases errand.course_resume cancelled now core with
    ⟨value, remembered, resumeEq⟩ | ⟨notRemembered, course⟩
  · rw [resumeEq, remembered]
    exact ⟨Or.inr rfl, Nat.zero_le _⟩
  · rw [notRemembered, free]
    generalize errand.resume cancelled now core = result at course
    obtain ⟨left, progress⟩ := result
    cases course with
    | waits => exact ⟨⟨rfl, alone⟩, Nat.zero_le _⟩
    | ends outcome ownFailure records =>
        refine ⟨?_, List.countP_le_length⟩
        cases outcome with
        | ok value => exact Or.inl rfl
        | error failure => exact rfl

/-- A failure of the pool settles an item without a story. -/
theorem settled_of_isOfPool {delivery : Delivery Assessment} (ofPool : delivery.IsOfPool) :
    Settled [] delivery.outcome := by
  obtain ⟨failure, failed, isOfPool⟩ := ofPool
  rw [failed, Settled, if_pos isOfPool]

/-- What the pool itself does keeps stories as they should be. -/
theorem Pending.calm {story : List Verdict} {old new : List Nat} {index bound : Nat}
    {deliveries added : List (Delivery Assessment)} (pending : Pending story old[index]? deliveries)
    (extends_ : Floor.Extends bound old new)
    (issued : ∀ delivery ∈ deliveries, delivery.ticket < bound)
    (ofPool : ∀ delivery ∈ added, delivery.IsOfPool) :
    Pending story new[index]? (added ++ deliveries) := by
  rcases pending with ⟨rfl, undelivered⟩ | ⟨delivery, delivered, ticket, settled⟩
  · by_cases known : ∃ delivery ∈ added, new[index]? = some delivery.ticket
    · obtain ⟨delivery, isNew, ticket⟩ := known
      exact .inr ⟨delivery, List.mem_append_left _ isNew, ticket,
        settled_of_isOfPool (ofPool delivery isNew)⟩
    · refine .inl ⟨rfl, ?_⟩
      intro delivery delivered ticket
      rcases List.mem_append.mp delivered with isNew | isOld
      · exact known ⟨delivery, isNew, ticket⟩
      · rcases extends_.old_or_new ticket with before | fresh
        · exact undelivered delivery isOld before
        · exact Nat.not_le_of_lt (issued delivery isOld) fresh
  · exact .inr ⟨delivery, List.mem_append_right _ delivered, extends_.getElem? ticket, settled⟩

/-- Nothing happens to an item when the outcome of another one is delivered. -/
theorem Pending.other {story : List Verdict} {ticket? : Option Nat}
    {deliveries added : List (Delivery Assessment)} (pending : Pending story ticket? deliveries)
    (others : ∀ delivery ∈ added, ticket? ≠ some delivery.ticket) :
    Pending story ticket? (added ++ deliveries) := by
  rcases pending with ⟨rfl, undelivered⟩ | ⟨delivery, delivered, rest⟩
  · refine .inl ⟨rfl, ?_⟩
    intro delivery delivered
    rcases List.mem_append.mp delivered with isNew | isOld
    · exact others delivery isNew
    · exact undelivered delivery isOld
  · exact .inr ⟨delivery, List.mem_append_right _ delivered, rest⟩

/-- When a job is resumed whose outcome nobody knows, what is recorded is the verdict on
the outcome that is delivered. -/
theorem Errand.pending_resume {core : Core} (now : Nat) {job : Job (Errand .assess)}
    {deliveries : List (Delivery Assessment)} (free : core.isFree job.task.slot = true)
    (undelivered : ∀ delivery ∈ deliveries, delivery.ticket ≠ job.ticket) :
    (job.task.verdicts false now core).countP Verdict.isCounted ≤ 1 ∧
      Pending (job.task.verdicts false now core) (some job.ticket)
        (Floor.outcomeDelivered job now (job.task.resume false now core).2 ++ deliveries) := by
  have fresh : ∀ delivery ∈ deliveries, some job.ticket ≠ some delivery.ticket :=
    fun delivery delivered ticket => undelivered delivery delivered (Option.some.inj ticket).symm
  unfold Errand.verdicts
  rcases job.task.course_resume false now core with
    ⟨value, remembered, resumeEq⟩ | ⟨notRemembered, course⟩
  · rw [resumeEq, remembered]
    exact ⟨Nat.zero_le _, .inr ⟨_, List.mem_cons_self, rfl, Or.inr rfl⟩⟩
  · rw [notRemembered, free]
    generalize job.task.resume false now core = result at course
    obtain ⟨left, progress⟩ := result
    cases course with
    | waits => exact ⟨Nat.zero_le _, .inl ⟨rfl, fresh⟩⟩
    | ends outcome ownFailure records =>
        refine ⟨List.countP_le_length, .inr ⟨_, List.mem_cons_self, rfl, ?_⟩⟩
        cases outcome with
        | ok value => exact Or.inl rfl
        | error failure =>
            have notOfPool : ¬failure.isOfPool = true := fun ofPool =>
              Bool.false_ne_true (ownFailure failure rfl ofPool)
            rw [Settled, if_neg notOfPool]
            rfl

/-! ## What the log says -/

/-- Everybody has the story that there should be. -/
structure Recorded (log : Log) (engine : Engine) : Prop where
  /-- A slot is claimed once its item is counted. -/
  claimed : ∀ slot, slot ∈ engine.core.claimed ↔
    (log.story (.item slot)).any Verdict.isCounted = true
  once : ∀ subject, (log.story subject).countP Verdict.isCounted ≤ 1
  guests : ∀ (number : Nat) (guest : Guest), engine.guests[number]? = some guest →
    guest.Told (log.story (.guest number))
  pending : ∀ (number : Nat) (round : Round), engine.rounds[number]? = some (.running round) →
    ∃ batch, engine.floor.batches round.caller = some batch ∧ ∀ index < round.size,
      Pending (log.story (.item (slotsBefore number engine.rounds + index))) batch.tickets[index]?
        engine.floor.deliveries
  answered : ∀ (number : Nat) (outcome : BatchOutcome) (instant : Nat),
    engine.rounds[number]? = some (.answered (.ok outcome) instant) → ∃ lost,
      ∀ (index : Nat) (item : Outcome Assessment), outcome.items[index]? = some item →
        Reported (log.story (.item (slotsBefore number engine.rounds + index))) item ∧
          Faithful lost (log.story (.item (slotsBefore number engine.rounds + index))) item
  /-- Nobody has a story who has not come yet. -/
  noGuest : ∀ number, engine.guests.length ≤ number → log.story (.guest number) = []
  noItem : ∀ slot, slots engine.rounds ≤ slot → log.story (.item slot) = []

namespace Recorded

variable {log : Log} {engine before after : Engine}

theorem make (settings : Config.Settings) (service : Service) :
    Recorded [] (make settings service) where
  claimed := fun _ => iff_of_false List.not_mem_nil nofun
  once := fun _ => Nat.zero_le _
  guests := by
    intro _ _ found
    cases found
  pending := nofun
  answered := nofun
  noGuest := fun _ _ => rfl
  noItem := fun _ _ => rfl

/-- The pool goes about its affairs. -/
theorem calm (recorded : Recorded log before) (guests : after.guests = before.guests)
    (rounds : after.rounds = before.rounds) (claimed : after.core.claimed = before.core.claimed)
    {bound : Nat} (grows : Floor.Grows bound before.floor.batches after.floor.batches)
    (issued : ∀ delivery ∈ before.floor.deliveries, delivery.ticket < bound)
    (added : ∃ new, after.floor.deliveries = new ++ before.floor.deliveries ∧
      ∀ delivery ∈ new, delivery.IsOfPool) : Recorded log after where
  claimed := by
    rw [claimed]
    exact recorded.claimed
  once := recorded.once
  guests := by
    rw [guests]
    exact recorded.guests
  pending := by
    intro number round found
    rw [rounds] at found ⊢
    obtain ⟨batch, batchFound, pending⟩ := recorded.pending number round found
    obtain ⟨later, laterFound, _, extends_⟩ := grows _ batch batchFound
    obtain ⟨new, deliveries, ofPool⟩ := added
    refine ⟨later, laterFound, fun index inside => ?_⟩
    rw [deliveries]
    exact (pending index inside).calm extends_ issued ofPool
  answered := by
    rw [rounds]
    exact recorded.answered
  noGuest := by
    rw [guests]
    exact recorded.noGuest
  noItem := by
    rw [rounds]
    exact recorded.noItem

/-- Nothing happens that anybody records. -/
theorem still (recorded : Recorded log before) (guests : after.guests = before.guests)
    (rounds : after.rounds = before.rounds) (claimed : after.core.claimed = before.core.claimed)
    (callers : after.floor.callers = before.floor.callers)
    (deliveries : after.floor.deliveries = before.floor.deliveries) : Recorded log after where
  claimed := by
    rw [claimed]
    exact recorded.claimed
  once := recorded.once
  guests := by
    rw [guests]
    exact recorded.guests
  pending := by
    intro number round found
    rw [rounds] at found ⊢
    rw [deliveries, Floor.batches, callers]
    exact recorded.pending number round found
  answered := by
    rw [rounds]
    exact recorded.answered
  noGuest := by
    rw [guests]
    exact recorded.noGuest
  noItem := by
    rw [rounds]
    exact recorded.noItem

/-! ## Verdicts that are added -/

section Added

variable {subject : Subject} {slot : Nat} {verdicts : List Verdict}

/-- Who had no story is counted as often as the verdicts say, and everybody else as before. -/
theorem once_added (recorded : Recorded log engine) (unheard : log.story subject = [])
    (counted : verdicts.countP Verdict.isCounted ≤ 1) (other : Subject) :
    ((log ++ Log.ofVerdicts subject verdicts).story other).countP Verdict.isCounted ≤ 1 := by
  by_cases isOwn : other = subject
  · rw [isOwn, Log.story_append_self unheard]
    exact counted
  · rw [Log.story_append_other isOwn]
    exact recorded.once other

/-- An item that had no story claims its slot if the verdicts count it. -/
theorem claimed_added (recorded : Recorded log engine) (unheard : log.story (.item slot) = [])
    {core : Core} (records : core.claimed =
      (if verdicts.any Verdict.isCounted then [slot] else []) ++ engine.core.claimed)
    (other : Nat) :
    other ∈ core.claimed ↔
      ((log ++ Log.ofVerdicts (.item slot) verdicts).story (.item other)).any
        Verdict.isCounted = true := by
  rw [records, List.mem_append]
  by_cases isOwn : other = slot
  · subst isOwn
    have unclaimed : other ∉ engine.core.claimed := by
      rw [recorded.claimed, unheard]
      exact Bool.false_ne_true
    rw [Log.story_append_self unheard]
    cases verdicts.any Verdict.isCounted with
    | true => simp
    | false => simpa using unclaimed
  · have distinct : Subject.item other ≠ .item slot := fun same => isOwn (Subject.item.inj same)
    rw [Log.story_append_other distinct, ← recorded.claimed]
    apply or_iff_right
    split
    · simpa using isOwn
    · exact List.not_mem_nil

end Added

/-! ## Single requests -/

/-- A guest without a story goes on, and perhaps ends. -/
theorem guest (recorded : Recorded log before) {number : Nat} {guest : Guest}
    {verdicts : List Verdict} (unheard : log.story (.guest number) = [])
    (told : guest.Told verdicts) (counted : verdicts.countP Verdict.isCounted ≤ 1)
    (found : after.guests[number]? = some guest)
    (others : ∀ other, other ≠ number → after.guests[other]? = before.guests[other]?)
    (grown : before.guests.length ≤ after.guests.length)
    (rounds : after.rounds = before.rounds) (claimed : after.core.claimed = before.core.claimed)
    (callers : after.floor.callers = before.floor.callers)
    (deliveries : after.floor.deliveries = before.floor.deliveries) :
    Recorded (log ++ Log.ofVerdicts (.guest number) verdicts) after := by
  have inRange : number < after.guests.length := (List.getElem?_eq_some_iff.mp found).1
  have own := Log.story_append_self unheard verdicts
  have same : ∀ subject, subject ≠ .guest number →
      (log ++ Log.ofVerdicts (.guest number) verdicts).story subject = log.story subject :=
    fun subject distinct => Log.story_append_other distinct log verdicts
  have another : ∀ other, other ≠ number → Subject.guest other ≠ .guest number :=
    fun other distinct eq => distinct (Subject.guest.inj eq)
  constructor
  · intro slot
    rw [claimed, same _ (Subject.item_ne_guest _ _)]
    exact recorded.claimed slot
  · exact recorded.once_added unheard counted
  · intro other state otherFound
    by_cases isOwn : other = number
    · subst isOwn
      cases found.symm.trans otherFound
      rw [own]
      exact told
    · rw [same _ (another other isOwn)]
      rw [others other isOwn] at otherFound
      exact recorded.guests other state otherFound
  · intro place round running
    rw [rounds] at running ⊢
    obtain ⟨batch, batchFound, pending⟩ := recorded.pending place round running
    refine ⟨batch, ?_, fun index inside => ?_⟩
    · rw [Floor.batches, callers]
      exact batchFound
    · rw [same _ (Subject.item_ne_guest _ _), deliveries]
      exact pending index inside
  · intro place outcome instant ended
    rw [rounds] at ended ⊢
    obtain ⟨lost, answered⟩ := recorded.answered place outcome instant ended
    refine ⟨lost, fun index report reportFound => ?_⟩
    rw [same _ (Subject.item_ne_guest _ _)]
    exact answered index report reportFound
  · intro other beyond
    rw [same _ (another other (by omega))]
    exact recorded.noGuest other (Nat.le_trans grown beyond)
  · intro slot beyond
    rw [rounds] at beyond
    rw [same _ (Subject.item_ne_guest _ _)]
    exact recorded.noItem slot beyond

/-! ## Items that are resumed -/

/-- The job of an item whose outcome nobody knows has no story, so its slot is free. -/
theorem unheard (recorded : Recorded log engine) {job : Job (Errand .assess)}
    {number index : Nat} {round : Round} {batch : Batch (Errand .assess) Assessment}
    (forItem : Orderly.ForItem engine.rounds engine.floor job number index round batch)
    (undelivered : ∀ delivery ∈ engine.floor.deliveries, delivery.ticket ≠ job.ticket) :
    log.story (.item (slotsBefore number engine.rounds + index)) = [] := by
  obtain ⟨held, heldFound, pending⟩ := recorded.pending number round forItem.found
  cases forItem.batchFound.symm.trans heldFound
  rcases pending index forItem.inside with ⟨nothing, _⟩ | ⟨delivery, delivered, ticket, _⟩
  · exact nothing
  · rw [forItem.ticket] at ticket
    exact absurd (Option.some.inj ticket).symm (undelivered delivery delivered)

/-- The slot of an item whose outcome nobody knows is free. -/
theorem unclaimed {plan : Nat → List (Errand .assess)} {aside : Option Nat}
    (recorded : Recorded log engine)
    (orderly : Orderly plan aside engine.floor engine.rounds engine.nextSlot)
    {job : Job (Errand .assess)} {number index : Nat} {round : Round}
    {batch : Batch (Errand .assess) Assessment}
    (forItem : Orderly.ForItem engine.rounds engine.floor job number index round batch)
    (undelivered : ∀ delivery ∈ engine.floor.deliveries, delivery.ticket ≠ job.ticket) :
    engine.core.isFree job.task.slot = true := by
  have unheard := recorded.unheard forItem undelivered
  rw [← orderly.firstSlot number round forItem.found] at unheard
  have unclaimed : round.firstSlot + index ∉ engine.core.claimed := by
    rw [recorded.claimed, unheard]
    exact Bool.false_ne_true
  rw [forItem.slot]
  simpa [Core.isFree] using unclaimed

section Resumed

variable {plan : Nat → List (Errand .assess)} {job : Job (Errand .assess)} {number index : Nat}
variable {round : Round} {batch : Batch (Errand .assess) Assessment}

/-- Nobody else waits for what is delivered for an item. -/
theorem otherwise_delivered
    (orderly : Orderly plan none engine.floor engine.rounds engine.nextSlot)
    (forItem : Orderly.ForItem engine.rounds engine.floor job number index round batch)
    {place item : Nat} {other : Round} (running : engine.rounds[place]? = some (.running other))
    {held : Batch (Errand .assess) Assessment}
    (heldFound : engine.floor.batches other.caller = some held)
    (isOther : slotsBefore place engine.rounds + item ≠ slotsBefore number engine.rounds + index)
    (now : Nat) (progress : Pool.Progress (Errand .assess) Assessment) :
    ∀ delivery ∈ Floor.outcomeDelivered job now progress,
      held.tickets[item]? ≠ some delivery.ticket := by
  intro delivery delivered ticket
  have isJob : delivery.ticket = job.ticket := by
    cases progress with
    | finished outcome => rw [List.mem_singleton.mp delivered]
    | suspended => cases delivered
  rw [isJob] at ticket
  obtain ⟨callerEq, rfl⟩ := orderly.traced.distinct _ _ _ _ _
    ⟨held, heldFound, ticket⟩ ⟨batch, forItem.batchFound, forItem.ticket⟩
  obtain rfl := orderly.solo _ _ _ _ running forItem.found callerEq
  exact isOther rfl

/-- The item of a job that is resumed. -/
theorem resumed (recorded : Recorded log before)
    (orderly : Orderly plan none before.floor before.rounds before.nextSlot)
    (forItem : Orderly.ForItem before.rounds before.floor job number index round batch)
    (undelivered : ∀ delivery ∈ before.floor.deliveries, delivery.ticket ≠ job.ticket)
    (guests : after.guests = before.guests) (rounds : after.rounds = before.rounds)
    (callers : after.floor.callers = before.floor.callers)
    (core : after.core = (job.task.resume false before.now before.core).1)
    (deliveries : after.floor.deliveries = Floor.outcomeDelivered job before.now
      (job.task.resume false before.now before.core).2 ++ before.floor.deliveries) :
    Recorded (log ++ Log.ofVerdicts (.item (round.firstSlot + index))
      (job.task.verdicts false before.now before.core)) after := by
  have unheard := recorded.unheard forItem undelivered
  have free := recorded.unclaimed orderly forItem undelivered
  have taskSlot : job.task.slot = some (round.firstSlot + index) := forItem.slot
  rw [orderly.firstSlot number round forItem.found] at taskSlot ⊢
  have records := (job.task.records_resume false before.now before.core).claimed
  rw [← core, taskSlot] at records
  obtain ⟨counted, settled⟩ := Errand.pending_resume before.now free undelivered
  rw [← deliveries] at settled
  have same : ∀ subject, subject ≠ .item (slotsBefore number before.rounds + index) →
      (log ++ Log.ofVerdicts (.item (slotsBefore number before.rounds + index))
        (job.task.verdicts false before.now before.core)).story subject = log.story subject :=
    fun subject distinct => Log.story_append_other distinct log _
  have another : ∀ other, other ≠ slotsBefore number before.rounds + index →
      Subject.item other ≠ .item (slotsBefore number before.rounds + index) :=
    fun other distinct eq => distinct (Subject.item.inj eq)
  refine ⟨recorded.claimed_added unheard records, recorded.once_added unheard counted,
    ?_, ?_, ?_, ?_, ?_⟩
  · rw [guests]
    intro place guest found
    rw [same _ (Subject.guest_ne_item _ _)]
    exact recorded.guests place guest found
  · intro place other running
    rw [rounds] at running ⊢
    obtain ⟨held, heldFound, pending⟩ := recorded.pending place other running
    refine ⟨held, ?_, fun item inside => ?_⟩
    · rw [Floor.batches, callers]
      exact heldFound
    by_cases isOwn : slotsBefore place before.rounds + item =
        slotsBefore number before.rounds + index
    · obtain ⟨rfl, rfl⟩ := slot_unique running inside forItem.found forItem.inside isOwn
      cases forItem.found.symm.trans running
      cases forItem.batchFound.symm.trans heldFound
      rw [Log.story_append_self unheard, forItem.ticket]
      exact settled
    · rw [same _ (another _ isOwn), deliveries]
      exact (pending item inside).other
        (otherwise_delivered orderly forItem running heldFound isOwn _ _)
  · intro place outcome instant ended
    rw [rounds] at ended ⊢
    obtain ⟨lost, answered⟩ := recorded.answered place outcome instant ended
    refine ⟨lost, fun item report reportFound => ?_⟩
    have distinct : slotsBefore place before.rounds + item ≠
        slotsBefore number before.rounds + index := by
      intro isOwn
      have inside : item < (Rounds.answered (.ok outcome) instant).size :=
        (List.getElem?_eq_some_iff.mp reportFound).1
      obtain ⟨rfl, _⟩ := slot_unique ended inside forItem.found forItem.inside isOwn
      cases forItem.found.symm.trans ended
    rw [same _ (another _ distinct)]
    exact answered item report reportFound
  · rw [guests]
    intro place beyond
    rw [same _ (Subject.guest_ne_item _ _)]
    exact recorded.noGuest place beyond
  · intro other beyond
    rw [rounds] at beyond
    have inside := slot_lt_slots forItem.found forItem.inside
    rw [same _ (another other (by omega))]
    exact recorded.noItem other beyond

end Resumed

/-! ## Batches that end -/

/-- What the log has for an item when its batch has recorded what is missing. -/
theorem story_recounted (recorded : Recorded log engine) (slot : Nat) (item : Outcome Assessment) :
    let story := log.story (.item slot) ++ missing slot engine.core item
    (story.any Verdict.isCounted = true ↔
      slot ∈ engine.core.claimed ∨ ∃ failure, item = .error failure) ∧
      story.countP Verdict.isCounted ≤ 1 := by
  have claimed := recorded.claimed slot
  have once := recorded.once (.item slot)
  dsimp only
  rw [List.any_append, Bool.or_eq_true, ← claimed, List.countP_append]
  cases item with
  | ok value => exact ⟨by simp [missing], once⟩
  | error failure =>
      by_cases taken : slot ∈ engine.core.claimed
      · rw [missing, if_neg (by simpa [Core.isFree] using taken)]
        exact ⟨by simp [taken], once⟩
      · have silent : (log.story (.item slot)).countP Verdict.isCounted = 0 := by
          rw [claimed] at taken
          rw [List.countP_eq_zero]
          simpa using taken
        rw [missing, if_pos (by simpa [Core.isFree] using taken), silent]
        exact ⟨by simp [Verdict.isCounted], Nat.le_refl _⟩

/-- An item that was counted once has one verdict that counts. -/
theorem countP_eq_one {story : List Verdict} (counted : story.any Verdict.isCounted = true)
    (once : story.countP Verdict.isCounted ≤ 1) : story.countP Verdict.isCounted = 1 := by
  obtain ⟨verdict, member, counts⟩ := List.any_eq_true.mp counted
  have positive := List.countP_pos_iff.mpr ⟨verdict, member, counts⟩
  omega

/-- What a batch reports for a job, if not as cancelled, is what was delivered for it. -/
theorem settled_of_reported {history : Pool.History (Errand .assess) Assessment}
    {floor : Floor Core (Errand .assess) Assessment} {batch : Batch (Errand .assess) Assessment}
    {story : List Verdict} {ticket : Nat} (accounted : floor.Accounted history)
    (collects : Floor.Collects batch floor)
    (pending : Pending story (some ticket) floor.deliveries)
    (known : batch.reported ticket ≠ .error .cancelled) :
    Settled story (batch.reported ticket) := by
  cases found : batch.collected.find? (·.1 == ticket) with
  | none =>
      refine absurd ?_ known
      rw [Batch.reported, found]
      rfl
  | some entry =>
      have ticketEq : entry.1 = ticket := by simpa using List.find?_some found
      have reportedEq : batch.reported ticket = entry.2 := by
        rw [Batch.reported, found]
        rfl
      obtain ⟨source, sourceDelivered, sourceTicket, sourceOutcome⟩ :=
        collects entry (List.mem_of_find?_eq_some found)
      rcases pending with ⟨_, undelivered⟩ | ⟨delivery, delivered, same, settled⟩
      · exact absurd (congrArg some (sourceTicket.trans ticketEq).symm)
          (undelivered source sourceDelivered)
      · have isSource : delivery = source :=
          accounted.delivery_unique delivered sourceDelivered
            ((Option.some.inj same).symm.trans (sourceTicket.trans ticketEq).symm)
        rw [reportedEq, ← sourceOutcome, ← isSource]
        exact settled

/-- The kind under which the items of a batch are reported whose outcomes were lost. -/
def lostKind (missed : Bool) : FailureKind :=
  if missed then .deadlineExceeded else .cancelled

/-- Relabelling leaves every outcome alone that is not a cancellation. -/
theorem relabel_cases (missed : Bool) (limit : Span) (outcome : Outcome Assessment) :
    (∃ failure, relabel missed limit outcome = .error failure ∧
        failure.kind = lostKind missed ∧ outcome = .error .cancelled) ∨
      relabel missed limit outcome = outcome ∧ outcome ≠ .error .cancelled := by
  unfold relabel
  split
  · left
    cases missed with
    | true => exact ⟨_, rfl, rfl, rfl⟩
    | false => exact ⟨_, rfl, rfl, rfl⟩
  next notCancelled => exact .inr ⟨rfl, notCancelled⟩

section Reports

variable {plan : Nat → List (Errand .assess)} {aside : Option Nat} {number : Nat} {round : Round}
variable {batch : Batch (Errand .assess) Assessment} {instant : Nat} {index : Nat}
variable {item : Outcome Assessment}

/-- What a batch reports for an item stands for an outcome that was lost, or the item has the
story of it. -/
theorem lost_or_settled (recorded : Recorded log engine)
    (orderly : Orderly plan aside engine.floor engine.rounds engine.nextSlot)
    (found : engine.rounds[number]? = some (.running round))
    (ended : engine.floor.callers[round.caller]? = some (.batched batch instant))
    (inside : index < round.size)
    (itemFound : (engine.reported round batch.outcomes)[index]? = some item) :
    (∃ failure, item = .error failure ∧ failure.kind =
      lostKind (engine.isCancelled round.scope && !engine.isCancelled round.outer)) ∨
      Settled (log.story (.item (round.firstSlot + index))) item := by
  obtain ⟨held, heldFound, pending⟩ := recorded.pending number round found
  have batchFound : engine.floor.batches round.caller = some batch := by
    rw [Floor.batches, ended]
    rfl
  cases batchFound.symm.trans heldFound
  obtain ⟨history, sound⟩ := orderly.sound
  obtain ⟨outcome, outcomeFound, relabelled⟩ :=
    Option.map_eq_some_iff.mp (List.getElem?_map.symm.trans itemFound)
  rw [batch.outcomes_getElem?] at outcomeFound
  obtain ⟨ticket, ticketFound, reported⟩ := Option.map_eq_some_iff.mp outcomeFound
  have waited := pending index inside
  rw [ticketFound, ← orderly.firstSlot number round found] at waited
  have settled := settled_of_reported sound.accounted
    (orderly.traced.collects _ _ batchFound) waited
  rw [reported] at settled
  rcases relabel_cases (engine.isCancelled round.scope && !engine.isCancelled round.outer)
    engine.settings.batchTimeout outcome with ⟨failure, failed, lost, _⟩ | ⟨kept, known⟩
  · exact .inl ⟨failure, relabelled.symm.trans failed, lost⟩
  · obtain rfl : outcome = item := kept.symm.trans relabelled
    exact .inr (settled known)

/-- An item that failed but was not counted as such was lost, or failed by the pool. -/
theorem lost_or_ofPool (recorded : Recorded log engine)
    (orderly : Orderly plan aside engine.floor engine.rounds engine.nextSlot)
    (found : engine.rounds[number]? = some (.running round))
    (ended : engine.floor.callers[round.caller]? = some (.batched batch instant))
    (inside : index < round.size) {failure : Failure}
    (itemFound : (engine.reported round batch.outcomes)[index]? = some (.error failure))
    (free : engine.core.isFree (some (round.firstSlot + index)) = true) :
    failure.kind = lostKind (engine.isCancelled round.scope && !engine.isCancelled round.outer) ∨
      failure.isOfPool = true := by
  rcases recorded.lost_or_settled orderly found ended inside itemFound with
    ⟨_, same, lost⟩ | settled
  · cases same
    exact .inl lost
  · by_contra other
    rw [Settled, if_neg fun ofPool => other (.inr ofPool)] at settled
    have claimed : round.firstSlot + index ∈ engine.core.claimed := by
      rw [recorded.claimed, settled]
      rfl
    rw [Core.isFree, Option.all_some, decide_eq_true_iff] at free
    exact free claimed

/-- What the log has for an item in the end fits what its batch reports. -/
theorem reported_and_faithful (recorded : Recorded log engine)
    (orderly : Orderly plan aside engine.floor engine.rounds engine.nextSlot)
    (found : engine.rounds[number]? = some (.running round))
    (ended : engine.floor.callers[round.caller]? = some (.batched batch instant))
    (inside : index < round.size)
    (itemFound : (engine.reported round batch.outcomes)[index]? = some item) :
    Reported (log.story (.item (round.firstSlot + index)) ++
        missing (round.firstSlot + index) engine.core item) item ∧
      Faithful (lostKind (engine.isCancelled round.scope && !engine.isCancelled round.outer))
        (log.story (.item (round.firstSlot + index)) ++
          missing (round.firstSlot + index) engine.core item) item := by
  have recounted := recorded.story_recounted (round.firstSlot + index) item
  have known := recorded.lost_or_settled orderly found ended inside itemFound
  cases item with
  | ok value =>
      rcases known with ⟨_, failed, _⟩ | settled
      · cases failed
      · rw [missing, List.append_nil]
        exact ⟨settled, trivial⟩
  | error failure =>
      refine ⟨countP_eq_one (recounted.1.mpr (.inr ⟨failure, rfl⟩)) recounted.2, ?_⟩
      rcases known with ⟨_, failed, lost⟩ | told
      · cases failed
        exact .inl lost
      · right
        apply List.mem_append.mpr
        rw [Settled] at told
        split at told
        · right
          have unclaimed : round.firstSlot + index ∉ engine.core.claimed := by
            rw [recorded.claimed, told]
            exact Bool.false_ne_true
          rw [missing, if_pos (by simpa [Core.isFree] using unclaimed)]
          exact List.mem_singleton_self _
        · left
          rw [told]
          exact List.mem_singleton_self _

end Reports

section Recounted

variable (first : Nat) (items : List (Outcome Assessment))

/-- A slot is claimed in the end if its item is counted. -/
theorem claimed_recounted (recorded : Recorded log engine) (slot : Nat) :
    slot ∈ (recount first items engine.core).claimed ↔
      ((log ++ recountEntries first items engine.core).story (.item slot)).any
        Verdict.isCounted = true := by
  rw [mem_claimed_recount, Log.story_append]
  by_cases isOwn : ∃ index < items.length, slot = first + index
  · obtain ⟨index, inside, rfl⟩ := isOwn
    have found := List.getElem?_eq_getElem inside
    rw [story_recount _ _ _ found, (recorded.story_recounted _ _).1]
    exact or_congr_right (failedAt_add found)
  · have other : ∀ index < items.length, Subject.item slot ≠ .item (first + index) :=
      fun index inside same => isOwn ⟨index, inside, Subject.item.inj same⟩
    rw [story_recount_other _ _ _ other, List.append_nil, recorded.claimed]
    apply or_iff_left
    rintro ⟨index, failure, failed, rfl⟩
    exact isOwn ⟨index, (List.getElem?_eq_some_iff.mp failed).1, rfl⟩

/-- Nobody is counted twice in the end. -/
theorem once_recounted (recorded : Recorded log engine) (subject : Subject) :
    ((log ++ recountEntries first items engine.core).story subject).countP
      Verdict.isCounted ≤ 1 := by
  rw [Log.story_append]
  by_cases isOwn : ∃ index < items.length, subject = .item (first + index)
  · obtain ⟨index, inside, rfl⟩ := isOwn
    rw [story_recount _ _ _ (List.getElem?_eq_getElem inside)]
    exact (recorded.story_recounted _ _).2
  · rw [story_recount_other _ _ _ fun index inside same => isOwn ⟨index, inside, same⟩,
      List.append_nil]
    exact recorded.once subject

end Recounted

/-- A batch has ended, and records what is missing. -/
theorem concludeRound {plan : Nat → List (Errand .assess)} {aside : Option Nat}
    (recorded : Recorded log engine)
    (orderly : Orderly plan aside engine.floor engine.rounds engine.nextSlot) {number : Nat}
    {round : Round} (found : engine.rounds[number]? = some (.running round))
    {batch : Batch (Errand .assess) Assessment} {instant : Nat}
    (ended : engine.floor.callers[round.caller]? = some (.batched batch instant)) :
    Recorded
      (log ++ recountEntries round.firstSlot (engine.reported round batch.outcomes) engine.core)
      (engine.concludeRound number round batch.outcomes) := by
  have length : (engine.reported round batch.outcomes).length = round.size := by
    rw [reported, List.length_map]
    exact orderly.outcomes_length found ended
  have firstSlot := orderly.firstSlot number round found
  have inRange : number < engine.rounds.length := (List.getElem?_eq_some_iff.mp found).1
  have rounds : (engine.concludeRound number round batch.outcomes).rounds =
      engine.rounds.set number
        (.answered (.ok ⟨engine.reported round batch.outcomes⟩) engine.now) := rfl
  have sizes := map_size_set found
    (show (Rounds.answered (.ok ⟨engine.reported round batch.outcomes⟩) engine.now).size = _
      from length)
  have same : ∀ subject, (∀ index < round.size, subject ≠ .item (round.firstSlot + index)) →
      (log ++ recountEntries round.firstSlot (engine.reported round batch.outcomes)
        engine.core).story subject = log.story subject := by
    intro subject other
    rw [Log.story_append, story_recount_other _ _ _ (by rwa [length]), List.append_nil]
  -- The items of another batch have slots of their own.
  have apart : ∀ (other : Nat) (state : Rounds) (index : Nat), engine.rounds[other]? = some state →
      index < state.size → other ≠ number → ∀ place < round.size,
        Subject.item (slotsBefore other engine.rounds + index) ≠
          .item (round.firstSlot + place) := by
    intro other state index otherFound inside distinct place within eq
    rw [firstSlot] at eq
    exact distinct (slot_unique otherFound inside found within (Subject.item.inj eq)).1
  refine ⟨recorded.claimed_recounted _ _, recorded.once_recounted _ _, ?_, ?_, ?_, ?_, ?_⟩
  · intro place guest guestFound
    rw [same _ fun _ _ => Subject.guest_ne_item _ _]
    exact recorded.guests place guest guestFound
  · intro other another running
    rw [rounds] at running ⊢
    rw [slotsBefore_congr sizes]
    by_cases isOwn : other = number
    · subst isOwn
      rw [List.getElem?_set_self inRange] at running
      cases running
    · rw [List.getElem?_set_ne (Ne.symm isOwn)] at running
      obtain ⟨held, heldFound, pending⟩ := recorded.pending other another running
      refine ⟨held, heldFound, fun index inside => ?_⟩
      rw [same _ (apart other _ index running inside isOwn)]
      exact pending index inside
  · intro other outcome answeredAt answered
    rw [rounds] at answered ⊢
    rw [slotsBefore_congr sizes]
    by_cases isOwn : other = number
    · subst isOwn
      rw [List.getElem?_set_self inRange] at answered
      cases answered
      refine ⟨lostKind (engine.isCancelled round.scope && !engine.isCancelled round.outer),
        fun index item itemFound => ?_⟩
      have inside : index < round.size := length ▸ (List.getElem?_eq_some_iff.mp itemFound).1
      rw [← firstSlot, Log.story_append, story_recount _ _ _ itemFound]
      exact recorded.reported_and_faithful orderly found ended inside itemFound
    · rw [List.getElem?_set_ne (Ne.symm isOwn)] at answered
      obtain ⟨lost, rest⟩ := recorded.answered other outcome answeredAt answered
      refine ⟨lost, fun index item itemFound => ?_⟩
      have inside : index < (Rounds.answered (.ok outcome) answeredAt).size :=
        (List.getElem?_eq_some_iff.mp itemFound).1
      rw [same _ (apart other _ index answered inside isOwn)]
      exact rest index item itemFound
  · intro place beyond
    rw [same _ fun _ _ => Subject.guest_ne_item _ _]
    exact recorded.noGuest place beyond
  · intro slot beyond
    rw [rounds, slots, sizes] at beyond
    have other : ∀ index < round.size, Subject.item slot ≠ .item (round.firstSlot + index) := by
      intro index inside eq
      have below : slotsBefore number engine.rounds + index < slots engine.rounds :=
        slot_lt_slots found inside
      have := Subject.item.inj eq
      rw [slots] at below
      omega
    rw [same _ other]
    exact recorded.noItem slot beyond

/-! ## Batches that begin -/

/-- A batch that is answered at once. -/
theorem refuse (recorded : Recorded log engine) {outcome : Outcome BatchOutcome}
    (empty : ∀ held, outcome = .ok held → held.items = []) :
    Recorded log (engine.answerRound outcome).1 := by
  have rounds : (engine.answerRound outcome).1.rounds =
      engine.rounds ++ [Rounds.answered outcome engine.now] := rfl
  have size : slots [Rounds.answered outcome engine.now] = 0 := by
    rw [slots_singleton]
    cases outcome with
    | error failure => rfl
    | ok held =>
        rw [Rounds.size, empty held rfl]
        rfl
  have old : ∀ (number : Nat) (state : Rounds), (engine.answerRound outcome).1.rounds[number]? =
      some state → engine.rounds[number]? = some state ∨ state = .answered outcome engine.now := by
    intro number state found
    rw [rounds] at found
    exact (Floor.getElem?_concat_cases found).imp_right And.right
  have before : ∀ (number : Nat) (state : Rounds), engine.rounds[number]? = some state →
      slotsBefore number (engine.answerRound outcome).1.rounds =
        slotsBefore number engine.rounds :=
    fun number state found =>
      slotsBefore_append _ (Nat.le_of_lt (List.getElem?_eq_some_iff.mp found).1)
  refine ⟨recorded.claimed, recorded.once, recorded.guests, ?_, ?_, recorded.noGuest, ?_⟩
  · intro number round running
    rcases old number _ running with there | isNew
    · rw [before number _ there]
      exact recorded.pending number round there
    · cases isNew
  · intro number held instant ended
    rcases old number _ ended with there | isNew
    · rw [before number _ there]
      exact recorded.answered number held instant there
    · cases isNew
      refine ⟨.cancelled, fun index item itemFound => ?_⟩
      rw [empty held rfl] at itemFound
      cases itemFound
  · intro slot beyond
    rw [rounds, slots_append, size] at beyond
    exact recorded.noItem slot beyond

/-- A batch is handed to the pool. -/
theorem begin (recorded : Recorded log before) {round : Round} {bound : Nat}
    (guests : after.guests = before.guests)
    (rounds : after.rounds = before.rounds ++ [.running round])
    (claimed : after.core.claimed = before.core.claimed)
    (grows : Floor.Grows bound before.floor.batches after.floor.batches)
    (issued : ∀ delivery ∈ before.floor.deliveries, delivery.ticket < bound)
    (added : ∃ new, after.floor.deliveries = new ++ before.floor.deliveries ∧
      ∀ delivery ∈ new, delivery.IsOfPool)
    (own : ∃ batch, after.floor.batches round.caller = some batch ∧
      ∀ ticket ∈ batch.tickets, bound ≤ ticket) : Recorded log after := by
  have entered : Recorded log { after with rounds := before.rounds } :=
    recorded.calm guests rfl claimed grows issued added
  have split : ∀ (number : Nat) (state : Rounds), after.rounds[number]? = some state →
      before.rounds[number]? = some state ∨
        number = before.rounds.length ∧ state = .running round := by
    intro number state found
    rw [rounds] at found
    exact Floor.getElem?_concat_cases found
  have slotsEq : ∀ number ≤ before.rounds.length,
      slotsBefore number after.rounds = slotsBefore number before.rounds := by
    intro number inside
    rw [rounds]
    exact slotsBefore_append _ inside
  have there : ∀ {number : Nat} {state : Rounds}, before.rounds[number]? = some state →
      number ≤ before.rounds.length :=
    fun found => Nat.le_of_lt (List.getElem?_eq_some_iff.mp found).1
  refine ⟨entered.claimed, entered.once, entered.guests, ?_, ?_, entered.noGuest, ?_⟩
  · intro number other running
    rcases split number _ running with found | ⟨rfl, isNew⟩
    · rw [slotsEq number (there found)]
      exact entered.pending number other found
    · cases isNew
      obtain ⟨batch, batchFound, fresh⟩ := own
      refine ⟨batch, batchFound, fun index inside => ?_⟩
      obtain ⟨new, deliveries, ofPool⟩ := added
      have unheard : log.story (.item (slotsBefore before.rounds.length after.rounds + index)) =
          [] := by
        rw [slotsEq _ (Nat.le_refl _), slotsBefore, List.take_length]
        exact recorded.noItem _ (Nat.le_add_right _ _)
      have nothing : Pending [] ([] : List Nat)[index]? before.floor.deliveries :=
        .inl ⟨rfl, fun _ _ => (Option.some_ne_none _).symm⟩
      rw [unheard, deliveries]
      exact nothing.calm ⟨batch.tickets, rfl, fresh⟩ issued ofPool
  · intro number outcome instant ended
    rcases split number _ ended with found | ⟨_, isNew⟩
    · rw [slotsEq number (there found)]
      exact entered.answered number outcome instant found
    · cases isNew
  · intro slot beyond
    rw [rounds, slots_append] at beyond
    exact recorded.noItem slot (Nat.le_trans (Nat.le_add_right _ _) beyond)

end Recorded

end RiskGate.Engine
