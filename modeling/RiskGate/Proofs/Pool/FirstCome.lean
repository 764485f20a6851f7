import RiskGate.Proofs.Pool.Precedence

/-!
# The order of jobs along a run in turn

In a run in turn the jobs are begun in the order in which they were accepted, and the
submissions that had to wait are accepted in the order in which they began to wait.  No
submission is accepted at once while another one is waiting.
-/

namespace RiskGate.Pool

open Schedule (Actor Agenda)

variable {ε τ ρ : Type}

namespace Floor

/-- The jobs are begun and accepted in order, as far as some tickets were accepted and begun
and had to wait. -/
structure Ordered (aside : Option Actor) (accepted begun waited : List Nat) (floor : Floor ε τ ρ) :
    Prop where
  lined : Lined aside floor
  given : ∀ ticket ∈ accepted ++ waited, ticket < floor.nextTicket
  begun_accepted : begun.Sublist accepted
  waited_accepted : (accepted.filter (· ∈ waited)).Sublist waited
  begins : floor.shut = false →
    (begun ++ floor.agenda.line.filterMap floor.inHand ++ floor.queue.map Job.ticket).Sublist
      accepted
  room : floor.dispatching = true → RoomOrder aside accepted waited floor

namespace Ordered

variable {aside : Option Actor} {accepted begun waited : List Nat} {floor : Floor ε τ ρ}

theorem make (workers capacity : Nat) (shared : ε) :
    Ordered none [] [] [] (Floor.make workers capacity shared : Floor ε τ ρ) where
  lined := .make workers capacity shared
  given := fun _ none => absurd none List.not_mem_nil
  begun_accepted := List.Sublist.slnil
  waited_accepted := List.Sublist.slnil
  begins := fun _ => List.Sublist.slnil
  room := fun _ => ⟨List.nodup_nil, fun _ none => absurd none List.not_mem_nil, rfl,
    fun _ _ none => absurd none List.not_mem_nil, List.Sublist.slnil⟩

/-! ## What concerns nobody in line -/

/-- Nothing is changed that the order of jobs depends on. -/
theorem frame {after : Floor ε τ ρ} (ordered : Ordered aside accepted begun waited floor)
    (agenda : after.agenda = floor.agenda) (desks : after.desks = floor.desks)
    (callers : after.callers = floor.callers) (queue : after.queue = floor.queue)
    (waiting : after.waiting = floor.waiting) (granted : after.granted = floor.granted)
    (shut : after.shut = floor.shut) (dispatching : after.dispatching = floor.dispatching)
    (nextTicket : floor.nextTicket ≤ after.nextTicket) :
    Ordered aside accepted begun waited after where
  lined := ordered.lined.frame agenda desks callers shut nextTicket
  given := fun ticket member => Nat.lt_of_lt_of_le (ordered.given ticket member) nextTicket
  begun_accepted := ordered.begun_accepted
  waited_accepted := ordered.waited_accepted
  begins := by
    have inHand : after.inHand = floor.inHand := by
      funext actor
      cases actor with
      | worker index => rw [Floor.inHand, desks, Floor.inHand]
      | dispatcher | caller | guest | timer => rfl
    rw [shut, agenda, inHand, queue]
    exact ordered.begins
  room := by
    rw [dispatching]
    intro dispatches
    have line : after.lineWith aside = floor.lineWith aside := by rw [lineWith, agenda, lineWith]
    exact (ordered.room dispatches).frame line callers waiting granted fun open_ => shut ▸ open_

/-- Some who do not want room are woken. -/
theorem rouses (ordered : Ordered aside accepted begun waited floor) {change : Agenda → Agenda}
    {news : Actor → Prop} (rouses : Agenda.Rouses news floor.agenda (change floor.agenda))
    (areNews : ∀ actor, news actor → floor.Rousable actor ∧ aside ≠ some actor) :
    Ordered aside accepted begun waited (floor.onAgenda change) where
  lined := ordered.lined.rouses rouses fun actor isNew =>
    (areNews actor isNew).imp_left Rousable.wakeable
  given := ordered.given
  begun_accepted := ordered.begun_accepted
  waited_accepted := ordered.waited_accepted
  begins := by
    intro open_
    obtain ⟨extra, lineEq, _, extraNew⟩ := rouses.line
    have empty : extra.filterMap floor.inHand = [] := by
      apply List.filterMap_eq_nil_iff.mpr
      intro actor member
      cases actor with
      | worker index =>
          rw [inHand, Option.bind_eq_none_iff]
          intro desk found
          cases desk with
          | handed job =>
              rcases List.mem_append.mp (ordered.lined.seated index job found) with acting | inLine
              · exact absurd (Option.mem_toList.mp acting) (areNews _ (extraNew _ member).2).2
              · exact absurd inLine (extraNew _ member).1
          | idle | busy | gone => rfl
      | dispatcher | caller | guest | timer => rfl
    change (begun ++ (change floor.agenda).line.filterMap floor.inHand ++
      floor.queue.map Job.ticket).Sublist accepted
    rw [lineEq, List.filterMap_append, empty, List.append_nil]
    exact ordered.begins open_
  room := fun dispatches => (ordered.room dispatches).rouses rouses areNews

theorem wakeAll (ordered : Ordered aside accepted begun waited floor) {actors : List Actor}
    (rousable : ∀ actor ∈ actors, floor.Rousable actor ∧ aside ≠ some actor) :
    Ordered aside accepted begun waited (floor.onAgenda (·.wakeAll actors)) :=
  ordered.rouses (floor.agenda.rouses_wakeAll fun _ member _ => member) rousable

/-- The dispatcher is woken. -/
theorem wakeDispatcher (ordered : Ordered aside accepted begun waited floor)
    (other : aside ≠ some .dispatcher) :
    Ordered aside accepted begun waited (floor.wake .dispatcher) := by
  refine ordered.rouses (floor.agenda.rouses_wake fun _ => rfl) ?_
  rintro actor rfl
  exact ⟨trivial, other⟩

theorem release (ordered : Ordered aside accepted begun waited floor) (actor : Actor) :
    Ordered aside accepted begun waited (floor.onAgenda (·.release actor)) := by
  have nobody : Agenda.Rouses (fun _ => False) floor.agenda (floor.agenda.release actor) :=
    floor.agenda.rouses_release actor
  exact ordered.rouses nobody nofun

theorem watch (ordered : Ordered aside accepted begun waited floor) {actor : Actor} (scope : Nat)
    (other : actor ≠ .dispatcher) (rousable : floor.Rousable actor) :
    Ordered aside accepted begun waited (floor.onAgenda (·.watch scope actor)) where
  lined := ordered.lined.watch scope other rousable
  given := ordered.given
  begun_accepted := ordered.begun_accepted
  waited_accepted := ordered.waited_accepted
  begins := ordered.begins
  room := fun dispatches => (ordered.room dispatches).frame rfl rfl rfl rfl id

theorem setAlarm (ordered : Ordered aside accepted begun waited floor) {actor : Actor} (due : Nat)
    (other : actor ≠ .dispatcher) (wakeable : floor.Wakeable actor) :
    Ordered aside accepted begun waited (floor.onAgenda (·.setAlarm due actor)) where
  lined := ordered.lined.setAlarm due other wakeable
  given := ordered.given
  begun_accepted := ordered.begun_accepted
  waited_accepted := ordered.waited_accepted
  begins := ordered.begins
  room := fun dispatches => (ordered.room dispatches).frame rfl rfl rfl rfl id

/-- A delivery wakes batches, which do not want room. -/
theorem deliver (ordered : Ordered aside accepted begun waited floor) (job : Job τ)
    (unaware : ∀ number state, aside = some (.caller number) →
      floor.callers[number]? = some state → state.awaits job.ticket = false) (outcome : Outcome ρ) :
    Ordered aside accepted begun waited (floor.deliver job outcome) := by
  have noted : Ordered aside accepted begun waited
      { floor with deliveries := ⟨job.ticket, outcome, floor.now⟩ :: floor.deliveries } :=
    ordered.frame rfl rfl rfl rfl rfl rfl rfl rfl (Nat.le_refl _)
  refine noted.wakeAll ?_
  intro actor member
  obtain ⟨number, awaits, rfl⟩ := List.mem_map.mp member
  obtain ⟨state, found, awaited⟩ := mem_callersWith_iff.mp awaits
  refine ⟨⟨state, found, ?_⟩, ?_⟩
  · cases state with
    | batching batch =>
        cases stage : batch.stage with
        | joining => rw [Caller.wantsRoom, stage]
        | offering => simp [Caller.awaits, stage] at awaited
    | offering | offered | batched | closing | closed => cases awaited
  · intro acting
    rw [unaware number state acting found] at awaited
    cases awaited

theorem reject (ordered : Ordered aside accepted begun waited floor) {job : Job τ}
    (unaware : ∀ number state, aside = some (.caller number) →
      floor.callers[number]? = some state → state.awaits job.ticket = false) (failure : Failure) :
    Ordered aside accepted begun waited (floor.reject job failure) := by
  have counted : Ordered aside accepted begun waited
      { floor with
        rejected := floor.rejected + 1
        reasons := floor.reasons.bump failure.kind.name } :=
    ordered.frame rfl rfl rfl rfl rfl rfl rfl rfl (Nat.le_refl _)
  exact counted.deliver job unaware _

theorem wakeClosers (ordered : Ordered aside accepted begun waited floor)
    (other : ∀ number, aside ≠ some (.caller number)) :
    Ordered aside accepted begun waited floor.wakeClosers := by
  refine ordered.wakeAll ?_
  intro actor member
  obtain ⟨number, closes, rfl⟩ := List.mem_map.mp member
  obtain ⟨state, found, closing⟩ := mem_callersWith_iff.mp closes
  refine ⟨⟨state, found, ?_⟩, other number⟩
  cases state with
  | closing => rfl
  | offering | offered | batching | batched | closed => cases closing

/-! ## Turns -/

/-- The first one in line takes its turn.  If it is a worker who begins a job, that job was
accepted before all others that are left. -/
theorem begin {actor : Actor} (ordered : Ordered none accepted begun waited floor)
    (inside : actor.isInsider = true) (first : floor.agenda.ready.head? = some actor) :
    Ordered (some actor) accepted begun waited (floor.unready actor) ∧
      ∀ ticket, floor.shut = false → floor.inHand actor = some ticket →
        Ordered (some actor) accepted (begun ++ [ticket]) waited (floor.unready actor) := by
  obtain ⟨lineEq, lined⟩ := ordered.lined.begin inside first
  have line : floor.agenda.line = actor :: (floor.unready actor).agenda.line := lineEq.symm
  have room : floor.dispatching = true →
      RoomOrder (some actor) accepted waited (floor.unready actor) :=
    fun dispatches => (ordered.room dispatches).frame lineEq rfl rfl rfl id
  refine ⟨⟨lined, ordered.given, ordered.begun_accepted, ordered.waited_accepted, ?_, room⟩, ?_⟩
  · intro open_
    have begins := ordered.begins open_
    rw [line] at begins
    refine List.Sublist.trans ?_ begins
    have later := (List.sublist_cons_self actor (floor.unready actor).agenda.line).filterMap
      floor.inHand
    exact (later.append_left begun).append_right _
  · intro ticket open_ inHand
    have begins := ordered.begins open_
    have moved : begun ++ floor.agenda.line.filterMap floor.inHand =
        begun ++ [ticket] ++ (floor.unready actor).agenda.line.filterMap floor.inHand := by
      rw [line, List.filterMap_cons_some inHand, List.append_assoc]
      rfl
    rw [moved] at begins
    refine ⟨lined, ordered.given, ?_, ordered.waited_accepted, fun _ => begins, room⟩
    rw [List.append_assoc] at begins
    exact (List.sublist_append_left _ _).trans begins

/-- Whoever has no job in hand and was not promised room goes out of line. -/
theorem leave {actor : Actor} (ordered : Ordered (some actor) accepted begun waited floor)
    (free : ∀ index job, actor = .worker index → floor.desks[index]? ≠ some (.handed job))
    (unpromised : ∀ number, actor = .caller number → floor.dispatching = true →
      number ∉ floor.granted) : Ordered none accepted begun waited floor where
  lined := ordered.lined.leave free
  given := ordered.given
  begun_accepted := ordered.begun_accepted
  waited_accepted := ordered.waited_accepted
  begins := ordered.begins
  room := fun dispatches => (ordered.room dispatches).leave ordered.lined.distinct
    fun number same => unpromised number same dispatches

/-! ## Callers -/

/-- A caller has no part in the places of the queue. -/
def Aloof (number : Nat) (floor : Floor ε τ ρ) : Prop :=
  floor.dispatching = true → number ∉ floor.granted ++ floor.waiting

/-- The caller has no part in the places of the queue, and nothing but the pool wakes it. -/
structure Detached (own : Nat) (floor : Floor ε τ ρ) : Prop where
  aloof : Aloof own floor
  unwatched : ∀ entry ∈ floor.agenda.watchers, entry.2 ≠ .caller own

theorem aloof_of_served (ordered : Ordered aside accepted begun waited floor) {number : Nat}
    (served : ∀ state, floor.callers[number]? = some state → state.wantsRoom = false) :
    Aloof number floor :=
  fun dispatches => (ordered.room dispatches).absent served

theorem leaveCaller {own : Nat} (ordered : Ordered (some (.caller own)) accepted begun waited floor)
    (aloof : Aloof own floor) : Ordered none accepted begun waited floor := by
  refine ordered.leave nofun ?_
  rintro number same dispatches granted
  cases same
  exact aloof dispatches (List.mem_append_left _ granted)

theorem setCaller (ordered : Ordered aside accepted begun waited floor) {own : Nat}
    {state : Caller τ ρ} (aloof : Aloof own floor)
    (unwatched : state.wantsRoom = true →
      ∀ entry ∈ floor.agenda.watchers, entry.2 ≠ .caller own)
    (told : ∀ batch, state = .batching batch →
      ∀ ticket ∈ batch.tickets, ticket < floor.nextTicket) :
    Ordered aside accepted begun waited (floor.setCaller own state) where
  lined := ordered.lined.setCaller unwatched told
  given := ordered.given
  begun_accepted := ordered.begun_accepted
  waited_accepted := ordered.waited_accepted
  begins := ordered.begins
  room := fun dispatches => (ordered.room dispatches).setCaller (aloof dispatches) state

/-- A caller is answered and goes out of line. -/
theorem conclude {own : Nat} (ordered : Ordered (some (.caller own)) accepted begun waited floor)
    (aloof : Aloof own floor) (state : Caller τ ρ) (served : state.wantsRoom = false)
    (plain : ∀ batch, state ≠ .batching batch) :
    Ordered none accepted begun waited (floor.setCaller own state) := by
  refine (ordered.setCaller aloof ?_ ?_).leaveCaller aloof
  · intro wants
    cases served.symm.trans wants
  · exact fun batch same => absurd same (plain batch)

theorem enter (ordered : Ordered none accepted begun waited floor) (state : Caller τ ρ)
    (told : ∀ batch, state = .batching batch →
      ∀ ticket ∈ batch.tickets, ticket < floor.nextTicket) :
    Ordered (some (.caller floor.callers.length)) accepted begun waited (floor.enter state).1 where
  lined := ordered.lined.enter told
  given := ordered.given
  begun_accepted := ordered.begun_accepted
  waited_accepted := ordered.waited_accepted
  begins := ordered.begins
  room := fun dispatches => (ordered.room dispatches).enter state

/-- A newcomer is detached. -/
theorem newcomer (ordered : Ordered none accepted begun waited floor) (state : Caller τ ρ) :
    Detached floor.callers.length (floor.enter state).1 where
  aloof := by
    have absent : ∀ state, floor.callers[floor.callers.length]? = some state →
        state.wantsRoom = false :=
      fun _ found => absurd (List.getElem?_eq_some_iff.mp found).1 (Nat.lt_irrefl _)
    exact ordered.aloof_of_served absent
  unwatched := by
    intro entry member same
    have rousable := (ordered.lined.watching entry member).2
    rw [same] at rousable
    obtain ⟨state, found, _⟩ := rousable
    exact Nat.lt_irrefl _ (List.getElem?_eq_some_iff.mp found).1

/-! ## Submissions -/

/-- A job comes into the queue and is accepted. -/
theorem enqueue {job : Job τ} (ordered : Ordered aside accepted begun waited floor)
    (other : aside ≠ some .dispatcher) (issued : job.ticket < floor.nextTicket)
    (room : RoomOrder aside (accepted ++ [job.ticket]) waited floor) :
    Ordered aside (accepted ++ [job.ticket]) begun waited (floor.enqueue job) := by
  have queued : Ordered aside (accepted ++ [job.ticket]) begun waited
      { floor with queue := floor.queue ++ [job], submitted := floor.submitted + 1 } := by
    refine ⟨ordered.lined.frame rfl rfl rfl rfl (Nat.le_refl _), ?_,
      ordered.begun_accepted.trans (List.sublist_append_left _ _),
      (List.sublist_append_left _ _).trans room.served, ?_,
      fun _ => room.frame rfl rfl rfl rfl id⟩
    · intro ticket member
      rcases List.mem_append.mp member with old | isWaited
      · rcases List.mem_append.mp old with wasAccepted | new
        · exact ordered.given ticket (List.mem_append_left _ wasAccepted)
        · rw [List.mem_singleton.mp new]
          exact issued
      · exact ordered.given ticket (List.mem_append_right _ isWaited)
    · intro open_
      change (begun ++ floor.agenda.line.filterMap floor.inHand ++
        (floor.queue ++ [job]).map Job.ticket).Sublist (accepted ++ [job.ticket])
      rw [List.map_append, ← List.append_assoc]
      exact (ordered.begins open_).append_right _
  unfold Floor.enqueue
  dsimp only
  split
  · exact queued
  · exact queued.wakeDispatcher other

/-- A job that did not have to wait takes a free place. -/
theorem takePlace {job : Job τ} (ordered : Ordered aside accepted begun waited floor)
    (other : aside ≠ some .dispatcher) (dispatches : floor.dispatching = true)
    (issued : job.ticket < floor.nextTicket) (unwaited : job.ticket ∉ waited) :
    Ordered aside (accepted ++ [job.ticket]) begun waited (floor.takePlace job) := by
  have taken : Ordered aside accepted begun waited { floor with free := floor.free - 1 } :=
    ordered.frame rfl rfl rfl rfl rfl rfl rfl rfl (Nat.le_refl _)
  exact taken.enqueue other issued ((taken.room dispatches).accept unwaited)

/-- A job is made. -/
theorem issue (ordered : Ordered aside accepted begun waited floor) (scope : Nat) (task : τ) :
    Ordered aside accepted begun waited (floor.issue scope task).1 :=
  ordered.frame rfl rfl rfl rfl rfl rfl rfl rfl (Nat.le_succ _)

/-- The ticket of a new job is not among those that are known. -/
theorem fresh (ordered : Ordered aside accepted begun waited floor) :
    floor.nextTicket ∉ accepted ∧ floor.nextTicket ∉ waited := by
  constructor
  · exact fun member => Nat.lt_irrefl _ (ordered.given _ (List.mem_append_left _ member))
  · exact fun member => Nat.lt_irrefl _ (ordered.given _ (List.mem_append_right _ member))

/-- The caller who acts begins to wait for room. -/
theorem await {own ticket : Nat}
    (ordered : Ordered (some (.caller own)) accepted begun waited floor)
    (dispatches : floor.dispatching = true) (aloof : Aloof own floor) {state : Caller τ ρ}
    (found : floor.callers[own]? = some state) (wants : state.wantsRoom = true)
    (offers : state.offered? = some ticket) (issued : ticket < floor.nextTicket)
    (unaccepted : ticket ∉ accepted) (due : Nat) :
    Ordered none accepted begun (waited ++ [ticket])
      ({ floor with waiting := floor.waiting ++ [own] }.onAgenda
        (·.setAlarm due (.caller own))) := by
  have room := (ordered.room dispatches).await ordered.lined.distinct (aloof dispatches) found wants
    offers unaccepted
  have inRange : own < floor.callers.length := (List.getElem?_eq_some_iff.mp found).1
  have alarmed : Lined (some (.caller own)) (floor.onAgenda (·.setAlarm due (.caller own))) :=
    ordered.lined.setAlarm due nofun inRange
  have waiting : Ordered (some (.caller own)) accepted begun (waited ++ [ticket])
      ({ floor with waiting := floor.waiting ++ [own] }.onAgenda
        (·.setAlarm due (.caller own))) := by
    refine ⟨alarmed.frame rfl rfl rfl rfl (Nat.le_refl _), ?_, ordered.begun_accepted,
      (List.sublist_append_left _ _).trans room.served, ordered.begins,
      fun _ => room.frame rfl rfl rfl rfl id⟩
    intro other member
    rw [← List.append_assoc] at member
    rcases List.mem_append.mp member with old | new
    · exact ordered.given other old
    · rw [List.mem_singleton.mp new]
      exact issued
  refine waiting.leave nofun ?_
  rintro number same _ granted
  cases same
  exact aloof dispatches (List.mem_append_left _ granted)

/-- A caller gives up its part in the places of the queue. -/
theorem withdraw (ordered : Ordered aside accepted begun waited floor) (own : Nat)
    (room : floor.dispatching = true → RoomOrder aside accepted waited (floor.withdraw own)) :
    Ordered aside accepted begun waited (floor.withdraw own) where
  lined := (ordered.release (.caller own)).lined.frame rfl rfl rfl rfl (Nat.le_refl _)
  given := ordered.given
  begun_accepted := ordered.begun_accepted
  waited_accepted := ordered.waited_accepted
  begins := ordered.begins
  room := room

section Offers

variable {own : Nat} {job : Job τ} {wait : Span} {due : Nat} {next : Floor ε τ ρ}
  {answer : Outcome Unit}

theorem Detached.frame {after : Floor ε τ ρ} (detached : Detached own floor)
    (watchers : after.agenda.watchers = floor.agenda.watchers)
    (waiting : after.waiting = floor.waiting) (granted : after.granted = floor.granted)
    (dispatching : after.dispatching = floor.dispatching) : Detached own after where
  aloof := by
    rw [Aloof, dispatching, waiting, granted]
    exact detached.aloof
  unwatched := by
    rw [watchers]
    exact detached.unwatched

theorem Detached.reject (detached : Detached own floor) (job : Job τ) (failure : Failure) :
    Detached own (floor.reject job failure) :=
  detached.frame (Agenda.wakeAll_watchers _ _) rfl rfl rfl

theorem Detached.enqueue (detached : Detached own floor) (job : Job τ) :
    Detached own (floor.enqueue job) := by
  have watchers : (floor.enqueue job).agenda.watchers = floor.agenda.watchers := by
    unfold Floor.enqueue
    dsimp only
    split
    · rfl
    · exact Agenda.wake_watchers _ _
  exact detached.frame watchers (floor.waiting_enqueue job) (floor.granted_enqueue job)
    (floor.sameStaff_enqueue job).dispatching

/-- Whoever withdraws is detached. -/
theorem detached_withdraw (own : Nat) (floor : Floor ε τ ρ) :
    Detached own (floor.withdraw own) where
  aloof := by
    intro _ member
    rcases List.mem_append.mp member with granted | waits
    · simpa using (List.mem_filter.mp granted).2
    · simpa using (List.mem_filter.mp waits).2
  unwatched := by
    intro entry member
    simpa using (List.mem_filter.mp member).2

/-- A new job is offered, and answered at once. -/
theorem offer_settles (ordered : Ordered (some (.caller own)) accepted begun waited floor)
    (dispatching : floor.shut = false → floor.dispatching = true)
    (issued : job.ticket < floor.nextTicket) (unwaited : job.ticket ∉ waited)
    (unaware : ∀ state, floor.callers[own]? = some state → state.awaits job.ticket = false)
    (detached : Detached own floor)
    (offered : floor.offer own job wait = (next, some answer)) :
    Ordered (some (.caller own))
        (accepted ++ History.accepted [(job.ticket, (.answered answer : Note τ ρ))]) begun waited
        next ∧ Detached own next := by
  have refused : ∀ failure, floor.reject job failure = next → answer = .error failure →
      Ordered (some (.caller own))
          (accepted ++ History.accepted [(job.ticket, (.answered answer : Note τ ρ))]) begun waited
          next ∧ Detached own next := by
    rintro failure rfl rfl
    refine ⟨?_, detached.reject job failure⟩
    rw [show History.accepted [(job.ticket, (.answered (.error failure) : Note τ ρ))] = [] from rfl,
      List.append_nil]
    apply ordered.reject
    rintro number state same
    cases same
    exact unaware state
  rcases floor.offer_cases job own wait with
    ⟨_, offerEq⟩ | ⟨open_, room, offerEq⟩ | ⟨_, _, _, offerEq⟩ | ⟨_, _, _, offerEq⟩
  · cases offerEq.symm.trans offered
    exact refused _ rfl rfl
  · cases offerEq.symm.trans offered
    have taken : Detached own { floor with free := floor.free - 1 } :=
      detached.frame rfl rfl rfl rfl
    exact ⟨ordered.takePlace nofun (dispatching open_) issued unwaited, taken.enqueue job⟩
  · cases offerEq.symm.trans offered
    exact refused _ rfl rfl
  · cases offerEq.symm.trans offered

/-- A new job is offered, and its caller has to wait in a state that says so. -/
theorem offer_waits (ordered : Ordered (some (.caller own)) accepted begun waited floor)
    (dispatching : floor.shut = false → floor.dispatching = true)
    (issued : job.ticket < floor.nextTicket) (unaccepted : job.ticket ∉ accepted)
    (detached : Detached own floor) (inRange : own < floor.callers.length) {state : Caller τ ρ}
    (wants : state.wantsRoom = true) (offers : state.offered? = some job.ticket)
    (told : ∀ batch, state = .batching batch → ∀ ticket ∈ batch.tickets, ticket < floor.nextTicket)
    (offered : floor.offer own job wait = (next, none)) :
    Ordered none accepted begun (waited ++ [job.ticket]) (next.setCaller own state) := by
  rcases floor.offer_cases job own wait with
    ⟨_, offerEq⟩ | ⟨_, _, offerEq⟩ | ⟨_, _, _, offerEq⟩ | ⟨open_, _, _, offerEq⟩
  · cases offerEq.symm.trans offered
  · cases offerEq.symm.trans offered
  · cases offerEq.symm.trans offered
  · cases offerEq.symm.trans offered
    have stated := ordered.setCaller detached.aloof (fun _ => detached.unwatched) told
    exact stated.await (dispatching open_) detached.aloof (List.getElem?_set_self inRange) wants
      offers issued unaccepted _

/-- Whoever wants room does not wait for outcomes. -/
theorem awaits_of_wantsRoom {state : Caller τ ρ} (wants : state.wantsRoom = true) (ticket : Nat) :
    state.awaits ticket = false := by
  cases state with
  | batching batch =>
      cases stage : batch.stage with
      | offering => simp [Caller.awaits, stage]
      | joining => simp [Caller.wantsRoom, stage] at wants
  | offering => rfl
  | offered | batched | closing | closed => cases wants

/-- A submission that waited is answered. -/
theorem offerAgain_settles (ordered : Ordered (some (.caller own)) accepted begun waited floor)
    {state : Caller τ ρ} (found : floor.callers[own]? = some state)
    (wants : state.wantsRoom = true) (offers : state.offered? = some job.ticket)
    (issued : job.ticket < floor.nextTicket)
    (offered : floor.offerAgain own job wait due = (next, some answer)) :
    Ordered (some (.caller own))
        (accepted ++ History.accepted [(job.ticket, (.answered answer : Note τ ρ))]) begun waited
        next ∧ Detached own next := by
  have refused : ∀ {between : Floor ε τ ρ} {failure}, between.reject job failure = next →
      answer = .error failure → between.callers = floor.callers →
      Ordered (some (.caller own)) accepted begun waited between → Detached own between →
      Ordered (some (.caller own))
          (accepted ++ History.accepted [(job.ticket, (.answered answer : Note τ ρ))]) begun waited
          next ∧ Detached own next := by
    rintro between failure rfl rfl callers still detached
    refine ⟨?_, detached.reject job failure⟩
    rw [show History.accepted [(job.ticket, (.answered (.error failure) : Note τ ρ))] = [] from rfl,
      List.append_nil]
    apply still.reject
    rintro number other same otherFound
    cases same
    rw [callers] at otherFound
    cases found.symm.trans otherFound
    exact awaits_of_wantsRoom wants job.ticket
  have gone := detached_withdraw own floor
  rcases floor.offerAgain_cases job own wait due with
    ⟨closed, offerEq⟩ | ⟨dispatches, granted, offerEq⟩ | ⟨_, unpromised, _, offerEq⟩ |
      ⟨_, _, _, offerEq⟩
  · cases offerEq.symm.trans offered
    have withdrawn : Ordered (some (.caller own)) accepted begun waited (floor.withdraw own) := by
      refine ordered.withdraw own fun dispatches => ?_
      cases closed.symm.trans dispatches
    refine refused rfl rfl rfl ?_ (gone.frame rfl rfl rfl rfl)
    exact withdrawn.frame rfl rfl rfl rfl rfl rfl rfl rfl (Nat.le_refl _)
  · cases offerEq.symm.trans offered
    have offeredEq : floor.offeredBy own = some job.ticket := by
      rw [offeredBy, found]
      exact offers
    obtain ⟨_, taken⟩ :=
      (ordered.room dispatches).take ordered.lined.distinct granted offeredEq
    have withdrawn := ordered.withdraw own fun _ => taken.without
    exact ⟨withdrawn.enqueue (by rintro ⟨⟩) issued taken, gone.enqueue job⟩
  · cases offerEq.symm.trans offered
    have withdrawn := ordered.withdraw own fun dispatches =>
      (ordered.room dispatches).withdraw unpromised
    exact refused rfl rfl rfl withdrawn gone
  · cases offerEq.symm.trans offered

/-- A submission that goes on waiting. -/
theorem offerAgain_waits (ordered : Ordered (some (.caller own)) accepted begun waited floor)
    (offered : floor.offerAgain own job wait due = (next, none)) :
    Ordered none accepted begun waited next := by
  rcases floor.offerAgain_cases job own wait due with
    ⟨_, offerEq⟩ | ⟨_, _, offerEq⟩ | ⟨_, _, _, offerEq⟩ | ⟨_, unpromised, _, offerEq⟩
  · cases offerEq.symm.trans offered
  · cases offerEq.symm.trans offered
  · cases offerEq.symm.trans offered
  · cases offerEq.symm.trans offered
    refine ordered.leave nofun ?_
    rintro number same _
    cases same
    exact unpromised

end Offers

end Ordered

end Floor

end RiskGate.Pool
