import RiskGate.Proofs.Pool.Staffing
import RiskGate.Proofs.Pool.Tracing

/-!
# Nobody who has something to do is forgotten

The dispatcher has something to do when a job and an idle worker are there, or when the
pool is shut down; a worker, when a job was handed to it; and a caller who wants room, when
room was promised to it or there is none to be had any more.  Each of them is ready then to
take a turn.

When nobody is ready, a pool in which no task is being run is therefore at rest: no job is
queued, and no caller waits for room.
-/

namespace RiskGate.Pool.Floor

open Schedule (Actor Agenda)

variable {ε τ ρ : Type}

/-- An actor who has something to do is ready. -/
def Attended (floor : Floor ε τ ρ) : Actor → Prop
  | .dispatcher => floor.dispatching = true →
      floor.shut = true ∨ floor.queue ≠ [] ∧ floor.idle ≠ [] → .dispatcher ∈ floor.agenda.ready
  | .worker index => ∀ job, floor.desks[index]? = some (.handed job) →
      .worker index ∈ floor.agenda.ready
  | .caller number => ∀ state, floor.callers[number]? = some state → state.wantsRoom = true →
      floor.dispatching = true ∧ number ∈ floor.waiting ∨
        (floor.dispatching = true → number ∈ floor.granted) ∧ .caller number ∈ floor.agenda.ready
  | .guest _ | .timer _ => True

/-- Every actor is attended to, but for one who takes a turn. -/
structure Alert (aside : Option Actor) (floor : Floor ε τ ρ) : Prop where
  stopped : floor.dispatching = false → floor.shut = true ∧ floor.queue = []
  present : floor.shut = false → ∀ desk ∈ floor.desks, desk.isGone = false
  attended : ∀ actor, aside ≠ some actor → floor.Attended actor

/-- Whoever has something to do goes on being ready. -/
theorem Attended.onAgenda {floor : Floor ε τ ρ} {actor : Actor} (attended : floor.Attended actor)
    {change : Agenda → Agenda}
    (ready : actor ∈ floor.agenda.ready → actor ∈ (change floor.agenda).ready) :
    (floor.onAgenda change).Attended actor := by
  cases actor with
  | dispatcher => exact fun dispatches work => ready (attended dispatches work)
  | worker index => exact fun job found => ready (attended job found)
  | caller number =>
      exact fun state found wants =>
        (attended state found wants).imp_right fun promised => ⟨promised.1, ready promised.2⟩
  | guest | timer => trivial

/-- Someone of the staff is woken, and need not have been ready before. -/
theorem attended_wake (floor : Floor ε τ ρ) {actor other : Actor}
    (staff : ∀ number, actor ≠ .caller number) (attended : other ≠ actor → floor.Attended other) :
    (floor.wake actor).Attended other := by
  by_cases same : other = actor
  · subst same
    have ready : other ∈ (floor.wake other).agenda.ready :=
      (Agenda.mem_ready_wake _ _).mpr (.inl rfl)
    cases other with
    | dispatcher => exact fun _ _ => ready
    | worker index => exact fun _ _ => ready
    | caller number => exact absurd rfl (staff number)
    | guest | timer => trivial
  · exact (attended same).onAgenda ((Agenda.wakes_wake _ _).ready _)

namespace Alert

variable {aside : Option Actor} {floor : Floor ε τ ρ}

theorem make (workers capacity : Nat) (shared : ε) :
    Alert none (Floor.make workers capacity shared : Floor ε τ ρ) where
  stopped := nofun
  present := by
    intro _ desk member
    rw [List.eq_of_mem_replicate member]
    rfl
  attended := by
    intro actor _
    cases actor with
    | dispatcher =>
        rintro _ (shut | ⟨queued, _⟩)
        · cases shut
        · exact absurd rfl queued
    | worker index =>
        intro job found
        cases List.eq_of_mem_replicate (List.mem_of_getElem? found)
    | caller number =>
        intro state found
        cases found
    | guest | timer => trivial

/-- An open pool has a dispatcher. -/
theorem dispatching (alert : Alert aside floor) (open_ : floor.shut = false) :
    floor.dispatching = true := by
  by_contra stopped
  rw [(alert.stopped (by simpa using stopped)).1] at open_
  cases open_

/-! ## What concerns nobody -/

/-- Everybody who is ready stays so, and nothing else is changed that anybody minds. -/
theorem frame {after : Floor ε τ ρ} (alert : Alert aside floor)
    (queue : after.queue = floor.queue) (idle : after.idle = floor.idle)
    (dispatching : after.dispatching = floor.dispatching) (shut : after.shut = floor.shut)
    (desks : after.desks = floor.desks) (callers : after.callers = floor.callers)
    (waiting : after.waiting = floor.waiting) (granted : after.granted = floor.granted)
    (ready : ∀ actor, aside ≠ some actor → actor ∈ floor.agenda.ready →
      actor ∈ after.agenda.ready) : Alert aside after where
  stopped := by
    rw [dispatching, shut, queue]
    exact alert.stopped
  present := by
    rw [shut, desks]
    exact alert.present
  attended := by
    intro actor others
    have attended := alert.attended actor others
    cases actor with
    | dispatcher =>
        rw [Attended, dispatching, shut, queue, idle]
        exact fun dispatches work => ready _ others (attended dispatches work)
    | worker index =>
        rw [Attended, desks]
        exact fun job found => ready _ others (attended job found)
    | caller number =>
        rw [Attended, callers, dispatching, waiting, granted]
        exact fun state found wants =>
          (attended state found wants).imp_right fun promised => ⟨promised.1, ready _ others promised.2⟩
    | guest | timer => trivial

theorem onAgenda (alert : Alert aside floor) {change : Agenda → Agenda}
    (ready : ∀ actor, aside ≠ some actor → actor ∈ floor.agenda.ready →
      actor ∈ (change floor.agenda).ready) : Alert aside (floor.onAgenda change) :=
  alert.frame rfl rfl rfl rfl rfl rfl rfl rfl ready

theorem wakes (alert : Alert aside floor) {change : Agenda → Agenda}
    (wakes : Agenda.Wakes floor.agenda (change floor.agenda)) :
    Alert aside (floor.onAgenda change) :=
  alert.onAgenda fun _ _ => wakes.ready _

theorem deliver (alert : Alert aside floor) (job : Job τ) (outcome : Outcome ρ) :
    Alert aside (floor.deliver job outcome) :=
  alert.frame rfl rfl rfl rfl rfl rfl rfl rfl fun _ _ => (Agenda.wakes_wakeAll _ _).ready _

theorem reject (alert : Alert aside floor) (job : Job τ) (failure : Failure) :
    Alert aside (floor.reject job failure) :=
  alert.frame rfl rfl rfl rfl rfl rfl rfl rfl fun _ _ => (Agenda.wakes_wakeAll _ _).ready _

/-- An actor begins its turn. -/
theorem unready (alert : Alert none floor) (actor : Actor) :
    Alert (some actor) (floor.unready actor) := by
  have others : Alert (some actor) floor :=
    ⟨alert.stopped, alert.present, fun other _ => alert.attended other nofun⟩
  apply others.onAgenda
  intro other distinct ready
  refine (List.mem_erase_of_ne ?_).mpr ready
  rintro rfl
  exact distinct rfl

/-- An actor has ended its turn. -/
theorem rejoin {actor : Actor} (alert : Alert (some actor) floor)
    (attended : floor.Attended actor) : Alert none floor where
  stopped := alert.stopped
  present := alert.present
  attended := by
    intro other _
    by_cases same : actor = other
    · rwa [← same]
    · exact alert.attended other (by simpa using same)

/-! ## Callers -/

theorem setCaller {number : Nat} (alert : Alert (some (.caller number)) floor)
    (state : Caller τ ρ) : Alert (some (.caller number)) (floor.setCaller number state) where
  stopped := alert.stopped
  present := alert.present
  attended := by
    intro actor others
    have attended := alert.attended actor others
    cases actor with
    | caller other =>
        intro held found
        have distinct : number ≠ other := by
          rintro rfl
          exact others rfl
        exact attended held ((List.getElem?_set_ne distinct).symm.trans found)
    | dispatcher | worker | guest | timer => exact attended

/-- Whoever does not want room has nothing to do. -/
theorem attended_of_served {number : Nat}
    (served : ∀ state, floor.callers[number]? = some state → state.wantsRoom = false) :
    floor.Attended (.caller number) := by
  intro state found wants
  rw [served state found] at wants
  cases wants

/-- A caller turns into one who does not want room. -/
theorem settle {number : Nat} (alert : Alert (some (.caller number)) floor) {state : Caller τ ρ}
    (served : state.wantsRoom = false) : Alert none (floor.setCaller number state) := by
  apply (alert.setCaller state).rejoin
  apply attended_of_served
  intro other found
  by_cases inRange : number < floor.callers.length
  · cases (List.getElem?_set_self inRange).symm.trans found
    exact served
  · have bound := (List.getElem?_eq_some_iff.mp found).1
    rw [Floor.setCaller, List.length_set] at bound
    exact absurd bound inRange

/-- Somebody comes in. -/
theorem enter (alert : Alert none floor) (state : Caller τ ρ) :
    Alert (some (.caller floor.callers.length)) (floor.enter state).1 where
  stopped := alert.stopped
  present := alert.present
  attended := by
    intro actor others
    have attended := alert.attended actor nofun
    cases actor with
    | caller number =>
        intro held found
        rcases getElem?_enter found with old | ⟨rfl, _⟩
        · exact attended held old
        · exact absurd rfl others
    | dispatcher | worker | guest | timer => exact attended

/-- Somebody comes in who does not want room. -/
theorem comeIn (alert : Alert none floor) {state : Caller τ ρ} (served : state.wantsRoom = false) :
    Alert none (floor.enter state).1 := by
  apply (alert.enter state).rejoin
  apply attended_of_served
  intro other found
  rcases getElem?_enter found with old | ⟨_, rfl⟩
  · exact absurd (List.getElem?_eq_some_iff.mp old).1 (Nat.lt_irrefl _)
  · exact served

/-! ## Submissions -/

/-- A job comes into the queue, and wakes the dispatcher if a worker is idle. -/
theorem enqueue (alert : Alert aside floor) (dispatches : floor.dispatching = true)
    (job : Job τ) : Alert aside (floor.enqueue job) := by
  let queued : Floor ε τ ρ :=
    { floor with queue := floor.queue ++ [job], submitted := floor.submitted + 1 }
  have others : ∀ actor, actor ≠ .dispatcher → aside ≠ some actor → queued.Attended actor := by
    intro actor distinct others
    have attended := alert.attended actor others
    cases actor with
    | dispatcher => exact absurd rfl distinct
    | worker | caller | guest | timer => exact attended
  have stopped : queued.dispatching = false → queued.shut = true ∧ queued.queue = [] := by
    intro stopped
    cases dispatches.symm.trans stopped
  unfold Floor.enqueue
  dsimp only
  split
  next nobody =>
    refine ⟨stopped, alert.present, fun actor minded => ?_⟩
    cases actor with
    | dispatcher =>
        rintro _ (shut | ⟨_, idle⟩)
        · exact alert.attended .dispatcher minded dispatches (.inl shut)
        · exact absurd (List.isEmpty_iff.mp nobody) idle
    | worker | caller | guest | timer => exact others _ (by simp) minded
  · refine ⟨stopped, alert.present, fun actor minded => ?_⟩
    exact attended_wake queued nofun fun distinct => others actor distinct minded

theorem takePlace (alert : Alert aside floor) (open_ : floor.shut = false) (job : Job τ) :
    Alert aside (floor.takePlace job) := by
  have taken : Alert aside { floor with free := floor.free - 1 } :=
    alert.frame rfl rfl rfl rfl rfl rfl rfl rfl fun _ _ => id
  exact taken.enqueue (alert.dispatching open_) job

theorem offerNow (alert : Alert aside floor) (job : Job τ) :
    Alert aside (floor.offerNow job).1 := by
  unfold Floor.offerNow
  split
  · exact alert.reject job _
  next open_ =>
    split
    · exact alert.takePlace (by simpa using open_) job
    · exact alert.reject job _

theorem withdraw {number : Nat} (alert : Alert (some (.caller number)) floor) :
    Alert (some (.caller number)) (floor.withdraw number) where
  stopped := alert.stopped
  present := alert.present
  attended := by
    intro actor others
    have attended := alert.attended actor others
    cases actor with
    | caller other =>
        intro state found wants
        have distinct : (other != number) = true := by
          rw [bne_iff_ne]
          rintro rfl
          exact others rfl
        exact (attended state found wants).imp
          (fun waits => ⟨waits.1, List.mem_filter.mpr ⟨waits.2, distinct⟩⟩)
          fun promised => ⟨fun dispatches => List.mem_filter.mpr ⟨promised.1 dispatches, distinct⟩,
            promised.2⟩
    | dispatcher | worker | guest | timer => exact attended

section Offers

variable {job : Job τ} {number : Nat} {wait : Span} {due : Nat} {next : Floor ε τ ρ}
variable {answer : Outcome Unit}

theorem offer_settles (alert : Alert aside floor)
    (offered : floor.offer number job wait = (next, some answer)) : Alert aside next := by
  rcases floor.offer_cases job number wait with
    ⟨_, offerEq⟩ | ⟨open_, _, offerEq⟩ | ⟨_, _, _, offerEq⟩ | ⟨_, _, _, offerEq⟩
  · cases offerEq.symm.trans offered
    exact alert.reject job _
  · cases offerEq.symm.trans offered
    exact alert.takePlace open_ job
  · cases offerEq.symm.trans offered
    exact alert.reject job _
  · cases offerEq.symm.trans offered

/-- A caller begins to wait for room. -/
theorem offer_waits (alert : Alert aside floor)
    (offered : floor.offer number job wait = (next, none)) :
    Alert aside next ∧ next.dispatching = true ∧ number ∈ next.waiting := by
  rcases floor.offer_cases job number wait with
    ⟨_, offerEq⟩ | ⟨_, _, offerEq⟩ | ⟨_, _, _, offerEq⟩ | ⟨open_, _, _, offerEq⟩
  · cases offerEq.symm.trans offered
  · cases offerEq.symm.trans offered
  · cases offerEq.symm.trans offered
  · cases offerEq.symm.trans offered
    have listed : Alert aside { floor with waiting := floor.waiting ++ [number] } := by
      refine ⟨alert.stopped, alert.present, fun actor others => ?_⟩
      have attended := alert.attended actor others
      cases actor with
      | caller other =>
          intro held found wants
          exact (attended held found wants).imp_left fun waits =>
            ⟨waits.1, List.mem_append_left _ waits.2⟩
      | dispatcher | worker | guest | timer => exact attended
    exact ⟨listed.wakes (Agenda.wakes_setAlarms _ [floor.agenda.dueAfter wait] (.caller number)),
      alert.dispatching open_, List.mem_append_right _ (List.mem_singleton_self _)⟩

theorem offerAgain_settles (alert : Alert (some (.caller number)) floor)
    (offered : floor.offerAgain number job wait due = (next, some answer)) :
    Alert (some (.caller number)) next := by
  rcases floor.offerAgain_cases job number wait due with
    ⟨_, offerEq⟩ | ⟨dispatches, _, offerEq⟩ | ⟨_, _, _, offerEq⟩ | ⟨_, _, _, offerEq⟩
  · cases offerEq.symm.trans offered
    have returned : Alert (some (.caller number))
        { floor.withdraw number with
          free := floor.free + (decide (number ∈ floor.granted)).toNat } :=
      alert.withdraw.frame rfl rfl rfl rfl rfl rfl rfl rfl fun _ _ => id
    exact returned.reject job _
  · cases offerEq.symm.trans offered
    exact alert.withdraw.enqueue dispatches job
  · cases offerEq.symm.trans offered
    exact alert.withdraw.reject job _
  · cases offerEq.symm.trans offered

/-- A caller who goes on waiting was not promised room. -/
theorem offerAgain_waits (alert : Alert (some (.caller number)) floor)
    (waits : floor.dispatching = true → number ∉ floor.granted → number ∈ floor.waiting)
    (offered : floor.offerAgain number job wait due = (next, none)) : Alert none next := by
  rcases floor.offerAgain_cases job number wait due with
    ⟨_, offerEq⟩ | ⟨_, _, offerEq⟩ | ⟨_, _, _, offerEq⟩ | ⟨dispatches, absent, _, offerEq⟩
  · cases offerEq.symm.trans offered
  · cases offerEq.symm.trans offered
  · cases offerEq.symm.trans offered
  · cases offerEq.symm.trans offered
    exact alert.rejoin fun _ _ _ => .inl ⟨dispatches, waits dispatches absent⟩

end Offers

/-! ## Turns of callers -/

section Callers

variable {number : Nat}

theorem join (alert : Alert (some (.caller number)) floor) (batch : Batch τ ρ) :
    Alert none (floor.join number batch) := by
  have released : Alert (some (.caller number)) (floor.onAgenda (·.release (.caller number))) :=
    alert.wakes (Agenda.wakes_release _ _)
  rcases floor.join_cases number batch with ⟨_, joinEq⟩ | ⟨_, _, joinEq⟩ | ⟨_, _, joinEq⟩
  · rw [joinEq]
    exact released.settle rfl
  · rw [joinEq]
    exact released.settle rfl
  · rw [joinEq]
    exact (released.settle rfl).wakes (Agenda.wakes_watch _ _ _)

theorem handIn (tasks : List τ) (batch : Batch τ ρ) {floor : Floor ε τ ρ}
    (alert : Alert (some (.caller number)) floor) :
    Alert none (floor.handIn number batch tasks) := by
  induction tasks generalizing batch floor with
  | nil => exact alert.join batch
  | cons task rest ih =>
      have issued : Alert (some (.caller number)) (floor.issue batch.scope task).1 :=
        alert.frame rfl rfl rfl rfl rfl rfl rfl rfl fun _ _ => id
      rw [Floor.handIn]
      dsimp only
      rcases offered : (floor.issue batch.scope task).1.offer number
        (floor.issue batch.scope task).2 batch.wait with ⟨next, _ | answer⟩
      · obtain ⟨waiting, dispatches, listed⟩ := issued.offer_waits offered
        exact (waiting.setCaller _).rejoin fun _ _ _ => .inl ⟨dispatches, listed⟩
      · exact ih _ (issued.offer_settles offered)

theorem executeBatch (alert : Alert none floor) (wait : Span) (scope : Nat) (tasks : List τ) :
    Alert none (floor.executeBatch wait scope tasks).1 :=
  handIn tasks _ (alert.enter _)

theorem submit (alert : Alert none floor) (scope : Nat) (task : τ) :
    Alert none (floor.submit scope task).1 := by
  have issued : Alert none (floor.issue scope task).1 :=
    alert.frame rfl rfl rfl rfl rfl rfl rfl rfl fun _ _ => id
  exact issued.offerNow _

theorem submitWithin (alert : Alert none floor) (wait : Span) (scope : Nat) (task : τ) :
    Alert none (floor.submitWithin wait scope task).1 := by
  have issued : Alert none (floor.issue scope task).1 :=
    alert.frame rfl rfl rfl rfl rfl rfl rfl rfl fun _ _ => id
  have entered : Alert (some (.caller floor.callers.length)) (floor.entered wait scope task) :=
    issued.enter _
  rw [submitWithin_eq]
  rcases offered : (floor.entered wait scope task).offer floor.callers.length
    (floor.issue scope task).2 wait with ⟨next, _ | answer⟩
  · obtain ⟨waiting, dispatches, listed⟩ := entered.offer_waits offered
    exact waiting.rejoin fun _ _ _ => .inl ⟨dispatches, listed⟩
  · exact (entered.offer_settles offered).settle rfl

/-- A caller's turn. -/
theorem attend (alert : Alert none floor) (number : Nat) :
    Alert none ((floor.unready (.caller number)).attend number) := by
  let resting := floor.unready (.caller number)
  have rested : Alert (some (.caller number)) resting := alert.unready _
  have waits : ∀ state, resting.callers[number]? = some state → state.wantsRoom = true →
      resting.dispatching = true → number ∉ resting.granted → number ∈ resting.waiting := by
    intro state found wants dispatches absent
    rcases alert.attended (.caller number) nofun state found wants with ⟨_, listed⟩ | ⟨promised, _⟩
    · exact listed
    · exact absurd (promised dispatches) absent
  have served : (∀ state, resting.callers[number]? = some state → state.wantsRoom = false) →
      Alert none resting := fun served => rested.rejoin (attended_of_served served)
  change Alert none (resting.attend number)
  unfold Floor.attend
  cases found : resting.callers[number]? with
  | none => exact served fun _ same => absurd (found.symm.trans same) nofun
  | some state =>
      cases state with
      | offering job wait due =>
          dsimp only
          unfold offeringTurn
          rcases offered : resting.offerAgain number job wait due with ⟨next, _ | answer⟩
          · exact rested.offerAgain_waits (waits _ found rfl) offered
          · exact (rested.offerAgain_settles offered).settle rfl
      | batching batch =>
          dsimp only
          unfold batchTurn
          cases stage : batch.stage with
          | joining => exact rested.join batch
          | offering job due rest =>
              dsimp only
              rcases offered : resting.offerAgain number job batch.wait due with ⟨next, _ | answer⟩
              · refine rested.offerAgain_waits (waits _ found ?_) offered
                rw [Caller.wantsRoom, stage]
              · exact handIn rest _ ((rested.offerAgain_settles offered).setCaller _)
      | closing limit due =>
          have released := rested.wakes (Agenda.wakes_release resting.agenda (.caller number))
          dsimp only
          unfold closingTurn
          dsimp only
          split
          · exact released.settle rfl
          · split
            · exact released.settle rfl
            · exact served fun _ same => by
                cases found.symm.trans same
                rfl
      | offered | batched | closed =>
          exact served fun _ same => by
            cases found.symm.trans same
            rfl

theorem shutdown (alert : Alert none floor) (limit : Span) :
    Alert none (floor.shutdown limit).1 := by
  have shutting : Alert none floor.shutting := by
    let woken : Floor ε τ ρ :=
      { floor with shut := true }.onAgenda (·.wakeAll (floor.idle.map Actor.worker))
    refine ⟨fun stopped => ⟨rfl, (alert.stopped stopped).2⟩, nofun, fun actor _ => ?_⟩
    refine attended_wake woken nofun fun distinct => ?_
    have before := alert.attended actor nofun
    have attended : { floor with shut := true }.Attended actor := by
      cases actor with
      | dispatcher => exact absurd rfl distinct
      | worker | caller | guest | timer => exact before
    exact attended.onAgenda ((Agenda.wakes_wakeAll _ _).ready _)
  rcases floor.shutdown_cases limit with ⟨_, shutEq⟩ | ⟨_, _, shutEq⟩ | ⟨_, _, shutEq⟩
  · rw [shutEq]
    exact alert.comeIn rfl
  · rw [shutEq]
    exact shutting.comeIn rfl
  · rw [shutEq]
    let closing : Caller τ ρ := .closing limit (floor.agenda.dueAfter limit)
    exact (shutting.comeIn (show closing.wantsRoom = false from rfl)).wakes
      (Agenda.wakes_setAlarms _ [floor.agenda.dueAfter limit] (.caller floor.callers.length))

end Callers

/-! ## The dispatcher -/

section Dispatching

/-- Room that becomes free is promised to the first who waits for it, who is woken. -/
theorem vacate (alert : Alert aside floor) : Alert aside floor.vacate := by
  unfold Floor.vacate
  split
  · exact alert.frame rfl rfl rfl rfl rfl rfl rfl rfl fun _ _ => id
  next first rest waitingEq =>
    have woken := Agenda.wakes_wake floor.agenda (.caller first)
    refine ⟨alert.stopped, alert.present, fun actor others => ?_⟩
    have attended := alert.attended actor others
    cases actor with
    | dispatcher => exact fun dispatches work => woken.ready _ (attended dispatches work)
    | worker index => exact fun job found => woken.ready _ (attended job found)
    | caller number =>
        intro state found wants
        rcases attended state found wants with ⟨dispatches, waits⟩ | ⟨promised, ready⟩
        · rw [waitingEq] at waits
          rcases List.mem_cons.mp waits with rfl | behind
          · exact .inr ⟨fun _ => List.mem_append_right _ (List.mem_singleton_self _),
              (Agenda.mem_ready_wake _ _).mpr (.inl rfl)⟩
          · exact .inl ⟨dispatches, behind⟩
        · exact .inr ⟨fun dispatches => List.mem_append_left _ (promised dispatches),
            woken.ready _ ready⟩
    | guest | timer => trivial

/-- A job is put on a desk, and its worker is woken. -/
theorem hand (alert : Alert aside floor) (worker : Nat) (job : Job τ) :
    Alert aside ((floor.setDesk worker (.handed job)).wake (.worker worker)) := by
  refine ⟨alert.stopped, ?_, fun actor others => ?_⟩
  · intro open_ desk member
    rcases List.mem_or_eq_of_mem_set member with old | rfl
    · exact alert.present open_ desk old
    · rfl
  · refine attended_wake _ nofun fun distinct => ?_
    have attended := alert.attended actor others
    cases actor with
    | worker index =>
        intro other found
        have apart : worker ≠ index := by
          rintro rfl
          exact distinct rfl
        exact attended other ((List.getElem?_set_ne apart).symm.trans found)
    | dispatcher | caller | guest | timer => exact attended

/-- A job and an idle worker are brought together, as long as there are both. -/
theorem handOver (alert : Alert (some .dispatcher) floor) :
    Alert (some .dispatcher) floor.handOver ∧
      (floor.queue ≠ [] → floor.idle ≠ [] →
        floor.handOver.queue.length + 1 = floor.queue.length ∧
          floor.handOver.idle.length + 1 = floor.idle.length) := by
  unfold Floor.handOver
  split
  next job queue worker idle queueEq idleEq =>
    let taken : Floor ε τ ρ := { floor with queue := queue, idle := idle }
    have takenAlert : Alert (some .dispatcher) taken := by
      refine ⟨?_, alert.present, fun actor others => ?_⟩
      · intro stopped
        have empty := (alert.stopped stopped).2
        rw [queueEq] at empty
        cases empty
      · have attended := alert.attended actor others
        cases actor with
        | dispatcher => exact absurd rfl others
        | worker | caller | guest | timer => exact attended
    refine ⟨takenAlert.vacate.hand worker job, fun _ _ => ?_⟩
    have lists : taken.vacate.queue = queue ∧ taken.vacate.idle = idle := by
      unfold Floor.vacate
      split
      · exact ⟨rfl, rfl⟩
      · exact ⟨rfl, rfl⟩
    constructor
    · rw [queueEq, List.length_cons]
      exact congrArg (fun jobs => jobs.length + 1) lists.1
    · rw [idleEq, List.length_cons]
      exact congrArg (fun workers => workers.length + 1) lists.2
  next nothing =>
    refine ⟨alert, fun queued idle => ?_⟩
    obtain ⟨job, queue, queueEq⟩ := List.exists_cons_of_ne_nil queued
    obtain ⟨worker, rest, idleEq⟩ := List.exists_cons_of_ne_nil idle
    exact absurd idleEq (nothing job queue worker rest queueEq)

theorem closeQueue (alert : Alert (some .dispatcher) floor) (shut : floor.shut = true) :
    Alert none floor.closeQueue := by
  have woken := Agenda.wakes_wakeAll floor.agenda (floor.waiting.map Actor.caller)
  have emptied : Alert none floor.emptied := by
    refine ⟨fun _ => ⟨shut, rfl⟩, fun open_ => ?_, fun actor _ => ?_⟩
    · cases shut.symm.trans open_
    · cases actor with
      | dispatcher => exact nofun
      | worker index =>
          exact fun job found => woken.ready _ (alert.attended (.worker index) nofun job found)
      | caller number =>
          intro state found wants
          refine .inr ⟨nofun, ?_⟩
          rcases alert.attended (.caller number) nofun state found wants with
            ⟨_, waits⟩ | ⟨_, ready⟩
          · exact (Agenda.mem_ready_wakeAll _ _).mpr (.inl (List.mem_map_of_mem waits))
          · exact woken.ready _ ready
      | guest | timer => trivial
  exact failAll_preserves (motive := Alert none) (fun _ job kept => kept.deliver job _) floor.queue
    emptied

/-- The dispatcher's turn. -/
theorem dispatch (alert : Alert (some .dispatcher) floor) : Alert none floor.dispatch := by
  unfold Floor.dispatch
  split
  next stopped =>
    apply alert.rejoin
    intro dispatches
    rw [dispatches] at stopped
    cases stopped
  next =>
    split
    next shut => exact (alert.closeQueue shut).wakes (Agenda.wakes_wakeAll _ _)
    next open_ =>
      have repeated : ∀ count, count ≤ min floor.queue.length floor.idle.length →
          Alert (some .dispatcher) (Nat.repeat Floor.handOver count floor) ∧
            (Nat.repeat Floor.handOver count floor).shut = floor.shut ∧
            (Nat.repeat Floor.handOver count floor).queue.length + count = floor.queue.length ∧
            (Nat.repeat Floor.handOver count floor).idle.length + count = floor.idle.length := by
        intro count bound
        induction count with
        | zero => exact ⟨alert, rfl, rfl, rfl⟩
        | succ count ih =>
            obtain ⟨handed, shut, queue, idle⟩ := ih (by omega)
            obtain ⟨next, shorter⟩ := handed.handOver
            have both := shorter (List.ne_nil_of_length_pos (by omega))
              (List.ne_nil_of_length_pos (by omega))
            refine ⟨next, (shut_handOver _).trans shut, ?_, ?_⟩
            · rw [Nat.repeat]
              omega
            · rw [Nat.repeat]
              omega
      obtain ⟨handed, shut, queue, idle⟩ := repeated _ (Nat.le_refl _)
      apply handed.rejoin
      rintro _ (closing | ⟨queued, waits⟩)
      · rw [shut] at closing
        exact absurd closing open_
      · have someQueued := List.length_pos_iff.mpr queued
        have someIdle := List.length_pos_iff.mpr waits
        omega

end Dispatching

/-! ## Workers -/

section Working

variable {index : Nat}

theorem setDesk (alert : Alert (some (.worker index)) floor) {desk : Desk τ}
    (present : floor.shut = false → desk.isGone = false) :
    Alert (some (.worker index)) (floor.setDesk index desk) where
  stopped := alert.stopped
  present := by
    intro open_ other member
    rcases List.mem_or_eq_of_mem_set member with old | rfl
    · exact alert.present open_ other old
    · exact present open_
  attended := by
    intro actor others
    have attended := alert.attended actor others
    cases actor with
    | worker other =>
        intro job found
        have distinct : index ≠ other := by
          rintro rfl
          exact others rfl
        exact attended job ((List.getElem?_set_ne distinct).symm.trans found)
    | dispatcher | caller | guest | timer => exact attended

/-- A worker to whom no job was handed has nothing to do. -/
theorem attended_of_desk (untouched : ∀ job, floor.desks[index]? ≠ some (.handed job)) :
    floor.Attended (.worker index) :=
  fun job found => absurd found (untouched job)

/-- A worker does something else than to begin a job. -/
theorem seat (alert : Alert (some (.worker index)) floor) {desk : Desk τ}
    (present : floor.shut = false → desk.isGone = false) (begun : ∀ job, desk ≠ .handed job) :
    Alert none (floor.setDesk index desk) := by
  apply (alert.setDesk present).rejoin
  apply attended_of_desk
  intro job found
  by_cases inRange : index < floor.desks.length
  · exact begun job (Option.some.inj ((List.getElem?_set_self inRange).symm.trans found))
  · have bound := (List.getElem?_eq_some_iff.mp found).1
    rw [Floor.setDesk, List.length_set] at bound
    exact absurd bound inRange

theorem stop (alert : Alert (some (.worker index)) floor) (shut : floor.shut = true) :
    Alert none (floor.stop index) := by
  have gone : Alert none (floor.setDesk index .gone) := by
    refine alert.seat ?_ nofun
    intro open_
    cases shut.symm.trans open_
  exact gone.wakes (Agenda.wakes_wakeAll _ _)

theorem register (alert : Alert (some (.worker index)) floor) :
    Alert none (floor.register index) := by
  have seated : Alert none (floor.setDesk index .idle) := alert.seat (fun _ => rfl) nofun
  let registered : Floor ε τ ρ :=
    { floor.setDesk index .idle with idle := floor.idle ++ [index] }
  have others : ∀ actor, actor ≠ .dispatcher → registered.Attended actor := by
    intro actor distinct
    have attended := seated.attended actor nofun
    cases actor with
    | dispatcher => exact absurd rfl distinct
    | worker | caller | guest | timer => exact attended
  unfold Floor.register
  dsimp only
  split
  · refine ⟨seated.stopped, seated.present, fun actor _ => ?_⟩
    exact attended_wake registered nofun (others actor)
  next somebody =>
    refine ⟨seated.stopped, seated.present, fun actor _ => ?_⟩
    cases actor with
    | dispatcher =>
        rintro dispatches (shut | ⟨queued, _⟩)
        · exact seated.attended .dispatcher nofun dispatches (.inl shut)
        · refine seated.attended .dispatcher nofun dispatches (.inr ⟨queued, ?_⟩)
          exact fun empty => somebody (List.isEmpty_iff.mpr empty)
    | worker | caller | guest | timer => exact others _ (by simp)

theorem complete (alert : Alert (some (.worker index)) floor) (job : Job τ)
    (outcome : Outcome ρ) : Alert none (floor.complete index job outcome) := by
  have delivered := (alert.wakes (Agenda.wakes_release _ (.worker index))).deliver job outcome
  have counted : Alert (some (.worker index))
      { (floor.onAgenda (·.release (.worker index))).deliver job outcome with
        completed := floor.completed + 1 } :=
    delivered.frame rfl rfl rfl rfl rfl rfl rfl rfl fun _ _ => id
  unfold Floor.complete
  dsimp only
  split
  next shut => exact counted.stop shut
  next => exact counted.register

variable [Trade ε τ ρ]

theorem run (alert : Alert (some (.worker index)) floor) (job : Job τ) :
    Alert none (floor.run index job) := by
  unfold Floor.run
  dsimp only
  rcases Trade.resume (ρ := ρ) (Actor.worker index) floor.now job.task floor.shared
    with ⟨shared, outcome | ⟨task, alarms⟩⟩
  · have changed : Alert (some (.worker index)) { floor with shared := shared } :=
      alert.frame rfl rfl rfl rfl rfl rfl rfl rfl fun _ _ => id
    exact changed.complete job outcome
  · have changed : Alert (some (.worker index)) { floor with shared := shared } :=
      alert.frame rfl rfl rfl rfl rfl rfl rfl rfl fun _ _ => id
    have seated : Alert none
        (Floor.setDesk index (.busy { job with task := task }) { floor with shared := shared }) :=
      changed.seat (fun _ => rfl) nofun
    exact seated.wakes (Agenda.wakes_setAlarms _ _ _)

theorem giveUp (alert : Alert (some (.worker index)) floor) (job : Job τ) :
    Alert none (floor.giveUp index job) := by
  unfold Floor.giveUp
  dsimp only
  rcases Trade.abandon ρ (Actor.worker index) floor.now job.task floor.shared with ⟨shared, woken⟩
  have changed : Alert (some (.worker index)) { floor with shared := shared } :=
    alert.frame rfl rfl rfl rfl rfl rfl rfl rfl fun _ _ => id
  exact (changed.wakes (Agenda.wakes_wakeAll _ woken)).complete job _

/-- A worker's turn. -/
theorem work (alert : Alert (some (.worker index)) floor) : Alert none (floor.work index) := by
  unfold Floor.work
  split
  · split
    next shut => exact (alert.deliver _ _).stop shut
    next =>
      split
      · exact alert.complete _ _
      · exact (alert.wakes (Agenda.wakes_watch _ _ _)).run _
  · split
    · exact alert.giveUp _
    · exact alert.run _
  next found =>
    split
    next shut => exact alert.stop shut
    next =>
      apply alert.rejoin
      exact attended_of_desk fun job same => by cases found.symm.trans same
  next found =>
    apply alert.rejoin
    exact attended_of_desk fun job same => by cases found.symm.trans same
  next found =>
    apply alert.rejoin
    exact attended_of_desk fun job same => by cases found.symm.trans same

/-- The turn of an actor of the pool. -/
theorem turn (alert : Alert none floor) (actor : Actor) :
    Alert none ((floor.unready actor).turn actor) := by
  cases actor with
  | dispatcher => exact (alert.unready .dispatcher).dispatch
  | worker index => exact (alert.unready (.worker index)).work
  | caller number => exact alert.attend number
  | guest number => exact (alert.unready (.guest number)).rejoin trivial
  | timer number => exact (alert.unready (.timer number)).rejoin trivial

end Working

end Alert

end RiskGate.Pool.Floor
