import RiskGate.Proofs.Pool.Desks
import RiskGate.Proofs.Pool.FirstCome

/-!
# The staff keeps the order of jobs

The dispatcher promises room to the caller who has waited longest, and hands the first job
of the queue to a worker, who comes last in line.  A worker begins a job when its turn
comes, and so before all workers to whom a job was handed later.
-/

namespace RiskGate.Pool

open Schedule (Actor Agenda)

variable {ε τ ρ : Type}

namespace Floor

theorem inHand_setDesk_of_ne (floor : Floor ε τ ρ) {index : Nat} (desk : Desk τ) {actor : Actor}
    (other : actor ≠ .worker index) :
    (floor.setDesk index desk).inHand actor = floor.inHand actor := by
  cases actor with
  | worker number =>
      have distinct : index ≠ number := by
        rintro rfl
        exact other rfl
      have same : (floor.setDesk index desk).desks[number]? = floor.desks[number]? :=
        List.getElem?_set_ne distinct
      rw [inHand, inHand, same]
  | dispatcher | caller | guest | timer => rfl

/-- After a release nothing wakes the actor. -/
theorem unlisted_release (actor : Actor) (floor : Floor ε τ ρ) :
    (floor.onAgenda (·.release actor)).Unlisted actor := by
  constructor
  · intro alarm member
    simpa using (List.mem_filter.mp member).2
  · intro entry member
    simpa using (List.mem_filter.mp member).2

/-- To wake others puts nobody on the agenda. -/
theorem Unlisted.rouses {floor : Floor ε τ ρ} {actor : Actor} (unlisted : floor.Unlisted actor)
    (inside : actor.isInsider = true) {change : Agenda → Agenda} {news : Actor → Prop}
    (rouses : Agenda.Rouses news floor.agenda (change floor.agenda)) :
    (floor.onAgenda change).Unlisted actor := by
  constructor
  · rintro alarm member rfl
    exact unlisted.1 alarm (rouses.alarms alarm member inside) rfl
  · rintro entry member rfl
    exact unlisted.2 entry (rouses.watchers entry member inside) rfl

namespace Ordered

variable {accepted begun waited : List Nat} {floor : Floor ε τ ρ} {index : Nat}

/-! ## Workers -/

/-- What lies on the desk of the worker who acts does not matter to those in line. -/
theorem inHand_line (ordered : Ordered (some (.worker index)) accepted begun waited floor)
    (desk : Desk τ) : floor.agenda.line.filterMap (floor.setDesk index desk).inHand =
      floor.agenda.line.filterMap floor.inHand := by
  apply List.filterMap_congr
  intro actor member
  apply floor.inHand_setDesk_of_ne
  rintro rfl
  exact (List.nodup_cons.mp ordered.lined.distinct).1 member

theorem setDesk (ordered : Ordered (some (.worker index)) accepted begun waited floor)
    (desk : Desk τ) (occupied : desk ≠ .idle) :
    Ordered (some (.worker index)) accepted begun waited (floor.setDesk index desk) where
  lined := ordered.lined.setDesk occupied
  given := ordered.given
  begun_accepted := ordered.begun_accepted
  waited_accepted := ordered.waited_accepted
  begins := by
    intro open_
    change (begun ++ floor.agenda.line.filterMap (floor.setDesk index desk).inHand ++
      floor.queue.map Job.ticket).Sublist accepted
    rw [ordered.inHand_line desk]
    exact ordered.begins open_
  room := fun dispatches => (ordered.room dispatches).frame rfl rfl rfl rfl id

theorem leaveWorker (ordered : Ordered (some (.worker index)) accepted begun waited floor)
    (free : ∀ job, floor.desks[index]? ≠ some (.handed job)) :
    Ordered none accepted begun waited floor := by
  refine ordered.leave ?_ nofun
  rintro other job same
  cases same
  exact free job

theorem stop (ordered : Ordered (some (.worker index)) accepted begun waited floor) :
    Ordered none accepted begun waited (floor.stop index) := by
  have stopped := (ordered.setDesk .gone nofun).wakeClosers nofun
  refine stopped.leaveWorker ?_
  intro job found
  rcases getElem?_set_cases found with ⟨_, same⟩ | ⟨distinct, _⟩
  · cases same
  · exact distinct rfl

/-- A worker whom nothing but the dispatcher will wake waits for a job. -/
theorem register (ordered : Ordered (some (.worker index)) accepted begun waited floor)
    (unlisted : floor.Unlisted (.worker index)) :
    Ordered none accepted begun waited (floor.register index) := by
  have resting : Ordered none accepted begun waited
      { floor.setDesk index .idle with idle := floor.idle ++ [index] } := by
    have unpromised : ∀ number, Actor.worker index = .caller number →
        number ∉ floor.granted := nofun
    refine ⟨ordered.lined.rest unlisted _, ordered.given, ordered.begun_accepted,
      ordered.waited_accepted, ?_, fun dispatches =>
        ((ordered.room dispatches).leave ordered.lined.distinct unpromised).frame
          rfl rfl rfl rfl id⟩
    intro open_
    change (begun ++ floor.agenda.line.filterMap (floor.setDesk index .idle).inHand ++
      floor.queue.map Job.ticket).Sublist accepted
    rw [ordered.inHand_line .idle]
    exact ordered.begins open_
  unfold Floor.register
  dsimp only
  split
  · exact resting.wakeDispatcher nofun
  · exact resting

theorem complete (ordered : Ordered (some (.worker index)) accepted begun waited floor)
    (job : Job τ) (outcome : Outcome ρ) :
    Ordered none accepted begun waited (floor.complete index job outcome) := by
  have delivered := (ordered.release (.worker index)).deliver job nofun outcome
  have counted : Ordered (some (.worker index)) accepted begun waited
      { (floor.onAgenda (·.release (.worker index))).deliver job outcome with
        completed := floor.completed + 1 } :=
    delivered.frame rfl rfl rfl rfl rfl rfl rfl rfl (Nat.le_refl _)
  have unlisted : ((floor.onAgenda (·.release (.worker index))).deliver job outcome).Unlisted
      (.worker index) := by
    have anybody : ∀ actors, Agenda.Rouses (fun _ => True) (floor.agenda.release (.worker index))
        ((floor.agenda.release (.worker index)).wakeAll actors) :=
      fun actors => Agenda.rouses_wakeAll _ fun _ _ _ => trivial
    exact (floor.unlisted_release (.worker index)).rouses rfl (anybody _)
  unfold Floor.complete
  dsimp only
  split
  · exact counted.stop
  · exact counted.register unlisted

theorem setAlarms (alarms : List Nat) {aside : Option Actor} {floor : Floor ε τ ρ} {actor : Actor}
    (ordered : Ordered aside accepted begun waited floor) (other : actor ≠ .dispatcher)
    (wakeable : floor.Wakeable actor) :
    Ordered aside accepted begun waited (floor.onAgenda fun agenda =>
      alarms.foldl (fun agenda due => agenda.setAlarm due actor) agenda) := by
  induction alarms generalizing floor with
  | nil => exact ordered
  | cons due rest ih =>
      exact ih (ordered.setAlarm due other wakeable) (by cases actor <;> exact wakeable)

section Tasks

variable [Trade ε τ ρ]

theorem run (ordered : Ordered (some (.worker index)) accepted begun waited floor) (job : Job τ) :
    Ordered none accepted begun waited (floor.run index job) := by
  unfold Floor.run
  dsimp only
  rcases Trade.resume (ρ := ρ) (Actor.worker index) floor.now job.task floor.shared with
    ⟨shared, outcome | ⟨task, alarms⟩⟩
  · have resumed : Ordered (some (.worker index)) accepted begun waited
        { floor with shared := shared } :=
      ordered.frame rfl rfl rfl rfl rfl rfl rfl rfl (Nat.le_refl _)
    exact resumed.complete job outcome
  · have resumed : Ordered (some (.worker index)) accepted begun waited
        { floor with shared := shared } :=
      ordered.frame rfl rfl rfl rfl rfl rfl rfl rfl (Nat.le_refl _)
    have busy := resumed.setDesk (.busy { job with task := task }) nofun
    have seated : ∀ desk, (({ floor with shared := shared } : Floor ε τ ρ).setDesk index
        (.busy { job with task := task })).desks[index]? = some desk →
          desk = .busy { job with task := task } := by
      intro desk found
      rcases getElem?_set_cases found with ⟨_, same⟩ | ⟨distinct, _⟩
      · exact same
      · exact absurd rfl distinct
    refine Ordered.setAlarms alarms (busy.leaveWorker ?_) nofun ?_
    · intro other found
      cases seated _ found
    · intro _ idle
      cases seated _ idle

theorem giveUp (ordered : Ordered (some (.worker index)) accepted begun waited floor) (job : Job τ)
    (undisturbed : ∀ actor ∈ (Trade.abandon ρ (.worker index) floor.now job.task floor.shared).2,
      floor.Rousable actor ∧ actor ≠ .worker index) :
    Ordered none accepted begun waited (floor.giveUp index job) := by
  unfold Floor.giveUp
  dsimp only
  rcases abandoned : Trade.abandon ρ (Actor.worker index) floor.now job.task floor.shared with
    ⟨shared, woken⟩
  rw [abandoned] at undisturbed
  have left : Ordered (some (.worker index)) accepted begun waited
      { floor with shared := shared } :=
    ordered.frame rfl rfl rfl rfl rfl rfl rfl rfl (Nat.le_refl _)
  refine Ordered.complete (left.wakeAll ?_) job _
  intro actor member
  obtain ⟨rousable, other⟩ := undisturbed actor member
  refine ⟨by cases actor <;> exact rousable, ?_⟩
  rintro same
  exact other (Option.some.inj same).symm

end Tasks

/-! ## The dispatcher -/

/-- A place that became free is promised to the caller who has waited longest. -/
theorem vacate (ordered : Ordered (some .dispatcher) accepted begun waited floor)
    (open_ : floor.shut = false) (dispatches : floor.dispatching = true) :
    Ordered (some .dispatcher) accepted begun waited floor.vacate := by
  unfold Floor.vacate
  split
  · exact ordered.frame rfl rfl rfl rfl rfl rfl rfl rfl (Nat.le_refl _)
  next number rest waiting =>
    have room := (ordered.room dispatches).grant open_ waiting
    have member : number ∈ floor.granted ++ floor.waiting := by
      rw [waiting]
      exact List.mem_append_right _ List.mem_cons_self
    obtain ⟨state, found, _⟩ := (ordered.room dispatches).wants number member
    have wakes : Agenda.Rouses (· = .caller number) floor.agenda
        (floor.agenda.wake (.caller number)) := floor.agenda.rouses_wake fun _ => rfl
    have woken : Lined (some .dispatcher) (floor.wake (.caller number)) := by
      refine ordered.lined.rouses wakes ?_
      rintro actor rfl
      exact ⟨(List.getElem?_eq_some_iff.mp found).1, nofun⟩
    refine ⟨woken.frame rfl rfl rfl rfl (Nat.le_refl _), ordered.given, ordered.begun_accepted,
      ordered.waited_accepted, ?_, fun _ => room⟩
    intro _
    obtain ⟨extra, lineEq, _, extraNew⟩ := wakes.line
    have empty : extra.filterMap floor.inHand = [] := by
      apply List.filterMap_eq_nil_iff.mpr
      intro actor isExtra
      rw [(extraNew actor isExtra).2]
      rfl
    change (begun ++ (floor.agenda.wake (.caller number)).line.filterMap floor.inHand ++
      floor.queue.map Job.ticket).Sublist accepted
    rw [lineEq, List.filterMap_append, empty, List.append_nil]
    exact ordered.begins open_

/-- The first job of the queue is handed to a worker who waits for one. -/
theorem hand (ordered : Ordered (some .dispatcher) accepted begun waited floor)
    (open_ : floor.shut = false) {worker : Nat} (resting : floor.desks[worker]? = some .idle)
    {job : Job τ} {queue : List (Job τ)} (queueEq : floor.queue = job :: queue)
    (idle : List Nat) :
    Ordered (some .dispatcher) accepted begun waited
      (({ floor with queue := queue, idle := idle }.setDesk worker (.handed job)).wake
        (.worker worker)) := by
  have inRange := (List.getElem?_eq_some_iff.mp resting).1
  have absent := ordered.lined.resting open_ worker resting
  obtain ⟨lineEq, lined⟩ := ordered.lined.hand absent job
  have line : ((floor.setDesk worker (.handed job)).wake (.worker worker)).agenda.line =
      floor.agenda.line ++ [.worker worker] := (List.cons.inj lineEq).2
  have handed : (floor.setDesk worker (.handed job)).inHand (.worker worker) = some job.ticket := by
    have found : (floor.setDesk worker (.handed job)).desks[worker]? = some (.handed job) :=
      List.getElem?_set_self inRange
    rw [inHand, found]
    rfl
  refine ⟨lined.frame rfl rfl rfl rfl (Nat.le_refl _), ordered.given, ordered.begun_accepted,
    ordered.waited_accepted, ?_, ?_⟩
  · intro _
    have others : floor.agenda.line.filterMap (floor.setDesk worker (.handed job)).inHand =
        floor.agenda.line.filterMap floor.inHand := by
      apply List.filterMap_congr
      intro actor member
      apply floor.inHand_setDesk_of_ne
      rintro rfl
      exact absent (List.mem_cons_of_mem _ member)
    have begins := ordered.begins open_
    rw [queueEq, List.map_cons] at begins
    change (begun ++
      ((floor.setDesk worker (.handed job)).wake (.worker worker)).agenda.line.filterMap
        (floor.setDesk worker (.handed job)).inHand ++ queue.map Job.ticket).Sublist accepted
    rw [line, List.filterMap_append, others, List.filterMap_cons_some handed, List.filterMap_nil]
    simpa using begins
  · intro dispatches
    have seated : RoomOrder (some .dispatcher) accepted waited
        (floor.setDesk worker (.handed job)) :=
      (ordered.room dispatches).frame rfl rfl rfl rfl id
    have wakes : Agenda.Rouses (· = .worker worker) floor.agenda
        (floor.agenda.wake (.worker worker)) := floor.agenda.rouses_wake fun _ => rfl
    have woken : RoomOrder (some .dispatcher) accepted waited
        ((floor.setDesk worker (.handed job)).onAgenda (·.wake (.worker worker))) := by
      refine seated.rouses wakes ?_
      rintro actor rfl
      refine ⟨?_, by rintro ⟨⟩⟩
      intro _ idle
      rcases getElem?_set_cases idle with ⟨_, same⟩ | ⟨distinct, _⟩
      · cases same
      · exact distinct rfl
    exact woken.frame rfl rfl rfl rfl id

theorem handOver (ordered : Ordered (some .dispatcher) accepted begun waited floor)
    (open_ : floor.shut = false) (dispatches : floor.dispatching = true)
    (registered : floor.Registered) :
    Ordered (some .dispatcher) accepted begun waited floor.handOver := by
  unfold Floor.handOver
  split
  next job queue worker idle queueEq idleEq =>
    have resting := (registered open_).2 worker (by rw [idleEq]; exact List.mem_cons_self)
    have vacated := ordered.vacate open_ dispatches
    have commutes : { floor with queue := queue, idle := idle }.vacate =
        { floor.vacate with queue := queue, idle := idle } := by
      unfold Floor.vacate
      dsimp only
      split <;> rfl
    have staff := floor.sameStaff_vacate
    have queueStays : floor.vacate.queue = job :: queue := by
      rw [← queueEq]
      unfold Floor.vacate
      split <;> rfl
    rw [commutes]
    exact vacated.hand (staff.shut.trans open_) (by rw [staff.desks]; exact resting) queueStays idle
  · exact ordered

/-- A closed queue leaves nobody in line with a claim to room. -/
theorem closeQueue (ordered : Ordered (some .dispatcher) accepted begun waited floor)
    (shut : floor.shut = true) (dispatches : floor.dispatching = true) :
    Ordered (some .dispatcher) accepted begun waited floor.closeQueue := by
  have wakes : Agenda.Rouses (fun actor => ∃ number ∈ floor.waiting, actor = .caller number)
      floor.agenda (floor.agenda.wakeAll (floor.waiting.map Actor.caller)) := by
    refine floor.agenda.rouses_wakeAll ?_
    intro actor member _
    obtain ⟨number, waits, rfl⟩ := List.mem_map.mp member
    exact ⟨number, waits, rfl⟩
  have woken : Lined (some .dispatcher)
      (floor.onAgenda (·.wakeAll (floor.waiting.map Actor.caller))) := by
    refine ordered.lined.rouses wakes ?_
    rintro actor ⟨number, waits, rfl⟩
    obtain ⟨state, found, _⟩ :=
      (ordered.room dispatches).wants number (List.mem_append_right _ waits)
    exact ⟨(List.getElem?_eq_some_iff.mp found).1, nofun⟩
  have emptied : Ordered (some .dispatcher) accepted begun waited floor.emptied := by
    refine ⟨woken.frame rfl rfl rfl rfl (Nat.le_refl _), ordered.given, ordered.begun_accepted,
      ordered.waited_accepted, ?_, nofun⟩
    intro open_
    cases shut.symm.trans open_
  exact failAll_preserves (motive := Ordered (some .dispatcher) accepted begun waited)
    (fun _ job kept => kept.deliver job nofun _) floor.queue emptied

theorem dispatch {history : History τ ρ}
    (ordered : Ordered (some .dispatcher) accepted begun waited floor)
    (sound : floor.Sound history) :
    Ordered none accepted begun waited floor.dispatch := by
  have turned : Ordered (some .dispatcher) accepted begun waited floor.dispatch ∧
      floor.dispatch.Sound history := by
    refine dispatch_preserves
      (motive := fun next =>
        Ordered (some .dispatcher) accepted begun waited next ∧ next.Sound history)
      ⟨ordered, sound⟩ ?_ ?_
    · rintro between open_ dispatches ⟨kept, still⟩
      exact ⟨kept.handOver open_ dispatches still.registered, still.handOver open_⟩
    · intro shut dispatches
      exact ⟨(ordered.closeQueue shut dispatches).wakeClosers nofun,
        (sound.closeQueue shut).frame (sameStaff_wakeClosers _) rfl⟩
  exact turned.1.leave nofun nofun

end Ordered

end Floor

end RiskGate.Pool
