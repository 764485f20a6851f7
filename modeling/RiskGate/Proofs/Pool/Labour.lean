import RiskGate.Proofs.Pool.Conservation

/-!
# Handing over and working

The turns of the dispatcher and of the workers keep the account of jobs.  A job
goes from the queue to a desk and from a desk to the deliveries, and the notes of
the turn say why its outcome is what it is.
-/

namespace RiskGate.Pool.Floor

open Schedule (Actor Agenda)

variable {ε τ ρ : Type} {history : History τ ρ} {floor : Floor ε τ ρ}

/-! ## The dispatcher -/

/-- Failing the jobs of a closed queue moves them from the queue to the
deliveries, one after another. -/
theorem Sound.failAll (jobs : List (Job τ)) {floor : Floor ε τ ρ} (shut : floor.shut = true)
    (sound : Sound history { floor with queue := jobs }) (closed : floor.queue = []) :
    Sound history (floor.failAll jobs) := by
  induction jobs generalizing floor with
  | nil =>
      have same : { floor with queue := [] } = floor := by rw [← closed]
      rw [same] at sound
      exact sound
  | cons job rest ih =>
      let before : Floor ε τ ρ := { floor with queue := job :: rest }
      let taken : Floor ε τ ρ := { floor with queue := rest }
      let after : Floor ε τ ρ := taken.deliver job (.error .poolShutdown)
      have queued : taken.whereabouts + {(job.ticket, .queued job)} = before.whereabouts :=
        before.whereabouts_dequeue rfl
      have staff_taken : SameStaff before taken := ⟨rfl, rfl, rfl, rfl, rfl, rfl, rfl⟩
      have staff : SameStaff before after := staff_taken.trans (taken.sameStaff_deliver job _)
      have moved : after.whereabouts + {(job.ticket, .queued job)} =
          before.whereabouts + {(job.ticket, .delivered (.error .poolShutdown))} := by
        rw [← queued, add_right_comm]
        exact congrArg (· + _) (taken.whereabouts_deliver job _)
      have present : (job.ticket, .queued job) ∈ before.whereabouts := by
        rw [← queued]
        exact Multiset.mem_add.mpr (Or.inr (Multiset.mem_singleton_self _))
      have accounted : Accounted (history ++ []) after := by
        refine sound.accounted.move staff.later [] present moved staff.nextTicket
          fun story story_eq => ?_
        rw [List.append_nil, show story = _ from story_eq]
        exact ⟨job, .stranded (staff.later.shut shut)⟩
      rw [List.append_nil] at accounted
      have delivered : Sound history after := ⟨accounted, staff.registered sound.registered⟩
      have still : (floor.deliver job (.error .poolShutdown)).shut = true := shut
      exact ih still delivered closed

/-- Closing the queue moves every queued job to the deliveries. -/
theorem Sound.closeQueue (sound : Sound history floor) (shut : floor.shut = true) :
    Sound history floor.closeQueue := by
  unfold Floor.closeQueue
  dsimp only
  refine Sound.failAll floor.queue shut ?_ rfl
  have woken : Sound history (floor.onAgenda (·.wakeAll (floor.waiting.map Actor.caller))) := by
    apply sound.onAgenda
    intro scope old
    rwa [Agenda.wakeAll_cancelled]
  exact ⟨woken.accounted.unmoved (.of_eq rfl rfl) rfl rfl, woken.registered.congr rfl rfl rfl⟩

/-- The first job of the queue is handed to an idle worker, whose desk is
empty. -/
theorem Sound.handOver (sound : Sound history floor) (shut : floor.shut = false) :
    Sound history floor.handOver := by
  unfold Floor.handOver
  split
  next job queue worker idle queueEq idleEq =>
    obtain ⟨nodup, seated⟩ := sound.registered shut
    rw [idleEq] at nodup seated
    let dequeued : Floor ε τ ρ := { floor with queue := queue }
    let taken : Floor ε τ ρ := { floor with queue := queue, idle := idle }
    let handed := taken.vacate.setDesk worker (.handed job)
    have staff : SameStaff taken taken.vacate := taken.sameStaff_vacate
    have desk : taken.vacate.desks[worker]? = some .idle := by
      rw [staff.desks]
      exact seated worker List.mem_cons_self
    have later_taken : Later floor taken := .of_eq rfl rfl
    have later_seated : Later taken.vacate handed := .of_eq rfl rfl
    have queued : taken.whereabouts + {(job.ticket, .queued job)} = floor.whereabouts :=
      floor.whereabouts_dequeue queueEq
    have moved : handed.whereabouts + {(job.ticket, .queued job)} =
        floor.whereabouts + {(job.ticket, .handed job)} := by
      have onDesk := taken.vacate.whereabouts_setDesk desk (.handed job)
      rw [Desk.places_idle, add_zero, whereabouts_vacate] at onDesk
      rw [← queued, add_right_comm]
      exact congrArg (· + _) onDesk
    have present : (job.ticket, .queued job) ∈ floor.whereabouts := by
      rw [← queued]
      exact Multiset.mem_add.mpr (Or.inr (Multiset.mem_singleton_self _))
    have accounted : Accounted (history ++ []) handed := by
      refine sound.accounted.move ((later_taken.trans staff.later).trans later_seated) []
        present moved staff.nextTicket fun story story_eq => ?_
      rw [List.append_nil]
      exact story_eq
    rw [List.append_nil] at accounted
    have registered_taken : taken.Registered := fun _ =>
      ⟨(List.nodup_cons.mp nodup).2, fun index member =>
        seated index (List.mem_cons_of_mem _ member)⟩
    have registered : handed.Registered := by
      apply registered_taken.set fun _ => (List.nodup_cons.mp nodup).1
      · exact staff.idle
      · exact congrArg (List.set · worker _) staff.desks
      · exact staff.shut
    have sound_handed : Sound history handed := ⟨accounted, registered⟩
    exact sound_handed.frame (handed.sameStaff_wake _) rfl
  next => exact sound

/-- The dispatcher's turn. -/
theorem Sound.dispatch (sound : Sound history floor) : Sound history floor.dispatch := by
  apply dispatch_preserves sound
  · exact fun between open_ _ kept => kept.handOver open_
  · exact fun shut _ => (sound.closeQueue shut).frame (sameStaff_wakeClosers _) rfl

/-! ## Workers -/

/-- A desk with a job on it is not idle. -/
theorem ne_idle_of_places {desk : Desk τ} {entry : Nat × Place τ ρ}
    (places : desk.places = {entry}) : desk ≠ .idle := by
  rintro rfl
  rw [Desk.places_idle] at places
  exact Multiset.singleton_ne_zero entry places.symm

/-- Whoever is not idle is not registered. -/
theorem Registered.absent (registered : floor.Registered) (open_ : floor.shut = false)
    {index : Nat} {desk : Desk τ} (found : floor.desks[index]? = some desk)
    (occupied : desk ≠ .idle) : index ∉ floor.idle := by
  intro member
  have idle : some desk = some .idle := found.symm.trans ((registered open_).2 index member)
  exact occupied (Option.some.inj idle)

/-- A worker that was not idle registers. -/
theorem Registered.register (registered : floor.Registered) {index : Nat} {desk : Desk τ}
    (found : floor.desks[index]? = some desk) (occupied : desk ≠ .idle) :
    (floor.register index).Registered := by
  let entered : Floor ε τ ρ := { floor.setDesk index .idle with idle := floor.idle ++ [index] }
  have inRange : index < floor.desks.length := (List.getElem?_eq_some_iff.mp found).1
  have registered_entered : entered.Registered := by
    intro open_
    obtain ⟨nodup, seated⟩ := registered open_
    have absent := registered.absent open_ found occupied
    constructor
    · refine List.nodup_append.mpr ⟨nodup, List.nodup_singleton index, ?_⟩
      rintro other member _ same rfl
      rw [List.mem_singleton] at same
      exact absent (same ▸ member)
    · intro other member
      by_cases same : index = other
      · subst other
        exact List.getElem?_set_self inRange
      · have old : other ∈ floor.idle := by
          rcases List.mem_append.mp member with old | new
          · exact old
          · exact absurd (List.mem_singleton.mp new).symm same
        exact (List.getElem?_set_ne same).trans (seated other old)
  unfold Floor.register
  dsimp only
  split
  · exact (entered.sameStaff_wake .dispatcher).registered registered_entered
  · exact registered_entered

/-- Completing a job is to record its outcome and then to stop or to register. -/
theorem complete_eq (index : Nat) (job : Job τ) (outcome : Outcome ρ) (floor : Floor ε τ ρ) :
    ∃ recorded, SameStaff floor recorded ∧
      floor.complete index job outcome =
        if floor.shut then recorded.stop index else recorded.register index := by
  let delivered : Floor ε τ ρ :=
    (floor.onAgenda (·.release (.worker index))).deliver job outcome
  have released : SameStaff floor (floor.onAgenda (·.release (.worker index))) :=
    floor.sameStaff_onAgenda rfl
  have counted : SameStaff delivered { delivered with completed := delivered.completed + 1 } :=
    ⟨rfl, rfl, rfl, rfl, rfl, rfl, rfl⟩
  exact ⟨_, (released.trans (sameStaff_deliver _ job outcome)).trans counted, rfl⟩

theorem later_stop (index : Nat) (floor : Floor ε τ ρ) : Later floor (floor.stop index) := by
  have later_desk : Later floor (floor.setDesk index .gone) := .of_eq rfl rfl
  exact later_desk.trans (sameStaff_wakeClosers _).later

theorem later_register (index : Nat) (floor : Floor ε τ ρ) :
    Later floor (floor.register index) := by
  let entered : Floor ε τ ρ := { floor.setDesk index .idle with idle := floor.idle ++ [index] }
  have later_desk : Later floor entered := .of_eq rfl rfl
  unfold Floor.register
  dsimp only
  split
  · exact later_desk.trans (entered.sameStaff_wake .dispatcher).later
  · exact later_desk

theorem nextTicket_register (index : Nat) (floor : Floor ε τ ρ) :
    (floor.register index).nextTicket = floor.nextTicket := by
  unfold Floor.register
  dsimp only
  split <;> rfl

/-- A worker delivers the outcome of the job on its desk. -/
theorem Sound.complete (sound : Sound history floor) {index : Nat} {desk : Desk τ}
    (found : floor.desks[index]? = some desk) {job : Job τ} {place : Place τ ρ}
    (places : desk.places = {(job.ticket, place)}) {outcome : Outcome ρ}
    (notes : List (Note τ ρ))
    (fits : ∀ story, floor.Fits place story → floor.Fits (.delivered outcome) (story ++ notes)) :
    Sound (history ++ notes.map fun note => (job.ticket, note))
      (floor.complete index job outcome) := by
  have moved := floor.whereabouts_complete found job outcome
  rw [places] at moved
  have present : (job.ticket, place) ∈ floor.whereabouts :=
    floor.mem_whereabouts_of_desk found (by rw [places]; exact Multiset.mem_singleton_self _)
  obtain ⟨recorded, staff, completeEq⟩ := complete_eq index job outcome floor
  rw [completeEq] at moved ⊢
  split at moved
  next shut =>
    rw [if_pos shut]
    have later : Later floor (recorded.stop index) := staff.later.trans (later_stop index _)
    constructor
    · apply sound.accounted.move later notes present moved staff.nextTicket
      intro story old
      exact later.fits (fits story old)
    · exact .of_shut (later.shut shut)
  next open_ =>
    rw [if_neg open_]
    have later : Later floor (recorded.register index) :=
      staff.later.trans (later_register index _)
    constructor
    · apply sound.accounted.move later notes present moved
        ((nextTicket_register index _).trans staff.nextTicket)
      intro story old
      exact later.fits (fits story old)
    · rw [← staff.desks] at found
      exact (staff.registered sound.registered).register found (ne_idle_of_places places)

/-- Beginning a job, or going on with it.  The notes before the end of the task
say that it was begun. -/
theorem Sound.run [Trade ε τ ρ] (sound : Sound history floor) {index : Nat} {desk : Desk τ}
    (found : floor.desks[index]? = some desk) {job : Job τ} {place : Place τ ρ}
    (places : desk.places = {(job.ticket, place)}) (begun : List (Note τ ρ))
    (fits : ∀ story, floor.Fits place story →
      floor.Fits (.running job.scope) (story ++ begun)) :
    Sound (history ++ (begun.map fun note => (job.ticket, note)) ++ floor.resumeNotes index job)
      (floor.run index job) := by
  unfold Floor.run resumeNotes
  dsimp only
  rcases Trade.resume (ρ := ρ) (Actor.worker index) floor.now job.task floor.shared with
    ⟨shared, outcome | ⟨task, alarms⟩⟩
  · let resumed : Floor ε τ ρ := { floor with shared := shared }
    have sound_resumed : Sound history resumed :=
      sound.frame ⟨rfl, rfl, rfl, rfl, rfl, rfl, rfl⟩ rfl
    have ended : ∀ story, resumed.Fits place story →
        resumed.Fits (.delivered outcome) (story ++ (begun ++ [.yielded outcome])) := by
      intro story old
      have later : Later resumed floor := .of_eq rfl rfl
      obtain ⟨first, _, storyEq⟩ := fits story (later.fits old)
      rw [← List.append_assoc, storyEq]
      exact ⟨first, .finished outcome⟩
    have completed := sound_resumed.complete found places _ ended
    rw [List.map_append, ← List.append_assoc] at completed
    exact completed
  · let suspended : Floor ε τ ρ :=
      { floor with shared := shared }.setDesk index (.busy { job with task := task })
    have later : Later floor suspended := .of_eq rfl rfl
    have moved : suspended.whereabouts + {(job.ticket, place)} =
        floor.whereabouts + {(job.ticket, .running job.scope)} := by
      rw [← places]
      exact whereabouts_setDesk _ found (.busy { job with task := task })
    have present : (job.ticket, place) ∈ floor.whereabouts :=
      floor.mem_whereabouts_of_desk found (by rw [places]; exact Multiset.mem_singleton_self _)
    have sound_suspended : Sound (history ++ begun.map fun note => (job.ticket, note))
        suspended := by
      constructor
      · exact sound.accounted.move later begun present moved rfl fits
      · have absent := fun open_ =>
          sound.registered.absent open_ found (ne_idle_of_places places)
        exact sound.registered.set absent rfl rfl rfl
    rw [List.append_nil]
    apply sound_suspended.onAgenda
    intro scope old
    have spared := Agenda.spares_foldl (.worker index) suspended.agenda
      (fun agenda due => Agenda.spares_setAlarm _ agenda due (.worker index)) alarms
    exact spared.cancelled scope old

/-- A worker gives up a job that it has begun, because the scope is cancelled. -/
theorem Sound.giveUp [Trade ε τ ρ] (sound : Sound history floor) {index : Nat} {job : Job τ}
    (found : floor.desks[index]? = some (.busy job))
    (cancelled : floor.isCancelled job.scope = true) :
    Sound history (floor.giveUp index job) := by
  unfold Floor.giveUp
  dsimp only
  rcases Trade.abandon ρ (Actor.worker index) floor.now job.task floor.shared with ⟨shared, woken⟩
  let left : Floor ε τ ρ := { floor with shared := shared }.onAgenda (·.wakeAll woken)
  have staff : SameStaff floor left :=
    ⟨rfl, rfl, rfl, rfl, rfl, rfl, Agenda.wakeAll_cancelled woken floor.agenda⟩
  have sound_left : Sound history left := sound.frame staff rfl
  have ended : ∀ story, left.Fits (.running job.scope) story →
      left.Fits (.delivered (.error .cancelled)) (story ++ []) := by
    rintro story ⟨first, scopeEq, storyEq⟩
    rw [List.append_nil, storyEq]
    exact ⟨first, .abandoned (staff.later.cancelled _ (by rwa [scopeEq]))⟩
  have completed := sound_left.complete found rfl [] ended
  rw [List.map_nil, List.append_nil] at completed
  exact completed

/-- A worker drops a job that was handed to it, because the pool was shut down. -/
theorem Sound.strand (sound : Sound history floor) {index : Nat} {job : Job τ}
    (found : floor.desks[index]? = some (.handed job)) (shut : floor.shut = true) :
    Sound history ((floor.deliver job (.error .poolShutdown)).stop index) := by
  let delivered : Floor ε τ ρ := floor.deliver job (.error .poolShutdown)
  have staff : SameStaff floor delivered := floor.sameStaff_deliver job _
  have later : Later floor (delivered.stop index) := staff.later.trans (later_stop index _)
  have moved : (delivered.stop index).whereabouts + {(job.ticket, .handed job)} =
      floor.whereabouts + {(job.ticket, .delivered (.error .poolShutdown))} := by
    rw [← floor.whereabouts_deliver job]
    exact delivered.whereabouts_stop found
  have present : (job.ticket, .handed job) ∈ floor.whereabouts :=
    floor.mem_whereabouts_of_desk found (Multiset.mem_singleton_self _)
  have accounted : Accounted (history ++ []) (delivered.stop index) := by
    apply sound.accounted.move later [] present moved rfl
    intro story storyEq
    rw [List.append_nil, show story = _ from storyEq]
    exact ⟨job, .stranded (later.shut shut)⟩
  rw [List.append_nil] at accounted
  constructor
  · exact accounted
  · exact .of_shut (later.shut shut)

/-- A worker stops that has nothing on its desk. -/
theorem Sound.stop (sound : Sound history floor) (shut : floor.shut = true) {index : Nat}
    (found : floor.desks[index]? = some .idle) : Sound history (floor.stop index) := by
  have later := later_stop index floor
  have stopped := floor.whereabouts_stop found
  rw [Desk.places_idle, add_zero] at stopped
  constructor
  · exact sound.accounted.unmoved later stopped rfl
  · exact .of_shut (later.shut shut)

/-- A worker begins a job that was handed to it, unless its scope is cancelled. -/
theorem Sound.begin [Trade ε τ ρ] (sound : Sound history floor) {index : Nat} {job : Job τ}
    (found : floor.desks[index]? = some (.handed job)) :
    if floor.isCancelled job.scope then
      Sound history (floor.complete index job (.error .cancelled))
    else
      Sound (history ++ (job.ticket, .invoked job.task) :: floor.resumeNotes index job)
        ((floor.onAgenda (·.watch job.scope (.worker index))).run index job) := by
  split
  next cancelled =>
    have ended : ∀ story, floor.Fits (.handed job) story →
        floor.Fits (.delivered (.error .cancelled)) (story ++ []) := by
      intro story storyEq
      rw [List.append_nil, show story = _ from storyEq]
      exact ⟨job, .skipped cancelled⟩
    have completed := sound.complete found rfl [] ended
    rw [List.map_nil, List.append_nil] at completed
    exact completed
  next =>
    have watching : Sound history (floor.onAgenda (·.watch job.scope (.worker index))) :=
      sound.onAgenda fun _ => id
    have fits : ∀ story, floor.Fits (.handed job) story →
        floor.Fits (.running job.scope) (story ++ [.invoked job.task]) := by
      intro story storyEq
      rw [show story = _ from storyEq]
      exact ⟨job, rfl, rfl⟩
    have begun := watching.run found rfl [.invoked job.task] fits
    rw [List.append_assoc] at begun
    exact begun

/-- A worker goes on with a job, unless its scope is cancelled. -/
theorem Sound.goOn [Trade ε τ ρ] (sound : Sound history floor) {index : Nat} {job : Job τ}
    (found : floor.desks[index]? = some (.busy job)) :
    if floor.isCancelled job.scope then Sound history (floor.giveUp index job)
    else Sound (history ++ floor.resumeNotes index job) (floor.run index job) := by
  split
  next cancelled => exact sound.giveUp found cancelled
  next =>
    have fits : ∀ story, floor.Fits (.running job.scope) story →
        floor.Fits (.running job.scope) (story ++ []) := by
      intro story old
      rwa [List.append_nil]
    have resumed := sound.run found rfl [] fits
    rw [List.map_nil, List.append_nil] at resumed
    exact resumed

/-- A worker's turn. -/
theorem Sound.work [Trade ε τ ρ] (sound : Sound history floor) (index : Nat) :
    Sound (history ++ floor.workNotes index) (floor.work index) := by
  unfold workNotes Floor.work
  cases found : floor.desks[index]? with
  | none =>
      rw [List.append_nil]
      exact sound
  | some desk =>
      cases desk with
      | handed job =>
          have begun := sound.begin found
          dsimp only
          by_cases shut : floor.shut = true
          · rw [if_pos shut, if_pos (by rw [shut]; rfl), List.append_nil]
            exact sound.strand found shut
          · rw [if_neg shut, show floor.shut = false by simpa using shut, Bool.false_or]
            split at begun
            next cancelled =>
              rw [if_pos cancelled, if_pos cancelled, List.append_nil]
              exact begun
            next live =>
              rw [if_neg live, if_neg live]
              exact begun
      | busy job =>
          have resumed := sound.goOn found
          dsimp only
          split at resumed
          next cancelled =>
            rw [if_pos cancelled, if_pos cancelled, List.append_nil]
            exact resumed
          next live =>
            rw [if_neg live, if_neg live]
            exact resumed
      | idle =>
          rw [List.append_nil]
          dsimp only
          split
          next shut => exact sound.stop shut found
          next => exact sound
      | gone =>
          rw [List.append_nil]
          exact sound

end RiskGate.Pool.Floor
