import RiskGate.Proofs.Pool.Books
import RiskGate.Proofs.Pool.Ebb

/-!
# The places of a pool that has been shut down

Until a pool is shut down, each place of its queue is free, taken by a job, or promised to a
caller who waits for it.  This goes on to hold afterwards: no place is promised any more, a
caller who was promised one takes it or gives it back, and the places of the jobs that are
stranded are free again.

So the places add up whatever has happened.  When nobody is ready, no place is promised, and
the places that are not free are those of the queued jobs.
-/

namespace RiskGate.Pool.Floor

open Schedule (Actor Agenda)

variable {ε τ ρ : Type}

/-- Every place is free, taken, or promised to somebody who wants room. -/
structure Allotted (floor : Floor ε τ ρ) : Prop where
  places : floor.free + floor.queue.length + floor.granted.length = floor.capacity
  distinct : floor.granted.Nodup
  wants : ∀ number ∈ floor.granted,
    ∃ state, floor.callers[number]? = some state ∧ state.wantsRoom = true

namespace Allotted

variable {floor : Floor ε τ ρ} {own : Nat}

/-- The places of an open pool. -/
theorem of_manned {aside : Option Nat} (manned : Manned aside floor) : Allotted floor where
  places := manned.places
  distinct := (List.nodup_append.mp manned.distinct).2.1
  wants := fun number member => manned.wants number (List.mem_append_right _ member)

/-- Nothing is changed that concerns the places. -/
theorem frame {before after : Floor ε τ ρ} (allotted : Allotted before)
    (capacity : after.capacity = before.capacity) (free : after.free = before.free)
    (queue : after.queue = before.queue) (granted : after.granted = before.granted)
    (callers : after.callers = before.callers) : Allotted after where
  places := by
    rw [free, queue, granted, capacity]
    exact allotted.places
  distinct := by
    rw [granted]
    exact allotted.distinct
  wants := by
    rw [granted, callers]
    exact allotted.wants

/-! ## Callers -/

/-- Whoever does not want room was promised none. -/
theorem unpromised (allotted : Allotted floor)
    (served : ∀ state, floor.callers[own]? = some state → state.wantsRoom = false) :
    own ∉ floor.granted := by
  intro member
  obtain ⟨state, found, wants⟩ := allotted.wants own member
  rw [served state found] at wants
  cases wants

theorem setCaller (allotted : Allotted floor) (unpromised : own ∉ floor.granted)
    (state : Caller τ ρ) : Allotted (floor.setCaller own state) where
  places := allotted.places
  distinct := allotted.distinct
  wants := by
    intro number member
    have distinct : own ≠ number := by
      rintro rfl
      exact unpromised member
    obtain ⟨old, found, wants⟩ := allotted.wants number member
    exact ⟨old, (List.getElem?_set_ne distinct).trans found, wants⟩

theorem enter (allotted : Allotted floor) (state : Caller τ ρ) :
    Allotted (floor.enter state).1 where
  places := allotted.places
  distinct := allotted.distinct
  wants := by
    intro number member
    obtain ⟨old, found, wants⟩ := allotted.wants number member
    have inRange := (List.getElem?_eq_some_iff.mp found).1
    exact ⟨old, (List.getElem?_append_left inRange).trans found, wants⟩

/-- A caller is no longer promised a place: the place it was promised, if any, is accounted for
by the places that are free and those that are taken. -/
theorem withdraw (allotted : Allotted floor) (own free : Nat) (queue : List (Job τ))
    (counted : free + queue.length =
      floor.free + floor.queue.length + (decide (own ∈ floor.granted)).toNat) :
    Allotted { floor.withdraw own with free := free, queue := queue } where
  places := by
    have places := allotted.places
    have kept : (floor.granted.filter (· != own)).length + (decide (own ∈ floor.granted)).toNat =
        floor.granted.length := by
      rw [← allotted.distinct.erase_eq_filter]
      by_cases promised : own ∈ floor.granted
      · rw [List.length_erase_of_mem promised, decide_eq_true promised]
        exact Nat.sub_add_cancel (List.length_pos_of_mem promised)
      · rw [List.erase_of_not_mem promised, decide_eq_false promised]
        rfl
    change free + queue.length + (floor.granted.filter (· != own)).length = floor.capacity
    omega
  distinct := allotted.distinct.filter _
  wants := fun number member => allotted.wants number (List.mem_filter.mp member).1

/-- A caller who was answered is promised nothing any more. -/
theorem offerAgain_settles (allotted : Allotted floor) {job : Job τ} {wait : Span} {due : Nat}
    {next : Floor ε τ ρ} {answer : Outcome Unit}
    (offered : floor.offerAgain own job wait due = (next, some answer)) :
    Allotted next ∧ own ∉ next.granted := by
  have left : own ∉ (floor.withdraw own).granted := by
    intro member
    simpa using (List.mem_filter.mp member).2
  rcases floor.offerAgain_cases job own wait due with
    ⟨_, offerEq⟩ | ⟨_, promised, offerEq⟩ | ⟨_, unpromised, _, offerEq⟩ | ⟨_, _, _, offerEq⟩
  · cases offerEq.symm.trans offered
    have returned := allotted.withdraw own
      (floor.free + (decide (own ∈ floor.granted)).toNat) floor.queue
      (Nat.add_right_comm _ _ _)
    exact ⟨returned.frame rfl rfl rfl rfl rfl, left⟩
  · cases offerEq.symm.trans offered
    have taken := allotted.withdraw own floor.free (floor.queue ++ [job]) (by
      rw [List.length_append, decide_eq_true promised]
      rfl)
    rw [granted_enqueue]
    refine ⟨?_, left⟩
    unfold enqueue
    dsimp only
    split
    · exact taken.frame rfl rfl rfl rfl rfl
    · exact taken.frame rfl rfl rfl rfl rfl
  · cases offerEq.symm.trans offered
    have given_up := allotted.withdraw own floor.free floor.queue (by
      rw [decide_eq_false unpromised]
      rfl)
    exact ⟨given_up.frame rfl rfl rfl rfl rfl, left⟩
  · cases offerEq.symm.trans offered

theorem join (allotted : Allotted floor) (unpromised : own ∉ floor.granted) (batch : Batch τ ρ) :
    Allotted (floor.join own batch) := by
  have released : Allotted (floor.onAgenda (·.release (.caller own))) :=
    allotted.frame rfl rfl rfl rfl rfl
  rcases floor.join_cases own batch with ⟨_, joinEq⟩ | ⟨_, _, joinEq⟩ | ⟨_, _, joinEq⟩
  · rw [joinEq]
    exact released.setCaller unpromised _
  · rw [joinEq]
    exact released.setCaller unpromised _
  · rw [joinEq]
    exact (released.setCaller unpromised _).frame rfl rfl rfl rfl rfl

/-- What is handed in to a pool that is shut down is refused. -/
theorem handIn (tasks : List τ) (batch : Batch τ ρ) {floor : Floor ε τ ρ}
    (allotted : Allotted floor) (shut : floor.shut = true) (unpromised : own ∉ floor.granted) :
    Allotted (floor.handIn own batch tasks) := by
  induction tasks generalizing batch floor with
  | nil => exact allotted.join unpromised batch
  | cons task rest ih =>
      have issued_shut : (floor.issue batch.scope task).1.shut = true := shut
      rw [Floor.handIn]
      dsimp only
      rw [offer_eq_of_shut issued_shut]
      exact ih _ (allotted.frame rfl rfl rfl rfl rfl) shut unpromised

theorem batchTurn (allotted : Allotted floor) (shut : floor.shut = true) {batch : Batch τ ρ}
    (found : floor.callers[own]? = some (.batching batch)) :
    Allotted (floor.batchTurn own batch) := by
  unfold Floor.batchTurn
  cases stage : batch.stage with
  | joining =>
      apply allotted.join
      apply allotted.unpromised
      intro state same
      cases found.symm.trans same
      rw [Caller.wantsRoom, stage]
  | offering job due rest =>
      dsimp only
      rcases offered : floor.offerAgain own job batch.wait due with ⟨next, _ | answer⟩
      · rw [offerAgain_waits _ _ offered]
        exact allotted
      · obtain ⟨settled, left⟩ := allotted.offerAgain_settles offered
        have next_shut : next.shut = true :=
          (Floor.offerAgain_settles _ _ offered).staff.shut.trans shut
        exact handIn rest _ (settled.setCaller left _) next_shut left

/-- A caller's turn. -/
theorem attend (allotted : Allotted floor) (shut : floor.shut = true) (own : Nat) :
    Allotted (floor.attend own) := by
  unfold Floor.attend
  cases found : floor.callers[own]? with
  | none => exact allotted
  | some state =>
      cases state with
      | offering job wait due =>
          dsimp only
          rw [offeringTurn]
          rcases offered : floor.offerAgain own job wait due with ⟨next, _ | answer⟩
          · rw [offerAgain_waits _ _ offered]
            exact allotted
          · obtain ⟨settled, left⟩ := allotted.offerAgain_settles offered
            exact settled.setCaller left _
      | batching batch => exact allotted.batchTurn shut found
      | closing limit due =>
          have released : Allotted (floor.onAgenda (·.release (.caller own))) :=
            allotted.frame rfl rfl rfl rfl rfl
          have unpromised : own ∉ floor.granted := by
            apply allotted.unpromised
            intro state same
            cases found.symm.trans same
            rfl
          dsimp only
          unfold closingTurn
          dsimp only
          split
          · exact released.setCaller unpromised _
          · split
            · exact released.setCaller unpromised _
            · exact allotted
      | offered | batched | closed => exact allotted

/-- A shutdown promises nothing and takes nothing. -/
theorem shutdown (allotted : Allotted floor) (limit : Span) :
    Allotted (floor.shutdown limit).1 := by
  have shutting : Allotted floor.shutting := allotted.frame rfl rfl rfl rfl rfl
  rcases floor.shutdown_cases limit with ⟨_, shutEq⟩ | ⟨_, _, shutEq⟩ | ⟨_, _, shutEq⟩
  · rw [shutEq]
    exact allotted.enter _
  · rw [shutEq]
    exact shutting.enter _
  · rw [shutEq]
    exact (shutting.enter _).frame rfl rfl rfl rfl rfl

/-! ## The staff -/

/-- When the queue is closed, the places of its jobs are free. -/
theorem dispatch (allotted : Allotted floor) (shut : floor.shut = true) :
    Allotted floor.dispatch := by
  have emptied : Allotted floor.emptied := ⟨allotted.places, allotted.distinct, allotted.wants⟩
  have failed : Allotted floor.closeQueue :=
    failAll_preserves (fun _ _ kept => kept.frame rfl rfl rfl rfl rfl) floor.queue emptied
  unfold Floor.dispatch
  split
  · exact allotted
  · exact failed.frame rfl rfl rfl rfl rfl

theorem complete (allotted : Allotted floor) (index : Nat) (job : Job τ) (outcome : Outcome ρ) :
    Allotted (floor.complete index job outcome) := by
  unfold Floor.complete
  dsimp only
  split
  · exact allotted.frame rfl rfl rfl rfl rfl
  · unfold register
    dsimp only
    split
    · exact allotted.frame rfl rfl rfl rfl rfl
    · exact allotted.frame rfl rfl rfl rfl rfl

section Work

variable [Trade ε τ ρ]

theorem run (allotted : Allotted floor) (index : Nat) (job : Job τ) :
    Allotted (floor.run index job) := by
  unfold Floor.run
  dsimp only
  rcases Trade.resume (ρ := ρ) (Actor.worker index) floor.now job.task floor.shared with
    ⟨shared, outcome | ⟨task, alarms⟩⟩
  · have changed : Allotted { floor with shared := shared } := allotted.frame rfl rfl rfl rfl rfl
    exact changed.complete index job outcome
  · exact allotted.frame rfl rfl rfl rfl rfl

/-- Workers leave the places alone. -/
theorem work (allotted : Allotted floor) (index : Nat) : Allotted (floor.work index) := by
  unfold Floor.work
  split
  next job _ =>
    have watching : Allotted (floor.onAgenda (·.watch job.scope (.worker index))) :=
      allotted.frame rfl rfl rfl rfl rfl
    split
    · exact allotted.frame rfl rfl rfl rfl rfl
    · split
      · exact allotted.complete index job _
      · exact watching.run index job
  next job _ =>
    split
    · unfold giveUp
      dsimp only
      rcases Trade.abandon ρ (Actor.worker index) floor.now job.task floor.shared with
        ⟨shared, woken⟩
      have left : Allotted (onAgenda (·.wakeAll woken) { floor with shared := shared }) :=
        allotted.frame rfl rfl rfl rfl rfl
      exact left.complete index job _
    · exact allotted.run index job
  · split
    · exact allotted.frame rfl rfl rfl rfl rfl
    · exact allotted
  · exact allotted
  · exact allotted

end Work

/-! ## Events -/

section Events

variable [Trade ε τ ρ] {event : Event ε τ}

/-- Every event keeps the account of the places of a pool that has been shut down. -/
theorem after (allotted : Allotted floor) (shut : floor.shut = true) :
    Allotted (floor.after event) := by
  have absent : ∀ state, floor.callers[floor.callers.length]? = some state →
      state.wantsRoom = false :=
    fun state found => absurd (List.getElem?_eq_some_iff.mp found).1 (Nat.lt_irrefl _)
  have unready : ∀ actor, Allotted (floor.unready actor) :=
    fun actor => allotted.frame rfl rfl rfl rfl rfl
  cases event with
  | submit scope task =>
      have refused : (floor.issue scope task).1.offerNow (floor.issue scope task).2 =
          ((floor.issue scope task).1.reject (floor.issue scope task).2 .poolShutdown,
            .error .poolShutdown) := if_pos shut
      change Allotted ((floor.issue scope task).1.offerNow (floor.issue scope task).2).1
      rw [refused]
      exact allotted.frame rfl rfl rfl rfl rfl
  | submitWithin wait scope task =>
      have entered_shut : (floor.entered wait scope task).shut = true := shut
      have issued : Allotted (floor.issue scope task).1 := allotted.frame rfl rfl rfl rfl rfl
      have entered : Allotted (floor.entered wait scope task) := issued.enter _
      have refused : Allotted ((floor.entered wait scope task).reject
          (floor.issue scope task).2 .poolShutdown) := entered.frame rfl rfl rfl rfl rfl
      change Allotted (floor.submitWithin wait scope task).1
      rw [submitWithin_eq, offer_eq_of_shut entered_shut]
      exact refused.setCaller (allotted.unpromised absent) _
  | executeBatch wait scope tasks =>
      exact handIn tasks _ (allotted.enter _) shut (allotted.unpromised absent)
  | shutdown limit => exact allotted.shutdown limit
  | turn actor =>
      cases actor with
      | dispatcher => exact (unready .dispatcher).dispatch shut
      | worker index => exact (unready (.worker index)).work index
      | caller number => exact (unready (.caller number)).attend shut number
      | guest number => exact unready (.guest number)
      | timer number => exact unready (.timer number)
  | openScope | openChild | cancel | plan | disturb | rearrange | pass =>
      exact allotted.frame rfl rfl rfl rfl rfl

end Events

end Allotted

/-- The places of a pool add up, whatever has happened to it. -/
theorem Arises.allotted [Trade ε τ ρ] {history : History τ ρ} {floor : Floor ε τ ρ}
    (arises : Arises history floor) : Allotted floor := by
  obtain ⟨workers, capacity, shared, run⟩ := arises
  have manned : ∀ {history : History τ ρ} {floor : Floor ε τ ρ},
      Run (make workers capacity shared) history floor → floor.shut = false → Allotted floor := by
    intro history floor run open_
    have arises : Arises history floor := ⟨workers, capacity, shared, run⟩
    obtain ⟨_, _, _, _, fit⟩ := arises.fit
    exact .of_manned (fit.manned open_)
  induction run with
  | refl => exact manned .refl rfl
  | @tail _ before event run allowed ih =>
      cases shut : before.shut with
      | true => exact ih.after shut
      | false =>
          -- an open pool is shut down, or goes on being open
          by_cases closes : ∃ limit, event = .shutdown limit
          · obtain ⟨limit, rfl⟩ := closes
            exact ih.shutdown limit
          · have open_ : (before.after event).shut = false :=
              (shut_after_of_ne fun limit same => closes ⟨limit, same⟩).trans shut
            exact manned (run.tail event allowed) open_

section Quiet

variable {floor : Floor ε τ ρ} {workers capacity : Nat}

/-- When nobody is ready, no place is promised. -/
theorem Alert.granted_eq_nil (alert : Alert none floor) (fit : Fit workers capacity none floor)
    (allotted : Allotted floor) (quiet : floor.agenda.ready = []) : floor.granted = [] := by
  have nobody := Agenda.notMem_of_quiet quiet
  apply List.eq_nil_iff_forall_not_mem.mpr
  intro number promised
  cases shut : floor.shut with
  | false => exact nobody _ ((fit.manned shut).woken number promised nofun)
  | true =>
      have stopped := alert.dispatching_eq_false shut quiet
      obtain ⟨state, found, wants⟩ := allotted.wants number promised
      rcases alert.attended (.caller number) nofun state found wants with
        ⟨dispatches, _⟩ | ⟨_, ready⟩
      · cases stopped.symm.trans dispatches
      · exact nobody _ ready

/-- When nobody is ready, the places that are not free are those of the queued jobs. -/
theorem Arises.queued_eq [Trade ε τ ρ] {history : History τ ρ} (arises : Arises history floor)
    (quiet : floor.agenda.ready = []) : floor.queued = floor.queue.length := by
  obtain ⟨_, _, _, _, fit⟩ := arises.fit
  have places := arises.allotted.places
  rw [arises.alert.granted_eq_nil fit arises.allotted quiet, List.length_nil] at places
  rw [queued]
  omega

end Quiet

end RiskGate.Pool.Floor
