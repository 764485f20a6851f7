import Mathlib.Data.List.TakeWhile
import RiskGate.Proofs.Pool.OrderlyCallers
import RiskGate.Proofs.Pool.OrderlyStaff

/-!
# The order of jobs along a run in turn

In a run in turn every event keeps the order of jobs, so that jobs are begun in the order in
which they were accepted, and submissions that had to wait are accepted in the order in which
they began to wait.

Both need the turns to be taken in order: of two workers who were handed a job each, or two
callers who were promised room, either may act first in another run.  That nobody is overtaken by
a submission which is accepted at once holds of every run.
-/

namespace RiskGate.Pool

open Schedule (Actor Agenda)

variable {ε τ ρ : Type}

namespace Floor

/-- Whoever is at a task neither waits for a job nor for room. -/
theorem rousable_of_isAtTask {floor : Floor ε τ ρ} {actor : Actor}
    (busy : floor.isAtTask actor = true) : floor.Rousable actor := by
  cases actor with
  | worker index =>
      intro _ idle
      rw [isAtTask, idle] at busy
      cases busy
  | guest | timer => trivial
  | dispatcher | caller => cases busy

namespace Ordered

variable {accepted begun waited : List Nat} {history : History τ ρ} {floor : Floor ε τ ρ}

/-! ## Turns -/

section Worker

variable [Trade ε τ ρ] {index : Nat} {job : Job τ}

/-- A worker that has nothing to do leaves the line, or stops. -/
theorem restingTurn (ordered : Ordered none accepted begun waited floor)
    (first : floor.agenda.ready.head? = some (.worker index))
    (unseated : ∀ job, floor.desks[index]? ≠ some (.busy job) ∧
      floor.desks[index]? ≠ some (.handed job)) :
    Ordered none accepted
      (begun ++ History.begun ((floor.unready (.worker index)).workNotes index)) waited
      ((floor.unready (.worker index)).work index) := by
  obtain ⟨resting, _⟩ := ordered.begin rfl first
  have leaves : Ordered none accepted begun waited (floor.unready (.worker index)) :=
    resting.leaveWorker fun job => (unseated job).2
  unfold workNotes Floor.work
  rcases found : floor.desks[index]? with _ | desk
  · rw [show (floor.unready (.worker index)).desks[index]? = _ from found]
    dsimp only
    rw [History.begun_nil, List.append_nil]
    exact leaves
  · rw [show (floor.unready (.worker index)).desks[index]? = _ from found]
    cases desk with
    | gone =>
        dsimp only
        rw [History.begun_nil, List.append_nil]
        exact leaves
    | idle =>
        dsimp only
        rw [History.begun_nil, List.append_nil]
        split
        · exact resting.stop
        · exact leaves
    | busy job => exact absurd found (unseated job).1
    | handed job => exact absurd found (unseated job).2

/-- A worker goes on with its job, or gives it up. -/
theorem busyTurn (ordered : Ordered none accepted begun waited floor)
    (inTurn : floor.InTurn (.turn (.worker index)))
    (found : floor.desks[index]? = some (.busy job)) :
    Ordered none accepted
      (begun ++ History.begun ((floor.unready (.worker index)).workNotes index)) waited
      ((floor.unready (.worker index)).work index) := by
  obtain ⟨resting, _⟩ := ordered.begin rfl (inTurn.first _ rfl)
  have undisturbed := inTurn.undisturbed
  rw [stirred, found] at undisturbed
  unfold workNotes Floor.work
  rw [show (floor.unready (.worker index)).desks[index]? = _ from found]
  dsimp only at undisturbed ⊢
  split
  next cancelled =>
    rw [History.begun_nil, List.append_nil]
    refine resting.giveUp job ?_
    intro actor woken
    have wasCancelled : floor.isCancelled job.scope = true := cancelled
    rw [if_pos wasCancelled] at undisturbed
    obtain ⟨busy, other⟩ := undisturbed actor woken
    have rousable := rousable_of_isAtTask busy
    refine ⟨by cases actor <;> exact rousable, ?_⟩
    rintro rfl
    exact other rfl
  next =>
    rw [History.begun, tickets_resumeNotes (fun _ => rfl), List.append_nil]
    exact resting.run job

/-- A worker begins the job it was handed, or does not. -/
theorem handedTurn (ordered : Ordered none accepted begun waited floor)
    (first : floor.agenda.ready.head? = some (.worker index))
    (found : floor.desks[index]? = some (.handed job)) :
    Ordered none accepted
      (begun ++ History.begun ((floor.unready (.worker index)).workNotes index)) waited
      ((floor.unready (.worker index)).work index) := by
  obtain ⟨resting, beginning⟩ := ordered.begin rfl first
  have inHand : floor.inHand (.worker index) = some job.ticket := by
    rw [Floor.inHand, found]
    rfl
  unfold workNotes Floor.work
  rw [show (floor.unready (.worker index)).desks[index]? = _ from found]
  dsimp only
  cases shut : floor.shut with
  | true =>
      have shutStill : (floor.unready (.worker index)).shut = true := shut
      rw [shutStill, Bool.true_or, if_pos rfl, if_pos rfl, History.begun_nil, List.append_nil]
      exact (resting.deliver job (by rintro _ _ ⟨⟩) _).stop
  | false =>
      have open_ : (floor.unready (.worker index)).shut = false := shut
      rw [open_, Bool.false_or, if_neg Bool.false_ne_true]
      split
      · rw [History.begun_nil, List.append_nil]
        exact resting.complete job _
      · have begunNow : History.begun ((job.ticket, .invoked job.task) ::
            (floor.unready (.worker index)).resumeNotes index job) = [job.ticket] := by
          rw [← List.singleton_append, History.begun, History.tickets_append,
            tickets_resumeNotes (fun _ => rfl)]
          rfl
        rw [begunNow]
        have rousable : (floor.unready (.worker index)).Rousable (.worker index) := by
          intro _ idle
          cases found.symm.trans idle
        have other : Actor.worker index ≠ .dispatcher := by rintro ⟨⟩
        exact ((beginning job.ticket shut inHand).watch job.scope other rousable).run job

/-- A worker's turn. -/
theorem work (ordered : Ordered none accepted begun waited floor)
    (inTurn : floor.InTurn (.turn (.worker index))) :
    Ordered none accepted
      (begun ++ History.begun ((floor.unready (.worker index)).workNotes index)) waited
      ((floor.unready (.worker index)).work index) := by
  have first := inTurn.first _ rfl
  cases found : floor.desks[index]? with
  | none => exact ordered.restingTurn first fun job => ⟨found ▸ nofun, found ▸ nofun⟩
  | some desk =>
      cases desk with
      | busy job => exact ordered.busyTurn inTurn found
      | handed job => exact ordered.handedTurn first found
      | idle | gone => exact ordered.restingTurn first fun job => ⟨found ▸ nofun, found ▸ nofun⟩

end Worker

/-- A caller's turn. -/
theorem attend (ordered : Ordered none accepted begun waited floor) {number : Nat}
    (first : floor.agenda.ready.head? = some (.caller number)) (sound : Sound history floor)
    (dispatching : floor.shut = false → floor.dispatching = true) :
    Ordered none
      (accepted ++ History.accepted ((floor.unready (.caller number)).attendNotes number))
      (begun ++ History.begun ((floor.unready (.caller number)).attendNotes number))
      (waited ++ History.unanswered ((floor.unready (.caller number)).attendNotes number))
      ((floor.unready (.caller number)).attend number) := by
  obtain ⟨resting, _⟩ := ordered.begin rfl first
  rw [begun_attendNotes, List.append_nil]
  have offered : ∀ (state : Caller τ ρ) (job : Job τ), floor.callers[number]? = some state →
      (job.ticket, .offered job) ∈ state.places → job.ticket < floor.nextTicket := by
    intro state job found wants
    apply sound.accounted.lt_nextTicket
    exact mem_whereabouts.mpr (.inl ⟨state, List.mem_of_getElem? found, wants⟩)
  have idle : ∀ state, floor.callers[number]? = some state → state.wantsRoom = false →
      Ordered none accepted begun waited (floor.unready (.caller number)) := by
    intro state found served
    apply resting.leaveCaller
    apply resting.aloof_of_served
    intro other otherFound
    cases found.symm.trans otherFound
    exact served
  unfold attendNotes Floor.attend
  cases found : floor.callers[number]? with
  | none =>
      rw [show (floor.unready (.caller number)).callers[number]? = _ from found]
      dsimp only
      rw [History.accepted_nil, History.unanswered_nil, List.append_nil, List.append_nil]
      apply resting.leaveCaller
      apply resting.aloof_of_served
      intro other otherFound
      cases found.symm.trans otherFound
  | some state =>
      rw [show (floor.unready (.caller number)).callers[number]? = _ from found]
      cases state with
      | offering job wait due =>
          exact resting.offeringTurn found
            (offered _ job found (Multiset.mem_singleton_self _))
      | batching batch =>
          refine resting.batchTurn dispatching found ?_
          intro job due rest stage
          refine offered _ job found ?_
          rw [Caller.places, stage]
          exact Multiset.mem_singleton_self _
      | closing limit due =>
          dsimp only
          rw [History.accepted_nil, History.unanswered_nil, List.append_nil, List.append_nil]
          exact resting.closingTurn found
      | offered | batched | closed =>
          dsimp only
          rw [History.accepted_nil, History.unanswered_nil, List.append_nil, List.append_nil]
          exact idle _ found rfl

/-! ## Time and scopes -/

/-- Nothing is changed that wakes actors of the pool. -/
theorem onAgenda (ordered : Ordered none accepted begun waited floor) (change : Agenda → Agenda)
    (line : (change floor.agenda).line = floor.agenda.line)
    (alarms : (change floor.agenda).alarms = floor.agenda.alarms)
    (watchers : (change floor.agenda).watchers = floor.agenda.watchers) :
    Ordered none accepted begun waited (floor.onAgenda change) := by
  have nobody : Agenda.Rouses (fun _ => False) floor.agenda (change floor.agenda) := by
    refine .of_line line ?_ ?_
    · rw [alarms]
      exact fun _ member _ => member
    · rw [watchers]
      exact fun _ member _ => member
  exact ordered.rouses nobody nofun

/-- An actor outside the pool takes its turn. -/
theorem unready (ordered : Ordered none accepted begun waited floor) {actor : Actor}
    (outside : actor.isInsider = false) :
    Ordered none accepted begun waited (floor.unready actor) := by
  refine ordered.onAgenda (fun agenda => { agenda with ready := agenda.ready.erase actor })
    ?_ rfl rfl
  have absent : actor ∉ floor.agenda.line := by
    intro member
    rw [(List.mem_filter.mp member).2] at outside
    cases outside
  exact List.erase_filter.symm.trans (List.erase_of_not_mem absent)

/-- Whatever is due wakes actors when nobody is in line, and the dispatcher is not among
them. -/
theorem moveTo (ordered : Ordered none accepted begun waited floor)
    (quiet : floor.agenda.ready = []) (instant : Nat) :
    Ordered none accepted begun waited (floor.onAgenda (·.moveTo instant)) := by
  have empty : floor.agenda.line = [] := by rw [Agenda.line, quiet, List.filter_nil]
  have rouses : Agenda.Rouses (fun actor => actor ≠ .dispatcher ∧ floor.Wakeable actor)
      floor.agenda (floor.agenda.moveTo instant) :=
    floor.agenda.rouses_moveTo instant
      (fun entry member _ => (ordered.lined.watching entry member).imp_right Rousable.wakeable)
      (fun alarm member _ => ordered.lined.alarmed alarm member)
  obtain ⟨extra, lineEq, _, extraNew⟩ := rouses.line
  rw [empty, List.nil_append] at lineEq
  refine ⟨ordered.lined.rouses rouses fun actor isNew => ⟨isNew.2, by rintro ⟨⟩⟩, ordered.given,
    ordered.begun_accepted, ordered.waited_accepted, ?_, ?_⟩
  · intro open_
    have begins := ordered.begins open_
    have unhanded : ∀ actor, floor.inHand actor = none := by
      intro actor
      cases actor with
      | worker index =>
          rw [inHand, Option.bind_eq_none_iff]
          intro desk found
          cases desk with
          | handed job =>
              have inLine : .worker index ∈ floor.agenda.line :=
                ordered.lined.seated index job found
              rw [empty] at inLine
              cases inLine
          | idle | busy | gone => rfl
      | dispatcher | caller | guest | timer => rfl
    change (begun ++ (floor.agenda.moveTo instant).line.filterMap floor.inHand ++
      floor.queue.map Job.ticket).Sublist accepted
    rw [List.filterMap_eq_nil_iff.mpr fun actor _ => unhanded actor]
    rw [List.filterMap_eq_nil_iff.mpr fun actor _ => unhanded actor] at begins
    exact begins
  · intro dispatches
    have room := ordered.room dispatches
    have ungranted : floor.granted = [] := by
      rw [← room.promised, lineWith, empty]
      rfl
    refine ⟨room.distinct, room.wants, ?_, ?_, room.served⟩
    · change List.filter (· ∈ floor.granted) _ = floor.granted
      rw [ungranted]
      exact List.filter_eq_nil_iff.mpr fun _ _ => by simp
    · intro _ number _ member
      have none : ((floor.onAgenda (·.moveTo instant)).lineWith none).dropWhile (· != .dispatcher) =
          [] := by
        change (floor.agenda.moveTo instant).line.dropWhile (· != .dispatcher) = []
        rw [lineEq, List.dropWhile_eq_nil_iff]
        intro actor isExtra
        simpa using (extraNew actor isExtra).2.1
      rw [none] at member
      cases member

/-! ## Events -/

/-- Every event that happens in turn keeps the order of jobs. -/
theorem after [Trade ε τ ρ] (ordered : Ordered none accepted begun waited floor) {event : Event ε τ}
    (inTurn : floor.InTurn event) (sound : Sound history floor)
    (dispatching : floor.shut = false → floor.dispatching = true) :
    Ordered none (accepted ++ History.accepted (floor.notes event))
      (begun ++ History.begun (floor.notes event))
      (waited ++ History.unanswered (floor.notes event)) (floor.after event) := by
  have silent : ∀ {next : Floor ε τ ρ}, Ordered none accepted begun waited next →
      Ordered none (accepted ++ History.accepted ([] : History τ ρ))
        (begun ++ History.begun ([] : History τ ρ))
        (waited ++ History.unanswered ([] : History τ ρ)) next := by
    intro next still
    rwa [History.accepted_nil, History.begun_nil, History.unanswered_nil, List.append_nil,
      List.append_nil, List.append_nil]
  cases event with
  | submit scope task =>
      have submitted := ordered.submit dispatching scope task
      have unanswered : History.unanswered (floor.notes (.submit scope task)) = [] :=
        History.unanswered_cons_answered _ _ _ []
      have unbegun : History.begun (floor.notes (.submit scope task)) = [] := rfl
      rw [unanswered, unbegun, List.append_nil, List.append_nil]
      exact submitted
  | submitWithin wait scope task =>
      have submitted := ordered.submitWithin dispatching wait scope task
      have unbegun : History.begun (floor.notes (.submitWithin wait scope task)) = [] :=
        begun_answerNotes _ _
      rw [unbegun, List.append_nil]
      exact submitted
  | executeBatch wait scope tasks =>
      have executed := ordered.executeBatch dispatching wait scope tasks
      have unbegun : History.begun (floor.notes (.executeBatch wait scope tasks)) = [] :=
        begun_handInNotes _ _ _ _
      rw [unbegun, List.append_nil]
      exact executed
  | shutdown limit => exact silent (ordered.shutdown limit)
  | openScope => exact silent (ordered.onAgenda (·.openScope.1) rfl rfl rfl)
  | openChild parent =>
      exact silent (ordered.onAgenda (fun agenda => (agenda.openChild parent).1) rfl rfl rfl)
  | plan due scope => exact silent (ordered.onAgenda (·.plan due scope) rfl rfl rfl)
  | cancel scope =>
      have rouses : Agenda.Rouses floor.Rousable floor.agenda (floor.agenda.cancel scope) :=
        floor.agenda.rouses_cancel scope fun entry member _ =>
          (ordered.lined.watching entry member).2
      exact silent (ordered.rouses rouses fun actor rousable => ⟨rousable, nofun⟩)
  | disturb shared woken =>
      have shared : Ordered none accepted begun waited { floor with shared := shared } :=
        ordered.frame rfl rfl rfl rfl rfl rfl rfl rfl (Nat.le_refl _)
      refine silent (shared.wakeAll ?_)
      intro actor member
      have rousable := rousable_of_isAtTask (inTurn.undisturbed actor member).1
      exact ⟨by cases actor <;> exact rousable, nofun⟩
  | rearrange agenda =>
      have rouses : Agenda.Rouses (fun _ => False) floor.agenda agenda :=
        floor.agenda.rouses_rearrange inTurn.allowed
      have rearranged : Ordered none accepted begun waited (floor.onAgenda fun _ => agenda) :=
        ordered.rouses rouses nofun
      exact silent rearranged
  | pass instant =>
      have elapsed : Ordered none accepted begun waited
          { floor with
            shared := Trade.elapse τ ρ floor.now (max floor.now instant) floor.shared } :=
        ordered.frame rfl rfl rfl rfl rfl rfl rfl rfl (Nat.le_refl _)
      exact silent (elapsed.moveTo inTurn.allowed.1 instant)
  | turn actor =>
      have first := inTurn.first actor rfl
      cases actor with
      | dispatcher =>
          exact silent ((ordered.begin rfl first).1.dispatch (sound.unready .dispatcher))
      | worker index =>
          have worked := ordered.work inTurn
          change Ordered none (accepted ++ History.accepted (workNotes index _)) _
            (waited ++ History.unanswered (workNotes index _)) _
          rw [accepted_workNotes, unanswered_workNotes, List.append_nil, List.append_nil]
          exact worked
      | caller number => exact ordered.attend first sound dispatching
      | guest number | timer number =>
          exact silent (ordered.unready rfl)

end Ordered

/-- The order of jobs along a run in turn. -/
theorem RunInTurn.ordered [Trade ε τ ρ] {workers capacity : Nat} {shared : ε}
    {chronicle : List (History τ ρ)} {floor : Floor ε τ ρ}
    (inTurn : RunInTurn (make workers capacity shared) chronicle floor) :
    Ordered none (History.accepted chronicle.flatten) (History.begun chronicle.flatten)
      (History.waited chronicle) floor := by
  induction inTurn with
  | refl => exact .make workers capacity shared
  | tail event earlier next ih =>
      have arises : Arises _ _ := ⟨workers, capacity, shared, earlier.run⟩
      have dispatching := arises.alert.dispatching
      have accepted := History.tickets_append (τ := τ) (ρ := ρ) Note.isAcceptance
      have begun := History.tickets_append (τ := τ) (ρ := ρ) Note.isBeginning
      rw [List.flatten_concat, History.accepted, accepted, History.begun, begun,
        History.waited_concat]
      exact ih.after next arises.sound dispatching

/-! ## First come, first served -/

end Floor

end RiskGate.Pool
