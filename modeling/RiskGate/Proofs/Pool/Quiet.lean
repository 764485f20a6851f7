import RiskGate.Proofs.Pool.Vigilance

/-!
# Quiet pools

In every state that a pool can reach, nobody who has something to do is forgotten, and as
long as the pool is not shut down its places and workers are all accounted for.  A pool
in which nobody is ready and no task is being run is therefore at rest: no job is queued,
and no caller waits for room.
-/

namespace RiskGate.Pool.Floor

open Schedule (Actor Agenda)

variable {ε τ ρ : Type}

/-! ## Events -/

section Events

variable {workers capacity : Nat} {floor : Floor ε τ ρ}

/-- A submission changes neither workers nor places. -/
theorem Fit.submit (fit : Fit workers capacity none floor) (scope : Nat) (task : τ) :
    Fit workers capacity none (floor.submit scope task).1 := by
  have issued : Fit workers capacity none (floor.issue scope task).1 :=
    fit.books floor.shared _ _ _ _ _ _
  change Fit workers capacity none ((floor.issue scope task).1.offerNow _).1
  unfold offerNow
  split
  · exact issued.reject _ _
  · split
    next room => exact issued.takePlace room _
    · exact issued.reject _ _

theorem Fit.submitWithin (fit : Fit workers capacity none floor) (wait : Span) (scope : Nat)
    (task : τ) : Fit workers capacity none (floor.submitWithin wait scope task).1 := by
  let newcomer : Caller τ ρ :=
    .offering (floor.issue scope task).2 wait (floor.agenda.dueAfter wait)
  have issued : Fit workers capacity none (floor.issue scope task).1 :=
    fit.books floor.shared _ _ _ _ _ _
  have entered : Fit workers capacity none (floor.entered wait scope task) := issued.enter newcomer
  have absent : floor.shut = false → floor.callers.length ∉ floor.waiting ++ floor.granted := by
    apply fit.absent
    intro state found
    exact absurd (List.getElem?_eq_some_iff.mp found).1 (Nat.lt_irrefl _)
  have found : (floor.entered wait scope task).callers[floor.callers.length]? = some newcomer :=
    List.getElem?_concat_length
  rw [submitWithin_eq]
  rcases offered : (floor.entered wait scope task).offer floor.callers.length
    (floor.issue scope task).2 wait with ⟨next, _ | answer⟩
  · have inRange := (List.getElem?_eq_some_iff.mp found).1
    have waiting := entered.offer_waits absent inRange offered
      (show newcomer.wantsRoom = true from rfl)
    have same : next.setCaller floor.callers.length newcomer = next := by
      have stays := (Floor.offer_waits _ _ offered).1.callers
      have still : next.callers[floor.callers.length]? = some newcomer := stays ▸ found
      rw [Floor.setCaller, ← (List.getElem?_eq_some_iff.mp still).2, List.set_getElem_self]
    rwa [same] at waiting
  · obtain ⟨settled, waiting, granted, shut⟩ := entered.offer_settles offered
    apply settled.setCaller
    rw [waiting, granted, shut]
    exact absent

variable [Trade ε τ ρ] {event : Event ε τ}

/-- Nobody is forgotten, whatever happens. -/
theorem Alert.after (alert : Alert none floor) (allowed : floor.Allowed event) :
    Alert none (floor.after event) := by
  cases event with
  | submit scope task => exact alert.submit scope task
  | submitWithin wait scope task => exact alert.submitWithin wait scope task
  | executeBatch wait scope tasks => exact alert.executeBatch wait scope tasks
  | shutdown limit => exact alert.shutdown limit
  | openScope =>
      have opened : Alert none (floor.onAgenda (·.openScope.1)) :=
        alert.onAgenda fun actor _ => (Agenda.spares_openScope actor _).ready
      exact opened
  | openChild parent =>
      have opened : Alert none (floor.onAgenda fun agenda => (agenda.openChild parent).1) :=
        alert.onAgenda fun actor _ => (Agenda.spares_openChild actor _ parent).ready
      exact opened
  | cancel scope => exact alert.onAgenda fun actor _ => (Agenda.spares_cancel actor _ scope).ready
  | plan due scope => exact alert.onAgenda fun _ _ => id
  | disturb shared woken =>
      have changed : Alert none { floor with shared := shared } :=
        alert.frame rfl rfl rfl rfl rfl rfl rfl rfl fun _ _ => id
      exact changed.wakes (Agenda.wakes_wakeAll _ woken)
  | rearrange agenda =>
      have insiders : agenda.insiders = floor.agenda.insiders := allowed
      have kept : ∀ actor : Actor, actor.isInsider = true → actor ∈ floor.agenda.ready →
          actor ∈ agenda.ready := by
        intro actor insider ready
        have inside : actor ∈ floor.agenda.insiders.ready := List.mem_filter.mpr ⟨ready, insider⟩
        rw [← insiders] at inside
        exact (List.mem_filter.mp inside).1
      refine ⟨alert.stopped, alert.present, fun actor _ => ?_⟩
      have attended := alert.attended actor nofun
      cases actor with
      | dispatcher => exact fun dispatches work => kept _ rfl (attended dispatches work)
      | worker index => exact fun job found => kept _ rfl (attended job found)
      | caller number =>
          exact fun state found wants =>
            (attended state found wants).imp_right fun promised =>
              ⟨promised.1, kept _ rfl promised.2⟩
      | guest | timer => trivial
  | turn actor => exact alert.turn actor
  | pass instant =>
      have moved : Alert none (floor.clockMoved instant) :=
        alert.frame rfl rfl rfl rfl rfl rfl rfl rfl fun _ _ => id
      exact moved.frame rfl rfl rfl rfl rfl rfl rfl rfl
        fun actor _ => (Agenda.spares_moveTo actor floor.agenda instant).ready

theorem Arises.alert {history : History τ ρ} (arises : Arises history floor) :
    Alert none floor := by
  obtain ⟨workers, capacity, shared, run⟩ := arises
  exact run.preserves (.make workers capacity shared) fun _ _ allowed alert => alert.after allowed

/-- The pool keeps its workers and places, whatever happens. -/
theorem Fit.after (fit : Fit workers capacity none floor) (allowed : floor.Allowed event) :
    Fit workers capacity none (floor.after event) := by
  have unready : ∀ actor, (∀ caller, actor ≠ .caller caller) →
      Fit workers capacity none (floor.unready actor) := by
    intro actor other
    apply fit.onAgenda fit.opened
    exact fun caller ready => (List.mem_erase_of_ne (other caller).symm).mpr ready
  cases event with
  | submit scope task => exact fit.submit scope task
  | submitWithin wait scope task => exact fit.submitWithin wait scope task
  | executeBatch wait scope tasks => exact fit.executeBatch wait scope tasks
  | shutdown limit => exact fit.shutdown limit
  | openScope =>
      have opened : Fit workers capacity none (floor.onAgenda (·.openScope.1)) :=
        fit.onAgenda fit.opened.openScope fun _ => id
      exact opened
  | openChild parent =>
      have opened : Fit workers capacity none
          (floor.onAgenda fun agenda => (agenda.openChild parent).1) :=
        fit.onAgenda (fit.opened.openChild parent) fun _ => id
      exact opened
  | cancel scope =>
      exact fit.onAgenda (fit.opened.cancel scope)
        fun caller => (Agenda.spares_cancel (.caller caller) _ scope).ready
  | plan due scope => exact fit.onAgenda fit.opened fun _ => id
  | disturb shared woken =>
      have changed : Fit workers capacity none { floor with shared := shared } :=
        fit.books shared _ _ _ _ _ _
      exact changed.wakes (Agenda.wakes_wakeAll _ woken)
  | rearrange agenda =>
      have insiders : agenda.insiders = floor.agenda.insiders := allowed
      have cancelledEq : agenda.insiders.cancelled = floor.agenda.insiders.cancelled :=
        congrArg Agenda.cancelled insiders
      have parentsEq : agenda.insiders.parents = floor.agenda.insiders.parents :=
        congrArg Agenda.parents insiders
      have rearranged : Fit workers capacity none (floor.onAgenda fun _ => agenda) := by
        apply fit.onAgenda
        · change agenda.insiders.Opened
          rw [Agenda.Opened, cancelledEq, parentsEq]
          exact fit.opened
        · intro caller
          have spares : Spares caller floor (floor.onAgenda fun _ => agenda) :=
            spares_rearrange insiders
          exact spares.agenda.ready
      exact rearranged
  | turn actor =>
      cases actor with
      | dispatcher => exact (unready .dispatcher (by simp)).dispatch
      | worker index => exact (unready (.worker index) (by simp)).work
      | caller caller => exact (fit.unready caller).attend
      | guest number => exact unready (.guest number) (by simp)
      | timer number => exact unready (.timer number) (by simp)
  | pass instant =>
      have elapsed : Fit workers capacity none
          (Schedule.Clockwork.elapse floor.now (max floor.now instant) floor) :=
        fit.books _ _ _ _ _ _ _
      exact elapsed.onAgenda (elapsed.opened.moveTo instant)
        fun caller => (Agenda.spares_moveTo (.caller caller) floor.agenda instant).ready

theorem Arises.fit {history : History τ ρ} (arises : Arises history floor) :
    ∃ workers capacity, 0 < workers ∧ 0 < capacity ∧ Fit workers capacity none floor := by
  obtain ⟨workers, capacity, shared, run⟩ := arises
  exact ⟨max workers 1, max capacity 1, by omega, by omega,
    run.preserves (.make workers capacity shared) fun _ _ allowed fit => fit.after allowed⟩

end Events

/-! ## Quiet pools -/

/-- When nobody is ready in a pool that is shut down, its dispatcher has stopped. -/
theorem Alert.dispatching_eq_false {floor : Floor ε τ ρ} (alert : Alert none floor)
    (shut : floor.shut = true) (quiet : floor.agenda.ready = []) : floor.dispatching = false := by
  by_contra dispatches
  exact Agenda.notMem_of_quiet quiet _
    (alert.attended .dispatcher nofun (by simpa using dispatches) (.inl shut))

/-- When nobody is ready and no task is being run, no job is left in the pool. -/
theorem Alert.atRest {floor : Floor ε τ ρ} {workers capacity : Nat} (alert : Alert none floor)
    (fit : Fit workers capacity none floor) (some : 0 < workers) (room : 0 < capacity)
    (quiet : floor.agenda.ready = []) (unbusy : ∀ job, .busy job ∉ floor.desks) : floor.AtRest := by
  have nobody := Agenda.notMem_of_quiet quiet
  have desks : ∀ desk ∈ floor.desks, desk.isTaken = false := by
    intro desk member
    cases desk with
    | idle | gone => rfl
    | busy job => exact absurd member (unbusy job)
    | handed job =>
        obtain ⟨index, found⟩ := List.mem_iff_getElem?.mp member
        exact absurd (alert.attended (.worker index) nofun job found) (nobody _)
  have callers : floor.dispatching = false ∨ floor.waiting = [] →
      ∀ caller ∈ floor.callers, caller.wantsRoom = false := by
    intro closed caller member
    by_contra wants
    obtain ⟨number, found⟩ := List.mem_iff_getElem?.mp member
    rcases alert.attended (.caller number) nofun caller found (by simpa using wants) with
      ⟨dispatches, waits⟩ | ⟨_, ready⟩
    · rcases closed with stopped | empty
      · cases dispatches.symm.trans stopped
      · rw [empty] at waits
        cases waits
    · exact nobody _ ready
  cases shut : floor.shut with
  | true =>
      have stopped := alert.dispatching_eq_false shut quiet
      exact ⟨(alert.stopped stopped).2, desks, callers (.inl stopped)⟩
  | false =>
      have idle : ∀ desk ∈ floor.desks, desk = .idle := by
        intro desk member
        have taken := desks desk member
        have present := alert.present shut desk member
        cases desk with
        | idle => rfl
        | handed | busy => cases taken
        | gone => cases present
      have registered : floor.idle ≠ [] := by
        have inRange : 0 < floor.desks.length := by
          rw [← fit.workers_eq] at some
          exact some
        apply List.ne_nil_of_mem (a := 0)
        apply (fit.manned shut).registered
        rw [List.getElem?_eq_getElem inRange, idle _ (List.getElem_mem inRange)]
      have queue : floor.queue = [] := by
        by_contra queued
        exact nobody _ (alert.attended .dispatcher nofun (alert.dispatching shut)
          (.inr ⟨queued, registered⟩))
      obtain ⟨_, waiting, _⟩ := fit.at_rest shut room (fun _ => nobody _) queue idle
      exact ⟨queue, desks, callers (.inr waiting)⟩

end RiskGate.Pool.Floor
