import RiskGate.Proofs.Pool.InTurn
import RiskGate.Proofs.Schedule.Line

/-!
# Who stands in line

A worker who waits for a job is nowhere on the agenda of an open pool: the worker is neither
ready, nor will anything but the dispatcher make it so.  A worker to whom a job was handed
stands in line, and so the workers begin their jobs in the order in which they were woken.
A caller who waits for room watches no scope, and the dispatcher is woken by nobody but the
pool.

While an actor takes its turn it counts as the first one in line.
-/

namespace RiskGate.Pool

open Schedule (Actor Agenda)

variable {ε τ ρ : Type}

namespace Floor

/-- The line of ready actors, with the one who acts at its head. -/
def lineWith (aside : Option Actor) (floor : Floor ε τ ρ) : List Actor :=
  aside.toList ++ floor.agenda.line

/-- Those who are woken come last in line, as long as the one who acts is not among them. -/
theorem lineWith_rouses {aside : Option Actor} (floor : Floor ε τ ρ) {change : Agenda → Agenda}
    {news : Actor → Prop} (rouses : Agenda.Rouses news floor.agenda (change floor.agenda))
    (others : ∀ actor, news actor → aside ≠ some actor) :
    ∃ extra, (floor.onAgenda change).lineWith aside = floor.lineWith aside ++ extra ∧
      extra.Nodup ∧ ∀ actor ∈ extra, actor ∉ floor.lineWith aside ∧ news actor := by
  obtain ⟨extra, lineEq, distinct, areNew⟩ := rouses.line
  refine ⟨extra, ?_, distinct, ?_⟩
  · rw [lineWith, lineWith, List.append_assoc, ← lineEq]
    rfl
  · intro actor member
    refine ⟨fun there => ?_, (areNew actor member).2⟩
    rcases List.mem_append.mp there with acting | inLine
    · exact others actor (areNew actor member).2 (Option.mem_toList.mp acting)
    · exact (areNew actor member).1 inLine

/-- The actor may come into line at any time: it is not a worker of an open pool who waits
for a job. -/
def Wakeable (floor : Floor ε τ ρ) : Actor → Prop
  | .worker index => floor.shut = false → floor.desks[index]? ≠ some .idle
  | .caller number => number < floor.callers.length
  | .dispatcher | .guest _ | .timer _ => True

/-- The actor may come into line at any time, and does not wait for room. -/
def Rousable (floor : Floor ε τ ρ) : Actor → Prop
  | .worker index => floor.shut = false → floor.desks[index]? ≠ some .idle
  | .caller number => ∃ state, floor.callers[number]? = some state ∧ state.wantsRoom = false
  | .dispatcher | .guest _ | .timer _ => True

theorem Rousable.wakeable {floor : Floor ε τ ρ} {actor : Actor} (rousable : floor.Rousable actor) :
    floor.Wakeable actor := by
  cases actor with
  | caller number =>
      obtain ⟨state, found, _⟩ := rousable
      exact (List.getElem?_eq_some_iff.mp found).1
  | dispatcher | worker | guest | timer => exact rousable

/-- Actors outside the pool may always be woken. -/
theorem rousable_of_outside (floor : Floor ε τ ρ) {actor : Actor}
    (outside : actor.isInsider = false) : floor.Rousable actor := by
  cases actor with
  | guest | timer => trivial
  | dispatcher | worker | caller => cases outside

/-- Whether an actor can be woken is a matter of the workers and of the number of callers. -/
theorem Wakeable.mono {floor next : Floor ε τ ρ} {actor : Actor} (wakeable : floor.Wakeable actor)
    (workers : ∀ index, floor.Wakeable (.worker index) → next.Wakeable (.worker index))
    (callers : floor.callers.length ≤ next.callers.length) : next.Wakeable actor := by
  cases actor with
  | worker index => exact workers index wakeable
  | caller number => exact Nat.lt_of_lt_of_le wakeable callers
  | dispatcher | guest | timer => trivial

theorem Rousable.mono {floor next : Floor ε τ ρ} {actor : Actor} (rousable : floor.Rousable actor)
    (workers : ∀ index, floor.Rousable (.worker index) → next.Rousable (.worker index))
    (callers : ∀ number, actor = .caller number →
      floor.Rousable (.caller number) → next.Rousable (.caller number)) :
    next.Rousable actor := by
  cases actor with
  | worker index => exact workers index rousable
  | caller number => exact callers number rfl rousable
  | dispatcher | guest | timer => trivial

/-- The actors stand in line as the desks and the callers say.  Whoever is aside takes a turn
and counts as the first one. -/
structure Lined (aside : Option Actor) (floor : Floor ε τ ρ) : Prop where
  distinct : (floor.lineWith aside).Nodup
  present : ∀ number, .caller number ∈ floor.lineWith aside → number < floor.callers.length
  resting : floor.shut = false → ∀ index, floor.desks[index]? = some .idle →
    .worker index ∉ floor.lineWith aside
  seated : ∀ index job, floor.desks[index]? = some (.handed job) →
    .worker index ∈ floor.lineWith aside
  alarmed : ∀ alarm ∈ floor.agenda.alarms, alarm.actor ≠ .dispatcher ∧ floor.Wakeable alarm.actor
  watching : ∀ entry ∈ floor.agenda.watchers, entry.2 ≠ .dispatcher ∧ floor.Rousable entry.2
  told : ∀ (number : Nat) (batch : Batch τ ρ), floor.callers[number]? = some (.batching batch) →
    ∀ ticket ∈ batch.tickets, ticket < floor.nextTicket

/-- Nothing on the agenda will wake the actor. -/
def Unlisted (actor : Actor) (floor : Floor ε τ ρ) : Prop :=
  (∀ alarm ∈ floor.agenda.alarms, alarm.actor ≠ actor) ∧
    ∀ entry ∈ floor.agenda.watchers, entry.2 ≠ actor

namespace Lined

variable {aside : Option Actor} {floor : Floor ε τ ρ}

theorem make (workers capacity : Nat) (shared : ε) :
    Lined none (Floor.make workers capacity shared : Floor ε τ ρ) where
  distinct := List.nodup_nil
  present := fun _ none => absurd none List.not_mem_nil
  resting := fun _ _ _ none => absurd none List.not_mem_nil
  seated := by
    intro index job found
    cases List.eq_of_mem_replicate (List.mem_of_getElem? found)
  alarmed := fun _ none => absurd none List.not_mem_nil
  watching := fun _ none => absurd none List.not_mem_nil
  told := fun _ _ found => absurd found nofun

/-- Some who may come into line are woken. -/
theorem rouses (lined : Lined aside floor) {change : Agenda → Agenda} {news : Actor → Prop}
    (rouses : Agenda.Rouses news floor.agenda (change floor.agenda))
    (areNews : ∀ actor, news actor → floor.Wakeable actor ∧ aside ≠ some actor) :
    Lined aside (floor.onAgenda change) := by
  obtain ⟨extra, lineEq, extraDistinct, extraNew⟩ :=
    floor.lineWith_rouses rouses fun actor isNew => (areNews actor isNew).2
  refine ⟨?_, ?_, ?_, ?_, ?_, ?_, lined.told⟩
  · rw [lineEq]
    refine List.nodup_append.mpr ⟨lined.distinct, extraDistinct, ?_⟩
    rintro actor there other member rfl
    exact (extraNew actor member).1 there
  · rw [lineEq]
    intro number member
    rcases List.mem_append.mp member with old | new
    · exact lined.present number old
    · exact (areNews _ (extraNew _ new).2).1
  · rw [lineEq]
    intro open_ index idle member
    rcases List.mem_append.mp member with old | new
    · exact lined.resting open_ index idle old
    · exact (areNews _ (extraNew _ new).2).1 open_ idle
  · rw [lineEq]
    exact fun index job found => List.mem_append_left _ (lined.seated index job found)
  · intro alarm member
    cases inside : alarm.actor.isInsider with
    | true => exact lined.alarmed alarm (rouses.alarms alarm member inside)
    | false =>
        refine ⟨fun same => ?_, (floor.rousable_of_outside inside).wakeable⟩
        rw [same] at inside
        cases inside
  · intro entry member
    cases inside : entry.2.isInsider with
    | true => exact lined.watching entry (rouses.watchers entry member inside)
    | false =>
        refine ⟨fun same => ?_, floor.rousable_of_outside inside⟩
        rw [same] at inside
        cases inside

/-- Nothing is changed that anybody in line minds. -/
theorem frame {after : Floor ε τ ρ} (lined : Lined aside floor)
    (agenda : after.agenda = floor.agenda) (desks : after.desks = floor.desks)
    (callers : after.callers = floor.callers) (shut : after.shut = floor.shut)
    (nextTicket : floor.nextTicket ≤ after.nextTicket) : Lined aside after := by
  have workers : ∀ index, floor.Wakeable (.worker index) → after.Wakeable (.worker index) := by
    intro index wakeable
    rwa [Wakeable, desks, shut]
  have wakeable : ∀ actor, floor.Wakeable actor → after.Wakeable actor :=
    fun actor wakeable => wakeable.mono workers (by rw [callers])
  have rousable : ∀ actor, floor.Rousable actor → after.Rousable actor := by
    intro actor rousable
    refine rousable.mono workers fun number _ waits => ?_
    rwa [Rousable, callers]
  have line : after.lineWith aside = floor.lineWith aside := by rw [lineWith, agenda, lineWith]
  constructor
  · rw [line]
    exact lined.distinct
  · rw [line, callers]
    exact lined.present
  · rw [line, desks, shut]
    exact lined.resting
  · rw [line, desks]
    exact lined.seated
  · rw [agenda]
    exact fun alarm member => (lined.alarmed alarm member).imp_right (wakeable _)
  · rw [agenda]
    exact fun entry member => (lined.watching entry member).imp_right (rousable _)
  · rw [callers]
    exact fun number batch found ticket member =>
      Nat.lt_of_lt_of_le (lined.told number batch found ticket member) nextTicket

/-! ## Turns -/

/-- The first one in line takes its turn. -/
theorem begin {actor : Actor} (lined : Lined none floor) (inside : actor.isInsider = true)
    (first : floor.agenda.ready.head? = some actor) :
    (floor.unready actor).lineWith (some actor) = floor.lineWith none ∧
      Lined (some actor) (floor.unready actor) := by
  obtain ⟨rest, ready⟩ := List.head?_eq_some_iff.mp first
  have line : (floor.unready actor).lineWith (some actor) = floor.lineWith none := by
    change actor :: (floor.agenda.ready.erase actor).filter (·.isInsider) =
      floor.agenda.ready.filter (·.isInsider)
    rw [ready, List.erase_cons_head, List.filter_cons_of_pos inside]
  refine ⟨line, ?_⟩
  constructor
  · rw [line]
    exact lined.distinct
  · rw [line]
    exact lined.present
  · rw [line]
    exact lined.resting
  · rw [line]
    exact lined.seated
  · exact lined.alarmed
  · exact lined.watching
  · exact lined.told

/-- Whoever has no job in hand may go out of line. -/
theorem leave {actor : Actor} (lined : Lined (some actor) floor)
    (free : ∀ index job, actor = .worker index → floor.desks[index]? ≠ some (.handed job)) :
    Lined none floor where
  distinct := (List.nodup_cons.mp lined.distinct).2
  present := fun number member => lined.present number (List.mem_cons_of_mem _ member)
  resting := fun open_ index idle member =>
    lined.resting open_ index idle (List.mem_cons_of_mem _ member)
  seated := by
    intro index job found
    rcases List.mem_cons.mp (lined.seated index job found) with same | member
    · exact absurd found (free index job same.symm)
    · exact member
  alarmed := lined.alarmed
  watching := lined.watching
  told := lined.told

/-! ## The agenda -/

theorem watch (lined : Lined aside floor) {actor : Actor} (scope : Nat)
    (other : actor ≠ .dispatcher) (rousable : floor.Rousable actor) :
    Lined aside (floor.onAgenda (·.watch scope actor)) := by
  refine ⟨lined.distinct, lined.present, lined.resting, lined.seated, lined.alarmed, ?_, lined.told⟩
  intro entry member
  rcases List.mem_append.mp member with old | new
  · exact lined.watching entry old
  · rw [List.mem_singleton.mp new]
    exact ⟨other, rousable⟩

theorem setAlarm (lined : Lined aside floor) {actor : Actor} (due : Nat)
    (other : actor ≠ .dispatcher) (wakeable : floor.Wakeable actor) :
    Lined aside (floor.onAgenda (·.setAlarm due actor)) := by
  refine ⟨lined.distinct, lined.present, lined.resting, lined.seated, ?_, lined.watching,
    lined.told⟩
  intro alarm member
  rcases List.mem_append.mp member with old | new
  · exact lined.alarmed alarm old
  · rw [List.mem_singleton.mp new]
    exact ⟨other, wakeable⟩

/-! ## Callers -/

theorem setCaller (lined : Lined aside floor) {own : Nat} {state : Caller τ ρ}
    (unwatched : state.wantsRoom = true →
      ∀ entry ∈ floor.agenda.watchers, entry.2 ≠ .caller own)
    (told : ∀ batch, state = .batching batch →
      ∀ ticket ∈ batch.tickets, ticket < floor.nextTicket) :
    Lined aside (floor.setCaller own state) := by
  have length : (floor.setCaller own state).callers.length = floor.callers.length :=
    List.length_set
  refine ⟨lined.distinct, ?_, lined.resting, lined.seated, ?_, ?_, ?_⟩
  · rw [length]
    exact lined.present
  · intro alarm member
    obtain ⟨other, wakeable⟩ := lined.alarmed alarm member
    exact ⟨other, wakeable.mono (fun _ => id) (Nat.le_of_eq length.symm)⟩
  · intro entry member
    obtain ⟨other, rousable⟩ := lined.watching entry member
    refine ⟨other, rousable.mono (fun _ => id) ?_⟩
    rintro number isCaller ⟨old, found, served⟩
    by_cases same : own = number
    · subst same
      have inRange := (List.getElem?_eq_some_iff.mp found).1
      refine ⟨state, List.getElem?_set_self inRange, ?_⟩
      by_contra wants
      exact unwatched (by simpa using wants) entry member isCaller
    · exact ⟨old, (List.getElem?_set_ne same).trans found, served⟩
  · intro number batch found
    rcases getElem?_set_cases found with ⟨_, same⟩ | ⟨_, old⟩
    · exact told batch same.symm
    · exact lined.told number batch old

/-- A newcomer is aside. -/
theorem enter (lined : Lined none floor) {state : Caller τ ρ}
    (told : ∀ batch, state = .batching batch →
      ∀ ticket ∈ batch.tickets, ticket < floor.nextTicket) :
    Lined (some (.caller floor.callers.length)) (floor.enter state).1 := by
  have length : (floor.enter state).1.callers.length = floor.callers.length + 1 :=
    List.length_append
  have fresh : .caller floor.callers.length ∉ floor.lineWith none :=
    fun member => Nat.lt_irrefl _ (lined.present _ member)
  refine ⟨List.nodup_cons.mpr ⟨fresh, lined.distinct⟩, ?_, ?_, ?_, ?_, ?_, ?_⟩
  · rw [length]
    intro number member
    rcases List.mem_cons.mp member with same | old
    · cases same
      exact Nat.lt_succ_self _
    · exact Nat.lt_succ_of_lt (lined.present number old)
  · intro open_ index idle member
    rcases List.mem_cons.mp member with same | old
    · cases same
    · exact lined.resting open_ index idle old
  · exact fun index job found => List.mem_cons_of_mem _ (lined.seated index job found)
  · intro alarm member
    obtain ⟨other, wakeable⟩ := lined.alarmed alarm member
    have more := Nat.le_add_right floor.callers.length 1
    exact ⟨other, wakeable.mono (fun _ => id) (length ▸ more)⟩
  · intro entry member
    obtain ⟨other, rousable⟩ := lined.watching entry member
    refine ⟨other, rousable.mono (fun _ => id) ?_⟩
    rintro number _ ⟨old, found, served⟩
    have inRange := (List.getElem?_eq_some_iff.mp found).1
    exact ⟨old, (List.getElem?_append_left inRange).trans found, served⟩
  · intro number batch found
    rcases getElem?_enter found with old | ⟨_, same⟩
    · exact lined.told number batch old
    · exact told batch same.symm

/-! ## Workers -/

/-- Whoever could be woken still can when a job is put on a desk or a desk is left. -/
theorem wakeable_setDesk {index : Nat} {desk : Desk τ} (occupied : desk ≠ .idle) {actor : Actor}
    (wakeable : floor.Wakeable actor) : (floor.setDesk index desk).Wakeable actor := by
  cases actor with
  | worker other =>
      intro open_ idle
      rcases getElem?_set_cases idle with ⟨_, same⟩ | ⟨_, old⟩
      · exact occupied same.symm
      · exact wakeable open_ old
  | dispatcher | caller | guest | timer => exact wakeable

theorem rousable_setDesk {index : Nat} {desk : Desk τ} (occupied : desk ≠ .idle) {actor : Actor}
    (rousable : floor.Rousable actor) : (floor.setDesk index desk).Rousable actor := by
  cases actor with
  | worker other =>
      have wakeable : floor.Wakeable (.worker other) := rousable
      have still : (floor.setDesk index desk).Wakeable (.worker other) :=
        wakeable_setDesk occupied wakeable
      exact still
  | dispatcher | caller | guest | timer => exact rousable

/-- The worker who acts has a job on the desk, or leaves it. -/
theorem setDesk {index : Nat} (lined : Lined (some (.worker index)) floor) {desk : Desk τ}
    (occupied : desk ≠ .idle) : Lined (some (.worker index)) (floor.setDesk index desk) := by
  refine ⟨lined.distinct, lined.present, ?_, ?_, ?_, ?_, lined.told⟩
  · intro open_ other idle
    rcases getElem?_set_cases idle with ⟨_, same⟩ | ⟨_, old⟩
    · exact absurd same.symm occupied
    · exact lined.resting open_ other old
  · intro other job found
    rcases getElem?_set_cases found with ⟨rfl, _⟩ | ⟨_, old⟩
    · exact List.mem_cons_self
    · exact lined.seated other job old
  · exact fun alarm member => (lined.alarmed alarm member).imp_right (wakeable_setDesk occupied)
  · exact fun entry member => (lined.watching entry member).imp_right (rousable_setDesk occupied)

/-- A worker whom nothing will wake goes out of line and waits for a job. -/
theorem rest {index : Nat} (lined : Lined (some (.worker index)) floor)
    (unlisted : floor.Unlisted (.worker index)) (idle : List Nat) :
    Lined none { floor.setDesk index .idle with idle := idle } := by
  obtain ⟨fresh, distinct⟩ := List.nodup_cons.mp lined.distinct
  have wakeable : ∀ {actor : Actor}, actor ≠ .worker index → floor.Wakeable actor →
      ({ floor.setDesk index .idle with idle := idle } : Floor ε τ ρ).Wakeable actor := by
    intro actor other wakeable
    cases actor with
    | worker number =>
        intro open_ resting
        rcases getElem?_set_cases resting with ⟨rfl, _⟩ | ⟨_, old⟩
        · exact other rfl
        · exact wakeable open_ old
    | dispatcher | caller | guest | timer => exact wakeable
  refine ⟨distinct, ?_, ?_, ?_, ?_, ?_, lined.told⟩
  · exact fun number member => lined.present number (List.mem_cons_of_mem _ member)
  · intro open_ other resting
    rcases getElem?_set_cases resting with ⟨rfl, _⟩ | ⟨_, old⟩
    · exact fresh
    · exact fun member => lined.resting open_ other old (List.mem_cons_of_mem _ member)
  · intro other job found
    rcases getElem?_set_cases found with ⟨_, same⟩ | ⟨distinct, old⟩
    · cases same
    · rcases List.mem_cons.mp (lined.seated other job old) with same | member
      · cases same
        exact absurd rfl distinct
      · exact member
  · intro alarm member
    obtain ⟨other, old⟩ := lined.alarmed alarm member
    exact ⟨other, wakeable (unlisted.1 alarm member) old⟩
  · intro entry member
    obtain ⟨other, old⟩ := lined.watching entry member
    refine ⟨other, ?_⟩
    cases actor : entry.2 with
    | worker number =>
        rw [actor] at old
        have distinct : Actor.worker number ≠ .worker index := actor ▸ unlisted.2 entry member
        have before : floor.Wakeable (.worker number) := old
        exact wakeable distinct before
    | dispatcher | caller | guest | timer =>
        rw [actor] at old
        exact old

/-- A worker who waited for a job is given one, and comes last in line. -/
theorem hand {worker : Nat} (lined : Lined (some .dispatcher) floor)
    (absent : .worker worker ∉ floor.lineWith (some .dispatcher)) (job : Job τ) :
    ((floor.setDesk worker (.handed job)).wake (.worker worker)).lineWith (some .dispatcher) =
        floor.lineWith (some .dispatcher) ++ [.worker worker] ∧
      Lined (some .dispatcher) ((floor.setDesk worker (.handed job)).wake (.worker worker)) := by
  have unready : .worker worker ∉ floor.agenda.ready := by
    intro ready
    exact absent (List.mem_cons_of_mem _ ((Agenda.mem_line rfl).mpr ready))
  have line : ((floor.setDesk worker (.handed job)).wake (.worker worker)).lineWith
      (some .dispatcher) = floor.lineWith (some .dispatcher) ++ [.worker worker] := by
    change .dispatcher :: (floor.agenda.wake (.worker worker)).line = _
    rw [Agenda.wake, if_neg unready, Agenda.line, List.filter_append]
    rfl
  have occupied : Desk.handed job ≠ .idle := by rintro ⟨⟩
  refine ⟨line, ?_, ?_, ?_, ?_, ?_, ?_, lined.told⟩
  · rw [line]
    refine List.nodup_append.mpr ⟨lined.distinct, List.pairwise_singleton _ _, ?_⟩
    rintro actor there other member rfl
    rw [List.mem_singleton.mp member] at there
    exact absent there
  · rw [line]
    intro number member
    rcases List.mem_append.mp member with old | new
    · exact lined.present number old
    · cases List.mem_singleton.mp new
  · rw [line]
    intro open_ index idle member
    rcases getElem?_set_cases idle with ⟨_, same⟩ | ⟨distinct, old⟩
    · cases same
    · rcases List.mem_append.mp member with there | new
      · exact lined.resting open_ index old there
      · cases List.mem_singleton.mp new
        exact distinct rfl
  · rw [line]
    intro index other found
    rcases getElem?_set_cases found with ⟨rfl, _⟩ | ⟨_, old⟩
    · exact List.mem_append_right _ (List.mem_singleton_self _)
    · exact List.mem_append_left _ (lined.seated index other old)
  · rw [show ((floor.setDesk worker (.handed job)).wake (.worker worker)).agenda.alarms =
      floor.agenda.alarms by change (floor.agenda.wake _).alarms = _; rw [Agenda.wake_eq]]
    intro alarm member
    obtain ⟨other, old⟩ := lined.alarmed alarm member
    have wakeable : (floor.setDesk worker (.handed job)).Wakeable alarm.actor :=
      wakeable_setDesk occupied old
    exact ⟨other, wakeable⟩
  · rw [show ((floor.setDesk worker (.handed job)).wake (.worker worker)).agenda.watchers =
      floor.agenda.watchers from Agenda.wake_watchers _ _]
    intro entry member
    obtain ⟨other, old⟩ := lined.watching entry member
    have rousable : (floor.setDesk worker (.handed job)).Rousable entry.2 :=
      rousable_setDesk occupied old
    exact ⟨other, rousable⟩

/-- When the pool is shut down anybody may be woken. -/
theorem shutDown (lined : Lined aside floor) : Lined aside { floor with shut := true } := by
  refine ⟨lined.distinct, lined.present, nofun, lined.seated, ?_, ?_, lined.told⟩
  · intro alarm member
    obtain ⟨other, wakeable⟩ := lined.alarmed alarm member
    exact ⟨other, wakeable.mono nofun (Nat.le_refl _)⟩
  · intro entry member
    obtain ⟨other, rousable⟩ := lined.watching entry member
    exact ⟨other, rousable.mono nofun fun _ _ => id⟩

end Lined

end Floor

end RiskGate.Pool
