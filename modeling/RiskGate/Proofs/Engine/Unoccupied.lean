import RiskGate.Proofs.Engine.Errands
import RiskGate.Proofs.Engine.Log
import RiskGate.Proofs.Schedule.Plans

/-!
# Engines in which no call is in progress

When every caller has its answer and no worker has a job, the turns that are left come to
nothing: whoever takes one finds nothing to do.  A pool that is shut down may still close its
queue and send its workers home, and nobody notices.  As time passes, entries of the cache
are swept away; nothing else that errands share changes.
-/

namespace RiskGate.Pool

open Schedule (Actor)

variable {ε τ ρ : Type}

/-- The caller has its answer. -/
def Caller.HasEnded : Caller τ ρ → Prop
  | .offered .. | .batched .. | .closed .. => True
  | .offering .. | .batching _ | .closing .. => False

/-- The worker has no job. -/
def Desk.IsFree : Desk τ → Prop
  | .idle | .gone => True
  | .handed _ | .busy _ => False

instance : (caller : Caller τ ρ) → Decidable caller.HasEnded
  | .offered .. | .batched .. | .closed .. => isTrue trivial
  | .offering .. | .batching _ | .closing .. => isFalse id

instance : (desk : Desk τ) → Decidable desk.IsFree
  | .idle | .gone => isTrue trivial
  | .handed _ | .busy _ => isFalse id

namespace Floor

/-- Nothing is queued, no worker has a job, and every caller has its answer. -/
structure Dormant (floor : Floor ε τ ρ) : Prop where
  queue : floor.queue = []
  waiting : floor.waiting = []
  desks : ∀ desk ∈ floor.desks, desk.IsFree
  callers : ∀ caller ∈ floor.callers, caller.HasEnded

namespace Dormant

variable {floor : Floor ε τ ρ}

/-- Nobody waits for the pool to stop. -/
theorem wakeClosers (dormant : floor.Dormant) : floor.wakeClosers = floor := by
  have none : floor.callersWith Caller.isClosing = [] := by
    rw [callersWith, List.filter_eq_nil_iff]
    intro number _
    cases found : floor.callers[number]? with
    | none => exact Bool.false_ne_true
    | some caller =>
        have ended := dormant.callers caller (List.mem_of_getElem? found)
        cases caller with
        | closing => exact ended.elim
        | offering | offered | batching | batched | closed => exact Bool.false_ne_true
  rw [Floor.wakeClosers, none]
  rfl

theorem stop (dormant : floor.Dormant) (index : Nat) :
    (floor.stop index).Dormant ∧ floor.stop index = floor.setDesk index .gone := by
  have set : (floor.setDesk index .gone).Dormant := by
    refine ⟨dormant.queue, dormant.waiting, fun desk member => ?_, dormant.callers⟩
    rcases List.mem_or_eq_of_mem_set member with old | rfl
    · exact dormant.desks desk old
    · exact trivial
  rw [Floor.stop, set.wakeClosers]
  exact ⟨set, rfl⟩

/-- The dispatcher finds nothing to hand over, and at most closes the queue. -/
theorem dispatch (dormant : floor.Dormant) :
    floor.dispatch = floor ∨ floor.dispatch = { floor with dispatching := false } := by
  unfold Floor.dispatch
  split
  · exact .inl rfl
  · split
    · right
      have closed : floor.closeQueue = { floor with dispatching := false } := by
        have queue := dormant.queue
        have waiting := dormant.waiting
        cases floor
        subst queue waiting
        rfl
      have still : Dormant { floor with dispatching := false } :=
        ⟨dormant.queue, dormant.waiting, dormant.desks, dormant.callers⟩
      rw [closed, still.wakeClosers]
    · left
      rw [dormant.queue, List.length_nil, Nat.zero_min]
      rfl

variable [Trade ε τ ρ]

/-- Whoever takes a turn finds nothing to do. -/
theorem turn (dormant : floor.Dormant) (actor : Actor) :
    (Floor.turn actor floor).Dormant ∧ (Floor.turn actor floor).agenda = floor.agenda ∧
      (Floor.turn actor floor).shared = floor.shared := by
  cases actor with
  | dispatcher =>
      rcases dormant.dispatch with same | closed
      · rw [Floor.turn, same]
        exact ⟨dormant, rfl, rfl⟩
      · rw [Floor.turn, closed]
        exact ⟨⟨dormant.queue, dormant.waiting, dormant.desks, dormant.callers⟩, rfl, rfl⟩
  | worker index =>
      rw [Floor.turn, work]
      cases found : floor.desks[index]? with
      | none => exact ⟨dormant, rfl, rfl⟩
      | some desk =>
          have free := dormant.desks desk (List.mem_of_getElem? found)
          cases desk with
          | idle =>
              dsimp only
              split
              · obtain ⟨still, stopEq⟩ := dormant.stop index
                exact ⟨still, by rw [stopEq]; rfl, by rw [stopEq]; rfl⟩
              · exact ⟨dormant, rfl, rfl⟩
          | gone => exact ⟨dormant, rfl, rfl⟩
          | handed | busy => exact free.elim
  | caller number =>
      have same : floor.attend number = floor := by
        rw [attend]
        cases found : floor.callers[number]? with
        | none => rfl
        | some caller =>
            have ended := dormant.callers caller (List.mem_of_getElem? found)
            cases caller with
            | offering | batching | closing => exact ended.elim
            | offered | batched | closed => rfl
      rw [Floor.turn, same]
      exact ⟨dormant, rfl, rfl⟩
  | guest | timer => exact ⟨dormant, rfl, rfl⟩

end Dormant

end Floor

end RiskGate.Pool

namespace RiskGate.Engine

open Schedule (Actor Agenda Clockwork)
open Pool (Floor)

variable {engine : Engine}

/-! ## Nothing to do -/

/-- The guest has its answer. -/
def Guest.HasEnded (guest : Guest) : Prop :=
  match guest.state with
  | .answered .. => True
  | .running _ => False

/-- The batch has its answer. -/
def Rounds.HasEnded : Rounds → Prop
  | .answered .. => True
  | .running _ => False

instance : (guest : Guest) → Decidable guest.HasEnded
  | ⟨_, _, .answered ..⟩ => isTrue trivial
  | ⟨_, _, .running _⟩ => isFalse id

instance : (state : Rounds) → Decidable state.HasEnded
  | .answered .. => isTrue trivial
  | .running _ => isFalse id

/-- Nothing is under way but single requests: the pool has nothing to do, every batch has its
answer, and no shutdown is going on. -/
structure Dormant (engine : Engine) : Prop where
  floor : engine.floor.Dormant
  rounds : ∀ state ∈ engine.rounds, state.HasEnded
  closer : engine.closer = none

/-- No call is in progress. -/
structure Unoccupied (engine : Engine) : Prop extends Dormant engine where
  guests : ∀ guest ∈ engine.guests, guest.HasEnded

instance (engine : Engine) : Decidable engine.Unoccupied :=
  decidable_of_iff
    ((engine.floor.queue = [] ∧ engine.floor.waiting = [] ∧
        (∀ desk ∈ engine.floor.desks, desk.IsFree) ∧
        ∀ caller ∈ engine.floor.callers, caller.HasEnded) ∧
      (∀ state ∈ engine.rounds, state.HasEnded) ∧ engine.closer = none ∧
      ∀ guest ∈ engine.guests, guest.HasEnded)
    ⟨fun ⟨⟨queue, waiting, desks, callers⟩, rounds, closer, guests⟩ =>
        ⟨⟨⟨queue, waiting, desks, callers⟩, rounds, closer⟩, guests⟩,
      fun ⟨⟨⟨queue, waiting, desks, callers⟩, rounds, closer⟩, guests⟩ =>
        ⟨⟨queue, waiting, desks, callers⟩, rounds, closer, guests⟩⟩

namespace Dormant

theorem unready (dormant : engine.Dormant) (actor : Actor) : (engine.unready actor).Dormant :=
  ⟨⟨dormant.floor.queue, dormant.floor.waiting, dormant.floor.desks, dormant.floor.callers⟩,
    dormant.rounds, dormant.closer⟩

/-- No batch is concluded. -/
theorem conclude (dormant : engine.Dormant) (caller : Nat) : engine.conclude caller = engine := by
  rw [Engine.conclude]
  cases engine.floor.callers[caller]? with
  | none => rfl
  | some state =>
      cases state with
      | offering | offered | batching | closing => rfl
      | batched batch =>
          cases of : engine.roundOf? caller with
          | none => rfl
          | some found =>
              have running := (roundOf?_some of).1
              exact (dormant.rounds _ (List.mem_of_getElem? running)).elim
      | closed => exact if_neg (by rw [dormant.closer]; exact nofun)

/-- The turn of anyone but a guest who waits changes nothing that matters. -/
theorem turn (dormant : engine.Dormant) (actor : Actor)
    (ended : ∀ number guest, actor = .guest number → engine.guests[number]? = some guest →
      guest.HasEnded) :
    (engine.after (.turn actor)).Dormant ∧ (engine.after (.turn actor)).core = engine.core ∧
      (engine.after (.turn actor)).guests = engine.guests ∧
      (engine.after (.turn actor)).floor.agenda = (engine.unready actor).floor.agenda := by
  have rested := dormant.unready actor
  have onFloor : ((engine.unready actor).onFloor (·.turn actor)).Dormant ∧
      ((engine.unready actor).onFloor (·.turn actor)).core = engine.core ∧
      ((engine.unready actor).onFloor (·.turn actor)).guests = engine.guests ∧
      ((engine.unready actor).onFloor (·.turn actor)).floor.agenda =
        (engine.unready actor).floor.agenda := by
    obtain ⟨floor, agenda, shared⟩ := rested.floor.turn actor
    exact ⟨⟨floor, rested.rounds, rested.closer⟩, shared, rfl, agenda⟩
  cases actor with
  | dispatcher | worker => exact onFloor
  | caller number =>
      have afterEq : engine.after (.turn (.caller number)) =
          ((engine.unready (.caller number)).onFloor (·.turn (.caller number))).conclude number :=
        rfl
      rw [afterEq, onFloor.1.conclude]
      exact onFloor
  | guest number =>
      have same : engine.after (.turn (.guest number)) = engine.unready (.guest number) := by
        change (engine.unready (.guest number)).guestTurn number = _
        rw [guestTurn]
        split
        next found => exact (ended number _ rfl found).elim
        · rfl
      rw [same]
      exact ⟨rested, rfl, rfl, rfl⟩
  | timer number =>
      have same : engine.after (.turn (.timer number)) = engine.unready (.timer number) := by
        change (engine.unready (.timer number)).timerTurn number = _
        rw [timerTurn]
        split
        next found => exact (dormant.rounds _ (List.mem_of_getElem? found)).elim
        · rfl
      rw [same]
      exact ⟨rested, rfl, rfl, rfl⟩

end Dormant

/-! ## The passing of time -/

/-- Nothing has changed but for entries that are gone from the cache. -/
structure Core.Ages (before after : Core) : Prop where
  eq : after = { before with cache := after.cache }
  sheds : before.cache.Sheds after.cache

theorem Core.Ages.refl (core : Core) : Core.Ages core core := ⟨rfl, .refl _⟩

theorem Core.Ages.trans {before middle after : Core} (first : Core.Ages before middle)
    (second : Core.Ages middle after) : Core.Ages before after where
  eq := by rw [second.eq, first.eq]
  sheds := first.sheds.trans second.sheds

theorem ages_pass (instant : Nat) (engine : Engine) :
    Core.Ages engine.core (engine.after (.pass instant)).core :=
  ⟨rfl, engine.core.cache.sheds_elapse _ _⟩

theorem Dormant.pass (dormant : engine.Dormant) (instant : Nat) :
    (engine.after (.pass instant)).Dormant :=
  ⟨⟨dormant.floor.queue, dormant.floor.waiting, dormant.floor.desks, dormant.floor.callers⟩,
    dormant.rounds, dormant.closer⟩

namespace Unoccupied

/-- No call begins by itself, and what errands share only ages. -/
structure Idles (before after : Engine) : Prop where
  unoccupied : Unoccupied after
  core : Core.Ages before.core after.core
  guests : after.guests = before.guests

theorem Idles.trans {before middle after : Engine} (first : Idles before middle)
    (second : Idles middle after) : Idles before after :=
  ⟨second.unoccupied, first.core.trans second.core, second.guests.trans first.guests⟩

theorem idles (unoccupied : engine.Unoccupied) : Idles engine engine :=
  ⟨unoccupied, .refl _, rfl⟩

theorem turn (unoccupied : engine.Unoccupied) (actor : Actor) :
    Idles engine (engine.after (.turn actor)) := by
  obtain ⟨dormant, core, guests, _⟩ := unoccupied.toDormant.turn actor
    fun number guest _ found => unoccupied.guests guest (List.mem_of_getElem? found)
  refine ⟨⟨dormant, ?_⟩, core ▸ .refl _, guests⟩
  rw [guests]
  exact unoccupied.guests

theorem steps (unoccupied : engine.Unoccupied) (count : Nat) :
    Idles engine (Clockwork.steps Clockwork.step count engine) :=
  Clockwork.takesTurns_step.steps_keep
    (fun _ actor _ idles => idles.trans (idles.unoccupied.turn actor)) count unoccupied.idles

theorem jump (unoccupied : engine.Unoccupied) (instant : Nat) :
    Idles engine (Clockwork.jump instant engine) := by
  have passed : Idles engine (engine.after (.pass instant)) :=
    ⟨⟨unoccupied.toDormant.pass instant, unoccupied.guests⟩, ages_pass instant engine, rfl⟩
  exact passed.trans (passed.unoccupied.steps _)

theorem jumps (unoccupied : engine.Unoccupied) (stop : Engine → Bool) (last count : Nat) :
    Idles engine (Clockwork.jumps Clockwork.jump stop last count engine) := by
  induction count generalizing engine with
  | zero => exact unoccupied.idles
  | succ count ih =>
      rw [Clockwork.jumps]
      split
      · exact unoccupied.idles
      · split
        · exact unoccupied.idles
        next due _ =>
          split
          · have jumped := unoccupied.jump due
            exact jumped.trans (ih jumped.unoccupied)
          · exact unoccupied.idles

theorem advance (unoccupied : engine.Unoccupied) (millis : Nat) :
    Idles engine (Clockwork.advance millis engine) := by
  have jumped := unoccupied.jumps (fun _ => false) (engine.now + millis) (millis + 1)
  exact jumped.trans (jumped.unoccupied.jump _)

end Unoccupied

end RiskGate.Engine
