import RiskGate.Proofs.Engine.Unoccupied

/-!
# A single request alone

A single request that the cache does not answer ends in a race: its scope may be cancelled,
its reply may come, or its time may be up.  While no other call is in progress, nobody else
takes part in the race, and the three instants decide it.  Whoever is ready besides the guest
finds nothing to do, and the clock stops at the first of the three instants at the latest, since
an alarm is set or a cancellation planned for it.
-/

namespace RiskGate.Engine

open Schedule (Actor Agenda Clockwork)

variable {operation : Operation} {engine : Engine}

/-! ## Answers -/

/-- A guest has its answer, no call is in progress, and what errands share has only aged
since. -/
structure Answered (number : Nat) (guest : Guest) (core : Core) (engine : Engine) : Prop where
  unoccupied : engine.Unoccupied
  found : engine.guests[number]? = some guest
  core : Core.Ages core engine.core

theorem Answered.idles {number : Nat} {guest : Guest} {core : Core} {after : Engine}
    (answered : Answered number guest core engine) (idles : Unoccupied.Idles engine after) :
    Answered number guest core after where
  unoccupied := idles.unoccupied
  found := idles.guests ▸ answered.found
  core := answered.core.trans idles.core

/-- No other call is in progress than that of a guest. -/
structure Alone (number : Nat) (guest : Guest) (engine : Engine) : Prop extends Dormant engine where
  there : engine.guests[number]? = some guest
  others : ∀ other another, other ≠ number → engine.guests[other]? = some another →
    another.HasEnded

namespace Alone

variable {number scope : Nat} {guest : Guest} {errand : Errand operation}

/-- A guest that is alone enters. -/
theorem enter (unoccupied : engine.Unoccupied) (change : Agenda → Agenda) (guest : Guest) :
    Alone engine.guests.length guest
      { engine.onAgenda change with guests := engine.guests ++ [guest] } where
  floor := ⟨unoccupied.floor.queue, unoccupied.floor.waiting, unoccupied.floor.desks,
    unoccupied.floor.callers⟩
  rounds := unoccupied.rounds
  closer := unoccupied.closer
  there := List.getElem?_concat_length
  others := by
    intro other another distinct found
    rcases Pool.Floor.getElem?_concat_cases found with old | ⟨last, _⟩
    · exact unoccupied.guests another (List.mem_of_getElem? old)
    · exact absurd last distinct

/-- The guest is noted anew. -/
theorem setGuest (alone : Alone number guest engine) (core : Core) (change : Agenda → Agenda)
    (next : Guest) :
    Alone number next (((engine.onCore fun _ => core).onAgenda change).setGuest number next) where
  floor := ⟨alone.floor.queue, alone.floor.waiting, alone.floor.desks, alone.floor.callers⟩
  rounds := alone.rounds
  closer := alone.closer
  there := List.getElem?_set_self (List.getElem?_eq_some_iff.mp alone.there).1
  others := by
    intro other another distinct found
    exact alone.others other another distinct
      ((List.getElem?_set_ne distinct.symm).symm.trans found)

/-- A guest that is answered was the last one. -/
theorem unoccupied (alone : Alone number guest engine) (ended : guest.HasEnded) :
    engine.Unoccupied where
  toDormant := alone.toDormant
  guests := by
    intro another member
    obtain ⟨other, found⟩ := List.mem_iff_getElem?.mp member
    by_cases own : other = number
    · subst own
      rwa [← Option.some.inj (alone.there.symm.trans found)]
    · exact alone.others other another own found

/-- The guest's errand ends. -/
theorem answered (alone : Alone number guest engine) {core : Core}
    {outcome : Outcome operation.Result}
    (resumed : errand.resume (engine.isCancelled scope) engine.now engine.core =
      (core, .finished outcome)) :
    Answered number ⟨scope, operation, .answered outcome engine.now⟩ core
      (engine.runGuest number scope errand) := by
  have set := alone.setGuest core (·.release (.guest number))
    ⟨scope, operation, .answered outcome engine.now⟩
  rw [runGuest_finished resumed]
  exact ⟨set.unoccupied trivial, set.there, .refl core⟩

/-- Somebody else takes a turn. -/
theorem turn (alone : Alone number guest engine) {actor : Actor}
    (other : actor ≠ .guest number) :
    Alone number guest (engine.after (.turn actor)) ∧
      (engine.after (.turn actor)).core = engine.core ∧
      (engine.after (.turn actor)).floor.agenda = (engine.unready actor).floor.agenda := by
  obtain ⟨dormant, core, guests, agenda⟩ := alone.toDormant.turn actor
    fun another guest own found =>
      alone.others another guest (fun same => other (own.trans (congrArg _ same))) found
  refine ⟨⟨dormant, ?_, ?_⟩, core, agenda⟩
  · rw [guests]
    exact alone.there
  · rw [guests]
    exact alone.others

theorem unready (alone : Alone number guest engine) (actor : Actor) :
    Alone number guest (engine.unready actor) :=
  ⟨alone.toDormant.unready actor, alone.there, alone.others⟩

theorem pass (alone : Alone number guest engine) (instant : Nat) :
    Alone number guest (engine.after (.pass instant)) :=
  ⟨alone.toDormant.pass instant, alone.there, alone.others⟩

end Alone

/-! ## Waiting for a reply -/

/-- A guest who waits for the reply to its call, and the instant at which its scope will be
cancelled, if at all. -/
structure Vigil (operation : Operation) where
  number : Nat
  scope : Nat
  request : Request
  flight : Flight operation.Result
  cancelAt : Option Nat

namespace Vigil

section Race

variable (vigil : Vigil operation)

def errand : Errand operation := { request := vigil.request, flight := some vigil.flight }

def guest : Guest := ⟨vigil.scope, operation, .running vigil.errand⟩

/-- The first of the three instants that decide the race. -/
def ending : Nat :=
  let natural := min vigil.flight.readyAt vigil.flight.expiresAt
  vigil.cancelAt.elim natural (min natural)

/-- How the race is decided. -/
def verdict : Deadline.Verdict :=
  Deadline.judge (decide (vigil.ending ∈ vigil.cancelAt)) vigil.flight.readyAt
    vigil.flight.expiresAt vigil.ending

/-- What the errand leaves behind when the race is decided. -/
def close (core : Core) : Core :=
  let outcome := vigil.flight.outcome core.settings.requestTimeout vigil.verdict
  (vigil.errand.finish vigil.ending vigil.flight.begunAt outcome
    { core with
      breaker := core.breaker.learn vigil.flight.admission (nanosAt vigil.ending) outcome }).1

theorem ending_le : vigil.ending ≤ vigil.flight.readyAt ∧
    vigil.ending ≤ vigil.flight.expiresAt ∧ ∀ instant ∈ vigil.cancelAt, vigil.ending ≤ instant := by
  rw [ending]
  cases vigil.cancelAt with
  | none => exact ⟨Nat.min_le_left _ _, Nat.min_le_right _ _, nofun⟩
  | some cancel =>
      simp only [Option.elim_some, Option.mem_some_iff, forall_eq']
      omega

theorem ending_cases : vigil.ending = vigil.flight.readyAt ∨
    vigil.ending = vigil.flight.expiresAt ∨ vigil.ending ∈ vigil.cancelAt := by
  rw [ending]
  cases vigil.cancelAt with
  | none =>
      simp only [Option.elim_none]
      omega
  | some cancel =>
      simp only [Option.elim_some, Option.mem_some_iff]
      omega

/-- At its end the race is decided. -/
theorem verdict_ne_pending : vigil.verdict ≠ .pending := by
  have cases := vigil.ending_cases
  unfold verdict Deadline.judge
  by_cases cancelled : vigil.ending ∈ vigil.cancelAt
  · simp [cancelled]
  · by_cases ready : vigil.flight.readyAt ≤ vigil.ending
    · simp [cancelled, ready]
    · have expired : vigil.flight.expiresAt ≤ vigil.ending := by
        rcases cases with same | same | member
        · omega
        · omega
        · exact absurd member cancelled
      simp [cancelled, ready, expired]

/-- Before its end the race is open. -/
theorem judge_early {now : Nat} (early : now < vigil.ending) :
    Deadline.judge false vigil.flight.readyAt vigil.flight.expiresAt now = .pending := by
  obtain ⟨ready, expires, _⟩ := vigil.ending_le
  have notReady : ¬ vigil.flight.readyAt ≤ now := by omega
  have notExpired : ¬ vigil.flight.expiresAt ≤ now := by omega
  simp [Deadline.judge, notReady, notExpired]

end Race

variable {vigil : Vigil operation} {before after : Engine}

/-- The guest waits, and will be woken when the race is decided. -/
structure Waits (vigil : Vigil operation) (engine : Engine) : Prop extends
    Alone vigil.number vigil.guest engine where
  early : engine.now < vigil.ending
  replied : ⟨vigil.flight.readyAt, .guest vigil.number⟩ ∈ engine.floor.agenda.alarms
  expired : ⟨vigil.flight.expiresAt, .guest vigil.number⟩ ∈ engine.floor.agenda.alarms
  watched : (vigil.scope, .guest vigil.number) ∈ engine.floor.agenda.watchers
  opened : vigil.scope < engine.floor.agenda.parents.length
  lives : engine.floor.agenda.LiveUntil vigil.scope vigil.cancelAt

/-- The race is decided, and the guest is ready to take its turn. -/
structure Due (vigil : Vigil operation) (engine : Engine) : Prop extends
    Alone vigil.number vigil.guest engine where
  now_eq : engine.now = vigil.ending
  ready : .guest vigil.number ∈ engine.floor.agenda.ready
  cancelled : engine.isCancelled vigil.scope = decide (vigil.ending ∈ vigil.cancelAt)

/-- The guest has its answer, as the race was decided. -/
def Over (vigil : Vigil operation) (core : Core) (engine : Engine) : Prop :=
  ∃ middle, Core.Ages core middle ∧
    Answered vigil.number ⟨vigil.scope, operation, .answered
      (vigil.flight.outcome core.settings.requestTimeout vigil.verdict) vigil.ending⟩
      (vigil.close middle) engine

/-! ### Turns -/

/-- Turns in which nothing happens. -/
structure Idles (before after : Engine) : Prop where
  core : after.core = before.core
  agenda : ∃ ready, after.floor.agenda = { before.floor.agenda with ready := ready }

theorem Idles.refl (engine : Engine) : Idles engine engine := ⟨rfl, _, rfl⟩

theorem Idles.trans {middle : Engine} (first : Idles before middle)
    (second : Idles middle after) : Idles before after where
  core := second.core.trans first.core
  agenda := by
    obtain ⟨_, firstEq⟩ := first.agenda
    obtain ⟨ready, secondEq⟩ := second.agenda
    exact ⟨ready, by rw [secondEq, firstEq]⟩

/-- Who is ready does not matter for the wait. -/
theorem Waits.of_idles (waits : vigil.Waits before) (idles : Idles before after)
    (alone : Alone vigil.number vigil.guest after) : vigil.Waits after := by
  obtain ⟨ready, agenda⟩ := idles.agenda
  refine ⟨alone, ?_, ?_, ?_, ?_, ?_, ?_⟩
  · rw [now, Pool.Floor.now, agenda]
    exact waits.early
  · rw [agenda]
    exact waits.replied
  · rw [agenda]
    exact waits.expired
  · rw [agenda]
    exact waits.watched
  · rw [agenda]
    exact waits.opened
  · exact waits.lives.of_eq (by rw [agenda]) (by rw [agenda]) (by rw [agenda])

/-- A guest who is woken before the race is decided goes on waiting. -/
theorem Waits.turn_self (waits : vigil.Waits engine) :
    engine.after (.turn (.guest vigil.number)) = engine.unready (.guest vigil.number) := by
  let rested := engine.unready (.guest vigil.number)
  have live : rested.isCancelled vigil.scope = false := waits.lives.live
  have resumed : vigil.errand.resume (rested.isCancelled vigil.scope) rested.now rested.core =
      (rested.core, .suspended vigil.errand []) := by
    rw [live]
    exact Errand.proceed_pending (vigil.judge_early waits.early)
  have turned : engine.after (.turn (.guest vigil.number)) =
      rested.runGuest vigil.number vigil.scope vigil.errand := by
    change rested.guestTurn vigil.number = _
    rw [guestTurn, show rested.guests[vigil.number]? = some vigil.guest from waits.there]
    rfl
  obtain ⟨inside, same⟩ := List.getElem?_eq_some_iff.mp waits.there
  rw [turned, runGuest, resumed]
  change { rested with guests := rested.guests.set vigil.number vigil.guest } = rested
  rw [← same]
  exact congrArg (fun guests => { rested with guests := guests }) (List.set_getElem_self inside)

theorem Waits.turn (waits : vigil.Waits engine) (actor : Actor) :
    vigil.Waits (engine.after (.turn actor)) ∧ Idles engine (engine.after (.turn actor)) := by
  by_cases own : actor = .guest vigil.number
  · rw [own, waits.turn_self]
    have idles : Idles engine (engine.unready (.guest vigil.number)) := ⟨rfl, _, rfl⟩
    exact ⟨waits.of_idles idles (waits.toAlone.unready _), idles⟩
  · obtain ⟨alone, core, agenda⟩ := waits.toAlone.turn own
    have idles : Idles engine (engine.after (.turn actor)) := ⟨core, _, agenda⟩
    exact ⟨waits.of_idles idles alone, idles⟩

theorem Waits.steps (waits : vigil.Waits engine) (count : Nat) :
    vigil.Waits (Clockwork.steps Clockwork.step count engine) ∧
      Idles engine (Clockwork.steps Clockwork.step count engine) := by
  have keeps : ∀ between : Engine, ∀ actor ∈ between.floor.agenda.ready,
      (vigil.Waits between ∧ Idles engine between) →
        vigil.Waits (between.after (.turn actor)) ∧
          Idles engine (between.after (.turn actor)) := by
    rintro between actor _ ⟨waiting, idles⟩
    obtain ⟨still, more⟩ := waiting.turn actor
    exact ⟨still, idles.trans more⟩
  exact Clockwork.takesTurns_step.steps_keep keeps count ⟨waits, .refl engine⟩

/-- The guest takes its turn. -/
theorem Due.turn_self (due : vigil.Due engine) :
    vigil.Over engine.core (engine.after (.turn (.guest vigil.number))) := by
  let rested := engine.unready (.guest vigil.number)
  have now_eq : rested.now = vigil.ending := due.now_eq
  have cancelled : rested.isCancelled vigil.scope = decide (vigil.ending ∈ vigil.cancelAt) :=
    due.cancelled
  have judged : Deadline.judge (rested.isCancelled vigil.scope) vigil.flight.readyAt
      vigil.flight.expiresAt rested.now = vigil.verdict := by
    rw [cancelled, now_eq]
    rfl
  have turned : engine.after (.turn (.guest vigil.number)) =
      rested.runGuest vigil.number vigil.scope vigil.errand := by
    change rested.guestTurn vigil.number = _
    rw [guestTurn, show rested.guests[vigil.number]? = some vigil.guest from due.there]
    rfl
  have resumed : vigil.errand.resume (rested.isCancelled vigil.scope) rested.now rested.core =
      (vigil.close engine.core, .finished
        (vigil.flight.outcome engine.core.settings.requestTimeout vigil.verdict)) := by
    refine (Errand.proceed_over judged vigil.verdict_ne_pending).trans ?_
    rw [now_eq]
    exact Prod.ext rfl (Errand.finish_snd _ _ _ _ _)
  have answered := (due.toAlone.unready (.guest vigil.number)).answered resumed
  rw [now_eq] at answered
  rw [turned]
  exact ⟨engine.core, .refl _, answered⟩

theorem Over.idles {core : Core} (ended : vigil.Over core before)
    (idles : Unoccupied.Idles before after) : vigil.Over core after := by
  obtain ⟨middle, ages, answered⟩ := ended
  exact ⟨middle, ages, answered.idles idles⟩

theorem Over.unoccupied {core : Core} (ended : vigil.Over core engine) : engine.Unoccupied := by
  obtain ⟨_, _, answered⟩ := ended
  exact answered.unoccupied

/-- With turns enough the guest takes its own. -/
theorem Due.steps (due : vigil.Due engine) {count : Nat}
    (enough : engine.floor.agenda.ready.length ≤ count) :
    vigil.Over engine.core (Clockwork.steps Clockwork.step count engine) := by
  induction count generalizing engine with
  | zero =>
      have none := List.eq_nil_of_length_eq_zero (Nat.le_zero.mp enough)
      exact absurd due.ready (none ▸ List.not_mem_nil)
  | succ count ih =>
      rw [Clockwork.steps]
      cases head : engine.floor.agenda.ready with
      | nil => exact absurd due.ready (head ▸ List.not_mem_nil)
      | cons actor rest =>
          rw [step_of_ready head]
          by_cases own : actor = .guest vigil.number
          · subst own
            exact due.turn_self.idles (due.turn_self.unoccupied.steps count)
          · obtain ⟨alone, core, agenda⟩ := due.toAlone.turn own
            have ready : (engine.after (.turn actor)).floor.agenda.ready = rest := by
              rw [agenda]
              change engine.floor.agenda.ready.erase actor = rest
              rw [head, List.erase_cons_head]
            have still : vigil.Due (engine.after (.turn actor)) := by
              refine ⟨alone, ?_, ?_, ?_⟩
              · rw [now, Pool.Floor.now, agenda]
                exact due.now_eq
              · rw [ready]
                exact (List.mem_cons.mp (head ▸ due.ready)).resolve_left (Ne.symm own)
              · rw [isCancelled, Pool.Floor.isCancelled, agenda]
                exact due.cancelled
            rw [← core]
            apply ih still
            rw [ready]
            rw [head, List.length_cons] at enough
            exact Nat.le_of_succ_le_succ enough

/-! ### The passing of time -/

end Vigil

end RiskGate.Engine
