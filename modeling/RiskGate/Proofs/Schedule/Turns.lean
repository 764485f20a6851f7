import RiskGate.Proofs.Schedule.Agenda
import RiskGate.Schedule.Clockwork

/-!
# Turns one after another

The clockwork lets the actors take their turns in the order in which they were woken, or puts
one of them, the host, behind all others.  In both ways each step is the turn of an actor who is
ready, and there is a step as long as somebody is ready.  Most statements need no more than
that: what the turn of a ready actor keeps is kept by any number of steps, and if every such
turn lowers a count, then nobody is ready any more after so many.

The workers among the actors never overtake each other, as no worker is a host.
-/

namespace RiskGate.Schedule.Clockwork

variable {W : Type} [Clockwork W]

/-- Each step is the turn of an actor who is ready, and there is one as long as somebody is. -/
structure TakesTurns (next : W → Option W) : Prop where
  turn : ∀ {world later}, next world = some later →
    ∃ actor ∈ (agenda world).ready, later = callUp actor world
  quiet : ∀ {world}, next world = none → (agenda world).ready = []

/-- Each step is the turn of an actor who is ready, and of the first worker if it is one. -/
structure KeepsLine (next : W → Option W) : Prop where
  turn : ∀ {world later}, next world = some later →
    ∃ actor ∈ (agenda world).ready,
      (∀ index, actor = .worker index → (agenda world).workers.head? = some index) ∧
        later = callUp actor world
  quiet : ∀ {world}, next world = none → (agenda world).ready = []

theorem KeepsLine.takesTurns {next : W → Option W} (line : KeepsLine next) : TakesTurns next where
  turn stepped := by
    obtain ⟨actor, ready, _, later⟩ := line.turn stepped
    exact ⟨actor, ready, later⟩
  quiet := line.quiet

/-! ## The order of turns -/

/-- A turn of the clockwork is the turn of the actor who comes next. -/
theorem step_of_ready {world : W} {actor : Actor} {others : List Actor}
    (ready : (agenda world).ready = actor :: others) : step world = some (callUp actor world) := by
  rw [step, ready, callUp, ready, List.erase_cons_head]

theorem ready_of_step_eq_none {world : W} (none : step world = none) :
    (agenda world).ready = [] := by
  cases ready : (agenda world).ready with
  | nil => rfl
  | cons actor others =>
      rw [step_of_ready ready] at none
      cases none

theorem exists_callUp_of_step {world later : W} (stepped : step world = some later) :
    ∃ actor others, (agenda world).ready = actor :: others ∧ later = callUp actor world := by
  cases ready : (agenda world).ready with
  | nil =>
      rw [step, ready] at stepped
      cases stepped
  | cons actor others =>
      rw [step_of_ready ready] at stepped
      exact ⟨actor, others, rfl, (Option.some.inj stepped).symm⟩

theorem keepsLine_step : KeepsLine (step : W → Option W) where
  turn stepped := by
    obtain ⟨actor, others, ready, later⟩ := exists_callUp_of_step stepped
    refine ⟨actor, ?_, ?_, later⟩
    · rw [ready]
      exact List.mem_cons_self
    · rintro index rfl
      rw [Agenda.workers, ready]
      rfl
  quiet := ready_of_step_eq_none

theorem takesTurns_step : TakesTurns (step : W → Option W) := keepsLine_step.takesTurns

theorem mem_of_hostLast {host actor : Actor} {actors : List Actor}
    (next : hostLast host actors = some actor) : actor ∈ actors := by
  rcases Option.or_eq_some_iff.mp next with other | ⟨_, first⟩
  · exact List.mem_of_find?_eq_some other
  · exact List.mem_of_mem_head? first

theorem takesTurns_hostedStep (host : Actor) : TakesTurns (hostedStep host : W → Option W) where
  turn stepped := by
    obtain ⟨actor, next, later⟩ := Option.map_eq_some_iff.mp stepped
    exact ⟨actor, mem_of_hostLast next, later.symm⟩
  quiet none := by
    obtain ⟨_, nobody⟩ := Option.or_eq_none_iff.mp (Option.map_eq_none_iff.mp none)
    exact List.head?_eq_none_iff.mp nobody

theorem head?_workers_of_hostLast {host : Actor} (other : host.worker? = none) {index : Nat}
    {agenda : Agenda} (next : hostLast host agenda.ready = some (.worker index)) :
    agenda.workers.head? = some index := by
  rcases Option.or_eq_some_iff.mp next with found | ⟨_, first⟩
  · obtain ⟨_, before, after, ready, hosts⟩ := List.find?_eq_some_iff_append.mp found
    have nobody : before.filterMap Actor.worker? = [] := by
      rw [List.filterMap_eq_nil_iff]
      intro actor earlier
      have isHost : actor = host := by simpa using hosts actor earlier
      rw [isHost, other]
    rw [Agenda.workers, ready, List.filterMap_append, nobody]
    rfl
  · obtain ⟨others, ready⟩ := List.head?_eq_some_iff.mp first
    rw [Agenda.workers, ready]
    rfl

/-- A host who is no worker lets no worker overtake another. -/
theorem keepsLine_hostedStep {host : Actor} (other : host.worker? = none) :
    KeepsLine (hostedStep host : W → Option W) where
  turn stepped := by
    obtain ⟨actor, next, later⟩ := Option.map_eq_some_iff.mp stepped
    refine ⟨actor, mem_of_hostLast next, ?_, later.symm⟩
    rintro index rfl
    exact head?_workers_of_hostLast other next
  quiet := (takesTurns_hostedStep host).quiet

/-! ## Any number of turns -/

namespace TakesTurns

variable {next : W → Option W} (turns : TakesTurns next)

include turns

/-- What the turn of a ready actor keeps is kept by any number of turns. -/
theorem steps_keep {kept : W → Prop}
    (keeps : ∀ world, ∀ actor ∈ (agenda world).ready, kept world → kept (callUp actor world))
    (count : Nat) {world : W} (initial : kept world) : kept (steps next count world) := by
  induction count generalizing world with
  | zero => exact initial
  | succ count ih =>
      rw [steps]
      split
      · exact initial
      next later stepped =>
        obtain ⟨actor, ready, rfl⟩ := turns.turn stepped
        exact ih (keeps world actor ready initial)

/-- If every turn of a ready actor keeps a property and lowers a count, then nobody is ready
after so many turns. -/
theorem steps_quiet {kept : W → Prop} {toCome : W → Nat}
    (lowers : ∀ world, ∀ actor ∈ (agenda world).ready, kept world →
      kept (callUp actor world) ∧ toCome (callUp actor world) < toCome world)
    (count : Nat) {world : W} (initial : kept world) (enough : toCome world ≤ count) :
    kept (steps next count world) ∧ (agenda (steps next count world)).ready = [] := by
  induction count generalizing world with
  | zero =>
      refine ⟨initial, ?_⟩
      cases stepped : next world with
      | none => exact turns.quiet stepped
      | some later =>
          obtain ⟨actor, ready, rfl⟩ := turns.turn stepped
          have lower := (lowers world actor ready initial).2
          exact absurd (Nat.lt_of_lt_of_le lower enough) (Nat.not_lt_zero _)
  | succ count ih =>
      rw [steps]
      cases stepped : next world with
      | none => exact ⟨initial, turns.quiet stepped⟩
      | some later =>
          obtain ⟨actor, ready, rfl⟩ := turns.turn stepped
          obtain ⟨keeps, lower⟩ := lowers world actor ready initial
          exact ih keeps (Nat.le_of_lt_succ (Nat.lt_of_lt_of_le lower enough))

end TakesTurns

end RiskGate.Schedule.Clockwork
