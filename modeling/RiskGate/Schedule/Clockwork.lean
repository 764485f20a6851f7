import RiskGate.Schedule.Agenda

/-!
# Clockwork

A clockwork is a world whose actors take turns by an agenda.  Turns take no
time: the clock stands still until no actor is ready, and then jumps to the next
instant at which something is due.  The actors take their turns in the order in
which they were woken, except for one who keeps the clock going.
-/

namespace RiskGate.Schedule

/-- A world with an agenda. -/
class Clockwork (W : Type) where
  agenda : W → Agenda
  withAgenda : W → Agenda → W
  /-- What an actor does when it is its turn. -/
  turn : Actor → W → W
  /-- What happens while the clock moves from one instant to another. -/
  elapse : Nat → Nat → W → W
  /-- A bound on the number of turns until no actor is ready. -/
  effort : W → Nat

namespace Clockwork

/-- The turns that the members of a list may still take together. -/
def together {α : Type} (effort : α → Nat) : List α → Nat
  | [] => 0
  | member :: rest => effort member + together effort rest

variable {W : Type} [Clockwork W]

/-- Let the next actor take its turn. -/
def step (world : W) : Option W :=
  match (agenda world).ready with
  | [] => none
  | actor :: rest => some (turn actor (withAgenda world { agenda world with ready := rest }))

/-- Take up to `count` turns, in the order in which `next` takes them. -/
def steps (next : W → Option W) : Nat → W → W
  | 0, world => world
  | count + 1, world =>
      match next world with
      | none => world
      | some later => steps next count later

/-- Take turns until no actor is ready. -/
def settle (world : W) : W := steps step (effort world) world

/-- Move the clock to an instant and wake whom that wakes. -/
def moveClock (instant : Nat) (world : W) : W :=
  let start := (agenda world).now
  let moved := elapse start (max start instant) world
  withAgenda moved ((agenda moved).moveTo instant)

/-- Move the clock to an instant and do what is due there. -/
def jump (instant : Nat) (world : W) : W := settle (moveClock instant world)

/-- Go from one due instant to the next, not beyond `last`, until the condition
holds.  The number bounds how often `jump` moves the clock. -/
def jumps (jump : Nat → W → W) (stop : W → Bool) (last : Nat) : Nat → W → W
  | 0, world => world
  | count + 1, world =>
      if stop world then world
      else
        match (agenda world).next? with
        | none => world
        | some due => if due ≤ last then jumps jump stop last count (jump due world) else world

/-- Let time pass. -/
def advance (millis : Nat) (world : W) : W :=
  let last := (agenda world).now + millis
  jump last (jumps jump (fun _ => false) last (millis + 1) world)

/-- The last instant of the clock. -/
def endOfTime : Nat := UInt64.size

/-- Let time pass until the condition holds, or nothing more can happen. -/
def await (stop : W → Bool) (world : W) : W :=
  jumps jump stop endOfTime endOfTime world

/-! ## The host

Whoever keeps the clock going may be one of the actors.  This one, the host, takes
its turn before all others when the clock has moved, and apart from that only when
no other actor is ready. -/

/-- Let an actor take its turn, though others may come before it. -/
def callUp (actor : Actor) (world : W) : W :=
  turn actor
    (withAgenda world { agenda world with ready := (agenda world).ready.erase actor })

/-- The first of some actors but the host, or the host if there is no other. -/
def hostLast (host : Actor) (actors : List Actor) : Option Actor :=
  (actors.find? (· != host)).or actors.head?

/-- Let the next actor but the host take its turn, or the host. -/
def hostedStep (host : Actor) (world : W) : Option W :=
  (hostLast host (agenda world).ready).map (callUp · world)

/-- Take turns until no actor is ready, those of the host last. -/
def hostedSettle (host : Actor) (world : W) : W :=
  steps (hostedStep host) (effort world) world

/-- Move the clock to an instant and do what is due there, the host first. -/
def hostedJump (host : Actor) (instant : Nat) (world : W) : W :=
  let moved := moveClock instant world
  hostedSettle host (if host ∈ (agenda moved).ready then callUp host moved else moved)

/-- Take turns with a host, and let time pass until the condition holds, or nothing
more can happen. -/
def hostedAwait (host : Actor) (stop : W → Bool) (world : W) : W :=
  jumps (hostedJump host) stop endOfTime endOfTime (hostedSettle host world)

end Clockwork

end RiskGate.Schedule
