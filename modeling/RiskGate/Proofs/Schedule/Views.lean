import RiskGate.Schedule.Clockwork

/-!
# Worlds seen through a view

A view of a world may hide parts of it.  If it leaves the agenda as it is, and turns and the
passing of time commute with it, then so does everything that the clockwork does: the hidden
parts have no influence on who takes a turn, and when.
-/

namespace RiskGate.Schedule.Clockwork

variable {W W' : Type} [Clockwork W] [Clockwork W']

/-- The parts that the view hides have no influence on the others. -/
structure Respects (view : W → W') : Prop where
  agenda : ∀ world, agenda (view world) = agenda world
  withAgenda : ∀ world other, withAgenda (view world) other = view (withAgenda world other)
  turn : ∀ actor world, turn actor (view world) = view (turn actor world)
  elapse : ∀ start stop world, elapse start stop (view world) = view (elapse start stop world)
  effort : ∀ world, effort (view world) = effort world

namespace Respects

variable {view : W → W'} (respects : Respects view)

include respects

theorem step (world : W) : step (view world) = (step world).map view := by
  unfold Clockwork.step
  rw [respects.agenda]
  cases (Clockwork.agenda world).ready with
  | nil => rfl
  | cons actor rest =>
      dsimp only
      rw [respects.withAgenda, respects.turn]
      rfl

omit respects [Clockwork W] [Clockwork W'] in
theorem steps {next : W → Option W} {next' : W' → Option W'}
    (same : ∀ world, next' (view world) = (next world).map view) (count : Nat) (world : W) :
    steps next' count (view world) = view (steps next count world) := by
  induction count generalizing world with
  | zero => rfl
  | succ count ih =>
      rw [Clockwork.steps, Clockwork.steps, same]
      cases next world with
      | none => rfl
      | some later => exact ih later

theorem settle (world : W) : settle (view world) = view (settle world) := by
  unfold Clockwork.settle
  rw [respects.effort, steps respects.step]

theorem moveClock (instant : Nat) (world : W) :
    moveClock instant (view world) = view (moveClock instant world) := by
  unfold Clockwork.moveClock
  dsimp only
  rw [respects.agenda, respects.elapse, respects.agenda, respects.withAgenda]

theorem jump (instant : Nat) (world : W) :
    jump instant (view world) = view (jump instant world) := by
  rw [Clockwork.jump, respects.moveClock, respects.settle, Clockwork.jump]

theorem jumps {jump : Nat → W → W} {jump' : Nat → W' → W'} {stop : W → Bool} {stop' : W' → Bool}
    (sameJump : ∀ due world, jump' due (view world) = view (jump due world))
    (same : ∀ world, stop' (view world) = stop world) (last count : Nat) (world : W) :
    jumps jump' stop' last count (view world) = view (jumps jump stop last count world) := by
  induction count generalizing world with
  | zero => rfl
  | succ count ih =>
      rw [Clockwork.jumps, Clockwork.jumps, same, respects.agenda]
      split
      · rfl
      · split
        · rfl
        next due _ =>
          rw [sameJump, ih]
          split <;> rfl

theorem advance (millis : Nat) (world : W) :
    advance millis (view world) = view (advance millis world) := by
  unfold Clockwork.advance
  dsimp only
  rw [respects.agenda, respects.jumps respects.jump (fun _ => rfl), respects.jump]

/-! ## With a host -/

theorem callUp (actor : Actor) (world : W) :
    callUp actor (view world) = view (callUp actor world) := by
  rw [Clockwork.callUp, respects.agenda, respects.withAgenda, respects.turn, Clockwork.callUp]

theorem hostedStep (host : Actor) (world : W) :
    hostedStep host (view world) = (hostedStep host world).map view := by
  rw [Clockwork.hostedStep, Clockwork.hostedStep, respects.agenda, Option.map_map]
  exact congrArg (Option.map · _) (funext fun actor => respects.callUp actor world)

theorem hostedSettle (host : Actor) (world : W) :
    hostedSettle host (view world) = view (hostedSettle host world) := by
  unfold Clockwork.hostedSettle
  rw [respects.effort, steps (respects.hostedStep host)]

theorem hostedJump (host : Actor) (instant : Nat) (world : W) :
    hostedJump host instant (view world) = view (hostedJump host instant world) := by
  unfold Clockwork.hostedJump
  dsimp only
  rw [respects.moveClock, respects.agenda, respects.callUp, ← apply_ite view,
    respects.hostedSettle]

theorem hostedAwait (host : Actor) {stop : W → Bool} {stop' : W' → Bool}
    (same : ∀ world, stop' (view world) = stop world) (world : W) :
    hostedAwait host stop' (view world) = view (hostedAwait host stop world) := by
  unfold Clockwork.hostedAwait
  rw [respects.hostedSettle, respects.jumps (respects.hostedJump host) same]

end Respects

end RiskGate.Schedule.Clockwork
