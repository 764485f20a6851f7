import RiskGate.Breaker

/-!
# What a breaker announces

A breaker announces its position whenever it moves to another one, and only then.  The position
announced last is therefore always the present one, and a breaker that has announced nothing
has been closed from the beginning.
-/

namespace RiskGate.Breaker

/-- The position stayed and nothing was announced, or the position was announced. -/
def Tells (before after : Breaker) : Prop :=
  (after.circuit = before.circuit ∧ after.announced = before.announced) ∨
    after.announced = some after.circuit

namespace Tells

variable {before middle after : Breaker}

theorem refl (breaker : Breaker) : Tells breaker breaker := .inl ⟨rfl, rfl⟩

theorem trans (first : Tells before middle) (second : Tells middle after) : Tells before after := by
  rcases second with ⟨circuit, announced⟩ | told
  · rcases first with ⟨circuitBefore, announcedBefore⟩ | told
    · exact .inl ⟨circuit.trans circuitBefore, announced.trans announcedBefore⟩
    · exact .inr (by rw [announced, circuit, told])
  · exact .inr told

/-- A breaker that has announced nothing still stands where it stood. -/
theorem of_silent (tells : Tells before after) (silent : after.announced = none) :
    before.announced = none ∧ before.circuit = after.circuit := by
  rcases tells with ⟨circuit, announced⟩ | told
  · exact ⟨announced.symm.trans silent, circuit.symm⟩
  · rw [silent] at told
    cases told

end Tells

section Acts

variable (breaker : Breaker)

theorem tells_moveTo (target : Circuit) : Tells breaker (breaker.moveTo target) := by
  unfold moveTo
  split
  · exact .refl breaker
  · exact .inr rfl

theorem tells_acquire (now : Nat) : Tells breaker (breaker.acquire now).1 := by
  unfold acquire
  split
  · exact .inl ⟨rfl, rfl⟩
  · split
    · exact breaker.tells_moveTo .halfOpen
    · exact .inl ⟨rfl, rfl⟩
  · split
    · exact .inl ⟨rfl, rfl⟩
    · exact .inl ⟨rfl, rfl⟩

theorem tells_succeed (generation : Nat) : Tells breaker (breaker.succeed generation) := by
  unfold succeed
  dsimp only
  split
  · exact .inl ⟨rfl, rfl⟩
  · split
    · exact .inl ⟨rfl, rfl⟩
    · let counted : Breaker := { breaker with successes := breaker.successes + 1, failureRun := 0 }
      exact counted.tells_moveTo .closed
    · exact .inl ⟨rfl, rfl⟩

theorem tells_fail (generation now : Nat) : Tells breaker (breaker.fail generation now) := by
  let noted : Breaker :=
    { breaker with
      failures := breaker.failures + 1
      failureRun := min (breaker.failureRun + 1) longestRun
      lastFailure := some now }
  have opens : Tells breaker (noted.moveTo .opened) := noted.tells_moveTo .opened
  unfold fail
  dsimp only
  split
  · exact .inl ⟨rfl, rfl⟩
  · split
    · split
      · exact opens
      · exact .inl ⟨rfl, rfl⟩
    · exact opens
    · exact .inl ⟨rfl, rfl⟩

theorem tells_reset : Tells breaker breaker.reset := breaker.tells_moveTo .closed

end Acts

/-- What was announced last is the present position, and a breaker that has announced nothing
is closed. -/
structure Announced (breaker : Breaker) : Prop where
  shown : ∀ circuit ∈ breaker.announced, circuit = breaker.circuit
  silent : breaker.announced = none → breaker.circuit = .closed

namespace Announced

variable {before after : Breaker}

theorem make (threshold : Nat) (recovery : Span) (trialLimit : Nat) :
    (make threshold recovery trialLimit).Announced where
  shown := nofun
  silent := fun _ => rfl

theorem tells (announced : before.Announced) (tells : Tells before after) : after.Announced := by
  rcases tells with ⟨circuit, same⟩ | told
  · constructor
    · rw [circuit, same]
      exact announced.shown
    · rw [circuit, same]
      exact announced.silent
  · constructor
    · intro circuit shown
      exact Option.some.inj (Eq.trans (Eq.symm shown) told)
    · intro silent
      rw [silent] at told
      cases told

end Announced

end RiskGate.Breaker
