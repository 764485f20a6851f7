import RiskGate.Proofs.Pool.Attention
import RiskGate.Proofs.Pool.Custody

/-!
# Jobs that were begun

A job is begun by the worker at whose desk it lies, and ends there.  Callers leave the
desks alone, and the dispatcher puts jobs only on the desks of idle workers, so that
neither of them makes a job that was begun disappear.
-/

namespace RiskGate.Pool.Floor

variable {ε τ ρ : Type} {floor : Floor ε τ ρ}

/-! ## Callers -/

section Callers

theorem desks_join (caller : Nat) (batch : Batch τ ρ) (floor : Floor ε τ ρ) :
    (floor.join caller batch).desks = floor.desks := by
  rcases floor.join_cases caller batch with ⟨_, joinEq⟩ | ⟨_, _, joinEq⟩ | ⟨_, _, joinEq⟩
  · rw [joinEq]
    rfl
  · rw [joinEq]
    rfl
  · rw [joinEq]
    rfl

theorem desks_handIn (caller : Nat) (tasks : List τ) (batch : Batch τ ρ) (floor : Floor ε τ ρ) :
    (floor.handIn caller batch tasks).desks = floor.desks := by
  induction tasks generalizing batch floor with
  | nil => exact desks_join caller batch floor
  | cons task rest ih =>
      rw [handIn]
      dsimp only
      rcases offered : (floor.issue batch.scope task).1.offer caller
        (floor.issue batch.scope task).2 batch.wait with ⟨next, _ | answer⟩
      · exact (offer_waits _ _ offered).1.desks
      · exact (ih _ next).trans (offer_settles _ _ offered).staff.desks

theorem desks_batchTurn (caller : Nat) (batch : Batch τ ρ) (floor : Floor ε τ ρ) :
    (floor.batchTurn caller batch).desks = floor.desks := by
  unfold batchTurn
  split
  · exact desks_join caller batch floor
  · rcases offered : floor.offerAgain caller _ batch.wait _ with ⟨next, _ | answer⟩
    · exact congrArg Floor.desks (offerAgain_waits _ _ offered)
    · exact (desks_handIn caller _ _ _).trans (offerAgain_settles _ _ offered).staff.desks

theorem desks_offeringTurn (caller : Nat) (job : Job τ) (wait : Span) (due : Nat)
    (floor : Floor ε τ ρ) : (floor.offeringTurn caller job wait due).desks = floor.desks := by
  unfold offeringTurn
  rcases offered : floor.offerAgain caller job wait due with ⟨next, _ | answer⟩
  · exact congrArg Floor.desks (offerAgain_waits _ _ offered)
  · exact (offerAgain_settles _ _ offered).staff.desks

/-- A caller's turn leaves the desks alone. -/
theorem desks_attend (caller : Nat) (floor : Floor ε τ ρ) :
    (floor.attend caller).desks = floor.desks := by
  unfold attend
  split
  · exact desks_offeringTurn _ _ _ _ floor
  · exact desks_batchTurn _ _ floor
  · unfold closingTurn
    dsimp only
    split
    · rfl
    · split <;> rfl
  · rfl

theorem desks_executeBatch (wait : Span) (scope : Nat) (tasks : List τ) (floor : Floor ε τ ρ) :
    (floor.executeBatch wait scope tasks).1.desks = floor.desks :=
  desks_handIn _ tasks _ _

theorem desks_shutdown (limit : Span) (floor : Floor ε τ ρ) :
    (floor.shutdown limit).1.desks = floor.desks := by
  rcases floor.shutdown_cases limit with ⟨_, shutEq⟩ | ⟨_, _, shutEq⟩ | ⟨_, _, shutEq⟩
  · rw [shutEq]
    rfl
  · rw [shutEq]
    rfl
  · rw [shutEq]
    rfl

end Callers

/-! ## The dispatcher -/

/-- A job is put on the desk of an idle worker. -/
theorem begun_handOver (registered : floor.Registered) (opened : floor.shut = false) :
    floor.handOver.begun = floor.begun := by
  unfold handOver
  split
  next job queue worker idle _ idleEq =>
    obtain ⟨_, seated⟩ := registered opened
    have found := seated worker (idleEq ▸ List.mem_cons_self)
    let taken : Floor ε τ ρ := { floor with queue := queue, idle := idle }
    have desks : taken.vacate.desks = floor.desks := taken.sameStaff_vacate.desks
    change (taken.vacate.setDesk worker (.handed job)).begun = _
    rw [begun_setDesk, begun, desks]
    exact floor.begun_clear worker found rfl
  · rfl

/-- The dispatcher's turn leaves alone whatever was begun. -/
theorem begun_dispatch {history : History τ ρ} (sound : floor.Sound history) :
    floor.dispatch.begun = floor.begun := by
  have turned : floor.dispatch.begun = floor.begun ∧ floor.dispatch.Sound history := by
    refine dispatch_preserves
      (motive := fun next => next.begun = floor.begun ∧ next.Sound history) ⟨rfl, sound⟩ ?_ ?_
    · rintro between open_ _ ⟨same, still⟩
      exact ⟨(begun_handOver still.registered open_).trans same, still.handOver open_⟩
    · intro shut _
      have desks : floor.closeQueue.desks = floor.desks :=
        failAll_preserves (motive := fun next => next.desks = floor.desks) (fun _ _ => id)
          floor.queue rfl
      exact ⟨congrArg (List.map Desk.begun?) desks,
        (sound.closeQueue shut).frame (sameStaff_wakeClosers _) rfl⟩
  exact turned.1

end RiskGate.Pool.Floor
