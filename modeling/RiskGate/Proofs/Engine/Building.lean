import RiskGate.Config.OfToml
import RiskGate.Proofs.Config.FaceValue

/-!
# What an engine can be built of

The queue of a pool and the register of its idle workers are bounded channels, and a channel can
only be opened if its length is positive and not too large.  The workers and the dispatcher are
counted in a machine word.

Validation demands that there are a worker and a place in the queue, but caps neither number:
accepted settings stay accepted if the two are replaced by any others that are positive.  So an
engine can be built from accepted settings exactly if both numbers are small enough.
-/

namespace RiskGate

open Config (Settings validate violations)

/-! ## Accepted sizes -/

namespace Config.Settings

variable {settings : Settings}

/-- The same settings for other numbers of workers and of places in the queue. -/
def sized (workers places : Nat) (settings : Settings) : Settings :=
  { settings with
    execution :=
      { settings.execution with maxConcurrentRequests := workers, queueCapacity := places } }

theorem validate_eq_ok_iff_violations : validate settings = .ok () ↔ violations settings = [] := by
  unfold validate
  cases violations settings with
  | nil => exact ⟨fun _ => rfl, fun _ => rfl⟩
  | cons => exact ⟨nofun, nofun⟩

theorem positive_eq_nil_iff {field : String} {number : Nat} :
    positive field number = [] ↔ 0 < number := by
  cases number <;> simp [positive, report]

/-- Any numbers of workers and of places are accepted that are positive. -/
theorem validate_sized (valid : validate settings = .ok ()) {workers places : Nat}
    (someone : 0 < workers) (somewhere : 0 < places) :
    validate (settings.sized workers places) = .ok () := by
  rw [validate_eq_ok_iff_violations] at valid ⊢
  simp only [violations, executionViolations, List.append_eq_nil_iff,
    positive_eq_nil_iff] at valid ⊢
  obtain ⟨⟨⟨⟨⟨⟨⟨⟨_, timeout⟩, multiplier⟩, model⟩, cache⟩, breaker⟩, address⟩, thresholds⟩, caps⟩ :=
    valid
  exact ⟨⟨⟨⟨⟨⟨⟨⟨⟨someone, somewhere⟩, timeout⟩, multiplier⟩, model⟩, cache⟩, breaker⟩, address⟩,
    thresholds⟩, caps⟩

end Config.Settings

namespace Engine

/-- The greatest length of a channel, an eighth of the greatest machine word. -/
def longestChannel : Nat := (UInt64.size - 1) / 8

/-- A channel of a length can be opened. -/
def Opens (length : Nat) : Prop := 1 ≤ length ∧ length ≤ longestChannel

instance (length : Nat) : Decidable (Opens length) :=
  inferInstanceAs (Decidable (_ ∧ _))

/-- The channels of an engine can be opened, and its workers be counted. -/
structure Buildable (engine : Engine) : Prop where
  queue : Opens engine.floor.capacity
  /-- Every worker can register as idle. -/
  register : Opens engine.floor.workers
  /-- The dispatcher comes to the workers. -/
  crew : engine.floor.workers + 1 < UInt64.size

variable {settings : Settings}

/-- An engine of accepted settings can be built exactly if neither the queue nor the crew is too
large.  Both can be of any size, as far as validation goes. -/
theorem buildable_iff (valid : validate settings = .ok ()) (service : Service) :
    ((make settings service).Buildable ↔
        settings.execution.queueCapacity ≤ longestChannel ∧
          settings.execution.maxConcurrentRequests ≤ longestChannel) ∧
      ∀ workers places : Nat, 0 < workers → 0 < places →
        validate (settings.sized workers places) = .ok () := by
  have sane := Config.sane_of_validate valid
  have places : (make settings service).floor.capacity = settings.execution.queueCapacity :=
    Nat.max_eq_left sane.places
  have workers :
      (make settings service).floor.workers = settings.execution.maxConcurrentRequests :=
    (List.length_replicate ..).trans (Nat.max_eq_left sane.workers)
  have counted : longestChannel + 1 < UInt64.size := by decide
  refine ⟨⟨?_, ?_⟩, fun _ _ => Config.Settings.validate_sized valid⟩
  · rintro ⟨queue, register, _⟩
    exact ⟨places ▸ queue.2, workers ▸ register.2⟩
  · rintro ⟨queue, register⟩
    constructor
    · rw [places]
      exact ⟨sane.places, queue⟩
    · rw [workers]
      exact ⟨sane.workers, register⟩
    · rw [workers]
      exact Nat.lt_of_le_of_lt (Nat.succ_le_succ register) counted

/-- Settings with the longest queue that there can be. -/
def fullest : Settings := { execution := { queueCapacity := longestChannel } }

theorem buildable_iff_fullest :
    validate fullest = .ok () ∧ (make fullest (Script.service {})).Buildable :=
  ⟨rfl, (buildable_iff rfl (Script.service {})).1.mpr ⟨by decide, by decide⟩⟩

/-- A document that asks for one place more. -/
def overlong : String := "[execution]\nqueue_capacity = 2305843009213693952\n"

/-- The document is read and accepted, and the queue of its engine cannot be opened. -/
theorem overlong_queue_accepted :
    let settings : Settings := { execution := { queueCapacity := longestChannel + 1 } }
    Config.ofToml overlong = .ok settings ∧
      ¬ Opens (make settings (Script.service {})).floor.capacity :=
  ⟨rfl, by decide⟩

end Engine

end RiskGate
