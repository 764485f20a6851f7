import RiskGate.BatchOutcome
import Mathlib.Data.List.Basic
import Mathlib.Logic.Function.Basic

/-!
# Splitting an outcome loses nothing

The outcome of a batch splits into its assessments and one failure that names each failed
item with its position.  The assessments alone do not say where they stood.  The positions
of the failures do: put back in their order among the assessments, they give the items of the
outcome again, so that no other outcome has the same parts.

Assessments, failures and counts are found in passes of their own over the items.  Here the
passes are shown to agree, whatever the pattern of answers and failures.
-/

namespace RiskGate.BatchOutcome

/-! ## Statement -/

/-- The failures are those of the failed items, each with its position, in increasing order. -/
structure Attribution (items : List (Outcome Assessment))
    (failures : List (Nat × Failure)) : Prop where
  increasing : failures.Pairwise fun first second => first.1 < second.1
  mem_iff : ∀ position cause,
    (position, cause) ∈ failures ↔ items[position]? = some (.error cause)

/-- The failures that the failure of a whole batch names, with their positions. -/
def attributed : Option Failure → List (Nat × Failure)
  | some (.batch _ failures) => failures
  | _ => []

/-- Failures inserted at their positions, one after another.  One whose position is beyond the
end gets lost. -/
def putBack (failures : List (Nat × Failure)) (items : List (Outcome Assessment)) :
    List (Outcome Assessment) :=
  failures.foldl (fun items failed => items.insertIdx failed.1 (.error failed.2)) items

/-- The outcome that has been split into some parts. -/
def rejoin (parts : List Assessment × Option Failure) : BatchOutcome :=
  ⟨putBack (attributed parts.2) (parts.1.map .ok)⟩

/-- The parts of an outcome say all that it does. -/
structure Lossless (outcome : BatchOutcome) : Prop where
  /-- There is no failure exactly if every item was answered. -/
  flawless : outcome.failure? = none ↔
    ∀ item ∈ outcome.items, ∃ assessment, item = .ok assessment
  /-- If there is one, it gives the size of the batch and the failures of its items. -/
  attribution : ∀ cause, outcome.failure? = some cause →
    ∃ failures, cause = .batch outcome.size failures ∧ Attribution outcome.items failures
  /-- The assessments stay in the order of their requests. -/
  kept : outcome.parts.1.map .ok = outcome.items.filter answered
  rejoined : rejoin outcome.parts = outcome
  /-- No other outcome, and none of another size, has the same parts. -/
  determined : ∀ other : BatchOutcome, other.parts = outcome.parts → other = outcome
  counts : outcome.successCount + outcome.failureCount = outcome.size
  /-- The counts are those of the parts. -/
  successes : outcome.successCount = outcome.parts.1.length
  failures : outcome.failureCount = (attributed outcome.parts.2).length

/-! ## Counts -/

theorem answered_iff {item : Outcome Assessment} :
    answered item = true ↔ ∃ assessment, item = .ok assessment := by
  cases item <;> simp [answered]

section Counts

variable (outcome : BatchOutcome)

theorem successCount_add_failureCount :
    outcome.successCount + outcome.failureCount = outcome.size :=
  Nat.add_sub_of_le List.countP_le_length

theorem failureCount_eq : outcome.failureCount = outcome.items.countP (!answered ·) := by
  have parts := List.length_eq_countP_add_countP answered (l := outcome.items)
  simp only [Bool.not_eq_true, Bool.decide_eq_false] at parts
  apply Nat.add_left_cancel (n := outcome.successCount)
  rw [successCount_add_failureCount]
  exact parts

end Counts

/-- Every item that was not answered is named. -/
theorem length_failuresFrom (start : Nat) (items : List (Outcome Assessment)) :
    (failuresFrom start items).length = items.countP (!answered ·) := by
  induction items generalizing start with
  | nil => rfl
  | cons item rest ih =>
      cases item with
      | ok assessment =>
          rw [failuresFrom, ih, List.countP_cons_of_neg Bool.false_ne_true]
      | error cause =>
          rw [failuresFrom, List.length_cons, ih, List.countP_cons_of_pos rfl]

/-! ## Positions -/

section Positions

variable {start position : Nat} {cause : Failure} {items : List (Outcome Assessment)}

theorem mem_failuresFrom : (position, cause) ∈ failuresFrom start items ↔
    ∃ index, start + index = position ∧ items[index]? = some (.error cause) := by
  induction items generalizing start with
  | nil => simp [failuresFrom]
  | cons item rest ih =>
      -- The first item stands at `start`, and the others after it.
      rw [← Nat.or_exists_add_one]
      cases item with
      | ok assessment =>
          rw [failuresFrom, ih]
          simp [Nat.add_assoc, Nat.add_comm 1]
      | error found =>
          rw [failuresFrom, List.mem_cons, ih]
          simp [Nat.add_assoc, Nat.add_comm 1, eq_comm]

theorem increasing_failuresFrom (start : Nat) (items : List (Outcome Assessment)) :
    (failuresFrom start items).Pairwise fun first second => first.1 < second.1 := by
  induction items generalizing start with
  | nil => exact .nil
  | cons item rest ih =>
      cases item with
      | ok assessment => exact ih (start + 1)
      | error cause =>
          refine .cons ?_ (ih (start + 1))
          rintro ⟨position, later⟩ member
          obtain ⟨index, rfl, _⟩ := mem_failuresFrom.mp member
          exact Nat.lt_of_lt_of_le (Nat.lt_succ_self start) (Nat.le_add_right _ _)

theorem attribution_failures (outcome : BatchOutcome) :
    Attribution outcome.items outcome.failures where
  increasing := increasing_failuresFrom 0 outcome.items
  mem_iff position cause := by
    rw [failures, mem_failuresFrom]
    simp only [Nat.zero_add, exists_eq_left]

end Positions

/-! ## The failure of the whole batch -/

section Whole

variable (outcome : BatchOutcome)

theorem attributed_failure? : attributed outcome.failure? = outcome.failures := by
  rw [failure?]
  split
  next empty => exact empty.symm
  next => rfl

theorem failure?_eq_none_iff : outcome.failure? = none ↔ outcome.failures = [] := by
  rw [failure?]
  split
  next empty => exact iff_of_true rfl empty
  next failed => exact iff_of_false (Option.some_ne_none _) failed

theorem eq_of_failure? {cause : Failure} (given : outcome.failure? = some cause) :
    cause = .batch outcome.size outcome.failures := by
  rw [failure?] at given
  split at given
  next => cases given
  next => exact (Option.some.inj given).symm

theorem failures_eq_nil_iff : outcome.failures = [] ↔
    ∀ item ∈ outcome.items, ∃ assessment, item = .ok assessment := by
  rw [← List.length_eq_zero_iff, failures, length_failuresFrom, List.countP_eq_zero]
  simp only [Bool.not_eq_true', Bool.not_eq_false, answered_iff]

end Whole

/-! ## Putting back -/

theorem map_ok_successes (items : List (Outcome Assessment)) :
    (items.filterMap Except.toOption).map .ok = items.filter answered := by
  induction items with
  | nil => rfl
  | cons item rest ih =>
      cases item with
      | ok assessment => exact congrArg (.ok assessment :: ·) ih
      | error cause => exact ih

theorem insertIdx_length_append {α : Type} (early late : List α) (item : α) :
    (early ++ late).insertIdx early.length item = early ++ item :: late := by
  induction early with
  | nil => rfl
  | cons first rest ih => exact congrArg (first :: ·) ih

/-- Once the items up to a position are in place, the failures from there on fall into theirs. -/
theorem putBack_failuresFrom (early items : List (Outcome Assessment)) :
    putBack (failuresFrom early.length items)
      (early ++ (items.filterMap Except.toOption).map .ok) = early ++ items := by
  induction items generalizing early with
  | nil => rfl
  | cons item rest ih =>
      have next := ih (early ++ [item])
      simp only [List.length_append, List.length_singleton, List.append_assoc,
        List.singleton_append] at next
      cases item with
      | ok assessment => exact next
      | error cause =>
          rw [failuresFrom, putBack, List.foldl_cons, insertIdx_length_append]
          exact next

theorem rejoin_parts (outcome : BatchOutcome) : rejoin outcome.parts = outcome := by
  have items := putBack_failuresFrom [] outcome.items
  rw [rejoin, parts, attributed_failure?]
  exact congrArg BatchOutcome.mk items

theorem parts_injective : Function.Injective parts :=
  Function.LeftInverse.injective rejoin_parts

/-! ## The law -/

/-- Whatever items an outcome has, its parts hold all of them, in their places. -/
theorem parts_lossless (outcome : BatchOutcome) : outcome.Lossless where
  flawless := outcome.failure?_eq_none_iff.trans outcome.failures_eq_nil_iff
  attribution _ given :=
    ⟨outcome.failures, outcome.eq_of_failure? given, outcome.attribution_failures⟩
  kept := map_ok_successes outcome.items
  rejoined := rejoin_parts outcome
  determined _ same := parts_injective same
  counts := outcome.successCount_add_failureCount
  successes := by
    have kept := congrArg List.length (map_ok_successes outcome.items)
    rw [List.length_map] at kept
    rw [successCount, List.countP_eq_length_filter]
    exact kept.symm
  failures := by
    rw [parts, attributed_failure?, BatchOutcome.failures, length_failuresFrom, failureCount_eq]

/-- Failures at both ends. -/
example (first second : Assessment) :
    parts ⟨[.error .circuitOpen, .ok first, .ok second, .error .cancelled]⟩ =
      ([first, second], some (.batch 4 [(0, .circuitOpen), (3, .cancelled)])) :=
  rfl

end RiskGate.BatchOutcome
