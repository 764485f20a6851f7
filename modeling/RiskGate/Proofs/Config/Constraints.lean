import RiskGate.Config.ToJson
import RiskGate.Config.Validation
import Mathlib.Data.List.TakeWhile
import Mathlib.Tactic.Tauto

/-!
# The constraints on settings

Validation collects violations section by section, and once more for the caps.  Here the
constraints stand as one list: the setting that each is about, what it demands of the value,
and whether it is in force only while caching is on.  Validation reports the constraints of
this list that are broken, each once and in the order of the list.

A setting goes by its path in a document, and its value is what is printed under this path.
The two constraints on one setting are its lower bound and its cap, which are never broken
together.
-/

namespace RiskGate.Config

open Json (Value)

/-! ## Values of settings -/

/-- The members of an object. -/
def members : Value → List (String × Value)
  | .object members => members
  | _ => []

namespace Settings

/-- All settings with their paths. -/
def entries (settings : Settings) : List (String × Value) :=
  (members settings.toJson).flatMap fun (part, fields) =>
    (members fields).map fun (name, value) => (part ++ "." ++ name, value)

/-- The value of the setting with a path, null where there is none. -/
def value (field : String) (settings : Settings) : Value :=
  (settings.entries.lookup field).getD .null

end Settings

/-! ## Demands -/

/-- What can be demanded of the value of a setting. -/
inductive Demand where
  /-- A number that is not zero. -/
  | positive
  /-- A number that does not exceed a maximum. -/
  | atMost (maximum : Nat)
  /-- A text that does not consist of blanks. -/
  | filled
  /-- A text that is empty or a socket address. -/
  | address
  /-- A double between zero and one. -/
  | share
  /-- A double that is not below zero. -/
  | notNegative
deriving DecidableEq

namespace Demand

/-- The value is as demanded. -/
def Met : Demand → Value → Prop
  | positive, .integer number => 0 < number
  | atMost maximum, .integer number => number ≤ maximum
  | filled, .string text => ∃ c ∈ text.toList, Text.isBlank c = false
  | address, .string text => text = "" ∨ Address.isValid text = true
  | share, .real x => 0.0 ≤ x ∧ x ≤ 1.0 ∧ x.isNaN = false
  | notNegative, .real x => ¬ x < 0.0
  | _, _ => False

/-- What is wrong with a value that is not as demanded. -/
def problem : Demand → Value → String
  | positive, _ => "must be greater than 0"
  | atMost maximum, .integer number =>
      toString number ++ " exceeds the maximum of " ++ toString maximum
  | filled, _ => "must not be empty"
  | address, .string text => "'" ++ text ++ "' is not a valid socket address"
  | share, .real x => Decimal.plain x ++ " is outside [0, 1]"
  | notNegative, _ => "must not be negative"
  | _, _ => ""

instance (demand : Demand) (value : Value) : Decidable (demand.Met value) := by
  unfold Met
  split
  · infer_instance
  · infer_instance
  · exact List.decidableBEx _ _
  · infer_instance
  · infer_instance
  · infer_instance
  · infer_instance

end Demand

/-! ## Constraints -/

/-- A constraint on a setting. -/
structure Constraint where
  field : String
  demand : Demand
  /-- The constraint is in force only while caching is on. -/
  whileCaching : Bool := false
deriving DecidableEq

namespace Constraint

/-- The constraint is in force. -/
def InForce (constraint : Constraint) (settings : Settings) : Prop :=
  constraint.whileCaching = true → settings.cache.enabled = true

/-- The settings meet the constraint, or it is not in force. -/
def Holds (constraint : Constraint) (settings : Settings) : Prop :=
  constraint.InForce settings → constraint.demand.Met (settings.value constraint.field)

instance (constraint : Constraint) (settings : Settings) :
    Decidable (constraint.Holds settings) := by
  unfold Holds InForce
  infer_instance

/-- The violation that stands for the broken constraint. -/
def violation (settings : Settings) (constraint : Constraint) : Violation :=
  ⟨constraint.field, constraint.demand.problem (settings.value constraint.field)⟩

end Constraint

def executionBounds : List Constraint := [
  ⟨"execution.max_concurrent_requests", .positive, false⟩,
  ⟨"execution.queue_capacity", .positive, false⟩,
  ⟨"execution.request_timeout_ms", .positive, false⟩,
  ⟨"execution.batch_timeout_multiplier", .positive, false⟩,
  ⟨"execution.model_selector", .filled, false⟩]

def cacheBounds : List Constraint := [
  ⟨"cache.ttl_secs", .positive, true⟩,
  ⟨"cache.max_size", .positive, true⟩,
  ⟨"cache.cleanup_interval_secs", .positive, true⟩]

def breakerBounds : List Constraint := [
  ⟨"circuit_breaker.failure_threshold", .positive, false⟩,
  ⟨"circuit_breaker.half_open_max_calls", .positive, false⟩]

def addressForm : List Constraint := [⟨"observability.metrics_address", .address, false⟩]

def thresholdBounds : List Constraint := [
  ⟨"thresholds.min_success_rate", .share, false⟩,
  ⟨"thresholds.min_cache_hit_rate", .share, false⟩,
  ⟨"thresholds.max_error_rate", .share, false⟩,
  ⟨"thresholds.min_throughput_rps", .notNegative, false⟩]

/-- The constraints on each section. -/
def bounds : List Constraint :=
  executionBounds ++ cacheBounds ++ breakerBounds ++ addressForm ++ thresholdBounds

/-- The caps: an hour for a time limit, a hundred times that for a batch, a year for an
entry of the cache, and a day for the other intervals. -/
def caps : List Constraint := [
  ⟨"execution.request_timeout_ms", .atMost (60 * 60 * 1000), false⟩,
  ⟨"execution.submit_timeout_ms", .atMost (60 * 60 * 1000), false⟩,
  ⟨"execution.batch_timeout_multiplier", .atMost 100, false⟩,
  ⟨"cache.ttl_secs", .atMost (365 * 24 * 60 * 60), false⟩,
  ⟨"cache.cleanup_interval_secs", .atMost (24 * 60 * 60), false⟩,
  ⟨"circuit_breaker.recovery_timeout_secs", .atMost (24 * 60 * 60), false⟩]

/-- All constraints, in the order in which they are reported. -/
def constraints : List Constraint := bounds ++ caps

/-- The constraints that settings break, in their order. -/
def broken (settings : Settings) : List Constraint :=
  constraints.filter fun constraint => ¬ constraint.Holds settings

/-! ## What one check reports -/

/-- A double that is not below another one is not NaN. -/
theorem isNaN_eq_false_of_le {x y : Float} (le : x ≤ y) : y.isNaN = false := by
  have ordered : x.toModel.unpack.le y.toModel.unpack = true := of_decide_eq_true le
  change y.toModel.unpack.isNaN = false
  cases right : y.toModel.unpack with
  | infinity | zero | finite => rfl
  | notANumber =>
      rw [right] at ordered
      cases left : x.toModel.unpack <;> rw [left] at ordered <;> cases ordered

/-- Nothing is left of a text without its blanks if it consists of blanks. -/
theorem trim_eq_nil_iff {text : List Char} :
    Text.trim text = [] ↔ ∀ c ∈ text, Text.isBlank c = true := by
  rw [Text.trim, List.reverse_eq_nil_iff, List.dropWhile_eq_nil_iff]
  constructor
  · intro blank
    rw [← List.dropWhile_eq_nil_iff]
    by_contra rest
    have first := List.head_dropWhile_not Text.isBlank rest
    rw [blank _ (List.mem_reverse.mpr (List.head_mem rest))] at first
    cases first
  · intro blank c member
    exact blank c ((List.dropWhile_sublist _).subset (List.mem_reverse.mp member))

namespace Constraint

/-- What is reported of one constraint. -/
def check (settings : Settings) (constraint : Constraint) : List Violation :=
  if constraint.Holds settings then [] else [constraint.violation settings]

variable {settings : Settings} {field : String} {whileCaching : Bool} {demand : Demand}

/-- Most constraints are always in force. -/
theorem always : (⟨field, demand, false⟩ : Constraint).InForce settings := by
  intro never
  cases never

/-- A check that reports a violation exactly if the constraint is broken. -/
theorem report_eq_check {constraint : Constraint} {failed : Bool} {problem : String}
    (inForce : constraint.InForce settings)
    (iff : failed = true ↔ ¬ constraint.demand.Met (settings.value constraint.field))
    (same : constraint.demand.problem (settings.value constraint.field) = problem) :
    report failed constraint.field problem = constraint.check settings := by
  have holds : constraint.Holds settings ↔ ¬ failed = true := by
    rw [iff, not_not]
    exact ⟨fun holds => holds inForce, fun met _ => met⟩
  rw [report, check, violation, same]
  by_cases fails : failed = true
  · rw [if_pos fails, if_neg (mt holds.mp (not_not.mpr fails))]
  · rw [if_neg fails, if_pos (holds.mpr fails)]

theorem positive_eq_check {number : Nat}
    (inForce : (⟨field, .positive, whileCaching⟩ : Constraint).InForce settings)
    (found : settings.value field = .integer number) :
    positive field number = (⟨field, .positive, whileCaching⟩ : Constraint).check settings := by
  refine report_eq_check inForce ?_ rfl
  rw [found]
  simp [Demand.Met]

theorem atMost_eq_check {number maximum : Nat} (found : settings.value field = .integer number) :
    atMost field number maximum =
      (⟨field, .atMost maximum, false⟩ : Constraint).check settings := by
  refine report_eq_check always ?_ ?_
  · rw [found]
    simp [Demand.Met]
  · rw [found]
    rfl

theorem withinUnit_eq_check {x : Float} (found : settings.value field = .real x) :
    withinUnit field x = (⟨field, .share, false⟩ : Constraint).check settings := by
  refine report_eq_check always ?_ ?_
  · rw [found]
    have proper : 0.0 ≤ x → x.isNaN = false := isNaN_eq_false_of_le
    simp only [Demand.Met, Bool.not_eq_true', Bool.and_eq_false_iff, decide_eq_false_iff_not]
    tauto
  · rw [found]
    rfl

/-- Outside of its times a constraint is not reported. -/
theorem check_eq_nil {constraint : Constraint} (idle : ¬ constraint.InForce settings) :
    constraint.check settings = [] :=
  if_pos fun inForce => absurd inForce idle

/-- A list of checks reports the broken constraints in their order. -/
theorem flatMap_check (constraints : List Constraint) :
    constraints.flatMap (check settings) =
      (constraints.filter fun constraint => ¬ constraint.Holds settings).map
        (violation settings) := by
  induction constraints with
  | nil => rfl
  | cons constraint rest ih =>
      rw [List.flatMap_cons, ih, check]
      by_cases holds : constraint.Holds settings
      · rw [if_pos holds, List.filter_cons_of_neg (by simpa using holds)]
        rfl
      · rw [if_neg holds, List.filter_cons_of_pos (by simpa using holds)]
        rfl

end Constraint

open Constraint

/-! ## All checks -/

section Sections

variable (settings : Settings)

theorem executionViolations_eq :
    executionViolations settings.execution = executionBounds.flatMap (check settings) := by
  have filled : report (Text.trim settings.execution.modelSelector.toList).isEmpty
      "execution.model_selector" "must not be empty" =
        check settings ⟨"execution.model_selector", .filled, false⟩ := by
    refine report_eq_check always ?_ rfl
    rw [List.isEmpty_iff, trim_eq_nil_iff]
    change _ ↔ ¬ ∃ c ∈ settings.execution.modelSelector.toList, Text.isBlank c = false
    simp
  rw [executionViolations, filled, positive_eq_check always rfl, positive_eq_check always rfl,
    positive_eq_check always rfl, positive_eq_check always rfl]
  simp [executionBounds]

theorem cacheViolations_eq :
    cacheViolations settings.cache = cacheBounds.flatMap (check settings) := by
  by_cases caching : settings.cache.enabled = true
  · have inForce : ∀ field : String,
        (⟨field, .positive, true⟩ : Constraint).InForce settings := fun _ _ => caching
    rw [cacheViolations, if_pos caching, positive_eq_check (inForce _) rfl,
      positive_eq_check (inForce _) rfl, positive_eq_check (inForce _) rfl]
    simp [cacheBounds]
  · have idle : ∀ field : String,
        ¬ (⟨field, .positive, true⟩ : Constraint).InForce settings :=
      fun _ inForce => caching (inForce rfl)
    rw [cacheViolations, if_neg caching]
    simp [cacheBounds, check_eq_nil (idle _)]

theorem breakerViolations_eq :
    breakerViolations settings.circuitBreaker =
      breakerBounds.flatMap (check settings) := by
  rw [breakerViolations, positive_eq_check always rfl, positive_eq_check always rfl]
  simp [breakerBounds]

theorem addressViolations_eq :
    addressViolations settings.observability =
      addressForm.flatMap (check settings) := by
  have address : addressViolations settings.observability =
      check settings ⟨"observability.metrics_address", .address, false⟩ := by
    refine report_eq_check always ?_ rfl
    change _ ↔ ¬ (settings.observability.metricsAddress = "" ∨
      Address.isValid settings.observability.metricsAddress = true)
    simp
  rw [address]
  simp [addressForm]

theorem thresholdViolations_eq :
    thresholdViolations settings.thresholds = thresholdBounds.flatMap (check settings) := by
  have notNegative : report (settings.thresholds.minThroughputRps < 0.0)
      "thresholds.min_throughput_rps" "must not be negative" =
        check settings ⟨"thresholds.min_throughput_rps", .notNegative, false⟩ := by
    refine report_eq_check always ?_ rfl
    change _ ↔ ¬ ¬ settings.thresholds.minThroughputRps < 0.0
    simp
  rw [thresholdViolations, notNegative, withinUnit_eq_check rfl, withinUnit_eq_check rfl,
    withinUnit_eq_check rfl]
  simp [thresholdBounds]

theorem capViolations_eq : capViolations settings = caps.flatMap (check settings) := by
  rw [capViolations, atMost_eq_check rfl, atMost_eq_check rfl, atMost_eq_check rfl,
    atMost_eq_check rfl, atMost_eq_check rfl, atMost_eq_check rfl]
  simp [caps, maxTimeoutMs, maxBatchTimeoutMultiplier, maxCacheTtlSecs, maxIntervalSecs]

end Sections

variable {settings : Settings}

/-- Validation finds what the checks of all constraints report. -/
theorem violations_eq_flatMap (settings : Settings) :
    violations settings = constraints.flatMap (check settings) := by
  rw [violations, executionViolations_eq, cacheViolations_eq, breakerViolations_eq,
    addressViolations_eq, thresholdViolations_eq, capViolations_eq]
  simp only [constraints, bounds, List.flatMap_append]

/-- Validation finds one violation for each broken constraint. -/
theorem violations_eq (settings : Settings) :
    violations settings = (broken settings).map (violation settings) := by
  rw [violations_eq_flatMap, flatMap_check, broken]

theorem validate_eq_ok_iff :
    validate settings = .ok () ↔ ∀ constraint ∈ constraints, constraint.Holds settings := by
  have none : broken settings = [] ↔ ∀ constraint ∈ constraints, constraint.Holds settings := by
    simp [broken]
  rw [← none, validate, violations_eq]
  cases broken settings with
  | nil => exact ⟨fun _ => rfl, fun _ => rfl⟩
  | cons first rest => exact ⟨nofun, nofun⟩

theorem validate_eq_error_iff {list : List Violation} :
    validate settings = .error list ↔
      broken settings ≠ [] ∧ list = (broken settings).map (violation settings) := by
  rw [validate, violations_eq]
  cases broken settings with
  | nil => exact ⟨nofun, fun ⟨nonempty, _⟩ => absurd rfl nonempty⟩
  | cons first rest =>
      constructor
      · intro failed
        exact ⟨nofun, (Except.error.inj failed).symm⟩
      · rintro ⟨_, rfl⟩
        rfl

/-! ## One violation for each setting -/

/-- The cap of a setting is broken only if its lower bound is not. -/
theorem field_ne_of_broken {bound cap : Constraint} (boundMember : bound ∈ bounds)
    (capMember : cap ∈ caps) (boundBroken : ¬ bound.Holds settings)
    (capBroken : ¬ cap.Holds settings) : bound.field ≠ cap.field := by
  intro same
  have positive : bound.demand = .positive := by
    have all : ∀ cap ∈ caps, ∀ bound ∈ bounds, bound.field = cap.field →
        bound.demand = .positive := by decide
    exact all cap capMember bound boundMember same
  obtain ⟨number, maximum, found, demand⟩ : ∃ (number maximum : Nat),
      settings.value cap.field = .integer number ∧ cap.demand = .atMost maximum := by
    simp only [caps, List.mem_cons, List.not_mem_nil, or_false] at capMember
    rcases capMember with rfl | rfl | rfl | rfl | rfl | rfl <;> exact ⟨_, _, rfl, rfl⟩
  apply capBroken
  intro _
  rw [demand, found]
  by_contra above
  apply boundBroken
  intro _
  rw [positive, same, found]
  simp only [Demand.Met, Int.ofNat_le, Int.natCast_pos] at above ⊢
  omega

/-- No two broken constraints are about one setting. -/
theorem nodup_fields (settings : Settings) :
    ((broken settings).map Constraint.field).Nodup := by
  have distinctBounds : (bounds.map Constraint.field).Nodup := by decide
  have distinctCaps : (caps.map Constraint.field).Nodup := by decide
  rw [broken, constraints, List.filter_append, List.map_append]
  refine List.nodup_append.mpr ⟨?_, ?_, ?_⟩
  · exact distinctBounds.sublist (List.filter_sublist.map _)
  · exact distinctCaps.sublist (List.filter_sublist.map _)
  · intro field ofBound other ofCap
    obtain ⟨bound, boundBroken, rfl⟩ := List.mem_map.mp ofBound
    obtain ⟨cap, capBroken, rfl⟩ := List.mem_map.mp ofCap
    rw [List.mem_filter, decide_eq_true_eq] at boundBroken capBroken
    exact field_ne_of_broken boundBroken.1 capBroken.1 boundBroken.2 capBroken.2

/-! ## Independence -/

/-- Whether caching is on and the value of a setting are all that its constraints ask for. -/
theorem check_congr {other : Settings} {constraint : Constraint}
    (caching : other.cache.enabled = settings.cache.enabled)
    (same : other.value constraint.field = settings.value constraint.field) :
    constraint.check other = constraint.check settings := by
  simp only [check, Holds, InForce, violation, caching, same]

/-- What is reported about a setting. -/
def reportedOf (field : String) (settings : Settings) : List Violation :=
  (violations settings).filter (·.field = field)

/-- What is reported about a setting depends on its value, and on whether caching is on. -/
theorem reportedOf_congr {other : Settings} {field : String}
    (caching : other.cache.enabled = settings.cache.enabled)
    (same : other.value field = settings.value field) :
    reportedOf field other = reportedOf field settings := by
  rw [reportedOf, reportedOf, violations_eq_flatMap, violations_eq_flatMap, List.filter_flatMap,
    List.filter_flatMap]
  congr 1
  funext constraint
  by_cases own : constraint.field = field
  · subst own
    rw [check_congr caching same]
  · have unreported : ∀ settings, (constraint.check settings).filter (·.field = field) = [] := by
      intro settings
      rw [check]
      split
      · rfl
      · exact List.filter_eq_nil_iff.mpr fun found member => by
          rw [List.mem_singleton.mp member]
          exact fun same => own (of_decide_eq_true same)
    rw [unreported, unreported]

/-! ## The law -/

/-- Validation reports exactly the broken constraints. -/
structure ValidatedExactly (settings : Settings) : Prop where
  /-- Settings are accepted if all constraints hold. -/
  accepted : validate settings = .ok () ↔ ∀ constraint ∈ constraints, constraint.Holds settings
  /-- Otherwise one violation is reported for each broken constraint, in the order of the
  constraints. -/
  refused : ∀ list, validate settings = .error list ↔
    (∃ constraint ∈ constraints, ¬ constraint.Holds settings) ∧
      list = (broken settings).map (violation settings)
  /-- No setting is reported twice. -/
  once : ∀ list, validate settings = .error list → (list.map Violation.field).Nodup
  /-- What is reported about a setting does not depend on the others, but for whether caching
  is on. -/
  independent : ∀ (other : Settings) (field : String),
    other.cache.enabled = settings.cache.enabled → other.value field = settings.value field →
      reportedOf field other = reportedOf field settings

/-- All settings are validated exactly. -/
theorem validate_exact (settings : Settings) : ValidatedExactly settings where
  accepted := validate_eq_ok_iff
  refused list := by
    rw [validate_eq_error_iff]
    simp [broken]
  once list failed := by
    obtain ⟨_, rfl⟩ := validate_eq_error_iff.mp failed
    rw [List.map_map]
    exact nodup_fields settings
  independent _ _ caching same := reportedOf_congr caching same

end RiskGate.Config
