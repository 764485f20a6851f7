import RiskGate.Config.OfToml
import RiskGate.Metrics.Health
import RiskGate.Proofs.Config.Constraints
import RiskGate.Proofs.Decimal.Order

/-!
# Thresholds that can be missed

Four checks of a health report compare a double with a threshold.  A threshold that is not a
number is neither above nor below anything, so its check is never heard of, whatever happens.

Validation demands of the three shares that they lie between two numbers, and so keeps this from
them.  Of the throughput it demands only that it is not below zero, which is true of a threshold
that is not a number.  All other accepted thresholds are in their range, and their checks report
every figure on the wrong side of them.
-/

namespace RiskGate.Metrics

open Config (Settings Thresholds)
open Decimal (fixed infinity)

/-- The checks that compare doubles. -/
inductive Check where
  | successRate
  | errorRate
  | hitRate
  | throughput
deriving DecidableEq

namespace Check

/-- All of them, in the order of the report. -/
def all : List Check := [successRate, errorRate, hitRate, throughput]

theorem mem_all (check : Check) : check ∈ all := by
  cases check <;> decide

section Parts

variable (snapshot : Snapshot) (thresholds : Thresholds)

def threshold : Check → Float
  | successRate => thresholds.minSuccessRate
  | errorRate => thresholds.maxErrorRate
  | hitRate => thresholds.minCacheHitRate
  | throughput => thresholds.minThroughputRps

def figure : Check → Float
  | successRate => snapshot.successRate
  | errorRate => snapshot.errorRate
  | hitRate => snapshot.cacheHitRate
  | throughput => snapshot.throughputRps

/-- There is something to check. -/
def sampled : Check → Bool
  | successRate | errorRate => 0 < snapshot.totalRequests
  | hitRate => 0 < snapshot.cacheHits + snapshot.cacheMisses
  | throughput => true

/-- Threshold and figure, in the order in which the first must not exceed the second. -/
def sides : Check → Float × Float
  | errorRate => (snapshot.errorRate, thresholds.maxErrorRate)
  | check => (check.threshold thresholds, check.figure snapshot)

/-- The figure is on the wrong side of the threshold. -/
def Missed (check : Check) : Prop :=
  (check.sides snapshot thresholds).2 < (check.sides snapshot thresholds).1

/-- The figure is on the right side of the threshold, or at it. -/
def Kept (check : Check) : Prop :=
  (check.sides snapshot thresholds).1 ≤ (check.sides snapshot thresholds).2

instance (check : Check) : Decidable (check.Missed snapshot thresholds) :=
  inferInstanceAs (Decidable (_ < _))

/-- What is said of a figure on the wrong side. -/
def text : Check → String
  | successRate =>
      "success rate " ++ fixed 3 snapshot.successRate ++ " below " ++
        fixed 3 thresholds.minSuccessRate
  | errorRate =>
      "error rate " ++ fixed 3 snapshot.errorRate ++ " exceeds " ++
        fixed 3 thresholds.maxErrorRate
  | hitRate =>
      "cache hit rate " ++ fixed 3 snapshot.cacheHitRate ++ " below " ++
        fixed 3 thresholds.minCacheHitRate
  | throughput =>
      "throughput " ++ fixed 2 snapshot.throughputRps ++ " rps below " ++
        fixed 2 thresholds.minThroughputRps ++ " rps"

/-- The check is among the violations of the health report. -/
def Reported (check : Check) : Prop :=
  check.text snapshot thresholds ∈ (checkThresholds snapshot thresholds).violations

/-! ## Reports -/

/-- What the check adds to the report. -/
def entry (check : Check) : List String :=
  violation (check.sampled snapshot && check.Missed snapshot thresholds)
    (check.text snapshot thresholds)

/-- What the check of the latency adds, the only one that compares with a whole number. -/
def latencyEntry : List String :=
  violation
    (0 < snapshot.successfulRequests &&
      Span.wordFloat thresholds.maxAvgLatencyMs < snapshot.avgDurationMs)
    ("average latency " ++ fixed 1 snapshot.avgDurationMs ++ "ms exceeds " ++
      toString thresholds.maxAvgLatencyMs ++ "ms")

theorem violations_checkThresholds :
    (checkThresholds snapshot thresholds).violations =
      latencyEntry snapshot thresholds ++ all.flatMap (entry snapshot thresholds) := by
  have regroup (a b c d e : List String) :
      a ++ b ++ c ++ d ++ e = a ++ (b ++ (c ++ (d ++ (e ++ [])))) := by
    simp only [List.append_assoc, List.append_nil]
  exact regroup _ _ _ _ _

/-- The letter with which the text of a check begins. -/
def letter : Check → Char
  | successRate => 's'
  | errorRate => 'e'
  | hitRate => 'c'
  | throughput => 't'

/-- A text begins as its first part does. -/
theorem head?_append {first : String} {letter : Char}
    (begins : first.toList.head? = some letter) (rest : String) :
    (first ++ rest).toList.head? = some letter := by
  rw [String.toList_append, List.head?_append, begins]
  rfl

theorem head?_text (check : Check) :
    (check.text snapshot thresholds).toList.head? = some check.letter := by
  cases check with
  | successRate | errorRate | hitRate =>
      exact head?_append (head?_append (head?_append rfl _) _) _
  | throughput => exact head?_append (head?_append (head?_append (head?_append rfl _) _) _) _

theorem letter_injective : Function.Injective letter := by
  intro check other
  cases check <;> cases other <;> decide

theorem mem_violation {condition : Bool} {text other : String} :
    other ∈ violation condition text ↔ condition = true ∧ other = text := by
  cases condition <;> simp [violation]

variable {snapshot thresholds}

/-- A check is reported if there are samples, and its figure is on the wrong side. -/
theorem reported_iff {check : Check} :
    check.Reported snapshot thresholds ↔
      check.sampled snapshot = true ∧ check.Missed snapshot thresholds := by
  rw [Reported, violations_checkThresholds, List.mem_append, List.mem_flatMap]
  constructor
  · rintro (latency | ⟨other, _, reported⟩)
    · obtain ⟨_, same⟩ := mem_violation.mp latency
      have begins : (check.text snapshot thresholds).toList.head? = some 'a' :=
        same ▸ head?_append (head?_append (head?_append (head?_append rfl _) _) _) _
      rw [head?_text] at begins
      cases check <;> exact absurd (Option.some.inj begins) (by decide)
    · obtain ⟨condition, same⟩ := mem_violation.mp reported
      -- Different checks are reported in different words.
      have letters : some check.letter = some other.letter := by
        rw [← head?_text snapshot thresholds check, same, head?_text]
      obtain rfl := letter_injective (Option.some.inj letters)
      simpa using condition
  · intro missed
    exact .inr ⟨check, mem_all check, mem_violation.mpr ⟨by simpa using missed, rfl⟩⟩

/-- A check against a threshold that is not a number is never reported. -/
theorem not_reported_of_isNaN {check : Check}
    (improper : (check.threshold thresholds).isNaN = true) :
    ¬ check.Reported snapshot thresholds := by
  rw [reported_iff]
  rintro ⟨_, missed⟩
  refine Decimal.not_lt_of_isNaN ?_ missed
  cases check with
  | errorRate => exact .inl improper
  | successRate | hitRate | throughput => exact .inr improper

/-- A check of a number against a number is reported unless the figure is on the right side. -/
theorem reported_iff_not_kept {check : Check}
    (proper : (check.threshold thresholds).isNaN = false)
    (sampled : check.sampled snapshot = true) (number : (check.figure snapshot).isNaN = false) :
    check.Reported snapshot thresholds ↔ ¬ check.Kept snapshot thresholds := by
  have decided : check.Missed snapshot thresholds ↔ ¬ check.Kept snapshot thresholds := by
    cases check with
    | errorRate => exact Decimal.lt_iff_not_le proper number
    | successRate | hitRate | throughput => exact Decimal.lt_iff_not_le number proper
  rw [reported_iff, decided]
  exact and_iff_right sampled

/-! ## Accepted thresholds -/

/-- A threshold means what it should. -/
structure Effective (thresholds : Thresholds) (check : Check) : Prop where
  proper : (check.threshold thresholds).isNaN = false
  nonneg : 0.0 ≤ check.threshold thresholds
  share : check ≠ throughput → check.threshold thresholds ≤ 1.0
  /-- All figures are either on the right side of it or reported. -/
  decides : ∀ snapshot, check.sampled snapshot = true → (check.figure snapshot).isNaN = false →
    (check.Reported snapshot thresholds ↔ ¬ check.Kept snapshot thresholds)
  /-- There is a figure that is reported. -/
  heard : ∃ snapshot, check.Reported snapshot thresholds

/-- A snapshot with the worst of all figures. -/
def worst : Snapshot where
  totalRequests := 1
  cacheMisses := 1
  successRate := -infinity
  errorRate := infinity
  cacheHitRate := -infinity
  throughputRps := -infinity

theorem missed_worst {check : Check} (nonneg : 0.0 ≤ check.threshold thresholds)
    (share : check ≠ throughput → check.threshold thresholds ≤ 1.0) :
    check.Missed worst thresholds := by
  cases check with
  | errorRate => exact Decimal.lt_infinity (share nofun)
  | successRate | hitRate | throughput => exact Decimal.neg_infinity_lt nonneg

/-- A threshold in its range means what it should. -/
theorem Effective.of_range {check : Check} (proper : (check.threshold thresholds).isNaN = false)
    (nonneg : 0.0 ≤ check.threshold thresholds)
    (share : check ≠ throughput → check.threshold thresholds ≤ 1.0) :
    check.Effective thresholds where
  proper := proper
  nonneg := nonneg
  share := share
  decides _ sampled number := reported_iff_not_kept proper sampled number
  heard := ⟨worst, reported_iff.mpr ⟨by cases check <;> rfl, missed_worst nonneg share⟩⟩

end Parts

variable {settings : Settings}

open Config (validate)

/-- An accepted share lies between zero and one. -/
theorem share_of_validate (valid : validate settings = .ok ()) {check : Check}
    (isShare : check ≠ throughput) :
    0.0 ≤ check.threshold settings.thresholds ∧ check.threshold settings.thresholds ≤ 1.0 ∧
      (check.threshold settings.thresholds).isNaN = false := by
  have met (constraint : Config.Constraint) (listed : constraint ∈ Config.constraints) :=
    Config.validate_eq_ok_iff.mp valid constraint listed
  cases check with
  | successRate => exact met ⟨"thresholds.min_success_rate", .share, false⟩ (by decide) nofun
  | errorRate => exact met ⟨"thresholds.max_error_rate", .share, false⟩ (by decide) nofun
  | hitRate => exact met ⟨"thresholds.min_cache_hit_rate", .share, false⟩ (by decide) nofun
  | throughput => exact absurd rfl isShare

/-- An accepted throughput is not negative, if it is a number. -/
theorem throughput_of_validate (valid : validate settings = .ok ())
    (proper : settings.thresholds.minThroughputRps.isNaN = false) :
    0.0 ≤ settings.thresholds.minThroughputRps := by
  have notNegative : ¬ settings.thresholds.minThroughputRps < 0.0 :=
    Config.validate_eq_ok_iff.mp valid ⟨"thresholds.min_throughput_rps", .notNegative, false⟩
      (by decide) nofun
  rw [Decimal.lt_iff_not_le proper (by rfl)] at notNegative
  exact not_not.mp notNegative

/-- An accepted threshold means what it should exactly if it is a number.  Only the throughput
need not be one, and then its check is never reported. -/
theorem effective_iff (valid : validate settings = .ok ()) (check : Check) :
    (check.Effective settings.thresholds ↔
        (check.threshold settings.thresholds).isNaN = false) ∧
      ((check.threshold settings.thresholds).isNaN = true →
        check = throughput ∧ ∀ snapshot, ¬ check.Reported snapshot settings.thresholds) := by
  by_cases isShare : check ≠ throughput
  · obtain ⟨nonneg, atMost, proper⟩ := share_of_validate valid isShare
    refine ⟨⟨fun _ => proper, fun _ => .of_range proper nonneg fun _ => atMost⟩, ?_⟩
    intro improper
    rw [proper] at improper
    cases improper
  · rw [not_not] at isShare
    subst isShare
    refine ⟨⟨Effective.proper, ?_⟩, ?_⟩
    · intro proper
      exact .of_range proper (throughput_of_validate valid proper) fun isShare => absurd rfl isShare
    · intro improper
      exact ⟨rfl, fun _ => not_reported_of_isNaN improper⟩

/-- A document that asks for a throughput that is not a number. -/
def unordered : String := "[thresholds]\nmin_throughput_rps = nan\n"

/-- The settings of the document. -/
def unorderedSettings : Settings := { thresholds := { minThroughputRps := 0.0 / 0.0 } }

theorem effective_iff_unordered :
    validate unorderedSettings = .ok () ∧ ¬ throughput.Effective unorderedSettings.thresholds :=
  ⟨rfl, fun effective => absurd ((effective_iff rfl throughput).1.mp effective) (by decide)⟩

/-- The document is read and accepted, and no throughput is ever reported. -/
theorem unordered_throughput_accepted :
    Config.ofToml unordered = .ok unorderedSettings ∧
      unorderedSettings.thresholds.minThroughputRps.isNaN = true ∧
      ∀ snapshot, ¬ throughput.Reported snapshot unorderedSettings.thresholds :=
  ⟨rfl, rfl, fun _ => not_reported_of_isNaN rfl⟩

end Check

end RiskGate.Metrics
