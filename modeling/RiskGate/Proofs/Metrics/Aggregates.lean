import RiskGate.Proofs.Metrics.Mirror
import RiskGate.Proofs.Tally
import Mathlib.Algebra.Order.BigOperators.Group.Multiset
import Mathlib.Data.Finset.Sort
import Mathlib.Data.Multiset.Fold
import Mathlib.Data.Multiset.Filter
import Mathlib.Order.Bounds.Defs
import Mathlib.Order.Lattice.Nat

/-!
# What a collector makes of its recordings

A collector keeps counts, aggregated durations and a tally of failures.  All of this depends on
the recordings since the last reset, but not on their order: it is the account of a multiset.

The account is given in closed form, and shown to grow by one recording as the collector does.
The equations between the figures and the bounds on the sums hold of every account.
-/

namespace RiskGate

/-! ## The tally of a multiset -/

namespace Tally

/-- The labels that occur, in order, each with its number of occurrences. -/
def ofMultiset (labels : Multiset String) : Tally :=
  labels.toFinset.sort.map fun label => (label, labels.count label)

theorem ofMultiset_zero : ofMultiset 0 = [] := by
  simp [ofMultiset]

variable (labels : Multiset String)

theorem ordered_ofMultiset : (ofMultiset labels).Ordered :=
  List.pairwise_map.mpr (Finset.sortedLT_sort labels.toFinset).pairwise

theorem mem_ofMultiset {entry : String × Nat} :
    entry ∈ ofMultiset labels ↔ entry.1 ∈ labels ∧ labels.count entry.1 = entry.2 := by
  rw [ofMultiset, List.mem_map]
  constructor
  · rintro ⟨label, listed, rfl⟩
    rw [Finset.mem_sort, Multiset.mem_toFinset] at listed
    exact ⟨listed, rfl⟩
  · rintro ⟨occurs, counted⟩
    refine ⟨entry.1, ?_, Prod.ext rfl counted⟩
    rw [Finset.mem_sort, Multiset.mem_toFinset]
    exact occurs

theorem positive_ofMultiset : (ofMultiset labels).Positive := by
  intro entry member
  obtain ⟨occurs, counted⟩ := (mem_ofMultiset labels).mp member
  rw [← counted]
  exact Multiset.count_pos.mpr occurs

theorem count_ofMultiset (label : String) :
    (ofMultiset labels).count label = labels.count label := by
  by_cases occurs : label ∈ labels
  · have member : (label, labels.count label) ∈ ofMultiset labels :=
      (mem_ofMultiset labels).mpr ⟨occurs, rfl⟩
    exact count_of_mem (ordered_ofMultiset labels) member
  · rw [Multiset.count_eq_zero.mpr occurs]
    by_contra counted
    have member := mem_of_count_pos (Nat.pos_of_ne_zero counted)
    exact occurs ((mem_ofMultiset labels).mp member).1

/-- One more occurrence is counted as such. -/
theorem bump_ofMultiset (label : String) :
    bump label (ofMultiset labels) = ofMultiset (label ::ₘ labels) := by
  have ordered := ordered_ofMultiset labels
  apply eq_of_count_eq (ordered_bump ordered label) (ordered_ofMultiset _)
    (positive_bump (positive_ofMultiset labels) label) (positive_ofMultiset _)
  intro other
  rw [count_bump ordered, count_ofMultiset, count_ofMultiset, Multiset.count_cons]
  simp only [eq_comm]

theorem total_ofMultiset : (ofMultiset labels).total = labels.card := by
  induction labels using Multiset.induction with
  | empty => simp [ofMultiset_zero, total]
  | cons label rest ih => rw [← bump_ofMultiset, total_bump, ih, Multiset.card_cons]

end Tally

namespace Metrics

/-! ## The durations of a multiset -/

namespace Durations

/-- The aggregate of some spans. -/
def ofMultiset (spans : Multiset Span) : Durations where
  count := spans.card
  sum := (spans.map Span.nanos).sum
  least := (spans.map fun span => some span.nanos).fold (Option.merge min) none
  greatest := (spans.map Span.nanos).sup

theorem least_record (span : Span) (durations : Durations) :
    (durations.record span).least = Option.merge min (some span.nanos) durations.least := by
  rw [record]
  cases durations.least with
  | none => rfl
  | some least => exact congrArg some (Nat.min_comm least span.nanos)

theorem record_ofMultiset (span : Span) (spans : Multiset Span) :
    (ofMultiset spans).record span = ofMultiset (span ::ₘ spans) := by
  have least : ((ofMultiset spans).record span).least = (ofMultiset (span ::ₘ spans)).least := by
    rw [least_record]
    simp only [ofMultiset, Multiset.map_cons, Multiset.fold_cons_left]
  have count : (ofMultiset spans).count + 1 = (ofMultiset (span ::ₘ spans)).count :=
    (Multiset.card_cons span spans).symm
  have sum : (ofMultiset spans).sum + span.nanos = (ofMultiset (span ::ₘ spans)).sum := by
    simp only [ofMultiset, Multiset.map_cons, Multiset.sum_cons]
    exact Nat.add_comm _ _
  have greatest : max (ofMultiset spans).greatest span.nanos =
      (ofMultiset (span ::ₘ spans)).greatest := by
    simp only [ofMultiset, Multiset.map_cons, Multiset.sup_cons]
    exact Nat.max_comm _ _
  exact (Durations.mk.injEq ..).mpr ⟨count, sum, least, greatest⟩

/-- The least of some spans, unless there is none. -/
theorem least_ofMultiset (spans : Multiset Span) :
    spans = 0 ∨ ∃ least, (ofMultiset spans).least = some least ∧
      IsLeast {nanos | nanos ∈ spans.map Span.nanos} least := by
  induction spans using Multiset.induction with
  | empty => exact .inl rfl
  | cons span rest ih =>
      have members : {nanos | nanos ∈ (span ::ₘ rest).map Span.nanos} =
          insert span.nanos {nanos | nanos ∈ rest.map Span.nanos} := by
        ext nanos
        rw [Multiset.map_cons, Set.mem_ofPred_eq, Multiset.mem_cons]
        rfl
      rw [members, ← record_ofMultiset]
      rcases ih with rfl | ⟨least, known, isLeast⟩
      · refine .inr ⟨span.nanos, rfl, Set.mem_insert _ _, ?_⟩
        rintro nanos (rfl | other)
        · exact Nat.le_refl _
        · exact absurd other (Multiset.notMem_zero nanos)
      · refine .inr ⟨min span.nanos least, ?_, isLeast.insert span.nanos⟩
        rw [record, known, Nat.min_comm]

/-- The sum lies between as many times the least and as many times the greatest. -/
def Bounded (durations : Durations) : Prop :=
  0 < durations.count → ∃ least, durations.least = some least ∧
    durations.count * least ≤ durations.sum ∧ durations.sum ≤ durations.count * durations.greatest

theorem bounded_ofMultiset (spans : Multiset Span) : (ofMultiset spans).Bounded := by
  intro any
  obtain rfl | ⟨least, known, _, lower⟩ := least_ofMultiset spans
  · cases any
  have size : (spans.map Span.nanos).card = spans.card := Multiset.card_map _ _
  refine ⟨least, known, ?_, ?_⟩
  · have bound := Multiset.card_nsmul_le_sum fun nanos member => lower member
    rwa [size] at bound
  · have bound := Multiset.sum_le_card_nsmul (spans.map Span.nanos) _ fun _ => Multiset.le_sup
    rwa [size] at bound

end Durations

/-! ## The account of a multiset -/

namespace Recording

@[simp]
def request? : Recording → Option Span
  | request duration => some duration
  | _ => none

@[simp]
def error? : Recording → Option String
  | error kind => some kind
  | _ => none

@[simp]
def batch? : Recording → Option (Span × Nat)
  | batch duration items => some (duration, items)
  | _ => none

@[simp]
def isHit : Recording → Bool
  | hit => true
  | _ => false

@[simp]
def isMiss : Recording → Bool
  | miss => true
  | _ => false

end Recording

/-- What a collector keeps of its recordings since the last reset. -/
structure Figures where
  total : Nat
  successful : Nat
  failed : Nat
  durations : Durations
  hits : Nat
  misses : Nat
  batches : Nat
  batchItems : Nat
  batchDurations : Durations
  errors : Tally

def Collector.figures (collector : Collector) : Figures where
  total := collector.total
  successful := collector.successful
  failed := collector.failed
  durations := collector.durations
  hits := collector.hits
  misses := collector.misses
  batches := collector.batches
  batchItems := collector.batchItems
  batchDurations := collector.batchDurations
  errors := collector.errors

/-- The figures that some recordings come to. -/
def account (recordings : Multiset Recording) : Figures :=
  let requests := recordings.filterMap Recording.request?
  let errors := recordings.filterMap Recording.error?
  let batches := recordings.filterMap Recording.batch?
  { total := requests.card + errors.card
    successful := requests.card
    failed := errors.card
    durations := .ofMultiset requests
    hits := recordings.countP (·.isHit)
    misses := recordings.countP (·.isMiss)
    batches := batches.card
    batchItems := (batches.map Prod.snd).sum
    batchDurations := .ofMultiset (batches.map Prod.fst)
    errors := .ofMultiset errors }

/-- The figures with one more recording. -/
@[simp]
def Figures.add (figures : Figures) : Recording → Figures
  | .request duration =>
      { figures with
        total := figures.total + 1
        successful := figures.successful + 1
        durations := figures.durations.record duration }
  | .error kind =>
      { figures with
        total := figures.total + 1
        failed := figures.failed + 1
        errors := figures.errors.bump kind }
  | .hit => { figures with hits := figures.hits + 1 }
  | .miss => { figures with misses := figures.misses + 1 }
  | .batch duration items =>
      { figures with
        batches := figures.batches + 1
        batchItems := figures.batchItems + items
        batchDurations := figures.batchDurations.record duration }

theorem figures_enter (recording : Recording) (collector : Collector) :
    (recording.enter collector).figures = collector.figures.add recording := by
  cases recording <;> rfl

/-- What is picked out of one more recording. -/
theorem filterMap_cons {α : Type} (pick : Recording → Option α) (recording : Recording)
    (recordings : Multiset Recording) :
    (recording ::ₘ recordings).filterMap pick =
      match pick recording with
      | none => recordings.filterMap pick
      | some picked => picked ::ₘ recordings.filterMap pick := by
  cases picked : pick recording with
  | none => exact Multiset.filterMap_cons_none _ _ picked
  | some => exact Multiset.filterMap_cons_some _ _ _ picked

theorem account_cons (recording : Recording) (recordings : Multiset Recording) :
    account (recording ::ₘ recordings) = (account recordings).add recording := by
  have requests := filterMap_cons Recording.request? recording recordings
  have errors := filterMap_cons Recording.error? recording recordings
  have batches := filterMap_cons Recording.batch? recording recordings
  have hits := Multiset.countP_cons (fun recording => recording.isHit = true) recording recordings
  have misses :=
    Multiset.countP_cons (fun recording => recording.isMiss = true) recording recordings
  simp only [account, requests, errors, batches, hits, misses]
  cases recording with
  | request duration => simp [Durations.record_ofMultiset, Nat.add_right_comm]
  | error kind => simp [Tally.bump_ofMultiset, Nat.add_assoc]
  | hit => rfl
  | miss => rfl
  | batch duration items => simp [Durations.record_ofMultiset, Nat.add_comm]

/-! ## Runs -/

/-- What can be done to a collector. -/
inductive Deed where
  | record (recording : Recording)
  /-- A failure is recorded that names no kind. -/
  | recordFailure
  | reset (now : Nat)

namespace Deed

def perform : Deed → Collector → Collector
  | record recording => recording.enter
  | recordFailure => (·.recordError Collector.unknownKind)
  | reset now => (·.reset now)

/-- The recordings since the last reset. -/
def recorded (recordings : Multiset Recording) : Deed → Multiset Recording
  | record recording => recording ::ₘ recordings
  | recordFailure => .error Collector.unknownKind ::ₘ recordings
  | reset _ => 0

end Deed

/-- Deeds one after another. -/
def Collector.run (deeds : List Deed) (collector : Collector) : Collector :=
  deeds.foldl (fun collector deed => deed.perform collector) collector

/-- The recordings since the last reset, after deeds one after another. -/
def recordedBy (deeds : List Deed) : Multiset Recording := deeds.foldl Deed.recorded 0

variable {collector : Collector} {recordings : Multiset Recording}

/-- A collector that starts over has recorded nothing. -/
theorem figures_reset (now : Nat) (collector : Collector) :
    (collector.reset now).figures = account 0 := by
  simp only [account, Multiset.filterMap_zero, Tally.ofMultiset_zero]
  rfl

theorem figures_perform (same : collector.figures = account recordings) (deed : Deed) :
    (deed.perform collector).figures = account (deed.recorded recordings) := by
  cases deed with
  | record recording =>
      rw [Deed.recorded, account_cons, ← same]
      exact figures_enter recording collector
  | recordFailure =>
      rw [Deed.recorded, account_cons, ← same]
      exact figures_enter (.error Collector.unknownKind) collector
  | reset now => exact figures_reset now collector

theorem figures_run (same : collector.figures = account recordings) (deeds : List Deed) :
    (collector.run deeds).figures = account (deeds.foldl Deed.recorded recordings) := by
  induction deeds generalizing collector recordings with
  | nil => exact same
  | cons deed rest ih => exact ih (figures_perform same deed)

/-! ## The law -/

/-- The figures of a collector are those of its recordings, and agree with each other. -/
structure Aggregates (recordings : Multiset Recording) (figures : Figures) : Prop where
  /-- Nothing else matters, and so the order of the recordings does not. -/
  accounted : figures = account recordings
  total : figures.total = figures.successful + figures.failed
  failed : figures.failed = figures.errors.total
  requests : figures.durations.count = figures.successful
  batches : figures.batchDurations.count = figures.batches
  requestBounds : figures.durations.Bounded
  batchBounds : figures.batchDurations.Bounded

theorem aggregates_account (recordings : Multiset Recording) :
    Aggregates recordings (account recordings) where
  accounted := rfl
  total := rfl
  failed := (Tally.total_ofMultiset _).symm
  requests := rfl
  batches := Multiset.card_map _ _
  requestBounds := Durations.bounded_ofMultiset _
  batchBounds := Durations.bounded_ofMultiset _

/-- Whatever is done to a new collector, its figures are those of the recordings since the last
reset, in whatever order they came. -/
theorem order_of_recordings_without_influence (startedAt : Nat) (deeds : List Deed) :
    Aggregates (recordedBy deeds)
      (({ startedAt := startedAt } : Collector).run deeds).figures := by
  have start : ({ startedAt := startedAt } : Collector).figures = account 0 :=
    figures_reset startedAt {}
  rw [figures_run start deeds]
  exact aggregates_account _

end Metrics

end RiskGate
