import RiskGate.Metrics.Exposition
import RiskGate.Proofs.Tally
import Mathlib.Algebra.GroupWithZero.Nat
import Mathlib.Data.List.Nodup

/-!
# Series and their names

A series with a label is named after the value of the label, so that different values name
different series.  A family of counters that is exported from a tally has one series for each
label of the tally.

All names begin with the same twelve letters, and the families are told apart by the next one.
So a series is found by its name in whatever order the families are exported.
-/

namespace RiskGate.Metrics.Exposition

/-- Different values of a label name different series. -/
theorem labelled_injective (name label : String) : Function.Injective (labelled name label) := by
  intro first second same
  unfold labelled at same
  exact (String.append_right_inj _).mp ((String.append_left_inj _).mp same)

/-- The exported counters of a tally, one for each of its labels. -/
theorem nodup_names {tally : Tally} (ordered : tally.Ordered) (name label : String) :
    ((tally.map fun entry => (labelled name label entry.1, entry.2)).map Prod.fst).Nodup := by
  have distinct : (tally.map Prod.fst).Nodup :=
    List.pairwise_map.mpr (ordered.imp fun before => ne_of_lt before)
  rw [List.map_map]
  have named := distinct.map (labelled_injective name label)
  rwa [List.map_map] at named

/-- The exported counters of a tally add up to its total. -/
theorem sum_counters (tally : Tally) (name label : String) :
    ((tally.map fun entry => (labelled name label entry.1, entry.2)).map Prod.snd).sum =
      tally.total := by
  induction tally with
  | nil => rfl
  | cons entry rest ih =>
      obtain ⟨key, count⟩ := entry
      rw [List.map_cons, List.map_cons, List.sum_cons, ih]
      rfl

/-! ## Series by name -/

/-- The value of an exported counter, zero if there is none of that name. -/
def counted (name : String) (exposition : Exposition) : Nat :=
  (exposition.counters.lookup name).getD 0

/-- The samples of an exported histogram, none if there is none of that name. -/
def sampled (name : String) (exposition : Exposition) : List Float :=
  (exposition.histograms.lookup name).getD []

/-- The letter by which a family is told from the others. -/
def initial (name : String) : Option Char := name.toList[12]?

theorem initial_labelled {name : String} (long : 12 < name.toList.length) (label value : String) :
    initial (labelled name label value) = initial name := by
  unfold initial labelled
  simp only [String.toList_append, List.append_assoc]
  exact List.getElem?_append_left long

theorem ne_of_initial {name other : String} (differs : initial name ≠ initial other) :
    name ≠ other := fun same => differs (congrArg initial same)

@[simp] theorem lookup_counter_self (name : String) (touched : Bool) (value : Nat) :
    (counter touched name value).lookup name = if touched then some value else none := by
  unfold counter
  cases touched with
  | false => rfl
  | true => simp

@[simp] theorem lookup_counter_of_ne {name other : String} (distinct : name ≠ other)
    (touched : Bool) (value : Nat) : (counter touched other value).lookup name = none := by
  unfold counter
  cases touched with
  | false => rfl
  | true =>
      rw [if_pos rfl, List.lookup_cons, beq_false_of_ne distinct]
      rfl

@[simp] theorem lookup_histogram_self (name : String) (latestFirst : List Span) :
    ((histogram name latestFirst).lookup name).getD [] =
      latestFirst.reverse.map Span.seconds := by
  cases latestFirst with
  | nil => rfl
  | cons latest rest => simp [histogram]

@[simp] theorem lookup_histogram_of_ne {name other : String} (distinct : name ≠ other)
    (latestFirst : List Span) : (histogram other latestFirst).lookup name = none := by
  cases latestFirst with
  | nil => rfl
  | cons latest rest =>
      unfold histogram
      rw [List.isEmpty_cons, if_neg Bool.false_ne_true, List.lookup_cons, beq_false_of_ne distinct]
      rfl

/-- A counter of a tally is the count of its label. -/
theorem lookup_tally (tally : Tally) (name label key : String) :
    ((tally.map fun entry => (labelled name label entry.1, entry.2)).lookup
      (labelled name label key)).getD 0 = tally.count key := by
  induction tally with
  | nil => rfl
  | cons entry rest ih =>
      obtain ⟨other, n⟩ := entry
      rw [List.map_cons, List.lookup_cons, Tally.count]
      by_cases same : key = other
      · simp [same]
      · have named : (labelled name label key == labelled name label other) = false :=
          beq_false_of_ne fun eq => same (labelled_injective name label eq)
        rw [named, if_neg same]
        exact ih

/-- A counter of another family is none of a tally's. -/
@[simp] theorem lookup_tally_of_initial {other name : String} (long : 12 < name.toList.length)
    (differs : initial other ≠ initial name) (label : String) (tally : Tally) :
    (tally.map fun entry => (labelled name label entry.1, entry.2)).lookup other = none := by
  induction tally with
  | nil => rfl
  | cons entry rest ih =>
      have foreign : other ≠ labelled name label entry.1 :=
        ne_of_initial (by rwa [initial_labelled long])
      rw [List.map_cons, List.lookup_cons, beq_false_of_ne foreign]
      exact ih

/-! ## The series of a ledger -/

section Ledger

variable (ledger : Ledger)

/-- The counters of a ledger, by name, and its histograms. -/
structure Exports (exposition : Exposition) : Prop where
  succeeded : exposition.counted (labelled "risk_engine_requests_total" "outcome" "success") =
    ledger.requestDurations.length
  failed : exposition.counted (labelled "risk_engine_requests_total" "outcome" "error") =
    ledger.errors.total
  kinds : ∀ kind, exposition.counted (labelled "risk_engine_errors_total" "kind" kind) =
    ledger.errors.count kind
  hits : exposition.counted (labelled "risk_engine_cache_lookups_total" "result" "hit") =
    ledger.hits
  misses : exposition.counted (labelled "risk_engine_cache_lookups_total" "result" "miss") =
    ledger.misses
  items : exposition.counted "risk_engine_batch_items_total" =
    if ledger.batchDurations = [] then 0 else ledger.batchItems
  requestSamples : exposition.sampled "risk_engine_request_duration_seconds" =
    ledger.requestDurations.reverse.map Span.seconds
  batchSamples : exposition.sampled "risk_engine_batch_duration_seconds" =
    ledger.batchDurations.reverse.map Span.seconds

variable {ledger} {exposition : Exposition}

theorem exports (reasons : Tally)
    (counters : exposition.counters =
      (ofLedger ledger).counters ++ (ofRejections reasons).counters)
    (histograms : exposition.histograms = (ofLedger ledger).histograms) :
    Exports ledger exposition where
  succeeded := by
    simp (disch := decide) [counted, counters, ofLedger, ofRejections, List.lookup_append]
    cases ledger.requestDurations <;> rfl
  failed := by
    simp (disch := decide) [counted, counters, ofLedger, ofRejections, List.lookup_append]
    cases ledger.errors <;> rfl
  kinds := by
    intro kind
    let name := labelled "risk_engine_errors_total" "kind" kind
    have first : initial name = some 'e' := initial_labelled (by decide) _ _
    have apart : ∀ {other : String}, initial other ≠ some 'e' → name ≠ other := by
      intro other differs
      exact ne_of_initial (first ▸ differs.symm)
    have foreign : (ofRejections reasons).counters.lookup name = none :=
      lookup_tally_of_initial (by decide) (by rw [first]; decide) "reason" reasons
    simp (disch := exact apart (by decide)) only [counted, counters, ofLedger,
      List.lookup_append, lookup_counter_of_ne, Option.none_or, Option.or_none]
    rw [foreign, Option.or_none]
    exact lookup_tally ledger.errors _ _ kind
  hits := by
    simp (disch := decide) [counted, counters, ofLedger, ofRejections, List.lookup_append]
    cases ledger.hits <;> rfl
  misses := by
    simp (disch := decide) [counted, counters, ofLedger, ofRejections, List.lookup_append]
    cases ledger.misses <;> rfl
  items := by
    simp (disch := decide) [counted, counters, ofLedger, ofRejections, List.lookup_append]
    cases ledger.batchDurations <;> rfl
  requestSamples := by
    simp (disch := decide) [sampled, histograms, ofLedger, List.lookup_append]
  batchSamples := by
    simp (disch := decide) [sampled, histograms, ofLedger, List.lookup_append]

end Ledger

end RiskGate.Metrics.Exposition
