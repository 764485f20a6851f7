import RiskGate.Proofs.Engine.OnceCounted
import RiskGate.Proofs.Pool.Desks
import Mathlib.Algebra.Order.BigOperators.Group.List

/-!
# The books of the parts agree

Four parts of an engine keep books: the breaker, the cache, the collector and the list of
calls that reached the service.  They are written at different moments of an errand, and
an errand may end at any of them, or be given up.

Still the books agree whenever no errand is at work: a call is counted by the breaker when
it is made, and settled there when the errand that made it ends or is given up, so that the
calls that are not settled are those in flight.  A success is recorded for an errand whose
slot is still free, because nobody else claims the slot before the errand ends.
-/

namespace RiskGate

/-! ## Totals of a breaker -/

namespace Breaker

/-- The totals of a breaker grew. -/
structure Adds (calls successes failures rejections : Nat) (before after : Breaker) : Prop where
  calls : after.calls = before.calls + calls
  successes : after.successes = before.successes + successes
  failures : after.failures = before.failures + failures
  rejections : after.rejections = before.rejections + rejections

variable (breaker : Breaker)

theorem adds_moveTo (target : Circuit) : Adds 0 0 0 0 breaker (breaker.moveTo target) := by
  unfold moveTo
  split
  · exact ⟨rfl, rfl, rfl, rfl⟩
  · exact ⟨rfl, rfl, rfl, rfl⟩

/-- A call is admitted and counted, or rejected and counted as such. -/
theorem adds_acquire (now : Nat) :
    (∃ generation, (breaker.acquire now).2 = some generation ∧
      Adds 1 0 0 0 breaker (breaker.acquire now).1) ∨
    ((breaker.acquire now).2 = none ∧ Adds 0 0 0 1 breaker (breaker.acquire now).1) := by
  have moved := breaker.adds_moveTo .halfOpen
  unfold acquire
  split
  · exact .inl ⟨_, rfl, rfl, rfl, rfl, rfl⟩
  · split
    · refine .inl ⟨_, rfl, ?_, moved.successes, moved.failures, moved.rejections⟩
      exact congrArg (· + 1) moved.calls
    · exact .inr ⟨rfl, rfl, rfl, rfl, rfl⟩
  · split
    · exact .inl ⟨_, rfl, rfl, rfl, rfl, rfl⟩
    · exact .inr ⟨rfl, rfl, rfl, rfl, rfl⟩

theorem adds_succeed (generation : Nat) : Adds 0 1 0 0 breaker (breaker.succeed generation) := by
  unfold succeed
  dsimp only
  split
  · exact ⟨rfl, rfl, rfl, rfl⟩
  · split
    · exact ⟨rfl, rfl, rfl, rfl⟩
    · obtain ⟨calls, successes, failures, rejections⟩ :=
        adds_moveTo { breaker with successes := breaker.successes + 1, failureRun := 0 } .closed
      exact ⟨calls, successes, failures, rejections⟩
    · exact ⟨rfl, rfl, rfl, rfl⟩

theorem adds_fail (generation now : Nat) : Adds 0 0 1 0 breaker (breaker.fail generation now) := by
  have noted : Adds 0 0 1 0 breaker
      { breaker with
        failures := breaker.failures + 1
        failureRun := min (breaker.failureRun + 1) longestRun
        lastFailure := some now } := ⟨rfl, rfl, rfl, rfl⟩
  unfold fail
  dsimp only
  split
  · exact ⟨rfl, rfl, rfl, rfl⟩
  · split
    · split
      · obtain ⟨calls, successes, failures, rejections⟩ := adds_moveTo _ .opened
        exact ⟨calls, successes, failures, rejections⟩
      · exact noted
    · obtain ⟨calls, successes, failures, rejections⟩ := adds_moveTo _ .opened
      exact ⟨calls, successes, failures, rejections⟩
    · exact noted

theorem adds_reset : Adds 0 0 0 0 breaker breaker.reset := by
  obtain ⟨calls, successes, failures, rejections⟩ := breaker.adds_moveTo .closed
  exact ⟨calls, successes, failures, rejections⟩

end Breaker

/-! ## Lookups of a cache -/

namespace Cache.Store

variable {V : Type} (store : Store V)

/-- The lookups of a cache so far, by whether anything was found. -/
def lookups : Nat × Nat := (store.stats.hits, store.stats.misses)

/-- A lookup is a hit and finds something, or is a miss and finds nothing. -/
theorem lookups_get (now : Nat) (key : String) :
    (∃ value, (store.get now key).2 = some value ∧
      (store.get now key).1.lookups = (store.lookups.1 + 1, store.lookups.2)) ∨
    ((store.get now key).2 = Option.none ∧
      (store.get now key).1.lookups = (store.lookups.1, store.lookups.2 + 1)) := by
  cases store with
  | absent misses => exact .inr ⟨rfl, rfl⟩
  | expiring cache sweeper =>
      simp only [get, Expiring.get]
      rcases cache.find? key with _ | entry
      · exact .inr ⟨rfl, rfl⟩
      · dsimp only
        split
        · exact .inr ⟨rfl, rfl⟩
        · exact .inl ⟨_, rfl, rfl⟩

theorem lookups_set (now : Nat) (key : String) (value : V) :
    (store.set now key value).lookups = store.lookups := by
  cases store with
  | absent misses => rfl
  | expiring cache sweeper => rfl

theorem lookups_clear_close : store.clear.close.lookups = store.lookups := by
  cases store with
  | absent misses => rfl
  | expiring cache sweeper => rfl

theorem lookups_elapse (start stop : Nat) : (store.elapse start stop).lookups = store.lookups := by
  cases store with
  | absent misses => rfl
  | expiring cache sweeper =>
      change (Store.expiring (sweeper.elapse start stop cache) sweeper).lookups = _
      unfold Sweeper.elapse
      split
      · rfl
      · rfl

end Cache.Store

namespace Engine

open Schedule (Actor Agenda Clockwork)
open Pool (Floor Batch Job Progress)
open Metrics (Collector)

/-! ## The books -/

/-- The books of the parts agree while some calls are in flight. -/
structure Accord (inFlight : Nat) (core : Core) (collector : Collector) : Prop where
  /-- The service was called as often as calls were admitted. -/
  invoked : core.calls.length = core.breaker.calls
  /-- An admitted call has succeeded, or has failed, or is in flight. -/
  settled : core.breaker.calls = core.breaker.successes + core.breaker.failures + inFlight
  successful : collector.successful = core.breaker.successes
  rejected : collector.errors.count FailureKind.circuitOpen.name = core.breaker.rejections
  lookups : (collector.hits, collector.misses) = core.cache.lookups
  ordered : collector.errors.Ordered

/-- There is a collector, whose books agree with the others. -/
def Core.Agreed (inFlight : Nat) (core : Core) : Prop :=
  ∃ collector, core.collector = some collector ∧ Accord inFlight core collector

namespace Core.Agreed

variable {core : Core} {inFlight : Nat}

theorem make {settings : Config.Settings} (service : Service)
    (enabled : settings.observability.metricsEnabled = true) :
    (Core.make settings service).Agreed 0 := by
  refine ⟨{}, ?_, rfl, rfl, rfl, rfl, ?_, List.Pairwise.nil⟩
  · change (if settings.observability.metricsEnabled = true then _ else _) = _
    rw [if_pos enabled]
  · change _ = (if settings.cache.enabled = true then _ else _ : Cache.Store Answer).lookups
    split <;> rfl

theorem lookup (agreed : core.Agreed inFlight) (now : Nat) (key : String) :
    (core.lookup now key).1.Agreed inFlight := by
  obtain ⟨collector, found, accord⟩ := agreed
  have before := accord.lookups
  unfold Core.lookup
  dsimp only
  rcases core.cache.lookups_get (nanosAt now) key with ⟨value, hit, looked⟩ | ⟨miss, looked⟩
  · rw [← before] at looked
    rw [hit]
    exact ⟨collector.recordHit, congrArg (Option.map _) found, accord.invoked, accord.settled,
      accord.successful, accord.rejected, looked.symm, accord.ordered⟩
  · rw [← before] at looked
    rw [miss]
    exact ⟨collector.recordMiss, congrArg (Option.map _) found, accord.invoked, accord.settled,
      accord.successful, accord.rejected, looked.symm, accord.ordered⟩

/-- A failure that is no rejection is recorded, or was recorded before. -/
theorem recordFailure (agreed : core.Agreed inFlight) (slot : Option Nat) {failure : Failure}
    (other : failure.kind ≠ .circuitOpen) : (core.recordFailure slot failure).Agreed inFlight := by
  obtain ⟨collector, found, accord⟩ := agreed
  unfold Core.recordFailure
  cases free : core.isFree slot with
  | false =>
      rw [core.recordOnce_of_taken free]
      exact ⟨collector, found, accord⟩
  | true =>
      rw [core.recordOnce_of_free free]
      have named : failure.kind.name ≠ FailureKind.circuitOpen.name :=
        fun same => other (FailureKind.name_injective same)
      refine ⟨_, congrArg (Option.map _) found, accord.invoked, accord.settled,
        accord.successful, ?_, accord.lookups, Tally.ordered_bump accord.ordered _⟩
      change (Tally.bump failure.kind.name collector.errors).count _ = _
      rw [Tally.count_bump accord.ordered, if_neg named]
      exact accord.rejected

/-- The breaker learns that a call in flight has failed. -/
theorem reportFailure (agreed : core.Agreed (inFlight + 1)) {operation : Operation} (now : Nat)
    (flight : Flight operation.Result) :
    (Errand.reportFailure now flight core).Agreed inFlight := by
  obtain ⟨collector, found, accord⟩ := agreed
  have adds := core.breaker.adds_fail flight.admission (nanosAt now)
  refine ⟨collector, found, ?_, ?_, ?_, ?_, accord.lookups, accord.ordered⟩
  · exact accord.invoked.trans adds.calls.symm
  · have settled := accord.settled
    change (core.breaker.fail _ _).calls =
      (core.breaker.fail _ _).successes + (core.breaker.fail _ _).failures + inFlight
    rw [adds.calls, adds.successes, adds.failures]
    omega
  · exact accord.successful.trans adds.successes.symm
  · exact accord.rejected.trans adds.rejections.symm

/-- A call in flight succeeds, and its success is recorded for a free slot. -/
theorem succeed (agreed : core.Agreed (inFlight + 1)) {operation : Operation}
    (errand : Errand operation) (free : core.isFree errand.slot = true)
    (now begunAt admission : Nat) (value : operation.Result) :
    (errand.finish now begunAt (.ok value)
      { core with breaker := core.breaker.succeed admission }).1.Agreed inFlight := by
  obtain ⟨collector, found, accord⟩ := agreed
  have adds := core.breaker.adds_succeed admission
  let stored : Core :=
    { core with
      breaker := core.breaker.succeed admission
      cache := core.cache.set (nanosAt now) errand.key (operation.toAnswer value) }
  have free_stored : stored.isFree errand.slot = true := free
  change (stored.recordOnce errand.slot _).Agreed inFlight
  rw [stored.recordOnce_of_free free_stored]
  refine ⟨_, congrArg (Option.map _) found, ?_, ?_, ?_, ?_, ?_, accord.ordered⟩
  · exact accord.invoked.trans adds.calls.symm
  · have settled := accord.settled
    change (core.breaker.succeed _).calls =
      (core.breaker.succeed _).successes + (core.breaker.succeed _).failures + inFlight
    rw [adds.calls, adds.successes, adds.failures]
    omega
  · exact (congrArg (· + 1) accord.successful).trans adds.successes.symm
  · exact accord.rejected.trans adds.rejections.symm
  · exact accord.lookups.trans (core.cache.lookups_set _ _ _).symm

/-- A call is rejected, and the rejection is recorded for a free slot. -/
theorem reject (agreed : core.Agreed inFlight) {operation : Operation} (errand : Errand operation)
    (free : core.isFree errand.slot = true) (now : Nat) {breaker : Breaker}
    (adds : Breaker.Adds 0 0 0 1 core.breaker breaker) :
    (errand.finish now now (.error .circuitOpen) { core with breaker := breaker }).1.Agreed
      inFlight := by
  obtain ⟨collector, found, accord⟩ := agreed
  let asked : Core := { core with breaker := breaker }
  have free_asked : asked.isFree errand.slot = true := free
  change (asked.recordOnce errand.slot _).Agreed inFlight
  rw [asked.recordOnce_of_free free_asked]
  refine ⟨_, congrArg (Option.map _) found, ?_, ?_, ?_, ?_, accord.lookups,
    Tally.ordered_bump accord.ordered _⟩
  · exact accord.invoked.trans adds.calls.symm
  · have settled := accord.settled
    change breaker.calls = breaker.successes + breaker.failures + inFlight
    rw [adds.calls, adds.successes, adds.failures]
    omega
  · exact accord.successful.trans adds.successes.symm
  · change (Tally.bump FailureKind.circuitOpen.name collector.errors).count _ = breaker.rejections
    rw [Tally.count_bump accord.ordered, if_pos rfl, adds.rejections]
    exact congrArg (· + 1) accord.rejected

/-- A call is admitted and reaches the service. -/
theorem call (agreed : core.Agreed inFlight) {breaker : Breaker} (call : Call)
    (adds : Breaker.Adds 1 0 0 0 core.breaker breaker) :
    { core with breaker := breaker, calls := call :: core.calls }.Agreed (inFlight + 1) := by
  obtain ⟨collector, found, accord⟩ := agreed
  refine ⟨collector, found, ?_, ?_, ?_, ?_, accord.lookups, accord.ordered⟩
  · exact (congrArg (· + 1) accord.invoked).trans adds.calls.symm
  · have settled := accord.settled
    change breaker.calls = breaker.successes + breaker.failures + (inFlight + 1)
    rw [adds.calls, adds.successes, adds.failures]
    omega
  · exact accord.successful.trans adds.successes.symm
  · exact accord.rejected.trans adds.rejections.symm

/-- A change of the totals of no part. -/
theorem of_same {other : Core} (agreed : core.Agreed inFlight)
    (calls : other.calls = core.calls) (collector : other.collector = core.collector)
    (breaker : Breaker.Adds 0 0 0 0 core.breaker other.breaker)
    (cache : other.cache.lookups = core.cache.lookups) : other.Agreed inFlight := by
  obtain ⟨books, found, accord⟩ := agreed
  refine ⟨books, collector.trans found, ?_, ?_, ?_, ?_, ?_, accord.ordered⟩
  · rw [calls, breaker.calls]
    exact accord.invoked
  · rw [breaker.calls, breaker.successes, breaker.failures]
    exact accord.settled
  · rw [breaker.successes]
    exact accord.successful
  · rw [breaker.rejections]
    exact accord.rejected
  · rw [cache]
    exact accord.lookups

/-- The collector notes the size of a batch and how long it took. -/
theorem recordBatch (agreed : core.Agreed inFlight) (took : Span) (size : Nat) :
    (core.record (·.recordBatch took size)).Agreed inFlight := by
  obtain ⟨collector, found, accord⟩ := agreed
  exact ⟨collector.recordBatch took size, congrArg (Option.map _) found, accord.invoked,
    accord.settled, accord.successful, accord.rejected, accord.lookups, accord.ordered⟩

/-- Recording for a batch, whose failed items without a claim are no rejections. -/
theorem recount (agreed : core.Agreed inFlight) {slot : Nat} {items : List (Outcome Assessment)}
    (others : ∀ (index : Nat) (failure : Failure), items[index]? = some (.error failure) →
      core.isFree (some (slot + index)) = true → failure.kind ≠ .circuitOpen) :
    (Engine.recount slot items core).Agreed inFlight := by
  induction items generalizing slot core with
  | nil => exact agreed
  | cons item rest ih =>
      have shifted : ∀ index, slot + (index + 1) = slot + 1 + index := by omega
      cases item with
      | ok value =>
          refine ih agreed fun index failure found free => ?_
          rw [← shifted] at free
          exact others (index + 1) failure found free
      | error failure =>
          refine ih ?_ fun index other found free => ?_
          · cases free : core.isFree (some slot) with
            | true => exact agreed.recordFailure _ (others 0 failure rfl free)
            | false =>
                unfold Core.recordFailure
                rw [core.recordOnce_of_taken free]
                exact agreed
          · rw [isFree_recordFailure core (by omega), ← shifted] at free
            exact others (index + 1) other found free

end Core.Agreed

/-! ## Errands -/

namespace Errand

variable {operation : Operation}

/-- The call of an errand that is in flight, as a number. -/
def inFlight (errand : Errand operation) : Nat := if errand.flight.isSome then 1 else 0

/-- The call that is left in flight when an errand was resumed, as a number. -/
def leftInFlight : Progress (Errand operation) operation.Result → Nat
  | .finished _ => 0
  | .suspended errand _ => errand.inFlight

variable {core : Core} {others : Nat}

theorem leftInFlight_finish (errand : Errand operation) (now begunAt : Nat)
    (outcome : RiskGate.Outcome operation.Result) (core : Core) :
    leftInFlight (errand.finish now begunAt outcome core).2 = 0 := by
  cases outcome <;> rfl

/-- Looking after a call keeps the books in accord. -/
theorem agreed_proceed (agreed : core.Agreed (others + 1)) (errand : Errand operation)
    (free : core.isFree errand.slot = true) (cancelled : Bool) (now : Nat) (alarms : List Nat)
    (flight : Flight operation.Result) :
    (errand.proceed cancelled now alarms flight core).1.Agreed
      (others + leftInFlight (errand.proceed cancelled now alarms flight core).2) := by
  have failed : ∀ failure : Failure, failure.kind ≠ .circuitOpen →
      (errand.finish now flight.begunAt (.error failure)
        (reportFailure now flight core)).1.Agreed others :=
    fun failure other => (agreed.reportFailure now flight).recordFailure _ other
  unfold proceed
  split
  · rw [leftInFlight_finish]
    exact failed _ (by decide)
  · split
    · rw [leftInFlight_finish]
      exact agreed.succeed errand free now flight.begunAt flight.admission _
    · rw [leftInFlight_finish]
      exact failed _ (by simp [Failure.kind])
  · rw [leftInFlight_finish]
    exact failed _ (by simp [Failure.kind])
  · exact agreed

/-- Resuming an errand whose slot is free keeps the books in accord. -/
theorem agreed_resume (errand : Errand operation)
    (agreed : core.Agreed (others + errand.inFlight)) (free : core.isFree errand.slot = true)
    (cancelled : Bool) (now : Nat) :
    (errand.resume cancelled now core).1.Agreed
      (others + leftInFlight (errand.resume cancelled now core).2) := by
  unfold resume
  unfold inFlight at agreed
  cases flightEq : errand.flight with
  | some flight =>
      rw [flightEq] at agreed
      exact agreed_proceed agreed errand free cancelled now [] flight
  | none =>
      rw [flightEq] at agreed
      have looked := Core.Agreed.lookup agreed now errand.key
      have stillFree : (core.lookup now errand.key).1.isFree errand.slot = true := by
        have silent : Core.Records errand.slot [] core (core.lookup now errand.key).1 :=
          core.records_lookup now errand.key
        rw [Core.isFree, silent.claimed]
        exact free
      unfold begin
      dsimp only
      split
      · exact looked
      · split
        · rw [leftInFlight_finish]
          exact looked.recordFailure _ (by decide)
        · rcases (core.lookup now errand.key).1.breaker.adds_acquire (nanosAt now) with
            ⟨generation, admitted, adds⟩ | ⟨rejected, adds⟩
          · rw [admitted]
            exact agreed_proceed (looked.call _ adds) errand stillFree false now _ _
          · rw [rejected]
            dsimp only
            rw [leftInFlight_finish]
            exact looked.reject errand stillFree now adds

/-- An errand that is given up is settled with the breaker. -/
theorem agreed_abandon (errand : Errand operation)
    (agreed : core.Agreed (others + errand.inFlight)) (now : Nat) :
    (errand.abandon now core).Agreed others := by
  unfold abandon
  unfold inFlight at agreed
  cases flightEq : errand.flight with
  | some flight =>
      rw [flightEq] at agreed
      exact Core.Agreed.reportFailure agreed now flight
  | none =>
      rw [flightEq] at agreed
      exact agreed

end Errand

/-! ## Calls in flight -/

/-- The call of a guest that is in flight, as a number. -/
def Guest.inFlight (guest : Guest) : Nat :=
  match guest.state with
  | .running errand => errand.inFlight
  | .answered .. => 0

/-- The call that is in flight for a job that was begun, as a number. -/
def jobInFlight (job? : Option (Job (Errand .assess))) : Nat :=
  (job?.map (·.task.inFlight)).getD 0

/-- The calls of an engine that are in flight: those of its guests, and those for the jobs
that its workers have begun. -/
def inFlight (engine : Engine) : Nat :=
  (engine.guests.map Guest.inFlight).sum + (engine.floor.begun.map jobInFlight).sum

theorem inFlight_of {operation : Operation} (scope now : Nat)
    (progress : Progress (Errand operation) operation.Result) :
    (Guest.mk scope operation (.of now progress)).inFlight = Errand.leftInFlight progress := by
  cases progress <;> rfl

theorem jobInFlight_jobLeft (job : Job (Errand .assess))
    (progress : Progress (Errand .assess) Assessment) :
    jobInFlight (Floor.jobLeft job progress) =
      @Errand.leftInFlight .assess progress := by
  cases progress <;> rfl

/-- A sum over a list is what one item adds and what the others add. -/
theorem exists_others {α : Type} (f : α → Nat) {items : List α} {index : Nat} {old : α}
    (found : items[index]? = some old) :
    ∃ others, (items.map f).sum = others + f old ∧
      ∀ new, ((items.set index new).map f).sum = others + f new := by
  have most : f old ≤ (items.map f).sum :=
    List.single_le_sum (fun _ _ => Nat.zero_le _) _
      (List.mem_map_of_mem (List.mem_of_getElem? found))
  refine ⟨(items.map f).sum - f old, by omega, fun new => ?_⟩
  have replaced := Pool.sum_map_set f found new
  omega

/-! ## The engine -/

/-- The books of the parts of an engine agree. -/
def Balanced (engine : Engine) : Prop := engine.core.Agreed engine.inFlight

namespace Balanced

variable {log : Log} {engine start next : Engine}

theorem make {settings : Config.Settings} (service : Service)
    (enabled : settings.observability.metricsEnabled = true) :
    (make settings service).Balanced := by
  have none : (Engine.make settings service).inFlight = 0 := by
    simp [inFlight, Engine.make, Floor.make, Floor.begun, Pool.Desk.begun?, jobInFlight]
  rw [Balanced, none]
  exact .make service enabled

/-- No errand is resumed or given up. -/
theorem still (agreed : next.core.Agreed start.inFlight) (guests : next.guests = start.guests)
    (begun : next.floor.begun = start.floor.begun) : next.Balanced := by
  rw [Balanced, inFlight, guests, begun]
  exact agreed

theorem onAgenda (balanced : engine.Balanced) (change : Agenda → Agenda) :
    (engine.onAgenda change).Balanced :=
  still balanced rfl rfl

/-- The pool goes about its affairs. -/
theorem calm (balanced : start.Balanced)
    (calm : Floor.Calm (fun _ => True) start.floor next.floor) (guests : next.guests = start.guests)
    (begun : next.floor.begun = start.floor.begun) : next.Balanced := by
  have core : next.core = start.core := calm.shared
  apply still _ guests begun
  rw [core]
  exact balanced

/-! ### Single requests -/

theorem runGuest (balanced : engine.Balanced) {number scope : Nat} {operation : Operation}
    {errand : Errand operation}
    (found : engine.guests[number]? = some ⟨scope, operation, .running errand⟩)
    (alone : errand.slot = none) : (engine.runGuest number scope errand).Balanced := by
  obtain ⟨others, guests, guestsSet⟩ := exists_others Guest.inFlight found
  obtain ⟨change, floorEq, _⟩ := engine.runGuest_floor number scope errand
  let jobs := (engine.floor.begun.map jobInFlight).sum
  have free : engine.core.isFree errand.slot = true := by
    rw [alone]
    rfl
  have agreed : engine.core.Agreed (others + jobs + errand.inFlight) := by
    rw [Nat.add_right_comm]
    change engine.core.Agreed (others + (Guest.mk scope operation (.running errand)).inFlight + jobs)
    rw [← guests]
    exact balanced
  have resumed := errand.agreed_resume agreed free (engine.isCancelled scope) engine.now
  have count : (engine.runGuest number scope errand).inFlight = others + jobs +
      Errand.leftInFlight (errand.resume (engine.isCancelled scope) engine.now engine.core).2 := by
    rw [inFlight, runGuest_guests, guestsSet, inFlight_of, floorEq]
    exact Nat.add_right_comm _ _ _
  rw [Balanced, runGuest_core, count]
  exact resumed

theorem ask (balanced : engine.Balanced) (operation : Operation) (scope : Nat)
    (request : Request) : (engine.after (.ask operation scope request)).Balanced := by
  let errand : Errand operation := { request := request }
  let entered := engine.entered operation scope request
  have count : entered.inFlight = engine.inFlight := by
    change ((engine.guests ++ [_]).map Guest.inFlight).sum + _ = _
    rw [List.map_append, List.sum_append]
    rfl
  have enteredBalanced : entered.Balanced := by
    rw [Balanced, count]
    exact balanced
  have alone : errand.slot = none := rfl
  exact enteredBalanced.runGuest List.getElem?_concat_length alone

theorem guestTurn (kept : Kept log engine) (balanced : engine.Balanced) (number : Nat) :
    (engine.after (.turn (.guest number))).Balanced := by
  have rested : (engine.unready (.guest number)).Balanced := balanced.onAgenda _
  have afterEq : engine.after (.turn (.guest number)) =
      (engine.unready (.guest number)).guestTurn number := rfl
  rw [afterEq, Engine.guestTurn]
  rcases found : (engine.unready (.guest number)).guests[number]? with
    _ | ⟨scope, operation, errand | ⟨outcome, instant⟩⟩
  · exact rested
  · exact rested.runGuest found (kept.recorded.guests number _ found).2
  · exact rested

/-! ### Jobs -/

/-- A job that was not begun has asked nobody. -/
theorem fresh {plan : Nat → List (Errand .assess)}
    {floor : Floor Core (Errand .assess) Assessment} {rounds : List Rounds} {nextSlot : Nat}
    (orderly : Orderly plan none floor rounds nextSlot) {index : Nat} {job : Job (Errand .assess)}
    (found : floor.desks[index]? = some (.handed job)) (live : floor.isCancelled job.scope = false) :
    job.task.flight = none := by
  obtain ⟨history, sound⟩ := orderly.sound
  have stems := orderly.traced.handed job (List.mem_of_getElem? found)
  have undelivered := sound.accounted.undelivered found rfl
  obtain ⟨caller, batch, place, batching, _, _, planned⟩ :=
    orderly.traced.underway stems live undelivered
  obtain ⟨number, round, roundFound, rfl⟩ := orderly.matched caller batch batching
  obtain ⟨⟨requests, planEq, _⟩, _⟩ := orderly.given number round roundFound
  rw [planEq] at planned
  obtain ⟨_, _, taskEq⟩ := errands_getElem? planned
  rw [taskEq]

theorem workerTurn (kept : Kept log engine) (balanced : engine.Balanced) (index : Nat) :
    (engine.after (.turn (.worker index))).Balanced := by
  obtain ⟨⟨plan, orderly⟩, recorded⟩ := kept.unready (.worker index)
  have rested : (engine.unready (.worker index)).Balanced := balanced.onAgenda _
  have afterEq : engine.after (.turn (.worker index)) =
      { engine.unready (.worker index) with
        floor := (engine.unready (.worker index)).floor.work index } := rfl
  rw [afterEq]
  generalize engine.unready (.worker index) = resting at orderly recorded rested ⊢
  let guests := (resting.guests.map Guest.inFlight).sum
  rcases resting.floor.work_cases index with
    ⟨_, calm, begun⟩ | ⟨_, job, busy, abandons⟩ | ⟨desk, job, found, seated, live, _, resumes⟩
  · exact rested.calm (calm fun _ => True) rfl begun
  · have there : resting.floor.begun[index]? = some (some job) := by
      rw [Floor.begun, List.getElem?_map, busy]
      rfl
    obtain ⟨others, jobs, jobsSet⟩ := exists_others jobInFlight there
    have agreed : resting.core.Agreed (guests + others + job.task.inFlight) := by
      rw [Nat.add_assoc]
      change resting.core.Agreed (guests + (others + jobInFlight (some job)))
      rw [← jobs]
      exact rested
    have core : (resting.floor.work index).shared = job.task.abandon resting.now resting.core :=
      abandons.shared
    change (resting.floor.work index).shared.Agreed
      (guests + ((resting.floor.work index).begun.map jobInFlight).sum)
    rw [core, abandons.begun, jobsSet]
    exact job.task.agreed_abandon agreed resting.now
  · obtain ⟨⟨_, _, _, _, forItem⟩, undelivered⟩ := orderly.resumed found seated live
    have free := recorded.unclaimed orderly forItem undelivered
    have there : resting.floor.begun[index]? = some desk.begun? := by
      rw [Floor.begun, List.getElem?_map, found]
      rfl
    have same : jobInFlight desk.begun? = job.task.inFlight := by
      cases desk with
      | busy other =>
          cases seated
          rfl
      | handed other =>
          cases seated
          rw [Errand.inFlight, fresh orderly found live]
          rfl
      | idle | gone => cases seated
    obtain ⟨others, jobs, jobsSet⟩ := exists_others jobInFlight there
    have agreed : resting.core.Agreed (guests + others + job.task.inFlight) := by
      rw [Nat.add_assoc, ← same, ← jobs]
      exact rested
    have core : (resting.floor.work index).shared =
        (job.task.resume false resting.now resting.core).1 := resumes.shared
    change (resting.floor.work index).shared.Agreed
      (guests + ((resting.floor.work index).begun.map jobInFlight).sum)
    rw [core, resumes.begun, jobsSet, jobInFlight_jobLeft, ← Nat.add_assoc]
    exact job.task.agreed_resume agreed free false resting.now

/-! ### Batches -/

/-- The pool itself rejects nothing in the name of the breaker. -/
theorem kind_ne_circuitOpen {failure : Failure} (ofPool : failure.isOfPool = true) :
    failure.kind ≠ .circuitOpen := by
  cases failure with
  | queueFull | submissionTimeout | cancelled | poolShutdown => exact nofun
  | circuitOpen | backend | deadlineExceeded | batchTooLarge | batch => cases ofPool

theorem conclude {caller : Nat} (unseen : Unseen log caller engine) (balanced : engine.Balanced) :
    (engine.conclude caller).Balanced := by
  obtain ⟨⟨plan, orderly⟩, recorded⟩ := unseen
  rcases engine.conclude_cases caller with
    ⟨batch, instant, number, round, ended, found, own, concludeEq, _⟩ | ⟨_, _, same | emptied⟩
  · rw [concludeEq]
    rw [← own] at ended
    have length : (engine.reported round batch.outcomes).length = round.size := by
      rw [reported, List.length_map]
      exact orderly.outcomes_length found ended
    have others : ∀ (index : Nat) (failure : Failure),
        (engine.reported round batch.outcomes)[index]? = some (.error failure) →
          engine.core.isFree (some (round.firstSlot + index)) = true →
            failure.kind ≠ .circuitOpen := by
      intro index failure itemFound free
      have inside : index < round.size := length ▸ (List.getElem?_eq_some_iff.mp itemFound).1
      rcases recorded.lost_or_ofPool orderly found ended inside itemFound free with lost | ofPool
      · rw [lost, Recorded.lostKind]
        split <;> decide
      · exact kind_ne_circuitOpen ofPool
    exact still ((balanced.recount others).recordBatch _ _) rfl rfl
  · rw [same]
    exact balanced
  · rw [emptied]
    exact still (balanced.of_same rfl rfl ⟨rfl, rfl, rfl, rfl⟩
      engine.core.cache.lookups_clear_close) rfl rfl

theorem askBatch (kept : Kept log engine) (balanced : engine.Balanced) (outer : Nat)
    (requests : List Request) : (engine.after (.askBatch outer requests)).Balanced := by
  have afterEq : engine.after (.askBatch outer requests) = (engine.askBatch outer requests).1 :=
    rfl
  rw [afterEq, askBatch_eq]
  split
  · exact still balanced rfl rfl
  · have handed : (engine.handed outer requests).Balanced := by
      refine balanced.calm (engine.calm_handed outer requests) rfl ?_
      exact congrArg (List.map Pool.Desk.begun?) (Floor.desks_executeBatch _ _ _ _)
    exact handed.conclude (kept.handed outer requests)

theorem callerTurn (kept : Kept log engine) (balanced : engine.Balanced) (caller : Nat) :
    (engine.after (.turn (.caller caller))).Balanced := by
  have rested : (engine.unready (.caller caller)).Balanced := balanced.onAgenda _
  have attended : ((engine.unready (.caller caller)).onFloor (·.attend caller)).Balanced := by
    refine rested.calm (Floor.calm_attend _ (only_true _) caller) rfl ?_
    exact congrArg (List.map Pool.Desk.begun?) (Floor.desks_attend caller _)
  exact attended.conclude (kept.attended caller)

theorem shutdown (kept : Kept log engine) (balanced : engine.Balanced) (limit : Span) :
    (engine.after (.shutdown limit)).Balanced := by
  have afterEq : engine.after (.shutdown limit) = (engine.shutdown limit).1 := rfl
  rw [afterEq, Engine.shutdown]
  split
  · exact still balanced rfl rfl
  · have closing : (engine.closing limit).Balanced := by
      refine balanced.calm (engine.floor.calm_shutdown limit) rfl ?_
      exact congrArg (List.map Pool.Desk.begun?) (Floor.desks_shutdown limit _)
    exact closing.conclude (kept.closing limit)

/-! ### Runs -/

/-- Every event keeps the books in accord, unless it starts the metrics over. -/
theorem after (kept : Kept log engine) (balanced : engine.Balanced) {event : Event}
    (goesOn : event.resets = false) : (engine.after event).Balanced := by
  cases event with
  | ask operation scope request => exact balanced.ask operation scope request
  | askBatch outer requests => exact balanced.askBatch kept outer requests
  | shutdown limit => exact balanced.shutdown kept limit
  | resetBreaker =>
      exact still (balanced.of_same rfl rfl engine.core.breaker.adds_reset rfl) rfl rfl
  | resetMetrics => cases goesOn
  | openScope | openChild parent | cancel scope | plan due scope => exact balanced.onAgenda _
  | pass instant =>
      exact still (balanced.of_same rfl rfl ⟨rfl, rfl, rfl, rfl⟩
        (engine.core.cache.lookups_elapse _ _)) rfl rfl
  | turn actor =>
      cases actor with
      | guest number => exact balanced.guestTurn kept number
      | worker index => exact balanced.workerTurn kept index
      | caller caller => exact balanced.callerTurn kept caller
      | dispatcher =>
          obtain ⟨⟨_, orderly⟩, _⟩ := kept.unready .dispatcher
          obtain ⟨_, sound⟩ := orderly.sound
          have rested : (engine.unready .dispatcher).Balanced := balanced.onAgenda _
          exact rested.calm (Floor.calm_dispatch _) rfl (Floor.begun_dispatch sound)
      | timer number =>
          obtain ⟨change, afterEq⟩ := engine.after_timer number
          rw [afterEq]
          exact balanced.onAgenda change

theorem run (kept : Kept log engine) (balanced : engine.Balanced) {events : List Event}
    (goesOn : ∀ event ∈ events, event.resets = false) : (engine.run events).Balanced := by
  induction events generalizing log engine with
  | nil => exact balanced
  | cons event rest ih =>
      have first := balanced.after kept (goesOn event List.mem_cons_self)
      exact ih (kept.after event) first fun other member =>
        goesOn other (List.mem_cons_of_mem _ member)

end Balanced

/-- In every run of an engine with metrics that are never started over, the books of the
service, the breaker, the cache and the collector agree. -/
theorem books_agree {settings : Config.Settings}
    (enabled : settings.observability.metricsEnabled = true) (service : Service)
    {events : List Event} (goesOn : ∀ event ∈ events, event.resets = false) :
    ∃ collector, ((make settings service).run events).core.collector = some collector ∧
      Accord ((make settings service).run events).inFlight
        ((make settings service).run events).core collector :=
  (Balanced.make service enabled).run (.make settings service) goesOn

/-- A guest and two items of a batch are under way when the batch is cancelled, and one of
the workers has noticed. -/
def halfGivenUp : List Event :=
  [.openScope, .openScope, .ask .assess 0 writings.1,
    .askBatch 1 [writings.1, { writings.1 with businessName := "Other" }], .turn .dispatcher,
    .turn (.worker 0), .turn (.worker 1), .cancel 1, .turn (.worker 0), .resetBreaker]

/-- A service that takes its time. -/
def slowService : Service := Script.service { otherwise := { latency := 50 } }

theorem books_agree_half_given_up :
    ((make {} slowService).run halfGivenUp).inFlight = 2 ∧
      ((make {} slowService).run halfGivenUp).core.calls.length = 3 ∧
      ∃ collector, ((make {} slowService).run halfGivenUp).core.collector = some collector ∧
        Accord ((make {} slowService).run halfGivenUp).inFlight
          ((make {} slowService).run halfGivenUp).core collector :=
  ⟨by decide +kernel, by decide +kernel,
    books_agree rfl slowService (by decide)⟩

end Engine

end RiskGate
