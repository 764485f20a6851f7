import RiskGate.Proofs.Engine.Run
import RiskGate.Proofs.Tally

/-!
# What the collector counts

The collector counts a request when its outcome is recorded.  A run comes with a log of
what was recorded, and for whom: for a guest, or for the item of a batch that has a slot.
A result that the cache gave is in the log too, although the collector does not count it.

Between two moments with no reset between them the counters grow by what the log says,
and by nothing else.  In the log an errand that ends is recorded unless its slot was
claimed before; so is every failed item of a batch that ends.
-/

namespace RiskGate

/-- Kinds of failures have different names. -/
theorem FailureKind.name_injective {first second : FailureKind} (same : first.name = second.name) :
    first = second := by
  cases first <;> cases second <;> first | rfl | exact absurd same (by decide)

namespace Engine

open Schedule (Actor Agenda Clockwork)
open Pool (Progress)
open Metrics (Collector)

/-! ## Verdicts -/

/-- What becomes of a request, as it is recorded. -/
inductive Verdict where
  /-- The cache gave the result, which is not counted. -/
  | remembered
  | succeeded
  | failed (kind : FailureKind)
deriving DecidableEq, Repr

namespace Verdict

/-- The collector counts the request. -/
def isCounted : Verdict → Bool
  | remembered => false
  | succeeded | failed _ => true

def isFailed : Verdict → Bool
  | remembered | succeeded => false
  | failed _ => true

/-- The verdict on an outcome that did not come from the cache. -/
def of {α : Type} : Outcome α → Verdict
  | .ok _ => succeeded
  | .error failure => failed failure.kind

end Verdict

/-- Whom a verdict is for. -/
inductive Subject where
  | guest (number : Nat)
  | item (slot : Nat)
deriving DecidableEq, Repr

theorem Subject.item_ne_guest (slot number : Nat) : Subject.item slot ≠ .guest number := by
  rintro ⟨⟩

theorem Subject.guest_ne_item (number slot : Nat) : Subject.guest number ≠ .item slot := by
  rintro ⟨⟩

/-- Verdicts by subject, the oldest first. -/
abbrev Log := List (Subject × Verdict)

/-- The verdicts for one subject. -/
def Log.story (subject : Subject) (log : Log) : List Verdict :=
  (log.filter (·.1 == subject)).map Prod.snd

/-- All verdicts. -/
def Log.verdicts (log : Log) : List Verdict := log.map Prod.snd

/-- The verdicts for one subject, as a log. -/
def Log.ofVerdicts (subject : Subject) (verdicts : List Verdict) : Log :=
  verdicts.map fun verdict => (subject, verdict)

namespace Log

theorem story_append (subject : Subject) (first second : Log) :
    story subject (first ++ second) = story subject first ++ story subject second := by
  simp [story]

theorem verdicts_append (first second : Log) :
    verdicts (first ++ second) = verdicts first ++ verdicts second :=
  List.map_append

@[simp] theorem verdicts_ofVerdicts (subject : Subject) (verdicts : List Verdict) :
    (ofVerdicts subject verdicts).verdicts = verdicts := by
  simp [Log.verdicts, ofVerdicts]

@[simp] theorem story_ofVerdicts (subject : Subject) (verdicts : List Verdict) :
    story subject (ofVerdicts subject verdicts) = verdicts := by
  induction verdicts with
  | nil => rfl
  | cons verdict rest ih =>
      rw [ofVerdicts, List.map_cons, story, List.filter_cons_of_pos (by simp), List.map_cons]
      exact congrArg (verdict :: ·) ih

theorem story_ofVerdicts_of_ne {subject other : Subject} (distinct : other ≠ subject)
    (verdicts : List Verdict) : story other (ofVerdicts subject verdicts) = [] := by
  induction verdicts with
  | nil => rfl
  | cons verdict rest ih =>
      rw [ofVerdicts, List.map_cons, story,
        List.filter_cons_of_neg (by simpa using distinct.symm)]
      exact ih

/-- A story begins. -/
theorem story_append_self {subject : Subject} {log : Log} (unheard : log.story subject = [])
    (verdicts : List Verdict) : (log ++ ofVerdicts subject verdicts).story subject = verdicts := by
  rw [story_append, unheard, story_ofVerdicts, List.nil_append]

/-- The stories of others stay as they are. -/
theorem story_append_other {subject other : Subject} (distinct : other ≠ subject) (log : Log)
    (verdicts : List Verdict) :
    (log ++ ofVerdicts subject verdicts).story other = log.story other := by
  rw [story_append, story_ofVerdicts_of_ne distinct, List.append_nil]

end Log

/-! ## Growth of the counters -/

/-- The counters grew by some verdicts. -/
structure Gains (verdicts : List Verdict) (before after : Collector) : Prop where
  total : after.total = before.total + verdicts.countP Verdict.isCounted
  successful : after.successful = before.successful + verdicts.count .succeeded
  failed : after.failed = before.failed + verdicts.countP Verdict.isFailed
  errors : before.errors.Ordered → after.errors.Ordered ∧ ∀ kind : FailureKind,
    after.errors.count kind.name = before.errors.count kind.name + verdicts.count (.failed kind)

namespace Gains

variable {before middle after : Collector} {first second : List Verdict}

/-- A change of other counters. -/
theorem of_eq (total : after.total = before.total)
    (successful : after.successful = before.successful) (failed : after.failed = before.failed)
    (errors : after.errors = before.errors) : Gains [] before after where
  total := total
  successful := successful
  failed := failed
  errors := by
    intro ordered
    rw [errors]
    exact ⟨ordered, fun _ => rfl⟩

theorem trans (earlier : Gains first before middle) (later : Gains second middle after) :
    Gains (first ++ second) before after where
  total := by
    rw [later.total, earlier.total, List.countP_append, Nat.add_assoc]
  successful := by
    rw [later.successful, earlier.successful, List.count_append, Nat.add_assoc]
  failed := by
    rw [later.failed, earlier.failed, List.countP_append, Nat.add_assoc]
  errors := by
    intro ordered
    obtain ⟨orderedMiddle, countMiddle⟩ := earlier.errors ordered
    obtain ⟨orderedAfter, countAfter⟩ := later.errors orderedMiddle
    refine ⟨orderedAfter, fun kind => ?_⟩
    rw [countAfter, countMiddle, List.count_append, Nat.add_assoc]

theorem recordRequest (duration : Span) (collector : Collector) :
    Gains [.succeeded] collector (collector.recordRequest duration) where
  total := rfl
  successful := rfl
  failed := rfl
  errors := fun ordered => ⟨ordered, fun _ => rfl⟩

theorem recordError (kind : FailureKind) (collector : Collector) :
    Gains [.failed kind] collector (collector.recordError kind.name) where
  total := rfl
  successful := rfl
  failed := rfl
  errors := by
    intro ordered
    refine ⟨Tally.ordered_bump ordered _, fun other => ?_⟩
    change (Tally.bump kind.name collector.errors).count other.name = _
    rw [Tally.count_bump ordered, List.count_singleton]
    by_cases same : kind = other
    · subst same
      simp
    · have named : kind.name ≠ other.name := fun eq => same (FailureKind.name_injective eq)
      simp [named, same]

end Gains

/-- The counters grew by some verdicts, if there are any. -/
def Tallied (verdicts : List Verdict) : Option Collector → Option Collector → Prop
  | some before, some after => Gains verdicts before after
  | none, none => True
  | some _, none | none, some _ => False

namespace Tallied

variable {before middle after : Option Collector} {first second : List Verdict}

theorem refl (collector : Option Collector) : Tallied [] collector collector := by
  cases collector with
  | none => trivial
  | some collector => exact .of_eq rfl rfl rfl rfl

theorem trans (earlier : Tallied first before middle) (later : Tallied second middle after) :
    Tallied (first ++ second) before after := by
  cases before <;> cases middle <;> cases after
  case none.none.none => trivial
  case some.some.some => exact Gains.trans earlier later
  all_goals first | exact earlier.elim | exact later.elim

/-- Recording something that counts for no request. -/
theorem of_silent {verdicts : List Verdict} (tallied : Tallied verdicts before middle)
    (silent : Tallied [] middle after) : Tallied verdicts before after := by
  have both := tallied.trans silent
  rwa [List.append_nil] at both

/-- A result that the cache gave is not counted. -/
theorem remembered (silent : Tallied [] before after) : Tallied [.remembered] before after := by
  cases before <;> cases after
  case none.none => trivial
  case some.some before after => exact ⟨silent.total, silent.successful, silent.failed, silent.errors⟩
  all_goals exact silent.elim

theorem map {change : Collector → Collector} {verdicts : List Verdict}
    (gains : ∀ collector, Gains verdicts collector (change collector))
    (collector : Option Collector) : Tallied verdicts collector (collector.map change) := by
  cases collector with
  | none => trivial
  | some collector => exact gains collector

end Tallied

/-! ## Recording -/

namespace Core

/-- Nobody claimed the slot. -/
def isFree (slot : Option Nat) (core : Core) : Bool :=
  slot.all (· ∉ core.claimed)

variable (core : Core) {slot : Option Nat}

theorem recordOnce_of_free (free : core.isFree slot = true) (change : Collector → Collector) :
    core.recordOnce slot change =
      { core with
        collector := core.collector.map change
        claimed := slot.toList ++ core.claimed } := by
  cases slot with
  | none => rfl
  | some number =>
      have absent : number ∉ core.claimed := by simpa [isFree] using free
      simp [recordOnce, claim, absent, record]

theorem recordOnce_of_taken (taken : core.isFree slot = false) (change : Collector → Collector) :
    core.recordOnce slot change = core := by
  cases slot with
  | none => cases taken
  | some number =>
      have present : number ∈ core.claimed := by simpa [isFree] using taken
      simp [recordOnce, claim, present]

/-- Some verdicts for a slot were recorded: the counters grew by them, and the slot is
claimed if one of them is counted. -/
structure Records (slot : Option Nat) (verdicts : List Verdict) (before after : Core) : Prop where
  tallied : Tallied verdicts before.collector after.collector
  claimed : after.claimed =
    (if verdicts.any Verdict.isCounted then slot.toList else []) ++ before.claimed

namespace Records

variable {before middle after : Core} {verdicts : List Verdict}

/-- A change that records nothing. -/
theorem of_silent (tallied : Tallied [] before.collector after.collector)
    (claimed : after.claimed = before.claimed) : Records slot [] before after :=
  ⟨tallied, claimed⟩

theorem refl (core : Core) : Records slot [] core core := .of_silent (.refl _) rfl

/-- What happens before does not matter if it records nothing. -/
theorem after_silent (silent : Records slot [] before middle)
    (records : Records slot verdicts middle after) : Records slot verdicts before after where
  tallied := silent.tallied.trans records.tallied
  claimed := by
    rw [records.claimed, silent.claimed]
    rfl

/-- What happens after does not matter if it records nothing. -/
theorem before_silent (records : Records slot verdicts before middle)
    (silent : Records slot [] middle after) : Records slot verdicts before after where
  tallied := records.tallied.of_silent silent.tallied
  claimed := by
    rw [silent.claimed, records.claimed]
    rfl

end Records

/-- A verdict is recorded unless the slot is claimed. -/
theorem records_recordOnce (slot : Option Nat) {change : Collector → Collector} {verdict : Verdict}
    (counted : verdict.isCounted = true)
    (gains : ∀ collector, Gains [verdict] collector (change collector)) :
    Records slot (if core.isFree slot then [verdict] else []) core (core.recordOnce slot change) := by
  cases free : core.isFree slot with
  | true =>
      rw [core.recordOnce_of_free free]
      constructor
      · exact .map gains _
      · simp [counted]
  | false =>
      rw [core.recordOnce_of_taken free]
      exact .refl core

theorem records_recordFailure (slot : Option Nat) (failure : Failure) :
    Records slot (if core.isFree slot then [.failed failure.kind] else []) core
      (core.recordFailure slot failure) :=
  core.records_recordOnce slot rfl (Gains.recordError failure.kind)

theorem records_lookup (now : Nat) (key : String) :
    Records slot [] core (core.lookup now key).1 := by
  have hit : ∀ collector : Collector, Gains [] collector collector.recordHit :=
    fun _ => .of_eq rfl rfl rfl rfl
  have miss : ∀ collector : Collector, Gains [] collector collector.recordMiss :=
    fun _ => .of_eq rfl rfl rfl rfl
  unfold lookup
  dsimp only
  split
  · exact .of_silent (.map hit _) rfl
  · exact .of_silent (.map miss _) rfl

end Core

/-! ## Errands -/

namespace Errand

variable {operation : Operation}

/-- The verdicts that are recorded when an errand is resumed. -/
def verdicts (cancelled : Bool) (now : Nat) (errand : Errand operation) (core : Core) :
    List Verdict :=
  match (errand.resume cancelled now core).2 with
  | .suspended .. => []
  | .finished outcome =>
      if (errand.remembered? now core).isSome then [.remembered]
      else if core.isFree errand.slot then [.of outcome] else []

/-- What can come of an errand that the cache does not answer: it ends and its outcome
is recorded, or it goes on. -/
inductive Course (cancelled : Bool) (errand : Errand operation) (before after : Core) :
    Progress (Errand operation) operation.Result → Prop where
  | ends (outcome : RiskGate.Outcome operation.Result)
      (ownFailure : ∀ failure, outcome = .error failure →
        failure.isOfPool = true → cancelled = true)
      (records : Core.Records errand.slot
        (if before.isFree errand.slot then [.of outcome] else []) before after) :
      Course cancelled errand before after (.finished outcome)
  | waits (flight : Flight operation.Result) (alarms : List Nat)
      (records : Core.Records errand.slot [] before after) :
      Course cancelled errand before after
        (.suspended { errand with flight := some flight } alarms)

section Turns

variable (cancelled : Bool) (now : Nat) (errand : Errand operation) {core : Core}

theorem Course.after_silent {cancelled : Bool} {errand : Errand operation}
    {before middle after : Core} {progress : Progress (Errand operation) operation.Result}
    (silent : Core.Records errand.slot [] before middle)
    (course : Course cancelled errand middle after progress) :
    Course cancelled errand before after progress := by
  have free : middle.isFree errand.slot = before.isFree errand.slot := by
    rw [Core.isFree, silent.claimed]
    rfl
  cases course with
  | ends outcome ownFailure records =>
      rw [free] at records
      exact .ends outcome ownFailure (silent.after_silent records)
  | waits flight alarms records => exact .waits flight alarms (silent.after_silent records)

/-- An errand ends. -/
theorem course_finish (begunAt : Nat) {outcome : RiskGate.Outcome operation.Result}
    (ownFailure : ∀ failure, outcome = .error failure → failure.isOfPool = true →
      cancelled = true) :
    Course cancelled errand core (errand.finish now begunAt outcome core).1
      (errand.finish now begunAt outcome core).2 := by
  cases outcome with
  | ok value =>
      let stored : Core :=
        { core with
          cache := core.cache.set (nanosAt now) errand.key (operation.toAnswer value) }
      have silent : Core.Records errand.slot [] core stored := .of_silent (.refl _) rfl
      have recorded := stored.records_recordOnce errand.slot rfl
        (Gains.recordRequest (Span.ofMillis (now - begunAt)))
      exact .ends _ ownFailure (silent.after_silent recorded)
  | error failure => exact .ends _ ownFailure (core.records_recordFailure errand.slot failure)

/-- A change of the breaker and of the calls records nothing. -/
theorem silent_of_eq {before after : Core} (collector : after.collector = before.collector)
    (claimed : after.claimed = before.claimed) : Core.Records errand.slot [] before after :=
  .of_silent (collector ▸ .refl _) claimed

/-- Looking after a call that is under way. -/
theorem course_proceed (alarms : List Nat) (flight : Flight operation.Result) :
    Course cancelled errand core (errand.proceed cancelled now alarms flight core).1
      (errand.proceed cancelled now alarms flight core).2 := by
  have reported : Core.Records errand.slot [] core (reportFailure now flight core) :=
    errand.silent_of_eq rfl rfl
  unfold proceed
  split
  next judged =>
    have isCancelled : cancelled = true := by
      unfold Deadline.judge at judged
      split at judged
      · assumption
      · split at judged
        · cases judged
        · split at judged <;> cases judged
    exact (errand.course_finish cancelled now _ fun _ _ _ => isCancelled).after_silent reported
  · split
    · have told : Core.Records errand.slot [] core
          { core with breaker := core.breaker.succeed flight.admission } :=
        errand.silent_of_eq rfl rfl
      refine (errand.course_finish cancelled now _ ?_).after_silent told
      rintro failure ⟨⟩
    · refine (errand.course_finish cancelled now _ ?_).after_silent reported
      rintro failure ⟨⟩ ofPool
      cases ofPool
  · refine (errand.course_finish cancelled now _ ?_).after_silent reported
    rintro failure ⟨⟩ ofPool
    cases ofPool
  · exact .waits flight alarms (.refl core)

/-- Asking the service. -/
theorem course_launch (admission : Nat) :
    Course false errand core (errand.launch now admission core).1
      (errand.launch now admission core).2 := by
  let call : Call :=
    ⟨now, operation, core.settings.execution.modelSelector, errand.request.businessName⟩
  have called : Core.Records errand.slot [] core { core with calls := call :: core.calls } :=
    errand.silent_of_eq rfl rfl
  exact (errand.course_proceed false now _ _).after_silent called

/-- Everything that can come of resuming an errand: the cache answers it, or not. -/
theorem course_resume (core : Core) :
    (∃ value, errand.remembered? now core = some value ∧
      errand.resume cancelled now core =
        ((core.lookup now errand.key).1, .finished (.ok value))) ∨
    (errand.remembered? now core = none ∧
      Course cancelled errand core (errand.resume cancelled now core).1
        (errand.resume cancelled now core).2) := by
  unfold remembered? resume
  cases errand.flight with
  | some flight => exact .inr ⟨rfl, errand.course_proceed cancelled now [] flight⟩
  | none =>
      have looked : Core.Records errand.slot [] core (core.lookup now errand.key).1 :=
        core.records_lookup now errand.key
      unfold begin
      dsimp only
      cases found : (core.lookup now errand.key).2.bind operation.ofAnswer with
      | some value => exact .inl ⟨value, rfl, rfl⟩
      | none =>
          refine .inr ⟨rfl, ?_⟩
          dsimp only
          split
          next isCancelled =>
            exact (errand.course_finish cancelled now _ fun _ _ _ => isCancelled).after_silent
              looked
          next notCancelled =>
            obtain rfl : cancelled = false := by simpa using notCancelled
            have asked : ∀ breaker, Core.Records errand.slot [] core
                { (core.lookup now errand.key).1 with breaker := breaker } :=
              fun breaker => looked.before_silent (.of_silent (.refl _) rfl)
            split
            · refine (errand.course_finish false now _ ?_).after_silent (asked _)
              rintro failure ⟨⟩ ofPool
              cases ofPool
            · exact (errand.course_launch now _).after_silent (asked _)

/-- Resuming an errand records its verdicts. -/
theorem records_resume (core : Core) :
    Core.Records errand.slot (errand.verdicts cancelled now core) core
      (errand.resume cancelled now core).1 := by
  rcases errand.course_resume cancelled now core with ⟨value, remembered, resumeEq⟩ |
    ⟨notRemembered, course⟩
  · have verdicts : errand.verdicts cancelled now core = [.remembered] := by
      simp [Errand.verdicts, resumeEq, remembered]
    have looked : Core.Records errand.slot [] core (core.lookup now errand.key).1 :=
      core.records_lookup now errand.key
    rw [verdicts, resumeEq]
    exact ⟨looked.tallied.remembered, looked.claimed⟩
  · unfold Errand.verdicts
    rw [notRemembered]
    generalize errand.resume cancelled now core = result at course
    obtain ⟨after, progress⟩ := result
    cases course with
    | ends outcome ownFailure records => exact records
    | waits flight alarms records => exact records

end Turns

end Errand

end Engine

end RiskGate
