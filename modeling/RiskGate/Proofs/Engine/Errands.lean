import RiskGate.Proofs.Cache.Contents
import RiskGate.Proofs.Engine.Run

/-!
# What errands do to an engine

An errand that is resumed finds its result in the cache, or ends with what the service
replied to a call of its own, or fails, or waits for the reply.  Only in the second case
does it store anything, and then it stores its result, under its own key.

What the service replied is told by the calls that reached it: every call has a number,
and the reply is the service's reply to the call with that number.
-/

namespace RiskGate

/-- The breaker learns how a call has ended that it admitted. -/
def Breaker.learn {α : Type} (admission now : Nat) (outcome : Outcome α) (breaker : Breaker) :
    Breaker :=
  match outcome with
  | .ok _ => breaker.succeed admission
  | .error _ => breaker.fail admission now

namespace Engine

open Pool (Progress)

/-! ## Replies -/

/-- One of the calls that reached the service was for an operation and a request, and
this is what the service replied to it. -/
def Replied (service : Service) (model : String) (calls : List Call) (operation : Operation)
    (request : Request) (begunAt readyAt : Nat)
    (outcome : Except ServiceFailure operation.Result) : Prop :=
  ∃ number, calls.reverse[number]? = some ⟨begunAt, operation, model, request.businessName⟩ ∧
    (service.reply number operation model request).outcome = outcome ∧
    begunAt + (service.reply number operation model request).latency = readyAt

/-- Later calls do not change earlier replies. -/
theorem Replied.mono {service : Service} {model : String} {calls later : List Call}
    {operation : Operation} {request : Request} {begunAt readyAt : Nat}
    {outcome : Except ServiceFailure operation.Result}
    (replied : Replied service model calls operation request begunAt readyAt outcome)
    (onward : calls <:+ later) :
    Replied service model later operation request begunAt readyAt outcome := by
  obtain ⟨number, found, reply⟩ := replied
  obtain ⟨new, rfl⟩ := onward
  refine ⟨number, ?_, reply⟩
  rw [List.reverse_append, List.getElem?_append_left]
  · exact found
  · exact (List.getElem?_eq_some_iff.mp found).1

/-! ## Changes of what errands share -/

namespace Core

/-- The model that the service is asked for. -/
def model (core : Core) : String := core.settings.execution.modelSelector

/-- The settings and the service stay, and calls are only added. -/
structure Onward (before after : Core) : Prop where
  settings : after.settings = before.settings
  service : after.service = before.service
  calls : before.calls <:+ after.calls

/-- Besides, nothing comes into the cache. -/
structure Sheds (before after : Core) : Prop extends Onward before after where
  cache : before.cache.Sheds after.cache

variable {before middle after : Core}

theorem Onward.refl (core : Core) : Onward core core := ⟨rfl, rfl, List.suffix_refl _⟩

theorem Onward.trans (first : Onward before middle) (second : Onward middle after) :
    Onward before after where
  settings := second.settings.trans first.settings
  service := second.service.trans first.service
  calls := first.calls.trans second.calls

theorem Sheds.refl (core : Core) : Sheds core core := ⟨.refl core, .refl _⟩

theorem Sheds.trans (first : Sheds before middle) (second : Sheds middle after) :
    Sheds before after :=
  ⟨first.toOnward.trans second.toOnward, first.cache.trans second.cache⟩

/-- A change of the breaker, of the metrics and of the claims. -/
theorem Sheds.of_eq (settings : after.settings = before.settings)
    (service : after.service = before.service) (calls : after.calls = before.calls)
    (cache : after.cache = before.cache) : Sheds before after := by
  constructor
  · exact ⟨settings, service, [], calls.symm⟩
  · rw [cache]
    exact .refl _

section Books

variable (core : Core)

theorem sheds_record (change : Metrics.Collector → Metrics.Collector) :
    Sheds core (core.record change) :=
  .of_eq rfl rfl rfl rfl

/-- Recording an outcome touches the metrics and the claims. -/
theorem recordOnce_eq (slot : Option Nat) (change : Metrics.Collector → Metrics.Collector) :
    ∃ collector claimed, core.recordOnce slot change =
      { core with collector := collector, claimed := claimed } := by
  unfold recordOnce claim
  cases slot with
  | none => exact ⟨_, _, rfl⟩
  | some number =>
      dsimp only
      by_cases claimed : number ∈ core.claimed
      · rw [if_pos claimed]
        exact ⟨_, _, rfl⟩
      · rw [if_neg claimed]
        exact ⟨_, _, rfl⟩

theorem sheds_recordOnce (slot : Option Nat) (change : Metrics.Collector → Metrics.Collector) :
    Sheds core (core.recordOnce slot change) := by
  obtain ⟨_, _, recordEq⟩ := core.recordOnce_eq slot change
  rw [recordEq]
  exact .of_eq rfl rfl rfl rfl

theorem sheds_recordFailure (slot : Option Nat) (failure : Failure) :
    Sheds core (core.recordFailure slot failure) :=
  core.sheds_recordOnce slot _

theorem lookup_snd (now : Nat) (key : String) :
    (core.lookup now key).2 = (core.cache.get (nanosAt now) key).2 := by
  unfold lookup
  dsimp only
  split <;> rfl

theorem sheds_lookup (now : Nat) (key : String) : Sheds core (core.lookup now key).1 := by
  have looked : Sheds core { core with cache := (core.cache.get (nanosAt now) key).1 } :=
    ⟨⟨rfl, rfl, List.suffix_refl _⟩, core.cache.sheds_get _ _⟩
  unfold lookup
  dsimp only
  split
  · exact looked.trans (sheds_record _ _)
  · exact looked.trans (sheds_record _ _)

variable {core}

/-- A lookup touches the cache, and counts in the metrics as what it was. -/
theorem lookup_counts {looked : Core} {now : Nat} {key : String} {found : Option Answer}
    (lookup : core.lookup now key = (looked, found)) :
    ∃ cache, looked =
      { core with
        cache := cache
        collector := core.collector.map fun collector =>
          if found.isSome then collector.recordHit else collector.recordMiss } ∧
      core.cache.Sheds cache := by
  unfold Core.lookup at lookup
  dsimp only at lookup
  split at lookup
  next hit =>
    obtain ⟨rfl, rfl⟩ := Prod.mk.inj lookup
    simp only [hit, if_true]
    exact ⟨_, rfl, core.cache.sheds_get _ _⟩
  next missed =>
    obtain ⟨rfl, rfl⟩ := Prod.mk.inj lookup
    simp only [missed]
    exact ⟨_, rfl, core.cache.sheds_get _ _⟩

end Books

end Core

/-! ## How an errand ends -/

/-- What the service replied, as the outcome of a call. -/
def Operation.outcomeOf (operation : Operation) :
    Except ServiceFailure operation.Result → Outcome operation.Result
  | .ok value => .ok value
  | .error cause => .error (.backend operation.name cause)

/-- The outcome of a call that is over. -/
def Flight.outcome {operation : Operation} (limit : Span) (flight : Flight operation.Result) :
    Deadline.Verdict → Outcome operation.Result
  | .cancelled => .error .cancelled
  | .ready => operation.outcomeOf flight.reply
  | .expired | .pending => .error (.deadlineExceeded limit)

/-- A call has reached the service and was answered, which the breaker learns. -/
def Core.called (now admission : Nat) (operation : Operation) (request : Request)
    (reply : Except ServiceFailure operation.Result) (core : Core) : Core :=
  { core with
    calls := ⟨now, operation, core.model, request.businessName⟩ :: core.calls
    breaker := core.breaker.learn admission (nanosAt now) (operation.outcomeOf reply) }

/-- A request that was not found asks the breaker and, once admitted, the service, which replies
at once: what it leaves behind, and how it ends. -/
def Core.sought (now : Nat) (operation : Operation) (request : Request) (core : Core) :
    Core × Outcome operation.Result :=
  match core.breaker.acquire (nanosAt now) with
  | (breaker, none) => ({ core with breaker := breaker }, .error .circuitOpen)
  | (breaker, some admission) =>
      let reply := (core.service.reply core.calls.length operation core.model request).outcome
      (({ core with breaker := breaker } : Core).called now admission operation request reply,
        operation.outcomeOf reply)

namespace Errand

variable {operation : Operation}
variable {cancelled : Bool} {now : Nat} {alarms : List Nat} {flight : Flight operation.Result}
variable {errand : Errand operation} {core : Core}

theorem proceed_pending
    (pending : Deadline.judge cancelled flight.readyAt flight.expiresAt now = .pending) :
    errand.proceed cancelled now alarms flight core =
      (core, .suspended { errand with flight := some flight } alarms) := by
  rw [proceed, pending]

/-- A call that is over ends its errand, and the breaker learns of it. -/
theorem proceed_over {verdict : Deadline.Verdict}
    (judged : Deadline.judge cancelled flight.readyAt flight.expiresAt now = verdict)
    (decided : verdict ≠ .pending) :
    errand.proceed cancelled now alarms flight core =
      errand.finish now flight.begunAt (flight.outcome core.settings.requestTimeout verdict)
        { core with
          breaker := core.breaker.learn flight.admission (nanosAt now)
            (flight.outcome core.settings.requestTimeout verdict) } := by
  rw [proceed, judged]
  cases verdict with
  | cancelled => rfl
  | ready =>
      rw [Flight.outcome]
      cases flight.reply <;> rfl
  | expired => rfl
  | pending => exact absurd rfl decided

/-- The service is asked, and replies at once. -/
theorem launch_prompt (errand : Errand operation) (admission : Nat)
    {reply : Reply operation.Result}
    (replied : core.service.reply core.calls.length operation core.model errand.request = reply)
    (prompt : reply.latency = 0) :
    errand.launch now admission core = errand.finish now now (operation.outcomeOf reply.outcome)
      (core.called now admission operation errand.request reply.outcome) := by
  have ready : Deadline.judge false (now + reply.latency)
      (Schedule.waitOver now core.settings.requestTimeout) now = .ready := by
    simp [Deadline.judge, prompt]
  have decided : Deadline.Verdict.ready ≠ .pending := by decide
  unfold launch
  dsimp only
  rw [show core.service.reply core.calls.length operation core.settings.execution.modelSelector
    errand.request = reply from replied]
  rw [proceed_over ready decided]
  rfl

theorem finish_snd (now begunAt : Nat) (outcome : RiskGate.Outcome operation.Result)
    (errand : Errand operation) (core : Core) :
    (errand.finish now begunAt outcome core).2 = .finished outcome := by
  cases outcome <;> rfl

end Errand

/-! ## Errands -/

/-- The key under which the result for a request is cached. -/
def Operation.key (operation : Operation) (request : Request) : String :=
  ({ request := request } : Errand operation).key

namespace Errand

variable {operation : Operation}

theorem key_eq (errand : Errand operation) : errand.key = operation.key errand.request := by
  cases operation <;> rfl

/-- The reply that an errand waits for is the service's. -/
def Genuine (core : Core) (errand : Errand operation) : Prop :=
  ∀ flight ∈ errand.flight, Replied core.service core.model core.calls operation errand.request
    flight.begunAt flight.readyAt flight.reply

theorem Genuine.fresh (core : Core) (request : Request) (slot : Option Nat) :
    Genuine core ({ request := request, slot := slot } : Errand operation) :=
  nofun

theorem Genuine.onward {before after : Core} (onward : Core.Onward before after)
    {errand : Errand operation} (genuine : errand.Genuine before) : errand.Genuine after := by
  intro flight member
  have model : after.model = before.model := by rw [Core.model, onward.settings, Core.model]
  rw [model, onward.service]
  exact (genuine flight member).mono onward.calls

/-- An errand is answered with what the service replied, and stores it. -/
structure Answered (now : Nat) (errand : Errand operation) (value : operation.Result)
    (before after : Core) : Prop where
  onward : Core.Onward before after
  replied : ∃ begunAt readyAt, readyAt ≤ now ∧
    Replied after.service after.model after.calls operation errand.request begunAt readyAt
      (.ok value)
  stored : ∃ store, before.cache.Sheds store ∧
    after.cache = store.set (nanosAt now) errand.key (operation.toAnswer value)

theorem Answered.of_sheds {now : Nat} {errand : Errand operation} {value : operation.Result}
    {before middle after : Core} (first : Core.Sheds before middle)
    (answered : errand.Answered now value middle after) :
    errand.Answered now value before after where
  onward := first.toOnward.trans answered.onward
  replied := answered.replied
  stored := by
    obtain ⟨store, shed, storedEq⟩ := answered.stored
    exact ⟨store, first.cache.trans shed, storedEq⟩

/-- What can come of an errand that the cache does not answer. -/
inductive Outcome (now : Nat) (errand : Errand operation) (before after : Core) :
    Progress (Errand operation) operation.Result → Prop where
  | answered (value : operation.Result) (answered : errand.Answered now value before after) :
      Outcome now errand before after (.finished (.ok value))
  | failed (failure : Failure) (sheds : Core.Sheds before after) :
      Outcome now errand before after (.finished (.error failure))
  | waits (next : Errand operation) (alarms : List Nat) (sheds : Core.Sheds before after)
      (genuine : next.Genuine after) :
      Outcome now errand before after (.suspended next alarms)

theorem Outcome.of_sheds {now : Nat} {errand : Errand operation} {before middle after : Core}
    {progress : Progress (Errand operation) operation.Result}
    (first : Core.Sheds before middle) (outcome : Outcome now errand middle after progress) :
    Outcome now errand before after progress := by
  cases outcome with
  | answered value answered => exact .answered value (.of_sheds first answered)
  | failed failure sheds => exact .failed failure (first.trans sheds)
  | waits next alarms sheds genuine => exact .waits next alarms (first.trans sheds) genuine

section Turns

variable (now : Nat) (errand : Errand operation) (core : Core)

/-- An errand ends with a failure. -/
theorem outcome_failure (begunAt : Nat) (failure : Failure) :
    Outcome now errand core (errand.finish now begunAt (.error failure) core).1
      (errand.finish now begunAt (.error failure) core).2 :=
  .failed failure (core.sheds_recordFailure errand.slot failure)

/-- An errand ends with a reply. -/
theorem outcome_success {begunAt readyAt : Nat} {value : operation.Result} (ready : readyAt ≤ now)
    (replied : Replied core.service core.model core.calls operation errand.request begunAt readyAt
      (.ok value)) :
    Outcome now errand core (errand.finish now begunAt (.ok value) core).1
      (errand.finish now begunAt (.ok value) core).2 := by
  let stored : Core :=
    { core with cache := core.cache.set (nanosAt now) errand.key (operation.toAnswer value) }
  obtain ⟨collector, claimed, recordEq⟩ := stored.recordOnce_eq errand.slot
    (·.recordRequest (Span.ofMillis (now - begunAt)))
  have finishEq : errand.finish now begunAt (.ok value) core =
      ({ stored with collector := collector, claimed := claimed }, .finished (.ok value)) := by
    rw [finish, ← recordEq]
  rw [finishEq]
  apply Outcome.answered
  constructor
  · exact ⟨rfl, rfl, List.suffix_refl _⟩
  · exact ⟨begunAt, readyAt, ready, replied⟩
  · exact ⟨core.cache, .refl _, rfl⟩

/-- Looking after a call that is under way. -/
theorem outcome_proceed (cancelled : Bool) (alarms : List Nat)
    {flight : Flight operation.Result}
    (replied : Replied core.service core.model core.calls operation errand.request flight.begunAt
      flight.readyAt flight.reply) :
    Outcome now errand core (errand.proceed cancelled now alarms flight core).1
      (errand.proceed cancelled now alarms flight core).2 := by
  have reported : Core.Sheds core (reportFailure now flight core) := .of_eq rfl rfl rfl rfl
  unfold proceed
  split
  · exact (errand.outcome_failure now _ _ _).of_sheds reported
  next judged =>
    have ready : flight.readyAt ≤ now := by
      unfold Deadline.judge at judged
      split at judged
      · cases judged
      · split at judged
        · assumption
        · split at judged <;> cases judged
    split
    next value reply =>
      rw [reply] at replied
      let told : Core := { core with breaker := core.breaker.succeed flight.admission }
      have sheds : Core.Sheds core told := .of_eq rfl rfl rfl rfl
      exact (errand.outcome_success now told ready replied).of_sheds sheds
    · exact (errand.outcome_failure now _ _ _).of_sheds reported
  · exact (errand.outcome_failure now _ _ _).of_sheds reported
  · apply Outcome.waits
    · exact .refl core
    · rintro other ⟨⟩
      exact replied

/-- Asking the service: the call is the latest one that reached it. -/
theorem outcome_launch (admission : Nat) :
    Outcome now errand core (errand.launch now admission core).1
      (errand.launch now admission core).2 := by
  let call : Call := ⟨now, operation, core.model, errand.request.businessName⟩
  have called : Core.Sheds core { core with calls := call :: core.calls } :=
    ⟨⟨rfl, rfl, List.suffix_cons _ _⟩, .refl _⟩
  refine (errand.outcome_proceed now _ false _ ?_).of_sheds called
  refine ⟨core.calls.length, ?_, rfl, rfl⟩
  change (call :: core.calls).reverse[core.calls.length]? = some call
  simp

/-- How an errand begins: it is answered from the cache, or cancelled, or refused by the
breaker, or goes to the service. -/
theorem resume_fresh (cancelled : Bool) (fresh : errand.flight = none) {looked : Core}
    {found : Option Answer} (lookup : core.lookup now errand.key = (looked, found)) :
    errand.resume cancelled now core =
      match found.bind operation.ofAnswer with
      | some value => (looked, .finished (.ok value))
      | none =>
          if cancelled then errand.finish now now (.error .cancelled) looked
          else
            match looked.breaker.acquire (nanosAt now) with
            | (breaker, none) =>
                errand.finish now now (.error .circuitOpen) { looked with breaker := breaker }
            | (breaker, some admission) =>
                errand.launch now admission { looked with breaker := breaker } := by
  unfold resume begin
  rw [fresh, lookup]
  dsimp only
  cases found.bind operation.ofAnswer with
  | some value => rfl
  | none =>
      dsimp only
      split
      · rfl
      · rcases looked.breaker.acquire (nanosAt now) with ⟨breaker, _ | admission⟩
        · rfl
        · rfl

/-- While the service answers at once, an errand that the cache does not answer ends at once. -/
theorem resume_prompt (fresh : errand.flight = none) {looked : Core} {found : Option Answer}
    (lookup : core.lookup now errand.key = (looked, found))
    (missed : found.bind operation.ofAnswer = none)
    (prompt : (looked.service.reply looked.calls.length operation looked.model
      errand.request).latency = 0) :
    errand.resume false now core =
      errand.finish now now (looked.sought now operation errand.request).2
        (looked.sought now operation errand.request).1 := by
  have begins := errand.resume_fresh now core false fresh lookup
  rw [missed] at begins
  rw [begins, Core.sought]
  rcases looked.breaker.acquire (nanosAt now) with ⟨breaker, _ | admission⟩
  · rfl
  · let admitted : Core := { looked with breaker := breaker }
    have replied : admitted.service.reply admitted.calls.length operation admitted.model
        errand.request = _ := rfl
    exact errand.launch_prompt admission replied prompt

/-- Everything that can come of resuming an errand: the cache answers it, or not. -/
theorem resume_cases (cancelled : Bool) (genuine : errand.Genuine core) :
    (∃ value, errand.remembered? now core = some value ∧
      errand.resume cancelled now core =
        ((core.lookup now errand.key).1, .finished (.ok value))) ∨
    (errand.remembered? now core = none ∧
      Outcome now errand core (errand.resume cancelled now core).1
        (errand.resume cancelled now core).2) := by
  unfold remembered? resume
  cases flying : errand.flight with
  | some flight =>
      right
      exact ⟨rfl, errand.outcome_proceed now core cancelled [] (genuine flight flying)⟩
  | none =>
      have looked := core.sheds_lookup now errand.key
      unfold begin
      dsimp only
      cases found : (core.lookup now errand.key).2.bind operation.ofAnswer with
      | some value => exact Or.inl ⟨value, rfl, rfl⟩
      | none =>
          refine Or.inr ⟨rfl, ?_⟩
          dsimp only
          split
          · exact (errand.outcome_failure now _ _ _).of_sheds looked
          · have asked : ∀ breaker, Core.Sheds core
                { (core.lookup now errand.key).1 with breaker := breaker } :=
              fun breaker => looked.trans (.of_eq rfl rfl rfl rfl)
            split
            · exact (errand.outcome_failure now _ _ _).of_sheds (asked _)
            · exact (errand.outcome_launch now _ _).of_sheds (asked _)

/-- Giving an errand up tells the breaker, and nobody else. -/
theorem sheds_abandon : Core.Sheds core (errand.abandon now core) := by
  unfold abandon
  split
  · exact .refl core
  · exact .of_eq rfl rfl rfl rfl

end Turns

end Errand

end Engine

end RiskGate
