import RiskGate.Proofs.Engine.Errands
import RiskGate.Proofs.Fingerprint

/-!
# What the cache of an engine says

Every entry of the cache goes back to a result that the service gave not long ago, for
an errand with the key of the entry.  Since keys tell operations and businesses apart, a
result that is found in the cache was given by the service for the same operation and the
same business, and is of the kind that the operation yields.

This holds of an engine together with the history of its results, and every errand that
is resumed preserves it.
-/

namespace RiskGate.Engine

open Pool (Progress)

/-! ## Keys -/

namespace Operation

theorem key_assess (request : Request) : assess.key request = Fingerprint.assessment request := by
  rw [key, Errand.key]

theorem key_predict (horizon : Nat) (request : Request) :
    (predict horizon).key request = Fingerprint.prediction request horizon := by
  rw [key, Errand.key]

/-- A key says for which operation and for which business it is. -/
theorem key_eq_iff {first second : Operation} {request request' : Request} :
    first.key request = second.key request' ↔
      first = second ∧ Fingerprint.SameBusiness request request' := by
  cases first with
  | assess =>
      cases second with
      | assess =>
          rw [key_assess, key_assess, eq_self, true_and]
          exact Fingerprint.assessment_eq_iff
      | predict horizon =>
          rw [key_assess, key_predict]
          constructor
          · intro same
            exact absurd same (Fingerprint.assessment_ne_prediction horizon)
          · rintro ⟨⟨⟩, _⟩
  | predict horizon =>
      cases second with
      | assess =>
          rw [key_predict, key_assess]
          constructor
          · intro same
            exact absurd same.symm (Fingerprint.assessment_ne_prediction horizon)
          · rintro ⟨⟨⟩, _⟩
      | predict horizon' =>
          rw [key_predict, key_predict, predict.injEq, and_comm]
          exact Fingerprint.prediction_eq_iff

theorem ofAnswer_toAnswer (operation : Operation) (value : operation.Result) :
    operation.ofAnswer (operation.toAnswer value) = some value := by
  cases operation <;> rfl

theorem toAnswer_of_ofAnswer {operation : Operation} {answer : Answer} {value : operation.Result}
    (kind : operation.ofAnswer answer = some value) : operation.toAnswer value = answer := by
  cases operation <;> cases answer <;> cases kind <;> rfl

end Operation

/-! ## Histories -/

/-- An earlier result that the service gave, for the same operation and the same
business, warrants a later one that it was given within a time to live. -/
structure Warrants (ttl : Span) (source hit : Yield) : Prop where
  origin : source.origin = .service
  operation : source.operation = hit.operation
  business : Fingerprint.SameBusiness source.request hit.request
  answer : source.answer = hit.answer
  earlier : source.instant ≤ hit.instant
  recent : nanosAt hit.instant < nanosAt source.instant + ttl.nanos

/-- Every result that came from the cache is warranted by one before it. -/
def Warranted (ttl : Span) (history : List Yield) : Prop :=
  ∀ before hit after, history = before ++ hit :: after → hit.origin = .cache →
    ∃ source ∈ before, Warrants ttl source hit

theorem Warranted.concat {ttl : Span} {history : List Yield} (warranted : Warranted ttl history)
    {yield : Yield}
    (last : yield.origin = .cache → ∃ source ∈ history, Warrants ttl source yield) :
    Warranted ttl (history ++ [yield]) := by
  intro before hit after split remembered
  rcases List.eq_nil_or_concat after with rfl | ⟨front, final, rfl⟩
  · obtain ⟨rfl, same⟩ := List.append_inj' split rfl
    obtain rfl := List.singleton_inj.mp same
    exact last remembered
  · have regrouped : history ++ [yield] = (before ++ hit :: front) ++ [final] := by
      rw [split]
      simp
    exact warranted before hit front (List.append_inj' regrouped rfl).1 remembered

/-- The result is what the service replied to a call. -/
def Yield.Backed (service : Service) (model : String) (calls : List Call) (yield : Yield) : Prop :=
  ∃ value begunAt readyAt, yield.answer = yield.operation.toAnswer value ∧
    readyAt ≤ yield.instant ∧
    Replied service model calls yield.operation yield.request begunAt readyAt (.ok value)

/-- The cache and the history of results agree. -/
structure Coherent (settings : Config.Settings) (service : Service) (history : List Yield)
    (now : Nat) (core : Core) : Prop where
  settings_eq : core.settings = settings
  service_eq : core.service = service
  lifetime : ∀ lifetime ∈ core.cache.lifetime?, lifetime.nanos ≤ settings.cacheTtl.nanos
  entries : ∀ entry ∈ core.cache.entries, ∃ source ∈ history, source.origin = .service ∧
    entry.key = source.operation.key source.request ∧ entry.value = source.answer ∧
    entry.expiresAt ≤ nanosAt source.instant + settings.cacheTtl.nanos
  past : ∀ yield ∈ history, yield.instant ≤ now
  backed : ∀ yield ∈ history, yield.origin = .service →
    yield.Backed service settings.execution.modelSelector core.calls
  warranted : Warranted settings.cacheTtl history

namespace Coherent

variable {settings : Config.Settings} {service : Service} {history : List Yield} {now : Nat}
variable {core : Core}

/-- A new engine has an empty cache, whose entries will live for the time to live at
most. -/
theorem make (settings : Config.Settings) (service : Service) (now : Nat) :
    Coherent settings service [] now (Core.make settings service) := by
  have cacheEq : (Core.make settings service).cache =
      if settings.cache.enabled then
        Cache.Store.make settings.cacheTtl settings.cache.maxSize settings.cleanupInterval
      else Cache.Store.none := rfl
  have shorter : (settings.cacheTtl.shorter Cache.longestLife).nanos ≤ settings.cacheTtl.nanos := by
    unfold Span.shorter
    split
    · exact Nat.le_refl _
    · omega
  constructor
  · rfl
  · rfl
  · intro lifetime member
    rw [cacheEq] at member
    split at member
    · obtain rfl := Option.some.inj member
      exact shorter
    · cases member
  · intro entry member
    rw [cacheEq] at member
    split at member
    · exact absurd member List.not_mem_nil
    · exact absurd member List.not_mem_nil
  · exact fun yield member => absurd member List.not_mem_nil
  · exact fun yield member => absurd member List.not_mem_nil
  · intro before hit after split
    simp at split

/-- The time may pass. -/
theorem later (coherent : Coherent settings service history now core) {instant : Nat}
    (onward : now ≤ instant) : Coherent settings service history instant core :=
  { coherent with
    past := fun yield member => Nat.le_trans (coherent.past yield member) onward }

theorem backed_onward (coherent : Coherent settings service history now core) {after : Core}
    (onward : Core.Onward core after) : ∀ yield ∈ history, yield.origin = .service →
      yield.Backed service settings.execution.modelSelector after.calls := by
  intro yield member given
  obtain ⟨value, begunAt, readyAt, answer, ready, replied⟩ := coherent.backed yield member given
  exact ⟨value, begunAt, readyAt, answer, ready, replied.mono onward.calls⟩

/-- What adds nothing to the cache keeps it coherent. -/
theorem sheds (coherent : Coherent settings service history now core) {after : Core}
    (sheds : Core.Sheds core after) : Coherent settings service history now after where
  settings_eq := sheds.settings.trans coherent.settings_eq
  service_eq := sheds.service.trans coherent.service_eq
  lifetime := by
    rw [sheds.cache.lifetime]
    exact coherent.lifetime
  entries := fun entry member => coherent.entries entry (sheds.cache.entries entry member)
  past := coherent.past
  backed := coherent.backed_onward sheds.toOnward
  warranted := coherent.warranted

/-- What is found under the key of an operation and a request was given by the service
for them, and has not expired. -/
theorem found (coherent : Coherent settings service history now core) {operation : Operation}
    {request : Request} {instant : Nat} {answer : Answer}
    (found : (core.lookup instant (operation.key request)).2 = some answer) :
    ∃ source ∈ history, source.origin = .service ∧ source.operation = operation ∧
      Fingerprint.SameBusiness source.request request ∧ source.answer = answer ∧
      nanosAt instant < nanosAt source.instant + settings.cacheTtl.nanos := by
  rw [Core.lookup_snd] at found
  obtain ⟨entry, member, key, value, unexpired⟩ := core.cache.get_found found
  obtain ⟨source, known, given, sourceKey, answerEq, expires⟩ := coherent.entries entry member
  obtain ⟨sameOperation, business⟩ := Operation.key_eq_iff.mp (sourceKey.symm.trans key)
  exact ⟨source, known, given, sameOperation, business, answerEq.symm.trans value,
    Nat.lt_of_lt_of_le unexpired expires⟩

/-- What is found under the key of an operation is a result of the operation. -/
theorem kind (coherent : Coherent settings service history now core) {operation : Operation}
    {request : Request} {instant : Nat} {answer : Answer}
    (found : (core.lookup instant (operation.key request)).2 = some answer) :
    ∃ value, operation.ofAnswer answer = some value := by
  obtain ⟨source, member, given, rfl, _, rfl, _⟩ := coherent.found found
  obtain ⟨value, _, _, answer, _⟩ := coherent.backed source member given
  exact ⟨value, by rw [answer, Operation.ofAnswer_toAnswer]⟩

/-- A result that the cache gives is warranted. -/
theorem remember (coherent : Coherent settings service history now core) {operation : Operation}
    {errand : Errand operation} {value : operation.Result}
    (remembered : errand.remembered? now core = some value) :
    Coherent settings service
      (history ++ [⟨now, operation, errand.request, operation.toAnswer value, .cache⟩]) now
      (core.lookup now errand.key).1 := by
  let hit : Yield := ⟨now, operation, errand.request, operation.toAnswer value, .cache⟩
  have looked := coherent.sheds (core.sheds_lookup now errand.key)
  refine ⟨looked.settings_eq, looked.service_eq, looked.lifetime, ?_, ?_, ?_, ?_⟩
  · intro entry member
    obtain ⟨source, known, rest⟩ := looked.entries entry member
    exact ⟨source, List.mem_append_left _ known, rest⟩
  · intro yield member
    rcases List.mem_append.mp member with old | new
    · exact looked.past yield old
    · rw [List.mem_singleton.mp new]
  · intro yield member given
    rcases List.mem_append.mp member with old | new
    · exact looked.backed yield old given
    · rw [List.mem_singleton.mp new] at given
      cases given
  · apply looked.warranted.concat
    intro _
    unfold Errand.remembered? at remembered
    split at remembered
    next =>
      obtain ⟨answer, foundEq, kind⟩ := Option.bind_eq_some_iff.mp remembered
      rw [errand.key_eq] at foundEq
      obtain ⟨source, known, given, operationEq, business, answerEq, recent⟩ :=
        coherent.found foundEq
      have answerEq : source.answer = hit.answer :=
        answerEq.trans (Operation.toAnswer_of_ofAnswer kind).symm
      exact ⟨source, known, given, operationEq, business, answerEq, coherent.past source known,
        recent⟩
    next => cases remembered

/-- A result that the service gives is stored, and warrants what will be found. -/
theorem store (coherent : Coherent settings service history now core) {operation : Operation}
    {errand : Errand operation} {value : operation.Result} {after : Core}
    (answered : errand.Answered now value core after) :
    Coherent settings service
      (history ++ [⟨now, operation, errand.request, operation.toAnswer value, .service⟩]) now
      after := by
  let given : Yield := ⟨now, operation, errand.request, operation.toAnswer value, .service⟩
  obtain ⟨store, shed, storedEq⟩ := answered.stored
  have settings_eq := answered.onward.settings.trans coherent.settings_eq
  have service_eq := answered.onward.service.trans coherent.service_eq
  have lifetime : ∀ lifetime ∈ store.lifetime?, lifetime.nanos ≤ settings.cacheTtl.nanos := by
    rw [shed.lifetime]
    exact coherent.lifetime
  refine ⟨settings_eq, service_eq, ?_, ?_, ?_, ?_, ?_⟩
  · rw [storedEq, Cache.Store.set_lifetime]
    exact lifetime
  · intro entry member
    rw [storedEq] at member
    rcases store.mem_set member with old | ⟨life, lives, rfl⟩
    · obtain ⟨source, known, rest⟩ := coherent.entries entry (shed.entries entry old)
      exact ⟨source, List.mem_append_left _ known, rest⟩
    · refine ⟨given, List.mem_append_right _ (List.mem_singleton_self _), rfl, ?_, rfl, ?_⟩
      · exact errand.key_eq
      · exact Nat.add_le_add_left (lifetime life lives) _
  · intro yield member
    rcases List.mem_append.mp member with old | new
    · exact coherent.past yield old
    · rw [List.mem_singleton.mp new]
  · intro yield member isGiven
    rcases List.mem_append.mp member with old | new
    · exact coherent.backed_onward answered.onward yield old isGiven
    · rw [List.mem_singleton.mp new]
      obtain ⟨begunAt, readyAt, ready, replied⟩ := answered.replied
      rw [service_eq, Core.model, settings_eq] at replied
      exact ⟨value, begunAt, readyAt, rfl, ready, replied⟩
  · apply coherent.warranted.concat
    intro isHit
    cases isHit

/-- Resuming an errand keeps the cache and the history in agreement, and leaves behind
an errand whose reply is the service's if it waits. -/
theorem resume (coherent : Coherent settings service history now core) {operation : Operation}
    {errand : Errand operation} (genuine : errand.Genuine core) (cancelled : Bool) :
    Coherent settings service (history ++ errand.yields cancelled now core) now
        (errand.resume cancelled now core).1 ∧
      Core.Onward core (errand.resume cancelled now core).1 ∧
      ∀ next alarms, (errand.resume cancelled now core).2 = .suspended next alarms →
        next.Genuine (errand.resume cancelled now core).1 := by
  rcases errand.resume_cases now core cancelled genuine with
    ⟨value, remembered, resumeEq⟩ | ⟨notRemembered, outcome⟩
  · have yieldsEq : errand.yields cancelled now core =
        [⟨now, operation, errand.request, operation.toAnswer value, .cache⟩] := by
      simp [Errand.yields, resumeEq, remembered]
    rw [yieldsEq, resumeEq]
    refine ⟨coherent.remember remembered, (core.sheds_lookup now errand.key).toOnward, ?_⟩
    rintro next alarms ⟨⟩
  · unfold Errand.yields
    rw [notRemembered]
    generalize errand.resume cancelled now core = result at outcome
    obtain ⟨after, progress⟩ := result
    cases outcome with
    | answered value answered =>
        refine ⟨coherent.store answered, answered.onward, ?_⟩
        rintro next alarms ⟨⟩
    | failed failure sheds =>
        rw [List.append_nil]
        refine ⟨coherent.sheds sheds, sheds.toOnward, ?_⟩
        rintro next alarms ⟨⟩
    | waits next alarms sheds waiting =>
        rw [List.append_nil]
        refine ⟨coherent.sheds sheds, sheds.toOnward, ?_⟩
        rintro other _ ⟨⟩
        exact waiting

end Coherent

end RiskGate.Engine
