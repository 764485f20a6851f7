import RiskGate.Proofs.Engine.OnceCounted

/-!
# What a batch reports and what it counts

The verdicts on the items of a batch and its report are made at different times: an item
is counted when its errand ends, and reported when the batch does.  A batch whose scope is
cancelled before it has picked up an outcome reports the item as cancelled, or as too late,
although its errand may have been counted as something else.

So the counters and the report agree on a batch if and only if every item that is reported
as failed was counted under the kind of its failure.  Disagreements do not cancel out,
since all lost outcomes of a batch are reported under the same kind.
-/

namespace RiskGate.Engine

open Pool (Batch)

/-! ## Slots stay in their places -/

section Sizes

variable {log : Log} {engine : Engine} {plan : Nat → List (Errand .assess)}

/-- No batch changes its number of items, and batches are only added. -/
def Lasts (before after : Engine) : Prop :=
  before.rounds.map Rounds.size <+: after.rounds.map Rounds.size

theorem Lasts.of_eq {before after : Engine} (same : after.rounds = before.rounds) :
    Lasts before after :=
  ⟨[], (List.append_nil _).trans (congrArg (List.map Rounds.size) same.symm)⟩

theorem lasts_conclude {aside : Option Nat} {caller : Nat}
    (orderly : Orderly plan aside engine.floor engine.rounds engine.nextSlot) :
    Lasts engine (engine.conclude caller) := by
  rcases engine.conclude_cases caller with
    ⟨batch, instant, number, round, ended, found, own, concludeEq, _⟩ | ⟨_, _, same | emptied⟩
  · rw [← own] at ended
    have length : (engine.reported round batch.outcomes).length = round.size := by
      rw [reported, List.length_map]
      exact orderly.outcomes_length found ended
    have sizes := map_size_set found
      (show (Rounds.answered (.ok ⟨engine.reported round batch.outcomes⟩) engine.now).size = _
        from length)
    have roundsEq : (engine.concludeRound number round batch.outcomes).rounds.map Rounds.size =
        engine.rounds.map Rounds.size := sizes
    rw [concludeEq]
    exact ⟨[], (List.append_nil _).trans roundsEq.symm⟩
  · exact .of_eq (congrArg Engine.rounds same)
  · rw [emptied]
    exact .of_eq rfl

theorem lasts_askBatch (kept : Kept log engine) (outer : Nat) (requests : List Request) :
    Lasts engine (engine.askBatch outer requests).1 := by
  obtain ⟨⟨plan, orderly⟩, _⟩ := kept
  rw [askBatch_eq]
  cases engine.refusal? requests with
  | some outcome =>
      change engine.rounds.map _ <+: (engine.rounds ++ [Rounds.answered outcome engine.now]).map _
      rw [List.map_append]
      exact List.prefix_append _ _
  | none =>
      have entered : Lasts engine (engine.handed outer requests) := by
        change engine.rounds.map _ <+: (engine.rounds ++ [Rounds.running _]).map _
        rw [List.map_append]
        exact List.prefix_append _ _
      obtain ⟨_, ran, _⟩ := orderly.handed outer requests
      exact entered.trans (lasts_conclude ran)

theorem lasts_after (kept : Kept log engine) (event : Event) :
    Lasts engine (engine.after event) := by
  obtain ⟨plan, orderly⟩ := kept.orderly
  cases event with
  | ask operation scope request => exact .of_eq (runGuest_rounds _ _ _ _)
  | askBatch outer requests => exact lasts_askBatch kept outer requests
  | shutdown limit =>
      have afterEq : engine.after (.shutdown limit) = (engine.shutdown limit).1 := rfl
      rw [afterEq, shutdown]
      split
      · exact .of_eq rfl
      · have closing : Lasts (engine.closing limit)
            ((engine.closing limit).conclude (engine.floor.shutdown limit).2) :=
          lasts_conclude (orderly.shutdown limit)
        exact closing
  | resetBreaker | resetMetrics | openScope | openChild | cancel | plan | pass => exact .of_eq rfl
  | turn actor =>
      cases actor with
      | guest number =>
          have afterEq : engine.after (.turn (.guest number)) =
              (engine.unready (.guest number)).guestTurn number := rfl
          rw [afterEq, guestTurn]
          split
          · exact .of_eq (runGuest_rounds _ _ _ _)
          · exact .of_eq rfl
      | caller caller =>
          obtain ⟨plan, rested⟩ := (kept.unready (.caller caller)).orderly
          let attended : Engine := (engine.unready (.caller caller)).onFloor (·.attend caller)
          have concluded : Lasts attended (attended.conclude caller) :=
            lasts_conclude (rested.attend caller).1
          exact concluded
      | timer number =>
          obtain ⟨change, afterEq⟩ := engine.after_timer number
          rw [afterEq]
          exact .of_eq rfl
      | worker index => exact .of_eq rfl
      | dispatcher => exact .of_eq rfl

theorem lasts_run (kept : Kept log engine) (events : List Event) :
    Lasts engine (engine.run events) := by
  induction events generalizing log engine with
  | nil => exact .of_eq rfl
  | cons event rest ih => exact (lasts_after kept event).trans (ih (kept.after event))

/-- The batches that were there keep all slots up to their last one. -/
theorem Lasts.slotsBefore_length {before after : Engine} (lasts : Lasts before after) :
    slotsBefore before.rounds.length after.rounds = slots before.rounds := by
  have taken : (after.rounds.map Rounds.size).take before.rounds.length =
      before.rounds.map Rounds.size := by
    have prefixEq := List.prefix_iff_eq_take.mp lasts
    rw [List.length_map] at prefixEq
    exact prefixEq.symm
  rw [slotsBefore, slots, List.map_take, taken, slots]

/-- A batch that comes later has its slots behind those of the batches before it. -/
theorem Lasts.slots_le {before after : Engine} (lasts : Lasts before after) {number : Nat}
    (later : before.rounds.length ≤ number) :
    slots before.rounds ≤ slotsBefore number after.rounds := by
  rw [← lasts.slotsBefore_length]
  exact slotsBefore_mono _ later

/-- A batch keeps its number of items. -/
theorem Lasts.size_eq {before after : Engine} (lasts : Lasts before after) {number : Nat}
    {round another : Rounds} (found : before.rounds[number]? = some round)
    (still : after.rounds[number]? = some another) : another.size = round.size := by
  obtain ⟨later, sizes⟩ := lasts
  have inRange : number < (before.rounds.map Rounds.size).length := by
    rw [List.length_map]
    exact (List.getElem?_eq_some_iff.mp found).1
  have same : (after.rounds.map Rounds.size)[number]? = some round.size := by
    rw [← sizes, List.getElem?_append_left inRange, List.getElem?_map, found]
    rfl
  rw [List.getElem?_map, still] at same
  exact Option.some.inj same

end Sizes

/-! ## Items with their stories -/

/-- The items of a batch with what a log has for each of them. -/
def Log.accounts (first : Nat) (outcome : BatchOutcome) (log : Log) :
    List (Outcome Assessment × List Verdict) :=
  outcome.items.zipIdx.map fun (item, index) => (item, log.story (.item (first + index)))

/-- The item is reported with a result that the cache did not give. -/
def isServed (account : Outcome Assessment × List Verdict) : Bool :=
  BatchOutcome.answered account.1 && !account.2.contains .remembered

/-- The kind of a failure, where there is one. -/
def failureKind? : Outcome Assessment → Option FailureKind
  | .ok _ => none
  | .error failure => some failure.kind

/-- The item is reported with a failure of a kind. -/
def isFailed (kind : FailureKind) (account : Outcome Assessment × List Verdict) : Bool :=
  failureKind? account.1 == some kind

/-- The counters tell of a batch what the batch reports. -/
structure Agrees (accounts : List (Outcome Assessment × List Verdict)) : Prop where
  successful : (accounts.flatMap Prod.snd).count .succeeded = accounts.countP isServed
  errors : ∀ kind,
    (accounts.flatMap Prod.snd).count (.failed kind) = accounts.countP (isFailed kind)

/-- The item is counted as it is reported. -/
def Matches (account : Outcome Assessment × List Verdict) : Prop :=
  ∀ failure, account.1 = .error failure → .failed failure.kind ∈ account.2

section Counts

variable {story : List Verdict} {account : Outcome Assessment × List Verdict}

/-- Where one verdict counts, it is the only one that does. -/
theorem count_of_mem (once : story.countP Verdict.isCounted = 1) {verdict other : Verdict}
    (member : verdict ∈ story) (counts : verdict.isCounted = true)
    (alsoCounts : other.isCounted = true) :
    story.count other = if verdict = other then 1 else 0 := by
  rw [List.countP_eq_length_filter] at once
  obtain ⟨only, filterEq⟩ := List.length_eq_one_iff.mp once
  have isOnly : verdict = only := by
    have kept : verdict ∈ story.filter Verdict.isCounted := List.mem_filter.mpr ⟨member, counts⟩
    rw [filterEq] at kept
    exact List.mem_singleton.mp kept
  rw [← List.count_filter alsoCounts, filterEq, List.count_singleton, isOnly]
  simp

/-- An item that is counted as it is reported adds to the counters what it should. -/
theorem counts_of_matches (reported : Reported account.2 account.1) (matched : Matches account) :
    account.2.count .succeeded = (if isServed account then 1 else 0) ∧
      ∀ kind, account.2.count (.failed kind) = if isFailed kind account then 1 else 0 := by
  obtain ⟨item, story⟩ := account
  cases item with
  | ok value =>
      rcases reported with told | told
      · obtain rfl : story = [.succeeded] := told
        exact ⟨rfl, fun _ => rfl⟩
      · obtain rfl : story = [.remembered] := told
        exact ⟨rfl, fun _ => rfl⟩
  | error failure =>
      have once : story.countP Verdict.isCounted = 1 := reported
      have member : .failed failure.kind ∈ story := matched failure rfl
      constructor
      · rw [count_of_mem once member rfl rfl]
        rfl
      · intro kind
        rw [count_of_mem once member rfl rfl]
        simp [isFailed, failureKind?]

/-- Under the kind that stands for lost outcomes an item is counted only if it is reported
so. -/
theorem count_lost_le {lost : FailureKind} (reported : Reported account.2 account.1)
    (faithful : Faithful lost account.2 account.1) :
    account.2.count (.failed lost) ≤ if isFailed lost account then 1 else 0 := by
  obtain ⟨item, story⟩ := account
  cases item with
  | ok value =>
      have told : Told story (.ok value : Outcome Assessment) := reported
      exact Nat.le_of_eq
        ((@counts_of_matches (.ok value, story) told nofun).2 lost)
  | error failure =>
      have once : story.countP Verdict.isCounted = 1 := reported
      rcases faithful with isLost | member
      · have bound : story.count (.failed lost) ≤ story.countP Verdict.isCounted := by
          apply List.countP_mono_left
          intro verdict _ same
          rw [beq_iff_eq.mp same]
          rfl
        have counts : isFailed lost (.error failure, story) = true :=
          beq_iff_eq.mpr (congrArg some isLost)
        rw [if_pos counts]
        exact bound.trans (Nat.le_of_eq once)
      · exact Nat.le_of_eq ((@counts_of_matches (.error failure, story) once
          fun _ same => Except.error.inj same ▸ member).2 lost)

end Counts

/-- Counts that are bounded item by item are equal if and only if they are equal item by
item. -/
theorem count_flatMap_eq_iff {α : Type} {stories : α → List Verdict} {verdict : Verdict}
    {property : α → Bool} {items : List α}
    (bounded : ∀ item ∈ items, (stories item).count verdict ≤ if property item then 1 else 0) :
    (items.flatMap stories).count verdict = items.countP property ↔
      ∀ item ∈ items, (stories item).count verdict = if property item then 1 else 0 := by
  have total : (items.flatMap stories).count verdict ≤ items.countP property ∧
      ((items.flatMap stories).count verdict = items.countP property ↔
        ∀ item ∈ items, (stories item).count verdict = if property item then 1 else 0) := by
    induction items with
    | nil => simp
    | cons item rest ih =>
        obtain ⟨restBound, restIff⟩ := ih fun other member =>
          bounded other (List.mem_cons_of_mem _ member)
        have own := bounded item List.mem_cons_self
        rw [List.flatMap_cons, List.count_append, List.countP_cons]
        refine ⟨by omega, ?_⟩
        rw [List.forall_mem_cons, ← restIff]
        omega
  exact total.2

/-- The counters and the report agree on a batch if and only if every item is counted as it
is reported. -/
theorem agrees_iff {accounts : List (Outcome Assessment × List Verdict)} {lost : FailureKind}
    (reported : ∀ account ∈ accounts, Reported account.2 account.1)
    (faithful : ∀ account ∈ accounts, Faithful lost account.2 account.1) :
    Agrees accounts ↔ ∀ account ∈ accounts, Matches account := by
  constructor
  · intro agrees account member failure failed
    have perItem := (count_flatMap_eq_iff fun other there =>
      count_lost_le (reported other there) (faithful other there)).mp (agrees.errors lost)
    have own := faithful account member
    rw [failed] at own
    rcases own with isLost | matched
    · have counts : isFailed lost account = true := by
        rw [isFailed, failed]
        exact beq_iff_eq.mpr (congrArg some isLost)
      have once := perItem account member
      rw [if_pos counts] at once
      rw [isLost]
      exact List.count_pos_iff.mp (Nat.lt_of_lt_of_eq Nat.zero_lt_one once.symm)
    · exact matched
  · intro matched
    have counts : ∀ account ∈ accounts, _ := fun account member =>
      counts_of_matches (reported account member) (matched account member)
    constructor
    · exact (count_flatMap_eq_iff fun account member => Nat.le_of_eq (counts account member).1).mpr
        fun account member => (counts account member).1
    · intro kind
      exact (count_flatMap_eq_iff fun account member =>
        Nat.le_of_eq ((counts account member).2 kind)).mpr
          fun account member => (counts account member).2 kind

/-! ## The law -/

/-- During a part of a run without a reset an engine with metrics is asked for a batch and
answers it.  The counters grow by what is recorded in the meantime, and they agree with the
report on the items of the batch if and only if every item that is reported as failed was
recorded under the kind of its failure. -/
theorem batch_counts_iff {settings : Config.Settings}
    (enabled : settings.observability.metricsEnabled = true) (service : Service)
    {first second : List Event} (goesOn : ∀ event ∈ second, event.resets = false)
    {number instant : Nat} {outcome : BatchOutcome}
    (asked : ((make settings service).run first).rounds.length ≤ number)
    (answered : ((make settings service).run (first ++ second)).rounds[number]? =
      some (.answered (.ok outcome) instant)) :
    let meantime := ((make settings service).run first).log second
    let firstSlot := slotsBefore number ((make settings service).run (first ++ second)).rounds
    (∃ before after, ((make settings service).run first).core.collector = some before ∧
      ((make settings service).run (first ++ second)).core.collector = some after ∧
      Books meantime.verdicts before after) ∧
      (Agrees (meantime.accounts firstSlot outcome) ↔
        ∀ (index : Nat) (failure : Failure), outcome.items[index]? = some (.error failure) →
          .failed failure.kind ∈ meantime.story (.item (firstSlot + index))) := by
  dsimp only
  have early := (Kept.make settings service).run first
  rw [List.nil_append] at early
  have late := early.run second
  have lasts := lasts_run early second
  have counters := ((Metered.make service enabled).run (Kept.make settings service) first).books
    early goesOn
  rw [run_append] at answered ⊢
  generalize (make settings service).log first = past at early late
  generalize (make settings service).run first = start at *
  refine ⟨counters, ?_⟩
  -- The slots of the batch are new, so everything about them was recorded in the meantime.
  have new : ∀ index, (past ++ start.log second).story
      (.item (slotsBefore number (start.run second).rounds + index)) =
        (start.log second).story
          (.item (slotsBefore number (start.run second).rounds + index)) := by
    intro index
    have beyond := lasts.slots_le asked
    rw [Log.story_append, early.recorded.noItem _ (by omega), List.nil_append]
  obtain ⟨lost, items⟩ := late.recorded.answered number outcome instant answered
  simp only [new] at items
  have account : ∀ account ∈ (start.log second).accounts
      (slotsBefore number (start.run second).rounds) outcome,
      ∃ index, outcome.items[index]? = some account.1 ∧ account.2 = (start.log second).story
        (.item (slotsBefore number (start.run second).rounds + index)) := by
    rintro _ member
    obtain ⟨⟨item, index⟩, there, rfl⟩ := List.mem_map.mp member
    exact ⟨index, List.mem_zipIdx_iff_getElem?.mp there, rfl⟩
  rw [@agrees_iff _ lost]
  · constructor
    · intro matched index failure failed
      refine matched (.error failure, _) (List.mem_map.mpr ⟨(.error failure, index), ?_, rfl⟩)
        failure rfl
      exact List.mem_zipIdx_iff_getElem?.mpr failed
    · intro matched one member failure failed
      obtain ⟨index, found, storyEq⟩ := account one member
      rw [storyEq]
      exact matched index failure (found.trans (congrArg some failed))
  · intro one member
    obtain ⟨index, found, storyEq⟩ := account one member
    rw [storyEq]
    exact (items index _ found).1
  · intro one member
    obtain ⟨index, found, storyEq⟩ := account one member
    rw [storyEq]
    exact (items index _ found).2

/-! ## A batch that is cut short -/

section Crowded

/-- Four workers and one place in the queue. -/
def crowded : Config.Settings where
  execution :=
    { maxConcurrentRequests := 4
      queueCapacity := 1
      requestTimeoutMs := 10000
      submitTimeoutMs := 2000 }
  cache := { enabled := false }

/-- The fourth call takes 10 ms, and all others a second. -/
def crowdedService : Service :=
  Script.service
    { turns := [none, none, none, some { latency := 10 }], otherwise := { latency := 1000 } }

/-- A request for a business with a name. -/
def requestFor (name : String) : Request :=
  { businessName := name, address := "1 Test Way", industry := "Retail", country := "US" }

/-- A batch keeps three of the workers busy. -/
def crowding : List Event :=
  [.openScope, .askBatch 0 (["a", "b", "c"].map requestFor), .turn (.timer 0), .turn .dispatcher,
    .turn (.caller 0), .turn (.worker 0), .turn .dispatcher, .turn (.caller 0),
    .turn (.worker 1), .turn .dispatcher, .turn (.worker 2)]

/-- A batch of four, whose first item ends after 10 ms.  The last one still waits for room
when the batch is cancelled after 50 ms. -/
def crowdedBatch : List Event :=
  [.openScope, .plan 50 2, .askBatch 2 (["d", "e", "f", "g"].map requestFor),
    .turn (.timer 1), .turn .dispatcher, .turn (.caller 1), .turn (.worker 3), .pass 10,
    .turn (.worker 3), .turn .dispatcher, .turn (.caller 1), .turn (.worker 3), .pass 50,
    .turn (.worker 3), .turn .dispatcher, .turn (.caller 1)]

/-- The kinds of the failures that a batch has reported, and the instant. -/
def Rounds.kinds? : Rounds → Option (List (Option FailureKind) × Nat)
  | .answered (.ok outcome) instant => some (outcome.items.map failureKind?, instant)
  | .running _ | .answered (.error _) _ => none

theorem exists_outcome_of_kinds? {round? : Option Rounds} {kinds : List (Option FailureKind)}
    {instant : Nat} (reported : round?.bind Rounds.kinds? = some (kinds, instant)) :
    ∃ outcome : BatchOutcome, round? = some (.answered (.ok outcome) instant) ∧
      outcome.items.map failureKind? = kinds := by
  obtain ⟨round, rfl, kindsEq⟩ := Option.bind_eq_some_iff.mp reported
  rcases round with running | ⟨failure | outcome, ended⟩
  · cases kindsEq
  · cases kindsEq
  · cases kindsEq
    exact ⟨outcome, rfl, rfl⟩

/-- The failed items of a kind, counted by the report alone. -/
theorem countP_isFailed (first : Nat) (outcome : BatchOutcome) (log : Log) (kind : FailureKind) :
    (log.accounts first outcome).countP (isFailed kind) =
      (outcome.items.map failureKind?).count (some kind) := by
  rw [Log.accounts, List.countP_map, List.count, List.countP_map,
    ← List.zipIdx_map_fst 0 outcome.items, List.countP_map, List.zipIdx_map_fst]
  rfl

/-- The verdicts on the items of a batch, taken from the log alone. -/
theorem flatMap_accounts (first : Nat) (outcome : BatchOutcome) (log : Log) :
    (log.accounts first outcome).flatMap Prod.snd =
      (List.range outcome.items.length).flatMap fun index => log.story (.item (first + index)) := by
  rw [Log.accounts, List.flatMap_map, List.range_eq_range', ← List.zipIdx_map_snd 0 outcome.items,
    List.flatMap_map]

theorem crowded_kinds :
    (((make crowded crowdedService).run (crowding ++ crowdedBatch)).rounds[1]?).bind
      Rounds.kinds? = some (List.replicate 4 (some .cancelled), 50) := by
  decide +kernel

theorem batch_counts_iff_crowded :
    ∃ outcome : BatchOutcome,
      ((make crowded crowdedService).run (crowding ++ crowdedBatch)).rounds[1]? =
        some (.answered (.ok outcome) 50) ∧
      (Agrees ((((make crowded crowdedService).run crowding).log crowdedBatch).accounts
          (slotsBefore 1 ((make crowded crowdedService).run (crowding ++ crowdedBatch)).rounds)
          outcome) ↔
        ∀ (index : Nat) (failure : Failure), outcome.items[index]? = some (.error failure) →
          .failed failure.kind ∈ (((make crowded crowdedService).run crowding).log
            crowdedBatch).story (.item (slotsBefore 1
              ((make crowded crowdedService).run (crowding ++ crowdedBatch)).rounds + index))) := by
  obtain ⟨outcome, answered, _⟩ := exists_outcome_of_kinds? crowded_kinds
  have goesOn : ∀ event ∈ crowdedBatch, event.resets = false := by decide
  have asked : ((make crowded crowdedService).run crowding).rounds.length ≤ 1 := by
    decide +kernel
  exact ⟨outcome, answered, (batch_counts_iff rfl crowdedService goesOn asked answered).2⟩

/-- A batch reports four cancelled items, while one success and three cancellations were
counted for them. -/
theorem batch_counted_otherwise :
    ∃ outcome : BatchOutcome,
      ((make crowded crowdedService).run (crowding ++ crowdedBatch)).rounds[1]? =
        some (.answered (.ok outcome) 50) ∧
      outcome.items.map failureKind? = List.replicate 4 (some .cancelled) ∧
      ((make crowded crowdedService).run crowding).log crowdedBatch =
        [(.item 3, .succeeded), (.item 4, .failed .cancelled), (.item 5, .failed .cancelled),
          (.item 6, .failed .cancelled)] ∧
      ¬Agrees ((((make crowded crowdedService).run crowding).log crowdedBatch).accounts
        (slotsBefore 1 ((make crowded crowdedService).run (crowding ++ crowdedBatch)).rounds)
        outcome) := by
  obtain ⟨outcome, answered, kinds⟩ := exists_outcome_of_kinds? crowded_kinds
  have logEq : ((make crowded crowdedService).run crowding).log crowdedBatch =
      [(.item 3, .succeeded), (.item 4, .failed .cancelled), (.item 5, .failed .cancelled),
        (.item 6, .failed .cancelled)] := by
    decide +kernel
  have firstSlot : slotsBefore 1
      ((make crowded crowdedService).run (crowding ++ crowdedBatch)).rounds = 3 := by
    decide +kernel
  have length : outcome.items.length = 4 := by
    rw [← List.length_map failureKind?, kinds, List.length_replicate]
  refine ⟨outcome, answered, kinds, logEq, ?_⟩
  intro agrees
  have counted := agrees.errors .cancelled
  rw [countP_isFailed, kinds, flatMap_accounts, logEq, firstSlot, length] at counted
  exact absurd counted (by decide)

end Crowded

end RiskGate.Engine
