import RiskGate.Proofs.Pool.Sparing

/-!
# No waiting batch is forgotten

A batch that has handed in all its jobs waits for outcomes and for the
cancellation of its scope.  It misses neither: as long as it waits, every outcome
of its jobs has been picked up, or has come at this very instant and its caller is
ready to take a turn; and its caller is ready, or watches the scope.

A batch that still waits for room has no such guarantee.  It picks up nothing and
watches nothing until its last job is handed in.
-/

namespace RiskGate.Pool.Floor

open Schedule (Actor Agenda)

variable {ε τ ρ : Type}

/-! ## Picking up outcomes -/

theorem mem_gathered {floor : Floor ε τ ρ} {tickets : List Nat} {entry : Nat × Outcome ρ} :
    entry ∈ floor.gathered tickets ↔
      entry.1 ∈ tickets ∧
        ∃ delivery, floor.outcome? entry.1 = some delivery ∧ delivery.outcome = entry.2 := by
  obtain ⟨ticket, outcome⟩ := entry
  constructor
  · intro member
    obtain ⟨source, inTickets, mapEq⟩ := List.mem_filterMap.mp member
    obtain ⟨delivery, delivered, pairEq⟩ := Option.map_eq_some_iff.mp mapEq
    cases pairEq
    exact ⟨inTickets, delivery, delivered, rfl⟩
  · rintro ⟨inTickets, delivery, delivered, rfl⟩
    refine List.mem_filterMap.mpr ⟨ticket, inTickets, ?_⟩
    rw [delivered]
    rfl

/-- As many outcomes as tickets are the outcomes of all tickets. -/
theorem exists_mem_gathered {floor : Floor ε τ ρ} {tickets : List Nat}
    (complete : (floor.gathered tickets).length = tickets.length) {ticket : Nat}
    (member : ticket ∈ tickets) : ∃ outcome, (ticket, outcome) ∈ floor.gathered tickets := by
  have known := List.filterMap_length_eq_length.mp complete ticket member
  rw [Option.isSome_map] at known
  obtain ⟨delivery, delivered⟩ := Option.isSome_iff_exists.mp known
  exact ⟨delivery.outcome, mem_gathered.mpr ⟨member, delivery, delivered, rfl⟩⟩

theorem exists_delivery_of_outcome? {floor : Floor ε τ ρ} {ticket : Nat} {delivery : Delivery ρ}
    (known : floor.outcome? ticket = some delivery) :
    delivery ∈ floor.deliveries ∧ delivery.ticket = ticket :=
  ⟨List.mem_of_find?_eq_some known, by simpa using List.find?_some known⟩

/-! ## A batch's own turn -/

/-- A batch has joined: it has ended, or it watches its scope and waits for
outcomes. -/
inductive Joined (number scope : Nat) (collected : List (Nat × Outcome ρ))
    (floor : Floor ε τ ρ) : Prop where
  /-- It ended with what it had picked up before. -/
  | cancelled (batch : Batch τ ρ)
      (found : floor.callers[number]? = some (.batched batch floor.now))
      (scope_eq : batch.scope = scope) (kept : batch.collected = collected)
      (cancelled : floor.isCancelled scope = true)
  | complete (batch : Batch τ ρ)
      (found : floor.callers[number]? = some (.batched batch floor.now))
      (scope_eq : batch.scope = scope) (live : floor.isCancelled scope = false)
      (picked : batch.collected = floor.gathered batch.tickets)
      (all : (floor.gathered batch.tickets).length = batch.tickets.length)
  | waiting (batch : Batch τ ρ) (found : floor.callers[number]? = some (.batching batch))
      (stage : batch.stage = .joining) (scope_eq : batch.scope = scope)
      (live : floor.isCancelled scope = false)
      (picked : batch.collected = floor.gathered batch.tickets)
      (watching : (scope, .caller number) ∈ floor.agenda.watchers)

/-- A batch waits for room with a job. -/
def WaitsForRoom (number scope : Nat) (collected : List (Nat × Outcome ρ))
    (floor : Floor ε τ ρ) : Prop :=
  ∃ batch job due rest, floor.callers[number]? = some (.batching batch) ∧
    batch.stage = .offering job due rest ∧ batch.scope = scope ∧ batch.collected = collected

theorem join_joined {number : Nat} {floor : Floor ε τ ρ} {old : Caller τ ρ}
    (found : floor.callers[number]? = some old) (batch : Batch τ ρ) :
    Joined number batch.scope batch.collected (floor.join number batch) := by
  have inRange : number < floor.callers.length := (List.getElem?_eq_some_iff.mp found).1
  rcases floor.join_cases number batch with
    ⟨cancelled, joinEq⟩ | ⟨live, all, joinEq⟩ | ⟨live, _, joinEq⟩
  · rw [joinEq]
    exact .cancelled batch (List.getElem?_set_self inRange) rfl rfl cancelled
  · rw [joinEq]
    exact .complete (floor.pickUp batch) (List.getElem?_set_self inRange) rfl live rfl all
  · rw [joinEq]
    exact .waiting (floor.pickUp batch) (List.getElem?_set_self inRange) rfl rfl live rfl
      (List.mem_append_right _ (List.mem_singleton_self _))

/-- Handing in tasks ends with one of them waiting for room, or with joining. -/
theorem handIn_waits_or_joined {number : Nat} (tasks : List τ) (batch : Batch τ ρ)
    {floor : Floor ε τ ρ} {old : Caller τ ρ} (found : floor.callers[number]? = some old) :
    WaitsForRoom number batch.scope batch.collected (floor.handIn number batch tasks) ∨
      Joined number batch.scope batch.collected (floor.handIn number batch tasks) := by
  induction tasks generalizing batch floor with
  | nil => exact Or.inr (join_joined found batch)
  | cons task rest ih =>
      rw [handIn]
      dsimp only
      rcases offered : (floor.issue batch.scope task).1.offer number
        (floor.issue batch.scope task).2 batch.wait with ⟨next, _ | answer⟩
      · have callers := (offer_waits _ _ offered).1.callers
        have inRange : number < next.callers.length := by
          rw [callers]
          exact (List.getElem?_eq_some_iff.mp found).1
        exact Or.inl ⟨_, _, _, _, List.getElem?_set_self inRange, rfl, rfl, rfl⟩
      · have callers := (offer_settles _ _ offered).staff.callers
        have still : next.callers[number]? = some old := by
          rw [callers]
          exact found
        exact ih { batch with tickets := batch.tickets ++ [floor.nextTicket] } still

/-- A turn of a batch that waits for outcomes is an attempt to join; one that waits
for room goes on to wait, or hands in its tasks and joins. -/
theorem batchTurn_cases {number : Nat} {batch : Batch τ ρ} {floor : Floor ε τ ρ}
    (found : floor.callers[number]? = some (.batching batch)) :
    (batch.stage = .joining ∧ floor.batchTurn number batch = floor.join number batch) ∨
    (batch.stage ≠ .joining ∧
      (WaitsForRoom number batch.scope batch.collected (floor.batchTurn number batch) ∨
        Joined number batch.scope batch.collected (floor.batchTurn number batch))) := by
  unfold batchTurn
  cases stage : batch.stage with
  | joining => exact Or.inl ⟨rfl, rfl⟩
  | offering job due rest =>
      right
      constructor
      · simp
      · dsimp only
        rcases offered : floor.offerAgain number job batch.wait due with ⟨next, _ | answer⟩
        · obtain rfl := offerAgain_waits _ _ offered
          exact Or.inl ⟨batch, job, due, rest, found, stage, rfl, rfl⟩
        · have callers := (offerAgain_settles _ _ offered).staff.callers
          have inRange : number < next.callers.length := by
            rw [callers]
            exact (List.getElem?_eq_some_iff.mp found).1
          let going : Batch τ ρ := { batch with stage := .joining }
          have goes : (next.setCaller number (.batching going)).callers[number]? =
              some (.batching going) := List.getElem?_set_self inRange
          exact handIn_waits_or_joined rest going goes

/-! ## What is kept for a caller -/

/-- What was picked up was delivered. -/
def Collects (batch : Batch τ ρ) (floor : Floor ε τ ρ) : Prop :=
  ∀ entry ∈ batch.collected, ∃ delivery ∈ floor.deliveries,
    delivery.ticket = entry.1 ∧ delivery.outcome = entry.2

/-- A batch that waits for outcomes misses neither an outcome nor the cancellation
of its scope. -/
structure Attentive (number : Nat) (batch : Batch τ ρ) (floor : Floor ε τ ρ) : Prop where
  picked : ∀ ticket ∈ batch.tickets, ∀ delivery, floor.outcome? ticket = some delivery →
    (ticket, delivery.outcome) ∈ batch.collected ∨
      (.caller number ∈ floor.agenda.ready ∧ delivery.deliveredAt = floor.now)
  cancelled : floor.isCancelled batch.scope = true → .caller number ∈ floor.agenda.ready
  watching : floor.isCancelled batch.scope = false →
    (batch.scope, .caller number) ∈ floor.agenda.watchers

/-- What holds of a batch, by how far it is. -/
def Minds (number : Nat) (floor : Floor ε τ ρ) : Caller τ ρ → Prop
  | .batching batch =>
      batch.scope < floor.agenda.parents.length ∧ Collects batch floor ∧
        match batch.stage with
        | .offering .. => batch.collected = []
        | .joining => Attentive number batch floor
  | .batched batch instant =>
      instant ≤ floor.now ∧ Collects batch floor ∧
        (floor.isCancelled batch.scope = true ∨
          ∀ ticket ∈ batch.tickets, ∃ outcome, (ticket, outcome) ∈ batch.collected)
  | .offering .. | .offered .. | .closing .. | .closed .. => True

/-- What holds of a caller, whoever it is. -/
def Minded (number : Nat) (floor : Floor ε τ ρ) : Prop :=
  ∀ state, floor.callers[number]? = some state → Minds number floor state

section Preservation

variable {number : Nat} {before after : Floor ε τ ρ}

theorem Spares.isCancelled (spares : Spares number before after) {scope : Nat}
    (cancelled : before.isCancelled scope = true) : after.isCancelled scope = true :=
  decide_eq_true (spares.agenda.cancelled scope (of_decide_eq_true cancelled))

theorem Spares.collects (spares : Spares number before after) {batch : Batch τ ρ}
    (collects : Collects batch before) : Collects batch after := by
  intro entry member
  obtain ⟨delivery, delivered, same⟩ := collects entry member
  obtain ⟨new, deliveries, _⟩ := spares.deliveries
  exact ⟨delivery, by rw [deliveries]; exact List.mem_append_right _ delivered, same⟩

/-- A waiting batch stays attentive while others act. -/
theorem Spares.attentive (spares : Spares number before after) {batch : Batch τ ρ}
    (found : before.callers[number]? = some (.batching batch)) (stage : batch.stage = .joining)
    (opened : batch.scope < before.agenda.parents.length)
    (attentive : Attentive number batch before) : Attentive number batch after where
  picked := by
    intro ticket member delivery known
    obtain ⟨new, deliveries, awaited⟩ := spares.deliveries
    rw [outcome?, deliveries, List.find?_append] at known
    cases isNew : new.find? (·.ticket == ticket) with
    | some first =>
        rw [isNew, Option.some_or] at known
        cases known
        obtain ⟨deliveredAt, woken⟩ := awaited delivery (List.mem_of_find?_eq_some isNew)
        have ticketEq : delivery.ticket = ticket := by simpa using List.find?_some isNew
        right
        constructor
        · apply woken _ found
          rw [Caller.awaits, stage, ticketEq]
          exact decide_eq_true member
        · exact deliveredAt.trans spares.agenda.now_eq.symm
    | none =>
        rw [isNew, Option.none_or] at known
        rcases attentive.picked ticket member delivery known with old | ⟨ready, deliveredAt⟩
        · exact Or.inl old
        · exact Or.inr ⟨spares.agenda.ready ready, deliveredAt.trans spares.agenda.now_eq.symm⟩
  cancelled := by
    intro cancelled
    cases early : before.isCancelled batch.scope with
    | true => exact spares.agenda.ready (attentive.cancelled early)
    | false =>
        exact spares.agenda.woken batch.scope opened (attentive.watching early)
          (of_decide_eq_false early) (of_decide_eq_true cancelled)
  watching := by
    intro live
    have early : before.isCancelled batch.scope = false := by
      cases early : before.isCancelled batch.scope with
      | true => rw [spares.isCancelled early] at live; cases live
      | false => rfl
    exact spares.agenda.watchers _ (attentive.watching early)

/-- What holds of a caller goes on to hold while others act. -/
theorem Spares.minds (spares : Spares number before after) {state : Caller τ ρ}
    (found : before.callers[number]? = some state) (minds : Minds number before state) :
    Minds number after state := by
  cases state with
  | batching batch =>
      obtain ⟨opened, collects, rest⟩ := minds
      refine ⟨Nat.lt_of_lt_of_le opened spares.agenda.parents, spares.collects collects, ?_⟩
      cases stage : batch.stage with
      | offering job due tasks =>
          rw [stage] at rest
          exact rest
      | joining =>
          rw [stage] at rest
          exact spares.attentive found stage opened rest
  | batched batch instant =>
      obtain ⟨past, collects, ended⟩ := minds
      refine ⟨?_, spares.collects collects, ended.imp_left spares.isCancelled⟩
      change instant ≤ after.agenda.now
      rw [spares.agenda.now_eq]
      exact past
  | offering | offered | closing | closed => trivial

theorem Minded.of_spares (minded : Minded number before) (spares : Spares number before after) :
    Minded number after := by
  intro state found
  rw [spares.caller] at found
  exact spares.minds found (minded state found)

end Preservation

/-! ## The invariant along a run -/

section Own

variable {number : Nat} {floor : Floor ε τ ρ}

/-- A caller in a given state is minded if the state is. -/
theorem Minded.of_found {state : Caller τ ρ} (found : floor.callers[number]? = some state)
    (minds : Minds number floor state) : Minded number floor := by
  intro other otherFound
  cases found.symm.trans otherFound
  exact minds

theorem WaitsForRoom.minded {scope : Nat}
    (waits : WaitsForRoom number scope [] floor) (opened : scope < floor.agenda.parents.length) :
    Minded number floor := by
  obtain ⟨batch, job, due, rest, found, stage, rfl, fresh⟩ := waits
  refine .of_found found ⟨opened, ?_, ?_⟩
  · rw [Collects, fresh]
    exact fun _ member => absurd member List.not_mem_nil
  · rw [stage]
    exact fresh

theorem Joined.minded {scope : Nat} {collected : List (Nat × Outcome ρ)}
    (joined : Joined number scope collected floor) (opened : scope < floor.agenda.parents.length)
    (delivered : ∀ entry ∈ collected, ∃ delivery ∈ floor.deliveries,
      delivery.ticket = entry.1 ∧ delivery.outcome = entry.2) : Minded number floor := by
  have collects : ∀ batch : Batch τ ρ, batch.collected = floor.gathered batch.tickets →
      Collects batch floor := by
    intro batch picked entry member
    rw [picked] at member
    obtain ⟨_, delivery, known, same⟩ := mem_gathered.mp member
    obtain ⟨isDelivered, ticketEq⟩ := exists_delivery_of_outcome? known
    exact ⟨delivery, isDelivered, ticketEq, same⟩
  cases joined with
  | cancelled batch found scope_eq kept cancelled =>
      refine .of_found found ⟨Nat.le_refl _, ?_, Or.inl (by rwa [scope_eq])⟩
      rw [Collects, kept]
      exact delivered
  | complete batch found _ _ picked all =>
      refine .of_found found ⟨Nat.le_refl _, collects batch picked, Or.inr ?_⟩
      intro ticket member
      rw [picked]
      exact exists_mem_gathered all member
  | waiting batch found stage scope_eq live picked watching =>
      subst scope_eq
      refine .of_found found ⟨opened, collects batch picked, ?_⟩
      rw [stage]
      constructor
      · intro ticket member delivery known
        left
        rw [picked]
        exact mem_gathered.mpr ⟨member, delivery, known, rfl⟩
      · intro cancelled
        rw [live] at cancelled
        cases cancelled
      · intro _
        exact watching

/-- A batch's own turn. -/
theorem Minded.batchTurn {batch : Batch τ ρ}
    (found : floor.callers[number]? = some (.batching batch))
    (opened : batch.scope < floor.agenda.parents.length) (collects : Collects batch floor)
    (fresh : batch.stage ≠ .joining → batch.collected = []) :
    Minded number (floor.batchTurn number batch) := by
  have others := spares_batchTurn (Nat.succ_ne_self number) batch floor
  have still_opened : batch.scope < (floor.batchTurn number batch).agenda.parents.length :=
    Nat.lt_of_lt_of_le opened others.agenda.parents
  have delivered := others.collects collects
  rcases batchTurn_cases found with ⟨_, turnEq⟩ | ⟨notJoining, waits | joined⟩
  · rw [turnEq] at still_opened delivered ⊢
    exact (join_joined found batch).minded still_opened delivered
  · rw [fresh notJoining] at waits
    exact waits.minded still_opened
  · exact joined.minded still_opened delivered

/-- A caller's own turn. -/
theorem Minded.ownTurn (minded : Minded number floor) :
    Minded number ((floor.unready (.caller number)).attend number) := by
  let resting := floor.unready (.caller number)
  cases found : resting.callers[number]? with
  | none =>
      have idle : resting.attend number = resting := by rw [attend, found]
      intro state stateFound
      rw [idle, found] at stateFound
      cases stateFound
  | some state =>
      have minds : Minds number floor state := minded state found
      cases state with
      | batching batch =>
          have turns : resting.attend number = resting.batchTurn number batch := by
            rw [attend, found]
          obtain ⟨opened, collects, rest⟩ := minds
          rw [turns]
          apply Minded.batchTurn found opened collects
          intro notJoining
          cases stage : batch.stage with
          | joining => exact absurd stage notJoining
          | offering job due tasks =>
              rw [stage] at rest
              exact rest
      | offering job wait due =>
          have turns : resting.attend number = resting.offeringTurn number job wait due := by
            rw [attend, found]
          rw [turns, offeringTurn]
          rcases offered : resting.offerAgain number job wait due with ⟨next, _ | answer⟩
          · obtain rfl := offerAgain_waits _ _ offered
            exact .of_found found trivial
          · have callers := (offerAgain_settles _ _ offered).staff.callers
            have inRange : number < next.callers.length := by
              rw [callers]
              exact (List.getElem?_eq_some_iff.mp found).1
            exact .of_found (List.getElem?_set_self inRange) trivial
      | closing limit due =>
          have turns : resting.attend number = resting.closingTurn number limit due := by
            rw [attend, found]
          have inRange : number < resting.callers.length :=
            (List.getElem?_eq_some_iff.mp found).1
          rw [turns, closingTurn]
          split
          · exact .of_found (List.getElem?_set_self inRange) trivial
          · split
            · exact .of_found (List.getElem?_set_self inRange) trivial
            · exact .of_found found trivial
      | batched batch instant =>
          have idle : resting.attend number = resting := by rw [attend, found]
          rw [idle]
          exact .of_found found minds
      | offered | closed =>
          have idle : resting.attend number = resting := by rw [attend, found]
          rw [idle]
          exact .of_found found trivial

/-- A newcomer. -/
theorem Minded.newcomer [Trade ε τ ρ] {event : Event ε τ} (allowed : floor.Allowed event)
    (admits : event.admits = true) : Minded floor.callers.length (floor.after event) := by
  cases event with
  | submitWithin wait scope task =>
      have entered : (floor.entered wait scope task).callers[floor.callers.length]? =
          some (.offering (floor.issue scope task).2 wait (floor.agenda.dueAfter wait)) :=
        List.getElem?_concat_length
      change Minded _ (floor.submitWithin wait scope task).1
      rw [submitWithin_eq]
      rcases offered : (floor.entered wait scope task).offer floor.callers.length
        (floor.issue scope task).2 wait with ⟨next, _ | answer⟩
      · rw [← (offer_waits _ _ offered).1.callers] at entered
        exact .of_found entered trivial
      · rw [← (offer_settles _ _ offered).staff.callers] at entered
        have inRange := (List.getElem?_eq_some_iff.mp entered).1
        exact .of_found (List.getElem?_set_self inRange) trivial
  | executeBatch wait scope tasks =>
      have opened : scope < floor.agenda.parents.length := allowed
      let batch : Batch τ ρ := { scope := scope, wait := wait }
      have entered : (floor.enter (.batching batch)).1.callers[floor.callers.length]? =
          some (.batching batch) := List.getElem?_concat_length
      have others := spares_handIn (Nat.succ_ne_self floor.callers.length) tasks batch
        (floor.enter (.batching batch)).1
      have still_opened := Nat.lt_of_lt_of_le opened others.agenda.parents
      change Minded _ ((floor.enter (.batching batch)).1.handIn floor.callers.length batch tasks)
      rcases handIn_waits_or_joined tasks batch entered with waits | joined
      · exact waits.minded still_opened
      · exact joined.minded still_opened fun _ member => absurd member List.not_mem_nil
  | shutdown limit =>
      change Minded _ (floor.shutdown limit).1
      rcases floor.shutdown_cases limit with ⟨_, shutEq⟩ | ⟨_, _, shutEq⟩ | ⟨_, _, shutEq⟩
      · rw [shutEq]
        exact .of_found List.getElem?_concat_length trivial
      · rw [shutEq]
        exact .of_found (List.getElem?_concat_length (l := floor.callers)) trivial
      · rw [shutEq]
        exact .of_found (List.getElem?_concat_length (l := floor.callers)) trivial
  | submit | openScope | openChild | cancel | plan | disturb | rearrange | turn | pass =>
      cases admits

/-- The clock moves only when every outcome is picked up and no waiting batch has a
cancelled scope. -/
theorem Minded.clockMoved [Trade ε τ ρ] (minded : Minded number floor)
    (quiet : floor.agenda.ready = []) (instant : Nat) :
    Minded number (floor.clockMoved instant) := by
  intro state found
  have minds : Minds number floor state := minded state found
  have notReady := Agenda.notMem_of_quiet quiet (.caller number)
  cases state with
  | batching batch =>
      obtain ⟨opened, collects, rest⟩ := minds
      refine ⟨opened, collects, ?_⟩
      cases stage : batch.stage with
      | offering job due tasks =>
          rw [stage] at rest
          exact rest
      | joining =>
          rw [stage] at rest
          constructor
          · intro ticket member delivery known
            rcases rest.picked ticket member delivery known with old | ⟨ready, _⟩
            · exact Or.inl old
            · exact absurd ready notReady
          · intro cancelled
            exact absurd (rest.cancelled cancelled) notReady
          · exact rest.watching
  | batched batch ended =>
      obtain ⟨past, collects, rest⟩ := minds
      exact ⟨Nat.le_trans past (Nat.le_max_left _ _), collects, rest⟩
  | offering | offered | closing | closed => trivial

/-- Every event that can happen keeps callers minded. -/
theorem Minded.after [Trade ε τ ρ] (minded : Minded number floor) {event : Event ε τ}
    (allowed : floor.Allowed event) : Minded number (floor.after event) := by
  by_cases own : event = .turn (.caller number)
  · subst own
    exact minded.ownTurn
  by_cases passes : ∃ instant, event = .pass instant
  · obtain ⟨instant, rfl⟩ := passes
    exact (minded.clockMoved allowed.1 instant).of_spares (spares_pass instant)
  by_cases newcomer : event.admits = true ∧ number = floor.callers.length
  · obtain ⟨admits, rfl⟩ := newcomer
    exact .newcomer allowed admits
  · apply minded.of_spares
    apply spares_after allowed.proper own
    · intro instant same
      exact passes ⟨instant, same⟩
    · intro admits same
      exact newcomer ⟨admits, same⟩

end Own

/-- In every state that a pool can reach, no waiting batch is forgotten. -/
theorem Arises.minded [Trade ε τ ρ] {history : History τ ρ} {floor : Floor ε τ ρ}
    (arises : Arises history floor) (number : Nat) : Minded number floor := by
  obtain ⟨workers, capacity, shared, run⟩ := arises
  refine run.preserves ?_ fun event floor allowed minded => minded.after allowed
  intro state found
  cases found

end RiskGate.Pool.Floor
