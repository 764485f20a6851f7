import RiskGate.Proofs.Pool.Provenance

/-!
# Batches that keep to their tasks

A batch that goes on hands its tasks in one by one, so that the tickets it has are those
of the tasks it was given first, in their order.  When it has ended, all its tasks were
handed in, and either its scope is cancelled or all their outcomes are picked up.

From this follows for whom a worker resumes a task: for a batch that is still under way,
at a place whose outcome nobody knows yet.
-/

namespace RiskGate.Pool.Floor

open Schedule (Actor Agenda)

variable {ε τ ρ μ : Type} {mark : τ → μ} {plan : Nat → List τ}
variable {batches : Nat → Option (Batch τ ρ)} {before after floor : Floor ε τ ρ}

/-! ## Batches -/

/-- A batch gets its next ticket for the next task that it was given. -/
theorem Housed.issue (housed : Housed mark plan batches floor) {caller : Nat} {batch : Batch τ ρ}
    {task : τ} (found : batches caller = some batch)
    (given : (plan caller)[batch.tickets.length]? = some task) :
    let next := Function.update batches caller
      (some { batch with tickets := batch.tickets ++ [floor.nextTicket] })
    Housed mark plan next (floor.issue batch.scope task).1 ∧
      Stems plan next (floor.issue batch.scope task).2 task := by
  let later : Batch τ ρ := { batch with tickets := batch.tickets ++ [floor.nextTicket] }
  let next := Function.update batches caller (some later)
  have foundNext : next caller = some later := Function.update_self ..
  have stands : ∀ other index ticket, Stands next other index ticket →
      (Stands batches other index ticket ∧ ticket < floor.nextTicket) ∨
        other = caller ∧ index = batch.tickets.length ∧ ticket = floor.nextTicket := by
    rintro other index ticket ⟨held, heldFound, ticketEq⟩
    by_cases same : other = caller
    · subst same
      cases foundNext.symm.trans heldFound
      rcases Nat.lt_or_ge index batch.tickets.length with inside | beyond
      · rw [List.getElem?_append_left inside] at ticketEq
        exact .inl ⟨⟨batch, found, ticketEq⟩, housed.issued _ _ _ ⟨batch, found, ticketEq⟩⟩
      · obtain ⟨inRange, _⟩ := List.getElem?_eq_some_iff.mp ticketEq
        have last : index = batch.tickets.length := by
          simp only [List.length_append, List.length_singleton, later] at inRange
          omega
        subst last
        rw [List.getElem?_concat_length] at ticketEq
        exact .inr ⟨rfl, rfl, (Option.some.inj ticketEq).symm⟩
    · have heldBefore : batches other = some held :=
        (Function.update_of_ne same ..).symm.trans heldFound
      exact .inl ⟨⟨held, heldBefore, ticketEq⟩, housed.issued _ _ _ ⟨held, heldBefore, ticketEq⟩⟩
  have issuedFloor : Housed mark plan batches (floor.issue batch.scope task).1 :=
    { housed with
      issued := fun other index ticket here =>
        Nat.lt_succ_of_lt (housed.issued other index ticket here) }
  constructor
  · have grows : Grows floor.nextTicket batches next := grows_update found rfl (.concat _ _)
    apply issuedFloor.grows grows
    · intro other index ticket here
      change ticket < floor.nextTicket + 1
      rcases stands other index ticket here with ⟨_, old⟩ | ⟨_, _, rfl⟩
      · omega
      · omega
    · intro other index another place ticket here there
      rcases stands _ _ _ here with ⟨old, bound⟩ | ⟨rfl, rfl, rfl⟩
      · rcases stands _ _ _ there with ⟨older, _⟩ | ⟨_, _, rfl⟩
        · exact housed.distinct _ _ _ _ _ old older
        · exact absurd bound (Nat.lt_irrefl _)
      · rcases stands _ _ _ there with ⟨_, bound⟩ | ⟨rfl, rfl, _⟩
        · exact absurd bound (Nat.lt_irrefl _)
        · exact ⟨rfl, rfl⟩
    · intro other held heldFound
      by_cases same : other = caller
      · subst same
        cases foundNext.symm.trans heldFound
        exact housed.collects other batch found
      · exact housed.collects other held ((Function.update_of_ne same ..).symm.trans heldFound)
  · exact ⟨caller, later, batch.tickets.length, foundNext, rfl, List.getElem?_concat_length, given⟩

/-- How far a caller is with the tasks that it was given. -/
def Keeps (tasks : List τ) (floor : Floor ε τ ρ) : Caller τ ρ → Prop
  | .batching batch =>
      match batch.stage with
      | .joining => batch.tickets.length = tasks.length
      | .offering job _ rest =>
          ∃ index, batch.tickets.length = index + 1 ∧ batch.tickets[index]? = some job.ticket ∧
            job.scope = batch.scope ∧ tasks[index]? = some job.task ∧
            rest = tasks.drop (index + 1)
  | .batched batch _ =>
      batch.tickets.length = tasks.length ∧
        (floor.isCancelled batch.scope = true ∨
          ∀ ticket ∈ batch.tickets, ∃ outcome, (ticket, outcome) ∈ batch.collected)
  | .offering .. => False
  | .offered .. | .closing .. | .closed .. => True

/-- A caller keeps to its tasks when more scopes are cancelled. -/
theorem Keeps.later {tasks : List τ} {state : Caller τ ρ} (keeps : before.Keeps tasks state)
    (cancelled : ∀ scope, before.isCancelled scope = true → after.isCancelled scope = true) :
    after.Keeps tasks state := by
  cases state with
  | batched batch instant =>
      exact ⟨keeps.1, keeps.2.imp_left (cancelled batch.scope)⟩
  | batching | offering | offered | closing | closed => exact keeps

/-- A batch went on: it has the tickets that it had and keeps to the plan, and nobody else
did anything. -/
def GoesOn (mark : τ → μ) (plan : Nat → List τ) (caller : Nat) (batch : Batch τ ρ)
    (before after : Floor ε τ ρ) : Prop :=
  ∃ state later, after.callers = before.callers.set caller state ∧
    Caller.batch? state = some later ∧ later.scope = batch.scope ∧
    Extends before.nextTicket batch.tickets later.tickets ∧ after.Keeps (plan caller) state ∧
    Housed mark plan (Function.update before.batches caller (some later)) after

section Handing

variable {caller : Nat} {batch : Batch τ ρ}

/-- Joining a batch whose tasks are all handed in. -/
theorem Housed.join
    (housed : Housed mark plan (Function.update floor.batches caller (some batch)) floor)
    (all : batch.tickets.length = (plan caller).length) :
    GoesOn mark plan caller batch floor (floor.join caller batch) := by
  have found : Function.update floor.batches caller (some batch) caller = some batch :=
    Function.update_self ..
  have picked : Housed mark plan
      (Function.update floor.batches caller (some (floor.pickUp batch))) floor := by
    have collects : Collects (floor.pickUp batch) floor := by
      intro entry member
      obtain ⟨_, delivery, known, same⟩ := mem_gathered.mp member
      obtain ⟨delivered, ticketEq⟩ := exists_delivery_of_outcome? known
      exact ⟨delivery, delivered, ticketEq, same⟩
    have replaced := housed.replace (floor.pickUp batch) found rfl rfl collects
    rwa [Function.update_idem] at replaced
  rcases floor.join_cases caller batch with
    ⟨cancelled, joinEq⟩ | ⟨_, complete, joinEq⟩ | ⟨_, _, joinEq⟩
  · rw [joinEq]
    exact ⟨_, batch, rfl, rfl, rfl, .refl _ _, ⟨all, .inl cancelled⟩,
      housed.shuffle (.of_eq rfl rfl rfl fun _ => id)⟩
  · rw [joinEq]
    exact ⟨_, _, rfl, rfl, rfl, .refl _ _,
      ⟨all, .inr fun ticket member => exists_mem_gathered complete member⟩,
      picked.shuffle (.of_eq rfl rfl rfl fun _ => id)⟩
  · rw [joinEq]
    exact ⟨_, _, rfl, rfl, rfl, .refl _ _, all,
      picked.shuffle (.of_eq rfl rfl rfl fun _ => id)⟩

/-- Handing in the tasks that are left. -/
theorem Housed.handIn (tasks : List τ) (batch : Batch τ ρ) {floor : Floor ε τ ρ}
    (housed : Housed mark plan (Function.update floor.batches caller (some batch)) floor)
    (left : tasks = (plan caller).drop batch.tickets.length)
    (within : batch.tickets.length ≤ (plan caller).length) :
    GoesOn mark plan caller batch floor (floor.handIn caller batch tasks) := by
  induction tasks generalizing batch floor with
  | nil =>
      have none : (plan caller).length ≤ batch.tickets.length := List.drop_eq_nil_iff.mp left.symm
      exact housed.join (Nat.le_antisymm within none)
  | cons task rest ih =>
      have given : (plan caller)[batch.tickets.length]? = some task := by
        rw [← List.head?_drop, ← left]
        rfl
      have restEq : rest = (plan caller).drop (batch.tickets.length + 1) := by
        rw [← List.tail_drop, ← left]
        rfl
      let later : Batch τ ρ := { batch with tickets := batch.tickets ++ [floor.nextTicket] }
      have lengthEq : later.tickets.length = batch.tickets.length + 1 := by simp [later]
      obtain ⟨issued, stems⟩ := housed.issue (Function.update_self ..) given
      rw [Function.update_idem] at issued stems
      have admits := admits_offer (floor.issue batch.scope task).1
        (floor.issue batch.scope task).2 caller batch.wait
      have offered := issued.admit admits stems
      have callers := admits.staff.callers
      rw [Floor.handIn]
      dsimp only
      split
      next next answer offerEq =>
        rw [offerEq] at offered callers
        have onward : floor.nextTicket ≤ next.nextTicket := by
          have nextTicket := admits.staff.nextTicket
          rw [offerEq] at nextTicket
          rw [nextTicket]
          exact Nat.le_succ _
        have batchesEq : next.batches = floor.batches := by
          funext other
          rw [Floor.batches, callers]
          rfl
        rw [← batchesEq] at offered
        have inside : later.tickets.length ≤ (plan caller).length := by
          rw [lengthEq]
          exact (List.getElem?_eq_some_iff.mp given).1
        obtain ⟨state, final, callersEq, isBatch, scope, tickets, keeps, housedAfter⟩ :=
          ih later offered (by rw [lengthEq]; exact restEq) inside
        refine ⟨state, final, ?_, isBatch, scope, ?_, keeps, ?_⟩
        · refine callersEq.trans ?_
          rw [callers]
          rfl
        · exact (Extends.concat batch.tickets floor.nextTicket).trans onward tickets
        · rwa [batchesEq] at housedAfter
      next next offerEq =>
        rw [offerEq] at offered callers
        let job : Job τ := (floor.issue batch.scope task).2
        let waiting : Batch τ ρ :=
          { later with stage := .offering job (next.agenda.dueAfter batch.wait) rest }
        refine ⟨.batching waiting, waiting, ?_, rfl, rfl, .concat _ _, ?_, ?_⟩
        · change next.callers.set caller _ = _
          rw [callers]
          rfl
        · exact ⟨batch.tickets.length, lengthEq, List.getElem?_concat_length, rfl, given, restEq⟩
        · have replaced := offered.replace waiting (Function.update_self ..) rfl rfl
            (offered.collects caller later (Function.update_self ..))
          rw [Function.update_idem] at replaced
          exact replaced.shuffle (.of_eq rfl rfl rfl fun _ => id)

end Handing

/-! ## Callers and their batches -/

theorem grows_of_eq {later : Nat → Option (Batch τ ρ)} (bound : Nat) (same : later = batches) :
    Grows bound batches later := by
  subst same
  exact fun _ batch found => ⟨batch, found, rfl, .refl _ _⟩

/-- Callers stay as they are when each of them does. -/
theorem callers_of_spares (spares : ∀ number, Spares number before after) :
    after.callers = before.callers :=
  List.ext_getElem? fun number => (spares number).caller

/-- A caller is replaced by one with a batch. -/
theorem batches_of_set {caller : Nat} {state : Caller τ ρ} {later : Batch τ ρ}
    (inRange : caller < before.callers.length)
    (callers : after.callers = before.callers.set caller state)
    (isBatch : Caller.batch? state = some later) :
    after.batches = Function.update before.batches caller (some later) := by
  funext number
  rw [Floor.batches, callers]
  by_cases same : number = caller
  · subst same
    rw [List.getElem?_set_self inRange, Function.update_self]
    exact isBatch
  · rw [List.getElem?_set_ne (Ne.symm same), Function.update_of_ne same]
    rfl

theorem batches_enter (floor : Floor ε τ ρ) (caller : Caller τ ρ) :
    (floor.enter caller).1.batches =
      Function.update floor.batches floor.callers.length caller.batch? := by
  funext number
  change (floor.callers ++ [caller])[number]?.bind _ = _
  by_cases same : number = floor.callers.length
  · subst same
    rw [List.getElem?_concat_length, Function.update_self]
    rfl
  · rw [Function.update_of_ne same]
    rcases Nat.lt_or_gt_of_ne same with old | beyond
    · rw [List.getElem?_append_left old]
      rfl
    · rw [List.getElem?_eq_none (by simp; omega), Floor.batches, List.getElem?_eq_none (by omega)]

/-- Who comes in at a shutdown has no batch. -/
theorem shutdown_newcomer (floor : Floor ε τ ρ) (limit : Span) {batch : Batch τ ρ} :
    (floor.shutdown limit).1.callers[floor.callers.length]? ≠ some (.batching batch) := by
  have newcomer : ∀ caller : Caller τ ρ, (∀ batch, caller ≠ .batching batch) →
      (floor.callers ++ [caller])[floor.callers.length]? ≠ some (.batching batch) := by
    intro caller other found
    rw [List.getElem?_concat_length] at found
    exact other batch (Option.some.inj found)
  rcases floor.shutdown_cases limit with ⟨_, shutEq⟩ | ⟨_, _, shutEq⟩ | ⟨_, _, shutEq⟩
  · rw [shutEq]
    exact newcomer _ nofun
  · rw [shutEq]
    exact newcomer _ nofun
  · rw [shutEq]
    exact newcomer _ nofun

/-- Nobody has a batch before he comes in. -/
theorem batches_newcomer (floor : Floor ε τ ρ) : floor.batches floor.callers.length = none := by
  rw [Floor.batches, List.getElem?_eq_none (Nat.le_refl _)]
  rfl

/-- A newcomer is given its tasks. -/
def planned (plan : Nat → List τ) (newcomer : Nat) (tasks : List τ) : Nat → List τ :=
  Function.update plan newcomer tasks

/-- The plans of those who are there do not change. -/
theorem planned_eq (tasks : List τ) {caller : Nat} {batch : Batch τ ρ}
    (found : floor.batches caller = some batch) :
    planned plan floor.callers.length tasks caller = plan caller := by
  apply Function.update_of_ne
  rintro rfl
  rw [batches_newcomer] at found
  cases found

theorem grows_newcomer (bound : Nat) (batch : Option (Batch τ ρ)) :
    Grows bound floor.batches (Function.update floor.batches floor.callers.length batch) := by
  intro caller old found
  have there : caller ≠ floor.callers.length := by
    rintro rfl
    rw [batches_newcomer] at found
    cases found
  exact ⟨old, (Function.update_of_ne there ..).trans found, rfl, .refl _ _⟩

/-! ## The invariant -/

/-- Every job is for a task that was given, and every caller keeps to the plan. -/
structure Traced (mark : τ → μ) (plan : Nat → List τ) (floor : Floor ε τ ρ) : Prop
    extends Housed mark plan floor.batches floor where
  keeps : ∀ caller state, floor.callers[caller]? = some state → floor.Keeps (plan caller) state

namespace Traced

theorem make (mark : τ → μ) (plan : Nat → List τ) (workers capacity : Nat) (shared : ε) :
    Traced mark plan (Floor.make workers capacity shared : Floor ε τ ρ) where
  queue := nofun
  handed := fun _ member => nomatch List.eq_of_mem_replicate member
  busy := fun _ member => nomatch List.eq_of_mem_replicate member
  issued := by
    rintro caller index ticket ⟨batch, found, _⟩
    cases found
  distinct := by
    rintro caller index other place ticket ⟨batch, found, _⟩
    cases found
  collects := by
    rintro caller batch found
    cases found
  keeps := by
    rintro caller state found
    cases found

/-- Jobs move, and no caller does anything. -/
theorem stay (traced : Traced mark plan before) (shuffles : Shuffles mark before after)
    (spares : ∀ number, Spares number before after) :
    Traced mark plan after ∧ after.batches = before.batches := by
  have callers := callers_of_spares spares
  have batchesEq : after.batches = before.batches := by
    funext caller
    rw [Floor.batches, callers, Floor.batches]
  refine ⟨⟨?_, ?_⟩, batchesEq⟩
  · rw [batchesEq]
    exact traced.toHoused.shuffle shuffles
  · intro caller state found
    rw [callers] at found
    exact (traced.keeps caller state found).later fun _ => (spares caller).isCancelled

theorem onAgenda (traced : Traced mark plan floor) {change : Agenda → Agenda}
    (cancelled : ∀ scope ∈ floor.agenda.cancelled, scope ∈ (change floor.agenda).cancelled) :
    Traced mark plan (floor.onAgenda change) where
  toHoused := traced.toHoused.shuffle (floor.shuffles_onAgenda change)
  keeps := fun caller state found => (traced.keeps caller state found).later
    fun scope old => decide_eq_true (cancelled scope (of_decide_eq_true old))

/-- What tasks share changes. -/
theorem disturb (traced : Traced mark plan floor) (shared : ε) :
    Traced mark plan { floor with shared := shared } where
  toHoused := traced.toHoused.shuffle (.of_eq rfl rfl rfl fun _ => id)
  keeps := fun caller state found => (traced.keeps caller state found).later fun _ => id

/-- A batch goes on, and scopes may be cancelled. -/
theorem goOn (traced : Traced mark plan before) {caller : Nat} {batch : Batch τ ρ}
    (found : before.batches caller = some batch)
    (goesOn : GoesOn mark plan caller batch before after)
    (cancelled : ∀ scope, before.isCancelled scope = true → after.isCancelled scope = true) :
    Traced mark plan after ∧ Grows before.nextTicket before.batches after.batches := by
  obtain ⟨state, later, callers, isBatch, scope, tickets, keeps, housed⟩ := goesOn
  have inRange : caller < before.callers.length := by
    obtain ⟨old, oldFound, _⟩ := Option.bind_eq_some_iff.mp found
    exact (List.getElem?_eq_some_iff.mp oldFound).1
  have batchesEq := batches_of_set inRange callers isBatch
  refine ⟨⟨?_, ?_⟩, ?_⟩
  · rw [batchesEq]
    exact housed
  · intro number other otherFound
    rw [callers] at otherFound
    by_cases same : number = caller
    · subst same
      rw [List.getElem?_set_self inRange] at otherFound
      cases otherFound
      exact keeps
    · rw [List.getElem?_set_ne (Ne.symm same)] at otherFound
      exact (traced.keeps number other otherFound).later cancelled
  · rw [batchesEq]
    exact grows_update found scope tickets

/-- A batch may be replaced by itself. -/
theorem housed_self (traced : Traced mark plan floor) {caller : Nat} {batch : Batch τ ρ}
    (found : floor.batches caller = some batch) :
    Housed mark plan (Function.update floor.batches caller (some batch)) floor :=
  traced.toHoused.replace batch found rfl rfl (traced.collects caller batch found)

/-- The job with which a batch waits for room is for the task at its place. -/
theorem stems_offered (traced : Traced mark plan floor) {caller : Nat} {batch : Batch τ ρ}
    {job : Job τ} {due : Nat} {rest : List τ}
    (found : floor.callers[caller]? = some (.batching batch))
    (stage : batch.stage = .offering job due rest) :
    Stems plan floor.batches job job.task ∧ rest = (plan caller).drop batch.tickets.length ∧
      batch.tickets.length ≤ (plan caller).length := by
  have keeps := traced.keeps caller _ found
  rw [Keeps, stage] at keeps
  obtain ⟨index, length, ticket, scope, given, restEq⟩ := keeps
  have isBatch : floor.batches caller = some batch := by
    rw [Floor.batches, found]
    rfl
  refine ⟨⟨caller, batch, index, isBatch, scope.symm, ticket, given⟩, length ▸ restEq, ?_⟩
  rw [length]
  exact (List.getElem?_eq_some_iff.mp given).1

theorem goesOn_batchTurn (traced : Traced mark plan floor) {caller : Nat} {batch : Batch τ ρ}
    (found : floor.callers[caller]? = some (.batching batch)) :
    GoesOn mark plan caller batch floor (floor.batchTurn caller batch) := by
  have isBatch : floor.batches caller = some batch := by
    rw [Floor.batches, found]
    rfl
  have inRange : caller < floor.callers.length := (List.getElem?_eq_some_iff.mp found).1
  have keeps := traced.keeps caller _ found
  unfold Floor.batchTurn
  cases stage : batch.stage with
  | joining =>
      rw [Keeps, stage] at keeps
      exact (traced.housed_self isBatch).join keeps
  | offering job due rest =>
      obtain ⟨stems, restEq, within⟩ := traced.stems_offered found stage
      have admits := floor.admits_offerAgain job caller batch.wait due
      have offered := traced.toHoused.admit admits stems
      have callers := admits.staff.callers
      have nextTicket := admits.staff.nextTicket
      dsimp only
      rcases offerEq : floor.offerAgain caller job batch.wait due with ⟨next, _ | answer⟩
      · have same : floor.callers.set caller (.batching batch) = floor.callers := by
          rw [← (List.getElem?_eq_some_iff.mp found).2, List.set_getElem_self]
        dsimp only
        rw [offerAgain_waits _ _ offerEq]
        exact ⟨_, batch, same.symm, rfl, rfl, .refl _ _, keeps, traced.housed_self isBatch⟩
      · rw [offerEq] at offered callers nextTicket
        let joining : Batch τ ρ := { batch with stage := .joining }
        let handing : Floor ε τ ρ := next.setCaller caller (.batching joining)
        have handingEq : handing.callers = floor.callers.set caller (.batching joining) := by
          rw [← callers]
          rfl
        have batchesEq : handing.batches = Function.update floor.batches caller (some joining) :=
          batches_of_set inRange handingEq rfl
        have collects : Collects joining next := offered.collects caller batch isBatch
        have replaced := offered.replace joining isBatch rfl rfl collects
        have housed : Housed mark plan
            (Function.update handing.batches caller (some joining)) handing := by
          rw [batchesEq, Function.update_idem]
          exact replaced.shuffle (.of_eq rfl rfl rfl fun _ => id)
        obtain ⟨state, later, callersEq, isLater, scope, tickets, kept, housedAfter⟩ :=
          Housed.handIn rest joining housed restEq within
        rw [show handing.nextTicket = floor.nextTicket from nextTicket] at tickets
        refine ⟨state, later, ?_, isLater, scope, tickets, kept, ?_⟩
        · exact callersEq.trans (by rw [handingEq, List.set_set])
        · rwa [batchesEq, Function.update_idem] at housedAfter

/-- A caller without a batch turns into another one. -/
theorem setCaller (traced : Traced mark plan floor) {caller : Nat} {old new : Caller τ ρ}
    (found : floor.callers[caller]? = some old) (before : old.batch? = none)
    (after : new.batch? = none) (keeps : floor.Keeps (plan caller) new) :
    Traced mark plan (floor.setCaller caller new) ∧
      (floor.setCaller caller new).batches = floor.batches := by
  have inRange : caller < floor.callers.length := (List.getElem?_eq_some_iff.mp found).1
  have batchesEq : (floor.setCaller caller new).batches = floor.batches := by
    funext number
    change (floor.callers.set caller new)[number]?.bind _ = floor.callers[number]?.bind _
    by_cases same : number = caller
    · subst same
      rw [List.getElem?_set_self inRange, found]
      exact after.trans before.symm
    · rw [List.getElem?_set_ne (Ne.symm same)]
  refine ⟨⟨?_, ?_⟩, batchesEq⟩
  · rw [batchesEq]
    exact traced.toHoused.shuffle (.of_eq rfl rfl rfl fun _ => id)
  · intro number state stateFound
    change (floor.callers.set caller new)[number]? = some state at stateFound
    by_cases same : number = caller
    · subst same
      rw [List.getElem?_set_self inRange] at stateFound
      cases stateFound
      exact keeps.later fun _ => id
    · rw [List.getElem?_set_ne (Ne.symm same)] at stateFound
      exact (traced.keeps number state stateFound).later fun _ => id

theorem closingTurn (traced : Traced mark plan floor) {caller : Nat} {limit : Span} {due : Nat}
    (found : floor.callers[caller]? = some (.closing limit due)) :
    Traced mark plan (floor.closingTurn caller limit due) ∧
      (floor.closingTurn caller limit due).batches = floor.batches := by
  have released : Traced mark plan (floor.onAgenda (·.release (.caller caller))) :=
    traced.onAgenda fun _ => id
  unfold Floor.closingTurn
  dsimp only
  split
  · exact released.setCaller found rfl rfl trivial
  · split
    · exact released.setCaller found rfl rfl trivial
    · exact ⟨traced, rfl⟩

/-- A caller's turn. -/
theorem attend (traced : Traced mark plan floor) (caller : Nat) :
    Traced mark plan (floor.attend caller) ∧
      Grows floor.nextTicket floor.batches (floor.attend caller).batches := by
  have cancelled : ∀ scope, floor.isCancelled scope = true →
      (floor.attend caller).isCancelled scope = true :=
    fun _ => (spares_attend (Nat.succ_ne_self caller) floor).isCancelled
  unfold Floor.attend at cancelled ⊢
  cases found : floor.callers[caller]? with
  | none => exact ⟨traced, grows_of_eq _ rfl⟩
  | some state =>
      rw [found] at cancelled
      cases state with
      | offering job wait due => exact (traced.keeps caller _ found).elim
      | batching batch =>
          have isBatch : floor.batches caller = some batch := by
            rw [Floor.batches, found]
            rfl
          exact traced.goOn isBatch (traced.goesOn_batchTurn found) cancelled
      | closing limit due =>
          obtain ⟨turned, same⟩ := traced.closingTurn found
          exact ⟨turned, grows_of_eq _ same⟩
      | offered | batched | closed => exact ⟨traced, grows_of_eq _ rfl⟩

/-- Nobody begins a batch by taking a turn. -/
theorem batching_of_attend (traced : Traced mark plan floor) {caller : Nat} {batch : Batch τ ρ}
    (found : (floor.attend caller).callers[caller]? = some (.batching batch)) :
    ∃ old, floor.callers[caller]? = some (.batching old) := by
  unfold Floor.attend at found
  cases state : floor.callers[caller]? with
  | none =>
      rw [state] at found
      exact ⟨batch, state.symm.trans found⟩
  | some old =>
      rw [state] at found
      cases old with
      | offering job wait due => exact (traced.keeps caller _ state).elim
      | batching old => exact ⟨old, rfl⟩
      | closing limit due =>
          have inRange : caller < floor.callers.length := (List.getElem?_eq_some_iff.mp state).1
          have answered : ∀ answer : Outcome Unit, ∀ instant,
              (floor.callers.set caller (.closed answer instant))[caller]? ≠
                some (.batching batch) := by
            intro answer instant
            rw [List.getElem?_set_self inRange]
            nofun
          dsimp only [Floor.closingTurn] at found
          split at found
          · exact absurd found (answered _ _)
          · split at found
            · exact absurd found (answered _ _)
            · cases state.symm.trans found
      | offered | batched | closed => cases state.symm.trans found

/-! ## Newcomers -/

/-- Someone without a batch comes in. -/
theorem enter (traced : Traced mark plan floor) {caller : Caller τ ρ}
    (none : caller.batch? = none) (keeps : ∀ tasks, floor.Keeps tasks caller) :
    Traced mark plan (floor.enter caller).1 ∧ (floor.enter caller).1.batches = floor.batches := by
  have batchesEq : (floor.enter caller).1.batches = floor.batches := by
    rw [batches_enter, none, ← batches_newcomer floor, Function.update_eq_self]
  refine ⟨⟨?_, ?_⟩, batchesEq⟩
  · rw [batchesEq]
    exact traced.toHoused.shuffle (.of_eq rfl rfl rfl fun _ => id)
  · intro number state found
    rcases getElem?_enter found with old | ⟨rfl, rfl⟩
    · exact (traced.keeps number state old).later fun _ => id
    · exact (keeps _).later fun _ => id

/-- A batch that has no tickets comes in. -/
theorem housed_newcomer (traced : Traced mark plan floor) (tasks : List τ) {batch : Batch τ ρ}
    (tickets : batch.tickets = []) (collected : batch.collected = []) :
    Housed mark (planned plan floor.callers.length tasks)
      (Function.update floor.batches floor.callers.length (some batch)) floor := by
  have stands : ∀ caller index ticket,
      Stands (Function.update floor.batches floor.callers.length (some batch)) caller index ticket →
        Stands floor.batches caller index ticket := by
    rintro caller index ticket ⟨held, found, ticketEq⟩
    by_cases same : caller = floor.callers.length
    · subst same
      rw [Function.update_self] at found
      cases found
      simp [tickets] at ticketEq
    · exact ⟨held, (Function.update_of_ne same ..).symm.trans found, ticketEq⟩
  have replanned : Housed mark (planned plan floor.callers.length tasks) floor.batches floor :=
    traced.toHoused.replan fun _ _ found => planned_eq tasks found
  apply replanned.grows (grows_newcomer 0 _)
  · exact fun _ _ _ here => traced.issued _ _ _ (stands _ _ _ here)
  · exact fun _ _ _ _ _ here there =>
      traced.distinct _ _ _ _ _ (stands _ _ _ here) (stands _ _ _ there)
  · intro caller held found
    by_cases same : caller = floor.callers.length
    · subst same
      rw [Function.update_self] at found
      cases found
      rw [Collects, collected]
      exact fun _ member => absurd member List.not_mem_nil
    · exact traced.collects caller held ((Function.update_of_ne same ..).symm.trans found)

/-- A batch is run. -/
theorem executeBatch (traced : Traced mark plan floor) (wait : Span) (scope : Nat)
    (tasks : List τ) :
    Traced mark (planned plan floor.callers.length tasks) (floor.executeBatch wait scope tasks).1 ∧
      Grows floor.nextTicket floor.batches (floor.executeBatch wait scope tasks).1.batches ∧
      ∃ batch, (floor.executeBatch wait scope tasks).1.batches floor.callers.length = some batch ∧
        batch.scope = scope ∧ ∀ ticket ∈ batch.tickets, floor.nextTicket ≤ ticket := by
  let newcomer := floor.callers.length
  let next := planned plan newcomer tasks
  let batch : Batch τ ρ := { scope := scope, wait := wait }
  let entered : Floor ε τ ρ := (floor.enter (.batching batch)).1
  have batchesEq : entered.batches = Function.update floor.batches newcomer (some batch) :=
    floor.batches_enter _
  have given : next newcomer = tasks := Function.update_self ..
  have handing : Housed mark next (Function.update entered.batches newcomer (some batch))
      entered := by
    rw [batchesEq, Function.update_idem]
    exact (traced.housed_newcomer tasks rfl rfl).shuffle (.of_eq rfl rfl rfl fun _ => id)
  have goesOn : GoesOn mark next newcomer batch entered
      (entered.handIn newcomer batch tasks) := by
    apply Housed.handIn tasks batch handing
    · rw [given]
      rfl
    · exact Nat.zero_le _
  obtain ⟨state, later, callers, isBatch, scopeEq, ⟨added, tickets, fresh⟩, keeps, housed⟩ := goesOn
  have inRange : newcomer < entered.callers.length := by
    simp [entered, newcomer, Floor.enter]
  have handedIn : (floor.executeBatch wait scope tasks).1 =
      entered.handIn newcomer batch tasks := rfl
  have updated : Function.update entered.batches newcomer (some later) =
      Function.update floor.batches newcomer (some later) := by
    rw [batchesEq, Function.update_idem]
  have batchesAfter : (entered.handIn newcomer batch tasks).batches =
      Function.update floor.batches newcomer (some later) := by
    rw [← updated]
    exact batches_of_set inRange callers isBatch
  rw [handedIn]
  refine ⟨⟨?_, ?_⟩, ?_, later, ?_, scopeEq, ?_⟩
  · rwa [batchesAfter, ← updated]
  · intro number other found
    rw [callers] at found
    by_cases same : number = newcomer
    · subst same
      rw [List.getElem?_set_self inRange] at found
      cases found
      exact keeps
    · rw [List.getElem?_set_ne (Ne.symm same)] at found
      rcases getElem?_enter found with old | ⟨rfl, _⟩
      · have kept : floor.Keeps (next number) other := by
          rw [show next number = plan number from Function.update_of_ne same ..]
          exact traced.keeps number other old
        apply kept.later
        intro scope cancelled
        have spares := spares_handIn (Nat.succ_ne_self newcomer) tasks batch entered
        exact spares.isCancelled cancelled
      · exact absurd rfl same
  · rw [batchesAfter]
    exact grows_newcomer _ _
  · rw [batchesAfter, Function.update_self]
  · rw [tickets]
    exact fresh

theorem shutdown (traced : Traced mark plan floor) (limit : Span) :
    Traced mark plan (floor.shutdown limit).1 ∧
      (floor.shutdown limit).1.batches = floor.batches := by
  have shut : Traced mark plan { floor with shut := true } :=
    ⟨traced.toHoused.shuffle (.of_eq rfl rfl rfl fun _ => id), traced.keeps⟩
  have shutting : Traced mark plan floor.shutting := by
    apply shut.onAgenda
    intro scope old
    rw [Agenda.wake_cancelled, Agenda.wakeAll_cancelled]
    exact old
  rcases floor.shutdown_cases limit with ⟨_, shutEq⟩ | ⟨_, _, shutEq⟩ | ⟨_, _, shutEq⟩
  · rw [shutEq]
    exact traced.enter rfl fun _ => trivial
  · rw [shutEq]
    exact shutting.enter rfl fun _ => trivial
  · rw [shutEq]
    let closing : Caller τ ρ := .closing limit (floor.agenda.dueAfter limit)
    have entered : Traced mark plan (floor.shutting.enter closing).1 ∧
        (floor.shutting.enter closing).1.batches = floor.shutting.batches :=
      shutting.enter rfl fun _ => trivial
    exact ⟨entered.1.onAgenda fun _ => id, entered.2⟩

/-! ## Jobs that are resumed -/

/-- A job on a desk whose scope is not cancelled is for a task of a batch that is under
way. -/
theorem underway (traced : Traced mark plan floor) {job : Job τ} {task : τ}
    (stems : Stems plan floor.batches job task) (live : floor.isCancelled job.scope = false)
    (undelivered : ∀ delivery ∈ floor.deliveries, delivery.ticket ≠ job.ticket) :
    ∃ (caller : Nat) (batch : Batch τ ρ) (index : Nat),
      floor.callers[caller]? = some (.batching batch) ∧ batch.scope = job.scope ∧
      batch.tickets[index]? = some job.ticket ∧ (plan caller)[index]? = some task := by
  obtain ⟨caller, batch, index, found, scope, ticket, given⟩ := stems
  obtain ⟨state, stateFound, isBatch⟩ := Option.bind_eq_some_iff.mp found
  have keeps := traced.keeps caller state stateFound
  cases state with
  | batching other =>
      obtain rfl : other = batch := Option.some.inj isBatch
      exact ⟨caller, other, index, stateFound, scope, ticket, given⟩
  | batched other instant =>
      obtain rfl : other = batch := Option.some.inj isBatch
      rcases keeps.2 with cancelled | collected
      · rw [scope, live] at cancelled
        cases cancelled
      · obtain ⟨outcome, member⟩ := collected job.ticket (List.mem_of_getElem? ticket)
        obtain ⟨delivery, delivered, same, _⟩ := traced.collects caller other found _ member
        exact absurd same (undelivered delivery delivered)
  | offering | offered | closing | closed => cases isBatch

end Traced

/-- A ticket under which something was delivered was given out. -/
theorem Accounted.delivered_lt {history : History τ ρ} (accounted : Accounted history floor)
    {delivery : Delivery ρ} (delivered : delivery ∈ floor.deliveries) :
    delivery.ticket < floor.nextTicket := by
  have place : (delivery.ticket, .delivered delivery.outcome) ∈
      deliveryPlaces (τ := τ) floor.deliveries :=
    Multiset.mem_coe.mpr (List.mem_map_of_mem delivered)
  exact accounted.lt_nextTicket (Multiset.mem_add.mpr (.inr place))

/-- A job on a desk has no outcome yet. -/
theorem Accounted.undelivered {history : History τ ρ} (accounted : Accounted history floor)
    {index : Nat} {desk : Desk τ} {job : Job τ} (found : floor.desks[index]? = some desk)
    (seated : desk.job? = some job) :
    ∀ delivery ∈ floor.deliveries, delivery.ticket ≠ job.ticket := by
  intro delivery member same
  have onDesk : (desk.places (ρ := ρ)).countP (·.1 = job.ticket) = 1 := by
    cases desk with
    | handed | busy =>
        cases seated
        simp [Desk.places, ← Multiset.cons_zero]
    | idle | gone => cases seated
  have delivered : 0 < (deliveryPlaces (τ := τ) floor.deliveries).countP (·.1 = job.ticket) := by
    rw [countP_deliveryPlaces]
    exact List.length_pos_of_mem (List.mem_filter.mpr ⟨member, by simpa using same⟩)
  have apart : desk.places + deliveryPlaces floor.deliveries ≤ floor.whereabouts := by
    rw [← floor.whereabouts_stop found, add_comm]
    exact add_le_add_left (Multiset.le_add_left _ _) _
  have counted : floor.whereabouts.countP (·.1 = job.ticket) ≤ 1 := by
    rw [accounted.once]
    split <;> omega
  have bound := Multiset.countP_le_of_le (·.1 = job.ticket) apart
  rw [Multiset.countP_add] at bound
  omega

end RiskGate.Pool.Floor
