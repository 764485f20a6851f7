import RiskGate.Proofs.Engine.Counting
import RiskGate.Proofs.Pool.Delivery
import RiskGate.Proofs.Pool.Tracing

/-!
# Batches of an engine and of its pool

Every batch of an engine that is under way is a batch of its pool, and the other way
round.  Its items are the tasks that the pool was given, and its slots follow upon those
of the batches before it, so that every slot belongs to one item.

A turn of one of the pool's callers may end a batch of the pool.  Until the engine has
looked at it the two do not agree on this caller, who is called aside.
-/

namespace RiskGate.Engine

open Schedule (Actor Agenda Clockwork)
open Pool (Floor Batch Job)

/-! ## Slots -/

/-- The number of slots of a batch. -/
def Rounds.size : Rounds → Nat
  | .running round => round.size
  | .answered (.ok outcome) _ => outcome.items.length
  | .answered (.error _) _ => 0

/-- The slots of some batches together. -/
def slots (rounds : List Rounds) : Nat := (rounds.map Rounds.size).sum

/-- The slot of the first item of the batch with a number. -/
def slotsBefore (number : Nat) (rounds : List Rounds) : Nat := slots (rounds.take number)

section Slots

variable {rounds : List Rounds}

theorem slots_append (first second : List Rounds) :
    slots (first ++ second) = slots first + slots second := by
  rw [slots, List.map_append, List.sum_append, slots, slots]

theorem slots_singleton (round : Rounds) : slots [round] = round.size := by
  simp [slots]

/-- The slots of a batch end where those of the next one begin. -/
theorem slotsBefore_succ {number : Nat} {round : Rounds} (found : rounds[number]? = some round) :
    slotsBefore (number + 1) rounds = slotsBefore number rounds + round.size := by
  rw [slotsBefore, List.take_add_one, found, Option.toList_some, slots_append, slots_singleton,
    slotsBefore]

theorem slotsBefore_mono (rounds : List Rounds) {first second : Nat} (before : first ≤ second) :
    slotsBefore first rounds ≤ slotsBefore second rounds := by
  obtain ⟨gap, rfl⟩ := Nat.exists_eq_add_of_le before
  rw [slotsBefore, slotsBefore, List.take_add, slots_append]
  exact Nat.le_add_right _ _

theorem slotsBefore_le (number : Nat) (rounds : List Rounds) :
    slotsBefore number rounds ≤ slots rounds := by
  conv => rhs; rw [← List.take_append_drop number rounds, slots_append]
  exact Nat.le_add_right _ _

/-- The slots of a batch lie among those of all batches. -/
theorem slot_lt_slots {number index : Nat} {round : Rounds} (found : rounds[number]? = some round)
    (inside : index < round.size) : slotsBefore number rounds + index < slots rounds := by
  have next := slotsBefore_succ found
  have bound := slotsBefore_le (number + 1) rounds
  omega

/-- A slot belongs to one batch, and to one of its items. -/
theorem slot_unique {number other index place : Nat} {round another : Rounds}
    (found : rounds[number]? = some round) (inside : index < round.size)
    (otherFound : rounds[other]? = some another) (within : place < another.size)
    (same : slotsBefore number rounds + index = slotsBefore other rounds + place) :
    number = other ∧ index = place := by
  have next := slotsBefore_succ found
  have otherNext := slotsBefore_succ otherFound
  rcases Nat.lt_trichotomy number other with before | rfl | behind
  · have := slotsBefore_mono rounds (show number + 1 ≤ other by omega)
    omega
  · omega
  · have := slotsBefore_mono rounds (show other + 1 ≤ number by omega)
    omega

/-- A batch that keeps its size keeps all slots in their places. -/
theorem map_size_set {number : Nat} {old new : Rounds} (found : rounds[number]? = some old)
    (size : new.size = old.size) :
    (rounds.set number new).map Rounds.size = rounds.map Rounds.size := by
  rw [List.map_set, size]
  apply List.ext_getElem?
  intro other
  by_cases same : number = other
  · subst same
    rw [List.getElem?_set_self (by simpa using (List.getElem?_eq_some_iff.mp found).1),
      List.getElem?_map, found]
    rfl
  · rw [List.getElem?_set_ne same]

theorem slotsBefore_congr {others : List Rounds}
    (sizes : others.map Rounds.size = rounds.map Rounds.size) (number : Nat) :
    slotsBefore number others = slotsBefore number rounds := by
  rw [slotsBefore, slots, List.map_take, sizes, ← List.map_take, ← slots, slotsBefore]

/-- Later batches do not move the slots of earlier ones. -/
theorem slotsBefore_append {number : Nat} (later : List Rounds) (there : number ≤ rounds.length) :
    slotsBefore number (rounds ++ later) = slotsBefore number rounds := by
  rw [slotsBefore, List.take_append_of_le_length there, slotsBefore]

/-- Every slot belongs to an item of a batch. -/
theorem exists_item_of_lt_slots {slot : Nat} (inside : slot < slots rounds) :
    ∃ number round index, rounds[number]? = some round ∧ index < round.size ∧
      slot = slotsBefore number rounds + index := by
  induction rounds generalizing slot with
  | nil => cases inside
  | cons first rest ih =>
      have slotsEq : slots (first :: rest) = first.size + slots rest := rfl
      rw [slotsEq] at inside
      by_cases early : slot < first.size
      · exact ⟨0, first, slot, rfl, early, (Nat.zero_add slot).symm⟩
      · obtain ⟨number, round, index, found, within, slotEq⟩ :=
          ih (show slot - first.size < slots rest by omega)
        have later : slotsBefore (number + 1) (first :: rest) =
            first.size + slotsBefore number rest := rfl
        exact ⟨number + 1, round, index, found, within, by omega⟩

end Slots

/-! ## The errands of a batch -/

theorem errands_length (firstSlot : Nat) (requests : List Request) :
    (errands firstSlot requests).length = requests.length := by
  simp [errands]

/-- The errand of an item is fresh and has the slot of the item. -/
theorem errands_getElem? {firstSlot index : Nat} {requests : List Request} {errand : Errand .assess}
    (found : (errands firstSlot requests)[index]? = some errand) :
    ∃ request, requests[index]? = some request ∧
      errand = { request := request, slot := some (firstSlot + index) } := by
  simp only [errands, List.getElem?_map, List.getElem?_zipIdx, Option.map_map,
    Option.map_eq_some_iff, Function.comp] at found
  obtain ⟨request, given, rfl⟩ := found
  exact ⟨request, given, by rw [Nat.zero_add]⟩

/-- An errand goes on with its slot. -/
theorem Errand.resume_slot {operation : Operation} {errand next : Errand operation}
    {cancelled : Bool} {now : Nat} {core : Core} {alarms : List Nat}
    (suspended : (errand.resume cancelled now core).2 = .suspended next alarms) :
    next.slot = errand.slot := by
  rcases errand.course_resume cancelled now core with ⟨_, _, resumeEq⟩ | ⟨_, course⟩
  · rw [resumeEq] at suspended
    cases suspended
  · rw [suspended] at course
    cases course with
    | waits => rfl

theorem keepsMark_slot : Floor.KeepsMark Core Assessment (@Errand.slot .assess) :=
  fun _ _ _ _ _ _ suspended => Errand.resume_slot suspended

/-! ## The invariant -/

/-- A batch of the engine that is under way is one of the pool's, with its scope, and its
items are the tasks that the pool was given. -/
structure Given (plan : Nat → List (Errand .assess))
    (floor : Floor Core (Errand .assess) Assessment) (round : Round) : Prop where
  tasks : ∃ requests, plan round.caller = errands round.firstSlot requests ∧
    requests.length = round.size
  batch : ∃ batch, floor.batches round.caller = some batch ∧ batch.scope = round.scope

/-- The batches of an engine and of its pool belong together, but for a caller who is
aside. -/
structure Orderly (plan : Nat → List (Errand .assess)) (aside : Option Nat)
    (floor : Floor Core (Errand .assess) Assessment) (rounds : List Rounds) (nextSlot : Nat) :
    Prop where
  sound : ∃ history, floor.Sound history
  traced : floor.Traced Errand.slot plan
  given : ∀ (number : Nat) (round : Round), rounds[number]? = some (.running round) →
    Given plan floor round
  firstSlot : ∀ (number : Nat) (round : Round), rounds[number]? = some (.running round) →
    round.firstSlot = slotsBefore number rounds
  solo : ∀ (number other : Nat) (round another : Round), rounds[number]? = some (.running round) →
    rounds[other]? = some (.running another) → round.caller = another.caller → number = other
  matched : ∀ (caller : Nat) (batch : Batch (Errand .assess) Assessment),
    floor.callers[caller]? = some (.batching batch) →
      ∃ (number : Nat) (round : Round), rounds[number]? = some (.running round) ∧
        round.caller = caller
  underway : ∀ (number : Nat) (round : Round), rounds[number]? = some (.running round) →
    aside ≠ some round.caller → ∃ batch, floor.callers[round.caller]? = some (.batching batch)
  nextSlot_eq : nextSlot = slots rounds

namespace Orderly

variable {plan : Nat → List (Errand .assess)} {aside : Option Nat} {rounds : List Rounds}
variable {before after floor : Floor Core (Errand .assess) Assessment} {nextSlot : Nat}

theorem make (settings : Config.Settings) (service : Service) :
    Orderly (fun _ => []) none (make settings service).floor [] 0 where
  sound := ⟨[], .make _ _ _⟩
  traced := .make _ _ _ _ _
  given := nofun
  firstSlot := nofun
  solo := nofun
  matched := by
    intro _ _ found
    cases found
  underway := nofun
  nextSlot_eq := rfl

/-- The pool does something, and the batch of nobody ends by it who is not aside. -/
theorem move {start : Option Nat} (orderly : Orderly plan start before rounds nextSlot)
    (aside : Option Nat) (covers : ∀ caller, aside ≠ some caller → start ≠ some caller)
    (sound : ∃ history, after.Sound history) (traced : after.Traced Errand.slot plan)
    {bound : Nat} (grows : Floor.Grows bound before.batches after.batches)
    (began : ∀ (caller : Nat) (batch : Batch (Errand .assess) Assessment),
      after.callers[caller]? = some (.batching batch) →
        ∃ old, before.callers[caller]? = some (.batching old))
    (goesOn : ∀ (caller : Nat) (batch : Batch (Errand .assess) Assessment),
      aside ≠ some caller → before.callers[caller]? = some (.batching batch) →
        ∃ later, after.callers[caller]? = some (.batching later)) :
    Orderly plan aside after rounds nextSlot where
  sound := sound
  traced := traced
  given := by
    intro number round found
    obtain ⟨tasks, batch, batchFound, scope⟩ := orderly.given number round found
    obtain ⟨later, laterFound, laterScope, _⟩ := grows _ batch batchFound
    exact ⟨tasks, later, laterFound, laterScope.trans scope⟩
  firstSlot := orderly.firstSlot
  solo := orderly.solo
  matched := by
    intro caller batch found
    obtain ⟨old, oldFound⟩ := began caller batch found
    exact orderly.matched caller old oldFound
  underway := by
    intro number round found others
    obtain ⟨batch, batching⟩ := orderly.underway number round found (covers _ others)
    exact goesOn _ batch others batching
  nextSlot_eq := orderly.nextSlot_eq

/-- No caller does anything. -/
theorem stay (orderly : Orderly plan aside before rounds nextSlot)
    (sound : ∃ history, after.Sound history) (traced : after.Traced Errand.slot plan)
    (callers : after.callers = before.callers) : Orderly plan aside after rounds nextSlot := by
  apply orderly.move aside (fun _ => id) sound traced
  · apply Floor.grows_of_eq 0
    funext caller
    rw [Floor.batches, callers, Floor.batches]
  · intro caller batch found
    rw [callers] at found
    exact ⟨batch, found⟩
  · intro caller batch _ found
    rw [callers]
    exact ⟨batch, found⟩

theorem onAgenda (orderly : Orderly plan aside floor rounds nextSlot) {change : Agenda → Agenda}
    (cancelled : ∀ scope ∈ floor.agenda.cancelled, scope ∈ (change floor.agenda).cancelled) :
    Orderly plan aside (floor.onAgenda change) rounds nextSlot := by
  obtain ⟨history, sound⟩ := orderly.sound
  exact orderly.stay ⟨history, sound.onAgenda cancelled⟩ (orderly.traced.onAgenda cancelled) rfl

/-- What the errands share changes. -/
theorem disturb (orderly : Orderly plan aside floor rounds nextSlot) (core : Core) :
    Orderly plan aside { floor with shared := core } rounds nextSlot := by
  obtain ⟨history, sound⟩ := orderly.sound
  refine orderly.stay ⟨history, ?_⟩ (orderly.traced.disturb core) rfl
  exact sound.frame ⟨rfl, rfl, rfl, rfl, rfl, rfl, rfl⟩ rfl

theorem dispatch (orderly : Orderly plan none floor rounds nextSlot) :
    Orderly plan none floor.dispatch rounds nextSlot := by
  obtain ⟨history, sound⟩ := orderly.sound
  have spares := fun number => Floor.spares_dispatch number floor
  exact orderly.stay ⟨history, sound.dispatch⟩
    (orderly.traced.stay floor.shuffles_dispatch spares).1 (Floor.callers_of_spares spares)

theorem work (orderly : Orderly plan none floor rounds nextSlot) (index : Nat) :
    Orderly plan none (floor.work index) rounds nextSlot := by
  obtain ⟨history, sound⟩ := orderly.sound
  have spares := fun number => Floor.spares_work number index floor
  exact orderly.stay ⟨_, sound.work index⟩
    (orderly.traced.stay (floor.shuffles_work keepsMark_slot index) spares).1
    (Floor.callers_of_spares spares)

/-- A turn of a caller, who is then aside. -/
theorem attend (orderly : Orderly plan none floor rounds nextSlot) (caller : Nat) :
    Orderly plan (some caller) (floor.attend caller) rounds nextSlot ∧
      Floor.Grows floor.nextTicket floor.batches (floor.attend caller).batches := by
  obtain ⟨history, sound⟩ := orderly.sound
  obtain ⟨traced, grows⟩ := orderly.traced.attend caller
  refine ⟨orderly.move (some caller) nofun ⟨_, sound.attend caller⟩ traced grows ?_ ?_, grows⟩
  · intro other batch found
    by_cases same : other = caller
    · subst same
      exact orderly.traced.batching_of_attend found
    · rw [(Floor.spares_attend same floor).caller] at found
      exact ⟨batch, found⟩
  · intro other batch aside found
    have distinct : other ≠ caller := fun same => aside (congrArg some same.symm)
    rw [(Floor.spares_attend distinct floor).caller]
    exact ⟨batch, found⟩

/-- Someone without a batch comes in. -/
theorem newcomer (orderly : Orderly plan none before rounds nextSlot) (aside : Option Nat)
    (sound : ∃ history, after.Sound history) (traced : after.Traced Errand.slot plan)
    (batches : after.batches = before.batches)
    (others : ∀ number, number ≠ before.callers.length →
      after.callers[number]? = before.callers[number]?)
    (without : ∀ batch, after.callers[before.callers.length]? ≠ some (.batching batch)) :
    Orderly plan aside after rounds nextSlot := by
  apply orderly.move aside nofun sound traced (Floor.grows_of_eq 0 batches)
  · intro caller batch found
    by_cases same : caller = before.callers.length
    · subst same
      exact absurd found (without batch)
    · rw [others caller same] at found
      exact ⟨batch, found⟩
  · intro caller batch _ found
    have there : caller ≠ before.callers.length :=
      Nat.ne_of_lt (List.getElem?_eq_some_iff.mp found).1
    rw [others caller there]
    exact ⟨batch, found⟩

theorem enterClosed (orderly : Orderly plan none floor rounds nextSlot) (answer : Outcome Unit)
    (instant : Nat) :
    Orderly plan none (floor.enter (.closed answer instant)).1 rounds nextSlot := by
  obtain ⟨history, sound⟩ := orderly.sound
  let closed : Pool.Caller (Errand .assess) Assessment := .closed answer instant
  have entered := orderly.traced.enter (show closed.batch? = none from rfl) fun _ => trivial
  apply orderly.newcomer none ⟨_, sound.enter rfl⟩ entered.1 entered.2
  · exact fun number other => (Floor.spares_enter number floor other _).caller
  · intro batch found
    rw [show (floor.enter (.closed answer instant)).1.callers[floor.callers.length]? =
      some (.closed answer instant) from List.getElem?_concat_length] at found
    cases found

theorem shutdown (orderly : Orderly plan none floor rounds nextSlot) (limit : Span) :
    Orderly plan (some (floor.shutdown limit).2) (floor.shutdown limit).1 rounds nextSlot := by
  obtain ⟨history, sound⟩ := orderly.sound
  obtain ⟨traced, batches⟩ := orderly.traced.shutdown limit
  apply orderly.newcomer _ ⟨_, sound.shutdown limit⟩ traced batches
  · exact fun number other => (Floor.spares_shutdown floor other limit).caller
  · exact fun _ => floor.shutdown_newcomer limit

/-! ## Ends of batches -/

/-- The engine has looked at the caller who was aside, and found that no batch of its
own has ended. -/
theorem settle {caller : Nat} (orderly : Orderly plan (some caller) floor rounds nextSlot)
    (settled : ∀ (number : Nat) (round : Round), rounds[number]? = some (.running round) →
      round.caller = caller → ∃ batch, floor.callers[caller]? = some (.batching batch)) :
    Orderly plan none floor rounds nextSlot :=
  { orderly with
    underway := by
      intro number round found _
      by_cases same : round.caller = caller
      · rw [same]
        exact settled number round found same
      · exact orderly.underway number round found fun aside => same (Option.some.inj aside).symm }

/-- The slots of a batch are as many as the outcomes that the pool reports. -/
theorem outcomes_length (orderly : Orderly plan aside floor rounds nextSlot) {number : Nat}
    {round : Round} (found : rounds[number]? = some (.running round))
    {batch : Batch (Errand .assess) Assessment} {instant : Nat}
    (ended : floor.callers[round.caller]? = some (.batched batch instant)) :
    batch.outcomes.length = round.size := by
  obtain ⟨⟨requests, plan_eq, length⟩, _⟩ := orderly.given number round found
  have all := (orderly.traced.keeps _ _ ended).1
  rw [plan_eq, errands_length, length] at all
  rw [Batch.outcomes, List.length_map, all]

/-- A batch is answered. -/
theorem answer {caller : Nat} (orderly : Orderly plan (some caller) floor rounds nextSlot)
    {number : Nat} {round : Round} (found : rounds[number]? = some (.running round))
    (own : round.caller = caller)
    (ended : ∀ batch, floor.callers[caller]? ≠ some (.batching batch))
    {items : List (Outcome Assessment)} (length : items.length = round.size) (instant : Nat) :
    Orderly plan none floor (rounds.set number (.answered (.ok ⟨items⟩) instant)) nextSlot := by
  have inRange : number < rounds.length := (List.getElem?_eq_some_iff.mp found).1
  have sizes := map_size_set found
    (show (Rounds.answered (.ok ⟨items⟩) instant).size = _ from length)
  have others : ∀ (other : Nat) (another : Round),
      (rounds.set number (.answered (.ok ⟨items⟩) instant))[other]? = some (.running another) →
        other ≠ number ∧ rounds[other]? = some (.running another) := by
    intro other another otherFound
    by_cases same : number = other
    · subst same
      rw [List.getElem?_set_self inRange] at otherFound
      cases otherFound
    · rw [List.getElem?_set_ne same] at otherFound
      exact ⟨Ne.symm same, otherFound⟩
  refine ⟨orderly.sound, orderly.traced, ?_, ?_, ?_, ?_, ?_, ?_⟩
  · exact fun other another there => orderly.given other another (others _ _ there).2
  · intro other another there
    rw [slotsBefore_congr sizes]
    exact orderly.firstSlot other another (others _ _ there).2
  · exact fun first second round another there here =>
      orderly.solo first second round another (others _ _ there).2 (others _ _ here).2
  · intro other batch batching
    obtain ⟨place, another, there, callerEq⟩ := orderly.matched other batch batching
    have distinct : number ≠ place := by
      rintro rfl
      cases found.symm.trans there
      rw [← callerEq, own] at batching
      exact ended batch batching
    exact ⟨place, another, (List.getElem?_set_ne distinct).trans there, callerEq⟩
  · intro other another there _
    obtain ⟨distinct, there⟩ := others _ _ there
    apply orderly.underway other another there
    intro aside
    apply distinct
    exact orderly.solo other number another round there found
      ((Option.some.inj aside).symm.trans own.symm)
  · rw [slots, sizes]
    exact orderly.nextSlot_eq

/-! ## New batches -/

/-- A batch that is answered without being run. -/
theorem refuse (orderly : Orderly plan none floor rounds nextSlot) {round : Rounds}
    (empty : round.size = 0) (answered : ∀ another, round ≠ .running another) :
    Orderly plan none floor (rounds ++ [round]) nextSlot := by
  have old : ∀ (number : Nat) (another : Round),
      (rounds ++ [round])[number]? = some (.running another) →
        rounds[number]? = some (.running another) := by
    intro number another found
    rcases Floor.getElem?_concat_cases found with there | ⟨_, same⟩
    · exact there
    · exact absurd same.symm (answered another)
  refine ⟨orderly.sound, orderly.traced, ?_, ?_, ?_, ?_, ?_, ?_⟩
  · exact fun number another found => orderly.given number another (old _ _ found)
  · intro number another found
    have there := old _ _ found
    rw [slotsBefore_append _ (Nat.le_of_lt (List.getElem?_eq_some_iff.mp there).1)]
    exact orderly.firstSlot number another there
  · exact fun first second one another found there =>
      orderly.solo first second one another (old _ _ found) (old _ _ there)
  · intro caller batch batching
    obtain ⟨number, another, found, own⟩ := orderly.matched caller batch batching
    have inRange := (List.getElem?_eq_some_iff.mp found).1
    exact ⟨number, another, (List.getElem?_append_left inRange).trans found, own⟩
  · exact fun number another found => orderly.underway number another (old _ _ found)
  · rw [slots_append, slots_singleton, empty]
    exact orderly.nextSlot_eq

/-- A batch is run by the pool. -/
theorem executeBatch (orderly : Orderly plan none floor rounds nextSlot) (wait : Span)
    {round : Round} {requests : List Request} (caller : round.caller = floor.callers.length)
    (firstSlot : round.firstSlot = nextSlot) (size : round.size = requests.length) :
    Orderly (Floor.planned plan floor.callers.length (errands nextSlot requests))
        (some floor.callers.length)
        (floor.executeBatch wait round.scope (errands nextSlot requests)).1
        (rounds ++ [Rounds.running round]) (nextSlot + requests.length) ∧
      Floor.Grows floor.nextTicket floor.batches
        (floor.executeBatch wait round.scope (errands nextSlot requests)).1.batches ∧
      ∃ batch, (floor.executeBatch wait round.scope (errands nextSlot requests)).1.batches
          floor.callers.length = some batch ∧
        ∀ ticket ∈ batch.tickets, floor.nextTicket ≤ ticket := by
  obtain ⟨history, sound⟩ := orderly.sound
  obtain ⟨traced, grows, batch, batchFound, scope, fresh⟩ :=
    orderly.traced.executeBatch wait round.scope (errands nextSlot requests)
  have ran := sound.executeBatch wait round.scope (errands nextSlot requests)
  have others : ∀ other, other ≠ floor.callers.length →
      (floor.executeBatch wait round.scope (errands nextSlot requests)).1.callers[other]? =
        floor.callers[other]? :=
    fun other distinct => (Floor.spares_executeBatch floor distinct wait round.scope _).caller
  generalize (floor.executeBatch wait round.scope (errands nextSlot requests)).1 = next
    at traced grows batchFound ran others ⊢
  have split : ∀ (number : Nat) (another : Round),
      (rounds ++ [.running round])[number]? = some (.running another) →
        rounds[number]? = some (.running another) ∨ number = rounds.length ∧ another = round := by
    intro number another found
    rcases Floor.getElem?_concat_cases found with old | ⟨last, same⟩
    · exact .inl old
    · exact .inr ⟨last, Rounds.running.inj same⟩
  have there : ∀ (number : Nat) (another : Round), rounds[number]? = some (.running another) →
      another.caller ≠ floor.callers.length := by
    intro number another found newcomer
    obtain ⟨_, held, heldFound, _⟩ := orderly.given number another found
    rw [newcomer, Floor.batches_newcomer] at heldFound
    cases heldFound
  refine ⟨⟨⟨_, ran⟩, traced, ?_, ?_, ?_, ?_, ?_, ?_⟩, grows, batch, batchFound, fresh⟩
  · intro number another found
    rcases split number another found with old | ⟨_, rfl⟩
    · obtain ⟨tasks, held, heldFound, heldScope⟩ := orderly.given number another old
      obtain ⟨later, laterFound, laterScope, _⟩ := grows _ held heldFound
      refine ⟨?_, later, laterFound, laterScope.trans heldScope⟩
      rwa [Floor.planned_eq _ heldFound]
    · refine ⟨⟨requests, ?_, size.symm⟩, batch, caller ▸ batchFound, scope⟩
      rw [caller, firstSlot]
      exact Function.update_self ..
  · intro number another found
    rcases split number another found with old | ⟨rfl, rfl⟩
    · rw [slotsBefore_append _ (Nat.le_of_lt (List.getElem?_eq_some_iff.mp old).1)]
      exact orderly.firstSlot number another old
    · rw [slotsBefore_append _ (Nat.le_refl _), slotsBefore, List.take_length, firstSlot]
      exact orderly.nextSlot_eq
  · intro number other one another found otherFound same
    rcases split number one found with old | ⟨rfl, rfl⟩
    · rcases split other another otherFound with older | ⟨_, rfl⟩
      · exact orderly.solo number other one another old older same
      · exact absurd (same.trans caller) (there number one old)
    · rcases split other another otherFound with older | ⟨rfl, _⟩
      · exact absurd (same.symm.trans caller) (there other another older)
      · rfl
  · intro other held batching
    by_cases newcomer : other = floor.callers.length
    · exact ⟨rounds.length, round, List.getElem?_concat_length, caller.trans newcomer.symm⟩
    · rw [others other newcomer] at batching
      obtain ⟨number, another, found, own⟩ := orderly.matched other held batching
      have inRange := (List.getElem?_eq_some_iff.mp found).1
      exact ⟨number, another, (List.getElem?_append_left inRange).trans found, own⟩
  · intro number another found aside
    rcases split number another found with old | ⟨_, rfl⟩
    · rw [others _ (there number another old)]
      exact orderly.underway number another old nofun
    · exact absurd (congrArg some caller.symm) aside
  · rw [slots_append, slots_singleton, orderly.nextSlot_eq]
    exact congrArg _ size.symm

/-! ## Jobs -/

/-- A job of the pool belongs to an item of a batch under way: it has the scope of the
batch, its ticket stands at the place of the item, and its errand has the slot of the
item. -/
structure ForItem (rounds : List Rounds) (floor : Floor Core (Errand .assess) Assessment)
    (job : Job (Errand .assess)) (number index : Nat) (round : Round)
    (batch : Batch (Errand .assess) Assessment) : Prop where
  found : rounds[number]? = some (.running round)
  batchFound : floor.batches round.caller = some batch
  scope : round.scope = job.scope
  inside : index < round.size
  ticket : batch.tickets[index]? = some job.ticket
  slot : job.task.slot = some (round.firstSlot + index)

/-- A job on a desk whose scope is not cancelled is for an item whose outcome nobody
knows yet. -/
theorem resumed (orderly : Orderly plan none floor rounds nextSlot) {place : Nat}
    {desk : Pool.Desk (Errand .assess)} {job : Job (Errand .assess)}
    (found : floor.desks[place]? = some desk) (seated : desk.job? = some job)
    (live : floor.isCancelled job.scope = false) :
    (∃ number index round batch, ForItem rounds floor job number index round batch) ∧
      ∀ delivery ∈ floor.deliveries, delivery.ticket ≠ job.ticket := by
  obtain ⟨history, sound⟩ := orderly.sound
  have undelivered := sound.accounted.undelivered found seated
  have held : floor.Holds job := by
    have member := List.mem_of_getElem? found
    cases desk with
    | handed other =>
        cases seated
        exact .inr (.inl member)
    | busy other =>
        cases seated
        exact .inr (.inr member)
    | idle | gone => cases seated
  obtain ⟨task, stems, sameSlot⟩ := orderly.traced.toHoused.holds held
  obtain ⟨caller, batch, index, batching, scope, ticket, given⟩ :=
    orderly.traced.underway stems live undelivered
  obtain ⟨number, round, roundFound, rfl⟩ := orderly.matched caller batch batching
  obtain ⟨⟨requests, plan_eq, length⟩, held, heldFound, heldScope⟩ :=
    orderly.given number round roundFound
  rw [plan_eq] at given
  obtain ⟨request, requestFound, rfl⟩ := errands_getElem? given
  have batchFound : floor.batches round.caller = some batch := by
    rw [Floor.batches, batching]
    rfl
  refine ⟨⟨number, index, round, batch, roundFound, batchFound, ?_, ?_, ticket, sameSlot⟩,
    undelivered⟩
  · cases batchFound.symm.trans heldFound
    exact heldScope.symm.trans scope
  · rw [← length]
    exact (List.getElem?_eq_some_iff.mp requestFound).1

end Orderly

/-! ## Looking at a caller -/

section Conclusions

variable {engine : Engine} {caller number : Nat} {round : Round}

theorem roundOf?_some (found : engine.roundOf? caller = some (number, round)) :
    engine.rounds[number]? = some (.running round) ∧ round.caller = caller := by
  obtain ⟨⟨state, index⟩, member, found⟩ := List.exists_of_findSome?_eq_some found
  have stands := List.mem_zipIdx_iff_getElem?.mp member
  cases state with
  | running running =>
      dsimp only at found
      split at found
      next own =>
        cases found
        exact ⟨stands, own⟩
      · cases found
  | answered => cases found

theorem roundOf?_none (none : engine.roundOf? caller = none)
    (found : engine.rounds[number]? = some (.running round)) : round.caller ≠ caller := by
  intro own
  have absent := List.findSome?_eq_none_iff.mp none (.running round, number)
    (List.mem_zipIdx_iff_getElem?.mpr found)
  simp [own] at absent

end Conclusions

end RiskGate.Engine
