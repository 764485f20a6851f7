import RiskGate.Proofs.Engine.OnceCounted
import RiskGate.Proofs.Pool.SoloRun

/-!
# Requests one after another

While the service answers at once, an errand ends in the turn in which it is begun.  The
errand of an item of a batch then comes to the same end as the errand of a single request,
and leaves the same behind, but for the slot that it claims.
-/

namespace RiskGate.Engine

open Schedule (Actor Agenda)
open Pool (Progress)

/-- The service answers every further assessment at once. -/
def Core.Prompt (core : Core) : Prop :=
  ∀ number, core.calls.length ≤ number → ∀ request,
    (core.service.reply number .assess core.model request).latency = 0

/-- The same, with these slots claimed. -/
def Core.claiming (claimed : List Nat) (core : Core) : Core := { core with claimed := claimed }

section Items

variable {claimed : List Nat} {slot now : Nat} {request : Request} {core : Core}

theorem Core.Prompt.onward {before after : Core} (prompt : before.Prompt)
    (onward : Core.Onward before after) : after.Prompt := by
  intro number later request
  have model : after.model = before.model := by rw [Core.model, onward.settings, Core.model]
  rw [onward.service, model]
  exact prompt number (Nat.le_trans onward.calls.length_le later) request

theorem lookup_claiming (key : String) :
    (core.claiming claimed).lookup now key =
      ((core.lookup now key).1.claiming claimed, (core.lookup now key).2) := by
  unfold Core.lookup
  dsimp only [Core.claiming]
  split <;> rfl

/-- A request that was not found asks the same whatever slots are claimed. -/
theorem sought_claiming :
    (core.claiming claimed).sought now .assess request =
      ((core.sought now .assess request).1.claiming claimed,
        (core.sought now .assess request).2) := by
  unfold Core.sought
  dsimp only [Core.claiming]
  split <;> rfl

/-- The errand of a single request. -/
def single (request : Request) : Errand .assess := { request := request }

/-- The errand of an item. -/
def item (slot : Nat) (request : Request) : Errand .assess :=
  { request := request, slot := some slot }

/-- An item that ends claims its slot. -/
theorem finish_item (free : slot ∉ claimed) (begunAt : Nat)
    (outcome : Outcome Operation.assess.Result) :
    ((single request).finish now begunAt outcome core).2 = .finished outcome ∧
      (item slot request).finish now begunAt outcome (core.claiming claimed) =
        (((single request).finish now begunAt outcome core).1.claiming (slot :: claimed),
          .finished outcome) := by
  cases outcome with
  | ok value =>
      refine ⟨rfl, ?_⟩
      simp [Errand.finish, Core.recordOnce, Core.claim, Core.claiming, item, single, free,
        Core.record, Errand.key]
  | error failure =>
      refine ⟨rfl, ?_⟩
      simp [Errand.finish, Core.recordFailure, Core.recordOnce, Core.claim, Core.claiming, item,
        single, free, Core.record]

/-- What an errand that ends at once comes to, for a single request and for an item. -/
structure Ends (now : Nat) (request : Request) (core next : Core)
    (outcome : Outcome Assessment) : Prop where
  alone : (single request).resume false now core = (next, .finished outcome)
  inBatch : ∀ (slot : Nat) (claimed : List Nat), slot ∉ claimed →
    ∃ later, (item slot request).resume false now (core.claiming claimed) =
        (next.claiming later, .finished outcome) ∧
      (later = claimed ∧ (∃ value, outcome = .ok value) ∨ later = slot :: claimed)

/-- An errand that ends with an outcome of its own. -/
theorem ends_finish {before : Core} {begunAt : Nat} {outcome : Outcome Operation.assess.Result}
    (alone : (single request).resume false now core =
      (single request).finish now begunAt outcome before)
    (inBatch : ∀ slot claimed, (item slot request).resume false now (core.claiming claimed) =
      (item slot request).finish now begunAt outcome (before.claiming claimed)) :
    ∃ next, Ends now request core next outcome := by
  refine ⟨((single request).finish now begunAt outcome before).1, ?_, ?_⟩
  · rw [alone]
    cases outcome <;> rfl
  · intro slot claimed free
    refine ⟨slot :: claimed, ?_, .inr rfl⟩
    rw [inBatch]
    exact (finish_item free begunAt outcome).2

/-! ### Errands that have not begun -/

/-- While the service answers at once, every errand ends at once. -/
theorem Core.Prompt.ends (prompt : core.Prompt) (request : Request) (now : Nat) :
    ∃ next outcome, Ends now request core next outcome := by
  rcases lookup : core.lookup now (single request).key with ⟨looked, found⟩
  have lookupItem : ∀ slot claimed, (core.claiming claimed).lookup now (item slot request).key =
      (looked.claiming claimed, found) := by
    intro slot claimed
    rw [show (item slot request).key = (single request).key from rfl, lookup_claiming, lookup]
  cases known : found.bind Operation.assess.ofAnswer with
  | some value =>
      have alone := (single request).resume_fresh now core false rfl lookup
      rw [known] at alone
      refine ⟨looked, .ok value, alone, ?_⟩
      intro slot claimed _
      have same := (item slot request).resume_fresh now _ false rfl (lookupItem slot claimed)
      rw [known] at same
      exact ⟨claimed, same, .inl ⟨rfl, value, rfl⟩⟩
  | none =>
      have sheds := core.sheds_lookup now (single request).key
      rw [lookup] at sheds
      have atOnce := prompt.onward sheds.toOnward looked.calls.length (Nat.le_refl _) request
      have alone := (single request).resume_prompt now core rfl lookup known atOnce
      have inBatch : ∀ slot claimed, (item slot request).resume false now (core.claiming claimed) =
          (item slot request).finish now now (looked.sought now .assess request).2
            ((looked.sought now .assess request).1.claiming claimed) := by
        intro slot claimed
        have same := (item slot request).resume_prompt now _ rfl (lookupItem slot claimed) known
          atOnce
        rw [show (item slot request).request = request from rfl, sought_claiming] at same
        exact same
      obtain ⟨next, ends⟩ := ends_finish alone inBatch
      exact ⟨next, _, ends⟩

theorem Ends.onward {next : Core} {outcome : Outcome Assessment}
    (ends : Ends now request core next outcome) : Core.Onward core next := by
  have resumed := ends.alone
  rcases Errand.resume_cases now (single request) core false (.fresh core request none) with
    ⟨value, _, resumeEq⟩ | ⟨_, turned⟩
  · obtain ⟨rfl, _⟩ := Prod.mk.inj (resumeEq.symm.trans resumed)
    exact (core.sheds_lookup now _).toOnward
  · rw [resumed] at turned
    cases turned with
    | answered value answered => exact answered.onward
    | failed failure sheds => exact sheds.toOnward

end Items

/-! ## Sequences of requests -/

/-- Requests are answered one after another: the outcomes, and what is left behind. -/
inductive Answers (now : Nat) : List Request → Core → List (Outcome Assessment) → Core → Prop
  | nil (core : Core) : Answers now [] core [] core
  | cons {request : Request} {rest : List Request} {core next final : Core}
      {outcome : Outcome Assessment} {outcomes : List (Outcome Assessment)}
      (ends : Ends now request core next outcome) (later : Answers now rest next outcomes final) :
      Answers now (request :: rest) core (outcome :: outcomes) final

theorem Core.Prompt.answers {core : Core} (prompt : core.Prompt) (requests : List Request)
    (now : Nat) : ∃ outcomes final, Answers now requests core outcomes final := by
  induction requests generalizing core with
  | nil => exact ⟨[], core, .nil core⟩
  | cons request rest ih =>
      obtain ⟨next, outcome, ends⟩ := prompt.ends request now
      obtain ⟨outcomes, final, later⟩ := ih (prompt.onward ends.onward)
      exact ⟨outcome :: outcomes, final, .cons ends later⟩

theorem errands_cons (slot : Nat) (request : Request) (rest : List Request) :
    errands slot (request :: rest) = item slot request :: errands (slot + 1) rest := by
  apply List.ext_getElem?
  intro index
  cases index with
  | zero => simp [errands, item]
  | succ index => simp [errands, Function.comp_def, Nat.add_assoc, Nat.add_comm 1]

/-- The items of a batch come to the same ends, and those that fail claim their slots. -/
theorem Answers.performs {now : Nat} {requests : List Request} {core final : Core}
    {outcomes : List (Outcome Assessment)} (answers : Answers now requests core outcomes final)
    {slot : Nat} {claimed : List Nat}
    (free : ∀ index < requests.length, slot + index ∉ claimed) :
    ∃ later, Pool.Performs now (errands slot requests) (core.claiming claimed) outcomes
        (final.claiming later) ∧
      (∀ other ∈ claimed, other ∈ later) ∧
      ∀ other, FailedAt slot outcomes other → other ∈ later := by
  induction answers generalizing slot claimed with
  | nil core =>
      refine ⟨claimed, .nil _, fun _ => id, ?_⟩
      rintro other ⟨index, failure, found, _⟩
      cases found
  | @cons request rest core next final outcome outcomes ends _ ih =>
      obtain ⟨middle, resumed, claims⟩ := ends.inBatch slot claimed (free 0 (Nat.succ_pos _))
      have freeLater : ∀ index < rest.length, slot + 1 + index ∉ middle := by
        intro index inside member
        have old : slot + 1 + index ∉ claimed := by
          rw [Nat.add_assoc, Nat.add_comm 1]
          exact free (index + 1) (Nat.succ_lt_succ inside)
        rcases claims with ⟨rfl, _⟩ | rfl
        · exact old member
        · rcases List.mem_cons.mp member with same | there
          · omega
          · exact old there
      obtain ⟨later, performs, kept, failed⟩ := ih freeLater
      refine ⟨later, ?_, ?_, ?_⟩
      · rw [errands_cons]
        exact .cons (fun _ => resumed) performs
      · intro other member
        apply kept
        rcases claims with ⟨rfl, _⟩ | rfl
        · exact member
        · exact List.mem_cons_of_mem _ member
      · intro other failing
        rcases failedAt_cons.mp failing with ⟨failure, rfl, rfl⟩ | rest
        · apply kept
          rcases claims with ⟨_, value, isOk⟩ | rfl
          · cases isOk
          · exact List.mem_cons_self
        · exact failed other rest

/-- Nothing is recorded for a batch whose failed items have all claimed their slots. -/
theorem recount_of_claimed {slot : Nat} {items : List (Outcome Assessment)} {core : Core}
    (claimed : ∀ other, FailedAt slot items other → other ∈ core.claimed) :
    recount slot items core = core := by
  induction items generalizing slot core with
  | nil => rfl
  | cons item rest ih =>
      have later : ∀ other, FailedAt (slot + 1) rest other → other ∈ core.claimed :=
        fun other failed => claimed other (failedAt_cons.mpr (.inr failed))
      cases item with
      | ok value => exact ih later
      | error failure =>
          have own := claimed slot (failedAt_cons.mpr (.inl ⟨failure, rfl, rfl⟩))
          have taken : core.isFree (some slot) = false := by simpa [Core.isFree] using own
          have same : core.recordFailure (some slot) failure = core :=
            core.recordOnce_of_taken taken _
          rw [recount, same]
          exact ih later

/-! ## Guests -/

section Guests

variable {engine : Engine} {scope : Nat}

/-- A request that is answered at once. -/
theorem ask_ends (live : engine.isCancelled scope = false) {request : Request} {next : Core}
    {outcome : Outcome Assessment} (ends : Ends engine.now request engine.core next outcome) :
    (engine.after (.ask .assess scope request)).core = next ∧
      (engine.after (.ask .assess scope request)).guests =
        engine.guests ++ [⟨scope, .assess, .answered outcome engine.now⟩] ∧
      (engine.after (.ask .assess scope request)).now = engine.now ∧
      (engine.after (.ask .assess scope request)).isCancelled scope = false := by
  have finished : (single request).resume (engine.isCancelled scope) engine.now engine.core =
      (next, .finished outcome) := by
    rw [live]
    exact ends.alone
  rw [ask_finished finished]
  exact ⟨rfl, rfl, rfl, live⟩

/-- Requests that are asked for one after another are answered at once. -/
theorem Answers.run {requests : List Request} {final : Core} {outcomes : List (Outcome Assessment)}
    (answers : Answers engine.now requests engine.core outcomes final)
    (live : engine.isCancelled scope = false) :
    (engine.run (requests.map (.ask .assess scope))).core = final ∧
      (engine.run (requests.map (.ask .assess scope))).guests =
        engine.guests ++ outcomes.map fun outcome => ⟨scope, .assess, .answered outcome engine.now⟩ := by
  generalize instant : engine.now = now at answers
  generalize shared : engine.core = core at answers
  induction answers generalizing engine with
  | nil core => exact ⟨shared, by simp [Engine.run]⟩
  | cons ends later ih =>
      subst shared instant
      obtain ⟨coreEq, guests, nowEq, liveStill⟩ := ask_ends live ends
      obtain ⟨finalEq, guestsEq⟩ := ih liveStill nowEq coreEq
      refine ⟨finalEq, guestsEq.trans ?_⟩
      rw [guests, List.append_assoc]
      rfl

end Guests

end RiskGate.Engine
