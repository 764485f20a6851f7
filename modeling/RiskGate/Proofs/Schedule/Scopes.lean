import RiskGate.Proofs.Schedule.Agenda

/-!
# Scopes under other scopes

A scope is cancelled by its own name, or together with the one above it.  If nobody names
a scope, neither now nor in a plan, it is cancelled only if the one above it is.
-/

namespace RiskGate.Schedule.Agenda

/-! ## Families -/

section Families

variable {root index scope parent : Nat} {family : List Nat} {parents : List (Option Nat)}

/-- A family only grows. -/
theorem mem_familyFrom_of_mem (member : scope ∈ family) :
    scope ∈ familyFrom root index family parents := by
  induction parents generalizing index family with
  | nil => exact member
  | cons first rest ih =>
      rw [familyFrom]
      apply ih
      split
      · exact List.mem_cons_of_mem _ member
      · exact member

/-- Scopes that come later do not bring earlier ones into a family. -/
theorem mem_of_mem_familyFrom (early : scope < index)
    (member : scope ∈ familyFrom root index family parents) : scope ∈ family := by
  induction parents generalizing index family with
  | nil => exact member
  | cons first rest ih =>
      rw [familyFrom] at member
      have there := ih (Nat.lt_succ_of_lt early) member
      split at there
      · exact (List.mem_cons.mp there).resolve_left (Nat.ne_of_lt early)
      · exact there

theorem root_mem_familyFrom (there : index ≤ root) (inside : root < index + parents.length) :
    root ∈ familyFrom root index family parents := by
  induction parents generalizing index family with
  | nil => exact absurd inside (Nat.not_lt_of_le there)
  | cons first rest ih =>
      rw [familyFrom]
      by_cases here : index = root
      · apply mem_familyFrom_of_mem
        simp [here]
      · apply ih (Nat.lt_of_le_of_ne there here)
        rw [List.length_cons] at inside
        omega

/-- A scope belongs to a family with its parent, unless it is the root. -/
theorem parent_mem_familyFrom (inside : ∀ member ∈ family, member < index) {place : Nat}
    (under : parents[place]? = some (some parent)) (notRoot : index + place ≠ root)
    (member : index + place ∈ familyFrom root index family parents) :
    parent ∈ familyFrom root index family parents := by
  induction parents generalizing index family place with
  | nil => cases under
  | cons first rest ih =>
      rw [familyFrom] at member ⊢
      cases place with
      | zero =>
          obtain rfl : first = some parent := Option.some.inj under
          have notRoot : index ≠ root := notRoot
          have own := mem_of_mem_familyFrom (Nat.lt_succ_self index) member
          apply mem_familyFrom_of_mem
          split at own
          next belongs =>
            have above : parent ∈ family := by simpa [notRoot] using belongs
            rw [if_pos belongs]
            exact List.mem_cons_of_mem _ above
          · exact absurd (inside index own) (Nat.lt_irrefl index)
      | succ place =>
          have shifted : index + (place + 1) = index + 1 + place := by omega
          rw [shifted] at member notRoot
          refine ih (fun other there => ?_) under notRoot member
          split at there
          · rcases List.mem_cons.mp there with rfl | old
            · exact Nat.lt_succ_self _
            · exact Nat.lt_succ_of_lt (inside other old)
          · exact Nat.lt_succ_of_lt (inside other there)

end Families

section Cancelling

variable {agenda : Agenda} {scope other child parent : Nat}

theorem mem_cancelled_cancelOne :
    other ∈ (agenda.cancelOne scope).cancelled ↔ other = scope ∨ other ∈ agenda.cancelled := by
  unfold cancelOne
  split
  next cancelled =>
    constructor
    · exact .inr
    · rintro (rfl | old)
      · exact of_decide_eq_true cancelled
      · exact old
  · rw [wakeAll_cancelled]
    exact List.mem_cons

theorem planned_cancelOne (agenda : Agenda) (scope : Nat) :
    (agenda.cancelOne scope).planned = agenda.planned := by
  unfold cancelOne
  split
  · rfl
  · obtain ⟨_, wokenEq, _⟩ := wakeAll_eq (agenda.watchersOf scope)
      { agenda with cancelled := scope :: agenda.cancelled }
    rw [wokenEq]

/-- Cancelling a scope cancels its family, and changes neither the scopes above others nor
what is planned. -/
theorem cancel_eq (scope : Nat) (agenda : Agenda) :
    (agenda.cancel scope).parents = agenda.parents ∧
      (agenda.cancel scope).planned = agenda.planned ∧
      ∀ other, other ∈ (agenda.cancel scope).cancelled ↔
        other ∈ agenda.family scope ∨ other ∈ agenda.cancelled := by
  unfold cancel
  generalize agenda.family scope = family
  induction family generalizing agenda with
  | nil => simp
  | cons first rest ih =>
      obtain ⟨parents, planned, cancelled⟩ := ih (agenda.cancelOne first)
      refine ⟨parents.trans (parents_cancelOne _ _), planned.trans (planned_cancelOne _ _), ?_⟩
      intro other
      have iff := cancelled other
      rw [mem_cancelled_cancelOne] at iff
      rw [List.mem_cons, or_assoc]
      exact iff.trans or_left_comm

/-- A scope that was opened is cancelled by its name. -/
theorem isCancelled_cancel (opened : scope < agenda.parents.length) :
    (agenda.cancel scope).isCancelled scope = true := by
  obtain ⟨_, _, cancelled⟩ := cancel_eq scope agenda
  apply decide_eq_true
  rw [cancelled]
  apply Or.inl
  apply root_mem_familyFrom (Nat.zero_le _)
  rwa [Nat.zero_add]

end Cancelling

/-! ## Scopes that nobody names -/

/-- A scope lies under another one, its cancellation is not planned, and it is cancelled
only if the other one is. -/
structure Secluded (child parent : Nat) (agenda : Agenda) : Prop where
  under : agenda.parents[child]? = some (some parent)
  unplanned : ∀ entry ∈ agenda.planned, entry.2 ≠ child
  together : child ∈ agenda.cancelled → parent ∈ agenda.cancelled

namespace Secluded

variable {agenda before after : Agenda} {child parent : Nat}

theorem inRange (secluded : agenda.Secluded child parent) : child < agenda.parents.length :=
  (List.getElem?_eq_some_iff.mp secluded.under).1

/-- A scope that is opened under another one. -/
theorem opened (opened : agenda.Opened) (parent : Nat)
    (unplanned : ∀ entry ∈ agenda.planned, entry.2 ≠ agenda.parents.length) :
    (agenda.openChild parent).1.Secluded agenda.parents.length parent where
  under := List.getElem?_concat_length
  unplanned := unplanned
  together := by
    simp only [Agenda.openChild]
    split
    next above => exact fun _ => List.mem_cons_of_mem _ above
    · exact fun cancelled => absurd cancelled opened.fresh

theorem of_eq (secluded : before.Secluded child parent) (parents : after.parents = before.parents)
    (planned : after.planned = before.planned) (cancelled : after.cancelled = before.cancelled) :
    after.Secluded child parent where
  under := by
    rw [parents]
    exact secluded.under
  unplanned := by
    rw [planned]
    exact secluded.unplanned
  together := by
    rw [cancelled]
    exact secluded.together

/-- Scopes are opened after it. -/
theorem extend (secluded : before.Secluded child parent) {scopes : List (Option Nat)}
    (parents : after.parents = before.parents ++ scopes) (planned : after.planned = before.planned)
    (old : ∀ scope ∈ before.cancelled, scope ∈ after.cancelled)
    (new : child ∈ after.cancelled → child ∈ before.cancelled) :
    after.Secluded child parent where
  under := by
    rw [parents, List.getElem?_append_left secluded.inRange]
    exact secluded.under
  unplanned := by
    rw [planned]
    exact secluded.unplanned
  together := fun cancelled => old parent (secluded.together (new cancelled))

theorem openScope (secluded : agenda.Secluded child parent) :
    agenda.openScope.1.Secluded child parent :=
  secluded.extend rfl rfl (fun _ => id) id

theorem openChild (secluded : agenda.Secluded child parent) (other : Nat) :
    (agenda.openChild other).1.Secluded child parent := by
  have extended : (agenda.openChild other).1.parents = agenda.parents ++ [some other] := rfl
  refine secluded.extend extended rfl ?_ ?_
  · exact (spares_openChild .dispatcher agenda other).cancelled
  · intro cancelled
    simp only [Agenda.openChild] at cancelled
    split at cancelled
    · exact (List.mem_cons.mp cancelled).resolve_left (Nat.ne_of_lt secluded.inRange)
    · exact cancelled

theorem plan (secluded : agenda.Secluded child parent) (due : Nat) {scope : Nat}
    (other : scope ≠ child) : (agenda.plan due scope).Secluded child parent where
  under := secluded.under
  unplanned := by
    intro entry member
    rcases List.mem_append.mp member with old | new
    · exact secluded.unplanned entry old
    · rw [List.mem_singleton.mp new]
      exact other
  together := secluded.together

theorem cancel (secluded : agenda.Secluded child parent) {scope : Nat} (other : scope ≠ child) :
    (agenda.cancel scope).Secluded child parent := by
  obtain ⟨parents, planned, cancelled⟩ := cancel_eq scope agenda
  constructor
  · rw [parents]
    exact secluded.under
  · rw [planned]
    exact secluded.unplanned
  · rw [cancelled, cancelled]
    rintro (belongs | old)
    · left
      have notRoot : 0 + child ≠ scope := by
        rw [Nat.zero_add]
        exact other.symm
      apply parent_mem_familyFrom (fun _ none => absurd none List.not_mem_nil) secluded.under notRoot
      rw [Nat.zero_add]
      exact belongs
    · exact .inr (secluded.together old)

theorem carryOut (secluded : agenda.Secluded child parent) :
    agenda.carryOut.Secluded child parent := by
  have carried : ∀ (scopes : List Nat) (agenda : Agenda), child ∉ scopes →
      agenda.Secluded child parent →
        (scopes.foldl (fun agenda scope => agenda.cancel scope) agenda).Secluded child parent := by
    intro scopes
    induction scopes with
    | nil => exact fun _ _ secluded => secluded
    | cons scope rest ih =>
        intro agenda others secluded
        have other : scope ≠ child := fun same => others (same ▸ List.mem_cons_self)
        exact ih _ (fun member => others (List.mem_cons_of_mem _ member)) (secluded.cancel other)
  unfold Agenda.carryOut
  simp only [List.partition_eq_filter_filter]
  apply carried
  · intro due
    obtain ⟨entry, member, same⟩ := List.mem_map.mp due
    exact secluded.unplanned entry (List.mem_filter.mp member).1 same
  · exact ⟨secluded.under,
      fun entry member => secluded.unplanned entry (List.mem_filter.mp member).1,
      secluded.together⟩

theorem moveTo (secluded : agenda.Secluded child parent) (instant : Nat) :
    (agenda.moveTo instant).Secluded child parent := by
  have moved : Secluded child parent { agenda with now := max agenda.now instant } :=
    ⟨secluded.under, secluded.unplanned, secluded.together⟩
  have carried := moved.carryOut
  unfold Agenda.moveTo ring
  generalize { agenda with now := max agenda.now instant }.carryOut = later at carried ⊢
  obtain ⟨ready, wokenEq, _⟩ := wakeAll_eq ((later.alarms.partition (·.due ≤ later.now)).1.map
    Alarm.actor) { later with alarms := (later.alarms.partition (·.due ≤ later.now)).2 }
  dsimp only
  rw [wokenEq]
  exact carried.of_eq rfl rfl rfl

end Secluded

end RiskGate.Schedule.Agenda
