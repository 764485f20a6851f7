import RiskGate.Proofs.Pool.Run
import RiskGate.Proofs.Schedule.Agenda

/-!
# The line of ready actors

The actors of a pool that are ready stand in a line.  Whatever wakes actors puts them at
its end, and only those who were not in it; the actors outside the pool may change places
among themselves, but the line does not change by that.
-/

namespace RiskGate.Schedule

/-- The caller whose turn it is. -/
def Actor.caller? : Actor → Option Nat
  | .caller number => some number
  | .dispatcher | .worker _ | .guest _ | .timer _ => none

namespace Agenda

/-- The actors of the pool that are ready, the next one first. -/
def line (agenda : Agenda) : List Actor := agenda.ready.filter (·.isInsider)

theorem mem_line {agenda : Agenda} {actor : Actor} (inside : actor.isInsider = true) :
    actor ∈ agenda.line ↔ actor ∈ agenda.ready := by
  rw [line, List.mem_filter, and_iff_left inside]

/-- News are put at the end of the line, and nobody in the pool waits for an alarm or for a
scope who did not before. -/
structure Rouses (news : Actor → Prop) (before after : Agenda) : Prop where
  line : ∃ extra, after.line = before.line ++ extra ∧ extra.Nodup ∧
    ∀ actor ∈ extra, actor ∉ before.line ∧ news actor
  alarms : ∀ alarm ∈ after.alarms, alarm.actor.isInsider = true → alarm ∈ before.alarms
  watchers : ∀ entry ∈ after.watchers, entry.2.isInsider = true → entry ∈ before.watchers

namespace Rouses

variable {news : Actor → Prop} {before middle after : Agenda}

/-- The line stays as it is. -/
theorem of_line (line : after.line = before.line)
    (alarms : ∀ alarm ∈ after.alarms, alarm.actor.isInsider = true → alarm ∈ before.alarms)
    (watchers : ∀ entry ∈ after.watchers, entry.2.isInsider = true → entry ∈ before.watchers) :
    Rouses news before after :=
  ⟨⟨[], by rw [line, List.append_nil], List.nodup_nil, fun _ none => absurd none List.not_mem_nil⟩,
    alarms, watchers⟩

theorem refl (agenda : Agenda) : Rouses news agenda agenda :=
  .of_line rfl (fun _ member _ => member) fun _ member _ => member

theorem trans (first : Rouses news before middle) (second : Rouses news middle after) :
    Rouses news before after where
  line := by
    obtain ⟨early, earlyEq, earlyDistinct, earlyNew⟩ := first.line
    obtain ⟨late, lateEq, lateDistinct, lateNew⟩ := second.line
    refine ⟨early ++ late, by rw [lateEq, earlyEq, List.append_assoc], ?_, ?_⟩
    · apply List.nodup_append.mpr
      refine ⟨earlyDistinct, lateDistinct, ?_⟩
      rintro actor inEarly other inLate rfl
      apply (lateNew actor inLate).1
      rw [earlyEq]
      exact List.mem_append_right _ inEarly
    · intro actor member
      rcases List.mem_append.mp member with inEarly | inLate
      · exact earlyNew actor inEarly
      · refine ⟨fun old => (lateNew actor inLate).1 ?_, (lateNew actor inLate).2⟩
        rw [earlyEq]
        exact List.mem_append_left _ old
  alarms := fun alarm member inside =>
    first.alarms alarm (second.alarms alarm member inside) inside
  watchers := fun entry member inside =>
    first.watchers entry (second.watchers entry member inside) inside

end Rouses

section Waking

variable {news : Actor → Prop} (agenda : Agenda)

theorem rouses_wake {actor : Actor} (isNews : actor.isInsider = true → news actor) :
    Rouses news agenda (agenda.wake actor) := by
  by_cases ready : actor ∈ agenda.ready
  · rw [wake, if_pos ready]
    exact .refl agenda
  · rw [wake, if_neg ready]
    refine ⟨?_, fun _ member _ => member, fun _ member _ => member⟩
    cases inside : actor.isInsider with
    | false =>
        refine ⟨[], ?_, List.nodup_nil, fun _ none => absurd none List.not_mem_nil⟩
        simp [line, inside]
    | true =>
        refine ⟨[actor], by simp [line, inside], List.pairwise_singleton _ _, ?_⟩
        intro other member
        obtain rfl := List.mem_singleton.mp member
        exact ⟨fun old => ready ((mem_line inside).mp old), isNews inside⟩

theorem rouses_wakeAll {actors : List Actor}
    (areNews : ∀ actor ∈ actors, actor.isInsider = true → news actor) :
    Rouses news agenda (agenda.wakeAll actors) := by
  induction actors generalizing agenda with
  | nil => exact .refl agenda
  | cons first rest ih =>
      have woken := agenda.rouses_wake (areNews first List.mem_cons_self)
      exact woken.trans (ih (agenda.wake first) fun actor member =>
        areNews actor (List.mem_cons_of_mem _ member))

theorem rouses_release (actor : Actor) : Rouses news agenda (agenda.release actor) :=
  .of_line rfl (fun _ member _ => (List.mem_filter.mp member).1)
    fun _ member _ => (List.mem_filter.mp member).1

/-- The actors outside the pool go about their affairs. -/
theorem rouses_rearrange {other : Agenda} (insiders : other.insiders = agenda.insiders) :
    Rouses news agenda other where
  line := by
    have same : other.line = agenda.line := congrArg Agenda.ready insiders
    exact ⟨[], by rw [same, List.append_nil], List.nodup_nil,
      fun _ none => absurd none List.not_mem_nil⟩
  alarms := by
    intro alarm member inside
    have there : alarm ∈ other.insiders.alarms := List.mem_filter.mpr ⟨member, inside⟩
    rw [insiders] at there
    exact (List.mem_filter.mp there).1
  watchers := by
    intro entry member inside
    have there : entry ∈ other.insiders.watchers := List.mem_filter.mpr ⟨member, inside⟩
    rw [insiders] at there
    exact (List.mem_filter.mp there).1

/-- Whoever watches a scope is woken by its cancellation. -/
theorem rouses_cancelOne (scope : Nat)
    (areNews : ∀ entry ∈ agenda.watchers, entry.2.isInsider = true → news entry.2) :
    Rouses news agenda (agenda.cancelOne scope) := by
  unfold cancelOne
  split
  · exact .refl agenda
  · have noted : Rouses news agenda { agenda with cancelled := scope :: agenda.cancelled } :=
      .of_line rfl (fun _ member _ => member) fun _ member _ => member
    refine noted.trans (rouses_wakeAll _ ?_)
    intro actor member inside
    obtain ⟨entry, watching, rfl⟩ := List.mem_map.mp member
    exact areNews entry (List.mem_filter.mp watching).1 inside

/-- Steps that rouse only those who watch a scope rouse nobody else together. -/
theorem rouses_foldl {α : Type} {step : Agenda → α → Agenda}
    (each : ∀ (agenda : Agenda) item,
      (∀ entry ∈ agenda.watchers, entry.2.isInsider = true → news entry.2) →
        Rouses news agenda (step agenda item))
    (items : List α)
    (areNews : ∀ entry ∈ agenda.watchers, entry.2.isInsider = true → news entry.2) :
    Rouses news agenda (items.foldl step agenda) := by
  induction items generalizing agenda with
  | nil => exact .refl agenda
  | cons item rest ih =>
      have once := each agenda item areNews
      exact once.trans (ih (step agenda item) fun entry member inside =>
        areNews entry (once.watchers entry member inside) inside)

theorem rouses_cancel (scope : Nat)
    (areNews : ∀ entry ∈ agenda.watchers, entry.2.isInsider = true → news entry.2) :
    Rouses news agenda (agenda.cancel scope) :=
  agenda.rouses_foldl (fun agenda scope => agenda.rouses_cancelOne scope) _ areNews

theorem rouses_carryOut
    (watching : ∀ entry ∈ agenda.watchers, entry.2.isInsider = true → news entry.2) :
    Rouses news agenda agenda.carryOut := by
  have dropped : Rouses news agenda { agenda with
      planned := (agenda.planned.partition fun entry => entry.1 ≤ agenda.now).2 } :=
    .of_line rfl (fun _ member _ => member) fun _ member _ => member
  exact dropped.trans
    (rouses_foldl _ (fun agenda scope => agenda.rouses_cancel scope) _ watching)

theorem rouses_ring
    (alarmed : ∀ alarm ∈ agenda.alarms, alarm.actor.isInsider = true → news alarm.actor) :
    Rouses news agenda agenda.ring := by
  unfold ring
  rw [List.partition_eq_filter_filter]
  dsimp only
  let later := agenda.alarms.filter (not ∘ fun alarm => decide (alarm.due ≤ agenda.now))
  have dropped : Rouses news agenda { agenda with alarms := later } :=
    .of_line rfl (fun _ member _ => (List.mem_filter.mp member).1) fun _ member _ => member
  refine dropped.trans (rouses_wakeAll { agenda with alarms := later } ?_)
  intro actor member inside
  obtain ⟨alarm, due, rfl⟩ := List.mem_map.mp member
  exact alarmed alarm (List.mem_filter.mp due).1 inside

/-- What is due wakes those who watch a scope or have set an alarm. -/
theorem rouses_moveTo (instant : Nat)
    (watching : ∀ entry ∈ agenda.watchers, entry.2.isInsider = true → news entry.2)
    (alarmed : ∀ alarm ∈ agenda.alarms, alarm.actor.isInsider = true → news alarm.actor) :
    Rouses news agenda (agenda.moveTo instant) := by
  have moved : Rouses news agenda { agenda with now := max agenda.now instant } :=
    .of_line rfl (fun _ member _ => member) fun _ member _ => member
  have carried : Rouses news agenda
      ({ agenda with now := max agenda.now instant } : Agenda).carryOut :=
    moved.trans (rouses_carryOut _ watching)
  exact carried.trans (rouses_ring _ fun alarm member inside =>
    alarmed alarm (carried.alarms alarm member inside) inside)

end Waking

end Agenda

end RiskGate.Schedule
