import RiskGate.Proofs.Schedule.Scopes

/-!
# Cancellations to come

A scope that is live stays so until the first planned cancellation that concerns it: a plan
for the scope itself, or for one that it lies under.  When the clock moves, the scope is
cancelled if the clock reaches the instant of that plan, and goes on as before if not.
-/

namespace RiskGate.Schedule.Agenda

variable {agenda before after : Agenda} {scope instant : Nat} {ending : Option Nat}

/-! ## What moving the clock cancels -/

theorem family_congr (same : after.parents = before.parents) (scope : Nat) :
    after.family scope = before.family scope := by
  rw [family, family, same]

/-- Cancelling scopes one after another cancels their families. -/
theorem cancelAll_eq (scopes : List Nat) (agenda : Agenda) :
    let after := scopes.foldl (fun agenda scope => agenda.cancel scope) agenda
    after.parents = agenda.parents ∧ after.planned = agenda.planned ∧
      ∀ other, other ∈ after.cancelled ↔
        (∃ scope ∈ scopes, other ∈ agenda.family scope) ∨ other ∈ agenda.cancelled := by
  induction scopes generalizing agenda with
  | nil => simp
  | cons first rest ih =>
      obtain ⟨firstParents, firstPlanned, firstCancelled⟩ := cancel_eq first agenda
      obtain ⟨parents, planned, cancelled⟩ := ih (agenda.cancel first)
      refine ⟨parents.trans firstParents, planned.trans firstPlanned, fun other => ?_⟩
      have iff := cancelled other
      rw [firstCancelled] at iff
      simp only [family_congr firstParents] at iff
      simp only [List.foldl_cons, iff, List.mem_cons, exists_eq_or_imp]
      rw [or_left_comm, or_assoc]

/-- Alarms that ring have nothing to do with scopes. -/
theorem ring_eq (agenda : Agenda) :
    agenda.ring.parents = agenda.parents ∧ agenda.ring.planned = agenda.planned ∧
      agenda.ring.cancelled = agenda.cancelled := by
  unfold ring
  obtain ⟨ready, rung, _⟩ := wakeAll_eq
    ((agenda.alarms.partition (·.due ≤ agenda.now)).1.map Alarm.actor)
    { agenda with alarms := (agenda.alarms.partition (·.due ≤ agenda.now)).2 }
  dsimp only
  rw [rung]
  exact ⟨rfl, rfl, rfl⟩

/-- Moving the clock drops the plans that are due, and cancels the families of their
scopes. -/
theorem moveTo_eq (instant : Nat) (agenda : Agenda) :
    (agenda.moveTo instant).now = max agenda.now instant ∧
      (agenda.moveTo instant).parents = agenda.parents ∧
      (agenda.moveTo instant).planned =
        agenda.planned.filter (fun entry => !decide (entry.1 ≤ max agenda.now instant)) ∧
      ∀ other, other ∈ (agenda.moveTo instant).cancelled ↔
        (∃ entry ∈ agenda.planned, entry.1 ≤ max agenda.now instant ∧
          other ∈ agenda.family entry.2) ∨ other ∈ agenda.cancelled := by
  refine ⟨(spares_moveTo .dispatcher agenda instant).now_eq, ?_⟩
  let moved : Agenda := { agenda with now := max agenda.now instant }
  let left : Agenda := { moved with
    planned := agenda.planned.filter fun entry => !decide (entry.1 ≤ max agenda.now instant) }
  let due := agenda.planned.filter fun entry => decide (entry.1 ≤ max agenda.now instant)
  have carried : moved.carryOut =
      (due.map Prod.snd).foldl (fun agenda scope => agenda.cancel scope) left := by
    rw [carryOut, List.partition_eq_filter_filter]
    rfl
  obtain ⟨parents, planned, cancelled⟩ := cancelAll_eq (due.map Prod.snd) left
  rw [← carried] at parents planned cancelled
  obtain ⟨rungParents, rungPlanned, rungCancelled⟩ := ring_eq moved.carryOut
  refine ⟨rungParents.trans parents, rungPlanned.trans planned, fun other => ?_⟩
  change other ∈ moved.carryOut.ring.cancelled ↔ _
  rw [rungCancelled, cancelled]
  apply or_congr_left
  simp only [due, List.mem_map, List.mem_filter, decide_eq_true_iff]
  constructor
  · rintro ⟨_, ⟨entry, ⟨there, past⟩, rfl⟩, belongs⟩
    exact ⟨entry, there, past, belongs⟩
  · rintro ⟨entry, there, past, belongs⟩
    exact ⟨_, ⟨entry, ⟨there, past⟩, rfl⟩, belongs⟩

/-! ## What is due after the clock has moved -/

/-- The earliest of some instants is one of them. -/
theorem mem_of_earliest {found : Option Nat} {instants : List Nat} {first : Nat}
    (isFirst : instants.foldl earlier found = some first) :
    found = some first ∨ first ∈ instants := by
  induction instants generalizing found with
  | nil => exact .inl isFirst
  | cons head rest ih =>
      rcases ih isFirst with one | later
      · cases found with
        | none =>
            obtain rfl : head = first := Option.some.inj one
            exact .inr List.mem_cons_self
        | some other =>
            rcases Nat.le_total other head with le | le
            · exact .inl (by simpa [earlier, Nat.min_eq_left le] using one)
            · obtain rfl : head = first := by simpa [earlier, Nat.min_eq_right le] using one
              exact .inr List.mem_cons_self
      · exact .inr (List.mem_cons_of_mem _ later)

/-- Once the clock has moved, nothing is overdue. -/
theorem now_lt_next_moveTo {due : Nat} (next : due ∈ (agenda.moveTo instant).next?) :
    (agenda.moveTo instant).now < due := by
  obtain ⟨now, _, planned, _⟩ := moveTo_eq instant agenda
  rcases mem_of_earliest next with none | member
  · cases none
  · rcases List.mem_append.mp member with alarmed | plan
    · obtain ⟨alarm, set, rfl⟩ := List.mem_map.mp alarmed
      exact now_lt_of_mem_moveTo set
    · obtain ⟨entry, there, rfl⟩ := List.mem_map.mp plan
      rw [planned] at there
      rw [now]
      simpa using (List.mem_filter.mp there).2

/-! ## Scopes that are live for a while -/

/-- A scope is live, and the first plan that concerns it is for an instant, if there is one
at all. -/
structure LiveUntil (scope : Nat) (ending : Option Nat) (agenda : Agenda) : Prop where
  live : agenda.isCancelled scope = false
  planned : ∀ instant ∈ ending,
    ∃ entry ∈ agenda.planned, entry.1 = instant ∧ scope ∈ agenda.family entry.2
  first : ∀ entry ∈ agenda.planned, scope ∈ agenda.family entry.2 →
    ∃ instant ∈ ending, instant ≤ entry.1

/-- A scope is cancelled at an offset from now, if at all.  At the offset 0 it is cancelled
already. -/
def CancelledAt (scope : Nat) (agenda : Agenda) : Option Nat → Prop
  | some 0 => agenda.isCancelled scope = true
  | some (offset + 1) => agenda.LiveUntil scope (some (agenda.now + (offset + 1)))
  | none => agenda.LiveUntil scope none

namespace LiveUntil

/-- It is the scopes and the plans that matter. -/
theorem of_eq (lives : before.LiveUntil scope ending) (parents : after.parents = before.parents)
    (cancelled : after.cancelled = before.cancelled) (planned : after.planned = before.planned) :
    after.LiveUntil scope ending where
  live := by
    rw [isCancelled, cancelled]
    exact lives.live
  planned := by
    simp only [planned, family_congr parents]
    exact lives.planned
  first := by
    simp only [planned, family_congr parents]
    exact lives.first

/-- Until the instant has come, the scope stays live. -/
theorem moveTo (lives : agenda.LiveUntil scope ending)
    (early : ∀ due ∈ ending, (agenda.moveTo instant).now < due) :
    (agenda.moveTo instant).LiveUntil scope ending := by
  obtain ⟨now, parents, planned, cancelled⟩ := moveTo_eq instant agenda
  rw [now] at early
  constructor
  · apply decide_eq_false
    rw [cancelled]
    rintro (⟨entry, there, past, belongs⟩ | old)
    · obtain ⟨due, isEnding, before⟩ := lives.first entry there belongs
      exact absurd (early due isEnding) (Nat.not_lt.mpr (Nat.le_trans before past))
    · exact of_decide_eq_false lives.live old
  · intro due isEnding
    obtain ⟨entry, there, same, belongs⟩ := lives.planned due isEnding
    refine ⟨entry, ?_, same, by rwa [family_congr parents]⟩
    rw [planned]
    refine List.mem_filter.mpr ⟨there, ?_⟩
    simpa [same] using early due isEnding
  · intro entry there belongs
    rw [planned] at there
    rw [family_congr parents] at belongs
    exact lives.first entry (List.mem_filter.mp there).1 belongs

end LiveUntil

/-! ## How a scope comes to be cancelled -/

/-- A scope whose cancellation is planned. -/
theorem CancelledAt.plan (lives : agenda.CancelledAt scope none)
    (opened : scope < agenda.parents.length) (offset : Nat) :
    (agenda.plan (agenda.now + (offset + 1)) scope).CancelledAt scope (some (offset + 1)) := by
  have root : scope ∈ agenda.family scope :=
    root_mem_familyFrom (Nat.zero_le _) (by rwa [Nat.zero_add])
  refine ⟨lives.live, ?_, ?_⟩
  · rintro instant ⟨⟩
    exact ⟨_, List.mem_append_right _ List.mem_cons_self, rfl, root⟩
  · intro entry member belongs
    rcases List.mem_append.mp member with old | new
    · obtain ⟨_, none, _⟩ := lives.first entry old belongs
      cases none
    · rw [List.mem_singleton.mp new]
      exact ⟨_, rfl, Nat.le_refl _⟩

end RiskGate.Schedule.Agenda
