import RiskGate.Schedule.Agenda

/-!
# Facts about the agenda

What waking, cancelling and moving the clock leave alone, and whom they wake.
Waking touches nothing but the list of ready actors.  Cancelling adds to the
cancelled scopes and wakes those who watch a scope that was not cancelled
before.
-/

namespace RiskGate.Schedule.Agenda

/-- In a quiet agenda nobody is ready. -/
theorem notMem_of_quiet {agenda : Agenda} (quiet : agenda.ready = []) (actor : Actor) :
    actor ∉ agenda.ready := by
  rw [quiet]
  exact List.not_mem_nil

/-! ## Waking -/

section Waking

variable (actor : Actor) (actors : List Actor) (agenda : Agenda)

/-- Waking changes the ready actors and nothing else. -/
theorem wake_eq :
    agenda.wake actor =
      { agenda with
        ready := if actor ∈ agenda.ready then agenda.ready else agenda.ready ++ [actor] } := by
  unfold wake
  split <;> rfl

theorem mem_ready_wake {other : Actor} :
    other ∈ (agenda.wake actor).ready ↔ other = actor ∨ other ∈ agenda.ready := by
  rw [wake_eq]
  by_cases mem : actor ∈ agenda.ready
  · rw [if_pos mem]
    constructor
    · exact Or.inr
    · rintro (rfl | ready)
      · exact mem
      · exact ready
  · simp only [if_neg mem, List.mem_append, List.mem_singleton]
    exact Or.comm

/-- Waking several actors changes the ready actors and nothing else. -/
theorem wakeAll_eq :
    ∃ ready, agenda.wakeAll actors = { agenda with ready := ready } ∧
      ∀ other, other ∈ ready ↔ other ∈ actors ∨ other ∈ agenda.ready := by
  induction actors generalizing agenda with
  | nil => exact ⟨agenda.ready, rfl, by simp⟩
  | cons first rest ih =>
      obtain ⟨ready, wokenEq, memIff⟩ := ih (agenda.wake first)
      refine ⟨ready, ?_, ?_⟩
      · change (agenda.wake first).wakeAll rest = _
        rw [wokenEq, wake_eq]
      · intro other
        rw [memIff, mem_ready_wake, List.mem_cons, or_left_comm, or_assoc]

theorem mem_ready_wakeAll {other : Actor} :
    other ∈ (agenda.wakeAll actors).ready ↔ other ∈ actors ∨ other ∈ agenda.ready := by
  obtain ⟨ready, wokenEq, memIff⟩ := wakeAll_eq actors agenda
  rw [wokenEq]
  exact memIff other

@[simp] theorem wake_now : (agenda.wake actor).now = agenda.now := by rw [wake_eq]

@[simp] theorem wake_watchers : (agenda.wake actor).watchers = agenda.watchers := by rw [wake_eq]

@[simp] theorem wake_parents : (agenda.wake actor).parents = agenda.parents := by rw [wake_eq]

@[simp] theorem wake_cancelled : (agenda.wake actor).cancelled = agenda.cancelled := by
  rw [wake_eq]

@[simp] theorem wakeAll_now : (agenda.wakeAll actors).now = agenda.now := by
  obtain ⟨_, wokenEq, _⟩ := wakeAll_eq actors agenda
  rw [wokenEq]

@[simp] theorem wakeAll_watchers : (agenda.wakeAll actors).watchers = agenda.watchers := by
  obtain ⟨_, wokenEq, _⟩ := wakeAll_eq actors agenda
  rw [wokenEq]

theorem wakeAll_alarms : (agenda.wakeAll actors).alarms = agenda.alarms := by
  obtain ⟨_, wokenEq, _⟩ := wakeAll_eq actors agenda
  rw [wokenEq]

@[simp] theorem wakeAll_parents : (agenda.wakeAll actors).parents = agenda.parents := by
  obtain ⟨_, wokenEq, _⟩ := wakeAll_eq actors agenda
  rw [wokenEq]

@[simp] theorem wakeAll_cancelled : (agenda.wakeAll actors).cancelled = agenda.cancelled := by
  obtain ⟨_, wokenEq, _⟩ := wakeAll_eq actors agenda
  rw [wokenEq]

end Waking

/-! ## What an actor can rely on

While others act, an actor that is ready stays ready, goes on watching what it
watches, and is woken when a scope that it watches is cancelled or an alarm of its own
falls due. -/

/-- Between two states of the agenda at one instant an actor was not neglected. -/
structure Spares (actor : Actor) (before after : Agenda) : Prop where
  now_eq : after.now = before.now
  ready : actor ∈ before.ready → actor ∈ after.ready
  watchers : ∀ scope, (scope, actor) ∈ before.watchers → (scope, actor) ∈ after.watchers
  alarms : ∀ due, ⟨due, actor⟩ ∈ before.alarms →
    ⟨due, actor⟩ ∈ after.alarms ∨ due ≤ after.now ∧ actor ∈ after.ready
  parents : before.parents.length ≤ after.parents.length
  cancelled : ∀ scope ∈ before.cancelled, scope ∈ after.cancelled
  woken : ∀ scope < before.parents.length, (scope, actor) ∈ before.watchers →
    scope ∉ before.cancelled → scope ∈ after.cancelled → actor ∈ after.ready

namespace Spares

variable {actor : Actor} {before middle after : Agenda}

theorem refl (actor : Actor) (agenda : Agenda) : Spares actor agenda agenda where
  now_eq := rfl
  ready := id
  watchers := fun _ => id
  alarms := fun _ => .inl
  parents := Nat.le_refl _
  cancelled := fun _ => id
  woken := fun _ _ _ fresh cancelled => absurd cancelled fresh

theorem trans (first : Spares actor before middle) (second : Spares actor middle after) :
    Spares actor before after where
  now_eq := second.now_eq.trans first.now_eq
  ready := fun ready => second.ready (first.ready ready)
  watchers := fun scope watched => second.watchers scope (first.watchers scope watched)
  alarms := by
    intro due set
    rcases first.alarms due set with kept | ⟨past, ready⟩
    · exact second.alarms due kept
    · exact .inr ⟨by rwa [second.now_eq], second.ready ready⟩
  parents := Nat.le_trans first.parents second.parents
  cancelled := fun scope cancelled => second.cancelled scope (first.cancelled scope cancelled)
  woken := by
    intro scope opened watched fresh cancelled
    by_cases early : scope ∈ middle.cancelled
    · exact second.ready (first.woken scope opened watched fresh early)
    · exact second.woken scope (Nat.lt_of_lt_of_le opened first.parents)
        (first.watchers scope watched) early cancelled

/-- A change that cancels nothing spares every actor whose readiness and whose
watches and alarms it keeps. -/
theorem of_cancelled_eq (now_eq : after.now = before.now)
    (ready : actor ∈ before.ready → actor ∈ after.ready)
    (watchers : ∀ scope, (scope, actor) ∈ before.watchers → (scope, actor) ∈ after.watchers)
    (alarms : ∀ due, ⟨due, actor⟩ ∈ before.alarms →
      ⟨due, actor⟩ ∈ after.alarms ∨ due ≤ after.now ∧ actor ∈ after.ready)
    (parents : after.parents = before.parents) (cancelled : after.cancelled = before.cancelled) :
    Spares actor before after where
  now_eq := now_eq
  ready := ready
  watchers := watchers
  alarms := alarms
  parents := Nat.le_of_eq (congrArg List.length parents.symm)
  cancelled := fun _ old => by rwa [cancelled]
  woken := fun _ _ _ fresh old => absurd (by rwa [cancelled] at old) fresh

end Spares

section Spared

variable (actor : Actor) (agenda : Agenda)

theorem spares_wake (other : Actor) : Spares actor agenda (agenda.wake other) :=
  .of_cancelled_eq (by simp) (fun ready => (mem_ready_wake _ _).mpr (Or.inr ready))
    (by simp) (by rw [wake_eq]; exact fun _ => .inl) (by simp) (by simp)

theorem spares_wakeAll (others : List Actor) : Spares actor agenda (agenda.wakeAll others) :=
  .of_cancelled_eq (by simp) (fun ready => (mem_ready_wakeAll _ _).mpr (Or.inr ready))
    (by simp) (by rw [wakeAll_alarms]; exact fun _ => .inl) (by simp) (by simp)

theorem spares_setAlarm (due : Nat) (other : Actor) :
    Spares actor agenda (agenda.setAlarm due other) :=
  .of_cancelled_eq rfl id (fun _ => id) (fun _ set => .inl (List.mem_append_left _ set)) rfl rfl

theorem spares_watch (scope : Nat) (other : Actor) :
    Spares actor agenda (agenda.watch scope other) :=
  .of_cancelled_eq rfl id (fun _ watched => List.mem_append_left _ watched) (fun _ => .inl) rfl rfl

/-- Releasing one actor does not concern another one. -/
theorem spares_release {other : Actor} (distinct : actor ≠ other) :
    Spares actor agenda (agenda.release other) :=
  .of_cancelled_eq rfl id
    (fun _ watched => List.mem_filter.mpr ⟨watched, by simpa using distinct⟩)
    (fun _ set => .inl (List.mem_filter.mpr ⟨set, by simpa using distinct⟩)) rfl rfl

/-- The turn of one actor leaves another one ready. -/
theorem spares_erase {other : Actor} (distinct : actor ≠ other) :
    Spares actor agenda { agenda with ready := agenda.ready.erase other } :=
  .of_cancelled_eq rfl (fun ready => (List.mem_erase_of_ne distinct).mpr ready)
    (fun _ => id) (fun _ => .inl) rfl rfl

theorem spares_openScope : Spares actor agenda agenda.openScope.1 where
  now_eq := rfl
  ready := id
  watchers := fun _ => id
  alarms := fun _ => .inl
  parents := by simp [openScope]
  cancelled := fun _ => id
  woken := fun _ _ _ fresh cancelled => absurd cancelled fresh

/-- A scope that is born cancelled is watched by nobody. -/
theorem spares_openChild (parent : Nat) : Spares actor agenda (agenda.openChild parent).1 where
  now_eq := rfl
  ready := id
  watchers := fun _ => id
  alarms := fun _ => .inl
  parents := by simp [openChild]
  cancelled := by
    intro scope cancelled
    simp only [openChild]
    split
    · exact List.mem_cons_of_mem _ cancelled
    · exact cancelled
  woken := by
    intro scope opened _ fresh cancelled
    simp only [openChild] at cancelled
    split at cancelled
    · rcases List.mem_cons.mp cancelled with rfl | old
      · exact absurd opened (Nat.lt_irrefl _)
      · exact absurd old fresh
    · exact absurd cancelled fresh

theorem spares_plan (due scope : Nat) : Spares actor agenda (agenda.plan due scope) :=
  .of_cancelled_eq rfl id (fun _ => id) (fun _ => .inl) rfl rfl

/-- Cancelling one scope wakes whoever watches it. -/
theorem spares_cancelOne (scope : Nat) : Spares actor agenda (agenda.cancelOne scope) := by
  unfold cancelOne
  split
  · exact .refl actor agenda
  · constructor
    · simp
    · intro ready
      exact (mem_ready_wakeAll _ _).mpr (Or.inr ready)
    · simp
    · rw [wakeAll_alarms]
      exact fun _ => .inl
    · simp
    · intro other cancelled
      rw [wakeAll_cancelled]
      exact List.mem_cons_of_mem _ cancelled
    · intro other _ watched fresh cancelled
      rw [wakeAll_cancelled] at cancelled
      rcases List.mem_cons.mp cancelled with rfl | old
      · refine (mem_ready_wakeAll _ _).mpr (Or.inl ?_)
        exact List.mem_map.mpr ⟨(other, actor), List.mem_filter.mpr ⟨watched, by simp⟩, rfl⟩
      · exact absurd old fresh

/-- Folding steps that spare an actor spares the actor. -/
theorem spares_foldl {α : Type} {step : Agenda → α → Agenda}
    (each : ∀ agenda item, Spares actor agenda (step agenda item)) (items : List α) :
    Spares actor agenda (items.foldl step agenda) := by
  induction items generalizing agenda with
  | nil => exact .refl actor agenda
  | cons item rest ih => exact (each agenda item).trans (ih (step agenda item))

theorem spares_cancel (scope : Nat) : Spares actor agenda (agenda.cancel scope) :=
  spares_foldl actor agenda (fun agenda scope => spares_cancelOne actor agenda scope) _

theorem spares_carryOut : Spares actor agenda agenda.carryOut := by
  have dropped : Spares actor agenda { agenda with
      planned := (agenda.planned.partition fun entry => entry.1 ≤ agenda.now).2 } :=
    .of_cancelled_eq rfl id (fun _ => id) (fun _ => .inl) rfl rfl
  exact dropped.trans
    (spares_foldl actor _ (fun agenda scope => spares_cancel actor agenda scope) _)

/-- Whoever has an alarm that is dropped is woken. -/
theorem spares_ring : Spares actor agenda agenda.ring := by
  unfold ring
  rw [List.partition_eq_filter_filter]
  dsimp only
  refine .of_cancelled_eq (wakeAll_now _ _)
    (fun ready => (mem_ready_wakeAll _ _).mpr (.inr ready)) (by simp) ?_ (wakeAll_parents _ _)
    (wakeAll_cancelled _ _)
  intro due set
  rw [wakeAll_alarms, wakeAll_now]
  by_cases past : due ≤ agenda.now
  · refine .inr ⟨past, (mem_ready_wakeAll _ _).mpr (.inl ?_)⟩
    exact List.mem_map.mpr ⟨⟨due, actor⟩, List.mem_filter.mpr ⟨set, by simpa using past⟩, rfl⟩
  · exact .inl (List.mem_filter.mpr ⟨set, by simpa using past⟩)

/-- Moving the clock spares every actor, seen from the new instant. -/
theorem spares_moveTo (instant : Nat) :
    Spares actor { agenda with now := max agenda.now instant } (agenda.moveTo instant) :=
  (spares_carryOut actor _).trans (spares_ring actor _)

end Spared

/-! ## What is due next -/

section Due

variable {agenda : Agenda}

/-- The earliest of some instants is not after any of them. -/
theorem exists_earliest {found : Option Nat} {instants : List Nat} {instant : Nat}
    (among : found = some instant ∨ instant ∈ instants) :
    ∃ first, instants.foldl earlier found = some first ∧ first ≤ instant := by
  induction instants generalizing found instant with
  | nil =>
      rcases among with same | none
      · exact ⟨instant, same, Nat.le_refl _⟩
      · cases none
  | cons head rest ih =>
      rw [List.foldl_cons]
      rcases among with rfl | member
      · obtain ⟨first, isFirst, early⟩ := ih (.inl rfl)
        exact ⟨first, isFirst, Nat.le_trans early (Nat.min_le_left _ _)⟩
      · rcases List.mem_cons.mp member with rfl | later
        · obtain ⟨first, isFirst, early⟩ := ih (.inl rfl)
          refine ⟨first, isFirst, Nat.le_trans early ?_⟩
          split
          · exact Nat.le_refl _
          · exact Nat.min_le_right _ _
        · exact ih (.inr later)

/-- Something is due when an alarm rings, or before. -/
theorem exists_next_of_alarm {alarm : Alarm} (set : alarm ∈ agenda.alarms) :
    ∃ first ∈ agenda.next?, first ≤ alarm.due :=
  exists_earliest (.inr (List.mem_append_left _ (List.mem_map_of_mem set)))

/-- An alarm that is left when the clock has moved is not due yet. -/
theorem now_lt_of_mem_moveTo {instant : Nat} {alarm : Alarm}
    (left : alarm ∈ (agenda.moveTo instant).alarms) : (agenda.moveTo instant).now < alarm.due := by
  unfold moveTo ring at left ⊢
  rw [List.partition_eq_filter_filter] at left ⊢
  dsimp only at left ⊢
  rw [wakeAll_alarms] at left
  rw [wakeAll_now]
  simpa using (List.mem_filter.mp left).2

/-- An alarm of an actor is set when the clock has moved, or the actor is ready. -/
theorem alarm_moveTo (instant : Nat) {due : Nat} {actor : Actor}
    (set : ⟨due, actor⟩ ∈ agenda.alarms) :
    (agenda.moveTo instant).now < due ∧ ⟨due, actor⟩ ∈ (agenda.moveTo instant).alarms ∨
      due ≤ (agenda.moveTo instant).now ∧ actor ∈ (agenda.moveTo instant).ready := by
  rcases (spares_moveTo actor agenda instant).alarms due set with kept | rung
  · exact .inl ⟨now_lt_of_mem_moveTo kept, kept⟩
  · exact .inr rung

end Due

/-! ## Scopes that were opened -/

/-- Only scopes that were opened are cancelled. -/
def Opened (agenda : Agenda) : Prop := ∀ scope ∈ agenda.cancelled, scope < agenda.parents.length

section Opened

variable {agenda : Agenda}

/-- A scope that is opened now is not cancelled yet. -/
theorem Opened.fresh (opened : agenda.Opened) : agenda.parents.length ∉ agenda.cancelled :=
  fun cancelled => Nat.lt_irrefl _ (opened _ cancelled)

/-- A family has only members that were opened. -/
theorem lt_of_mem_familyFrom {root index scope : Nat} {family : List Nat}
    {parents : List (Option Nat)} (inside : ∀ member ∈ family, member < index)
    (member : scope ∈ familyFrom root index family parents) : scope < index + parents.length := by
  induction parents generalizing index family with
  | nil => exact inside scope member
  | cons parent rest ih =>
      rw [familyFrom] at member
      rw [List.length_cons, Nat.add_comm rest.length, ← Nat.add_assoc]
      refine ih (fun other there => ?_) member
      split at there
      · rcases List.mem_cons.mp there with rfl | old
        · exact Nat.lt_succ_self _
        · exact Nat.lt_succ_of_lt (inside other old)
      · exact Nat.lt_succ_of_lt (inside other there)

theorem parents_cancelOne (agenda : Agenda) (scope : Nat) :
    (agenda.cancelOne scope).parents = agenda.parents := by
  unfold cancelOne
  split
  · rfl
  · rw [wakeAll_parents]

theorem Opened.cancelOne (opened : agenda.Opened) {scope : Nat}
    (inside : scope < agenda.parents.length) : (agenda.cancelOne scope).Opened := by
  intro other cancelled
  rw [parents_cancelOne]
  unfold Agenda.cancelOne at cancelled
  split at cancelled
  · exact opened other cancelled
  · rw [wakeAll_cancelled] at cancelled
    rcases List.mem_cons.mp cancelled with rfl | old
    · exact inside
    · exact opened other old

theorem Opened.cancel (opened : agenda.Opened) (scope : Nat) : (agenda.cancel scope).Opened := by
  have inside : ∀ member ∈ agenda.family scope, member < agenda.parents.length := by
    intro member belongs
    have bound := lt_of_mem_familyFrom (fun _ none => absurd none List.not_mem_nil) belongs
    rwa [Nat.zero_add] at bound
  unfold Agenda.cancel
  generalize agenda.family scope = family at inside
  induction family generalizing agenda with
  | nil => exact opened
  | cons first rest ih =>
      refine ih (opened.cancelOne (inside first List.mem_cons_self)) fun member belongs => ?_
      rw [parents_cancelOne]
      exact inside member (List.mem_cons_of_mem _ belongs)

theorem Opened.carryOut (opened : agenda.Opened) : agenda.carryOut.Opened := by
  have carried : ∀ (scopes : List Nat) (agenda : Agenda), agenda.Opened →
      (scopes.foldl (fun agenda scope => agenda.cancel scope) agenda).Opened := by
    intro scopes
    induction scopes with
    | nil => exact fun _ opened => opened
    | cons scope rest ih => exact fun agenda opened => ih (agenda.cancel scope) (opened.cancel scope)
  have start : Opened { agenda with
      planned := (agenda.planned.partition fun entry => entry.1 ≤ agenda.now).2 } := opened
  exact carried _ _ start

theorem Opened.ring (opened : agenda.Opened) : agenda.ring.Opened := by
  intro scope cancelled
  unfold Agenda.ring at cancelled ⊢
  dsimp only at cancelled ⊢
  rw [wakeAll_cancelled] at cancelled
  rw [wakeAll_parents]
  exact opened scope cancelled

theorem Opened.moveTo (opened : agenda.Opened) (instant : Nat) : (agenda.moveTo instant).Opened := by
  have moved : Opened { agenda with now := max agenda.now instant } := opened
  exact moved.carryOut.ring

theorem Opened.openScope (opened : agenda.Opened) : agenda.openScope.1.Opened := by
  intro scope cancelled
  have old := opened scope cancelled
  simp only [Agenda.openScope, List.length_append]
  omega

theorem Opened.openChild (opened : agenda.Opened) (parent : Nat) :
    (agenda.openChild parent).1.Opened := by
  intro scope cancelled
  simp only [Agenda.openChild, List.length_append, List.length_singleton] at cancelled ⊢
  split at cancelled
  · rcases List.mem_cons.mp cancelled with rfl | old
    · exact Nat.lt_succ_self _
    · exact Nat.lt_succ_of_lt (opened scope old)
  · exact Nat.lt_succ_of_lt (opened scope cancelled)

end Opened

/-! ## Looking forward -/

/-- Actors are woken, and neither the clock nor the scopes change. -/
structure Wakes (before after : Agenda) : Prop where
  now_eq : after.now = before.now
  parents : after.parents = before.parents
  cancelled : after.cancelled = before.cancelled
  ready : ∀ actor ∈ before.ready, actor ∈ after.ready

section Wakes

theorem Wakes.trans {before middle after : Agenda} (first : Wakes before middle)
    (second : Wakes middle after) : Wakes before after :=
  ⟨second.now_eq.trans first.now_eq, second.parents.trans first.parents,
    second.cancelled.trans first.cancelled,
    fun actor ready => second.ready actor (first.ready actor ready)⟩

variable (agenda : Agenda)

theorem wakes_wake (actor : Actor) : Wakes agenda (agenda.wake actor) :=
  ⟨by simp, by simp, by simp, fun _ ready => (mem_ready_wake _ _).mpr (.inr ready)⟩

theorem wakes_wakeAll (actors : List Actor) : Wakes agenda (agenda.wakeAll actors) :=
  ⟨by simp, by simp, by simp, fun _ ready => (mem_ready_wakeAll _ _).mpr (.inr ready)⟩

theorem wakes_release (actor : Actor) : Wakes agenda (agenda.release actor) :=
  ⟨rfl, rfl, rfl, fun _ => id⟩

theorem wakes_watch (scope : Nat) (actor : Actor) : Wakes agenda (agenda.watch scope actor) :=
  ⟨rfl, rfl, rfl, fun _ => id⟩

theorem wakes_setAlarms (alarms : List Nat) (actor : Actor) :
    Wakes agenda (alarms.foldl (fun agenda due => agenda.setAlarm due actor) agenda) := by
  induction alarms generalizing agenda with
  | nil => exact ⟨rfl, rfl, rfl, fun _ => id⟩
  | cons due rest ih =>
      obtain ⟨now, parents, cancelled, ready⟩ := ih (agenda.setAlarm due actor)
      exact ⟨now, parents, cancelled, ready⟩

end Wakes

/-! ## Leaving the scopes alone -/

/-- Neither the clock moves nor are scopes opened, cancelled or planned to be, and an actor
goes on being ready and watching what it watches, and keeps its alarms. -/
structure Leaves (actor : Actor) (before after : Agenda) : Prop where
  now_eq : after.now = before.now
  parents : after.parents = before.parents
  cancelled : after.cancelled = before.cancelled
  planned : after.planned = before.planned
  ready : actor ∈ before.ready → actor ∈ after.ready
  watchers : ∀ scope, (scope, actor) ∈ before.watchers → (scope, actor) ∈ after.watchers
  alarms : ∀ due, ⟨due, actor⟩ ∈ before.alarms → ⟨due, actor⟩ ∈ after.alarms

namespace Leaves

variable {actor : Actor} {before middle after : Agenda}

theorem refl (actor : Actor) (agenda : Agenda) : Leaves actor agenda agenda :=
  ⟨rfl, rfl, rfl, rfl, id, fun _ => id, fun _ => id⟩

theorem trans (first : Leaves actor before middle) (second : Leaves actor middle after) :
    Leaves actor before after where
  now_eq := second.now_eq.trans first.now_eq
  parents := second.parents.trans first.parents
  cancelled := second.cancelled.trans first.cancelled
  planned := second.planned.trans first.planned
  ready := fun ready => second.ready (first.ready ready)
  watchers := fun scope watched => second.watchers scope (first.watchers scope watched)
  alarms := fun due set => second.alarms due (first.alarms due set)

theorem spares (leaves : Leaves actor before after) : Spares actor before after :=
  .of_cancelled_eq leaves.now_eq leaves.ready leaves.watchers
    (fun due set => .inl (leaves.alarms due set)) leaves.parents leaves.cancelled

end Leaves

section Left

variable (actor : Actor) (agenda : Agenda)

theorem leaves_wake (other : Actor) : Leaves actor agenda (agenda.wake other) where
  now_eq := wake_now other agenda
  parents := wake_parents other agenda
  cancelled := wake_cancelled other agenda
  planned := by rw [wake_eq]
  ready := fun ready => (mem_ready_wake _ _).mpr (.inr ready)
  watchers := by simp
  alarms := by
    rw [wake_eq]
    exact fun _ => id

theorem leaves_wakeAll (others : List Actor) : Leaves actor agenda (agenda.wakeAll others) := by
  induction others generalizing agenda with
  | nil => exact .refl actor agenda
  | cons first rest ih => exact (agenda.leaves_wake actor first).trans (ih (agenda.wake first))

theorem leaves_setAlarms (alarms : List Nat) (other : Actor) :
    Leaves actor agenda (alarms.foldl (fun agenda due => agenda.setAlarm due other) agenda) := by
  induction alarms generalizing agenda with
  | nil => exact .refl actor agenda
  | cons due rest ih =>
      have set : Leaves actor agenda (agenda.setAlarm due other) :=
        ⟨rfl, rfl, rfl, rfl, id, fun _ => id, fun _ set => List.mem_append_left _ set⟩
      exact set.trans (ih (agenda.setAlarm due other))

theorem leaves_watch (scope : Nat) (other : Actor) :
    Leaves actor agenda (agenda.watch scope other) :=
  ⟨rfl, rfl, rfl, rfl, id, fun _ watched => List.mem_append_left _ watched, fun _ => id⟩

/-- Releasing one actor does not concern another one. -/
theorem leaves_release {other : Actor} (distinct : actor ≠ other) :
    Leaves actor agenda (agenda.release other) :=
  ⟨rfl, rfl, rfl, rfl, id,
    fun _ watched => List.mem_filter.mpr ⟨watched, by simpa using distinct⟩,
    fun _ set => List.mem_filter.mpr ⟨set, by simpa using distinct⟩⟩

/-- The turn of one actor leaves another one ready. -/
theorem leaves_erase {other : Actor} (distinct : actor ≠ other) :
    Leaves actor agenda { agenda with ready := agenda.ready.erase other } :=
  ⟨rfl, rfl, rfl, rfl, fun ready => (List.mem_erase_of_ne distinct).mpr ready, fun _ => id,
    fun _ => id⟩

end Left

end RiskGate.Schedule.Agenda

namespace RiskGate.Schedule

/-! ## Workers who are ready -/

/-- The worker whose turn it is. -/
def Actor.worker? : Actor → Option Nat
  | .worker index => some index
  | .dispatcher | .caller _ | .guest _ | .timer _ => none

theorem Actor.eq_of_worker? {first second : Actor} {index : Nat}
    (one : first.worker? = some index) (other : second.worker? = some index) : first = second := by
  cases first with
  | worker =>
      cases second with
      | worker =>
          cases one
          cases other
          rfl
      | dispatcher | caller | guest | timer => cases other
  | dispatcher | caller | guest | timer => cases one

namespace Agenda

/-- The workers who are ready, the next one first. -/
def workers (agenda : Agenda) : List Nat := agenda.ready.filterMap Actor.worker?

section Workers

variable (agenda : Agenda)

theorem mem_workers {index : Nat} : index ∈ agenda.workers ↔ .worker index ∈ agenda.ready := by
  rw [workers, List.mem_filterMap]
  constructor
  · rintro ⟨actor, ready, isWorker⟩
    cases actor with
    | worker other =>
        cases isWorker
        exact ready
    | dispatcher | caller | guest | timer => cases isWorker
  · exact fun ready => ⟨_, ready, rfl⟩

/-- Whoever takes its turn is no longer ready, and a worker who comes first makes way for the
next one. -/
theorem workers_erase {actor : Actor} {later : List Nat}
    (split : agenda.workers = actor.worker?.toList ++ later) :
    { agenda with ready := agenda.ready.erase actor }.workers = later := by
  unfold workers at split ⊢
  dsimp only
  generalize agenda.ready = ready at split
  induction ready generalizing later with
  | nil => exact (List.append_eq_nil_iff.mp split.symm).2.symm
  | cons first rest ih =>
      by_cases same : first = actor
      · rw [same, List.erase_cons_head]
        rw [same, List.filterMap_cons] at split
        cases isWorker : actor.worker? with
        | none => simpa [isWorker] using split
        | some index => simpa [isWorker] using split
      rw [List.erase_cons_tail (by simpa using same)]
      cases isWorker : first.worker? with
      | none =>
          rw [List.filterMap_cons_none isWorker] at split ⊢
          exact ih split
      | some index =>
          rw [List.filterMap_cons_some isWorker] at split ⊢
          have apart : actor.worker? = none := by
            cases other : actor.worker? with
            | none => rfl
            | some another =>
                rw [other] at split
                obtain rfl := (List.cons.inj split).1
                exact absurd (Actor.eq_of_worker? isWorker other) same
          rw [apart] at split
          rw [ih (by rw [apart]; rfl)]
          exact split

theorem workers_wake_other {actor : Actor} (other : actor.worker? = none) :
    (agenda.wake actor).workers = agenda.workers := by
  unfold wake
  split
  · rfl
  · simp [workers, other]

theorem workers_wake_worker {index : Nat} (absent : index ∉ agenda.workers) :
    (agenda.wake (.worker index)).workers = agenda.workers ++ [index] := by
  rw [mem_workers] at absent
  simp [wake, absent, workers, Actor.worker?]

theorem workers_wakeAll {actors : List Actor} (others : ∀ actor ∈ actors, actor.worker? = none) :
    (agenda.wakeAll actors).workers = agenda.workers := by
  induction actors generalizing agenda with
  | nil => rfl
  | cons first rest ih =>
      have later := ih (agenda.wake first) fun actor member =>
        others actor (List.mem_cons_of_mem _ member)
      exact later.trans (agenda.workers_wake_other (others first List.mem_cons_self))

end Workers

/-! ## How many are ready -/

section Counts

variable (agenda : Agenda)

theorem length_ready_wake (actor : Actor) :
    (agenda.wake actor).ready.length ≤ agenda.ready.length + 1 := by
  unfold wake
  split
  · exact Nat.le_succ _
  · simp

/-- Waking an actor that is ready changes nothing. -/
theorem wakeAll_of_ready {actor : Actor} {actors : List Actor} (ready : actor ∈ agenda.ready)
    (same : ∀ other ∈ actors, other = actor) : agenda.wakeAll actors = agenda := by
  induction actors with
  | nil => rfl
  | cons first rest ih =>
      obtain rfl := same first List.mem_cons_self
      have still : agenda.wake first = agenda := if_pos ready
      change (agenda.wake first).wakeAll rest = agenda
      rw [still]
      exact ih fun other member => same other (List.mem_cons_of_mem _ member)

/-- Waking one actor again and again is waking it once. -/
theorem length_ready_wakeAll {actor : Actor} {actors : List Actor}
    (same : ∀ other ∈ actors, other = actor) :
    (agenda.wakeAll actors).ready.length ≤ agenda.ready.length + 1 := by
  cases actors with
  | nil => exact Nat.le_succ _
  | cons first rest =>
      obtain rfl := same first List.mem_cons_self
      have woken : first ∈ (agenda.wake first).ready := (mem_ready_wake _ _).mpr (.inl rfl)
      have once := (agenda.wake first).wakeAll_of_ready woken fun other member =>
        same other (List.mem_cons_of_mem _ member)
      change ((agenda.wake first).wakeAll rest).ready.length ≤ _
      rw [once]
      exact agenda.length_ready_wake first

end Counts

end Agenda

end RiskGate.Schedule

namespace RiskGate.Schedule

/-- A wait as it is really made: one that no calendar could hold is cut. -/
def cutWait (wait : Span) : Span := if UInt64.size / 2 ≤ wait.secs then longestWait else wait

theorem cutWait_pos {wait : Span} (some : 0 < wait.nanos) : 0 < (cutWait wait).nanos := by
  unfold cutWait
  split
  · decide
  · exact some

/-- A wait goes on as long as the time that has passed is shorter. -/
theorem lt_waitOver_iff {start instant : Nat} {wait : Span} (some : 0 < wait.nanos) :
    instant < waitOver start wait ↔
      (Span.ofMillis (instant - start)).nanos < (cutWait wait).nanos := by
  have cut := cutWait_pos some
  change instant < start + (cutWait wait).timerMillis ↔ _
  simp only [Span.timerMillis, Span.ofMillis, Span.perMilli]
  omega

/-- A wait that is not empty is over later than it begins. -/
theorem lt_waitOver {start : Nat} {wait : Span} (some : 0 < wait.nanos) :
    start < waitOver start wait := by
  rw [lt_waitOver_iff some, Nat.sub_self]
  exact cutWait_pos some

end RiskGate.Schedule
