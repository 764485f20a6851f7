import RiskGate.Proofs.Pool.Lines

/-!
# First come, first served

Jobs pass through a pool in one order.  The callers who wait for room are promised room in
the order in which they began to wait, and take it in that order, since each of them is woken
as it is promised room.  The jobs of the queue are handed over in the order in which they
came into it, and are begun in that order, since each worker is woken as a job is handed
over.

What was accepted, what was begun and what had to wait is given here as lists of tickets,
which the runs extend by the notes of their events.
-/

namespace RiskGate.Pool

open Schedule (Actor Agenda)

variable {ε τ ρ : Type}

/-- The ticket of the job for which a caller waits for room. -/
def Caller.offered? : Caller τ ρ → Option Nat
  | .offering job _ _ => some job.ticket
  | .batching batch =>
      match batch.stage with
      | .offering job _ _ => some job.ticket
      | .joining => none
  | .offered .. | .batched .. | .closing .. | .closed .. => none

/-- The ticket of the job that was handed to a worker. -/
def Desk.handed? : Desk τ → Option Nat
  | .handed job => some job.ticket
  | .idle | .busy _ | .gone => none

namespace Floor

/-- The ticket of the job for which the caller with a number waits for room. -/
def offeredBy (floor : Floor ε τ ρ) (number : Nat) : Option Nat :=
  floor.callers[number]?.bind Caller.offered?

theorem offeredBy_congr (floor : Floor ε τ ρ) {after : Floor ε τ ρ} {number : Nat}
    (same : after.callers[number]? = floor.callers[number]?) :
    after.offeredBy number = floor.offeredBy number := by
  rw [offeredBy, same, offeredBy]

/-- The ticket of the job that was handed to an actor. -/
def inHand (floor : Floor ε τ ρ) : Actor → Option Nat
  | .worker index => floor.desks[index]?.bind Desk.handed?
  | .dispatcher | .caller _ | .guest _ | .timer _ => none

/-! ## The order of those who wait for room -/

/-- Callers get room in the order in which they began to wait.  Those who were promised room
stand in line in that order, and nobody who still waits stands behind the dispatcher. -/
structure RoomOrder (aside : Option Actor) (accepted waited : List Nat) (floor : Floor ε τ ρ) :
    Prop where
  distinct : (floor.granted ++ floor.waiting).Nodup
  wants : ∀ number ∈ floor.granted ++ floor.waiting,
    ∃ state, floor.callers[number]? = some state ∧ state.wantsRoom = true
  promised : ((floor.lineWith aside).filterMap Actor.caller?).filter (· ∈ floor.granted) =
    floor.granted
  behind : floor.shut = false → ∀ number ∈ floor.waiting,
    .caller number ∉ (floor.lineWith aside).dropWhile (· != .dispatcher)
  served : (accepted.filter (· ∈ waited) ++
    (floor.granted ++ floor.waiting).filterMap floor.offeredBy).Sublist waited

namespace RoomOrder

variable {aside : Option Actor} {accepted waited : List Nat} {floor : Floor ε τ ρ}

/-- Whoever does not want room neither waits for it nor was promised it. -/
theorem absent (room : RoomOrder aside accepted waited floor) {number : Nat}
    (served : ∀ state, floor.callers[number]? = some state → state.wantsRoom = false) :
    number ∉ floor.granted ++ floor.waiting := by
  intro member
  obtain ⟨state, found, wants⟩ := room.wants number member
  rw [served state found] at wants
  cases wants

/-- Neither the line nor those who want room are changed. -/
theorem frame {after : Floor ε τ ρ} {other : Option Actor}
    (room : RoomOrder aside accepted waited floor)
    (line : after.lineWith other = floor.lineWith aside) (callers : after.callers = floor.callers)
    (waiting : after.waiting = floor.waiting) (granted : after.granted = floor.granted)
    (shut : after.shut = false → floor.shut = false) : RoomOrder other accepted waited after := by
  have offeredBy : after.offeredBy = floor.offeredBy := by
    funext number
    rw [Floor.offeredBy, callers, Floor.offeredBy]
  constructor
  · rw [waiting, granted]
    exact room.distinct
  · rw [waiting, granted, callers]
    exact room.wants
  · rw [line, granted]
    exact room.promised
  · rw [line, waiting]
    exact fun open_ => room.behind (shut open_)
  · rw [waiting, granted, offeredBy]
    exact room.served

/-- Some who do not want room are woken. -/
theorem rouses (room : RoomOrder aside accepted waited floor) {change : Agenda → Agenda}
    {news : Actor → Prop} (rouses : Agenda.Rouses news floor.agenda (change floor.agenda))
    (areNews : ∀ actor, news actor → floor.Rousable actor ∧ aside ≠ some actor) :
    RoomOrder aside accepted waited (floor.onAgenda change) := by
  obtain ⟨extra, lineEq, _, extraNew⟩ :=
    floor.lineWith_rouses rouses fun actor isNew => (areNews actor isNew).2
  have served : ∀ number, .caller number ∈ extra → number ∉ floor.granted ++ floor.waiting := by
    intro number member
    obtain ⟨state, found, served⟩ := (areNews _ (extraNew _ member).2).1
    apply room.absent
    intro other same
    cases found.symm.trans same
    exact served
  refine ⟨room.distinct, room.wants, ?_, ?_, room.served⟩
  · have none : (extra.filterMap Actor.caller?).filter (· ∈ floor.granted) = [] := by
      apply List.filter_eq_nil_iff.mpr
      intro number member granted
      obtain ⟨actor, isExtra, isCaller⟩ := List.mem_filterMap.mp member
      cases actor with
      | caller other =>
          cases isCaller
          exact served number isExtra (List.mem_append_left _ (by simpa using granted))
      | dispatcher | worker | guest | timer => cases isCaller
    change (((floor.onAgenda change).lineWith aside).filterMap Actor.caller?).filter
      (· ∈ floor.granted) = floor.granted
    rw [lineEq, List.filterMap_append, List.filter_append, none, List.append_nil, room.promised]
  · intro open_ number waits member
    have unroused : .caller number ∉ extra := fun isExtra =>
      served number isExtra (List.mem_append_right _ waits)
    rw [lineEq, List.dropWhile_append] at member
    split at member
    · exact unroused ((List.dropWhile_sublist _).subset member)
    · rcases List.mem_append.mp member with old | new
      · exact room.behind open_ number waits old
      · exact unroused new

/-- An actor who has not been promised room goes out of line. -/
theorem leave {actor : Actor} (room : RoomOrder (some actor) accepted waited floor)
    (distinct : (floor.lineWith (some actor)).Nodup)
    (unpromised : ∀ number, actor = .caller number → number ∉ floor.granted) :
    RoomOrder none accepted waited floor := by
  refine ⟨room.distinct, room.wants, ?_, ?_, room.served⟩
  · have promised := room.promised
    change ((actor :: floor.agenda.line).filterMap Actor.caller?).filter _ = _ at promised
    cases isCaller : actor.caller? with
    | none =>
        rw [List.filterMap_cons_none isCaller] at promised
        exact promised
    | some number =>
        have unpromised : number ∉ floor.granted := by
          apply unpromised
          cases actor with
          | caller other => exact congrArg Actor.caller (Option.some.inj isCaller)
          | dispatcher | worker | guest | timer => cases isCaller
        rw [List.filterMap_cons_some isCaller,
          List.filter_cons_of_neg (by simpa using unpromised)] at promised
        exact promised
  · intro open_ number waits member
    change .caller number ∈ floor.agenda.line.dropWhile (· != .dispatcher) at member
    by_cases same : actor = .dispatcher
    · subst same
      exact room.behind open_ number waits
        (List.mem_cons_of_mem _ ((List.dropWhile_sublist _).subset member))
    · apply room.behind open_ number waits
      change .caller number ∈ (actor :: floor.agenda.line).dropWhile (· != .dispatcher)
      rwa [List.dropWhile_cons_of_pos (by simpa using same)]

/-- A caller who wants no room changes its state. -/
theorem setCaller (room : RoomOrder aside accepted waited floor) {own : Nat}
    (absent : own ∉ floor.granted ++ floor.waiting) (state : Caller τ ρ) :
    RoomOrder aside accepted waited (floor.setCaller own state) := by
  have distinct : ∀ number ∈ floor.granted ++ floor.waiting, own ≠ number := by
    rintro number member rfl
    exact absent member
  refine ⟨room.distinct, ?_, room.promised, room.behind, ?_⟩
  · intro number member
    obtain ⟨old, found, wants⟩ := room.wants number member
    exact ⟨old, (List.getElem?_set_ne (distinct number member)).trans found, wants⟩
  · have same : (floor.granted ++ floor.waiting).filterMap (floor.setCaller own state).offeredBy =
        (floor.granted ++ floor.waiting).filterMap floor.offeredBy := by
      apply List.filterMap_congr
      intro number member
      exact floor.offeredBy_congr (List.getElem?_set_ne (distinct number member))
    change (accepted.filter (· ∈ waited) ++ (floor.granted ++ floor.waiting).filterMap
      (floor.setCaller own state).offeredBy).Sublist waited
    rw [same]
    exact room.served

/-- Somebody comes in, and is aside. -/
theorem enter (room : RoomOrder none accepted waited floor) (state : Caller τ ρ) :
    RoomOrder (some (.caller floor.callers.length)) accepted waited (floor.enter state).1 := by
  have inRange : ∀ number ∈ floor.granted ++ floor.waiting, number < floor.callers.length := by
    intro number member
    obtain ⟨old, found, _⟩ := room.wants number member
    exact (List.getElem?_eq_some_iff.mp found).1
  have unpromised : floor.callers.length ∉ floor.granted := fun member =>
    Nat.lt_irrefl _ (inRange _ (List.mem_append_left _ member))
  refine ⟨room.distinct, ?_, ?_, ?_, ?_⟩
  · intro number member
    obtain ⟨old, found, wants⟩ := room.wants number member
    exact ⟨old, (List.getElem?_append_left (inRange number member)).trans found, wants⟩
  · change ((floor.callers.length :: floor.agenda.line.filterMap Actor.caller?).filter
      (· ∈ floor.granted)) = floor.granted
    rw [List.filter_cons_of_neg (by simpa using unpromised)]
    exact room.promised
  · exact room.behind
  · have same : (floor.granted ++ floor.waiting).filterMap (floor.enter state).1.offeredBy =
        (floor.granted ++ floor.waiting).filterMap floor.offeredBy := by
      apply List.filterMap_congr
      intro number member
      exact floor.offeredBy_congr (List.getElem?_append_left (inRange number member))
    change (accepted.filter (· ∈ waited) ++ (floor.granted ++ floor.waiting).filterMap
      (floor.enter state).1.offeredBy).Sublist waited
    rw [same]
    exact room.served

/-- A job is accepted that did not have to wait. -/
theorem accept (room : RoomOrder aside accepted waited floor) {ticket : Nat}
    (unwaited : ticket ∉ waited) : RoomOrder aside (accepted ++ [ticket]) waited floor := by
  refine ⟨room.distinct, room.wants, room.promised, room.behind, ?_⟩
  rw [List.filter_append, List.filter_cons_of_neg (by simpa using unwaited), List.filter_nil,
    List.append_nil]
  exact room.served

/-- What holds of more accepted jobs holds of fewer. -/
theorem without {tickets : List Nat} (room : RoomOrder aside (accepted ++ tickets) waited floor) :
    RoomOrder aside accepted waited floor := by
  refine ⟨room.distinct, room.wants, room.promised, room.behind, ?_⟩
  have served := room.served
  rw [List.filter_append] at served
  exact ((List.sublist_append_left _ _).append_right _).trans served

/-- The caller who acts begins to wait for room. -/
theorem await {own : Nat} (room : RoomOrder (some (.caller own)) accepted waited floor)
    (distinct : (floor.lineWith (some (.caller own))).Nodup)
    (absent : own ∉ floor.granted ++ floor.waiting) {state : Caller τ ρ} {ticket : Nat}
    (found : floor.callers[own]? = some state) (wants : state.wantsRoom = true)
    (offers : state.offered? = some ticket) (unaccepted : ticket ∉ accepted) :
    RoomOrder (some (.caller own)) accepted (waited ++ [ticket])
      { floor with waiting := floor.waiting ++ [own] } := by
  have granted_waiting : floor.granted ++ (floor.waiting ++ [own]) =
      (floor.granted ++ floor.waiting) ++ [own] := (List.append_assoc _ _ _).symm
  refine ⟨?_, ?_, room.promised, ?_, ?_⟩
  · change (floor.granted ++ (floor.waiting ++ [own])).Nodup
    rw [granted_waiting]
    refine List.nodup_append.mpr ⟨room.distinct, List.pairwise_singleton _ _, ?_⟩
    rintro number member other single rfl
    rw [List.mem_singleton.mp single] at member
    exact absent member
  · change ∀ number ∈ floor.granted ++ (floor.waiting ++ [own]), _
    rw [granted_waiting]
    intro number member
    rcases List.mem_append.mp member with old | new
    · exact room.wants number old
    · rw [List.mem_singleton.mp new]
      exact ⟨state, found, wants⟩
  · intro open_ number waits member
    rcases List.mem_append.mp waits with old | new
    · exact room.behind open_ number old member
    · rw [List.mem_singleton.mp new] at member
      exact (List.nodup_cons.mp distinct).1 ((List.dropWhile_sublist _).subset member)
  · have unchanged : accepted.filter (· ∈ waited ++ [ticket]) = accepted.filter (· ∈ waited) := by
      apply List.filter_congr
      intro other member
      have apart : other ≠ ticket := by
        rintro rfl
        exact unaccepted member
      simp [apart]
    have offeredEq : floor.offeredBy own = some ticket := by
      rw [offeredBy, found]
      exact offers
    change (accepted.filter (· ∈ waited ++ [ticket]) ++
      (floor.granted ++ (floor.waiting ++ [own])).filterMap floor.offeredBy).Sublist _
    rw [unchanged, granted_waiting, List.filterMap_append, ← List.append_assoc,
      List.filterMap_cons_some offeredEq, List.filterMap_nil]
    exact room.served.append_right _

/-- A caller who was promised nothing gives up waiting. -/
theorem withdraw {own : Nat} (room : RoomOrder aside accepted waited floor)
    (unpromised : own ∉ floor.granted) : RoomOrder aside accepted waited (floor.withdraw own) := by
  have granted : (floor.withdraw own).granted = floor.granted := by
    apply List.filter_eq_self.mpr
    intro other member
    rw [bne_iff_ne]
    rintro rfl
    exact unpromised member
  have fewer : ((floor.withdraw own).granted ++ (floor.withdraw own).waiting).Sublist
      (floor.granted ++ floor.waiting) := by
    rw [granted]
    exact List.filter_sublist.append_left _
  refine ⟨room.distinct.sublist fewer, fun number member => room.wants number (fewer.subset member),
    ?_, ?_, ?_⟩
  · rw [granted]
    exact room.promised
  · exact fun open_ number waits => room.behind open_ number (List.mem_filter.mp waits).1
  · exact ((fewer.filterMap _).append_left _).trans room.served

/-- The caller who acts takes the room that was promised to it. -/
theorem take {own ticket : Nat} (room : RoomOrder (some (.caller own)) accepted waited floor)
    (distinct : (floor.lineWith (some (.caller own))).Nodup) (granted : own ∈ floor.granted)
    (offers : floor.offeredBy own = some ticket) :
    ticket ∈ waited ∧
      RoomOrder (some (.caller own)) (accepted ++ [ticket]) waited (floor.withdraw own) := by
  let others := (floor.agenda.line.filterMap Actor.caller?).filter (· ∈ floor.granted)
  have first : floor.granted = own :: others := by
    have promised := room.promised
    change (own :: floor.agenda.line.filterMap Actor.caller?).filter (· ∈ floor.granted) =
      floor.granted at promised
    rw [List.filter_cons_of_pos (by simpa using granted)] at promised
    exact promised.symm
  have apart := room.distinct
  rw [first, List.cons_append, List.nodup_cons] at apart
  have own_others : own ∉ others := fun member => apart.1 (List.mem_append_left _ member)
  have own_waiting : own ∉ floor.waiting := fun member => apart.1 (List.mem_append_right _ member)
  have others_eq : (floor.withdraw own).granted = others := by
    change floor.granted.filter (· != own) = others
    rw [first, List.filter_cons_of_neg (by simp)]
    apply List.filter_eq_self.mpr
    intro other member
    rw [bne_iff_ne]
    rintro rfl
    exact own_others member
  have waiting_eq : (floor.withdraw own).waiting = floor.waiting := by
    apply List.filter_eq_self.mpr
    intro other member
    rw [bne_iff_ne]
    rintro rfl
    exact own_waiting member
  have served := room.served
  rw [first, List.cons_append, List.filterMap_cons_some offers] at served
  have waited_mem : ticket ∈ waited :=
    served.subset (List.mem_append_right _ List.mem_cons_self)
  refine ⟨waited_mem, ?_, ?_, ?_, ?_, ?_⟩
  · rw [others_eq, waiting_eq]
    exact apart.2
  · rw [others_eq, waiting_eq]
    intro number member
    apply room.wants
    rw [first]
    exact List.mem_cons_of_mem _ member
  · have own_line : own ∉ floor.agenda.line.filterMap Actor.caller? := by
      intro member
      obtain ⟨actor, inLine, isCaller⟩ := List.mem_filterMap.mp member
      cases actor with
      | caller number =>
          cases isCaller
          exact (List.nodup_cons.mp distinct).1 inLine
      | dispatcher | worker | guest | timer => cases isCaller
    rw [others_eq]
    change (own :: floor.agenda.line.filterMap Actor.caller?).filter (· ∈ others) = others
    rw [List.filter_cons_of_neg (by simpa using own_others)]
    apply List.filter_congr
    intro number member
    have other : number ≠ own := by
      rintro rfl
      exact own_line member
    rw [first]
    simp [other]
  · rw [waiting_eq]
    exact room.behind
  · rw [List.filter_append, List.filter_cons_of_pos (by simpa using waited_mem), List.filter_nil,
      others_eq, waiting_eq, List.append_assoc]
    exact served

/-- The dispatcher promises room to the caller who has waited longest. -/
theorem grant {number : Nat} {rest : List Nat}
    (room : RoomOrder (some .dispatcher) accepted waited floor)
    (open_ : floor.shut = false) (waiting : floor.waiting = number :: rest) :
    RoomOrder (some .dispatcher) accepted waited
      (({ floor with waiting := rest, granted := floor.granted ++ [number] } : Floor ε τ ρ).wake
        (.caller number)) := by
  have absent : ∀ other ∈ floor.waiting, .caller other ∉ floor.lineWith (some .dispatcher) :=
    room.behind open_
  have unready : .caller number ∉ floor.agenda.ready := by
    intro ready
    apply absent number (by rw [waiting]; exact List.mem_cons_self)
    exact List.mem_cons_of_mem _ ((Agenda.mem_line rfl).mpr ready)
  have line :
      (floor.agenda.wake (.caller number)).line = floor.agenda.line ++ [.caller number] := by
    rw [Agenda.wake, if_neg unready, Agenda.line, List.filter_append]
    rfl
  have same : floor.granted ++ [number] ++ rest = floor.granted ++ floor.waiting := by
    rw [waiting, List.append_assoc]
    rfl
  refine ⟨?_, ?_, ?_, ?_, ?_⟩
  · change (floor.granted ++ [number] ++ rest).Nodup
    rw [same]
    exact room.distinct
  · change ∀ other ∈ floor.granted ++ [number] ++ rest, _
    rw [same]
    exact room.wants
  · change ((floor.agenda.wake (.caller number)).line.filterMap Actor.caller?).filter
      (· ∈ floor.granted ++ [number]) = floor.granted ++ [number]
    rw [line, List.filterMap_append, List.filter_append]
    congr 1
    · refine Eq.trans ?_ room.promised
      apply List.filter_congr
      intro other member
      have distinct : other ≠ number := by
        rintro rfl
        obtain ⟨actor, inLine, isCaller⟩ := List.mem_filterMap.mp member
        cases actor with
        | caller held =>
            cases isCaller
            apply absent other (by rw [waiting]; exact List.mem_cons_self)
            exact List.mem_cons_of_mem _ inLine
        | dispatcher | worker | guest | timer => cases isCaller
      simp [distinct]
    · simp [Actor.caller?]
  · intro _ other waits member
    have there : .caller other ∈ .dispatcher :: (floor.agenda.line ++ [.caller number]) := by
      rw [← line]
      exact (List.dropWhile_sublist _).subset member
    have distinct := room.distinct
    rw [waiting] at distinct
    rcases List.mem_cons.mp there with isDispatcher | behind
    · cases isDispatcher
    · rcases List.mem_append.mp behind with old | new
      · apply absent other (by rw [waiting]; exact List.mem_cons_of_mem _ waits)
        exact List.mem_cons_of_mem _ old
      · cases List.mem_singleton.mp new
        exact (List.nodup_cons.mp (List.nodup_append.mp distinct).2.1).1 waits
  · change (accepted.filter (· ∈ waited) ++ (floor.granted ++ [number] ++ rest).filterMap
      floor.offeredBy).Sublist waited
    rw [same]
    exact room.served

end RoomOrder

end Floor

end RiskGate.Pool
