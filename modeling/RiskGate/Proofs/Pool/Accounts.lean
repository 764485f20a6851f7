import RiskGate.Proofs.Pool.Whereabouts

/-!
# The lives of jobs

The place of a job and what is known of it belong together: a queued job was
accepted and not begun, a running one was begun once, and a delivered outcome is
explained by the notes that led to it.  A floor is accounted for by a history
when each ticket that was given out has exactly one place, which fits its story.

A move of one job keeps the account as long as the new place fits the longer
story.  Nothing here depends on how the floor makes its moves.
-/

namespace RiskGate.Pool

variable {ε τ ρ : Type}

/-! ## Stories -/

namespace History

theorem story_append (ticket : Nat) (first second : History τ ρ) :
    story ticket (first ++ second) = story ticket first ++ story ticket second := by
  simp [story]

theorem mem_story {ticket : Nat} {note : Note τ ρ} {history : History τ ρ} :
    note ∈ history.story ticket ↔ (ticket, note) ∈ history := by
  simp [story]

/-- Notes of one job are its story. -/
theorem story_map (ticket : Nat) (notes : List (Note τ ρ)) :
    story ticket (notes.map fun note => (ticket, note)) = notes := by
  induction notes with
  | nil => rfl
  | cons note rest ih =>
      rw [story, List.map_cons, List.filter_cons_of_pos (by simp), List.map_cons]
      exact congrArg (note :: ·) ih

/-- Notes of another job do not belong to the story. -/
theorem story_map_of_ne {ticket other : Nat} (distinct : other ≠ ticket)
    (notes : List (Note τ ρ)) :
    story other (notes.map fun note => (ticket, note)) = [] := by
  induction notes with
  | nil => rfl
  | cons note rest ih =>
      rw [story, List.map_cons, List.filter_cons_of_neg (by simpa using distinct.symm)]
      exact ih

theorem story_append_map_of_ne {ticket other : Nat} (distinct : other ≠ ticket)
    (history : History τ ρ) (notes : List (Note τ ρ)) :
    story other (history ++ notes.map fun note => (ticket, note)) = story other history := by
  rw [story_append, story_map_of_ne distinct, List.append_nil]

end History

namespace Floor

/-! ## Endings -/

/-- How the outcome of a job is explained by its story. -/
inductive Ending (floor : Floor ε τ ρ) (job : Job τ) : List (Note τ ρ) → Outcome ρ → Prop where
  /-- The submission was refused; the outcome is the refusal. -/
  | refused (failure : Failure) :
      Ending floor job [.issued job, .answered (.error failure)] (.error failure)
  /-- The scope was cancelled before the task was begun. -/
  | skipped (cancelled : floor.isCancelled job.scope = true) :
      Ending floor job [.issued job, .answered (.ok ())] (.error .cancelled)
  /-- The pool was shut down before the task was begun. -/
  | stranded (shut : floor.shut = true) :
      Ending floor job [.issued job, .answered (.ok ())] (.error .poolShutdown)
  /-- The scope was cancelled while the task was being run. -/
  | abandoned (cancelled : floor.isCancelled job.scope = true) :
      Ending floor job [.issued job, .answered (.ok ()), .invoked job.task] (.error .cancelled)
  /-- The task ended; the outcome is its own. -/
  | finished (outcome : Outcome ρ) :
      Ending floor job [.issued job, .answered (.ok ()), .invoked job.task, .yielded outcome]
        outcome

/-- The place of a job fits what is known of it. -/
def Fits (floor : Floor ε τ ρ) (place : Place τ ρ) (story : List (Note τ ρ)) : Prop :=
  match place with
  | .offered job => story = [.issued job]
  | .queued job | .handed job => story = [.issued job, .answered (.ok ())]
  | .running scope =>
      ∃ job : Job τ, job.scope = scope ∧
        story = [.issued job, .answered (.ok ()), .invoked job.task]
  | .delivered outcome => ∃ job, floor.Ending job story outcome

/-- What was cancelled or shut stays so. -/
structure Later (before after : Floor ε τ ρ) : Prop where
  cancelled : ∀ scope, before.isCancelled scope = true → after.isCancelled scope = true
  shut : before.shut = true → after.shut = true

namespace Later

variable {before middle after : Floor ε τ ρ}

theorem trans (first : Later before middle) (second : Later middle after) : Later before after :=
  ⟨fun scope cancelled => second.cancelled scope (first.cancelled scope cancelled),
    fun shut => second.shut (first.shut shut)⟩

theorem of_eq (cancelled : after.agenda.cancelled = before.agenda.cancelled)
    (shut : after.shut = before.shut) : Later before after where
  cancelled := by
    intro scope old
    rw [isCancelled, Schedule.Agenda.isCancelled, cancelled]
    exact old
  shut := by
    rw [shut]
    exact id

/-- An explanation stays good. -/
theorem ending (later : Later before after) {job : Job τ} {story : List (Note τ ρ)}
    {outcome : Outcome ρ} (ending : before.Ending job story outcome) :
    after.Ending job story outcome := by
  cases ending with
  | refused failure => exact .refused failure
  | skipped cancelled => exact .skipped (later.cancelled _ cancelled)
  | stranded shut => exact .stranded (later.shut shut)
  | abandoned cancelled => exact .abandoned (later.cancelled _ cancelled)
  | finished outcome => exact .finished outcome

/-- A place that fits goes on to fit. -/
theorem fits (later : Later before after) {place : Place τ ρ} {story : List (Note τ ρ)}
    (fits : before.Fits place story) : after.Fits place story := by
  cases place with
  | delivered outcome =>
      obtain ⟨job, ending⟩ := fits
      exact ⟨job, later.ending ending⟩
  | offered | queued | handed | running => exact fits

end Later

/-! ## Accounts -/

/-- Every ticket that was given out has one place, which fits its story. -/
structure Accounted (history : History τ ρ) (floor : Floor ε τ ρ) : Prop where
  once : ∀ ticket, floor.whereabouts.countP (·.1 = ticket) =
    if ticket < floor.nextTicket then 1 else 0
  fits : ∀ entry ∈ floor.whereabouts, floor.Fits entry.2 (history.story entry.1)
  unborn : ∀ ticket, floor.nextTicket ≤ ticket → history.story ticket = []

namespace Accounted

variable {history : History τ ρ} {before after : Floor ε τ ρ}

/-- Nothing is known of a new pool, and it has no jobs. -/
theorem make (workers capacity : Nat) (shared : ε) :
    Accounted [] (make workers capacity shared : Floor ε τ ρ) := by
  have empty : (Floor.make workers capacity shared : Floor ε τ ρ).whereabouts = 0 := by
    simp [whereabouts, Floor.make, queuePlaces, deliveryPlaces, Desk.places]
  constructor
  · intro ticket
    rw [empty, Multiset.countP_zero]
    exact (if_neg (Nat.not_lt_zero ticket)).symm
  · intro entry member
    rw [empty] at member
    exact absurd member (Multiset.notMem_zero entry)
  · intro _ _
    rfl

/-- A change that moves no job. -/
theorem unmoved (accounted : Accounted history before) (later : Later before after)
    (whereabouts : after.whereabouts = before.whereabouts)
    (nextTicket : after.nextTicket = before.nextTicket) : Accounted history after where
  once := by
    rw [whereabouts, nextTicket]
    exact accounted.once
  fits := by
    intro entry member
    rw [whereabouts] at member
    exact later.fits (accounted.fits entry member)
  unborn := by
    rw [nextTicket]
    exact accounted.unborn

/-- A ticket with a place was given out. -/
theorem lt_nextTicket (accounted : Accounted history before) {ticket : Nat} {place : Place τ ρ}
    (member : (ticket, place) ∈ before.whereabouts) : ticket < before.nextTicket := by
  have positive : 0 < before.whereabouts.countP (·.1 = ticket) :=
    Multiset.countP_pos.mpr ⟨(ticket, place), member, rfl⟩
  rw [accounted.once] at positive
  by_contra notBefore
  rw [if_neg notBefore] at positive
  exact Nat.lt_irrefl 0 positive

/-- A job of which something is known has a ticket that was given out. -/
theorem told_lt (accounted : Accounted history before) {ticket : Nat} {note : Note τ ρ}
    (told : (ticket, note) ∈ history) : ticket < before.nextTicket := by
  by_contra beyond
  have silent := accounted.unborn ticket (Nat.le_of_not_lt beyond)
  have member : note ∈ history.story ticket := History.mem_story.mpr told
  rw [silent] at member
  cases member

/-- One job moves to another place, and more becomes known of it. -/
theorem move (accounted : Accounted history before) (later : Later before after) {ticket : Nat}
    {old new : Place τ ρ} (notes : List (Note τ ρ))
    (present : (ticket, old) ∈ before.whereabouts)
    (moved : after.whereabouts + {(ticket, old)} = before.whereabouts + {(ticket, new)})
    (nextTicket : after.nextTicket = before.nextTicket)
    (fits : ∀ story, before.Fits old story → after.Fits new (story ++ notes)) :
    Accounted (history ++ notes.map fun note => (ticket, note)) after := by
  have born := accounted.lt_nextTicket present
  obtain ⟨others, beforeEq⟩ := Multiset.exists_cons_of_mem present
  have afterEq : after.whereabouts = (ticket, new) ::ₘ others := by
    rw [beforeEq, ← Multiset.singleton_add, add_comm {(ticket, old)}, add_right_comm] at moved
    rw [add_right_cancel moved, add_comm, Multiset.singleton_add]
  have others_ne : ∀ entry ∈ others, entry.1 ≠ ticket := by
    intro entry member same
    have counted := accounted.once ticket
    rw [beforeEq, if_pos born, Multiset.countP_cons, if_pos rfl] at counted
    have positive : 0 < others.countP (·.1 = ticket) :=
      Multiset.countP_pos.mpr ⟨entry, member, same⟩
    omega
  constructor
  · intro other
    rw [nextTicket, ← accounted.once other, beforeEq, afterEq, Multiset.countP_cons,
      Multiset.countP_cons]
  · intro entry member
    rw [afterEq, Multiset.mem_cons] at member
    rcases member with rfl | member
    · rw [History.story_append, History.story_map]
      exact fits _ (accounted.fits _ present)
    · rw [History.story_append_map_of_ne (others_ne entry member)]
      apply later.fits
      apply accounted.fits
      rw [beforeEq]
      exact Multiset.mem_cons_of_mem member
  · intro other unborn
    rw [nextTicket] at unborn
    rw [History.story_append_map_of_ne (by omega)]
    exact accounted.unborn other unborn

/-- A job is made. -/
theorem born (accounted : Accounted history before) (later : Later before after)
    {place : Place τ ρ} (notes : List (Note τ ρ))
    (placed : after.whereabouts = before.whereabouts + {(before.nextTicket, place)})
    (nextTicket : after.nextTicket = before.nextTicket + 1)
    (fits : after.Fits place notes) :
    Accounted (history ++ notes.map fun note => (before.nextTicket, note)) after := by
  constructor
  · intro other
    rw [placed, add_comm, Multiset.singleton_add, Multiset.countP_cons, accounted.once, nextTicket]
    by_cases same : before.nextTicket = other
    · subst other
      simp
    · rw [if_neg same, Nat.add_zero]
      exact if_congr (by omega) rfl rfl
  · intro entry member
    rw [placed, Multiset.mem_add, Multiset.mem_singleton] at member
    rcases member with member | rfl
    · have old : entry.1 < before.nextTicket := accounted.lt_nextTicket member
      rw [History.story_append_map_of_ne (by omega)]
      exact later.fits (accounted.fits entry member)
    · rw [History.story_append, accounted.unborn _ (Nat.le_refl _), History.story_map]
      exact fits
  · intro other unborn
    rw [nextTicket] at unborn
    rw [History.story_append_map_of_ne (by omega)]
    exact accounted.unborn other (by omega)

end Accounted

end Floor

end RiskGate.Pool
