import RiskGate.Proofs.Pool.Dispatch

/-!
# What the notes of a run tell in order

The notes of a run tell which jobs were accepted and which were begun, and in which order.
When they are kept apart event by event, they also tell which submissions were not answered
at once.  Submissions are told of by callers, and beginnings by workers alone.
-/

namespace RiskGate.Pool

variable {ε τ ρ : Type}

/-! ## Orders of tickets -/

/-- The note says that a job was passed to a submission. -/
def Note.isIssue : Note τ ρ → Bool
  | .issued _ => true
  | .answered _ | .invoked _ | .yielded _ => false

/-- The note says that a submission was answered. -/
def Note.isAnswer : Note τ ρ → Bool
  | .answered _ => true
  | .issued _ | .invoked _ | .yielded _ => false

namespace History

/-- The tickets of the notes of a kind, in the order of the notes. -/
def tickets (kind : Note τ ρ → Bool) (history : History τ ρ) : List Nat :=
  (history.filter fun entry => kind entry.2).map Prod.fst

/-- The jobs that were accepted, the first one first. -/
def accepted (history : History τ ρ) : List Nat := history.tickets Note.isAcceptance

/-- The jobs that were begun, the first one first. -/
def begun (history : History τ ρ) : List Nat := history.tickets Note.isBeginning

/-- The jobs that were passed to a submission which was not answered. -/
def unanswered (history : History τ ρ) : List Nat :=
  (history.tickets Note.isIssue).diff (history.tickets Note.isAnswer)

/-- The jobs whose submissions had to wait, the first one first. -/
def waited (chronicle : List (History τ ρ)) : List Nat := chronicle.flatMap unanswered

theorem tickets_append (kind : Note τ ρ → Bool) (first second : History τ ρ) :
    (first ++ second).tickets kind = first.tickets kind ++ second.tickets kind := by
  simp [tickets]

/-- The accepted jobs are those of which an acceptance is noted. -/
theorem mem_accepted {history : History τ ρ} {ticket : Nat} :
    ticket ∈ history.accepted ↔ (ticket, .answered (.ok ())) ∈ history := by
  rw [accepted, tickets, List.mem_map]
  constructor
  · rintro ⟨⟨_, note⟩, member, rfl⟩
    obtain ⟨there, acceptance⟩ := List.mem_filter.mp member
    cases note with
    | answered answer =>
        cases answer with
        | ok => exact there
        | error => cases acceptance
    | issued | invoked | yielded => cases acceptance
  · exact fun there => ⟨_, List.mem_filter.mpr ⟨there, rfl⟩, rfl⟩

theorem waited_concat (chronicle : List (History τ ρ)) (notes : History τ ρ) :
    waited (chronicle ++ [notes]) = waited chronicle ++ unanswered notes := by
  simp [waited]

@[simp] theorem accepted_nil : accepted ([] : History τ ρ) = [] := rfl

@[simp] theorem unanswered_nil : unanswered ([] : History τ ρ) = [] := rfl

@[simp] theorem begun_nil : begun ([] : History τ ρ) = [] := rfl

theorem accepted_cons (entry : Nat × Note τ ρ) (rest : History τ ρ) :
    accepted (entry :: rest) = accepted [entry] ++ accepted rest :=
  tickets_append _ [entry] rest

theorem accepted_cons_issued (ticket : Nat) (job : Job τ) (rest : History τ ρ) :
    accepted ((ticket, .issued job) :: rest) = accepted rest := rfl

/-- A job that was issued and answered adds nothing to those that are not answered. -/
theorem unanswered_cons_answered (ticket : Nat) (job : Job τ) (answer : Outcome Unit)
    (rest : History τ ρ) :
    unanswered ((ticket, .issued job) :: (ticket, .answered answer) :: rest) = unanswered rest := by
  change (ticket :: rest.tickets Note.isIssue).diff (ticket :: rest.tickets Note.isAnswer) = _
  rw [List.diff_cons, List.erase_cons_head]
  rfl

/-- The answer to a job that was issued before changes nothing either. -/
theorem unanswered_answered {ticket : Nat} (answer : Outcome Unit) {rest : History τ ρ}
    (fresh : ticket ∉ rest.tickets Note.isIssue) :
    unanswered ((ticket, .answered answer) :: rest) = unanswered rest := by
  change (rest.tickets Note.isIssue).diff (ticket :: rest.tickets Note.isAnswer) = _
  rw [List.diff_cons, List.erase_of_not_mem fresh]
  rfl

end History

namespace Floor

/-! ## Notes of callers -/

/-- Callers begin no job. -/
theorem begun_handInNotes (own : Nat) (tasks : List τ) (batch : Batch τ ρ)
    (floor : Floor ε τ ρ) : History.begun (floor.handInNotes own batch tasks) = [] := by
  induction tasks generalizing batch floor with
  | nil => rfl
  | cons task rest ih =>
      rw [handInNotes]
      dsimp only
      split
      · exact ih _ _
      · rfl

theorem begun_answerNotes (ticket : Nat) (answer : Option (Outcome Unit)) :
    History.begun (answerNotes ticket answer : History τ ρ) = [] := by
  cases answer <;> rfl

theorem begun_attendNotes (own : Nat) (floor : Floor ε τ ρ) :
    History.begun (floor.attendNotes own) = [] := by
  unfold attendNotes
  split
  · exact begun_answerNotes _ _
  · unfold batchNotes
    split
    · rfl
    · split
      · exact begun_handInNotes _ _ _ _
      · rfl
  · rfl

/-! ## Notes of tasks -/

section Notes

variable [Trade ε τ ρ] {floor : Floor ε τ ρ}

theorem tickets_resumeNotes {kind : Note τ ρ → Bool}
    (blind : ∀ outcome, kind (.yielded outcome) = false) (index : Nat) (job : Job τ) :
    History.tickets kind (floor.resumeNotes index job) = [] := by
  unfold resumeNotes
  split
  · simp [History.tickets, blind]
  · rfl

/-- A worker's turn tells nothing of submissions. -/
theorem tickets_workNotes {kind : Note τ ρ → Bool}
    (blind : ∀ outcome, kind (.yielded outcome) = false)
    (unbegun : ∀ task, kind (.invoked task) = false) (index : Nat) :
    History.tickets kind (floor.workNotes index) = [] := by
  unfold workNotes
  split
  · split
    · rfl
    next job _ _ =>
      rw [← List.singleton_append, History.tickets_append, tickets_resumeNotes blind]
      simp [History.tickets, unbegun]
  · split
    · rfl
    · exact tickets_resumeNotes blind index _
  · rfl

theorem accepted_workNotes (index : Nat) : History.accepted (floor.workNotes index) = [] :=
  tickets_workNotes (fun _ => rfl) (fun _ => rfl) index

theorem unanswered_workNotes (index : Nat) : History.unanswered (floor.workNotes index) = [] := by
  have unissued : History.tickets Note.isIssue (floor.workNotes index) = [] :=
    tickets_workNotes (fun _ => rfl) (fun _ => rfl) index
  rw [History.unanswered, unissued, List.nil_diff]

end Notes

/-! ## Notes that are made once -/

section Once

variable {history : History τ ρ} {floor : Floor ε τ ρ}

/-- Whatever is known of a job leads from its submission towards its end. -/
theorem Accounted.story_prefix (accounted : Accounted history floor) {ticket : Nat}
    (issued : ticket < floor.nextTicket) :
    ∃ (job : Job τ) (answer : Outcome Unit) (outcome : Outcome ρ), history.story ticket <+:
      [.issued job, .answered answer, .invoked job.task, .yielded outcome] := by
  obtain ⟨place, there⟩ := accounted.exists_place issued
  have fits := accounted.fits _ there
  generalize history.story ticket = story at fits
  cases place with
  | offered job =>
      cases fits
      exact ⟨job, .ok (), .error .cancelled, _, rfl⟩
  | queued job | handed job =>
      cases fits
      exact ⟨job, .ok (), .error .cancelled, _, rfl⟩
  | running scope =>
      obtain ⟨job, _, rfl⟩ := fits
      exact ⟨job, .ok (), .error .cancelled, _, rfl⟩
  | delivered outcome =>
      obtain ⟨job, ending⟩ := fits
      cases ending with
      | refused | skipped | stranded | abandoned => exact ⟨job, _, .error .cancelled, _, rfl⟩
      | finished => exact ⟨job, _, _, _, List.append_nil _⟩

/-- A note that is made once in the whole life of a job is made of each job at most once. -/
theorem Accounted.nodup_tickets (accounted : Accounted history floor) {kind : Note τ ρ → Bool}
    (once : ∀ (job : Job τ) (answer : Outcome Unit) (outcome : Outcome ρ),
      ([.issued job, .answered answer, .invoked job.task, .yielded outcome].filter kind).length
        ≤ 1) :
    (History.tickets kind history).Nodup := by
  apply List.nodup_iff_count_le_one.mpr
  intro ticket
  have counted : (History.tickets kind history).count ticket =
      ((history.story ticket).filter kind).length := by
    rw [History.tickets, History.story, List.count, List.countP_map, List.countP_filter,
      List.filter_map, List.length_map, List.filter_filter, ← List.countP_eq_length_filter]
    exact List.countP_congr fun entry _ => by simp [and_comm]
  rw [counted]
  by_cases issued : ticket < floor.nextTicket
  · obtain ⟨job, answer, outcome, part⟩ := accounted.story_prefix issued
    exact Nat.le_trans (part.sublist.filter kind).length_le (once job answer outcome)
  · rw [accounted.unborn ticket (Nat.le_of_not_lt issued)]
    exact Nat.zero_le _

/-- A job is accepted once at most. -/
theorem Accounted.nodup_accepted (accounted : Accounted history floor) :
    (History.accepted history).Nodup := by
  refine accounted.nodup_tickets ?_
  intro job answer outcome
  cases answer with
  | ok => exact Nat.le_refl _
  | error => exact Nat.zero_le _

end Once

end Floor

end RiskGate.Pool
