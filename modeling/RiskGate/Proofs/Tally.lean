import RiskGate.Tally
import Mathlib.Data.String.Basic

/-!
# What tallies count

A tally that is built up by counting labels one after another has its labels in
increasing order, and counts each of them as often as it came.
-/

namespace RiskGate

namespace Tally

/-- The labels of a tally increase. -/
def Ordered (tally : Tally) : Prop := tally.Pairwise fun first second => first.1 < second.1

theorem mem_bump {label : String} {tally : Tally} {entry : String × Nat}
    (member : entry ∈ bump label tally) : entry.1 = label ∨ entry ∈ tally := by
  induction tally with
  | nil =>
      rw [bump, List.mem_singleton] at member
      exact .inl (congrArg Prod.fst member)
  | cons first rest ih =>
      obtain ⟨other, count⟩ := first
      rw [bump] at member
      split at member
      next same =>
        rcases List.mem_cons.mp member with rfl | old
        · exact .inl same.symm
        · exact .inr (List.mem_cons_of_mem _ old)
      · split at member
        · rcases List.mem_cons.mp member with rfl | old
          · exact .inl rfl
          · exact .inr old
        · rcases List.mem_cons.mp member with rfl | old
          · exact .inr List.mem_cons_self
          · exact (ih old).imp_right (List.mem_cons_of_mem _)

theorem ordered_bump {tally : Tally} (ordered : tally.Ordered) (label : String) :
    (bump label tally).Ordered := by
  induction tally with
  | nil => exact List.pairwise_singleton _ _
  | cons first rest ih =>
      obtain ⟨other, count⟩ := first
      obtain ⟨least, orderedRest⟩ := List.pairwise_cons.mp ordered
      rw [bump]
      split
      · exact List.pairwise_cons.mpr ⟨least, orderedRest⟩
      next distinct =>
        split
        next before =>
          refine List.pairwise_cons.mpr ⟨?_, ordered⟩
          intro entry member
          rcases List.mem_cons.mp member with rfl | later
          · exact before
          · exact lt_trans before (least entry later)
        next behind =>
          refine List.pairwise_cons.mpr ⟨?_, ih orderedRest⟩
          intro entry member
          rcases mem_bump member with same | old
          · rw [same]
            exact lt_of_le_of_ne (not_lt.mp behind) (Ne.symm distinct)
          · exact least entry old

theorem count_eq_zero {label : String} {tally : Tally}
    (absent : ∀ entry ∈ tally, label < entry.1) : tally.count label = 0 := by
  induction tally with
  | nil => rfl
  | cons first rest ih =>
      rw [count, if_neg (ne_of_lt (absent first List.mem_cons_self))]
      exact ih fun entry member => absent entry (List.mem_cons_of_mem _ member)

theorem count_bump {tally : Tally} (ordered : tally.Ordered) (label other : String) :
    (bump label tally).count other = tally.count other + if label = other then 1 else 0 := by
  induction tally with
  | nil => simp [bump, count, eq_comm]
  | cons first rest ih =>
      obtain ⟨key, n⟩ := first
      obtain ⟨least, orderedRest⟩ := List.pairwise_cons.mp ordered
      rw [bump]
      split
      next same =>
        subst same
        by_cases found : other = label
        · subst found
          simp [count]
        · simp [count, found, Ne.symm found]
      next distinct =>
        split
        next before =>
          by_cases found : other = label
          · subst found
            have absent : count other ((key, n) :: rest) = 0 := by
              apply count_eq_zero
              intro entry member
              rcases List.mem_cons.mp member with rfl | later
              · exact before
              · exact lt_trans before (least entry later)
            rw [absent]
            simp [count]
          · rw [count, if_neg found, if_neg (Ne.symm found), Nat.add_zero]
        · by_cases found : other = key
          · subst found
            simp [count, distinct]
          · rw [count, if_neg found, ih orderedRest, count, if_neg found]

/-! ## Tallies with the same counts -/

/-- No label is listed that was not counted. -/
def Positive (tally : Tally) : Prop := ∀ entry ∈ tally, 0 < entry.2

theorem positive_bump {tally : Tally} (positive : tally.Positive) (label : String) :
    (bump label tally).Positive := by
  induction tally with
  | nil =>
      intro entry member
      rw [List.mem_singleton.mp member]
      exact Nat.one_pos
  | cons first rest ih =>
      obtain ⟨here, there⟩ := List.forall_mem_cons.mp positive
      rw [bump]
      split
      · exact List.forall_mem_cons.mpr ⟨Nat.succ_pos _, there⟩
      · split
        · exact List.forall_mem_cons.mpr ⟨Nat.one_pos, positive⟩
        · exact List.forall_mem_cons.mpr ⟨here, ih there⟩

/-- An entry shows the count of its label. -/
theorem count_of_mem {tally : Tally} (ordered : tally.Ordered) {entry : String × Nat}
    (member : entry ∈ tally) : tally.count entry.1 = entry.2 := by
  induction tally with
  | nil => cases member
  | cons first rest ih =>
      obtain ⟨least, orderedRest⟩ := List.pairwise_cons.mp ordered
      rcases List.mem_cons.mp member with rfl | later
      · exact if_pos rfl
      · rw [count, if_neg (ne_of_gt (least entry later))]
        exact ih orderedRest later

/-- A label that was counted has an entry. -/
theorem mem_of_count_pos {tally : Tally} {label : String} (counted : 0 < tally.count label) :
    (label, tally.count label) ∈ tally := by
  induction tally with
  | nil => cases counted
  | cons first rest ih =>
      obtain ⟨other, n⟩ := first
      rw [count] at counted ⊢
      split at counted
      next same =>
        rw [if_pos same, same]
        exact List.mem_cons_self
      next distinct =>
        rw [if_neg distinct]
        exact List.mem_cons_of_mem _ (ih counted)

theorem mem_iff {tally : Tally} (ordered : tally.Ordered) (positive : tally.Positive)
    {entry : String × Nat} : entry ∈ tally ↔ 0 < entry.2 ∧ tally.count entry.1 = entry.2 := by
  constructor
  · intro member
    exact ⟨positive entry member, count_of_mem ordered member⟩
  · rintro ⟨counted, same⟩
    rw [← same] at counted
    have member := mem_of_count_pos counted
    rwa [same] at member

/-- Tallies are told apart by what they count. -/
theorem eq_of_count_eq {first second : Tally} (firstOrdered : first.Ordered)
    (secondOrdered : second.Ordered) (firstPositive : first.Positive)
    (secondPositive : second.Positive)
    (same : ∀ label, first.count label = second.count label) : first = second := by
  have distinct {tally : Tally} (ordered : tally.Ordered) : tally.Nodup :=
    ordered.imp fun before equal => absurd (congrArg Prod.fst equal) (ne_of_lt before)
  have members : first.Perm second := by
    rw [List.perm_ext_iff_of_nodup (distinct firstOrdered) (distinct secondOrdered)]
    intro entry
    rw [mem_iff firstOrdered firstPositive, mem_iff secondOrdered secondPositive, same]
  exact members.eq_of_pairwise
    (fun _ _ _ _ before after => absurd (lt_trans before after) (lt_irrefl _))
    firstOrdered secondOrdered

/-! ## Totals -/

/-- Counting a label adds one to the total. -/
theorem total_bump (label : String) (tally : Tally) :
    (bump label tally).total = tally.total + 1 := by
  induction tally with
  | nil => rfl
  | cons first rest ih =>
      obtain ⟨other, n⟩ := first
      rw [bump]
      split
      · exact Nat.add_right_comm n 1 (total rest)
      · split
        · exact Nat.add_comm 1 _
        · rw [total, total, ih]
          rfl

end Tally

end RiskGate
