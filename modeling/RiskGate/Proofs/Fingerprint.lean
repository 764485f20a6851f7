import RiskGate.Fingerprint
import RiskGate.Proofs.Text.Quoted
import RiskGate.Proofs.Text.Words

/-!
# What a fingerprint says

Two requests have the same fingerprint only if they are for the same business: their
four names agree once they are brought to the normal form in which they are written
into the fingerprint.  A prediction's fingerprint says its horizon too, and is never
that of an assessment.  The normal form in turn says which lowercase words a name has,
for a lowercase word is not empty and has no blank in it.
-/

namespace RiskGate

namespace Fingerprint

/-- The normal form of a field: its words in lower case, one space between each two. -/
def normal (text : String) : List Char := joinWords (fieldWords text)

/-- The requests are for the same business. -/
structure SameBusiness (first second : Request) : Prop where
  businessName : normal first.businessName = normal second.businessName
  address : normal first.address = normal second.address
  industry : normal first.industry = normal second.industry
  country : normal first.country = normal second.country

variable {first second : Request}

/-- The identity part of a fingerprint tells businesses apart, whatever follows it. -/
theorem identity_append_inj {rest rest' : List Char}
    (same : identity first ++ rest = identity second ++ rest') :
    SameBusiness first second ∧ rest = rest' := by
  simp only [identity, field, List.append_assoc, List.cons_append] at same
  obtain ⟨businessName, sameAfterName⟩ := Text.quoted_append_inj same
  obtain ⟨address, sameAfterAddress⟩ := Text.quoted_append_inj (List.cons.inj sameAfterName).2
  obtain ⟨industry, sameAfterIndustry⟩ :=
    Text.quoted_append_inj (List.cons.inj sameAfterAddress).2
  obtain ⟨country, sameAfterCountry⟩ :=
    Text.quoted_append_inj (List.cons.inj sameAfterIndustry).2
  exact ⟨⟨businessName, address, industry, country⟩, sameAfterCountry⟩

theorem identity_congr (same : SameBusiness first second) : identity first = identity second := by
  have written : ∀ {text text' : String}, normal text = normal text' → field text = field text' :=
    fun normalEq => congrArg Text.quoted normalEq
  rw [identity, written same.businessName, written same.address, written same.industry,
    written same.country]
  rfl

/-- Assessments share a fingerprint exactly if they are for the same business. -/
theorem assessment_eq_iff : assessment first = assessment second ↔ SameBusiness first second := by
  constructor
  · intro same
    have sameChars := List.append_cancel_left (String.ofList_injective same)
    have sameEnd : identity first ++ [] = identity second ++ [] := by
      rw [List.append_nil, List.append_nil, sameChars]
    exact (identity_append_inj sameEnd).1
  · intro same
    unfold assessment
    rw [identity_congr same]

/-- The decimal digits of a number say which it is. -/
theorem toDigits_inj {n m : Nat} (same : Nat.toDigits 10 n = Nat.toDigits 10 m) : n = m := by
  have value := congrArg (Nat.ofDigitChars 10 · 0) same
  simpa [Nat.ofDigitChars_toDigits] using value

/-- Predictions share a fingerprint exactly if they are for the same business and the
same horizon. -/
theorem prediction_eq_iff {horizon horizon' : Nat} :
    prediction first horizon = prediction second horizon' ↔
      SameBusiness first second ∧ horizon = horizon' := by
  constructor
  · intro same
    have sameChars := String.ofList_injective same
    rw [List.append_assoc, List.append_assoc] at sameChars
    obtain ⟨business, sameRest⟩ := identity_append_inj (List.append_cancel_left sameChars)
    exact ⟨business, toDigits_inj (List.cons.inj sameRest).2⟩
  · rintro ⟨business, rfl⟩
    unfold prediction
    rw [identity_congr business]

/-- An assessment and a prediction never share a fingerprint. -/
theorem assessment_ne_prediction (horizon : Nat) :
    assessment first ≠ prediction second horizon := by
  intro same
  have sameChars := String.ofList_injective same
  have firstChars := congrArg List.head? sameChars
  simp at firstChars

/-! ## The words behind a fingerprint -/

/-- Words that are joined with single spaces are read back. -/
theorem words_joinWords {parts : List (List Char)} (all : ∀ word ∈ parts, Text.IsWord word) :
    Text.words (joinWords parts) = parts := by
  induction parts with
  | nil => rfl
  | cons word rest ih =>
      have isWord : Text.IsWord word := all word List.mem_cons_self
      have some : (word.reverse ++ []).isEmpty = false := by simpa using isWord.1
      cases rest with
      | nil =>
          have read := Text.wordsFrom_append isWord.2 [] []
          rw [List.append_nil] at read
          rw [joinWords, Text.words, read, Text.wordsFrom, some, if_neg Bool.false_ne_true,
            List.append_nil, List.reverse_reverse]
      | cons next rest =>
          have others := ih fun other member => all other (List.mem_cons_of_mem _ member)
          have joined : joinWords (word :: next :: rest) =
              word ++ ' ' :: joinWords (next :: rest) := rfl
          rw [joined, Text.words, Text.wordsFrom_append isWord.2,
            Text.wordsFrom, some, if_pos (by decide), if_neg Bool.false_ne_true, List.append_nil,
            List.reverse_reverse]
          exact congrArg (word :: ·) others

theorem isWord_of_mem_fieldWords {text : String} {word : List Char}
    (member : word ∈ fieldWords text) :
    Text.IsWord word := by
  obtain ⟨written, listed, rfl⟩ := List.mem_map.mp member
  exact Text.isWord_lowercase (Text.isWord_of_mem_words listed)

/-- Fields have the same normal form exactly if they have the same lowercase words. -/
theorem normal_eq_iff {text text' : String} :
    normal text = normal text' ↔ fieldWords text = fieldWords text' := by
  constructor
  · intro same
    calc fieldWords text
        = Text.words (normal text) := (words_joinWords fun _ => isWord_of_mem_fieldWords).symm
      _ = Text.words (normal text') := congrArg Text.words same
      _ = fieldWords text' := words_joinWords fun _ => isWord_of_mem_fieldWords
  · exact congrArg joinWords

/-- The requests have the same lowercase words in each identifying field. -/
structure SameWords (first second : Request) : Prop where
  businessName : fieldWords first.businessName = fieldWords second.businessName
  address : fieldWords first.address = fieldWords second.address
  industry : fieldWords first.industry = fieldWords second.industry
  country : fieldWords first.country = fieldWords second.country

theorem sameBusiness_iff : SameBusiness first second ↔ SameWords first second := by
  constructor
  · intro business
    exact ⟨normal_eq_iff.mp business.businessName, normal_eq_iff.mp business.address,
      normal_eq_iff.mp business.industry, normal_eq_iff.mp business.country⟩
  · intro sameWords
    exact ⟨normal_eq_iff.mpr sameWords.businessName, normal_eq_iff.mpr sameWords.address,
      normal_eq_iff.mpr sameWords.industry, normal_eq_iff.mpr sameWords.country⟩

/-- A fingerprint says which lowercase words the request has in each identifying field,
whether it is for an assessment or a prediction, the horizon of the prediction, and
nothing else. -/
theorem fingerprint_identifies (first second : Request) (horizon horizon' : Nat) :
    (assessment first = assessment second ↔ SameWords first second) ∧
      (prediction first horizon = prediction second horizon' ↔
        SameWords first second ∧ horizon = horizon') ∧
      assessment first ≠ prediction second horizon' := by
  rw [← sameBusiness_iff]
  exact ⟨assessment_eq_iff, prediction_eq_iff, assessment_ne_prediction horizon'⟩

end Fingerprint

end RiskGate
