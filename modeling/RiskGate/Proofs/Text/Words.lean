import RiskGate.Text.Blank
import RiskGate.Text.Lowercase

/-!
# Words and their lowercase forms

The words of a text are not empty and have no blanks in them.  Lowercase changes neither:
no character is dropped, and none becomes a blank.
-/

namespace RiskGate.Text

/-- The characters make up a word: there are some, and none of them is a blank. -/
def IsWord (word : List Char) : Prop := word ≠ [] ∧ ∀ c ∈ word, isBlank c = false

/-- Whether given characters make up a word can be computed. -/
theorem isWord_of_all {word : List Char} (some : word ≠ [])
    (solid : (word.all fun c => !isBlank c) = true) : IsWord word :=
  ⟨some, by simpa using solid⟩

/-! ## Splitting -/

/-- The characters of a word are read on to its end. -/
theorem wordsFrom_append {word : List Char} (solid : ∀ c ∈ word, isBlank c = false)
    (read rest : List Char) :
    wordsFrom read (word ++ rest) = wordsFrom (word.reverse ++ read) rest := by
  induction word generalizing read with
  | nil => rfl
  | cons c word ih =>
      have first : isBlank c = false := solid c List.mem_cons_self
      rw [List.cons_append, wordsFrom, first, if_neg Bool.false_ne_true,
        ih fun d member => solid d (List.mem_cons_of_mem _ member), List.reverse_cons,
        List.append_assoc]
      rfl

/-- Whatever is read as a word is one. -/
theorem isWord_of_mem_wordsFrom {text read word : List Char}
    (solid : ∀ c ∈ read, isBlank c = false) (member : word ∈ wordsFrom read text) :
    IsWord word := by
  have ended : ∀ {read : List Char}, (∀ c ∈ read, isBlank c = false) → read.isEmpty = false →
      IsWord read.reverse := by
    intro read solid some
    constructor
    · simpa using some
    · intro c member
      exact solid c (List.mem_reverse.mp member)
  induction text generalizing read with
  | nil =>
      cases empty : read.isEmpty with
      | true => simp [wordsFrom, empty] at member
      | false =>
          rw [wordsFrom, empty, if_neg Bool.false_ne_true, List.mem_singleton] at member
          rw [member]
          exact ended solid empty
  | cons c text ih =>
      cases blank : isBlank c with
      | true =>
          rw [wordsFrom, blank, if_pos rfl] at member
          cases empty : read.isEmpty with
          | true =>
              rw [empty, if_pos rfl] at member
              exact ih (by simp) member
          | false =>
              rw [empty, if_neg Bool.false_ne_true] at member
              rcases List.mem_cons.mp member with rfl | later
              · exact ended solid empty
              · exact ih (by simp) later
      | false =>
          rw [wordsFrom, blank, if_neg Bool.false_ne_true] at member
          refine ih ?_ member
          intro d inRead
          rcases List.mem_cons.mp inRead with rfl | old
          · exact blank
          · exact solid d old

/-- The words of a text are words. -/
theorem isWord_of_mem_words {text word : List Char} (member : word ∈ words text) : IsWord word :=
  isWord_of_mem_wordsFrom (fun _ none => absurd none List.not_mem_nil) member

/-! ## Lowercase -/

/-- The code points of blanks, as ranges. -/
def blankRanges : List (Nat × Nat) :=
  [(9, 13), (0x20, 0x20), (0x85, 0x85), (0xA0, 0xA0), (0x1680, 0x1680), (0x2000, 0x200A),
    (0x2028, 0x2029), (0x202F, 0x202F), (0x205F, 0x205F), (0x3000, 0x3000)]

theorem exists_blankRange {c : Char} (blank : isBlank c = true) :
    ∃ range ∈ blankRanges, range.1 ≤ c.toNat ∧ c.toNat ≤ range.2 := by
  simp only [isBlank, Bool.or_eq_true, Bool.and_eq_true, decide_eq_true_eq, beq_iff_eq] at blank
  simp only [blankRanges, List.mem_cons, List.not_mem_nil, or_false, exists_eq_or_imp,
    exists_eq_left]
  omega

/-- The run maps no code point to a blank. -/
def CaseRun.isSolid (run : CaseRun) : Bool :=
  blankRanges.all fun range =>
    decide ((run.last : Int) + run.shift < range.1) ||
      decide ((range.2 : Int) < run.first + run.shift)

theorem isSolid_of_mem_lowercaseRuns : ∀ run ∈ lowercaseRuns.toList, run.isSolid = true := by
  have all : lowercaseRuns.toList.all CaseRun.isSolid = true := by decide +kernel
  exact List.all_eq_true.mp all

/-- What is found is a run of the table. -/
theorem mem_of_findRun {runs : Array CaseRun} {code steps low high : Nat} {run : CaseRun}
    (found : findRun runs code steps low high = some run) : run ∈ runs := by
  induction steps generalizing low high with
  | zero => cases found
  | succ steps ih =>
      simp only [findRun] at found
      split at found
      · split at found
        · cases found
        next middle there =>
          split at found
          · exact ih found
          · split at found
            · exact ih found
            · cases found
              exact Array.mem_of_getElem? there
      · cases found

/-- A run maps the code points that it covers to no blanks. -/
theorem CaseRun.isBlank_of_covers {run : CaseRun} {code : Nat} (solid : run.isSolid = true)
    (covers : run.covers code = true) :
    isBlank (Char.ofNat ((code : Int) + run.shift).toNat) = false := by
  rw [← Bool.not_eq_true]
  intro blank
  obtain ⟨range, listed, low, high⟩ := exists_blankRange blank
  have apart := List.all_eq_true.mp solid range listed
  simp only [Bool.or_eq_true, decide_eq_true_eq] at apart
  simp only [CaseRun.covers, Bool.and_eq_true, decide_eq_true_eq] at covers
  have positive : ∀ range ∈ blankRanges, 0 < range.1 := by decide
  have start := positive range listed
  by_cases valid : (((code : Int) + run.shift).toNat).isValidChar
  · have code_eq : (Char.ofNat ((code : Int) + run.shift).toNat).toNat =
        ((code : Int) + run.shift).toNat := by
      rw [Char.ofNat, dif_pos valid]
      rfl
    omega
  · -- a number that is no code point is read as the character zero
    have zero : (Char.ofNat ((code : Int) + run.shift).toNat).toNat = 0 := by
      simp [Char.ofNat, valid]
    omega

/-- The lowercase form of a character that is no blank has some characters, none of which
is a blank. -/
theorem isWord_lowercaseChar {c : Char} (solid : isBlank c = false) : IsWord (lowercaseChar c) := by
  have single : ∀ {d : Char}, isBlank d = false → IsWord [d] := by
    intro d solid
    exact ⟨List.cons_ne_nil _ _, by simpa using solid⟩
  unfold lowercaseChar
  split
  next ascii =>
    apply single
    have all : ∀ code < 128, isBlank (Char.ofNat code) = false →
        isBlank (Char.ofNat code).toLower = false := by decide
    have same := all c.toNat ascii
    rw [Char.ofNat_toNat] at same
    exact same solid
  · split
    · exact isWord_of_all (List.cons_ne_nil _ _) rfl
    · split
      next run found =>
        split
        next covers =>
          apply single
          have listed : run ∈ lowercaseRuns.toList :=
            Array.mem_toList_iff.mpr (mem_of_findRun found)
          exact run.isBlank_of_covers (isSolid_of_mem_lowercaseRuns run listed) covers
        · exact single solid
      · exact single solid

/-- Lowercase makes no character of a word a blank, whatever stands before it. -/
theorem lowercaseAfter_solid {word : List Char} (solid : ∀ c ∈ word, isBlank c = false)
    (before : List Char) :
    (∀ c ∈ lowercaseAfter before word, isBlank c = false) ∧
      (word ≠ [] → lowercaseAfter before word ≠ []) := by
  induction word generalizing before with
  | nil => exact ⟨fun _ none => absurd none List.not_mem_nil, fun some => absurd rfl some⟩
  | cons c rest ih =>
      have later := (ih (fun d member => solid d (List.mem_cons_of_mem _ member)) (c :: before)).1
      have sigma : IsWord ['σ'] ∧ IsWord ['ς'] := by
        constructor <;> exact isWord_of_all (List.cons_ne_nil _ _) rfl
      have mapped : IsWord (if c.toNat == 0x3A3 then
          if leadsToCased before && !leadsToCased rest then ['ς'] else ['σ']
        else lowercaseChar c) := by
        split
        · split
          · exact sigma.2
          · exact sigma.1
        · exact isWord_lowercaseChar (solid c List.mem_cons_self)
      rw [lowercaseAfter]
      constructor
      · intro d member
        rcases List.mem_append.mp member with first | after
        · exact mapped.2 d first
        · exact later d after
      · intro _ none
        exact mapped.1 (List.append_eq_nil_iff.mp none).1

/-- The lowercase form of a word is a word. -/
theorem isWord_lowercase {word : List Char} (isWord : IsWord word) : IsWord (lowercase word) :=
  have form := lowercaseAfter_solid isWord.2 []
  ⟨form.2 isWord.1, form.1⟩

end RiskGate.Text
