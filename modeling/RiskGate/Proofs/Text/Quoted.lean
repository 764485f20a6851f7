import RiskGate.Text.Quoted
import Mathlib.Tactic.IntervalCases

/-!
# Reading quoted text

The written form of a character is read back by a reader that looks at no more than
that form, and that never begins where a quotation ends.  So a quoted text ends where
it says, whatever follows it, and two quoted texts are equal only if the texts are.
-/

namespace RiskGate.Text

/-! ## Hexadecimal numbers -/

/-- The value of a hexadecimal digit. -/
def digitValue (digit : Char) : Nat :=
  if digit.toNat < 58 then digit.toNat - 48 else digit.toNat - 87

/-- The number that hexadecimal digits stand for. -/
def hexValue (digits : List Char) : Nat :=
  digits.foldl (fun value digit => 16 * value + digitValue digit) 0

theorem digitValue_hexDigit {n : Nat} (small : n < 16) : digitValue (hexDigit n) = n := by
  interval_cases n <;> decide

theorem hexDigit_ne_brace {n : Nat} (small : n < 16) : hexDigit n ≠ '\x7d' := by
  interval_cases n <;> decide

theorem hexValue_append (digits : List Char) (last : Char) :
    hexValue (digits ++ [last]) = 16 * hexValue digits + digitValue last := by
  simp [hexValue]

/-- The digits of a number stand for it. -/
theorem hexValue_hexDigits {width n : Nat} (fits : n < 16 ^ (width + 1)) :
    hexValue (hexDigits width n) = n := by
  induction width generalizing n with
  | zero =>
      have small : n % 16 = n := Nat.mod_eq_of_lt fits
      simp [hexDigits, hexValue, small, digitValue_hexDigit fits]
  | succ width ih =>
      unfold hexDigits
      split
      next small => simp [hexValue, digitValue_hexDigit small]
      next =>
        have fitsAbove : n / 16 < 16 ^ (width + 1) := by
          rw [Nat.div_lt_iff_lt_mul (by decide), ← Nat.pow_succ]
          exact fits
        rw [hexValue_append, ih fitsAbove, digitValue_hexDigit (Nat.mod_lt n (by decide))]
        exact Nat.div_add_mod n 16

/-- No digit is a brace. -/
theorem ne_brace_of_mem_hexDigits {width n : Nat} {digit : Char}
    (member : digit ∈ hexDigits width n) : digit ≠ '\x7d' := by
  induction width generalizing n with
  | zero =>
      obtain rfl := List.mem_singleton.mp member
      exact hexDigit_ne_brace (Nat.mod_lt n (by decide))
  | succ width ih =>
      unfold hexDigits at member
      split at member
      next small =>
        obtain rfl := List.mem_singleton.mp member
        exact hexDigit_ne_brace small
      next =>
        rcases List.mem_append.mp member with above | last
        · exact ih above
        · obtain rfl := List.mem_singleton.mp last
          exact hexDigit_ne_brace (Nat.mod_lt n (by decide))

/-! ## Characters -/

/-- Read what follows a backslash: the character that is meant, and the rest. -/
def readEscape : List Char → Option (Char × List Char)
  | [] => none
  | c :: rest =>
      if c = '0' then some ('\x00', rest)
      else if c = 't' then some ('\t', rest)
      else if c = 'r' then some ('\r', rest)
      else if c = 'n' then some ('\n', rest)
      else if c = 'u' then
        let code := (rest.drop 1).takeWhile (· != '\x7d')
        some (Char.ofNat (hexValue code), rest.drop (code.length + 2))
      else some (c, rest)

/-- Read one character inside quotes.  There is none where the quotation ends. -/
def readChar : List Char → Option (Char × List Char)
  | [] => none
  | c :: rest =>
      if c = '\\' then readEscape rest else if c = '"' then none else some (c, rest)

theorem readEscape_code (c : Char) (rest : List Char) :
    readEscape ('u' :: '\x7b' :: (hexDigits 6 c.toNat ++ '\x7d' :: rest)) = some (c, rest) := by
  have fits : c.toNat < 16 ^ 7 := by
    have valid : c.toNat < 0xd800 ∨ 0xdfff < c.toNat ∧ c.toNat < 0x110000 := c.valid
    omega
  have code : (hexDigits 6 c.toNat ++ '\x7d' :: rest).takeWhile (· != '\x7d') =
      hexDigits 6 c.toNat := by
    rw [List.takeWhile_append_of_pos]
    · simp
    · intro digit member
      simpa using ne_brace_of_mem_hexDigits member
  simp [readEscape, code, hexValue_hexDigits fits]

/-- A character is read back from its written form, whatever follows it. -/
theorem readChar_escapeChar (c : Char) (rest : List Char) :
    readChar (escapeChar c ++ rest) = some (c, rest) := by
  by_cases null : c = '\x00'
  · simp [escapeChar, readChar, readEscape, null]
  by_cases tab : c = '\t'
  · simp [escapeChar, readChar, readEscape, tab]
  by_cases ret : c = '\r'
  · simp [escapeChar, readChar, readEscape, ret]
  by_cases line : c = '\n'
  · simp [escapeChar, readChar, readEscape, line]
  by_cases backslash : c = '\\'
  · simp [escapeChar, readChar, readEscape, backslash]
  by_cases quote : c = '"'
  · simp [escapeChar, readChar, readEscape, quote]
  by_cases plain : isPlain c = true
  · simp [escapeChar, readChar, null, tab, ret, line, backslash, quote, plain]
  · simpa [escapeChar, readChar, null, tab, ret, line, backslash, quote, plain] using
      readEscape_code c rest

/-! ## Texts -/

/-- Two texts whose written forms are followed by a quote begin alike only if they are
equal. -/
theorem escaped_append_inj {first second rest rest' : List Char}
    (same : first.flatMap escapeChar ++ '"' :: rest = second.flatMap escapeChar ++ '"' :: rest') :
    first = second ∧ rest = rest' := by
  have ends : ∀ after, readChar ('"' :: after) = none := fun _ => rfl
  induction first generalizing second with
  | nil =>
      cases second with
      | nil => exact ⟨rfl, (List.cons.inj same).2⟩
      | cons d second =>
          have read := congrArg readChar same
          simp only [List.flatMap_nil, List.nil_append, List.flatMap_cons, List.append_assoc,
            readChar_escapeChar, ends] at read
          cases read
  | cons c first ih =>
      have read := congrArg readChar same
      cases second with
      | nil =>
          simp only [List.flatMap_nil, List.nil_append, List.flatMap_cons, List.append_assoc,
            readChar_escapeChar, ends] at read
          cases read
      | cons d second =>
          simp only [List.flatMap_cons, List.append_assoc, readChar_escapeChar] at read
          obtain ⟨sameChar, sameRest⟩ := Prod.mk.inj (Option.some.inj read)
          obtain ⟨sameText, sameAfter⟩ := ih sameRest
          exact ⟨by rw [sameChar, sameText], sameAfter⟩

/-- A quoted text ends where it says. -/
theorem quoted_append_inj {first second rest rest' : List Char}
    (same : quoted first ++ rest = quoted second ++ rest') : first = second ∧ rest = rest' := by
  apply escaped_append_inj
  simpa [quoted] using same

end RiskGate.Text
