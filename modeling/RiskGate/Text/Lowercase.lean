import RiskGate.Text.Casing
import RiskGate.Text.LowercaseRuns

/-!
# Lowercase text

The full lowercase mapping of Unicode.  Every character maps on its own, with
two exceptions: the capital I with a dot becomes two characters, and a capital
sigma becomes a final sigma where it ends a word, that is where a cased
character stands before it and none after it, case-ignorable characters not
counting.
-/

namespace RiskGate.Text

/-- The run of the table that the code point falls into, between two positions of the
table; the number after the code point bounds the search. -/
def findRun (runs : Array CaseRun) (code : Nat) : Nat → Nat → Nat → Option CaseRun
  | 0, _, _ => none
  | steps + 1, low, high =>
      if low < high then
        let middle := (low + high) / 2
        match runs[middle]? with
        | none => none
        | some run =>
            if code < run.first then findRun runs code steps low middle
            else if run.last < code then findRun runs code steps (middle + 1) high
            else some run
      else
        none

/-- The lowercase form of one character, its surroundings aside. -/
def lowercaseChar (c : Char) : List Char :=
  if c.toNat < 128 then
    [c.toLower]
  else if c.toNat == 0x130 then
    ['i', Char.ofNat 0x307]
  else
    match findRun lowercaseRuns c.toNat lowercaseRuns.size 0 lowercaseRuns.size with
    | some run => if run.covers c.toNat then [Char.ofNat (c.toNat + run.shift).toNat] else [c]
    | none => [c]

/-- The nearest character that is not case-ignorable is cased. -/
def leadsToCased (text : List Char) : Bool :=
  match text.dropWhile caseIgnorable.contains with
  | c :: _ => cased.contains c
  | [] => false

/-- Lowercase of the rest of a text, given the characters before it, nearest
first. -/
def lowercaseAfter (before : List Char) : List Char → List Char
  | [] => []
  | c :: rest =>
      let mapped :=
        if c.toNat == 0x3A3 then
          if leadsToCased before && !leadsToCased rest then ['ς'] else ['σ']
        else
          lowercaseChar c
      mapped ++ lowercaseAfter (c :: before) rest

/-- The lowercase form of a text. -/
def lowercase (text : List Char) : List Char :=
  lowercaseAfter [] text

end RiskGate.Text
