/-!
# Blanks and words

The Unicode property `White_Space`, the words of a text (its longest runs of
other characters), and a text without the blanks at its two ends.
-/

namespace RiskGate.Text

/-- The character has the Unicode property `White_Space`. -/
def isBlank (c : Char) : Bool :=
  let n := c.toNat
  (9 ≤ n && n ≤ 13) || n == 0x20 || n == 0x85 || n == 0xA0 || n == 0x1680 ||
    (0x2000 ≤ n && n ≤ 0x200A) || n == 0x2028 || n == 0x2029 || n == 0x202F ||
    n == 0x205F || n == 0x3000

/-- Words read so far: `word` is the one being read, backwards. -/
def wordsFrom (word : List Char) : List Char → List (List Char)
  | [] => if word.isEmpty then [] else [word.reverse]
  | c :: rest =>
      if isBlank c then
        if word.isEmpty then wordsFrom [] rest
        else word.reverse :: wordsFrom [] rest
      else
        wordsFrom (c :: word) rest

/-- The words of a text, in order. -/
def words (text : List Char) : List (List Char) :=
  wordsFrom [] text

/-- The text without the blanks at its start and end. -/
def trim (text : List Char) : List Char :=
  ((text.dropWhile isBlank).reverse.dropWhile isBlank).reverse

end RiskGate.Text
