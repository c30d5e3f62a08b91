import Interop.Text.Split

/-!
# Blank characters and words

The blank characters of Unicode text, and the division of a text into the maximal runs of other
characters. A text is in normal spacing when its words are joined by single spaces; every reader
of the library that is indifferent to spacing first brings its input into that form.
-/

namespace Interop.Text.Blank

/-- Blank characters: the white space of Unicode together with the four information separators. -/
def isBlank (c : Char) : Bool :=
  let n := c.toNat
  (9 ≤ n && n ≤ 13) || (28 ≤ n && n ≤ 32) || n == 0x85 || n == 0xA0 || n == 0x1680 ||
    (0x2000 ≤ n && n ≤ 0x200A) || n == 0x2028 || n == 0x2029 || n == 0x202F || n == 0x205F ||
    n == 0x3000

/-- Remove the blank characters in front. -/
def trimLeft (cs : List Char) : List Char := cs.dropWhile isBlank

/-- Remove the blank characters at the end. -/
def trimRight (cs : List Char) : List Char := (cs.reverse.dropWhile isBlank).reverse

/-- Remove the blank characters at both ends. -/
def trim (cs : List Char) : List Char := trimRight (trimLeft cs)

/-- The words of a text: its pieces that are not empty. -/
def words (cs : List Char) : List (List Char) := (Split.pieces isBlank cs).filter (!·.isEmpty)

/-- A text in normal spacing: its words, separated by single spaces. -/
def normalSpacing (cs : List Char) : List Char := Split.join [' '] (words cs)

end Interop.Text.Blank
