import Interop.Text.Blank

/-!
# Lines

The characters that end lines, and the last line of a text. Blanks at the ends of a text count for
nothing, so the last line is never blank unless the text is.
-/

namespace Interop.Text.Line

/-- Whether a character ends a line. -/
def isEnd (c : Char) : Bool :=
  let n := c.toNat
  (10 ≤ n && n ≤ 13) || (28 ≤ n && n ≤ 30) || n == 0x85 || n == 0x2028 || n == 0x2029

/-- The last line of a text. -/
def last (s : String) : String :=
  String.ofList ((Blank.trim s.toList).reverse.takeWhile (!isEnd ·)).reverse

end Interop.Text.Line
