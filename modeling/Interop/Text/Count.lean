import Interop.Text.LowerCase
import Interop.Value

/-!
# Counted nouns

A count with its noun: none, one, or several of a thing. The plural of the nouns counted here is
formed by an s. A count is a number or a word for one; words for none may be written in letters of
either size, words for one only in small ones.
-/

namespace Interop.Text.Count

/-- The counts that mean none. -/
def zeros : List String := ["0", "no", "zero", "nil"]

/-- The counts that mean one. -/
def ones : List String := ["1", "a", "an", "one", "each", "every", "this", "that"]

/-- The text of a count. No count at all means none. -/
def text? : Value → Option String
  | .null => some "0"
  | .bool b => some (Scalar.bool b).text
  | .int n => some (Scalar.int n).text
  | .str s => some s
  | _ => none

/-- A count, given as its text, with its noun. -/
def phrase (count noun : String) : String :=
  if zeros.contains (LowerCase.lowerCase count) then "no " ++ noun ++ "s"
  else if ones.contains count then count ++ " " ++ noun
  else count ++ " " ++ noun ++ "s"

/-- So many of a thing. -/
def counted (n : Nat) (noun : String) : String := phrase (Nat.repr n) noun

end Interop.Text.Count
