/-!
# Splitting text

The division of a list of characters at separators. Joining the pieces with the separator gives the
text back, so splitting loses nothing but the place where a separator stood.
-/

namespace Interop.Text.Split

/-- The pieces between separators. Two separators in a row enclose an empty piece. -/
def pieces (isSeparator : Char → Bool) : List Char → List (List Char)
  | [] => [[]]
  | c :: rest =>
    if isSeparator c then [] :: pieces isSeparator rest
    else match pieces isSeparator rest with
      | [] => [[c]]
      | piece :: more => (c :: piece) :: more

/-- There is always at least one piece. -/
theorem pieces_ne_nil (isSeparator : Char → Bool) (cs : List Char) :
    pieces isSeparator cs ≠ [] := by
  cases cs with
  | nil => simp [pieces]
  | cons c rest =>
    simp only [pieces]
    split
    · simp
    · split <;> simp

/-- Pieces joined by a separator. -/
def join (separator : List Char) : List (List Char) → List Char
  | [] => []
  | [piece] => piece
  | piece :: more => piece ++ separator ++ join separator more

end Interop.Text.Split
