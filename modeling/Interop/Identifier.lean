import Interop.Text.Split

/-!
# Identifiers

Names that the library makes up are set apart from the names of a program by two underscores in
front. A namespace is a row of identifiers between dots.
-/

namespace Interop.Identifier

/-- The mark in front of made-up names. -/
def mark : List Char := ['_', '_']

/-- The made-up name for a name. -/
def reserve (name : String) : String := String.ofList (mark ++ name.toList)

/-- Whether a name carries the mark of made-up names. -/
def isReserved (name : String) : Bool := mark.isPrefixOf name.toList

/-- A made-up name carries the mark. -/
theorem isReserved_reserve (name : String) : isReserved (reserve name) = true := by
  simp [isReserved, reserve, mark]

/-- Different names have different made-up names. -/
theorem reserve_injective {a b : String} (h : reserve a = reserve b) : a = b := by
  have := congrArg String.toList h
  simp only [reserve, String.toList_ofList, List.append_cancel_left_eq] at this
  exact String.toList_inj.1 this

/-- A made-up name is another one. -/
theorem reserve_ne (name : String) : reserve name ≠ name := by
  intro h
  have hlength := congrArg (fun s : String => s.toList.length) h
  simp only [reserve, mark, String.toList_ofList, List.length_append] at hlength
  simp at hlength

/-- A made-up name is not empty. -/
theorem reserve_ne_empty (name : String) : reserve name ≠ "" := by
  intro h
  have hc := congrArg String.toList h
  simp [reserve, mark] at hc

/-- Whether a segment of a namespace is an identifier of unaccented letters, digits and
underscores that does not start with a digit. -/
def isSegment : List Char → Bool
  | [] => false
  | c :: rest => (c.isAlpha || c == '_') && rest.all fun d => d.isAlphanum || d == '_'

/-- A text without one line break at its end. -/
def dropFinalBreak (cs : List Char) : List Char :=
  match cs.reverse with
  | '\n' :: rest => rest.reverse
  | _ => cs

/-- Whether a text is a namespace, that is, matches the pattern
`^[A-Za-z_][A-Za-z0-9_]*(\.[A-Za-z_][A-Za-z0-9_]*)*$`. The pieces between dots are the segments, and
each is what the two bracketed classes allow. The mark `$` holds at the end of a text, and also in
front of one line break there, which is what `dropFinalBreak` takes away. What is accepted is said
without a recogniser by `isNamespace_iff`. -/
def isNamespace (name : String) : Bool :=
  (Text.Split.pieces (· == '.') (dropFinalBreak name.toList)).all isSegment

/-- The empty text is no namespace. -/
theorem isNamespace_empty : isNamespace "" = false := by decide

/-- A namespace in C++ notation: double colons in place of dots. -/
def withColons (name : String) : String :=
  String.ofList (name.toList.flatMap fun c => if c == '.' then [':', ':'] else [c])

end Interop.Identifier
