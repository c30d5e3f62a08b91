/-!
# Reading positions

A cursor stands in a text that is read from front to back. It knows what is left of the text, and
the line and column where that begins. Four characters break lines; a byte order mark takes up no
column.
-/

namespace Interop.Yaml

/-- Whether a character breaks a line. -/
def isBreak (c : Char) : Bool := c == '\n' || c == '\u0085' || c == '\u2028' || c == '\u2029'

/-- Whether a character is a space or a tab. -/
def isGap (c : Char) : Bool := c == ' ' || c == '\t'

/-- Whether a line ends here. -/
def endsLine : Option Char → Bool
  | none => true
  | some c => isBreak c

/-- Whether a word ends here. -/
def endsWord : Option Char → Bool
  | none => true
  | some c => isBreak c || isGap c

/-- The byte order mark. -/
def byteOrderMark : Char := '\uFEFF'

/-- A place in a text. -/
structure Cursor where
  /-- The characters from here on. -/
  rest : List Char
  /-- How many characters were passed. -/
  index : Nat := 0
  /-- How many lines were passed. -/
  line : Nat := 0
  /-- How many columns of the line were passed. -/
  column : Nat := 0
deriving DecidableEq, Repr

namespace Cursor

/-- One character more than there are left. Whatever passes a character at every step takes no more
steps than there are characters here. -/
def steps (c : Cursor) : List Char := ' ' :: c.rest

/-- The character here. -/
def peek? (c : Cursor) : Option Char := c.rest.head?

/-- The character so many places on. -/
def peekAt? (c : Cursor) (n : Nat) : Option Char := c.rest[n]?

/-- Pass one character. -/
def next (c : Cursor) : Cursor :=
  match c.rest with
  | [] => c
  | ch :: rest =>
    if isBreak ch then ⟨rest, c.index + 1, c.line + 1, 0⟩
    else ⟨rest, c.index + 1, c.line, if ch == byteOrderMark then c.column else c.column + 1⟩

/-- Pass so many characters. -/
def skip : Nat → Cursor → Cursor
  | 0, c => c
  | n + 1, c => skip n c.next

/-- The characters of a class from here on, and the place after them. -/
def span (p : Char → Bool) (c : Cursor) : List Char × Cursor :=
  let word := c.rest.takeWhile p
  (word, skip word.length c)

/-- Pass the characters of a class. -/
def skipWhile (p : Char → Bool) (c : Cursor) : Cursor := (c.span p).2

/-- Pass a line break. Breaks between lines are read as line feeds, others as they are. -/
def takeBreak? (c : Cursor) : Option (Char × Cursor) :=
  match c.peek? with
  | some ch =>
    if isBreak ch then some (if ch == '\u0085' then '\n' else ch, c.next) else none
  | none => none

/-- Pass a comment, if there is one. -/
def skipComment (c : Cursor) : Cursor :=
  if c.peek? == some '#' then c.skipWhile (!isBreak ·) else c

/-- Pass the rest of a line that must hold nothing but a comment. -/
def endLine? (c : Cursor) : Option Cursor :=
  let c := (c.skipWhile (· == ' ')).skipComment
  if endsLine c.peek? then some c.next else none

/-- Whether the mark at the start or end of a document stands here. -/
def atMarker (c : Cursor) : Bool :=
  (c.rest.take 3 == ['-', '-', '-'] || c.rest.take 3 == ['.', '.', '.']) && endsWord (c.peekAt? 3)

/-- Pass blanks, comments and line breaks, and tell whether a line break was among them. -/
def skipIdle (c : Cursor) : Cursor × Bool := go c.steps c false
where
  /-- Pass the idle parts of so many lines at most. -/
  go : List Char → Cursor → Bool → Cursor × Bool
    | [], c, broke => (c, broke)
    | _ :: lines, c, broke =>
      let c := (c.skipWhile (· == ' ')).skipComment
      match c.takeBreak? with
      | some (_, c) => go lines c true
      | none => (c, broke)

end Cursor

end Interop.Yaml
