import Interop.Text.Digit
import Interop.Text.Half
import Interop.Yaml.Cursor

/-!
# Texts in the data format

A text is written in one of four ways: plain, between single or double quotes, or as a block of
lines. In all of them but one kind of block, a single line break between words is read as a space,
and of several breaks in a row the first is dropped.
-/

namespace Interop.Yaml.Text

/-- Why a text cannot be read. -/
inductive Fault where
  /-- It breaks the rules of its form. -/
  | malformed
  /-- A code point in it is no character. -/
  | noCharacter (code : Nat)
deriving DecidableEq, Repr

/-- A part of a text, which must be there. -/
def demand {α : Type} : Option α → Except Fault α
  | some a => .ok a
  | none => .error .malformed

/-- A row of line breaks between words as it is read: one line feed alone is a space, the first of
several is dropped, and any other first break stays. -/
def folded (first : Char) (more : List Char) : List Char :=
  if first != '\n' then first :: more else if more.isEmpty then [' '] else more

/-- The characters that have a meaning in flow collections. -/
def flowMarks : List Char := [',', '[', ']', '\x7b', '\x7d']

/-- Whether a plain word ends before a character, given the one after it. -/
def stopsPlain (inFlow : Bool) (c : Char) (following : Option Char) : Bool :=
  isGap c || isBreak c ||
    (c == ':' && (endsWord following || inFlow && following.any flowMarks.contains)) ||
    (inFlow && (c == '?' || flowMarks.contains c))

/-- The plain word at the front of a text. -/
def plainWord (inFlow : Bool) : List Char → List Char
  | [] => []
  | c :: rest => if stopsPlain inFlow c rest.head? then [] else c :: plainWord inFlow rest

/-- Line breaks and spaces after a line break; nothing if a document's mark stands after one. -/
def plainBreaks : List Char → Cursor → Option (List Char) × Cursor
  | [], c => (some [], c)
  | _ :: steps, c =>
    if c.atMarker then (none, c)
    else
      let c := c.skipWhile (· == ' ')
      match c.takeBreak? with
      | none => (some [], c)
      | some (first, c) =>
        let (more, c) := plainBreaks steps c
        (more.map (first :: ·), c)

/-- What stands between two words of a plain text, the place after it, and whether a line was
broken. Nothing stands between the last word and what follows. -/
def plainGap (c : Cursor) : List Char × Cursor × Bool :=
  let (blanks, c) := c.span (· == ' ')
  match c.takeBreak? with
  | none => (blanks, c, false)
  | some (first, c) =>
    match plainBreaks c.steps c with
    | (none, c) => ([], c, true)
    | (some more, c) => (folded first more, c, true)

/-- A plain text whose lines are indented by so many columns, the place after it, and whether a line
was broken after its last word. -/
def plain (inFlow : Bool) (indent : Nat) (c : Cursor) : List Char × Cursor × Bool :=
  go c.steps c
where
  /-- A plain text of so many words at most. -/
  go : List Char → Cursor → List Char × Cursor × Bool
    | [], c => ([], c, false)
    | _ :: words, c =>
      let word := plainWord inFlow c.rest
      if word.isEmpty then ([], c, false)
      else
        let (gap, after, broke) := plainGap (c.skip word.length)
        if gap.isEmpty || after.peek? == some '#' || (!inFlow && after.column < indent) then
          (word, after, broke)
        else
          match go words after with
          | ([], _, _) => (word, after, broke)
          | (more, last, broke) => (word ++ gap ++ more, last, broke)

/-- The characters that stand for others after a backslash. -/
def escapes : List (Char × Char) := [
  ('0', '\x00'), ('a', '\x07'), ('b', '\x08'), ('t', '\t'), ('\t', '\t'), ('n', '\n'),
  ('v', '\x0b'), ('f', '\x0c'), ('r', '\r'), ('e', '\x1b'), (' ', ' '), ('"', '"'), ('\\', '\\'),
  ('/', '/'), ('N', '\u0085'), ('_', '\u00a0'), ('L', '\u2028'), ('P', '\u2029')]

/-- The number of digits after the letters that start a code point. -/
def codeWidths : List (Char × Nat) := [('x', 2), ('u', 4), ('U', 8)]

/-- The number that so many digits in base sixteen write at the front of a text. -/
def hexNumber? (width : Nat) (cs : List Char) : Option Nat := do
  let digits ← (cs.take width).mapM Text.Digit.hexValue?
  if digits.length = width then some (digits.foldl (fun n d => 16 * n + d) 0) else none

/-- The character that the escape after a backslash writes, and the place after it. Halves of
characters stand alone, also in pairs. -/
def escaped (c : Cursor) : Except Fault (Char × Cursor) := do
  let letter ← demand c.peek?
  match escapes.lookup letter with
  | some ch => return (ch, c.next)
  | none =>
    let width ← demand (codeWidths.lookup letter)
    let code ← demand (hexNumber? width c.next.rest)
    if code < 0x110000 then return (Text.Half.ofCode code, c.next.skip width)
    else throw (.noCharacter code)

/-- Line breaks within quotes after a first line break; no document's mark may follow one. -/
def quotedBreaks? : List Char → Cursor → Option (List Char × Cursor)
  | [], _ => none
  | _ :: steps, c =>
    if c.atMarker then none
    else
      let c := c.skipWhile isGap
      match c.takeBreak? with
      | none => some ([], c)
      | some (first, c) => do
        let (more, c) ← quotedBreaks? steps c
        return (first :: more, c)

/-- What stands between two words within quotes, and the place after it. -/
def quotedGap? (c : Cursor) : Option (List Char × Cursor) :=
  let (blanks, c) := c.span isGap
  match c.takeBreak? with
  | some (first, c) => do
    let (more, c) ← quotedBreaks? c.steps c
    return (folded first more, c)
  | none => if c.peek?.isNone then none else some (blanks, c)

/-- The text up to the closing quote, and the place after that. Single quotes within single quotes
are doubled; within double quotes a backslash starts an escape. -/
def quoted (isDouble : Bool) (c : Cursor) : Except Fault (List Char × Cursor) :=
  go c.steps c
where
  /-- The text in so many steps at most. -/
  go : List Char → Cursor → Except Fault (List Char × Cursor)
    | [], _ => .error .malformed
    | _ :: steps, c => do
      let ch ← demand c.peek?
      if isGap ch || isBreak ch then
        let (gap, c) ← demand (quotedGap? c)
        let (more, c) ← go steps c
        return (gap ++ more, c)
      else if isDouble && ch == '"' then return ([], c.next)
      else if !isDouble && ch == '\'' then
        if c.peekAt? 1 == some '\'' then
          let (more, c) ← go steps (c.skip 2)
          return ('\'' :: more, c)
        else return ([], c.next)
      else if isDouble && ch == '\\' then
        match c.next.takeBreak? with
        | some (_, c) =>
          let (breaks, c) ← demand (quotedBreaks? c.steps c)
          let (more, c) ← go steps c
          return (breaks ++ more, c)
        | none =>
          let (ch, c) ← escaped c.next
          let (more, c) ← go steps c
          return (ch :: more, c)
      else
        let (more, c) ← go steps c.next
        return (ch :: more, c)

/-- What becomes of the line breaks at the end of a block. -/
inductive Chomping where
  /-- All are dropped. -/
  | strip
  /-- The first one stays. -/
  | clip
  /-- All stay. -/
  | keep
deriving DecidableEq, Repr

/-- The chomping that a character asks for. -/
def chomping? : Option Char → Option Chomping
  | some '+' => some .keep
  | some '-' => some .strip
  | _ => none

/-- The extra indentation that a character asks for; it cannot be zero. -/
def increment? : Option Char → Option Nat
  | some c => if '0' ≤ c && c ≤ '9' then some (c.toNat - '0'.toNat) else none
  | none => none

/-- The wishes at the head of a block, in either order, and the place of the block's first line. -/
def blockHead? (c : Cursor) : Option (Chomping × Option Nat × Cursor) := do
  let first := chomping? c.peek?
  let c := if first.isSome then c.next else c
  let extra := increment? c.peek?
  let c := if extra.isSome then c.next else c
  let second := if first.isSome || extra.isNone then none else chomping? c.peek?
  let c := if second.isSome then c.next else c
  if extra == some 0 then none
  else if !(endsLine c.peek? || c.peek? == some ' ') then none
  else return ((first.or second).getD .clip, extra, ← c.endLine?)

/-- The empty lines in front of a block, the widest indentation among them and on the block's first
line, and the place of the first character there. -/
def blockMargin : List Char → Nat → Cursor → List Char × Nat × Cursor
  | [], widest, c => ([], widest, c)
  | _ :: lines, widest, c =>
    let (blanks, c) := c.span (· == ' ')
    let widest := if blanks.isEmpty then widest else max widest c.column
    match c.takeBreak? with
    | none => ([], widest, c)
    | some (first, c) =>
      let (more, widest, c) := blockMargin lines widest c
      (first :: more, widest, c)

/-- Pass spaces up to a column. -/
def skipMargin (indent : Nat) (c : Cursor) : Cursor :=
  c.skip ((c.rest.take (indent - c.column)).takeWhile (· == ' ')).length

/-- Empty lines of a block, and the place after them. -/
def blockBreaks (indent : Nat) : List Char → Cursor → List Char × Cursor
  | [], c => ([], c)
  | _ :: lines, c =>
    let c := skipMargin indent c
    match c.takeBreak? with
    | none => ([], c)
    | some (first, c) =>
      let (more, c) := blockBreaks indent lines c
      (first :: more, c)

/-- The lines of a block as they were read. -/
structure BlockLines where
  /-- The text up to the last line. -/
  text : List Char
  /-- The break of the last line. -/
  lastBreak : List Char
  /-- The empty lines after it. -/
  trailing : List Char
  /-- The place after them. -/
  cursor : Cursor

/-- Whether a line of a block starts here. -/
def atBlockLine (indent : Nat) (c : Cursor) : Bool := c.column == indent && c.peek?.isSome

/-- The lines of a block after some empty ones. In a folded block, a line break between two lines
that do not start with a blank is read as a space. -/
def blockLines (isFolded : Bool) (indent : Nat) : List Char → List Char → Cursor → BlockLines
  | [], breaks, c => ⟨[], [], breaks, c⟩
  | _ :: lines, breaks, c =>
    if atBlockLine indent c then
      let startsWord := !c.peek?.any isGap
      let (line, c) := c.span (!isBreak ·)
      let (lineBreak, c) : List Char × Cursor := match c.takeBreak? with
        | some (b, c) => ([b], c)
        | none => ([], c)
      let (more, c) := blockBreaks indent c.steps c
      if atBlockLine indent c then
        let joint :=
          if isFolded && lineBreak == ['\n'] && startsWord && !c.peek?.any isGap then
            if more.isEmpty then [' '] else []
          else lineBreak
        let block := blockLines isFolded indent lines more c
        { block with text := breaks ++ line ++ joint ++ block.text }
      else ⟨breaks ++ line, lineBreak, more, c⟩
    else ⟨[], [], breaks, c⟩

/-- A block of lines below a least indentation, from the character after its mark on. -/
def block? (isFolded : Bool) (floor : Nat) (c : Cursor) : Option (List Char × Cursor) := do
  let (chomping, extra, c) ← blockHead? c
  let least := max floor 1
  let (indent, breaks, c) := match extra with
    | none =>
      let (breaks, widest, c) := blockMargin c.steps 0 c
      (max least widest, breaks, c)
    | some extra =>
      let indent := least + extra - 1
      let (breaks, c) := blockBreaks indent c.steps c
      (indent, breaks, c)
  let block := blockLines isFolded indent c.steps breaks c
  let ending := match chomping with
    | .strip => []
    | .clip => block.lastBreak
    | .keep => block.lastBreak ++ block.trailing
  return (block.text ++ ending, block.cursor)

end Interop.Yaml.Text
