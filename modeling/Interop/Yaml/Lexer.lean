import Interop.Yaml.Text
import Interop.Yaml.Token

/-!
# Cutting a text into tokens

The lexer keeps the columns of the open blocks, the depth of flow collections, and at every depth
the place where a key may have started. A colon turns such a place into a key, and opens a block if
the key stands further in than the block around it. A place is given up at the end of its line, or
when it lies too far back; a key that stands where only a key can stand must not be given up.
-/

namespace Interop.Yaml

/-- A place where a key may have started. -/
structure KeyPlace where
  /-- How many tokens stand before it. -/
  position : Nat
  /-- Whether nothing but a key can stand there. -/
  isRequired : Bool
  /-- Where it stands in the text. -/
  index : Nat
  /-- The line it stands in. -/
  line : Nat
  /-- The column it stands in. -/
  column : Nat
deriving DecidableEq, Repr

/-- A text that is being cut into tokens. -/
structure Lexer where
  /-- The place in the text. -/
  cursor : Cursor
  /-- The tokens so far, the last one first. -/
  tokens : List Token := []
  /-- How many tokens there are so far. -/
  count : Nat := 0
  /-- The columns of the open blocks, the innermost first. -/
  indents : List Nat := []
  /-- Where a key may have started at this depth. -/
  candidate : Option KeyPlace := none
  /-- The same at the depths further out, the nearest first. -/
  outer : List (Option KeyPlace) := []
  /-- Whether a key may start here. -/
  keyAllowed : Bool := true

namespace Lexer

/-- The farthest that a colon may stand from the start of its key. -/
def keyReach : Nat := 1024

/-- Whether a flow collection is open. -/
def inFlow (l : Lexer) : Bool := !l.outer.isEmpty

/-- The least column that lies inside the innermost block. -/
def floor (l : Lexer) : Nat :=
  match l.indents with
  | [] => 0
  | column :: _ => column + 1

/-- Write a token. -/
def emit (t : Token) (l : Lexer) : Lexer :=
  { l with tokens := t :: l.tokens, count := l.count + 1 }

/-- Write a token after so many others. -/
def insertAt (position : Nat) (t : Token) (l : Lexer) : Lexer :=
  let late := l.count - position
  { l with tokens := l.tokens.take late ++ t :: l.tokens.drop late, count := l.count + 1 }

/-- Pass characters. -/
def pass (n : Nat) (l : Lexer) : Lexer := { l with cursor := l.cursor.skip n }

/-- Close the blocks that lie further in than a column. -/
def closeBlocks (column : Nat) (l : Lexer) : Lexer :=
  let closed := (l.indents.takeWhile (column < ·)).length
  { l with
    indents := l.indents.drop closed
    tokens := List.replicate closed .blockEnd ++ l.tokens
    count := closed + l.count }

/-- Close all blocks. -/
def closeAllBlocks (l : Lexer) : Lexer :=
  { l with
    indents := []
    tokens := List.replicate l.indents.length .blockEnd ++ l.tokens
    count := l.indents.length + l.count }

/-- Open a block at a column, after so many tokens, unless one is open there or further in. -/
def openBlock (t : Token) (column position : Nat) (l : Lexer) : Lexer :=
  if l.floor ≤ column then { l.insertAt position t with indents := column :: l.indents } else l

/-- Give up a place where a key may have started; a required key cannot be given up. -/
def giveUp? : Option KeyPlace → Option (Option KeyPlace)
  | some place => if place.isRequired then none else some none
  | none => some none

/-- Give up the place at this depth. -/
def dropCandidate? (l : Lexer) : Option Lexer := do
  return { l with candidate := ← giveUp? l.candidate }

/-- Give up a place if it lies too far back. -/
def refresh? (c : Cursor) : Option KeyPlace → Option (Option KeyPlace)
  | some place =>
    if place.line != c.line || place.index + keyReach < c.index then giveUp? (some place)
    else some (some place)
  | none => some none

/-- Give up all places that lie too far back. -/
def dropStale? (l : Lexer) : Option Lexer := do
  return { l with
    candidate := ← refresh? l.cursor l.candidate
    outer := ← l.outer.mapM (refresh? l.cursor) }

/-- Note that a key may start here. -/
def markCandidate? (l : Lexer) : Option Lexer :=
  if l.keyAllowed then do
    let l ← l.dropCandidate?
    let c := l.cursor
    let isRequired := !l.inFlow && l.indents.head? == some c.column
    return { l with candidate := some ⟨l.count, isRequired, c.index, c.line, c.column⟩ }
  else some l

/-- The mark at the start or end of a document. -/
def document? (t : Token) (l : Lexer) : Option Lexer := do
  let l ← l.closeAllBlocks.dropCandidate?
  return ({ l with keyAllowed := false }.emit t).pass 3

/-- The start of a flow collection. -/
def openFlow? (t : Token) (l : Lexer) : Option Lexer := do
  let l ← l.markCandidate?
  return ({ l with candidate := none, outer := l.candidate :: l.outer, keyAllowed := true }.emit
    t).pass 1

/-- The end of a flow collection. -/
def closeFlow? (t : Token) (l : Lexer) : Option Lexer := do
  let l ← l.dropCandidate?
  match l.outer with
  | [] => none
  | candidate :: outer =>
    return ({ l with candidate := candidate, outer := outer, keyAllowed := false }.emit t).pass 1

/-- The comma between the items of a flow collection. -/
def flowEntry? (l : Lexer) : Option Lexer := do
  let l ← l.dropCandidate?
  return ({ l with keyAllowed := true }.emit .flowEntry).pass 1

/-- Open a block whose first item starts here; it may start only where a key may. -/
def blockHere? (t : Token) (l : Lexer) : Option Lexer :=
  if l.inFlow then some l
  else if l.keyAllowed then some (l.openBlock t l.cursor.column l.count)
  else none

/-- The hyphen in front of an item. -/
def blockEntry? (l : Lexer) : Option Lexer := do
  let l ← (← l.blockHere? .blockSequence).dropCandidate?
  return ({ l with keyAllowed := true }.emit .blockEntry).pass 1

/-- The question mark in front of a key. -/
def key? (l : Lexer) : Option Lexer := do
  let l ← (← l.blockHere? .blockMapping).dropCandidate?
  return ({ l with keyAllowed := !l.inFlow }.emit .key).pass 1

/-- The colon between a key and its value. -/
def value? (l : Lexer) : Option Lexer := do
  match l.candidate with
  | some place =>
    let l := { l with candidate := none, keyAllowed := false }.insertAt place.position .key
    let l := if l.inFlow then l else l.openBlock .blockMapping place.column place.position
    return (l.emit .value).pass 1
  | none =>
    let l ← (← l.blockHere? .blockMapping).dropCandidate?
    return ({ l with keyAllowed := !l.inFlow }.emit .value).pass 1

/-- Whether a character may stand in the name of an anchor. -/
def isNameChar (c : Char) : Bool := c.isAlphanum || c == '-' || c == '_'

/-- Whether the name of an anchor may end before a character. -/
def endsName (c : Option Char) : Bool :=
  endsWord c || c.any ['?', ':', ',', ']', '\x7d', '%', '@', '\x60'].contains

/-- The name after the mark of an anchor or an alias. -/
def name? (make : String → Token) (l : Lexer) : Option Lexer := do
  let l ← l.markCandidate?
  let (name, c) := l.cursor.next.span isNameChar
  if name.isEmpty || !endsName c.peek? then none
  else return { l with cursor := c, keyAllowed := false }.emit (make (String.ofList name))

/-- Whether a character may stand in a tag as it is. -/
def isTagChar (c : Char) : Bool :=
  c.isAlphanum || "-;/?:@&=+$,_.!~*'()[]".toList.contains c

/-- The characters that so many bytes in the notation of tags write: a percent sign and two digits
in base sixteen each. -/
def tagBytes : List Char → Cursor → List UInt8 × Cursor
  | [], c => ([], c)
  | _ :: steps, c =>
    match c.peek?, Text.hexNumber? 2 c.next.rest with
    | some '%', some n =>
      let (more, c) := tagBytes steps (c.skip 3)
      (UInt8.ofNat n :: more, c)
    | _, _ => ([], c)

/-- What follows the handle of a tag. -/
def tagText? : List Char → Cursor → Option (List Char × Cursor)
  | [], c => some ([], c)
  | _ :: steps, c =>
    let (word, c) := c.span isTagChar
    if c.peek? == some '%' then do
      let (bytes, c) := tagBytes c.steps c
      let middle ← String.fromUTF8? ⟨bytes.toArray⟩
      if bytes.isEmpty then none
      else
        let (more, c) ← tagText? steps c
        return (word ++ middle.toList ++ more, c)
    else some (word, c)

/-- What follows the handle of a tag; it must not be empty. -/
def tagSuffix? (c : Cursor) : Option (String × Cursor) := do
  let (text, c) ← tagText? c.steps c
  if text.isEmpty then none else return (String.ofList text, c)

/-- The handle of a tag: an exclamation mark, or a name between two. -/
def tagHandle? (c : Cursor) : Option (String × Cursor) :=
  if c.peek? != some '!' then none
  else
    let (name, c) := c.next.span isNameChar
    if c.peek? == some '!' then some (String.ofList ('!' :: name ++ ['!']), c.next)
    else if name.isEmpty && c.peek? == some ' ' then some ("!", c)
    else none

/-- A tag. -/
def tag? (l : Lexer) : Option Lexer := do
  let l ← l.markCandidate?
  let c := l.cursor
  let (handle, suffix, c) ← (match c.peekAt? 1 with
    | some '<' => do
      let (suffix, c) ← tagSuffix? (c.skip 2)
      if c.peek? == some '>' then return (none, suffix, c.next) else none
    | following =>
      if endsWord following then return (none, "!", c.next)
      else do
        let word := c.next.rest.takeWhile fun ch => !(isBreak ch || ch == ' ')
        let (handle, c) ← if word.contains '!' then tagHandle? c else some ("!", c.next)
        let (suffix, c) ← tagSuffix? c
        return (some handle, suffix, c) : Option (Option String × String × Cursor))
  if endsLine c.peek? || c.peek? == some ' ' then
    return { l with cursor := c, keyAllowed := false }.emit (.tag handle suffix)
  else none

/-- A number in a directive. -/
def number? (c : Cursor) : Option (Nat × Cursor) :=
  let (digits, c) := c.span Char.isDigit
  if digits.isEmpty then none
  else some (digits.foldl (fun n d => 10 * n + (d.toNat - '0'.toNat)) 0, c)

/-- The rest of a directive that tells the version. -/
def version? (c : Cursor) : Option (Directive × Cursor) := do
  let (major, c) ← number? (c.skipWhile (· == ' '))
  if c.peek? != some '.' then none
  else
    let (_, c) ← number? c.next
    if endsLine c.peek? || c.peek? == some ' ' then return (.version major, c) else none

/-- The rest of a directive that makes a handle. -/
def handle? (c : Cursor) : Option (Directive × Cursor) := do
  let (name, c) ← tagHandle? (c.skipWhile (· == ' '))
  if c.peek? != some ' ' then none
  else
    let (tagStart, c) ← tagSuffix? (c.skipWhile (· == ' '))
    if endsLine c.peek? || c.peek? == some ' ' then return (.handle name tagStart, c) else none

/-- A directive. -/
def directive? (l : Lexer) : Option Lexer := do
  let l ← l.closeAllBlocks.dropCandidate?
  let (name, c) := l.cursor.next.span isNameChar
  if name.isEmpty || !(endsLine c.peek? || c.peek? == some ' ') then none
  else
    let (d, c) ← match String.ofList name with
      | "YAML" => version? c
      | "TAG" => handle? c
      | _ => some (.other, c.skipWhile (!isBreak ·))
    return { l with cursor := ← c.endLine?, keyAllowed := false }.emit (.directive d)

/-- A block of lines. -/
def block? (isFolded : Bool) (l : Lexer) : Option Lexer := do
  let l ← l.dropCandidate?
  let (text, c) ← Text.block? isFolded l.floor l.cursor.next
  return { l with cursor := c, keyAllowed := true }.emit (.scalar (String.ofList text) false)

/-- The first token that may still turn out to follow the start of a key, given how many there
are. -/
def firstOpen (l : Lexer) : Nat :=
  (l.candidate :: l.outer).foldl (fun n place => match place with
    | some place => min n place.position
    | none => n) l.count

/-- The tokens that are certain, ended at a code point that is no character. -/
def broken (code : Nat) (l : Lexer) : List Token :=
  l.tokens.reverse.take l.firstOpen ++ [.broken code]

/-- A quoted text, or all tokens if they end within it. -/
def quoted (isDouble : Bool) (l : Lexer) : Except (Option (List Token)) Lexer :=
  match l.markCandidate? with
  | none => .error none
  | some l =>
    match Text.quoted isDouble l.cursor.next with
    | .ok (text, c) =>
      .ok ({ l with cursor := c, keyAllowed := false }.emit (.scalar (String.ofList text) false))
    | .error .malformed => .error none
    | .error (.noCharacter code) => .error (some (l.broken code))

/-- A plain text. -/
def plain? (l : Lexer) : Option Lexer := do
  let l ← l.markCandidate?
  let (text, c, broke) := Text.plain l.inFlow l.floor l.cursor
  return { l with cursor := c, keyAllowed := broke }.emit (.scalar (String.ofList text) true)

/-- The characters that start no plain text by themselves. -/
def indicators : List Char :=
  ['-', '?', ':', ',', '[', ']', '\x7b', '\x7d', '#', '&', '*', '!', '|', '>', '\'', '"', '%', '@',
    '\x60']

/-- Whether a plain text starts with a character, given the one after it. -/
def startsPlain (inFlow : Bool) (c : Char) (following : Option Char) : Bool :=
  (!isGap c && !isBreak c && !indicators.contains c) ||
    (!endsWord following && (c == '-' || (!inFlow && (c == '?' || c == ':'))))

/-- The next token, which starts with a character but no quote. -/
def token? (c : Char) (l : Lexer) : Option Lexer :=
  let following := l.cursor.peekAt? 1
  let atMargin := l.cursor.column == 0
  let standsAlone := l.inFlow || endsWord following
  if c == '%' && atMargin then l.directive?
  else if atMargin && l.cursor.atMarker then
    l.document? (if c == '-' then .documentStart else .documentEnd)
  else if c == '[' then l.openFlow? .flowSequence
  else if c == '\x7b' then l.openFlow? .flowMapping
  else if c == ']' then l.closeFlow? .flowSequenceEnd
  else if c == '\x7d' then l.closeFlow? .flowMappingEnd
  else if c == ',' then l.flowEntry?
  else if c == '-' && endsWord following then l.blockEntry?
  else if c == '?' && standsAlone then l.key?
  else if c == ':' && standsAlone then l.value?
  else if c == '*' then l.name? .alias
  else if c == '&' then l.name? .anchor
  else if c == '!' then l.tag?
  else if c == '|' && !l.inFlow then l.block? false
  else if c == '>' && !l.inFlow then l.block? true
  else if startsPlain l.inFlow c following then l.plain?
  else none

/-- Go on to the next token. -/
def advance? (l : Lexer) : Option Lexer := do
  let (c, broke) := l.cursor.skipIdle
  let l ← { l with cursor := c, keyAllowed := l.keyAllowed || (broke && !l.inFlow) }.dropStale?
  return if l.inFlow then l else l.closeBlocks c.column

/-- The tokens from here on, if there are not more than so many. -/
def run? : List Char → Lexer → Option (List Token)
  | [], _ => none
  | _ :: steps, l => do
    let l ← l.advance?
    match l.cursor.peek? with
    | some c =>
      if c == '\'' || c == '"' then
        match l.quoted (c == '"') with
        | .ok l => run? steps l
        | .error tokens => tokens
      else run? steps (← l.token? c)
    | none => return (← l.closeAllBlocks.dropCandidate?).tokens.reverse

end Lexer

/-- Whether a character may stand in a text of the data format. -/
def isReadable (c : Char) : Bool :=
  let n := c.toNat
  c == '\t' || c == '\n' || c == '\r' || (0x20 ≤ n && n ≤ 0x7E) || n == 0x85 ||
    (0xA0 ≤ n && n ≤ 0xFFFD) || 0x10000 ≤ n

/-- A text in which a line feed alone or with a carriage return before it, and a carriage return
alone, are all the same line break. -/
def sameBreaks : List Char → List Char
  | '\r' :: '\n' :: rest => '\n' :: sameBreaks rest
  | '\r' :: rest => '\n' :: sameBreaks rest
  | c :: rest => c :: sameBreaks rest
  | [] => []

/-- The tokens of a text, if it can be cut into tokens. A byte order mark may stand in front. -/
def Token.ofText? (cs : List Char) : Option (List Token) :=
  if cs.all isReadable then
    let start : Cursor := ⟨sameBreaks cs, 0, 0, 0⟩
    let start := if start.peek? == some byteOrderMark then start.next else start
    Lexer.run? start.steps { cursor := start }
  else none

end Interop.Yaml
