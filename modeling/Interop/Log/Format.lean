import Interop.Log
import Interop.Text.LowerCase
import Interop.Text.Word
import Interop.Value

/-!
# Formats of log lines

A format is a text with places for the fields of a record. A place starts with a percent sign and
the name of a field in parentheses, and ends with a letter that says how the field is written: as a
text, as a whole number in some base, as a number with a point or an exponent, or as a character.
Between the two stand wishes: alignment, signs, filling zeros, a width and a precision. Two percent
signs write one. A place without a name takes what the place before it left over, at first the whole
record.
-/

namespace Interop.Log.Format

/-- Why a format cannot be filled. -/
inductive Fault where
  /-- There is no place for a field in it. -/
  | noPlace (format : String)
  /-- The name of a field has no end. -/
  | openName
  /-- There is no field with a name. -/
  | noField (name : String)
  /-- A place has no end. -/
  | openPlace
  /-- A width is too large. -/
  | tooWide
  /-- A precision is too large. -/
  | tooPrecise
  /-- A line would be too long to be held. -/
  | noRoom
  /-- A letter says nothing about how a field is written. -/
  | unknownLetter (letter : Char) (index : Nat)
  /-- A field cannot be written in the way that is asked for, or there is none left. -/
  | badField
deriving DecidableEq, Repr

/-- The letter of a fault as it is shown; few characters are. -/
def shownLetter (c : Char) : Char := if 31 ≤ c.toNat && c.toNat < 127 then c else '?'

/-- The text of a fault. -/
def Fault.message : Fault → String
  | noPlace format => "Invalid format '" ++ format ++ "' for '%' style"
  | openName => "incomplete format key"
  | noField name => "Formatting field not found in record: " ++ Text.Quoted.quoted name
  | openPlace => "incomplete format"
  | tooWide => "width too big"
  | tooPrecise => "precision too big"
  | noRoom => "a line that is too long"
  | unknownLetter letter index =>
    "unsupported format character '" ++ String.ofList [shownLetter letter] ++ "' (0x" ++
      String.ofList (Text.Quoted.hex 1 ((Text.Half.code? letter).getD letter.toNat)) ++
      ") at index " ++ Nat.repr index
  | badField => "a field that cannot be written"

/-- The characters that ask for alignment, signs and filling. -/
def isFlag (c : Char) : Bool := c == '#' || c == '0' || c == '+' || c == ' ' || c == '-'

/-- A text without an asterisk or a number in front. -/
def dropSize : List Char → List Char
  | '*' :: rest => rest
  | cs => cs.dropWhile Text.Digit.isDigit

/-- A text without a point in front and the asterisk or number that must follow it. -/
def dropPrecision : List Char → List Char
  | '.' :: rest =>
    if (dropSize rest).length < rest.length then dropSize rest else '.' :: rest
  | cs => cs

/-- The letters that may end a place, in any size, with the three odd letters that are taken for
some of them when size does not count. -/
def endsPlace (c : Char) : Bool :=
  "diouxefgcrsa%".toList.contains c.toLower || ['\u0130', '\u0131', '\u017F'].contains c

/-- Whether a place with the name of a field is in front of a text. -/
def startsWithPlace : List Char → Bool
  | '%' :: '(' :: rest =>
    match rest.takeWhile Text.Word.isWordChar, rest.dropWhile Text.Word.isWordChar with
    | _ :: _, ')' :: more =>
      (dropPrecision (dropSize (more.dropWhile isFlag))).head?.any endsPlace
    | _, _ => false
  | _ => false

/-- Whether there is a place for a field in a text. -/
def hasPlace : List Char → Bool
  | [] => false
  | c :: rest => startsWithPlace (c :: rest) || hasPlace rest

/-- The format that is asked for: an empty one stands for the message alone. -/
def read (format : String) : Except Fault String :=
  if format.isEmpty then .ok "%(message)s"
  else if hasPlace format.toList then .ok format
  else .error (.noPlace format)

/-- How a field is to be written. -/
structure Wishes where
  /-- Whether blanks go to the right. -/
  left : Bool := false
  /-- Whether numbers that are not negative have a sign. -/
  sign : Bool := false
  /-- Whether numbers that are not negative have a blank for a sign. -/
  blank : Bool := false
  /-- Whether numbers show their base or their point. -/
  alternate : Bool := false
  /-- Whether numbers are filled up with zeros. -/
  zeros : Bool := false
  /-- The least count of characters. -/
  width : Nat := 0
  /-- The count of digits, or the greatest count of characters. -/
  precision : Option Nat := none
deriving DecidableEq, Repr

/-- Note the wish for which a flag stands. -/
def Wishes.add (w : Wishes) (c : Char) : Wishes :=
  if c == '-' then { w with left := true }
  else if c == '+' then { w with sign := true }
  else if c == ' ' then { w with blank := true }
  else if c == '#' then { w with alternate := true }
  else { w with zeros := true }

/-- Bring a field to its width: its sign and the mark of its base in front of zeros or behind
blanks. -/
def Wishes.fit (w : Wishes) (isNumber : Bool) (front body : List Char) : List Char :=
  let gap := w.width - (front.length + body.length)
  if w.left then front ++ body ++ List.replicate gap ' '
  else if isNumber && w.zeros then front ++ List.replicate gap '0' ++ body
  else List.replicate gap ' ' ++ front ++ body

/-- The sign of a number. -/
def Wishes.signOf (w : Wishes) (isNegative : Bool) : List Char :=
  if isNegative then ['-'] else if w.sign then ['+'] else if w.blank then [' '] else []

/-- A text, cut to the precision. -/
def Wishes.text (w : Wishes) (s : String) : List Char :=
  w.fit false [] (match w.precision with
    | some p => s.toList.take p
    | none => s.toList)

/-- A whole number in a base, with zeros up to the precision. -/
def Wishes.whole (w : Wishes) (base : Nat) (mark : List Char) (isLarge : Bool) (n : Int) :
    List Char :=
  let digits := Nat.toDigits base n.natAbs
  let digits := if isLarge then digits.map Char.toUpper else digits
  let digits := List.replicate (w.precision.getD 0 - digits.length) '0' ++ digits
  w.fit true (w.signOf (n < 0) ++ if w.alternate then mark else []) digits

/-- The quotient of two naturals to the nearest natural, and to the even one of two equally near. -/
def nearest (num den : Nat) : Nat :=
  let rest := 2 * (num % den)
  if rest < den || (rest = den && num / den % 2 = 0) then num / den else num / den + 1

/-- So many digits of a natural number from its first one on, and the power of ten of that. -/
def leading (count n : Nat) : List Char × Nat :=
  let digits := Nat.toDigits 10 n
  if digits.length ≤ count then
    (digits ++ List.replicate (count - digits.length) '0', digits.length - 1)
  else
    let rounded := Nat.toDigits 10 (nearest n (Nat.pow 10 (digits.length - count)))
    (rounded.take count, digits.length - 1 + (rounded.length - count))

/-- Digits after a point; without digits the point is shown only on demand. -/
def fraction (showPoint : Bool) (digits : List Char) : List Char :=
  if digits.isEmpty && !showPoint then [] else '.' :: digits

/-- Digits with a point after the first one, and the power of ten of that. -/
def scientific (showPoint : Bool) (digits : List Char) (power : Nat) : List Char :=
  digits.take 1 ++ fraction showPoint (digits.drop 1) ++ ['e', '+'] ++ (padded 2 power).toList

/-- Digits without zeros at their end. -/
def withoutZeros (digits : List Char) : List Char :=
  (digits.reverse.dropWhile (· == '0')).reverse

/-- A natural number with so many digits in all, with an exponent if it has more of them. -/
def general (showPoint : Bool) (count n : Nat) : List Char :=
  let (digits, power) := leading count n
  let kept (all : List Char) := if showPoint then all else withoutZeros all
  if power < count then
    digits.take (power + 1) ++ fraction showPoint (kept (digits.drop (power + 1)))
  else scientific showPoint (digits.take 1 ++ kept (digits.drop 1)) power

/-- A whole number with a point or an exponent. -/
def Wishes.real (w : Wishes) (letter : Char) (n : Int) : List Char :=
  let p := w.precision.getD 6
  let body :=
    if letter.toLower == 'f' then
      Nat.toDigits 10 n.natAbs ++ fraction w.alternate (List.replicate p '0')
    else if letter.toLower == 'e' then
      let (digits, power) := leading (p + 1) n.natAbs
      scientific w.alternate digits power
    else general w.alternate (max p 1) n.natAbs
  w.fit true (w.signOf (n < 0)) (if letter.isUpper then body.map Char.toUpper else body)

/-- The whole number that a field is. -/
def wholeOf : Value → Except Fault Int
  | .int n => .ok n
  | .bool b => .ok (if b then 1 else 0)
  | _ => .error .badField

/-- The one character that a field is, or the number of which it has. -/
def characterOf : Value → Except Fault Char
  | .str s => match s.toList with
    | [c] => .ok c
    | _ => .error .badField
  | v => do
    let n ← wholeOf v
    if 0 ≤ n && n < 0x110000 then return Text.Half.ofCode n.toNat else throw .badField

/-- Write a field in the way for which a letter stands. -/
def write (w : Wishes) (letter : Char) (index : Nat) (v : Value) : Except Fault (List Char) :=
  match letter with
  | 's' => .ok (w.text v.text)
  | 'r' => .ok (w.text v.quoted)
  | 'a' => .ok (w.text (Text.Quoted.plain v.quoted))
  | 'd' | 'i' | 'u' => w.whole 10 [] false <$> wholeOf v
  | 'o' => w.whole 8 ['0', 'o'] false <$> wholeOf v
  | 'x' => w.whole 16 ['0', 'x'] false <$> wholeOf v
  | 'X' => w.whole 16 ['0', 'X'] true <$> wholeOf v
  | 'e' | 'E' | 'f' | 'F' | 'g' | 'G' => w.real letter <$> wholeOf v
  | 'c' => (fun c => w.fit false [] [c]) <$> characterOf v
  | _ => .error (.unknownLetter letter index)

/-- A place in a format that is being filled. -/
structure Filling where
  /-- What is left of the format. -/
  rest : List Char
  /-- How many characters of it were passed. -/
  index : Nat
  /-- The field that waits to be written. -/
  waiting : Option Value

namespace Filling

/-- Pass characters. -/
def pass (n : Nat) (f : Filling) : Filling :=
  { f with rest := f.rest.drop n, index := f.index + n }

/-- The name up to the parenthesis that closes it, given how many are open. -/
def name? (depth : Nat) : List Char → Option (List Char)
  | [] => none
  | ')' :: rest => if depth = 0 then some [] else (name? (depth - 1) rest).map (')' :: ·)
  | '(' :: rest => (name? (depth + 1) rest).map ('(' :: ·)
  | c :: rest => (name? depth rest).map (c :: ·)

/-- Pass the name of a field, if there is one; the field waits from then on. -/
def named (fields : List (Scalar × Value)) (f : Filling) : Except Fault Filling :=
  match f.rest with
  | '(' :: rest =>
    match name? 0 rest with
    | none => .error .openName
    | some name =>
      match Value.lookup (String.ofList name) fields with
      | none => .error (.noField (String.ofList name))
      | some v => .ok { f.pass (name.length + 2) with waiting := some v }
  | _ => .ok f

/-- Take the field that waits. -/
def taken (f : Filling) : Except Fault (Value × Filling) :=
  match f.waiting with
  | some v => .ok (v, { f with waiting := none })
  | none => .error .badField

/-- Pass a number, or an asterisk that stands for the whole number that waits. -/
def size (limit : Nat) (tooLarge : Fault) (f : Filling) : Except Fault (Option Int × Filling) :=
  match f.rest with
  | '*' :: _ => do
    let (v, f) ← f.taken
    return (some (← wholeOf v), f.pass 1)
  | cs =>
    let digits := cs.takeWhile Char.isDigit
    let n := Text.Digit.toNat digits
    if limit < n then .error tooLarge
    else .ok (if digits.isEmpty then none else some n, f.pass digits.length)

/-- The greatest width. -/
def widthLimit : Nat := Nat.pow 2 63 - 1

/-- The least width for which there is no room. -/
def roomLimit : Nat := Nat.pow 2 36

/-- The greatest precision. -/
def precisionLimit : Nat := Nat.pow 2 31 - 1

/-- Pass the wishes of a place. -/
def wishes (f : Filling) : Except Fault (Wishes × Filling) := do
  let flags := f.rest.takeWhile isFlag
  let w := flags.foldl Wishes.add {}
  let (width, f) ← (f.pass flags.length).size widthLimit .tooWide
  let n := width.getD 0
  let w := { w with width := n.natAbs, left := w.left || n < 0 }
  match f.rest with
  | '.' :: _ =>
    let (precision, f) ← (f.pass 1).size precisionLimit .tooPrecise
    return ({ w with precision := some (precision.getD 0).toNat }, f)
  | _ => return (w, f)

/-- Pass a letter that says nothing. -/
def idle (f : Filling) : Filling :=
  if f.rest.head?.any ['h', 'l', 'L'].contains then f.pass 1 else f

/-- Fill a place, from the character after its percent sign on. -/
def place (fields : List (Scalar × Value)) (f : Filling) :
    Except Fault (List Char × Filling) := do
  if f.rest.head? == some '%' then return (['%'], f.pass 1)
  let (w, f) ← (← f.named fields).wishes
  let f := f.idle
  match f.rest with
  | [] => throw .openPlace
  | letter :: _ =>
    let (v, f) ← f.taken
    if roomLimit ≤ w.width then throw .noRoom
    return (← write w letter f.index v, f.pass 1)

/-- Fill all places, in so many steps at most. -/
def fill (fields : List (Scalar × Value)) : Nat → Filling → Except Fault (List Char)
  | 0, _ => .ok []
  | steps + 1, f =>
    match f.rest with
    | [] => .ok []
    | '%' :: _ => do
      let (text, f) ← (f.pass 1).place fields
      return text ++ (← fill fields steps f)
    | c :: _ => do return c :: (← fill fields steps (f.pass 1))

end Filling

/-- The line that a format makes of some fields. -/
def fill (format : String) (fields : List (Scalar × Value)) : Except Fault String :=
  let cs := format.toList
  String.ofList <$> Filling.fill fields (cs.length + 1) ⟨cs, 0, some (.dict fields)⟩

end Interop.Log.Format
