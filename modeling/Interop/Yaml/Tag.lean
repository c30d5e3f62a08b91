import Interop.Identifier
import Interop.Text.Digit

/-!
# Tags and plain words

Every node of a document has a tag, which tells its type. A plain text without a tag gets one by its
form: the words for nothing and for truth values, numbers in several notations, and dates. A text
that has no other form is a string. One line feed at its end does not count in the form of a text.
-/

namespace Interop.Yaml

/-- The types of nodes. -/
inductive Tag where
  | null | bool | int | float | timestamp | binary | str | list | dict | set
  /-- A list of pairs, each of which is written as a mapping with one entry. -/
  | pairs
  /-- A key whose value is merged into its mapping. -/
  | merge
  /-- A key that stands for the value of its mapping as a whole. -/
  | value
  /-- A type that is not known. -/
  | other
deriving DecidableEq, Repr

namespace Tag

/-- The tags that documents may name, with what they have in common in front of their names. -/
def common : String := "tag:yaml.org,2002:"

/-- The names of the known tags. -/
def names : List (String × Tag) := [
  ("null", null), ("bool", bool), ("int", int), ("float", float), ("timestamp", timestamp),
  ("binary", binary), ("str", str), ("seq", list), ("map", dict), ("set", set), ("omap", pairs),
  ("pairs", pairs), ("merge", merge), ("value", value)]

/-- The tag with a full name. -/
def ofName (name : String) : Tag :=
  if common.toList.isPrefixOf name.toList then
    (names.lookup (String.ofList (name.toList.drop common.length))).getD other
  else other

/-- The words for true. -/
def trueWords : List String := ["yes", "Yes", "YES", "true", "True", "TRUE", "on", "On", "ON"]

/-- The words for false. -/
def falseWords : List String := ["no", "No", "NO", "false", "False", "FALSE", "off", "Off", "OFF"]

/-- The words for nothing. -/
def nullWords : List String := ["", "~", "null", "Null", "NULL"]

/-- The words for the infinite number, the sign aside. -/
def infiniteWords : List String := [".inf", ".Inf", ".INF"]

/-- The words for the undefined number. -/
def undefinedWords : List String := [".nan", ".NaN", ".NAN"]

/-- A text without a sign at its front. -/
def unsigned : List Char → List Char
  | '-' :: rest => rest
  | '+' :: rest => rest
  | cs => cs

/-- Whether a row of characters of a class and underscores is not empty. -/
def isRow (p : Char → Bool) (cs : List Char) : Bool :=
  !cs.isEmpty && cs.all fun c => p c || c == '_'

/-- Whether a text is a digit followed by digits and underscores. -/
def isDigitRow : List Char → Bool
  | c :: rest => c.isDigit && rest.all fun d => d.isDigit || d == '_'
  | [] => false

/-- Whether a character is a digit in base sixteen. -/
def isHexDigit (c : Char) : Bool := (Text.Digit.hexValue? c).isSome

/-- Whether a character is a digit in base eight. -/
def isOctalDigit (c : Char) : Bool := '0' ≤ c && c ≤ '7'

/-- Whether a text is a number below sixty of one or two digits. -/
def isSixtieth : List Char → Bool
  | [a] => a.isDigit
  | [a, b] => '0' ≤ a && a ≤ '5' && b.isDigit
  | _ => false

/-- A text cut at colons. -/
def colonParts (cs : List Char) : List (List Char) := Text.Split.pieces (· == ':') cs

/-- Whether a text has the form of a whole number. -/
def isInt (cs : List Char) : Bool :=
  match unsigned cs with
  | '0' :: 'b' :: rest => isRow (fun c => c == '0' || c == '1') rest
  | '0' :: 'x' :: rest => isRow isHexDigit rest
  | '0' :: rest => rest.isEmpty || isRow isOctalDigit rest
  | body =>
    match colonParts body with
    | [] => false
    | first :: more => isDigitRow first && more.all isSixtieth

/-- Whether a text is empty or the exponent of a number, whose sign must be there. -/
def isExponent : List Char → Bool
  | [] => true
  | e :: sign :: digits =>
    (e == 'e' || e == 'E') && (sign == '-' || sign == '+') && !digits.isEmpty &&
      digits.all Char.isDigit
  | _ => false

/-- Whether a text is the part of a number after its point. -/
def isFraction (cs : List Char) : Bool :=
  isExponent (cs.dropWhile fun c => c.isDigit || c == '_')

/-- Whether a text has the form of a number with a point. -/
def isFloat (cs : List Char) : Bool :=
  let body := unsigned cs
  let whole := body.takeWhile (· != '.')
  match body.dropWhile (· != '.') with
  | [] => false
  | _ :: rest =>
    undefinedWords.contains (String.ofList cs) || infiniteWords.contains (String.ofList body) ||
    (if whole.isEmpty then
      body.length == cs.length && isDigitRow (rest.take 1) && isFraction rest
    else
      match colonParts whole with
      | [] => false
      | [first] => isDigitRow first && isFraction rest
      | first :: more =>
        isDigitRow first && more.all isSixtieth && rest.all fun c => c.isDigit || c == '_')

/-- The digits in front of a text, if there are at least and at most so many, and what follows. -/
def digits? (least most : Nat) (cs : List Char) : Option (List Char × List Char) :=
  let digits := (cs.take most).takeWhile Char.isDigit
  if digits.length < least then none else some (digits, cs.drop digits.length)

/-- What follows a character in front of a text. -/
def after? (c : Char) : List Char → Option (List Char)
  | d :: rest => if d == c then some rest else none
  | [] => none

/-- A text without the blanks in front of it. -/
def dropGaps (cs : List Char) : List Char := cs.dropWhile fun c => c == ' ' || c == '\t'

/-- A time zone: hours and perhaps minutes ahead of universal time or behind it, or none of both. -/
structure Zone where
  /-- Whether the zone is behind. -/
  isBehind : Bool
  /-- The digits of the hours. -/
  hours : List Char
  /-- The digits of the minutes. -/
  minutes : List Char

/-- The time zone that a text is; the empty text is none. -/
def zone? (cs : List Char) : Option (Option Zone) :=
  if cs.isEmpty then some none
  else
    match dropGaps cs with
    | ['Z'] => some (some ⟨false, [], []⟩)
    | sign :: rest =>
      if sign == '+' || sign == '-' then
        match digits? 1 2 rest with
        | some (hours, []) => some (some ⟨sign == '-', hours, []⟩)
        | some (hours, ':' :: minutes) =>
          if minutes.length == 2 && minutes.all Char.isDigit then
            some (some ⟨sign == '-', hours, minutes⟩)
          else none
        | _ => none
      else none
    | [] => none

/-- A time of day, taken apart. -/
structure Clock where
  /-- The digits of the hour, one or two. -/
  hour : List Char
  /-- The two digits of the minute. -/
  minute : List Char
  /-- The two digits of the second. -/
  second : List Char
  /-- The digits of the fraction of a second. -/
  fraction : List Char
  /-- The time zone. -/
  zone : Option Zone

/-- The time of day that stands after a date: hours, minutes and seconds, perhaps with a fraction
and a time zone. -/
def clock? (cs : List Char) : Option Clock := do
  let start ← match cs with
    | 'T' :: rest | 't' :: rest => some rest
    | ' ' :: rest | '\t' :: rest => some (dropGaps rest)
    | _ => none
  let (hour, rest) ← digits? 1 2 start
  let (minute, rest) ← digits? 2 2 (← after? ':' rest)
  let (second, rest) ← digits? 2 2 (← after? ':' rest)
  match rest with
  | '.' :: rest =>
    return ⟨hour, minute, second, rest.takeWhile Char.isDigit,
      ← zone? (rest.dropWhile Char.isDigit)⟩
  | rest => return ⟨hour, minute, second, [], ← zone? rest⟩

/-- A text in the form of a date, taken apart. -/
structure DateParts where
  /-- The four digits of the year. -/
  year : List Char
  /-- The digits of the month, one or two. -/
  month : List Char
  /-- The digits of the day, one or two. -/
  day : List Char
  /-- The time of day, if one follows. -/
  clock : Option Clock

/-- A text that has the form of a date, which a time of day may follow, taken apart. -/
def dateParts? (cs : List Char) : Option DateParts := do
  let (year, rest) ← digits? 4 4 (Identifier.dropFinalBreak cs)
  let (month, rest) ← digits? 1 2 (← after? '-' rest)
  let (day, rest) ← digits? 1 2 (← after? '-' rest)
  if rest.isEmpty then return ⟨year, month, day, none⟩
  else return ⟨year, month, day, some (← clock? rest)⟩

/-- Whether a plain text is a date. Only before a time of day may the month and the day have a
single digit. -/
def isTimestamp (cs : List Char) : Bool :=
  match dateParts? cs with
  | some d => d.clock.isSome || (d.month.length == 2 && d.day.length == 2)
  | none => false

/-- The words that mark properties of nodes, and cannot be used as words. -/
def propertyWords : List String := ["!", "&", "*"]

/-- The tag of a plain text by its form. -/
def ofForm (cs : List Char) : Tag :=
  let s := String.ofList cs
  if trueWords.contains s || falseWords.contains s then bool
  else if isFloat cs then float
  else if isInt cs then int
  else if s == "<<" then merge
  else if nullWords.contains s then null
  else if isTimestamp cs then timestamp
  else if s == "=" then value
  else if propertyWords.contains s then other
  else str

/-- The tag of a plain text. A line feed alone is a string. -/
def ofPlain (s : String) : Tag :=
  let cs := s.toList
  ofForm (if cs == ['\n'] then cs else Identifier.dropFinalBreak cs)

end Tag

end Interop.Yaml
