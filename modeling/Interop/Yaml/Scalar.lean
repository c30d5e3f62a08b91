import Interop.Text.Base64
import Interop.Text.Blank
import Interop.Text.LowerCase
import Interop.Value
import Interop.Yaml.Tag

/-!
# Scalars

A text with a tag is read as a scalar of the tag's type. A tag that a text gets by its form fits it
nearly always; a tag that a document names may fit it or not. Underscores in numbers are left out,
and numbers between colons are digits in base sixty.
-/

namespace Interop.Yaml

/-- Why a text is no scalar of its type. -/
inductive ScalarFault where
  /-- A number without digits. -/
  | noDigits
  /-- Not a whole number in a base. -/
  | notInteger (base : Nat) (given : String)
  /-- A whole number with too many digits. -/
  | tooLong (digits : Nat)
  /-- Not a number with a point. -/
  | notFloat (given : String)
  /-- A number with a point and too many digits in base sixty. -/
  | tooLarge
  /-- Not a word for a truth value. -/
  | notTruthValue (given : String)
  /-- Not a date by its form. -/
  | notDate
  /-- Not a text, where a date should be. -/
  | notText
  /-- A date before the first year. -/
  | yearOutOfRange
  /-- A date with a month that no year has. -/
  | monthOutOfRange
  /-- A date with a day that its month does not have. -/
  | dayOutOfRange
  /-- A time of day with an hour that no day has. -/
  | hourOutOfRange
  /-- A time of day with a minute that no hour has. -/
  | minuteOutOfRange
  /-- A time of day with a second that no minute has. -/
  | secondOutOfRange
  /-- A time zone that is a day or more from universal time. -/
  | zoneOutOfRange (seconds : Int)
deriving DecidableEq, Repr

/-- The longest quoted text in a complaint about a whole number. -/
def quoteLimit : Nat := 200

/-- The text of a fault. -/
def ScalarFault.message : ScalarFault → String
  | noDigits => "a number without digits"
  | notInteger base given =>
    "invalid literal for int() with base " ++ Nat.repr base ++ ": " ++
      String.ofList ((Text.Quoted.quotedChars given.toList).take quoteLimit)
  | tooLong digits => Text.Digit.limitMessage digits
  | notFloat given => "could not convert string to float: " ++ Text.Quoted.quoted given
  | tooLarge => "int too large to convert to float"
  | notTruthValue given => Text.Quoted.quoted given
  | notDate => "not a date"
  | notText => "not a text"
  | yearOutOfRange => "year 0 is out of range"
  | monthOutOfRange => "month must be in 1..12"
  | dayOutOfRange => "day is out of range for month"
  | hourOutOfRange => "hour must be in 0..23"
  | minuteOutOfRange => "minute must be in 0..59"
  | secondOutOfRange => "second must be in 0..59"
  | zoneOutOfRange seconds =>
    "offset must be a timedelta strictly between -timedelta(hours=24) and timedelta(hours=24), not " ++
      Moment.spanQuoted seconds ++ "."

/-- Why a text cannot be read as data. -/
inductive ReadFault where
  /-- The text breaks the rules of the data format. -/
  | unreadable
  /-- A part of the text is no scalar of its type. -/
  | noScalar (fault : ScalarFault)
  /-- A code point in the text is no character. -/
  | noCharacter (code : Nat)
  /-- A text stands for its own value. -/
  | endless
deriving DecidableEq, Repr

/-- What is said of a code point that is no character. -/
def noCharacterMessage : String := "chr() arg not in range(0x110000)"

/-- A scalar, or why there is none. -/
abbrev ScalarReader (α : Type) := Except ScalarFault α

/-- Texts of numbers without underscores. -/
def withoutUnderscores (s : String) : List Char := s.toList.filter (· != '_')

/-- The negative of a number if a text of it starts with a hyphen. -/
def signed {α : Type} [Neg α] (cs : List Char) (magnitude : α) : α :=
  if cs.head? == some '-' then -magnitude else magnitude

/-- Whether a character may stand around a number. -/
def isNumberBlank (c : Char) : Bool :=
  let n := c.toNat
  (9 ≤ n && n ≤ 13) || n == 32 || (127 < n && Text.Blank.isBlank c)

/-- A number without what may stand around it. -/
def trimNumber (cs : List Char) : List Char :=
  ((cs.dropWhile isNumberBlank).reverse.dropWhile isNumberBlank).reverse

/-- The value of a digit in a base. From ten on, letters are digits. -/
def digitValue? (base : Nat) (c : Char) : Option Nat :=
  ((Text.Digit.value? c).or (Text.Digit.hexValue? c)).filter (· < base)

/-- A text without the zero and the letter that may stand in front of digits in a base. -/
def dropBaseMark : Nat → List Char → List Char
  | 2, '0' :: 'b' :: rest | 2, '0' :: 'B' :: rest => rest
  | 8, '0' :: 'o' :: rest | 8, '0' :: 'O' :: rest => rest
  | 16, '0' :: 'x' :: rest | 16, '0' :: 'X' :: rest => rest
  | _, cs => cs

/-- The whole number that a text writes in a base. Blanks may stand around it. -/
def integer (base : Nat) (cs : List Char) : ScalarReader Int :=
  let number := trimNumber cs
  match (dropBaseMark base (Tag.unsigned number)).mapM (digitValue? base) with
  | some (first :: more) =>
    if base = 10 && Text.Digit.limit < more.length + 1 then .error (.tooLong (more.length + 1))
    else .ok (signed number (more.foldl (fun n d => base * n + d) first : Nat))
  | _ => .error (.notInteger base (String.ofList cs))

/-- A number from its digits in base sixty. -/
def sexagesimal (digits : List Int) : Int := digits.foldl (fun n d => 60 * n + d) 0

/-- The whole number that a text writes. -/
def readInt (s : String) : ScalarReader Int :=
  let cs := withoutUnderscores s
  signed cs <$> match Tag.unsigned cs with
    | [] => .error .noDigits
    | ['0'] => .ok 0
    | '0' :: 'b' :: rest => integer 2 rest
    | '0' :: 'x' :: rest => integer 16 rest
    | '0' :: rest => integer 8 ('0' :: rest)
    | body =>
      match Tag.colonParts body with
      | [whole] => integer 10 whole
      | parts => sexagesimal <$> parts.mapM (integer 10)

/-- The power of ten that the end of a number tells. -/
def exponent? : List Char → Option Int
  | [] => some 0
  | mark :: rest =>
    let digits := Tag.unsigned rest
    if mark.toLower == 'e' && !digits.isEmpty && digits.all Text.Digit.isDigit then
      some (signed rest (Text.Digit.toNat digits : Nat))
    else none

/-- The number that digits around a point and an exponent write. -/
def magnitude? (cs : List Char) : Option Float :=
  let rest := cs.dropWhile Text.Digit.isDigit
  let (fraction, rest) := match rest with
    | '.' :: more => (more.takeWhile Text.Digit.isDigit, more.dropWhile Text.Digit.isDigit)
    | _ => ([], rest)
  let digits := cs.takeWhile Text.Digit.isDigit ++ fraction
  if digits.isEmpty then none
  else (exponent? rest).map fun power =>
    Decimal.nearestFloat (Text.Digit.toNat digits) (power - fraction.length)

/-- The number that a text in small letters writes: digits around a point and an exponent, or a
word. Blanks may stand around it. -/
def decimal (cs : List Char) : ScalarReader Float :=
  let number := trimNumber cs
  let body := Tag.unsigned number
  let word := String.ofList body
  let magnitude :=
    if word == "inf" || word == "infinity" then some (1.0 / 0.0)
    else if word == "nan" then some (0.0 / 0.0)
    else magnitude? body
  match magnitude with
  | some x => .ok (signed number x)
  | none => .error (.notFloat (String.ofList cs))

/-- So many digits in base sixty fit a number with a point. -/
def sixtyLimit : Nat := 174

/-- A number from its digits in base sixty, summed up from the last one on. -/
def sexagesimalSum (digits : List Float) : Float :=
  (digits.reverse.zipIdx).foldl
    (fun sum (x, k) => sum + x * Decimal.nearestFloat (Nat.pow 60 k) 0) 0.0

/-- The text of the undefined number, the sign aside. -/
def undefinedText : List Char := ".nan".toList

/-- A text of a number with a point without what does not count. -/
def plainFloat (s : String) : List Char := Text.LowerCase.smallFrom [] (withoutUnderscores s)

/-- The number with a point that a text writes. -/
def readFloat (s : String) : ScalarReader Float :=
  let cs := plainFloat s
  let body := Tag.unsigned cs
  if cs.isEmpty then .error .noDigits
  else if body == undefinedText then .ok (0.0 / 0.0)
  else signed cs <$>
    if body == ".inf".toList then .ok (1.0 / 0.0)
    else match Tag.colonParts body with
      | [whole] => decimal whole
      | parts => do
        let digits ← parts.mapM decimal
        if sixtyLimit < digits.length then throw .tooLarge
        return sexagesimalSum digits

/-- The truth value that a word stands for, whatever the size of its letters. -/
def readBool (s : String) : ScalarReader Bool :=
  let small := Text.LowerCase.lowerCase s
  if Tag.trueWords.contains small then .ok true
  else if Tag.falseWords.contains small then .ok false
  else .error (.notTruthValue small)

/-- A date, if the calendar has it. -/
def calendarDate (d : Date) : ScalarReader Date :=
  if d.year = 0 then .error .yearOutOfRange
  else if d.month = 0 ∨ 12 < d.month then .error .monthOutOfRange
  else if d.day = 0 ∨ Date.daysIn d.year d.month < d.day then .error .dayOutOfRange
  else .ok d

/-- The millionths of a second that the digits of a fraction write; further digits do not count. -/
def microseconds (fraction : List Char) : Nat :=
  let digits := fraction.take 6
  Text.Digit.toNat (digits ++ List.replicate (6 - digits.length) '0')

/-- The seconds by which a time zone is ahead of universal time: less than a day. -/
def zoneOffset (z : Tag.Zone) : ScalarReader Int :=
  let seconds : Int := (3600 * Text.Digit.toNat z.hours + 60 * Text.Digit.toNat z.minutes : Nat)
  let seconds := if z.isBehind then -seconds else seconds
  if seconds.natAbs < Moment.daySeconds then .ok seconds else .error (.zoneOutOfRange seconds)

/-- The moment that a date and a time of day make. -/
def moment (d : Date) (c : Tag.Clock) : ScalarReader Moment := do
  let offset ← c.zone.mapM zoneOffset
  let date ← calendarDate d
  let hour := Text.Digit.toNat c.hour
  let minute := Text.Digit.toNat c.minute
  let second := Text.Digit.toNat c.second
  if 23 < hour then throw .hourOutOfRange
  if 59 < minute then throw .minuteOutOfRange
  if 59 < second then throw .secondOutOfRange
  return ⟨date, hour, minute, second, microseconds c.fraction, offset⟩

/-- The date or the moment that a text writes. -/
def readTimestamp (s : String) : ScalarReader Scalar :=
  match Tag.dateParts? s.toList with
  | some parts =>
    let date : Date :=
      ⟨Text.Digit.toNat parts.year, Text.Digit.toNat parts.month, Text.Digit.toNat parts.day⟩
    match parts.clock with
    | none => .date <$> calendarDate date
    | some clock => .moment <$> moment date clock
  | none => .error .notDate

/-- The bytes that a text writes: unaccented letters, four for three bytes. -/
def readBytes (s : String) : Except ReadFault (List UInt8) :=
  let cs := s.toList
  match if cs.all (·.toNat < 128) then Text.Base64.decode? cs else none with
  | some octets => .ok octets
  | none => .error .unreadable

/-- The scalar of a type that a text writes. -/
def Tag.read (tag : Tag) (s : String) : Except ReadFault Scalar :=
  match tag with
  | null => .ok .null
  | bool => (Scalar.bool <$> readBool s).mapError .noScalar
  | int => (Scalar.int <$> readInt s).mapError .noScalar
  | float => (Scalar.float <$> readFloat s).mapError .noScalar
  | timestamp => (readTimestamp s).mapError .noScalar
  | binary => Scalar.bytes <$> readBytes s
  | str => .ok (.str s)
  | _ => .error .unreadable

end Interop.Yaml
