import Interop.Decimal.Float

/-!
# Dates and moments

A date is a day of the calendar; a moment is a date with a time of day, and perhaps with the
distance of its clock from universal time. Two moments with such a distance are the same if they are
the same instant, whatever their clocks show. Both have a plain text, and a quoted one that spells
out the numbers they are made of.
-/

namespace Interop

/-- A natural number with leading zeros up to a width. -/
def padded (width n : Nat) : String :=
  let digits := Decimal.naturalDigits n
  String.ofList (List.replicate (width - digits.length) '0' ++ digits)

/-- A day of the calendar. -/
structure Date where
  year : Nat
  month : Nat
  day : Nat
deriving DecidableEq, Repr

namespace Date

/-- Year, month and day between hyphens. -/
def text (d : Date) : String := padded 4 d.year ++ "-" ++ padded 2 d.month ++ "-" ++ padded 2 d.day

/-- The three numbers, the year first. -/
def numbers (d : Date) : List String := [Nat.repr d.year, Nat.repr d.month, Nat.repr d.day]

/-- The quoted form of a date. -/
def quoted (d : Date) : String := "datetime.date(" ++ ", ".intercalate d.numbers ++ ")"

/-- Whether a year has a day more than usual. -/
def isLeapYear (year : Nat) : Bool := year % 4 = 0 && (year % 100 != 0 || year % 400 = 0)

/-- The days of a month. -/
def daysIn (year month : Nat) : Nat :=
  if month = 2 then if isLeapYear year then 29 else 28
  else if [4, 6, 9, 11].contains month then 30
  else 31

/-- The days up to a date, counted from the first day of the first year. -/
def ordinal (d : Date) : Nat :=
  let years := d.year - 1
  365 * years + years / 4 - years / 100 + years / 400 +
    (((List.range' 1 (d.month - 1)).map (daysIn d.year)).foldl (· + ·) 0) + d.day

end Date

/-- A date with a time of day. -/
structure Moment where
  date : Date
  hour : Nat
  minute : Nat
  second : Nat
  microsecond : Nat
  /-- The seconds by which the clock is ahead of universal time, if that is known. -/
  offset : Option Int
deriving DecidableEq, Repr

namespace Moment

/-- The seconds of a day. -/
def daySeconds : Nat := 86400

/-- A distance between clocks: hours, minutes and, if there are any, seconds, with a sign. -/
def offsetText (seconds : Int) : String :=
  let n := seconds.natAbs
  (if seconds < 0 then "-" else "+") ++ padded 2 (n / 3600) ++ ":" ++ padded 2 (n / 60 % 60) ++
    (if n % 60 = 0 then "" else ":" ++ padded 2 (n % 60))

/-- Date and time, with as much of a second as there is, and the distance from universal time. -/
def text (m : Moment) : String :=
  m.date.text ++ " " ++ padded 2 m.hour ++ ":" ++ padded 2 m.minute ++ ":" ++ padded 2 m.second ++
    (if m.microsecond = 0 then "" else "." ++ padded 6 m.microsecond) ++
    ((m.offset.map offsetText).getD "")

/-- The quoted form of a span of time: its days and the seconds of its last day. -/
def spanQuoted (seconds : Int) : String :=
  let part (name : String) (n : Int) : List String :=
    if n = 0 then [] else [name ++ "=" ++ Decimal.integerText n]
  let parts := part "days" (seconds / daySeconds) ++ part "seconds" (seconds % daySeconds)
  "datetime.timedelta(" ++ (if parts.isEmpty then "0" else ", ".intercalate parts) ++ ")"

/-- The quoted form of a distance from universal time. -/
def zoneQuoted (seconds : Int) : String :=
  if seconds = 0 then "datetime.timezone.utc"
  else "datetime.timezone(" ++ spanQuoted seconds ++ ")"

/-- The quoted form of a moment. Parts of a second, and then seconds, are left out if they are
zero. -/
def quoted (m : Moment) : String :=
  let fine :=
    if m.microsecond != 0 then [m.second, m.microsecond]
    else if m.second != 0 then [m.second] else []
  let zone := (m.offset.map fun seconds => "tzinfo=" ++ zoneQuoted seconds).toList
  "datetime.datetime(" ++
    ", ".intercalate (m.date.numbers ++ ([m.hour, m.minute] ++ fine).map Nat.repr ++ zone) ++ ")"

/-- The seconds from the start of the count of days, as the clock shows them. -/
def seconds (m : Moment) : Int :=
  m.date.ordinal * daySeconds + m.hour * 3600 + m.minute * 60 + m.second

/-- Whether two moments are the same. -/
def same (a b : Moment) : Bool :=
  match a.offset, b.offset with
  | some p, some q => a.seconds - p == b.seconds - q && a.microsecond == b.microsecond
  | none, none => a == b
  | _, _ => false

end Moment

end Interop
