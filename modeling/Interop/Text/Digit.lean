/-!
# Decimal digits

The decimal digits of all scripts. Each script has its ten digits in a row, so the table holds the
code point of every digit zero, and a digit's value is its distance from the zero before it.
-/

namespace Interop.Text.Digit

/-- Code points of the zeros of all scripts, in increasing order. -/
def zeros : List Nat := [
    0x30, 0x660, 0x6F0, 0x7C0, 0x966, 0x9E6, 0xA66, 0xAE6, 0xB66, 0xBE6, 0xC66, 0xCE6, 0xD66,
    0xDE6, 0xE50, 0xED0, 0xF20, 0x1040, 0x1090, 0x17E0, 0x1810, 0x1946, 0x19D0, 0x1A80, 0x1A90,
    0x1B50, 0x1BB0, 0x1C40, 0x1C50, 0xA620, 0xA8D0, 0xA900, 0xA9D0, 0xA9F0, 0xAA50, 0xABF0,
    0xFF10, 0x104A0, 0x10D30, 0x11066, 0x110F0, 0x11136, 0x111D0, 0x112F0, 0x11450, 0x114D0,
    0x11650, 0x116C0, 0x11730, 0x118E0, 0x11950, 0x11C50, 0x11D50, 0x11DA0, 0x16A60, 0x16AC0,
    0x16B50, 0x1D7CE, 0x1D7D8, 0x1D7E2, 0x1D7EC, 0x1D7F6, 0x1E140, 0x1E2F0, 0x1E950, 0x1FBF0]

/-- The value of a decimal digit of any script. -/
def value? (c : Char) : Option Nat :=
  (zeros.find? fun base => base ≤ c.toNat && c.toNat < base + 10).map (c.toNat - ·)

/-- Whether a character is a decimal digit of some script. -/
def isDigit (c : Char) : Bool := (value? c).isSome

/-- A digit counts less than ten. -/
theorem value?_lt {c : Char} {n : Nat} (h : value? c = some n) : n < 10 := by
  obtain ⟨base, hz, rfl⟩ := Option.map_eq_some_iff.1 h
  have := List.find?_some hz
  simp only [Bool.and_eq_true, decide_eq_true_eq] at this
  omega

/-- The number that a row of digits writes in base ten; a character that is no digit counts zero. -/
def toNat (digits : List Char) : Nat :=
  digits.foldl (fun n c => 10 * n + (value? c).getD 0) 0

/-- The value of a digit in base sixteen, an unaccented letter of either size or a digit of the
first script. -/
def hexValue? (c : Char) : Option Nat :=
  if '0' ≤ c && c ≤ '9' then some (c.toNat - '0'.toNat)
  else if 'a' ≤ c && c ≤ 'f' then some (c.toNat - 'a'.toNat + 10)
  else if 'A' ≤ c && c ≤ 'F' then some (c.toNat - 'A'.toNat + 10)
  else none

/-- Digits that a number may have at most. -/
def limit : Nat := 4300

/-- What is said of a number with too many digits, with a remark on how many. -/
def limitText (remark : String) : String :=
  "Exceeds the limit (" ++ Nat.repr limit ++ " digits) for integer string conversion" ++ remark ++
    "; use sys.set_int_max_str_digits() to increase the limit"

/-- What is said when a number with too many digits is to be read. -/
def limitMessage (digits : Nat) : String :=
  limitText (": value has " ++ Nat.repr digits ++ " digits")

/-- What is said when a number with too many digits is to be written. -/
def longMessage : String := limitText ""

end Interop.Text.Digit
