import Interop.Text.Half
import Interop.Text.Printable

/-!
# Quoted text

The form in which error texts show a piece of text: between single quotes, or between double quotes
where it holds a single quote and no double one. A backslash, the chosen quote and every character
that is not printable are escaped, so the quoted form of a text always fits on one line.
-/

namespace Interop.Text.Quoted

/-- The hexadecimal digits of a number, in lower case, padded with zeros to a width. -/
def hex (width n : Nat) : List Char :=
  let digits := Nat.toDigits 16 n
  List.replicate (width - digits.length) '0' ++ digits

/-- The escape of a code point, of the shortest fitting width. -/
def codeEscape (code : Nat) : List Char :=
  if code < 0x100 then '\\' :: 'x' :: hex 2 code
  else if code < 0x10000 then '\\' :: 'u' :: hex 4 code
  else '\\' :: 'U' :: hex 8 code

/-- One character between quotes: two characters for the backslash, the quote and the three common
control characters, an escape of its code point for any other character that is not printable. -/
def escape (quote c : Char) : List Char :=
  if c == '\\' || c == quote then ['\\', c]
  else if c == '\n' then ['\\', 'n']
  else if c == '\r' then ['\\', 'r']
  else if c == '\t' then ['\\', 't']
  else if Printable.isPrintable c then [c]
  else codeEscape ((Half.code? c).getD c.toNat)

/-- The quote around a text: double only if it spares escapes. -/
def quoteFor (cs : List Char) : Char :=
  if cs.contains '\'' && !cs.contains '"' then '"' else '\''

/-- The quoted form of a list of characters. -/
def quotedChars (cs : List Char) : List Char :=
  let quote := quoteFor cs
  quote :: cs.flatMap (escape quote) ++ [quote]

/-- The quoted form of a text. -/
def quoted (s : String) : String := String.ofList (quotedChars s.toList)

/-- A quoted form in unaccented letters: other characters are escaped as well. -/
def plain (quoted : String) : String :=
  String.ofList (quoted.toList.flatMap fun c =>
    if c.toNat < 128 then [c] else codeEscape c.toNat)

end Interop.Text.Quoted
