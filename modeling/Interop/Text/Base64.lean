/-!
# Bytes in letters

Bytes are written in the 64 letters of an alphabet, four letters for three bytes. Characters outside
the alphabet are passed over. Equals signs fill the last group of four; where they fill it the text
ends, whatever follows, and a group that is neither full nor filled makes the text unreadable.
-/

namespace Interop.Text.Base64

/-- The value of a letter of the alphabet. -/
def value? (c : Char) : Option Nat :=
  if 'A' ≤ c && c ≤ 'Z' then some (c.toNat - 'A'.toNat)
  else if 'a' ≤ c && c ≤ 'z' then some (c.toNat - 'a'.toNat + 26)
  else if '0' ≤ c && c ≤ '9' then some (c.toNat - '0'.toNat + 52)
  else if c == '+' then some 62
  else if c == '/' then some 63
  else none

/-- The bytes of a text, from a place in a group on: how many letters of the group were read, the
bits that they left over, and how many equals signs stand behind them. -/
def decodeFrom (place bits filled : Nat) : List Char → Option (List UInt8)
  | [] => if place = 0 then some [] else none
  | c :: rest =>
    if c == '=' then
      if place < 2 then decodeFrom place bits filled rest
      else if 4 ≤ place + filled + 1 then some []
      else decodeFrom place bits (filled + 1) rest
    else
      match value? c, place with
      | none, _ => decodeFrom place bits filled rest
      | some v, 0 => decodeFrom 1 v 0 rest
      | some v, 1 => (UInt8.ofNat (bits * 4 + v / 16) :: ·) <$> decodeFrom 2 (v % 16) 0 rest
      | some v, 2 => (UInt8.ofNat (bits * 16 + v / 4) :: ·) <$> decodeFrom 3 (v % 4) 0 rest
      | some v, _ => (UInt8.ofNat (bits * 64 + v) :: ·) <$> decodeFrom 0 0 0 rest

/-- The bytes that a text writes. -/
def decode? (cs : List Char) : Option (List UInt8) := decodeFrom 0 0 0 cs

end Interop.Text.Base64
