import Interop.Decimal.Shortest

/-!
# Floating-point numbers in text

Reading takes the nearest number to a decimal. Writing shows the fewest digits that read back, in
positional notation between one ten-thousandth and ten thousand billion, and with an exponent of at
least two digits beyond.
-/

namespace Interop.Decimal

open Shortest

/-- The digits of a natural number in base ten. -/
def naturalDigits (n : Nat) : List Char := Nat.toDigits 10 n

/-- Text of an integer in base ten. -/
def integerText (n : Int) : String :=
  if n < 0 then "-" ++ String.ofList (naturalDigits n.natAbs)
  else String.ofList (naturalDigits n.natAbs)

/-- The decisions of the written form. -/
structure Layout where
  /-- Least power of ten of the leading digit that is written in positional notation. -/
  leastPositional : Int
  /-- Powers of ten of the leading digit from here on are written with an exponent. -/
  endPositional : Int
  /-- Text after a whole number in positional notation. -/
  wholeEnd : String
  /-- Least number of digits of an exponent. -/
  exponentWidth : Nat
  /-- Text of the infinite number, the sign aside. -/
  infinite : String
  /-- Text of the undefined number. -/
  undefined : String

/-- Numbers from one ten-thousandth up to but not including `10 ^ 16` are positional. -/
def layout : Layout := ⟨-4, 16, ".0", 2, "inf", "nan"⟩

/-- Digits without the zeros at their end, with their count. -/
def significantDigits (d : Numeral) : List Char × Int :=
  let all := naturalDigits d.digits
  let kept := (all.reverse.dropWhile (· == '0')).reverse
  (if kept.isEmpty then ['0'] else kept, d.exponent + all.length - 1)

/-- Lay out digits whose leading one stands at a power of ten. -/
def Layout.write (l : Layout) (digits : List Char) (lead : Int) : String :=
  if lead < l.leastPositional || l.endPositional ≤ lead then
    let tail := match digits.drop 1 with
      | [] => ""
      | more => "." ++ String.ofList more
    let size := naturalDigits lead.natAbs
    let padded := List.replicate (l.exponentWidth - size.length) '0' ++ size
    String.ofList (digits.take 1) ++ tail ++ "e" ++ (if lead < 0 then "-" else "+") ++
      String.ofList padded
  else if lead < 0 then
    "0." ++ String.ofList (List.replicate (lead.natAbs - 1) '0' ++ digits)
  else
    let whole := lead.toNat + 1
    let padded := digits ++ List.replicate (whole - digits.length) '0'
    match padded.drop whole with
    | [] => String.ofList padded ++ l.wholeEnd
    | more => String.ofList (padded.take whole) ++ "." ++ String.ofList more

/-- Text of a floating-point number. -/
def floatText (x : Float) : String :=
  let bits := x.toBits
  let sign := if bits.toNat ≥ Nat.pow 2 63 then "-" else ""
  match Kind.ofBits bits with
  | .nan => layout.undefined
  | .infinite => sign ++ layout.infinite
  | .zero => sign ++ "0" ++ layout.wholeEnd
  | .finite v =>
    let (digits, lead) := significantDigits (shortest v)
    sign ++ layout.write digits lead

/-- The floating-point number nearest to `mantissa * 10 ^ exponent`. Decimals that are far out of
range are cut off first, so that no huge power is formed. -/
def nearestFloat (mantissa : Nat) (exponent : Int) : Float :=
  let size : Int := (naturalDigits mantissa).length
  if mantissa = 0 then 0.0
  else if size + exponent > 400 then Float.ofScientific 1 false 400
  else if size + exponent < -400 then 0.0
  else if exponent ≥ 0 then Float.ofScientific mantissa false exponent.toNat
  else Float.ofScientific mantissa true exponent.natAbs

end Interop.Decimal
