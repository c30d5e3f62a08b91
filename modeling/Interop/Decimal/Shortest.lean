/-!
# The fewest digits that read back

A finite binary number is a natural significand times a power of two. The reals that round to it
form an interval around it, with its ends included exactly when the significand is even. The
shortest decimal of the number is the decimal with the fewest significant digits inside the
interval, and of those with equally few digits the one nearest to the number. The search tries the
two neighbours of the number on the grid of each digit count in exact natural arithmetic.
-/

namespace Interop.Decimal.Shortest

/-- A positive finite binary number: `significand * 2 ^ exponent`. -/
structure Binary where
  /-- The significand, positive for a number other than zero. -/
  significand : Nat
  /-- The power of two. -/
  exponent : Int
  /-- Whether the next smaller number lies only half as far away as the next larger one. -/
  narrowBelow : Bool

/-- What the sixty-four bits of a number say. -/
inductive Kind where
  | nan
  | infinite
  | zero
  | finite (value : Binary)

/-- Take the sixty-four bits of a number apart, the sign aside. -/
def Kind.ofBits (bits : UInt64) : Kind :=
  let b := bits.toNat % Nat.pow 2 63
  let field := b / Nat.pow 2 52
  let fraction := b % Nat.pow 2 52
  if field = 2047 then (if fraction = 0 then .infinite else .nan)
  else if field = 0 then
    if fraction = 0 then .zero else .finite ⟨fraction, -1074, false⟩
  else .finite ⟨Nat.pow 2 52 + fraction, Int.ofNat field - 1075, fraction = 0 && field > 1⟩

/-- A decimal: `digits * 10 ^ exponent`. -/
structure Numeral where
  /-- The significant digits as one number. -/
  digits : Nat
  /-- The power of ten. -/
  exponent : Int
deriving DecidableEq, Repr

/-- Four times the number, its lower and its upper rounding limit, as numerators over one
denominator. -/
structure Interval where
  /-- Numerator of the lower limit. -/
  low : Nat
  /-- Numerator of the number. -/
  centre : Nat
  /-- Numerator of the upper limit. -/
  high : Nat
  /-- The denominator. -/
  denominator : Nat
  /-- Whether the limits themselves round to the number. -/
  closed : Bool

/-- The interval of the reals that round to a number. -/
def Interval.of (v : Binary) : Interval :=
  let unit := if v.exponent ≥ 0 then Nat.pow 2 v.exponent.toNat else 1
  let denominator := if v.exponent ≥ 0 then 4 else 4 * Nat.pow 2 (-v.exponent).toNat
  let m := v.significand
  { low := (if v.narrowBelow then 4 * m - 1 else 4 * m - 2) * unit
    centre := 4 * m * unit
    high := (4 * m + 2) * unit
    denominator
    closed := m % 2 = 0 }

/-- Whether the interval holds the quotient of two naturals. -/
def Interval.contains (i : Interval) (num den : Nat) : Bool :=
  let scaled := num * i.denominator
  if i.closed then i.low * den ≤ scaled && scaled ≤ i.high * den
  else i.low * den < scaled && scaled < i.high * den

/-- The power of ten of the leading digit of a positive quotient. The bit lengths give it up to one,
and the comparison picks the right one. -/
def leadingExponent (num den : Nat) : Int :=
  let guess := ((num.log2 : Int) - (den.log2 : Int)) * 30103 / 100000
  let reaches (e : Int) : Bool :=
    if e ≥ 0 then den * Nat.pow 10 e.toNat ≤ num else den ≤ num * Nat.pow 10 (-e).toNat
  if reaches (guess + 1) then guess + 1
  else if reaches guess then guess
  else guess - 1

/-- The neighbour of the number inside the interval on the grid of the multiples of
`10 ^ exponent`, if there is one: the nearer of two, the even one of two equally near. -/
def onGrid (i : Interval) (exponent : Int) : Option Numeral :=
  let up := Nat.pow 10 exponent.toNat
  let down := Nat.pow 10 (-exponent).toNat
  let num := i.centre * down
  let den := i.denominator * up
  let below := num / den
  let fits (k : Nat) : Bool := i.contains (k * up) down
  let nearer : Nat :=
    let rest := 2 * (num % den)
    if rest < den || (rest = den && below % 2 = 0) then below else below + 1
  match fits below, fits (below + 1) with
  | true, true => some ⟨nearer, exponent⟩
  | true, false => some ⟨below, exponent⟩
  | false, true => some ⟨below + 1, exponent⟩
  | false, false => none

/-- The decimal with the fewest digits that reads back to the number. Seventeen digits always do. -/
def shortest (v : Binary) : Numeral :=
  let i := Interval.of v
  let lead := leadingExponent i.centre i.denominator
  ((List.range 17).findSome? fun (k : Nat) => onGrid i (lead - k)).getD
    ⟨i.centre / i.denominator, 0⟩

end Interop.Decimal.Shortest
