import Interop.Value

/-!
# The order of sets

A set keeps its members in a table that has more places than members. A number asks for the place
that its remainder tells; if that is taken, it tries the places behind it, and then places all over
the table. Members are met in the order of their places, however they were written. Only numbers ask
for the same places every time, so a set with another member keeps the order in which it was
written.
-/

namespace Interop.NumberSet

/-- Remainders are taken by this prime. -/
def modulus : Nat := Nat.pow 2 61 - 1

/-- The remainder of a numerator over a power of two. Dividing by two is the same as doubling sixty
times. The number minus one is no remainder. -/
def remainder (numerator : Int) (denominator : Nat) : Int :=
  let doublings := (61 - Nat.log2 denominator % 61) % 61
  let n : Nat := numerator.natAbs % modulus * Nat.pow 2 doublings % modulus
  let signed : Int := if numerator < 0 then -n else n
  if signed = -1 then -2 else signed

/-- The place for which a scalar asks in a table without an end, if it is a number. -/
def wish? (s : Scalar) : Option Nat :=
  s.fraction?.map fun (numerator, denominator) =>
    (remainder numerator denominator % (Nat.pow 2 64 : Nat)).toNat

/-- The number of places for so many members: a power of two. -/
def size (count : Nat) : Nat := if count < 5 then 8 else Nat.pow 2 (Nat.log2 (2 * count) + 1)

/-- How many places are tried behind a place. -/
def reach : Nat := 9

/-- The first free place that is found from a place on, in so many tries at most. -/
def seek (places : Nat) (isTaken : Nat → Bool) : Nat → Nat → Nat → Nat
  | 0, place, _ => place
  | tries + 1, place, wish =>
    let near := List.range' place (if place + reach < places then reach + 1 else 1)
    match near.find? (!isTaken ·) with
    | some free => free
    | none =>
      let wish := wish / 32
      seek places isTaken tries ((5 * place + 1 + wish) % places) wish

/-- Members with their places, after another one has found its place. -/
def enter (places : Nat) (table : List (Nat × Scalar)) (member : Nat × Scalar) :
    List (Nat × Scalar) :=
  let isTaken (place : Nat) : Bool := table.any (·.1 == place)
  (seek places isTaken (places + 64) (member.1 % places) member.1, member.2) :: table

/-- The members of a set in the order in which they are met. -/
def ordered (members : List Scalar) : List Scalar :=
  match members.mapM wish? with
  | none => members
  | some wishes =>
    let places := size members.length
    let table := (wishes.zip members).foldl (enter places) []
    (List.range places).filterMap fun place => table.lookup place

end Interop.NumberSet
