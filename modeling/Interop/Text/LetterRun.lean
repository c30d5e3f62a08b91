/-!
# Runs of letters

Letters come in two cases. Over runs of neighbouring letters, the counterpart of a letter in the
other case lies at one distance, so a table of runs tells the counterparts of all letters.
-/

namespace Interop.Text

/-- A run of letters whose counterparts lie at one distance. -/
structure LetterRun where
  /-- First code point of the run. -/
  low : Nat
  /-- Last code point of the run. -/
  high : Nat
  /-- Every code point of the run is this many after the one before. -/
  step : Nat
  /-- Distance from a letter to its counterpart. -/
  shift : Int

namespace LetterRun

/-- Whether a run holds a code point. -/
def contains (run : LetterRun) (n : Nat) : Bool :=
  run.low ≤ n && n ≤ run.high && (n - run.low) % run.step == 0

/-- The counterpart of a character; a character in no run is its own. -/
def counterpart (runs : List LetterRun) (c : Char) : Char :=
  match runs.find? (·.contains c.toNat) with
  | some run => Char.ofNat (Int.ofNat c.toNat + run.shift).toNat
  | none => c

end LetterRun

/-- Whether one of some ranges of code points, ends included, holds a character. -/
def inRanges (ranges : List (Nat × Nat)) (c : Char) : Bool :=
  ranges.any fun (low, high) => low ≤ c.toNat && c.toNat ≤ high

end Interop.Text
