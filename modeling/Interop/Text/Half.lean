/-!
# Halves of characters

A notation of texts may write half of a character alone: one of the 2048 code points that stand in
pairs for the characters beyond the first plane, and for none by themselves. A text holds such a
half as its stand-in, one of the last 2048 private characters, so that it can be looked at and shown
like any other text; but a text with a half in it cannot be written to a file. A private character
that is a stand-in cannot be told from the half that it stands for. Texts in which one of these
characters is meant are therefore left out of all that is said of names and contents.
-/

namespace Interop.Text.Half

/-- The first code point of a half. -/
def first : Nat := 0xD800

/-- How many halves there are. -/
def count : Nat := 0x800

/-- The code point of the first stand-in. The stand-ins are the last of all code points. -/
def firstStandIn : Nat := 0x110000 - count

/-- The first half that goes second in a pair. -/
def firstLow : Nat := 0xDC00

/-- Whether a code point is that of a half. -/
def isHalf (code : Nat) : Bool := first ≤ code && code < first + count

/-- The character with a code point, or the stand-in of a half. Different halves have different
stand-ins (`code?_ofCode`). -/
def ofCode (code : Nat) : Char :=
  if isHalf code then Char.ofNat (code - first + firstStandIn) else Char.ofNat code

/-- The code point of the half for which a character stands. -/
def code? (c : Char) : Option Nat :=
  if firstStandIn ≤ c.toNat then some (c.toNat - firstStandIn + first) else none

/-- Every half is found again behind its stand-in. -/
theorem code?_ofCode {code : Nat} (h : isHalf code = true) : code? (ofCode code) = some code := by
  have hb := (Bool.and_eq_true _ _).mp h
  have hl : 0xD800 ≤ code := of_decide_eq_true hb.1
  have hu : code < 0xD800 + 0x800 := of_decide_eq_true hb.2
  have hv : (code - first + firstStandIn).isValidChar := by
    show _ < _ ∨ _ ∧ _
    simp only [first, firstStandIn, count]
    omega
  have hc : (ofCode code).toNat = code - first + firstStandIn := by
    rw [ofCode, if_pos h, Char.ofNat, dif_pos hv]
    rfl
  have hf : firstStandIn ≤ code - first + firstStandIn := Nat.le_add_left ..
  have hs : code - first + first = code := Nat.sub_add_cancel hl
  rw [code?, hc, if_pos hf, Nat.add_sub_cancel, hs]

/-- The halves that stand for single bytes in the names of files. -/
def isByte (code : Nat) : Bool := 0xDC80 ≤ code && code < 0xDD00

/-- Whether a text can be written to a file. -/
def isWritable (s : String) : Bool := s.toList.all fun c => (code? c).isNone

/-- Whether a text can be part of the name of a file. -/
def isName (s : String) : Bool := s.toList.all fun c => ((code? c).map isByte).getD true

/-- The character that two halves write together. -/
def ofPair (high low : Nat) : Char :=
  Char.ofNat (0x10000 + (high - first) * 0x400 + (low - firstLow))

/-- The code points of a character in pairs of halves. -/
def units (c : Char) : List Nat :=
  match code? c with
  | some code => [code]
  | none =>
    if c.toNat < 0x10000 then [c.toNat]
    else [first + (c.toNat - 0x10000) / 0x400, firstLow + (c.toNat - 0x10000) % 0x400]

end Interop.Text.Half
