/-!
# Active printers

The printers that have asked to spell types, oldest first. The youngest one is in force. Giving a
printer up removes its youngest entry and leaves the others in their order.
-/

namespace Interop

/-- Active printers, oldest first. -/
structure Printers (δ : Type) where
  /-- The entries; a printer may stand in several. -/
  active : List δ
deriving DecidableEq, Repr

namespace Printers

variable {δ : Type}

/-- No printer is active. -/
def empty : Printers δ := ⟨[]⟩

/-- The printer in force. -/
def current? (p : Printers δ) : Option δ := p.active.getLast?

/-- Make a printer the one in force. -/
def subscribe (d : δ) (p : Printers δ) : Printers δ := ⟨p.active ++ [d]⟩

variable [DecidableEq δ]

/-- Give up the youngest entry of a printer, if it has one. -/
def unsubscribe (d : δ) (p : Printers δ) : Printers δ := ⟨(p.active.reverse.erase d).reverse⟩

/-- Whether a printer has an entry. -/
def isActive (d : δ) (p : Printers δ) : Bool := p.active.contains d

/-- Giving up a printer that was just made active undoes that. -/
theorem unsubscribe_subscribe (d : δ) (p : Printers δ) : (p.subscribe d).unsubscribe d = p := by
  simp [unsubscribe, subscribe]

end Printers

end Interop
