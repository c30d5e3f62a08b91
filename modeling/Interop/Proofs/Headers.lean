import Interop.Proofs.Sheets

/-!
# The header and the source of wrappers agree

A C++/CLI header declares functions among enumerations and reference classes, and a C++/CLI source
defines functions alone. Both are made from the same declarations by walks of their own. Whatever
the units and the context are, the source defines the functions that the header declares, in the
same order and in the same words. It adds to their names the namespace in C++ notation, and to each
function a call of the native one.
-/

namespace Interop

namespace Template.CppCli

/-- The signature of a part that is a function. -/
def Part.signature? : Part → Option Signature
  | function signature => some signature
  | _ => none

section Walks

variable {printer : CType.Printer} {d : Declaration}

/-- A declaration that is shown without a signature is no function. -/
theorem Part.Shows.isFunction {part : Part} (h : part.Shows printer d) :
    d.isFunction = part.signature?.isSome := by
  unfold Declaration.isFunction
  cases h with
  | enumeration hb _ | record hb _ _ | function hb _ =>
    rw [hb]
    rfl

/-- A header and a source show a function by the same signature. -/
theorem Part.Shows.signature? {part : Part} (h : part.Shows printer d) {w : Wrapper}
    (hw : w.Defines printer d) : part.signature? = some w.signature := by
  obtain ⟨hbody, hsignature, -, -, -⟩ := hw
  cases h with
  | enumeration hb _ | record hb _ _ =>
    rw [hb] at hbody
    cases hbody
  | function hb hs =>
    rw [hb] at hbody
    cases hbody
    rw [Part.signature?, hs.unique hsignature]

end Walks

end Template.CppCli

end Interop
