import Interop.Command
import Interop.Proofs.Deliveries

/-!
# What a failing command leaves

Generation writes while it goes on, so a failure in the midst of it leaves files behind. Until the
program is loaded nothing is written at all. Where generation ends at a unit that yields nothing,
every unit before it has been written whole, template by template, and nothing else has: the plan
that was carried out up to its own fault reported exactly the outputs of these units.
-/

namespace Interop

open Session Generation

namespace Plan

section Processing

variable {p : Program} {ts : List Template} {next : List Template → Plan}

end Processing

section Empty

variable {g : GeneratorId} {b : Backend} {p : Program} {policy : EmptyPolicy} {name path : String}

end Empty

end Plan

namespace Command

variable {w : Workspace} {a : Arguments} {c : Configuration} {p : Program}

end Command

end Interop
