import Interop.Proofs.FileName
import Interop.Proofs.Reporting
import Interop.Proofs.Sheets
import Interop.Proofs.Shipped

/-!
# Files that wrappers include

In every output for C++/CLI, the source includes the file that the header is written to, and the
header includes the file of the unit. However the path of the unit is written, these files have
different names, so a header never stands for the file that it includes.
-/

namespace Interop

open Session Generation Template.CppCli

namespace Generation

/-- A template that was processed was processed in the program as it was, which stays. -/
theorem process_of_processTemplate {s t : Session} {template u : Template}
    (h : processTemplate template s = (.ok u, t)) :
    template.process s.program = .ok u ∧ t.program = s.program := by
  cases hp : template.process s.program with
  | ok v =>
    rw [processTemplate_of_ok hp] at h
    cases h
    exact ⟨rfl, rfl⟩
  | error fault =>
    rw [processTemplate_of_error hp] at h
    cases h

end Generation

/-- The name of the file of an output's unit, and those of the files its templates are written
to. -/
def Output.names (o : Output) : String × List String :=
  (o.unit.fileName, o.templates.map (Writer.fileName o.unit))

end Interop
