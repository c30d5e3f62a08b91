import Interop.Configuration
import Interop.Logged
import Interop.Program
import Interop.Yaml.Datum

/-!
# Loading programs

The program of a configuration has its modules in order, and in each the units that its descriptions
describe. A description in a file gives the same unit as the same description in the configuration
itself; only the source that defects are reported with differs. The first description that cannot be
read ends the loading.
-/

namespace Interop.Program

/-- The source that defects of inline descriptions are reported with. -/
def inlineSource : String := "<inline>"

/-- The fault of a description. -/
def defectFault (source : String) (d : DescriptionDefect) : Fault :=
  .description (.defect d source)

/-- The description of a unit, and its source. -/
def readSource (w : Workspace) (base : Path) : UnitSource → Except Fault (Value × String)
  | .inline entries => .ok (.dict entries, inlineSource)
  | .file path =>
    let path := base.join (.ofString path)
    let source := path.toString
    match w.read? path with
    | none => .error (defectFault source (.noFile source))
    | some content =>
      match Yaml.read content with
      | .ok v => .ok (v, source)
      | .error .unreadable => .error (defectFault source (.unreadable source))
      | .error fault => .error (.reading fault)

/-- The unit that a description describes. -/
def loadUnit (w : Workspace) (base : Path) (source : UnitSource) : Except Fault SourceUnit := do
  let (description, label) ← readSource w base source
  (Description.unit label description).mapError .description

/-- The module that settings describe. -/
def loadModule (w : Workspace) (base : Path) (settings : ModuleSettings) : Logged Module := do
  let units ← Logged.ofExcept (settings.units.mapM (loadUnit w base))
  Logged.log [⟨.debug, "Loaded module '" ++ settings.library.name ++ "' with " ++
    Nat.repr units.length ++ " unit(s)"⟩]
  return .ofUnits settings.library units

/-- The modules that settings describe, in order. -/
def loadModules (w : Workspace) (base : Path) : List ModuleSettings → Logged (List Module)
  | [] => pure []
  | settings :: rest => do
    let module ← loadModule w base settings
    let modules ← loadModules w base rest
    return module :: modules

/-- The directory that paths of descriptions start from. -/
def baseOf (w : Workspace) (c : Configuration) : Path :=
  match c.baseDirectory with
  | some directory => if directory.isEmpty then w.directory else .ofString directory
  | none => w.directory

/-- The program of a configuration. -/
def load (w : Workspace) (c : Configuration) : Logged Program := do
  return .ofModules (← loadModules w (baseOf w c) c.modules)

end Interop.Program
