import Interop.Options
import Interop.SourceUnit

/-!
# Configurations

A configuration lists the modules to generate bindings for, each with the descriptions of its units,
and makes the choices that steer a run. A unit's description stands in the configuration itself or
in a file of its own, whose path starts from the configuration's base directory.
-/

namespace Interop

/-- Where the description of a unit stands. -/
inductive UnitSource where
  /-- In a file. -/
  | file (path : String)
  /-- In the configuration itself. -/
  | inline (entries : List (Scalar × Value))

/-- One module of a configuration. -/
structure ModuleSettings where
  /-- The library that the module binds. -/
  library : Library
  /-- The descriptions of the module's units. -/
  units : List UnitSource

/-- What to generate, and how. -/
structure Configuration where
  /-- The target language. -/
  target : Target
  /-- The directory that files are written to; none and the empty one stand for no files. -/
  outputDirectory : Option String
  /-- Whether one file for every module is asked for. -/
  singleFile : Bool
  /-- What happens when a unit yields no template. -/
  policy : EmptyPolicy
  /-- The modules, in order. -/
  modules : List ModuleSettings
  /-- The directory that paths of unit descriptions start from. -/
  baseDirectory : Option String

namespace Configuration

/-- The output directory of a configuration that names none. -/
def usualOutputDirectory : String := "./generated_bindings"

/-- The choices of a configuration. -/
def options (c : Configuration) : Options :=
  ⟨c.target, c.singleFile, c.outputDirectory.filter (!·.isEmpty), c.policy⟩

end Configuration

end Interop
