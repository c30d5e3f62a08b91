import Interop.Keywords
import Interop.Options
import Interop.Pass
import Interop.Template.CSharp
import Interop.Template.CppCli

/-!
# Backends

A backend knows one target language: which passes it needs, which templates some units yield, and
how types are written. What it yields depends on the layout, the units and the context alone. Two
backends are shipped.
-/

namespace Interop

/-- A unit with its position in the program. -/
abbrev PlacedUnit := Nat × SourceUnit

/-- What is known of a target language. -/
structure Backend where
  /-- The name of the backend. -/
  name : String
  /-- The target language. -/
  target : Target
  /-- The extension of the one file of a module. -/
  extension : String
  /-- Whether the backend can write one file for every module. -/
  supportsSingleFile : Bool
  /-- The passes that the backend needs. -/
  passes : List Pass
  /-- Whether the passes could be set up. -/
  setupSucceeds : Bool
  /-- The templates that some units yield. -/
  templates : Layout → List PlacedUnit → GenerationContext → List Template
  /-- How types are written. -/
  printer : CType.Printer

namespace Backend

/-- The layout in which a backend works: one file for every module only if that is asked for and the
backend can do it. -/
def layout (b : Backend) (o : Options) : Layout :=
  if b.supportsSingleFile && o.layout = .singleFile then .singleFile else .perUnit

/-- The positions of some units. -/
def positions (units : List PlacedUnit) : List Nat := units.map (·.1)

/-- Whether some unit has a declaration to generate. -/
def showsSomething (units : List PlacedUnit) : Bool :=
  units.any fun u => !u.2.generatedDeclarations.isEmpty

/-- The templates of C#: one file for the units that have output of their own. In the layout by
module there is a file even where nothing is generated. -/
def csharpTemplates (layout : Layout) (units : List PlacedUnit) (context : GenerationContext) :
    List Template :=
  let units := units.filter (·.2.isEligible)
  if layout = .singleFile || showsSomething units then
    [Template.make Template.CSharp.form (positions units) context]
  else []

/-- Bindings for C#, one file for every unit or for every module. -/
def csharp : Backend where
  name := "CSharpGenerator"
  target := .csharp
  extension := "cs"
  supportsSingleFile := true
  passes := [.ignoreUnnamed, .renameReserved Keywords.csharp]
  setupSucceeds := true
  templates := csharpTemplates
  printer := CType.csharp

/-- The templates of C++/CLI: a header and a source, if anything is generated. -/
def cppCliTemplates (_ : Layout) (units : List PlacedUnit) (context : GenerationContext) :
    List Template :=
  if showsSomething units then
    [Template.make Template.CppCli.header (positions units) context,
      Template.make Template.CppCli.source (positions units) context]
  else []

/-- Managed wrappers in C++/CLI, a header and a source for every unit. -/
def cppCli : Backend where
  name := "CLIGenerator"
  target := .cppCli
  extension := "h"
  supportsSingleFile := false
  passes := [.ignoreUnnamed, .renameReserved Keywords.cppCli]
  setupSucceeds := true
  templates := cppCliTemplates
  printer := CType.cppCli

end Backend

/-- The backends at hand, by target language. -/
abbrev BackendTable := List (Target × Option Backend)

namespace BackendTable

/-- The shipped backends. -/
def shipped : BackendTable := [(.cppCli, some .cppCli), (.csharp, some .csharp)]

/-- Put another backend, or none, in the place of a target language. -/
def register (target : Target) (backend : Option Backend) : BackendTable → BackendTable
  | [] => [(target, backend)]
  | entry :: rest =>
    if entry.1 = target then (target, backend) :: rest
    else entry :: BackendTable.register target backend rest

/-- The backend for a target language. -/
def find? (table : BackendTable) (target : Target) : Option Backend :=
  (table.lookup target).bind id

/-- The words for the target languages of a table. -/
def words (table : BackendTable) : List String := table.map (·.1.word)

end BackendTable

end Interop
