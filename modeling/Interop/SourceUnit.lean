import Interop.Declaration
import Interop.Path

/-!
# Source units and libraries

A source unit is one file of a native program with its declarations. A library is what the units of
a module are linked into; it has a name and may have a namespace for its generated code.
-/

namespace Interop

/-- The identity of a module: the native library and the namespace of its generated code. -/
structure Library where
  /-- The name of the native library. -/
  name : String
  /-- The namespace of the generated code, if one was given. -/
  outputNamespace : Option String
deriving DecidableEq, Repr

/-- Why there is no library. -/
inductive LibraryFault where
  /-- The name is empty. -/
  | noName
deriving DecidableEq, Repr

/-- The text of a fault. -/
def LibraryFault.message : LibraryFault → String
  | noName => "Module library_name cannot be empty"

namespace Library

/-- A library with a name that is not empty. -/
def create (name : String) (outputNamespace : Option String) : Except LibraryFault Library :=
  if name.isEmpty then .error .noName else .ok ⟨name, outputNamespace⟩

/-- The namespace, empty if there is none. -/
def namespaceText (l : Library) : String := l.outputNamespace.getD ""

/-- Whether there is a namespace that is not empty. -/
def hasNamespace (l : Library) : Bool := !l.namespaceText.isEmpty

/-- The name that stands for the library in file names: its namespace, or its own name. -/
def baseName (l : Library) : String := if l.hasNamespace then l.namespaceText else l.name

/-- The name of the one file that holds all generated code of a library. -/
def outputFileName (l : Library) (extension : String) : String := l.baseName ++ "." ++ extension

end Library

/-- One file of a native program. -/
structure SourceUnit where
  /-- The path of the file, as its description gives it. -/
  filePath : String
  /-- The library whose module lists the unit. -/
  owner : Option Library
  /-- The declarations in the order of the file. -/
  declarations : List Declaration
  /-- Whether code is generated for the unit. -/
  isGenerated : Bool
  /-- Whether the file belongs to the system. -/
  isSystemHeader : Bool
  /-- Whether the file could be read without errors. -/
  isValid : Bool
  /-- Whether the unit stands for all files of a module. -/
  isSynthetic : Bool

namespace SourceUnit

/-- A unit that stands for all files of a module. -/
def synthetic (filePath : String) (owner : Library) : SourceUnit :=
  ⟨filePath, some owner, [], true, false, true, true⟩

/-- The base name of the file. -/
def fileName (u : SourceUnit) : String := String.ofList (Path.baseName u.filePath.toList)

/-- The base name of the file without its extension. -/
def fileStem (u : SourceUnit) : String :=
  String.ofList (Path.stem (Path.baseName u.filePath.toList))

/-- The directory of the file. -/
def includeDirectory (u : SourceUnit) : String := String.ofList (Path.directory u.filePath.toList)

/-- The declarations that generated code shows. -/
def generatedDeclarations (u : SourceUnit) : List Declaration :=
  u.declarations.filter (·.isGenerated)

/-- Whether a unit has output of its own: it is generated, declares something, and is a valid file
of the program itself. -/
def isEligible (u : SourceUnit) : Bool :=
  u.isGenerated && !u.declarations.isEmpty && !u.isSystemHeader && u.isValid

/-- A text without a value is written as the word for nothing. -/
def quotedOption (s : Option String) : String := (s.map Text.Quoted.quoted).getD "None"

/-- A short description of a unit. -/
def describe (u : SourceUnit) : String :=
  "TranslationUnit(file_path=" ++ Text.Quoted.quoted u.filePath ++ ", module=" ++
    quotedOption (u.owner.map (·.name)) ++ ")"

end SourceUnit

end Interop
