import Interop.Template.CSharp
import Interop.Template.CppCli
import Interop.Text.Split

/-!
# Stored template texts

The texts of the shipped forms are stored under file names. A form may refer to a stored text by a
path; empty segments and segments for the same directory do not count, and a step to the directory
above is refused.
-/

namespace Interop.Template.Stored

/-- The directory of the stored texts, as messages show it. -/
def directory : String := "<templates>"

/-- The segments of a path that count. -/
def segments (path : String) : List String :=
  ((Text.Split.pieces (· == '/') path.toList).filter fun s => s != [] && s != ['.']).map
    String.ofList

/-- The stored text with a name, for forms with a suffix. -/
def text? (suffix name : String) :
    Option (List SourceUnit → GenerationContext → Except RenderFault String) :=
  if name = CSharp.fileName then some CSharp.text
  else if name = CppCli.headerFileName then some CppCli.headerText
  else if name = CppCli.sourceFileName then some (CppCli.sourceText suffix)
  else none

/-- Render the stored text at a path. -/
def render (suffix path : String) (units : List SourceUnit) (context : GenerationContext) :
    Except RenderFault String :=
  let found := segments path
  if found.contains ".." then .error (.noFile path path)
  else
    match found with
    | [name] =>
      match text? suffix name with
      | some text => text units context
      | none => .error (.noFile path (missing path))
    | _ => .error (.noFile path (missing path))
where
  /-- Why there is no text at a path. -/
  missing (path : String) : String :=
    Text.Quoted.quoted path ++ " not found in search path: " ++ Text.Quoted.quoted directory

/-- A form that refers to a stored text by its path. -/
def form (name path : String) : TemplateForm := ⟨name, "", "", render "" path⟩

end Interop.Template.Stored
