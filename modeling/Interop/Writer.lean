import Interop.Session

/-!
# Writing outputs

The templates of an output become files of one directory: the stem of the unit's file, the suffix
and the extension of the template make up the name. Files are written one after the other, and a
file that was opened stays, empty, if its text turns out not to be there or not to be writable.
-/

namespace Interop.Writer

/-- The name of a template's file. -/
def fileName (unit : SourceUnit) (t : Template) : String :=
  unit.fileStem ++ t.form.suffix ++ "." ++ t.form.extension

/-- The path of a template's file in a directory. -/
def pathFor (directory : Path) (unit : SourceUnit) (t : Template) : Path :=
  directory.join (.ofString (fileName unit t))

/-- Write one template. -/
def writeTemplate (directory : Path) (unit : SourceUnit) (t : Template) : Action Path := do
  let path := pathFor directory unit t
  let s ← Action.get
  let (files, place) ← Action.ofExcept .file (s.files.placeFor (s.workingDirectory.join path))
  Action.modify fun s => { s with files := files.setContent place "" }
  let text ← Action.ofExcept .template t.text
  Action.ofExcept .file (FileTree.checkContent text)
  Action.modify fun s => { s with files := s.files.setContent place text }
  Action.log ⟨.info, "Generated file: " ++ path.toString⟩
  return path

/-- Write templates in order. -/
def writeTemplates (directory : Path) (unit : SourceUnit) : List Template → Action (List Path)
  | [] => return []
  | t :: more => do
    let path ← writeTemplate directory unit t
    let paths ← writeTemplates directory unit more
    return path :: paths

/-- Write an output, and count its files as written once all of them are. -/
def write (directory : Path) (output : Output) : Action (List Path) := do
  let paths ← writeTemplates directory output.unit output.templates
  Action.modify fun s => { s with written := s.written ++ paths }
  return paths

end Interop.Writer
