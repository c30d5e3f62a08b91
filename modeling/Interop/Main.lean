import Interop.Command
import Interop.Log.Console

/-!
# The program

The files that the command may look at are taken into a file tree, the command is run on the tree,
and what it made or changed there is written back. Records go to the standard error.
-/

namespace Interop.Command

/-- The text of a place. -/
def placeText (place : List String) : String := "/" ++ "/".intercalate place

/-- Take over what is found along an absolute path: directories, and a file at its end. -/
def observe (t : FileTree) (p : Path) : IO FileTree := do
  let here ← IO.currentDir
  let mut t := t
  let mut place : List String := []
  for name in p.segments do
    if name = ".." then
      place := place.dropLast
    else
      place := place ++ [name]
      let found := here / placeText place
      if ← found.isDir then
        t := { t with directories := t.directories ++ [place] }
      else if ← found.pathExists then
        t := t.setContent place (← IO.FS.readFile found)
  return t

/-- Take over the directories in a directory. -/
def observeDirectories (t : FileTree) (p : Path) : IO FileTree := do
  let here ← IO.currentDir
  let directory := here / p.toString
  let mut t := t
  if ← directory.isDir then
    for entry in ← directory.readDir do
      if ← entry.path.isDir then
        t := { t with directories := t.directories ++ [p.segments ++ [entry.fileName]] }
  return t

/-- The paths of the files that describe the units of a configuration. -/
def unitPaths (w : Workspace) (c : Configuration) : List Path :=
  c.modules.flatMap fun m => m.units.filterMap fun
    | .file path => some (w.directory.join ((Program.baseOf w c).join (.ofString path)))
    | .inline _ => none

/-- The files and directories that a command line is about. -/
def workspace (words : List String) : IO Workspace := do
  let directory := Path.ofString (← IO.currentDir).toString
  let mut t ← observe .empty directory
  match CommandLine.parse words with
  | .error _ => return ⟨t, directory⟩
  | .ok a =>
    match a.config with
    | .value path => t ← observe t (directory.join (.ofString path))
    | .nothing => pure ()
    match (Configuration.load ⟨t, directory⟩ a.config.value? (CommandLine.overrides a)).outcome with
    | .error _ => return ⟨t, directory⟩
    | .ok c =>
      for path in unitPaths ⟨t, directory⟩ c do
        t ← observe t path
      match c.options.outputDirectory with
      | some output =>
        t ← observe t (.ofString output)
        t ← observeDirectories t (.ofString output)
      | none => pure ()
      return ⟨t, directory⟩

/-- Write what stands in a tree and not in the one before. -/
def writeBack (before after : FileTree) : IO Unit := do
  for place in after.directories do
    unless before.directories.contains place do
      IO.FS.createDirAll (placeText place)
  for (place, content) in after.files do
    unless before.files.contains (place, content) do
      IO.FS.writeFile (placeText place) content

/-- How the command is called. -/
def usage : String :=
  "usage: " ++ name ++ " [-h] -c CONFIG [-o OUTPUT_DIR] [-k \x7bcli,csharp\x7d] [--single-file] " ++
    "[-v] [--no-color]"

/-- Run the command on the files of the machine. -/
def runProgram (words : List String) : IO UInt32 := do
  let w ← workspace words
  let outcome := run w words
  writeBack w.files outcome.files
  let error ← IO.getStderr
  match CommandLine.parse words with
  | .error .help => IO.println usage
  | .error (.usage _) =>
    error.putStrLn usage
    error.putStrLn (outcome.complaint.getD "")
  | .ok a =>
    let colours := !a.isPlain && (← error.isTty)
    match Log.shown ⟨Log.usualFormat, colours⟩ .debug outcome.records with
    | .ok text => error.putStr text
    | .error fault => error.putStrLn fault.message
  return UInt32.ofNat outcome.exitCode

end Interop.Command

/-- The entry point. -/
def main (words : List String) : IO UInt32 := Interop.Command.runProgram words
