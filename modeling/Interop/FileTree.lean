import Interop.Path
import Interop.Text.Half

/-!
# File trees

The files and directories that a program can see, as data. A place is the list of the names that
lead to it from the root; the root is always a directory. Walking along a path goes through
directories only, and writing a file never touches another one. There are no links, by which two
places could be one file, and every file is a text; a file whose bytes are not those of a text
cannot be expressed.
-/

namespace Interop

/-- Files and directories. -/
structure FileTree where
  /-- The places of directories, the root aside. -/
  directories : List (List String)
  /-- The places of files with their contents. -/
  files : List (List String × String)
deriving DecidableEq, Repr

/-- Why a file cannot be written. -/
inductive FileFault where
  /-- A file stands where a directory is needed on the way. -/
  | notDirectory
  /-- A file stands where a directory is to be made. -/
  | exists
  /-- A directory stands where a file is to be written. -/
  | isDirectory
  /-- A name is too long. -/
  | nameTooLong
  /-- A path holds the character that ends paths. -/
  | nullCharacter
  /-- A path or a text holds half of a character. -/
  | halfCharacter
deriving DecidableEq, Repr

namespace FileTree

/-- Only the root. -/
def empty : FileTree := ⟨[], []⟩

/-- Whether a place is a directory. -/
def isDirectoryAt (t : FileTree) (place : List String) : Bool :=
  place.isEmpty || t.directories.contains place

/-- The content of the file at a place. -/
def contentAt? (t : FileTree) (place : List String) : Option String := t.files.lookup place

/-- The place to which the names of a path lead. -/
def walk (t : FileTree) (here : List String) : List String → Option (List String)
  | [] => some here
  | name :: rest =>
    if t.isDirectoryAt here then
      if name = ".." then t.walk here.dropLast rest else t.walk (here ++ [name]) rest
    else none

/-- The content of the file that an absolute path leads to. -/
def read? (t : FileTree) (p : Path) : Option String :=
  (t.walk [] p.segments).bind t.contentAt?

/-- Longest name, in bytes. -/
def nameLimit : Nat := 255

/-- Whether a text can be that of a path. -/
def checkPath (path : String) : Except FileFault Unit :=
  if !Text.Half.isName path then .error .halfCharacter
  else if path.toList.contains (Char.ofNat 0) then .error .nullCharacter
  else .ok ()

/-- The length of a name, in bytes. -/
def nameSize (name : String) : Nat :=
  name.toList.foldl (fun size c => size + if (Text.Half.code? c).isSome then 1 else c.utf8Size) 0

/-- Whether a name can be that of a file or directory. -/
def checkName (name : String) : Except FileFault Unit :=
  if nameSize name > nameLimit then .error .nameTooLong else .ok ()

/-- Whether a text can be the content of a file. A text with one of the private characters that
stand in for halves is refused like a text with that half, though the character could be written;
such texts are left out. -/
def checkContent (content : String) : Except FileFault Unit :=
  if Text.Half.isWritable content then .ok () else .error .halfCharacter

/-- Make the directories that a path needs and give the place it leads to. -/
def enter (t : FileTree) (here : List String) :
    List String → Except FileFault (FileTree × List String)
  | [] => .ok (t, here)
  | name :: rest =>
    if name = ".." then t.enter here.dropLast rest
    else
      let next := here ++ [name]
      if t.isDirectoryAt next then t.enter next rest
      else if (t.contentAt? next).isSome then
        .error (if rest.isEmpty then .exists else .notDirectory)
      else
        match checkName name with
        | .ok () => enter { t with directories := t.directories ++ [next] } next rest
        | .error fault => .error fault

/-- Set the content of the file at a place. -/
def setContent (t : FileTree) (place : List String) (content : String) : FileTree :=
  { t with files := (t.files.filter (·.1 != place)) ++ [(place, content)] }

/-- A file that was written holds what was written. -/
theorem contentAt?_setContent (t : FileTree) (place : List String) (content : String) :
    (t.setContent place content).contentAt? place = some content := by
  have key : ∀ l : List (List String × String),
      ((l.filter (·.1 != place)) ++ [(place, content)]).lookup place = some content := by
    intro l
    induction l with
    | nil => simp
    | cons entry rest ih =>
      rw [List.filter_cons]
      split
      · rename_i h
        have hne : (place == entry.1) = false := by
          simp only [bne_iff_ne, ne_eq] at h
          simpa using fun e => h e.symm
        rw [List.cons_append, List.lookup_cons, hne]
        exact ih
      · exact ih
  exact key t.files

/-- The place of the file that an absolute path names, with the directories on the way made. -/
def placeFor (t : FileTree) (p : Path) : Except FileFault (FileTree × List String) := do
  checkPath p.parent.toString
  let (t, here) ← t.enter [] p.segments.dropLast
  checkPath p.toString
  match p.segments.getLast? with
  | none => .error .isDirectory
  | some name =>
    if name = ".." then .error .isDirectory
    else
      let place := here ++ [name]
      if t.isDirectoryAt place then .error .isDirectory
      else
        checkName name
        return (t, place)

end FileTree

/-- Files and directories, seen from one of the directories. -/
structure Workspace where
  /-- The files and directories. -/
  files : FileTree
  /-- The directory that relative paths start from. -/
  directory : Path
deriving DecidableEq, Repr

/-- The content of the file that a path leads to. -/
def Workspace.read? (w : Workspace) (p : Path) : Option String :=
  w.files.read? (w.directory.join p)

end Interop
