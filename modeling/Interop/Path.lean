import Interop.Text.Split

/-!
# Paths

Two views of a path. As a text, a path has a base name, a directory and the base name's stem; these
functions cut the text and change nothing else. As a `Path`, it is a root and a list of segments,
without empty segments and without segments that stand for the same directory, so that paths can be
joined and resolved.
-/

namespace Interop

/-- A path taken apart. -/
structure Path where
  /-- The slashes in front: none for a relative path, one for an absolute one; exactly two are
  kept. -/
  slashes : Nat
  /-- The segments between slashes, neither empty nor a single dot. -/
  segments : List String
deriving DecidableEq, Repr

namespace Path

/-- The text after the last slash. -/
def baseName (cs : List Char) : List Char := (cs.reverse.takeWhile (· != '/')).reverse

/-- A base name holds no slash. -/
theorem not_mem_baseName (cs : List Char) : '/' ∉ baseName cs := by
  intro h
  have := List.all_eq_true.1 (List.all_takeWhile (l := cs.reverse) (p := (· != '/'))) _
    (List.mem_reverse.1 h)
  simp at this

/-- The text up to the last slash, without the slashes at its end unless there is nothing else. -/
def directory (cs : List Char) : List Char :=
  let head := cs.reverse.dropWhile (· != '/')
  match head.dropWhile (· == '/') with
  | [] => head.reverse
  | trimmed => trimmed.reverse

/-- A base name without its extension: the text before the last dot, unless only dots stand
there. -/
def stem (name : List Char) : List Char :=
  match name.reverse.dropWhile (· != '.') with
  | [] => name
  | _ :: before => if before.all (· == '.') then name else before.reverse

/-- Take a path text apart. -/
def ofString (s : String) : Path :=
  let cs := s.toList
  let lead := (cs.takeWhile (· == '/')).length
  let parts := (Text.Split.pieces (· == '/') cs).filter fun part => part != [] && part != ['.']
  ⟨if lead = 2 then 2 else min lead 1, parts.map String.ofList⟩

/-- The text of a path: a single dot if there is nothing else to show. -/
def toString (p : Path) : String :=
  if p.slashes = 0 && p.segments.isEmpty then "."
  else String.ofList (List.replicate p.slashes '/') ++ "/".intercalate p.segments

instance : ToString Path := ⟨toString⟩

/-- Whether a path starts at the root. -/
def isAbsolute (p : Path) : Bool := p.slashes != 0

/-- A path seen from a directory: an absolute path stays as it is. -/
def join (base p : Path) : Path :=
  if p.isAbsolute then p else { base with segments := base.segments ++ p.segments }

/-- Joining an absolute path forgets the directory. -/
theorem join_of_isAbsolute {base p : Path} (h : p.isAbsolute = true) : base.join p = p := by
  simp [join, h]

/-- The directory of a path: the path without its last segment. -/
def parent (p : Path) : Path := { p with segments := p.segments.dropLast }

/-- Segments without the ones that step back to the directory above. -/
def collapse (segments : List String) : List String :=
  (segments.foldl (fun done segment =>
    if segment = ".." then done.tail else segment :: done) []).reverse

/-- The absolute path that a path means in a working directory. -/
def resolve (workingDirectory p : Path) : Path :=
  ⟨1, collapse (workingDirectory.join p).segments⟩

end Path

end Interop
