import Interop.Configuration.Schema
import Interop.FileTree
import Interop.Yaml.Datum

/-!
# Loading configurations

A configuration is read from a file, overridden by what the command line says, checked, and fixed in
place: its output directory becomes an absolute path, and its base directory is where the file lies.
A relative output directory starts from the file that names it, and otherwise from the working
directory.
-/

namespace Interop.Configuration

/-- The fault of a configuration file. -/
def fileFault (path message : String) : Fault :=
  .configuration message { configFile := .str path }

/-- The mapping that a datum from a configuration file is; an empty file stands for an empty
mapping. -/
def mapping (path : String) (content : Value) : Logged (List (Scalar × Value)) :=
  match content.opened with
  | .null => pure []
  | .dict entries => do
    Logged.log [⟨.debug, "Loaded configuration from " ++ path⟩]
    return entries
  | other => .fail (fileFault path ("Content of config file " ++ path ++
      " must be a mapping, got " ++ other.typeName))

/-- The mapping in a configuration file. -/
def fileEntries (w : Workspace) (path : String) : Logged (List (Scalar × Value)) :=
  match w.read? (.ofString path) with
  | none => .fail (fileFault path ("Config file not found at " ++ path))
  | some content =>
    match Yaml.read content with
    | .ok v => mapping path v
    | .error .unreadable =>
      .fail (fileFault path ("Error parsing YAML file " ++ path ++ ": <yaml error>"))
    | .error fault => .fail (.reading fault)

/-- The directory in which a file lies, as an absolute path. -/
def homeOf (w : Workspace) (path : String) : Path := (w.directory.resolve (.ofString path)).parent

/-- The entries of a configuration file with the output directory seen from where the file lies. -/
def settle (w : Workspace) (path : String) (entries : List (Scalar × Value)) :
    List (Scalar × Value) :=
  match Value.lookup "output_dir" entries with
  | some (.str s) =>
    if s.isEmpty || (Path.ofString s).isAbsolute then entries
    else
      Value.insert (.str "output_dir") (.str ((homeOf w path).join (.ofString s)).toString) entries
  | _ => entries

/-- The keys that the command line may override. -/
def overridable : List String :=
  ["generator_kind", "output_dir", "generate_single_csharp_file", "empty_output_policy", "base_dir"]

/-- Put the values that the command line gives in the place of those of the file. -/
def override (given entries : List (Scalar × Value)) : List (Scalar × Value) :=
  given.foldl (fun entries (key, value) =>
    match key, value with
    | _, .null => entries
    | .str name, value =>
      if overridable.contains name then Value.insert key value entries else entries
    | _, _ => entries) entries

/-- The absolute path of an output directory. The empty one stays empty. -/
def settledOutput (w : Workspace) (s : String) : Except FileFault String := do
  if s.isEmpty then return s
  let path := w.directory.join (.ofString s)
  for segment in path.segments do
    FileTree.checkPath segment
  return (w.directory.resolve path).toString

/-- A configuration with absolute directories. -/
def anchor (w : Workspace) (path : Option String) (c : Configuration) :
    Except Fault Configuration := do
  let output ← (c.outputDirectory.mapM (settledOutput w)).mapError .file
  return { c with
    outputDirectory := output
    baseDirectory := some (match path with
      | some path => (homeOf w path).toString
      | none => w.directory.toString) }

/-- Load a configuration. The empty path stands for no file. -/
def load (w : Workspace) (path : Option String) (given : List (Scalar × Value)) :
    Logged Configuration := do
  let file := path.filter (!·.isEmpty)
  let entries ← match file with
    | some path => settle w path <$> fileEntries w path
    | none => pure []
  Logged.log [⟨.info, "Validating final configuration..."⟩]
  let c ← validate (.dict (override given entries)) path
  let c ← Logged.ofExcept (anchor w file c)
  Logged.log [⟨.info, "Configuration loaded and validated successfully."⟩]
  return c

end Interop.Configuration
