import Interop.CType.Parser
import Interop.Report
import Interop.SourceUnit

/-!
# Unit descriptions

A unit description is a mapping that tells the path of a file and its declarations. Reading one
checks that every part is there and has a type that can be read, and reports the first defect in the
order of the description. Parts of a shape that cannot be walked at all are a fault of another kind.
-/

namespace Interop

/-- What is wrong with a unit description. -/
inductive DescriptionDefect where
  /-- Something else than a mapping stands where a unit or a declaration is described. -/
  | notMapping (part : String) (given : Value)
  /-- A key is missing, or has no value. -/
  | missingKey (key : String) (part : Value)
  /-- A type is missing. -/
  | missingType (key : String) (part : Value)
  /-- A type cannot be read. -/
  | spelling (fault : CType.SpellingFault)
  /-- A type is a whole number that is too long to be written. -/
  | longSpelling
  /-- A declaration is of no known kind. -/
  | unknownKind (kind : Value)
  /-- The file of a description is not there. -/
  | noFile (path : String)
  /-- The file of a description cannot be read as a datum. -/
  | unreadable (path : String)

/-- Why a description cannot be read. -/
inductive DescriptionFault where
  /-- A defect of a description that comes from some place. -/
  | defect (defect : DescriptionDefect) (source : String)
  /-- A part has a shape that cannot be walked. -/
  | malformed
  /-- A part has no text, since a whole number in it is too long. -/
  | longNumber

/-- The text of a defect. -/
def DescriptionDefect.message : DescriptionDefect → String
  | notMapping part given => part ++ " must be a mapping, got " ++ given.typeName
  | missingKey key part => "Missing required key '" ++ key ++ "' in " ++ part.quoted
  | missingType key part => "Missing type '" ++ key ++ "' in " ++ part.quoted
  | spelling fault => fault.message
  | longSpelling => Text.Digit.longMessage
  | unknownKind kind => "Unknown declaration kind '" ++ kind.text ++ "'"
  | noFile path => "Unit description not found: " ++ path
  | unreadable path => "Error parsing YAML file " ++ path ++ ": <yaml error>"

/-- The report on a defect. -/
def DescriptionDefect.report (d : DescriptionDefect) (source : String) : Report :=
  .make .description d.message { source := .str source }

namespace Description

/-- Read from a description that comes from a known place. -/
abbrev Reader (α : Type) := Except DescriptionFault α

/-- Report a defect. -/
def refuse {α : Type} (source : String) (d : DescriptionDefect) : Reader α :=
  .error (.defect d source)

/-- Whether a text holds another one. -/
def containsText (part : List Char) : List Char → Bool
  | [] => part.isEmpty
  | c :: rest => part.isPrefixOf (c :: rest) || containsText part rest

/-- Whether a list holds a string. -/
def containsString (s : String) (items : List Value) : Bool :=
  items.any fun item => item.str? == some s

/-- Report a defect that shows a part. -/
def refuseShowing {α : Type} (source : String) (part : Value) (d : DescriptionDefect) : Reader α :=
  if part.hasText then refuse source d else .error .longNumber

/-- The text of a part. -/
def textOf (part : Value) : Reader String :=
  match part.text? with
  | some text => .ok text
  | none => .error .longNumber

/-- Whether a part holds a key, if it can be asked: a list among its items, a set among its members,
a text among its parts. -/
def holds? (key : String) (part : Value) : Option Bool :=
  match part with
  | .list items => some (containsString key items)
  | .dict entries => some (Value.lookup key entries).isSome
  | .set members => some (members.any (·.sameKey (.str key)))
  | .pair a b => some (containsString key [a, b])
  | .str s => some (containsText key.toList s.toList)
  | _ => none

/-- The value of a key that must be there and not be empty. Anything but a mapping that holds the
key cannot be asked for its value. -/
def required (source key : String) (part : Value) : Reader Value :=
  match part.opened with
  | .dict entries =>
    match Value.lookup key entries with
    | none | some .null | some (.str "") => refuseShowing source part (.missingKey key part)
    | some value => .ok value
  | other =>
    if holds? key other = some false then refuseShowing source part (.missingKey key part)
    else .error .malformed

/-- The items of a part that may be left out: whatever can be taken out of it one after the other. A
part that counts as false has none. -/
def items (part : Option Value) : Reader (List Value) :=
  match part with
  | none => .ok []
  | some part =>
    if part.isTruthy then
      match part.elements? with
      | some items => .ok items
      | none => .error .malformed
    else .ok []

/-- The type at a key of a mapping. -/
def typeAt (source key : String) (fallback : Option Value) (whole : Value)
    (entries : List (Scalar × Value)) : Reader CType :=
  match (Value.lookup key entries).or fallback with
  | none | some .null => refuseShowing source whole (.missingType key whole)
  | some spelling =>
    match spelling.text? with
    | none => refuse source .longSpelling
    | some text =>
      match CType.parse text with
      | .ok type => .ok type
      | .error fault => refuse source (.spelling fault)

/-- A field or parameter: a name and a type. -/
def member (source : String) (part : Value) : Reader Member := do
  let name ← required source "name" part
  match part.opened with
  | .dict entries =>
    return { Label.named name true with type := ← typeAt source "type" none part entries }
  | _ => .error .malformed

/-- A truth value at a key. -/
def flag (key : String) (fallback : Bool) (entries : List (Scalar × Value)) : Bool :=
  ((Value.lookup key entries).map (·.isTruthy)).getD fallback

/-- The name of a declaration, empty if there is none. -/
def nameOf (entries : List (Scalar × Value)) : Value :=
  match Value.lookup "name" entries with
  | some name => if name.isTruthy then name else .str ""
  | none => .str ""

/-- What a declaration of a kind declares. -/
def body (source : String) (kind whole : Value) (entries : List (Scalar × Value)) : Reader Body :=
  match kind with
  | .str "class" => fields false
  | .str "struct" => fields true
  | .str "function" => do
    let result ← typeAt source "return_type" (some (.str Primitive.void.spelling)) whole entries
    let parameters ← (← items (Value.lookup "parameters" entries)).mapM (member source)
    return .function result parameters
  | .str "enum" => do
    return .enumeration (← (← items (Value.lookup "items" entries)).mapM textOf)
  | other => refuseShowing source other (.unknownKind other)
where
  /-- A class or struct with its fields. -/
  fields (isStruct : Bool) : Reader Body := do
    return .record isStruct (← (← items (Value.lookup "fields" entries)).mapM (member source))

/-- A declaration. -/
def declaration (source : String) (part : Value) : Reader Declaration :=
  match part.opened with
  | .dict entries => do
    let kind ← required source "kind" part
    let body ← body source kind part entries
    return { Label.named (nameOf entries) (flag "generate" true entries) with body := body }
  | other => refuse source (.notMapping "Declaration" other)

/-- A unit without an owner. -/
def unit (source : String) (part : Value) : Reader SourceUnit :=
  match part.opened with
  | .dict entries => do
    let filePath ← textOf (← required source "file_path" part)
    let declarations ← (← items (Value.lookup "declarations" entries)).mapM (declaration source)
    return {
      filePath := filePath
      owner := none
      declarations := declarations
      isGenerated := flag "is_generated" true entries
      isSystemHeader := flag "is_system_header" false entries
      isValid := flag "is_valid" true entries
      isSynthetic := false }
  | other => refuse source (.notMapping "Unit description" other)

end Description

end Interop
