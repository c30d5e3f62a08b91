import Interop.Configuration
import Interop.Identifier
import Interop.Logged
import Interop.Text.Half

/-!
# The schema of configurations

A configuration is read from a mapping. Every part of the mapping is checked, and all problems are
reported together, in the order of the schema; each problem tells the place where it was found. Keys
that the schema does not know are left alone. A name that two modules share is looked for only
among modules that have no other problem. A problem whose text cannot be written ends the check.
-/

namespace Interop.Configuration

/-- What is wrong with a part of a configuration. -/
inductive Complaint where
  /-- A part is missing. -/
  | required
  /-- A part is not a list. -/
  | notList
  /-- A part is not a string. -/
  | notString
  /-- A part is not a string of whole characters. -/
  | notWhole
  /-- A part is not a mapping. -/
  | notMapping
  /-- A part that has a schema is not a mapping. -/
  | notRecord (schema : String)
  /-- A list is empty. -/
  | emptyList
  /-- A string is empty. -/
  | emptyString
  /-- A value is not the word for a target language. -/
  | notTarget
  /-- A value is not the word for a policy. -/
  | notPolicy
  /-- A value of a type that has no truth values. -/
  | notBoolean
  /-- A value of a type in which truth values are written, but not one of them. -/
  | unclearBoolean
  /-- A string is no namespace. -/
  | notNamespace (given : String)
  /-- Two modules share a name. -/
  | duplicate (name : String)
deriving DecidableEq, Repr

/-- The text of a complaint. -/
def Complaint.message : Complaint → String
  | required => "Field required"
  | notList => "Input should be a valid list"
  | notString => "Input should be a valid string"
  | notWhole => "Input should be a valid string, unable to parse raw data as a unicode string"
  | notMapping => "Input should be a valid dictionary"
  | notRecord schema => "Input should be a valid dictionary or instance of " ++ schema
  | emptyList => "List should have at least 1 item after validation, not 0"
  | emptyString => "String should have at least 1 character"
  | notTarget => "Input should be 'cli' or 'csharp'"
  | notPolicy => "Input should be 'stop', 'skip' or 'raise'"
  | notBoolean => "Input should be a valid boolean"
  | unclearBoolean => "Input should be a valid boolean, unable to interpret input"
  | notNamespace given => "Value error, '" ++ given ++ "' is not a valid dotted namespace."
  | duplicate name => "Value error, Duplicate module library_name '" ++ name ++ "'."

/-- A complaint with the place it is about. -/
structure Problem where
  /-- The keys and positions that lead to the place from the whole configuration. -/
  place : List String
  /-- What is wrong there. -/
  complaint : Complaint
deriving DecidableEq, Repr

/-- The text of a problem. -/
def Problem.text (p : Problem) : String :=
  (if p.place.isEmpty then "Model Level" else " -> ".intercalate p.place) ++ ": " ++
    p.complaint.message

/-- A checked part, or all problems with it. -/
abbrev Check (α : Type) := Except (List Problem) α

namespace Check

variable {α β : Type}

/-- A part with one problem. -/
def refuse (place : List String) (complaint : Complaint) : Check α := .error [⟨place, complaint⟩]

/-- Both parts, with the problems of both. -/
def both : Check α → Check β → Check (α × β)
  | .ok a, .ok b => .ok (a, b)
  | .ok _, .error q => .error q
  | .error p, .ok _ => .error p
  | .error p, .error q => .error (p ++ q)

/-- Both parts are sound if and only if each is. -/
theorem both_eq_ok_iff {p : Check α} {q : Check β} {a : α} {b : β} :
    both p q = .ok (a, b) ↔ p = .ok a ∧ q = .ok b := by
  cases p <;> cases q <;> simp [both]

/-- All parts of a list, numbered from a first position, with the problems of all. -/
def each (check : Nat → α → Check β) (first : Nat) : List α → Check (List β)
  | [] => .ok []
  | a :: rest =>
    (both (check first a) (each check (first + 1) rest)).map fun (b, bs) => b :: bs

end Check

/-- A string, or bytes that write one. -/
def readText (v : Value) : Except Complaint String :=
  match v with
  | .str s => .ok s
  | .scalar (.bytes octets) =>
    match String.fromUTF8? ⟨octets.toArray⟩ with
    | some s => .ok s
    | none => .error .notWhole
  | _ => .error .notString

/-- A string, if it is one of whole characters. -/
def whole (s : String) : Except Complaint String :=
  if Text.Half.isWritable s then .ok s else .error .notWhole

/-- A result, or a complaint at a place. -/
def complainAt {α : Type} (place : List String) : Except Complaint α → Check α
  | .ok a => .ok a
  | .error complaint => .refuse place complaint

/-- A word of a vocabulary. -/
def readWord {α : Type} (find : String → Option α) (complaint : Complaint) (v : Value) :
    Except Complaint α :=
  match v.str? with
  | some s => do
    match find (← whole s) with
    | some a => .ok a
    | none => .error complaint
  | none => .error complaint

/-- A target language. -/
def checkTarget (place : List String) (v : Value) : Check Target :=
  complainAt place (readWord Target.ofWord? .notTarget v)

/-- A policy. -/
def checkPolicy (place : List String) (v : Value) : Check EmptyPolicy :=
  complainAt place (readWord EmptyPolicy.ofWord? .notPolicy v)

/-- A string or nothing. -/
def checkText (place : List String) : Value → Check (Option String)
  | .null => .ok none
  | v => complainAt place (some <$> readText v)

/-- The words for true, in small letters. -/
def yesWords : List String := ["1", "true", "t", "yes", "y", "on"]

/-- The words for false, in small letters. -/
def noWords : List String := ["0", "false", "f", "no", "n", "off"]

/-- A text with its unaccented letters made small. -/
def smallLetters (s : String) : String := String.ofList (s.toList.map Char.toLower)

/-- The truth value that a word stands for, whatever the size of its letters. -/
def truthOfWord? (s : String) : Option Bool :=
  if yesWords.contains (smallLetters s) then some true
  else if noWords.contains (smallLetters s) then some false
  else none

/-- The truth value that a whole number stands for. -/
def truthOfInt? (n : Int) : Option Bool :=
  if n = 1 then some true else if n = 0 then some false else none

/-- Whole numbers from here on are too large to stand for anything. -/
def wordLimit : Int := Nat.pow 2 63

/-- The whole number that a floating-point number is, unless it is too large. -/
def wholeOfFloat? (x : Float) : Option Int :=
  match (Scalar.float x).fraction? with
  | some (p, q) =>
    if p % q = 0 && -wordLimit < p / q && p / q < wordLimit then some (p / q) else none
  | none => none

/-- A truth value, or a word or number that stands for one. -/
def readBool (v : Value) : Except Complaint Bool :=
  match v with
  | .bool b => .ok b
  | .str s => do orUnclear (truthOfWord? (← whole s))
  | .scalar (.bytes octets) => orUnclear ((String.fromUTF8? ⟨octets.toArray⟩).bind truthOfWord?)
  | .int n =>
    if -wordLimit ≤ n && n < wordLimit then orUnclear (truthOfInt? n) else .error .notBoolean
  | .float x =>
    match wholeOfFloat? x with
    | some n => orUnclear (truthOfInt? n)
    | none => .error .notBoolean
  | _ => .error .notBoolean
where
  /-- A truth value that may be unclear. -/
  orUnclear : Option Bool → Except Complaint Bool
    | some b => .ok b
    | none => .error .unclearBoolean

/-- A truth value, however it is written. -/
def checkBool (place : List String) (v : Value) : Check Bool := complainAt place (readBool v)

/-- The name of a library. -/
def readName (v : Value) : Except Complaint String := do
  let s ← whole (← readText v)
  if s.isEmpty then .error .emptyString else .ok s

/-- The name of a library, which must be there. -/
def checkName (place : List String) : Option Value → Check String
  | none => .refuse place .required
  | some v => complainAt place (readName v)

/-- A namespace or nothing; an empty one is nothing. -/
def readNamespace (v : Value) : Except Complaint (Option String) := do
  let s ← readText v
  if s.isEmpty then return none
  else if Identifier.isNamespace s then return some s
  else .error (.notNamespace s)

/-- A namespace that may be left out. -/
def checkNamespace (place : List String) : Value → Check (Option String)
  | .null => .ok none
  | v => complainAt place (readNamespace v)

/-- The items of a part that stands for a list: a list, a set or a pair. -/
def listed? (v : Value) : Option (List Value) :=
  match v.opened with
  | .list _ | .set _ | .pair .. => v.elements?
  | _ => none

/-- How a key of a mapping appears in a place. -/
def keyLabel : Scalar → String
  | .str s => s
  | .bool b => if b then "1" else "0"
  | other => if other.hasText then other.quoted else "<unprintable int object>"

/-- The entries of an inline description: all keys must be strings. -/
def checkEntries (place : List String) (entries : List (Scalar × Value)) :
    Check (List (Scalar × Value)) := do
  let checkEntry (_ : Nat) (entry : Scalar × Value) : Check (Scalar × Value) := do
    let key ← complainAt (place ++ [keyLabel entry.1, "[key]"]) (readText (.scalar entry.1))
    return (.str key, entry.2)
  let entries ← Check.each checkEntry 0 entries
  return entries.foldl (fun entries (key, value) => Value.insert key value entries) []

/-- The description of a unit: a path, or a mapping with strings for keys. Anything else is refused
both as a path and as a mapping. -/
def checkUnit (place : List String) (v : Value) : Check UnitSource :=
  match readText v with
  | .ok s => .ok (.file s)
  | .error complaint =>
    let notPath : Problem := ⟨place ++ ["str"], complaint⟩
    let inside := place ++ ["dict[str,any]"]
    match v.opened with
    | .dict entries =>
      match checkEntries inside entries with
      | .ok entries => .ok (.inline entries)
      | .error problems => .error (notPath :: problems)
    | _ => .error [notPath, ⟨inside, .notMapping⟩]

/-- The descriptions of a module's units. -/
def checkUnits (place : List String) : Option Value → Check (List UnitSource)
  | none => .ok []
  | some v =>
    match listed? v with
    | some items => Check.each (fun n => checkUnit (place ++ [Nat.repr n])) 0 items
    | none => .refuse place .notList

/-- One module. -/
def checkModule (place : List String) (v : Value) : Check ModuleSettings :=
  match v.opened with
  | .dict entries =>
    let name := checkName (place ++ ["library_name"]) (Value.lookup "library_name" entries)
    let space := checkNamespace (place ++ ["output_namespace"])
      ((Value.lookup "output_namespace" entries).getD .null)
    let units := checkUnits (place ++ ["units"]) (Value.lookup "units" entries)
    (Check.both name (Check.both space units)).map fun (name, space, units) =>
      ⟨⟨name, space⟩, units⟩
  | _ => .refuse place (.notRecord "ModuleSettings")

/-- The modules: at least one. -/
def checkModules (place : List String) : Option Value → Check (List ModuleSettings)
  | none => .refuse place .required
  | some v =>
    match listed? v with
    | some [] => .refuse place .emptyList
    | some items => Check.each (fun n => checkModule (place ++ [Nat.repr n])) 0 items
    | none => .refuse place .notList

/-- A key of the schema that may be left out. -/
def optional {α : Type} (key : String) (entries : List (Scalar × Value)) (fallback : α)
    (check : List String → Value → Check α) : Check α :=
  match Value.lookup key entries with
  | some v => check [key] v
  | none => .ok fallback

/-- All parts of a configuration. -/
def checkParts (entries : List (Scalar × Value)) : Check Configuration :=
  let target := optional "generator_kind" entries .csharp checkTarget
  let output := optional "output_dir" entries (some usualOutputDirectory) checkText
  let single := optional "generate_single_csharp_file" entries false checkBool
  let policy := optional "empty_output_policy" entries .stop checkPolicy
  let modules := checkModules ["modules"] (Value.lookup "modules" entries)
  let base := optional "base_dir" entries none checkText
  (target.both (output.both (single.both (policy.both (modules.both base))))).map
    fun (target, output, single, policy, modules, base) =>
      ⟨target, output, single, policy, modules, base⟩

/-- The first name in a list that stands in it before already. -/
def repeated? (before : List String) : List String → Option String
  | [] => none
  | name :: rest => if before.contains name then some name else repeated? (name :: before) rest

/-- Without a repetition, no name stands in the list twice. -/
theorem repeated?_eq_none_iff {before names : List String} :
    repeated? before names = none ↔ names.Nodup ∧ ∀ n ∈ names, n ∉ before := by
  induction names generalizing before with
  | nil => simp [repeated?]
  | cons name rest ih =>
    by_cases h : name ∈ before
    · simp [repeated?, h]
    · simp only [repeated?, List.contains_iff_mem, h, if_false, ih, List.nodup_cons,
        List.mem_cons]
      grind

/-- A configuration, checked part by part and then for names that modules share. -/
def check (v : Value) : Check Configuration :=
  match v.opened with
  | .dict entries => do
    let c ← checkParts entries
    match repeated? [] (c.modules.map (·.library.name)) with
    | some name => .refuse [] (.duplicate name)
    | none => .ok c
  | _ => .refuse [] (.notRecord "GeneratorConfigSchema")

/-- A remark on choices that do not go together: one file for every module is a layout of C#. -/
def remarks (c : Configuration) : List LogRecord :=
  if c.singleFile && c.target != .csharp then
    [⟨.warning, "'generate_single_csharp_file' is set but generator_kind is '" ++ c.target.word ++
      "'. The option only applies to the C# generator."⟩]
  else []

/-- The fault of a configuration with problems. -/
def invalid (file : Option String) (problems : List Problem) : Fault :=
  .configuration ("Configuration validation failed with " ++ Nat.repr problems.length ++
      " error(s)") {
    context := [(.str "errors", .str ("; ".intercalate (problems.map (·.text))))]
    configFile := (file.map Value.str).getD .null }

/-- Whether a problem can be told. -/
def Problem.isTellable (p : Problem) : Bool :=
  match p.complaint with
  | .notNamespace given => Text.Half.isWritable given
  | _ => true

/-- Check a configuration that may come from a file, and log every problem with it. -/
def validate (v : Value) (file : Option String) : Logged Configuration :=
  match check v with
  | .ok c =>
    ⟨.ok c, remarks c ++
      [⟨.debug, "Configuration dictionary parsed and validated successfully against schema."⟩]⟩
  | .error problems =>
    if problems.all Problem.isTellable then
      ⟨.error (invalid file problems), problems.map fun p => ⟨.error, "  - " ++ p.text⟩⟩
    else .fail (.file .halfCharacter)

end Interop.Configuration
