import Interop.Value

/-!
# Error reports

A report tells a user what went wrong: a message, a code, the circumstances, and what to try next.
Every kind of report has a code, circumstances of its own and suggestions of its own, and a kind may
be a special case of another. Suggestions that are given replace those of the kind.
-/

namespace Interop

/-- The kinds of reports. -/
inductive ReportKind where
  | general | configuration | description | generation | contract | emptyOutput | template
deriving DecidableEq, Repr

namespace ReportKind

/-- The name of a kind. -/
def name : ReportKind → String
  | general => "BindingGeneratorError"
  | configuration => "ConfigurationError"
  | description => "ASTLoadError"
  | generation => "CodeGenerationError"
  | contract => "BackendContractError"
  | emptyOutput => "EmptyOutputError"
  | template => "TemplateError"

/-- A kind and all kinds of which it is a special case, the most special first. -/
def lineage : ReportKind → List ReportKind
  | general => [general]
  | contract => [contract, generation, general]
  | emptyOutput => [emptyOutput, contract, generation, general]
  | kind => [kind, general]

/-- The code of a kind. -/
def code? : ReportKind → Option String
  | general => none
  | configuration => some "CONFIG_ERROR"
  | description => some "AST_LOAD_ERROR"
  | generation => some "CODE_GENERATION_ERROR"
  | contract => some "BACKEND_CONTRACT_ERROR"
  | emptyOutput => some "EMPTY_OUTPUT_ERROR"
  | template => some "TEMPLATE_ERROR"

/-- Whether a report of a kind may bear another code than that of its kind. -/
def acceptsCode : ReportKind → Bool
  | general | generation | contract | emptyOutput => true
  | _ => false

/-- What a user may try after a report of a kind. -/
def suggestions : ReportKind → List String
  | general => []
  | configuration => [
      "Check the configuration file syntax",
      "Verify all required fields are present",
      "Check that every module has a library_name"]
  | description => [
      "Check the unit description is valid YAML",
      "Verify every declaration has a 'kind' and a 'name'",
      "Check unit paths are relative to the configuration file"]
  | generation => [
      "Run with --verbose to see which unit failed",
      "Try generating one module at a time"]
  | contract => [
      "Single-file backends must collapse a module into exactly one template",
      "Check the backend's generate_units implementation"]
  | emptyOutput => [
      "Set empty_output_policy to 'skip' to continue past such units",
      "Check whether every declaration in the unit was ignored"]
  | template => [
      "Templates must be processed exactly once before reading their text",
      "Check the template file exists in the templates directory"]

end ReportKind

/-- Circumstances and wishes with which a report is made. An absent value stands for nothing
given. -/
structure ReportDetails where
  /-- Circumstances in the words of the caller. -/
  context : List (Scalar × Value) := []
  /-- Suggestions in place of those of the kind. -/
  suggestions : Option Value := none
  /-- A code in place of that of the kind; it may be no code. -/
  code : Option Value := none
  /-- The configuration file. -/
  configFile : Value := .null
  /-- Where a unit description comes from. -/
  source : Value := .null
  /-- The backend. -/
  backend : Value := .null
  /-- The unit. -/
  unit : Value := .null
  /-- The template. -/
  template : Value := .null
  /-- How many templates were expected. -/
  expected : Option Value := none
  /-- How many templates there were. -/
  actual : Option Value := none

/-- What a user is told about an error. -/
structure Report where
  /-- The kind of the report. -/
  kind : ReportKind
  /-- What went wrong. -/
  message : String
  /-- The code; a value that counts as false is no code. -/
  code : Value
  /-- The circumstances, in order. -/
  context : List (Scalar × Value)
  /-- What to try next: a collection of suggestions. -/
  suggestions : Value

/-- Why there is no report. -/
inductive ReportFault where
  /-- A circumstance cannot be noted, since the others are no mapping. -/
  | notMapping
  /-- The circumstances cannot be listed. -/
  | noEntries
  /-- The suggestions cannot be listed. -/
  | noItems
deriving DecidableEq, Repr

namespace Report

/-- Note a circumstance if its value counts as true. -/
def noteIfTrue (key : String) (value : Value) (context : List (Scalar × Value)) :
    List (Scalar × Value) :=
  if value.isTruthy then Value.insert (.str key) value context else context

/-- Note a circumstance if there is a value. -/
def noteIfGiven (key : String) (value : Value) (context : List (Scalar × Value)) :
    List (Scalar × Value) :=
  match value with
  | .null => context
  | value => Value.insert (.str key) value context

/-- The circumstances of generation. -/
def generationContext (d : ReportDetails) (context : List (Scalar × Value)) :
    List (Scalar × Value) :=
  noteIfTrue "unit" d.unit (noteIfTrue "backend" d.backend context)

/-- The circumstances of a broken contract, given what was expected and found by default. -/
def contractContext (d : ReportDetails) (expected actual : Value) : List (Scalar × Value) :=
  generationContext d
    (noteIfGiven "actual_templates" (d.actual.getD actual)
      (noteIfGiven "expected_templates" (d.expected.getD expected) d.context))

/-- The circumstances that a report of a kind notes. -/
def contextFor (d : ReportDetails) : ReportKind → List (Scalar × Value)
  | .general => d.context
  | .configuration => noteIfTrue "config_file" d.configFile d.context
  | .description => noteIfTrue "source" d.source d.context
  | .generation => generationContext d d.context
  | .contract => contractContext d .null .null
  | .emptyOutput => contractContext d (.str "at least 1") (.int 0)
  | .template => noteIfTrue "template" d.template d.context

/-- The suggestions of a kind, as a list. -/
def usualSuggestions (kind : ReportKind) : Value := .list (kind.suggestions.map Value.str)

/-- The suggestions of a report of a kind. Giving none is the same as giving an empty collection,
except that an empty one for a report on empty output stands for the suggestions of a broken
contract. -/
def suggestionsFor (d : ReportDetails) (kind : ReportKind) : Value :=
  match d.suggestions with
  | some given =>
    if given.isTruthy then given
    else usualSuggestions (if kind = .emptyOutput then .contract else kind)
  | none => usualSuggestions kind

/-- The code of a report of a kind. -/
def codeFor (d : ReportDetails) (kind : ReportKind) : Value :=
  let usual := (kind.code?.map Value.str).getD .null
  if kind.acceptsCode then d.code.getD usual else usual

/-- Make a report. -/
def make (kind : ReportKind) (message : String) (d : ReportDetails := {}) : Report :=
  ⟨kind, message, codeFor d kind, contextFor d kind, suggestionsFor d kind⟩

/-- Make a report from circumstances that may be no mapping. Nothing at all stands for no
circumstances, but leaves no place in which to note any. -/
def make? (kind : ReportKind) (message : String) (context : Value) (d : ReportDetails) :
    Except ReportFault Report := do
  let report ← match context.opened with
    | .dict entries => .ok (make kind message { d with context := entries })
    | _ =>
      let report := make kind message { d with context := [] }
      if !report.context.isEmpty then .error .notMapping
      else if context.isTruthy then .error .noEntries
      else .ok report
  if report.suggestions.elements?.isNone then .error .noItems else .ok report

/-- The lines of a report after its message. -/
def details (r : Report) : List String :=
  (if r.code.isTruthy then ["Error Code: " ++ r.code.text] else []) ++
  (if r.context.isEmpty then []
    else "Context:" :: r.context.map fun (key, value) => "  " ++ key.text ++ ": " ++ value.text) ++
  (match (r.suggestions.elements?).getD [] with
    | [] => []
    | suggestions => "Suggestions:" :: suggestions.map fun s => "  • " ++ s.text)

/-- The text of a report. -/
def text (r : Report) : String := "\n".intercalate (r.message :: r.details)

end Report

end Interop
