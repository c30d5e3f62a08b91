import Interop.Description
import Interop.FileTree
import Interop.Options
import Interop.Template
import Interop.Yaml.Scalar

/-!
# Faults

Everything that can end a step of the program before its time. Most faults have a report for the
user; the others are misuses, of which only the wording is kept, if there is one.
-/

namespace Interop

/-- Two steps come to a result if the first does and the second then does. -/
theorem Except.bind_eq_ok_iff {ε α β : Type} {first : Except ε α} {next : α → Except ε β} {b : β} :
    first >>= next = .ok b ↔ ∃ a, first = .ok a ∧ next a = .ok b := by
  cases first with
  | error fault => exact ⟨fun h => (nomatch h), fun ⟨_, h, _⟩ => (nomatch h)⟩
  | ok a =>
    refine ⟨fun h => ⟨a, rfl, h⟩, fun ⟨a', ha, h⟩ => ?_⟩
    cases ha
    exact h

/-- Why a step ended before its time. -/
inductive Fault where
  /-- There is no library. -/
  | library (fault : LibraryFault)
  /-- A value makes no choice. -/
  | choice (fault : ChoiceFault)
  /-- A layout has no way to aggregate outputs. -/
  | noAggregation (layout : String)
  /-- A generator was asked for without options and program. -/
  | noDriver (backend : String)
  /-- A spelling names no type. -/
  | spelling (fault : CType.SpellingFault)
  /-- A type has no text. -/
  | type (fault : CType.PrintFault)
  /-- A name cannot be looked up among words. -/
  | name
  /-- A unit description cannot be read. -/
  | description (fault : DescriptionFault)
  /-- A text in a file keeps the rules of the data format, but stands for no datum. -/
  | reading (fault : Yaml.ReadFault)
  /-- A configuration is invalid, or cannot be read. -/
  | configuration (message : String) (details : ReportDetails)
  /-- A target language has no backend. -/
  | noBackend (target : String) (known : List String)
  /-- The passes of a backend could not be set up. -/
  | setup (backend : String)
  /-- A template was refused. -/
  | template (fault : TemplateFault)
  /-- A backend yielded another number of templates than one for a module. -/
  | contract (backend module file : String) (count : Nat)
  /-- A backend yielded no template for a unit. -/
  | emptyOutput (backend filePath : String)
  /-- A file cannot be written. -/
  | file (fault : FileFault)

namespace RenderFault

/-- The report on a text that cannot be rendered, if users are told. -/
def report? : RenderFault → Option Report
  | noFile file reason =>
    some (.make .template ("Failed to render '" ++ file ++ "': " ++ reason)
      { template := .str file })
  | _ => none

/-- The remark on a text that cannot be rendered, if there is one. -/
def remark? : RenderFault → Option String
  | noFile file reason => some ("Error rendering template '" ++ file ++ "': " ++ reason)
  | _ => none

end RenderFault

namespace TemplateFault

/-- The report on a refused template, if users are told. -/
def report? : TemplateFault → Option Report
  | unprocessed name =>
    some (.make .template ("Template '" ++ name ++ "' was read before it was processed")
      { template := .str name })
  | processed name =>
    some (.make .template ("Template '" ++ name ++ "' has already been processed")
      { template := .str name })
  | render fault => fault.report?

end TemplateFault

namespace Fault

/-- The message on a backend that broke its contract. -/
def contractMessage (backend module : String) (count : Nat) : String :=
  backend ++ " must return exactly one template per module in single-file mode, got " ++
    Nat.repr count ++ " for module '" ++ module ++ "'"

/-- The message on a unit for which a backend yielded nothing. -/
def emptyMessage (backend filePath : String) : String :=
  backend ++ " produced no templates for '" ++ filePath ++ "'"

/-- The report on a fault, if users are told. -/
def report? : Fault → Option Report
  | description (.defect defect source) => some (defect.report source)
  | configuration message details => some (.make .configuration message details)
  | noBackend target known =>
    some (.make .configuration ("Unknown generator kind: " ++ target)
      { context := [(.str "supported_kinds", .list (known.map Value.str))] })
  | setup backend =>
    some (.make .generation (backend ++ " failed to set up its passes")
      { backend := .str backend })
  | template fault => fault.report?
  | contract backend module output count =>
    some (.make .contract (contractMessage backend module count)
      { expected := some (.str "exactly 1"), actual := some (.int count)
        backend := .str backend, unit := .str output })
  | emptyOutput backend filePath =>
    some (.make .emptyOutput (emptyMessage backend filePath)
      { backend := .str backend, unit := .str filePath })
  | _ => none

/-- The wording of a fault without a report, if it has one. -/
def wording? : Fault → Option String
  | library fault => some fault.message
  | choice fault => some fault.message
  | noAggregation layout => some ("Unknown aggregation mode: " ++ layout)
  | noDriver backend => some (backend ++ " requires a driver")
  | spelling fault => some fault.message
  | type fault => some fault.message
  | description .longNumber | template (.render .longNumber) => some Text.Digit.longMessage
  | reading (.noScalar fault) => some fault.message
  | reading (.noCharacter _) => some Yaml.noCharacterMessage
  | .file .nullCharacter => some "embedded null byte"
  | _ => none

/-- The text of a fault. -/
def text (f : Fault) : String :=
  match f.report? with
  | some report => report.text
  | none => f.wording?.getD ""

end Fault

end Interop
