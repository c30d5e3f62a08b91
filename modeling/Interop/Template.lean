import Interop.CType.Printer
import Interop.Program

/-!
# Templates

A template is text in the making for some units of a program. Its form says how the text is written
and how its file is named. Processing renders the text once, from the program as it is at that
moment; from then on the text is fixed. Reading earlier and processing again are refused.
-/

namespace Interop

/-- What a template needs to know about the output it belongs to. -/
structure GenerationContext where
  /-- The namespace of the generated code, empty if there is none. -/
  outputNamespace : String
  /-- How types are written. -/
  printer : CType.Printer
  /-- The library that the code binds, if it is known. -/
  library : Option Library
  /-- The directory of the unit, if the output is for a single unit. -/
  includeDirectory : Option String

/-- Why a template cannot be rendered. -/
inductive RenderFault where
  /-- A type has no text. -/
  | type (fault : CType.PrintFault)
  /-- A name has no text, since a whole number in it is too long. -/
  | longNumber
  /-- The form says nothing about the text. -/
  | noText
  /-- The form refers to a file of template text that is not there, for a reason. -/
  | noFile (file reason : String)

/-- How the text of a template is written, and how its file is named. -/
structure TemplateForm where
  /-- The name of the form. -/
  name : String
  /-- The extension of the file. -/
  extension : String
  /-- What stands between the stem of the unit's file and the extension. -/
  suffix : String
  /-- The text for some units. -/
  render : List SourceUnit → GenerationContext → Except RenderFault String

/-- Text in the making. -/
structure Template where
  /-- The form of the template. -/
  form : TemplateForm
  /-- The positions of the units in the program. A position stands for its unit as long as no unit
  is added or removed in front of it. -/
  positions : List Nat
  /-- What is known about the output. -/
  context : GenerationContext
  /-- The text, once it is fixed. -/
  text? : Option String

/-- Why a template was refused. -/
inductive TemplateFault where
  /-- The text was read before the template was processed. -/
  | unprocessed (template : String)
  /-- The template was processed before. -/
  | processed (template : String)
  /-- The text could not be rendered. -/
  | render (fault : RenderFault)

namespace TemplateForm

/-- A form with a fixed text. -/
def fixed (name extension suffix text : String) : TemplateForm :=
  ⟨name, extension, suffix, fun _ _ => .ok text⟩

/-- A form that says nothing about its text. -/
def blank : TemplateForm := ⟨"Template", "", "", fun _ _ => .error .noText⟩

end TemplateForm

namespace Template

/-- A template that is not processed yet. -/
def make (form : TemplateForm) (positions : List Nat) (context : GenerationContext) : Template :=
  ⟨form, positions, context, none⟩

/-- Whether the text is fixed. -/
def isProcessed (t : Template) : Bool := t.text?.isSome

/-- The generated declarations of some units. -/
def declarationsOf (units : List SourceUnit) : List Declaration :=
  units.flatMap (·.generatedDeclarations)

/-- The declarations that a template shows, in a program. -/
def declarations (p : Program) (t : Template) : List Declaration :=
  declarationsOf (p.unitsAt t.positions)

/-- The text of a processed template. -/
def text (t : Template) : Except TemplateFault String :=
  match t.text? with
  | some text => .ok text
  | none => .error (.unprocessed t.form.name)

/-- The text of a template that can be read. -/
theorem text?_of_text {t : Template} {text : String} (h : t.text = .ok text) :
    t.text? = some text := by
  unfold Template.text at h
  split at h
  · rename_i ht
    rw [ht, Except.ok.inj h]
  · cases h

/-- Fix the text of a template. -/
def process (p : Program) (t : Template) : Except TemplateFault Template :=
  match t.text? with
  | some _ => .error (.processed t.form.name)
  | none =>
    match t.form.render (p.unitsAt t.positions) t.context with
    | .ok text => .ok { t with text? := some text }
    | .error fault => .error (.render fault)

/-- A processed template can be read, and its text is what its form rendered. -/
theorem text_process {p : Program} {t u : Template} (h : t.process p = .ok u) :
    ∃ text, u.text = .ok text ∧ t.form.render (p.unitsAt t.positions) t.context = .ok text := by
  unfold process at h
  split at h
  · cases h
  · split at h
    · rename_i text hr
      cases h
      exact ⟨text, rfl, hr⟩
    · cases h

/-- A short description of a template, in a program. -/
def describe (p : Program) (t : Template) : String :=
  let files := (p.unitsAt t.positions).map fun u => Value.str u.filePath
  t.form.name ++ "(units=" ++ (Value.list files).quoted ++ ", processed=" ++
    (Value.bool t.isProcessed).quoted ++ ")"

/-- Lines, each with a line break at its end. -/
def unlines (lines : List String) : String := String.join (lines.map (· ++ "\n"))

/-- Blocks of lines with an empty line between neighbours. -/
def separated : List (List String) → List String
  | [] => []
  | [block] => block
  | block :: more => block ++ "" :: separated more

/-- The lines of an enumeration's items: a comma after every item but the last. -/
def itemLines : List String → List String
  | [] => []
  | [item] => [item]
  | item :: more => (item ++ ",") :: itemLines more

/-- The names of the files of some units. -/
def fileNames (units : List SourceUnit) : String :=
  ", ".intercalate (units.map (·.fileName))

/-- A part of a text that is being rendered. -/
abbrev Rendered (α : Type) := Except RenderFault α

/-- The text of a name. -/
def nameText (name : Value) : Rendered String :=
  match name.text? with
  | some text => .ok text
  | none => .error .longNumber

/-- The text of a type. -/
def typeText (printer : CType.Printer) (t : CType) : Rendered String :=
  (printer t).mapError .type

/-- A parameter list: types and names, or nothing. -/
def parameterList (printer : CType.Printer) (parameters : List Member) : Rendered String := do
  let texts ← parameters.mapM fun (m : Member) => do
    return (← typeText printer m.type) ++ " " ++ (← nameText m.name)
  return ", ".intercalate texts

/-- The names of parameters, as the arguments of a call. -/
def argumentList (parameters : List Member) : Rendered String := do
  return ", ".intercalate (← parameters.mapM fun (m : Member) => nameText m.name)

/-- Whether a function gives back nothing. -/
def isVoid (result : CType) : Rendered Bool := do
  return (← typeText CType.spelling result) == Primitive.void.spelling

end Template

end Interop
