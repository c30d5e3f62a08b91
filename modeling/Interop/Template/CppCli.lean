import Interop.Identifier
import Interop.Template

/-!
# C++/CLI headers and sources

A managed wrapper has a header, which declares enumerations, reference classes and functions inside
the namespace, and a source, which defines the functions by calls to the native ones. The wrapper's
files carry a suffix, so the header never stands in the way of the native header it includes.
-/

namespace Interop.Template.CppCli

/-- The rule above and below the notice. -/
def rule : String := "// " ++ String.ofList (List.replicate 76 '-')

/-- The notice at the top of both files. -/
def notice (units : List SourceUnit) : List String := [
  rule,
  "// <auto-generated>",
  "// This file was generated from " ++ fileNames units ++ ".",
  "// Changes to this file will be lost when the code is regenerated.",
  "// </auto-generated>",
  rule]

/-- The line that includes a file. -/
def includeLine (file : String) : String := "#include \"" ++ file ++ "\""

/-- The properties of a reference class. -/
def propertyLines (printer : CType.Printer) (fields : List Member) : Rendered (List String) :=
  (fields.filter (·.isGenerated)).mapM fun (m : Member) => do
    return "        property " ++ (← typeText printer m.type) ++ " " ++ (← nameText m.name) ++ ";"

/-- The signature of a function: its result, its name, which may be qualified, and its
parameters. -/
def signature (printer : CType.Printer) (qualifier : String) (name : Value) (result : CType)
    (parameters : List Member) : Rendered String := do
  let result ← typeText printer result
  let name ← nameText name
  let parameters ← parameterList printer parameters
  return result ++ " " ++ qualifier ++ name ++ "(" ++ parameters ++ ")"

/-- The lines of a declaration in a header. -/
def headerBlock (printer : CType.Printer) (d : Declaration) : Rendered (List String) :=
  match d.body with
  | .enumeration items => do
    return ["    public enum struct " ++ (← nameText d.name), "    \x7b"] ++
      (itemLines items).map ("        " ++ ·) ++ ["    \x7d;"]
  | .record _ fields => do
    let name ← nameText d.name
    let lines ← propertyLines printer fields
    return ["    public ref class " ++ name, "    \x7b", "    public:"] ++ lines ++
      ["    \x7d;"]
  | .function result parameters => do
    return ["    " ++ (← signature printer "" d.name result parameters) ++ ";"]

/-- The lines that open a namespace. -/
def opening (outputNamespace : String) : List String :=
  if outputNamespace.isEmpty then []
  else ["namespace " ++ Identifier.withColons outputNamespace, "\x7b"]

/-- The lines that close a namespace. -/
def closing (outputNamespace : String) : List String :=
  if outputNamespace.isEmpty then [] else ["\x7d"]

/-- The lines of a header. -/
def headerLines (units : List SourceUnit) (context : GenerationContext) :
    Rendered (List String) := do
  let blocks ← (declarationsOf units).mapM (headerBlock context.printer)
  return notice units ++ ["#pragma once", ""] ++ units.map (includeLine ·.fileName) ++ [""] ++
    opening context.outputNamespace ++ blocks.flatten ++ closing context.outputNamespace

/-- What stands before the name of a function outside its namespace. -/
def qualifier (outputNamespace : String) : String :=
  if outputNamespace.isEmpty then "" else Identifier.withColons outputNamespace ++ "::"

/-- The lines of a function in a source. A function whose C result is nothing gives back nothing. -/
def functionBlock (context : GenerationContext) (d : Declaration) (result : CType)
    (parameters : List Member) : Rendered (List String) := do
  let head ← signature context.printer (qualifier context.outputNamespace) d.name result parameters
  let isVoid ← isVoid result
  let nativeName ← nameText d.nativeName
  let call := "::" ++ nativeName ++ "(" ++ (← argumentList parameters) ++ ");"
  return [head, "\x7b", "    " ++ (if isVoid then "" else "return ") ++ call, "\x7d"]

/-- The blocks of the functions among some declarations. -/
def functionBlocks (context : GenerationContext) :
    List Declaration → Rendered (List (List String))
  | [] => .ok []
  | d :: more =>
    match d.body with
    | .function result parameters => do
      let block ← functionBlock context d result parameters
      return block :: (← functionBlocks context more)
    | _ => functionBlocks context more

/-- The lines of a source whose wrapper files carry a suffix. -/
def sourceLines (suffix : String) (units : List SourceUnit) (context : GenerationContext) :
    Rendered (List String) := do
  let blocks ← functionBlocks context (declarationsOf units)
  return notice units ++ units.map (fun u => includeLine (u.fileStem ++ suffix ++ ".h")) ++
    [""] ++ separated blocks

/-- The suffix of wrapper files. -/
def suffix : String := "_cli"

/-- The text of a header. -/
def headerText (units : List SourceUnit) (context : GenerationContext) : Rendered String :=
  unlines <$> headerLines units context

/-- The text of a source whose wrapper files carry a suffix. -/
def sourceText (suffix : String) (units : List SourceUnit) (context : GenerationContext) :
    Rendered String :=
  unlines <$> sourceLines suffix units context

/-- The name under which the text of headers is stored. -/
def headerFileName : String := "cli_header.h.j2"

/-- The name under which the text of sources is stored. -/
def sourceFileName : String := "cli_source.cpp.j2"

/-- Headers of wrappers. -/
def header : TemplateForm := ⟨"CLIHeaderTemplate", "h", suffix, headerText⟩

/-- Sources of wrappers. -/
def source : TemplateForm := ⟨"CLISourceTemplate", "cpp", suffix, sourceText suffix⟩

end Interop.Template.CppCli
