import Interop.Template

/-!
# C# sources

Bindings in C#: enumerations, sequential records, and for every function a static class with one
imported entry point. The entry point keeps the name of the native program, whatever the function is
called in C#. With a namespace, all declarations stand inside it and one step to the right.
-/

namespace Interop.Template.CSharp

/-- The lines above the declarations. -/
def header (origin : String) : List String := [
  "// <auto-generated>",
  "// This file was generated from " ++ origin ++ ".",
  "// Changes to this file will be lost when the code is regenerated.",
  "// </auto-generated>",
  "using System;",
  "using System.Runtime.InteropServices;",
  ""]

/-- What the text says it was generated from: the files, the library where there are none, or that
there is neither. -/
def originText (units : List SourceUnit) (library : Option Library) : String :=
  let files := fileNames units
  if files.isEmpty then (library.map (·.name)).getD "no translation units" else files

/-- The word for a record. -/
def recordWord (isStruct : Bool) : String := if isStruct then "struct" else "unsafe partial class"

/-- The lines of the generated fields of a record. -/
def fieldLines (printer : CType.Printer) (fields : List Member) : Rendered (List String) :=
  (fields.filter (·.isGenerated)).mapM fun (m : Member) => do
    return "    public " ++ (← typeText printer m.type) ++ " " ++ (← nameText m.name) ++ ";"

/-- The lines of a declaration at the left margin. -/
def block (printer : CType.Printer) (library : Option Library) (d : Declaration) :
    Rendered (List String) :=
  match d.body with
  | .enumeration items => do
    return ["public enum " ++ (← nameText d.name), "\x7b"] ++
      (itemLines items).map ("    " ++ ·) ++ ["\x7d"]
  | .record isStruct fields => do
    let name ← nameText d.name
    let lines ← fieldLines printer fields
    return ["[StructLayout(LayoutKind.Sequential)]",
        "public " ++ recordWord isStruct ++ " " ++ name, "\x7b"] ++ lines ++ ["\x7d"]
  | .function result parameters => do
    let nativeName ← nameText d.nativeName
    let result ← typeText printer result
    let name ← nameText d.name
    let parameters ← parameterList printer parameters
    return [
      "public static partial class " ++ (library.map (·.name)).getD "Native" ++ "Functions",
      "\x7b",
      "    [DllImport(\"" ++ (library.map (·.name)).getD "native" ++ "\", EntryPoint = \"" ++
        nativeName ++ "\")]",
      "    public static extern " ++ result ++ " " ++ name ++ "(" ++ parameters ++ ");",
      "\x7d"]

/-- The step to the right that a namespace makes. -/
def indent (outputNamespace : String) : String := if outputNamespace.isEmpty then "" else "    "

/-- The lines that open a namespace. -/
def opening (outputNamespace : String) : List String :=
  if outputNamespace.isEmpty then [] else ["namespace " ++ outputNamespace, "\x7b"]

/-- The lines that close a namespace. -/
def closing (outputNamespace : String) : List String :=
  if outputNamespace.isEmpty then [] else ["\x7d"]

/-- The blocks of the declarations of some units, each moved to the right as far as the namespace
asks. -/
def blocks (units : List SourceUnit) (context : GenerationContext) :
    Rendered (List (List String)) := do
  let blocks ← (declarationsOf units).mapM (block context.printer context.library)
  return blocks.map fun lines => lines.map (indent context.outputNamespace ++ ·)

/-- The lines of a source text. -/
def lines (units : List SourceUnit) (context : GenerationContext) : Rendered (List String) := do
  let blocks ← blocks units context
  return header (originText units context.library) ++ opening context.outputNamespace ++
    separated blocks ++ closing context.outputNamespace

/-- The text of a source file. -/
def text (units : List SourceUnit) (context : GenerationContext) : Rendered String :=
  unlines <$> lines units context

/-- The name under which the text is stored. -/
def fileName : String := "csharp_sources.cs.j2"

/-- Source files of C# bindings. -/
def form : TemplateForm := ⟨"CSharpSourcesTemplate", "cs", "", text⟩

end Interop.Template.CSharp
