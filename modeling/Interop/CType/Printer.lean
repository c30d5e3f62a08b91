import Interop.CType
import Interop.Decimal.Float

/-!
# Printing types

The C spelling of a type, and the two spellings that generated code uses. Constness and array sizes
show in the C spelling alone.
-/

namespace Interop.CType

/-- Why a type has no text. -/
inductive PrintFault where
  /-- Where a type is expected there is none, so it has no C spelling. -/
  | noType
  /-- Nothing is known of the type, so it has no C spelling. -/
  | unknownType
  /-- The type cannot be written in a target language. -/
  | unprintable (type language : String)
deriving DecidableEq, Repr

/-- The text of a fault. -/
def PrintFault.message : PrintFault → String
  | noType => "no type"
  | unknownType => "unknown type"
  | unprintable type language => "Cannot print type " ++ type ++ " for " ++ language

/-- How a type is written, where it can be. -/
abbrev Printer := CType → Except PrintFault String

/-- The mark of a pointer or a reference. -/
def mark (isReference : Bool) : String := if isReference then "&" else "*"

/-- The C spelling. -/
def spelling : Printer
  | builtin primitive => .ok primitive.spelling
  | tag name => .ok name
  | pointer pointee isReference isConst => do
    let inner ← pointee.spelling
    return (if isConst then "const " else "") ++ inner ++ mark isReference
  | array element size => do
    let inner ← element.spelling
    return inner ++ "[" ++ (size.map Decimal.integerText).getD "" ++ "]"
  | missing => .error .noType
  | bare => .error .unknownType

/-- A complete type has a C spelling. -/
theorem spelling_isOk {t : CType} (h : t.IsComplete) : ∃ s, t.spelling = .ok s := by
  induction t with
  | builtin p => exact ⟨_, rfl⟩
  | tag n => exact ⟨_, rfl⟩
  | pointer pointee r c ih =>
    obtain ⟨s, hs⟩ := ih h
    exact ⟨_, by simp only [spelling, hs]; rfl⟩
  | array element size ih =>
    obtain ⟨s, hs⟩ := ih h
    exact ⟨_, by simp only [spelling, hs]; rfl⟩
  | missing => exact h.elim
  | bare => exact h.elim

/-- How an incomplete type is shown in error messages. -/
def incompleteText : CType → String
  | missing => "None"
  | _ => "<object>"

/-- Builtin types in C#, where `long` has the width it has on a 32-bit data model. -/
def csharpPrimitive : Primitive → String
  | .void => "void"
  | .bool => "bool"
  | .char => "sbyte"
  | .signedChar => "sbyte"
  | .unsignedChar => "byte"
  | .short => "short"
  | .unsignedShort => "ushort"
  | .int => "int"
  | .unsignedInt => "uint"
  | .long => "int"
  | .unsignedLong => "uint"
  | .longLong => "long"
  | .unsignedLongLong => "ulong"
  | .float => "float"
  | .double => "double"
  | .wideChar => "char"

/-- The C# spelling. Pointers to characters are strings, and a pointer to anything but a named type
is an untyped handle. -/
def csharp : Printer
  | builtin primitive => .ok (csharpPrimitive primitive)
  | tag name => .ok name
  | array element _ => do return (← element.csharp) ++ "[]"
  | pointer (builtin primitive) _ _ =>
    .ok (if primitive.isCharacter then "string" else "global::System.IntPtr")
  | pointer (tag name) isReference _ => .ok (if isReference then "ref " ++ name else name)
  | pointer _ _ _ => .ok "global::System.IntPtr"
  | other => .error (.unprintable other.incompleteText "C#")

/-- The C++/CLI spelling. Pointers to characters are managed strings, and pointers to named types
are handles. -/
def cppCli : Printer
  | builtin primitive => .ok primitive.spelling
  | tag name => .ok name
  | array element _ => do return "cli::array<" ++ (← element.cppCli) ++ ">^"
  | pointer (builtin primitive) _ _ =>
    .ok (if primitive.isCharacter then "System::String^" else primitive.spelling ++ "*")
  | pointer (tag name) _ _ => .ok (name ++ "^")
  | pointer pointee _ _ => do return (← pointee.cppCli) ++ "*"
  | other => .error (.unprintable other.incompleteText "C++/CLI")

/-- The C spelling behind a label, for traces. -/
def labelled (label : String) : Printer := fun t => do return label ++ (← t.spelling)

end Interop.CType
