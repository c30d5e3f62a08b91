/-!
# C types

The types that declarations mention: the builtin types of C and C++, references to named classes and
enumerations, pointers and arrays. Two further forms stand for a type that was left out and for a
type of which nothing is known; only a type without them is complete.
-/

namespace Interop

/-- Builtin C and C++ types. -/
inductive Primitive where
  | void | bool | char | signedChar | unsignedChar | short | unsignedShort | int | unsignedInt
  | long | unsignedLong | longLong | unsignedLongLong | float | double | wideChar
deriving DecidableEq, Repr

namespace Primitive

/-- All builtin types. -/
def all : List Primitive :=
  [void, bool, char, signedChar, unsignedChar, short, unsignedShort, int, unsignedInt, long,
    unsignedLong, longLong, unsignedLongLong, float, double, wideChar]

/-- The C spelling of a builtin type. -/
def spelling : Primitive → String
  | void => "void"
  | bool => "bool"
  | char => "char"
  | signedChar => "signed char"
  | unsignedChar => "unsigned char"
  | short => "short"
  | unsignedShort => "unsigned short"
  | int => "int"
  | unsignedInt => "unsigned int"
  | long => "long"
  | unsignedLong => "unsigned long"
  | longLong => "long long"
  | unsignedLongLong => "unsigned long long"
  | float => "float"
  | double => "double"
  | wideChar => "wchar_t"

/-- The builtin type with a spelling. -/
def ofSpelling? (s : String) : Option Primitive := all.find? (·.spelling == s)

/-- Every builtin type is found by its spelling. -/
theorem ofSpelling?_spelling (p : Primitive) : ofSpelling? p.spelling = some p := by
  cases p <;> decide

/-- Whether pointers to a type are texts. -/
def isCharacter : Primitive → Bool
  | char | wideChar => true
  | _ => false

end Primitive

/-- Types of fields, parameters and results. -/
inductive CType where
  /-- A builtin type. -/
  | builtin (primitive : Primitive)
  /-- A class or enumeration by its name. -/
  | tag (name : String)
  /-- A pointer, or a reference. -/
  | pointer (pointee : CType) (isReference isConst : Bool)
  /-- An array, with its size if one is given. -/
  | array (element : CType) (size : Option Int)
  /-- No type where one is expected. -/
  | missing
  /-- A type of which nothing is known. -/
  | bare
deriving DecidableEq, Repr

namespace CType

/-- Whether a type is built from builtin types, tags, pointers and arrays alone. -/
def IsComplete : CType → Prop
  | builtin _ | tag _ => True
  | pointer pointee _ _ => pointee.IsComplete
  | array element _ => element.IsComplete
  | missing | bare => False

/-- Completeness is decided by walking down to the leaf. -/
def decideComplete : (t : CType) → Decidable t.IsComplete
  | builtin _ | tag _ => .isTrue trivial
  | pointer pointee _ _ => decideComplete pointee
  | array element _ => decideComplete element
  | missing | bare => .isFalse id

instance (t : CType) : Decidable t.IsComplete := t.decideComplete

end CType

end Interop
