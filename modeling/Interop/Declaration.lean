import Interop.CType
import Interop.Value

/-!
# Declarations

What a native program declares: records with fields, functions with parameters, and enumerations
with items. Every declaration and every member keeps the name of the native program beside the name
that generated code uses, and a flag that says whether it is generated at all.
-/

namespace Interop

/-- What declarations, fields and parameters have in common. -/
structure Label where
  /-- The name in generated code. -/
  name : Value
  /-- The name in the native program. -/
  nativeName : Value
  /-- Whether generated code shows it. -/
  isGenerated : Bool

/-- A label whose two names agree. -/
def Label.named (name : Value) (isGenerated : Bool) : Label := ⟨name, name, isGenerated⟩

/-- A field of a record, or a parameter of a function. -/
structure Member extends Label where
  /-- The type of the field or parameter. -/
  type : CType

/-- What is declared. -/
inductive Body where
  /-- A class or struct. -/
  | record (isStruct : Bool) (fields : List Member)
  /-- A function. -/
  | function (result : CType) (parameters : List Member)
  /-- An enumeration. -/
  | enumeration (items : List String)

/-- A declaration at the top level of a source unit. -/
structure Declaration extends Label where
  /-- What is declared. -/
  body : Body

namespace Body

/-- The word for the kind of a declaration. -/
def kind : Body → String
  | record .. => "class"
  | function .. => "function"
  | enumeration .. => "enumeration"

/-- The fields or parameters. -/
def members : Body → List Member
  | record _ fields => fields
  | function _ parameters => parameters
  | enumeration _ => []

/-- Put other members in place of the fields or parameters. -/
def withMembers (members : List Member) : Body → Body
  | record isStruct _ => record isStruct members
  | function result _ => function result members
  | enumeration items => enumeration items

end Body

namespace Declaration

/-- The word for the kind of a declaration. -/
def kind (d : Declaration) : String := d.body.kind

/-- The fields or parameters of a declaration. -/
def members (d : Declaration) : List Member := d.body.members

end Declaration

end Interop
