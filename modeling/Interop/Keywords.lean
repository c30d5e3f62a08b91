/-!
# Reserved words

The words that declarations of generated code must not take as their names, for each target
language.
-/

namespace Interop.Keywords

/-- Reserved words of C#. -/
def csharp : List String := [
    "abstract", "as", "base", "bool", "break", "byte", "case", "catch", "char", "checked", "class",
    "const", "continue", "decimal", "default", "delegate", "do", "double", "else", "enum", "event",
    "explicit", "extern", "false", "finally", "fixed", "float", "for", "foreach", "goto", "if",
    "implicit", "in", "int", "interface", "internal", "is", "lock", "long", "namespace", "new",
    "null", "object", "operator", "out", "override", "params", "private", "protected", "public",
    "readonly", "ref", "return", "sbyte", "sealed", "short", "sizeof", "stackalloc", "static",
    "string", "struct", "switch", "this", "throw", "true", "try", "typeof", "uint", "ulong",
    "unchecked", "unsafe", "ushort", "using", "virtual", "void", "volatile", "while"]

/-- Words that C++/CLI reserves beside those of C++. -/
def cppCli : List String := [
    "abstract", "delegate", "event", "finally", "gcnew", "generic", "initonly", "interface",
    "literal", "nullptr", "override", "property", "ref", "sealed", "value"]

end Interop.Keywords
