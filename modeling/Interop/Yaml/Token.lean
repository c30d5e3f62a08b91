/-!
# Tokens

The words of the data format. Indentation counts as words of its own: a block opens a token before
its first item and closes with another one. A key is announced before it, even where only the colon
after it tells that it is one. The words may end before the text does, at a code point that is no
character.
-/

namespace Interop.Yaml

/-- A remark to the reader in front of a document. -/
inductive Directive where
  /-- The version of the format. -/
  | version (major : Nat)
  /-- A short handle for tags. -/
  | handle (name tagStart : String)
  /-- Anything else. -/
  | other
deriving DecidableEq, Repr

/-- A word of the data format. -/
inductive Token where
  | directive (d : Directive)
  | documentStart
  | documentEnd
  | blockSequence
  | blockMapping
  | blockEnd
  | flowSequence
  | flowSequenceEnd
  | flowMapping
  | flowMappingEnd
  | blockEntry
  | flowEntry
  | key
  | value
  | alias (name : String)
  | anchor (name : String)
  /-- A tag: a handle, if there is one, and what follows it. -/
  | tag (handle : Option String) (suffix : String)
  /-- A text, and whether it stands without quotes and outside a block of its own. -/
  | scalar (text : String) (isPlain : Bool)
  /-- The end of the words at a code point that is no character. -/
  | broken (code : Nat)
deriving DecidableEq, Repr

end Interop.Yaml
