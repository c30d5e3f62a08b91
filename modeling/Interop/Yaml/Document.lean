import Interop.Yaml.Lexer
import Interop.Yaml.Node

/-!
# Documents

A row of tokens is read as one document: directives, a mark at its start, one node, marks at its
end. The start may be left out, and so may the node. Names of nodes are given once and can be used
from there on.
-/

namespace Interop.Yaml

/-- What is being read: the tokens that are left, the nodes so far, and the names of nodes. A node
that is still being read has its number and its name already. -/
structure Reading where
  /-- The tokens from here on. -/
  tokens : List Token
  /-- The nodes so far. -/
  nodes : Array Node := #[]
  /-- The numbers of the nodes with names. -/
  named : List (String × Nat) := []

/-- A step of reading, which may stop at some tokens. -/
abbrev Step (α : Type) := StateT Reading (Except (List Token)) α

namespace Document

/-- Stop at the tokens that are left. -/
def refuse {α : Type} : Step α := do throw (← get).tokens

/-- Go on at other tokens. -/
def continueAt (tokens : List Token) : Step Unit := modify fun r => { r with tokens := tokens }

/-- A new node, with its number. -/
def create (tag : Tag) (content : Content) : Step Nat := do
  let id := (← get).nodes.size
  modify fun r => { r with nodes := r.nodes.push ⟨tag, content⟩ }
  return id

/-- A node for which nothing is written. -/
def empty : Step Nat := create .null (.text "")

/-- A name for a node must be new. -/
def checkName : Option String → Step Unit
  | none => return
  | some name => do if ((← get).named.lookup name).isSome then refuse

/-- Give a node a name. -/
def define (name : Option String) (id : Nat) : Step Unit := do
  match name with
  | none => return
  | some name => modify fun r => { r with named := (name, id) :: r.named }

/-- A node with a name. -/
def defined (name : Option String) (tag : Tag) (content : Content) : Step Nat := do
  let id ← create tag content
  define name id
  return id

/-- The content of a node that was empty so far. -/
def complete (id : Nat) (content : Content) : Step Nat := do
  modify fun r => { r with nodes := r.nodes.modify id ({ · with content := content }) }
  return id

/-- The handles that every document knows. -/
def usualHandles : List (String × String) := [("!", "!"), ("!!", Tag.common)]

/-- The full name of a tag. -/
def tagName? (handles : List (String × String)) (handle : Option String) (suffix : String) :
    Option String :=
  match handle with
  | none => some suffix
  | some handle => (handles.lookup handle).map (· ++ suffix)

/-- The full name of a tag, whose handle must be known. -/
def tagName (handles : List (String × String)) (handle : Option String) (suffix : String) :
    Step String := do
  match tagName? handles handle suffix with
  | some name => return name
  | none => refuse

/-- The name and the tag in front of a node, in either order. -/
def properties (handles : List (String × String)) : Step (Option String × Option String) := do
  match (← get).tokens with
  | .anchor name :: .tag handle suffix :: rest | .tag handle suffix :: .anchor name :: rest =>
    let tag ← tagName handles handle suffix
    continueAt rest
    return (some name, some tag)
  | .anchor name :: rest =>
    continueAt rest
    return (some name, none)
  | .tag handle suffix :: rest =>
    match rest with
    | .broken _ :: _ => throw rest
    | _ =>
      let tag ← tagName handles handle suffix
      continueAt rest
      return (none, some tag)
  | _ => return (none, none)

/-- The tag of a node: the one that is named, or else a usual one. -/
def tagOf (usual : Tag) : Option String → Tag
  | none | some "!" => usual
  | some name => Tag.ofName name

/-- The tag of a text. A text gets a tag by its form if it is plain, or if it is asked for. -/
def textTag (text : String) (isPlain : Bool) : Option String → Tag
  | none => if isPlain then Tag.ofPlain text else .str
  | some "!" => Tag.ofPlain text
  | some name => Tag.ofName name

/-- Whether an item of a block may end here. -/
def endsItem : List Token → Bool
  | .blockEntry :: _ | .blockEnd :: _ => true
  | _ => false

/-- Whether a key or value of a block may end here. -/
def endsPart : List Token → Bool
  | .key :: _ | .value :: _ | .blockEnd :: _ => true
  | _ => false

/-- Whether an item of a flow collection may end here. -/
def endsFlowItem (close : Token) : List Token → Bool
  | t :: _ => t == .flowEntry || t == close
  | [] => false

/-- Whether a key of a flow collection may end here. -/
def endsFlowKey (close : Token) : List Token → Bool
  | t :: _ => t == .value || t == .flowEntry || t == close
  | [] => false

/-- Pass the comma between two items of a flow collection; there is none before the first. -/
def comma (isFirst : Bool) : Step Unit := do
  match isFirst, (← get).tokens with
  | false, .flowEntry :: rest => continueAt rest
  | false, _ => refuse
  | true, _ => return

mutual

/-- A node. Only in a block may it be a block itself, and only as a part of a mapping may its items
stand at the column of the mapping. -/
def node (handles : List (String × String)) (inBlock inMapping : Bool) : Nat → Step Nat
  | 0 => refuse
  | fuel + 1 => do
    match (← get).tokens with
    | .alias name :: rest =>
      match (← get).named.lookup name with
      | some id =>
        continueAt rest
        return id
      | none => refuse
    | _ =>
      let (name, tag) ← properties handles
      checkName name
      match (← get).tokens with
      | .broken _ :: _ => refuse
      | .scalar text isPlain :: rest =>
        continueAt rest
        defined name (textTag text isPlain tag) (.text text)
      | .flowSequence :: rest =>
        continueAt rest
        let id ← defined name (tagOf .list tag) (.items [])
        complete id (.items (← flowItems handles true fuel))
      | .flowMapping :: rest =>
        continueAt rest
        let id ← defined name (tagOf .dict tag) (.entries [])
        complete id (.entries (← flowEntries handles true fuel))
      | .blockEntry :: _ =>
        if inMapping then
          let id ← defined name (tagOf .list tag) (.items [])
          complete id (.items (← looseItems handles fuel))
        else nothing name tag
      | .blockSequence :: rest =>
        if inBlock then
          continueAt rest
          let id ← defined name (tagOf .list tag) (.items [])
          complete id (.items (← blockItems handles fuel))
        else nothing name tag
      | .blockMapping :: rest =>
        if inBlock then
          continueAt rest
          let id ← defined name (tagOf .dict tag) (.entries [])
          complete id (.entries (← blockEntries handles fuel))
        else nothing name tag
      | _ => nothing name tag
where
  /-- A node for which nothing is written but its name or tag. -/
  nothing (name tag : Option String) : Step Nat :=
    if name.isNone && tag.isNone then refuse
    else defined name (tagOf .null tag) (.text "")

/-- The items of a block up to its end. -/
def blockItems (handles : List (String × String)) : Nat → Step (List Nat)
  | 0 => refuse
  | fuel + 1 => do
    match (← get).tokens with
    | .blockEnd :: rest =>
      continueAt rest
      return []
    | .blockEntry :: rest =>
      continueAt rest
      let item ← if endsItem rest then empty else node handles true false fuel
      return item :: (← blockItems handles fuel)
    | _ => refuse

/-- The items at the column of a mapping. -/
def looseItems (handles : List (String × String)) : Nat → Step (List Nat)
  | 0 => refuse
  | fuel + 1 => do
    match (← get).tokens with
    | .blockEntry :: rest =>
      continueAt rest
      let item ← if endsItem rest || endsPart rest then empty
        else node handles true false fuel
      return item :: (← looseItems handles fuel)
    | _ => return []

/-- The entries of a block up to its end. -/
def blockEntries (handles : List (String × String)) : Nat → Step (List (Nat × Nat))
  | 0 => refuse
  | fuel + 1 => do
    match (← get).tokens with
    | .blockEnd :: rest =>
      continueAt rest
      return []
    | .key :: rest =>
      continueAt rest
      let key ← if endsPart rest then empty else node handles true true fuel
      let value ← match (← get).tokens with
        | .value :: rest => do
          continueAt rest
          if endsPart rest then empty else node handles true true fuel
        | _ => empty
      return (key, value) :: (← blockEntries handles fuel)
    | _ => refuse

/-- The items of a flow sequence up to its end. A key makes a mapping with one entry. -/
def flowItems (handles : List (String × String)) (isFirst : Bool) : Nat → Step (List Nat)
  | 0 => refuse
  | fuel + 1 => do
    match (← get).tokens with
    | .flowSequenceEnd :: rest =>
      continueAt rest
      return []
    | _ =>
      comma isFirst
      match (← get).tokens with
      | .flowSequenceEnd :: rest =>
        continueAt rest
        return []
      | .key :: rest =>
        continueAt rest
        let entry ← flowEntry handles .flowSequenceEnd fuel
        let item ← create .dict (.entries [entry])
        return item :: (← flowItems handles false fuel)
      | _ =>
        let item ← node handles false false fuel
        return item :: (← flowItems handles false fuel)

/-- The entries of a flow mapping up to its end. A node alone is a key without a value. -/
def flowEntries (handles : List (String × String)) (isFirst : Bool) :
    Nat → Step (List (Nat × Nat))
  | 0 => refuse
  | fuel + 1 => do
    match (← get).tokens with
    | .flowMappingEnd :: rest =>
      continueAt rest
      return []
    | _ =>
      comma isFirst
      match (← get).tokens with
      | .flowMappingEnd :: rest =>
        continueAt rest
        return []
      | .key :: rest =>
        continueAt rest
        let entry ← flowEntry handles .flowMappingEnd fuel
        return entry :: (← flowEntries handles false fuel)
      | _ =>
        let key ← node handles false false fuel
        return (key, ← empty) :: (← flowEntries handles false fuel)

/-- The key and the value of an entry of a flow collection. -/
def flowEntry (handles : List (String × String)) (close : Token) : Nat → Step (Nat × Nat)
  | 0 => refuse
  | fuel + 1 => do
    let key ← if endsFlowKey close (← get).tokens then empty
      else node handles false false fuel
    match (← get).tokens with
    | .value :: rest =>
      continueAt rest
      let value ← if endsFlowItem close rest then empty else node handles false false fuel
      return (key, value)
    | _ => return (key, ← empty)

end

/-- The version and the handles that directives declare, each at most once, and the tokens after
them. -/
def directives (hasVersion : Bool) (handles : List (String × String)) :
    List Token → Except (List Token) (List (String × String) × List Token)
  | .directive d :: rest =>
    match d with
    | .version major =>
      if hasVersion || major != 1 then .error (.directive d :: rest)
      else directives true handles rest
    | .handle name tagStart =>
      if (handles.lookup name).isSome then .error (.directive d :: rest)
      else directives hasVersion ((name, tagStart) :: handles) rest
    | .other => directives hasVersion handles rest
  | tokens => .ok (handles, tokens)

/-- The document without a node. -/
def blank : Graph := ⟨#[.nothing], 0⟩

/-- The only node of a document, and the tokens after it. -/
def root (handles : List (String × String)) (tokens : List Token) :
    Except (List Token) (Graph × List Token) := do
  let (id, r) ← (node handles true false (2 * tokens.length + 2)).run { tokens := tokens }
  return (⟨r.nodes, id⟩, r.tokens)

/-- Whether a document ends before its node. -/
def endsEarly : List Token → Bool
  | [] | .directive _ :: _ | .documentStart :: _ | .documentEnd :: _ => true
  | _ => false

/-- The document that tokens write, or the tokens at which it stops being one; nothing may follow it
but marks of its end. -/
def ofTokens : List Token → Except (List Token) Graph
  | [] => .ok blank
  | tokens => do
    let (g, rest) ← match tokens with
      | .directive _ :: _ | .documentStart :: _ =>
        match ← directives false [] tokens with
        | (handles, .documentStart :: rest) =>
          if endsEarly rest then .ok (blank, rest) else root (handles ++ usualHandles) rest
        | (_, rest) => .error rest
      | _ => root usualHandles tokens
    match rest.dropWhile (· == .documentEnd) with
    | [] => return g
    | rest => throw rest

end Document

end Interop.Yaml
