import Interop.Yaml.Tag

/-!
# Nodes

A document is a graph of nodes: texts, sequences and mappings, each with a tag. A node is known by
its number, so that a node with a name can stand in several places, even within itself. Before a
mapping is read, the mappings that it merges are put in front of its own entries.
-/

namespace Interop.Yaml

/-- What a node holds: a text, or the numbers of other nodes. -/
inductive Content where
  | text (s : String)
  | items (nodes : List Nat)
  | entries (nodes : List (Nat × Nat))
deriving DecidableEq, Repr

/-- A node of a document. -/
structure Node where
  tag : Tag
  content : Content
deriving DecidableEq, Repr

/-- The node for which nothing is written. -/
def Node.nothing : Node := ⟨.null, .text ""⟩

/-- The nodes of a document by their numbers. -/
structure Graph where
  /-- The nodes, the one with the number zero first. -/
  nodes : Array Node
  /-- The number of the node that is the document. -/
  root : Nat
deriving Repr

namespace Graph

/-- The node with a number. -/
def node (g : Graph) (id : Nat) : Node := g.nodes[id]?.getD .nothing

/-- The tag of the node with a number. -/
def tag (g : Graph) (id : Nat) : Tag := (g.node id).tag

/-- What the node with a number holds. -/
def content (g : Graph) (id : Nat) : Content := (g.node id).content

/-- The entries of the node with a number; only a mapping has any. -/
def entries (g : Graph) (id : Nat) : List (Nat × Nat) :=
  match g.content id with
  | .entries nodes => nodes
  | _ => []

/-- Put a node at a number that has one. -/
def set (g : Graph) (id : Nat) (n : Node) : Graph := { g with nodes := g.nodes.set! id n }

/-- Put entries at the number of a mapping. -/
def setEntries (g : Graph) (id : Nat) (nodes : List (Nat × Nat)) : Graph :=
  g.set id { g.node id with content := .entries nodes }

/-- Give the node with a number another tag. -/
def setTag (g : Graph) (id : Nat) (tag : Tag) : Graph := g.set id { g.node id with tag := tag }

/-- How many entries of the graph merge others. -/
def mergeCount (g : Graph) : Nat :=
  g.nodes.foldl (fun n node => n + (match node.content with
    | .entries nodes => nodes.countP fun (key, _) => g.tag key == .merge
    | _ => 0)) 0

/-- The text that a node stands for: its own, or that of the entry of a mapping whose key stands for
the value of the mapping as a whole. The inner result is none if there is no text, and the outer one
if it is not found in so many steps. -/
def textOf (g : Graph) : Nat → Nat → Option (Option String)
  | 0, _ => none
  | steps + 1, id =>
    match g.content id with
    | .text s => some (some s)
    | .items _ => some none
    | .entries nodes =>
      match nodes.find? fun (key, _) => g.tag key == .value with
      | some (_, value) => g.textOf steps value
      | none => some none

/-- Read keys that stand for values of mappings as plain strings. -/
def plainKeys (nodes : List (Nat × Nat)) (g : Graph) : Graph :=
  nodes.foldl (fun g (key, _) => if g.tag key == .value then g.setTag key .str else g) g

/-- Put the entries that a mapping merges in front of its own, from the entry at an index on, after
those that were found before. The mappings that are merged are treated in the same way first; of
several in a sequence, the first is to win. Every merging entry is dropped before its value is
looked at, so there are fewer at every step, and a mapping that merges itself comes to an end.
Nothing but mappings can be merged. -/
def mergeFrom : Nat → Nat → Nat → List (Nat × Nat) → Graph → Option Graph
  | 0, _, _, _, _ => none
  | steps + 1, id, index, merged, g => do
    let entries := g.entries id
    let own := (entries.drop index).takeWhile fun (key, _) => g.tag key != .merge
    let g := g.plainKeys own
    let place := index + own.length
    match entries.drop place with
    | [] => return if merged.isEmpty then g else g.setEntries id (merged ++ entries)
    | (_, value) :: rest =>
      let g := g.setEntries id (entries.take place ++ rest)
      match g.content value with
      | .text _ => none
      | .entries _ =>
        let g ← mergeFrom steps value 0 [] g
        mergeFrom steps id place (merged ++ g.entries value) g
      | .items nodes =>
        let (g, parts) ← nodes.foldlM (fun (g, parts) sub =>
          match g.content sub with
          | .entries _ => do
            let g ← mergeFrom steps sub 0 [] g
            return (g, g.entries sub :: parts)
          | _ => none) (g, ([] : List (List (Nat × Nat))))
        mergeFrom steps id place (merged ++ parts.flatten) g

/-- Put the entries that a mapping merges in front of its own, in so many steps at most. More than
there are merging entries are never needed. -/
def merge? (steps : Nat) (g : Graph) (id : Nat) : Option Graph := mergeFrom steps id 0 [] g

end Graph

end Interop.Yaml
