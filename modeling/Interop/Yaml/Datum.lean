import Interop.NumberSet
import Interop.Yaml.Document
import Interop.Yaml.Scalar

/-!
# Data from documents

A document is read as a datum. A collection is known by the number of its node as soon as the node
is met, and filled later: the document first, then the collections in it, then those in these, in
the order in which they are met; so of several faults the one that is nearest to the top is found
first. A node that stands in several places is read once. Of several entries with one key the last
one gives the value and the first one the place. In the end the filled collections are put together,
and those that hold themselves are tied.
-/

namespace Interop.Yaml

/-- A datum in a collection: a scalar, or the number of another collection. -/
inductive Part where
  | scalar (s : Scalar)
  | collection (id : Nat)

/-- What fills a collection. -/
inductive Filling where
  | list (items : List Part)
  | dict (entries : List (Scalar × Part))
  | set (members : List Scalar)
  | pairs (items : List (Part × Part))

/-- A document that is being read. -/
structure Reader where
  /-- The document. Mappings that were filled have merged what they merge. -/
  graph : Graph
  /-- So many steps are enough for merging. -/
  mergeSteps : Nat
  /-- What was read from nodes. -/
  parts : Array (Option Part)
  /-- What fills collections. -/
  fillings : Array (Option Filling)
  /-- The collections that are still to be filled, the last one first. -/
  waiting : List Nat

namespace Datum

/-- A step of reading a document, which may fail. -/
abbrev Step (α : Type) := StateT Reader (Except ReadFault) α

/-- Give up on a document that breaks the rules. -/
def refuse {α : Type} : Step α := throw .unreadable

/-- The text that a node stands for. -/
def textAt (id : Nat) : Step String := do
  let g := (← get).graph
  match g.textOf (g.nodes.size + 1) id with
  | none => throw .endless
  | some none => refuse
  | some (some s) => return s

/-- The scalar of a type that a node stands for. A date must stand there as a text of its own. -/
def scalarAt (tag : Tag) (id : Nat) : Step Scalar := do
  match tag with
  | .merge | .value | .other => refuse
  | _ =>
    let s ← textAt id
    match tag, (← get).graph.content id with
    | .timestamp, .entries _ => throw (.noScalar .notText)
    | _, _ => tag.read s

/-- Whether the nodes with a tag are collections. -/
def isCollection (tag : Tag) : Bool := tag = .list || tag = .dict || tag = .set || tag = .pairs

/-- What a node stands for. A collection waits to be filled from then on. -/
def part (id : Nat) : Step Part := do
  let r ← get
  match r.parts[id]?.join with
  | some p => return p
  | none =>
    let tag := r.graph.tag id
    let p ← if isCollection tag then
        modify fun r => { r with waiting := id :: r.waiting }
        pure (.collection id)
      else .scalar <$> scalarAt tag id
    modify fun r => { r with parts := r.parts.set! id (some p) }
    return p

/-- Where a key comes from, if that matters: the undefined number is no key but that of its own
node, unless it is written in the one way that always gives the same one. -/
def origin (g : Graph) (id : Nat) : Option Nat :=
  match g.content id with
  | .text s => if Tag.unsigned (plainFloat s) == undefinedText then none else some id
  | _ => some id

/-- Whether two keys with origins are the same. -/
def sameKey : Scalar × Option Nat → Scalar × Option Nat → Bool
  | (.float x, i), (.float y, j) => if x.isNaN && y.isNaN then i == j else x == y
  | (a, _), (b, _) => a.sameKey b

/-- An entry whose key has an origin. -/
abbrev Entry := (Scalar × Option Nat) × Part

/-- Put a value at a key: in place where the key is present, at the end where it is not. -/
def insert (key : Scalar × Option Nat) (value : Part) : List Entry → List Entry
  | [] => [(key, value)]
  | entry :: rest =>
    if sameKey entry.1 key then (entry.1, value) :: rest else entry :: insert key value rest

/-- The entries of a mapping. A collection cannot be a key. -/
def entriesAt (id : Nat) : Step (List (Scalar × Part)) := do
  let r ← get
  match r.graph.content id, r.graph.merge? r.mergeSteps id with
  | .entries _, some g =>
    modify fun r => { r with graph := g }
    let entries ← (g.entries id).foldlM (fun entries (key, value) => do
      match ← part key with
      | .collection _ => refuse
      | .scalar k => return insert (k, origin g key) (← part value) entries) []
    return entries.map fun (key, value) => (key.1, value)
  | _, _ => refuse

/-- The two data that a mapping with one entry makes. -/
def pairAt (id : Nat) : Step (Part × Part) := do
  match (← get).graph.content id with
  | .entries [(key, value)] => return (← part key, ← part value)
  | _ => refuse

/-- What fills the collection of a node. -/
def filling (id : Nat) : Step Filling := do
  let g := (← get).graph
  match g.tag id, g.content id with
  | .list, .items nodes => return .list (← nodes.mapM part)
  | .dict, _ => return .dict (← entriesAt id)
  | .set, _ => return .set (NumberSet.ordered ((← entriesAt id).map (·.1)))
  | .pairs, .items nodes => return .pairs (← nodes.mapM pairAt)
  | _, _ => refuse

/-- Fill the collections that wait, and those that they make wait, in so many rounds at most. -/
def fillAll : Nat → Step Unit
  | 0 => return
  | rounds + 1 => do
    match (← get).waiting.reverse with
    | [] => return
    | round =>
      modify fun r => { r with waiting := [] }
      for id in round do
        let f ← filling id
        modify fun r => { r with fillings := r.fillings.set! id (some f) }
      fillAll rounds

/-- The values of the collections that were put together and do not stand within others that are
not yet. -/
abbrev Finished := Array (Option Value)

/-- Whether a collection is a mapping. -/
def isMapping (fillings : Array (Option Filling)) (id : Nat) : Bool :=
  match fillings[id]?.join with
  | some (.dict _) => true
  | _ => false

/-- The value of a part of the collections with some numbers, and which of these stand again in it.
Collections lie within one another no deeper than there are nodes. -/
def valueOf (fillings : Array (Option Filling)) :
    Nat → List Nat → Part → StateM Finished (Value × List Nat)
  | _, _, .scalar s => return (.scalar s, [])
  | 0, _, .collection _ => return (.null, [])
  | depth + 1, outer, .collection id => do
    if let some v := (← get)[id]?.join then return (v, [])
    if outer.contains id then return (.again id (isMapping fillings id), [id])
    let inner := valueOf fillings depth (id :: outer)
    let (v, again) ← match fillings[id]?.join with
      | some (.list items) => do
        let items ← items.mapM inner
        pure (Value.list (items.map (·.1)), items.flatMap (·.2))
      | some (.dict entries) => do
        let entries ← entries.mapM fun (key, value) => do return (key, ← inner value)
        pure (Value.dict (entries.map fun (key, value) => (key, value.1)),
          entries.flatMap (·.2.2))
      | some (.set members) => pure (Value.set members, [])
      | some (.pairs items) => do
        let items ← items.mapM fun (a, b) => do return (← inner a, ← inner b)
        pure (Value.list (items.map fun (a, b) => .pair a.1 b.1),
          items.flatMap fun (a, b) => a.2 ++ b.2)
      | none => pure (.null, [])
    let v := if again.contains id then Value.tied id v else v
    let again := (again.filter (· != id)).eraseDups
    if again.isEmpty then modify (·.set! id (some v))
    return (v, again)

/-- The datum that a document stands for. -/
def ofGraph (g : Graph) : Except ReadFault Value := do
  let size := g.nodes.size
  let blank {α : Type} : Array (Option α) := Array.replicate size none
  let read : Step Part := do
    let root ← part g.root
    fillAll (size + 1)
    return root
  let (root, r) ← read.run ⟨g, g.mergeCount + 1, blank, blank, []⟩
  return ((valueOf r.fillings (size + 1) [] root).run blank).1.1

end Datum

/-- The fault of a document that stops at some tokens. -/
def stopFault : List Token → ReadFault
  | [.broken code] => .noCharacter code
  | _ => .unreadable

/-- The datum that a text writes. -/
def read (content : String) : Except ReadFault Value := do
  match Token.ofText? content.toList with
  | none => throw .unreadable
  | some tokens => Datum.ofGraph (← (Document.ofTokens tokens).mapError stopFault)

end Interop.Yaml
