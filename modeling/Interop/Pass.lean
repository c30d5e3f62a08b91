import Interop.Identifier
import Interop.Program

/-!
# Passes

A pass visits the units of a program, files of the system excepted, and changes names and flags of
their declarations. One pass hides declarations without a name, another gives a made-up name to
every declaration, field and parameter whose name is a reserved word. A name that cannot be looked
up among words ends the pass where it stands, and what was changed before stays changed.
-/

namespace Interop

/-- What a visit leaves behind. -/
structure Visit (α : Type) where
  /-- The visited thing after the visit. -/
  result : α
  /-- How many names were changed. -/
  renamed : Nat
  /-- Remarks, in order. -/
  notes : List String
  /-- Whether a name that cannot be looked up ended the visit. -/
  stopped : Bool

namespace Visit

/-- A visit that changes nothing. -/
def unchanged {α : Type} (a : α) : Visit α := ⟨a, 0, [], false⟩

/-- The same visit, seen from a larger thing. -/
def map {α β : Type} (f : α → β) (v : Visit α) : Visit β :=
  ⟨f v.result, v.renamed, v.notes, v.stopped⟩

/-- Visit one thing and then, unless the visit ended, another. -/
def both {α β γ : Type} (combine : α → β → γ) (first : Visit α) (unvisited : β)
    (second : Unit → Visit β) : Visit γ :=
  if first.stopped then first.map (combine · unvisited)
  else
    let second := second ()
    ⟨combine first.result second.result, first.renamed + second.renamed,
      first.notes ++ second.notes, second.stopped⟩

/-- Visit the members of a list in order. -/
def list {α : Type} (visit : α → Visit α) : List α → Visit (List α)
  | [] => unchanged []
  | a :: rest => both List.cons (visit a) rest fun _ => list visit rest

end Visit

/-- A pass over the units of a program. -/
inductive Pass where
  /-- Hide declarations without a name. -/
  | ignoreUnnamed
  /-- Give made-up names in place of reserved words. -/
  | renameReserved (words : List String)
  /-- A pass of the caller's own. -/
  | custom (name : String) (visit : SourceUnit → SourceUnit)

namespace Pass

/-- The name of a pass in remarks. -/
def name : Pass → String
  | ignoreUnnamed => "IgnoreUnnamedDeclarationsPass"
  | renameReserved _ => "RenameReservedKeywordsPass"
  | custom name _ => name

/-- Whether a pass counts the names it changes. -/
def countsNames : Pass → Bool
  | renameReserved _ => true
  | _ => false

/-- Rename one label if its name is a reserved word. Lists and mappings cannot be looked up; sets
can, but are no word. -/
def renameLabel (words : List String) (filePath : String) (l : Label) : Visit Label :=
  match l.name with
  | .str name =>
    if words.contains name then
      let fresh := Identifier.reserve name
      ⟨{ l with name := .str fresh }, 1,
        [filePath ++ ": renaming reserved name '" ++ name ++ "' to '" ++ fresh ++ "'"], false⟩
    else .unchanged l
  | .scalar _ | .set _ => .unchanged l
  | _ => ⟨l, 0, [], true⟩

/-- Rename a field or parameter. -/
def renameMember (words : List String) (filePath : String) (m : Member) : Visit Member :=
  (renameLabel words filePath m.toLabel).map fun l => { m with toLabel := l }

/-- Rename a declaration and then its members. -/
def renameDeclaration (words : List String) (filePath : String) (d : Declaration) :
    Visit Declaration :=
  Visit.both (fun l members => { toLabel := l, body := d.body.withMembers members })
    (renameLabel words filePath d.toLabel) d.members
    fun _ => Visit.list (renameMember words filePath) d.members

/-- Hide a declaration without a name. -/
def hideUnnamed (filePath : String) (d : Declaration) : Visit Declaration :=
  if !d.name.isTruthy && d.isGenerated then
    ⟨{ d with isGenerated := false }, 0, [filePath ++ ": ignoring unnamed " ++ d.kind], false⟩
  else .unchanged d

/-- Visit the declarations of a unit. -/
def visitDeclarations (visit : Declaration → Visit Declaration) (u : SourceUnit) :
    Visit SourceUnit :=
  (Visit.list visit u.declarations).map fun declarations =>
    { u with declarations := declarations }

/-- Visit a unit, whoever it belongs to. -/
def visitUnit (u : SourceUnit) : Pass → Visit SourceUnit
  | ignoreUnnamed => visitDeclarations (hideUnnamed u.filePath) u
  | renameReserved words => visitDeclarations (renameDeclaration words u.filePath) u
  | custom _ visit => .unchanged (visit u)

/-- Visit a unit, unless it is a file of the system. -/
def visit (pass : Pass) (u : SourceUnit) : Visit SourceUnit :=
  if u.isSystemHeader then .unchanged u else pass.visitUnit u

/-- Run a pass over a program. -/
def run (pass : Pass) (p : Program) : Visit Program :=
  Visit.both (fun modules loose => ⟨modules, loose⟩)
    (Visit.list (fun (m : Module) => (Visit.list pass.visit m.units).map fun units =>
      { m with units := units }) p.modules)
    p.loose fun _ => Visit.list pass.visit p.loose

end Pass

/-- A pass that waits to be run, with the count of the names it has changed so far. -/
structure PassEntry where
  /-- The pass. -/
  pass : Pass
  /-- Names changed in all runs so far. -/
  renamed : Nat

namespace PassEntry

/-- A pass that has not run yet. -/
def fresh (pass : Pass) : PassEntry := ⟨pass, 0⟩

/-- The count of changed names, of a pass that counts them. -/
def renamedCount? (e : PassEntry) : Option Nat :=
  if e.pass.countsNames then some e.renamed else none

/-- Apply a pass and add to its count. -/
def apply (e : PassEntry) (p : Program) : Visit (PassEntry × Program) :=
  let v := e.pass.run p
  ⟨({ e with renamed := e.renamed + v.renamed }, v.result), v.renamed, v.notes, v.stopped⟩

/-- Apply a pass, with a remark that it starts. -/
def run (e : PassEntry) (p : Program) : Visit (PassEntry × Program) :=
  let v := e.apply p
  { v with notes := ("Running pass " ++ e.pass.name) :: v.notes }

/-- Run passes in order. -/
def runAll (p : Program) : List PassEntry → Visit (List PassEntry × Program)
  | [] => .unchanged ([], p)
  | e :: rest =>
    let first := e.run p
    Visit.both (fun (a : PassEntry × Program) (b : List PassEntry × Program) => (a.1 :: b.1, b.2))
      first (rest, first.result.2) fun _ => runAll first.result.2 rest

end PassEntry

end Interop
