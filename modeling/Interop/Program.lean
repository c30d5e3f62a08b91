import Interop.SourceUnit

/-!
# Programs

A program is a list of modules, each with its units, and further units that belong to no module of
the list. Its units have positions, counted through the modules in order and then through the
further units; a position names a unit for as long as the program lives, whatever passes do to it.
-/

namespace Interop

/-- A library with the units that make it up. -/
structure Module extends Library where
  /-- The units in the order of the configuration. -/
  units : List SourceUnit

namespace Module

/-- A module whose units know the library that owns them. -/
def ofUnits (library : Library) (units : List SourceUnit) : Module :=
  ⟨library, units.map ({ · with owner := some library })⟩

/-- Every unit of a module is owned by its library. -/
theorem owner_of_mem_ofUnits {library : Library} {units : List SourceUnit} {u : SourceUnit}
    (h : u ∈ (ofUnits library units).units) : u.owner = some library := by
  obtain ⟨v, _, rfl⟩ := List.mem_map.1 h
  rfl

/-- A short description of a module. -/
def describe (m : Module) : String :=
  "Module(library_name=" ++ Text.Quoted.quoted m.name ++ ", output_namespace=" ++
    SourceUnit.quotedOption m.outputNamespace ++ ", units=" ++ Nat.repr m.units.length ++ ")"

end Module

/-- A native program. -/
structure Program where
  /-- The modules in the order of the configuration. -/
  modules : List Module
  /-- Units that no module lists. -/
  loose : List SourceUnit

namespace Program

/-- A program that consists of modules alone. -/
def ofModules (modules : List Module) : Program := ⟨modules, []⟩

/-- All units, in order of their positions. -/
def units (p : Program) : List SourceUnit := p.modules.flatMap (·.units) ++ p.loose

/-- The units of a program of modules are those of the modules. -/
theorem units_ofModules (modules : List Module) :
    (ofModules modules).units = modules.flatMap (·.units) := by
  simp [units, ofModules]

/-- The units at some positions, without the positions at which there is none. -/
def unitsAt (p : Program) (positions : List Nat) : List SourceUnit :=
  positions.filterMap (p.units[·]?)

/-- The positions of the units that have output of their own. -/
def eligiblePositions (p : Program) : List Nat :=
  (p.units.zipIdx.filter (·.1.isEligible)).map (·.2)

/-- Modules with the positions of their units, counted from a first position. -/
def placedFrom (first : Nat) : List Module → List (Module × List Nat)
  | [] => []
  | m :: more =>
    (m, List.range' first m.units.length) :: placedFrom (first + m.units.length) more

/-- The modules with the positions of their units. -/
def placedModules (p : Program) : List (Module × List Nat) := placedFrom 0 p.modules

/-- The position of the first unit with a path. -/
def position? (p : Program) (filePath : String) : Option Nat :=
  p.units.findIdx? (·.filePath == filePath)

end Program

end Interop
