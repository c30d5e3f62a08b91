import Interop.Backend

/-!
# Units and their positions

The units of a program, each with its position. A list of units is counted from any first position,
so that a program can be taken apart into the parts that its modules make up.
-/

namespace Interop.Program

/-- Units with positions counted from a first one. -/
def placedUnitsFrom (first : Nat) (units : List SourceUnit) : List PlacedUnit :=
  (units.zipIdx first).map Prod.swap

/-- The units of a program that have output of their own: they are generated, declare something, and
are valid files of the program itself. They stand in order of their positions. -/
def eligibleUnits (p : Program) : List PlacedUnit :=
  (placedUnitsFrom 0 p.units).filter (·.2.isEligible)

/-- The units at some positions, with their positions. -/
def placedAt (p : Program) (positions : List Nat) : List PlacedUnit :=
  positions.filterMap fun i => (p.units[i]?).map fun u => (i, u)

/-- Units are counted on where the units before them end. -/
theorem placedUnitsFrom_append (first : Nat) (us vs : List SourceUnit) :
    placedUnitsFrom first (us ++ vs) =
      placedUnitsFrom first us ++ placedUnitsFrom (first + us.length) vs := by
  unfold placedUnitsFrom
  rw [List.zipIdx_append, List.map_append]

/-- Without their positions, placed units are the units. -/
theorem map_snd_placedUnitsFrom (first : Nat) (us : List SourceUnit) :
    (placedUnitsFrom first us).map Prod.snd = us := by
  unfold placedUnitsFrom
  rw [List.map_map]
  exact List.zipIdx_map_fst first us

/-- The positions of the units that have output of their own are those of the placed units. -/
theorem eligiblePositions_eq (p : Program) :
    p.eligiblePositions = p.eligibleUnits.map Prod.fst := by
  unfold eligiblePositions eligibleUnits placedUnitsFrom
  rw [List.filter_map, List.map_map]
  rfl

/-- A placed unit has output of its own exactly if it stands at its position and is eligible. -/
theorem mem_eligibleUnits_iff {p : Program} {u : PlacedUnit} :
    u ∈ p.eligibleUnits ↔ p.units[u.1]? = some u.2 ∧ u.2.isEligible = true := by
  obtain ⟨i, unit⟩ := u
  unfold eligibleUnits placedUnitsFrom
  rw [List.mem_filter]
  refine and_congr_left fun _ => ?_
  rw [List.mem_map]
  constructor
  · rintro ⟨⟨v, j⟩, hm, hv⟩
    cases hv
    exact List.mem_zipIdx_iff_getElem?.1 hm
  · exact fun hu => ⟨(unit, i), List.mem_zipIdx_iff_getElem?.2 hu, rfl⟩

/-- A unit with output of its own stands at its position. -/
theorem getElem?_of_mem_eligibleUnits {p : Program} {u : PlacedUnit} (h : u ∈ p.eligibleUnits) :
    p.units[u.1]? = some u.2 := (mem_eligibleUnits_iff.1 h).1

/-- Without their positions, the units that have output of their own are the eligible ones. -/
theorem map_snd_eligibleUnits (p : Program) :
    p.eligibleUnits.map Prod.snd = p.units.filter (·.isEligible) := by
  have h := congrArg (List.filter (·.isEligible)) (map_snd_placedUnitsFrom 0 p.units)
  rwa [List.filter_map] at h

/-- The units at some positions are units of the program. -/
theorem mem_units_of_mem_unitsAt {p : Program} {positions : List Nat} {u : SourceUnit}
    (h : u ∈ p.unitsAt positions) : u ∈ p.units := by
  obtain ⟨i, -, hi⟩ := List.mem_filterMap.1 h
  exact List.mem_of_getElem? hi

/-- A placed unit stands at its position. -/
theorem getElem?_of_mem_placedAt {p : Program} {positions : List Nat} {u : PlacedUnit}
    (h : u ∈ p.placedAt positions) : p.units[u.1]? = some u.2 := by
  obtain ⟨i, -, hi⟩ := List.mem_filterMap.1 h
  obtain ⟨unit, hu, rfl⟩ := Option.map_eq_some_iff.1 hi
  exact hu

/-- The units at the positions of placed units are those units. -/
theorem unitsAt_map_fst {p : Program} {placed : List PlacedUnit}
    (h : ∀ u ∈ placed, p.units[u.1]? = some u.2) :
    p.unitsAt (placed.map Prod.fst) = placed.map Prod.snd := by
  unfold unitsAt
  rw [List.filterMap_map]
  induction placed with
  | nil => rfl
  | cons u more ih =>
    rw [List.filterMap_cons, List.map_cons, Function.comp_apply, h u List.mem_cons_self]
    exact congrArg (u.2 :: ·) (ih fun v hv => h v (List.mem_cons_of_mem u hv))

/-- Units that stand next to each other in a program are placed from the first position on. -/
theorem placedAt_range' {p : Program} {before units after : List SourceUnit}
    (h : p.units = before ++ units ++ after) :
    p.placedAt (List.range' before.length units.length) =
      placedUnitsFrom before.length units := by
  induction units generalizing before with
  | nil => rfl
  | cons u more ih =>
    have hu : p.units[before.length]? = some u := by
      rw [h, List.append_assoc, List.getElem?_append_right (Nat.le_refl _), Nat.sub_self]
      rfl
    have hsplit : p.units = before ++ [u] ++ more ++ after := by
      rw [h]
      simp only [List.append_assoc, List.cons_append, List.nil_append]
    have hmore := ih hsplit
    rw [List.length_append, List.length_singleton] at hmore
    unfold placedAt at hmore ⊢
    rw [List.length_cons, List.range'_succ, List.filterMap_cons, hu, hmore]
    rfl

/-- The modules of a part of a program are placed at the positions of their units, and the units
with output of their own are those of the modules, one module after the other. -/
theorem placedFrom_spec {p : Program} (modules : List Module) {before after : List SourceUnit}
    (h : p.units = before ++ modules.flatMap (·.units) ++ after) :
    (∀ m ∈ placedFrom before.length modules, (p.placedAt m.2).map Prod.snd = m.1.units) ∧
      (placedFrom before.length modules).flatMap (fun m => p.placedAt m.2) =
        placedUnitsFrom before.length (modules.flatMap (·.units)) := by
  induction modules generalizing before with
  | nil => exact ⟨fun m hm => absurd hm List.not_mem_nil, rfl⟩
  | cons m more ih =>
    rw [List.flatMap_cons] at h ⊢
    have hsplit : p.units = before ++ m.units ++ more.flatMap (·.units) ++ after := by
      rw [h]
      simp only [List.append_assoc]
    have hhead := placedAt_range' (h.trans (by simp only [List.append_assoc]) :
      p.units = before ++ m.units ++ (more.flatMap (·.units) ++ after))
    obtain ⟨hall, hflat⟩ := ih hsplit
    rw [List.length_append] at hall hflat
    rw [placedFrom, placedUnitsFrom_append]
    refine ⟨fun m' hm' => ?_, ?_⟩
    · rcases List.mem_cons.1 hm' with rfl | hm'
      · rw [hhead]
        exact map_snd_placedUnitsFrom _ _
      · exact hall m' hm'
    · rw [List.flatMap_cons, hhead, hflat]

/-- The units at the positions of a module are the module's units. -/
theorem map_snd_placedAt {p : Program} {m : Module × List Nat} (h : m ∈ p.placedModules) :
    (p.placedAt m.2).map Prod.snd = m.1.units :=
  (@placedFrom_spec p p.modules [] p.loose rfl).1 m h

/-- The units at the positions of a module's units that have output of their own are the eligible
ones of the module. -/
theorem unitsAt_eligible_placedAt {p : Program} {m : Module × List Nat}
    (h : m ∈ p.placedModules) :
    p.unitsAt (((p.placedAt m.2).filter (·.2.isEligible)).map Prod.fst) =
      m.1.units.filter (·.isEligible) := by
  rw [unitsAt_map_fst fun u hu => getElem?_of_mem_placedAt (List.mem_filter.1 hu).1]
  have hm := congrArg (List.filter (·.isEligible)) (map_snd_placedAt h)
  rwa [List.filter_map] at hm

/-- Without their positions, placed modules are the modules. -/
theorem map_fst_placedModules (p : Program) : p.placedModules.map Prod.fst = p.modules := by
  have h : ∀ (modules : List Module) (first : Nat),
      (placedFrom first modules).map Prod.fst = modules := by
    intro modules
    induction modules with
    | nil => exact fun _ => rfl
    | cons m more ih => exact fun first => congrArg (m :: ·) (ih _)
  exact h p.modules 0

/-- In a program of modules, the units with output of their own stand module by module. -/
theorem eligibleUnits_ofModules (modules : List Module) :
    (ofModules modules).eligibleUnits = (ofModules modules).placedModules.flatMap
      fun m => ((ofModules modules).placedAt m.2).filter (·.2.isEligible) := by
  have h := (@placedFrom_spec (ofModules modules) modules [] [] rfl).2
  have hunits : (ofModules modules).units = modules.flatMap (·.units) := units_ofModules modules
  unfold eligibleUnits
  rw [hunits, ← List.filter_flatMap]
  exact congrArg (List.filter _) h.symm

end Interop.Program

namespace Interop

/-- A unit that declares enumerations without items, under names that may be empty. -/
def SourceUnit.ofEnumerations (filePath : String) (names : List String) (isGenerated : Bool) :
    SourceUnit where
  filePath := filePath
  owner := none
  declarations := names.map fun name =>
    { Label.named (.str name) isGenerated with body := .enumeration [] }
  isGenerated := true
  isSystemHeader := false
  isValid := true
  isSynthetic := false

/-- A unit with a record and a function, both under names that are reserved words of C#. -/
def SourceUnit.ofReserved (filePath : String) : SourceUnit where
  filePath := filePath
  owner := none
  declarations := [
    { Label.named (.str "event") true with
      body := .record true [{ Label.named (.str "object") true with
        type := .pointer (.tag "event") false true }] },
    { Label.named (.str "lock") true with
      body := .function (.builtin .void) [{ Label.named (.str "text") true with
        type := .pointer (.builtin .char) false true }] }]
  isGenerated := true
  isSystemHeader := false
  isValid := true
  isSynthetic := false

/-- A module with a namespace, whose second unit shows nothing once nameless declarations are
hidden. -/
def Module.core : Module :=
  .ofUnits ⟨"Core", some "Acme.Core"⟩
    [.ofReserved "core/event.h", .ofEnumerations "core/none.h" [""] true]

/-- A module without a namespace. -/
def Module.gui : Module := .ofUnits ⟨"Gui", none⟩ [.ofEnumerations "gui/button.h" ["Button"] true]

end Interop
