import Mathlib.Data.List.Find
import Interop.Description
import Interop.Proofs.Lists
import Interop.Proofs.Shipped

/-!
# Runs over loaded programs

Reading a unit description gives types that are complete, and names that agree with those of the
native program. If all names are texts, such units are plain, so nothing but the policy can end a
run of a shipped backend by a fault: the fault names the first unit with output of its own that
declares nothing to be generated under a name.
-/

namespace Interop

open Generation

namespace CType

/-- Whatever a text names is complete. -/
theorem isComplete_named (cs : List Char) : (named cs).IsComplete := by
  unfold named
  dsimp only
  split <;> exact trivial

/-- Whatever is read is complete. -/
theorem isComplete_of_parseNormal {cs : List Char} {t : CType} (h : parseNormal cs = .ok t) :
    t.IsComplete := by
  fun_induction parseNormal cs generalizing t with
  | case1 => cases h
  | case2 cs _ element digits _ _ ih =>
    obtain ⟨s, hs, h⟩ := Except.bind_eq_ok_iff.1 h
    have helement := ih hs
    split at h
    · cases h
      exact helement
    · split at h
      · cases h
      · cases h
        exact helement
  | case3 cs _ _ inner isReference _ _ rest _ _ ih =>
    obtain ⟨s, hs, h⟩ := Except.bind_eq_ok_iff.1 h
    have hpointee := ih hs
    cases h
    exact hpointee
  | case4 cs _ _ inner isReference _ _ _ ih =>
    obtain ⟨s, hs, h⟩ := Except.bind_eq_ok_iff.1 h
    have hpointee := ih hs
    cases h
    exact hpointee
  | case5 =>
    cases h
    exact isComplete_named _

/-- A spelling that is read gives a complete type. -/
theorem isComplete_of_parse {text : String} {t : CType} (h : parse text = .ok t) :
    t.IsComplete := by
  unfold parse at h
  split at h
  · cases h
  · exact isComplete_of_parseNormal h

end CType

/-- A label under the name that it has in the native program. -/
def Label.IsNative (l : Label) : Prop := l.nativeName = l.name

/-- A field or parameter as it is read. -/
structure Member.IsRead (m : Member) : Prop where
  /-- It has its native name. -/
  label : m.toLabel.IsNative
  /-- Its type is complete. -/
  type : m.type.IsComplete

/-- A declaration as it is read. -/
structure Declaration.IsRead (d : Declaration) : Prop where
  /-- It has its native name. -/
  label : d.toLabel.IsNative
  /-- So have its members, and their types are complete. -/
  members : ∀ m ∈ d.members, m.IsRead
  /-- What a function gives back has a complete type. -/
  result : ∀ r ∈ d.body.result?, r.IsComplete

namespace Description

variable {source : String} {part : Value}

/-- Showing a part never gives anything but a fault. -/
theorem refuseShowing_ne_ok {α : Type} {defect : DescriptionDefect} {a : α} :
    refuseShowing source part defect ≠ .ok a := by
  unfold refuseShowing refuse
  split <;> exact fun h => (nomatch h)

/-- A type that is read is complete. -/
theorem isComplete_of_typeAt {key : String} {fallback : Option Value}
    {entries : List (Scalar × Value)} {t : CType}
    (h : typeAt source key fallback part entries = .ok t) : t.IsComplete := by
  unfold typeAt at h
  split at h
  · exact absurd h refuseShowing_ne_ok
  · exact absurd h refuseShowing_ne_ok
  · split at h
    · cases h
    · split at h
      · rename_i hparse
        cases h
        exact CType.isComplete_of_parse hparse
      · cases h

/-- A field or parameter is read under its native name, with a complete type. -/
theorem isRead_of_member {m : Member} (h : member source part = .ok m) : m.IsRead := by
  obtain ⟨name, -, h⟩ := Except.bind_eq_ok_iff.1 h
  split at h
  · obtain ⟨type, htype, h⟩ := Except.bind_eq_ok_iff.1 h
    cases h
    exact ⟨rfl, isComplete_of_typeAt htype⟩
  · cases h

/-- What is declared is read with members under their native names, and with complete types. -/
theorem isRead_of_body {kind whole : Value} {entries : List (Scalar × Value)} {b : Body}
    (h : body source kind whole entries = .ok b) :
    (∀ m ∈ b.members, m.IsRead) ∧ ∀ r ∈ b.result?, r.IsComplete := by
  have hfields : ∀ isStruct, body.fields source entries isStruct = .ok b →
      (∀ m ∈ b.members, m.IsRead) ∧ ∀ r ∈ b.result?, r.IsComplete := by
    intro isStruct h
    obtain ⟨items, -, h⟩ := Except.bind_eq_ok_iff.1 h
    obtain ⟨fields, hfields, h⟩ := Except.bind_eq_ok_iff.1 h
    cases h
    refine ⟨Except.forall_of_mapM_eq_ok (fun a m => isRead_of_member) hfields, ?_⟩
    exact fun r hr => (nomatch hr)
  unfold body at h
  split at h
  · exact hfields false h
  · exact hfields true h
  · obtain ⟨result, hresult, h⟩ := Except.bind_eq_ok_iff.1 h
    obtain ⟨items, -, h⟩ := Except.bind_eq_ok_iff.1 h
    obtain ⟨parameters, hparameters, h⟩ := Except.bind_eq_ok_iff.1 h
    cases h
    refine ⟨Except.forall_of_mapM_eq_ok (fun a m => isRead_of_member) hparameters, fun r hr => ?_⟩
    cases hr
    exact isComplete_of_typeAt hresult
  · obtain ⟨items, -, h⟩ := Except.bind_eq_ok_iff.1 h
    obtain ⟨texts, -, h⟩ := Except.bind_eq_ok_iff.1 h
    cases h
    exact ⟨fun m hm => absurd hm List.not_mem_nil, fun r hr => (nomatch hr)⟩
  · exact absurd h refuseShowing_ne_ok

/-- A declaration is read under its native name, with complete types. -/
theorem isRead_of_declaration {d : Declaration} (h : declaration source part = .ok d) :
    d.IsRead := by
  unfold declaration at h
  split at h
  · obtain ⟨kind, -, h⟩ := Except.bind_eq_ok_iff.1 h
    obtain ⟨body, hbody, h⟩ := Except.bind_eq_ok_iff.1 h
    cases h
    obtain ⟨hmembers, hresult⟩ := isRead_of_body hbody
    exact ⟨rfl, hmembers, hresult⟩
  · cases h

/-- All declarations of a unit are read under their native names, with complete types. -/
theorem isRead_of_unit {u : SourceUnit} (h : unit source part = .ok u) :
    ∀ d ∈ u.declarations, d.IsRead := by
  unfold unit at h
  split at h
  · obtain ⟨path, -, h⟩ := Except.bind_eq_ok_iff.1 h
    obtain ⟨filePath, -, h⟩ := Except.bind_eq_ok_iff.1 h
    obtain ⟨items, -, h⟩ := Except.bind_eq_ok_iff.1 h
    obtain ⟨declarations, hdeclarations, h⟩ := Except.bind_eq_ok_iff.1 h
    cases h
    exact Except.forall_of_mapM_eq_ok (fun a d => isRead_of_declaration) hdeclarations
  · cases h

end Description

/-- Whether a declaration is to be generated, under a name that is not empty. -/
def Declaration.isShown (d : Declaration) : Bool := d.isGenerated && d.name.str? != some ""

namespace SourceUnit

/-- A unit that was read from a description, whoever owns it. -/
def IsLoaded (u : SourceUnit) : Prop :=
  ∃ source part loaded, Description.unit source part = .ok loaded ∧
    u = { loaded with owner := u.owner }

/-- Whether no declaration of a unit is to be generated under a name. -/
def isSilent (u : SourceUnit) : Bool := u.declarations.all fun d => !d.isShown

variable {u : SourceUnit}

/-- A loaded unit in which all names are texts is plain. -/
theorem IsLoaded.isPlain (h : u.IsLoaded) (hnames : u.HasTextNames) : u.IsPlain := by
  obtain ⟨source, part, loaded, hunit, hu⟩ := h
  intro d hd
  have hloaded : d ∈ loaded.declarations := by
    rw [hu] at hd
    exact hd
  have hread := Description.isRead_of_unit hunit d hloaded
  obtain ⟨hname, hmembers⟩ := hnames d hd
  have hnamed : ∀ l : Label, l.IsNative → (∃ n, l.name = .str n) → l.IsNamed := by
    intro l hl hn
    refine ⟨hn, ?_⟩
    rw [hl]
    exact hn
  refine ⟨hnamed _ hread.label hname, fun m hm => ?_, hread.result⟩
  have hm' := hread.members m hm
  exact ⟨hnamed _ hm'.label (hmembers m hm), hm'.type⟩

/-- A unit shows something exactly if a declaration of it is generated. -/
theorem showsSomething_iff :
    u.showsSomething = true ↔ ∃ d ∈ u.declarations, d.isGenerated = true := by
  unfold showsSomething generatedDeclarations
  rw [Bool.not_eq_true', List.isEmpty_eq_false_iff, ne_eq, List.filter_eq_nil_iff]
  simp

end SourceUnit

namespace Pass

/-- Passes do not change whether a unit has output of its own. -/
theorem isEligible_onUnitAll (passes : List Pass) (u : SourceUnit) :
    (onUnitAll passes u).isEligible = u.isEligible := by
  induction passes generalizing u with
  | nil => rfl
  | cons pass more ih =>
    obtain ⟨f, hf⟩ := pass.onUnit_eq u
    refine (ih (pass.onUnit u)).trans ?_
    rw [hf]
    unfold SourceUnit.isEligible
    dsimp only
    rw [List.isEmpty_map]

/-- Passes leave a unit at its path. -/
theorem filePath_onUnitAll (passes : List Pass) (u : SourceUnit) :
    (onUnitAll passes u).filePath = u.filePath := by
  induction passes generalizing u with
  | nil => rfl
  | cons pass more ih =>
    obtain ⟨f, hf⟩ := pass.onUnit_eq u
    refine (ih (pass.onUnit u)).trans ?_
    rw [hf]

/-- A declaration under a text is hidden unless it is to be generated under a name. -/
theorem isGenerated_hidden {d : Declaration} (h : ∃ n, d.name = .str n) :
    d.hidden.isGenerated = d.isShown := by
  obtain ⟨n, hn⟩ := h
  unfold Declaration.hidden Declaration.isShown
  dsimp only
  rw [hn]
  congr 1
  change (!n.isEmpty) = (some n != some "")
  by_cases hempty : n = ""
  · rw [hempty]
    decide
  · have hname : n.isEmpty = false := by simpa using hempty
    have hsome : (some n != some "") = true := by simpa using hempty
    rw [hname, hsome]
    rfl

/-- Hiding and renaming act on every declaration of a unit of the program itself. -/
theorem declarations_onUnitAll (words : List String) {u : SourceUnit}
    (hsystem : u.isSystemHeader = false) :
    (onUnitAll [ignoreUnnamed, renameReserved words] u).declarations =
      u.declarations.map fun d => d.hidden.renamed words := by
  simp [onUnitAll, onUnit, hsystem, onDeclaration]

/-- What is hidden and renamed is generated if it was to be generated under a name. -/
theorem isGenerated_hidden_renamed (words : List String) {d : Declaration}
    (h : ∃ n, d.name = .str n) : (d.hidden.renamed words).isGenerated = d.isShown := by
  rw [isGenerated_renamed, isGenerated_hidden h]

/-- After hiding and renaming, a unit of the program itself shows something exactly if it was not
silent. -/
theorem showsSomething_onUnitAll (words : List String) {u : SourceUnit}
    (hsystem : u.isSystemHeader = false) (hnames : u.HasTextNames) :
    (onUnitAll [ignoreUnnamed, renameReserved words] u).showsSomething = !u.isSilent := by
  have hshown : ∀ d ∈ u.declarations, (d.hidden.renamed words).isGenerated = d.isShown :=
    fun d hd => isGenerated_hidden_renamed words (hnames d hd).1
  have hsilent : (!u.isSilent) = true ↔ ∃ d ∈ u.declarations, d.isShown = true := by
    simp [SourceUnit.isSilent]
  rw [Bool.eq_iff_iff, SourceUnit.showsSomething_iff, declarations_onUnitAll words hsystem, hsilent]
  constructor
  · rintro ⟨e, he, hgenerated⟩
    obtain ⟨d, hd, rfl⟩ := List.mem_map.1 he
    exact ⟨d, hd, hshown d hd ▸ hgenerated⟩
  · rintro ⟨d, hd, hd'⟩
    exact ⟨_, List.mem_map_of_mem hd, (hshown d hd).trans hd'⟩

end Pass

/-- A unit with output of its own is a file of the program itself. -/
theorem SourceUnit.isSystemHeader_of_isEligible {u : SourceUnit} (h : u.isEligible = true) :
    u.isSystemHeader = false := by
  simp only [isEligible, Bool.and_eq_true, Bool.not_eq_true'] at h
  exact h.1.2

/-- If a change leaves it open which units have output of their own, these are the changed units at
the same positions. -/
theorem Program.eligibleUnits_mapUnits {change : SourceUnit → SourceUnit}
    (h : ∀ u, (change u).isEligible = u.isEligible) (p : Program) :
    (p.mapUnits change).eligibleUnits = p.eligibleUnits.map (Prod.map id change) := by
  have hplaced : placedUnitsFrom 0 (p.units.map change) =
      (placedUnitsFrom 0 p.units).map (Prod.map id change) := by
    unfold placedUnitsFrom
    rw [List.zipIdx_map, List.map_map, List.map_map]
    rfl
  have heligible : (fun u : PlacedUnit => (change u.2).isEligible) = (·.2.isEligible) :=
    funext fun u => h u.2
  unfold eligibleUnits
  rw [units_mapUnits, hplaced, List.filter_map]
  exact congrArg (fun keep => List.map (Prod.map id change) (List.filter keep _)) heligible

namespace Backend

/-- After its passes, the units with output of their own are those from before. -/
theorem eligibleUnits_passedProgram (b : Backend) (p : Program) :
    (b.passedProgram p).eligibleUnits =
      p.eligibleUnits.map (Prod.map id (Pass.onUnitAll b.passes)) :=
  Program.eligibleUnits_mapUnits (Pass.isEligible_onUnitAll b.passes) p

/-- After its passes, a shipped backend yields something for a unit with output of its own exactly
if the unit was not silent. -/
theorem yields_onUnitAll (target : Target) {u : SourceUnit} (h : u.isEligible = true)
    (hnames : u.HasTextNames) (position : Nat) :
    (ofTarget target).yields (position, Pass.onUnitAll (ofTarget target).passes u) =
      !u.isSilent := by
  have heligible := (Pass.isEligible_onUnitAll (ofTarget target).passes u).trans h
  rw [yields_ofTarget target heligible, passes_ofTarget]
  exact Pass.showsSomething_onUnitAll _ (SourceUnit.isSystemHeader_of_isEligible h) hnames

end Backend

/-- The first unit with output of its own in which no declaration is to be generated under a
name. -/
def firstSilent? (modules : List Module) : Option SourceUnit :=
  ((modules.flatMap (·.units)).filter (·.isEligible)).find? (·.isSilent)

/-- The first silent unit is the first one among the placed units with output of their own. -/
theorem firstSilent?_eq (modules : List Module) : firstSilent? modules =
    ((Program.ofModules modules).eligibleUnits.find? (·.2.isSilent)).map Prod.snd := by
  unfold firstSilent?
  rw [← Program.units_ofModules, ← Program.map_snd_eligibleUnits, List.find?_map]
  rfl

section Runs

variable {o : Options} {modules : List Module} {s : Session} {notify : Output → Action Unit}

/-- After the passes of a shipped backend, the yield of a unit tells whether the unit was silent. -/
theorem yields_passedProgram (target : Target)
    (hnames : ∀ m ∈ modules, ∀ u ∈ m.units, u.HasTextNames) :
    ∀ u ∈ (Program.ofModules modules).eligibleUnits, (Backend.ofTarget target).yields
      (Prod.map id (Pass.onUnitAll (Backend.ofTarget target).passes) u) = !u.2.isSilent := by
  intro u hu
  obtain ⟨hat, heligible⟩ := Program.mem_eligibleUnits_iff.1 hu
  have hmem := List.mem_of_getElem? hat
  rw [Program.units_ofModules] at hmem
  obtain ⟨m, hm, hum⟩ := List.mem_flatMap.1 hmem
  exact Backend.yields_onUnitAll target heligible (hnames m hm u.2 hum) u.1

/-- After the passes of a shipped backend, the first gap is the unit that was the first silent
one. -/
theorem map_gap?_passedProgram (target : Target)
    (hnames : ∀ m ∈ modules, ∀ u ∈ m.units, u.HasTextNames) :
    let b := Backend.ofTarget target
    (b.gap? (b.passedProgram (.ofModules modules)).eligibleUnits).map Prod.snd =
      (firstSilent? modules).map (Pass.onUnitAll b.passes) := by
  intro b
  have hsilent : ∀ u ∈ (Program.ofModules modules).eligibleUnits,
      (!b.yields (Prod.map id (Pass.onUnitAll b.passes) u)) = u.2.isSilent := by
    intro u hu
    rw [yields_passedProgram target hnames u hu, Bool.not_not]
  unfold Backend.gap?
  rw [Backend.eligibleUnits_passedProgram, List.find?_map, firstSilent?_eq, Option.map_map,
    Option.map_map]
  exact congrArg (Option.map _) (List.find?_congr hsilent)

/-- In the layout by module, C# gives one output for every module that the passes leave. -/
theorem map_unit_moduleOutput (p : Program) :
    (p.placedModules.map (Backend.csharp.moduleOutput p)).map (·.unit) =
      p.modules.map fun m => .synthetic (m.outputFileName "cs") m.toLibrary := by
  rw [List.map_map, ← Program.map_fst_placedModules p, List.map_map]
  rfl

/-- A run of the shipped backends over loaded modules in which all names are texts, without a
directory, fails only if the policy asks for it: in the layout by unit, by the fault that names the
first unit with output of its own that declares nothing to be generated under a name. In the layout
by module it gives one output for every module, in order. -/
theorem runTarget_loaded (hs : s.Ready o modules)
    (hloaded : ∀ m ∈ modules, ∀ u ∈ m.units, u.IsLoaded)
    (hnames : ∀ m ∈ modules, ∀ u ∈ m.units, u.HasTextNames)
    (hdirectory : outputDirectory? o = none) (hnotify : Observer notify) :
    let r := (runTarget .shipped notify s).1
    (∀ fault, r = .error fault ↔ o.layout = .perUnit ∧ o.policy = .fail ∧
      ∃ u, firstSilent? modules = some u ∧
        fault = .emptyOutput (Backend.ofTarget o.target).name u.filePath) ∧
    (o.layout = .singleFile → ∃ outputs, r = .ok outputs ∧
      outputs.map (·.unit) =
        modules.map fun m => .synthetic (m.outputFileName "cs") m.toLibrary) := by
  have hplain : (Program.ofModules modules).IsPlain := by
    intro u hu
    rw [Program.units_ofModules] at hu
    obtain ⟨m, hm, hum⟩ := List.mem_flatMap.1 hu
    exact (hloaded m hm u hum).isPlain (hnames m hm u hum)
  obtain ⟨hrun, -, -⟩ := runTarget_shipped_of_ready hs hplain hdirectory hnotify
  have hgap := map_gap?_passedProgram o.target hnames
  dsimp only at hrun hgap ⊢
  rw [hrun]
  unfold shippedOutcome
  cases hlayout : o.layout with
  | singleFile =>
    dsimp only
    refine ⟨fun fault => ⟨fun h => (nomatch h), fun h => (nomatch h.1)⟩, fun _ => ⟨_, rfl, ?_⟩⟩
    rw [Options.target_of_singleFile hlayout]
    refine (map_unit_moduleOutput _).trans ?_
    exact List.map_map ..
  | perUnit =>
    dsimp only
    refine ⟨fun fault => ?_, fun h => (nomatch h)⟩
    cases hpolicy : o.policy with
    | stop => exact ⟨fun h => (nomatch h), fun h => (nomatch h.2.1)⟩
    | skip => exact ⟨fun h => (nomatch h), fun h => (nomatch h.2.1)⟩
    | fail =>
      unfold Account.byUnit
      dsimp only
      cases hfirst : firstSilent? modules with
      | none =>
        rw [hfirst, Option.map_none, Option.map_eq_none_iff] at hgap
        rw [hgap]
        exact ⟨fun h => (nomatch h), fun ⟨_, _, _, h, _⟩ => (nomatch h)⟩
      | some u =>
        rw [hfirst, Option.map_some, Option.map_eq_some_iff] at hgap
        obtain ⟨v, hv, hvu⟩ := hgap
        rw [hv]
        dsimp only
        rw [hvu, Pass.filePath_onUnitAll]
        constructor
        · exact fun h => ⟨rfl, rfl, u, rfl, (Except.error.inj h).symm⟩
        · rintro ⟨-, -, v, h, hfault⟩
          rw [hfault, Option.some.inj h]

end Runs

/-- The description of a unit that declares enumerations without items. -/
def Description.ofEnumerations (filePath : String) (names : List String) : Value :=
  .dict [(.str "file_path", .str filePath), (.str "declarations", .list (names.map fun name =>
    .dict [(.str "kind", .str "enum"), (.str "name", .str name)]))]

/-- The names in a unit that declares enumerations are texts, whoever owns it. -/
theorem SourceUnit.hasTextNames_ofEnumerations (filePath : String) (names : List String)
    (isGenerated : Bool) (owner : Option Library) :
    SourceUnit.HasTextNames { ofEnumerations filePath names isGenerated with owner := owner } := by
  intro d hd
  obtain ⟨name, -, rfl⟩ := List.mem_map.1 hd
  exact ⟨⟨name, rfl⟩, fun m hm => absurd hm List.not_mem_nil⟩

/-- A module whose second unit is silent, and a module without units. In the layout by unit the run
fails by the path of the silent unit; in the layout by module it gives two outputs. -/
theorem runTarget_loaded_silent :
    let modules := [Module.ofUnits ⟨"Core", some "Acme.Core"⟩
      [.ofEnumerations "core/color.h" ["Color"] true, .ofEnumerations "core/none.h" [""] true],
      Module.ofUnits ⟨"Empty", none⟩ []]
    (∀ m ∈ modules, ∀ u ∈ m.units, u.IsLoaded) ∧
    (∀ m ∈ modules, ∀ u ∈ m.units, u.HasTextNames) ∧
    (freshRun ⟨.csharp, false, none, .fail⟩ modules).1 =
      .error (.emptyOutput "CSharpGenerator" "core/none.h") ∧
    ∃ outputs, (freshRun ⟨.csharp, true, none, .fail⟩ modules).1 = .ok outputs ∧
      outputs.map (·.unit.filePath) = ["Acme.Core.cs", "Empty.cs"] := by
  intro modules
  have hmodules : ∀ P : SourceUnit → Prop,
      (∀ owner, P { SourceUnit.ofEnumerations "core/color.h" ["Color"] true with owner }) →
      (∀ owner, P { SourceUnit.ofEnumerations "core/none.h" [""] true with owner }) →
      ∀ m ∈ modules, ∀ u ∈ m.units, P u := by
    intro P hcolor hnone
    simp [modules, Module.ofUnits, hcolor, hnone]
  have hloaded : ∀ m ∈ modules, ∀ u ∈ m.units, u.IsLoaded := hmodules _
    (fun _ => ⟨"", Description.ofEnumerations "core/color.h" ["Color"], _, rfl, rfl⟩)
    (fun _ => ⟨"", Description.ofEnumerations "core/none.h" [""], _, rfl, rfl⟩)
  have hnames : ∀ m ∈ modules, ∀ u ∈ m.units, u.HasTextNames := hmodules _
    (SourceUnit.hasTextNames_ofEnumerations _ _ _) (SourceUnit.hasTextNames_ofEnumerations _ _ _)
  have hunits := runTarget_loaded (Session.ready_start ⟨.csharp, false, none, .fail⟩ modules)
    hloaded hnames rfl observer_ignore
  have hfiles := runTarget_loaded (Session.ready_start ⟨.csharp, true, none, .fail⟩ modules)
    hloaded hnames rfl observer_ignore
  obtain ⟨outputs, houtputs, hmap⟩ := hfiles.2 rfl
  refine ⟨hloaded, hnames, (hunits.1 _).2 ⟨rfl, rfl, _, rfl, rfl⟩, outputs, houtputs, ?_⟩
  have hpaths := congrArg (List.map (·.filePath)) hmap
  rw [List.map_map] at hpaths
  exact hpaths

end Interop
