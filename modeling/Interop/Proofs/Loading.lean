import Interop.Program.Loading
import Interop.Proofs.Defects
import Interop.Proofs.Validation

/-!
# What loading gives

The program of an accepted configuration consists of its modules in order, and in each of the units
that its sources tell, in order and owned by the module. The first source that tells no unit,
through all modules in order, ends the loading by its fault. A source is a description in the
configuration itself or in a file; which of the two only shows in the label that defects carry.
-/

namespace Interop

/-- A fault with another label, if it carries one. -/
def DescriptionFault.relabelled (source : String) : DescriptionFault → DescriptionFault
  | .defect d _ => .defect d source
  | fault => fault

/-- The fault of a description with another label, if it carries one. -/
def Fault.relabelled (source : String) : Fault → Fault
  | .description fault => .description (fault.relabelled source)
  | fault => fault

namespace Description

/-- Readings that differ in nothing but the label of their defects. -/
def Relabels {α : Type} (source : String) (r r' : Reader α) : Prop :=
  r = r'.mapError (DescriptionFault.relabelled source)

section Labels

variable {α β : Type} {source source' : String} {part : Value} {entries : List (Scalar × Value)}

/-- A result has no label. -/
theorem relabels_ok (a : α) : Relabels source (.ok a) (.ok a) := rfl

/-- A defect is reported with either label. -/
theorem relabels_refuse (d : DescriptionDefect) :
    Relabels source (refuse source d : Reader α) (refuse source' d) := rfl

/-- A part of the wrong shape has no label. -/
theorem relabels_malformed :
    Relabels source (.error .malformed : Reader α) (.error .malformed) := rfl

/-- Two steps differ in the label if each of them does. -/
theorem Relabels.bind {r r' : Reader α} {next next' : α → Reader β} (h : Relabels source r r')
    (hnext : ∀ a, Relabels source (next a) (next' a)) :
    Relabels source (r >>= next) (r' >>= next') := by
  rw [Relabels] at h
  rw [h]
  cases r' with
  | error fault => rfl
  | ok a => exact hnext a

/-- Readings of all members of a list differ in the label if those of each do. -/
theorem Relabels.mapM {read read' : α → Reader β} (h : ∀ a, Relabels source (read a) (read' a))
    (l : List α) : Relabels source (l.mapM read) (l.mapM read') := by
  induction l with
  | nil => exact relabels_ok _
  | cons a rest ih =>
    rw [List.mapM_cons, List.mapM_cons]
    exact (h a).bind fun b => ih.bind fun bs => relabels_ok _

/-- A defect that shows a part is reported with either label. -/
theorem relabels_refuseShowing (d : DescriptionDefect) :
    Relabels source (refuseShowing source part d : Reader α) (refuseShowing source' part d) := by
  unfold refuseShowing
  split <;> rfl

/-- A text has no label. -/
theorem relabels_textOf : Relabels source (textOf part) (textOf part) := by
  unfold textOf
  split <;> rfl

/-- Items have no label. -/
theorem relabels_items (listed : Option Value) : Relabels source (items listed) (items listed) := by
  unfold items
  split
  · rfl
  · split
    · split <;> rfl
    · rfl

/-- A key that must be there. -/
theorem relabels_required (key : String) :
    Relabels source (required source key part) (required source' key part) := by
  unfold required
  cases part.opened with
  | dict entries =>
    dsimp only
    generalize Value.lookup key entries = found
    split
    · exact relabels_refuseShowing _
    · exact relabels_refuseShowing _
    · exact relabels_refuseShowing _
    · exact relabels_ok _
  | _ =>
    dsimp only
    split
    · exact relabels_refuseShowing _
    · exact relabels_malformed

/-- A type. -/
theorem relabels_typeAt (key : String) (fallback : Option Value) :
    Relabels source (typeAt source key fallback part entries)
      (typeAt source' key fallback part entries) := by
  unfold typeAt
  generalize (Value.lookup key entries).or fallback = found
  split
  · exact relabels_refuseShowing _
  · exact relabels_refuseShowing _
  · rename_i spelling _
    cases spelling.text? with
    | none => exact relabels_refuse _
    | some text =>
      dsimp only
      cases CType.parse text with
      | ok t => exact relabels_ok t
      | error fault => exact relabels_refuse _

/-- A field or parameter. -/
theorem relabels_member (part : Value) :
    Relabels source (member source part) (member source' part) := by
  unfold member
  refine (relabels_required "name").bind fun name => ?_
  cases part.opened with
  | dict entries => exact (relabels_typeAt "type" none).bind fun t => relabels_ok _
  | _ => exact relabels_malformed

/-- What is declared. -/
theorem relabels_body (kind : Value) : Relabels source (body source kind part entries)
    (body source' kind part entries) := by
  have hmembers : ∀ {make : List Member → Body} {listed}, Relabels source
      (items listed >>= fun found => found.mapM (member source) >>= fun ms => .ok (make ms))
      (items listed >>= fun found => found.mapM (member source') >>= fun ms => .ok (make ms)) :=
    (relabels_items _).bind fun _ => (Relabels.mapM relabels_member _).bind fun _ => relabels_ok _
  unfold body
  split
  · exact hmembers
  · exact hmembers
  · exact (relabels_typeAt _ _).bind fun _ => hmembers
  · exact (relabels_items _).bind fun _ =>
      (Relabels.mapM (fun _ => relabels_textOf) _).bind fun _ => relabels_ok _
  · exact relabels_refuseShowing _

/-- A declaration. -/
theorem relabels_declaration (part : Value) :
    Relabels source (declaration source part) (declaration source' part) := by
  unfold declaration
  cases part.opened with
  | dict entries =>
    exact (relabels_required "kind").bind fun kind => (relabels_body kind).bind fun _ =>
      relabels_ok _
  | _ => exact relabels_refuse _

/-- A unit. -/
theorem relabels_unit (source source' : String) (part : Value) :
    Relabels source (unit source part) (unit source' part) := by
  unfold unit
  cases part.opened with
  | dict entries =>
    refine (relabels_required "file_path").bind fun path => relabels_textOf.bind fun _ => ?_
    exact (relabels_items _).bind fun _ =>
      (Relabels.mapM relabels_declaration _).bind fun _ => relabels_ok _
  | _ => exact relabels_refuse _

end Labels

section Opened

variable {source : String} {part : Value} {entries : List (Scalar × Value)}

/-- A key that must be there is read exactly if its value is given. -/
theorem required_eq_ok_iff (h : part.IsMapping) {key : String} {v : Value} :
    required source key part = .ok v ↔ given? key part = some v := by
  rw [required_eq h]
  cases given? key part with
  | none => exact ⟨fun h => absurd h refuseShowing_ne_ok, fun h => (nomatch h)⟩
  | some w =>
    exact ⟨fun h => congrArg some (Except.ok.inj h), fun h => congrArg _ (Option.some.inj h)⟩

/-- A description that is tied describes what it describes once it is opened. -/
theorem unit_eq_ok_iff_of_opened (h : part.opened = .dict entries) {u : SourceUnit} :
    unit source part = .ok u ↔ unit source (.dict entries) = .ok u := by
  obtain ⟨hmapping, hentries⟩ := Value.isMapping_of_opened h
  have hgiven : given? "file_path" part = given? "file_path" (.dict entries) := by
    unfold given? valueAt
    rw [hentries]
    rfl
  unfold unit
  rw [h, Value.opened_dict]
  dsimp only
  simp only [Except.bind_eq_ok_iff, required_eq_ok_iff hmapping, hgiven,
    required_eq_ok_iff (show (Value.dict entries).IsMapping from rfl)]

end Opened

end Description

namespace Program

section Sources

variable (w : Workspace) (base : Path)

/-- The label of the defects of a source: that of all descriptions in configurations, or the path of
a file. -/
def labelOf : UnitSource → String
  | .inline _ => inlineSource
  | .file path => (base.join (.ofString path)).toString

/-- Whether a source tells a description: that of an inline source stands there, and that of a file
is the datum that its content stands for. -/
inductive Tells : UnitSource → Value → Prop
  /-- The configuration tells it. -/
  | inline (entries : List (Scalar × Value)) : Tells (.inline entries) (.dict entries)
  /-- A file tells it. -/
  | file {path content : String} {v : Value}
    (hcontent : w.read? (base.join (.ofString path)) = some content)
    (hread : Yaml.read content = .ok v) : Tells (.file path) v

/-- Whether a source gives a unit, which nothing owns yet: it tells a description that describes
it. -/
def Gives (source : UnitSource) (u : SourceUnit) : Prop :=
  ∃ v, Tells w base source v ∧ Description.unit (labelOf base source) v = .ok u

/-- Why a source tells no description. -/
inductive IsUntold : UnitSource → Fault → Prop
  /-- There is no file. -/
  | noFile {path : String} (hcontent : w.read? (base.join (.ofString path)) = none) :
    IsUntold (.file path)
      (defectFault (labelOf base (.file path)) (.noFile (labelOf base (.file path))))
  /-- The file breaks the rules of the data format. -/
  | unreadable {path content : String}
    (hcontent : w.read? (base.join (.ofString path)) = some content)
    (hread : Yaml.read content = .error .unreadable) : IsUntold (.file path)
      (defectFault (labelOf base (.file path)) (.unreadable (labelOf base (.file path))))
  /-- The file keeps the rules of the data format, but stands for no datum. -/
  | reading {path content : String} {fault : Yaml.ReadFault}
    (hcontent : w.read? (base.join (.ofString path)) = some content)
    (hread : Yaml.read content = .error fault) (hfault : fault ≠ .unreadable) :
    IsUntold (.file path) (.reading fault)

/-- Why a source tells no unit: it tells no description, or one that cannot be read. -/
inductive Fails (source : UnitSource) : Fault → Prop
  /-- It tells no description. -/
  | untold {fault : Fault} (h : IsUntold w base source fault) : Fails source fault
  /-- The description cannot be read. -/
  | description {v : Value} {fault : DescriptionFault} (htells : Tells w base source v)
    (hunit : Description.unit (labelOf base source) v = .error fault) :
    Fails source (.description fault)

variable {w base} {source : UnitSource}

/-- A source is read if it tells a description. -/
theorem readSource_eq_ok_iff {v : Value} {label : String} :
    readSource w base source = .ok (v, label) ↔
      Tells w base source v ∧ label = labelOf base source := by
  constructor
  · intro h
    unfold readSource at h
    split at h
    · obtain ⟨rfl, rfl⟩ := Prod.mk.inj (Except.ok.inj h)
      exact ⟨.inline _, rfl⟩
    · dsimp only at h
      split at h
      · cases h
      · rename_i content hcontent
        split at h
        · rename_i found hread
          obtain ⟨rfl, rfl⟩ := Prod.mk.inj (Except.ok.inj h)
          exact ⟨.file hcontent hread, rfl⟩
        · cases h
        · cases h
  · rintro ⟨htells, rfl⟩
    cases htells with
    | inline entries => rfl
    | file hcontent hread =>
      unfold readSource
      dsimp only
      rw [hcontent]
      dsimp only
      rw [hread]
      rfl

/-- A source is not read if it tells no description. -/
theorem readSource_eq_error_iff {fault : Fault} :
    readSource w base source = .error fault ↔ IsUntold w base source fault := by
  constructor
  · intro h
    unfold readSource at h
    split at h
    · cases h
    · dsimp only at h
      split at h
      · rename_i hcontent
        exact Except.error.inj h ▸ .noFile hcontent
      · rename_i content hcontent
        split at h
        · cases h
        · rename_i hread
          exact Except.error.inj h ▸ .unreadable hcontent hread
        · rename_i other hother hread
          exact Except.error.inj h ▸ .reading hcontent hread hother
  · intro h
    cases h with
    | noFile hcontent =>
      unfold readSource
      dsimp only
      rw [hcontent]
      rfl
    | unreadable hcontent hread =>
      unfold readSource
      dsimp only
      rw [hcontent]
      dsimp only
      rw [hread]
      rfl
    | @reading path content other hcontent hread hfault =>
      unfold readSource
      dsimp only
      rw [hcontent]
      dsimp only
      rw [hread]
      cases other with
      | unreadable => exact absurd rfl hfault
      | _ => rfl

/-- A source is loaded as a unit exactly if it gives the unit. -/
theorem loadUnit_eq_ok_iff {u : SourceUnit} :
    loadUnit w base source = .ok u ↔ Gives w base source u := by
  unfold loadUnit
  rw [Except.bind_eq_ok_iff]
  constructor
  · rintro ⟨⟨v, label⟩, hread, hunit⟩
    obtain ⟨htells, rfl⟩ := readSource_eq_ok_iff.1 hread
    exact ⟨v, htells, Except.mapError_eq_ok_iff.1 hunit⟩
  · rintro ⟨v, htells, hunit⟩
    exact ⟨(v, labelOf base source), readSource_eq_ok_iff.2 ⟨htells, rfl⟩,
      Except.mapError_eq_ok_iff.2 hunit⟩

/-- A source gives no unit exactly if it fails. -/
theorem loadUnit_eq_error_iff {fault : Fault} :
    loadUnit w base source = .error fault ↔ Fails w base source fault := by
  unfold loadUnit
  constructor
  · intro h
    cases hread : readSource w base source with
    | error other =>
      rw [hread] at h
      exact Except.error.inj h ▸ .untold (readSource_eq_error_iff.1 hread)
    | ok told =>
      obtain ⟨v, label⟩ := told
      obtain ⟨htells, rfl⟩ := readSource_eq_ok_iff.1 hread
      rw [hread] at h
      obtain ⟨fault, hunit, rfl⟩ := Except.mapError_eq_error_iff.1 h
      exact .description htells hunit
  · intro h
    cases h with
    | untold h =>
      rw [readSource_eq_error_iff.2 h]
      rfl
    | description htells hunit =>
      rw [readSource_eq_ok_iff.2 ⟨htells, rfl⟩]
      exact Except.mapError_eq_error_iff.2 ⟨_, hunit, rfl⟩

/-- A source that fails does so by a defect with its label, with three exceptions: the description
has a part of the wrong shape, or a number that is too long to be written, or a file that keeps the
rules of the data format stands for no datum. -/
theorem Fails.label {fault : Fault} (h : Fails w base source fault) :
    (∃ d, fault = defectFault (labelOf base source) d) ∨
    (∃ v, Tells w base source v ∧
      (fault = .description .malformed ∧ ¬ Description.IsUnitShaped v ∨
        fault = .description .longNumber ∧ v.hasText = false)) ∨
    ∃ path content other, source = .file path ∧
      w.read? (base.join (.ofString path)) = some content ∧
      Yaml.read content = .error other ∧ other ≠ .unreadable ∧ fault = .reading other := by
  cases h with
  | untold h =>
    cases h with
    | noFile => exact .inl ⟨_, rfl⟩
    | unreadable => exact .inl ⟨_, rfl⟩
    | reading hcontent hread hfault =>
      exact .inr (.inr ⟨_, _, _, rfl, hcontent, hread, hfault, rfl⟩)
  | description htells hunit =>
    rcases Description.tellsOfShape_unit.fault _ hunit with ⟨d, rfl⟩ | ⟨rfl, hshape⟩ | ⟨rfl, htext⟩
    · exact .inl ⟨d, rfl⟩
    · exact .inr (.inl ⟨_, htells, .inl ⟨rfl, hshape⟩⟩)
    · exact .inr (.inl ⟨_, htells, .inr ⟨rfl, Bool.not_eq_true _ ▸ htext⟩⟩)

/-- A source that tells a description gives what the description describes. -/
theorem gives_iff_of_tells {v : Value} (h : Tells w base source v) {u : SourceUnit} :
    Gives w base source u ↔ Description.unit (labelOf base source) v = .ok u := by
  refine ⟨fun ⟨v', hv', hunit⟩ => ?_, fun hunit => ⟨v, h, hunit⟩⟩
  have hread := (readSource_eq_ok_iff.2 ⟨h, rfl⟩).symm.trans (readSource_eq_ok_iff.2 ⟨hv', rfl⟩)
  rwa [(Prod.mk.inj (Except.ok.inj hread)).1]

/-- A source that tells a description fails as reading the description does. -/
theorem fails_iff_of_tells {v : Value} (h : Tells w base source v) {fault : Fault} :
    Fails w base source fault ↔ ∃ other,
      Description.unit (labelOf base source) v = .error other ∧ fault = .description other := by
  rw [← loadUnit_eq_error_iff, ← Except.mapError_eq_error_iff]
  unfold loadUnit
  rw [readSource_eq_ok_iff.2 ⟨h, rfl⟩]
  exact Iff.rfl

/-- A file gives the unit that its description gives in the configuration itself. -/
theorem gives_file_iff {path : String} {v : Value} (h : Tells w base (.file path) v)
    (hmapping : v.IsMapping) {u : SourceUnit} :
    Gives w base (.file path) u ↔ Gives w base (.inline v.entries) u := by
  rw [gives_iff_of_tells h, gives_iff_of_tells (.inline v.entries),
    Description.unit_eq_ok_iff_of_opened hmapping,
    Description.relabels_unit _ inlineSource (.dict v.entries), Except.mapError_eq_ok_iff]
  exact Iff.rfl

/-- What a file tells fails as in the configuration itself, but for the label of its defects. -/
theorem fails_file_iff {path : String} {entries : List (Scalar × Value)}
    (h : Tells w base (.file path) (.dict entries)) {fault : Fault} :
    Fails w base (.file path) fault ↔ ∃ other, Fails w base (.inline entries) other ∧
      fault = other.relabelled (labelOf base (.file path)) := by
  rw [fails_iff_of_tells h, Description.relabels_unit _ inlineSource (.dict entries)]
  simp only [Except.mapError_eq_error_iff, fails_iff_of_tells (.inline entries)]
  constructor
  · rintro ⟨_, ⟨other, hunit, rfl⟩, rfl⟩
    exact ⟨.description other, ⟨other, hunit, rfl⟩, rfl⟩
  · rintro ⟨_, ⟨other, hunit, rfl⟩, rfl⟩
    exact ⟨_, ⟨other, hunit, rfl⟩, rfl⟩

end Sources

section Programs

variable (w : Workspace) (base : Path)

/-- Whether a unit is what a source gives, owned by a library. -/
def IsUnitOf (library : Library) (source : UnitSource) (u : SourceUnit) : Prop :=
  ∃ loaded, Gives w base source loaded ∧ u = { loaded with owner := some library }

/-- Whether a module has the library of its settings, and the units that their sources give. -/
structure IsModuleOf (settings : ModuleSettings) (m : Module) : Prop where
  /-- The library, with its name and its namespace. -/
  library : m.toLibrary = settings.library
  /-- The units, in order. -/
  units : List.Forall₂ (IsUnitOf w base settings.library) settings.units m.units

/-- Whether a program consists of the modules of a configuration. -/
structure IsProgramOf (c : Configuration) (p : Program) : Prop where
  /-- The modules, in order. -/
  modules : List.Forall₂ (IsModuleOf w base) c.modules p.modules
  /-- There are no further units. -/
  loose : p.loose = []

/-- Loading a module comes to loading its units. -/
theorem outcome_loadModule (settings : ModuleSettings) :
    (loadModule w base settings).outcome =
      Module.ofUnits settings.library <$> settings.units.mapM (loadUnit w base) := by
  unfold loadModule
  rw [Logged.outcome_bind]
  rfl

/-- Loading modules comes to loading each. -/
theorem outcome_loadModules (l : List ModuleSettings) :
    (loadModules w base l).outcome = l.mapM fun settings =>
      Module.ofUnits settings.library <$> settings.units.mapM (loadUnit w base) := by
  induction l with
  | nil => rfl
  | cons settings rest ih =>
    rw [loadModules, List.mapM_cons, Logged.outcome_bind, outcome_loadModule]
    simp only [Logged.outcome_bind, ih]
    rfl

/-- Loading a program comes to loading its modules. -/
theorem outcome_load (c : Configuration) :
    (load w c).outcome = Program.ofModules <$> (c.modules.mapM fun settings =>
      Module.ofUnits settings.library <$> settings.units.mapM (loadUnit w (baseOf w c))) := by
  rw [← outcome_loadModules]
  exact Logged.outcome_bind _ _

/-- The units that sources give make up the module of its settings. -/
theorem map_ofUnits_eq_ok_iff {settings : ModuleSettings} {m : Module} :
    Module.ofUnits settings.library <$> settings.units.mapM (loadUnit w base) = .ok m ↔
      IsModuleOf w base settings m := by
  have hunits : ∀ us, List.map (fun u : SourceUnit => { u with owner := some settings.library }) <$>
      settings.units.mapM (loadUnit w base) = .ok us ↔
        List.Forall₂ (IsUnitOf w base settings.library) settings.units us :=
    fun us => by
      unfold IsUnitOf
      simp only [← loadUnit_eq_ok_iff]
      exact Except.mapM_map_eq_ok_iff
  rw [Except.map_eq_ok_iff]
  constructor
  · rintro ⟨loaded, hloaded, rfl⟩
    exact ⟨rfl, (hunits _).1 (Except.map_eq_ok_iff.2 ⟨loaded, hloaded, rfl⟩)⟩
  · rintro ⟨hlibrary, h⟩
    obtain ⟨loaded, hloaded, hmap⟩ := Except.map_eq_ok_iff.1 ((hunits _).2 h)
    obtain ⟨library, units⟩ := m
    dsimp only at hlibrary hmap
    rw [hlibrary, hmap]
    exact ⟨loaded, hloaded, rfl⟩

/-- Loading a program gives the one that consists of the modules of the configuration. -/
theorem outcome_load_eq_ok_iff {c : Configuration} {p : Program} :
    (load w c).outcome = .ok p ↔ IsProgramOf w (baseOf w c) c p := by
  rw [outcome_load, Except.map_eq_ok_iff]
  simp only [Except.mapM_eq_ok_iff, map_ofUnits_eq_ok_iff]
  constructor
  · rintro ⟨modules, hmodules, rfl⟩
    exact ⟨hmodules, rfl⟩
  · rintro ⟨hmodules, hloose⟩
    obtain ⟨modules, loose⟩ := p
    exact ⟨modules, hmodules, congrArg _ hloose⟩

/-- Loading a program fails by the fault of the first source that fails. -/
theorem outcome_load_eq_error_iff {c : Configuration} {fault : Fault} :
    (load w c).outcome = .error fault ↔ ∃ before source after,
      c.modules.flatMap (·.units) = before ++ source :: after ∧
      (∀ s ∈ before, ∃ u, Gives w (baseOf w c) s u) ∧
      Fails w (baseOf w c) source fault := by
  rw [outcome_load, Except.map_eq_error_iff, Except.mapM_flatMap_eq_error_iff,
    Except.mapM_eq_error_iff]
  simp only [loadUnit_eq_ok_iff, loadUnit_eq_error_iff]

end Programs

end Program

/-- Whether the modules of a configuration are those of one that was found valid, wherever its paths
start from. -/
def Configuration.IsAccepted (c : Configuration) : Prop :=
  ∃ v file accepted, (validate v file).outcome = .ok accepted ∧ c.modules = accepted.modules

/-- No two modules of an accepted configuration have one name. -/
theorem Configuration.IsAccepted.nodup {c : Configuration} (h : c.IsAccepted) :
    (c.modules.map (·.library.name)).Nodup := by
  obtain ⟨v, file, accepted, hvalid, hmodules⟩ := h
  rw [hmodules]
  have hcheck := outcome_validate_eq_ok_iff.1 hvalid
  unfold check at hcheck
  split at hcheck
  · obtain ⟨parts, -, hnames⟩ := Except.bind_eq_ok_iff.1 hcheck
    split at hnames
    · cases hnames
    · rename_i hnone
      obtain rfl := Except.ok.inj hnames
      exact (repeated?_eq_none_iff.1 hnone).1
  · cases hcheck

namespace Program

variable {w : Workspace} {base : Path} {c : Configuration} {p : Program}

/-- The modules of a program have the names that the configuration gives them. -/
theorem IsProgramOf.map_name (h : IsProgramOf w base c p) :
    p.modules.map (·.name) = c.modules.map (·.library.name) := by
  rw [← List.forall₂_eq_eq_eq, List.forall₂_map_left_iff, List.forall₂_map_right_iff]
  exact h.modules.flip.imp fun m settings hm => congrArg Library.name hm.library

/-- Every unit of a loaded module is owned by its library. -/
theorem owner_of_outcome_load (h : (load w c).outcome = .ok p) :
    ∀ m ∈ p.modules, ∀ u ∈ m.units, u.owner = some m.toLibrary := by
  rw [outcome_load, Except.map_eq_ok_iff] at h
  obtain ⟨modules, hmodules, rfl⟩ := h
  refine Except.forall_of_mapM_eq_ok (fun settings m hm => ?_) hmodules
  obtain ⟨units, -, rfl⟩ := Except.map_eq_ok_iff.1 hm
  exact fun u hu => Module.owner_of_mem_ofUnits hu

/-- The owner of a unit tells which module lists it, if no two modules have one name. Libraries of
one name then stand at one position only. -/
theorem owner_eq_iff_of_outcome_load (h : (load w c).outcome = .ok p)
    (hnames : (c.modules.map (·.library.name)).Nodup) {i j : Nat} {m n : Module} {u : SourceUnit}
    (hm : p.modules[i]? = some m) (hn : p.modules[j]? = some n) (hu : u ∈ m.units) :
    u.owner = some n.toLibrary ↔ i = j := by
  rw [owner_of_outcome_load h m (List.mem_of_getElem? hm) u hu, Option.some.injEq]
  constructor
  · intro hlibrary
    rw [← ((outcome_load_eq_ok_iff w).1 h).map_name] at hnames
    have hlt : i < (p.modules.map (·.name)).length := by
      rw [List.length_map]
      exact (List.getElem?_eq_some_iff.1 hm).1
    refine (List.getElem?_inj hlt hnames).1 ?_
    rw [List.getElem?_map, List.getElem?_map, hm, hn]
    exact congrArg (fun library : Library => some library.name) hlibrary
  · rintro rfl
    rw [hm] at hn
    rw [Option.some.inj hn]

/-- The program of an accepted configuration consists of its modules, in order and under their names
and namespaces, and of nothing else. The units of a module are those that its sources give, in
order, and the owner of a unit tells the module that lists it. Where a source gives no unit, loading
fails by the fault of the first such source through all modules. The fault is a defect with the
label of the source, with the exceptions that `Fails.label` lists. A file gives the unit that its
description gives in the configuration itself, and where it gives none, it fails in the same way
under its own label. -/
theorem load_of_accepted (w : Workspace) (h : c.IsAccepted) :
    let base := baseOf w c
    let r := (load w c).outcome
    (∀ p, r = .ok p ↔ IsProgramOf w base c p) ∧
    (∀ p, r = .ok p → p.units = p.modules.flatMap (·.units) ∧
      ∀ (i j : Nat) (m n : Module), p.modules[i]? = some m → p.modules[j]? = some n →
        ∀ u ∈ m.units, (u.owner = some n.toLibrary ↔ i = j)) ∧
    (∀ fault, r = .error fault ↔ ∃ before source after,
      c.modules.flatMap (·.units) = before ++ source :: after ∧
      (∀ s ∈ before, ∃ u, Gives w base s u) ∧ Fails w base source fault) ∧
    (∀ source fault, Fails w base source fault →
      (∃ d, fault = defectFault (labelOf base source) d) ∨
      (∃ v, Tells w base source v ∧
        (fault = .description .malformed ∧ ¬ Description.IsUnitShaped v ∨
          fault = .description .longNumber ∧ v.hasText = false)) ∨
      ∃ path content other, source = .file path ∧
        w.read? (base.join (.ofString path)) = some content ∧
        Yaml.read content = .error other ∧ other ≠ .unreadable ∧ fault = .reading other) ∧
    ∀ path v, Tells w base (.file path) v → v.IsMapping →
      (∀ u, Gives w base (.file path) u ↔ Gives w base (.inline v.entries) u) ∧
      (v = .dict v.entries → ∀ fault, Fails w base (.file path) fault ↔
        ∃ other, Fails w base (.inline v.entries) other ∧
          fault = other.relabelled (labelOf base (.file path))) := by
  intro base r
  refine ⟨fun p => outcome_load_eq_ok_iff w, fun p hp => ?_,
    fun fault => outcome_load_eq_error_iff w, fun source fault => Fails.label,
    fun path v htells hmapping =>
      ⟨fun u => gives_file_iff htells hmapping, fun hv fault => fails_file_iff (hv ▸ htells)⟩⟩
  refine ⟨?_, fun i j m n hm hn u hu => owner_eq_iff_of_outcome_load hp h.nodup hm hn hu⟩
  rw [Program.units, ((outcome_load_eq_ok_iff w).1 hp).loose, List.append_nil]

/-- The entries of a configuration with a module of two units, one of them in a file, and a module
with the units of some files. -/
def twoModuleEntries (files : List String) : List (Scalar × Value) :=
  [(.str "modules", .list [
    .dict [(.str "library_name", .str "Core"), (.str "units", .list [
      .dict [(.str "file_path", .str "key.h")], .str "event.yaml"])],
    .dict [(.str "library_name", .str "Gui"), (.str "units", .list (files.map .str))]])]

/-- The configuration that these entries describe. -/
def twoModules (files : List String) : Configuration where
  target := .csharp
  outputDirectory := some Configuration.usualOutputDirectory
  singleFile := false
  policy := .stop
  modules := [
    ⟨⟨"Core", none⟩, [.inline [(.str "file_path", .str "key.h")], .file "event.yaml"]⟩,
    ⟨⟨"Gui", none⟩, files.map .file⟩]
  baseDirectory := none

/-- A directory with the file of the first module. -/
def eventWorkspace : Workspace :=
  ⟨⟨[["work"]], [(["work", "event.yaml"], "file_path: event.h\n")]⟩, .ofString "/work"⟩

/-- The only entry of a mapping that was read, if both of it are texts. -/
def solePair? : Except Yaml.ReadFault Value → Option (String × String)
  | .ok (.dict [(.str key, .str value)]) => some (key, value)
  | _ => none

/-- A mapping with a sole entry of texts has no other one. -/
theorem eq_of_solePair? {r : Except Yaml.ReadFault Value} {key value : String}
    (h : solePair? r = some (key, value)) : r = .ok (.dict [(.str key, .str value)]) := by
  unfold solePair? at h
  split at h
  · cases h
    rfl
  · cases h

/-- The file of the first module tells a description. -/
theorem tells_event : Tells eventWorkspace (.ofString "/work") (.file "event.yaml")
    (.dict [(.str "file_path", .str "event.h")]) :=
  .file (show eventWorkspace.read? _ = some "file_path: event.h\n" by decide +kernel)
    (eq_of_solePair? (by decide +kernel))

/-- Without further files, the three units are loaded in order, and the owner of each is its module.
With a further file that is not there, loading fails by a defect with the path of that file. -/
theorem load_of_accepted_twoModules :
    (∃ p, (load eventWorkspace (twoModules [])).outcome = .ok p ∧
      p.units.map (fun u => (u.filePath, u.owner.map (·.name))) =
        [("key.h", some "Core"), ("event.h", some "Core")]) ∧
    (load eventWorkspace (twoModules ["none.yaml"])).outcome =
      .error (defectFault "/work/none.yaml" (.noFile "/work/none.yaml")) := by
  have haccepted : (twoModules []).IsAccepted ∧ (twoModules ["none.yaml"]).IsAccepted :=
    ⟨⟨.dict (twoModuleEntries []), none, twoModules [],
        Configuration.outcome_validate_eq_ok_iff.2 rfl, rfl⟩,
      ⟨.dict (twoModuleEntries ["none.yaml"]), none, twoModules ["none.yaml"],
        Configuration.outcome_validate_eq_ok_iff.2 rfl, rfl⟩⟩
  have hinline : ∃ u, Gives eventWorkspace (.ofString "/work")
      (.inline [(.str "file_path", .str "key.h")]) u ∧ u.filePath = "key.h" :=
    ⟨_, ⟨_, .inline _, rfl⟩, rfl⟩
  have hfile : ∃ u, Gives eventWorkspace (.ofString "/work") (.file "event.yaml") u ∧
      u.filePath = "event.h" :=
    ⟨_, ⟨_, tells_event, rfl⟩, rfl⟩
  obtain ⟨key, hkey, hkeyPath⟩ := hinline
  obtain ⟨event, hevent, heventPath⟩ := hfile
  constructor
  · let p := ofModules [.ofUnits ⟨"Core", none⟩ [key, event], .ofUnits ⟨"Gui", none⟩ []]
    refine ⟨p, ((load_of_accepted eventWorkspace haccepted.1).1 p).2 ⟨?_, rfl⟩, ?_⟩
    · exact .cons ⟨rfl, .cons ⟨key, hkey, rfl⟩ (.cons ⟨event, hevent, rfl⟩ .nil)⟩
        (.cons ⟨rfl, .nil⟩ .nil)
    · show [(key.filePath, _), (event.filePath, _)] = _
      rw [hkeyPath, heventPath]
      rfl
  · refine ((load_of_accepted eventWorkspace haccepted.2).2.2.1 _).2
      ⟨[.inline [(.str "file_path", .str "key.h")], .file "event.yaml"], .file "none.yaml", [],
        rfl, List.forall_mem_cons.2 ⟨⟨key, hkey⟩, List.forall_mem_singleton.2 ⟨event, hevent⟩⟩, ?_⟩
    have hlabel : labelOf (.ofString "/work") (.file "none.yaml") = "/work/none.yaml" := by
      decide +kernel
    rw [← hlabel]
    exact .untold (.noFile (by decide +kernel))

end Program

end Interop
