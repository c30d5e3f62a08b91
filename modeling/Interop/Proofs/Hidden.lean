import Mathlib.Data.List.Forall2
import Interop.Proofs.Loaded

/-!
# Parts that generated code does not show

Two programs are alike if they differ only in what generated code does not show: units without
output of their own, declarations that are not generated, and fields that are not. Passes leave
alike programs alike. Alike programs have output of their own at the same positions, and there every
shipped form renders the same text, or fails in the same way.
-/

namespace Interop

/-- Fields of which generated code shows the same: they are the same, or neither is shown. -/
def Member.Alike (m n : Member) : Prop := m = n ∨ m.isGenerated = false ∧ n.isGenerated = false

/-- Bodies of which generated code shows the same: they are the same, or records with alike
fields. -/
inductive Body.Alike : Body → Body → Prop
  /-- The same body. -/
  | refl (b : Body) : Alike b b
  /-- Records of the same sort. -/
  | record (isStruct : Bool) {fields fields' : List Member}
      (h : List.Forall₂ Member.Alike fields fields') :
      Alike (.record isStruct fields) (.record isStruct fields')

/-- Declarations that look the same in generated code, if they are generated. -/
structure Declaration.LooksLike (d e : Declaration) : Prop where
  /-- They have the same names and flags. -/
  label : d.toLabel = e.toLabel
  /-- Their bodies are alike. -/
  body : Body.Alike d.body e.body

/-- Declarations of which generated code shows the same: neither is generated, or they look the
same. -/
def Declaration.Alike (d e : Declaration) : Prop :=
  d.isGenerated = false ∧ e.isGenerated = false ∨ d.LooksLike e

/-- A unit without its declarations. -/
def SourceUnit.outline (u : SourceUnit) : SourceUnit := { u with declarations := [] }

/-- Units that agree in everything but declarations, which are alike. -/
structure SourceUnit.LooksLike (u v : SourceUnit) : Prop where
  /-- All but the declarations agrees. -/
  outline : u.outline = v.outline
  /-- The declarations are alike. -/
  declarations : List.Forall₂ Declaration.Alike u.declarations v.declarations

/-- Units of which generated code shows the same: neither has output of its own, or they look the
same. -/
def SourceUnit.Alike (u v : SourceUnit) : Prop :=
  u.isEligible = false ∧ v.isEligible = false ∨ u.LooksLike v

/-- Modules of one library with alike units. -/
structure Module.Alike (m n : Module) : Prop where
  /-- They stand for the same library. -/
  library : m.toLibrary = n.toLibrary
  /-- Their units are alike. -/
  units : List.Forall₂ SourceUnit.Alike m.units n.units

/-- Programs with alike modules and alike further units. -/
structure Program.Alike (p q : Program) : Prop where
  /-- The modules are alike. -/
  modules : List.Forall₂ Module.Alike p.modules q.modules
  /-- The further units are alike. -/
  loose : List.Forall₂ SourceUnit.Alike p.loose q.loose

namespace Pass

/-- Renaming leaves alike fields alike. -/
theorem alike_renamed_member (words : List String) {m n : Member} (h : m.Alike n) :
    (m.renamed words).Alike (n.renamed words) := by
  have hflag : ∀ k : Member, (k.renamed words).isGenerated = k.isGenerated := by
    intro k
    change (k.toLabel.renamed words).isGenerated = _
    unfold Label.renamed
    split <;> rfl
  rcases h with rfl | ⟨hm, hn⟩
  · exact .inl rfl
  · exact .inr ⟨(hflag m).trans hm, (hflag n).trans hn⟩

/-- Renaming leaves declarations that look the same so. -/
theorem looksLike_renamed (words : List String) {d e : Declaration} (h : d.LooksLike e) :
    (d.renamed words).LooksLike (e.renamed words) := by
  refine ⟨congrArg (Label.renamed words) h.label, ?_⟩
  obtain ⟨label, body⟩ := d
  obtain ⟨label', body'⟩ := e
  rcases h.body with _ | ⟨isStruct, hfields⟩
  · exact .refl _
  · refine .record isStruct (List.rel_map ?_ hfields)
    exact fun _ _ => alike_renamed_member words

/-- Hiding leaves declarations that look the same so. -/
theorem looksLike_hidden {d e : Declaration} (h : d.LooksLike e) : d.hidden.LooksLike e.hidden :=
  ⟨congrArg (fun l : Label => { l with isGenerated := l.isGenerated && l.name.isTruthy }) h.label,
    h.body⟩

/-- What a pass does to alike declarations leaves them alike. -/
theorem alike_onDeclaration (pass : Pass) {d e : Declaration} (h : d.Alike e) :
    (pass.onDeclaration d).Alike (pass.onDeclaration e) := by
  rcases h with ⟨hd, he⟩ | h
  · left
    cases pass with
    | ignoreUnnamed =>
      constructor
      · exact (congrArg (· && d.name.isTruthy) hd).trans (Bool.false_and _)
      · exact (congrArg (· && e.name.isTruthy) he).trans (Bool.false_and _)
    | renameReserved words =>
      exact ⟨(isGenerated_renamed words d).trans hd, (isGenerated_renamed words e).trans he⟩
    | custom name visit => exact ⟨hd, he⟩
  · right
    cases pass with
    | ignoreUnnamed => exact looksLike_hidden h
    | renameReserved words => exact looksLike_renamed words h
    | custom name visit => exact h

/-- Whatever a pass does to a unit, the outline stays. -/
theorem outline_onUnit (pass : Pass) (u : SourceUnit) : (pass.onUnit u).outline = u.outline := by
  obtain ⟨f, hf⟩ := pass.onUnit_eq u
  rw [hf]
  rfl

/-- What a pass does to units that look the same leaves them so. -/
theorem looksLike_onUnit (pass : Pass) {u v : SourceUnit} (h : u.LooksLike v) :
    (pass.onUnit u).LooksLike (pass.onUnit v) := by
  refine ⟨(outline_onUnit pass u).trans (h.outline.trans (outline_onUnit pass v).symm), ?_⟩
  have hsystem : u.isSystemHeader = v.isSystemHeader :=
    (congrArg SourceUnit.isSystemHeader h.outline :)
  unfold onUnit
  cases hv : v.isSystemHeader with
  | true =>
    rw [hsystem, hv]
    exact h.declarations
  | false =>
    rw [hsystem, hv]
    refine List.rel_map ?_ h.declarations
    exact fun _ _ => alike_onDeclaration pass

/-- What passes do to alike units leaves them alike. -/
theorem alike_onUnitAll (passes : List Pass) {u v : SourceUnit} (h : u.Alike v) :
    (onUnitAll passes u).Alike (onUnitAll passes v) := by
  rcases h with ⟨hu, hv⟩ | h
  · exact .inl ⟨(isEligible_onUnitAll passes u).trans hu, (isEligible_onUnitAll passes v).trans hv⟩
  · right
    induction passes generalizing u v with
    | nil => exact h
    | cons pass more ih => exact ih (looksLike_onUnit pass h)

end Pass

/-- Passes leave alike programs alike. -/
theorem Program.Alike.mapUnits {p q : Program} (h : p.Alike q) (passes : List Pass) :
    (p.mapUnits (Pass.onUnitAll passes)).Alike (q.mapUnits (Pass.onUnitAll passes)) := by
  have hunits : ∀ {us vs : List SourceUnit}, List.Forall₂ SourceUnit.Alike us vs →
      List.Forall₂ SourceUnit.Alike (us.map (Pass.onUnitAll passes))
        (vs.map (Pass.onUnitAll passes)) := by
    intro us vs huv
    refine List.rel_map ?_ huv
    exact fun _ _ => Pass.alike_onUnitAll passes
  refine ⟨?_, hunits h.loose⟩
  exact List.rel_map (fun _ _ hm => ⟨hm.library, hunits hm.units⟩) h.modules

namespace SourceUnit

/-- Units that look the same have output of their own alike. -/
theorem LooksLike.isEligible {u v : SourceUnit} (h : u.LooksLike v) :
    u.isEligible = v.isEligible := by
  have hempty : u.declarations.isEmpty = v.declarations.isEmpty := by
    rw [Bool.eq_iff_iff, List.isEmpty_iff_length_eq_zero, List.isEmpty_iff_length_eq_zero,
      h.declarations.length_eq]
  have hframe := congrArg (fun w : SourceUnit =>
    w.isGenerated && !u.declarations.isEmpty && !w.isSystemHeader && w.isValid) h.outline
  unfold SourceUnit.isEligible
  rw [← hempty]
  exact hframe

/-- Alike units have output of their own alike. -/
theorem Alike.isEligible {u v : SourceUnit} (h : u.Alike v) : u.isEligible = v.isEligible :=
  h.elim (fun ⟨hu, hv⟩ => hu.trans hv.symm) LooksLike.isEligible

/-- A unit with output of its own looks the same as one that is alike. -/
theorem Alike.looksLike {u v : SourceUnit} (h : u.Alike v) (hu : u.isEligible = true) :
    u.LooksLike v := by
  refine h.resolve_left fun hboth => ?_
  rw [hboth.1] at hu
  cases hu

end SourceUnit

namespace Program

variable {p q : Program}

/-- The units of alike programs are alike, position by position. -/
theorem Alike.units (h : p.Alike q) : List.Forall₂ SourceUnit.Alike p.units q.units :=
  List.rel_append (List.rel_flatMap h.modules fun _ _ hm => hm.units) h.loose

/-- Alike programs have output of their own for the same of their units. -/
theorem Alike.map_isEligible (h : p.Alike q) :
    p.units.map (·.isEligible) = q.units.map (·.isEligible) :=
  List.forall₂_eq_eq_eq ▸ List.rel_map (fun _ _ hu => hu.isEligible) h.units

/-- Whether there is a unit with output of its own at a position. -/
def isEligibleAt (p : Program) (position : Nat) : Bool :=
  (p.units[position]?).any (·.isEligible)

/-- Alike programs have output of their own at the same positions. -/
theorem Alike.isEligibleAt (h : p.Alike q) : p.isEligibleAt = q.isEligibleAt := by
  funext position
  have hat := congrArg (fun flags : List Bool => (flags[position]?).any id) h.map_isEligible
  unfold Program.isEligibleAt
  simpa [List.getElem?_map, Option.any_map] using hat

/-- The positions at which alike programs have output of their own, in order. -/
theorem Alike.eligiblePositions (h : p.Alike q) : p.eligiblePositions = q.eligiblePositions := by
  have hflags : ∀ r : Program, r.eligiblePositions =
      ((r.units.map (·.isEligible)).zipIdx.filter (·.1)).map (·.2) := by
    intro r
    rw [List.zipIdx_map, List.filter_map, List.map_map]
    rfl
  rw [hflags, hflags, h.map_isEligible]

/-- At the positions of units that have output of their own, these units look the same in alike
programs. -/
theorem Alike.looksLike_at (h : p.Alike q) {position : Nat}
    (hposition : p.isEligibleAt position = true) : ∃ u v, p.units[position]? = some u ∧
      q.units[position]? = some v ∧ u.isEligible = true ∧ u.LooksLike v := by
  obtain ⟨u, hu, heligible⟩ := (Option.any_eq_true _ _).1 hposition
  obtain ⟨hlt, hu'⟩ := List.getElem?_eq_some_iff.1 hu
  have hlt' : position < q.units.length := h.units.length_eq ▸ hlt
  have halike : u.Alike q.units[position] := hu' ▸ h.units.get hlt hlt'
  exact ⟨u, q.units[position], hu, List.getElem?_eq_getElem hlt', heligible,
    halike.looksLike heligible⟩

/-- The units at such positions look the same. -/
theorem Alike.looksLike_unitsAt (h : p.Alike q) {positions : List Nat}
    (hpositions : ∀ i ∈ positions, p.isEligibleAt i = true) :
    List.Forall₂ SourceUnit.LooksLike (p.unitsAt positions) (q.unitsAt positions) := by
  induction positions with
  | nil => exact .nil
  | cons i more ih =>
    obtain ⟨hi, hmore⟩ := List.forall_mem_cons.1 hpositions
    obtain ⟨u, v, hu, hv, -, hlooks⟩ := h.looksLike_at hi
    unfold unitsAt at ih ⊢
    rw [List.filterMap_cons, List.filterMap_cons, hu, hv]
    exact .cons hlooks (ih hmore)

end Program

namespace SourceUnit

/-- Units that look the same have generated declarations that do. -/
theorem LooksLike.generatedDeclarations {u v : SourceUnit} (h : u.LooksLike v) :
    List.Forall₂ Declaration.LooksLike u.generatedDeclarations v.generatedDeclarations := by
  have hfilter : ∀ {ds es : List Declaration}, List.Forall₂ Declaration.Alike ds es →
      List.Forall₂ Declaration.LooksLike (ds.filter (·.isGenerated))
        (es.filter (·.isGenerated)) := by
    intro ds es hall
    induction hall with
    | nil => exact .nil
    | @cons d e ds es hde _ ih =>
      rcases hde with ⟨hd, he⟩ | hlooks
      · rwa [List.filter_cons_of_neg (by simp [hd]), List.filter_cons_of_neg (by simp [he])]
      · have hflag : d.isGenerated = e.isGenerated := (congrArg Label.isGenerated hlooks.label :)
        cases he : e.isGenerated with
        | true =>
          rw [List.filter_cons_of_pos (by simp [hflag, he]), List.filter_cons_of_pos (by simp [he])]
          exact .cons hlooks ih
        | false =>
          rwa [List.filter_cons_of_neg (by simp [hflag, he]),
            List.filter_cons_of_neg (by simp [he])]
  exact hfilter h.declarations

end SourceUnit

/-- Of alike fields, the generated ones are the same. -/
theorem Member.filter_isGenerated_of_alike {fields fields' : List Member}
    (h : List.Forall₂ Member.Alike fields fields') :
    fields.filter (·.isGenerated) = fields'.filter (·.isGenerated) := by
  induction h with
  | nil => rfl
  | cons hmn _ ih =>
    rcases hmn with rfl | ⟨hm, hn⟩
    · rw [List.filter_cons, List.filter_cons, ih]
    · rw [List.filter_cons_of_neg (by simp [hm]), List.filter_cons_of_neg (by simp [hn]), ih]

namespace Template

/-- What is rendered alike for each two members of two lists is rendered alike for both. -/
theorem mapM_congr_of_forall₂ {α β : Type} {R : α → α → Prop} {render : α → Rendered β}
    (hrender : ∀ a b, R a b → render a = render b) {l l' : List α} (h : List.Forall₂ R l l') :
    l.mapM render = l'.mapM render := by
  induction h with
  | nil => rfl
  | cons hab _ ih => rw [List.mapM_cons, List.mapM_cons, hrender _ _ hab, ih]

section Rendering

variable {us vs : List SourceUnit} (h : List.Forall₂ SourceUnit.LooksLike us vs)

include h

/-- Units that look the same show declarations that do. -/
theorem looksLike_declarationsOf :
    List.Forall₂ Declaration.LooksLike (declarationsOf us) (declarationsOf vs) :=
  List.rel_flatMap h fun _ _ huv => huv.generatedDeclarations

/-- What only reads the outlines of units reads the same of units that look the same. -/
theorem map_congr_of_looksLike {α : Type} (read : SourceUnit → α)
    (hread : ∀ u : SourceUnit, read u = read u.outline) : us.map read = vs.map read := by
  induction h with
  | nil => rfl
  | @cons u v us vs huv _ ih =>
    rw [List.map_cons, List.map_cons, ih, hread u, huv.outline, ← hread v]

/-- Units that look the same have files of the same names. -/
theorem fileNames_congr : fileNames us = fileNames vs :=
  congrArg (", ".intercalate ·) (map_congr_of_looksLike h (·.fileName) fun _ => rfl)

/-- C# shows units alike that look the same. -/
theorem CSharp.text_congr (context : GenerationContext) : text us context = text vs context := by
  have hblock : ∀ d e : Declaration, d.LooksLike e →
      block context.printer context.library d = block context.printer context.library e := by
    rintro ⟨label, body⟩ ⟨label', body'⟩ ⟨rfl, hbody⟩
    rcases hbody with _ | ⟨isStruct, hfields⟩
    · rfl
    · have hlines : fieldLines context.printer _ = fieldLines context.printer _ :=
        congrArg (List.mapM _) (Member.filter_isGenerated_of_alike hfields)
      simp only [block, hlines]
  have hblocks : blocks us context = blocks vs context := by
    unfold blocks
    rw [mapM_congr_of_forall₂ hblock (looksLike_declarationsOf h)]
  unfold text lines originText
  rw [hblocks, fileNames_congr h]

/-- Headers show units alike that look the same. -/
theorem CppCli.headerText_congr (context : GenerationContext) :
    headerText us context = headerText vs context := by
  have hblock : ∀ d e : Declaration, d.LooksLike e →
      headerBlock context.printer d = headerBlock context.printer e := by
    rintro ⟨label, body⟩ ⟨label', body'⟩ ⟨rfl, hbody⟩
    rcases hbody with _ | ⟨isStruct, hfields⟩
    · rfl
    · have hlines : propertyLines context.printer _ = propertyLines context.printer _ :=
        congrArg (List.mapM _) (Member.filter_isGenerated_of_alike hfields)
      simp only [headerBlock, hlines]
  have hincludes := map_congr_of_looksLike h (includeLine ·.fileName) fun _ => rfl
  unfold headerText headerLines notice
  rw [mapM_congr_of_forall₂ hblock (looksLike_declarationsOf h), fileNames_congr h, hincludes]

/-- Sources show units alike that look the same. -/
theorem CppCli.sourceText_congr (suffix : String) (context : GenerationContext) :
    sourceText suffix us context = sourceText suffix vs context := by
  have hblocks : ∀ {ds es : List Declaration}, List.Forall₂ Declaration.LooksLike ds es →
      functionBlocks context ds = functionBlocks context es := by
    intro ds es hall
    induction hall with
    | nil => rfl
    | @cons d e ds es hde _ ih =>
      obtain ⟨label, body⟩ := d
      obtain ⟨label', body'⟩ := e
      obtain ⟨rfl, hbody⟩ := hde
      unfold functionBlocks
      rcases hbody with _ | ⟨isStruct, hfields⟩
      · rw [ih]
      · exact ih
  have hincludes := map_congr_of_looksLike h (fun u => includeLine (u.fileStem ++ suffix ++ ".h"))
    fun _ => rfl
  unfold sourceText sourceLines notice
  rw [hblocks (looksLike_declarationsOf h), fileNames_congr h, hincludes]

/-- A shipped form shows units alike that look the same. -/
theorem render_congr {target : Target} {form : TemplateForm} (hform : form ∈ Backend.forms target)
    (context : GenerationContext) : form.render us context = form.render vs context := by
  cases target with
  | cppCli =>
    rcases List.mem_cons.1 hform with rfl | hform
    · exact CppCli.headerText_congr h context
    · obtain rfl := List.mem_singleton.1 hform
      exact CppCli.sourceText_congr h CppCli.suffix context
  | csharp =>
    obtain rfl := List.mem_singleton.1 hform
    exact CSharp.text_congr h context

end Rendering

/-- In alike programs a template of a shipped form comes to the same, if its units have output of
their own. -/
theorem process_congr {p q : Program} (h : p.Alike q) {target : Target} {t : Template}
    (hform : t.form ∈ Backend.forms target)
    (hpositions : ∀ i ∈ t.positions, p.isEligibleAt i = true) : t.process p = t.process q := by
  unfold process
  rw [render_congr (h.looksLike_unitsAt hpositions) hform]

end Template

end Interop
