import Mathlib.Data.List.Forall2
import Interop.Proofs.Shipped

/-!
# The two layouts of C# agree

In C#, the one file of a module and the files of its units show the same code. Every declaration has
its block, which depends on the declaration and the library alone; a file shows the blocks of its
declarations, between the lines that open and close the namespace, with an empty line between
neighbours. Only the notice at the top tells the two layouts apart.
-/

namespace Interop

open Generation

/-- A template of C# for some units in a program. -/
def Backend.csharpTemplate (p : Program) (positions : List Nat) (context : GenerationContext) :
    Template := (Template.make Template.CSharp.form positions context).settled p

/-- The declarations of a C# template are those of its units. -/
theorem Backend.declarations_csharpTemplate (p : Program) (positions : List Nat)
    (context : GenerationContext) :
    (csharpTemplate p positions context).declarations p =
      Template.declarationsOf (p.unitsAt positions) := by
  unfold csharpTemplate Template.declarations
  rw [Template.settled_eq]
  rfl

namespace Template.CSharp

/-- The block of a declaration in the code of a library, where it stands in the namespace. -/
def blockIn (library : Library) (d : Declaration) : Rendered (List String) :=
  (fun lines => lines.map (indent library.namespaceText ++ ·)) <$>
    block CType.csharp (some library) d

/-- What is known about an output in the code of a library. -/
structure IsContextOf (library : Library) (context : GenerationContext) : Prop where
  /-- The namespace is that of the library. -/
  outputNamespace : context.outputNamespace = library.namespaceText
  /-- Types are written in C#. -/
  printer : context.printer = CType.csharp
  /-- The library is known. -/
  library : context.library = some library

/-- A template that shows some blocks as code of a library. -/
structure ShowsBlocks (p : Program) (library : Library) (t : Template)
    (blocks : List (List String)) : Prop where
  /-- The blocks are those of the declarations of the template, one for each. -/
  each : List.Forall₂ (fun d b => blockIn library d = .ok b) (t.declarations p) blocks
  /-- The text consists of the notice and the blocks between opening and closing lines. -/
  text : t.text = .ok (unlines (header (originText (p.unitsAt t.positions) (some library)) ++
    opening library.namespaceText ++ separated blocks ++ closing library.namespaceText))

/-- The block of a declaration in the code of a library, if it has one. -/
def blockOf (library : Library) (d : Declaration) : List String :=
  (blockIn library d).toOption.getD []

/-- The block of a declaration that can be written. -/
theorem blockIn_of_isWritable (library : Library) {d : Declaration} (h : d.IsWritable) :
    blockIn library d = .ok (blockOf library d) := by
  obtain ⟨lines, hl⟩ := succeeds_block CType.isTotal_csharp (some library) h
  unfold blockOf blockIn
  rw [hl]
  rfl

/-- If a step and a change succeed for every member of a list, so do all steps and all changes. -/
theorem map_mapM_eq {α β γ : Type} {f : α → Rendered β} {change : β → γ} {g : α → γ} {l : List α}
    (h : ∀ a ∈ l, change <$> f a = .ok (g a)) :
    List.map change <$> l.mapM f = .ok (l.map g) := by
  induction l with
  | nil => rfl
  | cons a rest ih =>
    have ha := h a List.mem_cons_self
    have hrest := ih fun b hb => h b (List.mem_cons_of_mem a hb)
    rw [List.mapM_cons]
    cases hf : f a with
    | error fault =>
      rw [hf] at ha
      cases ha
    | ok b =>
      cases hm : rest.mapM f with
      | error fault =>
        rw [hm] at hrest
        cases hrest
      | ok bs =>
        rw [hf] at ha
        rw [hm] at hrest
        exact congrArg Except.ok (congrArg₂ List.cons (Except.ok.inj ha) (Except.ok.inj hrest))

/-- The blocks of plain units in the code of a library. -/
theorem blocks_of_plain {library : Library} {context : GenerationContext}
    (hc : IsContextOf library context) {units : List SourceUnit} (h : ∀ u ∈ units, u.IsPlain) :
    blocks units context = .ok ((declarationsOf units).map (blockOf library)) := by
  have hblock : ∀ d ∈ declarationsOf units,
      (fun lines => lines.map (indent context.outputNamespace ++ ·)) <$>
        block context.printer context.library d = .ok (blockOf library d) := by
    intro d hd
    rw [hc.outputNamespace, hc.printer, hc.library]
    exact blockIn_of_isWritable library (isWritable_of_mem_declarationsOf h d hd)
  unfold blocks
  rw [bind_pure_comp]
  exact map_mapM_eq hblock

/-- In a plain program, the C# template of some units shows the blocks of their declarations. -/
theorem showsBlocks_csharpTemplate {p : Program} (hp : p.IsPlain) {library : Library}
    {context : GenerationContext} (hc : IsContextOf library context) (positions : List Nat) :
    let t := Backend.csharpTemplate p positions context
    ShowsBlocks p library t ((t.declarations p).map (blockOf library)) := by
  have hunits : ∀ u ∈ p.unitsAt positions, u.IsPlain := fun u hu =>
    hp u (Program.mem_units_of_mem_unitsAt hu)
  have hpositions : (Backend.csharpTemplate p positions context).positions = positions := by
    unfold Backend.csharpTemplate
    rw [settled_eq]
    rfl
  have hrender : form.render (p.unitsAt positions) context = .ok (unlines
      (header (originText (p.unitsAt positions) context.library) ++
        opening context.outputNamespace ++
        separated ((declarationsOf (p.unitsAt positions)).map (blockOf library)) ++
        closing context.outputNamespace)) := by
    change unlines <$> lines (p.unitsAt positions) context = _
    unfold lines
    rw [blocks_of_plain hc hunits]
    rfl
  have htext := text?_settled_make p form positions context
  rw [hrender, hc.outputNamespace, hc.library] at htext
  refine ⟨?_, ?_⟩
  · rw [List.forall₂_map_right_iff, List.forall₂_same, Backend.declarations_csharpTemplate]
    exact fun d hd => blockIn_of_isWritable library (isWritable_of_mem_declarationsOf hunits d hd)
  · rw [Backend.declarations_csharpTemplate, hpositions]
    unfold Template.text Backend.csharpTemplate
    rw [htext]
    rfl

end Template.CSharp

/-- Units that show nothing do not count when declarations are gathered. -/
theorem Template.declarationsOf_filter_showsSomething (units : List SourceUnit) :
    declarationsOf (units.filter (·.showsSomething)) = declarationsOf units := by
  unfold declarationsOf
  induction units with
  | nil => rfl
  | cons u more ih =>
    rw [List.filter_cons, List.flatMap_cons]
    cases hs : u.generatedDeclarations with
    | nil => simpa [SourceUnit.showsSomething, hs] using ih
    | cons d ds =>
      have hshows : u.showsSomething = true := by rw [SourceUnit.showsSomething, hs]; rfl
      rw [if_pos hshows, List.flatMap_cons, ih, hs]

/-- Passes leave a unit with its library. -/
theorem Pass.owner_onUnitAll (passes : List Pass) (u : SourceUnit) :
    (onUnitAll passes u).owner = u.owner := by
  induction passes generalizing u with
  | nil => rfl
  | cons pass more ih =>
    obtain ⟨f, hf⟩ := pass.onUnit_eq u
    refine (ih (pass.onUnit u)).trans ?_
    rw [hf]

/-- The one output for a module and the outputs for its units show the same code. -/
structure SameCode (p : Program) (m : Module) (outputs : Output × List Output) : Prop where
  /-- The one output stands for the module. -/
  whole : outputs.1.unit = .synthetic (m.outputFileName "cs") m.toLibrary
  /-- The others are for the units of the module that have output of their own and show something,
  in order. -/
  parts : outputs.2.map (·.unit) = (m.units.filter (·.isEligible)).filter (·.showsSomething)
  /-- Every output has one template. The template for the module shows the declarations of the
  templates for its units, in order, and the blocks of these templates, in order. Without a
  declaration there is no block and no output for a unit. -/
  code : ∃ (t : Template) (ts : List Template) (blocks : List (List (List String))),
    outputs.1.templates = [t] ∧ outputs.2.map (·.templates) = ts.map ([·]) ∧
    t.declarations p = ts.flatMap (·.declarations p) ∧
    Template.CSharp.ShowsBlocks p m.toLibrary t blocks.flatten ∧
    List.Forall₂ (Template.CSharp.ShowsBlocks p m.toLibrary) ts blocks ∧
    (t.declarations p = [] → outputs.2 = [] ∧ blocks.flatten = [])

section Agreement

variable {p : Program} {m : Module × List Nat} {u : PlacedUnit}

/-- The units at some positions that have output of their own and show something. -/
def Program.shownAt (p : Program) (positions : List Nat) : List PlacedUnit :=
  ((p.placedAt positions).filter (·.2.isEligible)).filter (·.2.showsSomething)

/-- The outputs for the units of a module, at some positions of a program. -/
def Backend.unitOutputs (p : Program) (m : Module × List Nat) : List Output :=
  (p.shownAt m.2).map (csharp.outputFor p)

/-- The template for a unit. -/
def Backend.unitTemplate (p : Program) (u : PlacedUnit) : Template :=
  csharpTemplate p [u.1] (unitContext csharp u.2)

/-- The template for a module, at some positions of a program. -/
def Backend.moduleTemplate (p : Program) (m : Module × List Nat) : Template :=
  csharpTemplate p (positions ((p.placedAt m.2).filter (·.2.isEligible)))
    (moduleContext csharp m.1.toLibrary)

/-- What is known about a unit that is shown. -/
theorem mem_shownAt {positions : List Nat} (hu : u ∈ p.shownAt positions) :
    u ∈ p.placedAt positions ∧ u.2.isEligible = true ∧ u.2.showsSomething = true := by
  obtain ⟨hu, hs⟩ := List.mem_filter.1 hu
  obtain ⟨hu, he⟩ := List.mem_filter.1 hu
  exact ⟨hu, he, hs⟩

/-- Without their positions, the units of a module that are shown are those of the module. -/
theorem map_snd_shownAt (hm : m ∈ p.placedModules) :
    (p.shownAt m.2).map Prod.snd =
      (m.1.units.filter (·.isEligible)).filter (·.showsSomething) := by
  have h := congrArg (fun us : List SourceUnit =>
    (us.filter (·.isEligible)).filter (·.showsSomething)) (Program.map_snd_placedAt hm)
  rwa [List.filter_map, List.filter_map] at h

/-- The output for a unit that shows something has one template, for that unit. -/
theorem outputFor_csharp (he : u.2.isEligible = true) (hs : u.2.showsSomething = true) :
    Backend.csharp.outputFor p u = ⟨u.2, [Backend.unitTemplate p u]⟩ := by
  have hempty : u.2.generatedDeclarations.isEmpty = false := by
    simpa [SourceUnit.showsSomething] using hs
  have h := Backend.templatesFor_ofTarget .csharp he
  rw [hempty, if_neg Bool.false_ne_true] at h
  unfold Backend.outputFor
  exact congrArg (fun ts : List Template => (⟨u.2, ts.map (·.settled p)⟩ : Output)) h

/-- The outputs for the units of a module have one template each. -/
theorem unitOutputs_eq (p : Program) (m : Module × List Nat) :
    Backend.unitOutputs p m = (p.shownAt m.2).map fun u => ⟨u.2, [Backend.unitTemplate p u]⟩ :=
  List.map_congr_left fun _ hu => outputFor_csharp (mem_shownAt hu).2.1 (mem_shownAt hu).2.2

/-- The template for a unit shows the declarations of that unit. -/
theorem declarations_unitTemplate {positions : List Nat} (hu : u ∈ p.shownAt positions) :
    (Backend.unitTemplate p u).declarations p = u.2.generatedDeclarations := by
  have hat : p.units[u.1]? = some u.2 := Program.getElem?_of_mem_placedAt (mem_shownAt hu).1
  have hunits : p.unitsAt [u.1] = [u.2] :=
    @Program.unitsAt_map_fst p [u] (List.forall_mem_singleton.2 hat)
  unfold Backend.unitTemplate
  rw [Backend.declarations_csharpTemplate, hunits]
  exact List.append_nil _

/-- The template for a module shows the declarations of the templates for its units, in order. -/
theorem declarations_moduleTemplate (hm : m ∈ p.placedModules) :
    (Backend.moduleTemplate p m).declarations p =
      ((p.shownAt m.2).map (Backend.unitTemplate p)).flatMap (·.declarations p) := by
  unfold Backend.moduleTemplate
  rw [Backend.declarations_csharpTemplate, Backend.positions,
    Program.unitsAt_eligible_placedAt hm, ← Template.declarationsOf_filter_showsSomething,
    ← map_snd_shownAt hm, Template.declarationsOf, List.flatMap_map, List.flatMap_map]
  exact (List.flatMap_congr fun _ hu => declarations_unitTemplate hu).symm

/-- If the template for a module shows no declaration, no unit of the module is shown. -/
theorem shownAt_eq_nil (hm : m ∈ p.placedModules)
    (h : (Backend.moduleTemplate p m).declarations p = []) : p.shownAt m.2 = [] := by
  rw [declarations_moduleTemplate hm, List.flatMap_map, List.flatMap_eq_nil_iff] at h
  refine List.eq_nil_iff_forall_not_mem.2 fun u hu => ?_
  have hs := (mem_shownAt hu).2.2
  rw [SourceUnit.showsSomething, ← declarations_unitTemplate hu, h u hu] at hs
  cases hs

/-- The one output for a module whose units it owns shows the same code as the outputs for the
units. The context of a unit knows the namespace through the library that owns the unit. -/
theorem sameCode_outputs (hp : p.IsPlain) (hm : m ∈ p.placedModules)
    (howned : ∀ u ∈ m.1.units, u.owner = some m.1.toLibrary) :
    SameCode p m.1 (Backend.csharp.moduleOutput p m, Backend.unitOutputs p m) := by
  let templates := (p.shownAt m.2).map (Backend.unitTemplate p)
  let blocksOf (t : Template) := (t.declarations p).map (Template.CSharp.blockOf m.1.toLibrary)
  have hdeclarations := declarations_moduleTemplate hm
  have hblocks : (templates.map blocksOf).flatten = blocksOf (Backend.moduleTemplate p m) := by
    change _ = ((Backend.moduleTemplate p m).declarations p).map _
    rw [hdeclarations, List.map_flatMap, List.flatMap_def]
  refine ⟨rfl, ?_, Backend.moduleTemplate p m, templates, templates.map blocksOf, rfl, ?_,
    hdeclarations, ?_, ?_, fun hnone => ?_⟩
  · rw [unitOutputs_eq, List.map_map]
    exact map_snd_shownAt hm
  · rw [unitOutputs_eq, List.map_map, List.map_map]
    rfl
  · rw [hblocks]
    exact Template.CSharp.showsBlocks_csharpTemplate hp ⟨rfl, rfl, rfl⟩ _
  · rw [List.forall₂_map_right_iff, List.forall₂_same]
    intro t ht
    obtain ⟨u, hu, rfl⟩ := List.mem_map.1 ht
    have hmem : u.2 ∈ m.1.units :=
      Program.map_snd_placedAt hm ▸ List.mem_map_of_mem (mem_shownAt hu).1
    refine Template.CSharp.showsBlocks_csharpTemplate hp ⟨?_, rfl, howned u.2 hmem⟩ _
    change ((u.2.owner.bind _).getD "") = _
    rw [howned u.2 hmem]
    rfl
  · rw [unitOutputs_eq, shownAt_eq_nil hm hnone, hblocks]
    exact ⟨rfl, congrArg (List.map _) hnone⟩

/-- In a program of modules, the outputs by unit, those of units that show nothing skipped, stand
module by module. -/
theorem skippedOutputs_eq_flatMap (modules : List Module) :
    let p := Program.ofModules modules
    (p.eligibleUnits.filter Backend.csharp.yields).map (Backend.csharp.outputFor p) =
      p.placedModules.flatMap (Backend.unitOutputs p) := by
  have hyields : ∀ u ∈ (Program.ofModules modules).eligibleUnits,
      Backend.csharp.yields u = u.2.showsSomething := fun u hu =>
    Backend.yields_ofTarget .csharp (Program.mem_eligibleUnits_iff.1 hu).2
  dsimp only
  rw [List.filter_congr hyields, Program.eligibleUnits_ofModules, List.filter_flatMap,
    List.map_flatMap]
  rfl

end Agreement

/-- Over plain modules that own their units, the two layouts of C# show the same code. The run in
the layout by module gives one output for every module; the outputs of the run in the layout by
unit, where units that show nothing are skipped, fall into one group for every module; and each
output for a module shows the same declarations and blocks as its group. -/
theorem layouts_sameCode {modules : List Module} {policy : EmptyPolicy} {s t : Session}
    {notify notify' : Output → Action Unit} (hs : s.Ready ⟨.csharp, true, none, policy⟩ modules)
    (ht : t.Ready ⟨.csharp, false, none, .skip⟩ modules)
    (hplain : (Program.ofModules modules).IsPlain)
    (howned : ∀ m ∈ modules, ∀ u ∈ m.units, u.owner = some m.toLibrary)
    (hnotify : Observer notify) (hnotify' : Observer notify') :
    let r := runTarget .shipped notify s
    let r' := runTarget .shipped notify' t
    ∃ pairs : List (Output × List Output),
      r.1 = .ok (pairs.map Prod.fst) ∧ r'.1 = .ok (pairs.flatMap Prod.snd) ∧
      r'.2.program = r.2.program ∧
      r.2.program.modules.map (·.toLibrary) = modules.map (·.toLibrary) ∧
      List.Forall₂ (SameCode r.2.program) r.2.program.modules pairs := by
  obtain ⟨hr, hp, hplain'⟩ := runTarget_shipped_of_ready hs hplain rfl hnotify
  obtain ⟨hr', hp', -⟩ := runTarget_shipped_of_ready ht hplain rfl hnotify'
  dsimp only at hr hr' ⊢
  rw [hr, hr', hp, hp']
  let p := Backend.csharp.passedProgram (.ofModules modules)
  refine ⟨p.placedModules.map fun m => (Backend.csharp.moduleOutput p m, Backend.unitOutputs p m),
    ?_, ?_, rfl, ?_, ?_⟩
  · rw [List.map_map]
    rfl
  · rw [List.flatMap_map]
    exact congrArg Except.ok (skippedOutputs_eq_flatMap _)
  · exact List.map_map ..
  · have hmodules := Program.map_fst_placedModules p
    change List.Forall₂ (SameCode p) p.modules _
    rw [← hmodules, List.forall₂_map_left_iff, List.forall₂_map_right_iff, List.forall₂_same]
    intro m hm
    refine sameCode_outputs hplain' hm ?_
    have hmem : m.1 ∈ p.modules := hmodules ▸ List.mem_map_of_mem hm
    obtain ⟨m', hm', he⟩ := List.mem_map.1 hmem
    rw [← he]
    intro u hu
    obtain ⟨v, hv, rfl⟩ := List.mem_map.1 hu
    rw [Pass.owner_onUnitAll]
    exact howned m' hm' v hv

/-- The two layouts for two modules. The second unit of the first module shows nothing. -/
theorem layouts_sameCode_core_gui :
    (Program.ofModules [.core, .gui]).IsPlain ∧
    (∀ m ∈ [Module.core, .gui], ∀ u ∈ m.units, u.owner = some m.toLibrary) ∧
    ∃ pairs : List (Output × List Output),
      (freshRun ⟨.csharp, true, none, .skip⟩ [.core, .gui]).1 = .ok (pairs.map Prod.fst) ∧
      (freshRun ⟨.csharp, false, none, .skip⟩ [.core, .gui]).1 =
        .ok (pairs.flatMap Prod.snd) ∧
      List.Forall₂ (SameCode (freshRun ⟨.csharp, true, none, .skip⟩ [.core, .gui]).2.program)
        (freshRun ⟨.csharp, true, none, .skip⟩ [.core, .gui]).2.program.modules pairs ∧
      (pairs.flatMap Prod.snd).map (·.unit.filePath) = ["core/event.h", "gui/button.h"] := by
  have hplain : (Program.ofModules [.core, .gui]).IsPlain := by decide +kernel
  have howned : ∀ m ∈ [Module.core, .gui], ∀ u ∈ m.units, u.owner = some m.toLibrary := by
    decide +kernel
  obtain ⟨pairs, h, h', -, -, hcode⟩ := layouts_sameCode
    (Session.ready_start ⟨.csharp, true, none, .skip⟩ [.core, .gui])
    (Session.ready_start ⟨.csharp, false, none, .skip⟩ [.core, .gui])
    hplain howned observer_ignore observer_ignore
  have hfiles : (freshRun ⟨.csharp, false, none, .skip⟩ [.core, .gui]).1.toOption.map
      (·.map (·.unit.filePath)) = some ["core/event.h", "gui/button.h"] := by decide +kernel
  unfold freshRun at hfiles ⊢
  rw [h'] at hfiles
  exact ⟨hplain, howned, pairs, h, h', hcode, Option.some.inj hfiles⟩

end Interop
