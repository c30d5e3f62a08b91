import Interop.Proofs.Shipped

/-!
# Generation is modular

What is seen of an output of the shipped backends, its file path, library, template names and texts,
is a function of its unit alone, or of its module alone. So the outputs of a run over two lists of
modules are those of the first list and then those of the second. Only stopping couples the two:
with a gap in the first list, nothing of the second is reached.
-/

namespace Interop

open Generation

/-- What is seen of an output. -/
structure OutputView where
  /-- The path of the unit's file. -/
  filePath : String
  /-- The library that the output is for. -/
  owner : Option Library
  /-- The names and texts of the templates. -/
  templates : List (String × Option String)
deriving DecidableEq, Repr

/-- What is seen of a template. -/
def Template.view (t : Template) : String × Option String := (t.form.name, t.text?)

/-- What is seen of an output. -/
def Output.view (o : Output) : OutputView :=
  ⟨o.unit.filePath, o.unit.owner, o.templates.map Template.view⟩

/-- What is seen of the output for a unit, from the unit alone. -/
def SourceUnit.view (target : Target) (u : SourceUnit) : OutputView :=
  ⟨u.filePath, u.owner, (Backend.forms target).map fun form =>
    (form.name, (form.render [u] (unitContext (.ofTarget target) u)).toOption)⟩

/-- What is seen of the output for a module, from the module alone. -/
def Module.view (m : Module) : OutputView :=
  ⟨m.outputFileName Backend.csharp.extension, some m.toLibrary, [(Template.CSharp.form.name,
    (Template.CSharp.text (m.units.filter (·.isEligible))
      (moduleContext .csharp m.toLibrary)).toOption)]⟩

/-- The units that have an output of their own if units that show nothing are dealt with as a policy
says and no fault ends generation. -/
def EmptyPolicy.select (units : List SourceUnit) : EmptyPolicy → List SourceUnit
  | .stop => units.takeWhile (·.showsSomething)
  | .skip => units.filter (·.showsSomething)
  | .fail => units

/-- What is seen of the outputs for some modules whose passes have run. -/
def Module.views (o : Options) (modules : List Module) : List OutputView :=
  match o.layout with
  | .perUnit => (o.policy.select ((modules.flatMap (·.units)).filter (·.isEligible))).map
      (SourceUnit.view o.target)
  | .singleFile => modules.map Module.view

section Views

variable {p : Program}

/-- What is seen of a settled template that was just made. -/
theorem view_settled_make (form : TemplateForm) (positions : List Nat)
    (context : GenerationContext) : ((Template.make form positions context).settled p).view =
      (form.name, (form.render (p.unitsAt positions) context).toOption) := by
  unfold Template.view
  rw [Template.text?_settled_make, Template.settled_eq]
  rfl

/-- The output for a unit that shows something is seen as the unit alone says, wherever the unit
stands in the program. -/
theorem view_outputFor {target : Target} {u : PlacedUnit} (hu : p.units[u.1]? = some u.2)
    (he : u.2.isEligible = true) (hs : u.2.showsSomething = true) :
    ((Backend.ofTarget target).outputFor p u).view = u.2.view target := by
  have hunits : p.unitsAt [u.1] = [u.2] :=
    @Program.unitsAt_map_fst p [u] (List.forall_mem_singleton.2 hu)
  have hempty : u.2.generatedDeclarations.isEmpty = false := by
    simpa [SourceUnit.showsSomething] using hs
  unfold Output.view Backend.outputFor SourceUnit.view
  rw [Backend.templatesFor_ofTarget target he, hempty, if_neg Bool.false_ne_true, List.map_map,
    List.map_map]
  refine congrArg _ (List.map_congr_left fun form _ => ?_)
  have h := view_settled_make (p := p) form [u.1] (unitContext (.ofTarget target) u.2)
  rwa [hunits] at h

/-- The output for a module is seen as the module alone says. -/
theorem view_moduleOutput {m : Module × List Nat} (hm : m ∈ p.placedModules) :
    (Backend.csharp.moduleOutput p m).view = m.1.view := by
  unfold Output.view Backend.moduleOutput Module.view
  rw [Backend.templates_csharp_singleFile, List.map_singleton, List.map_singleton,
    view_settled_make, Backend.positions, Program.unitsAt_eligible_placedAt hm]
  rfl

/-- Lists are cut at the same place by tests that agree on them. -/
theorem takeWhile_congr {α : Type} {f g : α → Bool} {l : List α} (h : ∀ a ∈ l, f a = g a) :
    l.takeWhile f = l.takeWhile g := by
  induction l with
  | nil => rfl
  | cons a rest ih =>
    rw [List.takeWhile_cons, List.takeWhile_cons, h a List.mem_cons_self,
      ih fun b hb => h b (List.mem_cons_of_mem a hb)]

/-- Unless the policy is to fail, generation by unit gives outputs that are seen as the selected
units alone say. -/
theorem views_byUnit (target : Target) {policy : EmptyPolicy} (hpolicy : policy ≠ .fail) :
    ∃ outputs, (Account.byUnit (.ofTarget target) p p.eligibleUnits policy).outcome = .ok outputs ∧
      outputs.map Output.view =
        (policy.select (p.units.filter (·.isEligible))).map (SourceUnit.view target) := by
  have hyields : ∀ u ∈ p.eligibleUnits,
      (Backend.ofTarget target).yields u = u.2.showsSomething := fun u hu =>
    Backend.yields_ofTarget target (Program.mem_eligibleUnits_iff.1 hu).2
  have hview : ∀ u ∈ p.eligibleUnits, u.2.showsSomething = true →
      ((Backend.ofTarget target).outputFor p u).view = u.2.view target := fun u hu hs =>
    view_outputFor (Program.mem_eligibleUnits_iff.1 hu).1 (Program.mem_eligibleUnits_iff.1 hu).2 hs
  rw [← Program.map_snd_eligibleUnits]
  cases policy with
  | fail => exact absurd rfl hpolicy
  | skip =>
    refine ⟨_, rfl, ?_⟩
    rw [EmptyPolicy.select, List.filter_map, List.map_map, List.map_map, List.filter_congr hyields]
    refine List.map_congr_left fun u hu => ?_
    exact hview u (List.mem_filter.1 hu).1 (List.mem_filter.1 hu).2
  | stop =>
    refine ⟨_, rfl, ?_⟩
    rw [EmptyPolicy.select, List.takeWhile_map, List.map_map, List.map_map, Backend.front,
      takeWhile_congr hyields]
    refine List.map_congr_left fun u hu => ?_
    have hs : (SourceUnit.showsSomething ∘ Prod.snd) u = true := List.mem_takeWhile_imp hu
    exact hview u ((List.takeWhile_sublist _).mem hu) hs

end Views

section Runs

variable {o : Options}

/-- The modules that the passes of a backend leave. -/
def Backend.passedModules (b : Backend) (modules : List Module) : List Module :=
  modules.map fun m => { m with units := m.units.map (Pass.onUnitAll b.passes) }

/-- The outputs of a run over plain modules are seen as the modules say, after the passes. -/
theorem views_run {modules : List Module} {s : Session} {notify : Output → Action Unit}
    (hs : s.Ready o modules) (hplain : (Program.ofModules modules).IsPlain)
    (hdirectory : outputDirectory? o = none) (hnotify : Observer notify)
    (hpolicy : o.layout = .perUnit → o.policy ≠ .fail) :
    let passed := (Backend.ofTarget o.target).passedModules modules
    ∃ outputs, (runTarget .shipped notify s).1 = .ok outputs ∧
      outputs.map Output.view = Module.views o passed ∧
      (runTarget .shipped notify s).2.program = .ofModules passed := by
  obtain ⟨hr, hp, -⟩ := runTarget_shipped_of_ready hs hplain hdirectory hnotify
  have hprogram : (Backend.ofTarget o.target).passedProgram (.ofModules modules) =
      .ofModules ((Backend.ofTarget o.target).passedModules modules) := rfl
  rw [hprogram] at hr hp
  dsimp only
  rw [hr, hp]
  unfold shippedOutcome Module.views
  cases hl : o.layout with
  | perUnit =>
    obtain ⟨outputs, houtputs, hviews⟩ := views_byUnit
      (p := .ofModules ((Backend.ofTarget o.target).passedModules modules)) o.target (hpolicy hl)
    rw [Program.units_ofModules] at hviews
    exact ⟨outputs, houtputs, hviews, rfl⟩
  | singleFile =>
    have htarget := Options.target_of_singleFile hl
    refine ⟨_, rfl, ?_, rfl⟩
    rw [htarget, List.map_map]
    have h := Program.map_fst_placedModules
      (.ofModules ((Backend.ofTarget o.target).passedModules modules))
    rw [htarget] at h
    refine (List.map_congr_left fun m hm => view_moduleOutput hm).trans ?_
    exact (List.map_map ..).symm.trans (congrArg (List.map Module.view) h)

/-- Whether generation goes through all units of a program whose passes have run: nothing stops it
at a unit that shows nothing. -/
def GoesThrough (o : Options) (p : Program) : Prop :=
  o.layout = .singleFile ∨ o.policy = .skip ∨
    ∀ u ∈ p.eligibleUnits, u.2.generatedDeclarations ≠ []

instance (o : Options) (p : Program) : Decidable (GoesThrough o p) :=
  inferInstanceAs (Decidable (o.layout = .singleFile ∨ o.policy = .skip ∨
    ∀ u ∈ p.eligibleUnits, u.2.generatedDeclarations ≠ []))

/-- Nothing stops at a unit exactly if all units that have output of their own show something. -/
theorem forall_showsSomething_iff (modules : List Module) :
    (∀ u ∈ (modules.flatMap (·.units)).filter (·.isEligible), u.showsSomething = true) ↔
      ∀ u ∈ (Program.ofModules modules).eligibleUnits, u.2.generatedDeclarations ≠ [] := by
  rw [← Program.units_ofModules, ← Program.map_snd_eligibleUnits, List.forall_mem_map]
  refine forall_congr' fun u => forall_congr' fun _ => ?_
  rw [SourceUnit.showsSomething, Bool.not_eq_true', List.isEmpty_eq_false_iff]

variable (first second : List Module)

/-- If generation goes through the first modules, the second ones follow as if they were alone.
Without a gap in the first part, the cut is made in the second one. -/
theorem views_append_of_goesThrough (hpolicy : o.layout = .perUnit → o.policy ≠ .fail)
    (h : GoesThrough o (.ofModules first)) :
    Module.views o (first ++ second) = Module.views o first ++ Module.views o second := by
  unfold Module.views
  cases hl : o.layout with
  | singleFile => exact List.map_append
  | perUnit =>
    dsimp only
    rw [List.flatMap_append, List.filter_append, ← List.map_append]
    refine congrArg (List.map (SourceUnit.view o.target)) ?_
    cases hp : o.policy with
    | fail => exact absurd hp (hpolicy hl)
    | skip => exact List.filter_append ..
    | stop =>
      rcases h with h | h | h
      · rw [hl] at h
        cases h
      · rw [hp] at h
        cases h
      · have hall := (forall_showsSomething_iff first).2 h
        rw [EmptyPolicy.select, EmptyPolicy.select, List.takeWhile_append_of_pos hall,
          List.takeWhile_eq_self_iff.2 hall]
        rfl

/-- If generation stops within the first modules, the second ones are not reached. The cut reaches
the second part only if it leaves all of the first. -/
theorem views_append_of_not_goesThrough (hpolicy : o.layout = .perUnit → o.policy ≠ .fail)
    (h : ¬ GoesThrough o (.ofModules first)) :
    Module.views o (first ++ second) = Module.views o first := by
  obtain ⟨hlayout, h⟩ := not_or.1 h
  obtain ⟨hskip, hgap⟩ := not_or.1 h
  unfold Module.views
  cases hl : o.layout with
  | singleFile => exact absurd hl hlayout
  | perUnit =>
    dsimp only
    rw [List.flatMap_append, List.filter_append]
    refine congrArg (List.map (SourceUnit.view o.target)) ?_
    cases hp : o.policy with
    | fail => exact absurd hp (hpolicy hl)
    | skip => exact absurd hp hskip
    | stop =>
      rw [EmptyPolicy.select, EmptyPolicy.select, List.takeWhile_append, if_neg]
      intro hlength
      refine hgap ((forall_showsSomething_iff first).1 (List.takeWhile_eq_self_iff.1 ?_))
      exact (List.takeWhile_prefix _).eq_of_length hlength

end Runs

/-- A run of the shipped backends over two lists of plain modules, without a directory, gives the
outputs of a run over the first list and then those of a run over the second, if generation goes
through the first list: in the layout by module, if units that show nothing are skipped, or if there
is none in the first list after the passes. Else, when generation stops there, it gives exactly the
outputs of the first list. Whatever else the three sessions hold has no part in it. -/
theorem run_append_views {o : Options} {first second : List Module} {s t u : Session}
    {notify notify₁ notify₂ : Output → Action Unit}
    (hs : s.Ready o (first ++ second)) (ht : t.Ready o first) (hu : u.Ready o second)
    (hfirst : (Program.ofModules first).IsPlain) (hsecond : (Program.ofModules second).IsPlain)
    (hdirectory : outputDirectory? o = none) (hpolicy : o.layout = .perUnit → o.policy ≠ .fail)
    (hn : Observer notify) (hn₁ : Observer notify₁) (hn₂ : Observer notify₂) :
    ∃ outputs outputs₁ outputs₂,
      (runTarget .shipped notify s).1 = .ok outputs ∧
      (runTarget .shipped notify₁ t).1 = .ok outputs₁ ∧
      (runTarget .shipped notify₂ u).1 = .ok outputs₂ ∧
      (GoesThrough o (runTarget .shipped notify₁ t).2.program →
        outputs.map Output.view = outputs₁.map Output.view ++ outputs₂.map Output.view) ∧
      (¬ GoesThrough o (runTarget .shipped notify₁ t).2.program →
        outputs.map Output.view = outputs₁.map Output.view) := by
  have hboth : (Program.ofModules (first ++ second)).IsPlain := by
    intro v hv
    rw [Program.units_ofModules, List.flatMap_append] at hv
    rcases List.mem_append.1 hv with hv | hv
    · exact hfirst v (by rwa [Program.units_ofModules])
    · exact hsecond v (by rwa [Program.units_ofModules])
  obtain ⟨outputs, hr, hv, -⟩ := views_run hs hboth hdirectory hn hpolicy
  obtain ⟨outputs₁, hr₁, hv₁, hp₁⟩ := views_run ht hfirst hdirectory hn₁ hpolicy
  obtain ⟨outputs₂, hr₂, hv₂, -⟩ := views_run hu hsecond hdirectory hn₂ hpolicy
  rw [Backend.passedModules, List.map_append] at hv
  refine ⟨outputs, outputs₁, outputs₂, hr, hr₁, hr₂, fun h => ?_, fun h => ?_⟩
  · rw [hp₁] at h
    rw [hv, hv₁, hv₂]
    exact views_append_of_goesThrough _ _ hpolicy h
  · rw [hp₁] at h
    rw [hv, hv₁]
    exact views_append_of_not_goesThrough _ _ hpolicy h

/-- Where generation stops at units that show nothing, it goes through the first of two modules in
one order, and in the other order it does not. -/
theorem run_append_views_core_gui :
    (Program.ofModules [.core]).IsPlain ∧ (Program.ofModules [.gui]).IsPlain ∧
    (∃ outputs outputs₁ outputs₂,
      (freshRun ⟨.csharp, false, none, .stop⟩ [.gui, .core]).1 = .ok outputs ∧
      (freshRun ⟨.csharp, false, none, .stop⟩ [.gui]).1 = .ok outputs₁ ∧
      (freshRun ⟨.csharp, false, none, .stop⟩ [.core]).1 = .ok outputs₂ ∧
      outputs.map Output.view = outputs₁.map Output.view ++ outputs₂.map Output.view) ∧
    ∃ outputs outputs₁,
      (freshRun ⟨.csharp, false, none, .stop⟩ [.core, .gui]).1 = .ok outputs ∧
      (freshRun ⟨.csharp, false, none, .stop⟩ [.core]).1 = .ok outputs₁ ∧
      outputs.map Output.view = outputs₁.map Output.view := by
  have hcore : (Program.ofModules [.core]).IsPlain := by decide +kernel
  have hgui : (Program.ofModules [.gui]).IsPlain := by decide +kernel
  refine ⟨hcore, hgui, ?_, ?_⟩
  · have hthrough : GoesThrough ⟨.csharp, false, none, .stop⟩
        (runTarget .shipped (fun _ => pure ()) (.start ⟨.csharp, false, none, .stop⟩
          (.ofModules [.gui]))).2.program := by decide +kernel
    obtain ⟨outputs, outputs₁, outputs₂, h, h₁, h₂, hviews, -⟩ := run_append_views
      (Session.ready_start ⟨.csharp, false, none, .stop⟩ ([.gui] ++ [.core]))
      (Session.ready_start _ [.gui]) (Session.ready_start _ [.core]) hgui hcore rfl
      (fun _ => by decide) observer_ignore observer_ignore observer_ignore
    exact ⟨outputs, outputs₁, outputs₂, h, h₁, h₂, hviews hthrough⟩
  · have hstops : ¬ GoesThrough ⟨.csharp, false, none, .stop⟩
        (runTarget .shipped (fun _ => pure ()) (.start ⟨.csharp, false, none, .stop⟩
          (.ofModules [.core]))).2.program := by decide +kernel
    obtain ⟨outputs, outputs₁, outputs₂, h, h₁, h₂, -, hviews⟩ := run_append_views
      (Session.ready_start ⟨.csharp, false, none, .stop⟩ ([.core] ++ [.gui]))
      (Session.ready_start _ [.core]) (Session.ready_start _ [.gui]) hcore hgui rfl
      (fun _ => by decide) observer_ignore observer_ignore observer_ignore
    exact ⟨outputs, outputs₁, h, h₁, hviews hstops⟩

end Interop
