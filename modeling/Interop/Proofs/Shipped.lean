import Mathlib.Data.List.Forall2
import Interop.Proofs.Policies
import Interop.Proofs.Rendering
import Interop.Proofs.Run

/-!
# The shipped backends

What the shipped backends yield for a unit or a module is fixed by whether anything is generated
there, and the texts are rendered from the units alone. Over plain modules their passes go through
and all their templates can be processed, so a run without a directory has the outcome of one of two
maps: over the units that have output of their own, or over the modules.
-/

namespace Interop

open Generation Session

/-- Whether anything of a unit is generated. -/
def SourceUnit.showsSomething (u : SourceUnit) : Bool := !u.generatedDeclarations.isEmpty

/-- The layout by module is for C# alone. -/
theorem Options.target_of_singleFile {o : Options} (h : o.layout = .singleFile) :
    o.target = .csharp := by
  by_contra hne
  rw [layout_of_ne_csharp hne] at h
  cases h

/-- The reserved words of a target language. -/
def Keywords.ofTarget : Target → List String
  | .cppCli => cppCli
  | .csharp => csharp

namespace Backend

/-- The shipped backend for a target language. -/
def ofTarget : Target → Backend
  | .cppCli => cppCli
  | .csharp => csharp

/-- The forms of the templates that a shipped backend yields for a unit. -/
def forms : Target → List TemplateForm
  | .cppCli => [Template.CppCli.header, Template.CppCli.source]
  | .csharp => [Template.CSharp.form]

/-- The table of shipped backends has one for every target language. -/
theorem backendFor_shipped (target : Target) :
    backendFor .shipped target = .ok (ofTarget target) := by
  cases target <;> rfl

/-- With the shipped table, the options choose the backend that is run. -/
theorem runTarget_shipped (notify : Output → Action Unit) (s : Session) :
    runTarget .shipped notify s = run (ofTarget s.options.target) notify s := by
  unfold runTarget
  rw [Action.get_bind, backendFor_shipped]
  rfl

section Shipped

variable (target : Target)

/-- The passes of a shipped backend can be set up. -/
theorem setupSucceeds_ofTarget : (ofTarget target).setupSucceeds = true := by
  cases target <;> rfl

/-- A shipped backend needs a pass that hides and one that reserves the words of the target
language. -/
theorem passes_ofTarget :
    (ofTarget target).passes = [.ignoreUnnamed, .renameReserved (Keywords.ofTarget target)] := by
  cases target <;> rfl

/-- A shipped backend needs no pass of the caller's own. -/
theorem isBuiltIn_ofTarget : ∀ pass ∈ (ofTarget target).passes, pass.IsBuiltIn := by
  intro pass hp
  cases target <;>
    (simp only [ofTarget, cppCli, csharp, List.mem_cons, List.not_mem_nil, or_false] at hp
     rcases hp with rfl | rfl <;> exact trivial)

/-- A shipped backend writes every complete type. -/
theorem isTotal_ofTarget : (ofTarget target).printer.IsTotal := by
  cases target
  · exact CType.isTotal_cppCli
  · exact CType.isTotal_csharp

/-- A shipped backend works in the layout that the options ask for. -/
theorem layout_ofTarget (o : Options) : (ofTarget o.target).layout o = o.layout := by
  unfold layout Options.layout
  cases o.target <;> cases o.singleFile <;> rfl

/-- For a unit with output of its own, a shipped backend yields its forms or nothing at all. -/
theorem templatesFor_ofTarget {u : PlacedUnit} (h : u.2.isEligible = true) :
    (ofTarget target).templatesFor u =
      if u.2.generatedDeclarations.isEmpty then []
      else (forms target).map fun form => .make form [u.1] (unitContext (ofTarget target) u.2) := by
  have hshows : showsSomething [u] = !u.2.generatedDeclarations.isEmpty := Bool.or_false _
  cases target with
  | cppCli =>
    change (if showsSomething [u] = true then _ else _) = _
    rw [hshows]
    cases u.2.generatedDeclarations.isEmpty <;> rfl
  | csharp =>
    have hfilter : [u].filter (·.2.isEligible) = [u] := by simp [h]
    change csharpTemplates .perUnit [u] _ = _
    unfold csharpTemplates
    dsimp only
    rw [hfilter, hshows]
    cases u.2.generatedDeclarations.isEmpty <;> rfl

/-- A shipped backend yields something for a unit exactly if something is generated there. -/
theorem yields_ofTarget {u : PlacedUnit} (h : u.2.isEligible = true) :
    (ofTarget target).yields u = u.2.showsSomething := by
  unfold yields SourceUnit.showsSomething
  rw [templatesFor_ofTarget target h]
  cases u.2.generatedDeclarations.isEmpty <;> cases target <;> rfl

/-- Whatever it is asked for, a shipped backend yields its forms or nothing at all. -/
theorem templates_ofTarget (layout : Layout) (units : List PlacedUnit)
    (context : GenerationContext) :
    (ofTarget target).templates layout units context = [] ∨
      ∃ positions, (ofTarget target).templates layout units context =
        (forms target).map fun form => .make form positions context := by
  cases target with
  | cppCli =>
    by_cases h : showsSomething units = true
    · exact .inr ⟨positions units, if_pos h⟩
    · exact .inl (if_neg h)
  | csharp =>
    by_cases h : (decide (layout = .singleFile) ||
      showsSomething (units.filter (·.2.isEligible))) = true
    · exact .inr ⟨_, if_pos h⟩
    · exact .inl (if_neg h)

/-- If a shipped backend yields anything, it yields its forms. -/
theorem forms_of_templates {target : Target} {layout : Layout} {units : List PlacedUnit}
    {context : GenerationContext} {t : Template} {ts : List Template}
    (h : (ofTarget target).templates layout units context = t :: ts) :
    (t :: ts).map (·.form) = forms target := by
  rcases templates_ofTarget target layout units context with hnone | ⟨positions, hsome⟩
  · rw [hnone] at h
    cases h
  · rw [← h, hsome, List.map_map]
    exact List.map_id _

/-- For a module, C# yields one template, for the units that have output of their own. -/
theorem templates_csharp_singleFile (units : List PlacedUnit) (context : GenerationContext) :
    csharp.templates .singleFile units context =
      [.make Template.CSharp.form (positions (units.filter (·.2.isEligible))) context] := rfl

end Shipped

end Backend

namespace Template

/-- A template that was just made can be processed if its form renders its units. -/
theorem renders_make {p : Program} {form : TemplateForm} {positions : List Nat}
    {context : GenerationContext} (h : Succeeds (form.render (p.unitsAt positions) context)) :
    (make form positions context).Renders p := by
  obtain ⟨text, ht⟩ := h
  refine ⟨{ make form positions context with text? := some text }, ?_⟩
  unfold process make
  dsimp only
  rw [ht]

/-- Processing a template touches nothing but its text. -/
theorem process_eq_ok {p : Program} {t u : Template} (h : t.process p = .ok u) :
    u = { t with text? := u.text? } := by
  unfold process at h
  split at h
  · cases h
  · split at h
    · cases h
      rfl
    · cases h

/-- A settled template differs from the template by its text alone. -/
theorem settled_eq (p : Program) (t : Template) :
    t.settled p = { t with text? := (t.settled p).text? } := by
  unfold settled
  cases h : t.process p with
  | ok u => exact process_eq_ok h
  | error fault => rfl

/-- The text of a settled template is what its form renders. -/
theorem text?_settled_make (p : Program) (form : TemplateForm) (positions : List Nat)
    (context : GenerationContext) : ((make form positions context).settled p).text? =
      (form.render (p.unitsAt positions) context).toOption := by
  unfold settled process make
  dsimp only
  cases form.render (p.unitsAt positions) context <;> rfl

end Template

namespace Backend

/-- The forms of a shipped backend render units whose declarations can be written. -/
theorem succeeds_render_of_writable {target : Target} {form : TemplateForm}
    (h : form ∈ forms target) {context : GenerationContext} (hp : context.printer.IsTotal)
    {units : List SourceUnit} (hunits : ∀ d ∈ Template.declarationsOf units, d.IsWritable) :
    Template.Succeeds (form.render units context) := by
  cases target with
  | cppCli =>
    rcases List.mem_cons.1 h with rfl | h
    · exact Template.CppCli.succeeds_headerText hp hunits
    · rcases List.mem_singleton.1 h with rfl
      exact Template.CppCli.succeeds_sourceText hp hunits _
  | csharp =>
    rcases List.mem_singleton.1 h with rfl
    exact Template.CSharp.succeeds_text hp hunits

/-- The forms of a shipped backend render plain units. -/
theorem succeeds_render_forms {target : Target} {form : TemplateForm} (h : form ∈ forms target)
    {context : GenerationContext} (hp : context.printer.IsTotal) {units : List SourceUnit}
    (hunits : ∀ u ∈ units, u.IsPlain) : Template.Succeeds (form.render units context) :=
  succeeds_render_of_writable h hp (isWritable_of_mem_declarationsOf hunits)

section Plain

variable {p : Program} (hp : p.IsPlain) (target : Target)

include hp

/-- In a plain program a shipped form can be processed, whatever its units. -/
theorem renders_make_of_plain {form : TemplateForm} (h : form ∈ forms target)
    (positions : List Nat) {context : GenerationContext} (hc : context.printer.IsTotal) :
    (Template.make form positions context).Renders p :=
  Template.renders_make <| succeeds_render_forms h hc fun u hu =>
    hp u (Program.mem_units_of_mem_unitsAt hu)

/-- In a plain program all templates of a shipped backend for units can be processed. -/
theorem renders_templatesFor {u : PlacedUnit} (hu : u ∈ p.eligibleUnits) :
    ∀ t ∈ (ofTarget target).templatesFor u, t.Renders p := by
  intro t ht
  rw [templatesFor_ofTarget target (Program.mem_eligibleUnits_iff.1 hu).2] at ht
  split at ht
  · cases ht
  · obtain ⟨form, hform, rfl⟩ := List.mem_map.1 ht
    exact renders_make_of_plain hp target hform _ (isTotal_ofTarget target)

end Plain

end Backend

/-- The output for a module at some positions of a program. -/
def Backend.moduleOutput (b : Backend) (p : Program) (placed : Module × List Nat) : Output :=
  ⟨.synthetic (placed.1.outputFileName b.extension) placed.1.toLibrary,
    (b.templates .singleFile (p.placedAt placed.2)
      (moduleContext b placed.1.toLibrary)).map (·.settled p)⟩

/-- If a backend yields one template for every module and it can be processed, generation by module
gives one output for every module. -/
theorem Plan.outcome_singleFile {g : GeneratorId} {b : Backend} {p : Program}
    (modules : List (Module × List Nat))
    (h : ∀ m ∈ modules, ∃ t, b.templates .singleFile (p.placedAt m.2)
      (moduleContext b m.1.toLibrary) = [t] ∧ t.Renders p) :
    (Plan.singleFile g b p .singleFile modules).outcome =
      .ok (modules.map (b.moduleOutput p)) := by
  induction modules with
  | nil => rfl
  | cons m more ih =>
    obtain ⟨t, ht, hr⟩ := h m List.mem_cons_self
    have hmore := ih fun m' hm' => h m' (List.mem_cons_of_mem m hm')
    have hts : ∀ u ∈ [t], u.Renders p := List.forall_mem_singleton.2 hr
    have hp := (Plan.processing_of_renders hts fun us =>
      Plan.output ⟨.synthetic (m.1.outputFileName b.extension) m.1.toLibrary, us⟩
        (.note [.logged ⟨.debug, "Generated " ++ m.1.outputFileName b.extension ++ " from " ++
          Nat.repr m.1.units.length ++ " unit(s)"⟩] (.singleFile g b p .singleFile more))).1
    rw [Plan.singleFile]
    simp only [Plan.outcome, ht, hp, hmore, List.map_cons, Backend.moduleOutput]
    rfl

/-- Processing goes on with the processed templates. -/
theorem Plan.outcome_processing {p : Program} {ts : List Template} {next : List Template → Plan}
    {outputs : List Output} (h : (processing p ts next).outcome = .ok outputs) :
    ∃ us, List.Forall₂ (fun t u => Template.process p t = .ok u) ts us ∧
      (next us).outcome = .ok outputs := by
  induction ts generalizing next with
  | nil => exact ⟨[], .nil, h⟩
  | cons t more ih =>
    rw [processing] at h
    cases ht : t.process p with
    | error fault =>
      rw [ht] at h
      cases h
    | ok u =>
      rw [ht] at h
      obtain ⟨us, hus, hnext⟩ := @ih (fun us => next (u :: us)) h
      exact ⟨u :: us, .cons ht hus, hnext⟩

/-- Outputs that come after an output. -/
theorem Plan.outcome_output {o : Output} {rest : Plan} {outputs : List Output}
    (h : (Plan.output o rest).outcome = .ok outputs) :
    ∃ others, outputs = o :: others ∧ rest.outcome = .ok others := by
  rw [outcome] at h
  cases hr : rest.outcome with
  | error fault =>
    rw [hr] at h
    cases h
  | ok others =>
    rw [hr] at h
    exact ⟨others, (Except.ok.inj h).symm, rfl⟩

/-- Whether some units may be asked for in a program: they stand at their positions, and in the
layout by unit they have output of their own. -/
structure Program.MayAsk (p : Program) (layout : Layout) (units : List PlacedUnit) : Prop where
  /-- The units stand at their positions. -/
  placed : ∀ u ∈ units, p.units[u.1]? = some u.2
  /-- In the layout by unit, they have output of their own. -/
  eligible : layout = .perUnit → ∀ u ∈ units, u.2.isEligible = true

/-- Whether templates come of a request that a plan may make of a backend: something is yielded, and
every template of it is processed. -/
def Backend.Yields (backend : Backend) (p : Program) (layout : Layout) (us : List Template) :
    Prop :=
  ∃ units context, p.MayAsk layout units ∧ backend.templates layout units context ≠ [] ∧
    List.Forall₂ (fun t u => Template.process p t = .ok u) (backend.templates layout units context)
      us

section Requests

variable {g : GeneratorId} {backend : Backend} {p : Program} {outputs : List Output}

/-- The templates of every output for a unit come of a request. -/
theorem yields_of_outcome_perUnit {policy : EmptyPolicy} {positions : List Nat}
    (hpositions : ∀ position ∈ positions, ∀ u, p.units[position]? = some u → u.isEligible = true)
    (h : (Plan.perUnit g backend p .perUnit policy positions).outcome = .ok outputs) :
    ∀ o ∈ outputs, backend.Yields p .perUnit o.templates := by
  induction positions generalizing outputs with
  | nil =>
    cases h
    exact fun o ho => absurd ho List.not_mem_nil
  | cons position more ih =>
    obtain ⟨hposition, hmore⟩ := List.forall_mem_cons.1 hpositions
    rw [Plan.perUnit] at h
    cases hu : p.units[position]? with
    | none =>
      rw [hu] at h
      exact ih hmore h
    | some unit =>
      rw [hu, Plan.outcome] at h
      cases ht : backend.templates .perUnit [(position, unit)] (unitContext backend unit) with
      | nil =>
        rw [ht] at h
        cases policy with
        | stop =>
          cases h
          exact fun o ho => absurd ho List.not_mem_nil
        | skip => exact ih hmore h
        | fail => cases h
      | cons t ts =>
        rw [ht] at h
        obtain ⟨us, hus, hnext⟩ := Plan.outcome_processing h
        obtain ⟨others, rfl, hrest⟩ := Plan.outcome_output hnext
        have hask : p.MayAsk .perUnit [(position, unit)] :=
          ⟨List.forall_mem_singleton.2 hu,
            fun _ => List.forall_mem_singleton.2 (hposition unit hu)⟩
        rw [← ht] at hus
        exact List.forall_mem_cons.2
          ⟨⟨_, _, hask, ht ▸ List.cons_ne_nil t ts, hus⟩, ih hmore hrest⟩

/-- The templates of every output for a module come of a request. -/
theorem yields_of_outcome_singleFile {modules : List (Module × List Nat)}
    (h : (Plan.singleFile g backend p .singleFile modules).outcome = .ok outputs) :
    ∀ o ∈ outputs, backend.Yields p .singleFile o.templates := by
  induction modules generalizing outputs with
  | nil =>
    cases h
    exact fun o ho => absurd ho List.not_mem_nil
  | cons m more ih =>
    rw [Plan.singleFile, Plan.outcome] at h
    cases ht : backend.templates .singleFile (p.placedAt m.2)
      (moduleContext backend m.1.toLibrary) with
    | nil =>
      rw [ht] at h
      cases h
    | cons t ts =>
      rw [ht] at h
      cases ts with
      | cons t' ts' => cases h
      | nil =>
        obtain ⟨us, hus, hnext⟩ := Plan.outcome_processing h
        obtain ⟨others, rfl, hrest⟩ := Plan.outcome_output hnext
        have hask : p.MayAsk .singleFile (p.placedAt m.2) :=
          ⟨fun u hu => Program.getElem?_of_mem_placedAt hu,
            fun hlayout => absurd hlayout (by decide)⟩
        rw [← ht] at hus
        exact List.forall_mem_cons.2 ⟨⟨_, _, hask, ht ▸ List.cons_ne_nil t [], hus⟩, ih hrest⟩

/-- The templates of every output of a plan come of a request. -/
theorem yields_of_outcome_generation {o : Options}
    (h : (Plan.generation g backend p o).outcome = .ok outputs) :
    ∀ out ∈ outputs, backend.Yields p (backend.layout o) out.templates := by
  unfold Plan.generation at h
  cases hlayout : backend.layout o with
  | perUnit =>
    rw [hlayout] at h
    refine yields_of_outcome_perUnit (fun position hposition u hu => ?_) h
    rw [Program.eligiblePositions_eq] at hposition
    obtain ⟨v, hv, rfl⟩ := List.mem_map.1 hposition
    obtain ⟨hat, heligible⟩ := Program.mem_eligibleUnits_iff.1 hv
    rw [hat] at hu
    cases hu
    exact heligible
  | singleFile =>
    rw [hlayout] at h
    exact yields_of_outcome_singleFile h

/-- Every output of the plan of a shipped backend has the backend's forms. -/
theorem forms_of_outcome_generation {target : Target} {o : Options}
    (h : (Plan.generation g (.ofTarget target) p o).outcome = .ok outputs) :
    ∀ out ∈ outputs, out.templates.map (·.form) = Backend.forms target := by
  intro out hout
  obtain ⟨units, context, -, hne, hus⟩ := yields_of_outcome_generation h out hout
  have hforms : ∀ {ts us : List Template},
      List.Forall₂ (fun t u => Template.process p t = .ok u) ts us →
      us.map (·.form) = ts.map (·.form) := by
    intro ts us hprocessed
    induction hprocessed with
    | nil => rfl
    | cons ht _ ih => rw [List.map_cons, List.map_cons, ih, Template.process_eq_ok ht]
  obtain ⟨t, ts, hts⟩ := List.exists_cons_of_ne_nil hne
  rw [hforms hus, hts]
  exact Backend.forms_of_templates hts

end Requests

/-- A session that is ready to run over some modules under some options: no pass waits yet. What
else it holds, such as generators and printers of earlier runs, is left open. -/
structure Session.Ready (o : Options) (modules : List Module) (s : Session) : Prop where
  /-- The options are these. -/
  options : s.options = o
  /-- The program consists of these modules. -/
  program : s.program = .ofModules modules
  /-- No pass waits. -/
  passes : s.passes = []

/-- A session in which nothing was done yet is ready. -/
theorem Session.ready_start (o : Options) (modules : List Module) :
    (Session.start o (.ofModules modules)).Ready o modules := ⟨rfl, rfl, rfl⟩

/-- The program that the passes of a backend leave. -/
def Backend.passedProgram (b : Backend) (p : Program) : Program :=
  p.mapUnits (Pass.onUnitAll b.passes)

/-- What a shipped run over plain modules gives: outputs by unit, as the policy says, or one output
for every module. -/
def shippedOutcome (o : Options) (p : Program) : Except Fault (List Output) :=
  match o.layout with
  | .perUnit => (Account.byUnit (.ofTarget o.target) p p.eligibleUnits o.policy).outcome
  | .singleFile => .ok (p.placedModules.map ((Backend.ofTarget o.target).moduleOutput p))

section Runs

variable {o : Options} {modules : List Module} {s : Session} {notify : Output → Action Unit}

/-- In a plain program the plan of a shipped backend has the outcome of its layout. -/
theorem outcome_generation_of_plain (g : GeneratorId) {p : Program} (hp : p.IsPlain)
    (o : Options) :
    (Plan.generation g (.ofTarget o.target) p o).outcome = shippedOutcome o p := by
  unfold Plan.generation shippedOutcome
  rw [Backend.layout_ofTarget]
  cases hl : o.layout with
  | perUnit =>
    dsimp only
    rw [Program.eligiblePositions_eq]
    exact congrArg Account.outcome (ofPlan_perUnit (g := g) _
      (fun u => Program.getElem?_of_mem_eligibleUnits)
      fun u hu => Backend.renders_templatesFor hp o.target hu)
  | singleFile =>
    rw [Options.target_of_singleFile hl]
    refine Plan.outcome_singleFile p.placedModules fun m _ => ?_
    exact ⟨_, rfl, Backend.renders_make_of_plain hp .csharp (List.mem_singleton.2 rfl) _
      CType.isTotal_csharp⟩

/-- The passes of a shipped backend go through a program whose names can be looked up. -/
theorem passed_of_ready (hs : s.Ready o modules) (hkeys : (Program.ofModules modules).HasKeys) :
    (passed (.ofTarget o.target) s).result.2 =
        (Backend.ofTarget o.target).passedProgram (.ofModules modules) ∧
      (passed (.ofTarget o.target) s).stopped = false := by
  have hpassed : passed (.ofTarget o.target) s = PassEntry.runAll (.ofModules modules)
      ((Backend.ofTarget o.target).passes.map .fresh) := by
    unfold passed
    rw [hs.program, hs.passes, List.nil_append]
  have hbuiltIn : ∀ e ∈ (Backend.ofTarget o.target).passes.map PassEntry.fresh,
      e.pass.IsBuiltIn := by
    intro e he
    obtain ⟨pass, hpass, rfl⟩ := List.mem_map.1 he
    exact Backend.isBuiltIn_ofTarget o.target pass hpass
  have hall := PassEntry.runAll_of_hasKeys hbuiltIn hkeys
  rwa [PassEntry.map_pass_fresh, ← hpassed] at hall

/-- A run of the shipped backends over plain modules, without a directory and before an onlooker,
gives the outcome of its layout for the program that the passes leave, and leaves that program. -/
theorem runTarget_shipped_of_ready (hs : s.Ready o modules)
    (hplain : (Program.ofModules modules).IsPlain) (hdirectory : outputDirectory? o = none)
    (hnotify : Observer notify) :
    let p := (Backend.ofTarget o.target).passedProgram (.ofModules modules)
    let r := runTarget .shipped notify s
    r.1 = shippedOutcome o p ∧ r.2.program = p ∧ p.IsPlain := by
  have hall := passed_of_ready hs hplain.hasKeys
  have hp : ((Backend.ofTarget o.target).passedProgram (.ofModules modules)).IsPlain :=
    hplain.mapUnits fun u => Pass.isPlain_onUnitAll _
  have hrun := run_of_observer (.ofTarget o.target) hnotify (s := s) (hs.options ▸ hdirectory)
    (Backend.setupSucceeds_ofTarget o.target) hall.2
  dsimp only
  rw [Backend.runTarget_shipped, hs.options]
  refine ⟨?_, hrun.2.trans hall.1, hp⟩
  rw [hrun.1, hall.1, hs.options]
  exact outcome_generation_of_plain _ hp o

end Runs

/-- A run over some modules in a session in which nothing was done yet. -/
def freshRun (o : Options) (modules : List Module) : Except Fault (List Output) × Session :=
  runTarget .shipped (fun _ => pure ()) (.start o (.ofModules modules))

end Interop
