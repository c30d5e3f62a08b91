import Interop.Proofs.Hidden
import Interop.Proofs.Rerun

/-!
# What others see of a run

Whoever takes an output sees the outline of its unit and its templates; the declarations of the unit
have no part in what becomes of it. Two plans take the same course if they come to the same outputs,
seen so, and the same end. Shipped backends plan the same course for alike programs, so runs over
alike modules return outputs of the same outlines and texts, or end by the same fault, and they
write the same files.
-/

namespace Interop

open Session Generation

/-- An output as others see it: the declarations of its unit are left out. -/
def Output.outline (o : Output) : Output := ⟨o.unit.outline, o.templates⟩

namespace Action

variable {α β γ : Type} {view : Session → γ}

/-- Two steps follow each other if sessions that look the same before them look the same after them,
and the results or faults are the same. -/
def Follows (view : Session → γ) (step step' : Action α) : Prop :=
  ∀ s s', view s = view s' → (step s).1 = (step' s').1 ∧ view (step s).2 = view (step' s').2

/-- Steps after steps that follow each other do so if the second ones do. -/
theorem Follows.bind {first first' : Action α} {next next' : α → Action β}
    (hfirst : Follows view first first') (hnext : ∀ a, Follows view (next a) (next' a)) :
    Follows view (first >>= next) (first' >>= next') := by
  intro s s' hs
  have h := hfirst s s' hs
  rcases he : first s with ⟨r, t⟩
  rcases he' : first' s' with ⟨r', t'⟩
  rw [he, he'] at h
  obtain ⟨hr, ht⟩ := h
  dsimp only at hr ht
  subst hr
  cases r with
  | error fault =>
    rw [bind_of_error he, bind_of_error he']
    exact ⟨rfl, ht⟩
  | ok a =>
    rw [bind_of_ok he, bind_of_ok he']
    exact hnext a t t' ht

/-- Giving the same value at once follows itself. -/
theorem follows_pure (view : Session → γ) (a : α) : Follows view (pure a) (pure a) :=
  fun _ _ hs => ⟨rfl, hs⟩

/-- Taking over the same result or fault follows itself. -/
theorem follows_ofExcept {ε : Type} (view : Session → γ) (wrap : ε → Fault) (r : Except ε α) :
    Follows view (ofExcept wrap r) (ofExcept wrap r) := by
  intro s s' hs
  rw [ofExcept_apply, ofExcept_apply]
  exact ⟨rfl, hs⟩

/-- Changes that are seen alike follow each other. -/
theorem follows_modify {change change' : Session → Session}
    (h : ∀ s s', view s = view s' → view (change s) = view (change' s')) :
    Follows view (modify change) (modify change') := fun s s' hs => ⟨rfl, h s s' hs⟩

/-- Logging follows itself where records are not seen. -/
theorem follows_log (h : ∀ es s, view (noted es s) = view s) (r : LogRecord) :
    Follows view (log r) (log r) :=
  fun s s' hs => ⟨rfl, (h [.logged r] s).trans (hs.trans (h [.logged r] s').symm)⟩

end Action

namespace Writer

variable (directory : Path)

/-- Writing a template depends on what is on disk and on the stem of the unit's file. -/
theorem follows_writeTemplate {unit unit' : SourceUnit} (h : unit.fileStem = unit'.fileStem)
    (t : Template) : Action.Follows Session.workspace (writeTemplate directory unit t)
      (writeTemplate directory unit' t) := by
  have hpath : pathFor directory unit t = pathFor directory unit' t := by
    unfold pathFor fileName
    rw [h]
  intro s s' hs
  have hfiles : s.files = s'.files := congrArg Workspace.files hs
  have hworking : s.workingDirectory = s'.workingDirectory := congrArg Workspace.directory hs
  unfold writeTemplate
  rw [Action.get_bind, Action.get_bind, hpath, hfiles, hworking]
  refine (Action.follows_ofExcept _ _ _).bind (fun placed => ?_) s s' hs
  refine Action.Follows.bind ?_ fun _ => ?_
  · refine Action.follows_modify fun x x' hx => ?_
    exact congrArg (fun w : Workspace =>
      (⟨placed.1.setContent placed.2 "", w.directory⟩ : Workspace)) hx
  refine (Action.follows_ofExcept _ _ _).bind fun text => ?_
  refine (Action.follows_ofExcept _ _ _).bind fun _ => ?_
  refine Action.Follows.bind ?_ fun _ => ?_
  · refine Action.follows_modify fun x x' hx => ?_
    exact congrArg (fun w : Workspace =>
      (⟨w.files.setContent placed.2 text, w.directory⟩ : Workspace)) hx
  · exact (Action.follows_log (fun _ _ => rfl) _).bind fun _ => Action.follows_pure _ _

/-- Writing an output depends on what is on disk and on the outline of the output. -/
theorem follows_write {o o' : Output} (h : o.outline = o'.outline) :
    Action.Follows Session.workspace (discard (write directory o))
      (discard (write directory o')) := by
  have hstem : o.unit.fileStem = o'.unit.fileStem :=
    (congrArg (fun w : Output => w.unit.fileStem) h :)
  have htemplates : o.templates = o'.templates := (congrArg Output.templates h :)
  have hall : ∀ ts, Action.Follows Session.workspace (writeTemplates directory o.unit ts)
      (writeTemplates directory o'.unit ts) := by
    intro ts
    induction ts with
    | nil => exact Action.follows_pure _ _
    | cons t more ih =>
      exact (follows_writeTemplate directory hstem t).bind fun _ => ih.bind fun _ =>
        Action.follows_pure _ _
  unfold write
  rw [htemplates]
  refine Action.Follows.bind ?_ fun _ => Action.follows_pure _ _
  exact (hall _).bind fun _ => (Action.follows_modify fun _ _ hx => hx).bind fun _ =>
    Action.follows_pure _ _

end Writer

namespace Plan

/-- Two plans take the same course: they come to outputs of the same outlines and to the same end.
Entries in the journal may differ. -/
inductive SameCourse : Plan → Plan → Prop
  /-- Both have nothing left to do. -/
  | done : SameCourse done done
  /-- Both end by the same fault. -/
  | fail (fault : Fault) : SameCourse (fail fault) (fail fault)
  /-- The first one makes entries. -/
  | noteLeft (entries : List Event) {plan plan' : Plan} (h : SameCourse plan plan') :
      SameCourse (note entries plan) plan'
  /-- The second one makes entries. -/
  | noteRight (entries : List Event) {plan plan' : Plan} (h : SameCourse plan plan') :
      SameCourse plan (note entries plan')
  /-- Both come to outputs of one outline. -/
  | output {o o' : Output} {plan plan' : Plan} (ho : o.outline = o'.outline)
      (h : SameCourse plan plan') : SameCourse (output o plan) (output o' plan')

/-- Plans that make entries take the same course if they do afterwards. -/
theorem SameCourse.note (es es' : List Event) {plan plan' : Plan} (h : SameCourse plan plan') :
    SameCourse (.note es plan) (.note es' plan') := .noteLeft es (.noteRight es' h)

/-- Outputs of one outline, put in front of what two steps give, leave the results alike if they
were. -/
theorem outlines_cons {γ : Type} {view : Session → γ} {o o' : Output} (ho : o.outline = o'.outline)
    {rest rest' : Action (List Output)} {s s' : Session}
    (h : (rest s).1.map (·.map Output.outline) = (rest' s').1.map (·.map Output.outline) ∧
      view (rest s).2 = view (rest' s').2) :
    let r := (rest >>= fun outputs => pure (o :: outputs)) s
    let r' := (rest' >>= fun outputs => pure (o' :: outputs)) s'
    r.1.map (·.map Output.outline) = r'.1.map (·.map Output.outline) ∧ view r.2 = view r'.2 := by
  rcases he : rest s with ⟨q, u⟩
  rcases he' : rest' s' with ⟨q', u'⟩
  rw [he, he'] at h
  obtain ⟨hq, hu⟩ := h
  cases q with
  | error fault =>
    cases q' with
    | ok outputs => cases hq
    | error fault' =>
      rw [Action.bind_of_error he, Action.bind_of_error he']
      exact ⟨congrArg Except.error (Except.error.inj hq), hu⟩
  | ok outputs =>
    cases q' with
    | error fault => cases hq
    | ok outputs' =>
      have houtputs : outputs.map Output.outline = outputs'.map Output.outline :=
        Except.ok.inj hq
      rw [Action.bind_of_ok he, Action.bind_of_ok he']
      exact ⟨congrArg Except.ok (congrArg₂ List.cons ho houtputs), hu⟩

/-- Plans of the same course are carried out alike before receivers that follow each other on
outputs of the same outlines. -/
theorem SameCourse.carryOut {γ : Type} (view : Session → γ) {g g' : GeneratorId}
    {notify notify' : Output → Action Unit} (hv : ∀ es s, view (noted es s) = view s)
    (hn : ∀ o o', o.outline = o'.outline → Action.Follows view (notify o) (notify' o'))
    {plan plan' : Plan} (h : SameCourse plan plan') {s s' : Session} (hs : view s = view s') :
    let r := plan.carryOut g notify s
    let r' := plan'.carryOut g' notify' s'
    r.1.map (·.map Output.outline) = r'.1.map (·.map Output.outline) ∧ view r.2 = view r'.2 := by
  induction h generalizing s s' with
  | done => exact ⟨rfl, hs⟩
  | fail fault => exact ⟨rfl, hs⟩
  | noteLeft es _ ih => exact ih ((hv es s).trans hs)
  | noteRight es _ ih => exact ih (hs.trans (hv es s').symm)
  | @output o o' plan plan' ho _ ih =>
    have hreport := hn o o' ho (s.noted [.reported g o s.printers.current?])
      (s'.noted [.reported g' o' s'.printers.current?]) ((hv _ s).trans (hs.trans (hv _ s').symm))
    rcases he : report g notify o s with ⟨r, t⟩
    rcases he' : report g' notify' o' s' with ⟨r', t'⟩
    obtain ⟨hr, ht⟩ : r = r' ∧ view t = view t' := by
      change notify o (s.noted _) = _ at he
      change notify' o' (s'.noted _) = _ at he'
      rwa [he, he'] at hreport
    subst hr
    have hrest := ih ht
    dsimp only [Plan.carryOut]
    cases r with
    | error fault =>
      rw [Action.bind_of_error he, Action.bind_of_error he']
      exact ⟨rfl, ht⟩
    | ok a =>
      rw [Action.bind_of_ok he, Action.bind_of_ok he']
      exact outlines_cons ho hrest

/-- Templates that come to the same in two programs are processed on the same course. -/
theorem SameCourse.processing {p q : Program} {ts : List Template}
    (hts : ∀ t ∈ ts, t.process p = t.process q) {next next' : List Template → Plan}
    (hnext : ∀ us, SameCourse (next us) (next' us)) :
    SameCourse (processing p ts next) (processing q ts next') := by
  induction ts generalizing next next' with
  | nil => exact hnext []
  | cons t more ih =>
    obtain ⟨ht, hmore⟩ := List.forall_mem_cons.1 hts
    unfold Plan.processing
    rw [← ht]
    cases t.process p with
    | ok u => exact .note _ _ (ih hmore fun us => hnext (u :: us))
    | error fault => exact .note _ _ (.fail _)

end Plan

namespace Backend

variable {target : Target} {position : Nat} {u v : SourceUnit}

/-- A shipped backend yields the same templates for units that look the same. -/
theorem templatesFor_congr (h : u.LooksLike v) (hu : u.isEligible = true) :
    (ofTarget target).templatesFor (position, u) =
      (ofTarget target).templatesFor (position, v) := by
  have hcontext : unitContext (ofTarget target) u = unitContext (ofTarget target) v :=
    (congrArg (unitContext (ofTarget target)) h.outline :)
  have hempty : u.generatedDeclarations.isEmpty = v.generatedDeclarations.isEmpty := by
    rw [Bool.eq_iff_iff, List.isEmpty_iff_length_eq_zero, List.isEmpty_iff_length_eq_zero,
      h.generatedDeclarations.length_eq]
  rw [templatesFor_ofTarget target hu, templatesFor_ofTarget target (h.isEligible ▸ hu)]
  dsimp only
  rw [hempty, hcontext]

/-- The templates of a shipped backend for a unit have its forms and show that unit alone. -/
theorem of_mem_templatesFor (hu : u.isEligible = true) {t : Template}
    (ht : t ∈ (ofTarget target).templatesFor (position, u)) :
    t.form ∈ forms target ∧ t.positions = [position] := by
  rw [templatesFor_ofTarget target hu] at ht
  split at ht
  · cases ht
  · obtain ⟨form, hform, rfl⟩ := List.mem_map.1 ht
    exact ⟨hform, rfl⟩

/-- The positions of units that have output of their own. -/
theorem positions_filter_placedAt (p : Program) (places : List Nat) :
    positions ((p.placedAt places).filter (·.2.isEligible)) = places.filter p.isEligibleAt := by
  induction places with
  | nil => rfl
  | cons i more ih =>
    unfold Program.placedAt positions at ih ⊢
    rw [List.filterMap_cons, List.filter_cons, ← ih]
    unfold Program.isEligibleAt
    cases hu : p.units[i]? with
    | none => rfl
    | some u =>
      dsimp only [Option.map_some, Option.any_some]
      rw [List.filter_cons]
      exact apply_ite (List.map Prod.fst) _ _ _

end Backend

namespace Plan

variable {p q : Program} {g g' : GeneratorId}

/-- In the layout by unit, a shipped backend plans the same course for alike programs. -/
theorem sameCourse_perUnit (h : p.Alike q) (target : Target) (policy : EmptyPolicy)
    {positions : List Nat} (hpositions : ∀ i ∈ positions, p.isEligibleAt i = true) :
    SameCourse (perUnit g (.ofTarget target) p .perUnit policy positions)
      (perUnit g' (.ofTarget target) q .perUnit policy positions) := by
  induction positions with
  | nil => exact .done
  | cons position more ih =>
    obtain ⟨hposition, hmore⟩ := List.forall_mem_cons.1 hpositions
    obtain ⟨u, v, hu, hv, heligible, hlooks⟩ := h.looksLike_at hposition
    have hpath : u.filePath = v.filePath := (congrArg SourceUnit.filePath hlooks.outline :)
    have htemplates : (Backend.ofTarget target).templates .perUnit [(position, u)]
          (unitContext (.ofTarget target) u) =
        (Backend.ofTarget target).templates .perUnit [(position, v)]
          (unitContext (.ofTarget target) v) := Backend.templatesFor_congr hlooks heligible
    unfold Plan.perUnit
    rw [hu, hv]
    refine .note _ _ ?_
    rw [← htemplates]
    cases hts : (Backend.ofTarget target).templates .perUnit [(position, u)]
      (unitContext (.ofTarget target) u) with
    | nil =>
      cases policy with
      | fail =>
        dsimp only
        rw [hpath]
        exact .fail _
      | skip => exact .note _ _ (ih hmore)
      | stop => exact .note _ _ .done
    | cons t ts =>
      refine .processing (fun t' ht' => ?_) fun us => .output ?_ (.note _ _ (ih hmore))
      · have hmem : t' ∈ (Backend.ofTarget target).templatesFor (position, u) := by
          unfold Backend.templatesFor
          rwa [hts]
        obtain ⟨hform, hat⟩ := Backend.of_mem_templatesFor heligible hmem
        refine Template.process_congr h hform fun i hi => ?_
        rw [hat] at hi
        rwa [List.mem_singleton.1 hi]
      · exact congrArg (Output.mk · us) hlooks.outline

/-- In the layout by module, C# plans the same course for alike programs. -/
theorem sameCourse_singleFile (h : p.Alike q) {modules modules' : List (Module × List Nat)}
    (hmodules : List.Forall₂ (fun m n : Module × List Nat =>
      m.1.toLibrary = n.1.toLibrary ∧ m.2 = n.2) modules modules') :
    SameCourse (singleFile g .csharp p .singleFile modules)
      (singleFile g' .csharp q .singleFile modules') := by
  induction hmodules with
  | nil => exact .done
  | @cons m n more more' hmn _ ih =>
    obtain ⟨module, positions⟩ := m
    obtain ⟨module', positions'⟩ := n
    obtain ⟨hlibrary, rfl⟩ := hmn
    unfold Plan.singleFile
    dsimp only at hlibrary ⊢
    rw [Backend.templates_csharp_singleFile, Backend.templates_csharp_singleFile,
      Backend.positions_filter_placedAt, Backend.positions_filter_placedAt, h.isEligibleAt,
      hlibrary]
    refine .note _ _ (.processing (fun t ht => ?_) fun us => .output rfl (.note _ _ ih))
    obtain rfl := List.mem_singleton.1 ht
    have hform : Template.CSharp.form ∈ Backend.forms .csharp := List.mem_singleton.2 rfl
    refine Template.process_congr h hform fun i hi => ?_
    rw [h.isEligibleAt]
    exact (List.mem_filter.1 hi).2

/-- The modules of alike programs stand for the same libraries at the same positions. -/
theorem forall₂_placedModules (h : p.Alike q) :
    List.Forall₂ (fun m n : Module × List Nat => m.1.toLibrary = n.1.toLibrary ∧ m.2 = n.2)
      p.placedModules q.placedModules := by
  have hfrom : ∀ {ms ns : List Module}, List.Forall₂ Module.Alike ms ns → ∀ first,
      List.Forall₂ (fun m n : Module × List Nat => m.1.toLibrary = n.1.toLibrary ∧ m.2 = n.2)
        (Program.placedFrom first ms) (Program.placedFrom first ns) := by
    intro ms ns hall
    induction hall with
    | nil => exact fun _ => .nil
    | @cons m n ms ns hmn _ ih =>
      intro first
      have hlength : m.units.length = n.units.length := hmn.units.length_eq
      unfold Program.placedFrom
      rw [hlength]
      exact .cons ⟨hmn.library, rfl⟩ (ih _)
  exact hfrom h.modules 0

/-- A shipped backend plans the same course for alike programs. -/
theorem sameCourse_generation (g g' : GeneratorId) (h : p.Alike q) (o : Options) :
    SameCourse (generation g (.ofTarget o.target) p o)
      (generation g' (.ofTarget o.target) q o) := by
  unfold generation
  rw [Backend.layout_ofTarget]
  cases hlayout : o.layout with
  | perUnit =>
    dsimp only
    rw [← h.eligiblePositions]
    refine sameCourse_perUnit h o.target o.policy fun i hi => ?_
    rw [Program.eligiblePositions_eq] at hi
    obtain ⟨u, hu, rfl⟩ := List.mem_map.1 hi
    obtain ⟨hat, heligible⟩ := Program.mem_eligibleUnits_iff.1 hu
    exact (Option.any_eq_true _ _).2 ⟨u.2, hat, heligible⟩
  | singleFile =>
    dsimp only
    rw [Options.target_of_singleFile hlayout]
    exact sameCourse_singleFile h (forall₂_placedModules h)

end Plan

section Runs

variable {o : Options} {modules modules' : List Module} {s s' : Session}
  {notify notify' : Output → Action Unit}

/-- Receivers that write to one directory follow each other, and so do onlookers. -/
theorem sameResult_of_sameCourse {plan plan' : Plan} {g g' : GeneratorId}
    (h : plan.SameCourse plan') (hworkspace : s.workspace = s'.workspace)
    (hn : Observer notify) (hn' : Observer notify') :
    let r := plan.carryOut g (receiver o notify) s
    let r' := plan'.carryOut g' (receiver o notify') s'
    r.1.map (·.map Output.outline) = r'.1.map (·.map Output.outline) ∧
      ∀ directory, outputDirectory? o = some directory → r.2.workspace = r'.2.workspace := by
  cases hdirectory : outputDirectory? o with
  | none =>
    rw [receiver_of_none hdirectory, receiver_of_none hdirectory]
    refine ⟨(h.carryOut (fun _ => ()) (fun _ _ => rfl) ?_ rfl).1, nofun⟩
    exact fun o o' _ t t' _ => ⟨(hn.succeeds o t).trans (hn'.succeeds o' t').symm, rfl⟩
  | some directory =>
    rw [receiver_of_some hdirectory, receiver_of_some hdirectory]
    obtain ⟨hresult, hfiles⟩ := h.carryOut Session.workspace (fun _ _ => rfl)
      (fun _ _ => Writer.follows_write directory) hworkspace
    exact ⟨hresult, fun _ _ => hfiles⟩

/-- Whoever takes the outputs of a run leaves program and options alone if an onlooker asked for
them. -/
theorem keeps_receiver (hn : Observer notify) (out : Output) :
    Action.Keeps Session.program (receiver o notify out) ∧
      Action.Keeps Session.options (receiver o notify out) := by
  cases hdirectory : outputDirectory? o with
  | none =>
    rw [receiver_of_none hdirectory]
    exact ⟨hn.program out, hn.options out⟩
  | some directory => exact keeps_receiver_of_some hdirectory notify out

/-- A run of a shipped backend over modules whose names are texts carries out the plan for the
program that the passes leave. -/
theorem run_eq_carryOut_of_ready (hs : s.Ready o modules)
    (hnames : ∀ m ∈ modules, ∀ u ∈ m.units, u.isSystemHeader = false → u.HasTextNames)
    (hn : Observer notify) : ∃ m : Session, m.workspace = s.workspace ∧
      let r := (Plan.generation s.generators.length (.ofTarget o.target)
        ((Backend.ofTarget o.target).passedProgram (.ofModules modules)) o).carryOut
          s.generators.length (receiver o notify) m
      (runTarget .shipped notify s).1 = r.1 ∧
        (runTarget .shipped notify s).2.workspace = r.2.workspace := by
  have hkeys : (Program.ofModules modules).HasKeys := by
    refine Program.hasKeys_of_hasTextNames fun u hu hsystem => ?_
    rw [Program.units_ofModules] at hu
    obtain ⟨m, hm, hum⟩ := List.mem_flatMap.1 hu
    exact hnames m hm u hum hsystem
  obtain ⟨hprogram, hpassed⟩ := passed_of_ready hs hkeys
  obtain ⟨m, hworkspace, -, hr, hleft⟩ := run_eq_carryOut
    (fun out => (keeps_receiver hn out).1) (fun out => (keeps_receiver hn out).2)
    (Backend.setupSucceeds_ofTarget o.target) hpassed
  rw [hprogram, hs.options] at hr hleft
  rw [Backend.runTarget_shipped, hs.options]
  exact ⟨m, hworkspace, hr, congrArg (fun l : Ground × List Path => l.1.workspace) hleft⟩

/-- What generated code does not show has no part in a run of the shipped backends. Over alike
modules whose names are texts, two runs under the same options return the same outputs but for the
declarations of their units, or they end by the same fault. With a directory they leave the same
files if they found the same ones. -/
theorem runTarget_shipped_alike (hs : s.Ready o modules) (hs' : s'.Ready o modules')
    (halike : List.Forall₂ Module.Alike modules modules')
    (hnames : ∀ m ∈ modules, ∀ u ∈ m.units, u.isSystemHeader = false → u.HasTextNames)
    (hnames' : ∀ m ∈ modules', ∀ u ∈ m.units, u.isSystemHeader = false → u.HasTextNames)
    (hworkspace : s.workspace = s'.workspace) (hn : Observer notify) (hn' : Observer notify') :
    let r := runTarget .shipped notify s
    let r' := runTarget .shipped notify' s'
    r.1.map (·.map Output.outline) = r'.1.map (·.map Output.outline) ∧
      ∀ directory, outputDirectory? o = some directory → r.2.workspace = r'.2.workspace := by
  obtain ⟨m, hm, hr, hfiles⟩ := run_eq_carryOut_of_ready hs hnames hn
  obtain ⟨m', hm', hr', hfiles'⟩ := run_eq_carryOut_of_ready hs' hnames' hn'
  have hprograms : (Program.ofModules modules).Alike (.ofModules modules') := ⟨halike, .nil⟩
  have hcourse := Plan.sameCourse_generation s.generators.length s'.generators.length
    (hprograms.mapUnits (Backend.ofTarget o.target).passes) o
  obtain ⟨hresults, hworkspaces⟩ := sameResult_of_sameCourse hcourse
    (hm.trans (hworkspace.trans hm'.symm)) hn hn'
  dsimp only at hr hr' hfiles hfiles' ⊢
  rw [hr, hr', hfiles, hfiles']
  exact ⟨hresults, hworkspaces⟩

end Runs

/-- A module with a secret in all parts that generated code does not show: the name of a
declaration, the name of a field, and the path of a unit. -/
def Module.withSecret (secret : String) : Module :=
  .ofUnits ⟨"Core", some "Acme.Core"⟩ [
    { SourceUnit.ofEnumerations "core/color.h" ["Color"] true with declarations := [
      { Label.named (.str "Color") true with body := .enumeration ["Red"] },
      { Label.named (.str secret) false with body := .function (.tag secret) [] },
      { Label.named (.str "event") true with
        body := .record true [{ Label.named (.str secret) false with type := .tag secret }] }] },
    { SourceUnit.ofEnumerations (secret ++ ".h") [secret] true with isValid := false }]

/-- Whatever the secrets are, such modules are alike. -/
theorem Module.alike_withSecret (secret secret' : String) :
    (withSecret secret).Alike (withSecret secret') := by
  refine ⟨rfl, .cons (.inr ⟨rfl, ?_⟩) (.cons (.inl ⟨?_, ?_⟩) .nil)⟩
  · refine .cons (.inr ⟨rfl, .refl _⟩) (.cons (.inl ⟨rfl, rfl⟩) (.cons (.inr ⟨rfl, ?_⟩) .nil))
    exact .record true (.cons (.inr ⟨rfl, rfl⟩) .nil)
  · exact Bool.and_false _
  · exact Bool.and_false _

/-- Two runs that differ in the secret return outputs of the same outlines. -/
theorem runTarget_shipped_alike_withSecret :
    let o : Options := ⟨.csharp, true, none, .fail⟩
    (∀ u ∈ (Module.withSecret "key").units, u.isSystemHeader = false → u.HasTextNames) ∧
    (∀ u ∈ (Module.withSecret "lock").units, u.isSystemHeader = false → u.HasTextNames) ∧
    (freshRun o [.withSecret "key"]).1.isOk = true ∧
    (freshRun o [.withSecret "key"]).1.map (·.map Output.outline) =
      (freshRun o [.withSecret "lock"]).1.map (·.map Output.outline) := by
  intro o
  have hkey : (Program.ofModules [.withSecret "key"]).IsPlain := by decide +kernel
  have hlock : (Program.ofModules [.withSecret "lock"]).IsPlain := by decide +kernel
  have halike := runTarget_shipped_alike (Session.ready_start o [.withSecret "key"])
    (Session.ready_start o [.withSecret "lock"]) (.cons (Module.alike_withSecret _ _) .nil)
    (fun m hm u hu _ => hkey.hasTextNames m hm u hu)
    (fun m hm u hu _ => hlock.hasTextNames m hm u hu) rfl observer_ignore observer_ignore
  have hreturns : (freshRun o [.withSecret "key"]).1.isOk = true := by decide +kernel
  refine ⟨fun u hu _ => ?_, fun u hu _ => ?_, hreturns, halike.1⟩
  · exact hkey.hasTextNames _ (List.mem_singleton_self _) u hu
  · exact hlock.hasTextNames _ (List.mem_singleton_self _) u hu

end Interop
