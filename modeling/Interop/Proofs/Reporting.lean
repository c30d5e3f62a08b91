import Mathlib.Data.List.Forall2
import Interop.Proofs.Run

/-!
# What a run reports

The journal tells which outputs were reported. A run adds to it, and what it reports is what its
generator does: nothing else in a run, the writer included, reports an output. All of this holds on
every way out, so it tells of the outputs before a fault too.
-/

namespace Interop

open Session Generation

variable {P Q : Output → Prop}

namespace Session

variable {s t u : Session}

/-- Whether a session comes of another by further entries in the journal, and only outputs of a kind
are reported in them. -/
def OnlyReports (P : Output → Prop) (s t : Session) : Prop :=
  ∃ entries, t.journal = s.journal ++ entries ∧
    ∀ g o printer, Event.reported g o printer ∈ entries → P o

/-- Nothing is reported without an entry in the journal. -/
theorem onlyReports_of_journal_eq (h : t.journal = s.journal) : OnlyReports P s t :=
  ⟨[], h.trans (List.append_nil _).symm, fun _ _ _ he => absurd he List.not_mem_nil⟩

/-- Entries that report outputs of a kind only, or none. -/
theorem onlyReports_noted {entries : List Event}
    (h : ∀ g o printer, Event.reported g o printer ∈ entries → P o) (s : Session) :
    OnlyReports P s (s.noted entries) := ⟨entries, rfl, h⟩

/-- What is reported on the way to one session and from there to another, is so on the whole way. -/
theorem OnlyReports.trans (h : OnlyReports P s t) (h' : OnlyReports P t u) :
    OnlyReports P s u := by
  obtain ⟨entries, ht, hP⟩ := h
  obtain ⟨more, hu, hP'⟩ := h'
  refine ⟨entries ++ more, by rw [hu, ht, List.append_assoc], fun g o printer he => ?_⟩
  exact (List.mem_append.1 he).elim (hP g o printer) (hP' g o printer)

end Session

namespace Action

variable {α β : Type}

/-- Whether a step adds to the journal and reports only outputs of a kind, on every way out. -/
def OnlyReports (P : Output → Prop) (step : Action α) : Prop :=
  ∀ s, Session.OnlyReports P s (step s).2

/-- A step that reports outputs of a kind reports those of a wider one. -/
theorem OnlyReports.mono {step : Action α} (h : OnlyReports P step) (hPQ : ∀ o, P o → Q o) :
    OnlyReports Q step := by
  intro s
  obtain ⟨entries, hjournal, hP⟩ := h s
  exact ⟨entries, hjournal, fun g o printer he => hPQ o (hP g o printer he)⟩

/-- A step that does not touch the journal reports nothing. -/
theorem Keeps.onlyReports {step : Action α} (h : Keeps Session.journal step) :
    OnlyReports P step := fun s => onlyReports_of_journal_eq (h s)

/-- Two steps report what each of them does. -/
theorem OnlyReports.bind {first : Action α} {next : α → Action β} (hf : OnlyReports P first)
    (hn : ∀ a, OnlyReports P (next a)) : OnlyReports P (first >>= next) := by
  intro s
  have hs := hf s
  rcases h : first s with ⟨_ | a, m⟩
  · rw [h] at hs
    rwa [bind_of_error h]
  · rw [h] at hs
    rw [bind_of_ok h]
    exact hs.trans (hn a m)

/-- Giving a result reports nothing. -/
theorem onlyReports_pure (a : α) : OnlyReports P (pure a : Action α) :=
  (keeps_pure _ a).onlyReports

/-- A fault reports nothing. -/
theorem onlyReports_fail (fault : Fault) : OnlyReports P (fail fault : Action α) :=
  Keeps.onlyReports fun _ => rfl

/-- Looking reports nothing. -/
theorem onlyReports_get : OnlyReports P get := (keeps_get _).onlyReports

/-- A change that leaves the journal alone reports nothing. -/
theorem onlyReports_modify {change : Session → Session}
    (h : ∀ s, (change s).journal = s.journal) : OnlyReports P (modify change) :=
  (keeps_modify h).onlyReports

/-- A record of the log reports nothing. -/
theorem onlyReports_log (r : LogRecord) : OnlyReports P (Action.log r) := by
  refine fun s => onlyReports_noted (fun g o printer he => ?_) s
  cases List.mem_singleton.1 he

/-- What is done after a step on every way out reports nothing if it does not touch the journal. -/
theorem OnlyReports.ensuring {step : Action α} {change : Session → Session}
    (h : OnlyReports P step) (hchange : ∀ s, (change s).journal = s.journal) :
    OnlyReports P (step.ensuring change) :=
  fun s => (h s).trans (onlyReports_of_journal_eq (hchange _))

end Action

/-- An output of a kind is reported, and whoever takes it may report such outputs too. -/
theorem Session.onlyReports_report {notify : Output → Action Unit} {o : Output} (g : GeneratorId)
    (ho : P o) (hn : Action.OnlyReports P (notify o)) :
    Action.OnlyReports P (report g notify o) := by
  intro s
  refine (onlyReports_noted 
    (fun g' o' printer he => ?_) s).trans (hn _)
  cases List.mem_singleton.1 he
  exact ho

/-- Processing a template reports nothing. -/
theorem Session.onlyReports_processTemplate (t : Template) :
    Action.OnlyReports P (processTemplate t) := by
  intro s
  cases h : t.process s.program with
  | ok u =>
    rw [processTemplate_of_ok h]
    refine onlyReports_noted (fun g o printer he => ?_) s
    cases List.mem_singleton.1 he
  | error fault =>
    rw [processTemplate_of_error h]
    refine onlyReports_noted (fun g o printer he => ?_) s
    cases fault with
    | render reason =>
      obtain ⟨remark, -, he⟩ := Option.map_eq_some_iff.1 (Option.mem_toList.1 he)
      cases he
    | _ => cases he

/-- Processing templates reports nothing. -/
theorem Generation.onlyReports_processTemplates (ts : List Template) :
    Action.OnlyReports P (processTemplates ts) := by
  induction ts with
  | nil => exact Action.onlyReports_pure _
  | cons t more ih =>
    exact (onlyReports_processTemplate t).bind fun _ => ih.bind fun _ => Action.onlyReports_pure _

namespace Writer

end Writer

namespace Generation

/-- Whether all outputs that a backend makes of single units are of a kind. -/
def MakesOnly (backend : Backend) (P : Output → Prop) : Prop :=
  ∀ (s t : Session) (position : Nat) (unit : SourceUnit) (us : List Template),
    s.program.units[position]? = some unit →
    let templates :=
      backend.templates (backend.layout s.options) [(position, unit)] (unitContext backend unit)
    templates ≠ [] → processTemplates templates s = (.ok us, t) → P ⟨unit, us⟩

section PerUnit

variable {g : GeneratorId} {backend : Backend} {notify : Output → Action Unit}
  {policy : EmptyPolicy}

/-- A unit of the program is the one placed at its position. -/
theorem placedAt_of_getElem? {p : Program} {position : Nat} {unit : SourceUnit}
    (h : p.units[position]? = some unit) : p.placedAt [position] = [(position, unit)] := by
  simp [Program.placedAt, h]

/-- Production by unit reports outputs of a kind only if those of single units are of that kind and
their taker reports no others. What the templates of a unit came to decides what is reported for
it. -/
theorem onlyReports_perUnit (hmakes : MakesOnly backend P)
    (hnotify : ∀ o, Action.OnlyReports P (notify o)) (positions : List Nat) :
    Action.OnlyReports P (perUnit g backend policy notify positions) := by
  induction positions with
  | nil => exact Action.onlyReports_pure _
  | cons position more ih =>
    intro s
    rw [perUnit, Action.get_bind]
    cases hunit : s.program.units[position]? with
    | none => exact ih s
    | some unit =>
      dsimp only
      rw [Action.bind_of_ok (requestTemplates_apply g backend _ _ s), placedAt_of_getElem? hunit]
      have hrequested : s.OnlyReports P
          (s.noted [.requested g [position] (unitContext backend unit)]) := by
        refine onlyReports_noted (fun g' o printer he => ?_) s
        cases List.mem_singleton.1 he
      refine hrequested.trans ?_
      split
      · cases policy with
        | fail => exact Action.onlyReports_fail _ _
        | skip => exact (Action.onlyReports_log _).bind (fun _ => ih) _
        | stop => exact (Action.onlyReports_log _).bind (fun _ => Action.onlyReports_pure _) _
      · rename_i hyields
        have hprocess := onlyReports_processTemplates (P := P) (backend.templates
          (backend.layout s.options) [(position, unit)] (unitContext backend unit))
          (s.noted [.requested g [position] (unitContext backend unit)])
        rcases hus : processTemplates _ _ with ⟨_ | us, m⟩
        · rw [hus] at hprocess
          rwa [Action.bind_of_error hus]
        · rw [hus] at hprocess
          have hmade : P ⟨unit, us⟩ :=
            hmakes (s.noted _) m position unit us hunit (mt List.isEmpty_iff.2 hyields) hus
          rw [Action.bind_of_ok hus]
          refine hprocess.trans ((onlyReports_report g hmade (hnotify _)).bind (fun _ => ?_) m)
          exact (Action.onlyReports_log _).bind fun _ => ih.bind fun _ => Action.onlyReports_pure _

end PerUnit

section ByModule

variable {g : GeneratorId} {backend : Backend} {notify : Output → Action Unit}
  {R : Library → Output → Prop}

/-- Whether every output that a backend makes of a module is related to the module's library. -/
def MakesByModule (backend : Backend) (R : Library → Output → Prop) : Prop :=
  ∀ (s t : Session) (module : Module) (positions : List Nat) (template u : Template),
    backend.templates (backend.layout s.options) (s.program.placedAt positions)
      (moduleContext backend module.toLibrary) = [template] →
    processTemplate template s = (.ok u, t) →
    R module.toLibrary ⟨.synthetic (module.outputFileName backend.extension) module.toLibrary, [u]⟩

/-- The outputs that are made by module are related to the modules, one to each, in order. One
template is made of a module; none and several are refused. -/
theorem forall₂_of_singleFile (hmakes : MakesByModule backend R)
    {modules : List (Module × List Nat)} {s t : Session} {outputs : List Output}
    (h : singleFile g backend notify modules s = (.ok outputs, t)) :
    List.Forall₂ R (modules.map (·.1.toLibrary)) outputs := by
  induction modules generalizing s outputs with
  | nil =>
    cases h
    exact .nil
  | cons placed more ih =>
    obtain ⟨module, positions⟩ := placed
    rw [singleFile] at h
    dsimp only at h
    rw [Action.bind_of_ok (requestTemplates_apply g backend _ _ s)] at h
    rcases htemplates : backend.templates (backend.layout s.options) (s.program.placedAt positions)
        (moduleContext backend module.toLibrary) with _ | ⟨template, _ | ⟨second, further⟩⟩
    all_goals rw [htemplates] at h
    · cases h
    · obtain ⟨u, m, hu, h⟩ := Action.bind_eq_ok_iff.1 h
      obtain ⟨-, m', -, h⟩ := Action.bind_eq_ok_iff.1 h
      rw [Action.debug_bind] at h
      obtain ⟨others, m'', hothers, h⟩ := Action.bind_eq_ok_iff.1 h
      cases h
      exact .cons (hmakes (s.noted _) m module positions template u htemplates hu) (ih hothers)
    · cases h

/-- Production by module reports outputs of a kind only if those of these modules are of that kind
and their taker reports no others. -/
theorem onlyReports_singleFile (hmakes : MakesByModule backend R)
    {modules : List (Module × List Nat)} (hP : ∀ m ∈ modules, ∀ o, R m.1.toLibrary o → P o)
    (hnotify : ∀ o, Action.OnlyReports P (notify o)) :
    Action.OnlyReports P (singleFile g backend notify modules) := by
  induction modules with
  | nil => exact Action.onlyReports_pure _
  | cons placed more ih =>
    obtain ⟨hfirst, hmore⟩ := List.forall_mem_cons.1 hP
    obtain ⟨module, positions⟩ := placed
    intro s
    rw [singleFile]
    dsimp only
    rw [Action.bind_of_ok (requestTemplates_apply g backend _ _ s)]
    have hrequested : s.OnlyReports P
        (s.noted [.requested g positions (moduleContext backend module.toLibrary)]) := by
      refine onlyReports_noted (fun g' o printer he => ?_) s
      cases List.mem_singleton.1 he
    refine hrequested.trans ?_
    rcases htemplates : backend.templates (backend.layout s.options) (s.program.placedAt positions)
        (moduleContext backend module.toLibrary) with _ | ⟨template, _ | ⟨second, further⟩⟩
    · exact Action.onlyReports_fail _ _
    · have hprocess := onlyReports_processTemplate (P := P) template
        (s.noted [.requested g positions (moduleContext backend module.toLibrary)])
      dsimp only
      rcases hu : processTemplate template _ with ⟨_ | u, m⟩
      · rw [hu] at hprocess
        rwa [Action.bind_of_error hu]
      · rw [hu] at hprocess
        have hmade := hfirst _ (hmakes (s.noted _) m module positions template u htemplates hu)
        rw [Action.bind_of_ok hu]
        refine hprocess.trans ((onlyReports_report g hmade (hnotify _)).bind (fun _ => ?_) m)
        exact (Action.onlyReports_log _).bind fun _ =>
          (ih hmore).bind fun _ => Action.onlyReports_pure _
    · exact Action.onlyReports_fail _ _

end ByModule

/-- What a step gives while a printer is installed, the step gives by itself. -/
theorem exists_of_installed {α : Type} {g : GeneratorId} {step : Action α} {s t : Session} {a : α}
    (h : installed g step s = (.ok a, t)) : ∃ m left, step m = (.ok a, left) := by
  unfold installed at h
  rw [Action.modify_bind, Action.ensuring_apply] at h
  have hgiven : (step { s with printers := s.printers.subscribe g }).1 = .ok a :=
    congrArg Prod.fst h
  exact ⟨_, _, Prod.ext hgiven rfl⟩

/-- While a printer is installed, a step reports what it does by itself. -/
theorem onlyReports_installed {α : Type} (g : GeneratorId) {step : Action α}
    (h : Action.OnlyReports P step) : Action.OnlyReports P (installed g step) :=
  Action.OnlyReports.bind (Action.onlyReports_modify fun _ => rfl) fun _ => h.ensuring fun _ => rfl

/-- Generation reports outputs of a kind only if those of single units and of modules are of that
kind and their taker reports no others. -/
theorem onlyReports_generate_of_layouts {backend : Backend} {notify : Output → Action Unit}
    (hunits : MakesOnly backend P) (hmodules : MakesByModule backend fun _ => P)
    (hnotify : ∀ o, Action.OnlyReports P (notify o)) (g : GeneratorId) :
    Action.OnlyReports P (generate g backend notify) := by
  refine Action.onlyReports_get.bind fun s => (Action.onlyReports_log _).bind fun _ =>
    onlyReports_installed g ?_
  cases backend.layout s.options with
  | perUnit => exact onlyReports_perUnit hunits hnotify _
  | singleFile => exact onlyReports_singleFile hmodules (fun _ _ _ => id) hnotify

section SingleFile

variable {g : GeneratorId} {backend : Backend} {notify : Output → Action Unit}
  {R : Library → Output → Prop} (hmakes : MakesByModule backend R) {s : Session}
  (hlayout : backend.layout s.options = .singleFile)

include hmakes hlayout

/-- In the layout by module, generation reports outputs of a kind only if those of the program's
modules are of that kind and their taker reports no others. -/
theorem onlyReports_generate_singleFile
    (hP : ∀ m ∈ s.program.modules, ∀ o, R m.toLibrary o → P o)
    (hnotify : ∀ o, Action.OnlyReports P (notify o)) (g : GeneratorId) :
    s.OnlyReports P (generate g backend notify s).2 := by
  have hplaced : ∀ m ∈ s.program.placedModules, ∀ o, R m.1.toLibrary o → P o := by
    refine fun m hm => hP m.1 ?_
    rw [← Program.map_fst_placedModules]
    exact List.mem_map_of_mem hm
  have hproduction :=
    onlyReports_installed g (onlyReports_singleFile (g := g) hmakes hplaced hnotify)
  unfold generate
  rw [Action.get_bind, hlayout]
  exact ((Action.onlyReports_log _).bind fun _ => hproduction) s

/-- The outputs that generation by module returns are related to the program's modules, one to each,
in order. -/
theorem forall₂_of_generate {outputs : List Output}
    (h : (generate g backend notify s).1 = .ok outputs) :
    List.Forall₂ R (s.program.modules.map (·.toLibrary)) outputs := by
  unfold generate at h
  rw [Action.get_bind, Action.debug_bind, hlayout] at h
  obtain ⟨m, left, houtputs⟩ := exists_of_installed (Prod.ext h rfl)
  have hplaced := forall₂_of_singleFile hmakes houtputs
  rw [← Program.map_fst_placedModules, List.map_map]
  exact hplaced

/-- The outputs that a run by module returns are related to the program's modules, one to each, in
order. -/
theorem forall₂_of_run {outputs : List Output} (h : (run backend notify s).1 = .ok outputs) :
    List.Forall₂ R (s.program.modules.map (·.toLibrary)) outputs := by
  obtain ⟨hsetup, hpassed⟩ := passed_of_run_ok backend notify s h
  obtain ⟨m, hm, hrun, -⟩ := run_of_passed backend notify s hsetup hpassed
  have hground : m.ground = _ := congrArg Prod.fst hm
  have hoptions : m.options = s.options := congrArg Ground.options hground
  have hprogram : m.program = (passed backend s).result.2 := congrArg Ground.program hground
  have houtputs := forall₂_of_generate hmakes (hoptions ▸ hlayout) (hrun.symm.trans h)
  rwa [hprogram, passed, PassEntry.map_toLibrary_runAll] at houtputs

end SingleFile

section Run

variable {backend : Backend} {notify : Output → Action Unit} (hmakes : MakesOnly backend P)
  (hlayout : ∀ o, backend.layout o = .perUnit)

include hmakes hlayout

variable (hnotify : ∀ o, Action.OnlyReports P (notify o))

include hnotify

end Run

end Generation

end Interop
