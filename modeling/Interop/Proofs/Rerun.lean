import Interop.Proofs.Containment
import Interop.Proofs.Settled

/-!
# Running twice

A run leaves passes, a program and files behind, and the next run of the session starts from these.
The passes of the backend wait twice by then, but the program is one that they have left already; so
the second run plans what the first one did, finds the same places for the same texts, and changes
neither program nor files.
-/

namespace Interop

open Session Generation

namespace Plan

/-- What comes of processing templates depends on what comes of going on. -/
theorem outcome_processing_congr (p : Program) (ts : List Template)
    {next other : List Template → Plan} (h : ∀ us, (next us).outcome = (other us).outcome) :
    (processing p ts next).outcome = (processing p ts other).outcome := by
  induction ts generalizing next other with
  | nil => exact h []
  | cons t more ih =>
    unfold processing
    cases t.process p with
    | ok u => exact ih fun us => h (u :: us)
    | error fault => rfl

/-- After an output, the outcome depends on what comes of the rest. -/
theorem outcome_output_congr (o : Output) {rest other : Plan} (h : rest.outcome = other.outcome) :
    (output o rest).outcome = (output o other).outcome := by
  rw [outcome, outcome, h]

section Outcomes

variable (g g' : GeneratorId) (backend : Backend) (p : Program)

/-- Generators of one backend come to the same outcome in the layout by unit. -/
theorem outcome_perUnit_congr (layout : Layout) (policy : EmptyPolicy) (positions : List Nat) :
    (perUnit g backend p layout policy positions).outcome =
      (perUnit g' backend p layout policy positions).outcome := by
  induction positions with
  | nil => rfl
  | cons position more ih =>
    unfold perUnit
    cases p.units[position]? with
    | none => exact ih
    | some unit =>
      dsimp only [outcome]
      cases backend.templates layout [(position, unit)] (unitContext backend unit) with
      | nil =>
        cases policy with
        | fail => rfl
        | skip => exact ih
        | stop => rfl
      | cons t ts =>
        exact outcome_processing_congr p (t :: ts) fun us => outcome_output_congr ⟨unit, us⟩ ih

/-- Generators of one backend come to the same outcome in the layout by module. -/
theorem outcome_singleFile_congr (layout : Layout) (modules : List (Module × List Nat)) :
    (singleFile g backend p layout modules).outcome =
      (singleFile g' backend p layout modules).outcome := by
  induction modules with
  | nil => rfl
  | cons placed more ih =>
    obtain ⟨module, positions⟩ := placed
    unfold singleFile
    dsimp only [outcome]
    split
    · exact outcome_processing_congr p _ fun us => outcome_output_congr _ ih
    · rfl

/-- Generators of one backend come to the same outcome. -/
theorem outcome_generation_congr (o : Options) :
    (generation g backend p o).outcome = (generation g' backend p o).outcome := by
  unfold generation
  split
  · exact outcome_perUnit_congr g g' backend p _ _ _
  · exact outcome_singleFile_congr g g' backend p _ _

end Outcomes

end Plan

/-- The ground apart from the files. -/
def Session.base (s : Session) : Ground := { s.ground with files := .empty }

section Base

variable {backend : Backend} {notify : Output → Action Unit} {s : Session}

/-- Who takes the outputs of a run touches nothing of the ground but files if the one who asked does
not. -/
theorem keeps_base_receiver (hn : ∀ o, Action.Keeps Session.ground (notify o)) (o : Output) :
    Action.Keeps Session.base (receiver s.options notify o) := by
  cases hd : outputDirectory? s.options with
  | some directory =>
    rw [receiver_of_some hd]
    exact Writer.keeps_write (fun _ _ => rfl) (fun _ _ => rfl) (fun _ _ => rfl) directory o
  | none =>
    rw [receiver_of_none hd]
    exact fun t => congrArg (fun ground : Ground => { ground with files := .empty }) (hn o t)

/-- What neither preparing a run nor who takes its outputs touches is as the passes left it. -/
theorem view_run {γ : Type} (view : Ground → γ) (hn : ∀ o, Action.Keeps Session.ground (notify o))
    (hview : ∀ o, Action.Keeps (fun t => view t.ground) (receiver s.options notify o))
    (hsetup : backend.setupSucceeds = true) (hpassed : (passed backend s).stopped = false) :
    view (run backend notify s).2.ground = view { s.ground with
      program := (passed backend s).result.2, passes := (passed backend s).result.1 } := by
  obtain ⟨t, ht, -, hleft⟩ := run_of_passed backend notify s hsetup hpassed
  have hkeeps := keeps_base_receiver (s := s) hn
  have hgenerate := generate_eq_carryOut s.generators.length backend
    (fun o x => congrArg Ground.program (hkeeps o x))
    (fun o x => congrArg Ground.options (hkeeps o x)) t
  have hcarry := keeps_carryOut s.generators.length (fun _ _ => rfl) hview
    (Plan.generation s.generators.length backend t.program t.options)
    (productionStart s.generators.length (openingRemark backend t) t)
  have hend := congrArg Prod.fst hleft
  have hstart := congrArg Prod.fst ht
  rw [hgenerate] at hend
  exact (congrArg view hend).trans (hcarry.trans (congrArg view hstart))

/-- A run whose passes go through leaves the program that they make, with the passes counted on, and
touches nothing else of the ground but files. -/
theorem ground_run (hn : ∀ o, Action.Keeps Session.ground (notify o))
    (hsetup : backend.setupSucceeds = true) (hpassed : (passed backend s).stopped = false) :
    (run backend notify s).2.ground = { s.ground with
      program := (passed backend s).result.2
      passes := (passed backend s).result.1
      files := (run backend notify s).2.files } :=
  congrArg (fun ground : Ground => { ground with files := (run backend notify s).2.files })
    (view_run (fun ground => { ground with files := .empty }) hn (keeps_base_receiver hn) hsetup
      hpassed)

/-- Without a directory, a run leaves the files alone. -/
theorem files_run (hn : ∀ o, Action.Keeps Session.ground (notify o))
    (hdirectory : outputDirectory? s.options = none) (hsetup : backend.setupSucceeds = true)
    (hpassed : (passed backend s).stopped = false) :
    (run backend notify s).2.files = s.files := by
  refine view_run Ground.files hn (fun o => ?_) hsetup hpassed
  rw [receiver_of_none hdirectory]
  exact fun t => congrArg Ground.files (hn o t)

/-- A run that returns returns the outputs that its plan comes to. -/
theorem outcome_of_run_ok {t : Session} {outputs : List Output} (hn : Observer notify)
    (h : run backend notify s = (.ok outputs, t)) :
    (Plan.generation s.generators.length backend (passed backend s).result.2 s.options).outcome =
      .ok outputs := by
  cases hdirectory : outputDirectory? s.options with
  | none =>
    obtain ⟨hsetup, hpassed⟩ := passed_of_run_ok backend notify s (congrArg Prod.fst h)
    exact (run_of_observer backend hn hdirectory hsetup hpassed).1.symm.trans (congrArg Prod.fst h)
  | some directory =>
    obtain ⟨m, u, -, -, -, hcarry⟩ := carryOut_of_run_ok hdirectory h
    exact outcome_of_carryOut_eq_ok s.generators.length hcarry

/-- Without a directory, a run returns the outputs that its plan comes to, and leaves the files
alone. -/
theorem exists_run_of_none {outputs : List Output} (hn : Observer notify)
    (hground : ∀ o, Action.Keeps Session.ground (notify o))
    (hdirectory : outputDirectory? s.options = none)
    (hsetup : backend.setupSucceeds = true) (hpassed : (passed backend s).stopped = false)
    (houtcome : (Plan.generation s.generators.length backend (passed backend s).result.2
      s.options).outcome = .ok outputs) :
    ∃ t, run backend notify s = (.ok outputs, t) ∧ t.files = s.files := by
  have hresult := (run_of_observer backend hn hdirectory hsetup hpassed).1
  exact ⟨(run backend notify s).2, Prod.ext (hresult.trans houtcome) rfl,
    files_run hground hdirectory hsetup hpassed⟩

/-- With a directory, a run returns the outputs that its plan comes to if they have texts and their
files can be stored. -/
theorem exists_run_of_some {directory : Path} {outputs : List Output} {w : Workspace}
    (hdirectory : outputDirectory? s.options = some directory)
    (hsetup : backend.setupSucceeds = true) (hpassed : (passed backend s).stopped = false)
    (houtcome : (Plan.generation s.generators.length backend (passed backend s).result.2
      s.options).outcome = .ok outputs)
    (htexts : ∀ o ∈ outputs, ∀ u ∈ o.templates, ∃ text, u.text = .ok text)
    (hstore : s.workspace.storeAll (Writer.entries directory outputs) = .ok w) :
    ∃ t, run backend notify s = (.ok outputs, t) := by
  have hkeeps := keeps_receiver_of_some hdirectory notify
  obtain ⟨m, hworkspace, -, hr, -⟩ := run_eq_carryOut (fun o => (hkeeps o).1)
    (fun o => (hkeeps o).2) hsetup hpassed
  obtain ⟨u, hu⟩ := Writer.exists_carryOut s.generators.length (s := m) houtcome htexts
    (hworkspace.symm ▸ hstore)
  rw [receiver_of_some hdirectory, hu] at hr
  exact ⟨(run backend notify s).2, Prod.ext hr rfl⟩

end Base

/-- The passes of a shipped backend are proper. -/
theorem Backend.isProper_ofTarget (target : Target) :
    ∀ pass ∈ (ofTarget target).passes, pass.IsProper := by
  intro pass hp
  cases target <;>
    (simp only [ofTarget, cppCli, csharp, List.mem_cons, List.not_mem_nil, or_false] at hp
     rcases hp with rfl | rfl <;> exact ⟨trivial, by decide +kernel, by decide +kernel⟩)

/-- Together with proper passes that wait, those of a shipped backend are proper. -/
theorem isProper_of_mem_append {s : Session} (hpasses : ∀ e ∈ s.passes, e.pass.IsProper)
    (target : Target) :
    ∀ pass ∈ s.passes.map (·.pass) ++ (Backend.ofTarget target).passes, pass.IsProper := by
  intro pass hp
  rcases List.mem_append.1 hp with hp | hp
  · obtain ⟨e, he, rfl⟩ := List.mem_map.1 hp
    exact hpasses e he
  · exact Backend.isProper_ofTarget target pass hp

/-- After a run, its own passes wait behind those that waited before. -/
theorem map_pass_passed (backend : Backend) (s : Session) :
    (passed backend s).result.1.map (·.pass) = s.passes.map (·.pass) ++ backend.passes :=
  (PassEntry.map_pass_runAll ..).trans (PassEntry.map_pass_append_fresh ..)

/-- On the program that a run's passes left, those of the next run go through and change nothing.
The next run has no pass that this one did not have. -/
theorem passed_again {target : Target} {s t : Session}
    (hpasses : ∀ e ∈ s.passes, e.pass.IsProper)
    (hnames : ∀ u ∈ s.program.units, u.isSystemHeader = false → u.HasTextNames)
    (hprogram : t.program = (passed (.ofTarget target) s).result.2)
    (hentries : t.passes = (passed (.ofTarget target) s).result.1) :
    (passed (.ofTarget target) t).result.2 = t.program ∧
      (passed (.ofTarget target) t).stopped = false := by
  have hfirst := PassEntry.map_pass_append_fresh s.passes (Backend.ofTarget target).passes
  have hproper : ∀ pass ∈ (s.passes ++ (Backend.ofTarget target).passes.map PassEntry.fresh).map
      (·.pass), pass.IsProper := by
    rw [hfirst]
    exact isProper_of_mem_append hpasses target
  have hagain : ∀ pass ∈ (t.passes ++ (Backend.ofTarget target).passes.map PassEntry.fresh).map
      (·.pass), pass ∈ (s.passes ++ (Backend.ofTarget target).passes.map PassEntry.fresh).map
        (·.pass) := by
    intro pass hp
    rw [PassEntry.map_pass_append_fresh, hentries, map_pass_passed] at hp
    rw [hfirst]
    exact (List.mem_append.1 hp).elim id (List.mem_append_right _)
  have hrun : passed (.ofTarget target) t = PassEntry.runAll (passed (.ofTarget target) s).result.2
      (t.passes ++ (Backend.ofTarget target).passes.map .fresh) := by
    rw [passed, hprogram]
  rw [hrun, hprogram]
  exact PassEntry.runAll_again hproper hagain hnames

/-- With a directory, a run that comes after another one and to the same outcome returns the same
outputs: their files can be stored where the first run left them, and that changes nothing. -/
theorem exists_run_again {target : Target} {notify : Output → Action Unit} {s t : Session}
    {directory : Path} {outputs : List Output}
    (hdirectory : outputDirectory? s.options = some directory)
    (h : run (.ofTarget target) notify s = (.ok outputs, t)) (hoptions : t.options = s.options)
    (hpassed : (passed (.ofTarget target) t).stopped = false)
    (houtcome : (Plan.generation t.generators.length (.ofTarget target)
      (passed (.ofTarget target) t).result.2 t.options).outcome = .ok outputs) :
    ∃ t', run (.ofTarget target) notify t = (.ok outputs, t') ∧
      t'.files.directories = t.files.directories ∧
      ∀ q, t'.files.contentAt? q = t.files.contentAt? q := by
  have hsetup := (passed_of_run_ok _ notify s (congrArg Prod.fst h)).1
  have hdirectory' : outputDirectory? t.options = some directory := hoptions ▸ hdirectory
  obtain ⟨hforms, htexts, hstored, -⟩ := stored_run hdirectory h
  have hchild : ∀ e ∈ Writer.entries directory outputs, ∃ name, e.1 = directory.child name :=
    fun e he => (Writer.exists_child_of_mem_entries directory (namesFiles_of_forms hforms) e
      he).imp fun _ hname => hname.2
  obtain ⟨w, hw, hdirectories, hcontents⟩ := Workspace.storeAll_again hchild hstored
  obtain ⟨t', ht'⟩ := exists_run_of_some hdirectory' hsetup hpassed houtcome htexts hw
  have hsame : t'.workspace = w :=
    Except.ok.inj ((stored_run hdirectory' ht').2.2.1.symm.trans hw)
  refine ⟨t', ht', ?_, fun q => ?_⟩
  · exact (congrArg (·.files.directories) hsame).trans hdirectories
  · exact (congrArg (·.files.contentAt? q) hsame).trans (hcontents q)

/-- A run of a shipped backend that returns returns the same outputs when it is run again in the
session that it left. The second run leaves the program, the directories and the contents of all
files as they are, and the passes of the backend wait twice. This holds before every onlooker who
does not touch the ground, for passes that only hide and rename, and for a program whose names are
texts. -/
theorem runTarget_shipped_again {notify : Output → Action Unit} {s t : Session}
    {outputs : List Output} (hnotify : Observer notify)
    (hground : ∀ o, Action.Keeps Session.ground (notify o))
    (hpasses : ∀ e ∈ s.passes, e.pass.IsProper)
    (hnames : ∀ u ∈ s.program.units, u.isSystemHeader = false → u.HasTextNames)
    (h : runTarget .shipped notify s = (.ok outputs, t)) :
    ∃ t', runTarget .shipped notify t = (.ok outputs, t') ∧ t'.program = t.program ∧
      t'.files.directories = t.files.directories ∧
      (∀ q, t'.files.contentAt? q = t.files.contentAt? q) ∧
      t'.passes.map (·.pass) = s.passes.map (·.pass) ++
        ((Backend.ofTarget s.options.target).passes ++
          (Backend.ofTarget s.options.target).passes) := by
  rw [Backend.runTarget_shipped] at h
  obtain ⟨hsetup, hpassed⟩ := passed_of_run_ok _ notify s (congrArg Prod.fst h)
  have hleft := ground_run hground hsetup hpassed
  rw [h] at hleft
  have hoptions : t.options = s.options := congrArg Ground.options hleft
  have hprogram : t.program = (passed (.ofTarget s.options.target) s).result.2 :=
    congrArg Ground.program hleft
  have hentries : t.passes = (passed (.ofTarget s.options.target) s).result.1 :=
    congrArg Ground.passes hleft
  obtain ⟨hstays, hpassed'⟩ := passed_again hpasses hnames hprogram hentries
  have houtcome : (Plan.generation t.generators.length (.ofTarget s.options.target)
      (passed (.ofTarget s.options.target) t).result.2 t.options).outcome = .ok outputs := by
    rw [hstays, hprogram, hoptions, Plan.outcome_generation_congr _ s.generators.length]
    exact outcome_of_run_ok hnotify h
  rw [Backend.runTarget_shipped, hoptions]
  have hagain : ∃ t', run (.ofTarget s.options.target) notify t = (.ok outputs, t') ∧
      t'.files.directories = t.files.directories ∧
      ∀ q, t'.files.contentAt? q = t.files.contentAt? q := by
    cases hdirectory : outputDirectory? s.options with
    | none =>
      obtain ⟨t', ht', hfiles⟩ := exists_run_of_none hnotify hground (hoptions ▸ hdirectory) hsetup
        hpassed' houtcome
      exact ⟨t', ht', congrArg FileTree.directories hfiles,
        fun q => congrArg (FileTree.contentAt? · q) hfiles⟩
    | some directory => exact exists_run_again hdirectory h hoptions hpassed' houtcome
  obtain ⟨t', ht', hdirectories, hcontents⟩ := hagain
  have hleft' := ground_run hground hsetup hpassed'
  rw [ht'] at hleft'
  refine ⟨t', ht', (congrArg Ground.program hleft').trans hstays, hdirectories, hcontents, ?_⟩
  calc t'.passes.map (·.pass)
      = (passed (.ofTarget s.options.target) t).result.1.map (·.pass) :=
        congrArg (fun ground : Ground => ground.passes.map (·.pass)) hleft'
    _ = _ := by rw [map_pass_passed, hentries, map_pass_passed, List.append_assoc]

/-- A session that writes the output for a unit with an enumeration under a reserved word and one
without a name. -/
def repeatedSession : Session :=
  .start ⟨.csharp, false, some "out", .skip⟩ (.ofModules [.ofUnits ⟨"Core", none⟩
    [.ofEnumerations "event.h" ["event", ""] true]])

/-- The first run of this session renames one declaration, hides the other and writes a file; the
second run returns the same output and leaves the file as it is. -/
theorem runTarget_shipped_again_event :
    Observer (fun _ => pure ()) ∧
    (∀ e ∈ repeatedSession.passes, e.pass.IsProper) ∧
    (∀ u ∈ repeatedSession.program.units, u.isSystemHeader = false → u.HasTextNames) ∧
    ∃ outputs t t', runTarget .shipped (fun _ => pure ()) repeatedSession = (.ok outputs, t) ∧
      outputs.map (·.unit.filePath) = ["event.h"] ∧
      runTarget .shipped (fun _ => pure ()) t = (.ok outputs, t') ∧ t'.program = t.program ∧
      (t.files.contentAt? ["out", "event.cs"]).isSome = true ∧
      t'.files.contentAt? ["out", "event.cs"] = t.files.contentAt? ["out", "event.cs"] ∧
      t'.passes.length = 4 := by
  have hpasses : ∀ e ∈ repeatedSession.passes, e.pass.IsProper := nofun
  have hplain : repeatedSession.program.IsPlain := by decide +kernel
  have hnames : ∀ u ∈ repeatedSession.program.units, u.isSystemHeader = false →
      u.HasTextNames := fun u hu _ => (hplain u hu).hasTextNames
  have hrun : (fun r : Except Fault (List Output) × Session =>
      r.1.toOption.map (·.map (·.unit.filePath)) = some ["event.h"] ∧
        (r.2.files.contentAt? ["out", "event.cs"]).isSome = true)
      (runTarget .shipped (fun _ => pure ()) repeatedSession) := by decide +kernel
  rcases h : runTarget .shipped (fun _ => pure ()) repeatedSession with ⟨_ | outputs, t⟩
  · rw [h] at hrun
    cases hrun.1
  · rw [h] at hrun
    obtain ⟨hpaths, hfile⟩ := hrun
    obtain ⟨t', ht', hprogram, -, hcontents, hwaiting⟩ :=
      runTarget_shipped_again observer_ignore (fun _ _ => rfl) hpasses hnames h
    refine ⟨observer_ignore, hpasses, hnames, outputs, t, t', rfl, Option.some.inj hpaths, ht',
      hprogram, hfile, hcontents _, ?_⟩
    rw [← List.length_map (f := PassEntry.pass), hwaiting]
    rfl

end Interop
