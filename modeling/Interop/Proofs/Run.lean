import Interop.Proofs.Passes
import Interop.Proofs.Plan

/-!
# Whole runs

A run registers a generator, opens it, sets up and runs the passes, and then makes the outputs. All
that its outputs depend on is the ground it stands on: options, program, waiting passes, files and
working directory. Everything else that a session holds, generators and printers of earlier runs
included, has no part in them.
-/

namespace Interop

open Session Generation

/-- What the outputs of a run depend on. -/
structure Ground where
  /-- The options. -/
  options : Options
  /-- The program. -/
  program : Program
  /-- The passes that wait. -/
  passes : List PassEntry
  /-- The files. -/
  files : FileTree
  /-- The directory that relative paths start from. -/
  workingDirectory : Path

/-- The ground that a session gives to runs. -/
def Session.ground (s : Session) : Ground :=
  ⟨s.options, s.program, s.passes, s.files, s.workingDirectory⟩

/-- What a run leaves for others: the ground for the next run, and the paths that were written. -/
def Session.left (s : Session) : Ground × List Path := (s.ground, s.written)

namespace Session

/-- Opening a generator does not touch the ground. -/
@[simp] theorem openGenerator_ground (g : GeneratorId) (s : Session) :
    (openGenerator g s).ground = s.ground := by
  unfold openGenerator
  split <;> rfl

/-- Closing a generator touches nothing of what is left. -/
@[simp] theorem closeGenerator_left (g : GeneratorId) (s : Session) :
    (closeGenerator g s).left = s.left := by
  unfold closeGenerator
  split <;> rfl

end Session

namespace Generation

/-- Who takes the outputs of a run: the writer if there is a directory, and else whoever asked. -/
def receiver (o : Options) (notify : Output → Action Unit) : Output → Action Unit :=
  match outputDirectory? o with
  | some directory => fun output => discard (Writer.write directory output)
  | none => notify

/-- With a directory, outputs are written. -/
theorem receiver_of_some {o : Options} {directory : Path} (h : outputDirectory? o = some directory)
    (notify : Output → Action Unit) :
    receiver o notify = fun output => discard (Writer.write directory output) := by
  unfold receiver
  rw [h]

/-- Without a directory, outputs go to whoever asked. -/
theorem receiver_of_none {o : Options} (h : outputDirectory? o = none)
    (notify : Output → Action Unit) : receiver o notify = notify := by
  unfold receiver
  rw [h]

section Preparation

variable (backend : Backend) (notify : Output → Action Unit) (s : Session)

/-- What the waiting passes and those of a backend make of the program. -/
def passed : Visit (List PassEntry × Program) :=
  PassEntry.runAll s.program (s.passes ++ backend.passes.map .fresh)

/-- Passes that go through leave the program that they make, and nothing else of the ground. -/
theorem runPasses_of_not_stopped (h : (PassEntry.runAll s.program s.passes).stopped = false) :
    ∃ t, runPasses s = (.ok (), t) ∧ t.ground = { s.ground with
      program := (PassEntry.runAll s.program s.passes).result.2
      passes := (PassEntry.runAll s.program s.passes).result.1 } := by
  refine ⟨(runPasses s).2, Prod.ext ?_ rfl, rfl⟩
  exact if_neg (ne_true_of_eq_false h)

/-- Passes that are stopped end by a fault. -/
theorem runPasses_of_stopped (h : (PassEntry.runAll s.program s.passes).stopped = true) :
    ∃ t, runPasses s = (.error .name, t) :=
  ⟨(runPasses s).2, Prod.ext (if_pos h) rfl⟩

/-- What an open generator does once its passes have run. -/
def production (g : GeneratorId) : Action (List Output) := do
  let s ← Action.get
  Action.modify fun s => { s with written := [] }
  Action.log (.progress ("Generating " ++ s.options.target.word ++ " bindings..."))
  match outputDirectory? s.options with
  | some directory => generate g backend fun output => discard (Writer.write directory output)
  | none => generate g backend notify

/-- Production makes the outputs for whoever takes them, on unchanged ground and with nothing
written yet. -/
theorem production_apply (g : GeneratorId) :
    ∃ t : Session, t.left = (s.ground, []) ∧
      production backend notify g s = generate g backend (receiver s.options notify) t := by
  refine ⟨noted [.logged (.progress ("Generating " ++ s.options.target.word ++ " bindings..."))]
    { s with written := [] }, rfl, ?_⟩
  unfold production receiver
  rw [Action.get_bind, Action.modify_bind, Action.log_bind]
  cases outputDirectory? s.options <;> rfl

/-- An open generator whose passes were set up runs the passes and then produces. -/
theorem runOpen_of_setupSucceeds (g : GeneratorId) (h : backend.setupSucceeds = true) :
    ∃ t : Session,
      t.ground = { s.ground with passes := s.passes ++ backend.passes.map .fresh } ∧
      runOpen g backend notify s = (runPasses >>= fun _ => production backend notify g) t := by
  have hsetup : ∀ t : Session, setupPasses backend t =
      (.ok true, { t with passes := t.passes ++ backend.passes.map .fresh }) := fun t =>
    Prod.ext (congrArg Except.ok h) rfl
  refine ⟨{ s.noted [.logged (.progress ("Setting up passes for " ++ backend.name ++ "..."))] with
    passes := s.passes ++ backend.passes.map .fresh }, rfl, ?_⟩
  unfold runOpen
  rw [Action.log_bind, Action.bind_of_ok (hsetup _)]
  rfl

/-- Without its passes an open generator ends by a fault. -/
theorem runOpen_of_setupFails (g : GeneratorId) (h : backend.setupSucceeds = false) :
    (runOpen g backend notify s).1 = .error (.setup backend.name) := by
  have hsetup : ∀ t : Session, setupPasses backend t =
      (.ok false, { t with passes := t.passes ++ backend.passes.map .fresh }) := fun t =>
    Prod.ext (congrArg Except.ok h) rfl
  unfold runOpen
  rw [Action.log_bind, Action.bind_of_ok (hsetup _)]
  rfl

/-- A run gives what its open generator gives, and leaves what that does. After the generator is
closed only records are made, whichever way the run ended. -/
theorem run_eq_runOpen :
    ∃ t : Session, t.ground = s.ground ∧
      (run backend notify s).1 = (runOpen s.generators.length backend notify t).1 ∧
      (run backend notify s).2.left = (runOpen s.generators.length backend notify t).2.left := by
  refine ⟨openGenerator s.generators.length
    { s with generators := s.generators ++ [⟨backend, false⟩] }, openGenerator_ground _ _, ?_⟩
  rcases h : runOpen s.generators.length backend notify (openGenerator s.generators.length
    { s with generators := s.generators ++ [⟨backend, false⟩] }) with ⟨r, t⟩
  have hclose : (runOpen s.generators.length backend notify).ensuring
      (closeGenerator s.generators.length) (openGenerator s.generators.length
        { s with generators := s.generators ++ [⟨backend, false⟩] }) =
      (r, closeGenerator s.generators.length t) := by
    rw [Action.ensuring_apply, h]
  have hadd : addGenerator backend s = (.ok s.generators.length,
      { s with generators := s.generators ++ [⟨backend, false⟩] }) := rfl
  unfold run
  rw [Action.bind_of_ok hadd, Action.modify_bind]
  cases r with
  | error fault =>
    rw [Action.bind_of_error hclose]
    exact ⟨rfl, closeGenerator_left _ _⟩
  | ok outputs =>
    rw [Action.bind_of_ok hclose, Action.log_bind, Action.get_bind]
    cases outputDirectory? (noted _ (closeGenerator s.generators.length t)).options with
    | some directory => exact ⟨rfl, closeGenerator_left _ _⟩
    | none => exact ⟨rfl, closeGenerator_left _ _⟩

/-- If a backend's passes are set up, a run runs the passes and then produces. -/
theorem run_of_setupSucceeds (hsetup : backend.setupSucceeds = true) :
    ∃ t : Session,
      t.ground = { s.ground with passes := s.passes ++ backend.passes.map .fresh } ∧
      let r := (runPasses >>= fun _ => production backend notify s.generators.length) t
      (run backend notify s).1 = r.1 ∧ (run backend notify s).2.left = r.2.left := by
  obtain ⟨s1, hs1, hr, hg⟩ := run_eq_runOpen backend notify s
  obtain ⟨t, ht, h⟩ := runOpen_of_setupSucceeds backend notify s1 s.generators.length hsetup
  have hpasses : s1.passes = s.passes := congrArg Ground.passes hs1
  rw [hs1, hpasses] at ht
  exact ⟨t, ht, hr.trans (congrArg Prod.fst h), hg.trans (congrArg (·.2.left) h)⟩

/-- On the ground of a session, with a backend's passes among the waiting ones, these passes run. -/
theorem runAll_of_ground {t : Session}
    (h : t.ground = { s.ground with passes := s.passes ++ backend.passes.map .fresh }) :
    PassEntry.runAll t.program t.passes = passed backend s :=
  congrArg (fun ground : Ground => PassEntry.runAll ground.program ground.passes) h

/-- If the passes are set up and go through, a run makes the outputs of the program that they
leave. -/
theorem run_of_passed (hsetup : backend.setupSucceeds = true)
    (hpassed : (passed backend s).stopped = false) :
    ∃ t : Session, t.left = ({ s.ground with
        program := (passed backend s).result.2, passes := (passed backend s).result.1 }, []) ∧
      let r := generate s.generators.length backend (receiver s.options notify) t
      (run backend notify s).1 = r.1 ∧ (run backend notify s).2.left = r.2.left := by
  obtain ⟨s1, hs1, hr, hg⟩ := run_of_setupSucceeds backend notify s hsetup
  have hall := runAll_of_ground backend s hs1
  obtain ⟨s2, h2, hs2⟩ := runPasses_of_not_stopped s1 (hall ▸ hpassed)
  obtain ⟨t, ht, h⟩ := production_apply backend notify s2 s.generators.length
  have hoptions : s2.options = s.options :=
    (congrArg Ground.options hs2).trans (congrArg Ground.options hs1)
  rw [Action.bind_of_ok h2, h, hoptions] at hr hg
  refine ⟨t, ?_, hr, hg⟩
  rw [ht, hs2, hall, hs1]

/-- If the passes are set up and do not go through, a run ends by the fault of a name. -/
theorem run_of_stopped (hsetup : backend.setupSucceeds = true)
    (hpassed : (passed backend s).stopped = true) : (run backend notify s).1 = .error .name := by
  obtain ⟨s1, hs1, hr, -⟩ := run_of_setupSucceeds backend notify s hsetup
  obtain ⟨s2, h2⟩ := runPasses_of_stopped s1 (runAll_of_ground backend s hs1 ▸ hpassed)
  rw [Action.bind_of_error h2] at hr
  exact hr

/-- A run that returns has set up its passes, and they have gone through. -/
theorem passed_of_run_ok {outputs : List Output} (h : (run backend notify s).1 = .ok outputs) :
    backend.setupSucceeds = true ∧ (passed backend s).stopped = false := by
  cases hsetup : backend.setupSucceeds with
  | false =>
    obtain ⟨s1, hs1, hr, hg⟩ := run_eq_runOpen backend notify s
    rw [runOpen_of_setupFails backend notify s1 _ hsetup, h] at hr
    cases hr
  | true =>
    cases hpassed : (passed backend s).stopped with
    | false => exact ⟨rfl, rfl⟩
    | true =>
      rw [run_of_stopped backend notify s hsetup hpassed] at h
      cases h

end Preparation

section Onlooker

variable {notify : Output → Action Unit} (g : GeneratorId) (backend : Backend)

/-- What neither entries nor the one who takes outputs touch, carrying out a plan does not touch. -/
theorem keeps_carryOut {γ : Type} {view : Session → γ} (hv : ∀ es s, view (noted es s) = view s)
    (hn : ∀ o, Action.Keeps view (notify o)) (plan : Plan) :
    Action.Keeps view (plan.carryOut g notify) := by
  induction plan with
  | done => exact Action.keeps_pure view _
  | fail fault => exact fun _ => rfl
  | note es rest ih => exact (Action.keeps_modify (hv es)).bind fun _ => ih
  | output o rest ih =>
    exact (keeps_report g view hv (hn o)).bind fun _ => ih.bind fun _ => Action.keeps_pure view _

/-- Before an onlooker, generation leaves the program alone. -/
theorem keeps_program_generate (hn : Observer notify) :
    Action.Keeps Session.program (generate g backend notify) := by
  intro s
  rw [generate_eq_carryOut g backend hn.program hn.options s, Action.ensuring_apply]
  exact keeps_carryOut g (fun _ _ => rfl) hn.program _
    (productionStart g (openingRemark backend s) s)

/-- Before an onlooker, a run without a directory gives the outcome of the plan for the program that
the passes leave, and that program stays. -/
theorem run_of_observer (hn : Observer notify) {s : Session}
    (hdirectory : outputDirectory? s.options = none) (hsetup : backend.setupSucceeds = true)
    (hpassed : (passed backend s).stopped = false) :
    let p := (passed backend s).result.2
    (run backend notify s).1 =
        (Plan.generation s.generators.length backend p s.options).outcome ∧
      (run backend notify s).2.program = p := by
  obtain ⟨t, ht, hr, hg⟩ := run_of_passed backend notify s hsetup hpassed
  have hprogram : t.program = (passed backend s).result.2 :=
    congrArg (fun l : Ground × List Path => l.1.program) ht
  have hoptions : t.options = s.options :=
    congrArg (fun l : Ground × List Path => l.1.options) ht
  rw [receiver_of_none hdirectory] at hr hg
  refine ⟨?_, ?_⟩
  · rw [hr, (hn.generate s.generators.length backend t).1, hprogram, hoptions]
  · exact (congrArg (fun l : Ground × List Path => l.1.program) hg).trans
      ((keeps_program_generate s.generators.length backend hn t).trans hprogram)

end Onlooker

end Generation

end Interop
