import Interop.Writer

/-!
# Generation

A generator makes outputs of a program in one of two layouts: one output for every unit that has
output of its own, or one for every module. Each output is reported as soon as it is made. In the
layout by unit, a unit that yields nothing is dealt with as the policy says; in the layout by
module, a backend must yield exactly one template each time.
-/

namespace Interop.Generation

open Session

/-- Fix the texts of templates in order. -/
def processTemplates : List Template → Action (List Template)
  | [] => return []
  | t :: more => do
    let t ← processTemplate t
    let more ← processTemplates more
    return t :: more

/-- What templates for one unit need to know. -/
def unitContext (backend : Backend) (unit : SourceUnit) : GenerationContext :=
  contextFor backend (unit.owner.bind (·.outputNamespace)) unit.owner (some unit.includeDirectory)

/-- What templates for a module need to know. -/
def moduleContext (backend : Backend) (library : Library) : GenerationContext :=
  contextFor backend library.outputNamespace (some library) none

/-- One output for every unit, in order. -/
def perUnit (g : GeneratorId) (backend : Backend) (policy : EmptyPolicy)
    (notify : Output → Action Unit) : List Nat → Action (List Output)
  | [] => return []
  | position :: more => do
    match (← Action.get).program.units[position]? with
    | none => perUnit g backend policy notify more
    | some unit =>
      let templates ← requestTemplates g backend [position] (unitContext backend unit)
      if templates.isEmpty then
        let message := Fault.emptyMessage backend.name unit.filePath
        match policy with
        | .fail => Action.fail (.emptyOutput backend.name unit.filePath)
        | .skip =>
          Action.log ⟨.warning, message ++ ", skipping it"⟩
          perUnit g backend policy notify more
        | .stop =>
          Action.log ⟨.warning, message ++ ", stopping generation of the remaining units"⟩
          return []
      else
        let templates ← processTemplates templates
        let output : Output := ⟨unit, templates⟩
        report g notify output
        Action.debug ("Generated " ++ Nat.repr templates.length ++ " template(s) for " ++
          unit.filePath)
        let outputs ← perUnit g backend policy notify more
        return output :: outputs

/-- One output for every module, in order. -/
def singleFile (g : GeneratorId) (backend : Backend) (notify : Output → Action Unit) :
    List (Module × List Nat) → Action (List Output)
  | [] => return []
  | (module, positions) :: more => do
    let file := module.outputFileName backend.extension
    let templates ← requestTemplates g backend positions (moduleContext backend module.toLibrary)
    match templates with
    | [template] =>
      let template ← processTemplate template
      let output : Output := ⟨.synthetic file module.toLibrary, [template]⟩
      report g notify output
      Action.debug ("Generated " ++ file ++ " from " ++ Nat.repr module.units.length ++
        " unit(s)")
      let outputs ← singleFile g backend notify more
      return output :: outputs
    | _ => Action.fail (.contract backend.name module.name file templates.length)

/-- The name of the way in which a layout makes outputs. -/
def aggregationName : Layout → String
  | .perUnit => "PerUnitAggregation"
  | .singleFile => "SingleFileAggregation"

/-- Make the outputs of a generator, its printer being active meanwhile. -/
def generate (g : GeneratorId) (backend : Backend) (notify : Output → Action Unit) :
    Action (List Output) := do
  let s ← Action.get
  let eligible := s.program.eligiblePositions
  let layout := backend.layout s.options
  Action.debug (backend.name ++ ": " ++ Nat.repr eligible.length ++ " eligible unit(s), " ++
    aggregationName layout ++ " aggregation")
  installed g (match layout with
    | .perUnit => perUnit g backend s.options.policy notify eligible
    | .singleFile => singleFile g backend notify s.program.placedModules)

/-- The directory that a session's outputs are written to, if they are written. -/
def outputDirectory? (o : Options) : Option Path :=
  match o.outputDirectory with
  | some directory => if directory.isEmpty then none else some (.ofString directory)
  | none => none

/-- What an open generator does in a run. -/
def runOpen (g : GeneratorId) (backend : Backend) (notify : Output → Action Unit) :
    Action (List Output) := do
  Action.log (.progress ("Setting up passes for " ++ backend.name ++ "..."))
  unless ← setupPasses backend do
    Action.fail (.setup backend.name)
  runPasses
  let s ← Action.get
  Action.modify fun s => { s with written := [] }
  Action.log (.progress ("Generating " ++ s.options.target.word ++ " bindings..."))
  match outputDirectory? s.options with
  | some directory => generate g backend fun output => discard (Writer.write directory output)
  | none => generate g backend notify

/-- Run a backend over the program: set up its passes, run all passes, and make the outputs, which
are written if there is a directory for them. -/
def run (backend : Backend) (notify : Output → Action Unit) : Action (List Output) := do
  let g ← addGenerator backend
  Action.modify (openGenerator g)
  let outputs ← (runOpen g backend notify).ensuring (closeGenerator g)
  Action.log (.success ("Generated " ++ Text.Count.counted outputs.length "output"))
  let s ← Action.get
  match outputDirectory? s.options with
  | some directory =>
    Action.log ⟨.info, "Wrote " ++ Text.Count.counted s.written.length "file" ++ " to " ++
      directory.toString⟩
  | none => pure ()
  return outputs

/-- The backend of a target language, from a table. -/
def backendFor (table : BackendTable) (target : Target) : Except Fault Backend :=
  match table.find? target with
  | some backend => .ok backend
  | none => .error (.noBackend target.label table.words)

/-- Run the backend that the options ask for. -/
def runTarget (table : BackendTable) (notify : Output → Action Unit) : Action (List Output) := do
  let backend ← Action.ofExcept id (backendFor table (← Action.get).options.target)
  run backend notify

end Interop.Generation
