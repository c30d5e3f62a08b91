import Interop.Backend
import Interop.Fault
import Interop.Log
import Interop.Printers
import Interop.Text.Count

/-!
# Sessions

A session holds everything that lives while bindings are generated: the options, the program with
the passes that wait for it, the generators with their printers, the files, and a journal of what
was done. A step of a session gives a result or a fault, and in both cases the session as the step
left it.
-/

namespace Interop

/-- The output for one unit, or for the unit that stands for a module. -/
structure Output where
  /-- The unit. -/
  unit : SourceUnit
  /-- The templates, all of them processed. -/
  templates : List Template

/-- A backend at work. -/
structure Generator where
  /-- The backend. -/
  backend : Backend
  /-- Whether the generator's printer is kept active. -/
  isOpen : Bool

/-- The number of a generator in its session. -/
abbrev GeneratorId := Nat

/-- An entry of the journal. -/
inductive Event where
  /-- A record was logged. -/
  | logged (record : LogRecord)
  /-- A backend was asked for templates. -/
  | requested (generator : GeneratorId) (positions : List Nat) (context : GenerationContext)
  /-- A generator reported an output; the printer is the one in force at that moment. -/
  | reported (generator : GeneratorId) (output : Output) (printer : Option GeneratorId)

/-- Everything that lives while bindings are generated. -/
structure Session where
  /-- The choices that steer the session. -/
  options : Options
  /-- The program. -/
  program : Program
  /-- The passes that wait to be run. -/
  passes : List PassEntry
  /-- The generators, by number. -/
  generators : List Generator
  /-- The active printers. -/
  printers : Printers GeneratorId
  /-- The files. -/
  files : FileTree
  /-- The directory that relative paths start from. -/
  workingDirectory : Path
  /-- The paths written in the present run. -/
  written : List Path
  /-- What was done, in order. -/
  journal : List Event

/-- A step of a session. -/
def Action (α : Type) := Session → Except Fault α × Session

namespace Action

variable {α β : Type}

/-- The step that does nothing. -/
protected def pure (a : α) : Action α := fun s => (.ok a, s)

/-- One step after another; a fault ends both. -/
protected def bind (first : Action α) (next : α → Action β) : Action β := fun s =>
  match first s with
  | (.ok a, s) => next a s
  | (.error fault, s) => (.error fault, s)

instance : Monad Action where
  pure := Action.pure
  bind := Action.bind

/-- End a step by a fault. -/
def fail (fault : Fault) : Action α := fun s => (.error fault, s)

/-- Look at the session. -/
def get : Action Session := fun s => (.ok s, s)

/-- Change the session. -/
def modify (change : Session → Session) : Action Unit := fun s => (.ok (), change s)

/-- Take over a result or a fault. -/
def ofExcept {ε : Type} (wrap : ε → Fault) : Except ε α → Action α
  | .ok a => .pure a
  | .error e => fail (wrap e)

/-- Change the session after a step, on every way out. -/
def ensuring (step : Action α) (change : Session → Session) : Action α := fun s =>
  let (result, s) := step s
  (result, change s)

/-- Write an entry into the journal. -/
def note (e : Event) : Action Unit := modify fun s => { s with journal := s.journal ++ [e] }

/-- Log a record. -/
def log (r : LogRecord) : Action Unit := note (.logged r)

/-- Log a record for debugging. -/
def debug (text : String) : Action Unit := log ⟨.debug, text⟩

end Action

namespace Session

/-- A session in which nothing was done yet. -/
def start (options : Options) (program : Program) (files : FileTree := .empty)
    (workingDirectory : Path := ⟨1, []⟩) : Session where
  options := options
  program := program
  passes := []
  generators := []
  printers := .empty
  files := files
  workingDirectory := workingDirectory
  written := []
  journal := []

/-- The records logged so far. -/
def records (s : Session) : List LogRecord :=
  s.journal.filterMap fun
    | .logged r => some r
    | _ => none

/-- The outputs that a generator reported so far, each with the printer in force at that moment. -/
def reports (s : Session) (g : GeneratorId) : List (Output × Option GeneratorId) :=
  s.journal.filterMap fun
    | .reported h output printer => if h = g then some (output, printer) else none
    | _ => none

/-- The calls of a generator's backend so far. -/
def requests (s : Session) (g : GeneratorId) : List (List Nat) :=
  s.journal.filterMap fun
    | .requested h positions _ => if h = g then some positions else none
    | _ => none

/-- The generator with a number. -/
def generator? (s : Session) (g : GeneratorId) : Option Generator := s.generators[g]?

/-- Whether a generator is open. -/
def isOpen (s : Session) (g : GeneratorId) : Bool :=
  ((s.generator? g).map (·.isOpen)).getD false

/-- How a printer writes types; without a printer, in C. -/
def printerOf (s : Session) (printer : Option GeneratorId) : CType.Printer :=
  match printer.bind s.generator? with
  | some g => g.backend.printer
  | none => CType.spelling

/-- How types are written at the moment. -/
def currentPrinter (s : Session) : CType.Printer := s.printerOf s.printers.current?

/-- A new generator, closed. -/
def addGenerator (backend : Backend) : Action GeneratorId := fun s =>
  (.ok s.generators.length, { s with generators := s.generators ++ [⟨backend, false⟩] })

/-- Mark a generator as open or closed. -/
def setOpen (g : GeneratorId) (isOpen : Bool) (s : Session) : Session :=
  { s with generators := s.generators.modify g ({ · with isOpen := isOpen }) }

/-- Open a generator: its printer becomes the one in force, unless the generator is open already. -/
def openGenerator (g : GeneratorId) (s : Session) : Session :=
  if s.isOpen g then s
  else { s with printers := s.printers.subscribe g }.setOpen g true

/-- Close a generator: its printer is given up, unless the generator is closed already. -/
def closeGenerator (g : GeneratorId) (s : Session) : Session :=
  if s.isOpen g then { s with printers := s.printers.unsubscribe g }.setOpen g false
  else s

/-- Keep a generator's printer active during a step, and give it up on every way out. -/
def installed {α : Type} (g : GeneratorId) (step : Action α) : Action α := do
  Action.modify fun s => { s with printers := s.printers.subscribe g }
  step.ensuring fun s => { s with printers := s.printers.unsubscribe g }

/-- Let the passes of a backend wait for the program. -/
def setupPasses (backend : Backend) : Action Bool := fun s =>
  (.ok backend.setupSucceeds, { s with passes := s.passes ++ backend.passes.map .fresh })

/-- Run the passes that wait. -/
def runPasses : Action Unit := fun s =>
  let v := PassEntry.runAll s.program s.passes
  let remarks := v.notes.map fun text => Event.logged ⟨.debug, text⟩
  (if v.stopped then .error .name else .ok (),
    { s with passes := v.result.1, program := v.result.2, journal := s.journal ++ remarks })

/-- What a generator's templates need to know about an output. -/
def contextFor (backend : Backend) (outputNamespace : Option String) (library : Option Library)
    (includeDirectory : Option String) : GenerationContext :=
  ⟨outputNamespace.getD "", backend.printer, library, includeDirectory⟩

/-- Ask a backend for the templates of some units. -/
def requestTemplates (g : GeneratorId) (backend : Backend) (positions : List Nat)
    (context : GenerationContext) : Action (List Template) := do
  Action.note (.requested g positions context)
  let s ← Action.get
  let units := positions.filterMap fun i => (s.program.units[i]?).map fun u => (i, u)
  return backend.templates (backend.layout s.options) units context

/-- Fix the text of a template. -/
def processTemplate (t : Template) : Action Template := do
  match t.process (← Action.get).program with
  | .ok t =>
    Action.debug ("Processed template " ++ t.form.name ++ " (" ++
      Nat.repr (t.text?.getD "").length ++ " characters)")
    return t
  | .error fault =>
    match fault with
    | .render reason =>
      match reason.remark? with
      | some remark => Action.log ⟨.error, remark⟩
      | none => pure ()
    | _ => pure ()
    Action.fail (.template fault)

/-- Report an output of a generator to whoever waits for it. -/
def report (g : GeneratorId) (notify : Output → Action Unit) (output : Output) :
    Action Unit := do
  let s ← Action.get
  Action.note (.reported g output s.printers.current?)
  notify output

end Session

end Interop
