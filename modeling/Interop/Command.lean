import Interop.CommandLine
import Interop.Configuration.Loading
import Interop.Generation
import Interop.Program.Loading

/-!
# The command

The command loads a configuration and its program, generates the bindings, and tells how far it got.
It ends with zero if everything went well, with one if something failed, and with two if the command
line is at fault. A failure is always told in the log and never anywhere else; nothing is written
before the whole program is loaded.
-/

namespace Interop

/-- What a run of the command leaves behind. -/
structure CommandOutcome where
  /-- The exit code. -/
  exitCode : Nat
  /-- What is wrong with the command line. -/
  complaint : Option String
  /-- The records that are shown. -/
  records : List LogRecord
  /-- The files. -/
  files : FileTree
  /-- How many printers are left active. -/
  activePrinters : Nat

namespace Command

/-- The name of the command. -/
def name : String := "binding-generator"

/-- The least grave records that are shown. -/
def threshold (a : Arguments) : LogLevel := if a.isVerbose then .debug else .info

/-- Log the start of a section. -/
def sectionStart (title : String) : Logged Unit :=
  .log (LogRecord.sectionStart title)

/-- Load the configuration and the program. -/
def prepare (w : Workspace) (a : Arguments) : Logged (Configuration × Program) := do
  if a.isVerbose then
    Logged.log [⟨.debug, "Verbose mode enabled. DEBUG level logging activated."⟩]
  sectionStart "Configuration"
  Logged.log [.progress "Loading configuration..."]
  let c ← Configuration.load w a.config.value? (CommandLine.overrides a)
  sectionStart "Translation Units"
  let p ← Program.load w c
  Logged.log [.highlight ("Found " ++
    Text.Count.counted p.units.length "translation unit" ++ " in " ++
    Text.Count.counted p.modules.length "module")]
  sectionStart "Binding Generation"
  return (c, p)

/-- The record of a failure: its report, or what little is known of it. -/
def failure (f : Fault) : LogRecord :=
  match f.report? with
  | some report => ⟨.error, report.text⟩
  | none => ⟨.error, "An unexpected error occurred during generation: " ++ f.text⟩

/-- The records of the end. -/
def completion : List LogRecord :=
  LogRecord.sectionStart "Completion" ++ [.success "Binding generation completed successfully!"]

/-- Generate the bindings of a program. -/
def generate (w : Workspace) (c : Configuration) (p : Program) :
    Except Fault (List Output) × Session :=
  Generation.runTarget .shipped (fun _ => pure ()) (.start c.options p w.files w.directory)

/-- Do what was asked for. -/
def execute (w : Workspace) (a : Arguments) : CommandOutcome :=
  let prepared := prepare w a
  let shown (records : List LogRecord) := records.filter (·.reaches (threshold a))
  match prepared.outcome with
  | .error fault => ⟨1, none, shown (prepared.records ++ [failure fault]), w.files, 0⟩
  | .ok (c, p) =>
    let (result, s) := generate w c p
    let (exitCode, ending) := match result with
      | .ok _ => (0, completion)
      | .error fault => (1, [failure fault])
    ⟨exitCode, none, shown (prepared.records ++ s.records ++ ending), s.files,
      s.printers.active.length⟩

/-- Run the command. -/
def run (w : Workspace) (words : List String) : CommandOutcome :=
  match CommandLine.parse words with
  | .ok a => execute w a
  | .error .help => ⟨0, none, [], w.files, 0⟩
  | .error (.usage fault) => ⟨2, some (name ++ ": error: " ++ fault.message), [], w.files, 0⟩

end Command

end Interop
