import Interop.Log.Format
import Interop.Text.Blank

/-!
# Log records on a console

The line that a record makes on a console, in colour where the console has colours. Grave records
are coloured by their level, marked records by their mark, rules of sections stand out, and records
for debugging have a colour of their own.
-/

namespace Interop.Log

/-- The usual format: the level, a colon and the message. -/
def usualFormat : String := "%(levelname)s: %(message)s"

/-- The name of the log to which all records belong. -/
def logName : String := "n"

/-- The fields of a record. -/
def fields (r : LogRecord) : List (Scalar × Value) :=
  let field (name : String) (v : Value) : Scalar × Value := (.str name, v)
  [field "name" (.str logName), field "msg" (.str r.text), field "levelname" (.str r.level.name),
    field "levelno" (.int r.level.number), field "exc_info" .null, field "exc_text" .null,
    field "stack_info" .null, field "funcName" .null, field "threadName" (.str "MainThread"),
    field "processName" (.str "MainProcess"), field "message" (.str r.text)]

/-- How records are written. -/
structure ConsoleStyle where
  /-- The format of a line. -/
  format : String
  /-- Whether lines are coloured. -/
  colours : Bool

/-- The codes that a console understands. -/
def escapeCode (n : Nat) : String := "\x1b[" ++ Nat.repr n ++ "m"

/-- Back to plain text. -/
def reset : String := escapeCode 0

/-- Bold text. -/
def bold : String := escapeCode 1

/-- The colour of a level; a record without a level has none. -/
def levelColour : LogLevel → String
  | .unset => ""
  | .debug => escapeCode 36
  | .info => escapeCode 32
  | .warning => escapeCode 33
  | .error => escapeCode 31
  | .critical => escapeCode 35

/-- Whether a text starts with a mark. -/
def startsWith (mark text : String) : Bool := mark.toList.isPrefixOf text.toList

/-- Whether a text is taken for a rule or title of a section: it has an equals sign and more than
twenty characters, blanks at its ends aside. -/
def isSectionText (text : String) : Bool :=
  text.toList.contains '=' && (Text.Blank.trim text.toList).length > 20

/-- The codes before a record's line, none if it stays plain. -/
def emphasis (r : LogRecord) : Option String :=
  if r.level = .warning || r.level = .error || r.level = .critical then some (levelColour r.level)
  else if startsWith LogRecord.successMark r.text then some (escapeCode 92 ++ bold)
  else if startsWith LogRecord.progressMark r.text then some (escapeCode 94)
  else if startsWith LogRecord.highlightMark r.text then some (escapeCode 96)
  else if isSectionText r.text then some (bold ++ escapeCode 96)
  else if r.level = .debug then some (levelColour .debug)
  else none

/-- The line of a record. -/
def line (style : ConsoleStyle) (r : LogRecord) : Except Format.Fault String := do
  let plain ← Format.fill style.format (fields r)
  if style.colours then
    match emphasis r with
    | some codes => return codes ++ plain ++ reset
    | none => return plain
  else return plain

/-- What a console shows of some records, from a level on. -/
def shown (style : ConsoleStyle) (threshold : LogLevel) (records : List LogRecord) :
    Except Format.Fault String := do
  let lines ← (records.filter (·.reaches threshold)).mapM (line style)
  return String.join (lines.map (· ++ "\n"))

end Interop.Log
