import Interop.Text.UpperCase

/-!
# Log records

What the program tells while it works. Every record has a level; some records are set apart by a
mark in front of their text, and a section's title stands between two rules.
-/

namespace Interop

/-- How grave a record is. -/
inductive LogLevel where
  | unset | debug | info | warning | error | critical
deriving DecidableEq, Repr

namespace LogLevel

/-- All levels, the least grave first. -/
def all : List LogLevel := [unset, debug, info, warning, error, critical]

/-- The name of a level. -/
def name : LogLevel → String
  | unset => "NOTSET"
  | debug => "DEBUG"
  | info => "INFO"
  | warning => "WARNING"
  | error => "ERROR"
  | critical => "CRITICAL"

/-- Other names of levels. -/
def aliases : List (String × LogLevel) := [("WARN", warning), ("FATAL", critical)]

/-- The level with a name. -/
def ofName? (s : String) : Option LogLevel := (all.find? (·.name == s)).or (aliases.lookup s)

/-- The number of a level. -/
def number : LogLevel → Nat
  | unset => 0
  | debug => 10
  | info => 20
  | warning => 30
  | error => 40
  | critical => 50

end LogLevel

/-- One record. -/
structure LogRecord where
  /-- How grave it is. -/
  level : LogLevel
  /-- What it says. -/
  text : String
deriving DecidableEq, Repr

namespace LogRecord

/-- The mark of success. -/
def successMark : String := "✓"

/-- The mark of progress. -/
def progressMark : String := "→"

/-- The mark of a noteworthy fact. -/
def highlightMark : String := "•"

/-- A record of success. -/
def success (text : String) : LogRecord := ⟨.info, successMark ++ " " ++ text⟩

/-- A record of progress. -/
def progress (text : String) : LogRecord := ⟨.info, progressMark ++ " " ++ text⟩

/-- A record of a noteworthy fact. -/
def highlight (text : String) : LogRecord := ⟨.info, highlightMark ++ " " ++ text⟩

/-- The rule above and below a title. -/
def rule : String := String.ofList (List.replicate 60 '=')

/-- The records that open a section. -/
def sectionStart (title : String) : List LogRecord :=
  [⟨.info, "\n" ++ rule⟩, ⟨.info, "  " ++ Text.UpperCase.upperCase title⟩, ⟨.info, rule⟩]

/-- Whether a record is at least as grave as a level. A record without a level never is. -/
def reaches (threshold : LogLevel) (r : LogRecord) : Bool :=
  r.level != .unset && threshold.number ≤ r.level.number

end LogRecord

end Interop
