import Interop.Identifier
import Interop.Options
import Interop.Text.Digit

/-!
# The command line

The words of a command line are read from left to right. A word with a hyphen in front names
switches: a long switch by a part of its name that no other one shares, short ones by single letters
that may stand together. The value of a switch is joined to it or is the next word. After a word of
two hyphens no word names a switch any more. The command takes no words of its own.
-/

namespace Interop

/-- The switches of the command. -/
inductive Switch where
  | help | config | outputDirectory | kind | singleFile | verbose | plain
deriving DecidableEq, Repr

namespace Switch

/-- The names of all switches, in the order in which they are declared. -/
def names : List (String × Switch) := [
  ("-h", help), ("--help", help), ("-c", config), ("--config", config), ("-o", outputDirectory),
  ("--output-dir", outputDirectory), ("-k", kind), ("--kind", kind), ("--single-file", singleFile),
  ("-v", verbose), ("--verbose", verbose), ("--no-color", plain)]

/-- The switch with a name. -/
def ofName? (name : String) : Option Switch := names.lookup name

/-- Whether a switch takes a value. -/
def takesValue : Switch → Bool
  | config | outputDirectory | kind => true
  | _ => false

/-- A switch as complaints name it: by all its names. -/
def label (s : Switch) : String :=
  "/".intercalate ((names.filter (·.2 == s)).map (·.1))

end Switch

/-- What is given for a switch that takes a value. -/
inductive Given (α : Type) where
  /-- A value. -/
  | value (a : α)
  /-- No value at all. -/
  | nothing
deriving DecidableEq, Repr

namespace Given

variable {α : Type}

/-- The value, if there is one. -/
def value? : Given α → Option α
  | value a => some a
  | nothing => none

/-- What is given as a datum; nothing is an empty list of values. -/
def toValue (datum : α → Value) : Given α → Value
  | value a => datum a
  | nothing => .list []

end Given

/-- What a command line asks for. -/
structure Arguments where
  /-- The path of the configuration. -/
  config : Given String
  /-- The directory that files are to be written to. -/
  outputDirectory : Option (Given String)
  /-- The target language. -/
  target : Option (Given Target)
  /-- Whether one file for every module is asked for. -/
  singleFile : Bool
  /-- Whether debug records are to be shown. -/
  isVerbose : Bool
  /-- Whether records are to be shown without colours. -/
  isPlain : Bool
deriving DecidableEq, Repr

/-- Why a command line asks for nothing that can be done. -/
inductive UsageFault where
  /-- The configuration is missing. -/
  | noConfig
  /-- A switch lacks its value. -/
  | noValue (s : Switch)
  /-- A switch that takes no value has one. -/
  | extraValue (s : Switch) (given : String)
  /-- A value is not one of those that a switch takes. -/
  | badValue (s : Switch) (given : String)
  /-- A word may name several switches. -/
  | ambiguous (given : String) (candidates : List String)
  /-- Words that mean nothing. -/
  | unknown (words : List String)
deriving DecidableEq, Repr

/-- The text of a fault. -/
def UsageFault.message : UsageFault → String
  | noConfig => "the following arguments are required: " ++ Switch.label .config
  | noValue s => "argument " ++ s.label ++ ": expected one argument"
  | extraValue s given =>
    "argument " ++ s.label ++ ": ignored explicit argument " ++ Text.Quoted.quoted given
  | badValue s given =>
    "argument " ++ s.label ++ ": invalid choice: " ++ Text.Quoted.quoted given ++
      " (choose from " ++ ", ".intercalate (Target.all.map fun t => Text.Quoted.quoted t.word) ++
      ")"
  | ambiguous given candidates =>
    "ambiguous option: " ++ given ++ " could match " ++ ", ".intercalate candidates
  | unknown words => "unrecognized arguments: " ++ " ".intercalate words

/-- Why the command ends before it starts. -/
inductive Stop where
  /-- Help was asked for. -/
  | help
  /-- The command line is at fault. -/
  | usage (fault : UsageFault)
deriving DecidableEq, Repr

namespace CommandLine

/-- A word of a command line. -/
inductive Word where
  /-- A word without a hyphen in front, or one that is no switch by its form. -/
  | text (s : String)
  /-- The word after which no word names a switch. -/
  | terminator
  /-- A switch, by its long name or a letter, and what is joined to it. -/
  | switch (s : Switch) (isLong : Bool) (joined : Option (List Char))
  /-- A word that has the form of a switch but names none. -/
  | unknown (s : String)
deriving DecidableEq, Repr

/-- Whether a word is a negative number. -/
def isNegative (cs : List Char) : Bool :=
  match Identifier.dropFinalBreak cs with
  | '-' :: rest =>
    let after := rest.dropWhile Text.Digit.isDigit
    match after with
    | [] => !rest.isEmpty
    | '.' :: more => !more.isEmpty && more.all Text.Digit.isDigit
    | _ => false
  | _ => false

/-- A word cut at its first equals sign. -/
def assigned? (cs : List Char) : List Char × Option (List Char) :=
  (cs.takeWhile (· != '='), (cs.dropWhile (· != '=')).tail?)

/-- Whether a name is a long one. -/
def isLong (name : List Char) : Bool := ['-', '-'].isPrefixOf name

/-- The switches that a word may name, with their names and what is joined to them. A short name is
the front of the word; a long name is given by its front. -/
def candidates (cs : List Char) : List (String × Switch × Option (List Char)) :=
  if isLong cs then
    let (start, joined) := assigned? cs
    Switch.names.filterMap fun (name, s) =>
      if start.isPrefixOf name.toList then some (name, s, joined) else none
  else
    Switch.names.filterMap fun (name, s) =>
      if name.toList == cs.take 2 then some (name, s, some (cs.drop 2)) else none

/-- What kind of word a word is. -/
def classify (word : String) : Except UsageFault Word :=
  let cs := word.toList
  if cs.head? != some '-' then .ok (.text word)
  else
    match Switch.ofName? word with
    | some s => .ok (.switch s (isLong cs) none)
    | none =>
      let (name, joined) := assigned? cs
      match Switch.ofName? (String.ofList name), joined with
      | some s, some joined => .ok (.switch s (isLong cs) (some joined))
      | _, _ =>
        if cs.length = 1 then .ok (.text word)
        else
          match candidates cs with
          | [(_, s, joined)] => .ok (.switch s (isLong cs) joined)
          | [] =>
            if isNegative cs || cs.contains ' ' then .ok (.text word) else .ok (.unknown word)
          | several => .error (.ambiguous word (several.map (·.1)))

/-- The kinds of all words. -/
def classifyAll : List String → Except UsageFault (List Word)
  | [] => .ok []
  | word :: rest =>
    if word == "--" then .ok (.terminator :: rest.map .text)
    else do return (← classify word) :: (← classifyAll rest)

/-- How a word with switches ends. -/
inductive Ending where
  /-- With a switch that takes no value. -/
  | complete
  /-- With a switch and its value. -/
  | value (s : Switch) (given : String)
  /-- With a switch whose value is to follow. -/
  | awaiting (s : Switch)
deriving DecidableEq, Repr

/-- The switches of a word, all but the last of them without values, and how it ends. What is joined
to a short switch without a value names further switches by their letters, each of which must name
one; whatever joins it, the first of its characters is the first letter. -/
def cluster (s : Switch) (isLong : Bool) : List Char → Except UsageFault (List Switch × Ending)
  | [] => if s.takesValue then .ok ([], .value s "") else .error (.extraValue s "")
  | c :: rest =>
    let given := String.ofList (c :: rest)
    if s.takesValue then .ok ([], .value s given)
    else if isLong then .error (.extraValue s given)
    else
      match Switch.ofName? (String.ofList ['-', c]) with
      | none => .error (.extraValue s given)
      | some next =>
        match rest with
        | [] => .ok (if next.takesValue then ([s], .awaiting next) else ([s, next], .complete))
        | d :: more => do
          let (switches, ending) ← cluster next false (d :: more)
          return (s :: switches, ending)

/-- The switches of a word and how it ends, given what is joined to its first switch. -/
def expand (s : Switch) (isLong : Bool) :
    Option (List Char) → Except UsageFault (List Switch × Ending)
  | none => .ok (if s.takesValue then ([], .awaiting s) else ([s], .complete))
  | some joined => cluster s isLong joined

/-- What was asked for so far. -/
structure Progress where
  /-- The path of the configuration. -/
  config : Option (Given String) := none
  /-- The directory that files are to be written to. -/
  outputDirectory : Option (Given String) := none
  /-- The target language. -/
  target : Option (Given Target) := none
  /-- The switches without values. -/
  switches : List Switch := []
  /-- The words that mean nothing. -/
  extras : List String := []

/-- Turn on a switch without a value. -/
def turnOn (p : Progress) (s : Switch) : Except Stop Progress :=
  if s = .help then .error .help else .ok { p with switches := s :: p.switches }

/-- What a text gives for a switch. The word after which no word names a switch is dropped wherever
it stands, so it leaves a switch that it is joined to with nothing. -/
def givenBy (text : String) : Given String := if text = "--" then .nothing else .value text

/-- Set what is given for a switch. -/
def assign (p : Progress) (s : Switch) (given : Given String) : Except Stop Progress :=
  match s, given with
  | .config, given => .ok { p with config := some given }
  | .outputDirectory, given => .ok { p with outputDirectory := some given }
  | .kind, .nothing => .ok { p with target := some .nothing }
  | .kind, .value word =>
    match Target.ofWord? word with
    | some t => .ok { p with target := some (.value t) }
    | none => .error (.usage (.badValue s word))
  | _, _ => .ok p

/-- Note a word that means nothing. -/
def extra (p : Progress) (word : String) : Progress := { p with extras := p.extras ++ [word] }

/-- Follow the words of a command line in order. -/
def follow (p : Progress) : List Word → Except Stop Progress
  | [] => .ok p
  | .text s :: rest => follow (extra p s) rest
  | .terminator :: rest => follow (extra p "--") rest
  | .unknown s :: rest => follow (extra p s) rest
  | .switch s isLong joined :: rest => do
    let (switches, ending) ← (expand s isLong joined).mapError .usage
    match ending, rest with
    | .awaiting s, .text given :: rest =>
      follow (← assign (← switches.foldlM turnOn p) s (givenBy given)) rest
    | .awaiting s, _ => .error (.usage (.noValue s))
    | .complete, rest => follow (← switches.foldlM turnOn p) rest
    | .value s given, rest => follow (← assign (← switches.foldlM turnOn p) s (givenBy given)) rest

/-- What is asked for, if the configuration is named and nothing is left over. -/
def finish (p : Progress) : Except UsageFault Arguments :=
  match p.config with
  | none => .error .noConfig
  | some config =>
    if p.extras.isEmpty then
      .ok ⟨config, p.outputDirectory, p.target, p.switches.contains .singleFile,
        p.switches.contains .verbose, p.switches.contains .plain⟩
    else .error (.unknown p.extras)

/-- Read a command line. -/
def parse (words : List String) : Except Stop Arguments := do
  let words ← (classifyAll words).mapError .usage
  (finish (← follow {} words)).mapError .usage

/-- The values with which a command line overrides a configuration. -/
def overrides (a : Arguments) : List (Scalar × Value) :=
  (a.outputDirectory.map fun s => (Scalar.str "output_dir", s.toValue .str)).toList ++
  (a.target.map fun t => (Scalar.str "generator_kind", t.toValue (.str ·.word))).toList ++
  (if a.singleFile then [(.str "generate_single_csharp_file", .bool true)] else [])

end CommandLine

end Interop
