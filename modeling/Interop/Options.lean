import Interop.Value

/-!
# Options

The choices that steer a run: the target language, the layout of the output, what to do with units
that yield nothing, and the directory that files are written to. Each choice is read from a word.
-/

namespace Interop

/-- Why a value makes no choice. -/
structure ChoiceFault where
  /-- The value. -/
  given : Value
  /-- What was to be chosen. -/
  choice : String

/-- The text of a fault. -/
def ChoiceFault.message (f : ChoiceFault) : String :=
  f.given.quoted ++ " is not a valid " ++ f.choice

/-- Target languages. -/
inductive Target where
  | cppCli | csharp
deriving DecidableEq, Repr

namespace Target

/-- All target languages. -/
def all : List Target := [cppCli, csharp]

/-- The word for a target language. -/
def word : Target → String
  | cppCli => "cli"
  | csharp => "csharp"

/-- A target language as error messages show it. -/
def label : Target → String
  | cppCli => "GeneratorKind.CLI"
  | csharp => "GeneratorKind.CSHARP"

/-- The target language with a word. -/
def ofWord? (s : String) : Option Target := all.find? (·.word == s)

/-- Every target language is found by its word. -/
theorem ofWord?_word (t : Target) : ofWord? t.word = some t := by cases t <;> decide

/-- A target language is found by its word alone. -/
theorem ofWord?_eq_some_iff {s : String} {t : Target} : ofWord? s = some t ↔ s = t.word := by
  constructor
  · intro h
    unfold ofWord? at h
    have hword := List.find?_some h
    exact (beq_iff_eq.1 hword).symm
  · rintro rfl
    exact ofWord?_word t

/-- Read a target language. -/
def ofValue (v : Value) : Except ChoiceFault Target :=
  match v.str?.bind ofWord? with
  | some t => .ok t
  | none => .error ⟨v, "GeneratorKind"⟩

end Target

/-- How outputs are laid out. -/
inductive Layout where
  /-- One output for every unit. -/
  | perUnit
  /-- One output for every module. -/
  | singleFile
deriving DecidableEq, Repr

namespace Layout

/-- The word for a layout. -/
def word : Layout → String
  | perUnit => "per_unit"
  | singleFile => "single_file"

/-- The layout with a word. -/
def ofWord? (s : String) : Option Layout := [perUnit, singleFile].find? (·.word == s)

/-- Read a layout. -/
def ofValue (v : Value) : Except ChoiceFault Layout :=
  match v.str?.bind ofWord? with
  | some l => .ok l
  | none => .error ⟨v, "AggregationMode"⟩

end Layout

/-- What happens when a unit yields no template. -/
inductive EmptyPolicy where
  /-- Generation ends with the unit before. -/
  | stop
  /-- The unit is left out. -/
  | skip
  /-- Generation fails. -/
  | fail
deriving DecidableEq, Repr

namespace EmptyPolicy

/-- The word for a policy. -/
def word : EmptyPolicy → String
  | stop => "stop"
  | skip => "skip"
  | fail => "raise"

/-- The policy with a word. -/
def ofWord? (s : String) : Option EmptyPolicy := [stop, skip, fail].find? (·.word == s)

/-- Every policy is found by its word. -/
theorem ofWord?_word (p : EmptyPolicy) : ofWord? p.word = some p := by cases p <;> decide

/-- A policy is found by its word alone. -/
theorem ofWord?_eq_some_iff {s : String} {p : EmptyPolicy} : ofWord? s = some p ↔ s = p.word := by
  constructor
  · intro h
    unfold ofWord? at h
    have hword := List.find?_some h
    exact (beq_iff_eq.1 hword).symm
  · rintro rfl
    exact ofWord?_word p

/-- Read a policy. -/
def ofValue (v : Value) : Except ChoiceFault EmptyPolicy :=
  match v.str?.bind ofWord? with
  | some p => .ok p
  | none => .error ⟨v, "EmptyOutputPolicy"⟩

end EmptyPolicy

/-- The choices that steer a run. -/
structure Options where
  /-- The target language. -/
  target : Target
  /-- Whether one file for every module is asked for. -/
  singleFile : Bool
  /-- The directory that files are written to, if they are written. -/
  outputDirectory : Option String
  /-- What happens when a unit yields no template. -/
  policy : EmptyPolicy
deriving DecidableEq, Repr

namespace Options

/-- Read the choices. The first value that makes no choice is reported. -/
def read (target singleFile : Value) (outputDirectory : Option String) (policy : Value) :
    Except ChoiceFault Options := do
  let target ← Target.ofValue target
  let policy ← EmptyPolicy.ofValue policy
  return ⟨target, singleFile.isTruthy, outputDirectory, policy⟩

/-- The layout that the choices ask for; only C# has a layout with one file for every module. -/
def layout (o : Options) : Layout :=
  if o.target = .csharp && o.singleFile then .singleFile else .perUnit

/-- Other languages than C# are laid out by unit. -/
theorem layout_of_ne_csharp {o : Options} (h : o.target ≠ .csharp) : o.layout = .perUnit := by
  simp [layout, h]

end Options

end Interop
