import Interop.Proofs.Loaded

/-!
# What generated texts consist of

Every text that a shipped form renders is a sheet: fixed lines around parts that show the
declarations of its units. A C# source and a C++/CLI header have one part for each declaration, and
a C++/CLI source has a wrapper for each function. A part shows the names of its declaration, the
items of an enumeration as they are, and members by their types and names. Sheets are found by
taking a text apart that was rendered, so nothing is asked of the names and types in it.
-/

namespace Interop

/-- Whether a declaration is a function. -/
def Declaration.isFunction (d : Declaration) : Bool := d.body.result?.isSome

namespace Template

/-- A type and a name, as generated code shows a member. -/
abbrev TypedName := String × String

/-- Members as generated code shows them in a list of parameters. -/
def listed (parameters : List TypedName) : String :=
  ", ".intercalate (parameters.map fun m => m.1 ++ " " ++ m.2)

/-- Whether a type and a name are the texts of a member. -/
def IsTextOf (printer : CType.Printer) (m : Member) (texts : TypedName) : Prop :=
  typeText printer m.type = .ok texts.1 ∧ nameText m.name = .ok texts.2

/-- The text of a type is what the printer writes. -/
theorem typeText_eq_ok_iff {printer : CType.Printer} {t : CType} {text : String} :
    typeText printer t = .ok text ↔ printer t = .ok text := by
  unfold typeText
  cases printer t with
  | error fault => exact ⟨fun h => (nomatch h), fun h => (nomatch h)⟩
  | ok written =>
    exact ⟨fun h => congrArg _ (Except.ok.inj h), fun h => congrArg _ (Except.ok.inj h)⟩

section Lists

variable {α β γ : Type} {render : α → Rendered β} {l : List α}

/-- If whatever a member of a list renders as is written by a part that stands for the member, then
whatever the list renders as is written by such parts, one for each member. -/
theorem exists_parts_of_mapM {write : γ → β} {R : α → γ → Prop}
    (hpart : ∀ a b, render a = .ok b → ∃ c, b = write c ∧ R a c) {bs : List β}
    (h : l.mapM render = .ok bs) : ∃ cs, bs = cs.map write ∧ List.Forall₂ R l cs :=
  exists_map_of_forall₂ ((Except.mapM_eq_ok_iff.1 h).imp hpart)

end Lists

section Members

variable {printer : CType.Printer} {members : List Member}

/-- Members that are written by their types and names have these as texts. -/
theorem exists_texts (write : String → String → String) {texts : List String}
    (h : (members.mapM fun (m : Member) => do
      return write (← typeText printer m.type) (← nameText m.name) : Rendered (List String)) =
        .ok texts) :
    ∃ typed : List TypedName, texts = typed.map (fun m => write m.1 m.2) ∧
      List.Forall₂ (IsTextOf printer) members typed := by
  refine exists_parts_of_mapM (fun m text hm => ?_) h
  obtain ⟨type, htype, hm⟩ := Except.bind_eq_ok_iff.1 hm
  obtain ⟨name, hname, hm⟩ := Except.bind_eq_ok_iff.1 hm
  cases hm
  exact ⟨(type, name), rfl, htype, hname⟩

/-- A list of parameters shows their types and names. -/
theorem exists_texts_of_parameterList {text : String}
    (h : parameterList printer members = .ok text) :
    ∃ typed : List TypedName, text = listed typed ∧
      List.Forall₂ (IsTextOf printer) members typed := by
  obtain ⟨texts, htexts, h⟩ := Except.bind_eq_ok_iff.1 h
  cases h
  obtain ⟨typed, rfl, htyped⟩ := exists_texts (fun type name => type ++ " " ++ name) htexts
  exact ⟨typed, rfl, htyped⟩

/-- As arguments, members show their names. -/
theorem argumentList_of_texts {typed : List TypedName}
    (h : List.Forall₂ (IsTextOf printer) members typed) :
    argumentList members = .ok (", ".intercalate (typed.map Prod.snd)) := by
  have hnames : List.Forall₂ (fun (m : Member) (text : String) => nameText m.name = .ok text)
      members (typed.map Prod.snd) :=
    List.forall₂_map_right_iff.2 (h.imp fun _ _ ht => ht.2)
  unfold argumentList
  rw [Except.mapM_eq_ok_iff.2 hnames]
  rfl

/-- Members have no other types and names as texts. -/
theorem eq_of_isTextOf {typed typed' : List TypedName}
    (h : List.Forall₂ (IsTextOf printer) members typed)
    (h' : List.Forall₂ (IsTextOf printer) members typed') : typed = typed' := by
  induction h generalizing typed' with
  | nil =>
    cases h'
    rfl
  | cons ht _ ih =>
    cases h' with
    | cons ht' hrest' =>
      have htype := Except.ok.inj (ht.1.symm.trans ht'.1)
      have hname := Except.ok.inj (ht.2.symm.trans ht'.2)
      rw [ih hrest', Prod.ext htype hname]

end Members

namespace CSharp

/-- A declaration as it stands in a C# source. -/
inductive Part where
  /-- An enumeration with its items. -/
  | enumeration (name : String) (items : List String)
  /-- A record with its fields. -/
  | record (isStruct : Bool) (name : String) (fields : List TypedName)
  /-- An imported function: the entry point, the result, the name in C#, and the parameters. -/
  | imported (entryPoint result name : String) (parameters : List TypedName)

/-- The lines of a part at the left margin, in the code of a library. -/
def Part.lines (library : Option Library) : Part → List String
  | enumeration name items =>
    ["public enum " ++ name, "\x7b"] ++ (itemLines items).map ("    " ++ ·) ++ ["\x7d"]
  | record isStruct name fields =>
    ["[StructLayout(LayoutKind.Sequential)]", "public " ++ recordWord isStruct ++ " " ++ name,
      "\x7b"] ++ fields.map (fun m => "    public " ++ m.1 ++ " " ++ m.2 ++ ";") ++ ["\x7d"]
  | imported entryPoint result name parameters =>
    ["public static partial class " ++ (library.map (·.name)).getD "Native" ++ "Functions",
      "\x7b",
      "    [DllImport(\"" ++ (library.map (·.name)).getD "native" ++ "\", EntryPoint = \"" ++
        entryPoint ++ "\")]",
      "    public static extern " ++ result ++ " " ++ name ++ "(" ++ listed parameters ++ ");",
      "\x7d"]

/-- The text of a C# source for some units that consists of some parts. -/
def sheet (units : List SourceUnit) (context : GenerationContext) (parts : List Part) : String :=
  unlines (header (originText units context.library) ++ opening context.outputNamespace ++
    separated (parts.map fun part =>
      (part.lines context.library).map (indent context.outputNamespace ++ ·)) ++
    closing context.outputNamespace)

/-- Whether a part shows a declaration: under its name, with its items, with its generated fields,
or with its native name, its result and its parameters. -/
inductive Part.Shows (printer : CType.Printer) (d : Declaration) : Part → Prop where
  /-- An enumeration. -/
  | enumeration {name : String} {items : List String} (hb : d.body = .enumeration items)
      (hname : nameText d.name = .ok name) : Shows printer d (.enumeration name items)
  /-- A record. -/
  | record {isStruct : Bool} {name : String} {fields : List Member} {typed : List TypedName}
      (hb : d.body = .record isStruct fields) (hname : nameText d.name = .ok name)
      (htyped : List.Forall₂ (IsTextOf printer) (fields.filter (·.isGenerated)) typed) :
      Shows printer d (.record isStruct name typed)
  /-- A function. -/
  | imported {entryPoint result name : String} {type : CType} {parameters : List Member}
      {typed : List TypedName} (hb : d.body = .function type parameters)
      (hentry : nameText d.nativeName = .ok entryPoint)
      (hresult : typeText printer type = .ok result) (hname : nameText d.name = .ok name)
      (htyped : List.Forall₂ (IsTextOf printer) parameters typed) :
      Shows printer d (.imported entryPoint result name typed)

/-- The block of a declaration is a part that shows it. -/
theorem exists_part_of_block {printer : CType.Printer} {d : Declaration}
    {library : Option Library} {lines : List String} (h : block printer library d = .ok lines) :
    ∃ part : Part, lines = part.lines library ∧ part.Shows printer d := by
  unfold block at h
  cases hb : d.body with
  | enumeration items =>
    rw [hb] at h
    obtain ⟨name, hname, h⟩ := Except.bind_eq_ok_iff.1 h
    cases h
    exact ⟨.enumeration name items, rfl, .enumeration hb hname⟩
  | record isStruct fields =>
    rw [hb] at h
    obtain ⟨name, hname, h⟩ := Except.bind_eq_ok_iff.1 h
    obtain ⟨lines, hlines, h⟩ := Except.bind_eq_ok_iff.1 h
    cases h
    obtain ⟨typed, rfl, htyped⟩ := exists_texts
      (fun type name => "    public " ++ type ++ " " ++ name ++ ";") hlines
    exact ⟨.record isStruct name typed, rfl, .record hb hname htyped⟩
  | function result parameters =>
    rw [hb] at h
    obtain ⟨entryPoint, hentry, h⟩ := Except.bind_eq_ok_iff.1 h
    obtain ⟨type, htype, h⟩ := Except.bind_eq_ok_iff.1 h
    obtain ⟨name, hname, h⟩ := Except.bind_eq_ok_iff.1 h
    obtain ⟨list, hlist, h⟩ := Except.bind_eq_ok_iff.1 h
    cases h
    obtain ⟨typed, rfl, htyped⟩ := exists_texts_of_parameterList hlist
    exact ⟨.imported entryPoint type name typed, rfl, .imported hb hentry htype hname htyped⟩

/-- A C# source consists of parts that show the declarations of its units, one for each. -/
theorem exists_sheet {units : List SourceUnit} {context : GenerationContext} {s : String}
    (h : text units context = .ok s) :
    ∃ parts : List Part, s = sheet units context parts ∧
      List.Forall₂ (fun d (part : Part) => part.Shows context.printer d) (declarationsOf units)
        parts := by
  obtain ⟨ls, hls, h⟩ := Except.bind_eq_ok_iff.1 h
  cases h
  obtain ⟨moved, hmoved, hls⟩ := Except.bind_eq_ok_iff.1 hls
  cases hls
  obtain ⟨blocks, hblocks, hmoved⟩ := Except.bind_eq_ok_iff.1 hmoved
  cases hmoved
  obtain ⟨parts, rfl, hparts⟩ := exists_parts_of_mapM (fun _ _ => exists_part_of_block) hblocks
  refine ⟨parts, ?_, hparts⟩
  unfold sheet
  rw [List.map_map]
  rfl

end CSharp

namespace CppCli

/-- What a header and a source say of a function in the same words: its result, its name and its
parameters. -/
structure Signature where
  /-- The type of what is given back. -/
  result : String
  /-- The name of the wrapper. -/
  name : String
  /-- The parameters. -/
  parameters : List TypedName

/-- The text of a signature in which the name is qualified. -/
def Signature.text (qualifier : String) (s : Signature) : String :=
  s.result ++ " " ++ qualifier ++ s.name ++ "(" ++ listed s.parameters ++ ")"

/-- A declaration as it stands in a C++/CLI header. -/
inductive Part where
  /-- An enumeration with its items. -/
  | enumeration (name : String) (items : List String)
  /-- A reference class with its properties. -/
  | record (name : String) (properties : List TypedName)
  /-- A function. -/
  | function (signature : Signature)

/-- The lines of a part. -/
def Part.lines : Part → List String
  | enumeration name items =>
    ["    public enum struct " ++ name, "    \x7b"] ++
      (itemLines items).map ("        " ++ ·) ++ ["    \x7d;"]
  | record name properties =>
    ["    public ref class " ++ name, "    \x7b", "    public:"] ++
      properties.map (fun m => "        property " ++ m.1 ++ " " ++ m.2 ++ ";") ++ ["    \x7d;"]
  | function signature => ["    " ++ signature.text "" ++ ";"]

/-- The text of a C++/CLI header for some units that consists of some parts. -/
def headerSheet (units : List SourceUnit) (outputNamespace : String) (parts : List Part) :
    String :=
  unlines (notice units ++ ["#pragma once", ""] ++ units.map (includeLine ·.fileName) ++ [""] ++
    opening outputNamespace ++ (parts.map (·.lines)).flatten ++ closing outputNamespace)

/-- A function as it stands in a C++/CLI source: its result, its name, its parameters, whether it
gives back nothing, and the native function that it calls. -/
structure Wrapper where
  /-- The type of what is given back. -/
  result : String
  /-- The name of the wrapper. -/
  name : String
  /-- The parameters. -/
  parameters : List TypedName
  /-- Whether nothing is given back. -/
  isVoid : Bool
  /-- The native function that is called. -/
  callee : String

/-- The arguments of the call: the names of the parameters. -/
def Wrapper.arguments (w : Wrapper) : List String := w.parameters.map Prod.snd

/-- The signature of a wrapper. -/
def Wrapper.signature (w : Wrapper) : Signature := ⟨w.result, w.name, w.parameters⟩

/-- The lines of a wrapper, the name of which is qualified. -/
def Wrapper.lines (qualifier : String) (w : Wrapper) : List String :=
  [w.result ++ " " ++ qualifier ++ w.name ++ "(" ++ listed w.parameters ++ ")",
    "\x7b",
    "    " ++ (if w.isVoid then "" else "return ") ++
      ("::" ++ w.callee ++ "(" ++ ", ".intercalate w.arguments ++ ");"),
    "\x7d"]

/-- The text of a C++/CLI source for some units that consists of some wrappers. -/
def sourceSheet (suffix : String) (units : List SourceUnit) (outputNamespace : String)
    (wrappers : List Wrapper) : String :=
  unlines (notice units ++ units.map (fun u => includeLine (u.fileStem ++ suffix ++ ".h")) ++
    [""] ++ separated (wrappers.map (·.lines (qualifier outputNamespace))))

/-- Whether a signature is that of a function with a name, a result and parameters. -/
structure Signature.IsOf (printer : CType.Printer) (name : Value) (result : CType)
    (parameters : List Member) (s : Signature) : Prop where
  /-- The result is written by the printer. -/
  result : typeText printer result = .ok s.result
  /-- The name is the function's. -/
  name : nameText name = .ok s.name
  /-- The parameters are the function's, with types that are written by the printer. -/
  parameters : List.Forall₂ (IsTextOf printer) parameters s.parameters

/-- Whether a part shows a declaration: under its name, with its items, with its generated fields,
or with its result and its parameters. -/
inductive Part.Shows (printer : CType.Printer) (d : Declaration) : Part → Prop where
  /-- An enumeration. -/
  | enumeration {name : String} {items : List String} (hb : d.body = .enumeration items)
      (hname : nameText d.name = .ok name) : Shows printer d (.enumeration name items)
  /-- A record. -/
  | record {isStruct : Bool} {name : String} {fields : List Member} {typed : List TypedName}
      (hb : d.body = .record isStruct fields) (hname : nameText d.name = .ok name)
      (htyped : List.Forall₂ (IsTextOf printer) (fields.filter (·.isGenerated)) typed) :
      Shows printer d (.record name typed)
  /-- A function. -/
  | function {result : CType} {parameters : List Member} {s : Signature}
      (hb : d.body = .function result parameters) (hs : s.IsOf printer d.name result parameters) :
      Shows printer d (.function s)

/-- Whether a wrapper defines a function: with its signature, by a call of the native function of
its native name. Nothing is given back if the result is spelled `void` in C. -/
inductive Wrapper.Defines (printer : CType.Printer) (d : Declaration) (w : Wrapper) : Prop where
  /-- A function. -/
  | function {result : CType} {parameters : List Member} {spelled : String}
      (hb : d.body = .function result parameters)
      (hsignature : w.signature.IsOf printer d.name result parameters)
      (hcallee : nameText d.nativeName = .ok w.callee) (hspelled : result.spelling = .ok spelled)
      (hvoid : w.isVoid = (spelled == "void"))

section Inversion

variable {printer : CType.Printer} {d : Declaration} {result : CType} {parameters : List Member}

/-- The text of a signature. -/
theorem exists_signature {qualifier text : String} {name : Value}
    (h : signature printer qualifier name result parameters = .ok text) :
    ∃ s : Signature, text = s.text qualifier ∧ s.IsOf printer name result parameters := by
  obtain ⟨type, htype, h⟩ := Except.bind_eq_ok_iff.1 h
  obtain ⟨name, hname, h⟩ := Except.bind_eq_ok_iff.1 h
  obtain ⟨list, hlist, h⟩ := Except.bind_eq_ok_iff.1 h
  cases h
  obtain ⟨typed, rfl, htyped⟩ := exists_texts_of_parameterList hlist
  exact ⟨⟨type, name, typed⟩, rfl, htype, hname, htyped⟩

/-- A function has one signature. -/
theorem Signature.IsOf.unique {name : Value} {s t : Signature}
    (hs : s.IsOf printer name result parameters) (ht : t.IsOf printer name result parameters) :
    s = t := by
  have hresult := Except.ok.inj (hs.result.symm.trans ht.result)
  have hname := Except.ok.inj (hs.name.symm.trans ht.name)
  have hparameters := eq_of_isTextOf hs.parameters ht.parameters
  cases s
  cases t
  congr

/-- The block of a declaration in a header is a part that shows it. -/
theorem exists_part_of_headerBlock {lines : List String}
    (h : headerBlock printer d = .ok lines) :
    ∃ part : Part, lines = part.lines ∧ part.Shows printer d := by
  unfold headerBlock at h
  cases hb : d.body with
  | enumeration items =>
    rw [hb] at h
    obtain ⟨name, hname, h⟩ := Except.bind_eq_ok_iff.1 h
    cases h
    exact ⟨.enumeration name items, rfl, .enumeration hb hname⟩
  | record isStruct fields =>
    rw [hb] at h
    obtain ⟨name, hname, h⟩ := Except.bind_eq_ok_iff.1 h
    obtain ⟨lines, hlines, h⟩ := Except.bind_eq_ok_iff.1 h
    cases h
    obtain ⟨typed, rfl, htyped⟩ := exists_texts
      (fun type name => "        property " ++ type ++ " " ++ name ++ ";") hlines
    exact ⟨.record name typed, rfl, .record hb hname htyped⟩
  | function result parameters =>
    rw [hb] at h
    obtain ⟨text, htext, h⟩ := Except.bind_eq_ok_iff.1 h
    cases h
    obtain ⟨s, rfl, hs⟩ := exists_signature htext
    exact ⟨.function s, rfl, .function hb hs⟩

/-- The block of a function in a source is a wrapper that defines it. -/
theorem exists_wrapper_of_functionBlock {context : GenerationContext} {lines : List String}
    (hb : d.body = .function result parameters)
    (h : functionBlock context d result parameters = .ok lines) :
    ∃ w : Wrapper, lines = w.lines (qualifier context.outputNamespace) ∧
      w.Defines context.printer d := by
  obtain ⟨head, hhead, h⟩ := Except.bind_eq_ok_iff.1 h
  obtain ⟨void, hvoid, h⟩ := Except.bind_eq_ok_iff.1 h
  obtain ⟨callee, hcallee, h⟩ := Except.bind_eq_ok_iff.1 h
  obtain ⟨arguments, harguments, h⟩ := Except.bind_eq_ok_iff.1 h
  cases h
  obtain ⟨s, rfl, hs⟩ := exists_signature hhead
  obtain ⟨spelled, hspelled, hvoid⟩ := Except.bind_eq_ok_iff.1 hvoid
  cases hvoid
  rw [argumentList_of_texts hs.parameters] at harguments
  cases harguments
  exact ⟨⟨s.result, s.name, s.parameters, spelled == "void", callee⟩, rfl,
    .function hb hs hcallee (typeText_eq_ok_iff.1 hspelled) rfl⟩

/-- The blocks of a source are wrappers that define the functions among its declarations. -/
theorem exists_wrappers_of_functionBlocks {context : GenerationContext} {ds : List Declaration}
    {blocks : List (List String)} (h : functionBlocks context ds = .ok blocks) :
    ∃ wrappers : List Wrapper,
      blocks = wrappers.map (·.lines (qualifier context.outputNamespace)) ∧
      List.Forall₂ (fun d (w : Wrapper) => w.Defines context.printer d) (ds.filter (·.isFunction))
        wrappers := by
  induction ds generalizing blocks with
  | nil =>
    cases h
    exact ⟨[], rfl, .nil⟩
  | cons d more ih =>
    rw [functionBlocks] at h
    cases hb : d.body with
    | enumeration items =>
      rw [hb] at h
      rw [List.filter_cons_of_neg (by simp [Declaration.isFunction, hb, Body.result?])]
      exact ih h
    | record isStruct fields =>
      rw [hb] at h
      rw [List.filter_cons_of_neg (by simp [Declaration.isFunction, hb, Body.result?])]
      exact ih h
    | function result parameters =>
      rw [hb] at h
      rw [List.filter_cons_of_pos (by simp [Declaration.isFunction, hb, Body.result?])]
      obtain ⟨lines, hlines, h⟩ := Except.bind_eq_ok_iff.1 h
      obtain ⟨others, hothers, h⟩ := Except.bind_eq_ok_iff.1 h
      cases h
      obtain ⟨w, rfl, hw⟩ := exists_wrapper_of_functionBlock hb hlines
      obtain ⟨wrappers, rfl, hwrappers⟩ := ih hothers
      exact ⟨w :: wrappers, rfl, .cons hw hwrappers⟩

end Inversion

section Sheets

variable {units : List SourceUnit} {context : GenerationContext} {s : String}

/-- A C++/CLI header consists of parts that show the declarations of its units, one for each. -/
theorem exists_headerSheet (h : headerText units context = .ok s) :
    ∃ parts : List Part, s = headerSheet units context.outputNamespace parts ∧
      List.Forall₂ (fun d (part : Part) => part.Shows context.printer d) (declarationsOf units)
        parts := by
  obtain ⟨ls, hls, h⟩ := Except.bind_eq_ok_iff.1 h
  cases h
  obtain ⟨blocks, hblocks, hls⟩ := Except.bind_eq_ok_iff.1 hls
  cases hls
  obtain ⟨parts, rfl, hparts⟩ :=
    exists_parts_of_mapM (fun _ _ => exists_part_of_headerBlock) hblocks
  exact ⟨parts, rfl, hparts⟩

/-- A C++/CLI source consists of wrappers that define the functions of its units. -/
theorem exists_sourceSheet {suffix : String} (h : sourceText suffix units context = .ok s) :
    ∃ wrappers : List Wrapper, s = sourceSheet suffix units context.outputNamespace wrappers ∧
      List.Forall₂ (fun d (w : Wrapper) => w.Defines context.printer d)
        ((declarationsOf units).filter (·.isFunction)) wrappers := by
  obtain ⟨ls, hls, h⟩ := Except.bind_eq_ok_iff.1 h
  cases h
  obtain ⟨blocks, hblocks, hls⟩ := Except.bind_eq_ok_iff.1 hls
  cases hls
  obtain ⟨wrappers, rfl, hwrappers⟩ := exists_wrappers_of_functionBlocks hblocks
  exact ⟨wrappers, rfl, hwrappers⟩

end Sheets

end CppCli

end Template

end Interop
