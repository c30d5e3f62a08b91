import Interop.Backend
import Interop.Proofs.Passes

/-!
# Rendering complete units

Nothing but names and types can make rendering fail. Where all names have texts and all types are
complete, every part of the shipped forms has a text, for any context that writes complete types. In
a plain unit all names are texts, so the forms render plain units.
-/

namespace Interop

namespace CType

/-- A printer that writes every complete type. -/
def Printer.IsTotal (printer : Printer) : Prop := ∀ t, t.IsComplete → ∃ s, printer t = .ok s

/-- Every complete type has a C spelling. -/
theorem isTotal_spelling : Printer.IsTotal spelling := fun _ => spelling_isOk

/-- Every complete type can be written in C#. -/
theorem isTotal_csharp : Printer.IsTotal csharp := by
  intro t h
  induction t with
  | builtin p => exact ⟨_, rfl⟩
  | tag n => exact ⟨_, rfl⟩
  | pointer pointee r c _ =>
    cases pointee with
    | builtin _ | tag _ | pointer _ _ _ | array _ _ => exact ⟨_, rfl⟩
    | missing | bare => exact h.elim
  | array element size ih =>
    obtain ⟨s, hs⟩ := ih h
    exact ⟨_, by simp only [csharp, hs]; rfl⟩
  | missing => exact h.elim
  | bare => exact h.elim

/-- Every complete type can be written in C++/CLI. -/
theorem isTotal_cppCli : Printer.IsTotal cppCli := by
  intro t h
  induction t with
  | builtin p => exact ⟨_, rfl⟩
  | tag n => exact ⟨_, rfl⟩
  | pointer pointee r c ih =>
    obtain ⟨s, hs⟩ := ih h
    cases pointee with
    | builtin _ | tag _ => exact ⟨_, rfl⟩
    | pointer _ _ _ | array _ _ =>
      refine ⟨s ++ "*", ?_⟩
      rw [cppCli.eq_def]
      dsimp only
      rw [hs]
      rfl
    | missing | bare => exact h.elim
  | array element size ih =>
    obtain ⟨s, hs⟩ := ih h
    exact ⟨_, by simp only [cppCli, hs]; rfl⟩
  | missing => exact h.elim
  | bare => exact h.elim

end CType

/-- A name that has a text: any but one in which a whole number is too long. -/
def Value.IsWritable (name : Value) : Prop := ∃ text, name.text? = some text

/-- A name that is a text has itself as its text. -/
theorem Value.isWritable_of_str {name : Value} (h : ∃ n, name = .str n) : name.IsWritable := by
  obtain ⟨n, rfl⟩ := h
  exact ⟨n, rfl⟩

/-- A field or parameter that can be written. -/
structure Member.IsWritable (m : Member) : Prop where
  /-- Its name has a text. -/
  name : m.name.IsWritable
  /-- Its type is complete. -/
  type : m.type.IsComplete

/-- A declaration that can be written. -/
structure Declaration.IsWritable (d : Declaration) : Prop where
  /-- Its name has a text. -/
  name : d.name.IsWritable
  /-- So has its name in the native program. -/
  nativeName : d.nativeName.IsWritable
  /-- Its members can be written. -/
  members : ∀ m ∈ d.members, m.IsWritable
  /-- What a function gives back has a complete type. -/
  result : ∀ r ∈ d.body.result?, r.IsComplete

namespace Declaration

variable {d : Declaration}

/-- A plain declaration can be written. -/
theorem IsPlain.isWritable (h : d.IsPlain) : d.IsWritable where
  name := Value.isWritable_of_str h.label.1
  nativeName := Value.isWritable_of_str h.label.2
  members m hm := ⟨Value.isWritable_of_str (h.members m hm).1.1, (h.members m hm).2⟩
  result := h.result

/-- The fields of a record that can be written can be written. -/
theorem IsWritable.fields (h : d.IsWritable) {isStruct : Bool} {fields : List Member}
    (hb : d.body = .record isStruct fields) : ∀ m ∈ fields, m.IsWritable := by
  have hm := h.members
  rwa [Declaration.members, hb] at hm

/-- The parameters of a function that can be written can be written. -/
theorem IsWritable.parameters (h : d.IsWritable) {result : CType} {parameters : List Member}
    (hb : d.body = .function result parameters) : ∀ m ∈ parameters, m.IsWritable := by
  have hm := h.members
  rwa [Declaration.members, hb] at hm

/-- What a function that can be written gives back has a complete type. -/
theorem IsWritable.resultType (h : d.IsWritable) {result : CType} {parameters : List Member}
    (hb : d.body = .function result parameters) : result.IsComplete :=
  h.result result (by rw [hb]; rfl)

end Declaration

/-- The generated declarations of plain units can be written. -/
theorem isWritable_of_mem_declarationsOf {units : List SourceUnit} (h : ∀ u ∈ units, u.IsPlain) :
    ∀ d ∈ Template.declarationsOf units, d.IsWritable := by
  intro d hd
  obtain ⟨u, hu, hdu⟩ := List.mem_flatMap.1 hd
  exact (h u hu d (List.mem_filter.1 hdu).1).isWritable

namespace Template

/-- Whether a part of a text can be rendered. -/
def Succeeds {α : Type} (r : Rendered α) : Prop := ∃ a, r = .ok a

section Parts

variable {α β : Type}

/-- What is given can be rendered. -/
theorem succeeds_pure (a : α) : Succeeds (pure a : Rendered α) := ⟨a, rfl⟩

/-- If every step can be rendered, so can all. -/
theorem Succeeds.bind {r : Rendered α} (h : Succeeds r) {next : α → Rendered β}
    (hnext : ∀ a, Succeeds (next a)) : Succeeds (r >>= next) := by
  obtain ⟨a, rfl⟩ := h
  exact hnext a

/-- If every member of a list can be rendered, so can the list. -/
theorem succeeds_mapM {f : α → Rendered β} {l : List α} (h : ∀ a ∈ l, Succeeds (f a)) :
    Succeeds (l.mapM f) := by
  induction l with
  | nil => exact succeeds_pure []
  | cons a rest ih =>
    rw [List.mapM_cons]
    have hrest := ih fun b hb => h b (List.mem_cons_of_mem a hb)
    exact (h a List.mem_cons_self).bind fun b => hrest.bind fun bs => succeeds_pure (b :: bs)

/-- A name that has a text can be rendered. -/
theorem succeeds_nameText {name : Value} (h : name.IsWritable) : Succeeds (nameText name) := by
  obtain ⟨text, htext⟩ := h
  unfold nameText
  rw [htext]
  exact ⟨text, rfl⟩

/-- A complete type has a text. -/
theorem succeeds_typeText {printer : CType.Printer} (hp : printer.IsTotal) {t : CType}
    (h : t.IsComplete) : Succeeds (typeText printer t) := by
  obtain ⟨s, hs⟩ := hp t h
  unfold typeText
  rw [hs]
  exact ⟨s, rfl⟩

end Parts

section Members

variable {printer : CType.Printer} {members : List Member} (h : ∀ m ∈ members, m.IsWritable)

include h

/-- Members that can be written can be listed with their types. -/
theorem succeeds_parameterList (hp : printer.IsTotal) :
    Succeeds (parameterList printer members) := by
  refine (succeeds_mapM fun m hm => ?_).bind fun texts => succeeds_pure _
  exact (succeeds_typeText hp (h m hm).type).bind fun type =>
    (succeeds_nameText (h m hm).name).bind fun name => succeeds_pure _

/-- Members that can be written can be listed as arguments. -/
theorem succeeds_argumentList : Succeeds (argumentList members) :=
  (succeeds_mapM fun m hm => succeeds_nameText (h m hm).name).bind fun _ => succeeds_pure _

end Members

section Forms

variable {context : GenerationContext} (hp : context.printer.IsTotal)
  {units : List SourceUnit} (hunits : ∀ d ∈ declarationsOf units, d.IsWritable)

/-- Every declaration that can be written has a block in C#. -/
theorem CSharp.succeeds_block {printer : CType.Printer} (hp : printer.IsTotal)
    (library : Option Library) {d : Declaration} (h : d.IsWritable) :
    Succeeds (block printer library d) := by
  unfold block
  cases hb : d.body with
  | enumeration items => exact (succeeds_nameText h.name).bind fun name => succeeds_pure _
  | record isStruct fields =>
    have hfields : ∀ m ∈ fields.filter (·.isGenerated), m.IsWritable :=
      fun m hm => h.fields hb m (List.mem_filter.1 hm).1
    have hf : Succeeds (fieldLines printer fields) := succeeds_mapM fun m hm =>
      (succeeds_typeText hp (hfields m hm).type).bind fun type =>
        (succeeds_nameText (hfields m hm).name).bind fun name => succeeds_pure _
    exact (succeeds_nameText h.name).bind fun name => hf.bind fun lines => succeeds_pure _
  | function result parameters =>
    exact (succeeds_nameText h.nativeName).bind fun nativeName =>
      (succeeds_typeText hp (h.resultType hb)).bind fun result =>
        (succeeds_nameText h.name).bind fun name =>
          (succeeds_parameterList (h.parameters hb) hp).bind fun parameters => succeeds_pure _

include hp hunits in
/-- Units whose declarations can be written have blocks in C#. -/
theorem CSharp.succeeds_blocks : Succeeds (blocks units context) :=
  (succeeds_mapM fun d hd => succeeds_block hp context.library (hunits d hd)).bind
    fun _ => succeeds_pure _

include hp hunits in
/-- Units whose declarations can be written have a text in C#. -/
theorem CSharp.succeeds_text : Succeeds (text units context) := by
  have h : Succeeds (lines units context) :=
    (succeeds_blocks hp hunits).bind fun _ => succeeds_pure _
  obtain ⟨ls, hl⟩ := h
  unfold text
  rw [hl]
  exact ⟨_, rfl⟩

/-- Every function that can be written has a signature. -/
theorem CppCli.succeeds_signature {printer : CType.Printer} (hp : printer.IsTotal)
    (qualifier : String) {d : Declaration} (h : d.IsWritable) {result : CType}
    {parameters : List Member} (hb : d.body = .function result parameters) :
    Succeeds (signature printer qualifier d.name result parameters) :=
  (succeeds_typeText hp (h.resultType hb)).bind fun _ =>
    (succeeds_nameText h.name).bind fun _ =>
      (succeeds_parameterList (h.parameters hb) hp).bind fun _ => succeeds_pure _

/-- Every declaration that can be written has a block in a header. -/
theorem CppCli.succeeds_headerBlock {printer : CType.Printer} (hp : printer.IsTotal)
    {d : Declaration} (h : d.IsWritable) : Succeeds (headerBlock printer d) := by
  unfold headerBlock
  cases hb : d.body with
  | enumeration items => exact (succeeds_nameText h.name).bind fun name => succeeds_pure _
  | record isStruct fields =>
    have hfields : ∀ m ∈ fields.filter (·.isGenerated), m.IsWritable :=
      fun m hm => h.fields hb m (List.mem_filter.1 hm).1
    have hf : Succeeds (propertyLines printer fields) := succeeds_mapM fun m hm =>
      (succeeds_typeText hp (hfields m hm).type).bind fun type =>
        (succeeds_nameText (hfields m hm).name).bind fun name => succeeds_pure _
    exact (succeeds_nameText h.name).bind fun name => hf.bind fun lines => succeeds_pure _
  | function result parameters =>
    exact (succeeds_signature hp "" h hb).bind fun signature => succeeds_pure _

include hp in
/-- The functions among declarations that can be written have blocks in a source. -/
theorem CppCli.succeeds_functionBlocks {ds : List Declaration} (h : ∀ d ∈ ds, d.IsWritable) :
    Succeeds (functionBlocks context ds) := by
  induction ds with
  | nil => exact succeeds_pure []
  | cons d more ih =>
    have hmore := ih fun e he => h e (List.mem_cons_of_mem d he)
    have hd := h d List.mem_cons_self
    rw [functionBlocks]
    cases hb : d.body with
    | enumeration items => exact hmore
    | record isStruct fields => exact hmore
    | function result parameters =>
      have hvoid : Succeeds (isVoid result) :=
        (succeeds_typeText CType.isTotal_spelling (hd.resultType hb)).bind
          fun _ => succeeds_pure _
      have hblock : Succeeds (functionBlock context d result parameters) :=
        (succeeds_signature hp _ hd hb).bind fun head => hvoid.bind fun isVoid =>
          (succeeds_nameText hd.nativeName).bind fun nativeName =>
            (succeeds_argumentList (hd.parameters hb)).bind fun call => succeeds_pure _
      exact hblock.bind fun block => hmore.bind fun blocks => succeeds_pure _

include hp hunits in
/-- Units whose declarations can be written have a header. -/
theorem CppCli.succeeds_headerText : Succeeds (headerText units context) := by
  have hblocks : Succeeds ((declarationsOf units).mapM (headerBlock context.printer)) :=
    succeeds_mapM fun d hd => succeeds_headerBlock hp (hunits d hd)
  have h : Succeeds (headerLines units context) := hblocks.bind fun _ => succeeds_pure _
  obtain ⟨ls, hl⟩ := h
  unfold headerText
  rw [hl]
  exact ⟨_, rfl⟩

include hp hunits in
/-- Units whose declarations can be written have a source. -/
theorem CppCli.succeeds_sourceText (suffix : String) :
    Succeeds (sourceText suffix units context) := by
  have hblocks : Succeeds (functionBlocks context (declarationsOf units)) :=
    succeeds_functionBlocks hp hunits
  have h : Succeeds (sourceLines suffix units context) := hblocks.bind fun _ => succeeds_pure _
  obtain ⟨ls, hl⟩ := h
  unfold sourceText
  rw [hl]
  exact ⟨_, rfl⟩

end Forms

end Template

end Interop
