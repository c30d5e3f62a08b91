import Interop.Proofs.RoundTrip
import Interop.Proofs.Shapes

/-!
# The first fault of a description

Reading a unit description ends at the first fault. Here all faults of a description are listed, in
the order of its parts: every key that must be there and is not, every type that is missing or
cannot be read, and every part that is no declaration of a known kind. If what stands for a list in
a description is one, reading the description ends by the first fault of the list, and gives the
unit that the description describes if the list is empty.

All faults are defects that carry their source, as long as the description can be written. A whole
number in it that is too long to be written takes the place of every defect whose message would show
it, and is a fault of its own where a text is made of it.
-/

namespace Interop

namespace Value

/-- The entries of a mapping. -/
def entries (v : Value) : List (Scalar × Value) :=
  match v.opened with
  | dict entries => entries
  | _ => []

/-- The items of a list. -/
def items (v : Value) : List Value :=
  match v.opened with
  | list items => items
  | _ => []

/-- Whether a value is a mapping. -/
def IsMapping (v : Value) : Prop := v.opened = .dict v.entries

/-- Whether a value is a list. -/
def IsList (v : Value) : Prop := v.opened = .list v.items

/-- What opens as a mapping is one. -/
theorem isMapping_of_opened {v : Value} {found : List (Scalar × Value)}
    (h : v.opened = .dict found) : v.IsMapping ∧ v.entries = found := by
  have hentries : v.entries = found := by unfold entries; rw [h]
  exact ⟨by rw [IsMapping, h, hentries], hentries⟩

/-- What opens as a list is one. -/
theorem isList_of_opened {v : Value} {found : List Value} (h : v.opened = .list found) :
    v.IsList ∧ v.items = found := by
  have hitems : v.items = found := by unfold items; rw [h]
  exact ⟨by rw [IsList, h, hitems], hitems⟩

/-- A list counts as true if it has items. A tied list has as many items as what is tied. -/
theorem IsList.isTruthy {v : Value} (h : v.IsList) : v.isTruthy = !v.items.isEmpty := by
  cases v with
  | list found => rfl
  | tied id w =>
    cases w with
    | list found =>
      have hitems : (tied id (.list found)).items = fillItems id (tied id (.list found)) found :=
        (isList_of_opened (by simp only [opened, fill])).2
      rw [hitems]
      cases found <;> rfl
    | again other isMapping =>
      unfold IsList at h
      simp only [opened, fill] at h
      split at h <;> cases h
    | tied other w =>
      unfold IsList at h
      simp only [opened, fill] at h
      split at h <;> cases h
    | _ => cases h
  | _ => cases h

end Value

namespace Description

/-- The value at a key of a mapping. -/
def valueAt (key : String) (part : Value) : Option Value := Value.lookup key part.entries

/-- The value at a key that must not be empty. -/
def given? (key : String) (part : Value) : Option Value :=
  match valueAt key part with
  | none | some .null | some (.str "") => none
  | some value => some value

/-- The value at a key, or what stands for it if the key is left out, unless it is null. -/
def spelled? (key : String) (fallback : Option Value) (part : Value) : Option Value :=
  match (valueAt key part).or fallback with
  | none | some .null => none
  | some spelling => some spelling

/-- The items of the list at a key. -/
def itemsAt (key : String) (part : Value) : List Value :=
  ((valueAt key part).map Value.items).getD []

/-- Whether a key, unless it is left out, holds a list of parts of a given shape. -/
def ListsAt (key : String) (part : Value) (shape : Value → Prop) : Prop :=
  ∀ v ∈ valueAt key part, v = .null ∨ v.IsList ∧ ∀ item ∈ v.items, shape item

/-- A declaration in which what stands for a list is one. -/
structure IsListedDeclaration (part : Value) : Prop where
  /-- The fields are mappings. -/
  fields : ListsAt "fields" part Value.IsMapping
  /-- The parameters are mappings. -/
  parameters : ListsAt "parameters" part Value.IsMapping
  /-- The items are anything. -/
  items : ListsAt "items" part fun _ => True

/-- The mapping of a unit in which what stands for a list is one. A declaration may be something
else than a mapping. -/
structure IsListedUnit (part : Value) : Prop where
  /-- The unit is a mapping. -/
  mapping : part.IsMapping
  /-- So are the declarations, as far as they matter. -/
  declarations : ListsAt "declarations" part fun d => d.IsMapping → IsListedDeclaration d

section Faults

variable (source : String)

/-- The fault that stands for a defect whose message shows a part. -/
def shownFault (shown : Value) (d : DescriptionDefect) : DescriptionFault :=
  if shown.hasText then .defect d source else .longNumber

/-- The fault of a key that must be there, and the faults of its value. -/
def keyFaults (key : String) (part : Value) (faults : Value → List DescriptionFault) :
    List DescriptionFault :=
  match given? key part with
  | none => [shownFault source part (.missingKey key part)]
  | some value => faults value

/-- The fault of a part that has no text. -/
def textFaults (part : Value) : List DescriptionFault := if part.hasText then [] else [.longNumber]

/-- The fault of the type at a key. -/
def typeFaults (key : String) (fallback : Option Value) (part : Value) : List DescriptionFault :=
  match spelled? key fallback part with
  | none => [shownFault source part (.missingType key part)]
  | some spelling =>
    match spelling.text? with
    | none => [.defect .longSpelling source]
    | some text =>
      match CType.parse text with
      | .ok _ => []
      | .error fault => [.defect (.spelling fault) source]

/-- The faults of a field or parameter: of its name, and of its type. -/
def memberFaults (part : Value) : List DescriptionFault :=
  keyFaults source "name" part (fun _ => []) ++ typeFaults source "type" none part

/-- The faults of what is declared as a kind. -/
def bodyFaults (part kind : Value) : List DescriptionFault :=
  match kind with
  | .str "class" | .str "struct" => (itemsAt "fields" part).flatMap (memberFaults source)
  | .str "function" =>
    typeFaults source "return_type" (some (.str Primitive.void.spelling)) part ++
      (itemsAt "parameters" part).flatMap (memberFaults source)
  | .str "enum" => (itemsAt "items" part).flatMap textFaults
  | other => [shownFault source other (.unknownKind other)]

/-- The faults of a declaration: of its kind, and of what is declared. -/
def declarationFaults (part : Value) : List DescriptionFault :=
  match part.opened with
  | .dict _ => keyFaults source "kind" part (bodyFaults source part)
  | other => [.defect (.notMapping "Declaration" other) source]

/-- The faults of a unit: of its path, and of its declarations. -/
def unitFaults (part : Value) : List DescriptionFault :=
  keyFaults source "file_path" part textFaults ++
    (itemsAt "declarations" part).flatMap (declarationFaults source)

end Faults

/-- Whether a key tells a type. -/
def DescribesType (key : String) (fallback : Option Value) (part : Value) (t : CType) : Prop :=
  ∃ spelling text, spelled? key fallback part = some spelling ∧ spelling.text? = some text ∧
    CType.parse text = .ok t

/-- Whether a part describes a field or parameter. -/
structure DescribesMember (part : Value) (m : Member) : Prop where
  /-- The name is given. -/
  name : given? "name" part = some m.name
  /-- It is the native name. -/
  native : m.nativeName = m.name
  /-- All members are generated at first. -/
  isGenerated : m.isGenerated = true
  /-- The type is given. -/
  type : DescribesType "type" none part m.type

/-- Whether a part describes what is declared as a kind. -/
inductive DescribesBody (part : Value) : Value → Body → Prop
  /-- A class with its fields. -/
  | class {fields : List Member}
    (hfields : List.Forall₂ DescribesMember (itemsAt "fields" part) fields) :
    DescribesBody part (.str "class") (.record false fields)
  /-- A struct with its fields. -/
  | struct {fields : List Member}
    (hfields : List.Forall₂ DescribesMember (itemsAt "fields" part) fields) :
    DescribesBody part (.str "struct") (.record true fields)
  /-- A function, which gives back nothing unless told otherwise, with its parameters. -/
  | function {result : CType} {parameters : List Member}
    (hresult : DescribesType "return_type" (some (.str Primitive.void.spelling)) part result)
    (hparameters : List.Forall₂ DescribesMember (itemsAt "parameters" part) parameters) :
    DescribesBody part (.str "function") (.function result parameters)
  /-- An enumeration of texts. -/
  | enumeration {items : List String}
    (hitems : List.Forall₂ (fun item text => item.text? = some text) (itemsAt "items" part) items) :
    DescribesBody part (.str "enum") (.enumeration items)

/-- Whether a part describes a declaration. -/
structure DescribesDeclaration (part : Value) (d : Declaration) : Prop where
  /-- The name is empty if there is none. -/
  name : d.name = ((valueAt "name" part).filter Value.isTruthy).getD (.str "")
  /-- It is the native name. -/
  native : d.nativeName = d.name
  /-- Whether it is generated may be given. -/
  isGenerated : d.isGenerated = flag "generate" true part.entries
  /-- The kind tells what is declared. -/
  body : ∃ kind, given? "kind" part = some kind ∧ DescribesBody part kind d.body

/-- Whether a part describes a unit. -/
structure DescribesUnit (part : Value) (u : SourceUnit) : Prop where
  /-- The path is the text of what is given. -/
  filePath : ∃ path, given? "file_path" part = some path ∧ path.text? = some u.filePath
  /-- The declarations are those of the list, in order. -/
  declarations : List.Forall₂ DescribesDeclaration (itemsAt "declarations" part) u.declarations
  /-- Whether it is generated may be given. -/
  isGenerated : u.isGenerated = flag "is_generated" true part.entries
  /-- Whether it is a file of the system may be given. -/
  isSystemHeader : u.isSystemHeader = flag "is_system_header" false part.entries
  /-- Whether it is valid may be given. -/
  isValid : u.isValid = flag "is_valid" true part.entries
  /-- It stands for a file. -/
  isSynthetic : u.isSynthetic = false
  /-- Nothing owns it yet. -/
  owner : u.owner = none

/-- A reader ends by the first of some faults, and gives what is right if there is none. -/
inductive Reports {α : Type} (P : α → Prop) : List DescriptionFault → Reader α → Prop
  /-- There is no fault. -/
  | result {a : α} (h : P a) : Reports P [] (.ok a)
  /-- There is a first fault. -/
  | fault {f : DescriptionFault} {more : List DescriptionFault} :
    Reports P (f :: more) (.error f)

namespace Reports

variable {α β : Type} {P : α → Prop} {Q : β → Prop} {faults faults' : List DescriptionFault}
  {r : Reader α}

/-- The fault that ends a reader is the first one. -/
theorem error_iff (h : Reports P faults r) (f : DescriptionFault) :
    r = .error f ↔ faults.head? = some f := by
  cases h with
  | result h => exact ⟨fun h => (nomatch h), fun h => (nomatch h)⟩
  | fault =>
    exact ⟨fun h => congrArg some (Except.error.inj h), fun h => congrArg _ (Option.some.inj h)⟩

/-- A reader gives a result exactly if there is no fault, and then it is right. -/
theorem exists_ok_iff (h : Reports P faults r) :
    (∃ a, r = .ok a ∧ P a) ↔ faults = [] := by
  cases h with
  | result h => exact ⟨fun _ => rfl, fun _ => ⟨_, rfl, h⟩⟩
  | fault => exact ⟨fun ⟨_, h, _⟩ => (nomatch h), fun h => (nomatch h)⟩

/-- What is right may be said in another way. -/
theorem mono {Q : α → Prop} (h : Reports P faults r) (hright : ∀ a, P a → Q a) :
    Reports Q faults r := by
  cases h with
  | result h => exact .result (hright _ h)
  | fault => exact .fault

/-- The faults of two steps are those of the first, and then those of the second. -/
theorem bind {next : α → Reader β} (h : Reports P faults r)
    (hnext : ∀ a, P a → Reports Q faults' (next a)) :
    Reports Q (faults ++ faults') (r >>= next) := by
  cases h with
  | result h => exact hnext _ h
  | fault => exact .fault

/-- What is made of a result has the same faults. -/
theorem map {make : α → β} (h : Reports P faults r) (hmake : ∀ a, P a → Q (make a)) :
    Reports Q faults (r >>= fun a => .ok (make a)) := by
  rw [← List.append_nil faults]
  exact h.bind fun a ha => .result (hmake a ha)

/-- The faults of a list are those of its members, in order. -/
theorem mapM {read : α → Reader β} {R : α → β → Prop} {faults : α → List DescriptionFault}
    {l : List α} (h : ∀ a ∈ l, Reports (R a) (faults a) (read a)) :
    Reports (List.Forall₂ R l) (l.flatMap faults) (l.mapM read) := by
  induction l with
  | nil => exact .result .nil
  | cons a rest ih =>
    obtain ⟨hhead, hrest⟩ := List.forall_mem_cons.1 h
    rw [List.mapM_cons, List.flatMap_cons]
    exact hhead.bind fun b hb => (ih hrest).map fun bs hbs => .cons hb hbs

end Reports

section Readers

variable {source : String} {part : Value}

/-- A defect that shows a part is the only fault. -/
theorem reports_refuseShowing {α : Type} {P : α → Prop} (shown : Value) (d : DescriptionDefect) :
    Reports P [shownFault source shown d] (refuseShowing source shown d) := by
  unfold refuseShowing shownFault refuse
  split <;> exact .fault

/-- A defect is the only fault. -/
theorem reports_refuse {α : Type} {P : α → Prop} (d : DescriptionDefect) :
    Reports P [.defect d source] (refuse source d : Reader α) :=
  .fault

/-- A part without a text is a fault. -/
theorem reports_textOf :
    Reports (fun text => part.text? = some text) (textFaults part) (textOf part) := by
  unfold textOf textFaults Value.text?
  cases part.hasText with
  | true => exact .result rfl
  | false => exact .fault

/-- A key that must be there is in a mapping, with a value that is not empty, or is a fault. The
empty text is the only one that counts as missing. -/
theorem required_eq (hmapping : part.IsMapping) (key : String) :
    required source key part =
      match given? key part with
      | none => refuseShowing source part (.missingKey key part)
      | some value => .ok value := by
  unfold required given? valueAt
  rw [hmapping]
  dsimp only
  cases Value.lookup key part.entries with
  | none => rfl
  | some v =>
    cases v with
    | scalar s =>
      cases s with
      | str text =>
        by_cases hempty : text = ""
        · rw [hempty]
          rfl
        · simp [hempty]
      | _ => rfl
    | _ => rfl

/-- The faults of a key that must be there come before those of its value. -/
theorem reports_required {α : Type} {P : α → Prop} {next : Value → Reader α}
    {faults : Value → List DescriptionFault} (hmapping : part.IsMapping) (key : String)
    (hnext : ∀ value, given? key part = some value → Reports P (faults value) (next value)) :
    Reports P (keyFaults source key part faults) (required source key part >>= next) := by
  rw [required_eq hmapping]
  unfold keyFaults
  cases h : given? key part with
  | none => exact (reports_refuseShowing (P := fun _ => False) part _).bind fun _ h => h.elim
  | some value => exact hnext value h

/-- A key that must be there is the only fault, unless its value is given. -/
theorem reports_key (hmapping : part.IsMapping) (key : String) :
    Reports (fun value => given? key part = some value)
      (keyFaults source key part fun _ => []) (required source key part) := by
  rw [← bind_pure (required source key part)]
  exact reports_required hmapping key fun value h => .result h

/-- A list that may be left out has its items, if it is one. -/
theorem items_valueAt {key : String} {shape : Value → Prop} (h : ListsAt key part shape) :
    items (valueAt key part) = .ok (itemsAt key part) ∧
      ∀ item ∈ itemsAt key part, shape item := by
  unfold itemsAt
  unfold ListsAt at h
  cases hfound : valueAt key part with
  | none => exact ⟨rfl, nofun⟩
  | some v =>
    rcases h v hfound with rfl | ⟨hlist, hshape⟩
    · exact ⟨rfl, nofun⟩
    · refine ⟨?_, hshape⟩
      unfold items Value.elements?
      dsimp only [Option.map_some, Option.getD_some]
      rw [hlist.isTruthy, hlist]
      cases v.items <;> rfl

/-- The faults of a list that may be left out are those of its items, in order. -/
theorem reports_items {β γ : Type} {key : String} {shape : Value → Prop}
    {read : Value → Reader β} {R : Value → β → Prop} {Q : γ → Prop}
    {faults : Value → List DescriptionFault} {make : List β → γ} (h : ListsAt key part shape)
    (hread : ∀ item, shape item → Reports (R item) (faults item) (read item))
    (hmake : ∀ bs, List.Forall₂ R (itemsAt key part) bs → Q (make bs)) :
    Reports Q ((itemsAt key part).flatMap faults)
      (items (valueAt key part) >>= fun found => found.mapM read >>= fun bs => .ok (make bs)) := by
  obtain ⟨hitems, hshape⟩ := items_valueAt h
  rw [hitems]
  exact (Reports.mapM fun item hitem => hread item (hshape item hitem)).map hmake

/-- What stands at a key or for it is a spelling, unless it is null. -/
theorem spelled?_of_ne {key : String} {fallback : Option Value} {v : Value}
    (h : (valueAt key part).or fallback = some v) (hv : v ≠ .null) :
    spelled? key fallback part = some v := by
  unfold spelled?
  rw [h]
  cases v with
  | scalar s =>
    cases s with
    | null => exact absurd rfl hv
    | _ => rfl
  | _ => rfl

/-- The faults of the type at a key. -/
theorem reports_typeAt (key : String) (fallback : Option Value) :
    Reports (DescribesType key fallback part) (typeFaults source key fallback part)
      (typeAt source key fallback part part.entries) := by
  have hmissing : spelled? key fallback part = none →
      Reports (DescribesType key fallback part) (typeFaults source key fallback part)
        (refuseShowing source part (.missingType key part)) := fun hnone => by
    unfold typeFaults
    rw [hnone]
    exact reports_refuseShowing part _
  unfold typeAt
  split
  · rename_i hfound
    exact hmissing (by rw [spelled?, valueAt, hfound])
  · rename_i hfound
    exact hmissing (by rw [spelled?, valueAt, hfound])
  · rename_i spelling hnull hfound
    have hspelled : spelled? key fallback part = some spelling := spelled?_of_ne hfound hnull
    unfold typeFaults DescribesType
    rw [hspelled]
    dsimp only
    cases htext : spelling.text? with
    | none => exact reports_refuse _
    | some text =>
      dsimp only
      cases hparse : CType.parse text with
      | error fault => exact reports_refuse _
      | ok t => exact .result ⟨spelling, text, rfl, htext, hparse⟩

/-- The faults of a field or parameter. -/
theorem reports_member (h : part.IsMapping) :
    Reports (DescribesMember part) (memberFaults source part) (member source part) := by
  unfold member memberFaults
  rw [h]
  refine (reports_key h "name").bind fun name hname => ?_
  exact (reports_typeAt "type" none).map fun t ht => ⟨hname, rfl, rfl, ht⟩

/-- The faults of what is declared as a kind. -/
theorem reports_body (h : IsListedDeclaration part) (kind : Value) :
    Reports (DescribesBody part kind) (bodyFaults source part kind)
      (body source kind part part.entries) := by
  unfold body
  split
  · exact reports_items h.fields (fun _ => reports_member) fun _ => .class
  · exact reports_items h.fields (fun _ => reports_member) fun _ => .struct
  · refine (reports_typeAt "return_type" _).bind fun result hresult => ?_
    exact reports_items h.parameters (fun _ => reports_member) fun _ => .function hresult
  · exact reports_items h.items (fun _ _ => reports_textOf) fun _ => .enumeration
  · rename_i hclass hstruct hfunction henum
    have hfaults : bodyFaults source part kind = [shownFault source kind (.unknownKind kind)] := by
      unfold bodyFaults
      simp only
    rw [hfaults]
    exact reports_refuseShowing kind _

/-- The faults of a declaration. -/
theorem reports_declaration (h : part.IsMapping → IsListedDeclaration part) :
    Reports (DescribesDeclaration part) (declarationFaults source part)
      (declaration source part) := by
  unfold declaration declarationFaults
  cases hopened : part.opened with
  | dict entries =>
    obtain ⟨hmapping, rfl⟩ := Value.isMapping_of_opened hopened
    refine reports_required hmapping "kind" fun kind hkind => ?_
    refine (reports_body (h hmapping) kind).map fun body hbody => ⟨?_, rfl, rfl, kind, hkind, hbody⟩
    show nameOf part.entries = _
    unfold nameOf valueAt
    cases Value.lookup "name" part.entries with
    | none => rfl
    | some name => cases hname : name.isTruthy <;> simp [Option.filter, hname]
  | _ => exact reports_refuse _

/-- The faults of a unit. The path is asked for and made a text before any declaration is looked
at. -/
theorem reports_unit (h : IsListedUnit part) :
    Reports (DescribesUnit part) (unitFaults source part) (unit source part) := by
  have hpath : Reports
      (fun text => ∃ path, given? "file_path" part = some path ∧ path.text? = some text)
      (keyFaults source "file_path" part textFaults)
      (required source "file_path" part >>= textOf) :=
    reports_required h.mapping "file_path" fun path hpath =>
      reports_textOf.mono fun text htext => ⟨path, hpath, htext⟩
  unfold unit unitFaults
  rw [h.mapping]
  dsimp only
  rw [← bind_assoc]
  refine hpath.bind fun filePath hfilePath => ?_
  exact reports_items h.declarations (fun _ => reports_declaration)
    fun declarations hdeclarations => ⟨hfilePath, hdeclarations, rfl, rfl, rfl, rfl, rfl⟩

end Readers

/-- A field or parameter without a name, or without a type that can be read. -/
def IsDefectiveMember (part : Value) : Prop :=
  given? "name" part = none ∨ ¬ ∃ t, DescribesType "type" none part t

/-- What is declared as a kind without types that can be read, or as no kind that is known. -/
def IsDefectiveBody (part kind : Value) : Prop :=
  match kind with
  | .str "class" | .str "struct" => ∃ item ∈ itemsAt "fields" part, IsDefectiveMember item
  | .str "function" =>
    (¬ ∃ t, DescribesType "return_type" (some (.str Primitive.void.spelling)) part t) ∨
      ∃ item ∈ itemsAt "parameters" part, IsDefectiveMember item
  | .str "enum" => False
  | _ => True

/-- What is no mapping, or has no kind, or is defective as what it is. -/
def IsDefectiveDeclaration (part : Value) : Prop :=
  ¬ part.IsMapping ∨ given? "kind" part = none ∨
    ∃ kind, given? "kind" part = some kind ∧ IsDefectiveBody part kind

/-- A unit without a path, or with a defective declaration. -/
def IsDefectiveUnit (part : Value) : Prop :=
  given? "file_path" part = none ∨
    ∃ d ∈ itemsAt "declarations" part, IsDefectiveDeclaration d

/-- A unit with texts where texts are made: of its path, and of the items of its enumerations. -/
structure HasTexts (part : Value) : Prop where
  /-- The path has a text. -/
  path : ∀ path, given? "file_path" part = some path → path.hasText = true
  /-- The items of enumerations have texts. -/
  items : ∀ d ∈ itemsAt "declarations" part, d.IsMapping → given? "kind" d = some (.str "enum") →
    ∀ item ∈ itemsAt "items" d, item.hasText = true

section Faultless

variable (source : String) {part : Value}

/-- A part has no fault exactly if it has a text. -/
theorem textFaults_eq_nil_iff : textFaults part = [] ↔ part.hasText = true := by
  unfold textFaults
  cases part.hasText <;> simp

/-- A key that must be there has no fault exactly if a value is given that has none. -/
theorem keyFaults_eq_nil_iff {key : String} {faults : Value → List DescriptionFault} :
    keyFaults source key part faults = [] ↔
      ∃ value, given? key part = some value ∧ faults value = [] := by
  unfold keyFaults
  cases given? key part <;> simp

/-- A key has no fault exactly if it tells a type. -/
theorem typeFaults_eq_nil_iff {key : String} {fallback : Option Value} :
    typeFaults source key fallback part = [] ↔ ∃ t, DescribesType key fallback part t := by
  unfold typeFaults DescribesType
  cases spelled? key fallback part with
  | none => simp
  | some spelling =>
    cases htext : spelling.text? with
    | none => simp [htext]
    | some text => cases hparse : CType.parse text <;> simp [htext, hparse]

/-- A field or parameter has no fault exactly if it is not defective. -/
theorem memberFaults_eq_nil_iff : memberFaults source part = [] ↔ ¬ IsDefectiveMember part := by
  unfold memberFaults IsDefectiveMember
  rw [List.append_eq_nil_iff, keyFaults_eq_nil_iff, typeFaults_eq_nil_iff, not_or, not_not,
    ← ne_eq, Option.ne_none_iff_exists']
  simp

/-- Fields or parameters have no fault exactly if none is defective. -/
theorem flatMap_memberFaults_eq_nil_iff {l : List Value} :
    l.flatMap (memberFaults source) = [] ↔ ¬ ∃ item ∈ l, IsDefectiveMember item := by
  simp only [List.flatMap_eq_nil_iff, memberFaults_eq_nil_iff, not_exists, not_and]

/-- What is declared has no fault exactly if it is not defective, and has texts where texts are
made. -/
theorem bodyFaults_eq_nil_iff {kind : Value} : bodyFaults source part kind = [] ↔
    ¬ IsDefectiveBody part kind ∧
      (kind = .str "enum" → ∀ item ∈ itemsAt "items" part, item.hasText = true) := by
  unfold bodyFaults IsDefectiveBody
  split
  · rw [flatMap_memberFaults_eq_nil_iff]
    simp
  · rw [flatMap_memberFaults_eq_nil_iff]
    simp
  · rw [List.append_eq_nil_iff, typeFaults_eq_nil_iff, flatMap_memberFaults_eq_nil_iff, not_or,
      not_not]
    simp
  · simp [textFaults_eq_nil_iff]
  · simp

/-- A declaration has no fault exactly if it is not defective, and has texts where texts are
made. -/
theorem declarationFaults_eq_nil_iff : declarationFaults source part = [] ↔
    ¬ IsDefectiveDeclaration part ∧ (part.IsMapping → given? "kind" part = some (.str "enum") →
      ∀ item ∈ itemsAt "items" part, item.hasText = true) := by
  unfold declarationFaults IsDefectiveDeclaration
  cases hopened : part.opened with
  | dict entries =>
    have hmapping := (Value.isMapping_of_opened hopened).1
    rw [keyFaults_eq_nil_iff]
    cases given? "kind" part with
    | none => simp
    | some kind => simp [hmapping, bodyFaults_eq_nil_iff]
  | _ =>
    have hmapping : ¬ part.IsMapping := fun h => by
      rw [Value.IsMapping, hopened] at h
      cases h
    simp [hmapping]

/-- A unit has no fault exactly if it is not defective, and has texts where texts are made. -/
theorem unitFaults_eq_nil_iff :
    unitFaults source part = [] ↔ ¬ IsDefectiveUnit part ∧ HasTexts part := by
  unfold unitFaults IsDefectiveUnit
  rw [List.append_eq_nil_iff, keyFaults_eq_nil_iff, List.flatMap_eq_nil_iff]
  simp only [textFaults_eq_nil_iff, declarationFaults_eq_nil_iff]
  constructor
  · rintro ⟨⟨path, hpath, htext⟩, hdeclarations⟩
    refine ⟨?_, fun path' hpath' => ?_, fun d hd => (hdeclarations d hd).2⟩
    · rintro (hnone | ⟨d, hd, hdefective⟩)
      · rw [hpath] at hnone
        cases hnone
      · exact (hdeclarations d hd).1 hdefective
    · rw [hpath] at hpath'
      exact Option.some.inj hpath' ▸ htext
  · rintro ⟨hdefective, htexts⟩
    rw [not_or] at hdefective
    obtain ⟨path, hpath⟩ := Option.ne_none_iff_exists'.1 hdefective.1
    exact ⟨⟨path, hpath, htexts.path path hpath⟩,
      fun d hd => ⟨fun h => hdefective.2 ⟨d, hd, h⟩, htexts.items d hd⟩⟩

end Faultless

/-- Whether faults are defects that carry their source. -/
def AreDefects (source : String) (faults : List DescriptionFault) : Prop :=
  ∀ f ∈ faults, ∃ d, f = .defect d source

section Written

variable {source : String} {part : Value}

/-- The value at a key of what can be written can be written. -/
theorem hasText_valueAt (h : part.hasText = true) {key : String} {v : Value}
    (hv : valueAt key part = some v) : v.hasText = true := by
  unfold valueAt Value.entries at hv
  split at hv
  · rename_i entries hopened
    exact Value.hasText_lookup (hopened ▸ Value.hasText_opened h) hv
  · cases hv

/-- What is given is the value at the key. -/
theorem valueAt_of_given? {key : String} {v : Value} (h : given? key part = some v) :
    valueAt key part = some v := by
  unfold given? at h
  split at h
  · cases h
  · cases h
  · cases h
  · rename_i hfound
    exact hfound.trans h

/-- The items of a list in what can be written can be written. -/
theorem hasText_of_mem_itemsAt (h : part.hasText = true) {key : String} :
    ∀ item ∈ itemsAt key part, item.hasText = true := by
  intro item hitem
  unfold itemsAt at hitem
  cases hfound : valueAt key part with
  | none =>
    rw [hfound] at hitem
    exact absurd hitem List.not_mem_nil
  | some v =>
    rw [hfound, Option.map_some, Option.getD_some] at hitem
    unfold Value.items at hitem
    split at hitem
    · rename_i items hopened
      refine Value.hasText_of_mem_elements (hasText_valueAt h hfound) ?_ item hitem
      unfold Value.elements?
      rw [hopened]
    · exact absurd hitem List.not_mem_nil

/-- Texts are made of parts that can be written. -/
theorem hasTexts_of_hasText (h : part.hasText = true) : HasTexts part :=
  ⟨fun _ hpath => hasText_valueAt h (valueAt_of_given? hpath),
    fun _ hd _ _ => hasText_of_mem_itemsAt (hasText_of_mem_itemsAt h _ hd)⟩

/-- Faults of two parts are defects if those of each part are. -/
theorem AreDefects.append {faults faults' : List DescriptionFault} (h : AreDefects source faults)
    (h' : AreDefects source faults') : AreDefects source (faults ++ faults') :=
  List.forall_mem_append.2 ⟨h, h'⟩

/-- Faults of a list are defects if those of each member are. -/
theorem AreDefects.flatMap {faults : Value → List DescriptionFault} {l : List Value}
    (h : ∀ v ∈ l, AreDefects source (faults v)) : AreDefects source (l.flatMap faults) := by
  intro f hf
  obtain ⟨v, hv, hf⟩ := List.mem_flatMap.1 hf
  exact h v hv f hf

/-- A defect is a defect. -/
theorem areDefects_singleton (d : DescriptionDefect) : AreDefects source [.defect d source] :=
  List.forall_mem_singleton.2 ⟨d, rfl⟩

/-- What shows a part that can be written is a defect. -/
theorem areDefects_shownFault {shown : Value} (h : shown.hasText = true) (d : DescriptionDefect) :
    AreDefects source [shownFault source shown d] := by
  unfold shownFault
  rw [if_pos h]
  exact areDefects_singleton d

/-- A part that can be written has a text. -/
theorem areDefects_textFaults (h : part.hasText = true) : AreDefects source (textFaults part) := by
  rw [textFaults_eq_nil_iff.2 h]
  exact nofun

/-- The faults of a key are defects if those of its value are. -/
theorem areDefects_keyFaults (h : part.hasText = true) {key : String}
    {faults : Value → List DescriptionFault}
    (hfaults : ∀ v, v.hasText = true → AreDefects source (faults v)) :
    AreDefects source (keyFaults source key part faults) := by
  unfold keyFaults
  cases hgiven : given? key part with
  | none => exact areDefects_shownFault h _
  | some v => exact hfaults v (hasText_valueAt h (valueAt_of_given? hgiven))

/-- The faults of a type are defects. -/
theorem areDefects_typeFaults (h : part.hasText = true) (key : String) (fallback : Option Value) :
    AreDefects source (typeFaults source key fallback part) := by
  unfold typeFaults
  split
  · exact areDefects_shownFault h _
  · split
    · exact areDefects_singleton _
    · split
      · exact nofun
      · exact areDefects_singleton _

/-- The faults of a field or parameter are defects. -/
theorem areDefects_memberFaults (h : part.hasText = true) :
    AreDefects source (memberFaults source part) := by
  have hname : AreDefects source (keyFaults source "name" part fun _ => []) :=
    areDefects_keyFaults h fun _ _ _ hf => absurd hf List.not_mem_nil
  exact hname.append (areDefects_typeFaults h _ _)

/-- The faults of what is declared are defects. -/
theorem areDefects_bodyFaults (h : part.hasText = true) {kind : Value}
    (hkind : kind.hasText = true) : AreDefects source (bodyFaults source part kind) := by
  have hmembers : ∀ key, AreDefects source ((itemsAt key part).flatMap (memberFaults source)) :=
    fun key => .flatMap fun _ hitem => areDefects_memberFaults (hasText_of_mem_itemsAt h _ hitem)
  unfold bodyFaults
  split
  · exact hmembers _
  · exact hmembers _
  · exact (areDefects_typeFaults h _ _).append (hmembers _)
  · exact .flatMap fun _ hitem => areDefects_textFaults (hasText_of_mem_itemsAt h _ hitem)
  · exact areDefects_shownFault hkind _

/-- The faults of a declaration are defects. -/
theorem areDefects_declarationFaults (h : part.hasText = true) :
    AreDefects source (declarationFaults source part) := by
  unfold declarationFaults
  split
  · exact areDefects_keyFaults h fun _ => areDefects_bodyFaults h
  · exact areDefects_singleton _

/-- The faults of a unit are defects. -/
theorem areDefects_unitFaults (h : part.hasText = true) :
    AreDefects source (unitFaults source part) :=
  (areDefects_keyFaults h fun _ => areDefects_textFaults).append
    (.flatMap fun _ hd => areDefects_declarationFaults (hasText_of_mem_itemsAt h _ hd))

end Written

/-- A description in which what stands for a list is one, and no unit or field or parameter is
anything but a mapping, ends by the first of its faults. It gives a unit, and the one that it
describes, exactly if it is not defective and has texts where texts are made. If all of it can be
written, it has these texts, and all faults are defects that carry the source. -/
theorem unit_of_listed (source : String) {part : Value} (h : IsListedUnit part) :
    (∀ f, unit source part = .error f ↔ (unitFaults source part).head? = some f) ∧
    ((∃ u, unit source part = .ok u ∧ DescribesUnit part u) ↔
      ¬ IsDefectiveUnit part ∧ HasTexts part) ∧
    (part.hasText = true →
      HasTexts part ∧ ∀ f ∈ unitFaults source part, ∃ d, f = .defect d source) :=
  ⟨(reports_unit h).error_iff, (reports_unit h).exists_ok_iff.trans (unitFaults_eq_nil_iff source),
    fun htext => ⟨hasTexts_of_hasText htext, areDefects_unitFaults htext⟩⟩

/-- The description of a unit with a path and a size that declares a class with one field. -/
def ofField (path name size : Value) : Value :=
  .dict [(.str "file_path", path), (.str "size", size), (.str "declarations", .list [
    .dict [(.str "kind", .str "class"), (.str "fields", .list [field name])]])]
where
  /-- The field. -/
  field (name : Value) : Value := .dict [(.str "name", name), (.str "type", .str "double")]

/-- What stands for a list there is one. -/
theorem isListedUnit_ofField (path name size : Value) : IsListedUnit (ofField path name size) := by
  refine ⟨rfl, fun v hv => ?_⟩
  cases hv
  refine .inr ⟨rfl, List.forall_mem_singleton.2 fun _ => ⟨fun v hv => ?_, nofun, nofun⟩⟩
  cases hv
  exact .inr ⟨rfl, List.forall_mem_singleton.2 rfl⟩

/-- A unit is read if its path and its field have names. If neither has, the path is the first
fault. If only the field has none, that is the first fault. The first fault carries no source if the
size is a whole number that is too long to be written. -/
theorem unit_of_listed_ofField :
    (∃ u, unit "a.yaml" (ofField (.str "a.h") (.str "radius") (.int 5)) = .ok u ∧
      DescribesUnit (ofField (.str "a.h") (.str "radius") (.int 5)) u) ∧
    unit "a.yaml" (ofField (.str "a.h") .null (.int 5)) =
      .error (.defect (.missingKey "name" (ofField.field .null)) "a.yaml") ∧
    unit "a.yaml" (ofField .null .null (.int 5)) =
      .error (.defect (.missingKey "file_path" (ofField .null .null (.int 5))) "a.yaml") ∧
    unit "a.yaml" (ofField .null .null (.int (.ofNat (Nat.pow 10 4300)))) = .error .longNumber := by
  have hlisted := isListedUnit_ofField
  have hnone : unitFaults "a.yaml" (ofField (.str "a.h") (.str "radius") (.int 5)) = [] := by
    have htype : typeFaults "a.yaml" "type" none (ofField.field (.str "radius")) = [] :=
      (typeFaults_eq_nil_iff _).2
        ⟨_, .str "double", "double", rfl, rfl, CType.parse_spelling_builtin .double⟩
    show (([] ++ typeFaults "a.yaml" "type" none (ofField.field (.str "radius"))) ++ []) ++ [] = []
    rw [htype]
    rfl
  have hlong : ∀ n, (Scalar.int n).hasText = false →
      unit "a.yaml" (ofField .null .null (.int n)) = .error .longNumber := fun n hn => by
    have htext : (ofField .null .null (.int n)).hasText = false := by
      simp only [ofField, Value.hasText, Value.haveEntryText, hn, Bool.and_false, Bool.false_and]
    refine ((unit_of_listed "a.yaml" (hlisted _ _ _)).1 _).2 ?_
    show some (shownFault "a.yaml" (ofField .null .null (.int n)) _) = _
    rw [shownFault, htext]
    rfl
  refine ⟨(unit_of_listed "a.yaml" (hlisted _ _ _)).2.1.2
      ((unitFaults_eq_nil_iff "a.yaml").1 hnone),
    ((unit_of_listed "a.yaml" (hlisted _ _ _)).1 _).2 rfl,
    ((unit_of_listed "a.yaml" (hlisted _ _ _)).1 _).2 rfl,
    hlong _ (by decide +kernel)⟩

end Description

end Interop
