import Interop.Proofs.Rerun
import Interop.Proofs.Sheets

/-!
# No reserved word is declared, items apart

The passes of a shipped backend give a made-up name to every declaration, field and parameter whose
name is a reserved word of the target language. What the texts of a run declare are these names, and
in C# the classes that hold imported functions; none of them is a reserved word. The items of
enumerations are declared as they were given: no pass visits them.
-/

namespace Interop

open Session Generation

namespace Identifier

/-- A name that went through words is none of them, if they are not made up. -/
theorem escape_not_mem {words : List String} (h : ∀ w ∈ words, isReserved w = false)
    (name : String) : escape words name ∉ words := by
  by_cases hw : name ∈ words
  · rw [escape_of_mem hw]
    exact reserve_not_mem h name
  · rw [escape_of_not_mem hw]
    exact hw

/-- No name with an ending is among words that do not have it. -/
theorem append_not_mem {words : List String} {ending : String}
    (h : ∀ w ∈ words, ¬ ending.toList <:+ w.toList) (name : String) : name ++ ending ∉ words := by
  intro hw
  refine h _ hw ⟨name.toList, ?_⟩
  rw [String.toList_append]

end Identifier

/-- A name that is a text outside some words. -/
def Value.IsFree (words : List String) (name : Value) : Prop := ∃ n, name = .str n ∧ n ∉ words

/-- A declaration whose name is free, and the names of its members. -/
structure Declaration.IsFree (words : List String) (d : Declaration) : Prop where
  /-- Its own name is free. -/
  name : d.name.IsFree words
  /-- The names of its members are free. -/
  members : ∀ m ∈ d.members, m.name.IsFree words

/-- What is outside some words is outside fewer ones. -/
theorem Declaration.IsFree.mono {words fewer : List String} {d : Declaration} (h : d.IsFree words)
    (hwords : ∀ w ∈ fewer, w ∈ words) : d.IsFree fewer := by
  have hname : ∀ name : Value, name.IsFree words → name.IsFree fewer :=
    fun _ ⟨n, hn, hw⟩ => ⟨n, hn, fun hf => hw (hwords n hf)⟩
  exact ⟨hname _ h.name, fun m hm => hname _ (h.members m hm)⟩

/-- The items of an enumeration, and none of other declarations. -/
def Declaration.items (d : Declaration) : List String :=
  match d.body with
  | .enumeration items => items
  | _ => []

/-- A text that goes through words gives a free name. -/
theorem Label.isFree_renamed {words : List String}
    (h : ∀ w ∈ words, Identifier.isReserved w = false) {l : Label} (hl : ∃ n, l.name = .str n) :
    (l.renamed words).name.IsFree words := by
  obtain ⟨n, hn⟩ := hl
  have hs : l.name.str? = some n := by rw [hn]; rfl
  rw [renamed_of_str?_eq_some words hs]
  exact ⟨_, rfl, Identifier.escape_not_mem h n⟩

namespace Template

section Shown

variable {printer : CType.Printer} {words : List String}

/-- The text of a free name is none of the words. -/
theorem not_mem_of_nameText {name : Value} {text : String} (h : nameText name = .ok text)
    (hfree : name.IsFree words) : text ∉ words := by
  obtain ⟨n, rfl, hn⟩ := hfree
  cases h
  exact hn

/-- The texts of free names are none of the words. -/
theorem not_mem_of_isTextOf {members : List Member} {typed : List TypedName}
    (h : List.Forall₂ (IsTextOf printer) members typed)
    (hfree : ∀ m ∈ members, m.name.IsFree words) : ∀ m ∈ typed, m.2 ∉ words := by
  induction h with
  | nil => exact fun m hm => absurd hm List.not_mem_nil
  | cons ht _ ih =>
    obtain ⟨hfirst, hrest⟩ := List.forall_mem_cons.1 hfree
    exact List.forall_mem_cons.2 ⟨not_mem_of_nameText ht.2 hfirst, ih hrest⟩

end Shown

/-- The end of the name of a class that holds an imported function. -/
def CSharp.holderEnding : String := "Functions"

/-- The names that a part of a C# source declares in the code of a library, apart from items: an
imported function is declared in a class of its own. -/
def CSharp.Part.names (library : Option Library) : Part → List String
  | enumeration name _ => [name]
  | record _ name fields => name :: fields.map Prod.snd
  | imported _ _ name parameters =>
    ((library.map (·.name)).getD "Native" ++ holderEnding) :: name :: parameters.map Prod.snd

/-- The items that a part of a C# source declares. -/
def CSharp.Part.items : Part → List String
  | enumeration _ items => items
  | _ => []

/-- The names that a part of a C++/CLI header declares, apart from items. -/
def CppCli.Part.names : Part → List String
  | enumeration name _ => [name]
  | record name properties => name :: properties.map Prod.snd
  | function signature => signature.name :: signature.parameters.map Prod.snd

/-- The items that a part of a C++/CLI header declares. -/
def CppCli.Part.items : Part → List String
  | enumeration _ items => items
  | _ => []

/-- The names that a wrapper declares. -/
def CppCli.Wrapper.names (w : Wrapper) : List String := w.name :: w.arguments

section Parts

variable {printer : CType.Printer} {d : Declaration} {words : List String}

/-- The items in C# are those of the declaration. -/
theorem CSharp.Part.Shows.items {part : Part} (h : part.Shows printer d) :
    part.items = d.items := by
  unfold Declaration.items
  cases h with
  | enumeration hb _ | record hb _ _ | imported hb _ _ _ _ =>
    rw [hb]
    rfl

/-- The items in a header are those of the declaration. -/
theorem CppCli.Part.Shows.items {part : Part} (h : part.Shows printer d) :
    part.items = d.items := by
  unfold Declaration.items
  cases h with
  | enumeration hb _ | record hb _ _ | function hb _ =>
    rw [hb]
    rfl

variable (hd : d.IsFree words)

include hd

/-- The fields or parameters of a free declaration have free names. -/
theorem isFree_of_mem_members {body : Body} (hb : d.body = body) :
    ∀ m ∈ body.members, m.name.IsFree words := by
  have hm := hd.members
  rwa [Declaration.members, hb] at hm

/-- What shows a free declaration in C# declares none of the words, if none of them ends like a
class that holds a function. -/
theorem CSharp.Part.Shows.not_mem {part : Part} (h : part.Shows printer d)
    (hwords : ∀ w ∈ words, ¬ holderEnding.toList <:+ w.toList) (library : Option Library) :
    ∀ name ∈ part.names library, name ∉ words := by
  cases h with
  | enumeration hb hname => exact List.forall_mem_singleton.2 (not_mem_of_nameText hname hd.name)
  | record hb hname htyped =>
    have hfields := not_mem_of_isTextOf htyped fun m hm =>
      isFree_of_mem_members hd hb m (List.mem_filter.1 hm).1
    exact List.forall_mem_cons.2
      ⟨not_mem_of_nameText hname hd.name, List.forall_mem_map.2 hfields⟩
  | imported hb hentry hresult hname htyped =>
    have hparameters := not_mem_of_isTextOf htyped (isFree_of_mem_members hd hb)
    exact List.forall_mem_cons.2 ⟨Identifier.append_not_mem hwords _, List.forall_mem_cons.2
      ⟨not_mem_of_nameText hname hd.name, List.forall_mem_map.2 hparameters⟩⟩

/-- The signature of a free function has none of the words in it. -/
theorem CppCli.Signature.IsOf.not_mem {s : Signature} {result : CType} {parameters : List Member}
    (h : s.IsOf printer d.name result parameters) (hb : d.body = .function result parameters) :
    ∀ name ∈ s.name :: s.parameters.map Prod.snd, name ∉ words :=
  List.forall_mem_cons.2 ⟨not_mem_of_nameText h.name hd.name,
    List.forall_mem_map.2 (not_mem_of_isTextOf h.parameters (isFree_of_mem_members hd hb))⟩

/-- What shows a free declaration in a header declares none of the words. -/
theorem CppCli.Part.Shows.not_mem {part : Part} (h : part.Shows printer d) :
    ∀ name ∈ part.names, name ∉ words := by
  cases h with
  | enumeration hb hname => exact List.forall_mem_singleton.2 (not_mem_of_nameText hname hd.name)
  | record hb hname htyped =>
    have hfields := not_mem_of_isTextOf htyped fun m hm =>
      isFree_of_mem_members hd hb m (List.mem_filter.1 hm).1
    exact List.forall_mem_cons.2
      ⟨not_mem_of_nameText hname hd.name, List.forall_mem_map.2 hfields⟩
  | function hb hs => exact hs.not_mem hd hb

/-- What defines a free function in a source declares none of the words. -/
theorem CppCli.Wrapper.Defines.not_mem {w : Wrapper} (h : w.Defines printer d) :
    ∀ name ∈ w.names, name ∉ words := by
  obtain ⟨hb, hsignature, -, -, -⟩ := h
  exact hsignature.not_mem hd hb

end Parts

/-- What a template declares in a program: its text is a sheet for its units, and these are the
names in it and the items. A C++/CLI source has no items. -/
inductive Declares (p : Program) (t : Template) : List String → List String → Prop where
  /-- A C# source. -/
  | csharp {parts : List CSharp.Part} (hform : t.form.name = CSharp.form.name)
      (htext : t.text = .ok (CSharp.sheet (p.unitsAt t.positions) t.context parts))
      (hshows : List.Forall₂ (fun d (part : CSharp.Part) => part.Shows t.context.printer d)
        (t.declarations p) parts) :
      Declares p t (parts.flatMap (·.names t.context.library)) (parts.flatMap (·.items))
  /-- A C++/CLI header. -/
  | header {parts : List CppCli.Part} (hform : t.form.name = CppCli.header.name)
      (htext : t.text =
        .ok (CppCli.headerSheet (p.unitsAt t.positions) t.context.outputNamespace parts))
      (hshows : List.Forall₂ (fun d (part : CppCli.Part) => part.Shows t.context.printer d)
        (t.declarations p) parts) :
      Declares p t (parts.flatMap (·.names)) (parts.flatMap (·.items))
  /-- A C++/CLI source. -/
  | source {wrappers : List CppCli.Wrapper} (hform : t.form.name = CppCli.source.name)
      (htext : t.text = .ok (CppCli.sourceSheet CppCli.suffix (p.unitsAt t.positions)
        t.context.outputNamespace wrappers))
      (hdefines : List.Forall₂ (fun d (w : CppCli.Wrapper) => w.Defines t.context.printer d)
        ((t.declarations p).filter (·.isFunction)) wrappers) :
      Declares p t (wrappers.flatMap (·.names)) []

/-- What a shipped form makes of free declarations declares none of the words, items apart. The
items are those of the declarations, or none in a C++/CLI source. -/
theorem exists_declares {p : Program} {target : Target} {form : TemplateForm}
    (hform : form ∈ Backend.forms target) {positions : List Nat} {context : GenerationContext}
    {u : Template} (h : (make form positions context).process p = .ok u) {words : List String}
    (hfree : ∀ d ∈ declarationsOf (p.unitsAt positions), d.IsFree words)
    (hwords : ∀ w ∈ words, ¬ CSharp.holderEnding.toList <:+ w.toList) :
    u.positions = positions ∧ ∃ names items, u.Declares p names items ∧
      (∀ name ∈ names, name ∉ words) ∧
      items = if u.form.name = CppCli.source.name then []
        else (declarationsOf (p.unitsAt positions)).flatMap (·.items) := by
  obtain ⟨text, htext, hrender⟩ := text_process h
  have hu := process_eq_ok h
  obtain ⟨form', positions', context', text?⟩ := u
  cases hu
  refine ⟨rfl, ?_⟩
  cases target with
  | csharp =>
    cases List.mem_singleton.1 hform
    obtain ⟨parts, rfl, hparts⟩ := CSharp.exists_sheet hrender
    refine ⟨_, _, .csharp rfl htext hparts, ?_, flatMap_eq_of_forall₂ (fun _ _ h => h.items) hparts⟩
    exact List.forall_mem_flatMap.2 <|
      forall_mem_of_forall₂ (fun _ _ h hd => h.not_mem hd hwords _) hparts hfree
  | cppCli =>
    rcases List.mem_cons.1 hform with rfl | hform
    · obtain ⟨parts, rfl, hparts⟩ := CppCli.exists_headerSheet hrender
      refine ⟨_, _, .header rfl htext hparts, ?_,
        flatMap_eq_of_forall₂ (fun _ _ h => h.items) hparts⟩
      exact List.forall_mem_flatMap.2 <|
        forall_mem_of_forall₂ (fun _ _ h hd => h.not_mem hd) hparts hfree
    · cases List.mem_singleton.1 hform
      obtain ⟨wrappers, rfl, hwrappers⟩ := CppCli.exists_sourceSheet hrender
      refine ⟨_, _, .source rfl htext hwrappers, ?_, rfl⟩
      exact List.forall_mem_flatMap.2 <|
        forall_mem_of_forall₂ (fun _ _ h hd => h.not_mem hd) hwrappers
          fun d hd => hfree d (List.mem_filter.1 hd).1

end Template

section Settled

variable {passes : List Pass}

/-- Passes leave the items of enumerations as they are. -/
theorem Declaration.items_settled (d : Declaration) : (d.settled passes).items = d.items := by
  obtain ⟨label, body⟩ := d
  cases body <;> rfl

/-- Passes leave a declaration whose names are texts under free names. -/
theorem Declaration.isFree_settled (hpasses : ∀ pass ∈ passes, pass.IsProper) {d : Declaration}
    (hname : ∃ n, d.name = .str n) (hmembers : ∀ m ∈ d.members, ∃ n, m.name = .str n) :
    (d.settled passes).IsFree (Pass.allWords passes) := by
  have hreserved := Pass.isReserved_of_mem_allWords hpasses
  have hlist : (d.settled passes).members = d.members.map (·.renamed (Pass.allWords passes)) :=
    Pass.members_renamed ..
  refine ⟨Label.isFree_renamed hreserved hname, fun m hm => ?_⟩
  rw [hlist] at hm
  obtain ⟨m', hm', rfl⟩ := List.mem_map.1 hm
  exact Label.isFree_renamed hreserved (hmembers m' hm')

/-- Of a unit of the program itself, passes one of which hides leave to be generated what is to be
generated under a name. -/
theorem SourceUnit.generatedDeclarations_settled (hhides : passes.any Pass.hidesUnnamed = true)
    {u : SourceUnit} (hsystem : u.isSystemHeader = false) :
    (u.settled passes).generatedDeclarations =
      (u.declarations.filter (·.isShown)).map (·.settled passes) := by
  have hshown : ∀ d ∈ u.declarations, (d.settled passes).isGenerated = d.isShown := by
    intro d _
    change (d.isGenerated && !(passes.any Pass.hidesUnnamed && d.name.str? == some "")) = _
    rw [hhides]
    rfl
  unfold settled generatedDeclarations
  rw [if_neg (ne_true_of_eq_false hsystem), List.filter_map]
  exact congrArg (List.map _) (List.filter_congr hshown)

/-- Passes do not change whether a unit has output of its own. -/
theorem SourceUnit.isEligible_settled (u : SourceUnit) :
    (u.settled passes).isEligible = u.isEligible := by
  unfold settled
  split
  · rfl
  · unfold isEligible
    dsimp only
    rw [List.isEmpty_map]

/-- The units of a changed program at some positions are the changed units at these positions. -/
theorem Program.unitsAt_mapUnits (change : SourceUnit → SourceUnit) (p : Program)
    (positions : List Nat) :
    (p.mapUnits change).unitsAt positions = (p.unitsAt positions).map change := by
  unfold unitsAt
  rw [units_mapUnits, List.map_filterMap]
  exact List.filterMap_congr fun position _ => List.getElem?_map

/-- Of some units with output of their own, passes one of which hides leave to be generated what is
to be generated under a name. -/
theorem Template.declarationsOf_settled (hhides : passes.any Pass.hidesUnnamed = true)
    {units : List SourceUnit} (h : ∀ u ∈ units, u.isEligible = true) :
    declarationsOf (units.map (·.settled passes)) =
      units.flatMap fun u => (u.declarations.filter (·.isShown)).map (·.settled passes) := by
  unfold declarationsOf
  rw [List.flatMap_map]
  exact List.flatMap_congr fun u hu => SourceUnit.generatedDeclarations_settled hhides
    (SourceUnit.isSystemHeader_of_isEligible (h u hu))

end Settled

/-- Whatever a shipped backend yields on a request has one of its forms, and is for units with
output of their own. -/
theorem Backend.exists_make_of_templates {target : Target} {o : Options} {p : Program}
    {units : List PlacedUnit} {context : GenerationContext} {t : Template}
    (hask : p.MayAsk ((ofTarget target).layout o) units)
    (ht : t ∈ (ofTarget target).templates ((ofTarget target).layout o) units context) :
    ∃ form ∈ forms target, ∃ positions, t = .make form positions context ∧
      ∀ u ∈ p.unitsAt positions, u.isEligible = true := by
  cases target with
  | csharp =>
    have hplaced : p.unitsAt (positions (units.filter (·.2.isEligible))) =
        (units.filter (·.2.isEligible)).map Prod.snd :=
      Program.unitsAt_map_fst fun u hu => hask.placed u (List.mem_filter.1 hu).1
    have ht' : t ∈ [Template.make Template.CSharp.form
        (positions (units.filter (·.2.isEligible))) context] := by
      change t ∈ csharpTemplates _ units context at ht
      unfold csharpTemplates at ht
      dsimp only at ht
      split at ht
      · exact ht
      · cases ht
    refine ⟨_, List.mem_singleton.2 rfl, _, List.mem_singleton.1 ht', fun u hu => ?_⟩
    rw [hplaced] at hu
    obtain ⟨v, hv, rfl⟩ := List.mem_map.1 hu
    exact (List.mem_filter.1 hv).2
  | cppCli =>
    have hplaced : p.unitsAt (positions units) = units.map Prod.snd :=
      Program.unitsAt_map_fst hask.placed
    have heligible : ∀ u ∈ p.unitsAt (positions units), u.isEligible = true := by
      rw [hplaced]
      exact List.forall_mem_map.2 (hask.eligible rfl)
    change t ∈ cppCliTemplates ((ofTarget .cppCli).layout o) units context at ht
    unfold cppCliTemplates at ht
    split at ht
    · rcases List.mem_cons.1 ht with rfl | ht
      · exact ⟨_, List.mem_cons_self, _, rfl, heligible⟩
      · rw [List.mem_singleton] at ht
        exact ⟨_, List.mem_cons_of_mem _ List.mem_cons_self, _, ht, heligible⟩
    · cases ht

namespace Backend

/-- No reserved word ends like a class that holds an imported function. -/
theorem not_suffix_of_mem_ofTarget (target : Target) :
    ∀ w ∈ Keywords.ofTarget target, ¬ Template.CSharp.holderEnding.toList <:+ w.toList := by
  cases target <;> decide +kernel

end Backend

section Runs

variable {notify : Output → Action Unit} {s t : Session} {outputs : List Output}
  (hpasses : ∀ e ∈ s.passes, e.pass.IsProper)
  (hnames : ∀ u ∈ s.program.units, u.isSystemHeader = false → u.HasTextNames)

include hpasses hnames

/-- A run that returns leaves the program that all passes together leave. -/
theorem program_of_run_ok {target : Target} (hground : ∀ o, Action.Keeps Session.ground (notify o))
    (h : run (.ofTarget target) notify s = (.ok outputs, t)) :
    t.program = (passed (.ofTarget target) s).result.2 ∧
      t.program = s.program.mapUnits
        (·.settled (s.passes.map (·.pass) ++ (Backend.ofTarget target).passes)) := by
  obtain ⟨hsetup, hpassed⟩ := passed_of_run_ok _ notify s (congrArg Prod.fst h)
  have hleft := ground_run hground hsetup hpassed
  rw [h] at hleft
  have hprogram : t.program = (passed (.ofTarget target) s).result.2 :=
    congrArg Ground.program hleft
  have hmap := PassEntry.map_pass_append_fresh s.passes (Backend.ofTarget target).passes
  have hsettled := (PassEntry.runAll_eq_settled
    (s.passes ++ (Backend.ofTarget target).passes.map .fresh)
    (hmap.symm ▸ isProper_of_mem_append hpasses target) hnames).1
  rw [hmap] at hsettled
  exact ⟨hprogram, hprogram.trans hsettled⟩

/-- In every output of a run of a shipped backend that returns, the text of every template is a
sheet for units of the program that it leaves, and what it declares is no reserved word of the
target language, items of enumerations apart. The items are those that were given, reserved or not.
This holds before every onlooker who does not touch the ground, after any passes that only hide and
rename, and for every program whose names are texts. -/
theorem runTarget_shipped_declares (hnotify : Observer notify)
    (hground : ∀ o, Action.Keeps Session.ground (notify o))
    (h : runTarget .shipped notify s = (.ok outputs, t)) :
    ∀ o ∈ outputs, ∀ u ∈ o.templates, ∃ names items, u.Declares t.program names items ∧
      (∀ name ∈ names, name ∉ Keywords.ofTarget s.options.target) ∧
      items = if u.form.name = Template.CppCli.source.name then []
        else (s.program.unitsAt u.positions).flatMap fun v =>
          (v.declarations.filter (·.isShown)).flatMap (·.items) := by
  rw [Backend.runTarget_shipped] at h
  obtain ⟨hprogram, hsettled⟩ := program_of_run_ok hpasses hnames hground h
  have hproper := isProper_of_mem_append hpasses s.options.target
  have houtcome := outcome_of_run_ok hnotify h
  rw [← hprogram] at houtcome
  have hhides : (s.passes.map (·.pass) ++ (Backend.ofTarget s.options.target).passes).any
      Pass.hidesUnnamed = true := by
    rw [Backend.passes_ofTarget, List.any_append]
    exact Bool.or_true _
  have hwords : ∀ w ∈ Keywords.ofTarget s.options.target, w ∈ Pass.allWords
      (s.passes.map (·.pass) ++ (Backend.ofTarget s.options.target).passes) := by
    intro w hw
    rw [Backend.passes_ofTarget]
    exact List.mem_flatMap.2 ⟨.renameReserved (Keywords.ofTarget s.options.target), by simp, hw⟩
  intro o ho u hu
  obtain ⟨units, context, hask, -, hmade⟩ := yields_of_outcome_generation houtcome o ho
  obtain ⟨made, hmem, hprocess⟩ := forall_mem_of_forall₂
    (Q := fun u => ∃ made ∈ _, Template.process t.program made = .ok u)
    (fun made u hu hmem => ⟨made, hmem, hu⟩) hmade (fun _ h => h) u hu
  obtain ⟨form, hform, positions, rfl, heligible⟩ := Backend.exists_make_of_templates hask hmem
  rw [hsettled, Program.unitsAt_mapUnits] at heligible
  have hgiven : ∀ v ∈ s.program.unitsAt positions, v.isEligible = true := fun v hv =>
    (SourceUnit.isEligible_settled v).symm.trans (heligible _ (List.mem_map_of_mem hv))
  have hdeclarations := Template.declarationsOf_settled hhides hgiven
  rw [← Program.unitsAt_mapUnits, ← hsettled] at hdeclarations
  have hfree : ∀ d ∈ Template.declarationsOf (t.program.unitsAt positions),
      d.IsFree (Keywords.ofTarget s.options.target) := by
    intro d hd
    rw [hdeclarations] at hd
    obtain ⟨v, hv, hd⟩ := List.mem_flatMap.1 hd
    obtain ⟨e, he, rfl⟩ := List.mem_map.1 hd
    obtain ⟨hname, hmembers⟩ := hnames v (Program.mem_units_of_mem_unitsAt hv)
      (SourceUnit.isSystemHeader_of_isEligible (hgiven v hv)) e (List.mem_filter.1 he).1
    exact (Declaration.isFree_settled hproper hname hmembers).mono hwords
  obtain ⟨rfl, names, items, hdeclares, hnot, hitems⟩ := Template.exists_declares hform hprocess
    hfree (Backend.not_suffix_of_mem_ofTarget s.options.target)
  refine ⟨names, items, hdeclares, hnot, hitems.trans ?_⟩
  rw [hdeclarations, List.flatMap_assoc]
  simp only [List.flatMap_map, Declaration.items_settled]

end Runs

/-- A session over a unit with a record, a function and an enumeration. The record and the function
have reserved words of C# as their names, and so has an item of the enumeration. -/
def reservedSession : Session :=
  .start ⟨.csharp, false, none, .fail⟩ (.ofModules [.ofUnits ⟨"Core", none⟩
    [{ SourceUnit.ofReserved "core/event.h" with
      declarations := (SourceUnit.ofReserved "core/event.h").declarations ++
        [{ Label.named (.str "Kind") true with body := .enumeration ["event", "other"] }] }]])

/-- In this session the one text declares no reserved word as a name, but one as an item. -/
theorem runTarget_shipped_declares_event :
    Observer (fun _ => pure ()) ∧ (∀ e ∈ reservedSession.passes, e.pass.IsProper) ∧
    (∀ u ∈ reservedSession.program.units, u.isSystemHeader = false → u.HasTextNames) ∧
    ∃ outputs t, runTarget .shipped (fun _ => pure ()) reservedSession = (.ok outputs, t) ∧
      ∃ o ∈ outputs, ∃ u ∈ o.templates, ∃ names, u.Declares t.program names ["event", "other"] ∧
        (∀ name ∈ names, name ∉ Keywords.csharp) ∧ "event" ∈ Keywords.csharp := by
  have hpasses : ∀ e ∈ reservedSession.passes, e.pass.IsProper := nofun
  have hplain : reservedSession.program.IsPlain := by decide +kernel
  have hnames : ∀ u ∈ reservedSession.program.units, u.isSystemHeader = false →
      u.HasTextNames := fun u hu _ => (hplain u hu).hasTextNames
  have hrun : (runTarget .shipped (fun _ => pure ()) reservedSession).1.toOption.map
      (·.map fun o => o.templates.map fun u => (u.form.name, u.positions)) =
        some [[(Template.CSharp.form.name, [0])]] := by decide +kernel
  rcases h : runTarget .shipped (fun _ => pure ()) reservedSession with ⟨_ | outputs, t⟩
  · rw [h] at hrun
    cases hrun
  · rw [h] at hrun
    obtain ⟨o, rfl, ho⟩ := List.map_eq_singleton_iff.1 (Option.some.inj hrun)
    obtain ⟨u, hu, hform⟩ := List.map_eq_singleton_iff.1 ho
    have hmem : u ∈ o.templates := hu ▸ List.mem_singleton_self u
    obtain ⟨names, items, hdeclares, hnot, hitems⟩ := runTarget_shipped_declares hpasses hnames
      observer_ignore (fun _ _ => rfl) h o (List.mem_singleton_self o) u hmem
    have hname : u.form.name = Template.CSharp.form.name := congrArg Prod.fst hform
    have hpositions : u.positions = [0] := congrArg Prod.snd hform
    rw [hname, hpositions] at hitems
    rw [hitems] at hdeclares
    exact ⟨observer_ignore, hpasses, hnames, [o], t, rfl, o, List.mem_singleton_self o, u, hmem,
      names, hdeclares, hnot, by decide⟩

end Interop
