import Interop.Pass

/-!
# What passes do to plain programs

A program is plain if all names in it are texts and all types are complete. The passes that backends
need go through a plain program without stopping, and act on every declaration by itself: what such
a pass does to a program is a function of each unit alone. Renaming and hiding leave a plain program
plain, and touch nothing of a unit but names and flags of its declarations.
-/

namespace Interop

/-- A label whose two names are texts. -/
def Label.IsNamed (l : Label) : Prop := (∃ n, l.name = .str n) ∧ ∃ n, l.nativeName = .str n

/-- A value that is read as a text is one. -/
theorem Value.isSome_str?_iff {v : Value} : v.str?.isSome = true ↔ ∃ n, v = .str n := by
  unfold str?
  split
  · rename_i n
    exact ⟨fun _ => ⟨n, rfl⟩, fun _ => rfl⟩
  · rename_i hv
    exact ⟨fun h => (nomatch h), fun ⟨n, hn⟩ => absurd hn (hv n)⟩

instance (l : Label) : Decidable l.IsNamed :=
  decidable_of_iff (l.name.str?.isSome = true ∧ l.nativeName.str?.isSome = true)
    (and_congr Value.isSome_str?_iff Value.isSome_str?_iff)

/-- Members whose names are texts and whose types are complete. -/
def PlainMembers (members : List Member) : Prop :=
  ∀ m ∈ members, m.toLabel.IsNamed ∧ m.type.IsComplete

instance (members : List Member) : Decidable (PlainMembers members) :=
  inferInstanceAs (Decidable (∀ m ∈ members, m.toLabel.IsNamed ∧ m.type.IsComplete))

/-- The type of what a function gives back. -/
def Body.result? : Body → Option CType
  | function result _ => some result
  | _ => none

/-- Other members do not change what is given back. -/
theorem Body.result?_withMembers (members : List Member) (body : Body) :
    (body.withMembers members).result? = body.result? := by
  cases body <;> rfl

/-- A declaration whose names are texts and whose types are complete. -/
structure Declaration.IsPlain (d : Declaration) : Prop where
  /-- Its own names are texts. -/
  label : d.toLabel.IsNamed
  /-- Its members have texts as names, and complete types. -/
  members : PlainMembers d.members
  /-- What a function gives back has a complete type. -/
  result : ∀ r ∈ d.body.result?, r.IsComplete

instance (d : Declaration) : Decidable d.IsPlain :=
  decidable_of_iff (d.toLabel.IsNamed ∧ PlainMembers d.members ∧
    ∀ r ∈ d.body.result?, r.IsComplete)
    ⟨fun ⟨hl, hm, hr⟩ => ⟨hl, hm, hr⟩, fun h => ⟨h.label, h.members, h.result⟩⟩

/-- A unit all of whose declarations are plain. -/
def SourceUnit.IsPlain (u : SourceUnit) : Prop := ∀ d ∈ u.declarations, d.IsPlain

/-- A program all of whose units are plain. -/
def Program.IsPlain (p : Program) : Prop := ∀ u ∈ p.units, u.IsPlain

instance (u : SourceUnit) : Decidable u.IsPlain :=
  inferInstanceAs (Decidable (∀ d ∈ u.declarations, d.IsPlain))

instance (p : Program) : Decidable p.IsPlain :=
  inferInstanceAs (Decidable (∀ u ∈ p.units, u.IsPlain))

/-- The program with every unit changed by itself. -/
def Program.mapUnits (change : SourceUnit → SourceUnit) (p : Program) : Program :=
  ⟨p.modules.map fun m => { m with units := m.units.map change }, p.loose.map change⟩

/-- The units of a changed program are the changed units. -/
theorem Program.units_mapUnits (change : SourceUnit → SourceUnit) (p : Program) :
    (p.mapUnits change).units = p.units.map change := by
  unfold Program.mapUnits Program.units
  dsimp only
  rw [List.flatMap_map, List.map_append, List.map_flatMap]

/-- Two changes of units are one. -/
theorem Program.mapUnits_mapUnits (first second : SourceUnit → SourceUnit) (p : Program) :
    (p.mapUnits first).mapUnits second = p.mapUnits fun u => second (first u) := by
  unfold Program.mapUnits
  simp only [List.map_map, Function.comp_def]

/-- Changing no unit changes nothing. -/
theorem Program.mapUnits_id (p : Program) : p.mapUnits (fun u => u) = p := by
  unfold Program.mapUnits
  simp only [List.map_id']

/-- Changes that agree on the units of a program change it alike. -/
theorem Program.mapUnits_congr {p : Program} {first second : SourceUnit → SourceUnit}
    (h : ∀ u ∈ p.units, first u = second u) : p.mapUnits first = p.mapUnits second := by
  have hmodules : ∀ m ∈ p.modules, m.units.map first = m.units.map second := fun m hm =>
    List.map_congr_left fun u hu =>
      h u (List.mem_append_left _ (List.mem_flatMap.2 ⟨m, hm, hu⟩))
  have hloose : p.loose.map first = p.loose.map second :=
    List.map_congr_left fun u hu => h u (List.mem_append_right _ hu)
  unfold mapUnits
  rw [hloose, List.map_congr_left fun m hm =>
    congrArg (fun units => { m with units := units }) (hmodules m hm)]

/-- A change that leaves plain units plain leaves a plain program plain. -/
theorem Program.IsPlain.mapUnits {p : Program} (hp : p.IsPlain) {change : SourceUnit → SourceUnit}
    (h : ∀ u : SourceUnit, u.IsPlain → (change u).IsPlain) : (p.mapUnits change).IsPlain := by
  intro u hu
  rw [Program.units_mapUnits] at hu
  obtain ⟨v, hv, rfl⟩ := List.mem_map.1 hu
  exact h v (hp v hv)

namespace Visit

variable {α β γ : Type}

/-- If the first visit does not stop, the second one is made and decides whether both do. -/
theorem both_of_not_stopped (combine : α → β → γ) {first : Visit α}
    (h : first.stopped = false) (unvisited : β) (second : Unit → Visit β) :
    (both combine first unvisited second).result = combine first.result (second ()).result ∧
      (both combine first unvisited second).stopped = (second ()).stopped := by
  unfold both
  rw [h]
  exact ⟨rfl, rfl⟩

/-- What no visit of a member changes, a visit of a list leaves as it is, wherever it stops. -/
theorem map_result_list (view : α → β) {visit : α → Visit α}
    (h : ∀ a, view (visit a).result = view a) (l : List α) :
    (list visit l).result.map view = l.map view := by
  induction l with
  | nil => rfl
  | cons a rest ih =>
    rw [list, both]
    split
    · exact congrArg (· :: rest.map view) (h a)
    · exact (congrArg (· :: _) (h a)).trans (congrArg (view a :: ·) ih)

/-- If no member of a list stops a visit, all members are visited. -/
theorem list_of_not_stopped (visit : α → Visit α) (l : List α)
    (h : ∀ a ∈ l, (visit a).stopped = false) :
    (list visit l).result = l.map (fun a => (visit a).result) ∧
      (list visit l).stopped = false := by
  induction l with
  | nil => exact ⟨rfl, rfl⟩
  | cons a rest ih =>
    have hr := ih fun b hb => h b (List.mem_cons_of_mem a hb)
    have hb := both_of_not_stopped List.cons (h a List.mem_cons_self) rest
      fun _ => list visit rest
    rw [list, hb.1, hb.2, hr.1, hr.2]
    exact ⟨rfl, rfl⟩

end Visit

/-- Whether a name can be looked up among words. Lists and mappings cannot. -/
def Value.IsKey : Value → Prop
  | scalar _ | set _ => True
  | _ => False

/-- The name of a label with texts as names can be looked up. -/
theorem Label.IsNamed.isKey {l : Label} (h : l.IsNamed) : l.name.IsKey := by
  obtain ⟨⟨n, hn⟩, -⟩ := h
  rw [hn]
  exact trivial

/-- A declaration whose own name and whose members' names can be looked up. -/
structure Declaration.HasKeys (d : Declaration) : Prop where
  /-- Its own name can be looked up. -/
  name : d.name.IsKey
  /-- The names of its members can be looked up. -/
  members : ∀ m ∈ d.members, m.name.IsKey

/-- The names of a plain declaration can be looked up. -/
theorem Declaration.IsPlain.hasKeys {d : Declaration} (h : d.IsPlain) : d.HasKeys :=
  ⟨h.label.isKey, fun m hm => (h.members m hm).1.isKey⟩

/-- A unit of the program itself can have its names looked up. In a file of the system nobody looks
for names. -/
def SourceUnit.HasKeys (u : SourceUnit) : Prop :=
  u.isSystemHeader = false → ∀ d ∈ u.declarations, d.HasKeys

/-- A unit in which all names are texts. -/
def SourceUnit.HasTextNames (u : SourceUnit) : Prop :=
  ∀ d ∈ u.declarations, (∃ n, d.name = .str n) ∧ ∀ m ∈ d.members, ∃ n, m.name = .str n

/-- A program in which renaming can look up all names that it meets. -/
def Program.HasKeys (p : Program) : Prop := ∀ u ∈ p.units, u.HasKeys

/-- The names of a plain program can be looked up. -/
theorem Program.IsPlain.hasKeys {p : Program} (h : p.IsPlain) : p.HasKeys :=
  fun u hu _ d hd => (h u hu d hd).hasKeys

/-- A label with a made-up name in place of a reserved word. -/
def Label.renamed (words : List String) (l : Label) : Label :=
  match l.name with
  | .str n => { l with name := .str (if words.contains n then Identifier.reserve n else n) }
  | _ => l

/-- Renaming leaves a label with texts as names. -/
theorem Label.IsNamed.renamed {l : Label} (h : l.IsNamed) (words : List String) :
    (l.renamed words).IsNamed := by
  obtain ⟨⟨n, hn⟩, hk⟩ := h
  unfold Label.renamed
  rw [hn]
  exact ⟨⟨_, rfl⟩, hk⟩

/-- A member with a made-up name in place of a reserved word. -/
def Member.renamed (words : List String) (m : Member) : Member :=
  { m with toLabel := m.toLabel.renamed words }

/-- A declaration with made-up names in place of reserved words, members included. -/
def Declaration.renamed (words : List String) (d : Declaration) : Declaration :=
  { toLabel := d.toLabel.renamed words
    body := d.body.withMembers (d.members.map (·.renamed words)) }

/-- A declaration that is not generated if it has no name. -/
def Declaration.hidden (d : Declaration) : Declaration :=
  { d with isGenerated := d.isGenerated && d.name.isTruthy }

namespace Pass

/-- Whether a pass is one of those that backends need. -/
def IsBuiltIn : Pass → Prop
  | custom .. => False
  | _ => True

/-- What a pass does to a declaration of the program. -/
def onDeclaration : Pass → Declaration → Declaration
  | ignoreUnnamed, d => d.hidden
  | renameReserved words, d => d.renamed words
  | custom .., d => d

/-- What a pass does to a unit: files of the system are left alone. -/
def onUnit (pass : Pass) (u : SourceUnit) : SourceUnit :=
  if u.isSystemHeader then u
  else { u with declarations := u.declarations.map pass.onDeclaration }

/-- What passes do to a unit, one after the other. -/
def onUnitAll (passes : List Pass) (u : SourceUnit) : SourceUnit :=
  passes.foldl (fun v pass => pass.onUnit v) u

/-- Renaming a label whose name can be looked up does not stop. Where nothing is renamed, the label
with its own name put in is the label itself. -/
theorem renameLabel_of_isKey (words : List String) (filePath : String) {l : Label}
    (h : l.name.IsKey) :
    (renameLabel words filePath l).result = l.renamed words ∧
      (renameLabel words filePath l).stopped = false := by
  obtain ⟨name, nativeName, isGenerated⟩ := l
  unfold renameLabel Label.renamed
  dsimp only at h ⊢
  cases name with
  | scalar key =>
    cases key with
    | str n =>
      dsimp only
      cases words.contains n <;> exact ⟨rfl, rfl⟩
    | _ => exact ⟨rfl, rfl⟩
  | set members => exact ⟨rfl, rfl⟩
  | _ => exact h.elim

/-- Renaming a declaration whose names can be looked up does not stop. -/
theorem renameDeclaration_of_hasKeys (words : List String) (filePath : String) {d : Declaration}
    (h : d.HasKeys) :
    (renameDeclaration words filePath d).result = d.renamed words ∧
      (renameDeclaration words filePath d).stopped = false := by
  have hl := renameLabel_of_isKey words filePath h.name
  have hm := Visit.list_of_not_stopped (renameMember words filePath) d.members
    fun m hm => (renameLabel_of_isKey words filePath (h.members m hm)).2
  have hmembers : d.members.map (fun m => (renameMember words filePath m).result) =
      d.members.map (·.renamed words) := by
    apply List.map_congr_left
    intro m hm
    have hr := (renameLabel_of_isKey words filePath (h.members m hm)).1
    exact congrArg (fun l => { m with toLabel := l }) hr
  have hb := Visit.both_of_not_stopped
    (fun l members => ({ toLabel := l, body := d.body.withMembers members } : Declaration))
    hl.2 d.members fun _ => Visit.list (renameMember words filePath) d.members
  unfold renameDeclaration
  rw [hb.1, hb.2, hm.1, hm.2, hl.1, hmembers]
  exact ⟨rfl, rfl⟩

/-- Hiding never stops. -/
theorem hideUnnamed_eq (filePath : String) (d : Declaration) :
    (hideUnnamed filePath d).result = d.hidden ∧ (hideUnnamed filePath d).stopped = false := by
  obtain ⟨⟨name, nativeName, isGenerated⟩, body⟩ := d
  unfold hideUnnamed Declaration.hidden
  dsimp only
  cases ht : name.isTruthy <;> cases isGenerated <;> exact ⟨rfl, rfl⟩

/-- A pass that visits the declarations of a unit goes through it, declaration by declaration, if
it stops at none. -/
theorem visit_of_visitDeclarations {pass : Pass} {u : SourceUnit}
    (visitDeclaration : Declaration → Visit Declaration)
    (hvisit : pass.visitUnit u = visitDeclarations visitDeclaration u)
    (h : u.isSystemHeader = false → ∀ d ∈ u.declarations,
      (visitDeclaration d).result = pass.onDeclaration d ∧
        (visitDeclaration d).stopped = false) :
    (pass.visit u).result = pass.onUnit u ∧ (pass.visit u).stopped = false := by
  unfold visit onUnit
  by_cases hs : u.isSystemHeader = true
  · rw [if_pos hs, if_pos hs]
    exact ⟨rfl, rfl⟩
  · have hd := h (Bool.eq_false_iff.2 hs)
    have hlist := Visit.list_of_not_stopped visitDeclaration u.declarations fun d hm => (hd d hm).2
    have hmap := List.map_congr_left fun d hm => (hd d hm).1
    rw [if_neg hs, if_neg hs, hvisit]
    exact ⟨congrArg (fun ds => { u with declarations := ds }) (hlist.1.trans hmap), hlist.2⟩

/-- Renaming goes through a unit whose names can be looked up. -/
theorem visit_renameReserved (words : List String) {u : SourceUnit} (h : u.HasKeys) :
    ((renameReserved words).visit u).result = (renameReserved words).onUnit u ∧
      ((renameReserved words).visit u).stopped = false :=
  visit_of_visitDeclarations _ rfl fun hs d hd =>
    renameDeclaration_of_hasKeys words u.filePath (h hs d hd)

/-- A pass that a backend needs goes through a unit whose names can be looked up, declaration by
declaration. -/
theorem visit_of_hasKeys {pass : Pass} (hb : pass.IsBuiltIn) {u : SourceUnit} (hu : u.HasKeys) :
    (pass.visit u).result = pass.onUnit u ∧ (pass.visit u).stopped = false := by
  cases pass with
  | ignoreUnnamed =>
    exact visit_of_visitDeclarations _ rfl fun _ d _ => hideUnnamed_eq u.filePath d
  | renameReserved words => exact visit_renameReserved words hu
  | custom name visit => exact hb.elim

/-- Whatever a pass does to a unit, it touches the declarations alone. -/
theorem onUnit_eq (pass : Pass) (u : SourceUnit) :
    ∃ f : Declaration → Declaration,
      pass.onUnit u = { u with declarations := u.declarations.map f } := by
  unfold onUnit
  split
  · exact ⟨id, by rw [List.map_id]⟩
  · exact ⟨pass.onDeclaration, rfl⟩

/-- A renamed label has a name that can be looked up if the label has. -/
theorem isKey_renamed (words : List String) {l : Label} (h : l.name.IsKey) :
    (l.renamed words).name.IsKey := by
  unfold Label.renamed
  split
  · exact trivial
  · exact h

/-- The members of a renamed declaration are the renamed members. -/
theorem members_renamed (words : List String) (d : Declaration) :
    (d.renamed words).members = d.members.map (·.renamed words) := by
  obtain ⟨label, body⟩ := d
  cases body <;> rfl

/-- Renaming neither hides nor shows a declaration. -/
theorem isGenerated_renamed (words : List String) (d : Declaration) :
    (d.renamed words).isGenerated = d.isGenerated := by
  change (d.toLabel.renamed words).isGenerated = _
  unfold Label.renamed
  split <;> rfl

/-- What a pass does to a declaration leaves names that can be looked up. -/
theorem hasKeys_onDeclaration (pass : Pass) {d : Declaration} (h : d.HasKeys) :
    (pass.onDeclaration d).HasKeys := by
  cases pass with
  | ignoreUnnamed => exact ⟨h.name, h.members⟩
  | custom name visit => exact h
  | renameReserved words =>
    refine ⟨isKey_renamed words h.name, fun m hm => ?_⟩
    obtain ⟨k, hk, rfl⟩ := List.mem_map.1 (members_renamed words d ▸ hm)
    exact isKey_renamed words (h.members k hk)

/-- A renamed plain declaration is plain. -/
theorem isPlain_renamed {words : List String} {d : Declaration} (h : d.IsPlain) :
    (d.renamed words).IsPlain := by
  refine ⟨h.label.renamed words, fun m hm => ?_, ?_⟩
  · obtain ⟨k, hk, rfl⟩ := List.mem_map.1 (members_renamed words d ▸ hm)
    exact ⟨(h.members k hk).1.renamed words, (h.members k hk).2⟩
  · rw [Declaration.renamed, Body.result?_withMembers]
    exact h.result

/-- What a pass does to a plain declaration leaves it plain. -/
theorem isPlain_onDeclaration (pass : Pass) {d : Declaration} (h : d.IsPlain) :
    (pass.onDeclaration d).IsPlain := by
  cases pass with
  | ignoreUnnamed => exact ⟨h.label, h.members, h.result⟩
  | renameReserved words => exact isPlain_renamed h
  | custom name visit => exact h

/-- What a pass does to a plain unit leaves it plain. -/
theorem isPlain_onUnit (pass : Pass) {u : SourceUnit} (h : u.IsPlain) :
    (pass.onUnit u).IsPlain := by
  unfold onUnit
  split
  · exact h
  · intro d hd
    obtain ⟨e, he, rfl⟩ := List.mem_map.1 hd
    exact isPlain_onDeclaration pass (h e he)

/-- What passes do to a plain unit leaves it plain. -/
theorem isPlain_onUnitAll (passes : List Pass) {u : SourceUnit} (h : u.IsPlain) :
    (onUnitAll passes u).IsPlain := by
  induction passes generalizing u with
  | nil => exact h
  | cons pass more ih => exact ih (isPlain_onUnit pass h)

/-- A pass that goes through every unit goes through a program, unit by unit. -/
theorem run_of_visit {pass : Pass} {p : Program} (h : ∀ u ∈ p.units,
      (pass.visit u).result = pass.onUnit u ∧ (pass.visit u).stopped = false) :
    (pass.run p).result = p.mapUnits pass.onUnit ∧ (pass.run p).stopped = false := by
  have hunits : ∀ us : List SourceUnit, (∀ u ∈ us, u ∈ p.units) →
      (Visit.list pass.visit us).result = us.map pass.onUnit ∧
        (Visit.list pass.visit us).stopped = false := by
    intro us hus
    have hlist := Visit.list_of_not_stopped pass.visit us fun u hu => (h u (hus u hu)).2
    exact ⟨hlist.1.trans (List.map_congr_left fun u hu => (h u (hus u hu)).1), hlist.2⟩
  have hmodule : ∀ m ∈ p.modules, ∀ u ∈ m.units, u ∈ p.units := fun m hm u hu =>
    List.mem_append_left _ (List.mem_flatMap.2 ⟨m, hm, hu⟩)
  have hloose := hunits p.loose fun u hu => List.mem_append_right _ hu
  have hmodules := Visit.list_of_not_stopped
    (fun m : Module => (Visit.list pass.visit m.units).map fun units => { m with units := units })
    p.modules fun m hm => (hunits m.units (hmodule m hm)).2
  have hmap : p.modules.map (fun m : Module => ((Visit.list pass.visit m.units).map
      fun units => { m with units := units }).result) =
      p.modules.map fun m => { m with units := m.units.map pass.onUnit } := by
    apply List.map_congr_left
    intro m hm
    exact congrArg (fun units => { m with units := units }) (hunits m.units (hmodule m hm)).1
  have hboth := Visit.both_of_not_stopped (fun modules loose => (⟨modules, loose⟩ : Program))
    hmodules.2 p.loose fun _ => Visit.list pass.visit p.loose
  unfold run
  rw [hboth.1, hboth.2, hmodules.1, hmap, hloose.1, hloose.2]
  exact ⟨rfl, rfl⟩

/-- A pass that a backend needs goes through a program whose names can be looked up, unit by
unit. -/
theorem run_of_hasKeys {pass : Pass} (hb : pass.IsBuiltIn) {p : Program} (hp : p.HasKeys) :
    (pass.run p).result = p.mapUnits pass.onUnit ∧ (pass.run p).stopped = false :=
  run_of_visit fun u hu => visit_of_hasKeys hb (hp u hu)

/-- What a pass does to a unit leaves names that can be looked up. -/
theorem hasKeys_onUnit (pass : Pass) {u : SourceUnit} (h : u.HasKeys) :
    (pass.onUnit u).HasKeys := by
  unfold onUnit
  split
  · exact h
  · rename_i hs
    intro _ d hd
    obtain ⟨e, he, rfl⟩ := List.mem_map.1 hd
    exact hasKeys_onDeclaration pass (h (Bool.eq_false_iff.2 hs) e he)

/-- What a pass does to a program leaves names that can be looked up. -/
theorem hasKeys_mapUnits (pass : Pass) {p : Program} (h : p.HasKeys) :
    (p.mapUnits pass.onUnit).HasKeys := by
  intro u hu
  rw [Program.units_mapUnits] at hu
  obtain ⟨v, hv, rfl⟩ := List.mem_map.1 hu
  exact hasKeys_onUnit pass (h v hv)

end Pass

/-- The passes of fresh entries. -/
theorem PassEntry.map_pass_fresh (passes : List Pass) :
    (passes.map fresh).map (·.pass) = passes := by
  rw [List.map_map]
  exact List.map_id _

/-- The passes of entries that are followed by fresh ones. -/
theorem PassEntry.map_pass_append_fresh (entries : List PassEntry) (passes : List Pass) :
    (entries ++ passes.map fresh).map (·.pass) = entries.map (·.pass) ++ passes := by
  rw [List.map_append, map_pass_fresh]

/-- Where a pass goes through, passes with it in front go on with the program that it leaves. -/
theorem PassEntry.runAll_cons_of_not_stopped {e : PassEntry} {p : Program}
    (h : (e.pass.run p).stopped = false) (rest : List PassEntry) :
    let v := e.pass.run p
    let more := runAll v.result rest
    (runAll p (e :: rest)).result =
        (⟨e.pass, e.renamed + v.renamed⟩ :: more.result.1, more.result.2) ∧
      (runAll p (e :: rest)).stopped = more.stopped := by
  have hstopped : (e.run p).stopped = false := h
  exact Visit.both_of_not_stopped
    (fun (a : PassEntry × Program) (b : List PassEntry × Program) => (a.1 :: b.1, b.2))
    hstopped (rest, (e.run p).result.2) fun _ => runAll (e.run p).result.2 rest

/-- A pass leaves all modules with their libraries, wherever it stops. -/
theorem Pass.map_toLibrary_run (pass : Pass) (p : Program) :
    (pass.run p).result.modules.map (·.toLibrary) = p.modules.map (·.toLibrary) := by
  have hvisit : ∀ m : Module, ((Visit.list pass.visit m.units).map fun units =>
      ({ m with units := units } : Module)).result.toLibrary = m.toLibrary := fun _ => rfl
  have hmodules := Visit.map_result_list _ hvisit p.modules
  unfold run Visit.both
  split <;> exact hmodules

/-- Passes leave all modules with their libraries, wherever they stop. -/
theorem PassEntry.map_toLibrary_runAll (entries : List PassEntry) (p : Program) :
    (runAll p entries).result.2.modules.map (·.toLibrary) = p.modules.map (·.toLibrary) := by
  induction entries generalizing p with
  | nil => rfl
  | cons e rest ih =>
    have hfirst := e.pass.map_toLibrary_run p
    unfold runAll Visit.both
    dsimp only
    split
    · exact hfirst
    · exact (ih _).trans hfirst

/-- Passes that backends need go through a program whose names can be looked up, one after the
other without stopping. -/
theorem PassEntry.runAll_of_hasKeys {entries : List PassEntry}
    (hb : ∀ e ∈ entries, e.pass.IsBuiltIn) {p : Program} (hp : p.HasKeys) :
    (runAll p entries).result.2 = p.mapUnits (Pass.onUnitAll (entries.map (·.pass))) ∧
      (runAll p entries).stopped = false := by
  induction entries generalizing p with
  | nil => exact ⟨(Program.mapUnits_id p).symm, rfl⟩
  | cons e rest ih =>
    obtain ⟨hresult, hstopped⟩ := Pass.run_of_hasKeys (hb e List.mem_cons_self) hp
    obtain ⟨hcons, hlast⟩ := runAll_cons_of_not_stopped hstopped rest
    have hrest := ih (fun e' he' => hb e' (List.mem_cons_of_mem e he'))
      (Pass.hasKeys_mapUnits e.pass hp)
    rw [hcons, hlast, hresult]
    refine ⟨hrest.1.trans ?_, hrest.2⟩
    rw [Program.mapUnits_mapUnits]
    rfl

end Interop
