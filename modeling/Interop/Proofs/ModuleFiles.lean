import Interop.Proofs.Containment
import Interop.Proofs.Includes

/-!
# Files of modules

In the layout by module, the unit that stands for a module reports a path: the base name of its
library with an extension. The writer takes this path apart and makes a file name of its parts. If
there is no slash in the base name, and not only dots, that comes to the path that was reported. So
libraries of different base names never share a file.
-/

namespace Interop

open Session Generation

namespace Path

/-- A text without slashes is its own base name. -/
theorem baseName_of_not_mem {cs : List Char} (h : '/' ∉ cs) : baseName cs = cs := by
  have hkept : ∀ c ∈ cs.reverse, (c != '/') = true := fun c hc =>
    bne_iff_ne.2 fun he => h (he ▸ List.mem_reverse.1 hc)
  unfold baseName
  rw [List.takeWhile_eq_self_iff.2 hkept, List.reverse_reverse]

/-- A name with a dot and an extension has the name for its stem, if it is not made of dots
alone. -/
theorem stem_append_dot {name extension : List Char} (hdot : '.' ∉ extension)
    (hname : ∃ c ∈ name, c ≠ '.') : stem (name ++ '.' :: extension) = name := by
  have hdropped : ∀ c ∈ extension.reverse, (c != '.') = true := fun c hc =>
    bne_iff_ne.2 fun he => hdot (he ▸ List.mem_reverse.1 hc)
  have hletter : ¬ name.reverse.all (· == '.') = true := by
    obtain ⟨c, hc, hne⟩ := hname
    intro hall
    exact hne (beq_iff_eq.1 (List.all_eq_true.1 hall c (List.mem_reverse.2 hc)))
  unfold stem
  rw [List.reverse_append, List.reverse_cons, List.append_assoc,
    List.dropWhile_append_of_pos hdropped]
  change (if name.reverse.all (· == '.') = true then _ else name.reverse.reverse) = name
  rw [if_neg hletter, List.reverse_reverse]

end Path

/-- Whether the base name of a library can name a file: it holds no slash, and some character that
is no dot. -/
structure Library.HasPlainName (l : Library) : Prop where
  /-- There is no slash. -/
  slash : '/' ∉ l.baseName.toList
  /-- There are not only dots. -/
  letter : ∃ c ∈ l.baseName.toList, c ≠ '.'

instance (l : Library) : Decidable l.HasPlainName :=
  haveI := List.decidableBEx (· ≠ '.') l.baseName.toList
  decidable_of_iff ('/' ∉ l.baseName.toList ∧ ∃ c ∈ l.baseName.toList, c ≠ '.')
    ⟨fun ⟨hslash, hletter⟩ => ⟨hslash, hletter⟩, fun h => ⟨h.slash, h.letter⟩⟩

namespace Library

variable {l l' : Library} {extension : String}

/-- The characters of the name of a library's file. -/
theorem toList_outputFileName (l : Library) (extension : String) :
    (l.outputFileName extension).toList = l.baseName.toList ++ '.' :: extension.toList := by
  unfold outputFileName
  rw [String.toList_append, String.toList_append, List.append_assoc]
  rfl

/-- The base names of libraries can be told from the names of their files. -/
theorem baseName_eq_of_outputFileName_eq
    (h : l.outputFileName extension = l'.outputFileName extension) : l.baseName = l'.baseName := by
  have hchars := congrArg String.toList h
  rw [toList_outputFileName, toList_outputFileName] at hchars
  exact String.toList_inj.1 (List.append_cancel_right hchars)

/-- The name of a library's file does not step back. -/
theorem HasPlainName.outputFileName_ne_parent (h : l.HasPlainName) (extension : String) :
    l.outputFileName extension ≠ ".." := by
  obtain ⟨c, hc, hne⟩ := h.letter
  intro he
  have hmem : c ∈ (l.outputFileName extension).toList := by
    rw [toList_outputFileName]
    exact List.mem_append_left _ hc
  rw [he] at hmem
  exact hne (by simpa using hmem)

/-- The stem of the unit that stands for a library is the base name of the library. -/
theorem HasPlainName.fileStem_synthetic (h : l.HasPlainName) (hslash : '/' ∉ extension.toList)
    (hdot : '.' ∉ extension.toList) :
    (SourceUnit.synthetic (l.outputFileName extension) l).fileStem = l.baseName := by
  have hname : '/' ∉ l.baseName.toList ++ '.' :: extension.toList := by
    intro hm
    rcases List.mem_append.1 hm with hm | hm
    · exact h.slash hm
    · exact hslash ((List.mem_cons.1 hm).resolve_left (by decide))
  unfold SourceUnit.fileStem SourceUnit.synthetic
  dsimp only
  rw [toList_outputFileName, Path.baseName_of_not_mem hname, Path.stem_append_dot hdot h.letter,
    String.ofList_toList]

end Library

/-- Whether an output is the sheet of a library: its unit stands for the library, and it holds one
template, with the form of C#. -/
structure Output.IsSheetOf (o : Output) (l : Library) (u : Template) : Prop where
  /-- The unit stands for the library, and reports the path of the library's file. -/
  unit : o.unit = .synthetic (l.outputFileName "cs") l
  /-- There is one template. -/
  templates : o.templates = [u]
  /-- The template has the form of C#. -/
  form : u.form = Template.CSharp.form

namespace Output.IsSheetOf

variable {o : Output} {l : Library} {u : Template} {directory : Path}

/-- The file of a sheet has the name that its unit reports. -/
theorem fileName_eq (h : o.IsSheetOf l u) (hl : l.HasPlainName) :
    Writer.fileName o.unit u = o.unit.filePath := by
  unfold Writer.fileName
  rw [h.unit, h.form, hl.fileStem_synthetic (by decide) (by decide)]
  exact congrArg (· ++ "." ++ "cs") String.append_empty

/-- The file of a sheet has the path that its unit reports, in the directory. -/
theorem pathFor_eq (h : o.IsSheetOf l u) (hl : l.HasPlainName) (directory : Path) :
    Writer.pathFor directory o.unit u = directory.child o.unit.filePath := by
  have hmem : u.form ∈ Backend.forms .csharp := h.form ▸ List.mem_cons_self
  rw [Writer.pathFor_eq_child directory (Backend.namesFiles_forms hmem), h.fileName_eq hl]

/-- The place to which the path of a sheet leads. -/
theorem placeOf_eq (h : o.IsSheetOf l u) (hl : l.HasPlainName) (w : Workspace) :
    w.placeOf (directory.child o.unit.filePath) = w.placeOf directory ++ [o.unit.filePath] := by
  refine w.placeOf_child directory ?_
  rw [h.unit]
  exact hl.outputFileName_ne_parent "cs"

/-- The writer writes a sheet to the path that its unit reports, and to no other. -/
theorem of_write (h : o.IsSheetOf l u) (hl : l.HasPlainName) {s t : Session} {paths : List Path}
    (hwrite : Writer.write directory o s = (.ok paths, t)) :
    paths = [directory.child o.unit.filePath] ∧ ∃ text, u.text = .ok text ∧
      ∀ q, t.files.contentAt? q =
        if q = s.workspace.placeOf directory ++ [o.unit.filePath] then some text
        else s.files.contentAt? q := by
  unfold Writer.write at hwrite
  obtain ⟨paths', m, hm, hwrite⟩ := Action.bind_eq_ok_iff.1 hwrite
  obtain ⟨_, m', hm', hwrite⟩ := Action.bind_eq_ok_iff.1 hwrite
  obtain ⟨rfl, rfl⟩ := Action.pure_eq_ok_iff.1 hwrite
  rw [h.templates] at hm
  obtain ⟨htexts, hstored, hpaths, -⟩ := Writer.stored_writeTemplates hm
  obtain ⟨text, htext⟩ := htexts u List.mem_cons_self
  obtain ⟨w, hw, hrest⟩ := Workspace.storeAll_cons_eq_ok_iff.1 hstored
  cases hrest
  rw [List.map_singleton, h.pathFor_eq hl] at hpaths
  rw [Action.modify_eq_ok_iff.1 hm']
  refine ⟨hpaths, text, htext, fun q => ?_⟩
  dsimp only at hw
  rw [h.pathFor_eq hl, Template.text?_of_text htext, Option.getD_some] at hw
  have hcontent := (Workspace.contentAt?_store hw).2 q
  rwa [h.placeOf_eq hl] at hcontent

end Output.IsSheetOf

/-- In the layout by module, everything that C# makes of a module is the sheet of its library. -/
theorem makesByModule_csharp : MakesByModule .csharp fun l o => ∃ u, o.IsSheetOf l u := by
  intro s t module positions template u htemplates hu
  have hforms : [template].map (·.form) = Backend.forms .csharp :=
    Backend.forms_of_templates htemplates
  have hform : template.form = Template.CSharp.form := List.head_eq_of_cons_eq hforms
  refine ⟨u, rfl, rfl, ?_⟩
  rw [Template.process_eq_ok (process_of_processTemplate hu).1]
  exact hform

section Sheets

variable {libraries : List Library} {outputs : List Output} {directory : Path}

/-- The paths of the files of sheets are those that their units report. -/
theorem forall₂_paths_of_sheets
    (h : List.Forall₂ (fun l o => ∃ u, Output.IsSheetOf o l u) libraries outputs) :
    List.Forall₂
      (fun (l : Library) path => l.HasPlainName → path = directory.child (l.outputFileName "cs"))
      libraries (outputs.flatMap fun o => o.templates.map (Writer.pathFor directory o.unit)) := by
  induction h with
  | nil => exact .nil
  | @cons l o libraries outputs hsheet _ ih =>
    obtain ⟨u, hsheet⟩ := hsheet
    rw [List.flatMap_cons, hsheet.templates, List.map_singleton, List.singleton_append]
    refine .cons (fun hl => ?_) ih
    rw [hsheet.pathFor_eq hl, hsheet.unit]
    rfl

/-- The stems of the units of sheets are the base names of their libraries. -/
theorem map_fileStem_of_sheets
    (h : List.Forall₂ (fun l o => ∃ u, Output.IsSheetOf o l u) libraries outputs)
    (hplain : ∀ l ∈ libraries, l.HasPlainName) :
    outputs.map (·.unit.fileStem) = libraries.map (·.baseName) := by
  induction h with
  | nil => rfl
  | @cons l o libraries outputs hsheet _ ih =>
    obtain ⟨hl, hmore⟩ := List.forall_mem_cons.1 hplain
    obtain ⟨u, hsheet⟩ := hsheet
    rw [List.map_cons, List.map_cons, ih hmore, hsheet.unit,
      hl.fileStem_synthetic (by decide) (by decide)]

/-- After a run that returns the sheets of libraries with different base names, each sheet is read
under the path that its unit reports. -/
theorem read?_of_sheets {notify : Output → Action Unit} {s t : Session}
    (h : List.Forall₂ (fun l o => ∃ u, Output.IsSheetOf o l u) libraries outputs)
    (hplain : ∀ l ∈ libraries, l.HasPlainName) (hnames : (libraries.map (·.baseName)).Nodup)
    (hdirectory : outputDirectory? s.options = some directory)
    (hrun : run (.ofTarget .csharp) notify s = (.ok outputs, t)) :
    ∀ o ∈ outputs, ∀ u ∈ o.templates, ∃ text, u.text = .ok text ∧
      t.workspace.read? (directory.child o.unit.filePath) = some text := by
  intro o ho u hu
  obtain ⟨hforms, htexts, hwrote⟩ := wrote_run hdirectory hrun
  have hsheets : ∀ o ∈ outputs, ∃ (l : Library) (u : Template),
      l.HasPlainName ∧ o.IsSheetOf l u := by
    refine forall_mem_of_forall₂ ?_ h hplain
    rintro l o ⟨u, hsheet⟩ hl
    exact ⟨l, u, hl, hsheet⟩
  obtain ⟨l, u', hl, hsheet⟩ := hsheets o ho
  obtain rfl : u = u' := List.mem_singleton.1 (hsheet.templates ▸ hu)
  obtain ⟨text, htext⟩ := htexts o ho u hu
  obtain ⟨before, after, rfl⟩ := List.append_of_mem ho
  have hstems : ∀ o' ∈ after, o'.unit.fileStem ≠ o.unit.fileStem := by
    rw [← map_fileStem_of_sheets h hplain, List.map_append, List.map_cons] at hnames
    have hlater := (List.nodup_cons.1 (List.nodup_append.1 hnames).2.1).1
    exact fun o' ho' he => hlater (he ▸ List.mem_map_of_mem ho')
  have hlast := lastText?_of_stems directory hforms hstems hu
  rw [Template.text?_of_text htext, Option.getD_some, hsheet.pathFor_eq hl] at hlast
  refine ⟨text, htext, hwrote.read _ ?_ text ?_⟩
  · rw [hsheet.unit]
    exact hl.outputFileName_ne_parent "cs"
  · rw [hlast, Option.some_or]

end Sheets

/-- In the layout by module, the file of a module is written under the name that is reported for it.
Every output that C# reports is the sheet of a module of the program, and a run returns the sheets
of all modules in order. If the base name of the module's library holds no slash and not only dots,
the unit of its sheet reports that name with the extension for C#, and the file of the sheet has
exactly this name in the directory. A run with a directory tells these paths, and writing a sheet
changes the file of this name and no other. Libraries of different base names have different files;
so if all base names of a program are such names and different, every sheet is found on disk after a
run. -/
theorem sheets_written_as_reported (notify : Output → Action Unit) {s : Session}
    (hlayout : s.options.layout = .singleFile) :
    ((∀ o, Action.OnlyReports (fun _ => False) (notify o)) → ∀ g,
      s.OnlyReports (fun o => ∃ m ∈ s.program.modules, ∃ u, o.IsSheetOf m.toLibrary u)
        (generate g .csharp notify s).2) ∧
    (∀ outputs t, runTarget .shipped notify s = (.ok outputs, t) →
      List.Forall₂ (fun l o => ∃ u, Output.IsSheetOf o l u)
        (s.program.modules.map (·.toLibrary)) outputs ∧
      ∀ directory, outputDirectory? s.options = some directory →
        List.Forall₂
          (fun (l : Library) path =>
            l.HasPlainName → path = directory.child (l.outputFileName "cs"))
          (s.program.modules.map (·.toLibrary)) t.written ∧
        ((∀ l ∈ s.program.modules.map (·.toLibrary), l.HasPlainName) →
          ((s.program.modules.map (·.toLibrary)).map (·.baseName)).Nodup →
          ∀ o ∈ outputs, ∀ u ∈ o.templates, ∃ text, u.text = .ok text ∧
            t.workspace.read? (directory.child o.unit.filePath) = some text)) ∧
    (∀ (l : Library) (o : Output) (u : Template), l.HasPlainName → o.IsSheetOf l u →
      o.unit.filePath = l.outputFileName "cs" ∧ ∀ directory : Path,
        Writer.pathFor directory o.unit u = directory.child (l.outputFileName "cs") ∧
        ∀ paths x y, Writer.write directory o x = (.ok paths, y) →
          paths = [directory.child (l.outputFileName "cs")] ∧ ∃ text, u.text = .ok text ∧
          ∀ q, y.files.contentAt? q =
            if q = x.workspace.placeOf directory ++ [l.outputFileName "cs"] then some text
            else x.files.contentAt? q) ∧
    ∀ l l' : Library, l.HasPlainName → l'.HasPlainName → l.baseName ≠ l'.baseName →
      ∀ (directory : Path) (w : Workspace),
        directory.child (l.outputFileName "cs") ≠ directory.child (l'.outputFileName "cs") ∧
        w.placeOf (directory.child (l.outputFileName "cs")) ≠
          w.placeOf (directory.child (l'.outputFileName "cs")) := by
  have hcsharp : Backend.csharp.layout s.options = .singleFile := by
    have htarget := Backend.layout_ofTarget s.options
    rw [Options.target_of_singleFile hlayout] at htarget
    exact htarget.trans hlayout
  refine ⟨fun hnotify g => ?_, fun outputs t h => ?_, fun l o u hl hsheet => ?_,
    fun l l' hl hl' hne directory w => ?_⟩
  · exact onlyReports_generate_singleFile makesByModule_csharp hcsharp
      (fun m hm o hsheet => ⟨m, hm, hsheet⟩)
      (fun o => (hnotify o).mono fun _ hfalse => hfalse.elim) g
  · rw [Backend.runTarget_shipped, Options.target_of_singleFile hlayout] at h
    have hsheets := forall₂_of_run makesByModule_csharp hcsharp (congrArg Prod.fst h)
    refine ⟨hsheets, fun directory hdirectory => ?_⟩
    have hrun : run (.ofTarget .csharp) notify s = (.ok outputs, t) := h
    obtain ⟨-, -, -, hwritten⟩ := stored_run hdirectory hrun
    rw [hwritten, Writer.map_fst_entries]
    exact ⟨forall₂_paths_of_sheets hsheets,
      fun hplain hnames => read?_of_sheets hsheets hplain hnames hdirectory h⟩
  · have hreported : o.unit.filePath = l.outputFileName "cs" :=
      congrArg SourceUnit.filePath hsheet.unit
    refine ⟨hreported, fun directory => ?_⟩
    rw [← hreported]
    exact ⟨hsheet.pathFor_eq hl directory, fun paths x y h => hsheet.of_write hl h⟩
  · have hnames : l.outputFileName "cs" ≠ l'.outputFileName "cs" := fun he =>
      hne (Library.baseName_eq_of_outputFileName_eq he)
    refine ⟨fun he => hnames (Writer.child_injective he), fun he => hnames ?_⟩
    rw [w.placeOf_child directory (hl.outputFileName_ne_parent "cs"),
      w.placeOf_child directory (hl'.outputFileName_ne_parent "cs")] at he
    exact List.head_eq_of_cons_eq (List.append_cancel_left he)

/-- A session that writes the sheets of two modules. The names of both have several dots, one of
them in front, and one name looks like the file of the other module. -/
def dottedSession : Session :=
  .start ⟨.csharp, true, some "out", .stop⟩ (.ofModules [.ofUnits ⟨"Core", some ".Acme.v2.cs"⟩
    [.ofEnumerations "core/event.h" ["Kind"] true], .ofUnits ⟨".Acme.v2", some ""⟩ []])

/-- The base names of these modules can name files, and they are different. -/
theorem hasPlainName_dottedSession :
    let libraries := dottedSession.program.modules.map (·.toLibrary)
    (∀ l ∈ libraries, l.HasPlainName) ∧ (libraries.map (·.baseName)).Nodup := by
  decide

/-- The sheets of this session are written as they are reported, each to a file of its own. -/
theorem sheets_written_as_reported_dots :
    dottedSession.options.layout = .singleFile ∧
    (let reporting := (generate 0 .csharp (fun _ => pure ()) dottedSession).2
     (reporting.reports 0).map (·.1.unit.filePath) = [".Acme.v2.cs.cs", ".Acme.v2.cs"] ∧
      ∀ g o printer, Event.reported g o printer ∈ reporting.journal →
        ∃ m ∈ dottedSession.program.modules, ∃ u, o.IsSheetOf m.toLibrary u) ∧
    (∃ outputs t, runTarget .shipped (fun _ => pure ()) dottedSession = (.ok outputs, t) ∧
      t.written = [⟨0, ["out", ".Acme.v2.cs.cs"]⟩, ⟨0, ["out", ".Acme.v2.cs"]⟩] ∧
      ∀ o ∈ outputs, ∀ u ∈ o.templates, ∃ text, u.text = .ok text ∧
        t.workspace.read? (Path.child ⟨0, ["out"]⟩ o.unit.filePath) = some text) ∧
    (∀ o u, Output.IsSheetOf o ⟨".Acme.v2", some ""⟩ u →
      Writer.pathFor ⟨0, ["out"]⟩ o.unit u = ⟨0, ["out", ".Acme.v2.cs"]⟩) ∧
    dottedSession.workspace.placeOf ⟨0, ["out", ".Acme.v2.cs.cs"]⟩ ≠
      dottedSession.workspace.placeOf ⟨0, ["out", ".Acme.v2.cs"]⟩ := by
  obtain ⟨hreported, hruns, hsheets, hdifferent⟩ :=
    sheets_written_as_reported (fun _ => pure ()) (s := dottedSession) rfl
  obtain ⟨hplain, hnames⟩ := hasPlainName_dottedSession
  have hcore : Library.HasPlainName ⟨"Core", some ".Acme.v2.cs"⟩ := hplain _ (by decide)
  have hacme : Library.HasPlainName ⟨".Acme.v2", some ""⟩ := hplain _ (by decide)
  have hdirectory : outputDirectory? dottedSession.options = some ⟨0, ["out"]⟩ := by decide +kernel
  obtain ⟨entries, hjournal, hentries⟩ := hreported (fun _ => Action.onlyReports_pure ()) 0
  refine ⟨rfl, ⟨by decide +kernel, hjournal ▸ hentries⟩, ?_, fun o u h => ?_, ?_⟩
  · have hrun : (runTarget .shipped (fun _ => pure ()) dottedSession).1.isOk = true := by
      decide +kernel
    rcases h : runTarget .shipped (fun _ => pure ()) dottedSession with ⟨_ | outputs, t⟩
    · rw [h] at hrun
      cases hrun
    · obtain ⟨-, hwritten⟩ := hruns outputs t h
      obtain ⟨hpaths, hread⟩ := hwritten _ hdirectory
      refine ⟨outputs, t, rfl, ?_, hread hplain hnames⟩
      generalize t.written = paths at hpaths
      obtain _ | ⟨hfirst, _ | ⟨hsecond, ⟨⟩⟩⟩ := hpaths
      rw [hfirst hcore, hsecond hacme]
      decide
  · exact ((hsheets _ o u hacme h).2 ⟨0, ["out"]⟩).1
  · exact (hdifferent _ _ hcore hacme (by decide) ⟨0, ["out"]⟩ dottedSession.workspace).2

end Interop
