import Interop.Proofs.Storing

/-!
# What is written

A run that writes leaves a file for every template of its outputs. Two templates share their file
exactly if the stems of their units and their extensions agree, and then the later one is what
stays. All other templates are found on disk as they were rendered.
-/

namespace Interop

open Session Generation

namespace Writer

/-- The text that stays at a path: that of the last entry. -/
def lastText? (es : List (Path × String)) (p : Path) : Option String := es.reverse.lookup p

/-- One workspace reads the last of some entries in a directory, and where there is no entry it
reads what another one does. -/
structure Wrote (directory : Path) (es : List (Path × String)) (w v : Workspace) : Prop where
  /-- Paths are seen from the same directory. -/
  directory_eq : v.directory = w.directory
  /-- The last entry stays, and else what was there. -/
  read : ∀ name ≠ "..", ∀ content,
    (lastText? es (directory.child name)).or (w.read? (directory.child name)) = some content →
      v.read? (directory.child name) = some content

section Wrote

variable {directory : Path} {u v w : Workspace}

/-- Without entries everything stays as it is. -/
theorem Wrote.refl (directory : Path) (w : Workspace) : Wrote directory [] w w :=
  ⟨rfl, fun _ _ _ h => h⟩

/-- Entries after entries are one list of entries. -/
theorem Wrote.trans {es es' : List (Path × String)} (h : Wrote directory es u v)
    (h' : Wrote directory es' v w) : Wrote directory (es ++ es') u w := by
  refine ⟨h'.directory_eq.trans h.directory_eq, fun name hname content hread => ?_⟩
  refine h'.read name hname content ?_
  unfold lastText? at hread ⊢
  rw [List.reverse_append, List.lookup_append, Option.or_assoc] at hread
  cases hl : es'.reverse.lookup (directory.child name) with
  | some text =>
    rw [hl] at hread
    exact hread
  | none =>
    rw [hl, Option.none_or] at hread
    rw [Option.none_or]
    exact h.read name hname content hread

/-- The text of an entry stays if no later entry has its path. -/
theorem lastText?_of_not_mem {before after : List (Path × String)} {p : Path} {text : String}
    (h : p ∉ after.map Prod.fst) : lastText? (before ++ (p, text) :: after) p = some text := by
  have hafter : after.reverse.lookup p = none := by
    refine List.lookup_eq_none_iff.2 fun e he => ?_
    have hne : p ≠ e.1 := fun hp => h (hp ▸ List.mem_map_of_mem (List.mem_reverse.1 he))
    simpa using hne
  unfold lastText?
  rw [List.reverse_append, List.reverse_cons, List.append_assoc, List.lookup_append, hafter,
    Option.none_or]
  exact List.lookup_cons_self

end Wrote

/-- A name in a directory leads there and then to the name. -/
theorem destination_join_child (base directory : Path) {name : String} (h : name ≠ "..") :
    FileTree.destination [] (base.join (directory.child name)).segments =
      FileTree.destination [] (base.join directory).segments ++ [name] := by
  rw [Path.segments_join_child, FileTree.destination_append, FileTree.destination, if_neg h]
  rfl

/-- Different names in a directory are different paths. -/
theorem child_injective {directory : Path} {name other : String}
    (h : directory.child name = directory.child other) : name = other := by
  have hs : directory.segments ++ [name] = directory.segments ++ [other] :=
    congrArg Path.segments h
  exact (List.cons.inj (List.append_cancel_left hs)).1

/-- A file that was put in its place is read from then on, and other names of the directory read as
before. -/
theorem read?_setContent_child {t u : FileTree} {base directory : Path} {file : String}
    {place : List String} (hfile : file ≠ "..")
    (h : t.placeFor (base.join (directory.child file)) = .ok (u, place)) (text : String) :
    let v := u.setContent place text
    v.read? (base.join (directory.child file)) = some text ∧
      ∀ name ≠ "..", name ≠ file → ∀ content, t.read? (base.join (directory.child name)) =
        some content → v.read? (base.join (directory.child name)) = some content := by
  obtain ⟨hplace, hfiles, hgrows, hwalk⟩ := FileTree.place_of_placeFor h
  refine ⟨?_, fun name hname hne content hread => ?_⟩
  · exact FileTree.read?_setContent hwalk text
  · have hother : FileTree.destination [] (base.join (directory.child name)).segments ≠ place := by
      rw [hplace, destination_join_child base directory hname,
        destination_join_child base directory hfile]
      exact fun he => hne (List.cons.inj (List.append_cancel_left he)).1
    rw [FileTree.read?_setContent_of_ne hother]
    exact FileTree.read?_of_extends hgrows hfiles hread

/-- Which text a single entry leaves in a directory. -/
theorem lastText?_child (directory : Path) (file text name : String) :
    lastText? [(directory.child file, text)] (directory.child name) =
      if name = file then some text else none := by
  unfold lastText?
  rw [List.reverse_singleton, List.lookup_cons]
  by_cases hn : name = file
  · rw [hn, beq_self_eq_true, if_pos rfl]
  · rw [beq_false_of_ne fun he => hn (child_injective he), if_neg hn]
    rfl

/-- A file of a directory that is stored is the only one of the directory that changes. -/
theorem wrote_store {directory : Path} {file text : String} {w v : Workspace} (hfile : file ≠ "..")
    (h : w.store (directory.child file) text = .ok v) :
    Wrote directory [(directory.child file, text)] w v := by
  obtain ⟨files, place, hplaced, -, rfl⟩ := Workspace.store_eq_ok_iff.1 h
  obtain ⟨hwritten, hkept⟩ := read?_setContent_child hfile hplaced text
  refine ⟨rfl, fun name hname content hread => ?_⟩
  rw [lastText?_child] at hread
  by_cases hn : name = file
  · rw [if_pos hn, Option.some_or] at hread
    rw [hn]
    exact hwritten.trans hread
  · rw [if_neg hn, Option.none_or] at hread
    exact hkept name hname hn content hread

/-- Files of a directory that are stored are the only ones of the directory that change. -/
theorem wrote_storeAll {directory : Path} {es : List (Path × String)}
    (hchild : ∀ e ∈ es, ∃ file, file ≠ ".." ∧ e.1 = directory.child file) {w v : Workspace}
    (h : w.storeAll es = .ok v) : Wrote directory es w v := by
  induction es generalizing w with
  | nil =>
    cases h
    exact .refl directory _
  | cons e more ih =>
    obtain ⟨path, text⟩ := e
    obtain ⟨⟨file, hfile, hpath⟩, hmore⟩ := List.forall_mem_cons.1 hchild
    obtain ⟨u, hu, hrest⟩ := Workspace.storeAll_cons_eq_ok_iff.1 h
    dsimp only at hpath hu
    rw [hpath] at hu ⊢
    exact (wrote_store hfile hu).trans (ih hmore hrest)

/-- The files of templates with single names are files of the directory. -/
theorem exists_child_of_mem_entries (directory : Path) {outputs : List Output}
    (hforms : ∀ o ∈ outputs, ∀ t ∈ o.templates, t.form.NamesFiles) :
    ∀ e ∈ entries directory outputs, ∃ file, file ≠ ".." ∧ e.1 = directory.child file := by
  intro e he
  obtain ⟨o, ho, he⟩ := List.mem_flatMap.1 he
  obtain ⟨t, ht, he⟩ := List.mem_map.1 he
  have hform := hforms o ho t ht
  have hpath : pathFor directory o.unit t = directory.child (fileName o.unit t) :=
    pathFor_eq_child directory hform
  refine ⟨fileName o.unit t, fileName_ne_parent hform, ?_⟩
  rw [← he]
  dsimp only
  exact hpath

/-- Writing changes files and the list of what was written, makes records of information, and
touches nothing else. -/
theorem keeps_write {γ : Type} {view : Session → γ}
    (hfiles : ∀ s files, view { s with files := files } = view s)
    (hwritten : ∀ s paths, view { s with written := paths } = view s)
    (hnoted : ∀ s text, view (noted [.logged ⟨.info, text⟩] s) = view s) (directory : Path)
    (o : Output) : Action.Keeps view (discard (write directory o)) := by
  have htemplate : ∀ t, Action.Keeps view (writeTemplate directory o.unit t) := fun t =>
    (Action.keeps_get view).bind fun s => (Action.keeps_ofExcept view _ _).bind fun _ =>
      (Action.keeps_modify fun s => hfiles s _).bind fun _ =>
        (Action.keeps_ofExcept view _ _).bind fun text =>
          (Action.keeps_ofExcept view _ _).bind fun _ =>
            (Action.keeps_modify fun s => hfiles s _).bind fun _ =>
              (Action.keeps_modify fun s => hnoted s _).bind fun _ => Action.keeps_pure view _
  have htemplates : ∀ ts, Action.Keeps view (writeTemplates directory o.unit ts) := by
    intro ts
    induction ts with
    | nil => exact Action.keeps_pure view _
    | cons t more ih =>
      exact (htemplate t).bind fun _ => ih.bind fun _ => Action.keeps_pure view _
  exact ((htemplates o.templates).bind fun _ => (Action.keeps_modify fun s => hwritten s _).bind
    fun _ => Action.keeps_pure view _).discard

/-- Writing leaves the program alone. -/
theorem keeps_program_write (directory : Path) (o : Output) :
    Action.Keeps Session.program (discard (write directory o)) :=
  keeps_write (fun _ _ => rfl) (fun _ _ => rfl) (fun _ _ => rfl) directory o

/-- Writing leaves the options alone. -/
theorem keeps_options_write (directory : Path) (o : Output) :
    Action.Keeps Session.options (discard (write directory o)) :=
  keeps_write (fun _ _ => rfl) (fun _ _ => rfl) (fun _ _ => rfl) directory o

/-- Writing calls no backend. -/
theorem keeps_calls_write (directory : Path) (o : Output) (g : GeneratorId) :
    Action.Keeps (fun s => s.calls g) (discard (write directory o)) :=
  keeps_write (fun _ _ => rfl) (fun _ _ => rfl) (fun s text => by simp [Session.calls]) directory o

/-- Writing logs no warning. -/
theorem keeps_warnings_write (directory : Path) (o : Output) :
    Action.Keeps Session.warnings (discard (write directory o)) :=
  keeps_write (fun _ _ => rfl) (fun _ _ => rfl) (fun s text => by simp [Session.warnings])
    directory o

end Writer

/-- Before the writer, generation gives the outcome of its plan with the plan's calls and warnings,
unless one of its outputs cannot be written; then it ends by the fault of that. -/
theorem generate_write (directory : Path) (g : GeneratorId) (backend : Backend) (s : Session) :
    let plan := Plan.generation g backend s.program s.options
    let r := generate g backend (fun o => discard (Writer.write directory o)) s
    (r.1 = plan.outcome ∧ r.2.calls g = s.calls g ++ plan.entries.filterMap (Event.call? g) ∧
      r.2.warnings = s.warnings ++ plan.entries.filterMap Event.warning?) ∨
    ∃ o ∈ plan.reported, ∃ m fault,
      (discard (Writer.write directory o) m).1 = .error fault ∧ r.1 = .error fault :=
  generate_of_keeps (Writer.keeps_program_write directory) (Writer.keeps_options_write directory)
    (Writer.keeps_calls_write directory) (Writer.keeps_warnings_write directory) g backend s

/-- The part of the ground that is on disk. -/
def Ground.workspace (ground : Ground) : Workspace := ⟨ground.files, ground.workingDirectory⟩

/-- Nothing but the one who takes outputs touches what is on disk, so a run whose passes go through
starts and ends where its backend's plan does when it is carried out, with nothing written yet. -/
theorem run_eq_carryOut {backend : Backend} {notify : Output → Action Unit} {s : Session}
    (hp : ∀ o, Action.Keeps Session.program (receiver s.options notify o))
    (ho : ∀ o, Action.Keeps Session.options (receiver s.options notify o))
    (hsetup : backend.setupSucceeds = true) (hpassed : (passed backend s).stopped = false) :
    ∃ m : Session, m.workspace = s.workspace ∧ m.written = [] ∧
      let r := (Plan.generation s.generators.length backend (passed backend s).result.2
        s.options).carryOut s.generators.length (receiver s.options notify) m
      (run backend notify s).1 = r.1 ∧ (run backend notify s).2.left = r.2.left := by
  obtain ⟨t, ht, hr, hg⟩ := run_of_passed backend notify s hsetup hpassed
  obtain ⟨hground, hwritten⟩ := Prod.mk.inj ht
  have hgenerate := generate_eq_carryOut s.generators.length backend hp ho t
  have hoptions : t.options = s.options := congrArg Ground.options hground
  have hprogram : t.program = (passed backend s).result.2 := congrArg Ground.program hground
  rw [hgenerate, Action.ensuring_apply, hoptions, hprogram] at hr hg
  exact ⟨productionStart s.generators.length (openingRemark backend t) t,
    congrArg Ground.workspace hground, hwritten, hr, hg⟩

/-- The writer leaves program and options alone. -/
theorem keeps_receiver_of_some {o : Options} {directory : Path}
    (h : outputDirectory? o = some directory) (notify : Output → Action Unit) (out : Output) :
    Action.Keeps Session.program (receiver o notify out) ∧
      Action.Keeps Session.options (receiver o notify out) := by
  rw [receiver_of_some h]
  exact ⟨Writer.keeps_program_write directory out, Writer.keeps_options_write directory out⟩

/-- A run that returns and has a directory starts and ends where its backend's plan does when it is
carried out before the writer, with nothing written yet. -/
theorem carryOut_of_run_ok {backend : Backend} {notify : Output → Action Unit} {s t : Session}
    {directory : Path} {outputs : List Output}
    (hdirectory : outputDirectory? s.options = some directory)
    (h : run backend notify s = (.ok outputs, t)) :
    ∃ m u : Session, m.workspace = s.workspace ∧ m.written = [] ∧ t.left = u.left ∧
      (Plan.generation s.generators.length backend (passed backend s).result.2 s.options).carryOut
        s.generators.length (fun o => discard (Writer.write directory o)) m = (.ok outputs, u) := by
  obtain ⟨hsetup, hpassed⟩ := passed_of_run_ok backend notify s (congrArg Prod.fst h)
  have hkeeps := keeps_receiver_of_some hdirectory notify
  obtain ⟨m, hworkspace, hwritten, hr, hg⟩ := run_eq_carryOut (fun o => (hkeeps o).1)
    (fun o => (hkeeps o).2) hsetup hpassed
  rw [h, receiver_of_some hdirectory] at hr hg
  exact ⟨m, _, hworkspace, hwritten, hg, Prod.ext hr.symm rfl⟩

/-- A template of an output with a backend's forms has one of these forms. -/
theorem mem_forms {target : Target} {o : Output}
    (h : o.templates.map (·.form) = Backend.forms target) {t : Template} (ht : t ∈ o.templates) :
    t.form ∈ Backend.forms target := h ▸ List.mem_map_of_mem ht

/-- A run of a shipped backend with a directory has the backend's templates for outputs, every
template has a text, and exactly their files are stored, in order. -/
theorem stored_run {target : Target} {notify : Output → Action Unit} {s t : Session}
    {directory : Path} {outputs : List Output}
    (hdirectory : outputDirectory? s.options = some directory)
    (h : run (.ofTarget target) notify s = (.ok outputs, t)) :
    (∀ o ∈ outputs, o.templates.map (·.form) = Backend.forms target) ∧
      (∀ o ∈ outputs, ∀ t ∈ o.templates, ∃ text, t.text = .ok text) ∧
      s.workspace.storeAll (Writer.entries directory outputs) = .ok t.workspace ∧
      t.written = (Writer.entries directory outputs).map Prod.fst := by
  obtain ⟨m, u, hm, hwritten, hu, hcarry⟩ := carryOut_of_run_ok hdirectory h
  obtain ⟨hground, hleft⟩ := Prod.mk.inj hu
  have hworkspace : t.workspace = u.workspace := congrArg Ground.workspace hground
  have hforms := forms_of_outcome_generation (outcome_of_carryOut_eq_ok _ hcarry)
  obtain ⟨htexts, hstored, hpaths⟩ := Writer.stored_carryOut hcarry
  rw [hm, ← hworkspace] at hstored
  rw [← hleft, hwritten, List.nil_append] at hpaths
  exact ⟨hforms, htexts, hstored, hpaths⟩

/-- The templates of a run of a shipped backend have single names. -/
theorem namesFiles_of_forms {target : Target} {outputs : List Output}
    (h : ∀ o ∈ outputs, o.templates.map (·.form) = Backend.forms target) :
    ∀ o ∈ outputs, ∀ t ∈ o.templates, t.form.NamesFiles :=
  fun o ho _ ht => Backend.namesFiles_forms (mem_forms (h o ho) ht)

/-- A run of a shipped backend with a directory has the backend's templates for outputs, every
template has a text, and the texts are on disk, the later over the earlier ones. -/
theorem wrote_run {target : Target} {notify : Output → Action Unit} {s t : Session}
    {directory : Path} {outputs : List Output}
    (hdirectory : outputDirectory? s.options = some directory)
    (h : run (.ofTarget target) notify s = (.ok outputs, t)) :
    (∀ o ∈ outputs, o.templates.map (·.form) = Backend.forms target) ∧
      (∀ o ∈ outputs, ∀ t ∈ o.templates, ∃ text, t.text = .ok text) ∧
      Writer.Wrote directory (Writer.entries directory outputs) s.workspace t.workspace := by
  obtain ⟨hforms, htexts, hstored, -⟩ := stored_run hdirectory h
  have hchild := Writer.exists_child_of_mem_entries directory (namesFiles_of_forms hforms)
  exact ⟨hforms, htexts, Writer.wrote_storeAll hchild hstored⟩

/-- The text of a template stays if no later template is written to its file. -/
theorem Writer.lastText?_entries {directory : Path} {before after : List Output} {o : Output}
    {us vs : List Template} {u : Template} (ho : o.templates = us ++ u :: vs)
    (hvs : ∀ v ∈ vs, pathFor directory o.unit v ≠ pathFor directory o.unit u)
    (hafter : ∀ o' ∈ after, ∀ v ∈ o'.templates,
      pathFor directory o'.unit v ≠ pathFor directory o.unit u) :
    lastText? (entries directory (before ++ o :: after)) (pathFor directory o.unit u) =
      some (u.text?.getD "") := by
  have hsplit : entries directory (before ++ o :: after) =
      (entries directory before ++ entriesOf directory o.unit us) ++
        (pathFor directory o.unit u, u.text?.getD "") ::
          (entriesOf directory o.unit vs ++ entries directory after) := by
    unfold entries
    rw [List.flatMap_append, List.flatMap_cons, ho]
    unfold entriesOf
    rw [List.map_append, List.map_cons]
    simp only [List.append_assoc, List.cons_append]
  rw [hsplit]
  refine lastText?_of_not_mem fun hm => ?_
  rw [List.map_append, List.mem_append, map_fst_entriesOf, map_fst_entries] at hm
  rcases hm with hm | hm
  · obtain ⟨v, hv, hp⟩ := List.mem_map.1 hm
    exact hvs v hv hp
  · obtain ⟨o', ho', hm⟩ := List.mem_flatMap.1 hm
    obtain ⟨v, hv, hp⟩ := List.mem_map.1 hm
    exact hafter o' ho' v hv hp

/-- Two templates of the outputs of a shipped backend are written to the same file exactly if the
stems of their units and their extensions agree. -/
theorem pathFor_eq_iff {target : Target} {directory : Path} {unit unit' : SourceUnit}
    {t t' : Template} (h : t.form ∈ Backend.forms target) (h' : t'.form ∈ Backend.forms target) :
    Writer.pathFor directory unit t = Writer.pathFor directory unit' t' ↔
      unit.fileStem = unit'.fileStem ∧ t.form.extension = t'.form.extension := by
  rw [Writer.pathFor_eq_child directory (Backend.namesFiles_forms h),
    Writer.pathFor_eq_child directory (Backend.namesFiles_forms h'), ← Writer.fileName_eq_iff h h']
  exact ⟨Writer.child_injective, congrArg directory.child⟩

/-- Among outputs with the forms of a shipped backend, the texts of an output stay if no later
output has a unit of the same stem. Templates of one output have different extensions, and those of
later outputs belong to units of other stems. -/
theorem lastText?_of_stems {target : Target} (directory : Path) {before after : List Output}
    {o : Output} {u : Template}
    (hforms : ∀ o' ∈ before ++ o :: after, o'.templates.map (·.form) = Backend.forms target)
    (hstems : ∀ o' ∈ after, o'.unit.fileStem ≠ o.unit.fileStem) (hu : u ∈ o.templates) :
    Writer.lastText? (Writer.entries directory (before ++ o :: after))
      (Writer.pathFor directory o.unit u) = some (u.text?.getD "") := by
  have ho := hforms o (List.mem_append_right before List.mem_cons_self)
  have hform := mem_forms ho hu
  obtain ⟨us, vs, hsplit⟩ := List.append_of_mem hu
  refine Writer.lastText?_entries hsplit (fun v hv he => ?_) fun o' ho' v hv he => ?_
  · have hv' : v ∈ o.templates := hsplit ▸ List.mem_append_right us (List.mem_cons_of_mem u hv)
    have hextension := ((pathFor_eq_iff (mem_forms ho hv') hform).1 he).2
    have hnodup := Backend.nodup_extensions target
    rw [← ho, hsplit, List.map_map, List.map_append, List.map_cons] at hnodup
    refine (List.nodup_cons.1 (List.nodup_append.1 hnodup).2.1).1 ?_
    exact List.mem_map.2 ⟨v, hv, hextension⟩
  · have ho'' := hforms o' (List.mem_append_right before (List.mem_cons_of_mem o ho'))
    exact hstems o' ho' ((pathFor_eq_iff (mem_forms ho'' hv) hform).1 he).1

/-- If a run of the shipped backends returns and there is a directory, two templates of its outputs
are written to the same file exactly if the stems of their units and their extensions agree. The
file of every template whose unit shares its stem with no later output holds the text of that
template after the run. -/
theorem runTarget_shipped_files {notify : Output → Action Unit} {s t : Session}
    {directory : Path} {outputs : List Output}
    (hdirectory : outputDirectory? s.options = some directory)
    (h : runTarget .shipped notify s = (.ok outputs, t)) :
    (∀ o ∈ outputs, ∀ u ∈ o.templates, ∀ o' ∈ outputs, ∀ u' ∈ o'.templates,
      Writer.pathFor directory o.unit u = Writer.pathFor directory o'.unit u' ↔
        o.unit.fileStem = o'.unit.fileStem ∧ u.form.extension = u'.form.extension) ∧
    ∀ before o after, outputs = before ++ o :: after →
      (∀ o' ∈ after, o'.unit.fileStem ≠ o.unit.fileStem) →
      ∀ u ∈ o.templates, ∃ text, u.text = .ok text ∧
        t.workspace.read? (Writer.pathFor directory o.unit u) = some text := by
  rw [Backend.runTarget_shipped] at h
  obtain ⟨hforms, htexts, hwrote⟩ := wrote_run hdirectory h
  refine ⟨fun o ho u hu o' ho' u' hu' =>
    pathFor_eq_iff (mem_forms (hforms o ho) hu) (mem_forms (hforms o' ho') hu'), ?_⟩
  rintro before o after rfl hstems u hu
  have ho : o ∈ before ++ o :: after := List.mem_append_right before List.mem_cons_self
  obtain ⟨text, htext⟩ := htexts o ho u hu
  have hlast := lastText?_of_stems directory hforms hstems hu
  have hnames := Backend.namesFiles_forms (mem_forms (hforms o ho) hu)
  rw [Template.text?_of_text htext, Option.getD_some] at hlast
  refine ⟨text, htext, ?_⟩
  rw [Writer.pathFor_eq_child directory hnames] at hlast ⊢
  refine hwrote.read _ (Writer.fileName_ne_parent hnames) text ?_
  rw [hlast]
  rfl

/-- A session that writes the outputs for two units of the same stem to a directory. -/
def writingSession : Session :=
  .start ⟨.csharp, false, some "out", .stop⟩ (.ofModules [.ofUnits ⟨"Core", none⟩
    [.ofEnumerations "a/x.h" ["A"] true, .ofEnumerations "b/x.h" ["B"] true]])

/-- The directory of this session. -/
theorem outputDirectory?_writingSession :
    outputDirectory? writingSession.options = some ⟨0, ["out"]⟩ := by
  decide +kernel

/-- The run of this session returns two outputs, and a text of the first one is not on disk. -/
theorem runTarget_writingSession : ∃ first second t,
    runTarget .shipped (fun _ => pure ()) writingSession = (.ok [first, second], t) ∧
      [first, second].map (·.unit.fileStem) = ["x", "x"] ∧
      ∃ u ∈ first.templates, t.workspace.read? (Writer.pathFor ⟨0, ["out"]⟩ first.unit u) ≠
        u.text? := by
  have hrun : (fun r : Except Fault (List Output) × Session =>
      r.1.toOption.map (·.map (·.unit.fileStem)) = some ["x", "x"] ∧
        ∃ o ∈ (r.1.toOption.getD []).take 1, ∃ u ∈ o.templates,
          r.2.workspace.read? (Writer.pathFor ⟨0, ["out"]⟩ o.unit u) ≠ u.text?)
      (runTarget .shipped (fun _ => pure ()) writingSession) := by decide +kernel
  rcases h : runTarget .shipped (fun _ => pure ()) writingSession with ⟨r, t⟩
  rw [h] at hrun
  obtain ⟨hstems, o, ho, hlost⟩ := hrun
  cases r with
  | error fault => cases hstems
  | ok outputs =>
    have hstems' : outputs.map (·.unit.fileStem) = ["x", "x"] := Option.some.inj hstems
    obtain ⟨first, rest, rfl, -, hrest⟩ := List.map_eq_cons_iff.1 hstems'
    obtain ⟨second, rest', rfl, -, hnil⟩ := List.map_eq_cons_iff.1 hrest
    obtain rfl := List.map_eq_nil_iff.1 hnil
    have ho' : o = first := List.mem_singleton.1 ho
    exact ⟨first, second, t, rfl, hstems', ho' ▸ hlost⟩

/-- The text of the second of two outputs is found on disk, even though their units have the same
stem. -/
theorem runTarget_shipped_files_two :
    ∃ first second t, outputDirectory? writingSession.options = some ⟨0, ["out"]⟩ ∧
      runTarget .shipped (fun _ => pure ()) writingSession = (.ok [first, second], t) ∧
      first.unit.fileStem = second.unit.fileStem ∧
      ∀ u ∈ second.templates, ∃ text, u.text = .ok text ∧
        t.workspace.read? (Writer.pathFor ⟨0, ["out"]⟩ second.unit u) = some text := by
  obtain ⟨first, second, t, h, hstems, -⟩ := runTarget_writingSession
  obtain ⟨hfirst, hstems⟩ := List.cons.inj hstems
  obtain ⟨hsecond, -⟩ := List.cons.inj hstems
  refine ⟨first, second, t, outputDirectory?_writingSession, h, hfirst.trans hsecond.symm, ?_⟩
  refine (runTarget_shipped_files outputDirectory?_writingSession h).2 [first] second [] rfl ?_
  exact fun o' ho' => absurd ho' List.not_mem_nil

/-- Not every template of a run is found on disk: of two units whose files have the same stem, the
first one's text is lost. -/
theorem not_forall_templates_on_disk :
    ¬ ∀ (modules : List Module) (o : Options) (directory : Path) (outputs : List Output)
      (t : Session), outputDirectory? o = some directory →
      runTarget .shipped (fun _ => pure ()) (.start o (.ofModules modules)) = (.ok outputs, t) →
      ∀ out ∈ outputs, ∀ u ∈ out.templates, ∃ text, u.text = .ok text ∧
        t.workspace.read? (Writer.pathFor directory out.unit u) = some text := by
  intro h
  obtain ⟨first, second, t, hrun, -, u, hu, hlost⟩ := runTarget_writingSession
  obtain ⟨text, htext, hread⟩ := h _ _ _ _ t outputDirectory?_writingSession hrun first
    List.mem_cons_self u hu
  exact hlost (hread.trans (Template.text?_of_text htext).symm)

end Interop
