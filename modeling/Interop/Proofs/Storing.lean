import Interop.Proofs.FileName
import Interop.Proofs.FileTree

/-!
# Storing files

The writer stores one file after the other. It comes to its end exactly if every template has a text
and the file system takes every file; what it leaves on disk then is what storing the files leaves.
Storing touches nothing but the files that are stored, the last of several texts for one file stays,
and once files of one directory have been stored, they can be stored again, which changes nothing.
-/

namespace Interop

open Session Generation

/-- What a session holds on disk. -/
def Session.workspace (s : Session) : Workspace := ⟨s.files, s.workingDirectory⟩

namespace Workspace

/-- The place that a path leads to. -/
def placeOf (w : Workspace) (p : Path) : List String :=
  FileTree.destination [] (w.directory.join p).segments

/-- Store a file: make the directories on its way, and put the content in its place. -/
def store (w : Workspace) (p : Path) (content : String) : Except FileFault Workspace := do
  let (files, place) ← w.files.placeFor (w.directory.join p)
  FileTree.checkContent content
  return ⟨files.setContent place content, w.directory⟩

/-- Store files in order. -/
def storeAll (w : Workspace) : List (Path × String) → Except FileFault Workspace
  | [] => .ok w
  | e :: more => do
    let v ← w.store e.1 e.2
    v.storeAll more

section Storing

variable {u v w : Workspace} {p : Path} {content : String} {es : List (Path × String)}

/-- A file is stored exactly if there is a place for it and its content may be written. -/
theorem store_eq_ok_iff : w.store p content = .ok v ↔ ∃ files place,
    w.files.placeFor (w.directory.join p) = .ok (files, place) ∧
      FileTree.checkContent content = .ok () ∧
      v = ⟨files.setContent place content, w.directory⟩ := by
  unfold store
  dsimp only [bind, Except.bind]
  constructor
  · intro h
    split at h
    · cases h
    · rename_i placed hplaced
      obtain ⟨files, place⟩ := placed
      dsimp only at h
      split at h
      · cases h
      · rename_i hcontent
        cases h
        exact ⟨files, place, hplaced, hcontent, rfl⟩
  · rintro ⟨files, place, hplaced, hcontent, rfl⟩
    rw [hplaced]
    dsimp only
    rw [hcontent]
    rfl

/-- Files are stored exactly if the first one is, and then the others are. -/
theorem storeAll_cons_eq_ok_iff {e : Path × String} :
    w.storeAll (e :: es) = .ok v ↔ ∃ u, w.store e.1 e.2 = .ok u ∧ u.storeAll es = .ok v := by
  rw [storeAll]
  dsimp only [bind, Except.bind]
  cases w.store e.1 e.2 with
  | error fault => exact ⟨nofun, nofun⟩
  | ok u => exact ⟨fun h => ⟨u, rfl, h⟩, fun ⟨_, hu, h⟩ => Except.ok.inj hu ▸ h⟩

/-- Files are stored exactly if the first ones are, and then the others are. -/
theorem storeAll_append_eq_ok_iff {fs : List (Path × String)} :
    w.storeAll (es ++ fs) = .ok v ↔ ∃ u, w.storeAll es = .ok u ∧ u.storeAll fs = .ok v := by
  induction es generalizing w with
  | nil => exact ⟨fun h => ⟨w, rfl, h⟩, fun ⟨_, hu, h⟩ => Except.ok.inj hu ▸ h⟩
  | cons e more ih =>
    rw [List.cons_append, storeAll_cons_eq_ok_iff]
    simp only [ih, storeAll_cons_eq_ok_iff]
    exact ⟨fun ⟨a, ha, b, hb, h⟩ => ⟨b, ⟨a, ha, hb⟩, h⟩,
      fun ⟨b, ⟨a, ha, hb⟩, h⟩ => ⟨a, ha, b, hb, h⟩⟩

/-- A file that is stored has its content, and no other file changes. -/
theorem contentAt?_store (h : w.store p content = .ok v) :
    v.directory = w.directory ∧ ∀ q, v.files.contentAt? q =
      if q = w.placeOf p then some content else w.files.contentAt? q := by
  obtain ⟨files, place, hplaced, -, rfl⟩ := store_eq_ok_iff.1 h
  obtain ⟨hplace, hfiles, -, -⟩ := FileTree.place_of_placeFor hplaced
  refine ⟨rfl, fun q => ?_⟩
  rw [FileTree.contentAt?_setContent_eq, hplace]
  unfold FileTree.contentAt?
  rw [hfiles]
  rfl

/-- The places of files, with the contents that are stored. -/
def placed (w : Workspace) (es : List (Path × String)) : List (List String × String) :=
  es.map fun e => (w.placeOf e.1, e.2)

/-- Of files that are stored in one place the last one stays, and where no file is stored, nothing
changes. -/
theorem contentAt?_storeAll (h : w.storeAll es = .ok v) :
    v.directory = w.directory ∧ ∀ q, v.files.contentAt? q =
      ((w.placed es).reverse.lookup q).or (w.files.contentAt? q) := by
  induction es generalizing w with
  | nil =>
    cases h
    exact ⟨rfl, fun _ => rfl⟩
  | cons e more ih =>
    obtain ⟨u, hu, hmore⟩ := storeAll_cons_eq_ok_iff.1 h
    obtain ⟨hdirectory, hone⟩ := contentAt?_store hu
    obtain ⟨hdirectory', hall⟩ := ih hmore
    have hplaced : u.placed more = w.placed more := by
      unfold placed placeOf
      rw [hdirectory]
    refine ⟨hdirectory'.trans hdirectory, fun q => ?_⟩
    rw [hall, hplaced, hone]
    change _ = (((_, _) :: w.placed more).reverse.lookup q).or _
    rw [List.reverse_cons, List.lookup_append, Option.or_assoc, List.lookup_cons]
    by_cases hq : q = w.placeOf e.1
    · rw [if_pos hq, hq, beq_self_eq_true]
      rfl
    · rw [if_neg hq, beq_false_of_ne hq]
      rfl

end Storing

section Again

variable {directory : Path} {v w : Workspace}

/-- Whether a file of a directory can be stored wherever the directories are those of a workspace,
and no directory is made for it. -/
def Takes (w : Workspace) (e : Path × String) : Prop :=
  ∀ v : Workspace, v.directory = w.directory → v.files.directories = w.files.directories →
    ∃ u, v.store e.1 e.2 = .ok u ∧ u.files.directories = w.files.directories

/-- A file that was stored can be stored again. -/
theorem takes_of_store {p : Path} {content : String} (h : w.store p content = .ok v) :
    v.Takes (p, content) := by
  obtain ⟨files, place, hplaced, hcontent, rfl⟩ := store_eq_ok_iff.1 h
  intro x hdirectory hdirectories
  have hagain := FileTree.placeFor_of_placeFor hplaced (v := x.files) hdirectories
  refine ⟨⟨x.files.setContent place content, x.directory⟩, ?_, hdirectories⟩
  rw [← show x.directory = w.directory from hdirectory] at hagain
  exact store_eq_ok_iff.2 ⟨x.files, place, hagain, hcontent, rfl⟩

/-- If a file of a directory was stored, no directory is made for another one. -/
theorem directories_of_sibling {name other : String} {text content : String} {x y : Workspace}
    (h : w.store (directory.child name) text = .ok v) (hx : x.directory = w.directory)
    (hdirectories : x.files.directories = v.files.directories)
    (hstore : x.store (directory.child other) content = .ok y) :
    y.files.directories = x.files.directories := by
  obtain ⟨files, place, hplaced, -, rfl⟩ := store_eq_ok_iff.1 h
  obtain ⟨files', place', hplaced', -, rfl⟩ := store_eq_ok_iff.1 hstore
  have hsibling : (x.directory.join (directory.child other)).segments.dropLast =
      (w.directory.join (directory.child name)).segments.dropLast := by
    rw [hx, Path.segments_join_child, Path.segments_join_child, List.dropLast_concat,
      List.dropLast_concat]
  have hsame := FileTree.placeFor_of_sibling hplaced hsibling hdirectories hplaced'
  change files'.directories = x.files.directories
  rw [hsame]

/-- What is taken is taken wherever the directories are the same. -/
theorem Takes.congr {e : Path × String} (h : v.Takes e) (hdirectory : w.directory = v.directory)
    (hdirectories : w.files.directories = v.files.directories) : w.Takes e := by
  intro x hx hxs
  obtain ⟨u, hu, hus⟩ := h x (hx.trans hdirectory) (hxs.trans hdirectories)
  exact ⟨u, hu, hus.trans hdirectories.symm⟩

/-- If a file of a directory was stored and then others are, no directory is made for them, and each
of them can be stored again. The files have one directory, so after each of them the directories are
the same. -/
theorem takes_of_sibling {name : String} {text : String} {es : List (Path × String)}
    (h : w.store (directory.child name) text = .ok v)
    (hchild : ∀ e ∈ es, ∃ other, e.1 = directory.child other) {x y : Workspace}
    (hx : x.directory = w.directory) (hdirectories : x.files.directories = v.files.directories)
    (hall : x.storeAll es = .ok y) :
    y.directory = x.directory ∧ y.files.directories = v.files.directories ∧
      ∀ e ∈ es, y.Takes e := by
  induction es generalizing x with
  | nil =>
    cases hall
    exact ⟨rfl, hdirectories, nofun⟩
  | cons e more ih =>
    obtain ⟨⟨other, hother⟩, hmore⟩ := List.forall_mem_cons.1 hchild
    obtain ⟨z, hz, hrest⟩ := storeAll_cons_eq_ok_iff.1 hall
    have hstay := directories_of_sibling h hx hdirectories (hother ▸ hz)
    have hzx := (contentAt?_store hz).1
    obtain ⟨hyz, hys, htakes⟩ := ih hmore (hzx.trans hx) (hstay.trans hdirectories) hrest
    have hfirst := (takes_of_store hz).congr hyz
      (hys.trans (hstay.trans hdirectories).symm)
    exact ⟨hyz.trans hzx, hys, List.forall_mem_cons.2 ⟨hfirst, htakes⟩⟩

/-- After files of one directory were stored, each of them can be stored again without a directory
being made. -/
theorem takes_of_storeAll {es : List (Path × String)}
    (hchild : ∀ e ∈ es, ∃ name, e.1 = directory.child name) (h : w.storeAll es = .ok v) :
    ∀ e ∈ es, v.Takes e := by
  cases es with
  | nil => exact nofun
  | cons e more =>
    obtain ⟨⟨name, hname⟩, hmore⟩ := List.forall_mem_cons.1 hchild
    obtain ⟨u, hu, hrest⟩ := storeAll_cons_eq_ok_iff.1 h
    obtain ⟨hvu, hvs, htakes⟩ :=
      takes_of_sibling (hname ▸ hu) hmore (contentAt?_store hu).1 rfl hrest
    exact List.forall_mem_cons.2 ⟨(takes_of_store hu).congr hvu hvs, htakes⟩

/-- Files that are taken one by one can be stored in order. -/
theorem exists_storeAll {es : List (Path × String)} (h : ∀ e ∈ es, v.Takes e)
    (hdirectory : w.directory = v.directory)
    (hdirectories : w.files.directories = v.files.directories) :
    ∃ u, w.storeAll es = .ok u ∧ u.files.directories = v.files.directories := by
  induction es generalizing w with
  | nil => exact ⟨w, rfl, hdirectories⟩
  | cons e more ih =>
    obtain ⟨hfirst, hmore⟩ := List.forall_mem_cons.1 h
    obtain ⟨x, hx, hxs⟩ := hfirst w hdirectory hdirectories
    obtain ⟨u, hu, hus⟩ := ih hmore ((contentAt?_store hx).1.trans hdirectory) hxs
    exact ⟨u, storeAll_cons_eq_ok_iff.2 ⟨x, hx, hu⟩, hus⟩

/-- Files of one directory that were stored can be stored again, and that changes nothing. What is
found among the files comes before what was there, the second time as the first. -/
theorem storeAll_again {es : List (Path × String)}
    (hchild : ∀ e ∈ es, ∃ name, e.1 = directory.child name) (h : w.storeAll es = .ok v) :
    ∃ u, v.storeAll es = .ok u ∧ u.files.directories = v.files.directories ∧
      ∀ q, u.files.contentAt? q = v.files.contentAt? q := by
  obtain ⟨u, hu, hus⟩ := exists_storeAll (takes_of_storeAll hchild h) rfl rfl
  obtain ⟨hvw, hv⟩ := contentAt?_storeAll h
  have hplaced : v.placed es = w.placed es := by
    unfold placed placeOf
    rw [hvw]
  refine ⟨u, hu, hus, fun q => ?_⟩
  rw [(contentAt?_storeAll hu).2, hplaced, hv, ← Option.or_assoc, Option.or_self]

end Again

end Workspace

namespace Writer

/-- The files that some templates of a unit leave in a directory, in order. -/
def entriesOf (directory : Path) (unit : SourceUnit) (ts : List Template) : List (Path × String) :=
  ts.map fun t => (pathFor directory unit t, t.text?.getD "")

/-- The files that some outputs leave in a directory, in order. -/
def entries (directory : Path) (outputs : List Output) : List (Path × String) :=
  outputs.flatMap fun o => entriesOf directory o.unit o.templates

/-- The paths of the files of some templates. -/
theorem map_fst_entriesOf (directory : Path) (unit : SourceUnit) (ts : List Template) :
    (entriesOf directory unit ts).map Prod.fst = ts.map (pathFor directory unit) := by
  simp only [entriesOf, List.map_map, Function.comp_def]

/-- The paths of the files of some outputs. -/
theorem map_fst_entries (directory : Path) (outputs : List Output) :
    (entries directory outputs).map Prod.fst =
      outputs.flatMap fun o => o.templates.map (pathFor directory o.unit) := by
  unfold entries
  rw [List.map_flatMap]
  simp only [map_fst_entriesOf]

/-- What the journal tells of templates that were written. -/
def announcements (directory : Path) (unit : SourceUnit) (ts : List Template) : List Event :=
  ts.map fun t => .logged ⟨.info, "Generated file: " ++ (pathFor directory unit t).toString⟩

section Steps

variable {directory : Path} {unit : SourceUnit} {s t : Session}

/-- A session to which the files of a workspace are given, seen from the same directory, has that
workspace. -/
theorem workspace_noted (es : List Event) {w : Workspace}
    (h : w.directory = s.workspace.directory) :
    (noted es { s with files := w.files }).workspace = w :=
  congrArg (Workspace.mk w.files) h.symm

/-- The files of templates are stored exactly if that of the first one is, and then the others
are. -/
theorem storeAll_entriesOf_cons_iff {template : Template} {more : List Template}
    {v w : Workspace} : w.storeAll (entriesOf directory unit (template :: more)) = .ok v ↔
      ∃ u, w.store (pathFor directory unit template) (template.text?.getD "") = .ok u ∧
        u.storeAll (entriesOf directory unit more) = .ok v := by
  unfold entriesOf
  rw [List.map_cons, Workspace.storeAll_cons_eq_ok_iff]

/-- A template is written exactly if it has a text and its file is stored; the session tells so, and
nothing else changes. Opening the file empties it before the text is asked for; only the text put in
later stays. -/
theorem writeTemplate_eq_ok_iff {template : Template} {path : Path} :
    writeTemplate directory unit template s = (.ok path, t) ↔ ∃ text w,
      template.text = .ok text ∧
        s.workspace.store (pathFor directory unit template) text = .ok w ∧
        path = pathFor directory unit template ∧
        t = noted [.logged ⟨.info, "Generated file: " ++ path.toString⟩]
          { s with files := w.files } := by
  unfold writeTemplate
  rw [Action.get_bind]
  constructor
  · intro h
    obtain ⟨⟨files, place⟩, s₁, h₁, rest₁⟩ := Action.bind_eq_ok_iff.1 h
    obtain ⟨_, s₂, h₂, rest₂⟩ := Action.bind_eq_ok_iff.1 rest₁
    obtain ⟨text, s₃, h₃, rest₃⟩ := Action.bind_eq_ok_iff.1 rest₂
    obtain ⟨_, s₄, h₄, rest₄⟩ := Action.bind_eq_ok_iff.1 rest₃
    obtain ⟨_, s₅, h₅, rest₅⟩ := Action.bind_eq_ok_iff.1 rest₄
    obtain ⟨_, s₆, h₆, rest₆⟩ := Action.bind_eq_ok_iff.1 rest₅
    obtain ⟨hplace, hs₁⟩ := Action.ofExcept_eq_ok_iff.1 h₁
    obtain ⟨htext, hs₃⟩ := Action.ofExcept_eq_ok_iff.1 h₃
    obtain ⟨hcontent, hs₄⟩ := Action.ofExcept_eq_ok_iff.1 h₄
    obtain ⟨hpath, hs₇⟩ := Action.pure_eq_ok_iff.1 rest₆
    refine ⟨text, ⟨files.setContent place text, s.workingDirectory⟩, htext,
      Workspace.store_eq_ok_iff.2 ⟨files, place, hplace, hcontent, rfl⟩, hpath.symm, ?_⟩
    rw [hs₇, Action.log_eq_ok_iff.1 h₆, Action.modify_eq_ok_iff.1 h₅, hs₄, hs₃,
      Action.modify_eq_ok_iff.1 h₂, hs₁, hpath]
    dsimp only
    rw [FileTree.setContent_setContent]
  · rintro ⟨text, w, htext, hstore, hpath, ht⟩
    obtain ⟨files, place, hplace, hcontent, hw⟩ := Workspace.store_eq_ok_iff.1 hstore
    have hplaced : Action.ofExcept .file (s.files.placeFor (s.workingDirectory.join
        (pathFor directory unit template))) s = (.ok (files, place), s) :=
      Action.ofExcept_eq_ok_iff.2 ⟨hplace, rfl⟩
    have hread (x : Session) : Action.ofExcept .template template.text x = (.ok text, x) :=
      Action.ofExcept_eq_ok_iff.2 ⟨htext, rfl⟩
    have hcheck (x : Session) :
        Action.ofExcept .file (FileTree.checkContent text) x = (.ok (), x) :=
      Action.ofExcept_eq_ok_iff.2 ⟨hcontent, rfl⟩
    rw [Action.bind_of_ok hplaced, ht, hw, ← FileTree.setContent_setContent place "" text, hpath]
    dsimp only
    rw [Action.modify_bind, Action.bind_of_ok (hread _), Action.bind_of_ok (hcheck _),
      Action.modify_bind, Action.log_bind]
    rfl

/-- The text of a template that can be read is what its file is given. -/
theorem getD_text?_of_text {template : Template} {text : String} (h : template.text = .ok text) :
    template.text?.getD "" = text := by
  rw [Template.text?_of_text h, Option.getD_some]

/-- Templates are written exactly if they have texts and their files are stored; the session tells
so, and nothing else changes. -/
theorem writeTemplates_eq_ok_iff {ts : List Template} {paths : List Path} :
    writeTemplates directory unit ts s = (.ok paths, t) ↔ ∃ w,
      (∀ u ∈ ts, ∃ text, u.text = .ok text) ∧
        s.workspace.storeAll (entriesOf directory unit ts) = .ok w ∧
        paths = ts.map (pathFor directory unit) ∧
        t = noted (announcements directory unit ts) { s with files := w.files } := by
  induction ts generalizing s t paths with
  | nil =>
    rw [writeTemplates, Action.pure_eq_ok_iff]
    constructor
    · rintro ⟨rfl, rfl⟩
      exact ⟨t.workspace, nofun, rfl, rfl, (noted_nil t).symm⟩
    · rintro ⟨w, -, hstore, rfl, rfl⟩
      cases hstore
      exact ⟨rfl, noted_nil s⟩
  | cons template more ih =>
    have hjoin (es : List Event) (v w : Workspace) :
        noted (announcements directory unit more)
          { noted es { s with files := v.files } with files := w.files } =
        noted (es ++ announcements directory unit more) { s with files := w.files } := by
      unfold noted
      dsimp only
      rw [List.append_assoc]
    rw [writeTemplates, Action.bind_eq_ok_iff]
    constructor
    · rintro ⟨path, s₁, h₁, rest₁⟩
      obtain ⟨paths', s₂, h₂, rest₂⟩ := Action.bind_eq_ok_iff.1 rest₁
      obtain ⟨hpaths, ht⟩ := Action.pure_eq_ok_iff.1 rest₂
      obtain ⟨text, v, htext, hstore, hpath, hs₁⟩ := writeTemplate_eq_ok_iff.1 h₁
      obtain ⟨w, htexts, hall, hpaths', hs₂⟩ := ih.1 h₂
      rw [hs₁, workspace_noted _ (Workspace.contentAt?_store hstore).1] at hall
      refine ⟨w, List.forall_mem_cons.2 ⟨⟨text, htext⟩, htexts⟩, ?_, ?_, ?_⟩
      · rw [storeAll_entriesOf_cons_iff, getD_text?_of_text htext]
        exact ⟨v, hstore, hall⟩
      · rw [← hpaths, hpath, hpaths', List.map_cons]
      · rw [ht, hs₂, hs₁, hpath, hjoin]
        rfl
    · rintro ⟨w, htexts, hstore, hpaths, ht⟩
      obtain ⟨⟨text, htext⟩, hmore⟩ := List.forall_mem_cons.1 htexts
      rw [storeAll_entriesOf_cons_iff, getD_text?_of_text htext] at hstore
      obtain ⟨v, hv, hrest⟩ := hstore
      have hhead := writeTemplate_eq_ok_iff.2 ⟨text, v, htext, hv, rfl, rfl⟩
      rw [← workspace_noted (announcements directory unit [template])
        (Workspace.contentAt?_store hv).1] at hrest
      have hrest' := ih.2 ⟨w, hmore, hrest, rfl, rfl⟩
      refine ⟨_, _, hhead, Action.bind_eq_ok_iff.2 ⟨_, _, hrest', ?_⟩⟩
      rw [hpaths, ht, hjoin]
      rfl

/-- Templates that are written have texts, and their files are stored. -/
theorem stored_writeTemplates {ts : List Template} {paths : List Path}
    (h : writeTemplates directory unit ts s = (.ok paths, t)) :
    (∀ u ∈ ts, ∃ text, u.text = .ok text) ∧
      s.workspace.storeAll (entriesOf directory unit ts) = .ok t.workspace ∧
      paths = ts.map (pathFor directory unit) ∧ t.written = s.written := by
  obtain ⟨w, htexts, hstore, hpaths, rfl⟩ := writeTemplates_eq_ok_iff.1 h
  rw [workspace_noted _ (Workspace.contentAt?_storeAll hstore).1]
  exact ⟨htexts, hstore, hpaths, rfl⟩

/-- Templates that have texts are written if their files can be stored. -/
theorem exists_writeTemplates {ts : List Template} {w : Workspace}
    (htexts : ∀ u ∈ ts, ∃ text, u.text = .ok text)
    (h : s.workspace.storeAll (entriesOf directory unit ts) = .ok w) :
    ∃ paths t, writeTemplates directory unit ts s = (.ok paths, t) :=
  ⟨_, _, writeTemplates_eq_ok_iff.2 ⟨w, htexts, h, rfl, rfl⟩⟩

/-- An output that is reported to the writer has texts, its files are stored, and they count as
written. -/
theorem stored_report {g : GeneratorId} {o : Output} {a : Unit}
    (h : report g (fun o => discard (write directory o)) o s = (.ok a, t)) :
    (∀ u ∈ o.templates, ∃ text, u.text = .ok text) ∧
      s.workspace.storeAll (entriesOf directory o.unit o.templates) = .ok t.workspace ∧
      t.written = s.written ++ o.templates.map (pathFor directory o.unit) := by
  unfold report at h
  rw [Action.get_bind, Action.note_bind] at h
  obtain ⟨paths, s₁, h₁, rest₁⟩ := Action.bind_eq_ok_iff.1 h
  obtain ⟨-, ht⟩ := Action.pure_eq_ok_iff.1 rest₁
  unfold write at h₁
  obtain ⟨paths', s₂, h₂, rest₂⟩ := Action.bind_eq_ok_iff.1 h₁
  obtain ⟨_, s₃, h₃, rest₃⟩ := Action.bind_eq_ok_iff.1 rest₂
  obtain ⟨-, hs₁⟩ := Action.pure_eq_ok_iff.1 rest₃
  obtain ⟨htexts, hstored, hpaths, hwritten⟩ := stored_writeTemplates h₂
  rw [ht, hs₁, Action.modify_eq_ok_iff.1 h₃]
  refine ⟨htexts, hstored, ?_⟩
  rw [hwritten, hpaths]
  rfl

/-- An output that has texts is taken by the writer if its files can be stored. -/
theorem exists_report {g : GeneratorId} {o : Output} {w : Workspace}
    (htexts : ∀ u ∈ o.templates, ∃ text, u.text = .ok text)
    (h : s.workspace.storeAll (entriesOf directory o.unit o.templates) = .ok w) :
    ∃ t, report g (fun o => discard (write directory o)) o s = (.ok (), t) := by
  obtain ⟨paths, t, ht⟩ := exists_writeTemplates
    (s := s.noted [.reported g o s.printers.current?]) htexts h
  refine ⟨{ t with written := t.written ++ paths }, ?_⟩
  unfold report
  rw [Action.get_bind, Action.note_bind]
  refine Action.bind_eq_ok_iff.2 ⟨paths, _, ?_, rfl⟩
  exact Action.bind_eq_ok_iff.2 ⟨paths, t, ht, rfl⟩

/-- A plan that is carried out before the writer gives outputs that have texts, their files are
stored, and they count as written. -/
theorem stored_carryOut {g : GeneratorId} {plan : Plan} {outputs : List Output}
    (h : plan.carryOut g (fun o => discard (write directory o)) s = (.ok outputs, t)) :
    (∀ o ∈ outputs, ∀ u ∈ o.templates, ∃ text, u.text = .ok text) ∧
      s.workspace.storeAll (entries directory outputs) = .ok t.workspace ∧
      t.written = s.written ++ (entries directory outputs).map Prod.fst := by
  induction plan generalizing s t outputs with
  | done =>
    obtain ⟨rfl, rfl⟩ := Action.pure_eq_ok_iff.1 h
    exact ⟨nofun, rfl, (List.append_nil _).symm⟩
  | fail fault => cases h
  | note es rest ih => exact @ih (s.noted es) t outputs h
  | output o rest ih =>
    rw [Plan.carryOut] at h
    obtain ⟨_, s₁, h₁, rest₁⟩ := Action.bind_eq_ok_iff.1 h
    obtain ⟨outputs', s₂, h₂, rest₂⟩ := Action.bind_eq_ok_iff.1 rest₁
    obtain ⟨houtputs, ht⟩ := Action.pure_eq_ok_iff.1 rest₂
    obtain ⟨htexts, hstored, hwritten⟩ := stored_report h₁
    obtain ⟨htexts', hstored', hwritten'⟩ := ih h₂
    rw [← houtputs, ht]
    refine ⟨List.forall_mem_cons.2 ⟨htexts, htexts'⟩, ?_, ?_⟩
    · exact Workspace.storeAll_append_eq_ok_iff.2 ⟨s₁.workspace, hstored, hstored'⟩
    · rw [hwritten', hwritten, map_fst_entries, map_fst_entries, List.flatMap_cons,
        List.append_assoc]

/-- A plan can be carried out before the writer if its outputs have texts and their files can be
stored. -/
theorem exists_carryOut (g : GeneratorId) {plan : Plan} {outputs : List Output} {w : Workspace}
    (h : plan.outcome = .ok outputs)
    (htexts : ∀ o ∈ outputs, ∀ u ∈ o.templates, ∃ text, u.text = .ok text)
    (hstore : s.workspace.storeAll (entries directory outputs) = .ok w) :
    ∃ t, plan.carryOut g (fun o => discard (write directory o)) s = (.ok outputs, t) := by
  induction plan generalizing s outputs with
  | done =>
    cases h
    exact ⟨s, rfl⟩
  | fail fault => cases h
  | note es rest ih => exact @ih (s.noted es) outputs h htexts hstore
  | output o rest ih =>
    rw [Plan.outcome] at h
    cases hrest : rest.outcome with
    | error fault =>
      rw [hrest] at h
      cases h
    | ok outputs' =>
      rw [hrest] at h
      cases h
      obtain ⟨hfirst, hmore⟩ := List.forall_mem_cons.1 htexts
      obtain ⟨v, hv, hw⟩ := Workspace.storeAll_append_eq_ok_iff.1 hstore
      obtain ⟨s₁, h₁⟩ := exists_report (g := g) hfirst hv
      have hsame : s₁.workspace = v := Except.ok.inj ((stored_report h₁).2.1.symm.trans hv)
      obtain ⟨t, ht⟩ := ih hrest hmore (hsame ▸ hw)
      rw [Plan.carryOut]
      exact ⟨t, Action.bind_eq_ok_iff.2 ⟨_, s₁, h₁, Action.bind_eq_ok_iff.2 ⟨outputs', t, ht, rfl⟩⟩⟩

end Steps

end Writer

end Interop
