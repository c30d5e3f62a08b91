import Interop.FileTree

/-!
# Walking, entering and writing

Where names lead is a matter of the names alone; the directories of a tree only say whether the way
is open. Entering makes directories and leaves files alone, so a way that was open stays open. A
file that is written can be read along its way, and files at other places keep their contents.
-/

namespace Interop.FileTree

/-- The place to which names lead if all directories on the way are there. -/
def destination (here : List String) : List String → List String
  | [] => here
  | name :: rest =>
    if name = ".." then destination here.dropLast rest else destination (here ++ [name]) rest

/-- Whether every directory of one tree is a directory of another. -/
def Extends (t u : FileTree) : Prop :=
  ∀ place, t.isDirectoryAt place = true → u.isDirectoryAt place = true

/-- Whether a place and all places above it are directories. -/
def IsOpenAt (t : FileTree) (here : List String) : Prop :=
  ∀ place, place <+: here → t.isDirectoryAt place = true

section Extending

variable {t u v : FileTree}

/-- A tree extends itself. -/
theorem Extends.refl (t : FileTree) : t.Extends t := fun _ h => h

/-- A tree extends what its extensions extend. -/
theorem Extends.trans (h : t.Extends u) (h' : u.Extends v) : t.Extends v :=
  fun place hp => h' place (h place hp)

/-- The root is open. -/
theorem isOpenAt_nil (t : FileTree) : t.IsOpenAt [] := by
  intro place h
  rw [List.prefix_nil.1 h]
  rfl

/-- What is open stays open in an extension. -/
theorem IsOpenAt.mono {here : List String} (h : t.IsOpenAt here) (hu : t.Extends u) :
    u.IsOpenAt here := fun place hp => hu place (h place hp)

/-- Above an open place everything is open. -/
theorem IsOpenAt.dropLast {here : List String} (h : t.IsOpenAt here) :
    t.IsOpenAt here.dropLast :=
  fun place hp => h place (hp.trans (List.dropLast_prefix here))

/-- A directory in an open place is open. -/
theorem IsOpenAt.concat {here : List String} (h : t.IsOpenAt here) {name : String}
    (hn : t.isDirectoryAt (here ++ [name]) = true) : t.IsOpenAt (here ++ [name]) := by
  intro place hp
  rcases List.prefix_concat_iff.1 hp with rfl | hp
  · exact hn
  · exact h place hp

end Extending

section Walking

variable {t u : FileTree}

/-- Names that are walked along lead to their destination. -/
theorem walk_eq_destination {here names place : List String}
    (h : t.walk here names = some place) : place = destination here names := by
  induction names generalizing here with
  | nil => exact (Option.some.inj h).symm
  | cons name rest ih =>
    rw [walk] at h
    rw [destination]
    split at h
    · split at h
      · rename_i hn
        rw [if_pos hn]
        exact ih h
      · rename_i hn
        rw [if_neg hn]
        exact ih h
    · cases h

/-- A way that is open stays open in an extension. -/
theorem walk_of_extends (hu : t.Extends u) {here names place : List String}
    (h : t.walk here names = some place) : u.walk here names = some place := by
  induction names generalizing here with
  | nil => exact h
  | cons name rest ih =>
    rw [walk] at h ⊢
    split at h
    · rename_i hd
      rw [if_pos (hu here hd)]
      split at h
      · rename_i hn
        rw [if_pos hn]
        exact ih h
      · rename_i hn
        rw [if_neg hn]
        exact ih h
    · cases h

/-- Names after names lead on from where those lead. -/
theorem walk_append (t : FileTree) (here names more : List String) :
    t.walk here (names ++ more) = (t.walk here names).bind fun place => t.walk place more := by
  induction names generalizing here with
  | nil => rfl
  | cons name rest ih =>
    rw [List.cons_append, walk, walk]
    split
    · split
      · exact ih _
      · exact ih _
    · rfl

/-- The destination of names after names. -/
theorem destination_append (here names more : List String) :
    destination here (names ++ more) = destination (destination here names) more := by
  induction names generalizing here with
  | nil => rfl
  | cons name rest ih =>
    rw [List.cons_append, destination, destination]
    split
    · exact ih _
    · exact ih _

end Walking

/-- What entering from an open place comes to. -/
structure Entered (t : FileTree) (here names : List String) (u : FileTree)
    (place : List String) : Prop where
  /-- The place is the destination of the names. -/
  place_eq : place = destination here names
  /-- No file is touched. -/
  files : u.files = t.files
  /-- No directory is lost. -/
  grows : t.Extends u
  /-- The place is open. -/
  isOpenAt : u.IsOpenAt place
  /-- The way to the place is open. -/
  walk : u.walk here names = some place

/-- What comes of entering the next place comes of entering by the name that leads there. -/
theorem Entered.step {t v u : FileTree} {here next rest place : List String} {name : String}
    (h : Entered v next rest u place) (hopen : t.IsOpenAt here) (hfiles : v.files = t.files)
    (hgrows : t.Extends v) (hplace : destination here (name :: rest) = destination next rest)
    (hwalk : u.isDirectoryAt here = true → u.walk here (name :: rest) = u.walk next rest) :
    Entered t here (name :: rest) u place := by
  have hhere := (hopen.mono (hgrows.trans h.grows)) here (List.prefix_refl here)
  exact ⟨h.place_eq.trans hplace.symm, h.files.trans hfiles, hgrows.trans h.grows, h.isOpenAt,
    (hwalk hhere).trans h.walk⟩

/-- A tree with one more directory extends the tree. -/
theorem extends_concat (t : FileTree) (place : List String) :
    t.Extends { t with directories := t.directories ++ [place] } := by
  intro q hq
  simp only [isDirectoryAt, Bool.or_eq_true, List.contains_eq_mem, List.mem_append,
    decide_eq_true_eq] at hq ⊢
  exact hq.imp_right Or.inl

/-- A directory that was added is there. -/
theorem isDirectoryAt_concat (t : FileTree) (place : List String) :
    ({ t with directories := t.directories ++ [place] } : FileTree).isDirectoryAt place = true := by
  simp [isDirectoryAt]

/-- Entering makes directories alone and opens the way. The next directory is there, or a file
stands in its way, or it is made. -/
theorem entered_of_enter {t u : FileTree} {here names place : List String}
    (hopen : t.IsOpenAt here) (h : t.enter here names = .ok (u, place)) :
    Entered t here names u place := by
  induction names generalizing t here with
  | nil =>
    cases h
    exact ⟨rfl, rfl, .refl _, hopen, rfl⟩
  | cons name rest ih =>
    rw [enter] at h
    split at h
    · rename_i hn
      refine (ih hopen.dropLast h).step hopen rfl (.refl t) ?_ fun hd => ?_
      · rw [destination, if_pos hn]
      · rw [FileTree.walk, if_pos hd, if_pos hn]
    · rename_i hn
      have hplace : destination here (name :: rest) = destination (here ++ [name]) rest := by
        rw [destination, if_neg hn]
      have hwalk : u.isDirectoryAt here = true →
          u.walk here (name :: rest) = u.walk (here ++ [name]) rest := by
        intro hd
        rw [FileTree.walk, if_pos hd, if_neg hn]
      dsimp only at h
      split at h
      · rename_i hd
        exact (ih (hopen.concat hd) h).step hopen rfl (.refl t) hplace hwalk
      · split at h
        · cases h
        · split at h
          · have hgrows := extends_concat t (here ++ [name])
            have hmade := (hopen.mono hgrows).concat (isDirectoryAt_concat t (here ++ [name]))
            exact (ih hmade h).step hopen rfl hgrows hplace hwalk
          · cases h

section Again

variable {t u v : FileTree}

/-- Where a way is open, entering makes nothing. -/
theorem enter_of_walk {here names place : List String} (hwalk : t.walk here names = some place)
    (hplace : t.isDirectoryAt place = true) : t.enter here names = .ok (t, place) := by
  induction names generalizing here with
  | nil => rw [Option.some.inj hwalk, enter]
  | cons name rest ih =>
    rw [walk] at hwalk
    rw [enter]
    split at hwalk
    · split at hwalk
      · rename_i hn
        rw [if_pos hn]
        exact ih hwalk
      · rename_i hn
        have hnext : t.isDirectoryAt (here ++ [name]) = true := by
          cases rest with
          | nil => rwa [Option.some.inj hwalk]
          | cons second more =>
            rw [walk] at hwalk
            split at hwalk
            · assumption
            · cases hwalk
        dsimp only
        rw [if_neg hn, if_pos hnext]
        exact ih hwalk
    · cases hwalk

/-- Once a place was entered, it is entered again without making anything, in any tree with the same
directories. -/
theorem enter_of_entered {here names place : List String} (h : Entered t here names u place)
    (hv : v.directories = u.directories) : v.enter here names = .ok (v, place) := by
  have hdirectory (q : List String) : u.isDirectoryAt q = true → v.isDirectoryAt q = true := by
    unfold isDirectoryAt
    rw [hv]
    exact id
  exact enter_of_walk (walk_of_extends hdirectory h.walk)
    (hdirectory place (h.isOpenAt place (List.prefix_refl place)))

end Again

section Writing

variable {t u : FileTree}

/-- The file at another place keeps its content. The entry of the written place is dropped and comes
last, and other places are found as before. -/
theorem contentAt?_setContent_of_ne {place q : List String} (h : q ≠ place) (content : String) :
    (t.setContent place content).contentAt? q = t.contentAt? q := by
  have key : ∀ l : List (List String × String),
      ((l.filter (·.1 != place)) ++ [(place, content)]).lookup q = l.lookup q := by
    intro l
    induction l with
    | nil =>
      have hq : (q == place) = false := beq_false_of_ne h
      rw [List.filter_nil, List.nil_append, List.lookup_cons, hq]
    | cons entry rest ih =>
      rw [List.filter_cons, List.lookup_cons]
      split
      · rw [List.cons_append, List.lookup_cons, ih]
      · rename_i he
        have hentry : entry.1 = place := by simpa using he
        have hq : (q == entry.1) = false := beq_false_of_ne (hentry ▸ h)
        rw [hq, ih]
  exact key t.files

/-- A file that is written holds what was written, and the others keep their contents. -/
theorem contentAt?_setContent_eq (place q : List String) (content : String) :
    (t.setContent place content).contentAt? q =
      if q = place then some content else t.contentAt? q := by
  by_cases h : q = place
  · rw [if_pos h, h, contentAt?_setContent]
  · rw [if_neg h, contentAt?_setContent_of_ne h]

/-- Of two contents that are written to one place, the second one stays. -/
theorem setContent_setContent (place : List String) (first second : String) :
    (t.setContent place first).setContent place second = t.setContent place second := by
  have hnot : ((place, first).1 != place) = false := by simp
  unfold setContent
  dsimp only
  rw [List.filter_append, List.filter_filter, List.filter_cons, hnot]
  simp

/-- Writing a file opens and closes no way. -/
theorem walk_setContent (place here names : List String) (content : String) :
    (t.setContent place content).walk here names = t.walk here names := by
  induction names generalizing here with
  | nil => rfl
  | cons name rest ih =>
    rw [walk, walk, ih, ih]
    rfl

/-- A file that is written can be read by a path that leads to it. -/
theorem read?_setContent {p : Path} {place : List String} (h : t.walk [] p.segments = some place)
    (content : String) : (t.setContent place content).read? p = some content := by
  unfold read?
  rw [walk_setContent, h]
  exact contentAt?_setContent t place content

/-- A file whose path leads elsewhere can be read as before. -/
theorem read?_setContent_of_ne {p : Path} {place : List String}
    (h : destination [] p.segments ≠ place) (content : String) :
    (t.setContent place content).read? p = t.read? p := by
  unfold read?
  rw [walk_setContent]
  cases hw : t.walk [] p.segments with
  | none => rfl
  | some q =>
    have hq := walk_eq_destination hw
    exact contentAt?_setContent_of_ne (hq ▸ h) content

/-- A file that can be read can be read in an extension with the same files. -/
theorem read?_of_extends (hu : t.Extends u) (hfiles : u.files = t.files) {p : Path}
    {content : String} (h : t.read? p = some content) : u.read? p = some content := by
  unfold read? at h ⊢
  obtain ⟨place, hw, hc⟩ := Option.bind_eq_some_iff.1 h
  rw [walk_of_extends hu hw]
  unfold contentAt? at hc
  change u.files.lookup place = some content
  rw [hfiles]
  exact hc

/-- There is a place for a file exactly if both texts of its path may be used, its directory can be
entered, and its name is one that no directory has. -/
theorem placeFor_eq_ok_iff {p : Path} {place : List String} :
    t.placeFor p = .ok (u, place) ↔ ∃ here name,
      checkPath p.parent.toString = .ok () ∧ t.enter [] p.segments.dropLast = .ok (u, here) ∧
        checkPath p.toString = .ok () ∧ p.segments.getLast? = some name ∧ name ≠ ".." ∧
        u.isDirectoryAt (here ++ [name]) = false ∧ checkName name = .ok () ∧
        place = here ++ [name] := by
  unfold placeFor
  dsimp only [bind, Except.bind]
  constructor
  · intro h
    split at h
    · cases h
    · rename_i hparent
      split at h
      · cases h
      · rename_i entered henter
        obtain ⟨v, here⟩ := entered
        dsimp only at h
        split at h
        · cases h
        · rename_i hpath
          split at h
          · cases h
          · rename_i name hlast
            split at h
            · cases h
            · rename_i hname
              split at h
              · cases h
              · rename_i hfree
                split at h
                · cases h
                · rename_i hcheck
                  cases h
                  exact ⟨here, name, hparent, henter, hpath, hlast, hname,
                    Bool.eq_false_iff.2 hfree, hcheck, rfl⟩
  · rintro ⟨here, name, hparent, henter, hpath, hlast, hname, hfree, hcheck, rfl⟩
    rw [hparent, henter]
    dsimp only
    rw [hpath, hlast]
    dsimp only
    rw [if_neg hname, hfree, if_neg Bool.false_ne_true, hcheck]
    rfl

/-- The place for a file is where its path leads; making it touches no file and opens the way. -/
theorem place_of_placeFor {p : Path} {place : List String} (h : t.placeFor p = .ok (u, place)) :
    place = destination [] p.segments ∧ u.files = t.files ∧ t.Extends u ∧
      u.walk [] p.segments = some place := by
  obtain ⟨here, name, -, henter, -, hlast, hname, -, -, rfl⟩ := placeFor_eq_ok_iff.1 h
  have hsegments : p.segments = p.segments.dropLast ++ [name] := by
    obtain ⟨names, hnames⟩ := List.getLast?_eq_some_iff.1 hlast
    rw [hnames, List.dropLast_concat]
  have he := entered_of_enter (isOpenAt_nil t) henter
  have hd : u.isDirectoryAt here = true := he.isOpenAt here (List.prefix_refl here)
  refine ⟨?_, he.files, he.grows, ?_⟩
  · rw [hsegments, destination_append, ← he.place_eq, destination, if_neg hname]
    rfl
  · rw [hsegments, walk_append, he.walk, Option.bind_some, walk, if_pos hd, if_neg hname]
    rfl

/-- Once there is a place for a file, there is the same place again in any tree with the same
directories, and nothing is made. -/
theorem placeFor_of_placeFor {p : Path} {place : List String}
    (h : t.placeFor p = .ok (u, place)) {v : FileTree} (hv : v.directories = u.directories) :
    v.placeFor p = .ok (v, place) := by
  obtain ⟨here, name, hparent, henter, hpath, hlast, hname, hfree, hcheck, rfl⟩ :=
    placeFor_eq_ok_iff.1 h
  have hagain := enter_of_entered (entered_of_enter (isOpenAt_nil t) henter) hv
  refine placeFor_eq_ok_iff.2 ⟨here, name, hparent, hagain, hpath, hlast, hname, ?_, hcheck, rfl⟩
  unfold isDirectoryAt at hfree ⊢
  rwa [hv]

/-- Once there is a place for a file, a place for another one of the same directory makes
nothing. -/
theorem placeFor_of_sibling {p q : Path} {place other : List String}
    (h : t.placeFor p = .ok (u, place))
    (hsibling : q.segments.dropLast = p.segments.dropLast) {v w : FileTree}
    (hv : v.directories = u.directories) (hq : v.placeFor q = .ok (w, other)) : w = v := by
  obtain ⟨here, -, -, henter, -⟩ := placeFor_eq_ok_iff.1 h
  obtain ⟨there, -, -, hother, -⟩ := placeFor_eq_ok_iff.1 hq
  have hagain := enter_of_entered (entered_of_enter (isOpenAt_nil t) henter) hv
  rw [hsibling, hagain] at hother
  exact (Prod.mk.inj (Except.ok.inj hother)).1.symm

end Writing

end Interop.FileTree
