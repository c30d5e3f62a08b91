import Interop.Proofs.Pieces
import Interop.Proofs.Shipped
import Interop.Writer

/-!
# Names of files

The file of a template has a single name in the directory of its run: the stem of the unit's file,
the suffix and, after a dot, the extension of the template's form. For the forms of one backend, the
stem and the extension can be told from the name.
-/

namespace Interop

/-- A form whose files have single names: there is no slash in suffix and extension, and the
extension is not empty and holds no dot. -/
structure TemplateForm.NamesFiles (form : TemplateForm) : Prop where
  /-- The suffix holds no slash. -/
  suffix : '/' ∉ form.suffix.toList
  /-- The extension holds no slash. -/
  extension : '/' ∉ form.extension.toList
  /-- The extension is not empty. -/
  ne_nil : form.extension.toList ≠ []
  /-- The extension holds no dot. -/
  dot : '.' ∉ form.extension.toList

/-- The files of the shipped forms have single names. -/
theorem Backend.namesFiles_forms {target : Target} {form : TemplateForm} (h : form ∈ forms target) :
    form.NamesFiles := by
  cases target with
  | cppCli =>
    rcases List.mem_cons.1 h with rfl | h
    · exact ⟨by decide, by decide, by decide, by decide⟩
    · rcases List.mem_singleton.1 h with rfl
      exact ⟨by decide, by decide, by decide, by decide⟩
  | csharp =>
    rcases List.mem_singleton.1 h with rfl
    exact ⟨by decide, by decide, by decide, by decide⟩

/-- The forms of a shipped backend can be told apart by their extensions. -/
theorem Backend.nodup_extensions (target : Target) :
    ((forms target).map (·.extension)).Nodup := by
  cases target <;> decide

/-- The suffix of the files that a shipped backend writes. -/
def Backend.suffix : Target → String
  | .cppCli => Template.CppCli.suffix
  | .csharp => ""

/-- All forms of a shipped backend have the same suffix. -/
theorem Backend.suffix_of_mem_forms {target : Target} {form : TemplateForm}
    (h : form ∈ forms target) : form.suffix = suffix target := by
  cases target with
  | cppCli =>
    rcases List.mem_cons.1 h with rfl | h
    · rfl
    · rcases List.mem_singleton.1 h with rfl
      rfl
  | csharp =>
    rcases List.mem_singleton.1 h with rfl
    rfl

namespace Path

/-- A name is its stem with an extension, which is empty or starts with a dot. What is dropped from
the end of a name to get its stem stands after the last dot. -/
theorem exists_extension (name : List Char) :
    ∃ extension, name = stem name ++ extension ∧
      (extension = [] ∨ ∃ rest, extension = '.' :: rest) := by
  unfold stem
  split
  · exact ⟨[], (List.append_nil name).symm, .inl rfl⟩
  · rename_i dot before h
    split
    · exact ⟨[], (List.append_nil name).symm, .inl rfl⟩
    · have hdot : dot = '.' := by
        have hhead := List.head?_dropWhile_not (· != '.') name.reverse
        rw [h] at hhead
        simpa using hhead
      have hname : name.reverse = name.reverse.takeWhile (· != '.') ++ dot :: before := by
        rw [← h, List.takeWhile_append_dropWhile]
      refine ⟨dot :: (name.reverse.takeWhile (· != '.')).reverse, ?_, .inr ⟨_, by rw [hdot]⟩⟩
      have hsplit := congrArg List.reverse hname
      rwa [List.reverse_reverse, List.reverse_append, List.reverse_cons, List.append_assoc]
        at hsplit

/-- A stem is made of characters of the name. -/
theorem mem_of_mem_stem {name : List Char} {c : Char} (h : c ∈ stem name) : c ∈ name := by
  obtain ⟨extension, hname, -⟩ := exists_extension name
  rw [hname]
  exact List.mem_append_left extension h

/-- A text without separators is a single piece. -/
theorem pieces_of_not_mem {cs : List Char} (h : '/' ∉ cs) :
    Text.Split.pieces (· == '/') cs = [cs] := by
  have hpieces := Text.Split.pieces_intercalate (List.cons_ne_nil cs [])
    (List.forall_mem_singleton.2 h)
  rwa [List.intercalate_singleton] at hpieces

/-- A text without slashes that is neither empty nor a single dot is a path of one segment. -/
theorem ofString_of_not_mem {s : String} (h : '/' ∉ s.toList) (hempty : s.toList ≠ [])
    (hdot : s.toList ≠ ['.']) : ofString s = ⟨0, [s]⟩ := by
  have hlead : s.toList.takeWhile (· == '/') = [] := by
    cases hs : s.toList with
    | nil => rfl
    | cons c rest =>
      have hc : (c == '/') = false :=
        beq_false_of_ne fun he => h (hs ▸ he ▸ List.mem_cons_self)
      rw [List.takeWhile_cons, hc]
      rfl
  unfold ofString
  dsimp only
  rw [hlead, pieces_of_not_mem h]
  simp [hempty, hdot]

/-- The path of a name in a directory. -/
def child (directory : Path) (name : String) : Path :=
  { directory with segments := directory.segments ++ [name] }

/-- A name in a directory, seen from a working directory. -/
theorem segments_join_child (base directory : Path) (name : String) :
    (base.join (directory.child name)).segments = (base.join directory).segments ++ [name] := by
  unfold join child isAbsolute
  dsimp only
  split
  · rfl
  · exact (List.append_assoc ..).symm

end Path

/-- A file stem holds no slash. -/
theorem SourceUnit.not_mem_fileStem (u : SourceUnit) : '/' ∉ u.fileStem.toList := by
  unfold fileStem
  rw [String.toList_ofList]
  exact fun h => Path.not_mem_baseName _ (Path.mem_of_mem_stem h)

namespace Writer

section Names

variable {unit : SourceUnit} {t : Template}

/-- The characters of a file name. -/
theorem toList_fileName (unit : SourceUnit) (t : Template) : (fileName unit t).toList =
    (unit.fileStem.toList ++ t.form.suffix.toList) ++ '.' :: t.form.extension.toList := by
  unfold fileName
  rw [String.toList_append, String.toList_append, String.toList_append, List.append_assoc]
  rfl

/-- A file name holds a character that is no dot. -/
theorem exists_mem_fileName (unit : SourceUnit) (h : t.form.NamesFiles) :
    ∃ c ∈ (fileName unit t).toList, c ≠ '.' := by
  obtain ⟨c, hc⟩ := List.exists_mem_of_ne_nil _ h.ne_nil
  refine ⟨c, ?_, fun he => h.dot (he ▸ hc)⟩
  rw [toList_fileName]
  exact List.mem_append_right _ (List.mem_cons_of_mem _ hc)

/-- A file name is no text of dots alone. -/
theorem fileName_ne_of_dots (unit : SourceUnit) (h : t.form.NamesFiles) {name : String}
    (hdots : ∀ c ∈ name.toList, c = '.') : fileName unit t ≠ name := by
  intro he
  obtain ⟨c, hc, hne⟩ := exists_mem_fileName unit h
  exact hne (hdots c (he ▸ hc))

/-- A file name does not step back. -/
theorem fileName_ne_parent (h : t.form.NamesFiles) : fileName unit t ≠ ".." :=
  fileName_ne_of_dots unit h (by simp)

/-- A file name holds no slash. -/
theorem not_mem_fileName (unit : SourceUnit) (h : t.form.NamesFiles) :
    '/' ∉ (fileName unit t).toList := by
  rw [toList_fileName]
  intro hm
  rcases List.mem_append.1 hm with hm | hm
  · rcases List.mem_append.1 hm with hm | hm
    · exact unit.not_mem_fileStem hm
    · exact h.suffix hm
  · rcases List.mem_cons.1 hm with hm | hm
    · exact absurd hm (by decide)
    · exact h.extension hm

/-- The file of a template has a single name in the directory. -/
theorem pathFor_eq_child (directory : Path) (h : t.form.NamesFiles) :
    pathFor directory unit t = directory.child (fileName unit t) := by
  obtain ⟨c, hc, hne⟩ := exists_mem_fileName unit h
  have hpath : Path.ofString (fileName unit t) = ⟨0, [fileName unit t]⟩ := by
    refine Path.ofString_of_not_mem (not_mem_fileName unit h) (List.ne_nil_of_mem hc) fun he => ?_
    rw [he] at hc
    exact hne (List.mem_singleton.1 hc)
  unfold pathFor
  rw [hpath]
  rfl

end Names

/-- The characters before and after the last dot can be told from the whole. -/
theorem eq_of_append_dot {a b e f : List Char} (he : '.' ∉ e) (hf : '.' ∉ f)
    (h : a ++ '.' :: e = b ++ '.' :: f) : a = b ∧ e = f := by
  have key : ∀ {c e f : List Char}, '.' ∉ e → '.' :: e = c ++ '.' :: f → c = [] ∧ e = f := by
    intro c e f he h
    cases c with
    | nil => exact ⟨rfl, (List.cons.inj h).2⟩
    | cons d rest =>
      rw [List.cons_append] at h
      exact absurd ((List.cons.inj h).2 ▸ List.mem_append_right rest List.mem_cons_self) he
  rcases List.append_eq_append_iff.1 h with ⟨c, hb, hc⟩ | ⟨c, ha, hc⟩
  · obtain ⟨rfl, hef⟩ := key he hc
    exact ⟨(hb.trans (List.append_nil a)).symm, hef⟩
  · obtain ⟨rfl, hfe⟩ := key hf hc
    exact ⟨ha.trans (List.append_nil b), hfe.symm⟩

/-- Two templates of one backend share a file name exactly if their units share the stem and they
share the extension. -/
theorem fileName_eq_iff {target : Target} {unit unit' : SourceUnit} {t t' : Template}
    (h : t.form ∈ Backend.forms target) (h' : t'.form ∈ Backend.forms target) :
    fileName unit t = fileName unit' t' ↔
      unit.fileStem = unit'.fileStem ∧ t.form.extension = t'.form.extension := by
  have hsuffix : t.form.suffix = t'.form.suffix :=
    (Backend.suffix_of_mem_forms h).trans (Backend.suffix_of_mem_forms h').symm
  constructor
  · intro he
    have hl := congrArg String.toList he
    rw [toList_fileName, toList_fileName] at hl
    obtain ⟨hstem, hextension⟩ := eq_of_append_dot (Backend.namesFiles_forms h).dot
      (Backend.namesFiles_forms h').dot hl
    rw [hsuffix] at hstem
    exact ⟨String.toList_inj.1 (List.append_cancel_right hstem), String.toList_inj.1 hextension⟩
  · rintro ⟨hstem, hextension⟩
    unfold fileName
    rw [hstem, hsuffix, hextension]

end Writer

end Interop
