import Interop.Proofs.Containment

/-!
# Writes that are refused

The writer opens one file after the other, each before its text is asked for. So an output with a
template that is not processed is refused half way: the files of the templates before it are there
with their texts, its own file is there and empty, and nothing counts as written. All other files
are what they were.
-/

namespace Interop

open Session

namespace Template

variable {t : Template}

/-- A template whose text can be read is processed. -/
theorem isProcessed_of_text {text : String} (h : t.text = .ok text) : t.isProcessed = true := by
  rw [isProcessed, text?_of_text h, Option.isSome_some]

/-- A text cannot be read exactly if the template is not processed, and that is the fault. -/
theorem text_eq_error_iff {fault : TemplateFault} :
    t.text = .error fault ↔ t.text? = none ∧ fault = .unprocessed t.form.name := by
  unfold text
  cases t.text? with
  | some text => exact ⟨fun h => (nomatch h), fun h => (nomatch h.1)⟩
  | none => exact ⟨fun h => ⟨rfl, (Except.error.inj h).symm⟩, fun h => congrArg _ h.2.symm⟩

end Template

namespace Writer

section Refusals

variable {directory : Path} {unit : SourceUnit} {s t : Session} {fault : TemplateFault}

/-- A template is refused by the writer exactly if its text cannot be read and an empty file can be
stored for it. The empty file is what is left, and nothing else changes. Only the reading of the
text ends by a fault of a template. -/
theorem writeTemplate_eq_refused_iff {template : Template} :
    writeTemplate directory unit template s = (.error (.template fault), t) ↔ ∃ w,
      template.text = .error fault ∧
        s.workspace.store (pathFor directory unit template) "" = .ok w ∧
        t = { s with files := w.files } := by
  unfold writeTemplate
  rw [Action.get_bind]
  constructor
  · intro h
    rcases Action.bind_eq_error_iff.1 h with h₁ | ⟨⟨files, place⟩, s₁, h₁, rest₁⟩
    · obtain ⟨cause, -, hcause, -⟩ := Action.ofExcept_eq_error_iff.1 h₁
      cases hcause
    obtain ⟨hplaced, hs₁⟩ := Action.ofExcept_eq_ok_iff.1 h₁
    dsimp only at rest₁
    rw [Action.modify_bind] at rest₁
    rcases Action.bind_eq_error_iff.1 rest₁ with h₂ | ⟨text, s₂, -, rest₂⟩
    · obtain ⟨cause, htext, hcause, ht⟩ := Action.ofExcept_eq_error_iff.1 h₂
      cases hcause
      refine ⟨⟨files.setContent place "", s.workingDirectory⟩, htext,
        Workspace.store_eq_ok_iff.2 ⟨files, place, hplaced, rfl, rfl⟩, ?_⟩
      rw [ht, hs₁]
    · rcases Action.bind_eq_error_iff.1 rest₂ with h₃ | ⟨_, s₃, -, rest₃⟩
      · obtain ⟨cause, -, hcause, -⟩ := Action.ofExcept_eq_error_iff.1 h₃
        cases hcause
      · rw [Action.modify_bind, Action.log_bind] at rest₃
        cases rest₃
  · rintro ⟨w, htext, hstore, rfl⟩
    obtain ⟨files, place, hplaced, -, rfl⟩ := Workspace.store_eq_ok_iff.1 hstore
    have hopened : Action.ofExcept .file (s.files.placeFor (s.workingDirectory.join
        (pathFor directory unit template))) s = (.ok (files, place), s) :=
      Action.ofExcept_eq_ok_iff.2 ⟨hplaced, rfl⟩
    rw [Action.bind_of_ok hopened]
    dsimp only
    rw [Action.modify_bind, htext]
    rfl

/-- Writing templates ends by a fault exactly if some of them are written and the next one ends by
that fault. -/
theorem writeTemplates_eq_error_iff {ts : List Template} {fault : Fault} :
    writeTemplates directory unit ts s = (.error fault, t) ↔
      ∃ before last after paths m, ts = before ++ last :: after ∧
        writeTemplates directory unit before s = (.ok paths, m) ∧
        writeTemplate directory unit last m = (.error fault, t) := by
  induction ts generalizing s with
  | nil =>
    refine ⟨fun h => (nomatch h), fun ⟨before, last, after, _, _, h, _⟩ => ?_⟩
    exact absurd h.symm (List.append_ne_nil_of_right_ne_nil _ (List.cons_ne_nil _ _))
  | cons template more ih =>
    rw [writeTemplates]
    constructor
    · intro h
      rcases Action.bind_eq_error_iff.1 h with h₁ | ⟨path, s₁, h₁, rest₁⟩
      · exact ⟨[], template, more, [], s, rfl, rfl, h₁⟩
      · rcases Action.bind_eq_error_iff.1 rest₁ with h₂ | ⟨paths, s₂, -, rest₂⟩
        · obtain ⟨before, last, after, paths, m, rfl, hbefore, hlast⟩ := ih.1 h₂
          refine ⟨template :: before, last, after, path :: paths, m, rfl, ?_, hlast⟩
          exact Action.bind_eq_ok_iff.2 ⟨path, s₁, h₁,
            Action.bind_eq_ok_iff.2 ⟨paths, m, hbefore, rfl⟩⟩
        · cases rest₂
    · rintro ⟨before, last, after, paths, m, hts, hbefore, hlast⟩
      cases before with
      | nil =>
        obtain ⟨rfl, -⟩ := List.cons.inj hts
        obtain ⟨-, rfl⟩ := Action.pure_eq_ok_iff.1 hbefore
        exact Action.bind_of_error hlast _
      | cons first others =>
        obtain ⟨rfl, rfl⟩ := List.cons.inj hts
        obtain ⟨path, s₁, h₁, rest₁⟩ := Action.bind_eq_ok_iff.1 hbefore
        obtain ⟨paths', s₂, h₂, rest₂⟩ := Action.bind_eq_ok_iff.1 rest₁
        obtain ⟨-, rfl⟩ := Action.pure_eq_ok_iff.1 rest₂
        rw [Action.bind_of_ok h₁]
        exact Action.bind_of_error (ih.2 ⟨others, last, after, paths', m, rfl, h₂, hlast⟩) _

/-- Writing an output ends by a fault exactly if writing its templates does: nothing can go wrong
once they are written. -/
theorem write_eq_error_iff {output : Output} {fault : Fault} :
    write directory output s = (.error fault, t) ↔
      writeTemplates directory output.unit output.templates s = (.error fault, t) := by
  unfold write
  refine Action.bind_eq_error_iff.trans ⟨?_, .inl⟩
  rintro (h | ⟨paths, m, -, h⟩)
  · exact h
  · rw [Action.modify_bind] at h
    cases h

/-- The files of templates are stored exactly if those of all but the last are, and then that one
is. -/
theorem storeAll_entriesOf_concat_iff {before : List Template} {last : Template}
    {v w : Workspace} : w.storeAll (entriesOf directory unit (before ++ [last])) = .ok v ↔
      ∃ u, w.storeAll (entriesOf directory unit before) = .ok u ∧
        u.store (pathFor directory unit last) (last.text?.getD "") = .ok v := by
  unfold entriesOf
  rw [List.map_append, Workspace.storeAll_append_eq_ok_iff]
  refine exists_congr fun u => and_congr_right fun _ => ?_
  rw [List.map_singleton, Workspace.storeAll_cons_eq_ok_iff]
  dsimp only [Workspace.storeAll]
  constructor
  · rintro ⟨x, hx, hv⟩
    rw [hx, Except.ok.inj hv]
  · exact fun hv => ⟨v, hv, rfl⟩

/-- Writing an output is refused exactly if one of its templates has no text, those before it have
texts, and the files up to it can be stored, its own file empty. These files, and the records of
those before it, are what is left, and nothing else changes. -/
theorem write_eq_refused_iff {output : Output} :
    write directory output s = (.error (.template fault), t) ↔
      ∃ before refused after w, output.templates = before ++ refused :: after ∧
        (∀ u ∈ before, ∃ text, u.text = .ok text) ∧ refused.text = .error fault ∧
        s.workspace.storeAll (entriesOf directory output.unit (before ++ [refused])) = .ok w ∧
        t = noted (announcements directory output.unit before) { s with files := w.files } := by
  rw [write_eq_error_iff, writeTemplates_eq_error_iff]
  constructor
  · rintro ⟨before, refused, after, paths, m, hsplit, hbefore, hrefused⟩
    obtain ⟨v, htexts, hv, -, rfl⟩ := writeTemplates_eq_ok_iff.1 hbefore
    obtain ⟨w, htext, hw, rfl⟩ := writeTemplate_eq_refused_iff.1 hrefused
    rw [workspace_noted _ (Workspace.contentAt?_storeAll hv).1] at hw
    refine ⟨before, refused, after, w, hsplit, htexts, htext, ?_, rfl⟩
    rw [storeAll_entriesOf_concat_iff, (Template.text_eq_error_iff.1 htext).1]
    exact ⟨v, hv, hw⟩
  · rintro ⟨before, refused, after, w, hsplit, htexts, htext, hstore, rfl⟩
    rw [storeAll_entriesOf_concat_iff, (Template.text_eq_error_iff.1 htext).1] at hstore
    obtain ⟨v, hv, hw⟩ := hstore
    have hbefore := writeTemplates_eq_ok_iff.2 ⟨v, htexts, hv, rfl, rfl⟩
    rw [← workspace_noted (announcements directory output.unit before)
      (Workspace.contentAt?_storeAll hv).1] at hw
    exact ⟨before, refused, after, _, _, hsplit, hbefore,
      writeTemplate_eq_refused_iff.2 ⟨w, htext, hw, rfl⟩⟩

end Refusals

end Writer

/-- The last of some files that are stored in one place is what is found there. -/
theorem Workspace.contentAt?_storeAll_of_last {w v : Workspace}
    {before after : List (Path × String)} {p : Path} {content : String}
    (h : w.storeAll (before ++ (p, content) :: after) = .ok v)
    (hlast : ∀ q ∈ after.map Prod.fst, w.placeOf q ≠ w.placeOf p) :
    v.files.contentAt? (w.placeOf p) = some content := by
  obtain ⟨u, hu, hrest⟩ := storeAll_append_eq_ok_iff.1 h
  obtain ⟨x, hx, hafter⟩ := storeAll_cons_eq_ok_iff.1 hrest
  obtain ⟨hxu, hone⟩ := contentAt?_store hx
  have hplace (q : Path) : u.placeOf q = w.placeOf q ∧ x.placeOf q = w.placeOf q := by
    unfold placeOf
    rw [hxu, (contentAt?_storeAll hu).1]
    exact ⟨rfl, rfl⟩
  rw [contentAt?_storeAll_of_not_mem hafter, hone, (hplace p).1, if_pos rfl]
  exact fun q hq => (hplace q).2 ▸ hlast q hq

/-- Of the templates whose files are stored, the last one with a place is what is found there. -/
theorem Writer.contentAt?_of_last {directory : Path} {unit : SourceUnit} {v w : Workspace}
    {before after : List Template} {u : Template}
    (h : w.storeAll (entriesOf directory unit (before ++ u :: after)) = .ok v)
    (hlast : ∀ x ∈ after,
      w.placeOf (pathFor directory unit x) ≠ w.placeOf (pathFor directory unit u)) :
    v.files.contentAt? (w.placeOf (pathFor directory unit u)) = some (u.text?.getD "") := by
  unfold entriesOf at h
  rw [List.map_append, List.map_cons] at h
  refine Workspace.contentAt?_storeAll_of_last h fun q hq => ?_
  obtain ⟨x, hx, rfl⟩ := List.mem_map.1 ((map_fst_entriesOf directory unit after) ▸ hq)
  exact hlast x hx

/-- If writing an output is refused, since a text cannot be read, then the first template without a
text is the one that is named, and no path counts as written. Files are opened one after the other,
each before its text is asked for: the file of that template is there and empty, the file of every
template before it holds its text unless a later one of them has the same place, and no other file
is created or changed. -/
theorem write_refused {directory : Path} {output : Output} {s t : Session} {fault : TemplateFault}
    (h : Writer.write directory output s = (.error (.template fault), t)) :
    let place (u : Template) := s.workspace.placeOf (Writer.pathFor directory output.unit u)
    ∃ before refused after, output.templates = before ++ refused :: after ∧
      (∀ u ∈ before, u.isProcessed = true) ∧ refused.isProcessed = false ∧
      fault = .unprocessed refused.form.name ∧ t.written = s.written ∧
      t.files.contentAt? (place refused) = some "" ∧
      (∀ us u vs, before = us ++ u :: vs → (∀ v ∈ vs ++ [refused], place v ≠ place u) →
        t.files.contentAt? (place u) = u.text?) ∧
      ∀ q, (∀ u ∈ before ++ [refused], place u ≠ q) →
        t.files.contentAt? q = s.files.contentAt? q := by
  intro place
  obtain ⟨before, refused, after, w, hsplit, htexts, htext, hstore, rfl⟩ :=
    Writer.write_eq_refused_iff.1 h
  obtain ⟨hnone, hfault⟩ := Template.text_eq_error_iff.1 htext
  have hprocessed : ∀ u ∈ before, u.isProcessed = true := fun u hu => by
    obtain ⟨text, hread⟩ := htexts u hu
    exact Template.isProcessed_of_text hread
  have hunprocessed : refused.isProcessed = false := by
    rw [Template.isProcessed, hnone, Option.isSome_none]
  refine ⟨before, refused, after, hsplit, hprocessed, hunprocessed, hfault, rfl, ?_, ?_, ?_⟩
  · have hempty := Writer.contentAt?_of_last hstore fun _ hx => absurd hx List.not_mem_nil
    rw [hnone] at hempty
    exact hempty
  · rintro us u vs rfl hlater
    rw [List.append_assoc, List.cons_append] at hstore
    obtain ⟨text, hread⟩ := htexts u (List.mem_append_right us List.mem_cons_self)
    have hheld := Writer.contentAt?_of_last hstore hlater
    rw [Writer.getD_text?_of_text hread] at hheld
    rw [Template.text?_of_text hread]
    exact hheld
  · intro q hq
    refine Workspace.contentAt?_storeAll_of_not_mem hstore fun p hp => ?_
    rw [Writer.map_fst_entriesOf] at hp
    obtain ⟨u, hu, rfl⟩ := List.mem_map.1 hp
    exact hq u hu

/-- An output for a file `a.h` with three templates, of which the second one is not processed. -/
def Output.unfinished : Output where
  unit := .ofEnumerations "b/a.h" [] true
  templates := [written "h" "one", template "txt" "two", written "log" "three"]
where
  /-- A template that is not processed yet. -/
  template (extension text : String) : Template :=
    .make (.fixed "Fixed" extension "" text) [] ⟨"", CType.spelling, none, none⟩
  /-- A template that is processed. -/
  written (extension text : String) : Template :=
    { template extension text with text? := some text }

/-- A session that finds two files in its directory, one of them where the second template of that
output is written. -/
def keepingSession : Session :=
  { writingSession with
    files := ⟨[["out"]], [(["out", "keep.txt"], "kept"), (["out", "a.txt"], "old")]⟩ }

/-- Writing this output is refused, and the second file does not hold what it held. -/
theorem write_unfinished : ∃ t, Writer.write ⟨0, ["out"]⟩ .unfinished keepingSession =
      (.error (.template (.unprocessed "Fixed")), t) ∧
    t.files.contentAt? ["out", "a.txt"] ≠ some "old" :=
  ⟨_, rfl, by decide +kernel⟩

/-- The templates before the first unprocessed one are those up to where processing ends. -/
theorem split_unprocessed {ts before after : List Template} {refused : Template}
    (hsplit : ts = before ++ refused :: after) (hbefore : ∀ u ∈ before, u.isProcessed = true)
    (hrefused : refused.isProcessed = false) :
    before = ts.takeWhile (·.isProcessed) ∧ refused :: after = ts.dropWhile (·.isProcessed) := by
  have hstop : ¬ refused.isProcessed = true := Bool.eq_false_iff.1 hrefused
  rw [hsplit, List.takeWhile_append_of_pos hbefore, List.dropWhile_append_of_pos hbefore,
    List.takeWhile_cons_of_neg hstop, List.dropWhile_cons_of_neg hstop, List.append_nil]
  exact ⟨rfl, rfl⟩

/-- The first file of this output holds its text, the second one is empty, the third one is not
there, and the other file of the directory is kept. -/
theorem write_refused_unfinished : ∃ t,
    Writer.write ⟨0, ["out"]⟩ .unfinished keepingSession =
      (.error (.template (.unprocessed "Fixed")), t) ∧
    t.written = keepingSession.written ∧
    t.files.contentAt? ["out", "a.h"] = some "one" ∧
    t.files.contentAt? ["out", "a.txt"] = some "" ∧
    t.files.contentAt? ["out", "a.log"] = none ∧
    t.files.contentAt? ["out", "keep.txt"] = some "kept" := by
  obtain ⟨t, h, -⟩ := write_unfinished
  obtain ⟨before, refused, after, hsplit, hbefore, hrefused, -, hwritten, hempty, hheld, hkept⟩ :=
    write_refused h
  obtain ⟨hfirst, hrest⟩ := split_unprocessed hsplit hbefore hrefused
  have hsecond : refused = Output.unfinished.template "txt" "two" := (List.cons.inj hrest).1
  subst hfirst hsecond
  have hone := hheld [] (Output.unfinished.written "h" "one") [] rfl (by decide +kernel)
  have hfirstPlace : keepingSession.workspace.placeOf (Writer.pathFor ⟨0, ["out"]⟩
      Output.unfinished.unit (Output.unfinished.written "h" "one")) = ["out", "a.h"] := by
    decide +kernel
  have hsecondPlace : keepingSession.workspace.placeOf (Writer.pathFor ⟨0, ["out"]⟩
      Output.unfinished.unit (Output.unfinished.template "txt" "two")) = ["out", "a.txt"] := by
    decide +kernel
  refine ⟨t, h, hwritten, ?_, ?_, ?_, ?_⟩
  · rw [← hfirstPlace]
    exact hone
  · rw [← hsecondPlace]
    exact hempty
  · refine (hkept ["out", "a.log"] ?_).trans (by decide +kernel)
    decide +kernel
  · refine (hkept ["out", "keep.txt"] ?_).trans (by decide +kernel)
    decide +kernel

/-- A write that is refused does not leave all files as they were: the file of a template that is
not processed was opened before its text was asked for. -/
theorem not_forall_refused_keeps_files :
    ¬ ∀ (directory : Path) (output : Output) (s t : Session) (fault : TemplateFault),
      Writer.write directory output s = (.error (.template fault), t) →
        (∀ q, t.files.contentAt? q = s.files.contentAt? q) ∧ t.written = s.written := by
  intro hall
  obtain ⟨t, h, hold⟩ := write_unfinished
  exact hold ((hall _ _ _ t _ h).1 ["out", "a.txt"])

end Interop
