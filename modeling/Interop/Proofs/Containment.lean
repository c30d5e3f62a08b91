import Interop.Proofs.Writing

/-!
# What a run touches on disk

Whatever the files of units and the libraries are called, a run with a directory writes files of
that directory alone: every path is the directory with one more name. Afterwards each of these files
holds the text of the last template that was written to it, and all other files are what they were.
-/

namespace Interop

open Session Generation

/-- A name in a directory leads to a place in the place of the directory. -/
theorem Workspace.placeOf_child (w : Workspace) (directory : Path) {name : String}
    (h : name ≠ "..") : w.placeOf (directory.child name) = w.placeOf directory ++ [name] :=
  Writer.destination_join_child w.directory directory h

/-- There is a last text for every path of the entries. -/
theorem Writer.isSome_lastText? {es : List (Path × String)} {p : Path}
    (h : p ∈ es.map Prod.fst) : (lastText? es p).isSome = true := by
  obtain ⟨e, he, rfl⟩ := List.mem_map.1 h
  unfold lastText?
  cases hl : es.reverse.lookup e.1 with
  | some text => rfl
  | none =>
    have hne := List.lookup_eq_none_iff.1 hl e (List.mem_reverse.2 he)
    simp at hne

/-- Where no entry is placed, storing them changes nothing. -/
theorem Workspace.contentAt?_storeAll_of_not_mem {w v : Workspace} {es : List (Path × String)}
    (h : w.storeAll es = .ok v) {q : List String}
    (hq : ∀ p ∈ es.map Prod.fst, w.placeOf p ≠ q) :
    v.files.contentAt? q = w.files.contentAt? q := by
  have hnone : (w.placed es).reverse.lookup q = none := by
    refine List.lookup_eq_none_iff.2 fun e he => ?_
    obtain ⟨d, hd, rfl⟩ := List.mem_map.1 (List.mem_reverse.1 he)
    exact bne_iff_ne.2 (Ne.symm (hq d.1 (List.mem_map_of_mem hd)))
  rw [(contentAt?_storeAll h).2, hnone, Option.none_or]

/-- If a run of the shipped backends returns and there is a directory, every template of its outputs
has a text and a path in the directory: the directory's path with one more name, which holds no
slash and does not lead elsewhere, so the file stands in the directory itself. The paths written are
those of the templates, in order. Every file written holds the text of the last template with its
path, and no other file changes. -/
theorem runTarget_shipped_writes {notify : Output → Action Unit} {s t : Session}
    {directory : Path} {outputs : List Output}
    (hdirectory : outputDirectory? s.options = some directory)
    (h : runTarget .shipped notify s = (.ok outputs, t)) :
    (∀ o ∈ outputs, ∀ u ∈ o.templates, (∃ text, u.text = .ok text) ∧
      ∃ name, Writer.pathFor directory o.unit u = directory.child name ∧
        '/' ∉ name.toList ∧ name ≠ "" ∧ name ≠ "." ∧ name ≠ ".." ∧
        s.workspace.placeOf (Writer.pathFor directory o.unit u) =
          s.workspace.placeOf directory ++ [name]) ∧
    t.written = outputs.flatMap (fun o => o.templates.map (Writer.pathFor directory o.unit)) ∧
    (∀ p ∈ t.written, (t.workspace.read? p).isSome ∧
      t.workspace.read? p = Writer.lastText? (Writer.entries directory outputs) p) ∧
    ∀ q, (∀ p ∈ t.written, s.workspace.placeOf p ≠ q) →
      t.files.contentAt? q = s.files.contentAt? q := by
  rw [Backend.runTarget_shipped] at h
  obtain ⟨hforms, htexts, hstored, hwritten⟩ := stored_run hdirectory h
  have hnames := namesFiles_of_forms hforms
  have hchild := Writer.exists_child_of_mem_entries directory hnames
  have hwrote := Writer.wrote_storeAll hchild hstored
  refine ⟨fun o ho u hu => ⟨htexts o ho u hu, Writer.fileName o.unit u, ?_⟩,
    hwritten.trans (Writer.map_fst_entries directory outputs), fun p hp => ?_, fun q hq => ?_⟩
  · have hform := hnames o ho u hu
    have hpath : Writer.pathFor directory o.unit u =
        directory.child (Writer.fileName o.unit u) := Writer.pathFor_eq_child directory hform
    have hdots {name : String} := @Writer.fileName_ne_of_dots u o.unit hform name
    refine ⟨hpath, Writer.not_mem_fileName o.unit hform, hdots (by simp), hdots (by simp),
      hdots (by simp), ?_⟩
    rw [hpath]
    exact s.workspace.placeOf_child directory (Writer.fileName_ne_parent hform)
  · rw [hwritten] at hp
    obtain ⟨e, he, rfl⟩ := List.mem_map.1 hp
    obtain ⟨file, hfile, hpath⟩ := hchild e he
    obtain ⟨text, htext⟩ := Option.isSome_iff_exists.1 (Writer.isSome_lastText? hp)
    have hread : t.workspace.read? e.1 = some text := by
      rw [hpath] at htext ⊢
      exact hwrote.read file hfile text (by rw [htext, Option.some_or])
    rw [hread, htext]
    exact ⟨rfl, rfl⟩
  · rw [hwritten] at hq
    exact Workspace.contentAt?_storeAll_of_not_mem hstored hq

/-- The session that writes outputs for two units of one stem, with the directory and two files in
it from before. -/
def crowdedSession : Session :=
  { writingSession with
    files := ⟨[["out"]], [(["out", "keep.txt"], "kept"), (["out", "x.cs"], "old")]⟩ }

/-- Both outputs of this session are written to one file, which had another text before, and the
other file of the directory is kept. -/
theorem runTarget_shipped_writes_crowded :
    ∃ outputs t, outputDirectory? crowdedSession.options = some ⟨0, ["out"]⟩ ∧
      runTarget .shipped (fun _ => pure ()) crowdedSession = (.ok outputs, t) ∧
      t.written = [⟨0, ["out", "x.cs"]⟩, ⟨0, ["out", "x.cs"]⟩] ∧
      t.workspace.read? ⟨0, ["out", "x.cs"]⟩ =
        Writer.lastText? (Writer.entries ⟨0, ["out"]⟩ outputs) ⟨0, ["out", "x.cs"]⟩ ∧
      t.workspace.read? ⟨0, ["out", "x.cs"]⟩ ≠ some "old" ∧
      t.files.contentAt? ["out", "keep.txt"] = some "kept" := by
  have hrun : (fun r : Except Fault (List Output) × Session => r.1.isOk = true ∧
      r.2.written = [⟨0, ["out", "x.cs"]⟩, ⟨0, ["out", "x.cs"]⟩] ∧
      r.2.workspace.read? ⟨0, ["out", "x.cs"]⟩ ≠ some "old")
      (runTarget .shipped (fun _ => pure ()) crowdedSession) := by decide +kernel
  rcases h : runTarget .shipped (fun _ => pure ()) crowdedSession with ⟨_ | outputs, t⟩
  · rw [h] at hrun
    exact absurd hrun.1 Bool.false_ne_true
  · rw [h] at hrun
    obtain ⟨-, hwritten, hnew⟩ := hrun
    obtain ⟨-, -, hread, hkept⟩ :=
      runTarget_shipped_writes (s := crowdedSession) outputDirectory?_writingSession h
    refine ⟨outputs, t, outputDirectory?_writingSession, rfl, hwritten, ?_, hnew, ?_⟩
    · exact (hread _ (by rw [hwritten]; exact List.mem_cons_self)).2
    · refine hkept ["out", "keep.txt"] fun p hp => ?_
      have hx : p = ⟨0, ["out", "x.cs"]⟩ := by
        rw [hwritten] at hp
        simpa using hp
      rw [hx]
      decide

end Interop
