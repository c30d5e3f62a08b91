import Interop.Path

/-!
# Texts in pieces

Pieces that hold no separator are found again in their joined text, and no piece of a text holds a
separator. So a path that starts at the root can be read back from its text.
-/

namespace Interop

namespace Text.Split

/-- The pieces of a text are those at which the library splits a list. -/
theorem pieces_eq_splitOnP (isSeparator : Char → Bool) (cs : List Char) :
    pieces isSeparator cs = cs.splitOnP isSeparator := by
  induction cs with
  | nil => rfl
  | cons c rest ih =>
    obtain ⟨piece, more, hpieces⟩ :=
      List.exists_cons_of_ne_nil (List.splitOnP_ne_nil isSeparator rest)
    rw [pieces, ih, List.splitOnP_cons_eq_if_modifyHead, hpieces]
    rfl

/-- Pieces without the separator are found again between the separators. -/
theorem pieces_intercalate {separator : Char} {l : List (List Char)} (hne : l ≠ [])
    (h : ∀ piece ∈ l, separator ∉ piece) :
    pieces (· == separator) ([separator].intercalate l) = l := by
  rw [pieces_eq_splitOnP]
  exact List.splitOn_intercalate separator h hne

/-- The pieces between separators give the text back. -/
theorem intercalate_pieces (separator : Char) (cs : List Char) :
    [separator].intercalate (pieces (· == separator) cs) = cs := by
  rw [pieces_eq_splitOnP]
  exact List.intercalate_splitOn separator

/-- No piece holds a separator. -/
theorem not_mem_of_mem_pieces {separator : Char} {cs piece : List Char}
    (h : piece ∈ pieces (· == separator) cs) : separator ∉ piece := by
  induction cs generalizing piece with
  | nil =>
    obtain rfl := List.mem_singleton.1 h
    exact List.not_mem_nil
  | cons c rest ih =>
    obtain ⟨first, more, hpieces⟩ :=
      List.exists_cons_of_ne_nil (pieces_ne_nil (· == separator) rest)
    rw [hpieces] at ih
    rw [pieces, hpieces] at h
    split at h
    · rcases List.mem_cons.1 h with rfl | h
      · exact List.not_mem_nil
      · exact ih h
    · rename_i hc
      rcases List.mem_cons.1 h with rfl | h
      · have hfirst : separator ∉ first := ih List.mem_cons_self
        have hne : separator ≠ c := fun he => hc (by rw [he]; exact beq_self_eq_true c)
        exact fun hm => (List.mem_cons.1 hm).elim hne hfirst
      · exact ih (List.mem_cons_of_mem first h)

end Text.Split

namespace Path

/-- A path whose segments can be told apart in its text: none is empty, stands for the same
directory or holds a slash. -/
def IsProper (p : Path) : Prop := ∀ s ∈ p.segments, s ≠ "" ∧ s ≠ "." ∧ '/' ∉ s.toList

/-- A path that was read from a text is proper. -/
theorem isProper_ofString (s : String) : (ofString s).IsProper := by
  intro segment h
  obtain ⟨piece, hpiece, rfl⟩ := List.mem_map.1 h
  obtain ⟨hmem, hcounts⟩ := List.mem_filter.1 hpiece
  simp only [Bool.and_eq_true, bne_iff_ne, ne_eq] at hcounts
  refine ⟨fun he => hcounts.1 ?_, fun he => hcounts.2 ?_, ?_⟩
  · simpa using he
  · simpa using congrArg String.toList he
  · rw [String.toList_ofList]
    exact Text.Split.not_mem_of_mem_pieces hmem

/-- A proper path in a proper directory is proper. -/
theorem IsProper.join {base p : Path} (hbase : base.IsProper) (hp : p.IsProper) :
    (base.join p).IsProper := by
  unfold Path.join
  split
  · exact hp
  · exact fun s hs => (List.mem_append.1 hs).elim (hbase s) (hp s)

/-- The directory of a proper path is proper. -/
theorem IsProper.parent {p : Path} (hp : p.IsProper) : p.parent.IsProper :=
  fun s hs => hp s (List.dropLast_subset _ hs)

/-- Collapsing takes segments away and adds none. -/
theorem collapse_subset (segments : List String) : collapse segments ⊆ segments := by
  have hfold : ∀ l done : List String, l.foldl (fun done segment =>
      if segment = ".." then done.tail else segment :: done) done ⊆ done ++ l := by
    intro l
    induction l with
    | nil => simp
    | cons segment rest ih =>
      intro done s hs
      rcases List.mem_append.1 (ih _ hs) with hs | hs
      · dsimp only at hs
        split at hs
        · exact List.mem_append_left _ (List.mem_of_mem_tail hs)
        · rcases List.mem_cons.1 hs with rfl | hs
          · exact List.mem_append_right done List.mem_cons_self
          · exact List.mem_append_left _ hs
      · exact List.mem_append_right done (List.mem_cons_of_mem segment hs)
  exact fun s hs => hfold segments [] (List.mem_reverse.1 hs)

/-- What a proper path means in a proper directory is proper. -/
theorem IsProper.resolve {directory p : Path} (hd : directory.IsProper) (hp : p.IsProper) :
    (directory.resolve p).IsProper :=
  fun s hs => (hd.join hp) s (collapse_subset _ hs)

/-- The text of a path from the root. -/
theorem toList_toString_of_root (segments : List String) :
    (Path.mk 1 segments).toString.toList =
      '/' :: ['/'].intercalate (segments.map String.toList) := by
  unfold toString
  rw [if_neg (by simp), String.toList_append, String.toList_ofList, String.toList_intercalate]
  rfl

/-- A proper path from the root is read back from its text. -/
theorem ofString_toString_of_root {segments : List String} (h : (Path.mk 1 segments).IsProper) :
    ofString (Path.mk 1 segments).toString = ⟨1, segments⟩ := by
  unfold ofString
  rw [toList_toString_of_root]
  cases segments with
  | nil => rfl
  | cons first more =>
    have hproper : ∀ cs ∈ (first :: more).map String.toList, cs ≠ [] ∧ cs ≠ ['.'] ∧ '/' ∉ cs := by
      intro cs hcs
      obtain ⟨s, hs, rfl⟩ := List.mem_map.1 hcs
      obtain ⟨hempty, hdot, hslash⟩ := h s hs
      exact ⟨by simpa using hempty, fun he => hdot (String.toList_inj.1 he), hslash⟩
    have hpieces : Text.Split.pieces (· == '/')
        (['/'].intercalate ((first :: more).map String.toList)) =
          (first :: more).map String.toList :=
      Text.Split.pieces_intercalate (List.cons_ne_nil _ _) fun cs hcs => (hproper cs hcs).2.2
    have hkeep : ((first :: more).map String.toList).filter
        (fun part => part != [] && part != ['.']) = (first :: more).map String.toList :=
      List.filter_eq_self.2 fun cs hcs => by simp [(hproper cs hcs).1, (hproper cs hcs).2.1]
    have hlead :
        (['/'].intercalate ((first :: more).map String.toList)).takeWhile (· == '/') = [] := by
      obtain ⟨hne, -, hslash⟩ := hproper first.toList List.mem_cons_self
      obtain ⟨c, rest, hfirst⟩ := List.exists_cons_of_ne_nil hne
      have hc : (c == '/') = false := beq_false_of_ne fun he => hslash (by simp [hfirst, he])
      rw [List.map_cons, hfirst, List.intercalate_cons_cons_left, List.takeWhile_cons, hc]
      rfl
    have hnames : ((first :: more).map String.toList).map String.ofList = first :: more := by
      simp [Function.comp_def]
    dsimp only
    rw [List.takeWhile_cons_of_pos rfl, hlead, Text.Split.pieces,
      if_pos (beq_self_eq_true '/'), hpieces, List.filter_cons_of_neg (by simp), hkeep, hnames]
    rfl

end Path

end Interop
