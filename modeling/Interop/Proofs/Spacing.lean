import Interop.Text.Blank
import Interop.Text.Digit

/-!
# Normal spacing

Bringing a text into normal spacing takes it apart into words and puts single spaces between them.
The equations here do the same from the first character on, so that nothing else needs to look into
the words. From them follow the law of two texts one after the other, which are set apart exactly if
there was a blank where they meet, and what can be told of the ends of a text in normal spacing.
-/

namespace Interop.Text.Blank

/-- Blanks alone. -/
def AllBlank (cs : List Char) : Prop := ∀ c ∈ cs, isBlank c = true

instance (cs : List Char) : Decidable (AllBlank cs) :=
  List.decidableBAll (fun c => isBlank c = true) cs

/-- A space is blank. -/
theorem isBlank_space : isBlank ' ' = true := by decide

/-- No characters, no character that is not blank. -/
theorem allBlank_nil : AllBlank [] := fun _ h => absurd h List.not_mem_nil

variable {b c d : Char} {xs ys : List Char}

/-- Blanks with a blank in front. -/
theorem allBlank_cons_iff : AllBlank (c :: xs) ↔ isBlank c = true ∧ AllBlank xs :=
  List.forall_mem_cons

/-- Blanks with other blanks in front. -/
theorem allBlank_append_iff : AllBlank (xs ++ ys) ↔ AllBlank xs ∧ AllBlank ys :=
  List.forall_mem_append

/-- A blank in front leaves the blanks to the rest. -/
theorem not_allBlank_of_cons (hb : isBlank b = true) (h : ¬ AllBlank (b :: xs)) :
    ¬ AllBlank xs := fun hxs => h (allBlank_cons_iff.2 ⟨hb, hxs⟩)

/-- With a character that is not blank, a text is not all blank. -/
theorem not_allBlank_of_mem (h : c ∈ xs) (hc : isBlank c = false) : ¬ AllBlank xs := by
  intro hxs
  rw [hxs c h] at hc
  cases hc

/-- A blank in front makes no word. -/
theorem words_cons_of_blank (hb : isBlank b = true) : words (b :: xs) = words xs := by
  rw [words, Split.pieces, if_pos hb]
  rfl

/-- The pieces of a text after its first character, which is not blank. -/
theorem pieces_cons_of_not_blank (hc : isBlank c = false) {piece : List Char}
    {more : List (List Char)} (h : Split.pieces isBlank xs = piece :: more) :
    Split.pieces isBlank (c :: xs) = (c :: piece) :: more := by
  rw [Split.pieces, if_neg (by rw [hc]; exact Bool.false_ne_true), h]

/-- A character that stands alone is a word. -/
theorem words_cons_cons_of_blank (hc : isBlank c = false) (hb : isBlank b = true) :
    words (c :: b :: xs) = [c] :: words xs := by
  have hpieces : Split.pieces isBlank (b :: xs) = [] :: Split.pieces isBlank xs := by
    rw [Split.pieces, if_pos hb]
  rw [words, pieces_cons_of_not_blank hc hpieces]
  rfl

/-- A character that is not blank starts the first word. -/
theorem exists_words_cons (hc : isBlank c = false) (xs : List Char) :
    ∃ w more, words (c :: xs) = (c :: w) :: more := by
  cases hxs : Split.pieces isBlank xs with
  | nil => exact absurd hxs (Split.pieces_ne_nil _ _)
  | cons piece more =>
    refine ⟨piece, more.filter (!·.isEmpty), ?_⟩
    rw [words, pieces_cons_of_not_blank hc hxs]
    rfl

/-- A character in front of a word makes the word longer. -/
theorem words_cons_cons (hc : isBlank c = false) (hd : isBlank d = false) (xs : List Char) :
    ∃ w more, words (d :: xs) = w :: more ∧ words (c :: d :: xs) = (c :: w) :: more := by
  cases hxs : Split.pieces isBlank xs with
  | nil => exact absurd hxs (Split.pieces_ne_nil _ _)
  | cons piece more =>
    have hdxs := pieces_cons_of_not_blank hd hxs
    refine ⟨d :: piece, more.filter (!·.isEmpty), ?_, ?_⟩
    · rw [words, hdxs]
      rfl
    · rw [words, pieces_cons_of_not_blank hc hdxs]
      rfl

/-- Blanks make no words. -/
theorem words_of_allBlank (h : AllBlank xs) : words xs = [] := by
  induction xs with
  | nil => rfl
  | cons b xs ih =>
    obtain ⟨hb, hxs⟩ := allBlank_cons_iff.1 h
    rw [words_cons_of_blank hb, ih hxs]

/-- A text without characters is in normal spacing. -/
@[simp] theorem normalSpacing_nil : normalSpacing [] = [] := rfl

/-- A blank in front goes away. -/
theorem normalSpacing_cons_of_blank (hb : isBlank b = true) :
    normalSpacing (b :: xs) = normalSpacing xs := by
  rw [normalSpacing, words_cons_of_blank hb, normalSpacing]

/-- Blanks alone vanish, and nothing else does. -/
theorem normalSpacing_eq_nil_iff : normalSpacing xs = [] ↔ AllBlank xs := by
  refine ⟨fun h => ?_, fun h => by rw [normalSpacing, words_of_allBlank h]; rfl⟩
  induction xs with
  | nil => exact allBlank_nil
  | cons c xs ih =>
    cases hc : isBlank c with
    | true =>
      rw [normalSpacing_cons_of_blank hc] at h
      exact allBlank_cons_iff.2 ⟨hc, ih h⟩
    | false =>
      obtain ⟨w, more, hw⟩ := exists_words_cons hc xs
      rw [normalSpacing, hw] at h
      cases more <;> exact absurd h (List.cons_ne_nil _ _)

/-- Characters of one word stay together. -/
theorem normalSpacing_cons_cons (hc : isBlank c = false) (hd : isBlank d = false) :
    normalSpacing (c :: d :: xs) = c :: normalSpacing (d :: xs) := by
  obtain ⟨w, more, hd', hc'⟩ := words_cons_cons hc hd xs
  rw [normalSpacing, normalSpacing, hd', hc']
  cases more <;> rfl

/-- After a word, blanks at the end vanish. -/
theorem normalSpacing_cons_end (hc : isBlank c = false) (h : AllBlank xs) :
    normalSpacing (c :: xs) = [c] := by
  cases xs with
  | nil =>
    have hpieces : Split.pieces isBlank [c] = [[c]] := pieces_cons_of_not_blank hc rfl
    rw [normalSpacing, words, hpieces]
    rfl
  | cons b xs =>
    obtain ⟨hb, hxs⟩ := allBlank_cons_iff.1 h
    rw [normalSpacing, words_cons_cons_of_blank hc hb, words_of_allBlank hxs]
    rfl

/-- Blanks in front go away. -/
theorem normalSpacing_blank_append (h : AllBlank xs) :
    normalSpacing (xs ++ ys) = normalSpacing ys := by
  induction xs with
  | nil => rfl
  | cons b xs ih =>
    obtain ⟨hb, hxs⟩ := allBlank_cons_iff.1 h
    rw [List.cons_append, normalSpacing_cons_of_blank hb, ih hxs]

/-- What stands between two texts in normal spacing: a space, if a blank was where they met. -/
def seam (xs ys : List Char) : List Char :=
  if xs.getLast?.any isBlank || ys.head?.any isBlank then [' '] else []

/-- Between two texts there are but blanks. -/
theorem allBlank_seam (xs ys : List Char) : AllBlank (seam xs ys) := by
  unfold seam
  split
  · exact List.forall_mem_singleton.2 isBlank_space
  · exact allBlank_nil

/-- Where two texts meet does not depend on the front of the first. -/
theorem seam_cons (h : xs ≠ []) : seam (c :: xs) ys = seam xs ys := by
  unfold seam
  rw [List.getLast?_cons_of_ne_nil h]

/-- Where two texts meet does not depend on the end of the second. -/
theorem seam_append (h : ys ≠ []) (zs : List Char) : seam xs (ys ++ zs) = seam xs ys := by
  cases ys with
  | nil => exact absurd rfl h
  | cons d ys => rfl

/-- Blanks in front set the rest of a text apart. -/
theorem seam_of_allBlank_left (h : AllBlank xs) (hne : xs ≠ []) : seam xs ys = [' '] := by
  have hb := h _ (List.getLast_mem hne)
  simp [seam, List.getLast?_eq_some_getLast hne, hb]

/-- Blanks at the end set the front of a text apart. -/
theorem seam_of_allBlank_right (h : AllBlank ys) (hne : ys ≠ []) : seam xs ys = [' '] := by
  have hb := h _ (List.head_mem hne)
  simp [seam, List.head?_eq_some_head hne, hb]

/-- A character in front of a text that has a word. -/
theorem normalSpacing_cons (hc : isBlank c = false) (h : ¬ AllBlank xs) :
    normalSpacing (c :: xs) = c :: (seam [c] xs ++ normalSpacing xs) := by
  cases xs with
  | nil => exact absurd allBlank_nil h
  | cons d xs =>
    cases hd : isBlank d with
    | true =>
      have hxs := not_allBlank_of_cons hd h
      have hseam : seam [c] (d :: xs) = [' '] := by simp [seam, hd]
      rw [← normalSpacing_eq_nil_iff] at hxs
      rw [hseam, normalSpacing_cons_of_blank hd, normalSpacing, words_cons_cons_of_blank hc hd]
      cases hw : words xs with
      | nil =>
        rw [normalSpacing, hw] at hxs
        exact absurd rfl hxs
      | cons w more =>
        rw [normalSpacing, hw]
        rfl
    | false =>
      have hseam : seam [c] (d :: xs) = [] := by simp [seam, hc, hd]
      rw [hseam, normalSpacing_cons_cons hc hd]
      rfl

/-- Two texts, each with a word, are brought into normal spacing one by one. The case that is apart
is a first text of a single character and blanks after it. -/
theorem normalSpacing_append (hx : ¬ AllBlank xs) (hy : ¬ AllBlank ys) :
    normalSpacing (xs ++ ys) = normalSpacing xs ++ seam xs ys ++ normalSpacing ys := by
  induction xs with
  | nil => exact absurd allBlank_nil hx
  | cons c xs ih =>
    cases hc : isBlank c with
    | true =>
      have hxs := not_allBlank_of_cons hc hx
      have hne : xs ≠ [] := fun hnil => hxs (hnil ▸ allBlank_nil)
      rw [List.cons_append, normalSpacing_cons_of_blank hc, normalSpacing_cons_of_blank hc, ih hxs,
        seam_cons hne]
    | false =>
      have hboth : ¬ AllBlank (xs ++ ys) := fun h => hy (allBlank_append_iff.1 h).2
      rw [List.cons_append, normalSpacing_cons hc hboth]
      by_cases hxs : AllBlank xs
      · rw [normalSpacing_cons_end hc hxs, normalSpacing_blank_append hxs]
        by_cases hne : xs = []
        · subst hne
          rfl
        · rw [seam_append hne _, seam_cons hne, seam_of_allBlank_left hxs hne,
            seam_of_allBlank_right hxs hne]
          rfl
      · have hne : xs ≠ [] := fun hnil => hxs (hnil ▸ allBlank_nil)
        rw [ih hxs, normalSpacing_cons hc hxs, seam_append hne _, seam_cons hne]
        simp only [List.cons_append, List.append_assoc]

/-- A text with a word, after any text, is brought into normal spacing by itself. -/
theorem exists_normalSpacing_append (xs : List Char) (hy : ¬ AllBlank ys) :
    ∃ gap, AllBlank gap ∧
      normalSpacing (xs ++ ys) = normalSpacing xs ++ (gap ++ normalSpacing ys) := by
  by_cases hx : AllBlank xs
  · refine ⟨[], allBlank_nil, ?_⟩
    rw [normalSpacing_blank_append hx, normalSpacing_eq_nil_iff.2 hx]
    rfl
  · exact ⟨seam xs ys, allBlank_seam xs ys, by rw [normalSpacing_append hx hy, List.append_assoc]⟩

/-- Blanks at the end go away. -/
theorem normalSpacing_append_blank (h : AllBlank ys) :
    normalSpacing (xs ++ ys) = normalSpacing xs := by
  induction xs with
  | nil => rw [List.nil_append, normalSpacing_eq_nil_iff.2 h, normalSpacing_nil]
  | cons c xs ih =>
    rw [List.cons_append]
    cases hc : isBlank c with
    | true => rw [normalSpacing_cons_of_blank hc, normalSpacing_cons_of_blank hc, ih]
    | false =>
      by_cases hxs : AllBlank xs
      · rw [normalSpacing_cons_end hc hxs,
          normalSpacing_cons_end hc (allBlank_append_iff.2 ⟨hxs, h⟩)]
      · have hne : xs ≠ [] := fun hnil => hxs (hnil ▸ allBlank_nil)
        have hboth : ¬ AllBlank (xs ++ ys) := fun hall => hxs (allBlank_append_iff.1 hall).1
        rw [normalSpacing_cons hc hboth, normalSpacing_cons hc hxs, ih, seam_append hne _]

/-- A word is in normal spacing. -/
theorem normalSpacing_of_isBlank_false (h : ∀ c ∈ xs, isBlank c = false) :
    normalSpacing xs = xs := by
  induction xs with
  | nil => rfl
  | cons c xs ih =>
    obtain ⟨hc, hxs⟩ := List.forall_mem_cons.1 h
    cases xs with
    | nil => exact normalSpacing_cons_end hc allBlank_nil
    | cons d xs => rw [normalSpacing_cons_cons hc (hxs d List.mem_cons_self), ih hxs]

/-- Normal spacing loses nothing but blanks. -/
theorem filter_normalSpacing (xs : List Char) :
    (normalSpacing xs).filter (!isBlank ·) = xs.filter (!isBlank ·) := by
  have hspace : ∀ g : List Char, AllBlank g → g.filter (!isBlank ·) = [] := fun g hg =>
    List.filter_eq_nil_iff.2 fun c hc => by rw [hg c hc]; exact Bool.false_ne_true
  induction xs with
  | nil => rfl
  | cons c xs ih =>
    cases hc : isBlank c with
    | true => rw [normalSpacing_cons_of_blank hc, ih, List.filter_cons_of_neg (by simp [hc])]
    | false =>
      by_cases hxs : AllBlank xs
      · rw [normalSpacing_cons_end hc hxs, List.filter_cons, List.filter_cons, hspace xs hxs,
          List.filter_nil]
      · rw [normalSpacing_cons hc hxs, List.filter_cons, List.filter_append, ih,
          hspace _ (allBlank_seam _ _), List.filter_cons, List.nil_append]

/-- A text that starts with a character that is not blank starts with it in normal spacing, too. -/
theorem exists_normalSpacing_cons (hc : isBlank c = false) (xs : List Char) :
    ∃ rest, normalSpacing (c :: xs) = c :: rest := by
  by_cases hxs : AllBlank xs
  · exact ⟨[], normalSpacing_cons_end hc hxs⟩
  · exact ⟨_, normalSpacing_cons hc hxs⟩

/-- A text that was brought into normal spacing is in normal spacing. A blank inside stays as a
space, with a word behind it. -/
theorem normalSpacing_normalSpacing (xs : List Char) :
    normalSpacing (normalSpacing xs) = normalSpacing xs := by
  induction xs with
  | nil => rfl
  | cons c xs ih =>
    cases hc : isBlank c with
    | true => rw [normalSpacing_cons_of_blank hc, ih]
    | false =>
      by_cases hxs : AllBlank xs
      · rw [normalSpacing_cons_end hc hxs, normalSpacing_cons_end hc allBlank_nil]
      · cases xs with
        | nil => exact absurd allBlank_nil hxs
        | cons d xs =>
          cases hd : isBlank d with
          | true =>
            have hseam : ∀ b ys, isBlank b = true → seam [c] (b :: ys) = [' '] :=
              fun b ys hb => by simp [seam, hb]
            have hword : ¬ AllBlank (' ' :: normalSpacing (d :: xs)) := fun h => by
              have hnil := normalSpacing_eq_nil_iff.2 (allBlank_cons_iff.1 h).2
              rw [ih] at hnil
              exact hxs (normalSpacing_eq_nil_iff.1 hnil)
            rw [normalSpacing_cons hc hxs, hseam d xs hd, List.singleton_append,
              normalSpacing_cons hc hword, hseam _ _ isBlank_space,
              normalSpacing_cons_of_blank isBlank_space, ih]
            rfl
          | false =>
            obtain ⟨rest, hrest⟩ := exists_normalSpacing_cons hd xs
            rw [normalSpacing_cons_cons hc hd, hrest, normalSpacing_cons_cons hc hd, ← hrest, ih]

/-- A text with a word, in normal spacing, ends in a character that is not blank. -/
theorem exists_normalSpacing_concat (h : ¬ AllBlank xs) :
    ∃ front c, normalSpacing xs = front ++ [c] ∧ isBlank c = false := by
  induction xs with
  | nil => exact absurd allBlank_nil h
  | cons d xs ih =>
    cases hd : isBlank d with
    | true =>
      obtain ⟨front, c, hfront, hc⟩ := ih (not_allBlank_of_cons hd h)
      exact ⟨front, c, by rw [normalSpacing_cons_of_blank hd, hfront], hc⟩
    | false =>
      by_cases hxs : AllBlank xs
      · exact ⟨[], d, normalSpacing_cons_end hd hxs, hd⟩
      · obtain ⟨front, c, hfront, hc⟩ := ih hxs
        refine ⟨d :: (seam [d] xs ++ front), c, ?_, hc⟩
        rw [normalSpacing_cons hd hxs, hfront, List.cons_append, List.append_assoc]

/-- Blanks in front are trimmed. -/
theorem trimLeft_blank_append (h : AllBlank xs) : trimLeft (xs ++ ys) = trimLeft ys :=
  List.dropWhile_append_of_pos h

/-- In front of a character that is not blank nothing is trimmed. -/
theorem trimLeft_cons (hc : isBlank c = false) : trimLeft (c :: xs) = c :: xs :=
  List.dropWhile_cons_of_neg (by rw [hc]; exact Bool.false_ne_true)

/-- Behind a text in normal spacing, blanks alone are trimmed. -/
theorem trimLeft_reverse_normalSpacing (h : AllBlank ys) :
    (trimLeft (normalSpacing xs ++ ys).reverse).reverse = normalSpacing xs := by
  rw [List.reverse_append, trimLeft_blank_append fun c hc => h c (List.mem_reverse.1 hc)]
  by_cases hxs : AllBlank xs
  · rw [normalSpacing_eq_nil_iff.2 hxs]
    rfl
  · obtain ⟨front, c, hfront, hc⟩ := exists_normalSpacing_concat hxs
    rw [hfront, List.reverse_append, List.reverse_singleton, List.singleton_append,
      trimLeft_cons hc, List.reverse_cons, List.reverse_reverse]

end Interop.Text.Blank

namespace Interop.Text.Digit

/-- No digit of any script is blank. -/
theorem isBlank_of_isDigit {c : Char} (h : isDigit c = true) : Blank.isBlank c = false := by
  have hzeros : ∀ base ∈ zeros, ∀ i < 10, Blank.isBlank (Char.ofNat (base + i)) = false := by
    decide +kernel
  rw [isDigit, value?, Option.isSome_map, List.find?_isSome] at h
  obtain ⟨base, hbase, hc⟩ := h
  rw [Bool.and_eq_true, decide_eq_true_eq, decide_eq_true_eq] at hc
  have hi := hzeros base hbase (c.toNat - base) (by omega)
  rwa [Nat.add_sub_cancel' hc.1, Char.ofNat_toNat] at hi

end Interop.Text.Digit
