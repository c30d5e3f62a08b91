import Mathlib.Data.List.Induction
import Interop.Proofs.Layers
import Interop.Proofs.Reading

/-!
# Spellings, however spaced

A spelling is a row of words, the first ones of which may be `const`, and suffixes behind. Between
words there are blanks, and blanks may stand at the ends, before suffixes and inside brackets. The
grammar says what is written; that reading gives the type it says is shown for every spelling. The
words `const` go to the pointers, the outermost first, and what is left over stays with the leaf.
-/

namespace Interop.CType

open Text.Blank

/-- What may stand behind the words of a spelling. -/
inductive Suffix where
  /-- A star, or an ampersand for a reference. -/
  | pointer (isReference : Bool)
  /-- Brackets with the digits of a size; without digits there is no size. -/
  | array (digits : List Char)

namespace Suffix

/-- Whether a suffix stands for a pointer. -/
def isPointer : Suffix → Bool
  | pointer _ => true
  | array _ => false

/-- The layer that a suffix stands for, without a mark of constness. -/
def layer : Suffix → Layer
  | pointer isReference => .pointer isReference false
  | array digits => .array (sizeOf digits)

/-- The texts of a suffix. -/
inductive Written : Suffix → List Char → Prop
  /-- A star is written as such. -/
  | star : Written (pointer false) ['*']
  /-- An ampersand is written as such. -/
  | ampersand : Written (pointer true) ['&']
  /-- Within brackets, blanks may stand around the digits. -/
  | brackets {left digits right : List Char} (hleft : AllBlank left)
      (hdigits : ∀ d ∈ digits, Text.Digit.isDigit d = true) (hright : AllBlank right) :
      Written (array digits) (CType.brackets left digits right)

end Suffix

/-- Words, with blanks between neighbours. -/
inductive Spaced : List (List Char) → List Char → Prop
  /-- One word stands alone. -/
  | single (w : List Char) : Spaced [w] w
  /-- At least one blank stands between a word and the next. -/
  | cons (w : List Char) {gap rest : List Char} {more : List (List Char)} (hgap : AllBlank gap)
      (hne : gap ≠ []) (hmore : Spaced more rest) : Spaced (w :: more) (w ++ (gap ++ rest))

/-- The texts of words and suffixes. -/
inductive Spells (words : List (List Char)) : List Suffix → List Char → Prop
  /-- Blanks may stand around the words. -/
  | words {lead text trail : List Char} (hlead : AllBlank lead) (htext : Spaced words text)
      (htrail : AllBlank trail) : Spells words [] (lead ++ (text ++ trail))
  /-- Blanks may stand around every suffix. -/
  | suffix {suffixes : List Suffix} {s : Suffix} {front text trail : List Char}
      (hfront : Spells words suffixes front) (htext : s.Written text) (htrail : AllBlank trail) :
      Spells words (suffixes ++ [s]) (front ++ (text ++ trail))

/-- The word for constness. -/
def constWord : List Char := ['c', 'o', 'n', 's', 't']

/-- Characters of the words of a base: no blanks and nothing that suffixes are made of. -/
def isBaseChar (c : Char) : Bool :=
  !isBlank c && !(c == '*' || c == '&' || c == '[' || c == ']')

/-- Words of a base are not empty, and they hold no blank and no part of a suffix. -/
structure IsBaseWord (w : List Char) : Prop where
  /-- There is a character. -/
  ne_nil : w ≠ []
  /-- All characters are those of a base. -/
  chars : ∀ c ∈ w, isBaseChar c = true

/-- The words that a spelling starts with, less the words `const` in front of them. -/
structure IsBase (base : List (List Char)) : Prop where
  /-- There is a word. -/
  ne_nil : base ≠ []
  /-- All words are those of a base. -/
  words : ∀ w ∈ base, IsBaseWord w
  /-- The first word is another one than `const`. -/
  head : base.head? ≠ some constWord

/-- Words joined by single spaces. -/
def nameOf (words : List (List Char)) : String := String.ofList (Text.Split.join [' '] words)

/-- What a base names after some words `const`: the builtin type spelled so, or else the tag of that
name. One word `const` is passed over, and further ones are part of a tag's name. -/
structure IsLeafOf (surplus : Nat) (base : List (List Char)) (t : CType) : Prop where
  /-- The base is the spelling of a builtin type. -/
  builtin : surplus ≤ 1 → ∀ p : Primitive, p.spelling = nameOf base → t = .builtin p
  /-- The base is no spelling of a builtin type. -/
  tag : surplus ≤ 1 → (∀ p : Primitive, p.spelling ≠ nameOf base) → t = .tag (nameOf base)
  /-- Words `const` are left over. -/
  const : 2 ≤ surplus → t = .tag (nameOf (List.replicate (surplus - 1) constWord ++ base))

/-- What a spelling with some words `const`, a base and suffixes says of a type. -/
structure Says (count : Nat) (base : List (List Char)) (suffixes : List Suffix) (t : CType) :
    Prop where
  /-- Every suffix makes a layer, the first one the innermost. -/
  layers : t.layers.map Layer.unmarked = suffixes.reverse.map Suffix.layer
  /-- The outermost pointers are constant, one for each word `const`. -/
  constMarks : t.constMarks =
    List.replicate (min count (suffixes.countP Suffix.isPointer)) true ++
      List.replicate (suffixes.countP Suffix.isPointer - count) false
  /-- What is left over stays with the leaf. -/
  leaf : IsLeafOf (count - suffixes.countP Suffix.isPointer) base t.leaf

section Characters

variable {c : Char} {w x : List Char}

/-- Characters of a base are not blank. -/
theorem isBlank_of_isBaseChar (h : isBaseChar c = true) : isBlank c = false := by
  rw [isBaseChar, Bool.and_eq_true, Bool.not_eq_true'] at h
  exact h.1

/-- Blanks are no characters of a base. -/
theorem takeWhile_isBaseChar_of_allBlank (h : AllBlank w) (hw : w ≠ []) (x : List Char) :
    (w ++ x).takeWhile isBaseChar = [] := by
  cases w with
  | nil => exact absurd rfl hw
  | cons b w =>
    have hb : isBaseChar b ≠ true := fun hbase => by
      have hblank := (allBlank_cons_iff.1 h).1
      rw [isBlank_of_isBaseChar hbase] at hblank
      cases hblank
    exact List.takeWhile_cons_of_neg hb

/-- A word of a base is not all blank. -/
theorem IsBaseWord.not_allBlank (h : IsBaseWord w) : ¬ AllBlank w := by
  obtain ⟨c, hc⟩ := List.exists_mem_of_ne_nil w h.ne_nil
  exact not_allBlank_of_mem hc (isBlank_of_isBaseChar (h.chars c hc))

/-- In front of a word of a base nothing is trimmed. -/
theorem IsBaseWord.trimLeft_append (h : IsBaseWord w) (x : List Char) :
    trimLeft (w ++ x) = w ++ x := by
  cases w with
  | nil => exact absurd rfl h.ne_nil
  | cons c w => exact trimLeft_cons (isBlank_of_isBaseChar (h.chars c List.mem_cons_self))

/-- A word of a base is in normal spacing. -/
theorem IsBaseWord.normalSpacing (h : IsBaseWord w) : normalSpacing w = w :=
  normalSpacing_of_isBlank_false fun c hc => isBlank_of_isBaseChar (h.chars c hc)

/-- Whether a word is that of a base can be told character by character. -/
theorem isBaseWord_of_all (hne : w ≠ []) (h : w.all isBaseChar = true) : IsBaseWord w :=
  ⟨hne, List.all_eq_true.1 h⟩

/-- The word for constness could be the word of a base. -/
theorem isBaseWord_constWord : IsBaseWord constWord := isBaseWord_of_all (by decide) (by decide)

/-- Normal spacing keeps the characters of a base that a text starts with. They end at the first
blank after a word, in the text as well as in normal spacing. -/
theorem takeWhile_normalSpacing (x : List Char) :
    (normalSpacing x).takeWhile isBaseChar = (trimLeft x).takeWhile isBaseChar := by
  induction x with
  | nil => rfl
  | cons c x ih =>
    cases hc : isBlank c with
    | true =>
      have htrim : trimLeft (c :: x) = trimLeft x := List.dropWhile_cons_of_pos hc
      rw [normalSpacing_cons_of_blank hc, htrim, ih]
    | false =>
      rw [trimLeft_cons hc]
      cases x with
      | nil => rw [normalSpacing_cons_end hc allBlank_nil]
      | cons d x =>
        cases hd : isBlank d with
        | true =>
          have hend : (d :: x).takeWhile isBaseChar = [] :=
            takeWhile_isBaseChar_of_allBlank (List.forall_mem_singleton.2 hd)
              (List.cons_ne_nil _ _) x
          by_cases hx : AllBlank (d :: x)
          · rw [normalSpacing_cons_end hc hx, List.takeWhile_cons, List.takeWhile_cons, hend,
              List.takeWhile_nil]
          · have hseam : seam [c] (d :: x) = [' '] := by simp [seam, hd]
            have hspace := takeWhile_isBaseChar_of_allBlank (allBlank_seam [c] (d :: x))
              (by rw [hseam]; exact List.cons_ne_nil _ _) (Text.Blank.normalSpacing (d :: x))
            rw [normalSpacing_cons hc hx, List.takeWhile_cons, List.takeWhile_cons, hspace, hend]
        | false =>
          rw [trimLeft_cons hd] at ih
          rw [normalSpacing_cons_cons hc hd, List.takeWhile_cons, List.takeWhile_cons, ih]

end Characters

section Words

variable {w text : List Char} {words : List (List Char)} {suffixes : List Suffix} {s : Suffix}

/-- No suffix starts with a character of a base. -/
theorem Suffix.Written.takeWhile (h : s.Written text) (rest : List Char) :
    (text ++ rest).takeWhile isBaseChar = [] := by
  cases h with
  | star => rfl
  | ampersand => rfl
  | brackets => rfl

/-- Pointers are written with a mark. -/
theorem Suffix.Written.eq_markOf {isReference : Bool}
    (h : (Suffix.pointer isReference).Written text) : text = [markOf isReference] := by
  cases h <;> rfl

/-- Arrays are written with brackets. -/
theorem Suffix.Written.exists_brackets {digits : List Char}
    (h : (Suffix.array digits).Written text) :
    ∃ left right, AllBlank left ∧ (∀ d ∈ digits, Text.Digit.isDigit d = true) ∧
      AllBlank right ∧ text = CType.brackets left digits right := by
  cases h with
  | brackets hleft hdigits hright => exact ⟨_, _, hleft, hdigits, hright, rfl⟩

/-- A text starts with its first word. -/
theorem Spells.firstWord (h : Spells (w :: words) suffixes text) :
    ∃ lead rest, AllBlank lead ∧ text = lead ++ (w ++ rest) ∧
      rest.takeWhile isBaseChar = [] := by
  induction h with
  | @words lead text trail hlead htext htrail =>
    have htail : trail.takeWhile isBaseChar = [] := by
      by_cases hne : trail = []
      · rw [hne, List.takeWhile_nil]
      · simpa using takeWhile_isBaseChar_of_allBlank htrail hne []
    cases htext with
    | single => exact ⟨lead, trail, hlead, rfl, htail⟩
    | @cons _ gap rest _ hgap hne hmore =>
      refine ⟨lead, gap ++ (rest ++ trail), hlead, ?_, ?_⟩
      · simp only [List.append_assoc]
      · exact takeWhile_isBaseChar_of_allBlank hgap hne _
  | @suffix _ _ front text trail _ htext htrail ih =>
    obtain ⟨lead, rest, hlead, rfl, hrest⟩ := ih
    refine ⟨lead, rest ++ (text ++ trail), hlead, by simp only [List.append_assoc], ?_⟩
    cases rest with
    | nil => exact htext.takeWhile trail
    | cons c rest =>
      have hc : isBaseChar c ≠ true := by
        intro hc
        rw [List.takeWhile_cons_of_pos hc] at hrest
        cases hrest
      exact List.takeWhile_cons_of_neg hc

/-- A last suffix stands at the end. -/
theorem Spells.exists_front (h : Spells words (suffixes ++ [s]) text) :
    ∃ front mark trail, Spells words suffixes front ∧ s.Written mark ∧ AllBlank trail ∧
      text = front ++ (mark ++ trail) := by
  generalize hsuffixes : suffixes ++ [s] = all at h
  cases h with
  | words => exact absurd hsuffixes (List.append_ne_nil_of_right_ne_nil _ (List.cons_ne_nil _ _))
  | suffix hfront hmark htrail =>
    obtain ⟨rfl, hs⟩ := List.append_inj' hsuffixes rfl
    cases hs
    exact ⟨_, _, _, hfront, hmark, htrail, rfl⟩

/-- Behind the first word of several there are blanks and the text of the others. -/
theorem Spells.otherWords (h : Spells (w :: words) suffixes text) (hwords : words ≠ []) :
    ∃ lead gap rest, AllBlank lead ∧ AllBlank gap ∧ gap ≠ [] ∧
      text = lead ++ (w ++ (gap ++ rest)) ∧ Spells words suffixes rest := by
  induction h with
  | @words lead text trail hlead htext htrail =>
    cases htext with
    | single => exact absurd rfl hwords
    | @cons _ gap rest _ hgap hne hmore =>
      refine ⟨lead, gap, rest ++ trail, hlead, hgap, hne, by simp only [List.append_assoc], ?_⟩
      exact Spells.words allBlank_nil hmore htrail
  | @suffix _ _ front text trail _ htext htrail ih =>
    obtain ⟨lead, gap, rest, hlead, hgap, hne, rfl, hrest⟩ := ih
    refine ⟨lead, gap, rest ++ (text ++ trail), hlead, hgap, hne, ?_, hrest.suffix htext htrail⟩
    simp only [List.append_assoc]

/-- A text with words of a base is not all blank. -/
theorem Spells.not_allBlank (h : Spells words suffixes text) (hne : words ≠ [])
    (hwords : ∀ w ∈ words, IsBaseWord w) : ¬ AllBlank text := by
  obtain ⟨w, more, rfl⟩ := List.exists_cons_of_ne_nil hne
  obtain ⟨lead, rest, -, rfl, -⟩ := h.firstWord
  intro hall
  have hblank := (allBlank_append_iff.1 (allBlank_append_iff.1 hall).2).1
  exact (hwords w List.mem_cons_self).not_allBlank hblank

end Words

section Const

variable {cs rest w text : List Char} {words : List (List Char)} {suffixes : List Suffix}

/-- The word for constness is split off where it stands in front of a space. -/
theorem constPrefix?_eq_some_iff :
    constPrefix? cs = some rest ↔ cs = constWord ++ ' ' :: rest := by
  constructor
  · intro h
    unfold constPrefix? at h
    split at h
    · cases h
      rfl
    · cases h
  · rintro rfl
    rfl

/-- A text that starts with another word does not start with the word for constness. -/
theorem Spells.constPrefix?_eq_none (h : Spells (w :: words) suffixes text) (hw : IsBaseWord w)
    (hne : w ≠ constWord) : constPrefix? (normalSpacing text) = none := by
  rw [Option.eq_none_iff_forall_not_mem]
  intro rest hrest
  obtain ⟨lead, behind, hlead, rfl, hbehind⟩ := h.firstWord
  have hfirst := takeWhile_normalSpacing (lead ++ (w ++ behind))
  rw [trimLeft_blank_append hlead, hw.trimLeft_append, List.takeWhile_append_of_pos hw.chars,
    hbehind, List.append_nil, constPrefix?_eq_some_iff.1 hrest] at hfirst
  exact hne hfirst.symm

/-- The word for constness in front of a text that has a word is split off. -/
theorem constPrefix?_const_append {gap : List Char} (hgap : AllBlank gap) (hne : gap ≠ [])
    (h : ¬ AllBlank cs) :
    constPrefix? (normalSpacing (constWord ++ (gap ++ cs))) = some (normalSpacing cs) := by
  have hbehind : ¬ AllBlank (gap ++ cs) := fun hall => h (allBlank_append_iff.1 hall).2
  rw [normalSpacing_append isBaseWord_constWord.not_allBlank hbehind,
    isBaseWord_constWord.normalSpacing, normalSpacing_blank_append hgap, seam_append hne,
    seam_of_allBlank_right hgap hne, List.append_assoc]
  exact constPrefix?_eq_some_iff.2 rfl

/-- The word for constness in front of other words is split off. -/
theorem Spells.exists_constPrefix? (h : Spells (constWord :: words) suffixes text)
    (hne : words ≠ []) (hwords : ∀ w ∈ words, IsBaseWord w) :
    ∃ rest, Spells words suffixes rest ∧
      constPrefix? (normalSpacing text) = some (normalSpacing rest) := by
  obtain ⟨lead, gap, rest, hlead, hgap, hgapne, rfl, hrest⟩ := h.otherWords hne
  refine ⟨rest, hrest, ?_⟩
  rw [normalSpacing_blank_append hlead]
  exact constPrefix?_const_append hgap hgapne (hrest.not_allBlank hne hwords)

end Const

section Join

variable {w : List Char} {words : List (List Char)} {text : List Char}

/-- Words with blanks between them are in normal spacing when the blanks are single spaces. -/
theorem Spaced.normalSpacing (h : Spaced words text) (hwords : ∀ w ∈ words, IsBaseWord w) :
    normalSpacing text = Text.Split.join [' '] words ∧ ¬ AllBlank text := by
  induction h with
  | single w =>
    have hw := hwords w List.mem_cons_self
    exact ⟨hw.normalSpacing, hw.not_allBlank⟩
  | @cons w gap rest more hgap hne hmore ih =>
    obtain ⟨hw, hothers⟩ := List.forall_mem_cons.1 hwords
    obtain ⟨hrest, hblank⟩ := ih hothers
    have hbehind : ¬ AllBlank (gap ++ rest) := fun hall => hblank (allBlank_append_iff.1 hall).2
    refine ⟨?_, fun hall => hbehind (allBlank_append_iff.1 hall).2⟩
    rw [normalSpacing_append hw.not_allBlank hbehind, hw.normalSpacing,
      normalSpacing_blank_append hgap, seam_append hne, seam_of_allBlank_right hgap hne, hrest]
    cases hmore <;> rfl

/-- Words alone, in normal spacing. -/
theorem Spells.normalSpacing (h : Spells words [] text) (hwords : ∀ w ∈ words, IsBaseWord w) :
    normalSpacing text = Text.Split.join [' '] words := by
  generalize hs : ([] : List Suffix) = suffixes at h
  cases h with
  | words hlead htext htrail =>
    rw [normalSpacing_blank_append hlead, normalSpacing_append_blank htrail,
      (htext.normalSpacing hwords).1]
  | suffix => exact absurd hs.symm (List.append_ne_nil_of_right_ne_nil _ (List.cons_ne_nil _ _))

/-- Joined words end in a character of a base. -/
theorem exists_join_concat (hne : words ≠ []) (hwords : ∀ w ∈ words, IsBaseWord w) :
    ∃ front c, Text.Split.join [' '] words = front ++ [c] ∧ isBaseChar c = true := by
  induction words with
  | nil => exact absurd rfl hne
  | cons w more ih =>
    obtain ⟨hw, hmore⟩ := List.forall_mem_cons.1 hwords
    cases more with
    | nil =>
      refine ⟨w.dropLast, w.getLast hw.ne_nil, ?_, hw.chars _ (List.getLast_mem _)⟩
      exact (List.dropLast_concat_getLast hw.ne_nil).symm
    | cons v more =>
      obtain ⟨front, c, hfront, hc⟩ := ih (List.cons_ne_nil _ _) hmore
      refine ⟨w ++ [' '] ++ front, c, ?_, hc⟩
      change w ++ [' '] ++ Text.Split.join [' '] (v :: more) = _
      rw [hfront, List.append_assoc _ front]

/-- Words alone name a leaf, less a word `const` in front. -/
theorem parseNormal_join (hne : words ≠ []) (hwords : ∀ w ∈ words, IsBaseWord w) :
    parseNormal (Text.Split.join [' '] words) =
      .ok (named ((constPrefix? (Text.Split.join [' '] words)).getD
        (Text.Split.join [' '] words))) := by
  obtain ⟨front, c, hjoin, hc⟩ := exists_join_concat hne hwords
  have hother : ∀ d, isBaseChar d = false → c ≠ d := fun d hd heq => by
    rw [heq, hd] at hc
    cases hc
  have hsome : front ++ [c] ≠ [] := List.append_ne_nil_of_right_ne_nil _ (List.cons_ne_nil _ _)
  rw [hjoin]
  exact parseNormal_of_no_suffix hsome (arraySuffix?_concat front (hother ']' (by decide)))
    (pointerSuffix?_concat front (hother '*' (by decide)) (hother '&' (by decide)))

end Join

section Leaf

variable {base : List (List Char)} {suffixes : List Suffix} {count : Nat} {text : List Char}

/-- A text that spells no builtin type names a tag. -/
theorem named_eq_tag {cs : List Char} (h : ∀ p : Primitive, p.spelling ≠ String.ofList cs) :
    named cs = .tag (String.ofList cs) := by
  have hnone : Primitive.ofSpelling? (String.ofList cs) = none :=
    List.find?_eq_none.2 fun p _ => by simpa using h p
  rw [named, hnone]

/-- The spelling of a builtin type names it. -/
theorem named_eq_builtin {cs : List Char} {p : Primitive} (h : p.spelling = String.ofList cs) :
    named cs = .builtin p := by
  rw [named, ← h, Primitive.ofSpelling?_spelling]

/-- No builtin type is spelled with the word for constness in front. -/
theorem spelling_ne_const (p : Primitive) (cs : List Char) :
    p.spelling ≠ String.ofList (constWord ++ ' ' :: cs) := by
  intro h
  have hprefix : constPrefix? p.spelling.toList = some cs := by
    rw [h, String.toList_ofList]
    rfl
  cases p <;> simp [Primitive.spelling, constPrefix?] at hprefix

/-- A word in front of joined words. -/
theorem join_cons (w : List Char) {words : List (List Char)} (h : words ≠ []) :
    Text.Split.join [' '] (w :: words) = w ++ ' ' :: Text.Split.join [' '] words := by
  cases words with
  | nil => exact absurd rfl h
  | cons v more => exact List.append_assoc w [' '] _

/-- What words name once a word `const` in front has been passed over. -/
theorem isLeafOf_named (hbase : IsBase base) (surplus : Nat) :
    IsLeafOf surplus base
      (named (Text.Split.join [' '] (List.replicate (surplus - 1) constWord ++ base))) := by
  have hleast : surplus ≤ 1 → List.replicate (surplus - 1) constWord ++ base = base := by
    intro h
    rw [Nat.sub_eq_zero_of_le h]
    rfl
  refine ⟨fun h p hp => ?_, fun h hp => ?_, fun h => ?_⟩
  · rw [hleast h]
    exact named_eq_builtin hp
  · rw [hleast h]
    exact named_eq_tag hp
  · obtain ⟨rest, rfl⟩ := Nat.exists_eq_add_of_le h
    have hwords : List.replicate rest constWord ++ base ≠ [] :=
      List.append_ne_nil_of_right_ne_nil _ hbase.ne_nil
    have hjoin := join_cons constWord hwords
    rw [show 2 + rest - 1 = rest + 1 by omega, List.replicate_succ, List.cons_append]
    refine named_eq_tag fun p => ?_
    rw [hjoin]
    exact spelling_ne_const p _

namespace IsBase

/-- With words `const` in front there is a word still. -/
theorem words_ne_nil (h : IsBase base) (count : Nat) :
    List.replicate count constWord ++ base ≠ [] :=
  List.append_ne_nil_of_right_ne_nil _ h.ne_nil

/-- With words `const` in front there are words of a base still. -/
theorem isBaseWord (h : IsBase base) (count : Nat) :
    ∀ w ∈ List.replicate count constWord ++ base, IsBaseWord w := by
  intro w hw
  cases List.mem_append.1 hw with
  | inl hconst => exact List.eq_of_mem_replicate hconst ▸ isBaseWord_constWord
  | inr hw => exact h.words w hw

/-- Without a word `const` nothing is split off. -/
theorem constPrefix?_eq_none (h : IsBase base) (htext : Spells base suffixes text) :
    constPrefix? (normalSpacing text) = none := by
  obtain ⟨w, more, rfl⟩ := List.exists_cons_of_ne_nil h.ne_nil
  exact htext.constPrefix?_eq_none (h.words w List.mem_cons_self) fun hw => h.head (hw ▸ rfl)

/-- One word `const` is split off at a time. -/
theorem exists_constPrefix? (h : IsBase base)
    (htext : Spells (List.replicate (count + 1) constWord ++ base) suffixes text) :
    ∃ rest, Spells (List.replicate count constWord ++ base) suffixes rest ∧
      constPrefix? (normalSpacing text) = some (normalSpacing rest) :=
  Spells.exists_constPrefix? htext (h.words_ne_nil count) (h.isBaseWord count)

/-- Words alone are read as what they name, less the first `const`. -/
theorem parseNormal_words (h : IsBase base)
    (htext : Spells (List.replicate count constWord ++ base) [] text) :
    parseNormal (normalSpacing text) =
      .ok (named (Text.Split.join [' '] (List.replicate (count - 1) constWord ++ base))) := by
  have hwords := htext.normalSpacing (h.isBaseWord count)
  rw [hwords, parseNormal_join (h.words_ne_nil count) (h.isBaseWord count), ← hwords]
  cases count with
  | zero =>
    rw [h.constPrefix?_eq_none htext, hwords]
    rfl
  | succ count =>
    obtain ⟨rest, hrest, hconst⟩ := h.exists_constPrefix? htext
    rw [hconst, Option.getD_some, hrest.normalSpacing (h.isBaseWord count)]
    rfl

end IsBase

/-- What a text names has no layers. -/
theorem layers_named (cs : List Char) : (named cs).layers = [] := by
  unfold named
  dsimp only
  split <;> rfl

/-- What a text names is a leaf. -/
theorem leaf_named (cs : List Char) : (named cs).leaf = named cs := by
  unfold named
  dsimp only
  split <;> rfl

end Leaf

namespace Says

variable {base : List (List Char)} {suffixes : List Suffix} {count : Nat} {t : CType}

/-- A further mark counts one more pointer. -/
theorem countP_concat_pointer (isReference : Bool) :
    (suffixes ++ [Suffix.pointer isReference]).countP Suffix.isPointer =
      suffixes.countP Suffix.isPointer + 1 := List.countP_append

/-- Words alone say what they name. -/
theorem named (hbase : IsBase base) (count : Nat) :
    Says count base []
      (named (Text.Split.join [' '] (List.replicate (count - 1) constWord ++ base))) where
  layers := by rw [layers_named]; rfl
  constMarks := by rw [CType.constMarks, layers_named]; simp
  leaf := by rw [leaf_named]; exact isLeafOf_named hbase count

/-- A further suffix with digits says one more array. -/
theorem array (h : Says count base suffixes t) (digits : List Char) :
    Says count base (suffixes ++ [.array digits]) (.array t (sizeOf digits)) where
  layers := by
    rw [List.reverse_append, List.map_append, ← h.layers]
    rfl
  constMarks := by
    rw [constMarks_array, h.constMarks, List.countP_append]
    rfl
  leaf := by
    rw [List.countP_append]
    exact h.leaf

/-- Without a word `const`, a further mark says one more pointer, which is not constant. -/
theorem pointer (h : Says 0 base suffixes t) (isReference : Bool) :
    Says 0 base (suffixes ++ [.pointer isReference]) (.pointer t isReference false) where
  layers := by
    rw [List.reverse_append, List.map_append, ← h.layers]
    rfl
  constMarks := by
    rw [constMarks_pointer, h.constMarks, countP_concat_pointer, Nat.zero_min, Nat.zero_min,
      Nat.sub_zero, Nat.sub_zero, List.replicate_succ]
    rfl
  leaf := by
    have hleaf := h.leaf
    rw [Nat.zero_sub] at hleaf ⊢
    exact hleaf

/-- A further mark says one more pointer, which takes one more word `const`. -/
theorem constPointer (h : Says count base suffixes t) (isReference : Bool) :
    Says (count + 1) base (suffixes ++ [.pointer isReference]) (.pointer t isReference true) where
  layers := by
    rw [List.reverse_append, List.map_append, ← h.layers]
    rfl
  constMarks := by
    rw [constMarks_pointer, h.constMarks, countP_concat_pointer, Nat.add_min_add_right,
      Nat.add_sub_add_right, List.replicate_succ, List.cons_append]
  leaf := by
    rw [countP_concat_pointer, Nat.add_sub_add_right]
    exact h.leaf

/-- A base names one leaf. -/
theorem isLeafOf_unique {surplus : Nat} {t u : CType} (ht : IsLeafOf surplus base t)
    (hu : IsLeafOf surplus base u) : t = u := by
  by_cases hsurplus : surplus ≤ 1
  · by_cases hbuiltin : ∃ p : Primitive, p.spelling = nameOf base
    · obtain ⟨p, hp⟩ := hbuiltin
      rw [ht.builtin hsurplus p hp, hu.builtin hsurplus p hp]
    · have hnone : ∀ p : Primitive, p.spelling ≠ nameOf base := fun p hp => hbuiltin ⟨p, hp⟩
      rw [ht.tag hsurplus hnone, hu.tag hsurplus hnone]
  · have hleft : 2 ≤ surplus := Nat.lt_of_not_le hsurplus
    rw [ht.const hleft, hu.const hleft]

/-- What a spelling says, it says of one type. -/
theorem unique {u : CType} (ht : Says count base suffixes t) (hu : Says count base suffixes u) :
    t = u :=
  eq_of_layers_of_leaf
    (layers_eq_of_marks (ht.layers.trans hu.layers.symm) (ht.constMarks.trans hu.constMarks.symm))
    (isLeafOf_unique ht.leaf hu.leaf)

end Says

section Reading

variable {base : List (List Char)} {suffixes : List Suffix} {count : Nat}

/-- Once a text is in normal spacing, it is read as what it says. The last suffix makes the
outermost layer, which takes the first word `const`. -/
theorem exists_parseNormal_of_spells {text : List Char} (hbase : IsBase base)
    (htext : Spells (List.replicate count constWord ++ base) suffixes text)
    (hdigits : ∀ digits, .array digits ∈ suffixes → digits.length ≤ Text.Digit.limit) :
    ∃ t, parseNormal (normalSpacing text) = .ok t ∧ Says count base suffixes t := by
  induction suffixes using List.reverseRecOn generalizing count text with
  | nil => exact ⟨_, hbase.parseNormal_words htext, .named hbase count⟩
  | append_singleton suffixes s ih =>
    have hinner : ∀ digits, .array digits ∈ suffixes → digits.length ≤ Text.Digit.limit :=
      fun digits hmem => hdigits digits (List.mem_append_left _ hmem)
    obtain ⟨front, written, trail, hfront, hwritten, htrail, rfl⟩ := htext.exists_front
    cases s with
    | array digits =>
      obtain ⟨left, right, hleft, hdigit, hright, rfl⟩ := hwritten.exists_brackets
      obtain ⟨t, ht, hsays⟩ := ih hfront hinner
      have hlimit := hdigits digits (List.mem_append_right _ List.mem_cons_self)
      have hblank := hfront.not_allBlank (hbase.words_ne_nil count) (hbase.isBaseWord count)
      refine ⟨.array t (sizeOf digits), ?_, hsays.array digits⟩
      rw [parseNormal_brackets hblank hleft hdigit hright htrail hlimit, ht]
      rfl
    | pointer isReference =>
      obtain rfl := hwritten.eq_markOf
      have hread := parseNormal_mark (x := front) isReference htrail
      cases count with
      | zero =>
        obtain ⟨t, ht, hsays⟩ := ih hfront hinner
        rw [hbase.constPrefix?_eq_none hfront, ht] at hread
        exact ⟨.pointer t isReference false, hread, hsays.pointer isReference⟩
      | succ count =>
        obtain ⟨rest, hrest, hconst⟩ := hbase.exists_constPrefix? hfront
        obtain ⟨t, ht, hsays⟩ := ih hrest hinner
        rw [hconst] at hread
        dsimp only at hread
        rw [ht] at hread
        exact ⟨.pointer t isReference true, hread, hsays.constPointer isReference⟩

/-- Every spelling of a type, however it is spaced, is read as what it says. -/
theorem parse_of_spells {text : String} (hbase : IsBase base)
    (htext : Spells (List.replicate count constWord ++ base) suffixes text.toList)
    (hdigits : ∀ digits, .array digits ∈ suffixes → digits.length ≤ Text.Digit.limit) :
    ∃ t, parse text = .ok t ∧ Says count base suffixes t := by
  obtain ⟨t, ht, hsays⟩ := exists_parseNormal_of_spells hbase htext hdigits
  exact ⟨t, parse_eq_ok_iff.2 ht, hsays⟩

end Reading

/-- A reference to an array of pointers, loosely spaced. The pointers take both words `const`. -/
theorem parse_of_spells_loose :
    IsBase [['u', 'n', 's', 'i', 'g', 'n', 'e', 'd'], ['c', 'h', 'a', 'r']] ∧
      ∃ t, parse "const\tconst  unsigned\u00a0char * [ 3]&\n" = .ok t ∧
        Says 2 [['u', 'n', 's', 'i', 'g', 'n', 'e', 'd'], ['c', 'h', 'a', 'r']]
          [.pointer false, .array ['3'], .pointer true] t := by
  have hbase : IsBase [['u', 'n', 's', 'i', 'g', 'n', 'e', 'd'], ['c', 'h', 'a', 'r']] :=
    ⟨by decide, by
      intro w hw
      rcases List.mem_cons.1 hw with rfl | hw
      · exact isBaseWord_of_all (by decide) (by decide)
      · obtain rfl := List.mem_singleton.1 hw
        exact isBaseWord_of_all (by decide) (by decide), by decide⟩
  have hwords : Spaced (List.replicate 2 constWord ++
      [['u', 'n', 's', 'i', 'g', 'n', 'e', 'd'], ['c', 'h', 'a', 'r']])
      "const\tconst  unsigned\u00a0char".toList :=
    .cons constWord (show AllBlank ['\t'] by decide) (by decide) <|
      .cons constWord (show AllBlank [' ', ' '] by decide) (by decide) <|
        .cons _ (show AllBlank ['\u00a0'] by decide) (by decide) (.single _)
  have hblank : AllBlank [' '] := by decide
  have hpointer := (Spells.words allBlank_nil hwords hblank).suffix .star hblank
  have hsize := @Suffix.Written.brackets [' '] ['3'] [] hblank
    (List.forall_mem_singleton.2 (by decide)) allBlank_nil
  have hreference := (hpointer.suffix hsize allBlank_nil).suffix .ampersand
    (show AllBlank ['\n'] by decide)
  exact ⟨hbase, parse_of_spells hbase hreference (by simp [Text.Digit.limit])⟩

end Interop.CType
