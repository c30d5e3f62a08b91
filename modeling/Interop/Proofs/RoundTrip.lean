import Mathlib.Data.List.Pairwise
import Interop.CType.Printer
import Interop.Proofs.Spelling

/-!
# Reading printed types

The C spelling of a type puts every word `const` in front, and reading hands the words back to the
pointers, the outermost first. So a type is read back from its spelling exactly if its leaf is read
back from its name and no pointer that is not constant has a constant one inside. Array sizes, and
whatever else stands in between, make no difference.
-/

namespace Interop.Text.Digit

/-- A digit of the first script counts its distance from zero. -/
theorem value?_of_isDigit {c : Char} (h : c.isDigit = true) :
    value? c = some (c.toNat - '0'.toNat) := by
  obtain ⟨hlow, hhigh⟩ := Char.isDigit_iff_toNat.1 h
  have hzero : '0'.toNat = 0x30 := by decide
  have hnine : '9'.toNat = 0x39 := by decide
  have hfind : zeros.find? (fun base => base ≤ c.toNat && c.toNat < base + 10) = some 0x30 := by
    refine List.find?_cons_of_pos ?_
    rw [Bool.and_eq_true, decide_eq_true_eq, decide_eq_true_eq]
    omega
  rw [value?, hfind, hzero]
  rfl

/-- The digits of a natural number are digits. -/
theorem isDigit_of_mem_naturalDigits {n : Nat} {c : Char} (h : c ∈ Decimal.naturalDigits n) :
    isDigit c = true := by
  rw [isDigit, value?_of_isDigit (Nat.isDigit_of_mem_toDigits (by decide) (by decide) h)]
  rfl

/-- The digits of a natural number write it. -/
theorem toNat_naturalDigits (n : Nat) : toNat (Decimal.naturalDigits n) = n := by
  have hfold : ∀ (digits : List Char) (acc : Nat), (∀ c ∈ digits, c.isDigit = true) →
      digits.foldl (fun n c => 10 * n + (value? c).getD 0) acc =
        Nat.ofDigitChars 10 digits acc := by
    intro digits
    induction digits with
    | nil => exact fun acc _ => rfl
    | cons c digits ih =>
      intro acc h
      obtain ⟨hc, hdigits⟩ := List.forall_mem_cons.1 h
      rw [List.foldl_cons, ih _ hdigits, value?_of_isDigit hc]
      rfl
  have hdigits : ∀ c ∈ Decimal.naturalDigits n, c.isDigit = true := fun c hc =>
    Nat.isDigit_of_mem_toDigits (by decide) (by decide) hc
  rw [toNat, hfold _ 0 hdigits]
  exact Nat.ofDigitChars_ten_toDigits

end Interop.Text.Digit

namespace Interop.CType

open Text.Blank

/-- Sizes that can be written: natural numbers with as many digits as a number may have at most. -/
def IsSize (n : Int) : Prop := 0 ≤ n ∧ n < Nat.pow 10 Text.Digit.limit

/-- A natural number is a size if a number may have as many digits. Which limit that is does not
matter. -/
theorem isSize_natCast_iff (k : Nat) :
    IsSize k ↔ (Decimal.naturalDigits k).length ≤ Text.Digit.limit := by
  have hlimit : 0 < Text.Digit.limit := by decide
  unfold IsSize
  generalize Text.Digit.limit = limit at hlimit ⊢
  rw [Decimal.naturalDigits, Nat.length_toDigits_le_iff (by decide) hlimit, Int.ofNat_lt]
  exact and_iff_right (Int.natCast_nonneg k)

/-- Whether all sizes that a type gives can be written. -/
def HasSizes (t : CType) : Prop := ∀ n, .array (some n) ∈ t.layers → IsSize n

/-- The text between the brackets of an array. -/
def sizeText (size : Option Int) : String := (size.map Decimal.integerText).getD ""

/-- Between brackets stand digits that say the size. -/
theorem exists_digits_of_size {size : Option Int} (h : ∀ n, size = some n → IsSize n) :
    (∀ d ∈ (sizeText size).toList, Text.Digit.isDigit d = true) ∧
      (sizeText size).toList.length ≤ Text.Digit.limit ∧ sizeOf (sizeText size).toList = size := by
  cases size with
  | none => exact ⟨fun d hd => absurd hd List.not_mem_nil, Nat.zero_le _, rfl⟩
  | some n =>
    obtain ⟨k, rfl⟩ := Int.eq_ofNat_of_zero_le (h n rfl).1
    have htext : (sizeText (some (k : Int))).toList = Decimal.naturalDigits k := by
      rw [sizeText, Option.map_some, Option.getD_some, Decimal.integerText, if_neg (by omega)]
      exact String.toList_ofList
    have hlength := (isSize_natCast_iff k).1 (h k rfl)
    have hne : Decimal.naturalDigits k ≠ [] := Nat.toDigits_ne_nil
    rw [htext]
    refine ⟨fun d hd => Text.Digit.isDigit_of_mem_naturalDigits hd, hlength, ?_⟩
    rw [sizeOf, if_neg (by simpa using hne), Text.Digit.toNat_naturalDigits]

section Layer

variable {inner : String} {t : CType} {isReference : Bool}

/-- The characters of an array's spelling. -/
theorem toList_array (inner : String) (size : Option Int) :
    (inner ++ "[" ++ sizeText size ++ "]").toList =
      inner.toList ++ brackets [] (sizeText size).toList [] := by
  simp [brackets]

/-- The characters of the spelling of a pointer that is not constant. -/
theorem toList_pointer (inner : String) (isReference : Bool) :
    (inner ++ mark isReference).toList = inner.toList ++ [markOf isReference] := by
  rw [String.toList_append]
  cases isReference <;> rfl

/-- The characters of a constant pointer's spelling. -/
theorem toList_constPointer (inner : String) (isReference : Bool) :
    ("const " ++ inner ++ mark isReference).toList =
      (constWord ++ ([' '] ++ inner.toList)) ++ [markOf isReference] := by
  rw [toList_pointer, String.toList_append]
  rfl

/-- Brackets with digits alone hold no blank. -/
theorem isBlank_brackets {digits : List Char}
    (hdigits : ∀ d ∈ digits, Text.Digit.isDigit d = true) :
    ∀ c ∈ brackets [] digits [], isBlank c = false := by
  intro c hc
  simp only [brackets, List.nil_append, List.mem_cons, List.mem_append, List.not_mem_nil,
    or_false] at hc
  rcases hc with rfl | hc | rfl
  · decide
  · exact Text.Digit.isBlank_of_isDigit (hdigits c hc)
  · decide

/-- What is made of a value by an injective function shows whether the value was there. -/
theorem map_eq_ok_iff {ε α β : Type} {f : α → β} (hf : Function.Injective f) {e : Except ε α}
    {a : α} : e.map f = .ok (f a) ↔ e = .ok a := by
  cases e with
  | error fault => exact ⟨fun h => (nomatch h), fun h => (nomatch h)⟩
  | ok b =>
    refine ⟨fun h => ?_, fun h => ?_⟩
    · rw [hf (Except.ok.inj h)]
    · rw [Except.ok.inj h]
      rfl

/-- Brackets with nothing in front of them make no array. -/
theorem parseNormal_brackets_ne {x digits : List Char} {size : Option Int} (hx : AllBlank x)
    (hdigits : ∀ d ∈ digits, Text.Digit.isDigit d = true) :
    parseNormal (normalSpacing (x ++ (brackets [] digits [] ++ []))) ≠ .ok (.array t size) := by
  have hword := normalSpacing_of_isBlank_false (isBlank_brackets hdigits)
  have harray : arraySuffix? (brackets [] digits []) = none := by
    have h := arraySuffix?_brackets (x := []) allBlank_nil allBlank_nil hdigits allBlank_nil
    rwa [if_pos allBlank_nil] at h
  have hpointer : pointerSuffix? (brackets [] digits []) = none :=
    pointerSuffix?_concat ('[' :: digits) (by decide) (by decide)
  have hne : brackets [] digits [] ≠ [] := List.cons_ne_nil _ _
  have hlayers := layers_named
    ((constPrefix? (brackets [] digits [])).getD (brackets [] digits []))
  rw [normalSpacing_blank_append hx, List.append_nil, hword,
    parseNormal_of_no_suffix hne harray hpointer]
  intro h
  rw [Except.ok.inj h] at hlayers
  cases hlayers

/-- An array is read back if its elements are. -/
theorem parse_array_iff {size : Option Int} (h : ∀ n, size = some n → IsSize n) :
    parse (inner ++ "[" ++ sizeText size ++ "]") = .ok (.array t size) ↔ parse inner = .ok t := by
  obtain ⟨hdigits, hlimit, hsize⟩ := exists_digits_of_size h
  rw [parse_eq_ok_iff, parse_eq_ok_iff, toList_array, ← List.append_nil (brackets _ _ _)]
  by_cases hblank : AllBlank inner.toList
  · rw [normalSpacing_eq_nil_iff.2 hblank, parseNormal_nil]
    exact ⟨fun h => absurd h (parseNormal_brackets_ne hblank hdigits), fun h => (nomatch h)⟩
  · rw [parseNormal_brackets hblank allBlank_nil hdigits allBlank_nil allBlank_nil hlimit, hsize]
    exact map_eq_ok_iff (f := (CType.array · size)) fun _ _ h => (CType.array.inj h).1

/-- A pointer is not read as one of the other constness. -/
theorem map_pointer_ne {ε : Type} (e : Except ε CType) (isConst : Bool) :
    e.map (CType.pointer · isReference !isConst) ≠ .ok (.pointer t isReference isConst) := by
  intro h
  cases e with
  | error fault => cases h
  | ok s =>
    have hconst := (CType.pointer.inj (Except.ok.inj h)).2.2
    cases isConst <;> cases hconst

/-- A pointer that is not constant is read back if its pointee is, and if that does not start with
the word `const`. -/
theorem parse_pointer_iff :
    parse (inner ++ mark isReference) = .ok (.pointer t isReference false) ↔
      constPrefix? (normalSpacing inner.toList) = none ∧ parse inner = .ok t := by
  rw [parse_eq_ok_iff, parse_eq_ok_iff, toList_pointer, ← List.append_nil [markOf isReference],
    parseNormal_mark isReference allBlank_nil]
  cases constPrefix? (normalSpacing inner.toList) with
  | some rest =>
    exact ⟨fun h => absurd h (map_pointer_ne (parseNormal rest) false), fun h => (nomatch h.1)⟩
  | none =>
    have hmap := map_eq_ok_iff (f := (CType.pointer · isReference false))
      (e := parseNormal (normalSpacing inner.toList)) (a := t) fun _ _ h => (CType.pointer.inj h).1
    exact hmap.trans ⟨fun h => ⟨rfl, h⟩, fun h => h.2⟩

/-- A constant pointer is read back if its pointee is. -/
theorem parse_constPointer_iff :
    parse ("const " ++ inner ++ mark isReference) = .ok (.pointer t isReference true) ↔
      parse inner = .ok t := by
  rw [parse_eq_ok_iff, parse_eq_ok_iff, toList_constPointer,
    ← List.append_nil [markOf isReference], parseNormal_mark isReference allBlank_nil]
  by_cases hblank : AllBlank inner.toList
  · have hword : normalSpacing (constWord ++ ([' '] ++ inner.toList)) = constWord := by
      rw [normalSpacing_append_blank (allBlank_append_iff.2 ⟨by decide, hblank⟩),
        isBaseWord_constWord.normalSpacing]
    rw [hword, normalSpacing_eq_nil_iff.2 hblank, parseNormal_nil]
    exact ⟨fun h => absurd h (map_pointer_ne (parseNormal constWord) true), fun h => (nomatch h)⟩
  · rw [constPrefix?_const_append (show AllBlank [' '] by decide) (List.cons_ne_nil _ _) hblank]
    exact map_eq_ok_iff (f := (CType.pointer · isReference true)) fun _ _ h =>
      (CType.pointer.inj h).1

end Layer

/-- Texts in normal spacing with a word. -/
structure IsNormal (cs : List Char) : Prop where
  /-- Spacing is normal. -/
  normal : normalSpacing cs = cs
  /-- There is a word. -/
  ne_nil : cs ≠ []

section Normal

variable {xs ys : List Char}

/-- A text in normal spacing with a word is not all blank. -/
theorem IsNormal.not_allBlank (h : IsNormal xs) : ¬ AllBlank xs := by
  rw [← normalSpacing_eq_nil_iff, h.normal]
  exact h.ne_nil

/-- What follows a text directly, without blanks, does not change the spacing. -/
theorem IsNormal.append (h : IsNormal xs) (hy : ∀ c ∈ ys, isBlank c = false) :
    IsNormal (xs ++ ys) := by
  refine ⟨?_, List.append_ne_nil_of_left_ne_nil h.ne_nil ys⟩
  cases ys with
  | nil => rw [List.append_nil, h.normal]
  | cons c ys =>
    obtain ⟨front, last, hfront, hlast⟩ := exists_normalSpacing_concat h.not_allBlank
    have hc := hy c List.mem_cons_self
    have hseam : seam xs (c :: ys) = [] := by
      rw [h.normal] at hfront
      simp [hfront, seam, hlast, hc]
    rw [normalSpacing_append h.not_allBlank (not_allBlank_of_mem List.mem_cons_self hc), hseam,
      h.normal, normalSpacing_of_isBlank_false hy, List.append_nil]

/-- The word `const` and a space in front do not change the spacing. -/
theorem IsNormal.const (h : IsNormal xs) : IsNormal (constWord ++ ([' '] ++ xs)) := by
  refine ⟨?_, List.cons_ne_nil _ _⟩
  have hprefix := constPrefix?_const_append (show AllBlank [' '] by decide)
    (List.cons_ne_nil _ _) h.not_allBlank
  rw [constPrefix?_eq_some_iff.1 hprefix, h.normal]
  rfl

/-- What follows a text directly, without blanks, does not make its first word `const`. The space
behind that word would have to be among what follows. -/
theorem constPrefix?_append_eq_none_iff (hy : ∀ c ∈ ys, isBlank c = false) :
    constPrefix? (xs ++ ys) = none ↔ constPrefix? xs = none := by
  refine ⟨fun h => ?_, fun h => ?_⟩
  · cases hxs : constPrefix? xs with
    | none => rfl
    | some rest =>
      rw [constPrefix?_eq_some_iff.1 hxs] at h
      cases h
  · rw [Option.eq_none_iff_forall_not_mem]
    intro rest hrest
    have heq : xs ++ ys = (constWord ++ [' ']) ++ rest := constPrefix?_eq_some_iff.1 hrest
    obtain ⟨behind, hconst, hys⟩ | ⟨behind, hxs, -⟩ := List.append_eq_append_iff.1 heq
    · rcases List.eq_nil_or_concat behind with rfl | ⟨front, last, rfl⟩
      · rw [List.append_nil] at hconst
        rw [← hconst] at h
        cases h
      · rw [List.concat_eq_append, ← List.append_assoc] at hconst
        have hlast := (List.append_inj' hconst rfl).2
        cases hlast
        have hspace := hy ' ' (by simp [hys])
        cases hspace
    · rw [hxs] at h
      cases h

end Normal

/-- Leaves that are read back from their names. -/
def ReadsBack (t : CType) : Prop :=
  (∃ p, t = .builtin p) ∨ ∃ name, t = .tag name ∧ parse name = .ok (.tag name)

/-- No pointer that is not constant has a constant one inside. -/
def ConstOutermost (t : CType) : Prop :=
  t.constMarks.Pairwise fun outer inner => inner = true → outer = true

instance (t : CType) : Decidable t.ConstOutermost :=
  inferInstanceAs (Decidable (t.constMarks.Pairwise fun outer inner => inner = true → outer = true))

section Spelling

variable {t : CType} {text : String}

/-- The spelling of a builtin type is in normal spacing, without the word `const` in front. -/
theorem isNormal_builtin (p : Primitive) :
    IsNormal p.spelling.toList ∧ constPrefix? p.spelling.toList = none := by
  refine ⟨⟨?_, ?_⟩, ?_⟩ <;> cases p <;> decide

/-- A builtin type is read back from its spelling. -/
theorem parse_spelling_builtin (p : Primitive) : parse p.spelling = .ok (.builtin p) := by
  obtain ⟨hnormal, hconst⟩ := isNormal_builtin p
  have harray : arraySuffix? p.spelling.toList = none := by cases p <;> decide
  have hpointer : pointerSuffix? p.spelling.toList = none := by cases p <;> decide
  rw [parse_eq_ok_iff, hnormal.normal, parseNormal_of_no_suffix hnormal.ne_nil harray hpointer,
    hconst, Option.getD_none, named_eq_builtin String.ofList_toList.symm]

/-- A text that names a tag is its name. -/
theorem toList_of_named_eq_tag {cs : List Char} {name : String} (h : named cs = .tag name) :
    name.toList = cs := by
  unfold named at h
  dsimp only at h
  split at h
  · cases h
  · rw [← CType.tag.inj h, String.toList_ofList]

/-- A tag that is read back from its name has a name in normal spacing, without the word `const` in
front. Reading would have taken such a word away, and normal spacing adds no word. -/
theorem isNormal_of_parse_tag {name : String} (h : parse name = .ok (.tag name)) :
    IsNormal name.toList ∧ constPrefix? name.toList = none := by
  obtain ⟨hne, hnamed⟩ := named_of_parseNormal_eq_tag (parse_eq_ok_iff.1 h)
  have hname := toList_of_named_eq_tag hnamed
  cases hconst : constPrefix? (normalSpacing name.toList) with
  | none =>
    rw [hconst, Option.getD_none] at hname
    rw [← hname] at hne hconst
    exact ⟨⟨hname.symm, hne⟩, hconst⟩
  | some rest =>
    rw [hconst, Option.getD_some] at hname
    have hfilter := filter_normalSpacing name.toList
    rw [constPrefix?_eq_some_iff.1 hconst, ← hname] at hfilter
    have hword : (constWord.filter (!isBlank ·)).length = 5 := by decide
    have hspace : (' ' :: name.toList).filter (!isBlank ·) = name.toList.filter (!isBlank ·) :=
      List.filter_cons_of_neg (by decide)
    have hlength := congrArg List.length hfilter
    rw [List.filter_append, hspace, List.length_append, hword] at hlength
    omega

/-- The spelling of a pointer has that of its pointee inside. -/
theorem exists_spelling_pointer {isReference isConst : Bool}
    (h : (pointer t isReference isConst).spelling = .ok text) :
    ∃ inner, t.spelling = .ok inner ∧
      text = (if isConst then "const " else "") ++ inner ++ mark isReference := by
  rw [spelling] at h
  cases ht : t.spelling with
  | error fault =>
    rw [ht] at h
    cases h
  | ok inner =>
    rw [ht] at h
    exact ⟨inner, rfl, (Except.ok.inj h).symm⟩

/-- The spelling of an array has that of its elements inside. -/
theorem exists_spelling_array {size : Option Int} (h : (array t size).spelling = .ok text) :
    ∃ inner, t.spelling = .ok inner ∧ text = inner ++ "[" ++ sizeText size ++ "]" := by
  rw [spelling] at h
  cases ht : t.spelling with
  | error fault =>
    rw [ht] at h
    cases h
  | ok inner =>
    rw [ht] at h
    exact ⟨inner, rfl, (Except.ok.inj h).symm⟩

/-- The sizes inside a layer can be written if all sizes can. -/
theorem HasSizes.inner {layer : Layer} {s : CType} (h : t.HasSizes)
    (hlayers : t.layers = layer :: s.layers) : s.HasSizes := fun n hn =>
  h n (hlayers ▸ List.mem_cons_of_mem layer hn)

/-- The spelling of a type whose leaf is read back is in normal spacing. It starts with the word
`const` if a pointer is constant. -/
theorem isNormal_spelling (hleaf : t.leaf.ReadsBack) (hsizes : t.HasSizes)
    (htext : t.spelling = .ok text) :
    IsNormal text.toList ∧ (constPrefix? text.toList = none ↔ true ∉ t.constMarks) := by
  induction t generalizing text with
  | builtin p =>
    obtain rfl := Except.ok.inj htext
    obtain ⟨hnormal, hconst⟩ := isNormal_builtin p
    exact ⟨hnormal, fun _ => List.not_mem_nil, fun _ => hconst⟩
  | tag name =>
    obtain rfl := Except.ok.inj htext
    obtain ⟨p, hp⟩ | ⟨name', hname, hparse⟩ := hleaf
    · cases hp
    · cases hname
      obtain ⟨hnormal, hconst⟩ := isNormal_of_parse_tag hparse
      exact ⟨hnormal, fun _ => List.not_mem_nil, fun _ => hconst⟩
  | pointer pointee isReference isConst ih =>
    obtain ⟨inner, hinner, rfl⟩ := exists_spelling_pointer htext
    obtain ⟨hnormal, hconst⟩ := ih hleaf (hsizes.inner rfl) hinner
    cases isConst with
    | false =>
      have hmark := isBlank_markOf isReference
      rw [if_neg Bool.false_ne_true, String.empty_append, toList_pointer]
      refine ⟨hnormal.append hmark, ?_⟩
      rw [constPrefix?_append_eq_none_iff hmark, hconst]
      simp
    | true =>
      rw [if_pos rfl, toList_constPointer]
      refine ⟨hnormal.const.append (isBlank_markOf isReference), fun h => (nomatch h), fun h => ?_⟩
      exact absurd List.mem_cons_self h
  | array element size ih =>
    obtain ⟨inner, hinner, rfl⟩ := exists_spelling_array htext
    obtain ⟨hnormal, hconst⟩ := ih hleaf (hsizes.inner rfl) hinner
    have hsize : ∀ n, size = some n → IsSize n := fun n hn => hsizes n (hn ▸ List.mem_cons_self)
    have hbrackets := isBlank_brackets (exists_digits_of_size hsize).1
    rw [toList_array]
    exact ⟨hnormal.append hbrackets, (constPrefix?_append_eq_none_iff hbrackets).trans hconst⟩
  | missing => cases htext
  | bare => cases htext

/-- A pointer that is not constant has no constant one inside, and a constant one may have any. -/
theorem constOutermost_pointer_iff {isReference isConst : Bool} :
    (pointer t isReference isConst).ConstOutermost ↔
      (isConst = false → true ∉ t.constMarks) ∧ t.ConstOutermost := by
  rw [ConstOutermost, constMarks_pointer, List.pairwise_cons]
  refine and_congr_left fun _ => ?_
  cases isConst with
  | false =>
    refine ⟨fun h _ hmem => Bool.false_ne_true (h true hmem rfl), fun h inner hmem hinner => ?_⟩
    exact absurd (hinner ▸ hmem) (h rfl)
  | true => exact ⟨fun _ h => (nomatch h), fun _ _ _ _ => rfl⟩

/-- A spelling is read as the type it was made from exactly if the leaf is read back from its name
and no pointer that is not constant has a constant one inside. What the spelling starts with is
known once the leaf is read back. -/
theorem parse_eq_ok_iff_of_spelling (hsizes : t.HasSizes) (htext : t.spelling = .ok text) :
    parse text = .ok t ↔ t.leaf.ReadsBack ∧ t.ConstOutermost := by
  induction t generalizing text with
  | builtin p =>
    obtain rfl := Except.ok.inj htext
    exact ⟨fun _ => ⟨.inl ⟨p, rfl⟩, .nil⟩, fun _ => parse_spelling_builtin p⟩
  | tag name =>
    obtain rfl := Except.ok.inj htext
    refine ⟨fun h => ⟨.inr ⟨name, rfl, h⟩, .nil⟩, fun ⟨hleaf, _⟩ => ?_⟩
    obtain ⟨p, hp⟩ | ⟨name', hname, hparse⟩ := hleaf
    · cases hp
    · cases hname
      exact hparse
  | pointer pointee isReference isConst ih =>
    obtain ⟨inner, hinner, rfl⟩ := exists_spelling_pointer htext
    have hpointee := ih (hsizes.inner rfl) hinner
    rw [constOutermost_pointer_iff]
    cases isConst with
    | true =>
      rw [if_pos rfl, parse_constPointer_iff, hpointee]
      exact and_congr_right fun _ => ⟨fun h => ⟨fun hfalse => (nomatch hfalse), h⟩, fun h => h.2⟩
    | false =>
      rw [if_neg Bool.false_ne_true, String.empty_append, parse_pointer_iff, hpointee]
      change _ ↔ pointee.leaf.ReadsBack ∧ _
      rw [and_left_comm]
      refine and_congr_right fun hleaf => and_congr_left fun _ => ?_
      obtain ⟨hnormal, hconst⟩ := isNormal_spelling hleaf (hsizes.inner rfl) hinner
      rw [hnormal.normal, hconst]
      exact ⟨fun h _ => h, fun h => h rfl⟩
  | array element size ih =>
    obtain ⟨inner, hinner, rfl⟩ := exists_spelling_array htext
    have hsize : ∀ n, size = some n → IsSize n := fun n hn => hsizes n (hn ▸ List.mem_cons_self)
    rw [parse_array_iff hsize]
    exact ih (hsizes.inner rfl) hinner
  | missing => cases htext
  | bare => cases htext

/-- A complete type is read back from its spelling exactly if its leaf is a builtin type or a tag
that is read back from its name, and no pointer that is not constant has a constant one inside. -/
theorem parse_spelling_iff (hcomplete : t.IsComplete) (hsizes : t.HasSizes) :
    (∃ text, t.spelling = .ok text ∧ parse text = .ok t) ↔
      t.leaf.ReadsBack ∧ t.ConstOutermost := by
  obtain ⟨text, htext⟩ := spelling_isOk hcomplete
  rw [← parse_eq_ok_iff_of_spelling hsizes htext, htext]
  exact ⟨fun ⟨_, hsame, h⟩ => Except.ok.inj hsame ▸ h, fun h => ⟨text, rfl, h⟩⟩

/-- A constant reference to an array of pointers is read back. A pointer to a constant pointer is
not: the outer one would take the word `const`. -/
theorem parse_spelling_reference_to_array :
    (∃ text, (pointer (array (pointer (builtin .int) false false) (some 3)) true true).spelling =
        .ok text ∧
      parse text = .ok (pointer (array (pointer (builtin .int) false false) (some 3)) true true)) ∧
    ¬ ∃ text, (pointer (pointer (builtin .char) false true) false false).spelling = .ok text ∧
      parse text = .ok (pointer (pointer (builtin .char) false true) false false) := by
  have hsizes :
      (pointer (array (pointer (builtin .int) false false) (some 3)) true true).HasSizes := by
    intro n hn
    simp only [layers, List.mem_cons, List.not_mem_nil, or_false, reduceCtorEq, false_or,
      Layer.array.injEq, Option.some.injEq] at hn
    exact hn ▸ (isSize_natCast_iff 3).2 (by decide)
  have hnone : (pointer (pointer (builtin .char) false true) false false).HasSizes := by
    intro n hn
    simp [layers] at hn
  refine ⟨(parse_spelling_iff (by decide) hsizes).2 ⟨.inl ⟨.int, rfl⟩, by decide⟩, fun h => ?_⟩
  have hmarks := ((parse_spelling_iff (by decide) hnone).1 h).2
  revert hmarks
  decide

end Spelling

end Interop.CType
