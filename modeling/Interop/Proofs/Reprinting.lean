import Interop.Proofs.Loaded
import Interop.Proofs.RoundTrip

/-!
# Printing what was read

Reading any text, well formed or not, gives types of a special kind: their sizes can be written, and
no pointer that is not constant has a constant one inside. The leaf is read back from its name,
unless words `const` are left over in front of it, and then all pointers are constant. So the
spelling of what was read can always be read again, and gives the same type exactly if the leaf has
no word `const` in front.
-/

namespace Interop.Text.Digit

/-- A row of digits writes a number with no more digits. -/
theorem toNat_lt (digits : List Char) : toNat digits < Nat.pow 10 digits.length := by
  induction digits using List.reverseRecOn with
  | nil => exact Nat.one_pos
  | append_singleton digits c ih =>
    have hvalue : (value? c).getD 0 < 10 := by
      cases h : value? c with
      | none => exact Nat.succ_pos 9
      | some n => exact value?_lt h
    have hstep : toNat (digits ++ [c]) = 10 * toNat digits + (value? c).getD 0 := by
      rw [toNat, List.foldl_append]
      rfl
    rw [hstep, List.length_append, List.length_singleton]
    show _ < Nat.pow 10 digits.length * 10
    omega

end Interop.Text.Digit

namespace Interop.CType

open Text.Blank

/-- Whether a text ends in a character that is not blank. -/
def EndsInWord (cs : List Char) : Prop := ∃ front c, cs = front ++ [c] ∧ isBlank c = false

section Parts

variable {xs ys zs : List Char}

/-- A text with a word is not empty. -/
theorem EndsInWord.ne_nil (h : EndsInWord xs) : xs ≠ [] := by
  obtain ⟨front, c, rfl, -⟩ := h
  exact List.append_ne_nil_of_right_ne_nil front (List.cons_ne_nil c [])

/-- A text that ends in a word ends in it with other text in front, too. -/
theorem EndsInWord.append_left (h : EndsInWord xs) (ys : List Char) : EndsInWord (ys ++ xs) := by
  obtain ⟨front, c, rfl, hc⟩ := h
  exact ⟨ys ++ front, c, (List.append_assoc ..).symm, hc⟩

/-- What is trimmed at its end is nothing, or ends in a word. -/
theorem endsInWord_trimmed (h : (trimLeft xs).reverse ≠ []) : EndsInWord (trimLeft xs).reverse := by
  cases htrim : trimLeft xs with
  | nil => exact absurd (by rw [htrim]; rfl) h
  | cons c rest =>
    refine ⟨rest.reverse, c, List.reverse_cons, ?_⟩
    have hhead := List.head?_dropWhile_not isBlank xs
    rw [show xs.dropWhile isBlank = c :: rest from htrim] at hhead
    simpa using hhead

/-- A text that goes on to end in a word goes on with nothing if it goes on with blanks alone. -/
theorem eq_nil_of_filter_append (h : EndsInWord (xs ++ zs))
    (hfilter : (xs ++ zs).filter (!isBlank ·) = xs.filter (!isBlank ·)) : zs = [] := by
  rcases List.eq_nil_or_concat zs with hnil | ⟨front, last, rfl⟩
  · exact hnil
  · obtain ⟨before, c, hend, hc⟩ := h
    rw [List.concat_eq_append, ← List.append_assoc] at hend
    obtain rfl : last = c := List.singleton_inj.1 (List.append_inj' hend rfl).2
    rw [List.filter_append, List.append_right_eq_self, List.filter_eq_nil_iff] at hfilter
    exact absurd (by simp [hc]) (hfilter last (by simp))

/-- The front of a text in normal spacing is in normal spacing if it ends in a word. It and its own
normal spacing are fronts of one text, and the longer one goes on with blanks alone. -/
theorem IsNormal.of_append (h : IsNormal (xs ++ ys)) (hend : EndsInWord xs) : IsNormal xs := by
  obtain ⟨before, c, hxs, hc⟩ := id hend
  have hblank : ¬ AllBlank xs := not_allBlank_of_mem (c := c) (by simp [hxs]) hc
  obtain ⟨rest, hrest⟩ : ∃ rest, normalSpacing xs ++ rest = xs ++ ys := by
    by_cases hys : AllBlank ys
    · exact ⟨[], by rw [List.append_nil, ← normalSpacing_append_blank hys, h.normal]⟩
    · refine ⟨seam xs ys ++ normalSpacing ys, ?_⟩
      rw [← List.append_assoc, ← normalSpacing_append hblank hys, h.normal]
  have hfilter := filter_normalSpacing xs
  have hnormal : EndsInWord (normalSpacing xs) := exists_normalSpacing_concat hblank
  refine ⟨?_, hend.ne_nil⟩
  obtain ⟨more, hmore, -⟩ | ⟨more, hmore, -⟩ := List.append_eq_append_iff.1 hrest
  · have hnil : more = [] := eq_nil_of_filter_append (hmore ▸ hend) (hmore ▸ hfilter.symm)
    exact (hmore.trans (by rw [hnil, List.append_nil])).symm
  · have hnil : more = [] := eq_nil_of_filter_append (hmore ▸ hnormal) (hmore ▸ hfilter)
    exact hmore.trans (by rw [hnil, List.append_nil])

/-- Behind the word `const` a text in normal spacing is in normal spacing. -/
theorem IsNormal.of_const (h : IsNormal (constWord ++ ' ' :: xs)) : IsNormal xs := by
  have hspace : AllBlank [' '] := by decide
  have happend : constWord ++ ' ' :: xs = constWord ++ ([' '] ++ xs) := rfl
  have hblank : ¬ AllBlank xs := by
    intro hxs
    have hconst := h.normal
    rw [happend, normalSpacing_append_blank (allBlank_append_iff.2 ⟨hspace, hxs⟩),
      isBaseWord_constWord.normalSpacing] at hconst
    exact List.cons_ne_nil _ _ (List.append_right_eq_self.1 hconst.symm)
  have hprefix := constPrefix?_const_append hspace (List.cons_ne_nil _ _) hblank
  rw [← happend, h.normal, constPrefix?_eq_some_iff.2 rfl] at hprefix
  exact ⟨(Option.some.inj hprefix).symm, fun hnil => hblank (hnil ▸ allBlank_nil)⟩

/-- Without the word `const` in front of it, a text has none in front of its parts. -/
theorem constPrefix?_eq_none_of_append (h : constPrefix? (xs ++ ys) = none) :
    constPrefix? xs = none := by
  cases hxs : constPrefix? xs with
  | none => rfl
  | some rest =>
    rw [constPrefix?_eq_some_iff.1 hxs] at h
    cases h

end Parts

section Splitting

variable {cs element digits inner : List Char} {isReference : Bool}

/-- What trimming leaves had blanks in front of it. -/
theorem exists_blank_of_trimLeft (xs : List Char) :
    ∃ gap, AllBlank gap ∧ xs = gap ++ trimLeft xs :=
  ⟨xs.takeWhile isBlank, fun _ hc => List.mem_takeWhile_imp hc,
    List.takeWhile_append_dropWhile.symm⟩

/-- A size that is split off stood in brackets behind the elements. -/
theorem exists_of_arraySuffix? (h : arraySuffix? cs = some (element, digits)) :
    ∃ gap left right, AllBlank gap ∧ AllBlank left ∧ AllBlank right ∧
      (∀ d ∈ digits, Text.Digit.isDigit d = true) ∧ EndsInWord element ∧
      cs = element ++ (gap ++ brackets left digits right) := by
  unfold arraySuffix? at h
  split at h
  · rename_i rest hreverse
    dsimp only at h
    split at h
    · rename_i before hbefore
      split at h
      · cases h
      · rename_i hne
        cases h
        obtain ⟨right, hright, hrest⟩ := exists_blank_of_trimLeft rest
        have hdigits := List.takeWhile_append_dropWhile (p := Text.Digit.isDigit)
          (l := trimLeft rest)
        obtain ⟨left, hleft, hopening⟩ :=
          exists_blank_of_trimLeft ((trimLeft rest).dropWhile Text.Digit.isDigit)
        obtain ⟨gap, hgap, hgapped⟩ := exists_blank_of_trimLeft before
        have hreversed : ∀ {xs : List Char}, AllBlank xs → AllBlank xs.reverse :=
          fun hxs c hc => hxs c (List.mem_reverse.1 hc)
        refine ⟨gap.reverse, left.reverse, right.reverse, hreversed hgap, hreversed hleft,
          hreversed hright, fun d hd => List.mem_takeWhile_imp (List.mem_reverse.1 hd),
          endsInWord_trimmed (by simpa using hne), ?_⟩
        have hcs : cs.reverse = ']' :: (right ++ ((trimLeft rest).takeWhile Text.Digit.isDigit ++
            (left ++ '[' :: (gap ++ trimLeft before)))) := by
          rw [hreverse, ← hgapped, ← hbefore, ← hopening, hdigits, ← hrest]
        rw [← List.reverse_reverse cs, hcs]
        simp [brackets]
    · cases h
  · cases h

/-- A mark that is split off stood behind the pointee. -/
theorem exists_of_pointerSuffix? (h : pointerSuffix? cs = some (inner, isReference)) :
    ∃ gap, AllBlank gap ∧ (inner ≠ [] → EndsInWord inner) ∧
      cs = inner ++ (gap ++ [markOf isReference]) := by
  have hmarked : ∀ {rest : List Char} {r : Bool}, cs.reverse = markOf r :: rest →
      some ((trimLeft rest).reverse, r) = some (inner, isReference) →
      ∃ gap, AllBlank gap ∧ (inner ≠ [] → EndsInWord inner) ∧
        cs = inner ++ (gap ++ [markOf isReference]) := by
    intro rest r hreverse hsplit
    cases hsplit
    obtain ⟨gap, hgap, hrest⟩ := exists_blank_of_trimLeft rest
    refine ⟨gap.reverse, fun c hc => hgap c (List.mem_reverse.1 hc), endsInWord_trimmed, ?_⟩
    rw [hrest] at hreverse
    rw [← List.reverse_reverse cs, hreverse]
    simp
  unfold pointerSuffix? at h
  split at h
  · exact hmarked (r := false) ‹_› h
  · exact hmarked (r := true) ‹_› h
  · cases h

end Splitting

/-- Tags whose name has words `const` in front that no pointer took. They can be read, but not as
what they are. -/
def IsSurplus (t : CType) : Prop :=
  ∃ name s, t = .tag name ∧ (constPrefix? name.toList).isSome = true ∧ parse name = .ok s

/-- What can be told of a type that is read from a text in normal spacing. -/
structure IsReading (cs : List Char) (t : CType) : Prop where
  /-- All sizes can be written. -/
  sizes : t.HasSizes
  /-- No pointer that is not constant has a constant one inside. -/
  outermost : t.ConstOutermost
  /-- Without the word `const` in front of the text nothing is constant, and the leaf is read back
  from its name. -/
  free : constPrefix? cs = none → true ∉ t.constMarks ∧ t.leaf.ReadsBack
  /-- If the leaf is not read back from its name, all pointers are constant. -/
  leaf : t.leaf.ReadsBack ∨ t.leaf.IsSurplus ∧ false ∉ t.constMarks

section Leaf

variable {cs front name : List Char}

/-- Without a size at its end, a text in normal spacing has parts without one. -/
theorem arraySuffix?_eq_none_of_append (hnormal : IsNormal (front ++ name))
    (h : arraySuffix? (front ++ name) = none) : arraySuffix? name = none := by
  cases hname : arraySuffix? name with
  | none => rfl
  | some split =>
    obtain ⟨element, digits⟩ := split
    obtain ⟨gap, left, right, hgap, hleft, hright, hdigits, hend, hsplit⟩ :=
      exists_of_arraySuffix? hname
    rw [hsplit, ← List.append_assoc] at hnormal h
    have helement := hnormal.of_append (hend.append_left front)
    have hsome := arraySuffix?_brackets (x := front ++ element) hgap hleft hdigits hright
    rw [helement.normal, if_neg helement.not_allBlank, h] at hsome
    cases hsome

/-- Without a mark at its end, a text has parts without one. -/
theorem pointerSuffix?_eq_none_of_append (h : pointerSuffix? (front ++ name) = none) :
    pointerSuffix? name = none := by
  cases hname : pointerSuffix? name with
  | none => rfl
  | some split =>
    obtain ⟨inner, isReference⟩ := split
    obtain ⟨gap, -, -, hsplit⟩ := exists_of_pointerSuffix? hname
    rw [hsplit] at h
    unfold pointerSuffix? at h
    cases isReference <;> simp [markOf] at h

/-- A name without suffixes is read back as what it names, unless it has the word `const` in
front. -/
theorem readsBack_or_isSurplus (hnormal : IsNormal name) (ha : arraySuffix? name = none)
    (hp : pointerSuffix? name = none) :
    (named name).ReadsBack ∨ (constPrefix? name).isSome = true ∧ (named name).IsSurplus := by
  have hparse : parse (String.ofList name) = .ok (named ((constPrefix? name).getD name)) := by
    rw [parse_eq_ok_iff, String.toList_ofList, hnormal.normal,
      parseNormal_of_no_suffix hnormal.ne_nil ha hp]
  cases hprimitive : Primitive.ofSpelling? (String.ofList name) with
  | some p => exact .inl (.inl ⟨p, by rw [named, hprimitive]⟩)
  | none =>
    have htag : named name = .tag (String.ofList name) := by rw [named, hprimitive]
    cases hconst : constPrefix? name with
    | none =>
      rw [hconst, Option.getD_none, htag] at hparse
      exact .inl (.inr ⟨_, htag, hparse⟩)
    | some rest =>
      refine .inr ⟨rfl, _, _, htag, ?_, hparse⟩
      rw [String.toList_ofList, hconst]
      rfl

/-- A text without suffixes is read as a leaf, less a word `const` in front. -/
theorem isReading_named (hnormal : IsNormal cs) (ha : arraySuffix? cs = none)
    (hp : pointerSuffix? cs = none) : IsReading cs (named ((constPrefix? cs).getD cs)) := by
  have hleaf : (named ((constPrefix? cs).getD cs)).ReadsBack ∨ (constPrefix? cs).isSome = true ∧
      (named ((constPrefix? cs).getD cs)).IsSurplus := by
    cases hconst : constPrefix? cs with
    | none =>
      have h := readsBack_or_isSurplus hnormal ha hp
      rw [hconst] at h
      exact h
    | some rest =>
      obtain rfl := constPrefix?_eq_some_iff.1 hconst
      have hsplit : constWord ++ ' ' :: rest = (constWord ++ [' ']) ++ rest := by simp
      rw [hsplit] at ha hp
      exact (readsBack_or_isSurplus hnormal.of_const
        (arraySuffix?_eq_none_of_append (hsplit ▸ hnormal) ha)
        (pointerSuffix?_eq_none_of_append hp)).imp_right fun h => ⟨rfl, h.2⟩
  have hlayers := layers_named ((constPrefix? cs).getD cs)
  have hmarks : (named ((constPrefix? cs).getD cs)).constMarks = [] := by
    rw [CType.constMarks, hlayers]
    rfl
  refine ⟨fun n hn => ?_, ?_, fun hconst => ?_, ?_⟩
  · rw [hlayers] at hn
    cases hn
  · rw [ConstOutermost, hmarks]
    exact .nil
  · rw [hmarks, leaf_named]
    refine ⟨List.not_mem_nil, hleaf.resolve_right fun h => ?_⟩
    rw [hconst] at h
    cases h.1
  · rw [hmarks, leaf_named]
    exact hleaf.imp_right fun h => ⟨h.2, List.not_mem_nil⟩

end Leaf

/-- A pointer has the sizes of its pointee. -/
theorem HasSizes.pointer {t : CType} (h : t.HasSizes) (isReference isConst : Bool) :
    (pointer t isReference isConst).HasSizes := by
  intro n hn
  rcases List.mem_cons.1 hn with hfirst | hinner
  · cases hfirst
  · exact h n hinner

/-- An array has its own size and those of its elements. -/
theorem HasSizes.array {t : CType} (h : t.HasSizes) {size : Option Int}
    (hsize : ∀ n, size = some n → IsSize n) : (array t size).HasSizes := by
  intro n hn
  rcases List.mem_cons.1 hn with hfirst | hinner
  · exact hsize n (Layer.array.inj hfirst).symm
  · exact h n hinner

namespace IsReading

variable {cs xs ys : List Char} {t : CType}

/-- An array is told of a text in front of which its elements are read. -/
theorem array (h : IsReading xs t) (hcs : cs = xs ++ ys) {size : Option Int}
    (hsize : ∀ n, size = some n → IsSize n) : IsReading cs (.array t size) where
  sizes := h.sizes.array hsize
  outermost := h.outermost
  free hconst := h.free (constPrefix?_eq_none_of_append (hcs ▸ hconst))
  leaf := h.leaf

/-- A pointer that takes the word `const` in front of its pointee is constant. -/
theorem constPointer (h : IsReading xs t) (hcs : cs = (constWord ++ ' ' :: xs) ++ ys)
    (isReference : Bool) : IsReading cs (.pointer t isReference true) where
  sizes := h.sizes.pointer isReference _
  outermost := constOutermost_pointer_iff.2 ⟨fun hfalse => (nomatch hfalse), h.outermost⟩
  free hconst := by
    rw [hcs] at hconst
    cases hconst
  leaf := by
    refine h.leaf.imp_right fun hsurplus => ⟨hsurplus.1, ?_⟩
    rw [constMarks_pointer, List.mem_cons]
    exact fun hfalse => hfalse.elim (fun h => (nomatch h)) hsurplus.2

/-- A pointer in front of whose pointee there is no word `const` is not constant. -/
theorem pointer (h : IsReading xs t) (hconst : constPrefix? xs = none) (isReference : Bool) :
    IsReading cs (.pointer t isReference false) where
  sizes := h.sizes.pointer isReference _
  outermost := constOutermost_pointer_iff.2 ⟨fun _ => (h.free hconst).1, h.outermost⟩
  free _ := by
    refine ⟨?_, (h.free hconst).2⟩
    rw [constMarks_pointer, List.mem_cons]
    exact fun htrue => htrue.elim (fun h => (nomatch h)) (h.free hconst).1
  leaf := .inl (h.free hconst).2

end IsReading

/-- Digits in brackets, as many as a number may have, say a size that can be written. Which limit
that is does not matter. -/
theorem isSize_of_sizeOf {digits : List Char} (hlimit : digits.length ≤ Text.Digit.limit) {n : Int}
    (h : sizeOf digits = some n) : IsSize n := by
  unfold sizeOf at h
  split at h
  · cases h
  · cases h
    unfold IsSize
    generalize Text.Digit.limit = limit at hlimit ⊢
    have hpow : Nat.pow 10 digits.length ≤ Nat.pow 10 limit :=
      Nat.pow_le_pow_right (by decide) hlimit
    exact ⟨Int.natCast_nonneg _, Int.ofNat_lt.2 ((Text.Digit.toNat_lt digits).trans_le hpow)⟩

/-- Whatever is read from a text in normal spacing is as told. -/
theorem isReading_of_parseNormal {cs : List Char} {t : CType} (h : parseNormal cs = .ok t)
    (hnormal : IsNormal cs) : IsReading cs t := by
  fun_induction parseNormal cs generalizing t with
  | case1 => cases h
  | case2 cs _ element digits harray _ ih =>
    obtain ⟨gap, left, right, -, -, -, -, hend, hcs⟩ := exists_of_arraySuffix? harray
    obtain ⟨s, hs, h⟩ := Except.bind_eq_ok_iff.1 h
    have helement := ih hs ((hcs ▸ hnormal).of_append hend)
    split at h
    · cases h
      refine helement.array hcs fun n hn => ?_
      cases hn
    · rename_i hne
      split at h
      · cases h
      · rename_i hlimit
        cases h
        refine helement.array hcs fun n hn => isSize_of_sizeOf (Nat.le_of_not_lt hlimit) ?_
        rw [sizeOf, if_neg hne, hn]
  | case3 cs _ _ inner isReference hpointer _ rest hconst _ ih =>
    obtain ⟨gap, -, hend, hcs⟩ := exists_of_pointerSuffix? hpointer
    obtain ⟨s, hs, h⟩ := Except.bind_eq_ok_iff.1 h
    cases h
    obtain rfl := constPrefix?_eq_some_iff.1 hconst
    have hinner := (hcs ▸ hnormal).of_append (hend (List.cons_ne_nil _ _))
    exact (ih hs hinner.of_const).constPointer hcs isReference
  | case4 cs _ _ inner isReference hpointer _ hconst ih =>
    obtain ⟨gap, -, hend, hcs⟩ := exists_of_pointerSuffix? hpointer
    obtain ⟨s, hs, h⟩ := Except.bind_eq_ok_iff.1 h
    cases h
    have hne : inner ≠ [] := by
      rintro rfl
      rw [parseNormal_nil] at hs
      cases hs
    exact (ih hs ((hcs ▸ hnormal).of_append (hend hne))).pointer hconst isReference
  | case5 cs _ harray hpointer =>
    cases h
    exact isReading_named hnormal harray hpointer

section Spelling

variable {t : CType} {text printed : String}

/-- The name of a leaf that is read back has no word `const` in front. -/
theorem readsBack_iff_of_isReading {cs : List Char} (h : IsReading cs t) :
    t.leaf.ReadsBack ↔ ¬ ∃ rest, t.leaf = .tag ("const " ++ rest) := by
  constructor
  · rintro (⟨p, hp⟩ | ⟨name, hname, hparse⟩) ⟨rest, hrest⟩
    · rw [hp] at hrest
      cases hrest
    · rw [hname] at hrest
      obtain rfl := CType.tag.inj hrest
      have hconst := (isNormal_of_parse_tag hparse).2
      rw [String.toList_append] at hconst
      cases hconst
  · intro hnone
    refine h.leaf.resolve_right ?_
    rintro ⟨⟨name, s, hname, hconst, -⟩, -⟩
    obtain ⟨rest, hrest⟩ := Option.isSome_iff_exists.1 hconst
    refine hnone ⟨String.ofList rest, hname.trans (congrArg CType.tag ?_)⟩
    rw [← String.toList_inj, constPrefix?_eq_some_iff.1 hrest, String.toList_append,
      @String.toList_ofList rest]
    rfl

/-- If all pointers are constant, a spelling can be read if the leaf can be. -/
theorem exists_parse_of_leaf (hsizes : t.HasSizes) (hmarks : false ∉ t.constMarks)
    (hleaf : t.leaf.IsSurplus) (hprinted : t.spelling = .ok printed) :
    ∃ s, parse printed = .ok s := by
  induction t generalizing printed with
  | builtin p =>
    obtain ⟨name, s, hname, -⟩ := hleaf
    cases hname
  | tag name =>
    obtain ⟨name', s, hname, -, hparse⟩ := hleaf
    cases hname
    obtain rfl := Except.ok.inj hprinted
    exact ⟨s, hparse⟩
  | pointer pointee isReference isConst ih =>
    obtain ⟨inner, hinner, rfl⟩ := exists_spelling_pointer hprinted
    rw [constMarks_pointer, List.mem_cons, not_or] at hmarks
    obtain ⟨s, hs⟩ := ih (hsizes.inner rfl) hmarks.2 hleaf hinner
    cases isConst with
    | false => exact absurd rfl hmarks.1
    | true => exact ⟨_, parse_constPointer_iff.2 hs⟩
  | array element size ih =>
    obtain ⟨inner, hinner, rfl⟩ := exists_spelling_array hprinted
    obtain ⟨s, hs⟩ := ih (hsizes.inner rfl) hmarks hleaf hinner
    have hsize : ∀ n, size = some n → IsSize n := fun n hn => hsizes n (hn ▸ List.mem_cons_self)
    exact ⟨_, (parse_array_iff hsize).2 hs⟩
  | missing => cases hprinted
  | bare => cases hprinted

/-- What is read from any text is as told of the text in normal spacing. -/
theorem isReading_of_parse (h : parse text = .ok t) :
    IsReading (normalSpacing text.toList) t := by
  rw [parse_eq_ok_iff] at h
  refine isReading_of_parseNormal h ⟨normalSpacing_normalSpacing _, fun hnil => ?_⟩
  rw [hnil, parseNormal_nil] at h
  cases h

/-- The spelling of a type that was read from any text can be read again. It gives the same type
exactly if the leaf of the type is no tag with the word `const` left over in front of its name. -/
theorem parse_spelling_of_parse (h : parse text = .ok t) :
    ∃ printed s, t.spelling = .ok printed ∧ parse printed = .ok s ∧
      (s = t ↔ ¬ ∃ rest, t.leaf = .tag ("const " ++ rest)) := by
  obtain ⟨printed, hprinted⟩ := spelling_isOk (isComplete_of_parse h)
  have hreading := isReading_of_parse h
  have hsame := parse_eq_ok_iff_of_spelling hreading.sizes hprinted
  rw [and_iff_left hreading.outermost, readsBack_iff_of_isReading hreading] at hsame
  obtain ⟨s, hs⟩ : ∃ s, parse printed = .ok s := by
    rcases hreading.leaf with hleaf | ⟨hleaf, hmarks⟩
    · exact ⟨t, hsame.2 ((readsBack_iff_of_isReading hreading).1 hleaf)⟩
    · exact exists_parse_of_leaf hreading.sizes hmarks hleaf hprinted
  refine ⟨printed, s, hprinted, hs, ?_⟩
  rw [← hsame, hs, Except.ok.injEq]

/-- A reference to an array, loosely spaced and with the word `const` in the wrong place, is read
back. Two words `const` without a pointer are not: the spelling keeps one of them, and reading takes
it away. -/
theorem parse_spelling_of_parse_odd :
    (∃ t printed, parse "int const [ 3]\t&" = .ok t ∧ t.spelling = .ok printed ∧
      parse printed = .ok t) ∧
    ∃ t printed s, parse "const const Foo[]" = .ok t ∧ t.spelling = .ok printed ∧
      parse printed = .ok s ∧ s ≠ t := by
  constructor
  · have h : parse "int const [ 3]\t&" =
        .ok (.pointer (.array (.tag "int const") (some 3)) true false) := by cbv
    obtain ⟨printed, s, hprinted, hs, hsame⟩ := parse_spelling_of_parse h
    refine ⟨_, printed, h, hprinted, ?_⟩
    rw [hs, hsame.2]
    rintro ⟨rest, hrest⟩
    simpa using congrArg String.toList (CType.tag.inj hrest)
  · have h : parse "const const Foo[]" = .ok (.array (.tag "const Foo") none) := by cbv
    obtain ⟨printed, s, hprinted, hs, hsame⟩ := parse_spelling_of_parse h
    exact ⟨_, printed, s, h, hprinted, hs, fun heq => hsame.1 heq ⟨"Foo", rfl⟩⟩

end Spelling

end Interop.CType
