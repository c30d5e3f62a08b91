import Interop.Proofs.Loaded
import Interop.Proofs.Spelling

/-!
# What generated code does not show of types

The marks of constness of pointers and the sizes of arrays are seen in the C spelling alone. Types
that differ in nothing else are written the same in C# and in C++/CLI, so a word `const` in front of
a spelling changes neither, wherever reading puts it.
-/

namespace Interop.CType

open Text.Blank

/-- Types that differ in nothing but the marks of constness of their pointers and the sizes of their
arrays. -/
inductive SameShape : CType → CType → Prop
  /-- A builtin type has its own shape. -/
  | builtin (primitive : Primitive) : SameShape (.builtin primitive) (.builtin primitive)
  /-- So has a tag. -/
  | tag (name : String) : SameShape (.tag name) (.tag name)
  /-- Pointers have one shape if their pointees do, whichever of them are constant. -/
  | pointer {t u : CType} (isReference isConst isConst' : Bool) (h : SameShape t u) :
      SameShape (.pointer t isReference isConst) (.pointer u isReference isConst')
  /-- Arrays have one shape if their elements do, whatever their sizes. -/
  | array {t u : CType} (size size' : Option Int) (h : SameShape t u) :
      SameShape (.array t size) (.array u size')

namespace SameShape

variable {t u : CType}

/-- Shapes are those of complete types. -/
theorem isComplete (h : SameShape t u) : t.IsComplete := by
  induction h with
  | builtin | tag => trivial
  | pointer _ _ _ _ ih => exact ih
  | array _ _ _ ih => exact ih

/-- Types of one shape are written the same in C#. What is written for a pointer hangs on the form
of its pointee, not only on the pointee's text. -/
theorem csharp_eq (h : SameShape t u) : t.csharp = u.csharp := by
  induction h with
  | builtin | tag => rfl
  | pointer _ _ _ h _ =>
    cases h <;> rfl
  | array _ _ _ ih => rw [csharp, csharp, ih]

/-- Types of one shape are written the same in C++/CLI. -/
theorem cppCli_eq (h : SameShape t u) : t.cppCli = u.cppCli := by
  induction h with
  | builtin | tag => rfl
  | pointer _ _ _ h ih =>
    cases h with
    | builtin | tag => rfl
    | pointer | array => exact congrArg (· >>= fun inner => pure (inner ++ "*")) ih
  | array _ _ _ ih => rw [cppCli, cppCli, ih]

end SameShape

/-- Complete types with one leaf have one shape if their layers agree up to marks and sizes. -/
theorem sameShape_of_layers {t u : CType} (hcomplete : t.IsComplete)
    (hlayers : t.layers.map Layer.unmarked = u.layers.map Layer.unmarked)
    (hleaf : t.leaf = u.leaf) : SameShape t u := by
  induction t generalizing u with
  | builtin p =>
    cases u with
    | builtin q =>
      cases hleaf
      exact .builtin p
    | tag | missing | bare => cases hleaf
    | pointer | array => cases hlayers
  | tag name =>
    cases u with
    | tag name' =>
      cases hleaf
      exact .tag name
    | builtin | missing | bare => cases hleaf
    | pointer | array => cases hlayers
  | pointer pointee isReference isConst ih =>
    cases u with
    | pointer pointee' isReference' isConst' =>
      obtain ⟨hlayer, hrest⟩ := List.cons.inj hlayers
      cases hlayer
      exact .pointer isReference isConst isConst' (ih hcomplete hrest hleaf)
    | array => cases (List.cons.inj hlayers).1
    | _ => cases hlayers
  | array element size ih =>
    cases u with
    | array element' size' =>
      obtain ⟨-, hrest⟩ := List.cons.inj hlayers
      exact .array size size' (ih hcomplete hrest hleaf)
    | pointer => cases (List.cons.inj hlayers).1
    | _ => cases hlayers
  | missing | bare => exact hcomplete.elim

section Const

variable {words base : List (List Char)} {suffixes : List Suffix} {text : List Char} {count : Nat}

/-- A word and a space in front of a spelling make it a spelling with one word more. -/
theorem Spells.cons (w : List Char) (h : Spells words suffixes text) :
    Spells (w :: words) suffixes (w ++ ' ' :: text) := by
  induction h with
  | @words lead text trail hlead htext htrail =>
    have hgap : AllBlank (' ' :: lead) := allBlank_cons_iff.2 ⟨isBlank_space, hlead⟩
    have hspaced := htext.cons w hgap (List.cons_ne_nil ' ' lead)
    have hall := Spells.words allBlank_nil hspaced htrail
    simpa using hall
  | suffix _ hwritten htrail ih =>
    have hall := ih.suffix hwritten htrail
    simpa using hall

/-- Up to one word `const` is passed over in front of what a base names. -/
theorem IsLeafOf.of_le_one {surplus : Nat} {t : CType} (h : IsLeafOf surplus base t)
    (hsurplus : surplus ≤ 1) : IsLeafOf 0 base t :=
  ⟨fun _ => h.builtin hsurplus, fun _ => h.tag hsurplus, fun h => by omega⟩

/-- A word `const` more changes no shape: what a spelling says with it and without has one. -/
theorem sameShape_of_says {t u : CType} (hcomplete : t.IsComplete) (ht : Says 0 base suffixes t)
    (hu : Says 1 base suffixes u) : SameShape t u := by
  refine sameShape_of_layers hcomplete (ht.layers.trans hu.layers.symm) ?_
  exact Says.isLeafOf_unique (ht.leaf.of_le_one (by omega)) (hu.leaf.of_le_one (by omega))

/-- How many digits a suffix holds, if they are too many. -/
def Suffix.excess? : Suffix → Option Nat
  | pointer _ => none
  | array digits => if digits.length ≤ Text.Digit.limit then none else some digits.length

/-- Without an excess, no suffix holds too many digits. -/
theorem length_le_of_findSome?_eq_none (h : suffixes.findSome? Suffix.excess? = none) :
    ∀ digits, .array digits ∈ suffixes → digits.length ≤ Text.Digit.limit := by
  intro digits hmem
  have hnone := List.findSome?_eq_none_iff.1 h _ hmem
  by_contra hlimit
  rw [Suffix.excess?, if_neg hlimit] at hnone
  cases hnone

/-- An excess is one. -/
theorem limit_lt_of_findSome? {n : Nat} (h : suffixes.findSome? Suffix.excess? = some n) :
    Text.Digit.limit < n := by
  obtain ⟨s, -, hs⟩ := List.exists_of_findSome?_eq_some h
  cases s with
  | pointer => cases hs
  | array digits =>
    rw [Suffix.excess?] at hs
    split at hs
    · cases hs
    · cases hs
      omega

/-- The first suffix with too many digits makes reading fail, however many words `const` stand in
front. The elements of an array are read before its size, so the innermost excess is told. -/
theorem parseNormal_of_excess {n : Nat} (hbase : IsBase base)
    (htext : Spells (List.replicate count constWord ++ base) suffixes text)
    (h : suffixes.findSome? Suffix.excess? = some n) :
    parseNormal (normalSpacing text) = .error (.sizeTooLong n) := by
  induction suffixes using List.reverseRecOn generalizing count text with
  | nil => cases h
  | append_singleton suffixes s ih =>
    obtain ⟨front, written, trail, hfront, hwritten, htrail, rfl⟩ := htext.exists_front
    rw [List.findSome?_append] at h
    cases s with
    | pointer isReference =>
      obtain rfl := hwritten.eq_markOf
      have hinner : suffixes.findSome? Suffix.excess? = some n := by
        simpa [Suffix.excess?] using h
      have hread := parseNormal_mark (x := front) isReference htrail
      cases count with
      | zero =>
        rw [hread, hbase.constPrefix?_eq_none hfront, ih hfront hinner]
        rfl
      | succ count =>
        obtain ⟨rest, hrest, hconst⟩ := hbase.exists_constPrefix? hfront
        rw [hread, hconst]
        dsimp only
        rw [ih hrest hinner]
        rfl
    | array digits =>
      obtain ⟨left, right, hleft, hdigit, hright, rfl⟩ := hwritten.exists_brackets
      have hblank := hfront.not_allBlank (hbase.words_ne_nil count) (hbase.isBaseWord count)
      rw [parseNormal_append_brackets hblank hleft hdigit hright htrail]
      cases hinner : suffixes.findSome? Suffix.excess? with
      | some m =>
        rw [hinner] at h
        cases h
        rw [ih hfront hinner]
        rfl
      | none =>
        obtain ⟨t, ht, -⟩ :=
          exists_parseNormal_of_spells hbase hfront (length_le_of_findSome?_eq_none hinner)
        have hexcess : (Suffix.array digits).excess? = some n := by simpa [hinner] using h
        rw [ht]
        rw [Suffix.excess?] at hexcess
        split at hexcess
        · cases hexcess
        · rename_i hlimit
          obtain rfl := Option.some.inj hexcess
          exact if_neg hlimit

end Const

/-- Two types that have one text in C# and one in C++/CLI. -/
structure WrittenAlike (t u : CType) : Prop where
  /-- In C# both have a text, and it is the same. -/
  csharp : ∃ text, t.csharp = .ok text ∧ u.csharp = .ok text
  /-- In C++/CLI, too. -/
  cppCli : ∃ text, t.cppCli = .ok text ∧ u.cppCli = .ok text

/-- Types of one shape are written alike. -/
theorem SameShape.writtenAlike {t u : CType} (h : SameShape t u) : WrittenAlike t u := by
  obtain ⟨inCSharp, hcsharp⟩ := isTotal_csharp t h.isComplete
  obtain ⟨inCppCli, hcppCli⟩ := isTotal_cppCli t h.isComplete
  exact ⟨⟨inCSharp, hcsharp, h.csharp_eq ▸ hcsharp⟩, ⟨inCppCli, hcppCli, h.cppCli_eq ▸ hcppCli⟩⟩

section Reading

variable {base : List (List Char)} {suffixes : List Suffix} {text : String}

/-- A word `const` in front of a spelling, in normal spacing. -/
theorem parse_const_append (hbase : IsBase base) (htext : Spells base suffixes text.toList) :
    parse text = parseNormal (normalSpacing text.toList) ∧
      parse ("const " ++ text) = parseNormal (normalSpacing (constWord ++ ' ' :: text.toList)) := by
  have hchars : ("const " ++ text).toList = constWord ++ ' ' :: text.toList := String.toList_append
  have hwords := hbase.isBaseWord 1
  refine ⟨parse_eq_parseNormal (htext.not_allBlank hbase.ne_nil hbase.words), ?_⟩
  rw [← hchars]
  refine parse_eq_parseNormal ?_
  rw [hchars]
  exact (htext.cons constWord).not_allBlank (hbase.words_ne_nil 1) hwords

/-- A spelling without too many digits is read as one shape with a word `const` in front and
without. -/
theorem exists_parse_sameShape (hbase : IsBase base) (htext : Spells base suffixes text.toList)
    (hdigits : ∀ digits, .array digits ∈ suffixes → digits.length ≤ Text.Digit.limit) :
    ∃ t u, parse text = .ok t ∧ parse ("const " ++ text) = .ok u ∧ SameShape t u := by
  obtain ⟨hplain, hconst⟩ := parse_const_append hbase htext
  have hnone : Spells (List.replicate 0 constWord ++ base) suffixes text.toList := htext
  have hone : Spells (List.replicate 1 constWord ++ base) suffixes _ := htext.cons constWord
  obtain ⟨t, ht, hsays⟩ := exists_parseNormal_of_spells hbase hnone hdigits
  obtain ⟨u, hu, hsays'⟩ := exists_parseNormal_of_spells hbase hone hdigits
  have hcomplete := isComplete_of_parseNormal ht
  exact ⟨t, u, hplain.trans ht, hconst.trans hu, sameShape_of_says hcomplete hsays hsays'⟩

/-- A spelling with too many digits is refused with a word `const` in front and without, for the
same reason. -/
theorem exists_parse_refused (hbase : IsBase base) (htext : Spells base suffixes text.toList)
    {digits : List Char} (hmem : .array digits ∈ suffixes)
    (hdigits : Text.Digit.limit < digits.length) :
    ∃ n, Text.Digit.limit < n ∧ parse text = .error (.sizeTooLong n) ∧
      parse ("const " ++ text) = .error (.sizeTooLong n) := by
  obtain ⟨hplain, hconst⟩ := parse_const_append hbase htext
  have hnone : Spells (List.replicate 0 constWord ++ base) suffixes text.toList := htext
  have hone : Spells (List.replicate 1 constWord ++ base) suffixes _ := htext.cons constWord
  cases hexcess : suffixes.findSome? Suffix.excess? with
  | none => exact absurd (length_le_of_findSome?_eq_none hexcess digits hmem) (Nat.not_le.2 hdigits)
  | some n =>
    have ht := parseNormal_of_excess hbase hnone hexcess
    have hu := parseNormal_of_excess hbase hone hexcess
    exact ⟨n, limit_lt_of_findSome? hexcess, hplain.trans ht, hconst.trans hu⟩

end Reading

/-- Types that differ in nothing but the constness of pointers and the sizes of arrays, at any
depth, have one text in C# and one in C++/CLI. So have the types that a spelling is read as, however
it is spaced, with the word `const` in front and without. If there are too many digits in a size,
neither is read, and for the same reason. -/
theorem writtenAlike_and_parse_const :
    (∀ t u : CType, SameShape t u → WrittenAlike t u) ∧
    ∀ (base : List (List Char)) (suffixes : List Suffix) (text : String), IsBase base →
      Spells base suffixes text.toList →
        ((∀ digits, .array digits ∈ suffixes → digits.length ≤ Text.Digit.limit) →
          ∃ t u, parse text = .ok t ∧ parse ("const " ++ text) = .ok u ∧ WrittenAlike t u) ∧
        ∀ digits, .array digits ∈ suffixes → Text.Digit.limit < digits.length →
          ∃ n, Text.Digit.limit < n ∧ parse text = .error (.sizeTooLong n) ∧
            parse ("const " ++ text) = .error (.sizeTooLong n) := by
  refine ⟨fun t u h => h.writtenAlike,
    fun base suffixes text hbase htext => ⟨fun hdigits => ?_, ?_⟩⟩
  · obtain ⟨t, u, ht, hu, hshape⟩ := exists_parse_sameShape hbase htext hdigits
    exact ⟨t, u, ht, hu, hshape.writtenAlike⟩
  · exact fun digits hmem hdigits => exists_parse_refused hbase htext hmem hdigits

/-- A spelling with one digit too many. -/
def excessiveText : String :=
  String.ofList (['F', 'o', 'o'] ++ brackets [] (List.replicate (Text.Digit.limit + 1) '1') [])

/-- References to arrays of pointers, with other pointers constant and another size, are written
alike. A word `const` in front of a loosely spaced spelling of such a reference changes nothing, and
an array with one digit too many is refused with it and without. -/
theorem writtenAlike_and_parse_const_foo :
    WrittenAlike (.pointer (.array (.pointer (.tag "Foo") false true) (some 3)) true false)
        (.pointer (.array (.pointer (.tag "Foo") false false) none) true true) ∧
      (∃ t u, parse "\tFoo *[ 2 ] & " = .ok t ∧ parse ("const " ++ "\tFoo *[ 2 ] & ") = .ok u ∧
        WrittenAlike t u) ∧
      ∃ n, Text.Digit.limit < n ∧ parse excessiveText = .error (.sizeTooLong n) ∧
        parse ("const " ++ excessiveText) = .error (.sizeTooLong n) := by
  obtain ⟨hshapes, hspellings⟩ := writtenAlike_and_parse_const
  have hbase : IsBase [['F', 'o', 'o']] :=
    ⟨by decide, List.forall_mem_singleton.2 (isBaseWord_of_all (by decide) (by decide)), by decide⟩
  refine ⟨hshapes _ _ (.pointer _ _ _ (.array _ _ (.pointer _ _ _ (.tag "Foo")))), ?_, ?_⟩
  · have hblank : AllBlank [' '] := by decide
    have hwords : Spells [['F', 'o', 'o']] [] "\tFoo ".toList :=
      .words (show AllBlank ['\t'] by decide) (.single _) hblank
    have hpointer := hwords.suffix .star allBlank_nil
    have harray := hpointer.suffix
      (.brackets hblank (List.forall_mem_singleton.2 (show Text.Digit.isDigit '2' = true by decide))
        hblank) hblank
    have hreference := harray.suffix .ampersand hblank
    exact (hspellings _ _ _ hbase hreference).1 (by simp [Text.Digit.limit])
  · have hdigits : ∀ d ∈ List.replicate (Text.Digit.limit + 1) '1', Text.Digit.isDigit d = true :=
      fun d hd => List.eq_of_mem_replicate hd ▸ by decide
    have hwords : Spells [['F', 'o', 'o']] [] ['F', 'o', 'o'] :=
      .words allBlank_nil (.single _) allBlank_nil
    have harray := hwords.suffix (.brackets allBlank_nil hdigits allBlank_nil) allBlank_nil
    rw [List.append_nil, ← String.toList_ofList (l := _ ++ brackets _ _ _)] at harray
    have htext : Spells [['F', 'o', 'o']] _ excessiveText.toList := harray
    refine (hspellings _ _ _ hbase htext).2 _ List.mem_cons_self ?_
    rw [List.length_replicate]
    exact Nat.lt_succ_self _

end Interop.CType
