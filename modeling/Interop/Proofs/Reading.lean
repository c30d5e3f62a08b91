import Interop.CType.Parser
import Interop.Proofs.Spacing

/-!
# Laws of reading types

A spelling is read from its end. The laws here say what the last suffix of a text makes of what
stands in front of it, whatever that is and however the text is spaced: a star or an ampersand makes
a pointer, which takes a word `const` in front for itself, and brackets make an array. Texts without
a suffix name a leaf.
-/

namespace Interop.CType

open Text.Blank

section Steps

variable {cs element inner digits : List Char} {isReference : Bool}

/-- The size that digits in brackets say, if there are any. -/
def sizeOf (digits : List Char) : Option Int :=
  if digits.isEmpty then none else some (Text.Digit.toNat digits)

/-- No text is refused. -/
theorem parseNormal_nil : parseNormal [] = .error (.blank (.str "")) := by
  rw [parseNormal]
  rfl

/-- A text is read as a text in normal spacing. -/
theorem parse_eq_ok_iff {text : String} {t : CType} :
    parse text = .ok t ↔ parseNormal (normalSpacing text.toList) = .ok t := by
  unfold parse
  split
  · rename_i h
    rw [h, parseNormal_nil]
    exact ⟨fun h => (nomatch h), fun h => (nomatch h)⟩
  · exact Iff.rfl

/-- A text that is not blank is read as a text in normal spacing, and refused as such. -/
theorem parse_eq_parseNormal {text : String} (h : ¬ AllBlank text.toList) :
    parse text = parseNormal (normalSpacing text.toList) := by
  unfold parse
  split
  · rename_i hnil
    exact absurd (normalSpacing_eq_nil_iff.1 hnil) h
  · rfl

/-- The array of a type with the size that digits say, unless there are too many of them. -/
def sized (digits : List Char) (element : CType) : Except SpellingFault CType :=
  if digits.length ≤ Text.Digit.limit then .ok (array element (sizeOf digits))
  else .error (.sizeTooLong digits.length)

/-- Brackets at the end make an array of what stands in front of them. -/
theorem parseNormal_of_arraySuffix (h : arraySuffix? cs = some (element, digits)) :
    parseNormal cs = parseNormal element >>= sized digits := by
  have hne : ¬ cs.isEmpty = true := by
    intro hnil
    rw [List.isEmpty_iff.1 hnil] at h
    cases h
  rw [parseNormal, if_neg hne]
  split
  · rename_i element' digits' h'
    rw [h] at h'
    cases h'
    cases parseNormal element with
    | error fault => rfl
    | ok t =>
      unfold sized sizeOf
      change (if digits.isEmpty = true then _ else _) = _
      split
      · rename_i hnil
        rw [List.isEmpty_iff.1 hnil]
        rfl
      · by_cases hlimit : digits.length ≤ Text.Digit.limit
        · rw [if_neg (Nat.not_lt.2 hlimit)]
          change _ = (if digits.length ≤ Text.Digit.limit then _ else _)
          rw [if_pos hlimit]
          rfl
        · rw [if_pos (Nat.lt_of_not_le hlimit)]
          change _ = (if digits.length ≤ Text.Digit.limit then _ else _)
          rw [if_neg hlimit]
          rfl
  · rename_i h'
    rw [h] at h'
    cases h'

/-- A star or an ampersand at the end makes a pointer. -/
theorem parseNormal_of_pointerSuffix (ha : arraySuffix? cs = none)
    (hp : pointerSuffix? cs = some (inner, isReference)) :
    parseNormal cs = match constPrefix? inner with
      | some rest => (parseNormal rest).map (pointer · isReference true)
      | none => (parseNormal inner).map (pointer · isReference false) := by
  have hne : ¬ cs.isEmpty = true := by
    intro hnil
    rw [List.isEmpty_iff.1 hnil] at hp
    cases hp
  rw [parseNormal, if_neg hne]
  split
  · rename_i h'
    rw [ha] at h'
    cases h'
  · split
    · rename_i inner' isReference' h'
      rw [hp] at h'
      cases h'
      split
      · rename_i rest hc
        simp only [hc]
        cases parseNormal rest <;> rfl
      · rename_i hc
        simp only [hc]
        cases parseNormal inner <;> rfl
    · rename_i h'
      rw [hp] at h'
      cases h'

/-- Without a suffix a text names a leaf. -/
theorem parseNormal_of_no_suffix (hne : cs ≠ []) (ha : arraySuffix? cs = none)
    (hp : pointerSuffix? cs = none) :
    parseNormal cs = .ok (named ((constPrefix? cs).getD cs)) := by
  rw [parseNormal, if_neg (by simpa using hne)]
  split
  · rename_i h'
    rw [ha] at h'
    cases h'
  · split
    · rename_i h'
      rw [hp] at h'
      cases h'
    · rfl

/-- A text that is read as a tag names it, a word `const` in front aside. -/
theorem named_of_parseNormal_eq_tag {name : String} (h : parseNormal cs = .ok (.tag name)) :
    cs ≠ [] ∧ named ((constPrefix? cs).getD cs) = .tag name := by
  rw [parseNormal] at h
  split at h
  · cases h
  · rename_i hne
    refine ⟨by simpa using hne, ?_⟩
    split at h
    · rename_i element digits _
      cases helement : parseNormal element with
      | error fault =>
        rw [helement] at h
        cases h
      | ok t =>
        rw [helement] at h
        change (if digits.isEmpty = true then _ else _) = _ at h
        split at h
        · cases h
        · split at h <;> cases h
    · split at h
      · rename_i inner isReference _
        split at h
        · rename_i rest _
          cases hrest : parseNormal rest <;> rw [hrest] at h <;> cases h
        · cases hinner : parseNormal inner <;> rw [hinner] at h <;> cases h
      · exact Except.ok.inj h

end Steps

section LastCharacter

variable {c : Char} (front : List Char)

/-- Without a bracket at its end a text has no size. -/
theorem arraySuffix?_concat (hc : c ≠ ']') : arraySuffix? (front ++ [c]) = none := by
  unfold arraySuffix?
  rw [List.reverse_append, List.reverse_singleton, List.singleton_append]
  split
  · rename_i h
    cases h
    exact absurd rfl hc
  · rfl

/-- Without a mark at its end a text has no mark. -/
theorem pointerSuffix?_concat (hstar : c ≠ '*') (hampersand : c ≠ '&') :
    pointerSuffix? (front ++ [c]) = none := by
  unfold pointerSuffix?
  rw [List.reverse_append, List.reverse_singleton, List.singleton_append]
  split
  · rename_i h
    cases h
    exact absurd rfl hstar
  · rename_i h
    cases h
    exact absurd rfl hampersand
  · rfl

end LastCharacter

section Suffixes

variable {x gap left digits right trail : List Char}

/-- The character that marks a pointer or a reference. -/
def markOf (isReference : Bool) : Char := if isReference then '&' else '*'

/-- The mark of a pointer is not blank. -/
theorem isBlank_markOf (isReference : Bool) : ∀ c ∈ [markOf isReference], isBlank c = false :=
  List.forall_mem_singleton.2 (by cases isReference <;> decide)

/-- Digits in brackets, with blanks around them. -/
def brackets (left digits right : List Char) : List Char :=
  '[' :: (left ++ (digits ++ (right ++ [']'])))

/-- A mark at the end is split off, and what is in front of it is left in normal spacing. -/
theorem pointerSuffix?_mark (isReference : Bool) (hgap : AllBlank gap) :
    pointerSuffix? (normalSpacing x ++ (gap ++ [markOf isReference])) =
      some (normalSpacing x, isReference) := by
  unfold pointerSuffix?
  rw [← List.append_assoc, List.reverse_append, List.reverse_singleton, List.singleton_append]
  cases isReference <;>
    exact congrArg (fun inner => some (inner, _)) (trimLeft_reverse_normalSpacing hgap)

/-- Blanks and an opening bracket start with no digit. -/
theorem head_not_digit (hgap : AllBlank gap) (front : List Char) :
    (gap ++ '[' :: front).takeWhile Text.Digit.isDigit = [] ∧
      (gap ++ '[' :: front).dropWhile Text.Digit.isDigit = gap ++ '[' :: front := by
  have hhead : ∀ c rest, gap ++ '[' :: front = c :: rest → ¬ Text.Digit.isDigit c = true := by
    intro c rest h
    cases gap with
    | nil =>
      cases h
      decide
    | cons b gap =>
      cases h
      intro hdigit
      have hb := (allBlank_cons_iff.1 hgap).1
      rw [Text.Digit.isBlank_of_isDigit hdigit] at hb
      cases hb
  cases h : gap ++ '[' :: front with
  | nil => exact ⟨rfl, rfl⟩
  | cons c rest =>
    have hc := hhead c rest h
    exact ⟨List.takeWhile_cons_of_neg hc, List.dropWhile_cons_of_neg hc⟩

/-- What stands between brackets, read backwards: blanks, the digits, and blanks again. -/
theorem exists_trimLeft_digits (hleft : AllBlank left)
    (hdigits : ∀ d ∈ digits, Text.Digit.isDigit d = true) (hright : AllBlank right)
    (front : List Char) :
    ∃ gap, AllBlank gap ∧ trimLeft (right ++ (digits ++ (left ++ '[' :: front))) =
      digits ++ (gap ++ '[' :: front) := by
  rw [trimLeft_blank_append hright]
  cases digits with
  | nil =>
    refine ⟨[], allBlank_nil, ?_⟩
    rw [List.nil_append, trimLeft_blank_append hleft]
    exact trimLeft_cons (by decide)
  | cons d digits =>
    have hd := Text.Digit.isBlank_of_isDigit (hdigits d List.mem_cons_self)
    exact ⟨left, hleft, trimLeft_cons hd⟩

/-- Brackets at the end are split off if there is anything in front of them, which is left in normal
spacing. -/
theorem arraySuffix?_brackets (hgap : AllBlank gap) (hleft : AllBlank left)
    (hdigits : ∀ d ∈ digits, Text.Digit.isDigit d = true) (hright : AllBlank right) :
    arraySuffix? (normalSpacing x ++ (gap ++ brackets left digits right)) =
      if AllBlank x then none else some (normalSpacing x, digits) := by
  have hreverse : (normalSpacing x ++ (gap ++ brackets left digits right)).reverse =
      ']' :: (right.reverse ++ (digits.reverse ++ (left.reverse ++
        '[' :: (normalSpacing x ++ gap).reverse))) := by
    simp [brackets]
  have hdigits' : ∀ d ∈ digits.reverse, Text.Digit.isDigit d = true := fun d hd =>
    hdigits d (List.mem_reverse.1 hd)
  obtain ⟨inside, hinside, htrim⟩ := exists_trimLeft_digits
    (fun c hc => hleft c (List.mem_reverse.1 hc)) hdigits'
    (fun c hc => hright c (List.mem_reverse.1 hc)) (normalSpacing x ++ gap).reverse
  obtain ⟨htake, hdrop⟩ := head_not_digit hinside (normalSpacing x ++ gap).reverse
  have hopening : trimLeft ('[' :: (normalSpacing x ++ gap).reverse) =
      '[' :: (normalSpacing x ++ gap).reverse := trimLeft_cons (by decide)
  unfold arraySuffix?
  simp only [hreverse, htrim, List.takeWhile_append_of_pos hdigits', htake,
    List.dropWhile_append_of_pos hdigits', hdrop, trimLeft_blank_append hinside, hopening,
    trimLeft_reverse_normalSpacing hgap, List.append_nil, List.reverse_reverse]
  by_cases hx : AllBlank x
  · rw [if_pos hx, normalSpacing_eq_nil_iff.2 hx]
    rfl
  · have hne := mt normalSpacing_eq_nil_iff.1 hx
    rw [if_neg hx, if_neg (by simpa using hne)]

end Suffixes

section LastSuffix

variable {x gap left digits right trail : List Char}

/-- A mark behind a text makes a pointer of the text, less a word `const` in front, which makes the
pointer constant. -/
theorem parseNormal_mark (isReference : Bool) (htrail : AllBlank trail) :
    parseNormal (normalSpacing (x ++ ([markOf isReference] ++ trail))) =
      match constPrefix? (normalSpacing x) with
      | some rest => (parseNormal rest).map (pointer · isReference true)
      | none => (parseNormal (normalSpacing x)).map (pointer · isReference false) := by
  have hword := isBlank_markOf isReference
  have hmark : ¬ AllBlank [markOf isReference] :=
    not_allBlank_of_mem List.mem_cons_self (hword _ List.mem_cons_self)
  have hnormal := normalSpacing_of_isBlank_false hword
  obtain ⟨gap, hgap, happend⟩ := exists_normalSpacing_append x hmark
  rw [hnormal] at happend
  rw [← List.append_assoc, normalSpacing_append_blank htrail, happend]
  refine parseNormal_of_pointerSuffix ?_ (pointerSuffix?_mark isReference hgap)
  rw [← List.append_assoc]
  exact arraySuffix?_concat _ (by cases isReference <;> decide)

/-- Brackets are brought into normal spacing by themselves. -/
theorem exists_normalSpacing_brackets (hleft : AllBlank left)
    (hdigits : ∀ d ∈ digits, Text.Digit.isDigit d = true) (hright : AllBlank right) :
    ∃ left' right', AllBlank left' ∧ AllBlank right' ∧
      normalSpacing (brackets left digits right) = brackets left' digits right' := by
  have hclosing : ¬ AllBlank (digits ++ (right ++ [']'])) :=
    not_allBlank_of_mem (c := ']') (by simp) (by decide)
  have hrest : ¬ AllBlank (left ++ (digits ++ (right ++ [']']))) := fun h =>
    hclosing (allBlank_append_iff.1 h).2
  have hword : normalSpacing digits = digits := normalSpacing_of_isBlank_false fun d hd =>
    Text.Digit.isBlank_of_isDigit (hdigits d hd)
  have hbracket : normalSpacing (right ++ [']']) = [']'] := by
    rw [normalSpacing_blank_append hright]
    decide
  have hend : ¬ AllBlank (right ++ [']']) := not_allBlank_of_mem (c := ']') (by simp) (by decide)
  obtain ⟨left', hleft', hopen⟩ := exists_normalSpacing_append ['['] hrest
  obtain ⟨right', hright', hclose⟩ := exists_normalSpacing_append digits hend
  refine ⟨left', right', hleft', hright', ?_⟩
  rw [normalSpacing_blank_append hleft, hclose, hword, hbracket] at hopen
  exact hopen

/-- Brackets behind a text make an array of what the text says, unless they hold too many digits. -/
theorem parseNormal_append_brackets (hx : ¬ AllBlank x) (hleft : AllBlank left)
    (hdigits : ∀ d ∈ digits, Text.Digit.isDigit d = true) (hright : AllBlank right)
    (htrail : AllBlank trail) :
    parseNormal (normalSpacing (x ++ (brackets left digits right ++ trail))) =
      parseNormal (normalSpacing x) >>= sized digits := by
  have hbrackets : ¬ AllBlank (brackets left digits right) :=
    not_allBlank_of_mem (c := '[') List.mem_cons_self (by decide)
  obtain ⟨gap, hgap, happend⟩ := exists_normalSpacing_append x hbrackets
  obtain ⟨left', right', hleft', hright', hnormal⟩ :=
    exists_normalSpacing_brackets hleft hdigits hright
  rw [hnormal] at happend
  rw [← List.append_assoc, normalSpacing_append_blank htrail, happend]
  refine parseNormal_of_arraySuffix ?_
  rw [arraySuffix?_brackets hgap hleft' hdigits hright', if_neg hx]

/-- Brackets behind a text with not too many digits make an array of what the text says. -/
theorem parseNormal_brackets (hx : ¬ AllBlank x) (hleft : AllBlank left)
    (hdigits : ∀ d ∈ digits, Text.Digit.isDigit d = true) (hright : AllBlank right)
    (htrail : AllBlank trail) (hlimit : digits.length ≤ Text.Digit.limit) :
    parseNormal (normalSpacing (x ++ (brackets left digits right ++ trail))) =
      (parseNormal (normalSpacing x)).map (array · (sizeOf digits)) := by
  rw [parseNormal_append_brackets hx hleft hdigits hright htrail]
  have hsized : sized digits = fun t => .ok (array t (sizeOf digits)) :=
    funext fun t => if_pos hlimit
  rw [hsized]
  cases parseNormal (normalSpacing x) <;> rfl

end LastSuffix

end Interop.CType
