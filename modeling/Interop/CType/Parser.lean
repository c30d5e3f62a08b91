import Interop.CType
import Interop.Text.Blank
import Interop.Text.Digit
import Interop.Value

/-!
# Reading C types

A spelling is read from its end: a bracketed size makes an array, a star or an ampersand a pointer,
and what is left is a builtin type or a tag. The word `const` in front of a pointer's spelling
belongs to the outermost pointer that has not taken one yet. Spacing does not matter.
-/

namespace Interop.CType

/-- Why a spelling names no type. -/
inductive SpellingFault where
  /-- There is no text, or only blank text. -/
  | blank (given : Value)
  /-- The size of an array has more digits than a number may have. -/
  | sizeTooLong (digits : Nat)

/-- The text of a fault. -/
def SpellingFault.message : SpellingFault → String
  | blank given => "Type spelling must be a non-empty string, got " ++ given.quoted
  | sizeTooLong digits => Text.Digit.limitMessage digits

/-- Split a bracketed size off the end of a spelling: the spelling of the elements, without blanks
at its end, and the digits of the size. -/
def arraySuffix? (cs : List Char) : Option (List Char × List Char) :=
  match cs.reverse with
  | ']' :: rest =>
    let rest := Text.Blank.trimLeft rest
    match Text.Blank.trimLeft (rest.dropWhile Text.Digit.isDigit) with
    | '[' :: before =>
      let element := (Text.Blank.trimLeft before).reverse
      if element.isEmpty then none
      else some (element, (rest.takeWhile Text.Digit.isDigit).reverse)
    | _ => none
  | _ => none

/-- Split a pointer or reference mark off the end of a spelling: the spelling of the pointee,
without blanks at its end, and whether the mark is that of a reference. -/
def pointerSuffix? (cs : List Char) : Option (List Char × Bool) :=
  match cs.reverse with
  | '*' :: rest => some ((Text.Blank.trimLeft rest).reverse, false)
  | '&' :: rest => some ((Text.Blank.trimLeft rest).reverse, true)
  | _ => none

/-- Split the word `const` and a space off the front of a spelling. -/
def constPrefix? : List Char → Option (List Char)
  | 'c' :: 'o' :: 'n' :: 's' :: 't' :: ' ' :: rest => some rest
  | _ => none

/-- Removing blanks in front makes no text longer. -/
theorem length_trimLeft_le (cs : List Char) : (Text.Blank.trimLeft cs).length ≤ cs.length :=
  (List.dropWhile_sublist _).length_le

/-- The elements of an array are spelled shorter than the array. -/
theorem arraySuffix?_length {cs element digits : List Char}
    (h : arraySuffix? cs = some (element, digits)) : element.length < cs.length := by
  unfold arraySuffix? at h
  split at h
  · rename_i rest hr
    dsimp only at h
    split at h
    · rename_i before hb
      split at h
      · cases h
      · cases h
        have h1 := length_trimLeft_le before
        have h2 := length_trimLeft_le ((Text.Blank.trimLeft rest).dropWhile Text.Digit.isDigit)
        have h3 := (List.dropWhile_sublist (l := Text.Blank.trimLeft rest)
          Text.Digit.isDigit).length_le
        have h4 := length_trimLeft_le rest
        have h5 := congrArg List.length hr
        rw [hb] at h2
        simp only [List.length_reverse, List.length_cons] at *
        omega
    · cases h
  · cases h

/-- The pointee is spelled shorter than the pointer. -/
theorem pointerSuffix?_length {cs inner : List Char} {isReference : Bool}
    (h : pointerSuffix? cs = some (inner, isReference)) : inner.length < cs.length := by
  unfold pointerSuffix? at h
  split at h
  all_goals first
    | cases h
      rename_i rest hr
      have h1 := length_trimLeft_le rest
      have h2 := congrArg List.length hr
      simp only [List.length_reverse, List.length_cons] at *
      omega
    | cases h

/-- Text without its first word is shorter. -/
theorem constPrefix?_length {cs rest : List Char} (h : constPrefix? cs = some rest) :
    rest.length < cs.length := by
  unfold constPrefix? at h
  split at h
  · cases h
    simp only [List.length_cons]
    omega
  · cases h

/-- The type without pointers and arrays that a text names. -/
def named (cs : List Char) : CType :=
  let name := String.ofList cs
  match Primitive.ofSpelling? name with
  | some primitive => .builtin primitive
  | none => .tag name

/-- Read a spelling in normal spacing. -/
def parseNormal (cs : List Char) : Except SpellingFault CType :=
  if cs.isEmpty then .error (.blank (.str ""))
  else match ha : arraySuffix? cs with
    | some (element, digits) => do
      have := arraySuffix?_length ha
      let element ← parseNormal element
      if digits.isEmpty then return .array element none
      else if digits.length > Text.Digit.limit then throw (.sizeTooLong digits.length)
      else return .array element (some (Text.Digit.toNat digits))
    | none =>
      match hp : pointerSuffix? cs with
      | some (inner, isReference) =>
        have := pointerSuffix?_length hp
        match hc : constPrefix? inner with
        | some rest => do
          have := constPrefix?_length hc
          return .pointer (← parseNormal rest) isReference true
        | none => do return .pointer (← parseNormal inner) isReference false
      | none => .ok (named ((constPrefix? cs).getD cs))
termination_by cs.length
decreasing_by all_goals omega

/-- Read a spelling. -/
def parse (text : String) : Except SpellingFault CType :=
  match Text.Blank.normalSpacing text.toList with
  | [] => .error (.blank (.str text))
  | cs => parseNormal cs

/-- Read a spelling from a description; anything but text is refused. -/
def ofValue : Value → Except SpellingFault CType
  | .str text => parse text
  | other => .error (.blank other)

end Interop.CType
