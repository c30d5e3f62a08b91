import Interop.Proofs.RoundTrip
import Interop.Proofs.Sheets
import Interop.Proofs.FileName

/-!
# Balanced braces

Reading a text from its start, each opening brace opens a block and each closing brace closes the
youngest one. If no name in a program holds a brace, every rendered text closes what it opens, in
the right order, and the declarations in it open and close their blocks at one depth: inside the
namespace, if there is one. The proof follows the lines of a text, by the depth before and after
each of them.
-/

namespace Interop

open Template

namespace Braces

/-- The number of opening braces. -/
def opens (cs : List Char) : Nat := cs.count '\x7b'

/-- The number of closing braces. -/
def closes (cs : List Char) : Nat := cs.count '\x7d'

/-- Opening braces are counted one part after the other. -/
theorem opens_append (cs ds : List Char) : opens (cs ++ ds) = opens cs + opens ds :=
  List.count_append

/-- Closing braces are counted one part after the other. -/
theorem closes_append (cs ds : List Char) : closes (cs ++ ds) = closes cs + closes ds :=
  List.count_append

/-- Whether braces are balanced: there are as many closing as opening ones, and never more on the
way. -/
structure Balanced (text : String) : Prop where
  /-- There are as many of both. -/
  total : opens text.toList = closes text.toList
  /-- No start of the text closes more than it opens. -/
  starts : ∀ start, start <+: text.toList → closes start ≤ opens start

/-- A text without braces. -/
def Free (text : String) : Prop := ∀ c ∈ text.toList, c ≠ '\x7b' ∧ c ≠ '\x7d'

instance (text : String) : Decidable (Free text) :=
  List.decidableBAll (fun c => c ≠ '\x7b' ∧ c ≠ '\x7d') text.toList

/-- The number of open blocks after a character, if there is a block to be closed. -/
def step (depth : Nat) (c : Char) : Option Nat :=
  if c = '\x7b' then some (depth + 1)
  else if c = '\x7d' then
    match depth with
    | 0 => none
    | outer + 1 => some outer
  else some depth

/-- The number of open blocks after some characters, if there always is a block to be closed. -/
def scan (depth : Nat) (cs : List Char) : Option Nat := cs.foldlM step depth

/-- Characters are scanned in order. -/
theorem scan_append (depth : Nat) (cs ds : List Char) :
    scan depth (cs ++ ds) = (scan depth cs).bind (scan · ds) := List.foldlM_append

/-- The depth after some characters is what they open and do not close, and it is found exactly if
no start of them closes more than there is. The induction is on the characters: a start of all of
them is empty, or it is the first character and a start of the others. -/
theorem scan_eq_some_iff {depth after : Nat} {cs : List Char} : scan depth cs = some after ↔
    after + closes cs = depth + opens cs ∧
      ∀ start, start <+: cs → closes start ≤ depth + opens start := by
  induction cs generalizing depth with
  | nil =>
    refine ⟨fun h => ?_, fun ⟨h, _⟩ => congrArg some h.symm⟩
    cases h
    refine ⟨rfl, fun start hstart => ?_⟩
    rw [List.prefix_nil.1 hstart]
    exact Nat.zero_le _
  | cons c rest ih =>
    have hstarts : (∀ start, start <+: c :: rest → closes start ≤ depth + opens start) ↔
        ∀ start, start <+: rest → closes (c :: start) ≤ depth + opens (c :: start) := by
      refine ⟨fun h start hstart => h _ (List.cons_prefix_cons.2 ⟨rfl, hstart⟩),
        fun h start hstart => ?_⟩
      rcases List.prefix_cons_iff.1 hstart with rfl | ⟨more, rfl, hmore⟩
      · exact Nat.zero_le _
      · exact h more hmore
    have hscan : scan depth (c :: rest) = (step depth c).bind (scan · rest) := List.foldlM_cons
    rw [hstarts, hscan]
    by_cases hopen : c = '\x7b'
    · have hcounts : ∀ cs, opens (c :: cs) = opens cs + 1 ∧ closes (c :: cs) = closes cs := by
        intro cs
        simp [opens, closes, hopen]
      simp only [hcounts, step, if_pos hopen, Option.bind_some, ih, Nat.add_assoc, Nat.add_comm 1]
    by_cases hclose : c = '\x7d'
    · have hcounts : ∀ cs, opens (c :: cs) = opens cs ∧ closes (c :: cs) = closes cs + 1 := by
        intro cs
        simp [opens, closes, hclose]
      simp only [hcounts, step, if_neg hopen, if_pos hclose]
      cases depth with
      | zero =>
        refine ⟨fun h => (nomatch h), fun ⟨_, h⟩ => ?_⟩
        exact absurd (h [] List.nil_prefix) (by decide)
      | succ outer =>
        simp only [Option.bind_some, ih, Nat.add_right_comm outer 1, ← Nat.add_assoc,
          Nat.add_right_cancel_iff, Nat.add_le_add_iff_right]
    · have hcounts : ∀ cs, opens (c :: cs) = opens cs ∧ closes (c :: cs) = closes cs := by
        intro cs
        simp [opens, closes, hopen, hclose]
      simp only [hcounts, step, if_neg hopen, if_neg hclose, Option.bind_some, ih]

/-- Characters that close no more than there is leave what they open beside the rest. -/
theorem scan_of_closes_le {depth : Nat} {cs : List Char} (h : closes cs ≤ depth) :
    scan depth cs = some (depth + opens cs - closes cs) := by
  refine scan_eq_some_iff.2 ⟨Nat.sub_add_cancel (h.trans (Nat.le_add_right ..)), fun start hs => ?_⟩
  exact (hs.sublist.count_le _).trans (h.trans (Nat.le_add_right ..))

/-- Braces are balanced exactly if no block is open in the end, and there always was one to be
closed. -/
theorem balanced_iff {text : String} : Balanced text ↔ scan 0 text.toList = some 0 := by
  rw [scan_eq_some_iff]
  simp only [Nat.zero_add]
  exact ⟨fun h => ⟨h.total.symm, h.starts⟩, fun ⟨htotal, hstarts⟩ => ⟨htotal.symm, hstarts⟩⟩

/-- A text without braces opens and closes nothing. -/
theorem Free.counts {text : String} (h : Free text) :
    opens text.toList = 0 ∧ closes text.toList = 0 :=
  ⟨List.count_eq_zero.2 fun hc => (h _ hc).1 rfl, List.count_eq_zero.2 fun hc => (h _ hc).2 rfl⟩

/-- A text of two has no braces if neither has. -/
@[simp] theorem free_append {s t : String} : Free (s ++ t) ↔ Free s ∧ Free t := by
  unfold Free
  rw [String.toList_append, List.forall_mem_append]

/-- Texts without braces have none between them either, if what separates them has none. -/
theorem free_intercalate {separator : String} (hseparator : Free separator) {texts : List String}
    (h : ∀ s ∈ texts, Free s) : Free (separator.intercalate texts) := by
  induction texts with
  | nil => exact (by decide : Free "")
  | cons s more ih =>
    obtain ⟨hs, hmore⟩ := List.forall_mem_cons.1 h
    cases more with
    | nil => simpa using hs
    | cons t others =>
      rw [String.intercalate_cons_cons, free_append, free_append]
      exact ⟨⟨hs, hseparator⟩, ih hmore⟩

/-- The number of open blocks after some lines. -/
def depthAfter (depth : Nat) (lines : List String) : Option Nat := scan depth (unlines lines).toList

/-- Lines are read in order. -/
theorem depthAfter_append (depth : Nat) (lines more : List String) :
    depthAfter depth (lines ++ more) = (depthAfter depth lines).bind (depthAfter · more) := by
  have hunlines : unlines (lines ++ more) = unlines lines ++ unlines more := by
    unfold unlines
    rw [List.map_append, String.join_append]
  unfold depthAfter
  rw [hunlines, String.toList_append, scan_append]

/-- The depth after a line that closes no more than there is. -/
theorem depthAfter_singleton {depth : Nat} {line : String} (h : closes line.toList ≤ depth) :
    depthAfter depth [line] = some (depth + opens line.toList - closes line.toList) := by
  have hline : (unlines [line]).toList = line.toList ++ ['\n'] := by
    simp [unlines, String.join_cons]
  unfold depthAfter
  rw [hline, scan_append, scan_of_closes_le h]
  rfl

/-- Lines that end with as many open blocks as there were before them. -/
def IsLevel (lines : List String) : Prop := ∀ depth, depthAfter depth lines = some depth

/-- Lines after lines. -/
theorem IsLevel.append {lines more : List String} (h : IsLevel lines) (h' : IsLevel more) :
    IsLevel (lines ++ more) := by
  intro depth
  rw [depthAfter_append, h, Option.bind_some, h']

/-- Lines without braces. -/
theorem isLevel_of_free {lines : List String} (h : ∀ line ∈ lines, Free line) : IsLevel lines := by
  induction lines with
  | nil => exact fun _ => rfl
  | cons line more ih =>
    obtain ⟨hline, hmore⟩ := List.forall_mem_cons.1 h
    obtain ⟨hopens, hcloses⟩ := hline.counts
    have hfirst : IsLevel [line] := by
      intro depth
      rw [depthAfter_singleton (hcloses ▸ Nat.zero_le _), hopens, hcloses]
      rfl
    exact hfirst.append (ih hmore)

/-- An empty line. -/
theorem isLevel_blank : IsLevel [""] := isLevel_of_free (List.forall_mem_singleton.2 (by decide))

/-- Lines of several lists. -/
theorem isLevel_flatten {blocks : List (List String)} (h : ∀ lines ∈ blocks, IsLevel lines) :
    IsLevel blocks.flatten := by
  induction blocks with
  | nil => exact fun _ => rfl
  | cons lines more ih =>
    obtain ⟨hlines, hmore⟩ := List.forall_mem_cons.1 h
    exact hlines.append (ih hmore)

/-- Blocks of lines with empty lines between them. -/
theorem isLevel_separated {blocks : List (List String)} (h : ∀ lines ∈ blocks, IsLevel lines) :
    IsLevel (separated blocks) := by
  induction blocks with
  | nil => exact fun _ => rfl
  | cons lines more ih =>
    obtain ⟨hlines, hmore⟩ := List.forall_mem_cons.1 h
    cases more with
    | nil => exact hlines
    | cons next others =>
      exact hlines.append (isLevel_blank.append (ih hmore))

/-- Lines that open one block and close it again: lines without braces, a line with one opening
brace, lines without braces, and a line with one closing brace. -/
inductive IsBlock : List String → Prop where
  /-- The lines in order. -/
  | intro {head body : List String} {opener closer : String} (hhead : ∀ line ∈ head, Free line)
      (hopener : opens opener.toList = 1 ∧ closes opener.toList = 0)
      (hbody : ∀ line ∈ body, Free line)
      (hcloser : opens closer.toList = 0 ∧ closes closer.toList = 1) :
      IsBlock (head ++ [opener] ++ body ++ [closer])

/-- After a block, as many blocks are open as before. -/
theorem IsBlock.isLevel {lines : List String} (h : IsBlock lines) : IsLevel lines := by
  intro depth
  obtain @⟨head, body, opener, closer, hhead, ⟨hopens, hcloses⟩, hbody, ⟨hopens', hcloses'⟩⟩ := h
  have hopener : depthAfter depth [opener] = some (depth + 1) := by
    rw [depthAfter_singleton (hcloses ▸ Nat.zero_le depth), hopens, hcloses]
    rfl
  have hcloser : depthAfter (depth + 1) [closer] = some depth := by
    rw [depthAfter_singleton (hcloses' ▸ Nat.le_add_left 1 depth), hopens', hcloses']
    rfl
  rw [depthAfter_append, depthAfter_append, depthAfter_append, isLevel_of_free hhead,
    Option.bind_some, hopener, Option.bind_some, isLevel_of_free hbody, Option.bind_some, hcloser]

/-- A block that is moved to the right is a block. -/
theorem IsBlock.moved {lines : List String} (h : IsBlock lines) {margin : String}
    (hmargin : Free margin) : IsBlock (lines.map (margin ++ ·)) := by
  obtain ⟨hhead, hopener, hbody, hcloser⟩ := h
  have hfree : ∀ {ls : List String}, (∀ line ∈ ls, Free line) →
      ∀ line ∈ ls.map (margin ++ ·), Free line :=
    fun h => List.forall_mem_map.2 fun line hline => free_append.2 ⟨hmargin, h line hline⟩
  have hcounts : ∀ line : String, opens (margin ++ line).toList = opens line.toList ∧
      closes (margin ++ line).toList = closes line.toList := by
    intro line
    obtain ⟨hopens, hcloses⟩ := hmargin.counts
    rw [String.toList_append, opens_append, closes_append, hopens, hcloses]
    exact ⟨Nat.zero_add _, Nat.zero_add _⟩
  rw [List.map_append, List.map_append, List.map_append]
  refine .intro (hfree hhead) ?_ (hfree hbody) ?_
  · rwa [(hcounts _).1, (hcounts _).2]
  · rwa [(hcounts _).1, (hcounts _).2]

/-- The number of blocks in which the declarations of a text stand: that of the namespace, if there
is one. -/
def nesting (outputNamespace : String) : Nat := if outputNamespace.isEmpty then 0 else 1

/-- A line in front of a block without an end opens the block of a namespace, if there is one. -/
theorem depthAfter_opening {line : String} (hline : Free line) (outputNamespace : String) :
    depthAfter 0 (if outputNamespace.isEmpty then [] else [line, "\x7b"]) =
      some (nesting outputNamespace) := by
  unfold nesting
  split
  · rfl
  · change depthAfter 0 ([line] ++ ["\x7b"]) = some 1
    rw [depthAfter_append, isLevel_of_free (List.forall_mem_singleton.2 hline), Option.bind_some,
      depthAfter_singleton (by decide)]
    rfl

/-- A closing brace ends the block of a namespace, if there is one. -/
theorem depthAfter_closing (outputNamespace : String) :
    depthAfter (nesting outputNamespace) (if outputNamespace.isEmpty then [] else ["\x7d"]) =
      some 0 := by
  unfold nesting
  split
  · rfl
  · rw [depthAfter_singleton (by decide)]
    rfl

/-- Lines that leave some blocks open, lines that leave that as it is, and lines that close these
blocks again make up a text whose braces are balanced. -/
theorem balanced_unlines {depth : Nat} {above middle below : List String}
    (habove : depthAfter 0 above = some depth) (hmiddle : IsLevel middle)
    (hbelow : depthAfter depth below = some 0) : Balanced (unlines (above ++ middle ++ below)) := by
  refine balanced_iff.2 ?_
  change depthAfter 0 (above ++ middle ++ below) = some 0
  rw [depthAfter_append, depthAfter_append, habove, Option.bind_some, hmiddle, Option.bind_some,
    hbelow]

/-- Whether lines stand in a text after other lines, with some blocks open before them. -/
structure StandsAt (depth : Nat) (text : String) (before lines : List String) : Prop where
  /-- The lines stand in the text. -/
  stands : ∃ after, text = unlines (before ++ lines ++ after)
  /-- So many blocks are open before them. -/
  depth : depthAfter 0 before = some depth

end Braces

open Braces

namespace CType

/-- Whether no name in a type holds a brace. -/
def IsBraceFree : CType → Prop
  | tag name => Free name
  | pointer pointee _ _ => pointee.IsBraceFree
  | array element _ => element.IsBraceFree
  | builtin _ | missing | bare => True

/-- Whether a printer writes no braces but those of names. -/
def Printer.AddsNoBraces (printer : Printer) : Prop :=
  ∀ t text, t.IsBraceFree → printer t = .ok text → Free text

/-- The digits of a number are no braces. -/
theorem free_integerText (n : Int) : Free (Decimal.integerText n) := by
  have hdigits : ∀ k, Free (String.ofList (Decimal.naturalDigits k)) := by
    intro k c hc
    rw [String.toList_ofList] at hc
    have hdigit := Text.Digit.isDigit_of_mem_naturalDigits hc
    constructor <;>
    · rintro rfl
      exact absurd hdigit (by decide)
  unfold Decimal.integerText
  split
  · exact free_append.2 ⟨by decide, hdigits _⟩
  · exact hdigits _

/-- The spelling of a builtin type holds no brace. -/
theorem free_spelling_builtin (p : Primitive) : Free p.spelling := by
  cases p <;> decide

/-- The C spelling adds no braces. -/
theorem addsNoBraces_spelling : Printer.AddsNoBraces spelling := by
  intro t
  induction t with
  | builtin p =>
    rintro text - h
    cases h
    exact free_spelling_builtin p
  | tag name =>
    rintro text hname h
    cases h
    exact hname
  | pointer pointee isReference isConst ih =>
    rintro text hfree h
    obtain ⟨inner, hinner, h⟩ := Except.bind_eq_ok_iff.1 h
    cases h
    have hconst : Free (if isConst then "const " else "") := by cases isConst <;> decide
    have hmark : Free (mark isReference) := by cases isReference <;> decide
    exact free_append.2 ⟨free_append.2 ⟨hconst, ih inner hfree hinner⟩, hmark⟩
  | array element size ih =>
    rintro text hfree h
    obtain ⟨inner, hinner, h⟩ := Except.bind_eq_ok_iff.1 h
    cases h
    have hsize : Free ((size.map Decimal.integerText).getD "") := by
      cases size with
      | none => exact (by decide : Free "")
      | some n => exact free_integerText n
    simp only [free_append]
    exact ⟨⟨⟨ih inner hfree hinner, by decide⟩, hsize⟩, by decide⟩
  | missing => exact fun _ _ => nofun
  | bare => exact fun _ _ => nofun

/-- The C# spelling adds no braces. -/
theorem addsNoBraces_csharp : Printer.AddsNoBraces csharp := by
  intro t
  induction t with
  | builtin p =>
    rintro text - h
    cases h
    cases p <;> decide
  | tag name =>
    rintro text hname h
    cases h
    exact hname
  | pointer pointee isReference isConst _ =>
    rintro text hfree h
    cases pointee with
    | builtin p =>
      cases h
      cases p <;> decide
    | tag name =>
      cases h
      cases isReference with
      | true => exact free_append.2 ⟨by decide, hfree⟩
      | false => exact hfree
    | pointer _ _ _ | array _ _ | missing | bare =>
      cases h
      decide
  | array element size ih =>
    rintro text hfree h
    obtain ⟨inner, hinner, h⟩ := Except.bind_eq_ok_iff.1 h
    cases h
    exact free_append.2 ⟨ih inner hfree hinner, by decide⟩
  | missing => exact fun _ _ => nofun
  | bare => exact fun _ _ => nofun

/-- The C++/CLI spelling adds no braces. -/
theorem addsNoBraces_cppCli : Printer.AddsNoBraces cppCli := by
  intro t
  induction t with
  | builtin p =>
    rintro text - h
    cases h
    exact free_spelling_builtin p
  | tag name =>
    rintro text hname h
    cases h
    exact hname
  | pointer pointee isReference isConst ih =>
    rintro text hfree h
    cases pointee with
    | builtin p =>
      cases h
      cases p <;> decide
    | tag name =>
      cases h
      exact free_append.2 ⟨hfree, by decide⟩
    | pointer _ _ _ | array _ _ | missing | bare =>
      obtain ⟨inner, hinner, h⟩ := Except.bind_eq_ok_iff.1 h
      cases h
      exact free_append.2 ⟨ih inner hfree hinner, by decide⟩
  | array element size ih =>
    rintro text hfree h
    obtain ⟨inner, hinner, h⟩ := Except.bind_eq_ok_iff.1 h
    cases h
    exact free_append.2 ⟨free_append.2 ⟨by decide, ih inner hfree hinner⟩, by decide⟩
  | missing => exact fun _ _ => nofun
  | bare => exact fun _ _ => nofun

end CType

/-- Whether a name has a text without braces, or none. -/
def Value.IsBraceFree (name : Value) : Prop := ∀ text, name.text? = some text → Free text

/-- Whether no name of a field or parameter and of its type holds a brace. -/
structure Member.IsBraceFree (m : Member) : Prop where
  /-- The name holds none. -/
  name : m.name.IsBraceFree
  /-- The type holds none. -/
  type : m.type.IsBraceFree

/-- Whether nothing that a declaration names holds a brace. -/
structure Declaration.IsBraceFree (d : Declaration) : Prop where
  /-- Its name holds none. -/
  name : d.name.IsBraceFree
  /-- Its name in the native program holds none. -/
  nativeName : d.nativeName.IsBraceFree
  /-- Its members hold none. -/
  members : ∀ m ∈ d.members, m.IsBraceFree
  /-- What a function gives back holds none. -/
  result : ∀ r ∈ d.body.result?, r.IsBraceFree
  /-- The items of an enumeration hold none. -/
  items : ∀ items, d.body = .enumeration items → ∀ item ∈ items, Free item

namespace Declaration.IsBraceFree

variable {d : Declaration} (h : d.IsBraceFree)

include h

/-- The fields of a record hold no braces. -/
theorem fields {isStruct : Bool} {fields : List Member} (hb : d.body = .record isStruct fields) :
    ∀ m ∈ fields, m.IsBraceFree := by
  have hm := h.members
  rwa [Declaration.members, hb] at hm

/-- The parameters of a function hold no braces. -/
theorem parameters {result : CType} {parameters : List Member}
    (hb : d.body = .function result parameters) : ∀ m ∈ parameters, m.IsBraceFree := by
  have hm := h.members
  rwa [Declaration.members, hb] at hm

/-- What a function gives back holds no braces. -/
theorem resultType {result : CType} {parameters : List Member}
    (hb : d.body = .function result parameters) : result.IsBraceFree :=
  h.result result (by rw [hb]; rfl)

end Declaration.IsBraceFree

/-- Whether nothing that a context names holds a brace, and its printer adds none. -/
structure GenerationContext.IsBraceFree (context : GenerationContext) : Prop where
  /-- The namespace holds none. -/
  outputNamespace : Free context.outputNamespace
  /-- The name of the library holds none. -/
  library : ∀ l ∈ context.library, Free l.name
  /-- The printer adds none. -/
  printer : context.printer.AddsNoBraces

/-- The name of the library in a context without braces, or what stands in its place. -/
theorem GenerationContext.IsBraceFree.free_libraryName {context : GenerationContext}
    (h : context.IsBraceFree) {other : String} (hother : Free other) :
    Free ((context.library.map (·.name)).getD other) := by
  cases hl : context.library with
  | none => exact hother
  | some l => exact h.library l hl

namespace Template

section Texts

variable {printer : CType.Printer} (hprinter : printer.AddsNoBraces)

/-- The text of a name without braces has none. -/
theorem free_of_nameText {name : Value} {text : String} (hname : name.IsBraceFree)
    (h : nameText name = .ok text) : Free text := by
  unfold nameText at h
  split at h
  · rename_i hwritten
    cases h
    exact hname _ hwritten
  · cases h

include hprinter

/-- The text of a type without braces has none. -/
theorem free_of_typeText {t : CType} {text : String} (ht : t.IsBraceFree)
    (h : typeText printer t = .ok text) : Free text :=
  hprinter t text ht (typeText_eq_ok_iff.1 h)

/-- The texts of members without braces have none. -/
theorem free_of_isTextOf {members : List Member} {typed : List TypedName}
    (hmembers : ∀ m ∈ members, m.IsBraceFree)
    (h : List.Forall₂ (IsTextOf printer) members typed) :
    ∀ m ∈ typed, Free m.1 ∧ Free m.2 := by
  refine forall_mem_of_forall₂ (fun m texts htexts hm => ?_) h hmembers
  exact ⟨free_of_typeText hprinter hm.type htexts.1, free_of_nameText hm.name htexts.2⟩

end Texts

/-- A list of parameters without braces has none. -/
theorem free_listed {typed : List TypedName} (h : ∀ m ∈ typed, Free m.1 ∧ Free m.2) :
    Free (listed typed) := by
  refine free_intercalate (by decide) (List.forall_mem_map.2 fun m hm => ?_)
  obtain ⟨htype, hname⟩ := h m hm
  exact free_append.2 ⟨free_append.2 ⟨htype, by decide⟩, hname⟩

/-- The lines of items without braces have none. -/
theorem free_itemLines {items : List String} (h : ∀ item ∈ items, Free item) :
    ∀ line ∈ itemLines items, Free line := by
  induction items with
  | nil => exact h
  | cons item more ih =>
    obtain ⟨hitem, hmore⟩ := List.forall_mem_cons.1 h
    cases more with
    | nil => exact h
    | cons next others =>
      exact List.forall_mem_cons.2 ⟨free_append.2 ⟨hitem, by decide⟩, ih hmore⟩

/-- The list of files without braces has none. -/
theorem free_fileNames {units : List SourceUnit} (h : ∀ u ∈ units, Free u.fileName) :
    Free (fileNames units) :=
  free_intercalate (by decide) (List.forall_mem_map.2 h)

/-- Blocks with empty lines between them, up to one of them. -/
theorem exists_after_of_separated (before : List (List String)) (block : List String)
    (after : List (List String)) : ∃ rest,
    separated (before ++ block :: after) = before.flatMap (· ++ [""]) ++ block ++ rest := by
  induction before with
  | nil =>
    cases after with
    | nil => exact ⟨[], (List.append_nil _).symm⟩
    | cons next others => exact ⟨"" :: separated (next :: others), rfl⟩
  | cons first more ih =>
    obtain ⟨rest, hrest⟩ := ih
    refine ⟨rest, ?_⟩
    have hfirst : separated (first :: (more ++ block :: after)) =
        first ++ "" :: separated (more ++ block :: after) := by
      cases more <;> rfl
    rw [List.cons_append, hfirst, hrest, List.flatMap_cons]
    simp only [List.append_assoc, List.cons_append, List.nil_append]

namespace CSharp

/-- The lines of a part as they stand in the text for a context. -/
def Part.moved (context : GenerationContext) (part : Part) : List String :=
  (part.lines context.library).map (indent context.outputNamespace ++ ·)

/-- The lines of a C# source that stand before a part: those above all parts, and the parts that
come first. -/
def linesBefore (units : List SourceUnit) (context : GenerationContext) (before : List Part) :
    List String :=
  header (originText units context.library) ++ opening context.outputNamespace ++
    (before.map (·.moved context)).flatMap (· ++ [""])

section Blocks

variable {units : List SourceUnit} {context : GenerationContext}
  (hcontext : context.IsBraceFree)

include hcontext

/-- A part that shows a declaration without braces is a block. -/
theorem Part.Shows.isBlock {d : Declaration} {part : Part} (h : part.Shows context.printer d)
    (hd : d.IsBraceFree) : IsBlock (part.moved context) := by
  have hname : ∀ {text}, nameText d.name = .ok text → Free text := free_of_nameText hd.name
  have hindent : Free (indent context.outputNamespace) := by
    unfold indent
    split <;> decide
  refine IsBlock.moved ?_ hindent
  cases h with
  | @enumeration name items hb hn =>
    change IsBlock (["public enum " ++ name] ++ ["\x7b"] ++ _ ++ ["\x7d"])
    refine .intro ?_ (by decide) ?_ (by decide)
    · exact List.forall_mem_singleton.2 (free_append.2 ⟨by decide, hname hn⟩)
    · refine List.forall_mem_map.2 fun line hline => free_append.2 ⟨by decide, ?_⟩
      exact free_itemLines (hd.items items hb) line hline
  | @record isStruct name fields typed hb hn htyped =>
    change IsBlock (["[StructLayout(LayoutKind.Sequential)]",
      "public " ++ recordWord isStruct ++ " " ++ name] ++ ["\x7b"] ++ _ ++ ["\x7d"])
    have htexts := free_of_isTextOf hcontext.printer
      (fun m hm => hd.fields hb m (List.mem_of_mem_filter hm)) htyped
    have hword : Free ("public " ++ recordWord isStruct ++ " ") := by cases isStruct <;> decide
    refine .intro ?_ (by decide) ?_ (by decide)
    · exact List.forall_mem_cons.2 ⟨by decide,
        List.forall_mem_singleton.2 (free_append.2 ⟨hword, hname hn⟩)⟩
    · refine List.forall_mem_map.2 fun m hm => ?_
      obtain ⟨htype, hfield⟩ := htexts m hm
      simp only [free_append]
      exact ⟨⟨⟨⟨by decide, htype⟩, by decide⟩, hfield⟩, by decide⟩
  | @imported entryPoint result name type parameters typed hb hentry hresult hn htyped =>
    have hlisted := free_listed (free_of_isTextOf hcontext.printer (hd.parameters hb) htyped)
    have hresult := free_of_typeText hcontext.printer (hd.resultType hb) hresult
    have hentry := free_of_nameText hd.nativeName hentry
    refine .intro (List.forall_mem_singleton.2 ?_) (by decide)
      (List.forall_mem_cons.2 ⟨?_, List.forall_mem_singleton.2 ?_⟩) (by decide)
    all_goals simp only [free_append]
    · exact ⟨⟨by decide, hcontext.free_libraryName (by decide)⟩, by decide⟩
    · exact ⟨⟨⟨⟨by decide, hcontext.free_libraryName (by decide)⟩, by decide⟩, hentry⟩, by decide⟩
    · exact ⟨⟨⟨⟨⟨⟨by decide, hresult⟩, by decide⟩, hname hn⟩, by decide⟩, hlisted⟩, by decide⟩

section Parts

variable {parts : List Part} (hdeclarations : ∀ d ∈ declarationsOf units, d.IsBraceFree)
  (hparts : List.Forall₂ (fun d (part : Part) => part.Shows context.printer d)
    (declarationsOf units) parts)

include hdeclarations hparts

/-- All parts of a C# source are blocks. -/
theorem isBlock_of_mem : ∀ part ∈ parts, IsBlock (part.moved context) :=
  forall_mem_of_forall₂ (fun _ _ hshows hd => hshows.isBlock hcontext hd) hparts hdeclarations

end Parts

variable (hunits : ∀ u ∈ units, Free u.fileName)

include hunits

/-- What a C# source says it was generated from holds no braces. -/
theorem free_originText : Free (originText units context.library) := by
  unfold originText
  dsimp only
  split
  · exact hcontext.free_libraryName (by decide)
  · exact free_fileNames hunits

/-- Above the declarations, a C# source opens the block of its namespace, if there is one. -/
theorem depthAfter_above : depthAfter 0 (header (originText units context.library) ++
    opening context.outputNamespace) = some (nesting context.outputNamespace) := by
  have hheader : IsLevel (header (originText units context.library)) := by
    refine isLevel_of_free ?_
    have horigin := free_originText hcontext hunits
    unfold header
    simp only [List.forall_mem_cons, free_append]
    exact ⟨by decide, ⟨⟨by decide, horigin⟩, by decide⟩, by decide, by decide, by decide, by decide,
      by decide, fun _ h => absurd h List.not_mem_nil⟩
  rw [depthAfter_append, hheader, Option.bind_some]
  exact depthAfter_opening (free_append.2 ⟨by decide, hcontext.outputNamespace⟩) _

variable {parts : List Part} (hdeclarations : ∀ d ∈ declarationsOf units, d.IsBraceFree)
  (hparts : List.Forall₂ (fun d (part : Part) => part.Shows context.printer d)
    (declarationsOf units) parts)

include hdeclarations hparts

/-- The braces of a C# source are balanced. -/
theorem balanced_sheet : Balanced (sheet units context parts) := by
  have hblocks : ∀ lines ∈ parts.map (·.moved context), IsLevel lines :=
    List.forall_mem_map.2 fun part hpart =>
      (isBlock_of_mem hcontext hdeclarations hparts part hpart).isLevel
  exact balanced_unlines (depthAfter_above hcontext hunits) (isLevel_separated hblocks)
    (depthAfter_closing _)

/-- Every part of a C# source stands in the block of the namespace, if there is one, and in no
other. -/
theorem standsAt_sheet {before after : List Part} {part : Part}
    (hsplit : parts = before ++ part :: after) :
    StandsAt (nesting context.outputNamespace) (sheet units context parts)
      (linesBefore units context before) (part.moved context) := by
  have hblocks := isBlock_of_mem hcontext hdeclarations hparts
  subst hsplit
  constructor
  · obtain ⟨rest, hrest⟩ := exists_after_of_separated (before.map (·.moved context))
      (part.moved context) (after.map (·.moved context))
    rw [← List.map_cons, ← List.map_append] at hrest
    refine ⟨rest ++ closing context.outputNamespace, ?_⟩
    change unlines (_ ++ separated ((before ++ part :: after).map (·.moved context)) ++ _) = _
    rw [hrest, linesBefore]
    simp only [List.append_assoc]
  · have hbefore : IsLevel ((before.map (·.moved context)).flatMap (· ++ [""])) := by
      rw [List.flatMap_def]
      refine isLevel_flatten (List.forall_mem_map.2 (List.forall_mem_map.2 fun q hq => ?_))
      exact (hblocks q (List.mem_append_left _ hq)).isLevel.append isLevel_blank
    rw [linesBefore, depthAfter_append, depthAfter_above hcontext hunits, Option.bind_some, hbefore]

end Blocks

end CSharp

namespace CppCli

/-- Whether a part of a header is a block, or, if it is a function, has no braces at all. -/
def Part.Nests : Part → Prop
  | function signature => ∀ line ∈ (function signature).lines, Free line
  | part => IsBlock part.lines

/-- A part of a header that nests leaves as many blocks open as there were before it. -/
theorem Part.Nests.isLevel {part : Part} (h : part.Nests) : IsLevel part.lines := by
  cases part with
  | enumeration name items => exact IsBlock.isLevel h
  | record name properties => exact IsBlock.isLevel h
  | function signature => exact isLevel_of_free h

/-- The lines of a header that stand before a part: those above all parts, and the parts that come
first. -/
def linesBefore (units : List SourceUnit) (outputNamespace : String) (before : List Part) :
    List String :=
  notice units ++ ["#pragma once", ""] ++ units.map (includeLine ·.fileName) ++ [""] ++
    opening outputNamespace ++ (before.map (·.lines)).flatten

/-- A namespace without braces has none in C++ notation. -/
theorem free_withColons {name : String} (h : Free name) : Free (Identifier.withColons name) := by
  intro c hc
  unfold Identifier.withColons at hc
  rw [String.toList_ofList] at hc
  obtain ⟨d, hd, hc⟩ := List.mem_flatMap.1 hc
  split at hc
  · have hcolon : c = ':' := by simpa using hc
    rw [hcolon]
    decide
  · rw [List.mem_singleton.1 hc]
    exact h d hd

/-- What stands before names outside of a namespace without braces has none. -/
theorem free_qualifier {outputNamespace : String} (h : Free outputNamespace) :
    Free (qualifier outputNamespace) := by
  unfold qualifier
  split
  · decide
  · exact free_append.2 ⟨free_withColons h, by decide⟩

/-- A line that includes a file without braces has none. -/
theorem free_includeLine {file : String} (h : Free file) : Free (includeLine file) :=
  free_append.2 ⟨free_append.2 ⟨by decide, h⟩, by decide⟩

section Units

variable {units : List SourceUnit} (hunits : ∀ u ∈ units, Free u.fileName)

include hunits

/-- The notice on files without braces has none. -/
theorem isLevel_notice : IsLevel (notice units) := by
  have hrule : Free rule := by decide +kernel
  refine isLevel_of_free ?_
  unfold notice
  simp only [List.forall_mem_cons, free_append]
  exact ⟨hrule, by decide, ⟨⟨by decide, free_fileNames hunits⟩, by decide⟩, by decide, by decide,
    hrule, fun _ h => absurd h List.not_mem_nil⟩

/-- Above the declarations, a header opens the block of its namespace, if there is one. -/
theorem depthAfter_above {outputNamespace : String} (hnamespace : Free outputNamespace) :
    depthAfter 0 (notice units ++ ["#pragma once", ""] ++ units.map (includeLine ·.fileName) ++
      [""] ++ opening outputNamespace) = some (nesting outputNamespace) := by
  have hpragma : IsLevel ["#pragma once", ""] := isLevel_of_free (by decide)
  have hincludes : IsLevel (units.map (includeLine ·.fileName)) :=
    isLevel_of_free (List.forall_mem_map.2 fun u hu => free_includeLine (hunits u hu))
  have habove := (((isLevel_notice hunits).append hpragma).append hincludes).append isLevel_blank
  rw [depthAfter_append, habove, Option.bind_some]
  exact depthAfter_opening (free_append.2 ⟨by decide, free_withColons hnamespace⟩) _

end Units

section Blocks

variable {printer : CType.Printer} (hprinter : printer.AddsNoBraces) {d : Declaration}
  (hd : d.IsBraceFree)

include hprinter hd

/-- The signature of a function without braces has none. -/
theorem free_signature {result : CType} {parameters : List Member} {s : Signature}
    (hb : d.body = .function result parameters) (hs : s.IsOf printer d.name result parameters)
    {qualifier : String} (hqualifier : Free qualifier) : Free (s.text qualifier) := by
  have hresult := free_of_typeText hprinter (hd.resultType hb) hs.result
  have hname := free_of_nameText hd.name hs.name
  have hlisted := free_listed (free_of_isTextOf hprinter (hd.parameters hb) hs.parameters)
  unfold Signature.text
  simp only [free_append]
  exact ⟨⟨⟨⟨⟨⟨hresult, by decide⟩, hqualifier⟩, hname⟩, by decide⟩, hlisted⟩, by decide⟩

/-- A part of a header that shows a declaration without braces nests. -/
theorem Part.Shows.nests {part : Part} (h : part.Shows printer d) : part.Nests := by
  have hname : ∀ {text}, nameText d.name = .ok text → Free text := free_of_nameText hd.name
  cases h with
  | @enumeration name items hb hn =>
    change IsBlock (["    public enum struct " ++ name] ++ ["    \x7b"] ++ _ ++ ["    \x7d;"])
    refine .intro ?_ (by decide) ?_ (by decide)
    · exact List.forall_mem_singleton.2 (free_append.2 ⟨by decide, hname hn⟩)
    · refine List.forall_mem_map.2 fun line hline => free_append.2 ⟨by decide, ?_⟩
      exact free_itemLines (hd.items items hb) line hline
  | @record isStruct name fields typed hb hn htyped =>
    change IsBlock (["    public ref class " ++ name] ++ ["    \x7b"] ++
      ("    public:" :: typed.map _) ++ ["    \x7d;"])
    have htexts := free_of_isTextOf hprinter
      (fun m hm => hd.fields hb m (List.mem_of_mem_filter hm)) htyped
    refine .intro ?_ (by decide) (List.forall_mem_cons.2 ⟨by decide, ?_⟩) (by decide)
    · exact List.forall_mem_singleton.2 (free_append.2 ⟨by decide, hname hn⟩)
    · refine List.forall_mem_map.2 fun m hm => ?_
      obtain ⟨htype, hfield⟩ := htexts m hm
      simp only [free_append]
      exact ⟨⟨⟨⟨by decide, htype⟩, by decide⟩, hfield⟩, by decide⟩
  | @function result parameters s hb hs =>
    have hsignature := free_signature hprinter hd hb hs (by decide : Free "")
    exact List.forall_mem_singleton.2
      (free_append.2 ⟨free_append.2 ⟨by decide, hsignature⟩, by decide⟩)

/-- A wrapper that defines a function without braces is a block. -/
theorem Wrapper.Defines.isBlock {w : Wrapper} (h : w.Defines printer d) {qualifier : String}
    (hqualifier : Free qualifier) : IsBlock (w.lines qualifier) := by
  obtain ⟨hb, hsignature, hcallee, -, -⟩ := h
  have hcallee := free_of_nameText hd.nativeName hcallee
  have htexts := free_of_isTextOf hprinter (hd.parameters hb) hsignature.parameters
  have harguments : Free (", ".intercalate w.arguments) :=
    free_intercalate (by decide) (List.forall_mem_map.2 fun m hm => (htexts m hm).2)
  have hreturn : Free (if w.isVoid then "" else "return ") := by cases w.isVoid <;> decide
  change IsBlock ([w.signature.text qualifier] ++ ["\x7b"] ++ [_] ++ ["\x7d"])
  refine .intro ?_ (by decide) ?_ (by decide)
  · exact List.forall_mem_singleton.2 (free_signature hprinter hd hb hsignature hqualifier)
  · refine List.forall_mem_singleton.2 ?_
    simp only [free_append]
    exact ⟨⟨by decide, hreturn⟩, ⟨⟨⟨by decide, hcallee⟩, by decide⟩, harguments⟩, by decide⟩

end Blocks

section Sheets

variable {units : List SourceUnit} {context : GenerationContext}
  (hcontext : context.IsBraceFree) (hunits : ∀ u ∈ units, Free u.fileName)
  (hdeclarations : ∀ d ∈ declarationsOf units, d.IsBraceFree)

section Headers

variable {parts : List Part} (hparts : List.Forall₂
  (fun d (part : Part) => part.Shows context.printer d) (declarationsOf units) parts)

include hcontext hdeclarations hparts

/-- All parts of a header nest. -/
theorem nests_of_mem : ∀ part ∈ parts, part.Nests :=
  forall_mem_of_forall₂ (fun _ _ hshows hd => hshows.nests hcontext.printer hd) hparts hdeclarations

include hunits

/-- The braces of a header are balanced. -/
theorem balanced_headerSheet : Balanced (headerSheet units context.outputNamespace parts) := by
  have hblocks : ∀ lines ∈ parts.map (·.lines), IsLevel lines :=
    List.forall_mem_map.2 fun part hpart =>
      (nests_of_mem hcontext hdeclarations hparts part hpart).isLevel
  exact balanced_unlines (depthAfter_above hunits hcontext.outputNamespace)
    (isLevel_flatten hblocks) (depthAfter_closing _)

/-- Every part of a header stands in the block of the namespace, if there is one, and in no
other. -/
theorem standsAt_headerSheet {before after : List Part} {part : Part}
    (hsplit : parts = before ++ part :: after) :
    StandsAt (nesting context.outputNamespace) (headerSheet units context.outputNamespace parts)
      (linesBefore units context.outputNamespace before) part.lines := by
  have hblocks := nests_of_mem hcontext hdeclarations hparts
  subst hsplit
  constructor
  · refine ⟨(after.map (·.lines)).flatten ++ closing context.outputNamespace, ?_⟩
    unfold headerSheet linesBefore
    rw [List.map_append, List.map_cons, List.flatten_append, List.flatten_cons]
    simp only [List.append_assoc]
  · have hbefore : IsLevel (before.map (·.lines)).flatten :=
      isLevel_flatten <| List.forall_mem_map.2 fun q hq =>
        (hblocks q (List.mem_append_left _ hq)).isLevel
    rw [linesBefore, depthAfter_append, depthAfter_above hunits hcontext.outputNamespace,
      Option.bind_some, hbefore]

end Headers

include hcontext hunits hdeclarations

/-- The braces of a source are balanced. -/
theorem balanced_sourceSheet {suffix : String} (hsuffix : Free suffix) {wrappers : List Wrapper}
    (hwrappers : List.Forall₂ (fun d (w : Wrapper) => w.Defines context.printer d)
      ((declarationsOf units).filter (·.isFunction)) wrappers) :
    Balanced (sourceSheet suffix units context.outputNamespace wrappers) := by
  have hblocks : ∀ w ∈ wrappers, IsBlock (w.lines (qualifier context.outputNamespace)) :=
    forall_mem_of_forall₂ (fun _ _ hdefines hd =>
      hdefines.isBlock hcontext.printer hd (free_qualifier hcontext.outputNamespace)) hwrappers
      fun d hd => hdeclarations d (List.mem_of_mem_filter hd)
  have hincludes : IsLevel (units.map fun u => includeLine (u.fileStem ++ suffix ++ ".h")) := by
    refine isLevel_of_free (List.forall_mem_map.2 fun u hu => free_includeLine ?_)
    have hstem : Free u.fileStem := by
      intro c hc
      unfold SourceUnit.fileStem at hc
      rw [String.toList_ofList] at hc
      have hname := hunits u hu c
      unfold SourceUnit.fileName at hname
      rw [String.toList_ofList] at hname
      exact hname (Path.mem_of_mem_stem hc)
    exact free_append.2 ⟨free_append.2 ⟨hstem, hsuffix⟩, by decide⟩
  have hseparated : IsLevel (separated
      (wrappers.map (·.lines (qualifier context.outputNamespace)))) :=
    isLevel_separated (List.forall_mem_map.2 fun w hw => (hblocks w hw).isLevel)
  refine balanced_iff.2 ?_
  exact (((isLevel_notice hunits).append hincludes).append isLevel_blank).append hseparated 0

end Sheets

end CppCli

end Template

/-- If no name in some units and their context holds a brace, every text that a shipped form renders
of them has balanced braces, and such a text is rendered wherever all types are complete. In a C#
source, every declaration is a block; in a C++/CLI header, every declaration but a function is one,
and functions have no braces. All of them stand in the block of the namespace and in no other;
without a namespace, in none. The printers of the shipped backends add no braces, nor does the C
spelling. -/
theorem render_isBalanced {units : List SourceUnit} {context : GenerationContext}
    (hunits : ∀ u ∈ units, Free u.fileName)
    (hdeclarations : ∀ d ∈ declarationsOf units, d.IsBraceFree) (hcontext : context.IsBraceFree) :
    (∀ target, ∀ form ∈ Backend.forms target,
      (∀ text, form.render units context = .ok text → Balanced text) ∧
      ((∀ d ∈ declarationsOf units, d.IsWritable) → context.printer.IsTotal →
        ∃ text, form.render units context = .ok text)) ∧
    (∀ text, CSharp.text units context = .ok text → ∃ parts : List CSharp.Part,
      List.Forall₂ (fun d (part : CSharp.Part) => part.Shows context.printer d)
        (declarationsOf units) parts ∧
      ∀ before part after, parts = before ++ part :: after →
        IsBlock (part.moved context) ∧
        StandsAt (if context.outputNamespace.isEmpty then 0 else 1) text
          (CSharp.linesBefore units context before) (part.moved context)) ∧
    (∀ text, CppCli.headerText units context = .ok text → ∃ parts : List CppCli.Part,
      List.Forall₂ (fun d (part : CppCli.Part) => part.Shows context.printer d)
        (declarationsOf units) parts ∧
      ∀ before part after, parts = before ++ part :: after →
        part.Nests ∧
        StandsAt (if context.outputNamespace.isEmpty then 0 else 1) text
          (CppCli.linesBefore units context.outputNamespace before) part.lines) ∧
    (∀ target, (Backend.ofTarget target).printer.AddsNoBraces) ∧
    CType.Printer.AddsNoBraces CType.spelling := by
  refine ⟨fun target form hform => ⟨fun text h => ?_, fun hwritable htotal => ?_⟩,
    fun text h => ?_, fun text h => ?_, fun target => ?_, CType.addsNoBraces_spelling⟩
  · cases target with
    | csharp =>
      obtain rfl := List.mem_singleton.1 hform
      obtain ⟨parts, rfl, hparts⟩ := CSharp.exists_sheet h
      exact CSharp.balanced_sheet hcontext hunits hdeclarations hparts
    | cppCli =>
      rcases List.mem_cons.1 hform with rfl | hform
      · obtain ⟨parts, rfl, hparts⟩ := CppCli.exists_headerSheet h
        exact CppCli.balanced_headerSheet hcontext hunits hdeclarations hparts
      · obtain rfl := List.mem_singleton.1 hform
        obtain ⟨wrappers, rfl, hwrappers⟩ := CppCli.exists_sourceSheet h
        exact CppCli.balanced_sourceSheet hcontext hunits hdeclarations (by decide) hwrappers
  · exact Backend.succeeds_render_of_writable hform htotal hwritable
  · obtain ⟨parts, rfl, hparts⟩ := CSharp.exists_sheet h
    refine ⟨parts, hparts, fun before part after hsplit => ⟨?_, ?_⟩⟩
    · exact CSharp.isBlock_of_mem hcontext hdeclarations hparts part
        (hsplit ▸ List.mem_append_right _ List.mem_cons_self)
    · exact CSharp.standsAt_sheet hcontext hunits hdeclarations hparts hsplit
  · obtain ⟨parts, rfl, hparts⟩ := CppCli.exists_headerSheet h
    refine ⟨parts, hparts, fun before part after hsplit => ⟨?_, ?_⟩⟩
    · exact CppCli.nests_of_mem hcontext hdeclarations hparts part
        (hsplit ▸ List.mem_append_right _ List.mem_cons_self)
    · exact CppCli.standsAt_headerSheet hcontext hunits hdeclarations hparts hsplit
  · cases target with
    | cppCli => exact CType.addsNoBraces_cppCli
    | csharp => exact CType.addsNoBraces_csharp

/-- A name that is a text without braces. -/
theorem Value.isBraceFree_str {s : String} (h : Free s) : (Value.str s).IsBraceFree := by
  intro text htext
  rw [Value.text?_str] at htext
  cases htext
  exact h

/-- A unit with a record, a function and an enumeration. -/
def SourceUnit.ofEvents : SourceUnit :=
  { SourceUnit.ofReserved "core/event.h" with
    declarations := (SourceUnit.ofReserved "core/event.h").declarations ++
      [{ Label.named (.str "Kind") true with body := .enumeration ["on", "off"] }] }

/-- What this unit names holds no braces. -/
theorem isBraceFree_ofEvents : ∀ d ∈ declarationsOf [.ofEvents], d.IsBraceFree := by
  have hmember : ∀ (name : String) (t : CType), Free name → t.IsBraceFree →
      ∀ m ∈ [({ Label.named (.str name) true with type := t } : Member)], m.IsBraceFree :=
    fun name t hname ht => List.forall_mem_singleton.2 ⟨Value.isBraceFree_str hname, ht⟩
  have hname : ∀ name ∈ ["event", "lock", "Kind"], (Value.str name).IsBraceFree := by
    have hfree : ∀ name ∈ ["event", "lock", "Kind"], Free name := by decide
    exact fun name h => Value.isBraceFree_str (hfree name h)
  refine List.forall_mem_cons.2 ⟨?_, List.forall_mem_cons.2 ⟨?_, List.forall_mem_singleton.2 ?_⟩⟩
  · exact ⟨hname "event" (by decide), hname "event" (by decide),
      hmember "object" _ (by decide) (by decide : Free "event"), nofun, nofun⟩
  · refine ⟨hname "lock" (by decide), hname "lock" (by decide),
      hmember "text" _ (by decide) trivial, fun r hr => ?_, nofun⟩
    cases hr
    exact trivial
  · refine ⟨hname "Kind" (by decide), hname "Kind" (by decide), nofun, nofun, fun items h => ?_⟩
    cases h
    decide

/-- A context with a namespace and a printer. -/
def eventContext (outputNamespace : String) (printer : CType.Printer) : GenerationContext :=
  ⟨outputNamespace, printer, some ⟨"Core", none⟩, none⟩

/-- The braces of the C# source of this unit are balanced, and its three declarations stand in the
block of the namespace. In a header without a namespace, they stand in no block. -/
theorem render_isBalanced_events :
    (∃ text, CSharp.text [.ofEvents] (eventContext "Acme.Core" CType.csharp) = .ok text ∧
      Balanced text ∧ ∃ parts : List CSharp.Part, parts.length = 3 ∧
      ∀ before part after, parts = before ++ part :: after →
        IsBlock (part.moved (eventContext "Acme.Core" CType.csharp)) ∧
        StandsAt 1 text (CSharp.linesBefore [.ofEvents] (eventContext "Acme.Core" CType.csharp) before)
          (part.moved (eventContext "Acme.Core" CType.csharp))) ∧
    ∃ text, CppCli.headerText [.ofEvents] (eventContext "" CType.cppCli) = .ok text ∧
      Balanced text ∧ ∃ parts : List CppCli.Part, parts.length = 3 ∧
      ∀ before part after, parts = before ++ part :: after → part.Nests ∧
        StandsAt 0 text (CppCli.linesBefore [.ofEvents] "" before) part.lines := by
  have hunits : ∀ u ∈ [SourceUnit.ofEvents], Free u.fileName := by decide
  have hlibrary : ∀ l ∈ (some ⟨"Core", none⟩ : Option Library), Free l.name := by decide
  have hcsharp : (eventContext "Acme.Core" CType.csharp).IsBraceFree :=
    ⟨by decide, hlibrary, CType.addsNoBraces_csharp⟩
  have hcppCli : (eventContext "" CType.cppCli).IsBraceFree :=
    ⟨by decide, hlibrary, CType.addsNoBraces_cppCli⟩
  constructor
  · obtain ⟨hforms, hparts, -⟩ := render_isBalanced hunits isBraceFree_ofEvents hcsharp
    obtain ⟨text, h⟩ : ∃ text,
        CSharp.text [.ofEvents] (eventContext "Acme.Core" CType.csharp) = .ok text := ⟨_, rfl⟩
    obtain ⟨parts, hshows, hstands⟩ := hparts text h
    exact ⟨text, h, (hforms .csharp _ List.mem_cons_self).1 text h, parts, hshows.length_eq.symm,
      hstands⟩
  · obtain ⟨hforms, -, hparts, -⟩ := render_isBalanced hunits isBraceFree_ofEvents hcppCli
    obtain ⟨text, h⟩ : ∃ text,
        CppCli.headerText [.ofEvents] (eventContext "" CType.cppCli) = .ok text := ⟨_, rfl⟩
    obtain ⟨parts, hshows, hstands⟩ := hparts text h
    exact ⟨text, h, (hforms .cppCli _ List.mem_cons_self).1 text h, parts, hshows.length_eq.symm,
      hstands⟩

end Interop
