import Interop.Proofs.Precedence

/-!
# Namespaces as words between dots

A text is accepted as a namespace exactly if it is a row of words with single dots between them, and
one line break may follow it. So it is with every namespace of a configuration that is accepted.
-/

namespace Interop

namespace Identifier

/-- A character that a word may start with: an unaccented letter or an underscore. -/
def IsInitial (c : Char) : Prop := 'A' ≤ c ∧ c ≤ 'Z' ∨ 'a' ≤ c ∧ c ≤ 'z' ∨ c = '_'

/-- A character that a word may go on with: one that it may start with, or a digit. -/
def IsLater (c : Char) : Prop := IsInitial c ∨ '0' ≤ c ∧ c ≤ '9'

/-- A word. -/
inductive IsWord : List Char → Prop
  | cons {c : Char} {rest : List Char} (first : IsInitial c) (more : ∀ d ∈ rest, IsLater d) :
      IsWord (c :: rest)

/-- One or more words joined by single dots. -/
def IsDotted (cs : List Char) : Prop :=
  ∃ words, words ≠ [] ∧ (∀ w ∈ words, IsWord w) ∧ ['.'].intercalate words = cs

/-- All characters of a word may stand later in one. -/
theorem IsWord.isLater {w : List Char} (h : IsWord w) : ∀ c ∈ w, IsLater c := by
  obtain ⟨first, more⟩ := h
  exact List.forall_mem_cons.2 ⟨.inl first, more⟩

/-- No dot stands in a word. -/
theorem IsWord.dot_notMem {w : List Char} (h : IsWord w) : '.' ∉ w := by
  intro hdot
  have hlater := h.isLater '.' hdot
  revert hlater
  unfold IsLater IsInitial
  decide

/-- The characters of words between dots are those of words and the dots. -/
theorem IsDotted.isLater_or_dot {cs : List Char} (h : IsDotted cs) :
    ∀ c ∈ cs, IsLater c ∨ c = '.' := by
  obtain ⟨words, -, hwords, rfl⟩ := h
  induction words with
  | nil => exact nofun
  | cons w rest ih =>
    obtain ⟨hw, hrest⟩ := List.forall_mem_cons.1 hwords
    cases rest with
    | nil =>
      rw [List.intercalate_singleton]
      exact fun c hc => .inl (hw.isLater c hc)
    | cons v more =>
      rw [List.intercalate_cons_cons]
      intro c hc
      rcases List.mem_append.1 hc with hc | hc
      · exact (List.mem_append.1 hc).imp (hw.isLater c) List.mem_singleton.1
      · exact ih hrest c hc

/-- No line break stands in words between dots. -/
theorem IsDotted.break_notMem {cs : List Char} (h : IsDotted cs) : '\n' ∉ cs := by
  intro hbreak
  have hchar := h.isLater_or_dot '\n' hbreak
  revert hchar
  unfold IsLater IsInitial
  decide

/-- A character that a segment may start with is one that a word may start with. -/
theorem isInitial_iff {c : Char} : (c.isAlpha || c == '_') = true ↔ IsInitial c := by
  have halpha : c.isAlpha = (c.isUpper || c.isLower) := rfl
  have hupper : c.isUpper = true ↔ 'A' ≤ c ∧ c ≤ 'Z' := decide_eq_true_iff
  have hlower : c.isLower = true ↔ 'a' ≤ c ∧ c ≤ 'z' :=
    Bool.and_eq_true_iff.trans (and_congr decide_eq_true_iff decide_eq_true_iff)
  rw [halpha, Bool.or_eq_true, Bool.or_eq_true, hupper, hlower, beq_iff_eq, or_assoc, IsInitial]

/-- A character that a segment may go on with is one that a word may go on with. -/
theorem isLater_iff {c : Char} : (c.isAlphanum || c == '_') = true ↔ IsLater c := by
  have halphanum : c.isAlphanum = (c.isAlpha || c.isDigit) := rfl
  have hdigit : c.isDigit = true ↔ '0' ≤ c ∧ c ≤ '9' :=
    Bool.and_eq_true_iff.trans (and_congr decide_eq_true_iff decide_eq_true_iff)
  rw [halphanum, Bool.or_right_comm, Bool.or_eq_true, isInitial_iff, hdigit, IsLater]

/-- A segment is a word. -/
theorem isSegment_iff {cs : List Char} : isSegment cs = true ↔ IsWord cs := by
  cases cs with
  | nil => exact ⟨nofun, nofun⟩
  | cons c rest =>
    simp only [isSegment, Bool.and_eq_true, isInitial_iff, List.all_eq_true, isLater_iff]
    exact ⟨fun h => .cons h.1 h.2, fun ⟨first, more⟩ => ⟨first, more⟩⟩

/-- The pieces between dots are segments if and only if they are words joined by the dots. -/
theorem all_isSegment_pieces_iff {cs : List Char} :
    (Text.Split.pieces (· == '.') cs).all isSegment = true ↔ IsDotted cs := by
  simp only [List.all_eq_true, isSegment_iff]
  constructor
  · exact fun h => ⟨_, Text.Split.pieces_ne_nil _ cs, h, Text.Split.intercalate_pieces '.' cs⟩
  · rintro ⟨words, hne, hwords, rfl⟩
    rwa [Text.Split.pieces_intercalate hne fun w hw => (hwords w hw).dot_notMem]

/-- A line break at the end is dropped. -/
theorem dropFinalBreak_append (front : List Char) : dropFinalBreak (front ++ ['\n']) = front := by
  simp [dropFinalBreak]

/-- Either a line break at the end is dropped, or nothing is. -/
theorem dropFinalBreak_cases (cs : List Char) :
    cs = dropFinalBreak cs ++ ['\n'] ∨ dropFinalBreak cs = cs := by
  unfold dropFinalBreak
  split
  · rename_i rest h
    left
    rw [← List.reverse_cons, ← h, List.reverse_reverse]
  · exact .inr rfl

/-- Words joined by dots, with or without a line break after them. -/
def IsDottedLine (name : String) : Prop :=
  IsDotted name.toList ∨ ∃ front, IsDotted front ∧ name.toList = front ++ ['\n']

/-- A name is accepted as a namespace if and only if it is words joined by dots, with or without a
line break after them. -/
theorem isNamespace_iff {name : String} : isNamespace name = true ↔ IsDottedLine name := by
  unfold isNamespace IsDottedLine
  rw [all_isSegment_pieces_iff]
  constructor
  · intro h
    rcases dropFinalBreak_cases name.toList with hbreak | hsame
    · exact .inr ⟨_, h, hbreak⟩
    · exact .inl (hsame ▸ h)
  · rintro (h | ⟨front, h, hname⟩)
    · rcases dropFinalBreak_cases name.toList with hbreak | hsame
      · exact absurd (hbreak ▸ List.mem_append_right _ List.mem_cons_self) h.break_notMem
      · rwa [hsame]
    · rwa [hname, dropFinalBreak_append]

end Identifier

namespace Configuration

open Identifier

/-- Each item that is found in a list is found in one of its items. -/
theorem Check.exists_of_mem_each {α β : Type} {check : Nat → α → Check β} {first : Nat}
    {l : List α} {bs : List β} (h : each check first l = .ok bs) :
    ∀ b ∈ bs, ∃ n, ∃ a ∈ l, check n a = .ok b := by
  induction l generalizing first bs with
  | nil =>
    cases h
    exact nofun
  | cons a rest ih =>
    obtain ⟨⟨b, more⟩, hboth, rfl⟩ := Check.map_eq_ok_iff.1 h
    obtain ⟨hb, hmore⟩ := Check.both_eq_ok_iff.1 hboth
    refine List.forall_mem_cons.2 ⟨⟨first, a, List.mem_cons_self, hb⟩, fun b' hb' => ?_⟩
    obtain ⟨n, a', ha', hcheck⟩ := ih hmore b' hb'
    exact ⟨n, a', List.mem_cons_of_mem a ha', hcheck⟩

/-- A namespace that is found in a part is one. -/
theorem isNamespace_of_checkNamespace {place : List String} {v : Value} {space : String}
    (h : checkNamespace place v = .ok (some space)) : isNamespace space = true := by
  unfold checkNamespace at h
  split at h
  · cases h
  · obtain ⟨s, -, hread⟩ := Except.bind_eq_ok_iff.1 (complainAt_eq_ok_iff.1 h)
    split at hread
    · cases hread
    · split at hread
      · rename_i hspace
        cases hread
        exact hspace
      · cases hread

/-- The namespace of a module that is found is one. -/
theorem isNamespace_of_checkModule {place : List String} {v : Value} {m : ModuleSettings}
    {space : String} (h : checkModule place v = .ok m)
    (hspace : m.library.outputNamespace = some space) : isNamespace space = true := by
  unfold checkModule at h
  split at h
  · obtain ⟨⟨name, found, units⟩, hboth, rfl⟩ := Check.map_eq_ok_iff.1 h
    obtain ⟨-, hboth⟩ := Check.both_eq_ok_iff.1 hboth
    obtain rfl : found = some space := hspace
    exact isNamespace_of_checkNamespace (Check.both_eq_ok_iff.1 hboth).1
  · cases h

/-- The namespaces of all modules that are found are ones. -/
theorem isNamespace_of_checkModules {place : List String} {o : Option Value}
    {modules : List ModuleSettings} (h : checkModules place o = .ok modules) :
    ∀ m ∈ modules, ∀ space, m.library.outputNamespace = some space →
      isNamespace space = true := by
  intro m hm space hspace
  unfold checkModules at h
  split at h
  · cases h
  · split at h
    · cases h
    · obtain ⟨n, item, -, hitem⟩ := Check.exists_of_mem_each h m hm
      exact isNamespace_of_checkModule hitem hspace
    · cases h

/-- The namespaces of all modules of a sound configuration are ones. -/
theorem isNamespace_of_check {v : Value} {c : Configuration} (h : check v = .ok c) :
    ∀ m ∈ c.modules, ∀ space, m.library.outputNamespace = some space →
      isNamespace space = true := by
  cases hopened : v.opened with
  | dict entries =>
    have hdict : check (.dict entries) = .ok c := by
      simpa only [check, Value.opened_dict, hopened] using h
    exact isNamespace_of_checkModules (isFilledFrom_of_check hdict).modules
  | _ =>
    rw [check, hopened] at h
    cases h

/-- Making directories absolute changes no module. -/
theorem modules_of_anchor {w : Workspace} {path : Option String} {c d : Configuration}
    (h : anchor w path c = .ok d) : d.modules = c.modules := by
  obtain ⟨output, -, h⟩ := Except.bind_eq_ok_iff.1 h
  cases h
  rfl

/-- The modules of a configuration that is loaded are those of one that is valid. With a file or
without one, the check and the directories come after the entries. -/
theorem exists_validate_of_load {w : Workspace} {path : Option String}
    {given : List (Scalar × Value)} {d : Configuration} (h : (load w path given).outcome = .ok d) :
    ∃ v c, (validate v path).outcome = .ok c ∧ d.modules = c.modules := by
  unfold load at h
  dsimp only at h
  split at h
  all_goals
    simp only [Logged.outcome_bind, Logged.outcome_log] at h
    obtain ⟨entries, -, h⟩ := Except.bind_eq_ok_iff.1 h
    obtain ⟨-, -, h⟩ := Except.bind_eq_ok_iff.1 h
    obtain ⟨c, hc, h⟩ := Except.bind_eq_ok_iff.1 h
    obtain ⟨anchored, hanchor, h⟩ := Except.bind_eq_ok_iff.1 h
    cases h
    exact ⟨_, c, hc, modules_of_anchor hanchor⟩

/-- A name is accepted as a namespace exactly if it is words joined by dots, with or without a line
break after them, so that only such words with a line break are accepted though they are no words
joined by dots. The namespaces of all modules of a configuration that is valid or loaded are of this
form. -/
theorem isNamespace_iff_and_namespaces (name : String) (v : Value) (file : Option String)
    (w : Workspace) (given : List (Scalar × Value)) :
    (isNamespace name = true ↔ IsDottedLine name) ∧
    ((isNamespace name = true ↔ IsDotted name.toList) ↔
      ¬ ∃ front, IsDotted front ∧ name.toList = front ++ ['\n']) ∧
    (∀ c, (validate v file).outcome = .ok c → ∀ m ∈ c.modules, ∀ space,
      m.library.outputNamespace = some space → IsDottedLine space) ∧
    ∀ c, (load w file given).outcome = .ok c → ∀ m ∈ c.modules, ∀ space,
      m.library.outputNamespace = some space → IsDottedLine space := by
  have hvalid : ∀ v c, (validate v file).outcome = .ok c → ∀ m ∈ c.modules, ∀ space,
      m.library.outputNamespace = some space → IsDottedLine space :=
    fun v c h m hm space hspace =>
      isNamespace_iff.1 (isNamespace_of_check (outcome_validate_eq_ok_iff.1 h) m hm space hspace)
  refine ⟨isNamespace_iff, ?_, hvalid v, fun d h m hm space hspace => ?_⟩
  · rw [isNamespace_iff]
    constructor
    · intro hsame hbreak
      have hdotted := hsame.1 (.inr hbreak)
      obtain ⟨front, -, hname⟩ := hbreak
      exact hdotted.break_notMem (hname ▸ List.mem_append_right front List.mem_cons_self)
    · exact fun hnone => ⟨fun h => h.resolve_right hnone, .inl⟩
  · obtain ⟨u, c, hc, hmodules⟩ := exists_validate_of_load h
    exact hvalid u c hc m (hmodules ▸ hm) space hspace

/-- A module whose namespace is a word and a line break. -/
def lineEntries : List (Scalar × Value) :=
  [(.str "modules", .list [.dict [(.str "library_name", .str "Core"),
    (.str "output_namespace", .str "Acme\n")]])]

/-- Two words with a dot between them are a namespace, and this module's namespace, which is
accepted, is a word and a line break. -/
theorem isNamespace_iff_and_namespaces_line :
    IsDottedLine "Acme.Core" ∧ ∃ c m, (validate (.dict lineEntries) none).outcome = .ok c ∧
      m ∈ c.modules ∧ m.library.outputNamespace = some "Acme\n" ∧ IsDottedLine "Acme\n" ∧
      ¬ IsDotted "Acme\n".toList := by
  obtain ⟨hname, -, hvalid, -⟩ :=
    isNamespace_iff_and_namespaces "Acme.Core" (.dict lineEntries) none ⟨.empty, ⟨1, []⟩⟩ []
  have hline : ((validate (.dict lineEntries) none).outcome.toOption.map
      fun c => c.modules.map (·.library.outputNamespace)) = some [some "Acme\n"] := by
    decide +kernel
  obtain ⟨c, hc, hspaces⟩ := Option.map_eq_some_iff.1 hline
  obtain ⟨m, hm, hspace⟩ := List.mem_map.1 (hspaces ▸ List.mem_cons_self (a := some "Acme\n"))
  have hc := eq_ok_of_toOption hc
  exact ⟨hname.1 (by decide), c, m, hc, hm, hspace, hvalid c hc m hm _ hspace,
    fun h => h.break_notMem (by decide)⟩

end Configuration

end Interop
