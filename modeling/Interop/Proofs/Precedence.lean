import Interop.CommandLine
import Interop.Configuration.Loading
import Interop.Proofs.Pieces
import Interop.Proofs.Validation

/-!
# Where the values of a configuration come from

A loaded configuration takes the target language, the output directory and the choice of one file
for every module from the command line where it gives them, then from the file, then from the
schema, and everything else from the file or the schema. A relative output directory is seen from
where the file lies if a string of the file names it, and otherwise from the working directory.
-/

namespace Interop

/-- Only a string is the same key as a string. -/
theorem Scalar.sameKey_str_iff {s : Scalar} {name : String} :
    s.sameKey (.str name) = true ↔ s = .str name := by
  cases s <;> simp [sameKey, fraction?]
  split <;> simp_all

namespace Value

/-- What stands in front is found first. -/
theorem lookup_append (key : String) (l l' : List (Scalar × Value)) :
    lookup key (l ++ l') = (lookup key l).or (lookup key l') := by
  simp [lookup, List.find?_append, Option.map_or]

/-- The value of the first entry, if it has the key. -/
theorem lookup_cons_self (key : String) (v : Value) (rest : List (Scalar × Value)) :
    lookup key ((.str key, v) :: rest) = some v := by
  simp [lookup, Scalar.sameKey_str_iff.2]

/-- An entry with another key is passed over. -/
theorem lookup_cons_of_ne {key : String} {k : Scalar} (h : k ≠ .str key) (v : Value)
    (rest : List (Scalar × Value)) : lookup key ((k, v) :: rest) = lookup key rest := by
  simp [lookup, Bool.eq_false_iff.2 (mt Scalar.sameKey_str_iff.1 h)]

/-- The value of a first entry with a string for a key, if that is the key. -/
theorem lookup_cons_str (key name : String) (v : Value) (rest : List (Scalar × Value)) :
    lookup key ((.str name, v) :: rest) = if name = key then some v else lookup key rest := by
  by_cases h : name = key
  · rw [if_pos h, h, lookup_cons_self]
  · rw [if_neg h, lookup_cons_of_ne (by simpa using h)]

/-- A value that was put at a key stands there, and what stands at other keys stays. -/
theorem lookup_insert (key name : String) (v : Value) (entries : List (Scalar × Value)) :
    lookup key (insert (.str name) v entries) =
      if name = key then some v else lookup key entries := by
  induction entries with
  | nil => exact lookup_cons_str key name v []
  | cons e rest ih =>
    obtain ⟨k, old⟩ := e
    rw [insert]
    dsimp only
    split
    · rename_i hk
      obtain rfl := Scalar.sameKey_str_iff.1 hk
      rw [lookup_cons_str, lookup_cons_str]
      split <;> rfl
    · rename_i hk
      have hne : k ≠ .str name := mt Scalar.sameKey_str_iff.2 hk
      by_cases hkey : k = .str key
      · subst hkey
        have hother : name ≠ key := fun he => hne (he ▸ rfl)
        rw [lookup_cons_self, lookup_cons_self, if_neg hother]
      · rw [lookup_cons_of_ne hkey, lookup_cons_of_ne hkey, ih]

end Value

/-- What a command line gives for a key of a configuration. -/
def CommandLine.given (a : Arguments) (key : String) : Option Value :=
  if key = "output_dir" then a.outputDirectory.map (·.toValue .str)
  else if key = "generator_kind" then a.target.map (·.toValue (.str ·.word))
  else if key = "generate_single_csharp_file" then if a.singleFile then some (.bool true) else none
  else none

/-- The last value for a key among those with which a command line overrides a configuration is the
one that it gives. -/
theorem CommandLine.lookup_overrides (a : Arguments) (key : String) :
    Value.lookup key (overrides a).reverse = given a key := by
  obtain ⟨config, output, target, single, verbose, plain⟩ := a
  unfold overrides given
  have hnil : Value.lookup key [] = none := rfl
  cases output <;> cases target <;> cases single <;>
    simp [Value.lookup_cons_str, hnil] <;> grind

namespace Configuration

/-- An entry that overrides one of a file: its value is not null, and its key may be overridden. -/
def IsOverride (e : Scalar × Value) : Prop :=
  ∃ name ∈ overridable, e.1 = .str name ∧ e.2 ≠ .null

/-- An entry that overrides puts its value at its key. -/
theorem override_cons {name : String} {v : Value} (hname : name ∈ overridable) (hv : v ≠ .null)
    (rest entries : List (Scalar × Value)) :
    override ((.str name, v) :: rest) entries =
      override rest (Value.insert (.str name) v entries) := by
  have hover : overridable.contains name = true := List.contains_iff_mem.2 hname
  unfold override
  rw [List.foldl_cons]
  dsimp only
  split
  · exact absurd rfl hv
  · rename_i hkey _
    cases hkey
    rw [if_pos hover]
  · rename_i hkey
    exact absurd rfl (hkey name)

/-- Of the values for a key, the last one that overrides stands, and without one that of the
file. -/
theorem lookup_override {given : List (Scalar × Value)} (h : ∀ e ∈ given, IsOverride e)
    (key : String) (entries : List (Scalar × Value)) :
    Value.lookup key (override given entries) =
      (Value.lookup key given.reverse).or (Value.lookup key entries) := by
  induction given generalizing entries with
  | nil => rfl
  | cons e rest ih =>
    obtain ⟨⟨name, hname, hkey, hv⟩, hrest⟩ := List.forall_mem_cons.1 h
    obtain ⟨k, v⟩ := e
    obtain rfl : k = .str name := hkey
    rw [override_cons hname hv, ih hrest, Value.lookup_insert, List.reverse_cons,
      Value.lookup_append, Option.or_assoc, Value.lookup_cons_str]
    split <;> rfl

/-- What a command line gives overrides. -/
theorem isOverride_of_mem_overrides {a : Arguments} {e : Scalar × Value}
    (h : e ∈ CommandLine.overrides a) : IsOverride e := by
  obtain ⟨config, output, target, single, verbose, plain⟩ := a
  unfold CommandLine.overrides at h
  rcases List.mem_append.1 h with h | h
  · rcases List.mem_append.1 h with h | h
    · obtain ⟨given, -, rfl⟩ := Option.map_eq_some_iff.1 (Option.mem_toList.1 h)
      refine ⟨_, by decide, rfl, ?_⟩
      cases given <;> simp [Given.toValue]
    · obtain ⟨given, -, rfl⟩ := Option.map_eq_some_iff.1 (Option.mem_toList.1 h)
      refine ⟨_, by decide, rfl, ?_⟩
      cases given <;> simp [Given.toValue]
  · cases single with
    | false => exact absurd h List.not_mem_nil
    | true =>
      obtain rfl := List.mem_singleton.1 h
      exact ⟨_, by decide, rfl, by simp⟩

/-- Whether a mapping has at every key what the command line gives, or else what the file holds. -/
def Merges (a : Arguments) (entries merged : List (Scalar × Value)) : Prop :=
  ∀ key, Value.lookup key merged = (CommandLine.given a key).or (Value.lookup key entries)

/-- Overriding merges. -/
theorem merges_override (a : Arguments) (entries : List (Scalar × Value)) :
    Merges a entries (override (CommandLine.overrides a) entries) := by
  intro key
  rw [lookup_override (fun e he => isOverride_of_mem_overrides he), CommandLine.lookup_overrides]

/-- The absolute path of an output directory that is seen from a base; the empty text stays
empty. -/
def settledIn (base : Path) (s : String) : String :=
  if s = "" then "" else (base.resolve (.ofString s)).toString

/-- The names that the file system is asked for to make an output directory absolute that is seen
from a base. -/
def outputNames (base : Path) (s : String) : List String :=
  if s = "" then [] else (base.join (.ofString s)).segments

/-- An output directory that a file names, as it is seen from where the file lies. -/
def seenFrom (home : Path) (s : String) : String :=
  if s.isEmpty || (Path.ofString s).isAbsolute then s else (home.join (.ofString s)).toString

section Outputs

variable {w : Workspace} {path : String} {entries : List (Scalar × Value)}

/-- Settling changes the value at no key but that of the output directory. -/
theorem lookup_settle_of_ne {key : String} (h : key ≠ "output_dir") :
    Value.lookup key (settle w path entries) = Value.lookup key entries := by
  unfold settle
  split
  · split
    · rfl
    · rw [Value.lookup_insert, if_neg (Ne.symm h)]
  · rfl

/-- An output directory that is a string of a file is seen from where the file lies. -/
theorem lookup_settle_of_str {s : String}
    (h : Value.lookup "output_dir" entries = some (.str s)) :
    Value.lookup "output_dir" (settle w path entries) =
      some (.str (seenFrom (homeOf w path) s)) := by
  unfold settle seenFrom
  rw [h]
  dsimp only
  split
  · exact h
  · rw [Value.lookup_insert, if_pos rfl]

/-- Entries without a string for the output directory are settled already. -/
theorem settle_of_ne (h : ∀ s, Value.lookup "output_dir" entries ≠ some (.str s)) :
    settle w path entries = entries := by
  unfold settle
  split
  · rename_i s hs
    exact absurd hs (h s)
  · rfl

/-- The directory of a file in a proper directory is a proper path from the root. -/
theorem exists_homeOf (hw : w.directory.IsProper) (path : String) :
    ∃ segments, homeOf w path = ⟨1, segments⟩ ∧ (Path.mk 1 segments).IsProper :=
  ⟨_, rfl, (hw.resolve (Path.isProper_ofString path)).parent⟩

/-- An output directory that was seen from where a file lies means the same seen from any directory.
The text of its path from the root is read back as the joined path. -/
theorem settled_seenFrom {home : Path} {segments : List String} (hhome : home = ⟨1, segments⟩)
    (hproper : home.IsProper) (directory : Path) (s : String) :
    settledIn directory (seenFrom home s) = settledIn home s ∧
      outputNames directory (seenFrom home s) = outputNames home s := by
  unfold seenFrom
  by_cases hempty : s = ""
  · simp [hempty, settledIn, outputNames]
  by_cases habsolute : (Path.ofString s).isAbsolute = true
  · simp [habsolute, settledIn, outputNames, Path.resolve, Path.join_of_isAbsolute habsolute]
  · have hjoin : home.join (.ofString s) = ⟨1, segments ++ (Path.ofString s).segments⟩ := by
      rw [Path.join, if_neg habsolute, hhome]
    have hread : Path.ofString (home.join (.ofString s)).toString = home.join (.ofString s) := by
      have hp := hproper.join (Path.isProper_ofString s)
      rw [hjoin] at hp ⊢
      exact Path.ofString_toString_of_root hp
    have hne : (home.join (.ofString s)).toString ≠ "" := by
      intro he
      have hchars := congrArg String.toList he
      rw [hjoin, Path.toList_toString_of_root] at hchars
      cases hchars
    rw [if_neg (by simp [hempty, habsolute])]
    have hroot : directory.join (home.join (.ofString s)) = home.join (.ofString s) :=
      Path.join_of_isAbsolute (by rw [hjoin]; rfl)
    unfold settledIn outputNames Path.resolve
    rw [if_neg hne, if_neg hempty, if_neg hne, if_neg hempty, hread, hroot]
    exact ⟨rfl, rfl⟩

/-- All names of a list can be asked for, or one of them cannot and the check ends by its fault. -/
theorem checkPaths_cases (names : List String) :
    ((∀ name ∈ names, FileTree.checkPath name = .ok ()) ∧
      (forIn names PUnit.unit (fun name _ => do
        FileTree.checkPath name
        pure (ForInStep.yield PUnit.unit)) : Except FileFault PUnit) = .ok ()) ∨
    ∃ name ∈ names, ∃ fault, FileTree.checkPath name = .error fault ∧
      (forIn names PUnit.unit (fun name _ => do
        FileTree.checkPath name
        pure (ForInStep.yield PUnit.unit)) : Except FileFault PUnit) = .error fault := by
  induction names with
  | nil => exact .inl ⟨nofun, rfl⟩
  | cons name rest ih =>
    rw [List.forIn_cons]
    cases hname : FileTree.checkPath name with
    | error fault => exact .inr ⟨name, List.mem_cons_self, fault, hname, rfl⟩
    | ok u =>
      rcases ih with ⟨hall, hloop⟩ | ⟨other, hmem, fault, hother, hloop⟩
      · exact .inl ⟨List.forall_mem_cons.2 ⟨hname, hall⟩, hloop⟩
      · exact .inr ⟨other, List.mem_cons_of_mem name hmem, fault, hother, hloop⟩

/-- An output directory is made absolute if all names on the way can be asked for, and otherwise the
fault is that of one of them. -/
theorem settledOutput_cases (hw : w.directory.isAbsolute = true) (s : String) :
    ((∀ name ∈ outputNames w.directory s, FileTree.checkPath name = .ok ()) ∧
      settledOutput w s = .ok (settledIn w.directory s)) ∨
    ∃ name ∈ outputNames w.directory s, ∃ fault, FileTree.checkPath name = .error fault ∧
      settledOutput w s = .error fault := by
  by_cases hempty : s = ""
  · subst hempty
    exact .inl ⟨nofun, rfl⟩
  · have hresolve : w.directory.resolve (w.directory.join (.ofString s)) =
        w.directory.resolve (.ofString s) := by
      have hroot : (w.directory.join (.ofString s)).isAbsolute = true := by
        unfold Path.join
        split
        · assumption
        · exact hw
      rw [Path.resolve, Path.join_of_isAbsolute hroot]
      rfl
    unfold settledOutput settledIn outputNames
    rw [if_neg hempty, if_neg hempty, ← hresolve, if_neg (by simpa using hempty)]
    dsimp only
    rcases checkPaths_cases (w.directory.join (.ofString s)).segments with
      ⟨hall, hloop⟩ | ⟨name, hmem, fault, hname, hloop⟩
    · exact .inl ⟨hall, Except.bind_eq_ok_iff.2 ⟨_, hloop, rfl⟩⟩
    · refine .inr ⟨name, hmem, fault, hname, ?_⟩
      rw [hloop]
      rfl

end Outputs

section Checks

variable {m m' : List (Scalar × Value)}

/-- What the schema finds depends on the values at keys alone. -/
theorem check_congr (h : ∀ key, Value.lookup key m = Value.lookup key m') :
    check (.dict m) = check (.dict m') := by
  simp only [check, Value.opened_dict, checkParts, optional, h]

/-- Two checks with a sound part between them find what they find without it, and that part. -/
theorem Check.both_ok_both {α β γ : Type} (p : Check α) (b : β) (q : Check γ) :
    p.both (Check.both (.ok b) q) = (p.both q).map fun r => (r.1, b, r.2) := by
  cases p <;> cases q <;> rfl

/-- Two mappings that differ in a sound output directory alone are checked alike. -/
theorem check_of_outputs {o o' : Option String}
    (hrest : ∀ key, key ≠ "output_dir" → Value.lookup key m' = Value.lookup key m)
    (ho : optional "output_dir" m (some usualOutputDirectory) checkText = .ok o)
    (ho' : optional "output_dir" m' (some usualOutputDirectory) checkText = .ok o') :
    check (.dict m') = (check (.dict m)).map ({ · with outputDirectory := o' }) ∧
      ∀ c, check (.dict m) = .ok c → c.outputDirectory = o := by
  have hother : ∀ {α : Type} {key : String}, key ≠ "output_dir" → ∀ (fallback : α)
      (check : List String → Value → Check α),
      optional key m' fallback check = optional key m fallback check := by
    intro α key hkey fallback check
    unfold optional
    rw [hrest key hkey]
  simp only [check, Value.opened_dict, checkParts]
  rw [ho, ho', hother (by decide), hother (by decide), hother (by decide), hother (by decide),
    hrest "modules" (by decide), Check.both_ok_both, Check.both_ok_both]
  generalize (optional "generator_kind" m .csharp checkTarget).both _ = parts
  cases parts with
  | error problems =>
    refine ⟨rfl, fun c hc => ?_⟩
    cases hc
  | ok r =>
    obtain ⟨target, single, policy, modules, base⟩ := r
    simp only [Except.map, bind, Except.bind]
    cases repeated? [] (modules.map (·.library.name)) with
    | some name =>
      refine ⟨rfl, fun c hc => ?_⟩
      cases hc
    | none =>
      refine ⟨rfl, fun c hc => ?_⟩
      cases hc
      rfl

/-- Two mappings that differ in the string for the output directory alone are checked alike, but for
that string. -/
theorem check_of_seen {s : String} {seen : String → String}
    (hrest : ∀ key, key ≠ "output_dir" → Value.lookup key m' = Value.lookup key m)
    (h : Value.lookup "output_dir" m = some (.str s))
    (h' : Value.lookup "output_dir" m' = some (.str (seen s))) :
    check (.dict m') = (check (.dict m)).map
      fun c => { c with outputDirectory := c.outputDirectory.map seen } := by
  have hread : ∀ {entries : List (Scalar × Value)} {t : String},
      Value.lookup "output_dir" entries = some (.str t) →
      optional "output_dir" entries (some usualOutputDirectory) checkText = .ok (some t) := by
    intro entries t ht
    rw [optional, ht]
    rfl
  obtain ⟨hcheck, houtput⟩ := check_of_outputs hrest (hread h) (hread h')
  rw [hcheck]
  cases hc : check (.dict m) with
  | error problems => rfl
  | ok c => simp only [Except.map, houtput c hc, Option.map_some]

end Checks

section Loading

variable {w : Workspace} {path : String} {entries : List (Scalar × Value)}

/-- Whether a path leads to a file that can be read and holds a mapping. -/
def HoldsMapping (w : Workspace) (path : String) (entries : List (Scalar × Value)) : Prop :=
  ∃ content v, w.read? (.ofString path) = some content ∧ Yaml.read content = .ok v ∧
    v.opened = .dict entries

/-- The entries of such a file are read. -/
theorem outcome_fileEntries (h : HoldsMapping w path entries) :
    (fileEntries w path).outcome = .ok entries := by
  obtain ⟨content, v, hcontent, hread, hopened⟩ := h
  unfold fileEntries mapping
  rw [hcontent]
  dsimp only
  rw [hread]
  dsimp only
  rw [hopened]
  rfl

/-- A configuration with a file is loaded by checking what the command line makes of the settled
entries, and then making its directories absolute. -/
theorem outcome_load (hpath : path ≠ "") (h : HoldsMapping w path entries)
    (given : List (Scalar × Value)) :
    (load w (some path) given).outcome =
      (validate (.dict (override given (settle w path entries))) (some path)).outcome >>=
        anchor w (some path) := by
  have hfile : (some path).filter (!·.isEmpty) = some path := by simp [hpath]
  have hentries : (settle w path <$> fileEntries w path).outcome = .ok (settle w path entries) :=
    Logged.bind_of_ok (outcome_fileEntries h) _
  unfold load
  rw [hfile]
  simp only [Logged.outcome_bind, Logged.outcome_log, hentries, Logged.ofExcept]
  dsimp only [bind, Except.bind]
  cases (validate (.dict (override given (settle w path entries))) (some path)).outcome with
  | error fault => rfl
  | ok c =>
    dsimp only
    cases anchor w (some path) c <;> rfl

end Loading

/-- The directory that an output directory is seen from: where the file lies if a string of the file
names it and the command line gives none, and otherwise the working directory. -/
def outputBase (w : Workspace) (path : String) (a : Arguments) (entries : List (Scalar × Value)) :
    Path :=
  match a.outputDirectory, Value.lookup "output_dir" entries with
  | none, some (.str _) => homeOf w path
  | _, _ => w.directory

/-- A configuration with absolute directories. -/
def anchoredIn (base home : Path) (c : Configuration) : Configuration :=
  { c with
    outputDirectory := c.outputDirectory.map (settledIn base)
    baseDirectory := some home.toString }

/-- What the fields of a configuration say of the mapping that it was read from. -/
structure IsFilledFrom (merged : List (Scalar × Value)) (c : Configuration) : Prop where
  /-- The target language is C# or the one whose word is given. -/
  target : Filled .csharp (fun v t => v = .str t.word) (Value.lookup "generator_kind" merged)
    c.target
  /-- The output directory is the usual one or the text that is given. -/
  output : Filled (some usualOutputDirectory) (fun v o => checkText ["output_dir"] v = .ok o)
    (Value.lookup "output_dir" merged) c.outputDirectory
  /-- There are files for units unless a truth value is given that says otherwise. -/
  single : Filled false (fun v b => readBool v = .ok b)
    (Value.lookup "generate_single_csharp_file" merged) c.singleFile
  /-- The policy is to stop or the one whose word is given. -/
  policy : Filled .stop (fun v p => v = .str p.word) (Value.lookup "empty_output_policy" merged)
    c.policy
  /-- The modules are those that are given. -/
  modules : checkModules ["modules"] (Value.lookup "modules" merged) = .ok c.modules

section Loaded

variable {w : Workspace} {path : String} {a : Arguments} {entries merged : List (Scalar × Value)}

/-- A sound configuration is filled from its mapping. -/
theorem isFilledFrom_of_check {c : Configuration} (h : check (.dict merged) = .ok c) :
    IsFilledFrom merged c := by
  simp only [check, Value.opened_dict] at h
  obtain ⟨d, hparts, h⟩ := Except.bind_eq_ok_iff.1 h
  obtain rfl : d = c := by
    split at h
    · cases h
    · exact Except.ok.inj h
  obtain ⟨⟨target, output, single, policy, modules, base⟩, hboth, rfl⟩ :=
    Check.map_eq_ok_iff.1 hparts
  obtain ⟨ht, hboth⟩ := Check.both_eq_ok_iff.1 hboth
  obtain ⟨ho, hboth⟩ := Check.both_eq_ok_iff.1 hboth
  obtain ⟨hs, hboth⟩ := Check.both_eq_ok_iff.1 hboth
  obtain ⟨hp, hboth⟩ := Check.both_eq_ok_iff.1 hboth
  exact ⟨(optional_eq_ok_iff fun _ _ _ => checkTarget_eq_ok_iff).1 ht,
    (optional_eq_ok_iff fun _ _ _ => Iff.rfl).1 ho,
    (optional_eq_ok_iff fun _ _ _ => complainAt_eq_ok_iff).1 hs,
    (optional_eq_ok_iff fun _ _ _ => checkPolicy_eq_ok_iff).1 hp,
    (Check.both_eq_ok_iff.1 hboth).1⟩

/-- What the command line makes of the settled entries has the merged values, but for the output
directory. -/
theorem lookup_overridden_of_ne {key : String} (hm : Merges a entries merged)
    (h : key ≠ "output_dir") :
    Value.lookup key (override (CommandLine.overrides a) (settle w path entries)) =
      Value.lookup key merged := by
  rw [merges_override, hm, lookup_settle_of_ne h]

/-- An output directory that is a string of the file and stands is seen from where the file lies. -/
theorem lookup_overridden_of_str {s : String} (hm : Merges a entries merged)
    (hnone : a.outputDirectory = none) (hs : Value.lookup "output_dir" entries = some (.str s)) :
    Value.lookup "output_dir" merged = some (.str s) ∧
      Value.lookup "output_dir" (override (CommandLine.overrides a) (settle w path entries)) =
        some (.str (seenFrom (homeOf w path) s)) := by
  have hgiven : CommandLine.given a "output_dir" = none := by simp [CommandLine.given, hnone]
  rw [hm, merges_override, hgiven, hs, lookup_settle_of_str hs]
  exact ⟨rfl, rfl⟩

/-- Any other output directory is the merged one. -/
theorem lookup_overridden_of_not (hm : Merges a entries merged)
    (h : ¬ (a.outputDirectory = none ∧ ∃ s, Value.lookup "output_dir" entries = some (.str s))) :
    Value.lookup "output_dir" (override (CommandLine.overrides a) (settle w path entries)) =
      Value.lookup "output_dir" merged := by
  rw [merges_override, hm]
  cases hnone : a.outputDirectory with
  | some given =>
    have hgiven : CommandLine.given a "output_dir" = some (given.toValue .str) := by
      simp [CommandLine.given, hnone]
    rw [hgiven]
    rfl
  | none => rw [settle_of_ne fun s hs => h ⟨hnone, s, hs⟩]

/-- What the command line makes of the settled entries is checked like the merged mapping, but for
the output directory, which already is seen from its base. A string of the file is replaced by what
it means where the file lies; any other value is the merged one and is seen from the working
directory. -/
theorem exists_seen (hproper : w.directory.IsProper) (path : String)
    (hm : Merges a entries merged) :
    ∃ seen : String → String,
      check (.dict (override (CommandLine.overrides a) (settle w path entries))) =
        (check (.dict merged)).map
          (fun c => { c with outputDirectory := c.outputDirectory.map seen }) ∧
      ∀ s, settledIn w.directory (seen s) = settledIn (outputBase w path a entries) s ∧
        outputNames w.directory (seen s) = outputNames (outputBase w path a entries) s := by
  by_cases hfile : a.outputDirectory = none ∧ ∃ s, Value.lookup "output_dir" entries = some (.str s)
  · obtain ⟨hnone, s, hs⟩ := hfile
    obtain ⟨hmerged, hseen⟩ := lookup_overridden_of_str hm hnone hs
    have hbase : outputBase w path a entries = homeOf w path := by rw [outputBase, hnone, hs]
    obtain ⟨segments, hhome, hsegments⟩ := exists_homeOf hproper path
    refine ⟨seenFrom (homeOf w path),
      check_of_seen (fun key hkey => lookup_overridden_of_ne hm hkey) hmerged hseen, fun t => ?_⟩
    rw [hbase]
    exact settled_seenFrom hhome (hhome ▸ hsegments) w.directory t
  · have hsame : ∀ key, Value.lookup key
        (override (CommandLine.overrides a) (settle w path entries)) = Value.lookup key merged := by
      intro key
      by_cases hkey : key = "output_dir"
      · exact hkey ▸ lookup_overridden_of_not hm hfile
      · exact lookup_overridden_of_ne hm hkey
    have hbase : outputBase w path a entries = w.directory := by
      unfold outputBase
      split
      · rename_i s hnone hs
        exact absurd ⟨hnone, s, hs⟩ hfile
      · rfl
    refine ⟨id, ?_, fun t => ?_⟩
    · rw [check_congr hsame]
      cases check (.dict merged) with
      | error problems => rfl
      | ok c => simp [Except.map]
    · rw [hbase]
      exact ⟨rfl, rfl⟩

/-- The directories of a configuration are made absolute if all names on the way to the output
directory can be asked for, and otherwise the fault is that of one of them. -/
theorem anchor_cases (hw : w.directory.isAbsolute = true) (path : String) (c : Configuration) :
    ((∀ s, c.outputDirectory = some s →
        ∀ name ∈ outputNames w.directory s, FileTree.checkPath name = .ok ()) ∧
      anchor w (some path) c = .ok (anchoredIn w.directory (homeOf w path) c)) ∨
    ∃ s, c.outputDirectory = some s ∧ ∃ name ∈ outputNames w.directory s, ∃ fault,
      FileTree.checkPath name = .error fault ∧ anchor w (some path) c = .error (.file fault) := by
  unfold anchor anchoredIn
  cases ho : c.outputDirectory with
  | none => exact .inl ⟨nofun, rfl⟩
  | some s =>
    rcases settledOutput_cases hw s with ⟨hall, hok⟩ | ⟨name, hmem, fault, hname, herror⟩
    · refine .inl ⟨fun t ht => Option.some.inj ht ▸ hall, ?_⟩
      simp only [Option.mapM_some, hok]
      rfl
    · refine .inr ⟨s, rfl, name, hmem, fault, hname, ?_⟩
      simp only [Option.mapM_some, herror]
      rfl

/-- What is seen from its base is anchored in the working directory as it is in its base. -/
theorem anchoredIn_seen {directory base home : Path} {seen : String → String}
    (h : ∀ s, settledIn directory (seen s) = settledIn base s) (c : Configuration) :
    anchoredIn directory home { c with outputDirectory := c.outputDirectory.map seen } =
      anchoredIn base home c := by
  have hmap : (c.outputDirectory.map seen).map (settledIn directory) =
      c.outputDirectory.map (settledIn base) := by
    rw [Option.map_map]
    exact congrArg (c.outputDirectory.map ·) (funext h)
  unfold anchoredIn
  rw [hmap]

/-- How a load with a file that holds a mapping ends: by the problems with the merged mapping, with
the merged configuration, or by the fault of a name on the way to its output directory. -/
theorem outcome_load_cases (habsolute : w.directory.isAbsolute = true)
    (hproper : w.directory.IsProper) (hpath : path ≠ "") (hfile : HoldsMapping w path entries)
    (hm : Merges a entries merged) :
    (∃ problems, check (.dict merged) = .error problems ∧
      (load w (some path) (CommandLine.overrides a)).outcome =
        .error (if problems.all Problem.isTellable then invalid (some path) problems
          else .file .halfCharacter)) ∨
    ∃ c, check (.dict merged) = .ok c ∧
      ((∀ s, c.outputDirectory = some s → ∀ name ∈ outputNames (outputBase w path a entries) s,
          FileTree.checkPath name = .ok ()) ∧
        (load w (some path) (CommandLine.overrides a)).outcome =
          .ok (anchoredIn (outputBase w path a entries) (homeOf w path) c) ∨
      ∃ s, c.outputDirectory = some s ∧
        ∃ name ∈ outputNames (outputBase w path a entries) s, ∃ fault,
          FileTree.checkPath name = .error fault ∧
          (load w (some path) (CommandLine.overrides a)).outcome = .error (.file fault)) := by
  obtain ⟨seen, hcheck, hseen⟩ := exists_seen hproper path hm
  rw [outcome_load hpath hfile]
  unfold validate
  rw [hcheck]
  cases hc : check (.dict merged) with
  | error problems =>
    refine .inl ⟨problems, rfl, ?_⟩
    simp only [Except.map]
    split <;> rfl
  | ok c =>
    refine .inr ⟨c, rfl, ?_⟩
    simp only [Except.map]
    rcases anchor_cases habsolute path
      { c with outputDirectory := c.outputDirectory.map seen } with
      ⟨hall, hok⟩ | ⟨t, ht, name, hname, fault, hfault, herror⟩
    · refine .inl ⟨fun s hs name hname => ?_, ?_⟩
      · exact hall (seen s) (by rw [hs]; rfl) name ((hseen s).2 ▸ hname)
      · exact hok.trans (congrArg _ (anchoredIn_seen (fun s => (hseen s).1) c))
    · obtain ⟨s, hs, rfl⟩ := Option.map_eq_some_iff.1 ht
      exact .inr ⟨s, hs, name, (hseen s).2 ▸ hname, fault, hfault, herror⟩

/-- A load with a file that holds a mapping comes to a configuration exactly if the merged mapping
is valid and all names on the way to its output directory can be asked for. The configuration is the
merged one with absolute directories: the output directory is seen from where the file lies if a
string of the file names it and the command line gives none, and otherwise from the working
directory. A merged mapping that is not valid is reported with its problems, unless one of them
cannot be told. Texts and paths with one of the private characters that stand in for halves are left
out: they are taken for texts with halves. -/
theorem outcome_load_of_merges (habsolute : w.directory.isAbsolute = true)
    (hproper : w.directory.IsProper) (hpath : path ≠ "") (hfile : HoldsMapping w path entries)
    (hm : Merges a entries merged) :
    let base := outputBase w path a entries
    let valid := fun c => (validate (.dict merged) (some path)).outcome = .ok c
    let r := (load w (some path) (CommandLine.overrides a)).outcome
    (∀ d, r = .ok d ↔ ∃ c, valid c ∧ (∀ s, c.outputDirectory = some s →
      ∀ name ∈ outputNames base s, FileTree.checkPath name = .ok ()) ∧
      d = anchoredIn base (homeOf w path) c) ∧
    (∀ fault, r = .error fault →
      (∃ problems, check (.dict merged) = .error problems ∧
        if problems.all Problem.isTellable then fault = invalid (some path) problems
        else fault = .file .halfCharacter) ∨
      ∃ c s, valid c ∧ c.outputDirectory = some s ∧ ∃ name ∈ outputNames base s, ∃ reason,
        FileTree.checkPath name = .error reason ∧ fault = .file reason) ∧
    ∀ c, valid c → IsFilledFrom merged c := by
  intro base valid r
  have hvalid : ∀ c, valid c ↔ check (.dict merged) = .ok c :=
    fun c => outcome_validate_eq_ok_iff
  have hcases := outcome_load_cases habsolute hproper hpath hfile hm
  refine ⟨fun d => ⟨fun hd => ?_, ?_⟩, fun fault hfault => ?_,
    fun c hc => isFilledFrom_of_check ((hvalid c).1 hc)⟩
  · rcases hcases with ⟨problems, -, hr⟩ | ⟨c, hc, ⟨hall, hr⟩ | ⟨s, -, name, -, reason, -, hr⟩⟩
    · cases hd.symm.trans hr
    · exact ⟨c, (hvalid c).2 hc, hall, Except.ok.inj (hd.symm.trans hr)⟩
    · cases hd.symm.trans hr
  · rintro ⟨c, hc, hall, rfl⟩
    have hc := (hvalid c).1 hc
    rcases hcases with ⟨problems, hp, -⟩ |
      ⟨c', hc', ⟨-, hr⟩ | ⟨s, hs, name, hname, reason, hreason, -⟩⟩
    · cases hc.symm.trans hp
    · obtain rfl := Except.ok.inj (hc.symm.trans hc')
      exact hr
    · obtain rfl := Except.ok.inj (hc.symm.trans hc')
      cases (hall s hs name hname).symm.trans hreason
  · rcases hcases with ⟨problems, hp, hr⟩ |
      ⟨c, hc, ⟨-, hr⟩ | ⟨s, hs, name, hname, reason, hreason, hr⟩⟩
    · have hsame := Except.error.inj (hfault.symm.trans hr)
      refine .inl ⟨problems, hp, ?_⟩
      split
      case isTrue htellable => rwa [if_pos htellable] at hsame
      case isFalse htellable => rwa [if_neg htellable] at hsame
    · cases hfault.symm.trans hr
    · exact .inr ⟨c, s, (hvalid c).2 hc, hs, name, hname, reason, hreason,
        Except.error.inj (hfault.symm.trans hr)⟩

end Loaded

/-- A result that is kept as an option is the result. -/
theorem eq_ok_of_toOption {ε α : Type} {r : Except ε α} {a : α} (h : r.toOption = some a) :
    r = .ok a := by
  cases r with
  | error e => cases h
  | ok b => exact congrArg Except.ok (Option.some.inj h)

/-- The entries of the mapping in the file that a path leads to. -/
def heldEntries? (w : Workspace) (path : String) : Option (List (Scalar × Value)) :=
  (w.read? (.ofString path)).bind fun content =>
    (Yaml.read content).toOption.bind fun v =>
      match v.opened with
      | .dict entries => some entries
      | _ => none

/-- Entries that are found in a file are held by it. -/
theorem holdsMapping_of_heldEntries {w : Workspace} {path : String}
    {entries : List (Scalar × Value)} (h : heldEntries? w path = some entries) :
    HoldsMapping w path entries := by
  obtain ⟨content, hcontent, h⟩ := Option.bind_eq_some_iff.1 h
  obtain ⟨v, hv, h⟩ := Option.bind_eq_some_iff.1 h
  refine ⟨content, v, hcontent, eq_ok_of_toOption hv, ?_⟩
  split at h
  case h_1 hopened => rw [hopened, Option.some.inj h]
  case h_2 => cases h

/-- Two files in a directory beside the files of a run: in one the target language is a number, in
the other the output directory is written as bytes. -/
def mixedWorkspace : Workspace :=
  ⟨⟨[["work"], ["work", "conf"]], [
    (["work", "conf", "c.yaml"],
      "generator_kind: 5\noutput_dir: out\nmodules:\n- library_name: Core\n"),
    (["work", "conf", "b.yaml"],
      "output_dir: !!binary b3V0\nmodules:\n- library_name: Core\n")]⟩, ⟨1, ["work"]⟩⟩

/-- A command line that gives a target language. -/
def mixedArguments : Arguments :=
  ⟨.value "conf/c.yaml", none, some (.value .cppCli), false, false, false⟩

/-- In this workspace the given target language stands, an output directory that is a string is seen
from where its file lies, and one that is written as bytes from the working directory. -/
theorem outcome_load_of_merges_mixed :
    (∃ d, (load mixedWorkspace (some "conf/c.yaml")
        (CommandLine.overrides mixedArguments)).outcome = .ok d ∧
      d.target = .cppCli ∧ d.outputDirectory = some "/work/conf/out" ∧
      d.baseDirectory = some "/work/conf") ∧
    ∃ d, (load mixedWorkspace (some "conf/b.yaml")
        (CommandLine.overrides mixedArguments)).outcome = .ok d ∧
      d.target = .cppCli ∧ d.outputDirectory = some "/work/out" ∧
      d.baseDirectory = some "/work/conf" := by
  have hproper : mixedWorkspace.directory.IsProper := by
    intro s hs
    obtain rfl := List.mem_singleton.1 hs
    decide
  have hload : ∀ path base, path ≠ "" →
      ((heldEntries? mixedWorkspace path).bind fun entries =>
        (validate (.dict (override (CommandLine.overrides mixedArguments) entries))
            (some path)).outcome.toOption.map fun c =>
          (c.target, c.outputDirectory, outputBase mixedWorkspace path mixedArguments entries)) =
        some (.cppCli, some "out", base) →
      (∀ name ∈ outputNames base "out", FileTree.checkPath name = .ok ()) →
      ∃ d, (load mixedWorkspace (some path)
          (CommandLine.overrides mixedArguments)).outcome = .ok d ∧
        d.target = .cppCli ∧ d.outputDirectory = some (settledIn base "out") ∧
        d.baseDirectory = some (homeOf mixedWorkspace path).toString := by
    intro path base hpath h hnames
    obtain ⟨entries, hentries, h⟩ := Option.bind_eq_some_iff.1 h
    obtain ⟨c, hc, h⟩ := Option.map_eq_some_iff.1 h
    simp only [Prod.mk.injEq] at h
    obtain ⟨htarget, hout, rfl⟩ := h
    refine ⟨_, ((outcome_load_of_merges rfl hproper hpath (holdsMapping_of_heldEntries hentries)
      (merges_override mixedArguments entries)).1 _).2 ⟨c, eq_ok_of_toOption hc, ?_, rfl⟩,
      htarget, ?_, rfl⟩
    · intro s hs name hname
      obtain rfl : "out" = s := Option.some.inj (hout.symm.trans hs)
      exact hnames name hname
    · exact congrArg (Option.map _) hout
  obtain ⟨d, hd, hdt, hdo, hdb⟩ := hload "conf/c.yaml" ⟨1, ["work", "conf"]⟩ (by decide)
    (by decide +kernel) (by decide +kernel)
  obtain ⟨e, he, het, heo, heb⟩ := hload "conf/b.yaml" ⟨1, ["work"]⟩ (by decide)
    (by decide +kernel) (by decide +kernel)
  exact ⟨⟨d, hd, hdt, hdo.trans (by decide +kernel), hdb.trans (by decide +kernel)⟩,
    e, he, het, heo.trans (by decide +kernel), heb.trans (by decide +kernel)⟩

end Configuration

end Interop
